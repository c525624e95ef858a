import Microscope.Data.Checks
import Microscope.Polling.Failing
import Microscope.Polling.Rehearsal

namespace Microscope.Polling

open Std Microscope.Data Microscope.Shipped

/-! # Restarts without progress

A process that loads a checkpoint saves the rewound cursors before its first
poll.  When its polls fail, the file keeps those, and the next process rewinds
them again.
-/

variable {Signature : Type} [LinearOrder Signature] [SignatureText Signature]
  {surroundings : Surroundings} {codec : JsonCodec} {datasource : RpcPollingDatasource}
  {addresses : List Address} {pages : Nat} {store : CheckpointStore}
  {before after started site : Site Signature} {loop next begun refreshed : PollingLoop Signature}
  {trace : List (CallEvent Signature)} {raw : Bytes} {cursors : ExtTreeMap String Slot}
  {snapshot : CheckpointSnapshot Signature}

/-! ## Stored cursors -/

/-- The cursors in a checkpoint file. -/
def storedCursors (codec : JsonCodec) (content : Option Bytes) : Option (ExtTreeMap String Slot) := do
  let raw ← content
  let json ← (codec.fromSlice raw).toOption
  let document ← (CheckpointDocument.fromJson json).toOption
  return document.cursors

/-- The file holds a valid checkpoint with these cursors. -/
def Stores (Signature : Type) [LinearOrder Signature] [SignatureText Signature] (store : CheckpointStore)
    (codec : JsonCodec) (content : Option Bytes) (cursors : ExtTreeMap String Slot) : Prop :=
  storedCursors codec content = some cursors ∧ ∃ raw, content = some raw ∧
    ∃ snapshot : CheckpointSnapshot Signature, store.interpret codec raw = .ok (.loaded snapshot)

theorem parseRecentSignatures_bounded {recentSignatures : ExtTreeMap String Slot}
    {parsed : ExtTreeMap Signature Slot}
    (bounded : ∀ (signature : String) (slot : Slot), recentSignatures[signature]? = some slot →
      slot ≤ u64Max)
    (parses : CheckpointStore.parseRecentSignatures recentSignatures = .ok parsed) :
    ∀ (signature : Signature) (slot : Slot), parsed[signature]? = some slot → slot ≤ u64Max := by
  unfold CheckpointStore.parseRecentSignatures at parses
  cases entries : (recentSignatures.toList.mapM CheckpointStore.parseRecentSignature :
      Except String (List (Signature × Slot))) with
  | error error =>
      rw [entries] at parses
      cases parses
  | ok read =>
      rw [entries] at parses
      cases parses
      intro signature slot found
      rcases OrderedMap.getElem?_insertAll found with member | absent
      · obtain ⟨⟨encoded, stored⟩, inside, same⟩ := (mem_mapM_accepts entries).mp member
        have kept : stored = slot := by
          unfold CheckpointStore.parseRecentSignature at same
          dsimp only at same
          split at same
          · cases same
          · cases same
            rfl
        exact kept ▸ bounded encoded stored (ExtTreeMap.mem_toList_iff_getElem?_eq_some.mp inside)
      · simp at absent

/-- A loaded checkpoint has the stored cursors, rewound, of all addresses. -/
theorem interpret_loaded (loads : store.interpret codec raw = .ok (.loaded snapshot)) :
    snapshot.Bounded ∧ snapshot.cursors.keys = store.identity.addresses ∧
      ∃ cursors, storedCursors codec (some raw) = some cursors ∧
        snapshot.cursors = store.rewindCursors cursors := by
  unfold CheckpointStore.interpret at loads
  cases parsed : codec.fromSlice raw with
  | error error =>
      rw [parsed] at loads
      cases loads
  | ok json =>
  rw [parsed] at loads
  dsimp only at loads
  cases read : CheckpointDocument.fromJson json with
  | error error =>
      rw [read] at loads
      cases loads
  | ok document =>
  rw [read] at loads
  dsimp only at loads
  have bounded := fromJson_bounded read
  cases valid : store.validateIdentity document with
  | error mismatch =>
      rw [valid] at loads
      cases loads
  | ok _ =>
  rw [valid] at loads
  dsimp only [bind, Except.bind] at loads
  split at loads
  · cases loads
  rename_i complete
  cases recents : (CheckpointStore.parseRecentSignatures document.recentSignatures :
      Except String (ExtTreeMap Signature Slot)) with
  | error reason =>
      rw [recents] at loads
      cases loads
  | ok recentSignatures =>
  rw [recents] at loads
  dsimp only at loads
  cases quarantined : (CheckpointStore.parseQuarantinedSignatures document.quarantinedSignatures :
      Except String (ExtTreeSet Signature)) with
  | error reason =>
      rw [quarantined] at loads
      cases loads
  | ok quarantinedSignatures =>
  rw [quarantined] at loads
  cases loads
  refine ⟨⟨?_, parseRecentSignatures_bounded bounded.recentSignatures recents⟩, ?_, document.cursors, ?_, rfl⟩
  · intro address cursor found
    simp only [CheckpointStore.rewindCursors, ExtTreeMap.getElem?_map, Option.map_eq_some_iff] at found
    obtain ⟨slot, stored, rfl⟩ := found
    exact (Nat.sub_le _ _).trans (bounded.cursors address slot stored)
  · exact ExtTreeMap.keys_map.trans (not_not.mp complete)
  · simp [storedCursors, parsed, read, Except.toOption]

theorem storedCursors_encode (bounded : snapshot.Bounded) :
    storedCursors codec (some (store.encode codec snapshot)) =
      some (snapshot.cursors.map fun _ cursor => cursor.scannedSlot) := by
  have documentBounded := CheckpointStore.document_bounded store bounded
  have read : storedCursors codec (some (store.encode codec snapshot)) =
      some (store.document snapshot).cursors := by
    simp [storedCursors, CheckpointStore.encode, codec.fromSlice_toVecPretty _ documentBounded,
      fromJson_toJson documentBounded, Except.toOption]
  exact read

/-! ## One process -/

/-- The poll of a round fails, if the round has one. -/
def PollFails (codec : JsonCodec) (datasource : RpcPollingDatasource) (addresses : List Address)
    (control : Consumption Signature) (trace : List (CallEvent Signature))
    (next : Consumption Signature) : Prop :=
  ∀ loop, control = .polling loop → ∃ failure later, next = .polling later ∧
    Completes codec datasource addresses loop trace (.error failure) later

/-- A failing poll leaves the cursors alone when every address has one. -/
theorem failing_poll_keeps_cursors {failure : PollError Signature} {earlier reached : PollingState Signature}
    (ends : Action.Ends (poll pages datasource addresses) earlier trace (.error failure) reached)
    (answered : Program.Allowed Call.Answered trace)
    (complete : ∀ address ∈ addresses, address ∈ earlier.cursors) :
    reached.cursors = earlier.cursors := by
  obtain ⟨kept, added, _⟩ := failing_poll_advances_nothing ends answered
  refine ExtTreeMap.ext_getElem? fun address => ?_
  cases present : earlier.cursors[address]? with
  | some cursor => exact kept address cursor present
  | none =>
      cases later : reached.cursors[address]? with
      | none => rfl
      | some cursor =>
          have monitored := (added address cursor present later).1
          have missing : address ∉ earlier.cursors := by
            rw [ExtTreeMap.mem_iff_isSome_getElem?, present]
            simp
          exact absurd (complete address monitored) missing

/-- The loop has made no progress since it began. -/
structure Stalls (begun loop : PollingLoop Signature) : Prop where
  identity : loop.checkpoint.identity = begun.checkpoint.identity
  live : loop.state.cursors = begun.state.cursors
  processed : loop.processedState.cursors = begun.state.cursors
  liveBounded : loop.state.Bounded
  processedBounded : loop.processedState.Bounded

omit [SignatureText Signature] in
theorem bounded_snapshot {state : PollingState Signature} (bounded : state.Bounded) :
    state.snapshot.Bounded := ⟨bounded.cursors, bounded.recentSignatures⟩

omit [SignatureText Signature] in
theorem Stalls.refresh (stalls : Stalls begun loop) (refreshes : Refreshes loop trace refreshed) :
    Stalls begun refreshed := by
  rcases refreshes.drained with rfl | ⟨rfl, _⟩
  · exact stalls
  · exact ⟨stalls.identity, stalls.live, stalls.live, stalls.liveBounded, bounded_snapshot stalls.liveBounded⟩

theorem Stalls.fails {failure : PollError Signature} (stalls : Stalls begun loop)
    (complete : ∀ address ∈ addresses, address ∈ begun.state.cursors)
    (completes : Completes codec datasource addresses loop trace (.error failure) next)
    (execution : Program.Executes (siteEnvironment surroundings) before trace after) :
    Stalls begun next := by
  obtain ⟨checked, saving, polled, concluding, refreshed, saved, pages, state, rfl, refreshes,
    saves, ends, rfl, _⟩ := completes.parts
  have answered : Program.Allowed Call.Answered polled := by
    intro event member
    exact executes_answered execution event (by simp [member])
  have refreshedStalls := stalls.refresh refreshes
  obtain ⟨lastWriteCompletedAt, same⟩ := saveCheckpoint_keeps saves
  have savedStalls : Stalls begun saved := by
    subst same
    exact ⟨refreshedStalls.identity, refreshedStalls.live, refreshedStalls.processed,
      refreshedStalls.liveBounded, refreshedStalls.processedBounded⟩
  have kept : state.cursors = saved.state.cursors := by
    refine failing_poll_keeps_cursors ends answered fun address monitored => ?_
    rw [savedStalls.live]
    exact complete address monitored
  obtain ⟨recorded, effect⟩ := failing_effect ends answered
  have bounded : state.Bounded := effect.bounded savedStalls.liveBounded answered
  have polls : (recordPoll saved (.error failure, state)).2.state = state ∧
      (recordPoll saved (.error failure, state)).2.checkpoint = saved.checkpoint ∧
      (recordPoll saved (.error failure, state)).2.processedState = saved.processedState :=
    recordPoll_keeps
  obtain ⟨sameState, sameCheckpoint, sameProcessed⟩ := polls
  refine ⟨?_, ?_, ?_, ?_, ?_⟩
  · rw [sameCheckpoint, savedStalls.identity]
  · rw [sameState, kept, savedStalls.live]
  · rw [sameProcessed, savedStalls.processed]
  · rwa [sameState]
  · rw [sameProcessed]
    exact savedStalls.processedBounded

/-- The process has not replaced the file, or by a checkpoint with the cursors
it began with. -/
def Leaves (codec : JsonCodec) (raw : Bytes) (begun : PollingLoop Signature) (site : Site Signature) :
    Prop :=
  site.replacements = 0 ∧ site.checkpoint = some raw ∨
    site.replacements ≠ 0 ∧ ∃ saved : CheckpointSnapshot Signature,
      site.checkpoint = some (begun.checkpoint.encode codec saved) ∧
      saved.cursors = begun.state.cursors ∧ saved.Bounded

theorem Leaves.same (leaves : Leaves codec raw begun before)
    (sameFile : after.checkpoint = before.checkpoint)
    (sameCount : after.replacements = before.replacements) : Leaves codec raw begun after := by
  unfold Leaves
  rwa [sameFile, sameCount]

theorem Leaves.transient (transient : ∀ event ∈ trace, event.1.Transient)
    (execution : Program.Executes (siteEnvironment surroundings) before trace after)
    (leaves : Leaves codec raw begun before) : Leaves codec raw begun after := by
  refine execution.keeps_events ?_ ?_ leaves
  · intro first event second member answer leaves
    have same := answer.2.sameFiles (transient event member)
    exact leaves.same same.checkpoint same.replacements
  · intro first second moves leaves
    exact leaves.same moves.checkpoint moves.replacements

theorem Leaves.saves (stalls : Stalls begun loop)
    (saves : ∀ event ∈ trace, event.1.Saves loop.checkpoint codec loop.processedState)
    (execution : Program.Executes (siteEnvironment surroundings) before trace after)
    (leaves : Leaves codec raw begun before) : Leaves codec raw begun after := by
  refine execution.keeps_events ?_ ?_ leaves
  · intro first event second member answer leaves
    rcases answer.2.saves (saves event member) with ⟨sameFile, sameCount⟩ | ⟨_, installed⟩
    · exact leaves.same sameFile sameCount
    · refine .inr ⟨?_, loop.processedState, ?_, stalls.processed, stalls.processedBounded⟩
      · rw [installed]
        exact Nat.succ_ne_zero _
      · rw [installed, CheckpointStore.encode_congr stalls.identity.symm]
        rfl
  · intro first second moves leaves
    exact leaves.same moves.checkpoint moves.replacements

theorem Leaves.turn {control : Task Signature (Consumption Signature ⊕ Stopped)}
    (stalls : Stalls begun loop)
    (reached : Program.Advances (pollingTurn codec datasource addresses pages loop) trace control)
    (execution : Program.Executes (siteEnvironment surroundings) before trace after)
    (leaves : Leaves codec raw begun before) : Leaves codec raw begun after := by
  rcases pollingTurn_saves reached with transient | ⟨checked, tail, refreshed, rfl, refreshes, saves⟩
  · exact leaves.transient transient execution
  · obtain ⟨_, checks, later⟩ := execution.split
    exact (leaves.transient refreshes.transient checks).saves (stalls.refresh refreshes) saves later

/-- The loop of a process that loads a checkpoint begins with its rewound
cursors. -/
theorem Starts.stalls (starts : Starts surroundings codec datasource addresses pages before begun started)
    (content : before.checkpoint = some raw)
    (loads : (surroundings.store datasource addresses).interpret codec raw = .ok (.loaded snapshot)) :
    begun.checkpoint = surroundings.store datasource addresses ∧
      begun.state.cursors = snapshot.cursors ∧ Stalls begun begun := by
  have found : LoadsFrom (surroundings.store datasource addresses) codec before.checkpoint
      (.loaded snapshot) := by
    rw [content]
    exact ⟨snapshot, rfl, loads⟩
  obtain ⟨ready, entries, _, faults, _, _, restores, _, rfl⟩ := starts.loaded found
  have resumed : (snapshot.resume.recordRecentSignatures entries).cursors = snapshot.cursors :=
    recordRecentSignatures_cursors
  have bounded : (snapshot.resume.recordRecentSignatures entries).Bounded := by
    obtain ⟨snapshotBounded, _⟩ := interpret_loaded loads
    refine ⟨fun address cursor present => ?_, fun signature slot present => ?_⟩
    · rw [resumed] at present
      exact snapshotBounded.cursors address cursor present
    · rw [recordRecentSignatures_recentSignatures] at present
      rcases OrderedMap.getElem?_insertAll present with restored | listed
      · have entry : (signature, slot) ∈
            (ready.journal.restore faults (surroundings.identity datasource addresses)).1 := by
          rw [restores]
          exact restored
        exact restore_bounded _ entry
      · exact snapshotBounded.recentSignatures signature slot listed
  exact ⟨rfl, resumed, rfl, rfl, rfl, bounded, bounded_snapshot bounded⟩

/-- A process that loads a checkpoint and polls in vain leaves the file as it
was, or with the rewound cursors. -/
theorem failing_start_leaves {control : Task Signature (Consumption Signature ⊕ Stopped)}
    (content : before.checkpoint = some raw)
    (loads : (surroundings.store datasource addresses).interpret codec raw = .ok (.loaded snapshot))
    (reaches : Program.Reaches (siteEnvironment surroundings) (consume codec datasource addresses pages)
      (PollFails codec datasource addresses) .readingGenesisHash before control after)
    (fresh : before.replacements = 0) :
    after.replacements = 0 ∧ after.checkpoint = some raw ∨
      after.replacements ≠ 0 ∧ ∃ saved : CheckpointSnapshot Signature,
        after.checkpoint = some ((surroundings.store datasource addresses).encode codec saved) ∧
        saved.cursors = snapshot.cursors ∧ saved.Bounded := by
  have sound : ∀ reason, ((surroundings.store datasource addresses).interpret codec raw :
      Except _ (CheckpointReading Signature)) ≠ .ok (.corrupt reason) := by
    simp [loads]
  obtain ⟨current, earlier, trace, rounds, reached, execution⟩ := reaches
  rcases rounds_cases rounds with rfl | ⟨begun, started, loop, starts, rfl, turns⟩
  · have waited := rounds.mono fun _ _ _ _ => trivial
    have kept := (keeps_file sound waited reached execution content).2
    exact .inl ⟨(keeps_unwritten waited reached execution).trans fresh, kept⟩
  obtain ⟨sameStore, sameCursors, stalls⟩ := starts.stalls content loads
  have complete : ∀ address ∈ addresses, address ∈ begun.state.cursors := by
    intro address monitored
    rw [sameCursors, ← ExtTreeMap.mem_keys, (interpret_loaded loads).2.1]
    exact CheckpointStore.mem_new_addresses.mpr monitored
  have begins : Leaves codec raw begun started := by
    obtain ⟨_, _, waited, run, startsIn⟩ := starts.starts
    exact .inl ⟨(keeps_unwritten waited run startsIn).trans fresh,
      (keeps_file sound waited run startsIn content).2⟩
  have kept : ∀ (current : Consumption Signature) (earlier : Site Signature),
      Program.Rounds (siteEnvironment surroundings) (consume codec datasource addresses pages)
        (PollFails codec datasource addresses) (.polling begun) started current earlier →
      ∃ loop : PollingLoop Signature, current = .polling loop ∧ Stalls begun loop ∧
        Leaves codec raw begun earlier := by
    intro current earlier turns
    induction turns with
    | start => exact ⟨begun, rfl, stalls, begins⟩
    | next _ run execution fails ih =>
        obtain ⟨loop, rfl, stalls, leaves⟩ := ih
        obtain ⟨failure, next, rfl, completes⟩ := fails loop rfl
        exact ⟨next, rfl, stalls.fails complete completes execution, leaves.turn stalls run execution⟩
  obtain ⟨_, same, stalls, leaves⟩ := kept _ _ turns
  cases same
  have final := leaves.turn stalls reached execution
  rw [Leaves, sameStore, sameCursors] at final
  exact final

/-! ## One process after another -/

/-- Processes that are each started when the one before is gone, and whose polls
all fail. -/
inductive FailingStarts (surroundings : Surroundings) (codec : JsonCodec)
    (datasource : RpcPollingDatasource) (addresses : List Address) (pages : Nat) :
    Site Signature → List (Site Signature) → Prop where
  | none {before : Site Signature} : FailingStarts surroundings codec datasource addresses pages before []
  | start {before after : Site Signature} {later : List (Site Signature)}
      {control : Task Signature (Consumption Signature ⊕ Stopped)}
      (reaches : Program.Reaches (siteEnvironment surroundings)
        (consume codec datasource addresses pages) (PollFails codec datasource addresses)
        .readingGenesisHash before.restart control after)
      (starts : FailingStarts surroundings codec datasource addresses pages after later) :
      FailingStarts surroundings codec datasource addresses pages before (after :: later)

/-- The cursors a process saves that makes no progress. -/
def rewound (replayWindowSlots : Slot) (cursors : ExtTreeMap String Slot) : ExtTreeMap String Slot :=
  cursors.map fun _ slot => slot - replayWindowSlots

/-- Each process that replaces the file moves the stored cursors back. -/
theorem failing_start_stores {control : Task Signature (Consumption Signature ⊕ Stopped)}
    (stores : Stores Signature (surroundings.store datasource addresses) codec before.checkpoint cursors)
    (reaches : Program.Reaches (siteEnvironment surroundings) (consume codec datasource addresses pages)
      (PollFails codec datasource addresses) .readingGenesisHash before.restart control after) :
    Stores Signature (surroundings.store datasource addresses) codec after.checkpoint
      (if after.replacements = 0 then cursors else rewound datasource.replayWindow.slots cursors) := by
  obtain ⟨stored, raw, content, snapshot, loads⟩ := stores
  rw [content] at stored
  obtain ⟨_, complete, known, read, rewinds⟩ := interpret_loaded loads
  cases stored.symm.trans read
  have content' : before.restart.checkpoint = some raw := content
  rcases failing_start_leaves content' loads reaches rfl with
    ⟨unwritten, same⟩ | ⟨written, saved, same, sameCursors, bounded⟩
  · rw [if_pos unwritten, same]
    exact ⟨stored, raw, rfl, snapshot, loads⟩
  · rw [if_neg written, same]
    refine ⟨?_, _, rfl, _, CheckpointStore.interpret_encode bounded rfl (sameCursors ▸ complete)⟩
    rw [storedCursors_encode bounded, sameCursors, rewinds]
    refine congrArg some (ExtTreeMap.ext_getElem? fun address => ?_)
    simp [CheckpointStore.rewindCursors, rewound, ExtTreeMap.getElem?_map, Surroundings.store,
      RpcPollingDatasource.checkpointStore, CheckpointStore.new]

theorem rewound_eq_iff {window : ReplayWindow} : rewound window.slots cursors = cursors ↔
    ∀ (address : String) (slot : Slot), cursors[address]? = some slot → slot = 0 := by
  have positive := window.positive
  constructor
  · intro same address slot stored
    have moved : (rewound window.slots cursors)[address]? = some (slot - window.slots) := by
      simp [rewound, ExtTreeMap.getElem?_map, stored]
    rw [same, stored] at moved
    have zero : ∀ slot window : Nat, 1 ≤ window → slot = slot - window → slot = 0 := by omega
    exact zero slot window.slots positive (Option.some.inj moved)
  · intro zero
    refine ExtTreeMap.ext_getElem? fun address => ?_
    rw [rewound, ExtTreeMap.getElem?_map]
    cases stored : cursors[address]? with
    | none => rfl
    | some slot => simp [zero address slot stored]

section Sequences

variable {sites : List (Site Signature)}
  (stores : Stores Signature (surroundings.store datasource addresses) codec before.checkpoint cursors)
  (starts : FailingStarts surroundings codec datasource addresses pages before sites)

include stores starts

/-- The stored cursors stay when there is nothing to move back, or nobody
replaces the file. -/
theorem FailingStarts.stored
    (unmoved : rewound datasource.replayWindow.slots cursors = cursors ∨
      ∀ site ∈ sites, site.replacements = 0) :
    ∀ site ∈ sites,
      Stores Signature (surroundings.store datasource addresses) codec site.checkpoint cursors := by
  induction starts with
  | none => simp
  | @start before after later control reaches starts ih =>
      have next := failing_start_stores stores reaches
      have kept : (if after.replacements = 0 then cursors
          else rewound datasource.replayWindow.slots cursors) = cursors := by
        rcases unmoved with same | unwritten
        · rw [same, ite_self]
        · rw [if_pos (unwritten after List.mem_cons_self)]
      rw [kept] at next
      intro site member
      rcases List.mem_cons.mp member with rfl | member
      · exact next
      · refine ih next ?_ site member
        exact unmoved.imp_right fun unwritten other inside =>
          unwritten other (List.mem_cons_of_mem _ inside)

/-- When the stored cursors can move and have not, nobody has replaced the
file. -/
theorem FailingStarts.unwritten
    (kept : ∀ site ∈ sites, storedCursors codec site.checkpoint = some cursors)
    (moves : rewound datasource.replayWindow.slots cursors ≠ cursors) :
    ∀ site ∈ sites, site.replacements = 0 := by
  induction starts with
  | none => simp
  | @start before after later control reaches starts ih =>
      have next := failing_start_stores stores reaches
      have same := kept after List.mem_cons_self
      have unwritten : after.replacements = 0 := by
        by_contra written
        rw [if_neg written] at next
        exact moves (Option.some.inj (next.1.symm.trans same))
      rw [if_pos unwritten] at next
      intro site member
      rcases List.mem_cons.mp member with rfl | member
      · exact unwritten
      · exact ih next (fun other inside => kept other (List.mem_cons_of_mem _ inside)) site member

end Sequences

/-- The loop begins one replay window below these cursors, and so lists what is
above two of them. -/
def ResumesFrom (replayWindowSlots : Slot) (cursors : ExtTreeMap String Slot)
    (begun : PollingLoop Signature) : Prop :=
  ∀ (address : Address) (slot : Slot), cursors[address]? = some slot →
    ∃ cursor, begun.state.cursors[address]? = some cursor ∧
      cursor.scannedSlot = slot - replayWindowSlots ∧
      unreachableBelow slot replayWindowSlots ≤ cursor.scannedSlot - replayWindowSlots

theorem Stores.resumes
    (stores : Stores Signature (surroundings.store datasource addresses) codec before.checkpoint cursors)
    (starts : Starts surroundings codec datasource addresses pages before begun started) :
    ResumesFrom datasource.replayWindow.slots cursors begun := by
  obtain ⟨stored, raw, content, snapshot, loads⟩ := stores
  rw [content] at stored
  obtain ⟨_, _, known, read, rewinds⟩ := interpret_loaded loads
  cases stored.symm.trans read
  obtain ⟨_, sameCursors, _⟩ := starts.stalls content loads
  intro address slot present
  refine ⟨{ scannedSlot := slot - datasource.replayWindow.slots }, ?_, rfl, ?_⟩
  · rw [sameCursors, rewinds, CheckpointStore.rewindCursors, ExtTreeMap.getElem?_map, present]
    rfl
  · exact Nat.le_of_eq (by rw [unreachableBelow, two_mul, Nat.sub_sub])

/-- Processes that poll in vain one after another leave the stored cursors where
they are, for the next one to resume from, exactly when these are all zero or no
process gets as far as replacing the file. -/
theorem restarts_keep_cursors_iff {sites : List (Site Signature)}
    (stores : Stores Signature (surroundings.store datasource addresses) codec before.checkpoint cursors)
    (starts : FailingStarts surroundings codec datasource addresses pages before sites) :
    (∀ site ∈ sites, storedCursors codec site.checkpoint = some cursors ∧
      ∀ (begun : PollingLoop Signature) (started : Site Signature),
        Starts surroundings codec datasource addresses pages site.restart begun started →
        ResumesFrom datasource.replayWindow.slots cursors begun) ↔
    (∀ (address : Address) (slot : Slot), cursors[address]? = some slot → slot = 0) ∨
      ∀ site ∈ sites, site.replacements = 0 := by
  constructor
  · intro kept
    by_cases moves : rewound datasource.replayWindow.slots cursors = cursors
    · exact .inl (rewound_eq_iff.mp moves)
    · exact .inr (starts.unwritten stores (fun site member => (kept site member).1) moves)
  · intro unmoved site member
    have next : Stores Signature (surroundings.store datasource addresses) codec site.restart.checkpoint
        cursors := starts.stored stores (unmoved.imp_left rewound_eq_iff.mpr) site member
    exact ⟨next.1, fun begun started again => next.resumes again⟩

/-! A process that loads a checkpoint whose cursor is at slot 90, while the
history of the endpoint begins at slot 95. -/

def stalledSite : Site (Fin 58) :=
  .boot (some (durableStore.encode durableCodec olderSnapshot)) none

def stalledRound (site : Site (Fin 58)) (control : Consumption (Fin 58)) :
    List (CallEvent (Fin 58)) × (Consumption (Fin 58) ⊕ Stopped) × Site (Fin 58) :=
  gapScene.round "genesis" durableCodec sampleDatasource ["program"] site control

def stalledStart : List (CallEvent (Fin 58)) × (Consumption (Fin 58) ⊕ Stopped) × Site (Fin 58) :=
  stalledRound stalledSite.restart .readingGenesisHash

def olderCursors : ExtTreeMap String Slot := OrderedMap.insertAll ∅ [("program", 90)]

theorem olderSnapshot_bounded : olderSnapshot.Bounded :=
  CheckpointSnapshot.bounded_of_all (by decide +kernel) (by decide +kernel)

theorem stalledSite_stores : Stores (Fin 58)
    ((undisturbed "genesis").store sampleDatasource ["program"]) durableCodec stalledSite.checkpoint
    olderCursors := by
  have complete : olderSnapshot.cursors.keys = durableStore.identity.addresses := by decide +kernel
  have cursors : (olderSnapshot.cursors.map fun _ cursor => cursor.scannedSlot) = olderCursors := by
    decide +kernel
  refine ⟨?_, _, rfl, _, CheckpointStore.interpret_encode olderSnapshot_bounded rfl complete⟩
  exact cursors ▸ storedCursors_encode olderSnapshot_bounded

/-- How many polls in a row have found a gap in the history. -/
def Consumption.gaps : Consumption Signature → Nat
  | .readingGenesisHash => 0
  | .polling loop => loop.historyGaps.consecutive

/-- A poll that finds a gap in the history fails. -/
theorem pollFails_of_gap {next : Consumption Signature}
    (run : Program.Run (pollingTurn codec datasource addresses pages loop) trace (.inl next))
    (gap : next.gaps = loop.historyGaps.consecutive + 1) :
    PollFails codec datasource addresses (.polling loop) trace next := by
  obtain ⟨result, later, rfl, completes⟩ := pollingTurn_completes run
  rintro _ ⟨⟩
  cases result with
  | error failure => exact ⟨failure, later, rfl, completes⟩
  | ok outcome =>
      obtain ⟨_, _, _, _, refreshed, saved, _, state, _, refreshes, saves, _, rfl, _⟩ := completes.parts
      have counted : saved.historyGaps = loop.historyGaps := by
        obtain ⟨_, rfl⟩ := saveCheckpoint_keeps saves
        rcases refreshes.drained with rfl | ⟨rfl, _⟩ <;> rfl
      have recovered : (recordPoll saved (.ok outcome, state)).2.historyGaps.consecutive ≤
          loop.historyGaps.consecutive := by
        rw [← counted]
        unfold recordPoll
        dsimp only
        split
        · exact Nat.zero_le _
        · exact Nat.le_refl _
      exact absurd gap (Nat.ne_of_lt (Nat.lt_succ_of_le recovered))

/-- It reads the genesis hash, loads the checkpoint, saves and polls in vain. -/
theorem stalled_written : ∃ site, site.replacements = 1 ∧
    FailingStarts (undisturbed "genesis") durableCodec sampleDatasource ["program"] 1 stalledSite
      [site] := by
  have typed : gapScene.Typed := ⟨by decide, by simp [gapScene], by decide⟩
  have quiet : stalledSite.restart.Quiet := rfl
  have computed : stalledStart.2.1.elim (fun control =>
        let turn := stalledRound stalledStart.2.2 control
        turn.2.1.elim (fun next => decide (turn.2.2.replacements = 1 ∧ control.gaps = 0 ∧ next.gaps = 1))
          fun _ => false)
      (fun _ => false) = true := by
    decide +kernel
  cases begins : stalledStart.2.1 with
  | inr stopped =>
      rw [begins] at computed
      exact absurd computed Bool.false_ne_true
  | inl control =>
  rw [begins] at computed
  have starts : stalledStart = (stalledStart.1, .inl control, stalledStart.2.2) := by rw [← begins]
  obtain ⟨firstRun, firstExecution, firstQuiet⟩ := gapScene.round_spec typed quiet starts
  cases turns : (stalledRound stalledStart.2.2 control).2.1 with
  | inr stopped =>
      dsimp only [Sum.elim] at computed
      rw [turns] at computed
      exact absurd computed Bool.false_ne_true
  | inl next =>
  dsimp only [Sum.elim] at computed
  rw [turns] at computed
  obtain ⟨written, none, gap⟩ := of_decide_eq_true computed
  have turn : stalledRound stalledStart.2.2 control = ((stalledRound stalledStart.2.2 control).1, .inl next,
      (stalledRound stalledStart.2.2 control).2.2) := by rw [← turns]
  obtain ⟨turnRun, turnExecution, _⟩ := gapScene.round_spec typed firstQuiet turn
  have vacuous : PollFails durableCodec sampleDatasource ["program"] .readingGenesisHash
      stalledStart.1 control := by
    intro loop impossible
    contradiction
  have fails : PollFails durableCodec sampleDatasource ["program"] control
      (stalledRound stalledStart.2.2 control).1 next := by
    cases control with
    | readingGenesisHash =>
        intro loop impossible
        contradiction
    | polling loop => exact pollFails_of_gap turnRun (gap.trans (congrArg Nat.succ none.symm))
  have reaches : Program.Reaches (siteEnvironment (undisturbed "genesis"))
      (consume durableCodec sampleDatasource ["program"] 1)
      (PollFails durableCodec sampleDatasource ["program"]) .readingGenesisHash stalledSite.restart
      (consume durableCodec sampleDatasource ["program"] 1 next)
      (stalledRound stalledStart.2.2 control).2.2 :=
    ⟨next, _, [], .next (.next .start firstRun firstExecution vacuous) turnRun turnExecution fails,
      .start _, .idle .refl⟩
  exact ⟨(stalledRound stalledStart.2.2 control).2.2, written, .start reaches .none⟩

theorem restarts_keep_cursors_iff_stalled : ∃ site : Site (Fin 58), site.replacements = 1 ∧
    ((∀ other ∈ [site], storedCursors durableCodec other.checkpoint = some olderCursors ∧
      ∀ (begun : PollingLoop (Fin 58)) (started : Site (Fin 58)),
        Starts (undisturbed "genesis") durableCodec sampleDatasource ["program"] 1 other.restart begun
          started → ResumesFrom 10 olderCursors begun) ↔
    (∀ (address : Address) (slot : Slot), olderCursors[address]? = some slot → slot = 0) ∨
      ∀ other ∈ [site], other.replacements = 0) := by
  obtain ⟨site, written, starts⟩ := stalled_written
  exact ⟨site, written, restarts_keep_cursors_iff stalledSite_stores starts⟩

/-- The file then stores slot 80. -/
theorem restart_loses_cursors : ∃ site : Site (Fin 58),
    FailingStarts (undisturbed "genesis") durableCodec sampleDatasource ["program"] 1 stalledSite [site] ∧
    Stores (Fin 58) ((undisturbed "genesis").store sampleDatasource ["program"]) durableCodec
      stalledSite.checkpoint olderCursors ∧
    storedCursors durableCodec site.checkpoint ≠ some olderCursors := by
  obtain ⟨site, written, starts⟩ := stalled_written
  refine ⟨site, starts, stalledSite_stores, fun kept => ?_⟩
  have moves : rewound sampleDatasource.replayWindow.slots olderCursors ≠ olderCursors := by
    decide +kernel
  have unwritten := starts.unwritten stalledSite_stores (by simpa using kept) moves site (by simp)
  exact absurd (written.symm.trans unwritten) Nat.one_ne_zero

end Microscope.Polling
