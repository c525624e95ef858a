import Microscope.Polling.Completion
import Microscope.Polling.Scene

namespace Microscope.Polling

open Std Microscope.Data

/-! # Suppression within one process

What one process has queued, absorbed or quarantined is not selected again by
its later polls, as long as no cursor falls more than one replay window behind
a least cursor that retention has already used.
-/

variable {Signature : Type} [LinearOrder Signature] [SignatureText Signature]

/-- One poll of a process. -/
structure PollRound (Signature : Type) [LinearOrder Signature] where
  before : PollingState Signature
  trace : List (CallEvent Signature)
  result : Except (PollError Signature) PollOutcome
  after : PollingState Signature

namespace PollRound

variable (round : PollRound Signature)

def Succeeded : Prop := ∃ outcome, round.result = .ok outcome

/-- The slot retention was measured from. -/
def least : Slot := round.after.minimumScannedSlot.getD ((headReading round.trace).getD 0)

/-- The head reading was accepted, if there was one. -/
def Tolerated (replayWindowSlots : Slot) : Prop :=
  ∀ headSlot ∈ headReading round.trace,
    cursorAheadOfHead round.before.cursors headSlot replayWindowSlots = none

instance (replayWindowSlots : Slot) : Decidable (round.Tolerated replayWindowSlots) :=
  inferInstanceAs (Decidable (∀ headSlot ∈ headReading round.trace, _))

end PollRound

/-- The polls of one process, in order. -/
inductive Polls (datasource : RpcPollingDatasource) (addresses : List Address)
    (start : PollingState Signature) : List (PollRound Signature) → PollingState Signature → Prop where
  | start : Polls datasource addresses start [] start
  | next {rounds : List (PollRound Signature)} {before after : PollingState Signature} {pages : Nat}
      {trace : List (CallEvent Signature)} {result : Except (PollError Signature) PollOutcome}
      (earlier : Polls datasource addresses start rounds before)
      (ends : Action.Ends (poll pages datasource addresses) before trace result after)
      (answered : Program.Allowed Call.Answered trace) :
      Polls datasource addresses start (rounds ++ [⟨before, trace, result, after⟩]) after

/-- The later poll starts with every cursor within one window of the least
cursor of the earlier one, and lists nothing above the slot the earlier one
recorded it at. -/
structure Steady (replayWindowSlots : Slot) (earlier later : PollRound Signature) : Prop where
  cursors : earlier.Succeeded → ∀ (address : Address) (cursor : AddressCursor),
    later.before.cursors[address]? = some cursor →
      earlier.least ≤ cursor.scannedSlot + replayWindowSlots
  slots : ∀ signature recorded listed address, Records earlier.trace earlier.after signature recorded →
    ListedIn later.trace address { signature, slot := listed } → listed ≤ recorded

/-- What the earlier poll handled is not selected by the later one. -/
def Suppresses (earlier later : PollRound Signature) : Prop :=
  ∀ signature, Handles earlier.trace earlier.after signature → signature ∉ selected later.trace

variable {replayWindowSlots : Slot} {addresses : List Address} {datasource : RpcPollingDatasource}
  {rounds : List (PollRound Signature)} {round : PollRound Signature}
  {start before reached after : PollingState Signature} {trace : List (CallEvent Signature)}
  {signature : Signature}

/-! ## What a process remembers -/

/-- Some poll recorded the signature at this slot. -/
def RecordedAt (rounds : List (PollRound Signature)) (signature : Signature) (slot : Slot) : Prop :=
  ∃ round ∈ rounds, Records round.trace round.after signature slot

/-- The signature is a recent one, or retention dropped it. -/
def Recalled (replayWindowSlots : Slot) (rounds : List (PollRound Signature))
    (state : PollingState Signature) (signature : Signature) : Prop :=
  (∃ slot, state.recentSignatures[signature]? = some slot ∧ RecordedAt rounds signature slot) ∨
    ∃ slot, RecordedAt rounds signature slot ∧ ∃ round ∈ rounds, round.Succeeded ∧
      slot ≤ unreachableBelow round.least replayWindowSlots

structure Remembers (replayWindowSlots : Slot) (addresses : List Address)
    (rounds : List (PollRound Signature)) (state : PollingState Signature) : Prop where
  recalled : ∀ round ∈ rounds, ∀ signature, Handles round.trace round.after signature →
    Recalled replayWindowSlots rounds state signature
  installed : ∀ round ∈ rounds, round.Succeeded → ∀ address ∈ addresses,
    ∃ cursor, state.cursors[address]? = some cursor

theorem RecordedAt.append {more : List (PollRound Signature)} {slot : Slot}
    (recorded : RecordedAt rounds signature slot) : RecordedAt (rounds ++ more) signature slot := by
  obtain ⟨round, member, records⟩ := recorded
  exact ⟨round, List.mem_append_left _ member, records⟩

theorem Records.congr {slot : Slot} (same : after.quarantinedSignatures = reached.quarantinedSignatures)
    (records : Records trace reached signature slot) : Records trace after signature slot := by
  cases records with
  | absorbed handed => exact .absorbed handed
  | queued sent fetched => exact .queued sent fetched
  | quarantined fetched poisons quarantined listed =>
      exact .quarantined fetched poisons (same ▸ quarantined) listed

/-- Within one window of the cursor, nothing above the floor is out of reach. -/
theorem unreachableBelow_lt {least cursor slot window : Nat} (near : least ≤ cursor + window)
    (above : cursor - window < slot) : unreachableBelow least window < slot := by
  have bound : (unreachableBelow least window : Nat) = least - 2 * window := rfl
  have twoWindows : least - 2 * window < slot := by omega
  rwa [bound]

/-- A poll that has recorded a signature, or found it recorded, ends with it
recent or drops it by retention. -/
theorem recalled_of_recorded {result : Except (PollError Signature) PollOutcome} {slot : Slot}
    (present : reached.recentSignatures[signature]? = some slot)
    (recorded : RecordedAt (rounds ++ [⟨before, trace, result, after⟩]) signature slot)
    (ending : (∃ failure, result = .error failure) ∧ after = reached ∨ ∃ outcome record,
      result = .ok outcome ∧ Completed replayWindowSlots addresses before trace reached after record) :
    Recalled replayWindowSlots (rounds ++ [⟨before, trace, result, after⟩]) after signature := by
  rcases ending with ⟨_, rfl⟩ | ⟨outcome, record, rfl, completed⟩
  · exact .inl ⟨slot, present, recorded⟩
  by_cases above : slot > retentionBound record.headSlot replayWindowSlots after
  · refine .inl ⟨slot, ?_, recorded⟩
    rw [completed.recentSignatures_getElem?, present]
    simpa using above
  · refine .inr ⟨slot, recorded, _, List.mem_append_right _ (List.mem_singleton.mpr rfl), ⟨outcome, rfl⟩, ?_⟩
    simpa [PollRound.least, completed.head, retentionBound] using above

theorem Remembers.next {pages : Nat} {result : Except (PollError Signature) PollOutcome}
    (remembers : Remembers datasource.replayWindow.slots addresses rounds before)
    (ends : Action.Ends (poll pages datasource addresses) before trace result after)
    (answered : Program.Allowed Call.Answered trace) :
    Remembers datasource.replayWindow.slots addresses
      (rounds ++ [⟨before, trace, result, after⟩]) after := by
  obtain ⟨reached, recorded, effect, ending⟩ := poll_cases ends answered
  have sameQuarantine : after.quarantinedSignatures = reached.quarantinedSignatures := by
    rcases ending with ⟨_, rfl⟩ | ⟨_, _, _, completed⟩
    · rfl
    · exact completed.quarantinedSignatures_eq
  have recorded_now : ∀ {signature slot}, (signature, slot) ∈ recorded →
      RecordedAt (rounds ++ [⟨before, trace, result, after⟩]) signature slot := by
    intro signature slot member
    exact ⟨_, List.mem_append_right _ (List.mem_singleton.mpr rfl),
      (effect.justified signature slot member).congr sameQuarantine⟩
  have kept : ∀ {signature slot}, reached.recentSignatures[signature]? = some slot →
      RecordedAt (rounds ++ [⟨before, trace, result, after⟩]) signature slot →
      Recalled datasource.replayWindow.slots (rounds ++ [⟨before, trace, result, after⟩]) after
        signature :=
    fun present recorded => recalled_of_recorded present recorded ending
  constructor
  · intro round member signature handles
    rcases List.mem_append.mp member with member | member
    · rcases remembers.recalled round member signature handles with
        ⟨slot, present, earlier⟩ | ⟨slot, earlier, dropping, dropped, succeeded, below⟩
      · have mentioned : signature ∈ reached.recentSignatures := by
          rw [effect.recentSignatures, OrderedMap.mem_insertAll]
          exact .inl (OrderedMap.mem_iff_getElem?.mpr ⟨slot, present⟩)
        obtain ⟨latest, found⟩ := OrderedMap.mem_iff_getElem?.mp mentioned
        refine kept found ?_
        rw [effect.recentSignatures] at found
        rcases OrderedMap.getElem?_insertAll found with member | unchanged
        · exact recorded_now member
        · rw [present] at unchanged
          cases unchanged
          exact earlier.append
      · exact .inr ⟨slot, earlier.append, dropping, List.mem_append_left _ dropped, succeeded, below⟩
    · rw [List.mem_singleton.mp member] at handles
      have handles : Handles trace reached signature := by
        unfold Handles at handles ⊢
        rwa [← sameQuarantine]
      obtain ⟨slot, inserted⟩ := effect.complete signature handles
      have present : ∃ latest, reached.recentSignatures[signature]? = some latest ∧
          (signature, latest) ∈ recorded := by
        rw [effect.recentSignatures]
        exact OrderedMap.getElem?_insertAll_of_mem inserted
      obtain ⟨latest, found, latestInserted⟩ := present
      exact kept found (recorded_now latestInserted)
  · intro round member succeeded address monitored
    rcases List.mem_append.mp member with member | member
    · obtain ⟨cursor, present⟩ := remembers.installed round member succeeded address monitored
      have grown := effect.cursor_present present
      rcases ending with ⟨_, rfl⟩ | ⟨_, _, _, completed⟩
      · exact ⟨cursor, grown⟩
      · rw [← Option.isSome_iff_exists, completed.isSome_cursor, grown]
        rfl
    · rw [List.mem_singleton.mp member] at succeeded
      rcases ending with ⟨⟨_, rfl⟩, _⟩ | ⟨_, _, _, completed⟩
      · obtain ⟨_, impossible⟩ := succeeded
        contradiction
      · obtain ⟨batch, batchMember, rfl⟩ := completed.exists_batch monitored
        obtain ⟨cursor, listing, batched⟩ := completed.batches.2 batch batchMember
        rw [← Option.isSome_iff_exists, completed.isSome_cursor, completed.unmoved, batched.present]
        rfl

theorem Polls.remembers (polls : Polls datasource addresses start rounds after) :
    Remembers datasource.replayWindow.slots addresses rounds after := by
  induction polls with
  | start => exact ⟨by simp, by simp⟩
  | next _ ends answered ih => exact ih.next ends answered

/-! ## What a steady process does not select -/

theorem not_selected {pages : Nat} {result : Except (PollError Signature) PollOutcome}
    (remembers : Remembers datasource.replayWindow.slots addresses rounds before)
    (ends : Action.Ends (poll pages datasource addresses) before trace result after)
    (answered : Program.Allowed Call.Answered trace)
    (steady : ∀ round ∈ rounds, Steady datasource.replayWindow.slots round ⟨before, trace, result, after⟩)
    (member : round ∈ rounds) (handles : Handles round.trace round.after signature) :
    signature ∉ selected trace := by
  intro selected
  obtain ⟨reached, _, effect, _⟩ := poll_cases ends answered
  obtain ⟨unrecorded, _, address, monitored, cursor, slot, present, above, listed⟩ :=
    effect.selected signature selected
  rcases remembers.recalled round member signature handles with
    ⟨kept, found, _⟩ | ⟨recorded, ⟨recording, recordingMember, records⟩, dropping, dropped, succeeded, below⟩
  · exact unrecorded (OrderedMap.mem_iff_getElem?.mpr ⟨kept, found⟩)
  · have notAbove := (steady recording recordingMember).slots signature recorded slot address records listed
    obtain ⟨earlier, earlierPresent⟩ := remembers.installed dropping dropped succeeded address monitored
    have same : earlier = cursor := by
      have grown := effect.cursor_present earlierPresent
      rw [present] at grown
      exact (Option.some.inj grown).symm
    subst same
    have near := (steady dropping dropped).cursors succeeded address earlier earlierPresent
    exact absurd (notAbove.trans below) (Nat.not_le_of_lt (unreachableBelow_lt near above))

/-- In a process whose polls stay steady, no poll selects what an earlier one
has queued, absorbed or quarantined. -/
theorem nothing_selected_again (polls : Polls datasource addresses start rounds after)
    (steady : rounds.Pairwise (Steady datasource.replayWindow.slots)) :
    rounds.Pairwise Suppresses := by
  induction polls with
  | start => exact List.Pairwise.nil
  | next earlier ends answered ih =>
      obtain ⟨steadyBefore, _, steadyLast⟩ := List.pairwise_append.mp steady
      have steadyLast := fun round member => steadyLast round member _ (List.mem_singleton.mpr rfl)
      refine List.pairwise_append.mpr ⟨ih steadyBefore, List.pairwise_singleton _ _, ?_⟩
      intro round member last same signature handles
      rw [List.mem_singleton.mp same]
      exact not_selected earlier.remembers ends answered steadyLast member handles

/-- Where every signature keeps its slot, only the cursors matter. -/
theorem Steady.of_reports {slotOf : Signature → Slot} {later : PollRound Signature}
    (cursors : round.Succeeded → later.before.cursors.toList.all fun entry =>
      round.least ≤ entry.2.scannedSlot + replayWindowSlots)
    (earlierReports : Reports slotOf round.trace) (laterReports : Reports slotOf later.trace) :
    Steady replayWindowSlots round later where
  cursors := by
    intro succeeded address cursor present
    have near := List.all_eq_true.mp (cursors succeeded) _
      (ExtTreeMap.mem_toList_iff_getElem?_eq_some.mpr present)
    exact of_decide_eq_true near
  slots := by
    intro signature recorded listed address records inListed
    rw [records.slot_eq earlierReports]
    exact (laterReports.listed address _ inListed).le

/-! ## Lagging heads

Five polls of honest replicas of one ledger.  The head stays within one window
of the cursor at every poll, but the cursor follows it down.
-/

/-- The rounds of polls made one after another in these scenes. -/
def roundsIn (datasource : RpcPollingDatasource) (addresses : List Address) :
    List (Scene Signature) → PollingState Signature → List (PollRound Signature)
  | [], _ => []
  | scene :: rest, state =>
      ⟨state, scene.trace 1 datasource addresses state, (scene.run 1 datasource addresses state).2.1.1,
        scene.after 1 datasource addresses state⟩ ::
        roundsIn datasource addresses rest (scene.after 1 datasource addresses state)

theorem polls_roundsIn {scenes : List (Scene Signature)} (typed : ∀ scene ∈ scenes, scene.Typed)
    (polls : Polls datasource addresses start rounds before) :
    ∃ after, Polls datasource addresses start (rounds ++ roundsIn datasource addresses scenes before)
      after := by
  induction scenes generalizing rounds before with
  | nil => exact ⟨before, by simpa [roundsIn] using polls⟩
  | cons scene rest ih =>
      have sceneTyped : scene.Typed := typed scene List.mem_cons_self
      have restTyped : ∀ other ∈ rest, other.Typed := fun other member =>
        typed other (List.mem_cons_of_mem _ member)
      obtain ⟨after, extended⟩ := ih restTyped (polls.next scene.ends (Scene.answered sceneTyped))
      exact ⟨after, by simpa [roundsIn] using extended⟩

/-- Every replica has reached the slot it is asked for. -/
def reachesIn (datasource : RpcPollingDatasource) (addresses : List Address) :
    List (Scene Signature) → PollingState Signature → Bool
  | [], _ => true
  | scene :: rest, state => scene.reaches (scene.trace 1 datasource addresses state) &&
      reachesIn datasource addresses rest (scene.after 1 datasource addresses state)

theorem roundsIn_replicas {entries : List (LedgerEntry Signature)}
    {sorted : entries.Pairwise fun newer older => older.1.slot ≤ newer.1.slot}
    {apart : (entries.map fun entry => entry.1.signature).Nodup} {scenes : List (Scene Signature)}
    (shared : ∀ scene ∈ scenes, scene.entries = entries)
    (reaches : reachesIn datasource addresses scenes before = true) :
    ∀ round ∈ roundsIn datasource addresses scenes before,
      ∃ contextOf, Replicas (.ofEntries entries sorted apart) contextOf round.trace := by
  induction scenes generalizing before with
  | nil => simp [roundsIn]
  | cons scene rest ih =>
      obtain ⟨reached, later⟩ := Bool.and_eq_true_iff.mp reaches
      have same : scene.entries = entries := shared scene List.mem_cons_self
      subst same
      intro round member
      rcases List.mem_cons.mp member with rfl | member
      · exact ⟨scene.contextOf, Scene.replicas reached⟩
      · exact ih (fun other inside => shared other (List.mem_cons_of_mem _ inside)) later round member

def lagEntries : List (LedgerEntry (Fin 58)) :=
  [({ signature := 3, slot := 111 }, ["program"]), ({ signature := 2, slot := 102 }, ["program"]),
    ({ signature := 1, slot := 93 }, ["program"])]

def lagLedger : Ledger (Fin 58) := .ofEntries lagEntries (by decide) (by decide)

theorem lagSlot_le (signature : Fin 58) : 84 + 9 * signature.val ≤ u64Max := by
  have small := signature.isLt
  have large : 84 + 9 * 58 ≤ u64Max := by decide
  exact (by omega : 84 + 9 * signature.val ≤ 84 + 9 * 58).trans large

def lagScene (headSlot contextSlot : Slot) : Scene (Fin 58) where
  headSlot := headSlot
  firstAvailableBlock := 0
  entries := lagEntries
  contextOf := fun _ => contextSlot
  outcome := fun signature => .ok (convertible (84 + 9 * signature.val) (lagSlot_le signature))
  delivered := []

theorem lagScene_typed {headSlot contextSlot : Slot} (small : headSlot ≤ u64Max) :
    (lagScene headSlot contextSlot).Typed where
  headSlot := small
  entries := by
    change ∀ entry ∈ lagEntries, entry.1.slot ≤ u64Max
    decide
  delivered := by simp [lagScene]

def lagSlotOf (signature : Fin 58) : Slot := 84 + 9 * signature.val

theorem lagScene_consistent {headSlot contextSlot : Slot} :
    (lagScene headSlot contextSlot).Consistent lagSlotOf where
  entries := by
    change ∀ entry ∈ lagEntries, entry.1.slot = lagSlotOf entry.1.signature
    decide
  delivered := by simp [lagScene]
  outcome := by
    intro signature transaction fetched
    cases fetched
    rfl

/-- Two polls whose head does not lag. -/
theorem nothing_selected_again_advancing :
    (roundsIn sampleDatasource ["program"] [lagScene 100 95, lagScene 120 110] {}).Pairwise
      Suppresses := by
  have typed : ∀ scene ∈ [lagScene 100 95, lagScene 120 110], scene.Typed := by
    simpa using ⟨lagScene_typed (by decide), lagScene_typed (by decide)⟩
  have started : Polls sampleDatasource ["program"] {} [] ({} : PollingState (Fin 58)) := .start
  obtain ⟨after, polls⟩ := polls_roundsIn typed started
  refine nothing_selected_again polls (List.pairwise_pair.mpr ?_)
  exact .of_reports (fun _ => by decide +kernel) (Scene.reports lagScene_consistent)
    (Scene.reports lagScene_consistent)

def lagScenes : List (Scene (Fin 58)) :=
  [lagScene 100 95, lagScene 120 110, lagScene 110 111, lagScene 101 102, lagScene 92 95]

def lagRounds : List (PollRound (Fin 58)) := roundsIn sampleDatasource ["program"] lagScenes {}

theorem lagScenes_typed : ∀ scene ∈ lagScenes, scene.Typed := by
  intro scene member
  simp only [lagScenes, List.mem_cons, List.not_mem_nil, or_false] at member
  rcases member with rfl | rfl | rfl | rfl | rfl <;> exact lagScene_typed (by decide)

theorem lagScenes_entries {scene : Scene (Fin 58)} (member : scene ∈ lagScenes) :
    scene.entries = lagEntries := by
  simp only [lagScenes, List.mem_cons, List.not_mem_nil, or_false] at member
  rcases member with rfl | rfl | rfl | rfl | rfl <;> rfl

theorem lagRounds_honest : ∀ round ∈ lagRounds, ∃ contextOf, Replicas lagLedger contextOf round.trace :=
  roundsIn_replicas (fun _ member => lagScenes_entries member) (by decide +kernel)

/-- The first of these polls queues signature 1, retention at the second drops
it, and the fifth selects it again. -/
theorem lagging_heads_select_again :
    (∃ after, Polls sampleDatasource ["program"] {} lagRounds after) ∧
      (∀ round ∈ lagRounds, round.Tolerated 10) ∧
      (∀ round ∈ lagRounds, ∃ contextOf, Replicas lagLedger contextOf round.trace) ∧
      ¬lagRounds.Pairwise Suppresses := by
  refine ⟨polls_roundsIn lagScenes_typed .start, by decide +kernel, lagRounds_honest, fun suppressed => ?_⟩
  have queued : 1 ∈ queued (lagRounds.get ⟨0, by decide +kernel⟩).trace := by decide +kernel
  have selectedAgain : 1 ∈ selected (lagRounds.get ⟨4, by decide +kernel⟩).trace := by decide +kernel
  exact List.pairwise_iff_get.mp suppressed _ _ (by decide) 1 (.inr (.inl queued)) selectedAgain

end Microscope.Polling
