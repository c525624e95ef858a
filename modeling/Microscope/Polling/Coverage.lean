import Microscope.Polling.Completion
import Microscope.Polling.Scene

namespace Microscope.Polling

open Std Microscope.Data

/-! # Nothing is skipped

A transaction that has not been handled is still within reach of the listing
of some monitored address that it mentions.  Polls keep this whatever the
replicas and fetches do, and a restart from a saved checkpoint keeps it for
what that checkpoint knew.
-/

variable {Signature : Type} [LinearOrder Signature]

/-- A later listing of some monitored address reaches below the transaction. -/
def Reachable (ledger : Ledger Signature) (replayWindowSlots : Slot) (addresses : List Address)
    (cursors : ExtTreeMap Address AddressCursor) (signature : Signature) : Prop :=
  ∃ address ∈ addresses, ledger.mentions signature address ∧ ∃ cursor,
    cursors[address]? = some cursor ∧
      cursor.scannedSlot - replayWindowSlots < ledger.slotOf signature

/-- Everything recorded was handled, and every transaction above the first
floor of an address it mentions is handled or reachable. -/
structure Covers (ledger : Ledger Signature) (replayWindowSlots : Slot) (addresses : List Address)
    (floors : Address → Option Slot) (handled : Set Signature)
    (cursors : ExtTreeMap Address AddressCursor) (recentSignatures : ExtTreeMap Signature Slot) :
    Prop where
  recorded : ∀ signature, signature ∈ recentSignatures → signature ∈ handled
  reachable : ∀ signature, ∀ address ∈ addresses, ∀ floor, ledger.mentions signature address →
    floors address = some floor → floor < ledger.slotOf signature →
      signature ∈ handled ∨ Reachable ledger replayWindowSlots addresses cursors signature

variable {ledger : Ledger Signature} {replayWindowSlots : Slot} {addresses : List Address}
  {floors : Address → Option Slot} {handled : Set Signature} {contextOf : Address → Slot}
  {before reached after : PollingState Signature} {trace : List (CallEvent Signature)}
  {record : PollRecord Signature} {signature : Signature}

/-- Rewinding cursors brings more within reach. -/
theorem Covers.rewind {snapshot : CheckpointSnapshot Signature}
    (covers : Covers ledger replayWindowSlots addresses floors handled snapshot.cursors
      snapshot.recentSignatures) :
    Covers ledger replayWindowSlots addresses floors handled
      (snapshot.rewind replayWindowSlots).cursors snapshot.recentSignatures where
  recorded := covers.recorded
  reachable := by
    intro signature address monitored floor mentioned first above
    refine (covers.reachable signature address monitored floor mentioned first above).imp_right ?_
    rintro ⟨other, otherMonitored, otherMentioned, cursor, present, below⟩
    refine ⟨other, otherMonitored, otherMentioned,
      { scannedSlot := cursor.scannedSlot - replayWindowSlots }, ?_, ?_⟩
    · rw [rewind_getElem?, present, Option.map_some]
    · exact (Nat.sub_le_sub_right (Nat.sub_le _ _) _).trans_lt below

/-- Only the floors of monitored addresses matter. -/
theorem Covers.congr_floors {other : Address → Option Slot}
    {cursors : ExtTreeMap Address AddressCursor} {recentSignatures : ExtTreeMap Signature Slot}
    (same : ∀ address ∈ addresses, other address = floors address)
    (covers : Covers ledger replayWindowSlots addresses floors handled cursors recentSignatures) :
    Covers ledger replayWindowSlots addresses other handled cursors recentSignatures where
  recorded := covers.recorded
  reachable := by
    intro signature address monitored floor mentioned first above
    rw [same address monitored] at first
    exact covers.reachable signature address monitored floor mentioned first above

/-- More may be handled, as long as all of it is on record as handled. -/
theorem Covers.extend {cursors : ExtTreeMap Address AddressCursor}
    {recentSignatures : ExtTreeMap Signature Slot} {more : List (Signature × Slot)}
    (covers : Covers ledger replayWindowSlots addresses floors handled cursors recentSignatures) :
    Covers ledger replayWindowSlots addresses floors
      (handled ∪ { signature | ∃ slot, (signature, slot) ∈ more }) cursors
      (OrderedMap.insertAll recentSignatures more) where
  recorded := by
    intro signature member
    exact (OrderedMap.mem_insertAll.mp member).imp (covers.recorded signature) id
  reachable := by
    intro signature address monitored floor mentioned first above
    exact (covers.reachable signature address monitored floor mentioned first above).imp_left .inl

/-! ## Polls -/

theorem exists_blocked_address {contexts : SignatureContexts Signature} {context : SignatureContext}
    {retrying : List Signature} (present : contexts[signature]? = some context)
    (blocked : ¬signatureIsReady signature contexts (blockedAddresses contexts retrying)) :
    ∃ address ∈ context.addresses, ∃ other ∈ retrying, ∃ otherContext,
      contexts[other]? = some otherContext ∧ address ∈ otherContext.addresses := by
  simp only [signatureIsReady, present, List.all_eq_true, Bool.not_eq_true', not_forall] at blocked
  obtain ⟨address, listed, inBlocked⟩ := blocked
  have inBlocked : address ∈ blockedAddresses contexts retrying := by simpa using inBlocked
  obtain ⟨other, retried, among⟩ := List.mem_flatMap.mp inBlocked
  cases found : contexts[other]? with
  | none => simp [found] at among
  | some otherContext =>
      rw [found] at among
      exact ⟨address, listed, other, retried, otherContext, found, among⟩

variable [SignatureText Signature]

/-- A signature held back by another address stays reachable through it. -/
theorem Completed.reachable_of_blocked {context : SignatureContext}
    (completed : Completed replayWindowSlots addresses before trace reached after record)
    (distinct : addresses.Nodup) (replicas : Replicas ledger contextOf trace)
    (present : record.survey.contexts[signature]? = some context)
    (blocked : ¬signatureIsReady signature record.survey.contexts
      (blockedAddresses record.survey.contexts record.settled.retrying)) :
    Reachable ledger replayWindowSlots addresses after.cursors signature := by
  obtain ⟨address, listed, other, retried, otherContext, otherPresent, otherListed⟩ :=
    exists_blocked_address present blocked
  obtain ⟨batch, member, rfl, discovered⟩ :=
    mem_mentions.mp ((completed.indexes.justified _ _ present).2 address listed)
  obtain ⟨otherBatch, otherMember, sameAddress, otherDiscovered⟩ :=
    mem_mentions.mp ((completed.indexes.justified _ _ otherPresent).2 batch.address otherListed)
  have same := completed.batch_eq distinct otherMember member sameAddress
  have held : Held record.settled.retrying batch := ⟨_, same ▸ otherDiscovered, retried⟩
  obtain ⟨cursor, listing, batched⟩ := completed.batches.2 batch member
  obtain ⟨mentioned, slot, _⟩ := batched.sound replicas discovered
  refine ⟨batch.address, completed.batch_address_mem member, mentioned, cursor, ?_, ?_⟩
  · rcases completed.cursor_cases batch.address with ⟨unmoved, _⟩ | ⟨moved, movedMember, addressed, free, _⟩
    · rw [unmoved]
      exact batched.present
    · rw [completed.batch_eq distinct movedMember member addressed] at free
      exact absurd held free
  · rw [← slot]
    exact (batched.above _ discovered).1

/-- A slot past the context of a replica stays past the next floor. -/
theorem maximum_sub_lt {headSlot newest slot window : Nat}
    (unseen : minContextSlot headSlot window < slot) (above : newest - window < slot) :
    max headSlot newest - window < slot := by
  have unseen : headSlot - min 32 window < slot := unseen
  omega

/-- A successful poll handles a reachable signature, or had it recorded
already, or leaves it reachable. -/
theorem Completed.keeps_reachable
    (completed : Completed replayWindowSlots addresses before trace reached after record)
    (distinct : addresses.Nodup) (replicas : Replicas ledger contextOf trace)
    (reachable : Reachable ledger replayWindowSlots addresses record.prepared.cursors signature) :
    signature ∈ record.prepared.recentSignatures ∨ Handles trace after signature ∨
      Reachable ledger replayWindowSlots addresses after.cursors signature := by
  obtain ⟨address, monitored, mentioned, cursor, present, above⟩ := reachable
  rcases completed.cursor_cases address with ⟨same, _⟩ | ⟨batch, member, rfl, free, replaced⟩
  · exact .inr (.inr ⟨address, monitored, mentioned, cursor, same.trans present, above⟩)
  obtain ⟨listedCursor, listing, batched⟩ := completed.batches.2 batch member
  have sameCursor : listedCursor = cursor := by
    have listedPresent := batched.present
    rw [present] at listedPresent
    exact (Option.some.inj listedPresent).symm
  subst sameCursor
  by_cases seen : ledger.slotOf signature ≤ contextOf batch.address
  · have discovered := batched.complete replicas mentioned seen above
    obtain ⟨context, found, _, _⟩ := completed.indexes.listed _ _
      (mem_mentions.mpr ⟨batch, member, rfl, discovered⟩)
    by_cases recorded : signature ∈ record.prepared.recentSignatures
    · exact .inl recorded
    have fetched : signature ∈ (fetchOutcomes trace).map Prod.fst :=
      completed.fetched.mem_iff.mpr (mem_signaturesToFetch.mpr ⟨⟨context, found⟩, recorded⟩)
    rcases completed.settled.complete signature fetched with
      retrying | ⟨slot, caught⟩ | ⟨update, successful, rfl⟩
    · exact absurd ⟨_, discovered, retrying⟩ free
    · obtain ⟨⟨outcome, inFetched, poisons⟩, quarantined, _⟩ :=
        completed.settled.quarantined signature slot caught
      rw [← completed.settled_quarantinedSignatures] at quarantined
      exact .inr (.inl (.inr (.inr ⟨outcome, inFetched, poisons, quarantined⟩)))
    · by_cases ready : signatureIsReady update.signature record.survey.contexts
        (blockedAddresses record.survey.contexts record.settled.retrying)
      · refine .inr (.inl (.inr (.inl ?_)))
        rw [completed.queued]
        exact List.mem_map_of_mem (mem_readyUpdates.mpr ⟨successful, ready⟩)
      · exact .inr (.inr (completed.reachable_of_blocked distinct replicas found ready))
  · refine .inr (.inr ⟨batch.address, monitored, mentioned, batch.nextCursor, replaced, ?_⟩)
    have context := (batched.minimumContext_le replicas).trans_lt (Nat.lt_of_not_le seen)
    rw [batched.nextCursor_eq]
    refine maximum_sub_lt context ?_
    cases first : batch.signatures.head? with
    | none => exact above
    | some newest =>
        have newestSeen := (batched.sound replicas (List.mem_of_mem_head? first)).2.2
        exact (Nat.sub_le _ _).trans_lt (newestSeen.trans_lt (Nat.lt_of_not_le seen))

/-- The first floors after a poll: an address that gets its cursor now is
first listed down to two windows below the head. -/
def firstFloors (replayWindowSlots : Slot) (before after : ExtTreeMap Address AddressCursor)
    (head : Option Slot) (floors : Address → Option Slot) : Address → Option Slot := fun address =>
  if before[address]?.isNone && after[address]?.isSome then
    head.map fun headSlot => headSlot - replayWindowSlots - replayWindowSlots
  else floors address

/-- What a poll keeps, before it advances. -/
theorem Effect.covers {recorded : List (Signature × Slot)}
    (effect : Effect replayWindowSlots addresses before trace reached recorded)
    (covers : Covers ledger replayWindowSlots addresses floors handled before.cursors
      before.recentSignatures) :
    Covers ledger replayWindowSlots addresses
      (firstFloors replayWindowSlots before.cursors reached.cursors (headReading trace) floors)
      (handled ∪ { signature | Handles trace reached signature }) reached.cursors
      reached.recentSignatures where
  recorded := by
    intro signature member
    rw [effect.recentSignatures, OrderedMap.mem_insertAll] at member
    rcases member with member | ⟨slot, member⟩
    · exact .inl (covers.recorded signature member)
    · refine .inr ?_
      cases effect.justified signature slot member with
      | absorbed handed => exact .inl ⟨slot, handed⟩
      | queued sent => exact .inr (.inl sent)
      | quarantined fetched poisons quarantined => exact .inr (.inr ⟨_, fetched, poisons, quarantined⟩)
  reachable := by
    intro signature address monitored floor mentioned first above
    unfold firstFloors at first
    split at first
    · rename_i fresh
      simp only [Bool.and_eq_true, Option.isNone_iff_eq_none] at fresh
      obtain ⟨absent, present⟩ := fresh
      rcases effect.cursors with same | ⟨headSlot, reading, _, prepares⟩
      · rw [same, absent] at present
        contradiction
      · rw [reading, Option.map_some] at first
        cases first
        refine .inr ⟨address, monitored, mentioned, { scannedSlot := headSlot - replayWindowSlots }, ?_, above⟩
        rw [prepares address, absent, Option.none_or, if_pos monitored]
    · rcases covers.reachable signature address monitored floor mentioned first above with
        known | ⟨other, otherMonitored, otherMentioned, cursor, present, below⟩
      · exact .inl (.inl known)
      · exact .inr ⟨other, otherMonitored, otherMentioned, cursor,
          effect.cursor_present present, below⟩

theorem Completed.handles_iff
    (completed : Completed replayWindowSlots addresses before trace reached after record) :
    Handles trace after signature ↔ Handles trace reached signature := by
  unfold Handles
  rw [completed.quarantinedSignatures_eq]

/-- A successful poll still covers every transaction. -/
theorem Completed.covers {recorded : List (Signature × Slot)}
    (completed : Completed replayWindowSlots addresses before trace reached after record)
    (effect : Effect replayWindowSlots addresses before trace reached recorded)
    (distinct : addresses.Nodup) (replicas : Replicas ledger contextOf trace)
    (covers : Covers ledger replayWindowSlots addresses floors handled before.cursors
      before.recentSignatures) :
    Covers ledger replayWindowSlots addresses
      (firstFloors replayWindowSlots before.cursors after.cursors (headReading trace) floors)
      (handled ∪ { signature | Handles trace after signature }) after.cursors
      after.recentSignatures := by
  have unadvanced := effect.covers covers
  have sameFloors : firstFloors replayWindowSlots before.cursors after.cursors (headReading trace) floors =
      firstFloors replayWindowSlots before.cursors reached.cursors (headReading trace) floors := by
    funext address
    simp only [firstFloors, completed.isSome_cursor]
  constructor
  · intro signature member
    obtain ⟨slot, found⟩ := OrderedMap.mem_iff_getElem?.mp member
    rw [completed.recentSignatures_getElem?] at found
    have present := OrderedMap.mem_iff_getElem?.mpr ⟨slot, (Option.filter_eq_some_iff.mp found).1⟩
    simpa [completed.handles_iff] using unadvanced.recorded signature present
  · intro signature address monitored floor mentioned first above
    rw [sameFloors] at first
    rcases unadvanced.reachable signature address monitored floor mentioned first above with
      known | reachable
    · exact .inl (by simpa [completed.handles_iff] using known)
    rw [completed.unmoved] at reachable
    rcases completed.keeps_reachable distinct replicas reachable with recorded | handles | reachable
    · refine .inl ?_
      rw [completed.recentSignatures, OrderedMap.mem_insertAll] at recorded
      rcases recorded with recorded | absorbed
      · exact .inl (covers.recorded signature recorded)
      · exact .inr (.inl absorbed)
    · exact .inl (.inr handles)
    · exact .inr reachable

/-! ## Runs -/

/-- The polling state of a process, what it has handled since its start or had
handled when its checkpoint was taken, and the checkpoints saved so far. -/
structure PollerRun (Signature : Type) [LinearOrder Signature] where
  state : PollingState Signature := {}
  handled : Set Signature := ∅
  /-- The floor each address was first listed down to. -/
  floors : Address → Option Slot := fun _ => none
  /-- Every saved checkpoint, with what had been handled when it was taken. -/
  saved : Set (Bytes × Set Signature) := ∅

/-- A poll may end in any way.  A saved checkpoint may be reloaded at any time,
together with whatever the shipped journal adds. -/
inductive PollerStep (ledger : Ledger Signature) (codec : JsonCodec) (store : CheckpointStore)
    (datasource : RpcPollingDatasource) (addresses : List Address) :
    PollerRun Signature → PollerRun Signature → Prop where
  | poll {run : PollerRun Signature} {pages : Nat} {trace : List (CallEvent Signature)}
      {result : Except (PollError Signature) PollOutcome} {after : PollingState Signature}
      {contextOf : Address → Slot}
      (ends : Action.Ends (poll pages datasource addresses) run.state trace result after)
      (answered : Program.Allowed Call.Answered trace)
      (replicas : Replicas ledger contextOf trace) :
      PollerStep ledger codec store datasource addresses run {
        run with
        state := after
        handled := run.handled ∪ { signature | Handles trace after signature }
        floors := firstFloors datasource.replayWindow.slots run.state.cursors after.cursors
          (headReading trace) run.floors }
  | save {run : PollerRun Signature}
      (complete : run.state.cursors.keys = store.identity.addresses) :
      PollerStep ledger codec store datasource addresses run {
        run with saved := insert (store.encode codec run.state.snapshot, run.handled) run.saved }
  | reload {run : PollerRun Signature} {raw : Bytes} {handled : Set Signature}
      {snapshot : CheckpointSnapshot Signature} {shipped : List (Signature × Slot)}
      (saved : (raw, handled) ∈ run.saved)
      (loaded : store.interpret codec raw = .ok (.loaded snapshot))
      (typed : ∀ entry ∈ shipped, entry.2 ≤ u64Max) :
      PollerStep ledger codec store datasource addresses run {
        run with
        state := snapshot.resume.recordRecentSignatures shipped
        handled := handled ∪ { signature | ∃ slot, (signature, slot) ∈ shipped } }

/-- Everything a run keeps: the polling state and every saved checkpoint cover
every transaction, and a saved checkpoint leaves no address without a cursor. -/
structure PollerRun.Covered (ledger : Ledger Signature) (codec : JsonCodec) (store : CheckpointStore)
    (addresses : List Address) (run : PollerRun Signature) : Prop where
  bounded : run.state.Bounded
  covers : Covers ledger store.replayWindowSlots addresses run.floors run.handled run.state.cursors
    run.state.recentSignatures
  saved : ∀ raw handled, (raw, handled) ∈ run.saved → ∃ snapshot : CheckpointSnapshot Signature,
    raw = store.encode codec snapshot ∧ snapshot.Bounded ∧
    snapshot.cursors.keys = store.identity.addresses ∧
    Covers ledger store.replayWindowSlots addresses run.floors handled snapshot.cursors
      snapshot.recentSignatures
  installed : run.saved.Nonempty → ∀ address ∈ addresses, run.state.cursors[address]?.isSome

theorem covered_start {codec : JsonCodec} {store : CheckpointStore} :
    PollerRun.Covered ledger codec store addresses ({} : PollerRun Signature) where
  bounded := ⟨by simp, by simp⟩
  covers := ⟨by simp, by simp⟩
  saved := by simp
  installed := by simp

variable {codec : JsonCodec} {store : CheckpointStore} {datasource : RpcPollingDatasource}
  {run next : PollerRun Signature}

theorem PollerStep.covered (window : store.replayWindowSlots = datasource.replayWindow.slots)
    (monitors : ∀ address ∈ addresses, address ∈ store.identity.addresses)
    (distinct : addresses.Nodup) (step : PollerStep ledger codec store datasource addresses run next)
    (covered : run.Covered ledger codec store addresses) : next.Covered ledger codec store addresses := by
  cases step with
  | @poll _ trace result after contextOf ends answered replicas =>
      obtain ⟨reached, recorded, effect, ending⟩ := poll_cases ends answered
      rw [← window] at effect ending ⊢
      have bounded := effect.bounded covered.bounded answered
      have ended : after.Bounded ∧
          (∀ address : Address, after.cursors[address]?.isSome = reached.cursors[address]?.isSome) ∧
          Covers ledger store.replayWindowSlots addresses
            (firstFloors store.replayWindowSlots run.state.cursors after.cursors (headReading trace)
              run.floors)
            (run.handled ∪ { signature | Handles trace after signature }) after.cursors
            after.recentSignatures := by
        rcases ending with ⟨_, rfl⟩ | ⟨_, record, _, completed⟩
        · exact ⟨bounded, fun _ => rfl, effect.covers covered.covers⟩
        · exact ⟨completed.bounded bounded answered, completed.isSome_cursor,
            completed.covers effect distinct replicas covered.covers⟩
      obtain ⟨afterBounded, sameCursors, covers⟩ := ended
      refine ⟨afterBounded, covers, fun raw handled member => ?_, fun saved address monitored => ?_⟩
      · obtain ⟨snapshot, encoded, snapshotBounded, keys, snapshotCovers⟩ :=
          covered.saved raw handled member
        refine ⟨snapshot, encoded, snapshotBounded, keys, snapshotCovers.congr_floors ?_⟩
        intro address monitored
        have present := covered.installed ⟨_, member⟩ address monitored
        simp only [firstFloors, Option.isNone_eq_false_iff.mpr present, Bool.false_and,
          Bool.false_eq_true, if_false]
      · obtain ⟨cursor, present⟩ := Option.isSome_iff_exists.mp
          (covered.installed saved address monitored)
        rw [sameCursors address, effect.cursor_present present]
        rfl
  | save complete =>
      refine ⟨covered.bounded, covered.covers, fun raw handled member => ?_, fun _ address monitored => ?_⟩
      · rcases Set.mem_insert_iff.mp member with same | member
        · obtain ⟨rfl, rfl⟩ := Prod.mk.injEq .. ▸ same
          exact ⟨run.state.snapshot, rfl, ⟨covered.bounded.cursors, covered.bounded.recentSignatures⟩,
            complete, covered.covers⟩
        · exact covered.saved raw handled member
      · have listed := monitors address monitored
        rw [← complete, ExtTreeMap.mem_keys] at listed
        rwa [ExtTreeMap.isSome_getElem?_iff_mem]
  | @reload raw handled snapshot shipped saved loaded typed =>
      obtain ⟨taken, rfl, bounded, keys, covers⟩ := covered.saved raw handled saved
      rw [CheckpointStore.interpret_encode bounded rfl keys] at loaded
      cases loaded
      refine ⟨⟨?_, ?_⟩, ?_, covered.saved, fun _ address monitored => ?_⟩
      · intro address cursor found
        simp only [recordRecentSignatures_cursors, resume_cursors, rewind_getElem?,
          Option.map_eq_some_iff] at found
        obtain ⟨earlier, present, rfl⟩ := found
        exact (Nat.sub_le _ _).trans (bounded.cursors address earlier present)
      · intro signature slot found
        rw [recordRecentSignatures_recentSignatures] at found
        rcases OrderedMap.getElem?_insertAll found with member | found
        · exact typed _ member
        · exact bounded.recentSignatures signature slot found
      · simpa using covers.rewind.extend
      · have listed := monitors address monitored
        rw [← keys, ExtTreeMap.mem_keys, ← ExtTreeMap.isSome_getElem?_iff_mem] at listed
        simpa using listed

/-- Whatever a run does, every transaction above the first floor of an address
it mentions has been handled or is still within reach of a listing. -/
theorem nothing_skipped {path genesisHash : String} (distinct : addresses.Nodup)
    (reached : Relation.ReflTransGen
      (PollerStep ledger codec (datasource.checkpointStore path genesisHash addresses) datasource addresses)
      {} run) :
    ∀ signature, ∀ address ∈ addresses, ∀ floor, ledger.mentions signature address →
      run.floors address = some floor → floor < ledger.slotOf signature →
      signature ∈ run.handled ∨
        Reachable ledger datasource.replayWindow.slots addresses run.state.cursors signature := by
  have covered : run.Covered ledger codec (datasource.checkpointStore path genesisHash addresses)
      addresses := by
    induction reached with
    | refl => exact covered_start
    | tail _ step ih =>
        exact step.covered rfl (fun _ => CheckpointStore.mem_new_addresses.mpr) distinct ih
  exact covered.covers.reachable

/-! A run that polls once, saves its checkpoint and restarts from it. -/

def coverageScene : Scene (Fin 58) where
  headSlot := 100
  firstAvailableBlock := 0
  entries := [({ signature := 1, slot := 93 }, ["program"])]
  contextOf := fun _ => 95
  outcome := fun _ => .ok (convertible 93 (by decide))
  delivered := []

def coverageLedger : Ledger (Fin 58) := .ofEntries coverageScene.entries (by decide) (by decide)

def coverageStore : CheckpointStore :=
  sampleDatasource.checkpointStore "rpc-polling.json" "genesis" ["program"]

def coveragePolled : PollingState (Fin 58) := coverageScene.after 1 sampleDatasource ["program"] {}

theorem coverageSeparates : JsonCodec.Separates [coverageStore.document coveragePolled.snapshot] where
  distinct := by simp
  visible := by decide +kernel

def coverageRestarted : PollerRun (Fin 58) where
  state := (coveragePolled.snapshot.rewind 10).resume.recordRecentSignatures []
  handled := (∅ ∪ { signature | Handles (coverageScene.trace 1 sampleDatasource ["program"] {})
    coveragePolled signature }) ∪ { signature | ∃ slot, (signature, slot) ∈ ([] : List (Fin 58 × Slot)) }
  floors := firstFloors 10 ∅ coveragePolled.cursors
    (headReading (coverageScene.trace 1 sampleDatasource ["program"] {})) fun _ => none
  saved := insert (coverageStore.encode (.sample coverageSeparates) coveragePolled.snapshot,
    ∅ ∪ { signature | Handles (coverageScene.trace 1 sampleDatasource ["program"] {})
      coveragePolled signature }) ∅

theorem coverageRestarted_reached : Relation.ReflTransGen
    (PollerStep coverageLedger (.sample coverageSeparates) coverageStore sampleDatasource ["program"])
    {} coverageRestarted := by
  have typed : coverageScene.Typed := ⟨by decide, by decide, by decide⟩
  have bounded : coveragePolled.snapshot.Bounded :=
    CheckpointSnapshot.bounded_of_all (by decide +kernel) (by decide +kernel)
  have complete : coveragePolled.snapshot.cursors.keys = coverageStore.identity.addresses := by
    decide +kernel
  refine .tail (.tail (.single (.poll coverageScene.ends (Scene.answered typed) (Scene.replicas ?_)))
    (.save complete)) (.reload (Set.mem_insert _ _)
      (CheckpointStore.interpret_encode bounded rfl complete) (by simp))
  decide +kernel

theorem nothing_skipped_restarted : 1 ∈ coverageRestarted.handled ∨
    Reachable coverageLedger 10 ["program"] coverageRestarted.state.cursors 1 :=
  nothing_skipped (by decide) coverageRestarted_reached 1 "program" (by simp) 80
    ⟨_, List.mem_singleton.mpr rfl, rfl, by simp⟩ (by decide +kernel) (by decide +kernel)

end Microscope.Polling
