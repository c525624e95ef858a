import Microscope.Polling.Surveying
import Microscope.Polling.Settling

namespace Microscope.Polling

open Std Microscope.Data

/-! # The stages of a poll -/

variable {Signature : Type}

/-- What a trace says, all observers at once. -/
structure Says (trace : List (CallEvent Signature)) (deliveries : List (Signature × Slot))
    (head : Option Slot) (selection : List Signature)
    (outcomes : List (Signature × FetchOutcome)) (sends : List Signature) : Prop where
  delivered : delivered trace = deliveries
  headReading : headReading trace = head
  selected : selected trace = selection
  fetchOutcomes : fetchOutcomes trace = outcomes
  queued : queued trace = sends

section Says

variable {trace more : List (CallEvent Signature)}
  {deliveries laterDeliveries : List (Signature × Slot)} {head laterHead : Option Slot}
  {selection laterSelection sends laterSends : List Signature}
  {outcomes laterOutcomes : List (Signature × FetchOutcome)}

theorem says_nil : Says ([] : List (CallEvent Signature)) [] none [] [] [] :=
  ⟨rfl, rfl, rfl, rfl, rfl⟩

theorem Says.append (first : Says trace deliveries head selection outcomes sends)
    (second : Says more laterDeliveries laterHead laterSelection laterOutcomes laterSends) :
    Says (trace ++ more) (deliveries ++ laterDeliveries) (head.or laterHead)
      (selection ++ laterSelection) (outcomes ++ laterOutcomes) (sends ++ laterSends) := by
  constructor
  · rw [delivered_append, first.delivered, second.delivered]
  · rw [headReading_append, first.headReading, second.headReading]
  · rw [selected_append, first.selected, second.selected]
  · rw [fetchOutcomes_append, first.fetchOutcomes, second.fetchOutcomes]
  · rw [queued_append, first.queued, second.queued]

theorem says_quiet (quiet : ∀ event ∈ trace, event.1.Quiet) : Says trace [] none [] [] [] := by
  obtain ⟨delivered, queued, fetchOutcomes, selected, headReading⟩ := quiet_trace quiet
  exact ⟨delivered, headReading, selected, fetchOutcomes, queued⟩

end Says

/-- The slots and signatures the queued updates are recorded with. -/
def recordsOf (updates : List (FetchedUpdate Signature)) : List (Signature × Slot) :=
  updates.map fun fetched => (fetched.signature, fetched.slot)

theorem mem_recordsOf {updates : List (FetchedUpdate Signature)} {signature : Signature} {slot : Slot} :
    (signature, slot) ∈ recordsOf updates ↔
      ∃ fetched ∈ updates, fetched.signature = signature ∧ fetched.slot = slot := by
  simp [recordsOf]

variable [LinearOrder Signature] {state after : PollingState Signature}
  {trace : List (CallEvent Signature)} {headSlot replayWindowSlots : Slot}
  {addresses : List Address} {datasource : RpcPollingDatasource}

@[simp] theorem recordRecentSignatures_cursors {deliveries : List (Signature × Slot)} :
    (state.recordRecentSignatures deliveries).cursors = state.cursors := by
  induction deliveries generalizing state with
  | nil => rfl
  | cons delivery rest ih => exact ih

@[simp] theorem recordRecentSignatures_poisonFailures {deliveries : List (Signature × Slot)} :
    (state.recordRecentSignatures deliveries).poisonFailures = state.poisonFailures := by
  induction deliveries generalizing state with
  | nil => rfl
  | cons delivery rest ih => exact ih

@[simp] theorem recordRecentSignatures_recentSignatures {deliveries : List (Signature × Slot)} :
    (state.recordRecentSignatures deliveries).recentSignatures =
      OrderedMap.insertAll state.recentSignatures deliveries := by
  induction deliveries generalizing state with
  | nil => rfl
  | cons delivery rest ih => exact ih

theorem quarantinedSignatures_congr {other : PollingState Signature}
    (same : state.poisonFailures = other.poisonFailures) :
    state.quarantinedSignatures = other.quarantinedSignatures := by
  unfold PollingState.quarantinedSignatures
  rw [same]

/-! ## Heads and cursors -/

theorem absorbDeliveredSignatures_cases {result : Except (PollError Signature) Unit}
    (ends : Action.Ends (absorbDeliveredSignatures datasource) state trace result after) :
    ∃ deliveries, Says trace deliveries none [] [] [] ∧ result = .ok () ∧
      after = state.recordRecentSignatures deliveries := by
  unfold absorbDeliveredSignatures at ends
  split at ends
  · obtain ⟨deliveries, later, rfl, absorbed⟩ := Action.ends_request_bind_iff.mp ends
    obtain ⟨rfl, rfl, rfl⟩ := Action.ends_modify_iff.mp absorbed
    exact ⟨deliveries, ⟨by simp [deliveriesOf], rfl, rfl, rfl, rfl⟩, rfl, rfl⟩
  · obtain ⟨rfl, rfl, rfl⟩ := Action.ends_pure_iff.mp ends
    exact ⟨[], says_nil, rfl, rfl⟩

theorem readSlot_cases {result : Except (PollError Signature) Slot}
    (ends : Action.Ends readSlot state trace result after) :
    after = state ∧ ((∃ failure, result = .error failure ∧ Says trace [] none [] [] []) ∨
      ∃ headSlot, result = .ok headSlot ∧ Says trace [] (some headSlot) [] [] []) := by
  obtain ⟨response, later, rfl, answered⟩ := Action.ends_request_bind_iff.mp ends
  cases response with
  | error error =>
      obtain ⟨rfl, rfl, rfl⟩ := Action.ends_fail_iff.mp answered
      exact ⟨rfl, .inl ⟨_, rfl, rfl, rfl, rfl, rfl, rfl⟩⟩
  | ok headSlot =>
      obtain ⟨rfl, rfl, rfl⟩ := Action.ends_pure_iff.mp answered
      exact ⟨rfl, .inr ⟨headSlot, rfl, rfl, rfl, rfl, rfl, rfl⟩⟩

theorem refuseCursorAheadOfHead_cases {result : Except (PollError Signature) Unit}
    (ends : Action.Ends (refuseCursorAheadOfHead headSlot replayWindowSlots) state trace result after) :
    trace = [] ∧ after = state ∧
      (result = .ok () → cursorAheadOfHead state.cursors headSlot replayWindowSlots = none) := by
  have ends := Action.ends_read_bind_iff.mp ends
  split at ends
  · obtain ⟨rfl, rfl, rfl⟩ := Action.ends_fail_iff.mp ends
    exact ⟨rfl, rfl, by simp⟩
  · rename_i tolerated
    obtain ⟨rfl, rfl, rfl⟩ := Action.ends_pure_iff.mp ends
    exact ⟨rfl, rfl, fun _ => tolerated⟩

theorem absorbDeliveredSignatures_preparing :
    Action.Obeys (fun _ _ => True) Call.Preparing (absorbDeliveredSignatures datasource) state := by
  unfold absorbDeliveredSignatures
  split
  · exact Action.Obeys.bind (Action.obeys_request.mpr trivial) fun _ _ _ _ _ => Action.obeys_modify
  · exact Action.obeys_pure

theorem readSlot_preparing :
    Action.Obeys (fun _ _ => True) Call.Preparing (readSlot : PollAction Signature Slot) state := by
  refine Action.Obeys.bind (Action.obeys_request.mpr trivial) fun _ response _ _ _ => ?_
  cases response with
  | error error => exact Action.obeys_fail
  | ok headSlot => exact Action.obeys_pure

theorem refuseCursorAheadOfHead_silent {permitted : Call Signature → Prop} :
    Action.Obeys (fun _ _ => True) permitted
      (refuseCursorAheadOfHead headSlot replayWindowSlots) state := by
  refine Action.Obeys.bind Action.obeys_read fun _ state _ _ _ => ?_
  split
  · exact Action.obeys_fail
  · exact Action.obeys_pure

/-- No cursor of an accepted head is implausibly far beyond it. -/
theorem cursorAheadOfHead_eq_none_iff {cursors : ExtTreeMap Address AddressCursor} :
    cursorAheadOfHead cursors headSlot replayWindowSlots = none ↔
      ∀ (address : Address) (cursor : AddressCursor), cursors[address]? = some cursor →
        cursor.scannedSlot ≤ saturatingAdd headSlot replayWindowSlots := by
  simp [cursorAheadOfHead, ExtTreeMap.mem_toList_iff_getElem?_eq_some]

/-- Every address has a cursor; those that had one keep it. -/
structure Installs (addresses : List Address) (replaySlot : Slot)
    (before after : PollingState Signature) : Prop where
  recentSignatures : after.recentSignatures = before.recentSignatures
  poisonFailures : after.poisonFailures = before.poisonFailures
  cursors : ∀ address : Address, after.cursors[address]? = before.cursors[address]?.or
    (if address ∈ addresses then some { scannedSlot := replaySlot } else none)

theorem Installs.trans {replaySlot : Slot} {more : List Address}
    {first second third : PollingState Signature}
    (earlier : Installs addresses replaySlot first second)
    (later : Installs more replaySlot second third) :
    Installs (addresses ++ more) replaySlot first third where
  recentSignatures := later.recentSignatures.trans earlier.recentSignatures
  poisonFailures := later.poisonFailures.trans earlier.poisonFailures
  cursors := by
    intro address
    rw [later.cursors, earlier.cursors]
    cases first.cursors[address]? with
    | some cursor => simp
    | none => by_cases listed : address ∈ addresses <;> simp [listed]

theorem installCursor_installs {replaySlot : Slot} {progress : PollingState Signature × Bool}
    {address : Address} :
    Installs [address] replaySlot progress.1 (installCursor replaySlot progress address).1 := by
  unfold installCursor
  split
  · rename_i present
    obtain ⟨cursor, found⟩ := OrderedMap.mem_iff_getElem?.mp (by simpa using present)
    refine ⟨rfl, rfl, fun other => ?_⟩
    by_cases same : other = address
    · simp [same, found]
    · simp [same]
  · rename_i absent
    have missing : progress.1.cursors[address]? = none := by simpa using absent
    refine ⟨rfl, rfl, fun other => ?_⟩
    rw [OrderedMap.getElem?_insert]
    by_cases same : address = other
    · simp [← same, missing]
    · simp [same, Ne.symm same]

theorem foldl_installCursor {replaySlot : Slot} (progress : PollingState Signature × Bool) :
    Installs addresses replaySlot progress.1 (addresses.foldl (installCursor replaySlot) progress).1 := by
  induction addresses generalizing progress with
  | nil => exact ⟨rfl, rfl, by simp⟩
  | cons address rest ih => exact installCursor_installs.trans (ih _)

theorem installCursors_cases {result : Except (PollError Signature) Bool}
    (ends : Action.Ends (installCursors addresses headSlot replayWindowSlots) state trace result after) :
    trace = [] ∧ (∃ initialized, result = .ok initialized) ∧
      Installs addresses (headSlot - replayWindowSlots) state after := by
  change Action.Ends (pure _) _ _ _ _ at ends
  obtain ⟨rfl, rfl, rfl⟩ := Action.ends_pure_iff.mp ends
  exact ⟨rfl, ⟨_, rfl⟩, foldl_installCursor (state, false)⟩

theorem installCursors_silent {permitted : Call Signature → Prop} :
    Action.Obeys (fun _ _ => True) permitted
      (installCursors addresses headSlot replayWindowSlots) state :=
  Action.Obeys.bind Action.obeys_read fun _ _ _ _ _ =>
    Action.Obeys.bind Action.obeys_modify fun _ _ _ _ _ => Action.obeys_pure

/-! ## The history boundary -/

theorem verifyHistoryBoundary_preparing :
    Action.Obeys (fun _ _ => True) Call.Preparing
      (verifyHistoryBoundary : PollAction Signature Bool) state := by
  refine Action.Obeys.bind (Action.obeys_request.mpr trivial) fun _ checkedAt _ _ _ => ?_
  refine Action.Obeys.bind Action.obeys_read fun _ state _ _ _ => ?_
  split
  · split
    · exact Action.obeys_pure
    · refine Action.Obeys.bind (readFirstAvailableBlock_obeys trivial) fun _ boundary _ _ _ => ?_
      refine Action.Obeys.bind Action.obeys_modify fun _ _ _ _ _ => ?_
      split
      · exact Action.obeys_fail
      · exact Action.obeys_pure
  · exact Action.obeys_pure

theorem verifyHistoryBoundary_cases {result : Except (PollError Signature) Bool}
    (ends : Action.Ends verifyHistoryBoundary state trace result after) :
    Says trace [] none [] [] [] ∧ after.cursors = state.cursors ∧
      after.recentSignatures = state.recentSignatures ∧
      after.poisonFailures = state.poisonFailures := by
  obtain ⟨checkedAt, later, rfl, checked⟩ := Action.ends_request_bind_iff.mp ends
  have clock : Says [(⟨.now, checkedAt⟩ : CallEvent Signature)] [] none [] [] [] :=
    ⟨rfl, rfl, rfl, rfl, rfl⟩
  suffices rest : Says later [] none [] [] [] ∧ after.cursors = state.cursors ∧
      after.recentSignatures = state.recentSignatures ∧
      after.poisonFailures = state.poisonFailures from
    ⟨clock.append rest.1, rest.2⟩
  have checked := Action.ends_read_bind_iff.mp checked
  split at checked
  · split at checked
    · obtain ⟨rfl, rfl, rfl⟩ := Action.ends_pure_iff.mp checked
      exact ⟨says_nil, rfl, rfl, rfl⟩
    · rcases Action.ends_bind_iff.mp checked with
        ⟨failure, rfl, failed⟩ | ⟨first, second, boundary, middle, rfl, boundaryRead, compared⟩
      · obtain ⟨rfl, _⟩ := readFirstAvailableBlock_cases failed
        have quiet := readFirstAvailableBlock_quiet.ends failed (by simp [Program.Allowed])
        exact ⟨says_quiet quiet, rfl, rfl, rfl⟩
      · obtain ⟨rfl, _⟩ := readFirstAvailableBlock_cases boundaryRead
        have quiet := readFirstAvailableBlock_quiet.ends boundaryRead (by simp [Program.Allowed])
        have compared := Action.ends_modify_bind_iff.mp compared
        split at compared
        · obtain ⟨rfl, rfl, rfl⟩ := Action.ends_fail_iff.mp compared
          exact ⟨by simpa using says_quiet quiet, rfl, rfl, rfl⟩
        · obtain ⟨rfl, rfl, rfl⟩ := Action.ends_pure_iff.mp compared
          exact ⟨by simpa using says_quiet quiet, rfl, rfl, rfl⟩
  · obtain ⟨rfl, rfl, rfl⟩ := Action.ends_pure_iff.mp checked
    exact ⟨says_nil, rfl, rfl, rfl⟩

/-! ## Fetching and queueing -/

variable {contexts : SignatureContexts Signature}

theorem mem_signaturesToFetch {signature : Signature} :
    signature ∈ signaturesToFetch contexts state ↔
      (∃ context, contexts[signature]? = some context) ∧ signature ∉ state.recentSignatures := by
  simp only [signaturesToFetch, List.mem_filter, ExtTreeMap.mem_keys, OrderedMap.mem_iff_getElem?,
    Bool.not_eq_true', Bool.eq_false_iff, ne_eq, PollingState.hasRecentSignature_iff]

theorem nodup_signaturesToFetch : (signaturesToFetch contexts state).Nodup :=
  ExtTreeMap.nodup_keys.filter _

theorem mem_readyUpdates {contexts : SignatureContexts Signature} {settled : Settled Signature}
    {fetched : FetchedUpdate Signature} :
    fetched ∈ readyUpdates contexts settled ↔ fetched ∈ settled.successful ∧
      signatureIsReady fetched.signature contexts (blockedAddresses contexts settled.retrying) := by
  simp [readyUpdates, List.mem_insertionSort]

/-- Updates are queued and recorded in order until the channel closes. -/
theorem queueUpdates_cases {updates : List (FetchedUpdate Signature)}
    {result : Except (PollError Signature) Unit}
    (ends : Action.Ends (queueUpdates updates) state trace result after) :
    ∃ sent unsent, updates = sent ++ unsent ∧
      Says trace [] none [] [] (sent.map fun fetched => fetched.update.signature) ∧
      after = state.recordRecentSignatures (recordsOf sent) ∧ (result = .ok () → unsent = []) := by
  induction updates generalizing state trace with
  | nil =>
      obtain ⟨rfl, rfl, rfl⟩ := Action.ends_pure_iff.mp ends
      exact ⟨[], [], rfl, says_nil, rfl, fun _ => rfl⟩
  | cons fetched updates ih =>
      obtain ⟨response, later, rfl, answered⟩ := Action.ends_request_bind_iff.mp ends
      cases response with
      | error closed =>
          obtain ⟨rfl, rfl, rfl⟩ := Action.ends_fail_iff.mp answered
          exact ⟨[], fetched :: updates, rfl, ⟨rfl, rfl, rfl, rfl, rfl⟩, rfl, by simp⟩
      | ok _ =>
          obtain ⟨sent, unsent, rfl, said, rfl, whole⟩ := ih (Action.ends_modify_bind_iff.mp answered)
          have first : Says [(⟨.send (.transaction fetched.update), .ok ()⟩ : CallEvent Signature)]
              [] none [] [] [fetched.update.signature] := ⟨rfl, rfl, rfl, rfl, rfl⟩
          exact ⟨fetched :: sent, unsent, rfl, first.append said, rfl, whole⟩

theorem queueUpdates_fetching {updates : List (FetchedUpdate Signature)} :
    Action.Obeys (fun _ _ => True) Call.Fetching (queueUpdates updates) state := by
  induction updates generalizing state with
  | nil => exact Action.obeys_pure
  | cons fetched updates ih =>
      refine Action.Obeys.bind (Action.obeys_request.mpr trivial) fun _ response _ _ _ => ?_
      cases response with
      | error closed => exact Action.obeys_fail
      | ok _ => exact Action.Obeys.bind Action.obeys_modify fun _ _ _ _ _ => ih

/-! ## Advancing -/

/-- Some signature of the batch is still retrying. -/
def Held (retrying : List Signature) (batch : AddressBatch Signature) : Prop :=
  ∃ discovered ∈ batch.signatures, discovered.signature ∈ retrying

variable {retrying : List Signature} {batches : List (AddressBatch Signature)}
  {progress : PollingState Signature × Bool} {batch : AddressBatch Signature}

theorem any_retrying_iff :
    (batch.signatures.any fun discovered => retrying.contains discovered.signature) = true ↔
      Held retrying batch := by
  simp [Held]

theorem advanceReadyCursors_append :
    advanceReadyCursors state (batches ++ [batch]) retrying =
      advanceReadyCursor retrying (advanceReadyCursors state batches retrying) batch := by
  simp [advanceReadyCursors]

@[simp] theorem advanceReadyCursor_recentSignatures :
    (advanceReadyCursor retrying progress batch).1.recentSignatures = progress.1.recentSignatures := by
  unfold advanceReadyCursor
  split <;> rfl

@[simp] theorem advanceReadyCursor_poisonFailures :
    (advanceReadyCursor retrying progress batch).1.poisonFailures = progress.1.poisonFailures := by
  unfold advanceReadyCursor
  split <;> rfl

@[simp] theorem advanceReadyCursors_recentSignatures :
    (advanceReadyCursors state batches retrying).1.recentSignatures = state.recentSignatures := by
  induction batches using List.reverseRecOn with
  | nil => rfl
  | append_singleton batches batch ih =>
      rw [advanceReadyCursors_append, advanceReadyCursor_recentSignatures, ih]

@[simp] theorem advanceReadyCursors_poisonFailures :
    (advanceReadyCursors state batches retrying).1.poisonFailures = state.poisonFailures := by
  induction batches using List.reverseRecOn with
  | nil => rfl
  | append_singleton batches batch ih =>
      rw [advanceReadyCursors_append, advanceReadyCursor_poisonFailures, ih]

/-- A cursor is replaced by the next cursor of a batch of its address that is
not held, or stays when all of them are held. -/
theorem advanceReadyCursors_cases (address : Address) :
    ((advanceReadyCursors state batches retrying).1.cursors[address]? = state.cursors[address]? ∧
      ∀ batch ∈ batches, batch.address = address → Held retrying batch) ∨
    ∃ batch ∈ batches, batch.address = address ∧ ¬Held retrying batch ∧
      (advanceReadyCursors state batches retrying).1.cursors[address]? = some batch.nextCursor := by
  induction batches using List.reverseRecOn with
  | nil => exact .inl ⟨rfl, by simp⟩
  | append_singleton batches batch ih =>
      rw [advanceReadyCursors_append]
      unfold advanceReadyCursor
      split
      · rename_i held
        rcases ih with ⟨same, allHeld⟩ | ⟨other, member, rest⟩
        · refine .inl ⟨same, fun other member addressed => ?_⟩
          rcases List.mem_append.mp member with member | member
          · exact allHeld other member addressed
          · rw [List.mem_singleton.mp member]
            exact any_retrying_iff.mp held
        · exact .inr ⟨other, List.mem_append_left _ member, rest⟩
      · rename_i free
        have free : ¬Held retrying batch := fun held => free (any_retrying_iff.mpr held)
        by_cases addressed : batch.address = address
        · exact .inr ⟨batch, by simp, addressed, free, by simp [addressed]⟩
        simp only [OrderedMap.getElem?_insert, addressed, if_false]
        rcases ih with ⟨same, allHeld⟩ | ⟨other, member, rest⟩
        · refine .inl ⟨same, fun other member otherAddressed => ?_⟩
          rcases List.mem_append.mp member with member | member
          · exact allHeld other member otherAddressed
          · rw [List.mem_singleton.mp member] at otherAddressed
            contradiction
        · exact .inr ⟨other, List.mem_append_left _ member, rest⟩

variable [SignatureText Signature]

theorem fetchTransactions_cases {result : Except (PollError Signature) (Settled Signature)}
    (ends : Action.Ends (fetchTransactions contexts) state trace result after) :
    ∃ fetched, trace = [⟨.rpc (.fetchTransactions (signaturesToFetch contexts state)), fetched⟩] ∧
      result = .ok (settleOutcomes contexts state fetched) ∧
      after = (settleOutcomes contexts state fetched).state := by
  obtain ⟨fetched, later, rfl, settled⟩ := Action.ends_request_bind_iff.mp
    (Action.ends_read_bind_iff.mp ends)
  change Action.Ends (pure _) (settleOutcomes contexts state fetched).state _ _ _ at settled
  obtain ⟨rfl, rfl, rfl⟩ := Action.ends_pure_iff.mp settled
  exact ⟨fetched, rfl, rfl, rfl⟩

theorem fetchTransactions_fetching :
    Action.Obeys (fun _ _ => True) Call.Fetching (fetchTransactions contexts) state :=
  Action.Obeys.bind Action.obeys_read fun _ _ _ _ _ =>
    Action.Obeys.bind (Action.obeys_request.mpr trivial) fun _ _ _ _ _ =>
      Action.Obeys.bind Action.obeys_modify fun _ _ _ _ _ => Action.obeys_pure

end Microscope.Polling
