import Microscope.Polling.Stages

namespace Microscope.Polling

open Std Microscope.Data

/-! # What a poll does

However a poll ends, it has recorded exactly what it handled.  A poll that
succeeds has also surveyed every address, settled every selected signature,
queued what was ready and replaced the cursors that were not held.
-/

variable {Signature : Type} [SignatureText Signature] [LinearOrder Signature]

/-- Why a signature is recorded, and at which slot. -/
inductive Records (trace : List (CallEvent Signature)) (after : PollingState Signature)
    (signature : Signature) : Slot → Prop where
  | absorbed {slot : Slot} (member : (signature, slot) ∈ delivered trace) :
      Records trace after signature slot
  | queued {transaction : EncodedTransaction} (member : signature ∈ queued trace)
      (fetched : (signature, .ok transaction) ∈ fetchOutcomes trace) :
      Records trace after signature transaction.slot
  | quarantined {slot : Slot} {outcome : FetchOutcome} {address : Address}
      (fetched : (signature, outcome) ∈ fetchOutcomes trace) (poisons : Poisons signature outcome)
      (quarantined : signature ∈ after.quarantinedSignatures)
      (listed : ListedIn trace address { signature, slot }) : Records trace after signature slot

theorem Records.slot_eq {trace : List (CallEvent Signature)} {after : PollingState Signature}
    {signature : Signature} {slot : Slot} {slotOf : Signature → Slot}
    (records : Records trace after signature slot) (reports : Reports slotOf trace) :
    slot = slotOf signature := by
  cases records with
  | absorbed member => exact reports.delivered _ member
  | queued _ fetched => exact reports.fetched _ _ fetched
  | quarantined _ _ _ listed => exact reports.listed _ _ listed

/-- The signature was absorbed, queued or quarantined. -/
def Handles (trace : List (CallEvent Signature)) (after : PollingState Signature)
    (signature : Signature) : Prop :=
  (∃ slot, (signature, slot) ∈ delivered trace) ∨ signature ∈ queued trace ∨
    ∃ outcome, (signature, outcome) ∈ fetchOutcomes trace ∧ Poisons signature outcome ∧
      signature ∈ after.quarantinedSignatures

/-- Every address has a cursor, a missing one being one replay window below
the head. -/
def Prepares (addresses : List Address) (headSlot replayWindowSlots : Slot)
    (before after : ExtTreeMap Address AddressCursor) : Prop :=
  ∀ address : Address, after[address]? = before[address]?.or
    (if address ∈ addresses then some { scannedSlot := headSlot - replayWindowSlots } else none)

/-- What holds when a poll stops, before a successful one advances. -/
structure Effect (replayWindowSlots : Slot) (addresses : List Address)
    (before : PollingState Signature) (trace : List (CallEvent Signature))
    (reached : PollingState Signature) (recorded : List (Signature × Slot)) : Prop where
  recentSignatures : reached.recentSignatures =
    OrderedMap.insertAll before.recentSignatures recorded
  justified : ∀ signature slot, (signature, slot) ∈ recorded → Records trace reached signature slot
  complete : ∀ signature, Handles trace reached signature → ∃ slot, (signature, slot) ∈ recorded
  untouched : ∀ signature, signature ∉ selected trace →
    (signature ∈ reached.quarantinedSignatures ↔ signature ∈ before.quarantinedSignatures)
  selected : ∀ signature ∈ selected trace,
    signature ∉ before.recentSignatures ∧ (∀ slot, (signature, slot) ∉ delivered trace) ∧
    ∃ address ∈ addresses, ∃ cursor slot, reached.cursors[address]? = some cursor ∧
      cursor.scannedSlot - replayWindowSlots < slot ∧ ListedIn trace address { signature, slot }
  cursors : reached.cursors = before.cursors ∨ ∃ headSlot, headReading trace = some headSlot ∧
    cursorAheadOfHead before.cursors headSlot replayWindowSlots = none ∧
    Prepares addresses headSlot replayWindowSlots before.cursors reached.cursors

/-- What a successful poll has found out on its way. -/
structure PollRecord (Signature : Type) [LinearOrder Signature] where
  headSlot : Slot
  /-- The state the addresses are surveyed in. -/
  prepared : PollingState Signature
  survey : Survey Signature
  settled : Settled Signature
  caught : List (Signature × Slot)

/-- A successful poll, up to the point where it advances. -/
structure Completed (replayWindowSlots : Slot) (addresses : List Address)
    (before : PollingState Signature) (trace : List (CallEvent Signature))
    (reached after : PollingState Signature) (record : PollRecord Signature) : Prop where
  head : headReading trace = some record.headSlot
  tolerated : cursorAheadOfHead before.cursors record.headSlot replayWindowSlots = none
  installed : Prepares addresses record.headSlot replayWindowSlots before.cursors
    record.prepared.cursors
  recentSignatures : record.prepared.recentSignatures =
    OrderedMap.insertAll before.recentSignatures (delivered trace)
  surveyed : ∃ earlier listed later verified, trace = earlier ++ listed ++ later ∧
    (∀ event ∈ earlier, event.1.Preparing) ∧ (∀ event ∈ later, event.1.Fetching) ∧
    Surveys record.headSlot replayWindowSlots record.prepared.cursors addresses
      { historyBoundaryVerified := verified } listed record.survey
  selected : selected trace = signaturesToFetch record.survey.contexts record.prepared
  fetched : ((fetchOutcomes trace).map Prod.fst).Perm
    (signaturesToFetch record.survey.contexts record.prepared)
  settled : SettledFrom record.survey.contexts record.prepared (fetchOutcomes trace)
    record.settled record.caught
  queued : queued trace =
    (readyUpdates record.survey.contexts record.settled).map FetchedUpdate.signature
  unmoved : reached.cursors = record.prepared.cursors
  poisonFailures : reached.poisonFailures = record.settled.state.poisonFailures
  advanced : after = (advanceAndRetain record.headSlot replayWindowSlots record.survey.batches
    record.settled.retrying reached).1

/-! ## From the survey to the end -/

variable {datasource : RpcPollingDatasource} {headSlot replayWindowSlots : Slot}
  {addresses : List Address} {survey : Survey Signature} {initialized : Bool}
  {before after : PollingState Signature} {trace : List (CallEvent Signature)}

/-- What `poll` does once the addresses are surveyed. -/
def fetchAndAdvance (headSlot replayWindowSlots : Slot) (initialized : Bool)
    (survey : Survey Signature) : PollAction Signature PollOutcome := do
  let settled ← fetchTransactions survey.contexts
  let ready := readyUpdates survey.contexts settled
  queueUpdates ready
  let state ← Action.read
  let (final, activity) :=
    advanceAndRetain headSlot replayWindowSlots survey.batches settled.retrying state
  .modify fun _ => final
  return {
    queuedTransactions := ready.length
    checkpointUrgent := initialized || activity
    historyBoundaryVerified := survey.historyBoundaryVerified }

theorem fetchAndAdvance_fetching :
    Action.Obeys (fun _ _ => True) Call.Fetching
      (fetchAndAdvance headSlot replayWindowSlots initialized survey) before :=
  fetchTransactions_fetching.bind fun _ _ _ _ _ =>
    queueUpdates_fetching.bind fun _ _ _ _ _ => Action.obeys_pure

theorem fetchAndAdvance_cases {result : Except (PollError Signature) PollOutcome}
    (ends : Action.Ends (fetchAndAdvance headSlot replayWindowSlots initialized survey) before trace
      result after) :
    ∃ fetched settled sent unsent reached,
      settled = settleOutcomes survey.contexts before fetched ∧
      readyUpdates survey.contexts settled = sent ++ unsent ∧
      Says trace [] none (signaturesToFetch survey.contexts before) fetched
        (sent.map fun fetched => fetched.update.signature) ∧
      ⟨.rpc (.fetchTransactions (signaturesToFetch survey.contexts before)), fetched⟩ ∈ trace ∧
      reached = settled.state.recordRecentSignatures (recordsOf sent) ∧
      ((∃ failure, result = .error failure) ∧ after = reached ∨
        (∃ outcome, result = .ok outcome) ∧ unsent = [] ∧
          after = (advanceAndRetain headSlot replayWindowSlots survey.batches settled.retrying
            reached).1) := by
  rcases Action.ends_bind_iff.mp ends with
    ⟨failure, rfl, failed⟩ | ⟨first, second, settled, middle, rfl, settling, rest⟩
  · obtain ⟨fetched, _, impossible, _⟩ := fetchTransactions_cases failed
    contradiction
  obtain ⟨fetched, rfl, same, rfl⟩ := fetchTransactions_cases settling
  cases same
  have fetching : Says [(⟨.rpc (.fetchTransactions (signaturesToFetch survey.contexts before)),
      fetched⟩ : CallEvent Signature)] [] none (signaturesToFetch survey.contexts before) fetched [] :=
    ⟨rfl, rfl, by simp [selectedBy], by simp [outcomesOf], rfl⟩
  rcases Action.ends_bind_iff.mp rest with
    ⟨failure, rfl, failed⟩ | ⟨sends, last, _, queuedState, rfl, queueing, advance⟩
  · obtain ⟨sent, unsent, split, said, rfl, _⟩ := queueUpdates_cases failed
    exact ⟨fetched, _, sent, unsent, _, rfl, split, by simpa using fetching.append said, by simp, rfl,
      .inl ⟨⟨failure, rfl⟩, rfl⟩⟩
  · obtain ⟨sent, unsent, split, said, rfl, whole⟩ := queueUpdates_cases queueing
    obtain ⟨rfl, rfl, rfl⟩ := Action.ends_pure_iff.mp advance
    exact ⟨fetched, _, sent, unsent, _, rfl, split, by simpa using fetching.append said, by simp, rfl,
      .inr ⟨⟨_, rfl⟩, whole rfl, rfl⟩⟩

/-! ## Effects -/

variable {reached : PollingState Signature} {deliveries : List (Signature × Slot)}
  {head : Option Slot}

/-- Before anything is fetched, a poll has recorded what was delivered. -/
theorem effect_delivered (said : Says trace deliveries head [] [] [])
    (recents : reached.recentSignatures = OrderedMap.insertAll before.recentSignatures deliveries)
    (poison : reached.poisonFailures = before.poisonFailures)
    (cursors : reached.cursors = before.cursors ∨ ∃ headSlot, head = some headSlot ∧
      cursorAheadOfHead before.cursors headSlot replayWindowSlots = none ∧
      Prepares addresses headSlot replayWindowSlots before.cursors reached.cursors) :
    Effect replayWindowSlots addresses before trace reached deliveries where
  recentSignatures := recents
  justified := by
    intro signature slot member
    exact .absorbed (by rwa [said.delivered])
  complete := by
    intro signature handles
    simpa [Handles, said.delivered, said.queued, said.fetchOutcomes] using handles
  untouched := by
    intro signature _
    rw [quarantinedSignatures_congr poison]
  selected := by simp [said.selected]
  cursors := by rwa [said.headReading]

/-- From the fetch on, a poll has also recorded what it quarantined and what
it queued. -/
theorem effect_settled {prepared : PollingState Signature} {settled : Settled Signature}
    {listed : List (CallEvent Signature)} {verified : Bool}
    {fetched : List (Signature × FetchOutcome)} {caught : List (Signature × Slot)}
    {sent : List (FetchedUpdate Signature)}
    (said : Says trace deliveries (some headSlot) (signaturesToFetch survey.contexts prepared) fetched
      (sent.map fun fetched => fetched.update.signature))
    (surveys : Surveys headSlot replayWindowSlots prepared.cursors addresses
      { historyBoundaryVerified := verified } listed survey)
    (inside : ∀ event ∈ listed, event ∈ trace)
    (tolerated : cursorAheadOfHead before.cursors headSlot replayWindowSlots = none)
    (prepares : Prepares addresses headSlot replayWindowSlots before.cursors prepared.cursors)
    (recents : prepared.recentSignatures = OrderedMap.insertAll before.recentSignatures deliveries)
    (poison : prepared.poisonFailures = before.poisonFailures)
    (each : (fetched.map Prod.fst).Perm (signaturesToFetch survey.contexts prepared))
    (settledFrom : SettledFrom survey.contexts prepared fetched settled caught)
    (ready : ∀ update ∈ sent, update ∈ settled.successful) :
    Effect replayWindowSlots addresses before trace
      (settled.state.recordRecentSignatures (recordsOf sent)) (deliveries ++ caught ++ recordsOf sent) where
  recentSignatures := by
    rw [recordRecentSignatures_recentSignatures, settledFrom.recentSignatures, recents,
      OrderedMap.insertAll_append, OrderedMap.insertAll_append]
  justified := by
    intro signature slot member
    rcases List.mem_append.mp member with member | member
    · rcases List.mem_append.mp member with member | member
      · exact .absorbed (by rwa [said.delivered])
      · obtain ⟨⟨outcome, present, poisons⟩, quarantined, context, found, rfl⟩ :=
          settledFrom.quarantined signature slot member
        obtain ⟨address, _, cursor, _, _, inListed⟩ := surveys.mentioned found
        refine .quarantined (by rwa [said.fetchOutcomes]) poisons ?_ (inListed.mono inside)
        rwa [quarantinedSignatures_congr recordRecentSignatures_poisonFailures]
    · obtain ⟨update, sentUpdate, rfl, rfl⟩ := mem_recordsOf.mp member
      have successful := ready update sentUpdate
      obtain ⟨transaction, present, _, same⟩ := settledFrom.successful update successful
      rw [same]
      refine .queued ?_ (by rwa [said.fetchOutcomes])
      rw [said.queued, ← settledFrom.update_signature successful]
      exact List.mem_map_of_mem sentUpdate
  complete := by
    intro signature handles
    rcases handles with ⟨slot, absorbed⟩ | queued | ⟨outcome, present, poisons, quarantined⟩
    · rw [said.delivered] at absorbed
      exact ⟨slot, by simp [absorbed]⟩
    · rw [said.queued] at queued
      obtain ⟨update, sentUpdate, rfl⟩ := List.mem_map.mp queued
      refine ⟨update.slot, List.mem_append_right _ (mem_recordsOf.mpr ⟨update, sentUpdate, ?_, rfl⟩)⟩
      exact (settledFrom.update_signature (ready update sentUpdate)).symm
    · rw [said.fetchOutcomes] at present
      rw [quarantinedSignatures_congr recordRecentSignatures_poisonFailures] at quarantined
      obtain ⟨slot, caught⟩ := settledFrom.recorded signature outcome present poisons quarantined
      exact ⟨slot, by simp [caught]⟩
  untouched := by
    intro signature unselected
    rw [said.selected, ← each.mem_iff] at unselected
    rw [quarantinedSignatures_congr recordRecentSignatures_poisonFailures,
      settledFrom.elsewhere signature unselected, quarantinedSignatures_congr poison]
  selected := by
    intro signature selected
    rw [said.selected, mem_signaturesToFetch] at selected
    obtain ⟨⟨context, found⟩, unrecorded⟩ := selected
    rw [recents, OrderedMap.mem_insertAll, not_or, not_exists] at unrecorded
    obtain ⟨address, monitored, cursor, present, above, inListed⟩ := surveys.mentioned found
    refine ⟨unrecorded.1, by simpa [said.delivered] using unrecorded.2, address, monitored, cursor,
      context.slot, ?_, above, inListed.mono inside⟩
    rw [recordRecentSignatures_cursors, settledFrom.cursors, present]
  cursors := by
    rw [recordRecentSignatures_cursors, settledFrom.cursors]
    exact .inr ⟨headSlot, said.headReading, tolerated, prepares⟩

theorem poll_eq {pages : Nat} : poll pages datasource addresses = (do
    absorbDeliveredSignatures datasource
    let headSlot ← readSlot
    refuseCursorAheadOfHead headSlot datasource.replayWindow.slots
    let initialized ← installCursors addresses headSlot datasource.replayWindow.slots
    let verified ← verifyHistoryBoundary
    let survey ← surveyAddresses pages headSlot datasource.replayWindow.slots addresses
      { historyBoundaryVerified := verified }
    fetchAndAdvance headSlot datasource.replayWindow.slots initialized survey :
      PollAction Signature PollOutcome) := rfl

/-- Every poll, however it ends, has recorded exactly what it handled; a poll
that succeeds was completed. -/
theorem poll_cases {pages : Nat} {result : Except (PollError Signature) PollOutcome}
    (ends : Action.Ends (poll pages datasource addresses) before trace result after)
    (answered : Program.Allowed Call.Answered trace) :
    ∃ reached recorded, Effect datasource.replayWindow.slots addresses before trace reached recorded ∧
      ((∃ failure, result = .error failure) ∧ after = reached ∨
        ∃ outcome record, result = .ok outcome ∧
          Completed datasource.replayWindow.slots addresses before trace reached after record) := by
  rw [poll_eq] at ends
  rcases Action.ends_bind_iff.mp ends with
    ⟨failure, rfl, absorbFailed⟩ | ⟨absorbTrace, headTail, _, absorbed, rfl, absorbing, headEnds⟩
  · obtain ⟨_, _, impossible, _⟩ := absorbDeliveredSignatures_cases absorbFailed
    contradiction
  obtain ⟨deliveries, absorbSaid, _, rfl⟩ := absorbDeliveredSignatures_cases absorbing
  rcases Action.ends_bind_iff.mp headEnds with
    ⟨failure, rfl, headFailed⟩ | ⟨headTrace, refuseTail, headSlot, _, rfl, reading, refuseEnds⟩
  · obtain ⟨rfl, ⟨_, _, headSaid⟩ | ⟨_, impossible, _⟩⟩ := readSlot_cases headFailed
    · exact ⟨_, _, effect_delivered (by simpa using absorbSaid.append headSaid) (by simp) (by simp)
        (.inl (by simp)), .inl ⟨⟨_, rfl⟩, rfl⟩⟩
    · contradiction
  obtain ⟨rfl, ⟨_, impossible, _⟩ | ⟨_, same, headSaid⟩⟩ := readSlot_cases reading
  · contradiction
  cases same
  have said : Says (absorbTrace ++ headTrace) deliveries (some headSlot) [] [] [] := by
    simpa using absorbSaid.append headSaid
  rcases Action.ends_bind_iff.mp refuseEnds with
    ⟨failure, rfl, refused⟩ | ⟨refuseTrace, installTail, _, _, rfl, accepted, installEnds⟩
  · obtain ⟨rfl, rfl, _⟩ := refuseCursorAheadOfHead_cases refused
    exact ⟨_, _, effect_delivered (by simpa using said) (by simp) (by simp) (.inl (by simp)),
      .inl ⟨⟨_, rfl⟩, rfl⟩⟩
  obtain ⟨rfl, rfl, tolerated⟩ := refuseCursorAheadOfHead_cases accepted
  have tolerated : cursorAheadOfHead before.cursors headSlot datasource.replayWindow.slots = none := by
    simpa using tolerated rfl
  rcases Action.ends_bind_iff.mp installEnds with
    ⟨failure, rfl, installFailed⟩ | ⟨installTrace, verifyTail, initialized, installed, rfl, installing, verifyEnds⟩
  · obtain ⟨_, ⟨_, impossible⟩, _⟩ := installCursors_cases installFailed
    contradiction
  obtain ⟨rfl, _, installs⟩ := installCursors_cases installing
  have recents : installed.recentSignatures =
      OrderedMap.insertAll before.recentSignatures deliveries := by
    simpa using installs.recentSignatures
  have poison : installed.poisonFailures = before.poisonFailures := by
    simpa using installs.poisonFailures
  have prepares : Prepares addresses headSlot datasource.replayWindow.slots before.cursors
      installed.cursors := by
    simpa [Prepares] using installs.cursors
  rcases Action.ends_bind_iff.mp verifyEnds with
    ⟨failure, rfl, verifyFailed⟩ | ⟨verifyTrace, surveyTail, verified, prepared, rfl, verifying, surveyEnds⟩
  · obtain ⟨verifySaid, sameCursors, sameRecents, samePoison⟩ :=
      verifyHistoryBoundary_cases verifyFailed
    rw [← sameCursors] at prepares
    exact ⟨_, _, effect_delivered (by simpa using said.append verifySaid)
      (sameRecents.trans recents) (samePoison.trans poison)
      (.inr ⟨headSlot, rfl, tolerated, prepares⟩), .inl ⟨⟨_, rfl⟩, rfl⟩⟩
  obtain ⟨verifySaid, sameCursors, sameRecents, samePoison⟩ := verifyHistoryBoundary_cases verifying
  have said : Says (absorbTrace ++ headTrace ++ verifyTrace) deliveries (some headSlot) [] [] [] := by
    simpa using said.append verifySaid
  rw [← sameCursors] at prepares
  rw [← sameRecents] at recents
  rw [← samePoison] at poison
  rcases Action.ends_bind_iff.mp surveyEnds with
    ⟨failure, rfl, surveyFailed⟩ | ⟨listed, fetchTail, survey, prepared, rfl, surveying, fetchEnds⟩
  · obtain ⟨rfl, _⟩ := surveyAddresses_cases surveyFailed
    have quiet := says_quiet (surveyAddresses_quiet.ends surveyFailed (by simp [Program.Allowed]))
    exact ⟨_, _, effect_delivered (by simpa using said.append quiet) recents poison
      (.inr ⟨headSlot, rfl, tolerated, prepares⟩), .inl ⟨⟨_, rfl⟩, rfl⟩⟩
  obtain ⟨rfl, surveys⟩ := surveyAddresses_cases surveying
  have surveys := surveys survey rfl
  have quiet := says_quiet (surveyAddresses_quiet.ends surveying (by simp [Program.Allowed]))
  obtain ⟨fetched, settled, sent, unsent, reached, same, split, fetchSaid, event, rfl, ending⟩ :=
    fetchAndAdvance_cases fetchEnds
  have each : (fetched.map Prod.fst).Perm (signaturesToFetch survey.contexts prepared) :=
    answered ⟨.rpc (.fetchTransactions (signaturesToFetch survey.contexts prepared)), fetched⟩
      (by simp [event])
  have known : ∀ signature ∈ fetched.map Prod.fst, ∃ context,
      survey.contexts[signature]? = some context := by
    intro signature member
    exact (mem_signaturesToFetch.mp (each.mem_iff.mp member)).1
  obtain ⟨caught, settledFrom⟩ := settleOutcomes_settledFrom prepared
    (each.nodup_iff.mpr nodup_signaturesToFetch) known
  rw [← same] at settledFrom
  have ready : ∀ update ∈ sent, update ∈ settled.successful := by
    intro update member
    exact (mem_readyUpdates.mp (by rw [split]; exact List.mem_append_left _ member)).1
  have said : Says (absorbTrace ++ (headTrace ++ ([] ++ ([] ++ (verifyTrace ++ (listed ++ fetchTail))))))
      deliveries (some headSlot) (signaturesToFetch survey.contexts prepared) fetched
      (sent.map fun fetched => fetched.update.signature) := by
    simpa using (said.append quiet).append fetchSaid
  have preparing : ∀ event ∈ absorbTrace ++ headTrace ++ verifyTrace, event.1.Preparing := by
    intro event member
    simp only [List.mem_append] at member
    rcases member with (member | member) | member
    · exact absorbDeliveredSignatures_preparing.ends absorbing (by simp [Program.Allowed]) event member
    · exact readSlot_preparing.ends reading (by simp [Program.Allowed]) event member
    · exact verifyHistoryBoundary_preparing.ends verifying (by simp [Program.Allowed]) event member
  refine ⟨_, _, effect_settled said surveys (by simp +contextual) tolerated prepares recents poison each
    settledFrom ready, ?_⟩
  rcases ending with ⟨failed, rfl⟩ | ⟨⟨outcome, rfl⟩, rfl, rfl⟩
  · exact .inl ⟨failed, rfl⟩
  · refine .inr ⟨outcome, ⟨headSlot, prepared, survey, settled, caught⟩, rfl, ?_⟩
    exact {
      head := said.headReading
      tolerated
      installed := prepares
      recentSignatures := by rw [said.delivered, recents]
      surveyed := ⟨absorbTrace ++ headTrace ++ verifyTrace, listed, fetchTail, verified, by simp,
        preparing, fetchAndAdvance_fetching.ends fetchEnds (by simp [Program.Allowed]), surveys⟩
      selected := said.selected
      fetched := by rwa [said.fetchOutcomes]
      settled := by rwa [said.fetchOutcomes]
      queued := by
        rw [said.queued, split, List.append_nil]
        exact List.map_congr_left fun update member => settledFrom.update_signature (ready update member)
      unmoved := by rw [recordRecentSignatures_cursors, settledFrom.cursors]
      poisonFailures := recordRecentSignatures_poisonFailures
      advanced := rfl }

/-! ## Slots stay in range -/

/-- The slots of a polling state are `u64` values. -/
structure PollingState.Bounded (state : PollingState Signature) : Prop where
  cursors : ∀ (address : Address) (cursor : AddressCursor), state.cursors[address]? = some cursor →
    cursor.scannedSlot ≤ u64Max
  recentSignatures : ∀ (signature : Signature) (slot : Slot),
    state.recentSignatures[signature]? = some slot → slot ≤ u64Max

theorem Records.bounded {signature : Signature} {slot : Slot}
    (answered : Program.Allowed Call.Answered trace) (records : Records trace after signature slot) :
    slot ≤ u64Max := by
  cases records with
  | absorbed member => exact delivered_bounded answered _ member
  | queued => exact EncodedTransaction.slot_lt _
  | quarantined _ _ _ listed => exact listed.bounded answered

theorem Effect.bounded {recorded : List (Signature × Slot)} (bounded : before.Bounded)
    (answered : Program.Allowed Call.Answered trace)
    (effect : Effect replayWindowSlots addresses before trace reached recorded) : reached.Bounded where
  cursors := by
    intro address cursor found
    rcases effect.cursors with same | ⟨headSlot, reading, _, prepares⟩
    · rw [same] at found
      exact bounded.cursors address cursor found
    · rw [prepares address] at found
      cases present : before.cursors[address]? with
      | some earlier =>
          rw [present, Option.some_or] at found
          cases found
          exact bounded.cursors address _ present
      | none =>
          rw [present, Option.none_or] at found
          split at found
          · cases found
            exact (Nat.sub_le _ _).trans (headReading_bounded answered reading)
          · contradiction
  recentSignatures := by
    intro signature slot found
    rw [effect.recentSignatures] at found
    rcases OrderedMap.getElem?_insertAll found with member | found
    · exact (effect.justified signature slot member).bounded answered
    · exact bounded.recentSignatures signature slot found

end Microscope.Polling
