import Microscope.Polling.Completion
import Microscope.Polling.Scene

namespace Microscope.Polling

open Std Microscope.Data

/-! # Queueing agrees with advancing

A poll decides twice what may go on: `signature_is_ready` asks the contexts
which addresses are blocked, `advance_ready_cursors` asks the batches which
signatures are retrying.  Over one survey the two describe the same addresses.
-/

variable {Signature : Type}

/-! ## Outcomes -/

theorem preparing_outcomes {trace : List (CallEvent Signature)}
    (preparing : ∀ event ∈ trace, event.1.Preparing) :
    fetchOutcomes trace = [] := by
  refine List.flatMap_eq_nil_iff.mpr fun event member => ?_
  have preparingEvent := preparing event member
  obtain ⟨command, response⟩ := event
  cases command with
  | rpc call => cases call <;> first | rfl | exact preparingEvent.elim
  | _ => rfl

/-- The update an outcome is converted to. -/
def convertedUpdate (fetched : Signature × FetchOutcome) : Option (FetchedUpdate Signature) :=
  match fetched.2 with
  | .ok transaction => (transactionUpdate fetched.1 transaction).map fun update =>
      { signature := fetched.1, slot := transaction.slot, update }
  | .error _ => none

theorem convertedUpdate_eq_some {entry : Signature × FetchOutcome} {update : FetchedUpdate Signature} :
    convertedUpdate entry = some update ↔ ∃ transaction, entry = (update.signature, .ok transaction) ∧
      transactionUpdate update.signature transaction = some update.update ∧
      update.slot = transaction.slot := by
  obtain ⟨signature, response⟩ := entry
  obtain ⟨updated, slot, transactionUpdated⟩ := update
  cases response with
  | error failure => simp [convertedUpdate]
  | ok transaction =>
      simp only [convertedUpdate, Option.map_eq_some_iff, FetchedUpdate.mk.injEq, Prod.mk.injEq,
        Except.ok.injEq]
      constructor
      · intro ⟨_, converts, same, slotSame, updateSame⟩
        subst same
        subst updateSame
        exact ⟨transaction, ⟨rfl, rfl⟩, converts, slotSame.symm⟩
      · intro ⟨_, ⟨same, transactionSame⟩, converts, slotSame⟩
        subst same
        subst transactionSame
        exact ⟨transactionUpdated, converts, rfl, slotSame.symm, rfl⟩

variable [LinearOrder Signature]
  {datasource : RpcPollingDatasource} {addresses : List Address} {pages : Nat}
  {before prepared after : PollingState Signature} {trace : List (CallEvent Signature)}
  {outcome : PollOutcome}

/-! ## The three parts of a poll -/

structure Preparation where
  headSlot : Slot
  initialized : Bool
  historyBoundaryVerified : Bool
deriving DecidableEq, Repr

/-- What `poll` does before it lists the addresses. -/
def preparePoll (datasource : RpcPollingDatasource) (addresses : List Address) :
    PollAction Signature Preparation := do
  absorbDeliveredSignatures datasource
  let headSlot ← readSlot
  refuseCursorAheadOfHead headSlot datasource.replayWindow.slots
  let initialized ← installCursors addresses headSlot datasource.replayWindow.slots
  let historyBoundaryVerified ← verifyHistoryBoundary
  return { headSlot, initialized, historyBoundaryVerified }

theorem preparePoll_preparing :
    Action.Obeys (fun _ _ => True) Call.Preparing (preparePoll datasource addresses) before :=
  absorbDeliveredSignatures_preparing.bind fun _ _ _ _ _ =>
    readSlot_preparing.bind fun _ _ _ _ _ =>
      refuseCursorAheadOfHead_silent.bind fun _ _ _ _ _ =>
        installCursors_silent.bind fun _ _ _ _ _ =>
          verifyHistoryBoundary_preparing.bind fun _ _ _ _ _ => Action.obeys_pure

theorem queueUpdates_ok {updates : List (FetchedUpdate Signature)}
    (ends : Action.Ends (queueUpdates updates) before trace (.ok ()) after) :
    trace = updates.map fun fetched => ⟨.send (.transaction fetched.update), .ok ()⟩ := by
  induction updates generalizing before trace with
  | nil => exact (Action.ends_pure_iff.mp ends).1
  | cons fetched updates ih =>
      obtain ⟨response, later, rfl, answered⟩ := Action.ends_request_bind_iff.mp ends
      cases response with
      | error closed => cases (Action.ends_fail_iff.mp answered).2.1
      | ok sent => rw [List.map_cons, ih (Action.ends_modify_bind_iff.mp answered)]

variable [SignatureText Signature]

theorem poll_parts : poll pages datasource addresses =
    (preparePoll datasource addresses >>= fun preparation => do
      let survey ← surveyAddresses pages preparation.headSlot datasource.replayWindow.slots addresses
        { historyBoundaryVerified := preparation.historyBoundaryVerified }
      fetchAndAdvance preparation.headSlot datasource.replayWindow.slots preparation.initialized
        survey : PollAction Signature PollOutcome) := by
  simp only [preparePoll, Action.bind_bind, Action.pure_bind]
  exact poll_eq

/-- A poll that succeeds ran its three parts one after the other. -/
theorem poll_ok_iff :
    Action.Ends (poll pages datasource addresses) before trace (.ok outcome) after ↔
      ∃ earlier listed later preparation prepared survey, trace = earlier ++ listed ++ later ∧
        Action.Ends (preparePoll datasource addresses) before earlier (.ok preparation) prepared ∧
        Action.Ends (surveyAddresses pages preparation.headSlot datasource.replayWindow.slots addresses
          { historyBoundaryVerified := preparation.historyBoundaryVerified }) prepared listed
          (.ok survey) prepared ∧
        Action.Ends (fetchAndAdvance preparation.headSlot datasource.replayWindow.slots
          preparation.initialized survey) prepared later (.ok outcome) after := by
  rw [poll_parts, Action.ends_bind_ok_iff]
  constructor
  · intro ⟨earlier, rest, preparation, prepared, split, preparing, restEnds⟩
    obtain ⟨listed, later, survey, surveyed, restSplit, surveying, advancing⟩ :=
      Action.ends_bind_ok_iff.mp restEnds
    have unchanged := (surveyAddresses_cases surveying).1
    subst unchanged
    subst restSplit
    exact ⟨earlier, listed, later, preparation, surveyed, survey, by rw [split, List.append_assoc],
      preparing, surveying, advancing⟩
  · intro ⟨earlier, listed, later, preparation, prepared, survey, split, preparing, surveying, advancing⟩
    have rest := Action.ends_bind_ok_iff.mpr
      ⟨listed, later, survey, prepared, rfl, surveying, advancing⟩
    exact ⟨earlier, listed ++ later, preparation, prepared, by rw [split, List.append_assoc],
      preparing, rest⟩

/-! ## The fetch and the queue -/

variable {contexts : SignatureContexts Signature} {survey : Survey Signature}
  {headSlot replayWindowSlots : Slot} {initialized : Bool}
  {fetched : List (Signature × FetchOutcome)}

theorem settleOutcome_converted (before : PollingState Signature)
    (entry : Signature × FetchOutcome) :
    let settled := settleOutcome contexts { state := before } entry
    settled.successful = (convertedUpdate entry).toList ∧
      ∀ signature ∈ settled.retrying, signature = entry.1 ∧ convertedUpdate entry = none := by
  obtain ⟨signature, response⟩ := entry
  have afterPoison : ∀ error,
      processFetchedTransaction before signature response = poisoned before signature error →
      (settleOutcome contexts { state := before } (signature, response)).successful = [] ∧
        ∀ other ∈ (settleOutcome contexts { state := before } (signature, response)).retrying,
          other = signature := by
    intro error processed
    simp only [settleOutcome, processed, poisoned]
    split
    · split <;> simp
    · simp
  cases response with
  | ok transaction =>
      cases converts : transactionUpdate signature transaction with
      | some update => simp [settleOutcome, processFetchedTransaction, convertedUpdate, converts]
      | none =>
          have unconverted : convertedUpdate (signature, Except.ok transaction) = none := by
            simp [convertedUpdate, converts]
          have effects := afterPoison
            ("transaction " ++ SignatureText.toText signature ++ " could not be converted")
            (by simp only [processFetchedTransaction, converts])
          rw [unconverted]
          exact ⟨effects.1, fun other member => ⟨effects.2 other member, rfl⟩⟩
  | error failure =>
      obtain ⟨permanent, error⟩ := failure
      cases permanent with
      | true =>
          have effects := afterPoison error rfl
          exact ⟨effects.1, fun other member => ⟨effects.2 other member, rfl⟩⟩
      | false => simp [settleOutcome, processFetchedTransaction, convertedUpdate]

/-- Exactly the converted outcomes are successful; only others are retrying. -/
theorem settleOutcomes_converted (before : PollingState Signature) :
    let settled := settleOutcomes contexts before fetched
    settled.successful = fetched.filterMap convertedUpdate ∧
      ∀ signature ∈ settled.retrying, ∃ entry ∈ fetched, entry.1 = signature ∧
        convertedUpdate entry = none := by
  induction fetched generalizing before with
  | nil => simp [settleOutcomes]
  | cons entry rest ih =>
      obtain ⟨first, firstRetrying⟩ := @settleOutcome_converted _ _ _ contexts before entry
      obtain ⟨later, laterRetrying⟩ :=
        ih (settleOutcome contexts { state := before } entry).state
      rw [settleOutcomes, List.foldl_cons, foldl_settleOutcome]
      refine ⟨?_, fun signature member => ?_⟩
      · simp only [Settled.append, first, later]
        cases converts : convertedUpdate entry <;> simp [converts]
      · rcases List.mem_append.mp member with member | member
        · obtain ⟨same, unconverted⟩ := firstRetrying signature member
          exact ⟨entry, by simp, same.symm, unconverted⟩
        · obtain ⟨other, present, found⟩ := laterRetrying signature member
          exact ⟨other, by simp [present], found⟩

/-- From the fetch to the end of a successful poll. -/
theorem fetchAndAdvance_ok
    (ends : Action.Ends (fetchAndAdvance headSlot replayWindowSlots initialized survey) before trace
      (.ok outcome) after) :
    ∃ fetched, let settled := settleOutcomes survey.contexts before fetched
      let ready := readyUpdates survey.contexts settled
      trace = ⟨.rpc (.fetchTransactions (signaturesToFetch survey.contexts before)), fetched⟩ ::
        ready.map (fun update => ⟨.send (.transaction update.update), .ok ()⟩) ∧
      after = (advanceAndRetain headSlot replayWindowSlots survey.batches settled.retrying
        (settled.state.recordRecentSignatures (recordsOf ready))).1 := by
  obtain ⟨first, second, settled, middle, rfl, settling, rest⟩ := Action.ends_bind_ok_iff.mp ends
  obtain ⟨fetched, rfl, same, rfl⟩ := fetchTransactions_cases settling
  cases same
  obtain ⟨sends, last, _, queuedState, rfl, queueing, advance⟩ := Action.ends_bind_ok_iff.mp rest
  obtain ⟨sent, unsent, split, _, rfl, whole⟩ := queueUpdates_cases queueing
  obtain ⟨rfl, _, rfl⟩ := Action.ends_pure_iff.mp advance
  rw [whole rfl, List.append_nil] at split
  refine ⟨fetched, ?_, ?_⟩
  · rw [queueUpdates_ok queueing, List.append_nil, List.singleton_append]
  · rw [split]
    rfl

/-! ## Blocked, held and replaced -/

/-- What a successful poll worked with when it advanced. -/
structure Advance (Signature : Type) [LinearOrder Signature] where
  headSlot : Slot
  /-- The state the addresses were surveyed in. -/
  prepared : PollingState Signature
  survey : Survey Signature
  fetched : List (Signature × FetchOutcome)

namespace Advance

section

variable (advance : Advance Signature)

def settled : Settled Signature :=
  settleOutcomes advance.survey.contexts advance.prepared advance.fetched

def ready : List (FetchedUpdate Signature) := readyUpdates advance.survey.contexts advance.settled

/-- The state in which the cursors are advanced; retention comes after that. -/
def queuedState : PollingState Signature :=
  advance.settled.state.recordRecentSignatures (recordsOf advance.ready)

/-- `blocked_addresses`. -/
def blocked : List Address := blockedAddresses advance.survey.contexts advance.settled.retrying

def Lists (address : Address) (signature : Signature) : Prop :=
  ∃ batch ∈ advance.survey.batches, batch.address = address ∧
    ∃ discovered ∈ batch.signatures, discovered.signature = signature

/-- The advancement assigns the cursor of the address, whatever it was. -/
def Replaces (address : Address) : Prop :=
  ∃ cursor, ∀ state : PollingState Signature, (advanceReadyCursors state advance.survey.batches
    advance.settled.retrying).1.cursors[address]? = some cursor

/-- The advancement does not touch the cursor of the address. -/
def Leaves (address : Address) : Prop :=
  ∀ state : PollingState Signature, (advanceReadyCursors state advance.survey.batches
    advance.settled.retrying).1.cursors[address]? = state.cursors[address]?

end

/-- The advance of one successful poll. -/
structure Of (advance : Advance Signature) (pages : Nat) (datasource : RpcPollingDatasource)
    (addresses : List Address) (before : PollingState Signature)
    (trace : List (CallEvent Signature)) (after : PollingState Signature) : Prop where
  parts : ∃ earlier listed preparation, preparation.headSlot = advance.headSlot ∧
    Action.Ends (preparePoll datasource addresses) before earlier (.ok preparation)
      advance.prepared ∧
    Action.Ends (surveyAddresses pages advance.headSlot datasource.replayWindow.slots addresses
      { historyBoundaryVerified := preparation.historyBoundaryVerified }) advance.prepared listed
      (.ok advance.survey) advance.prepared ∧
    trace = earlier ++ listed ++
      ⟨.rpc (.fetchTransactions (signaturesToFetch advance.survey.contexts advance.prepared)),
        advance.fetched⟩ ::
      advance.ready.map fun update => ⟨.send (.transaction update.update), .ok ()⟩
  advanced : after = (advanceAndRetain advance.headSlot datasource.replayWindow.slots
    advance.survey.batches advance.settled.retrying advance.queuedState).1

end Advance

theorem poll_advance
    (ends : Action.Ends (poll pages datasource addresses) before trace (.ok outcome) after) :
    ∃ advance : Advance Signature, advance.Of pages datasource addresses before trace after := by
  obtain ⟨earlier, listed, later, preparation, prepared, survey, split, preparing, surveying, advancing⟩ :=
    poll_ok_iff.mp ends
  obtain ⟨fetched, laterSplit, advanced⟩ := fetchAndAdvance_ok advancing
  refine ⟨⟨preparation.headSlot, prepared, survey, fetched⟩, ?_, advanced⟩
  exact ⟨earlier, listed, preparation, rfl, preparing, surveying, by rw [split, laterSplit]; rfl⟩

namespace Advance.Of

variable {advance : Advance Signature} {address : Address} {signature : Signature}
  {batch : AddressBatch Signature}

theorem surveys (advanceOf : advance.Of pages datasource addresses before trace after) :
    ∃ verified listed, Surveys advance.headSlot datasource.replayWindow.slots
      advance.prepared.cursors addresses { historyBoundaryVerified := verified } listed
      advance.survey := by
  obtain ⟨_, listed, preparation, _, _, surveying, _⟩ := advanceOf.parts
  exact ⟨preparation.historyBoundaryVerified, listed, (surveyAddresses_cases surveying).2 _ rfl⟩

theorem indexes (advanceOf : advance.Of pages datasource addresses before trace after) :
    Indexes (advance.survey.batches.flatMap mentionsOf) advance.survey.contexts := by
  obtain ⟨_, _, surveys⟩ := advanceOf.surveys
  exact surveys.indexes indexes_nil

theorem addresses_eq (advanceOf : advance.Of pages datasource addresses before trace after) :
    advance.survey.batches.map AddressBatch.address = addresses := by
  obtain ⟨_, _, surveys⟩ := advanceOf.surveys
  obtain ⟨more, batches, addressed, _⟩ := surveys.batched
  rw [batches]
  exact addressed

theorem batch_eq {first second : AddressBatch Signature}
    (advanceOf : advance.Of pages datasource addresses before trace after)
    (distinct : addresses.Nodup) (firstMember : first ∈ advance.survey.batches)
    (secondMember : second ∈ advance.survey.batches) (same : first.address = second.address) :
    first = second := by
  rw [← advanceOf.addresses_eq] at distinct
  exact List.inj_on_of_nodup_map distinct firstMember secondMember same

/-- A context names the addresses that list its signature. -/
theorem lists_iff (advanceOf : advance.Of pages datasource addresses before trace after) :
    advance.Lists address signature ↔
      ∃ context, advance.survey.contexts[signature]? = some context ∧ address ∈ context.addresses := by
  constructor
  · intro ⟨batch, member, addressed, discovered, listed, same⟩
    obtain ⟨context, found, _, named⟩ := advanceOf.indexes.listed address discovered
      (mem_mentions.mpr ⟨batch, member, addressed, listed⟩)
    exact ⟨context, same ▸ found, named⟩
  · intro ⟨context, found, named⟩
    have mentioned := (advanceOf.indexes.justified signature context found).2 address named
    obtain ⟨batch, member, addressed, listed⟩ := mem_mentions.mp mentioned
    exact ⟨batch, member, addressed, _, listed, rfl⟩

/-- An address is blocked by a retrying signature it lists. -/
theorem mem_blocked (advanceOf : advance.Of pages datasource addresses before trace after) :
    address ∈ advance.blocked ↔
      ∃ signature ∈ advance.settled.retrying, advance.Lists address signature := by
  simp only [blocked, blockedAddresses, List.mem_flatMap, advanceOf.lists_iff]
  refine exists_congr fun signature => and_congr_right fun _ => ?_
  cases advance.survey.contexts[signature]? <;> simp

theorem mem_blocked_iff_held (advanceOf : advance.Of pages datasource addresses before trace after)
    (distinct : addresses.Nodup) (member : batch ∈ advance.survey.batches) :
    batch.address ∈ advance.blocked ↔ Held advance.settled.retrying batch := by
  rw [advanceOf.mem_blocked]
  constructor
  · intro ⟨signature, retrying, other, otherMember, same, discovered, listed, named⟩
    cases advanceOf.batch_eq distinct otherMember member same
    exact ⟨discovered, listed, named ▸ retrying⟩
  · intro ⟨discovered, listed, retrying⟩
    exact ⟨discovered.signature, retrying, batch, member, rfl, discovered, listed, rfl⟩

theorem leaves_of_held (advanceOf : advance.Of pages datasource addresses before trace after)
    (distinct : addresses.Nodup) (member : batch ∈ advance.survey.batches)
    (held : Held advance.settled.retrying batch) : advance.Leaves batch.address := by
  intro state
  rcases @advanceReadyCursors_cases _ _ state advance.settled.retrying advance.survey.batches
    batch.address with ⟨same, _⟩ | ⟨other, otherMember, same, free, _⟩
  · exact same
  · cases advanceOf.batch_eq distinct otherMember member same
    exact absurd held free

theorem replaced_of_not_held (advanceOf : advance.Of pages datasource addresses before trace after)
    (distinct : addresses.Nodup) (member : batch ∈ advance.survey.batches)
    (free : ¬Held advance.settled.retrying batch) (state : PollingState Signature) :
    (advanceReadyCursors state advance.survey.batches
      advance.settled.retrying).1.cursors[batch.address]? = some batch.nextCursor := by
  rcases @advanceReadyCursors_cases _ _ state advance.settled.retrying advance.survey.batches
    batch.address with ⟨_, allHeld⟩ | ⟨other, otherMember, same, _, replaced⟩
  · exact absurd (allHeld batch member rfl) free
  · cases advanceOf.batch_eq distinct otherMember member same
    exact replaced

theorem replaces_iff_not_held (advanceOf : advance.Of pages datasource addresses before trace after)
    (distinct : addresses.Nodup) (member : batch ∈ advance.survey.batches) :
    advance.Replaces batch.address ↔ ¬Held advance.settled.retrying batch := by
  constructor
  · intro ⟨cursor, assigned⟩ held
    -- from a state without cursors, an assignment shows
    have left := advanceOf.leaves_of_held distinct member held {}
    rw [assigned {}] at left
    simp at left
  · intro free
    exact ⟨batch.nextCursor, advanceOf.replaced_of_not_held distinct member free⟩

theorem left_iff (advanceOf : advance.Of pages datasource addresses before trace after)
    (distinct : addresses.Nodup) (member : batch ∈ advance.survey.batches) :
    advance.Leaves batch.address ↔ ¬advance.Replaces batch.address := by
  rw [advanceOf.replaces_iff_not_held distinct member, not_not]
  constructor
  · intro left
    by_contra free
    have replaced := advanceOf.replaced_of_not_held distinct member free {}
    rw [left {}] at replaced
    simp at replaced
  · exact advanceOf.leaves_of_held distinct member

theorem fetched_perm (advanceOf : advance.Of pages datasource addresses before trace after)
    (answered : Program.Allowed Call.Answered trace) :
    (advance.fetched.map Prod.fst).Perm
      (signaturesToFetch advance.survey.contexts advance.prepared) := by
  obtain ⟨earlier, listed, preparation, _, _, _, rfl⟩ := advanceOf.parts
  exact answered ⟨.rpc (.fetchTransactions
    (signaturesToFetch advance.survey.contexts advance.prepared)), advance.fetched⟩ (by simp)

theorem mem_fetched (advanceOf : advance.Of pages datasource addresses before trace after)
    (answered : Program.Allowed Call.Answered trace) :
    signature ∈ advance.fetched.map Prod.fst ↔
      (∃ context, advance.survey.contexts[signature]? = some context) ∧
        signature ∉ advance.prepared.recentSignatures := by
  rw [(advanceOf.fetched_perm answered).mem_iff, mem_signaturesToFetch]

/-- Every selected signature has one outcome. -/
theorem outcome_unique (advanceOf : advance.Of pages datasource addresses before trace after)
    (answered : Program.Allowed Call.Answered trace) {first second : Signature × FetchOutcome}
    (firstMember : first ∈ advance.fetched) (secondMember : second ∈ advance.fetched)
    (same : first.1 = second.1) : first = second := by
  have nodup : (advance.fetched.map Prod.fst).Nodup :=
    (advanceOf.fetched_perm answered).nodup_iff.mpr nodup_signaturesToFetch
  exact List.inj_on_of_nodup_map nodup firstMember secondMember same

theorem settledFrom (advanceOf : advance.Of pages datasource addresses before trace after)
    (answered : Program.Allowed Call.Answered trace) :
    ∃ caught, SettledFrom advance.survey.contexts advance.prepared advance.fetched advance.settled
      caught :=
  settleOutcomes_settledFrom advance.prepared
    ((advanceOf.fetched_perm answered).nodup_iff.mpr nodup_signaturesToFetch)
    fun _ member => ((advanceOf.mem_fetched answered).mp member).1

/-- Before it advances, a poll has not touched a cursor. -/
theorem queuedState_cursors (advanceOf : advance.Of pages datasource addresses before trace after)
    (answered : Program.Allowed Call.Answered trace) :
    advance.queuedState.cursors = advance.prepared.cursors := by
  obtain ⟨caught, settledFrom⟩ := advanceOf.settledFrom answered
  rw [queuedState, recordRecentSignatures_cursors]
  exact settledFrom.cursors

/-- A signature is ready when no address that lists it is blocked. -/
theorem isReady_iff (advanceOf : advance.Of pages datasource addresses before trace after)
    (distinct : addresses.Nodup) {context : SignatureContext}
    (found : advance.survey.contexts[signature]? = some context) :
    signatureIsReady signature advance.survey.contexts advance.blocked = true ↔
      ∀ address, advance.Lists address signature → advance.Replaces address := by
  have replaces_iff : ∀ address, advance.Lists address signature →
      (advance.Replaces address ↔ address ∉ advance.blocked) := by
    intro address ⟨batch, member, addressed, _⟩
    subst addressed
    rw [advanceOf.replaces_iff_not_held distinct member,
      advanceOf.mem_blocked_iff_held distinct member]
  have lists_iff : ∀ address, advance.Lists address signature ↔ address ∈ context.addresses := by
    intro address
    simp [advanceOf.lists_iff, found]
  simp only [signatureIsReady, found, List.all_eq_true, Bool.not_eq_true', Bool.eq_false_iff, ne_eq,
    List.contains_iff_mem]
  constructor
  · intro free address lists
    exact (replaces_iff address lists).mpr (free address ((lists_iff address).mp lists))
  · intro replaced address named
    have lists := (lists_iff address).mpr named
    exact (replaces_iff address lists).mp (replaced address lists)

/-- A converted update is among the ready ones when its signature is ready. -/
theorem mem_ready_iff {update : FetchedUpdate Signature} : update ∈ advance.ready ↔
    (∃ entry ∈ advance.fetched, convertedUpdate entry = some update) ∧
      signatureIsReady update.signature advance.survey.contexts advance.blocked = true := by
  rw [ready, mem_readyUpdates, settled, (settleOutcomes_converted advance.prepared).1,
    List.mem_filterMap]
  rfl

end Advance.Of

/-! ## The agreement -/

/-- Which cursors move, which updates are queued and what stays listed. -/
structure Advance.Agrees (advance : Advance Signature) (trace : List (CallEvent Signature))
    (after : PollingState Signature) : Prop where
  replaced_iff_unblocked : ∀ batch ∈ advance.survey.batches,
    (advance.Replaces batch.address ↔ batch.address ∉ advance.blocked)
  unblocked_iff_settled : ∀ batch ∈ advance.survey.batches,
    (batch.address ∉ advance.blocked ↔
      ∀ discovered ∈ batch.signatures, discovered.signature ∉ advance.settled.retrying)
  replaced : ∀ batch ∈ advance.survey.batches, advance.Replaces batch.address →
    after.cursors[batch.address]? = some batch.nextCursor
  left : ∀ batch ∈ advance.survey.batches, ¬advance.Replaces batch.address →
    advance.Leaves batch.address ∧
      after.cursors[batch.address]? = advance.prepared.cursors[batch.address]?
  queued_iff : ∀ signature transaction update,
    (signature, .ok transaction) ∈ fetchOutcomes trace →
    transactionUpdate signature transaction = some update →
    (⟨.send (.transaction update), .ok ()⟩ ∈ trace ↔
      ∀ address, advance.Lists address signature → advance.Replaces address)
  recorded_iff : ∀ signature transaction update,
    (signature, .ok transaction) ∈ fetchOutcomes trace →
    transactionUpdate signature transaction = some update →
    (signature ∈ advance.queuedState.recentSignatures ↔
      ∀ address, advance.Lists address signature → advance.Replaces address)
  deferred : ∀ address signature, advance.Lists address signature →
    signature ∉ advance.queuedState.recentSignatures →
    ∃ other, advance.Lists other signature ∧ advance.Leaves other ∧
      after.cursors[other]? = advance.prepared.cursors[other]?

namespace Advance.Of

variable {advance : Advance Signature} {address : Address} {signature : Signature}
  {transaction : EncodedTransaction} {update : TransactionUpdate Signature}

theorem fetchOutcomes_eq (advanceOf : advance.Of pages datasource addresses before trace after) :
    fetchOutcomes trace = advance.fetched := by
  obtain ⟨earlier, listed, preparation, _, preparing, surveying, rfl⟩ := advanceOf.parts
  have noEarlier : fetchOutcomes earlier = [] :=
    preparing_outcomes (preparePoll_preparing.ends preparing (by simp [Program.Allowed]))
  have noListed : fetchOutcomes listed = [] :=
    (quiet_trace (surveyAddresses_quiet.ends surveying (by simp [Program.Allowed]))).2.2.1
  have noSent : fetchOutcomes (advance.ready.map fun update =>
      (⟨.send (.transaction update.update), .ok ()⟩ : CallEvent Signature)) = [] := by
    simp [fetchOutcomes, outcomesOf]
  simp [noEarlier, noListed, noSent, outcomesOf]

/-- What a poll sends are its ready updates. -/
theorem sent_iff (advanceOf : advance.Of pages datasource addresses before trace after) :
    (⟨.send (.transaction update), .ok ()⟩ : CallEvent Signature) ∈ trace ↔
      ∃ ready ∈ advance.ready, ready.update = update := by
  obtain ⟨earlier, listed, preparation, _, preparing, surveying, rfl⟩ := advanceOf.parts
  have notEarlier : (⟨.send (.transaction update), .ok ()⟩ : CallEvent Signature) ∉ earlier :=
    fun member => preparePoll_preparing.ends preparing (by simp [Program.Allowed]) _ member
  have notListed : (⟨.send (.transaction update), .ok ()⟩ : CallEvent Signature) ∉ listed :=
    fun member => surveyAddresses_quiet.ends surveying (by simp [Program.Allowed]) _ member
  simp only [List.mem_append, List.mem_cons, List.mem_map, notEarlier, notListed, false_or]
  constructor
  · intro member
    rcases member with impossible | ⟨ready, member, same⟩
    · cases impossible
    · cases same
      exact ⟨ready, member, rfl⟩
  · intro ⟨ready, member, same⟩
    exact .inr ⟨ready, member, by rw [same]⟩

section Converted

variable (advanceOf : advance.Of pages datasource addresses before trace after)
  (distinct : addresses.Nodup) (answered : Program.Allowed Call.Answered trace)
  (present : (signature, .ok transaction) ∈ advance.fetched)
  (converts : transactionUpdate signature transaction = some update)

include advanceOf distinct answered present converts

/-- A converted update is ready when every address that lists it advances. -/
theorem ready_iff :
    ({ signature, slot := transaction.slot, update } : FetchedUpdate Signature) ∈ advance.ready ↔
      ∀ address, advance.Lists address signature → advance.Replaces address := by
  obtain ⟨⟨context, found⟩, _⟩ :=
    (advanceOf.mem_fetched answered).mp (List.mem_map_of_mem present)
  rw [mem_ready_iff, ← advanceOf.isReady_iff distinct found]
  have converted : ∃ entry ∈ advance.fetched, convertedUpdate entry =
      some ({ signature, slot := transaction.slot, update } : FetchedUpdate Signature) :=
    ⟨_, present, convertedUpdate_eq_some.mpr ⟨transaction, rfl, converts, rfl⟩⟩
  simp only [converted, true_and]

omit distinct in
/-- The ready update of a signature is the one converted from its outcome. -/
theorem ready_unique {ready : FetchedUpdate Signature} (member : ready ∈ advance.ready)
    (same : ready.signature = signature) : ready = { signature, slot := transaction.slot, update } := by
  obtain ⟨⟨entry, entryMember, converted⟩, _⟩ := mem_ready_iff.mp member
  obtain ⟨other, entryEq, otherConverts, slotSame⟩ := convertedUpdate_eq_some.mp converted
  have entrySame := advanceOf.outcome_unique answered entryMember present (by rw [entryEq]; exact same)
  rw [entrySame] at entryEq
  cases entryEq
  obtain ⟨readySignature, readySlot, readyUpdate⟩ := ready
  cases same
  cases slotSame
  rw [converts] at otherConverts
  cases otherConverts
  rfl

theorem sent_iff_replaced : (⟨.send (.transaction update), .ok ()⟩ : CallEvent Signature) ∈ trace ↔
    ∀ address, advance.Lists address signature → advance.Replaces address := by
  rw [advanceOf.sent_iff, ← advanceOf.ready_iff distinct answered present converts]
  constructor
  · intro ⟨ready, member, same⟩
    obtain ⟨⟨entry, _, converted⟩, _⟩ := mem_ready_iff.mp member
    obtain ⟨_, _, otherConverts, _⟩ := convertedUpdate_eq_some.mp converted
    have signatures : ready.signature = signature := by
      rw [← (transactionUpdate_some otherConverts).1, same, (transactionUpdate_some converts).1]
    rwa [← advanceOf.ready_unique answered present converts member signatures]
  · intro member
    exact ⟨_, member, rfl⟩

theorem recorded_iff_replaced : signature ∈ advance.queuedState.recentSignatures ↔
    ∀ address, advance.Lists address signature → advance.Replaces address := by
  obtain ⟨_, fresh⟩ := (advanceOf.mem_fetched answered).mp (List.mem_map_of_mem present)
  obtain ⟨caught, settledFrom⟩ := advanceOf.settledFrom answered
  have uncaught : ∀ slot, (signature, slot) ∉ caught := by
    intro slot member
    obtain ⟨⟨outcome, other, poisons⟩, _⟩ := settledFrom.quarantined signature slot member
    cases advanceOf.outcome_unique answered other present rfl
    rw [Poisons, converts] at poisons
    contradiction
  rw [← advanceOf.ready_iff distinct answered present converts, queuedState,
    recordRecentSignatures_recentSignatures, settledFrom.recentSignatures, OrderedMap.mem_insertAll,
    OrderedMap.mem_insertAll]
  simp only [fresh, uncaught, exists_false, or_self, false_or, mem_recordsOf]
  constructor
  · intro recorded
    obtain ⟨_, ready, member, same, _⟩ := recorded
    rwa [← advanceOf.ready_unique answered present converts member same]
  · intro member
    exact ⟨_, _, member, rfl, rfl⟩

end Converted

/-- What is listed and not recorded waits for an address that stays. -/
theorem deferred (advanceOf : advance.Of pages datasource addresses before trace after)
    (distinct : addresses.Nodup) (answered : Program.Allowed Call.Answered trace)
    (lists : advance.Lists address signature)
    (unrecorded : signature ∉ advance.queuedState.recentSignatures) :
    ∃ other, advance.Lists other signature ∧ advance.Leaves other := by
  obtain ⟨context, found, _⟩ := advanceOf.lists_iff.mp lists
  obtain ⟨caught, settledFrom⟩ := advanceOf.settledFrom answered
  have recents : advance.queuedState.recentSignatures = OrderedMap.insertAll
      (OrderedMap.insertAll advance.prepared.recentSignatures caught) (recordsOf advance.ready) := by
    rw [queuedState, recordRecentSignatures_recentSignatures, settledFrom.recentSignatures]
  rw [recents, OrderedMap.mem_insertAll, OrderedMap.mem_insertAll, not_or, not_or] at unrecorded
  obtain ⟨⟨fresh, uncaught⟩, unqueued⟩ := unrecorded
  have fetched := (advanceOf.mem_fetched answered).mpr ⟨⟨context, found⟩, fresh⟩
  rcases settledFrom.complete signature fetched with retrying | caughtNow | ⟨update, successful, same⟩
  · obtain ⟨batch, member, addressed, discovered, listed, named⟩ := lists
    have held : Held advance.settled.retrying batch := ⟨discovered, listed, named ▸ retrying⟩
    exact ⟨batch.address, ⟨batch, member, rfl, discovered, listed, named⟩,
      advanceOf.leaves_of_held distinct member held⟩
  · exact absurd caughtNow uncaught
  · have unready : ¬∀ other, advance.Lists other signature → advance.Replaces other := by
      rw [← advanceOf.isReady_iff distinct found]
      intro isReady
      subst same
      exact unqueued ⟨update.slot, mem_recordsOf.mpr
        ⟨update, mem_readyUpdates.mpr ⟨successful, isReady⟩, rfl, rfl⟩⟩
    obtain ⟨other, otherUnready⟩ := not_forall.mp unready
    obtain ⟨otherLists, stays⟩ := Classical.not_imp.mp otherUnready
    have otherLists' := otherLists
    obtain ⟨batch, member, addressed, _⟩ := otherLists'
    subst addressed
    exact ⟨batch.address, otherLists, (advanceOf.left_iff distinct member).mpr stays⟩

end Advance.Of

theorem queueing_agrees_with_advancing
    (ends : Action.Ends (poll pages datasource addresses) before trace (.ok outcome) after)
    (distinct : addresses.Nodup) (answered : Program.Allowed Call.Answered trace) :
    ∃ advance : Advance Signature,
      advance.Of pages datasource addresses before trace after ∧
      advance.survey.batches.map AddressBatch.address = addresses ∧
      advance.Agrees trace after := by
  obtain ⟨advance, advanceOf⟩ := poll_advance ends
  refine ⟨advance, advanceOf, advanceOf.addresses_eq, ?_⟩
  have cursors := advanceOf.queuedState_cursors answered
  exact {
    replaced_iff_unblocked := by
      intro batch member
      rw [advanceOf.replaces_iff_not_held distinct member,
        advanceOf.mem_blocked_iff_held distinct member]
    unblocked_iff_settled := by
      intro batch member
      rw [advanceOf.mem_blocked_iff_held distinct member, Held]
      simp only [not_exists, not_and]
    replaced := by
      intro batch member replaced
      have free := (advanceOf.replaces_iff_not_held distinct member).mp replaced
      rw [advanceOf.advanced, advanceAndRetain_cursors]
      exact advanceOf.replaced_of_not_held distinct member free _
    left := by
      intro batch member stays
      have leaves := (advanceOf.left_iff distinct member).mpr stays
      refine ⟨leaves, ?_⟩
      rw [advanceOf.advanced, advanceAndRetain_cursors, leaves, cursors]
    queued_iff := by
      intro signature transaction update fetched converts
      rw [advanceOf.fetchOutcomes_eq] at fetched
      exact advanceOf.sent_iff_replaced distinct answered fetched converts
    recorded_iff := by
      intro signature transaction update fetched converts
      rw [advanceOf.fetchOutcomes_eq] at fetched
      exact advanceOf.recorded_iff_replaced distinct answered fetched converts
    deferred := by
      intro address signature lists unrecorded
      obtain ⟨other, otherLists, leaves⟩ :=
        advanceOf.deferred distinct answered lists unrecorded
      refine ⟨other, otherLists, leaves, ?_⟩
      rw [advanceOf.advanced, advanceAndRetain_cursors, leaves, cursors] }

/-! One transaction of "multisig" fails to be fetched; another is shared with
"program", whose own cursor moves on. -/

def agreementScene : Scene (Fin 58) where
  headSlot := 100
  firstAvailableBlock := 0
  entries := [({ signature := 3, slot := 95 }, ["program"]),
    ({ signature := 2, slot := 94 }, ["multisig", "program"]),
    ({ signature := 1, slot := 93 }, ["multisig"])]
  contextOf := fun _ => 95
  outcome := fun signature =>
    if signature = 1 then .error { permanent := false, error := "timed out" }
    else .ok (convertible 95 (by decide))
  delivered := []

def agreementTrace : List (CallEvent (Fin 58)) :=
  agreementScene.trace 1 sampleDatasource ["multisig", "program"] {}

def agreementAfter : PollingState (Fin 58) :=
  agreementScene.after 1 sampleDatasource ["multisig", "program"] {}

example : queued agreementTrace = [3] ∧
    agreementAfter.cursors.toList = [("multisig", ⟨90⟩), ("program", ⟨100⟩)] := by decide +kernel

theorem queueing_agrees_with_advancing_shared : ∃ advance : Advance (Fin 58),
    advance.Of 1 sampleDatasource ["multisig", "program"] {} agreementTrace agreementAfter ∧
    advance.survey.batches.map AddressBatch.address = ["multisig", "program"] ∧
    advance.Agrees agreementTrace agreementAfter := by
  have typed : agreementScene.Typed := ⟨by decide, by decide, by decide⟩
  have succeeds : (agreementScene.run 1 sampleDatasource ["multisig", "program"] {}).2.1.1 =
      .ok { queuedTransactions := 1, checkpointUrgent := true, historyBoundaryVerified := true } := by
    decide +kernel
  have ends : Action.Ends (poll 1 sampleDatasource ["multisig", "program"]) {} agreementTrace
      (agreementScene.run 1 sampleDatasource ["multisig", "program"] {}).2.1.1 agreementAfter :=
    agreementScene.ends
  rw [succeeds] at ends
  exact queueing_agrees_with_advancing ends (by decide) (Scene.answered typed)

end Microscope.Polling
