import Microscope.Data.Triples
import Microscope.Polling.Comparisons
import Microscope.Polling.Completion
import Microscope.Polling.Scene

namespace Microscope.Polling

open Std Microscope.Data

/-! # When history is reported unavailable

Both boundary checks compare the first available slot with cursors of the
running process.  Right after a restart these are the durable cursors less one
replay window.
-/

variable {Signature : Type} [LinearOrder Signature]

/-- What an endpoint answers that keeps its first available slot at or below
`boundary` and its head at or above every durable cursor. -/
def Call.Retained (durable : CheckpointSnapshot Signature) (boundary : Slot) :
    (call : Call Signature) → call.Response → Prop
  | .rpc .getSlot, .ok headSlot => ∀ (address : Address) (cursor : AddressCursor),
      durable.cursors[address]? = some cursor → cursor.scannedSlot ≤ headSlot
  | .rpc .getFirstAvailableBlock, .ok firstAvailableSlot => firstAvailableSlot ≤ boundary
  | _, _ => True

def PollingState.Above (state : PollingState Signature) (lowest : Slot) : Prop :=
  ∀ (address : Address) (cursor : AddressCursor), state.cursors[address]? = some cursor →
    lowest ≤ cursor.scannedSlot

/-- A poll that fails this way keeps its cursors and reports no gap. -/
def FailsAbove (lowest : Slot) (failure : PollError Signature) (state : PollingState Signature) : Prop :=
  failure.Gapless ∧ state.Above lowest

theorem PollingState.Above.congr {state other : PollingState Signature} {lowest : Slot}
    (above : state.Above lowest) (same : other.cursors = state.cursors) : other.Above lowest := by
  intro address cursor present
  rw [same] at present
  exact above address cursor present

theorem PollingState.Above.least {state : PollingState Signature} {lowest minimum : Slot}
    (above : state.Above lowest) (least : state.minimumScannedSlot = some minimum) : lowest ≤ minimum := by
  obtain ⟨⟨address, cursor, present, same⟩, _⟩ := OrderedMap.least_eq_some_iff.mp least
  exact same ▸ above address cursor present

theorem saturatingAdd_mono {left right : Slot} (le : left ≤ right) (added : Nat) :
    saturatingAdd left added ≤ saturatingAdd right added :=
  min_le_min_right _ (Nat.add_le_add_right le added)

variable {durable : CheckpointSnapshot Signature} {boundary lowest checkpointSlot : Slot}
  {datasource : RpcPollingDatasource} {addresses : List Address} {headSlot replayWindowSlots : Slot}
  {α : Type} {action : PollAction Signature α}

/-- An ordinary action that leaves the state alone. -/
theorem triple_of_ordinary {holds : α → Prop} (fails : Action.FailsOnly PollError.Ordinary action)
    (stays : ∀ state trace result after, Program.Allowed (Call.Retained durable boundary) trace →
      Action.Ends action state trace result after →
      after = state ∧ ∀ value, result = .ok value → holds value) :
    Action.Triple (Call.Retained durable boundary) (·.Above lowest) action
      (fun value state => holds value ∧ state.Above lowest) (FailsAbove lowest) := by
  intro start trace result final above clean ends
  obtain ⟨rfl, holding⟩ := stays _ _ _ _ clean ends
  cases result with
  | ok value => exact ⟨holding value rfl, above⟩
  | error failure => exact ⟨(fails _ _ _ _ ends).gapless, above⟩

theorem absorbDeliveredSignatures_triple : Action.Triple (Call.Retained durable boundary)
    (·.Above lowest) (absorbDeliveredSignatures datasource : PollAction Signature Unit)
    (fun _ state => state.Above lowest) (FailsAbove lowest) := by
  intro start trace result final above _ ends
  obtain ⟨deliveries, _, rfl, rfl⟩ := absorbDeliveredSignatures_cases ends
  exact above.congr recordRecentSignatures_cursors

theorem readSlot_triple (attained : ∃ (address : Address) (cursor : AddressCursor),
      durable.cursors[address]? = some cursor ∧ checkpointSlot ≤ cursor.scannedSlot) :
    Action.Triple (Call.Retained durable boundary) (·.Above lowest)
      (readSlot : PollAction Signature Slot)
      (fun headSlot state => checkpointSlot ≤ headSlot ∧ state.Above lowest) (FailsAbove lowest) := by
  refine triple_of_ordinary readSlot_failsOnly fun state trace result after clean ends => ?_
  obtain ⟨address, cursor, present, below⟩ := attained
  obtain ⟨response, later, rfl, answered⟩ := Action.ends_request_bind_iff.mp ends
  cases response with
  | error error =>
      obtain ⟨_, rfl, rfl⟩ := Action.ends_fail_iff.mp answered
      exact ⟨rfl, fun _ impossible => by cases impossible⟩
  | ok headSlot =>
      obtain ⟨_, rfl, rfl⟩ := Action.ends_pure_iff.mp answered
      have served := clean ⟨.rpc .getSlot, .ok headSlot⟩ (by simp)
      refine ⟨rfl, fun value same => ?_⟩
      cases same
      exact below.trans (served address cursor present)

theorem refuseCursorAheadOfHead_triple : Action.Triple (Call.Retained durable boundary)
    (·.Above lowest) (refuseCursorAheadOfHead headSlot replayWindowSlots : PollAction Signature Unit)
    (fun _ state => state.Above lowest) (FailsAbove lowest) := by
  intro start trace result final above _ ends
  obtain ⟨_, rfl, _⟩ := refuseCursorAheadOfHead_cases ends
  cases result with
  | ok value => exact above
  | error failure => exact ⟨refuseCursorAheadOfHead_failsOnly _ _ _ _ ends, above⟩

theorem installCursors_triple (behind : lowest ≤ headSlot - replayWindowSlots) :
    Action.Triple (Call.Retained durable boundary) (·.Above lowest)
      (installCursors addresses headSlot replayWindowSlots : PollAction Signature Bool)
      (fun _ state => state.Above lowest) (FailsAbove lowest) := by
  intro start trace result final above _ ends
  obtain ⟨_, ⟨initialized, rfl⟩, installs⟩ := installCursors_cases ends
  intro address cursor present
  rw [installs.cursors] at present
  cases found : start.cursors[address]? with
  | some old =>
      rw [found] at present
      cases present
      exact above address cursor found
  | none =>
      rw [found, Option.none_or] at present
      split at present
      · cases present
        exact behind
      · cases present

theorem readFirstAvailableBlock_triple : Action.Triple (Call.Retained durable boundary)
    (·.Above lowest) (readFirstAvailableBlock : PollAction Signature Slot)
    (fun firstAvailableSlot state => firstAvailableSlot ≤ boundary ∧ state.Above lowest)
    (FailsAbove lowest) := by
  refine triple_of_ordinary readFirstAvailableBlock_failsOnly fun state trace result after clean ends => ?_
  obtain ⟨same, reads⟩ := readFirstAvailableBlock_cases ends
  refine ⟨same, fun firstAvailableSlot succeeds => ?_⟩
  have served := clean ⟨.rpc .getFirstAvailableBlock, .ok firstAvailableSlot⟩ (by simp [reads _ succeeds])
  exact served

theorem verifyHistoryBoundary_triple (reached : boundary ≤ saturatingAdd lowest 1) :
    Action.Triple (Call.Retained durable boundary) (·.Above lowest)
      (verifyHistoryBoundary : PollAction Signature Bool)
      (fun _ state => state.Above lowest) (FailsAbove lowest) := by
  refine Action.triple_request.bind fun checkedAt => ?_
  refine Action.triple_of_fact fun _ => ?_
  refine Action.triple_read.bind fun state => ?_
  split
  · cases least : state.minimumScannedSlot with
    | none => exact Action.triple_pure fun _ holds => holds.2
    | some minimumScannedSlot =>
        have ready : ∀ current, state = current ∧ current.Above lowest →
            lowest ≤ minimumScannedSlot ∧ current.Above lowest := by
          intro current ⟨same, above⟩
          subst same
          exact ⟨above.least least, above⟩
        refine Action.Triple.mono (Action.triple_of_fact fun below => ?_) ready fun _ _ above => above
        refine readFirstAvailableBlock_triple.bind fun firstAvailableSlot => ?_
        refine Action.triple_of_fact fun served => ?_
        have intact : firstAvailableSlot ≤ saturatingAdd minimumScannedSlot 1 :=
          served.trans (reached.trans (saturatingAdd_mono below 1))
        have finish : Action.Triple (Call.Retained durable boundary) (·.Above lowest)
            (if firstAvailableSlot > saturatingAdd minimumScannedSlot 1 then
              Action.fail (historyGap firstAvailableSlot minimumScannedSlot)
            else pure true : PollAction Signature Bool)
            (fun _ state => state.Above lowest) (FailsAbove lowest) := by
          rw [if_neg (Nat.not_lt.mpr intact)]
          exact Action.triple_pure fun _ above => above
        exact (Action.triple_modify fun current above =>
          above.congr PollingState.recordHistoryBoundaryCheck_cursors).bind fun _ => finish
  · exact Action.triple_pure fun _ holds => holds.2

theorem checkAddressHistory_triple {survey : Survey Signature} {cursor : AddressCursor}
    (reached : boundary ≤ saturatingAdd lowest 1) (below : lowest ≤ cursor.scannedSlot)
    (known : ∀ firstAvailableSlot, survey.firstAvailableSlot = some firstAvailableSlot →
      firstAvailableSlot ≤ boundary) :
    Action.Triple (Call.Retained durable boundary) (·.Above lowest) (checkAddressHistory survey cursor)
      (fun checked state => ((∀ firstAvailableSlot, checked.firstAvailableSlot = some firstAvailableSlot →
        firstAvailableSlot ≤ boundary) ∧ checked.batches = survey.batches) ∧ state.Above lowest)
      (FailsAbove lowest) := by
  have bounded : Action.Triple (Call.Retained durable boundary) (·.Above lowest)
      (historyBoundary survey) (fun firstAvailableSlot state =>
        firstAvailableSlot ≤ boundary ∧ state.Above lowest) (FailsAbove lowest) := by
    unfold historyBoundary
    cases found : survey.firstAvailableSlot with
    | some firstAvailableSlot => exact Action.triple_pure fun _ above => ⟨known _ found, above⟩
    | none => exact readFirstAvailableBlock_triple
  refine bounded.bind fun firstAvailableSlot => Action.triple_of_fact fun served => ?_
  have intact : firstAvailableSlot ≤ saturatingAdd cursor.scannedSlot 1 :=
    served.trans (reached.trans (saturatingAdd_mono below 1))
  rw [if_neg (Nat.not_lt.mpr intact)]
  refine Action.triple_pure fun _ above => ⟨⟨fun other same => ?_, rfl⟩, above⟩
  cases same
  exact served

variable [SignatureText Signature] {pages : Nat}

/-- What a survey carries along. -/
structure Survey.Within (survey : Survey Signature) (boundary lowest : Slot) : Prop where
  boundary : ∀ firstAvailableSlot, survey.firstAvailableSlot = some firstAvailableSlot →
    firstAvailableSlot ≤ boundary
  batches : ∀ batch ∈ survey.batches, lowest ≤ batch.nextCursor.scannedSlot

theorem discoverSignatures_triple {address : Address} {cursor : AddressCursor}
    (behind : lowest ≤ headSlot) :
    Action.Triple (Call.Retained durable boundary) (·.Above lowest)
      (discoverSignatures pages address cursor headSlot replayWindowSlots :
        PollAction Signature (AddressBatch Signature))
      (fun batch state => lowest ≤ batch.nextCursor.scannedSlot ∧ state.Above lowest)
      (FailsAbove lowest) := by
  refine triple_of_ordinary discoverSignatures_failsOnly fun state trace result after _ ends => ?_
  obtain ⟨same, made⟩ := discoverSignatures_cases ends
  refine ⟨same, fun batch succeeds => ?_⟩
  obtain ⟨listing, reached, _, rfl⟩ := made batch succeeds
  exact behind.trans (le_max_left _ _)

theorem surveyAddresses_triple {survey : Survey Signature} (reached : boundary ≤ saturatingAdd lowest 1)
    (behind : lowest ≤ headSlot) (within : survey.Within boundary lowest) :
    Action.Triple (Call.Retained durable boundary) (·.Above lowest)
      (surveyAddresses pages headSlot replayWindowSlots addresses survey)
      (fun surveyed state => surveyed.Within boundary lowest ∧ state.Above lowest)
      (FailsAbove lowest) := by
  induction addresses generalizing survey with
  | nil => exact Action.triple_pure fun _ above => ⟨within, above⟩
  | cons address addresses ih =>
      refine Action.triple_read.bind fun state => ?_
      cases present : state.cursors[address]? with
      | none =>
          refine Action.triple_fail fun current ⟨_, above⟩ => ⟨fun gap same => ?_, above⟩
          cases same
      | some cursor =>
          have ready : ∀ current, state = current ∧ current.Above lowest →
              lowest ≤ cursor.scannedSlot ∧ current.Above lowest := by
            intro current ⟨same, above⟩
            subst same
            exact ⟨above address cursor present, above⟩
          refine Action.Triple.mono (Action.triple_of_fact fun below => ?_) ready fun _ _ holds => holds
          refine (discoverSignatures_triple behind).bind fun batch => ?_
          refine Action.triple_of_fact fun advanced => ?_
          have rest : ∀ checked : Survey Signature, checked.Within boundary lowest →
              Action.Triple (Call.Retained durable boundary) (·.Above lowest)
                ((Action.ofExcept (addContexts address checked.contexts batch.signatures)) >>=
                  fun contexts => surveyAddresses pages headSlot replayWindowSlots addresses
                    { checked with batches := checked.batches ++ [batch], contexts })
                (fun surveyed state => surveyed.Within boundary lowest ∧ state.Above lowest)
                (FailsAbove lowest) := by
            intro checked kept
            refine (Action.triple_ofExcept fun failure current failed above =>
              ⟨(addContexts_ordinary failed).gapless, above⟩).bind fun contexts => ?_
            refine ih ⟨kept.boundary, fun other member => ?_⟩
            rcases List.mem_append.mp member with earlier | last
            · exact kept.batches other earlier
            · rw [List.mem_singleton.mp last]
              exact advanced
          cases batch.reachedReplayFloor with
          | true => exact rest survey within
          | false =>
              refine (checkAddressHistory_triple reached below within.boundary).bind fun checked => ?_
              refine Action.triple_of_fact fun ⟨bounded, same⟩ => rest checked ⟨bounded, ?_⟩
              rw [same]
              exact within.batches

theorem settleOutcomes_cursors {contexts : SignatureContexts Signature}
    {state : PollingState Signature} {fetched : List (Signature × FetchOutcome)} :
    (settleOutcomes contexts state fetched).state.cursors = state.cursors := by
  have one : ∀ (settled : Settled Signature) (entry : Signature × FetchOutcome),
      (settleOutcome contexts settled entry).state.cursors = settled.state.cursors := by
    intro settled entry
    have processed : ∀ outcome : FetchOutcome,
        (processFetchedTransaction settled.state entry.1 outcome).2.cursors = settled.state.cursors := by
      intro outcome
      unfold processFetchedTransaction
      split
      · split <;> rfl
      · split <;> rfl
    rw [← processed entry.2]
    unfold settleOutcome
    cases processFetchedTransaction settled.state entry.1 entry.2 with
    | mk outcome after =>
        cases outcome with
        | ready slot update => rfl
        | transientFailure error => rfl
        | poisoned error disposition =>
            dsimp only
            split
            · split <;> rfl
            · rfl
  have all : ∀ settled : Settled Signature,
      (fetched.foldl (settleOutcome contexts) settled).state.cursors = settled.state.cursors := by
    induction fetched with
    | nil => exact fun _ => rfl
    | cons entry rest ih => exact fun settled => (ih _).trans (one settled entry)
  exact all _

omit [SignatureText Signature] in
theorem advanceReadyCursors_above {state : PollingState Signature} {retrying : List Signature}
    {batches : List (AddressBatch Signature)} (above : state.Above lowest)
    (advanced : ∀ batch ∈ batches, lowest ≤ batch.nextCursor.scannedSlot) :
    (advanceReadyCursors state batches retrying).1.Above lowest := by
  intro address cursor present
  have moved : _ ∨ ∃ batch ∈ batches, batch.address = address ∧ ¬Held retrying batch ∧
      (advanceReadyCursors state batches retrying).1.cursors[address]? = some batch.nextCursor :=
    advanceReadyCursors_cases address
  rcases moved with ⟨same, _⟩ | ⟨batch, member, _, _, replaced⟩
  · rw [same] at present
    exact above address cursor present
  · rw [replaced] at present
    cases present
    exact advanced batch member

theorem fetchAndAdvance_triple {initialized : Bool} {survey : Survey Signature}
    (within : survey.Within boundary lowest) :
    Action.Triple (Call.Retained durable boundary) (·.Above lowest)
      (fetchAndAdvance headSlot replayWindowSlots initialized survey)
      (fun _ state => state.Above lowest) (FailsAbove lowest) := by
  intro start trace result final above _ ends
  obtain ⟨fetched, settled, sent, unsent, reached, rfl, _, _, _, rfl, outcome⟩ :=
    fetchAndAdvance_cases ends
  have settledAbove : ((settleOutcomes survey.contexts start fetched).state.recordRecentSignatures
      (recordsOf sent)).Above lowest :=
    above.congr (recordRecentSignatures_cursors.trans settleOutcomes_cursors)
  rcases outcome with ⟨⟨failure, rfl⟩, rfl⟩ | ⟨⟨polled, rfl⟩, _, rfl⟩
  · exact ⟨(fetchAndAdvance_failsOnly _ _ _ _ ends).gapless, settledAbove⟩
  · intro address cursor present
    rw [advanceAndRetain_cursors] at present
    exact advanceReadyCursors_above settledAbove within.batches address cursor present

theorem poll_triple (attained : ∃ (address : Address) (cursor : AddressCursor),
      durable.cursors[address]? = some cursor ∧ checkpointSlot ≤ cursor.scannedSlot)
    (behind : lowest ≤ checkpointSlot - datasource.replayWindow.slots)
    (reached : boundary ≤ saturatingAdd lowest 1) :
    Action.Triple (Call.Retained durable boundary) (·.Above lowest)
      (poll pages datasource addresses : PollAction Signature PollOutcome)
      (fun _ state => state.Above lowest) (FailsAbove lowest) := by
  rw [poll_eq]
  refine absorbDeliveredSignatures_triple.bind fun _ => ?_
  refine (readSlot_triple attained).bind fun headSlot => Action.triple_of_fact fun ahead => ?_
  refine refuseCursorAheadOfHead_triple.bind fun _ => ?_
  refine (installCursors_triple (behind.trans (Nat.sub_le_sub_right ahead _))).bind fun initialized => ?_
  refine (verifyHistoryBoundary_triple reached).bind fun verified => ?_
  have below : lowest ≤ headSlot := (behind.trans (Nat.sub_le _ _)).trans ahead
  refine (surveyAddresses_triple reached below ⟨fun _ same => (by cases same), by simp⟩).bind
    fun survey => Action.triple_of_fact fun within => ?_
  exact fetchAndAdvance_triple within

/-! ## Runs of polls -/

/-- One more poll of an endpoint that keeps what the checkpoint needs. -/
inductive PollStep (durable : CheckpointSnapshot Signature) (boundary : Slot)
    (datasource : RpcPollingDatasource) (addresses : List Address) :
    PollingState Signature → PollingState Signature → Prop where
  | poll {pages : Nat} {before after : PollingState Signature} {trace : List (CallEvent Signature)}
      {result : Except (PollError Signature) PollOutcome}
      (ends : Action.Ends (poll pages datasource addresses) before trace result after)
      (answered : Program.Allowed Call.Answered trace)
      (retained : Program.Allowed (Call.Retained durable boundary) trace) :
      PollStep durable boundary datasource addresses before after

/-- No poll of a run from `start` reports the history unavailable. -/
def NeverUnavailable (durable : CheckpointSnapshot Signature) (boundary : Slot)
    (datasource : RpcPollingDatasource) (addresses : List Address) (start : PollingState Signature) :
    Prop :=
  ∀ before, Relation.ReflTransGen (PollStep durable boundary datasource addresses) start before →
    ∀ pages trace result after, Action.Ends (poll pages datasource addresses) before trace result after →
      Program.Allowed Call.Answered trace → Program.Allowed (Call.Retained durable boundary) trace →
      ∀ gap, result ≠ .error (.historyUnavailable gap)

theorem PollStep.above {before after : PollingState Signature}
    (attained : ∃ (address : Address) (cursor : AddressCursor),
      durable.cursors[address]? = some cursor ∧ checkpointSlot ≤ cursor.scannedSlot)
    (behind : lowest ≤ checkpointSlot - datasource.replayWindow.slots)
    (reached : boundary ≤ saturatingAdd lowest 1)
    (step : PollStep durable boundary datasource addresses before after) (above : before.Above lowest) :
    after.Above lowest := by
  obtain ⟨ends, _, retained⟩ := step
  have outcome := poll_triple attained behind reached _ _ _ _ above retained ends
  split at outcome
  · exact outcome
  · exact outcome.2

theorem never_unavailable {start : PollingState Signature}
    (attained : ∃ (address : Address) (cursor : AddressCursor),
      durable.cursors[address]? = some cursor ∧ checkpointSlot ≤ cursor.scannedSlot)
    (reached : boundary ≤ saturatingAdd (checkpointSlot - datasource.replayWindow.slots) 1)
    (above : start.Above (checkpointSlot - datasource.replayWindow.slots)) :
    NeverUnavailable durable boundary datasource addresses start := by
  intro before polls
  have beforeAbove : before.Above (checkpointSlot - datasource.replayWindow.slots) := by
    induction polls with
    | refl => exact above
    | tail _ step ih => exact step.above attained le_rfl reached ih
  intro pages trace result after ends _ retained gap same
  have outcome := poll_triple attained le_rfl reached _ _ _ _ beforeAbove retained ends
  subst same
  exact outcome.1 gap rfl

/-! ## The first poll after a restart -/

omit [SignatureText Signature] in
theorem exists_absorb (datasource : RpcPollingDatasource) (start : PollingState Signature) : ∃ trace,
    Action.Ends (absorbDeliveredSignatures datasource) start trace (.ok ()) start ∧
      ∀ event ∈ trace, event = ⟨.drainDelivered, []⟩ := by
  unfold absorbDeliveredSignatures
  split
  · refine ⟨[⟨.drainDelivered, []⟩], ?_, by simp⟩
    exact Action.ends_request_bind_iff.mpr ⟨[], [], rfl, Action.ends_modify_iff.mpr ⟨rfl, rfl, rfl⟩⟩
  · exact ⟨[], Action.ends_pure_iff.mpr ⟨rfl, rfl, rfl⟩, by simp⟩

omit [SignatureText Signature] in
theorem refuseCursorAheadOfHead_tolerates {start : PollingState Signature}
    (tolerated : cursorAheadOfHead start.cursors headSlot replayWindowSlots = none) :
    Action.Ends (refuseCursorAheadOfHead headSlot replayWindowSlots) start [] (.ok ()) start := by
  refine Action.ends_read_bind_iff.mpr ?_
  rw [tolerated]
  exact Action.ends_pure_iff.mpr ⟨rfl, rfl, rfl⟩

omit [SignatureText Signature] in
theorem installCursors_complete {start : PollingState Signature}
    (complete : ∀ address ∈ addresses, address ∈ start.cursors) :
    Action.Ends (installCursors addresses headSlot replayWindowSlots) start [] (.ok false) start := by
  have installed : addresses.foldl (installCursor (headSlot - replayWindowSlots)) (start, false) =
      (start, false) := by
    induction addresses with
    | nil => rfl
    | cons address rest ih =>
        have present : start.cursors.contains address = true :=
          ExtTreeMap.contains_iff_mem.mpr (complete address (by simp))
        rw [List.foldl_cons, installCursor, if_pos present]
        exact ih fun other member => complete other (by simp [member])
  refine Action.ends_read_bind_iff.mpr (Action.ends_modify_bind_iff.mpr ?_)
  rw [installed]
  exact Action.ends_pure_iff.mpr ⟨rfl, rfl, rfl⟩

omit [SignatureText Signature] in
theorem verifyHistoryBoundary_gap {start : PollingState Signature} {minimumScannedSlot : Slot}
    (least : start.minimumScannedSlot = some minimumScannedSlot)
    (due : start.lastHistoryBoundaryCheck = none) (gap : saturatingAdd minimumScannedSlot 1 < boundary) :
    Action.Ends verifyHistoryBoundary start
      [⟨.now, (0 : Instant)⟩, ⟨.rpc .getFirstAvailableBlock, .ok boundary⟩]
      (.error (historyGap boundary minimumScannedSlot)) (start.recordHistoryBoundaryCheck 0) := by
  refine Action.ends_request_bind_iff.mpr ⟨0, _, rfl, ?_⟩
  refine Action.ends_read_bind_iff.mpr ?_
  have isDue : start.historyBoundaryCheckDue 0 historyBoundaryCheckInterval = true := by
    simp [PollingState.historyBoundaryCheckDue, due]
  rw [if_pos isDue, least]
  refine Action.ends_bind_iff.mpr (.inr ⟨[_], [], boundary, start, rfl, ?_, ?_⟩)
  · exact Action.ends_request_bind_iff.mpr ⟨.ok boundary, [], rfl, Action.ends_pure_iff.mpr ⟨rfl, rfl, rfl⟩⟩
  · refine Action.ends_modify_bind_iff.mpr ?_
    rw [if_pos gap]
    exact Action.ends_fail_iff.mpr ⟨rfl, rfl, rfl⟩

/-- A poll whose least cursor the history does not reach reports so, when the
endpoint has caught up and the check is due. -/
theorem exists_unavailable (pages : Nat) {start : PollingState Signature} {minimumScannedSlot : Slot}
    (least : start.minimumScannedSlot = some minimumScannedSlot)
    (bounded : ∀ (address : Address) (cursor : AddressCursor), start.cursors[address]? = some cursor →
      cursor.scannedSlot ≤ u64Max)
    (complete : ∀ address ∈ addresses, address ∈ start.cursors)
    (due : start.lastHistoryBoundaryCheck = none)
    (durableBounded : durable.Bounded)
    (gap : saturatingAdd minimumScannedSlot 1 < boundary) :
    ∃ trace after, Action.Ends (poll pages datasource addresses) start trace
        (.error (historyGap boundary minimumScannedSlot)) after ∧
      Program.Allowed Call.Answered trace ∧ Program.Allowed (Call.Retained durable boundary) trace := by
  obtain ⟨absorbTrace, absorbing, drained⟩ := exists_absorb datasource start
  have tolerated : cursorAheadOfHead start.cursors u64Max datasource.replayWindow.slots = none := by
    rw [cursorAheadOfHead_eq_none_iff]
    intro address cursor present
    exact (bounded address cursor present).trans (by simp [saturatingAdd])
  have reading : Action.Ends readSlot start [⟨.rpc .getSlot, .ok u64Max⟩] (.ok u64Max) start :=
    Action.ends_request_bind_iff.mpr ⟨.ok u64Max, [], rfl, Action.ends_pure_iff.mpr ⟨rfl, rfl, rfl⟩⟩
  refine ⟨absorbTrace ++ ([⟨.rpc .getSlot, .ok u64Max⟩] ++ ([] ++ ([] ++
    [⟨.now, (0 : Instant)⟩, ⟨.rpc .getFirstAvailableBlock, .ok boundary⟩]))),
    start.recordHistoryBoundaryCheck 0, ?_, ?_, ?_⟩
  · rw [poll_eq]
    refine Action.ends_bind_iff.mpr (.inr ⟨_, _, _, _, rfl, absorbing, ?_⟩)
    refine Action.ends_bind_iff.mpr (.inr ⟨_, _, _, _, rfl, reading, ?_⟩)
    refine Action.ends_bind_iff.mpr (.inr ⟨_, _, _, _, rfl, refuseCursorAheadOfHead_tolerates tolerated, ?_⟩)
    refine Action.ends_bind_iff.mpr (.inr ⟨_, _, _, _, rfl, installCursors_complete complete, ?_⟩)
    exact Action.ends_bind_iff.mpr (.inl ⟨_, rfl, verifyHistoryBoundary_gap least due gap⟩)
  · intro event member
    rcases List.mem_append.mp member with absorbed | later
    · rw [drained event absorbed]
      simp [Call.Answered]
    · simp only [List.nil_append, List.singleton_append, List.mem_cons, List.not_mem_nil,
        or_false] at later
      rcases later with rfl | rfl | rfl <;> simp [Call.Answered]
  · intro event member
    rcases List.mem_append.mp member with absorbed | later
    · rw [drained event absorbed]
      exact trivial
    · simp only [List.nil_append, List.singleton_append, List.mem_cons, List.not_mem_nil,
        or_false] at later
      rcases later with rfl | rfl | rfl
      · exact fun address cursor present => durableBounded.cursors address cursor present
      · exact trivial
      · exact Nat.le_refl boundary

/-- A checkpoint is enough for recovery from an endpoint exactly when the
endpoint keeps one replay window more than what comes after the checkpoint. -/
theorem history_kept_iff {codec : JsonCodec} {path genesisHash : String}
    {snapshot : CheckpointSnapshot Signature}
    (bounded : durable.Bounded)
    (complete : durable.cursors.keys =
      (datasource.checkpointStore path genesisHash addresses).identity.addresses)
    (loaded : (datasource.checkpointStore path genesisHash addresses).interpret codec
      ((datasource.checkpointStore path genesisHash addresses).encode codec durable) =
        .ok (.loaded snapshot))
    (least : OrderedMap.least durable.cursors AddressCursor.scannedSlot = some checkpointSlot) :
    (∀ shipped, NeverUnavailable durable boundary datasource addresses
        (snapshot.resume.recordRecentSignatures shipped)) ↔
      boundary ≤ saturatingAdd (checkpointSlot - datasource.replayWindow.slots) 1 := by
  rw [CheckpointStore.interpret_encode bounded rfl complete] at loaded
  cases loaded
  have rewound : ∀ shipped (address : Address),
      ((durable.rewind datasource.replayWindow.slots).resume.recordRecentSignatures
        shipped).cursors[address]? = durable.cursors[address]?.map fun cursor =>
          { scannedSlot := cursor.scannedSlot - datasource.replayWindow.slots } := by
    intro shipped address
    rw [recordRecentSignatures_cursors, resume_cursors, rewind_getElem?]
  obtain ⟨⟨first, firstCursor, firstPresent, attained⟩, lower⟩ := OrderedMap.least_eq_some_iff.mp least
  constructor
  · intro never
    by_contra beyond
    have rewoundLeast : ((durable.rewind datasource.replayWindow.slots).resume.recordRecentSignatures
        []).minimumScannedSlot = some (checkpointSlot - datasource.replayWindow.slots) := by
      refine OrderedMap.least_eq_some_iff.mpr ⟨⟨first,
        { scannedSlot := firstCursor.scannedSlot - datasource.replayWindow.slots }, ?_, ?_⟩, ?_⟩
      · rw [rewound, firstPresent]
        rfl
      · rw [attained]
      · intro address cursor present
        rw [rewound] at present
        obtain ⟨old, oldPresent, rfl⟩ := Option.map_eq_some_iff.mp present
        exact Nat.sub_le_sub_right (lower address old oldPresent) _
    have rewoundBounded : ∀ (address : Address) (cursor : AddressCursor),
        ((durable.rewind datasource.replayWindow.slots).resume.recordRecentSignatures
          []).cursors[address]? = some cursor → cursor.scannedSlot ≤ u64Max := by
      intro address cursor present
      rw [rewound] at present
      obtain ⟨old, oldPresent, rfl⟩ := Option.map_eq_some_iff.mp present
      exact (Nat.sub_le _ _).trans (bounded.cursors address old oldPresent)
    have installed : ∀ address ∈ addresses, address ∈
        ((durable.rewind datasource.replayWindow.slots).resume.recordRecentSignatures []).cursors := by
      intro address member
      have listed : address ∈ durable.cursors.keys := by
        rw [complete]
        exact CheckpointStore.mem_new_addresses.mpr member
      rw [ExtTreeMap.mem_keys, OrderedMap.mem_iff_getElem?] at listed
      obtain ⟨cursor, present⟩ := listed
      rw [OrderedMap.mem_iff_getElem?, rewound, present]
      exact ⟨_, rfl⟩
    obtain ⟨trace, after, ends, answered, retained⟩ := exists_unavailable 0 rewoundLeast rewoundBounded
      installed rfl bounded (Nat.not_le.mp beyond)
    exact never [] _ .refl 0 trace _ after ends answered retained _ rfl
  · intro reached shipped
    refine never_unavailable ⟨first, firstCursor, firstPresent, attained.ge⟩ reached ?_
    intro address cursor present
    obtain ⟨old, oldPresent, rfl⟩ :=
      Option.map_eq_some_iff.mp ((rewound shipped address).symm.trans present)
    exact Nat.sub_le_sub_right (lower address old oldPresent) _

def keptDurable : CheckpointSnapshot (Fin 58) where
  cursors := ExtTreeMap.ofList [("program", ({ scannedSlot := 100 } : AddressCursor))]
  recentSignatures := ∅
  quarantinedSignatures := ∅

def keptStore : CheckpointStore :=
  sampleDatasource.checkpointStore "rpc-polling.json" "genesis" ["program"]

def keptCodec : JsonCodec := .sample JsonCodec.separates_nil

theorem keptDurable_bounded : keptDurable.Bounded :=
  CheckpointSnapshot.bounded_of_all (by decide +kernel) (by decide +kernel)

theorem keptDurable_complete : keptDurable.cursors.keys = keptStore.identity.addresses := by
  decide +kernel

theorem keptDurable_least :
    OrderedMap.least keptDurable.cursors AddressCursor.scannedSlot = some 100 := by
  decide +kernel

theorem keptDurable_loaded : keptStore.interpret keptCodec (keptStore.encode keptCodec keptDurable) =
    .ok (.loaded (keptDurable.rewind 10)) :=
  CheckpointStore.interpret_encode keptDurable_bounded rfl keptDurable_complete

theorem history_kept_window : NeverUnavailable keptDurable 91 sampleDatasource ["program"]
    ((keptDurable.rewind 10).resume.recordRecentSignatures []) :=
  (history_kept_iff keptDurable_bounded keptDurable_complete keptDurable_loaded keptDurable_least).mpr
    (by decide) []

/-- The endpoint still has every slot after the checkpoint. -/
theorem history_kept_unavailable : 101 ≤ saturatingAdd 100 1 ∧
    ∃ snapshot trace gap after,
      keptStore.interpret keptCodec (keptStore.encode keptCodec keptDurable) = .ok (.loaded snapshot) ∧
      Action.Ends (poll 1 sampleDatasource ["program"]) (snapshot.resume.recordRecentSignatures []) trace
        (.error (.historyUnavailable gap)) after ∧
      Program.Allowed Call.Answered trace ∧ Program.Allowed (Call.Retained keptDurable 101) trace := by
  have least : ((keptDurable.rewind 10).resume.recordRecentSignatures []).minimumScannedSlot = some 90 := by
    decide +kernel
  have bounded : (keptDurable.rewind 10).Bounded :=
    CheckpointSnapshot.bounded_of_all (by decide +kernel) (by decide +kernel)
  have installed : ∀ address ∈ ["program"],
      address ∈ ((keptDurable.rewind 10).resume.recordRecentSignatures []).cursors := by decide +kernel
  obtain ⟨trace, after, ends, answered, retained⟩ := exists_unavailable 1 least bounded.cursors installed
    rfl keptDurable_bounded (show saturatingAdd 90 1 < 101 by decide)
  exact ⟨by decide, _, trace, _, after, keptDurable_loaded, ends, answered, retained⟩

end Microscope.Polling
