import Microscope.Data.Logging
import Microscope.Polling.Agreement

namespace Microscope.Polling

open Std Microscope.Data

/-! # Boundary comparisons

A poll compares the history boundary with the least cursor and with the
cursors of addresses whose listing stopped early.  The logged poll notes every
comparison it makes; without the log it is the poll.
-/

/-- One comparison of the endpoint's first available slot with a cursor. -/
structure Comparison where
  firstAvailableSlot : Slot
  cursorSlot : Slot
deriving DecidableEq, Repr

/-- The history still reaches the cursor. -/
def Comparison.Intact (comparison : Comparison) : Prop :=
  comparison.firstAvailableSlot ≤ saturatingAdd comparison.cursorSlot 1

instance {comparison : Comparison} : Decidable comparison.Intact :=
  inferInstanceAs (Decidable (_ ≤ _))

variable {Signature : Type} [LinearOrder Signature]

abbrev LoggedAction (Signature : Type) [LinearOrder Signature] (α : Type) :=
  Action (@Call.Response Signature) (PollingState Signature × List Comparison) (PollError Signature) α

/-- `verifyHistoryBoundary`, noting its comparison. -/
def logHistoryBoundary : LoggedAction Signature Bool := do
  let checkedAt ← Action.silently (ask .now)
  let state ← Action.silently Action.read
  if state.historyBoundaryCheckDue checkedAt historyBoundaryCheckInterval then
    match state.minimumScannedSlot with
    | none => return false
    | some minimumScannedSlot =>
        let firstAvailableSlot ← Action.silently readFirstAvailableBlock
        Action.silently (.modify fun state => state.recordHistoryBoundaryCheck checkedAt)
        Action.note { firstAvailableSlot, cursorSlot := minimumScannedSlot }
        if firstAvailableSlot > saturatingAdd minimumScannedSlot 1 then
          .fail (historyGap firstAvailableSlot minimumScannedSlot)
        else
          return true
  else
    return false

/-- `checkAddressHistory`, noting its comparison. -/
def logAddressHistory (survey : Survey Signature) (cursor : AddressCursor) :
    LoggedAction Signature (Survey Signature) := do
  let boundary ← Action.silently (historyBoundary survey)
  Action.note { firstAvailableSlot := boundary, cursorSlot := cursor.scannedSlot }
  if boundary > saturatingAdd cursor.scannedSlot 1 then
    .fail (historyGap boundary cursor.scannedSlot)
  else
    return { survey with firstAvailableSlot := some boundary, historyBoundaryVerified := true }

variable [SignatureText Signature]

/-- `surveyAddresses`, noting its comparisons. -/
def logSurvey (pages : Nat) (headSlot replayWindowSlots : Slot) :
    List Address → Survey Signature → LoggedAction Signature (Survey Signature)
  | [], survey => return survey
  | address :: addresses, survey => do
      let state ← Action.silently Action.read
      match state.cursors[address]? with
      | none => .fail (.missingCursor address)
      | some cursor =>
          let batch ← Action.silently
            (discoverSignatures pages address cursor headSlot replayWindowSlots)
          let survey ← if batch.reachedReplayFloor then pure survey else logAddressHistory survey cursor
          let contexts ← Action.silently
            (.ofExcept (addContexts address survey.contexts batch.signatures))
          logSurvey pages headSlot replayWindowSlots addresses
            { survey with batches := survey.batches ++ [batch], contexts }

/-- `poll`, noting its comparisons. -/
def logPoll (pages : Nat) (datasource : RpcPollingDatasource) (addresses : List Address) :
    LoggedAction Signature PollOutcome := do
  let replayWindowSlots := datasource.replayWindow.slots
  Action.silently (absorbDeliveredSignatures datasource)
  let headSlot ← Action.silently readSlot
  Action.silently (refuseCursorAheadOfHead headSlot replayWindowSlots)
  let initialized ← Action.silently (installCursors addresses headSlot replayWindowSlots)
  let verified ← logHistoryBoundary
  let survey ← logSurvey pages headSlot replayWindowSlots addresses
    { historyBoundaryVerified := verified }
  Action.silently (fetchAndAdvance headSlot replayWindowSlots initialized survey)

/-! ## Without the log -/

variable {pages : Nat} {datasource : RpcPollingDatasource} {addresses : List Address}
  {headSlot replayWindowSlots : Slot} {survey : Survey Signature} {cursor : AddressCursor}

omit [SignatureText Signature] in
theorem logHistoryBoundary_erases :
    Action.Erases (logHistoryBoundary : LoggedAction Signature Bool) verifyHistoryBoundary := by
  refine Action.erases_silently.bind fun checkedAt => ?_
  refine Action.erases_silently.bind fun state => ?_
  split
  · cases state.minimumScannedSlot with
    | none => exact Action.erases_pure
    | some minimumScannedSlot =>
        refine Action.erases_silently.bind fun firstAvailableSlot => ?_
        refine Action.erases_silently.bind fun _ => ?_
        apply Action.Erases.noting
        split
        · exact Action.erases_fail
        · exact Action.erases_pure
  · exact Action.erases_pure

omit [SignatureText Signature] in
theorem logAddressHistory_erases :
    Action.Erases (logAddressHistory survey cursor) (checkAddressHistory survey cursor) := by
  refine Action.erases_silently.bind fun boundary => ?_
  apply Action.Erases.noting
  split
  · exact Action.erases_fail
  · exact Action.erases_pure

theorem logSurvey_erases : Action.Erases (logSurvey pages headSlot replayWindowSlots addresses survey)
    (surveyAddresses pages headSlot replayWindowSlots addresses survey) := by
  induction addresses generalizing survey with
  | nil => exact Action.erases_pure
  | cons address addresses ih =>
      refine Action.erases_silently.bind fun state => ?_
      cases state.cursors[address]? with
      | none => exact Action.erases_fail
      | some cursor =>
          refine Action.erases_silently.bind fun batch => ?_
          cases batch.reachedReplayFloor with
          | true => exact Action.erases_silently.bind fun contexts => ih
          | false =>
              refine logAddressHistory_erases.bind fun survey => ?_
              exact Action.erases_silently.bind fun contexts => ih

theorem logPoll_erases :
    Action.Erases (logPoll pages datasource addresses) (poll pages datasource addresses :
      PollAction Signature PollOutcome) := by
  rw [poll_eq]
  refine Action.erases_silently.bind fun _ => ?_
  refine Action.erases_silently.bind fun headSlot => ?_
  refine Action.erases_silently.bind fun _ => ?_
  refine Action.erases_silently.bind fun initialized => ?_
  refine logHistoryBoundary_erases.bind fun verified => ?_
  exact logSurvey_erases.bind fun survey => Action.erases_silently

/-! ## Other failures -/

/-- The failures that say nothing about the head or the history. -/
def PollError.Ordinary : PollError Signature → Prop
  | .cursorAheadOfHead _ => False
  | .historyUnavailable _ => False
  | _ => True

section Ordinary

variable {state : PollingState Signature} {contexts : SignatureContexts Signature}
  {updates : List (FetchedUpdate Signature)} {initialized : Bool} {address : Address}
  {floor minimumContext : Slot} {before : Option Signature} {listing : Listing Signature}

omit [SignatureText Signature] in
theorem readFirstAvailableBlock_failsOnly : Action.FailsOnly PollError.Ordinary
    (readFirstAvailableBlock : PollAction Signature Slot) := by
  refine Action.failsOnly_request.bind fun response => ?_
  cases response with
  | error error => exact Action.failsOnly_fail trivial
  | ok boundary => exact Action.failsOnly_pure

omit [SignatureText Signature] in
theorem historyBoundary_failsOnly : Action.FailsOnly PollError.Ordinary (historyBoundary survey) := by
  unfold historyBoundary
  split
  · exact Action.failsOnly_pure
  · exact readFirstAvailableBlock_failsOnly

omit [SignatureText Signature] in
theorem readSlot_failsOnly : Action.FailsOnly PollError.Ordinary
    (readSlot : PollAction Signature Slot) := by
  refine Action.failsOnly_request.bind fun response => ?_
  cases response with
  | error error => exact Action.failsOnly_fail trivial
  | ok headSlot => exact Action.failsOnly_pure

omit [SignatureText Signature] in
theorem absorbDeliveredSignatures_failsOnly : Action.FailsOnly PollError.Ordinary
    (absorbDeliveredSignatures datasource : PollAction Signature Unit) := by
  unfold absorbDeliveredSignatures
  split
  · exact Action.failsOnly_request.bind fun _ => Action.failsOnly_modify
  · exact Action.failsOnly_pure

omit [SignatureText Signature] in
theorem installCursors_failsOnly : Action.FailsOnly PollError.Ordinary
    (installCursors addresses headSlot replayWindowSlots : PollAction Signature Bool) :=
  Action.failsOnly_read.bind fun _ => Action.failsOnly_modify.bind fun _ => Action.failsOnly_pure

omit [LinearOrder Signature] in
theorem appendSignaturePage_ordinary {page : List SignatureInfo} {failure : PollError Signature}
    (failed : appendSignaturePage floor page listing = .error failure) : failure.Ordinary := by
  induction page generalizing listing with
  | nil => cases failed
  | cons info page ih =>
      rw [appendSignaturePage] at failed
      split at failed
      · cases failed
      · split at failed
        · cases failed
          trivial
        · exact ih failed

theorem listSignatures_failsOnly : Action.FailsOnly PollError.Ordinary
    (listSignatures address floor minimumContext pages before listing) := by
  induction pages generalizing before listing with
  | zero => exact Action.failsOnly_fail trivial
  | succ pages ih =>
      refine Action.failsOnly_request.bind fun response => ?_
      cases response with
      | error error => exact Action.failsOnly_fail trivial
      | ok page =>
          change Action.FailsOnly _ (if page.isEmpty then _ else _)
          split
          · exact Action.failsOnly_pure
          refine (Action.failsOnly_ofExcept fun _ => appendSignaturePage_ordinary).bind ?_
          intro (appended, reached)
          change Action.FailsOnly _ (if reached then _ else _)
          split
          · exact Action.failsOnly_pure
          change Action.FailsOnly _ (if page.length < signaturePageLimit then _ else _)
          split
          · exact Action.failsOnly_pure
          split
          · exact Action.failsOnly_pure
          · exact ih

theorem discoverSignatures_failsOnly : Action.FailsOnly PollError.Ordinary
    (discoverSignatures pages address cursor headSlot replayWindowSlots :
      PollAction Signature (AddressBatch Signature)) :=
  listSignatures_failsOnly.bind fun _ => Action.failsOnly_pure

omit [SignatureText Signature] in
theorem addContexts_ordinary {signatures : List (DiscoveredSignature Signature)}
    {failure : PollError Signature} (failed : addContexts address contexts signatures = .error failure) :
    failure.Ordinary := by
  induction signatures generalizing contexts with
  | nil => cases failed
  | cons discovered rest ih =>
      unfold addContexts at failed
      rw [List.foldlM_cons] at failed
      cases added : addContext address contexts discovered with
      | ok middle =>
          have failedRest : addContexts address middle rest = .error failure := by
            simpa [addContexts, added, bind, Except.bind] using failed
          exact ih failedRest
      | error first =>
          have same : first = failure := by simpa [added, bind, Except.bind] using failed
          subst same
          unfold addContext at added
          split at added
          · split at added
            · cases added
              trivial
            · cases added
          · cases added

omit [SignatureText Signature] in
theorem queueUpdates_failsOnly : Action.FailsOnly PollError.Ordinary (queueUpdates updates) := by
  induction updates with
  | nil => exact Action.failsOnly_pure
  | cons fetched updates ih =>
      refine Action.failsOnly_request.bind fun response => ?_
      cases response with
      | error closed => exact Action.failsOnly_fail trivial
      | ok _ => exact Action.failsOnly_modify.bind fun _ => ih

theorem fetchAndAdvance_failsOnly : Action.FailsOnly PollError.Ordinary
    (fetchAndAdvance headSlot replayWindowSlots initialized survey) :=
  Action.FailsOnly.bind (Action.failsOnly_read.bind fun _ => Action.failsOnly_request.bind fun _ =>
    Action.failsOnly_modify.bind fun _ => Action.failsOnly_pure) fun _ =>
    queueUpdates_failsOnly.bind fun _ => Action.failsOnly_read.bind fun _ =>
      Action.failsOnly_modify.bind fun _ => Action.failsOnly_pure

end Ordinary

/-! ## What the log contains -/

def PollError.Gapless (failure : PollError Signature) : Prop :=
  ∀ gap, failure ≠ .historyUnavailable gap

omit [LinearOrder Signature] [SignatureText Signature] in
theorem PollError.Ordinary.gapless {failure : PollError Signature} (ordinary : failure.Ordinary) :
    failure.Gapless := by
  intro gap same
  subst same
  exact ordinary

/-- A run that stops with `failure` has made the comparisons `added`: a gap is
the last of them, and all others found the history intact. -/
inductive Stops : PollError Signature → List Comparison → Prop where
  | gap {intact : List Comparison} {last : Comparison}
      (before : ∀ comparison ∈ intact, comparison.Intact) (found : ¬last.Intact) :
      Stops (historyGap last.firstAvailableSlot last.cursorSlot) (intact ++ [last])
  | other {failure : PollError Signature} {added : List Comparison}
      (intact : ∀ comparison ∈ added, comparison.Intact) (gapless : failure.Gapless) :
      Stops failure added

section Logs

variable {α β : Type} {logged : LoggedAction Signature α} {action : PollAction Signature α}
  {post weaker : α → List Comparison → Prop}

/-- What the action adds to the log; `post` is about a run that succeeds. -/
def Logs (logged : LoggedAction Signature α) (post : α → List Comparison → Prop) : Prop :=
  ∀ state log trace result final, Action.Ends logged (state, log) trace result final →
    ∃ added, final.2 = log ++ added ∧
      match result with
      | .ok value => (∀ comparison ∈ added, comparison.Intact) ∧ post value added
      | .error failure => Stops failure added

omit [SignatureText Signature] in
theorem logs_silently (gapless : Action.FailsOnly PollError.Gapless action) :
    Logs (Action.silently action) fun _ added => added = [] := by
  intro state log trace result final ends
  obtain ⟨ran, unchanged⟩ := Action.ends_silently_iff.mp ends
  refine ⟨[], by simpa using unchanged, ?_⟩
  cases result with
  | ok value => exact ⟨by simp, rfl⟩
  | error failure => exact .other (by simp) (gapless _ _ _ _ ran)

omit [SignatureText Signature] in
theorem logs_pure {value : α} (holds : post value []) :
    Logs (pure value : LoggedAction Signature α) post := by
  intro state log trace result final ends
  obtain ⟨_, rfl, rfl⟩ := Action.ends_pure_iff.mp ends
  exact ⟨[], by simp, by simp, holds⟩

omit [SignatureText Signature] in
theorem logs_fail {failure : PollError Signature} (ordinary : failure.Ordinary) :
    Logs (Action.fail failure : LoggedAction Signature α) post := by
  intro state log trace result final ends
  obtain ⟨_, rfl, rfl⟩ := Action.ends_fail_iff.mp ends
  exact ⟨[], by simp, .other (by simp) ordinary.gapless⟩

omit [LinearOrder Signature] [SignatureText Signature] in
theorem Stops.after {failure : PollError Signature} {earlier added : List Comparison}
    (intact : ∀ comparison ∈ earlier, comparison.Intact) (stops : Stops failure added) :
    Stops failure (earlier ++ added) := by
  have extended : ∀ more : List Comparison, (∀ comparison ∈ more, comparison.Intact) →
      ∀ comparison ∈ earlier ++ more, comparison.Intact := by
    intro more intactMore comparison member
    rcases List.mem_append.mp member with member | member
    · exact intact comparison member
    · exact intactMore comparison member
  cases stops with
  | gap before found =>
      rw [← List.append_assoc]
      exact .gap (extended _ before) found
  | other others gapless => exact .other (extended _ others) gapless

omit [SignatureText Signature] in
theorem Logs.mono (logs : Logs logged post)
    (implies : ∀ value added, post value added → weaker value added) : Logs logged weaker := by
  intro state log trace result final ends
  obtain ⟨added, notedEq, ending⟩ := logs _ _ _ _ _ ends
  refine ⟨added, notedEq, ?_⟩
  cases result with
  | error failure => exact ending
  | ok value => exact ⟨ending.1, implies value added ending.2⟩

omit [SignatureText Signature] in
theorem Logs.bind {rest : α → LoggedAction Signature β} {final : β → List Comparison → Prop}
    (first : Logs logged post)
    (later : ∀ value earlier, post value earlier →
      Logs (rest value) fun result added => final result (earlier ++ added)) :
    Logs (logged >>= rest) final := by
  intro state log trace result last ends
  rcases Action.ends_bind_iff.mp ends with
    ⟨failure, rfl, failed⟩ | ⟨_, _, value, ⟨middle, noted⟩, _, ran, restEnds⟩
  · exact first _ _ _ _ _ failed
  · obtain ⟨earlier, notedEq, intact, holds⟩ := first _ _ _ _ _ ran
    obtain ⟨added, lastEq, ending⟩ := later value earlier holds _ _ _ _ _ restEnds
    subst notedEq
    refine ⟨earlier ++ added, by rw [lastEq, List.append_assoc], ?_⟩
    cases result with
    | error failure => exact Stops.after intact ending
    | ok value =>
        refine ⟨fun comparison member => ?_, ending.2⟩
        rcases List.mem_append.mp member with member | member
        · exact intact comparison member
        · exact ending.1 comparison member

omit [SignatureText Signature] in
theorem Logs.silent_bind {rest : α → LoggedAction Signature β} {final : β → List Comparison → Prop}
    (ordinary : Action.FailsOnly PollError.Ordinary action)
    (later : ∀ value, Logs (rest value) final) : Logs (Action.silently action >>= rest) final := by
  refine (logs_silently (ordinary.mono fun _ => PollError.Ordinary.gapless)).bind fun value earlier nothing => ?_
  subst nothing
  exact later value

omit [SignatureText Signature] in
/-- A comparison is noted, and then decides how the run goes on. -/
theorem logs_comparison (comparison : Comparison) {value : α} (holds : post value [comparison]) :
    Logs (Action.note comparison >>= fun _ =>
      if comparison.firstAvailableSlot > saturatingAdd comparison.cursorSlot 1 then
        .fail (historyGap comparison.firstAvailableSlot comparison.cursorSlot)
      else pure value : LoggedAction Signature α) post := by
  intro state log trace result final ends
  have ends := Action.ends_note_bind_iff.mp ends
  split at ends
  · rename_i beyond
    obtain ⟨_, rfl, rfl⟩ := Action.ends_fail_iff.mp ends
    have found : ¬comparison.Intact := Nat.not_le_of_gt beyond
    have stops : Stops (historyGap comparison.firstAvailableSlot comparison.cursorSlot : PollError Signature)
        ([] ++ [comparison]) := .gap (by simp) found
    exact ⟨[comparison], rfl, stops⟩
  · rename_i within
    obtain ⟨_, rfl, rfl⟩ := Action.ends_pure_iff.mp ends
    have intact : comparison.Intact := Nat.le_of_not_gt within
    exact ⟨[comparison], rfl, by simpa using intact, holds⟩

end Logs

omit [SignatureText Signature] in
theorem logHistoryBoundary_logs : Logs (logHistoryBoundary : LoggedAction Signature Bool)
    fun verified added => verified = !added.isEmpty := by
  refine Logs.silent_bind Action.failsOnly_request fun checkedAt => ?_
  refine Logs.silent_bind Action.failsOnly_read fun state => ?_
  split
  · cases state.minimumScannedSlot with
    | none => exact logs_pure rfl
    | some minimumScannedSlot =>
        refine Logs.silent_bind readFirstAvailableBlock_failsOnly fun firstAvailableSlot => ?_
        refine Logs.silent_bind Action.failsOnly_modify fun _ => ?_
        exact logs_comparison ⟨firstAvailableSlot, minimumScannedSlot⟩ rfl
  · exact logs_pure rfl

omit [SignatureText Signature] in
theorem logAddressHistory_logs : Logs (logAddressHistory survey cursor)
    fun checked added => checked.historyBoundaryVerified = true ∧ added ≠ [] := by
  refine Logs.silent_bind historyBoundary_failsOnly fun boundary => ?_
  exact logs_comparison ⟨boundary, cursor.scannedSlot⟩ ⟨rfl, by simp⟩

theorem logSurvey_logs : Logs (logSurvey pages headSlot replayWindowSlots addresses survey)
    fun final added =>
      final.historyBoundaryVerified = (survey.historyBoundaryVerified || !added.isEmpty) := by
  induction addresses generalizing survey with
  | nil => exact logs_pure (by simp)
  | cons address addresses ih =>
      refine Logs.silent_bind Action.failsOnly_read fun state => ?_
      cases state.cursors[address]? with
      | none => exact logs_fail trivial
      | some cursor =>
          refine Logs.silent_bind discoverSignatures_failsOnly fun batch => ?_
          have contextsOrdinary : ∀ checked : Survey Signature, Action.FailsOnly PollError.Ordinary
              (Action.ofExcept (addContexts address checked.contexts batch.signatures) :
                PollAction Signature _) :=
            fun checked => Action.failsOnly_ofExcept fun _ => addContexts_ordinary
          cases batch.reachedReplayFloor with
          | true => exact Logs.silent_bind (contextsOrdinary survey) fun contexts => ih
          | false =>
              refine logAddressHistory_logs.bind fun checked earlier verified => ?_
              refine Logs.silent_bind (contextsOrdinary checked) fun contexts => ?_
              refine ih.mono fun surveyed added verifiedLater => ?_
              have checkedVerified := verified.1
              cases earlier with
              | nil => exact absurd rfl verified.2
              | cons first others => simp [verifiedLater, checkedVerified]

omit [SignatureText Signature] in
theorem refuseCursorAheadOfHead_failsOnly : Action.FailsOnly PollError.Gapless
    (refuseCursorAheadOfHead headSlot replayWindowSlots : PollAction Signature Unit) := by
  refine Action.failsOnly_read.bind fun state => ?_
  cases cursorAheadOfHead state.cursors headSlot replayWindowSlots with
  | none => exact Action.failsOnly_pure
  | some ahead => exact Action.failsOnly_fail fun gap same => by cases same

/-- A poll that succeeds has verified the boundary when it compared it. -/
theorem logPoll_logs : Logs (logPoll pages datasource addresses : LoggedAction Signature PollOutcome)
    fun outcome added => outcome.historyBoundaryVerified = !added.isEmpty := by
  refine Logs.silent_bind absorbDeliveredSignatures_failsOnly fun _ => ?_
  refine Logs.silent_bind readSlot_failsOnly fun headSlot => ?_
  refine (logs_silently refuseCursorAheadOfHead_failsOnly).bind fun _ earlier nothing => ?_
  subst nothing
  refine Logs.silent_bind installCursors_failsOnly fun initialized => ?_
  refine logHistoryBoundary_logs.bind fun verified first firstVerified => ?_
  refine logSurvey_logs.bind fun survey later surveyVerified => ?_
  intro state log trace result final ends
  obtain ⟨ran, unchanged⟩ := Action.ends_silently_iff.mp ends
  refine ⟨[], by simpa using unchanged, ?_⟩
  cases result with
  | error failure => exact .other (by simp) (fetchAndAdvance_failsOnly _ _ _ _ ran).gapless
  | ok outcome =>
      refine ⟨by simp, ?_⟩
      have carried : outcome.historyBoundaryVerified = survey.historyBoundaryVerified := by
        obtain ⟨_, _, settled, _, _, _, rest⟩ := Action.ends_bind_ok_iff.mp ran
        obtain ⟨_, _, _, _, _, _, finish⟩ := Action.ends_bind_ok_iff.mp rest
        cases (Action.ends_pure_iff.mp finish).2.1
        rfl
      change outcome.historyBoundaryVerified = _
      rw [carried, surveyVerified, firstVerified]
      cases first <;> simp

end Microscope.Polling
