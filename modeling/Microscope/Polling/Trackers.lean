import Microscope.Data.Strikes
import Microscope.Polling.Comparisons
import Microscope.Polling.Turns
import Microscope.Polling.Scene

namespace Microscope.Polling

open Std Microscope.Data

/-! # The trackers that disable recovery

Two counters of the polling loop decide when recovery disables itself.  They
are updated from the end of a whole poll, while what they count are checks
inside of it.
-/

variable {Signature : Type} [LinearOrder Signature]

/-! ## The head check -/

def PollError.NotAhead (failure : PollError Signature) : Prop :=
  ∀ ahead, failure ≠ .cursorAheadOfHead ahead

omit [LinearOrder Signature] in
theorem PollError.Ordinary.notAhead {failure : PollError Signature} (ordinary : failure.Ordinary) :
    failure.NotAhead := by
  intro ahead same
  subst same
  exact ordinary

omit [LinearOrder Signature] in
theorem historyGap_notAhead {firstAvailableSlot checkpointSlot : Slot} :
    (historyGap firstAvailableSlot checkpointSlot : PollError Signature).NotAhead :=
  fun ahead same => by cases same

theorem verifyHistoryBoundary_failsOnly : Action.FailsOnly PollError.NotAhead
    (verifyHistoryBoundary : PollAction Signature Bool) := by
  refine Action.failsOnly_request.bind fun checkedAt => ?_
  refine Action.failsOnly_read.bind fun state => ?_
  split
  · cases state.minimumScannedSlot with
    | none => exact Action.failsOnly_pure
    | some minimumScannedSlot =>
        refine (readFirstAvailableBlock_failsOnly.mono fun _ => PollError.Ordinary.notAhead).bind
          fun firstAvailableSlot => ?_
        refine Action.failsOnly_modify.bind fun _ => ?_
        split
        · exact Action.failsOnly_fail historyGap_notAhead
        · exact Action.failsOnly_pure
  · exact Action.failsOnly_pure

theorem checkAddressHistory_failsOnly {survey : Survey Signature} {cursor : AddressCursor} :
    Action.FailsOnly PollError.NotAhead (checkAddressHistory survey cursor) := by
  refine (historyBoundary_failsOnly.mono fun _ => PollError.Ordinary.notAhead).bind fun boundary => ?_
  split
  · exact Action.failsOnly_fail historyGap_notAhead
  · exact Action.failsOnly_pure

variable [SignatureText Signature] {pages : Nat} {datasource : RpcPollingDatasource}
  {addresses : List Address} {before after : PollingState Signature}
  {trace : List (CallEvent Signature)} {result : Except (PollError Signature) PollOutcome}

theorem surveyAddresses_failsOnly {headSlot replayWindowSlots : Slot} {survey : Survey Signature} :
    Action.FailsOnly PollError.NotAhead
      (surveyAddresses pages headSlot replayWindowSlots addresses survey) := by
  induction addresses generalizing survey with
  | nil => exact Action.failsOnly_pure
  | cons address addresses ih =>
      refine Action.failsOnly_read.bind fun state => ?_
      cases state.cursors[address]? with
      | none => exact Action.failsOnly_fail fun ahead same => by cases same
      | some cursor =>
          refine (discoverSignatures_failsOnly.mono fun _ => PollError.Ordinary.notAhead).bind
            fun batch => ?_
          have contextsNotAhead : ∀ checked : Survey Signature, Action.FailsOnly PollError.NotAhead
              (Action.ofExcept (addContexts address checked.contexts batch.signatures) :
                PollAction Signature _) :=
            fun checked => Action.failsOnly_ofExcept fun _ failed =>
              (addContexts_ordinary failed).notAhead
          cases batch.reachedReplayFloor with
          | true => exact (contextsNotAhead survey).bind fun contexts => ih
          | false =>
              refine checkAddressHistory_failsOnly.bind fun checked => ?_
              exact (contextsNotAhead checked).bind fun contexts => ih

/-- What the head check of a poll found. -/
def headVerdict (replayWindowSlots : Slot) (before : PollingState Signature)
    (trace : List (CallEvent Signature)) : Verdict :=
  match headReading trace with
  | none => .neutral
  | some headSlot =>
      match cursorAheadOfHead before.cursors headSlot replayWindowSlots with
      | some _ => .strike
      | none => .cleared

/-- How the end of a poll fits its head check. -/
theorem poll_headVerdict
    (ends : Action.Ends (poll pages datasource addresses) before trace result after) :
    (headVerdict datasource.replayWindow.slots before trace = .strike ↔
        ∃ ahead, result = .error (.cursorAheadOfHead ahead)) ∧
      ∀ outcome, result = .ok outcome →
        headVerdict datasource.replayWindow.slots before trace = .cleared := by
  rw [poll_eq] at ends
  rcases Action.ends_bind_iff.mp ends with
    ⟨_, _, absorbing⟩ | ⟨absorbTrace, headTail, _, absorbed, rfl, absorbing, headEnds⟩
  · obtain ⟨_, _, impossible, _⟩ := absorbDeliveredSignatures_cases absorbing
    contradiction
  obtain ⟨_, absorbSaid, _, rfl⟩ := absorbDeliveredSignatures_cases absorbing
  rcases Action.ends_bind_iff.mp headEnds with
    ⟨failure, rfl, reading⟩ | ⟨headTrace, refuseTail, headSlot, _, rfl, reading, refuseEnds⟩
  · have ordinary := readSlot_failsOnly _ _ _ _ reading
    obtain ⟨_, ⟨_, _, said⟩ | ⟨_, impossible, _⟩⟩ := readSlot_cases reading
    · have unread : headReading (absorbTrace ++ headTail) = none := by
        rw [headReading_append, absorbSaid.headReading, said.headReading]
        rfl
      have verdict : headVerdict datasource.replayWindow.slots before (absorbTrace ++ headTail) =
          .neutral := by simp only [headVerdict, unread]
      rw [verdict]
      refine ⟨⟨fun impossible => (by cases impossible), fun ⟨ahead, same⟩ => ?_⟩,
        fun _ impossible => by cases impossible⟩
      cases same
      exact ordinary.elim
    · cases impossible
  obtain ⟨rfl, ⟨_, impossible, _⟩ | ⟨_, same, said⟩⟩ := readSlot_cases reading
  · cases impossible
  cases same
  have read : ∀ later : List (CallEvent Signature),
      headReading (absorbTrace ++ (headTrace ++ later)) = some headSlot := by
    intro later
    rw [headReading_append, headReading_append, absorbSaid.headReading, said.headReading]
    rfl
  have cursors : ∀ deliveries, (before.recordRecentSignatures deliveries).cursors = before.cursors :=
    fun deliveries => recordRecentSignatures_cursors
  rcases Action.ends_bind_iff.mp refuseEnds with
    ⟨failure, rfl, refused⟩ | ⟨refuseTrace, installTail, _, _, rfl, accepted, installEnds⟩
  · have refused := Action.ends_read_bind_iff.mp refused
    rw [cursors] at refused
    cases ahead : cursorAheadOfHead before.cursors headSlot datasource.replayWindow.slots with
    | none =>
        rw [ahead] at refused
        cases (Action.ends_pure_iff.mp refused).2.1
    | some found =>
        rw [ahead] at refused
        cases (Action.ends_fail_iff.mp refused).2.1
        have verdict : headVerdict datasource.replayWindow.slots before
            (absorbTrace ++ (headTrace ++ refuseTail)) = .strike := by
          simp only [headVerdict, read, ahead]
        rw [verdict]
        exact ⟨⟨fun _ => ⟨found, rfl⟩, fun _ => rfl⟩, fun _ impossible => by cases impossible⟩
  · have tolerated := (refuseCursorAheadOfHead_cases accepted).2.2 rfl
    rw [cursors] at tolerated
    have verdict : headVerdict datasource.replayWindow.slots before
        (absorbTrace ++ (headTrace ++ (refuseTrace ++ installTail))) = .cleared := by
      simp only [headVerdict, read, tolerated]
    rw [verdict]
    refine ⟨⟨fun impossible => (by cases impossible), fun ⟨ahead, same⟩ => ?_⟩, fun _ _ => rfl⟩
    subst same
    have notAhead : (PollError.cursorAheadOfHead ahead : PollError Signature).NotAhead :=
      Action.FailsOnly.bind (installCursors_failsOnly.mono fun _ => PollError.Ordinary.notAhead)
        (fun initialized => verifyHistoryBoundary_failsOnly.bind fun verified =>
          surveyAddresses_failsOnly.bind fun survey =>
            fetchAndAdvance_failsOnly.mono fun _ => PollError.Ordinary.notAhead)
        _ _ _ _ installEnds
    exact absurd rfl (notAhead ahead)

/-! ## Turns of the loop -/

/-- One poll of the loop, with what the trackers held before it. -/
structure Observation (Signature : Type) [LinearOrder Signature] where
  before : PollingState Signature
  cursorsAhead : HistoryGapTracker
  historyGaps : HistoryGapTracker
  trace : List (CallEvent Signature)
  comparisons : List Comparison
  result : Except (PollError Signature) PollOutcome
  after : PollingState Signature

variable {codec : JsonCodec} {loop next : PollingLoop Signature} {observed : List (Observation Signature)}
  {observation : Observation Signature} {disabled : Bool}

/-- A turn of the loop that polls: the part before the poll, the poll, and what
its end does to the loop. -/
structure Turn (codec : JsonCodec) (datasource : RpcPollingDatasource) (addresses : List Address)
    (loop : PollingLoop Signature) (observation : Observation Signature) (disabled : Bool)
    (next : PollingLoop Signature) : Prop where
  before : observation.before = loop.state
  cursorsAhead : observation.cursorsAhead = loop.cursorsAhead
  historyGaps : observation.historyGaps = loop.historyGaps
  polls : ∃ opening saved pages, Program.Run (beforePoll codec datasource loop) opening saved ∧
    Action.Ends (logPoll pages datasource addresses) (saved.state, []) observation.trace
      observation.result (observation.after, observation.comparisons) ∧
    recordPoll saved (observation.result, observation.after) = (disabled, next)

/-- What comes before a poll touches only the checkpoint and its snapshot. -/
theorem beforePoll_keeps {saved : PollingLoop Signature}
    (run : Program.Run (beforePoll codec datasource loop) trace saved) :
    ∃ checkpoint processedState, saved = { loop with checkpoint, processedState } := by
  obtain ⟨counted, rest, rfl, afterCount⟩ := Program.run_call_iff.mp run
  replace afterCount : Program.Run (refreshProcessedState loop >>= saveCheckpoint codec datasource)
    rest saved := afterCount
  obtain ⟨first, second, refreshed, rfl, refreshing, saving⟩ := Program.run_bind_iff.mp afterCount
  have refreshedEq : ∃ processedState, refreshed = { loop with processedState } := by
    rcases refreshProcessedState_cases refreshing with same | ⟨same, _⟩
    · exact ⟨loop.processedState, same⟩
    · exact ⟨_, same⟩
  obtain ⟨processedState, rfl⟩ := refreshedEq
  obtain ⟨_, _, ⟨written, checkpoint⟩, rfl, _, finishing⟩ := Program.run_bind_iff.mp saving
  dsimp only at finishing
  split at finishing
  · obtain ⟨_, _, _, finished⟩ := Program.run_call_iff.mp finishing
    exact ⟨checkpoint, processedState, (Program.run_done_iff.mp finished).2⟩
  · exact ⟨checkpoint, processedState, (Program.run_done_iff.mp finishing).2⟩

omit [LinearOrder Signature] [SignatureText Signature] in
theorem waitWithRecoveryDisabled_stops {stopped : Stopped}
    (run : Program.Run (waitWithRecoveryDisabled datasource) trace stopped) :
    stopped = .recoveryDisabled := by
  unfold waitWithRecoveryDisabled at run
  split at run
  · obtain ⟨_, _, _, afterStop⟩ := Program.run_call_iff.mp run
    obtain ⟨_, _, _, finished⟩ := Program.run_call_iff.mp afterStop
    exact (Program.run_done_iff.mp finished).2
  · obtain ⟨_, _, _, finished⟩ := Program.run_call_iff.mp run
    exact (Program.run_done_iff.mp finished).2

omit [SignatureText Signature] in
theorem concludePoll_cases {started : Instant} {control : Consumption Signature ⊕ Stopped}
    (run : Program.Run (concludePoll datasource started disabled next) trace control) :
    disabled = true ∧ control = .inr .recoveryDisabled ∨
      disabled = false ∧ (control = .inl (.polling next) ∨ control = .inr .cancelled) := by
  cases disabled with
  | true =>
      refine .inl ⟨rfl, ?_⟩
      obtain ⟨_, _, stopped, _, waiting, finished⟩ := Program.run_bind_iff.mp run
      rw [(Program.run_done_iff.mp finished).2, waitWithRecoveryDisabled_stops waiting]
  | false =>
      refine .inr ⟨rfl, ?_⟩
      obtain ⟨_, _, _, afterClock⟩ := Program.run_call_iff.mp run
      obtain ⟨cancelled, _, _, finished⟩ := Program.run_call_iff.mp afterClock
      cases cancelled with
      | true => exact .inr (Program.run_done_iff.mp finished).2
      | false => exact .inl (Program.run_done_iff.mp finished).2

/-- A whole turn of the polling task is cancelled, or it is a turn that polls
and goes on exactly when recovery is not disabled. -/
theorem pollingTurn_turn {control : Consumption Signature ⊕ Stopped}
    (run : Program.Run (pollingTurn codec datasource addresses pages loop) trace control) :
    control = .inr .cancelled ∨ ∃ observation disabled next,
      Turn codec datasource addresses loop observation disabled next ∧
      (disabled = true ∧ control = .inr .recoveryDisabled ∨
        disabled = false ∧ (control = .inl (.polling next) ∨ control = .inr .cancelled)) := by
  obtain ⟨cancelled, rest, rfl, afterCheck⟩ := Program.run_call_iff.mp run
  cases cancelled with
  | true => exact .inl (Program.run_done_iff.mp afterCheck).2
  | false =>
      obtain ⟨started, rest, rfl, afterClock⟩ := Program.run_call_iff.mp afterCheck
      replace afterClock : Program.Run (beforePoll codec datasource loop >>=
        pollAndConclude datasource addresses pages started) rest control := afterClock
      obtain ⟨opening, later, saved, rfl, preparing, afterSave⟩ := Program.run_bind_iff.mp afterClock
      obtain ⟨polled, last, ⟨result, after⟩, rfl, polling, concluding⟩ :=
        Program.run_bind_iff.mp afterSave
      obtain ⟨comparisons, logged⟩ := logPoll_erases.exists_ends polling []
      cases recorded : recordPoll saved (result, after) with
      | mk disabled next =>
          refine .inr ⟨⟨loop.state, loop.cursorsAhead, loop.historyGaps, polled, comparisons, result, after⟩,
            disabled, next, ⟨rfl, rfl, rfl, opening, saved, pages, preparing, logged, recorded⟩, ?_⟩
          rw [recorded] at concluding
          exact concludePoll_cases concluding

/-- The turns of a loop that has not disabled recovery. -/
inductive Turns (codec : JsonCodec) (datasource : RpcPollingDatasource) (addresses : List Address)
    (start : PollingLoop Signature) :
    List (Observation Signature) → PollingLoop Signature → Prop where
  | start : Turns codec datasource addresses start [] start
  | poll {observed : List (Observation Signature)} {loop next : PollingLoop Signature}
      {observation : Observation Signature}
      (earlier : Turns codec datasource addresses start observed loop)
      (turn : Turn codec datasource addresses loop observation false next) :
      Turns codec datasource addresses start (observed ++ [observation]) next

/-! ## What is counted -/

def headVerdicts (replayWindowSlots : Slot) (observed : List (Observation Signature)) : List Verdict :=
  observed.map fun observation => headVerdict replayWindowSlots observation.before observation.trace

def Comparison.verdict (comparison : Comparison) : Verdict :=
  if comparison.Intact then .cleared else .strike

def comparisonVerdicts (observed : List (Observation Signature)) : List Verdict :=
  observed.flatMap fun observation => observation.comparisons.map Comparison.verdict

/-- While a tracker counts, no check of this poll clears it unless the poll
succeeds. -/
structure Observation.Undisturbed (replayWindowSlots : Slot) (observation : Observation Signature) :
    Prop where
  head : 0 < observation.cursorsAhead.consecutive →
    headVerdict replayWindowSlots observation.before observation.trace = .cleared →
    ∃ outcome, observation.result = .ok outcome
  history : 0 < observation.historyGaps.consecutive →
    (∃ comparison ∈ observation.comparisons, comparison.Intact) →
    ∃ outcome, observation.result = .ok outcome

omit [SignatureText Signature] in
theorem Observation.undisturbed_of_strike {replayWindowSlots : Slot}
    (strike : headVerdict replayWindowSlots observation.before observation.trace = .strike)
    (uncompared : observation.comparisons = []) : observation.Undisturbed replayWindowSlots where
  head := by
    intro _ cleared
    rw [strike] at cleared
    cases cleared
  history := by
    intro _ ⟨comparison, member, _⟩
    rw [uncompared] at member
    cases member

/-- Both trackers count the strikes since their checks last cleared them. -/
structure Counts (replayWindowSlots : Slot) (observed : List (Observation Signature))
    (loop : PollingLoop Signature) : Prop where
  cursorsAhead : loop.cursorsAhead.consecutive = Verdict.strikes (headVerdicts replayWindowSlots observed)
  historyGaps : loop.historyGaps.consecutive = Verdict.strikes (comparisonVerdicts observed)

theorem strikes_intact {verdicts : List Verdict} {comparisons : List Comparison}
    (intact : ∀ comparison ∈ comparisons, comparison.Intact) :
    Verdict.strikes (verdicts ++ comparisons.map Comparison.verdict) =
      if comparisons.isEmpty then Verdict.strikes verdicts else 0 := by
  induction comparisons using List.reverseRecOn with
  | nil => simp
  | append_singleton comparisons last ih =>
      have lastIntact := intact last (by simp)
      rw [List.map_append, ← List.append_assoc, List.map_singleton, Verdict.strikes_append_singleton]
      simp [Comparison.verdict, lastIntact, Verdict.recount]

omit [LinearOrder Signature] [SignatureText Signature] in
theorem Stops.intact {failure : PollError Signature} {added : List Comparison}
    (stops : Stops failure added) (gapless : failure.Gapless) :
    ∀ comparison ∈ added, comparison.Intact := by
  cases stops with
  | gap before found => exact absurd rfl (gapless _)
  | other intact _ => exact intact

omit [LinearOrder Signature] [SignatureText Signature] in
theorem Stops.found {failure : PollError Signature} {added : List Comparison}
    (stops : Stops failure added) (gap : ¬failure.Gapless) : ∃ intact last,
    added = intact ++ [last] ∧ (∀ comparison ∈ intact, comparison.Intact) ∧ ¬last.Intact := by
  cases stops with
  | gap before found => exact ⟨_, _, rfl, before, found⟩
  | other _ gapless => exact absurd gapless gap

omit [SignatureText Signature] in
/-- A poll that fails without finding the cursor ahead leaves the first count. -/
theorem Observation.Undisturbed.recount_head {replayWindowSlots : Slot}
    (undisturbed : observation.Undisturbed replayWindowSlots)
    (fails : ∀ outcome, observation.result ≠ .ok outcome)
    (tolerated : headVerdict replayWindowSlots observation.before observation.trace ≠ .strike) :
    Verdict.recount observation.cursorsAhead.consecutive
      (headVerdict replayWindowSlots observation.before observation.trace) =
      observation.cursorsAhead.consecutive := by
  cases verdict : headVerdict replayWindowSlots observation.before observation.trace with
  | strike => exact absurd verdict tolerated
  | neutral => rfl
  | cleared =>
      have uncounted : ¬0 < observation.cursorsAhead.consecutive := by
        intro counting
        obtain ⟨outcome, succeeds⟩ := undisturbed.head counting verdict
        exact fails outcome succeeds
      rw [Verdict.recount]
      omega

omit [SignatureText Signature] in
/-- Comparisons of a failing poll that find the history intact leave the second
count. -/
theorem Observation.Undisturbed.recount_history {replayWindowSlots : Slot}
    {verdicts : List Verdict} {intact : List Comparison}
    (undisturbed : observation.Undisturbed replayWindowSlots)
    (fails : ∀ outcome, observation.result ≠ .ok outcome)
    (inside : ∀ comparison ∈ intact, comparison ∈ observation.comparisons ∧ comparison.Intact)
    (counts : observation.historyGaps.consecutive = Verdict.strikes verdicts) :
    Verdict.strikes (verdicts ++ intact.map Comparison.verdict) =
      observation.historyGaps.consecutive := by
  rw [strikes_intact fun comparison member => (inside comparison member).2]
  cases intact with
  | nil => exact counts.symm
  | cons first others =>
      have uncounted : ¬0 < observation.historyGaps.consecutive := by
        intro counting
        obtain ⟨outcome, succeeds⟩ := undisturbed.history counting ⟨first, inside first (by simp)⟩
        exact fails outcome succeeds
      rw [List.isEmpty_cons, if_neg Bool.false_ne_true]
      omega

/-- The trackers after a poll. -/
theorem Turn.counts {replayWindowSlots : Slot}
    (window : replayWindowSlots = datasource.replayWindow.slots)
    (turn : Turn codec datasource addresses loop observation disabled next)
    (undisturbed : observation.Undisturbed replayWindowSlots)
    (counts : Counts replayWindowSlots observed loop) :
    Counts replayWindowSlots (observed ++ [observation]) next ∧
      (disabled = true → (∃ ahead, observation.result = .error (.cursorAheadOfHead ahead)) →
        recoveryDisableAfterConsecutive ≤ next.cursorsAhead.consecutive) ∧
      (disabled = true → (∃ gap, observation.result = .error (.historyUnavailable gap)) →
        recoveryDisableAfterConsecutive ≤ next.historyGaps.consecutive) := by
  obtain ⟨beforeEq, aheadEq, gapsEq, opening, saved, pages, preparing, logged, recorded⟩ := turn
  obtain ⟨checkpoint, processedState, rfl⟩ := beforePoll_keeps preparing
  subst window
  obtain ⟨added, addedEq, ending⟩ := logPoll_logs _ _ _ _ _ logged
  rw [List.nil_append] at addedEq
  change observation.comparisons = added at addedEq
  rw [← addedEq] at ending
  obtain ⟨aheadIff, okCleared⟩ := poll_headVerdict (logPoll_erases.ends logged)
  rw [← beforeEq] at aheadIff okCleared
  have aheadCounts := counts.cursorsAhead
  have gapCounts := counts.historyGaps
  rw [← aheadEq] at aheadCounts
  rw [← gapsEq] at gapCounts
  have heads : Verdict.strikes
      (headVerdicts datasource.replayWindow.slots (observed ++ [observation])) =
      Verdict.recount observation.cursorsAhead.consecutive
        (headVerdict datasource.replayWindow.slots observation.before observation.trace) := by
    rw [headVerdicts, List.map_append, List.map_singleton, Verdict.strikes_append_singleton,
      aheadCounts, headVerdicts]
  have compared : comparisonVerdicts (observed ++ [observation]) =
      comparisonVerdicts observed ++ observation.comparisons.map Comparison.verdict := by
    simp [comparisonVerdicts]
  cases ended : observation.result with
  | ok outcome =>
      rw [ended] at recorded ending
      cases recorded
      have cleared := okCleared outcome ended
      refine ⟨⟨?_, ?_⟩, fun impossible => (by cases impossible), fun impossible => (by cases impossible)⟩
      · rw [heads, cleared]
        rfl
      · have verified : outcome.historyBoundaryVerified = !observation.comparisons.isEmpty := ending.2
        rw [compared, strikes_intact ending.1, verified, ← gapCounts, gapsEq]
        cases observation.comparisons.isEmpty <;> rfl
  | error failure =>
      rw [ended] at recorded ending
      have fails : ∀ outcome, observation.result ≠ .ok outcome := by
        intro outcome succeeds
        rw [ended] at succeeds
        cases succeeds
      have headSame : (∀ ahead, failure ≠ .cursorAheadOfHead ahead) →
          Verdict.strikes (headVerdicts datasource.replayWindow.slots (observed ++ [observation])) =
            observation.cursorsAhead.consecutive := by
        intro notAhead
        rw [heads]
        refine undisturbed.recount_head fails fun strike => ?_
        obtain ⟨ahead, same⟩ := aheadIff.mp strike
        rw [ended] at same
        cases same
        exact notAhead ahead rfl
      have historySame : failure.Gapless →
          Verdict.strikes (comparisonVerdicts (observed ++ [observation])) =
            observation.historyGaps.consecutive := by
        intro gapless
        rw [compared]
        exact undisturbed.recount_history fails
          (fun comparison member => ⟨member, ending.intact gapless comparison member⟩) gapCounts
      cases failure with
      | cursorAheadOfHead ahead =>
          cases recorded
          have strike := aheadIff.mpr ⟨ahead, ended⟩
          refine ⟨⟨?_, ?_⟩, fun enough _ => ?_, fun _ impossible => ?_⟩
          · rw [heads, strike, aheadEq]
            rfl
          · rw [historySame fun gap same => (by cases same), gapsEq]
          · simpa using enough
          · obtain ⟨gap, same⟩ := impossible
            cases same
      | historyUnavailable gap =>
          cases recorded
          refine ⟨⟨?_, ?_⟩, fun _ impossible => ?_, fun enough _ => ?_⟩
          · rw [headSame fun ahead same => (by cases same), aheadEq]
          · obtain ⟨intact, last, split, before, found⟩ := ending.found fun gapless => gapless gap rfl
            have earlier := undisturbed.recount_history fails
              (fun comparison member => ⟨split ▸ List.mem_append_left _ member, before comparison member⟩)
              gapCounts
            rw [compared, split, List.map_append, ← List.append_assoc, List.map_singleton,
              Verdict.strikes_append_singleton, earlier, gapsEq, Comparison.verdict, if_neg found,
              Verdict.recount]
          · obtain ⟨ahead, same⟩ := impossible
            cases same
          · simpa using enough
      | _ =>
          cases recorded
          refine ⟨⟨?_, ?_⟩, fun impossible => (by cases impossible), fun impossible => (by cases impossible)⟩
          · rw [headSame fun ahead same => (by cases same), aheadEq]
          · rw [historySame fun gap same => (by cases same), gapsEq]

/-! ## Runs of the loop -/

theorem Turns.counts {checkpoint : CheckpointStore} {state : PollingState Signature}
    (turns : Turns codec datasource addresses (beginPolling checkpoint state) observed loop)
    (undisturbed : ∀ observation ∈ observed, observation.Undisturbed datasource.replayWindow.slots) :
    Counts datasource.replayWindow.slots observed loop := by
  induction turns with
  | start => exact ⟨rfl, rfl⟩
  | poll earlier turn ih =>
      have counts := ih fun observation member => undisturbed observation (List.mem_append_left _ member)
      exact (turn.counts rfl (undisturbed _ (by simp)) counts).1

/-- Recovery disables itself for three bad observations in a row, as long as no
check clears a counting tracker in a poll that then fails. -/
theorem disabled_in_a_row {checkpoint : CheckpointStore} {state : PollingState Signature}
    (turns : Turns codec datasource addresses (beginPolling checkpoint state) observed loop)
    (turn : Turn codec datasource addresses loop observation true next)
    (undisturbed : ∀ poll ∈ observed ++ [observation], poll.Undisturbed datasource.replayWindow.slots) :
    (∀ ahead, observation.result = .error (.cursorAheadOfHead ahead) →
        Verdict.InARow recoveryDisableAfterConsecutive
          (headVerdicts datasource.replayWindow.slots (observed ++ [observation]))) ∧
      ∀ gap, observation.result = .error (.historyUnavailable gap) →
        Verdict.InARow recoveryDisableAfterConsecutive
          (comparisonVerdicts (observed ++ [observation])) := by
  have counts := turns.counts fun poll member => undisturbed poll (List.mem_append_left _ member)
  obtain ⟨counted, ahead, gaps⟩ := turn.counts rfl (undisturbed _ (by simp)) counts
  constructor
  · intro found failed
    apply Verdict.Exhausts.inARow
    rw [Verdict.exhausts_iff, ← counted.cursorsAhead]
    exact ahead rfl ⟨found, failed⟩
  · intro found failed
    apply Verdict.Exhausts.inARow
    rw [Verdict.exhausts_iff, ← counted.historyGaps]
    exact gaps rfl ⟨found, failed⟩

/-! ## A tracker that a failing poll does not reset -/

/-- A turn of the loop in a scene. -/
def Scene.turn (scene : Scene Signature) (codec : JsonCodec) (datasource : RpcPollingDatasource)
    (addresses : List Address) (pages : Nat) (loop : PollingLoop Signature) :
    Observation Signature × Bool × PollingLoop Signature :=
  let answer := fun (_ : Unit) (call : Call Signature) => (scene.answer call, ())
  let saved := (Program.runWith answer () (beforePoll codec datasource loop)).2.1
  let (trace, (result, after, comparisons), _) :=
    Program.runWith answer () (logPoll pages datasource addresses (saved.state, []))
  ({ before := loop.state, cursorsAhead := loop.cursorsAhead, historyGaps := loop.historyGaps
     trace, comparisons, result, after }, recordPoll saved (result, after))

theorem Scene.turn_turn (scene : Scene Signature) (loop : PollingLoop Signature) :
    Turn codec datasource addresses loop (scene.turn codec datasource addresses pages loop).1
      (scene.turn codec datasource addresses pages loop).2.1
      (scene.turn codec datasource addresses pages loop).2.2 where
  before := rfl
  cursorsAhead := rfl
  historyGaps := rfl
  polls := ⟨_, _, pages, Program.run_runWith _ _ _, Program.run_runWith _ _ _, rfl⟩

def aheadScene : Scene (Fin 58) where
  headSlot := 50
  firstAvailableBlock := 0
  entries := []
  contextOf := fun _ => 50
  outcome := fun _ => .ok (convertible 50 (by decide))
  delivered := []

/-- The head is back, but the history is not. -/
def prunedScene : Scene (Fin 58) :=
  { aheadScene with headSlot := 100, firstAvailableBlock := 200 }

def trackedCodec : JsonCodec := .sample JsonCodec.separates_nil

def trackedStore : CheckpointStore :=
  sampleDatasource.checkpointStore "rpc-polling.json" "genesis" ["program"]

def trackedStart : PollingLoop (Fin 58) :=
  beginPolling trackedStore { cursors := ExtTreeMap.ofList [("program", ({ scannedSlot := 100 } : AddressCursor))] }

def trackedTurn (scene : Scene (Fin 58)) (loop : PollingLoop (Fin 58)) :
    Observation (Fin 58) × Bool × PollingLoop (Fin 58) :=
  scene.turn trackedCodec sampleDatasource ["program"] 1 loop

/-- The loop after turns in one scene after another. -/
def trackedLoop : List (Scene (Fin 58)) → PollingLoop (Fin 58)
  | [] => trackedStart
  | scene :: earlier => (trackedTurn scene (trackedLoop earlier)).2.2

def trackedObservations : List (Scene (Fin 58)) → List (Observation (Fin 58))
  | [] => []
  | scene :: earlier => trackedObservations earlier ++ [(trackedTurn scene (trackedLoop earlier)).1]

def trackedUndisabled : List (Scene (Fin 58)) → Bool
  | [] => true
  | scene :: earlier => !(trackedTurn scene (trackedLoop earlier)).2.1 && trackedUndisabled earlier

theorem tracked_turn (scene : Scene (Fin 58)) (loop : PollingLoop (Fin 58)) :
    Turn trackedCodec sampleDatasource ["program"] loop (trackedTurn scene loop).1
      (trackedTurn scene loop).2.1 (trackedTurn scene loop).2.2 := by
  unfold trackedTurn
  exact scene.turn_turn _

theorem tracked_turns {scenes : List (Scene (Fin 58))} (undisabled : trackedUndisabled scenes = true) :
    Turns trackedCodec sampleDatasource ["program"] trackedStart (trackedObservations scenes)
      (trackedLoop scenes) := by
  induction scenes with
  | nil => exact .start
  | cons scene earlier ih =>
      rw [trackedUndisabled, Bool.and_eq_true, Bool.not_eq_true'] at undisabled
      have turn := tracked_turn scene (trackedLoop earlier)
      rw [undisabled.1] at turn
      rw [trackedObservations, trackedLoop]
      exact .poll (ih undisabled.2) turn

def Observation.foundAhead (observation : Observation (Fin 58)) : Bool :=
  match observation.result with
  | .error (.cursorAheadOfHead _) => true
  | _ => false

theorem Observation.exists_ahead (observation : Observation (Fin 58))
    (found : observation.foundAhead = true) :
    ∃ ahead, observation.result = .error (.cursorAheadOfHead ahead) := by
  unfold Observation.foundAhead at found
  split at found
  · exact ⟨_, by assumption⟩
  · cases found

/-- Three polls in one scene disable recovery. -/
theorem disabled_in_a_row_scene : Verdict.InARow recoveryDisableAfterConsecutive
    (headVerdicts 10 (trackedObservations [aheadScene, aheadScene, aheadScene])) := by
  have turns : Turns trackedCodec sampleDatasource ["program"] trackedStart
      (trackedObservations [aheadScene, aheadScene]) (trackedLoop [aheadScene, aheadScene]) :=
    tracked_turns (by decide +kernel)
  have turn := tracked_turn aheadScene (trackedLoop [aheadScene, aheadScene])
  have disables : (trackedTurn aheadScene (trackedLoop [aheadScene, aheadScene])).2.1 = true := by
    decide +kernel
  rw [disables] at turn
  obtain ⟨ahead, found⟩ := Observation.exists_ahead
    (trackedTurn aheadScene (trackedLoop [aheadScene, aheadScene])).1 (by decide +kernel)
  have strikes : ∀ poll ∈ trackedObservations [aheadScene, aheadScene, aheadScene],
      headVerdict 10 poll.before poll.trace = .strike ∧ poll.comparisons = [] := by decide +kernel
  refine (disabled_in_a_row turns turn fun poll member => ?_).1 ahead found
  exact Observation.undisturbed_of_strike (strikes poll member).1 (strikes poll member).2

/-- The head is back in the second poll. -/
theorem disabled_with_head_restored : ∃ observed observation loop next,
    Turns trackedCodec sampleDatasource ["program"] trackedStart observed loop ∧
      Turn trackedCodec sampleDatasource ["program"] loop observation true next ∧
      (∃ ahead, observation.result = .error (.cursorAheadOfHead ahead)) ∧
      ¬Verdict.InARow recoveryDisableAfterConsecutive (headVerdicts 10 (observed ++ [observation])) := by
  have turns : Turns trackedCodec sampleDatasource ["program"] trackedStart
      (trackedObservations [aheadScene, prunedScene, aheadScene])
      (trackedLoop [aheadScene, prunedScene, aheadScene]) := tracked_turns (by decide +kernel)
  have turn := tracked_turn aheadScene (trackedLoop [aheadScene, prunedScene, aheadScene])
  have disables : (trackedTurn aheadScene (trackedLoop [aheadScene, prunedScene, aheadScene])).2.1 =
      true := by decide +kernel
  rw [disables] at turn
  have found := Observation.exists_ahead
    (trackedTurn aheadScene (trackedLoop [aheadScene, prunedScene, aheadScene])).1 (by decide +kernel)
  have apart : ¬Verdict.InARow recoveryDisableAfterConsecutive (headVerdicts 10
      (trackedObservations [aheadScene, aheadScene, prunedScene, aheadScene])) := by decide +kernel
  exact ⟨_, _, _, _, turns, turn, found, apart⟩

end Microscope.Polling
