import Microscope.Data.Strikes
import Microscope.Polling.Agreement
import Microscope.Polling.Scene

namespace Microscope.Polling

open Std Microscope.Data

/-! # Quarantine

A transaction is quarantined after enough confirmed failures with no
conversion among them, or because the loaded checkpoint says so.  Each
signature is judged by its own outcomes only.
-/

variable {Signature : Type}

/-- What one outcome says about its transaction. -/
def verdictOf (signature : Signature) : FetchOutcome → Verdict
  | .ok transaction =>
      match transactionUpdate signature transaction with
      | some _ => .cleared
      | none => .strike
  | .error failure => if failure.permanent then .strike else .neutral

/-- The entry of a failing transaction after one more confirmed failure. -/
def PoisonFailure.confirm (failure : PoisonFailure) : PoisonFailure :=
  if failure.quarantined then failure
  else
    let attempts := min (failure.attempts + 1) u32Max
    { attempts, quarantined := attempts ≥ maxTransactionFailureAttempts }

def unfailed : PoisonFailure := { attempts := 0, quarantined := false }

def failureAfter (failure : Option PoisonFailure) : Verdict → Option PoisonFailure
  | .cleared => none
  | .strike => some (failure.getD unfailed).confirm
  | .neutral => failure

/-! ## One signature -/

/-- The entry that `strikes` confirmed failures lead to. -/
def failureOf (strikes : Nat) : PoisonFailure where
  attempts := min strikes maxTransactionFailureAttempts
  quarantined := maxTransactionFailureAttempts ≤ strikes

theorem failureOf_confirm {strikes : Nat} : (failureOf strikes).confirm = failureOf (strikes + 1) := by
  unfold PoisonFailure.confirm failureOf
  by_cases enough : maxTransactionFailureAttempts ≤ strikes
  · simp [enough, Nat.le_succ_of_le enough]
  · have few : strikes < 5 := Nat.lt_of_not_le enough
    have limit : maxTransactionFailureAttempts = 5 := rfl
    have unsaturated : min (min strikes maxTransactionFailureAttempts + 1) u32Max =
        min (strikes + 1) maxTransactionFailureAttempts := by
      have maximum : u32Max = 4294967295 := rfl
      omega
    have reached : (min (strikes + 1) maxTransactionFailureAttempts ≥ maxTransactionFailureAttempts) ↔
        maxTransactionFailureAttempts ≤ strikes + 1 := by omega
    simp only [enough, decide_false, Bool.false_eq_true, if_false, unsaturated, reached]

variable {start failure : Option PoisonFailure} {verdicts : List Verdict}

/-- Either the restored entry still stands, or the entry counts the strikes. -/
theorem failureAfter_cases (known : start = none ∨ start.any PoisonFailure.quarantined = true) :
    let failure := verdicts.foldl failureAfter start
    start.any PoisonFailure.quarantined = true ∧ .cleared ∉ verdicts ∧ failure = start ∨
      (start = none ∨ .cleared ∈ verdicts) ∧
        failure.getD unfailed = failureOf (Verdict.strikes verdicts) := by
  induction verdicts using List.reverseRecOn with
  | nil =>
      rcases known with absent | restored
      · exact .inr ⟨.inl absent, by simp [absent]; rfl⟩
      · exact .inl ⟨restored, by simp, rfl⟩
  | append_singleton verdicts verdict ih =>
      rw [List.foldl_append, List.foldl_cons, List.foldl_nil, Verdict.strikes_append_singleton]
      cases verdict with
      | cleared => exact .inr ⟨.inr (by simp), rfl⟩
      | neutral =>
          rcases ih with ⟨restored, unclear, same⟩ | ⟨fresh, counted⟩
          · exact .inl ⟨restored, by simp [unclear], same⟩
          · exact .inr ⟨fresh.imp_right (List.mem_append_left _), counted⟩
      | strike =>
          rcases ih with ⟨restored, unclear, same⟩ | ⟨fresh, counted⟩
          · obtain ⟨entry, present, quarantined⟩ := Option.any_eq_true _ _ |>.mp restored
            refine .inl ⟨restored, by simp [unclear], ?_⟩
            rw [failureAfter, same, present, Option.getD_some, PoisonFailure.confirm,
              if_pos quarantined]
          · refine .inr ⟨fresh.imp_right (List.mem_append_left _), ?_⟩
            rw [failureAfter, Option.getD_some, counted, failureOf_confirm]
            rfl

theorem failureAfter_quarantined (known : start = none ∨ start.any PoisonFailure.quarantined = true) :
    (verdicts.foldl failureAfter start).any PoisonFailure.quarantined = true ↔
      Verdict.Exhausts maxTransactionFailureAttempts verdicts ∨
        start.any PoisonFailure.quarantined = true ∧ .cleared ∉ verdicts := by
  rw [Verdict.exhausts_iff]
  rcases @failureAfter_cases _ verdicts known with
    ⟨restored, unclear, same⟩ | ⟨fresh, counted⟩
  · rw [same]
    exact ⟨fun _ => .inr ⟨restored, unclear⟩, fun _ => restored⟩
  · have excluded : ¬(start.any PoisonFailure.quarantined = true ∧ Verdict.cleared ∉ verdicts) := by
      intro ⟨restored, unclear⟩
      rcases fresh with absent | cleared
      · simp [absent] at restored
      · exact unclear cleared
    have read : (verdicts.foldl failureAfter start).any PoisonFailure.quarantined =
        ((verdicts.foldl failureAfter start).getD unfailed).quarantined := by
      cases verdicts.foldl failureAfter start <;> rfl
    rw [read, counted]
    simp [failureOf, excluded]

/-! ## All signatures -/

variable [LinearOrder Signature] {state other : PollingState Signature} {signature : Signature}
  {outcomes more : List (Signature × FetchOutcome)}

theorem mem_quarantined_iff : signature ∈ state.quarantinedSignatures ↔
    state.poisonFailures[signature]?.any PoisonFailure.quarantined = true := by
  rw [PollingState.mem_quarantinedSignatures, Option.any_eq_true]

variable [SignatureText Signature]

/-- The outcomes of `signature`, judged. -/
def verdictsOf (signature : Signature) (outcomes : List (Signature × FetchOutcome)) : List Verdict :=
  (partOf signature outcomes).map (verdictOf signature)

/-- The outcome loop's effect on the failing transactions. -/
def settleFailures (state : PollingState Signature) (outcomes : List (Signature × FetchOutcome)) :
    PollingState Signature :=
  outcomes.foldl (fun state entry => (processFetchedTransaction state entry.1 entry.2).2) state

theorem processFetchedTransaction_getElem? {outcome : FetchOutcome} {signature judged : Signature} :
    (processFetchedTransaction state judged outcome).2.poisonFailures[signature]? =
      if judged = signature then
        failureAfter state.poisonFailures[signature]? (verdictOf judged outcome)
      else state.poisonFailures[signature]? := by
  have confirmed : (state.recordPoisonFailure judged
      maxTransactionFailureAttempts).2.poisonFailures[signature]? =
      if judged = signature then failureAfter state.poisonFailures[signature]? .strike
      else state.poisonFailures[signature]? := by
    change (state.poisonFailures.insert judged
      (state.poisonFailures[judged]?.getD unfailed).confirm)[signature]? = _
    rw [OrderedMap.getElem?_insert]
    split
    · rename_i same
      rw [same]
      rfl
    · rfl
  cases outcome with
  | ok transaction =>
      cases converts : transactionUpdate judged transaction with
      | none =>
          simp only [processFetchedTransaction, converts, poisoned, verdictOf]
          exact confirmed
      | some update =>
          simp only [processFetchedTransaction, converts, verdictOf,
            PollingState.clearPoisonFailure, ExtTreeMap.getElem?_erase, Std.compare_eq_iff_eq]
          rfl
  | error failure =>
      obtain ⟨permanent, error⟩ := failure
      cases permanent with
      | true => exact confirmed
      | false =>
          change state.poisonFailures[signature]? = _
          split <;> rfl

/-- Only the failing transactions matter. -/
theorem processFetchedTransaction_congr {entry : Signature × FetchOutcome}
    (same : state.poisonFailures = other.poisonFailures) :
    (processFetchedTransaction state entry.1 entry.2).2.poisonFailures =
      (processFetchedTransaction other entry.1 entry.2).2.poisonFailures := by
  refine ExtTreeMap.ext_getElem? fun signature => ?_
  rw [processFetchedTransaction_getElem?, processFetchedTransaction_getElem?, same]

theorem settleFailures_congr (same : state.poisonFailures = other.poisonFailures) :
    (settleFailures state outcomes).poisonFailures =
      (settleFailures other outcomes).poisonFailures := by
  induction outcomes generalizing state other with
  | nil => exact same
  | cons entry rest ih => exact ih (processFetchedTransaction_congr same)

@[simp] theorem settleFailures_append :
    settleFailures state (outcomes ++ more) = settleFailures (settleFailures state outcomes) more := by
  simp [settleFailures]

/-- The entry of a signature follows its own outcomes. -/
theorem settleFailures_getElem? : (settleFailures state outcomes).poisonFailures[signature]? =
    (verdictsOf signature outcomes).foldl failureAfter state.poisonFailures[signature]? := by
  rw [verdictsOf, List.foldl_map]
  refine view_foldl (fun state entry => (processFetchedTransaction state entry.1 entry.2).2)
    (fun state signature => state.poisonFailures[signature]?)
    (fun signature failure outcome => failureAfter failure (verdictOf signature outcome))
    (fun state signature outcome => ?_) (fun state subject other outcome different => ?_)
    state signature outcomes
  · rw [processFetchedTransaction_getElem?, if_pos rfl]
  · rw [processFetchedTransaction_getElem?, if_neg different]

/-- When a signature is quarantined in a process that loaded `loaded` and has
seen `outcomes`. -/
def Quarantines (loaded : Set Signature) (outcomes : List (Signature × FetchOutcome))
    (signature : Signature) : Prop :=
  Verdict.Exhausts maxTransactionFailureAttempts (verdictsOf signature outcomes) ∨
    signature ∈ loaded ∧ Verdict.cleared ∉ verdictsOf signature outcomes

/-- A state as a process begins with: exactly the loaded signatures are
quarantined, and nothing else has failed. -/
def BeginsWith (loaded : Set Signature) (state : PollingState Signature) : Prop :=
  ∀ signature, state.poisonFailures[signature]? = none ∧ signature ∉ loaded ∨
    state.poisonFailures[signature]?.any PoisonFailure.quarantined = true ∧ signature ∈ loaded

theorem settleFailures_quarantined {loaded : Set Signature} (begins : BeginsWith loaded state) :
    signature ∈ (settleFailures state outcomes).quarantinedSignatures ↔
      Quarantines loaded outcomes signature := by
  rw [mem_quarantined_iff, settleFailures_getElem?, Quarantines]
  rcases begins signature with ⟨absent, unloaded⟩ | ⟨restored, isLoaded⟩
  · rw [failureAfter_quarantined (.inl absent)]
    simp [absent, unloaded]
  · rw [failureAfter_quarantined (.inr restored)]
    simp [restored, isLoaded]

/-! ## Reports -/

/-- Whether an outcome is reported as a new quarantine. -/
def reportsQuarantine (state : PollingState Signature) (entry : Signature × FetchOutcome) : Bool :=
  match (processFetchedTransaction state entry.1 entry.2).1 with
  | .poisoned _ disposition => disposition.quarantined && disposition.newlyQuarantined
  | _ => false

def quarantineReports : PollingState Signature → List (Signature × FetchOutcome) → List Bool
  | _, [] => []
  | state, entry :: rest => reportsQuarantine state entry ::
      quarantineReports (processFetchedTransaction state entry.1 entry.2).2 rest

/-- A report is made exactly when a quarantine begins. -/
theorem reportsQuarantine_iff {entry : Signature × FetchOutcome} :
    reportsQuarantine state entry = true ↔ entry.1 ∉ state.quarantinedSignatures ∧
      entry.1 ∈ (settleFailures state [entry]).quarantinedSignatures := by
  obtain ⟨signature, outcome⟩ := entry
  rw [mem_quarantined_iff, mem_quarantined_iff, settleFailures, List.foldl_cons, List.foldl_nil,
    processFetchedTransaction_getElem?, if_pos rfl]
  have confirmed : ((state.recordPoisonFailure signature maxTransactionFailureAttempts).1.quarantined &&
      (state.recordPoisonFailure signature maxTransactionFailureAttempts).1.newlyQuarantined) = true ↔
      ¬state.poisonFailures[signature]?.any PoisonFailure.quarantined = true ∧
        (failureAfter state.poisonFailures[signature]? .strike).any
          PoisonFailure.quarantined = true := by
    change (((state.poisonFailures[signature]?.getD unfailed).confirm).quarantined &&
      (!(state.poisonFailures[signature]?.getD unfailed).quarantined &&
        ((state.poisonFailures[signature]?.getD unfailed).confirm).quarantined)) = true ↔ _
    cases state.poisonFailures[signature]? with
    | none => simp [failureAfter, unfailed]
    | some failure => simp [failureAfter]
  cases outcome with
  | ok transaction =>
      cases converts : transactionUpdate signature transaction with
      | some update => simp [reportsQuarantine, processFetchedTransaction, converts, verdictOf,
          failureAfter]
      | none =>
          simp only [reportsQuarantine, processFetchedTransaction, converts, poisoned, verdictOf]
          exact confirmed
  | error failure =>
      obtain ⟨permanent, error⟩ := failure
      cases permanent with
      | true => exact confirmed
      | false => simp [reportsQuarantine, processFetchedTransaction, verdictOf, failureAfter]

theorem reportsQuarantine_congr {entry : Signature × FetchOutcome}
    (same : state.poisonFailures = other.poisonFailures) :
    reportsQuarantine state entry = reportsQuarantine other entry := by
  rw [Bool.eq_iff_iff, reportsQuarantine_iff, reportsQuarantine_iff, quarantinedSignatures_congr same,
    quarantinedSignatures_congr (settleFailures_congr same)]

theorem quarantineReports_congr (same : state.poisonFailures = other.poisonFailures) :
    quarantineReports state outcomes = quarantineReports other outcomes := by
  induction outcomes generalizing state other with
  | nil => rfl
  | cons entry rest ih =>
      rw [quarantineReports, quarantineReports, reportsQuarantine_congr same,
        ih (processFetchedTransaction_congr same)]

theorem quarantineReports_append : quarantineReports state (outcomes ++ more) =
    quarantineReports state outcomes ++ quarantineReports (settleFailures state outcomes) more := by
  induction outcomes generalizing state with
  | nil => rfl
  | cons entry rest ih =>
      rw [List.cons_append, quarantineReports, ih]
      rfl

theorem length_quarantineReports : (quarantineReports state outcomes).length = outcomes.length := by
  induction outcomes generalizing state with
  | nil => rfl
  | cons entry rest ih => rw [quarantineReports, List.length_cons, ih, List.length_cons]

/-- The report at one outcome of a process. -/
theorem quarantineReports_getElem? {entry : Signature × FetchOutcome}
    {later : List (Signature × FetchOutcome)} :
    (quarantineReports state (outcomes ++ entry :: later))[outcomes.length]? =
      some (reportsQuarantine (settleFailures state outcomes) entry) := by
  rw [quarantineReports_append, List.getElem?_append_right (by rw [length_quarantineReports]),
    length_quarantineReports, Nat.sub_self]
  rfl

/-! ## The outcome loop and the poll -/

section Poll

variable {contexts : SignatureContexts Signature} {settled : Settled Signature}
  {entry : Signature × FetchOutcome} {datasource : RpcPollingDatasource} {addresses : List Address}
  {pages : Nat} {before after : PollingState Signature} {trace : List (CallEvent Signature)}

theorem settleOutcome_failures : (settleOutcome contexts settled entry).state.poisonFailures =
    (processFetchedTransaction settled.state entry.1 entry.2).2.poisonFailures := by
  unfold settleOutcome
  cases processFetchedTransaction settled.state entry.1 entry.2 with
  | mk outcome state =>
      cases outcome with
      | ready slot update => rfl
      | transientFailure error => rfl
      | poisoned error disposition =>
          cases quarantined : disposition.quarantined with
          | false => simp [quarantined]
          | true => cases present : contexts[entry.1]? <;> simp [quarantined]

theorem foldl_settleOutcome_failures (same : settled.state.poisonFailures = state.poisonFailures) :
    (outcomes.foldl (settleOutcome contexts) settled).state.poisonFailures =
      (settleFailures state outcomes).poisonFailures := by
  induction outcomes generalizing settled state with
  | nil => exact same
  | cons entry rest ih =>
      exact ih (settleOutcome_failures.trans (processFetchedTransaction_congr same))

/-- The reports of the outcome loop, each made in the state of its turn. -/
def settleReports (contexts : SignatureContexts Signature) :
    Settled Signature → List (Signature × FetchOutcome) → List Bool
  | _, [] => []
  | settled, entry :: rest => reportsQuarantine settled.state entry ::
      settleReports contexts (settleOutcome contexts settled entry) rest

theorem settleReports_eq (same : settled.state.poisonFailures = state.poisonFailures) :
    settleReports contexts settled outcomes = quarantineReports state outcomes := by
  induction outcomes generalizing settled state with
  | nil => rfl
  | cons entry rest ih =>
      rw [settleReports, quarantineReports, reportsQuarantine_congr same,
        ih (settleOutcome_failures.trans (processFetchedTransaction_congr same))]

omit [SignatureText Signature] in
theorem preparePoll_failures {result : Except (PollError Signature) Preparation}
    (ends : Action.Ends (preparePoll datasource addresses) before trace result after) :
    after.poisonFailures = before.poisonFailures := by
  rcases Action.ends_bind_iff.mp ends with
    ⟨_, _, absorbing⟩ | ⟨_, headTail, _, absorbed, _, absorbing, headEnds⟩
  · obtain ⟨_, _, _, rfl⟩ := absorbDeliveredSignatures_cases absorbing
    simp
  obtain ⟨_, _, _, rfl⟩ := absorbDeliveredSignatures_cases absorbing
  rcases Action.ends_bind_iff.mp headEnds with
    ⟨_, _, reading⟩ | ⟨_, refuseTail, headSlot, _, _, reading, refuseEnds⟩
  · rw [(readSlot_cases reading).1]
    simp
  rw [(readSlot_cases reading).1] at refuseEnds
  rcases Action.ends_bind_iff.mp refuseEnds with
    ⟨_, _, refusing⟩ | ⟨_, installTail, _, _, _, refusing, installEnds⟩
  · rw [(refuseCursorAheadOfHead_cases refusing).2.1]
    simp
  rw [(refuseCursorAheadOfHead_cases refusing).2.1] at installEnds
  rcases Action.ends_bind_iff.mp installEnds with
    ⟨_, _, installing⟩ | ⟨_, verifyTail, initialized, installed, _, installing, verifyEnds⟩
  · rw [(installCursors_cases installing).2.2.poisonFailures]
    simp
  have installedFailures : installed.poisonFailures = before.poisonFailures := by
    rw [(installCursors_cases installing).2.2.poisonFailures]
    simp
  rcases Action.ends_bind_iff.mp verifyEnds with
    ⟨_, _, verifying⟩ | ⟨_, _, verified, prepared, _, verifying, finished⟩
  · exact (verifyHistoryBoundary_cases verifying).2.2.2.trans installedFailures
  · rw [(Action.ends_pure_iff.mp finished).2.2]
    exact (verifyHistoryBoundary_cases verifying).2.2.2.trans installedFailures

/-- However a poll ends, its failing transactions follow what it fetched. -/
theorem poll_failures {result : Except (PollError Signature) PollOutcome}
    (ends : Action.Ends (poll pages datasource addresses) before trace result after) :
    after.poisonFailures = (settleFailures before (fetchOutcomes trace)).poisonFailures := by
  rw [poll_parts] at ends
  rcases Action.ends_bind_iff.mp ends with
    ⟨_, _, preparing⟩ | ⟨earlier, surveyTail, preparation, prepared, rfl, preparing, surveyEnds⟩
  · rw [preparing_outcomes (preparePoll_preparing.ends preparing (by simp [Program.Allowed]))]
    exact preparePoll_failures preparing
  have failures := preparePoll_failures preparing
  have noEarlier : fetchOutcomes earlier = [] :=
    preparing_outcomes (preparePoll_preparing.ends preparing (by simp [Program.Allowed]))
  rcases Action.ends_bind_iff.mp surveyEnds with
    ⟨_, _, surveying⟩ | ⟨listed, later, survey, surveyed, rfl, surveying, advancing⟩
  · have noListed := (quiet_trace (surveyAddresses_quiet.ends surveying (by simp [Program.Allowed]))).2.2.1
    rw [(surveyAddresses_cases surveying).1, fetchOutcomes_append, noEarlier, noListed]
    exact failures
  have noListed := (quiet_trace (surveyAddresses_quiet.ends surveying (by simp [Program.Allowed]))).2.2.1
  have unchanged := (surveyAddresses_cases surveying).1
  rw [unchanged] at advancing
  obtain ⟨fetched, settled, sent, unsent, reached, settling, _, said, _, reachedEq, ending⟩ :=
    fetchAndAdvance_cases advancing
  have settledFailures : settled.state.poisonFailures =
      (settleFailures before fetched).poisonFailures := by
    rw [settling]
    exact foldl_settleOutcome_failures failures
  have afterFailures : after.poisonFailures = settled.state.poisonFailures := by
    rcases ending with ⟨_, rfl⟩ | ⟨_, _, rfl⟩
    · rw [reachedEq, recordRecentSignatures_poisonFailures]
    · rw [advanceAndRetain, PollingState.retainSignaturesAfter_poisonFailures,
        advanceReadyCursors_poisonFailures, reachedEq, recordRecentSignatures_poisonFailures]
  rw [fetchOutcomes_append, fetchOutcomes_append, noEarlier, noListed, said.fetchOutcomes,
    List.nil_append, List.nil_append, afterFailures, settledFailures]

/-- What a poll adds to the recent signatures was absorbed, queued or
quarantined. -/
theorem poll_enters {result : Except (PollError Signature) PollOutcome}
    (ends : Action.Ends (poll pages datasource addresses) before trace result after)
    (answered : Program.Allowed Call.Answered trace) :
    ∀ signature, signature ∈ after.recentSignatures → signature ∈ before.recentSignatures ∨
      ((∃ slot, (signature, slot) ∈ delivered trace) ∨ signature ∈ queued trace) ∨
      signature ∈ after.quarantinedSignatures := by
  intro signature present
  obtain ⟨reached, recorded, effect, ending⟩ := poll_cases ends answered
  have reachedPresent : signature ∈ reached.recentSignatures ∧
      reached.quarantinedSignatures = after.quarantinedSignatures := by
    rcases ending with ⟨_, rfl⟩ | ⟨_, record, _, completed⟩
    · exact ⟨present, rfl⟩
    · obtain ⟨slot, found⟩ := OrderedMap.mem_iff_getElem?.mp present
      rw [completed.recentSignatures_getElem?] at found
      exact ⟨OrderedMap.mem_iff_getElem?.mpr ⟨slot, (Option.filter_eq_some_iff.mp found).1⟩,
        completed.quarantinedSignatures_eq.symm⟩
  obtain ⟨inReached, sameQuarantine⟩ := reachedPresent
  rw [effect.recentSignatures, OrderedMap.mem_insertAll] at inReached
  rcases inReached with earlier | ⟨slot, entered⟩
  · exact .inl earlier
  · rw [← sameQuarantine]
    cases effect.justified signature slot entered with
    | absorbed member => exact .inr (.inl (.inl ⟨_, member⟩))
    | queued member _ => exact .inr (.inl (.inr member))
    | quarantined _ _ quarantined _ => exact .inr (.inr quarantined)

theorem poll_keeps_bounded {result : Except (PollError Signature) PollOutcome}
    (ends : Action.Ends (poll pages datasource addresses) before trace result after)
    (answered : Program.Allowed Call.Answered trace) (bounded : before.Bounded) : after.Bounded := by
  obtain ⟨reached, recorded, effect, ending⟩ := poll_cases ends answered
  rcases ending with ⟨_, rfl⟩ | ⟨_, record, _, completed⟩
  · exact effect.bounded bounded answered
  · exact completed.bounded (effect.bounded bounded answered) answered

end Poll

/-! ## Runs -/

/-- The current process, and the checkpoints saved so far. -/
structure QuarantineRun (Signature : Type) [LinearOrder Signature] where
  state : PollingState Signature := {}
  /-- What the checkpoint this process loaded lists as quarantined. -/
  loaded : Set Signature := ∅
  /-- Every outcome fetched since the process started. -/
  outcomes : List (Signature × FetchOutcome) := []
  /-- Which of the outcomes were reported as new quarantines. -/
  reports : List Bool := []
  /-- What the last step absorbed, queued or restored. -/
  handedOver : Set Signature := ∅
  /-- Every saved checkpoint, with what was quarantined when it was taken. -/
  saved : Set (Bytes × Set Signature) := ∅

/-- A poll ends in any way; the state is saved; or a new process starts, from a
saved checkpoint or without one. -/
inductive QuarantineStep (codec : JsonCodec) (store : CheckpointStore)
    (datasource : RpcPollingDatasource) (addresses : List Address) :
    QuarantineRun Signature → QuarantineRun Signature → Prop where
  | poll {run : QuarantineRun Signature} {pages : Nat} {trace : List (CallEvent Signature)}
      {result : Except (PollError Signature) PollOutcome} {after : PollingState Signature}
      (ends : Action.Ends (poll pages datasource addresses) run.state trace result after)
      (answered : Program.Allowed Call.Answered trace) :
      QuarantineStep codec store datasource addresses run {
        run with
        state := after
        outcomes := run.outcomes ++ fetchOutcomes trace
        reports := run.reports ++ quarantineReports run.state (fetchOutcomes trace)
        handedOver := { signature |
          (∃ slot, (signature, slot) ∈ delivered trace) ∨ signature ∈ queued trace } }
  | save {run : QuarantineRun Signature}
      (complete : run.state.cursors.keys = store.identity.addresses) :
      QuarantineStep codec store datasource addresses run {
        run with
        handedOver := ∅
        saved := insert (store.encode codec run.state.snapshot,
          { signature | signature ∈ run.state.quarantinedSignatures }) run.saved }
  | restart {run : QuarantineRun Signature} {raw : Bytes} {quarantined : Set Signature}
      {snapshot : CheckpointSnapshot Signature} {shipped : List (Signature × Slot)}
      (saved : (raw, quarantined) ∈ run.saved)
      (reading : store.interpret codec raw = .ok (.loaded snapshot))
      (typed : ∀ entry ∈ shipped, entry.2 ≤ u64Max) :
      QuarantineStep codec store datasource addresses run {
        state := snapshot.resume.recordRecentSignatures shipped
        loaded := quarantined
        outcomes := []
        reports := []
        handedOver := { signature |
          signature ∈ snapshot.recentSignatures ∨ ∃ slot, (signature, slot) ∈ shipped }
        saved := run.saved }
  | startAfresh {run : QuarantineRun Signature} :
      QuarantineStep codec store datasource addresses run { saved := run.saved }

/-- What a run keeps: the failing transactions and the reports are those that
the outcomes of the process lead to from its start. -/
structure QuarantineRun.Sound (codec : JsonCodec) (store : CheckpointStore)
    (run : QuarantineRun Signature) : Prop where
  bounded : run.state.Bounded
  follows : ∃ started : PollingState Signature, BeginsWith run.loaded started ∧
    run.state.poisonFailures = (settleFailures started run.outcomes).poisonFailures ∧
    run.reports = quarantineReports started run.outcomes
  saved : ∀ raw quarantined, (raw, quarantined) ∈ run.saved →
    ∃ snapshot : CheckpointSnapshot Signature, raw = store.encode codec snapshot ∧
      snapshot.Bounded ∧ snapshot.cursors.keys = store.identity.addresses ∧
      ∀ signature, signature ∈ snapshot.quarantinedSignatures ↔ signature ∈ quarantined

variable {codec : JsonCodec} {store : CheckpointStore} {datasource : RpcPollingDatasource}
  {addresses : List Address} {run next : QuarantineRun Signature}

theorem quarantineRun_start {saved : Set (Bytes × Set Signature)}
    (sound : ∀ raw quarantined, (raw, quarantined) ∈ saved →
      ∃ snapshot : CheckpointSnapshot Signature, raw = store.encode codec snapshot ∧
        snapshot.Bounded ∧ snapshot.cursors.keys = store.identity.addresses ∧
        ∀ signature, signature ∈ snapshot.quarantinedSignatures ↔ signature ∈ quarantined) :
    ({ saved } : QuarantineRun Signature).Sound codec store where
  bounded := ⟨by simp, by simp⟩
  follows := ⟨{}, fun _ => .inl ⟨by simp, id⟩, rfl, rfl⟩
  saved := sound

omit [SignatureText Signature] in
/-- A restored state begins with what its checkpoint lists. -/
theorem resume_beginsWith {snapshot : CheckpointSnapshot Signature} {loaded : Set Signature}
    (same : ∀ signature, signature ∈ snapshot.quarantinedSignatures ↔ signature ∈ loaded) :
    BeginsWith loaded snapshot.resume := by
  intro signature
  have entry : snapshot.resume.poisonFailures[signature]? =
      if signature ∈ snapshot.quarantinedSignatures.toList then
        some { attempts := u32Max, quarantined := true } else none := by
    rw [CheckpointSnapshot.resume, PollingState.restoreQuarantined,
      OrderedMap.getElem?_insertAll_const]
    split <;> simp
  rw [entry, ← same]
  by_cases listed : signature ∈ snapshot.quarantinedSignatures
  · simp [listed, ExtTreeSet.mem_toList]
  · simp [listed, ExtTreeSet.mem_toList]

theorem QuarantineStep.sound (step : QuarantineStep codec store datasource addresses run next)
    (sound : run.Sound codec store) : next.Sound codec store := by
  cases step with
  | @poll pages trace result after ends answered =>
      obtain ⟨started, begins, failures, reports⟩ := sound.follows
      have after_failures : after.poisonFailures =
          (settleFailures started (run.outcomes ++ fetchOutcomes trace)).poisonFailures := by
        rw [poll_failures ends, settleFailures_append]
        exact settleFailures_congr failures
      have after_reports : run.reports ++ quarantineReports run.state (fetchOutcomes trace) =
          quarantineReports started (run.outcomes ++ fetchOutcomes trace) := by
        rw [quarantineReports_append, reports, quarantineReports_congr failures]
      exact ⟨poll_keeps_bounded ends answered sound.bounded, ⟨started, begins, after_failures, after_reports⟩,
        sound.saved⟩
  | save complete =>
      refine ⟨sound.bounded, sound.follows, fun raw quarantined member => ?_⟩
      rcases Set.mem_insert_iff.mp member with same | member
      · cases same
        exact ⟨run.state.snapshot, rfl, ⟨sound.bounded.cursors, sound.bounded.recentSignatures⟩,
          complete, fun _ => Iff.rfl⟩
      · exact sound.saved raw quarantined member
  | @restart raw quarantined snapshot shipped saved reading typed =>
      obtain ⟨taken, rfl, bounded, keys, same⟩ := sound.saved raw quarantined saved
      rw [CheckpointStore.interpret_encode bounded rfl keys] at reading
      cases reading
      refine ⟨⟨?_, ?_⟩, ⟨(taken.rewind store.replayWindowSlots).resume, resume_beginsWith same, ?_, rfl⟩,
        sound.saved⟩
      · intro address cursor found
        simp only [recordRecentSignatures_cursors, resume_cursors, rewind_getElem?,
          Option.map_eq_some_iff] at found
        obtain ⟨earlier, present, rfl⟩ := found
        exact (Nat.sub_le _ _).trans (bounded.cursors address earlier present)
      · intro signature slot found
        rw [recordRecentSignatures_recentSignatures] at found
        rcases OrderedMap.getElem?_insertAll found with member | found
        · exact typed _ member
        · exact bounded.recentSignatures signature slot found
      · exact recordRecentSignatures_poisonFailures
  | startAfresh => exact quarantineRun_start sound.saved

/-- What a step records is handed over or quarantined. -/
theorem QuarantineStep.enters (step : QuarantineStep codec store datasource addresses run next)
    {signature : Signature} (present : signature ∈ next.state.recentSignatures) :
    signature ∈ run.state.recentSignatures ∨ signature ∈ next.handedOver ∨
      signature ∈ next.state.quarantinedSignatures := by
  cases step with
  | poll ends answered => exact poll_enters ends answered signature present
  | save => exact .inl present
  | restart =>
      rw [recordRecentSignatures_recentSignatures, OrderedMap.mem_insertAll] at present
      exact .inr (.inl present)
  | startAfresh => simp at present

/-- In every run, quarantine is what the outcomes of the process and its
checkpoint make it, and is reported when it begins. -/
theorem quarantine_exact
    (reached : Relation.ReflTransGen (QuarantineStep codec store datasource addresses) {} run) :
    (∀ signature, signature ∈ run.state.quarantinedSignatures ↔
      Quarantines run.loaded run.outcomes signature) ∧
    run.reports.length = run.outcomes.length ∧
    (∀ earlier entry later, run.outcomes = earlier ++ entry :: later →
      (run.reports[earlier.length]? = some true ↔ ¬Quarantines run.loaded earlier entry.1 ∧
        Quarantines run.loaded (earlier ++ [entry]) entry.1)) ∧
    ∀ next, QuarantineStep codec store datasource addresses run next → ∀ signature,
      signature ∈ next.state.recentSignatures → signature ∈ run.state.recentSignatures ∨
        signature ∈ next.handedOver ∨ signature ∈ next.state.quarantinedSignatures := by
  have sound : run.Sound codec store := by
    induction reached with
    | refl => exact quarantineRun_start (by simp)
    | tail _ step ih => exact step.sound ih
  obtain ⟨started, begins, failures, reports⟩ := sound.follows
  refine ⟨fun signature => ?_, ?_, fun earlier entry later split => ?_,
    fun next step signature present => step.enters present⟩
  · rw [quarantinedSignatures_congr failures, settleFailures_quarantined begins]
  · rw [reports, length_quarantineReports]
  · rw [reports, split, quarantineReports_getElem?, Option.some.injEq, reportsQuarantine_iff,
      ← settleFailures_append, settleFailures_quarantined begins, settleFailures_quarantined begins]

/-! Five polls find the same transaction unusable; the process then restarts. -/

def quarantineScene : Scene (Fin 58) where
  headSlot := 100
  firstAvailableBlock := 0
  entries := [({ signature := 1, slot := 93 }, ["program"])]
  contextOf := fun _ => 95
  outcome := fun _ => .error { permanent := true, error := "invalid transaction" }
  delivered := []

def quarantineStore : CheckpointStore :=
  sampleDatasource.checkpointStore "rpc-polling.json" "genesis" ["program"]

def quarantinePoll (run : QuarantineRun (Fin 58)) : QuarantineRun (Fin 58) :=
  let trace := quarantineScene.trace 1 sampleDatasource ["program"] run.state
  { run with
    state := quarantineScene.after 1 sampleDatasource ["program"] run.state
    outcomes := run.outcomes ++ fetchOutcomes trace
    reports := run.reports ++ quarantineReports run.state (fetchOutcomes trace)
    handedOver := { signature |
      (∃ slot, (signature, slot) ∈ delivered trace) ∨ signature ∈ queued trace } }

theorem quarantinePoll_step {run : QuarantineRun (Fin 58)} :
    QuarantineStep codec quarantineStore sampleDatasource ["program"] run (quarantinePoll run) := by
  have typed : quarantineScene.Typed := ⟨by decide, by decide, by decide⟩
  exact .poll quarantineScene.ends (Scene.answered typed)

def quarantinePolled : QuarantineRun (Fin 58) :=
  quarantinePoll (quarantinePoll (quarantinePoll (quarantinePoll (quarantinePoll {}))))

example : quarantinePolled.reports = [false, false, false, false, true] ∧
    quarantinePolled.state.recentSignatures.toList = [(1, 93)] := by decide +kernel

theorem quarantineSeparates :
    JsonCodec.Separates [quarantineStore.document quarantinePolled.state.snapshot] where
  distinct := by simp
  visible := by decide +kernel

def quarantineRestarted : QuarantineRun (Fin 58) where
  state := (quarantinePolled.state.snapshot.rewind 10).resume.recordRecentSignatures []
  loaded := { signature | signature ∈ quarantinePolled.state.quarantinedSignatures }
  handedOver := { signature | signature ∈ quarantinePolled.state.recentSignatures ∨
    ∃ slot, (signature, slot) ∈ ([] : List (Fin 58 × Slot)) }
  saved := insert (quarantineStore.encode (.sample quarantineSeparates) quarantinePolled.state.snapshot,
    { signature | signature ∈ quarantinePolled.state.quarantinedSignatures }) ∅

theorem quarantineRestarted_reached : Relation.ReflTransGen (QuarantineStep
    (.sample quarantineSeparates) quarantineStore sampleDatasource ["program"]) {} quarantineRestarted := by
  have bounded : quarantinePolled.state.snapshot.Bounded :=
    CheckpointSnapshot.bounded_of_all (by decide +kernel) (by decide +kernel)
  have complete : quarantinePolled.state.snapshot.cursors.keys = quarantineStore.identity.addresses := by
    decide +kernel
  have polled : Relation.ReflTransGen (QuarantineStep (.sample quarantineSeparates) quarantineStore
      sampleDatasource ["program"]) {} quarantinePolled :=
    .tail (.tail (.tail (.tail (.tail .refl quarantinePoll_step) quarantinePoll_step)
      quarantinePoll_step) quarantinePoll_step) quarantinePoll_step
  exact .tail (.tail polled (.save complete)) (.restart (Set.mem_insert _ _)
    (CheckpointStore.interpret_encode bounded rfl complete) (by simp))

theorem quarantine_exact_restarted :
    (1 ∈ quarantineRestarted.state.quarantinedSignatures ↔
      Quarantines quarantineRestarted.loaded quarantineRestarted.outcomes 1) ∧
    quarantineRestarted.reports.length = quarantineRestarted.outcomes.length :=
  ⟨(quarantine_exact quarantineRestarted_reached).1 1, (quarantine_exact quarantineRestarted_reached).2.1⟩

end Microscope.Polling
