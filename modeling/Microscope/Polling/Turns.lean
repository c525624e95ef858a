import Microscope.Polling.Effects
import Microscope.Polling.Runtime

namespace Microscope.Polling

open Std Microscope.Data

/-! # What a turn of the loop does

A turn checks whether the pipeline has drained, saves, polls and sleeps.  Only
its saving part touches the checkpoint and the journal.
-/

variable {Signature : Type}

/-- A command that leaves the checkpoint and the journal alone. -/
def Call.Transient : Call Signature → Prop
  | .readCheckpoint => False
  | .installCheckpoint _ => False
  | .moveCorruptCheckpoint => False
  | .restoreShipped _ => False
  | .discardShipped _ => False
  | .compactShipped _ => False
  | _ => True

theorem Call.Preparing.transient {call : Call Signature} (preparing : call.Preparing) :
    call.Transient := by
  cases call <;> trivial

theorem Call.Quiet.transient {call : Call Signature} (quiet : call.Quiet) : call.Transient := by
  cases call <;> trivial

theorem Call.Fetching.transient {call : Call Signature} (fetching : call.Fetching) :
    call.Transient := by
  cases call <;> trivial

variable [LinearOrder Signature] [SignatureText Signature] {codec : JsonCodec}
  {datasource : RpcPollingDatasource} {addresses : List Address} {pages : Nat}
  {loop : PollingLoop Signature} {trace : List (CallEvent Signature)}
  {allowed : (call : Call Signature) → call.Response → Prop} {permitted : Call Signature → Prop}

/-! ## Commands -/

/-- What a poll issues, given what it issues once the addresses are listed. -/
theorem poll_obeys {before : PollingState Signature}
    (preparing : ∀ call : Call Signature, call.Preparing → permitted call)
    (quiet : ∀ call : Call Signature, call.Quiet → permitted call)
    (fetching : ∀ headSlot initialized survey state, Action.Obeys allowed permitted
      (fetchAndAdvance headSlot datasource.replayWindow.slots initialized survey) state) :
    Action.Obeys allowed permitted (poll pages datasource addresses) before := by
  have weaken : ∀ {α : Type} {action : PollAction Signature α} {state : PollingState Signature}
      {narrow : Call Signature → Prop}, (∀ call, narrow call → permitted call) →
      Action.Obeys (fun _ _ => True) narrow action state → Action.Obeys allowed permitted action state :=
    fun narrower obeys => (Program.Obeys.mono obeys narrower).restrict fun _ _ _ => trivial
  refine Action.Obeys.bind (weaken preparing absorbDeliveredSignatures_preparing) fun _ _ _ _ _ => ?_
  refine Action.Obeys.bind (weaken preparing readSlot_preparing) fun _ headSlot _ _ _ => ?_
  refine Action.Obeys.bind (weaken preparing refuseCursorAheadOfHead_silent) fun _ _ _ _ _ => ?_
  refine Action.Obeys.bind (weaken preparing installCursors_silent) fun _ initialized _ _ _ => ?_
  refine Action.Obeys.bind (weaken preparing verifyHistoryBoundary_preparing) fun _ verified _ _ _ => ?_
  refine Action.Obeys.bind (weaken quiet surveyAddresses_quiet) fun _ survey _ _ _ => ?_
  exact fetching headSlot initialized survey _

theorem poll_transient {before : PollingState Signature} :
    Action.Obeys (fun _ _ => True) Call.Transient (poll pages datasource addresses) before :=
  poll_obeys (fun _ => Call.Preparing.transient) (fun _ => Call.Quiet.transient)
    fun _ _ _ _ => Program.Obeys.mono fetchAndAdvance_fetching fun _ => Call.Fetching.transient

omit [LinearOrder Signature] [SignatureText Signature] in
theorem waitWithRecoveryDisabled_transient :
    Program.Obeys (fun _ _ => True) Call.Transient
      (waitWithRecoveryDisabled datasource : Task Signature Stopped) := by
  unfold waitWithRecoveryDisabled
  split <;> simp [Program.Obeys, Call.Transient]

omit [SignatureText Signature] in
theorem concludePoll_transient {started : Instant} {disabled : Bool} :
    Program.Obeys (fun _ _ => True) Call.Transient (concludePoll datasource started disabled loop) := by
  unfold concludePoll
  split
  · exact waitWithRecoveryDisabled_transient.bind fun _ _ _ _ => trivial
  · refine ⟨trivial, fun finished _ => ⟨trivial, fun cancelled _ => ?_⟩⟩
    cases cancelled <;> exact trivial

theorem pollAndConclude_transient {started : Instant} :
    Program.Obeys (fun _ _ => True) Call.Transient
      (pollAndConclude datasource addresses pages started loop) :=
  Program.Obeys.bind poll_transient fun _ _ _ _ => concludePoll_transient

omit [LinearOrder Signature] [SignatureText Signature] in
theorem readCounters_transient :
    Program.Obeys (fun _ _ => True) Call.Transient
      (readCounters : Task Signature (Option Nat × Option Nat)) := by
  refine ⟨trivial, fun receivedFirst _ => ?_⟩
  cases receivedFirst <;> exact ⟨trivial, fun _ _ => ⟨trivial, fun _ _ => trivial⟩⟩

omit [SignatureText Signature] in
theorem refreshProcessedState_transient :
    Program.Obeys (fun _ _ => True) Call.Transient (refreshProcessedState loop) := by
  refine ⟨trivial, fun channelEmpty _ => readCounters_transient.bind ?_⟩
  rintro trace ⟨received, processed⟩ _ _
  dsimp only
  split <;> exact trivial

/-- The checkpoint a save may install, besides commands that touch neither
checkpoint nor journal, and compaction. -/
def Call.Saves (store : CheckpointStore) (codec : JsonCodec) (snapshot : CheckpointSnapshot Signature) :
    Call Signature → Prop
  | .installCheckpoint encoded =>
      snapshot.cursors.keys = store.identity.addresses ∧ encoded = store.encode codec snapshot
  | .compactShipped _ => True
  | call => call.Transient

theorem saveCheckpoint_saves :
    Program.Obeys (fun _ _ => True) (Call.Saves loop.checkpoint codec loop.processedState)
      (saveCheckpoint codec datasource loop) := by
  have saves : Program.Obeys (fun _ _ => True)
      (Call.Saves loop.checkpoint codec loop.processedState)
      (loop.checkpoint.saveIfDue pollingFile codec loop.processedState loop.checkpointUrgent) := by
    unfold CheckpointStore.saveIfDue
    split
    · exact trivial
    · rename_i complete
      have due : Program.Obeys (fun _ _ => True)
          (Call.Saves loop.checkpoint codec loop.processedState)
          (loop.checkpoint.writeDue pollingFile loop.checkpointUrgent) := by
        unfold CheckpointStore.writeDue
        split
        · exact trivial
        · exact ⟨trivial, fun _ _ => trivial⟩
      refine due.bind fun _ due _ _ => ?_
      cases due with
      | false => exact trivial
      | true =>
          refine ⟨⟨not_not.mp complete, rfl⟩, fun installed _ => ?_⟩
          cases installed with
          | error error => exact trivial
          | ok _ => exact ⟨trivial, fun _ _ => trivial⟩
  refine saves.bind ?_
  rintro trace ⟨saved, checkpoint⟩ _ _
  dsimp only
  split
  · exact ⟨trivial, fun _ _ => trivial⟩
  · exact trivial

/-! ## The parts of a turn -/

/-- The counters were equal after the channel was found empty. -/
def Drains (trace : List (CallEvent Signature)) : Prop :=
  ∃ first counted received processed, trace = first ++ ⟨.channelEmpty, true⟩ :: counted ∧
    Program.Run readCounters counted (received, processed) ∧
    pipelineDrained true received processed = true

/-- The part of a turn before it saves. -/
structure Refreshes (loop : PollingLoop Signature) (trace : List (CallEvent Signature))
    (refreshed : PollingLoop Signature) : Prop where
  transient : ∀ event ∈ trace, event.1.Transient
  drained : refreshed = loop ∨
    refreshed = { loop with processedState := loop.state.snapshot } ∧ Drains trace

omit [SignatureText Signature] in
theorem refreshProcessedState_cases {refreshed : PollingLoop Signature}
    (run : Program.Run (refreshProcessedState loop) trace refreshed) :
    refreshed = loop ∨
      refreshed = { loop with processedState := loop.state.snapshot } ∧ Drains trace := by
  obtain ⟨channelEmpty, tail, rfl, afterChannel⟩ := Program.run_call_iff.mp run
  replace afterChannel : Program.Run (readCounters >>= fun counters =>
      if pipelineDrained channelEmpty counters.1 counters.2 then
        (pure { loop with processedState := loop.state.snapshot } : Task Signature _)
      else pure loop) tail refreshed := afterChannel
  obtain ⟨counted, last, ⟨received, processed⟩, rfl, counting, ends⟩ :=
    Program.run_bind_iff.mp afterChannel
  dsimp only at ends
  split at ends
  · rename_i drained
    obtain ⟨rfl, rfl⟩ := Program.run_done_iff.mp ends
    cases channelEmpty with
    | false => simp [pipelineDrained] at drained
    | true => exact .inr ⟨rfl, [], counted, received, processed, by simp, counting, drained⟩
  · obtain ⟨rfl, rfl⟩ := Program.run_done_iff.mp ends
    exact .inl rfl

/-- Where a turn can be: before its saving part, inside it, or after it. -/
theorem pollingTurn_cases {control : Task Signature (Consumption Signature ⊕ Stopped)}
    (reached : Program.Advances (pollingTurn codec datasource addresses pages loop) trace control) :
    ((∀ event ∈ trace, event.1.Transient) ∧
      (∀ encoded next, control ≠ .call (.installCheckpoint encoded) next) ∧
      ∀ next, control ≠ .done (.inl next)) ∨
    ∃ started checked tail refreshed, trace = checked ++ tail ∧ Refreshes loop checked refreshed ∧
      ((∃ middle, Program.Advances (saveCheckpoint codec datasource refreshed) tail middle ∧
          control = (middle >>= pollAndConclude datasource addresses pages started)) ∨
        ∃ saving polling saved, tail = saving ++ polling ∧
          Program.Run (saveCheckpoint codec datasource refreshed) saving saved ∧
          Program.Advances (pollAndConclude datasource addresses pages started saved) polling
            control) := by
  replace reached : Program.Advances (.call .cancelled fun cancelled =>
      if cancelled then .done (.inr .cancelled)
      else .call .now fun started => .call .countCorruptCheckpoints fun _ =>
        refreshProcessedState loop >>= fun refreshed => saveCheckpoint codec datasource refreshed >>=
          pollAndConclude datasource addresses pages started) trace control := by
    simpa [pollingTurn, beforePoll, apply_ite] using reached
  cases reached with
  | start => exact .inl ⟨by simp, by simp, by simp⟩
  | @step _ _ cancelled _ _ reached =>
  cases cancelled with
  | true =>
      cases reached
      exact .inl ⟨by simp [Call.Transient], by simp, by simp⟩
  | false =>
  cases reached with
  | start => exact .inl ⟨by simp [Call.Transient], by simp, by simp⟩
  | @step _ _ started _ _ reached =>
  cases reached with
  | start => exact .inl ⟨by simp [Call.Transient], by simp, by simp⟩
  | @step _ _ files _ trace reached =>
  let opening : List (CallEvent Signature) :=
    [⟨.cancelled, false⟩, ⟨.now, started⟩, ⟨.countCorruptCheckpoints, files⟩]
  have openingTransient : ∀ event ∈ opening, event.1.Transient := by simp [opening, Call.Transient]
  rcases refreshProcessedState_transient.bind_cases reached (by simp [Program.Allowed]) with
    ⟨transient, command, next, rfl, commandTransient⟩ |
    ⟨checked, tail, refreshed, rfl, run, transient, later⟩
  · refine .inl ⟨?_, ?_, by simp⟩
    · intro event member
      rcases List.mem_append.mp (show event ∈ opening ++ _ from member) with member | member
      · exact openingTransient event member
      · exact transient event member
    · intro encoded next same
      cases same
      exact commandTransient
  · refine .inr ⟨started, opening ++ checked, tail, refreshed, rfl, ⟨?_, ?_⟩, ?_⟩
    · intro event member
      rcases List.mem_append.mp member with member | member
      · exact openingTransient event member
      · exact transient event member
    · rcases refreshProcessedState_cases run with same | ⟨same, first, counted, received, processed, rfl, rest⟩
      · exact .inl same
      · exact .inr ⟨same, opening ++ first, counted, received, processed, by simp, rest⟩
    · rcases later.bind_cases with ⟨middle, advanced, remains⟩ | ⟨saving, polling, saved, rfl, saves, polls⟩
      · exact .inl ⟨middle, advanced, remains⟩
      · exact .inr ⟨saving, polling, saved, rfl, saves, polls⟩

end Microscope.Polling
