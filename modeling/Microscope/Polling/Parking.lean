import Microscope.Data.Simulation
import Microscope.Polling.Retention

namespace Microscope.Polling

open Std Microscope.Data

/-! # How the poller parks

A poller that disables recovery stops the hand-over from Yellowstone, and waits
for its cancellation.  It drains nothing any more.
-/

variable {Signature : Type} [LinearOrder Signature] [SignatureText Signature] {codec : JsonCodec}
  {datasource : RpcPollingDatasource} {addresses : List Address} {pages : Nat}
  {loop : PollingLoop Signature} {trace : List (CallEvent Signature)}

/-- Once it has stopped the hand-over, the program drains nothing any more and
ends parked. -/
abbrev ParksAfterStop {α : Type} (parked : α → Prop) (program : Task Signature α) : Prop :=
  program.Parks (fun call : Call Signature => call = .stopDelivered)
    (fun call : Call Signature => call = .drainDelivered) parked

/-- A program that leaves the hand-over on. -/
abbrev Continues {α : Type} (program : Task Signature α) : Prop :=
  program.Obeys (fun _ _ => True) fun call : Call Signature => ¬call = .stopDelivered

theorem poll_continues {state : PollingState Signature} :
    Continues (poll pages datasource addresses state) := by
  refine poll_obeys ?_ ?_ fun _ _ _ _ => Program.Obeys.mono fetchAndAdvance_fetching ?_
  · rintro call preparing rfl
    exact preparing
  · rintro call quiet rfl
    exact quiet
  · rintro call fetching rfl
    exact fetching

theorem beforePoll_continues : Continues (beforePoll codec datasource loop) := by
  refine beforePoll_maintaining.mono ?_
  rintro call maintaining rfl
  exact maintaining

omit [LinearOrder Signature] [SignatureText Signature] in
theorem waitWithRecoveryDisabled_parks :
    ParksAfterStop (fun _ => True) (waitWithRecoveryDisabled datasource : Task Signature Stopped) := by
  unfold waitWithRecoveryDisabled
  split <;> simp [ParksAfterStop, Program.Parks, Program.Rests]

omit [SignatureText Signature] in
theorem concludePoll_parks {started : Instant} {disabled : Bool} :
    ParksAfterStop (fun result => result.isRight = true)
      (concludePoll datasource started disabled loop) := by
  unfold concludePoll
  split
  · exact Program.Parks.bind waitWithRecoveryDisabled_parks (fun _ _ => rfl) fun _ => trivial
  · refine Program.Parks.call (by simp) fun finished => Program.Parks.call (by simp) fun cancelled => ?_
    cases cancelled <;> exact trivial

theorem pollingTurn_parks : ParksAfterStop (fun result => result.isRight = true)
    (pollingTurn codec datasource addresses pages loop) := by
  refine Program.Parks.call (by simp) fun cancelled => ?_
  cases cancelled with
  | true => exact trivial
  | false =>
      refine Program.Parks.call (by simp) fun started => ?_
      have turn : ParksAfterStop (fun result => result.isRight = true)
          (beforePoll codec datasource loop >>= pollAndConclude datasource addresses pages started) :=
        beforePoll_continues.bind_parks fun saved =>
          poll_continues.bind_parks fun polled => concludePoll_parks
      exact turn

theorem load_continues {store : CheckpointStore} :
    Continues (store.load pollingFile codec :
      Task Signature (Except CheckpointLoadError (CheckpointLoadOutcome Signature))) := by
  refine ⟨by simp, fun response _ => ?_⟩
  cases response with
  | error error => exact trivial
  | ok content =>
      cases content with
      | none => exact trivial
      | some raw =>
          cases interpreted : (store.interpret codec raw : Except _ (CheckpointReading Signature)) with
          | error mismatch => simp [Program.bind, interpreted, Program.Obeys]
          | ok reading =>
              cases reading with
              | loaded snapshot => simp [Program.bind, interpreted, Program.Obeys]
              | corrupt reason =>
                  simp only [Program.bind, interpreted]
                  refine ⟨by simp, fun moved _ => ?_⟩
                  cases moved <;> exact trivial

theorem loadCheckpoint_parks {identity : String} {store : CheckpointStore} {attempts : Nat} :
    ParksAfterStop (fun result => result.isRight = true)
      (loadCheckpoint codec datasource identity store attempts :
        Task Signature (CheckpointLoadOutcome Signature ⊕ Stopped)) := by
  have disabled : ParksAfterStop (fun result => result.isRight = true)
      ((do return .inr (← waitWithRecoveryDisabled datasource)) :
        Task Signature (CheckpointLoadOutcome Signature ⊕ Stopped)) :=
    Program.Parks.bind waitWithRecoveryDisabled_parks (fun _ _ => rfl) fun _ => trivial
  induction attempts with
  | zero => exact trivial
  | succ attempts ih =>
      refine load_continues.bind_parks fun result => ?_
      cases result with
      | ok loaded => exact trivial
      | error failure =>
          cases failure with
          | mismatch error => exact Program.Parks.call (by simp) fun _ => disabled
          | io error =>
              dsimp only
              split
              · exact disabled
              · refine Program.Parks.call (by simp) fun cancelled => ?_
                cases cancelled with
                | true => exact trivial
                | false => exact ih

theorem readGenesisHash_parks : ParksAfterStop (fun result => result.isRight = true)
    (readGenesisHash codec datasource addresses :
      Task Signature (Consumption Signature ⊕ Stopped)) := by
  refine Program.Parks.call (by simp) fun response => ?_
  cases response with
  | error error =>
      refine Program.Parks.call (by simp) fun cancelled => ?_
      cases cancelled <;> exact trivial
  | ok genesisHash =>
      have startsUp : ParksAfterStop (fun result => result.isRight = true)
          (startUp codec datasource addresses genesisHash :
            Task Signature (Consumption Signature ⊕ Stopped)) := by
        refine Program.Parks.bind loadCheckpoint_parks ?_ fun result => ?_
        · intro result parked
          cases result with
          | inl loaded => contradiction
          | inr stopped => exact rfl
        · cases result with
          | inr stopped => exact trivial
          | inl loaded => cases loaded <;> exact Program.Parks.call (by simp) fun _ => trivial
      exact startsUp

theorem consume_parks {control : Consumption Signature} :
    ParksAfterStop (fun result => result.isRight = true)
      (consume codec datasource addresses pages control) := by
  cases control with
  | readingGenesisHash => exact readGenesisHash_parks
  | polling loop => exact pollingTurn_parks

/-- A round after which the poller goes on has not stopped the hand-over. -/
theorem consume_continues {control next : Consumption Signature}
    (run : Program.Run (consume codec datasource addresses pages control) trace (.inl next)) :
    ∀ event ∈ trace, ¬event.1 = .stopDelivered := by
  rcases consume_parks.advances run with runs | ⟨_, _, _, _, _, _, _, rests⟩
  · exact runs
  · contradiction

end Microscope.Polling
