import Microscope.Polling.Relaying

namespace Microscope.Polling

open Std Microscope.Data Microscope.Shipped

/-! # What the relay owes

An update that the forwarding channel accepted is in the channel, with the task
or in the pipeline, in the order of the stream, unless the pipeline has closed.
Its delivery is recorded after it was sent, and handed over once.  As for the
threads, the relaxed flag of the hand-over is taken for a sequentially
consistent one.
-/

variable {Signature : Type}

namespace Forwarding

theorem record_ne_returned {delivery : Option (Signature × Slot)} : record delivery ≠ .returned := by
  cases delivery <;> simp [record]

/-- How many deliveries the task queues whatever becomes of the flag. -/
def late : Forwarding Signature → Nat
  | .queueing _ => 1
  | _ => 0

@[simp] theorem late_record {delivery : Option (Signature × Slot)} :
    (record delivery : Forwarding Signature).late = 0 := by
  cases delivery <;> rfl

end Forwarding

theorem Pipeline.backlog_send {pipeline : Pipeline Signature} {update : Update Signature} :
    (pipeline.send update).backlog ≤ pipeline.backlog + 1 := by
  simp only [Pipeline.backlog, Pipeline.send, List.length_append, List.length_singleton]
  omega

theorem Pipeline.backlog_dequeue {pipeline : Pipeline Signature} (waiting : pipeline.Waiting) :
    (Pipeline.dequeue waiting).backlog ≤ pipeline.backlog := by
  simp only [Pipeline.backlog, Pipeline.dequeue]
  omega

variable [LinearOrder Signature]

/-! ## What holds of the threads -/

namespace Threads

/-- Where the accepted updates are. -/
structure Accounts (bufferSize : Nat) (threads : Threads Signature) : Prop where
  accepted : threads.relayed <+: threads.accepted
  complete : threads.task ≠ .returned ∨ threads.closed = false →
    threads.accepted = threads.relayed ++ threads.task.held ++ threads.forwarding
  returned : threads.task = .returned → threads.forwarding = []
  sent : threads.relayed.Sublist threads.pipeline.sent
  forwarding : threads.forwarding.length ≤ bufferSize
  backlog : threads.pipeline.backlog ≤ bufferSize

/-- Where the deliveries of the relayed transactions are, if the poller has
taken these. -/
structure Hands (taken : List (Signature × Slot)) (threads : Threads Signature) : Prop where
  recorded : (taken ++ threads.queue ++ threads.task.sent.toList).Sublist
    (threads.relayed.filterMap Update.delivery)
  complete : threads.recording = true →
    threads.relayed.filterMap Update.delivery = taken ++ threads.queue ++ threads.task.sent.toList

/-- The hand-over is off, and nothing but a late delivery is left. -/
structure Stopped (threads : Threads Signature) : Prop where
  off : threads.recording = false
  left : threads.queue.length + threads.task.late ≤ 1

end Threads

variable [SignatureText Signature] {surroundings : Surroundings} {bufferSize : Nat}
  {threads before after : Threads Signature} {taken drained : List (Signature × Slot)}

/-! ## Moves -/

theorem Threads.Accounts.moved (accounts : before.Accounts bufferSize)
    (moves : Threads.Moves surroundings bufferSize before after) : after.Accounts bufferSize := by
  obtain ⟨accepted, complete, returned, sent, forwarding, backlog⟩ := accounts
  cases moves with
  | stream update streaming running =>
      rcases before.trySend_cases bufferSize update with same | ⟨waits, room, same⟩ <;> rw [same]
      · exact ⟨accepted, complete, returned, sent, forwarding, backlog⟩
      · refine ⟨accepted.trans (List.prefix_append _ _), fun _ => ?_, fun idle => absurd idle waits, sent,
          ?_, backlog⟩
        · rw [complete (.inl waits), List.append_assoc]
        · rw [List.length_append]
          exact room
  | endStream => exact ⟨accepted, complete, returned, sent, forwarding, backlog⟩
  | @receive update rest receiving waiting =>
      have exactly : before.accepted = before.relayed ++ [update] ++ rest := by
        have all := complete (.inl (by rw [receiving]; simp))
        rw [receiving, waiting] at all
        simpa [Forwarding.held] using all
      refine ⟨accepted, fun _ => exactly, by simp, sent, ?_, backlog⟩
      rw [waiting, List.length_cons] at forwarding
      exact (Nat.le_succ _).trans forwarding
  | finishForwarding receiving empty ended =>
      have all := complete (.inl (by rw [receiving]; simp))
      rw [receiving] at all
      exact ⟨accepted, fun _ => all, fun _ => empty, sent, forwarding, backlog⟩
  | @send update sending isOpen room =>
      have exactly : before.accepted = before.relayed ++ [update] ++ before.forwarding := by
        have all := complete (.inl (by rw [sending]; simp))
        rwa [sending] at all
      refine ⟨⟨before.forwarding, exactly.symm⟩, fun _ => ?_, fun idle => ?_, sent.append (.refl _),
        forwarding, Pipeline.backlog_send.trans room⟩
      · rw [Forwarding.held_record, List.append_nil]
        exact exactly
      · exact absurd idle Forwarding.record_ne_returned
  | abandon sending closed =>
      refine ⟨accepted, fun waits => ?_, fun _ => rfl, sent, Nat.zero_le _, backlog⟩
      rcases waits with waits | isOpen
      · exact absurd rfl waits
      · rw [closed] at isOpen
        contradiction
  | @load delivery called =>
      have all := complete (.inl (by rw [called]; simp))
      rw [called] at all
      cases before.recording with
      | true => exact ⟨accepted, fun _ => all, by simp, sent, forwarding, backlog⟩
      | false => exact ⟨accepted, fun _ => all, by simp, sent, forwarding, backlog⟩
  | enqueue flagged =>
      have all := complete (.inl (by rw [flagged]; simp))
      rw [flagged] at all
      exact ⟨accepted, fun _ => all, by simp, sent, forwarding, backlog⟩
  | close =>
      refine ⟨accepted, fun waits => complete (.inl ?_), returned, sent, forwarding, backlog⟩
      rcases waits with waits | isOpen
      · exact waits
      · contradiction
  | register => exact ⟨accepted, complete, returned, sent, forwarding, backlog⟩
  | dequeue waiting isOpen =>
      exact ⟨accepted, complete, returned, sent, forwarding, (Pipeline.backlog_dequeue waiting).trans backlog⟩
  | ship busy admitted => exact ⟨accepted, complete, returned, sent, forwarding, backlog⟩
  | finish busy => exact ⟨accepted, complete, returned, sent, forwarding, backlog⟩

theorem Threads.Hands.moved (hands : before.Hands taken)
    (moves : Threads.Moves surroundings bufferSize before after) : after.Hands taken := by
  obtain ⟨recorded, complete⟩ := hands
  cases moves with
  | stream update streaming running =>
      rcases before.trySend_cases bufferSize update with same | ⟨_, _, same⟩ <;> rw [same] <;>
        exact ⟨recorded, complete⟩
  | receive receiving waiting =>
      rw [receiving] at recorded complete
      exact ⟨recorded, complete⟩
  | finishForwarding receiving empty ended =>
      rw [receiving] at recorded complete
      exact ⟨recorded, complete⟩
  | @send update sending isOpen room =>
      have more : (before.relayed ++ [update]).filterMap Update.delivery =
          before.relayed.filterMap Update.delivery ++ update.delivery.toList := by
        rw [List.filterMap_append]
        cases update <;> rfl
      rw [sending] at recorded complete
      simp only [Forwarding.sent, Option.toList_none, List.append_nil] at recorded complete
      refine ⟨?_, fun flag => ?_⟩
      · rw [more, Forwarding.sent_record]
        exact recorded.append (.refl _)
      · rw [more, Forwarding.sent_record, complete flag]
  | abandon sending closed =>
      rw [sending] at recorded complete
      exact ⟨recorded, complete⟩
  | @load delivery called =>
      rw [called] at recorded complete
      cases flag : before.recording with
      | true => exact ⟨recorded, fun _ => complete flag⟩
      | false =>
          refine ⟨?_, fun impossible => by contradiction⟩
          have without : (taken ++ before.queue ++ ([] : List (Signature × Slot))).Sublist
              (taken ++ before.queue ++ [delivery]) := (List.Sublist.refl _).append (List.nil_sublist _)
          exact without.trans recorded
  | @enqueue delivery flagged =>
      rw [flagged] at recorded complete
      have same : taken ++ (before.queue ++ [delivery]) ++ ([] : List (Signature × Slot)) =
          taken ++ before.queue ++ (Forwarding.queueing delivery).sent.toList := by simp [Forwarding.sent]
      refine ⟨?_, fun flag => (complete flag).trans same.symm⟩
      rw [← same] at recorded
      exact recorded
  | _ => exact ⟨recorded, complete⟩

theorem Threads.Stopped.moved (stopped : before.Stopped)
    (moves : Threads.Moves surroundings bufferSize before after) : after.Stopped := by
  refine ⟨moves.recording.trans stopped.off, ?_⟩
  obtain ⟨off, left⟩ := stopped
  cases moves with
  | stream update streaming running =>
      rcases before.trySend_cases bufferSize update with same | ⟨_, _, same⟩ <;> rw [same] <;> exact left
  | receive receiving waiting =>
      rw [receiving] at left
      exact left
  | finishForwarding receiving empty ended =>
      rw [receiving] at left
      exact left
  | send sending isOpen room =>
      rw [sending] at left
      rw [Forwarding.late_record]
      exact left
  | abandon sending closed =>
      rw [sending] at left
      exact left
  | load called =>
      rw [called] at left
      rw [off]
      exact left
  | enqueue flagged =>
      rw [flagged] at left
      rw [List.length_append]
      exact left
  | _ => exact left

/-! ## Accesses and drains -/

theorem hands_moved (first second : Threads Signature)
    (moves : Threads.Moves surroundings bufferSize first second) (hands : first.Hands taken) :
    second.Hands taken := hands.moved moves

/-- What a drain collects is taken. -/
theorem Threads.Drains.hands (drains : before.Drains surroundings bufferSize drained after)
    (hands : before.Hands taken) : after.Hands (taken ++ drained) := by
  obtain ⟨collected, middle, trace, rounds, last, execution⟩ := drains
  have reached : middle.Hands (taken ++ collected) := by
    clear last execution
    induction rounds with
    | start => simpa using hands
    | @next collected _ _ _ _ _ run execution _ ih =>
        rcases drain_cases run with ⟨delivery, rfl, same⟩ | ⟨_, impossible⟩
        · cases same
          obtain ⟨ready, answered, untilReady, ⟨rest, waiting, rfl⟩, after⟩ :=
            Program.Simulates.executes_single execution
          obtain ⟨recorded, complete⟩ := Program.drifts_keep untilReady hands_moved ih
          have moved : taken ++ (collected ++ [delivery]) ++ rest = taken ++ collected ++ ready.queue := by
            simp [waiting]
          rw [← moved] at recorded complete
          exact Program.drifts_keep after hands_moved ⟨recorded, complete⟩
        · contradiction
  rcases drain_cases last with ⟨_, _, impossible⟩ | ⟨rfl, same⟩
  · contradiction
  · cases same
    obtain ⟨ready, answered, untilReady, ⟨_, same⟩, after⟩ := Program.Simulates.executes_single execution
    rw [same] at after
    exact Program.drifts_keep (untilReady.trans after) hands_moved reached

/-- A drain that ends after the flag was cleared leaves room for a late delivery
only. -/
theorem Threads.Drains.stops (drains : before.Drains surroundings bufferSize drained after)
    (off : before.recording = false) : after.Stopped := by
  have ends := drains.recording.trans off
  obtain ⟨collected, middle, trace, _, last, execution⟩ := drains
  rcases drain_cases last with ⟨_, _, impossible⟩ | ⟨rfl, _⟩
  · contradiction
  · obtain ⟨ready, answered, _, ⟨empty, same⟩, later⟩ := Program.Simulates.executes_single execution
    rw [same] at later
    have clear : ready.Stopped := by
      refine ⟨(drift_recording later).symm.trans ends, ?_⟩
      rw [empty]
      cases ready.task <;> simp [Forwarding.late]
    exact Program.drifts_keep later (fun _ _ moves stopped => Threads.Stopped.moved stopped moves) clear

/-! ## Answers -/

/-- What a command that is not about the hand-over does to the pipeline. -/
theorem Threads.Answers.sends {call : Call Signature} {response : call.Response} (apart : call.Apart)
    (answers : before.Answers surroundings bufferSize after call response) :
    after.relayed = before.relayed ∧ after.accepted = before.accepted ∧ after.closed = before.closed ∧
      (after.pipeline = before.pipeline ∨ ∃ update, before.pipeline.backlog < bufferSize ∧
        after.pipeline = before.pipeline.send update) := by
  have others : (∀ update, call ≠ .send update) →
      (∃ site, before.site.Answers surroundings site call response ∧ after = before.update site) →
      after.relayed = before.relayed ∧ after.accepted = before.accepted ∧
      after.closed = before.closed ∧ (after.pipeline = before.pipeline ∨
        ∃ update, before.pipeline.backlog < bufferSize ∧ after.pipeline = before.pipeline.send update) := by
    rintro other ⟨site, answered, rfl⟩
    refine ⟨rfl, rfl, rfl, .inl ?_⟩
    rcases answered.changes.pipeline with same | ⟨update, same, _⟩
    · exact same
    · exact absurd same (other update)
  cases call with
  | drainDelivered => exact apart.elim
  | stopDelivered => exact apart.elim
  | send update =>
      cases response with
      | error error =>
          obtain ⟨_, rfl⟩ := answers
          exact ⟨rfl, rfl, rfl, .inl rfl⟩
      | ok _ =>
          obtain ⟨_, room, rfl⟩ := answers
          exact ⟨rfl, rfl, rfl, .inr ⟨update, room, rfl⟩⟩
  | _ => exact others (by simp) answers

theorem Threads.Accounts.answered {call : Call Signature} {response : call.Response}
    (accounts : before.Accounts bufferSize)
    (answers : before.Answers surroundings bufferSize after call response) : after.Accounts bufferSize := by
  have moved : ∀ first second : Threads Signature, Threads.Moves surroundings bufferSize first second →
      first.Accounts bufferSize → second.Accounts bufferSize := fun _ _ moves accounts => accounts.moved moves
  have accessed : ∀ (threads : Threads Signature) queue recording, threads.Accounts bufferSize →
      Threads.Accounts bufferSize { threads with queue, recording } := by
    rintro threads queue recording ⟨accepted, complete, returned, sent, forwarding, backlog⟩
    exact ⟨accepted, complete, returned, sent, forwarding, backlog⟩
  have drains : ∀ {first second : Threads Signature} {drained : List (Signature × Slot)},
      first.Drains surroundings bufferSize drained second → first.Accounts bufferSize →
      second.Accounts bufferSize :=
    drains_keep moved fun threads queue => accessed threads queue threads.recording
  by_cases apart : call.Apart
  · obtain ⟨accepted, complete, returned, sent, forwarding, backlog⟩ := accounts
    obtain ⟨_, _, _, sameForwarding, sameTask⟩ := answers.onSite apart [] true
    obtain ⟨sameRelayed, sameAccepted, sameClosed, pipeline⟩ := answers.sends apart
    refine ⟨?_, ?_, ?_, ?_, ?_, ?_⟩
    · rw [sameRelayed, sameAccepted]
      exact accepted
    · rw [sameRelayed, sameAccepted, sameClosed, sameTask, sameForwarding]
      exact complete
    · rw [sameTask, sameForwarding]
      exact returned
    · rw [sameRelayed]
      rcases pipeline with same | ⟨update, _, same⟩ <;> rw [same]
      · exact sent
      · exact sent.trans (List.sublist_append_left _ _)
    · rw [sameForwarding]
      exact forwarding
    · rcases pipeline with same | ⟨update, room, same⟩ <;> rw [same]
      · exact backlog
      · exact Pipeline.backlog_send.trans room
  · cases call with
    | drainDelivered => exact drains answers accounts
    | stopDelivered =>
        obtain ⟨stopped, discarded, stops, rest⟩ := answers
        obtain ⟨ready, _, untilReady, rfl, later⟩ := Program.Simulates.executes_single stops
        have cleared := accessed ready ready.queue false (Program.drifts_keep untilReady moved accounts)
        exact drains rest (Program.drifts_keep later moved cleared)
    | _ => exact absurd trivial apart

theorem Threads.Hands.answered {call : Call Signature} {response : call.Response}
    (hands : before.Hands taken)
    (answers : before.Answers surroundings bufferSize after call response) :
    after.Hands (taken ++ deliveriesOf ⟨call, response⟩) := by
  by_cases apart : call.Apart
  · have nothing : deliveriesOf (⟨call, response⟩ : CallEvent Signature) = [] := by
      cases call with
      | drainDelivered => exact apart.elim
      | _ => rfl
    obtain ⟨_, sameQueue, sameFlag, _, sameTask⟩ := answers.onSite apart [] true
    obtain ⟨sameRelayed, _, _, _⟩ := answers.sends apart
    obtain ⟨recorded, complete⟩ := hands
    rw [nothing, List.append_nil]
    refine ⟨?_, ?_⟩
    · rw [sameQueue, sameTask, sameRelayed]
      exact recorded
    · rw [sameFlag, sameQueue, sameTask, sameRelayed]
      exact complete
  · cases call with
    | drainDelivered => exact Threads.Drains.hands answers hands
    | stopDelivered =>
        have off : after.recording = false := answers.stopped (.inr rfl)
        obtain ⟨stopped, discarded, stops, drains⟩ := answers
        obtain ⟨ready, _, untilReady, rfl, later⟩ := Program.Simulates.executes_single stops
        have cleared : Threads.Hands taken { ready with recording := false } :=
          ⟨(Program.drifts_keep untilReady hands_moved hands).recorded, fun impossible => by contradiction⟩
        obtain ⟨recorded, _⟩ := drains.hands (Program.drifts_keep later hands_moved cleared)
        have without : (taken ++ after.queue ++ after.task.sent.toList).Sublist
            (taken ++ discarded ++ after.queue ++ after.task.sent.toList) :=
          ((List.sublist_append_left taken discarded).append (.refl _)).append (.refl _)
        refine ⟨?_, fun impossible => ?_⟩
        · have nothing : deliveriesOf (⟨.stopDelivered, response⟩ : CallEvent Signature) = [] := rfl
          rw [nothing, List.append_nil]
          exact without.trans recorded
        · rw [off] at impossible
          contradiction
    | _ => exact absurd trivial apart

theorem Threads.Answers.stops {response : Call.Response (.stopDelivered : Call Signature)}
    (answers : before.Answers surroundings bufferSize after .stopDelivered response) : after.Stopped := by
  obtain ⟨stopped, discarded, stops, drains⟩ := answers
  obtain ⟨_, _, _, rfl, later⟩ := Program.Simulates.executes_single stops
  exact drains.stops (drift_recording later)

theorem Threads.Stopped.answered {call : Call Signature} {response : call.Response} (stopped : before.Stopped)
    (answers : before.Answers surroundings bufferSize after call response) : after.Stopped := by
  by_cases apart : call.Apart
  · obtain ⟨_, sameQueue, sameFlag, _, sameTask⟩ := answers.onSite apart [] true
    refine ⟨sameFlag.trans stopped.off, ?_⟩
    rw [sameQueue, sameTask]
    exact stopped.left
  · cases call with
    | drainDelivered => exact Threads.Drains.stops answers stopped.off
    | stopDelivered => exact answers.stops
    | _ => exact absurd trivial apart

/-! ## Runs -/

variable {trace : List (CallEvent Signature)}

theorem executes_hands
    (execution : Program.Executes (threadsEnvironment surroundings bufferSize) before trace after)
    (hands : before.Hands taken) : after.Hands (taken ++ delivered trace) := by
  induction execution generalizing taken with
  | idle drift =>
      rw [delivered_nil, List.append_nil]
      exact Program.drifts_keep drift hands_moved hands
  | step drift answer _ ih =>
      rw [delivered_cons, ← List.append_assoc]
      exact ih (Threads.Hands.answered (Program.drifts_keep drift hands_moved hands) answer.2)

/-- Deliveries are recorded until the poller stops the hand-over. -/
theorem executes_recording
    (execution : Program.Executes (threadsEnvironment surroundings bufferSize) before trace after)
    (runs : ∀ event ∈ trace, event.1 ≠ .stopDelivered) (recording : before.recording = true) :
    after.recording = true := by
  let on (threads : Threads Signature) : Prop := threads.recording = true
  have moved : ∀ first second : Threads Signature, Threads.Moves surroundings bufferSize first second →
      on first → on second := fun _ _ moves flag => moves.recording.trans flag
  have kept : on after := by
    refine execution.keeps_events ?_ moved recording
    intro first event second member answers flag
    obtain ⟨call, response⟩ := event
    by_cases apart : call.Apart
    · obtain ⟨_, _, sameFlag, _⟩ := answers.2.onSite apart [] true
      exact sameFlag.trans flag
    · cases call with
      | drainDelivered => exact drains_keep moved (fun _ _ flag => flag) answers.2 flag
      | stopDelivered => exact absurd rfl (runs _ member)
      | _ => exact absurd trivial apart
  exact kept

/-- However a program of the poller, the stream, the relay and Carbon
interleave: what the relay accepted is sent in order, nothing of it lost before
the pipeline closes; the deliveries handed over are deliveries of transactions
that were sent, each once and in order, and all of them but those still in the
queue or with the task until the hand-over is stopped; and once it was stopped
the queue keeps at most one. -/
theorem relay_accounts {checkpoint : Option Bytes} {file : Option (List Char)}
    (execution : Program.Executes (threadsEnvironment surroundings bufferSize)
      (.boot checkpoint file) trace threads) :
    threads.Accounts bufferSize ∧
      (delivered trace ++ threads.queue).Sublist (threads.relayed.filterMap Update.delivery) ∧
      ((∀ event ∈ trace, event.1 ≠ .stopDelivered) → threads.relayed.filterMap Update.delivery =
        delivered trace ++ threads.queue ++ threads.task.sent.toList) ∧
      ((∃ event ∈ trace, event.1 = .stopDelivered) → threads.queue.length ≤ 1) := by
  have boots : Threads.Accounts bufferSize (.boot checkpoint file : Threads Signature) :=
    ⟨List.prefix_rfl, fun _ => rfl, fun _ => rfl, .refl _, Nat.zero_le _, Nat.zero_le _⟩
  have accounts : threads.Accounts bufferSize := by
    refine execution.keeps ?_ ?_ boots
    · intro first call response second answers accounts
      exact accounts.answered answers.2
    · intro first second moves accounts
      exact accounts.moved moves
  have starts : Threads.Hands [] (.boot checkpoint file : Threads Signature) := ⟨.refl _, fun _ => rfl⟩
  obtain ⟨recorded, complete⟩ := executes_hands execution starts
  rw [List.nil_append] at recorded complete
  refine ⟨accounts, (List.sublist_append_left _ _).trans recorded, fun runs => ?_, ?_⟩
  · exact complete (executes_recording execution runs rfl)
  · rintro ⟨⟨_, response⟩, member, rfl⟩
    obtain ⟨_, _, ready, answered, _, _, answers, later⟩ := execution.at_event member
    have stopped : threads.Stopped := by
      refine later.keeps ?_ ?_ answers.2.stops
      · intro first call response second answers stopped
        exact stopped.answered answers.2
      · intro first second moves stopped
        exact stopped.moved moves
    have left := stopped.left
    omega

theorem relay_accounts_relaying : relayedThreads.Accounts 4 ∧
    relayedThreads.relayed.filterMap Update.delivery = [(1, 95), (2, 95)] := by
  have runs : ∀ event ∈ relayingStart ++ relayingTurn, event.1 ≠ .stopDelivered := by
    simp [relayingStart, relayingTurn]
  obtain ⟨accounts, _, complete, _⟩ :=
    relay_accounts (executes_relayingStart.append executes_relayingTurn)
  exact ⟨accounts, complete runs⟩

end Microscope.Polling
