import Microscope.Polling.Parking

namespace Microscope.Polling

open Std Microscope.Data Microscope.Shipped

/-! # The relay of the Yellowstone stream

`RecordingDatasource` puts a task between the stream and the pipeline.  That
task, the poller's drain and its stop each touch the queue of deliveries and
its flag in several steps, and the other parties move between these.  A site
takes each of the three for one step.

The source loads and stores the flag with relaxed ordering.  Here all parties
see one order of all accesses, as if the flag were sequentially consistent.
-/

variable {Signature : Type}

/-! ## The parties -/

/-- Where the forwarding task of `RecordingDatasource::consume` stands. -/
inductive Forwarding (Signature : Type) where
  | receiving
  | sending (update : Update Signature)
  /-- `record` is called, and has not loaded the flag yet. -/
  | recording (delivery : Signature × Slot)
  /-- `record` has found the flag set. -/
  | queueing (delivery : Signature × Slot)
  | returned
deriving DecidableEq, Repr

namespace Forwarding

/-- What the task has sent and not recorded. -/
def sent : Forwarding Signature → Option (Signature × Slot)
  | .recording delivery => some delivery
  | .queueing delivery => some delivery
  | _ => none

/-- What the task has received and not sent. -/
def held : Forwarding Signature → List (Update Signature)
  | .sending update => [update]
  | _ => []

/-- Where the task stands once an update is sent. -/
def record : Option (Signature × Slot) → Forwarding Signature
  | some delivery => .recording delivery
  | none => .receiving

@[simp] theorem sent_record {delivery : Option (Signature × Slot)} : (record delivery).sent = delivery := by
  cases delivery <;> rfl

@[simp] theorem held_record {delivery : Option (Signature × Slot)} :
    (record delivery : Forwarding Signature).held = [] := by
  cases delivery <;> rfl

end Forwarding

/-- How many updates are in the channel. -/
def Pipeline.backlog (pipeline : Pipeline Signature) : Nat := pipeline.sent.length - pipeline.received

variable [LinearOrder Signature]

/-- What the threads of one process share, and the two files. -/
structure Threads (Signature : Type) [LinearOrder Signature] where
  checkpoint : Option Bytes
  journal : Journal Signature
  pipeline : Pipeline Signature
  /-- Whether the pipeline has dropped its end of the update channel. -/
  closed : Bool
  /-- The channel between the stream and the forwarding task. -/
  forwarding : List (Update Signature)
  /-- Whether the stream has dropped its end of that channel. -/
  ended : Bool
  task : Forwarding Signature
  /-- The channel of `DeliveredSignatures`. -/
  queue : List (Signature × Slot)
  recording : Bool
  replacements : Nat
  shipped : List (Signature × Slot)
  /-- What the forwarding channel has taken in. -/
  accepted : List (Update Signature)
  /-- What the forwarding task has sent. -/
  relayed : List (Update Signature)

namespace Threads

/-- A process that finds these files. -/
def boot (checkpoint : Option Bytes) (file : Option (List Char)) : Threads Signature where
  checkpoint := checkpoint
  journal := { file }
  pipeline := .idle
  closed := false
  forwarding := []
  ended := false
  task := .receiving
  queue := []
  recording := true
  replacements := 0
  shipped := []
  accepted := []
  relayed := []

variable (threads : Threads Signature)

/-- The threads as a site. -/
def site : Site Signature where
  checkpoint := threads.checkpoint
  journal := threads.journal
  pipeline := threads.pipeline
  relayed := threads.task.sent
  deliveries := threads.queue
  recording := threads.recording
  replacements := threads.replacements
  shipped := threads.shipped

/-- The files and the pipeline of a site. -/
def update (site : Site Signature) : Threads Signature :=
  { threads with
    checkpoint := site.checkpoint
    journal := site.journal
    pipeline := site.pipeline
    replacements := site.replacements
    shipped := site.shipped }

/-- The stream's `try_send`, which discards the update when the channel is full
or the task has returned. -/
def trySend (bufferSize : Nat) (update : Update Signature) : Threads Signature :=
  match threads.task with
  | .returned => threads
  | _ =>
      if threads.forwarding.length < bufferSize then
        { threads with
          forwarding := threads.forwarding ++ [update]
          accepted := threads.accepted ++ [update] }
      else threads

end Threads

variable [SignatureText Signature]

/-- What the stream, the forwarding task and Carbon do.  Both channels hold
`bufferSize` updates. -/
inductive Threads.Moves (surroundings : Surroundings) (bufferSize : Nat) :
    Threads Signature → Threads Signature → Prop where
  | stream {threads : Threads Signature} (update : Update Signature)
      (streaming : surroundings.streaming = true) (running : threads.ended = false) :
      Moves surroundings bufferSize threads (threads.trySend bufferSize update)
  | endStream {threads : Threads Signature} :
      Moves surroundings bufferSize threads { threads with ended := true }
  | receive {threads : Threads Signature} {update : Update Signature} {rest : List (Update Signature)}
      (receiving : threads.task = .receiving) (waiting : threads.forwarding = update :: rest) :
      Moves surroundings bufferSize threads { threads with forwarding := rest, task := .sending update }
  | finishForwarding {threads : Threads Signature} (receiving : threads.task = .receiving)
      (empty : threads.forwarding = []) (ended : threads.ended = true) :
      Moves surroundings bufferSize threads { threads with task := .returned }
  | send {threads : Threads Signature} {update : Update Signature}
      (sending : threads.task = .sending update) (isOpen : threads.closed = false)
      (room : threads.pipeline.backlog < bufferSize) :
      Moves surroundings bufferSize threads { threads with
        pipeline := threads.pipeline.send update
        task := .record update.delivery
        relayed := threads.relayed ++ [update] }
  /-- The task returns, and drops its end of the forwarding channel. -/
  | abandon {threads : Threads Signature} {update : Update Signature}
      (sending : threads.task = .sending update) (closed : threads.closed = true) :
      Moves surroundings bufferSize threads { threads with forwarding := [], task := .returned }
  /-- `record` loads the flag. -/
  | load {threads : Threads Signature} {delivery : Signature × Slot}
      (called : threads.task = .recording delivery) :
      Moves surroundings bufferSize threads { threads with
        task := if threads.recording then .queueing delivery else .receiving }
  /-- `record` sends to the queue. -/
  | enqueue {threads : Threads Signature} {delivery : Signature × Slot}
      (flagged : threads.task = .queueing delivery) :
      Moves surroundings bufferSize threads { threads with
        queue := threads.queue ++ [delivery]
        task := .receiving }
  | close {threads : Threads Signature} :
      Moves surroundings bufferSize threads { threads with closed := true }
  | register {threads : Threads Signature} :
      Moves surroundings bufferSize threads { threads with pipeline := threads.pipeline.register }
  | dequeue {threads : Threads Signature} (waiting : threads.pipeline.Waiting)
      (isOpen : threads.closed = false) :
      Moves surroundings bufferSize threads { threads with pipeline := Pipeline.dequeue waiting }
  | ship {threads : Threads Signature} {update : TransactionUpdate Signature} {faults : Faults}
      (busy : threads.pipeline.inFlight = some (.transaction update))
      (admitted : faults ∈ surroundings.faults) :
      Moves surroundings bufferSize threads { threads with
        journal := threads.journal.record faults update.signature update.slot
        shipped := threads.shipped ++ [(update.signature, update.slot)] }
  | finish {threads : Threads Signature} (busy : threads.pipeline.processed < threads.pipeline.received) :
      Moves surroundings bufferSize threads { threads with pipeline := Pipeline.finish busy }

/-! ## The poller's side of the hand-over -/

/-- One access of `DeliveredSignatures` by the poller. -/
inductive Access where
  | tryRecv
  | stopRecording
deriving DecidableEq, Repr

@[reducible] def Access.Response (Signature : Type) : Access → Type
  | .tryRecv => Option (Signature × Slot)
  | .stopRecording => Unit

def tryRecv : Program (Access.Response Signature) (Option (Signature × Slot)) :=
  Program.request Access.tryRecv

/-- One round of the loop of `DeliveredSignatures::drain`. -/
def drain (drained : List (Signature × Slot)) :
    Program (Access.Response Signature) (List (Signature × Slot) ⊕ List (Signature × Slot)) := do
  match ← tryRecv with
  | some delivery => return .inl (drained ++ [delivery])
  | none => return .inr drained

/-- What an access answers and changes. -/
def Threads.Accesses (before after : Threads Signature) :
    (access : Access) → access.Response Signature → Prop
  | .tryRecv, some delivery =>
      ∃ rest, before.queue = delivery :: rest ∧ after = { before with queue := rest }
  | .tryRecv, none => before.queue = [] ∧ after = before
  | .stopRecording, _ => after = { before with recording := false }

def accessEnvironment (surroundings : Surroundings) (bufferSize : Nat) :
    Program.Environment (Access.Response Signature) (Threads Signature) where
  answers before access response after := before.Accesses after access response
  interferes := Threads.Moves surroundings bufferSize

/-- A whole drain, with the moves of the others before, between and after its
accesses. -/
def Threads.Drains (surroundings : Surroundings) (bufferSize : Nat) (before : Threads Signature)
    (drained : List (Signature × Slot)) (after : Threads Signature) : Prop :=
  Program.Reaches (accessEnvironment surroundings bufferSize) drain (fun _ _ _ => True) [] before
    (.done (.inr drained)) after

/-- The answer to a command of the poller, and what it changes. -/
def Threads.Answers (surroundings : Surroundings) (bufferSize : Nat) (before after : Threads Signature) :
    (call : Call Signature) → call.Response → Prop
  | .drainDelivered, drained => before.Drains surroundings bufferSize drained after
  | .stopDelivered, _ => ∃ stopped discarded,
      Program.Executes (accessEnvironment surroundings bufferSize) before [⟨.stopRecording, ()⟩] stopped ∧
        stopped.Drains surroundings bufferSize discarded after
  | .send update, .ok _ => before.closed = false ∧ before.pipeline.backlog < bufferSize ∧
      after = { before with pipeline := before.pipeline.send update }
  | .send _, .error _ => before.closed = true ∧ after = before
  | call, response => ∃ site, before.site.Answers surroundings site call response ∧
      after = before.update site

def threadsEnvironment (surroundings : Surroundings) (bufferSize : Nat) :
    Program.Environment (@Call.Response Signature) (Threads Signature) where
  answers before call response after :=
    call.Answered response ∧ before.Answers surroundings bufferSize after call response
  interferes := Threads.Moves surroundings bufferSize

/-! ## What moves and drains keep -/

section Keeping

variable {surroundings : Surroundings} {bufferSize : Nat} {before after : Threads Signature}
  {drained : List (Signature × Slot)}

omit [SignatureText Signature] in
theorem Threads.trySend_cases (threads : Threads Signature) (bufferSize : Nat) (update : Update Signature) :
    threads.trySend bufferSize update = threads ∨
      threads.task ≠ .returned ∧ threads.forwarding.length < bufferSize ∧
        threads.trySend bufferSize update = { threads with
          forwarding := threads.forwarding ++ [update]
          accepted := threads.accepted ++ [update] } := by
  unfold Threads.trySend
  split
  · exact .inl rfl
  · rename_i running
    split
    · rename_i room
      exact .inr ⟨running, room, rfl⟩
    · exact .inl rfl

theorem Threads.Moves.recording (moves : Threads.Moves surroundings bufferSize before after) :
    after.recording = before.recording := by
  cases moves with
  | stream update streaming running =>
      rcases before.trySend_cases bufferSize update with
        same | ⟨_, _, same⟩ <;> rw [same]
  | _ => rfl

theorem drift_recording (drift : (accessEnvironment surroundings bufferSize).Drifts before after) :
    after.recording = before.recording := by
  induction drift with
  | refl => rfl
  | tail _ move ih => exact move.recording.trans ih

omit [LinearOrder Signature] [SignatureText Signature] in
theorem drain_cases {trace : List (Program.Event (Access.Response Signature))}
    {result : List (Signature × Slot) ⊕ List (Signature × Slot)}
    (run : Program.Run (drain drained) trace result) :
    (∃ delivery, trace = [⟨.tryRecv, some delivery⟩] ∧ result = .inl (drained ++ [delivery])) ∨
      trace = [⟨.tryRecv, none⟩] ∧ result = .inr drained := by
  obtain ⟨first, rest, response, rfl, asks, ends⟩ := Program.run_bind_iff.mp run
  obtain ⟨_, _, rfl, answered⟩ := Program.run_call_iff.mp asks
  obtain ⟨rfl, rfl⟩ := Program.run_done_iff.mp answered
  cases response with
  | some delivery =>
      obtain ⟨rfl, rfl⟩ := Program.run_done_iff.mp ends
      exact .inl ⟨delivery, rfl, rfl⟩
  | none =>
      obtain ⟨rfl, rfl⟩ := Program.run_done_iff.mp ends
      exact .inr ⟨rfl, rfl⟩

variable {assertion : Threads Signature → Prop}
  (moved : ∀ first second, Threads.Moves surroundings bufferSize first second → assertion first →
    assertion second)

include moved in
/-- What every move and every change of the queue keeps, a drain keeps. -/
theorem drains_keep
    (took : ∀ (threads : Threads Signature) queue, assertion threads → assertion { threads with queue })
    (drains : before.Drains surroundings bufferSize drained after) (holds : assertion before) :
    assertion after := by
  have receives : ∀ {first second : Threads Signature} {response : Option (Signature × Slot)},
      Program.Executes (accessEnvironment surroundings bufferSize) first [⟨.tryRecv, response⟩] second →
      assertion first → assertion second := by
    intro first second response execution holds
    obtain ⟨ready, answered, untilReady, access, later⟩ := Program.Simulates.executes_single execution
    have atReady := Program.drifts_keep untilReady moved holds
    refine Program.drifts_keep later moved ?_
    cases response with
    | some delivery =>
        obtain ⟨rest, _, rfl⟩ := access
        exact took ready rest atReady
    | none =>
        obtain ⟨_, rfl⟩ := access
        exact atReady
  obtain ⟨collected, middle, trace, rounds, last, execution⟩ := drains
  have reached : assertion middle := by
    clear last execution
    induction rounds with
    | start => exact holds
    | next _ run execution _ ih =>
        rcases drain_cases run with ⟨delivery, rfl, _⟩ | ⟨rfl, _⟩
        · exact receives execution ih
        · exact receives execution ih
  rcases drain_cases last with ⟨delivery, rfl, _⟩ | ⟨rfl, _⟩
  · exact receives execution reached
  · exact receives execution reached

end Keeping

/-! ## Moves as moves of a site -/

section Refinement

variable {surroundings : Surroundings} {bufferSize : Nat} {threads before after : Threads Signature}
  {site other : Site Signature} {drained : List (Signature × Slot)}

/-- An update is under way only where Yellowstone streams. -/
def Threads.Flows (surroundings : Surroundings) (threads : Threads Signature) : Prop :=
  surroundings.streaming = true ∨ threads.forwarding = [] ∧ threads.task.held = []

/-- A site without the hand-over: only the queue and the flag may differ. -/
def Threads.siteWith (threads : Threads Signature) (deliveries : List (Signature × Slot))
    (recording : Bool) : Site Signature :=
  { threads.site with deliveries, recording }

/-- What a move does to the hand-over: it adds to the queue what a recording site
adds to its deliveries. -/
theorem Threads.Moves.onSite (moves : Threads.Moves surroundings bufferSize before after)
    (flows : before.Flows surroundings) (deliveries : List (Signature × Slot)) (recording : Bool) :
    after.Flows surroundings ∧ after.recording = before.recording ∧ ∃ later,
      (siteEnvironment surroundings).Drifts (before.siteWith deliveries recording)
        (after.siteWith later recording) ∧
      (before.recording = true → recording = true →
        ∃ added, after.queue = before.queue ++ added ∧ later = deliveries ++ added) := by
  have silent : before.recording = true → recording = true →
      ∃ added, before.queue = before.queue ++ added ∧ deliveries = deliveries ++ added :=
    fun _ _ => ⟨[], by simp, by simp⟩
  cases moves with
  | stream update streaming running =>
      rcases before.trySend_cases bufferSize update with
        same | ⟨_, _, same⟩ <;> rw [same] <;>
          exact ⟨.inl streaming, rfl, deliveries, .refl, silent⟩
  | endStream => exact ⟨flows, rfl, deliveries, .refl, silent⟩
  | @receive update rest receiving waiting =>
      have streaming : surroundings.streaming = true := by
        rcases flows with streaming | ⟨empty, _⟩
        · exact streaming
        · rw [waiting] at empty
          contradiction
      have same : before.siteWith deliveries recording =
          Threads.siteWith { before with forwarding := rest, task := .sending update } deliveries
            recording := by
        simp [Threads.siteWith, Threads.site, receiving, Forwarding.sent]
      exact ⟨.inl streaming, rfl, deliveries, same ▸ .refl, silent⟩
  | finishForwarding receiving empty ended =>
      have same : before.siteWith deliveries recording =
          Threads.siteWith { before with task := .returned } deliveries recording := by
        simp [Threads.siteWith, Threads.site, receiving, Forwarding.sent]
      exact ⟨flows.imp_right fun idle => ⟨idle.1, rfl⟩, rfl, deliveries, same ▸ .refl, silent⟩
  | @send update sending isOpen room =>
      have streaming : surroundings.streaming = true := by
        rcases flows with streaming | ⟨_, idle⟩
        · exact streaming
        · rw [sending] at idle
          contradiction
      have recorded : (before.siteWith deliveries recording).relayed = none := by
        simp [Threads.siteWith, Threads.site, sending, Forwarding.sent]
      have relays := Site.Moves.relay update streaming recorded
      refine ⟨.inl streaming, rfl, deliveries, .single ?_, silent⟩
      have same : (before.siteWith deliveries recording).relay update =
          Threads.siteWith { before with
            pipeline := before.pipeline.send update
            task := .record update.delivery
            relayed := before.relayed ++ [update] } deliveries recording := by
        simp [Threads.siteWith, Threads.site, Site.relay, Site.send]
      exact same ▸ relays
  | abandon sending closed =>
      have same : before.siteWith deliveries recording =
          Threads.siteWith { before with forwarding := [], task := .returned } deliveries recording := by
        simp [Threads.siteWith, Threads.site, sending, Forwarding.sent]
      exact ⟨.inr ⟨rfl, rfl⟩, rfl, deliveries, same ▸ .refl, silent⟩
  | @load delivery called =>
      have relayed : (before.siteWith deliveries recording).relayed = some delivery := by
        simp [Threads.siteWith, Threads.site, called, Forwarding.sent]
      have still : ∀ task : Forwarding Signature, task.held = [] →
          Threads.Flows surroundings { before with task } := by
        intro task idle
        exact flows.imp_right fun quiet => ⟨quiet.1, idle⟩
      cases flag : before.recording with
      | true =>
          have same : before.siteWith deliveries recording =
              Threads.siteWith { before with task := .queueing delivery } deliveries recording := by
            simp [Threads.siteWith, Threads.site, called, Forwarding.sent]
          refine ⟨still _ rfl, rfl, deliveries, ?_, fun _ flagged => silent flag flagged⟩
          exact same ▸ .refl
      | false =>
          refine ⟨still _ rfl, rfl, _, .single (Site.Moves.deliver relayed), fun impossible => ?_⟩
          contradiction
  | @enqueue delivery flagged =>
      have relayed : (before.siteWith deliveries recording).relayed = some delivery := by
        simp [Threads.siteWith, Threads.site, flagged, Forwarding.sent]
      refine ⟨flows.imp_right fun quiet => ⟨quiet.1, rfl⟩, rfl, _,
        .single (Site.Moves.deliver relayed), fun _ recorded => ⟨[delivery], rfl, ?_⟩⟩
      exact if_pos recorded
  | close => exact ⟨flows, rfl, deliveries, .refl, silent⟩
  | register => exact ⟨flows, rfl, deliveries, .single .register, silent⟩
  | dequeue waiting isOpen => exact ⟨flows, rfl, deliveries, .single (.dequeue waiting), silent⟩
  | @ship update faults busy admitted =>
      have ships : Site.Moves surroundings (before.siteWith deliveries recording) _ :=
        .ship busy admitted
      exact ⟨flows, rfl, deliveries, .single ships, silent⟩
  | finish busy => exact ⟨flows, rfl, deliveries, .single (.finish busy), silent⟩

/-! ## Drains as one step -/

/-- The site is what the threads share, with what a drain under way has taken. -/
structure Mirrors (surroundings : Surroundings) (drained : List (Signature × Slot))
    (threads : Threads Signature) (site : Site Signature) : Prop where
  site : site = threads.siteWith (drained ++ threads.queue) true
  recording : threads.recording = true
  flows : threads.Flows surroundings

/-- The site agrees with the threads but for its deliveries and its flag. -/
structure Follows (surroundings : Surroundings) (threads : Threads Signature) (site : Site Signature) :
    Prop where
  site : ∃ deliveries recording, site = threads.siteWith deliveries recording
  flows : threads.Flows surroundings

omit [SignatureText Signature] in
theorem Mirrors.follows (mirrors : Mirrors surroundings drained threads site) :
    Follows surroundings threads site := ⟨⟨_, _, mirrors.site⟩, mirrors.flows⟩

theorem Mirrors.moved (mirrors : Mirrors surroundings drained before site)
    (moves : Threads.Moves surroundings bufferSize before after) :
    ∃ later, (siteEnvironment surroundings).Drifts site later ∧
      Mirrors surroundings drained after later := by
  obtain ⟨flows, same, later, drifts, adds⟩ :=
    moves.onSite mirrors.flows (drained ++ before.queue) true
  obtain ⟨added, queue, rfl⟩ := adds mirrors.recording rfl
  refine ⟨_, mirrors.site ▸ drifts, ?_, same.trans mirrors.recording, flows⟩
  rw [queue, List.append_assoc]

theorem Follows.moved (follows : Follows surroundings before site)
    (moves : Threads.Moves surroundings bufferSize before after) :
    ∃ later, (siteEnvironment surroundings).Drifts site later ∧ Follows surroundings after later := by
  obtain ⟨deliveries, recording, rfl⟩ := follows.site
  obtain ⟨flows, _, later, drifts, _⟩ := moves.onSite follows.flows deliveries recording
  exact ⟨_, drifts, ⟨later, recording, rfl⟩, flows⟩

theorem Mirrors.drift (mirrors : Mirrors surroundings drained before site)
    (drift : (accessEnvironment surroundings bufferSize).Drifts before after) :
    ∃ later, (siteEnvironment surroundings).Drifts site later ∧
      Mirrors surroundings drained after later := by
  induction drift with
  | refl => exact ⟨site, .refl, mirrors⟩
  | tail _ move ih =>
      obtain ⟨middle, earlier, still⟩ := ih
      obtain ⟨later, drifts, mirrored⟩ := still.moved move
      exact ⟨later, earlier.trans drifts, mirrored⟩

/-- A drain takes effect where it finds the queue empty: by then the site would
have handed over what the drain has collected. -/
theorem Mirrors.drains (mirrors : Mirrors surroundings [] before site)
    (drains : before.Drains surroundings bufferSize drained after) :
    ∃ ready later, (siteEnvironment surroundings).Drifts site ready ∧ drained = ready.deliveries ∧
      (siteEnvironment surroundings).Drifts { ready with deliveries := [] } later ∧
      Mirrors surroundings [] after later := by
  obtain ⟨collected, middle, trace, rounds, last, execution⟩ := drains
  have reached : ∃ later, (siteEnvironment surroundings).Drifts site later ∧
      Mirrors surroundings collected middle later := by
    clear last execution
    induction rounds with
    | start => exact ⟨site, .refl, mirrors⟩
    | @next collected _ _ _ _ _ run execution _ ih =>
        obtain ⟨later, drifts, mirrored⟩ := ih
        rcases drain_cases run with ⟨delivery, rfl, same⟩ | ⟨_, impossible⟩
        · cases same
          obtain ⟨ready, answered, untilReady, ⟨rest, waiting, rfl⟩, after⟩ :=
            Program.Simulates.executes_single execution
          obtain ⟨atReady, arrives, still⟩ := mirrored.drift untilReady
          have taken : Mirrors surroundings (collected ++ [delivery]) { ready with queue := rest }
              atReady := by
            refine ⟨?_, still.recording, still.flows⟩
            rw [still.site, waiting, List.append_cons]
            rfl
          obtain ⟨final, afterwards, ends⟩ := taken.drift after
          exact ⟨final, (drifts.trans arrives).trans afterwards, ends⟩
        · contradiction
  obtain ⟨later, drifts, mirrored⟩ := reached
  rcases drain_cases last with ⟨_, _, impossible⟩ | ⟨rfl, same⟩
  · contradiction
  · cases same
    obtain ⟨ready, answered, untilReady, ⟨empty, same⟩, after⟩ :=
      Program.Simulates.executes_single execution
    rw [same] at after
    obtain ⟨atReady, arrives, still⟩ := mirrored.drift untilReady
    have emptied : Mirrors surroundings [] ready { atReady with deliveries := [] } := by
      refine ⟨?_, still.recording, still.flows⟩
      rw [still.site, empty]
      rfl
    obtain ⟨final, afterwards, ends⟩ := emptied.drift after
    refine ⟨atReady, final, drifts.trans arrives, ?_, afterwards, ends⟩
    rw [still.site, empty]
    simp [Threads.siteWith]

/-- The site follows once its own parties have moved. -/
def Trails (surroundings : Surroundings) (site : Site Signature) (threads : Threads Signature) : Prop :=
  ∃ later, (siteEnvironment surroundings).Drifts site later ∧ Follows surroundings threads later

theorem Trails.moved (first second : Threads Signature)
    (moves : Threads.Moves surroundings bufferSize first second) (trails : Trails surroundings site first) :
    Trails surroundings site second := by
  obtain ⟨later, drifts, follows⟩ := trails
  obtain ⟨next, more, still⟩ := follows.moved moves
  exact ⟨next, drifts.trans more, still⟩

theorem Trails.access (trails : Trails surroundings site threads) (queue : List (Signature × Slot))
    (recording : Bool) : Trails surroundings site { threads with queue, recording } := by
  obtain ⟨later, drifts, ⟨deliveries, flag, rfl⟩, flows⟩ := trails
  exact ⟨_, drifts, ⟨deliveries, flag, rfl⟩, flows⟩

/-! ## The other commands -/

/-- A command that is not about the hand-over. -/
def Call.Apart : Call Signature → Prop
  | .drainDelivered => False
  | .stopDelivered => False
  | _ => True

/-- Such a command is answered alike whatever was handed over. -/
theorem Site.Answers.apart {call : Call Signature} {response : call.Response} (apart : call.Apart)
    (answers : site.Answers surroundings other call response) (deliveries : List (Signature × Slot))
    (recording : Bool) :
    other.relayed = site.relayed ∧
      ({ site with deliveries, recording } : Site Signature).Answers surroundings
        { other with deliveries, recording } call response := by
  cases call with
  | drainDelivered => exact apart.elim
  | stopDelivered => exact apart.elim
  | rpc call =>
      cases call with
      | getGenesisHash =>
          cases response with
          | error error =>
              obtain rfl := answers
              exact ⟨rfl, rfl⟩
          | ok genesisHash =>
              obtain ⟨same, rfl⟩ := answers
              exact ⟨rfl, same, rfl⟩
      | _ =>
          obtain rfl := answers
          exact ⟨rfl, rfl⟩
  | send update =>
      cases response with
      | error error =>
          obtain rfl := answers
          exact ⟨rfl, rfl⟩
      | ok _ =>
          obtain rfl := answers
          exact ⟨rfl, rfl⟩
  | channelEmpty =>
      obtain ⟨empty, rfl⟩ := answers
      exact ⟨rfl, empty, rfl⟩
  | counter name =>
      obtain ⟨count, rfl⟩ := answers
      exact ⟨rfl, count, rfl⟩
  | readCheckpoint =>
      cases response with
      | error error =>
          obtain rfl := answers
          exact ⟨rfl, rfl⟩
      | ok content =>
          obtain ⟨same, rfl⟩ := answers
          exact ⟨rfl, same, rfl⟩
  | installCheckpoint encoded =>
      cases response with
      | error error =>
          rcases answers with rfl | rfl
          · exact ⟨rfl, .inl rfl⟩
          · exact ⟨rfl, .inr rfl⟩
      | ok _ =>
          obtain rfl := answers
          exact ⟨rfl, rfl⟩
  | moveCorruptCheckpoint =>
      cases response with
      | error error =>
          rcases answers with rfl | rfl
          · exact ⟨rfl, .inl rfl⟩
          · exact ⟨rfl, .inr rfl⟩
      | ok _ =>
          obtain rfl := answers
          exact ⟨rfl, rfl⟩
  | restoreShipped identity =>
      obtain ⟨faults, admitted, entries, rfl⟩ := answers
      exact ⟨rfl, faults, admitted, entries, rfl⟩
  | discardShipped identity =>
      obtain ⟨faults, admitted, rfl⟩ := answers
      exact ⟨rfl, faults, admitted, rfl⟩
  | compactShipped minimumSlot =>
      obtain ⟨faults, admitted, rfl⟩ := answers
      exact ⟨rfl, faults, admitted, rfl⟩
  | _ =>
      obtain rfl := answers
      exact ⟨rfl, rfl⟩

theorem Threads.Answers.onSite {call : Call Signature} {response : call.Response} (apart : call.Apart)
    (answers : before.Answers surroundings bufferSize after call response)
    (deliveries : List (Signature × Slot)) (recording : Bool) :
    (before.siteWith deliveries recording).Answers surroundings (after.siteWith deliveries recording)
        call response ∧
      after.queue = before.queue ∧ after.recording = before.recording ∧
      after.forwarding = before.forwarding ∧ after.task = before.task := by
  have others : (∃ site, before.site.Answers surroundings site call response ∧
      after = before.update site) → (before.siteWith deliveries recording).Answers surroundings
        (after.siteWith deliveries recording) call response ∧
      after.queue = before.queue ∧ after.recording = before.recording ∧
      after.forwarding = before.forwarding ∧ after.task = before.task := by
    rintro ⟨site, answered, rfl⟩
    obtain ⟨relayed, same⟩ := answered.apart apart deliveries recording
    have after : Threads.siteWith (before.update site) deliveries recording =
        { site with deliveries, recording } := by
      simp [Threads.siteWith, Threads.site, Threads.update, relayed]
    rw [after]
    exact ⟨same, rfl, rfl, rfl, rfl⟩
  cases call with
  | drainDelivered => exact apart.elim
  | stopDelivered => exact apart.elim
  | send update =>
      cases response with
      | error error =>
          obtain ⟨_, rfl⟩ := answers
          exact ⟨rfl, rfl, rfl, rfl, rfl⟩
      | ok _ =>
          obtain ⟨_, _, rfl⟩ := answers
          exact ⟨rfl, rfl, rfl, rfl, rfl⟩
  | _ => exact others answers

/-! ## Simulations -/

/-- Until the poller stops the hand-over, the threads behave as the site they
are. -/
theorem mirrors_simulates : Program.Simulates (threadsEnvironment surroundings bufferSize)
    (siteEnvironment surroundings) (fun call : Call Signature => ¬call = .stopDelivered)
    (Mirrors surroundings []) where
  answered := by
    rintro first second call response site continues mirrors ⟨answered, answers⟩
    by_cases apart : call.Apart
    · obtain ⟨same, queue, recording, forwarding, task⟩ := answers.onSite apart ([] ++ first.queue) true
      refine ⟨site, _, _, .refl, ⟨answered, mirrors.site ▸ same⟩, .refl, ?_⟩
      refine ⟨?_, recording.trans mirrors.recording, ?_⟩
      · rw [queue]
      · unfold Threads.Flows
        rw [forwarding, task]
        exact mirrors.flows
    · cases call with
      | drainDelivered =>
          obtain ⟨ready, later, drifts, handed, afterwards, ends⟩ := mirrors.drains answers
          exact ⟨ready, _, later, drifts, ⟨answered, handed, rfl⟩, afterwards, ends⟩
      | stopDelivered => exact absurd rfl continues
      | _ => exact absurd trivial apart
  moved := fun mirrors moves => mirrors.moved moves

/-- As long as the poller drains nothing, the threads behave as a site. -/
theorem follows_simulates : Program.Simulates (threadsEnvironment surroundings bufferSize)
    (siteEnvironment surroundings) (fun call : Call Signature => ¬call = .drainDelivered)
    (Follows surroundings) where
  answered := by
    rintro first second call response site continues follows ⟨answered, answers⟩
    by_cases apart : call.Apart
    · obtain ⟨deliveries, recording, rfl⟩ := follows.site
      obtain ⟨same, _, _, forwarding, task⟩ := answers.onSite apart deliveries recording
      refine ⟨_, _, _, .refl, ⟨answered, same⟩, .refl, ⟨deliveries, recording, rfl⟩, ?_⟩
      unfold Threads.Flows
      rw [forwarding, task]
      exact follows.flows
    · cases call with
      | drainDelivered => exact absurd rfl continues
      | stopDelivered =>
          obtain ⟨stopped, discarded, stops, drains⟩ := answers
          obtain ⟨ready, _, untilReady, rfl, after⟩ := Program.Simulates.executes_single stops
          have trails : Trails surroundings site ready :=
            Program.drifts_keep untilReady Trails.moved ⟨site, .refl, follows⟩
          have cleared := Program.drifts_keep after Trails.moved (trails.access ready.queue false)
          obtain ⟨later, drifts, ⟨deliveries, recording, rfl⟩, flows⟩ := drains_keep Trails.moved
            (fun threads queue trails => trails.access queue threads.recording) drains cleared
          exact ⟨_, _, _, drifts, ⟨trivial, rfl⟩, .refl, ⟨[], false, rfl⟩, flows⟩
      | _ => exact absurd trivial apart
  moved := fun follows moves => follows.moved moves

end Refinement

/-! ## The refinement -/

section Runs

variable {surroundings : Surroundings} {bufferSize : Nat} {threads before after : Threads Signature}
  {drained : List (Signature × Slot)} {codec : JsonCodec} {datasource : RpcPollingDatasource}
  {addresses : List Address} {pages : Nat} {trace : List (CallEvent Signature)}

theorem Threads.Drains.recording (drains : before.Drains surroundings bufferSize drained after) :
    after.recording = before.recording := by
  let same (threads : Threads Signature) : Prop := threads.recording = before.recording
  have moved : ∀ first second : Threads Signature, Threads.Moves surroundings bufferSize first second →
      same first → same second := fun _ _ moves flag => moves.recording.trans flag
  have kept : same after := drains_keep moved (fun _ _ flag => flag) drains rfl
  exact kept

theorem Threads.Answers.stopped {call : Call Signature} {response : call.Response}
    (answers : before.Answers surroundings bufferSize after call response)
    (stopped : before.recording = false ∨ call = .stopDelivered) : after.recording = false := by
  by_cases apart : call.Apart
  · obtain ⟨_, _, same, _⟩ := answers.onSite apart [] true
    rcases stopped with stopped | rfl
    · exact same.trans stopped
    · exact apart.elim
  · cases call with
    | drainDelivered =>
        rcases stopped with stopped | impossible
        · exact (Threads.Drains.recording answers).trans stopped
        · contradiction
    | stopDelivered =>
        obtain ⟨middle, _, stops, drains⟩ := answers
        obtain ⟨_, _, _, rfl, later⟩ := Program.Simulates.executes_single stops
        exact drains.recording.trans (drift_recording later)
    | _ => exact absurd trivial apart

/-- After the poller has stopped the hand-over, it stays off. -/
theorem executes_stopped
    (execution : Program.Executes (threadsEnvironment surroundings bufferSize) before trace after)
    (stopped : before.recording = false) : after.recording = false := by
  refine execution.follows (fun first second : Threads Signature =>
      first.recording = false → second.recording = false)
    (fun _ same => same) (fun earlier later off => later (earlier off)) ?_ ?_ stopped
  · intro first call response second answers stopped
    exact answers.2.stopped (.inl stopped)
  · intro first second moves stopped
    exact moves.recording.trans stopped

/-- What a process does while its threads interleave, the process of the site
model does as well: the same complete rounds with the same commands and answers,
the same part of the round it is in, and the same files, pipeline and shipped
transactions.  As long as deliveries are recorded, the site is what the threads
share. -/
theorem threads_refine_sites {checkpoint : Option Bytes} {file : Option (List Char)}
    {history : List (Consumption Signature × List (CallEvent Signature))}
    {trace : List (CallEvent Signature)} {control : Task Signature (Consumption Signature ⊕ Stopped)}
    (traces : Program.Traces (threadsEnvironment surroundings bufferSize)
      (consume codec datasource addresses pages) .readingGenesisHash (.boot checkpoint file) history trace
      control threads) :
    ∃ site : Site Signature,
      Program.Traces (siteEnvironment surroundings) (consume codec datasource addresses pages)
        .readingGenesisHash (.boot checkpoint file) history trace control site ∧
      site = threads.siteWith site.deliveries site.recording ∧
      (threads.recording = true → site = threads.site) := by
  obtain ⟨loop, middle, rounds, reached, execution⟩ := traces
  have boots : Mirrors surroundings [] (.boot checkpoint file : Threads Signature) (.boot checkpoint file) :=
    ⟨rfl, rfl, .inr ⟨rfl, rfl⟩⟩
  obtain ⟨atMiddle, siteRounds, mirrors⟩ :=
    mirrors_simulates.history (fun _ _ _ run => consume_continues run) boots rounds
  rcases consume_parks.advances reached with
    runs | ⟨first, ⟨closing, response⟩, last, rfl, closes, runs, quiet, _⟩
  · obtain ⟨site, executes, ends⟩ := mirrors_simulates.executes runs mirrors execution
    have same : site = threads.site := by
      rw [ends.site, Threads.siteWith, ← ends.recording]
      rfl
    exact ⟨site, ⟨loop, atMiddle, siteRounds, reached, executes⟩, by rw [same]; rfl, fun _ => same⟩
  · obtain ⟨atStop, earlier, later⟩ := execution.split
    obtain ⟨siteAtStop, executes, ends⟩ := mirrors_simulates.executes runs mirrors earlier
    have noDrain : ∀ event ∈ (⟨closing, response⟩ :: last : List (CallEvent Signature)),
        ¬event.1 = .drainDelivered := by
      intro event member
      rcases List.mem_cons.mp member with rfl | member
      · rw [closes]
        simp
      · exact quiet event member
    obtain ⟨site, afterwards, follows⟩ := follows_simulates.executes noDrain ends.follows later
    have off : threads.recording = false := by
      cases later with
      | step drift answer rest => exact executes_stopped rest (answer.2.stopped (.inr closes))
    refine ⟨site, ⟨loop, atMiddle, siteRounds, reached, executes.append afterwards⟩, ?_, ?_⟩
    · obtain ⟨deliveries, recording, rfl⟩ := follows.site
      rfl
    · intro impossible
      rw [off] at impossible
      contradiction

end Runs

/-- An update that is streamed while nothing is under way reaches the pipeline. -/
theorem drifts_relay {surroundings : Surroundings} {bufferSize : Nat} {threads : Threads Signature}
    (update : TransactionUpdate Signature) (streams : surroundings.streaming = true)
    (running : threads.ended = false) (isOpen : threads.closed = false)
    (receiving : threads.task = .receiving) (empty : threads.forwarding = [])
    (room : threads.pipeline.backlog < bufferSize) :
    (threadsEnvironment surroundings bufferSize).Drifts threads { threads with
      pipeline := threads.pipeline.send (.transaction update)
      forwarding := []
      task := .recording (update.signature, update.slot)
      accepted := threads.accepted ++ [.transaction update]
      relayed := threads.relayed ++ [.transaction update] } := by
  have fits : threads.forwarding.length < bufferSize := by
    rw [empty]
    exact Nat.zero_lt_of_lt room
  have accepts : threads.trySend bufferSize (.transaction update) = { threads with
      forwarding := [.transaction update]
      accepted := threads.accepted ++ [.transaction update] } := by
    simp [Threads.trySend, receiving, empty, Nat.zero_lt_of_lt room]
  have streamed : Threads.Moves surroundings bufferSize threads _ :=
    .stream (.transaction update) streams running
  rw [accepts] at streamed
  have received : Threads.Moves surroundings bufferSize { threads with
      forwarding := [.transaction update]
      accepted := threads.accepted ++ [.transaction update] } _ := .receive receiving rfl
  exact ((Relation.ReflTransGen.single streamed).tail received).tail (.send rfl isOpen room)

/-! The second of two deliveries arrives while the first is drained. -/

theorem relayedSlot_le : 95 ≤ u64Max := by decide

def relayedUpdate (signature : Fin 58) : TransactionUpdate (Fin 58) where
  signature := signature
  slot := 95
  blockTime := none
  slot_lt := relayedSlot_le

def streaming : Surroundings where
  genesisHash := "genesis"
  streaming := true
  faults := {noFaults}

def streamingDatasource : RpcPollingDatasource := { sampleDatasource with delivered := true }

def startedThreads : Threads (Fin 58) :=
  { Threads.boot none none with
    journal := ({ file := none } : Journal (Fin 58)).discard noFaults
      (journalIdentity streamingDatasource ["program"] "genesis") }

/-- The second delivery is sent and not queued yet. -/
def relayingThreads : Threads (Fin 58) :=
  { startedThreads with
    pipeline := (Pipeline.idle.send (.transaction (relayedUpdate 1))).send (.transaction (relayedUpdate 2))
    task := .queueing (2, 95)
    queue := [(1, 95)]
    accepted := [.transaction (relayedUpdate 1), .transaction (relayedUpdate 2)]
    relayed := [.transaction (relayedUpdate 1), .transaction (relayedUpdate 2)] }

def relayedThreads : Threads (Fin 58) := { relayingThreads with task := .receiving, queue := [] }

theorem drifts_relaying : (threadsEnvironment streaming 4).Drifts startedThreads relayingThreads := by
  have first : (threadsEnvironment streaming 4).Drifts startedThreads _ :=
    drifts_relay (relayedUpdate 1) rfl rfl rfl rfl rfl (by decide)
  have queued := (first.tail (.load rfl)).tail (.enqueue rfl)
  exact (queued.trans (drifts_relay (relayedUpdate 2) rfl rfl rfl rfl rfl (by decide))).tail (.load rfl)

theorem drains_relaying :
    relayingThreads.Drains streaming 4 [(1, 95), (2, 95)] relayedThreads := by
  refine ⟨[(1, 95), (2, 95)], relayedThreads, [⟨.tryRecv, none⟩], ?_, .step (.start _),
    .step .refl ⟨rfl, rfl⟩ (.idle .refl)⟩
  have first : Program.Executes (accessEnvironment streaming 4) relayingThreads
      [⟨.tryRecv, some (1, 95)⟩] { relayingThreads with queue := [] } :=
    .step .refl ⟨[], rfl, rfl⟩ (.idle .refl)
  have second : Program.Executes (accessEnvironment streaming 4) { relayingThreads with queue := [] }
      [⟨.tryRecv, some (2, 95)⟩] relayedThreads :=
    .step (.single (.enqueue rfl)) ⟨[], rfl, rfl⟩ (.idle .refl)
  exact (Program.Rounds.start.next (.step (.start _)) first trivial).next (.step (.start _)) second trivial

/-- The identity of the sample deployment. -/
def relayingLoop : PollingLoop (Fin 58) :=
  beginPolling (streamingDatasource.checkpointStore streamingDatasource.checkpointPath "genesis" ["program"])
    {}

def relayingStart : List (CallEvent (Fin 58)) :=
  [⟨.rpc .getGenesisHash, .ok "genesis"⟩, ⟨.readCheckpoint, .ok none⟩,
    ⟨.discardShipped (journalIdentity streamingDatasource ["program"] "genesis"), ()⟩]

def relayingTurn : List (CallEvent (Fin 58)) :=
  [⟨.cancelled, false⟩, ⟨.now, 0⟩, ⟨.countCorruptCheckpoints, .ok 0⟩, ⟨.channelEmpty, true⟩,
    ⟨.receivedCounterFirst, true⟩, ⟨.counter .updatesReceived, none⟩, ⟨.counter .updatesProcessed, none⟩,
    ⟨.drainDelivered, [(1, 95), (2, 95)]⟩]

theorem executes_relayingStart : Program.Executes (threadsEnvironment streaming 4) (.boot none none)
    relayingStart startedThreads := by
  refine .step .refl ⟨trivial, _, ⟨rfl, rfl⟩, rfl⟩ ?_
  refine .step .refl ⟨trivial, _, ⟨rfl, rfl⟩, rfl⟩ ?_
  exact .step .refl ⟨trivial, _, ⟨noFaults, rfl, rfl⟩, rfl⟩ (.idle .refl)

theorem executes_relayingTurn : Program.Executes (threadsEnvironment streaming 4) startedThreads relayingTurn
    relayedThreads := by
  have bounded : ∀ delivery ∈ ([(1, 95), (2, 95)] : List (Fin 58 × Slot)), delivery.2 ≤ u64Max := by
    decide
  refine .step .refl ⟨trivial, _, rfl, rfl⟩ (.step .refl ⟨trivial, _, rfl, rfl⟩ ?_)
  refine .step .refl ⟨trivial, _, rfl, rfl⟩ (.step .refl ⟨trivial, _, ⟨rfl, rfl⟩, rfl⟩ ?_)
  refine .step .refl ⟨trivial, _, rfl, rfl⟩ (.step .refl ⟨trivial, _, ⟨rfl, rfl⟩, rfl⟩ ?_)
  refine .step .refl ⟨trivial, _, ⟨rfl, rfl⟩, rfl⟩ ?_
  exact .step drifts_relaying ⟨bounded, drains_relaying⟩ (.idle .refl)

theorem relaying_traces : ∃ control,
    Program.Traces (threadsEnvironment streaming 4) (consume durableCodec streamingDatasource ["program"] 1)
      .readingGenesisHash (.boot none none) [(.readingGenesisHash, relayingStart)] relayingTurn control
      relayedThreads := by
  have startsUp : Program.Run (consume durableCodec streamingDatasource ["program"] 1 .readingGenesisHash)
      relayingStart (.inl (.polling relayingLoop)) := .step (.step (.step (.start _)))
  have advances : ∃ control, Program.Advances
      (consume durableCodec streamingDatasource ["program"] 1 (.polling relayingLoop)) relayingTurn control :=
    ⟨_, .step (.step (.step (.step (.step (.step (.step (.step (.start _))))))))⟩
  obtain ⟨control, advanced⟩ := advances
  exact ⟨control, .polling relayingLoop, startedThreads, .next .start startsUp executes_relayingStart,
    advanced, executes_relayingTurn⟩

theorem threads_refine_sites_relaying : ∃ history control site, relayedThreads.relayed.length = 2 ∧
    Program.Traces (threadsEnvironment streaming 4) (consume durableCodec streamingDatasource ["program"] 1)
      .readingGenesisHash (.boot none none) history relayingTurn control relayedThreads ∧
    Program.Traces (siteEnvironment streaming) (consume durableCodec streamingDatasource ["program"] 1)
      .readingGenesisHash (.boot none none) history relayingTurn control site ∧
    site = relayedThreads.site := by
  obtain ⟨control, loop, before, rounds, reached, execution⟩ := relaying_traces
  obtain ⟨site, traced, _, same⟩ := threads_refine_sites ⟨loop, before, rounds, reached, execution⟩
  exact ⟨_, control, site, rfl, ⟨loop, before, rounds, reached, execution⟩, traced, same rfl⟩

end Microscope.Polling
