import Microscope.Polling.Completion
import Microscope.Polling.Turns
import Microscope.Shipped.Contents

namespace Microscope.Polling

open Std Microscope.Data Microscope.Shipped

/-! # The processes of a deployment

The poller shares its process with Carbon's consumer and with the relay of the
Yellowstone stream, which move between its commands.  A process that is killed
leaves the checkpoint file and the journal file to the next one.
-/

variable {Signature : Type}

/-! ## The pipeline -/

/-- The update channel and the two counters of its consumer.  The updates from
`received` on are still in the channel, those before `processed` are done. -/
structure Pipeline (Signature : Type) where
  sent : List (Update Signature)
  received : Nat
  processed : Nat
  registered : Bool
  received_le : received ≤ sent.length
  processed_le : processed ≤ received
  sequential : received ≤ processed + 1
  counted : registered = false → received = 0

namespace Pipeline

theorem nothing_counted (registered : Bool) : registered = false → 0 = 0 := fun _ => rfl

def idle : Pipeline Signature where
  sent := []
  received := 0
  processed := 0
  registered := false
  received_le := Nat.le_refl 0
  processed_le := Nat.le_refl 0
  sequential := Nat.zero_le 1
  counted := nothing_counted false

variable (pipeline : Pipeline Signature)

theorem received_le_send (update : Update Signature) :
    pipeline.received ≤ (pipeline.sent ++ [update]).length := by
  have received := pipeline.received_le
  rw [List.length_append]
  omega

def send (update : Update Signature) : Pipeline Signature :=
  { pipeline with sent := pipeline.sent ++ [update], received_le := pipeline.received_le_send update }

theorem registered_counted : true = false → pipeline.received = 0 := by
  intro impossible
  contradiction

/-- The consumer registers its counters before it takes an update. -/
def register : Pipeline Signature :=
  { pipeline with registered := true, counted := pipeline.registered_counted }

/-- The consumer is not busy, and an update waits in the channel. -/
structure Waiting : Prop where
  registered : pipeline.registered = true
  finished : pipeline.processed = pipeline.received
  waiting : pipeline.received < pipeline.sent.length

section Consumer

variable {pipeline}

theorem Waiting.processed_le (waiting : pipeline.Waiting) :
    pipeline.processed ≤ pipeline.received + 1 := by
  have finished := waiting.finished
  omega

theorem Waiting.sequential (waiting : pipeline.Waiting) :
    pipeline.received + 1 ≤ pipeline.processed + 1 := by
  have finished := waiting.finished
  omega

theorem Waiting.counted (waiting : pipeline.Waiting) :
    pipeline.registered = false → pipeline.received + 1 = 0 := by
  intro unregistered
  rw [waiting.registered] at unregistered
  contradiction

/-- The consumer takes the next update and counts it as received. -/
def dequeue (waiting : pipeline.Waiting) : Pipeline Signature :=
  { pipeline with
    received := pipeline.received + 1
    received_le := waiting.waiting
    processed_le := waiting.processed_le
    sequential := waiting.sequential
    counted := waiting.counted }

theorem sequential_finish : pipeline.received ≤ pipeline.processed + 1 + 1 :=
  pipeline.sequential.trans (Nat.le_succ _)

/-- The consumer has processed the update it took. -/
def finish (busy : pipeline.processed < pipeline.received) : Pipeline Signature :=
  { pipeline with
    processed := pipeline.processed + 1
    processed_le := busy
    sequential := sequential_finish }

end Consumer

def isEmpty : Bool := pipeline.received = pipeline.sent.length

def counter : CarbonCounter → Option Nat
  | .updatesReceived => if pipeline.registered then some pipeline.received else none
  | .updatesProcessed => if pipeline.registered then some pipeline.processed else none

/-- The updates the consumer has finished processing. -/
def finished : List (Update Signature) := pipeline.sent.take pipeline.processed

/-- The update the consumer is processing. -/
def inFlight : Option (Update Signature) :=
  if pipeline.processed < pipeline.received then pipeline.sent[pipeline.processed]? else none

/-- The pipeline at a later moment. -/
structure Grows (first second : Pipeline Signature) : Prop where
  sent : first.sent <+: second.sent
  received : first.received ≤ second.received
  processed : first.processed ≤ second.processed

variable {pipeline} {first second third final : Pipeline Signature}

theorem Grows.refl : Grows pipeline pipeline := ⟨List.prefix_rfl, Nat.le_refl _, Nat.le_refl _⟩

theorem Grows.trans (earlier : Grows first second) (later : Grows second third) :
    Grows first third where
  sent := earlier.sent.trans later.sent
  received := earlier.received.trans later.received
  processed := earlier.processed.trans later.processed

theorem grows_send {update : Update Signature} : Grows pipeline (pipeline.send update) :=
  ⟨List.prefix_append _ _, Nat.le_refl _, Nat.le_refl _⟩

theorem grows_register : Grows pipeline pipeline.register :=
  ⟨List.prefix_rfl, Nat.le_refl _, Nat.le_refl _⟩

theorem grows_dequeue (waiting : pipeline.Waiting) : Grows pipeline (dequeue waiting) :=
  ⟨List.prefix_rfl, Nat.le_succ _, Nat.le_refl _⟩

theorem grows_finish (busy : pipeline.processed < pipeline.received) :
    Grows pipeline (finish busy) :=
  ⟨List.prefix_rfl, Nat.le_refl _, Nat.le_succ _⟩

theorem Grows.mem_finished {update : Update Signature} (grows : Grows first second)
    (done : update ∈ first.finished) : update ∈ second.finished := by
  obtain ⟨rest, same⟩ := grows.sent
  have within : first.sent.take first.processed <+: second.sent.take second.processed := by
    rw [← same]
    refine ((List.prefix_append first.sent rest).take _).trans ?_
    exact List.take_prefix_take_left grows.processed
  exact within.subset done

/-- Equal counters, both read after the channel was found empty, cover every
update that had been sent by then; in which order they are read does not
matter. -/
theorem sent_finished {atReceived atProcessed : Pipeline Signature} {update : Update Signature}
    (empty : first.isEmpty = true) (received : Grows first atReceived)
    (processed : Grows first atProcessed) (later : Grows atProcessed final)
    (drained : pipelineDrained true (atReceived.counter .updatesReceived)
      (atProcessed.counter .updatesProcessed) = true)
    (sent : update ∈ first.sent) : update ∈ final.finished := by
  have taken : first.received = first.sent.length := of_decide_eq_true empty
  have covered : first.sent.length ≤ atProcessed.processed := by
    have nothing : ∀ pipeline : Pipeline Signature, Grows first pipeline →
        pipeline.registered = false → first.sent.length = 0 := by
      intro pipeline grows unregistered
      have none := pipeline.counted unregistered
      have before := grows.received
      omega
    cases receivedCounted : atReceived.registered with
    | false =>
        rw [nothing atReceived received receivedCounted]
        exact Nat.zero_le _
    | true =>
        cases processedCounted : atProcessed.registered with
        | false =>
            rw [nothing atProcessed processed processedCounted]
            exact Nat.zero_le _
        | true =>
            have equal : atReceived.received = atProcessed.processed := by
              simpa [pipelineDrained, counter, receivedCounted, processedCounted] using drained
            have before := received.received
            omega
  obtain ⟨rest, same⟩ := (processed.trans later).sent
  have within : first.sent.length ≤ final.processed := covered.trans later.processed
  rw [finished, ← same, List.take_append, List.take_of_length_le within]
  exact List.mem_append_left _ sent

end Pipeline

/-! ## Sites -/

/-- What the parties of one process share, and the two files. -/
structure Site (Signature : Type) [LinearOrder Signature] where
  checkpoint : Option Bytes
  journal : Journal Signature
  pipeline : Pipeline Signature
  /-- What the relay has sent and not yet recorded as delivered. -/
  relayed : Option (Signature × Slot)
  deliveries : List (Signature × Slot)
  recording : Bool
  /-- How often this process has replaced the checkpoint file. -/
  replacements : Nat
  /-- What this process has passed to the journal. -/
  shipped : List (Signature × Slot)

variable [LinearOrder Signature]

/-- A process that finds these files. -/
def Site.boot (checkpoint : Option Bytes) (file : Option (List Char)) : Site Signature where
  checkpoint := checkpoint
  journal := { file }
  pipeline := .idle
  relayed := none
  deliveries := []
  recording := true
  replacements := 0
  shipped := []

namespace Site

variable (site : Site Signature)

/-- The process is killed, and another one started. -/
def restart : Site Signature := .boot site.checkpoint site.journal.file

def send (update : Update Signature) : Site Signature :=
  { site with pipeline := site.pipeline.send update }

def install (encoded : Bytes) : Site Signature :=
  { site with checkpoint := some encoded, replacements := site.replacements + 1 }

/-- The relay sends an update, and will record its delivery next. -/
def relay (update : Update Signature) : Site Signature :=
  { site.send update with relayed := update.delivery }

/-- `DeliveredSignatures::record`. -/
def recordDelivery (delivery : Signature × Slot) : Site Signature :=
  { site with
    relayed := none
    deliveries := if site.recording then site.deliveries ++ [delivery] else site.deliveries }

end Site

/-- The cluster, whether Yellowstone streams, and how the journal's file
operations may fail. -/
structure Surroundings where
  genesisHash : String
  streaming : Bool
  faults : Set Faults

variable [SignatureText Signature]

/-- The answer to a command of the poller, and what it changes. -/
def Site.Answers (surroundings : Surroundings) (before after : Site Signature) :
    (call : Call Signature) → call.Response → Prop
  | .rpc .getGenesisHash, .ok genesisHash =>
      genesisHash = surroundings.genesisHash ∧ after = before
  | .drainDelivered, drained =>
      drained = before.deliveries ∧ after = { before with deliveries := [] }
  | .stopDelivered, _ => after = { before with recording := false, deliveries := [] }
  | .send update, .ok _ => after = before.send update
  | .channelEmpty, empty => empty = before.pipeline.isEmpty ∧ after = before
  | .counter name, count => count = before.pipeline.counter name ∧ after = before
  | .readCheckpoint, .ok content => content = before.checkpoint ∧ after = before
  | .installCheckpoint encoded, .ok _ => after = before.install encoded
  | .installCheckpoint encoded, .error _ => after = before ∨ after = before.install encoded
  | .moveCorruptCheckpoint, .ok _ => after = { before with checkpoint := none }
  | .moveCorruptCheckpoint, .error _ => after = before ∨ after = { before with checkpoint := none }
  | .restoreShipped identity, entries => ∃ faults ∈ surroundings.faults,
      entries = (before.journal.restore faults identity).1 ∧
        after = { before with journal := (before.journal.restore faults identity).2 }
  | .discardShipped identity, _ => ∃ faults ∈ surroundings.faults,
      after = { before with journal := before.journal.discard faults identity }
  | .compactShipped minimumSlot, _ => ∃ faults ∈ surroundings.faults,
      after = { before with journal := before.journal.compact faults minimumSlot }
  | _, _ => after = before

/-- What the relay and Carbon do between two commands of the poller. -/
inductive Site.Moves (surroundings : Surroundings) : Site Signature → Site Signature → Prop where
  | relay {site : Site Signature} (update : Update Signature)
      (streaming : surroundings.streaming = true) (recorded : site.relayed = none) :
      Moves surroundings site (site.relay update)
  | deliver {site : Site Signature} {delivery : Signature × Slot}
      (relayed : site.relayed = some delivery) :
      Moves surroundings site (site.recordDelivery delivery)
  | register {site : Site Signature} :
      Moves surroundings site { site with pipeline := site.pipeline.register }
  | dequeue {site : Site Signature} (waiting : site.pipeline.Waiting) :
      Moves surroundings site { site with pipeline := Pipeline.dequeue waiting }
  /-- `ShippedProcessor`, once the records of a transaction are logged. -/
  | ship {site : Site Signature} {update : TransactionUpdate Signature} {faults : Faults}
      (busy : site.pipeline.inFlight = some (.transaction update))
      (admitted : faults ∈ surroundings.faults) :
      Moves surroundings site { site with
        journal := site.journal.record faults update.signature update.slot
        shipped := site.shipped ++ [(update.signature, update.slot)] }
  | finish {site : Site Signature} (busy : site.pipeline.processed < site.pipeline.received) :
      Moves surroundings site { site with pipeline := Pipeline.finish busy }

def siteEnvironment (surroundings : Surroundings) :
    Program.Environment (@Call.Response Signature) (Site Signature) where
  answers before call response after :=
    call.Answered response ∧ before.Answers surroundings after call response
  interferes := Site.Moves surroundings

/-! ## What a command can change -/

section Changes

variable {surroundings : Surroundings} {before after : Site Signature}

/-- What an answer can change besides the two files. -/
structure Site.Changes (before after : Site Signature) (call : Call Signature) : Prop where
  pipeline : after.pipeline = before.pipeline ∨
    ∃ update, call = .send update ∧ after.pipeline = before.pipeline.send update
  relayed : after.relayed = before.relayed
  deliveries : after.deliveries = before.deliveries ∨ after.deliveries = []
  shipped : after.shipped = before.shipped

omit [SignatureText Signature] in
theorem Site.Changes.refl {call : Call Signature} : Site.Changes before before call :=
  ⟨.inl rfl, rfl, .inl rfl, rfl⟩

theorem Site.Answers.changes {call : Call Signature} {response : call.Response}
    (answers : before.Answers surroundings after call response) : before.Changes after call := by
  cases call with
  | rpc call =>
      cases call with
      | getGenesisHash =>
          cases response with
          | error error =>
              obtain rfl := answers
              exact .refl
          | ok genesisHash =>
              obtain ⟨_, rfl⟩ := answers
              exact .refl
      | _ =>
          obtain rfl := answers
          exact .refl
  | drainDelivered =>
      obtain ⟨_, rfl⟩ := answers
      exact ⟨.inl rfl, rfl, .inr rfl, rfl⟩
  | stopDelivered =>
      obtain rfl := answers
      exact ⟨.inl rfl, rfl, .inr rfl, rfl⟩
  | send update =>
      cases response with
      | error error =>
          obtain rfl := answers
          exact .refl
      | ok _ =>
          obtain rfl := answers
          exact ⟨.inr ⟨update, rfl, rfl⟩, rfl, .inl rfl, rfl⟩
  | readCheckpoint =>
      cases response with
      | error error =>
          obtain rfl := answers
          exact .refl
      | ok content =>
          obtain ⟨_, rfl⟩ := answers
          exact .refl
  | installCheckpoint encoded =>
      cases response with
      | error error => rcases answers with rfl | rfl <;> exact ⟨.inl rfl, rfl, .inl rfl, rfl⟩
      | ok _ =>
          obtain rfl := answers
          exact ⟨.inl rfl, rfl, .inl rfl, rfl⟩
  | moveCorruptCheckpoint =>
      cases response with
      | error error => rcases answers with rfl | rfl <;> exact ⟨.inl rfl, rfl, .inl rfl, rfl⟩
      | ok _ =>
          obtain rfl := answers
          exact ⟨.inl rfl, rfl, .inl rfl, rfl⟩
  | restoreShipped identity =>
      obtain ⟨_, _, _, rfl⟩ := answers
      exact ⟨.inl rfl, rfl, .inl rfl, rfl⟩
  | discardShipped identity =>
      obtain ⟨_, _, rfl⟩ := answers
      exact ⟨.inl rfl, rfl, .inl rfl, rfl⟩
  | compactShipped minimumSlot =>
      obtain ⟨_, _, rfl⟩ := answers
      exact ⟨.inl rfl, rfl, .inl rfl, rfl⟩
  | channelEmpty =>
      obtain ⟨_, rfl⟩ := answers
      exact .refl
  | counter name =>
      obtain ⟨_, rfl⟩ := answers
      exact .refl
  | _ =>
      obtain rfl := answers
      exact .refl

/-- What belongs to the files stays as it is. -/
structure Site.SameFiles (before after : Site Signature) : Prop where
  checkpoint : after.checkpoint = before.checkpoint
  replacements : after.replacements = before.replacements
  journal : after.journal = before.journal

theorem Site.Answers.sameFiles {call : Call Signature} {response : call.Response}
    (transient : call.Transient) (answers : before.Answers surroundings after call response) :
    before.SameFiles after := by
  cases call with
  | rpc call =>
      cases call with
      | getGenesisHash =>
          cases response with
          | error error =>
              obtain rfl := answers
              exact ⟨rfl, rfl, rfl⟩
          | ok genesisHash =>
              obtain ⟨_, rfl⟩ := answers
              exact ⟨rfl, rfl, rfl⟩
      | _ =>
          obtain rfl := answers
          exact ⟨rfl, rfl, rfl⟩
  | send update =>
      cases response with
      | error error =>
          obtain rfl := answers
          exact ⟨rfl, rfl, rfl⟩
      | ok _ =>
          obtain rfl := answers
          exact ⟨rfl, rfl, rfl⟩
  | drainDelivered =>
      obtain ⟨_, rfl⟩ := answers
      exact ⟨rfl, rfl, rfl⟩
  | channelEmpty =>
      obtain ⟨_, rfl⟩ := answers
      exact ⟨rfl, rfl, rfl⟩
  | counter name =>
      obtain ⟨_, rfl⟩ := answers
      exact ⟨rfl, rfl, rfl⟩
  | readCheckpoint => exact transient.elim
  | installCheckpoint encoded => exact transient.elim
  | moveCorruptCheckpoint => exact transient.elim
  | restoreShipped identity => exact transient.elim
  | discardShipped identity => exact transient.elim
  | compactShipped minimumSlot => exact transient.elim
  | _ =>
      obtain rfl := answers
      exact ⟨rfl, rfl, rfl⟩

end Changes

end Microscope.Polling
