import Microscope.Data.Action
import Microscope.Polling.Checkpoint

namespace Microscope.Polling

open Std Microscope.Data

/-! # What the poller asks of its surroundings

One command for every operation of the poller task that leaves the task: RPC
requests, the pipeline channel, the hand-over from Yellowstone, the clock, the
checkpoint file, the shipped journal and cancellation.
-/

inductive CarbonCounter where
  | updatesReceived
  | updatesProcessed
deriving DecidableEq, Repr

inductive Call (Signature : Type) where
  | rpc (call : RpcCall Signature)
  | now
  /-- `DeliveredSignatures::drain`. -/
  | drainDelivered
  /-- `DeliveredSignatures::stop`. -/
  | stopDelivered
  | send (update : Update Signature)
  /-- `sender.capacity() == sender.max_capacity()`. -/
  | channelEmpty
  /-- The order in which a metrics snapshot reads the two Carbon counters. -/
  | receivedCounterFirst
  | counter (name : CarbonCounter)
  | readCheckpoint
  /-- Replace the checkpoint file through a synced temporary file. -/
  | installCheckpoint (encoded : Bytes)
  /-- Rename the checkpoint file to its `.corrupt-` backup. -/
  | moveCorruptCheckpoint
  | countCorruptCheckpoints
  | restoreShipped (identity : String)
  | discardShipped (identity : String)
  | compactShipped (minimumSlot : Slot)
  | cancelled
  /-- Sleep, unless cancelled first; the answer says whether it was. -/
  | sleep (delay : Nat)
  | awaitCancellation
deriving DecidableEq, Repr

structure ChannelClosed where
deriving DecidableEq, Repr

@[reducible] def Call.Response {Signature : Type} : Call Signature → Type
  | .rpc call => call.Response
  | .now => Instant
  | .drainDelivered => List (Signature × Slot)
  | .stopDelivered => Unit
  | .send _ => Except ChannelClosed Unit
  | .channelEmpty => Bool
  | .receivedCounterFirst => Bool
  | .counter _ => Option Nat
  | .readCheckpoint => Except IoError (Option Bytes)
  | .installCheckpoint _ => Except IoError Unit
  | .moveCorruptCheckpoint => Except IoError Unit
  | .countCorruptCheckpoints => Except IoError Nat
  | .restoreShipped _ => List (Signature × Slot)
  | .discardShipped _ => Unit
  | .compactShipped _ => Unit
  | .cancelled => Bool
  | .sleep _ => Bool
  | .awaitCancellation => Unit

abbrev CallEvent (Signature : Type) := Program.Event (@Call.Response Signature)

/-! ## What a trace says happened -/

section Trace

variable {Signature : Type}

/-- The deliveries one event hands to the poller. -/
def deliveriesOf : CallEvent Signature → List (Signature × Slot)
  | ⟨.drainDelivered, deliveries⟩ => deliveries
  | _ => []

/-- The transaction one event queued. -/
def queuedBy : CallEvent Signature → List Signature
  | ⟨.send (.transaction update), .ok _⟩ => [update.signature]
  | _ => []

/-- The outcomes one event fetched. -/
def outcomesOf : CallEvent Signature → List (Signature × FetchOutcome)
  | ⟨.rpc (.fetchTransactions _), outcomes⟩ => outcomes
  | _ => []

/-- The signatures one event selects for fetching. -/
def selectedBy : CallEvent Signature → List Signature
  | ⟨.rpc (.fetchTransactions signatures), _⟩ => signatures
  | _ => []

/-- The heads one event read. -/
def headOf : CallEvent Signature → Option Slot
  | ⟨.rpc .getSlot, .ok head⟩ => some head
  | _ => none

def delivered (trace : List (CallEvent Signature)) : List (Signature × Slot) :=
  trace.flatMap deliveriesOf

def queued (trace : List (CallEvent Signature)) : List Signature :=
  trace.flatMap queuedBy

def fetchOutcomes (trace : List (CallEvent Signature)) : List (Signature × FetchOutcome) :=
  trace.flatMap outcomesOf

def selected (trace : List (CallEvent Signature)) : List Signature :=
  trace.flatMap selectedBy

def headReading (trace : List (CallEvent Signature)) : Option Slot :=
  trace.findSome? headOf

/-- A command that only reads the clock, the history boundary or a listing. -/
def Call.Quiet : Call Signature → Prop
  | .now => True
  | .rpc .getFirstAvailableBlock => True
  | .rpc (.getSignaturesForAddress _ _ _ _) => True
  | _ => False

/-- A command a poll issues before it lists the addresses. -/
def Call.Preparing : Call Signature → Prop
  | .now => True
  | .drainDelivered => True
  | .rpc .getSlot => True
  | .rpc .getFirstAvailableBlock => True
  | _ => False

/-- A command a poll issues once the addresses are listed. -/
def Call.Fetching : Call Signature → Prop
  | .rpc (.fetchTransactions _) => True
  | .send _ => True
  | _ => False

variable {first second : List (CallEvent Signature)} {event : CallEvent Signature}

@[simp] theorem delivered_append :
    delivered (first ++ second) = delivered first ++ delivered second := List.flatMap_append

@[simp] theorem queued_append : queued (first ++ second) = queued first ++ queued second :=
  List.flatMap_append

@[simp] theorem fetchOutcomes_append :
    fetchOutcomes (first ++ second) = fetchOutcomes first ++ fetchOutcomes second :=
  List.flatMap_append

@[simp] theorem selected_append :
    selected (first ++ second) = selected first ++ selected second := List.flatMap_append

@[simp] theorem headReading_append :
    headReading (first ++ second) = (headReading first).or (headReading second) :=
  List.findSome?_append

@[simp] theorem delivered_cons :
    delivered (event :: first) = deliveriesOf event ++ delivered first := rfl

@[simp] theorem queued_cons : queued (event :: first) = queuedBy event ++ queued first := rfl

@[simp] theorem fetchOutcomes_cons :
    fetchOutcomes (event :: first) = outcomesOf event ++ fetchOutcomes first := rfl

@[simp] theorem selected_cons : selected (event :: first) = selectedBy event ++ selected first := rfl

@[simp] theorem headReading_cons :
    headReading (event :: first) = (headOf event).or (headReading first) := by
  cases found : headOf event <;> simp [headReading, found]

@[simp] theorem delivered_nil : delivered ([] : List (CallEvent Signature)) = [] := rfl

@[simp] theorem queued_nil : queued ([] : List (CallEvent Signature)) = [] := rfl

@[simp] theorem fetchOutcomes_nil : fetchOutcomes ([] : List (CallEvent Signature)) = [] := rfl

@[simp] theorem selected_nil : selected ([] : List (CallEvent Signature)) = [] := rfl

@[simp] theorem headReading_nil : headReading ([] : List (CallEvent Signature)) = none := rfl

/-- Quiet events say nothing about deliveries, fetches, sends or heads. -/
theorem quiet_trace (quiet : ∀ event ∈ first, event.1.Quiet) :
    delivered first = [] ∧ queued first = [] ∧ fetchOutcomes first = [] ∧ selected first = [] ∧
      headReading first = none := by
  induction first with
  | nil => exact ⟨rfl, rfl, rfl, rfl, rfl⟩
  | cons event rest ih =>
      obtain ⟨noDelivery, noQueue, noOutcome, noSelection, noHead⟩ :=
        ih fun event member => quiet event (by simp [member])
      have quietEvent := quiet event (by simp)
      obtain ⟨command, response⟩ := event
      have silent : deliveriesOf ⟨command, response⟩ = [] ∧ queuedBy ⟨command, response⟩ = [] ∧
          outcomesOf ⟨command, response⟩ = [] ∧ selectedBy ⟨command, response⟩ = [] ∧
          headOf ⟨command, response⟩ = none := by
        cases command with
        | now => exact ⟨rfl, rfl, rfl, rfl, rfl⟩
        | rpc call => cases call <;> first | exact ⟨rfl, rfl, rfl, rfl, rfl⟩ | exact quietEvent.elim
        | _ => exact quietEvent.elim
      obtain ⟨deliveries, queueing, outcome, selection, head⟩ := silent
      simp [deliveries, queueing, outcome, selection, head, noDelivery, noQueue, noOutcome,
        noSelection, noHead]

/-- What an answer satisfies by the types of the source; and every selected
signature is fetched once, in any order. -/
def Call.Answered : (call : Call Signature) → call.Response → Prop
  | .rpc .getSlot, .ok headSlot => headSlot ≤ u64Max
  | .rpc (.getSignaturesForAddress _ _ _ _), .ok page => ∀ info ∈ page, info.slot ≤ u64Max
  | .rpc (.fetchTransactions signatures), outcomes => (outcomes.map Prod.fst).Perm signatures
  | .drainDelivered, deliveries => ∀ delivery ∈ deliveries, delivery.2 ≤ u64Max
  | .restoreShipped _, entries => ∀ entry ∈ entries, entry.2 ≤ u64Max
  | _, _ => True

theorem delivered_bounded (answered : Program.Allowed Call.Answered first) :
    ∀ delivery ∈ delivered first, delivery.2 ≤ u64Max := by
  intro delivery member
  obtain ⟨⟨command, response⟩, event, handed⟩ := List.mem_flatMap.mp member
  have typed := answered ⟨command, response⟩ event
  cases command with
  | drainDelivered => exact typed delivery handed
  | _ => simp [deliveriesOf] at handed

theorem headReading_bounded {headSlot : Slot} (answered : Program.Allowed Call.Answered first)
    (reading : headReading first = some headSlot) : headSlot ≤ u64Max := by
  obtain ⟨⟨command, response⟩, event, handed⟩ := List.exists_of_findSome?_eq_some reading
  have typed := answered ⟨command, response⟩ event
  cases command with
  | rpc call =>
      cases call with
      | getSlot =>
          cases response with
          | ok head =>
              cases handed
              exact typed
          | error error => simp [headOf] at handed
      | _ => simp [headOf] at handed
  | _ => simp [headOf] at handed

end Trace

end Microscope.Polling
