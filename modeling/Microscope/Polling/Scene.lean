import Microscope.Polling.Ledger
import Microscope.Polling.Effects

namespace Microscope.Polling

open Std Microscope.Data

/-! # Polls in fixed surroundings

A scene answers every request of a poll by a rule, so that a poll in it can be
computed.  Its listings are those of honest replicas of one ledger.
-/

variable {Signature : Type} [LinearOrder Signature] [SignatureText Signature]

structure Scene (Signature : Type) where
  headSlot : Slot
  firstAvailableBlock : Slot
  entries : List (LedgerEntry Signature)
  contextOf : Address → Slot
  outcome : Signature → FetchOutcome
  delivered : List (Signature × Slot)

namespace Scene

variable (scene : Scene Signature)

def answer : (call : Call Signature) → call.Response
  | .rpc .getGenesisHash => .ok "genesis"
  | .rpc .getSlot => .ok scene.headSlot
  | .rpc .getFirstAvailableBlock => .ok scene.firstAvailableBlock
  | .rpc (.getSignaturesForAddress address before limit _) =>
      .ok (pageOf (listedEntries scene.entries address (scene.contextOf address)) before limit)
  | .rpc (.fetchTransactions signatures) =>
      signatures.map fun signature => (signature, scene.outcome signature)
  | .now => 0
  | .drainDelivered => scene.delivered
  | .stopDelivered => ()
  | .send _ => .ok ()
  | .channelEmpty => true
  | .receivedCounterFirst => true
  | .counter _ => none
  | .readCheckpoint => .ok none
  | .installCheckpoint _ => .ok ()
  | .moveCorruptCheckpoint => .ok ()
  | .countCorruptCheckpoints => .ok 0
  | .restoreShipped _ => []
  | .discardShipped _ => ()
  | .compactShipped _ => ()
  | .cancelled => false
  | .sleep _ => false
  | .awaitCancellation => ()

/-- The slots of the scene are `u64` values. -/
structure Typed : Prop where
  headSlot : scene.headSlot ≤ u64Max
  entries : ∀ entry ∈ scene.entries, entry.1.slot ≤ u64Max
  delivered : ∀ delivery ∈ scene.delivered, delivery.2 ≤ u64Max

variable (pages : Nat) (datasource : RpcPollingDatasource) (addresses : List Address)
  (state : PollingState Signature)

/-- The poll in this scene. -/
def run : List (CallEvent Signature) ×
    (Except (PollError Signature) PollOutcome × PollingState Signature) × Unit :=
  Program.runWith (fun _ call => (scene.answer call, ())) () (poll pages datasource addresses state)

def trace : List (CallEvent Signature) := (scene.run pages datasource addresses state).1

def after : PollingState Signature := (scene.run pages datasource addresses state).2.1.2

/-- Whether the replicas have reached what the requests of a trace ask for. -/
def reaches (trace : List (CallEvent Signature)) : Bool :=
  trace.all fun event =>
    match event.1 with
    | .rpc (.getSignaturesForAddress address _ _ minimumContext) =>
        minimumContext ≤ scene.contextOf address
    | _ => true

variable {scene pages datasource addresses state}

theorem ends (scene : Scene Signature) : Action.Ends (poll pages datasource addresses) state
    (scene.trace pages datasource addresses state) (scene.run pages datasource addresses state).2.1.1
    (scene.after pages datasource addresses state) :=
  Program.run_runWith _ _ _

theorem pageOf_bounded (typed : scene.Typed) {address : Address} {before : Option Signature}
    {limit : Nat} : ∀ info ∈ pageOf (listedEntries scene.entries address (scene.contextOf address))
      before limit, info.slot ≤ u64Max := by
  intro info member
  obtain ⟨discovered, taken, rfl⟩ := List.mem_map.mp member
  obtain ⟨entry, listed, rfl⟩ := List.mem_map.mp (mem_of_mem_older (List.mem_of_mem_take taken))
  exact typed.entries entry (List.mem_filter.mp listed).1

theorem answer_answered (typed : scene.Typed) (call : Call Signature) :
    call.Answered (scene.answer call) := by
  cases call with
  | rpc call =>
      cases call with
      | getSlot => exact typed.headSlot
      | getSignaturesForAddress => exact pageOf_bounded typed
      | fetchTransactions signatures => simp [Call.Answered, answer, Function.comp_def]
      | _ => exact trivial
  | drainDelivered => exact typed.delivered
  | restoreShipped => simp [Call.Answered, answer]
  | _ => exact trivial

theorem answered (typed : scene.Typed) :
    Program.Allowed Call.Answered (scene.trace pages datasource addresses state) :=
  Program.runWith_allowed (fun _ call => answer_answered typed call) _ _

theorem honest : Program.Allowed (fun call response => response = scene.answer call)
    (scene.trace pages datasource addresses state) :=
  Program.runWith_allowed (fun _ _ => rfl) _ _

/-- The listings of a scene are those of replicas of its ledger. -/
theorem replicas {sorted : scene.entries.Pairwise fun newer older => older.1.slot ≤ newer.1.slot}
    {apart : (scene.entries.map fun entry => entry.1.signature).Nodup}
    (reaches : scene.reaches (scene.trace pages datasource addresses state) = true) :
    Replicas (.ofEntries scene.entries sorted apart) scene.contextOf
      (scene.trace pages datasource addresses state) := by
  intro address before limit minimumContext page event
  refine ⟨?_, ?_⟩
  · simpa using List.all_eq_true.mp reaches _ event
  · exact Except.ok.inj (honest _ event)

/-- Every part of the scene puts a signature at the same slot. -/
structure Consistent (scene : Scene Signature) (slotOf : Signature → Slot) : Prop where
  entries : ∀ entry ∈ scene.entries, entry.1.slot = slotOf entry.1.signature
  delivered : ∀ delivery ∈ scene.delivered, delivery.2 = slotOf delivery.1
  outcome : ∀ signature transaction, scene.outcome signature = .ok transaction →
    transaction.slot = slotOf signature

theorem reports {slotOf : Signature → Slot} (consistent : scene.Consistent slotOf) :
    Reports slotOf (scene.trace pages datasource addresses state) where
  delivered := by
    intro delivery member
    obtain ⟨⟨command, response⟩, event, handed⟩ := List.mem_flatMap.mp member
    have answered : response = scene.answer command := honest _ event
    subst answered
    cases command with
    | drainDelivered => exact consistent.delivered delivery handed
    | _ => simp [deliveriesOf] at handed
  fetched := by
    intro signature transaction member
    obtain ⟨⟨command, response⟩, event, handed⟩ := List.mem_flatMap.mp member
    have answered : response = scene.answer command := honest _ event
    subst answered
    cases command with
    | rpc call =>
        cases call with
        | fetchTransactions signatures =>
            obtain ⟨fetched, _, same⟩ := List.mem_map.mp handed
            obtain ⟨rfl, outcome⟩ := Prod.mk.injEq .. ▸ same
            exact consistent.outcome fetched transaction outcome
        | _ => simp [outcomesOf] at handed
    | _ => simp [outcomesOf] at handed
  listed := by
    intro address discovered listed
    obtain ⟨before, limit, context, page, info, event, member, parses⟩ := listed
    have answered := honest _ event
    cases answered
    obtain ⟨older, taken, rfl⟩ := List.mem_map.mp member
    rw [parses_infoOf parses]
    obtain ⟨entry, entryMember, rfl⟩ := List.mem_map.mp (mem_of_mem_older (List.mem_of_mem_take taken))
    exact consistent.entries entry (List.mem_filter.mp entryMember).1

end Scene

/-! ## Sample values -/

/-- A transaction that is fetched and converted. -/
def convertible (slot : Slot) (slot_lt : slot ≤ u64Max) : EncodedTransaction where
  slot := slot
  blockTime := none
  hasMeta := true
  decodes := true
  hasInnerInstructions := true
  hasLogMessages := true
  metaConverts := true
  slot_lt := slot_lt

def sampleDatasource : RpcPollingDatasource where
  programId := "program"
  multisigStateAddress := none
  pollInterval := 5000
  replayWindow := { slots := 10, positive := by decide, bounded := by decide }
  checkpointPath := "rpc-polling.json"
  delivered := false

end Microscope.Polling
