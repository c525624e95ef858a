import Microscope.Events.Instructions

namespace Microscope.Events

open Microscope.Data Microscope.Signals

/-! # Event payloads

`decode_logs` and `decode_child_events`: the events that an instruction logs
or passes to itself, and the number of payloads that are none.
-/

inductive EventSource where
  | log
  | cpi
deriving DecidableEq, Repr

def EventSource.asStr : EventSource → String
  | .log => "log"
  | .cpi => "cpi"

structure DecodedEvent where
  name : String
  data : Json
  source : EventSource

structure DecodedLogs where
  events : List DecodedEvent := []
  rejected : Nat := 0

/-- The generated decoder of the monitored program, and the parser that finds
the data logged by an instruction. -/
structure ProgramDecoder (Decoded Event : Type) where
  decodeInstruction : Instruction → Option Decoded
  /-- The instruction is a `CpiEvent`. -/
  isCpiEvent : Decoded → Bool
  serialize : Decoded → Except String Json
  /-- `CpiEvent::decode`. -/
  decodeEvent : Bytes → Option Event
  serializeEvent : Event → Except String Json
  /-- `decode_log_events`, of the raw data. -/
  decodeLogEvents : InstructionMetadata → List Bytes

def eventCpiPrefix : Bytes := [228, 69, 165, 46, 81, 203, 154, 29]

def startsWithText (start line : String) : Bool := start.toList.isPrefixOf line.toList

def isProgramEmitted (line : String) : Bool :=
  startsWithText "Program log: " line || startsWithText "Program return: " line

def runtimeLogsOnly (metadata : InstructionMetadata) : InstructionMetadata :=
  match metadata.transactionMetadata.logMessages with
  | none => metadata
  | some logs =>
      if logs.any isProgramEmitted then
        { metadata with
          transactionMetadata :=
            { metadata.transactionMetadata with logMessages := some (logs.filter (!isProgramEmitted ·)) } }
      else metadata

section Decoding

variable {Decoded Event : Type} (tables : CaseTables) (decoder : ProgramDecoder Decoded Event)

/-- `events::to_log_data`: the event is the first entry of its JSON value. -/
def eventLogData (event : Event) (source : EventSource) : Option DecodedEvent :=
  match decoder.serializeEvent event with
  | .ok (.object ((name, data) :: _)) => some { name := toSnakeCase tables name, data, source }
  | _ => none

def DecodedLogs.add (decoded : DecodedLogs) : Option DecodedEvent → DecodedLogs
  | some event => { decoded with events := decoded.events ++ [event] }
  | none => { decoded with rejected := decoded.rejected + 1 }

def decodePayload (raw : Bytes) : Option DecodedEvent :=
  (decoder.decodeEvent (eventCpiPrefix ++ raw)).bind (eventLogData tables decoder · .log)

/-- The loop of `decode_logs`. -/
def decodePayloads (payloads : List Bytes) : DecodedLogs :=
  payloads.foldl (fun decoded raw => decoded.add (decodePayload tables decoder raw)) {}

def decodeLogs (metadata : InstructionMetadata) : DecodedLogs :=
  decodePayloads tables decoder (decoder.decodeLogEvents (runtimeLogsOnly metadata))

/-- What a child adds; none if it is passed over. -/
def decodeChild (programId : Address) (child : NestedInstruction) : Option (Option DecodedEvent) :=
  if child.instruction.programId ≠ programId then none
  else
    match decoder.decodeEvent child.instruction.data with
    | none => none
    | some event => some (eventLogData tables decoder event .cpi)

def decodeChildEvents (children : List NestedInstruction) (programId : Address) : DecodedLogs :=
  children.foldl (fun decoded child =>
    match decodeChild tables decoder programId child with
    | none => decoded
    | some added => decoded.add added) {}

end Decoding

/-! ## What the loops collect -/

section Collecting

variable {Decoded Event : Type} {tables : CaseTables} {decoder : ProgramDecoder Decoded Event}
  {programId : Address} {payload : Bytes} {child : NestedInstruction}

/-- The events of outcomes, and the number of others. -/
def collected (outcomes : List (Option DecodedEvent)) : DecodedLogs where
  events := outcomes.filterMap id
  rejected := outcomes.countP Option.isNone

theorem collected_add (outcomes : List (Option DecodedEvent)) (outcome : Option DecodedEvent) :
    (collected outcomes).add outcome = collected (outcomes ++ [outcome]) := by
  cases outcome with
  | none => simp [collected, DecodedLogs.add]
  | some event => simp [collected, DecodedLogs.add]

theorem foldl_add {α : Type} (outcome : α → Option (Option DecodedEvent)) (elements : List α)
    (before : List (Option DecodedEvent)) :
    elements.foldl (fun decoded element =>
      match outcome element with
      | none => decoded
      | some added => decoded.add added) (collected before) =
        collected (before ++ elements.filterMap outcome) := by
  induction elements generalizing before with
  | nil => simp
  | cons element rest ih =>
      rw [List.foldl_cons]
      cases found : outcome element with
      | none => rw [ih, List.filterMap_cons_none found]
      | some added =>
          dsimp only
          rw [collected_add, ih, List.filterMap_cons_some found, List.append_assoc]
          rfl

theorem decodePayloads_eq (payloads : List Bytes) :
    decodePayloads tables decoder payloads =
      collected (payloads.filterMap fun raw => some (decodePayload tables decoder raw)) :=
  foldl_add (fun raw => some (decodePayload tables decoder raw)) payloads []

theorem decodeChildEvents_eq (children : List NestedInstruction) :
    decodeChildEvents tables decoder children programId =
      collected (children.filterMap (decodeChild tables decoder programId)) :=
  foldl_add (decodeChild tables decoder programId) children []

theorem collected_length (outcomes : List (Option DecodedEvent)) :
    (collected outcomes).events.length + (collected outcomes).rejected = outcomes.length := by
  induction outcomes with
  | nil => rfl
  | cons outcome rest ih =>
      cases outcome with
      | none =>
          have step : collected (none :: rest) = (collected rest).add none := by
            simp [collected, DecodedLogs.add]
          rw [step, DecodedLogs.add, List.length_cons]
          dsimp only
          omega
      | some event =>
          have step : (collected (some event :: rest)).events.length = (collected rest).events.length + 1 := by
            simp [collected]
          have same : (collected (some event :: rest)).rejected = (collected rest).rejected := by
            simp [collected]
          rw [step, same, List.length_cons]
          omega

theorem collected_rejected_append (before after : List (Option DecodedEvent)) :
    (collected (before ++ after)).rejected = (collected before).rejected + (collected after).rejected :=
  List.countP_append

/-! ## Accounting -/

/-- The element adds one to the rejected ones, wherever it stands. -/
def CountedAsRejected {α : Type} (decode : List α → DecodedLogs) (element : α) : Prop :=
  ∀ before after, (decode (before ++ element :: after)).rejected = (decode (before ++ after)).rejected + 1

theorem countedAsRejected_iff {α : Type} {decode : List α → DecodedLogs}
    {outcome : α → Option (Option DecodedEvent)}
    (decodes : ∀ elements, decode elements = collected (elements.filterMap outcome)) (element : α) :
    CountedAsRejected decode element ↔ outcome element = some none := by
  have split : ∀ before after, (decode (before ++ element :: after)).rejected =
      (decode (before ++ after)).rejected + (decode [element]).rejected := by
    intro before after
    have apart : before ++ element :: after = before ++ ([element] ++ after) := rfl
    rw [apart]
    simp only [decodes, List.filterMap_append, collected_rejected_append]
    omega
  have alone : (decode [element]).rejected = 1 ↔ outcome element = some none := by
    rw [decodes]
    rcases found : outcome element with _ | _ | event
    · simp [collected, found]
    · simp [collected, found]
    · simp [collected, found]
  rw [← alone]
  constructor
  · intro counted
    have first := counted [] []
    rw [split] at first
    omega
  · intro one before after
    rw [split, one]

theorem eventLogData_source {event : Event} {source other : EventSource} :
    eventLogData tables decoder event source = none ↔ eventLogData tables decoder event other = none := by
  unfold eventLogData
  split
  · simp
  · simp

/-- The children of a program that have the prefix. -/
def prefixedChildren (children : List NestedInstruction) (programId : Address) : List NestedInstruction :=
  children.filter fun child =>
    child.instruction.programId = programId ∧ eventCpiPrefix <+: child.instruction.data

theorem decodeChild_isSome :
    (decodeChild tables decoder programId child).isSome = true ↔
      child.instruction.programId = programId ∧ (decoder.decodeEvent child.instruction.data).isSome = true := by
  unfold decodeChild
  split
  · rename_i other
    simp [other]
  · rename_i same
    cases decoder.decodeEvent child.instruction.data with
    | none => simp
    | some event => simpa using same

/-- All children with the prefix are accounted for if and only if all of them
are events. -/
theorem decodeChildEvents_accounts_iff
    (prefixed : ∀ data event, decoder.decodeEvent data = some event → eventCpiPrefix <+: data)
    (children : List NestedInstruction) :
    (decodeChildEvents tables decoder children programId).events.length +
        (decodeChildEvents tables decoder children programId).rejected =
      (prefixedChildren children programId).length ↔
    ∀ child ∈ prefixedChildren children programId,
      (decoder.decodeEvent child.instruction.data).isSome = true := by
  have counted : children.countP (fun child => (decodeChild tables decoder programId child).isSome) =
      (prefixedChildren children programId).countP fun child =>
        (decoder.decodeEvent child.instruction.data).isSome := by
    rw [prefixedChildren, List.countP_filter]
    refine List.countP_congr fun child _ => ?_
    rw [decodeChild_isSome, Bool.and_eq_true, decide_eq_true_iff]
    constructor
    · rintro ⟨same, found⟩
      obtain ⟨event, decoded⟩ := Option.isSome_iff_exists.mp found
      exact ⟨found, same, prefixed _ event decoded⟩
    · rintro ⟨found, same, _⟩
      exact ⟨same, found⟩
  rw [decodeChildEvents_eq, collected_length, List.length_filterMap_eq_countP, counted, List.countP_eq_length]

/-- Both decoders account for payloads alike if and only if these are events. -/
theorem rejected_alike_iff
    (prefixed : ∀ data event, decoder.decodeEvent data = some event → eventCpiPrefix <+: data) :
    (∀ children programId,
      (decodeChildEvents tables decoder children programId).events.length +
          (decodeChildEvents tables decoder children programId).rejected =
        (prefixedChildren children programId).length ↔
      ∀ child ∈ prefixedChildren children programId,
        (decoder.decodeEvent child.instruction.data).isSome = true) ∧
    ∀ payload programId (child : NestedInstruction), child.instruction = ⟨programId, eventCpiPrefix ++ payload⟩ →
      ((CountedAsRejected (decodePayloads tables decoder) payload ↔
          CountedAsRejected (decodeChildEvents tables decoder · programId) child) ↔
        (decoder.decodeEvent (eventCpiPrefix ++ payload)).isSome = true) := by
  refine ⟨fun children programId => decodeChildEvents_accounts_iff prefixed children, ?_⟩
  intro payload programId child same
  rw [countedAsRejected_iff decodePayloads_eq, countedAsRejected_iff decodeChildEvents_eq]
  simp only [decodePayload, decodeChild, same]
  cases decoder.decodeEvent (eventCpiPrefix ++ payload) with
  | none => simp
  | some event => simpa using eventLogData_source

end Collecting

/-! ## A decoder of one event

The transfer event is a zero byte and an amount of one byte, and the transfer
instruction a one byte.
-/

inductive TransferInstruction where
  | transfer
  | cpiEvent
deriving DecidableEq

def transferDecoder (programId : Address) (logged : InstructionMetadata → List Bytes) :
    ProgramDecoder TransferInstruction UInt8 where
  decodeInstruction instruction :=
    if instruction.programId ≠ programId then none
    else if instruction.data = [1] then some .transfer
    else if eventCpiPrefix <+: instruction.data ∧ instruction.data.length = 10 ∧
        instruction.data[8]? = some 0 then some .cpiEvent
    else none
  isCpiEvent := (· = .cpiEvent)
  serialize
    | .transfer => .ok (.object [("type", .string "Transfer"), ("data", .object [])])
    | .cpiEvent => .ok (.object [("type", .string "CpiEvent"), ("data", .object [])])
  decodeEvent data :=
    if eventCpiPrefix <+: data ∧ data.length = 10 ∧ data[8]? = some 0 then data[9]? else none
  serializeEvent amount := .ok (.object [("TransferEvent", .object [("amount", .number amount.toNat)])])
  decodeLogEvents := logged

theorem transferDecoder_prefixed (programId : Address) (logged : InstructionMetadata → List Bytes) (data : Bytes)
    (event : UInt8) (decoded : (transferDecoder programId logged).decodeEvent data = some event) :
    eventCpiPrefix <+: data := by
  simp only [transferDecoder] at decoded
  split at decoded
  · rename_i shaped
    exact shaped.1
  · contradiction

def emptyTransaction : TransactionMetadata where
  signature := "5wHu1qwD7q4TGvAjUHnXPQ"
  slot := 300
  blockTime := some 1700000000
  failed := false
  logMessages := none

def metadataAt (path : List UInt8) : InstructionMetadata where
  transactionMetadata := emptyTransaction
  stackHeight := path.length
  index := (path.getLastD 0).toNat
  absolutePath := path

def monitoredId : Address := "11111111111111111111111111111111"

/-- An event without its amount. -/
def truncatedChild : NestedInstruction :=
  .node (metadataAt [0, 0]) ⟨monitoredId, eventCpiPrefix ++ [0]⟩ []

theorem truncated_child_unaccounted :
    let decoder := transferDecoder monitoredId fun _ => [[0]]
    (decodeChildEvents asciiTables decoder [truncatedChild] monitoredId).events.length +
        (decodeChildEvents asciiTables decoder [truncatedChild] monitoredId).rejected = 0 ∧
      (prefixedChildren [truncatedChild] monitoredId).length = 1 ∧
      (decodeLogs asciiTables decoder (metadataAt [0])).rejected = 1 := by
  decide +kernel

theorem rejected_alike_transfer :
    let decoder := transferDecoder monitoredId fun _ => []
    (∀ children programId,
      (decodeChildEvents asciiTables decoder children programId).events.length +
          (decodeChildEvents asciiTables decoder children programId).rejected =
        (prefixedChildren children programId).length ↔
      ∀ child ∈ prefixedChildren children programId,
        (decoder.decodeEvent child.instruction.data).isSome = true) ∧
    ∀ payload programId (child : NestedInstruction), child.instruction = ⟨programId, eventCpiPrefix ++ payload⟩ →
      ((CountedAsRejected (decodePayloads asciiTables decoder) payload ↔
          CountedAsRejected (decodeChildEvents asciiTables decoder · programId) child) ↔
        (decoder.decodeEvent (eventCpiPrefix ++ payload)).isSome = true) :=
  rejected_alike_iff (transferDecoder_prefixed monitoredId fun _ => [])

end Microscope.Events
