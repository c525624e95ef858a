import Mathlib.Data.List.Perm.Basic
import Microscope.Events.Decoding

namespace Microscope.Events

open Microscope.Data Microscope.Signals

/-! # Processing instructions

`EventProcessor::process`: the records of an instruction, of its rejected
payloads and of its events.
-/

/-! ## Records -/

def jsonInteger : Int → Json
  | .ofNat value => .number value
  | negative => .otherNumber (toString negative)

def jsonBlockTime : Option Int → Json
  | none => .null
  | some time => jsonInteger time

section Records

variable (metadata : InstructionMetadata) (raw : Instruction)

def instructionRecord (instruction : InstructionLogData) : Json :=
  .object [
    ("kind", .string "program_instruction"),
    ("name", .string instruction.name),
    ("data", instruction.data),
    ("program_id", .string raw.programId),
    ("instruction_index", .number metadata.index),
    ("instruction_path", .string (occurrencePath metadata)),
    ("stack_height", .number metadata.stackHeight),
    ("signature", .string metadata.transactionMetadata.signature),
    ("slot", .number metadata.transactionMetadata.slot),
    ("block_time", jsonBlockTime metadata.transactionMetadata.blockTime),
    ("failed", .bool metadata.transactionMetadata.failed)]

def decodeFailureRecord (instructionName : String) (source : EventSource) (rejected : Nat) : Json :=
  .object [
    ("kind", .string "event_decode_failure"),
    ("rejected", .number rejected),
    ("source", .string source.asStr),
    ("program_id", .string raw.programId),
    ("instruction", .string instructionName),
    ("signature", .string metadata.transactionMetadata.signature),
    ("slot", .number metadata.transactionMetadata.slot),
    ("block_time", jsonBlockTime metadata.transactionMetadata.blockTime)]

def eventRecord (instructionName : String) (event : DecodedEvent) : Json :=
  .object [
    ("kind", .string "program_event"),
    ("name", .string event.name),
    ("data", event.data),
    ("source", .string event.source.asStr),
    ("program_id", .string raw.programId),
    ("instruction", .string instructionName),
    ("instruction_index", .number metadata.index),
    ("instruction_path", .string (occurrencePath metadata)),
    ("stack_height", .number metadata.stackHeight),
    ("signature", .string metadata.transactionMetadata.signature),
    ("slot", .number metadata.transactionMetadata.slot),
    ("block_time", jsonBlockTime metadata.transactionMetadata.blockTime),
    ("failed", .bool metadata.transactionMetadata.failed)]

end Records

section Processing

variable {Decoded Event : Type} (tables : CaseTables) (decoder : ProgramDecoder Decoded Event)

/-- The records of the payloads that an instruction's logs and children have
and that are no events. -/
def decodeFailureRecords (metadata : InstructionMetadata) (raw : Instruction) (instructionName : String)
    (fromLogs fromChildren : DecodedLogs) : List Json :=
  [(EventSource.log, fromLogs.rejected), (EventSource.cpi, fromChildren.rejected)].filterMap
    fun (source, rejected) =>
      if rejected = 0 then none else some (decodeFailureRecord metadata raw instructionName source rejected)

/-- `EventProcessor::process`, of a decoded instruction. -/
def process (decoded : Decoded) (node : NestedInstruction) : Except String (List Json) := do
  let metadata := node.metadata
  let raw := node.instruction
  let instruction ← instructionLogData tables (decoder.serialize decoded)
  let (fromLogs, fromChildren) :=
    if decoder.isCpiEvent decoded then (({} : DecodedLogs), ({} : DecodedLogs))
    else (decodeLogs tables decoder metadata,
      decodeChildEvents tables decoder node.innerInstructions raw.programId)
  return instructionRecord metadata raw instruction ::
    decodeFailureRecords metadata raw instruction.name fromLogs fromChildren ++
      (fromLogs.events ++ fromChildren.events).map (eventRecord metadata raw instruction.name)

/-- The pipeline processes the instructions that the generated decoder
decodes. -/
def processNode (node : NestedInstruction) : List Json :=
  match decoder.decodeInstruction node.instruction with
  | none => []
  | some decoded => (process tables decoder decoded node).toOption.getD []

end Processing

/-! ## Reported events -/

section Reporting

variable {Decoded Event : Type} {tables : CaseTables} {decoder : ProgramDecoder Decoded Event}
  {programId : Address}

/-- The record is about an event that an instruction passed to itself. -/
def isCpiRecord (record : Json) : Bool :=
  (record.field "kind").toText = some "program_event" && (record.field "source").toText = some "cpi"

/-- What the generated code ensures: it decodes instructions of its program
only, and serializes them and their events as tagged objects. -/
structure Generated (tables : CaseTables) (decoder : ProgramDecoder Decoded Event) (programId : Address) :
    Prop where
  own : ∀ instruction decoded, decoder.decodeInstruction instruction = some decoded →
    instruction.programId = programId
  instructions : ∀ decoded, ∃ instruction,
    instructionLogData tables (decoder.serialize decoded) = .ok instruction
  events : ∀ event, ∃ name data, decoder.serializeEvent event = .ok (.object [(name, data)])

/-- The name of the decoded instruction. -/
def instructionName (tables : CaseTables) (decoder : ProgramDecoder Decoded Event) (decoded : Decoded) :
    String :=
  match instructionLogData tables (decoder.serialize decoded) with
  | .ok instruction => instruction.name
  | .error _ => ""

/-- The record of an event that a parent passed to itself in a child. -/
def cpiRecord (tables : CaseTables) (decoder : ProgramDecoder Decoded Event)
    (edge : NestedInstruction × NestedInstruction) : Option Json := do
  let decoded ← decoder.decodeInstruction edge.1.instruction
  let event ← decoder.decodeEvent edge.2.instruction.data
  let logged ← eventLogData tables decoder event .cpi
  return eventRecord edge.1.metadata edge.1.instruction (instructionName tables decoder decoded) logged

/-- The parent is an instruction that the decoder knows, other than an event,
and the child is an event of its program. -/
def Reported (decoder : ProgramDecoder Decoded Event) (programId : Address)
    (edge : NestedInstruction × NestedInstruction) : Prop :=
  (decoder.decodeInstruction edge.1.instruction).any (!decoder.isCpiEvent ·) = true ∧
    edge.2.instruction.programId = programId ∧
    (decoder.decodeEvent edge.2.instruction.data).isSome = true

instance : DecidablePred (Reported decoder programId) := fun _ => inferInstanceAs (Decidable (_ ∧ _))

variable {event : Event} {source : EventSource} {logged : DecodedEvent} {node : NestedInstruction}
  {decoded : Decoded}

theorem eventLogData_generated (generated : Generated tables decoder programId) (event : Event)
    (source : EventSource) :
    ∃ logged, eventLogData tables decoder event source = some logged ∧ logged.source = source := by
  obtain ⟨name, data, serialized⟩ := generated.events event
  exact ⟨_, by rw [eventLogData, serialized], rfl⟩

theorem source_of_eventLogData (found : eventLogData tables decoder event source = some logged) :
    logged.source = source := by
  unfold eventLogData at found
  split at found
  · exact (Option.some.inj found) ▸ rfl
  · contradiction

theorem decodeLogs_source {metadata : InstructionMetadata}
    (listed : logged ∈ (decodeLogs tables decoder metadata).events) : logged.source = .log := by
  rw [decodeLogs, decodePayloads_eq] at listed
  obtain ⟨outcome, outcomes, same⟩ := List.mem_filterMap.mp listed
  obtain ⟨payload, _, decoded⟩ := List.mem_filterMap.mp outcomes
  obtain rfl : decodePayload tables decoder payload = outcome := Option.some.inj decoded
  obtain ⟨event, _, found⟩ := Option.bind_eq_some_iff.mp same
  exact source_of_eventLogData found

theorem decodeChildEvents_source {children : List NestedInstruction}
    (listed : logged ∈ (decodeChildEvents tables decoder children programId).events) :
    logged.source = .cpi := by
  rw [decodeChildEvents_eq] at listed
  obtain ⟨outcome, outcomes, same⟩ := List.mem_filterMap.mp listed
  obtain ⟨child, _, decoded⟩ := List.mem_filterMap.mp outcomes
  obtain rfl : outcome = some logged := same
  unfold decodeChild at decoded
  split at decoded
  · contradiction
  · split at decoded
    · contradiction
    · exact source_of_eventLogData (Option.some.inj decoded)

theorem isCpiRecord_event {metadata : InstructionMetadata} {raw : Instruction} {name : String} :
    isCpiRecord (eventRecord metadata raw name logged) = true ↔ logged.source = .cpi := by
  cases source : logged.source with
  | log => simp [isCpiRecord, eventRecord, Json.field, Json.toText, List.lookup_cons, source, EventSource.asStr]
  | cpi => simp [isCpiRecord, eventRecord, Json.field, Json.toText, List.lookup_cons, source, EventSource.asStr]

theorem not_isCpiRecord_failure {metadata : InstructionMetadata} {raw : Instruction} {name : String}
    {fromLogs fromChildren : DecodedLogs} :
    (decodeFailureRecords metadata raw name fromLogs fromChildren).filter isCpiRecord = [] := by
  rw [List.filter_eq_nil_iff]
  intro record listed
  obtain ⟨⟨source, rejected⟩, _, made⟩ := List.mem_filterMap.mp listed
  dsimp only at made
  split at made
  · contradiction
  · rw [← Option.some.inj made]
    simp [isCpiRecord, decodeFailureRecord, Json.field, Json.toText, List.lookup_cons]

theorem invocations_unreported
    (unknown : (decoder.decodeInstruction node.instruction).any (!decoder.isCpiEvent ·) = false) :
    node.invocations.filter (Reported decoder programId ·) = [] := by
  rw [List.filter_eq_nil_iff]
  intro edge listed
  obtain ⟨child, _, rfl⟩ := List.mem_map.mp listed
  simp [Reported, unknown]

/-- The records of the events that an instruction passed to itself. -/
theorem childRecords_eq (generated : Generated tables decoder programId)
    (known : decoder.decodeInstruction node.instruction = some decoded)
    (other : decoder.isCpiEvent decoded = false) :
    (decodeChildEvents tables decoder node.innerInstructions node.instruction.programId).events.map
        (eventRecord node.metadata node.instruction (instructionName tables decoder decoded)) =
      (node.invocations.filter (Reported decoder programId ·)).filterMap (cpiRecord tables decoder) := by
  have own := generated.own _ _ known
  rw [decodeChildEvents_eq, collected, NestedInstruction.invocations, List.filterMap_filterMap,
    List.map_filterMap, List.filter_map, List.filterMap_map, List.filterMap_filter]
  refine List.filterMap_congr fun child _ => ?_
  simp only [Function.comp_apply, Reported, cpiRecord, decodeChild, own, known]
  by_cases same : child.instruction.programId = programId
  · cases found : decoder.decodeEvent child.instruction.data with
    | none => simp [same, other]
    | some event =>
        obtain ⟨logged, made, _⟩ := eventLogData_generated generated event .cpi
        simp [same, other, made]
  · simp [same]

theorem processNode_eq (generated : Generated tables decoder programId)
    (known : decoder.decodeInstruction node.instruction = some decoded) :
    ∃ instruction, instruction.name = instructionName tables decoder decoded ∧
      processNode tables decoder node =
        if decoder.isCpiEvent decoded then [instructionRecord node.metadata node.instruction instruction]
        else
          let fromLogs := decodeLogs tables decoder node.metadata
          let fromChildren :=
            decodeChildEvents tables decoder node.innerInstructions node.instruction.programId
          instructionRecord node.metadata node.instruction instruction ::
            decodeFailureRecords node.metadata node.instruction instruction.name fromLogs fromChildren ++
              (fromLogs.events ++ fromChildren.events).map
                (eventRecord node.metadata node.instruction instruction.name) := by
  obtain ⟨instruction, serialized⟩ := generated.instructions decoded
  refine ⟨instruction, ?_, ?_⟩
  · rw [instructionName, serialized]
  · simp only [processNode, known, process, serialized, bind, Except.bind]
    cases decoder.isCpiEvent decoded with
    | false => rfl
    | true => rfl

/-- The records about events of an instruction. -/
theorem processNode_filter (generated : Generated tables decoder programId) (node : NestedInstruction) :
    (processNode tables decoder node).filter isCpiRecord =
      (node.invocations.filter (Reported decoder programId ·)).filterMap (cpiRecord tables decoder) := by
  cases known : decoder.decodeInstruction node.instruction with
  | none =>
      have unknown : (decoder.decodeInstruction node.instruction).any (!decoder.isCpiEvent ·) = false := by
        rw [known]
        rfl
      rw [invocations_unreported unknown, processNode, known]
      rfl
  | some decoded =>
      obtain ⟨instruction, name, processed⟩ := processNode_eq generated known
      have instructionApart : isCpiRecord (instructionRecord node.metadata node.instruction instruction) = false := by
        simp [isCpiRecord, instructionRecord, Json.field, Json.toText, List.lookup_cons]
      rw [processed]
      cases event : decoder.isCpiEvent decoded with
      | true =>
          have unknown : (decoder.decodeInstruction node.instruction).any (!decoder.isCpiEvent ·) = false := by
            rw [known, Option.any_some, event]
            rfl
          rw [invocations_unreported unknown, if_pos rfl, List.filter_cons_of_neg (by simp [instructionApart])]
          rfl
      | false =>
          have logs : ((decodeLogs tables decoder node.metadata).events.map
              (eventRecord node.metadata node.instruction instruction.name)).filter isCpiRecord = [] := by
            rw [List.filter_eq_nil_iff]
            intro record listed
            obtain ⟨logged, member, rfl⟩ := List.mem_map.mp listed
            rw [isCpiRecord_event, decodeLogs_source member]
            simp
          have children := childRecords_eq generated known event
          have kept : ∀ record ∈ (decodeChildEvents tables decoder node.innerInstructions
              node.instruction.programId).events.map
                (eventRecord node.metadata node.instruction (instructionName tables decoder decoded)),
              isCpiRecord record = true := by
            intro record listed
            obtain ⟨logged, member, rfl⟩ := List.mem_map.mp listed
            exact isCpiRecord_event.mpr (decodeChildEvents_source member)
          rw [if_neg (by simp)]
          dsimp only
          rw [List.cons_append, List.filter_cons_of_neg (by simp [instructionApart]), List.filter_append,
            not_isCpiRecord_failure, List.map_append, List.filter_append, logs, name, List.nil_append,
            List.nil_append, List.filter_eq_self.mpr kept, children]

end Reporting

/-! An event of an instruction that the decoder does not know, and one of an
instruction that it knows. -/

def transferEventChild (path : List UInt8) : NestedInstruction :=
  .node (metadataAt path) ⟨monitoredId, eventCpiPrefix ++ [0, 7]⟩ []

def unknownParent : NestedInstruction := .node (metadataAt [0]) ⟨monitoredId, [9]⟩ [transferEventChild [0, 0]]

def knownParent : NestedInstruction := .node (metadataAt [1]) ⟨monitoredId, [1]⟩ [transferEventChild [1, 0]]

def quietDecoder : ProgramDecoder TransferInstruction UInt8 := transferDecoder monitoredId fun _ => []

def decodedNodes (roots : List NestedInstruction) : List NestedInstruction :=
  (NestedInstruction.nodesOf roots).filter fun node =>
    (quietDecoder.decodeInstruction node.instruction).isSome

theorem transferDecoder_generated : Generated asciiTables quietDecoder monitoredId where
  own := by
    intro instruction decoded known
    simp only [quietDecoder, transferDecoder] at known
    split at known
    · contradiction
    · rename_i same
      exact not_not.mp same
  instructions := by
    intro decoded
    cases decoded with
    | transfer => exact ⟨_, rfl⟩
    | cpiEvent => exact ⟨_, rfl⟩
  events event := ⟨_, _, rfl⟩

end Microscope.Events
