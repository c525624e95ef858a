import Mathlib.Data.List.Sort
import Mathlib.Data.Set.Function
import Microscope.Multisig.Activity

namespace Microscope.Events

open Microscope.Data Microscope.Signals Microscope.Multisig

/-! # The records of a transaction

Which records of a transaction are equal, over all that the processors emit.
-/

/-! ## Lists without repetition -/

section Distinct

variable {α β κ : Type} {key : α → κ} {read : β → κ}

theorem nodup_append_iff_of_read {first second : List β}
    (apart : ∀ left ∈ first, ∀ right ∈ second, read left ≠ read right) :
    (first ++ second).Nodup ↔ first.Nodup ∧ second.Nodup := by
  rw [List.nodup_append']
  constructor
  · intro distinct
    exact ⟨distinct.1, distinct.2.1⟩
  · intro distinct
    refine ⟨distinct.1, distinct.2, ?_⟩
    intro element inFirst inSecond
    exact apart element inFirst element inSecond rfl

/-- Parts that show the distinct keys of their elements repeat only within one
element. -/
theorem nodup_flatMap_iff_of_read {elements : List α} {parts : α → List β}
    (distinct : (elements.map key).Nodup)
    (reads : ∀ element ∈ elements, ∀ part ∈ parts element, read part = key element) :
    (elements.flatMap parts).Nodup ↔ ∀ element ∈ elements, (parts element).Nodup := by
  rw [List.nodup_flatMap]
  constructor
  · intro both
    exact both.1
  · intro each
    refine ⟨each, ?_⟩
    have different : elements.Pairwise fun first second => key first ≠ key second :=
      List.pairwise_map.mp distinct
    refine different.imp_of_mem ?_
    intro first second firstListed secondListed apart part inFirst inSecond
    have firstKey := reads first firstListed part inFirst
    have secondKey := reads second secondListed part inSecond
    exact apart (firstKey.symm.trans secondKey)

end Distinct

/-! ## What an instruction emits -/

section Emitting

variable {Decoded Event Squads : Type} (tables : CaseTables) (decoder : ProgramDecoder Decoded Event)
  (pipe : MultisigPipe Squads) (node : NestedInstruction)

/-- An instruction that the program's pipe decodes and serializes. -/
def loggedInstruction : Option (Decoded × InstructionLogData) := do
  let decoded ← decoder.decodeInstruction node.instruction
  let instruction ← (instructionLogData tables (decoder.serialize decoded)).toOption
  return (decoded, instruction)

/-- The events that `process` finds in the logs of an instruction. -/
def eventsOfLogs : DecodedLogs :=
  match loggedInstruction tables decoder node with
  | none => {}
  | some (decoded, _) =>
      if decoder.isCpiEvent decoded then {} else decodeLogs tables decoder node.metadata

/-- The events that `process` finds in the children of an instruction. -/
def eventsOfChildren : DecodedLogs :=
  match loggedInstruction tables decoder node with
  | none => {}
  | some (decoded, _) =>
      if decoder.isCpiEvent decoded then {}
      else decodeChildEvents tables decoder node.innerInstructions node.instruction.programId

/-- A number of rejected payloads and what its record tells about their
instruction. -/
structure Rejection where
  programId : Address
  instruction : String
  source : EventSource
  rejected : Nat
deriving DecidableEq

def rejectionsOf : List Rejection :=
  match loggedInstruction tables decoder node with
  | none => []
  | some (_, instruction) =>
      [(EventSource.log, (eventsOfLogs tables decoder node).rejected),
        (EventSource.cpi, (eventsOfChildren tables decoder node).rejected)].filterMap
          fun (source, rejected) =>
            if rejected = 0 then none
            else some { programId := node.instruction.programId, instruction := instruction.name, source, rejected }

def rejectionRecord (transaction : TransactionMetadata) (rejection : Rejection) : Json :=
  decodeFailureRecord { transactionMetadata := transaction, stackHeight := 0, index := 0, absolutePath := [] }
    { programId := rejection.programId, data := [] } rejection.instruction rejection.source rejection.rejected

/-- Everything that the pipes emit for an instruction. -/
def nodeRecords : List Json := processNode tables decoder node ++ pipe.processNode tables node

/-- Everything that the pipes emit for a transaction. -/
def transactionRecords (roots : List NestedInstruction) : List Json :=
  (NestedInstruction.nodesOf roots).flatMap (nodeRecords tables decoder pipe)

/-- No instruction has an event twice or applies two settings actions of one
kind at once, and no two report as many rejected payloads under one name. -/
structure Distinguished (roots : List NestedInstruction) : Prop where
  logs : ∀ node ∈ NestedInstruction.nodesOf roots, (eventsOfLogs tables decoder node).events.Nodup
  children : ∀ node ∈ NestedInstruction.nodesOf roots, (eventsOfChildren tables decoder node).events.Nodup
  rejections : ((NestedInstruction.nodesOf roots).flatMap (rejectionsOf tables decoder)).Nodup
  settings : ∀ node ∈ NestedInstruction.nodesOf roots, (pipe.appliedAtOnce tables node.instruction).Nodup

end Emitting

section Reading

variable {Decoded Event Squads : Type} {tables : CaseTables} {decoder : ProgramDecoder Decoded Event}
  {pipe : MultisigPipe Squads} {node : NestedInstruction} {metadata : InstructionMetadata} {raw : Instruction}
  {record : Json} {transaction : TransactionMetadata}

def kindOf (record : Json) : Option String := (record.field "kind").toText

def isRejection (record : Json) : Bool := kindOf record = some "event_decode_failure"

/-- The records of an instruction itself and of its events. -/
def ownRecords (tables : CaseTables) (decoder : ProgramDecoder Decoded Event) (node : NestedInstruction) :
    List Json :=
  match loggedInstruction tables decoder node with
  | none => []
  | some (_, instruction) =>
      [instructionRecord node.metadata node.instruction instruction] ++
        ((eventsOfLogs tables decoder node).events ++ (eventsOfChildren tables decoder node).events).map
          (eventRecord node.metadata node.instruction instruction.name)

theorem asStr_injective : Function.Injective EventSource.asStr := by
  intro first second same
  cases first <;> cases second <;> first | rfl | simp [EventSource.asStr] at same

theorem eventRecord_injective (instructionName : String) :
    Function.Injective (eventRecord metadata raw instructionName) := by
  intro first second same
  simp only [eventRecord, Json.object.injEq, List.cons.injEq, Prod.mk.injEq, Json.string.injEq,
    true_and, and_true] at same
  obtain ⟨name, data, source⟩ := same
  cases first
  cases second
  dsimp only at name data source
  rw [name, data, asStr_injective source]

theorem rejectionRecord_injective : Function.Injective (rejectionRecord transaction) := by
  intro first second same
  simp only [rejectionRecord, decodeFailureRecord, Json.object.injEq, List.cons.injEq, Prod.mk.injEq,
    Json.string.injEq, Json.number.injEq, true_and, and_true] at same
  obtain ⟨rejected, source, programId, instruction⟩ := same
  cases first
  cases second
  dsimp only at rejected source programId instruction
  rw [rejected, asStr_injective source, programId, instruction]

/-- The records of the program's pipe, without the reports of rejected
payloads and with only these. -/
theorem processNode_split (shared : node.metadata.transactionMetadata = transaction) :
    (processNode tables decoder node).Perm
      (ownRecords tables decoder node ++
        (rejectionsOf tables decoder node).map (rejectionRecord transaction)) := by
  subst shared
  cases known : decoder.decodeInstruction node.instruction with
  | none => simp [processNode, ownRecords, rejectionsOf, loggedInstruction, known]
  | some decoded =>
      cases serialized : instructionLogData tables (decoder.serialize decoded) with
      | error reason =>
          simp [processNode, process, ownRecords, rejectionsOf, loggedInstruction, known, serialized,
            Except.toOption, bind, Except.bind]
      | ok instruction =>
          have logged : loggedInstruction tables decoder node = some (decoded, instruction) := by
            simp [loggedInstruction, known, serialized, Except.toOption]
          have failures : (rejectionsOf tables decoder node).map
              (rejectionRecord node.metadata.transactionMetadata) =
                decodeFailureRecords node.metadata node.instruction instruction.name
                  (eventsOfLogs tables decoder node) (eventsOfChildren tables decoder node) := by
            rw [rejectionsOf, logged, List.map_filterMap, decodeFailureRecords]
            refine List.filterMap_congr fun part _ => ?_
            obtain ⟨source, rejected⟩ := part
            dsimp only
            split
            · rfl
            · rfl
          have processed : processNode tables decoder node =
              instructionRecord node.metadata node.instruction instruction ::
                decodeFailureRecords node.metadata node.instruction instruction.name
                  (eventsOfLogs tables decoder node) (eventsOfChildren tables decoder node) ++
                ((eventsOfLogs tables decoder node).events ++ (eventsOfChildren tables decoder node).events).map
                  (eventRecord node.metadata node.instruction instruction.name) := by
            simp only [processNode, known, process, serialized, eventsOfLogs, eventsOfChildren, logged,
              bind, Except.bind]
            cases decoder.isCpiEvent decoded with
            | false => rfl
            | true => rfl
          rw [processed, ownRecords, logged, failures]
          dsimp only
          rw [List.cons_append, List.cons_append, List.nil_append]
          exact List.Perm.cons _ List.perm_append_comm

/-! ## Repeated records -/

/-- The records of a transaction other than the reports of rejected payloads. -/
def placedRecords (tables : CaseTables) (decoder : ProgramDecoder Decoded Event) (pipe : MultisigPipe Squads)
    (node : NestedInstruction) : List Json :=
  ownRecords tables decoder node ++ pipe.processNode tables node

theorem transactionRecords_split {roots : List NestedInstruction}
    (shared : ∀ node ∈ NestedInstruction.nodesOf roots, node.metadata.transactionMetadata = transaction) :
    (transactionRecords tables decoder pipe roots).Perm
      ((NestedInstruction.nodesOf roots).flatMap (placedRecords tables decoder pipe) ++
        ((NestedInstruction.nodesOf roots).flatMap (rejectionsOf tables decoder)).map
          (rejectionRecord transaction)) := by
  rw [List.map_flatMap]
  refine List.Perm.trans ?_ (List.flatMap_append_perm _ _ _).symm
  refine List.Perm.flatMap_left _ fun node listed => ?_
  have split : (processNode tables decoder node).Perm _ := processNode_split (shared node listed)
  have moved := split.append_right (pipe.processNode tables node)
  rw [nodeRecords, placedRecords]
  refine moved.trans ?_
  rw [List.append_assoc, List.append_assoc]
  exact List.Perm.append_left _ List.perm_append_comm

theorem placed_path (listed : record ∈ placedRecords tables decoder pipe node) :
    record.field "instruction_path" = .string (occurrencePath node.metadata) ∧ isRejection record = false := by
  rcases List.mem_append.mp listed with own | activity
  · unfold ownRecords at own
    split at own
    · contradiction
    · rename_i instruction _
      rcases List.mem_append.mp own with first | events
      · rw [List.mem_singleton.mp first]
        exact ⟨rfl, rfl⟩
      · obtain ⟨event, _, rfl⟩ := List.mem_map.mp events
        exact ⟨rfl, rfl⟩
  · obtain ⟨addressMatch, idlVersion, instruction, action, rfl⟩ := mem_processNode activity
    exact ⟨rfl, rfl⟩

theorem ownRecords_nodup_iff :
    (ownRecords tables decoder node).Nodup ↔
      (eventsOfLogs tables decoder node).events.Nodup ∧ (eventsOfChildren tables decoder node).events.Nodup := by
  cases logged : loggedInstruction tables decoder node with
  | none => simp [ownRecords, eventsOfLogs, eventsOfChildren, logged]
  | some both =>
      obtain ⟨decoded, instruction⟩ := both
      have kinds : ∀ left ∈ [instructionRecord node.metadata node.instruction instruction],
          ∀ right ∈ ((eventsOfLogs tables decoder node).events ++
            (eventsOfChildren tables decoder node).events).map
              (eventRecord node.metadata node.instruction instruction.name),
          kindOf left ≠ kindOf right := by
        intro left leftListed right rightListed
        obtain ⟨event, _, rfl⟩ := List.mem_map.mp rightListed
        rw [List.mem_singleton.mp leftListed]
        simp [kindOf, instructionRecord, eventRecord, Json.field, Json.toText]
      have sources : ∀ left ∈ (eventsOfLogs tables decoder node).events,
          ∀ right ∈ (eventsOfChildren tables decoder node).events, left.source ≠ right.source := by
        intro left leftListed right rightListed
        simp only [eventsOfLogs, logged] at leftListed
        simp only [eventsOfChildren, logged] at rightListed
        cases event : decoder.isCpiEvent decoded with
        | true =>
            rw [event] at leftListed
            contradiction
        | false =>
            simp only [event, Bool.false_eq_true, if_false] at leftListed rightListed
            rw [decodeLogs_source leftListed, decodeChildEvents_source rightListed]
            simp
      simp only [ownRecords, logged]
      rw [nodup_append_iff_of_read kinds, List.nodup_map_iff (eventRecord_injective _),
        nodup_append_iff_of_read sources]
      simp

theorem placedRecords_nodup_iff :
    (placedRecords tables decoder pipe node).Nodup ↔
      ((eventsOfLogs tables decoder node).events.Nodup ∧ (eventsOfChildren tables decoder node).events.Nodup) ∧
        (pipe.appliedAtOnce tables node.instruction).Nodup := by
  have kinds : ∀ left ∈ ownRecords tables decoder node, ∀ right ∈ pipe.processNode tables node,
      kindOf left ≠ kindOf right := by
    intro left leftListed right rightListed
    obtain ⟨addressMatch, idlVersion, instruction, action, rfl⟩ := mem_processNode rightListed
    have other : kindOf (activityRecord node.metadata node.instruction addressMatch idlVersion instruction action) =
        some "multisig_activity" := rfl
    rw [other]
    unfold ownRecords at leftListed
    split at leftListed
    · contradiction
    · rename_i instruction _
      rcases List.mem_append.mp leftListed with first | events
      · rw [List.mem_singleton.mp first]
        simp [kindOf, instructionRecord, Json.field, Json.toText]
      · obtain ⟨event, _, rfl⟩ := List.mem_map.mp events
        simp [kindOf, eventRecord, Json.field, Json.toText]
  rw [placedRecords, nodup_append_iff_of_read kinds, ownRecords_nodup_iff, processNode_nodup_iff]

/-- The lines of a transaction whose instructions have distinct paths are
pairwise different if and only if it is distinguished. -/
theorem lines_distinct_iff (tables : CaseTables) (decoder : ProgramDecoder Decoded Event)
    (pipe : MultisigPipe Squads) (render : Json → String) (transaction : TransactionMetadata)
    (roots : List NestedInstruction) (lines : List String)
    (shared : ∀ node ∈ NestedInstruction.nodesOf roots, node.metadata.transactionMetadata = transaction)
    (paths : ((NestedInstruction.nodesOf roots).map (·.metadata.absolutePath)).Nodup)
    (emitted : lines.Perm ((transactionRecords tables decoder pipe roots).map render))
    (rendered : Set.InjOn render {record | record ∈ transactionRecords tables decoder pipe roots}) :
    lines.Nodup ↔ Distinguished tables decoder pipe roots := by
  have keys : ((NestedInstruction.nodesOf roots).map fun node =>
      Json.string (occurrencePath node.metadata)).Nodup := by
    have different := List.pairwise_map.mp paths
    refine List.pairwise_map.mpr (different.imp ?_)
    intro first second apart same
    exact apart (occurrencePath_injective (Json.string.inj same))
  have kinds : ∀ left ∈ (NestedInstruction.nodesOf roots).flatMap (placedRecords tables decoder pipe),
      ∀ right ∈ ((NestedInstruction.nodesOf roots).flatMap (rejectionsOf tables decoder)).map
        (rejectionRecord transaction), isRejection left ≠ isRejection right := by
    intro left leftListed right rightListed
    obtain ⟨node, _, placed⟩ := List.mem_flatMap.mp leftListed
    obtain ⟨rejection, _, rfl⟩ := List.mem_map.mp rightListed
    have other : isRejection (rejectionRecord transaction rejection) = true := rfl
    rw [(placed_path placed).2, other]
    simp
  have texts : lines.Nodup ↔ (transactionRecords tables decoder pipe roots).Nodup := by
    rw [emitted.nodup_iff]
    constructor
    · intro distinct
      exact distinct.of_map
    · intro distinct
      exact distinct.map_on fun first listed second other same => rendered listed other same
  have placed : ((NestedInstruction.nodesOf roots).flatMap (placedRecords tables decoder pipe)).Nodup ↔
      ∀ node ∈ NestedInstruction.nodesOf roots, (placedRecords tables decoder pipe node).Nodup :=
    nodup_flatMap_iff_of_read keys fun node _ record listed => (placed_path listed).1
  rw [texts, (transactionRecords_split shared).nodup_iff, nodup_append_iff_of_read kinds, placed,
    List.nodup_map_iff rejectionRecord_injective]
  simp only [placedRecords_nodup_iff]
  constructor
  · intro distinct
    exact {
      logs := fun node listed => (distinct.1 node listed).1.1
      children := fun node listed => (distinct.1 node listed).1.2
      rejections := distinct.2
      settings := fun node listed => (distinct.1 node listed).2 }
  · intro distinguished
    refine ⟨fun node listed => ?_, distinguished.rejections⟩
    exact ⟨⟨distinguished.logs node listed, distinguished.children node listed⟩,
      distinguished.settings node listed⟩

/-! ## The path of a record -/

def pathOf (record : Json) : Option String := (record.field "instruction_path").toText

/-- A record that carries a path carries that of its instruction. -/
theorem nodeRecords_path {path : String} (listed : record ∈ nodeRecords tables decoder pipe node)
    (carried : pathOf record = some path) : path = occurrencePath node.metadata := by
  have ofPlaced (placed : record ∈ placedRecords tables decoder pipe node) :
      path = occurrencePath node.metadata := by
    rw [pathOf, (placed_path placed).1] at carried
    exact (Option.some.inj carried).symm
  rcases List.mem_append.mp listed with programs | activity
  · rw [(processNode_split rfl).mem_iff] at programs
    rcases List.mem_append.mp programs with own | rejected
    · exact ofPlaced (List.mem_append_left _ own)
    · obtain ⟨rejection, _, rfl⟩ := List.mem_map.mp rejected
      have pathless : pathOf (rejectionRecord node.metadata.transactionMetadata rejection) = none := rfl
      rw [pathless] at carried
      contradiction
  · exact ofPlaced (List.mem_append_right _ activity)

end Reading

/-! ## A settings execution

Compact texts of values without characters to escape, and a transaction with a
transfer that logs an event and passes one to itself, followed by settings
actions that a smart account applies at once.
-/

mutual

def compactText : Json → String
  | .null => "null"
  | .bool value => toString value
  | .number value => toString value
  | .otherNumber text => text
  | .string value => "\"" ++ value ++ "\""
  | .array elements => "[" ++ String.intercalate "," (compactTexts elements) ++ "]"
  | .object entries =>
      let sorted := (compactEntries entries).insertionSort fun first second => first.1 ≤ second.1
      "\x7b" ++ String.intercalate "," (sorted.map fun entry => "\"" ++ entry.1 ++ "\":" ++ entry.2) ++ "\x7d"

def compactTexts : List Json → List String
  | [] => []
  | element :: rest => compactText element :: compactTexts rest

def compactEntries : List (String × Json) → List (String × String)
  | [] => []
  | (name, entry) :: rest => (name, compactText entry) :: compactEntries rest

end

def smartAccountId : Address := "SMRTzfY6DfH5ik3TKiyLFfXexV8uSG3d2UksSCYdunG"

def settingsAddress : Address := "8opHzTAnfzRpPEx21XtnrVTX28YQuCpAjcn1PczScKh"

def vaultAddress : Address := "4vJ9JU1bJJE96FWSJKvHsmmFADCg4gpZQff4P3bkLKi"

def syncSettingsDiscriminator : Bytes := [138, 209, 64, 163, 79, 67, 233, 76]

/-- Decodes synchronous settings executions on one account, a byte an action. -/
def settingsDecoder : SquadsDecoder Bytes SquadsSmartAccountProgramInstruction where
  decodeInstruction instruction :=
    if instruction.programId = smartAccountId ∧ syncSettingsDiscriminator <+: instruction.data then
      some (instruction.data.drop 8)
    else none
  kind actions :=
    .executeSettingsTransactionSync settingsAddress <| actions.map fun action =>
      if action = 0 then .addSigner else if action = 1 then .removeSigner else .changeThreshold
  serialize actions :=
    .ok (.object [("type", .string "ExecuteSettingsTransactionSync"),
      ("data", .object [("actions", .array (actions.map fun action => .number action.toNat))])])

def settingsPipe : MultisigPipe Bytes := .v5 settingsDecoder vaultAddress settingsAddress

def loggingDecoder : ProgramDecoder TransferInstruction UInt8 :=
  transferDecoder monitoredId fun metadata => if metadata.absolutePath = [0] then [[0, 7], [0]] else []

def settingsExecution (actions : Bytes) : List NestedInstruction := [
  .node (metadataAt [0]) ⟨monitoredId, [1]⟩ [transferEventChild [0, 0]],
  .node (metadataAt [1]) ⟨smartAccountId, syncSettingsDiscriminator ++ actions⟩ []]

def settingsLines (actions : Bytes) : List String :=
  (transactionRecords asciiTables loggingDecoder settingsPipe (settingsExecution actions)).map compactText

theorem added_signers_share_line :
    ((NestedInstruction.nodesOf (settingsExecution [0, 0])).map (·.metadata.absolutePath)).Nodup ∧
      (settingsLines [0, 0]).length = 8 ∧ ¬ (settingsLines [0, 0]).Nodup := by
  decide +kernel

theorem lines_distinct_settings :
    (settingsLines [0, 2]).Nodup ↔
      Distinguished asciiTables loggingDecoder settingsPipe (settingsExecution [0, 2]) := by
  have distinct : (settingsLines [0, 2]).Nodup := by decide +kernel
  exact lines_distinct_iff asciiTables loggingDecoder settingsPipe compactText emptyTransaction _ _
    (by decide +kernel) (by decide +kernel) (List.Perm.refl _)
    (fun _ listed _ other same => List.inj_on_of_nodup_map distinct listed other same)

/-! ## Paths apart -/

/-- Paths are rendered alike exactly when they are the same, and records with
one path are of instructions with one path. -/
theorem instruction_path_identifies {Decoded Event Squads : Type} (tables : CaseTables)
    (decoder : ProgramDecoder Decoded Event) (pipe : MultisigPipe Squads) :
    (∀ first second : InstructionMetadata,
      occurrencePath first = occurrencePath second ↔ first.absolutePath = second.absolutePath) ∧
    ∀ first second : NestedInstruction, ∀ left ∈ nodeRecords tables decoder pipe first,
      ∀ right ∈ nodeRecords tables decoder pipe second, ∀ path,
        pathOf left = some path → pathOf right = some path →
          first.metadata.absolutePath = second.metadata.absolutePath := by
  constructor
  · intro first second
    constructor
    · exact occurrencePath_injective
    · intro same
      rw [occurrencePath, same, occurrencePath]
  · intro first second left ofFirst right ofSecond path leftPath rightPath
    have firstPath := nodeRecords_path ofFirst leftPath
    have secondPath := nodeRecords_path ofSecond rightPath
    exact occurrencePath_injective (firstPath.symm.trans secondPath)

theorem instruction_path_identifies_transfer :
    let bare : NestedInstruction := .node (metadataAt [0, 12]) ⟨monitoredId, [1]⟩ []
    let passing : NestedInstruction := .node (metadataAt [0, 12]) ⟨monitoredId, [1]⟩ [transferEventChild [0, 12, 0]]
    ∃ left ∈ nodeRecords asciiTables loggingDecoder settingsPipe bare,
      ∃ right ∈ nodeRecords asciiTables loggingDecoder settingsPipe passing,
        (kindOf left = some "program_instruction" ∧ pathOf left = some "0.12") ∧
        (kindOf right = some "program_event" ∧ pathOf right = some "0.12") ∧
          bare.metadata.absolutePath = passing.metadata.absolutePath := by
  intro bare passing
  have carried : ∃ left ∈ nodeRecords asciiTables loggingDecoder settingsPipe bare,
      ∃ right ∈ nodeRecords asciiTables loggingDecoder settingsPipe passing,
        (kindOf left = some "program_instruction" ∧ pathOf left = some "0.12") ∧
        (kindOf right = some "program_event" ∧ pathOf right = some "0.12") := by
    decide +kernel
  obtain ⟨left, ofBare, right, ofPassing, leftReads, rightReads⟩ := carried
  have same := (instruction_path_identifies asciiTables loggingDecoder settingsPipe).2 bare passing left ofBare
    right ofPassing "0.12" leftReads.2 rightReads.2
  exact ⟨left, ofBare, right, ofPassing, leftReads, rightReads, same⟩

end Microscope.Events
