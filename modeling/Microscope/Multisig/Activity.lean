import Microscope.Events.Processor
import Microscope.Multisig.Instructions

namespace Microscope.Multisig

open Microscope.Data Microscope.Signals Microscope.Events

/-! # Multisig activity

`common::process` and the processors of the three versions: one record for
each action of an instruction on the configured multisig.
-/

structure AddressMatch where
  configuredAddress : Address
  stateAddress : Address
  squadsVersion : String
deriving DecidableEq

structure AddressResolver where
  resolved : AddressMatch

def AddressResolver.new (vaultAddress stateAddress : Address) (squadsVersion : String) : AddressResolver where
  resolved := { configuredAddress := vaultAddress, stateAddress, squadsVersion }

def AddressResolver.matchState (resolver : AddressResolver) (stateAddress : Address) : Option AddressMatch :=
  if stateAddress ≠ resolver.resolved.stateAddress then none else some resolver.resolved

def activityRecord (metadata : InstructionMetadata) (raw : Instruction) (addressMatch : AddressMatch)
    (idlVersion : String) (instruction : InstructionLogData) (action : String) : Json :=
  .object [
    ("kind", .string "multisig_activity"),
    ("provider", .string "squads"),
    ("squads_version", .string addressMatch.squadsVersion),
    ("idl_version", .string idlVersion),
    ("action", .string action),
    ("instruction", .string instruction.name),
    ("data", instruction.data),
    ("vault_address", .string addressMatch.configuredAddress),
    ("multisig_address", .string addressMatch.stateAddress),
    ("configured_address_kind", .string "default_vault"),
    ("program_id", .string raw.programId),
    ("instruction_index", .number metadata.index),
    ("instruction_path", .string (occurrencePath metadata)),
    ("stack_height", .number metadata.stackHeight),
    ("signature", .string metadata.transactionMetadata.signature),
    ("slot", .number metadata.transactionMetadata.slot),
    ("block_time", jsonBlockTime metadata.transactionMetadata.blockTime),
    ("failed", .bool metadata.transactionMetadata.failed)]

/-- What a processor passes to `common::process` beside the instruction. -/
structure Reading where
  serialized : Except String Json
  addressMatch : Option AddressMatch
  idlVersion : String
  actions : List String

/-- `common::process`. -/
def process (tables : CaseTables) (metadata : InstructionMetadata) (raw : Instruction) (reading : Reading) :
    Except String (List Json) :=
  match reading.addressMatch with
  | none => .ok []
  | some addressMatch => do
      let instruction ← instructionLogData tables reading.serialized
      return reading.actions.map (activityRecord metadata raw addressMatch reading.idlVersion instruction)

/-- The instruction is on the configured multisig and can be serialized. -/
def Reading.isReported (tables : CaseTables) (reading : Reading) : Bool :=
  reading.addressMatch.isSome && (instructionLogData tables reading.serialized).isOk

/-! ## Processors -/

/-- The generated decoder of a Squads program. -/
structure SquadsDecoder (Decoded Kind : Type) where
  decodeInstruction : Instruction → Option Decoded
  /-- The decoded instruction without the data that only its JSON value shows. -/
  kind : Decoded → Kind
  serialize : Decoded → Except String Json

section Processors

variable {Decoded : Type}

structure SquadsV3Processor (Decoded : Type) where
  decoder : SquadsDecoder Decoded SquadsMplInstruction
  addressResolver : AddressResolver

def SquadsV3Processor.read (processor : SquadsV3Processor Decoded) (decoded : Decoded) : Reading where
  serialized := processor.decoder.serialize decoded
  addressMatch := processor.addressResolver.matchState (processor.decoder.kind decoded).stateAddress
  idlVersion := "1.3.0"
  actions := (processor.decoder.kind decoded).actions

structure SquadsV4Processor (Decoded : Type) where
  decoder : SquadsDecoder Decoded SquadsMultisigProgramInstruction
  addressResolver : AddressResolver

def SquadsV4Processor.read (processor : SquadsV4Processor Decoded) (decoded : Decoded) : Reading where
  serialized := processor.decoder.serialize decoded
  addressMatch := (processor.decoder.kind decoded).stateAddress.bind processor.addressResolver.matchState
  idlVersion := "2.1.0"
  actions := (processor.decoder.kind decoded).actions

structure SmartAccountProcessor (Decoded : Type) where
  decoder : SquadsDecoder Decoded SquadsSmartAccountProgramInstruction
  addressResolver : AddressResolver

def SmartAccountProcessor.read (processor : SmartAccountProcessor Decoded) (decoded : Decoded) : Reading where
  serialized := processor.decoder.serialize decoded
  addressMatch := (processor.decoder.kind decoded).stateAddress.bind processor.addressResolver.matchState
  idlVersion := "0.1.0"
  actions :=
    (processor.decoder.kind decoded).actions ++ (processor.decoder.kind decoded).appliedSettingsActions

/-- The pipe that `with_instruction_pipes` adds for a configured multisig. -/
inductive MultisigPipe (Decoded : Type) where
  | unconfigured
  | v3 (decoder : SquadsDecoder Decoded SquadsMplInstruction) (vaultAddress stateAddress : Address)
  | v4 (decoder : SquadsDecoder Decoded SquadsMultisigProgramInstruction) (vaultAddress stateAddress : Address)
  | v5 (decoder : SquadsDecoder Decoded SquadsSmartAccountProgramInstruction)
      (vaultAddress stateAddress : Address)

namespace MultisigPipe

/-- What the pipe reads of an instruction that its decoder decodes. -/
def read (raw : Instruction) : MultisigPipe Decoded → Option Reading
  | .unconfigured => none
  | .v3 decoder vaultAddress stateAddress =>
      (decoder.decodeInstruction raw).map
        (SquadsV3Processor.mk decoder (.new vaultAddress stateAddress "v3")).read
  | .v4 decoder vaultAddress stateAddress =>
      (decoder.decodeInstruction raw).map
        (SquadsV4Processor.mk decoder (.new vaultAddress stateAddress "v4")).read
  | .v5 decoder vaultAddress stateAddress =>
      (decoder.decodeInstruction raw).map
        (SmartAccountProcessor.mk decoder (.new vaultAddress stateAddress "v5")).read

def processNode (tables : CaseTables) (pipe : MultisigPipe Decoded) (node : NestedInstruction) : List Json :=
  match pipe.read node.instruction with
  | none => []
  | some reading => (process tables node.metadata node.instruction reading).toOption.getD []

/-- The settings actions that a reported instruction on the configured smart
account applies at once. -/
def appliedAtOnce (tables : CaseTables) (raw : Instruction) : MultisigPipe Decoded → List SettingsAction
  | .v5 decoder vaultAddress stateAddress =>
      match decoder.decodeInstruction raw with
      | none => []
      | some decoded =>
          let reading := (SmartAccountProcessor.mk decoder (.new vaultAddress stateAddress "v5")).read decoded
          if reading.isReported tables then (decoder.kind decoded).settingsActions else []
  | _ => []

end MultisigPipe

end Processors

/-! ## Records of an instruction -/

section Records

variable {Decoded : Type} {tables : CaseTables} {pipe : MultisigPipe Decoded} {node : NestedInstruction}
  {metadata : InstructionMetadata} {raw : Instruction} {addressMatch : AddressMatch} {idlVersion : String}
  {instruction : InstructionLogData} {reading : Reading} {record : Json}

theorem activityRecord_injective :
    Function.Injective (activityRecord metadata raw addressMatch idlVersion instruction) := by
  intro first second same
  simp only [activityRecord, Json.object.injEq, List.cons.injEq, Prod.mk.injEq, Json.string.injEq,
    true_and, and_true] at same
  exact same

theorem process_cases (tables : CaseTables) (metadata : InstructionMetadata) (raw : Instruction)
    (reading : Reading) :
    (reading.isReported tables = false ∧ (process tables metadata raw reading).toOption.getD [] = []) ∨
      (reading.isReported tables = true ∧ ∃ addressMatch instruction,
        (process tables metadata raw reading).toOption.getD [] = reading.actions.map
          (activityRecord metadata raw addressMatch reading.idlVersion instruction)) := by
  cases matched : reading.addressMatch with
  | none =>
      left
      simp [Reading.isReported, process, matched, Except.toOption]
  | some addressMatch =>
      cases serialized : instructionLogData tables reading.serialized with
      | error reason =>
          left
          simp [Reading.isReported, process, matched, serialized, Except.toOption, Except.isOk,
            Except.toBool, bind, Except.bind]
      | ok instruction =>
          right
          constructor
          · simp [Reading.isReported, matched, serialized, Except.isOk, Except.toBool]
          · exact ⟨addressMatch, instruction, by
              simp [process, matched, serialized, Except.toOption, bind, Except.bind, pure, Except.pure]⟩

theorem process_nodup_iff :
    ((process tables metadata raw reading).toOption.getD []).Nodup ↔
      (reading.isReported tables = true → reading.actions.Nodup) := by
  rcases process_cases tables metadata raw reading with ⟨passed, records⟩ | ⟨reported, _, _, records⟩
  · rw [records, passed]
    simp
  · rw [records, List.nodup_map_iff activityRecord_injective, reported]
    simp

/-- A pipe repeats a record of an instruction only for a repeated settings action. -/
theorem processNode_nodup_iff :
    (pipe.processNode tables node).Nodup ↔ (pipe.appliedAtOnce tables node.instruction).Nodup := by
  cases pipe with
  | unconfigured => simp [MultisigPipe.processNode, MultisigPipe.read, MultisigPipe.appliedAtOnce]
  | v3 decoder vaultAddress stateAddress =>
      simp only [MultisigPipe.processNode, MultisigPipe.read, MultisigPipe.appliedAtOnce]
      cases decoder.decodeInstruction node.instruction with
      | none => simp
      | some decoded =>
          simp only [Option.map_some, process_nodup_iff, List.nodup_nil, iff_true]
          intro _
          exact v3_actions_nodup (decoder.kind decoded)
  | v4 decoder vaultAddress stateAddress =>
      simp only [MultisigPipe.processNode, MultisigPipe.read, MultisigPipe.appliedAtOnce]
      cases decoder.decodeInstruction node.instruction with
      | none => simp
      | some decoded =>
          simp only [Option.map_some, process_nodup_iff, List.nodup_nil, iff_true]
          intro _
          exact v4_actions_nodup (decoder.kind decoded)
  | v5 decoder vaultAddress stateAddress =>
      simp only [MultisigPipe.processNode, MultisigPipe.read, MultisigPipe.appliedAtOnce]
      cases decoder.decodeInstruction node.instruction with
      | none => simp
      | some decoded =>
          simp only [Option.map_some, process_nodup_iff]
          split
          · rename_i reported
            simp only [reported, true_implies]
            exact v5_actions_nodup_iff (decoder.kind decoded)
          · rename_i passed
            simp [passed]

theorem mem_processNode (listed : record ∈ pipe.processNode tables node) :
    ∃ addressMatch idlVersion instruction action, record =
      activityRecord node.metadata node.instruction addressMatch idlVersion instruction action := by
  unfold MultisigPipe.processNode at listed
  split at listed
  · contradiction
  · rename_i reading _
    rcases process_cases tables node.metadata node.instruction reading with
      ⟨_, records⟩ | ⟨_, addressMatch, instruction, records⟩
    · rw [records] at listed
      contradiction
    · rw [records] at listed
      obtain ⟨action, _, rfl⟩ := List.mem_map.mp listed
      exact ⟨addressMatch, reading.idlVersion, instruction, action, rfl⟩

end Records

end Microscope.Multisig
