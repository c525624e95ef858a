import Microscope.Rpc
import Microscope.Data.Json
import Microscope.Data.Lines
import Microscope.Signals.Casing

namespace Microscope.Events

open Microscope.Data Microscope.Signals

/-! # Instructions

The instructions of a transaction as the pipeline passes them on, and what is
logged of them.
-/

structure TransactionMetadata where
  signature : String
  slot : Nat
  blockTime : Option Int
  /-- `meta.status.is_err()`. -/
  failed : Bool
  logMessages : Option (List String)
deriving DecidableEq

structure InstructionMetadata where
  transactionMetadata : TransactionMetadata
  stackHeight : Nat
  index : Nat
  absolutePath : List UInt8
deriving DecidableEq

structure Instruction where
  programId : Address
  data : Bytes
deriving DecidableEq

/-- An instruction and those it invoked. -/
inductive NestedInstruction where
  | node (metadata : InstructionMetadata) (instruction : Instruction) (inner : List NestedInstruction)

namespace NestedInstruction

def metadata : NestedInstruction → InstructionMetadata
  | .node metadata _ _ => metadata

def instruction : NestedInstruction → Instruction
  | .node _ instruction _ => instruction

def innerInstructions : NestedInstruction → List NestedInstruction
  | .node _ _ inner => inner

mutual

/-- An instruction and everything below it. -/
def nodes : NestedInstruction → List NestedInstruction
  | .node metadata instruction inner => .node metadata instruction inner :: nodesOf inner

def nodesOf : List NestedInstruction → List NestedInstruction
  | [] => []
  | first :: rest => nodes first ++ nodesOf rest

end

mutual

/-- The pairs of an instruction and one that it invoked directly. -/
def edges : NestedInstruction → List (NestedInstruction × NestedInstruction)
  | .node metadata instruction inner =>
      inner.map (fun child => (.node metadata instruction inner, child)) ++ edgesOf inner

def edgesOf : List NestedInstruction → List (NestedInstruction × NestedInstruction)
  | [] => []
  | first :: rest => edges first ++ edgesOf rest

end

/-- The direct invocations of an instruction. -/
def invocations (parent : NestedInstruction) : List (NestedInstruction × NestedInstruction) :=
  parent.innerInstructions.map fun child => (parent, child)

mutual

theorem edges_eq : (tree : NestedInstruction) → edges tree = (nodes tree).flatMap invocations
  | .node metadata instruction inner => by
      rw [edges, nodes, List.flatMap_cons, edgesOf_eq inner]
      rfl

theorem edgesOf_eq : (trees : List NestedInstruction) → edgesOf trees = (nodesOf trees).flatMap invocations
  | [] => rfl
  | first :: rest => by
      rw [edgesOf, nodesOf, List.flatMap_append, edges_eq first, edgesOf_eq rest]

end

end NestedInstruction

/-! ## Occurrences -/

/-- `occurrence_path`. -/
def occurrencePath (metadata : InstructionMetadata) : String :=
  String.intercalate "." (metadata.absolutePath.map fun position => toString position.toNat)

theorem occurrencePath_injective {first second : InstructionMetadata}
    (same : occurrencePath first = occurrencePath second) : first.absolutePath = second.absolutePath := by
  have plain : ∀ path : List UInt8, ∀ part ∈ path.map fun position => (toString position.toNat).toList,
      part ≠ [] ∧ '.' ∉ part := by
    intro path part listed
    obtain ⟨position, _, rfl⟩ := List.mem_map.mp listed
    rw [toList_toString]
    refine ⟨Nat.toDigits_ne_nil, fun member => ?_⟩
    have digit := digit_toDigits member
    contradiction
  have lists := congrArg String.toList same
  have mark : ".".toList = ['.'] := by decide
  simp only [occurrencePath, String.toList_intercalate, List.map_map, mark] at lists
  have parts := intercalate_injective (plain _) (plain _) lists
  refine List.map_injective_iff.mpr ?_ parts
  intro position other equal
  exact UInt8.toNat_inj.mp (toString_injective (String.toList_inj.mp equal))

/-! ## Logged data -/

structure InstructionLogData where
  name : String
  data : Json

/-- `instructions::to_log_data`, of the instruction's JSON value. -/
def instructionLogData (tables : CaseTables) (serialized : Except String Json) :
    Except String InstructionLogData :=
  match serialized with
  | .error error => .error ("failed to serialize instruction: " ++ error)
  | .ok (.object entries) =>
      match (entries.lookup "type").bind Json.toText with
      | none => .error "serialized instruction is missing its type"
      | some variant =>
          match entries.lookup "data" with
          | none => .error "serialized instruction is missing its data"
          | some data => .ok { name := toSnakeCase tables variant, data }
  | .ok _ => .error "serialized instruction is not an object"

end Microscope.Events
