import Microscope.Data.Json
import Microscope.Polling.Progress

namespace Microscope.Polling

open Std Microscope.Data

/-! # The checkpoint document

`CheckpointDocument` with its serde derivation: the JSON value it serializes
to, and how a JSON value is read back.  Reading and printing JSON text is
`serde_json`, which a `JsonCodec` stands for.
-/

structure CheckpointDocument where
  schemaVersion : Nat
  genesisHash : String
  programId : String
  addresses : List String
  cursors : ExtTreeMap String Slot
  recentSignatures : ExtTreeMap String Slot
  quarantinedSignatures : ExtTreeSet String
deriving DecidableEq

/-- Why a JSON value is not a checkpoint document. -/
inductive DocumentError where
  | invalidType
  | unknownField (name : String)
  | duplicateField (name : String)
  | missingField (name : String)
  | invalidField (name : String)
deriving DecidableEq, Repr

end Microscope.Polling

namespace Microscope.Data.Json

open Std Polling

def ofSlots (slots : ExtTreeMap String Slot) : Json :=
  .object (slots.toList.map fun entry => (entry.1, .number entry.2))

def toSlots : Json → Option (ExtTreeMap String Slot)
  | .object entries =>
      (entries.mapM fun (entry : String × Json) =>
        (entry.2.toUnsigned u64Max).map fun slot => (entry.1, slot)).map (OrderedMap.insertAll ∅)
  | _ => none

end Microscope.Data.Json

namespace Microscope.Polling

open Std Microscope.Data

def CheckpointDocument.toJson (document : CheckpointDocument) : Json :=
  .object [
    ("schema_version", .number document.schemaVersion),
    ("genesis_hash", .string document.genesisHash),
    ("program_id", .string document.programId),
    ("addresses", .ofStrings document.addresses),
    ("cursors", .ofSlots document.cursors),
    ("recent_signatures", .ofSlots document.recentSignatures),
    ("quarantined_signatures", .ofStrings document.quarantinedSignatures.toList)]

/-- The fields read so far. -/
structure DocumentFields where
  schemaVersion : Option Nat := none
  genesisHash : Option String := none
  programId : Option String := none
  addresses : Option (List String) := none
  cursors : Option (ExtTreeMap String Slot) := none
  recentSignatures : Option (ExtTreeMap String Slot) := none
  quarantinedSignatures : Option (ExtTreeSet String) := none

/-- A field may be read once, and must have its type. -/
def readValue {α : Type} (name : String) (known read : Option α) : Except DocumentError (Option α) :=
  match known, read with
  | some _, _ => .error (.duplicateField name)
  | none, none => .error (.invalidField name)
  | none, some value => .ok (some value)

/-- `deny_unknown_fields`: every name must be that of a field. -/
def readField (fields : DocumentFields) (entry : String × Json) :
    Except DocumentError DocumentFields :=
  match entry.1 with
  | "schema_version" => do
      let schemaVersion ← readValue entry.1 fields.schemaVersion (entry.2.toUnsigned u32Max)
      return { fields with schemaVersion }
  | "genesis_hash" => do
      let genesisHash ← readValue entry.1 fields.genesisHash entry.2.toText
      return { fields with genesisHash }
  | "program_id" => do
      let programId ← readValue entry.1 fields.programId entry.2.toText
      return { fields with programId }
  | "addresses" => do
      let addresses ← readValue entry.1 fields.addresses entry.2.toStrings
      return { fields with addresses }
  | "cursors" => do
      let cursors ← readValue entry.1 fields.cursors entry.2.toSlots
      return { fields with cursors }
  | "recent_signatures" => do
      let recentSignatures ← readValue entry.1 fields.recentSignatures entry.2.toSlots
      return { fields with recentSignatures }
  | "quarantined_signatures" => do
      let quarantinedSignatures ← readValue entry.1 fields.quarantinedSignatures
        (entry.2.toStrings.map fun values => ExtTreeSet.ofList values)
      return { fields with quarantinedSignatures }
  | name => .error (.unknownField name)

def requireField {α : Type} (name : String) : Option α → Except DocumentError α
  | none => .error (.missingField name)
  | some value => .ok value

/-- The last two fields have defaults. -/
def DocumentFields.finish (fields : DocumentFields) : Except DocumentError CheckpointDocument := do
  let schemaVersion ← requireField "schema_version" fields.schemaVersion
  let genesisHash ← requireField "genesis_hash" fields.genesisHash
  let programId ← requireField "program_id" fields.programId
  let addresses ← requireField "addresses" fields.addresses
  let cursors ← requireField "cursors" fields.cursors
  return {
    schemaVersion, genesisHash, programId, addresses, cursors
    recentSignatures := fields.recentSignatures.getD ∅
    quarantinedSignatures := fields.quarantinedSignatures.getD ∅ }

def documentFieldNames : List String :=
  ["schema_version", "genesis_hash", "program_id", "addresses", "cursors", "recent_signatures",
    "quarantined_signatures"]

/-- The derived reader takes an object by field names, or an array by field
positions. -/
def CheckpointDocument.fromJson : Json → Except DocumentError CheckpointDocument
  | .object entries => do
      let fields ← entries.foldlM readField {}
      fields.finish
  | .array elements => do
      if elements.length > documentFieldNames.length then
        .error .invalidType
      else
        let fields ← (documentFieldNames.zip elements).foldlM readField {}
        fields.finish
  | _ => .error .invalidType

/-! ## Reading a document back -/

/-- The numbers of a document fit their types. -/
structure CheckpointDocument.Bounded (document : CheckpointDocument) : Prop where
  schemaVersion : document.schemaVersion ≤ u32Max
  cursors : ∀ (address : String) (slot : Slot), document.cursors[address]? = some slot → slot ≤ u64Max
  recentSignatures : ∀ (signature : String) (slot : Slot),
    document.recentSignatures[signature]? = some slot → slot ≤ u64Max

theorem toSlots_ofSlots {slots : ExtTreeMap String Slot}
    (bounded : ∀ (key : String) (slot : Slot), slots[key]? = some slot → slot ≤ u64Max) :
    (Json.ofSlots slots).toSlots = some slots := by
  have each : ∀ entries : List (String × Slot), (∀ entry ∈ entries, entry.2 ≤ u64Max) →
      ((entries.map fun entry => (entry.1, Json.number entry.2)).mapM fun (entry : String × Json) =>
        (entry.2.toUnsigned u64Max).map fun slot => (entry.1, slot)) = some entries := by
    intro entries small
    induction entries with
    | nil => rfl
    | cons entry rest ih =>
        have smallEntry := small entry (by simp)
        have smallRest := ih fun other member => small other (by simp [member])
        rw [List.map_cons, List.mapM_cons, smallRest]
        simp [Json.toUnsigned, smallEntry]
  simp only [Json.ofSlots, Json.toSlots]
  rw [each slots.toList]
  · simp [OrderedMap.insertAll_toList]
  · rintro ⟨key, slot⟩ member
    exact bounded key slot (ExtTreeMap.mem_toList_iff_getElem?_eq_some.mp member)

theorem ofList_toList (values : ExtTreeSet String) : ExtTreeSet.ofList values.toList = values := by
  refine ExtTreeSet.ext_mem fun value => ?_
  simp [ExtTreeSet.mem_ofList]

theorem fromJson_toJson {document : CheckpointDocument} (bounded : document.Bounded) :
    CheckpointDocument.fromJson document.toJson = .ok document := by
  simp [CheckpointDocument.fromJson, CheckpointDocument.toJson, List.foldlM_cons, readField, readValue,
    Json.toUnsigned, Json.toText, toStrings_ofStrings, toSlots_ofSlots bounded.cursors,
    toSlots_ofSlots bounded.recentSignatures, bounded.schemaVersion, ofList_toList,
    DocumentFields.finish, requireField, bind, Except.bind, pure, Except.pure]

theorem toSlots_bounded {json : Json} {slots : ExtTreeMap String Slot}
    (read : json.toSlots = some slots) :
    ∀ (key : String) (slot : Slot), slots[key]? = some slot → slot ≤ u64Max := by
  have each : ∀ (entries : List (String × Json)) (parsed : List (String × Slot)),
      (entries.mapM fun (entry : String × Json) =>
        (entry.2.toUnsigned u64Max).map fun slot => (entry.1, slot)) = some parsed →
      ∀ entry ∈ parsed, entry.2 ≤ u64Max := by
    intro entries
    induction entries with
    | nil =>
        intro parsed same
        cases same
        simp
    | cons entry rest ih =>
        intro parsed same
        rw [List.mapM_cons] at same
        obtain ⟨first, number, same⟩ := Option.bind_eq_some_iff.mp same
        obtain ⟨others, read, same⟩ := Option.bind_eq_some_iff.mp same
        cases same
        obtain ⟨slot, number, rfl⟩ := Option.map_eq_some_iff.mp number
        have small : slot ≤ u64Max := by
          cases value : entry.2 with
          | number other =>
              rw [value, Json.toUnsigned] at number
              split at number
              · cases number
                assumption
              · cases number
          | _ => simp [value, Json.toUnsigned] at number
        intro other member
        rcases List.mem_cons.mp member with rfl | member
        · exact small
        · exact ih others read other member
  intro key slot found
  cases json with
  | object entries =>
      obtain ⟨parsed, parses, rfl⟩ := Option.map_eq_some_iff.mp read
      rcases OrderedMap.getElem?_insertAll found with member | absent
      · exact each entries parsed parses _ member
      · simp at absent
  | _ => cases read

/-- The numbers read so far fit their types. -/
structure DocumentFields.Bounded (fields : DocumentFields) : Prop where
  schemaVersion : ∀ version ∈ fields.schemaVersion, version ≤ u32Max
  cursors : ∀ slots ∈ fields.cursors, ∀ (address : String) (slot : Slot),
    slots[address]? = some slot → slot ≤ u64Max
  recentSignatures : ∀ slots ∈ fields.recentSignatures, ∀ (signature : String) (slot : Slot),
    slots[signature]? = some slot → slot ≤ u64Max

theorem readValue_eq {α : Type} {name : String} {known read value : Option α}
    (succeeds : readValue name known read = .ok value) : value = read := by
  cases known with
  | some _ => cases succeeds
  | none =>
      cases read with
      | none => cases succeeds
      | some _ =>
          cases succeeds
          rfl

theorem DocumentFields.Bounded.read {fields next : DocumentFields} {entry : String × Json}
    (bounded : fields.Bounded) (read : readField fields entry = .ok next) : next.Bounded := by
  unfold readField at read
  split at read
  · cases value : readValue entry.1 fields.schemaVersion (entry.2.toUnsigned u32Max) with
    | error error => simp [value, bind, Except.bind] at read
    | ok schemaVersion =>
        rw [value] at read
        cases read
        refine { bounded with schemaVersion := fun version known => ?_ }
        rw [readValue_eq value] at known
        cases number : entry.2 with
        | number other =>
            rw [number, Json.toUnsigned] at known
            split at known
            · cases known
              assumption
            · cases known
        | _ => simp [number, Json.toUnsigned] at known
  · cases value : readValue entry.1 fields.genesisHash entry.2.toText with
    | error error => simp [value, bind, Except.bind] at read
    | ok _ =>
        rw [value] at read
        cases read
        exact ⟨bounded.schemaVersion, bounded.cursors, bounded.recentSignatures⟩
  · cases value : readValue entry.1 fields.programId entry.2.toText with
    | error error => simp [value, bind, Except.bind] at read
    | ok _ =>
        rw [value] at read
        cases read
        exact ⟨bounded.schemaVersion, bounded.cursors, bounded.recentSignatures⟩
  · cases value : readValue entry.1 fields.addresses entry.2.toStrings with
    | error error => simp [value, bind, Except.bind] at read
    | ok _ =>
        rw [value] at read
        cases read
        exact ⟨bounded.schemaVersion, bounded.cursors, bounded.recentSignatures⟩
  · cases value : readValue entry.1 fields.cursors entry.2.toSlots with
    | error error => simp [value, bind, Except.bind] at read
    | ok cursors =>
        rw [value] at read
        cases read
        refine { bounded with cursors := fun slots known => ?_ }
        have same : entry.2.toSlots = some slots := by
          rw [← readValue_eq value]
          exact known
        exact toSlots_bounded same
  · cases value : readValue entry.1 fields.recentSignatures entry.2.toSlots with
    | error error => simp [value, bind, Except.bind] at read
    | ok recentSignatures =>
        rw [value] at read
        cases read
        refine { bounded with recentSignatures := fun slots known => ?_ }
        have same : entry.2.toSlots = some slots := by
          rw [← readValue_eq value]
          exact known
        exact toSlots_bounded same
  · cases value : readValue entry.1 fields.quarantinedSignatures
        (entry.2.toStrings.map fun values => ExtTreeSet.ofList values) with
    | error error => simp [value, bind, Except.bind] at read
    | ok _ =>
        rw [value] at read
        cases read
        exact ⟨bounded.schemaVersion, bounded.cursors, bounded.recentSignatures⟩
  · cases read

theorem DocumentFields.Bounded.readAll {entries : List (String × Json)} {fields final : DocumentFields}
    (bounded : fields.Bounded) (read : entries.foldlM readField fields = .ok final) :
    final.Bounded := by
  induction entries generalizing fields with
  | nil =>
      cases read
      exact bounded
  | cons entry rest ih =>
      rw [List.foldlM_cons] at read
      cases value : readField fields entry with
      | error error =>
          rw [value] at read
          cases read
      | ok next =>
          rw [value] at read
          exact ih (bounded.read value) read

theorem DocumentFields.Bounded.finish {fields : DocumentFields} {document : CheckpointDocument}
    (bounded : fields.Bounded) (finished : fields.finish = .ok document) : document.Bounded := by
  obtain ⟨version, genesis, program, addresses, cursors, recents, quarantined⟩ := fields
  cases version with
  | none => cases finished
  | some version =>
  cases genesis with
  | none => cases finished
  | some genesis =>
  cases program with
  | none => cases finished
  | some program =>
  cases addresses with
  | none => cases finished
  | some addresses =>
  cases cursors with
  | none => cases finished
  | some cursors =>
      cases finished
      refine ⟨bounded.schemaVersion version rfl, bounded.cursors cursors rfl, ?_⟩
      cases recents with
      | none => simp
      | some recents => exact bounded.recentSignatures recents rfl

/-- What is read as a document has numbers of the right size. -/
theorem fromJson_bounded {json : Json} {document : CheckpointDocument}
    (read : CheckpointDocument.fromJson json = .ok document) : document.Bounded := by
  have empty : ({} : DocumentFields).Bounded := ⟨by simp, by simp, by simp⟩
  have folds : ∀ entries : List (String × Json),
      (entries.foldlM readField {} >>= DocumentFields.finish) = .ok document → document.Bounded := by
    intro entries read
    cases folded : entries.foldlM readField {} with
    | error error =>
        rw [folded] at read
        cases read
    | ok fields =>
        rw [folded] at read
        exact (empty.readAll folded).finish read
  cases json with
  | object entries => exact folds entries read
  | array elements =>
      unfold CheckpointDocument.fromJson at read
      dsimp only at read
      split at read
      · cases read
      · exact folds _ read
  | _ => cases read

/-- `serde_json`: parsing inverts pretty printing on documents, also with the
newline that is appended to the file. -/
structure JsonCodec where
  fromSlice : Bytes → Except String Json
  toVecPretty : Json → Bytes
  /-- The text of an error met while reading a value. -/
  message : DocumentError → String
  fromSlice_toVecPretty : ∀ document : CheckpointDocument, document.Bounded →
    fromSlice (toVecPretty document.toJson ++ [10]) = .ok document.toJson

/-! ## A codec

The codec below prints the listed documents as `serde_json` does.  Any other
document gets a code that starts with a zero byte, which no JSON text does.
-/

namespace CheckpointDocument

variable (document : CheckpointDocument)

/-- The lines of a nested value, which continue the line of its name. -/
def nestedText (opening closing : String) : List String → String
  | [] => opening ++ closing
  | items => opening ++ "\n    " ++ String.intercalate ",\n    " items ++ "\n  " ++ closing

def quoted (value : String) : String := "\"" ++ value ++ "\""

def slotsText (slots : ExtTreeMap String Slot) : String :=
  nestedText "\x7b" "\x7d" (slots.toList.map fun entry => quoted entry.1 ++ ": " ++ toString entry.2)

def stringsText (values : List String) : String :=
  nestedText "[" "]" (values.map quoted)

/-- The pretty printed text of a document whose strings need no escapes. -/
def text : String :=
  let fields := [
    ("schema_version", toString document.schemaVersion),
    ("genesis_hash", quoted document.genesisHash),
    ("program_id", quoted document.programId),
    ("addresses", stringsText document.addresses),
    ("cursors", slotsText document.cursors),
    ("recent_signatures", slotsText document.recentSignatures),
    ("quarantined_signatures", stringsText document.quarantinedSignatures.toList)]
  "\x7b\n  " ++ String.intercalate ",\n  " (fields.map fun field => quoted field.1 ++ ": " ++ field.2) ++
    "\n\x7d"

def bytes : Bytes := document.text.toUTF8.toList

def textCode (value : String) : List Nat := value.toList.map Char.toNat

def codedText (code : List Nat) : String := String.ofList (code.map Char.ofNat)

def slotsCode (slots : ExtTreeMap String Slot) : List (List Nat × Nat) :=
  slots.toList.map fun entry => (textCode entry.1, entry.2)

def codedSlots (code : List (List Nat × Nat)) : ExtTreeMap String Slot :=
  OrderedMap.insertAll ∅ (code.map fun entry => (codedText entry.1, entry.2))

abbrev Code :=
  Nat × List Nat × List Nat × List (List Nat) × List (List Nat × Nat) × List (List Nat × Nat) ×
    List (List Nat)

/-- A number for every document. -/
def code : Nat :=
  Encodable.encode (α := Code) (document.schemaVersion, textCode document.genesisHash,
    textCode document.programId, document.addresses.map textCode, slotsCode document.cursors,
    slotsCode document.recentSignatures, document.quarantinedSignatures.toList.map textCode)

def coded (number : Nat) : Option CheckpointDocument :=
  (Encodable.decode number : Option Code).map
    fun (version, genesis, program, addresses, cursors, recents, quarantined) => {
      schemaVersion := version, genesisHash := codedText genesis, programId := codedText program
      addresses := addresses.map codedText, cursors := codedSlots cursors
      recentSignatures := codedSlots recents
      quarantinedSignatures := ExtTreeSet.ofList (quarantined.map codedText) }

theorem codedText_textCode (value : String) : codedText (textCode value) = value := by
  simp [codedText, textCode, Function.comp_def]

theorem map_codedText (values : List String) : (values.map textCode).map codedText = values := by
  simp [Function.comp_def, codedText_textCode]

theorem codedSlots_slotsCode (slots : ExtTreeMap String Slot) : codedSlots (slotsCode slots) = slots := by
  simp [codedSlots, slotsCode, Function.comp_def, codedText_textCode, OrderedMap.insertAll_toList]

theorem coded_code : coded document.code = some document := by
  simp only [coded, code, Encodable.encodek, Option.map_some, codedText_textCode, map_codedText,
    codedSlots_slotsCode, ofList_toList]

end CheckpointDocument

namespace JsonCodec

variable (documents : List CheckpointDocument)

def sampleBytes (document : CheckpointDocument) : Bytes :=
  if document ∈ documents then document.bytes else 0 :: List.replicate document.code 1

def sampleToVecPretty (json : Json) : Bytes :=
  match CheckpointDocument.fromJson json with
  | .error _ => []
  | .ok document => sampleBytes documents document

def sampleFromSlice (raw : Bytes) : Except String Json :=
  match documents.find? fun document => document.bytes ++ [10] = raw with
  | some document => .ok document.toJson
  | none =>
      match CheckpointDocument.coded (raw.length - 2) with
      | none => .error "expected value at line 1 column 1"
      | some document => .ok document.toJson

/-- The listed documents are told apart by their texts. -/
structure Separates : Prop where
  distinct : (documents.map CheckpointDocument.bytes).Nodup
  visible : ∀ document ∈ documents, document.bytes.head? ≠ some 0

theorem separates_nil : Separates [] := ⟨List.nodup_nil, by simp⟩

variable {documents}

theorem sampleFromSlice_listed {document : CheckpointDocument} (separates : Separates documents)
    (listed : document ∈ documents) :
    sampleFromSlice documents (document.bytes ++ [10]) = .ok document.toJson := by
  have found : documents.find? (fun other => other.bytes ++ [10] = document.bytes ++ [10]) =
      some document := by
    cases found : documents.find? (fun other => other.bytes ++ [10] = document.bytes ++ [10]) with
    | none => simpa using List.find?_eq_none.mp found document listed
    | some other =>
        have same : other.bytes = document.bytes := by simpa using List.find?_some found
        rw [List.inj_on_of_nodup_map separates.distinct (List.mem_of_find?_eq_some found) listed same]
  rw [sampleFromSlice, found]

theorem sampleFromSlice_unlisted {document : CheckpointDocument} (separates : Separates documents) :
    sampleFromSlice documents (0 :: List.replicate document.code 1 ++ [10]) = .ok document.toJson := by
  have absent : documents.find? (fun other =>
      other.bytes ++ [10] = 0 :: List.replicate document.code 1 ++ [10]) = none := by
    rw [List.find?_eq_none]
    intro other listed same
    have visible := separates.visible other listed
    cases bytes : other.bytes with
    | nil => simp [bytes] at same
    | cons first rest => simp_all
  have length : (0 :: List.replicate document.code (1 : UInt8) ++ [10]).length - 2 = document.code := by
    simp
  rw [sampleFromSlice, absent]
  simp only [length, CheckpointDocument.coded_code]

/-- A codec that prints the listed documents as they are. -/
def sample (separates : Separates documents) : JsonCodec where
  fromSlice := sampleFromSlice documents
  toVecPretty := sampleToVecPretty documents
  message := fun _ => "invalid document"
  fromSlice_toVecPretty := by
    intro document bounded
    simp only [sampleToVecPretty, fromJson_toJson bounded, sampleBytes]
    split
    · rename_i listed
      exact sampleFromSlice_listed separates listed
    · exact sampleFromSlice_unlisted separates

end JsonCodec

end Microscope.Polling
