import Microscope.Data.Program
import Microscope.Polling.Document

namespace Microscope.Polling

open Std Microscope.Data

/-! # The checkpoint store

What `CheckpointStore` writes and how it reads it back.  The operations on the
file itself are a `CheckpointFile`, so that the store can run over a file
system as well as inside the poller task.
-/

/-- The text of an input/output error. -/
abbrev IoError := String

def checkpointSchemaVersion : Nat := 1

def checkpointWriteInterval : Nat := 60000

def checkpointActivityWriteInterval : Nat := 10000

structure CheckpointMismatch where
  reason : String
deriving DecidableEq, Repr

structure CheckpointIdentity where
  genesisHash : String
  programId : String
  addresses : List String
deriving DecidableEq, Repr

structure CheckpointStore where
  path : String
  identity : CheckpointIdentity
  replayWindowSlots : Slot
  lastWriteCompletedAt : Option Instant
deriving DecidableEq, Repr

structure CheckpointSnapshot (Signature : Type) [LinearOrder Signature] where
  cursors : ExtTreeMap Address AddressCursor
  recentSignatures : ExtTreeMap Signature Slot
  quarantinedSignatures : ExtTreeSet Signature

/-- What the content of a checkpoint file of the right identity amounts to. -/
inductive CheckpointReading (Signature : Type) [LinearOrder Signature] where
  | corrupt (reason : String)
  | loaded (snapshot : CheckpointSnapshot Signature)

inductive CheckpointLoadOutcome (Signature : Type) [LinearOrder Signature] where
  | missing
  | loaded (snapshot : CheckpointSnapshot Signature)
  | corrupt (reason : String)

inductive CheckpointLoadError where
  | mismatch (error : CheckpointMismatch)
  | io (error : IoError)
deriving DecidableEq, Repr

/-- `CheckpointStore::new` sorts and deduplicates the addresses. -/
def CheckpointStore.new (path genesisHash programId : String) (addresses : List String)
    (replayWindowSlots : Slot) : CheckpointStore where
  path := path
  identity := { genesisHash, programId, addresses := (addresses.insertionSort (· ≤ ·)).dedup }
  replayWindowSlots := replayWindowSlots
  lastWriteCompletedAt := none

namespace CheckpointStore

variable {Signature : Type} [LinearOrder Signature] [SignatureText Signature]
  (store : CheckpointStore) (codec : JsonCodec)

/-! ## Content -/

def validateIdentity (document : CheckpointDocument) : Except CheckpointMismatch Unit :=
  let checkpoint := "RPC checkpoint " ++ store.path
  if document.schemaVersion ≠ checkpointSchemaVersion then
    .error { reason := checkpoint ++ " uses schema version " ++ toString document.schemaVersion ++
      ", expected " ++ toString checkpointSchemaVersion }
  else if document.genesisHash ≠ store.identity.genesisHash then
    .error { reason := checkpoint ++ " belongs to genesis hash " ++ document.genesisHash ++
      ", not " ++ store.identity.genesisHash }
  else if document.programId ≠ store.identity.programId then
    .error { reason := checkpoint ++ " belongs to program " ++ document.programId ++
      ", not " ++ store.identity.programId }
  else if document.addresses ≠ store.identity.addresses then
    .error { reason := checkpoint ++
      " monitors different addresses; remove it before changing the deployment target" }
  else
    .ok ()

def parseRecentSignature (entry : String × Slot) : Except String (Signature × Slot) :=
  match SignatureText.fromText entry.1 with
  | none => .error ("checkpoint contains invalid signature " ++ entry.1)
  | some signature => .ok (signature, entry.2)

def parseRecentSignatures (recentSignatures : ExtTreeMap String Slot) :
    Except String (ExtTreeMap Signature Slot) := do
  let parsed : List (Signature × Slot) ← recentSignatures.toList.mapM parseRecentSignature
  return OrderedMap.insertAll ∅ parsed

def parseQuarantinedSignature (encoded : String) : Except String Signature :=
  match SignatureText.fromText encoded with
  | none => .error ("checkpoint contains invalid quarantined signature " ++ encoded)
  | some signature => .ok signature

def parseQuarantinedSignatures (quarantinedSignatures : ExtTreeSet String) :
    Except String (ExtTreeSet Signature) := do
  let parsed : List Signature ← quarantinedSignatures.toList.mapM parseQuarantinedSignature
  return ExtTreeSet.ofList parsed

/-- Stored cursors are rewound by one replay window. -/
def rewindCursors (cursors : ExtTreeMap String Slot) : ExtTreeMap Address AddressCursor :=
  cursors.map fun _ scannedSlot => { scannedSlot := scannedSlot - store.replayWindowSlots }

/-- `load` after the file has been read, up to moving a corrupt file aside. -/
def interpret (raw : Bytes) : Except CheckpointMismatch (CheckpointReading Signature) :=
  match codec.fromSlice raw with
  | .error error => .ok (.corrupt ("checkpoint JSON is invalid: " ++ error))
  | .ok json =>
      match CheckpointDocument.fromJson json with
      | .error error => .ok (.corrupt ("checkpoint JSON is invalid: " ++ codec.message error))
      | .ok document => do
          store.validateIdentity document
          if document.cursors.keys ≠ store.identity.addresses then
            return .corrupt "checkpoint has incomplete cursor data"
          match parseRecentSignatures document.recentSignatures with
          | .error reason => return .corrupt reason
          | .ok recentSignatures =>
              match parseQuarantinedSignatures document.quarantinedSignatures with
              | .error reason => return .corrupt reason
              | .ok quarantinedSignatures =>
                  return .loaded {
                    cursors := store.rewindCursors document.cursors
                    recentSignatures, quarantinedSignatures }

def renderQuarantinedSignatures (quarantinedSignatures : ExtTreeSet Signature) : ExtTreeSet String :=
  ExtTreeSet.ofList (quarantinedSignatures.toList.map SignatureText.toText)

def document (snapshot : CheckpointSnapshot Signature) : CheckpointDocument where
  schemaVersion := checkpointSchemaVersion
  genesisHash := store.identity.genesisHash
  programId := store.identity.programId
  addresses := store.identity.addresses
  cursors := snapshot.cursors.map fun _ cursor => cursor.scannedSlot
  recentSignatures := OrderedMap.mapKeys SignatureText.toText snapshot.recentSignatures
  quarantinedSignatures := renderQuarantinedSignatures snapshot.quarantinedSignatures

def encode (snapshot : CheckpointSnapshot Signature) : Bytes :=
  codec.toVecPretty (store.document snapshot).toJson ++ [10]

end CheckpointStore

/-! ## File operations -/

/-- The operations of the store on its file, and its clock. -/
structure CheckpointFile {Command : Type} (Response : Command → Type) where
  now : Program Response Instant
  read : Program Response (Except IoError (Option Bytes))
  install : Bytes → Program Response (Except IoError Unit)
  /-- Rename the file to its backup. -/
  moveAside : Program Response (Except IoError Unit)

namespace CheckpointStore

variable {Signature : Type} [LinearOrder Signature] [SignatureText Signature] {Command : Type}
  {Response : Command → Type} (file : CheckpointFile Response) (store : CheckpointStore)
  (codec : JsonCodec)

def load : Program Response (Except CheckpointLoadError (CheckpointLoadOutcome Signature)) := do
  match ← file.read with
  | .error error => return .error (.io error)
  | .ok none => return .ok .missing
  | .ok (some raw) =>
      match (store.interpret codec raw : Except _ (CheckpointReading Signature)) with
      | .error mismatch => return .error (.mismatch mismatch)
      | .ok (.loaded snapshot) => return .ok (.loaded snapshot)
      | .ok (.corrupt reason) =>
          match ← file.moveAside with
          | .error error => return .error (.io error)
          | .ok _ => return .ok (.corrupt reason)

/-- Whether the last write is long enough ago. -/
def writeDue (activity : Bool) : Program Response Bool :=
  match store.lastWriteCompletedAt with
  | none => return true
  | some saved => do
      let now ← file.now
      return now - saved ≥
        if activity then checkpointActivityWriteInterval else checkpointWriteInterval

/-- A partial cursor set is never written, because `load` rejects it. -/
def saveIfDue (snapshot : CheckpointSnapshot Signature) (activity : Bool) :
    Program Response (Except IoError Bool × CheckpointStore) := do
  if snapshot.cursors.keys ≠ store.identity.addresses then
    return (.ok false, store)
  if ← store.writeDue file activity then
    match ← file.install (store.encode codec snapshot) with
    | .error error => return (.error error, store)
    | .ok _ =>
        let savedAt ← file.now
        return (.ok true, { store with lastWriteCompletedAt := some savedAt })
  else
    return (.ok false, store)

end CheckpointStore

/-! ## Reading back what was written -/

/-- The slots of a snapshot are `u64` values. -/
structure CheckpointSnapshot.Bounded {Signature : Type} [LinearOrder Signature]
    (snapshot : CheckpointSnapshot Signature) : Prop where
  cursors : ∀ (address : Address) (cursor : AddressCursor),
    snapshot.cursors[address]? = some cursor → cursor.scannedSlot ≤ u64Max
  recentSignatures : ∀ (signature : Signature) (slot : Slot),
    snapshot.recentSignatures[signature]? = some slot → slot ≤ u64Max

theorem CheckpointSnapshot.bounded_of_all {Signature : Type} [LinearOrder Signature]
    {snapshot : CheckpointSnapshot Signature}
    (cursors : snapshot.cursors.toList.all fun entry => entry.2.scannedSlot ≤ u64Max)
    (recentSignatures : snapshot.recentSignatures.toList.all fun entry => entry.2 ≤ u64Max) :
    snapshot.Bounded where
  cursors := by
    intro address cursor found
    simpa using List.all_eq_true.mp cursors _ (ExtTreeMap.mem_toList_iff_getElem?_eq_some.mpr found)
  recentSignatures := by
    intro signature slot found
    simpa using List.all_eq_true.mp recentSignatures _
      (ExtTreeMap.mem_toList_iff_getElem?_eq_some.mpr found)

/-- The snapshot a restart resumes from. -/
def CheckpointSnapshot.rewind {Signature : Type} [LinearOrder Signature] (replayWindowSlots : Slot)
    (snapshot : CheckpointSnapshot Signature) : CheckpointSnapshot Signature :=
  { snapshot with
    cursors := snapshot.cursors.map fun _ cursor =>
      { scannedSlot := cursor.scannedSlot - replayWindowSlots } }

/-- What the poller hands to the store. -/
def PollingState.snapshot {Signature : Type} [LinearOrder Signature] (state : PollingState Signature) :
    CheckpointSnapshot Signature where
  cursors := state.cursors
  recentSignatures := state.recentSignatures
  quarantinedSignatures := state.quarantinedSignatures

/-- The polling state a loaded snapshot is turned into. -/
def CheckpointSnapshot.resume {Signature : Type} [LinearOrder Signature]
    (snapshot : CheckpointSnapshot Signature) : PollingState Signature :=
  PollingState.restoreQuarantined
    { cursors := snapshot.cursors, recentSignatures := snapshot.recentSignatures }
    snapshot.quarantinedSignatures

section Snapshot

variable {Signature : Type} [LinearOrder Signature] {snapshot : CheckpointSnapshot Signature}

@[simp] theorem resume_cursors : snapshot.resume.cursors = snapshot.cursors := rfl

@[simp] theorem resume_recentSignatures :
    snapshot.resume.recentSignatures = snapshot.recentSignatures := rfl

@[simp] theorem mem_quarantined_resume {signature : Signature} :
    signature ∈ snapshot.resume.quarantinedSignatures ↔ signature ∈ snapshot.quarantinedSignatures :=
  PollingState.mem_quarantined_restoreQuarantined rfl

@[simp] theorem rewind_getElem? {replayWindowSlots : Slot} {address : Address} :
    (snapshot.rewind replayWindowSlots).cursors[address]? = snapshot.cursors[address]?.map
      fun cursor => { scannedSlot := cursor.scannedSlot - replayWindowSlots } := by
  simp [CheckpointSnapshot.rewind, ExtTreeMap.getElem?_map]

@[simp] theorem rewind_recentSignatures {replayWindowSlots : Slot} :
    (snapshot.rewind replayWindowSlots).recentSignatures = snapshot.recentSignatures := rfl

@[simp] theorem rewind_quarantinedSignatures {replayWindowSlots : Slot} :
    (snapshot.rewind replayWindowSlots).quarantinedSignatures = snapshot.quarantinedSignatures := rfl

@[simp] theorem rewind_keys {replayWindowSlots : Slot} :
    (snapshot.rewind replayWindowSlots).cursors.keys = snapshot.cursors.keys := ExtTreeMap.keys_map

end Snapshot

theorem CheckpointStore.mem_new_addresses {path genesisHash programId : String}
    {addresses : List String} {replayWindowSlots : Slot} {address : String} :
    address ∈ (CheckpointStore.new path genesisHash programId addresses
      replayWindowSlots).identity.addresses ↔ address ∈ addresses := by
  simp [CheckpointStore.new, List.mem_insertionSort]

namespace CheckpointStore

variable {Signature : Type} [LinearOrder Signature] [SignatureText Signature]
  {store : CheckpointStore} {codec : JsonCodec} {snapshot : CheckpointSnapshot Signature}

theorem document_bounded (store : CheckpointStore) (bounded : snapshot.Bounded) :
    (store.document snapshot).Bounded where
  schemaVersion := show checkpointSchemaVersion ≤ u32Max by decide
  cursors := by
    intro address slot found
    simp only [document, ExtTreeMap.getElem?_map, Option.map_eq_some_iff] at found
    obtain ⟨cursor, found, rfl⟩ := found
    exact bounded.cursors address cursor found
  recentSignatures := by
    intro encoded slot found
    obtain ⟨signature, _, found⟩ :=
      (OrderedMap.getElem?_mapKeys_iff SignatureText.toText_injective).mp found
    exact bounded.recentSignatures signature slot found

/-- Only the identity of a store goes into what it writes. -/
theorem encode_congr {other : CheckpointStore} (same : store.identity = other.identity) :
    store.encode codec snapshot = other.encode codec snapshot := by
  simp only [encode, document, same]

theorem mapM_map_ok {α β ε : Type} {render : α → β} {parse : β → Except ε α}
    (inverse : ∀ value, parse (render value) = .ok value) (values : List α) :
    (values.map render).mapM parse = .ok values := by
  induction values with
  | nil => rfl
  | cons value rest ih =>
      rw [List.map_cons, List.mapM_cons, inverse, ih]
      rfl

theorem parseRecentSignatures_mapKeys (recentSignatures : ExtTreeMap Signature Slot) :
    parseRecentSignatures (OrderedMap.mapKeys SignatureText.toText recentSignatures) =
      .ok recentSignatures := by
  let render : Signature × Slot → String × Slot := fun entry => (SignatureText.toText entry.1, entry.2)
  have lookup : ∀ entry : String × Slot,
      entry ∈ (OrderedMap.mapKeys SignatureText.toText recentSignatures).toList ↔
        ∃ source, render source = entry ∧ recentSignatures[source.1]? = some source.2 := by
    rintro ⟨encoded, slot⟩
    rw [ExtTreeMap.mem_toList_iff_getElem?_eq_some,
      OrderedMap.getElem?_mapKeys_iff SignatureText.toText_injective]
    simp [render, Prod.ext_iff]
  obtain ⟨parsed, rendered⟩ : ∃ parsed : List (Signature × Slot), parsed.map render =
      (OrderedMap.mapKeys SignatureText.toText recentSignatures).toList := by
    change _ ∈ Set.range (List.map render)
    rw [Set.range_list_map]
    intro entry member
    obtain ⟨source, same, _⟩ := (lookup entry).mp member
    exact ⟨source, same⟩
  have nodup : (parsed.map Prod.fst).Nodup := by
    have keys : (OrderedMap.mapKeys SignatureText.toText recentSignatures).keys.Nodup :=
      ExtTreeMap.nodup_keys
    rw [← ExtTreeMap.map_fst_toList_eq_keys, ← rendered, List.map_map] at keys
    exact List.Nodup.of_map SignatureText.toText (by rwa [List.map_map])
  have injective : Function.Injective render := by
    rintro ⟨first, firstSlot⟩ ⟨second, secondSlot⟩ same
    have text : SignatureText.toText first = SignatureText.toText second := congrArg Prod.fst same
    have slots : firstSlot = secondSlot := congrArg Prod.snd same
    rw [SignatureText.toText_injective text, slots]
  have inverse : ∀ entry, parseRecentSignature (render entry) = .ok entry := by
    rintro ⟨signature, slot⟩
    simp [parseRecentSignature, render, SignatureText.fromText_toText]
  rw [parseRecentSignatures, ← rendered, mapM_map_ok inverse]
  refine congrArg Except.ok (ExtTreeMap.ext_getElem? fun signature => Option.ext fun slot => ?_)
  rw [OrderedMap.getElem?_insertAll_iff nodup, ← List.mem_map_of_injective injective, rendered, lookup]
  constructor
  · rintro ⟨source, same, found⟩
    rwa [injective same] at found
  · intro found
    exact ⟨(signature, slot), rfl, found⟩

theorem parseQuarantinedSignatures_render (quarantinedSignatures : ExtTreeSet Signature) :
    parseQuarantinedSignatures (renderQuarantinedSignatures quarantinedSignatures) =
      .ok quarantinedSignatures := by
  have member : ∀ encoded : String,
      encoded ∈ (renderQuarantinedSignatures quarantinedSignatures).toList ↔
        ∃ signature ∈ quarantinedSignatures, SignatureText.toText signature = encoded := by
    intro encoded
    simp [renderQuarantinedSignatures, ExtTreeSet.mem_ofList]
  obtain ⟨parsed, rendered⟩ : ∃ parsed : List Signature, parsed.map SignatureText.toText =
      (renderQuarantinedSignatures quarantinedSignatures).toList := by
    change _ ∈ Set.range (List.map SignatureText.toText)
    rw [Set.range_list_map]
    intro encoded present
    obtain ⟨signature, _, same⟩ := (member encoded).mp present
    exact ⟨signature, same⟩
  have inverse : ∀ signature : Signature,
      parseQuarantinedSignature (SignatureText.toText signature) = .ok signature := by
    intro signature
    simp [parseQuarantinedSignature, SignatureText.fromText_toText]
  rw [parseQuarantinedSignatures, ← rendered, mapM_map_ok inverse]
  refine congrArg Except.ok (ExtTreeSet.ext_mem fun signature => ?_)
  rw [ExtTreeSet.mem_ofList, List.contains_iff_mem,
    ← List.mem_map_of_injective SignatureText.toText_injective, rendered, member]
  constructor
  · rintro ⟨source, present, same⟩
    rwa [SignatureText.toText_injective same] at present
  · intro present
    exact ⟨signature, present, rfl⟩

/-- A store reads back what a store of the same identity wrote, with the
cursors rewound. -/
theorem interpret_encode {reader : CheckpointStore} (bounded : snapshot.Bounded)
    (same : reader.identity = store.identity) (complete : snapshot.cursors.keys = store.identity.addresses) :
    reader.interpret codec (store.encode codec snapshot) =
      .ok (.loaded (snapshot.rewind reader.replayWindowSlots)) := by
  have keys : (store.document snapshot).cursors.keys = reader.identity.addresses := by
    rw [same, ← complete]
    exact ExtTreeMap.keys_map
  have rewound : reader.rewindCursors (store.document snapshot).cursors =
      (snapshot.rewind reader.replayWindowSlots).cursors := by
    refine ExtTreeMap.ext_getElem? fun address => ?_
    simp [rewindCursors, document, CheckpointSnapshot.rewind, ExtTreeMap.getElem?_map]
  have valid : reader.validateIdentity (store.document snapshot) = .ok () := by
    simp [validateIdentity, document, same]
  have documentBounded := document_bounded store bounded
  simp only [interpret, encode, codec.fromSlice_toVecPretty _ documentBounded,
    fromJson_toJson documentBounded, valid, keys, rewound]
  simp only [document, parseRecentSignatures_mapKeys, parseQuarantinedSignatures_render, ne_eq,
    not_true_eq_false, if_false]
  rfl

end CheckpointStore

end Microscope.Polling
