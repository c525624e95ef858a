import Microscope.Polling.Durability

namespace Microscope.Polling

open Std Microscope.Data

/-! # Checkpoints of another version or target

A file that holds a checkpoint of another schema version, cluster or program
is refused and left where it is, if every field of it is one that this version
of the store reads.
-/

/-! ## Which objects are read -/

/-- The field is known, and has its type. -/
def fieldTyped (entry : String × Json) : Bool :=
  match entry.1 with
  | "schema_version" => (entry.2.toUnsigned u32Max).isSome
  | "genesis_hash" => entry.2.toText.isSome
  | "program_id" => entry.2.toText.isSome
  | "addresses" => entry.2.toStrings.isSome
  | "cursors" => entry.2.toSlots.isSome
  | "recent_signatures" => entry.2.toSlots.isSome
  | "quarantined_signatures" => entry.2.toStrings.isSome
  | _ => false

def requiredFields : List String :=
  ["schema_version", "genesis_hash", "program_id", "addresses", "cursors"]

/-- The object has the fields of a checkpoint document: no other, none twice,
and none of the first five missing. -/
structure Readable (entries : List (String × Json)) : Prop where
  typed : ∀ entry ∈ entries, fieldTyped entry = true
  distinct : (entries.map Prod.fst).Nodup
  complete : ∀ name ∈ requiredFields, name ∈ entries.map Prod.fst

/-- The fields are those of the entries read so far. -/
structure Reads (entries : List (String × Json)) (fields : DocumentFields) : Prop where
  typed : ∀ entry ∈ entries, fieldTyped entry = true
  schemaVersion : fields.schemaVersion = (entries.lookup "schema_version").bind (Json.toUnsigned u32Max)
  genesisHash : fields.genesisHash = (entries.lookup "genesis_hash").bind Json.toText
  programId : fields.programId = (entries.lookup "program_id").bind Json.toText
  addresses : fields.addresses = (entries.lookup "addresses").bind Json.toStrings
  cursors : fields.cursors = (entries.lookup "cursors").bind Json.toSlots
  recentSignatures : fields.recentSignatures =
    (entries.lookup "recent_signatures").bind Json.toSlots
  quarantinedSignatures : fields.quarantinedSignatures =
    (entries.lookup "quarantined_signatures").bind fun value =>
      value.toStrings.map fun values => ExtTreeSet.ofList values

variable {entries done rest : List (String × Json)} {entry : String × Json} {fields : DocumentFields}

theorem reads_nil : Reads [] {} := by
  constructor <;> simp

theorem lookup_eq_none {name : String} (absent : name ∉ entries.map Prod.fst) :
    entries.lookup name = none := by
  rw [List.lookup_eq_none_iff]
  intro entry member
  have different : entry.1 ≠ name := fun same => absent (same ▸ List.mem_map_of_mem member)
  simpa using different.symm

theorem exists_lookup {name : String} (member : name ∈ entries.map Prod.fst) :
    ∃ value, entries.lookup name = some value := by
  cases found : entries.lookup name with
  | some value => exact ⟨value, rfl⟩
  | none =>
      obtain ⟨entry, inside, rfl⟩ := List.mem_map.mp member
      have different := List.lookup_eq_none_iff.mp found entry inside
      simp at different

theorem lookup_snoc {name other : String} {value : Json} (fresh : other ∉ done.map Prod.fst) :
    (done ++ [(other, value)]).lookup name =
      if name = other then some value else done.lookup name := by
  rw [List.lookup_append]
  by_cases same : name = other
  · subst same
    simp [lookup_eq_none fresh]
  · simp [same, List.lookup_cons, beq_false_of_ne same]

/-- A value is read when it has its type and its name has not been read. -/
theorem readValue_cases {α : Type} {name : String} {known : Option α} {convert : Json → Option α}
    {value : Json} (same : known = (done.lookup name).bind convert)
    (typed : ∀ value, (name, value) ∈ done → (convert value).isSome = true) :
    (∃ error, readValue name known (convert value) = .error error ∧
      ¬(name ∉ done.map Prod.fst ∧ (convert value).isSome = true)) ∨
    ∃ read, convert value = some read ∧ readValue name known (convert value) = .ok (some read) ∧
      name ∉ done.map Prod.fst := by
  by_cases fresh : name ∉ done.map Prod.fst
  · rw [lookup_eq_none fresh, Option.bind_none] at same
    subst same
    cases converted : convert value with
    | none => exact .inl ⟨_, rfl, by simp⟩
    | some read => exact .inr ⟨read, rfl, rfl, fresh⟩
  · obtain ⟨earlier, found⟩ := exists_lookup (not_not.mp fresh)
    obtain ⟨known', converted⟩ := Option.isSome_iff_exists.mp (typed earlier (mem_of_lookup found))
    rw [found, Option.bind_some, converted] at same
    subst same
    exact .inl ⟨_, rfl, fun both => fresh both.1⟩

/-- One field of the reader, given what storing its value does. -/
theorem Reads.store {α : Type} {name : String} {known : Option α} {value : Json}
    (reads : Reads done fields) (convert : Json → Option α) (set : Option α → DocumentFields)
    (same : known = (done.lookup name).bind convert)
    (typed : ∀ value, fieldTyped (name, value) = (convert value).isSome)
    (stores : ∀ read, convert value = some read → name ∉ done.map Prod.fst →
      (∀ entry ∈ done ++ [(name, value)], fieldTyped entry = true) →
      Reads (done ++ [(name, value)]) (set (some read))) :
    (∃ error, (do return set (← readValue name known (convert value))) =
        (.error error : Except DocumentError DocumentFields) ∧
      ¬(name ∉ done.map Prod.fst ∧ fieldTyped (name, value) = true)) ∨
    ∃ next, (do return set (← readValue name known (convert value))) =
        (.ok next : Except DocumentError DocumentFields) ∧
      (name ∉ done.map Prod.fst ∧ fieldTyped (name, value) = true) ∧
      Reads (done ++ [(name, value)]) next := by
  have typedDone : ∀ value, (name, value) ∈ done → (convert value).isSome = true :=
    fun value member => typed value ▸ reads.typed _ member
  rcases readValue_cases same typedDone with
    ⟨error, failed, unread⟩ | ⟨read, converted, succeeded, fresh⟩
  · exact .inl ⟨error, by rw [failed]; rfl, by rwa [typed]⟩
  · have typedValue : fieldTyped (name, value) = true := by simp [typed, converted]
    refine .inr ⟨set (some read), by rw [succeeded]; rfl, ⟨fresh, typedValue⟩, ?_⟩
    refine stores read converted fresh ?_
    intro entry member
    rcases List.mem_append.mp member with member | member
    · exact reads.typed entry member
    · rwa [List.mem_singleton.mp member]

/-- An entry is read when its field has its type and has not been read. -/
theorem Reads.readField (entry : String × Json) (reads : Reads done fields) :
    (∃ error, readField fields entry = .error error ∧
      ¬(entry.1 ∉ done.map Prod.fst ∧ fieldTyped entry = true)) ∨
    ∃ next, readField fields entry = .ok next ∧
      (entry.1 ∉ done.map Prod.fst ∧ fieldTyped entry = true) ∧ Reads (done ++ [entry]) next := by
  obtain ⟨name, value⟩ := entry
  unfold Polling.readField
  dsimp only
  split
  · refine reads.store (Json.toUnsigned u32Max) (fun schemaVersion => { fields with schemaVersion })
      reads.schemaVersion (fun _ => rfl)
      fun read converted fresh typed => ⟨typed, ?_, ?_, ?_, ?_, ?_, ?_, ?_⟩
    all_goals simp [lookup_snoc fresh, converted, reads.genesisHash, reads.programId,
      reads.addresses, reads.cursors, reads.recentSignatures, reads.quarantinedSignatures]
  · refine reads.store Json.toText (fun genesisHash => { fields with genesisHash })
      reads.genesisHash (fun _ => rfl) fun read converted fresh typed => ⟨typed, ?_, ?_, ?_, ?_, ?_, ?_, ?_⟩
    all_goals simp [lookup_snoc fresh, converted, reads.schemaVersion, reads.programId,
      reads.addresses, reads.cursors, reads.recentSignatures, reads.quarantinedSignatures]
  · refine reads.store Json.toText (fun programId => { fields with programId })
      reads.programId (fun _ => rfl) fun read converted fresh typed => ⟨typed, ?_, ?_, ?_, ?_, ?_, ?_, ?_⟩
    all_goals simp [lookup_snoc fresh, converted, reads.schemaVersion, reads.genesisHash,
      reads.addresses, reads.cursors, reads.recentSignatures, reads.quarantinedSignatures]
  · refine reads.store Json.toStrings (fun addresses => { fields with addresses })
      reads.addresses (fun _ => rfl) fun read converted fresh typed => ⟨typed, ?_, ?_, ?_, ?_, ?_, ?_, ?_⟩
    all_goals simp [lookup_snoc fresh, converted, reads.schemaVersion, reads.genesisHash,
      reads.programId, reads.cursors, reads.recentSignatures, reads.quarantinedSignatures]
  · refine reads.store Json.toSlots (fun cursors => { fields with cursors })
      reads.cursors (fun _ => rfl) fun read converted fresh typed => ⟨typed, ?_, ?_, ?_, ?_, ?_, ?_, ?_⟩
    all_goals simp [lookup_snoc fresh, converted, reads.schemaVersion, reads.genesisHash,
      reads.programId, reads.addresses, reads.recentSignatures, reads.quarantinedSignatures]
  · refine reads.store Json.toSlots (fun recentSignatures => { fields with recentSignatures })
      reads.recentSignatures (fun _ => rfl)
      fun read converted fresh typed => ⟨typed, ?_, ?_, ?_, ?_, ?_, ?_, ?_⟩
    all_goals simp [lookup_snoc fresh, converted, reads.schemaVersion, reads.genesisHash,
      reads.programId, reads.addresses, reads.cursors, reads.quarantinedSignatures]
  · refine reads.store (fun value => value.toStrings.map fun values => ExtTreeSet.ofList values)
      (fun quarantinedSignatures => { fields with quarantinedSignatures })
      reads.quarantinedSignatures (fun _ => by simp [fieldTyped])
      fun read converted fresh typed => ⟨typed, ?_, ?_, ?_, ?_, ?_, ?_, ?_⟩
    all_goals simp [lookup_snoc fresh, converted, reads.schemaVersion, reads.genesisHash,
      reads.programId, reads.addresses, reads.cursors, reads.recentSignatures]
  · rename_i version genesis program addresses cursors recents quarantined
    refine .inl ⟨_, rfl, fun both => ?_⟩
    have untyped : fieldTyped (name, value) = false := by
      unfold fieldTyped
      dsimp only
      split <;> first | rfl | contradiction
    rw [untyped] at both
    exact Bool.false_ne_true both.2

theorem Reads.foldlM (rest : List (String × Json)) (reads : Reads done fields) :
    (∃ error, rest.foldlM Polling.readField fields = .error error ∧
      ¬(((done ++ rest).map Prod.fst).Nodup ∧ ∀ entry ∈ done ++ rest, fieldTyped entry = true)) ∨
    ∃ final, rest.foldlM Polling.readField fields = .ok final ∧ Reads (done ++ rest) final ∧
      ((done.map Prod.fst).Nodup → ((done ++ rest).map Prod.fst).Nodup) := by
  induction rest generalizing done fields with
  | nil =>
      rw [List.append_nil]
      exact .inr ⟨fields, rfl, reads, id⟩
  | cons entry rest ih =>
      rcases reads.readField entry with
        ⟨error, failed, unread⟩ | ⟨next, read, ⟨fresh, typed⟩, reads⟩
      · refine .inl ⟨error, by rw [List.foldlM_cons, failed]; rfl, ?_⟩
        rintro ⟨distinct, allTyped⟩
        refine unread ⟨?_, allTyped entry (by simp)⟩
        rw [List.map_append, List.nodup_append] at distinct
        intro member
        exact distinct.2.2 _ member _ (by simp) rfl
      · have continued : (entry :: rest).foldlM Polling.readField fields =
            rest.foldlM Polling.readField next := by
          rw [List.foldlM_cons, read]
          rfl
        rw [continued, show done ++ entry :: rest = done ++ [entry] ++ rest by simp]
        rcases ih reads with failed | ⟨final, folded, reads, distinct⟩
        · exact .inl failed
        · refine .inr ⟨final, folded, reads, fun doneDistinct => distinct ?_⟩
          rw [List.map_append, List.nodup_append]
          refine ⟨doneDistinct, by simp, ?_⟩
          intro name member other same
          rw [List.map_singleton, List.mem_singleton] at same
          subst same
          exact fun equal => fresh (equal ▸ member)

/-- The five required fields are those of the document, or one is missing. -/
theorem finish_cases (fields : DocumentFields) :
    (∃ error, fields.finish = .error error ∧
      (fields.schemaVersion = none ∨ fields.genesisHash = none ∨ fields.programId = none ∨
        fields.addresses = none ∨ fields.cursors = none)) ∨
    ∃ document, fields.finish = .ok document ∧
      fields.schemaVersion = some document.schemaVersion ∧
      fields.genesisHash = some document.genesisHash ∧ fields.programId = some document.programId ∧
      fields.addresses = some document.addresses ∧ fields.cursors = some document.cursors := by
  obtain ⟨version, genesis, program, addresses, cursors, recents, quarantined⟩ := fields
  cases version with
  | none => exact .inl ⟨_, rfl, by simp⟩
  | some version =>
  cases genesis with
  | none => exact .inl ⟨_, rfl, by simp⟩
  | some genesis =>
  cases program with
  | none => exact .inl ⟨_, rfl, by simp⟩
  | some program =>
  cases addresses with
  | none => exact .inl ⟨_, rfl, by simp⟩
  | some addresses =>
  cases cursors with
  | none => exact .inl ⟨_, rfl, by simp⟩
  | some cursors => exact .inr ⟨_, rfl, rfl, rfl, rfl, rfl, rfl⟩

theorem absent_of_unread {α : Type} {convert : Json → Option α} {name : String}
    (readable : Readable entries) (required : name ∈ requiredFields)
    (typed : ∀ value, fieldTyped (name, value) = (convert value).isSome) :
    (entries.lookup name).bind convert ≠ none := by
  intro unread
  obtain ⟨value, found⟩ := exists_lookup (readable.complete name required)
  have converted : (convert value).isSome = true := by
    rw [← typed]
    exact readable.typed _ (mem_of_lookup found)
  rw [found, Option.bind_some] at unread
  simp [unread] at converted

theorem mem_of_read {α : Type} {convert : Json → Option α} {name : String} {read : α}
    (found : (entries.lookup name).bind convert = some read) : name ∈ entries.map Prod.fst := by
  obtain ⟨value, found, _⟩ := Option.bind_eq_some_iff.mp found
  exact List.mem_map_of_mem (mem_of_lookup found)

/-- An object is a checkpoint document exactly if it is readable, and then the
document has the fields of the object. -/
theorem fromJson_object_cases (entries : List (String × Json)) :
    (∃ error, CheckpointDocument.fromJson (.object entries) = .error error ∧ ¬Readable entries) ∨
    ∃ document, CheckpointDocument.fromJson (.object entries) = .ok document ∧ Readable entries ∧
      (entries.lookup "schema_version").bind (Json.toUnsigned u32Max) = some document.schemaVersion ∧
      (entries.lookup "genesis_hash").bind Json.toText = some document.genesisHash ∧
      (entries.lookup "program_id").bind Json.toText = some document.programId := by
  have folds : CheckpointDocument.fromJson (.object entries) =
      (entries.foldlM readField {} >>= DocumentFields.finish) := rfl
  rcases reads_nil.foldlM entries with
    ⟨error, failed, unread⟩ | ⟨fields, folded, reads, distinct⟩
  · have invalid : CheckpointDocument.fromJson (.object entries) = .error error := by
      rw [folds, failed]
      rfl
    exact .inl ⟨error, invalid, fun readable => unread ⟨readable.distinct, readable.typed⟩⟩
  rw [List.nil_append] at reads distinct
  rw [folded] at folds
  rcases finish_cases fields with
    ⟨error, failed, missing⟩ | ⟨document, finished, version, genesis, program, listed, scanned⟩
  · refine .inl ⟨error, folds.trans failed, fun readable => ?_⟩
    rcases missing with version | genesis | program | listed | scanned
    · exact absent_of_unread readable (by decide) (fun _ => rfl) (reads.schemaVersion ▸ version)
    · exact absent_of_unread readable (by decide) (fun _ => rfl) (reads.genesisHash ▸ genesis)
    · exact absent_of_unread readable (by decide) (fun _ => rfl) (reads.programId ▸ program)
    · exact absent_of_unread readable (by decide) (fun _ => rfl) (reads.addresses ▸ listed)
    · exact absent_of_unread readable (by decide) (fun _ => rfl) (reads.cursors ▸ scanned)
  · rw [reads.schemaVersion] at version
    rw [reads.genesisHash] at genesis
    rw [reads.programId] at program
    rw [reads.addresses] at listed
    rw [reads.cursors] at scanned
    have complete : ∀ name ∈ requiredFields, name ∈ entries.map Prod.fst := by
      intro name required
      simp only [requiredFields, List.mem_cons, List.not_mem_nil, or_false] at required
      rcases required with rfl | rfl | rfl | rfl | rfl
      · exact mem_of_read version
      · exact mem_of_read genesis
      · exact mem_of_read program
      · exact mem_of_read listed
      · exact mem_of_read scanned
    exact .inr ⟨document, folds.trans finished, ⟨reads.typed, distinct (by simp), complete⟩,
      version, genesis, program⟩

/-! ## Refusing -/

/-- The object names a schema version, a cluster and a program, and one of them
is not the store's. -/
def Foreign (identity : CheckpointIdentity) (entries : List (String × Json)) : Prop :=
  ∃ version genesisHash programId, entries.lookup "schema_version" = some version ∧
    version.isNumber = true ∧ entries.lookup "genesis_hash" = some (.string genesisHash) ∧
    entries.lookup "program_id" = some (.string programId) ∧
    (version.toUnsigned u32Max ≠ some checkpointSchemaVersion ∨
      genesisHash ≠ identity.genesisHash ∨ programId ≠ identity.programId)

variable {Signature : Type} [LinearOrder Signature] [SignatureText Signature]

abbrev CheckpointLoad (Signature : Type) [LinearOrder Signature] :=
  Program (@SystemCall.Response String UInt8 IoError)
    (Except CheckpointLoadError (CheckpointLoadOutcome Signature))

/-- Every load from this disk ends with a mismatch, and leaves the file. -/
def Refuses (Signature : Type) [LinearOrder Signature] [SignatureText Signature]
    (store : CheckpointStore) (codec : JsonCodec) (name : String) (disk : Disk) : Prop :=
  ∀ trace (result : Except CheckpointLoadError (CheckpointLoadOutcome Signature)) final,
    Program.Run (store.load (checkpointFile name) codec) trace result →
    Program.Executes diskEnvironment disk trace final →
    (∃ mismatch, result = .error (.mismatch mismatch)) ∧ final.read name = disk.read name

variable {store : CheckpointStore} {codec : JsonCodec} {name : String} {disk : Disk} {raw : Bytes}

theorem validateIdentity_foreign {document : CheckpointDocument}
    (different : document.schemaVersion ≠ checkpointSchemaVersion ∨
      document.genesisHash ≠ store.identity.genesisHash ∨
      document.programId ≠ store.identity.programId) :
    ∃ mismatch, store.validateIdentity document = .error mismatch := by
  unfold CheckpointStore.validateIdentity
  dsimp only
  by_cases version : document.schemaVersion = checkpointSchemaVersion
  · by_cases genesis : document.genesisHash = store.identity.genesisHash
    · have program : document.programId ≠ store.identity.programId := by
        simpa [version, genesis] using different
      rw [if_neg (not_not.mpr version), if_neg (not_not.mpr genesis), if_pos program]
      exact ⟨_, rfl⟩
    · rw [if_neg (not_not.mpr version), if_pos genesis]
      exact ⟨_, rfl⟩
  · rw [if_pos version]
    exact ⟨_, rfl⟩

theorem interpret_readable (parsed : codec.fromSlice raw = .ok (.object entries))
    (foreign : Foreign store.identity entries) (readable : Readable entries) :
    ∃ mismatch, (store.interpret codec raw : Except _ (CheckpointReading Signature)) =
      .error mismatch := by
  rcases fromJson_object_cases entries with
    ⟨error, _, unreadable⟩ | ⟨document, converted, _, version, genesis, program⟩
  · exact absurd readable unreadable
  obtain ⟨number, genesisHash, programId, versionFound, _, genesisFound, programFound, different⟩ :=
    foreign
  rw [versionFound, Option.bind_some] at version
  rw [genesisFound, Option.bind_some] at genesis
  rw [programFound, Option.bind_some] at program
  have sameGenesis : genesisHash = document.genesisHash := Option.some.inj genesis
  have sameProgram : programId = document.programId := Option.some.inj program
  have differs : document.schemaVersion ≠ checkpointSchemaVersion ∨
      document.genesisHash ≠ store.identity.genesisHash ∨
      document.programId ≠ store.identity.programId := by
    rw [version, sameGenesis, sameProgram] at different
    simpa using different
  obtain ⟨mismatch, rejected⟩ := validateIdentity_foreign differs
  refine ⟨mismatch, ?_⟩
  simp only [CheckpointStore.interpret, parsed, converted, rejected]
  rfl

theorem interpret_unreadable (parsed : codec.fromSlice raw = .ok (.object entries))
    (unreadable : ¬Readable entries) :
    ∃ reason, (store.interpret codec raw : Except _ (CheckpointReading Signature)) =
      .ok (.corrupt reason) := by
  rcases fromJson_object_cases entries with ⟨error, invalid, _⟩ | ⟨_, _, readable, _⟩
  · refine ⟨"checkpoint JSON is invalid: " ++ codec.message error, ?_⟩
    simp only [CheckpointStore.interpret, parsed, invalid]
  · exact absurd readable unreadable

/-- A mismatch ends the load after the file has been read. -/
theorem refuses_of_mismatch {mismatch : CheckpointMismatch} (found : disk.read name = some raw)
    (mismatched : (store.interpret codec raw : Except _ (CheckpointReading Signature)) = .error mismatch) :
    Refuses Signature store codec name disk := by
  intro trace result final run execution
  have load : ∃ next,
      (store.load (checkpointFile name) codec : CheckpointLoad Signature) = .call (.read name) next ∧
      next (.ok (some raw)) = .done (.error (.mismatch mismatch)) :=
    ⟨_, rfl, by simp [Program.bind, mismatched]⟩
  obtain ⟨next, load, answered⟩ := load
  rw [load] at run
  obtain ⟨response, rest, rfl, resumedRun⟩ := Program.run_call_iff.mp run
  cases execution with
  | step drift answer idle =>
      cases drift_eq drift
      cases answer
      rw [found, answered] at resumedRun
      obtain ⟨rfl, rfl⟩ := Program.run_done_iff.mp resumedRun
      cases idle with
      | idle drift => exact ⟨⟨mismatch, rfl⟩, by rw [drift_eq drift]⟩

/-- A corrupt file is moved aside, where the system calls succeed. -/
theorem corrupt_moved_aside {reason : String} (found : disk.read name = some raw)
    (corrupt : (store.interpret codec raw : Except _ (CheckpointReading Signature)) = .ok (.corrupt reason)) :
    ∃ trace final, Program.Run (store.load (checkpointFile name) codec : CheckpointLoad Signature) trace
        (.ok (.corrupt reason)) ∧
      Program.Executes diskEnvironment disk trace final ∧ final.read name = none := by
  obtain ⟨file, linked, _⟩ := Option.map_eq_some_iff.mp found
  have load : ∃ next,
      (store.load (checkpointFile name) codec : CheckpointLoad Signature) = .call (.read name) next ∧
      ∃ finish, next (.ok (some raw)) = ((checkpointFile name).moveAside >>= finish) ∧
        finish (.ok ()) = .done (.ok (.corrupt reason)) := by
    refine ⟨_, rfl, ?_⟩
    simp only [Program.bind, corrupt]
    exact ⟨_, rfl, rfl⟩
  obtain ⟨next, load, finish, answered, finished⟩ := load
  refine ⟨[⟨.read name, .ok (some raw)⟩, ⟨.now, (0 : Nat)⟩,
    ⟨.rename name (corruptName name 0), .ok ()⟩, ⟨.syncDirectory, .ok ()⟩],
    { disk.renamed name (corruptName name 0) file with unsettled := [] }, ?_, ?_, ?_⟩
  · rw [load]
    refine .step ?_
    rw [answered]
    have moved : Program.Run (finish (.ok ())) [] (.ok (.corrupt reason)) := by
      rw [finished]
      exact .start _
    exact .step (.step (.step moved))
  · exact .step .refl (found ▸ .read) (.step .refl .now (.step .refl (.renamed linked)
      (.step .refl .settled (.idle .refl))))
  · simp [FileSystem.read, FileSystem.renamed, FileSystem.relinked]

/-- A foreign checkpoint is refused exactly if all of it is readable. -/
theorem foreign_refused_iff (found : disk.read name = some raw)
    (parsed : codec.fromSlice raw = .ok (.object entries)) (foreign : Foreign store.identity entries) :
    Refuses Signature store codec name disk ↔ Readable entries := by
  constructor
  · intro refuses
    by_contra unreadable
    have corrupt : ∃ reason, (store.interpret codec raw : Except _ (CheckpointReading Signature)) =
        .ok (.corrupt reason) := interpret_unreadable parsed unreadable
    obtain ⟨reason, corrupt⟩ := corrupt
    obtain ⟨trace, final, run, execution, _⟩ := corrupt_moved_aside found corrupt
    obtain ⟨⟨mismatch, failed⟩, _⟩ := refuses trace _ final run execution
    contradiction
  · intro readable
    have mismatched : ∃ mismatch,
        (store.interpret codec raw : Except _ (CheckpointReading Signature)) = .error mismatch :=
      interpret_readable parsed foreign readable
    obtain ⟨mismatch, mismatched⟩ := mismatched
    exact refuses_of_mismatch found mismatched

/-! Two checkpoints of the next schema version: one has a field that this
version does not know. -/

/-- The codec also reads the given texts, which are no printed documents. -/
def JsonCodec.withTexts (codec : JsonCodec) (texts : List (Bytes × Json))
    (apart : ∀ document : CheckpointDocument, document.Bounded →
      texts.lookup (codec.toVecPretty document.toJson ++ [10]) = none) : JsonCodec where
  fromSlice raw :=
    match texts.lookup raw with
    | some json => .ok json
    | none => codec.fromSlice raw
  toVecPretty := codec.toVecPretty
  message := codec.message
  fromSlice_toVecPretty := by
    intro document bounded
    rw [apart document bounded]
    exact codec.fromSlice_toVecPretty document bounded

theorem emptySeparates : JsonCodec.Separates [] := JsonCodec.separates_nil

def nextEntries : List (String × Json) :=
  [("schema_version", .number 2), ("genesis_hash", .string "genesis"), ("program_id", .string "program"),
    ("addresses", .array [.string "program"]), ("cursors", .object [("program", .number 90)])]

def nextText (revision : String) : Bytes :=
  ("\x7b\"schema_version\": 2, \"genesis_hash\": \"genesis\", \"program_id\": \"program\", " ++
    "\"addresses\": [\"program\"], \"cursors\": \x7b\"program\": 90\x7d" ++ revision ++ "\x7d").toUTF8.toList

def revisedEntries : List (String × Json) := nextEntries ++ [("revision", .number 7)]

def revisedText : Bytes := nextText ", \"revision\": 7"

def nextTexts : List (Bytes × Json) :=
  [(nextText "", .object nextEntries), (revisedText, .object revisedEntries)]

/-- A printed document starts with a zero byte, and these texts with a brace. -/
theorem nextTexts_apart (document : CheckpointDocument) (bounded : document.Bounded) :
    nextTexts.lookup ((JsonCodec.sample emptySeparates).toVecPretty document.toJson ++ [10]) = none := by
  have visible : (nextText "").head? = some 123 ∧ revisedText.head? = some 123 := by decide +kernel
  rw [List.lookup_eq_none_iff]
  intro text member
  have printed : (JsonCodec.sample emptySeparates).toVecPretty document.toJson =
      0 :: List.replicate document.code 1 := by
    simp [JsonCodec.sample, JsonCodec.sampleToVecPretty, fromJson_toJson bounded, JsonCodec.sampleBytes]
  have braced : text.1.head? = some 123 := by
    simp only [nextTexts, List.mem_cons, List.not_mem_nil, or_false] at member
    rcases member with rfl | rfl
    · exact visible.1
    · exact visible.2
  rw [printed, bne_iff_ne]
  intro same
  rw [← same] at braced
  simp at braced

def nextCodec : JsonCodec := (JsonCodec.sample emptySeparates).withTexts nextTexts nextTexts_apart

def nextDisk (content : Bytes) : Disk where
  visible name := if name = "rpc-polling.json" then some 0 else none
  unsettled := []
  contents _ := content
  synced _ := true
  next := 1

theorem next_foreign : Foreign durableStore.identity nextEntries :=
  ⟨.number 2, "genesis", "program", rfl, rfl, rfl, rfl, .inl (by decide)⟩

theorem revised_foreign : Foreign durableStore.identity revisedEntries :=
  ⟨.number 2, "genesis", "program", rfl, rfl, rfl, rfl, .inl (by decide)⟩

theorem revised_parsed : nextCodec.fromSlice revisedText = .ok (.object revisedEntries) := by
  have found : nextTexts.lookup revisedText = some (.object revisedEntries) := by
    have different : (revisedText == nextText "") = false := by decide +kernel
    simp [nextTexts, List.lookup_cons, different]
  simp [nextCodec, JsonCodec.withTexts, found]

/-- The checkpoint of the next version is moved aside if it has a new field. -/
theorem foreign_moved_aside : ∃ trace reason final,
    Foreign durableStore.identity revisedEntries ∧
    nextCodec.fromSlice revisedText = .ok (.object revisedEntries) ∧
    (nextDisk revisedText).read "rpc-polling.json" = some revisedText ∧
    Program.Run (durableStore.load (checkpointFile "rpc-polling.json") nextCodec : CheckpointLoad (Fin 58))
      trace (.ok (.corrupt reason)) ∧
    Program.Executes diskEnvironment (nextDisk revisedText) trace final ∧
    final.read "rpc-polling.json" = none := by
  have unreadable : ¬Readable revisedEntries := by
    intro readable
    have typed := readable.typed ("revision", .number 7) (by simp [revisedEntries])
    simp [fieldTyped] at typed
  have corrupt : ∃ reason, (durableStore.interpret nextCodec revisedText :
      Except _ (CheckpointReading (Fin 58))) = .ok (.corrupt reason) :=
    interpret_unreadable revised_parsed unreadable
  obtain ⟨reason, corrupt⟩ := corrupt
  have stored : (nextDisk revisedText).read "rpc-polling.json" = some revisedText := rfl
  obtain ⟨trace, final, run, execution, moved⟩ := corrupt_moved_aside stored corrupt
  exact ⟨trace, reason, final, revised_foreign, revised_parsed, stored, run, execution, moved⟩

theorem next_readable : Readable nextEntries where
  typed := by
    simp [nextEntries, fieldTyped, Json.toUnsigned, Json.toText, Json.toStrings, Json.toSlots,
      u32Max, u64Max]
  distinct := by decide
  complete := by decide

/-- Without the new field it is refused. -/
theorem foreign_refused_next :
    Refuses (Fin 58) durableStore nextCodec "rpc-polling.json" (nextDisk (nextText "")) := by
  have stored : (nextDisk (nextText "")).read "rpc-polling.json" = some (nextText "") := rfl
  have parsed : nextCodec.fromSlice (nextText "") = .ok (.object nextEntries) := by
    simp [nextCodec, JsonCodec.withTexts, nextTexts]
  exact (foreign_refused_iff stored parsed next_foreign).mpr next_readable

end Microscope.Polling
