import Microscope.Data.FileSystem
import Microscope.Polling.Checkpoint

namespace Microscope.Polling

open Std Microscope.Data

/-! # The checkpoint on disk

The store runs over a directory whose unsynced changes a crash may undo.
However far a save has come, the file holds the previous checkpoint or the new
one.
-/

/-- `files::temporary_path`, within the directory of the file. -/
def temporaryName (name : String) : String := "." ++ name ++ ".tmp"

/-- `corrupt_path`, within the directory of the file. -/
def corruptName (name : String) (timestamp : Instant) : String :=
  name ++ ".corrupt-" ++ toString timestamp

theorem temporaryName_ne (name : String) : name ≠ temporaryName name := by
  intro same
  have longer : (temporaryName name).length = name.length + 5 := by
    have edges : ".".length = 1 ∧ ".tmp".length = 4 := by decide
    simp only [temporaryName, String.length_append, edges]
    omega
  rw [← same] at longer
  omega

/-- The calls of the store on the file `name` of its directory. -/
def checkpointFile (name : String) : CheckpointFile (@SystemCall.Response String UInt8 IoError) where
  now := .call .now .done
  read := .call (.read name) .done
  install encoded := replaceFile name (temporaryName name) encoded
  moveAside := .call .now fun timestamp => .call (.rename name (corruptName name timestamp)) fun
    | .error error => .done (.error error)
    | .ok _ => .call .syncDirectory .done

abbrev Disk := FileSystem String UInt8

abbrev diskEnvironment : Program.Environment (@SystemCall.Response String UInt8 IoError) Disk :=
  fileEnvironment

variable {Signature : Type} [LinearOrder Signature] [SignatureText Signature]
  {codec : JsonCodec} {store reader earlier : CheckpointStore} {name : String}
  {snapshot : CheckpointSnapshot Signature} {disk written crashed : Disk} {activity : Bool}
  {allowed : Set (Option Bytes)} {outcome : CheckpointLoadOutcome Signature}

/-! ## Saving -/

/-- What the file may hold once a save has begun. -/
def CheckpointStore.saved (store : CheckpointStore) (codec : JsonCodec)
    (snapshot : CheckpointSnapshot Signature) (allowed : Set (Option Bytes)) : Set (Option Bytes) :=
  { content | content ∈ allowed ∨
    snapshot.cursors.keys = store.identity.addresses ∧ content = some (store.encode codec snapshot) }

theorem now_secures {always : Disk → Prop} (holds : always disk) :
    (checkpointFile name).now.Secures diskEnvironment always (fun _ final => final = disk) disk := by
  refine ⟨holds, fun instant answered answer => ?_⟩
  cases answer
  exact ⟨holds, rfl⟩

theorem writeDue_secures {always : Disk → Prop} (holds : always disk) :
    (store.writeDue (checkpointFile name) activity).Secures diskEnvironment always
      (fun _ final => final = disk) disk := by
  unfold CheckpointStore.writeDue
  split
  · exact ⟨holds, rfl⟩
  · refine (now_secures holds).bind (fun _ kept => kept) ?_
    rintro instant final _ rfl
    exact ⟨holds, rfl⟩

theorem saveIfDue_secures (settled : disk.Settled name (temporaryName name) allowed) :
    (store.saveIfDue (checkpointFile name) codec snapshot activity).Secures diskEnvironment
      (fun disk => disk.Settled name (temporaryName name) (store.saved codec snapshot allowed))
      (fun result disk => result.1 = .ok true →
        disk.Settled name (temporaryName name) {some (store.encode codec snapshot)}) disk := by
  have kept : disk.Settled name (temporaryName name) (store.saved codec snapshot allowed) :=
    settled.mono fun _ member => .inl member
  unfold CheckpointStore.saveIfDue
  split
  · exact ⟨kept, by simp⟩
  rename_i complete
  have widen : insert (some (store.encode codec snapshot)) allowed ⊆
      store.saved codec snapshot allowed := by
    rintro content (rfl | member)
    · exact .inr ⟨not_not.mp complete, rfl⟩
    · exact .inl member
  refine (writeDue_secures kept).bind (fun _ kept => kept) ?_
  rintro due final _ rfl
  cases due with
  | false => exact ⟨kept, by simp⟩
  | true =>
      refine (replaceFile_secures (temporaryName_ne name) settled).bind
        (fun _ settled => settled.mono widen) fun result final reached installed => ?_
      cases result with
      | error error => exact ⟨reached.mono widen, by simp⟩
      | ok _ =>
          have settled := installed rfl
          have held := settled.mono (Set.singleton_subset_iff.mpr
            (widen (Set.mem_insert _ allowed)))
          refine (now_secures held).bind (fun _ kept => kept) ?_
          rintro instant after _ rfl
          exact ⟨held, fun _ => settled⟩

/-! ## Loading -/

/-- What a store finds on the disk. -/
def Loads (reader : CheckpointStore) (codec : JsonCodec) (name : String) (disk : Disk)
    (outcome : Except CheckpointLoadError (CheckpointLoadOutcome Signature)) : Prop :=
  ∃ trace final, Program.Run (reader.load (checkpointFile name) codec) trace outcome ∧
    Program.Executes diskEnvironment disk trace final

/-- The outcome of a load that finds this content. -/
def LoadsFrom (reader : CheckpointStore) (codec : JsonCodec) (content : Option Bytes)
    (outcome : CheckpointLoadOutcome Signature) : Prop :=
  match content with
  | none => outcome = .missing
  | some raw => ∃ snapshot, outcome = .loaded snapshot ∧
      reader.interpret codec raw = .ok (.loaded snapshot)

theorem drift_eq {final : Disk} (drift : diskEnvironment.Drifts disk final) : final = disk := by
  cases drift with
  | refl => rfl
  | tail _ move => exact move.elim

/-- A load reads the file, and needs nothing else where it is valid. -/
theorem load_eq_call (found : LoadsFrom reader codec (disk.read name) outcome) :
    ∃ next, reader.load (checkpointFile name) codec = .call (.read name) next ∧
      next (.ok (disk.read name)) = .done (.ok outcome) := by
  refine ⟨_, rfl, ?_⟩
  cases content : disk.read name with
  | none =>
      rw [content] at found
      rw [show outcome = .missing from found]
      rfl
  | some raw =>
      rw [content] at found
      obtain ⟨snapshot, rfl, interpreted⟩ := found
      simp [Program.bind, interpreted]

theorem loads_iff (found : LoadsFrom reader codec (disk.read name) outcome)
    {result : Except CheckpointLoadError (CheckpointLoadOutcome Signature)} :
    Loads reader codec name disk result ↔ result = .ok outcome := by
  obtain ⟨next, load, answered⟩ := load_eq_call found
  simp only [Loads, load]
  constructor
  · rintro ⟨trace, final, run, execution⟩
    obtain ⟨response, rest, rfl, resumedRun⟩ := Program.run_call_iff.mp run
    cases execution with
    | step drift answer =>
        cases drift_eq drift
        cases answer
        rw [answered] at resumedRun
        exact (Program.run_done_iff.mp resumedRun).2
  · rintro rfl
    refine ⟨[⟨.read name, .ok (disk.read name)⟩], disk, .step ?_, .step .refl .read (.idle .refl)⟩
    rw [answered]
    exact .start _

/-! ## Crashes -/

/-- What a store finds that resumes from this checkpoint, if there is one. -/
def resumed (reader : CheckpointStore) :
    Option (CheckpointSnapshot Signature) → CheckpointLoadOutcome Signature
  | none => .missing
  | some snapshot => .loaded (snapshot.rewind reader.replayWindowSlots)

/-- The checkpoint is one that a store of this identity could have saved. -/
structure Saveable (identity : CheckpointIdentity) (snapshot : CheckpointSnapshot Signature) :
    Prop where
  bounded : snapshot.Bounded
  complete : snapshot.cursors.keys = identity.addresses

theorem loadsFrom_encode (saveable : Saveable store.identity snapshot)
    (same : reader.identity = store.identity) :
    LoadsFrom reader codec (some (store.encode codec snapshot)) (resumed reader (some snapshot)) :=
  ⟨_, rfl, CheckpointStore.interpret_encode saveable.bounded same saveable.complete⟩

/-- A save writes nothing unless the cursors are those of the identity; and
however far it has come when the machine crashes, a store of the same identity
finds the previous checkpoint or the new one, whole and rewound. -/
theorem save_crash_atomic {previous : Option (CheckpointSnapshot Signature)}
    {trace : List (Program.Event (@SystemCall.Response String UInt8 IoError))}
    {rest : Program (@SystemCall.Response String UInt8 IoError) (Except IoError Bool × CheckpointStore)}
    (held : disk.Settled name (temporaryName name)
      {previous.map fun snapshot => earlier.encode codec snapshot})
    (sound : ∀ snapshot ∈ previous, Saveable earlier.identity snapshot)
    (bounded : snapshot.Bounded) (sameEarlier : earlier.identity = store.identity)
    (sameReader : reader.identity = store.identity)
    (reached : Program.Advances (store.saveIfDue (checkpointFile name) codec snapshot activity) trace rest)
    (execution : Program.Executes diskEnvironment disk trace written) :
    (snapshot.cursors.keys ≠ store.identity.addresses → trace = []) ∧
    ∀ crashed, FileSystem.Crash written crashed →
      ∃ outcome, (outcome = resumed reader previous ∨
          snapshot.cursors.keys = store.identity.addresses ∧ outcome = resumed reader (some snapshot)) ∧
        ∀ result, Loads reader codec name crashed result ↔ result = .ok outcome := by
  constructor
  · intro incomplete
    rw [CheckpointStore.saveIfDue, if_pos incomplete] at reached
    cases reached
    rfl
  intro crashed crashes
  have secured := (saveIfDue_secures held).advances (fun _ _ moved => moved) reached execution
  have content := (secured.holds.crash crashes).read_mem
  rcases content with same | ⟨complete, same⟩
  · refine ⟨_, .inl rfl, fun result => loads_iff ?_⟩
    rw [show crashed.read name = _ from same]
    cases previous with
    | none => rfl
    | some previous => exact loadsFrom_encode (sound previous rfl) (sameReader.trans sameEarlier.symm)
  · refine ⟨_, .inr ⟨complete, rfl⟩, fun result => loads_iff ?_⟩
    rw [same]
    exact loadsFrom_encode ⟨bounded, complete⟩ sameReader

/-! A save that crashes after its rename, over an older checkpoint and a
temporary file that an earlier crash left behind. -/

def durableStore : CheckpointStore :=
  .new "rpc-polling.json" "genesis" "program" ["program"] 10

def olderSnapshot : CheckpointSnapshot (Fin 58) where
  cursors := OrderedMap.insertAll ∅ [("program", ⟨90⟩)]
  recentSignatures := OrderedMap.insertAll ∅ [(1, 85)]
  quarantinedSignatures := ∅

def newerSnapshot : CheckpointSnapshot (Fin 58) where
  cursors := OrderedMap.insertAll ∅ [("program", ⟨100⟩)]
  recentSignatures := OrderedMap.insertAll ∅ [(1, 85), (2, 95)]
  quarantinedSignatures := ExtTreeSet.ofList [(2 : Fin 58)]

theorem durableSeparates : JsonCodec.Separates
    [durableStore.document olderSnapshot, durableStore.document newerSnapshot] where
  distinct := by decide +kernel
  visible := by decide +kernel

def durableCodec : JsonCodec := .sample durableSeparates

def durableDirectory (checkpoint : Nat) (temporary : Option Nat) (name : String) : Option Nat :=
  if name = "rpc-polling.json" then some checkpoint
  else if name = temporaryName "rpc-polling.json" then temporary
  else none

def durableDisk : Disk where
  visible := durableDirectory 0 (some 1)
  unsettled := []
  contents file := if file = 0 then durableStore.encode durableCodec olderSnapshot else [7]
  synced file := file = 0
  next := 2

theorem durableDisk_settled : durableDisk.Settled "rpc-polling.json" (temporaryName "rpc-polling.json")
    {(some olderSnapshot).map fun snapshot => durableStore.encode durableCodec snapshot} := by
  have current : ∀ directory, durableDisk.Reveals directory → directory = durableDirectory 0 (some 1) := by
    intro directory reveals
    rcases reveals with same | inside
    · exact same
    · contradiction
  have different := temporaryName_ne "rpc-polling.json"
  constructor
  · intro directory reveals absent
    rw [current directory reveals, durableDirectory, if_pos rfl] at absent
    contradiction
  · intro directory file reveals found
    rw [current directory reveals, durableDirectory, if_pos rfl] at found
    cases found
    exact ⟨rfl, rfl⟩
  · intro directory file reveals found
    rw [current directory reveals] at found ⊢
    rw [durableDirectory, if_pos rfl] at found
    cases found
    have scratch : durableDirectory 0 (some 1) (temporaryName "rpc-polling.json") = some 1 := by
      rw [durableDirectory, if_neg different.symm, if_pos rfl]
    exact ⟨by simp [scratch], by simp [durableDisk, scratch]⟩
  · intro directory member file reveals found
    rw [current directory reveals] at found
    unfold durableDirectory at found
    split at found
    · cases found
      decide
    · split at found
      · cases found
        decide
      · contradiction

/-- The disk when the temporary file has been renamed and the directory is not
yet synced. -/
def renamedDisk : Disk :=
  let filled := (durableDisk.modified 1 []).modified 1 (durableStore.encode durableCodec newerSnapshot)
  { filled with synced := Function.update filled.synced 1 true }.renamed
    (temporaryName "rpc-polling.json") "rpc-polling.json" 1

def renamedTrace : List (Program.Event (@SystemCall.Response String UInt8 IoError)) :=
  [⟨.createDirectories, .ok ()⟩, ⟨.openTruncated (temporaryName "rpc-polling.json"), .ok 1⟩,
    ⟨.write 1 (durableStore.encode durableCodec newerSnapshot), .ok ()⟩, ⟨.sync 1, .ok ()⟩,
    ⟨.rename (temporaryName "rpc-polling.json") "rpc-polling.json", .ok ()⟩]

theorem renamedTrace_reached : ∃ rest, Program.Advances
    (durableStore.saveIfDue (checkpointFile "rpc-polling.json") durableCodec newerSnapshot true)
    renamedTrace rest := by
  have complete : newerSnapshot.cursors.keys = durableStore.identity.addresses := by decide +kernel
  unfold CheckpointStore.saveIfDue
  rw [if_neg (not_not.mpr complete)]
  exact ⟨_, .step (.step (.step (.step (.step (.start _)))))⟩

theorem renamedTrace_executes : Program.Executes diskEnvironment durableDisk renamedTrace renamedDisk := by
  have scratch : durableDisk.visible (temporaryName "rpc-polling.json") = some 1 := by
    simp [durableDisk, durableDirectory, (temporaryName_ne "rpc-polling.json").symm]
  have appended : (durableDisk.modified 1 []).modified 1 ((durableDisk.modified 1 []).contents 1 ++
      durableStore.encode durableCodec newerSnapshot) =
      (durableDisk.modified 1 []).modified 1 (durableStore.encode durableCodec newerSnapshot) := by
    simp [FileSystem.modified]
  refine .step .refl .createDirectories (.step .refl (.truncated scratch) (.step .refl .written ?_))
  rw [appended]
  exact .step .refl .synced (.step .refl (.renamed scratch) (.idle .refl))

/-- The crash brings the old directory back. -/
def revertedDisk : Disk :=
  { renamedDisk with visible := durableDirectory 0 (some 1), unsettled := [] }

theorem revertedDisk_crash : FileSystem.Crash renamedDisk revertedDisk where
  directory := .inr (List.mem_singleton.mpr rfl)
  contents _ synced := ⟨rfl, synced⟩
  settled := rfl
  next := le_rfl

theorem save_crash_atomic_reverted :
    ∃ outcome, (outcome = resumed durableStore (some olderSnapshot) ∨
        newerSnapshot.cursors.keys = durableStore.identity.addresses ∧
          outcome = resumed durableStore (some newerSnapshot)) ∧
      ∀ result, Loads durableStore durableCodec "rpc-polling.json" revertedDisk result ↔
        result = .ok outcome := by
  obtain ⟨rest, reached⟩ := renamedTrace_reached
  refine (save_crash_atomic durableDisk_settled ?_ ?_ rfl rfl reached renamedTrace_executes).2
    revertedDisk revertedDisk_crash
  · rintro snapshot ⟨⟩
    exact ⟨CheckpointSnapshot.bounded_of_all (by decide +kernel) (by decide +kernel), by decide +kernel⟩
  · exact CheckpointSnapshot.bounded_of_all (by decide +kernel) (by decide +kernel)

end Microscope.Polling
