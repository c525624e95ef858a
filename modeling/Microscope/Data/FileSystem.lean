import Mathlib.Logic.Function.Basic
import Mathlib.Data.Set.Insert
import Microscope.Data.Program

namespace Microscope.Data

/-! # Files that survive a crash

One directory and the files in it.  A crash may undo directory changes that
were not synced, and leaves anything in a file whose content was not synced.
-/

/-- The operating system calls on one directory, and the clock. -/
inductive SystemCall (Name Byte : Type) where
  | now
  | read (name : Name)
  | createDirectories
  /-- Open for writing, creating or truncating; the answer is the file. -/
  | openTruncated (name : Name)
  | write (file : Nat) (content : List Byte)
  | sync (file : Nat)
  | rename (source target : Name)
  | syncDirectory

variable {Name Byte Failure : Type}

@[reducible] def SystemCall.Response (Failure : Type) : SystemCall Name Byte → Type
  | .now => Nat
  | .read _ => Except Failure (Option (List Byte))
  | .openTruncated _ => Except Failure Nat
  | _ => Except Failure Unit

structure FileSystem (Name Byte : Type) where
  visible : Name → Option Nat
  /-- Earlier states of the directory that a crash may bring back. -/
  unsettled : List (Name → Option Nat)
  contents : Nat → List Byte
  synced : Nat → Bool
  /-- Files from here on do not exist yet. -/
  next : Nat

namespace FileSystem

section Operations

variable [DecidableEq Name] (system : FileSystem Name Byte)

def read (name : Name) : Option (List Byte) :=
  (system.visible name).map system.contents

/-- Replace the content of a file; nothing of it is synced. -/
def modified (file : Nat) (content : List Byte) : FileSystem Name Byte :=
  { system with
    contents := Function.update system.contents file content
    synced := Function.update system.synced file false }

def relinked (directory : Name → Option Nat) : FileSystem Name Byte :=
  { system with visible := directory, unsettled := system.visible :: system.unsettled }

def created (name : Name) : FileSystem Name Byte :=
  { (system.modified system.next []).relinked (Function.update system.visible name (some system.next))
    with next := system.next + 1 }

def renamed (source target : Name) (file : Nat) : FileSystem Name Byte :=
  system.relinked (Function.update (Function.update system.visible target (some file)) source none)

/-- How a call may be answered.  A call that fails changes nothing, except that
a failed write may have written a part. -/
inductive Answers : FileSystem Name Byte →
    (call : SystemCall Name Byte) → call.Response Failure → FileSystem Name Byte → Prop where
  | now {system : FileSystem Name Byte} {instant : Nat} : Answers system .now instant system
  | read {system : FileSystem Name Byte} {name : Name} :
      Answers system (.read name) (.ok (system.read name)) system
  | createDirectories {system : FileSystem Name Byte} {result : Except Failure Unit} :
      Answers system .createDirectories result system
  | truncated {system : FileSystem Name Byte} {name : Name} {file : Nat}
      (found : system.visible name = some file) :
      Answers system (.openTruncated name) (.ok file) (system.modified file [])
  | created {system : FileSystem Name Byte} {name : Name} (absent : system.visible name = none) :
      Answers system (.openTruncated name) (.ok system.next) (system.created name)
  | unopened {system : FileSystem Name Byte} {name : Name} {failure : Failure} :
      Answers system (.openTruncated name) (.error failure) system
  | written {system : FileSystem Name Byte} {file : Nat} {content : List Byte} :
      Answers system (.write file content) (.ok ())
        (system.modified file (system.contents file ++ content))
  | partlyWritten {system : FileSystem Name Byte} {file : Nat} {content part : List Byte}
      {failure : Failure} :
      Answers system (.write file content) (.error failure)
        (system.modified file (system.contents file ++ part))
  | synced {system : FileSystem Name Byte} {file : Nat} :
      Answers system (.sync file) (.ok ())
        { system with synced := Function.update system.synced file true }
  | unsynced {system : FileSystem Name Byte} {file : Nat} {failure : Failure} :
      Answers system (.sync file) (.error failure) system
  | renamed {system : FileSystem Name Byte} {source target : Name} {file : Nat}
      (found : system.visible source = some file) :
      Answers system (.rename source target) (.ok ()) (system.renamed source target file)
  | unrenamed {system : FileSystem Name Byte} {source target : Name} {failure : Failure} :
      Answers system (.rename source target) (.error failure) system
  | settled {system : FileSystem Name Byte} :
      Answers system .syncDirectory (.ok ()) { system with unsettled := [] }
  | unsettled {system : FileSystem Name Byte} {failure : Failure} :
      Answers system .syncDirectory (.error failure) system

end Operations

/-- The directories a crash may leave. -/
def Reveals (system : FileSystem Name Byte) (directory : Name → Option Nat) : Prop :=
  directory = system.visible ∨ directory ∈ system.unsettled

/-- What a crash leaves: one of the directories, and the synced contents. -/
structure Crash (before after : FileSystem Name Byte) : Prop where
  directory : before.Reveals after.visible
  contents : ∀ file, before.synced file = true →
    after.contents file = before.contents file ∧ after.synced file = true
  settled : after.unsettled = []
  next : before.next ≤ after.next

end FileSystem

/-- One process works on the directory. -/
def fileEnvironment [DecidableEq Name] :
    Program.Environment (@SystemCall.Response Name Byte Failure) (FileSystem Name Byte) where
  answers := FileSystem.Answers
  interferes _ _ := False

/-! ## What a name may hold after a crash -/

/-- However a crash comes out, `path` holds one of the `allowed` contents; the
temporary file is a different one. -/
structure FileSystem.Settled (system : FileSystem Name Byte) (path temporary : Name)
    (allowed : Set (Option (List Byte))) : Prop where
  absent : ∀ directory, system.Reveals directory → directory path = none → none ∈ allowed
  present : ∀ directory file, system.Reveals directory → directory path = some file →
    system.synced file = true ∧ some (system.contents file) ∈ allowed
  apart : ∀ directory file, system.Reveals directory → directory path = some file →
    directory temporary ≠ some file ∧ system.visible temporary ≠ some file
  exist : ∀ directory name file, system.Reveals directory → directory name = some file →
    file < system.next

namespace FileSystem.Settled

variable {system crashed : FileSystem Name Byte} {path temporary : Name}
  {allowed more : Set (Option (List Byte))} {file : Nat} {content : List Byte}

theorem read_mem (settled : system.Settled path temporary allowed) : system.read path ∈ allowed := by
  cases found : system.visible path with
  | none =>
      rw [read, found]
      exact settled.absent system.visible (.inl rfl) found
  | some file =>
      rw [read, found]
      exact (settled.present system.visible file (.inl rfl) found).2

theorem mono (settled : system.Settled path temporary allowed) (subset : allowed ⊆ more) :
    system.Settled path temporary more where
  absent directory revealed none := subset (settled.absent directory revealed none)
  present directory file revealed found :=
    let ⟨synced, member⟩ := settled.present directory file revealed found
    ⟨synced, subset member⟩
  apart := settled.apart
  exist := settled.exist

theorem crash (settled : system.Settled path temporary allowed) (crashes : Crash system crashed) :
    crashed.Settled path temporary allowed := by
  have revealed : ∀ directory, crashed.Reveals directory →
      directory = crashed.visible ∧ system.Reveals directory := by
    intro directory reveals
    rcases reveals with rfl | member
    · exact ⟨rfl, crashes.directory⟩
    · rw [crashes.settled] at member
      contradiction
  constructor
  · intro directory reveals absent
    exact settled.absent directory (revealed directory reveals).2 absent
  · intro directory file reveals found
    obtain ⟨synced, member⟩ := settled.present directory file (revealed directory reveals).2 found
    obtain ⟨contents, durable⟩ := crashes.contents file synced
    exact ⟨durable, by rwa [contents]⟩
  · intro directory file reveals found
    obtain ⟨same, reveals⟩ := revealed directory reveals
    obtain ⟨apart, _⟩ := settled.apart directory file reveals found
    exact ⟨apart, by rwa [← same]⟩
  · intro directory name file reveals found
    exact (settled.exist directory name file (revealed directory reveals).2 found).trans_le crashes.next

/-- The temporary file may be modified. -/
theorem modified (settled : system.Settled path temporary allowed)
    (scratch : system.visible temporary = some file) :
    (system.modified file content).Settled path temporary allowed where
  absent := settled.absent
  present := by
    intro directory other revealed found
    have different : other ≠ file := by
      rintro rfl
      exact (settled.apart directory other revealed found).2 scratch
    obtain ⟨synced, member⟩ := settled.present directory other revealed found
    simp only [FileSystem.modified, Function.update_of_ne different]
    exact ⟨synced, member⟩
  apart := settled.apart
  exist := settled.exist

theorem synced (settled : system.Settled path temporary allowed) :
    { system with synced := Function.update system.synced file true }.Settled path temporary
      allowed where
  absent := settled.absent
  present := by
    intro directory other revealed found
    obtain ⟨synced, member⟩ := settled.present directory other revealed found
    refine ⟨?_, member⟩
    by_cases same : other = file
    · rw [same]
      exact Function.update_self ..
    · exact (Function.update_of_ne same ..).trans synced
  apart := settled.apart
  exist := settled.exist

variable [DecidableEq Name]

/-- The temporary file may be created. -/
theorem created (settled : system.Settled path temporary allowed) (different : path ≠ temporary) :
    (system.created temporary).Settled path temporary allowed := by
  have older : ∀ directory, (system.created temporary).Reveals directory →
      directory = Function.update system.visible temporary (some system.next) ∨
        system.Reveals directory := by
    intro directory reveals
    rcases reveals with rfl | member
    · exact .inl rfl
    · rcases List.mem_cons.mp member with rfl | member
      · exact .inr (.inl rfl)
      · exact .inr (.inr member)
  have samePath : ∀ directory, (system.created temporary).Reveals directory →
      ∃ earlier, system.Reveals earlier ∧ earlier path = directory path := by
    intro directory reveals
    rcases older directory reveals with rfl | reveals
    · exact ⟨system.visible, .inl rfl, (Function.update_of_ne different ..).symm⟩
    · exact ⟨directory, reveals, rfl⟩
  constructor
  · intro directory reveals absent
    obtain ⟨earlier, revealed, same⟩ := samePath directory reveals
    exact settled.absent earlier revealed (same.trans absent)
  · intro directory file reveals found
    obtain ⟨earlier, revealed, same⟩ := samePath directory reveals
    have existing := settled.exist earlier path file revealed (same.trans found)
    obtain ⟨synced, member⟩ := settled.present earlier file revealed (same.trans found)
    have old : file ≠ system.next := Nat.ne_of_lt existing
    simp only [FileSystem.created, relinked, FileSystem.modified, Function.update_of_ne old]
    exact ⟨synced, member⟩
  · intro directory file reveals found
    obtain ⟨earlier, revealed, same⟩ := samePath directory reveals
    have old : system.next ≠ file :=
      (Nat.ne_of_lt (settled.exist earlier path file revealed (same.trans found))).symm
    have scratch : (system.created temporary).visible temporary = some system.next :=
      Function.update_self ..
    refine ⟨?_, by simpa [scratch] using old⟩
    rcases older directory reveals with rfl | revealed
    · simpa [Function.update_self] using old
    · exact (settled.apart directory file revealed found).1
  · intro directory name file reveals found
    change file < system.next + 1
    rcases older directory reveals with rfl | revealed
    · by_cases same : name = temporary
      · rw [same, Function.update_self] at found
        cases found
        exact Nat.lt_succ_self _
      · rw [Function.update_of_ne same] at found
        exact (settled.exist _ name file (.inl rfl) found).trans (Nat.lt_succ_self _)
    · exact (settled.exist directory name file revealed found).trans (Nat.lt_succ_self _)

/-- A synced temporary file may be renamed to the path. -/
theorem renamed (settled : system.Settled path temporary allowed) (different : path ≠ temporary)
    (scratch : system.visible temporary = some file) (durable : system.synced file = true)
    (member : some (system.contents file) ∈ allowed) :
    (system.renamed temporary path file).Settled path temporary allowed := by
  have atPath : (system.renamed temporary path file).visible path = some file := by
    simp [FileSystem.renamed, relinked, Function.update_of_ne different]
  have atTemporary : (system.renamed temporary path file).visible temporary = none := by
    simp [FileSystem.renamed, relinked]
  have older : ∀ directory, (system.renamed temporary path file).Reveals directory →
      directory = (system.renamed temporary path file).visible ∨ system.Reveals directory := by
    intro directory reveals
    rcases reveals with rfl | inside
    · exact .inl rfl
    · rcases List.mem_cons.mp inside with rfl | inside
      · exact .inr (.inl rfl)
      · exact .inr (.inr inside)
  constructor
  · intro directory reveals absent
    rcases older directory reveals with rfl | revealed
    · rw [atPath] at absent
      contradiction
    · exact settled.absent directory revealed absent
  · intro directory other reveals found
    rcases older directory reveals with rfl | revealed
    · rw [atPath] at found
      cases found
      exact ⟨durable, member⟩
    · exact settled.present directory other revealed found
  · intro directory other reveals found
    refine ⟨?_, by simp [atTemporary]⟩
    rcases older directory reveals with rfl | revealed
    · simp [atTemporary]
    · exact (settled.apart directory other revealed found).1
  · intro directory name other reveals found
    rcases older directory reveals with rfl | revealed
    · by_cases isTemporary : name = temporary
      · rw [isTemporary, atTemporary] at found
        contradiction
      by_cases isPath : name = path
      · rw [isPath, atPath] at found
        cases found
        exact settled.exist system.visible temporary file (.inl rfl) scratch
      · simp only [FileSystem.renamed, relinked, Function.update_of_ne isTemporary,
          Function.update_of_ne isPath] at found
        exact settled.exist system.visible name other (.inl rfl) found
    · exact settled.exist directory name other revealed found

omit [DecidableEq Name] in
/-- Once the directory is synced, only what the path holds now remains. -/
theorem settle (settled : system.Settled path temporary allowed) (found : system.visible path = some file) :
    { system with unsettled := [] }.Settled path temporary {some (system.contents file)} := by
  have current : ∀ directory, { system with unsettled := [] }.Reveals directory →
      directory = system.visible := by
    intro directory reveals
    rcases reveals with same | inside
    · exact same
    · contradiction
  constructor
  · intro directory reveals absent
    rw [current directory reveals, found] at absent
    contradiction
  · intro directory other reveals held
    rw [current directory reveals] at held
    obtain ⟨synced, _⟩ := settled.present system.visible other (.inl rfl) held
    rw [found] at held
    cases held
    exact ⟨synced, rfl⟩
  · intro directory other reveals held
    rw [current directory reveals] at held ⊢
    exact settled.apart system.visible other (.inl rfl) held
  · intro directory name other reveals held
    rw [current directory reveals] at held
    exact settled.exist system.visible name other (.inl rfl) held

end FileSystem.Settled

/-! ## Replacing a file -/

variable [DecidableEq Name]

/-- Write a temporary file, sync it, rename it to the path and sync the
directory; stop at the first call that fails. -/
def replaceFile (path temporary : Name) (content : List Byte) :
    Program (@SystemCall.Response Name Byte Failure) (Except Failure Unit) :=
  .call .createDirectories fun
    | .error failure => .done (.error failure)
    | .ok _ => .call (.openTruncated temporary) fun
      | .error failure => .done (.error failure)
      | .ok file => .call (.write file content) fun
        | .error failure => .done (.error failure)
        | .ok _ => .call (.sync file) fun
          | .error failure => .done (.error failure)
          | .ok _ => .call (.rename temporary path) fun
            | .error failure => .done (.error failure)
            | .ok _ => .call .syncDirectory .done

variable {system : FileSystem Name Byte} {path temporary : Name} {content : List Byte}
  {allowed : Set (Option (List Byte))}

/-- At every moment of a replacement the path holds what it held before or the
new content, and once the replacement has succeeded the new content. -/
theorem replaceFile_secures (different : path ≠ temporary)
    (settled : system.Settled path temporary allowed) :
    (replaceFile path temporary content : Program (@SystemCall.Response Name Byte Failure) _).Secures
      fileEnvironment (fun system => system.Settled path temporary (insert (some content) allowed))
      (fun result system => result = .ok () → system.Settled path temporary {some content}) system := by
  have widen : ∀ {system : FileSystem Name Byte}, system.Settled path temporary allowed →
      system.Settled path temporary (insert (some content) allowed) :=
    fun settled => settled.mono (Set.subset_insert _ _)
  refine ⟨widen settled, fun response answered answer => ?_⟩
  cases answer
  cases response with
  | error failure => exact ⟨widen settled, by simp⟩
  | ok _ =>
  refine ⟨widen settled, fun response opened answer => ?_⟩
  cases response with
  | error failure =>
      cases answer
      exact ⟨widen settled, by simp⟩
  | ok file =>
  have scratch : opened.visible temporary = some file ∧ opened.contents file = [] ∧
      opened.Settled path temporary allowed := by
    cases answer with
    | truncated found => exact ⟨found, Function.update_self .., settled.modified found⟩
    | created => exact ⟨Function.update_self .., Function.update_self .., settled.created different⟩
  obtain ⟨scratch, empty, settled⟩ := scratch
  refine ⟨widen settled, fun response written answer => ?_⟩
  cases answer with
  | partlyWritten => exact ⟨widen (settled.modified scratch), by simp⟩
  | written =>
  let filled := opened.modified file (opened.contents file ++ content)
  have holds : filled.contents file = content := by simp [filled, FileSystem.modified, empty]
  have settled : filled.Settled path temporary allowed := settled.modified scratch
  refine ⟨widen settled, fun response synced answer => ?_⟩
  cases answer with
  | unsynced => exact ⟨widen settled, by simp⟩
  | synced =>
  let durable : FileSystem Name Byte :=
    { filled with synced := Function.update filled.synced file true }
  have settled : durable.Settled path temporary (insert (some content) allowed) := widen settled.synced
  refine ⟨settled, fun response renamed answer => ?_⟩
  cases answer with
  | unrenamed => exact ⟨settled, by simp⟩
  | renamed found =>
  cases scratch.symm.trans found
  have settled : (durable.renamed temporary path file).Settled path temporary
      (insert (some content) allowed) :=
    settled.renamed different found (Function.update_self ..) (by
      change some (filled.contents file) ∈ _
      rw [holds]
      exact Set.mem_insert _ _)
  refine ⟨settled, fun response final answer => ?_⟩
  cases answer with
  | unsettled => exact ⟨settled, by simp⟩
  | settled =>
  have atPath : (durable.renamed temporary path file).visible path = some file := by
    simp [FileSystem.renamed, FileSystem.relinked, Function.update_of_ne different]
  have final := settled.settle atPath
  have content_eq : (durable.renamed temporary path file).contents file = content := holds
  rw [content_eq] at final
  exact ⟨final.mono (by simp), fun _ => final⟩

/-! ## Installing a file -/

/-- Write a temporary file and rename it to the path; nothing is synced.  The
last arguments are the errors of the two steps. -/
def installFile {Error : Type} (path temporary : Name) (content : List Byte)
    (unwritten uninstalled : Failure → Error) :
    Program (@SystemCall.Response Name Byte Failure) (Except Error Unit) :=
  .call (.openTruncated temporary) fun
    | .error failure => .done (.error (unwritten failure))
    | .ok file => .call (.write file content) fun
      | .error failure => .done (.error (unwritten failure))
      | .ok _ => .call (.rename temporary path) fun
        | .error failure => .done (.error (uninstalled failure))
        | .ok _ => .done (.ok ())

/-- The path holds the content, in a file that the temporary name does not
share. -/
structure FileSystem.Holds (system : FileSystem Name Byte) (path temporary : Name)
    (content : Option (List Byte)) : Prop where
  read : system.read path = content
  apart : ∀ file, system.visible path = some file → system.visible temporary ≠ some file
  exist : ∀ name file, system.visible name = some file → file < system.next

namespace FileSystem.Holds

variable {system : FileSystem Name Byte} {held : Option (List Byte)} {file : Nat}

omit [DecidableEq Name] in
theorem modified (holds : system.Holds path temporary held) (scratch : system.visible temporary = some file)
    (content : List Byte) : (system.modified file content).Holds path temporary held where
  read := by
    rw [← holds.read]
    cases found : system.visible path with
    | none => simp [FileSystem.read, FileSystem.modified, found]
    | some other =>
        have different : other ≠ file := by
          rintro rfl
          exact holds.apart other found scratch
        simp [FileSystem.read, FileSystem.modified, found, Function.update_of_ne different]
  apart := holds.apart
  exist := holds.exist

theorem created (holds : system.Holds path temporary held) (different : path ≠ temporary) :
    (system.created temporary).Holds path temporary held := by
  have before : ∀ other, (system.created temporary).visible path = some other →
      system.visible path = some other := by
    intro other found
    simpa [FileSystem.created, FileSystem.relinked, Function.update_of_ne different] using found
  constructor
  · rw [← holds.read]
    cases found : system.visible path with
    | none => simp [FileSystem.read, FileSystem.created, FileSystem.relinked, different, found]
    | some other =>
        have old : other ≠ system.next := (holds.exist path other found).ne
        simp [FileSystem.read, FileSystem.created, FileSystem.relinked, FileSystem.modified, different,
          found, Function.update_of_ne old]
  · intro other found
    have old := holds.exist path other (before other found)
    simp only [FileSystem.created, FileSystem.relinked, Function.update_self, ne_eq, Option.some.injEq]
    omega
  · intro name other found
    simp only [FileSystem.created, FileSystem.relinked, Function.update_apply] at found ⊢
    split at found
    · cases found
      omega
    · exact (holds.exist name other found).trans (Nat.lt_succ_self _)

theorem renamed (holds : system.Holds path temporary held) (different : path ≠ temporary)
    (scratch : system.visible temporary = some file) :
    (system.renamed temporary path file).Holds path temporary (some (system.contents file)) := by
  have atPath : (system.renamed temporary path file).visible path = some file := by
    simp [FileSystem.renamed, FileSystem.relinked, Function.update_of_ne different]
  have atTemporary : (system.renamed temporary path file).visible temporary = none := by
    simp [FileSystem.renamed, FileSystem.relinked]
  constructor
  · rw [FileSystem.read, atPath]
    rfl
  · intro other _ shared
    rw [atTemporary] at shared
    contradiction
  · intro name other found
    simp only [FileSystem.renamed, FileSystem.relinked, Function.update_apply] at found
    split at found
    · contradiction
    · split at found
      · cases found
        exact holds.exist temporary file scratch
      · exact holds.exist name other found

end FileSystem.Holds

/-- An installation that fails leaves the path as it was. -/
theorem installFile_secures {Error : Type} {held : Option (List Byte)} (different : path ≠ temporary)
    (holds : system.Holds path temporary held) (unwritten uninstalled : Failure → Error) :
    (installFile path temporary content unwritten uninstalled).Secures fileEnvironment (fun _ => True)
      (fun result final => match result with
        | .ok _ => final.Holds path temporary (some content)
        | .error _ => final.Holds path temporary held) system := by
  refine ⟨trivial, fun response opened answer => ?_⟩
  cases response with
  | error failure =>
      cases answer
      exact ⟨trivial, holds⟩
  | ok file =>
  have scratch : opened.visible temporary = some file ∧ opened.contents file = [] ∧
      opened.Holds path temporary held := by
    cases answer with
    | truncated found => exact ⟨found, Function.update_self .., holds.modified found []⟩
    | created => exact ⟨Function.update_self .., Function.update_self .., holds.created different⟩
  obtain ⟨scratch, empty, holds⟩ := scratch
  refine ⟨trivial, fun response written answer => ?_⟩
  cases answer with
  | partlyWritten => exact ⟨trivial, holds.modified scratch _⟩
  | written =>
  have holds := holds.modified scratch (opened.contents file ++ content)
  refine ⟨trivial, fun response renamed answer => ?_⟩
  cases answer with
  | unrenamed => exact ⟨trivial, holds⟩
  | renamed found =>
  cases scratch.symm.trans found
  have filled : (opened.modified file (opened.contents file ++ content)).contents file = content := by
    simp [FileSystem.modified, empty]
  have installed := holds.renamed different found
  rw [filled] at installed
  exact ⟨trivial, installed⟩

end Microscope.Data
