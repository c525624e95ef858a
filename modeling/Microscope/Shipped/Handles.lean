import Mathlib.Logic.Function.Basic
import Microscope.Shipped.Lifetimes

namespace Microscope.Shipped

open Std Microscope.Data

/-! # The journal through its open file

The journal keeps a file open.  A file that another one replaced can still be
written to by who holds it open.  Here files have numbers, and the directory
says which one the journal path names.
-/

/-- The directory of the journal and the files in it. -/
structure Directory where
  visible : Option Nat
  contents : Nat → List Char
  /-- Files from here on do not exist yet. -/
  next : Nat
  exist : ∀ file, visible = some file → file < next

namespace Directory

variable (directory : Directory)

/-- The text the journal path names. -/
def read : Option (List Char) := directory.visible.map directory.contents

def write (file : Nat) (text : List Char) : Directory :=
  { directory with contents := Function.update directory.contents file text }

/-- A new file takes the journal path. -/
def install (text : List Char) : Directory where
  visible := some directory.next
  contents := Function.update directory.contents directory.next text
  next := directory.next + 1
  exist := fun _ same => Option.some.inj same ▸ Nat.lt_succ_self _

def remove : Directory :=
  { directory with visible := none, exist := fun _ impossible => by cases impossible }

/-- Open the journal path, creating the file when there is none. -/
def openFile : Nat × Directory :=
  match directory.visible with
  | some file => (file, directory)
  | none => (directory.next, directory.install [])

variable {directory} {file : Nat} {text : List Char}

@[simp] theorem read_write (visible : directory.visible = some file) :
    (directory.write file text).read = some text := by
  simp [read, write, visible]

@[simp] theorem read_install : (directory.install text).read = some text := by
  simp [read, install]

@[simp] theorem read_remove : directory.remove.read = none := rfl

theorem openFile_visible : directory.openFile.2.visible = some directory.openFile.1 := by
  unfold openFile
  split
  · assumption
  · rfl

theorem openFile_contents :
    directory.openFile.2.contents directory.openFile.1 = directory.read.getD [] := by
  unfold openFile read
  split
  · rename_i found
    simp [found]
  · rename_i absent
    simp [absent, install]

theorem openFile_read : directory.openFile.2.read = some (directory.read.getD []) := by
  rw [read, openFile_visible, Option.map_some, openFile_contents]

end Directory

structure HeldState (Signature : Type) [LinearOrder Signature] where
  file : Option Nat := none
  written : ExtTreeSet Signature := ∅
  identity : Option String := none

structure HeldJournal (Signature : Type) [LinearOrder Signature] where
  directory : Directory
  state : HeldState Signature := {}

variable {Signature : Type} [LinearOrder Signature]

/-- The journal without the numbers of its files. -/
def HeldJournal.view (held : HeldJournal Signature) : Journal Signature where
  file := held.directory.read
  state := {
    isOpen := held.state.file.isSome, written := held.state.written, identity := held.state.identity }

/-- The file held open is the one the journal path names. -/
def HeldJournal.Linked (held : HeldJournal Signature) : Prop :=
  ∀ file, held.state.file = some file → held.directory.visible = some file

variable [SignatureText Signature]

namespace HeldJournal

variable (faults : Faults) (held : HeldJournal Signature)

def openAppending : Except FileStep Unit × HeldJournal Signature :=
  if (faults .createDirectories).isSome then (.error .createDirectories, held)
  else if (faults .openAppending).isSome then (.error .openAppending, held)
  else
    let (file, directory) := held.directory.openFile
    if (faults .metadata).isSome then (.error .metadata, { held with directory })
    else
      let raw := directory.contents file
      let stamp := if raw = [] then (held.state.identity.map headerLine).getD [] else []
      match faults .stamp with
      | some count =>
          if stamp = [] then
            (.ok (), { directory, state := { held.state with file := some file } })
          else (.error .stamp, { held with directory := directory.write file (raw ++ stamp.take count) })
      | none =>
          (.ok (), {
            directory := directory.write file (raw ++ stamp)
            state := { held.state with file := some file } })

/-- Append one line to the file held open, whether or not the path names it. -/
def writeEntry (file : Nat) (signature : Signature) (slot : Slot) :
    Except FileStep Unit × HeldJournal Signature :=
  let line := entryLine (signature, slot)
  let raw := held.directory.contents file
  match faults .append with
  | some count =>
      (.error .append, { held with directory := held.directory.write file (raw ++ line.take count) })
  | none => (.ok (), { held with directory := held.directory.write file (raw ++ line) })

def append (signature : Signature) (slot : Slot) : Except FileStep Unit × HeldJournal Signature :=
  match held.state.file with
  | some file => held.writeEntry faults file signature slot
  | none =>
      match held.openAppending faults with
      | (.error step, held) => (.error step, held)
      | (.ok _, held) =>
          match held.state.file with
          | some file => held.writeEntry faults file signature slot
          -- the source expects the file it has just opened
          | none => (.error .append, held)

omit [SignatureText Signature] in
def purge : Except FileStep Bool × HeldJournal Signature :=
  let state := { held.state with file := none, written := ∅ }
  match held.directory.visible with
  | none => (.ok false, { held with state })
  | some file =>
      if (faults .remove).isNone then (.ok true, { directory := held.directory.remove, state })
      else if (faults .truncate).isNone then
        (.ok true, { directory := held.directory.write file [], state })
      else (.error .remove, { held with state })

def rewrite (minimumSlot : Slot) : Except FileStep Unit × HeldJournal Signature :=
  match (readJournal faults held.directory.read :
    Except _ (Option String × List (Signature × Slot))) with
  | .error step => (.error step, held)
  | .ok (header, entries) =>
      let retained := entries.filter fun entry => entry.2 > minimumSlot
      if retained.length = entries.length then (.ok (), held)
      else if (faults .createTemporary).isSome then (.error .createTemporary, held)
      else if (faults .writeTemporary).isSome then (.error .writeTemporary, held)
      else if (faults .rename).isSome then (.error .rename, held)
      else
        (.ok (), {
          directory := held.directory.install
            ((header.map headerLine).getD [] ++ retained.flatMap entryLine)
          state := { held.state with
            file := none, written := ExtTreeSet.ofList (retained.map Prod.fst) } })

/-! ## Operations -/

def mark (signature : Signature) : HeldJournal Signature :=
  { held with state := { held.state with written := held.state.written.insert signature } }

def record (signature : Signature) (slot : Slot) : HeldJournal Signature :=
  if held.state.written.contains signature then held
  else
    match (held.mark signature).append faults signature slot with
    | (.ok _, held) => held
    | (.error _, held) =>
        { held with state := { held.state with written := held.state.written.erase signature } }

def restore (identity : String) : List (Signature × Slot) × HeldJournal Signature :=
  let (entries, read) :=
    match (readJournal faults held.directory.read :
      Except _ (Option String × List (Signature × Slot))) with
    | .ok (header, entries) =>
        if header = some identity then (entries, held) else ([], (held.purge faults).2)
    | .error _ => ([], held)
  (entries, { read with
    state := { read.state with
      written := ExtTreeSet.ofList (entries.map Prod.fst), identity := some identity } })

def discard (identity : String) : HeldJournal Signature :=
  let purged := (held.purge faults).2
  { purged with state := { purged.state with identity := some identity } }

def compact (minimumSlot : Slot) : HeldJournal Signature := (held.rewrite faults minimumSlot).2

end HeldJournal

/-! ## The numbers do not matter -/

variable {faults : Faults} {held : HeldJournal Signature} {signature : Signature} {slot : Slot}

/-- A step with numbered files is the step without, and ends linked. -/
structure Follows {α : Type} (numbered : α × HeldJournal Signature) (plain : α × Journal Signature) :
    Prop where
  linked : numbered.2.Linked
  result : numbered.1 = plain.1
  view : numbered.2.view = plain.2

omit [SignatureText Signature] in
theorem HeldJournal.Linked.closed {directory : Directory} {state : HeldState Signature}
    (closed : state.file = none) : HeldJournal.Linked ⟨directory, state⟩ := by
  intro file open_
  rw [closed] at open_
  cases open_

theorem writeEntry_follows {file : Nat} (linked : held.Linked) (holds : held.state.file = some file) :
    Follows (held.writeEntry faults file signature slot) (held.view.writeEntry faults signature slot) := by
  have visible := linked file holds
  have raw : held.directory.read = some (held.directory.contents file) := by
    rw [Directory.read, visible, Option.map_some]
  unfold HeldJournal.writeEntry Journal.writeEntry
  cases faults .append with
  | some count =>
      refine ⟨linked, rfl, ?_⟩
      simp [HeldJournal.view, raw, Directory.read_write visible]
  | none =>
      refine ⟨linked, rfl, ?_⟩
      simp [HeldJournal.view, raw, Directory.read_write visible]

omit [SignatureText Signature] in
theorem openAppending_follows (closed : held.state.file = none) :
    Follows (held.openAppending faults) (held.view.openAppending faults) := by
  have linked : held.Linked := .closed closed
  have visible := held.directory.openFile_visible
  have contents := held.directory.openFile_contents
  have read := held.directory.openFile_read
  unfold HeldJournal.openAppending Journal.openAppending
  split
  · exact ⟨linked, rfl, rfl⟩
  split
  · exact ⟨linked, rfl, rfl⟩
  cases opened : held.directory.openFile with
  | mk file directory =>
      rw [opened] at visible contents read
      have open_ : ∀ state : HeldState Signature, state.file = some file →
          HeldJournal.Linked ⟨directory, state⟩ := by
        intro state holds other same
        rw [holds] at same
        exact same ▸ visible
      have fileEq : held.view.file = held.directory.read := rfl
      have identityEq : held.view.state.identity = held.state.identity := rfl
      dsimp only
      rw [contents, fileEq, identityEq]
      generalize (if held.directory.read.getD [] = [] then
        (held.state.identity.map headerLine).getD [] else []) = stamp
      split
      · exact ⟨.closed closed, rfl, by simp [HeldJournal.view, read, closed]⟩
      cases faults .stamp with
      | none =>
          refine ⟨fun other same => ?_, rfl, ?_⟩
          · cases same
            exact visible
          · simp [HeldJournal.view, Directory.read_write visible]
      | some count =>
          by_cases nothing : stamp = []
          · simp only [nothing, if_true]
            exact ⟨open_ _ rfl, rfl, by simp [HeldJournal.view, read]⟩
          · simp only [nothing, if_false]
            exact ⟨.closed closed, rfl, by simp [HeldJournal.view, Directory.read_write visible, closed]⟩

omit [SignatureText Signature] in
/-- A file that was opened is held. -/
theorem openAppending_holds {next : HeldJournal Signature}
    (opened : held.openAppending faults = (.ok (), next)) : ∃ file, next.state.file = some file := by
  unfold HeldJournal.openAppending at opened
  split at opened
  · cases opened
  split at opened
  · cases opened
  dsimp only at opened
  generalize (if held.directory.openFile.2.contents held.directory.openFile.1 = [] then
    (held.state.identity.map headerLine).getD [] else []) = stamp at opened
  split at opened
  · cases opened
  cases stamped : faults .stamp with
  | none =>
      rw [stamped] at opened
      cases opened
      exact ⟨_, rfl⟩
  | some count =>
      rw [stamped] at opened
      dsimp only at opened
      split at opened
      · cases opened
        exact ⟨_, rfl⟩
      · cases opened

theorem append_follows (linked : held.Linked) :
    Follows (held.append faults signature slot) (held.view.append faults signature slot) := by
  unfold HeldJournal.append Journal.append
  cases holds : held.state.file with
  | some file =>
      have isOpen : held.view.state.isOpen = true := by simp [HeldJournal.view, holds]
      rw [if_pos isOpen]
      exact writeEntry_follows linked holds
  | none =>
      have isClosed : ¬held.view.state.isOpen = true := by simp [HeldJournal.view, holds]
      rw [if_neg isClosed]
      have follows : Follows (held.openAppending faults) (held.view.openAppending faults) :=
        openAppending_follows holds
      obtain ⟨nextLinked, sameResult, sameView⟩ := follows
      cases opened : held.openAppending faults with
      | mk result next =>
          rw [opened] at nextLinked sameResult sameView
          cases plain : held.view.openAppending faults with
          | mk plainResult plainNext =>
              rw [plain] at sameResult sameView
              dsimp only at sameResult sameView nextLinked
              subst sameResult sameView
              cases result with
              | error step => exact ⟨nextLinked, rfl, rfl⟩
              | ok _ =>
                  obtain ⟨file, nextHolds⟩ := openAppending_holds opened
                  simp only [nextHolds]
                  exact writeEntry_follows nextLinked nextHolds

omit [SignatureText Signature] in
theorem purge_follows : Follows (held.purge faults) (held.view.purge faults) := by
  unfold HeldJournal.purge Journal.purge
  cases visible : held.directory.visible with
  | none =>
      have read : held.directory.read = none := by simp [Directory.read, visible]
      simp only [HeldJournal.view, read]
      exact ⟨.closed rfl, rfl, by simp [HeldJournal.view, read]⟩
  | some file =>
      have read : held.directory.read = some (held.directory.contents file) := by
        simp [Directory.read, visible]
      simp only [HeldJournal.view, read]
      split
      · exact ⟨.closed rfl, rfl, by simp [HeldJournal.view]⟩
      · split
        · exact ⟨.closed rfl, rfl, by simp [HeldJournal.view, Directory.read_write visible]⟩
        · exact ⟨.closed rfl, rfl, by simp [HeldJournal.view, read]⟩

theorem rewrite_follows (linked : held.Linked) {minimumSlot : Slot} :
    Follows (held.rewrite faults minimumSlot) (held.view.rewrite faults minimumSlot) := by
  unfold HeldJournal.rewrite Journal.rewrite
  have fileEq : held.view.file = held.directory.read := rfl
  rw [fileEq]
  cases (readJournal faults held.directory.read :
    Except FileStep (Option String × List (Signature × Slot))) with
  | error step => exact ⟨linked, rfl, rfl⟩
  | ok contents =>
    dsimp only
    split
    · exact ⟨linked, rfl, rfl⟩
    split
    · exact ⟨linked, rfl, rfl⟩
    split
    · exact ⟨linked, rfl, rfl⟩
    split
    · exact ⟨linked, rfl, rfl⟩
    exact ⟨.closed rfl, rfl, by simp [HeldJournal.view]⟩

theorem record_follows (linked : held.Linked) : (held.record faults signature slot).Linked ∧
    (held.record faults signature slot).view = held.view.record faults signature slot := by
  unfold HeldJournal.record Journal.record
  have sameWritten : held.view.state.written = held.state.written := rfl
  rw [sameWritten]
  split
  · exact ⟨linked, rfl⟩
  have marked : (held.mark signature).view = held.view.mark signature := rfl
  have markedLinked : (held.mark signature).Linked := linked
  have follows : Follows ((held.mark signature).append faults signature slot)
      ((held.view.mark signature).append faults signature slot) :=
    marked ▸ append_follows markedLinked
  obtain ⟨nextLinked, sameResult, sameView⟩ := follows
  cases appended : (held.mark signature).append faults signature slot with
  | mk result next =>
      rw [appended] at nextLinked sameResult sameView
      cases plain : (held.view.mark signature).append faults signature slot with
      | mk plainResult plainNext =>
          rw [plain] at sameResult sameView
          dsimp only at sameResult sameView nextLinked
          subst sameResult sameView
          cases result with
          | ok _ => exact ⟨nextLinked, rfl⟩
          | error step => exact ⟨nextLinked, rfl⟩

theorem restore_follows (linked : held.Linked) {identity : String} :
    Follows (held.restore faults identity) (held.view.restore faults identity) := by
  unfold HeldJournal.restore Journal.restore
  have fileEq : held.view.file = held.directory.read := rfl
  rw [fileEq]
  obtain ⟨purgedLinked, _, purgedView⟩ : Follows (held.purge faults) (held.view.purge faults) :=
    purge_follows
  cases (readJournal faults held.directory.read :
    Except FileStep (Option String × List (Signature × Slot))) with
  | error step => exact ⟨linked, rfl, rfl⟩
  | ok contents =>
      dsimp only
      split
      · exact ⟨linked, rfl, rfl⟩
      · rw [← purgedView]
        exact ⟨purgedLinked, rfl, rfl⟩

omit [SignatureText Signature] in
theorem discard_follows {identity : String} : (held.discard faults identity).Linked ∧
    (held.discard faults identity).view = held.view.discard faults identity := by
  obtain ⟨purgedLinked, _, purgedView⟩ : Follows (held.purge faults) (held.view.purge faults) :=
    purge_follows
  unfold HeldJournal.discard Journal.discard
  rw [← purgedView]
  exact ⟨purgedLinked, rfl⟩

/-! ## Running a process -/

def HeldJournal.perform (identity : Identity) (held : HeldJournal Signature) :
    Operation Signature → Option (List (Signature × Slot)) × HeldJournal Signature
  | .record signature slot _ => (none, held.record noFaults signature slot)
  | .restore =>
      let (entries, held) := held.restore noFaults identity.text
      (some entries, held)
  | .discard => (none, held.discard noFaults identity.text)
  | .compact minimumSlot => (none, held.compact noFaults minimumSlot)

def HeldJournal.performAll (identity : Identity) :
    HeldJournal Signature → List (Operation Signature) →
      List (List (Signature × Slot)) × HeldJournal Signature
  | held, [] => ([], held)
  | held, operation :: rest =>
      let (returned, middle) := held.perform identity operation
      let (later, final) := middle.performAll identity rest
      (returned.toList ++ later, final)

theorem perform_follows (linked : held.Linked) (identity : Identity) (operation : Operation Signature) :
    Follows (held.perform identity operation) (held.view.perform identity operation) := by
  cases operation with
  | record signature slot _ => exact ⟨(record_follows linked).1, rfl, (record_follows linked).2⟩
  | restore =>
      have follows : Follows (held.restore noFaults identity.text)
          (held.view.restore noFaults identity.text) := restore_follows linked
      exact ⟨follows.linked, congrArg some follows.result, follows.view⟩
  | discard => exact ⟨discard_follows.1, rfl, discard_follows.2⟩
  | compact minimumSlot =>
      have follows : Follows (held.rewrite noFaults minimumSlot)
          (held.view.rewrite noFaults minimumSlot) := rewrite_follows linked
      exact ⟨follows.linked, rfl, follows.view⟩

theorem performAll_follows (linked : held.Linked) (identity : Identity)
    (operations : List (Operation Signature)) :
    Follows (held.performAll identity operations) (held.view.performAll identity operations) := by
  induction operations generalizing held with
  | nil => exact ⟨linked, rfl, rfl⟩
  | cons operation rest ih =>
      obtain ⟨stepLinked, stepResult, stepView⟩ := perform_follows linked identity operation
      have later := ih stepLinked
      rw [stepView] at later
      refine ⟨later.linked, ?_, later.view⟩
      rw [HeldJournal.performAll, Journal.performAll]
      simp only [stepResult, later.result]

end Microscope.Shipped
