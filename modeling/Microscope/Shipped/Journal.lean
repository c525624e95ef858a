import Microscope.Data.Lines
import Microscope.Data.OrderedMap
import Microscope.Rpc

namespace Microscope.Shipped

open Std Microscope.Data

/-! # The journal of shipped transactions

A text file with an identity header and a line for every transaction whose
records were logged.  Every function takes the file operations that fail.
-/

def identityPrefix : List Char := "identity ".toList

/-- The file operations of the journal. -/
inductive FileStep where
  | read
  | createDirectories
  | openAppending
  | metadata
  | stamp
  | append
  | remove
  | truncate
  | createTemporary
  | writeTemporary
  | rename
deriving DecidableEq, Repr

/-- The steps that fail, each with the number of characters a write got out
before it failed. -/
abbrev Faults := FileStep → Option Nat

def noFaults : Faults := fun _ => none

structure JournalState (Signature : Type) [LinearOrder Signature] where
  /-- Whether the file is held open for appending. -/
  isOpen : Bool := false
  written : ExtTreeSet Signature := ∅
  identity : Option String := none

/-- The journal of one process, and the file it shares with the processes
before and after it. -/
structure Journal (Signature : Type) [LinearOrder Signature] where
  file : Option (List Char) := none
  state : JournalState Signature := {}

variable {Signature : Type} [LinearOrder Signature] [SignatureText Signature]

def parseEntry (line : List Char) : Option (Signature × Slot) :=
  match splitOnce ' ' line with
  | none => none
  | some (signature, slot) =>
      match (SignatureText.fromText (String.ofList signature) : Option Signature) with
      | none => none
      | some signature => (parseUnsigned u64Max slot).map fun slot => (signature, slot)

/-- A line that is not an entry is skipped. -/
def parseEntries (lines : List (List Char)) : List (Signature × Slot) :=
  lines.filterMap parseEntry

/-- The header and the entries of a file that could be read. -/
def parseJournal (raw : List Char) : Option String × List (Signature × Slot) :=
  match lines raw with
  | [] => (none, [])
  | first :: rest =>
      match stripStart identityPrefix first with
      | some header => (some (String.ofList header), parseEntries rest)
      | none => (none, parseEntries (first :: rest))

/-- The header of a journal file. -/
def headerOf (file : Option (List Char)) : Option String :=
  file.bind fun raw => ((lines raw).head?.bind (stripStart identityPrefix)).map String.ofList

def readJournal (faults : Faults) (file : Option (List Char)) :
    Except FileStep (Option String × List (Signature × Slot)) :=
  match file with
  | none => .ok (none, [])
  | some raw => if (faults .read).isSome then .error .read else .ok (parseJournal raw)

def headerLine (identity : String) : List Char := identityPrefix ++ identity.toList ++ ['\n']

def entryLine (entry : Signature × Slot) : List Char :=
  (SignatureText.toText entry.1).toList ++ ' ' :: (toString entry.2).toList ++ ['\n']

namespace Journal

variable (faults : Faults) (journal : Journal Signature)

/-- Open the file, and stamp it when it is empty and the identity is known. -/
def openAppending : Except FileStep Unit × Journal Signature :=
  if (faults .createDirectories).isSome then (.error .createDirectories, journal)
  else if (faults .openAppending).isSome then (.error .openAppending, journal)
  else
    let raw := journal.file.getD []
    if (faults .metadata).isSome then (.error .metadata, { journal with file := some raw })
    else
      let stamp := if raw = [] then (journal.state.identity.map headerLine).getD [] else []
      match faults .stamp with
      | some count =>
          if stamp = [] then
            (.ok (), { journal with file := some raw, state := { journal.state with isOpen := true } })
          else (.error .stamp, { journal with file := some (raw ++ stamp.take count) })
      | none =>
          (.ok (), {
            journal with file := some (raw ++ stamp), state := { journal.state with isOpen := true } })

/-- Append one line to the file that is open. -/
def writeEntry (signature : Signature) (slot : Slot) : Except FileStep Unit × Journal Signature :=
  let line := entryLine (signature, slot)
  let raw := journal.file.getD []
  match faults .append with
  | some count => (.error .append, { journal with file := some (raw ++ line.take count) })
  | none => (.ok (), { journal with file := some (raw ++ line) })

def append (signature : Signature) (slot : Slot) : Except FileStep Unit × Journal Signature :=
  if journal.state.isOpen then journal.writeEntry faults signature slot
  else
    match journal.openAppending faults with
    | (.error step, journal) => (.error step, journal)
    | (.ok _, journal) => journal.writeEntry faults signature slot

/-- Remove the file, or empty it when it cannot be removed; the answer says
whether there was one. -/
def purge : Except FileStep Bool × Journal Signature :=
  let state := { journal.state with isOpen := false, written := ∅ }
  match journal.file with
  | none => (.ok false, { file := none, state })
  | some raw =>
      if (faults .remove).isNone then (.ok true, { file := none, state })
      else if (faults .truncate).isNone then (.ok true, { file := some [], state })
      else (.error .remove, { file := some raw, state })

/-- Keep the entries above a slot; nothing is written when that is all of them. -/
def rewrite (minimumSlot : Slot) : Except FileStep Unit × Journal Signature :=
  match (readJournal faults journal.file : Except _ (Option String × List (Signature × Slot))) with
  | .error step => (.error step, journal)
  | .ok (header, entries) =>
      let retained := entries.filter fun entry => entry.2 > minimumSlot
      if retained.length = entries.length then (.ok (), journal)
      else if (faults .createTemporary).isSome then (.error .createTemporary, journal)
      else if (faults .writeTemporary).isSome then (.error .writeTemporary, journal)
      else if (faults .rename).isSome then (.error .rename, journal)
      else
        (.ok (), {
          file := some ((header.map headerLine).getD [] ++ retained.flatMap entryLine)
          state := { journal.state with
            isOpen := false, written := ExtTreeSet.ofList (retained.map Prod.fst) } })

/-! ## Operations -/

def mark (signature : Signature) : Journal Signature :=
  { journal with state := { journal.state with written := journal.state.written.insert signature } }

def record (signature : Signature) (slot : Slot) : Journal Signature :=
  if journal.state.written.contains signature then journal
  else
    match (journal.mark signature).append faults signature slot with
    | (.ok _, journal) => journal
    | (.error _, journal) =>
        { journal with state := { journal.state with written := journal.state.written.erase signature } }

def restore (identity : String) : List (Signature × Slot) × Journal Signature :=
  let (entries, read) :=
    match (readJournal faults journal.file : Except _ (Option String × List (Signature × Slot))) with
    | .ok (header, entries) =>
        if header = some identity then (entries, journal) else ([], (journal.purge faults).2)
    | .error _ => ([], journal)
  (entries, { read with
    state := { read.state with
      written := ExtTreeSet.ofList (entries.map Prod.fst), identity := some identity } })

/-- Drop a journal that has no checkpoint to vouch for it. -/
def discard (identity : String) : Journal Signature :=
  let purged := (journal.purge faults).2
  { purged with state := { purged.state with identity := some identity } }

def compact (minimumSlot : Slot) : Journal Signature := (journal.rewrite faults minimumSlot).2

end Journal

end Microscope.Shipped
