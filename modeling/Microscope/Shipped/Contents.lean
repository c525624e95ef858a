import Microscope.Shipped.Journal

namespace Microscope.Shipped

open Std Microscope.Data

/-! # What a journal contains

A journal file written by complete appends is the rendering of a header and a
list of entries.  The operations of the journal, when no file operation fails,
are operations on these.
-/

variable {Signature : Type}

structure Contents (Signature : Type) where
  header : Option String := none
  entries : List (Signature × Slot) := []
deriving DecidableEq, Repr

namespace Contents

/-- The identity fits on its line, and the slots are `u64` values. -/
structure Typed (contents : Contents Signature) : Prop where
  header : ∀ identity ∈ contents.header, OneLine identity.toList
  entries : ∀ entry ∈ contents.entries, entry.2 ≤ u64Max

/-- An appended entry; the header is stamped on an empty file that is opened. -/
def append (contents : Contents Signature) (isOpen : Bool) (identity : Option String)
    (entry : Signature × Slot) : Contents Signature where
  header := if !isOpen && contents.header.isNone && contents.entries.isEmpty then identity
    else contents.header
  entries := contents.entries ++ [entry]

def retain (contents : Contents Signature) (minimumSlot : Slot) : Contents Signature :=
  { contents with entries := contents.entries.filter fun entry => entry.2 > minimumSlot }

theorem Typed.append {contents : Contents Signature} {isOpen : Bool} {stamp : Option String}
    {entry : Signature × Slot} (typed : contents.Typed)
    (oneLine : ∀ identity ∈ stamp, OneLine identity.toList) (small : entry.2 ≤ u64Max) :
    (contents.append isOpen stamp entry).Typed where
  header := by
    intro identity member
    simp only [Contents.append] at member
    split at member
    · exact oneLine identity member
    · exact typed.header identity member
  entries := by
    intro other member
    rcases List.mem_append.mp member with member | member
    · exact typed.entries other member
    · rwa [List.mem_singleton.mp member]

theorem Typed.retain {contents : Contents Signature} (typed : contents.Typed) (minimumSlot : Slot) :
    (contents.retain minimumSlot).Typed where
  header := typed.header
  entries := fun entry member => typed.entries entry (List.mem_filter.mp member).1

variable [SignatureText Signature]

def render (contents : Contents Signature) : List Char :=
  (contents.header.map headerLine).getD [] ++ contents.entries.flatMap entryLine

end Contents

/-! ## Reading back -/

variable [SignatureText Signature] {contents : Contents Signature} {entry : Signature × Slot}
  {entries : List (Signature × Slot)} {identity : String}

theorem base58_oneLine {characters : List Char} (valid : characters.all isBase58 = true) :
    OneLine characters ∧ ' ' ∉ characters := by
  have excluded : isBase58 '\n' = false ∧ isBase58 '\r' = false ∧ isBase58 ' ' = false := by
    decide +kernel
  have absent : ∀ character, isBase58 character = false → character ∉ characters := by
    intro character invalid member
    have base58 := List.all_eq_true.mp valid character member
    rw [invalid] at base58
    contradiction
  exact ⟨⟨absent _ excluded.1, absent _ excluded.2.1⟩, absent _ excluded.2.2⟩

theorem digits_oneLine {value : Nat} : OneLine (toString value).toList := by
  rw [show toString value = value.repr from rfl, Nat.toList_repr]
  constructor
  · intro member
    have digit := digit_toDigits member
    simp at digit
  · intro member
    have digit := digit_toDigits member
    simp at digit

/-- The text of an entry without its line feed. -/
def entryText (entry : Signature × Slot) : List Char :=
  (SignatureText.toText entry.1).toList ++ ' ' :: (toString entry.2).toList

theorem entryLine_eq : entryLine entry = entryText entry ++ ['\n'] := by
  simp [entryLine, entryText]

theorem entryText_oneLine : OneLine (entryText entry) := by
  obtain ⟨text, _⟩ := base58_oneLine (SignatureText.toText_base58 entry.1)
  have space : OneLine [' '] := by decide
  have digits : OneLine (toString entry.2).toList := digits_oneLine
  have line := (text.append space).append digits
  simpa [entryText] using line

theorem parseEntry_entryText (small : entry.2 ≤ u64Max) : parseEntry (entryText entry) = some entry := by
  obtain ⟨_, unspaced⟩ := base58_oneLine (SignatureText.toText_base58 entry.1)
  simp [parseEntry, entryText, splitOnce_append unspaced, SignatureText.fromText_toText,
    parseUnsigned_toDigits small]

theorem lines_entries :
    lines (entries.flatMap entryLine) = entries.map entryText := by
  induction entries with
  | nil => rfl
  | cons entry rest ih =>
      rw [List.flatMap_cons, entryLine_eq, List.append_assoc, List.singleton_append,
        lines_append_newline entryText_oneLine, ih]
      rfl

/-- A signature is too long to be taken for the start of a header. -/
theorem stripStart_entryText : stripStart identityPrefix (entryText entry) = none := by
  cases stripped : stripStart identityPrefix (entryText entry) with
  | none => rfl
  | some rest =>
      obtain ⟨_, unspaced⟩ := base58_oneLine (SignatureText.toText_base58 entry.1)
      have long : identityPrefix.length ≤ (SignatureText.toText entry.1).toList.length := by
        have least : identityPrefix.length ≤ 64 := by decide
        exact least.trans (SignatureText.toText_length entry.1)
      have start : (SignatureText.toText entry.1).toList.take identityPrefix.length = identityPrefix := by
        have same := congrArg (List.take identityPrefix.length) (stripStart_eq_some_iff.mp stripped)
        rwa [entryText, List.take_append_of_le_length long, List.take_left'  rfl] at same
      have space : ' ' ∈ identityPrefix := by decide
      rw [← start] at space
      exact absurd (List.mem_of_mem_take space) unspaced

theorem parseEntries_entryText (small : ∀ entry ∈ entries, entry.2 ≤ u64Max) :
    parseEntries (entries.map entryText) = entries := by
  induction entries with
  | nil => rfl
  | cons entry rest ih =>
      have parsed := parseEntry_entryText (small entry List.mem_cons_self)
      have parsedRest := ih fun other member => small other (List.mem_cons_of_mem _ member)
      rw [parseEntries] at parsedRest ⊢
      rw [List.map_cons, List.filterMap_cons, parsed, parsedRest]

theorem parseJournal_render (typed : contents.Typed) :
    parseJournal contents.render = (contents.header, contents.entries) := by
  obtain ⟨header, entries⟩ := contents
  have small : ∀ entry ∈ entries, entry.2 ≤ u64Max := typed.entries
  cases header with
  | none =>
      rw [parseJournal, Contents.render, Option.map_none, Option.getD_none, List.nil_append, lines_entries]
      cases entries with
      | nil => rfl
      | cons entry rest =>
          simp only [List.map_cons, stripStart_entryText]
          rw [← List.map_cons, parseEntries_entryText small]
  | some identity =>
      have oneLine : OneLine (identityPrefix ++ identity.toList) :=
        OneLine.append (by decide) (typed.header identity rfl)
      have stripped : stripStart identityPrefix (identityPrefix ++ identity.toList) =
          some identity.toList := stripStart_eq_some_iff.mpr rfl
      rw [parseJournal, Contents.render, Option.map_some, Option.getD_some, headerLine,
        List.append_assoc, List.singleton_append, lines_append_newline oneLine, lines_entries]
      simp only [stripped, parseEntries_entryText small, String.ofList_toList]

theorem parseJournal_header {raw : List Char} :
    (parseJournal raw : Option String × List (Signature × Slot)).1 = headerOf (some raw) := by
  unfold parseJournal headerOf
  cases found : lines raw with
  | nil => simp [found]
  | cons first rest =>
      cases stripped : stripStart identityPrefix first <;> simp [found, stripped]

theorem Contents.render_eq_nil_iff :
    contents.render = [] ↔ contents.header = none ∧ contents.entries = [] := by
  obtain ⟨header, entries⟩ := contents
  cases header <;> cases entries <;> simp [Contents.render, headerLine, entryLine]

/-! ## Operations -/

variable {isOpen : Bool} {stamp : Option String}

/-- Appending writes the stamp of an empty file and the line of the entry. -/
theorem Contents.render_append : (contents.append isOpen stamp entry).render = contents.render ++
    (if isOpen = false ∧ contents.render = [] then (stamp.map headerLine).getD [] else []) ++
      entryLine entry := by
  by_cases stamped : isOpen = false ∧ contents.render = []
  · obtain ⟨closed, empty⟩ := stamped
    obtain ⟨header, entries⟩ := contents
    obtain ⟨rfl, rfl⟩ := Contents.render_eq_nil_iff.mp empty
    simp [Contents.append, Contents.render, closed]
  · have kept : (contents.append isOpen stamp entry).header = contents.header := by
      rw [Contents.render_eq_nil_iff] at stamped
      cases isOpen <;> cases header : contents.header <;> cases entries : contents.entries <;>
        simp_all [Contents.append]
    rw [if_neg stamped, Contents.render, kept, Contents.append, List.flatMap_append]
    simp [Contents.render]

variable [LinearOrder Signature]

/-- The journal file is the rendering of these contents, if there are any. -/
structure Journal.Contains (journal : Journal Signature) (contents : Option (Contents Signature)) :
    Prop where
  file : journal.file = contents.map Contents.render
  typed : ∀ written ∈ contents, written.Typed
  identity : ∀ identity ∈ journal.state.identity, OneLine identity.toList

section NoFaults

variable {journal : Journal Signature} {signature : Signature} {slot : Slot}

theorem append_noFaults : journal.append noFaults signature slot = (.ok (), {
    file := some (journal.file.getD [] ++
      (if journal.state.isOpen = false ∧ journal.file.getD [] = [] then
        (journal.state.identity.map headerLine).getD [] else []) ++ entryLine (signature, slot))
    state := { journal.state with isOpen := true } }) := by
  obtain ⟨file, isOpen, written, identity⟩ := journal
  cases isOpen with
  | true => simp [Journal.append, Journal.writeEntry, noFaults]
  | false => simp [Journal.append, Journal.openAppending, Journal.writeEntry, noFaults]

omit [SignatureText Signature] in
theorem purge_noFaults : (journal.purge noFaults).2 =
    { file := none, state := { journal.state with isOpen := false, written := ∅ } } := by
  unfold Journal.purge
  cases journal.file <;> simp [noFaults]

end NoFaults

namespace Journal.Contains

variable {journal : Journal Signature} {contents : Option (Contents Signature)}
  {signature : Signature} {slot : Slot}

theorem readJournal (contains : journal.Contains contents) : readJournal noFaults journal.file =
    .ok ((contents.getD {}).header, (contents.getD {}).entries) := by
  rw [contains.file]
  cases contents with
  | none => rfl
  | some written =>
      have parsed := parseJournal_render (contains.typed written rfl)
      simp [Shipped.readJournal, noFaults, parsed]

theorem raw_eq (contains : journal.Contains contents) :
    journal.file.getD [] = (contents.getD {}).render := by
  rw [contains.file]
  cases contents <;> rfl

theorem getD_typed (contains : journal.Contains contents) : (contents.getD {}).Typed := by
  cases contents with
  | none => exact ⟨by simp, by simp⟩
  | some written => exact contains.typed written rfl

theorem headerOf_eq (contains : journal.Contains contents) :
    headerOf journal.file = (contents.getD {}).header := by
  rw [contains.file]
  cases contents with
  | none => rfl
  | some written =>
      have parsed := parseJournal_render (contains.typed written rfl)
      have header : (parseJournal written.render : Option String × List (Signature × Slot)).1 =
        headerOf (some written.render) := parseJournal_header
      rw [Option.map_some, ← header, parsed]
      rfl

theorem append (contains : journal.Contains contents) (small : slot ≤ u64Max) :
    ∃ next, journal.append noFaults signature slot = (.ok (), next) ∧
      next.state = { journal.state with isOpen := true } ∧
      next.Contains (some ((contents.getD {}).append journal.state.isOpen journal.state.identity
        (signature, slot))) := by
  refine ⟨_, append_noFaults, rfl, ⟨?_, ?_, contains.identity⟩⟩
  · rw [Option.map_some, Contents.render_append, contains.raw_eq]
  · intro written member
    cases member
    exact contains.getD_typed.append contains.identity small

theorem purge (contains : journal.Contains contents) :
    (journal.purge noFaults).2.Contains none ∧ (journal.purge noFaults).2.state =
      { journal.state with isOpen := false, written := ∅ } := by
  rw [purge_noFaults]
  exact ⟨⟨rfl, by simp, contains.identity⟩, rfl⟩

theorem restore (contains : journal.Contains contents) {identity : String}
    (oneLine : OneLine identity.toList) {entries : List (Signature × Slot)} {next : Journal Signature}
    (restored : journal.restore noFaults identity = (entries, next)) :
    next.state.identity = some identity ∧ next.state.written = ExtTreeSet.ofList (entries.map Prod.fst) ∧
      ((contents.getD {}).header = some identity ∧ entries = (contents.getD {}).entries ∧
          next.state.isOpen = journal.state.isOpen ∧ next.Contains contents ∨
        (contents.getD {}).header ≠ some identity ∧ entries = [] ∧ next.state.isOpen = false ∧
          next.Contains none) := by
  have named : ∀ name ∈ some identity, OneLine name.toList := by
    rintro name ⟨⟩
    exact oneLine
  simp only [Journal.restore, contains.readJournal] at restored
  split at restored
  · rename_i same
    cases restored
    exact ⟨rfl, rfl, .inl ⟨same, rfl, rfl, contains.file, contains.typed, named⟩⟩
  · rename_i different
    obtain ⟨purged, state⟩ := contains.purge
    cases restored
    exact ⟨rfl, rfl, .inr ⟨different, rfl, by simp [state], purged.file, purged.typed, named⟩⟩

theorem discard (contains : journal.Contains contents) {identity : String}
    (oneLine : OneLine identity.toList) :
    (journal.discard noFaults identity).Contains none ∧ (journal.discard noFaults identity).state =
      { isOpen := false, written := ∅, identity := some identity } := by
  obtain ⟨purged, state⟩ := contains.purge
  refine ⟨⟨purged.file, purged.typed, ?_⟩, by simp [Journal.discard, state]⟩
  rintro name ⟨⟩
  exact oneLine

theorem compact (contains : journal.Contains contents) (minimumSlot : Slot) :
    (journal.compact noFaults minimumSlot).Contains
        (contents.map fun written => written.retain minimumSlot) ∧
      (journal.compact noFaults minimumSlot).state.identity = journal.state.identity ∧
      ((journal.compact noFaults minimumSlot).state.isOpen = true → journal.state.isOpen = true) := by
  simp only [Journal.compact, Journal.rewrite, contains.readJournal]
  split
  · rename_i complete
    have retained : ∀ entry ∈ (contents.getD {}).entries, entry.2 > minimumSlot := by
      simpa using List.length_filter_eq_length_iff.mp complete
    have same : contents.map (fun written => written.retain minimumSlot) = contents := by
      cases contents with
      | none => rfl
      | some written =>
          have kept : written.entries.filter (fun entry => entry.2 > minimumSlot) = written.entries :=
            List.filter_eq_self.mpr fun entry member => decide_eq_true (retained entry member)
          simp [Contents.retain, kept]
    rw [same]
    exact ⟨contains, rfl, id⟩
  · rename_i dropped
    cases contents with
    | none => exact absurd rfl dropped
    | some written =>
        simp only [noFaults, Option.isSome_none, Bool.false_eq_true, if_false]
        refine ⟨⟨rfl, ?_, contains.identity⟩, trivial, by simp⟩
        rintro kept ⟨⟩
        exact (contains.typed written rfl).retain minimumSlot

end Journal.Contains

end Microscope.Shipped
