import Microscope.Shipped.Handles
import Microscope.Shipped.Tails

namespace Microscope.Shipped

open Std Microscope.Data

/-! # What the journal remembers of its file

Once a process has restored or discarded its journal, the signatures it takes
for written are those of the entries in the file.
-/

variable {Signature : Type} [LinearOrder Signature]

/-- What an operation is to do to the entries of the journal. -/
def Operation.journalled (entries : List (Signature × Slot)) :
    Operation Signature → List (Signature × Slot)
  | .record signature slot _ =>
      if signature ∈ entries.map Prod.fst then entries else entries ++ [(signature, slot)]
  | .restore => entries
  | .discard => []
  | .compact minimumSlot => entries.filter fun entry => entry.2 > minimumSlot

variable [SignatureText Signature] {identity : Identity} {entries : List (Signature × Slot)}
  {journal : Journal Signature} {raw : List Char}

/-- The file is missing or carries the identity and these entries, and the
journal remembers their signatures. -/
structure Journal.Agrees (identity : Identity) (entries : List (Signature × Slot))
    (journal : Journal Signature) : Prop where
  known : journal.state.identity = some identity.text
  file : journal.file = none ∧ entries = [] ∧ journal.state.isOpen = false ∨
    ∃ raw, journal.file = some raw ∧ raw ≠ [] ∧ Whole raw ∧
      parseJournal raw = (some identity.text, entries)
  written : ∀ signature, signature ∈ journal.state.written ↔ signature ∈ entries.map Prod.fst

omit [LinearOrder Signature] in
theorem parseEntries_bounded {texts : List (List Char)} {entry : Signature × Slot}
    (member : entry ∈ parseEntries texts) : entry.2 ≤ u64Max := by
  obtain ⟨line, _, parsed⟩ := List.mem_filterMap.mp member
  unfold parseEntry at parsed
  split at parsed
  · cases parsed
  · split at parsed
    · cases parsed
    · obtain ⟨slot, number, rfl⟩ := Option.map_eq_some_iff.mp parsed
      exact parseUnsigned_le number

omit [LinearOrder Signature] in
theorem parseJournal_bounded {entry : Signature × Slot} (member : entry ∈ (parseJournal raw).2) :
    entry.2 ≤ u64Max := by
  unfold parseJournal at member
  split at member
  · cases member
  · split at member
    · exact parseEntries_bounded member
    · exact parseEntries_bounded member

omit [LinearOrder Signature] in
theorem parseEntries_line {entry : Signature × Slot} (small : entry.2 ≤ u64Max) :
    parseEntries (lines (entryLine entry)) = [entry] := by
  have line : lines (entryLine entry) = [entryText entry] := by
    rw [entryLine_eq, lines_append_newline entryText_oneLine]
    rfl
  rw [line, parseEntries, List.filterMap_cons, parseEntry_entryText small]
  rfl

/-- The journal of an identity with these entries, as it is written anew. -/
def stampedContents (identity : Identity) (entries : List (Signature × Slot)) : Contents Signature where
  header := some identity.text
  entries := entries

omit [LinearOrder Signature] [SignatureText Signature] in
theorem stampedContents_typed (small : ∀ entry ∈ entries, entry.2 ≤ u64Max) :
    (stampedContents identity entries).Typed where
  header := by
    intro name named
    cases named
    exact identity.oneLine
  entries := small

omit [LinearOrder Signature] in
theorem parseJournal_stamped (small : ∀ entry ∈ entries, entry.2 ≤ u64Max) :
    parseJournal (stampedContents identity entries).render = (some identity.text, entries) :=
  parseJournal_render (stampedContents_typed small)

omit [LinearOrder Signature] in
theorem render_stamped_ne_nil : (stampedContents identity entries).render ≠ [] := by
  intro empty
  have header := (Contents.render_eq_nil_iff.mp empty).1
  cases header

omit [SignatureText Signature] in
theorem mem_ofList_signatures {signature : Signature} :
    signature ∈ ExtTreeSet.ofList (entries.map Prod.fst) ↔ signature ∈ entries.map Prod.fst := by
  rw [ExtTreeSet.mem_ofList, List.contains_iff_mem]

namespace Journal.Agrees

theorem readJournal (agrees : journal.Agrees identity entries) :
    readJournal noFaults journal.file =
      .ok (if journal.file.isNone then none else some identity.text, entries) := by
  rcases agrees.file with ⟨missing, rfl, _⟩ | ⟨raw, found, _, _, parsed⟩
  · rw [missing]
    rfl
  · rw [found]
    simp [Shipped.readJournal, noFaults, parsed]

theorem small (agrees : journal.Agrees identity entries) : ∀ entry ∈ entries, entry.2 ≤ u64Max := by
  intro entry member
  rcases agrees.file with ⟨_, rfl, _⟩ | ⟨raw, _, _, _, parsed⟩
  · cases member
  · have read : entry ∈ (parseJournal raw).2 := by
      rw [parsed]
      exact member
    exact parseJournal_bounded read

theorem record (agrees : journal.Agrees identity entries) {signature : Signature} {slot : Slot}
    (small : slot ≤ u64Max) :
    (journal.record noFaults signature slot).Agrees identity
      (if signature ∈ entries.map Prod.fst then entries else entries ++ [(signature, slot)]) := by
  unfold Journal.record
  by_cases present : signature ∈ entries.map Prod.fst
  · have contained : journal.state.written.contains signature = true :=
      ExtTreeSet.contains_iff_mem.mpr ((agrees.written signature).mpr present)
    rw [if_pos present, if_pos contained]
    exact agrees
  · have fresh : ¬journal.state.written.contains signature = true := fun contained =>
      present ((agrees.written signature).mp (ExtTreeSet.contains_iff_mem.mp contained))
    rw [if_neg present, if_neg fresh, append_noFaults]
    refine ⟨agrees.known, .inr ⟨_, rfl, ?_, entryLine_whole, ?_⟩, fun other => ?_⟩
    · simp [entryLine]
    · rcases agrees.file with ⟨missing, rfl, closed⟩ | ⟨raw, found, filled, whole, parsed⟩
      · have stamped : parseJournal (stampedContents identity [(signature, slot)]).render =
            (some identity.text, [(signature, slot)]) := parseJournal_stamped (by simpa using small)
        simpa [Journal.mark, missing, closed, agrees.known, stampedContents, Contents.render] using stamped
      · simp only [Journal.mark, found, Option.getD_some, filled, and_false, if_false, List.append_nil]
        rw [parseJournal_append whole filled, parsed, parseEntries_line small]
    · have inserted : other ∈ journal.state.written.insert signature ↔
          other = signature ∨ other ∈ journal.state.written := by
        rw [ExtTreeSet.mem_insert, Std.compare_eq_iff_eq]
        exact or_congr_left eq_comm
      change other ∈ journal.state.written.insert signature ↔ _
      rw [inserted, agrees.written other, List.map_append, List.mem_append, List.map_singleton,
        List.mem_singleton]
      exact or_comm

theorem compact (agrees : journal.Agrees identity entries) (minimumSlot : Slot) :
    (journal.compact noFaults minimumSlot).Agrees identity
      (entries.filter fun entry => entry.2 > minimumSlot) := by
  unfold Journal.compact Journal.rewrite
  rw [agrees.readJournal]
  dsimp only
  split
  · rename_i complete
    have same : entries.filter (fun entry => entry.2 > minimumSlot) = entries :=
      List.filter_eq_self.mpr (List.length_filter_eq_length_iff.mp complete)
    rw [same]
    exact agrees
  · rename_i dropped
    rcases agrees.file with ⟨_, rfl, _⟩ | ⟨raw, found, _⟩
    · exact absurd rfl dropped
    · have retainedSmall : ∀ entry ∈ entries.filter (fun entry => entry.2 > minimumSlot),
          entry.2 ≤ u64Max := fun entry member => agrees.small entry (List.mem_filter.mp member).1
      simp only [noFaults, Option.isSome_none, Bool.false_eq_true, if_false, found]
      exact ⟨agrees.known, .inr ⟨(stampedContents identity _).render, rfl, render_stamped_ne_nil,
        render_whole, parseJournal_stamped retainedSmall⟩, fun signature => mem_ofList_signatures⟩

theorem discard (journal : Journal Signature) :
    (journal.discard noFaults identity.text).Agrees identity [] := by
  unfold Journal.discard
  rw [purge_noFaults]
  exact ⟨rfl, .inl ⟨rfl, rfl, rfl⟩, fun signature => by simp⟩

/-- A journal that is restored under its own name must not end in a broken line. -/
theorem restore (journal : Journal Signature)
    (whole : headerOf journal.file = some identity.text → ∀ raw ∈ journal.file, Whole raw) :
    (journal.restore noFaults identity.text).2.Agrees identity
      (journal.restore noFaults identity.text).1 := by
  unfold Journal.restore
  cases found : journal.file with
  | none =>
      have missing : (none : Option String) ≠ some identity.text := by simp
      simp only [Shipped.readJournal, if_neg missing, purge_noFaults]
      exact ⟨rfl, .inl ⟨rfl, rfl, rfl⟩, fun signature => mem_ofList_signatures⟩
  | some raw =>
      have read : Shipped.readJournal noFaults (some raw) =
          .ok ((parseJournal raw).1, ((parseJournal raw).2 : List (Signature × Slot))) := rfl
      have header : (parseJournal raw : Option String × List (Signature × Slot)).1 =
          headerOf journal.file := by rw [found, parseJournal_header]
      rw [read]
      dsimp only
      rw [header]
      by_cases same : headerOf journal.file = some identity.text
      · have filled : raw ≠ [] := by
          intro empty
          rw [found, empty] at same
          cases same
        rw [if_pos same]
        exact ⟨rfl, .inr ⟨raw, found, filled, whole same raw found, by rw [← same, ← header]⟩,
          fun signature => mem_ofList_signatures⟩
      · rw [if_neg same, purge_noFaults]
        exact ⟨rfl, .inl ⟨rfl, rfl, rfl⟩, fun signature => mem_ofList_signatures⟩

theorem restored (agrees : journal.Agrees identity entries) :
    (journal.restore noFaults identity.text).1 = entries := by
  unfold Journal.restore
  rw [agrees.readJournal]
  rcases agrees.file with ⟨missing, rfl, _⟩ | ⟨raw, found, _⟩
  · simp [missing]
  · simp [found]

theorem whole (agrees : journal.Agrees identity entries) : ∀ raw ∈ journal.file, Whole raw := by
  intro raw member
  rcases agrees.file with ⟨missing, _⟩ | ⟨other, found, _, whole, _⟩
  · rw [missing] at member
    cases member
  · rw [found] at member
    cases member
    exact whole

/-- The memory and the file agree after every operation. -/
theorem perform (agrees : journal.Agrees identity entries) (operation : Operation Signature) :
    (journal.perform identity operation).2.Agrees identity (operation.journalled entries) := by
  cases operation with
  | record signature slot small => exact agrees.record small
  | restore =>
      have again : (journal.restore noFaults identity.text).2.Agrees identity
          (journal.restore noFaults identity.text).1 := restore journal fun _ => agrees.whole
      rw [agrees.restored] at again
      exact again
  | discard => exact discard journal
  | compact minimumSlot => exact agrees.compact minimumSlot

theorem performAll (agrees : journal.Agrees identity entries) (operations : List (Operation Signature)) :
    (journal.performAll identity operations).2.Agrees identity
      (operations.foldl Operation.journalled entries) := by
  induction operations generalizing journal entries with
  | nil => exact agrees
  | cons operation rest ih => exact ih (agrees.perform operation)

end Journal.Agrees

/-! ## Processes and their open files -/

/-- The journal text is missing or carries the identity and these entries, the
journal remembers their signatures, and what it holds open is what is there. -/
structure HeldJournal.Agrees (identity : Identity) (entries : List (Signature × Slot))
    (held : HeldJournal Signature) : Prop where
  read : readJournal noFaults held.directory.read =
    .ok (if held.directory.read.isNone then none else some identity.text, entries)
  written : ∀ signature, signature ∈ held.state.written ↔ signature ∈ entries.map Prod.fst
  linked : held.Linked

/-- What a process may have done to its journal before it learns its identity. -/
def HeldJournal.Reached (identity : Identity) (held : HeldJournal Signature) : Prop :=
  ∃ (directory : Directory) (operations : List (Operation Signature)),
    held = (({ directory } : HeldJournal Signature).performAll identity operations).2

/-- The journal is not one that a restore keeps although it breaks off. -/
def HeldJournal.Unbroken (identity : Identity) (held : HeldJournal Signature) : Prop :=
  headerOf held.directory.read = some identity.text → ∀ raw ∈ held.directory.read, Whole raw

variable {held : HeldJournal Signature}

theorem HeldJournal.Reached.linked (reached : held.Reached identity) : held.Linked := by
  obtain ⟨directory, operations, rfl⟩ := reached
  have fresh : ({ directory } : HeldJournal Signature).Linked := .closed rfl
  exact (performAll_follows fresh identity operations).linked

theorem HeldJournal.Agrees.of_view (linked : held.Linked) (agrees : held.view.Agrees identity entries) :
    held.Agrees identity entries where
  read := agrees.readJournal
  written := agrees.written
  linked := linked

/-- From the first restore or discard of a process on, the memory of the
journal and its file agree, unless the journal that is restored breaks off. -/
theorem memory_and_file_agree (reached : held.Reached identity) {first : Operation Signature}
    (learns : first.learns = true) (unbroken : first = .restore → held.Unbroken identity)
    (operations : List (Operation Signature)) :
    ((held.perform identity first).2.performAll identity operations).2.Agrees identity
      (operations.foldl Operation.journalled ((held.perform identity first).1.getD [])) := by
  obtain ⟨openedLinked, sameReturned, openedView⟩ := perform_follows reached.linked identity first
  obtain ⟨finalLinked, _, finalView⟩ := performAll_follows openedLinked identity operations
  refine .of_view finalLinked ?_
  rw [finalView, openedView, sameReturned]
  apply Journal.Agrees.performAll
  cases first with
  | record => cases learns
  | compact => cases learns
  | restore => exact Journal.Agrees.restore held.view (unbroken rfl)
  | discard => exact Journal.Agrees.discard held.view

/-! A journal of one entry, with what a kill left of the next one. -/

def directoryOf (raw : List Char) : Directory where
  visible := some 0
  contents := fun _ => raw
  next := 1
  exist := fun file same => by cases same; decide

def heldEntries : Contents (Fin 58) := stampedContents mainnet [(1, 100)]

def heldJournal (torn : List Char) : HeldJournal (Fin 58) :=
  { directory := directoryOf (heldEntries.render ++ torn) }

theorem heldJournal_reached (torn : List Char) : (heldJournal torn).Reached mainnet :=
  ⟨directoryOf (heldEntries.render ++ torn), [], rfl⟩

/-- The first entry is dropped by compaction and journaled again. -/
theorem memory_and_file_agree_rejournalled :
    (((heldJournal []).perform mainnet .restore).2.performAll mainnet
      [.record 2 200 (by decide), .compact 100, .record 1 300 (by decide)]).2.Agrees mainnet
      [(2, 200), (1, 300)] := by
  have unbroken : (heldJournal []).Unbroken mainnet := by
    intro _ raw member
    cases member
    exact .inr ⟨heldEntries.render.dropLast, by decide +kernel⟩
  have entries : [Operation.record 2 200 (by decide), .compact 100, .record 1 300 (by decide)].foldl
      Operation.journalled (((heldJournal []).perform mainnet .restore).1.getD []) =
        [((2 : Fin 58), 200), (1, 300)] := by decide +kernel
  have learns : (Operation.restore : Operation (Fin 58)).learns = true := rfl
  have agrees := memory_and_file_agree (heldJournal_reached []) learns (fun _ => unbroken)
    [.record 2 200 (by decide), .compact 100, .record 1 300 (by decide)]
  rw [entries] at agrees
  exact agrees

/-- The line of the second entry is glued to the broken one. -/
theorem memory_without_file : ∃ held : HeldJournal (Fin 58), held.Reached mainnet ∧
    2 ∈ ((held.perform mainnet .restore).2.performAll mainnet [.record 2 200 (by decide)]).2.state.written ∧
    readJournal noFaults ((held.perform mainnet .restore).2.performAll mainnet
      [.record 2 200 (by decide)]).2.directory.read =
        .ok (some mainnet.text, [((1 : Fin 58), 100)]) := by
  refine ⟨heldJournal ((entryLine ((3 : Fin 58), 300)).take 20), heldJournal_reached _, ?_, ?_⟩
  · decide +kernel
  · decide +kernel

end Microscope.Shipped
