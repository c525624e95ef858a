import Microscope.Shipped.Memory

namespace Microscope.Shipped

open Std Microscope.Data

/-! # Going on with a journal that breaks off

A process that was killed leaves a beginning of its journal.  The processes
after it restore the journal and append to it.
-/

variable {Signature : Type} [LinearOrder Signature] [SignatureText Signature] {identity : Identity}
  {contents : Contents Signature} {raw : List Char} {kept begun : List (Signature × Slot)}
  {journal : Journal Signature} {signature : Signature} {slot : Slot}

/-- `kept` are first entries of the journal whose lines are complete in what
was left of it. -/
def LeavesBehind (contents : Contents Signature) (raw : List Char) (kept : List (Signature × Slot)) :
    Prop :=
  raw <+: contents.render ∧ (kept = [] ∨
    ∃ count, kept = contents.entries.take count ∧ (contents.first count).render <+: raw)

/-- The journal as a new process finds it. -/
def Journal.restarted (journal : Journal Signature) : Journal Signature := { file := journal.file }

/-- The entries that were appended completely and not dropped, after one more
operation of the process. -/
def Operation.keeps (journal : Journal Signature) (kept : List (Signature × Slot)) :
    Operation Signature → List (Signature × Slot)
  | .record signature slot _ =>
      if journal.state.written.contains signature then kept else kept ++ [(signature, slot)]
  | .restore => kept
  | .discard => []
  | .compact minimumSlot => kept.filter fun entry => entry.2 > minimumSlot

/-- The operation appends nothing to a broken line. -/
def Operation.AppendsWhole (journal : Journal Signature) : Operation Signature → Prop
  | .record signature _ _ =>
      journal.state.written.contains signature = true ∨ ∀ raw ∈ journal.file, Whole raw
  | _ => True

/-- What processes of one identity make of a journal that was left behind.
Each restores it first, and none appends to a broken line. -/
inductive Continued (identity : Identity) (raw : List Char) (begun : List (Signature × Slot)) :
    Journal Signature → List (Signature × Slot) → Prop where
  | left : Continued identity raw begun { file := some raw } begun
  | restart {journal : Journal Signature} {kept : List (Signature × Slot)}
      (earlier : Continued identity raw begun journal kept) :
      Continued identity raw begun (journal.restarted.restore noFaults identity.text).2 kept
  | perform {journal : Journal Signature} {kept : List (Signature × Slot)}
      {operation : Operation Signature} (earlier : Continued identity raw begun journal kept)
      (restored : journal.state.identity = some identity.text)
      (appends : operation.AppendsWhole journal) :
      Continued identity raw begun (journal.perform identity operation).2
        (operation.keeps journal kept)

/-! ## What a process finds -/

/-- A restore of this file returns what is to be kept. -/
def Carries (identity : Identity) (kept : List (Signature × Slot)) (file : Option (List Char)) : Prop :=
  kept = [] ∨ ∃ raw entries, file = some raw ∧ raw ≠ [] ∧
    parseJournal raw = (some identity.text, entries) ∧ kept.Sublist entries

/-- The process restored or discarded its journal, which is missing or its own. -/
structure Restored (identity : Identity) (journal : Journal Signature) : Prop where
  known : journal.state.identity = some identity.text
  file : journal.file = none ∧ journal.state.isOpen = false ∨
    ∃ raw entries, journal.file = some raw ∧ raw ≠ [] ∧
      parseJournal raw = (some identity.text, (entries : List (Signature × Slot)))

theorem restore_cases (journal : Journal Signature) :
    (∃ raw entries, journal.file = some raw ∧ raw ≠ [] ∧
        parseJournal raw = (some identity.text, entries) ∧
        (journal.restore noFaults identity.text).1 = entries ∧
        (journal.restore noFaults identity.text).2.file = some raw) ∨
      (∀ raw entries, journal.file = some raw →
        parseJournal raw ≠ (some identity.text, (entries : List (Signature × Slot)))) ∧
        (journal.restore noFaults identity.text).1 = [] ∧
        (journal.restore noFaults identity.text).2.file = none ∧
        (journal.restore noFaults identity.text).2.state.isOpen = false := by
  unfold Journal.restore
  cases found : journal.file with
  | none =>
      have missing : (none : Option String) ≠ some identity.text := by simp
      have read : readJournal noFaults none = .ok (none, ([] : List (Signature × Slot))) := rfl
      rw [read]
      dsimp only
      rw [if_neg missing, purge_noFaults]
      exact .inr ⟨fun raw entries same => (by cases same), rfl, rfl, rfl⟩
  | some raw =>
      have read : readJournal noFaults (some raw) =
          .ok ((parseJournal raw).1, ((parseJournal raw).2 : List (Signature × Slot))) := rfl
      rw [read]
      dsimp only
      by_cases same : (parseJournal raw : Option String × List (Signature × Slot)).1 = some identity.text
      · have filled : raw ≠ [] := by
          intro empty
          rw [empty] at same
          cases same
        rw [if_pos same]
        exact .inl ⟨raw, _, rfl, filled, by rw [← same], rfl, found⟩
      · rw [if_neg same, purge_noFaults]
        refine .inr ⟨fun other entries otherSame parsed => ?_, rfl, rfl, rfl⟩
        cases otherSame
        rw [parsed] at same
        exact same rfl

theorem Restored.restore (journal : Journal Signature) :
    Restored identity (journal.restore noFaults identity.text).2 := by
  refine ⟨rfl, ?_⟩
  rcases restore_cases journal with ⟨raw, entries, _, filled, parsed, _, file⟩ | ⟨_, _, missing, closed⟩
  · exact .inr ⟨raw, entries, file, filled, parsed⟩
  · exact .inl ⟨missing, closed⟩

/-- A restore returns what the file carries, and leaves it there. -/
theorem Carries.restore (carries : Carries identity kept journal.file) :
    kept.Sublist (journal.restore noFaults identity.text).1 ∧
      Carries identity kept (journal.restore noFaults identity.text).2.file := by
  rcases carries with rfl | ⟨raw, entries, found, filled, parsed, sublist⟩
  · exact ⟨List.nil_sublist _, .inl rfl⟩
  rcases restore_cases journal with ⟨other, returned, otherFound, _, otherParsed, same, file⟩ | ⟨foreign, _⟩
  · rw [found] at otherFound
    cases otherFound
    rw [parsed] at otherParsed
    cases otherParsed
    rw [same, file]
    exact ⟨sublist, .inr ⟨raw, entries, rfl, filled, parsed, sublist⟩⟩
  · exact absurd parsed (foreign raw entries found)

theorem Carries.record {small : slot ≤ u64Max} (carries : Carries identity kept journal.file)
    (restored : Restored identity journal)
    (appends : (Operation.record signature slot small).AppendsWhole journal) :
    Carries identity
        (if journal.state.written.contains signature then kept else kept ++ [(signature, slot)])
        (journal.record noFaults signature slot).file ∧
      Restored identity (journal.record noFaults signature slot) := by
  unfold Journal.record
  by_cases present : journal.state.written.contains signature = true
  · rw [if_pos present, if_pos present]
    exact ⟨carries, restored⟩
  rw [if_neg present, if_neg present, append_noFaults]
  have whole : ∀ raw ∈ journal.file, Whole raw := appends.resolve_left present
  rcases restored.file with ⟨missing, closed⟩ | ⟨raw, entries, found, filled, parsed⟩
  · have nothing : kept = [] := by
      rcases carries with nothing | ⟨raw, _, found, _⟩
      · exact nothing
      · rw [missing] at found
        cases found
    have stamped : parseJournal (stampedContents identity [(signature, slot)]).render =
        (some identity.text, [(signature, slot)]) := parseJournal_stamped (by simpa using small)
    have text : (journal.mark signature).file.getD [] ++
        (if (journal.mark signature).state.isOpen = false ∧ (journal.mark signature).file.getD [] = [] then
          ((journal.mark signature).state.identity.map headerLine).getD [] else []) ++
        entryLine (signature, slot) = (stampedContents identity [(signature, slot)]).render := by
      simp [Journal.mark, missing, closed, restored.known, stampedContents, Contents.render]
    rw [nothing, List.nil_append]
    dsimp only
    rw [text]
    exact ⟨.inr ⟨_, _, rfl, render_stamped_ne_nil, stamped, List.Sublist.refl _⟩,
      restored.known, .inr ⟨_, _, rfl, render_stamped_ne_nil, stamped⟩⟩
  · have text : (journal.mark signature).file.getD [] ++
        (if (journal.mark signature).state.isOpen = false ∧ (journal.mark signature).file.getD [] = [] then
          ((journal.mark signature).state.identity.map headerLine).getD [] else []) ++
        entryLine (signature, slot) = raw ++ entryLine (signature, slot) := by
      simp [Journal.mark, found, filled]
    have appended : parseJournal (raw ++ entryLine (signature, slot)) =
        (some identity.text, entries ++ [(signature, slot)]) := by
      rw [parseJournal_append (whole raw found) filled, parsed, parseEntries_line small]
    have sublist : kept.Sublist entries := by
      rcases carries with rfl | ⟨other, others, otherFound, _, otherParsed, sublist⟩
      · exact List.nil_sublist _
      · rw [found] at otherFound
        cases otherFound
        rw [parsed] at otherParsed
        cases otherParsed
        exact sublist
    have nonempty : raw ++ entryLine (signature, slot) ≠ [] := by simp [filled]
    dsimp only
    rw [text]
    exact ⟨.inr ⟨_, _, rfl, nonempty, appended, sublist.append (List.Sublist.refl _)⟩,
      restored.known, .inr ⟨_, _, rfl, nonempty, appended⟩⟩

theorem Carries.compact {minimumSlot : Slot} (carries : Carries identity kept journal.file)
    (restored : Restored identity journal) :
    Carries identity (kept.filter fun entry => entry.2 > minimumSlot)
        (journal.compact noFaults minimumSlot).file ∧
      Restored identity (journal.compact noFaults minimumSlot) := by
  unfold Journal.compact Journal.rewrite
  have dropped : Carries identity (kept.filter fun entry => entry.2 > minimumSlot) journal.file := by
    rcases carries with rfl | ⟨raw, entries, found, filled, parsed, sublist⟩
    · exact .inl rfl
    · exact .inr ⟨raw, entries, found, filled, parsed, List.filter_sublist.trans sublist⟩
  rcases restored.file with ⟨missing, closed⟩ | ⟨raw, entries, found, filled, parsed⟩
  · have read : readJournal noFaults journal.file = .ok (none, ([] : List (Signature × Slot))) := by
      rw [missing]
      rfl
    rw [read]
    exact ⟨dropped, restored⟩
  have read : readJournal noFaults journal.file = .ok (some identity.text, entries) := by
    rw [found, readJournal, parsed]
    rfl
  rw [read]
  dsimp only
  split
  · exact ⟨dropped, restored⟩
  have small : ∀ entry ∈ entries.filter (fun entry => entry.2 > minimumSlot), entry.2 ≤ u64Max := by
    intro entry member
    have listed : entry ∈ (parseJournal raw).2 := by
      rw [parsed]
      exact (List.mem_filter.mp member).1
    exact parseJournal_bounded listed
  have rewritten : parseJournal (stampedContents identity
      (entries.filter fun entry => entry.2 > minimumSlot)).render = (some identity.text, _) :=
    parseJournal_stamped small
  have sublist : kept.Sublist entries := by
    rcases carries with rfl | ⟨other, others, otherFound, _, otherParsed, sublist⟩
    · exact List.nil_sublist _
    · rw [found] at otherFound
      cases otherFound
      rw [parsed] at otherParsed
      cases otherParsed
      exact sublist
  simp only [noFaults, Option.isSome_none, Bool.false_eq_true, if_false]
  exact ⟨.inr ⟨_, _, rfl, render_stamped_ne_nil, rewritten, sublist.filter _⟩,
    restored.known, .inr ⟨_, _, rfl, render_stamped_ne_nil, rewritten⟩⟩

/-! ## Every later restore -/

theorem Continued.carries (continued : Continued identity raw begun journal kept)
    (left : Carries identity begun (some raw)) :
    Carries identity kept journal.file ∧
      (journal.state.identity = some identity.text → Restored identity journal) := by
  induction continued with
  | left => exact ⟨left, fun unknown => by cases unknown⟩
  | @restart journal kept _ ih =>
      have found : Carries identity kept journal.restarted.file := ih.1
      exact ⟨found.restore.2, fun _ => .restore _⟩
  | @perform journal kept operation _ known appends ih =>
      obtain ⟨carries, restored⟩ := ih
      cases operation with
      | record signature slot small =>
          have recorded := carries.record (restored known) appends
          exact ⟨recorded.1, fun _ => recorded.2⟩
      | restore => exact ⟨carries.restore.2, fun _ => .restore _⟩
      | discard =>
          refine ⟨.inl rfl, fun _ => ⟨rfl, .inl ?_⟩⟩
          simp [Journal.perform, Journal.discard, purge_noFaults]
      | compact minimumSlot =>
          have compacted : Carries identity (kept.filter fun entry => entry.2 > minimumSlot)
              (journal.compact noFaults minimumSlot).file ∧ _ := carries.compact (restored known)
          exact ⟨compacted.1, fun _ => compacted.2⟩

omit [LinearOrder Signature] in
theorem LeavesBehind.carries (typed : contents.Typed) (named : contents.header = some identity.text)
    (left : LeavesBehind contents raw kept) : Carries identity kept (some raw) := by
  obtain ⟨_, rfl | ⟨count, rfl, rest, rfl⟩⟩ := left
  · exact .inl rfl
  · have filled : (contents.first count).render ≠ [] := by
      intro empty
      have header := (Contents.render_eq_nil_iff.mp empty).1
      rw [Contents.first, named] at header
      cases header
    have parsed : parseJournal ((contents.first count).render ++ rest) =
        (some identity.text, contents.entries.take count ++ parseEntries (lines rest)) := by
      rw [parseJournal_append render_whole filled, parseJournal_render (typed.first count), ← named]
      rfl
    exact .inr ⟨_, _, rfl, by simp [filled], parsed, List.sublist_append_left _ _⟩

/-- Whatever a killed process left of its journal, the processes after it get
back every entry that was appended completely and not dropped, as long as
nothing is appended to a broken line. -/
theorem restores_what_was_appended (typed : contents.Typed) (named : contents.header = some identity.text)
    (left : LeavesBehind contents raw begun) (continued : Continued identity raw begun journal kept) :
    kept.Sublist (journal.restarted.restore noFaults identity.text).1 ∧
      kept.Sublist (journal.restore noFaults identity.text).1 := by
  have carries := (continued.carries (left.carries typed named)).1
  have restarted : Carries identity kept journal.restarted.file := carries
  exact ⟨restarted.restore.1, carries.restore.1⟩

/-! A journal whose third entry breaks off. -/

def brokenContents : Contents (Fin 58) := stampedContents mainnet [(1, 100), (2, 50), (3, 300)]

def brokenJournal : List Char :=
  (brokenContents.first 2).render ++ (entryLine ((3 : Fin 58), 300)).take 20

theorem brokenJournal_left : LeavesBehind brokenContents brokenJournal [(1, 100), (2, 50)] :=
  ⟨by decide +kernel, .inr ⟨2, rfl, List.prefix_append _ _⟩⟩

def restartedJournal : Journal (Fin 58) :=
  (({ file := some brokenJournal } : Journal (Fin 58)).restarted.restore noFaults mainnet.text).2

theorem restartedJournal_continued :
    Continued mainnet brokenJournal [(1, 100), (2, 50)] restartedJournal [(1, 100), (2, 50)] :=
  .restart .left

def compactedJournal : Journal (Fin 58) :=
  (restartedJournal.perform mainnet (.compact 60)).2

/-- Compaction rewrites the journal without the broken line. -/
theorem restores_what_was_appended_compacted :
    [((1 : Fin 58), 100), (4, 400)].Sublist
      ((compactedJournal.perform mainnet (.record 4 400 (by decide))).2.restarted.restore
        noFaults mainnet.text).1 := by
  have typed : brokenContents.Typed := stampedContents_typed (by decide)
  have compacted : Continued mainnet brokenJournal [(1, 100), (2, 50)] compactedJournal _ :=
    restartedJournal_continued.perform rfl trivial
  have whole : (Operation.record (4 : Fin 58) 400 (by decide)).AppendsWhole compactedJournal := by
    have written : compactedJournal.file =
        some ((stampedContents mainnet [((1 : Fin 58), 100)]).render.dropLast ++ ['\n']) := by
      decide +kernel
    right
    intro raw member
    rw [written] at member
    cases member
    exact .inr ⟨_, rfl⟩
  have recorded := compacted.perform rfl whole
  exact (restores_what_was_appended typed rfl brokenJournal_left recorded).1

/-- The line of the fourth entry is glued to the broken one. -/
theorem loses_what_was_appended : LeavesBehind brokenContents brokenJournal [(1, 100), (2, 50)] ∧
    (restartedJournal.restore noFaults mainnet.text).1 = [(1, 100), (2, 50)] ∧
    ((restartedJournal.perform mainnet (.record 4 400 (by decide))).2.restarted.restore
      noFaults mainnet.text).1 = [(1, 100), (2, 50)] := by
  refine ⟨brokenJournal_left, ?_, ?_⟩
  · decide +kernel
  · decide +kernel

end Microscope.Shipped
