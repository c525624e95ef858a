import Microscope.Shipped.Contents

namespace Microscope.Shipped

open Std Microscope.Data

/-! # Journals that break off

A process that is killed while it appends leaves a beginning of the journal
text.  The text is ASCII, so that it may break off after any character.
-/

variable {Signature : Type} [SignatureText Signature] {contents : Contents Signature}
  {entry : Signature × Slot} {entries : List (Signature × Slot)} {raw torn : List Char}

/-- The journal when only its first entries had been appended. -/
def Contents.first (contents : Contents Signature) (count : Nat) : Contents Signature :=
  { contents with entries := contents.entries.take count }

theorem parseEntries_append {first second : List (List Char)} :
    (parseEntries (first ++ second) : List (Signature × Slot)) =
      parseEntries first ++ parseEntries second :=
  List.filterMap_append

/-- Entries that are appended to whole lines are read behind them. -/
theorem parseJournal_append (whole : Whole raw) (filled : raw ≠ []) {rest : List Char} :
    (parseJournal (raw ++ rest) : Option String × List (Signature × Slot)) =
      ((parseJournal raw : Option String × List (Signature × Slot)).1,
        (parseJournal raw).2 ++ parseEntries (lines rest)) := by
  unfold parseJournal
  rw [whole.lines_append]
  cases found : lines raw with
  | nil => exact absurd found (lines_ne_nil filled)
  | cons line others =>
      cases stripped : stripStart identityPrefix line with
      | some header => simp [stripped, parseEntries_append]
      | none => simp only [List.cons_append, stripped, ← parseEntries_append]

theorem entryLine_whole : Whole (raw ++ entryLine entry) := by
  rw [entryLine_eq]
  exact Whole.append_feed

theorem render_whole : Whole contents.render := by
  unfold Contents.render
  cases found : contents.entries.reverse with
  | nil =>
      rw [List.reverse_eq_nil_iff] at found
      rw [found, List.flatMap_nil, List.append_nil]
      cases contents.header with
      | none => exact .inl rfl
      | some identity => exact .inr ⟨_, rfl⟩
  | cons last earlier =>
      have split : contents.entries = earlier.reverse ++ [last] := by
        rw [← List.reverse_reverse contents.entries, found, List.reverse_cons]
      rw [split, List.flatMap_append, ← List.append_assoc, List.flatMap_singleton]
      exact entryLine_whole

/-! ## Broken entries -/

/-- The text of an entry with only these digits of its slot. -/
def cutText (signature : Signature) (digits : List Char) : List Char :=
  (SignatureText.toText signature).toList ++ ' ' :: digits

theorem parseEntries_cut {digits more : List Char} (small : entry.2 ≤ u64Max)
    (split : Nat.toDigits 10 entry.2 = digits ++ more) :
    parseEntries (lines (cutText entry.1 digits)) =
      if digits = [] then [] else [(entry.1, Nat.ofDigitChars 10 digits 0)] := by
  obtain ⟨_, unspaced⟩ := base58_oneLine (SignatureText.toText_base58 entry.1)
  have starts : cutText entry.1 digits <+: entryText entry := by
    refine ⟨more, ?_⟩
    rw [entryText, toList_toString, split]
    simp [cutText]
  have filled : cutText entry.1 digits ≠ [] := by simp [cutText]
  rw [lines_oneLine (entryText_oneLine.of_start starts) filled, parseEntries, List.filterMap_cons,
    List.filterMap_nil, parseEntry, cutText, splitOnce_append unspaced]
  simp only [String.ofList_toList, SignatureText.fromText_toText, parseUnsigned_digits split small]
  by_cases empty : digits = [] <;> simp [empty]

/-- A beginning of an entry is skipped, unless it reaches the slot. -/
theorem parseEntries_broken (starts : torn <+: entryText entry) : parseEntries (lines torn) = ([] : List (Signature × Slot)) ∨
    ∃ digits more, Nat.toDigits 10 entry.2 = digits ++ more ∧ torn = cutText entry.1 digits := by
  obtain ⟨_, unspaced⟩ := base58_oneLine (SignatureText.toText_base58 entry.1)
  by_cases empty : torn = []
  · subst empty
    exact .inl rfl
  rcases prefix_append_cases starts with inside | ⟨reached, rfl, reachedStarts⟩
  · left
    rw [lines_oneLine (entryText_oneLine.of_start starts) empty, parseEntries, List.filterMap_cons,
      List.filterMap_nil, parseEntry, splitOnce_eq_none fun space => unspaced (inside.mem space)]
  · rcases List.prefix_cons_iff.mp reachedStarts with rfl | ⟨digits, rfl, more, split⟩
    · left
      rw [List.append_nil] at starts empty ⊢
      rw [lines_oneLine (entryText_oneLine.of_start starts) empty, parseEntries, List.filterMap_cons,
        List.filterMap_nil, parseEntry, splitOnce_eq_none unspaced]
    · exact .inr ⟨digits, more, by rw [← toList_toString, split], rfl⟩

/-- The header of a broken text is that of its first line. -/
theorem stripStart_broken (starts : torn <+: entryText entry) : stripStart identityPrefix torn = none := by
  cases stripped : stripStart identityPrefix torn with
  | none => rfl
  | some rest =>
      obtain ⟨more, whole⟩ := starts
      have longer : stripStart identityPrefix (entryText entry) = some (rest ++ more) := by
        rw [stripStart_eq_some_iff, ← whole, stripStart_eq_some_iff.mp stripped, List.append_assoc]
      rw [stripStart_entryText] at longer
      cases longer

/-! ## Beginnings of a journal -/

/-- Nothing, or the beginning of the first of these entries. -/
def BreaksOffIn (entries : List (Signature × Slot)) (torn : List Char) : Prop :=
  torn = [] ∨ ∃ entry rest, entries = entry :: rest ∧ torn <+: entryText entry

theorem prefix_entries (starts : raw <+: entries.flatMap entryLine) : ∃ earlier later torn,
    entries = earlier ++ later ∧ raw = earlier.flatMap entryLine ++ torn ∧ BreaksOffIn later torn := by
  induction entries generalizing raw with
  | nil => exact ⟨[], [], [], rfl, by simpa using starts, .inl rfl⟩
  | cons entry rest ih =>
      rw [List.flatMap_cons] at starts
      rcases prefix_append_cases starts with inside | ⟨reached, rfl, reachedStarts⟩
      · rw [entryLine_eq, List.prefix_concat_iff] at inside
        rcases inside with whole | broken
        · exact ⟨[entry], rest, [], rfl, by simp [whole, entryLine_eq], .inl rfl⟩
        · exact ⟨[], entry :: rest, raw, rfl, rfl, .inr ⟨entry, rest, rfl, broken⟩⟩
      · obtain ⟨earlier, later, torn, rfl, rfl, breaks⟩ := ih reachedStarts
        exact ⟨entry :: earlier, later, torn, rfl, by simp, breaks⟩

/-- A beginning of a journal ends in its header, or behind some of its entries. -/
theorem prefix_render (starts : raw <+: contents.render) :
    (∃ identity ∈ contents.header, raw <+: identityPrefix ++ identity.toList) ∨
      ∃ earlier later torn, contents.entries = earlier ++ later ∧
        raw = ({ contents with entries := earlier } : Contents Signature).render ++ torn ∧
        BreaksOffIn later torn := by
  rcases prefix_append_cases starts with inside | ⟨reached, rfl, reachedStarts⟩
  · cases header : contents.header with
    | none =>
        refine .inr ⟨[], contents.entries, [], rfl, ?_, .inl rfl⟩
        simpa [header, Contents.render] using inside
    | some identity =>
        rw [header, Option.map_some, Option.getD_some, headerLine, List.prefix_concat_iff] at inside
        rcases inside with whole | broken
        · exact .inr ⟨[], contents.entries, [], rfl, by simp [Contents.render, headerLine, whole], .inl rfl⟩
        · exact .inl ⟨identity, rfl, broken⟩
  · obtain ⟨earlier, later, torn, split, rfl, breaks⟩ := prefix_entries reachedStarts
    exact .inr ⟨earlier, later, torn, split, by simp [Contents.render], breaks⟩

/-- A text that breaks off in its header has no entries. -/
theorem parseJournal_brokenHeader {identity : String} (oneLine : OneLine identity.toList)
    (starts : raw <+: identityPrefix ++ identity.toList) :
    (parseJournal raw : Option String × List (Signature × Slot)).2 = [] := by
  have rawLine : OneLine raw := (OneLine.append (by decide) oneLine).of_start starts
  by_cases empty : raw = []
  · rw [empty]
    rfl
  rw [parseJournal, lines_oneLine rawLine empty]
  cases stripped : stripStart identityPrefix raw with
  | some header => simp [stripped, parseEntries]
  | none =>
      have unspaced : ' ' ∉ raw := by
        rcases prefix_append_cases starts with inside | ⟨reached, rfl, _⟩
        · have split : identityPrefix = "identity".toList ++ [' '] := by decide
          rw [split, List.prefix_concat_iff] at inside
          rcases inside with whole | broken
          · rw [whole, ← split, stripStart_eq_some_iff.mpr (List.append_nil _).symm] at stripped
            cases stripped
          · intro space
            have inWord := broken.mem space
            revert inWord
            decide
        · rw [stripStart_eq_some_iff.mpr rfl] at stripped
          cases stripped
      simp [stripped, parseEntries, parseEntry, splitOnce_eq_none unspaced]

/-- Behind whole entries, a beginning of the next one is read on its own. -/
theorem parseJournal_broken {earlier later : List (Signature × Slot)} (typed : contents.Typed)
    (split : contents.entries = earlier ++ later) (breaks : BreaksOffIn later torn) :
    (parseJournal (({ contents with entries := earlier } : Contents Signature).render ++ torn) :
      Option String × List (Signature × Slot)) =
      (contents.header, earlier ++ parseEntries (lines torn)) := by
  have earlierTyped : ({ contents with entries := earlier } : Contents Signature).Typed :=
    ⟨typed.header, fun entry member => typed.entries entry (split ▸ List.mem_append_left _ member)⟩
  by_cases filled : ({ contents with entries := earlier } : Contents Signature).render = []
  · obtain ⟨header, nothing⟩ := Contents.render_eq_nil_iff.mp filled
    have headerless : contents.header = none := header
    have noneEarlier : earlier = [] := nothing
    rw [filled, List.nil_append, headerless, noneEarlier, List.nil_append]
    rcases breaks with rfl | ⟨entry, rest, _, starts⟩
    · rfl
    · by_cases empty : torn = []
      · rw [empty]
        rfl
      · rw [parseJournal, lines_oneLine (entryText_oneLine.of_start starts) empty]
        simp only [stripStart_broken starts]
  · rw [parseJournal_append render_whole filled, parseJournal_render earlierTyped]

/-! ## What is read of a beginning -/

/-- The entries read of the beginning `raw`: those whose lines are complete come
first, and none that was not appended. -/
structure ReadsBack (contents : Contents Signature) (raw : List Char)
    (returned : List (Signature × Slot)) : Prop where
  complete : ∀ count, (contents.first count).render <+: raw → contents.entries.take count <+: returned
  appended : ∀ entry ∈ returned, entry ∈ contents.entries

/-- The text breaks off in the decimal slot of an entry, and reads `entry`. -/
def CutsSlot (contents : Contents Signature) (raw : List Char) (entry : Signature × Slot) : Prop :=
  ∃ earlier appended later digits more, contents.entries = earlier ++ appended :: later ∧
    Nat.toDigits 10 appended.2 = digits ++ more ∧ digits ≠ [] ∧ more ≠ [] ∧
    raw = ({ contents with entries := earlier } : Contents Signature).render ++
      cutText appended.1 digits ∧
    entry = (appended.1, Nat.ofDigitChars 10 digits 0)

omit [SignatureText Signature] in
theorem Contents.Typed.first (typed : contents.Typed) (count : Nat) : (contents.first count).Typed :=
  ⟨typed.header, fun entry member => typed.entries entry (List.mem_of_mem_take member)⟩

/-- Entries whose lines are complete are read, whatever comes behind them. -/
theorem parseJournal_first (typed : contents.Typed) {count : Nat}
    (complete : (contents.first count).render <+: raw) :
    contents.entries.take count <+: (parseJournal raw).2 := by
  obtain ⟨rest, rfl⟩ := complete
  by_cases filled : (contents.first count).render = []
  · obtain ⟨_, nothing⟩ := Contents.render_eq_nil_iff.mp filled
    have none : contents.entries.take count = [] := nothing
    rw [none]
    exact List.nil_prefix
  · rw [parseJournal_append render_whole filled, parseJournal_render (typed.first count)]
    exact List.prefix_append _ _

theorem parseJournal_cut {entry : Signature × Slot} (typed : contents.Typed)
    (cuts : CutsSlot contents raw entry) : entry ∈ (parseJournal raw).2 := by
  obtain ⟨earlier, appended, later, digits, more, split, slot, filled, _, rfl, rfl⟩ := cuts
  have small : appended.2 ≤ u64Max := typed.entries appended (by simp [split])
  have starts : cutText appended.1 digits <+: entryText appended := by
    refine ⟨more, ?_⟩
    rw [entryText, toList_toString, slot]
    simp [cutText]
  rw [parseJournal_broken typed split (.inr ⟨appended, later, rfl, starts⟩),
    parseEntries_cut small slot, if_neg filled]
  simp

/-- A beginning of a journal reads back what was appended, unless it breaks off
in a slot and what is left of it is not another appended entry. -/
theorem readJournal_beginning_iff (typed : contents.Typed) (starts : raw <+: contents.render)
    {header : Option String} {returned : List (Signature × Slot)}
    (read : readJournal noFaults (some raw) = .ok (header, returned)) :
    ReadsBack contents raw returned ↔
      ∀ entry, CutsSlot contents raw entry → entry ∈ contents.entries := by
  have same : returned = (parseJournal raw).2 := congrArg Prod.snd (Except.ok.inj read).symm
  subst same
  constructor
  · intro reads entry cuts
    exact reads.appended entry (parseJournal_cut typed cuts)
  · intro harmless
    refine ⟨fun count complete => parseJournal_first typed complete, fun entry member => ?_⟩
    rcases prefix_render starts with ⟨identity, named, broken⟩ | ⟨earlier, later, torn, split, rfl, breaks⟩
    · rw [parseJournal_brokenHeader (typed.header identity named) broken] at member
      cases member
    · rw [parseJournal_broken typed split breaks] at member
      rcases List.mem_append.mp member with earlierMember | tornMember
      · exact split ▸ List.mem_append_left _ earlierMember
      rcases breaks with rfl | ⟨appended, rest, rfl, tornStarts⟩
      · cases tornMember
      rcases parseEntries_broken tornStarts with nothing | ⟨digits, more, slot, rfl⟩
      · rw [nothing] at tornMember
        cases tornMember
      · have small : appended.2 ≤ u64Max := typed.entries appended (by simp [split])
        rw [parseEntries_cut small slot] at tornMember
        by_cases filled : digits = []
        · simp [filled] at tornMember
        rw [if_neg filled, List.mem_singleton] at tornMember
        subst tornMember
        by_cases whole : more = []
        · rw [whole, List.append_nil] at slot
          rw [← slot, Nat.ofDigitChars_ten_toDigits, split]
          simp
        · exact harmless _ ⟨earlier, appended, rest, digits, more, split, slot, filled, whole, rfl, rfl⟩

/-- One digit cannot be cut. -/
theorem CutsSlot.digits (cuts : CutsSlot contents raw entry) :
    ∃ appended ∈ contents.entries, 10 ≤ appended.2 := by
  obtain ⟨earlier, appended, later, digits, more, split, slot, filled, rest, _⟩ := cuts
  refine ⟨appended, by simp [split], Nat.le_of_not_lt fun small => ?_⟩
  have length := congrArg List.length slot
  rw [Nat.toDigits_of_lt_base small, List.length_singleton, List.length_append] at length
  have digit := List.length_pos_iff.mpr filled
  have moreDigit := List.length_pos_iff.mpr rest
  omega

def tornContents (slot : Slot) : Contents (Fin 58) where
  header := some "genesis program address"
  entries := [(1, 7), (2, slot)]

/-- The text breaks off in the second signature. -/
theorem readJournal_beginning_signature :
    ReadsBack (tornContents 8) ((tornContents 8).render.take 140) [(1, 7)] := by
  have typed : (tornContents 8).Typed := ⟨by decide, by decide⟩
  have read : readJournal noFaults (some ((tornContents 8).render.take 140)) =
      .ok (some "genesis program address", [((1 : Fin 58), 7)]) := by decide +kernel
  refine (readJournal_beginning_iff typed (List.take_prefix _ _) read).mpr fun entry cuts => ?_
  have small : ∀ appended ∈ (tornContents 8).entries, appended.2 < 10 := by decide
  obtain ⟨appended, member, large⟩ := cuts.digits
  exact absurd large (Nat.not_le.mpr (small appended member))

/-- The text breaks off in the second slot. -/
theorem readJournal_beginning_slot : ∃ raw header returned, raw <+: (tornContents 345).render ∧
    readJournal noFaults (some raw) = .ok (header, returned) ∧
    ¬ReadsBack (tornContents 345) raw returned := by
  have read : readJournal noFaults (some ((tornContents 345).render.take 166)) =
      .ok (some "genesis program address", [((1 : Fin 58), 7), (2, 3)]) := by decide +kernel
  refine ⟨_, _, _, List.take_prefix 166 _, read, fun reads => ?_⟩
  have appended := reads.appended (2, 3) (by simp)
  revert appended
  decide

end Microscope.Shipped
