import Mathlib.Data.List.Basic

namespace Microscope.Data

/-! # Text read by lines

Text is a list of characters.  The functions follow `str::lines`,
`str::split_once`, `str::strip_prefix` and the parsing of unsigned integers.
-/

/-- `str::lines`: a line ends at a line feed, which a carriage return may
precede, or at the end of the text. -/
def lines : List Char → List (List Char)
  | [] => []
  | character :: rest =>
      if character = '\n' then [] :: lines rest
      else if character = '\r' ∧ rest.head? = some '\n' then lines rest
      else
        match lines rest with
        | [] => [[character]]
        | line :: others => (character :: line) :: others

/-- `str::split_once`. -/
def splitOnce (separator : Char) : List Char → Option (List Char × List Char)
  | [] => none
  | character :: rest =>
      if character = separator then some ([], rest)
      else (splitOnce separator rest).map fun parts => (character :: parts.1, parts.2)

/-- `str::strip_prefix`. -/
def stripStart : List Char → List Char → Option (List Char)
  | [], text => some text
  | _ :: _, [] => none
  | expected :: start, character :: text =>
      if expected = character then stripStart start text else none

/-- `str::parse` for an unsigned integer of at most `bound`. -/
def parseUnsigned (bound : Nat) (text : List Char) : Option Nat :=
  let digits := if text.head? = some '+' then text.tail else text
  if digits = [] ∨ ¬digits.all Char.isDigit then none
  else
    let value := Nat.ofDigitChars 10 digits 0
    if value ≤ bound then some value else none

variable {line rest text : List Char} {separator : Char} {value bound : Nat}

/-- No line break. -/
def OneLine (line : List Char) : Prop := '\n' ∉ line ∧ '\r' ∉ line

instance : Decidable (OneLine line) := inferInstanceAs (Decidable (_ ∧ _))

theorem OneLine.append {more : List Char} (first : OneLine line) (second : OneLine more) :
    OneLine (line ++ more) := by
  simp only [OneLine, List.mem_append, not_or]
  exact ⟨⟨first.1, second.1⟩, first.2, second.2⟩

theorem lines_append_newline (oneLine : OneLine line) :
    lines (line ++ '\n' :: rest) = line :: lines rest := by
  induction line with
  | nil => simp [lines]
  | cons character line ih =>
      obtain ⟨noFeed, noReturn⟩ := oneLine
      simp only [List.mem_cons, not_or] at noFeed noReturn
      rw [List.cons_append, lines, if_neg (Ne.symm noFeed.1),
        if_neg fun carriage => noReturn.1 carriage.1.symm, ih ⟨noFeed.2, noReturn.2⟩]

theorem lines_ne_nil (filled : text ≠ []) : lines text ≠ [] := by
  induction text with
  | nil => exact absurd rfl filled
  | cons character rest ih =>
      rw [lines]
      split
      · exact List.cons_ne_nil _ _
      · split
        · rename_i carriage
          refine ih fun empty => ?_
          simp [empty] at carriage
        · split <;> exact List.cons_ne_nil _ _

/-- Text after a line feed is read on its own. -/
theorem lines_append_feed :
    lines (text ++ '\n' :: rest) = lines (text ++ ['\n']) ++ lines rest := by
  induction text with
  | nil => simp [lines]
  | cons character text ih =>
      have head : (text ++ '\n' :: rest).head? = (text ++ ['\n']).head? := by
        cases text <;> rfl
      rw [List.cons_append, List.cons_append, lines, lines, ih, head]
      split
      · rfl
      · split
        · rfl
        · cases found : lines (text ++ ['\n']) with
          | nil => exact absurd found (lines_ne_nil (by simp))
          | cons line others => rfl

/-- The text has no line that is broken off. -/
def Whole (text : List Char) : Prop := text = [] ∨ ∃ body, text = body ++ ['\n']

theorem Whole.append_feed {body : List Char} : Whole (text ++ (body ++ ['\n'])) :=
  .inr ⟨text ++ body, by simp⟩

theorem Whole.lines_append (whole : Whole text) : lines (text ++ rest) = lines text ++ lines rest := by
  rcases whole with rfl | ⟨body, rfl⟩
  · rfl
  · rw [List.append_assoc, List.singleton_append, lines_append_feed]

theorem lines_oneLine (oneLine : OneLine line) (filled : line ≠ []) : lines line = [line] := by
  induction line with
  | nil => exact absurd rfl filled
  | cons character line ih =>
      obtain ⟨noFeed, noReturn⟩ := oneLine
      simp only [List.mem_cons, not_or] at noFeed noReturn
      rw [lines, if_neg (Ne.symm noFeed.1), if_neg fun carriage => noReturn.1 carriage.1.symm]
      cases line with
      | nil => rfl
      | cons next line => rw [ih ⟨noFeed.2, noReturn.2⟩ (List.cons_ne_nil _ _)]

theorem OneLine.of_start (oneLine : OneLine line) (starts : text <+: line) : OneLine text :=
  ⟨fun member => oneLine.1 (starts.mem member), fun member => oneLine.2 (starts.mem member)⟩

theorem splitOnce_eq_none (absent : separator ∉ line) : splitOnce separator line = none := by
  induction line with
  | nil => rfl
  | cons character line ih =>
      simp only [List.mem_cons, not_or] at absent
      rw [splitOnce, if_neg (Ne.symm absent.1), ih absent.2]
      rfl

theorem splitOnce_append (absent : separator ∉ line) :
    splitOnce separator (line ++ separator :: rest) = some (line, rest) := by
  induction line with
  | nil => simp [splitOnce]
  | cons character line ih =>
      simp only [List.mem_cons, not_or] at absent
      rw [List.cons_append, splitOnce, if_neg (Ne.symm absent.1), ih absent.2]
      rfl

theorem stripStart_eq_some_iff {start : List Char} :
    stripStart start text = some rest ↔ text = start ++ rest := by
  induction start generalizing text with
  | nil => simp [stripStart, eq_comm]
  | cons expected start ih =>
      cases text with
      | nil => simp [stripStart]
      | cons character text =>
          rw [stripStart]
          split
          · rename_i same
            rw [ih, same]
            simp
          · rename_i different
            simp [Ne.symm different]

theorem digit_toDigits {character : Char} (member : character ∈ Nat.toDigits 10 value) :
    character.isDigit = true :=
  Nat.isDigit_of_mem_toDigits (by decide) (by decide) member

theorem parseUnsigned_toDigits (small : value ≤ bound) :
    parseUnsigned bound (Nat.toDigits 10 value) = some value := by
  have unsigned : (Nat.toDigits 10 value).head? ≠ some '+' := by
    intro plus
    have digit := digit_toDigits (List.mem_of_head? plus)
    simp at digit
  have digits : (Nat.toDigits 10 value).all Char.isDigit = true :=
    List.all_eq_true.mpr fun character member => digit_toDigits member
  have parsed : Nat.ofDigitChars 10 (Nat.toDigits 10 value) 0 = value :=
    Nat.ofDigitChars_toDigits (by decide) (by decide)
  simp [parseUnsigned, unsigned, Nat.toDigits_ne_nil, digits, parsed, small]

theorem parseUnsigned_le (parsed : parseUnsigned bound text = some value) : value ≤ bound := by
  unfold parseUnsigned at parsed
  generalize (if text.head? = some '+' then text.tail else text) = digits at parsed
  dsimp only at parsed
  split at parsed
  · cases parsed
  · split at parsed
    · rename_i small
      rwa [Option.some.inj parsed] at small
    · cases parsed

/-- Some of the digits of a number are read as another number. -/
theorem parseUnsigned_digits {digits more : List Char} (split : Nat.toDigits 10 value = digits ++ more)
    (small : value ≤ bound) : parseUnsigned bound digits =
      if digits = [] then none else some (Nat.ofDigitChars 10 digits 0) := by
  have digit : ∀ character ∈ digits, character.isDigit = true := fun character member =>
    digit_toDigits (split ▸ List.mem_append_left more member)
  have unsigned : digits.head? ≠ some '+' := by
    intro plus
    have isDigit := digit _ (List.mem_of_head? plus)
    simp at isDigit
  have below : Nat.ofDigitChars 10 digits 0 ≤ value := by
    have whole : Nat.ofDigitChars 10 (digits ++ more) 0 = value := by
      rw [← split, Nat.ofDigitChars_ten_toDigits]
    rw [Nat.ofDigitChars_append, Nat.ofDigitChars_eq_ofDigitChars_zero] at whole
    have grows : Nat.ofDigitChars 10 digits 0 ≤ 10 ^ more.length * Nat.ofDigitChars 10 digits 0 :=
      Nat.le_mul_of_pos_left _ (Nat.pow_pos (by decide))
    omega
  have digits_all : digits.all Char.isDigit = true := List.all_eq_true.mpr digit
  by_cases empty : digits = []
  · simp [parseUnsigned, empty]
  · simp [parseUnsigned, unsigned, empty, digits_all, Nat.le_trans below small]

/-! ## Beginnings of texts -/

/-- A beginning of two texts ends in the first or reaches into the second. -/
theorem prefix_append_cases {α : Type} {start first second : List α} (starts : start <+: first ++ second) :
    start <+: first ∨ ∃ reached, start = first ++ reached ∧ reached <+: second := by
  rcases List.prefix_or_prefix_of_prefix starts (List.prefix_append first second) with inside | ⟨reached, same⟩
  · exact .inl inside
  · rw [← same, List.prefix_append_right_inj] at starts
    exact .inr ⟨reached, same.symm, starts⟩

/-! ## Texts of numbers and of lists -/

theorem toList_toString (number : Nat) : (toString number).toList = Nat.toDigits 10 number := by
  rw [← Nat.toList_repr]
  rfl

theorem toString_injective {first second : Nat} (same : toString first = toString second) :
    first = second := by
  have digits : Nat.toDigits 10 first = Nat.toDigits 10 second := by
    rw [← toList_toString, ← toList_toString, same]
  rw [← Nat.ofDigitChars_ten_toDigits (n := first), digits, Nat.ofDigitChars_ten_toDigits]

/-- Joined parts can be told apart, if none is empty or has the mark. -/
theorem intercalate_injective {α : Type} [DecidableEq α] {mark : α} {first second : List (List α)}
    (plain : ∀ part ∈ first, part ≠ [] ∧ mark ∉ part) (otherPlain : ∀ part ∈ second, part ≠ [] ∧ mark ∉ part)
    (same : [mark].intercalate first = [mark].intercalate second) : first = second := by
  have filled : ∀ parts : List (List α), (∀ part ∈ parts, part ≠ [] ∧ mark ∉ part) →
      [mark].intercalate parts = [] → parts = [] := by
    intro parts plain empty
    cases parts with
    | nil => rfl
    | cons part rest =>
        obtain ⟨nonempty, _⟩ := plain part List.mem_cons_self
        cases rest with
        | nil => exact absurd (by simpa using empty) nonempty
        | cons other rest =>
            rw [List.intercalate_cons_cons] at empty
            simp at empty
  by_cases none : first = []
  · rw [none, List.intercalate_nil] at same
    rw [none, filled second otherPlain same.symm]
  · by_cases other : second = []
    · rw [other, List.intercalate_nil] at same
      rw [other, filled first plain same]
    · rw [← List.splitOn_intercalate mark (fun part listed => (plain part listed).2) none, same,
        List.splitOn_intercalate mark (fun part listed => (otherPlain part listed).2) other]

end Microscope.Data
