import Mathlib.Data.List.Dedup
import Mathlib.Data.List.Infix
import Mathlib.Data.Rat.Defs
import Mathlib.Algebra.Order.Ring.Rat
import Mathlib.Data.Set.Basic

namespace Microscope.Logql

/-! # Metric queries over JSON records

The fragment of LogQL that counts the selected records of each signature:
fields of a record become labels, filters drop records, and a record with an
error is dropped at the end.
-/

/-! ## Patterns -/

/-- The characters that a regular expression escapes. -/
def isMeta (character : Char) : Bool :=
  "\\.+*?()|[]\x7b\x7d^$#&-~".toList.contains character

def escapeText (text : List Char) : List Char :=
  text.flatMap fun character => if isMeta character then ['\\', character] else [character]

inductive Atom where
  /-- `.*`, of any characters. -/
  | anyText
  | exactly (character : Char)
deriving DecidableEq, Repr

/-- Patterns of literals, escaped literals and `.*`. -/
def readPattern : List Char → Option (List Atom)
  | [] => some []
  | '.' :: '*' :: rest => (readPattern rest).map (.anyText :: ·)
  | '\\' :: character :: rest =>
      if isMeta character then (readPattern rest).map (.exactly character :: ·) else none
  | character :: rest =>
      if isMeta character then none else (readPattern rest).map (.exactly character :: ·)

/-- Whether the pattern matches all of the text. -/
def matchesAtoms : List Atom → List Char → Bool
  | [], text => text.isEmpty
  | .exactly _ :: _, [] => false
  | .exactly expected :: atoms, character :: text => expected == character && matchesAtoms atoms text
  | .anyText :: atoms, text => text.tails.any (matchesAtoms atoms)

def matchesPattern (pattern : String) (text : String) : Bool :=
  match readPattern pattern.toList with
  | none => false
  | some atoms => matchesAtoms atoms text.toList

/-- The pattern for texts that contain the given one. -/
def containsPattern (text : String) : String :=
  ".*" ++ String.ofList (escapeText text.toList) ++ ".*"

example : matchesPattern (containsPattern "a.b") "xa.by" = true ∧
    matchesPattern (containsPattern "a.b") "xacby" = false := by decide +kernel

theorem readPattern_literal {character : Char} (plain : isMeta character = false) (rest : List Char) :
    readPattern (character :: rest) = (readPattern rest).map (.exactly character :: ·) := by
  rw [readPattern.eq_def]
  split
  · contradiction
  · rename_i same
    obtain ⟨rfl, rfl⟩ := List.cons.inj same
    exact absurd plain (by decide)
  · rename_i same
    obtain ⟨rfl, rfl⟩ := List.cons.inj same
    exact absurd plain (by decide)
  · rename_i same
    obtain ⟨rfl, rfl⟩ := List.cons.inj same
    simp [plain]

theorem readPattern_escape (text rest : List Char) :
    readPattern (escapeText text ++ rest) = (readPattern rest).map (text.map .exactly ++ ·) := by
  induction text with
  | nil => simp [escapeText]
  | cons character text ih =>
      have step : escapeText (character :: text) ++ rest =
          (if isMeta character then ['\\', character] else [character]) ++ (escapeText text ++ rest) := by
        simp [escapeText]
      by_cases special : isMeta character = true
      · have escaped : readPattern ('\\' :: character :: (escapeText text ++ rest)) =
            (readPattern (escapeText text ++ rest)).map (.exactly character :: ·) := by
          simp [readPattern, special]
        rw [step, if_pos special]
        change readPattern ('\\' :: character :: (escapeText text ++ rest)) = _
        rw [escaped, ih, Option.map_map]
        rfl
      · have plain : isMeta character = false := by simpa using special
        rw [step, if_neg special]
        change readPattern (character :: (escapeText text ++ rest)) = _
        rw [readPattern_literal plain, ih, Option.map_map]
        rfl

theorem matchesAtoms_anyText {atoms : List Atom} {text : List Char} :
    matchesAtoms (.anyText :: atoms) text = true ↔
      ∃ skipped rest, text = skipped ++ rest ∧ matchesAtoms atoms rest = true := by
  rw [matchesAtoms, List.any_eq_true]
  constructor
  · rintro ⟨rest, tail, matched⟩
    obtain ⟨skipped, split⟩ := (List.mem_tails _ _).mp tail
    exact ⟨skipped, rest, split.symm, matched⟩
  · rintro ⟨skipped, rest, split, matched⟩
    exact ⟨rest, (List.mem_tails _ _).mpr ⟨skipped, split.symm⟩, matched⟩

theorem matchesAtoms_exactly {expected text : List Char} {atoms : List Atom} :
    matchesAtoms (expected.map .exactly ++ atoms) text = true ↔
      ∃ rest, text = expected ++ rest ∧ matchesAtoms atoms rest = true := by
  induction expected generalizing text with
  | nil => simp
  | cons character expected ih =>
      cases text with
      | nil => simp [matchesAtoms]
      | cons first text =>
          simp only [List.map_cons, List.cons_append, matchesAtoms, Bool.and_eq_true, beq_iff_eq, ih]
          constructor
          · rintro ⟨rfl, rest, rfl, matched⟩
            exact ⟨rest, rfl, matched⟩
          · rintro ⟨rest, same, matched⟩
            obtain ⟨rfl, rfl⟩ := List.cons.inj same
            exact ⟨rfl, rest, rfl, matched⟩

/-- The pattern finds the text anywhere. -/
theorem matchesPattern_contains (needle text : String) :
    matchesPattern (containsPattern needle) text = true ↔ needle.toList <:+: text.toList := by
  have atoms : readPattern (containsPattern needle).toList =
      some (.anyText :: (needle.toList.map .exactly ++ [.anyText])) := by
    have split : (containsPattern needle).toList = '.' :: '*' :: (escapeText needle.toList ++ ['.', '*']) := by
      simp [containsPattern]
    rw [split, readPattern, readPattern_escape]
    rfl
  rw [matchesPattern, atoms]
  change matchesAtoms _ _ = true ↔ _
  rw [matchesAtoms_anyText]
  constructor
  · rintro ⟨skipped, rest, split, matched⟩
    obtain ⟨more, rfl, _⟩ := matchesAtoms_exactly.mp matched
    exact ⟨skipped, more, by rw [split, List.append_assoc]⟩
  · rintro ⟨skipped, more, split⟩
    refine ⟨skipped, needle.toList ++ more, by rw [← split, List.append_assoc], ?_⟩
    refine matchesAtoms_exactly.mpr ⟨more, rfl, matchesAtoms_anyText.mpr ⟨more, [], by simp, rfl⟩⟩

/-! ## Filters -/

inductive Comparison where
  | eq
  | ne
  | gt
  | gte
  | lt
  | lte
deriving DecidableEq, Repr

namespace Comparison

def text : Comparison → String
  | eq => "="
  | ne => "!="
  | gt => ">"
  | gte => ">="
  | lt => "<"
  | lte => "<="

/-- The comparison of two numbers. -/
def holds {α : Type} [LinearOrder α] : Comparison → α → α → Bool
  | eq, field, threshold => field = threshold
  | ne, field, threshold => field ≠ threshold
  | gt, field, threshold => threshold < field
  | gte, field, threshold => threshold ≤ field
  | lt, field, threshold => field < threshold
  | lte, field, threshold => field ≤ threshold

end Comparison

inductive Literal where
  | text (value : String)
  /-- A number as it is written, and its value. -/
  | number (text : String) (value : ℚ)
deriving DecidableEq

inductive LabelFilter where
  | compare (label : String) (comparison : Comparison) (literal : Literal)
  /-- A regular expression that must match all of the label. -/
  | matchesAll (label expression : String)
deriving DecidableEq

/-- The count of the selected records of a window, by signature. -/
structure CountQuery where
  extractions : List (String × String)
  filters : List LabelFilter
  conditions : List LabelFilter
  windowSeconds : Nat
deriving DecidableEq

/-- The union of the branches, or else zero. -/
structure MetricQuery where
  branches : List CountQuery
deriving DecidableEq

section Semantics

variable {Record : Type} (extract : Record → String → String) (number : String → Option ℚ)

/-- The label that the field at a path is extracted to; others are empty. -/
def CountQuery.labels (query : CountQuery) (record : Record) (label : String) : String :=
  match query.extractions.lookup label with
  | none => ""
  | some path => extract record path

/-- Whether a filter keeps the record, and whether the record has an error
then.  A numeric comparison keeps a record with an error. -/
def LabelFilter.process (labels : String → String) (failed : Bool) : LabelFilter → Bool × Bool
  | .compare label .eq (.text value) => (labels label = value, failed)
  | .compare label .ne (.text value) => (labels label ≠ value, failed)
  | .compare _ _ (.text _) => (false, failed)
  | .matchesAll label expression => (matchesPattern expression (labels label), failed)
  | .compare label comparison (.number _ threshold) =>
      if failed then (true, true)
      else if labels label = "" then (false, false)
      else
        match number (labels label) with
        | none => (true, true)
        | some field => (comparison.holds field threshold, false)

def processAll (labels : String → String) (failed : Bool) : List LabelFilter → Bool × Bool
  | [] => (true, failed)
  | filter :: rest =>
      let (kept, nowFailed) := filter.process number labels failed
      if kept then processAll labels nowFailed rest else (false, nowFailed)

/-- The record passes all filters, and the final one for errors. -/
def CountQuery.selects (query : CountQuery) (record : Record) : Bool :=
  let (kept, failed) := processAll number (query.labels extract record) false
    (query.filters ++ query.conditions)
  kept && !failed

def CountQuery.signature (query : CountQuery) (record : Record) : String :=
  query.labels extract record "signature"

/-- `sum by (signature) (count_over_time(...))`. -/
def CountQuery.evaluate (query : CountQuery) (records : List Record) : List (String × Nat) :=
  let signatures := (records.filter (query.selects extract number)).map (query.signature extract)
  signatures.dedup.map fun signature => (signature, signatures.count signature)

/-- `or`: the series of the second vector that the first does not have. -/
def union (first second : List (String × Nat)) : List (String × Nat) :=
  first ++ second.filter fun series => series.1 ∉ first.map Prod.fst

/-- `or on() vector(0)` adds a series only to an empty vector. -/
def MetricQuery.evaluate (query : MetricQuery) (records : List Record) : List (String × Nat) :=
  match (query.branches.map fun branch => branch.evaluate extract number records).foldl union [] with
  | [] => [("", 0)]
  | series => series

def MetricQuery.positive (query : MetricQuery) (records : List Record) : Set String :=
  { signature | ∃ count, (signature, count) ∈ query.evaluate extract number records ∧ 0 < count }

/-! ## What a query selects -/

/-- The filter accepts the labels, and finds no error. -/
def LabelFilter.Accepts (labels : String → String) : LabelFilter → Prop
  | .compare label .eq (.text value) => labels label = value
  | .compare label .ne (.text value) => labels label ≠ value
  | .compare _ _ (.text _) => False
  | .matchesAll label expression => matchesPattern expression (labels label) = true
  | .compare label comparison (.number _ threshold) =>
      labels label ≠ "" ∧ ∃ field, number (labels label) = some field ∧ comparison.holds field threshold = true

variable {extract number} {query : CountQuery} {records : List Record} {signature : String}

theorem process_accepts {labels : String → String} {filter : LabelFilter} :
    filter.process number labels false = (true, false) ↔ filter.Accepts number labels := by
  cases filter with
  | matchesAll label expression => simp [LabelFilter.process, LabelFilter.Accepts]
  | compare label comparison literal =>
      cases literal with
      | text value => cases comparison <;> simp [LabelFilter.process, LabelFilter.Accepts]
      | number text threshold =>
          by_cases absent : labels label = ""
          · simp [LabelFilter.process, LabelFilter.Accepts, absent]
          · cases read : number (labels label) with
            | none => simp [LabelFilter.process, LabelFilter.Accepts, absent, read]
            | some field => simp [LabelFilter.process, LabelFilter.Accepts, absent, read]

/-- An error stays until the final filter. -/
theorem processAll_failed {labels : String → String} {filters : List LabelFilter} :
    (processAll number labels true filters).2 = true := by
  induction filters with
  | nil => rfl
  | cons filter rest ih =>
      have kept : (filter.process number labels true).2 = true := by
        cases filter with
        | matchesAll label expression => rfl
        | compare label comparison literal =>
            cases literal with
            | text value => cases comparison <;> rfl
            | number text threshold => simp [LabelFilter.process]
      simp only [processAll, kept]
      split
      · exact ih
      · rfl

theorem processAll_accepts {labels : String → String} {filters : List LabelFilter} :
    processAll number labels false filters = (true, false) ↔
      ∀ filter ∈ filters, filter.Accepts number labels := by
  induction filters with
  | nil => simp [processAll]
  | cons filter rest ih =>
      rw [List.forall_mem_cons, ← process_accepts, ← ih]
      simp only [processAll]
      rcases outcome : filter.process number labels false with ⟨kept, failed⟩
      cases kept with
      | false => simp
      | true =>
          cases failed with
          | false => simp
          | true =>
              have stays : (processAll number labels true rest).2 = true := processAll_failed
              simp only [if_true, Prod.mk.injEq, Bool.true_eq_false, and_false, false_and, iff_false]
              intro passed
              rw [passed] at stays
              contradiction

theorem selects_iff {record : Record} : query.selects extract number record = true ↔
    ∀ filter ∈ query.filters ++ query.conditions,
      filter.Accepts number (query.labels extract record) := by
  rw [← processAll_accepts, CountQuery.selects]
  rcases processAll number (query.labels extract record) false (query.filters ++ query.conditions) with
    ⟨kept, failed⟩
  cases kept <;> cases failed <;> simp

theorem mem_evaluate {count : Nat} : (signature, count) ∈ query.evaluate extract number records →
    0 < count ∧ ∃ record ∈ records, query.selects extract number record = true ∧
      query.signature extract record = signature := by
  intro member
  obtain ⟨other, listed, same⟩ := List.mem_map.mp member
  obtain ⟨rfl, rfl⟩ := Prod.mk.inj same
  rw [List.mem_dedup] at listed
  obtain ⟨record, selected, rfl⟩ := List.mem_map.mp listed
  obtain ⟨present, selects⟩ := List.mem_filter.mp selected
  exact ⟨List.count_pos_iff.mpr listed, record, present, selects, rfl⟩

theorem exists_mem_evaluate {record : Record} (present : record ∈ records)
    (selects : query.selects extract number record = true) :
    ∃ count, (query.signature extract record, count) ∈ query.evaluate extract number records := by
  refine ⟨_, List.mem_map.mpr ⟨query.signature extract record, ?_, rfl⟩⟩
  rw [List.mem_dedup]
  exact List.mem_map_of_mem (List.mem_filter.mpr ⟨present, selects⟩)

theorem mem_union {first second : List (String × Nat)} {series : String × Nat}
    (member : series ∈ union first second) : series ∈ first ∨ series ∈ second := by
  rcases List.mem_append.mp member with left | right
  · exact .inl left
  · exact .inr (List.mem_filter.mp right).1

theorem exists_mem_union {first second : List (String × Nat)} {count : Nat}
    (member : (signature, count) ∈ first ∨ (signature, count) ∈ second) :
    ∃ count, (signature, count) ∈ union first second := by
  by_cases named : signature ∈ first.map Prod.fst
  · obtain ⟨⟨_, other⟩, listed, rfl⟩ := List.mem_map.mp named
    exact ⟨other, List.mem_append_left _ listed⟩
  · rcases member with left | right
    · exact ⟨count, List.mem_append_left _ left⟩
    · exact ⟨count, List.mem_append_right _ (List.mem_filter.mpr ⟨right, by simpa using named⟩)⟩

theorem mem_unions {vectors : List (List (String × Nat))} {start : List (String × Nat)}
    {series : String × Nat} (member : series ∈ vectors.foldl union start) :
    series ∈ start ∨ ∃ vector ∈ vectors, series ∈ vector := by
  induction vectors generalizing start with
  | nil => exact .inl member
  | cons vector rest ih =>
      rcases ih member with joined | ⟨other, listed, inside⟩
      · rcases mem_union joined with left | right
        · exact .inl left
        · exact .inr ⟨vector, List.mem_cons_self, right⟩
      · exact .inr ⟨other, List.mem_cons_of_mem _ listed, inside⟩

theorem exists_mem_unions {vectors : List (List (String × Nat))} {start : List (String × Nat)}
    (member : (∃ count, (signature, count) ∈ start) ∨
      ∃ vector ∈ vectors, ∃ count, (signature, count) ∈ vector) :
    ∃ count, (signature, count) ∈ vectors.foldl union start := by
  induction vectors generalizing start with
  | nil => simpa using member
  | cons vector rest ih =>
      refine ih ?_
      rcases member with ⟨count, left⟩ | ⟨other, listed, count, inside⟩
      · exact .inl (exists_mem_union (.inl left))
      · rcases List.mem_cons.mp listed with rfl | listed
        · exact .inl (exists_mem_union (.inr inside))
        · exact .inr ⟨other, listed, count, inside⟩

/-- A signature has a positive count exactly if a branch selects one of its
records. -/
theorem mem_positive_iff {query : MetricQuery} :
    signature ∈ query.positive extract number records ↔
      ∃ branch ∈ query.branches, ∃ record ∈ records, branch.selects extract number record = true ∧
        branch.signature extract record = signature := by
  let vectors := query.branches.map fun branch => branch.evaluate extract number records
  constructor
  · rintro ⟨count, member, positive⟩
    have inside : (signature, count) ∈ vectors.foldl union [] := by
      unfold MetricQuery.evaluate at member
      split at member
      · simp only [List.mem_singleton, Prod.mk.injEq] at member
        omega
      · exact member
    rcases mem_unions inside with empty | ⟨vector, listed, inside⟩
    · contradiction
    · obtain ⟨branch, branches, rfl⟩ := List.mem_map.mp listed
      obtain ⟨_, record, present, selects, same⟩ := mem_evaluate inside
      exact ⟨branch, branches, record, present, selects, same⟩
  · rintro ⟨branch, branches, record, present, selects, rfl⟩
    obtain ⟨count, inside⟩ := exists_mem_evaluate present selects
    have listed : branch.evaluate extract number records ∈ vectors := List.mem_map_of_mem branches
    have joined : ∃ total, (branch.signature extract record, total) ∈ vectors.foldl union [] :=
      exists_mem_unions (.inr ⟨_, listed, count, inside⟩)
    obtain ⟨total, member⟩ := joined
    refine ⟨total, ?_, ?_⟩
    · unfold MetricQuery.evaluate
      split
      · rename_i empty
        rw [show vectors.foldl union [] = [] from empty] at member
        contradiction
      · exact member
    · rcases mem_unions member with empty | ⟨vector, listed, inside⟩
      · contradiction
      · obtain ⟨other, _, rfl⟩ := List.mem_map.mp listed
        exact (mem_evaluate inside).1

end Semantics

end Microscope.Logql
