import Microscope.Data.Lines
import Microscope.Rpc

namespace Microscope.Backfill

open Microscope.Data

/-! # Durations

The depth of a backfill is given as amounts of time units.  The definitions
follow `parse_duration` of `backfill.rs`.
-/

/-- How a call ends. -/
inductive Outcome (ε α : Type) where
  | ok (value : α)
  | err (error : ε)
  | panic
deriving DecidableEq, Repr

/-- Whether the arithmetic operators check for overflow. -/
inductive Build where
  | debug
  | release
deriving DecidableEq, Repr

/-- `*` on `u64`; `none` is a panic. -/
def Build.mul (build : Build) (first second : Nat) : Option Nat :=
  if first * second ≤ u64Max then some (first * second)
  else match build with
    | .debug => none
    | .release => some (first * second % 2 ^ 64)

/-- A `Duration` of whole seconds. -/
structure Duration where
  seconds : Nat
  small : seconds ≤ u64Max
deriving DecidableEq, Repr

/-- `+` on `Duration`, which panics on overflow in every build. -/
def Duration.add (duration : Duration) (seconds : Nat) : Option Duration :=
  if small : duration.seconds + seconds ≤ u64Max then some ⟨duration.seconds + seconds, small⟩ else none

def Duration.zero : Duration := ⟨0, by decide⟩

/-- `char::is_whitespace`. -/
def isWhitespace (character : Char) : Bool :=
  let point := character.toNat
  (0x9 ≤ point && point ≤ 0xD) || point == 0x20 || point == 0x85 || point == 0xA0 || point == 0x1680 ||
    (0x2000 ≤ point && point ≤ 0x200A) || point == 0x2028 || point == 0x2029 || point == 0x202F ||
    point == 0x205F || point == 0x3000

/-- `str::trim`. -/
def trim (text : List Char) : List Char :=
  ((text.dropWhile isWhitespace).reverse.dropWhile isWhitespace).reverse

def unitSeconds : Char → Option Nat
  | 's' => some 1
  | 'm' => some 60
  | 'h' => some (60 * 60)
  | 'd' => some (24 * 60 * 60)
  | 'w' => some (7 * 24 * 60 * 60)
  | _ => none

/-- What the loop of `parse_duration` keeps. -/
structure DurationLoop where
  total : Duration := .zero
  digits : List Char := []
  parsedAny : Bool := false

section ParseDuration

/-! The `Debug` form of a string is the standard library's. -/

variable (quoted : String → String) (build : Build) (value : String)

def readUnit (loop : DurationLoop) (character : Char) : Outcome String DurationLoop :=
  match parseUnsigned u64Max loop.digits with
  | none => .err ("expected a number before '" ++ character.toString ++ "' in " ++ quoted value)
  | some amount =>
      match unitSeconds character with
      | none => .err ("unsupported duration unit '" ++ character.toString ++ "' in " ++ quoted value)
      | some unit =>
          match build.mul amount unit with
          | none => .panic
          | some seconds =>
              match loop.total.add seconds with
              | none => .panic
              | some total => .ok { total, digits := [], parsedAny := true }

def readCharacters (loop : DurationLoop) : List Char → Outcome String DurationLoop
  | [] => .ok loop
  | character :: rest =>
      if character.isDigit then
        readCharacters { loop with digits := loop.digits ++ [character] } rest
      else
        match readUnit quoted build value loop character with
        | .ok loop => readCharacters loop rest
        | .err error => .err error
        | .panic => .panic

def invalidDuration : String :=
  "invalid duration " ++ quoted value ++
    ": use digits with s, m, h, d, or w units, for example 7d or 2w12h"

def parseDuration : Outcome String Duration :=
  match readCharacters quoted build value {} (trim value.toList) with
  | .ok loop =>
      if loop.digits ≠ [] ∨ !loop.parsedAny then .err (invalidDuration quoted value)
      else .ok loop.total
  | .err error => .err error
  | .panic => .panic

end ParseDuration

/-! ## The grammar -/

/-- An amount and its unit, as they are written. -/
structure Group where
  digits : List Char
  unit : Char
  filled : digits ≠ []
  decimal : ∀ digit ∈ digits, digit.isDigit = true
  known : (unitSeconds unit).isSome = true

def Group.text (group : Group) : List Char := group.digits ++ [group.unit]

def Group.amount (group : Group) : Nat := Nat.ofDigitChars 10 group.digits 0

def Group.seconds (group : Group) : Nat := group.amount * (unitSeconds group.unit).get group.known

/-- The trimmed text is groups of 64-bit amounts, products and total. -/
def Denotes (value : String) (duration : Duration) : Prop :=
  ∃ groups : List Group, groups ≠ [] ∧ trim value.toList = groups.flatMap Group.text ∧
    (∀ group ∈ groups, group.amount ≤ u64Max ∧ group.seconds ≤ u64Max) ∧
    duration.seconds = (groups.map Group.seconds).sum

/-- The result is the duration that the text denotes, else an error. -/
def Exact (quoted : String → String) (build : Build) (value : String) : Prop :=
  (∀ duration, parseDuration quoted build value = .ok duration ↔ Denotes value duration) ∧
    ((¬∃ duration, Denotes value duration) → ∃ message, parseDuration quoted build value = .err message)

/-- The groups that the trimmed text starts with, as long as their amounts are
64-bit numbers, have a total that does not overflow when each product is
reduced to 64 bits.  No product is reduced where overflow is checked, nor when
the groups are the whole text. -/
def Harmless (build : Build) (value : String) : Prop :=
  ∀ (groups : List Group) (rest : List Char), trim value.toList = groups.flatMap Group.text ++ rest →
    (∀ group ∈ groups, group.amount ≤ u64Max) →
    (groups.map fun group => group.seconds % 2 ^ 64).sum ≤ u64Max ∧
      (build = .debug ∨ rest = [] → ∀ group ∈ groups, group.seconds ≤ u64Max)

/-! ## Groups of a text -/

variable {groups : List Group} {group : Group} {text rest : List Char} {character : Char}
  {build : Build} {total : Duration} {quoted : String → String} {value : String}

theorem unitSeconds_digit (known : (unitSeconds character).isSome = true) : character.isDigit = false := by
  unfold unitSeconds at known
  split at known <;> first | rfl | cases known

theorem digits_append_inj {digits others more : List Char} {other : Char}
    (decimal : ∀ digit ∈ digits, digit.isDigit = true) (otherDecimal : ∀ digit ∈ others, digit.isDigit = true)
    (ends : character.isDigit = false) (otherEnds : other.isDigit = false)
    (same : digits ++ character :: rest = others ++ other :: more) :
    digits = others ∧ character = other ∧ rest = more := by
  induction digits generalizing others with
  | nil =>
      cases others with
      | nil => simpa using same
      | cons digit others =>
          have isDigit := otherDecimal digit List.mem_cons_self
          rw [← (List.cons.inj same).1, ends] at isDigit
          cases isDigit
  | cons digit digits ih =>
      cases others with
      | nil =>
          have isDigit := decimal digit List.mem_cons_self
          rw [(List.cons.inj same).1, otherEnds] at isDigit
          cases isDigit
      | cons _ others =>
          obtain ⟨rfl, tails⟩ := List.cons.inj same
          obtain ⟨rfl, rfl, rfl⟩ := ih (fun digit member => decimal digit (List.mem_cons_of_mem _ member))
            (fun digit member => otherDecimal digit (List.mem_cons_of_mem _ member)) tails
          exact ⟨rfl, rfl, rfl⟩

theorem digits_or_ends (text : List Char) : (∀ digit ∈ text, digit.isDigit = true) ∨
    ∃ digits character rest, text = digits ++ character :: rest ∧
      (∀ digit ∈ digits, digit.isDigit = true) ∧ character.isDigit = false := by
  induction text with
  | nil => exact .inl fun digit member => by cases member
  | cons character text ih =>
      cases isDigit : character.isDigit with
      | false => exact .inr ⟨[], character, text, rfl, fun digit member => (by cases member), isDigit⟩
      | true =>
          rcases ih with decimal | ⟨digits, last, rest, rfl, decimal, ends⟩
          · exact .inl (List.forall_mem_cons.mpr ⟨isDigit, decimal⟩)
          · exact .inr ⟨character :: digits, last, rest, rfl, List.forall_mem_cons.mpr ⟨isDigit, decimal⟩, ends⟩

theorem Group.text_append_inj {other : Group} {more : List Char}
    (same : group.text ++ rest = other.text ++ more) : group = other ∧ rest = more := by
  have separated : group.digits ++ group.unit :: rest = other.digits ++ other.unit :: more := by
    simpa [Group.text] using same
  obtain ⟨digits, unit, rests⟩ := digits_append_inj group.decimal other.decimal
    (unitSeconds_digit group.known) (unitSeconds_digit other.known) separated
  cases group
  cases other
  cases digits
  cases unit
  exact ⟨rfl, rests⟩

/-- The groups of 64-bit amounts that a text starts with. -/
structure Leads (text : List Char) (groups : List Group) (rest : List Char) : Prop where
  split : text = groups.flatMap Group.text ++ rest
  amounts : ∀ group ∈ groups, group.amount ≤ u64Max
  stuck : ∀ (group : Group) (more : List Char), rest = group.text ++ more → ¬group.amount ≤ u64Max

theorem exists_leads (text : List Char) : ∃ groups rest, Leads text groups rest := by
  by_cases starts : ∃ (group : Group) (more : List Char), text = group.text ++ more ∧ group.amount ≤ u64Max
  · obtain ⟨group, more, split, amount⟩ := starts
    have shorter : more.length < text.length := by
      rw [split]
      simp [Group.text]
      omega
    obtain ⟨groups, rest, leads⟩ := exists_leads more
    refine ⟨group :: groups, rest, ?_, List.forall_mem_cons.mpr ⟨amount, leads.amounts⟩, leads.stuck⟩
    rw [split, leads.split, List.flatMap_cons, List.append_assoc]
  · exact ⟨[], text, rfl, fun group member => (by cases member),
      fun group more split amount => starts ⟨group, more, split, amount⟩⟩
termination_by text.length

/-- Other groups that the text starts with are the first of these. -/
theorem Leads.take {others : List Group} {more : List Char} (leads : Leads text groups rest)
    (split : text = others.flatMap Group.text ++ more) (amounts : ∀ group ∈ others, group.amount ≤ u64Max) :
    ∃ later, groups = others ++ later ∧ more = later.flatMap Group.text ++ rest := by
  induction others generalizing text groups with
  | nil => exact ⟨groups, rfl, by rw [← leads.split, split]; rfl⟩
  | cons other others ih =>
      rw [List.flatMap_cons, List.append_assoc] at split
      cases groups with
      | nil =>
          have start : rest = other.text ++ (others.flatMap Group.text ++ more) := by
            rw [← split, leads.split]
            rfl
          exact absurd (amounts other List.mem_cons_self) (leads.stuck _ _ start)
      | cons group groups =>
          have same : group.text ++ (groups.flatMap Group.text ++ rest) =
              other.text ++ (others.flatMap Group.text ++ more) := by
            rw [← split, leads.split, List.flatMap_cons, List.append_assoc]
          obtain ⟨rfl, tails⟩ := Group.text_append_inj same
          have remaining : Leads (groups.flatMap Group.text ++ rest) groups rest :=
            ⟨rfl, (List.forall_mem_cons.mp leads.amounts).2, leads.stuck⟩
          obtain ⟨later, rfl, rest⟩ := ih remaining tails (List.forall_mem_cons.mp amounts).2
          exact ⟨later, rfl, rest⟩

/-! ## What the loop reads -/

theorem readCharacters_digits {loop : DurationLoop} {digits : List Char}
    (decimal : ∀ digit ∈ digits, digit.isDigit = true) :
    readCharacters quoted build value loop (digits ++ rest) =
      readCharacters quoted build value { loop with digits := loop.digits ++ digits } rest := by
  induction digits generalizing loop with
  | nil => simp
  | cons digit digits ih =>
      obtain ⟨isDigit, tailDecimal⟩ := List.forall_mem_cons.mp decimal
      rw [List.cons_append, readCharacters, if_pos isDigit, ih tailDecimal]
      simp

theorem parseUnsigned_decimal {digits : List Char} (filled : digits ≠ [])
    (decimal : ∀ digit ∈ digits, digit.isDigit = true) {bound : Nat} :
    parseUnsigned bound digits =
      if Nat.ofDigitChars 10 digits 0 ≤ bound then some (Nat.ofDigitChars 10 digits 0) else none := by
  have unsigned : digits.head? ≠ some '+' := by
    intro plus
    have isDigit := decimal _ (List.mem_of_head? plus)
    simp at isDigit
  have digits_all : digits.all Char.isDigit = true := List.all_eq_true.mpr decimal
  simp [parseUnsigned, unsigned, filled, digits_all]

/-- The total with a group; `none` is a panic. -/
def Group.charge (build : Build) (total : Duration) (group : Group) : Option Duration :=
  (build.mul group.amount ((unitSeconds group.unit).get group.known)).bind total.add

def chargeAll (build : Build) (total : Duration) (groups : List Group) : Option Duration :=
  groups.foldlM (Group.charge build) total

theorem Build.mul_eq_some_iff {first second product : Nat} : build.mul first second = some product ↔
    (build = .debug → first * second ≤ u64Max) ∧ product = first * second % 2 ^ 64 := by
  have reduced : first * second ≤ u64Max → first * second % 2 ^ 64 = first * second := by
    intro small
    exact Nat.mod_eq_of_lt (Nat.lt_of_le_of_lt small (by decide))
  unfold Build.mul
  split
  · rename_i small
    rw [reduced small, Option.some.injEq]
    exact ⟨fun same => ⟨fun _ => small, same.symm⟩, fun same => same.2.symm⟩
  · rename_i large
    cases build with
    | debug => simp [large]
    | release => simp [eq_comm]

theorem Duration.add_eq_some_iff {seconds : Nat} {after : Duration} :
    total.add seconds = some after ↔ after.seconds = total.seconds + seconds := by
  obtain ⟨afterSeconds, small⟩ := after
  unfold Duration.add
  split
  · simp [eq_comm]
  · rename_i large
    simp only [reduceCtorEq, false_iff]
    omega

theorem Group.charge_eq_some_iff {after : Duration} : group.charge build total = some after ↔
    (build = .debug → group.seconds ≤ u64Max) ∧
      after.seconds = total.seconds + group.seconds % 2 ^ 64 := by
  rw [Group.charge, Option.bind_eq_some_iff]
  constructor
  · intro ⟨product, multiplied, added⟩
    obtain ⟨checked, rfl⟩ := Build.mul_eq_some_iff.mp multiplied
    exact ⟨checked, Duration.add_eq_some_iff.mp added⟩
  · intro ⟨checked, same⟩
    exact ⟨_, Build.mul_eq_some_iff.mpr ⟨checked, rfl⟩, Duration.add_eq_some_iff.mpr same⟩

theorem chargeAll_eq_some_iff {after : Duration} : chargeAll build total groups = some after ↔
    (build = .debug → ∀ group ∈ groups, group.seconds ≤ u64Max) ∧
      after.seconds = total.seconds + (groups.map fun group => group.seconds % 2 ^ 64).sum := by
  induction groups generalizing total with
  | nil =>
      obtain ⟨seconds, small⟩ := total
      obtain ⟨afterSeconds, afterSmall⟩ := after
      simp [chargeAll, eq_comm]
  | cons group groups ih =>
      rw [chargeAll, List.foldlM_cons, Option.bind_eq_bind, Option.bind_eq_some_iff]
      constructor
      · intro ⟨middle, charged, later⟩
        obtain ⟨checked, same⟩ := Group.charge_eq_some_iff.mp charged
        obtain ⟨laterChecked, laterSame⟩ := ih.mp later
        refine ⟨fun debug => List.forall_mem_cons.mpr ⟨checked debug, laterChecked debug⟩, ?_⟩
        rw [laterSame, same, List.map_cons, List.sum_cons, Nat.add_assoc]
      · intro ⟨checked, same⟩
        rw [List.map_cons, List.sum_cons, ← Nat.add_assoc] at same
        have small : total.seconds + group.seconds % 2 ^ 64 ≤ u64Max := by
          have bound := after.small
          omega
        have charged : group.charge build total = some ⟨_, small⟩ :=
          Group.charge_eq_some_iff.mpr ⟨fun debug => (List.forall_mem_cons.mp (checked debug)).1, rfl⟩
        exact ⟨_, charged, ih.mpr ⟨fun debug => (List.forall_mem_cons.mp (checked debug)).2, same⟩⟩

theorem readCharacters_group {parsedAny : Bool} (amount : group.amount ≤ u64Max) :
    readCharacters quoted build value { total, parsedAny } (group.text ++ rest) =
      match group.charge build total with
      | none => .panic
      | some total => readCharacters quoted build value { total, parsedAny := true } rest := by
  obtain ⟨unit, known⟩ := Option.isSome_iff_exists.mp group.known
  have read : parseUnsigned u64Max group.digits = some group.amount := by
    rw [parseUnsigned_decimal group.filled group.decimal]
    exact if_pos amount
  have separated : group.text ++ rest = group.digits ++ group.unit :: rest := by simp [Group.text]
  rw [separated, readCharacters_digits group.decimal, readCharacters, unitSeconds_digit group.known]
  simp only [Bool.false_eq_true, if_false, List.nil_append, readUnit, read, known, Group.charge, Option.get_some]
  cases build.mul group.amount unit with
  | none => rfl
  | some seconds =>
      rw [Option.bind_some]
      cases added : total.add seconds with
      | none => simp only [added]
      | some total => simp only [added]

theorem readCharacters_groups {parsedAny : Bool} (amounts : ∀ group ∈ groups, group.amount ≤ u64Max) :
    readCharacters quoted build value { total, parsedAny } (groups.flatMap Group.text ++ rest) =
      match chargeAll build total groups with
      | none => .panic
      | some total =>
          readCharacters quoted build value { total, parsedAny := parsedAny || !groups.isEmpty } rest := by
  induction groups generalizing total parsedAny with
  | nil => simp [chargeAll]
  | cons group groups ih =>
      obtain ⟨amount, laterAmounts⟩ := List.forall_mem_cons.mp amounts
      rw [List.flatMap_cons, List.append_assoc, readCharacters_group amount, chargeAll, List.foldlM_cons]
      cases group.charge build total with
      | none => rfl
      | some total =>
          dsimp only [Option.bind_eq_bind, Option.bind_some]
          rw [ih laterAmounts]
          simp [chargeAll]

/-- The loop ends with an error or with digits, when no group is left. -/
theorem readCharacters_stuck {parsedAny : Bool} (leads : Leads text groups rest) (filled : rest ≠ []) :
    (∃ message, readCharacters quoted build value { total, parsedAny } rest = .err message) ∨
      ∃ loop, readCharacters quoted build value { total, parsedAny } rest = .ok loop ∧ loop.digits ≠ [] := by
  rcases digits_or_ends rest with decimal | ⟨digits, character, more, rfl, decimal, ends⟩
  · right
    have read : readCharacters quoted build value { total, parsedAny } (rest ++ []) = _ :=
      readCharacters_digits decimal
    rw [List.append_nil] at read
    exact ⟨_, read, by simpa using filled⟩
  · left
    rw [readCharacters_digits decimal, readCharacters, ends]
    simp only [Bool.false_eq_true, if_false, List.nil_append, readUnit]
    by_cases empty : digits = []
    · rw [empty]
      exact ⟨_, rfl⟩
    rw [parseUnsigned_decimal empty decimal]
    by_cases amount : Nat.ofDigitChars 10 digits 0 ≤ u64Max
    · rw [if_pos amount]
      cases known : unitSeconds character with
      | none => exact ⟨_, rfl⟩
      | some unit =>
          have whole : digits ++ character :: more =
              Group.text ⟨digits, character, empty, decimal, by rw [known]; rfl⟩ ++ more := by
            simp [Group.text]
          exact absurd amount (leads.stuck _ _ whole)
    · rw [if_neg amount]
      exact ⟨_, rfl⟩

/-! ## Every text -/

/-- The groups that the trimmed text starts with determine the result. -/
theorem parseDuration_leads (leads : Leads (trim value.toList) groups rest) :
    match chargeAll build .zero groups with
    | none => parseDuration quoted build value = .panic
    | some total =>
        if rest = [] ∧ groups ≠ [] then parseDuration quoted build value = .ok total
        else ∃ message, parseDuration quoted build value = .err message := by
  have read : readCharacters quoted build value {} (trim value.toList) =
      match chargeAll build .zero groups with
      | none => .panic
      | some total =>
          readCharacters quoted build value { total, parsedAny := false || !groups.isEmpty } rest := by
    rw [leads.split]
    exact readCharacters_groups leads.amounts
  unfold parseDuration
  rw [read]
  cases chargeAll build .zero groups with
  | none => rfl
  | some total =>
      by_cases whole : rest = []
      · rw [whole]
        cases groups with
        | nil => exact ⟨_, rfl⟩
        | cons group groups => rfl
      · dsimp only
        rw [if_neg fun ends => whole ends.1]
        rcases readCharacters_stuck leads whole with ⟨message, failed⟩ | ⟨loop, ended, digits⟩
        · rw [failed]
          exact ⟨message, rfl⟩
        · rw [ended]
          dsimp only
          rw [if_pos (.inl digits)]
          exact ⟨_, rfl⟩

theorem denotes_iff (leads : Leads (trim value.toList) groups rest) : Denotes value total ↔
    (rest = [] ∧ groups ≠ []) ∧ (∀ group ∈ groups, group.seconds ≤ u64Max) ∧
      total.seconds = (groups.map Group.seconds).sum := by
  constructor
  · intro ⟨others, filled, whole, small, same⟩
    have split : trim value.toList = others.flatMap Group.text ++ [] := by rw [whole, List.append_nil]
    obtain ⟨later, rfl, ends⟩ := leads.take split fun group member => (small group member).1
    obtain ⟨noGroups, rfl⟩ := List.append_eq_nil_iff.mp ends.symm
    have last : later = [] := by
      cases later with
      | nil => rfl
      | cons group later => simp [Group.text] at noGroups
    rw [last, List.append_nil]
    exact ⟨⟨rfl, filled⟩, fun group member => (small group member).2, same⟩
  · intro ⟨⟨ends, filled⟩, small, same⟩
    rw [ends] at leads
    exact ⟨groups, filled, by rw [leads.split, List.append_nil],
      fun group member => ⟨leads.amounts group member, small group member⟩, same⟩

theorem sum_reduced (small : ∀ group ∈ groups, group.seconds ≤ u64Max) :
    (groups.map fun group => group.seconds % 2 ^ 64) = groups.map Group.seconds := by
  apply List.map_congr_left
  intro group member
  exact Nat.mod_eq_of_lt (Nat.lt_of_le_of_lt (small group member) (by decide))

/-- The groups that a text starts with decide whether it is harmless. -/
theorem harmless_iff (leads : Leads (trim value.toList) groups rest) : Harmless build value ↔
    (groups.map fun group => group.seconds % 2 ^ 64).sum ≤ u64Max ∧
      (build = .debug ∨ rest = [] → ∀ group ∈ groups, group.seconds ≤ u64Max) := by
  constructor
  · intro harmless
    exact harmless groups rest leads.split leads.amounts
  · intro ⟨bounded, small⟩ others more split amounts
    obtain ⟨later, rfl, rfl⟩ := leads.take split amounts
    rw [List.map_append, List.sum_append] at bounded
    refine ⟨Nat.le_trans (Nat.le_add_right _ _) bounded, fun checked group member => ?_⟩
    refine small (checked.imp id fun ends => ?_) group (List.mem_append_left _ member)
    exact (List.append_eq_nil_iff.mp ends).2

/-- `parse_duration` computes the exact sum of what the grammar accepts, and
refuses everything else, of exactly the harmless texts. -/
theorem parseDuration_exact_iff (quoted : String → String) (build : Build) (value : String) :
    Exact quoted build value ↔ Harmless build value := by
  obtain ⟨groups, rest, leads⟩ := exists_leads (trim value.toList)
  have result : match chargeAll build .zero groups with
      | none => parseDuration quoted build value = .panic
      | some total =>
          if rest = [] ∧ groups ≠ [] then parseDuration quoted build value = .ok total
          else ∃ message, parseDuration quoted build value = .err message := parseDuration_leads leads
  rw [harmless_iff leads]
  cases charged : chargeAll build .zero groups with
  | none =>
      rw [charged] at result
      have panics : parseDuration quoted build value = .panic := result
      constructor
      · intro exact
        by_cases denotes : ∃ duration, Denotes value duration
        · obtain ⟨duration, denotes⟩ := denotes
          have returned := (exact.1 duration).mpr denotes
          rw [panics] at returned
          cases returned
        · obtain ⟨message, failed⟩ := exact.2 denotes
          rw [panics] at failed
          cases failed
      · intro ⟨bounded, small⟩
        have charges : chargeAll build .zero groups = some ⟨_, bounded⟩ :=
          chargeAll_eq_some_iff.mpr ⟨fun debug => small (.inl debug), (Nat.zero_add _).symm⟩
        rw [charged] at charges
        cases charges
  | some total =>
      rw [charged] at result
      obtain ⟨checked, same⟩ := chargeAll_eq_some_iff.mp charged
      rw [Duration.zero, Nat.zero_add] at same
      have bounded : (groups.map fun group => group.seconds % 2 ^ 64).sum ≤ u64Max := same ▸ total.small
      by_cases whole : rest = [] ∧ groups ≠ []
      · have returns : parseDuration quoted build value = .ok total := by
          simpa only [if_pos whole] using result
        constructor
        · intro exact
          have denotes := (denotes_iff leads).mp ((exact.1 total).mp returns)
          exact ⟨bounded, fun _ => denotes.2.1⟩
        · intro ⟨_, small⟩
          have exactTotal : total.seconds = (groups.map Group.seconds).sum := by
            rw [same, sum_reduced (small (.inr whole.1))]
          have denotes : Denotes value total :=
            (denotes_iff leads).mpr ⟨whole, small (.inr whole.1), exactTotal⟩
          refine ⟨fun duration => ?_, fun refused => absurd ⟨total, denotes⟩ refused⟩
          rw [returns]
          constructor
          · intro ok
            cases ok
            exact denotes
          · intro other
            have sum := ((denotes_iff leads).mp other).2.2
            rw [Outcome.ok.injEq, Duration.mk.injEq, sum, exactTotal]
      · have fails : ∃ message, parseDuration quoted build value = .err message := by
          simpa only [if_neg whole] using result
        have refused : ∀ duration, ¬Denotes value duration := fun duration denotes =>
          whole ((denotes_iff leads).mp denotes).1
        have harmless : build = .debug ∨ rest = [] → ∀ group ∈ groups, group.seconds ≤ u64Max := by
          intro ends
          rcases ends with debug | ends
          · exact checked debug
          · have noGroups : groups = [] := Classical.byContradiction fun filled => whole ⟨ends, filled⟩
            rw [noGroups]
            intro group member
            cases member
        have exact : Exact quoted build value := by
          refine ⟨fun duration => ⟨fun ok => ?_, fun denotes => absurd denotes (refused duration)⟩, fun _ => fails⟩
          obtain ⟨message, failed⟩ := fails
          rw [failed] at ok
          cases ok
        exact ⟨fun _ => ⟨bounded, harmless⟩, fun _ => exact⟩

def weeks : Group where
  digits := Nat.toDigits 10 30500568904944
  unit := 'w'
  filled := Nat.toDigits_ne_nil
  decimal := fun _ member => digit_toDigits member
  known := rfl

/-- More weeks than fit in a `u64` of seconds are read as less than a week,
and a total that does not fit panics. -/
theorem parseDuration_wrapped :
    parseDuration String.quote .release "30500568904944w" = .ok ⟨579584, by decide⟩ ∧
      ¬Exact String.quote .release "30500568904944w" ∧
      parseDuration String.quote .release "18446744073709551615s1s" = .panic := by
  have returns : parseDuration String.quote .release "30500568904944w" = .ok ⟨579584, by decide⟩ := by
    decide +kernel
  refine ⟨returns, fun exact => ?_, by decide +kernel⟩
  have split : trim "30500568904944w".toList = [weeks].flatMap Group.text ++ [] := by decide +kernel
  have amount : weeks.amount ≤ u64Max := by decide +kernel
  have leads : Leads (trim "30500568904944w".toList) [weeks] [] :=
    ⟨split, by simpa using amount, fun group more same => by simp [Group.text] at same⟩
  have small := ((denotes_iff leads).mp ((exact.1 _).mp returns)).2.1 weeks List.mem_cons_self
  revert small
  decide +kernel

end Microscope.Backfill
