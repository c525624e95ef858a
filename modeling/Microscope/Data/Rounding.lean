import Mathlib.Algebra.Order.Ring.Int
import Mathlib.Data.Nat.Log
import Mathlib.Tactic.Ring

namespace Microscope.Data

/-! # Rounding integers to floats

A float has a significand of a fixed number of bits, its precision, and an
exponent without bounds.
-/

/-- The nearest multiple of the unit, counted in units; ties go to even. -/
def nearestQuotient (number unit : Nat) : Nat :=
  let quotient := number / unit
  let rest := number % unit
  if 2 * rest < unit ∨ 2 * rest = unit ∧ quotient % 2 = 0 then quotient else quotient + 1

/-- The distance between neighbouring floats of the number's magnitude. -/
def spacing (precision number : Nat) : Nat := 2 ^ (Nat.log 2 number + 1 - precision)

def roundNat (precision number : Nat) : Nat :=
  nearestQuotient number (spacing precision number) * spacing precision number

/-- Round to nearest, ties to even. -/
def roundInt (precision : Nat) (number : Int) : Int :=
  if number < 0 then -(roundNat precision number.natAbs : Int) else roundNat precision number.natAbs

example : roundNat 3 9 = 8 ∧ roundNat 3 11 = 12 ∧ roundInt 3 (-19) = -20 := by decide

variable {precision number : Nat}

theorem le_nearestQuotient (number unit : Nat) : number / unit ≤ nearestQuotient number unit := by
  simp only [nearestQuotient]
  split
  · exact Nat.le_refl _
  · exact Nat.le_succ _

theorem log_lt (positive : 0 < precision) (small : number < 2 ^ precision) : Nat.log 2 number < precision :=
  Nat.log_lt_of_lt_pow' positive.ne' small

/-- Integers below `2 ^ precision` are floats. -/
theorem roundNat_of_lt (positive : 0 < precision) (small : number < 2 ^ precision) :
    roundNat precision number = number := by
  have unit : spacing precision number = 1 := by
    have exponent : Nat.log 2 number + 1 - precision = 0 := by
      have bound := log_lt positive small
      omega
    simp [spacing, exponent]
  simp [roundNat, unit, nearestQuotient, Nat.mod_one]

/-- Rounding does not lead below `2 ^ precision`, which is a float. -/
theorem le_roundNat (positive : 0 < precision) (large : 2 ^ precision ≤ number) :
    2 ^ precision ≤ roundNat precision number := by
  have logarithm : precision ≤ Nat.log 2 number := Nat.le_log_of_pow_le (by decide) large
  have nonzero : number ≠ 0 := by
    have power := Nat.one_le_two_pow (n := precision)
    omega
  have magnitude : 2 ^ Nat.log 2 number ≤ number := Nat.pow_log_le_self 2 nonzero
  obtain ⟨exponent, same⟩ : ∃ exponent, Nat.log 2 number = exponent + (Nat.log 2 number + 1 - precision) :=
    ⟨precision - 1, by omega⟩
  have quotient : 2 ^ exponent ≤ number / spacing precision number := by
    rw [spacing, Nat.le_div_iff_mul_le (Nat.two_pow_pos _), ← Nat.pow_add, ← same]
    exact magnitude
  calc 2 ^ precision ≤ 2 ^ Nat.log 2 number := Nat.pow_le_pow_right (by decide) logarithm
    _ = 2 ^ exponent * spacing precision number := by rw [spacing, ← Nat.pow_add, ← same]
    _ ≤ roundNat precision number :=
        Nat.mul_le_mul_right _ (quotient.trans (le_nearestQuotient _ _))

theorem spacing_boundary (enough : 2 ≤ precision) (near : number = 2 ^ precision ∨ number = 2 ^ precision + 1) :
    spacing precision number = 2 := by
  have small : number < 2 ^ (precision + 1) := by
    have power : 2 ^ 2 ≤ 2 ^ precision := Nat.pow_le_pow_right (by decide) enough
    rw [Nat.pow_succ]
    omega
  have logarithm : Nat.log 2 number = precision := by
    refine Nat.log_eq_of_pow_le_of_lt_pow ?_ small
    omega
  rw [spacing, logarithm, Nat.add_sub_cancel_left, Nat.pow_one]

/-- The successor of `2 ^ precision` is a tie, and rounds down to it. -/
theorem roundNat_boundary (enough : 2 ≤ precision)
    (near : number = 2 ^ precision ∨ number = 2 ^ precision + 1) :
    roundNat precision number = 2 ^ precision := by
  obtain ⟨bits, rfl⟩ : ∃ bits, precision = bits + 2 := ⟨precision - 2, by omega⟩
  have power : 2 ^ (bits + 2) = 4 * 2 ^ bits := by rw [Nat.pow_add]; omega
  have quotient : number / 2 = 2 * 2 ^ bits := by omega
  have tie : 2 * (number % 2) < 2 ∨ 2 * (number % 2) = 2 ∧ 2 * 2 ^ bits % 2 = 0 := by omega
  simp only [roundNat, spacing_boundary enough near, nearestQuotient, quotient, if_pos tie]
  omega

/-! ## Signed integers -/

variable {field value : Int}

theorem roundInt_of_small (positive : 0 < precision) (small : field.natAbs < 2 ^ precision) :
    roundInt precision field = field := by
  rw [roundInt, roundNat_of_lt positive small]
  omega

/-- Rounding keeps a number on its side of a threshold up to `2 ^ precision`. -/
theorem roundInt_lt_iff (positive : 0 < precision) (low : -(2 ^ precision : Nat) < value)
    (high : value ≤ (2 ^ precision : Nat)) : roundInt precision field < value ↔ field < value := by
  by_cases small : field.natAbs < 2 ^ precision
  · rw [roundInt_of_small positive small]
  · have large := le_roundNat positive (Nat.le_of_not_lt small)
    rw [roundInt]
    split <;> omega

theorem lt_roundInt_iff (positive : 0 < precision) (low : -(2 ^ precision : Nat) ≤ value)
    (high : value < (2 ^ precision : Nat)) : value < roundInt precision field ↔ value < field := by
  by_cases small : field.natAbs < 2 ^ precision
  · rw [roundInt_of_small positive small]
  · have large := le_roundNat positive (Nat.le_of_not_lt small)
    rw [roundInt]
    split <;> omega

theorem roundInt_boundary (enough : 2 ≤ precision)
    (near : field = (2 ^ precision : Nat) ∨ field = (2 ^ precision + 1 : Nat)) :
    roundInt precision field = (2 ^ precision : Nat) := by
  have magnitude : field.natAbs = 2 ^ precision ∨ field.natAbs = 2 ^ precision + 1 := by
    rcases near with rfl | rfl
    · exact .inl (Int.natAbs_natCast _)
    · exact .inr (Int.natAbs_natCast _)
  have nonnegative : ¬field < 0 := by
    rcases near with rfl | rfl
    · exact Int.not_lt.mpr (Int.natCast_nonneg _)
    · exact Int.not_lt.mpr (Int.natCast_nonneg _)
  rw [roundInt, if_neg nonnegative, roundNat_boundary enough magnitude]

theorem roundInt_neg_boundary (enough : 2 ≤ precision)
    (near : field = -(2 ^ precision : Nat) ∨ field = -(2 ^ precision + 1 : Nat)) :
    roundInt precision field = -(2 ^ precision : Nat) := by
  have magnitude : field.natAbs = 2 ^ precision ∨ field.natAbs = 2 ^ precision + 1 := by
    rcases near with rfl | rfl
    · exact .inl (by rw [Int.natAbs_neg, Int.natAbs_natCast])
    · exact .inr (by rw [Int.natAbs_neg, Int.natAbs_natCast])
  have negative : field < 0 := by
    have power := Nat.two_pow_pos precision
    rcases near with rfl | rfl
    · exact Int.neg_neg_of_pos (Int.natCast_pos.mpr power)
    · exact Int.neg_neg_of_pos (Int.natCast_pos.mpr (Nat.succ_pos _))
  rw [roundInt, if_pos negative, roundNat_boundary enough magnitude]

end Microscope.Data
