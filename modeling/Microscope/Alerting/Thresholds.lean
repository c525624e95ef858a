import Microscope.Data.Rounding
import Microscope.Alerting.Query

namespace Microscope.Alerting

open Microscope.Data Microscope.Logql

/-! # Integer thresholds

Loki compares a field with a threshold after both are rounded to floats.
-/

/-- The outcome of a comparison in Loki. -/
def lokiHolds (comparison : Comparison) (field threshold : Int) : Bool :=
  comparison.holds (roundInt 53 field) (roundInt 53 threshold)

/-- The threshold is no neighbour of an integer that rounds to it, on the side
that the comparison distinguishes. -/
def Distinguishes (comparison : Comparison) (threshold : Int) : Prop :=
  threshold.natAbs < 2 ^ 53 ∨
    threshold = 2 ^ 53 ∧ (comparison = .gte ∨ comparison = .lt) ∨
    threshold = -2 ^ 53 ∧ (comparison = .gt ∨ comparison = .lte)

instance (comparison : Comparison) (threshold : Int) : Decidable (Distinguishes comparison threshold) :=
  inferInstanceAs (Decidable (_ ∨ _))

section Comparing

variable {comparison : Comparison} {field threshold rounded : Int}

theorem roundInt_threshold (small : threshold.natAbs ≤ 2 ^ 53) : roundInt 53 threshold = threshold := by
  rcases Nat.lt_or_eq_of_le small with below | equal
  · exact roundInt_of_small (by decide) below
  · rcases Int.natAbs_eq threshold with same | same
    · rw [same, equal]
      exact roundInt_boundary (by decide) (.inl rfl)
    · rw [same, equal]
      exact roundInt_neg_boundary (by decide) (.inl rfl)

theorem holds_of_sides (below : rounded < threshold ↔ field < threshold)
    (above : threshold < rounded ↔ threshold < field) :
    comparison.holds rounded threshold = comparison.holds field threshold := by
  cases comparison with
  | eq => exact decide_eq_decide.mpr (by omega)
  | ne => exact decide_eq_decide.mpr (by omega)
  | gt => exact decide_eq_decide.mpr above
  | gte => exact decide_eq_decide.mpr (by omega)
  | lt => exact decide_eq_decide.mpr below
  | lte => exact decide_eq_decide.mpr (by omega)

/-- All fields compare exactly if and only if the threshold is distinguished. -/
theorem lokiHolds_exact_iff (small : threshold.natAbs ≤ 2 ^ 53) :
    (∀ field, lokiHolds comparison field threshold = comparison.holds field threshold) ↔
      Distinguishes comparison threshold := by
  have exact := roundInt_threshold small
  simp only [lokiHolds, exact]
  constructor
  · intro agrees
    rcases Nat.lt_or_eq_of_le small with below | equal
    · exact .inl below
    · right
      rcases Int.natAbs_eq threshold with same | same
      · have top : threshold = 2 ^ 53 := by omega
        have neighbour := agrees (2 ^ 53 + 1)
        rw [top, roundInt_boundary (by decide) (.inr (by decide))] at neighbour
        refine .inl ⟨top, ?_⟩
        revert neighbour
        cases comparison <;> decide
      · have bottom : threshold = -2 ^ 53 := by omega
        have neighbour := agrees (-(2 ^ 53 + 1))
        rw [bottom, roundInt_neg_boundary (by decide) (.inr (by decide))] at neighbour
        refine .inr ⟨bottom, ?_⟩
        revert neighbour
        cases comparison <;> decide
  · rintro (below | ⟨rfl, rfl | rfl⟩ | ⟨rfl, rfl | rfl⟩) field
    · exact holds_of_sides (roundInt_lt_iff (by decide) (by omega) (by omega))
        (lt_roundInt_iff (by decide) (by omega) (by omega))
    · have below : roundInt 53 field < 2 ^ 53 ↔ field < 2 ^ 53 :=
        roundInt_lt_iff (by decide) (by decide) (by decide)
      exact decide_eq_decide.mpr (by omega)
    · exact decide_eq_decide.mpr (roundInt_lt_iff (by decide) (by decide) (by decide))
    · exact decide_eq_decide.mpr (lt_roundInt_iff (by decide) (by decide) (by decide))
    · have above : -2 ^ 53 < roundInt 53 field ↔ -2 ^ 53 < field :=
        lt_roundInt_iff (by decide) (by decide) (by decide)
      exact decide_eq_decide.mpr (by omega)

end Comparing

variable {libraries : Libraries} {condition : AlertCondition} {threshold : Int} {label : String}

/-- An accepted integer condition is a numeric comparison, which is exact for
all fields if and only if the threshold is distinguished. -/
theorem integer_condition_exact_iff (accepted : condition.validate libraries = .ok ())
    (valued : condition.value = some (.integer threshold)) :
    ∃ comparison, logqlOperator condition.operator = .ok comparison ∧
      conditionFilter libraries condition label =
        .ok [.compare label comparison (.number (toString threshold) threshold)] ∧
      ((∀ field, lokiHolds comparison field threshold = comparison.holds field threshold) ↔
        Distinguishes comparison threshold) := by
  have small := accepted_integer accepted valued
  obtain ⟨_, _, operator⟩ := accepted_condition accepted
  rw [valued] at operator
  obtain ⟨field, operation, value⟩ := condition
  subst valued
  cases operation with
  | «exists» => contradiction
  | contains => contradiction
  | eq => exact ⟨.eq, rfl, rfl, lokiHolds_exact_iff small⟩
  | ne => exact ⟨.ne, rfl, rfl, lokiHolds_exact_iff small⟩
  | gt => exact ⟨.gt, rfl, rfl, lokiHolds_exact_iff small⟩
  | gte => exact ⟨.gte, rfl, rfl, lokiHolds_exact_iff small⟩
  | lt => exact ⟨.lt, rfl, rfl, lokiHolds_exact_iff small⟩
  | lte => exact ⟨.lte, rfl, rfl, lokiHolds_exact_iff small⟩

/-! The largest accepted threshold and its neighbour, which is no float. -/

def largestCondition : AlertCondition where
  field := "data.amount"
  operator := .eq
  value := some (.integer (2 ^ 53))

theorem neighbour_equals_threshold :
    largestCondition.validate (sampleLibraries []) = .ok () ∧
    conditionFilter (sampleLibraries []) largestCondition "condition_0" =
      .ok [.compare "condition_0" .eq (.number "9007199254740992" 9007199254740992)] ∧
    lokiHolds .eq (2 ^ 53 + 1) (2 ^ 53) = true ∧
    Comparison.holds .eq (2 ^ 53 + 1 : Int) (2 ^ 53) = false := by
  refine ⟨by decide +kernel, ?_, by decide +kernel, by decide⟩
  have text : toString (2 ^ 53 : Int) = "9007199254740992" := by decide +kernel
  have value : ((2 ^ 53 : Int) : ℚ) = 9007199254740992 := by norm_num
  rw [← text, ← value]
  rfl

def amountCondition : AlertCondition where
  field := "data.amount"
  operator := .gte
  value := some (.integer 1000)

theorem integer_condition_exact_amount :
    ∃ comparison, logqlOperator .gte = .ok comparison ∧
      conditionFilter (sampleLibraries []) amountCondition "condition_0" =
        .ok [.compare "condition_0" comparison (.number (toString (1000 : Int)) (1000 : Int))] ∧
      ((∀ field, lokiHolds comparison field 1000 = comparison.holds field 1000) ↔
        Distinguishes comparison 1000) := by
  have accepted : amountCondition.validate (sampleLibraries []) = .ok () := by decide +kernel
  exact integer_condition_exact_iff accepted rfl

end Microscope.Alerting
