import Mathlib.Data.List.Basic
import Mathlib.Data.List.Infix
import Mathlib.Data.Nat.Find

namespace Microscope.Data

/-! # Searching

The first occurrence of a pattern in a text.
-/

variable {α : Type} {pattern text before after : List α}

/-- The text falls into `before`, its first occurrence of the pattern and
`after`. -/
structure SplitsAt (pattern text before after : List α) : Prop where
  parts : text = before ++ pattern ++ after
  first : ∀ earlier later, text = earlier ++ pattern ++ later → before.length ≤ earlier.length

theorem SplitsAt.unique {otherBefore otherAfter : List α} (splits : SplitsAt pattern text before after)
    (other : SplitsAt pattern text otherBefore otherAfter) : before = otherBefore ∧ after = otherAfter := by
  have least := splits.first _ _ other.parts
  have otherLeast := other.first _ _ splits.parts
  have length : before.length = otherBefore.length := by omega
  have same := splits.parts.symm.trans other.parts
  rw [List.append_assoc, List.append_assoc] at same
  obtain ⟨sameBefore, sameRest⟩ := List.append_inj same length
  exact ⟨sameBefore, List.append_cancel_left sameRest⟩

theorem exists_splitsAt (occurs : pattern <:+: text) : ∃ before after, SplitsAt pattern text before after := by
  classical
  obtain ⟨some, rest, parts⟩ := occurs
  have occurrence : ∃ place earlier later, text = earlier ++ pattern ++ later ∧ earlier.length = place :=
    ⟨some.length, some, rest, parts.symm, rfl⟩
  obtain ⟨before, after, split, place⟩ := Nat.find_spec occurrence
  refine ⟨before, after, split, fun earlier later other => ?_⟩
  rw [place]
  exact Nat.find_min' occurrence ⟨earlier, later, other, rfl⟩

/-- An occurrence is the first if none ends before it does. -/
theorem splitsAt_of_absent {last : α} {start : List α} (ends : pattern = start ++ [last])
    (absent : ¬pattern <:+: before ++ start) (after : List α) :
    SplitsAt pattern (before ++ pattern ++ after) before after := by
  refine ⟨rfl, fun earlier later other => ?_⟩
  by_contra sooner
  have whole : before ++ start <+: before ++ pattern ++ after := by
    rw [ends]
    exact ⟨[last] ++ after, by simp⟩
  have found : earlier ++ pattern <+: before ++ pattern ++ after := by
    rw [other]
    exact List.prefix_append _ _
  have length : pattern.length = start.length + 1 := by
    rw [ends, List.length_append, List.length_singleton]
  have within : (earlier ++ pattern).length ≤ (before ++ start).length := by
    rw [List.length_append, List.length_append]
    omega
  have inside := List.prefix_of_prefix_length_le found whole within
  exact absent ((List.suffix_append earlier pattern).isInfix.trans inside.isInfix)

/-- `str::find`, of a text. -/
def findText [DecidableEq α] (pattern text : List α) : Option Nat :=
  (text.dropInfix? pattern).map fun parts => parts.1.length

theorem findText_splitsAt [DecidableEq α] (splits : SplitsAt pattern text before after) :
    findText pattern text = some before.length := by
  have dropped : text.dropInfix? pattern = some (before, after) := by
    rw [List.dropInfix?_eq_some_iff]
    refine ⟨⟨pattern, splits.parts, beq_self_eq_true _⟩, fun earlier found later other same => ?_⟩
    rw [eq_of_beq same] at other
    exact splits.first earlier later other
  rw [findText, dropped]
  rfl

theorem findText_absent [DecidableEq α] (absent : ¬pattern <:+: text) : findText pattern text = none := by
  cases dropped : text.dropInfix? pattern with
  | none => rw [findText, dropped]; rfl
  | some parts =>
      obtain ⟨⟨found, split, same⟩, _⟩ := List.dropInfix?_eq_some_iff.mp dropped
      rw [eq_of_beq same] at split
      exact absurd ⟨_, _, split.symm⟩ absent

theorem findText_le [DecidableEq α] {place : Nat} (found : findText pattern text = some place) :
    place + pattern.length ≤ text.length := by
  by_cases occurs : pattern <:+: text
  · obtain ⟨before, after, splits⟩ := exists_splitsAt occurs
    have same := (findText_splitsAt splits).symm.trans found
    have length := congrArg List.length splits.parts
    simp only [List.length_append] at length
    cases same
    omega
  · rw [findText_absent occurs] at found
    contradiction

end Microscope.Data
