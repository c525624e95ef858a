import Mathlib.Data.List.Induction
import Mathlib.Data.List.Infix

namespace Microscope.Data

/-! # Strikes

A subject collects strikes until it is cleared.  Several subjects share one
history; what counts for one of them is its own part of it.
-/

inductive Verdict where
  | cleared
  | strike
  | neutral
deriving DecidableEq, Repr

namespace Verdict

/-- The strikes since the last clearing, counted one verdict at a time. -/
def recount (strikes : Nat) : Verdict → Nat
  | cleared => 0
  | strike => strikes + 1
  | neutral => strikes

def strikes (verdicts : List Verdict) : Nat := verdicts.foldl recount 0

/-- At least `limit` strikes with no clearing among or after them. -/
def Exhausts (limit : Nat) (verdicts : List Verdict) : Prop :=
  ∃ earlier since, verdicts = earlier ++ since ∧ cleared ∉ since ∧ limit ≤ since.count strike

variable {limit : Nat} {verdicts : List Verdict} {verdict : Verdict}

@[simp] theorem strikes_nil : strikes [] = 0 := rfl

@[simp] theorem strikes_append_singleton :
    strikes (verdicts ++ [verdict]) = recount (strikes verdicts) verdict := by
  simp [strikes]

/-- The count is that of the verdicts after the last clearing. -/
theorem exists_strikes_eq_count (verdicts : List Verdict) : ∃ earlier since,
    verdicts = earlier ++ since ∧ cleared ∉ since ∧ strikes verdicts = since.count strike := by
  induction verdicts using List.reverseRecOn with
  | nil => exact ⟨[], [], rfl, by simp, rfl⟩
  | append_singleton verdicts verdict ih =>
      obtain ⟨earlier, since, split, unclear, counted⟩ := ih
      rw [strikes_append_singleton]
      cases verdict with
      | cleared => exact ⟨verdicts ++ [cleared], [], by simp, by simp, rfl⟩
      | strike =>
          exact ⟨earlier, since ++ [strike], by simp [split], by simp [unclear],
            by simp [recount, counted]⟩
      | neutral =>
          exact ⟨earlier, since ++ [neutral], by simp [split], by simp [unclear],
            by simp [recount, counted]⟩

/-- Verdicts that clear nothing only add their strikes. -/
theorem strikes_append {since : List Verdict} (unclear : cleared ∉ since) :
    strikes (verdicts ++ since) = strikes verdicts + since.count strike := by
  induction since using List.reverseRecOn with
  | nil => simp
  | append_singleton since verdict ih =>
      rw [List.mem_append, not_or] at unclear
      rw [← List.append_assoc, strikes_append_singleton, ih unclear.1, List.count_append]
      cases verdict with
      | cleared => exact absurd (List.mem_singleton.mpr rfl) unclear.2
      | strike => simp [recount, Nat.add_assoc]
      | neutral => simp [recount]

theorem exhausts_iff : Exhausts limit verdicts ↔ limit ≤ strikes verdicts := by
  constructor
  · intro ⟨earlier, since, split, unclear, enough⟩
    rw [split, strikes_append unclear]
    omega
  · intro enough
    obtain ⟨earlier, since, split, unclear, counted⟩ := exists_strikes_eq_count verdicts
    exact ⟨earlier, since, split, unclear, counted ▸ enough⟩

/-- Somewhere there are `limit` strikes with no clearing among them. -/
def InARow (limit : Nat) (verdicts : List Verdict) : Prop :=
  ∃ earlier since later, verdicts = earlier ++ since ++ later ∧ cleared ∉ since ∧
    limit ≤ since.count strike

theorem Exhausts.inARow (exhausts : Exhausts limit verdicts) : InARow limit verdicts := by
  obtain ⟨earlier, since, split, unclear, enough⟩ := exhausts
  exact ⟨earlier, since, [], by rw [split, List.append_nil], unclear, enough⟩

theorem inARow_iff_inits :
    InARow limit verdicts ↔ ∃ earlier ∈ verdicts.inits, limit ≤ strikes earlier := by
  constructor
  · intro ⟨earlier, since, later, split, unclear, enough⟩
    refine ⟨earlier ++ since, List.mem_inits _ _ |>.mpr ⟨later, split.symm⟩, ?_⟩
    exact exhausts_iff.mp ⟨earlier, since, rfl, unclear, enough⟩
  · intro ⟨beginning, starts, enough⟩
    obtain ⟨later, split⟩ := (List.mem_inits _ _).mp starts
    obtain ⟨earlier, since, rfl, unclear, counted⟩ := exhausts_iff.mpr enough
    exact ⟨earlier, since, later, split.symm, unclear, counted⟩

instance : Decidable (InARow limit verdicts) := decidable_of_iff _ inARow_iff_inits.symm

end Verdict

/-! ## Shared histories -/

section Shared

variable {Subject State Change View : Type} [DecidableEq Subject]

/-- The part of a shared history that is about one subject. -/
def partOf (subject : Subject) (history : List (Subject × Change)) : List Change :=
  history.filterMap fun entry => if entry.1 = subject then some entry.2 else none

variable {subject : Subject} {history more : List (Subject × Change)} {change : Change}

@[simp] theorem partOf_nil : partOf subject ([] : List (Subject × Change)) = [] := rfl

@[simp] theorem partOf_append :
    partOf subject (history ++ more) = partOf subject history ++ partOf subject more :=
  List.filterMap_append

theorem partOf_cons {other : Subject} : partOf subject ((other, change) :: history) =
    if other = subject then change :: partOf subject history else partOf subject history := by
  unfold partOf
  split <;> simp_all

/-- When a step changes the view of its own subject alone, the view of one
subject after a shared history is that after its own part. -/
theorem view_foldl (step : State → Subject × Change → State) (view : State → Subject → View)
    (change : Subject → View → Change → View)
    (own : ∀ state subject made, view (step state (subject, made)) subject =
      change subject (view state subject) made)
    (others : ∀ state subject other made, subject ≠ other →
      view (step state (subject, made)) other = view state other)
    (state : State) (subject : Subject) (history : List (Subject × Change)) :
    view (history.foldl step state) subject =
      (partOf subject history).foldl (change subject) (view state subject) := by
  induction history generalizing state with
  | nil => rfl
  | cons entry rest ih =>
      obtain ⟨other, made⟩ := entry
      rw [List.foldl_cons, ih, partOf_cons]
      by_cases same : other = subject
      · subst same
        rw [if_pos rfl, List.foldl_cons, own]
      · rw [if_neg same, others state other subject made same]

end Shared

end Microscope.Data
