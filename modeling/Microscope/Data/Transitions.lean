import Mathlib.Data.List.Basic

namespace Microscope.Data

/-! # Runs of labelled transitions

A step of a system has a list of events, which is empty for an internal step.
A run collects the events of its steps in order.
-/

variable {State Event : Type} {step : State → List Event → State → Prop} {start middle finish : State}
  {trace more events : List Event}

inductive Runs (step : State → List Event → State → Prop) (start : State) : List Event → State → Prop where
  | refl : Runs step start [] start
  | snoc {trace events : List Event} {middle finish : State} (earlier : Runs step start trace middle)
      (last : step middle events finish) : Runs step start (trace ++ events) finish

namespace Runs

theorem single (taken : step start events finish) : Runs step start events finish := by
  simpa using Runs.refl.snoc taken

theorem trans (first : Runs step start trace middle) (second : Runs step middle more finish) :
    Runs step start (trace ++ more) finish := by
  induction second with
  | refl => simpa using first
  | snoc _ last ih =>
      rw [← List.append_assoc]
      exact ih.snoc last

theorem cons (first : step start events middle) (later : Runs step middle more finish) :
    Runs step start (events ++ more) finish :=
  (single first).trans later

/-- What holds at the start and is kept by every step holds after every run. -/
theorem invariant {holds : List Event → State → Prop} (run : Runs step start trace finish)
    (initial : holds [] start)
    (kept : ∀ {trace events middle finish}, holds trace middle → step middle events finish →
      holds (trace ++ events) finish) : holds trace finish := by
  induction run with
  | refl => exact initial
  | snoc _ last ih => exact kept ih last

end Runs

end Microscope.Data
