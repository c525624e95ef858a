import Microscope.Data.Action

namespace Microscope.Data.Action

open Program

/-! # Actions that keep a log

A logged action carries a log beside its state.  Dropping the log leaves an
action that knows nothing of it.
-/

variable {Command : Type} {Response : Command → Type} {State Failure Entry α β : Type}

/-- Run an action and leave the log alone. -/
def silently (action : Action Response State Failure α) :
    Action Response (State × List Entry) Failure α :=
  fun before => action before.1 >>= fun outcome => .done (outcome.1, outcome.2, before.2)

def note (entry : Entry) : Action Response (State × List Entry) Failure Unit :=
  .modify fun before => (before.1, before.2 ++ [entry])

/-- Without its log, the logged action is the plain one. -/
def Erases (logged : Action Response (State × List Entry) Failure α)
    (action : Action Response State Failure α) : Prop :=
  ∀ before log, (logged (before, log) >>= fun outcome => .done (outcome.1, outcome.2.1)) =
    action before

variable {logged : Action Response (State × List Entry) Failure α}
  {action : Action Response State Failure α} {before after : State} {log : List Entry}
  {trace : List (Event Response)} {result : Except Failure α}

theorem erases_silently : Erases (silently action : Action Response (State × List Entry) Failure α)
    action := by
  intro before log
  rw [silently, Program.bind_bind]
  exact Program.bind_done (action before)

theorem erases_pure {value : α} : Erases
    (pure value : Action Response (State × List Entry) Failure α) (pure value) :=
  fun _ _ => rfl

theorem erases_fail {failure : Failure} : Erases
    (fail failure : Action Response (State × List Entry) Failure α) (fail failure) :=
  fun _ _ => rfl

theorem Erases.bind {rest : α → Action Response (State × List Entry) Failure β}
    {plain : α → Action Response State Failure β} (first : Erases logged action)
    (later : ∀ value, Erases (rest value) (plain value)) :
    Erases (logged >>= rest) (action >>= plain) := by
  intro before log
  change (logged (before, log) >>= _) >>= _ = action before >>= _
  rw [← first before log, Program.bind_bind, Program.bind_bind]
  refine congrArg (logged (before, log) >>= ·) ?_
  funext ⟨outcome, middle, noted⟩
  cases outcome with
  | error failure => rfl
  | ok value => exact later value middle noted

/-- Noting an entry does nothing else. -/
theorem Erases.noting {entry : Entry} {rest : Action Response (State × List Entry) Failure α}
    (later : Erases rest action) : Erases (note entry >>= fun _ => rest) action :=
  fun before log => later before (log ++ [entry])

theorem ends_silently_iff {final : State × List Entry} :
    Ends (silently action) (before, log) trace result final ↔
      Ends action before trace result final.1 ∧ final.2 = log := by
  obtain ⟨after, noted⟩ := final
  change Run (action before >>= _) trace _ ↔ Run (action before) trace _ ∧ noted = log
  rw [run_bind_iff]
  constructor
  · intro ⟨first, second, outcome, split, run, finished⟩
    obtain ⟨nothing, same⟩ := run_done_iff.mp finished
    cases same
    rw [nothing, List.append_nil] at split
    exact ⟨split ▸ run, rfl⟩
  · intro ⟨run, same⟩
    exact ⟨trace, [], (result, after), by simp, run, by rw [same]; exact .start _⟩

theorem ends_note_bind_iff {entry : Entry} {rest : Unit → Action Response (State × List Entry) Failure β}
    {result : Except Failure β} {final : State × List Entry} :
    Ends (note entry >>= rest) (before, log) trace result final ↔
      Ends (rest ()) (before, log ++ [entry]) trace result final := Iff.rfl

/-- A run of the logged action is one of the plain action. -/
theorem Erases.ends {final : State × List Entry} (erases : Erases logged action)
    (run : Ends logged (before, log) trace result final) : Ends action before trace result final.1 := by
  have erased : Run (logged (before, log) >>= fun outcome =>
      Program.done (outcome.1, outcome.2.1)) trace (result, final.1) :=
    run_bind_iff.mpr ⟨trace, [], (result, final), by simp, run, .start _⟩
  rw [erases before log] at erased
  exact erased

/-- Every run of the plain action is logged. -/
theorem Erases.exists_ends (erases : Erases logged action) (run : Ends action before trace result after)
    (log : List Entry) : ∃ noted, Ends logged (before, log) trace result (after, noted) := by
  have erased : Run (logged (before, log) >>= fun outcome =>
      Program.done (outcome.1, outcome.2.1)) trace (result, after) := by
    rw [erases before log]
    exact run
  obtain ⟨first, second, ⟨outcome, middle, noted⟩, split, ran, finished⟩ := run_bind_iff.mp erased
  obtain ⟨nothing, same⟩ := run_done_iff.mp finished
  cases same
  rw [nothing, List.append_nil] at split
  exact ⟨noted, split ▸ ran⟩

/-! ## Failures -/

section FailsOnly

variable {allowed : Failure → Prop}

/-- The action fails only with the failures that are allowed. -/
def FailsOnly (allowed : Failure → Prop) (action : Action Response State Failure α) : Prop :=
  ∀ before trace failure after, Ends action before trace (.error failure) after → allowed failure

theorem failsOnly_pure {value : α} :
    FailsOnly allowed (pure value : Action Response State Failure α) := by
  intro before trace failure after ends
  cases (ends_pure_iff.mp ends).2.1

theorem failsOnly_read : FailsOnly allowed (read : Action Response State Failure State) := by
  intro before trace failure after ends
  cases (ends_read_iff.mp ends).2.1

theorem failsOnly_modify {change : State → State} :
    FailsOnly allowed (modify change : Action Response State Failure Unit) := by
  intro before trace failure after ends
  cases (ends_modify_iff.mp ends).2.1

theorem failsOnly_request {command : Command} :
    FailsOnly allowed (request command : Action Response State Failure _) := by
  intro before trace failure after ends
  obtain ⟨_, _, impossible, _⟩ := ends_request_iff.mp ends
  cases impossible

theorem failsOnly_fail {failure : Failure} (may : allowed failure) :
    FailsOnly allowed (fail failure : Action Response State Failure α) := by
  intro before trace other after ends
  cases (ends_fail_iff.mp ends).2.1
  exact may

theorem failsOnly_ofExcept {given : Except Failure α}
    (may : ∀ failure, given = .error failure → allowed failure) :
    FailsOnly allowed (ofExcept given : Action Response State Failure α) := by
  intro before trace failure after ends
  exact may failure (ends_ofExcept_iff.mp ends).2.1.symm

theorem FailsOnly.mono {stricter : Failure → Prop} (fails : FailsOnly stricter action)
    (weaker : ∀ failure, stricter failure → allowed failure) : FailsOnly allowed action :=
  fun _ _ failure _ ends => weaker failure (fails _ _ failure _ ends)

theorem FailsOnly.bind {rest : α → Action Response State Failure β} (first : FailsOnly allowed action)
    (later : ∀ value, FailsOnly allowed (rest value)) : FailsOnly allowed (action >>= rest) := by
  intro before trace failure after ends
  rcases ends_bind_iff.mp ends with ⟨other, same, failed⟩ | ⟨_, _, value, _, _, _, failed⟩
  · cases same
    exact first _ _ _ _ failed
  · exact later value _ _ _ _ failed

end FailsOnly

end Microscope.Data.Action
