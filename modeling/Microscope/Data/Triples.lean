import Microscope.Data.Action

namespace Microscope.Data.Action

open Program

/-! # Pre- and postconditions

A triple is about every run of an action in surroundings that give allowed
answers: the state it ends in, when it succeeds and when it fails.
-/

variable {Command : Type} {Response : Command → Type} {State Failure α β : Type}
  {allowed : (command : Command) → Response command → Prop}
  {before : State → Prop} {after : α → State → Prop} {failing : Failure → State → Prop}

def Triple (allowed : (command : Command) → Response command → Prop) (before : State → Prop)
    (action : Action Response State Failure α) (after : α → State → Prop)
    (failing : Failure → State → Prop) : Prop :=
  ∀ start trace result final, before start → Allowed allowed trace →
    Ends action start trace result final →
      match result with
      | .ok value => after value final
      | .error failure => failing failure final

theorem triple_pure {value : α} (holds : ∀ state, before state → after value state) :
    Triple allowed before (pure value : Action Response State Failure α) after failing := by
  intro start trace result final ready _ ends
  obtain ⟨_, rfl, rfl⟩ := ends_pure_iff.mp ends
  exact holds _ ready

theorem triple_fail {failure : Failure} (may : ∀ state, before state → failing failure state) :
    Triple allowed before (fail failure : Action Response State Failure α) after failing := by
  intro start trace result final ready _ ends
  obtain ⟨_, rfl, rfl⟩ := ends_fail_iff.mp ends
  exact may _ ready

theorem triple_read : Triple allowed before (read : Action Response State Failure State)
    (fun value state => value = state ∧ before state) failing := by
  intro start trace result final ready _ ends
  obtain ⟨_, rfl, rfl⟩ := ends_read_iff.mp ends
  exact ⟨rfl, ready⟩

theorem triple_modify {change : State → State} {after : Unit → State → Prop}
    (holds : ∀ state, before state → after () (change state)) :
    Triple allowed before (modify change : Action Response State Failure Unit) after failing := by
  intro start trace result final ready _ ends
  obtain ⟨_, rfl, rfl⟩ := ends_modify_iff.mp ends
  exact holds _ ready

theorem triple_request {command : Command} : Triple allowed before
    (request command : Action Response State Failure _)
    (fun response state => allowed command response ∧ before state) failing := by
  intro start trace result final ready clean ends
  obtain ⟨response, rfl, rfl, rfl⟩ := ends_request_iff.mp ends
  exact ⟨clean ⟨command, response⟩ (by simp), ready⟩

theorem triple_ofExcept {given : Except Failure α}
    (may : ∀ failure state, given = .error failure → before state → failing failure state) :
    Triple allowed before (ofExcept given : Action Response State Failure α)
      (fun _ => before) failing := by
  intro start trace result final ready _ ends
  obtain ⟨_, same, rfl⟩ := ends_ofExcept_iff.mp ends
  cases result with
  | ok value => exact ready
  | error failure => exact may failure _ same.symm ready

variable {action : Action Response State Failure α}

theorem Triple.bind {rest : α → Action Response State Failure β} {last : β → State → Prop}
    (first : Triple allowed before action after failing)
    (later : ∀ value, Triple allowed (after value) (rest value) last failing) :
    Triple allowed before (action >>= rest) last failing := by
  intro start trace result final ready clean ends
  rcases ends_bind_iff.mp ends with ⟨failure, rfl, failed⟩ |
    ⟨early, late, value, middle, rfl, succeeded, ended⟩
  · exact first _ _ _ _ ready clean failed
  · have reached := first _ _ _ _ ready (fun event member => clean event (by simp [member])) succeeded
    exact later value _ _ _ _ reached (fun event member => clean event (by simp [member])) ended

theorem Triple.mono {weaker : State → Prop} {stronger : α → State → Prop}
    (triple : Triple allowed weaker action stronger failing)
    (ready : ∀ state, before state → weaker state)
    (reached : ∀ value state, stronger value state → after value state) :
    Triple allowed before action after failing := by
  intro start trace result final holds clean ends
  have outcome := triple _ _ _ _ (ready _ holds) clean ends
  cases result with
  | ok value => exact reached _ _ outcome
  | error failure => exact outcome

/-- A fact that does not depend on the state can be assumed. -/
theorem triple_of_fact {fact : Prop} (triple : fact → Triple allowed before action after failing) :
    Triple allowed (fun state => fact ∧ before state) action after failing :=
  fun start trace result final ready clean ends =>
    triple ready.1 start trace result final ready.2 clean ends

end Microscope.Data.Action
