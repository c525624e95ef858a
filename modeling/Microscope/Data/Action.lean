import Microscope.Data.Program

namespace Microscope.Data

/-! # Programs over a mutable state that may fail

An action threads a state through a command program and ends with a value or a
failure.  A failure keeps the state it happened in, as a function that borrows
its state mutably and returns early does.
-/

def Action {Command : Type} (Response : Command → Type) (State Failure α : Type) : Type :=
  State → Program Response (Except Failure α × State)

namespace Action

open Program

variable {Command : Type} {Response : Command → Type} {State Failure α β : Type}

protected def bind (action : Action Response State Failure α)
    (rest : α → Action Response State Failure β) : Action Response State Failure β :=
  fun before => action before >>= fun
    | (.ok value, after) => rest value after
    | (.error failure, after) => .done (.error failure, after)

instance : Monad (Action Response State Failure) where
  pure value := fun before => .done (.ok value, before)
  bind := Action.bind

def fail (failure : Failure) : Action Response State Failure α :=
  fun before => .done (.error failure, before)

def request (command : Command) : Action Response State Failure (Response command) :=
  fun before => .call command fun response => .done (.ok response, before)

def read : Action Response State Failure State :=
  fun before => .done (.ok before, before)

def modify (change : State → State) : Action Response State Failure Unit :=
  fun before => .done (.ok (), change before)

/-- A value that is already a success or a failure. -/
def ofExcept (result : Except Failure α) : Action Response State Failure α :=
  fun before => .done (result, before)

/-- `Ends action before trace result after`: a complete run of `action` from
the state `before`. -/
def Ends (action : Action Response State Failure α) (before : State)
    (trace : List (Event Response)) (result : Except Failure α) (after : State) : Prop :=
  Run (action before) trace (result, after)

variable {action : Action Response State Failure α} {before after : State}
  {trace : List (Event Response)} {result : Except Failure α}

@[simp] theorem ends_pure_iff {value : α} :
    Ends (pure value : Action Response State Failure α) before trace result after ↔
      trace = [] ∧ result = .ok value ∧ after = before := by
  change Run (.done (Except.ok value, before)) trace (result, after) ↔ _
  simp

@[simp] theorem ends_fail_iff {failure : Failure} :
    Ends (fail failure : Action Response State Failure α) before trace result after ↔
      trace = [] ∧ result = .error failure ∧ after = before := by
  simp [Ends, fail]

@[simp] theorem ends_read_iff {result : Except Failure State} :
    Ends (read : Action Response State Failure State) before trace result after ↔
      trace = [] ∧ result = .ok before ∧ after = before := by
  simp [Ends, read]

@[simp] theorem ends_modify_iff {change : State → State} {result : Except Failure Unit} :
    Ends (modify change : Action Response State Failure Unit) before trace result after ↔
      trace = [] ∧ result = .ok () ∧ after = change before := by
  simp [Ends, modify]

@[simp] theorem ends_ofExcept_iff {given : Except Failure α} :
    Ends (ofExcept given : Action Response State Failure α) before trace result after ↔
      trace = [] ∧ result = given ∧ after = before := by
  simp [Ends, ofExcept]

@[simp] theorem ends_request_iff {command : Command} {result : Except Failure (Response command)} :
    Ends (request command : Action Response State Failure _) before trace result after ↔
      ∃ response, trace = [⟨command, response⟩] ∧ result = .ok response ∧ after = before := by
  simp only [Ends, request, run_call_iff, run_done_iff, Prod.mk.injEq]
  constructor
  · rintro ⟨response, _, rfl, rfl, same⟩
    exact ⟨response, rfl, same⟩
  · rintro ⟨response, rfl, same⟩
    exact ⟨response, [], rfl, rfl, same⟩

/-- A sequence fails in its first part, or runs its second part from where the
first one succeeded. -/
theorem ends_bind_iff {rest : α → Action Response State Failure β} {result : Except Failure β} :
    Ends (action >>= rest) before trace result after ↔
      (∃ failure, result = .error failure ∧ Ends action before trace (.error failure) after) ∨
      ∃ first second value middle, trace = first ++ second ∧
        Ends action before first (.ok value) middle ∧ Ends (rest value) middle second result after := by
  change Run (action before >>= _) trace (result, after) ↔ _
  rw [run_bind_iff]
  constructor
  · rintro ⟨first, second, ⟨outcome, middle⟩, rfl, run, later⟩
    cases outcome with
    | error failure =>
        obtain ⟨rfl, same⟩ := run_done_iff.mp later
        obtain ⟨rfl, rfl⟩ := Prod.mk.injEq .. ▸ same
        exact .inl ⟨failure, rfl, by rw [List.append_nil]; exact run⟩
    | ok value => exact .inr ⟨first, second, value, middle, rfl, run, later⟩
  · rintro (⟨failure, rfl, run⟩ | ⟨first, second, value, middle, rfl, run, later⟩)
    · exact ⟨trace, [], _, by simp, run, .start _⟩
    · exact ⟨first, second, _, rfl, run, later⟩

theorem ends_bind_ok_iff {rest : α → Action Response State Failure β} {value : β} :
    Ends (action >>= rest) before trace (.ok value) after ↔
      ∃ first second given middle, trace = first ++ second ∧
        Ends action before first (.ok given) middle ∧
        Ends (rest given) middle second (.ok value) after := by
  rw [ends_bind_iff]
  simp

@[simp] theorem ends_request_bind_iff {command : Command}
    {rest : Response command → Action Response State Failure β} {result : Except Failure β} :
    Ends (request command >>= rest) before trace result after ↔
      ∃ response later, trace = ⟨command, response⟩ :: later ∧
        Ends (rest response) before later result after := by
  rw [ends_bind_iff]
  simp only [ends_request_iff]
  constructor
  · rintro (⟨_, _, _, _, impossible, _⟩ | ⟨_, later, response, _, rfl, ⟨_, rfl, same, rfl⟩, ends⟩)
    · contradiction
    · cases same
      exact ⟨response, later, rfl, ends⟩
  · rintro ⟨response, later, rfl, ends⟩
    exact .inr ⟨[_], later, response, before, rfl, ⟨response, rfl, rfl, rfl⟩, ends⟩

@[simp] theorem ends_read_bind_iff {rest : State → Action Response State Failure β}
    {result : Except Failure β} :
    Ends (read >>= rest) before trace result after ↔
      Ends (rest before) before trace result after := Iff.rfl

@[simp] theorem ends_modify_bind_iff {change : State → State}
    {rest : Unit → Action Response State Failure β} {result : Except Failure β} :
    Ends (modify change >>= rest) before trace result after ↔
      Ends (rest ()) (change before) trace result after := Iff.rfl

@[simp] theorem ends_ofExcept_bind_iff {given : Except Failure α}
    {rest : α → Action Response State Failure β} {result : Except Failure β} :
    Ends (ofExcept given >>= rest) before trace result after ↔
      (∃ failure, given = .error failure ∧ trace = [] ∧ result = .error failure ∧ after = before) ∨
      ∃ value, given = .ok value ∧ Ends (rest value) before trace result after := by
  cases given with
  | error failure =>
      change Ends (fail failure) before trace result after ↔ _
      simp [and_left_comm]
  | ok value =>
      change Ends (rest value) before trace result after ↔ _
      simp

@[simp] theorem pure_bind {value : α} {rest : α → Action Response State Failure β} :
    (pure value >>= rest) = rest value := rfl

theorem bind_bind {γ : Type} {first : α → Action Response State Failure β}
    {second : β → Action Response State Failure γ} :
    (action >>= first >>= second) = action >>= fun value => first value >>= second := by
  funext before
  refine (Program.bind_bind (action before) _ _).trans (congrArg (action before >>= ·) ?_)
  funext ⟨outcome, middle⟩
  cases outcome with
  | error failure => rfl
  | ok value => rfl

section Obeys

variable {allowed : (command : Command) → Response command → Prop} {permitted : Command → Prop}

/-- The commands `action` may issue from the state `before`. -/
def Obeys (allowed : (command : Command) → Response command → Prop) (permitted : Command → Prop)
    (action : Action Response State Failure α) (before : State) : Prop :=
  (action before).Obeys allowed permitted

@[simp] theorem obeys_pure {value : α} :
    Obeys allowed permitted (pure value : Action Response State Failure α) before := trivial

@[simp] theorem obeys_fail {failure : Failure} :
    Obeys allowed permitted (fail failure : Action Response State Failure α) before := trivial

@[simp] theorem obeys_read :
    Obeys allowed permitted (read : Action Response State Failure State) before := trivial

@[simp] theorem obeys_modify {change : State → State} :
    Obeys allowed permitted (modify change : Action Response State Failure Unit) before := trivial

@[simp] theorem obeys_ofExcept {given : Except Failure α} :
    Obeys allowed permitted (ofExcept given : Action Response State Failure α) before := trivial

@[simp] theorem obeys_request {command : Command} :
    Obeys allowed permitted (request command : Action Response State Failure _) before ↔
      permitted command := by
  simp [Obeys, request, Program.Obeys]

theorem Obeys.bind {rest : α → Action Response State Failure β}
    (first : Obeys allowed permitted action before)
    (later : ∀ trace value middle, Ends action before trace (.ok value) middle →
      Allowed allowed trace → Obeys allowed permitted (rest value) middle) :
    Obeys allowed permitted (action >>= rest) before := by
  change Program.Obeys allowed permitted (action before >>= fun
    | (.ok value, after) => rest value after
    | (.error failure, after) => .done (.error failure, after))
  refine Program.Obeys.bind first ?_
  rintro trace ⟨outcome, middle⟩ run clean
  cases outcome with
  | error failure => trivial
  | ok value => exact later trace value middle run clean

theorem Obeys.ends (obeys : Obeys allowed permitted action before)
    (ends : Ends action before trace result after) (clean : Allowed allowed trace) :
    ∀ event ∈ trace, permitted event.1 :=
  (Program.Obeys.advances obeys ends clean).1

end Obeys

end Action

end Microscope.Data
