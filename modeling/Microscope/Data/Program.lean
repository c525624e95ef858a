import Mathlib.Logic.Relation

namespace Microscope.Data

/-! # Command programs

A program is a tree of commands.  Every command is answered by its
environment, and the rest of the program depends on the answer.  The meaning
of a program is the set of traces it can produce; what an environment may
answer is stated separately, on the events of the trace or by a step relation
on a world.  Nothing here depends on the commands of a particular program.
-/

inductive Program {Command : Type} (Response : Command → Type) (α : Type) where
  | done (value : α)
  | call (command : Command) (next : Response command → Program Response α)

namespace Program

variable {Command : Type} {Response : Command → Type} {α β γ : Type}

/-- A command together with the answer it received. -/
abbrev Event (Response : Command → Type) := (command : Command) × Response command

protected def bind : Program Response α → (α → Program Response β) → Program Response β
  | .done value, rest => rest value
  | .call command next, rest => .call command fun response => (next response).bind rest

instance : Monad (Program Response) where
  pure := .done
  bind := Program.bind

/-- Issue one command and return its answer. -/
def request (command : Command) : Program Response (Response command) :=
  .call command .done

@[simp] theorem pure_eq_done (value : α) : (pure value : Program Response α) = .done value := rfl

@[simp] theorem done_bind (value : α) (rest : α → Program Response β) :
    (Program.done value >>= rest) = rest value := rfl

@[simp] theorem call_bind (command : Command) (next : Response command → Program Response α)
    (rest : α → Program Response β) :
    (Program.call command next >>= rest) = .call command fun response => next response >>= rest :=
  rfl

@[simp] theorem request_bind (command : Command) (rest : Response command → Program Response α) :
    (request command >>= rest) = .call command rest := rfl

theorem bind_done (program : Program Response α) : (program >>= Program.done) = program := by
  induction program with
  | done value => rfl
  | call command next ih => simp [ih]

theorem bind_bind (program : Program Response α) (first : α → Program Response β)
    (second : β → Program Response γ) :
    (program >>= first >>= second) = (program >>= fun value => first value >>= second) := by
  induction program with
  | done value => rfl
  | call command next ih => simp [ih]

instance : LawfulMonad (Program Response) :=
  LawfulMonad.mk' _ bind_done (fun _ _ => rfl) bind_bind

/-! ## Traces -/

/-- `Advances program trace after` states that `after` is what remains of
`program` once the events of `trace` have happened. -/
inductive Advances : Program Response α → List (Event Response) → Program Response α → Prop where
  | start (program : Program Response α) : Advances program [] program
  | step {command : Command} {next : Response command → Program Response α}
      {response : Response command} {trace : List (Event Response)} {after : Program Response α}
      (rest : Advances (next response) trace after) :
      Advances (.call command next) (⟨command, response⟩ :: trace) after

/-- A complete run of a program. -/
abbrev Run (program : Program Response α) (trace : List (Event Response)) (value : α) : Prop :=
  Advances program trace (.done value)

variable {program after : Program Response α} {trace : List (Event Response)} {value : α}

theorem Advances.trans {middle : Program Response α} {more : List (Event Response)}
    (first : Advances program trace middle) (second : Advances middle more after) :
    Advances program (trace ++ more) after := by
  induction first with
  | start => exact second
  | step _ ih => exact .step (ih second)

theorem Advances.snoc {command : Command} {next : Response command → Program Response α}
    (reached : Advances program trace (.call command next)) (response : Response command) :
    Advances program (trace ++ [⟨command, response⟩]) (next response) :=
  reached.trans (.step (.start _))

@[simp] theorem run_done_iff {result : α} :
    Run (.done value : Program Response α) trace result ↔ trace = [] ∧ result = value := by
  constructor
  · intro run
    cases run
    exact ⟨rfl, rfl⟩
  · rintro ⟨rfl, rfl⟩
    exact .start _

theorem run_call_iff {command : Command} {next : Response command → Program Response α} :
    Run (.call command next) trace value ↔
      ∃ response rest, trace = ⟨command, response⟩ :: rest ∧ Run (next response) rest value := by
  constructor
  · intro run
    cases run with
    | step rest => exact ⟨_, _, rfl, rest⟩
  · rintro ⟨response, rest, rfl, run⟩
    exact .step run

/-- A partial run of a sequence stops inside the first part or inside the
second. -/
theorem Advances.bind_cases {rest : α → Program Response β} {after : Program Response β}
    (reached : Advances (program >>= rest) trace after) :
    (∃ middle, Advances program trace middle ∧ after = (middle >>= rest)) ∨
    ∃ first second value, trace = first ++ second ∧ Run program first value ∧
      Advances (rest value) second after := by
  induction program generalizing trace with
  | done value => exact .inr ⟨[], trace, value, rfl, .start _, reached⟩
  | call command next ih =>
      cases reached with
      | start => exact .inl ⟨_, .start _, rfl⟩
      | step reached =>
          rcases ih _ reached with ⟨middle, advanced, remains⟩ | ⟨first, second, value, same, run, later⟩
          · exact .inl ⟨middle, .step advanced, remains⟩
          · exact .inr ⟨_ :: first, second, value, by rw [same]; rfl, .step run, later⟩

theorem Advances.bind {rest : α → Program Response β} {after : Program Response β}
    {more : List (Event Response)}
    (run : Run program trace value) (later : Advances (rest value) more after) :
    Advances (program >>= rest) (trace ++ more) after := by
  induction program generalizing trace with
  | done _ =>
      obtain ⟨rfl, rfl⟩ := run_done_iff.mp run
      exact later
  | call command next ih =>
      obtain ⟨response, tail, rfl, tailRun⟩ := run_call_iff.mp run
      exact .step (ih response tailRun)

theorem run_bind_iff {rest : α → Program Response β} {result : β} :
    Run (program >>= rest) trace result ↔
      ∃ first second value, trace = first ++ second ∧ Run program first value ∧
        Run (rest value) second result := by
  constructor
  · intro run
    rcases run.bind_cases with ⟨middle, advanced, remains⟩ | split
    · cases middle with
      | done value =>
          rw [done_bind] at remains
          exact ⟨trace, [], value, by simp, advanced, by rw [← remains]; exact .start _⟩
      | call command next => simp at remains
    · exact split
  · rintro ⟨first, second, value, rfl, run, later⟩
    exact .bind run later

/-- A run that was cut short could have gone on with these answers. -/
theorem Advances.completes (answer : (command : Command) → Response command)
    (reached : Advances program trace after) :
    ∃ more value, Run program (trace ++ more) value ∧ ∀ event ∈ more, event.2 = answer event.1 := by
  have finishes : ∀ program : Program Response α,
      ∃ more value, Run program more value ∧ ∀ event ∈ more, event.2 = answer event.1 := by
    intro program
    induction program with
    | done value => exact ⟨[], value, .start _, by simp⟩
    | call command next ih =>
        obtain ⟨more, value, run, answered⟩ := ih (answer command)
        exact ⟨_, value, .step run, by simpa using answered⟩
  obtain ⟨more, value, run, answered⟩ := finishes after
  exact ⟨more, value, reached.trans run, answered⟩

/-! ## Commands a program may issue

`Obeys allowed permitted program` states that, as long as every answer is an
`allowed` one, `program` issues `permitted` commands only.  Unlike a statement
about complete runs it also covers a run that is cut short.
-/

def Obeys (allowed : (command : Command) → Response command → Prop)
    (permitted : Command → Prop) : Program Response α → Prop
  | .done _ => True
  | .call command next => permitted command ∧
      ∀ response, allowed command response → (next response).Obeys allowed permitted

section Obeys

variable {allowed : (command : Command) → Response command → Prop}
  {permitted weaker : Command → Prop}

/-- Every event of a trace carries an allowed answer. -/
def Allowed (allowed : (command : Command) → Response command → Prop)
    (trace : List (Event Response)) : Prop :=
  ∀ event ∈ trace, allowed event.1 event.2

@[simp] theorem allowed_nil : Allowed allowed ([] : List (Event Response)) := by
  simp [Allowed]

@[simp] theorem allowed_append {first second : List (Event Response)} :
    Allowed allowed (first ++ second) ↔ Allowed allowed first ∧ Allowed allowed second := by
  simp [Allowed, or_imp, forall_and]

@[simp] theorem allowed_cons {event : Event Response} :
    Allowed allowed (event :: trace) ↔ allowed event.1 event.2 ∧ Allowed allowed trace := by
  simp [Allowed]

theorem Obeys.bind {rest : α → Program Response β} (first : program.Obeys allowed permitted)
    (later : ∀ trace value, Run program trace value → Allowed allowed trace →
      (rest value).Obeys allowed permitted) :
    (program >>= rest).Obeys allowed permitted := by
  induction program with
  | done value => exact later [] value (.start _) allowed_nil
  | call command next ih =>
      refine ⟨first.1, fun response answer => ih response (first.2 response answer) ?_⟩
      intro trace value run clean
      exact later _ value (.step run) (allowed_cons.mpr ⟨answer, clean⟩)

theorem Obeys.mono (obeys : program.Obeys allowed permitted)
    (weaken : ∀ command, permitted command → weaker command) :
    program.Obeys allowed weaker := by
  induction program with
  | done _ => trivial
  | call command next ih =>
      exact ⟨weaken _ obeys.1, fun response answer => ih response (obeys.2 response answer)⟩

theorem Obeys.restrict {stricter : (command : Command) → Response command → Prop}
    (obeys : program.Obeys allowed permitted)
    (strengthen : ∀ command response, stricter command response → allowed command response) :
    program.Obeys stricter permitted := by
  induction program with
  | done _ => trivial
  | call command next ih =>
      exact ⟨obeys.1, fun response answer => ih response (obeys.2 response (strengthen _ _ answer))⟩

/-- The commands of a partial run are permitted, and so are those still to
come. -/
theorem Obeys.advances (obeys : program.Obeys allowed permitted)
    (reached : Advances program trace after) (clean : Allowed allowed trace) :
    (∀ event ∈ trace, permitted event.1) ∧ after.Obeys allowed permitted := by
  induction reached with
  | start => exact ⟨by simp, obeys⟩
  | step _ ih =>
      obtain ⟨answer, clean⟩ := allowed_cons.mp clean
      obtain ⟨permittedRest, obeysRest⟩ := ih (obeys.2 _ answer) clean
      exact ⟨by simpa using ⟨obeys.1, permittedRest⟩, obeysRest⟩

/-- A sequence whose first part obeys stops inside that part, about to issue a
permitted command, or after it. -/
theorem Obeys.bind_cases {rest : α → Program Response β} {after : Program Response β}
    (obeys : program.Obeys allowed permitted) (reached : Advances (program >>= rest) trace after)
    (clean : Allowed allowed trace) :
    ((∀ event ∈ trace, permitted event.1) ∧
      ∃ command next, after = .call command next ∧ permitted command) ∨
    ∃ first second value, trace = first ++ second ∧ Run program first value ∧
      (∀ event ∈ first, permitted event.1) ∧ Advances (rest value) second after := by
  rcases reached.bind_cases with ⟨middle, advanced, rfl⟩ | ⟨first, second, value, rfl, run, later⟩
  · obtain ⟨permittedTrace, permittedMiddle⟩ := obeys.advances advanced clean
    cases middle with
    | done value =>
        exact .inr ⟨trace, [], value, (List.append_nil _).symm, advanced, permittedTrace, .start _⟩
    | call command next => exact .inl ⟨permittedTrace, command, _, rfl, permittedMiddle.1⟩
  · obtain ⟨permittedTrace, _⟩ := obeys.advances run (allowed_append.mp clean).1
    exact .inr ⟨first, second, value, rfl, run, permittedTrace, later⟩

end Obeys

/-! ## Execution in a world with other parties

An environment answers commands and lets other parties move between them.
-/

structure Environment (Response : Command → Type) (World : Type) where
  answers : World → (command : Command) → Response command → World → Prop
  interferes : World → World → Prop

variable {World : Type} {environment : Environment Response World}

/-- The world after other parties moved any number of times. -/
abbrev Environment.Drifts (environment : Environment Response World) : World → World → Prop :=
  Relation.ReflTransGen environment.interferes

/-- The events of a trace happen in a world, with interference before, between
and after them. -/
inductive Executes (environment : Environment Response World) :
    World → List (Event Response) → World → Prop where
  | idle {before after : World} (drift : environment.Drifts before after) :
      Executes environment before [] after
  | step {before ready answered after : World} {command : Command}
      {response : Response command} {trace : List (Event Response)}
      (drift : environment.Drifts before ready)
      (answer : environment.answers ready command response answered)
      (rest : Executes environment answered trace after) :
      Executes environment before (⟨command, response⟩ :: trace) after

variable {before middle final : World}

theorem Executes.append {more : List (Event Response)}
    (first : Executes environment before trace middle)
    (second : Executes environment middle more final) :
    Executes environment before (trace ++ more) final := by
  induction first with
  | idle drift =>
      cases second with
      | idle later => exact .idle (drift.trans later)
      | step later answer rest => exact .step (drift.trans later) answer rest
  | step drift answer _ ih => exact .step drift answer (ih second)

theorem Executes.split {more : List (Event Response)}
    (execution : Executes environment before (trace ++ more) final) :
    ∃ middle, Executes environment before trace middle ∧ Executes environment middle more final := by
  induction trace generalizing before with
  | nil => exact ⟨before, .idle .refl, execution⟩
  | cons event trace ih =>
      cases execution with
      | step drift answer rest =>
          obtain ⟨middle, first, second⟩ := ih rest
          exact ⟨middle, .step drift answer first, second⟩

/-- A preorder followed by every answer and every move of another party is
followed by an execution. -/
theorem Executes.follows (relation : World → World → Prop)
    (refl : ∀ world, relation world world)
    (trans : ∀ {first second third}, relation first second → relation second third →
      relation first third)
    (answered : ∀ {first command response second},
      environment.answers first command response second → relation first second)
    (moved : ∀ {first second}, environment.interferes first second → relation first second)
    (execution : Executes environment before trace final) : relation before final := by
  have drifts : ∀ {first second}, environment.Drifts first second → relation first second := by
    intro first second drift
    induction drift with
    | refl => exact refl _
    | tail _ move ih => exact trans ih (moved move)
  induction execution with
  | idle drift => exact drifts drift
  | step drift answer _ ih => exact trans (drifts drift) (trans (answered answer) ih)

/-- An assertion kept by every answer and every move of another party is kept
by an execution. -/
theorem Executes.keeps {assertion : World → Prop}
    (answered : ∀ {first command response second},
      environment.answers first command response second → assertion first → assertion second)
    (moved : ∀ {first second}, environment.interferes first second → assertion first →
      assertion second)
    (execution : Executes environment before trace final) (holds : assertion before) :
    assertion final :=
  execution.follows (fun first second => assertion first → assertion second)
    (fun _ same => same) (fun first second holds => second (first holds)) answered moved holds

/-! ## Executions with their moments -/

/-- An execution together with the world each command was answered in. -/
inductive Chronicle (environment : Environment Response World) :
    World → List (Event Response × World) → World → Prop where
  | idle {before after : World} (drift : environment.Drifts before after) :
      Chronicle environment before [] after
  | step {before ready answered after : World} {command : Command} {response : Response command}
      {stamped : List (Event Response × World)}
      (drift : environment.Drifts before ready)
      (answer : environment.answers ready command response answered)
      (rest : Chronicle environment answered stamped after) :
      Chronicle environment before ((⟨command, response⟩, ready) :: stamped) after

section Chronicle

variable {stamped : List (Event Response × World)}

theorem Chronicle.split {more : List (Event Response × World)}
    (chronicle : Chronicle environment before (stamped ++ more) final) :
    ∃ middle, Chronicle environment before stamped middle ∧
      Chronicle environment middle more final := by
  induction stamped generalizing before with
  | nil => exact ⟨before, .idle .refl, chronicle⟩
  | cons stamp stamped ih =>
      cases chronicle with
      | step drift answer rest =>
          obtain ⟨middle, first, second⟩ := ih rest
          exact ⟨middle, .step drift answer first, second⟩

theorem Chronicle.answered (chronicle : Chronicle environment before stamped final) :
    ∀ stamp ∈ stamped, ∃ answered, environment.answers stamp.2 stamp.1.1 stamp.1.2 answered := by
  induction chronicle with
  | idle => simp
  | step drift answer _ ih =>
      intro stamp member
      rcases List.mem_cons.mp member with rfl | member
      · exact ⟨_, answer⟩
      · exact ih stamp member

end Chronicle

/-! ## Assertions at every moment

`Secures environment always post program world`: however `program` is answered
from `world` on, `always` holds at every moment, so also when it is cut short,
and `post` holds of its result and final world.
-/

def Secures (environment : Environment Response World) (always : World → Prop)
    (post : α → World → Prop) : Program Response α → World → Prop
  | .done value, world => always world ∧ post value world
  | .call command next, world => always world ∧ ∀ response answered,
      environment.answers world command response answered →
        (next response).Secures environment always post answered

section Secures

variable {always : World → Prop} {post : α → World → Prop} {world : World}

theorem Secures.holds (secures : program.Secures environment always post world) : always world := by
  cases program with
  | done => exact secures.1
  | call => exact secures.1

theorem Secures.bind {rest : α → Program Response β} {weaker : World → Prop}
    {final : β → World → Prop} (first : program.Secures environment always post world)
    (weaken : ∀ world, always world → weaker world)
    (later : ∀ value world, always world → post value world →
      (rest value).Secures environment weaker final world) :
    (program >>= rest).Secures environment weaker final world := by
  induction program generalizing world with
  | done value => exact later value world first.1 first.2
  | call command next ih =>
      exact ⟨weaken world first.1, fun response answered answer => ih response (first.2 _ _ answer)⟩

/-- Where no other party moves, what is secured holds after any part of a run. -/
theorem Secures.advances (alone : ∀ first second, ¬environment.interferes first second)
    {final : World} (secures : program.Secures environment always post world)
    (reached : Advances program trace after) (execution : Executes environment world trace final) :
    after.Secures environment always post final := by
  have stays : ∀ {first second}, environment.Drifts first second → second = first := by
    intro first second drift
    cases drift with
    | refl => rfl
    | tail _ move => exact (alone _ _ move).elim
  induction reached generalizing world with
  | start =>
      cases execution with
      | idle drift => rwa [stays drift]
  | step _ ih =>
      cases execution with
      | step drift answer rest =>
          rw [stays drift] at answer
          exact ih (secures.2 _ _ answer) rest

end Secures

/-- An assertion kept by the answers to the commands of a trace, and by every
move of another party, is kept by the execution of the trace. -/
theorem Executes.keeps_events {assertion : World → Prop}
    (answered : ∀ first event second, event ∈ trace →
      environment.answers first event.1 event.2 second → assertion first → assertion second)
    (moved : ∀ first second, environment.interferes first second → assertion first → assertion second)
    (execution : Executes environment before trace final) (holds : assertion before) :
    assertion final := by
  have drifts : ∀ {first second}, environment.Drifts first second → assertion first →
      assertion second := by
    intro first second drift holds
    induction drift with
    | refl => exact holds
    | tail _ move ih => exact moved _ _ move ih
  induction execution with
  | idle drift => exact drifts drift holds
  | step drift answer _ ih =>
      refine ih ?_ (answered _ ⟨_, _⟩ _ List.mem_cons_self answer (drifts drift holds))
      exact fun first event second member => answered first event second (List.mem_cons_of_mem _ member)

/-- Where an assertion lets commands be answered as the program allows for, and
is kept by its commands and by the other parties, so it is by a partial run. -/
theorem Executes.guards {allowed : (command : Command) → Response command → Prop}
    {permitted : Command → Prop} {assertion : World → Prop} (obeys : program.Obeys allowed permitted)
    (answered : ∀ first command response second, permitted command →
      environment.answers first command response second → assertion first →
      allowed command response ∧ assertion second)
    (moved : ∀ first second, environment.interferes first second → assertion first → assertion second)
    (reached : Advances program trace after) (execution : Executes environment before trace final)
    (holds : assertion before) : Allowed allowed trace ∧ assertion final := by
  have drifts : ∀ {first second}, environment.Drifts first second → assertion first →
      assertion second := by
    intro first second drift holds
    induction drift with
    | refl => exact holds
    | tail _ move ih => exact moved _ _ move ih
  induction reached generalizing before with
  | start =>
      cases execution with
      | idle drift => exact ⟨allowed_nil, drifts drift holds⟩
  | step _ ih =>
      cases execution with
      | step drift answer rest =>
          obtain ⟨allows, kept⟩ := answered _ _ _ _ obeys.1 answer (drifts drift holds)
          obtain ⟨allowsRest, kept⟩ := ih (obeys.2 _ allows) rest kept
          exact ⟨allowed_cons.mpr ⟨allows, allowsRest⟩, kept⟩

/-- An execution as it is seen in a simpler world. -/
theorem Executes.map {Other : Type} {simpler : Environment Response Other} (view : World → Other)
    (answered : ∀ first command response second, environment.answers first command response second →
      simpler.answers (view first) command response (view second))
    (moved : ∀ first second, environment.interferes first second →
      simpler.interferes (view first) (view second))
    (execution : Executes environment before trace final) :
    Executes simpler (view before) trace (view final) := by
  have drifts : ∀ {first second}, environment.Drifts first second →
      simpler.Drifts (view first) (view second) := fun drift => drift.lift view moved
  induction execution with
  | idle drift => exact .idle (drifts drift)
  | step drift answer _ ih => exact .step (drifts drift) (answered _ _ _ _ answer) ih

/-- The moment a command of a trace was answered. -/
theorem Executes.at_event {event : Event Response} (member : event ∈ trace)
    (execution : Executes environment before trace final) :
    ∃ first rest ready answered, trace = first ++ event :: rest ∧
      Executes environment before first ready ∧
      environment.answers ready event.1 event.2 answered ∧
      Executes environment answered rest final := by
  obtain ⟨first, rest, rfl⟩ := List.append_of_mem member
  obtain ⟨middle, earlier, later⟩ := execution.split
  cases later with
  | @step _ ready _ _ _ _ _ drift answer later =>
      have untilReady : Executes environment before first ready := by
        simpa using earlier.append (.idle drift)
      exact ⟨first, rest, ready, _, rfl, untilReady, answer, later⟩

/-! ## Loops

A loop runs `body` again and again, each time from the loop state the round
before ended with.
-/

section Loops

variable {Loop Result : Type} {body : Loop → Program Response (Loop ⊕ Result)}

/-- The complete rounds of a loop, of the kind `admits` describes. -/
inductive Rounds (environment : Environment Response World)
    (body : Loop → Program Response (Loop ⊕ Result))
    (admits : Loop → List (Event Response) → Loop → Prop) (start : Loop) (initial : World) :
    Loop → World → Prop where
  | start : Rounds environment body admits start initial start initial
  | next {loop next : Loop} {before after : World} {trace : List (Event Response)}
      (earlier : Rounds environment body admits start initial loop before)
      (run : Run (body loop) trace (.inl next))
      (execution : Executes environment before trace after)
      (admitted : admits loop trace next) :
      Rounds environment body admits start initial next after

/-- A loop that has stopped or been killed at this point of a round. -/
def Reaches (environment : Environment Response World)
    (body : Loop → Program Response (Loop ⊕ Result))
    (admits : Loop → List (Event Response) → Loop → Prop) (start : Loop) (initial : World)
    (control : Program Response (Loop ⊕ Result)) (world : World) : Prop :=
  ∃ loop before trace, Rounds environment body admits start initial loop before ∧
    Advances (body loop) trace control ∧ Executes environment before trace world

variable {admits : Loop → List (Event Response) → Loop → Prop} {start loop : Loop}
  {initial world : World}

/-- The loop rule: what every round keeps holds whenever a round begins. -/
theorem Rounds.invariant {invariant : Loop → World → Prop} (established : invariant start initial)
    (preserved : ∀ loop before trace next after, invariant loop before →
      Run (body loop) trace (.inl next) → Executes environment before trace after →
      admits loop trace next → invariant next after)
    (rounds : Rounds environment body admits start initial loop world) : invariant loop world := by
  induction rounds with
  | start => exact established
  | next _ run execution admitted ih => exact preserved _ _ _ _ _ ih run execution admitted

theorem Rounds.mono {weaker : Loop → List (Event Response) → Loop → Prop}
    (weaken : ∀ loop trace next, admits loop trace next → weaker loop trace next)
    (rounds : Rounds environment body admits start initial loop world) :
    Rounds environment body weaker start initial loop world := by
  induction rounds with
  | start => exact .start
  | next _ run execution admitted ih => exact .next ih run execution (weaken _ _ _ admitted)

theorem Rounds.map {Other : Type} {simpler : Environment Response Other} (view : World → Other)
    (executes : ∀ before trace after, Executes environment before trace after →
      Executes simpler (view before) trace (view after))
    (rounds : Rounds environment body admits start initial loop world) :
    Rounds simpler body admits start (view initial) loop (view world) := by
  induction rounds with
  | start => exact .start
  | next _ run execution admitted ih => exact .next ih run (executes _ _ _ execution) admitted

end Loops

/-! ## Running against a deterministic environment -/

/-- Run a program against a function that answers every command, returning the
trace, the result and the final state of the environment. -/
def runWith (answer : World → (command : Command) → Response command × World) :
    World → Program Response α → List (Event Response) × α × World
  | world, .done value => ([], value, world)
  | world, .call command next =>
      let (response, answered) := answer world command
      let (trace, value, final) := runWith answer answered (next response)
      (⟨command, response⟩ :: trace, value, final)

theorem run_runWith (answer : World → (command : Command) → Response command × World)
    (world : World) (program : Program Response α) :
    Run program (runWith answer world program).1 (runWith answer world program).2.1 := by
  induction program generalizing world with
  | done value => exact .start _
  | call command next ih => exact .step (ih _ _)

/-- An invariant of the environment under which it gives allowed answers. -/
theorem runWith_allowed_of_invariant {allowed : (command : Command) → Response command → Prop}
    {answer : World → (command : Command) → Response command × World} {invariant : World → Prop}
    (answers : ∀ world command, invariant world →
      allowed command (answer world command).1 ∧ invariant (answer world command).2)
    {world : World} (holds : invariant world) (program : Program Response α) :
    Allowed allowed (runWith answer world program).1 := by
  induction program generalizing world with
  | done value => exact allowed_nil
  | call command next ih =>
      obtain ⟨answered, kept⟩ := answers world command holds
      exact allowed_cons.mpr ⟨answered, ih _ kept⟩

theorem runWith_allowed {allowed : (command : Command) → Response command → Prop}
    {answer : World → (command : Command) → Response command × World}
    (answers : ∀ world command, allowed command (answer world command).1) (world : World)
    (program : Program Response α) : Allowed allowed (runWith answer world program).1 := by
  have kept : ∀ world command, True →
      allowed command (answer world command).1 ∧ True := fun world command _ =>
    ⟨answers world command, trivial⟩
  exact runWith_allowed_of_invariant kept trivial program

@[simp] theorem runWith_done (answer : World → (command : Command) → Response command × World)
    (world : World) (value : α) :
    runWith answer world (.done value : Program Response α) = ([], value, world) := rfl

/-- Answers an environment can give, with moves of other parties after each, make
an execution. -/
theorem executes_runWith {answer : World → (command : Command) → Response command × World}
    {invariant : World → Prop}
    (honest : ∀ world command, invariant world → invariant (answer world command).2 ∧
      ∃ answered, environment.answers world command (answer world command).1 answered ∧
        environment.Drifts answered (answer world command).2)
    {world : World} (holds : invariant world) (program : Program Response α) :
    Executes environment world (runWith answer world program).1
        (runWith answer world program).2.2 ∧
      invariant (runWith answer world program).2.2 := by
  have drifted : ∀ {first second final : World} {trace : List (Event Response)},
      environment.Drifts first second → Executes environment second trace final →
      Executes environment first trace final := by
    intro first second final trace drift execution
    cases execution with
    | idle later => exact .idle (drift.trans later)
    | step later answer rest => exact .step (drift.trans later) answer rest
  induction program generalizing world with
  | done value => exact ⟨.idle .refl, holds⟩
  | call command next ih =>
      obtain ⟨kept, answered, answer, drift⟩ := honest world command holds
      obtain ⟨execution, final⟩ := ih _ kept
      exact ⟨.step .refl answer (drifted drift execution), final⟩

/-- Run a program against a function, keeping the world each command was
answered in. -/
def runStamped (answer : World → (command : Command) → Response command × World) :
    World → Program Response α → List (Event Response × World) × α × World
  | world, .done value => ([], value, world)
  | world, .call command next =>
      let (response, answered) := answer world command
      let (stamped, value, final) := runStamped answer answered (next response)
      ((⟨command, response⟩, world) :: stamped, value, final)

theorem runStamped_trace (answer : World → (command : Command) → Response command × World)
    (world : World) (program : Program Response α) :
    (runStamped answer world program).1.map Prod.fst = (runWith answer world program).1 := by
  induction program generalizing world with
  | done value => rfl
  | call command next ih => exact congrArg _ (ih _ _)

theorem run_runStamped (answer : World → (command : Command) → Response command × World)
    (world : World) (program : Program Response α) :
    Run program ((runStamped answer world program).1.map Prod.fst)
      (runStamped answer world program).2.1 := by
  induction program generalizing world with
  | done value => exact .start _
  | call command next ih => exact .step (ih _ _)

theorem chronicle_runStamped {answer : World → (command : Command) → Response command × World}
    (honest : ∀ world command, ∃ answered,
      environment.answers world command (answer world command).1 answered ∧
        environment.Drifts answered (answer world command).2)
    (world : World) (program : Program Response α) :
    Chronicle environment world (runStamped answer world program).1
      (runStamped answer world program).2.2 := by
  have drifted : ∀ {first second final : World} {stamped : List (Event Response × World)},
      environment.Drifts first second → Chronicle environment second stamped final →
      Chronicle environment first stamped final := by
    intro first second final stamped drift chronicle
    cases chronicle with
    | idle later => exact .idle (drift.trans later)
    | step later answer rest => exact .step (drift.trans later) answer rest
  induction program generalizing world with
  | done value => exact .idle .refl
  | call command next ih =>
      obtain ⟨answered, answer, drift⟩ := honest world command
      exact .step .refl answer (drifted drift (ih _ _))

end Program

end Microscope.Data
