import Microscope.Data.Program

namespace Microscope.Data.Program

/-! # Simulation

A detailed environment in which every answer and every move has a counterpart
in a simpler one: what a program does in the detailed environment it can do in
the simpler one.  Two environments need only agree on the commands that the
program still issues, so a program may also park them one after the other.
-/

variable {Command : Type} {Response : Command → Type} {World Other : Type}
  {detailed : Environment Response World} {simpler : Environment Response Other}
  {permitted : Command → Prop} {relation : World → Other → Prop}

/-- What every move of another party keeps is kept while others move. -/
theorem drifts_keep {environment : Environment Response World} {assertion : World → Prop}
    {before after : World} (drift : environment.Drifts before after)
    (moved : ∀ first second, environment.interferes first second → assertion first → assertion second)
    (holds : assertion before) : assertion after := by
  induction drift with
  | refl => exact holds
  | tail _ move ih => exact moved _ _ move ih

variable {Loop Result : Type}

/-- The complete rounds of a loop, each with where it began and what happened in
it. -/
inductive History (environment : Environment Response World)
    (body : Loop → Program Response (Loop ⊕ Result)) (start : Loop) (initial : World) :
    List (Loop × List (Event Response)) → Loop → World → Prop where
  | start : History environment body start initial [] start initial
  | next {rounds : List (Loop × List (Event Response))} {loop next : Loop} {before after : World}
      {trace : List (Event Response)}
      (earlier : History environment body start initial rounds loop before)
      (run : Run (body loop) trace (.inl next)) (execution : Executes environment before trace after) :
      History environment body start initial (rounds ++ [(loop, trace)]) next after

/-- A loop with these rounds behind it has stopped or been killed after these
events of its round. -/
def Traces (environment : Environment Response World) (body : Loop → Program Response (Loop ⊕ Result))
    (start : Loop) (initial : World) (rounds : List (Loop × List (Event Response)))
    (trace : List (Event Response)) (control : Program Response (Loop ⊕ Result)) (world : World) : Prop :=
  ∃ loop before, History environment body start initial rounds loop before ∧
    Advances (body loop) trace control ∧ Executes environment before trace world

/-- Related worlds stay related while permitted commands are answered and
other parties move. -/
structure Simulates (detailed : Environment Response World) (simpler : Environment Response Other)
    (permitted : Command → Prop) (relation : World → Other → Prop) : Prop where
  answered : ∀ {first second : World} {command : Command} {response : Response command} {other : Other},
    permitted command → relation first other → detailed.answers first command response second →
    ∃ ready answered later, simpler.Drifts other ready ∧
      simpler.answers ready command response answered ∧ simpler.Drifts answered later ∧
      relation second later
  moved : ∀ {first second : World} {other : Other},
    relation first other → detailed.interferes first second →
    ∃ later, simpler.Drifts other later ∧ relation second later

namespace Simulates

variable {before after : World} {other : Other} {trace : List (Event Response)}

theorem executes_drifted {first second final : Other} (drift : simpler.Drifts first second)
    (execution : Executes simpler second trace final) : Executes simpler first trace final := by
  cases execution with
  | idle later => exact .idle (drift.trans later)
  | step later answer rest => exact .step (drift.trans later) answer rest

theorem executes_single {event : Event Response} (execution : Executes detailed before [event] after) :
    ∃ ready answered, detailed.Drifts before ready ∧ detailed.answers ready event.1 event.2 answered ∧
      detailed.Drifts answered after := by
  cases execution with
  | step drift answer rest =>
      cases rest with
      | idle later => exact ⟨_, _, drift, answer, later⟩

theorem drifts (simulates : Simulates detailed simpler permitted relation)
    (related : relation before other) (drift : detailed.Drifts before after) :
    ∃ later, simpler.Drifts other later ∧ relation after later := by
  induction drift with
  | refl => exact ⟨other, .refl, related⟩
  | tail _ move ih =>
      obtain ⟨middle, earlier, still⟩ := ih
      obtain ⟨later, more, after⟩ := simulates.moved still move
      exact ⟨later, earlier.trans more, after⟩

theorem executes (simulates : Simulates detailed simpler permitted relation)
    (permits : ∀ event ∈ trace, permitted event.1) (related : relation before other)
    (execution : Executes detailed before trace after) :
    ∃ final, Executes simpler other trace final ∧ relation after final := by
  induction execution generalizing other with
  | idle drift =>
      obtain ⟨later, drifted, still⟩ := simulates.drifts related drift
      exact ⟨later, .idle drifted, still⟩
  | step drift answer _ ih =>
      obtain ⟨later, drifted, still⟩ := simulates.drifts related drift
      have may := permits _ List.mem_cons_self
      obtain ⟨ready, answered, next, more, response, moves, kept⟩ := simulates.answered may still answer
      have rest := fun event member => permits event (List.mem_cons_of_mem _ member)
      obtain ⟨final, execution, ends⟩ := ih rest kept
      exact ⟨final, .step (drifted.trans more) response (executes_drifted moves execution), ends⟩

variable {Loop Result : Type} {body : Loop → Program Response (Loop ⊕ Result)} {start loop : Loop}
  {rounds : List (Loop × List (Event Response))}

/-- The simpler environment has the same rounds behind it. -/
theorem history (simulates : Simulates detailed simpler permitted relation)
    (permits : ∀ loop trace next, Run (body loop) trace (.inl next) → ∀ event ∈ trace, permitted event.1)
    (related : relation before other) (history : History detailed body start before rounds loop after) :
    ∃ final, History simpler body start other rounds loop final ∧ relation after final := by
  induction history with
  | start => exact ⟨other, .start, related⟩
  | next _ run execution ih =>
      obtain ⟨middle, earlier, still⟩ := ih
      obtain ⟨final, executes, kept⟩ := simulates.executes (permits _ _ _ run) still execution
      exact ⟨final, .next earlier run executes, kept⟩

end Simulates

/-! ## Programs that park

Once such a program has issued a closing command it issues no barred command
any more, and its result is a parked one.
-/

section Parks

variable {α β : Type} {closing barred : Command → Prop} {parked : α → Prop} {rested : β → Prop}

def Rests (barred : Command → Prop) (parked : α → Prop) : Program Response α → Prop
  | .done value => parked value
  | .call command next => ¬barred command ∧ ∀ response, (next response).Rests barred parked

def Parks (closing barred : Command → Prop) (parked : α → Prop) : Program Response α → Prop
  | .done _ => True
  | .call command next => ∀ response,
      (closing command → (next response).Rests barred parked) ∧
        (¬closing command → (next response).Parks closing barred parked)

variable {program after : Program Response α} {rest : α → Program Response β}
  {trace : List (Event Response)}

theorem Parks.call {command : Command} {next : Response command → Program Response α}
    (runs : ¬closing command) (later : ∀ response, (next response).Parks closing barred parked) :
    (Program.call command next).Parks closing barred parked :=
  fun response => ⟨fun closes => absurd closes runs, fun _ => later response⟩

theorem Rests.bind (first : program.Rests barred parked)
    (later : ∀ value, parked value → (rest value).Rests barred rested) :
    (program >>= rest).Rests barred rested := by
  induction program with
  | done value => exact later value first
  | call command next ih => exact ⟨first.1, fun response => ih response (first.2 response)⟩

theorem Parks.bind (first : program.Parks closing barred parked)
    (rests : ∀ value, parked value → (rest value).Rests barred rested)
    (parks : ∀ value, (rest value).Parks closing barred rested) :
    (program >>= rest).Parks closing barred rested := by
  induction program with
  | done value => exact parks value
  | call command next ih =>
      intro response
      obtain ⟨closes, runs⟩ := first response
      exact ⟨fun closing => (closes closing).bind rests, fun unclosed => ih response (runs unclosed)⟩

/-- A program that never closes parks after it if the rest does. -/
theorem Obeys.bind_parks (runs : program.Obeys (fun _ _ => True) fun command => ¬closing command)
    (parks : ∀ value, (rest value).Parks closing barred rested) :
    (program >>= rest).Parks closing barred rested := by
  induction program with
  | done value => exact parks value
  | call command next ih =>
      exact fun response =>
        ⟨fun closes => absurd closes runs.1, fun _ => ih response (runs.2 response trivial)⟩

theorem Rests.advances (rests : program.Rests barred parked) (reached : Advances program trace after) :
    (∀ event ∈ trace, ¬barred event.1) ∧ after.Rests barred parked := by
  induction reached with
  | start => exact ⟨by simp, rests⟩
  | step _ ih =>
      obtain ⟨quiet, later⟩ := ih (rests.2 _)
      exact ⟨by simpa using ⟨rests.1, quiet⟩, later⟩

/-- A partial run has not closed, or issued no barred command since. -/
theorem Parks.advances (parks : program.Parks closing barred parked)
    (reached : Advances program trace after) :
    (∀ event ∈ trace, ¬closing event.1) ∨
      ∃ first closer last, trace = first ++ closer :: last ∧ closing closer.1 ∧
        (∀ event ∈ first, ¬closing event.1) ∧ (∀ event ∈ last, ¬barred event.1) ∧
        after.Rests barred parked := by
  induction reached with
  | start => exact .inl (by simp)
  | @step command next response trace after reached ih =>
      by_cases closes : closing command
      · obtain ⟨quiet, rests⟩ := ((parks response).1 closes).advances reached
        exact .inr ⟨[], ⟨command, response⟩, trace, rfl, closes, by simp, quiet, rests⟩
      · rcases ih ((parks response).2 closes) with
          runs | ⟨first, closer, last, rfl, closed, runs, quiet, rests⟩
        · exact .inl (by simpa using ⟨closes, runs⟩)
        · refine .inr ⟨⟨command, response⟩ :: first, closer, last, rfl, closed, ?_, quiet, rests⟩
          simpa using ⟨closes, runs⟩

end Parks

end Microscope.Data.Program
