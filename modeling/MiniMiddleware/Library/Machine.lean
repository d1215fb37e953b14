import Mathlib.Data.List.Basic

/-!
# Machines with inputs, events and guarded runs

A machine takes one input at a time.  An input that is not enabled in the
current state has no successor; an enabled one yields the next state and the
events that become visible in that step.  A run records the inputs taken, the
state reached and all events in order.

Every run carries a guard, a condition on the state before a step and on the
input of that step.  The unguarded runs are those of the guard `free`; a
property that only holds while some branch is avoided is stated for the runs
of the guard that avoids it.
-/

namespace MiniMiddleware.Library

universe u v w

/-- A partial, deterministic transition function with emitted events. -/
structure Machine (State : Type u) (Input : Type v) (Event : Type w) where
  initial : State → Prop
  step : State → Input → Option (State × List Event)

namespace Machine

variable {State : Type u} {Input : Type v} {Event : Type w}

/-- The guard that admits every step. -/
def free (_state : State) (_input : Input) : Prop :=
  True

instance (state : State) (input : Input) :
    Decidable (free state input) :=
  inferInstanceAs (Decidable True)

/-- `Run machine guard inputs state events`: from an initial state, `inputs`
lead to `state`, each step meets `guard`, and `events` were emitted. -/
inductive Run (machine : Machine State Input Event)
    (guard : State → Input → Prop) :
    List Input → State → List Event → Prop
  | start {state : State} :
      machine.initial state →
      Run machine guard [] state []
  | next {inputs : List Input} {state target : State}
      {events emitted : List Event} {input : Input} :
      Run machine guard inputs state events →
      guard state input →
      machine.step state input = some (target, emitted) →
      Run machine guard (inputs ++ [input]) target (events ++ emitted)

namespace Run

variable {machine : Machine State Input Event}
  {guard : State → Input → Prop}

/-- The invariant rule: what holds initially and is kept by every guarded
step holds at the end of every guarded run. -/
theorem invariant
    (property : State → List Event → Prop)
    (atStart : ∀ state, machine.initial state → property state [])
    (atStep :
      ∀ state events input target emitted,
        property state events →
        guard state input →
        machine.step state input = some (target, emitted) →
        property target (events ++ emitted))
    {inputs : List Input} {state : State} {events : List Event}
    (run : machine.Run guard inputs state events) :
    property state events := by
  induction run with
  | start initially =>
      exact atStart _ initially
  | next _ allowed stepped inductionHypothesis =>
      exact atStep _ _ _ _ _ inductionHypothesis allowed stepped

/-- Forward simulation: if every guarded step of one machine is matched by a
step of another with the same events, from related states to related states,
then its runs are runs of the other machine. -/
theorem simulated
    {Abstract : Type u} {abstract : Machine Abstract Input Event}
    (related : State → Abstract → Prop)
    (atStart :
      ∀ state, machine.initial state →
        ∃ other, abstract.initial other ∧ related state other)
    (atStep :
      ∀ state other input target emitted,
        related state other →
        guard state input →
        machine.step state input = some (target, emitted) →
        ∃ reached,
          abstract.step other input = some (reached, emitted) ∧
            related target reached)
    {inputs : List Input} {state : State} {events : List Event}
    (run : machine.Run guard inputs state events) :
    ∃ other, abstract.Run free inputs other events ∧ related state other := by
  induction run with
  | start initially =>
      obtain ⟨other, otherInitially, holds⟩ := atStart _ initially
      exact ⟨other, .start otherInitially, holds⟩
  | next _ allowed stepped inductionHypothesis =>
      obtain ⟨other, otherRun, holds⟩ := inductionHypothesis
      obtain ⟨reached, otherStepped, reachedHolds⟩ :=
        atStep _ _ _ _ _ holds allowed stepped
      exact ⟨reached, otherRun.next trivial otherStepped, reachedHolds⟩

theorem last
    {inputs : List Input} {input : Input} {target : State}
    {events : List Event}
    (run : machine.Run guard (inputs ++ [input]) target events) :
    ∃ state earlier emitted,
      machine.Run guard inputs state earlier ∧
        guard state input ∧
        machine.step state input = some (target, emitted) ∧
        events = earlier ++ emitted := by
  generalize whole : inputs ++ [input] = all at run
  cases run with
  | start _ =>
      simp at whole
  | next earlier allowed stepped =>
      obtain ⟨rfl, sole⟩ := List.append_inj' whole rfl
      cases sole
      exact ⟨_, _, _, earlier, allowed, stepped, rfl⟩

end Run

/-- Execute a list of inputs; `none` as soon as one is not enabled or does not
meet the guard. -/
def exec (machine : Machine State Input Event)
    (guard : State → Input → Prop)
    [∀ state input, Decidable (guard state input)] :
    State → List Input → Option (State × List Event)
  | state, [] => some (state, [])
  | state, input :: rest =>
      if guard state input then
        match machine.step state input with
        | none => none
        | some (middle, emitted) =>
            match exec machine guard middle rest with
            | none => none
            | some (target, events) => some (target, emitted ++ events)
      else
        none

theorem exec_cons
    {machine : Machine State Input Event}
    {guard : State → Input → Prop}
    [∀ state input, Decidable (guard state input)]
    {state middle target : State} {input : Input} {rest : List Input}
    {emitted events : List Event}
    (allowed : guard state input)
    (stepped : machine.step state input = some (middle, emitted))
    (executed : machine.exec guard middle rest = some (target, events)) :
    machine.exec guard state (input :: rest) =
      some (target, emitted ++ events) := by
  simp only [exec, if_pos allowed, stepped, executed]

/-- The first step of an execution, and the execution behind it. -/
theorem exists_of_exec_cons
    {machine : Machine State Input Event}
    {guard : State → Input → Prop}
    [∀ state input, Decidable (guard state input)]
    {state target : State} {input : Input} {rest : List Input}
    {events : List Event}
    (executed :
      machine.exec guard state (input :: rest) = some (target, events)) :
    ∃ middle first later,
      guard state input ∧
        machine.step state input = some (middle, first) ∧
        machine.exec guard middle rest = some (target, later) ∧
        events = first ++ later := by
  simp only [exec] at executed
  split at executed
  · rename_i allowed
    split at executed
    · cases executed
    · rename_i middle first stepped
      split at executed
      · cases executed
      · rename_i final later executedRest
        cases executed
        exact ⟨middle, first, later, allowed, stepped, executedRest, rfl⟩
  · cases executed

theorem exec_free_cons
    (machine : Machine State Input Event) (state : State) (input : Input)
    (rest : List Input) :
    machine.exec free state (input :: rest) =
      (machine.step state input).bind fun first =>
        (machine.exec free first.1 rest).map fun later =>
          (later.1, first.2 ++ later.2) := by
  have allowed : free state input := trivial
  rw [exec, if_pos allowed]
  cases machine.step state input with
  | none => rfl
  | some first =>
      simp only [Option.bind_some]
      cases machine.exec free first.1 rest <;> rfl

/-- The rule for an execution from a given state: a relation between the state
before, the events and the state after holds of it if it holds of no step at
all and of one step followed by an execution of which it holds. -/
theorem exec_relation
    {machine : Machine State Input Event}
    {guard : State → Input → Prop}
    [∀ state input, Decidable (guard state input)]
    {inputs : List Input} {state target : State} {events : List Event}
    (relation : State → List Event → State → Prop)
    (atEnd : ∀ state, relation state [] state)
    (atStep :
      ∀ state input middle target emitted events,
        input ∈ inputs →
        guard state input →
        machine.step state input = some (middle, emitted) →
        relation middle events target →
        relation state (emitted ++ events) target)
    (executed : machine.exec guard state inputs = some (target, events)) :
    relation state events target := by
  induction inputs generalizing state events with
  | nil =>
      simp only [exec, Option.some.injEq, Prod.mk.injEq] at executed
      obtain ⟨rfl, rfl⟩ := executed
      exact atEnd state
  | cons input rest inductionHypothesis =>
      obtain ⟨middle, first, later, allowed, stepped, executedRest, rfl⟩ :=
        exists_of_exec_cons executed
      refine atStep _ _ _ _ _ _ List.mem_cons_self allowed stepped
        (inductionHypothesis (fun _ _ _ _ _ _ member => ?_) executedRest)
      exact atStep _ _ _ _ _ _ (List.mem_cons_of_mem input member)

/-- The invariant rule for an execution from a given state, with what the
invariant says about the events of a step. -/
theorem exec_invariant_events
    {machine : Machine State Input Event}
    {guard : State → Input → Prop}
    [∀ state input, Decidable (guard state input)]
    {inputs : List Input} {state target : State} {events : List Event}
    (property : State → Prop) (expected : Event → Prop)
    (atStart : property state)
    (atStep :
      ∀ state input target emitted,
        input ∈ inputs →
        property state →
        guard state input →
        machine.step state input = some (target, emitted) →
        property target ∧ ∀ event ∈ emitted, expected event)
    (executed : machine.exec guard state inputs = some (target, events)) :
    property target ∧ ∀ event ∈ events, expected event := by
  refine exec_relation
    (fun state events target =>
      property state → property target ∧ ∀ event ∈ events, expected event)
    (fun _ holds => ⟨holds, fun _ member => by cases member⟩) ?_ executed
    atStart
  intro state input middle target emitted events member allowed stepped later
    holds
  obtain ⟨kept, firstExpected⟩ := atStep _ _ _ _ member holds allowed stepped
  obtain ⟨reached, laterExpected⟩ := later kept
  refine ⟨reached, fun event member => ?_⟩
  rcases List.mem_append.mp member with member | member
  · exact firstExpected event member
  · exact laterExpected event member

/-- The invariant rule for an execution from a given state. -/
theorem exec_invariant
    {machine : Machine State Input Event}
    {guard : State → Input → Prop}
    [∀ state input, Decidable (guard state input)]
    {inputs : List Input} {state target : State} {events : List Event}
    (property : State → Prop)
    (atStart : property state)
    (atStep :
      ∀ state input target emitted,
        input ∈ inputs →
        property state →
        guard state input →
        machine.step state input = some (target, emitted) →
        property target)
    (executed : machine.exec guard state inputs = some (target, events)) :
    property target :=
  (exec_invariant_events property (fun _ => True) atStart
    (fun _ _ _ _ member holds allowed stepped =>
      ⟨atStep _ _ _ _ member holds allowed stepped, fun _ _ => trivial⟩)
    executed).1

/-- An execution that starts where a run has led continues the run. -/
theorem Run.continued
    {machine : Machine State Input Event}
    {guard : State → Input → Prop}
    [∀ state input, Decidable (guard state input)]
    {rest : List Input} :
    ∀ {inputs : List Input} {state target : State}
      {events emitted : List Event},
      machine.Run guard inputs state events →
      machine.exec guard state rest = some (target, emitted) →
      machine.Run guard (inputs ++ rest) target (events ++ emitted) := by
  induction rest with
  | nil =>
      intro inputs state target events emitted run executed
      simp only [exec, Option.some.injEq, Prod.mk.injEq] at executed
      obtain ⟨rfl, rfl⟩ := executed
      simpa using run
  | cons input rest inductionHypothesis =>
      intro inputs state target events emitted run executed
      obtain ⟨middle, first, later, allowed, stepped, executedRest, rfl⟩ :=
        exists_of_exec_cons executed
      have extended :=
        inductionHypothesis (run.next allowed stepped) executedRest
      simpa [List.append_assoc] using extended

/-- A successful execution from an initial state is a run. -/
theorem run_of_exec
    {machine : Machine State Input Event}
    {guard : State → Input → Prop}
    [∀ state input, Decidable (guard state input)]
    {inputs : List Input} {state target : State} {events : List Event}
    (initially : machine.initial state)
    (executed : machine.exec guard state inputs = some (target, events)) :
    machine.Run guard inputs target events := by
  simpa using (Run.start initially).continued executed

/-- An execution of which only the events are known is still a run. -/
theorem run_of_exec_events
    (machine : Machine State Input Event)
    (guard : State → Input → Prop)
    [∀ state input, Decidable (guard state input)]
    (inputs : List Input) (state : State) (events : List Event)
    (initially : machine.initial state)
    (executed :
      (machine.exec guard state inputs).map Prod.snd = some events) :
    ∃ target, machine.Run guard inputs target events := by
  obtain ⟨⟨target, emitted⟩, found, rfl⟩ := Option.map_eq_some_iff.mp executed
  exact ⟨target, run_of_exec initially found⟩

/-- An execution whose outcome passes a check is a run to such an outcome. -/
theorem run_of_exec_check
    (machine : Machine State Input Event)
    (guard : State → Input → Prop)
    [∀ state input, Decidable (guard state input)]
    (inputs : List Input) (state : State)
    (check : State → List Event → Bool)
    (initially : machine.initial state)
    (executed :
      (machine.exec guard state inputs).any
        (fun outcome => check outcome.1 outcome.2) = true) :
    ∃ target events,
      machine.Run guard inputs target events ∧ check target events = true := by
  cases found : machine.exec guard state inputs with
  | none =>
      simp [found] at executed
  | some outcome =>
      rw [found, Option.any_some] at executed
      exact ⟨outcome.1, outcome.2, run_of_exec initially found, executed⟩

end Machine

end MiniMiddleware.Library
