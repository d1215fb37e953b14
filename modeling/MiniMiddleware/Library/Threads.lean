import Mathlib.Logic.Function.Basic
import MiniMiddleware.Library.Machine

/-!
# Threads over a shared state

A program of threads has a shared state and a point for each thread.  One
step moves one thread and may change the shared state; the other threads keep
their points.

The parallel rule proves an invariant of all interleavings thread by thread.
Every thread has an assertion about its own point and the shared state, and
there is one global condition.  A step has to establish the assertion of its
own thread and must not disturb the assertion of any other.  Both may speak
about a ghost value that the program does not have.
-/

namespace MiniMiddleware.Library

universe u v w x y

/-- What one thread can do at its point: the shared state, its next point and
the events. -/
abbrev ThreadStep (Thread : Type u) (Shared : Type v) (Point : Type v)
    (Choice : Type w) (Event : Type x) :=
  Thread → Shared → Point → Choice → Option (Shared × Point × List Event)

section Threads

variable {Thread : Type u} {Shared Point : Type v} {Choice : Type w}
  {Event : Type x} [DecidableEq Thread]

/-- The machine of all interleavings; an input names the thread that moves. -/
def threadMachine (initial : Shared × (Thread → Point) → Prop)
    (step : ThreadStep Thread Shared Point Choice Event) :
    Machine (Shared × (Thread → Point)) (Thread × Choice) Event where
  initial := initial
  step state input :=
    (step input.1 state.1 (state.2 input.1) input.2).map fun moved =>
      ((moved.1, Function.update state.2 input.1 moved.2.1), moved.2.2)

/-- The parallel rule. -/
theorem Machine.Run.parallel
    {Ghost : Type y} {initial : Shared × (Thread → Point) → Prop}
    {step : ThreadStep Thread Shared Point Choice Event}
    {guard : Shared × (Thread → Point) → Thread × Choice → Prop}
    (global : Ghost → Shared → List Event → Prop)
    (assertion : Ghost → Thread → Shared → Point → Prop)
    (atStart :
      ∀ shared points, initial (shared, points) →
        ∃ ghost, global ghost shared [] ∧
          ∀ thread, assertion ghost thread shared (points thread))
    (atStep :
      ∀ ghost thread shared point choice events after next emitted,
        global ghost shared events →
        assertion ghost thread shared point →
        step thread shared point choice = some (after, next, emitted) →
        ∃ changed,
          global changed after (events ++ emitted) ∧
            assertion changed thread after next ∧
            ∀ other, other ≠ thread → ∀ otherPoint,
              assertion ghost other shared otherPoint →
              assertion changed other after otherPoint)
    {inputs : List (Thread × Choice)} {state : Shared × (Thread → Point)}
    {events : List Event}
    (run : (threadMachine initial step).Run guard inputs state events) :
    ∃ ghost, global ghost state.1 events ∧
      ∀ thread, assertion ghost thread state.1 (state.2 thread) := by
  refine run.invariant
    (fun state events =>
      ∃ ghost, global ghost state.1 events ∧
        ∀ thread, assertion ghost thread state.1 (state.2 thread))
    (fun state initially => atStart state.1 state.2 initially) ?_
  rintro ⟨shared, points⟩ events ⟨thread, choice⟩ target emitted
    ⟨ghost, holds, assertions⟩ _ stepped
  obtain ⟨⟨after, next, calls⟩, moved, reached⟩ :=
    Option.map_eq_some_iff.mp stepped
  cases reached
  obtain ⟨changed, kept, own, undisturbed⟩ :=
    atStep ghost thread shared (points thread) choice events after next calls
      holds (assertions thread) moved
  refine ⟨changed, kept, fun other => ?_⟩
  by_cases same : other = thread
  · subst same
    simpa only [Function.update_self] using own
  · have unmoved :
        Function.update points thread next other = points other :=
      Function.update_of_ne same next points
    dsimp only
    rw [unmoved]
    exact undisturbed other same (points other) (assertions other)

end Threads

end MiniMiddleware.Library
