import Mathlib.Data.List.Induction

/-!
# Options of a command line

Options are pairs of a name and a value that stand behind each other on the
command line.  Where an option is given more than once, the last value counts.
-/

namespace MiniMiddleware.Library

universe u v w

variable {Name : Type u} {Value : Type v} {State : Type w}

/-- The options as they stand on the command line. -/
def onCommandLine (options : List (Name × Name)) : List Name :=
  options.flatMap fun option => [option.1, option.2]

/-- A command line determines its options. -/
theorem onCommandLine_injective :
    Function.Injective (@onCommandLine Name) := by
  intro first
  induction first with
  | nil =>
      intro second equal
      cases second with
      | nil => rfl
      | cons option others => cases equal
  | cons option rest inductionHypothesis =>
      intro second equal
      cases second with
      | nil => cases equal
      | cons other others =>
          obtain ⟨names, values, tails⟩ :
              option.1 = other.1 ∧ option.2 = other.2 ∧
                onCommandLine rest = onCommandLine others := by
            simpa [onCommandLine] using equal
          rw [Prod.ext names values, inductionHypothesis tails]

/-- A parser that takes a name and a value at a time, as long as it accepts
them, folds the options of the command line into its state. -/
theorem parse_eq_ok_iff
    {Error : Type*} {parse : List Name → State → Except Error State}
    {accepts : Name × Name → Prop} {set : State → Name × Name → State}
    (holds : State → Prop)
    (keeps : ∀ state option, holds state → holds (set state option))
    (nil : ∀ state, parse [] state = .ok state)
    (single : ∀ name state result, parse [name] state ≠ .ok result)
    (pair : ∀ name value rest state result, holds state →
      (parse (name :: value :: rest) state = .ok result ↔
        accepts (name, value) ∧
          parse rest (set state (name, value)) = .ok result))
    (args : List Name) {state result : State} (start : holds state) :
    parse args state = .ok result ↔
      ∃ options, args = onCommandLine options ∧
        (∀ option ∈ options, accepts option) ∧
        options.foldl set state = result := by
  induction args using List.twoStepInduction generalizing state with
  | nil =>
      rw [nil, Except.ok.injEq]
      constructor
      · rintro rfl
        exact ⟨[], rfl, by simp, rfl⟩
      · rintro ⟨options, empty, _, folded⟩
        cases options with
        | nil => exact folded
        | cons option rest => cases empty
  | singleton name =>
      constructor
      · intro parsed
        exact absurd parsed (single name state result)
      · rintro ⟨options, alone, _⟩
        cases options with
        | nil => cases alone
        | cons option rest => cases alone
  | cons_cons name value rest inductionHypothesis _ =>
      rw [pair name value rest state result start,
        inductionHypothesis (keeps state (name, value) start)]
      constructor
      · rintro ⟨first, options, rfl, others, folded⟩
        exact ⟨(name, value) :: options, rfl,
          List.forall_mem_cons.mpr ⟨first, others⟩, folded⟩
      · rintro ⟨options, line, accepted, folded⟩
        cases options with
        | nil => cases line
        | cons option options =>
            cases line
            obtain ⟨first, others⟩ := List.forall_mem_cons.mp accepted
            exact ⟨first, options, rfl, others, folded⟩

variable [DecidableEq Name]

/-- The last value that an option is given. -/
def lastValue (options : List (Name × Value)) (name : Name) : Option Value :=
  ((options.filter (·.1 = name)).getLast?).map Prod.snd

theorem lastValue_concat
    (options : List (Name × Value)) (option : Name × Value) (name : Name) :
    lastValue (options ++ [option]) name =
      if option.1 = name then some option.2 else lastValue options name := by
  unfold lastValue
  rw [List.filter_append]
  by_cases same : option.1 = name <;> simp [same]

theorem mem_of_lastValue_eq_some
    {options : List (Name × Value)} {name : Name} {value : Value}
    (last : lastValue options name = some value) :
    (name, value) ∈ options := by
  obtain ⟨option, found, rfl⟩ := Option.map_eq_some_iff.mp last
  obtain ⟨member, same⟩ := List.mem_filter.mp (List.mem_of_getLast? found)
  have named : option.1 = name := of_decide_eq_true same
  rw [← named]
  exact member

/-- A field that one option sets and no other touches holds what was read from
the last value of the option, or what it held before. -/
theorem foldl_eq_lastValue
    {Field : Type*} (set : State → Name × Value → State) (field : State → Field)
    (read : Value → Field) (name : Name)
    (sets : ∀ state value, field (set state (name, value)) = read value)
    (keeps : ∀ state option,
      option.1 ≠ name → field (set state option) = field state)
    (options : List (Name × Value)) (state : State) :
    field (options.foldl set state) =
      ((lastValue options name).map read).getD (field state) := by
  induction options using List.reverseRecOn with
  | nil => rfl
  | append_singleton options option inductionHypothesis =>
      rw [List.foldl_append, lastValue_concat]
      by_cases same : option.1 = name
      · subst same
        rw [if_pos rfl]
        exact sets _ option.2
      · rw [if_neg same, ← inductionHypothesis]
        exact keeps _ option same

end MiniMiddleware.Library
