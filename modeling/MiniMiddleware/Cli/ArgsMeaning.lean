import MiniMiddleware.Cli.Args

/-!
# What an accepted command line means

The arguments of an accepted command are its words and its options in turn.
A field holds what was read from the last value of its option.  `strtol` skips
white space, and `parse_non_negative_int` looks for a minus sign in front of
it only, so a number is below zero or cut to 32 bits exactly where the last
text of its option denotes a negative number.
-/

namespace MiniMiddleware.Cli

open MiniMiddleware.Library

/-! ## Numbers -/

theorem castInt_of_nonneg
    {value : Int} (nonneg : 0 ≤ value) (bounded : value ≤ intMax) :
    castInt value = value := by
  unfold castInt intMax at *
  exact Int.bmod_eq_of_le (by omega) (by omega)

theorem parseNonNegativeInt_eq_some_iff {text : Text} {parsed : Int} :
    parseNonNegativeInt text = some parsed ↔
      text.head? ≠ some '-' ∧
        ∃ number, Denotes text number ∧ -2 ^ 63 ≤ number ∧ number ≤ intMax ∧
          castInt number = parsed := by
  unfold parseNonNegativeInt
  by_cases empty : text = []
  · rw [if_pos (Or.inl empty)]
    constructor
    · intro none
      cases none
    · rintro ⟨_, number, denotes, _⟩
      exact absurd empty denotes.ne_nil
  · by_cases minus : text.head? = some '-'
    · simp [minus]
    · have whole := @strtol_eq_iff text empty
      rw [if_neg (by simp [empty, minus])]
      dsimp only
      generalize strtol text = read at whole ⊢
      obtain ⟨value, outOfRange, rest⟩ := read
      simp only [Converted.mk.injEq] at whole
      constructor
      · intro accepted
        split at accepted
        · cases accepted
        · rename_i valid
          simp only [not_or, Bool.not_eq_true, Decidable.not_not, Int.not_lt] at valid
          obtain ⟨inRange, _, atEnd, small⟩ := valid
          obtain ⟨denotes, low, _⟩ := whole.mp ⟨rfl, inRange, atEnd⟩
          exact ⟨minus, value, denotes, low, small, Option.some.inj accepted⟩
      · rintro ⟨_, number, denotes, low, small, rfl⟩
        obtain ⟨rfl, rfl, rfl⟩ :=
          (@whole number).mpr ⟨denotes, low, by unfold intMax at small; omega⟩
        rw [if_neg]
        simp [Ne.symm empty, small]

/-- What is read is the number that the text denotes, unless that is
negative. -/
theorem denotes_parsed_iff
    {text : Text} {parsed : Int}
    (accepted : parseNonNegativeInt text = some parsed) :
    0 ≤ parsed ∧ Denotes text parsed ↔ ¬ IsNegative text := by
  obtain ⟨_, number, denotes, _, small, rfl⟩ :=
    parseNonNegativeInt_eq_some_iff.mp accepted
  constructor
  · rintro ⟨nonneg, same⟩
    exact same.not_isNegative_iff.mpr nonneg
  · intro notNegative
    have nonneg := denotes.not_isNegative_iff.mp notNegative
    rw [castInt_of_nonneg nonneg small]
    exact ⟨nonneg, denotes⟩

/-! ## Options -/

theorem optionNames_distinct :
    [windowOption, countOption, waitMsOption, typeOption, configOption].Nodup := by
  decide

/-- The options whose value is a number. -/
def numericOptions : List Text := [waitMsOption, countOption, windowOption]

/-- The command takes the option with this value. -/
def Accepts (kind : CliCommandKind) (option : Text × Text) : Prop :=
  isOptionAllowed kind option.1 = true ∧
    if option.1 = configOption ∨ option.1 = typeOption then
      isOptionToken option.2 = false
    else
      ∃ parsed, parseNonNegativeInt option.2 = some parsed ∧
        (option.1 = windowOption → 2 ≤ parsed)

/-- The number that is read from a value. -/
def readInt (value : Text) : Int :=
  (parseNonNegativeInt value).getD 0

/-- The assignment that an accepted option makes. -/
def setOption (cmd : CliCommand) (option : Text × Text) : CliCommand :=
  if option.1 = configOption then { cmd with configPath := option.2 }
  else if option.1 = typeOption then { cmd with typeName := option.2 }
  else if option.1 = waitMsOption then { cmd with waitMs := readInt option.2 }
  else if option.1 = countOption then { cmd with count := readInt option.2 }
  else if option.1 = windowOption then { cmd with window := readInt option.2 }
  else cmd

theorem known_of_allowed
    {kind : CliCommandKind} {name : Text}
    (allowed : isOptionAllowed kind name = true) :
    name = configOption ∨ name = typeOption ∨ name = waitMsOption ∨
      name = countOption ∨ name = windowOption := by
  cases kind <;>
    simp only [isOptionAllowed, Bool.or_eq_true, decide_eq_true_eq,
      Bool.false_eq_true] at allowed
  case topicList =>
    rcases allowed with config | wait
    · exact .inl config
    · exact .inr (.inr (.inl wait))
  case topicEcho =>
    rcases allowed with (config | type) | count
    · exact .inl config
    · exact .inr (.inl type)
    · exact .inr (.inr (.inr (.inl count)))
  case topicHz =>
    rcases allowed with ((config | type) | window) | count
    · exact .inl config
    · exact .inr (.inl type)
    · exact .inr (.inr (.inr (.inr window)))
    · exact .inr (.inr (.inr (.inl count)))

theorem isOptionToken_of_allowed
    {kind : CliCommandKind} {name : Text}
    (allowed : isOptionAllowed kind name = true) :
    isOptionToken name = true := by
  rcases known_of_allowed allowed with rfl | rfl | rfl | rfl | rfl <;> rfl

theorem applyOption_eq_ok_iff
    {cmd next : CliCommand} {name value : Text} :
    applyOption cmd name value = .ok next ↔
      Accepts cmd.kind (name, value) ∧ setOption cmd (name, value) = next := by
  by_cases allowed : isOptionAllowed cmd.kind name = true
  · have distinct := optionNames_distinct
    simp only [List.nodup_cons, List.mem_cons, List.not_mem_nil, not_or,
      or_false] at distinct
    obtain ⟨⟨windowCount, windowWait, windowType, windowConfig⟩,
      ⟨countWait, countType, countConfig⟩, ⟨waitType, waitConfig⟩,
      typeConfig, _⟩ := distinct
    unfold applyOption Accepts setOption readInt readStringOption
    rw [if_neg (by simp [allowed])]
    rcases known_of_allowed allowed with rfl | rfl | rfl | rfl | rfl
    · simp only [allowed, true_or, if_true, bind, Except.bind, pure, Except.pure]
      cases isOptionToken value <;> simp
    · simp only [allowed, typeConfig, false_or, if_false, if_true, bind,
        Except.bind, pure, Except.pure]
      cases isOptionToken value <;> simp
    · simp only [allowed, waitType, waitConfig, false_or, if_false, if_true]
      cases parseNonNegativeInt value <;> simp [Ne.symm windowWait]
    · simp only [allowed, countWait, countType, countConfig, false_or, if_false,
        if_true]
      cases parseNonNegativeInt value <;> simp [Ne.symm windowCount]
    · simp only [allowed, windowCount, windowWait, windowType, windowConfig,
        false_or, if_false, if_true]
      cases parseNonNegativeInt value with
      | none => simp
      | some parsed =>
          by_cases small : parsed < 2
          · simp [small, Int.not_le.mpr small]
          · simp [small, Int.not_lt.mp small]
  · simp [applyOption, Accepts, allowed]

@[simp]
theorem kind_setOption (cmd : CliCommand) (option : Text × Text) :
    (setOption cmd option).kind = cmd.kind := by
  unfold setOption
  split_ifs <;> rfl

@[simp]
theorem topic_setOption (cmd : CliCommand) (option : Text × Text) :
    (setOption cmd option).topic = cmd.topic := by
  unfold setOption
  split_ifs <;> rfl

@[simp]
theorem kind_foldl_setOption (options : List (Text × Text)) (cmd : CliCommand) :
    (options.foldl setOption cmd).kind = cmd.kind := by
  induction options generalizing cmd with
  | nil => rfl
  | cons option rest inductionHypothesis =>
      rw [List.foldl_cons, inductionHypothesis, kind_setOption]

@[simp]
theorem topic_foldl_setOption (options : List (Text × Text)) (cmd : CliCommand) :
    (options.foldl setOption cmd).topic = cmd.topic := by
  induction options generalizing cmd with
  | nil => rfl
  | cons option rest inductionHypothesis =>
      rw [List.foldl_cons, inductionHypothesis, topic_setOption]

theorem parseOptions_pair
    (name value : Text) (rest : List Text) (cmd result : CliCommand) :
    parseOptions (name :: value :: rest) cmd = .ok result ↔
      Accepts cmd.kind (name, value) ∧
        parseOptions rest (setOption cmd (name, value)) = .ok result := by
  rw [parseOptions]
  constructor
  · intro parsed
    split at parsed
    · cases parsed
    split at parsed
    · cases parsed
    · rename_i next applied
      obtain ⟨accepts, rfl⟩ := applyOption_eq_ok_iff.mp applied
      exact ⟨accepts, parsed⟩
  · rintro ⟨accepts, parsed⟩
    have token := isOptionToken_of_allowed accepts.1
    have applied := applyOption_eq_ok_iff.mpr ⟨accepts, rfl⟩
    simp only [token, Bool.not_true, Bool.false_eq_true, if_false, applied]
    exact parsed

theorem parseOptions_eq_ok_iff
    {arguments : List Text} {cmd result : CliCommand} :
    parseOptions arguments cmd = .ok result ↔
      ∃ options, arguments = onCommandLine options ∧
        (∀ option ∈ options, Accepts cmd.kind option) ∧
        options.foldl setOption cmd = result := by
  have keeps : ∀ (state : CliCommand) option,
      state.kind = cmd.kind → (setOption state option).kind = cmd.kind :=
    fun state option same => (kind_setOption state option).trans same
  refine parse_eq_ok_iff _ keeps (fun _ => rfl) ?_ ?_ arguments rfl
  · intro name state result parsed
    rw [parseOptions] at parsed
    split at parsed <;> cases parsed
  · intro name value rest state result same
    rw [← same]
    exact parseOptions_pair name value rest state result

/-! ## Errors -/

/-- A usage error. -/
def IsUsageError (cmd : CliCommand) : Prop :=
  cmd.kind = .error ∧ cmd.exitCode = 2

theorem isUsageError_errorCommand (message : Text) :
    IsUsageError (errorCommand message) := ⟨rfl, rfl⟩

theorem readStringOption_error
    {name value : Text} {error : CliCommand}
    (failed : readStringOption name value = .error error) :
    IsUsageError error := by
  unfold readStringOption at failed
  split at failed
  · cases failed
    exact isUsageError_errorCommand _
  · cases failed

theorem applyOption_error
    {cmd error : CliCommand} {name value : Text}
    (failed : applyOption cmd name value = .error error) :
    IsUsageError error := by
  have isError : ∀ {message : Text},
      Except.error (errorCommand message) = Except.error (α := CliCommand) error →
        IsUsageError error := by
    rintro message ⟨⟩
    exact isUsageError_errorCommand message
  have textOption : ∀ {next : CliCommand},
      (do readStringOption name value; return next) = Except.error error →
        IsUsageError error := by
    intro next failed
    cases read : readStringOption name value with
    | error other =>
        rw [read] at failed
        cases failed
        exact readStringOption_error read
    | ok done =>
        rw [read] at failed
        cases failed
  unfold applyOption at failed
  split at failed
  · exact isError failed
  split at failed
  · exact textOption failed
  split at failed
  · exact textOption failed
  split at failed
  · split at failed
    · exact isError failed
    · cases failed
  split at failed
  · split at failed
    · exact isError failed
    · cases failed
  split at failed
  · split at failed
    · exact isError failed
    · split at failed
      · exact isError failed
      · cases failed
  · exact isError failed

theorem parseOptions_error
    {arguments : List Text} {cmd error : CliCommand}
    (failed : parseOptions arguments cmd = .error error) :
    IsUsageError error := by
  fun_induction parseOptions arguments cmd with
  | case1 => cases failed
  | case2 => cases failed; exact isUsageError_errorCommand _
  | case3 => cases failed; exact isUsageError_errorCommand _
  | case4 name cmd _ value more error applied =>
      cases failed
      exact applyOption_error applied
  | case5 name cmd _ value more next applied inductionHypothesis =>
      exact inductionHypothesis failed

/-! ## Command lines -/

/-- The arguments are the words of a topic command and its options. -/
inductive CommandLine :
    List Text → CliCommandKind → Text → List (Text × Text) → Prop
  | list (program : Text) (options : List (Text × Text)) :
      CommandLine
        (program :: "topic".toList :: "list".toList :: onCommandLine options)
        .topicList [] options
  | echo (program : Text) {topic : Text} (options : List (Text × Text))
      (noOption : isOptionToken topic = false) :
      CommandLine
        (program :: "topic".toList :: "echo".toList :: topic ::
          onCommandLine options)
        .topicEcho topic options
  | hz (program : Text) {topic : Text} (options : List (Text × Text))
      (noOption : isOptionToken topic = false) :
      CommandLine
        (program :: "topic".toList :: "hz".toList :: topic ::
          onCommandLine options)
        .topicHz topic options

theorem CommandLine.unique
    {args : List Text} {kind other : CliCommandKind} {topic otherTopic : Text}
    {options otherOptions : List (Text × Text)}
    (first : CommandLine args kind topic options)
    (second : CommandLine args other otherTopic otherOptions) :
    kind = other ∧ topic = otherTopic ∧ options = otherOptions := by
  generalize equal : args = same at second
  cases first with
  | list program options =>
      cases second with
      | list other otherOptions =>
          simp only [List.cons.injEq, true_and] at equal
          exact ⟨rfl, rfl, onCommandLine_injective equal.2⟩
      | echo other otherOptions noOption => simp at equal
      | hz other otherOptions noOption => simp at equal
  | echo program options noOption =>
      cases second with
      | list other otherOptions => simp at equal
      | echo other otherOptions noOption =>
          simp only [List.cons.injEq, true_and] at equal
          exact ⟨rfl, equal.2.1, onCommandLine_injective equal.2.2⟩
      | hz other otherOptions noOption => simp at equal
  | hz program options noOption =>
      cases second with
      | list other otherOptions => simp at equal
      | echo other otherOptions noOption => simp at equal
      | hz other otherOptions noOption =>
          simp only [List.cons.injEq, true_and] at equal
          exact ⟨rfl, equal.2.1, onCommandLine_injective equal.2.2⟩

/-- The command that accepted options make. -/
def given (kind : CliCommandKind) (topic : Text) (options : List (Text × Text)) :
    CliCommand :=
  options.foldl setOption { kind, topic }

/-- The words and the options are accepted. -/
structure Accepted (args : List Text) (kind : CliCommandKind) (topic : Text)
    (options : List (Text × Text)) : Prop where
  shape : CommandLine args kind topic options
  accepts : ∀ option ∈ options, Accepts kind option
  typed : kind ≠ .topicList → (lastValue options typeOption).getD [] ≠ []

theorem typeName_given
    (kind : CliCommandKind) (topic : Text) (options : List (Text × Text)) :
    (given kind topic options).typeName =
      (lastValue options typeOption).getD [] := by
  have typeConfig : typeOption ≠ configOption := by decide
  have last :=
    foldl_eq_lastValue setOption CliCommand.typeName id typeOption
      (fun cmd value => by simp [setOption, typeConfig])
      (by
        intro cmd option other
        unfold setOption
        split_ifs <;> rfl)
      options { kind, topic }
  rwa [Option.map_id] at last

theorem parseOptions_given
    {kind : CliCommandKind} {options : List (Text × Text)}
    (accepts : ∀ option ∈ options, Accepts kind option) (topic : Text) :
    parseOptions (onCommandLine options) { kind, topic } =
      .ok (given kind topic options) :=
  parseOptions_eq_ok_iff.mpr ⟨options, rfl, accepts, rfl⟩

/-- `parse_cli_args` returns what the options of an accepted command line
give. -/
theorem parseCliArgs_of_accepted
    {args : List Text} {kind : CliCommandKind} {topic : Text}
    {options : List (Text × Text)}
    (accepted : Accepted args kind topic options) :
    parseCliArgs args = given kind topic options := by
  have parsed := parseOptions_given accepted.accepts
  have typed := accepted.typed
  rw [← typeName_given kind topic] at typed
  cases accepted.shape with
  | list program =>
      rw [parseCliArgs, if_neg (by decide), if_neg (by decide), parseTopicCommand,
        if_neg (by simp), if_pos rfl, parseList, parsed []]
  | echo program _ noOption =>
      rw [parseCliArgs, if_neg (by decide), if_neg (by decide), parseTopicCommand,
        if_neg (by simp), if_neg (by decide), if_pos (by decide), parseWithTopic,
        if_neg (by simp [noOption])]
      dsimp only
      rw [if_pos rfl, parsed topic]
      exact if_neg (typed (by decide))
  | hz program _ noOption =>
      rw [parseCliArgs, if_neg (by decide), if_neg (by decide), parseTopicCommand,
        if_neg (by simp), if_neg (by decide), if_pos (by decide), parseWithTopic,
        if_neg (by simp [noOption])]
      dsimp only
      rw [if_neg (by decide), parsed topic]
      exact if_neg (typed (by decide))

/-- What the tool does where it takes no command: the help text or an
error. -/
def IsRefused (cmd : CliCommand) : Prop :=
  cmd.kind = .help ∧ cmd.exitCode = 0 ∨ IsUsageError cmd

theorem isRefused_helpCommand : IsRefused helpCommand :=
  .inl ⟨rfl, rfl⟩

theorem isRefused_errorCommand (message : Text) :
    IsRefused (errorCommand message) :=
  .inr (isUsageError_errorCommand message)

theorem parseList_cases (program : Text) (arguments : List Text) :
    IsRefused (parseList arguments) ∨
      ∃ options,
        Accepted
          (program :: "topic".toList :: "list".toList :: arguments)
          .topicList [] options := by
  unfold parseList
  cases parsed : parseOptions arguments { kind := .topicList } with
  | error error => exact .inl (.inr (parseOptions_error parsed))
  | ok cmd =>
      obtain ⟨options, rfl, accepts, _⟩ := parseOptions_eq_ok_iff.mp parsed
      exact .inr ⟨options, .list program options, accepts, by simp⟩

theorem parseWithTopic_cases
    {subcommand : Text}
    (word : subcommand = "echo".toList ∨ subcommand = "hz".toList)
    (program : Text) (arguments : List Text) :
    IsRefused (parseWithTopic subcommand arguments) ∨
      ∃ kind topic options,
        Accepted (program :: "topic".toList :: subcommand :: arguments)
          kind topic options := by
  cases arguments with
  | nil => exact .inl (isRefused_errorCommand _)
  | cons topic arguments =>
      rw [parseWithTopic]
      split
      · exact .inl (isRefused_errorCommand _)
      rename_i noOption
      have plain : isOptionToken topic = false := by simpa using noOption
      dsimp only
      split
      · rename_i parsed
        exact .inl (.inr (parseOptions_error parsed))
      rename_i cmd parsed
      split
      · exact .inl (isRefused_errorCommand _)
      rename_i typed
      obtain ⟨options, rfl, accepts, folded⟩ := parseOptions_eq_ok_iff.mp parsed
      have named : (lastValue options typeOption).getD [] ≠ [] := by
        rw [← typeName_given _ topic, given, folded]
        exact typed
      refine .inr ⟨_, topic, options, ?_, accepts, fun _ => named⟩
      rcases word with rfl | rfl
      · exact .echo program options plain
      · exact .hz program options plain

/-- Any other arguments get the help text or an error. -/
theorem parseCliArgs_cases (args : List Text) :
    IsRefused (parseCliArgs args) ∨
      ∃ kind topic options, Accepted args kind topic options := by
  unfold parseCliArgs
  split
  · exact .inl isRefused_helpCommand
  · exact .inl isRefused_helpCommand
  · rename_i program command rest
    split
    · exact .inl isRefused_helpCommand
    split
    · exact .inl (isRefused_errorCommand _)
    rename_i topicWord
    obtain rfl := Decidable.not_not.mp topicWord
    unfold parseTopicCommand
    split
    · exact .inl (isRefused_errorCommand _)
    split
    · exact .inl isRefused_helpCommand
    split
    · rename_i listWord
      subst listWord
      rcases parseList_cases program _ with refused | ⟨options, accepted⟩
      · exact .inl refused
      · exact .inr ⟨_, _, options, accepted⟩
    split
    · rename_i word
      exact parseWithTopic_cases word program _
    · exact .inl (isRefused_errorCommand _)

theorem waitMs_given
    (kind : CliCommandKind) (topic : Text) (options : List (Text × Text)) :
    (given kind topic options).waitMs =
      ((lastValue options waitMsOption).map readInt).getD 1500 := by
  have waitConfig : waitMsOption ≠ configOption := by decide
  have waitType : waitMsOption ≠ typeOption := by decide
  exact foldl_eq_lastValue setOption CliCommand.waitMs readInt waitMsOption
    (fun cmd value => by simp [setOption, waitConfig, waitType])
    (by
      intro cmd option other
      unfold setOption
      split_ifs <;> rfl)
    options { kind, topic }

theorem count_given
    (kind : CliCommandKind) (topic : Text) (options : List (Text × Text)) :
    (given kind topic options).count =
      ((lastValue options countOption).map readInt).getD 0 := by
  have countConfig : countOption ≠ configOption := by decide
  have countType : countOption ≠ typeOption := by decide
  have countWait : countOption ≠ waitMsOption := by decide
  exact foldl_eq_lastValue setOption CliCommand.count readInt countOption
    (fun cmd value => by simp [setOption, countConfig, countType, countWait])
    (by
      intro cmd option other
      unfold setOption
      split_ifs <;> rfl)
    options { kind, topic }

theorem window_given
    (kind : CliCommandKind) (topic : Text) (options : List (Text × Text)) :
    (given kind topic options).window =
      ((lastValue options windowOption).map readInt).getD 10 := by
  have windowConfig : windowOption ≠ configOption := by decide
  have windowType : windowOption ≠ typeOption := by decide
  have windowWait : windowOption ≠ waitMsOption := by decide
  have windowCount : windowOption ≠ countOption := by decide
  exact foldl_eq_lastValue setOption CliCommand.window readInt windowOption
    (fun cmd value => by
      simp [setOption, windowConfig, windowType, windowWait, windowCount])
    (by
      intro cmd option other
      unfold setOption
      split_ifs <;> rfl)
    options { kind, topic }

/-! ## The numbers of a command -/

/-- The value is the number that the last text of an option denotes, or the
default where the option is not given. -/
def GivesNumber (options : List (Text × Text)) (name : Text)
    (default value : Int) : Prop :=
  match lastValue options name with
  | none => value = default
  | some text => Denotes text value

/-- No option that is given has a negative number for its last value. -/
def NoneNegative (options : List (Text × Text)) : Prop :=
  ∀ name ∈ numericOptions, ∀ text,
    lastValue options name = some text → ¬ IsNegative text

/-- The numbers are within their ranges and what the options say. -/
structure NumbersMeant (options : List (Text × Text)) (cmd : CliCommand) :
    Prop where
  waitMs : 0 ≤ cmd.waitMs ∧ GivesNumber options waitMsOption 1500 cmd.waitMs
  count : 0 ≤ cmd.count ∧ GivesNumber options countOption 0 cmd.count
  window : 2 ≤ cmd.window ∧ GivesNumber options windowOption 10 cmd.window

/-- What is read from the last text of a numeric option. -/
theorem lastValue_accepted
    {kind : CliCommandKind} {options : List (Text × Text)}
    (accepts : ∀ option ∈ options, Accepts kind option)
    {name text : Text} (numeric : name ∈ numericOptions)
    (last : lastValue options name = some text) :
    ∃ parsed, parseNonNegativeInt text = some parsed ∧ readInt text = parsed ∧
      (name = windowOption → 2 ≤ parsed) := by
  have noText : ¬ (name = configOption ∨ name = typeOption) := by
    revert numeric
    unfold numericOptions
    simp only [List.mem_cons, List.not_mem_nil, or_false]
    rintro (rfl | rfl | rfl) <;> decide
  obtain ⟨_, value⟩ := accepts _ (mem_of_lastValue_eq_some last)
  rw [if_neg noText] at value
  obtain ⟨parsed, read, window⟩ := value
  exact ⟨parsed, read, by rw [readInt, read]; rfl, window⟩

/-- The number of one option is meant exactly if its text is not negative. -/
theorem givesNumber_iff
    {kind : CliCommandKind} {options : List (Text × Text)}
    (accepts : ∀ option ∈ options, Accepts kind option)
    {name : Text} (numeric : name ∈ numericOptions)
    {default value : Int} (nonneg : 0 ≤ default)
    (given : value = ((lastValue options name).map readInt).getD default) :
    0 ≤ value ∧ GivesNumber options name default value ↔
      ∀ text, lastValue options name = some text → ¬ IsNegative text := by
  unfold GivesNumber
  cases last : lastValue options name with
  | none =>
      have same : value = default := by simpa [last] using given
      simp [same, nonneg]
  | some text =>
      obtain ⟨parsed, read, value', _⟩ := lastValue_accepted accepts numeric last
      have same : value = parsed := by simpa [last, value'] using given
      subst same
      simpa using denotes_parsed_iff read

theorem two_le_window
    {kind : CliCommandKind} {options : List (Text × Text)}
    (accepts : ∀ option ∈ options, Accepts kind option) (topic : Text) :
    2 ≤ (given kind topic options).window := by
  rw [window_given]
  cases last : lastValue options windowOption with
  | none => decide
  | some text =>
      obtain ⟨parsed, _, read, large⟩ :=
        lastValue_accepted accepts (by decide) last
      simpa [read] using large rfl

theorem numbersMeant_iff
    {kind : CliCommandKind} {options : List (Text × Text)}
    (accepts : ∀ option ∈ options, Accepts kind option) (topic : Text) :
    NumbersMeant options (given kind topic options) ↔ NoneNegative options := by
  have waitMs :=
    givesNumber_iff accepts (by decide) (by decide)
      (waitMs_given kind topic options)
  have count :=
    givesNumber_iff accepts (by decide) (by decide)
      (count_given kind topic options)
  have window :=
    givesNumber_iff accepts (by decide) (by decide)
      (window_given kind topic options)
  have large := two_le_window accepts topic
  constructor
  · intro meant name numeric
    unfold numericOptions at numeric
    simp only [List.mem_cons, List.not_mem_nil, or_false] at numeric
    rcases numeric with rfl | rfl | rfl
    · exact waitMs.mp meant.waitMs
    · exact count.mp meant.count
    · exact window.mp ⟨by omega, meant.window.2⟩
  · intro fine
    exact
      { waitMs := waitMs.mpr (fine waitMsOption (by decide))
        count := count.mpr (fine countOption (by decide))
        window := ⟨large, (window.mpr (fine windowOption (by decide))).2⟩ }

/-! ## What is returned -/

/-- The commands that the tool runs. -/
def IsTopicCommand (kind : CliCommandKind) : Prop :=
  kind = .topicList ∨ kind = .topicEcho ∨ kind = .topicHz

/-- What is returned is a topic command with allowed options, a type and a
topic where it needs them and the numbers that its options say, or it is the
help text or a usage error. -/
structure CommandMeans (args : List Text) (cmd : CliCommand) : Prop where
  topicCommand : IsTopicCommand cmd.kind →
    ∃ options, CommandLine args cmd.kind cmd.topic options ∧
      (∀ option ∈ options,
        isOptionAllowed cmd.kind option.1 = true ∧
          isOptionToken option.2 = false) ∧
      (cmd.kind ≠ .topicList →
        cmd.typeName ≠ [] ∧ isOptionToken cmd.topic = false) ∧
      NumbersMeant options cmd
  otherwise : ¬ IsTopicCommand cmd.kind → IsRefused cmd

theorem isOptionToken_value
    {kind : CliCommandKind} {option : Text × Text}
    (accepts : Accepts kind option) :
    isOptionToken option.2 = false := by
  obtain ⟨_, value⟩ := accepts
  split at value
  · exact value
  · obtain ⟨parsed, read, _⟩ := value
    have noMinus := (parseNonNegativeInt_eq_some_iff.mp read).1
    unfold isOptionToken
    cases text : option.2 with
    | nil => rfl
    | cons char rest =>
        have other : char ≠ '-' := by simpa [text] using noMinus
        simp [List.isPrefixOf, Ne.symm other]

theorem CommandLine.isTopicCommand
    {args : List Text} {kind : CliCommandKind} {topic : Text}
    {options : List (Text × Text)}
    (shape : CommandLine args kind topic options) :
    IsTopicCommand kind := by
  cases shape with
  | list => exact .inl rfl
  | echo => exact .inr (.inl rfl)
  | hz => exact .inr (.inr rfl)

theorem CommandLine.noOption
    {args : List Text} {kind : CliCommandKind} {topic : Text}
    {options : List (Text × Text)}
    (shape : CommandLine args kind topic options)
    (withTopic : kind ≠ .topicList) :
    isOptionToken topic = false := by
  cases shape with
  | list => exact absurd rfl withTopic
  | echo program options noOption => exact noOption
  | hz program options noOption => exact noOption

theorem not_isTopicCommand_of_isRefused
    {cmd : CliCommand} (refused : IsRefused cmd) :
    ¬ IsTopicCommand cmd.kind := by
  unfold IsTopicCommand
  rcases refused with ⟨help, _⟩ | ⟨error, _⟩
  · simp [help]
  · simp [error]

theorem commandMeans_of_accepted
    {args : List Text} {kind : CliCommandKind} {topic : Text}
    {options : List (Text × Text)}
    (accepted : Accepted args kind topic options) :
    CommandMeans args (given kind topic options) ↔ NoneNegative options := by
  have kindOf : (given kind topic options).kind = kind :=
    kind_foldl_setOption options _
  have topicOf : (given kind topic options).topic = topic :=
    topic_foldl_setOption options _
  have topicCommand := accepted.shape.isTopicCommand
  rw [← numbersMeant_iff accepted.accepts topic]
  constructor
  · intro means
    obtain ⟨others, shape, _, _, meant⟩ :=
      means.topicCommand (by rwa [kindOf])
    obtain ⟨_, _, rfl⟩ := shape.unique accepted.shape
    exact meant
  · intro meant
    refine ⟨fun _ => ⟨options, ?_, ?_, ?_, meant⟩, fun other => ?_⟩
    · rw [kindOf, topicOf]
      exact accepted.shape
    · intro option member
      have accepts := accepted.accepts option member
      rw [kindOf]
      exact ⟨accepts.1, isOptionToken_value accepts⟩
    · rw [kindOf, topicOf, typeName_given]
      exact fun withTopic =>
        ⟨accepted.typed withTopic, accepted.shape.noOption withTopic⟩
    · rw [kindOf] at other
      exact absurd topicCommand other

/-- What is returned means what the arguments say exactly if these are no
acceptable command, or no number that counts is negative. -/
theorem parse_cli_args_means_iff (args : List Text) :
    CommandMeans args (parseCliArgs args) ↔
      ∀ kind topic options, Accepted args kind topic options →
        NoneNegative options := by
  constructor
  · intro means kind topic options accepted
    rw [parseCliArgs_of_accepted accepted] at means
    exact (commandMeans_of_accepted accepted).mp means
  · intro fine
    rcases parseCliArgs_cases args with refused | ⟨kind, topic, options, accepted⟩
    · exact
        ⟨fun topicCommand =>
          absurd topicCommand (not_isTopicCommand_of_isRefused refused),
          fun _ => refused⟩
    · rw [parseCliArgs_of_accepted accepted]
      exact (commandMeans_of_accepted accepted).mpr
        (fine kind topic options accepted)

/-- A blank in front of the minus sign. -/
theorem parse_cli_args_negative :
    let args :=
      ["mm", "topic", "list", "--wait-ms", " -5"].map String.toList
    (parseCliArgs args).kind = .topicList ∧ (parseCliArgs args).waitMs = -5 ∧
      ¬ CommandMeans args (parseCliArgs args) := by
  intro args
  have listed : (parseCliArgs args).kind = .topicList := by decide +kernel
  have negative : (parseCliArgs args).waitMs = -5 := by decide +kernel
  refine ⟨listed, negative, fun means => ?_⟩
  obtain ⟨options, _, _, _, meant⟩ := means.topicCommand (.inl listed)
  have nonneg := meant.waitMs.1
  omega

end MiniMiddleware.Cli
