import MiniMiddleware.Bench.BenchArgs

/-!
# What accepted benchmark options mean

The options of an accepted run are names and values in turn, and a field holds
what was read from the last value of its option.  `parse_positive_size` looks
for a minus sign in front of white space only, so a size is the number in its
text exactly where this is not negative: `strtoull` turns a negative number
into a large one, or into a small one where it is close to `-2 ^ 64`.
-/

namespace MiniMiddleware.Bench

open MiniMiddleware.Core MiniMiddleware.Library MiniMiddleware.Protobuf
open MiniMiddleware.Transport

/-! ## Numbers -/

theorem parsePositiveSize_eq_some_iff {text : Text} {size : Nat} :
    parsePositiveSize text = some size ↔
      text.head? ≠ some '-' ∧ 0 < size ∧
        ∃ number, Denotes text number ∧ number.natAbs < 2 ^ 64 ∧
          (size : Int) = number % 2 ^ 64 := by
  unfold parsePositiveSize
  by_cases empty : text = []
  · rw [if_pos (Or.inl empty)]
    constructor
    · intro none
      cases none
    · rintro ⟨_, _, number, denotes, _⟩
      exact absurd empty denotes.ne_nil
  · by_cases minus : text.head? = some '-'
    · simp [minus]
    · have whole := @strtoull_eq_iff text empty
      rw [if_neg (by simp [empty, minus])]
      dsimp only
      generalize strtoull text = read at whole ⊢
      obtain ⟨value, outOfRange, rest⟩ := read
      simp only [Converted.mk.injEq] at whole
      constructor
      · intro accepted
        split at accepted
        · cases accepted
        · rename_i valid
          simp only [not_or, Bool.not_eq_true, Decidable.not_not] at valid
          obtain ⟨inRange, _, atEnd, notZero, _⟩ := valid
          obtain ⟨number, denotes, fits, rfl⟩ :=
            whole.mp ⟨rfl, inRange, atEnd⟩
          have small : 0 ≤ number % 2 ^ 64 := Int.emod_nonneg number (by decide)
          have same := Option.some.inj accepted
          dsimp only at same notZero
          exact ⟨minus, by omega, number, denotes, fits, by omega⟩
      · rintro ⟨_, positive, number, denotes, fits, same⟩
        obtain ⟨rfl, rfl, rfl⟩ := (@whole size).mpr ⟨number, denotes, fits, same⟩
        rw [if_neg, Int.toNat_natCast]
        simp only [Bool.false_eq_true, Ne.symm empty, ne_eq, not_true,
          false_or, not_or]
        omega

/-- What is read is the number that the text denotes, unless that is
negative. -/
theorem denotes_size_iff
    {text : Text} {size : Nat} (accepted : parsePositiveSize text = some size) :
    Denotes text size ↔ ¬ IsNegative text := by
  obtain ⟨_, _, number, denotes, fits, value⟩ :=
    parsePositiveSize_eq_some_iff.mp accepted
  constructor
  · intro same
    exact same.not_isNegative_iff.mpr (by omega)
  · intro notNegative
    have nonneg := denotes.not_isNegative_iff.mp notNegative
    have same : (size : Int) = number := by omega
    rw [same]
    exact denotes

/-! ## Options -/

/-- The value is one that the option takes. -/
def AcceptsValue (name value : Text) : Prop :=
  if name = modeOption then value = "shm".toList ∨ value = "tcp".toList
  else if name = countOption then
    ∃ count, parsePositiveSize value = some count ∧ count ≤ kMaxBenchmarkCount
  else if name = payloadBytesOption then
    ∃ size, parsePositiveSize value = some size
  else True

/-- The loop takes the option with this value. -/
structure Accepts (option : Text × Text) : Prop where
  known : option.1 ∈ valueOptions
  noOption : isOptionToken option.2 = false
  value : AcceptsValue option.1 option.2

/-- The size that is read from a value. -/
def readSize (value : Text) : Nat :=
  (parsePositiveSize value).getD 0

/-- The assignment that an accepted option makes. -/
def setOption (options : BenchOptions) (option : Text × Text) : BenchOptions :=
  if option.1 = modeOption then
    { options with mode := if option.2 = "shm".toList then .shm else .tcp }
  else if option.1 = countOption then
    { options with count := readSize option.2 }
  else if option.1 = payloadBytesOption then
    { options with payloadBytes := readSize option.2 }
  else
    { options with topic := option.2 }

/-- An assignment is made or written off as an error. -/
theorem applyOption_eq_ok_iff
    {options next : BenchOptions} {name value : Text} :
    applyOption options name value = .ok next ↔
      AcceptsValue name value ∧ setOption options (name, value) = next := by
  unfold applyOption AcceptsValue setOption readSize
  dsimp only
  split
  case isTrue =>
    unfold applyMode
    split
    · rename_i shm
      rw [Except.ok.injEq]
      exact ⟨fun set => ⟨.inl shm, set⟩, fun both => both.2⟩
    · rename_i notShm
      split
      · rename_i tcp
        rw [Except.ok.injEq]
        exact ⟨fun set => ⟨.inr tcp, set⟩, fun both => both.2⟩
      · rename_i notTcp
        constructor
        · intro failed
          cases failed
        · rintro ⟨shm | tcp, _⟩
          · exact absurd shm notShm
          · exact absurd tcp notTcp
  case isFalse =>
    split
    case isTrue =>
      unfold applyCount
      cases parsePositiveSize value with
      | none => simp
      | some count =>
          by_cases large : kMaxBenchmarkCount < count
          · simp [large, Nat.not_le.mpr large]
          · simp [large, Nat.not_lt.mp large]
    case isFalse =>
      split
      case isTrue =>
        unfold applyPayloadBytes
        cases parsePositiveSize value <;> simp
      case isFalse => simp

theorem helpOption_notMem : helpOption ∉ valueOptions := by
  decide

theorem parseOptions_pair
    (name value : Text) (rest : List Text) (options result : BenchOptions) :
    parseOptions (name :: value :: rest) options = .ok result ↔
      Accepts (name, value) ∧
        parseOptions rest (setOption options (name, value)) = .ok result := by
  rw [parseOptions]
  constructor
  · intro parsed
    split at parsed
    · cases parsed
    split at parsed
    · rename_i known
      split at parsed
      · cases parsed
      rename_i plain
      split at parsed
      · cases parsed
      · rename_i next applied
        obtain ⟨accepted, rfl⟩ := applyOption_eq_ok_iff.mp applied
        exact ⟨⟨known, by simpa using plain, accepted⟩, parsed⟩
    · split at parsed <;> cases parsed
  · rintro ⟨accepts, parsed⟩
    have notHelp : name ≠ helpOption := fun same =>
      helpOption_notMem (same ▸ accepts.known)
    have plain : isOptionToken value = false := accepts.noOption
    have applied :
        applyOption options name value = .ok (setOption options (name, value)) :=
      applyOption_eq_ok_iff.mpr ⟨accepts.value, rfl⟩
    rw [if_neg notHelp, if_pos accepts.known]
    simp only [plain, Bool.false_eq_true, if_false]
    rw [applied]
    exact parsed

/-- The loop accepts names and values in turn. -/
theorem parseOptions_eq_ok_iff
    {args : List Text} {options result : BenchOptions} :
    parseOptions args options = .ok result ↔
      ∃ given, args = onCommandLine given ∧
        (∀ option ∈ given, Accepts option) ∧
        given.foldl setOption options = result := by
  refine
    parse_eq_ok_iff (fun _ => True) (fun _ _ _ => trivial) (fun _ => rfl) ?_ ?_
      args trivial
  · intro name options result parsed
    rw [parseOptions] at parsed
    split_ifs at parsed
  · intro name value rest options result _
    exact parseOptions_pair name value rest options result

/-! ## Accepted runs -/

/-- The arguments are accepted as those of a run. -/
def ParseResult.IsRun (result : ParseResult) : Prop :=
  result.ok = true ∧ result.help = false

theorem not_isRun_errorResult (message : Text) : ¬ (errorResult message).IsRun :=
  fun run => Bool.false_ne_true run.1

theorem not_isRun_helpResult : ¬ helpResult.IsRun :=
  fun run => Bool.false_ne_true run.2.symm

theorem applyOption_error
    {options : BenchOptions} {name value : Text} {result : ParseResult}
    (failed : applyOption options name value = .error result) :
    ¬ result.IsRun := by
  have isError : ∀ {message : Text},
      Except.error (errorResult message) = Except.error (α := BenchOptions) result →
        ¬ result.IsRun := by
    rintro message ⟨⟩
    exact not_isRun_errorResult message
  unfold applyOption at failed
  split at failed
  · unfold applyMode at failed
    split at failed
    · cases failed
    split at failed
    · cases failed
    · exact isError failed
  split at failed
  · unfold applyCount at failed
    split at failed
    · exact isError failed
    split at failed
    · exact isError failed
    · cases failed
  split at failed
  · unfold applyPayloadBytes at failed
    split at failed
    · exact isError failed
    · cases failed
  · cases failed

theorem parseOptions_error
    {args : List Text} {options : BenchOptions} {result : ParseResult}
    (failed : parseOptions args options = .error result) :
    ¬ result.IsRun := by
  fun_induction parseOptions args options with
  | case1 => cases failed
  | case2 =>
      cases failed
      exact not_isRun_helpResult
  | case3 | case4 | case7 | case8 =>
      cases failed
      exact not_isRun_errorResult _
  | case5 =>
      rename_i applied
      cases failed
      exact applyOption_error applied
  | case6 =>
      rename_i inductionHypothesis
      exact inductionHypothesis failed

/-- A message of the run is at most as large as its transport carries: a
`StringMsg` in a slot, or its envelope in a frame. -/
def FitsTransport (options : BenchOptions) : Prop :=
  match options.mode with
  | .shm => bytesFieldSize options.payloadBytes ≤ kShmSlotCapacity
  | .tcp =>
      bytesFieldSize options.topic.length +
          bytesFieldSize (bytesFieldSize options.payloadBytes) ≤
        FrameCodec.maxPayloadSize

/-- The early check of the payload alone refuses nothing that fits. -/
theorem validateShm_of_fits
    {options : BenchOptions}
    (fits : bytesFieldSize options.payloadBytes ≤ kShmSlotCapacity) :
    validateShm options = { ok := true, exitCode := 0, options } := by
  have contents := le_bytesFieldSize options.payloadBytes
  rw [validateShm, if_neg (by omega), if_neg]
  unfold serializedStringMessageSize
  omega

theorem validateShm_of_large
    {options : BenchOptions}
    (large : kShmSlotCapacity < bytesFieldSize options.payloadBytes) :
    ¬ (validateShm options).IsRun := by
  unfold validateShm
  dsimp only
  split
  · exact not_isRun_errorResult _
  · rw [if_pos (show _ < serializedStringMessageSize _ from large)]
    exact not_isRun_errorResult _

/-- Where the payload alone fits a frame, its message is serialized. -/
theorem tcpFramePayloadSize_eq
    {payloadBytes : Nat} (fits : payloadBytes ≤ FrameCodec.maxPayloadSize)
    (topic : Text) :
    tcpFramePayloadSize topic payloadBytes =
      bytesFieldSize topic.length + bytesFieldSize (bytesFieldSize payloadBytes) := by
  have varint : varintSize payloadBytes ≤ 4 := by
    rw [varintSize_le_iff (by omega)]
    unfold FrameCodec.maxPayloadSize at fits
    omega
  have small : bytesFieldSize payloadBytes ≤ maxMessageSize := by
    unfold bytesFieldSize maxMessageSize
    unfold FrameCodec.maxPayloadSize at fits
    split <;> omega
  rw [tcpFramePayloadSize, if_neg]
  · rfl
  · unfold serializedStringMessageSize
    omega

theorem validateTcp_of_fits
    {options : BenchOptions}
    (fits :
      bytesFieldSize options.topic.length +
          bytesFieldSize (bytesFieldSize options.payloadBytes) ≤
        FrameCodec.maxPayloadSize) :
    validateTcp options = { ok := true, exitCode := 0, options } := by
  have contents := le_bytesFieldSize options.payloadBytes
  have message := le_bytesFieldSize (bytesFieldSize options.payloadBytes)
  have alone : options.payloadBytes ≤ FrameCodec.maxPayloadSize := by omega
  rw [validateTcp, if_neg (by omega), tcpFramePayloadSize_eq alone, if_neg]
  omega

theorem validateTcp_of_large
    {options : BenchOptions}
    (large :
      FrameCodec.maxPayloadSize <
        bytesFieldSize options.topic.length +
          bytesFieldSize (bytesFieldSize options.payloadBytes)) :
    ¬ (validateTcp options).IsRun := by
  unfold validateTcp
  dsimp only
  split
  · exact not_isRun_errorResult _
  · rename_i alone
    rw [tcpFramePayloadSize_eq (Nat.not_lt.mp alone), if_pos large]
    exact not_isRun_errorResult _

theorem validateSize_cases (options : BenchOptions) :
    FitsTransport options ∧
        validateSize options = { ok := true, exitCode := 0, options } ∨
      ¬ FitsTransport options ∧ ¬ (validateSize options).IsRun := by
  unfold FitsTransport validateSize
  cases options.mode with
  | shm =>
      rcases Nat.lt_or_ge kShmSlotCapacity (bytesFieldSize options.payloadBytes)
        with large | fits
      · exact .inr ⟨Nat.not_le.mpr large, validateShm_of_large large⟩
      · exact .inl ⟨fits, validateShm_of_fits fits⟩
  | tcp =>
      rcases Nat.lt_or_ge FrameCodec.maxPayloadSize
          (bytesFieldSize options.topic.length +
            bytesFieldSize (bytesFieldSize options.payloadBytes))
        with large | fits
      · exact .inr ⟨Nat.not_le.mpr large, validateTcp_of_large large⟩
      · exact .inl ⟨fits, validateTcp_of_fits fits⟩

/-- The options that accepted arguments give. -/
def runOptions (given : List (Text × Text)) : BenchOptions :=
  effectiveOptions (given.foldl setOption {})

theorem parseBenchArgs_of_accepted
    {args : List Text} {given : List (Text × Text)}
    (line : args.tail = onCommandLine given)
    (accepts : ∀ option ∈ given, Accepts option) :
    parseBenchArgs args = validateSize (runOptions given) := by
  have parsed : parseOptions args.tail {} = .ok (given.foldl setOption {}) :=
    parseOptions_eq_ok_iff.mpr ⟨given, line, accepts, rfl⟩
  rw [parseBenchArgs, parsed]
  rfl

theorem accepted_of_isRun
    {args : List Text} (run : (parseBenchArgs args).IsRun) :
    ∃ given, args.tail = onCommandLine given ∧
      ∀ option ∈ given, Accepts option := by
  cases parsed : parseOptions args.tail {} with
  | error result =>
      rw [parseBenchArgs, parsed] at run
      exact absurd run (parseOptions_error parsed)
  | ok options =>
      obtain ⟨given, line, accepts, _⟩ := parseOptions_eq_ok_iff.mp parsed
      exact ⟨given, line, accepts⟩

theorem options_of_isRun
    {args : List Text} (run : (parseBenchArgs args).IsRun)
    {given : List (Text × Text)} (line : args.tail = onCommandLine given)
    (accepts : ∀ option ∈ given, Accepts option) :
    (parseBenchArgs args).options = runOptions given := by
  rw [parseBenchArgs_of_accepted line accepts] at run ⊢
  rcases validateSize_cases (runOptions given) with ⟨_, same⟩ | ⟨_, refused⟩
  · rw [same]
  · exact absurd run refused

/-- Accepted options keep the number of messages within its bound. -/
theorem count_foldl_setOption_le
    {given : List (Text × Text)} (accepts : ∀ option ∈ given, Accepts option)
    {options : BenchOptions} (limited : options.count ≤ kMaxBenchmarkCount) :
    (given.foldl setOption options).count ≤ kMaxBenchmarkCount := by
  induction given generalizing options with
  | nil =>
      exact limited
  | cons option rest inductionHypothesis =>
      rw [List.foldl_cons]
      refine inductionHypothesis
        (fun other member => accepts other (List.mem_cons_of_mem option member))
        ?_
      have value := (accepts option List.mem_cons_self).value
      unfold AcceptsValue at value
      unfold setOption
      split
      · exact limited
      · rename_i notMode
        rw [if_neg notMode] at value
        split
        · rename_i isCount
          rw [if_pos isCount] at value
          obtain ⟨count, parsed, bounded⟩ := value
          rw [readSize, parsed]
          exact bounded
        · split <;> exact limited

theorem count_le_of_isRun
    {args : List Text} (run : (parseBenchArgs args).IsRun) :
    (parseBenchArgs args).options.count ≤ kMaxBenchmarkCount := by
  obtain ⟨given, line, accepts⟩ := accepted_of_isRun run
  rw [options_of_isRun run line accepts]
  exact count_foldl_setOption_le accepts (by decide)

/-! ## The sizes of a run -/

theorem count_runOptions (given : List (Text × Text)) :
    (runOptions given).count =
      ((lastValue given countOption).map readSize).getD 10000 := by
  have countMode : countOption ≠ modeOption := by decide
  exact foldl_eq_lastValue setOption BenchOptions.count readSize countOption
    (fun options value => by simp [setOption, countMode])
    (by
      intro options option other
      unfold setOption
      split_ifs <;> rfl)
    given {}

theorem requestedPayloadBytes_runOptions (given : List (Text × Text)) :
    (runOptions given).requestedPayloadBytes =
      ((lastValue given payloadBytesOption).map readSize).getD 256 := by
  have payloadMode : payloadBytesOption ≠ modeOption := by decide
  have payloadCount : payloadBytesOption ≠ countOption := by decide
  exact
    foldl_eq_lastValue setOption BenchOptions.payloadBytes readSize
      payloadBytesOption
      (fun options value => by simp [setOption, payloadMode, payloadCount])
      (by
        intro options option other
        unfold setOption
        split_ifs <;> rfl)
      given {}

/-- The value is the positive number that the last text of an option denotes,
or the default where the option is not given. -/
def GivesSize (given : List (Text × Text)) (name : Text)
    (default value : Nat) : Prop :=
  match lastValue given name with
  | none => value = default
  | some text => 0 < value ∧ Denotes text value

/-- The options whose value is a number. -/
def sizeOptions : List Text := [countOption, payloadBytesOption]

/-- No size that is given has a negative number for its last value. -/
def NoneNegative (given : List (Text × Text)) : Prop :=
  ∀ name ∈ sizeOptions, ∀ text,
    lastValue given name = some text → ¬ IsNegative text

/-- The sizes are what the arguments say. -/
structure SizesMeant (given : List (Text × Text)) (options : BenchOptions) :
    Prop where
  count : GivesSize given countOption 10000 options.count
  payloadBytes :
    GivesSize given payloadBytesOption 256 options.requestedPayloadBytes

theorem lastValue_accepted
    {given : List (Text × Text)} (accepts : ∀ option ∈ given, Accepts option)
    {name text : Text} (sized : name ∈ sizeOptions)
    (last : lastValue given name = some text) :
    parsePositiveSize text = some (readSize text) := by
  have value := (accepts _ (mem_of_lastValue_eq_some last)).value
  have named : name = countOption ∨ name = payloadBytesOption := by
    simpa [sizeOptions] using sized
  have read : ∃ size, parsePositiveSize text = some size := by
    unfold AcceptsValue at value
    dsimp only at value
    rcases named with rfl | rfl
    · rw [if_neg (by decide), if_pos rfl] at value
      obtain ⟨count, read, _⟩ := value
      exact ⟨count, read⟩
    · rwa [if_neg (by decide), if_neg (by decide), if_pos rfl] at value
  obtain ⟨size, read⟩ := read
  rw [readSize, read]
  rfl

/-- A size is meant exactly if its text is not negative. -/
theorem givesSize_iff
    {given : List (Text × Text)} (accepts : ∀ option ∈ given, Accepts option)
    {name : Text} (sized : name ∈ sizeOptions) {default value : Nat}
    (same : value = ((lastValue given name).map readSize).getD default) :
    GivesSize given name default value ↔
      ∀ text, lastValue given name = some text → ¬ IsNegative text := by
  unfold GivesSize
  cases last : lastValue given name with
  | none =>
      have isDefault : value = default := by simpa [last] using same
      simp [isDefault]
  | some text =>
      have read := lastValue_accepted accepts sized last
      have isRead : value = readSize text := by simpa [last] using same
      have positive := (parsePositiveSize_eq_some_iff.mp read).2.1
      rw [← isRead] at read positive
      simpa [positive] using denotes_size_iff read

theorem sizesMeant_iff
    {given : List (Text × Text)} (accepts : ∀ option ∈ given, Accepts option) :
    SizesMeant given (runOptions given) ↔ NoneNegative given := by
  have count :=
    givesSize_iff accepts (by decide) (count_runOptions given)
  have payloadBytes :=
    givesSize_iff accepts (by decide) (requestedPayloadBytes_runOptions given)
  constructor
  · intro meant name sized
    have named : name = countOption ∨ name = payloadBytesOption := by
      simpa [sizeOptions] using sized
    rcases named with rfl | rfl
    · exact count.mp meant.count
    · exact payloadBytes.mp meant.payloadBytes
  · intro fine
    exact
      { count := count.mpr (fine countOption (by decide))
        payloadBytes := payloadBytes.mpr (fine payloadBytesOption (by decide)) }

/-- The sizes of an accepted run are what its arguments say exactly if neither
is given as a negative number in the end. -/
theorem bench_sizes_meant_iff
    {args : List Text} (run : (parseBenchArgs args).IsRun) :
    (∃ given, args.tail = onCommandLine given ∧
        SizesMeant given (parseBenchArgs args).options) ↔
      ∀ given, args.tail = onCommandLine given → NoneNegative given := by
  obtain ⟨given, line, accepts⟩ := accepted_of_isRun run
  rw [options_of_isRun run line accepts]
  constructor
  · rintro ⟨other, otherLine, meant⟩ another anotherLine
    obtain rfl := onCommandLine_injective (otherLine.symm.trans line)
    obtain rfl := onCommandLine_injective (anotherLine.symm.trans line)
    exact (sizesMeant_iff accepts).mp meant
  · intro fine
    exact ⟨given, line, (sizesMeant_iff accepts).mpr (fine given line)⟩

/-- A count with a plus sign, and a payload size that is replaced. -/
theorem bench_sizes_meant_plus :
    let args :=
      ["mm_bench", "--payload-bytes", "1", "--count", "+7", "--payload-bytes",
        " 300"].map String.toList
    ∃ given, args.tail = onCommandLine given ∧
      SizesMeant given (parseBenchArgs args).options := by
  intro args
  let options :=
    [(payloadBytesOption, "1".toList), (countOption, "+7".toList),
      (payloadBytesOption, " 300".toList)]
  have run : (parseBenchArgs args).IsRun :=
    ⟨by decide +kernel, by decide +kernel⟩
  refine (bench_sizes_meant_iff run).mpr ?_
  intro given line
  obtain rfl : given = options := onCommandLine_injective line.symm
  have count : lastValue options countOption = some "+7".toList := by decide
  have payloadBytes :
      lastValue options payloadBytesOption = some " 300".toList := by decide
  have seven : Denotes "+7".toList 7 := denotes_iff.mpr (by decide)
  have large : Denotes " 300".toList 300 := denotes_iff.mpr (by decide)
  intro name sized text last
  have named : name = countOption ∨ name = payloadBytesOption := by
    simpa [sizeOptions] using sized
  rcases named with rfl | rfl
  · obtain rfl := Option.some.inj (count.symm.trans last)
    exact seven.not_isNegative_iff.mpr (by decide)
  · obtain rfl := Option.some.inj (payloadBytes.symm.trans last)
    exact large.not_isNegative_iff.mpr (by decide)

/-- A negative count that wraps around to five. -/
theorem bench_sizes_wrap :
    let args :=
      ["mm_bench", "--count", " -18446744073709551611"].map String.toList
    (parseBenchArgs args).IsRun ∧ (parseBenchArgs args).options.count = 5 ∧
      ¬ ∃ given, args.tail = onCommandLine given ∧
        SizesMeant given (parseBenchArgs args).options := by
  intro args
  let options := [(countOption, " -18446744073709551611".toList)]
  have five : (parseBenchArgs args).options.count = 5 := by decide +kernel
  refine ⟨⟨by decide +kernel, by decide +kernel⟩, five, ?_⟩
  rintro ⟨given, line, meant⟩
  obtain rfl : given = options := onCommandLine_injective line.symm
  have count :
      lastValue options countOption = some " -18446744073709551611".toList := by
    decide
  have size := meant.count
  rw [five] at size
  unfold GivesSize at size
  rw [count] at size
  have read := denotes_iff.mp size.2
  revert read
  decide +kernel

end MiniMiddleware.Bench
