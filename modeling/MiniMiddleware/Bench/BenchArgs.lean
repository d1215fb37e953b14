import MiniMiddleware.Bench.MessageCodec
import MiniMiddleware.Common.CLibrary
import MiniMiddleware.Core.DataPlane
import MiniMiddleware.Library.Options
import MiniMiddleware.Transport.FrameCodec

/-!
# The arguments of the benchmark

Options and their values are taken in turn; then the payload size is raised to
what the header of a message needs, and a run whose messages would not fit
their transport is refused.  Numbers are read with `strtoull`, that skips white
space before it looks for a sign and negates modulo `2 ^ 64`.

An argument holds no NUL character.
-/

namespace MiniMiddleware.Bench

open MiniMiddleware.Core MiniMiddleware.Library MiniMiddleware.Transport

/-- `kMaxBenchmarkCount`. -/
def kMaxBenchmarkCount : Nat := 100000

/-- `BenchMode`. -/
inductive BenchMode where
  | shm
  | tcp
  deriving DecidableEq, Repr

/-- `BenchOptions`. -/
structure BenchOptions where
  mode : BenchMode := .shm
  count : Nat := 10000
  requestedPayloadBytes : Nat := 256
  payloadBytes : Nat := 256
  topic : Text := "/bench".toList
  deriving DecidableEq, Repr

/-- `ParseResult`. -/
structure ParseResult where
  ok : Bool := false
  help : Bool := false
  exitCode : Nat := 2
  message : Text := []
  options : BenchOptions := {}
  deriving DecidableEq, Repr

/-- `bench_usage`. -/
def benchUsage : Text :=
  ("Usage:\n" ++
      "  mm_bench [--mode shm|tcp] [--count N] [--payload-bytes N] [--topic NAME]\n" ++
      "  mm_bench --help\n" ++
      "\n" ++
      "--count N must be between 1 and ").toList ++
    decimal kMaxBenchmarkCount ++ ".\n".toList

/-- `help_result`. -/
def helpResult : ParseResult :=
  { ok := true, help := true, exitCode := 0, message := benchUsage }

/-- `error_result`. -/
def errorResult (message : Text) : ParseResult :=
  { ok := false, help := false, exitCode := 2,
    message := message ++ "\n\n".toList ++ benchUsage }

/-! ## Options -/

def helpOption : Text := "--help".toList
def modeOption : Text := "--mode".toList
def countOption : Text := "--count".toList
def payloadBytesOption : Text := "--payload-bytes".toList
def topicOption : Text := "--topic".toList

/-- `is_option_token`. -/
def isOptionToken (text : Text) : Bool :=
  "--".toList.isPrefixOf text

/-- `parse_positive_size`. -/
def parsePositiveSize (text : Text) : Option Nat :=
  if text = [] ∨ text.head? = some '-' then
    none
  else
    let read := strtoull text
    if read.outOfRange ∨ read.rest = text ∨ read.rest ≠ [] ∨ read.value = 0 ∨
        2 ^ 64 - 1 < read.value then
      none
    else
      some read.value.toNat

/-- What `read_option_value` says. -/
def valueRequired (name : Text) : ParseResult :=
  errorResult (name ++ " requires a value".toList)

/-- What the loop does with the value of `--mode`. -/
def applyMode (options : BenchOptions) (value : Text) :
    Except ParseResult BenchOptions :=
  if value = "shm".toList then .ok { options with mode := .shm }
  else if value = "tcp".toList then .ok { options with mode := .tcp }
  else .error (errorResult ("unsupported mode: ".toList ++ value))

/-- What the loop does with the value of `--count`. -/
def applyCount (options : BenchOptions) (value : Text) :
    Except ParseResult BenchOptions :=
  match parsePositiveSize value with
  | none => .error (errorResult "--count must be positive".toList)
  | some count =>
      if kMaxBenchmarkCount < count then
        .error
          (errorResult
            ("--count must not exceed ".toList ++ decimal kMaxBenchmarkCount ++
              " for this demo benchmark".toList))
      else
        .ok { options with count }

/-- What the loop does with the value of `--payload-bytes`. -/
def applyPayloadBytes (options : BenchOptions) (value : Text) :
    Except ParseResult BenchOptions :=
  match parsePositiveSize value with
  | none =>
      .error (errorResult "--payload-bytes must be a positive integer".toList)
  | some payloadBytes => .ok { options with payloadBytes }

/-- The assignment of one option. -/
def applyOption (options : BenchOptions) (name value : Text) :
    Except ParseResult BenchOptions :=
  if name = modeOption then applyMode options value
  else if name = countOption then applyCount options value
  else if name = payloadBytesOption then applyPayloadBytes options value
  else .ok { options with topic := value }

/-- The options that the loop looks for. -/
def valueOptions : List Text :=
  [modeOption, countOption, payloadBytesOption, topicOption]

/-- The loop of `parse_bench_args`: the options, or the result it returns
with. -/
def parseOptions : List Text → BenchOptions → Except ParseResult BenchOptions
  | [], options => .ok options
  | arg :: rest, options =>
      if arg = helpOption then
        .error helpResult
      else if arg ∈ valueOptions then
        match rest with
        | [] => .error (valueRequired arg)
        | value :: more =>
            if isOptionToken value then
              .error (valueRequired arg)
            else
              match applyOption options arg value with
              | .error result => .error result
              | .ok next => parseOptions more next
      else if isOptionToken arg then
        .error (errorResult ("unknown option: ".toList ++ arg))
      else
        .error (errorResult ("unexpected argument: ".toList ++ arg))

/-! ## Sizes -/

/-- The size checks of mode `shm`. -/
def validateShm (options : BenchOptions) : ParseResult :=
  let serializedSize := serializedStringMessageSize options.payloadBytes
  if kShmSlotCapacity < options.payloadBytes then
    errorResult
      ("SHM payload alone exceeds the ".toList ++ decimal kShmSlotCapacity ++
        "-byte slot; use --mode tcp for larger payloads".toList)
  else if kShmSlotCapacity < serializedSize then
    errorResult
      ("serialized benchmark message is ".toList ++ decimal serializedSize ++
        " bytes and exceeds the ".toList ++ decimal kShmSlotCapacity ++
        "-byte SHM slot; use --mode tcp for larger payloads".toList)
  else
    { ok := true, exitCode := 0, options }

/-- The size checks of mode `tcp`. -/
def validateTcp (options : BenchOptions) : ParseResult :=
  let framePayloadSize := tcpFramePayloadSize options.topic options.payloadBytes
  if FrameCodec.maxPayloadSize < options.payloadBytes then
    errorResult
      ("TCP frame payload exceeds the ".toList ++
        decimal FrameCodec.maxPayloadSize ++ "-byte FrameCodec limit".toList)
  else if FrameCodec.maxPayloadSize < framePayloadSize then
    errorResult
      ("TCP frame payload is ".toList ++ decimal framePayloadSize ++
        " bytes and exceeds the ".toList ++ decimal FrameCodec.maxPayloadSize ++
        "-byte FrameCodec limit".toList)
  else
    { ok := true, exitCode := 0, options }

/-- The options of a run: the payload size is the effective one. -/
def effectiveOptions (options : BenchOptions) : BenchOptions :=
  { options with
    requestedPayloadBytes := options.payloadBytes
    payloadBytes :=
      effectiveBenchmarkPayloadBytes options.payloadBytes options.count }

/-- The end of `parse_bench_args`. -/
def validateSize (options : BenchOptions) : ParseResult :=
  match options.mode with
  | .shm => validateShm options
  | .tcp => validateTcp options

/-- `parse_bench_args`. -/
def parseBenchArgs (args : List Text) : ParseResult :=
  match parseOptions args.tail {} with
  | .error result => result
  | .ok options => validateSize (effectiveOptions options)

end MiniMiddleware.Bench
