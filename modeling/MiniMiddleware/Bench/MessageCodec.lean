import MiniMiddleware.Common.CLibrary
import MiniMiddleware.Common.Protobuf

/-!
# The messages of the benchmark

A payload is the id of the run, the sequence number and the time of sending,
each behind a separator, padded to the length of the run's payloads.  It
travels as the `data` of a `StringMsg`, and over TCP inside a `DataMessage`.

Sizes are counted without overflow: a text that exists is far shorter than
`2 ^ 63` bytes.
-/

namespace MiniMiddleware.Bench

open MiniMiddleware.Protobuf

/-- `kMaxBenchmarkRunIdBytes`: three numbers of up to `digits10 + 1` digits
and two separators. -/
def kMaxBenchmarkRunIdBytes : Nat := 3 * (19 + 1) + 2

/-- A payload before the padding. -/
def payloadHeader (runId : Text) (sequence sendNs : Nat) : Text :=
  runId ++ '|' :: decimal sequence ++ '|' :: decimal sendNs ++ ['|']

/-- `make_benchmark_payload`. -/
def makeBenchmarkPayload (runId : Text) (sequence sendNs payloadBytes : Nat) :
    Text :=
  let payload := payloadHeader runId sequence sendNs
  if payload.length < payloadBytes then
    payload ++ List.replicate (payloadBytes - payload.length) 'x'
  else
    payload

/-- `minimum_benchmark_payload_bytes`. -/
def minimumBenchmarkPayloadBytes (runId : Text) (count : Nat) : Nat :=
  let maxSequence := if count = 0 then 0 else count - 1
  (makeBenchmarkPayload runId maxSequence (2 ^ 64 - 1) 0).length

/-- `effective_benchmark_payload_bytes`. -/
def effectiveBenchmarkPayloadBytes (requestedPayloadBytes count : Nat) : Nat :=
  let metadataBytes :=
    minimumBenchmarkPayloadBytes
      (List.replicate kMaxBenchmarkRunIdBytes '0') count
  max requestedPayloadBytes metadataBytes

/-- `StringMsg`, serialized. -/
def stringMsg (data : List UInt8) : List UInt8 :=
  bytesField 10 data

/-- `DataMessage`, serialized. -/
def dataMessage (topic : Text) (payload : List UInt8) : List UInt8 :=
  bytesField 10 (textBytes topic) ++ bytesField 18 payload

/-- `serialized_string_message_size`. -/
def serializedStringMessageSize (payloadBytes : Nat) : Nat :=
  bytesFieldSize payloadBytes

/-- `tcp_frame_payload_size`. -/
def tcpFramePayloadSize (topic : Text) (payloadBytes : Nat) : Nat :=
  if maxMessageSize < serializedStringMessageSize payloadBytes then
    2 ^ 64 - 1
  else
    bytesFieldSize topic.length +
      bytesFieldSize (serializedStringMessageSize payloadBytes)

/-- `BenchmarkMessageMetadata`. -/
structure BenchmarkMessageMetadata where
  runId : Text
  sequence : Nat
  sendNs : UInt64
  deriving DecidableEq, Repr

/-- `parse_unsigned` for a number of 64 bits. -/
def parseUnsigned (text : Text) : Option Nat :=
  if text = [] then
    none
  else
    match fromChars text with
    | some (value, []) => some value
    | _ => none

/-- `find` of a separator: what is in front of it and what is behind it. -/
def cutAtSeparator (text : Text) : Option (Text × Text) :=
  match text.dropWhile (· ≠ '|') with
  | [] => none
  | _ :: behind => some (text.takeWhile (· ≠ '|'), behind)

/-- `parse_benchmark_payload`. -/
def parseBenchmarkPayload (payload : Text) : Option BenchmarkMessageMetadata := do
  let (runId, behindFirst) ← cutAtSeparator payload
  let (sequenceText, behindSecond) ← cutAtSeparator behindFirst
  let (timestampText, _) ← cutAtSeparator behindSecond
  if runId = [] then
    none
  else
    let sequence ← parseUnsigned sequenceText
    let sendNs ← parseUnsigned timestampText
    return { runId, sequence, sendNs := UInt64.ofNat sendNs }

/-! ## Run ids -/

/-- `make_run_id`: a time and two random numbers. -/
def makeRunId (time : UInt64) (first second : UInt32) : Text :=
  decimal time.toNat ++ '-' :: decimal first.toNat ++ '-' ::
    decimal second.toNat

theorem length_decimal_le
    {number digits : Nat} (some : 0 < digits) (below : number < 10 ^ digits) :
    (decimal number).length ≤ digits :=
  (Nat.length_toDigits_le_iff (by omega) some).mpr below

theorem length_decimal_mono
    {first second : Nat} (le : first ≤ second) :
    (decimal first).length ≤ (decimal second).length := by
  have some : 0 < (decimal second).length := Nat.length_toDigits_pos
  have below : second < 10 ^ (decimal second).length :=
    (Nat.length_toDigits_le_iff (by omega) some).mp (Nat.le_refl _)
  exact length_decimal_le some (by omega)

theorem length_makeRunId_le (time : UInt64) (first second : UInt32) :
    (makeRunId time first second).length ≤ kMaxBenchmarkRunIdBytes := by
  have timeDigits : (decimal time.toNat).length ≤ 20 :=
    length_decimal_le (by omega) (by have := time.toNat_lt; omega)
  have firstDigits : (decimal first.toNat).length ≤ 10 :=
    length_decimal_le (by omega) (by have := first.toNat_lt; omega)
  have secondDigits : (decimal second.toNat).length ≤ 10 :=
    length_decimal_le (by omega) (by have := second.toNat_lt; omega)
  simp only [makeRunId, kMaxBenchmarkRunIdBytes, List.length_append,
    List.length_cons]
  omega

/-! ## Sizes -/

theorem length_payloadHeader (runId : Text) (sequence sendNs : Nat) :
    (payloadHeader runId sequence sendNs).length =
      runId.length + (decimal sequence).length + (decimal sendNs).length + 3 := by
  simp only [payloadHeader, List.length_append, List.length_cons,
    List.length_nil]
  omega

/-- A payload is padded to its length, unless its header is longer. -/
theorem length_makeBenchmarkPayload
    (runId : Text) (sequence sendNs payloadBytes : Nat) :
    (makeBenchmarkPayload runId sequence sendNs payloadBytes).length =
      max payloadBytes (payloadHeader runId sequence sendNs).length := by
  unfold makeBenchmarkPayload
  dsimp only
  split
  · rw [List.length_append, List.length_replicate]
    omega
  · omega

/-- The header of any message of a run fits the effective payload size. -/
theorem length_payloadHeader_le
    {runId : Text} (bounded : runId.length ≤ kMaxBenchmarkRunIdBytes)
    {sequence count : Nat} (within : sequence < count)
    {sendNs : Nat} (word : sendNs < 2 ^ 64) (requestedPayloadBytes : Nat) :
    (payloadHeader runId sequence sendNs).length ≤
      effectiveBenchmarkPayloadBytes requestedPayloadBytes count := by
  have sequenceDigits :
      (decimal sequence).length ≤ (decimal (count - 1)).length :=
    length_decimal_mono (by omega)
  have timeDigits :
      (decimal sendNs).length ≤ (decimal (2 ^ 64 - 1)).length :=
    length_decimal_mono (by omega)
  have minimum :
      minimumBenchmarkPayloadBytes
          (List.replicate kMaxBenchmarkRunIdBytes '0') count =
        kMaxBenchmarkRunIdBytes + (decimal (count - 1)).length +
          (decimal (2 ^ 64 - 1)).length + 3 := by
    rw [minimumBenchmarkPayloadBytes, if_neg (by omega),
      length_makeBenchmarkPayload, length_payloadHeader, List.length_replicate,
      Nat.zero_max]
  rw [effectiveBenchmarkPayloadBytes, minimum, length_payloadHeader]
  omega

/-- Every message of a run has exactly the effective payload size. -/
theorem length_makeBenchmarkPayload_effective
    {runId : Text} (bounded : runId.length ≤ kMaxBenchmarkRunIdBytes)
    {sequence count : Nat} (within : sequence < count)
    {sendNs : Nat} (word : sendNs < 2 ^ 64) (requestedPayloadBytes : Nat) :
    (makeBenchmarkPayload runId sequence sendNs
        (effectiveBenchmarkPayloadBytes requestedPayloadBytes count)).length =
      effectiveBenchmarkPayloadBytes requestedPayloadBytes count := by
  rw [length_makeBenchmarkPayload]
  exact Nat.max_eq_left (length_payloadHeader_le bounded within word _)

@[simp]
theorem length_stringMsg (data : List UInt8) :
    (stringMsg data).length = serializedStringMessageSize data.length :=
  length_bytesField 10 data

@[simp]
theorem length_dataMessage (topic : Text) (payload : List UInt8) :
    (dataMessage topic payload).length =
      bytesFieldSize topic.length + bytesFieldSize payload.length := by
  simp [dataMessage]

/-! ## Reading a payload back -/

theorem cutAtSeparator_append
    {front : Text} (free : '|' ∉ front) (behind : Text) :
    cutAtSeparator (front ++ '|' :: behind) = some (front, behind) := by
  have passes : ∀ char ∈ front, decide (char ≠ '|') = true := by
    intro char member
    exact decide_eq_true fun same => free (same ▸ member)
  unfold cutAtSeparator
  rw [List.dropWhile_append_of_pos passes, List.takeWhile_append_of_pos passes]
  simp

theorem parseUnsigned_decimal
    {number : Nat} (word : number < 2 ^ 64) :
    parseUnsigned (decimal number) = some number := by
  have digits := isDecimal_decimal number
  have read : fromChars (decimal number) = some (number, []) := by
    rw [fromChars, takeWhile_isDecimal digits, dropWhile_isDecimal digits,
      digitsValue_decimal]
    exact if_neg (not_or.mpr ⟨digits.1, Nat.not_le.mpr word⟩)
  rw [parseUnsigned, if_neg digits.1, read]

/-- A payload tells the run, the sequence number and the time that it was made
from. -/
theorem parseBenchmarkPayload_makeBenchmarkPayload
    {runId : Text} (named : runId ≠ []) (free : '|' ∉ runId)
    {sequence : Nat} (word : sequence < 2 ^ 64) (sendNs : UInt64)
    (payloadBytes : Nat) :
    parseBenchmarkPayload
        (makeBenchmarkPayload runId sequence sendNs.toNat payloadBytes) =
      some { runId, sequence, sendNs } := by
  have padded : ∃ padding,
      makeBenchmarkPayload runId sequence sendNs.toNat payloadBytes =
        runId ++ '|' :: (decimal sequence ++ '|' ::
          (decimal sendNs.toNat ++ '|' :: padding)) := by
    unfold makeBenchmarkPayload payloadHeader
    dsimp only
    split
    · exact ⟨_, by simp; rfl⟩
    · exact ⟨[], by simp⟩
  obtain ⟨padding, shape⟩ := padded
  rw [shape, parseBenchmarkPayload, cutAtSeparator_append free]
  simp only [Option.bind_eq_bind, Option.bind_some,
    cutAtSeparator_append (notMem_decimal (by decide) _), if_neg named,
    parseUnsigned_decimal word, parseUnsigned_decimal sendNs.toNat_lt,
    UInt64.ofNat_toNat]
  rfl

end MiniMiddleware.Bench
