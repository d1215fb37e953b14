import MiniMiddleware.Transport.ShmRing
import Mathlib.Data.UInt

/-!
# Length-prefixed frames

A frame on a TCP stream is a four-byte big-endian length followed by that many
bytes.  `decode` takes as many complete frames as it can from the front of a
receive buffer and leaves an incomplete tail for the next call; a length above
the maximum makes it drop the whole buffer.

`frames` is the byte stream of a list of payloads.  Every buffer is such a
stream followed by a tail that is either `Incomplete` or `Oversized`, and this
decides what `decode` does with it.
-/

namespace MiniMiddleware.Transport

namespace FrameCodec

/-- `HEADER_SIZE`. -/
def headerSize : Nat := 4

/-- `MAX_PAYLOAD_SIZE`. -/
def maxPayloadSize : Nat := 16 * 1024 * 1024

/-- `write_uint32_be`. -/
def writeUint32Be (value : UInt32) : Bytes :=
  [((value >>> 24) &&& 0xFF).toUInt8,
    ((value >>> 16) &&& 0xFF).toUInt8,
    ((value >>> 8) &&& 0xFF).toUInt8,
    (value &&& 0xFF).toUInt8]

/-- `read_uint32_be`. -/
def readUint32Be (src : Bytes) : UInt32 :=
  (List.range 4).foldl
    (fun value i =>
      value ||| (src.getD i 0).toUInt32 <<< UInt32.ofNat (8 * (3 - i)))
    0

/-- `FrameCodec::encode`: no frame at all for an oversized payload. -/
def encode (payload : Bytes) : Bytes :=
  if maxPayloadSize < payload.length then
    []
  else
    writeUint32Be (UInt32.ofNat payload.length) ++ payload

/-- The length announced at the front of a buffer. -/
def announced (buffer : Bytes) : Nat :=
  (readUint32Be buffer).toNat

/-- `FrameCodec::decode`: the messages taken, and what is left of the
buffer. -/
def decode (buffer : Bytes) : List Bytes × Bytes :=
  if headerSize ≤ buffer.length then
    let length := announced buffer
    if maxPayloadSize < length then
      ([], [])
    else if buffer.length < headerSize + length then
      ([], buffer)
    else
      let rest := decode (buffer.drop (length + headerSize))
      ((buffer.drop headerSize).take length :: rest.1, rest.2)
  else
    ([], buffer)
termination_by buffer.length
decreasing_by
  simp only [headerSize, List.length_drop] at *
  omega

/-! ## The header word -/

theorem announced_cons
    (first second third fourth : UInt8) (rest : Bytes) :
    announced (first :: second :: third :: fourth :: rest) =
      2 ^ 24 * first.toNat + 2 ^ 16 * second.toNat + 2 ^ 8 * third.toNat +
        fourth.toNat := by
  have firstBound := first.toNat_lt
  have secondBound := second.toNat_lt
  have thirdBound := third.toNat_lt
  have fourthBound := fourth.toNat_lt
  have upper :=
    Nat.two_pow_add_eq_or_of_lt
      (show 2 ^ 16 * second.toNat < 2 ^ 24 by omega) first.toNat
  have middle :=
    Nat.two_pow_add_eq_or_of_lt
      (show 2 ^ 8 * third.toNat < 2 ^ 16 by omega)
      (2 ^ 8 * first.toNat + second.toNat)
  have lower :=
    Nat.two_pow_add_eq_or_of_lt
      (show fourth.toNat < 2 ^ 8 by omega)
      (2 ^ 16 * first.toNat + 2 ^ 8 * second.toNat + third.toNat)
  simp only [announced, readUint32Be, List.range_succ, List.range_zero,
    List.nil_append, List.cons_append, List.foldl_cons, List.foldl_nil,
    UInt32.toNat_or, UInt32.toNat_shiftLeft, Nat.shiftLeft_eq]
  simp
  rw [Nat.mod_eq_of_lt (by omega), Nat.mod_eq_of_lt (by omega),
    Nat.mod_eq_of_lt (by omega)]
  grind

theorem exists_header {buffer : Bytes} (header : headerSize ≤ buffer.length) :
    ∃ first second third fourth rest,
      buffer = first :: second :: third :: fourth :: rest := by
  rcases buffer with
    _ | ⟨first, _ | ⟨second, _ | ⟨third, _ | ⟨fourth, rest⟩⟩⟩⟩
  case cons.cons.cons.cons =>
    exact ⟨first, second, third, fourth, rest, rfl⟩
  all_goals
    simp [headerSize] at header

/-- The announced length only depends on the first four bytes. -/
theorem announced_append
    {buffer : Bytes} (more : Bytes) (header : headerSize ≤ buffer.length) :
    announced (buffer ++ more) = announced buffer := by
  obtain ⟨first, second, third, fourth, rest, rfl⟩ := exists_header header
  simp only [List.cons_append, announced_cons]

private theorem toNat_lowByte (value : UInt32) :
    (value &&& 0xFF).toUInt8.toNat = value.toNat % 256 := by
  rw [UInt32.toNat_toUInt8, UInt32.toNat_and]
  simp only [UInt32.reduceToNat]
  rw [Nat.and_two_pow_sub_one_eq_mod _ 8]
  omega

theorem announced_writeUint32Be (value : UInt32) (rest : Bytes) :
    announced (writeUint32Be value ++ rest) = value.toNat := by
  have bound := value.toNat_lt
  simp only [writeUint32Be, List.cons_append, List.nil_append, announced_cons,
    toNat_lowByte, UInt32.toNat_shiftRight, UInt32.reduceToNat, Nat.reduceMod,
    Nat.reducePow, Nat.shiftRight_eq_div_pow]
  omega

/-- Writing back the announced length restores the header. -/
theorem writeUint32Be_announced
    (first second third fourth : UInt8) (rest : Bytes) :
    writeUint32Be
        (UInt32.ofNat
          (announced (first :: second :: third :: fourth :: rest))) =
      [first, second, third, fourth] := by
  have firstBound := first.toNat_lt
  have secondBound := second.toNat_lt
  have thirdBound := third.toNat_lt
  have fourthBound := fourth.toNat_lt
  rw [announced_cons]
  generalize length :
    2 ^ 24 * first.toNat + 2 ^ 16 * second.toNat + 2 ^ 8 * third.toNat +
      fourth.toNat = number
  have word : (UInt32.ofNat number).toNat = number :=
    UInt32.toNat_ofNat_of_lt' (by simp only [UInt32.size]; omega)
  simp only [writeUint32Be, List.cons.injEq, and_true]
  refine ⟨?_, ?_, ?_, ?_⟩
  all_goals
    apply UInt8.toNat_inj.mp
    simp only [toNat_lowByte, UInt32.toNat_shiftRight, UInt32.reduceToNat,
      Nat.reduceMod, Nat.reducePow,
      Nat.shiftRight_eq_div_pow, word]
    omega

/-! ## Frames, incomplete tails and oversized headers -/

/-- The byte stream of a list of payloads. -/
def frames (payloads : List Bytes) : Bytes :=
  (payloads.map encode).flatten

/-- Every payload fits into a frame. -/
def AllFit (payloads : List Bytes) : Prop :=
  ∀ payload ∈ payloads, payload.length ≤ maxPayloadSize

/-- A buffer without a complete frame at its front, but with an admissible
header as far as it has one. -/
def Incomplete (buffer : Bytes) : Prop :=
  buffer.length < headerSize ∨
    announced buffer ≤ maxPayloadSize ∧
      buffer.length < headerSize + announced buffer

/-- A buffer whose header announces more than the maximum. -/
def Oversized (buffer : Bytes) : Prop :=
  headerSize ≤ buffer.length ∧ maxPayloadSize < announced buffer

instance (payloads : List Bytes) : Decidable (AllFit payloads) :=
  inferInstanceAs (Decidable (∀ payload ∈ payloads, _))

instance (buffer : Bytes) : Decidable (Incomplete buffer) :=
  inferInstanceAs (Decidable (_ ∨ _))

instance (buffer : Bytes) : Decidable (Oversized buffer) :=
  inferInstanceAs (Decidable (_ ∧ _))

@[simp]
theorem frames_nil : frames [] = [] :=
  rfl

@[simp]
theorem frames_cons (payload : Bytes) (payloads : List Bytes) :
    frames (payload :: payloads) = encode payload ++ frames payloads :=
  rfl

@[simp]
theorem frames_append (earlier later : List Bytes) :
    frames (earlier ++ later) = frames earlier ++ frames later := by
  simp [frames]

theorem allFit_append {earlier later : List Bytes} :
    AllFit (earlier ++ later) ↔ AllFit earlier ∧ AllFit later := by
  simp [AllFit, or_imp, forall_and]

theorem encode_of_fits
    {payload : Bytes} (fits : payload.length ≤ maxPayloadSize) :
    encode payload =
      writeUint32Be (UInt32.ofNat payload.length) ++ payload := by
  rw [encode, if_neg (by omega)]

theorem encode_of_oversize
    {payload : Bytes} (large : maxPayloadSize < payload.length) :
    encode payload = [] := by
  rw [encode, if_pos large]

theorem length_encode
    {payload : Bytes} (fits : payload.length ≤ maxPayloadSize) :
    (encode payload).length = headerSize + payload.length := by
  rw [encode_of_fits fits, List.length_append]
  rfl

theorem announced_encode
    {payload : Bytes} (fits : payload.length ≤ maxPayloadSize)
    (more : Bytes) :
    announced (encode payload ++ more) = payload.length := by
  rw [encode_of_fits fits, List.append_assoc, announced_writeUint32Be]
  simp only [maxPayloadSize] at fits
  exact UInt32.toNat_ofNat_of_lt' (by simp only [UInt32.size]; omega)

/-! ## Decoding -/

theorem decode_of_incomplete {buffer : Bytes} (incomplete : Incomplete buffer) :
    decode buffer = ([], buffer) := by
  rw [decode]
  rcases incomplete with short | ⟨admissible, missing⟩
  · rw [if_neg (by omega)]
  · split
    · rw [if_neg (by omega), if_pos missing]
    · rfl

theorem decode_of_oversized {buffer : Bytes} (oversized : Oversized buffer) :
    decode buffer = ([], []) := by
  rw [decode, if_pos oversized.1, if_pos oversized.2]

/-- A complete frame at the front is taken, and decoding goes on behind it. -/
theorem decode_encode_append
    {payload : Bytes} (fits : payload.length ≤ maxPayloadSize)
    (more : Bytes) :
    decode (encode payload ++ more) =
      (payload :: (decode more).1, (decode more).2) := by
  have size := length_encode fits
  have length := announced_encode fits more
  have header :
      (writeUint32Be (UInt32.ofNat payload.length)).length = headerSize := rfl
  have behind :
      (encode payload ++ more).drop (payload.length + headerSize) = more :=
    List.drop_left' (by omega)
  have inside :
      ((encode payload ++ more).drop headerSize).take payload.length =
        payload := by
    rw [encode_of_fits fits, List.append_assoc, List.drop_left' header,
      List.take_left' rfl]
  rw [decode]
  simp only [length]
  rw [if_pos (by rw [List.length_append]; omega), if_neg (by omega),
    if_neg (by rw [List.length_append]; omega), behind, inside]

theorem decode_frames_append
    {payloads : List Bytes} (fit : AllFit payloads) (more : Bytes) :
    decode (frames payloads ++ more) =
      (payloads ++ (decode more).1, (decode more).2) := by
  induction payloads with
  | nil =>
      rfl
  | cons payload payloads inductionHypothesis =>
      have fits := fit payload List.mem_cons_self
      have rest := inductionHypothesis fun other member =>
        fit other (List.mem_cons_of_mem _ member)
      rw [frames_cons, List.append_assoc, decode_encode_append fits, rest]
      rfl

theorem incomplete_nil : Incomplete [] :=
  Or.inl (by decide)

/-- A stream of admissible frames is decoded completely. -/
theorem decode_frames {payloads : List Bytes} (fit : AllFit payloads) :
    decode (frames payloads) = (payloads, []) := by
  have decoded := decode_frames_append fit []
  rw [decode_of_incomplete incomplete_nil] at decoded
  simpa using decoded

/-- A buffer that starts with a complete, admissible frame. -/
theorem eq_encode_append
    {buffer : Bytes}
    (header : headerSize ≤ buffer.length)
    (admissible : announced buffer ≤ maxPayloadSize)
    (complete : headerSize + announced buffer ≤ buffer.length) :
    ∃ payload more : Bytes,
      payload.length ≤ maxPayloadSize ∧ buffer = encode payload ++ more := by
  obtain ⟨first, second, third, fourth, rest, rfl⟩ := exists_header header
  have word := writeUint32Be_announced first second third fourth rest
  generalize
    announced (first :: second :: third :: fourth :: rest) = length at *
  have taken : (rest.take length).length = length := by
    simp only [headerSize, List.length_cons] at complete
    rw [List.length_take]
    omega
  refine ⟨rest.take length, rest.drop length, by omega, ?_⟩
  rw [encode_of_fits (by omega), taken, word]
  simp

/-- Every buffer is a stream of admissible frames followed by an incomplete
tail, which `decode` keeps, or by an oversized one, which it drops. -/
theorem decode_cases (buffer : Bytes) :
    ∃ (payloads : List Bytes) (tail : Bytes),
      AllFit payloads ∧ buffer = frames payloads ++ tail ∧
        (Incomplete tail ∧ decode buffer = (payloads, tail) ∨
          Oversized tail ∧ decode buffer = (payloads, [])) := by
  induction size : buffer.length using Nat.strong_induction_on
    generalizing buffer with
  | _ size inductionHypothesis =>
      by_cases oversized : Oversized buffer
      · exact ⟨[], buffer, by simp [AllFit], rfl,
          Or.inr ⟨oversized, decode_of_oversized oversized⟩⟩
      by_cases incomplete : Incomplete buffer
      · exact ⟨[], buffer, by simp [AllFit], rfl,
          Or.inl ⟨incomplete, decode_of_incomplete incomplete⟩⟩
      simp only [Incomplete, Oversized, not_or, not_and, not_lt] at *
      obtain ⟨payload, more, fits, rfl⟩ :=
        eq_encode_append incomplete.1 (oversized incomplete.1)
          (incomplete.2 (oversized incomplete.1))
      obtain ⟨payloads, tail, fit, rfl, outcome⟩ :=
        inductionHypothesis more.length
          (by rw [← size, List.length_append, length_encode fits]
              simp only [headerSize]
              omega) more rfl
      refine ⟨payload :: payloads, tail, ?_, by simp, ?_⟩
      · intro other member
        rcases List.mem_cons.mp member with rfl | member
        · exact fits
        · exact fit other member
      · rw [decode_encode_append fits]
        rcases outcome with ⟨kind, decoded⟩ | ⟨kind, decoded⟩
        · exact Or.inl ⟨kind, by rw [decoded]⟩
        · exact Or.inr ⟨kind, by rw [decoded]⟩

/-- Framing is unambiguous: frames at the front of a stream of frames are its
first payloads. -/
theorem frames_append_eq_frames
    {payloads stream : List Bytes} {tail : Bytes}
    (fit : AllFit payloads) (streamFit : AllFit stream)
    (equal : frames payloads ++ tail = frames stream) :
    ∃ later, stream = payloads ++ later ∧ tail = frames later := by
  have decoded := decode_frames_append fit tail
  rw [equal, decode_frames streamFit] at decoded
  have taken : stream = payloads ++ (decode tail).1 :=
    congrArg Prod.fst decoded
  refine ⟨(decode tail).1, taken, ?_⟩
  rw [taken, frames_append] at equal
  exact List.append_cancel_left equal

/-- Bytes behind an oversized header do not mend it. -/
theorem oversized_append
    {header : Bytes} (oversized : Oversized header) (garbage : Bytes) :
    Oversized (header ++ garbage) := by
  refine ⟨?_, ?_⟩
  · rw [List.length_append]
    exact Nat.le_add_right_of_le oversized.1
  · rw [announced_append garbage oversized.1]
    exact oversized.2

theorem not_oversized_of_frames
    {tail rest : Bytes} {stream : List Bytes}
    (fit : AllFit stream) (split : tail ++ rest = frames stream) :
    ¬Oversized tail := by
  intro oversized
  have decoded := decode_frames fit
  rw [← split, decode_of_oversized (oversized_append oversized rest)]
    at decoded
  cases decoded
  have size := oversized.1
  rw [frames_nil, List.append_eq_nil_iff] at split
  rw [split.1] at size
  simp [headerSize] at size

/-- Decoding a prefix of a stream of frames takes the first of them, and the
tail it keeps goes on with the others. -/
theorem decode_prefix_frames
    {buffer rest : Bytes} {stream : List Bytes}
    (fit : AllFit stream) (split : buffer ++ rest = frames stream) :
    ∃ later,
      stream = (decode buffer).1 ++ later ∧
        (decode buffer).2 ++ rest = frames later := by
  obtain ⟨payloads, tail, payloadsFit, rfl, outcome⟩ := decode_cases buffer
  rw [List.append_assoc] at split
  obtain ⟨later, rfl, remaining⟩ :=
    frames_append_eq_frames payloadsFit fit split
  rcases outcome with ⟨_, decoded⟩ | ⟨oversized, _⟩
  · exact ⟨later, by rw [decoded], by rw [decoded]; exact remaining⟩
  · exact absurd oversized
      (not_oversized_of_frames (allFit_append.mp fit).2 remaining)

end FrameCodec

end MiniMiddleware.Transport
