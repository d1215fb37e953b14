import MiniMiddleware.Transport.TcpServerTransport

/-!
# Streams of frames, cut and corrupted

What `decode` does is decided by the whole byte string: it has exactly one
decomposition into admissible frames and an incomplete or oversized tail.  A
decoder that is fed a stream of frames in chunks has therefore taken, after
each chunk, what one call would have taken from all bytes so far.
-/

namespace MiniMiddleware.Transport

namespace FrameCodec

/-! ## The decomposition of a byte string -/

/-- Admissible frames followed by a tail that no frame can be taken from. -/
structure Decomposition (buffer : Bytes) (payloads : List Bytes)
    (tail : Bytes) : Prop where
  fit : AllFit payloads
  split : buffer = frames payloads ++ tail
  stuck : Incomplete tail ∨ Oversized tail

/-- An incomplete tail is kept, and everything before it has been taken. -/
def KeepsTail (buffer : Bytes) : Prop :=
  buffer = frames (decode buffer).1 ++ (decode buffer).2 ∧
    Incomplete (decode buffer).2

/-- An oversized tail is dropped. -/
def DropsTail (buffer : Bytes) : Prop :=
  (decode buffer).2 = [] ∧
    ∃ tail, buffer = frames (decode buffer).1 ++ tail ∧ Oversized tail

theorem not_incomplete_of_oversized
    {buffer : Bytes} (oversized : Oversized buffer) : ¬Incomplete buffer := by
  rintro (short | ⟨admissible, _⟩)
  · exact absurd oversized.1 (by omega)
  · exact absurd oversized.2 (by omega)

/-- An incomplete tail is smaller than the largest frame. -/
theorem Incomplete.length_lt {buffer : Bytes} (incomplete : Incomplete buffer) :
    buffer.length < headerSize + maxPayloadSize := by
  rcases incomplete with short | ⟨admissible, missing⟩
  · omega
  · omega

theorem Decomposition.decode_payloads
    {buffer : Bytes} {payloads : List Bytes} {tail : Bytes}
    (decomposed : Decomposition buffer payloads tail) :
    (decode buffer).1 = payloads := by
  have decoded := decode_frames_append decomposed.fit tail
  rw [← decomposed.split] at decoded
  have silent : (decode tail).1 = [] := by
    rcases decomposed.stuck with incomplete | oversized
    · rw [decode_of_incomplete incomplete]
    · rw [decode_of_oversized oversized]
  rw [decoded, silent, List.append_nil]

theorem Decomposition.tail_unique
    {buffer : Bytes} {payloads others : List Bytes} {tail rest : Bytes}
    (decomposed : Decomposition buffer payloads tail)
    (other : Decomposition buffer others rest) :
    payloads = others ∧ tail = rest := by
  have same : payloads = others :=
    decomposed.decode_payloads.symm.trans other.decode_payloads
  refine ⟨same, ?_⟩
  have split := decomposed.split.symm.trans other.split
  rw [same] at split
  exact List.append_cancel_left split

/-- Behind a decoder that kept its tail, decoding goes on as if the bytes had
come at once. -/
theorem decode_append_of_keepsTail
    {buffer : Bytes} (keeps : KeepsTail buffer) (more : Bytes) :
    decode (buffer ++ more) =
      ((decode buffer).1 ++ (decode ((decode buffer).2 ++ more)).1,
        (decode ((decode buffer).2 ++ more)).2) := by
  obtain ⟨payloads, tail, fit, _, outcome⟩ := decode_cases buffer
  have taken : (decode buffer).1 = payloads := by
    rcases outcome with ⟨_, decoded⟩ | ⟨_, decoded⟩ <;> rw [decoded]
  have resumed :=
    decode_frames_append (taken ▸ fit) ((decode buffer).2 ++ more)
  rw [← List.append_assoc, ← keeps.1] at resumed
  exact resumed

/-- A part of a stream of frames never contains an oversized header. -/
theorem keepsTail_of_frames
    {buffer rest : Bytes} {stream : List Bytes}
    (fit : AllFit stream) (split : buffer ++ rest = frames stream) :
    KeepsTail buffer := by
  obtain ⟨payloads, tail, payloadsFit, whole, outcome⟩ := decode_cases buffer
  rcases outcome with ⟨incomplete, decoded⟩ | ⟨oversized, decoded⟩
  · unfold KeepsTail
    rw [decoded]
    exact ⟨whole, incomplete⟩
  · -- The dropped tail would have to continue as frames of the stream.
    rw [whole, List.append_assoc] at split
    obtain ⟨later, rfl, remaining⟩ :=
      frames_append_eq_frames payloadsFit fit split
    exact absurd oversized
      (not_oversized_of_frames (allFit_append.mp fit).2 remaining)

/-- `decode` on arbitrary bytes. -/
theorem decode_decomposes (buffer : Bytes) :
    AllFit (decode buffer).1 ∧
      (KeepsTail buffer ∧
          (decode buffer).2.length < headerSize + maxPayloadSize ∧
          decode (decode buffer).2 = ([], (decode buffer).2) ∨
        DropsTail buffer) ∧
      (∃ payloads tail,
        Decomposition buffer payloads tail ∧
          ∀ others rest, Decomposition buffer others rest →
            others = payloads ∧ rest = tail) ∧
      ¬(KeepsTail buffer ∧ DropsTail buffer) ∧
      (DropsTail buffer ↔
        ∃ payloads tail,
          AllFit payloads ∧ buffer = frames payloads ++ tail ∧
            Oversized tail) := by
  obtain ⟨payloads, tail, fit, split, outcome⟩ := decode_cases buffer
  have stuck : Incomplete tail ∨ Oversized tail := by
    rcases outcome with ⟨incomplete, _⟩ | ⟨oversized, _⟩
    · exact Or.inl incomplete
    · exact Or.inr oversized
  have decomposed : Decomposition buffer payloads tail := ⟨fit, split, stuck⟩
  have taken := decomposed.decode_payloads
  have drops :
      ∀ others rest, AllFit others → buffer = frames others ++ rest →
        Oversized rest → DropsTail buffer := by
    intro others rest othersFit whole oversized
    have other : Decomposition buffer others rest :=
      ⟨othersFit, whole, Or.inr oversized⟩
    refine ⟨?_, rest, ?_, oversized⟩
    · rw [whole, decode_frames_append othersFit, decode_of_oversized oversized]
    · rw [other.decode_payloads]
      exact whole
  refine ⟨taken.symm ▸ fit, ?_, ⟨payloads, tail, decomposed, ?_⟩, ?_, ?_⟩
  · rcases outcome with ⟨incomplete, decoded⟩ | ⟨oversized, decoded⟩
    · refine Or.inl ?_
      rw [KeepsTail, decoded]
      exact ⟨⟨split, incomplete⟩, incomplete.length_lt,
        decode_of_incomplete incomplete⟩
    · exact Or.inr (drops payloads tail fit split oversized)
  · intro others rest other
    exact other.tail_unique decomposed
  · rintro ⟨keeps, _, dropped, whole, oversized⟩
    -- Both tails follow the same frames, so the oversized one is the kept one.
    have same := List.append_cancel_left (keeps.1.symm.trans whole)
    exact not_incomplete_of_oversized oversized (same ▸ keeps.2)
  · constructor
    · rintro ⟨_, dropped, whole, oversized⟩
      exact ⟨_, dropped, taken.symm ▸ fit, whole, oversized⟩
    · rintro ⟨others, rest, othersFit, whole, oversized⟩
      exact drops others rest othersFit whole oversized

/-! ## Chunks -/

theorem feed_append (earlier later : List Bytes) (buffer : Bytes) :
    feed buffer (earlier ++ later) =
      ((feed buffer earlier).1 ++ (feed (feed buffer earlier).2 later).1,
        (feed (feed buffer earlier).2 later).2) := by
  induction earlier generalizing buffer with
  | nil =>
      rfl
  | cons chunk earlier inductionHypothesis =>
      simp only [List.cons_append, feed, inductionHypothesis,
        List.append_assoc]

/-- Fed with any part of a stream of frames, the decoder has taken what one
call takes from all these bytes. -/
theorem feed_eq_decode
    {fed : List Bytes} {rest : Bytes} {stream : List Bytes}
    (fit : AllFit stream) (split : fed.flatten ++ rest = frames stream) :
    feed [] fed = decode fed.flatten := by
  induction fed using List.reverseRecOn generalizing rest with
  | nil =>
      exact (decode_of_incomplete incomplete_nil).symm
  | append_singleton fed chunk inductionHypothesis =>
      rw [List.flatten_concat, List.append_assoc] at split
      have keeps := keepsTail_of_frames fit split
      rw [feed_append, inductionHypothesis split, List.flatten_concat,
        decode_append_of_keepsTail keeps chunk]
      simp only [feed, List.append_nil]

/-- Framing survives every way of cutting the stream. -/
theorem feed_frames
    (payloads : List Bytes) (fit : AllFit payloads)
    (chunks : List Bytes) (cut : chunks.flatten = frames payloads) :
    feed [] chunks = (payloads, []) ∧
      ∀ fed later, chunks = fed ++ later →
        fed.flatten = frames (feed [] fed).1 ++ (feed [] fed).2 ∧
          Incomplete (feed [] fed).2 ∧
          (feed [] fed).1 ++ (feed (feed [] fed).2 later).1 = payloads := by
  have complete : feed [] chunks = (payloads, []) := by
    have split : chunks.flatten ++ [] = frames payloads := by
      rw [List.append_nil, cut]
    rw [feed_eq_decode fit split, cut, decode_frames fit]
  refine ⟨complete, ?_⟩
  rintro fed later rfl
  rw [List.flatten_append] at cut
  have keeps := keepsTail_of_frames fit cut
  rw [feed_append] at complete
  refine ⟨?_, ?_, congrArg Prod.fst complete⟩
  · rw [feed_eq_decode fit cut]
    exact keeps.1
  · rw [feed_eq_decode fit cut]
    exact keeps.2

/-- An empty and a two-byte payload, cut inside both headers. -/
theorem feed_frames_two :
    AllFit [[], [7, 8]] ∧
      feed [] [[0, 0], [], [0, 0, 0, 0], [0, 2, 7], [8]] =
        ([[], [7, 8]], []) :=
  ⟨by decide,
    (feed_frames [[], [7, 8]] (by decide)
      [[0, 0], [], [0, 0, 0, 0], [0, 2, 7], [8]] (by decide)).1⟩

end FrameCodec

end MiniMiddleware.Transport
