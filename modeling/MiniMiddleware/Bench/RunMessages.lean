import MiniMiddleware.Bench.BenchArgsMeaning
import MiniMiddleware.Transport.ShmRingSequential

/-!
# The messages of an accepted run

All messages of a run have the effective payload size, so the size checks of
the arguments decide once and for all whether the transport takes them.
-/

namespace MiniMiddleware.Bench

open MiniMiddleware.Core MiniMiddleware.Library MiniMiddleware.Protobuf
open MiniMiddleware.Transport

/-- The payload of one message of a run. -/
def runPayload (options : BenchOptions) (runId : Text) (sequence : Nat)
    (sendNs : UInt64) : Text :=
  makeBenchmarkPayload runId sequence sendNs.toNat options.payloadBytes

/-- The transport of the run takes the message: the ring of a segment writes
it, or its envelope becomes a frame. -/
def IsCarried (options : BenchOptions) (message : Bytes) : Prop :=
  match options.mode with
  | .shm =>
      ∀ (ring : ShmRing) (memory : RingMemory),
        ring.slotSize = kShmSlotCapacity →
          (ring.writeString memory message).2 = true
  | .tcp =>
      let envelope := dataMessage options.topic message
      FrameCodec.encode envelope =
        FrameCodec.writeUint32Be (UInt32.ofNat envelope.length) ++ envelope

theorem isCarried_of_fits
    {options : BenchOptions} (fits : FitsTransport options)
    {payload : Text} (length : payload.length = options.payloadBytes) :
    IsCarried options (stringMsg (textBytes payload)) := by
  have size :
      (stringMsg (textBytes payload)).length =
        bytesFieldSize options.payloadBytes := by
    rw [length_stringMsg, length_textBytes, length]
    rfl
  unfold FitsTransport at fits
  unfold IsCarried
  cases mode : options.mode with
  | shm =>
      rw [mode] at fits
      intro ring memory capacity
      rw [ring.writeString_accepts_iff, size, capacity]
      exact (Nat.mod_le _ _).trans fits
  | tcp =>
      rw [mode] at fits
      refine FrameCodec.encode_of_fits ?_
      rw [length_dataMessage, size]
      exact fits

/-- What holds of a run whose options are syntactically valid. -/
structure RunFits (args : List Text) (options : BenchOptions) : Prop where
  effective :
    options.payloadBytes =
      effectiveBenchmarkPayloadBytes options.requestedPayloadBytes options.count
  payload : ∀ time first second sequence sendNs, sequence < options.count →
    (runPayload options (makeRunId time first second) sequence sendNs).length =
      options.payloadBytes
  accepted : (parseBenchArgs args).IsRun ↔ FitsTransport options
  carried : (parseBenchArgs args).IsRun →
    (parseBenchArgs args).options = options ∧
      ∀ time first second sequence sendNs, sequence < options.count →
        IsCarried options
          (stringMsg
            (textBytes
              (runPayload options (makeRunId time first second) sequence sendNs)))

/-- A run is accepted exactly if its messages fit the transport, and then all
of them have the payload size that was checked. -/
theorem bench_run_fits
    {args : List Text} {given : List (Text × Text)}
    (line : args.tail = onCommandLine given)
    (valid : ∀ option ∈ given, Accepts option) :
    RunFits args (runOptions given) := by
  have payload : ∀ time first second sequence sendNs,
      sequence < (runOptions given).count →
        (runPayload (runOptions given) (makeRunId time first second) sequence
            sendNs).length =
          (runOptions given).payloadBytes := by
    intro time first second sequence sendNs within
    exact length_makeBenchmarkPayload_effective
      (length_makeRunId_le time first second) within sendNs.toNat_lt _
  have accepted :
      (parseBenchArgs args).IsRun ↔ FitsTransport (runOptions given) := by
    rw [parseBenchArgs_of_accepted line valid]
    rcases validateSize_cases (runOptions given) with
      ⟨fits, same⟩ | ⟨large, refused⟩
    · rw [same]
      exact iff_of_true ⟨rfl, rfl⟩ fits
    · exact iff_of_false refused large
  exact
    { effective := rfl
      payload
      accepted
      carried := fun run =>
        ⟨options_of_isRun run line valid,
          fun time first second sequence sendNs within =>
            isCarried_of_fits (accepted.mp run)
              (payload time first second sequence sendNs within)⟩ }

/-- A small payload is raised to the size of its header. -/
theorem bench_run_fits_small :
    let given :=
      [(modeOption, "tcp".toList), (payloadBytesOption, "1".toList),
        (topicOption, "/demo".toList)]
    RunFits ("mm_bench".toList :: onCommandLine given) (runOptions given) ∧
      (runOptions given).payloadBytes = 89 := by
  intro given
  refine ⟨bench_run_fits rfl ?_, by decide +kernel⟩
  intro option member
  simp only [given, List.mem_cons, List.not_mem_nil, or_false] at member
  rcases member with rfl | rfl | rfl
  · exact ⟨by decide, by decide, .inr rfl⟩
  · refine ⟨by decide, by decide, ?_⟩
    have read : parsePositiveSize "1".toList = some 1 := by decide +kernel
    rw [AcceptsValue, if_neg (by decide), if_neg (by decide), if_pos rfl]
    exact ⟨1, read⟩
  · exact ⟨by decide, by decide, trivial⟩

end MiniMiddleware.Bench
