import MiniMiddleware.Bench.MessageCodec
import MiniMiddleware.Library.Lists
import Mathlib.Data.List.Nodup
import Mathlib.Data.List.Perm.Basic

/-!
# The samples of a benchmark

The collector keeps a flag and a sample for each sequence number and counts
what it has taken.  The three stand for one list, that of the messages taken so
far: `Holds` says how, one call of `record` adds a message to the list or
changes nothing, and the samples are read off the list.

The counter is at most the number of sequence numbers, so it does not
overflow.
-/

namespace MiniMiddleware.Bench

/-- `BenchmarkSampleCollector`. -/
structure BenchmarkSampleCollector where
  runId : Text
  samplesBySequence : List UInt64
  seen : List Bool
  receivedCount : Nat
  deriving DecidableEq, Repr

/-- The arguments of `record`. -/
structure RecordCall where
  payload : Text
  receiveNs : UInt64
  deriving DecidableEq, Repr

namespace BenchmarkSampleCollector

/-- The constructor. -/
def create (runId : Text) (expectedCount : Nat) : BenchmarkSampleCollector where
  runId
  samplesBySequence := List.replicate expectedCount 0
  seen := List.replicate expectedCount false
  receivedCount := 0

/-- The latency of a message in microseconds. -/
def latency (metadata : BenchmarkMessageMetadata) (receiveNs : UInt64) : UInt64 :=
  if metadata.sendNs ≤ receiveNs then (receiveNs - metadata.sendNs) / 1000 else 0

/-- `record`. -/
def record (collector : BenchmarkSampleCollector) (call : RecordCall) :
    BenchmarkSampleCollector × Bool :=
  match parseBenchmarkPayload call.payload with
  | none => (collector, false)
  | some metadata =>
      if metadata.runId ≠ collector.runId ∨
          collector.seen.length ≤ metadata.sequence ∨
          collector.seen[metadata.sequence]? = some true then
        (collector, false)
      else
        ({ collector with
            samplesBySequence :=
              collector.samplesBySequence.set metadata.sequence
                (latency metadata call.receiveNs)
            seen := collector.seen.set metadata.sequence true
            receivedCount := collector.receivedCount + 1 },
          true)

/-- `samples`. -/
def samples (collector : BenchmarkSampleCollector) : List UInt64 :=
  (List.range collector.seen.length).filterMap fun i =>
    if collector.seen[i]? = some true then collector.samplesBySequence[i]?
    else none

/-! ## Runs -/

/-- The collector after some calls. -/
def after (collector : BenchmarkSampleCollector) (calls : List RecordCall) :
    BenchmarkSampleCollector :=
  calls.foldl (fun current call => (current.record call).1) collector

/-- What the calls return. -/
def results (collector : BenchmarkSampleCollector) : List RecordCall → List Bool
  | [] => []
  | call :: rest =>
      (collector.record call).2 :: results (collector.record call).1 rest

/-- The messages of the calls that return true, with the time of receiving. -/
def taken (collector : BenchmarkSampleCollector) :
    List RecordCall → List (BenchmarkMessageMetadata × UInt64)
  | [] => []
  | call :: rest =>
      let others := taken (collector.record call).1 rest
      if (collector.record call).2 then
        match parseBenchmarkPayload call.payload with
        | none => others
        | some metadata => (metadata, call.receiveNs) :: others
      else
        others

/-- The sequence numbers of messages. -/
def sequences (messages : List (BenchmarkMessageMetadata × UInt64)) : List Nat :=
  messages.map fun message => message.1.sequence

/-- The collector stands for the messages that it has taken. -/
structure Holds (runId : Text) (expectedCount : Nat)
    (messages : List (BenchmarkMessageMetadata × UInt64))
    (collector : BenchmarkSampleCollector) : Prop where
  runId : collector.runId = runId
  seenLength : collector.seen.length = expectedCount
  samplesLength : collector.samplesBySequence.length = expectedCount
  inRange : ∀ sequence ∈ sequences messages, sequence < expectedCount
  distinct : (sequences messages).Nodup
  seen : ∀ i, collector.seen[i]? = some true ↔ i ∈ sequences messages
  sampled : ∀ message ∈ messages,
    collector.samplesBySequence[message.1.sequence]? =
      some (latency message.1 message.2)
  counted : collector.receivedCount = messages.length

theorem holds_create (runId : Text) (expectedCount : Nat) :
    Holds runId expectedCount [] (create runId expectedCount) where
  runId := rfl
  seenLength := List.length_replicate
  samplesLength := List.length_replicate
  inRange := by simp [sequences]
  distinct := List.nodup_nil
  seen := by
    intro i
    simp [create, sequences, List.getElem?_replicate]
  sampled := by simp
  counted := rfl

/-- The message is one that the run waits for. -/
def IsExpected (runId : Text) (expectedCount : Nat)
    (messages : List (BenchmarkMessageMetadata × UInt64))
    (metadata : BenchmarkMessageMetadata) : Prop :=
  metadata.runId = runId ∧ metadata.sequence < expectedCount ∧
    metadata.sequence ∉ sequences messages

section Record

variable {runId : Text} {expectedCount : Nat}
variable {messages : List (BenchmarkMessageMetadata × UInt64)}
variable {collector : BenchmarkSampleCollector}

theorem isExpected_iff
    (holds : Holds runId expectedCount messages collector)
    (metadata : BenchmarkMessageMetadata) :
    IsExpected runId expectedCount messages metadata ↔
      ¬ (metadata.runId ≠ collector.runId ∨
        collector.seen.length ≤ metadata.sequence ∨
        collector.seen[metadata.sequence]? = some true) := by
  unfold IsExpected
  rw [holds.seen, holds.runId, holds.seenLength]
  simp only [not_or, Decidable.not_not, Nat.not_le]

theorem record_expected
    (holds : Holds runId expectedCount messages collector)
    {call : RecordCall} {metadata : BenchmarkMessageMetadata}
    (parsed : parseBenchmarkPayload call.payload = some metadata)
    (expected : IsExpected runId expectedCount messages metadata) :
    (collector.record call).2 = true ∧
      Holds runId expectedCount (messages ++ [(metadata, call.receiveNs)])
        (collector.record call).1 := by
  have passes := (isExpected_iff holds metadata).mp expected
  obtain ⟨_, within, fresh⟩ := expected
  have recorded :
      collector.record call =
        ({ collector with
            samplesBySequence :=
              collector.samplesBySequence.set metadata.sequence
                (latency metadata call.receiveNs)
            seen := collector.seen.set metadata.sequence true
            receivedCount := collector.receivedCount + 1 },
          true) := by
    unfold record
    rw [parsed]
    exact if_neg passes
  have added :
      sequences (messages ++ [(metadata, call.receiveNs)]) =
        sequences messages ++ [metadata.sequence] := by
    simp [sequences]
  rw [recorded]
  refine ⟨rfl, ?_⟩
  constructor
  case runId => exact holds.runId
  case seenLength => rw [List.length_set, holds.seenLength]
  case samplesLength => rw [List.length_set, holds.samplesLength]
  case inRange =>
    rw [added]
    intro sequence member
    rcases List.mem_append.mp member with old | new
    · exact holds.inRange sequence old
    · rwa [List.mem_singleton.mp new]
  case distinct =>
    rw [added]
    exact List.nodup_append.mpr ⟨holds.distinct, by simp, by
      intro old member new same equal
      rw [List.mem_singleton.mp same] at equal
      exact fresh (equal ▸ member)⟩
  case seen =>
    intro i
    rw [added, List.mem_append, List.mem_singleton, ← holds.seen i,
      List.getElem?_set]
    by_cases here : metadata.sequence = i
    · subst here
      rw [if_pos rfl, if_pos (by rw [holds.seenLength]; exact within)]
      simp
    · rw [if_neg here]
      exact ⟨Or.inl, fun either => either.resolve_right (Ne.symm here)⟩
  case sampled =>
    intro message member
    rw [List.getElem?_set]
    rcases List.mem_append.mp member with old | new
    · have other : metadata.sequence ≠ message.1.sequence := by
        intro same
        exact fresh (same ▸ List.mem_map_of_mem old)
      rw [if_neg other]
      exact holds.sampled message old
    · rw [List.mem_singleton.mp new, if_pos rfl,
        if_pos (by rw [holds.samplesLength]; exact within)]
  case counted =>
    rw [List.length_append, ← holds.counted]
    rfl

theorem record_other
    (holds : Holds runId expectedCount messages collector)
    {call : RecordCall}
    (other : ∀ metadata, parseBenchmarkPayload call.payload = some metadata →
      ¬ IsExpected runId expectedCount messages metadata) :
    collector.record call = (collector, false) := by
  unfold record
  cases parsed : parseBenchmarkPayload call.payload with
  | none => rfl
  | some metadata =>
      have refused := other metadata parsed
      rw [isExpected_iff holds, Decidable.not_not] at refused
      exact if_pos refused

theorem record_cases
    (holds : Holds runId expectedCount messages collector) (call : RecordCall) :
    (∃ metadata, parseBenchmarkPayload call.payload = some metadata ∧
        IsExpected runId expectedCount messages metadata ∧
        (collector.record call).2 = true ∧
        Holds runId expectedCount (messages ++ [(metadata, call.receiveNs)])
          (collector.record call).1) ∨
      (∀ metadata, parseBenchmarkPayload call.payload = some metadata →
          ¬ IsExpected runId expectedCount messages metadata) ∧
        collector.record call = (collector, false) := by
  by_cases expected :
      ∃ metadata, parseBenchmarkPayload call.payload = some metadata ∧
        IsExpected runId expectedCount messages metadata
  · obtain ⟨metadata, parsed, expected⟩ := expected
    obtain ⟨accepted, after⟩ := record_expected holds parsed expected
    exact .inl ⟨metadata, parsed, expected, accepted, after⟩
  · have other : ∀ metadata,
        parseBenchmarkPayload call.payload = some metadata →
          ¬ IsExpected runId expectedCount messages metadata :=
      fun metadata parsed isExpected => expected ⟨metadata, parsed, isExpected⟩
    exact .inr ⟨other, record_other holds other⟩

/-- After a run the collector stands for what the run has taken besides. -/
theorem holds_after
    (holds : Holds runId expectedCount messages collector)
    (calls : List RecordCall) :
    Holds runId expectedCount (messages ++ collector.taken calls)
      (collector.after calls) := by
  induction calls generalizing messages collector with
  | nil =>
      rw [taken, List.append_nil]
      exact holds
  | cons call rest inductionHypothesis =>
      rcases record_cases holds call with
        ⟨metadata, parsed, _, accepted, next⟩ | ⟨_, same⟩
      · have grown := inductionHypothesis next
        rw [List.append_assoc, List.singleton_append] at grown
        rw [taken, accepted, parsed]
        exact grown
      · have kept := inductionHypothesis holds
        rw [taken, same]
        simpa [after, same] using kept

/-- As many messages are taken as calls return true. -/
theorem length_taken
    (holds : Holds runId expectedCount messages collector)
    (calls : List RecordCall) :
    (collector.taken calls).length = (collector.results calls).count true := by
  induction calls generalizing messages collector with
  | nil => rfl
  | cons call rest inductionHypothesis =>
      rcases record_cases holds call with
        ⟨metadata, parsed, _, accepted, next⟩ | ⟨_, same⟩
      · rw [taken, results, accepted, parsed, List.count_cons_self]
        simp [inductionHypothesis next]
      · have kept := inductionHypothesis holds
        rw [taken, results, same]
        simpa using kept

/-! ## The list of samples -/

/-- The first message with a sequence number. -/
def firstWith (messages : List (BenchmarkMessageMetadata × UInt64))
    (sequence : Nat) : Option (BenchmarkMessageMetadata × UInt64) :=
  messages.find? fun message => message.1.sequence = sequence

theorem isSome_firstWith
    (messages : List (BenchmarkMessageMetadata × UInt64)) (sequence : Nat) :
    (firstWith messages sequence).isSome = true ↔
      sequence ∈ sequences messages := by
  simp [firstWith, sequences]

/-- The samples are the latencies of the messages taken, in the order of their
sequence numbers. -/
theorem samples_eq
    (holds : Holds runId expectedCount messages collector) :
    collector.samples =
      (List.range expectedCount).filterMap fun sequence =>
        (firstWith messages sequence).map fun message =>
          latency message.1 message.2 := by
  unfold samples
  rw [holds.seenLength]
  apply List.filterMap_congr
  intro sequence _
  have flag :=
    (holds.seen sequence).trans (isSome_firstWith messages sequence).symm
  cases found : firstWith messages sequence with
  | none =>
      have absent : ¬ collector.seen[sequence]? = some true := by
        rw [flag, found]
        decide
      rw [if_neg absent]
      rfl
  | some message =>
      have present : collector.seen[sequence]? = some true := by
        rw [flag, found]
        rfl
      have member := List.mem_of_find?_eq_some found
      have same : message.1.sequence = sequence := by
        simpa using List.find?_some found
      rw [if_pos present, ← same]
      exact holds.sampled message member

theorem length_samples
    (holds : Holds runId expectedCount messages collector) :
    collector.samples.length = messages.length := by
  have members : ∀ sequence,
      sequence ∈ (List.range expectedCount).filter
          (fun sequence => (firstWith messages sequence).isSome) ↔
        sequence ∈ sequences messages := by
    intro sequence
    rw [List.mem_filter, List.mem_range, isSome_firstWith]
    exact ⟨And.right, fun member => ⟨holds.inRange sequence member, member⟩⟩
  have permuted :=
    (List.perm_ext_iff_of_nodup (List.nodup_range.filter _)
      holds.distinct).mpr members
  rw [samples_eq holds, List.length_filterMap_eq_countP]
  simp only [Option.isSome_map]
  rw [List.countP_eq_length_filter, permuted.length_eq]
  exact List.length_map _

theorem length_messages_le
    (holds : Holds runId expectedCount messages collector) :
    messages.length ≤ expectedCount := by
  have within : sequences messages ⊆ List.range expectedCount :=
    fun sequence member => List.mem_range.mpr (holds.inRange sequence member)
  have bound := (List.subperm_of_subset holds.distinct within).length_le
  rwa [sequences, List.length_map, List.length_range] at bound

/-- What a call brings, if its payload is that of a message. -/
def brought (call : RecordCall) : BenchmarkMessageMetadata × UInt64 :=
  ((parseBenchmarkPayload call.payload).getD ⟨[], 0, 0⟩, call.receiveNs)

/-- Calls with different messages of the run are all taken. -/
theorem holds_after_expected
    (holds : Holds runId expectedCount messages collector)
    {calls : List RecordCall}
    (expected : ∀ call ∈ calls, ∃ metadata,
      parseBenchmarkPayload call.payload = some metadata ∧
        metadata.runId = runId ∧ metadata.sequence < expectedCount)
    (distinct : (sequences (messages ++ calls.map brought)).Nodup) :
    Holds runId expectedCount (messages ++ calls.map brought)
      (collector.after calls) := by
  induction calls generalizing messages collector with
  | nil =>
      rw [List.map_nil, List.append_nil]
      exact holds
  | cons call rest inductionHypothesis =>
      obtain ⟨metadata, parsed, ofRun, inRange⟩ :=
        expected call List.mem_cons_self
      have isBrought : brought call = (metadata, call.receiveNs) := by
        rw [brought, parsed, Option.getD_some]
      rw [List.map_cons, isBrought, List.append_cons] at distinct ⊢
      have fresh : metadata.sequence ∉ sequences messages := by
        rw [sequences, List.map_append, List.map_append] at distinct
        have first := (List.nodup_append.mp distinct).1
        intro member
        exact (List.nodup_append.mp first).2.2 _ member _
          (List.mem_singleton.mpr rfl) rfl
      have taken := (record_expected holds parsed ⟨ofRun, inRange, fresh⟩).2
      exact inductionHypothesis taken
        (fun other member => expected other (List.mem_cons_of_mem call member))
        distinct

/-- Messages that are taken in the order of their numbers are sampled in the
order in which they are taken. -/
theorem samples_of_increasing
    (holds : Holds runId expectedCount messages collector)
    (increasing : (sequences messages).Pairwise (· < ·)) :
    collector.samples =
      messages.map fun message => latency message.1 message.2 := by
  have inOrder :
      ((List.range' 0 expectedCount).filterMap fun sequence =>
          firstWith messages sequence) =
        messages := by
    refine Library.filterMap_find?_range' increasing fun message member => ?_
    have inRange := holds.inRange _ (List.mem_map_of_mem member)
    omega
  rw [samples_eq holds, List.range_eq_range', ← List.map_filterMap, inOrder]

end Record

/-- A latency is a number of whole microseconds, and zero where the clock went
backwards. -/
theorem toNat_latency (metadata : BenchmarkMessageMetadata) (receiveNs : UInt64) :
    (latency metadata receiveNs).toNat =
      (receiveNs.toNat - metadata.sendNs.toNat) / 1000 := by
  unfold latency
  split
  · rename_i forwards
    rw [UInt64.toNat_div, UInt64.toNat_sub_of_le _ _ forwards]
    rfl
  · rename_i backwards
    have less : receiveNs.toNat < metadata.sendNs.toNat :=
      UInt64.not_le.mp backwards
    rw [Nat.sub_eq_zero_of_le (Nat.le_of_lt less)]
    rfl

/-- What holds after any calls of a collector. -/
structure CollectsOnce (runId : Text) (expectedCount : Nat)
    (calls : List RecordCall) : Prop where
  accepts : ∀ call,
    (((create runId expectedCount).after calls).record call).2 = true ↔
      ∃ metadata, parseBenchmarkPayload call.payload = some metadata ∧
        metadata.runId = runId ∧ metadata.sequence < expectedCount ∧
        ∀ earlier ∈ (create runId expectedCount).taken calls,
          earlier.1.sequence ≠ metadata.sequence
  refuses : ∀ call,
    (((create runId expectedCount).after calls).record call).2 = false →
      (((create runId expectedCount).after calls).record call).1 =
        (create runId expectedCount).after calls
  counted :
    ((create runId expectedCount).after calls).receivedCount =
      ((create runId expectedCount).results calls).count true
  sized :
    ((create runId expectedCount).after calls).receivedCount =
      ((create runId expectedCount).after calls).samples.length
  bounded :
    ((create runId expectedCount).after calls).receivedCount ≤ expectedCount
  listed :
    ((create runId expectedCount).after calls).samples.map UInt64.toNat =
      (List.range expectedCount).filterMap fun sequence =>
        (firstWith ((create runId expectedCount).taken calls) sequence).map
          fun message =>
            (message.2.toNat - message.1.sendNs.toNat) / 1000

/-- Every expected message is taken exactly once. -/
theorem collector_exactly_once
    (runId : Text) (expectedCount : Nat) (calls : List RecordCall) :
    CollectsOnce runId expectedCount calls := by
  have start := holds_create runId expectedCount
  have holds := holds_after start calls
  rw [List.nil_append] at holds
  have fresh : ∀ metadata : BenchmarkMessageMetadata,
      metadata.sequence ∉
          sequences ((create runId expectedCount).taken calls) ↔
        ∀ earlier ∈ (create runId expectedCount).taken calls,
          earlier.1.sequence ≠ metadata.sequence := by
    intro metadata
    simp [sequences]
  constructor
  case accepts =>
    intro call
    simp only [← fresh]
    rcases record_cases holds call with
      ⟨metadata, parsed, expected, accepted, _⟩ | ⟨other, same⟩
    · exact iff_of_true accepted ⟨metadata, parsed, expected⟩
    · rw [same]
      refine iff_of_false Bool.false_ne_true ?_
      rintro ⟨metadata, parsed, expected⟩
      exact other metadata parsed expected
  case refuses =>
    intro call refused
    rcases record_cases holds call with ⟨_, _, _, accepted, _⟩ | ⟨_, same⟩
    · rw [accepted] at refused
      cases refused
    · rw [same]
  case counted => rw [holds.counted, length_taken start calls]
  case sized => rw [holds.counted, length_samples holds]
  case bounded =>
    rw [holds.counted]
    exact length_messages_le holds
  case listed =>
    rw [samples_eq holds, List.map_filterMap]
    simp only [Option.map_map, Function.comp_def, toNat_latency]

end BenchmarkSampleCollector

end MiniMiddleware.Bench
