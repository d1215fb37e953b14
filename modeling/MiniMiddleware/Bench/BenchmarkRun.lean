import MiniMiddleware.Bench.InFlightWindow

/-!
# The samples of a run

The ring of a benchmark is a ring as any other, and so is the subscriber: what
is known of their runs holds here.  A message is written at the position that
is its number, and all further stations keep the order of the positions, so
the collector takes increasing numbers, each with the time of its own publish.
Between the writer and the collector messages are lost in one place only,
where the reader looks at a position too early.
-/

namespace MiniMiddleware.Bench

open MiniMiddleware.Core MiniMiddleware.Library MiniMiddleware.Protobuf
open MiniMiddleware.QueueHistory MiniMiddleware.Transport

/-! ## The parts of a run -/

/-- The times at which the messages are published. -/
def publishTimes (inputs : List BenchmarkInput) : List UInt64 :=
  inputs.filterMap fun
    | .publish sendNs => some sendNs
    | _ => none

/-- The times at which the worker calls back. -/
def handleTimes (inputs : List BenchmarkInput) : List UInt64 :=
  inputs.filterMap fun
    | .handle receiveNs => some receiveNs
    | _ => none

/-- What happens on the ring. -/
def ringEvents (events : List BenchmarkEvent) : List RingEvent :=
  events.filterMap fun
    | .ring event => some event
    | _ => none

/-- What happens at the subscriber. -/
def subscriberEvents (events : List BenchmarkEvent) :
    List (SubscriberEvent Text) :=
  events.filterMap fun
    | .subscriber event => some event
    | _ => none

/-- The messages that a reader delivered, with their positions. -/
def deliveries (id : Nat) (events : List RingEvent) : List (Nat × Bytes) :=
  events.filterMap fun
    | .received reader pos out => if reader = id then some (pos, out) else none
    | _ => none

/-- The message with this number. -/
def runMessage (options : BenchOptions) (runId : Text) (sequence : Nat)
    (sendNs : UInt64) : Bytes :=
  stringMsg (textBytes (runPayload options runId sequence sendNs))

/-- The messages published at these times. -/
def runMessages (options : BenchOptions) (runId : Text)
    (times : List UInt64) : List Bytes :=
  times.mapIdx (runMessage options runId)

section Projections

@[simp]
theorem publishTimes_append (earlier later : List BenchmarkInput) :
    publishTimes (earlier ++ later) =
      publishTimes earlier ++ publishTimes later :=
  List.filterMap_append

@[simp]
theorem handleTimes_append (earlier later : List BenchmarkInput) :
    handleTimes (earlier ++ later) = handleTimes earlier ++ handleTimes later :=
  List.filterMap_append

@[simp]
theorem ringEvents_append (earlier later : List BenchmarkEvent) :
    ringEvents (earlier ++ later) = ringEvents earlier ++ ringEvents later :=
  List.filterMap_append

@[simp]
theorem subscriberEvents_append (earlier later : List BenchmarkEvent) :
    subscriberEvents (earlier ++ later) =
      subscriberEvents earlier ++ subscriberEvents later :=
  List.filterMap_append

@[simp]
theorem deliveries_append (id : Nat) (earlier later : List RingEvent) :
    deliveries id (earlier ++ later) =
      deliveries id earlier ++ deliveries id later :=
  List.filterMap_append

@[simp]
theorem ringEvents_map_ring (events : List RingEvent) :
    ringEvents (events.map .ring) = events := by
  simp [ringEvents, List.filterMap_map]

@[simp]
theorem ringEvents_map_subscriber (events : List (SubscriberEvent Text)) :
    ringEvents (events.map .subscriber) = [] := by
  simp [ringEvents, List.filterMap_map]

@[simp]
theorem subscriberEvents_map_subscriber
    (events : List (SubscriberEvent Text)) :
    subscriberEvents (events.map .subscriber) = events := by
  simp [subscriberEvents, List.filterMap_map]

@[simp]
theorem subscriberEvents_map_ring (events : List RingEvent) :
    subscriberEvents (events.map .ring) = [] := by
  simp [subscriberEvents, List.filterMap_map]

@[simp]
theorem ringEvents_publishStarts
    (sequence receivedCount : Nat) (events : List BenchmarkEvent) :
    ringEvents (.publishStarts sequence receivedCount :: events) =
      ringEvents events :=
  rfl

@[simp]
theorem subscriberEvents_publishStarts
    (sequence receivedCount : Nat) (events : List BenchmarkEvent) :
    subscriberEvents (.publishStarts sequence receivedCount :: events) =
      subscriberEvents events :=
  rfl

theorem map_fst_deliveries (id : Nat) (events : List RingEvent) :
    (deliveries id events).map Prod.fst = receivedPositions id events := by
  rw [deliveries, List.map_filterMap]
  apply List.filterMap_congr
  intro event _
  cases event with
  | received reader pos out =>
      by_cases same : reader = id <;> simp [same]
  | _ =>
      rfl

theorem mem_deliveries
    {id : Nat} {events : List RingEvent} {delivery : Nat × Bytes} :
    delivery ∈ deliveries id events ↔
      .received id delivery.1 delivery.2 ∈ events := by
  constructor
  · intro member
    obtain ⟨event, present, kind⟩ := List.mem_filterMap.mp member
    cases event with
    | received reader pos out =>
        simp only [Option.ite_none_right_eq_some, Option.some.injEq] at kind
        obtain ⟨rfl, rfl⟩ := kind
        exact present
    | _ =>
        cases kind
  · intro member
    exact List.mem_filterMap.mpr ⟨_, member, if_pos rfl⟩

end Projections

/-! ## The parts run as they do alone -/

section Parts

variable {options : BenchOptions} {runId : Text}
variable {parse : Bytes → Option Text} {bench target : Benchmark}
variable {input : BenchmarkInput} {emitted : List BenchmarkEvent}

/-- A step leaves the ring alone or is one of its steps; only a publish
writes. -/
theorem Benchmark.Steps.ring
    (steps : bench.Steps options parse input target emitted) :
    target.ring = bench.ring ∧ ringEvents emitted = [] ∨
      ∃ ringInput,
        (∀ data, ringInput = .beginWrite data →
          ∃ sendNs, input = .publish sendNs) ∧
        bench.ring.step ringInput = some (target.ring, ringEvents emitted) := by
  cases steps with
  | claimed i sendNs message ring events _ _ moved =>
      exact Or.inr ⟨_, fun _ _ => ⟨sendNs, rfl⟩, by simpa using moved⟩
  | store _ ring events _ moved =>
      exact Or.inr ⟨.writer, nofun, by simpa using moved⟩
  | load ring events _ moved =>
      exact Or.inr ⟨.reader 0, nofun, by simpa using moved⟩
  | attachOther ring events moved =>
      exact Or.inr ⟨.attach, nofun, by simpa using moved⟩
  | loadOther id ring events _ moved =>
      exact Or.inr ⟨.reader id, nofun, by simpa using moved⟩
  | _ =>
      exact Or.inl ⟨rfl, by simp [ringEvents]⟩

/-- A step leaves the subscriber alone or is one of its steps, and nobody
closes its queue. -/
theorem Benchmark.Steps.subscriber
    (steps : bench.Steps options parse input target emitted) :
    target.subscriber = bench.subscriber ∧ subscriberEvents emitted = [] ∨
      ∃ call, call ≠ .close ∧
        bench.subscriber.step parse call =
          some (target.subscriber, subscriberEvents emitted) := by
  cases steps with
  | deliver bytes subscriber events _ moved =>
      exact Or.inr ⟨.enqueue bytes, nofun, by simpa using moved⟩
  | take subscriber events moved =>
      exact Or.inr ⟨.take, nofun, by simpa using moved⟩
  | handle receiveNs subscriber events moved =>
      exact Or.inr ⟨.handle, nofun, by simpa using moved⟩
  | _ =>
      exact Or.inl ⟨rfl, by simp [subscriberEvents]⟩

end Parts

section Runs

variable {options : BenchOptions} {runId : Text}
variable {parse : Bytes → Option Text} {inputs : List BenchmarkInput}
variable {bench : Benchmark} {events : List BenchmarkEvent}

/-- The ring of a benchmark runs as a ring to which the poller has attached
first. -/
theorem ringRun_of_run
    (run :
      (benchmarkMachine options runId parse).Run Machine.free inputs bench
        events) :
    ∃ ringInputs,
      (shmRingMachine benchmarkRing).Run Machine.free ringInputs bench.ring
        (.attached 0 0 :: ringEvents events) := by
  refine run.invariant
    (fun bench events =>
      ∃ ringInputs,
        (shmRingMachine benchmarkRing).Run Machine.free ringInputs bench.ring
          (.attached 0 0 :: ringEvents events)) ?_ ?_
  · rintro bench ⟨before, rfl⟩
    have initially :
        (shmRingMachine benchmarkRing).Run Machine.free []
          (RingSystem.start benchmarkRing before) [] :=
      .start ⟨before, rfl⟩
    exact ⟨[] ++ [.attach], initially.next trivial rfl⟩
  · rintro bench events input target emitted ⟨ringInputs, ringRun⟩ _ stepped
    rw [ringEvents_append]
    rcases (Benchmark.steps_of_step stepped).ring with
      ⟨same, silent⟩ | ⟨ringInput, _, moved⟩
    · rw [same, silent, List.append_nil]
      exact ⟨ringInputs, ringRun⟩
    · exact ⟨ringInputs ++ [ringInput], ringRun.next trivial moved⟩

/-- The subscriber of a benchmark runs as any other, and stays open. -/
theorem subscriberRun_of_run
    (run :
      (benchmarkMachine options runId parse).Run Machine.free inputs bench
        events) :
    (∃ calls,
        (subscriberMachine parse benchmarkQos).Run Machine.free calls
          bench.subscriber (subscriberEvents events)) ∧
      bench.subscriber.queue.closed = false := by
  refine run.invariant
    (fun bench events =>
      (∃ calls,
          (subscriberMachine parse benchmarkQos).Run Machine.free calls
            bench.subscriber (subscriberEvents events)) ∧
        bench.subscriber.queue.closed = false) ?_ ?_
  · rintro bench ⟨before, rfl⟩
    exact ⟨⟨[], .start rfl⟩, rfl⟩
  · rintro bench events input target emitted ⟨⟨calls, subscriberRun⟩, isOpen⟩ _
      stepped
    rw [subscriberEvents_append]
    rcases (Benchmark.steps_of_step stepped).subscriber with
      ⟨same, silent⟩ | ⟨call, notClose, moved⟩
    · rw [same, silent, List.append_nil]
      exact ⟨⟨calls, subscriberRun⟩, isOpen⟩
    · refine ⟨⟨calls ++ [call], subscriberRun.next trivial moved⟩, ?_⟩
      by_cases enqueues : ∃ bytes, call = .enqueue bytes
      · obtain ⟨bytes, rfl⟩ := enqueues
        exact (accepted_of_enqueue isOpen moved).2.1
      · have other (bytes : Bytes) : call ≠ .enqueue bytes :=
          fun same => enqueues ⟨bytes, same⟩
        rw [(accepted_of_other other moved).2.1 notClose]
        exact isOpen

end Runs

/-! ## What is written -/

/-- The number of messages published, as the loop knows it. -/
def PublisherPc.published : PublisherPc → Option Nat
  | .ready i => some i
  | .publishing i | .waiting i => some (i + 1)
  | .left => none

/-- Each message of the run fits a slot. -/
def FitsSlots (options : BenchOptions) (runId : Text) : Prop :=
  ∀ number sendNs, number < options.count →
    (runMessage options runId number sendNs).length ≤ kShmSlotCapacity

/-- The messages published at these times are written, each at the position
that is its number. -/
structure Written (options : BenchOptions) (runId : Text)
    (times : List UInt64) (bench : Benchmark) (payloads : List Bytes) :
    Prop where
  ring : bench.ring.ring = benchmarkRing.view
  payloads : payloads = runMessages options runId times
  turn :
    ∀ number, bench.publisher.published = some number → number = times.length
  few : times.length ≤ options.count

section Written

variable {options : BenchOptions} {runId : Text}
variable {parse : Bytes → Option Text} {bench target : Benchmark}
variable {input : BenchmarkInput} {emitted : List BenchmarkEvent}

/-- Only a publish writes. -/
theorem Benchmark.Steps.written
    (steps : bench.Steps options parse input target emitted)
    (notPublish : ∀ sendNs, input ≠ .publish sendNs) :
    target.ring.ring = bench.ring.ring ∧
      writtenPayloads (ringEvents emitted) = [] := by
  rcases steps.ring with ⟨same, silent⟩ | ⟨ringInput, writes, moved⟩
  · rw [same, silent]
    exact ⟨rfl, rfl⟩
  · generalize target.ring = reached at moved ⊢
    generalize ringEvents emitted = seen at moved ⊢
    cases RingSystem.steps_of_step moved with
    | refuse data | claim data =>
        obtain ⟨sendNs, publish⟩ := writes data rfl
        exact (notPublish sendNs publish).elim
    | store | attach =>
        exact ⟨rfl, rfl⟩
    | load id reader =>
        exact ⟨rfl, writtenPayloads_readerStep id bench.ring.memory reader⟩

/-- A publish claims a position for its message. -/
theorem Benchmark.claim_of_publish
    (view : bench.ring.ring = benchmarkRing.view)
    (fits : FitsSlots options runId) {sendNs : UInt64}
    (stepped :
      bench.step options runId parse (.publish sendNs) =
        some (target, emitted)) :
    ∃ i, bench.publisher = .ready i ∧ i < options.count ∧
      target.publisher = .publishing i ∧ target.ring.ring = bench.ring.ring ∧
      writtenPayloads (ringEvents emitted) =
        [runMessage options runId i sendNs] := by
  simp only [step] at stepped
  split at stepped
  · rename_i i ready
    split at stepped
    · rename_i more
      have small := fits i sendNs more
      have notLarge :
          ¬ maxMessageSize < (runMessage options runId i sendNs).length := by
        have slots : kShmSlotCapacity ≤ maxMessageSize := by decide
        omega
      unfold publish at stepped
      dsimp only at stepped
      rw [if_neg (by exact notLarge)] at stepped
      obtain ⟨⟨middle, ringEmitted⟩, onRing, equal⟩ :=
        Option.map_eq_some_iff.mp stepped
      cases equal
      obtain ⟨ring, seen, moved, rfl, rfl⟩ := exists_of_onRing onRing
      rw [ringEvents_publishStarts, ringEvents_map_ring]
      cases RingSystem.steps_of_step moved with
      | refuse _ _ large =>
          have capacity : bench.ring.ring.slotSize = kShmSlotCapacity := by
            rw [view]
            rfl
          rw [capacity] at large
          exact absurd large (Nat.not_lt.mpr small)
      | claim =>
          exact ⟨i, ready, more, rfl, rfl, rfl⟩
    · cases stepped
  · cases stepped

theorem Written.publish
    {times : List UInt64} {payloads : List Bytes} {sendNs : UInt64}
    (holds : Written options runId times bench payloads)
    (fits : FitsSlots options runId)
    (stepped :
      bench.step options runId parse (.publish sendNs) =
        some (target, emitted)) :
    Written options runId (times ++ [sendNs]) target
      (payloads ++ writtenPayloads (ringEvents emitted)) := by
  obtain ⟨i, ready, more, publishing, sameRing, written⟩ :=
    Benchmark.claim_of_publish holds.ring fits stepped
  have turn : i = times.length := holds.turn i (by rw [ready]; rfl)
  have extended :
      runMessages options runId (times ++ [sendNs]) =
        runMessages options runId times ++
          [runMessage options runId times.length sendNs] := by
    rw [runMessages, List.mapIdx_append]
    simp [runMessages]
  refine ⟨sameRing.trans holds.ring, ?_, ?_, ?_⟩
  · rw [written, holds.payloads, turn, extended]
  · intro number published
    rw [publishing] at published
    cases published
    rw [List.length_append, List.length_singleton, turn]
  · rw [List.length_append, List.length_singleton, ← turn]
    exact more

theorem Benchmark.Steps.published_eq
    (steps : bench.Steps options parse input target emitted)
    (notPublish : ∀ sendNs, input ≠ .publish sendNs) {number : Nat}
    (published : target.publisher.published = some number) :
    bench.publisher.published = some number := by
  cases steps with
  | refused _ sendNs | claimed _ sendNs =>
      exact (notPublish sendNs rfl).elim
  | published i place | advance i place =>
      rw [place]
      exact published
  | finish | timeout =>
      cases published
  | _ =>
      exact published

theorem Written.other
    {times : List UInt64} {payloads : List Bytes}
    (holds : Written options runId times bench payloads)
    (notPublish : ∀ sendNs, input ≠ .publish sendNs)
    (steps : bench.Steps options parse input target emitted) :
    Written options runId times target
      (payloads ++ writtenPayloads (ringEvents emitted)) := by
  obtain ⟨view, written, turn, few⟩ := holds
  obtain ⟨sameRing, silent⟩ := steps.written notPublish
  rw [silent, List.append_nil]
  exact ⟨sameRing.trans view, written,
    fun number published => turn number (steps.published_eq notPublish published),
    few⟩

theorem written_of_run
    {inputs : List BenchmarkInput} {events : List BenchmarkEvent}
    (fits : FitsSlots options runId)
    (run :
      (benchmarkMachine options runId parse).Run Machine.free inputs bench
        events) :
    Written options runId (publishTimes inputs) bench
      (writtenPayloads (ringEvents events)) := by
  induction run with
  | start initially =>
      obtain ⟨before, rfl⟩ := initially
      exact ⟨rfl, rfl, fun number first => by cases first; rfl,
        Nat.zero_le _⟩
  | @next inputs bench target events emitted input _ _ stepped
      inductionHypothesis =>
      rw [publishTimes_append, ringEvents_append, writtenPayloads_append]
      by_cases publishes : ∃ sendNs, input = .publish sendNs
      · obtain ⟨sendNs, rfl⟩ := publishes
        have published :
            bench.step options runId parse (.publish sendNs) =
              some (target, emitted) := stepped
        exact inductionHypothesis.publish fits published
      · have notPublish (sendNs : UInt64) : input ≠ .publish sendNs :=
          fun same => publishes ⟨sendNs, same⟩
        have none : publishTimes [input] = [] := by
          cases input with
          | publish sendNs =>
              exact (notPublish sendNs rfl).elim
          | _ =>
              rfl
        rw [none, List.append_nil]
        exact inductionHypothesis.other notPublish
          (Benchmark.steps_of_step stepped)

theorem length_written
    {inputs : List BenchmarkInput} {events : List BenchmarkEvent}
    (fits : FitsSlots options runId)
    (run :
      (benchmarkMachine options runId parse).Run Machine.free inputs bench
        events) :
    (writtenPayloads (.attached 0 0 :: ringEvents events)).length =
      (publishTimes inputs).length := by
  have payloads :
      writtenPayloads (.attached 0 0 :: ringEvents events) =
        runMessages options runId (publishTimes inputs) :=
    (written_of_run fits run).payloads
  rw [payloads]
  exact List.length_mapIdx

end Written

/-! ## What is passed on -/

theorem map_snd_deliveries_readerStep
    (id : Nat) (memory : RingMemory) (reader : ShmRingReader) :
    (deliveries id (readerStep id memory reader).2).map Prod.snd =
      (receivedBytes (readerStep id memory reader).2).toList := by
  unfold readerStep deliveries receivedBytes
  cases reader.pc with
  | idle =>
      rfl
  | loadWriteSeq =>
      dsimp only
      split_ifs
      · rfl
      · simp [List.filterMap_map, List.findSome?_map, Function.comp_def]
      · rfl
  | loadSeq | loadLen =>
      dsimp only
      split_ifs <;> rfl
  | copying len copied =>
      dsimp only
      split_ifs <;> simp

/-- Only the poller's own loads deliver to it. -/
theorem deliveries_eq_nil
    {system reached : RingSystem} {ringInput : RingInput}
    {seen : List RingEvent} (notPoller : ringInput ≠ .reader 0)
    (moved : system.step ringInput = some (reached, seen)) :
    deliveries 0 seen = [] := by
  cases RingSystem.steps_of_step moved with
  | refuse | claim | store | attach =>
      rfl
  | load id reader =>
      have other : id ≠ 0 := fun same => notPoller (by rw [same])
      rw [← List.map_eq_nil_iff, map_fst_deliveries]
      exact receivedPositions_readerStep_of_ne other system.memory reader

section Passed

variable {options : BenchOptions} {runId : Text}
variable {parse : Bytes → Option Text} {bench target : Benchmark}
variable {input : BenchmarkInput} {emitted : List BenchmarkEvent}

/-- What a step adds to the queue and leaves with the poller is what the poller
had and what the step delivers to it. -/
theorem Benchmark.Steps.passed
    (isOpen : bench.subscriber.queue.closed = false)
    (found : ∃ reader, bench.ring.readers[0]? = some reader)
    (steps : bench.Steps options parse input target emitted) :
    accepted (queueEvents (subscriberEvents emitted)) ++
        target.delivering.toList =
      bench.delivering.toList ++
        (deliveries 0 (ringEvents emitted)).map Prod.snd := by
  cases steps with
  | load ring seen idle moved =>
      obtain ⟨reader, found⟩ := found
      obtain ⟨_, _, rfl⟩ := step_load moved found
      rw [ringEvents_map_ring, subscriberEvents_map_ring,
        map_snd_deliveries_readerStep, idle]
      rfl
  | deliver bytes subscriber seen busy moved =>
      have taken := (accepted_of_enqueue isOpen moved).1
      rw [ringEvents_map_subscriber, subscriberEvents_map_subscriber, taken,
        busy]
      rfl
  | take subscriber seen moved =>
      have none := (accepted_of_other (by simp) moved).1
      rw [ringEvents_map_subscriber, subscriberEvents_map_subscriber, none]
      exact (List.append_nil _).symm
  | handle receiveNs subscriber seen moved =>
      have none := (accepted_of_other (by simp) moved).1
      rw [ringEvents_map_subscriber, subscriberEvents_map_subscriber, none]
      exact (List.append_nil _).symm
  | claimed i sendNs message ring seen _ _ moved =>
      have none := deliveries_eq_nil (by simp) moved
      rw [ringEvents_publishStarts, subscriberEvents_publishStarts,
        ringEvents_map_ring, subscriberEvents_map_ring, none]
      exact (List.append_nil _).symm
  | store i ring seen _ moved =>
      have none := deliveries_eq_nil (by simp) moved
      rw [ringEvents_map_ring, subscriberEvents_map_ring, none]
      exact (List.append_nil _).symm
  | attachOther ring seen moved =>
      have none := deliveries_eq_nil (by simp) moved
      rw [ringEvents_map_ring, subscriberEvents_map_ring, none]
      exact (List.append_nil _).symm
  | loadOther id ring seen other moved =>
      have none :=
        deliveries_eq_nil (fun same => other (RingInput.reader.inj same)) moved
      rw [ringEvents_map_ring, subscriberEvents_map_ring, none]
      exact (List.append_nil _).symm
  | _ =>
      exact (List.append_nil _).symm

theorem passed_of_run
    (few : options.count < 2 ^ 63)
    {inputs : List BenchmarkInput} {events : List BenchmarkEvent}
    (run :
      (benchmarkMachine options runId parse).Run Machine.free inputs bench
        events) :
    accepted (queueEvents (subscriberEvents events)) ++
        bench.delivering.toList =
      (deliveries 0 (ringEvents events)).map Prod.snd := by
  induction run with
  | start initially =>
      obtain ⟨before, rfl⟩ := initially
      rfl
  | next run _ stepped inductionHypothesis =>
      obtain ⟨reader, found, _⟩ := (inWindow_of_run few run).1.reader
      have passed :=
        (Benchmark.steps_of_step stepped).passed (subscriberRun_of_run run).2
          ⟨reader, found⟩
      rw [subscriberEvents_append, queueEvents_append, accepted_append,
        ringEvents_append, deliveries_append, List.map_append,
        ← inductionHypothesis, List.append_assoc, passed, List.append_assoc]

/-- The poller's reader: what it has delivered and dropped is all that it has
passed, each message is the one written at its position, and the positions
increase. -/
theorem delivered_of_run
    (fits : FitsSlots options runId) (few : options.count < 2 ^ 63)
    {inputs : List BenchmarkInput} {events : List BenchmarkEvent}
    (run :
      (benchmarkMachine options runId parse).Run Machine.free inputs bench
        events) :
    ∃ reader, bench.ring.readers[0]? = some reader ∧
      reader.next =
        (deliveries 0 (ringEvents events)).length + reader.dropped ∧
      reader.next ≤ bench.ring.memory.writeSeq ∧
      bench.ring.memory.writeSeq = (publishTimes inputs).length ∧
      ((deliveries 0 (ringEvents events)).map Prod.fst).Pairwise (· < ·) ∧
      ∀ delivery ∈ deliveries 0 (ringEvents events),
        delivery.1 < reader.next ∧
          (runMessages options runId (publishTimes inputs))[delivery.1]? =
            some delivery.2 := by
  have written := written_of_run fits run
  obtain ⟨ringInputs, ringRun⟩ := ringRun_of_run run
  have payloads :
      writtenPayloads (.attached 0 0 :: ringEvents events) =
        runMessages options runId (publishTimes inputs) :=
    written.payloads
  have total := length_written fits run
  have published := written.few
  have fewWrites :
      (writtenPayloads (.attached 0 0 :: ringEvents events)).length <
        2 ^ 63 := by
    omega
  have twoSlots : 2 ≤ benchmarkRing.slotCount := by decide
  have ledger := Ledger.of_run twoSlots ringRun fewWrites
  obtain ⟨reader, found, balance⟩ := ledger.accounts 0 0 List.mem_cons_self
  have bound :=
    cursorBound_of_run twoSlots ringRun fewWrites reader
      (List.mem_of_getElem? found)
  have invariant := RingInvariant.of_run ringRun fewWrites
  have positions :
      receivedPositions 0 (.attached 0 0 :: ringEvents events) =
        (deliveries 0 (ringEvents events)).map Prod.fst :=
    (map_fst_deliveries 0 (ringEvents events)).symm
  have account := balance.balance
  have increasing := balance.increasing
  rw [positions] at account increasing
  rw [List.length_map, Nat.zero_add] at account
  refine ⟨reader, found, account, bound.next_le,
    invariant.writer.writeSeq.trans total, increasing,
    fun delivery member => ⟨balance.below delivery.1 ?_, ?_⟩⟩
  · rw [positions]
    exact List.mem_map_of_mem member
  · rw [← payloads]
    exact received_of_run ringRun fewWrites
      (List.mem_cons_of_mem _ (mem_deliveries.mp member))

end Passed

/-! ## What is counted -/

/-- The collector has been called with the first of the payloads, and for each
with the time of the callback. -/
structure Counted (options : BenchOptions) (runId : Text)
    (times : List UInt64) (bench : Benchmark)
    (seen : List (SubscriberEvent Text)) (calls : List RecordCall) :
    Prop where
  collected :
    bench.collector =
      (BenchmarkSampleCollector.create runId options.count).after calls
  payloads : calls.map RecordCall.payload <+: callbacks seen
  all : bench.accepting = true → calls.length = (callbacks seen).length
  few : (callbacks seen).length ≤ times.length
  inTime :
    (callbacks seen).length = times.length →
      calls.map RecordCall.receiveNs <+: times
  worked :
    (popped (queueEvents seen)).length =
      times.length + bench.subscriber.held.toList.length

section Counted

variable {options : BenchOptions} {runId : Text}
variable {parse : Bytes → Option Text} {bench target : Benchmark}
variable {input : BenchmarkInput} {emitted : List BenchmarkEvent}
variable {times : List UInt64} {seen : List (SubscriberEvent Text)}
variable {calls : List RecordCall}

theorem after_append
    (collector : BenchmarkSampleCollector) (earlier later : List RecordCall) :
    collector.after (earlier ++ later) =
      (collector.after earlier).after later :=
  List.foldl_append

/-- A message that the callback gets is recorded while the run is on. -/
theorem Counted.called
    (holds : Counted options runId times bench seen calls)
    {subscriber : Subscriber} {bytes : Bytes} {payload : Text}
    (busy : bench.subscriber.held = some bytes)
    (idle : subscriber.held = none) (receiveNs : UInt64) :
    ∃ calls,
      Counted options runId (times ++ [receiveNs])
        { bench with
          subscriber := subscriber
          collector := bench.recordAll [payload] receiveNs }
        (seen ++ [.called payload]) calls := by
  obtain ⟨collected, payloads, all, few, inTime, worked⟩ := holds
  have extended :
      callbacks (seen ++ [.called payload]) = callbacks seen ++ [payload] :=
    callbacks_append _ _
  have popped :
      (popped (queueEvents (seen ++ [.called payload]))).length =
        times.length + 1 := by
    rw [queueEvents_append, popped_append, List.length_append, worked, busy]
    rfl
  cases accepting : bench.accepting with
  | true =>
      have isAll := all accepting
      have same : calls.map RecordCall.payload = callbacks seen :=
        payloads.eq_of_length (by rw [List.length_map, isAll])
      refine ⟨calls ++ [⟨payload, receiveNs⟩], ?_, ?_, fun _ => ?_, ?_,
        fun equal => ?_, ?_⟩
      · rw [after_append, ← collected, Benchmark.recordAll, if_pos accepting]
        rfl
      · rw [extended, List.map_append, same]
        exact List.prefix_rfl
      · rw [extended, List.length_append, isAll, List.length_append]
        rfl
      · rw [extended, List.length_append, List.length_append]
        exact Nat.add_le_add_right few 1
      · rw [extended, List.length_append, List.length_append] at equal
        have before := inTime (Nat.add_right_cancel equal)
        have whole : calls.map RecordCall.receiveNs = times :=
          before.eq_of_length
            (by
              rw [List.length_map, isAll]
              exact Nat.add_right_cancel equal)
        rw [List.map_append, whole]
        exact List.prefix_rfl
      · rw [popped, idle, List.length_append]
        rfl
  | false =>
      refine ⟨calls, ?_, ?_, nofun, ?_, fun equal => ?_, ?_⟩
      · rw [← collected, Benchmark.recordAll, if_neg (by rw [accepting]; decide)]
      · rw [extended]
        exact payloads.trans (List.prefix_append _ _)
      · rw [extended, List.length_append, List.length_append]
        exact Nat.add_le_add_right few 1
      · rw [extended, List.length_append, List.length_append] at equal
        exact (inTime (Nat.add_right_cancel equal)).trans
          (List.prefix_append _ _)
      · rw [popped, idle, List.length_append]
        rfl

/-- A message that cannot be parsed is handled and not recorded. -/
theorem Counted.unparsed
    (holds : Counted options runId times bench seen calls)
    {subscriber : Subscriber} {bytes : Bytes}
    (busy : bench.subscriber.held = some bytes)
    (idle : subscriber.held = none) (receiveNs : UInt64) :
    Counted options runId (times ++ [receiveNs])
      { bench with
        subscriber := subscriber
        collector := bench.recordAll [] receiveNs }
      (seen ++ [.unparsed bytes]) calls := by
  obtain ⟨collected, payloads, all, few, inTime, worked⟩ := holds
  have same :
      callbacks (seen ++ [.unparsed bytes]) = callbacks seen := by
    rw [callbacks_append]
    exact List.append_nil _
  have collector : bench.recordAll [] receiveNs = bench.collector := by
    unfold Benchmark.recordAll
    split <;> rfl
  refine ⟨collector.trans collected, ?_, fun accepting => ?_, ?_,
    fun equal => ?_, ?_⟩
  · rw [same]
    exact payloads
  · rw [same]
    exact all accepting
  · rw [same, List.length_append]
    exact Nat.le_succ_of_le few
  · rw [same, List.length_append, List.length_singleton] at equal
    omega
  · rw [queueEvents_append, popped_append, List.length_append, worked, busy,
      idle, List.length_append]
    rfl

/-- The other steps neither call back nor record. -/
structure Uncounted (bench target : Benchmark)
    (more : List (SubscriberEvent Text)) : Prop where
  collector : target.collector = bench.collector
  accepting : target.accepting = true → bench.accepting = true
  silent : callbacks more = []
  worked :
    (popped (queueEvents more)).length +
        bench.subscriber.held.toList.length =
      target.subscriber.held.toList.length

theorem Benchmark.Steps.uncounted
    (steps : bench.Steps options parse input target emitted)
    (notHandle : ∀ receiveNs, input ≠ .handle receiveNs) :
    Uncounted bench target (subscriberEvents emitted) := by
  cases steps with
  | handle receiveNs =>
      exact (notHandle receiveNs rfl).elim
  | deliver bytes subscriber more _ moved =>
      obtain ⟨none, silent, same⟩ := popped_of_enqueue moved
      rw [subscriberEvents_map_subscriber]
      exact ⟨rfl, id, silent, by rw [none, same]; exact Nat.zero_add _⟩
  | take subscriber more moved =>
      obtain ⟨idle, taken, silent⟩ := popped_of_take moved
      rw [subscriberEvents_map_subscriber]
      exact ⟨rfl, id, silent, by rw [taken, idle]; rfl⟩
  | stopAccepting =>
      exact ⟨rfl, nofun, rfl, Nat.zero_add _⟩
  | claimed | store | load | attachOther | loadOther =>
      simp only [subscriberEvents_publishStarts, subscriberEvents_map_ring]
      exact ⟨rfl, id, rfl, Nat.zero_add _⟩
  | _ =>
      exact ⟨rfl, id, rfl, Nat.zero_add _⟩

theorem Counted.uncounted
    (holds : Counted options runId times bench seen calls)
    {more : List (SubscriberEvent Text)} (silent : Uncounted bench target more) :
    Counted options runId times target (seen ++ more) calls := by
  obtain ⟨collected, payloads, all, few, inTime, worked⟩ := holds
  have same : callbacks (seen ++ more) = callbacks seen := by
    rw [callbacks_append, silent.silent, List.append_nil]
  refine ⟨silent.collector.trans collected, ?_, fun still => ?_, ?_,
    fun equal => ?_, ?_⟩
  · rw [same]
    exact payloads
  · rw [same]
    exact all (silent.accepting still)
  · rw [same]
    exact few
  · rw [same] at equal
    exact inTime equal
  · have taken := silent.worked
    rw [queueEvents_append, popped_append, List.length_append, worked]
    omega

theorem counted_of_run
    {inputs : List BenchmarkInput} {events : List BenchmarkEvent}
    (run :
      (benchmarkMachine options runId parse).Run Machine.free inputs bench
        events) :
    ∃ calls,
      Counted options runId (handleTimes inputs) bench
        (subscriberEvents events) calls := by
  induction run with
  | start initially =>
      obtain ⟨before, rfl⟩ := initially
      exact ⟨[], rfl, List.prefix_rfl, fun _ => rfl, Nat.le_refl 0,
        fun _ => List.prefix_rfl, rfl⟩
  | @next inputs bench target events emitted input _ _ stepped
      inductionHypothesis =>
      obtain ⟨calls, holds⟩ := inductionHypothesis
      have steps := Benchmark.steps_of_step stepped
      rw [handleTimes_append, subscriberEvents_append]
      by_cases handles : ∃ receiveNs, input = .handle receiveNs
      · obtain ⟨receiveNs, rfl⟩ := handles
        cases steps with
        | handle _ subscriber more moved =>
            rw [subscriberEvents_map_subscriber]
            obtain ⟨bytes, busy, idle, ⟨payload, rfl⟩ | rfl⟩ :=
              cases_of_handle moved
            · exact holds.called busy idle receiveNs
            · exact ⟨calls, holds.unparsed busy idle receiveNs⟩
      · have notHandle (receiveNs : UInt64) : input ≠ .handle receiveNs :=
          fun same => handles ⟨receiveNs, same⟩
        have none : handleTimes [input] = [] := by
          cases input with
          | handle receiveNs =>
              exact (notHandle receiveNs rfl).elim
          | _ =>
              rfl
        rw [none, List.append_nil]
        exact ⟨calls, holds.uncounted (steps.uncounted notHandle)⟩

end Counted

/-! ## The samples -/

/-- The parser gives back the payloads of the messages that are published. -/
def ParsesPublished (options : BenchOptions) (runId : Text)
    (parse : Bytes → Option Text) (times : List UInt64) : Prop :=
  ∀ number sendNs, times[number]? = some sendNs →
    parse (runMessage options runId number sendNs) =
      some (runPayload options runId number sendNs)

/-- The metadata of the message at a position. -/
def metadataAt (runId : Text) (times : List UInt64) (pos : Nat) :
    BenchmarkMessageMetadata where
  runId
  sequence := pos
  sendNs := times[pos]?.getD 0

/-- Each sample is the time from the publish of one message to its callback,
and the samples stand in the order of the messages. -/
structure Genuine (inputs : List BenchmarkInput) (bench : Benchmark)
    (messages : List (BenchmarkMessageMetadata × UInt64)) : Prop where
  increasing :
    (BenchmarkSampleCollector.sequences messages).Pairwise (· < ·)
  published :
    ∀ message ∈ messages,
      (publishTimes inputs)[message.1.sequence]? = some message.1.sendNs
  received : messages.map Prod.snd <+: handleTimes inputs
  samples :
    bench.collector.samples.map UInt64.toNat =
      messages.map fun message =>
        (message.2.toNat - message.1.sendNs.toNat) / 1000

/-- Where the messages are that were published.  Those that were sampled and
those with the worker, in the queue and with the poller stand in front of the
cursor of the poller's reader, in this order, each once; the others in front of
it were dropped, and those from the cursor on are in the ring. -/
structure Accounted (options : BenchOptions) (runId : Text)
    (inputs : List BenchmarkInput) (bench : Benchmark)
    (messages : List (BenchmarkMessageMetadata × UInt64))
    (onTheWay : List (Nat × Bytes)) (reader : ShmRingReader) : Prop where
  waiting :
    onTheWay.map Prod.snd =
      bench.subscriber.held.toList ++ bench.subscriber.queue.queue ++
        bench.delivering.toList
  published :
    ∀ message ∈ onTheWay,
      (runMessages options runId (publishTimes inputs))[message.1]? =
        some message.2
  increasing :
    (BenchmarkSampleCollector.sequences messages ++
      onTheWay.map Prod.fst).Pairwise (· < ·)
  passed :
    ∀ pos ∈ BenchmarkSampleCollector.sequences messages ++
        onTheWay.map Prod.fst,
      pos < reader.next
  dropped :
    reader.next = messages.length + onTheWay.length + reader.dropped
  behind : reader.next ≤ bench.ring.memory.writeSeq
  written : bench.ring.memory.writeSeq = (publishTimes inputs).length

section Samples

variable {options : BenchOptions} {runId : Text}
variable {parse : Bytes → Option Text} {bench : Benchmark}
variable {inputs : List BenchmarkInput} {events : List BenchmarkEvent}

/-- A message that was delivered is parsed as the payload that was published
at its position. -/
theorem parsed_of_written
    {times : List UInt64} (parses : ParsesPublished options runId parse times)
    {delivery : Nat × Bytes}
    (written :
      (runMessages options runId times)[delivery.1]? = some delivery.2) :
    delivery.1 < times.length ∧
      parse delivery.2 =
        some (runPayload options runId delivery.1
          (times[delivery.1]?.getD 0)) := by
  rw [runMessages, List.getElem?_mapIdx] at written
  obtain ⟨sendNs, published, isMessage⟩ := Option.map_eq_some_iff.mp written
  obtain ⟨inside, _⟩ := List.getElem?_eq_some_iff.mp published
  rw [← isMessage, parses delivery.1 sendNs published, published]
  exact ⟨inside, rfl⟩

/-- The worker has handled the first of the messages that were delivered; the
others wait behind the poller. -/
theorem handed_of_run
    (fits : FitsSlots options runId) (few : options.count < 2 ^ 63)
    (run :
      (benchmarkMachine options runId parse).Run Machine.free inputs bench
        events)
    (parses : ParsesPublished options runId parse (publishTimes inputs)) :
    ∃ taken rest : List (Nat × Bytes),
      deliveries 0 (ringEvents events) = taken ++ rest ∧
      rest.map Prod.snd =
        bench.subscriber.held.toList ++ bench.subscriber.queue.queue ++
          bench.delivering.toList ∧
      taken.length = (handleTimes inputs).length ∧
      callbacks (subscriberEvents events) =
        taken.map fun delivery =>
          runPayload options runId delivery.1
            ((publishTimes inputs)[delivery.1]?.getD 0) := by
  obtain ⟨⟨_, subscriberRun⟩, _⟩ := subscriberRun_of_run run
  obtain ⟨sound, handled, worked⟩ := subscriber_of_run subscriberRun
  obtain ⟨_, _, _, _, _, _, genuine⟩ := delivered_of_run fits few run
  obtain ⟨_, counted⟩ := counted_of_run run
  obtain ⟨arrived, behind, whole, isArrived, isBehind⟩ :=
    List.map_eq_append_iff.mp (passed_of_run few run).symm
  obtain ⟨taken, isHandled, _, unlimited⟩ :=
    handled_of_arrivals sound worked isArrived.symm
  obtain ⟨queued, isWhole, isQueued⟩ := unlimited rfl
  refine ⟨taken, queued ++ behind, ?_, ?_, ?_, ?_⟩
  · rw [whole, isWhole, List.append_assoc]
  · rw [List.map_append, isQueued, isBehind]
  · have poppedLength := congrArg List.length worked.popped
    have handledLength := congrArg List.length isHandled
    rw [counted.worked, List.length_append] at poppedLength
    rw [List.length_map] at handledLength
    omega
  · rw [worked.called, isHandled, List.filterMap_map, ← List.filterMap_eq_map]
    apply List.filterMap_congr
    intro delivery member
    have delivered : delivery ∈ deliveries 0 (ringEvents events) := by
      rw [whole, isWhole]
      exact List.mem_append_left _ (List.mem_append_left _ member)
    exact (parsed_of_written parses (genuine delivery delivered).2).2

/-- The calls of `record` carry the metadata of the first of these messages. -/
theorem map_brought
    (times : List UInt64) {calls : List RecordCall}
    {taken : List (Nat × Bytes)}
    (named : runId ≠ []) (free : '|' ∉ runId)
    (few : ∀ delivery ∈ taken, delivery.1 < 2 ^ 64)
    (payloads :
      calls.map RecordCall.payload =
        taken.map fun delivery =>
          runPayload options runId delivery.1 (times[delivery.1]?.getD 0)) :
    (∀ call ∈ calls, ∃ delivery ∈ taken,
        parseBenchmarkPayload call.payload =
          some (metadataAt runId times delivery.1)) ∧
      calls.map (fun call => (BenchmarkSampleCollector.brought call).1) =
        taken.map fun delivery => metadataAt runId times delivery.1 := by
  have parsed (delivery : Nat × Bytes) (member : delivery ∈ taken) :
      parseBenchmarkPayload
          (runPayload options runId delivery.1
            (times[delivery.1]?.getD 0)) =
        some (metadataAt runId times delivery.1) :=
    parseBenchmarkPayload_makeBenchmarkPayload named free
      (few delivery member) _ _
  constructor
  · intro call member
    have among : call.payload ∈ calls.map RecordCall.payload :=
      List.mem_map_of_mem member
    rw [payloads] at among
    obtain ⟨delivery, isTaken, same⟩ := List.mem_map.mp among
    rw [← same]
    exact ⟨delivery, isTaken, parsed delivery isTaken⟩
  · have composed :
        calls.map (fun call => (BenchmarkSampleCollector.brought call).1) =
          (calls.map RecordCall.payload).map fun payload =>
            (parseBenchmarkPayload payload).getD ⟨[], 0, 0⟩ := by
      rw [List.map_map]
      rfl
    rw [composed, payloads, List.map_map]
    apply List.map_congr_left
    intro delivery member
    rw [Function.comp_apply, parsed delivery member, Option.getD_some]

/-- Their numbers are the positions of the messages. -/
theorem sequences_brought
    {times : List UInt64} {calls : List RecordCall}
    {taken : List (Nat × Bytes)}
    (metadata :
      calls.map (fun call => (BenchmarkSampleCollector.brought call).1) =
        taken.map fun delivery => metadataAt runId times delivery.1) :
    BenchmarkSampleCollector.sequences
        (calls.map BenchmarkSampleCollector.brought) =
      taken.map Prod.fst := by
  have composed :
      BenchmarkSampleCollector.sequences
          (calls.map BenchmarkSampleCollector.brought) =
        (calls.map fun call =>
          (BenchmarkSampleCollector.brought call).1).map
            BenchmarkMessageMetadata.sequence := by
    rw [BenchmarkSampleCollector.sequences, List.map_map, List.map_map]
    rfl
  rw [composed, metadata, List.map_map]
  rfl

/-- If those that were sampled are the first that the poller has delivered, all
messages are accounted for. -/
theorem accounted_of_run
    (fits : FitsSlots options runId) (few : options.count < 2 ^ 63)
    (run :
      (benchmarkMachine options runId parse).Run Machine.free inputs bench
        events)
    {reader : ShmRingReader} (found : bench.ring.readers[0]? = some reader)
    {taken rest : List (Nat × Bytes)}
    {messages : List (BenchmarkMessageMetadata × UInt64)}
    (whole : deliveries 0 (ringEvents events) = taken ++ rest)
    (isRest :
      rest.map Prod.snd =
        bench.subscriber.held.toList ++ bench.subscriber.queue.queue ++
          bench.delivering.toList)
    (sampled :
      BenchmarkSampleCollector.sequences messages = taken.map Prod.fst) :
    Accounted options runId inputs bench messages rest reader := by
  obtain ⟨same, isSame, passed, behind, written, increasing, genuine⟩ :=
    delivered_of_run fits few run
  cases found.symm.trans isSame
  have positions :
      BenchmarkSampleCollector.sequences messages ++ rest.map Prod.fst =
        (deliveries 0 (ringEvents events)).map Prod.fst := by
    rw [sampled, whole, List.map_append]
  have sampledLength : messages.length = taken.length := by
    have lengths := congrArg List.length sampled
    rwa [BenchmarkSampleCollector.sequences, List.length_map, List.length_map]
      at lengths
  refine ⟨isRest, fun message member => ?_, ?_, fun pos member => ?_, ?_,
    behind, written⟩
  · refine (genuine message ?_).2
    rw [whole]
    exact List.mem_append_right taken member
  · rw [positions]
    exact increasing
  · rw [positions] at member
    obtain ⟨delivery, delivered, rfl⟩ := List.mem_map.mp member
    exact (genuine delivery delivered).1
  · rw [sampledLength, ← List.length_append, ← whole]
    exact passed

/-- The account as an equation of numbers. -/
theorem length_published_of_accounted
    {messages : List (BenchmarkMessageMetadata × UInt64)}
    {onTheWay : List (Nat × Bytes)} {reader : ShmRingReader}
    (account :
      Accounted options runId inputs bench messages onTheWay reader) :
    (publishTimes inputs).length =
      messages.length + waiting bench.subscriber +
        bench.delivering.toList.length +
        (bench.ring.memory.writeSeq - reader.next) + reader.dropped := by
  have lengths := congrArg List.length account.waiting
  rw [List.length_map, List.length_append, List.length_append] at lengths
  have dropped := account.dropped
  have behind := account.behind
  have written := account.written
  rw [waiting]
  omega

/-- The samples of a run, and where the messages are that are not sampled. -/
theorem genuine_of_run
    (named : runId ≠ []) (free : '|' ∉ runId)
    (fits : FitsSlots options runId) (few : options.count < 2 ^ 63)
    (run :
      (benchmarkMachine options runId parse).Run Machine.free inputs bench
        events)
    (parses : ParsesPublished options runId parse (publishTimes inputs)) :
    ∃ messages reader, Genuine inputs bench messages ∧
      bench.ring.readers[0]? = some reader ∧
      (bench.accepting = true →
        (publishTimes inputs).length =
            messages.length + waiting bench.subscriber +
              bench.delivering.toList.length +
              (bench.ring.memory.writeSeq - reader.next) + reader.dropped ∧
          ∃ onTheWay,
            Accounted options runId inputs bench messages onTheWay reader) := by
  obtain ⟨taken, rest, whole, isRest, handled, called⟩ :=
    handed_of_run fits few run parses
  obtain ⟨reader, found, _, _, _, increasing, genuine⟩ :=
    delivered_of_run fits few run
  obtain ⟨calls, counted⟩ := counted_of_run run
  have limited := (written_of_run fits run).few
  have callsLe : calls.length ≤ taken.length := by
    have bound := counted.payloads.length_le
    rwa [called, List.length_map, List.length_map] at bound
  have payloads :
      calls.map RecordCall.payload =
        (taken.take calls.length).map fun delivery =>
          runPayload options runId delivery.1
            ((publishTimes inputs)[delivery.1]?.getD 0) := by
    have first := List.prefix_iff_eq_take.mp counted.payloads
    rwa [called, List.length_map, ← List.map_take] at first
  have inRange (delivery : Nat × Bytes)
      (member : delivery ∈ taken.take calls.length) :
      delivery.1 < (publishTimes inputs).length := by
    have delivered : delivery ∈ deliveries 0 (ringEvents events) := by
      rw [whole]
      exact List.mem_append_left _ (List.mem_of_mem_take member)
    exact (parsed_of_written parses (genuine delivery delivered).2).1
  obtain ⟨parsed, metadata⟩ :=
    map_brought (publishTimes inputs) named free
      (fun delivery member => by
        have inside := inRange delivery member
        omega)
      payloads
  have numbers := sequences_brought metadata
  have sorted :
      (BenchmarkSampleCollector.sequences
        (calls.map BenchmarkSampleCollector.brought)).Pairwise (· < ·) := by
    rw [numbers]
    refine increasing.sublist (List.Sublist.map _ ?_)
    rw [whole]
    exact (List.take_sublist _ _).trans (List.sublist_append_left _ _)
  have holds :=
    BenchmarkSampleCollector.holds_after_expected
      (BenchmarkSampleCollector.holds_create runId options.count)
      (fun call member => by
        obtain ⟨delivery, isTaken, isParsed⟩ := parsed call member
        have inside := inRange delivery isTaken
        exact ⟨_, isParsed, rfl, Nat.lt_of_lt_of_le inside limited⟩)
      (sorted.imp Nat.ne_of_lt)
  rw [List.nil_append, ← counted.collected] at holds
  refine
    ⟨calls.map BenchmarkSampleCollector.brought, reader,
      ⟨sorted, ?_, ?_, ?_⟩, found, fun accepting => ?_⟩
  · intro message member
    obtain ⟨call, isCall, rfl⟩ := List.mem_map.mp member
    obtain ⟨delivery, isTaken, isParsed⟩ := parsed call isCall
    have inside := inRange delivery isTaken
    rw [BenchmarkSampleCollector.brought, isParsed, Option.getD_some]
    simp only [metadataAt, List.getElem?_eq_getElem inside, Option.getD_some]
  · rw [List.map_map]
    exact counted.inTime (by rw [called, List.length_map, handled])
  · rw [BenchmarkSampleCollector.samples_of_increasing holds sorted,
      List.map_map]
    apply List.map_congr_left
    intro message _
    exact BenchmarkSampleCollector.toNat_latency message.1 message.2
  · have isAll := counted.all accepting
    rw [called, List.length_map] at isAll
    rw [isAll, List.take_length] at numbers
    have account := accounted_of_run fits few run found whole isRest numbers
    exact ⟨length_published_of_accounted account, rest, account⟩

end Samples

/-! ## What is lost -/

/-- The poller does not look at a position that is claimed and not marked. -/
def NoEarlyLoad (bench : Benchmark) (input : BenchmarkInput) : Prop :=
  input = .load → NoStaleLoad bench.ring (.reader 0)

section Lost

/-- Nothing in front of the cursor is dropped again. -/
theorem next_le_of_dropped
    {id reported pos w : Nat} {memory : RingMemory} {reader : ShmRingReader}
    (member :
      RingEvent.dropped reported pos w ∈ (readerStep id memory reader).2) :
    reader.next ≤ pos := by
  unfold readerStep at member
  cases shape : reader.pc with
  | idle =>
      simp [shape] at member
  | loadWriteSeq =>
      simp only [shape] at member
      split_ifs at member
      · simp at member
      · simp only [List.mem_map, List.mem_range'_1,
          RingEvent.dropped.injEq] at member
        obtain ⟨_, inWindow, _, rfl, _⟩ := member
        exact inWindow.1
      · simp at member
  | loadSeq | loadLen | copying =>
      simp only [shape] at member
      split_ifs at member
      all_goals simp at member
      all_goals omega

theorem dropped_readerStep
    {memory : RingMemory} {reader : ShmRingReader}
    (few : reader.dropped + memory.writeSeq + 1 < 2 ^ 64)
    (bound : CursorBound memory reader) (id : Nat) :
    reader.dropped ≤ (readerStep id memory reader).1.dropped ∧
      ((readerStep id memory reader).1.dropped = reader.dropped ↔
        ∀ pos w,
          RingEvent.dropped id pos w ∉ (readerStep id memory reader).2) := by
  obtain ⟨ring, next, dropped, out, pc⟩ := reader
  obtain ⟨nextLe, nextLt⟩ := bound
  dsimp only at few nextLe nextLt
  cases pc with
  | idle =>
      simp [readerStep]
  | loadWriteSeq =>
      simp only [readerStep]
      split_ifs with caughtUp behind
      · simp
      · have amount :
            0 < memory.writeSeq - ring.slotCount + 1 - next := by omega
        have total :
            (dropped + (memory.writeSeq - ring.slotCount + 1 - next)) % 2 ^ 64 =
              dropped + (memory.writeSeq - ring.slotCount + 1 - next) :=
          Nat.mod_eq_of_lt (by omega)
        have reported :
            RingEvent.dropped id next memory.writeSeq ∈
              (List.range' next (memory.writeSeq - ring.slotCount + 1 - next)).map
                fun pos => RingEvent.dropped id pos memory.writeSeq :=
          List.mem_map_of_mem (List.mem_range'_1.mpr ⟨Nat.le_refl _, by omega⟩)
        simp only [ShmRingReader.fastForward, total]
        exact ⟨by omega,
          iff_of_false (by omega) fun silent => silent _ _ reported⟩
      · simp
  | loadSeq | loadLen | copying =>
      simp only [readerStep]
      split_ifs
      all_goals simp [ShmRingReader.dropOne]
      all_goals omega

variable {options : BenchOptions} {runId : Text}
variable {parse : Bytes → Option Text} {bench target : Benchmark}
variable {inputs : List BenchmarkInput} {events : List BenchmarkEvent}
variable {input : BenchmarkInput} {emitted : List BenchmarkEvent}

/-- In the window the reader drops a position only if it looks too early. -/
theorem drops_iff_early
    {system : RingSystem} {payloads : List Bytes} {reader : ShmRingReader}
    (invariant : RingInvariant benchmarkRing system payloads)
    (few : payloads.length < 2 ^ 63)
    (found : system.readers[0]? = some reader)
    (bound : CursorBound system.memory reader)
    (window : system.memory.writeSeq ≤ reader.next + 17) :
    (∀ pos w,
        RingEvent.dropped 0 pos w ∉ (readerStep 0 system.memory reader).2) ↔
      NoStaleLoad system (.reader 0) := by
  constructor
  · intro silent stale
    exact silent _ _ (dropped_of_stale invariant few found stale).2
  · intro notStale pos w member
    obtain ⟨_, reason⟩ := dropReason_of_readerStep member
    have lap := justified_of_not_stale invariant few found bound notStale reason
    have ahead := next_le_of_dropped member
    have slots : benchmarkRing.slotCount = 32 := rfl
    omega

/-- Only the poller's own loads move its reader. -/
theorem Benchmark.Steps.reader_kept
    (steps : bench.Steps options parse input target emitted)
    (notLoad : input ≠ .load) (few : bench.ring.memory.writeSeq < 2 ^ 63)
    {reader : ShmRingReader} (found : bench.ring.readers[0]? = some reader) :
    target.ring.readers[0]? = some reader := by
  cases steps with
  | load =>
      exact (notLoad rfl).elim
  | claimed i sendNs message ring seen _ _ moved =>
      obtain ⟨_, _, kept⟩ := step_beginWrite few moved
      rw [← found]
      exact congrArg (fun readers => readers[0]?) kept
  | store i ring seen _ moved =>
      exact (step_quiet (Or.inl rfl) moved found).2
  | attachOther ring seen moved =>
      exact (step_quiet (Or.inr (Or.inl rfl)) moved found).2
  | loadOther id ring seen other moved =>
      exact (step_quiet (Or.inr (Or.inr ⟨id, other, rfl⟩)) moved found).2
  | _ =>
      exact found

theorem dropped_of_step
    (fits : FitsSlots options runId) (few : options.count < 2 ^ 63)
    (run :
      (benchmarkMachine options runId parse).Run Machine.free inputs bench
        events)
    (stepped :
      bench.step options runId parse input = some (target, emitted))
    {reader : ShmRingReader} (found : bench.ring.readers[0]? = some reader) :
    ∃ moved, target.ring.readers[0]? = some moved ∧
      reader.dropped ≤ moved.dropped ∧
      (moved.dropped = reader.dropped ↔ NoEarlyLoad bench input) := by
  obtain ⟨other, otherFound, account, behind, total, _, _⟩ :=
    delivered_of_run fits few run
  obtain rfl := Option.some.inj (found.symm.trans otherFound)
  have limited := (written_of_run fits run).few
  have steps := Benchmark.steps_of_step stepped
  by_cases isLoad : input = .load
  · subst isLoad
    obtain ⟨other, otherFound, _, bound, counted⟩ :=
      (inWindow_of_run few run).1.reader
    obtain rfl := Option.some.inj (found.symm.trans otherFound)
    have ahead := (inWindow_of_run few run).1.publisher.writer.2
    unfold kBenchmarkInFlightWindow at ahead
    obtain ⟨ringInputs, ringRun⟩ := ringRun_of_run run
    have length := length_written fits run
    have fewWrites :
        (writtenPayloads (.attached 0 0 :: ringEvents events)).length <
          2 ^ 63 := by
      omega
    have invariant := RingInvariant.of_run ringRun fewWrites
    cases steps with
    | load ring seen _ moved =>
        obtain ⟨_, there, _⟩ := step_load moved found
        obtain ⟨grown, silent⟩ :=
          dropped_readerStep (by omega) bound 0
        refine ⟨_, there, grown, silent.trans ?_⟩
        rw [drops_iff_early invariant fewWrites found bound (by omega)]
        exact ⟨fun quiet _ => quiet, fun quiet => quiet rfl⟩
  · exact ⟨reader, steps.reader_kept isLoad (by omega) found, Nat.le_refl _,
      iff_of_true rfl fun load => (isLoad load).elim⟩

/-- The poller's reader has dropped nothing exactly if it has never looked too
early. -/
theorem dropped_eq_zero_iff
    (fits : FitsSlots options runId) (few : options.count < 2 ^ 63)
    (run :
      (benchmarkMachine options runId parse).Run Machine.free inputs bench
        events)
    {reader : ShmRingReader} (found : bench.ring.readers[0]? = some reader) :
    reader.dropped = 0 ↔
      (benchmarkMachine options runId parse).Run NoEarlyLoad inputs bench
        events := by
  constructor
  · intro none
    induction run generalizing reader with
    | start initially =>
        exact .start initially
    | next run _ stepped inductionHypothesis =>
        obtain ⟨before, beforeFound, _⟩ := delivered_of_run fits few run
        obtain ⟨moved, there, grown, early⟩ :=
          dropped_of_step fits few run stepped beforeFound
        obtain rfl := Option.some.inj (found.symm.trans there)
        refine .next (inductionHypothesis beforeFound (by omega)) ?_ stepped
        exact early.mp (by omega)
  · intro guarded
    clear run
    suffices both :
        (benchmarkMachine options runId parse).Run Machine.free inputs bench
            events ∧
          ∀ reader, bench.ring.readers[0]? = some reader →
            reader.dropped = 0 from
      both.2 reader found
    clear found reader
    induction guarded with
    | start initially =>
        refine ⟨.start initially, fun reader found => ?_⟩
        obtain ⟨before, rfl⟩ := initially
        cases found
        rfl
    | next _ quiet stepped inductionHypothesis =>
        obtain ⟨run, none⟩ := inductionHypothesis
        refine ⟨run.next trivial stepped, fun reader found => ?_⟩
        obtain ⟨before, beforeFound, _⟩ := delivered_of_run fits few run
        obtain ⟨moved, there, _, early⟩ :=
          dropped_of_step fits few run stepped beforeFound
        obtain rfl := Option.some.inj (found.symm.trans there)
        rw [early.mpr quiet]
        exact none before beforeFound

end Lost

/-! ## Accepted runs in mode `shm` -/

/-- The id of a run is not empty and has no separator. -/
theorem makeRunId_named (time : UInt64) (first second : UInt32) :
    makeRunId time first second ≠ [] ∧ '|' ∉ makeRunId time first second := by
  constructor
  · simp [makeRunId]
  · have free (number : Nat) : '|' ∉ decimal number :=
      notMem_decimal (by decide) number
    simp [makeRunId, free]

theorem fitsSlots_of_isRun
    {args : List Text} (accepted : (parseBenchArgs args).IsRun)
    (shm : (parseBenchArgs args).options.mode = .shm)
    (time : UInt64) (first second : UInt32) :
    FitsSlots (parseBenchArgs args).options (makeRunId time first second) := by
  obtain ⟨given, line, accepts⟩ := accepted_of_isRun accepted
  have isOptions := options_of_isRun accepted line accepts
  have transport : FitsTransport (runOptions given) := by
    rw [parseBenchArgs_of_accepted line accepts] at accepted
    rcases validateSize_cases (runOptions given) with ⟨fits, _⟩ | ⟨_, refused⟩
    · exact fits
    · exact absurd accepted refused
  rw [isOptions] at shm ⊢
  intro number sendNs inRange
  have length :
      (runPayload (runOptions given) (makeRunId time first second) number
          sendNs).length =
        (runOptions given).payloadBytes :=
    length_makeBenchmarkPayload_effective (length_makeRunId_le time first second)
      inRange sendNs.toNat_lt _
  unfold FitsTransport at transport
  rw [shm] at transport
  rw [runMessage, length_stringMsg, length_textBytes, length]
  exact transport

/-- Every sample of an accepted run is the time from the publish of a message
to its callback, in the order of the messages; each that is published and not
sampled is on its way, in the ring, or was dropped by the poller's reader. -/
theorem benchmark_samples_genuine
    {args : List Text} (accepted : (parseBenchArgs args).IsRun)
    (shm : (parseBenchArgs args).options.mode = .shm)
    (time : UInt64) (first second : UInt32) {parse : Bytes → Option Text}
    {inputs : List BenchmarkInput} {bench : Benchmark}
    {events : List BenchmarkEvent}
    (run :
      (benchmarkMachine (parseBenchArgs args).options
        (makeRunId time first second) parse).Run Machine.free inputs bench
        events)
    (parses :
      ParsesPublished (parseBenchArgs args).options
        (makeRunId time first second) parse (publishTimes inputs)) :
    ∃ messages reader, Genuine inputs bench messages ∧
      bench.ring.readers[0]? = some reader ∧
      (bench.accepting = true →
        (publishTimes inputs).length =
            messages.length + waiting bench.subscriber +
              bench.delivering.toList.length +
              (bench.ring.memory.writeSeq - reader.next) + reader.dropped ∧
          ∃ onTheWay,
            Accounted (parseBenchArgs args).options
              (makeRunId time first second) inputs bench messages onTheWay
              reader) := by
  obtain ⟨named, free⟩ := makeRunId_named time first second
  have limited := count_le_of_isRun accepted
  unfold kMaxBenchmarkCount at limited
  exact genuine_of_run named free
    (fitsSlots_of_isRun accepted shm time first second) (by omega) run parses

/-- A reader for messages with one text: behind the tag and the length. -/
def contents (message : Bytes) : Option Text :=
  let data := ((message.drop 1).dropWhile fun byte => 128 ≤ byte).drop 1
  some (data.map fun byte => Char.ofNat byte.toNat)

/-- Two messages, of which the first is published and received. -/
def twoMessages : List Text :=
  ["mm_bench", "--count", "2", "--payload-bytes", "1"].map String.toList

def oneReceived : List BenchmarkInput :=
  .publish 5000 :: List.replicate 91 .store ++ .published ::
    List.replicate 93 .load ++ [.deliver, .take, .handle 9000]

theorem oneReceived_run :
    ∃ bench events,
      (benchmarkMachine (parseBenchArgs twoMessages).options
          (makeRunId 1 2 3) contents).Run Machine.free oneReceived bench
          events ∧
        bench.collector.samples = [4] ∧ bench.accepting = true ∧
        waiting bench.subscriber = 0 ∧ bench.delivering = none ∧
        bench.ring.readers[0]?.map ShmRingReader.next =
          some bench.ring.memory.writeSeq := by
  obtain ⟨bench, events, run, checked⟩ :=
    Machine.run_of_exec_check
      (benchmarkMachine (parseBenchArgs twoMessages).options (makeRunId 1 2 3)
        contents)
      Machine.free oneReceived
      (Benchmark.start (parseBenchArgs twoMessages).options (makeRunId 1 2 3)
        zeroedMemory)
      (fun bench _ =>
        decide
          (bench.collector.samples = [4] ∧ bench.accepting = true ∧
            waiting bench.subscriber = 0 ∧ bench.delivering = none ∧
            bench.ring.readers[0]?.map ShmRingReader.next =
              some bench.ring.memory.writeSeq))
      ⟨_, rfl⟩ (by decide +kernel)
  exact ⟨bench, events, run, of_decide_eq_true checked⟩

theorem parsesPublished_oneReceived :
    ParsesPublished (parseBenchArgs twoMessages).options (makeRunId 1 2 3)
      contents (publishTimes oneReceived) := by
  have times : publishTimes oneReceived = [5000] := by decide
  rw [times]
  intro number sendNs published
  cases number with
  | zero =>
      cases published
      decide +kernel
  | succ number =>
      cases published

/-- The message is sampled with four microseconds. -/
theorem benchmark_samples_genuine_one :
    ∃ bench messages,
      Genuine oneReceived bench messages ∧ bench.collector.samples = [4] := by
  obtain ⟨bench, events, run, sampled, _⟩ := oneReceived_run
  obtain ⟨messages, _, genuine, _⟩ :=
    benchmark_samples_genuine (by constructor <;> decide +kernel)
      (by decide +kernel) 1 2 3 run parsesPublished_oneReceived
  exact ⟨bench, messages, genuine, sampled⟩

/-- Nothing is on its way to the collector. -/
structure Drained (bench : Benchmark) : Prop where
  subscriber : waiting bench.subscriber = 0
  delivering : bench.delivering = none
  reader :
    ∀ reader, bench.ring.readers[0]? = some reader →
      reader.next = bench.ring.memory.writeSeq

/-- Once nothing is on its way, every published message is sampled if and only
if the poller never looked at a position too early. -/
theorem benchmark_complete_iff
    {args : List Text} (accepted : (parseBenchArgs args).IsRun)
    (shm : (parseBenchArgs args).options.mode = .shm)
    (time : UInt64) (first second : UInt32) {parse : Bytes → Option Text}
    {inputs : List BenchmarkInput} {bench : Benchmark}
    {events : List BenchmarkEvent}
    (run :
      (benchmarkMachine (parseBenchArgs args).options
        (makeRunId time first second) parse).Run Machine.free inputs bench
        events)
    (parses :
      ParsesPublished (parseBenchArgs args).options
        (makeRunId time first second) parse (publishTimes inputs))
    (accepting : bench.accepting = true) (drained : Drained bench) :
    bench.collector.samples.length = (publishTimes inputs).length ↔
      (benchmarkMachine (parseBenchArgs args).options
        (makeRunId time first second) parse).Run NoEarlyLoad inputs bench
        events := by
  obtain ⟨named, free⟩ := makeRunId_named time first second
  have fits := fitsSlots_of_isRun accepted shm time first second
  have limited := count_le_of_isRun accepted
  unfold kMaxBenchmarkCount at limited
  have few : (parseBenchArgs args).options.count < 2 ^ 63 := by omega
  obtain ⟨messages, reader, genuine, found, total⟩ :=
    genuine_of_run named free fits few run parses
  have sampled := congrArg List.length genuine.samples
  rw [List.length_map, List.length_map] at sampled
  have sum := (total accepting).1
  rw [drained.subscriber, drained.delivering, drained.reader reader found,
    Option.toList_none, List.length_nil] at sum
  rw [← dropped_eq_zero_iff fits few run found]
  omega

/-- The one message that was published is sampled. -/
theorem benchmark_complete_iff_one :
    ∃ bench events,
      (benchmarkMachine (parseBenchArgs twoMessages).options
          (makeRunId 1 2 3) contents).Run NoEarlyLoad oneReceived bench
        events := by
  obtain ⟨bench, events, run, sampled, accepting, handled, delivered, passed⟩ :=
    oneReceived_run
  have drained : Drained bench := by
    refine ⟨handled, delivered, fun reader found => ?_⟩
    rw [found] at passed
    exact Option.some.inj passed
  have complete :=
    benchmark_complete_iff (by constructor <;> decide +kernel)
      (by decide +kernel) 1 2 3 run parsesPublished_oneReceived accepting
      drained
  exact ⟨bench, events, complete.mp (by rw [sampled]; decide)⟩

end MiniMiddleware.Bench
