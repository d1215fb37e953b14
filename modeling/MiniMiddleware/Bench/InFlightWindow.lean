import MiniMiddleware.Bench.PublishLoop

/-!
# The window of messages in flight

A message is counted after it was popped, popped after it was enqueued and
enqueued after the cursor of the reader has passed it, so the collector never
counts ahead of the cursor.  The loop stays within its window of what the
collector has counted; hence the writer stays within the same window, and one
message, of the cursor, which is less than a lap of the ring.
-/

namespace MiniMiddleware.Bench

open MiniMiddleware.Core MiniMiddleware.Library MiniMiddleware.Protobuf
open MiniMiddleware.Transport

/-! ## The stages -/

/-- The messages that a subscriber holds: in its queue and at its worker. -/
def waiting (subscriber : Subscriber) : Nat :=
  subscriber.queue.queue.length + subscriber.held.toList.length

section Stages

variable {parse : Bytes → Option Text} {subscriber target : Subscriber}
variable {emitted : List (SubscriberEvent Text)}

theorem waiting_enqueue
    {bytes : Bytes}
    (stepped : subscriber.step parse (.enqueue bytes) = some (target, emitted)) :
    waiting target ≤ waiting subscriber + 1 := by
  obtain ⟨⟨queue, events⟩, moved, equal⟩ := Option.map_eq_some_iff.mp stepped
  cases equal
  have pushed : queue = (subscriber.queue.push bytes).1 := by
    unfold BlockingQueue.step at moved
    dsimp only at moved
    split at moved <;> rename_i outcome <;> cases moved <;> rw [outcome]
  have grown : queue.queue.length ≤ subscriber.queue.queue.length + 1 := by
    rw [pushed, BlockingQueue.push]
    split
    · exact Nat.le_succ _
    · split
      · simp only [List.length_append, List.length_drop, List.length_singleton]
        omega
      · rw [List.length_append, List.length_singleton]
  simp only [waiting]
  omega

theorem waiting_take
    (stepped : subscriber.step parse .take = some (target, emitted)) :
    waiting target ≤ waiting subscriber := by
  simp only [Subscriber.step] at stepped
  split at stepped
  · obtain ⟨⟨queue, held⟩, moved, equal⟩ := Option.map_eq_some_iff.mp stepped
    cases equal
    unfold BlockingQueue.pop at moved
    split at moved
    · rename_i item rest items
      cases moved
      simp only [waiting, items, Option.toList_some, List.length_cons,
        List.length_nil]
      omega
    · split at moved
      · cases moved
        simp [waiting]
      · cases moved
  · cases stepped

theorem waiting_handle
    (stepped : subscriber.step parse .handle = some (target, emitted)) :
    waiting target + (callbacks emitted).length ≤ waiting subscriber := by
  obtain ⟨bytes, held, equal⟩ := Option.map_eq_some_iff.mp stepped
  cases equal
  simp only [waiting, held, Option.toList_none, Option.toList_some,
    List.length_nil, List.length_singleton]
  cases parse bytes <;> simp [callbacks]

end Stages

theorem receivedCount_record
    (collector : BenchmarkSampleCollector) (call : RecordCall) :
    collector.receivedCount ≤ (collector.record call).1.receivedCount ∧
      (collector.record call).1.receivedCount ≤
        collector.receivedCount + 1 := by
  unfold BenchmarkSampleCollector.record
  split
  · exact ⟨Nat.le_refl _, Nat.le_succ _⟩
  · split
    · exact ⟨Nat.le_refl _, Nat.le_succ _⟩
    · exact ⟨Nat.le_succ _, Nat.le_refl _⟩

theorem receivedCount_after
    (collector : BenchmarkSampleCollector) (calls : List RecordCall) :
    collector.receivedCount ≤ (collector.after calls).receivedCount ∧
      (collector.after calls).receivedCount ≤
        collector.receivedCount + calls.length := by
  induction calls generalizing collector with
  | nil =>
      exact ⟨Nat.le_refl _, Nat.le_refl _⟩
  | cons call rest inductionHypothesis =>
      have first := receivedCount_record collector call
      have later := inductionHypothesis (collector.record call).1
      have same :
          collector.after (call :: rest) =
            (collector.record call).1.after rest := rfl
      rw [same, List.length_cons]
      omega

/-- The callback counts no more messages than it is handed. -/
theorem receivedCount_recordAll
    (bench : Benchmark) (payloads : List Text) (receiveNs : UInt64) :
    bench.collector.receivedCount ≤
        (bench.recordAll payloads receiveNs).receivedCount ∧
      (bench.recordAll payloads receiveNs).receivedCount ≤
        bench.collector.receivedCount + payloads.length := by
  unfold Benchmark.recordAll
  split
  · have bounds :=
      receivedCount_after bench.collector
        (payloads.map fun payload => ⟨payload, receiveNs⟩)
    rwa [List.length_map] at bounds
  · omega

/-- The cursor passes every message that it delivers. -/
theorem next_add_received_le
    {memory : RingMemory} {reader : ShmRingReader}
    (bound : CursorBound memory reader) (few : memory.writeSeq < 2 ^ 63)
    (id : Nat) :
    reader.next +
        (receivedBytes (readerStep id memory reader).2).toList.length ≤
      (readerStep id memory reader).1.next := by
  obtain ⟨ring, next, dropped, out, pc⟩ := reader
  obtain ⟨nextLe, nextLt⟩ := bound
  dsimp only at nextLe nextLt
  cases pc with
  | idle =>
      simp [readerStep, receivedBytes]
  | loadWriteSeq =>
      simp only [readerStep]
      split_ifs with caughtUp behind
      · simp [receivedBytes]
      · have silent (positions : List Nat) :
            receivedBytes
                (positions.map fun pos =>
                  RingEvent.dropped id pos memory.writeSeq) =
              none := by
          rw [receivedBytes, List.findSome?_eq_none_iff]
          intro event member
          obtain ⟨pos, _, rfl⟩ := List.mem_map.mp member
          rfl
        rw [silent]
        simp only [ShmRingReader.fastForward, Option.toList_none,
          List.length_nil]
        omega
      · simp [receivedBytes]
  | loadSeq | loadLen =>
      have strict := nextLt rfl
      simp only [readerStep]
      split_ifs
      all_goals simp [receivedBytes, ShmRingReader.dropOne]
      omega
  | copying len copied =>
      have strict := nextLt rfl
      simp only [readerStep]
      split_ifs
      all_goals simp [receivedBytes, ShmRingReader.dropOne]
      all_goals omega

/-! ## The window -/

/-- How far the loop and the writer are ahead of the collector, for each place
of the loop. -/
def PublisherPc.Within (count receivedCount writeSeq : Nat) :
    PublisherPc → Prop
  | .ready i =>
      writeSeq ≤ i ∧ i ≤ count ∧ i ≤ receivedCount + kBenchmarkInFlightWindow
  | .publishing i | .waiting i =>
      writeSeq ≤ i + 1 ∧ i < count ∧
        i ≤ receivedCount + kBenchmarkInFlightWindow
  | .left =>
      writeSeq ≤ count ∧
        writeSeq ≤ receivedCount + kBenchmarkInFlightWindow + 1

namespace PublisherPc.Within

variable {publisher : PublisherPc} {count receivedCount writeSeq : Nat}

/-- Wherever the loop stands, the writer is at most one message ahead of the
window. -/
theorem writer (within : publisher.Within count receivedCount writeSeq) :
    writeSeq ≤ count ∧
      writeSeq ≤ receivedCount + kBenchmarkInFlightWindow + 1 := by
  cases publisher <;> simp only [PublisherPc.Within] at within <;> omega

theorem mono
    (within : publisher.Within count receivedCount writeSeq)
    {later : Nat} (grown : receivedCount ≤ later) :
    publisher.Within count later writeSeq := by
  cases publisher <;> simp only [PublisherPc.Within] at within ⊢ <;> omega

end PublisherPc.Within

/-- The reader of the poller: its cursor has passed whatever is counted or on
its way to the collector. -/
structure Passed (bench : Benchmark) (reader : ShmRingReader) : Prop where
  view : reader.ring = benchmarkRing.view
  cursor : CursorBound bench.ring.memory reader
  counted :
    bench.collector.receivedCount + waiting bench.subscriber +
        bench.delivering.toList.length ≤
      reader.next

/-- The invariant of the loop and its threads. -/
structure InWindow (options : BenchOptions) (bench : Benchmark) : Prop where
  reader : ∃ reader, bench.ring.readers[0]? = some reader ∧ Passed bench reader
  publisher :
    bench.publisher.Within options.count bench.collector.receivedCount
      bench.ring.memory.writeSeq

theorem inWindow_start
    (options : BenchOptions) (runId : Text) (before : RingMemory) :
    InWindow options (Benchmark.start options runId before) where
  reader :=
    ⟨_, rfl, rfl, CursorBound.create _ _, Nat.le_refl 0⟩
  publisher := ⟨Nat.le_refl 0, Nat.zero_le _, Nat.zero_le _⟩

/-! ## The ring -/

section Ring

variable {system target : RingSystem} {emitted : List RingEvent}

theorem writeSeq_writerStep
    {ring : ShmRing} {memory changed : RingMemory} {writer moved : WriterPc}
    (stored : writerStep ring memory writer = some (moved, changed)) :
    changed.writeSeq = memory.writeSeq := by
  unfold writerStep at stored
  split at stored
  · cases stored
  · cases stored
    rfl
  · cases stored
    rfl
  · split at stored <;> cases stored <;> rfl

/-- A step of the ring that neither claims a position nor is the poller's. -/
def IsQuiet (input : RingInput) : Prop :=
  input = .writer ∨ input = .attach ∨ ∃ id, id ≠ 0 ∧ input = .reader id

/-- Stores of the writer and steps of other readers leave the poller's reader
and `write_seq` alone. -/
theorem step_quiet
    {input : RingInput} (quiet : IsQuiet input)
    (stepped : system.step input = some (target, emitted))
    {reader : ShmRingReader} (found : system.readers[0]? = some reader) :
    target.memory.writeSeq = system.memory.writeSeq ∧
      target.readers[0]? = some reader := by
  obtain ⟨inside, _⟩ := List.getElem?_eq_some_iff.mp found
  cases RingSystem.steps_of_step stepped with
  | refuse | claim =>
      rcases quiet with other | other | ⟨_, _, other⟩ <;> cases other
  | store writer memory stored =>
      exact ⟨writeSeq_writerStep stored, found⟩
  | attach ring attached =>
      refine ⟨rfl, ?_⟩
      rw [List.getElem?_append_left inside]
      exact found
  | load id other otherFound =>
      rcases quiet with same | same | ⟨id', different, same⟩
      · cases same
      · cases same
      · cases same
        refine ⟨rfl, ?_⟩
        rw [List.getElem?_set_ne different]
        exact found

/-- A write claims one position at most. -/
theorem step_beginWrite
    {data : Bytes} (few : system.memory.writeSeq < 2 ^ 63)
    (stepped : system.step (.beginWrite data) = some (target, emitted)) :
    system.memory.writeSeq ≤ target.memory.writeSeq ∧
      target.memory.writeSeq ≤ system.memory.writeSeq + 1 ∧
      target.readers = system.readers := by
  cases RingSystem.steps_of_step stepped with
  | refuse =>
      exact ⟨Nat.le_refl _, Nat.le_succ _, rfl⟩
  | claim =>
      have next :
          system.memory.fetchAdd.2.writeSeq = system.memory.writeSeq + 1 :=
        Nat.mod_eq_of_lt (by omega)
      exact ⟨by simp only [next]; omega, by simp only [next]; omega, rfl⟩

theorem step_load
    (stepped : system.step (.reader 0) = some (target, emitted))
    {reader : ShmRingReader} (found : system.readers[0]? = some reader) :
    target.memory = system.memory ∧
      target.readers[0]? = some (readerStep 0 system.memory reader).1 ∧
      emitted = (readerStep 0 system.memory reader).2 := by
  obtain ⟨inside, _⟩ := List.getElem?_eq_some_iff.mp found
  cases RingSystem.steps_of_step stepped with
  | load _ other otherFound =>
      obtain rfl := Option.some.inj (found.symm.trans otherFound)
      exact ⟨rfl, by rw [List.getElem?_set_self inside], rfl⟩

end Ring

/-! ## Steps -/

/-- The steps of the loop and its threads, one constructor for each outcome. -/
inductive Benchmark.Steps (options : BenchOptions)
    (parse : Bytes → Option Text) (bench : Benchmark) :
    BenchmarkInput → Benchmark → List BenchmarkEvent → Prop
  | refused (i : Nat) (sendNs : UInt64) :
      bench.publisher = .ready i →
      i < options.count →
      Benchmark.Steps options parse bench (.publish sendNs)
        { bench with publisher := .left }
        [.publishStarts i bench.collector.receivedCount]
  | claimed (i : Nat) (sendNs : UInt64) (message : Bytes) (ring : RingSystem)
      (events : List RingEvent) :
      bench.publisher = .ready i →
      i < options.count →
      bench.ring.step (.beginWrite message) = some (ring, events) →
      Benchmark.Steps options parse bench (.publish sendNs)
        { bench with publisher := .publishing i, ring := ring }
        (.publishStarts i bench.collector.receivedCount :: events.map .ring)
  | store (i : Nat) (ring : RingSystem) (events : List RingEvent) :
      bench.publisher = .publishing i →
      bench.ring.step .writer = some (ring, events) →
      Benchmark.Steps options parse bench .store { bench with ring := ring }
        (events.map .ring)
  | published (i : Nat) :
      bench.publisher = .publishing i →
      bench.ring.writer = .idle →
      Benchmark.Steps options parse bench .published
        { bench with publisher := .waiting i } []
  | advance (i : Nat) :
      bench.publisher = .waiting i →
      flowControlTarget (i + 1) ≤ bench.collector.receivedCount →
      Benchmark.Steps options parse bench .advance
        { bench with publisher := .ready (i + 1) } []
  | finish (i : Nat) :
      bench.publisher = .ready i →
      Benchmark.Steps options parse bench .leave
        { bench with publisher := .left } []
  | timeout (i : Nat) :
      bench.publisher = .waiting i →
      bench.collector.receivedCount < flowControlTarget (i + 1) →
      Benchmark.Steps options parse bench .leave
        { bench with publisher := .left } []
  | load (ring : RingSystem) (events : List RingEvent) :
      bench.delivering = none →
      bench.ring.step (.reader 0) = some (ring, events) →
      Benchmark.Steps options parse bench .load
        { bench with ring := ring, delivering := receivedBytes events }
        (events.map .ring)
  | deliver (bytes : Bytes) (subscriber : Subscriber)
      (events : List (SubscriberEvent Text)) :
      bench.delivering = some bytes →
      bench.subscriber.step parse (.enqueue bytes) =
        some (subscriber, events) →
      Benchmark.Steps options parse bench .deliver
        { bench with delivering := none, subscriber := subscriber }
        (events.map .subscriber)
  | take (subscriber : Subscriber) (events : List (SubscriberEvent Text)) :
      bench.subscriber.step parse .take = some (subscriber, events) →
      Benchmark.Steps options parse bench .take
        { bench with subscriber := subscriber } (events.map .subscriber)
  | handle (receiveNs : UInt64) (subscriber : Subscriber)
      (events : List (SubscriberEvent Text)) :
      bench.subscriber.step parse .handle = some (subscriber, events) →
      Benchmark.Steps options parse bench (.handle receiveNs)
        { bench with
          subscriber := subscriber
          collector := bench.recordAll (callbacks events) receiveNs }
        (events.map .subscriber)
  | stopAccepting :
      bench.publisher = .left →
      Benchmark.Steps options parse bench .stopAccepting
        { bench with accepting := false } []
  | attachOther (ring : RingSystem) (events : List RingEvent) :
      bench.ring.step .attach = some (ring, events) →
      Benchmark.Steps options parse bench .attachOther
        { bench with ring := ring } (events.map .ring)
  | loadOther (id : Nat) (ring : RingSystem) (events : List RingEvent) :
      id ≠ 0 →
      bench.ring.step (.reader id) = some (ring, events) →
      Benchmark.Steps options parse bench (.loadOther id)
        { bench with ring := ring } (events.map .ring)

section Steps

variable {options : BenchOptions} {runId : Text}
variable {parse : Bytes → Option Text} {bench target : Benchmark}
variable {input : BenchmarkInput} {emitted : List BenchmarkEvent}

theorem Benchmark.exists_of_onRing
    {ringInput : RingInput}
    (stepped : bench.onRing ringInput = some (target, emitted)) :
    ∃ ring events, bench.ring.step ringInput = some (ring, events) ∧
      target = { bench with ring := ring } ∧ emitted = events.map .ring := by
  obtain ⟨⟨ring, events⟩, moved, equal⟩ := Option.map_eq_some_iff.mp stepped
  cases equal
  exact ⟨ring, events, moved, rfl, rfl⟩

theorem Benchmark.exists_of_onSubscriber
    {subscriberInput : SubscriberInput}
    (stepped :
      bench.onSubscriber parse subscriberInput = some (target, emitted)) :
    ∃ subscriber events,
      bench.subscriber.step parse subscriberInput = some (subscriber, events) ∧
        target = { bench with subscriber := subscriber } ∧
        emitted = events.map .subscriber := by
  obtain ⟨⟨subscriber, events⟩, moved, equal⟩ :=
    Option.map_eq_some_iff.mp stepped
  cases equal
  exact ⟨subscriber, events, moved, rfl, rfl⟩

theorem Benchmark.steps_of_publish
    {i : Nat} (ready : bench.publisher = .ready i) (more : i < options.count)
    {sendNs : UInt64}
    (stepped : bench.publish options runId i sendNs = some (target, emitted)) :
    bench.Steps options parse (.publish sendNs) target emitted := by
  unfold publish at stepped
  dsimp only at stepped
  split at stepped
  · cases stepped
    exact Steps.refused i sendNs ready more
  · obtain ⟨⟨middle, ringEvents⟩, onRing, equal⟩ :=
      Option.map_eq_some_iff.mp stepped
    cases equal
    obtain ⟨ring, events, moved, rfl, rfl⟩ := exists_of_onRing onRing
    exact Steps.claimed i sendNs _ ring events ready more moved

theorem Benchmark.steps_of_step
    (stepped :
      bench.step options runId parse input = some (target, emitted)) :
    bench.Steps options parse input target emitted := by
  cases input with
  | publish sendNs =>
      simp only [step] at stepped
      split at stepped
      · rename_i i ready
        split at stepped
        · rename_i more
          exact steps_of_publish ready more stepped
        · cases stepped
      · cases stepped
  | store =>
      simp only [step] at stepped
      split at stepped
      · rename_i i place
        obtain ⟨ring, events, moved, rfl, rfl⟩ := exists_of_onRing stepped
        exact Steps.store i ring events place moved
      · cases stepped
  | published =>
      simp only [step] at stepped
      split at stepped
      · rename_i i place idle
        cases stepped
        exact Steps.published i place idle
      · cases stepped
  | advance =>
      simp only [step] at stepped
      split at stepped
      · rename_i i place
        split at stepped
        · rename_i received
          cases stepped
          exact Steps.advance i place received
        · cases stepped
      · cases stepped
  | leave =>
      simp only [step] at stepped
      split at stepped
      · rename_i i place
        cases stepped
        exact Steps.finish i place
      · rename_i i place
        split at stepped
        · cases stepped
        · rename_i missing
          cases stepped
          exact Steps.timeout i place (Nat.lt_of_not_le missing)
      · cases stepped
  | load =>
      simp only [step] at stepped
      split at stepped
      · cases stepped
      · rename_i idle
        obtain ⟨⟨ring, events⟩, moved, equal⟩ :=
          Option.map_eq_some_iff.mp stepped
        cases equal
        exact Steps.load ring events idle moved
  | deliver =>
      simp only [step] at stepped
      split at stepped
      · cases stepped
      · rename_i bytes busy
        obtain ⟨subscriber, events, moved, rfl, rfl⟩ :=
          exists_of_onSubscriber stepped
        exact Steps.deliver bytes subscriber events busy moved
  | take =>
      obtain ⟨subscriber, events, moved, rfl, rfl⟩ :=
        exists_of_onSubscriber stepped
      exact Steps.take subscriber events moved
  | handle receiveNs =>
      obtain ⟨⟨subscriber, events⟩, moved, equal⟩ :=
        Option.map_eq_some_iff.mp stepped
      cases equal
      exact Steps.handle receiveNs subscriber events moved
  | stopAccepting =>
      simp only [step] at stepped
      split at stepped
      · rename_i left
        cases stepped
        exact Steps.stopAccepting left
      · cases stepped
  | attachOther =>
      obtain ⟨ring, events, moved, rfl, rfl⟩ := exists_of_onRing stepped
      exact Steps.attachOther ring events moved
  | loadOther id =>
      simp only [step] at stepped
      split at stepped
      · cases stepped
      · rename_i other
        obtain ⟨ring, events, moved, rfl, rfl⟩ := exists_of_onRing stepped
        exact Steps.loadOther id ring events other moved

/-- The loop moves while the other threads rest. -/
theorem InWindow.moved
    (holds : InWindow options bench) (publisher : PublisherPc)
    (within :
      publisher.Within options.count bench.collector.receivedCount
        bench.ring.memory.writeSeq)
    (accepting : Bool) :
    InWindow options
      { bench with publisher := publisher, accepting := accepting } := by
  obtain ⟨reader, found, view, cursor, counted⟩ := holds.reader
  exact ⟨⟨reader, found, view, cursor, counted⟩, within⟩

theorem InWindow.quiet
    (holds : InWindow options bench) {ringInput : RingInput}
    (quiet : IsQuiet ringInput) {ring : RingSystem} {events : List RingEvent}
    (moved : bench.ring.step ringInput = some (ring, events)) :
    InWindow options { bench with ring := ring } := by
  obtain ⟨reader, found, view, cursor, counted⟩ := holds.reader
  obtain ⟨sameSeq, kept⟩ := step_quiet quiet moved found
  have within := holds.publisher
  rw [← sameSeq] at within
  exact ⟨⟨reader, kept, view, cursor.mono (by rw [sameSeq]), counted⟩, within⟩

/-- A publish that starts is within the window and claims one position at
most. -/
theorem InWindow.claim
    (holds : InWindow options bench) (few : options.count < 2 ^ 63)
    {i : Nat} (ready : bench.publisher = .ready i) (more : i < options.count)
    {message : Bytes} {ring : RingSystem} {events : List RingEvent}
    (moved : bench.ring.step (.beginWrite message) = some (ring, events)) :
    InWindow options { bench with publisher := .publishing i, ring := ring } := by
  have within := holds.publisher
  rw [ready] at within
  obtain ⟨written, _, window⟩ := within
  obtain ⟨reader, found, view, cursor, counted⟩ := holds.reader
  obtain ⟨grown, claimed, kept⟩ := step_beginWrite (by omega) moved
  have within :
      (PublisherPc.publishing i).Within options.count
        bench.collector.receivedCount ring.memory.writeSeq :=
    ⟨by omega, more, window⟩
  exact ⟨⟨reader, kept ▸ found, view, cursor.mono grown, counted⟩, within⟩

theorem InWindow.load
    (holds : InWindow options bench) (few : options.count < 2 ^ 63)
    (idle : bench.delivering = none) {ring : RingSystem}
    {events : List RingEvent}
    (moved : bench.ring.step (.reader 0) = some (ring, events)) :
    InWindow options
      { bench with ring := ring, delivering := receivedBytes events } := by
  obtain ⟨reader, found, view, cursor, counted⟩ := holds.reader
  obtain ⟨sameMemory, there, rfl⟩ := step_load moved found
  have written := holds.publisher.writer.1
  have passed := next_add_received_le cursor (by omega) 0
  have sameView :
      (readerStep 0 bench.ring.memory reader).1.ring = reader.ring :=
    readerStep_ring bench.ring.memory reader
  have twoSlots : 2 ≤ reader.ring.slotCount := by
    rw [view]
    decide
  rw [idle, Option.toList_none, List.length_nil] at counted
  refine ⟨⟨_, there, sameView.trans view, ?_, ?_⟩, ?_⟩
  · rw [sameMemory]
    exact cursor.readerStep 0 twoSlots (by omega)
  · dsimp only
    omega
  · rw [sameMemory]
    exact holds.publisher

/-- Messages move on from the poller to the subscriber and inside it. -/
theorem InWindow.onSubscriber
    (holds : InWindow options bench) {delivering : Option Bytes}
    {subscriber : Subscriber}
    (kept :
      waiting subscriber + delivering.toList.length ≤
        waiting bench.subscriber + bench.delivering.toList.length) :
    InWindow options
      { bench with delivering := delivering, subscriber := subscriber } := by
  obtain ⟨reader, found, view, cursor, counted⟩ := holds.reader
  refine ⟨⟨reader, found, view, cursor, ?_⟩, holds.publisher⟩
  dsimp only
  omega

theorem InWindow.handle
    (holds : InWindow options bench) {subscriber : Subscriber}
    {events : List (SubscriberEvent Text)}
    (moved : bench.subscriber.step parse .handle = some (subscriber, events))
    (receiveNs : UInt64) :
    InWindow options
      { bench with
        subscriber := subscriber
        collector := bench.recordAll (callbacks events) receiveNs } := by
  obtain ⟨reader, found, view, cursor, counted⟩ := holds.reader
  have handed := waiting_handle moved
  obtain ⟨grown, recorded⟩ :=
    receivedCount_recordAll bench (callbacks events) receiveNs
  refine ⟨⟨reader, found, view, cursor, ?_⟩, holds.publisher.mono grown⟩
  dsimp only
  omega

theorem InWindow.step
    (holds : InWindow options bench) (few : options.count < 2 ^ 63)
    (stepped :
      bench.step options runId parse input = some (target, emitted)) :
    InWindow options target := by
  have left := holds.publisher.writer
  cases Benchmark.steps_of_step stepped with
  | refused =>
      exact holds.moved .left left bench.accepting
  | claimed i sendNs message ring events ready more moved =>
      exact holds.claim few ready more moved
  | store i ring events _ moved =>
      exact holds.quiet (Or.inl rfl) moved
  | published i place =>
      have within := holds.publisher
      rw [place] at within
      exact holds.moved (.waiting i) within bench.accepting
  | advance i place received =>
      have within := holds.publisher
      rw [place] at within
      obtain ⟨written, more, _⟩ := within
      have window :
          i + 1 ≤ bench.collector.receivedCount + kBenchmarkInFlightWindow := by
        unfold flowControlTarget at received
        split at received <;> omega
      exact holds.moved (.ready (i + 1)) ⟨written, more, window⟩
        bench.accepting
  | finish =>
      exact holds.moved .left left bench.accepting
  | timeout =>
      exact holds.moved .left left bench.accepting
  | load ring events idle moved =>
      exact holds.load few idle moved
  | deliver bytes subscriber events busy moved =>
      have enqueued := waiting_enqueue moved
      apply holds.onSubscriber
      rw [busy]
      exact enqueued
  | take subscriber events moved =>
      have taken := waiting_take moved
      exact holds.onSubscriber (Nat.add_le_add_right taken _)
  | handle receiveNs subscriber events moved =>
      exact holds.handle moved receiveNs
  | stopAccepting =>
      exact holds.moved bench.publisher holds.publisher false
  | attachOther ring events moved =>
      exact holds.quiet (Or.inr (Or.inl rfl)) moved
  | loadOther id ring events other moved =>
      exact holds.quiet (Or.inr (Or.inr ⟨id, other, rfl⟩)) moved

/-! ## The start of a publish -/

/-- Only the pass for a message starts its publish. -/
theorem ready_of_publishStarts
    (stepped :
      bench.step options runId parse input = some (target, emitted))
    {sequence receivedCount : Nat}
    (member : .publishStarts sequence receivedCount ∈ emitted) :
    bench.publisher = .ready sequence ∧
      receivedCount = bench.collector.receivedCount := by
  cases Benchmark.steps_of_step stepped with
  | refused i sendNs ready =>
      cases List.mem_singleton.mp member
      exact ⟨ready, rfl⟩
  | claimed i sendNs message ring events ready =>
      rcases List.mem_cons.mp member with same | later
      · cases same
        exact ⟨ready, rfl⟩
      · simp at later
  | _ =>
      simp at member

/-- The numbers of a publish that starts within the window. -/
def StartsWithin : BenchmarkEvent → Prop
  | .publishStarts sequence receivedCount =>
      receivedCount ≤ sequence ∧
        sequence ≤ receivedCount + kBenchmarkInFlightWindow
  | _ => True

/-- A publish starts within the window, and nothing is counted that was not
published. -/
theorem InWindow.starts
    (holds : InWindow options bench)
    (stepped :
      bench.step options runId parse input = some (target, emitted)) :
    ∀ event ∈ emitted, StartsWithin event := by
  intro event member
  cases event with
  | publishStarts sequence receivedCount =>
      obtain ⟨ready, rfl⟩ := ready_of_publishStarts stepped member
      have within := holds.publisher
      rw [ready] at within
      obtain ⟨written, _, window⟩ := within
      obtain ⟨reader, _, _, cursor, counted⟩ := holds.reader
      have behind := cursor.next_le
      exact ⟨by omega, window⟩
  | _ =>
      trivial

end Steps

/-! ## Runs -/

theorem inWindow_of_run
    {options : BenchOptions} (few : options.count < 2 ^ 63) {runId : Text}
    {parse : Bytes → Option Text} {inputs : List BenchmarkInput}
    {bench : Benchmark} {events : List BenchmarkEvent}
    (run :
      (benchmarkMachine options runId parse).Run Machine.free inputs bench
        events) :
    InWindow options bench ∧ ∀ event ∈ events, StartsWithin event := by
  refine run.invariant
    (fun bench events =>
      InWindow options bench ∧ ∀ event ∈ events, StartsWithin event) ?_ ?_
  · rintro bench ⟨before, rfl⟩
    exact ⟨inWindow_start options runId before, by simp⟩
  · rintro bench events input target emitted ⟨holds, earlier⟩ _ stepped
    refine ⟨holds.step few stepped, fun event member => ?_⟩
    rcases List.mem_append.mp member with before | now
    · exact earlier event before
    · exact holds.starts stepped event now

/-- The next load of the reader takes the branch of `read` that
fast-forwards. -/
def FastForwards (memory : RingMemory) (reader : ShmRingReader) : Prop :=
  reader.pc = .loadWriteSeq ∧ reader.next < memory.writeSeq ∧
    reader.ring.slotCount < memory.writeSeq - reader.next

/-- In every run a publish starts with at most 16 messages that are not
received, the reader lags at most 17 messages, and it never fast-forwards. -/
theorem publishLoop_inWindow
    {args : List Text} (accepted : (parseBenchArgs args).IsRun)
    (runId : Text) (parse : Bytes → Option Text)
    {inputs : List BenchmarkInput} {bench : Benchmark}
    {events : List BenchmarkEvent}
    (run :
      (benchmarkMachine (parseBenchArgs args).options runId parse).Run
        Machine.free inputs bench events) :
    (∀ k receivedCount, .publishStarts k receivedCount ∈ events →
      receivedCount ≤ k ∧ k - receivedCount ≤ 16) ∧
      ∃ reader, bench.ring.readers[0]? = some reader ∧
        reader.ring.slotCount = 32 ∧
        reader.next ≤ bench.ring.memory.writeSeq ∧
        bench.ring.memory.writeSeq - reader.next ≤ 17 ∧
        ¬ FastForwards bench.ring.memory reader := by
  have few : (parseBenchArgs args).options.count < 2 ^ 63 := by
    have limited := count_le_of_isRun accepted
    unfold kMaxBenchmarkCount at limited
    omega
  obtain ⟨holds, starts⟩ := inWindow_of_run few run
  constructor
  · intro k receivedCount member
    obtain ⟨published, window⟩ := starts _ member
    unfold kBenchmarkInFlightWindow at window
    exact ⟨published, by omega⟩
  · obtain ⟨reader, found, view, cursor, counted⟩ := holds.reader
    have ahead := holds.publisher.writer.2
    unfold kBenchmarkInFlightWindow at ahead
    have slots : reader.ring.slotCount = 32 := by
      rw [view]
      rfl
    refine ⟨reader, found, slots, cursor.next_le, by omega, ?_⟩
    rintro ⟨_, _, far⟩
    omega

/-- The first message is being written while the poller looks for it. -/
theorem publishLoop_inWindow_firstMessage :
    ∃ bench events,
      .publishStarts 0 0 ∈ events ∧
        (benchmarkMachine (parseBenchArgs ["mm_bench".toList]).options ['r']
            fun _ => none).Run
          Machine.free [.load, .publish 5, .store, .load, .load] bench events ∧
        ∃ reader, bench.ring.readers[0]? = some reader ∧
          bench.ring.memory.writeSeq - reader.next ≤ 17 := by
  obtain ⟨bench, events, run, checked⟩ :=
    Machine.run_of_exec_check
      (benchmarkMachine (parseBenchArgs ["mm_bench".toList]).options ['r']
        fun _ => none)
      Machine.free [.load, .publish 5, .store, .load, .load]
      (Benchmark.start (parseBenchArgs ["mm_bench".toList]).options ['r']
        zeroedMemory)
      (fun _ events => decide (.publishStarts 0 0 ∈ events)) ⟨_, rfl⟩
      (by decide +kernel)
  obtain ⟨_, reader, found, _, _, lag, _⟩ :=
    publishLoop_inWindow ⟨by decide +kernel, by decide +kernel⟩ ['r']
      (fun _ => none) run
  exact ⟨bench, events, of_decide_eq_true checked, run, reader, found, lag⟩

end MiniMiddleware.Bench
