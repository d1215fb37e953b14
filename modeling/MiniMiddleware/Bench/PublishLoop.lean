import MiniMiddleware.Bench.BenchmarkSampleCollector
import MiniMiddleware.Bench.RunMessages
import MiniMiddleware.Core.Subscriber
import MiniMiddleware.Transport.ShmRingCursor

/-!
# The publish loop of the benchmark

In mode `shm` the messages of a run pass four threads.  The loop publishes, that
is, it writes to the ring, and waits until enough messages have been received;
the poller reads the ring and enqueues what it has read; the worker of the
subscriber pops, parses and calls back; the callback records.  The segment is
written by this publisher only, and the poller has attached its reader before
the loop starts.  Further readers of the segment do not matter.

Each step is one load or store on the ring, one critical section of the queue,
or one pass of the loop to its next wait.  The parser of the messages is
generated code, which is a parameter here.
-/

namespace MiniMiddleware.Bench

open MiniMiddleware.Core MiniMiddleware.Library MiniMiddleware.Protobuf
open MiniMiddleware.Transport

/-- `kBenchmarkInFlightWindow`. -/
def kBenchmarkInFlightWindow : Nat := 16

/-- `flow_control_target`. -/
def flowControlTarget (publishedCount : Nat) : Nat :=
  if kBenchmarkInFlightWindow < publishedCount then
    publishedCount - kBenchmarkInFlightWindow
  else
    0

/-- `benchmark_qos`; the depth is the default. -/
def benchmarkQos : Qos where
  history := .keepAll
  depth := 16

/-- The ring that the data plane creates. -/
def benchmarkRing : RingConfig where
  slotCount := kShmSlotCount
  slotSize := kShmSlotCapacity
  powerOfTwo := ⟨5, by decide, rfl⟩
  slotSizeBound := by decide

/-! ## The threads -/

/-- Where the publish loop stands: in front of the pass for `i`, inside
`publish`, at the wait behind it, or behind the loop. -/
inductive PublisherPc where
  | ready (i : Nat)
  | publishing (i : Nat)
  | waiting (i : Nat)
  | left
  deriving DecidableEq, Repr

/-- The publish loop and the threads that its messages pass.  `delivering` is
the message that the poller has read and not yet enqueued; `accepting` and
`collector` are the members of `CallbackState`. -/
structure Benchmark where
  publisher : PublisherPc
  ring : RingSystem
  delivering : Option Bytes
  subscriber : Subscriber
  collector : BenchmarkSampleCollector
  accepting : Bool

/-- What a thread does next. -/
inductive BenchmarkInput where
  /-- The pass for the next message begins before the deadline. -/
  | publish (sendNs : UInt64)
  /-- The next store of the write, and the return of `publish`. -/
  | store
  | published
  /-- The wait is over: enough messages are received. -/
  | advance
  /-- The deadline has come, or all messages are published. -/
  | leave
  /-- The poller: a load of `read`, and `deliver_inbound` of its result. -/
  | load
  | deliver
  /-- The worker: `pop`, and the callback. -/
  | take
  | handle (receiveNs : UInt64)
  /-- The end of `main`. -/
  | stopAccepting
  /-- Other readers of the segment. -/
  | attachOther
  | loadOther (id : Nat)
  deriving DecidableEq, Repr

/-- What becomes visible.  The start of a publish carries the number of its
message and `received_count()` at that moment. -/
inductive BenchmarkEvent where
  | publishStarts (sequence receivedCount : Nat)
  | ring (event : RingEvent)
  | subscriber (event : SubscriberEvent Text)
  deriving DecidableEq, Repr

namespace Benchmark

/-- The threads when the loop starts: the ring is initialised and the poller
has attached to it. -/
def start (options : BenchOptions) (runId : Text) (before : RingMemory) :
    Benchmark :=
  let system := RingSystem.start benchmarkRing before
  { publisher := .ready 0
    ring :=
      { system with
        readers := [ShmRingReader.create system.ring system.memory] }
    delivering := none
    subscriber := .created benchmarkQos
    collector := .create runId options.count
    accepting := true }

/-- A step on the ring. -/
def onRing (bench : Benchmark) (input : RingInput) :
    Option (Benchmark × List BenchmarkEvent) :=
  (bench.ring.step input).map fun outcome =>
    ({ bench with ring := outcome.1 }, outcome.2.map .ring)

/-- `publish`, up to the first store of the write; a message that cannot be
serialized ends the loop. -/
def publish (options : BenchOptions) (runId : Text) (bench : Benchmark)
    (i : Nat) (sendNs : UInt64) :
    Option (Benchmark × List BenchmarkEvent) :=
  let message := stringMsg (textBytes (runPayload options runId i sendNs))
  let starts := .publishStarts i bench.collector.receivedCount
  if maxMessageSize < message.length then
    some ({ bench with publisher := .left }, [starts])
  else
    (bench.onRing (.beginWrite message)).map fun outcome =>
      ({ outcome.1 with publisher := .publishing i }, starts :: outcome.2)

/-- A step on the subscriber. -/
def onSubscriber (parse : Bytes → Option Text) (bench : Benchmark)
    (input : SubscriberInput) : Option (Benchmark × List BenchmarkEvent) :=
  (bench.subscriber.step parse input).map fun outcome =>
    ({ bench with subscriber := outcome.1 }, outcome.2.map .subscriber)

/-- The callback for the messages that the worker hands over. -/
def recordAll (bench : Benchmark) (payloads : List Text) (receiveNs : UInt64) :
    BenchmarkSampleCollector :=
  if bench.accepting then
    bench.collector.after (payloads.map fun payload => ⟨payload, receiveNs⟩)
  else
    bench.collector

/-- One step. -/
def step (options : BenchOptions) (runId : Text)
    (parse : Bytes → Option Text) (bench : Benchmark) :
    BenchmarkInput → Option (Benchmark × List BenchmarkEvent)
  | .publish sendNs =>
      match bench.publisher with
      | .ready i =>
          if i < options.count then bench.publish options runId i sendNs
          else none
      | _ => none
  | .store =>
      match bench.publisher with
      | .publishing _ => bench.onRing .writer
      | _ => none
  | .published =>
      match bench.publisher, bench.ring.writer with
      | .publishing i, .idle =>
          some ({ bench with publisher := .waiting i }, [])
      | _, _ => none
  | .advance =>
      match bench.publisher with
      | .waiting i =>
          if flowControlTarget (i + 1) ≤ bench.collector.receivedCount then
            some ({ bench with publisher := .ready (i + 1) }, [])
          else
            none
      | _ => none
  | .leave =>
      match bench.publisher with
      | .ready _ => some ({ bench with publisher := .left }, [])
      | .waiting i =>
          if flowControlTarget (i + 1) ≤ bench.collector.receivedCount then
            none
          else
            some ({ bench with publisher := .left }, [])
      | _ => none
  | .load =>
      match bench.delivering with
      | some _ => none
      | none =>
          (bench.ring.step (.reader 0)).map fun outcome =>
            ({ bench with
                ring := outcome.1
                delivering := receivedBytes outcome.2 },
              outcome.2.map .ring)
  | .deliver =>
      match bench.delivering with
      | none => none
      | some bytes =>
          { bench with delivering := none }.onSubscriber parse (.enqueue bytes)
  | .take => bench.onSubscriber parse .take
  | .handle receiveNs =>
      (bench.subscriber.step parse .handle).map fun outcome =>
        ({ bench with
            subscriber := outcome.1
            collector := bench.recordAll (callbacks outcome.2) receiveNs },
          outcome.2.map .subscriber)
  | .stopAccepting =>
      match bench.publisher with
      | .left => some ({ bench with accepting := false }, [])
      | _ => none
  | .attachOther => bench.onRing .attach
  | .loadOther id => if id = 0 then none else bench.onRing (.reader id)

end Benchmark

/-- All interleavings of the publish loop and the threads behind it. -/
def benchmarkMachine (options : BenchOptions) (runId : Text)
    (parse : Bytes → Option Text) :
    Machine Benchmark BenchmarkInput BenchmarkEvent where
  initial bench := ∃ before, bench = Benchmark.start options runId before
  step := Benchmark.step options runId parse

end MiniMiddleware.Bench
