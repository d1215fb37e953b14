import MiniMiddleware.Core.ShmReaderManager
import MiniMiddleware.Library.Machine
import Mathlib.Logic.Function.Basic

/-!
# A network of nodes

Every participant has a data plane and the endpoints it advertises; a host id
stands for the shared memory of one host; TCP frames are on the wire until
they are delivered, in any order, or never.  The operations of the nodes are
the steps: creating publishers and subscribers, the two callbacks of
discovery, publishing, polling, and the arrival of a frame.

Which matches discovery reports is left to the guard of a run, so that the
results say what they need of it.
-/

namespace MiniMiddleware.Core

open MiniMiddleware.Library MiniMiddleware.Discovery MiniMiddleware.Transport

/-- A `DataMessage` on the way to the data server of a peer. -/
structure Frame where
  peer : Nat
  topic : Text
  bytes : Bytes
  deriving DecidableEq, Repr

/-- All participants by id, the shared memory of each host id, and the wire. -/
structure Fabric where
  planes : Nat → DataPlane
  endpoints : Nat → List EndpointInfo
  memory : Text → SharedMemory
  wire : List Frame

/-- The operations of the participant `pid`, and the arrival of a frame. -/
inductive FabricInput where
  | createPublisher (pid : Nat) (topic typeName : Text) (reliability : Nat)
  | createSubscriber (pid : Nat) (topic typeName : Text) (reliability : Nat)
  | handleMatch (pid : Nat) (m : MatchInfo) (outcome : CreateOutcome)
  | handleUnmatch (pid : Nat) (m : MatchInfo)
  | publish (pid : Nat) (topic typeName : Text) (bytes : Bytes)
  | poll (pid : Nat)
  | arrive (index : Nat)
  deriving DecidableEq, Repr

/-- What becomes visible: a publisher hands bytes to its bus, a shared-memory
reader passes bytes to `deliver_inbound`, and `enqueue` of a subscriber is
called. -/
inductive FabricEvent where
  | published (pid : Nat) (topic typeName : Text) (bytes : Bytes)
  | read (pid : Nat) (segName topic : Text) (bytes : Bytes)
  | enqueued (pid : Nat) (sink : SinkHandle) (bytes : Bytes)
  deriving DecidableEq, Repr

/-- The ring of every segment of the data plane. -/
def shmView : ShmRing :=
  ⟨kShmSlotCount, kShmSlotCapacity⟩

/-- `ShmSink::enqueue`; the other sinks do not write to shared memory.  What is
published is a serialised message, which has fewer than `2 ^ 31` bytes, and on
these `write(string)` and `write(data, len)` agree. -/
def writeSink (bytes : Bytes) (memory : SharedMemory) :
    SinkHandle → SharedMemory
  | .shm _ object _ =>
      memory.store object (shmView.write (memory.objects object) bytes).1
  | _ => memory

/-- `RemoteSink::enqueue`: the frame that is sent. -/
def frameOf (bytes : Bytes) : SinkHandle → Option Frame
  | .remote _ topic peer => some ⟨peer, topic, bytes⟩
  | _ => none

/-- The call of `enqueue` on a subscriber. -/
def enqueueOf (pid : Nat) (bytes : Bytes) : SinkHandle → Option FabricEvent
  | .subscriber serial topic typeName =>
      some (.enqueued pid (.subscriber serial topic typeName) bytes)
  | _ => none

namespace Fabric

/-- The shared memory that a participant sees. -/
def memoryOf (fabric : Fabric) (pid : Nat) : SharedMemory :=
  fabric.memory (fabric.planes pid).localHostId

/-- Replace the data plane of one participant. -/
def setPlane (fabric : Fabric) (pid : Nat) (plane : DataPlane) : Fabric :=
  { fabric with planes := Function.update fabric.planes pid plane }

/-- The effect of an operation of one participant on its data plane and on the
shared memory of its host. -/
def apply (fabric : Fabric) (pid : Nat) (after : DataPlane × SharedMemory) :
    Fabric :=
  { fabric with
    planes := Function.update fabric.planes pid after.1
    memory :=
      Function.update fabric.memory (fabric.planes pid).localHostId after.2 }

/-- `add_endpoint` of one participant. -/
def addEndpoint (fabric : Fabric) (pid : Nat) (endpoint : EndpointInfo) :
    Fabric :=
  { fabric with
    endpoints :=
      Function.update fabric.endpoints pid
        (fabric.endpoints pid ++ [endpoint]) }

/-- `create_publisher`. -/
def createPublisher (fabric : Fabric) (pid : Nat) (topic typeName : Text)
    (reliability : Nat) : Fabric :=
  let plane := fabric.planes pid
  (fabric.setPlane pid
    { plane with bus := plane.bus.registerPublisher topic typeName }).addEndpoint
    pid
    { kind := .publisher
      topic := topic
      typeName := typeName
      reliability := reliability }

/-- `create_subscriber`. -/
def createSubscriber (fabric : Fabric) (pid : Nat) (topic typeName : Text)
    (reliability : Nat) : Fabric :=
  let plane := fabric.planes pid
  let sink := SinkHandle.subscriber plane.nextSerial topic typeName
  (fabric.setPlane pid
    { plane with
      bus := plane.bus.subscribe topic typeName sink
      nextSerial := plane.nextSerial + 1 }).addEndpoint
    pid
    { kind := .subscriber
      topic := topic
      typeName := typeName
      reliability := reliability }

/-- `Publisher::publish`. -/
def publish (fabric : Fabric) (pid : Nat) (topic typeName : Text)
    (bytes : Bytes) : Fabric × List FabricEvent :=
  let plane := fabric.planes pid
  let published := plane.bus.publish plane.alive topic typeName
  let written :=
    fabric.apply pid
      ({ plane with bus := published.1 },
        published.2.foldl (writeSink bytes) (fabric.memoryOf pid))
  ({ written with
      wire := fabric.wire ++ published.2.filterMap (frameOf bytes) },
    .published pid topic typeName bytes ::
      published.2.filterMap (enqueueOf pid bytes))

/-- `poll_once`. -/
def poll (fabric : Fabric) (pid : Nat) : Fabric × List FabricEvent :=
  let polled := (fabric.planes pid).pollOnce (fabric.memoryOf pid)
  (fabric.setPlane pid polled.1,
    polled.2.1.map (fun delivery =>
        .read pid delivery.segName delivery.topic delivery.bytes) ++
      polled.2.2.map fun call => .enqueued pid call.1 call.2)

/-- `on_inbound` of the peer that a frame is sent to. -/
def arrive (fabric : Fabric) (index : Nat) :
    Option (Fabric × List FabricEvent) :=
  match fabric.wire[index]? with
  | none => none
  | some frame =>
      let delivered :=
        (fabric.planes frame.peer).deliverInbound frame.topic frame.bytes
      some
        ({ fabric.setPlane frame.peer delivered.1 with
            wire := fabric.wire.eraseIdx index },
          delivered.2.map fun call => .enqueued frame.peer call.1 call.2)

/-- One operation. -/
def step (fabric : Fabric) :
    FabricInput → Option (Fabric × List FabricEvent)
  | .createPublisher pid topic typeName reliability =>
      some (fabric.createPublisher pid topic typeName reliability, [])
  | .createSubscriber pid topic typeName reliability =>
      some (fabric.createSubscriber pid topic typeName reliability, [])
  | .handleMatch pid m outcome =>
      some
        (fabric.apply pid
          ((fabric.planes pid).handleMatch (fabric.memoryOf pid) m outcome), [])
  | .handleUnmatch pid m =>
      some
        (fabric.apply pid
          ((fabric.planes pid).handleUnmatch (fabric.memoryOf pid) m), [])
  | .publish pid topic typeName bytes =>
      some (fabric.publish pid topic typeName bytes)
  | .poll pid => some (fabric.poll pid)
  | .arrive index => fabric.arrive index

/-- `handle_unmatch` while calls of the bus hold some of its sinks.  A `ShmSink`
that one of them holds outlives its entry in `shm_pub_`, and its segment stays
linked. -/
def handleUnmatchHeld (fabric : Fabric) (held : SinkHandle → Bool) (pid : Nat)
    (m : MatchInfo) : Fabric :=
  let plane := fabric.planes pid
  let memory := fabric.memoryOf pid
  let after := plane.handleUnmatch memory m
  let outlived :=
    match plane.shmPub[m.localEndpoint.topic]? with
    | some pub => held pub.sink
    | none => false
  fabric.apply pid (after.1, if outlived then memory else after.2)

/-- The name that is unlinked when a sink is destroyed. -/
def released (alive : SinkHandle → Bool) : SinkHandle → Option Text
  | .shm serial object name =>
      if alive (.shm serial object name) then none else some name
  | _ => none

/-- A call of the bus returns and drops the sinks it has held; what is not
alive any more is destroyed. -/
def release (fabric : Fabric) (alive : SinkHandle → Bool) (pid : Nat)
    (sinks : List SinkHandle) : Fabric :=
  fabric.apply pid
    (fabric.planes pid,
      (sinks.filterMap (released alive)).foldl SharedMemory.unlink
        (fabric.memoryOf pid))

/-- Participants on hosts of their own choice, right after `start`; nothing is
in shared memory or on the wire. -/
def started (hosts : Nat → Text) (shm : Nat → Bool) : Fabric where
  planes pid := DataPlane.started pid (hosts pid) (shm pid)
  endpoints _ := []
  memory _ := SharedMemory.empty
  wire := []

theorem memoryOf_eq
    {fabric : Fabric} {first second : Nat}
    (sameHost :
      (fabric.planes first).localHostId = (fabric.planes second).localHostId) :
    fabric.memoryOf first = fabric.memoryOf second := by
  rw [memoryOf, sameHost, memoryOf]

/-- Replacing a data plane is an operation that leaves the memory alone. -/
theorem setPlane_eq_apply (fabric : Fabric) (pid : Nat) (plane : DataPlane) :
    fabric.setPlane pid plane =
      fabric.apply pid (plane, fabric.memoryOf pid) := by
  simp [setPlane, apply, memoryOf]

/-- What arrives was on the wire, and is delivered at its receiver. -/
theorem arrive_eq_some
    {fabric target : Fabric} {index : Nat} {emitted : List FabricEvent}
    (stepped : fabric.arrive index = some (target, emitted)) :
    ∃ frame, fabric.wire[index]? = some frame ∧
      target =
        { fabric.setPlane frame.peer
            ((fabric.planes frame.peer).deliverInbound frame.topic
              frame.bytes).1 with
          wire := fabric.wire.eraseIdx index } ∧
      emitted =
        ((fabric.planes frame.peer).deliverInbound frame.topic
          frame.bytes).2.map
            fun call => .enqueued frame.peer call.1 call.2 := by
  unfold arrive at stepped
  split at stepped
  · cases stepped
  · rename_i frame onWire
    cases stepped
    exact ⟨frame, onWire, rfl, rfl⟩

/-- The identities of all participants are as they were at the start. -/
def SameIdentities (fabric target : Fabric) : Prop :=
  ∀ pid, DataPlane.SameIdentity (fabric.planes pid) (target.planes pid)

theorem sameIdentities_of_update
    {fabric : Fabric} {pid : Nat} {plane : DataPlane}
    (same : DataPlane.SameIdentity (fabric.planes pid) plane) (other : Nat) :
    DataPlane.SameIdentity (fabric.planes other)
      (Function.update fabric.planes pid plane other) := by
  by_cases mine : other = pid
  · subst mine
    rwa [Function.update_self]
  · rw [Function.update_of_ne mine]
    exact DataPlane.SameIdentity.refl _

/-- No operation changes an identity. -/
theorem sameIdentities_step
    {fabric target : Fabric} {input : FabricInput} {emitted : List FabricEvent}
    (running : ∀ pid, (fabric.planes pid).stopped = false)
    (stepped : fabric.step input = some (target, emitted)) :
    fabric.SameIdentities target := by
  cases input with
  | createPublisher pid topic typeName reliability =>
      cases stepped
      exact sameIdentities_of_update ⟨rfl, rfl, rfl, rfl⟩
  | createSubscriber pid topic typeName reliability =>
      cases stepped
      exact sameIdentities_of_update ⟨rfl, rfl, rfl, rfl⟩
  | handleMatch pid m outcome =>
      cases stepped
      exact
        sameIdentities_of_update
          (DataPlane.sameIdentity_handleMatch (running pid) _ m outcome)
  | handleUnmatch pid m =>
      cases stepped
      exact
        sameIdentities_of_update
          (DataPlane.sameIdentity_handleUnmatch (running pid) _ m)
  | publish pid topic typeName bytes =>
      cases stepped
      exact sameIdentities_of_update ⟨rfl, rfl, rfl, rfl⟩
  | poll pid =>
      cases stepped
      exact sameIdentities_of_update (DataPlane.pollOnce_frame _ _).1
  | arrive index =>
      obtain ⟨frame, _, rfl, _⟩ := arrive_eq_some stepped
      exact sameIdentities_of_update ⟨rfl, rfl, rfl, rfl⟩

end Fabric

/-- A network of nodes as a machine. -/
def fabricMachine : Machine Fabric FabricInput FabricEvent where
  initial fabric := ∃ hosts shm, fabric = Fabric.started hosts shm
  step := Fabric.step

/-! ## Two participants on one host -/

/-- All participants on one host with shared memory. -/
def oneHostFabric : Fabric :=
  Fabric.started (fun _ => ['h']) fun _ => true

/-- A best-effort endpoint. -/
def bestEffort (kind : EndpointKind) (topic typeName : Text) : EndpointInfo :=
  { kind := kind, topic := topic, typeName := typeName, reliability := 0 }

/-- What discovery reports to participant 1, the publisher, about
participant 2 on its host. -/
def publisherMatch (topic typeName : Text) : MatchInfo :=
  ⟨bestEffort .publisher topic typeName, bestEffort .subscriber topic typeName,
    ⟨[], 0⟩, 2, ['h']⟩

/-- What discovery reports to participant 2, the subscriber, about
participant 1. -/
def subscriberMatch (topic typeName : Text) : MatchInfo :=
  ⟨bestEffort .subscriber topic typeName, bestEffort .publisher topic typeName,
    ⟨[], 0⟩, 1, ['h']⟩

/-- Participant 1 publishes a topic and participant 2 subscribes to it; then
both handle their matches. -/
def connect (topic typeName : Text) : List FabricInput :=
  [.createPublisher 1 topic typeName 0, .createSubscriber 2 topic typeName 0,
    .handleMatch 1 (publisherMatch topic typeName) .created,
    .handleMatch 2 (subscriberMatch topic typeName) .created]

/-- The readers are opened, one message is published, and it is read. -/
def sendOne (topic typeName : Text) : List FabricInput :=
  [.poll 2, .publish 1 topic typeName [7], .poll 2]

end MiniMiddleware.Core
