import MiniMiddleware.Core.DataPlane

/-!
# The two ends of one match

A publisher and a subscriber that are matched each see the match from their
own side: the endpoints swapped, and with the participant and the host of the
other.  Each end decides by itself whether the match goes over shared memory.
Both read the same host ids and the reliability of the same subscriber, but
each reads only its own setting `enable_shm`, and no announcement tells it
that of the other.
-/

namespace MiniMiddleware.Core

open MiniMiddleware.Discovery MiniMiddleware.Transport

namespace DataPlane

/-- The match of `le` with an endpoint of another participant, as `try_match`
fills it in. -/
def matchWith (peer : DataPlane) (le re : EndpointInfo) (locator : Locator) :
    MatchInfo where
  localEndpoint := le
  remoteEndpoint := re
  remoteLocator := locator
  remoteParticipantId := peer.localPid
  remoteHostId := peer.localHostId

/-- The references on the shared-memory writer of a topic. -/
def writerRefs (plane : DataPlane) (topic : Text) : Int :=
  (plane.shmPub[topic]?.map ShmPub.ref).getD 0

/-- Handling the match takes one reference on the writer of its topic, if the
segment can be created. -/
def OpensWriter (plane : DataPlane) (m : MatchInfo) : Prop :=
  ∀ memory,
    (plane.handleMatch memory m .created).1.writerRefs m.localEndpoint.topic =
      plane.writerRefs m.localEndpoint.topic + 1

/-- Handling the match takes one reference on the reader of a segment, and the
first reference registers it. -/
def OpensReader (plane : DataPlane) (m : MatchInfo) (name : Text) : Prop :=
  ∀ memory outcome,
    let after := (plane.handleMatch memory m outcome).1
    after.shmSubRef.getD name 0 = plane.shmSubRef.getD name 0 + 1 ∧
      (name ∉ plane.shmSubRef →
        ∀ readers, after.shmReaders = some readers → name ∈ readers)

theorem opensWriter_iff
    {plane : DataPlane} {m : MatchInfo} (running : plane.stopped = false) :
    plane.OpensWriter m ↔ plane.route m = .shmPub := by
  have kept :
      ∀ after : DataPlane, after.shmPub = plane.shmPub →
        after.writerRefs m.localEndpoint.topic ≠
          plane.writerRefs m.localEndpoint.topic + 1 := by
    intro after same
    rw [writerRefs, same, writerRefs]
    omega
  unfold OpensWriter
  simp only [handleMatch_eq running]
  cases plane.route m with
  | ignored =>
      exact iff_of_false (fun opens => kept plane rfl (opens .empty)) nofun
  | tcpPub =>
      exact iff_of_false
        (fun opens => kept _ (tcpPubMatch_shm plane m).1 (opens .empty)) nofun
  | shmPub =>
      refine iff_of_true (fun memory => ?_) rfl
      unfold shmPubMatch SharedMemory.create writerRefs
      dsimp only
      split
      · rename_i pub found
        simp [found]
      · rename_i missing
        simp [missing]
  | shmSub =>
      exact iff_of_false
        (fun opens => kept _ (shmSubMatch_writers plane m) (opens .empty)) nofun

theorem shmSubRef_of_route
    {plane : DataPlane} {m : MatchInfo}
    (running : plane.stopped = false) (routed : plane.route m ≠ .shmSub)
    (memory : SharedMemory) (outcome : CreateOutcome) :
    (plane.handleMatch memory m outcome).1.shmSubRef = plane.shmSubRef := by
  rw [handleMatch_eq running]
  cases other : plane.route m with
  | ignored =>
      rfl
  | tcpPub =>
      exact (tcpPubMatch_shm plane m).2.1
  | shmPub =>
      exact (shmPubMatch_readers plane memory m outcome).1
  | shmSub =>
      exact absurd other routed

theorem opensReader_iff
    {plane : DataPlane} {m : MatchInfo} (running : plane.stopped = false) :
    plane.OpensReader m (segName m.remoteParticipantId m.localEndpoint.topic) ↔
      plane.route m = .shmSub := by
  constructor
  · intro opens
    by_contra routed
    have counted := (opens .empty .created).1
    rw [shmSubRef_of_route running routed] at counted
    omega
  · intro routed memory outcome
    rw [handleMatch_eq running, routed]
    dsimp only
    refine ⟨?_, fun absent readers held => ?_⟩
    · unfold shmSubMatch
      dsimp only
      split
      · rename_i ref found
        simp [Std.TreeMap.getD_eq_getD_getElem?, found]
      · rename_i missing
        simp [Std.TreeMap.getD_eq_getD_getElem?, missing]
    · rw [(shmSubMatch_readers plane m []).2, if_neg absent] at held
      obtain ⟨before, _, rfl⟩ := Option.map_eq_some_iff.mp held
      unfold addReader
      split_ifs with present
      · exact present
      · exact Std.TreeMap.mem_insert_self

theorem route_eq_shmPub_iff
    {plane : DataPlane} {m : MatchInfo}
    (writes : m.localEndpoint.kind = .publisher)
    (reads : m.remoteEndpoint.kind = .subscriber) :
    plane.route m = .shmPub ↔ plane.useShm m = true := by
  cases used : plane.useShm m <;>
    simp [route, pubsubPair, writes, reads, used]

theorem route_eq_shmSub_iff
    {plane : DataPlane} {m : MatchInfo}
    (reads : m.localEndpoint.kind = .subscriber)
    (writes : m.remoteEndpoint.kind = .publisher) :
    plane.route m = .shmSub ↔ plane.useShm m = true := by
  cases used : plane.useShm m <;>
    simp [route, pubsubPair, writes, reads, used]

end DataPlane

/-! ## Agreement -/

section Ends

variable {publisher subscriber : DataPlane} {le re : EndpointInfo}
  {publisherLocator subscriberLocator : Locator}

/-- The match is one that shared memory is for: on one host that has an id,
and with a subscriber that asks for best effort. -/
def ForSharedMemory (publisher subscriber : DataPlane) (re : EndpointInfo) :
    Prop :=
  publisher.localHostId ≠ [] ∧
    publisher.localHostId = subscriber.localHostId ∧ re.reliability = 0

theorem route_publisher_iff
    (writes : le.kind = .publisher) (reads : re.kind = .subscriber) :
    publisher.route (subscriber.matchWith le re subscriberLocator) = .shmPub ↔
      publisher.shmEnabled = true ∧
        ForSharedMemory publisher subscriber re := by
  rw [DataPlane.route_eq_shmPub_iff writes reads]
  simp only [DataPlane.useShm, DataPlane.sameHost, DataPlane.matchWith, writes,
    ForSharedMemory]
  by_cases same : publisher.localHostId = subscriber.localHostId
  · simp [same, and_assoc]
  · simp [same, Ne.symm same]

theorem route_subscriber_iff
    (writes : le.kind = .publisher) (reads : re.kind = .subscriber) :
    subscriber.route (publisher.matchWith re le publisherLocator) = .shmSub ↔
      subscriber.shmEnabled = true ∧
        ForSharedMemory publisher subscriber re := by
  rw [DataPlane.route_eq_shmSub_iff reads writes]
  simp only [DataPlane.useShm, DataPlane.sameHost, DataPlane.matchWith, reads,
    ForSharedMemory]
  by_cases same : publisher.localHostId = subscriber.localHostId
  · simp [same, and_assoc]
  · simp [same]

/-- For a publisher and a subscriber that are matched, the publisher's end
opens a shared-memory writer if and only if the subscriber's end opens a
reader on its segment, exactly if both have the same setting or the match is
not for shared memory. -/
theorem shm_ends_agree_iff
    (publisherRunning : publisher.stopped = false)
    (subscriberRunning : subscriber.stopped = false)
    (writes : le.kind = .publisher) (reads : re.kind = .subscriber)
    (matched : pairMatches le re = true) :
    (publisher.OpensWriter (subscriber.matchWith le re subscriberLocator) ↔
        subscriber.OpensReader (publisher.matchWith re le publisherLocator)
          (segName publisher.localPid le.topic)) ↔
      publisher.shmEnabled = subscriber.shmEnabled ∨
        ¬ForSharedMemory publisher subscriber re := by
  have topic : le.topic = re.topic := by
    by_contra different
    simp [pairMatches, different] at matched
  have reader :
      subscriber.OpensReader (publisher.matchWith re le publisherLocator)
          (segName publisher.localPid le.topic) ↔
        subscriber.route (publisher.matchWith re le publisherLocator) =
          .shmSub := by
    rw [topic]
    exact DataPlane.opensReader_iff subscriberRunning
  rw [DataPlane.opensWriter_iff publisherRunning, reader,
    route_publisher_iff writes reads, route_subscriber_iff writes reads]
  by_cases suitable : ForSharedMemory publisher subscriber re
  · cases publisher.shmEnabled <;> cases subscriber.shmEnabled <;>
      simp [suitable]
  · simp [suitable]

end Ends

/-- A best-effort endpoint of topic `t`. -/
def endpointOf (kind : EndpointKind) : EndpointInfo where
  kind := kind
  topic := ['t']
  typeName := ['T']

/-- Both ends on host `h` with shared memory enabled. -/
theorem shm_ends_agree_iff_enabled :
    (DataPlane.started 1 ['h'] true).OpensWriter
        ((DataPlane.started 2 ['h'] true).matchWith (endpointOf .publisher)
          (endpointOf .subscriber) ⟨[], 0⟩) ↔
      (DataPlane.started 2 ['h'] true).OpensReader
        ((DataPlane.started 1 ['h'] true).matchWith (endpointOf .subscriber)
          (endpointOf .publisher) ⟨[], 0⟩)
        (segName 1 ['t']) :=
  (shm_ends_agree_iff rfl rfl rfl rfl (by decide)).mpr (Or.inl rfl)

/-- Shared memory is enabled at the publisher and disabled at the subscriber:
the publisher writes to a segment that the subscriber does not read. -/
theorem shm_ends_disagree :
    ¬ ∀ (publisher subscriber : DataPlane) (le re : EndpointInfo)
        (publisherLocator subscriberLocator : Locator),
        publisher.stopped = false →
        subscriber.stopped = false →
        le.kind = .publisher →
        re.kind = .subscriber →
        pairMatches le re = true →
        (publisher.OpensWriter
            (subscriber.matchWith le re subscriberLocator) ↔
          subscriber.OpensReader (publisher.matchWith re le publisherLocator)
            (segName publisher.localPid le.topic)) := by
  intro claimed
  have agreed :=
    claimed (.started 1 ['h'] true) (.started 2 ['h'] false)
      (endpointOf .publisher) (endpointOf .subscriber) ⟨[], 0⟩ ⟨[], 0⟩
      rfl rfl rfl rfl (by decide)
  have opened :=
    agreed.mp ((DataPlane.opensWriter_iff rfl).mpr (by decide))
  have routed := (DataPlane.opensReader_iff rfl).mp opened
  exact absurd routed (by decide)

end MiniMiddleware.Core
