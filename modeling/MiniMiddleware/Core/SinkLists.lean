import MiniMiddleware.Core.ShmReaderManager

/-!
# Local and remote sinks

The bus of a node keeps two lists of sinks per topic.  Of the operations on a
bus only `subscribe` appends to the first and only `add_remote_sink` to the
second, and a node passes them sinks of different kinds: subscribers, and the
sinks that lead out of the node.  All other operations drop sinks at most.  So
the lists are never mixed, and since every remote sink is a new object, none
is listed twice.
-/

namespace MiniMiddleware.Core

open MiniMiddleware.Discovery MiniMiddleware.Transport

/-- Whether `enqueue` on a sink sends the bytes out of the node. -/
def SinkHandle.leaves : SinkHandle → Bool
  | .subscriber _ _ _ => false
  | .remote _ _ _ => true
  | .shm _ _ _ => true

/-- The identity of a sink. -/
def SinkHandle.serial : SinkHandle → Nat
  | .subscriber serial _ _ => serial
  | .remote serial _ _ => serial
  | .shm serial _ _ => serial

/-! ## Sorted lists -/

namespace DataPlane

/-- The first list of each topic holds subscribers, the second sinks that lead
out of the node, each once and none from the future. -/
structure Sorted (plane : DataPlane) : Prop where
  locals :
    ∀ topic, ∀ sink ∈ (plane.bus.entry topic).sinks, sink.leaves = false
  remotes :
    ∀ topic, ∀ sink ∈ (plane.bus.entry topic).remoteSinks,
      sink.leaves = true ∧ sink.serial < plane.nextSerial
  nodup : ∀ topic, (plane.bus.entry topic).remoteSinks.Nodup

theorem sorted_started (pid : Nat) (hostId : Text) (enableShm : Bool) :
    (started pid hostId enableShm).Sorted := by
  have empty :
      ∀ topic,
        (started pid hostId enableShm).bus.entry topic = {} := by
    intro topic
    exact LocalBus.entry_of_missing (by simp [started, LocalBus.empty])
  refine ⟨fun topic sink member => ?_, fun topic sink member => ?_,
    fun topic => ?_⟩
  · rw [empty] at member
    cases member
  · rw [empty] at member
    cases member
  · rw [empty]
    exact List.nodup_nil

/-- Dropping sinks keeps the lists sorted. -/
theorem Sorted.prune
    {plane after : DataPlane} (sorted : plane.Sorted)
    (pruned : after.bus.Pruned plane.bus)
    (serials : plane.nextSerial ≤ after.nextSerial) : after.Sorted where
  locals topic sink member :=
    sorted.locals topic sink ((pruned.sinks topic).subset member)
  remotes topic sink member := by
    obtain ⟨leaves, old⟩ :=
      sorted.remotes topic sink ((pruned.remoteSinks topic).subset member)
    exact ⟨leaves, old.trans_le serials⟩
  nodup topic := (pruned.remoteSinks topic).nodup (sorted.nodup topic)

theorem Sorted.subscribe
    {plane after : DataPlane} (sorted : plane.Sorted)
    {topic typeName : Text} {sink : SinkHandle} (stays : sink.leaves = false)
    (bus : after.bus = plane.bus.subscribe topic typeName sink)
    (serials : plane.nextSerial ≤ after.nextSerial) : after.Sorted := by
  have entry :
      ∀ other,
        (after.bus.entry other).remoteSinks =
            (plane.bus.entry other).remoteSinks ∧
          ∀ handle ∈ (after.bus.entry other).sinks,
            handle ∈ (plane.bus.entry other).sinks ∨ handle = sink := by
    intro other
    rw [bus, LocalBus.subscribe]
    dsimp only
    by_cases same : topic = other
    · subst same
      split
      · simp
      · simpa using fun _ listed => Or.inl listed
    · split
      · simpa [same] using fun _ listed => Or.inl listed
      · simpa [same] using fun _ listed => Or.inl listed
  refine ⟨fun other handle member => ?_, fun other handle member => ?_,
    fun other => ?_⟩
  · rcases (entry other).2 handle member with old | rfl
    · exact sorted.locals other handle old
    · exact stays
  · rw [(entry other).1] at member
    obtain ⟨leaves, old⟩ := sorted.remotes other handle member
    exact ⟨leaves, old.trans_le serials⟩
  · rw [(entry other).1]
    exact sorted.nodup other

theorem Sorted.addRemoteSink
    {plane after : DataPlane} (sorted : plane.Sorted)
    {topic : Text} {sink : SinkHandle} (leaves : sink.leaves = true)
    (isNew : sink.serial = plane.nextSerial)
    (bus : after.bus = plane.bus.addRemoteSink topic sink)
    (serials : after.nextSerial = plane.nextSerial + 1) : after.Sorted := by
  refine ⟨fun other handle member => ?_, fun other handle member => ?_,
    fun other => ?_⟩
  · rw [bus, LocalBus.entry_addRemoteSink] at member
    split_ifs at member
    · exact sorted.locals other handle member
    · exact sorted.locals other handle member
  · have old :
        handle ∈ (plane.bus.entry other).remoteSinks →
          handle.leaves = true ∧ handle.serial < after.nextSerial := by
      intro listed
      obtain ⟨itLeaves, earlier⟩ := sorted.remotes other handle listed
      exact ⟨itLeaves, by omega⟩
    rw [bus, LocalBus.entry_addRemoteSink] at member
    split_ifs at member
    · rcases List.mem_append.mp member with listed | added
      · exact old listed
      · rw [List.mem_singleton.mp added]
        exact ⟨leaves, by omega⟩
    · exact old member
  · rw [bus, LocalBus.entry_addRemoteSink]
    split_ifs
    · refine List.nodup_append.mpr
        ⟨sorted.nodup other, List.pairwise_singleton _ sink, ?_⟩
      intro first listed second added equal
      rw [List.mem_singleton.mp added] at equal
      have earlier := (sorted.remotes other first listed).2
      rw [equal] at earlier
      omega
    · exact sorted.nodup other

/-! ## The operations of a node -/

/-- What a match does to the bus: nothing, or it adds one new sink that leads
out of the node. -/
theorem handleMatch_added
    {plane : DataPlane} (running : plane.stopped = false)
    (memory : SharedMemory) (m : MatchInfo) (outcome : CreateOutcome) :
    let after := (plane.handleMatch memory m outcome).1
    after.bus = plane.bus ∧ after.nextSerial = plane.nextSerial ∨
      ∃ topic sink,
        sink.leaves = true ∧ sink.serial = plane.nextSerial ∧
          after.bus = plane.bus.addRemoteSink topic sink ∧
          after.nextSerial = plane.nextSerial + 1 := by
  rw [handleMatch_eq running]
  cases plane.route m with
  | ignored =>
      exact Or.inl ⟨rfl, rfl⟩
  | tcpPub =>
      dsimp only
      unfold tcpPubMatch connectionFor
      dsimp only
      split
      · exact Or.inl ⟨rfl, rfl⟩
      · split <;> exact Or.inr ⟨_, _, rfl, rfl, rfl, rfl⟩
  | shmPub =>
      dsimp only
      unfold shmPubMatch
      dsimp only
      split
      · exact Or.inl ⟨rfl, rfl⟩
      · split
        · exact Or.inl ⟨rfl, rfl⟩
        · exact Or.inr ⟨_, _, rfl, rfl, rfl, rfl⟩
  | shmSub =>
      dsimp only
      unfold shmSubMatch
      dsimp only
      split <;> exact Or.inl ⟨rfl, rfl⟩

theorem Sorted.handleMatch
    {plane : DataPlane} (sorted : plane.Sorted)
    (running : plane.stopped = false)
    (memory : SharedMemory) (m : MatchInfo) (outcome : CreateOutcome) :
    (plane.handleMatch memory m outcome).1.Sorted := by
  rcases handleMatch_added running memory m outcome with
    ⟨bus, serials⟩ | ⟨topic, sink, leaves, isNew, bus, serials⟩
  · refine sorted.prune ?_ serials.ge
    rw [bus]
    exact LocalBus.Pruned.refl _
  · exact sorted.addRemoteSink leaves isNew bus serials

theorem handleUnmatch_pruned
    {plane : DataPlane} (running : plane.stopped = false)
    (memory : SharedMemory) (m : MatchInfo) :
    (plane.handleUnmatch memory m).1.bus.Pruned plane.bus ∧
      (plane.handleUnmatch memory m).1.nextSerial = plane.nextSerial := by
  rw [handleUnmatch_eq running]
  cases plane.route m with
  | ignored =>
      exact ⟨LocalBus.Pruned.refl _, rfl⟩
  | tcpPub =>
      dsimp only
      unfold tcpPubUnmatch
      dsimp only
      split
      · exact ⟨LocalBus.Pruned.refl _, rfl⟩
      · split_ifs <;>
          exact ⟨LocalBus.pruned_removeRemoteSink _ _ _ _, rfl⟩
  | shmPub =>
      dsimp only
      unfold shmPubUnmatch
      dsimp only
      split
      · exact ⟨LocalBus.Pruned.refl _, rfl⟩
      · split_ifs
        · exact ⟨LocalBus.Pruned.refl _, rfl⟩
        · exact ⟨LocalBus.pruned_removeRemoteSink _ _ _ _, rfl⟩
  | shmSub =>
      dsimp only
      unfold shmSubUnmatch
      dsimp only
      split
      · exact ⟨LocalBus.Pruned.refl _, rfl⟩
      · split_ifs <;> exact ⟨LocalBus.Pruned.refl _, rfl⟩

theorem deliverAll_pruned
    (messages : List (Text × Bytes)) (plane : DataPlane) :
    (plane.deliverAll messages).1.bus.Pruned plane.bus ∧
      (plane.deliverAll messages).1.nextSerial = plane.nextSerial := by
  induction messages generalizing plane with
  | nil =>
      exact ⟨LocalBus.Pruned.refl _, rfl⟩
  | cons message later inductionHypothesis =>
      obtain ⟨topic, bytes⟩ := message
      obtain ⟨pruned, serials⟩ :=
        inductionHypothesis (plane.deliverInbound topic bytes).1
      exact ⟨(plane.bus.pruned_deliverInbound _ topic).trans pruned, serials⟩

theorem pollOnce_pruned (plane : DataPlane) (memory : SharedMemory) :
    (plane.pollOnce memory).1.bus.Pruned plane.bus ∧
      (plane.pollOnce memory).1.nextSerial = plane.nextSerial := by
  unfold pollOnce
  split
  · exact ⟨LocalBus.Pruned.refl _, rfl⟩
  · exact deliverAll_pruned _ _

/-- A poll calls `enqueue` on subscribers only. -/
theorem Sorted.pollOnce_calls
    {plane : DataPlane} (sorted : plane.Sorted) (memory : SharedMemory) :
    ∀ call ∈ (plane.pollOnce memory).2.2, call.1.leaves = false := by
  rintro ⟨sink, bytes⟩ member
  obtain ⟨delivery, _, _, listed⟩ := DataPlane.pollOnce_calls member
  exact sorted.locals delivery.topic sink listed

/-- An arriving frame calls `enqueue` on subscribers only. -/
theorem Sorted.deliverInbound_calls
    {plane : DataPlane} (sorted : plane.Sorted) (topic : Text)
    (bytes : Bytes) :
    ∀ call ∈ (plane.deliverInbound topic bytes).2, call.1.leaves = false := by
  intro call member
  obtain ⟨sink, reached, rfl⟩ := List.mem_map.mp member
  exact sorted.locals topic sink
    ((plane.bus.within_deliverInbound plane.alive topic).2 reached)

/-- The sinks of a publish that lead out of the node are remote sinks of its
topic, in order and each once. -/
theorem Sorted.publish_leaving
    {plane : DataPlane} (sorted : plane.Sorted) (alive : SinkHandle → Bool)
    (topic typeName : Text) :
    ((plane.bus.publish alive topic typeName).2.filter
        SinkHandle.leaves).Sublist (plane.bus.entry topic).remoteSinks := by
  rw [LocalBus.publish_targets]
  split
  · rw [List.filter_append]
    have none :
        (collect alive (plane.bus.entry topic).sinks).filter
          SinkHandle.leaves = [] := by
      rw [List.filter_eq_nil_iff]
      intro sink member
      simp [sorted.locals topic sink (List.mem_of_mem_filter member)]
    rw [none, List.nil_append]
    exact List.filter_sublist.trans List.filter_sublist
  · exact List.nil_sublist _

end DataPlane

end MiniMiddleware.Core
