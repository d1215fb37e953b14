import MiniMiddleware.Core.DataPlane

/-!
# Polling shared-memory readers

`ShmReaderManager::poll_once` walks all registered readers.  An entry whose
segment is not open yet tries to open it and gets a reader that starts at the
current position; then up to `kMaxDrainPerReader` messages are read and each
is delivered to the local subscribers of the entry's topic.

Delivering touches neither the readers nor the segments, so a poll is modelled
as reading everything first and delivering it afterwards in the same order.
-/

namespace MiniMiddleware.Core

open MiniMiddleware.Transport

/-- `kMaxDrainPerReader`. -/
def kMaxDrainPerReader : Nat := 256

/-- The inner loop of `poll_once`: at most `rounds` reads, up to the first
that returns nothing. -/
def drain (memory : RingMemory) :
    Nat → ShmRingReader → ShmRingReader × List Bytes
  | 0, reader => (reader, [])
  | rounds + 1, reader =>
      match reader.read memory with
      | (moved, none) => (moved, [])
      | (moved, some bytes) =>
          let rest := drain memory rounds moved
          (rest.1, bytes :: rest.2)

/-- The object and the reader that a poll uses: those of the entry, or those
of the segment it manages to open. -/
def ReaderEntry.mapping (entry : ReaderEntry) (memory : SharedMemory) :
    Option (Nat × ShmRingReader) :=
  match entry.opened with
  | some mapped => some mapped
  | none =>
      match memory.openSegment entry.segName with
      | none => none
      | some (object, ring) =>
          some (object, ShmRingReader.create ring (memory.objects object))

/-- One round of the outer loop of `poll_once`: the entry afterwards, and the
messages read. -/
def ReaderEntry.poll (entry : ReaderEntry) (memory : SharedMemory) :
    ReaderEntry × List Bytes :=
  match entry.mapping memory with
  | none => (entry, [])
  | some (object, reader) =>
      let drained := drain (memory.objects object) kMaxDrainPerReader reader
      ({ entry with opened := some (object, drained.1) }, drained.2)

/-- A message on its way from a segment to `deliver_inbound`. -/
structure Delivery where
  segName : Text
  topic : Text
  bytes : Bytes
  deriving DecidableEq, Repr

namespace DataPlane

/-- `deliver_inbound` on the node's bus, and the calls of `enqueue`. -/
def deliverInbound (plane : DataPlane) (topic : Text) (bytes : Bytes) :
    DataPlane × List (SinkHandle × Bytes) :=
  let delivered := plane.bus.deliverInbound plane.alive topic
  ({ plane with bus := delivered.1 }, delivered.2.map fun sink => (sink, bytes))

/-- Deliver several messages, one after the other. -/
def deliverAll (plane : DataPlane) :
    List (Text × Bytes) → DataPlane × List (SinkHandle × Bytes)
  | [] => (plane, [])
  | (topic, bytes) :: later =>
      let first := plane.deliverInbound topic bytes
      let rest := first.1.deliverAll later
      (rest.1, first.2 ++ rest.2)

/-- What the readers of a poll read, in order. -/
def readAll (readers : Std.TreeMap Text ReaderEntry) (memory : SharedMemory) :
    List Delivery :=
  readers.toList.flatMap fun keyed =>
    (keyed.2.poll memory).2.map fun bytes =>
      ⟨keyed.2.segName, keyed.2.topic, bytes⟩

/-- `poll_once`: the data plane afterwards, the messages read and the calls of
`enqueue`. -/
def pollOnce (plane : DataPlane) (memory : SharedMemory) :
    DataPlane × List Delivery × List (SinkHandle × Bytes) :=
  match plane.shmReaders with
  | none => (plane, [], [])
  | some readers =>
      let read := readAll readers memory
      let polled :=
        { plane with
          shmReaders :=
            some (readers.map fun _ (entry : ReaderEntry) =>
              (entry.poll memory).1) }
      let delivered :=
        polled.deliverAll (read.map fun (delivery : Delivery) =>
          (delivery.topic, delivery.bytes))
      (delivered.1, read, delivered.2)

end DataPlane

/-! ## Draining -/

section Drain

variable {memory : RingMemory}

/-- Draining keeps a reader at rest on its ring, and returns messages of
published slots. -/
theorem drain_spec
    (rounds : Nat) {reader : ShmRingReader}
    (several : 2 ≤ reader.ring.slotCount)
    (bound : memory.writeSeq < 2 ^ 64) (atRest : reader.pc = .idle) :
    (drain memory rounds reader).1.pc = .idle ∧
      (drain memory rounds reader).1.ring = reader.ring ∧
      ∀ bytes ∈ (drain memory rounds reader).2,
        Readable reader.ring memory bytes := by
  induction rounds generalizing reader with
  | zero =>
      exact ⟨atRest, rfl, by simp [drain]⟩
  | succ rounds inductionHypothesis =>
      have rests := ShmRingReader.read_idle several bound atRest
      have sameRing := ShmRingReader.read_ring reader memory
      have readable (bytes : Bytes)
          (received : (reader.read memory).2 = some bytes) :
          Readable reader.ring memory bytes :=
        ShmRingReader.read_readable atRest received
      unfold drain
      split
      · rename_i moved outcome
        rw [outcome] at rests sameRing
        exact ⟨rests, sameRing, by simp⟩
      · rename_i moved bytes outcome
        rw [outcome] at rests sameRing
        have first := readable bytes (by rw [outcome])
        obtain ⟨laterRests, laterRing, later⟩ :=
          inductionHypothesis (by rwa [sameRing]) rests
        refine ⟨laterRests, laterRing.trans sameRing, ?_⟩
        intro other member
        rcases List.mem_cons.mp member with rfl | member
        · exact first
        · rw [← sameRing]
          exact later other member

end Drain

/-- A poll uses what the entry has open, or the object bound to its name with
a reader at rest. -/
theorem ReaderEntry.mapping_cases
    {entry : ReaderEntry} {memory : SharedMemory} {object : Nat}
    {reader : ShmRingReader}
    (mapped : entry.mapping memory = some (object, reader)) :
    entry.opened = some (object, reader) ∨
      memory.bound entry.segName = some object ∧
        (memory.objects object).magic = kMagic ∧ reader.pc = .idle ∧
        reader.ring =
          ⟨(memory.objects object).slotCount,
            (memory.objects object).slotSize⟩ := by
  unfold mapping at mapped
  split at mapped
  · rename_i already
    cases mapped
    exact Or.inl already
  · right
    unfold SharedMemory.openSegment at mapped
    cases bound : memory.bound entry.segName with
    | none =>
        simp [bound] at mapped
    | some found =>
        by_cases ready : (memory.objects found).magic = kMagic
        · simp only [bound, ShmRing.attach, ready, ne_eq, not_true_eq_false,
            if_false, Option.map_some, Option.some.injEq, Prod.mk.injEq]
            at mapped
          obtain ⟨rfl, rfl⟩ := mapped
          exact ⟨rfl, ready, rfl, rfl⟩
        · simp [bound, ShmRing.attach, ready] at mapped

theorem ReaderEntry.poll_frame (entry : ReaderEntry) (memory : SharedMemory) :
    (entry.poll memory).1.topic = entry.topic ∧
      (entry.poll memory).1.segName = entry.segName := by
  unfold poll
  split <;> exact ⟨rfl, rfl⟩

theorem ReaderEntry.opened_poll
    {entry : ReaderEntry} {memory : SharedMemory} {object : Nat}
    {cursor : ShmRingReader}
    (isOpen : (entry.poll memory).1.opened = some (object, cursor)) :
    ∃ mapped, entry.mapping memory = some (object, mapped) := by
  unfold poll at isOpen
  split at isOpen
  · rename_i unmapped
    dsimp only at isOpen
    simp [mapping, isOpen] at unmapped
  · rename_i found mapped mapping
    cases isOpen
    exact ⟨mapped, mapping⟩

/-! ## Delivering -/

namespace DataPlane

/-- Delivering only touches the bus, and reaches subscribers of the topics
delivered. -/
theorem deliverAll_spec
    (messages : List (Text × Bytes)) (plane : DataPlane) :
    (plane.deliverAll messages).1 =
        { plane with bus := (plane.deliverAll messages).1.bus } ∧
      (plane.deliverAll messages).1.bus.Within plane.bus ∧
      ∀ sink bytes, (sink, bytes) ∈ (plane.deliverAll messages).2 →
        ∃ topic, (topic, bytes) ∈ messages ∧
          sink ∈ (plane.bus.entry topic).sinks := by
  induction messages generalizing plane with
  | nil =>
      exact ⟨rfl, LocalBus.Within.refl _, by simp [deliverAll]⟩
  | cons message later inductionHypothesis =>
      obtain ⟨topic, bytes⟩ := message
      obtain ⟨within, reached⟩ :=
        plane.bus.within_deliverInbound plane.alive topic
      obtain ⟨frame, laterWithin, laterReached⟩ :=
        inductionHypothesis (plane.deliverInbound topic bytes).1
      refine ⟨frame, within.trans laterWithin, ?_⟩
      intro sink other member
      rcases List.mem_append.mp member with first | rest
      · simp only [deliverInbound, List.mem_map, Prod.mk.injEq] at first
        obtain ⟨found, isTarget, rfl, rfl⟩ := first
        exact ⟨topic, List.mem_cons_self, reached isTarget⟩
      · obtain ⟨laterTopic, inLater, isSink⟩ := laterReached sink other rest
        exact ⟨laterTopic, List.mem_cons_of_mem _ inLater,
          within.sinks laterTopic isSink⟩

theorem pollOnce_frame (plane : DataPlane) (memory : SharedMemory) :
    SameIdentity plane (plane.pollOnce memory).1 ∧
      (plane.pollOnce memory).1.shmPub = plane.shmPub := by
  unfold pollOnce
  split
  · exact ⟨SameIdentity.refl plane, rfl⟩
  · dsimp only
    rw [(deliverAll_spec _ _).1]
    exact ⟨⟨rfl, rfl, rfl, rfl⟩, rfl⟩

theorem pollOnce_readers
    (plane : DataPlane) (memory : SharedMemory)
    {readers : Std.TreeMap Text ReaderEntry}
    (held : plane.shmReaders = some readers) :
    (plane.pollOnce memory).1.shmReaders =
        some (readers.map fun _ (entry : ReaderEntry) =>
          (entry.poll memory).1) ∧
      (plane.pollOnce memory).1.shmSubRef = plane.shmSubRef := by
  simp only [pollOnce, held]
  rw [(deliverAll_spec _ _).1]
  exact ⟨rfl, rfl⟩

/-- Every message read in a poll comes from an entry. -/
theorem entry_of_read
    {plane : DataPlane} {memory : SharedMemory} {delivery : Delivery}
    (member : delivery ∈ (plane.pollOnce memory).2.1) :
    ∃ (readers : Std.TreeMap Text ReaderEntry) (key : Text)
      (entry : ReaderEntry),
      plane.shmReaders = some readers ∧ readers[key]? = some entry ∧
        delivery.topic = entry.topic ∧ delivery.segName = entry.segName ∧
        delivery.bytes ∈ (entry.poll memory).2 := by
  unfold pollOnce at member
  split at member
  · cases member
  · rename_i readers held
    simp only [readAll, List.mem_flatMap, List.mem_map] at member
    obtain ⟨⟨key, entry⟩, listed, bytes, isRead, rfl⟩ := member
    exact ⟨readers, key, entry, held,
      Std.TreeMap.mem_toList_iff_getElem?_eq_some.mp listed, rfl, rfl, isRead⟩

/-- Every call of `enqueue` in a poll is for a message read, on a subscriber
of its topic. -/
theorem pollOnce_calls
    {plane : DataPlane} {memory : SharedMemory} {sink : SinkHandle}
    {bytes : Bytes} (call : (sink, bytes) ∈ (plane.pollOnce memory).2.2) :
    ∃ delivery ∈ (plane.pollOnce memory).2.1,
      delivery.bytes = bytes ∧
        sink ∈ (plane.bus.entry delivery.topic).sinks := by
  unfold pollOnce at call ⊢
  split at call
  · cases call
  · obtain ⟨topic, member, isSink⟩ := (deliverAll_spec _ _).2.2 sink bytes call
    obtain ⟨delivery, isRead, equal⟩ := List.mem_map.mp member
    cases equal
    exact ⟨delivery, isRead, rfl, isSink⟩

theorem within_pollOnce (plane : DataPlane) (memory : SharedMemory) :
    (plane.pollOnce memory).1.bus.Within plane.bus := by
  unfold pollOnce
  split
  · exact LocalBus.Within.refl _
  · exact (deliverAll_spec _ _).2.1

end DataPlane

end MiniMiddleware.Core
