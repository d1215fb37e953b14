import MiniMiddleware.Core.Fabric

/-!
# Segments belong to channels

A channel is a publishing participant with a topic.  As long as the topics of
one participant have segment names of their own, every shared-memory object
belongs to one channel: the object is created under the channel's name, only
the channel's sink writes to it, and only readers of the channel open it.

The invariant is stated for an arbitrary property of messages that holds of
whatever a channel's publisher writes.  It then holds of whatever the readers
of that channel read.
-/

namespace MiniMiddleware.Core

open MiniMiddleware.Library MiniMiddleware.Discovery MiniMiddleware.Transport

/-! ## Names -/

/-- The system calls cut a segment name inside its topic. -/
theorem cStr_segName (pid : Nat) (topic : Text) :
    cStr (segName pid topic) =
      "/mm.".toList ++ decimal pid ++ '.' :: cStr (topic.map segChar) := by
  have noNull : '\x00' ∉ "/mm.".toList ++ decimal pid ++ ['.'] := by
    simp [notMem_decimal (show '\x00'.isDigit = false by decide) pid]
  have cut := cStr_append noNull (topic.map segChar)
  simpa [segName] using cut

/-- To the system calls, two segments have one name exactly when their writers
are the same and their topics agree up to the replaced characters and the
first null character. -/
theorem cStr_segName_eq_iff
    {firstPid secondPid : Nat} {first second : Text} :
    cStr (segName firstPid first) = cStr (segName secondPid second) ↔
      firstPid = secondPid ∧
        cStr (first.map segChar) = cStr (second.map segChar) := by
  rw [cStr_segName, cStr_segName]
  constructor
  · intro equal
    rw [List.append_assoc, List.append_assoc] at equal
    exact decimal_append_separator (by decide) (List.append_cancel_left equal)
  · rintro ⟨rfl, topics⟩
    rw [topics]

/-- The topics of each participant differ even after the replacement of
characters and up to the first null character. -/
def Separated (channels : Nat → Text → Prop) : Prop :=
  ∀ pid first second, channels pid first → channels pid second →
    cStr (first.map segChar) = cStr (second.map segChar) → first = second

/-- Within separated channels, a name determines its channel. -/
theorem Separated.channel
    {channels : Nat → Text → Prop} (separated : Separated channels)
    {firstPid secondPid : Nat} {first second : Text}
    (firstChannel : channels firstPid first)
    (secondChannel : channels secondPid second)
    (equal :
      cStr (segName firstPid first) = cStr (segName secondPid second)) :
    (firstPid, first) = (secondPid, second) := by
  obtain ⟨rfl, topics⟩ := cStr_segName_eq_iff.mp equal
  rw [separated firstPid first second firstChannel secondChannel topics]

/-! ## The invariant -/

/-- An initialised ring of the data plane in which only messages with a
property can be read. -/
structure RingSound (legit : Bytes → Prop) (content : RingMemory) : Prop where
  slotCount : content.slotCount = kShmSlotCount
  slotSize : content.slotSize = kShmSlotCapacity
  writeSeq : content.writeSeq < 2 ^ 64
  readable : ∀ bytes, Readable shmView content bytes → legit bytes

/-- Every named object belongs to the channel of its name, and every
initialised object holds messages of its channel. -/
structure MemorySound (channels : Nat → Text → Prop)
    (legit : Nat → Text → Bytes → Prop) (owner : Nat → Nat × Text)
    (memory : SharedMemory) : Prop where
  named :
    ∀ (name : Text) (object : Nat), memory.bound name = some object →
      object < memory.nextObject ∧
        channels (owner object).1 (owner object).2 ∧
        cStr name = cStr (segName (owner object).1 (owner object).2)
  fresh :
    ∀ object, memory.nextObject ≤ object →
      (memory.objects object).magic ≠ kMagic
  contents :
    ∀ object, (memory.objects object).magic = kMagic →
      RingSound (legit (owner object).1 (owner object).2)
        (memory.objects object)

/-- An initialised object of a channel. -/
structure Holds (owner : Nat → Nat × Text) (memory : SharedMemory)
    (object pid : Nat) (topic : Text) : Prop where
  allocated : object < memory.nextObject
  owner : owner object = (pid, topic)
  magic : (memory.objects object).magic = kMagic

/-- The sinks of a data plane write to objects of their own channel, and its
readers read from objects of the channel they are registered for. -/
structure PlaneSound (channels : Nat → Text → Prop) (owner : Nat → Nat × Text)
    (memory : SharedMemory) (pid : Nat) (plane : DataPlane) : Prop where
  running : plane.stopped = false
  localPid : plane.localPid = pid
  writers :
    ∀ (topic : Text) (serial object : Nat) (name : Text),
      plane.bus.Has topic (.shm serial object name) →
        Holds owner memory object pid topic
  registered :
    ∀ (readers : Std.TreeMap Text ReaderEntry) (key : Text)
      (entry : ReaderEntry),
      plane.shmReaders = some readers → readers[key]? = some entry →
        ∃ writer, channels writer entry.topic ∧
          entry.segName = segName writer entry.topic
  opened :
    ∀ (readers : Std.TreeMap Text ReaderEntry) (key : Text)
      (entry : ReaderEntry) (object : Nat) (reader : ShmRingReader),
      plane.shmReaders = some readers → readers[key]? = some entry →
        entry.opened = some (object, reader) →
        reader.pc = .idle ∧ reader.ring = shmView ∧
          ∃ writer, Holds owner memory object writer entry.topic ∧
            entry.segName = segName writer entry.topic

/-- A later state of the memory and of the ownership of its objects. -/
structure Extends (owner : Nat → Nat × Text) (memory : SharedMemory)
    (owner' : Nat → Nat × Text) (memory' : SharedMemory) : Prop where
  allocated : memory.nextObject ≤ memory'.nextObject
  owner : ∀ object < memory.nextObject, owner' object = owner object
  magic :
    ∀ object < memory.nextObject, (memory.objects object).magic = kMagic →
      (memory'.objects object).magic = kMagic

section Extension

variable {channels : Nat → Text → Prop} {legit : Nat → Text → Bytes → Prop}
  {owner owner' owner'' : Nat → Nat × Text}
  {memory memory' memory'' : SharedMemory} {pid : Nat} {plane : DataPlane}

theorem Extends.refl (owner : Nat → Nat × Text) (memory : SharedMemory) :
    Extends owner memory owner memory :=
  ⟨Nat.le_refl _, fun _ _ => rfl, fun _ _ => id⟩

theorem Extends.trans
    (first : Extends owner memory owner' memory')
    (second : Extends owner' memory' owner'' memory'') :
    Extends owner memory owner'' memory'' where
  allocated := first.allocated.trans second.allocated
  owner object inside :=
    (second.owner object (inside.trans_le first.allocated)).trans
      (first.owner object inside)
  magic object inside ready :=
    second.magic object (inside.trans_le first.allocated)
      (first.magic object inside ready)

theorem Holds.extend
    {object : Nat} {topic : Text} (holds : Holds owner memory object pid topic)
    (grows : Extends owner memory owner' memory') :
    Holds owner' memory' object pid topic where
  allocated := holds.allocated.trans_le grows.allocated
  owner := (grows.owner object holds.allocated).trans holds.owner
  magic := grows.magic object holds.allocated holds.magic

theorem PlaneSound.extend
    (sound : PlaneSound channels owner memory pid plane)
    (grows : Extends owner memory owner' memory') :
    PlaneSound channels owner' memory' pid plane where
  running := sound.running
  localPid := sound.localPid
  writers topic serial object name has :=
    (sound.writers topic serial object name has).extend grows
  registered := sound.registered
  opened readers key entry object reader held found isOpen := by
    obtain ⟨rests, ring, writer, holds, named⟩ :=
      sound.opened readers key entry object reader held found isOpen
    exact ⟨rests, ring, writer, holds.extend grows, named⟩

theorem MemorySound.mono
    {more : Nat → Text → Bytes → Prop}
    (sound : MemorySound channels legit owner memory)
    (implies : ∀ pid topic bytes, legit pid topic bytes → more pid topic bytes) :
    MemorySound channels more owner memory where
  named := sound.named
  fresh := sound.fresh
  contents object ready := by
    obtain ⟨slotCount, slotSize, writeSeq, readable⟩ :=
      sound.contents object ready
    exact ⟨slotCount, slotSize, writeSeq,
      fun bytes isReadable => implies _ _ _ (readable bytes isReadable)⟩

end Extension

/-! ## Rings -/

theorem RingSound.init (legit : Bytes → Prop) (before : RingMemory) :
    RingSound legit
      (ShmRing.init before kShmSlotCount kShmSlotCapacity).2 where
  slotCount := rfl
  slotSize := rfl
  writeSeq := by simp [ShmRing.init]
  readable := by
    rintro bytes ⟨pos, published, _⟩
    have inside : shmView.slotIndex pos < kShmSlotCount :=
      Nat.lt_of_le_of_lt Nat.and_le_right (by decide)
    simp only [ShmRing.init, if_pos inside] at published
    exact absurd published (by decide)

theorem RingSound.write
    {legit : Bytes → Prop} {content : RingMemory}
    (sound : RingSound legit content) {bytes : Bytes} (isLegit : legit bytes) :
    RingSound legit (shmView.write content bytes).1 := by
  by_cases fits : bytes.length ≤ shmView.slotSize
  · rw [ShmRing.write_of_fits shmView content fits]
    refine ⟨sound.slotCount, sound.slotSize,
      Nat.mod_lt _ (Nat.two_pow_pos 64), ?_⟩
    rintro other ⟨pos, published, payload⟩
    by_cases same : shmView.slotIndex pos = shmView.slotIndex content.writeSeq
    · simp only [same, Function.update_self, payload_writtenSlot] at payload
      rwa [← payload]
    · simp only [Function.update_of_ne same] at published payload
      exact sound.readable other ⟨pos, published, payload⟩
  · rw [ShmRing.write_of_large shmView content (Nat.lt_of_not_le fits)]
    exact sound

theorem magic_write (content : RingMemory) (bytes : Bytes) :
    (shmView.write content bytes).1.magic = content.magic := by
  by_cases fits : bytes.length ≤ shmView.slotSize
  · rw [ShmRing.write_of_fits shmView content fits]
  · rw [ShmRing.write_of_large shmView content (Nat.lt_of_not_le fits)]

/-! ## Operations on shared memory -/

section Memory

variable {channels : Nat → Text → Prop} {legit : Nat → Text → Bytes → Prop}
  {owner : Nat → Nat × Text} {memory : SharedMemory} {pid : Nat} {topic : Text}

theorem MemorySound.store
    (sound : MemorySound channels legit owner memory)
    {object : Nat} (allocated : object < memory.nextObject)
    {content : RingMemory} (ready : content.magic = kMagic)
    (ring : RingSound (legit (owner object).1 (owner object).2) content) :
    MemorySound channels legit owner (memory.store object content) ∧
      Extends owner memory owner (memory.store object content) := by
  refine ⟨⟨sound.named, ?_, ?_⟩, Nat.le_refl _, fun _ _ => rfl, ?_⟩
  · intro other beyond
    have different : other ≠ object := by
      rintro rfl
      exact absurd allocated (Nat.not_lt.mpr beyond)
    simp only [SharedMemory.store, Function.update_of_ne different]
    exact sound.fresh other beyond
  · intro other isReady
    by_cases same : other = object
    · subst same
      simp only [SharedMemory.store, Function.update_self]
      exact ring
    · simp only [SharedMemory.store, Function.update_of_ne same] at isReady ⊢
      exact sound.contents other isReady
  · intro other _ isReady
    by_cases same : other = object
    · subst same
      simp only [SharedMemory.store, Function.update_self]
      exact ready
    · simp only [SharedMemory.store, Function.update_of_ne same]
      exact isReady

theorem MemorySound.unlink
    (sound : MemorySound channels legit owner memory) (name : Text) :
    MemorySound channels legit owner (memory.unlink name) ∧
      Extends owner memory owner (memory.unlink name) := by
  refine ⟨⟨?_, sound.fresh, sound.contents⟩,
    Nat.le_refl _, fun _ _ => rfl, fun _ _ => id⟩
  intro other object found
  rw [SharedMemory.bound_unlink] at found
  split at found
  · cases found
  · exact sound.named other object found

/-- Opening the name of a channel yields an object of that channel. -/
theorem MemorySound.openCreate
    (sound : MemorySound channels legit owner memory)
    (separated : Separated channels) (channel : channels pid topic) :
    ∃ owner',
      MemorySound channels legit owner'
          (memory.openCreate (segName pid topic)).1 ∧
        Extends owner memory owner'
          (memory.openCreate (segName pid topic)).1 ∧
        (memory.openCreate (segName pid topic)).2 <
          (memory.openCreate (segName pid topic)).1.nextObject ∧
        owner' (memory.openCreate (segName pid topic)).2 = (pid, topic) := by
  unfold SharedMemory.openCreate
  cases found : memory.bound (segName pid topic) with
  | some object =>
      obtain ⟨allocated, itsChannel, named⟩ := sound.named _ object found
      refine ⟨owner, sound, Extends.refl owner memory, allocated, ?_⟩
      exact (separated.channel channel itsChannel named).symm
  | none =>
      refine ⟨Function.update owner memory.nextObject (pid, topic),
        ⟨?_, ?_, ?_⟩, ⟨Nat.le_succ _, ?_, ?_⟩, Nat.lt_succ_self _,
        Function.update_self ..⟩
      · intro name object bound
        rcases getElem?_insert_eq_some.mp bound with ⟨equal, rfl⟩ | ⟨_, old⟩
        · rw [Function.update_self]
          exact ⟨Nat.lt_succ_self _, channel, equal.symm⟩
        · obtain ⟨allocated, rest⟩ := sound.named name object old
          rw [Function.update_of_ne allocated.ne]
          exact ⟨allocated.trans (Nat.lt_succ_self _), rest⟩
      · intro object beyond
        dsimp only at beyond ⊢
        rw [Function.update_of_ne (show object ≠ memory.nextObject by omega)]
        exact sound.fresh object (by omega)
      · intro object ready
        by_cases same : object = memory.nextObject
        · subst same
          simp only [Function.update_self] at ready
          exact absurd ready (by decide)
        · simp only [Function.update_of_ne same] at ready ⊢
          exact sound.contents object ready
      · intro object allocated
        exact Function.update_of_ne allocated.ne _ _
      · intro object allocated ready
        dsimp only
        rwa [Function.update_of_ne allocated.ne]

theorem MemorySound.create
    (sound : MemorySound channels legit owner memory)
    (separated : Separated channels) (channel : channels pid topic)
    (outcome : CreateOutcome) :
    let created :=
      memory.create (segName pid topic) kShmSlotCount kShmSlotCapacity outcome
    ∃ owner',
      MemorySound channels legit owner' created.1 ∧
        Extends owner memory owner' created.1 ∧
        ∀ object, created.2 = some object →
          Holds owner' created.1 object pid topic := by
  cases outcome with
  | openFailed =>
      exact ⟨owner, sound, Extends.refl owner memory,
        fun object none => by cases none⟩
  | mapFailed =>
      obtain ⟨owner', opened, grows, _, _⟩ :=
        sound.openCreate separated channel
      obtain ⟨unlinked, keeps⟩ := opened.unlink (segName pid topic)
      exact ⟨owner', unlinked, grows.trans keeps,
        fun object none => by cases none⟩
  | created =>
      obtain ⟨owner', opened, grows, allocated, owned⟩ :=
        sound.openCreate separated channel
      obtain ⟨stored, keeps⟩ :=
        opened.store allocated
          (show (ShmRing.init _ kShmSlotCount kShmSlotCapacity).2.magic = kMagic
            from rfl)
          (RingSound.init _
            ((memory.openCreate (segName pid topic)).1.objects
              (memory.openCreate (segName pid topic)).2))
      refine ⟨owner', stored, grows.trans keeps, fun object made => ?_⟩
      cases made
      exact ⟨allocated, owned, by
        simp [SharedMemory.create, SharedMemory.store, ShmRing.init]⟩

/-- One `enqueue` of a message that is legitimate for the object it is written
to, if any. -/
theorem MemorySound.enqueue
    {bytes : Bytes} {sink : SinkHandle}
    (sound : MemorySound channels legit owner memory)
    (writer :
      ∀ serial object name, sink = .shm serial object name →
        ∃ pid topic, Holds owner memory object pid topic ∧
          legit pid topic bytes) :
    MemorySound channels legit owner (writeSink bytes memory sink) ∧
      Extends owner memory owner (writeSink bytes memory sink) := by
  cases sink with
  | shm serial object name =>
      obtain ⟨pid, topic, holds, isLegit⟩ := writer serial object name rfl
      refine sound.store holds.allocated ?_ ?_
      · rw [magic_write]
        exact holds.magic
      · refine (sound.contents object holds.magic).write ?_
        rw [holds.owner]
        exact isLegit
  | subscriber serial topic typeName =>
      exact ⟨sound, Extends.refl owner memory⟩
  | remote serial topic peer =>
      exact ⟨sound, Extends.refl owner memory⟩

/-- A publish of a legitimate message writes it to objects of its channel. -/
theorem MemorySound.writeSinks
    {bytes : Bytes} (isLegit : legit pid topic bytes)
    {sinks : List SinkHandle}
    (sound : MemorySound channels legit owner memory)
    (writers :
      ∀ serial object name, SinkHandle.shm serial object name ∈ sinks →
        Holds owner memory object pid topic) :
    MemorySound channels legit owner (sinks.foldl (writeSink bytes) memory) ∧
      Extends owner memory owner (sinks.foldl (writeSink bytes) memory) := by
  induction sinks generalizing memory with
  | nil =>
      exact ⟨sound, Extends.refl owner memory⟩
  | cons sink later inductionHypothesis =>
      have first :
          MemorySound channels legit owner (writeSink bytes memory sink) ∧
            Extends owner memory owner (writeSink bytes memory sink) := by
        refine sound.enqueue fun serial object name isShm => ?_
        exact ⟨pid, topic,
          writers serial object name (isShm ▸ List.mem_cons_self), isLegit⟩
      obtain ⟨rest, grows⟩ :=
        inductionHypothesis first.1 fun serial object name member =>
          (writers serial object name
            (List.mem_cons_of_mem sink member)).extend first.2
      exact ⟨rest, first.2.trans grows⟩

end Memory

/-! ## Operations on a data plane -/

/-- The channel of a match: the publishing participant and the topic. -/
def channelOf (pid : Nat) (m : MatchInfo) : Nat × Text :=
  (if m.localEndpoint.kind = .publisher then pid else m.remoteParticipantId,
    m.localEndpoint.topic)

section Plane

variable {channels : Nat → Text → Prop} {legit : Nat → Text → Bytes → Prop}
  {owner : Nat → Nat × Text} {memory : SharedMemory} {pid : Nat}
  {plane after : DataPlane} {m : MatchInfo}

/-- An operation that adds neither writers nor readers. -/
theorem PlaneSound.shrink
    (sound : PlaneSound channels owner memory pid plane)
    (same : DataPlane.SameIdentity plane after)
    (readers :
      ∀ (readers : Std.TreeMap Text ReaderEntry) (key : Text)
        (entry : ReaderEntry),
        after.shmReaders = some readers → readers[key]? = some entry →
          ∃ old, plane.shmReaders = some old ∧ old[key]? = some entry)
    (writers :
      ∀ (topic : Text) (serial object : Nat) (name : Text),
        after.bus.Has topic (.shm serial object name) →
          plane.bus.Has topic (.shm serial object name)) :
    PlaneSound channels owner memory pid after where
  running := same.stopped.trans sound.running
  localPid := same.localPid.trans sound.localPid
  writers topic serial object name has :=
    sound.writers topic serial object name
      (writers topic serial object name has)
  registered now key entry held found := by
    obtain ⟨old, oldHeld, oldFound⟩ := readers now key entry held found
    exact sound.registered old key entry oldHeld oldFound
  opened now key entry object reader held found isOpen := by
    obtain ⟨old, oldHeld, oldFound⟩ := readers now key entry held found
    exact sound.opened old key entry object reader oldHeld oldFound isOpen

/-- An operation that only removes sinks from the bus. -/
theorem PlaneSound.setBus
    (sound : PlaneSound channels owner memory pid plane)
    {bus : LocalBus SinkHandle} {serial : Nat}
    (writers :
      ∀ (topic : Text) (serial object : Nat) (name : Text),
        bus.Has topic (.shm serial object name) →
          plane.bus.Has topic (.shm serial object name)) :
    PlaneSound channels owner memory pid
      { plane with bus := bus, nextSerial := serial } :=
  sound.shrink ⟨rfl, rfl, rfl, rfl⟩
    (fun readers _ _ held found => ⟨readers, held, found⟩) writers

/-- The memory after a match, and the writers: a publisher's match may create
the segment of its channel. -/
theorem PlaneSound.createSegment
    (sound : PlaneSound channels owner memory pid plane)
    (memorySound : MemorySound channels legit owner memory)
    (separated : Separated channels)
    (channel : channels pid m.localEndpoint.topic) (outcome : CreateOutcome) :
    ∃ owner',
      MemorySound channels legit owner'
          (plane.shmPubMatch memory m outcome).2 ∧
        Extends owner memory owner' (plane.shmPubMatch memory m outcome).2 ∧
        ∀ (topic : Text) (serial object : Nat) (name : Text),
          (plane.shmPubMatch memory m outcome).1.bus.Has topic
              (.shm serial object name) →
            Holds owner' (plane.shmPubMatch memory m outcome).2 object pid
              topic := by
  have created := memorySound.create separated channel outcome
  rw [← sound.localPid] at created
  cases plane.shmPubMatch_cases memory m outcome with
  | counted _ _ _ bus unchanged =>
      rw [unchanged, bus]
      exact ⟨owner, memorySound, Extends.refl owner memory, sound.writers⟩
  | created object _ made _ bus changed =>
      obtain ⟨owner', isSound, grows, holds⟩ := created
      rw [← changed] at isSound grows holds
      refine ⟨owner', isSound, grows, ?_⟩
      intro topic serial found name has
      rw [bus] at has
      rcases LocalBus.has_addRemoteSink has with old | ⟨rfl, isNew⟩
      · exact (sound.writers topic serial found name old).extend grows
      · cases isNew
        rw [← sound.localPid]
        exact holds object made
  | failed _ _ _ bus changed =>
      obtain ⟨owner', isSound, grows, _⟩ := created
      rw [← changed] at isSound grows
      rw [bus]
      exact ⟨owner', isSound, grows, fun topic serial object name has =>
        (sound.writers topic serial object name has).extend grows⟩

theorem PlaneSound.handleMatch_writers
    (sound : PlaneSound channels owner memory pid plane)
    (memorySound : MemorySound channels legit owner memory)
    (separated : Separated channels)
    (allowed :
      plane.useShm m → channels (channelOf pid m).1 (channelOf pid m).2)
    (outcome : CreateOutcome) :
    ∃ owner',
      MemorySound channels legit owner'
          (plane.handleMatch memory m outcome).2 ∧
        Extends owner memory owner' (plane.handleMatch memory m outcome).2 ∧
        ∀ (topic : Text) (serial object : Nat) (name : Text),
          (plane.handleMatch memory m outcome).1.bus.Has topic
              (.shm serial object name) →
            Holds owner' (plane.handleMatch memory m outcome).2 object pid
              topic := by
  rw [DataPlane.handleMatch_eq sound.running]
  cases routed : plane.route m with
  | ignored =>
      exact ⟨owner, memorySound, Extends.refl owner memory, sound.writers⟩
  | tcpPub =>
      refine ⟨owner, memorySound, Extends.refl owner memory, ?_⟩
      intro topic serial object name has
      rcases plane.bus_tcpPubMatch m with same | added
      · rw [same] at has
        exact sound.writers topic serial object name has
      · rw [added] at has
        rcases LocalBus.has_addRemoteSink has with old | ⟨_, isNew⟩
        · exact sound.writers topic serial object name old
        · cases isNew
  | shmPub =>
      have channel := allowed (DataPlane.useShm_of_route (Or.inl routed))
      rw [channelOf, if_pos (DataPlane.kind_of_route.1 (Or.inl routed))]
        at channel
      exact sound.createSegment memorySound separated channel outcome
  | shmSub =>
      refine ⟨owner, memorySound, Extends.refl owner memory, ?_⟩
      rw [plane.shmSubMatch_bus m]
      exact sound.writers

theorem PlaneSound.handleMatch
    (sound : PlaneSound channels owner memory pid plane)
    (memorySound : MemorySound channels legit owner memory)
    (separated : Separated channels)
    (allowed :
      plane.useShm m → channels (channelOf pid m).1 (channelOf pid m).2)
    (outcome : CreateOutcome) :
    ∃ owner',
      MemorySound channels legit owner'
          (plane.handleMatch memory m outcome).2 ∧
        Extends owner memory owner' (plane.handleMatch memory m outcome).2 ∧
        PlaneSound channels owner' (plane.handleMatch memory m outcome).2 pid
          (plane.handleMatch memory m outcome).1 := by
  have same :=
    DataPlane.sameIdentity_handleMatch sound.running memory m outcome
  obtain ⟨owner', isSound, grows, writers⟩ :=
    sound.handleMatch_writers memorySound separated allowed outcome
  have extended := sound.extend grows
  refine ⟨owner', isSound, grows, same.stopped.trans sound.running,
    same.localPid.trans sound.localPid, writers, ?_, ?_⟩
  · intro readers key entry held found
    rcases DataPlane.entry_handleMatch sound.running held found with
      ⟨old, oldHeld, oldFound⟩ | ⟨routed, rfl⟩
    · exact extended.registered old key entry oldHeld oldFound
    · have channel := allowed (DataPlane.useShm_of_route (Or.inr routed))
      have subscriber := DataPlane.kind_of_route.2 routed
      rw [channelOf, if_neg (by simp [subscriber])] at channel
      exact ⟨m.remoteParticipantId, channel, rfl⟩
  · intro readers key entry object reader held found isOpen
    rcases DataPlane.entry_handleMatch sound.running held found with
      ⟨old, oldHeld, oldFound⟩ | ⟨_, rfl⟩
    · exact extended.opened old key entry object reader oldHeld oldFound isOpen
    · cases isOpen

theorem PlaneSound.handleUnmatch
    (sound : PlaneSound channels owner memory pid plane)
    (memorySound : MemorySound channels legit owner memory) (m : MatchInfo) :
    MemorySound channels legit owner (plane.handleUnmatch memory m).2 ∧
      Extends owner memory owner (plane.handleUnmatch memory m).2 ∧
      PlaneSound channels owner (plane.handleUnmatch memory m).2 pid
        (plane.handleUnmatch memory m).1 := by
  have kept :
      MemorySound channels legit owner (plane.handleUnmatch memory m).2 ∧
        Extends owner memory owner (plane.handleUnmatch memory m).2 := by
    rcases DataPlane.memory_handleUnmatch sound.running memory m with
      unchanged | unlinked
    · rw [unchanged]
      exact ⟨memorySound, Extends.refl owner memory⟩
    · rw [unlinked]
      exact memorySound.unlink _
  have within := DataPlane.within_handleUnmatch sound.running memory m
  refine ⟨kept.1, kept.2,
    (sound.extend kept.2).shrink
      (DataPlane.sameIdentity_handleUnmatch sound.running memory m) ?_
      fun _ _ _ _ has => within.has has⟩
  intro readers key entry held found
  exact DataPlane.entry_handleUnmatch sound.running held found

/-- What a poll maps for an entry belongs to the channel of the entry. -/
theorem PlaneSound.mapping
    (sound : PlaneSound channels owner memory pid plane)
    (memorySound : MemorySound channels legit owner memory)
    (separated : Separated channels)
    {readers : Std.TreeMap Text ReaderEntry} {key : Text} {entry : ReaderEntry}
    (held : plane.shmReaders = some readers)
    (found : readers[key]? = some entry) {object : Nat} {reader : ShmRingReader}
    (mapped : entry.mapping memory = some (object, reader)) :
    reader.pc = .idle ∧ reader.ring = shmView ∧
      ∃ writer, Holds owner memory object writer entry.topic ∧
        entry.segName = segName writer entry.topic := by
  rcases entry.mapping_cases mapped with isOpen | ⟨bound, ready, rests, ring⟩
  · exact sound.opened readers key entry object reader held found isOpen
  · obtain ⟨writer, channel, named⟩ :=
      sound.registered readers key entry held found
    obtain ⟨allocated, itsChannel, itsName⟩ :=
      memorySound.named entry.segName object bound
    have owned :=
      separated.channel channel itsChannel (named ▸ itsName)
    have content := memorySound.contents object ready
    rw [content.slotCount, content.slotSize] at ring
    exact ⟨rests, ring, writer, ⟨allocated, owned.symm, ready⟩, named⟩

/-- The messages that an entry reads in a poll are those of its channel. -/
theorem PlaneSound.poll
    (sound : PlaneSound channels owner memory pid plane)
    (memorySound : MemorySound channels legit owner memory)
    (separated : Separated channels)
    {readers : Std.TreeMap Text ReaderEntry} {key : Text} {entry : ReaderEntry}
    (held : plane.shmReaders = some readers)
    (found : readers[key]? = some entry) :
    (∀ object reader,
        (entry.poll memory).1.opened = some (object, reader) →
        reader.pc = .idle ∧ reader.ring = shmView ∧
          ∃ writer, Holds owner memory object writer entry.topic ∧
            entry.segName = segName writer entry.topic) ∧
      ∀ bytes ∈ (entry.poll memory).2,
        ∃ writer, legit writer entry.topic bytes ∧
          entry.segName = segName writer entry.topic := by
  cases mapped : entry.mapping memory with
  | none =>
      have unopened : entry.opened = none := by
        cases isOpen : entry.opened with
        | none =>
            rfl
        | some mapping =>
            simp [ReaderEntry.mapping, isOpen] at mapped
      simp [ReaderEntry.poll, mapped, unopened]
  | some mapping =>
      obtain ⟨object, reader⟩ := mapping
      obtain ⟨rests, ring, writer, holds, named⟩ :=
        sound.mapping memorySound separated held found mapped
      have content := memorySound.contents object holds.magic
      obtain ⟨stillRests, sameRing, readable⟩ :=
        drain_spec kMaxDrainPerReader (by rw [ring]; decide) content.writeSeq
          rests
      refine ⟨?_, ?_⟩
      · intro other moved isOpen
        simp only [ReaderEntry.poll, mapped, Option.some.injEq, Prod.mk.injEq]
          at isOpen
        obtain ⟨rfl, rfl⟩ := isOpen
        exact ⟨stillRests, sameRing.trans ring, writer, holds, named⟩
      · intro bytes member
        simp only [ReaderEntry.poll, mapped] at member
        have isLegit :=
          content.readable bytes (by rw [← ring]; exact readable bytes member)
        rw [holds.owner] at isLegit
        exact ⟨writer, isLegit, named⟩

/-- `poll_once` reads messages of the channels its readers are registered
for. -/
theorem PlaneSound.pollOnce
    (sound : PlaneSound channels owner memory pid plane)
    (memorySound : MemorySound channels legit owner memory)
    (separated : Separated channels) :
    PlaneSound channels owner memory pid (plane.pollOnce memory).1 ∧
      ∀ delivery ∈ (plane.pollOnce memory).2.1,
        ∃ writer, legit writer delivery.topic delivery.bytes ∧
          delivery.segName = segName writer delivery.topic := by
  unfold DataPlane.pollOnce
  split
  · exact ⟨sound, by simp⟩
  · rename_i readers held
    have polled :
        PlaneSound channels owner memory pid
          { plane with
            shmReaders :=
              some (readers.map fun _ (entry : ReaderEntry) =>
                (entry.poll memory).1) } := by
      refine ⟨sound.running, sound.localPid, sound.writers, ?_, ?_⟩
      · rintro others key after ⟨rfl⟩ present
        rw [Std.TreeMap.getElem?_map] at present
        obtain ⟨entry, found, rfl⟩ := Option.map_eq_some_iff.mp present
        rw [(entry.poll_frame memory).1, (entry.poll_frame memory).2]
        exact sound.registered readers key entry held found
      · rintro others key after object reader ⟨rfl⟩ present isOpen
        rw [Std.TreeMap.getElem?_map] at present
        obtain ⟨entry, found, rfl⟩ := Option.map_eq_some_iff.mp present
        rw [(entry.poll_frame memory).1, (entry.poll_frame memory).2]
        exact
          (sound.poll memorySound separated held found).1 object reader isOpen
    refine ⟨?_, ?_⟩
    · obtain ⟨frame, within, _⟩ :=
        DataPlane.deliverAll_spec
          ((DataPlane.readAll readers memory).map fun delivery =>
            (delivery.topic, delivery.bytes))
          { plane with
            shmReaders :=
              some (readers.map fun _ (entry : ReaderEntry) =>
                (entry.poll memory).1) }
      dsimp only
      rw [frame]
      exact polled.setBus fun _ _ _ _ has => within.has has
    · intro delivery member
      simp only [DataPlane.readAll, List.mem_flatMap, List.mem_map] at member
      obtain ⟨⟨key, entry⟩, listed, bytes, isRead, rfl⟩ := member
      exact
        (sound.poll memorySound separated held
          (Std.TreeMap.mem_toList_iff_getElem?_eq_some.mp listed)).2
          bytes isRead

end Plane

/-! ## The whole network -/

/-- Every host and every data plane is sound, for one ownership of all
objects. -/
def FabricSound (channels : Nat → Text → Prop)
    (legit : Nat → Text → Bytes → Prop) (fabric : Fabric) : Prop :=
  ∃ owner : Text → Nat → Nat × Text,
    (∀ host, MemorySound channels legit (owner host) (fabric.memory host)) ∧
      ∀ pid,
        PlaneSound channels (owner (fabric.planes pid).localHostId)
          (fabric.memoryOf pid) pid (fabric.planes pid)

/-- The guard of a set of channels: matches that use shared memory are for
channels of the set. -/
def OnChannels (channels : Nat → Text → Prop) (fabric : Fabric)
    (input : FabricInput) : Prop :=
  match input with
  | .handleMatch pid m _ =>
      (fabric.planes pid).useShm m →
        channels (channelOf pid m).1 (channelOf pid m).2
  | _ => True

instance (channels : Nat → Text → Prop)
    [∀ pid topic, Decidable (channels pid topic)] (fabric : Fabric)
    (input : FabricInput) : Decidable (OnChannels channels fabric input) :=
  match input with
  | .handleMatch pid m _ =>
      inferInstanceAs
        (Decidable
          ((fabric.planes pid).useShm m →
            channels (channelOf pid m).1 (channelOf pid m).2))
  | .createPublisher _ _ _ _ => isTrue trivial
  | .createSubscriber _ _ _ _ => isTrue trivial
  | .handleUnmatch _ _ => isTrue trivial
  | .publish _ _ _ _ => isTrue trivial
  | .poll _ => isTrue trivial
  | .arrive _ => isTrue trivial

section Network

variable {channels : Nat → Text → Prop} {legit more : Nat → Text → Bytes → Prop}
  {fabric target : Fabric}

theorem FabricSound.mono
    (sound : FabricSound channels legit fabric)
    (implies : ∀ pid topic bytes, legit pid topic bytes → more pid topic bytes) :
    FabricSound channels more fabric := by
  obtain ⟨owner, memories, planes⟩ := sound
  exact ⟨owner, fun host => (memories host).mono implies, planes⟩

/-- An operation of one participant affects the other participants only
through the memory of their host. -/
theorem FabricSound.apply
    {owner : Text → Nat → Nat × Text}
    (memories :
      ∀ host, MemorySound channels legit (owner host) (fabric.memory host))
    (planes :
      ∀ pid,
        PlaneSound channels (owner (fabric.planes pid).localHostId)
          (fabric.memoryOf pid) pid (fabric.planes pid))
    {pid : Nat} {after : DataPlane × SharedMemory}
    (host : after.1.localHostId = (fabric.planes pid).localHostId)
    {owner' : Nat → Nat × Text}
    (memorySound : MemorySound channels legit owner' after.2)
    (grows :
      Extends (owner (fabric.planes pid).localHostId) (fabric.memoryOf pid)
        owner' after.2)
    (planeSound : PlaneSound channels owner' after.2 pid after.1) :
    FabricSound channels legit (fabric.apply pid after) := by
  refine ⟨Function.update owner (fabric.planes pid).localHostId owner', ?_, ?_⟩
  · intro other
    by_cases same : other = (fabric.planes pid).localHostId
    · subst same
      simp only [Fabric.apply, Function.update_self]
      exact memorySound
    · simp only [Fabric.apply, Function.update_of_ne same]
      exact memories other
  · intro other
    by_cases mine : other = pid
    · subst mine
      simp only [Fabric.memoryOf, Fabric.apply, Function.update_self, host]
      exact planeSound
    · by_cases sameHost :
        (fabric.planes other).localHostId = (fabric.planes pid).localHostId
      · have extended := planes other
        simp only [Fabric.memoryOf, sameHost] at extended
        simp only [Fabric.memoryOf, Fabric.apply, Function.update_of_ne mine,
          sameHost, Function.update_self]
        exact extended.extend grows
      · simp only [Fabric.memoryOf, Fabric.apply, Function.update_of_ne mine,
          Function.update_of_ne sameHost]
        exact planes other

theorem FabricSound.setPlane
    {owner : Text → Nat → Nat × Text}
    (memories :
      ∀ host, MemorySound channels legit (owner host) (fabric.memory host))
    (planes :
      ∀ pid,
        PlaneSound channels (owner (fabric.planes pid).localHostId)
          (fabric.memoryOf pid) pid (fabric.planes pid))
    {pid : Nat} {plane : DataPlane}
    (host : plane.localHostId = (fabric.planes pid).localHostId)
    (planeSound :
      PlaneSound channels (owner (fabric.planes pid).localHostId)
        (fabric.memoryOf pid) pid plane) :
    FabricSound channels legit (fabric.setPlane pid plane) := by
  rw [Fabric.setPlane_eq_apply]
  exact FabricSound.apply memories planes host (memories _)
    (Extends.refl _ _) planeSound

/-- Every operation keeps the network sound, provided that what a publisher
gets past the type check is legitimate afterwards. -/
theorem FabricSound.step
    {input : FabricInput} {emitted : List FabricEvent}
    (sound : FabricSound channels legit fabric)
    (separated : Separated channels)
    (implies : ∀ pid topic bytes, legit pid topic bytes → more pid topic bytes)
    (publishes :
      ∀ pid topic typeName bytes,
        input = .publish pid topic typeName bytes →
        (fabric.planes pid).bus.accepts topic typeName →
        more pid topic bytes)
    (allowed : OnChannels channels fabric input)
    (stepped : fabric.step input = some (target, emitted)) :
    FabricSound channels more target := by
  obtain ⟨owner, memories, planes⟩ := sound.mono implies
  cases input with
  | createPublisher pid topic typeName reliability =>
      cases stepped
      exact
        FabricSound.setPlane memories planes rfl
          ((planes pid).setBus fun _ _ _ _ has =>
            LocalBus.has_registerPublisher has)
  | createSubscriber pid topic typeName reliability =>
      cases stepped
      refine
        FabricSound.setPlane memories planes rfl
          ((planes pid).setBus ?_)
      intro other serial object name has
      rcases LocalBus.has_subscribe has with old | ⟨_, new⟩
      · exact old
      · cases new
  | handleMatch pid m outcome =>
      cases stepped
      have same :=
        DataPlane.sameIdentity_handleMatch (planes pid).running
          (fabric.memoryOf pid) m outcome
      obtain ⟨owner', memorySound, grows, planeSound⟩ :=
        (planes pid).handleMatch (memories _) separated allowed outcome
      exact
        FabricSound.apply memories planes same.localHostId memorySound grows
          planeSound
  | handleUnmatch pid m =>
      cases stepped
      have same :=
        DataPlane.sameIdentity_handleUnmatch (planes pid).running
          (fabric.memoryOf pid) m
      obtain ⟨memorySound, grows, planeSound⟩ :=
        (planes pid).handleUnmatch (memories _) m
      exact
        FabricSound.apply memories planes same.localHostId memorySound grows
          planeSound
  | publish pid topic typeName bytes =>
      cases stepped
      -- Only an accepted publish has targets.
      have written :
          MemorySound channels more (owner (fabric.planes pid).localHostId)
              (((fabric.planes pid).bus.publish (fabric.planes pid).alive topic
                typeName).2.foldl (writeSink bytes) (fabric.memoryOf pid)) ∧
            Extends (owner (fabric.planes pid).localHostId)
              (fabric.memoryOf pid) (owner (fabric.planes pid).localHostId)
              (((fabric.planes pid).bus.publish (fabric.planes pid).alive topic
                typeName).2.foldl (writeSink bytes) (fabric.memoryOf pid)) := by
        by_cases accepted : (fabric.planes pid).bus.accepts topic typeName
        · exact
            MemorySound.writeSinks
              (publishes pid topic typeName bytes rfl accepted) (memories _)
              fun serial object name member =>
                (planes pid).writers topic serial object name
                  (LocalBus.has_of_target member).2
        · rw [LocalBus.publish_targets, if_neg accepted]
          exact ⟨memories _, Extends.refl _ _⟩
      exact
        FabricSound.apply memories planes rfl written.1 written.2
          (((planes pid).extend written.2).setBus fun _ _ _ _ has =>
            LocalBus.has_publish has)
  | poll pid =>
      cases stepped
      exact
        FabricSound.setPlane memories planes
          (DataPlane.pollOnce_frame _ _).1.localHostId
          ((planes pid).pollOnce (memories _) separated).1
  | arrive index =>
      obtain ⟨frame, _, rfl, rfl⟩ := Fabric.arrive_eq_some stepped
      obtain ⟨within, _⟩ :=
        (fabric.planes frame.peer).bus.within_deliverInbound
          (fabric.planes frame.peer).alive frame.topic
      exact
        FabricSound.setPlane memories planes rfl
          ((planes frame.peer).setBus fun _ _ _ _ has => within.has has)

/-- What a shared-memory reader delivers is legitimate for the channel it is
registered for. -/
theorem FabricSound.read
    {input : FabricInput} {emitted : List FabricEvent}
    (sound : FabricSound channels legit fabric)
    (separated : Separated channels)
    (stepped : fabric.step input = some (target, emitted))
    {pid : Nat} {name topic : Text} {bytes : Bytes}
    (isRead : .read pid name topic bytes ∈ emitted) :
    ∃ writer, legit writer topic bytes ∧ name = segName writer topic := by
  obtain ⟨owner, memories, planes⟩ := sound
  cases input with
  | poll poller =>
      cases stepped
      rcases List.mem_append.mp isRead with delivered | enqueued
      · obtain ⟨delivery, member, equal⟩ := List.mem_map.mp delivered
        cases equal
        exact ((planes pid).pollOnce (memories _) separated).2 delivery member
      · obtain ⟨_, _, equal⟩ := List.mem_map.mp enqueued
        cases equal
  | publish publisher published typeName sent =>
      cases stepped
      rcases List.mem_cons.mp isRead with equal | member
      · cases equal
      · obtain ⟨sink, _, equal⟩ := List.mem_filterMap.mp member
        cases sink <;> cases equal
  | arrive index =>
      obtain ⟨_, _, rfl, rfl⟩ := Fabric.arrive_eq_some stepped
      obtain ⟨_, _, equal⟩ := List.mem_map.mp isRead
      cases equal
  | _ =>
      cases stepped
      cases isRead

theorem FabricSound.started
    (channels : Nat → Text → Prop) (legit : Nat → Text → Bytes → Prop)
    (hosts : Nat → Text) (shm : Nat → Bool) :
    FabricSound channels legit (Fabric.started hosts shm) := by
  have blank : (0 : Nat) ≠ kMagic := by decide
  refine ⟨fun _ _ => (0, []), fun host => ?_, fun pid => ?_⟩
  · refine ⟨?_, fun _ _ => blank, fun _ ready => absurd ready blank⟩
    intro name object found
    simp [Fabric.started] at found
  · refine ⟨rfl, rfl, ?_, ?_, ?_⟩
    · intro topic serial object name has
      simp [Fabric.started, DataPlane.started, LocalBus.Has, LocalBus.entry,
        LocalBus.empty] at has
    · rintro readers key entry ⟨rfl⟩ found
      simp at found
    · rintro readers key entry object reader ⟨rfl⟩ found
      simp at found

end Network

end MiniMiddleware.Core
