import MiniMiddleware.Core.SegmentOwners

/-!
# The reader's mapping and the writer's segment

A segment name is bound to an object; the last unmatch of a publisher unlinks
the name, and its next match binds the name to a fresh object.  A reader entry
keeps the object it has opened until the entry is removed.  The ends take
notice of each other's absence independently, so the publisher may drop and
recreate its segment while the subscriber's entry stays open on the old
object.

As long as no fresh object is bound to the name while the reader is open, the
object that a poll leaves open is the one that the publisher writes.
-/

namespace MiniMiddleware.Core

open MiniMiddleware.Library MiniMiddleware.Discovery MiniMiddleware.Transport

/-! ## The condition -/

/-- Whether a participant's reader entry of this name has a segment open. -/
def readerOpen (fabric : Fabric) (reader : Nat) (name : Text) : Bool :=
  match (fabric.planes reader).shmReaders with
  | none => false
  | some readers =>
      match readers[name]? with
      | none => false
      | some entry => entry.opened.isSome

/-- A publisher's match that binds the name of its channel to a fresh object
while the reader has one open. -/
def recreatesOpen (writer reader : Nat) (topic : Text) (fabric : Fabric)
    (input : FabricInput) : Bool :=
  match input with
  | .handleMatch pid m outcome =>
      pid = writer ∧ (fabric.planes pid).route m = .shmPub ∧
        m.localEndpoint.topic = topic ∧ outcome = .created ∧
        topic ∉ (fabric.planes writer).shmPub ∧
        (fabric.memoryOf writer).bound (segName writer topic) = none ∧
        readerOpen fabric reader (segName writer topic)
  | _ => false

/-- A match or unmatch that uses shared memory is for this channel or for one
whose segment has another name in the system calls. -/
def ownSegment (writer : Nat) (topic : Text) (fabric : Fabric)
    (input : FabricInput) : Bool :=
  let own (pid : Nat) (m : MatchInfo) : Bool :=
    (fabric.planes pid).useShm m →
      channelOf pid m = (writer, topic) ∨
        cStr (segName (channelOf pid m).1 (channelOf pid m).2) ≠
          cStr (segName writer topic)
  match input with
  | .handleMatch pid m _ => own pid m
  | .handleUnmatch pid m => own pid m
  | _ => true

/-- The guard: nothing else uses the segment's name, and no fresh segment is
created while the reader has the old one open. -/
def Undisturbed (writer reader : Nat) (topic : Text) (fabric : Fabric)
    (input : FabricInput) : Prop :=
  ownSegment writer topic fabric input = true ∧
    recreatesOpen writer reader topic fabric input = false

instance (writer reader : Nat) (topic : Text) (fabric : Fabric)
    (input : FabricInput) :
    Decidable (Undisturbed writer reader topic fabric input) :=
  inferInstanceAs (Decidable (_ ∧ _))

/-! ## The invariant -/

/-- The writer of a topic writes to the initialised object that its name is
bound to. -/
def WriterLive (name topic : Text) (memory : SharedMemory)
    (plane : DataPlane) : Prop :=
  ∀ pub, plane.shmPub[topic]? = some pub →
    ∃ serial object, pub.sink = .shm serial object name ∧
      memory.bound name = some object ∧
      (memory.objects object).magic = kMagic

/-- A counted reader has an entry, and an open entry has no other object than
the one its name is bound to. -/
structure ReaderLive (name : Text) (memory : SharedMemory) (plane : DataPlane)
    (readers : Std.TreeMap Text ReaderEntry) : Prop where
  held : plane.shmReaders = some readers
  counted : name ∈ plane.shmSubRef → name ∈ readers
  segment :
    ∀ entry, readers[name]? = some entry → entry.segName = name
  opened :
    ∀ entry object cursor bound, readers[name]? = some entry →
      entry.opened = some (object, cursor) →
      memory.bound name = some bound → bound = object

/-- The two ends of one channel. -/
structure ChannelLive (writer reader : Nat) (topic : Text) (fabric : Fabric) :
    Prop where
  running : ∀ pid, (fabric.planes pid).stopped = false
  localPid : ∀ pid, (fabric.planes pid).localPid = pid
  sameHost :
    (fabric.planes reader).localHostId = (fabric.planes writer).localHostId
  allocated : (fabric.memoryOf writer).Allocated
  writes :
    WriterLive (segName writer topic) topic (fabric.memoryOf writer)
      (fabric.planes writer)
  reads :
    ∃ readers,
      ReaderLive (segName writer topic) (fabric.memoryOf writer)
        (fabric.planes reader) readers

/-- A change of the memory that keeps the binding of a name and the object
bound to it initialised. -/
structure KeepsName (name : Text) (memory after : SharedMemory) : Prop where
  bound : after.bound name = memory.bound name
  magic :
    ∀ object, memory.bound name = some object →
      (memory.objects object).magic = kMagic →
      (after.objects object).magic = kMagic

section Ends

variable {name topic : Text} {memory after : SharedMemory}
  {plane changed : DataPlane} {readers : Std.TreeMap Text ReaderEntry}

theorem KeepsName.refl (name : Text) (memory : SharedMemory) :
    KeepsName name memory memory :=
  ⟨rfl, fun _ _ => id⟩

theorem KeepsName.create
    (allocated : memory.Allocated) {other : Text}
    (different : cStr other ≠ cStr name) (slotCount slotSize : Nat)
    (outcome : CreateOutcome) :
    KeepsName name memory (memory.create other slotCount slotSize outcome).1 :=
  ⟨memory.bound_create_of_ne different slotCount slotSize outcome,
    fun object bound =>
      memory.magic_create other slotCount slotSize outcome
        (allocated name object bound)⟩

theorem KeepsName.unlink {other : Text}
    (different : cStr other ≠ cStr name) :
    KeepsName name memory (memory.unlink other) :=
  ⟨by rw [SharedMemory.bound_unlink, if_neg different], fun _ _ => id⟩

theorem WriterLive.keeps
    (live : WriterLive name topic memory plane)
    (keeps : KeepsName name memory after)
    (sinks :
      ∀ pub, changed.shmPub[topic]? = some pub →
        ∃ old, plane.shmPub[topic]? = some old ∧ pub.sink = old.sink) :
    WriterLive name topic after changed := by
  intro pub found
  obtain ⟨old, oldFound, sameSink⟩ := sinks pub found
  obtain ⟨serial, object, sink, bound, ready⟩ := live old oldFound
  exact ⟨serial, object, sameSink.trans sink, keeps.bound.trans bound,
    keeps.magic object bound ready⟩

/-- Counting a match or an unmatch keeps the sink of the writer. -/
theorem WriterLive.counted
    (live : WriterLive name topic memory plane) {other : Text} {pub : ShmPub}
    (isPub : plane.shmPub[other]? = some pub) {ref : Int}
    (writers :
      changed.shmPub = plane.shmPub.insert other { pub with ref := ref }) :
    WriterLive name topic memory changed := by
  apply live.keeps (KeepsName.refl name memory)
  intro after found
  rw [writers] at found
  rcases getElem?_insert_eq_some.mp found with ⟨rfl, rfl⟩ | ⟨_, old⟩
  · exact ⟨pub, isPub, rfl⟩
  · exact ⟨after, old, rfl⟩

/-- A reader stays live if its name gets no other object while it is open. -/
theorem ReaderLive.rebind
    (live : ReaderLive name memory plane readers)
    (names :
      ∀ bound, after.bound name = some bound →
        memory.bound name = some bound ∨
          ∀ entry, readers[name]? = some entry → entry.opened = none) :
    ReaderLive name after plane readers where
  held := live.held
  counted := live.counted
  segment := live.segment
  opened entry object cursor bound found isOpen isBound := by
    rcases names bound isBound with before | closed
    · exact live.opened entry object cursor bound found isOpen before
    · rw [closed entry found] at isOpen
      cases isOpen

theorem ReaderLive.congr
    (live : ReaderLive name memory plane readers)
    (counts :
      name ∈ changed.shmSubRef → name ∈ plane.shmSubRef)
    (held : changed.shmReaders = plane.shmReaders) :
    ReaderLive name memory changed readers where
  held := held.trans live.held
  counted present := live.counted (counts present)
  segment := live.segment
  opened := live.opened

theorem ReaderLive.shmSubMatch
    (live : ReaderLive name memory plane readers) (m : MatchInfo) :
    ∃ after, ReaderLive name memory (plane.shmSubMatch m) after := by
  have refs := (plane.shmSubMatch_readers m name).1
  have held := (plane.shmSubMatch_readers m name).2
  rw [live.held] at held
  generalize segName m.remoteParticipantId m.localEndpoint.topic = own
    at refs held
  by_cases known : own ∈ plane.shmSubRef
  · rw [if_pos known, ← live.held] at held
    refine ⟨readers, live.congr (fun present => ?_) held⟩
    rcases refs.mp present with rfl | old
    · exact known
    · exact old
  · rw [if_neg known, Option.map_some] at held
    by_cases present : own ∈ readers
    · rw [DataPlane.addReader, if_pos present] at held
      refine ⟨readers, held, fun counted => ?_, live.segment, live.opened⟩
      rcases refs.mp counted with rfl | old
      · exact present
      · exact live.counted old
    · rw [DataPlane.addReader, if_neg present] at held
      refine ⟨_, held, fun counted => ?_, ?_, ?_⟩
      · rw [Std.TreeMap.mem_insert, Std.compare_eq_iff_eq]
        exact (refs.mp counted).imp id live.counted
      · intro entry found
        rcases getElem?_insert_eq_some.mp found with ⟨equal, rfl⟩ | ⟨_, old⟩
        · exact equal
        · exact live.segment entry old
      · intro entry object cursor bound found isOpen
        rcases getElem?_insert_eq_some.mp found with ⟨_, rfl⟩ | ⟨_, old⟩
        · cases isOpen
        · exact live.opened entry object cursor bound old isOpen

theorem ReaderLive.shmSubUnmatch
    (live : ReaderLive name memory plane readers) (m : MatchInfo) :
    ∃ after, ReaderLive name memory (plane.shmSubUnmatch m) after := by
  rcases plane.shmSubUnmatch_readers m with
    ⟨kept, counts⟩ | ⟨erased, counts⟩
  · exact ⟨readers, live.congr (counts name) kept⟩
  · rw [live.held, Option.map_some] at erased
    refine ⟨_, erased, fun counted => ?_, ?_, ?_⟩
    · rw [counts, Std.TreeMap.mem_erase] at counted
      exact Std.TreeMap.mem_erase.mpr
        ⟨counted.1, live.counted counted.2⟩
    · intro entry found
      exact live.segment entry (getElem?_erase_eq_some.mp found).2
    · intro entry object cursor bound found isOpen
      have old := (getElem?_erase_eq_some.mp found).2
      exact live.opened entry object cursor bound old isOpen

theorem ReaderLive.handleMatch
    (live : ReaderLive name memory plane readers)
    (running : plane.stopped = false) (used : SharedMemory) (m : MatchInfo)
    (outcome : CreateOutcome) :
    ∃ after,
      ReaderLive name memory (plane.handleMatch used m outcome).1 after := by
  rw [DataPlane.handleMatch_eq running]
  cases plane.route m with
  | ignored =>
      exact ⟨readers, live⟩
  | tcpPub =>
      obtain ⟨_, counts, held⟩ := plane.tcpPubMatch_shm m
      exact ⟨readers, live.congr (by rw [counts]; exact id) held⟩
  | shmPub =>
      obtain ⟨counts, held⟩ := plane.shmPubMatch_readers used m outcome
      exact ⟨readers, live.congr (by rw [counts]; exact id) held⟩
  | shmSub =>
      exact live.shmSubMatch m

theorem ReaderLive.handleUnmatch
    (live : ReaderLive name memory plane readers)
    (running : plane.stopped = false) (used : SharedMemory) (m : MatchInfo) :
    ∃ after, ReaderLive name memory (plane.handleUnmatch used m).1 after := by
  rw [DataPlane.handleUnmatch_eq running]
  cases plane.route m with
  | ignored =>
      exact ⟨readers, live⟩
  | tcpPub =>
      obtain ⟨_, counts, held⟩ := plane.tcpPubUnmatch_shm m
      exact ⟨readers, live.congr (by rw [counts]; exact id) held⟩
  | shmPub =>
      obtain ⟨_, _, counts, held⟩ := plane.shmPubUnmatch_cases used m
      exact ⟨readers, live.congr (by rw [counts]; exact id) held⟩
  | shmSub =>
      exact live.shmSubUnmatch m

end Ends

section Acting

variable {writer pid : Nat} {topic : Text} {memory : SharedMemory}
  {plane : DataPlane} {m : MatchInfo}

/-- The acting data plane's match is for the channel or for another name. -/
def OwnSegment (writer : Nat) (topic : Text) (pid : Nat) (plane : DataPlane)
    (m : MatchInfo) : Prop :=
  plane.useShm m →
    channelOf pid m = (writer, topic) ∨
      cStr (segName (channelOf pid m).1 (channelOf pid m).2) ≠
        cStr (segName writer topic)

/-- A publisher's route is for the channel, or for another name. -/
theorem OwnSegment.publisher
    (own : OwnSegment writer topic pid plane m)
    (routed : plane.route m = .shmPub) :
    (pid = writer ∧ m.localEndpoint.topic = topic) ∨
      cStr (segName pid m.localEndpoint.topic) ≠
        cStr (segName writer topic) := by
  have cases := own (DataPlane.useShm_of_route (Or.inl routed))
  rw [channelOf, if_pos (DataPlane.kind_of_route.1 (Or.inl routed))] at cases
  exact cases.imp Prod.mk.inj id

/-- Every match but the channel's own leaves its name alone; that one may bind
it to a fresh object, but only if there was no writer and no binding. -/
theorem handleMatch_memory
    (own : OwnSegment writer topic pid plane m)
    (running : plane.stopped = false) (localPid : plane.localPid = pid)
    (allocated : memory.Allocated) (outcome : CreateOutcome) :
    let after := (plane.handleMatch memory m outcome).2
    after.Allocated ∧
      (KeepsName (segName writer topic) memory after ∨
        pid = writer ∧ plane.route m = .shmPub ∧
          m.localEndpoint.topic = topic ∧
          ∀ bound, after.bound (segName writer topic) = some bound →
            memory.bound (segName writer topic) = some bound ∨
              outcome = .created ∧ topic ∉ plane.shmPub ∧
                memory.bound (segName writer topic) = none) := by
  rw [DataPlane.handleMatch_eq running]
  cases routed : plane.route m with
  | ignored =>
      exact ⟨allocated, Or.inl (KeepsName.refl _ memory)⟩
  | tcpPub =>
      exact ⟨allocated, Or.inl (KeepsName.refl _ memory)⟩
  | shmSub =>
      exact ⟨allocated, Or.inl (KeepsName.refl _ memory)⟩
  | shmPub =>
      dsimp only
      have creates :=
        allocated.create (segName pid m.localEndpoint.topic) kShmSlotCount
          kShmSlotCapacity outcome
      cases plane.shmPubMatch_cases memory m outcome with
      | counted _ _ _ _ unchanged =>
          rw [unchanged]
          exact ⟨allocated, Or.inl (KeepsName.refl _ memory)⟩
      | created object missing made _ _ changed =>
          rw [localPid] at made changed
          rw [changed]
          refine ⟨creates, ?_⟩
          rcases own.publisher routed with ⟨rfl, rfl⟩ | different
          · refine Or.inr ⟨rfl, rfl, rfl, fun bound isBound => ?_⟩
            obtain ⟨isCreated, binds, _, keeps⟩ :=
              SharedMemory.create_some made
            rw [binds] at isBound
            cases isBound
            cases before : memory.bound (segName pid m.localEndpoint.topic) with
            | some old =>
                exact Or.inl (by rw [keeps old before])
            | none =>
                refine Or.inr ⟨isCreated, ?_, rfl⟩
                rw [Std.TreeMap.mem_iff_isSome_getElem?, missing]
                exact Bool.false_ne_true
          · exact Or.inl
              (KeepsName.create allocated different kShmSlotCount
                kShmSlotCapacity outcome)
      | failed missing failed _ _ changed =>
          rw [localPid] at failed changed
          rw [changed]
          refine ⟨creates, ?_⟩
          rcases own.publisher routed with ⟨rfl, rfl⟩ | different
          · refine Or.inr ⟨rfl, rfl, rfl, fun bound isBound => ?_⟩
            rcases SharedMemory.create_none failed with kept | unbound
            · rw [kept] at isBound
              exact Or.inl isBound
            · rw [unbound] at isBound
              cases isBound
          · exact Or.inl
              (KeepsName.create allocated different kShmSlotCount
                kShmSlotCapacity outcome)

/-- The writer's own matches leave it live. -/
theorem WriterLive.handleMatch
    (live : WriterLive (segName writer topic) topic memory plane)
    (own : OwnSegment writer topic writer plane m)
    (running : plane.stopped = false) (localPid : plane.localPid = writer)
    (allocated : memory.Allocated) (outcome : CreateOutcome) :
    WriterLive (segName writer topic) topic
      (plane.handleMatch memory m outcome).2
      (plane.handleMatch memory m outcome).1 := by
  have keep := KeepsName.refl (segName writer topic) memory
  rw [DataPlane.handleMatch_eq running]
  cases routed : plane.route m with
  | ignored =>
      exact live
  | tcpPub =>
      refine live.keeps keep fun pub found => ⟨pub, ?_, rfl⟩
      rwa [(plane.tcpPubMatch_shm m).1] at found
  | shmSub =>
      refine live.keeps keep fun pub found => ⟨pub, ?_, rfl⟩
      rwa [plane.shmSubMatch_writers m] at found
  | shmPub =>
      dsimp only
      cases plane.shmPubMatch_cases memory m outcome with
      | counted pub isPub writers _ unchanged =>
          rw [unchanged]
          exact live.counted isPub writers
      | created object _ made writers _ changed =>
          rw [localPid] at made writers changed
          rw [changed]
          intro pub found
          rw [writers] at found
          rcases getElem?_insert_eq_some.mp found with
            ⟨rfl, rfl⟩ | ⟨other, found⟩
          · obtain ⟨_, binds, ready, _⟩ := SharedMemory.create_some made
            exact ⟨_, object, rfl, binds, ready⟩
          · rcases own.publisher routed with ⟨_, same⟩ | different
            · exact absurd same other
            · exact
                live.keeps
                  (KeepsName.create allocated different kShmSlotCount
                    kShmSlotCapacity outcome)
                  (fun pub found => ⟨pub, found, rfl⟩) pub found
      | failed missing _ writers _ changed =>
          rw [localPid] at changed
          rw [changed]
          intro pub found
          rw [writers] at found
          rcases own.publisher routed with ⟨_, rfl⟩ | different
          · rw [missing] at found
            cases found
          · exact
              live.keeps
                (KeepsName.create allocated different kShmSlotCount
                  kShmSlotCapacity outcome)
                (fun pub found => ⟨pub, found, rfl⟩) pub found

/-- Every unmatch but the channel's own leaves its name alone; that one may
unlink it. -/
theorem handleUnmatch_memory
    (own : OwnSegment writer topic pid plane m)
    (running : plane.stopped = false) (localPid : plane.localPid = pid)
    (allocated : memory.Allocated) :
    let after := (plane.handleUnmatch memory m).2
    after.Allocated ∧
      (KeepsName (segName writer topic) memory after ∨
        pid = writer ∧ after.bound (segName writer topic) = none) := by
  rw [DataPlane.handleUnmatch_eq running]
  cases routed : plane.route m with
  | ignored =>
      exact ⟨allocated, Or.inl (KeepsName.refl _ memory)⟩
  | tcpPub =>
      exact ⟨allocated, Or.inl (KeepsName.refl _ memory)⟩
  | shmSub =>
      exact ⟨allocated, Or.inl (KeepsName.refl _ memory)⟩
  | shmPub =>
      dsimp only
      cases (plane.shmPubUnmatch_cases memory m).1 with
      | ignored _ unchanged =>
          rw [unchanged]
          exact ⟨allocated, Or.inl (KeepsName.refl _ memory)⟩
      | counted _ _ _ unchanged =>
          rw [unchanged]
          exact ⟨allocated, Or.inl (KeepsName.refl _ memory)⟩
      | dropped _ unlinked =>
          rw [unlinked, localPid]
          refine ⟨allocated.unlink _, ?_⟩
          rcases own.publisher routed with ⟨rfl, rfl⟩ | different
          · exact Or.inr
              ⟨rfl, by rw [SharedMemory.bound_unlink, if_pos rfl]⟩
          · exact Or.inl (KeepsName.unlink different)

theorem WriterLive.handleUnmatch
    (live : WriterLive (segName writer topic) topic memory plane)
    (own : OwnSegment writer topic writer plane m)
    (running : plane.stopped = false) (localPid : plane.localPid = writer) :
    WriterLive (segName writer topic) topic
      (plane.handleUnmatch memory m).2 (plane.handleUnmatch memory m).1 := by
  have keep := KeepsName.refl (segName writer topic) memory
  rw [DataPlane.handleUnmatch_eq running]
  cases routed : plane.route m with
  | ignored =>
      exact live
  | tcpPub =>
      refine live.keeps keep fun pub found => ⟨pub, ?_, rfl⟩
      rwa [(plane.tcpPubUnmatch_shm m).1] at found
  | shmSub =>
      refine live.keeps keep fun pub found => ⟨pub, ?_, rfl⟩
      rwa [plane.shmSubUnmatch_writers m] at found
  | shmPub =>
      dsimp only
      cases (plane.shmPubUnmatch_cases memory m).1 with
      | ignored writers unchanged =>
          rw [unchanged]
          refine live.keeps keep fun pub found => ⟨pub, ?_, rfl⟩
          rwa [writers] at found
      | counted pub isPub writers unchanged =>
          rw [unchanged]
          exact live.counted isPub writers
      | dropped writers unlinked =>
          rw [unlinked, localPid]
          intro pub found
          rw [writers] at found
          obtain ⟨other, found⟩ := getElem?_erase_eq_some.mp found
          rcases own.publisher routed with ⟨_, same⟩ | different
          · exact absurd same other
          · exact
              live.keeps (KeepsName.unlink different)
                (fun pub found => ⟨pub, found, rfl⟩) pub found

end Acting

/-! ## Publishing and polling -/

/-- Writing messages binds no names and keeps objects initialised. -/
theorem keepsName_writeSinks
    (bytes : Bytes) (sinks : List SinkHandle) (memory : SharedMemory)
    (name : Text) :
    let after := sinks.foldl (writeSink bytes) memory
    KeepsName name memory after ∧ (memory.Allocated → after.Allocated) := by
  induction sinks generalizing memory with
  | nil =>
      exact ⟨KeepsName.refl name memory, id⟩
  | cons sink later inductionHypothesis =>
      have first :
          KeepsName name memory (writeSink bytes memory sink) ∧
            (memory.Allocated → (writeSink bytes memory sink).Allocated) := by
        cases sink with
        | shm serial object segment =>
            refine ⟨⟨rfl, fun other _ ready => ?_⟩, id⟩
            simp only [writeSink, SharedMemory.store]
            by_cases same : other = object
            · rw [same, Function.update_self, magic_write, ← same]
              exact ready
            · rw [Function.update_of_ne same]
              exact ready
        | subscriber _ _ _ =>
            exact ⟨KeepsName.refl name memory, id⟩
        | remote _ _ _ =>
            exact ⟨KeepsName.refl name memory, id⟩
      obtain ⟨keeps, allocated⟩ :=
        inductionHypothesis (writeSink bytes memory sink)
      refine ⟨⟨keeps.bound.trans first.1.bound, ?_⟩,
        fun before => allocated (first.2 before)⟩
      intro object bound ready
      exact
        keeps.magic object (first.1.bound.trans bound)
          (first.1.magic object bound ready)

theorem ReaderLive.pollOnce
    {name : Text} {memory : SharedMemory} {plane : DataPlane}
    {readers : Std.TreeMap Text ReaderEntry}
    (live : ReaderLive name memory plane readers) :
    ReaderLive name memory (plane.pollOnce memory).1
      (readers.map fun _ (entry : ReaderEntry) => (entry.poll memory).1) := by
  obtain ⟨held, counts⟩ := plane.pollOnce_readers memory live.held
  refine ⟨held, fun counted => ?_, ?_, ?_⟩
  · rw [counts] at counted
    exact Std.TreeMap.mem_map.mpr (live.counted counted)
  · intro after found
    rw [Std.TreeMap.getElem?_map] at found
    obtain ⟨entry, before, rfl⟩ := Option.map_eq_some_iff.mp found
    rw [(entry.poll_frame memory).2]
    exact live.segment entry before
  · intro after object cursor bound found isOpen isBound
    rw [Std.TreeMap.getElem?_map] at found
    obtain ⟨entry, before, rfl⟩ := Option.map_eq_some_iff.mp found
    obtain ⟨mapped, mapping⟩ := entry.opened_poll isOpen
    rcases entry.mapping_cases mapping with already | ⟨opens, _⟩
    · exact live.opened entry object mapped bound before already isBound
    · rw [live.segment entry before, isBound] at opens
      exact Option.some.inj opens

/-! ## The network -/

section Channel

variable {writer reader : Nat} {topic : Text} {fabric target : Fabric}

/-- What an operation of a participant must show if it shares the host of the
channel. -/
theorem ChannelLive.apply
    (live : ChannelLive writer reader topic fabric)
    {pid : Nat} {after : DataPlane × SharedMemory}
    (same : DataPlane.SameIdentity (fabric.planes pid) after.1)
    (effect :
      (fabric.planes pid).localHostId = (fabric.planes writer).localHostId →
        after.2.Allocated ∧
          WriterLive (segName writer topic) topic after.2
            (if writer = pid then after.1 else fabric.planes writer) ∧
          ∃ readers,
            ReaderLive (segName writer topic) after.2
              (if reader = pid then after.1 else fabric.planes reader) readers) :
    ChannelLive writer reader topic (fabric.apply pid after) := by
  have hosts (other : Nat) :
      ((fabric.apply pid after).planes other).localHostId =
        (fabric.planes other).localHostId := by
    by_cases mine : other = pid
    · subst mine
      simp only [Fabric.apply, Function.update_self]
      exact same.localHostId
    · simp only [Fabric.apply, Function.update_of_ne mine]
  have ends :
      ((fabric.apply pid after).memoryOf writer).Allocated ∧
        WriterLive (segName writer topic) topic
          ((fabric.apply pid after).memoryOf writer)
          ((fabric.apply pid after).planes writer) ∧
        ∃ readers,
          ReaderLive (segName writer topic)
            ((fabric.apply pid after).memoryOf writer)
            ((fabric.apply pid after).planes reader) readers := by
    by_cases onHost :
      (fabric.planes pid).localHostId = (fabric.planes writer).localHostId
    · have memory : (fabric.apply pid after).memoryOf writer = after.2 := by
        rw [Fabric.memoryOf, hosts, ← onHost]
        exact Function.update_self ..
      rw [memory]
      simpa only [Fabric.apply, Function.update_apply] using effect onHost
    · -- The participant shares neither the memory nor an end of the channel.
      have notWriter : writer ≠ pid := by
        rintro rfl
        exact onHost rfl
      have notReader : reader ≠ pid := by
        rintro rfl
        exact onHost live.sameHost
      have memory :
          (fabric.apply pid after).memoryOf writer = fabric.memoryOf writer := by
        rw [Fabric.memoryOf, hosts]
        exact Function.update_of_ne (fun equal => onHost equal.symm) _ _
      rw [memory]
      simp only [Fabric.apply, Function.update_of_ne notWriter,
        Function.update_of_ne notReader]
      exact ⟨live.allocated, live.writes, live.reads⟩
  refine ⟨fun other => ?_, fun other => ?_, ?_, ends.1, ends.2.1, ends.2.2⟩
  · by_cases mine : other = pid
    · subst mine
      simp only [Fabric.apply, Function.update_self]
      exact same.stopped.trans (live.running other)
    · simp only [Fabric.apply, Function.update_of_ne mine]
      exact live.running other
  · by_cases mine : other = pid
    · subst mine
      simp only [Fabric.apply, Function.update_self]
      exact same.localPid.trans (live.localPid other)
    · simp only [Fabric.apply, Function.update_of_ne mine]
      exact live.localPid other
  · rw [hosts, hosts]
    exact live.sameHost

theorem ChannelLive.setPlane
    (live : ChannelLive writer reader topic fabric)
    {pid : Nat} {plane : DataPlane}
    (same : DataPlane.SameIdentity (fabric.planes pid) plane)
    (writers : plane.shmPub = (fabric.planes pid).shmPub)
    (reads :
      ∀ readers,
        ReaderLive (segName writer topic) (fabric.memoryOf pid)
            (fabric.planes pid) readers →
          ∃ after,
            ReaderLive (segName writer topic) (fabric.memoryOf pid) plane
              after) :
    ChannelLive writer reader topic (fabric.setPlane pid plane) := by
  rw [Fabric.setPlane_eq_apply]
  refine live.apply same fun onHost => ?_
  rw [Fabric.memoryOf_eq onHost] at reads ⊢
  refine ⟨live.allocated, ?_, ?_⟩
  · by_cases mine : writer = pid
    · subst mine
      rw [if_pos rfl]
      refine live.writes.keeps (KeepsName.refl _ _) fun pub found => ?_
      exact ⟨pub, writers ▸ found, rfl⟩
    · rw [if_neg mine]
      exact live.writes
  · obtain ⟨readers, isLive⟩ := live.reads
    by_cases mine : reader = pid
    · subst mine
      rw [if_pos rfl]
      exact reads readers isLive
    · rw [if_neg mine]
      exact ⟨readers, isLive⟩

theorem ChannelLive.congr
    (live : ChannelLive writer reader topic fabric)
    (planes : target.planes = fabric.planes)
    (memory : target.memory = fabric.memory) :
    ChannelLive writer reader topic target := by
  obtain ⟨_, endpoints, _, wire⟩ := target
  cases planes
  cases memory
  exact ⟨live.running, live.localPid, live.sameHost, live.allocated,
    live.writes, live.reads⟩

theorem ChannelLive.setBus
    (live : ChannelLive writer reader topic fabric) (pid : Nat)
    (bus : LocalBus SinkHandle) (serial : Nat) :
    ChannelLive writer reader topic
      (fabric.setPlane pid
        { fabric.planes pid with bus := bus, nextSerial := serial }) :=
  live.setPlane ⟨rfl, rfl, rfl, rfl⟩ rfl fun readers isLive =>
    ⟨readers, isLive.congr id rfl⟩

theorem opened_of_not_readerOpen
    {name : Text} {memory : SharedMemory}
    {readers : Std.TreeMap Text ReaderEntry}
    (closed : readerOpen fabric reader name = false)
    (live : ReaderLive name memory (fabric.planes reader) readers)
    {entry : ReaderEntry} (found : readers[name]? = some entry) :
    entry.opened = none := by
  simpa [readerOpen, live.held, found] using closed

theorem ChannelLive.handleMatch
    (live : ChannelLive writer reader topic fabric)
    {pid : Nat} {m : MatchInfo} {outcome : CreateOutcome}
    (undisturbed :
      Undisturbed writer reader topic fabric (.handleMatch pid m outcome)) :
    ChannelLive writer reader topic
      (fabric.apply pid
        ((fabric.planes pid).handleMatch (fabric.memoryOf pid) m outcome)) := by
  have running := live.running pid
  have localPid := live.localPid pid
  have own : OwnSegment writer topic pid (fabric.planes pid) m := by
    simpa [ownSegment, OwnSegment, imp_iff_not_or] using undisturbed.1
  refine
    live.apply (DataPlane.sameIdentity_handleMatch running _ m outcome)
      fun onHost => ?_
  rw [Fabric.memoryOf_eq onHost]
  obtain ⟨allocated, effect⟩ :=
    handleMatch_memory own running localPid live.allocated outcome
  refine ⟨allocated, ?_, ?_⟩
  · by_cases mine : writer = pid
    · subst mine
      rw [if_pos rfl]
      exact
        live.writes.handleMatch own running localPid live.allocated outcome
    · rw [if_neg mine]
      rcases effect with keeps | ⟨same, _⟩
      · exact live.writes.keeps keeps fun pub found => ⟨pub, found, rfl⟩
      · exact absurd same.symm mine
  · obtain ⟨readers, isLive⟩ := live.reads
    have rebound :
        ReaderLive (segName writer topic)
          ((fabric.planes pid).handleMatch (fabric.memoryOf writer) m outcome).2
          (fabric.planes reader) readers := by
      refine isLive.rebind fun bound isBound => ?_
      rcases effect with keeps | ⟨same, routed, sameTopic, binds⟩
      · exact Or.inl (keeps.bound ▸ isBound)
      · rcases binds bound isBound with before | ⟨created, noWriter, unbound⟩
        · exact Or.inl before
        · subst same
          right
          intro entry found
          refine opened_of_not_readerOpen ?_ isLive found
          simpa [recreatesOpen, routed, sameTopic, created, noWriter, unbound]
            using undisturbed.2
    by_cases mine : reader = pid
    · subst mine
      rw [if_pos rfl]
      exact rebound.handleMatch running _ m outcome
    · rw [if_neg mine]
      exact ⟨readers, rebound⟩

theorem ChannelLive.handleUnmatch
    (live : ChannelLive writer reader topic fabric)
    {pid : Nat} {m : MatchInfo}
    (undisturbed :
      Undisturbed writer reader topic fabric (.handleUnmatch pid m)) :
    ChannelLive writer reader topic
      (fabric.apply pid
        ((fabric.planes pid).handleUnmatch (fabric.memoryOf pid) m)) := by
  have running := live.running pid
  have localPid := live.localPid pid
  have own : OwnSegment writer topic pid (fabric.planes pid) m := by
    simpa [ownSegment, OwnSegment, imp_iff_not_or] using undisturbed.1
  refine
    live.apply (DataPlane.sameIdentity_handleUnmatch running _ m)
      fun onHost => ?_
  rw [Fabric.memoryOf_eq onHost]
  obtain ⟨allocated, effect⟩ :=
    handleUnmatch_memory own running localPid live.allocated
  refine ⟨allocated, ?_, ?_⟩
  · by_cases mine : writer = pid
    · subst mine
      rw [if_pos rfl]
      exact live.writes.handleUnmatch own running localPid
    · rw [if_neg mine]
      rcases effect with keeps | ⟨same, _⟩
      · exact live.writes.keeps keeps fun pub found => ⟨pub, found, rfl⟩
      · exact absurd same.symm mine
  · obtain ⟨readers, isLive⟩ := live.reads
    have rebound :
        ReaderLive (segName writer topic)
          ((fabric.planes pid).handleUnmatch (fabric.memoryOf writer) m).2
          (fabric.planes reader) readers := by
      refine isLive.rebind fun bound isBound => ?_
      rcases effect with keeps | ⟨_, unbound⟩
      · exact Or.inl (keeps.bound ▸ isBound)
      · rw [unbound] at isBound
        cases isBound
    by_cases mine : reader = pid
    · subst mine
      rw [if_pos rfl]
      exact rebound.handleUnmatch running _ m
    · rw [if_neg mine]
      exact ⟨readers, rebound⟩

theorem ChannelLive.publish
    (live : ChannelLive writer reader topic fabric) (pid : Nat)
    (published typeName : Text) (bytes : Bytes) :
    let sent :=
      (fabric.planes pid).bus.publish (fabric.planes pid).alive published
        typeName
    ChannelLive writer reader topic
      (fabric.apply pid
        ({ fabric.planes pid with bus := sent.1 },
          sent.2.foldl (writeSink bytes) (fabric.memoryOf pid))) := by
  intro sent
  refine live.apply ⟨rfl, rfl, rfl, rfl⟩ fun onHost => ?_
  rw [Fabric.memoryOf_eq onHost]
  obtain ⟨keeps, allocated⟩ :=
    keepsName_writeSinks bytes sent.2 (fabric.memoryOf writer)
      (segName writer topic)
  refine ⟨allocated live.allocated, ?_, ?_⟩
  · refine live.writes.keeps keeps fun pub found => ⟨pub, ?_, rfl⟩
    by_cases mine : writer = pid
    · subst mine
      rwa [if_pos rfl] at found
    · rwa [if_neg mine] at found
  · obtain ⟨readers, isLive⟩ := live.reads
    have rebound :=
      isLive.rebind fun bound isBound => Or.inl (keeps.bound ▸ isBound)
    refine ⟨readers, ?_⟩
    by_cases mine : reader = pid
    · subst mine
      rw [if_pos rfl]
      exact rebound.congr id rfl
    · rw [if_neg mine]
      exact rebound

theorem ChannelLive.step
    {input : FabricInput} {emitted : List FabricEvent}
    (live : ChannelLive writer reader topic fabric)
    (undisturbed : Undisturbed writer reader topic fabric input)
    (stepped : fabric.step input = some (target, emitted)) :
    ChannelLive writer reader topic target := by
  cases input with
  | createPublisher pid topic typeName _ =>
      cases stepped
      exact
        (live.setBus pid
          ((fabric.planes pid).bus.registerPublisher topic typeName)
          (fabric.planes pid).nextSerial).congr rfl rfl
  | createSubscriber pid topic typeName _ =>
      cases stepped
      exact
        (live.setBus pid
          ((fabric.planes pid).bus.subscribe topic typeName
            (.subscriber (fabric.planes pid).nextSerial topic typeName))
          ((fabric.planes pid).nextSerial + 1)).congr rfl rfl
  | handleMatch pid m outcome =>
      cases stepped
      exact live.handleMatch undisturbed
  | handleUnmatch pid m =>
      cases stepped
      exact live.handleUnmatch undisturbed
  | publish pid published typeName bytes =>
      cases stepped
      exact (live.publish pid published typeName bytes).congr rfl rfl
  | poll pid =>
      cases stepped
      exact
        live.setPlane (DataPlane.pollOnce_frame _ _).1
          (DataPlane.pollOnce_frame _ _).2
          fun readers isLive => ⟨_, isLive.pollOnce⟩
  | arrive index =>
      obtain ⟨frame, _, rfl, rfl⟩ := Fabric.arrive_eq_some stepped
      exact
        (live.setBus frame.peer
          ((fabric.planes frame.peer).bus.deliverInbound
            (fabric.planes frame.peer).alive frame.topic).1
          (fabric.planes frame.peer).nextSerial).congr rfl rfl

/-- A poll of a counted reader opens the object of a live writer. -/
theorem ChannelLive.poll
    (live : ChannelLive writer reader topic fabric) {pub : ShmPub}
    (writes : (fabric.planes writer).shmPub[topic]? = some pub)
    (counted : segName writer topic ∈ (fabric.planes reader).shmSubRef) :
    ∃ serial object readers entry cursor,
      pub.sink = .shm serial object (segName writer topic) ∧
        ((fabric.poll reader).1.planes reader).shmReaders = some readers ∧
        readers[segName writer topic]? = some entry ∧
        entry.opened = some (object, cursor) := by
  have memory : fabric.memoryOf reader = fabric.memoryOf writer :=
    Fabric.memoryOf_eq live.sameHost
  obtain ⟨serial, object, sink, bound, ready⟩ := live.writes pub writes
  obtain ⟨readers, isLive⟩ := live.reads
  obtain ⟨entry, found⟩ :=
    Option.isSome_iff_exists.mp
      (Std.TreeMap.mem_iff_isSome_getElem?.mp (isLive.counted counted))
  have held :=
    ((fabric.planes reader).pollOnce_readers (fabric.memoryOf reader)
      isLive.held).1
  have opens :
      ∃ cursor,
        (entry.poll (fabric.memoryOf writer)).1.opened = some (object, cursor) := by
    cases isOpen : entry.opened with
    | some mapping =>
        obtain ⟨other, cursor⟩ := mapping
        have same := isLive.opened entry other cursor object found isOpen bound
        subst same
        simp [ReaderEntry.poll, ReaderEntry.mapping, isOpen]
    | none =>
        simp [ReaderEntry.poll, ReaderEntry.mapping, isOpen,
          SharedMemory.openSegment, isLive.segment entry found, bound,
          ShmRing.attach, ready]
  obtain ⟨cursor, isOpen⟩ := opens
  rw [memory] at held
  refine ⟨serial, object,
    readers.map fun _ (other : ReaderEntry) =>
      (other.poll (fabric.memoryOf writer)).1,
    (entry.poll (fabric.memoryOf writer)).1, cursor, sink, ?_, ?_, isOpen⟩
  · simp only [Fabric.poll, Fabric.setPlane, Function.update_self, memory]
    exact held
  · rw [Std.TreeMap.getElem?_map, found]
    rfl

end Channel

theorem ChannelLive.started
    {writer reader : Nat} (topic : Text) {hosts : Nat → Text} (shm : Nat → Bool)
    (sameHost : hosts reader = hosts writer) :
    ChannelLive writer reader topic (Fabric.started hosts shm) where
  running _ := rfl
  localPid _ := rfl
  sameHost := sameHost
  allocated := by
    intro name object found
    simp [Fabric.memoryOf, Fabric.started] at found
  writes := by
    intro pub found
    simp [Fabric.started, DataPlane.started] at found
  reads :=
    ⟨∅, rfl, fun counted => by
        simp [Fabric.started, DataPlane.started] at counted,
      fun entry found => by simp at found,
      fun entry object cursor bound found => by simp at found⟩

/-- The ends of a channel on one host are live after every undisturbed run. -/
theorem channelLive_of_run
    {writer reader : Nat} {topic : Text} {inputs : List FabricInput}
    {fabric : Fabric} {events : List FabricEvent}
    (run :
      fabricMachine.Run (Undisturbed writer reader topic) inputs fabric events) :
    (∀ pid, (fabric.planes pid).stopped = false) ∧
      ((fabric.planes reader).localHostId =
          (fabric.planes writer).localHostId →
        ChannelLive writer reader topic fabric) := by
  refine
    run.invariant
      (fun fabric _ =>
        (∀ pid, (fabric.planes pid).stopped = false) ∧
          ((fabric.planes reader).localHostId =
              (fabric.planes writer).localHostId →
            ChannelLive writer reader topic fabric)) ?_ ?_
  · rintro fabric ⟨hosts, shm, rfl⟩
    exact ⟨fun _ => rfl, ChannelLive.started topic shm⟩
  · rintro fabric _ input target emitted ⟨running, live⟩ undisturbed stepped
    have same := Fabric.sameIdentities_step running stepped
    refine ⟨fun pid => (same pid).stopped.trans (running pid), fun sameHost => ?_⟩
    rw [(same reader).localHostId, (same writer).localHostId] at sameHost
    exact (live sameHost).step undisturbed stepped

/-- In every run in which nothing else uses the segment's name and no fresh
segment is created while the reader has the old one open, right after a poll
of the subscriber: if the publisher has a writer for the topic and the
subscriber counts a reader for it, then the object that the reader's entry has
open is the one that the publisher's sink writes. -/
theorem reader_follows_writer
    {writer reader : Nat} {topic : Text} {inputs : List FabricInput}
    {fabric : Fabric} {events : List FabricEvent}
    (run :
      fabricMachine.Run (Undisturbed writer reader topic)
        (inputs ++ [.poll reader]) fabric events)
    (sameHost :
      (fabric.planes reader).localHostId = (fabric.planes writer).localHostId)
    {pub : ShmPub}
    (writes : (fabric.planes writer).shmPub[topic]? = some pub)
    (counted : segName writer topic ∈ (fabric.planes reader).shmSubRef) :
    ∃ serial object readers entry cursor,
      pub.sink = .shm serial object (segName writer topic) ∧
        (fabric.planes reader).shmReaders = some readers ∧
        readers[segName writer topic]? = some entry ∧
        entry.opened = some (object, cursor) := by
  obtain ⟨before, _, emitted, earlier, _, stepped, _⟩ := run.last
  change before.step (.poll reader) = some (fabric, emitted) at stepped
  obtain ⟨running, live⟩ := channelLive_of_run earlier
  have same := Fabric.sameIdentities_step running stepped
  rw [(same reader).localHostId, (same writer).localHostId] at sameHost
  have after : (before.poll reader).1 = fabric :=
    congrArg Prod.fst (Option.some.inj stepped)
  subst after
  have isLive := live sameHost
  obtain ⟨readers, reads⟩ := isLive.reads
  have writers :
      ((before.poll reader).1.planes writer).shmPub =
        (before.planes writer).shmPub := by
    simp only [Fabric.poll, Fabric.setPlane]
    by_cases mine : writer = reader
    · subst mine
      rw [Function.update_self]
      exact (DataPlane.pollOnce_frame _ _).2
    · rw [Function.update_of_ne mine]
  have counts :
      ((before.poll reader).1.planes reader).shmSubRef =
        (before.planes reader).shmSubRef := by
    simp only [Fabric.poll, Fabric.setPlane, Function.update_self]
    exact (DataPlane.pollOnce_readers _ _ reads.held).2
  rw [writers] at writes
  rw [counts] at counted
  exact isLive.poll writes counted

/-! ## A publisher that comes back -/

/-- Both ends match, and the reader opens the segment. -/
def meetOnTopic : List FabricInput :=
  [.handleMatch 1 (publisherMatch ['t'] ['T']) .created,
    .handleMatch 2 (subscriberMatch ['t'] ['T']) .created, .poll 2]

/-- The objects of the writer at participant 1 and of the reader at
participant 2. -/
def segmentsOf (fabric : Fabric) : Option Nat × Option Nat :=
  (match (fabric.planes 1).shmPub[(['t'] : Text)]? with
    | some ⟨.shm _ object _, _⟩ => some object
    | _ => none,
   match (fabric.planes 2).shmReaders with
    | some readers =>
        match readers[segName 1 ['t']]? with
        | some entry => entry.opened.map Prod.fst
        | none => none
    | none => none)

/-- Both ends match once. -/
theorem reader_follows_writer_once :
    ∃ fabric events pub,
      fabricMachine.Run (Undisturbed 1 2 ['t'])
          (meetOnTopic ++ [.poll 2]) fabric events ∧
        (fabric.planes 1).shmPub[(['t'] : Text)]? = some pub ∧
        ∃ serial object readers entry cursor,
          pub.sink = .shm serial object (segName 1 ['t']) ∧
            (fabric.planes 2).shmReaders = some readers ∧
            readers[segName 1 ['t']]? = some entry ∧
            entry.opened = some (object, cursor) := by
  obtain ⟨fabric, events, run, checked⟩ :=
    Machine.run_of_exec_check fabricMachine (Undisturbed 1 2 ['t'])
      (meetOnTopic ++ [.poll 2]) oneHostFabric
      (fun fabric _ =>
        (fabric.planes 2).localHostId = (fabric.planes 1).localHostId ∧
          (fabric.planes 1).shmPub[(['t'] : Text)]? =
            some ⟨.shm 0 0 (segName 1 ['t']), 1⟩ ∧
          segName 1 ['t'] ∈ (fabric.planes 2).shmSubRef)
      ⟨_, _, rfl⟩ (by decide +kernel)
  simp only [decide_eq_true_eq] at checked
  obtain ⟨sameHost, writes, counted⟩ := checked
  exact ⟨fabric, events, _, run, writes,
    reader_follows_writer run sameHost writes counted⟩

/-- The publisher unmatches and matches again while the subscriber's match
stays: the reader keeps the old object, and the writer writes a new one. -/
theorem reader_keeps_old_segment :
    ¬ ∀ (inputs : List FabricInput) (fabric : Fabric)
        (events : List FabricEvent) (pub : ShmPub),
        fabricMachine.Run Machine.free (inputs ++ [.poll 2]) fabric events →
        (fabric.planes 2).localHostId = (fabric.planes 1).localHostId →
        (fabric.planes 1).shmPub[(['t'] : Text)]? = some pub →
        segName 1 ['t'] ∈ (fabric.planes 2).shmSubRef →
        ∃ serial object readers entry cursor,
          pub.sink = .shm serial object (segName 1 ['t']) ∧
            (fabric.planes 2).shmReaders = some readers ∧
            readers[segName 1 ['t']]? = some entry ∧
            entry.opened = some (object, cursor) := by
  intro claimed
  obtain ⟨fabric, events, run, checked⟩ :=
    Machine.run_of_exec_check fabricMachine Machine.free
      (meetOnTopic ++
          [.handleUnmatch 1 (publisherMatch ['t'] ['T']),
            .handleMatch 1 (publisherMatch ['t'] ['T']) .created] ++
        [.poll 2])
      oneHostFabric
      (fun fabric _ =>
        (fabric.planes 2).localHostId = (fabric.planes 1).localHostId ∧
          (fabric.planes 1).shmPub[(['t'] : Text)]? =
            some ⟨.shm 1 1 (segName 1 ['t']), 1⟩ ∧
          segName 1 ['t'] ∈ (fabric.planes 2).shmSubRef ∧
          segmentsOf fabric = (some 1, some 0))
      ⟨_, _, rfl⟩ (by decide +kernel)
  simp only [decide_eq_true_eq] at checked
  obtain ⟨sameHost, writes, counted, segments⟩ := checked
  obtain ⟨serial, object, readers, entry, cursor, sink, held, found, isOpen⟩ :=
    claimed _ fabric events _ run sameHost writes counted
  cases sink
  simp [segmentsOf, held, found, isOpen] at segments

end MiniMiddleware.Core
