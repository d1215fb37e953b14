import MiniMiddleware.Core.LocalBus
import MiniMiddleware.Discovery.EndpointMatcher
import MiniMiddleware.Transport.ShmSegment

/-!
# The data plane

`DataPlane` turns matches into channels.  A publisher's match with a
subscriber on the same host that asks for best effort becomes a shared-memory
writer, shared by all such subscribers of the topic; every other publisher's
match becomes a TCP remote sink.  On the subscriber's side a same-host,
best-effort match registers a shared-memory reader, and otherwise nothing
happens.

All operations run under one mutex and are single steps.  They pass the
shared memory of the host along, since writers create and unlink segments.
-/

namespace MiniMiddleware.Core

open MiniMiddleware.Discovery MiniMiddleware.Transport

/-- `kShmSlotCount`. -/
def kShmSlotCount : Nat := 32

/-- `kShmSlotCapacity`. -/
def kShmSlotCapacity : Nat := 256 * 1024

/-- The sinks on a bus.  A `RemoteSink` sends to the data server of a peer; a
`ShmSink` owns the segment of a name and writes to its object.  The serial
numbers stand for object identity. -/
inductive SinkHandle where
  | subscriber (serial : Nat) (topic typeName : Text)
  | remote (serial : Nat) (topic : Text) (peer : Nat)
  | shm (serial object : Nat) (name : Text)
  deriving DecidableEq, Repr

/-- `DataPlane::ShmPub`. -/
structure ShmPub where
  sink : SinkHandle
  ref : Int
  deriving DecidableEq, Repr

/-- `ShmReaderManager::Entry`; the segment is open once `opened` holds its
object and the reader on it. -/
structure ReaderEntry where
  topic : Text
  segName : Text
  opened : Option (Nat × ShmRingReader) := none
  deriving DecidableEq, Repr

/-- The members of `DataPlane`.  `shmReaders` is `none` before `start` and
after `stop`. -/
structure DataPlane where
  localPid : Nat
  localHostId : Text
  shmEnabled : Bool := true
  bus : LocalBus SinkHandle := .empty
  connections : Std.TreeMap Nat Locator := ∅
  sinks : Std.TreeMap Text SinkHandle := ∅
  refcount : Std.TreeMap Nat Int := ∅
  shmPub : Std.TreeMap Text ShmPub := ∅
  shmSubRef : Std.TreeMap Text Int := ∅
  shmReaders : Option (Std.TreeMap Text ReaderEntry) := none
  stopped : Bool := false
  nextSerial : Nat := 0

/-- The character that stands for `char` in a segment name. -/
def segChar (char : Char) : Char :=
  if char = '/' ∨ char = '.' ∨ char = ' ' then '_' else char

/-- `seg_name`. -/
def segName (writerPid : Nat) (topic : Text) : Text :=
  "/mm.".toList ++ decimal writerPid ++ '.' :: topic.map segChar

/-! ## Keys -/

/-- `match_key` of the data plane, a copy of that of the agent. -/
def dataPlaneMatchKey (m : MatchInfo) : Text :=
  signedDecimal m.localEndpoint.kind.value ++ ':' :: m.localEndpoint.topic ++
    '|' :: decimal m.remoteParticipantId ++
    '|' :: signedDecimal m.remoteEndpoint.kind.value ++
    ':' :: m.remoteEndpoint.topic

/-- A match that some call of `match_endpoints` yields. -/
def Produced (m : MatchInfo) : Prop :=
  ∃ localEndpoints remoteId remoteLocator remoteEndpoints remoteHostId,
    m ∈ matchEndpoints localEndpoints remoteId remoteLocator remoteEndpoints
      remoteHostId

/-- Keys tell matches apart by the kinds, the topic and the participant, and
the agent and the data plane agree on them. -/
theorem matchKeys_separate :
    (∀ first second : MatchInfo, Produced first → Produced second →
      (matchKey first = matchKey second ↔
        first.localEndpoint.kind = second.localEndpoint.kind ∧
          first.remoteEndpoint.kind = second.remoteEndpoint.kind ∧
          first.localEndpoint.topic = second.localEndpoint.topic ∧
          first.remoteParticipantId = second.remoteParticipantId)) ∧
      ∀ m : MatchInfo, dataPlaneMatchKey m = matchKey m := by
  constructor
  · rintro first second ⟨_, _, _, _, _, one⟩ ⟨_, _, _, _, _, other⟩
    exact
      matchKey_eq_iff (mem_matchEndpoints.mp one).2.2.1
        (mem_matchEndpoints.mp other).2.2.1
  · intro m
    rfl

/-- The match of a publisher with a subscriber of the same type. -/
def sinkMatch (topic typeName : Text) (remoteId : Nat) : MatchInfo where
  localEndpoint := { kind := .publisher, topic, typeName }
  remoteEndpoint := { kind := .subscriber, topic, typeName }
  remoteLocator := ⟨[], 0⟩
  remoteParticipantId := remoteId
  remoteHostId := []

theorem produced_sinkMatch (topic typeName : Text) (remoteId : Nat) :
    Produced (sinkMatch topic typeName remoteId) := by
  refine ⟨[{ kind := .publisher, topic, typeName }], remoteId, ⟨[], 0⟩,
    [{ kind := .subscriber, topic, typeName }], [], ?_⟩
  rw [mem_matchEndpoints]
  simp [sinkMatch, pairMatches, pubsubPair, rpcPair, writerOf, readerOf,
    relOf, compatible]

/-- A topic that looks like the end of a key. -/
theorem matchKeys_separate_bar :
    matchKey (sinkMatch ['a'] ['t'] 1) ≠
      matchKey (sinkMatch ['a', '|', '1', '|', '1', ':', 'a'] ['t'] 1) := by
  intro equal
  have same :=
    (matchKeys_separate.1 _ _ (produced_sinkMatch ['a'] ['t'] 1)
      (produced_sinkMatch ['a', '|', '1', '|', '1', ':', 'a'] ['t'] 1)).mp
      equal
  exact absurd same.2.2.1 (by decide)

/-! ## Channels -/

namespace DataPlane

/-- The data plane of a node right after `start` and `set_local_identity`. -/
def started (pid : Nat) (hostId : Text) (enableShm : Bool) : DataPlane where
  localPid := pid
  localHostId := hostId
  shmEnabled := enableShm
  shmReaders := some ∅

/-- `same_host`. -/
def sameHost (plane : DataPlane) (m : MatchInfo) : Bool :=
  plane.shmEnabled && plane.localHostId ≠ [] &&
    m.remoteHostId = plane.localHostId

/-- `use_shm`: same host, and the subscriber asks for best effort. -/
def useShm (plane : DataPlane) (m : MatchInfo) : Bool :=
  if !plane.sameHost m then
    false
  else
    let reader :=
      if m.localEndpoint.kind = .subscriber then m.localEndpoint
      else m.remoteEndpoint
    reader.reliability = 0

/-- Whether a sink is still owned by somebody: a subscriber by its node, the
others by the tables of the data plane. -/
def alive (plane : DataPlane) : SinkHandle → Bool
  | .subscriber _ _ _ => true
  | handle =>
      plane.sinks.toList.any (fun entry => entry.2 = handle) ||
        plane.shmPub.toList.any fun entry => entry.2.sink = handle

/-! ## TCP -/

/-- `connection_for`. -/
def connectionFor (plane : DataPlane) (pid : Nat) (locator : Locator) :
    DataPlane :=
  match plane.connections[pid]? with
  | some _ => plane
  | none =>
      { plane with connections := plane.connections.insert pid locator }

/-- `tcp_pub_match`. -/
def tcpPubMatch (plane : DataPlane) (m : MatchInfo) : DataPlane :=
  let key := matchKey m
  if key ∈ plane.sinks then
    plane
  else
    let connected := plane.connectionFor m.remoteParticipantId m.remoteLocator
    let topic := m.localEndpoint.topic
    let sink := SinkHandle.remote plane.nextSerial topic m.remoteParticipantId
    { connected with
      bus := connected.bus.addRemoteSink topic sink
      sinks := connected.sinks.insert key sink
      refcount :=
        connected.refcount.insert m.remoteParticipantId
          (connected.refcount.getD m.remoteParticipantId 0 + 1)
      nextSerial := plane.nextSerial + 1 }

/-- `tcp_pub_unmatch`: the last sink of a peer closes its connection. -/
def tcpPubUnmatch (plane : DataPlane) (m : MatchInfo) : DataPlane :=
  let key := matchKey m
  match plane.sinks[key]? with
  | none => plane
  | some sink =>
      let pid := m.remoteParticipantId
      let count := plane.refcount.getD pid 0 - 1
      let removed :=
        { plane with
          bus :=
            plane.bus.removeRemoteSink plane.alive m.localEndpoint.topic sink
          sinks := plane.sinks.erase key
          refcount := plane.refcount.insert pid count }
      if count ≤ 0 then
        { removed with
          refcount := removed.refcount.erase pid
          connections := removed.connections.erase pid }
      else
        removed

/-! ## Shared memory -/

/-- `shm_pub_match`.  The segment is only created for the first match of a
topic; if that fails, nothing is registered. -/
def shmPubMatch (plane : DataPlane) (memory : SharedMemory) (m : MatchInfo)
    (outcome : CreateOutcome) : DataPlane × SharedMemory :=
  let topic := m.localEndpoint.topic
  match plane.shmPub[topic]? with
  | some pub =>
      ({ plane with
          shmPub := plane.shmPub.insert topic { pub with ref := pub.ref + 1 } },
        memory)
  | none =>
      let name := segName plane.localPid topic
      match memory.create name kShmSlotCount kShmSlotCapacity outcome with
      | (changed, none) => (plane, changed)
      | (changed, some object) =>
          let sink := SinkHandle.shm plane.nextSerial object name
          ({ plane with
              bus := plane.bus.addRemoteSink topic sink
              shmPub := plane.shmPub.insert topic ⟨sink, 1⟩
              nextSerial := plane.nextSerial + 1 },
            changed)

/-- `shm_pub_unmatch`: the last match of a topic destroys the sink, which
unlinks its segment. -/
def shmPubUnmatch (plane : DataPlane) (memory : SharedMemory) (m : MatchInfo) :
    DataPlane × SharedMemory :=
  let topic := m.localEndpoint.topic
  match plane.shmPub[topic]? with
  | none => (plane, memory)
  | some pub =>
      let ref := pub.ref - 1
      if 0 < ref then
        ({ plane with
            shmPub := plane.shmPub.insert topic { pub with ref := ref } },
          memory)
      else
        ({ plane with
            bus := plane.bus.removeRemoteSink plane.alive topic pub.sink
            shmPub := plane.shmPub.erase topic },
          memory.unlink (segName plane.localPid topic))

/-- `ShmReaderManager::add_reader`. -/
def addReader (readers : Std.TreeMap Text ReaderEntry)
    (key topic name : Text) : Std.TreeMap Text ReaderEntry :=
  if key ∈ readers then
    readers
  else
    readers.insert key { topic := topic, segName := name }

/-- `shm_sub_match`.  The source dereferences `shm_readers_` here, which is
null before `start` and after `stop`. -/
def shmSubMatch (plane : DataPlane) (m : MatchInfo) : DataPlane :=
  let topic := m.localEndpoint.topic
  let name := segName m.remoteParticipantId topic
  match plane.shmSubRef[name]? with
  | some ref =>
      { plane with shmSubRef := plane.shmSubRef.insert name (ref + 1) }
  | none =>
      { plane with
        shmReaders :=
          plane.shmReaders.map fun readers => addReader readers name topic name
        shmSubRef := plane.shmSubRef.insert name 1 }

/-- `shm_sub_unmatch`. -/
def shmSubUnmatch (plane : DataPlane) (m : MatchInfo) : DataPlane :=
  let name := segName m.remoteParticipantId m.localEndpoint.topic
  match plane.shmSubRef[name]? with
  | none => plane
  | some ref =>
      let count := ref - 1
      if 0 < count then
        { plane with shmSubRef := plane.shmSubRef.insert name count }
      else
        { plane with
          shmReaders := plane.shmReaders.map fun readers => readers.erase name
          shmSubRef := plane.shmSubRef.erase name }

/-! ## Routing -/

/-- `handle_match`. -/
def handleMatch (plane : DataPlane) (memory : SharedMemory) (m : MatchInfo)
    (outcome : CreateOutcome) : DataPlane × SharedMemory :=
  if plane.stopped then
    (plane, memory)
  else if !pubsubPair m.localEndpoint m.remoteEndpoint then
    (plane, memory)
  else if m.localEndpoint.kind = .publisher then
    if plane.useShm m then
      plane.shmPubMatch memory m outcome
    else
      (plane.tcpPubMatch m, memory)
  else if plane.useShm m then
    (plane.shmSubMatch m, memory)
  else
    (plane, memory)

/-- `handle_unmatch`. -/
def handleUnmatch (plane : DataPlane) (memory : SharedMemory) (m : MatchInfo) :
    DataPlane × SharedMemory :=
  if plane.stopped then
    (plane, memory)
  else if !pubsubPair m.localEndpoint m.remoteEndpoint then
    (plane, memory)
  else if m.localEndpoint.kind = .publisher then
    if plane.useShm m then
      plane.shmPubUnmatch memory m
    else
      (plane.tcpPubUnmatch m, memory)
  else if plane.useShm m then
    (plane.shmSubUnmatch m, memory)
  else
    (plane, memory)

/-! ## What an operation leaves alone -/

/-- The members that only `start`, `stop` and `set_local_identity` change. -/
structure SameIdentity (plane other : DataPlane) : Prop where
  localPid : other.localPid = plane.localPid
  localHostId : other.localHostId = plane.localHostId
  shmEnabled : other.shmEnabled = plane.shmEnabled
  stopped : other.stopped = plane.stopped

theorem SameIdentity.refl (plane : DataPlane) : SameIdentity plane plane :=
  ⟨rfl, rfl, rfl, rfl⟩

theorem SameIdentity.trans
    {first second third : DataPlane}
    (left : SameIdentity first second) (right : SameIdentity second third) :
    SameIdentity first third :=
  ⟨right.localPid.trans left.localPid,
    right.localHostId.trans left.localHostId,
    right.shmEnabled.trans left.shmEnabled, right.stopped.trans left.stopped⟩

/-- Routing only depends on the identity. -/
theorem SameIdentity.useShm
    {plane other : DataPlane} (same : SameIdentity plane other)
    (m : MatchInfo) : other.useShm m = plane.useShm m := by
  simp [DataPlane.useShm, sameHost, same.localHostId, same.shmEnabled]

/-- What becomes of a match: nothing, a TCP sink, a shared-memory writer or a
shared-memory reader. -/
inductive Route where
  | ignored
  | tcpPub
  | shmPub
  | shmSub
  deriving DecidableEq, Repr

/-- The branch that `handle_match` and `handle_unmatch` take. -/
def route (plane : DataPlane) (m : MatchInfo) : Route :=
  if !pubsubPair m.localEndpoint m.remoteEndpoint then
    .ignored
  else if m.localEndpoint.kind = .publisher then
    if plane.useShm m then .shmPub else .tcpPub
  else if plane.useShm m then
    .shmSub
  else
    .ignored

theorem SameIdentity.route
    {plane other : DataPlane} (same : SameIdentity plane other)
    (m : MatchInfo) : other.route m = plane.route m := by
  simp only [DataPlane.route, same.useShm m]

theorem kind_of_route
    {plane : DataPlane} {m : MatchInfo} :
    (plane.route m = .shmPub ∨ plane.route m = .tcpPub →
        m.localEndpoint.kind = .publisher) ∧
      (plane.route m = .shmSub → m.localEndpoint.kind = .subscriber) := by
  unfold route pubsubPair
  cases m.localEndpoint.kind <;> simp <;> split_ifs <;> simp

theorem useShm_of_route
    {plane : DataPlane} {m : MatchInfo}
    (routed : plane.route m = .shmPub ∨ plane.route m = .shmSub) :
    plane.useShm m = true := by
  by_contra other
  unfold route at routed
  cases m.localEndpoint.kind <;> simp [other] at routed
  all_goals split_ifs at routed <;> simp_all

theorem handleMatch_eq
    {plane : DataPlane} (running : plane.stopped = false)
    (memory : SharedMemory) (m : MatchInfo) (outcome : CreateOutcome) :
    plane.handleMatch memory m outcome =
      match plane.route m with
      | .ignored => (plane, memory)
      | .tcpPub => (plane.tcpPubMatch m, memory)
      | .shmPub => plane.shmPubMatch memory m outcome
      | .shmSub => (plane.shmSubMatch m, memory) := by
  unfold handleMatch route
  rw [running]
  split_ifs <;> first | rfl | simp_all

theorem handleUnmatch_eq
    {plane : DataPlane} (running : plane.stopped = false)
    (memory : SharedMemory) (m : MatchInfo) :
    plane.handleUnmatch memory m =
      match plane.route m with
      | .ignored => (plane, memory)
      | .tcpPub => (plane.tcpPubUnmatch m, memory)
      | .shmPub => plane.shmPubUnmatch memory m
      | .shmSub => (plane.shmSubUnmatch m, memory) := by
  unfold handleUnmatch route
  rw [running]
  split_ifs <;> first | rfl | simp_all

theorem sameIdentity_tcpPubMatch (plane : DataPlane) (m : MatchInfo) :
    SameIdentity plane (plane.tcpPubMatch m) := by
  unfold tcpPubMatch connectionFor
  dsimp only
  split
  · exact SameIdentity.refl plane
  · split <;> exact ⟨rfl, rfl, rfl, rfl⟩

theorem sameIdentity_tcpPubUnmatch (plane : DataPlane) (m : MatchInfo) :
    SameIdentity plane (plane.tcpPubUnmatch m) := by
  unfold tcpPubUnmatch
  dsimp only
  split
  · exact SameIdentity.refl plane
  · split_ifs <;> exact ⟨rfl, rfl, rfl, rfl⟩

/-- The shared-memory operations of a publisher leave identity and TCP sinks
alone. -/
theorem shmPubMatch_frame
    (plane : DataPlane) (memory : SharedMemory) (m : MatchInfo)
    (outcome : CreateOutcome) :
    SameIdentity plane (plane.shmPubMatch memory m outcome).1 ∧
      (plane.shmPubMatch memory m outcome).1.sinks = plane.sinks := by
  unfold shmPubMatch
  dsimp only
  split
  · exact ⟨⟨rfl, rfl, rfl, rfl⟩, rfl⟩
  · split <;> exact ⟨⟨rfl, rfl, rfl, rfl⟩, rfl⟩

theorem shmPubUnmatch_frame
    (plane : DataPlane) (memory : SharedMemory) (m : MatchInfo) :
    SameIdentity plane (plane.shmPubUnmatch memory m).1 ∧
      (plane.shmPubUnmatch memory m).1.sinks = plane.sinks := by
  unfold shmPubUnmatch
  dsimp only
  split
  · exact ⟨SameIdentity.refl plane, rfl⟩
  · split_ifs <;> exact ⟨⟨rfl, rfl, rfl, rfl⟩, rfl⟩

/-- So do those of a subscriber. -/
theorem shmSubMatch_frame (plane : DataPlane) (m : MatchInfo) :
    SameIdentity plane (plane.shmSubMatch m) ∧
      (plane.shmSubMatch m).sinks = plane.sinks := by
  unfold shmSubMatch
  dsimp only
  split <;> exact ⟨⟨rfl, rfl, rfl, rfl⟩, rfl⟩

theorem shmSubUnmatch_frame (plane : DataPlane) (m : MatchInfo) :
    SameIdentity plane (plane.shmSubUnmatch m) ∧
      (plane.shmSubUnmatch m).sinks = plane.sinks := by
  unfold shmSubUnmatch
  dsimp only
  split
  · exact ⟨SameIdentity.refl plane, rfl⟩
  · split_ifs <;> exact ⟨⟨rfl, rfl, rfl, rfl⟩, rfl⟩

theorem sameIdentity_handleMatch
    {plane : DataPlane} (running : plane.stopped = false)
    (memory : SharedMemory) (m : MatchInfo) (outcome : CreateOutcome) :
    SameIdentity plane (plane.handleMatch memory m outcome).1 := by
  rw [handleMatch_eq running]
  cases plane.route m with
  | ignored =>
      exact SameIdentity.refl plane
  | tcpPub =>
      exact sameIdentity_tcpPubMatch plane m
  | shmPub =>
      exact (shmPubMatch_frame plane memory m outcome).1
  | shmSub =>
      exact (shmSubMatch_frame plane m).1

theorem sameIdentity_handleUnmatch
    {plane : DataPlane} (running : plane.stopped = false)
    (memory : SharedMemory) (m : MatchInfo) :
    SameIdentity plane (plane.handleUnmatch memory m).1 := by
  rw [handleUnmatch_eq running]
  cases plane.route m with
  | ignored =>
      exact SameIdentity.refl plane
  | tcpPub =>
      exact sameIdentity_tcpPubUnmatch plane m
  | shmPub =>
      exact (shmPubUnmatch_frame plane memory m).1
  | shmSub =>
      exact (shmSubUnmatch_frame plane m).1

/-! ## TCP sinks -/

theorem sinks_tcpPubMatch
    (plane : DataPlane) (m : MatchInfo) (key : Text) :
    (plane.tcpPubMatch m).sinks[key]? =
      if matchKey m = key ∧ matchKey m ∉ plane.sinks then
        some (.remote plane.nextSerial m.localEndpoint.topic
          m.remoteParticipantId)
      else
        plane.sinks[key]? := by
  unfold tcpPubMatch connectionFor
  dsimp only
  by_cases present : matchKey m ∈ plane.sinks
  · simp [present]
  · cases plane.connections[m.remoteParticipantId]? with
    | none =>
        simp [present, Std.TreeMap.getElem?_insert]
    | some _ =>
        simp [present, Std.TreeMap.getElem?_insert]

theorem sinks_tcpPubUnmatch
    (plane : DataPlane) (m : MatchInfo) (key : Text) :
    (plane.tcpPubUnmatch m).sinks[key]? =
      if matchKey m = key then none else plane.sinks[key]? := by
  unfold tcpPubUnmatch
  dsimp only
  cases found : plane.sinks[matchKey m]? with
  | none =>
      by_cases same : matchKey m = key
      · subst same
        simp [found]
      · simp [same]
  | some sink =>
      dsimp only
      split_ifs <;> simp_all [Std.TreeMap.getElem?_erase]

/-- What a match over TCP with a new key does to the other tables. -/
theorem tcpPubMatch_tables
    {plane : DataPlane} {m : MatchInfo} (unused : matchKey m ∉ plane.sinks) :
    let after := plane.tcpPubMatch m
    after.bus =
        plane.bus.addRemoteSink m.localEndpoint.topic
          (.remote plane.nextSerial m.localEndpoint.topic
            m.remoteParticipantId) ∧
      after.nextSerial = plane.nextSerial + 1 ∧
      (∀ pid : Nat,
        after.refcount[pid]? =
          if m.remoteParticipantId = pid then
            some (plane.refcount[pid]?.getD 0 + 1)
          else
            plane.refcount[pid]?) ∧
      ∀ pid : Nat,
        pid ∈ after.connections ↔
          m.remoteParticipantId = pid ∨ pid ∈ plane.connections := by
  have counted (pid : Nat) :
      (plane.refcount.insert m.remoteParticipantId
          (plane.refcount.getD m.remoteParticipantId 0 + 1))[pid]? =
        if m.remoteParticipantId = pid then
          some (plane.refcount[pid]?.getD 0 + 1)
        else
          plane.refcount[pid]? := by
    rw [Std.TreeMap.getElem?_insert, Std.TreeMap.getD_eq_getD_getElem?]
    by_cases same : m.remoteParticipantId = pid
    · simp [same]
    · simp [same]
  simp only [tcpPubMatch, connectionFor, unused, if_false, true_and]
  cases found : plane.connections[m.remoteParticipantId]? with
  | none =>
      refine ⟨rfl, counted, fun pid => ?_⟩
      simp [Std.TreeMap.mem_insert]
  | some locator =>
      refine ⟨rfl, counted, fun pid => ?_⟩
      have connected : m.remoteParticipantId ∈ plane.connections :=
        Std.TreeMap.mem_iff_isSome_getElem?.mpr (by simp [found])
      constructor
      · exact Or.inr
      · rintro (rfl | old)
        · exact connected
        · exact old

/-- What an unmatch over TCP with a known key does to the other tables. -/
theorem tcpPubUnmatch_tables
    {plane : DataPlane} {m : MatchInfo} {sink : SinkHandle}
    (found : plane.sinks[matchKey m]? = some sink) :
    let after := plane.tcpPubUnmatch m
    let count := plane.refcount[m.remoteParticipantId]?.getD 0 - 1
    after.bus =
        plane.bus.removeRemoteSink plane.alive m.localEndpoint.topic sink ∧
      after.nextSerial = plane.nextSerial ∧
      (∀ pid : Nat,
        after.refcount[pid]? =
          if m.remoteParticipantId = pid then
            if count ≤ 0 then none else some count
          else
            plane.refcount[pid]?) ∧
      ∀ pid : Nat,
        pid ∈ after.connections ↔
          pid ∈ plane.connections ∧
            ¬ (m.remoteParticipantId = pid ∧ count ≤ 0) := by
  simp only [tcpPubUnmatch, found, Std.TreeMap.getD_eq_getD_getElem?]
  by_cases last : plane.refcount[m.remoteParticipantId]?.getD 0 - 1 ≤ 0
  · simp only [last, if_true, true_and]
    refine ⟨fun pid => ?_, fun pid => ?_⟩
    · rw [Std.TreeMap.getElem?_erase, Std.TreeMap.getElem?_insert]
      by_cases same : m.remoteParticipantId = pid
      · simp [same]
      · simp [same]
    · simp [Std.TreeMap.mem_erase, and_comm]
  · simp only [last, if_false, and_false, not_false_eq_true, and_true,
      true_and, implies_true]
    intro pid
    rw [Std.TreeMap.getElem?_insert]
    by_cases same : m.remoteParticipantId = pid
    · simp [same]
    · simp [same]

/-- A match that is routed over TCP enters a sink under its key unless there
is one; no other match touches the sinks. -/
theorem sinks_handleMatch
    {plane : DataPlane} (running : plane.stopped = false)
    (memory : SharedMemory) (m : MatchInfo) (outcome : CreateOutcome)
    (key : Text) :
    (plane.handleMatch memory m outcome).1.sinks[key]? =
      if plane.route m = .tcpPub ∧ matchKey m = key ∧ matchKey m ∉ plane.sinks
      then
        some (.remote plane.nextSerial m.localEndpoint.topic
          m.remoteParticipantId)
      else
        plane.sinks[key]? := by
  rw [handleMatch_eq running]
  cases routed : plane.route m with
  | ignored =>
      simp
  | tcpPub =>
      simp [sinks_tcpPubMatch]
  | shmPub =>
      simp [(shmPubMatch_frame plane memory m outcome).2]
  | shmSub =>
      simp [(shmSubMatch_frame plane m).2]

/-- An unmatch that is routed over TCP erases the sink of its key; no other
unmatch touches the sinks. -/
theorem sinks_handleUnmatch
    {plane : DataPlane} (running : plane.stopped = false)
    (memory : SharedMemory) (m : MatchInfo) (key : Text) :
    (plane.handleUnmatch memory m).1.sinks[key]? =
      if plane.route m = .tcpPub ∧ matchKey m = key then none
      else plane.sinks[key]? := by
  rw [handleUnmatch_eq running]
  cases routed : plane.route m with
  | ignored =>
      simp
  | tcpPub =>
      simp [sinks_tcpPubUnmatch]
  | shmPub =>
      simp [(shmPubUnmatch_frame plane memory m).2]
  | shmSub =>
      simp [(shmSubUnmatch_frame plane m).2]

/-! ## Shared-memory writers and readers -/

theorem tcpPubMatch_shm (plane : DataPlane) (m : MatchInfo) :
    (plane.tcpPubMatch m).shmPub = plane.shmPub ∧
      (plane.tcpPubMatch m).shmSubRef = plane.shmSubRef ∧
      (plane.tcpPubMatch m).shmReaders = plane.shmReaders := by
  unfold tcpPubMatch connectionFor
  dsimp only
  split
  · exact ⟨rfl, rfl, rfl⟩
  · split <;> exact ⟨rfl, rfl, rfl⟩

theorem tcpPubUnmatch_shm (plane : DataPlane) (m : MatchInfo) :
    (plane.tcpPubUnmatch m).shmPub = plane.shmPub ∧
      (plane.tcpPubUnmatch m).shmSubRef = plane.shmSubRef ∧
      (plane.tcpPubUnmatch m).shmReaders = plane.shmReaders := by
  unfold tcpPubUnmatch
  dsimp only
  split
  · exact ⟨rfl, rfl, rfl⟩
  · split_ifs <;> exact ⟨rfl, rfl, rfl⟩

theorem shmPubMatch_readers
    (plane : DataPlane) (memory : SharedMemory) (m : MatchInfo)
    (outcome : CreateOutcome) :
    (plane.shmPubMatch memory m outcome).1.shmSubRef = plane.shmSubRef ∧
      (plane.shmPubMatch memory m outcome).1.shmReaders =
        plane.shmReaders := by
  unfold shmPubMatch
  dsimp only
  split
  · exact ⟨rfl, rfl⟩
  · split <;> exact ⟨rfl, rfl⟩

theorem shmSubMatch_writers (plane : DataPlane) (m : MatchInfo) :
    (plane.shmSubMatch m).shmPub = plane.shmPub := by
  unfold shmSubMatch
  dsimp only
  split <;> rfl

theorem shmSubUnmatch_writers (plane : DataPlane) (m : MatchInfo) :
    (plane.shmSubUnmatch m).shmPub = plane.shmPub := by
  unfold shmSubUnmatch
  dsimp only
  split
  · rfl
  · split_ifs <;> rfl

/-- If segments can be created, a publisher's match leaves a writer for its
topic and no other new one. -/
theorem mem_shmPub_shmPubMatch
    (plane : DataPlane) (memory : SharedMemory) (m : MatchInfo)
    (topic : Text) :
    topic ∈ (plane.shmPubMatch memory m .created).1.shmPub ↔
      m.localEndpoint.topic = topic ∨ topic ∈ plane.shmPub := by
  unfold shmPubMatch SharedMemory.create
  dsimp only
  split
  · simp [Std.TreeMap.mem_insert]
  · simp [Std.TreeMap.mem_insert]

/-- The readers after a subscriber's match: a new entry unless the segment
already has a reference. -/
theorem shmSubMatch_readers
    (plane : DataPlane) (m : MatchInfo) (name : Text) :
    let own := segName m.remoteParticipantId m.localEndpoint.topic
    (name ∈ (plane.shmSubMatch m).shmSubRef ↔
        own = name ∨ name ∈ plane.shmSubRef) ∧
      (plane.shmSubMatch m).shmReaders =
        if own ∈ plane.shmSubRef then plane.shmReaders
        else
          plane.shmReaders.map fun readers =>
            addReader readers own m.localEndpoint.topic own := by
  unfold shmSubMatch
  dsimp only
  split
  · rename_i ref found
    have present :
        segName m.remoteParticipantId m.localEndpoint.topic ∈
          plane.shmSubRef :=
      Std.TreeMap.mem_iff_isSome_getElem?.mpr (by simp [found])
    simp [Std.TreeMap.mem_insert, present]
  · rename_i missing
    have absent :
        segName m.remoteParticipantId m.localEndpoint.topic ∉
          plane.shmSubRef := by
      intro present
      have found := Std.TreeMap.mem_iff_isSome_getElem?.mp present
      simp [missing] at found
    simp [Std.TreeMap.mem_insert, absent]

/-! ## The bus -/

theorem bus_tcpPubMatch (plane : DataPlane) (m : MatchInfo) :
    (plane.tcpPubMatch m).bus = plane.bus ∨
      (plane.tcpPubMatch m).bus =
        plane.bus.addRemoteSink m.localEndpoint.topic
          (.remote plane.nextSerial m.localEndpoint.topic
            m.remoteParticipantId) := by
  unfold tcpPubMatch connectionFor
  dsimp only
  split
  · exact Or.inl rfl
  · split <;> exact Or.inr rfl

theorem within_tcpPubUnmatch (plane : DataPlane) (m : MatchInfo) :
    (plane.tcpPubUnmatch m).bus.Within plane.bus := by
  unfold tcpPubUnmatch
  dsimp only
  split
  · exact LocalBus.Within.refl _
  · split_ifs <;> exact LocalBus.within_removeRemoteSink _ _ _ _

theorem shmSubMatch_bus (plane : DataPlane) (m : MatchInfo) :
    (plane.shmSubMatch m).bus = plane.bus := by
  unfold shmSubMatch
  dsimp only
  split <;> rfl

theorem shmSubUnmatch_bus (plane : DataPlane) (m : MatchInfo) :
    (plane.shmSubUnmatch m).bus = plane.bus := by
  unfold shmSubUnmatch
  dsimp only
  split
  · rfl
  · split_ifs <;> rfl

/-- A subscriber's unmatch keeps the reader and its count, or removes both. -/
theorem shmSubUnmatch_readers (plane : DataPlane) (m : MatchInfo) :
    let own := segName m.remoteParticipantId m.localEndpoint.topic
    ((plane.shmSubUnmatch m).shmReaders = plane.shmReaders ∧
        ∀ name : Text,
          name ∈ (plane.shmSubUnmatch m).shmSubRef → name ∈ plane.shmSubRef) ∨
      ((plane.shmSubUnmatch m).shmReaders =
          plane.shmReaders.map (fun readers => readers.erase own) ∧
        (plane.shmSubUnmatch m).shmSubRef = plane.shmSubRef.erase own) := by
  unfold shmSubUnmatch
  dsimp only
  split
  · exact Or.inl ⟨rfl, fun _ => id⟩
  · rename_i ref found
    have present :
        segName m.remoteParticipantId m.localEndpoint.topic ∈
          plane.shmSubRef :=
      Std.TreeMap.mem_iff_isSome_getElem?.mpr (by simp [found])
    split_ifs
    · refine Or.inl ⟨rfl, fun name member => ?_⟩
      rcases Std.TreeMap.mem_insert.mp member with equal | old
      · rwa [← Std.compare_eq_iff_eq.mp equal]
      · exact old
    · exact Or.inr ⟨rfl, rfl⟩

/-- What a publisher's match can do: count another subscriber of a writer,
create the segment and its writer, or fail to create the segment. -/
inductive PubMatched (plane : DataPlane) (memory : SharedMemory)
    (topic : Text) (outcome : CreateOutcome) (after : DataPlane × SharedMemory) :
    Prop
  | counted (pub : ShmPub) :
      plane.shmPub[topic]? = some pub →
      after.1.shmPub =
        plane.shmPub.insert topic { pub with ref := pub.ref + 1 } →
      after.1.bus = plane.bus → after.2 = memory →
      PubMatched plane memory topic outcome after
  | created (object : Nat) :
      plane.shmPub[topic]? = none →
      (memory.create (segName plane.localPid topic) kShmSlotCount
        kShmSlotCapacity outcome).2 = some object →
      after.1.shmPub =
        plane.shmPub.insert topic
          ⟨.shm plane.nextSerial object (segName plane.localPid topic), 1⟩ →
      after.1.bus =
        plane.bus.addRemoteSink topic
          (.shm plane.nextSerial object (segName plane.localPid topic)) →
      after.2 =
        (memory.create (segName plane.localPid topic) kShmSlotCount
          kShmSlotCapacity outcome).1 →
      PubMatched plane memory topic outcome after
  | failed :
      plane.shmPub[topic]? = none →
      (memory.create (segName plane.localPid topic) kShmSlotCount
        kShmSlotCapacity outcome).2 = none →
      after.1.shmPub = plane.shmPub → after.1.bus = plane.bus →
      after.2 =
        (memory.create (segName plane.localPid topic) kShmSlotCount
          kShmSlotCapacity outcome).1 →
      PubMatched plane memory topic outcome after

theorem shmPubMatch_cases
    (plane : DataPlane) (memory : SharedMemory) (m : MatchInfo)
    (outcome : CreateOutcome) :
    PubMatched plane memory m.localEndpoint.topic outcome
      (plane.shmPubMatch memory m outcome) := by
  unfold shmPubMatch
  dsimp only
  split
  · rename_i pub found
    exact PubMatched.counted pub found rfl rfl rfl
  · rename_i missing
    split
    · rename_i changed failed
      exact PubMatched.failed missing (by rw [failed]) rfl rfl (by rw [failed])
    · rename_i changed object made
      exact PubMatched.created object missing (by rw [made]) rfl rfl
        (by rw [made])

/-- What a publisher's unmatch can do: nothing, count one subscriber less, or
drop the writer and unlink its segment. -/
inductive PubUnmatched (plane : DataPlane) (memory : SharedMemory)
    (topic : Text) (after : DataPlane × SharedMemory) : Prop
  | ignored :
      after.1.shmPub = plane.shmPub → after.2 = memory →
      PubUnmatched plane memory topic after
  | counted (pub : ShmPub) :
      plane.shmPub[topic]? = some pub →
      after.1.shmPub =
        plane.shmPub.insert topic { pub with ref := pub.ref - 1 } →
      after.2 = memory →
      PubUnmatched plane memory topic after
  | dropped :
      after.1.shmPub = plane.shmPub.erase topic →
      after.2 = memory.unlink (segName plane.localPid topic) →
      PubUnmatched plane memory topic after

theorem shmPubUnmatch_cases
    (plane : DataPlane) (memory : SharedMemory) (m : MatchInfo) :
    PubUnmatched plane memory m.localEndpoint.topic
        (plane.shmPubUnmatch memory m) ∧
      (plane.shmPubUnmatch memory m).1.bus.Within plane.bus ∧
      (plane.shmPubUnmatch memory m).1.shmSubRef = plane.shmSubRef ∧
      (plane.shmPubUnmatch memory m).1.shmReaders = plane.shmReaders := by
  unfold shmPubUnmatch
  dsimp only
  split
  · exact ⟨PubUnmatched.ignored rfl rfl, LocalBus.Within.refl _, rfl, rfl⟩
  · rename_i pub found
    split_ifs
    · exact ⟨PubUnmatched.counted pub found rfl rfl, LocalBus.Within.refl _,
        rfl, rfl⟩
    · exact ⟨PubUnmatched.dropped rfl rfl,
        LocalBus.within_removeRemoteSink _ _ _ _, rfl, rfl⟩

/-- A match changes no types, and adds at most the sink of its route. -/
theorem bus_handleMatch
    {plane : DataPlane} (running : plane.stopped = false)
    (memory : SharedMemory) (m : MatchInfo) (outcome : CreateOutcome) :
    let after := (plane.handleMatch memory m outcome).1.bus
    (∀ topic, (after.entry topic).typeName = (plane.bus.entry topic).typeName) ∧
      ∀ topic sink, after.Has topic sink →
        plane.bus.Has topic sink ∨
          m.localEndpoint.topic = topic ∧
            (plane.route m = .tcpPub ∧
                sink =
                  .remote plane.nextSerial topic m.remoteParticipantId ∨
              ∃ object name, sink = .shm plane.nextSerial object name) := by
  have unchanged (bus : LocalBus SinkHandle) (same : bus = plane.bus) :
      (∀ topic, (bus.entry topic).typeName = (plane.bus.entry topic).typeName) ∧
        ∀ topic sink, bus.Has topic sink → plane.bus.Has topic sink := by
    subst same
    exact ⟨fun _ => rfl, fun _ _ => id⟩
  have types (sink : SinkHandle) (topic : Text) :
      ((plane.bus.addRemoteSink m.localEndpoint.topic sink).entry
          topic).typeName =
        (plane.bus.entry topic).typeName := by
    rw [LocalBus.entry_addRemoteSink]
    split <;> rfl
  rw [handleMatch_eq running]
  cases routed : plane.route m with
  | ignored =>
      exact ⟨fun _ => rfl, fun _ _ => Or.inl⟩
  | tcpPub =>
      dsimp only
      rcases plane.bus_tcpPubMatch m with same | added
      · exact ⟨(unchanged _ same).1,
          fun topic sink has => Or.inl ((unchanged _ same).2 topic sink has)⟩
      · rw [added]
        refine ⟨types _, fun topic sink has => ?_⟩
        rcases LocalBus.has_addRemoteSink has with old | ⟨rfl, rfl⟩
        · exact Or.inl old
        · exact Or.inr ⟨rfl, Or.inl ⟨rfl, rfl⟩⟩
  | shmPub =>
      dsimp only
      cases plane.shmPubMatch_cases memory m outcome with
      | counted _ _ _ same _ =>
          exact ⟨(unchanged _ same).1,
            fun topic sink has => Or.inl ((unchanged _ same).2 topic sink has)⟩
      | created object _ _ _ added _ =>
          rw [added]
          refine ⟨types _, fun topic sink has => ?_⟩
          rcases LocalBus.has_addRemoteSink has with old | ⟨rfl, rfl⟩
          · exact Or.inl old
          · exact Or.inr ⟨rfl, Or.inr ⟨object, _, rfl⟩⟩
      | failed _ _ _ same _ =>
          exact ⟨(unchanged _ same).1,
            fun topic sink has => Or.inl ((unchanged _ same).2 topic sink has)⟩
  | shmSub =>
      dsimp only
      have same := plane.shmSubMatch_bus m
      exact ⟨(unchanged _ same).1,
        fun topic sink has => Or.inl ((unchanged _ same).2 topic sink has)⟩

theorem within_handleUnmatch
    {plane : DataPlane} (running : plane.stopped = false)
    (memory : SharedMemory) (m : MatchInfo) :
    (plane.handleUnmatch memory m).1.bus.Within plane.bus := by
  rw [handleUnmatch_eq running]
  cases plane.route m with
  | ignored =>
      exact LocalBus.Within.refl _
  | tcpPub =>
      exact plane.within_tcpPubUnmatch m
  | shmPub =>
      exact (plane.shmPubUnmatch_cases memory m).2.1
  | shmSub =>
      dsimp only
      rw [plane.shmSubUnmatch_bus m]
      exact LocalBus.Within.refl _

/-- An unmatch unlinks the segment of its topic, or leaves the memory alone. -/
theorem memory_handleUnmatch
    {plane : DataPlane} (running : plane.stopped = false)
    (memory : SharedMemory) (m : MatchInfo) :
    (plane.handleUnmatch memory m).2 = memory ∨
      (plane.handleUnmatch memory m).2 =
        memory.unlink (segName plane.localPid m.localEndpoint.topic) := by
  rw [handleUnmatch_eq running]
  cases plane.route m with
  | shmPub =>
      dsimp only
      cases (plane.shmPubUnmatch_cases memory m).1 with
      | ignored _ unchanged =>
          exact Or.inl unchanged
      | counted _ _ _ unchanged =>
          exact Or.inl unchanged
      | dropped _ unlinked =>
          exact Or.inr unlinked
  | _ =>
      exact Or.inl rfl

/-- An entry after a match is an old one, or the one of a subscriber's match
that uses shared memory. -/
theorem entry_handleMatch
    {plane : DataPlane} (running : plane.stopped = false)
    {memory : SharedMemory} {m : MatchInfo} {outcome : CreateOutcome}
    {readers : Std.TreeMap Text ReaderEntry} {key : Text} {entry : ReaderEntry}
    (held :
      (plane.handleMatch memory m outcome).1.shmReaders = some readers)
    (found : readers[key]? = some entry) :
    (∃ old, plane.shmReaders = some old ∧ old[key]? = some entry) ∨
      plane.route m = .shmSub ∧
        entry =
          { topic := m.localEndpoint.topic
            segName :=
              segName m.remoteParticipantId m.localEndpoint.topic } := by
  rw [handleMatch_eq running] at held
  cases routed : plane.route m with
  | ignored =>
      rw [routed] at held
      exact Or.inl ⟨readers, held, found⟩
  | tcpPub =>
      rw [routed] at held
      exact Or.inl ⟨readers, (plane.tcpPubMatch_shm m).2.2 ▸ held, found⟩
  | shmPub =>
      rw [routed] at held
      exact Or.inl
        ⟨readers, (plane.shmPubMatch_readers memory m outcome).2 ▸ held, found⟩
  | shmSub =>
      rw [routed] at held
      dsimp only at held
      rw [(plane.shmSubMatch_readers m []).2] at held
      split at held
      · exact Or.inl ⟨readers, held, found⟩
      · obtain ⟨old, oldHeld, rfl⟩ := Option.map_eq_some_iff.mp held
        unfold addReader at found
        split at found
        · exact Or.inl ⟨old, oldHeld, found⟩
        · rcases Library.getElem?_insert_eq_some.mp found with
            ⟨_, rfl⟩ | ⟨_, before⟩
          · exact Or.inr ⟨rfl, rfl⟩
          · exact Or.inl ⟨old, oldHeld, before⟩

theorem entry_handleUnmatch
    {plane : DataPlane} (running : plane.stopped = false)
    {memory : SharedMemory} {m : MatchInfo}
    {readers : Std.TreeMap Text ReaderEntry} {key : Text} {entry : ReaderEntry}
    (held : (plane.handleUnmatch memory m).1.shmReaders = some readers)
    (found : readers[key]? = some entry) :
    ∃ old, plane.shmReaders = some old ∧ old[key]? = some entry := by
  rw [handleUnmatch_eq running] at held
  cases routed : plane.route m with
  | ignored =>
      rw [routed] at held
      exact ⟨readers, held, found⟩
  | tcpPub =>
      rw [routed] at held
      exact ⟨readers, (plane.tcpPubUnmatch_shm m).2.2 ▸ held, found⟩
  | shmPub =>
      rw [routed] at held
      exact
        ⟨readers, (plane.shmPubUnmatch_cases memory m).2.2.2 ▸ held, found⟩
  | shmSub =>
      rw [routed] at held
      dsimp only at held
      rcases plane.shmSubUnmatch_readers m with ⟨kept, _⟩ | ⟨erased, _⟩
      · exact ⟨readers, kept ▸ held, found⟩
      · rw [erased] at held
        obtain ⟨old, oldHeld, rfl⟩ := Option.map_eq_some_iff.mp held
        exact ⟨old, oldHeld, (Library.getElem?_erase_eq_some.mp found).2⟩

end DataPlane

end MiniMiddleware.Core
