import MiniMiddleware.Core.SegmentOwners

/-!
# End-to-end type safety

A bus pins each topic to the type it is first used with, and rejects
subscribers and messages of another type.  Across nodes the type is only
checked by discovery, on the advertised endpoints; endpoints that their own
bus has rejected are advertised as well, and inbound delivery checks nothing.

A node can therefore receive messages of a foreign type exactly through a
match between nodes whose buses have pinned the topic to different types, or
through a segment that two topics share.  Without such matches every message
on a subscriber's queue was produced by a publisher of its topic and type.
-/

namespace MiniMiddleware.Core

open MiniMiddleware.Library MiniMiddleware.Discovery MiniMiddleware.Transport

/-- The type to which a participant's bus has pinned a topic; empty if it has
not. -/
def Fabric.typeOf (fabric : Fabric) (pid : Nat) (topic : Text) : Text :=
  ((fabric.planes pid).bus.entry topic).typeName

/-! ## The conditions -/

/-- What the nodes and discovery do of themselves: message types have names,
publishers publish with the type they were created for, and matches are pairs
of advertised endpoints that `match_endpoints` accepts. -/
def discovered (fabric : Fabric) (input : FabricInput) : Bool :=
  match input with
  | .createPublisher _ _ typeName _ => typeName ≠ []
  | .createSubscriber _ _ typeName _ => typeName ≠ []
  | .handleMatch pid m _ =>
      m.localEndpoint ∈ fabric.endpoints pid ∧
        m.remoteEndpoint ∈ fabric.endpoints m.remoteParticipantId ∧
        pairMatches m.localEndpoint m.remoteEndpoint
  | .publish pid topic typeName _ =>
      ∃ endpoint ∈ fabric.endpoints pid,
        endpoint.kind = .publisher ∧ endpoint.topic = topic ∧
          endpoint.typeName = typeName
  | _ => true

/-- A match that leads to a TCP sink or to a shared-memory reader is between
buses that have pinned the topic to one type. -/
def typesAgree (fabric : Fabric) (input : FabricInput) : Bool :=
  match input with
  | .handleMatch pid m _ =>
      (fabric.planes pid).route m = .tcpPub ∨
          (fabric.planes pid).route m = .shmSub →
        fabric.typeOf m.remoteParticipantId m.localEndpoint.topic =
          fabric.typeOf pid m.localEndpoint.topic
  | _ => true

/-- The guard of all three conditions: discovery, types and segments. -/
def TypedOn (channels : Nat → Text → Prop) (fabric : Fabric)
    (input : FabricInput) : Prop :=
  discovered fabric input = true ∧ typesAgree fabric input = true ∧
    OnChannels channels fabric input

instance (channels : Nat → Text → Prop)
    [∀ pid topic, Decidable (channels pid topic)] (fabric : Fabric)
    (input : FabricInput) : Decidable (TypedOn channels fabric input) :=
  inferInstanceAs (Decidable (_ ∧ _ ∧ _))

/-! ## The invariant -/

/-- Types are pinned for good. -/
def TypesGrow (types after : Nat → Text → Text) : Prop :=
  ∀ pid topic, types pid topic ≠ [] → after pid topic = types pid topic

/-- The sinks of a topic have its type: subscribers their own, remote sinks
that of their peer, and readers that of their writer. -/
structure PlaneTyped (types : Nat → Text → Text) (pid : Nat)
    (plane : DataPlane) : Prop where
  subscribers :
    ∀ (topic : Text) (serial : Nat) (own typeName : Text),
      plane.bus.Has topic (.subscriber serial own typeName) →
        own = topic ∧ typeName = types pid topic ∧ types pid topic ≠ []
  remotes :
    ∀ (topic : Text) (serial : Nat) (own : Text) (peer : Nat),
      plane.bus.Has topic (.remote serial own peer) →
        own = topic ∧ types peer topic = types pid topic ∧
          types pid topic ≠ []
  readers :
    ∀ (readers : Std.TreeMap Text ReaderEntry) (key : Text)
      (entry : ReaderEntry),
      plane.shmReaders = some readers → readers[key]? = some entry →
        ∃ writer, entry.segName = segName writer entry.topic ∧
          types writer entry.topic = types pid entry.topic ∧
          types pid entry.topic ≠ []

/-- A message that its publisher's bus has accepted with the type it has
pinned. -/
def TypedMessage (fabric : Fabric) (events : List FabricEvent) (pid : Nat)
    (topic : Text) (bytes : Bytes) : Prop :=
  fabric.typeOf pid topic ≠ [] ∧
    .published pid topic (fabric.typeOf pid topic) bytes ∈ events

/-- What holds after every typed run. -/
structure TypedNetwork (channels : Nat → Text → Prop) (fabric : Fabric)
    (events : List FabricEvent) : Prop where
  registered :
    ∀ pid, ∀ endpoint ∈ fabric.endpoints pid,
      fabric.typeOf pid endpoint.topic ≠ []
  planes : ∀ pid, PlaneTyped fabric.typeOf pid (fabric.planes pid)
  wire :
    ∀ frame ∈ fabric.wire,
      fabric.typeOf frame.peer frame.topic ≠ [] ∧
        ∃ pid,
          .published pid frame.topic (fabric.typeOf frame.peer frame.topic)
            frame.bytes ∈ events
  sound : FabricSound channels (TypedMessage fabric events) fabric
  safe :
    ∀ pid serial topic typeName bytes,
      .enqueued pid (.subscriber serial topic typeName) bytes ∈ events →
        ∃ publisher, .published publisher topic typeName bytes ∈ events

section Planes

variable {types after : Nat → Text → Text} {pid : Nat} {plane changed : DataPlane}

theorem PlaneTyped.grow
    (typed : PlaneTyped types pid plane) (grows : TypesGrow types after) :
    PlaneTyped after pid plane where
  subscribers topic serial own typeName has := by
    obtain ⟨sameTopic, sameType, pinned⟩ :=
      typed.subscribers topic serial own typeName has
    rw [grows pid topic pinned]
    exact ⟨sameTopic, sameType, pinned⟩
  remotes topic serial own peer has := by
    obtain ⟨sameTopic, sameType, pinned⟩ :=
      typed.remotes topic serial own peer has
    rw [grows pid topic pinned, grows peer topic (by rwa [sameType])]
    exact ⟨sameTopic, sameType, pinned⟩
  readers readers key entry held found := by
    obtain ⟨writer, named, sameType, pinned⟩ :=
      typed.readers readers key entry held found
    rw [grows pid entry.topic pinned]
    exact ⟨writer, named,
      (grows writer entry.topic (by rwa [sameType])).trans sameType, pinned⟩

theorem PlaneTyped.shrink
    (typed : PlaneTyped types pid plane)
    (has : ∀ topic sink, changed.bus.Has topic sink → plane.bus.Has topic sink)
    (readers :
      ∀ (readers : Std.TreeMap Text ReaderEntry) (key : Text)
        (entry : ReaderEntry),
        changed.shmReaders = some readers → readers[key]? = some entry →
          ∃ old before, plane.shmReaders = some old ∧
            old[key]? = some before ∧ entry.topic = before.topic ∧
            entry.segName = before.segName) :
    PlaneTyped types pid changed where
  subscribers topic serial own typeName member :=
    typed.subscribers topic serial own typeName (has _ _ member)
  remotes topic serial own peer member :=
    typed.remotes topic serial own peer (has _ _ member)
  readers now key entry held found := by
    obtain ⟨old, before, oldHeld, oldFound, sameTopic, sameName⟩ :=
      readers now key entry held found
    rw [sameTopic, sameName]
    exact typed.readers old key before oldHeld oldFound

theorem PlaneTyped.setBus
    (typed : PlaneTyped types pid plane) {bus : LocalBus SinkHandle}
    (has : ∀ topic sink, bus.Has topic sink → plane.bus.Has topic sink) :
    PlaneTyped types pid { plane with bus := bus } :=
  typed.shrink has fun readers _ entry held found =>
    ⟨readers, entry, held, found, rfl, rfl⟩

theorem PlaneTyped.subscribe
    (typed : PlaneTyped types pid plane) (grows : TypesGrow types after)
    {topic typeName : Text} {serial next : Nat} (named : typeName ≠ [])
    (pinned :
      ((plane.bus.subscribe topic typeName
          (.subscriber serial topic typeName)).entry topic).typeName =
        after pid topic) :
    PlaneTyped after pid
      { plane with
        bus :=
          plane.bus.subscribe topic typeName
            (.subscriber serial topic typeName)
        nextSerial := next } := by
  have before := typed.grow grows
  refine ⟨?_, ?_, before.readers⟩
  · intro other number own its has
    rcases LocalBus.has_subscribe_typed has with old | ⟨rfl, isNew, isType⟩
    · exact before.subscribers other number own its old
    · cases isNew
      rw [← pinned, isType]
      exact ⟨rfl, rfl, named⟩
  · intro other number own peer has
    rcases LocalBus.has_subscribe has with old | ⟨_, isNew⟩
    · exact before.remotes other number own peer old
    · cases isNew

theorem PlaneTyped.handleMatch
    (typed : PlaneTyped types pid plane) (running : plane.stopped = false)
    {m : MatchInfo} (pinned : types pid m.localEndpoint.topic ≠ [])
    (agree :
      plane.route m = .tcpPub ∨ plane.route m = .shmSub →
        types m.remoteParticipantId m.localEndpoint.topic =
          types pid m.localEndpoint.topic)
    (memory : SharedMemory) (outcome : CreateOutcome) :
    PlaneTyped types pid (plane.handleMatch memory m outcome).1 := by
  obtain ⟨_, has⟩ := DataPlane.bus_handleMatch running memory m outcome
  refine ⟨?_, ?_, ?_⟩
  · intro topic serial own typeName member
    rcases has topic _ member with old | ⟨_, ⟨_, isNew⟩ | ⟨_, _, isNew⟩⟩
    · exact typed.subscribers topic serial own typeName old
    · cases isNew
    · cases isNew
  · intro topic serial own peer member
    rcases has topic _ member with
      old | ⟨rfl, ⟨routed, isNew⟩ | ⟨_, _, isNew⟩⟩
    · exact typed.remotes topic serial own peer old
    · cases isNew
      exact ⟨rfl, agree (Or.inl routed), pinned⟩
    · cases isNew
  · intro readers key entry held found
    rcases DataPlane.entry_handleMatch running held found with
      ⟨old, oldHeld, oldFound⟩ | ⟨routed, rfl⟩
    · exact typed.readers old key entry oldHeld oldFound
    · exact ⟨m.remoteParticipantId, rfl, agree (Or.inr routed), pinned⟩

end Planes

/-! ## The steps -/

section Steps

variable {channels : Nat → Text → Prop} {fabric target : Fabric}
  {events emitted : List FabricEvent} {input : FabricInput}

theorem typesGrow_of_update
    {pid : Nat} {plane : DataPlane}
    (planes : target.planes = Function.update fabric.planes pid plane)
    (types :
      ∀ topic, fabric.typeOf pid topic ≠ [] →
        (plane.bus.entry topic).typeName = fabric.typeOf pid topic) :
    TypesGrow fabric.typeOf target.typeOf := by
  intro other topic pinned
  unfold Fabric.typeOf at *
  rw [planes]
  by_cases mine : other = pid
  · subst mine
    rw [Function.update_self]
    exact types topic pinned
  · rw [Function.update_of_ne mine]

/-- A publisher's topic is pinned, as it has an endpoint. -/
theorem TypedNetwork.pinned
    (network : TypedNetwork channels fabric events)
    {pid : Nat} {topic typeName : Text} {bytes : Bytes}
    (genuine : discovered fabric (.publish pid topic typeName bytes) = true) :
    fabric.typeOf pid topic ≠ [] := by
  simp only [discovered, decide_eq_true_eq] at genuine
  obtain ⟨endpoint, member, _, rfl, _⟩ := genuine
  exact network.registered pid endpoint member

theorem TypedNetwork.running
    (network : TypedNetwork channels fabric events) (pid : Nat) :
    (fabric.planes pid).stopped = false := by
  obtain ⟨_, _, planes⟩ := network.sound
  exact (planes pid).running

theorem TypedNetwork.typesGrow
    (network : TypedNetwork channels fabric events)
    (genuine : discovered fabric input = true)
    (stepped : fabric.step input = some (target, emitted)) :
    TypesGrow fabric.typeOf target.typeOf := by
  cases input with
  | createPublisher pid topic typeName reliability =>
      cases stepped
      refine typesGrow_of_update rfl fun other pinned => ?_
      exact
        (LocalBus.typeName_registerPublisher _ topic typeName other).trans
          (if_neg fun both => pinned both.2)
  | createSubscriber pid topic typeName reliability =>
      cases stepped
      refine typesGrow_of_update rfl fun other pinned => ?_
      exact
        (LocalBus.typeName_subscribe _ topic typeName other _).trans
          (if_neg fun both => pinned both.2)
  | handleMatch pid m outcome =>
      cases stepped
      exact
        typesGrow_of_update rfl fun topic _ =>
          (DataPlane.bus_handleMatch (network.running pid) _ m outcome).1 topic
  | handleUnmatch pid m =>
      cases stepped
      exact
        typesGrow_of_update rfl fun topic _ =>
          (DataPlane.within_handleUnmatch (network.running pid) _ m).typeName
            topic
  | publish pid topic typeName bytes =>
      cases stepped
      exact
        typesGrow_of_update rfl fun other _ =>
          LocalBus.typeName_publish (network.pinned genuine) _ typeName other
  | poll pid =>
      cases stepped
      exact
        typesGrow_of_update rfl fun topic _ =>
          (DataPlane.within_pollOnce _ _).typeName topic
  | arrive index =>
      obtain ⟨frame, _, rfl, rfl⟩ := Fabric.arrive_eq_some stepped
      exact
        typesGrow_of_update rfl fun topic _ =>
          ((fabric.planes frame.peer).bus.within_deliverInbound
            (fabric.planes frame.peer).alive frame.topic).1.typeName topic

theorem PlaneTyped.update
    {types after : Nat → Text → Text} {planes : Nat → DataPlane}
    (typed : ∀ pid, PlaneTyped types pid (planes pid))
    (grows : TypesGrow types after) {pid : Nat} {plane : DataPlane}
    (acting : PlaneTyped after pid plane) (other : Nat) :
    PlaneTyped after other (Function.update planes pid plane other) := by
  by_cases mine : other = pid
  · subst mine
    rw [Function.update_self]
    exact acting
  · rw [Function.update_of_ne mine]
    exact (typed other).grow grows

theorem TypedNetwork.planes_step
    (network : TypedNetwork channels fabric events)
    (genuine : discovered fabric input = true)
    (agree : typesAgree fabric input = true)
    (stepped : fabric.step input = some (target, emitted)) (other : Nat) :
    PlaneTyped target.typeOf other (target.planes other) := by
  have grows := network.typesGrow genuine stepped
  have typed (pid : Nat) := (network.planes pid).grow grows
  cases input with
  | createPublisher pid topic typeName reliability =>
      cases stepped
      exact
        PlaneTyped.update network.planes grows
          ((typed pid).setBus fun _ _ has =>
            LocalBus.has_registerPublisher has) other
  | createSubscriber pid topic typeName reliability =>
      have named : typeName ≠ [] := by simpa [discovered] using genuine
      cases stepped
      refine
        PlaneTyped.update network.planes grows
          ((network.planes pid).subscribe grows named ?_) other
      simp [Fabric.typeOf, Fabric.createSubscriber, Fabric.setPlane,
        Fabric.addEndpoint]
  | handleMatch pid m outcome =>
      simp only [discovered, decide_eq_true_eq] at genuine
      have pinned := network.registered pid m.localEndpoint genuine.1
      cases stepped
      exact
        PlaneTyped.update network.planes grows
          (((network.planes pid).handleMatch (network.running pid) pinned
            (of_decide_eq_true agree) _ outcome).grow grows) other
  | handleUnmatch pid m =>
      have running := network.running pid
      cases stepped
      refine
        PlaneTyped.update network.planes grows
          ((typed pid).shrink
            (fun _ _ has => (DataPlane.within_handleUnmatch running _ m).has has)
            fun readers key entry held found => ?_) other
      obtain ⟨old, oldHeld, oldFound⟩ :=
        DataPlane.entry_handleUnmatch running held found
      exact ⟨old, entry, oldHeld, oldFound, rfl, rfl⟩
  | publish pid topic typeName bytes =>
      cases stepped
      exact
        PlaneTyped.update network.planes grows
          ((typed pid).setBus fun _ _ has => LocalBus.has_publish has) other
  | poll pid =>
      cases stepped
      refine
        PlaneTyped.update network.planes grows
          ((typed pid).shrink
            (fun _ _ has => (DataPlane.within_pollOnce _ _).has has)
            fun readers key entry held found => ?_) other
      cases before : (fabric.planes pid).shmReaders with
      | none =>
          simp [DataPlane.pollOnce, before] at held
      | some old =>
          rw [(DataPlane.pollOnce_readers _ _ before).1] at held
          cases held
          rw [Std.TreeMap.getElem?_map] at found
          obtain ⟨polled, oldFound, rfl⟩ := Option.map_eq_some_iff.mp found
          exact ⟨old, polled, rfl, oldFound, polled.poll_frame _⟩
  | arrive index =>
      obtain ⟨frame, _, rfl, rfl⟩ := Fabric.arrive_eq_some stepped
      exact
        PlaneTyped.update network.planes grows
          ((typed frame.peer).setBus fun _ _ has =>
            ((fabric.planes frame.peer).bus.within_deliverInbound
              (fabric.planes frame.peer).alive frame.topic).1.has has) other

/-- An added endpoint has a pinned topic, and so have the old ones. -/
theorem TypedNetwork.registered_addEndpoint
    (network : TypedNetwork channels fabric events)
    (grows : TypesGrow fabric.typeOf target.typeOf)
    {pid : Nat} {added : EndpointInfo}
    (endpoints :
      target.endpoints =
        Function.update fabric.endpoints pid (fabric.endpoints pid ++ [added]))
    (pinned : target.typeOf pid added.topic ≠ []) :
    ∀ other, ∀ endpoint ∈ target.endpoints other,
      target.typeOf other endpoint.topic ≠ [] := by
  intro other endpoint member
  have old (known : endpoint ∈ fabric.endpoints other) :
      target.typeOf other endpoint.topic ≠ [] := by
    have before := network.registered other endpoint known
    rwa [grows other endpoint.topic before]
  rw [endpoints] at member
  by_cases mine : other = pid
  · subst mine
    rw [Function.update_self] at member
    rcases List.mem_append.mp member with known | isNew
    · exact old known
    · rw [List.mem_singleton.mp isNew]
      exact pinned
  · rw [Function.update_of_ne mine] at member
    exact old member

theorem TypedNetwork.registered_step
    (network : TypedNetwork channels fabric events)
    (genuine : discovered fabric input = true)
    (stepped : fabric.step input = some (target, emitted)) :
    ∀ pid, ∀ endpoint ∈ target.endpoints pid,
      target.typeOf pid endpoint.topic ≠ [] := by
  have grows := network.typesGrow genuine stepped
  have kept (same : target.endpoints = fabric.endpoints) :
      ∀ pid, ∀ endpoint ∈ target.endpoints pid,
        target.typeOf pid endpoint.topic ≠ [] := by
    intro pid endpoint member
    rw [same] at member
    have before := network.registered pid endpoint member
    rwa [grows pid endpoint.topic before]
  cases input with
  | createPublisher pid topic typeName reliability =>
      have named : typeName ≠ [] := by simpa [discovered] using genuine
      cases stepped
      refine network.registered_addEndpoint grows rfl ?_
      simp only [Fabric.typeOf, Fabric.createPublisher, Fabric.setPlane,
        Fabric.addEndpoint, Function.update_self,
        LocalBus.typeName_registerPublisher, true_and]
      split_ifs with undetermined
      · exact named
      · exact undetermined
  | createSubscriber pid topic typeName reliability =>
      have named : typeName ≠ [] := by simpa [discovered] using genuine
      cases stepped
      refine network.registered_addEndpoint grows rfl ?_
      simp only [Fabric.typeOf, Fabric.createSubscriber, Fabric.setPlane,
        Fabric.addEndpoint, Function.update_self,
        LocalBus.typeName_subscribe, true_and]
      split_ifs with undetermined
      · exact named
      · exact undetermined
  | handleMatch pid m outcome =>
      cases stepped
      exact kept rfl
  | handleUnmatch pid m =>
      cases stepped
      exact kept rfl
  | publish pid topic typeName bytes =>
      cases stepped
      exact kept rfl
  | poll pid =>
      cases stepped
      exact kept rfl
  | arrive index =>
      obtain ⟨_, _, rfl, rfl⟩ := Fabric.arrive_eq_some stepped
      exact kept rfl

/-- Every frame on the wire has the type that its receiver has pinned. -/
theorem TypedNetwork.wire_step
    (network : TypedNetwork channels fabric events)
    (genuine : discovered fabric input = true)
    (stepped : fabric.step input = some (target, emitted)) :
    ∀ frame ∈ target.wire,
      target.typeOf frame.peer frame.topic ≠ [] ∧
        ∃ pid,
          .published pid frame.topic (target.typeOf frame.peer frame.topic)
            frame.bytes ∈ events ++ emitted := by
  have grows := network.typesGrow genuine stepped
  have old (frame : Frame) (member : frame ∈ fabric.wire) :
      target.typeOf frame.peer frame.topic ≠ [] ∧
        ∃ pid,
          .published pid frame.topic (target.typeOf frame.peer frame.topic)
            frame.bytes ∈ events ++ emitted := by
    obtain ⟨pinned, pid, published⟩ := network.wire frame member
    rw [grows frame.peer frame.topic pinned]
    exact ⟨pinned, pid, List.mem_append_left emitted published⟩
  cases input with
  | publish pid topic typeName bytes =>
      have pinned := network.pinned genuine
      cases stepped
      intro frame member
      rcases List.mem_append.mp member with known | isNew
      · exact old frame known
      · obtain ⟨sink, target, isFrame⟩ := List.mem_filterMap.mp isNew
        obtain ⟨accepted, has⟩ := LocalBus.has_of_target target
        have isType := LocalBus.typeName_of_accepts pinned accepted
        cases sink with
        | remote serial own peer =>
            cases isFrame
            obtain ⟨rfl, sameType, _⟩ :=
              (network.planes pid).remotes topic serial own peer has
            have peerPinned : fabric.typeOf peer own ≠ [] := by
              rwa [sameType]
            rw [grows peer own peerPinned]
            refine ⟨peerPinned, pid, List.mem_append_right events ?_⟩
            rw [sameType, Fabric.typeOf, isType]
            exact List.mem_cons_self
        | subscriber _ _ _ =>
            cases isFrame
        | shm _ _ _ =>
            cases isFrame
  | arrive index =>
      obtain ⟨_, _, rfl, rfl⟩ := Fabric.arrive_eq_some stepped
      intro frame member
      exact old frame (List.mem_of_mem_eraseIdx member)
  | createPublisher pid topic typeName reliability =>
      cases stepped
      exact old
  | createSubscriber pid topic typeName reliability =>
      cases stepped
      exact old
  | handleMatch pid m outcome =>
      cases stepped
      exact old
  | handleUnmatch pid m =>
      cases stepped
      exact old
  | poll pid =>
      cases stepped
      exact old

/-- What a step enqueues on a subscriber was published with its type. -/
theorem TypedNetwork.safe_step
    (network : TypedNetwork channels fabric events)
    (separated : Separated channels)
    (genuine : discovered fabric input = true)
    (stepped : fabric.step input = some (target, emitted))
    {pid serial : Nat} {topic typeName : Text} {bytes : Bytes}
    (enqueued :
      .enqueued pid (.subscriber serial topic typeName) bytes ∈ emitted) :
    ∃ publisher,
      .published publisher topic typeName bytes ∈ events ++ emitted := by
  cases input with
  | publish publisher published sentType sent =>
      have pinned := network.pinned genuine
      cases stepped
      rcases List.mem_cons.mp enqueued with equal | member
      · cases equal
      · obtain ⟨sink, target, isCall⟩ := List.mem_filterMap.mp member
        obtain ⟨accepted, has⟩ := LocalBus.has_of_target target
        have isType := LocalBus.typeName_of_accepts pinned accepted
        cases sink with
        | subscriber number own its =>
            cases isCall
            obtain ⟨rfl, sameType, _⟩ :=
              (network.planes pid).subscribers published serial topic typeName
                has
            refine ⟨pid, List.mem_append_right events ?_⟩
            rw [sameType, Fabric.typeOf, isType]
            exact List.mem_cons_self
        | remote _ _ _ =>
            cases isCall
        | shm _ _ _ =>
            cases isCall
  | poll poller =>
      cases stepped
      rcases List.mem_append.mp enqueued with isRead | isCall
      · obtain ⟨_, _, equal⟩ := List.mem_map.mp isRead
        cases equal
      · obtain ⟨⟨sink, content⟩, call, equal⟩ := List.mem_map.mp isCall
        cases equal
        obtain ⟨delivery, isRead, rfl, isSink⟩ :=
          DataPlane.pollOnce_calls call
        obtain ⟨rfl, sameType, _⟩ :=
          (network.planes pid).subscribers delivery.topic serial topic typeName
            (Or.inl isSink)
        -- The segment names its writer, whose type is that of the reader.
        obtain ⟨owner, memories, planes⟩ := network.sound
        obtain ⟨writer, ⟨_, published⟩, named⟩ :=
          ((planes pid).pollOnce (memories _) separated).2 delivery isRead
        obtain ⟨readers, key, entry, held, found, entryTopic, entryName, _⟩ :=
          DataPlane.entry_of_read isRead
        obtain ⟨other, itsName, writerType, _⟩ :=
          (network.planes pid).readers readers key entry held found
        rw [← entryTopic, ← entryName, named] at itsName
        have same := (cStr_segName_eq_iff.mp (congrArg cStr itsName)).1
        rw [← entryTopic, ← same] at writerType
        refine ⟨writer, List.mem_append_left _ ?_⟩
        rw [sameType, ← writerType]
        exact published
  | arrive index =>
      obtain ⟨frame, onWire, rfl, rfl⟩ := Fabric.arrive_eq_some stepped
      obtain ⟨⟨sink, content⟩, call, equal⟩ := List.mem_map.mp enqueued
      cases equal
      simp only [DataPlane.deliverInbound, List.mem_map, Prod.mk.injEq]
        at call
      obtain ⟨found, isTarget, rfl, rfl⟩ := call
      obtain ⟨rfl, sameType, _⟩ :=
        (network.planes frame.peer).subscribers frame.topic serial topic
          typeName
          (Or.inl
            (((fabric.planes frame.peer).bus.within_deliverInbound
              (fabric.planes frame.peer).alive frame.topic).2 isTarget))
      obtain ⟨_, publisher, published⟩ :=
        network.wire frame (List.mem_of_getElem? onWire)
      refine ⟨publisher, List.mem_append_left _ ?_⟩
      rw [sameType]
      exact published
  | _ =>
      cases stepped
      cases enqueued

theorem TypedNetwork.step
    (network : TypedNetwork channels fabric events)
    (separated : Separated channels)
    (allowed : TypedOn channels fabric input)
    (stepped : fabric.step input = some (target, emitted)) :
    TypedNetwork channels target (events ++ emitted) := by
  obtain ⟨genuine, agree, onChannels⟩ := allowed
  have grows := network.typesGrow genuine stepped
  refine ⟨network.registered_step genuine stepped,
    network.planes_step genuine agree stepped,
    network.wire_step genuine stepped, ?_, ?_⟩
  · refine network.sound.step separated ?_ ?_ onChannels stepped
    · rintro pid topic bytes ⟨pinned, published⟩
      unfold TypedMessage
      rw [grows pid topic pinned]
      exact ⟨pinned, List.mem_append_left emitted published⟩
    · rintro pid topic typeName bytes rfl accepted
      have pinned := network.pinned genuine
      unfold TypedMessage
      rw [grows pid topic pinned]
      refine ⟨pinned, List.mem_append_right events ?_⟩
      rw [Fabric.typeOf, LocalBus.typeName_of_accepts pinned accepted]
      cases stepped
      exact List.mem_cons_self
  · intro pid serial topic typeName bytes enqueued
    rcases List.mem_append.mp enqueued with earlier | now
    · obtain ⟨publisher, published⟩ :=
        network.safe pid serial topic typeName bytes earlier
      exact ⟨publisher, List.mem_append_left emitted published⟩
    · exact network.safe_step separated genuine stepped now

end Steps

theorem TypedNetwork.started
    (channels : Nat → Text → Prop) (hosts : Nat → Text) (shm : Nat → Bool) :
    TypedNetwork channels (Fabric.started hosts shm) [] where
  registered pid endpoint member := by cases member
  planes pid := by
    have nothing (topic : Text) (sink : SinkHandle) :
        ¬ ((Fabric.started hosts shm).planes pid).bus.Has topic sink := by
      simp [Fabric.started, DataPlane.started, LocalBus.Has, LocalBus.entry,
        LocalBus.empty]
    refine ⟨fun _ _ _ _ has => absurd has (nothing _ _),
      fun _ _ _ _ has => absurd has (nothing _ _), ?_⟩
    rintro readers key entry ⟨rfl⟩ found
    simp at found
  wire frame member := by cases member
  sound := FabricSound.started channels _ hosts shm
  safe _ _ _ _ _ member := by cases member

end MiniMiddleware.Core
