import MiniMiddleware.Core.ChannelsFollow
import MiniMiddleware.Discovery.FirstPairs

/-!
# Two nodes on one host agree on their routes

Two nodes exchange announcements and match their endpoints independently.
Each end records, for a topic, the first compatible pair it meets, and takes
the route from that pair: shared memory if the subscriber of the pair asks for
best effort, TCP otherwise.  The ends walk the two endpoint lists in opposite
nesting and at different times, so they may record different pairs.

Whatever the order of events, a recorded pair is minimal in the componentwise
order of positions in the final lists.  If the minimal pairs of a topic agree
on the reliability of their subscribers, so do the two ends.
-/

namespace MiniMiddleware.Core

open MiniMiddleware.Library MiniMiddleware.Discovery MiniMiddleware.Transport

/-- The two ends. -/
inductive Side where
  | a
  | b
  deriving DecidableEq, Repr

/-- The opposite end. -/
def Side.other : Side → Side
  | .a => .b
  | .b => .a

@[simp]
theorem Side.other_other (side : Side) : side.other.other = side := by
  cases side <;> rfl

@[simp]
theorem Side.other_ne (side : Side) : side.other ≠ side := by
  cases side <;> decide

/-- Two participants on one host with a host id. -/
structure PairConfig where
  pid : Side → Nat
  host : Text
  distinct : ∀ side : Side, pid side.other ≠ pid side
  named : host ≠ []

/-- Both nodes, the shared memory of their host, and the announcements each
has sent so far. -/
structure NodePair where
  nodes : Side → Node
  memory : SharedMemory
  sent : Side → List ParticipantAnnouncement

/-- A step of one of the nodes.  `failures` lists the segments whose creation
fails in this step. -/
structure PairInput where
  side : Side
  agent : AgentInput
  failures : List (Text × CreateOutcome) := []
  deriving DecidableEq, Repr

/-- How the creation of a segment goes. -/
def PairInput.outcomes (input : PairInput) (name : Text) : CreateOutcome :=
  (input.failures.lookup name).getD .created

/-- The announcements among the events of a step. -/
def announcements (events : List AgentEvent) : List ParticipantAnnouncement :=
  events.filterMap fun event =>
    match event with
    | .announced announcement => some announcement
    | _ => none

/-- A node receives what one of the two has sent, in any order and any number
of times, and nobody times out. -/
def NodePair.allows (pair : NodePair) (input : PairInput) : Bool :=
  match input.agent with
  | .addEndpoint _ => true
  | .receive none _ => true
  | .receive (some announcement) _ =>
      announcement ∈ pair.sent .a ∨ announcement ∈ pair.sent .b
  | .advance _ now =>
      (pair.nodes input.side).loop.pc = .reaping →
        (pair.nodes input.side).loop.agent.deadIds now = []

/-- One step of one node. -/
def NodePair.step (pair : NodePair) (input : PairInput) :
    Option (NodePair × List (Side × AgentEvent)) :=
  if pair.allows input then
    let node := pair.nodes input.side
    match node.loop.step input.agent with
    | none => none
    | some (loop, events) =>
        let after :=
          onEvents input.outcomes events (node.plane, pair.memory)
        some
          ({ nodes := Function.update pair.nodes input.side ⟨loop, after.1⟩
             memory := after.2
             sent :=
               Function.update pair.sent input.side
                 (pair.sent input.side ++ announcements events) },
            events.map fun event => (input.side, event))
  else
    none

/-- A node of the pair right after its constructor. -/
structure NodePair.FreshSide (config : PairConfig) (side : Side) (node : Node) :
    Prop where
  fresh : node.Fresh
  participantId : node.loop.agent.participantId = config.pid side
  hostId : node.loop.agent.hostId = config.host
  localPid : node.plane.localPid = config.pid side
  localHostId : node.plane.localHostId = config.host
  shmEnabled : node.plane.shmEnabled = true
  shmPub : ∀ topic : Text, topic ∉ node.plane.shmPub
  shmSubRef : ∀ name : Text, name ∉ node.plane.shmSubRef
  shmReaders :
    ∃ readers, node.plane.shmReaders = some readers ∧
      ∀ name : Text, name ∉ readers

/-- Two fresh nodes that have sent nothing. -/
structure NodePair.Fresh (config : PairConfig) (pair : NodePair) : Prop where
  sides : ∀ side, NodePair.FreshSide config side (pair.nodes side)
  sent : ∀ side, pair.sent side = []

/-- Two nodes as a machine. -/
def nodePairMachine (config : PairConfig) :
    Machine NodePair PairInput (Side × AgentEvent) where
  initial := NodePair.Fresh config
  step := NodePair.step

/-! ## The invariant of one side -/

/-- An announcement that this side may have sent while it had these
endpoints. -/
structure AnnouncedBy (config : PairConfig) (side : Side)
    (endpoints : List EndpointInfo) (announcement : ParticipantAnnouncement) :
    Prop where
  participantId : announcement.participantId = config.pid side
  hostId : announcement.hostId = config.host
  endpoints : announcement.endpoints <+: endpoints

/-- What holds of one side: its identity, its agent and channels, that its
announcements and what it has stored are prefixes of the lists they come from,
and that its matches are with the peer and at minimal positions. -/
structure SideInvariant (config : PairConfig) (side : Side) (node : Node)
    (peer : List EndpointInfo) (sent : List ParticipantAnnouncement) :
    Prop where
  participantId : node.loop.agent.participantId = config.pid side
  hostId : node.loop.agent.hostId = config.host
  localPid : node.plane.localPid = config.pid side
  localHostId : node.plane.localHostId = config.host
  shmEnabled : node.plane.shmEnabled = true
  agent : AgentInvariant (fun _ _ => True) node.loop
  channels : ChannelsFollow node.loop.agent.activeMatches node.plane
  truthful :
    ∀ announcement ∈ sent,
      AnnouncedBy config side node.loop.agent.localEndpoints announcement
  stored :
    ∀ (id : Nat) (remote : Remote),
      node.loop.agent.remotes[id]? = some remote →
        id = config.pid side.other ∧ remote.hostId = config.host ∧
          remote.endpoints <+: peer
  active :
    ∀ (key : Text) (m : MatchInfo),
      node.loop.agent.activeMatches[key]? = some m →
        RecordsMinimal node.loop.agent.localEndpoints peer m ∧
          m.remoteParticipantId = config.pid side.other ∧
          m.remoteHostId = config.host

section SideSteps

variable {config : PairConfig} {side : Side} {node : Node}
  {peer : List EndpointInfo} {sent : List ParticipantAnnouncement}

/-- A side stays as it is when the other side's endpoint list grows. -/
theorem SideInvariant.peerGrows
    {grown : List EndpointInfo}
    (invariant : SideInvariant config side node peer sent)
    (grows : peer <+: grown) :
    SideInvariant config side node grown sent := by
  obtain ⟨participantId, hostId, localPid, localHostId, shmEnabled, agent,
    channels, truthful, stored, active⟩ := invariant
  refine ⟨participantId, hostId, localPid, localHostId, shmEnabled, agent,
    channels, truthful, ?_, ?_⟩
  · intro id remote found
    obtain ⟨known, host, isPrefix⟩ := stored id remote found
    exact ⟨known, host, isPrefix.trans grows⟩
  · intro key m found
    obtain ⟨records, known⟩ := active key m found
    exact ⟨records.extend List.prefix_rfl grows, known⟩

theorem mem_announcements
    {events : List AgentEvent} {own announcement : ParticipantAnnouncement}
    (silent : ∀ event ∈ events, event = .announced own)
    (member : announcement ∈ announcements events) : announcement = own := by
  simp only [announcements, List.mem_filterMap] at member
  obtain ⟨event, present, shown⟩ := member
  rw [silent event present] at shown
  exact (Option.some.inj shown).symm

theorem announcements_matched (matched : List MatchInfo) :
    announcements (matched.map .matched) = [] := by
  simp [announcements, List.filterMap_map]

/-- A step that leaves the identity and the endpoints of the agent alone, sends
nothing and stores nothing. -/
theorem SideInvariant.quiet
    {loop : AgentLoop} {plane : DataPlane}
    (invariant : SideInvariant config side node peer sent)
    (agent : AgentInvariant (fun _ _ => True) loop)
    (same : DataPlane.SameIdentity node.plane plane)
    (channels : ChannelsFollow loop.agent.activeMatches plane)
    (frame :
      loop.agent =
        { node.loop.agent with
          activeMatches := loop.agent.activeMatches
          endpointsDirty := loop.agent.endpointsDirty })
    (active :
      ∀ (key : Text) (m : MatchInfo),
        loop.agent.activeMatches[key]? = some m →
          RecordsMinimal node.loop.agent.localEndpoints peer m ∧
            m.remoteParticipantId = config.pid side.other ∧
            m.remoteHostId = config.host) :
    SideInvariant config side ⟨loop, plane⟩ peer sent where
  participantId := by
    rw [frame]
    exact invariant.participantId
  hostId := by
    rw [frame]
    exact invariant.hostId
  localPid := same.localPid.trans invariant.localPid
  localHostId := same.localHostId.trans invariant.localHostId
  shmEnabled := same.shmEnabled.trans invariant.shmEnabled
  agent := agent
  channels := channels
  truthful := by
    rw [frame]
    exact invariant.truthful
  stored := by
    rw [frame]
    exact invariant.stored
  active := by
    have endpoints :
        loop.agent.localEndpoints = node.loop.agent.localEndpoints := by
      rw [frame]
    rw [endpoints]
    exact active

/-- A step of this side, which receives what one of the two has sent and finds
nobody dead. -/
theorem SideInvariant.step
    {input : AgentInput} {loop : AgentLoop} {emitted : List AgentEvent}
    (invariant : SideInvariant config side node peer sent)
    (received :
      ∀ announcement now, input = .receive (some announcement) now →
        AnnouncedBy config side node.loop.agent.localEndpoints announcement ∨
          AnnouncedBy config side.other peer announcement)
    (living :
      ∀ announces now, input = .advance announces now →
        node.loop.pc = .reaping → node.loop.agent.deadIds now = [])
    (memory : SharedMemory)
    (stepped : node.loop.step input = some (loop, emitted)) :
    SideInvariant config side
      ⟨loop, (onEvents (fun _ => .created) emitted (node.plane, memory)).1⟩
      peer (sent ++ announcements emitted) := by
  have agent :=
    invariant.agent.step (fun _ _ _ _ _ _ => recorded_tryMatch) stepped
  have same :=
    sameIdentity_onEvents (fun _ => .created) emitted
      invariant.channels.sinks.stopped memory
  cases AgentLoop.steps_of_step stepped with
  | added endpoint =>
      have grows :
          node.loop.agent.localEndpoints <+:
            (node.loop.agent.addEndpoint endpoint).localEndpoints :=
        List.prefix_append _ _
      refine ⟨invariant.participantId, invariant.hostId, invariant.localPid,
        invariant.localHostId, invariant.shmEnabled, agent, invariant.channels,
        ?_, invariant.stored, ?_⟩
      · intro announcement member
        rw [announcements, List.filterMap_nil, List.append_nil] at member
        obtain ⟨participant, host, isPrefix⟩ :=
          invariant.truthful announcement member
        exact ⟨participant, host, isPrefix.trans grows⟩
      · intro key m found
        obtain ⟨records, known⟩ := invariant.active key m found
        exact ⟨records.extend grows List.prefix_rfl, known⟩
  | ignored announcement now _ =>
      rw [announcements, List.filterMap_nil, List.append_nil]
      exact invariant.quiet agent same invariant.channels rfl invariant.active
  | stored announcement now _ foreign =>
      rw [announcements, List.filterMap_nil, List.append_nil]
      have fromPeer : AnnouncedBy config side.other peer announcement := by
        rcases received announcement now rfl with own | fromPeer
        · exact
            absurd (own.participantId.trans invariant.participantId.symm) foreign
        · exact fromPeer
      refine ⟨invariant.participantId, invariant.hostId, invariant.localPid,
        invariant.localHostId, invariant.shmEnabled, agent, invariant.channels,
        invariant.truthful, ?_, invariant.active⟩
      intro id remote found
      simp only [DiscoveryAgent.storeRemote, Std.TreeMap.getElem?_insert]
        at found
      split at found
      · rename_i equal
        cases found
        exact ⟨(Std.compare_eq_iff_eq.mp equal).symm.trans fromPeer.participantId,
          fromPeer.hostId, fromPeer.endpoints⟩
      · exact invariant.stored id remote found
  | moved announces now next _ silent =>
      have channels :
          ChannelsFollow node.loop.agent.activeMatches
            (onEvents (fun _ => .created) emitted (node.plane, memory)).1 := by
        rw [onEvents_announced _ silent]
        exact invariant.channels
      refine ⟨invariant.participantId, invariant.hostId,
        same.localPid.trans invariant.localPid,
        same.localHostId.trans invariant.localHostId,
        same.shmEnabled.trans invariant.shmEnabled, agent, channels, ?_,
        invariant.stored, invariant.active⟩
      intro announcement member
      rcases List.mem_append.mp member with old | fresh
      · exact invariant.truthful announcement old
      · cases mem_announcements silent fresh
        exact ⟨invariant.participantId, invariant.hostId, List.prefix_rfl⟩
  | tried announces now remoteId remote next pending =>
      rw [announcements_matched, List.append_nil]
      refine invariant.quiet agent same
        (invariant.channels.tryMatch memory remoteId remote) rfl ?_
      intro key m found
      obtain ⟨known, host, isPrefix⟩ :=
        invariant.stored remoteId remote
          (stored_of_nextMatch invariant.agent.carries pending)
      rcases recordsMinimal_tryMatch found with old | ⟨records, participant, same⟩
      · exact invariant.active key m old
      · exact ⟨records.extend List.prefix_rfl isPrefix,
          participant.trans known, same.trans host⟩
  | exchanged announces now =>
      rw [announcements, List.filterMap_nil, List.append_nil]
      exact invariant.quiet agent same invariant.channels rfl invariant.active
  | reaped announces now atReaping =>
      have nobody := living announces now rfl atReaping
      have unchanged :
          node.loop.agent.reapDead now = (node.loop.agent, []) := by
        rw [DiscoveryAgent.reapDead, nobody]
        rfl
      rw [unchanged] at agent same ⊢
      rw [List.map_nil, announcements, List.filterMap_nil, List.append_nil]
      exact invariant.quiet agent same invariant.channels rfl invariant.active

end SideSteps

/-! ## Both sides -/

/-- The invariant of the pair. -/
def PairInvariant (config : PairConfig) (pair : NodePair) : Prop :=
  ∀ side,
    SideInvariant config side (pair.nodes side)
      (pair.nodes side.other).loop.agent.localEndpoints (pair.sent side)

/-- The guard under which every segment can be created. -/
def createsAll (_pair : NodePair) (input : PairInput) : Prop :=
  input.failures = []

instance (pair : NodePair) (input : PairInput) :
    Decidable (createsAll pair input) :=
  inferInstanceAs (Decidable (input.failures = []))

theorem PairInvariant.step
    {config : PairConfig} {pair target : NodePair} {input : PairInput}
    {emitted : List (Side × AgentEvent)}
    (invariant : PairInvariant config pair)
    (creates : createsAll pair input)
    (stepped : pair.step input = some (target, emitted)) :
    PairInvariant config target := by
  obtain ⟨acting, agentInput, failures⟩ := input
  cases creates
  unfold NodePair.step at stepped
  split at stepped
  · rename_i allowed
    dsimp only at stepped
    split at stepped
    · cases stepped
    · rename_i loop events moved
      cases stepped
      have acts :=
        (invariant acting).step
          (by
            rintro announcement now rfl
            simp only [NodePair.allows, decide_eq_true_eq] at allowed
            cases acting with
            | a =>
                exact allowed.imp ((invariant .a).truthful _)
                  ((invariant .b).truthful _)
            | b =>
                exact allowed.symm.imp ((invariant .b).truthful _)
                  ((invariant .a).truthful _))
          (by
            rintro announces now rfl
            exact of_decide_eq_true allowed)
          pair.memory moved
      have grows :=
        localEndpoints_grow (AgentLoop.steps_of_step moved)
      intro side
      by_cases mine : side = acting
      · subst mine
        simp only [Function.update_self,
          Function.update_of_ne (Side.other_ne side)]
        exact acts
      · have opposite : side = acting.other := by
          cases side <;> cases acting <;> first | rfl | exact absurd rfl mine
        subst opposite
        simp only [Side.other_other, Function.update_self,
          Function.update_of_ne (Side.other_ne acting)]
        have waits := invariant acting.other
        rw [Side.other_other] at waits
        exact waits.peerGrows grows
  · cases stepped

theorem NodePair.FreshSide.invariant
    {config : PairConfig} {side : Side} {node : Node}
    (fresh : NodePair.FreshSide config side node) (peer : List EndpointInfo) :
    SideInvariant config side node peer [] := by
  have noMatches (key : Text) :
      node.loop.agent.activeMatches[key]? = none :=
    fresh.fresh.loop.activeMatches key
  have noneActive (m : MatchInfo) :
      ¬ InTable node.loop.agent.activeMatches m := by
    rintro ⟨key, found⟩
    rw [noMatches] at found
    cases found
  obtain ⟨readers, held, noReaders⟩ := fresh.shmReaders
  refine ⟨fresh.participantId, fresh.hostId, fresh.localPid, fresh.localHostId,
    fresh.shmEnabled, fresh.fresh.loop.invariant _,
    ⟨fresh.fresh.invariant.sinks, ?_, readers, held, ?_, ?_, ?_⟩, ?_, ?_, ?_⟩
  · intro topic
    simp [fresh.shmPub topic, noneActive]
  · intro name
    simp [fresh.shmSubRef name, noReaders name]
  · intro m active
    exact absurd active (noneActive m)
  · intro name entry found
    rw [Std.TreeMap.getElem?_eq_none (noReaders name)] at found
    cases found
  · simp
  · intro id remote found
    rw [fresh.fresh.loop.remotes] at found
    cases found
  · intro key m found
    rw [noMatches] at found
    cases found

theorem pairInvariant_of_run
    {config : PairConfig} {inputs : List PairInput} {pair : NodePair}
    {events : List (Side × AgentEvent)}
    (run : (nodePairMachine config).Run createsAll inputs pair events) :
    PairInvariant config pair := by
  refine run.invariant (fun pair _ => PairInvariant config pair) ?_ ?_
  · intro pair fresh side
    rw [fresh.sent side]
    exact (fresh.sides side).invariant _
  · intro pair _ input target emitted invariant creates stepped
    exact invariant.step creates stepped

/-! ## Agreement -/

/-- The subscriber of a compatible pair of this topic at a minimal position. -/
def FirstSubscriber (publishers subscribers : List EndpointInfo) (topic : Text)
    (subscriber : EndpointInfo) : Prop :=
  ∃ position,
    subscribers[position.2]? = some subscriber ∧
      Minimal (Pairing publishers subscribers topic) position

/-- The condition on the endpoint lists: the first pairs of a topic agree on
the reliability of their subscribers, and topics with best-effort first pairs
have segments of their own. -/
structure Unambiguous (writer : Nat)
    (publishers subscribers : List EndpointInfo) : Prop where
  reliability :
    ∀ topic left right,
      FirstSubscriber publishers subscribers topic left →
        FirstSubscriber publishers subscribers topic right →
        left.reliability = 0 → right.reliability = 0
  segment :
    ∀ leftTopic rightTopic left right,
      FirstSubscriber publishers subscribers leftTopic left →
        FirstSubscriber publishers subscribers rightTopic right →
        left.reliability = 0 → right.reliability = 0 →
        segName writer leftTopic = segName writer rightTopic →
        leftTopic = rightTopic

/-- A side has processed the final announcement of the other and has no
pending rematch. -/
structure NodePair.SettledSide (config : PairConfig) (pair : NodePair)
    (side : Side) : Prop where
  pc : (pair.nodes side).loop.pc = .receiving
  clean : (pair.nodes side).loop.agent.endpointsDirty = false
  known :
    ∃ remote,
      (pair.nodes side).loop.agent.remotes[config.pid side.other]? =
          some remote ∧
        remote.endpoints = (pair.nodes side.other).loop.agent.localEndpoints

/-- The data plane has a reader that delivers a topic from a writer's
segment. -/
def DataPlane.ReadsFrom (plane : DataPlane) (writer : Nat) (topic : Text) :
    Prop :=
  ∃ readers entry,
    plane.shmReaders = some readers ∧
      readers[segName writer topic]? = some entry ∧ entry.topic = topic

/-- The data plane has a TCP sink to a peer for a topic. -/
def DataPlane.SendsTo (plane : DataPlane) (peer : Nat) (topic : Text) : Prop :=
  ∃ (key : Text) (serial : Nat),
    plane.sinks[key]? = some (.remote serial topic peer)

section Agreement

variable {config : PairConfig} {pair : NodePair} {side : Side}
  {le re : EndpointInfo}

/-- In a settled pair, a compatible pair of endpoints has an active match of
its kinds and topic. -/
theorem PairInvariant.recorded
    (invariant : PairInvariant config pair)
    (settled : pair.SettledSide config side)
    (localMember : le ∈ (pair.nodes side).loop.agent.localEndpoints)
    (remoteMember : re ∈ (pair.nodes side.other).loop.agent.localEndpoints)
    (paired : pairMatches le re) :
    ∃ m, InTable (pair.nodes side).loop.agent.activeMatches m ∧
      m.localEndpoint.kind = le.kind ∧ m.localEndpoint.topic = le.topic := by
  obtain ⟨remote, known, endpoints⟩ := settled.known
  let m : MatchInfo :=
    ⟨le, re, remote.locator, config.pid side.other, remote.hostId⟩
  have member :
      m ∈ remote.matches (config.pid side.other)
        (pair.nodes side).loop.agent.localEndpoints :=
    mem_matchEndpoints.mpr
      ⟨localMember, endpoints ▸ remoteMember, paired, rfl, rfl, rfl⟩
  obtain ⟨recorded, found, _⟩ :=
    (invariant side).agent.recorded settled.clean _ remote known
      (by rw [settled.pc]; exact id) m member
  have genuine := (invariant side).agent.genuine _ _ found
  obtain ⟨kind, _, topic, _⟩ :=
    (matchKey_eq_iff genuine.paired paired).mp
      genuine.key
  exact ⟨recorded, ⟨_, found⟩, kind, topic⟩

/-- An active publisher's match takes its route from the reliability of a
first subscriber. -/
theorem PairInvariant.publisherRoute
    (invariant : PairInvariant config pair) {m : MatchInfo}
    (active : InTable (pair.nodes side).loop.agent.activeMatches m)
    (publisher : m.localEndpoint.kind = .publisher) :
    FirstSubscriber (pair.nodes side).loop.agent.localEndpoints
        (pair.nodes side.other).loop.agent.localEndpoints
        m.localEndpoint.topic m.remoteEndpoint ∧
      (pair.nodes side).plane.route m =
        if m.remoteEndpoint.reliability = 0 then .shmPub else .tcpPub := by
  obtain ⟨key, found⟩ := active
  obtain ⟨records, _, host⟩ := (invariant side).active key m found
  have genuine := (invariant side).agent.genuine key m found
  obtain ⟨position, _, remoteAt, minimal⟩ := records.publishing publisher
  refine ⟨⟨position, remoteAt, minimal⟩, ?_⟩
  have subscriber := subscriber_of_publisher genuine.paired publisher
  simp [DataPlane.route, pubsubPair, DataPlane.useShm, DataPlane.sameHost,
    publisher, subscriber, host, (invariant side).shmEnabled,
    (invariant side).localHostId, config.named]

/-- So does an active subscriber's match. -/
theorem PairInvariant.subscriberRoute
    (invariant : PairInvariant config pair) {m : MatchInfo}
    (active : InTable (pair.nodes side.other).loop.agent.activeMatches m)
    (subscriber : m.localEndpoint.kind = .subscriber) :
    FirstSubscriber (pair.nodes side).loop.agent.localEndpoints
        (pair.nodes side.other).loop.agent.localEndpoints
        m.localEndpoint.topic m.localEndpoint ∧
      m.remoteParticipantId = config.pid side ∧
      (pair.nodes side.other).plane.route m =
        if m.localEndpoint.reliability = 0 then .shmSub else .ignored := by
  obtain ⟨key, found⟩ := active
  obtain ⟨records, participant, host⟩ :=
    (invariant side.other).active key m found
  have genuine := (invariant side.other).agent.genuine key m found
  obtain ⟨position, _, localAt, minimal⟩ := records.subscribing subscriber
  rw [Side.other_other] at minimal participant
  rw [← genuine.topic] at minimal
  refine ⟨⟨position, localAt, minimal⟩, participant, ?_⟩
  have publisher := publisher_of_subscriber genuine.paired subscriber
  simp [DataPlane.route, pubsubPair, DataPlane.useShm, DataPlane.sameHost,
    publisher, subscriber, host, (invariant side.other).shmEnabled,
    (invariant side.other).localHostId, config.named]

/-- The writer of a topic stands for a best-effort first subscriber. -/
theorem PairInvariant.writer
    (invariant : PairInvariant config pair) (topic : Text) :
    topic ∈ (pair.nodes side).plane.shmPub ↔
      ∃ m, InTable (pair.nodes side).loop.agent.activeMatches m ∧
        m.localEndpoint.kind = .publisher ∧ m.localEndpoint.topic = topic ∧
        m.remoteEndpoint.reliability = 0 := by
  rw [(invariant side).channels.writers topic]
  constructor
  · rintro ⟨m, active, routed, sameTopic⟩
    have publisher := DataPlane.kind_of_route.1 (Or.inl routed)
    rw [(invariant.publisherRoute active publisher).2] at routed
    exact ⟨m, active, publisher, sameTopic, by simpa using routed⟩
  · rintro ⟨m, active, publisher, sameTopic, bestEffort⟩
    refine ⟨m, active, ?_, sameTopic⟩
    rw [(invariant.publisherRoute active publisher).2, if_pos bestEffort]

/-- The TCP sinks of a topic stand for the other first subscribers. -/
theorem PairInvariant.sender
    (invariant : PairInvariant config pair) (topic : Text) :
    (pair.nodes side).plane.SendsTo (config.pid side.other) topic ↔
      ∃ m, InTable (pair.nodes side).loop.agent.activeMatches m ∧
        m.localEndpoint.kind = .publisher ∧ m.localEndpoint.topic = topic ∧
        m.remoteEndpoint.reliability ≠ 0 := by
  have sinks := (invariant side).channels.sinks
  constructor
  · rintro ⟨key, serial, sink⟩
    obtain ⟨m, found, routed⟩ := sinks.justified key _ sink
    have publisher := DataPlane.kind_of_route.1 (Or.inr routed)
    obtain ⟨other, same⟩ := sinks.present key m found routed
    rw [sink, Option.some.injEq, SinkHandle.remote.injEq] at same
    rw [(invariant.publisherRoute ⟨key, found⟩ publisher).2] at routed
    exact ⟨m, ⟨key, found⟩, publisher, same.2.1.symm, by simpa using routed⟩
  · rintro ⟨m, ⟨key, found⟩, publisher, rfl, reliable⟩
    have routed := (invariant.publisherRoute ⟨key, found⟩ publisher).2
    rw [if_neg reliable] at routed
    obtain ⟨serial, sink⟩ := sinks.present key m found routed
    obtain ⟨_, participant, _⟩ := (invariant side).active key m found
    exact ⟨key, serial, participant ▸ sink⟩

/-- A reader of the peer stands for a best-effort first subscriber. -/
theorem PairInvariant.reader
    (invariant : PairInvariant config pair)
    (unambiguous :
      Unambiguous (config.pid side)
        (pair.nodes side).loop.agent.localEndpoints
        (pair.nodes side.other).loop.agent.localEndpoints)
    (topic : Text) :
    (pair.nodes side.other).plane.ReadsFrom (config.pid side) topic ↔
      ∃ m, InTable (pair.nodes side.other).loop.agent.activeMatches m ∧
        m.localEndpoint.kind = .subscriber ∧ m.localEndpoint.topic = topic ∧
        m.localEndpoint.reliability = 0 := by
  obtain ⟨readers, follow⟩ := (invariant side.other).channels.readers
  have justified {name : Text} {entry : ReaderEntry}
      (found : readers[name]? = some entry) :
      ∃ m, InTable (pair.nodes side.other).loop.agent.activeMatches m ∧
        m.localEndpoint.kind = .subscriber ∧
        m.localEndpoint.topic = entry.topic ∧
        m.localEndpoint.reliability = 0 ∧
        name = segName (config.pid side) entry.topic := by
    obtain ⟨m, active, routed, named, entryTopic⟩ :=
      follow.justified name entry found
    have subscriber := DataPlane.kind_of_route.2 routed
    obtain ⟨_, participant, effect⟩ :=
      invariant.subscriberRoute active subscriber
    rw [effect] at routed
    refine ⟨m, active, subscriber, entryTopic.symm, by simpa using routed, ?_⟩
    rw [named, segmentOf, participant, entryTopic]
  constructor
  · rintro ⟨held, entry, isHeld, found, rfl⟩
    cases isHeld.symm.trans follow.held
    obtain ⟨m, active, subscriber, sameTopic, bestEffort, _⟩ := justified found
    exact ⟨m, active, subscriber, sameTopic, bestEffort⟩
  · rintro ⟨m, active, subscriber, rfl, bestEffort⟩
    obtain ⟨first, participant, routed⟩ :=
      invariant.subscriberRoute active subscriber
    rw [if_pos bestEffort] at routed
    have present := follow.present m active routed
    rw [segmentOf, participant] at present
    obtain ⟨entry, found⟩ :=
      Option.isSome_iff_exists.mp
        (Std.TreeMap.mem_iff_isSome_getElem?.mp present)
    refine ⟨readers, entry, follow.held, found, ?_⟩
    obtain ⟨other, otherActive, otherSubscriber, otherTopic, otherBestEffort,
      named⟩ := justified found
    have otherFirst :=
      (invariant.subscriberRoute otherActive otherSubscriber).1
    rw [otherTopic] at otherFirst
    exact
      (unambiguous.segment _ _ _ _ first otherFirst bestEffort otherBestEffort
        named).symm

/-- Two publisher's matches of one topic with the same peer are one. -/
theorem PairInvariant.unique
    (invariant : PairInvariant config pair) {first second : MatchInfo}
    (firstActive : InTable (pair.nodes side).loop.agent.activeMatches first)
    (secondActive : InTable (pair.nodes side).loop.agent.activeMatches second)
    (sameKind : first.localEndpoint.kind = .publisher)
    (otherKind : second.localEndpoint.kind = .publisher)
    (sameTopic : first.localEndpoint.topic = second.localEndpoint.topic) :
    first = second := by
  obtain ⟨firstKey, firstFound⟩ := firstActive
  obtain ⟨secondKey, secondFound⟩ := secondActive
  have firstGenuine := (invariant side).agent.genuine _ _ firstFound
  have secondGenuine := (invariant side).agent.genuine _ _ secondFound
  have sameKey : matchKey first = matchKey second := by
    rw [matchKey_eq_iff firstGenuine.paired secondGenuine.paired]
    refine ⟨sameKind.trans otherKind.symm, ?_, sameTopic, ?_⟩
    · rw [subscriber_of_publisher firstGenuine.paired sameKind,
        subscriber_of_publisher secondGenuine.paired otherKind]
    · rw [((invariant side).active _ _ firstFound).2.1,
        ((invariant side).active _ _ secondFound).2.1]
  rw [firstGenuine.key, secondGenuine.key] at sameKey
  rw [sameKey, secondFound] at firstFound
  exact (Option.some.inj firstFound).symm

end Agreement

/-- In every run of two nodes on one host in which segments can be created and
nobody times out, once both sides are settled, if the first pairs of the
endpoint lists are unambiguous, then for every topic with a compatible pair
the publisher's side writes shared memory if and only if the subscriber's side
reads it, and sends over TCP if and only if it does not write. -/
theorem routes_agree
    {config : PairConfig} {inputs : List PairInput} {pair : NodePair}
    {events : List (Side × AgentEvent)}
    (run : (nodePairMachine config).Run createsAll inputs pair events)
    (settled : ∀ side, pair.SettledSide config side)
    (side : Side)
    (unambiguous :
      Unambiguous (config.pid side)
        (pair.nodes side).loop.agent.localEndpoints
        (pair.nodes side.other).loop.agent.localEndpoints)
    {le re : EndpointInfo}
    (localMember : le ∈ (pair.nodes side).loop.agent.localEndpoints)
    (remoteMember : re ∈ (pair.nodes side.other).loop.agent.localEndpoints)
    (publisher : le.kind = .publisher)
    (paired : pairMatches le re) :
    (le.topic ∈ (pair.nodes side).plane.shmPub ↔
        (pair.nodes side.other).plane.ReadsFrom (config.pid side) le.topic) ∧
      ((pair.nodes side).plane.SendsTo (config.pid side.other) le.topic ↔
        le.topic ∉ (pair.nodes side).plane.shmPub) := by
  have invariant := pairInvariant_of_run run
  obtain ⟨here, hereActive, hereKind, hereTopic⟩ :=
    invariant.recorded (settled side) localMember remoteMember paired
  obtain ⟨there, thereActive, thereKind, thereTopic⟩ :=
    invariant.recorded (settled side.other) remoteMember
      (by rwa [Side.other_other]) (by rwa [pairMatches_comm])
  rw [publisher] at hereKind
  rw [subscriber_of_publisher paired publisher] at thereKind
  rw [← topic_of_pairMatches paired] at thereTopic
  have hereFirst := (invariant.publisherRoute hereActive hereKind).1
  have thereFirst := (invariant.subscriberRoute thereActive thereKind).1
  rw [hereTopic] at hereFirst
  rw [thereTopic] at thereFirst
  rw [invariant.writer, invariant.reader unambiguous, invariant.sender]
  refine ⟨⟨?_, ?_⟩, ⟨?_, ?_⟩⟩
  · rintro ⟨m, active, kind, topic, bestEffort⟩
    cases invariant.unique active hereActive kind hereKind
      (topic.trans hereTopic.symm)
    exact ⟨there, thereActive, thereKind, thereTopic,
      unambiguous.reliability _ _ _ hereFirst thereFirst bestEffort⟩
  · rintro ⟨m, active, kind, topic, bestEffort⟩
    have first := (invariant.subscriberRoute active kind).1
    rw [topic] at first
    exact ⟨here, hereActive, hereKind, hereTopic,
      unambiguous.reliability _ _ _ first hereFirst bestEffort⟩
  · rintro ⟨m, active, kind, topic, reliable⟩
      ⟨other, otherActive, otherKind, otherTopic, bestEffort⟩
    cases invariant.unique active otherActive kind otherKind
      (topic.trans otherTopic.symm)
    exact reliable bestEffort
  · intro noWriter
    refine ⟨here, hereActive, hereKind, hereTopic, fun bestEffort => ?_⟩
    exact noWriter ⟨here, hereActive, hereKind, hereTopic, bestEffort⟩

/-! ## One topic on one host -/

/-- A publisher of topic `t` with a given reliability. -/
def publisherOf (reliability : Nat) : EndpointInfo :=
  { kind := .publisher
    topic := ['t']
    typeName := ['T']
    reliability := reliability }

/-- Participants 1 and 2 on host `h`. -/
def oneHost : PairConfig where
  pid side := if side = .a then 1 else 2
  host := ['h']
  distinct side := by cases side <;> decide
  named := by decide

/-- The two nodes before `start`. -/
def freshPair : NodePair where
  nodes side :=
    { loop :=
        ⟨{ nodeName := ['n']
           dataLocator := ⟨[], 0⟩
           participantId := oneHost.pid side
           hostId := ['h'] },
          .starting⟩
      plane := DataPlane.started (oneHost.pid side) ['h'] true }
  memory := SharedMemory.empty
  sent _ := []

theorem freshPair_fresh : NodePair.Fresh oneHost freshPair where
  sides side :=
    { fresh :=
        { loop := ⟨rfl, by simp [freshPair], by simp [freshPair]⟩
          stopped := rfl
          sinks := by simp [freshPair, DataPlane.started] }
      participantId := rfl
      hostId := rfl
      localPid := rfl
      localHostId := rfl
      shmEnabled := rfl
      shmPub := by simp [freshPair, DataPlane.started]
      shmSubRef := by simp [freshPair, DataPlane.started]
      shmReaders := ⟨∅, rfl, by simp⟩ }
  sent _ := rfl

/-- A side adds its endpoints and announces itself. -/
def introduce (side : Side) (endpoints : List EndpointInfo) : List PairInput :=
  endpoints.map (fun endpoint => { side, agent := .addEndpoint endpoint }) ++
    [{ side, agent := .advance false 0 }]

/-- A side receives the announcement of the other and completes the
iteration. -/
def learn (side : Side) (endpoints : List EndpointInfo) : List PairInput :=
  { side
    agent :=
      .receive
        (some ⟨oneHost.pid side.other, ['n'], ⟨[], 0⟩, endpoints, ['h']⟩) 0 } ::
    List.replicate 7 { side, agent := .advance false 0 }

/-- Both sides introduce themselves and learn of each other. -/
def meet (publishers subscribers : List EndpointInfo) : List PairInput :=
  introduce .a publishers ++ introduce .b subscribers ++
    learn .a subscribers ++ learn .b publishers

/-- Whether a side is settled with these endpoint lists. -/
def settledWith (pair : NodePair) (side : Side)
    (own peer : List EndpointInfo) : Bool :=
  let loop := (pair.nodes side).loop
  loop.pc = .receiving ∧ loop.agent.endpointsDirty = false ∧
    loop.agent.localEndpoints = own ∧
    loop.agent.remotes[oneHost.pid side.other]? =
      some ⟨['n'], peer, ⟨[], 0⟩, ['h'], 0⟩

theorem settledSide_of_settledWith
    {pair : NodePair} {publishers subscribers : List EndpointInfo}
    (first : settledWith pair .a publishers subscribers)
    (second : settledWith pair .b subscribers publishers) (side : Side) :
    pair.SettledSide oneHost side := by
  simp only [settledWith, decide_eq_true_eq] at first second
  cases side with
  | a =>
      exact ⟨first.1, first.2.1, _, first.2.2.2, second.2.2.1.symm⟩
  | b =>
      exact ⟨second.1, second.2.1, _, second.2.2.2, first.2.2.1.symm⟩

/-- One publisher and one best-effort subscriber agree on shared memory. -/
theorem routes_agree_bestEffort :
    ∃ pair events,
      (nodePairMachine oneHost).Run createsAll
          (meet [publisherOf 0] [subscriberOf 0]) pair events ∧
        ((['t'] : Text) ∈ (pair.nodes .a).plane.shmPub ↔
            (pair.nodes .b).plane.ReadsFrom 1 ['t']) ∧
          ((pair.nodes .a).plane.SendsTo 2 ['t'] ↔
            (['t'] : Text) ∉ (pair.nodes .a).plane.shmPub) := by
  obtain ⟨pair, events, run, checked⟩ :=
    Machine.run_of_exec_check (nodePairMachine oneHost) createsAll
      (meet [publisherOf 0] [subscriberOf 0]) freshPair
      (fun pair _ =>
        settledWith pair .a [publisherOf 0] [subscriberOf 0] &&
          settledWith pair .b [subscriberOf 0] [publisherOf 0])
      freshPair_fresh (by decide +kernel)
  rw [Bool.and_eq_true] at checked
  have publishers : (pair.nodes .a).loop.agent.localEndpoints = [publisherOf 0] := by
    have facts := checked.1
    simp only [settledWith, decide_eq_true_eq] at facts
    exact facts.2.2.1
  have subscribers :
      (pair.nodes .b).loop.agent.localEndpoints = [subscriberOf 0] := by
    have facts := checked.2
    simp only [settledWith, decide_eq_true_eq] at facts
    exact facts.2.2.1
  -- The only pair is the first one, whatever the topic.
  have first {topic : Text} {subscriber : EndpointInfo}
      (isFirst :
        FirstSubscriber [publisherOf 0] [subscriberOf 0] topic subscriber) :
      subscriber = subscriberOf 0 ∧ topic = ['t'] := by
    obtain ⟨position, subscriberAt, ⟨left, _, leftAt, _, _, isTopic, _⟩, _⟩ :=
      isFirst
    have sole := List.mem_singleton.mp (List.mem_of_getElem? leftAt)
    exact ⟨List.mem_singleton.mp (List.mem_of_getElem? subscriberAt),
      isTopic.symm.trans (by rw [sole]; rfl)⟩
  have unambiguous : Unambiguous 1 [publisherOf 0] [subscriberOf 0] :=
    { reliability := by
        intro topic left right _ isFirst _
        rw [(first isFirst).1]
        rfl
      segment := by
        intro leftTopic rightTopic left right isLeft isRight _ _ _
        rw [(first isLeft).2, (first isRight).2] }
  have localMember : publisherOf 0 ∈ (pair.nodes .a).loop.agent.localEndpoints := by
    rw [publishers]
    exact List.mem_cons_self
  have remoteMember :
      subscriberOf 0 ∈ (pair.nodes .b).loop.agent.localEndpoints := by
    rw [subscribers]
    exact List.mem_cons_self
  rw [← publishers, ← subscribers] at unambiguous
  exact ⟨pair, events, run,
    routes_agree run (settledSide_of_settledWith checked.1 checked.2) .a
      unambiguous localMember remoteMember rfl (by decide)⟩

/-- With two publishers and two subscribers of both reliabilities, listed in
opposite order, the publisher's side writes shared memory that nobody reads. -/
theorem routes_disagree :
    ¬ ∀ (inputs : List PairInput) (pair : NodePair)
        (events : List (Side × AgentEvent)) (le re : EndpointInfo),
        (nodePairMachine oneHost).Run createsAll inputs pair events →
        (∀ side, pair.SettledSide oneHost side) →
        le ∈ (pair.nodes .a).loop.agent.localEndpoints →
        re ∈ (pair.nodes .b).loop.agent.localEndpoints →
        le.kind = .publisher →
        pairMatches le re →
        (le.topic ∈ (pair.nodes .a).plane.shmPub ↔
          (pair.nodes .b).plane.ReadsFrom 1 le.topic) := by
  intro claimed
  obtain ⟨pair, events, run, checked⟩ :=
    Machine.run_of_exec_check (nodePairMachine oneHost) createsAll
      (meet [publisherOf 0, publisherOf 1] [subscriberOf 1, subscriberOf 0])
      freshPair
      (fun pair _ =>
        settledWith pair .a [publisherOf 0, publisherOf 1]
            [subscriberOf 1, subscriberOf 0] &&
          settledWith pair .b [subscriberOf 1, subscriberOf 0]
            [publisherOf 0, publisherOf 1] &&
          decide ((['t'] : Text) ∈ (pair.nodes .a).plane.shmPub) &&
          (pair.nodes .b).plane.shmReaders.any fun readers => readers.isEmpty)
      freshPair_fresh (by decide +kernel)
  simp only [Bool.and_eq_true, decide_eq_true_eq, Option.any_eq_true] at checked
  obtain ⟨⟨⟨first, second⟩, writes⟩, readers, held, noReaders⟩ := checked
  have settled := settledSide_of_settledWith first second
  simp only [settledWith, decide_eq_true_eq] at first second
  have agreed :=
    claimed _ pair events (publisherOf 0) (subscriberOf 0) run settled
      (by simp [first.2.2.1]) (by simp [second.2.2.1]) rfl (by decide)
  obtain ⟨others, entry, otherHeld, found, _⟩ := agreed.mp writes
  cases held.symm.trans otherHeld
  rw [Std.TreeMap.getElem?_of_isEmpty noReaders] at found
  cases found

end MiniMiddleware.Core
