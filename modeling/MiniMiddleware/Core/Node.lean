import MiniMiddleware.Core.DataPlane
import MiniMiddleware.Discovery.Coverage
import MiniMiddleware.Library.Machine

/-!
# A node: discovery wired to the data plane

`Node` passes every `on_match` to `handle_match` and every `on_unmatch` to
`handle_unmatch`, on the discovery thread.  The sinks of the data plane
therefore follow the active matches: under each key there is a TCP sink
exactly when the match recorded under that key is routed over TCP.

A pair is only recorded if its key is new, and keys name neither type nor
reliability.  So a reliable subscriber is served over TCP as long as the match
recorded for its key is not one routed over shared memory.
-/

namespace MiniMiddleware.Core

open MiniMiddleware.Library MiniMiddleware.Discovery MiniMiddleware.Transport

/-- The discovery agent with its thread, and the data plane it drives. -/
structure Node where
  loop : AgentLoop
  plane : DataPlane

/-- What the environment supplies to one step: the shared memory of the host,
and how the creation of a segment would go. -/
structure NodeInput where
  agent : AgentInput
  memory : SharedMemory
  outcomes : Text → CreateOutcome

/-- The callbacks set by the constructor of `Node`. -/
def onEvent (outcomes : Text → CreateOutcome)
    (state : DataPlane × SharedMemory) : AgentEvent → DataPlane × SharedMemory
  | .matched m =>
      state.1.handleMatch state.2 m
        (outcomes (segName state.1.localPid m.localEndpoint.topic))
  | .unmatched m => state.1.handleUnmatch state.2 m
  | .announced _ => state

/-- All callbacks of one step of the agent. -/
def onEvents (outcomes : Text → CreateOutcome) (events : List AgentEvent)
    (state : DataPlane × SharedMemory) : DataPlane × SharedMemory :=
  events.foldl (onEvent outcomes) state

/-- One step of a node. -/
def Node.step (node : Node) (input : NodeInput) :
    Option (Node × List AgentEvent) :=
  match node.loop.step input.agent with
  | none => none
  | some (loop, events) =>
      some
        (⟨loop, (onEvents input.outcomes events (node.plane, input.memory)).1⟩,
          events)

/-- A node right after its constructor: discovery knows nobody, and the data
plane has no channels. -/
structure Node.Fresh (node : Node) : Prop where
  loop : node.loop.Fresh
  stopped : node.plane.stopped = false
  sinks : ∀ key : Text, node.plane.sinks[key]? = none

/-- A node as a machine. -/
def nodeMachine : Machine Node NodeInput AgentEvent where
  initial := Node.Fresh
  step := Node.step

/-! ## Sinks follow the active matches -/

/-- Under a key there is a sink exactly when the active match of that key is
routed over TCP; the sink has the topic and the peer of that match. -/
structure SinksFollow (active : Std.TreeMap Text MatchInfo)
    (plane : DataPlane) : Prop where
  stopped : plane.stopped = false
  present :
    ∀ (key : Text) (m : MatchInfo), active[key]? = some m →
      plane.route m = .tcpPub →
      ∃ serial,
        plane.sinks[key]? =
          some (.remote serial m.localEndpoint.topic m.remoteParticipantId)
  justified :
    ∀ (key : Text) (handle : SinkHandle), plane.sinks[key]? = some handle →
      ∃ m, active[key]? = some m ∧ plane.route m = .tcpPub

theorem SinksFollow.matched
    {active : Std.TreeMap Text MatchInfo} {plane : DataPlane}
    (follow : SinksFollow active plane) (memory : SharedMemory)
    {m : MatchInfo} (outcome : CreateOutcome)
    (fresh : matchKey m ∉ active) :
    SinksFollow (active.insert (matchKey m) m)
      (plane.handleMatch memory m outcome).1 := by
  have same :=
    DataPlane.sameIdentity_handleMatch follow.stopped memory m outcome
  have unused : matchKey m ∉ plane.sinks := by
    intro used
    obtain ⟨handle, found⟩ :=
      Option.isSome_iff_exists.mp
        (Std.TreeMap.mem_iff_isSome_getElem?.mp used)
    obtain ⟨old, oldFound, _⟩ := follow.justified _ _ found
    exact fresh
      (Std.TreeMap.mem_iff_isSome_getElem?.mpr (by simp [oldFound]))
  refine ⟨same.stopped.trans follow.stopped, ?_, ?_⟩
  · intro key other found routed
    rw [same.route] at routed
    rw [DataPlane.sinks_handleMatch follow.stopped]
    rcases getElem?_insert_eq_some.mp found with ⟨equal, rfl⟩ | ⟨different, old⟩
    · rw [if_pos ⟨routed, equal, unused⟩]
      exact ⟨_, rfl⟩
    · rw [if_neg (fun taken => different taken.2.1)]
      exact follow.present key other old routed
  · intro key handle found
    rw [DataPlane.sinks_handleMatch follow.stopped] at found
    simp only [same.route, Std.TreeMap.getElem?_insert,
      Std.compare_eq_iff_eq]
    split at found
    · rename_i taken
      exact ⟨m, by rw [if_pos taken.2.1], taken.1⟩
    · obtain ⟨old, oldFound, routed⟩ := follow.justified key handle found
      refine ⟨old, ?_, routed⟩
      rw [if_neg, oldFound]
      intro equal
      rw [equal] at fresh
      exact fresh
        (Std.TreeMap.mem_iff_isSome_getElem?.mpr (by simp [oldFound]))

theorem SinksFollow.tryMatch
    {agent : DiscoveryAgent} {plane : DataPlane}
    (follow : SinksFollow agent.activeMatches plane) (memory : SharedMemory)
    (outcomes : Text → CreateOutcome) (remoteId : Nat) (remote : Remote) :
    SinksFollow (agent.tryMatch remoteId remote).1.activeMatches
      (onEvents outcomes ((agent.tryMatch remoteId remote).2.map .matched)
        (plane, memory)).1 := by
  have rule :=
    recordAll_rule matchKey
      (fun table (state : DataPlane × SharedMemory) =>
        SinksFollow table state.1)
      (fun state m => onEvent outcomes state (.matched m))
      (remote.matches remoteId agent.localEndpoints)
      (fun _ state _ _ fresh before => before.matched state.2 _ fresh)
      agent.activeMatches (plane, memory) follow
  rw [onEvents, List.foldl_map]
  exact rule

/-! ## Reaping -/

theorem mem_unmatchDead
    (dead : List Nat) {agent : DiscoveryAgent} {m : MatchInfo} :
    m ∈ (DiscoveryAgent.unmatchDead dead agent).2 ↔
      (∃ key : Text, agent.activeMatches[key]? = some m) ∧
        m.remoteParticipantId ∈ dead := by
  induction dead generalizing agent with
  | nil =>
      simp [DiscoveryAgent.unmatchDead]
  | cons deadId later inductionHypothesis =>
      simp only [DiscoveryAgent.unmatchDead, List.mem_append,
        inductionHypothesis, activeMatches_unmatchAll, List.mem_cons]
      rw [show (agent.unmatchAll deadId).2 = agent.matchesWith deadId from rfl,
        mem_matchesWith]
      by_cases same : m.remoteParticipantId = deadId
      · simp [same]
      · simp [same]

theorem sinks_onEvents_unmatched
    (outcomes : Text → CreateOutcome) (unmatched : List MatchInfo)
    {plane : DataPlane} (running : plane.stopped = false)
    (memory : SharedMemory) (key : Text) (handle : SinkHandle) :
    let after :=
      (onEvents outcomes (unmatched.map .unmatched) (plane, memory)).1
    DataPlane.SameIdentity plane after ∧
      (after.sinks[key]? = some handle ↔
        plane.sinks[key]? = some handle ∧
          ∀ m ∈ unmatched, plane.route m = .tcpPub → matchKey m ≠ key) := by
  induction unmatched generalizing plane memory with
  | nil =>
      simp [onEvents, DataPlane.SameIdentity.refl]
  | cons m later inductionHypothesis =>
      have same := DataPlane.sameIdentity_handleUnmatch running memory m
      obtain ⟨identity, sinks⟩ :=
        inductionHypothesis (same.stopped.trans running)
          (plane.handleUnmatch memory m).2
      refine ⟨same.trans identity, ?_⟩
      simp only [onEvents, List.map_cons, List.foldl_cons] at sinks ⊢
      refine sinks.trans ?_
      rw [DataPlane.sinks_handleUnmatch running]
      simp only [same.route, List.forall_mem_cons]
      by_cases taken : plane.route m = .tcpPub ∧ matchKey m = key
      · simp [taken]
      · rw [if_neg taken]
        have kept : plane.route m = .tcpPub → matchKey m ≠ key :=
          fun routed equal => taken ⟨routed, equal⟩
        exact ⟨fun both => ⟨both.1, kept, both.2⟩,
          fun both => ⟨both.1, both.2.2⟩⟩

theorem SinksFollow.reapDead
    {agent : DiscoveryAgent} {plane : DataPlane}
    (follow : SinksFollow agent.activeMatches plane)
    (genuine : ∀ key m, agent.activeMatches[key]? = some m → Genuine key m)
    (memory : SharedMemory) (outcomes : Text → CreateOutcome) (now : Nat) :
    SinksFollow (agent.reapDead now).1.activeMatches
      (onEvents outcomes ((agent.reapDead now).2.map .unmatched)
        (plane, memory)).1 := by
  have after := sinks_onEvents_unmatched outcomes (agent.reapDead now).2
    follow.stopped memory
  have same := (after [] (.subscriber 0 [] [])).1
  have reaped {m : MatchInfo} :
      m ∈ (agent.reapDead now).2 ↔
        (∃ key : Text, agent.activeMatches[key]? = some m) ∧
          m.remoteParticipantId ∈ agent.deadIds now :=
    mem_unmatchDead (agent.deadIds now)
  refine ⟨same.stopped.trans follow.stopped, ?_, ?_⟩
  · intro key m found routed
    rw [activeMatches_reapDead] at found
    rw [same.route] at routed
    obtain ⟨serial, sink⟩ := follow.present key m found.1 routed
    refine ⟨serial, (after key _).2.mpr ⟨sink, ?_⟩⟩
    intro other member _ equal
    obtain ⟨⟨otherKey, otherFound⟩, dead⟩ := reaped.mp member
    have sameKey : otherKey = key :=
      (genuine otherKey other otherFound).key.symm.trans equal
    rw [sameKey, found.1] at otherFound
    cases otherFound
    exact found.2 dead
  · intro key handle found
    obtain ⟨sink, spared⟩ := (after key handle).2.mp found
    obtain ⟨m, active, routed⟩ := follow.justified key handle sink
    refine ⟨m, (activeMatches_reapDead agent now key m).mpr ⟨active, ?_⟩,
      by rw [same.route]; exact routed⟩
    intro dead
    exact
      spared m (reaped.mpr ⟨⟨key, active⟩, dead⟩) routed
        (genuine key m active).key

/-! ## Reliable subscribers -/

/-- The match that stands under a key once `try_match` has run: the active one,
or else the first pair of that key in the order of its loops. -/
def recordedMatch (agent : DiscoveryAgent) (remoteId : Nat) (remote : Remote)
    (key : Text) : Option MatchInfo :=
  agent.activeMatches[key]?.or
    ((remote.matches remoteId agent.localEndpoints).find? fun m =>
      matchKey m = key)

/-- The match between a local publisher and a reliable remote subscriber. -/
def reliablePub (m : MatchInfo) : Bool :=
  m.localEndpoint.kind = .publisher ∧ m.remoteEndpoint.reliability ≠ 0

/-- For every pair with a reliable subscriber, the match recorded for its key
is not routed over shared memory. -/
def recordsReliable (node : Node) (remoteId : Nat) (remote : Remote) : Bool :=
  (remote.matches remoteId node.loop.agent.localEndpoints).all fun m =>
    !reliablePub m ||
      (recordedMatch node.loop.agent remoteId remote (matchKey m)).all
        fun recorded => !node.plane.useShm recorded

/-- The condition on a step: if it runs `try_match`, then with the participant
at hand it records reliable subscribers under matches that use TCP. -/
def servesReliable (node : Node) (input : NodeInput) : Bool :=
  match input.agent, node.loop.nextMatch with
  | .advance _ _, some (remoteId, remote) =>
      recordsReliable node remoteId remote
  | _, _ => true

/-- A reliable subscriber's match is recorded by one that uses TCP. -/
def UsesTcp (plane : DataPlane) (m recorded : MatchInfo) : Prop :=
  reliablePub m → plane.useShm recorded = false

theorem recorded_of_recordsReliable
    {node : Node} {remoteId : Nat} {remote : Remote}
    (records : recordsReliable node remoteId remote) :
    Recorded (UsesTcp node.plane)
      (node.loop.agent.tryMatch remoteId remote).1 remoteId remote := by
  intro m member
  obtain ⟨recorded, found, _⟩ := recorded_tryMatch m member
  refine ⟨recorded, found, fun reliable => ?_⟩
  have checked := List.all_eq_true.mp records m member
  simp only [DiscoveryAgent.tryMatch, getElem?_recordAll] at found
  simpa [reliable, recordedMatch, found] using checked

/-- What holds of a node between any two steps. -/
structure NodeInvariant (node : Node) : Prop where
  agent : AgentInvariant (UsesTcp node.plane) node.loop
  sinks : SinksFollow node.loop.agent.activeMatches node.plane

theorem sameIdentity_onEvents
    (outcomes : Text → CreateOutcome) (events : List AgentEvent)
    {plane : DataPlane} (running : plane.stopped = false)
    (memory : SharedMemory) :
    DataPlane.SameIdentity plane
      (onEvents outcomes events (plane, memory)).1 := by
  induction events generalizing plane memory with
  | nil =>
      exact DataPlane.SameIdentity.refl plane
  | cons event later inductionHypothesis =>
      have first :
          DataPlane.SameIdentity plane
            (onEvent outcomes (plane, memory) event).1 := by
        cases event with
        | matched m =>
            exact DataPlane.sameIdentity_handleMatch running memory m _
        | unmatched m =>
            exact DataPlane.sameIdentity_handleUnmatch running memory m
        | announced _ =>
            exact DataPlane.SameIdentity.refl plane
      exact
        first.trans
          (inductionHypothesis (first.stopped.trans running) _)

theorem onEvents_announced
    (outcomes : Text → CreateOutcome) {events : List AgentEvent}
    {announcement : ParticipantAnnouncement}
    (silent : ∀ event ∈ events, event = .announced announcement)
    (state : DataPlane × SharedMemory) :
    onEvents outcomes events state = state := by
  induction events with
  | nil =>
      rfl
  | cons event later inductionHypothesis =>
      rw [onEvents, List.foldl_cons, silent event List.mem_cons_self]
      exact
        inductionHypothesis fun other member =>
          silent other (List.mem_cons_of_mem event member)

/-- The sinks follow the active matches through every step of the agent. -/
theorem SinksFollow.steps
    {loop target : AgentLoop} {input : AgentInput} {emitted : List AgentEvent}
    {plane : DataPlane}
    (follow : SinksFollow loop.agent.activeMatches plane)
    (genuine :
      ∀ key m, loop.agent.activeMatches[key]? = some m → Genuine key m)
    (memory : SharedMemory) (outcomes : Text → CreateOutcome)
    (steps : loop.Steps input target emitted) :
    SinksFollow target.agent.activeMatches
      (onEvents outcomes emitted (plane, memory)).1 := by
  cases steps with
  | added endpoint =>
      exact follow
  | ignored announcement now _ =>
      exact follow
  | stored announcement now _ _ =>
      exact follow
  | moved announces now next _ silent =>
      rw [onEvents_announced outcomes silent]
      exact follow
  | tried announces now remoteId remote next _ =>
      exact follow.tryMatch memory outcomes remoteId remote
  | exchanged announces now =>
      exact follow
  | reaped announces now _ =>
      exact follow.reapDead genuine memory outcomes now

theorem NodeInvariant.step
    {node target : Node} {input : NodeInput} {emitted : List AgentEvent}
    (invariant : NodeInvariant node)
    (serves : servesReliable node input)
    (stepped : node.step input = some (target, emitted)) :
    NodeInvariant target := by
  unfold Node.step at stepped
  split at stepped
  · cases stepped
  · rename_i loop events moved
    cases stepped
    have same :=
      sameIdentity_onEvents input.outcomes emitted invariant.sinks.stopped
        input.memory
    have routing :
        UsesTcp (onEvents input.outcomes emitted (node.plane, input.memory)).1 =
          UsesTcp node.plane := by
      funext m recorded
      simp only [UsesTcp, same.useShm]
    refine ⟨?_, ?_⟩
    · dsimp only
      rw [routing]
      refine invariant.agent.step ?_ moved
      intro announces now advancing id remote next
      refine recorded_of_recordsReliable ?_
      simpa [servesReliable, advancing, next] using serves
    · exact
        invariant.sinks.steps invariant.agent.genuine input.memory
          input.outcomes (AgentLoop.steps_of_step moved)

theorem Node.Fresh.invariant {node : Node} (fresh : node.Fresh) :
    NodeInvariant node where
  agent := fresh.loop.invariant _
  sinks :=
    { stopped := fresh.stopped
      present := by
        intro key m found
        rw [fresh.loop.activeMatches] at found
        cases found
      justified := by
        intro key handle found
        rw [fresh.sinks] at found
        cases found }

/-- In every run whose calls of `try_match` record reliable subscribers under
matches that use TCP, whenever the loop is back at `recv` with a clear flag,
every reliable subscriber of a known participant that pairs with a local
publisher is served by a TCP sink for its topic and participant. -/
theorem reliable_served_over_tcp
    {inputs : List NodeInput} {node : Node} {events : List AgentEvent}
    (run :
      nodeMachine.Run (fun node input => servesReliable node input = true)
        inputs node events)
    (atEnd : node.loop.pc = .receiving)
    (clean : node.loop.agent.endpointsDirty = false)
    {le re : EndpointInfo} {remoteId : Nat} {remote : Remote}
    (localMember : le ∈ node.loop.agent.localEndpoints)
    (publisher : le.kind = .publisher)
    (known : node.loop.agent.remotes[remoteId]? = some remote)
    (remoteMember : re ∈ remote.endpoints)
    (reliable : re.reliability ≠ 0)
    (paired : pairMatches le re) :
    ∃ (key : Text) (serial : Nat),
      node.plane.sinks[key]? = some (.remote serial le.topic remoteId) := by
  have invariant : NodeInvariant node :=
    run.invariant (fun node _ => NodeInvariant node)
      (fun _ fresh => Node.Fresh.invariant fresh)
      fun _ _ _ _ _ invariant serves stepped =>
        invariant.step serves stepped
  let m : MatchInfo := ⟨le, re, remote.locator, remoteId, remote.hostId⟩
  have member : m ∈ remote.matches remoteId node.loop.agent.localEndpoints :=
    mem_matchEndpoints.mpr
      ⟨localMember, remoteMember, paired, rfl, rfl, rfl⟩
  obtain ⟨recorded, found, usesTcp⟩ :=
    invariant.agent.recorded clean remoteId remote known
      (by rw [atEnd]; exact id) m member
  have genuine := invariant.agent.genuine _ _ found
  obtain ⟨localKind, remoteKind, topic, participant⟩ :=
    (matchKey_eq_iff genuine.paired paired).mp
      genuine.key
  have tcp := usesTcp (by simp [reliablePub, m, publisher, reliable])
  have localPublisher := localKind.trans publisher
  have routed : node.plane.route recorded = .tcpPub := by
    simp [DataPlane.route, pubsubPair, localPublisher, tcp,
      subscriber_of_publisher genuine.paired localPublisher]
  obtain ⟨serial, sink⟩ := invariant.sinks.present _ _ found routed
  refine ⟨matchKey m, serial, ?_⟩
  rw [sink, topic, participant]

/-! ## One publisher and one remote participant -/

/-- A reliable publisher of topic `t`. -/
def reliablePublisher : EndpointInfo :=
  { kind := .publisher, topic := ['t'], typeName := ['T'], reliability := 1 }

/-- A subscriber of topic `t` with a given reliability. -/
def subscriberOf (reliability : Nat) : EndpointInfo :=
  { kind := .subscriber
    topic := ['t']
    typeName := ['T']
    reliability := reliability }

/-- A node with shared memory, before `start`. -/
def singleNode : Node where
  loop :=
    ⟨{ nodeName := ['a']
       dataLocator := ⟨[], 0⟩
       participantId := 1
       hostId := ['h'] },
      .starting⟩
  plane := DataPlane.started 1 ['h'] true

/-- An input of an otherwise empty host on which segments can be created. -/
def onEmptyHost (input : AgentInput) : NodeInput :=
  ⟨input, SharedMemory.empty, fun _ => .created⟩

/-- The node adds a reliable publisher, learns of a participant on its host
and completes the iteration. -/
def meetParticipant (endpoints : List EndpointInfo) : List NodeInput :=
  ([AgentInput.addEndpoint reliablePublisher, .advance false 0,
      .receive (some ⟨2, ['b'], ⟨[], 0⟩, endpoints, ['h']⟩) 0] ++
    List.replicate 7 (AgentInput.advance false 0)).map onEmptyHost

theorem singleNode_fresh : singleNode.Fresh where
  loop := ⟨rfl, by simp [singleNode], by simp [singleNode]⟩
  stopped := rfl
  sinks := by simp [singleNode, DataPlane.started]

/-- A reliable subscriber on the same host is served over TCP. -/
theorem reliable_served_over_tcp_sameHost :
    ∃ node events,
      nodeMachine.Run (fun node input => servesReliable node input = true)
          (meetParticipant [subscriberOf 1]) node events ∧
        ∃ (key : Text) (serial : Nat),
          node.plane.sinks[key]? = some (.remote serial ['t'] 2) := by
  obtain ⟨node, events, run, checked⟩ :=
    Machine.run_of_exec_check nodeMachine
      (fun node input => servesReliable node input = true)
      (meetParticipant [subscriberOf 1]) singleNode
      (fun node _ =>
        node.loop.pc = .receiving ∧
          node.loop.agent.endpointsDirty = false ∧
          node.loop.agent.localEndpoints = [reliablePublisher] ∧
          node.loop.agent.remotes[2]? =
            some ⟨['b'], [subscriberOf 1], ⟨[], 0⟩, ['h'], 0⟩)
      singleNode_fresh (by decide +kernel)
  simp only [decide_eq_true_eq] at checked
  obtain ⟨atEnd, clean, endpoints, known⟩ := checked
  exact ⟨node, events, run,
    reliable_served_over_tcp run atEnd clean
      (by rw [endpoints]; exact List.mem_cons_self) rfl known
      List.mem_cons_self (by decide) (by decide)⟩

/-- A best-effort subscriber in front of the reliable one takes the key, and
the reliable one is left to the lossy ring. -/
theorem reliable_not_served_over_tcp :
    ¬ ∀ (inputs : List NodeInput) (node : Node) (events : List AgentEvent)
        (le re : EndpointInfo) (remoteId : Nat) (remote : Remote),
        nodeMachine.Run Machine.free inputs node events →
        node.loop.pc = .receiving →
        node.loop.agent.endpointsDirty = false →
        le ∈ node.loop.agent.localEndpoints →
        le.kind = .publisher →
        node.loop.agent.remotes[remoteId]? = some remote →
        re ∈ remote.endpoints →
        re.reliability ≠ 0 →
        pairMatches le re →
        ∃ (key : Text) (serial : Nat),
          node.plane.sinks[key]? = some (.remote serial le.topic remoteId) := by
  intro claimed
  obtain ⟨node, events, run, checked⟩ :=
    Machine.run_of_exec_check nodeMachine Machine.free
      (meetParticipant [subscriberOf 0, subscriberOf 1]) singleNode
      (fun node _ =>
        node.loop.pc = .receiving ∧
          node.loop.agent.endpointsDirty = false ∧
          node.loop.agent.localEndpoints = [reliablePublisher] ∧
          node.loop.agent.remotes[2]? =
            some
              ⟨['b'], [subscriberOf 0, subscriberOf 1], ⟨[], 0⟩, ['h'], 0⟩ ∧
          node.plane.sinks.isEmpty)
      singleNode_fresh (by decide +kernel)
  simp only [decide_eq_true_eq] at checked
  obtain ⟨atEnd, clean, endpoints, known, noSinks⟩ := checked
  obtain ⟨key, serial, sink⟩ :=
    claimed _ node events reliablePublisher (subscriberOf 1) 2 _ run atEnd
      clean (by rw [endpoints]; exact List.mem_cons_self) rfl known (by simp)
      (by decide) (by decide)
  rw [Std.TreeMap.getElem?_of_isEmpty noSinks] at sink
  cases sink

end MiniMiddleware.Core
