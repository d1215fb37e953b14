import MiniMiddleware.Discovery.MatchHistory
import MiniMiddleware.Discovery.MatchSymmetry
import MiniMiddleware.Discovery.Snapshot
import MiniMiddleware.Library.Threads

/-!
# A group of discovery agents

All agents of a group send to one multicast address.  A datagram may reach a
participant late, several times or never, and datagrams may overtake each
other, so a participant receives any announcement that was ever sent.  The
participants are the threads of one program whose shared state is the list of
the announcements sent so far.

What an agent believes about another participant was true when it was
announced, and endpoints are only ever added; so everything that an agent
stores or reports remains true of the participant it speaks about.
-/

namespace MiniMiddleware.Discovery

open MiniMiddleware.Library

/-- The announcements among the events of an agent. -/
def announcementsOf (events : List AgentEvent) : List ParticipantAnnouncement :=
  events.filterMap fun event =>
    match event with
    | .announced announcement => some announcement
    | _ => none

/-- A step of one participant.  `receive (some number)` takes the datagram of
that number from the network. -/
inductive ParticipantStep where
  | addEndpoint (endpoint : EndpointInfo)
  | receive (datagram : Option Nat) (now : Nat)
  | advance (announces : Bool) (now : Nat)
  deriving DecidableEq, Repr

/-- The input of the agent; a datagram must have been sent. -/
def ParticipantStep.input? (sent : List ParticipantAnnouncement) :
    ParticipantStep → Option AgentInput
  | .addEndpoint endpoint => some (.addEndpoint endpoint)
  | .receive none now => some (.receive none now)
  | .receive (some number) now =>
      sent[number]?.map fun announcement => .receive (some announcement) now
  | .advance announces now => some (.advance announces now)

/-- The step of the participant `pid`. -/
def participantStep :
    ThreadStep Nat (List ParticipantAnnouncement) AgentLoop ParticipantStep
      (Nat × AgentEvent) :=
  fun pid sent loop choice =>
    (choice.input? sent).bind fun input =>
      (loop.step input).map fun moved =>
        (sent ++ announcementsOf moved.2, moved.1, moved.2.map (Prod.mk pid))

/-- Nothing has been sent, and every participant stands before `start` under
its own id. -/
def FreshGroup (group : List ParticipantAnnouncement × (Nat → AgentLoop)) :
    Prop :=
  group.1 = [] ∧
    ∀ pid, (group.2 pid).Fresh ∧ (group.2 pid).agent.participantId = pid

/-- The participants and the network. -/
abbrev groupMachine :
    Machine (List ParticipantAnnouncement × (Nat → AgentLoop))
      (Nat × ParticipantStep) (Nat × AgentEvent) :=
  threadMachine FreshGroup participantStep

/-- The events of one participant. -/
def eventsAt (pid : Nat) (events : List (Nat × AgentEvent)) :
    List AgentEvent :=
  (events.filter fun event => event.1 = pid).map Prod.snd

@[simp]
theorem eventsAt_append
    (pid : Nat) (earlier later : List (Nat × AgentEvent)) :
    eventsAt pid (earlier ++ later) =
      eventsAt pid earlier ++ eventsAt pid later := by
  simp [eventsAt]

@[simp]
theorem eventsAt_self (pid : Nat) (emitted : List AgentEvent) :
    eventsAt pid (emitted.map (Prod.mk pid)) = emitted := by
  simp [eventsAt, List.filter_map, Function.comp_def]

theorem eventsAt_other
    {pid other : Nat} (different : other ≠ pid) (emitted : List AgentEvent) :
    eventsAt other (emitted.map (Prod.mk pid)) = [] := by
  simp [eventsAt, List.filter_map, Function.comp_def, different.symm]

theorem mem_eventsAt
    {pid : Nat} {event : AgentEvent} {events : List (Nat × AgentEvent)} :
    event ∈ eventsAt pid events ↔ (pid, event) ∈ events := by
  simp [eventsAt]

theorem count_eventsAt
    (pid : Nat) (event : AgentEvent) (events : List (Nat × AgentEvent)) :
    (eventsAt pid events).count event = events.count (pid, event) := by
  induction events with
  | nil =>
      rfl
  | cons first later inductionHypothesis =>
      obtain ⟨other, happened⟩ := first
      by_cases same : other = pid
      · subst same
        simpa [eventsAt, List.count_cons] using inductionHypothesis
      · simpa [eventsAt, List.count_cons, same] using inductionHypothesis

theorem count_callbacks (m : MatchInfo) (events : List AgentEvent) :
    (callbacks events).count (.opened m) = events.count (.matched m) ∧
      (callbacks events).count (.closed m) = events.count (.unmatched m) := by
  induction events with
  | nil =>
      exact ⟨rfl, rfl⟩
  | cons event later inductionHypothesis =>
      obtain ⟨opened, closed⟩ := inductionHypothesis
      cases event <;>
        simpa [callbacks, List.count_cons] using ⟨opened, closed⟩

theorem exists_of_participantStep
    {pid : Nat} {sent after : List ParticipantAnnouncement}
    {loop target : AgentLoop} {choice : ParticipantStep}
    {emitted : List (Nat × AgentEvent)}
    (moved :
      participantStep pid sent loop choice = some (after, target, emitted)) :
    ∃ input events,
      choice.input? sent = some input ∧
        loop.step input = some (target, events) ∧
        after = sent ++ announcementsOf events ∧
        emitted = events.map (Prod.mk pid) := by
  obtain ⟨input, found, stepped⟩ := Option.bind_eq_some_iff.mp moved
  obtain ⟨⟨next, events⟩, agentStepped, reached⟩ :=
    Option.map_eq_some_iff.mp stepped
  cases reached
  exact ⟨input, events, found, agentStepped, rfl, rfl⟩

/-! ## What an agent says about itself -/

/-- The participant is the same and may have registered further endpoints. -/
structure Extends (earlier later : ParticipantAnnouncement) : Prop where
  participantId : later.participantId = earlier.participantId
  nodeName : later.nodeName = earlier.nodeName
  dataLocator : later.dataLocator = earlier.dataLocator
  hostId : later.hostId = earlier.hostId
  endpoints : earlier.endpoints <+: later.endpoints

theorem Extends.refl (announcement : ParticipantAnnouncement) :
    Extends announcement announcement :=
  ⟨rfl, rfl, rfl, rfl, List.prefix_rfl⟩

theorem Extends.trans
    {first second third : ParticipantAnnouncement}
    (earlier : Extends first second) (later : Extends second third) :
    Extends first third :=
  ⟨later.participantId.trans earlier.participantId,
    later.nodeName.trans earlier.nodeName,
    later.dataLocator.trans earlier.dataLocator,
    later.hostId.trans earlier.hostId,
    earlier.endpoints.trans later.endpoints⟩

theorem announce_unmatchDead (dead : List Nat) (agent : DiscoveryAgent) :
    (DiscoveryAgent.unmatchDead dead agent).1.announce = agent.announce := by
  induction dead generalizing agent with
  | nil =>
      rfl
  | cons deadId later inductionHypothesis =>
      exact inductionHypothesis (agent.unmatchAll deadId).1

theorem announce_reapDead (agent : DiscoveryAgent) (now : Nat) :
    (agent.reapDead now).1.announce = agent.announce :=
  announce_unmatchDead _ _

/-- A step changes what the agent announces only by adding endpoints. -/
theorem extends_of_step
    {loop target : AgentLoop} {input : AgentInput} {emitted : List AgentEvent}
    (stepped : loop.step input = some (target, emitted)) :
    Extends loop.agent.announce target.agent.announce := by
  cases AgentLoop.steps_of_step stepped with
  | added endpoint =>
      exact ⟨rfl, rfl, rfl, rfl, List.prefix_append _ _⟩
  | reaped announces now _ =>
      have same := announce_reapDead loop.agent now
      dsimp only
      rw [same]
      exact Extends.refl _
  | _ =>
      exact Extends.refl _

/-! ## Where what an agent knows comes from -/

section Origins

variable {loop target : AgentLoop} {input : AgentInput}
  {emitted : List AgentEvent}

/-- A stored participant was stored before, or has just been announced. -/
theorem remotes_of_step
    (stepped : loop.step input = some (target, emitted))
    {id : Nat} {remote : Remote}
    (found : target.agent.remotes[id]? = some remote) :
    loop.agent.remotes[id]? = some remote ∨
      ∃ announcement now,
        input = .receive (some announcement) now ∧
          loop.pc = .receiving ∧
          announcement.participantId = id ∧
          remote = DiscoveryAgent.remoteOf announcement now := by
  cases AgentLoop.steps_of_step stepped with
  | stored announcement now atReceive _ =>
      rcases getElem?_insert_eq_some.mp found with ⟨same, rfl⟩ | ⟨_, old⟩
      · exact Or.inr ⟨announcement, now, rfl, atReceive, same, rfl⟩
      · exact Or.inl old
  | reaped announces now _ =>
      left
      dsimp only at found
      rw [remotes_reapDead] at found
      split at found
      · cases found
      · exact found
  | _ =>
      exact Or.inl found

/-- An active match was active before, or `match_endpoints` has just found it
for a stored participant. -/
theorem activeMatches_of_step
    (carries : loop.pc.Carries loop.agent.remotes)
    (stepped : loop.step input = some (target, emitted))
    {key : Text} {m : MatchInfo}
    (found : target.agent.activeMatches[key]? = some m) :
    loop.agent.activeMatches[key]? = some m ∨
      ∃ (id : Nat) (remote : Remote),
        loop.agent.remotes[id]? = some remote ∧
          m ∈ remote.matches id loop.agent.localEndpoints := by
  cases AgentLoop.steps_of_step stepped with
  | tried announces now id remote next isNext =>
      simp only [DiscoveryAgent.tryMatch, getElem?_recordAll] at found
      rcases Option.or_eq_some_iff.mp found with old | ⟨_, first⟩
      · exact Or.inl old
      · exact Or.inr ⟨id, remote, stored_of_nextMatch carries isNext,
          List.mem_of_find?_eq_some first⟩
  | reaped announces now _ =>
      exact Or.inl ((activeMatches_reapDead _ _ key m).mp found).1
  | _ =>
      exact Or.inl found

theorem matched_of_step
    (carries : loop.pc.Carries loop.agent.remotes)
    (stepped : loop.step input = some (target, emitted))
    {m : MatchInfo} (reported : .matched m ∈ emitted) :
    ∃ (id : Nat) (remote : Remote),
      loop.agent.remotes[id]? = some remote ∧
        m ∈ remote.matches id loop.agent.localEndpoints := by
  cases AgentLoop.steps_of_step stepped with
  | tried announces now id remote next isNext =>
      obtain ⟨_, entered, same⟩ := List.mem_map.mp reported
      cases same
      exact ⟨id, remote, stored_of_nextMatch carries isNext,
        mem_of_mem_recordAll entered⟩
  | moved announces now next _ silent =>
      cases silent _ reported
  | reaped announces now _ =>
      simp at reported
  | _ =>
      cases reported

theorem announced_of_step
    (stepped : loop.step input = some (target, emitted))
    {announcement : ParticipantAnnouncement}
    (sent : announcement ∈ announcementsOf emitted) :
    announcement = loop.agent.announce := by
  obtain ⟨event, member, shown⟩ := List.mem_filterMap.mp sent
  cases AgentLoop.steps_of_step stepped with
  | moved announces now next _ silent =>
      rw [silent event member] at shown
      exact (Option.some.inj shown).symm
  | tried announces now id remote next _ =>
      obtain ⟨_, _, rfl⟩ := List.mem_map.mp member
      cases shown
  | reaped announces now _ =>
      obtain ⟨_, _, rfl⟩ := List.mem_map.mp member
      cases shown
  | _ =>
      cases member

end Origins

/-! ## What an agent says about others -/

/-- What every participant would announce at the moment. -/
abbrev Registry := Nat → ParticipantAnnouncement

/-- Every participant may have registered further endpoints. -/
def Registry.Grows (registry later : Registry) : Prop :=
  ∀ id, Extends (registry id) (later id)

/-- A stored remote participant is as it once announced itself. -/
def Describes (registry : Registry) (id : Nat) (remote : Remote) : Prop :=
  Extends (announcementOf (id, remote)).1 (registry id)

/-- The match of the participant `pid` is with another one, which has
registered the remote endpoint, is reached by the locator and runs on the host
of the match, and the two endpoints belong together. -/
structure TrueMatch (registry : Registry) (pid : Nat) (m : MatchInfo) :
    Prop where
  other : m.remoteParticipantId ≠ pid
  localEndpoint : m.localEndpoint ∈ (registry pid).endpoints
  remoteEndpoint :
    m.remoteEndpoint ∈ (registry m.remoteParticipantId).endpoints
  remoteLocator :
    m.remoteLocator = (registry m.remoteParticipantId).dataLocator
  remoteHostId : m.remoteHostId = (registry m.remoteParticipantId).hostId
  matching : Matching m.localEndpoint m.remoteEndpoint

section Registries

variable {registry later : Registry} {pid id : Nat} {remote : Remote}
  {m : MatchInfo}

theorem Describes.grow
    (describes : Describes registry id remote) (grows : registry.Grows later) :
    Describes later id remote :=
  describes.trans (grows id)

theorem TrueMatch.grow
    (holds : TrueMatch registry pid m) (grows : registry.Grows later) :
    TrueMatch later pid m where
  other := holds.other
  localEndpoint := (grows pid).endpoints.subset holds.localEndpoint
  remoteEndpoint := (grows _).endpoints.subset holds.remoteEndpoint
  remoteLocator := holds.remoteLocator.trans (grows _).dataLocator.symm
  remoteHostId := holds.remoteHostId.trans (grows _).hostId.symm
  matching := holds.matching

/-- `match_endpoints` is applied to the agent's own endpoints and to what it
has stored of another participant. -/
theorem trueMatch_of_mem_matches
    (describes : Describes registry id remote) (foreign : id ≠ pid)
    (member : m ∈ remote.matches id (registry pid).endpoints) :
    TrueMatch registry pid m := by
  obtain ⟨localMember, listed, paired, locator, rfl, host⟩ :=
    mem_matchEndpoints.mp member
  exact ⟨foreign, localMember, describes.endpoints.subset listed,
    locator.trans describes.dataLocator.symm,
    host.trans describes.hostId.symm, (pairMatches_iff _ _).mp paired⟩

end Registries

/-- The registry with one participant's announcement replaced. -/
def Registry.set (registry : Registry) (pid : Nat)
    (announcement : ParticipantAnnouncement) : Registry :=
  Function.update registry pid announcement

theorem Registry.grows_set
    {registry : Registry} {pid : Nat} {announcement : ParticipantAnnouncement}
    (grown : Extends (registry pid) announcement) :
    registry.Grows (registry.set pid announcement) := by
  intro id
  by_cases same : id = pid
  · subst same
    simpa [Registry.set] using grown
  · simpa [Registry.set, same] using Extends.refl (registry id)

/-! ## The invariant of the group -/

/-- What the proofs keep of all participants: what each would announce, and
its events so far. -/
structure GroupGhost where
  registry : Registry
  history : Nat → List AgentEvent

/-- What holds of one participant. -/
structure ParticipantInvariant (ghost : GroupGhost) (pid : Nat)
    (loop : AgentLoop) : Prop where
  participantId : loop.agent.participantId = pid
  announces : loop.agent.announce = ghost.registry pid
  history : HistoryInvariant loop (ghost.history pid)
  remotes :
    ∀ id remote, loop.agent.remotes[id]? = some remote →
      Describes ghost.registry id remote
  active :
    ∀ (key : Text) (m : MatchInfo), loop.agent.activeMatches[key]? = some m →
      TrueMatch ghost.registry pid m

/-- What holds of the network and of the events so far. -/
structure GroupInvariant (ghost : GroupGhost)
    (sent : List ParticipantAnnouncement) (events : List (Nat × AgentEvent)) :
    Prop where
  sent :
    ∀ announcement ∈ sent,
      Extends announcement (ghost.registry announcement.participantId)
  histories : ∀ pid, ghost.history pid = eventsAt pid events
  reported :
    ∀ pid m, .matched m ∈ ghost.history pid → TrueMatch ghost.registry pid m

theorem ParticipantInvariant.grow
    {ghost changed : GroupGhost} {pid : Nat} {loop : AgentLoop}
    (invariant : ParticipantInvariant ghost pid loop)
    (grows : ghost.registry.Grows changed.registry)
    (own : changed.registry pid = ghost.registry pid)
    (history : changed.history pid = ghost.history pid) :
    ParticipantInvariant changed pid loop where
  participantId := invariant.participantId
  announces := invariant.announces.trans own.symm
  history := by
    rw [history]
    exact invariant.history
  remotes id remote found := (invariant.remotes id remote found).grow grows
  active key m found := (invariant.active key m found).grow grows

/-- The ghost after a step of one participant. -/
def GroupGhost.after (ghost : GroupGhost) (pid : Nat) (target : AgentLoop)
    (emitted : List AgentEvent) : GroupGhost where
  registry := ghost.registry.set pid target.agent.announce
  history :=
    Function.update ghost.history pid (ghost.history pid ++ emitted)

section Steps

variable {ghost : GroupGhost} {pid : Nat} {loop target : AgentLoop}
  {input : AgentInput} {emitted : List AgentEvent}

theorem ParticipantInvariant.registryGrows
    (invariant : ParticipantInvariant ghost pid loop)
    (stepped : loop.step input = some (target, emitted)) :
    ghost.registry.Grows (ghost.after pid target emitted).registry := by
  refine Registry.grows_set ?_
  rw [← invariant.announces]
  exact extends_of_step stepped

/-- What `match_endpoints` finds for a stored participant is true. -/
theorem ParticipantInvariant.trueMatch
    (invariant : ParticipantInvariant ghost pid loop)
    {id : Nat} {remote : Remote}
    (stored : loop.agent.remotes[id]? = some remote)
    {m : MatchInfo} (member : m ∈ remote.matches id loop.agent.localEndpoints) :
    TrueMatch ghost.registry pid m := by
  have own : loop.agent.localEndpoints = (ghost.registry pid).endpoints :=
    congrArg ParticipantAnnouncement.endpoints invariant.announces
  rw [own] at member
  refine
    trueMatch_of_mem_matches (invariant.remotes id remote stored) ?_ member
  rintro rfl
  refine invariant.history.foreign ?_
  rw [invariant.participantId, Std.TreeMap.mem_iff_isSome_getElem?, stored]
  rfl

theorem ParticipantInvariant.step
    (invariant : ParticipantInvariant ghost pid loop)
    (received :
      ∀ announcement now, input = .receive (some announcement) now →
        Extends announcement (ghost.registry announcement.participantId))
    (stepped : loop.step input = some (target, emitted)) :
    ParticipantInvariant (ghost.after pid target emitted) pid target := by
  have grows := invariant.registryGrows stepped
  refine ⟨?_, ?_, ?_, ?_, ?_⟩
  · exact (extends_of_step stepped).participantId.trans invariant.participantId
  · simp [GroupGhost.after, Registry.set]
  · simpa [GroupGhost.after] using invariant.history.step stepped
  · intro id remote found
    refine Describes.grow ?_ grows
    rcases remotes_of_step stepped found with
      old | ⟨announcement, now, isReceive, _, rfl, rfl⟩
    · exact invariant.remotes id remote old
    · exact received announcement now isReceive
  · intro key m found
    refine TrueMatch.grow ?_ grows
    rcases
        activeMatches_of_step invariant.history.agent.carries stepped found with
      old | ⟨id, remote, stored, member⟩
    · exact invariant.active key m old
    · exact invariant.trueMatch stored member

theorem GroupInvariant.step
    {sent : List ParticipantAnnouncement} {events : List (Nat × AgentEvent)}
    (holds : GroupInvariant ghost sent events)
    (invariant : ParticipantInvariant ghost pid loop)
    (stepped : loop.step input = some (target, emitted)) :
    GroupInvariant (ghost.after pid target emitted)
      (sent ++ announcementsOf emitted)
      (events ++ emitted.map (Prod.mk pid)) := by
  have grows := invariant.registryGrows stepped
  refine ⟨?_, ?_, ?_⟩
  · intro announcement member
    refine Extends.trans ?_ (grows _)
    rcases List.mem_append.mp member with old | new
    · exact holds.sent announcement old
    · rw [announced_of_step stepped new, invariant.announces]
      have same : (ghost.registry pid).participantId = pid :=
        (congrArg ParticipantAnnouncement.participantId
          invariant.announces).symm.trans invariant.participantId
      rw [same]
      exact Extends.refl _
  · intro id
    by_cases same : id = pid
    · subst same
      simp [GroupGhost.after, holds.histories]
    · simp [GroupGhost.after, same, eventsAt_other same, holds.histories]
  · intro id m reported
    refine TrueMatch.grow ?_ grows
    by_cases same : id = pid
    · subst same
      simp only [GroupGhost.after, Function.update_self] at reported
      rcases List.mem_append.mp reported with old | new
      · exact holds.reported id m old
      · obtain ⟨_, remote, stored, member⟩ :=
          matched_of_step invariant.history.agent.carries stepped new
        exact invariant.trueMatch stored member
    · simp only [GroupGhost.after, Function.update_of_ne same] at reported
      exact holds.reported id m reported

end Steps

/-- The invariant of all participants at the end of every run. -/
theorem groupInvariant_of_run
    {guard :
      List ParticipantAnnouncement × (Nat → AgentLoop) →
        Nat × ParticipantStep → Prop}
    {inputs : List (Nat × ParticipantStep)}
    {group : List ParticipantAnnouncement × (Nat → AgentLoop)}
    {events : List (Nat × AgentEvent)}
    (run : groupMachine.Run guard inputs group events) :
    ∃ ghost, GroupInvariant ghost group.1 events ∧
      ∀ pid, ParticipantInvariant ghost pid (group.2 pid) := by
  refine run.parallel GroupInvariant
    (fun ghost pid _ loop => ParticipantInvariant ghost pid loop) ?_ ?_
  · intro sent loops initially
    obtain ⟨nothing, fresh⟩ := initially
    refine ⟨⟨fun pid => (loops pid).agent.announce, fun _ => []⟩, ⟨?_, ?_, ?_⟩,
      fun pid => ⟨(fresh pid).2, rfl, (fresh pid).1.history, ?_, ?_⟩⟩
    · intro announcement member
      rw [show sent = [] from nothing] at member
      cases member
    · intro pid
      rfl
    · intro pid m reported
      cases reported
    · intro id remote found
      rw [(fresh pid).1.remotes] at found
      cases found
    · intro key m found
      rw [(fresh pid).1.activeMatches] at found
      cases found
  · intro ghost pid sent loop choice events after target emitted holds invariant
      moved
    obtain ⟨input, own, isInput, stepped, rfl, rfl⟩ :=
      exists_of_participantStep moved
    have received :
        ∀ announcement now, input = .receive (some announcement) now →
          Extends announcement
            (ghost.registry announcement.participantId) := by
      rintro announcement now rfl
      refine holds.sent announcement ?_
      cases choice with
      | receive datagram heard =>
          cases datagram with
          | none =>
              cases isInput
          | some number =>
              obtain ⟨_, found, same⟩ := Option.map_eq_some_iff.mp isInput
              cases same
              exact List.mem_of_getElem? found
      | _ =>
          cases isInput
    refine ⟨ghost.after pid target own, holds.step invariant stepped,
      invariant.step received stepped, ?_⟩
    intro other different loop otherInvariant
    refine otherInvariant.grow (invariant.registryGrows stepped) ?_ ?_
    · simp [GroupGhost.after, Registry.set, different]
    · simp [GroupGhost.after, different]

/-! ## Nobody is believed to be what it is not -/

/-- What the participants would announce now. -/
def registryOf (loops : Nat → AgentLoop) : Registry :=
  fun pid => (loops pid).agent.announce

/-- A row of the snapshot of the participant `pid` shows an endpoint that its
participant has registered. -/
structure TrueRow (registry : Registry) (pid : Nat)
    (row : DiscoveredEndpoint) : Prop where
  isLocal : row.isLocal = decide (row.participantId = pid)
  nodeName : row.nodeName = (registry row.participantId).nodeName
  endpoint : row.endpoint ∈ (registry row.participantId).endpoints
  locator : row.locator = (registry row.participantId).dataLocator
  hostId : row.hostId = (registry row.participantId).hostId

theorem ParticipantInvariant.trueRow
    {ghost : GroupGhost} {pid : Nat} {loop : AgentLoop}
    (invariant : ParticipantInvariant ghost pid loop)
    {row : DiscoveredEndpoint} (shown : row ∈ loop.agent.snapshotEndpoints) :
    TrueRow ghost.registry pid row := by
  have announces := invariant.announces
  have own := invariant.participantId
  rcases List.mem_append.mp shown with localRow | remoteRow
  · obtain ⟨endpoint, member, rfl⟩ := List.mem_map.mp localRow
    have current :
        ghost.registry loop.agent.participantId = loop.agent.announce := by
      rw [own, announces]
    refine ⟨by simp [DiscoveryAgent.localRow, own], ?_, ?_, ?_, ?_⟩ <;>
      simp only [DiscoveryAgent.localRow, current, DiscoveryAgent.announce]
    exact member
  · obtain ⟨⟨id, remote⟩, stored, listed⟩ := List.mem_flatMap.mp remoteRow
    obtain ⟨endpoint, member, rfl⟩ := List.mem_map.mp listed
    rw [Std.TreeMap.mem_toList_iff_getElem?_eq_some] at stored
    have describes := invariant.remotes id remote stored
    have foreign : id ≠ pid := by
      rintro rfl
      refine invariant.history.foreign ?_
      rw [own, Std.TreeMap.mem_iff_isSome_getElem?, stored]
      rfl
    exact ⟨by simp [foreign], describes.nodeName.symm,
      describes.endpoints.subset member, describes.dataLocator.symm,
      describes.hostId.symm⟩

theorem GroupInvariant.registry_eq
    {ghost : GroupGhost} {loops : Nat → AgentLoop}
    (invariant : ∀ pid, ParticipantInvariant ghost pid (loops pid)) :
    ghost.registry = registryOf loops :=
  funext fun pid => (invariant pid).announces.symm

/-- Whatever is lost, delayed, duplicated or reordered: every match that any
participant has reported, as new or as gone, or holds active, and every row of
its snapshot, is true of the participant it names, and every announcement sent
is one that its sender has only extended since. -/
theorem discovery_truthful
    {inputs : List (Nat × ParticipantStep)}
    {group : List ParticipantAnnouncement × (Nat → AgentLoop)}
    {events : List (Nat × AgentEvent)}
    (run : groupMachine.Run Machine.free inputs group events) :
    (∀ pid m,
      (pid, .matched m) ∈ events ∨ (pid, .unmatched m) ∈ events ∨
          (∃ key : Text,
            (group.2 pid).agent.activeMatches[key]? = some m) →
        TrueMatch (registryOf group.2) pid m) ∧
      (∀ pid, ∀ row ∈ (group.2 pid).agent.snapshotEndpoints,
        TrueRow (registryOf group.2) pid row) ∧
      ∀ announcement ∈ group.1,
        Extends announcement
          (registryOf group.2 announcement.participantId) := by
  obtain ⟨ghost, holds, participants⟩ := groupInvariant_of_run run
  rw [← GroupInvariant.registry_eq participants]
  refine ⟨?_, fun pid row shown => (participants pid).trueRow shown,
    holds.sent⟩
  have reported (pid : Nat) (m : MatchInfo)
      (member : (pid, .matched m) ∈ events) :
      TrueMatch ghost.registry pid m := by
    refine holds.reported pid m ?_
    rw [holds.histories]
    exact mem_eventsAt.mpr member
  rintro pid m (opened | closed | ⟨key, found⟩)
  · exact reported pid m opened
  · -- Only what was reported as new is reported as gone.
    have history := (participants pid).history.booked.alternating (matchKey m)
    rw [holds.histories] at history
    refine reported pid m (mem_eventsAt.mp (mem_callbacks_opened ?_))
    refine List.mem_of_mem_filter (history.opened_of_closed ?_)
    refine List.mem_filter.mpr ⟨?_, by simp [Bracket.item]⟩
    exact List.mem_filterMap.mpr ⟨_, mem_eventsAt.mpr closed, rfl⟩
  · exact (participants pid).active key m found

/-- A group before `start`: participant `pid` listens at port `pid`. -/
def freshLoops (pid : Nat) : AgentLoop :=
  ⟨{ nodeName := ['n']
     dataLocator := ⟨[], pid⟩
     participantId := pid
     hostId := ['h'] },
    .starting⟩

theorem freshLoops_fresh : FreshGroup ([], freshLoops) :=
  ⟨rfl, fun _ =>
    ⟨⟨rfl, by simp [freshLoops], by simp [freshLoops]⟩, rfl⟩⟩

/-- Participant 1 publishes, participant 2 subscribes, both start. -/
def pairStarts : List (Nat × ParticipantStep) :=
  [(1, .addEndpoint publisherOfT), (2, .addEndpoint subscriberOfT),
    (1, .advance false 0), (2, .advance false 0)]

/-- One iteration that receives the datagram of this number and finds the
dirty flag set. -/
def hearsDirty (pid number known : Nat) : List (Nat × ParticipantStep) :=
  (pid, .receive (some number) 0) ::
    List.replicate (6 + known) (pid, .advance false 0)

/-- Participant 1 has heard of a subscriber of participant 2. -/
theorem discovery_truthful_pair :
    ∃ group events,
      groupMachine.Run Machine.free (pairStarts ++ hearsDirty 1 1 1) group
          events ∧
        (1, .matched ⟨publisherOfT, subscriberOfT, ⟨[], 2⟩, 2, ['h']⟩) ∈
          events ∧
        TrueMatch (registryOf group.2) 1
          ⟨publisherOfT, subscriberOfT, ⟨[], 2⟩, 2, ['h']⟩ := by
  obtain ⟨group, events, run, checked⟩ :=
    Machine.run_of_exec_check groupMachine Machine.free
      (pairStarts ++ hearsDirty 1 1 1) ([], freshLoops)
      (fun _ events =>
        (1, .matched ⟨publisherOfT, subscriberOfT, ⟨[], 2⟩, 2, ['h']⟩) ∈
          events)
      freshLoops_fresh (by decide +kernel)
  have reported := of_decide_eq_true checked
  exact ⟨group, events, run, reported,
    (discovery_truthful run).1 1 _ (Or.inl reported)⟩

/-! ## The two sides agree -/

/-- The participant `pid` has finished an iteration, has matched all its
endpoints, and knows the endpoints that `id` has now. -/
def UpToDate (loops : Nat → AgentLoop) (pid id : Nat) : Prop :=
  (loops pid).pc = .receiving ∧
    (loops pid).agent.endpointsDirty = false ∧
    ∃ remote,
      (loops pid).agent.remotes[id]? = some remote ∧
        remote.endpoints = (loops id).agent.localEndpoints

/-- The participant `pid` has an active match with `id` between endpoints of
these kinds on this topic. -/
def MatchedAs (loops : Nat → AgentLoop) (pid id : Nat)
    (kind otherKind : EndpointKind) (topic : Text) : Prop :=
  ∃ (key : Text) (m : MatchInfo),
    (loops pid).agent.activeMatches[key]? = some m ∧
      m.remoteParticipantId = id ∧ m.localEndpoint.kind = kind ∧
      m.remoteEndpoint.kind = otherKind ∧ m.localEndpoint.topic = topic

theorem topic_of_matching {le re : EndpointInfo} (matching : Matching le re) :
    le.topic = re.topic :=
  topic_of_pairMatches ((pairMatches_iff le re).mpr matching)

/-- One side is matched exactly where two registered endpoints belong
together. -/
theorem matchedAs_iff
    {inputs : List (Nat × ParticipantStep)}
    {group : List ParticipantAnnouncement × (Nat → AgentLoop)}
    {events : List (Nat × AgentEvent)}
    (run : groupMachine.Run Machine.free inputs group events)
    {pid id : Nat} (upToDate : UpToDate group.2 pid id)
    (kind otherKind : EndpointKind) (topic : Text) :
    MatchedAs group.2 pid id kind otherKind topic ↔
      ∃ le ∈ (group.2 pid).agent.localEndpoints,
        ∃ re ∈ (group.2 id).agent.localEndpoints,
          le.kind = kind ∧ re.kind = otherKind ∧ le.topic = topic ∧
            Matching le re := by
  obtain ⟨atEnd, clean, remote, known, listed⟩ := upToDate
  obtain ⟨ghost, _, participants⟩ := groupInvariant_of_run run
  constructor
  · rintro ⟨key, m, found, rfl, rfl, rfl, rfl⟩
    have isTrue := (participants pid).active key m found
    rw [GroupInvariant.registry_eq participants] at isTrue
    exact ⟨_, isTrue.localEndpoint, _, isTrue.remoteEndpoint, rfl, rfl, rfl,
      isTrue.matching⟩
  · rintro ⟨le, localMember, re, remoteMember, rfl, rfl, rfl, matching⟩
    have agent := (participants pid).history.agent
    have paired := (pairMatches_iff le re).mpr matching
    have member :
        (⟨le, re, remote.locator, id, remote.hostId⟩ : MatchInfo) ∈
          remote.matches id (group.2 pid).agent.localEndpoints :=
      mem_matchEndpoints.mpr
        ⟨localMember, by rw [listed]; exact remoteMember, paired, rfl, rfl,
          rfl⟩
    obtain ⟨recorded, found, _⟩ :=
      agent.recorded clean id remote known
        (by rw [atEnd]; exact fun pending => pending) _ member
    have genuine := agent.genuine _ _ found
    obtain ⟨sameKind, sameOther, sameTopic, sameId⟩ :=
      (matchKey_eq_iff genuine.paired paired).mp genuine.key
    exact ⟨_, recorded, found, sameId, sameKind, sameOther, sameTopic⟩

/-- What belongs together does so from either side. -/
theorem matchedAs_comm
    {inputs : List (Nat × ParticipantStep)}
    {group : List ParticipantAnnouncement × (Nat → AgentLoop)}
    {events : List (Nat × AgentEvent)}
    (run : groupMachine.Run Machine.free inputs group events)
    {pid id : Nat} (here : UpToDate group.2 pid id)
    (there : UpToDate group.2 id pid)
    (kind otherKind : EndpointKind) (topic : Text) :
    MatchedAs group.2 pid id kind otherKind topic ↔
      MatchedAs group.2 id pid otherKind kind topic := by
  rw [matchedAs_iff run here kind otherKind topic,
    matchedAs_iff run there otherKind kind topic]
  constructor
  · rintro ⟨le, localMember, re, remoteMember, rfl, rfl, rfl, matching⟩
    exact ⟨re, remoteMember, le, localMember, rfl, rfl,
      (topic_of_matching matching).symm, (matching_comm le re).mp matching⟩
  · rintro ⟨re, remoteMember, le, localMember, rfl, rfl, rfl, matching⟩
    exact ⟨le, localMember, re, remoteMember, rfl, rfl,
      (topic_of_matching matching).symm, (matching_comm re le).mp matching⟩

/-- Two participants that are up to date about each other are matched exactly
where endpoints that they have registered belong together, and each match of
one is mirrored by a match of the other. -/
theorem matches_mirrored
    {inputs : List (Nat × ParticipantStep)}
    {group : List ParticipantAnnouncement × (Nat → AgentLoop)}
    {events : List (Nat × AgentEvent)}
    (run : groupMachine.Run Machine.free inputs group events)
    {pid id : Nat} (here : UpToDate group.2 pid id)
    (there : UpToDate group.2 id pid)
    (kind otherKind : EndpointKind) (topic : Text) :
    (MatchedAs group.2 pid id kind otherKind topic ↔
      ∃ le ∈ (group.2 pid).agent.localEndpoints,
        ∃ re ∈ (group.2 id).agent.localEndpoints,
          le.kind = kind ∧ re.kind = otherKind ∧ le.topic = topic ∧
            Matching le re) ∧
      (MatchedAs group.2 pid id kind otherKind topic ↔
        MatchedAs group.2 id pid otherKind kind topic) :=
  ⟨matchedAs_iff run here kind otherKind topic,
    matchedAs_comm run here there kind otherKind topic⟩

/-- Both participants have heard each other. -/
theorem matches_mirrored_pair :
    ∃ group events,
      groupMachine.Run Machine.free
          (pairStarts ++ hearsDirty 1 1 1 ++ hearsDirty 2 0 1) group events ∧
        MatchedAs group.2 1 2 .publisher .subscriber ['t'] ∧
        MatchedAs group.2 2 1 .subscriber .publisher ['t'] := by
  obtain ⟨group, events, run, checked⟩ :=
    Machine.run_of_exec_check groupMachine Machine.free
      (pairStarts ++ hearsDirty 1 1 1 ++ hearsDirty 2 0 1) ([], freshLoops)
      (fun group _ =>
        ((group.2 1).pc = .receiving ∧
            (group.2 1).agent.endpointsDirty = false ∧
            (group.2 1).agent.localEndpoints = [publisherOfT] ∧
            (group.2 1).agent.remotes[2]? =
              some ⟨['n'], [subscriberOfT], ⟨[], 2⟩, ['h'], 0⟩) ∧
          (group.2 2).pc = .receiving ∧
            (group.2 2).agent.endpointsDirty = false ∧
            (group.2 2).agent.localEndpoints = [subscriberOfT] ∧
            (group.2 2).agent.remotes[1]? =
              some ⟨['n'], [publisherOfT], ⟨[], 1⟩, ['h'], 0⟩)
      freshLoops_fresh (by decide +kernel)
  obtain ⟨⟨firstAtEnd, firstClean, firstOwn, firstKnows⟩, secondAtEnd,
    secondClean, secondOwn, secondKnows⟩ := of_decide_eq_true checked
  have mirrored :=
    matches_mirrored run ⟨firstAtEnd, firstClean, _, firstKnows, secondOwn.symm⟩
      ⟨secondAtEnd, secondClean, _, secondKnows, firstOwn.symm⟩ .publisher
      .subscriber ['t']
  have here : MatchedAs group.2 1 2 .publisher .subscriber ['t'] :=
    mirrored.1.mpr
      ⟨publisherOfT, by rw [firstOwn]; exact List.mem_cons_self, subscriberOfT,
        by rw [secondOwn]; exact List.mem_cons_self, rfl, rfl, rfl,
        (pairMatches_iff _ _).mp (by decide)⟩
  exact ⟨group, events, run, here, mirrored.2.mp here⟩

end MiniMiddleware.Discovery
