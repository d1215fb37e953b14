import MiniMiddleware.Discovery.EndpointMatcher
import MiniMiddleware.Library.Tables

/-!
# The discovery agent

One background thread receives announcements, matches endpoints, announces
and reaps participants that have fallen silent, while application threads add
endpoints.  `add_endpoint` holds the mutex for its whole body and stores the
dirty flag last, so it is one step.  The background loop is cut where it takes
the mutex or touches the flag: receiving and storing an announcement,
`try_match` from its copy of the local endpoints on, the exchange of the flag,
the copy of the remotes, announcing, and reaping.
-/

namespace MiniMiddleware.Discovery

open MiniMiddleware.Library

/-- `ParticipantAnnouncement`. -/
structure ParticipantAnnouncement where
  participantId : Nat
  nodeName : Text
  dataLocator : Locator
  endpoints : List EndpointInfo
  hostId : Text
  deriving DecidableEq, Repr

/-- `DiscoveryAgent::Remote`. -/
structure Remote where
  nodeName : Text
  endpoints : List EndpointInfo
  locator : Locator
  hostId : Text
  lastSeen : Nat
  deriving DecidableEq, Repr

/-- The members of `DiscoveryAgent`; `hostId` is `local_host_id()`. -/
structure DiscoveryAgent where
  nodeName : Text
  dataLocator : Locator
  participantId : Nat
  hostId : Text
  livelinessTimeout : Nat := 5000
  localEndpoints : List EndpointInfo := []
  endpointsDirty : Bool := false
  remotes : Std.TreeMap Nat Remote := ∅
  activeMatches : Std.TreeMap Text MatchInfo := ∅

/-- What `try_match` computes for a remote participant. -/
def Remote.matches (remote : Remote) (remoteId : Nat)
    (localEndpoints : List EndpointInfo) : List MatchInfo :=
  matchEndpoints localEndpoints remoteId remote.locator remote.endpoints
    remote.hostId

namespace DiscoveryAgent

/-- `add_endpoint`. -/
def addEndpoint (agent : DiscoveryAgent) (endpoint : EndpointInfo) :
    DiscoveryAgent :=
  { agent with
    localEndpoints := agent.localEndpoints ++ [endpoint]
    endpointsDirty := true }

/-- `announce`: the announcement that is sent. -/
def announce (agent : DiscoveryAgent) : ParticipantAnnouncement where
  participantId := agent.participantId
  nodeName := agent.nodeName
  dataLocator := agent.dataLocator
  endpoints := agent.localEndpoints
  hostId := agent.hostId

/-- The remote participant that an announcement describes. -/
def remoteOf (announcement : ParticipantAnnouncement) (now : Nat) : Remote where
  nodeName := announcement.nodeName
  endpoints := announcement.endpoints
  locator := announcement.dataLocator
  hostId := announcement.hostId
  lastSeen := now

/-- The critical section of `handle_announcement`. -/
def storeRemote (agent : DiscoveryAgent)
    (announcement : ParticipantAnnouncement) (now : Nat) : DiscoveryAgent :=
  { agent with
    remotes :=
      agent.remotes.insert announcement.participantId
        (remoteOf announcement now) }

/-- `try_match`: the agent afterwards, and the calls of `on_match`. -/
def tryMatch (agent : DiscoveryAgent) (remoteId : Nat) (remote : Remote) :
    DiscoveryAgent × List MatchInfo :=
  let recorded :=
    recordAll matchKey (remote.matches remoteId agent.localEndpoints)
      agent.activeMatches
  ({ agent with activeMatches := recorded.1 }, recorded.2)

/-- The participants that `reap_dead` finds silent. -/
def deadIds (agent : DiscoveryAgent) (now : Nat) : List Nat :=
  (agent.remotes.toList.filter fun entry =>
    agent.livelinessTimeout < now - entry.2.lastSeen).map Prod.fst

/-- The active matches with one participant, in the order of their keys. -/
def matchesWith (agent : DiscoveryAgent) (remoteId : Nat) : List MatchInfo :=
  (agent.activeMatches.toList.map Prod.snd).filter fun m =>
    m.remoteParticipantId = remoteId

/-- The loop of `reap_dead` for one dead participant: the agent afterwards,
and the calls of `on_unmatch`. -/
def unmatchAll (agent : DiscoveryAgent) (deadId : Nat) :
    DiscoveryAgent × List MatchInfo :=
  let unmatched := agent.matchesWith deadId
  ({ agent with
      activeMatches :=
        eraseWhere (fun m => m.remoteParticipantId = deadId)
          agent.activeMatches },
    unmatched)

/-- The second half of `reap_dead`. -/
def unmatchDead : List Nat → DiscoveryAgent → DiscoveryAgent × List MatchInfo
  | [], agent => (agent, [])
  | deadId :: later, agent =>
      let first := agent.unmatchAll deadId
      let rest := unmatchDead later first.1
      (rest.1, first.2 ++ rest.2)

/-- `reap_dead`. -/
def reapDead (agent : DiscoveryAgent) (now : Nat) :
    DiscoveryAgent × List MatchInfo :=
  let dead := agent.deadIds now
  unmatchDead dead
    { agent with
      remotes := dead.foldl (fun remotes id => remotes.erase id) agent.remotes }

end DiscoveryAgent

/-! ## The background loop -/

/-- Where the background thread stands in `run`. -/
inductive LoopPc where
  | starting
  | receiving
  | matching (remoteId : Nat) (remote : Remote)
  | exchanging
  | copying
  | rematching (remotes : List (Nat × Remote))
  | announcing
  | reaping
  deriving DecidableEq, Repr

/-- An agent together with its background thread. -/
structure AgentLoop where
  agent : DiscoveryAgent
  pc : LoopPc

/-- Steps of the application and of the background thread.  `receive none` is
a timeout or a malformed datagram; `announces` says whether the announce
interval has passed. -/
inductive AgentInput where
  | addEndpoint (endpoint : EndpointInfo)
  | receive (announcement : Option ParticipantAnnouncement) (now : Nat)
  | advance (announces : Bool) (now : Nat)
  deriving DecidableEq, Repr

/-- Callbacks and sent announcements. -/
inductive AgentEvent where
  | matched (m : MatchInfo)
  | unmatched (m : MatchInfo)
  | announced (announcement : ParticipantAnnouncement)
  deriving DecidableEq, Repr

namespace AgentLoop

/-- The step of the background thread behind `recv`. -/
def advance (loop : AgentLoop) (announces : Bool) (now : Nat) :
    Option (AgentLoop × List AgentEvent) :=
  match loop.pc with
  | .starting =>
      some ({ loop with pc := .receiving }, [.announced loop.agent.announce])
  | .receiving => none
  | .matching remoteId remote =>
      let tried := loop.agent.tryMatch remoteId remote
      some (⟨tried.1, .exchanging⟩, tried.2.map .matched)
  | .exchanging =>
      if loop.agent.endpointsDirty then
        some (⟨{ loop.agent with endpointsDirty := false }, .copying⟩, [])
      else
        some ({ loop with pc := .announcing }, [])
  | .copying =>
      some ({ loop with pc := .rematching loop.agent.remotes.toList }, [])
  | .rematching [] => some ({ loop with pc := .announcing }, [])
  | .rematching ((remoteId, remote) :: later) =>
      let tried := loop.agent.tryMatch remoteId remote
      some (⟨tried.1, .rematching later⟩, tried.2.map .matched)
  | .announcing =>
      some ({ loop with pc := .reaping },
        if announces then [.announced loop.agent.announce] else [])
  | .reaping =>
      let reaped := loop.agent.reapDead now
      some (⟨reaped.1, .receiving⟩, reaped.2.map .unmatched)

/-- One step of the agent. -/
def step (loop : AgentLoop) :
    AgentInput → Option (AgentLoop × List AgentEvent)
  | .addEndpoint endpoint =>
      some ({ loop with agent := loop.agent.addEndpoint endpoint }, [])
  | .receive announcement now =>
      match loop.pc, announcement with
      | .receiving, none => some ({ loop with pc := .exchanging }, [])
      | .receiving, some announcement =>
          if announcement.participantId = loop.agent.participantId then
            some ({ loop with pc := .exchanging }, [])
          else
            some
              (⟨loop.agent.storeRemote announcement now,
                .matching announcement.participantId
                  (DiscoveryAgent.remoteOf announcement now)⟩, [])
      | _, _ => none
  | .advance announces now => loop.advance announces now

/-- The participant that the next step passes to `try_match`. -/
def nextMatch (loop : AgentLoop) : Option (Nat × Remote) :=
  match loop.pc with
  | .matching remoteId remote => some (remoteId, remote)
  | .rematching (entry :: _) => some entry
  | _ => none

/-- What a step can do, one constructor for each kind of effect. -/
inductive Steps (loop : AgentLoop) :
    AgentInput → AgentLoop → List AgentEvent → Prop
  | added (endpoint : EndpointInfo) :
      Steps loop (.addEndpoint endpoint)
        { loop with agent := loop.agent.addEndpoint endpoint } []
  | ignored (announcement : Option ParticipantAnnouncement) (now : Nat) :
      loop.pc = .receiving →
      Steps loop (.receive announcement now) { loop with pc := .exchanging } []
  | stored (announcement : ParticipantAnnouncement) (now : Nat) :
      loop.pc = .receiving →
      announcement.participantId ≠ loop.agent.participantId →
      Steps loop (.receive (some announcement) now)
        ⟨loop.agent.storeRemote announcement now,
          .matching announcement.participantId
            (DiscoveryAgent.remoteOf announcement now)⟩ []
  | moved (announces : Bool) (now : Nat) (next : LoopPc)
      (events : List AgentEvent) :
      (∀ event ∈ events, event = .announced loop.agent.announce) →
      Steps loop (.advance announces now) { loop with pc := next } events
  | tried (announces : Bool) (now remoteId : Nat) (remote : Remote)
      (next : LoopPc) :
      loop.nextMatch = some (remoteId, remote) →
      Steps loop (.advance announces now)
        ⟨(loop.agent.tryMatch remoteId remote).1, next⟩
        ((loop.agent.tryMatch remoteId remote).2.map .matched)
  | exchanged (announces : Bool) (now : Nat) :
      Steps loop (.advance announces now)
        ⟨{ loop.agent with endpointsDirty := false }, .copying⟩ []
  | reaped (announces : Bool) (now : Nat) :
      loop.pc = .reaping →
      Steps loop (.advance announces now)
        ⟨(loop.agent.reapDead now).1, .receiving⟩
        ((loop.agent.reapDead now).2.map .unmatched)

theorem steps_of_step
    {loop target : AgentLoop} {input : AgentInput} {emitted : List AgentEvent}
    (stepped : loop.step input = some (target, emitted)) :
    loop.Steps input target emitted := by
  obtain ⟨agent, pc⟩ := loop
  cases input with
  | addEndpoint endpoint =>
      cases stepped
      exact Steps.added endpoint
  | receive announcement now =>
      simp only [step] at stepped
      split at stepped
      · cases stepped
        exact Steps.ignored none now rfl
      · rename_i announcement
        split at stepped
        · cases stepped
          exact Steps.ignored (some announcement) now rfl
        · rename_i foreign
          cases stepped
          exact Steps.stored announcement now rfl foreign
      · cases stepped
  | advance announces now =>
      cases pc with
      | starting =>
          cases stepped
          exact Steps.moved announces now _ _ (by simp)
      | receiving =>
          cases stepped
      | matching remoteId remote =>
          cases stepped
          exact Steps.tried announces now remoteId remote _ rfl
      | exchanging =>
          simp only [step, advance] at stepped
          split at stepped
          · cases stepped
            exact Steps.exchanged announces now
          · cases stepped
            exact Steps.moved announces now _ _ (by simp)
      | copying =>
          cases stepped
          exact Steps.moved announces now _ _ (by simp)
      | rematching remotes =>
          cases remotes with
          | nil =>
              cases stepped
              exact Steps.moved announces now _ _ (by simp)
          | cons entry later =>
              cases stepped
              exact Steps.tried announces now entry.1 entry.2 _ rfl
      | announcing =>
          cases stepped
          refine Steps.moved announces now _ _ fun event member => ?_
          split at member
          · exact List.mem_singleton.mp member
          · cases member
      | reaping =>
          cases stepped
          exact Steps.reaped announces now rfl

end AgentLoop

end MiniMiddleware.Discovery
