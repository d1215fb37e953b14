import MiniMiddleware.Discovery.Coverage
import MiniMiddleware.Library.Lists
import MiniMiddleware.Library.Machine

/-!
# The snapshot of the discovery agent

`snapshot_endpoints` lists what the agent knows: its own endpoints and those
of the participants it has heard from lately.  The table behind it is
overwritten by announcements and pruned by `reap_dead`; here it is compared
with the history of all calls.
-/

namespace MiniMiddleware.Discovery

open MiniMiddleware.Library

/-- `DiscoveredEndpoint`. -/
structure DiscoveredEndpoint where
  participantId : Nat
  nodeName : Text
  endpoint : EndpointInfo
  locator : Locator
  hostId : Text
  isLocal : Bool
  deriving DecidableEq, Repr

namespace DiscoveryAgent

/-- `handle_announcement`: the agent afterwards, and the calls of
`on_match`. -/
def handleAnnouncement (agent : DiscoveryAgent)
    (announcement : ParticipantAnnouncement) (now : Nat) :
    DiscoveryAgent × List MatchInfo :=
  if announcement.participantId = agent.participantId then
    (agent, [])
  else
    (agent.storeRemote announcement now).tryMatch announcement.participantId
      (remoteOf announcement now)

/-- The row of one of the agent's own endpoints. -/
def localRow (agent : DiscoveryAgent) (endpoint : EndpointInfo) :
    DiscoveredEndpoint where
  participantId := agent.participantId
  nodeName := agent.nodeName
  endpoint := endpoint
  locator := agent.dataLocator
  hostId := agent.hostId
  isLocal := true

/-- The rows of a remote participant. -/
def remoteRows (participantId : Nat) (remote : Remote) :
    List DiscoveredEndpoint :=
  remote.endpoints.map fun endpoint =>
    { participantId := participantId
      nodeName := remote.nodeName
      endpoint := endpoint
      locator := remote.locator
      hostId := remote.hostId
      isLocal := false }

/-- `snapshot_endpoints`. -/
def snapshotEndpoints (agent : DiscoveryAgent) : List DiscoveredEndpoint :=
  agent.localEndpoints.map agent.localRow ++
    agent.remotes.toList.flatMap fun entry => remoteRows entry.1 entry.2

end DiscoveryAgent

/-! ## Histories -/

/-- A call on the agent, with the time it reads from the clock. -/
inductive AgentCall where
  | addEndpoint (endpoint : EndpointInfo)
  | announcement (announcement : ParticipantAnnouncement) (now : Nat)
  | reap (now : Nat)
  deriving DecidableEq, Repr

/-- The agent after one call. -/
def DiscoveryAgent.call (agent : DiscoveryAgent) : AgentCall → DiscoveryAgent
  | .addEndpoint endpoint => agent.addEndpoint endpoint
  | .announcement announcement now =>
      (agent.handleAnnouncement announcement now).1
  | .reap now => (agent.reapDead now).1

/-- All sequences of calls on a new agent; the events are the calls. -/
def agentCallMachine (fresh : DiscoveryAgent) :
    Machine DiscoveryAgent AgentCall AgentCall where
  initial agent := agent = fresh
  step agent call := some (agent.call call, [call])

/-- The endpoints added so far, in order. -/
def addedEndpoints (calls : List AgentCall) : List EndpointInfo :=
  calls.filterMap fun
    | .addEndpoint endpoint => some endpoint
    | _ => none

/-- The times that the calls have read, in order. -/
def callTimes (calls : List AgentCall) : List Nat :=
  calls.filterMap fun
    | .addEndpoint _ => none
    | .announcement _ now => some now
    | .reap now => some now

/-- The last announcement of a participant, when it was heard, and the calls
since then. -/
structure LastHeard (calls : List AgentCall) (id : Nat)
    (announcement : ParticipantAnnouncement) (heard : Nat)
    (since : List AgentCall) : Prop where
  sender : announcement.participantId = id
  split : ∃ before, calls = before ++ .announcement announcement heard :: since
  latest :
    ∀ other now, .announcement other now ∈ since → other.participantId ≠ id

/-- The last announcement of a participant has not been followed by a reap
more than the timeout later. -/
def Live (timeout : Nat) (calls : List AgentCall) (id : Nat)
    (announcement : ParticipantAnnouncement) (heard : Nat) : Prop :=
  ∃ since,
    LastHeard calls id announcement heard since ∧
      ∀ now, .reap now ∈ since → ¬ timeout < now - heard

namespace LastHeard

variable {calls : List AgentCall} {id heard : Nat}
  {announcement : ParticipantAnnouncement} {since : List AgentCall}

/-- How the last announcement changes with one more call. -/
theorem append_iff (call : AgentCall) :
    LastHeard (calls ++ [call]) id announcement heard since ↔
      call = .announcement announcement heard ∧
          announcement.participantId = id ∧ since = [] ∨
        (∀ other now, call = .announcement other now →
          other.participantId ≠ id) ∧
          ∃ earlier,
            LastHeard calls id announcement heard earlier ∧
              since = earlier ++ [call] := by
  constructor
  · rintro ⟨sender, ⟨before, split⟩, latest⟩
    rw [List.append_cons before, concat_eq_append_iff] at split
    rcases split with ⟨rfl, ended⟩ | ⟨earlier, rfl, callsEq⟩
    · have last := (List.append_inj' ended rfl).2
      cases last
      exact Or.inl ⟨rfl, sender, rfl⟩
    · refine Or.inr ⟨fun other now same => latest other now (by simp [same]),
        earlier, ⟨sender, ⟨before, by simpa using callsEq⟩, ?_⟩, rfl⟩
      intro other now member
      exact latest other now (List.mem_append_left _ member)
  · rintro (⟨rfl, sender, rfl⟩ | ⟨foreign, earlier, ⟨sender, ⟨before, split⟩,
      latest⟩, rfl⟩)
    · exact ⟨sender, ⟨calls, rfl⟩, by simp⟩
    · refine ⟨sender, ⟨before, by simp [split]⟩, ?_⟩
      intro other now member
      rcases List.mem_append.mp member with before | last
      · exact latest other now before
      · exact foreign other now (List.mem_singleton.mp last).symm

end LastHeard

theorem not_live_nil (timeout id : Nat)
    (announcement : ParticipantAnnouncement) (heard : Nat) :
    ¬ Live timeout [] id announcement heard := by
  rintro ⟨since, ⟨_, ⟨before, split⟩, _⟩, _⟩
  simp at split

theorem live_append_iff
    {timeout : Nat} {calls : List AgentCall} {id heard : Nat}
    {announcement : ParticipantAnnouncement} (call : AgentCall) :
    Live timeout (calls ++ [call]) id announcement heard ↔
      call = .announcement announcement heard ∧
          announcement.participantId = id ∨
        (∀ other now, call = .announcement other now →
          other.participantId ≠ id) ∧
          (∀ now, call = .reap now → ¬ timeout < now - heard) ∧
          Live timeout calls id announcement heard := by
  constructor
  · rintro ⟨since, last, noReap⟩
    rcases (LastHeard.append_iff call).mp last with
      ⟨same, sender, _⟩ | ⟨foreign, earlier, lastBefore, rfl⟩
    · exact Or.inl ⟨same, sender⟩
    · refine Or.inr ⟨foreign, fun now same => noReap now (by simp [same]),
        earlier, lastBefore, fun now member => noReap now ?_⟩
      exact List.mem_append_left _ member
  · rintro (⟨same, sender⟩ | ⟨foreign, noReap, earlier, last, earlierReaps⟩)
    · exact ⟨[], (LastHeard.append_iff call).mpr (Or.inl ⟨same, sender, rfl⟩),
        by simp⟩
    · refine ⟨earlier ++ [call],
        (LastHeard.append_iff call).mpr (Or.inr ⟨foreign, earlier, last, rfl⟩),
        fun now member => ?_⟩
      rcases List.mem_append.mp member with before | now
      · exact earlierReaps _ before
      · exact noReap _ (List.mem_singleton.mp now).symm

/-- A later announcement replaces the earlier ones of its sender. -/
theorem live_announcement_iff
    {timeout : Nat} {calls : List AgentCall} {id heard now : Nat}
    {announcement received : ParticipantAnnouncement} :
    Live timeout (calls ++ [.announcement received now]) id announcement
        heard ↔
      if received.participantId = id then
        announcement = received ∧ heard = now
      else
        Live timeout calls id announcement heard := by
  rw [live_append_iff]
  by_cases sender : received.participantId = id
  · rw [if_pos sender]
    constructor
    · rintro (⟨same, _⟩ | ⟨foreign, _⟩)
      · cases same
        exact ⟨rfl, rfl⟩
      · exact absurd sender (foreign received now rfl)
    · rintro ⟨rfl, rfl⟩
      exact Or.inl ⟨rfl, sender⟩
  · rw [if_neg sender]
    constructor
    · rintro (⟨same, own⟩ | ⟨_, _, live⟩)
      · cases same
        exact absurd own sender
      · exact live
    · intro live
      refine Or.inr ⟨?_, by simp, live⟩
      intro other time same
      cases same
      exact sender

theorem live_reap_iff
    {timeout : Nat} {calls : List AgentCall} {id heard now : Nat}
    {announcement : ParticipantAnnouncement} :
    Live timeout (calls ++ [.reap now]) id announcement heard ↔
      ¬ timeout < now - heard ∧ Live timeout calls id announcement heard := by
  simp [live_append_iff]

theorem live_addEndpoint_iff
    {timeout : Nat} {calls : List AgentCall} {id heard : Nat}
    {announcement : ParticipantAnnouncement} {endpoint : EndpointInfo} :
    Live timeout (calls ++ [.addEndpoint endpoint]) id announcement heard ↔
      Live timeout calls id announcement heard := by
  simp [live_append_iff]

/-! ## The table and the history -/

/-- What no call changes: who the agent is, and its timeout. -/
structure SameAgent (fresh agent : DiscoveryAgent) : Prop where
  participantId : agent.participantId = fresh.participantId
  nodeName : agent.nodeName = fresh.nodeName
  dataLocator : agent.dataLocator = fresh.dataLocator
  hostId : agent.hostId = fresh.hostId
  timeout : agent.livelinessTimeout = fresh.livelinessTimeout

theorem SameAgent.unmatchDead
    {fresh agent : DiscoveryAgent} (same : SameAgent fresh agent)
    (dead : List Nat) :
    SameAgent fresh (DiscoveryAgent.unmatchDead dead agent).1 := by
  induction dead generalizing agent with
  | nil =>
      exact same
  | cons deadId later inductionHypothesis =>
      have once : SameAgent fresh (agent.unmatchAll deadId).1 :=
        ⟨same.participantId, same.nodeName, same.dataLocator, same.hostId,
          same.timeout⟩
      exact inductionHypothesis once

/-- The agent's tables, in terms of the calls made so far. -/
structure TableInvariant (fresh agent : DiscoveryAgent)
    (calls : List AgentCall) : Prop where
  same : SameAgent fresh agent
  locals : agent.localEndpoints = addedEndpoints calls
  remotes :
    ∀ id remote,
      agent.remotes[id]? = some remote ↔
        id ≠ fresh.participantId ∧
          ∃ announcement heard,
            Live fresh.livelinessTimeout calls id announcement heard ∧
              remote = DiscoveryAgent.remoteOf announcement heard

namespace TableInvariant

variable {fresh agent : DiscoveryAgent} {calls : List AgentCall}

theorem addEndpoint
    (invariant : TableInvariant fresh agent calls) (endpoint : EndpointInfo) :
    TableInvariant fresh (agent.addEndpoint endpoint)
      (calls ++ [.addEndpoint endpoint]) := by
  obtain ⟨same, locals, remotes⟩ := invariant
  constructor
  case same =>
    exact ⟨same.participantId, same.nodeName, same.dataLocator, same.hostId,
      same.timeout⟩
  case locals =>
    simp [DiscoveryAgent.addEndpoint, addedEndpoints, locals,
      List.filterMap_append]
  case remotes =>
    intro id remote
    simp only [live_addEndpoint_iff]
    exact remotes id remote

theorem handleAnnouncement
    (invariant : TableInvariant fresh agent calls)
    (announcement : ParticipantAnnouncement) (now : Nat) :
    TableInvariant fresh (agent.handleAnnouncement announcement now).1
      (calls ++ [.announcement announcement now]) := by
  obtain ⟨same, locals, remotes⟩ := invariant
  have localsKept :
      addedEndpoints (calls ++ [.announcement announcement now]) =
        addedEndpoints calls := by
    simp [addedEndpoints, List.filterMap_append]
  by_cases own : announcement.participantId = agent.participantId
  · rw [DiscoveryAgent.handleAnnouncement, if_pos own]
    refine ⟨same, by rw [localsKept, locals], fun id remote => ?_⟩
    rw [remotes id remote]
    refine and_congr_right fun foreign => ?_
    have other : announcement.participantId ≠ id := by
      rw [own, same.participantId]
      exact foreign.symm
    simp only [live_announcement_iff, if_neg other]
  · rw [DiscoveryAgent.handleAnnouncement, if_neg own]
    constructor
    case same =>
      exact ⟨same.participantId, same.nodeName, same.dataLocator, same.hostId,
        same.timeout⟩
    case locals =>
      rw [localsKept]
      exact locals
    case remotes =>
      intro id remote
      have stored :
          ((agent.storeRemote announcement now).tryMatch
              announcement.participantId
              (DiscoveryAgent.remoteOf announcement now)).1.remotes[id]? =
            if announcement.participantId = id then
              some (DiscoveryAgent.remoteOf announcement now)
            else
              agent.remotes[id]? := by
        simp only [DiscoveryAgent.tryMatch, DiscoveryAgent.storeRemote,
          Std.TreeMap.getElem?_insert, Nat.compare_eq_eq]
      rw [stored]
      by_cases sender : announcement.participantId = id
      · have foreign : id ≠ fresh.participantId := by
          rw [← sender, ← same.participantId]
          exact own
        simp only [live_announcement_iff, if_pos sender, Option.some.injEq]
        constructor
        · rintro rfl
          exact ⟨foreign, announcement, now, ⟨rfl, rfl⟩, rfl⟩
        · rintro ⟨_, _, _, ⟨rfl, rfl⟩, remoteEq⟩
          exact remoteEq.symm
      · simp only [if_neg sender, remotes id remote, live_announcement_iff]

/-- The participants that a reap removes. -/
theorem mem_deadIds (agent : DiscoveryAgent) (now id : Nat) :
    id ∈ agent.deadIds now ↔
      ∃ remote, agent.remotes[id]? = some remote ∧
        agent.livelinessTimeout < now - remote.lastSeen := by
  simp only [DiscoveryAgent.deadIds, List.mem_map, List.mem_filter,
    Prod.exists, exists_and_right, exists_eq_right, decide_eq_true_eq,
    Std.TreeMap.mem_toList_iff_getElem?_eq_some]

theorem reapDead
    (invariant : TableInvariant fresh agent calls) (now : Nat) :
    TableInvariant fresh (agent.reapDead now).1 (calls ++ [.reap now]) := by
  obtain ⟨same, locals, remotes⟩ := invariant
  constructor
  case same =>
    apply SameAgent.unmatchDead
    exact ⟨same.participantId, same.nodeName, same.dataLocator, same.hostId,
      same.timeout⟩
  case locals =>
    rw [(reapDead_frame agent now).1, locals]
    simp [addedEndpoints, List.filterMap_append]
  case remotes =>
    intro id remote
    have kept :
        (agent.reapDead now).1.remotes[id]? = some remote ↔
          agent.remotes[id]? = some remote ∧
            ¬ fresh.livelinessTimeout < now - remote.lastSeen := by
      have dead := mem_deadIds agent now id
      rw [same.timeout] at dead
      rw [remotes_reapDead]
      by_cases gone : id ∈ agent.deadIds now
      · obtain ⟨stored, found, old⟩ := dead.mp gone
        rw [if_pos gone, found, Option.some.injEq]
        constructor
        · intro impossible
          cases impossible
        · rintro ⟨rfl, young⟩
          exact absurd old young
      · rw [if_neg gone]
        constructor
        · intro found
          exact ⟨found, fun old => gone (dead.mpr ⟨remote, found, old⟩)⟩
        · exact And.left
    rw [kept, remotes id remote]
    simp only [live_reap_iff]
    constructor
    · rintro ⟨⟨foreign, announcement, heard, live, rfl⟩, young⟩
      exact ⟨foreign, announcement, heard, ⟨young, live⟩, rfl⟩
    · rintro ⟨foreign, announcement, heard, ⟨young, live⟩, rfl⟩
      exact ⟨⟨foreign, announcement, heard, live, rfl⟩, young⟩

/-- Every history of calls determines the tables. -/
theorem of_run
    (noEndpoints : fresh.localEndpoints = []) (noRemotes : fresh.remotes = ∅)
    {inputs : List AgentCall}
    (run : (agentCallMachine fresh).Run Machine.free inputs agent calls) :
    TableInvariant fresh agent calls := by
  refine run.invariant (fun agent calls => TableInvariant fresh agent calls)
    ?_ ?_
  · rintro agent rfl
    refine ⟨⟨rfl, rfl, rfl, rfl, rfl⟩, noEndpoints, fun id remote => ?_⟩
    simp only [noRemotes, Std.TreeMap.getElem?_emptyc, reduceCtorEq,
      not_live_nil, false_and, exists_false, and_false]
  · intro agent calls call target emitted invariant _ stepped
    cases stepped
    cases call with
    | addEndpoint endpoint => exact invariant.addEndpoint endpoint
    | announcement announcement now =>
        exact invariant.handleAnnouncement announcement now
    | reap now => exact invariant.reapDead now

end TableInvariant

/-! ## The snapshot -/

/-- The rows that an announcement describes. -/
def announcedRows (announcement : ParticipantAnnouncement) :
    List DiscoveredEndpoint :=
  announcement.endpoints.map fun endpoint =>
    { participantId := announcement.participantId
      nodeName := announcement.nodeName
      endpoint := endpoint
      locator := announcement.dataLocator
      hostId := announcement.hostId
      isLocal := false }

/-- The announcement that a table entry was stored from, and its time. -/
def announcementOf (entry : Nat × Remote) : ParticipantAnnouncement × Nat :=
  (⟨entry.1, entry.2.nodeName, entry.2.locator, entry.2.endpoints,
      entry.2.hostId⟩, entry.2.lastSeen)

theorem mem_map_announcementOf
    {fresh agent : DiscoveryAgent} {calls : List AgentCall}
    (invariant : TableInvariant fresh agent calls)
    (announcement : ParticipantAnnouncement) (heard : Nat) :
    (announcement, heard) ∈ agent.remotes.toList.map announcementOf ↔
      announcement.participantId ≠ fresh.participantId ∧
        Live fresh.livelinessTimeout calls announcement.participantId
          announcement heard := by
  simp only [List.mem_map, Prod.exists,
    Std.TreeMap.mem_toList_iff_getElem?_eq_some, invariant.remotes]
  constructor
  · rintro ⟨id, remote, ⟨foreign, stored, time, live, rfl⟩, same⟩
    have sender : stored.participantId = id := by
      obtain ⟨_, last, _⟩ := live
      exact last.sender
    subst sender
    cases same
    exact ⟨foreign, live⟩
  · rintro ⟨foreign, live⟩
    exact ⟨_, _, ⟨foreign, announcement, heard, live, rfl⟩, rfl⟩

theorem snapshotEndpoints_eq
    {fresh agent : DiscoveryAgent} {calls : List AgentCall}
    (invariant : TableInvariant fresh agent calls) :
    agent.snapshotEndpoints =
      (addedEndpoints calls).map fresh.localRow ++
        (agent.remotes.toList.map announcementOf).flatMap fun entry =>
          announcedRows entry.1 := by
  have sameRow : agent.localRow = fresh.localRow := by
    funext endpoint
    simp only [DiscoveryAgent.localRow, invariant.same.participantId,
      invariant.same.nodeName, invariant.same.dataLocator,
      invariant.same.hostId]
  rw [DiscoveryAgent.snapshotEndpoints, sameRow, invariant.locals,
    List.flatMap_map]
  rfl

/-- In a history with non-decreasing times that ends with a reap, no earlier
reap came later. -/
theorem reap_le_last
    {earlier : List AgentCall} {now time : Nat}
    (ordered : (callTimes (earlier ++ [.reap now])).Pairwise (· ≤ ·))
    (member : .reap time ∈ earlier ++ [.reap now]) :
    time ≤ now := by
  rcases List.mem_append.mp member with before | last
  · have times :
        callTimes (earlier ++ [.reap now]) = callTimes earlier ++ [now] := by
      simp [callTimes, List.filterMap_append]
    rw [times, List.pairwise_append] at ordered
    have read : time ∈ callTimes earlier :=
      List.mem_filterMap.mpr ⟨_, before, rfl⟩
    exact ordered.2.2 time read now (List.mem_singleton_self now)
  · cases List.mem_singleton.mp last
    exact Nat.le_refl _

/-- The snapshot is the live view: the agent's own endpoints in the order in
which they were added, and then, in increasing order of the other participants
whose last announcement no reap has outlived, what these announced.  Right after
a reap these are the participants heard within the timeout. -/
theorem snapshot_is_live_view
    {fresh agent : DiscoveryAgent} (noEndpoints : fresh.localEndpoints = [])
    (noRemotes : fresh.remotes = ∅) {inputs calls : List AgentCall}
    (run : (agentCallMachine fresh).Run Machine.free inputs agent calls)
    (ordered : (callTimes calls).Pairwise (· ≤ ·)) :
    ∃ entries : List (ParticipantAnnouncement × Nat),
      entries.Pairwise
          (fun first second =>
            first.1.participantId < second.1.participantId) ∧
        (∀ announcement heard,
          (announcement, heard) ∈ entries ↔
            announcement.participantId ≠ fresh.participantId ∧
              Live fresh.livelinessTimeout calls announcement.participantId
                announcement heard) ∧
        agent.snapshotEndpoints =
          (addedEndpoints calls).map fresh.localRow ++
            entries.flatMap (fun entry => announcedRows entry.1) ∧
        ∀ earlier now, calls = earlier ++ [.reap now] →
          (∀ entry ∈ entries,
            ¬ entry.2 < now - fresh.livelinessTimeout) ∧
          ∀ id announcement heard since,
            id ≠ fresh.participantId →
            LastHeard calls id announcement heard since →
            ¬ heard < now - fresh.livelinessTimeout →
            (announcement, heard) ∈ entries := by
  have invariant := TableInvariant.of_run noEndpoints noRemotes run
  have listed := mem_map_announcementOf invariant
  refine ⟨agent.remotes.toList.map announcementOf, ?_, listed,
    snapshotEndpoints_eq invariant, ?_⟩
  · rw [List.pairwise_map]
    refine Std.TreeMap.ordered_keys_toList.imp fun less => ?_
    exact Nat.compare_eq_lt.mp less
  · rintro earlier now rfl
    constructor
    · rintro ⟨announcement, heard⟩ member
      obtain ⟨_, live⟩ := (listed announcement heard).mp member
      have young := (live_reap_iff.mp live).1
      dsimp only
      omega
    · intro id announcement heard since foreign last young
      have sender := last.sender
      subst sender
      refine (listed announcement heard).mpr ⟨foreign, since, last, ?_⟩
      intro time member
      obtain ⟨before, split⟩ := last.split
      have bound : time ≤ now := by
        refine reap_le_last ordered ?_
        rw [split]
        simp [member]
      omega

/-- A participant that publishes one topic. -/
def publishing (participantId : Nat) (topic : Text) : ParticipantAnnouncement where
  participantId := participantId
  nodeName := ['n']
  dataLocator := ⟨['l'], 7400⟩
  endpoints := [{ kind := .publisher, topic := topic, typeName := ['T'] }]
  hostId := ['h']

/-- An agent with a timeout of 5. -/
def patientAgent : DiscoveryAgent where
  nodeName := ['a']
  dataLocator := ⟨['l'], 7401⟩
  participantId := 1
  hostId := ['h']
  livelinessTimeout := 5

/-- Two participants are heard, and one of them too long ago. -/
def twoHeard : List AgentCall :=
  [.announcement (publishing 3 ['x']) 0, .announcement (publishing 2 ['y']) 10,
    .reap 12]

theorem snapshot_is_live_view_twoHeard :
    ∃ (agent : DiscoveryAgent) (entries : List (ParticipantAnnouncement × Nat)),
      (agentCallMachine patientAgent).Run Machine.free twoHeard agent
          twoHeard ∧
        agent.snapshotEndpoints =
          entries.flatMap (fun entry => announcedRows entry.1) ∧
        (publishing 2 ['y'], 10) ∈ entries ∧
        (publishing 3 ['x'], 0) ∉ entries := by
  obtain ⟨agent, run⟩ :=
    Machine.run_of_exec_events (agentCallMachine patientAgent) Machine.free
      twoHeard patientAgent twoHeard rfl (by decide +kernel)
  obtain ⟨entries, _, _, rows, reaped⟩ :=
    snapshot_is_live_view rfl rfl run (by decide)
  obtain ⟨young, complete⟩ := reaped (twoHeard.take 2) 12 rfl
  refine ⟨agent, entries, run, rows, ?_, fun member => ?_⟩
  · have last :
        LastHeard twoHeard 2 (publishing 2 ['y']) 10 [.reap 12] :=
      ⟨rfl, ⟨[.announcement (publishing 3 ['x']) 0], rfl⟩, by simp⟩
    exact complete 2 _ 10 _ (by decide) last (by decide)
  · exact young _ member (by decide)

end MiniMiddleware.Discovery
