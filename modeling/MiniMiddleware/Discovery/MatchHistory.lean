import MiniMiddleware.Discovery.Coverage
import MiniMiddleware.Library.Brackets
import MiniMiddleware.Library.Machine

/-!
# The history of callbacks

`on_match` opens a match and `on_unmatch` closes it.  Over a whole run of the
agent the callbacks of each key take turns, an `on_unmatch` repeats the match
of the `on_match` before it, and the active matches are exactly those that are
open.  Together with the coverage of the loop this settles that no match is
missed: an active match was reported since its participant became known.
-/

namespace MiniMiddleware.Discovery

open MiniMiddleware.Library

/-- A discovery agent as a machine. -/
def agentMachine : Machine AgentLoop AgentInput AgentEvent where
  initial := AgentLoop.Fresh
  step := AgentLoop.step

/-- The callbacks among the events: `on_match` opens, `on_unmatch` closes. -/
def callbacks (events : List AgentEvent) : List (Bracket MatchInfo) :=
  events.filterMap fun event =>
    match event with
    | .matched m => some (.opened m)
    | .unmatched m => some (.closed m)
    | .announced _ => none

/-- The callbacks of one key. -/
def callbacksOf (key : Text) (events : List AgentEvent) :
    List (Bracket MatchInfo) :=
  historyOf matchKey key (callbacks events)

@[simp]
theorem callbacks_append (earlier later : List AgentEvent) :
    callbacks (earlier ++ later) = callbacks earlier ++ callbacks later :=
  List.filterMap_append

@[simp]
theorem callbacks_matched (entered : List MatchInfo) :
    callbacks (entered.map .matched) = entered.map .opened := by
  rw [callbacks, List.filterMap_map]
  exact congrFun List.filterMap_eq_map entered

@[simp]
theorem callbacks_unmatched (erased : List MatchInfo) :
    callbacks (erased.map .unmatched) = erased.map .closed := by
  rw [callbacks, List.filterMap_map]
  exact congrFun List.filterMap_eq_map erased

theorem callbacks_announced
    {events : List AgentEvent} {announcement : ParticipantAnnouncement}
    (silent : ∀ event ∈ events, event = .announced announcement) :
    callbacks events = [] := by
  refine List.filterMap_eq_nil_iff.mpr fun event member => ?_
  rw [silent event member]

/-! ## The ledger of the active matches -/

/-- The active matches are those whose last callback was `on_match`. -/
def Booked (agent : DiscoveryAgent) (events : List AgentEvent) : Prop :=
  Ledger matchKey agent.activeMatches (callbacks events)

theorem Booked.tryMatch
    {agent : DiscoveryAgent} {events : List AgentEvent}
    (booked : Booked agent events) (remoteId : Nat) (remote : Remote) :
    Booked (agent.tryMatch remoteId remote).1
      (events ++ (agent.tryMatch remoteId remote).2.map .matched) := by
  unfold Booked
  rw [callbacks_append, callbacks_matched]
  exact Ledger.recordAll booked _

theorem Booked.unmatchDead
    {agent : DiscoveryAgent} {events : List AgentEvent}
    (booked : Booked agent events)
    (genuine : ∀ key m, agent.activeMatches[key]? = some m → Genuine key m)
    (dead : List Nat) :
    Booked (DiscoveryAgent.unmatchDead dead agent).1
      (events ++
        (DiscoveryAgent.unmatchDead dead agent).2.map .unmatched) := by
  induction dead generalizing agent events with
  | nil =>
      simpa [DiscoveryAgent.unmatchDead] using booked
  | cons deadId later inductionHypothesis =>
      have first :
          Booked (agent.unmatchAll deadId).1
            (events ++ (agent.matchesWith deadId).map .unmatched) := by
        unfold Booked
        rw [callbacks_append, callbacks_unmatched]
        exact Ledger.eraseWhere booked
          (fun key m found => (genuine key m found).key)
          fun m => m.remoteParticipantId = deadId
      have stillGenuine :
          ∀ key m, (agent.unmatchAll deadId).1.activeMatches[key]? = some m →
            Genuine key m := by
        intro key m found
        rw [activeMatches_unmatchAll] at found
        exact genuine key m found.1
      have rest := inductionHypothesis first stillGenuine
      rw [List.append_assoc, ← List.map_append] at rest
      exact rest

theorem Booked.reapDead
    {agent : DiscoveryAgent} {events : List AgentEvent}
    (booked : Booked agent events)
    (genuine : ∀ key m, agent.activeMatches[key]? = some m → Genuine key m)
    (now : Nat) :
    Booked (agent.reapDead now).1
      (events ++ (agent.reapDead now).2.map .unmatched) := by
  let spared : DiscoveryAgent :=
    { agent with
      remotes :=
        (agent.deadIds now).foldl (fun remotes id => remotes.erase id)
          agent.remotes }
  have sparedBooked : Booked spared events := booked
  exact sparedBooked.unmatchDead genuine (agent.deadIds now)

/-- What holds of an agent and its callbacks between any two steps. -/
structure HistoryInvariant (loop : AgentLoop) (events : List AgentEvent) :
    Prop where
  agent : AgentInvariant (fun _ _ => True) loop
  booked : Booked loop.agent events
  known :
    ∀ (key : Text) (m : MatchInfo),
      loop.agent.activeMatches[key]? = some m →
      m.remoteParticipantId ∈ loop.agent.remotes
  foreign : loop.agent.participantId ∉ loop.agent.remotes

theorem known_tryMatch
    {agent : DiscoveryAgent} {remoteId : Nat} {remote : Remote}
    (known :
      ∀ (key : Text) (m : MatchInfo), agent.activeMatches[key]? = some m →
        m.remoteParticipantId ∈ agent.remotes)
    (stored : agent.remotes[remoteId]? = some remote)
    {key : Text} {m : MatchInfo}
    (found : (agent.tryMatch remoteId remote).1.activeMatches[key]? = some m) :
    m.remoteParticipantId ∈ agent.remotes := by
  simp only [DiscoveryAgent.tryMatch, getElem?_recordAll] at found
  rcases Option.or_eq_some_iff.mp found with old | ⟨_, first⟩
  · exact known key m old
  · rw [(mem_matches (List.mem_of_find?_eq_some first)).2,
      Std.TreeMap.mem_iff_isSome_getElem?, stored]
    rfl

theorem participantId_unmatchDead (dead : List Nat) (agent : DiscoveryAgent) :
    (DiscoveryAgent.unmatchDead dead agent).1.participantId =
      agent.participantId := by
  induction dead generalizing agent with
  | nil =>
      rfl
  | cons deadId later inductionHypothesis =>
      exact inductionHypothesis (agent.unmatchAll deadId).1

/-- After reaping, the known participants are those that are not dead. -/
theorem mem_remotes_reapDead
    (agent : DiscoveryAgent) (now id : Nat) :
    id ∈ (agent.reapDead now).1.remotes ↔
      id ∈ agent.remotes ∧ id ∉ agent.deadIds now := by
  simp only [Std.TreeMap.mem_iff_isSome_getElem?, remotes_reapDead]
  by_cases dead : id ∈ agent.deadIds now
  · simp [dead]
  · simp [dead]

theorem HistoryInvariant.step
    {loop target : AgentLoop} {events emitted : List AgentEvent}
    {input : AgentInput} (invariant : HistoryInvariant loop events)
    (stepped : loop.step input = some (target, emitted)) :
    HistoryInvariant target (events ++ emitted) := by
  have agent :=
    invariant.agent.step (fun _ _ _ _ _ _ => recorded_tryMatch) stepped
  cases AgentLoop.steps_of_step stepped with
  | added endpoint =>
      rw [List.append_nil]
      exact ⟨agent, invariant.booked, invariant.known, invariant.foreign⟩
  | ignored announcement now _ =>
      rw [List.append_nil]
      exact ⟨agent, invariant.booked, invariant.known, invariant.foreign⟩
  | stored announcement now _ different =>
      rw [List.append_nil]
      refine ⟨agent, invariant.booked, ?_, ?_⟩
      · intro key m found
        exact Std.TreeMap.mem_insert.mpr (Or.inr (invariant.known key m found))
      · intro own
        rcases Std.TreeMap.mem_insert.mp own with equal | old
        · exact different (Std.compare_eq_iff_eq.mp equal)
        · exact invariant.foreign old
  | moved announces now next _ silent =>
      refine ⟨agent, ?_, invariant.known, invariant.foreign⟩
      unfold Booked
      rw [callbacks_append, callbacks_announced silent, List.append_nil]
      exact invariant.booked
  | tried announces now remoteId remote next isNext =>
      have stored := stored_of_nextMatch invariant.agent.carries isNext
      exact ⟨agent, invariant.booked.tryMatch remoteId remote,
        fun _ _ found => known_tryMatch invariant.known stored found,
        invariant.foreign⟩
  | exchanged announces now =>
      rw [List.append_nil]
      exact ⟨agent, invariant.booked, invariant.known, invariant.foreign⟩
  | reaped announces now _ =>
      refine ⟨agent, ?_, ?_, ?_⟩
      · exact invariant.booked.reapDead invariant.agent.genuine now
      · intro key m found
        rw [activeMatches_reapDead] at found
        exact (mem_remotes_reapDead _ _ _).mpr
          ⟨invariant.known key m found.1, found.2⟩
      · intro own
        have kept := participantId_unmatchDead (loop.agent.deadIds now)
        simp only [DiscoveryAgent.reapDead, kept] at own
        exact invariant.foreign ((mem_remotes_reapDead _ _ _).mp own).1

theorem AgentLoop.Fresh.history
    {loop : AgentLoop} (fresh : loop.Fresh) : HistoryInvariant loop [] where
  agent := fresh.invariant _
  booked := Ledger.start fresh.activeMatches
  known := by
    intro key m found
    rw [fresh.activeMatches] at found
    cases found
  foreign := by
    rw [Std.TreeMap.mem_iff_isSome_getElem?, fresh.remotes]
    simp

theorem historyInvariant_of_run
    {guard : AgentLoop → AgentInput → Prop} {inputs : List AgentInput}
    {loop : AgentLoop} {events : List AgentEvent}
    (run : agentMachine.Run guard inputs loop events) :
    HistoryInvariant loop events :=
  run.invariant HistoryInvariant (fun _ fresh => AgentLoop.Fresh.history fresh)
    fun _ _ _ _ _ invariant _ stepped => invariant.step stepped

/-! ## A participant that falls silent and returns -/

/-- A publisher of topic `t`. -/
def publisherOfT : EndpointInfo :=
  { kind := .publisher, topic := ['t'], typeName := ['T'] }

/-- A subscriber of topic `t`. -/
def subscriberOfT : EndpointInfo :=
  { kind := .subscriber, topic := ['t'], typeName := ['T'] }

/-- Participant 1, before `start`. -/
def loneAgent : AgentLoop :=
  ⟨{ nodeName := ['a']
     dataLocator := ⟨[], 0⟩
     participantId := 1
     hostId := ['h'] },
    .starting⟩

theorem loneAgent_fresh : loneAgent.Fresh :=
  ⟨rfl, by simp [loneAgent], by simp [loneAgent]⟩

/-- Participant 2 announces its endpoints. -/
def hearPeer (endpoints : List EndpointInfo) (now : Nat) : AgentInput :=
  .receive (some ⟨2, ['b'], ⟨[], 0⟩, endpoints, ['h']⟩) now

/-- The agent adds a publisher, starts, hears of participant 2 and its
subscriber, and completes the iteration. -/
def meetPeer : List AgentInput :=
  [.addEndpoint publisherOfT, .advance false 0, hearPeer [subscriberOfT] 0] ++
    List.replicate 7 (.advance false 0)

/-- Participant 2 has been silent for longer than the timeout. -/
def losePeer : List AgentInput :=
  .receive none 6000 :: List.replicate 3 (.advance false 6000)

/-- Participant 2 is heard again. -/
def meetPeerAgain : List AgentInput :=
  hearPeer [subscriberOfT] 7000 :: List.replicate 4 (.advance false 7000)

/-- The match of the publisher with the subscriber of participant 2. -/
def peerMatch : MatchInfo :=
  ⟨publisherOfT, subscriberOfT, ⟨[], 0⟩, 2, ['h']⟩

/-- In every run, the callbacks of each key take turns, starting with
`on_match`, and each `on_unmatch` repeats the match that it closes; the active
matches are those whose last callback was `on_match`; and each of them is with
a known participant other than the agent itself. -/
theorem callbacks_alternate
    {inputs : List AgentInput} {loop : AgentLoop} {events : List AgentEvent}
    (run : agentMachine.Run Machine.free inputs loop events) :
    (∀ key : Text, Bracket.Alternating (callbacksOf key events)) ∧
      (∀ (key : Text) (m : MatchInfo),
        loop.agent.activeMatches[key]? = some m ↔
          (callbacksOf key events).getLast? = some (.opened m)) ∧
      ∀ (key : Text) (m : MatchInfo),
        loop.agent.activeMatches[key]? = some m →
        m.remoteParticipantId ∈ loop.agent.remotes ∧
          m.remoteParticipantId ≠ loop.agent.participantId := by
  have invariant := historyInvariant_of_run run
  refine ⟨invariant.booked.alternating, fun key m => ?_, fun key m found => ?_⟩
  · rw [← Bracket.stillOpen_eq_some_iff, callbacksOf,
      invariant.booked.stillOpen key]
  · have known := invariant.known key m found
    refine ⟨known, fun own => ?_⟩
    rw [own] at known
    exact invariant.foreign known

/-- A participant is met and lost: one opening, one closing. -/
theorem callbacks_alternate_lostPeer :
    ∃ loop events,
      agentMachine.Run Machine.free (meetPeer ++ losePeer) loop events ∧
        callbacksOf (matchKey peerMatch) events =
          [.opened peerMatch, .closed peerMatch] ∧
        loop.agent.activeMatches[matchKey peerMatch]? ≠ some peerMatch := by
  obtain ⟨loop, events, run, checked⟩ :=
    Machine.run_of_exec_check agentMachine Machine.free (meetPeer ++ losePeer)
      loneAgent
      (fun _ events =>
        callbacksOf (matchKey peerMatch) events =
          [.opened peerMatch, .closed peerMatch])
      loneAgent_fresh (by decide +kernel)
  have history := of_decide_eq_true checked
  refine ⟨loop, events, run, history, ?_⟩
  rw [Ne, (callbacks_alternate run).2.1, history]
  simp

/-! ## Nothing is missed -/

theorem mem_callbacks_opened
    {events : List AgentEvent} {m : MatchInfo}
    (member : .opened m ∈ callbacks events) : .matched m ∈ events := by
  obtain ⟨event, eventMember, isOpened⟩ := List.mem_filterMap.mp member
  cases event with
  | matched other =>
      cases isOpened
      exact eventMember
  | unmatched other =>
      cases isOpened
  | announced announcement =>
      cases isOpened

/-- A match that is active now and was not active at an earlier point of the
run has been reported since then. -/
theorem reported_of_active
    {middle loop : AgentLoop} {before after : List AgentEvent}
    (earlier : HistoryInvariant middle before)
    (now : HistoryInvariant loop (before ++ after))
    {key : Text} {m : MatchInfo}
    (active : loop.agent.activeMatches[key]? = some m)
    (inactive : middle.agent.activeMatches[key]? ≠ some m) :
    .matched m ∈ after := by
  have last :
      (callbacksOf key before ++ callbacksOf key after).getLast? =
        some (.opened m) := by
    rw [← Bracket.stillOpen_eq_some_iff, callbacksOf, callbacksOf,
      ← historyOf_append, ← callbacks_append, now.booked.stillOpen key]
    exact active
  rw [List.getLast?_append] at last
  rcases Option.or_eq_some_iff.mp last with isLast | ⟨_, old⟩
  · have member := List.mem_of_getLast? isLast
    exact mem_callbacks_opened (List.mem_of_mem_filter member)
  · refine absurd ?_ inactive
    rw [← earlier.booked.stillOpen key]
    exact Bracket.stillOpen_eq_some_iff.mpr old

theorem mem_callbacks_closed
    {events : List AgentEvent} {m : MatchInfo}
    (member : .closed m ∈ callbacks events) : .unmatched m ∈ events := by
  obtain ⟨event, eventMember, isClosed⟩ := List.mem_filterMap.mp member
  cases event with
  | matched other =>
      cases isClosed
  | unmatched other =>
      cases isClosed
      exact eventMember
  | announced announcement =>
      cases isClosed

/-- A match that was active at an earlier point of the run and is not active
now has been reported as gone since then. -/
theorem unmatched_of_inactive
    {middle loop : AgentLoop} {before after : List AgentEvent}
    (earlier : HistoryInvariant middle before)
    (now : HistoryInvariant loop (before ++ after))
    {key : Text} {m : MatchInfo}
    (wasActive : middle.agent.activeMatches[key]? = some m)
    (inactive : loop.agent.activeMatches[key]? ≠ some m) :
    .unmatched m ∈ after := by
  have isOpen : Bracket.stillOpen (callbacksOf key before) = some m :=
    (earlier.booked.stillOpen key).trans wasActive
  have alternating := now.booked.alternating key
  have ending := now.booked.stillOpen key
  rw [callbacks_append, historyOf_append] at alternating ending
  cases rest : historyOf matchKey key (callbacks after) with
  | nil =>
      rw [rest, List.append_nil] at ending
      exact absurd (ending.symm.trans isOpen) inactive
  | cons bracket later =>
      rw [rest] at alternating
      have closes := alternating.closed_next rfl isOpen
      have member : bracket ∈ historyOf matchKey key (callbacks after) := by
        rw [rest]
        exact List.mem_cons_self
      rw [closes] at member
      exact mem_callbacks_closed (List.mem_of_mem_filter member)

/-- Whenever the loop is back at `recv` with a clear flag, every pair of a
local endpoint and an endpoint in the latest announcement of a known
participant that `match_endpoints` accepts has an active match under its key,
and `on_match` has been called for that key since any earlier point of the run
at which the participant was not known, such as right after it was reaped. -/
theorem no_missed_match
    {earlier later : List AgentInput} {middle loop : AgentLoop}
    {before after : List AgentEvent}
    (run : agentMachine.Run Machine.free earlier middle before)
    (continued :
      agentMachine.exec Machine.free middle later = some (loop, after))
    (atEnd : loop.pc = .receiving)
    (clean : loop.agent.endpointsDirty = false)
    {le re : EndpointInfo} {remoteId : Nat} {remote : Remote}
    (localMember : le ∈ loop.agent.localEndpoints)
    (known : loop.agent.remotes[remoteId]? = some remote)
    (remoteMember : re ∈ remote.endpoints)
    (paired : pairMatches le re) :
    let key :=
      matchKey ⟨le, re, remote.locator, remoteId, remote.hostId⟩
    key ∈ loop.agent.activeMatches ∧
      (remoteId ∉ middle.agent.remotes →
        ∃ reported, matchKey reported = key ∧ .matched reported ∈ after) := by
  have now := historyInvariant_of_run (run.continued continued)
  have middleInvariant := historyInvariant_of_run run
  have member :
      (⟨le, re, remote.locator, remoteId, remote.hostId⟩ : MatchInfo) ∈
        remote.matches remoteId loop.agent.localEndpoints :=
    mem_matchEndpoints.mpr
      ⟨localMember, remoteMember, paired, rfl, rfl, rfl⟩
  obtain ⟨recorded, found, _⟩ :=
    now.agent.recorded clean remoteId remote known
      (by rw [atEnd]; exact id) _ member
  have genuine := now.agent.genuine _ _ found
  refine ⟨Std.TreeMap.mem_iff_isSome_getElem?.mpr (by rw [found]; rfl), ?_⟩
  intro unknown
  refine ⟨recorded, genuine.key, ?_⟩
  refine reported_of_active middleInvariant now found fun wasActive => ?_
  have participant : recorded.remoteParticipantId = remoteId :=
    ((matchKey_eq_iff genuine.paired paired).mp
      genuine.key).2.2.2
  have wasKnown := middleInvariant.known _ _ wasActive
  rw [participant] at wasKnown
  exact unknown wasKnown

/-- A participant that was reaped and is heard again is reported again. -/
theorem no_missed_match_returnedPeer :
    ∃ middle loop before after,
      agentMachine.Run Machine.free (meetPeer ++ losePeer) middle before ∧
        agentMachine.exec Machine.free middle meetPeerAgain =
          some (loop, after) ∧
        matchKey peerMatch ∈ loop.agent.activeMatches ∧
        ∃ reported,
          matchKey reported = matchKey peerMatch ∧
            .matched reported ∈ after := by
  obtain ⟨middle, before, run, checked⟩ :=
    Machine.run_of_exec_check agentMachine Machine.free (meetPeer ++ losePeer)
      loneAgent
      (fun middle _ =>
        2 ∉ middle.agent.remotes ∧
          (agentMachine.exec Machine.free middle meetPeerAgain).any
            fun outcome =>
              outcome.1.pc = .receiving ∧
                outcome.1.agent.endpointsDirty = false ∧
                publisherOfT ∈ outcome.1.agent.localEndpoints ∧
                outcome.1.agent.remotes[2]? =
                  some ⟨['b'], [subscriberOfT], ⟨[], 0⟩, ['h'], 7000⟩)
      loneAgent_fresh (by decide +kernel)
  obtain ⟨unknown, continues⟩ := of_decide_eq_true checked
  obtain ⟨⟨loop, after⟩, continued, outcome⟩ :=
    (Option.any_eq_true _ _).mp continues
  obtain ⟨atEnd, clean, localMember, known⟩ := of_decide_eq_true outcome
  have settled :=
    no_missed_match run continued atEnd clean localMember known
      List.mem_cons_self (by decide)
  exact ⟨middle, loop, before, after, run, continued, settled.1,
    settled.2 unknown⟩

end MiniMiddleware.Discovery
