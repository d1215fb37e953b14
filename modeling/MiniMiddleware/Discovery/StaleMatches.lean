import MiniMiddleware.Discovery.MatchHistory

/-!
# Stale matches

An announcement replaces the stored endpoints of its participant as a whole,
while active matches are only revisited when the participant falls silent.  A
match therefore outlives its remote endpoint when an announcement no longer
lists it.  As long as every announcement still lists the remote endpoints of
the active matches with its participant, each active match is one that
`match_endpoints` would find again.
-/

namespace MiniMiddleware.Discovery

open MiniMiddleware.Library

/-- The remote endpoint of the match is in the latest announcement of its
participant, and `match_endpoints` still finds the pair. -/
def Justified (agent : DiscoveryAgent) (m : MatchInfo) : Prop :=
  ∃ remote,
    agent.remotes[m.remoteParticipantId]? = some remote ∧
      m.remoteEndpoint ∈ remote.endpoints ∧
      ∃ found ∈ remote.matches m.remoteParticipantId agent.localEndpoints,
        found.localEndpoint = m.localEndpoint ∧
          found.remoteEndpoint = m.remoteEndpoint

/-- The condition on a step: an announcement that is stored lists the remote
endpoints of all active matches with its participant. -/
def keepsMatched (loop : AgentLoop) : AgentInput → Bool
  | .receive (some announcement) _ =>
      announcement.participantId = loop.agent.participantId ||
        (loop.agent.matchesWith announcement.participantId).all fun m =>
          m.remoteEndpoint ∈ announcement.endpoints
  | _ => true

/-- What makes a match justified, read off the tables. -/
theorem justified_iff
    {agent : DiscoveryAgent} {m : MatchInfo} :
    Justified agent m ↔
      ∃ remote,
        agent.remotes[m.remoteParticipantId]? = some remote ∧
          m.localEndpoint ∈ agent.localEndpoints ∧
          m.remoteEndpoint ∈ remote.endpoints ∧
          pairMatches m.localEndpoint m.remoteEndpoint := by
  constructor
  · rintro ⟨remote, known, listed, found, member, sameLocal, sameRemote⟩
    obtain ⟨localMember, _, paired, _⟩ := mem_matchEndpoints.mp member
    rw [sameLocal] at localMember paired
    rw [sameRemote] at paired
    exact ⟨remote, known, localMember, listed, paired⟩
  · rintro ⟨remote, known, localMember, listed, paired⟩
    refine ⟨remote, known, listed, { m with
      remoteLocator := remote.locator, remoteHostId := remote.hostId }, ?_,
      rfl, rfl⟩
    exact mem_matchEndpoints.mpr
      ⟨localMember, listed, paired, rfl, rfl, rfl⟩

/-- Local endpoints and remotes other than the one at hand do not matter. -/
theorem Justified.keep
    {agent after : DiscoveryAgent} {m : MatchInfo}
    (justified : Justified agent m)
    (endpoints : agent.localEndpoints ⊆ after.localEndpoints)
    (remotes :
      after.remotes[m.remoteParticipantId]? =
        agent.remotes[m.remoteParticipantId]?) :
    Justified after m := by
  obtain ⟨remote, known, localMember, listed, paired⟩ :=
    justified_iff.mp justified
  exact justified_iff.mpr
    ⟨remote, remotes.trans known, endpoints localMember, listed, paired⟩

/-- Every active match is justified. -/
def AllJustified (agent : DiscoveryAgent) : Prop :=
  ∀ (key : Text) (m : MatchInfo),
    agent.activeMatches[key]? = some m → Justified agent m

/-- Storing an announcement that lists the endpoints of the active matches. -/
theorem AllJustified.storeRemote
    {agent : DiscoveryAgent} (justified : AllJustified agent)
    {announcement : ParticipantAnnouncement} (now : Nat)
    (listed :
      ∀ (key : Text) (m : MatchInfo), agent.activeMatches[key]? = some m →
        m.remoteParticipantId = announcement.participantId →
        m.remoteEndpoint ∈ announcement.endpoints) :
    AllJustified (agent.storeRemote announcement now) := by
  intro key m found
  have before := justified key m found
  by_cases same : m.remoteParticipantId = announcement.participantId
  · obtain ⟨_, _, localMember, _, paired⟩ := justified_iff.mp before
    refine justified_iff.mpr
      ⟨DiscoveryAgent.remoteOf announcement now, ?_, localMember,
        listed key m found same, paired⟩
    rw [same]
    exact Std.TreeMap.getElem?_insert_self
  · refine before.keep (List.Subset.refl _) ?_
    simp only [DiscoveryAgent.storeRemote]
    rw [Std.TreeMap.getElem?_insert, if_neg]
    simpa using fun equal => same equal.symm

theorem AllJustified.tryMatch
    {agent : DiscoveryAgent} (justified : AllJustified agent)
    {remoteId : Nat} {remote : Remote}
    (stored : agent.remotes[remoteId]? = some remote) :
    AllJustified (agent.tryMatch remoteId remote).1 := by
  intro key m found
  simp only [DiscoveryAgent.tryMatch, getElem?_recordAll] at found
  rcases Option.or_eq_some_iff.mp found with old | ⟨_, first⟩
  · exact (justified key m old).keep (List.Subset.refl _) rfl
  · obtain ⟨localMember, listed, paired, _, same, _⟩ :=
      mem_matchEndpoints.mp (List.mem_of_find?_eq_some first)
    exact justified_iff.mpr
      ⟨remote, by rw [same]; exact stored, localMember, listed, paired⟩

theorem AllJustified.reapDead
    {agent : DiscoveryAgent} (justified : AllJustified agent) (now : Nat) :
    AllJustified (agent.reapDead now).1 := by
  intro key m found
  rw [activeMatches_reapDead] at found
  refine (justified key m found.1).keep ?_ ?_
  · rw [(reapDead_frame agent now).1]
    exact List.Subset.refl _
  · rw [remotes_reapDead, if_neg found.2]

theorem AllJustified.step
    {loop target : AgentLoop} {events emitted : List AgentEvent}
    {input : AgentInput} (justified : AllJustified loop.agent)
    (history : HistoryInvariant loop events)
    (keeps : keepsMatched loop input = true)
    (stepped : loop.step input = some (target, emitted)) :
    AllJustified target.agent := by
  cases AgentLoop.steps_of_step stepped with
  | added endpoint =>
      intro key m found
      exact (justified key m found).keep (List.subset_append_left _ _) rfl
  | ignored announcement now _ =>
      exact justified
  | stored announcement now _ different =>
      refine justified.storeRemote now fun key m found same => ?_
      simp only [keepsMatched, different, decide_false, Bool.false_or,
        List.all_eq_true, decide_eq_true_eq] at keeps
      exact keeps m (mem_matchesWith.mpr ⟨⟨key, found⟩, same⟩)
  | moved announces now next _ silent =>
      exact justified
  | tried announces now remoteId remote next isNext =>
      exact justified.tryMatch (stored_of_nextMatch history.agent.carries isNext)
  | exchanged announces now =>
      intro key m found
      exact (justified key m found).keep (List.Subset.refl _) rfl
  | reaped announces now _ =>
      exact justified.reapDead now

theorem allJustified_of_run
    {inputs : List AgentInput} {loop : AgentLoop} {events : List AgentEvent}
    (run :
      agentMachine.Run (fun loop input => keepsMatched loop input = true)
        inputs loop events) :
    AllJustified loop.agent := by
  have both :=
    run.invariant
      (fun loop events =>
        HistoryInvariant loop events ∧ AllJustified loop.agent)
      (fun loop (fresh : loop.Fresh) => ⟨fresh.history, fun key m found => by
        rw [fresh.activeMatches] at found
        cases found⟩)
      fun _ _ _ _ _ invariant keeps stepped =>
        ⟨invariant.1.step stepped,
          invariant.2.step invariant.1 keeps stepped⟩
  exact both.2

/-- In every run whose announcements list the remote endpoints of the active
matches with their participant, every active match is justified, and a match
that was active at some earlier point and is so no longer has been reported by
`on_unmatch` since. -/
theorem no_stale_match
    {earlier later : List AgentInput} {middle loop : AgentLoop}
    {before after : List AgentEvent}
    (run :
      agentMachine.Run (fun loop input => keepsMatched loop input = true)
        earlier middle before)
    (continued :
      agentMachine.exec (fun loop input => keepsMatched loop input = true)
        middle later = some (loop, after)) :
    (∀ (key : Text) (m : MatchInfo),
      loop.agent.activeMatches[key]? = some m → Justified loop.agent m) ∧
      ∀ (key : Text) (m : MatchInfo),
        middle.agent.activeMatches[key]? = some m →
        loop.agent.activeMatches[key]? ≠ some m →
        .unmatched m ∈ after := by
  have whole := run.continued continued
  exact ⟨allJustified_of_run whole, fun key m wasActive inactive =>
    unmatched_of_inactive (historyInvariant_of_run run)
      (historyInvariant_of_run whole) wasActive inactive⟩

/-- Participant 2 is met, announces a further endpoint, and is lost. -/
theorem no_stale_match_grownPeer :
    ∃ middle loop before after,
      agentMachine.Run (fun loop input => keepsMatched loop input = true)
          (meetPeer ++
            hearPeer [subscriberOfT, publisherOfT] 0 ::
              List.replicate 4 (.advance false 0)) middle before ∧
        agentMachine.exec (fun loop input => keepsMatched loop input = true)
          middle losePeer = some (loop, after) ∧
        Justified middle.agent peerMatch ∧
        .unmatched peerMatch ∈ after := by
  obtain ⟨middle, before, run, checked⟩ :=
    Machine.run_of_exec_check agentMachine
      (fun loop input => keepsMatched loop input = true)
      (meetPeer ++
        hearPeer [subscriberOfT, publisherOfT] 0 ::
          List.replicate 4 (.advance false 0))
      loneAgent
      (fun middle _ =>
        middle.agent.activeMatches[matchKey peerMatch]? = some peerMatch ∧
          (agentMachine.exec
            (fun loop input => keepsMatched loop input = true)
            middle losePeer).any fun outcome =>
              outcome.1.agent.activeMatches[matchKey peerMatch]? ≠
                some peerMatch)
      loneAgent_fresh (by decide +kernel)
  obtain ⟨wasActive, continues⟩ := of_decide_eq_true checked
  obtain ⟨⟨loop, after⟩, continued, outcome⟩ :=
    (Option.any_eq_true _ _).mp continues
  have inactive := of_decide_eq_true outcome
  have standing :
      agentMachine.exec (fun loop input => keepsMatched loop input = true)
        middle [] = some (middle, []) := rfl
  exact ⟨middle, loop, before, after, run, continued,
    (no_stale_match run standing).1 _ _ wasActive,
    (no_stale_match run continued).2 _ _ wasActive inactive⟩

/-- Participant 2 announces an empty list of endpoints: its subscriber is gone
from the stored announcement, the match with it stays active. -/
theorem stale_match_stays :
    ¬ ∀ (inputs : List AgentInput) (loop : AgentLoop)
        (events : List AgentEvent) (key : Text) (m : MatchInfo),
        agentMachine.Run Machine.free inputs loop events →
        loop.pc = .receiving →
        loop.agent.activeMatches[key]? = some m → Justified loop.agent m := by
  intro claimed
  obtain ⟨loop, events, run, checked⟩ :=
    Machine.run_of_exec_check agentMachine Machine.free
      (meetPeer ++ hearPeer [] 0 :: List.replicate 4 (.advance false 0))
      loneAgent
      (fun loop _ =>
        loop.pc = .receiving ∧
          loop.agent.activeMatches[matchKey peerMatch]? = some peerMatch ∧
          loop.agent.remotes[2]? = some ⟨['b'], [], ⟨[], 0⟩, ['h'], 0⟩)
      loneAgent_fresh (by decide +kernel)
  obtain ⟨atEnd, active, known⟩ := of_decide_eq_true checked
  obtain ⟨remote, found, listed, _⟩ := claimed _ _ _ _ _ run atEnd active
  cases known.symm.trans found
  cases listed

end MiniMiddleware.Discovery
