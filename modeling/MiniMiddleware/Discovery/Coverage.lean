import MiniMiddleware.Discovery.DiscoveryAgent

/-!
# No match is missed

Whenever the background loop is back at `recv` and the dirty flag is clear,
every pair that `match_endpoints` finds between the local endpoints and the
latest announcement of a known participant has an active match under its key.
The invariant says, for every place in the loop, which participants may still
lack one.

The active match need not be the pair itself, only one with the same key.  The
results are therefore stated with a relation between a pair and the match
recorded for it, which must hold whenever `try_match` has run; the plain
statement is the case of the trivial relation.
-/

namespace MiniMiddleware.Discovery

open MiniMiddleware.Library

/-- Every pair with this participant has an active match under its key, to
which it stands in the given relation. -/
def Recorded (relation : MatchInfo → MatchInfo → Prop)
    (agent : DiscoveryAgent) (remoteId : Nat) (remote : Remote) : Prop :=
  ∀ m ∈ remote.matches remoteId agent.localEndpoints,
    ∃ recorded,
      agent.activeMatches[matchKey m]? = some recorded ∧ relation m recorded

/-- The participants that the rest of this iteration is going to match. -/
def LoopPc.Pending (pc : LoopPc) (remoteId : Nat) : Prop :=
  match pc with
  | .matching id _ => id = remoteId
  | .copying => True
  | .rematching remotes => ∃ remote, (remoteId, remote) ∈ remotes
  | _ => False

/-- The remotes that the background thread carries along are the stored
ones. -/
def LoopPc.Carries (pc : LoopPc) (remotes : Std.TreeMap Nat Remote) : Prop :=
  match pc with
  | .matching id remote => remotes[id]? = some remote
  | .rematching later => ∀ entry ∈ later, remotes[entry.1]? = some entry.2
  | _ => True

theorem stored_of_nextMatch
    {loop : AgentLoop} {id : Nat} {remote : Remote}
    (carries : loop.pc.Carries loop.agent.remotes)
    (next : loop.nextMatch = some (id, remote)) :
    loop.agent.remotes[id]? = some remote := by
  obtain ⟨agent, pc⟩ := loop
  cases pc with
  | matching otherId other =>
      cases next
      exact carries
  | rematching remotes =>
      cases remotes with
      | nil =>
          cases next
      | cons entry later =>
          cases next
          exact carries _ List.mem_cons_self
  | _ =>
      cases next

/-- The match was produced by `match_endpoints` and is stored under its own
key. -/
structure Genuine (key : Text) (m : MatchInfo) : Prop where
  key : matchKey m = key
  paired : pairMatches m.localEndpoint m.remoteEndpoint

theorem Genuine.topic {key : Text} {m : MatchInfo} (genuine : Genuine key m) :
    m.localEndpoint.topic = m.remoteEndpoint.topic :=
  topic_of_pairMatches genuine.paired

/-- The invariant of the background loop. -/
structure AgentInvariant (relation : MatchInfo → MatchInfo → Prop)
    (loop : AgentLoop) : Prop where
  genuine :
    ∀ key m, loop.agent.activeMatches[key]? = some m → Genuine key m
  carries : loop.pc.Carries loop.agent.remotes
  recorded :
    loop.agent.endpointsDirty = false →
      ∀ id remote, loop.agent.remotes[id]? = some remote →
        ¬ loop.pc.Pending id → Recorded relation loop.agent id remote

/-! ## The operations -/

section Operations

variable {relation : MatchInfo → MatchInfo → Prop}
  {agent : DiscoveryAgent} {remoteId : Nat} {remote : Remote}

theorem mem_matches
    {localEndpoints : List EndpointInfo} {m : MatchInfo}
    (member : m ∈ remote.matches remoteId localEndpoints) :
    pairMatches m.localEndpoint m.remoteEndpoint ∧
      m.remoteParticipantId = remoteId := by
  obtain ⟨_, _, paired, _, same, _⟩ := mem_matchEndpoints.mp member
  exact ⟨paired, same⟩

/-- `try_match` keeps what is active and enters genuine matches. -/
theorem genuine_tryMatch
    (genuine : ∀ key m, agent.activeMatches[key]? = some m → Genuine key m) :
    ∀ key m, (agent.tryMatch remoteId remote).1.activeMatches[key]? = some m →
      Genuine key m := by
  intro key m found
  simp only [DiscoveryAgent.tryMatch, getElem?_recordAll] at found
  rcases Option.or_eq_some_iff.mp found with old | ⟨_, first⟩
  · exact genuine key m old
  · have member := List.mem_of_find?_eq_some first
    have key := List.find?_some first
    exact ⟨by simpa using key, (mem_matches member).1⟩

/-- After `try_match`, every pair with the participant has an active match. -/
theorem recorded_tryMatch :
    Recorded (fun _ _ => True) (agent.tryMatch remoteId remote).1 remoteId
      remote := by
  intro m member
  obtain ⟨recorded, found⟩ :=
    Option.isSome_iff_exists.mp
      (Std.TreeMap.mem_iff_isSome_getElem?.mp
        (mem_recordAll member agent.activeMatches))
  exact ⟨recorded, found, trivial⟩

theorem Recorded.tryMatch
    {otherId : Nat} {other : Remote}
    (before : Recorded relation agent otherId other) :
    Recorded relation (agent.tryMatch remoteId remote).1 otherId other := by
  intro m member
  obtain ⟨recorded, found, related⟩ := before m member
  exact ⟨recorded, getElem?_recordAll_of_some found, related⟩

theorem mem_matchesWith
    {agent : DiscoveryAgent} {id : Nat} {m : MatchInfo} :
    m ∈ agent.matchesWith id ↔
      (∃ key : Text, agent.activeMatches[key]? = some m) ∧
        m.remoteParticipantId = id := by
  simp only [DiscoveryAgent.matchesWith, List.mem_filter, List.mem_map,
    Prod.exists, Std.TreeMap.mem_toList_iff_getElem?_eq_some,
    exists_eq_right, decide_eq_true_eq]

theorem activeMatches_unmatchAll
    (agent : DiscoveryAgent) (deadId : Nat) (key : Text) (m : MatchInfo) :
    (agent.unmatchAll deadId).1.activeMatches[key]? = some m ↔
      agent.activeMatches[key]? = some m ∧ m.remoteParticipantId ≠ deadId := by
  simp only [DiscoveryAgent.unmatchAll, getElem?_eraseWhere,
    decide_eq_false_iff_not]

theorem activeMatches_unmatchDead
    (dead : List Nat) (agent : DiscoveryAgent) (key : Text) (m : MatchInfo) :
    (DiscoveryAgent.unmatchDead dead agent).1.activeMatches[key]? = some m ↔
      agent.activeMatches[key]? = some m ∧ m.remoteParticipantId ∉ dead := by
  induction dead generalizing agent with
  | nil =>
      simp [DiscoveryAgent.unmatchDead]
  | cons deadId later inductionHypothesis =>
      simp only [DiscoveryAgent.unmatchDead, inductionHypothesis,
        activeMatches_unmatchAll, List.mem_cons, not_or, and_assoc]

theorem unmatchDead_frame (dead : List Nat) (agent : DiscoveryAgent) :
    let after := (DiscoveryAgent.unmatchDead dead agent).1
    after.localEndpoints = agent.localEndpoints ∧
      after.remotes = agent.remotes ∧
      after.endpointsDirty = agent.endpointsDirty := by
  induction dead generalizing agent with
  | nil =>
      exact ⟨rfl, rfl, rfl⟩
  | cons deadId later inductionHypothesis =>
      exact inductionHypothesis (agent.unmatchAll deadId).1

theorem getElem?_foldl_eraseIds
    (dead : List Nat) (remotes : Std.TreeMap Nat Remote) (id : Nat) :
    (dead.foldl (fun remotes id => remotes.erase id) remotes)[id]? =
      if id ∈ dead then none else remotes[id]? := by
  induction dead generalizing remotes with
  | nil =>
      simp
  | cons deadId later inductionHypothesis =>
      rw [List.foldl_cons, inductionHypothesis, Std.TreeMap.getElem?_erase]
      by_cases same : deadId = id
      · simp [same]
      · have different : ¬ id = deadId := fun equal => same equal.symm
        simp [same, different]

theorem activeMatches_reapDead
    (agent : DiscoveryAgent) (now : Nat) (key : Text) (m : MatchInfo) :
    (agent.reapDead now).1.activeMatches[key]? = some m ↔
      agent.activeMatches[key]? = some m ∧
        m.remoteParticipantId ∉ agent.deadIds now :=
  activeMatches_unmatchDead _ _ key m

theorem remotes_reapDead (agent : DiscoveryAgent) (now id : Nat) :
    (agent.reapDead now).1.remotes[id]? =
      if id ∈ agent.deadIds now then none else agent.remotes[id]? := by
  rw [DiscoveryAgent.reapDead, (unmatchDead_frame _ _).2.1,
    getElem?_foldl_eraseIds]

theorem reapDead_frame (agent : DiscoveryAgent) (now : Nat) :
    (agent.reapDead now).1.localEndpoints = agent.localEndpoints ∧
      (agent.reapDead now).1.endpointsDirty = agent.endpointsDirty := by
  obtain ⟨endpoints, _, dirty⟩ :=
    unmatchDead_frame (agent.deadIds now)
      { agent with
        remotes :=
          (agent.deadIds now).foldl (fun remotes id => remotes.erase id)
            agent.remotes }
  exact ⟨endpoints, dirty⟩

/-- Endpoints are only ever appended. -/
theorem localEndpoints_grow
    {loop target : AgentLoop} {input : AgentInput} {emitted : List AgentEvent}
    (steps : loop.Steps input target emitted) :
    loop.agent.localEndpoints <+: target.agent.localEndpoints := by
  cases steps with
  | added endpoint =>
      exact List.prefix_append _ _
  | reaped announces now _ =>
      exact ⟨[], by rw [List.append_nil, (reapDead_frame loop.agent now).1]⟩
  | _ =>
      exact List.prefix_rfl

/-- A participant that survives reaping keeps its matches: keys name the
participant, so no pair with it is recorded by a match of a dead one. -/
theorem Recorded.reapDead
    (genuine : ∀ key m, agent.activeMatches[key]? = some m → Genuine key m)
    (before : Recorded relation agent remoteId remote) {now : Nat}
    (living : remoteId ∉ agent.deadIds now) :
    Recorded relation (agent.reapDead now).1 remoteId remote := by
  intro m member
  rw [(reapDead_frame agent now).1] at member
  obtain ⟨recorded, found, related⟩ := before m member
  have recordedGenuine := genuine _ _ found
  obtain ⟨paired, same⟩ := mem_matches member
  have participant :=
    ((matchKey_eq_iff recordedGenuine.paired paired).mp
      recordedGenuine.key).2.2.2
  refine ⟨recorded, ?_, related⟩
  rw [activeMatches_reapDead]
  exact ⟨found, by rwa [participant, same]⟩

end Operations

/-! ## The loop -/

section Loop

variable {relation : MatchInfo → MatchInfo → Prop}
  {loop target : AgentLoop} {emitted : List AgentEvent}

theorem AgentInvariant.advance
    {announces : Bool} {now : Nat}
    (invariant : AgentInvariant relation loop)
    (matched :
      ∀ id remote, loop.nextMatch = some (id, remote) →
        Recorded relation (loop.agent.tryMatch id remote).1 id remote)
    (stepped : loop.advance announces now = some (target, emitted)) :
    AgentInvariant relation target := by
  obtain ⟨agent, pc⟩ := loop
  have quiet (next : LoopPc)
      (nothing : ∀ id, ¬ pc.Pending id) (carries : next.Carries agent.remotes) :
      AgentInvariant relation ⟨agent, next⟩ :=
    ⟨invariant.genuine, carries, fun clean id remote found _ =>
      invariant.recorded clean id remote found (nothing id)⟩
  cases pc with
  | starting =>
      cases stepped
      exact quiet _ (fun _ => id) trivial
  | receiving =>
      cases stepped
  | matching remoteId remote =>
      cases stepped
      refine ⟨genuine_tryMatch invariant.genuine, trivial, ?_⟩
      intro clean id other found _
      by_cases same : remoteId = id
      · subst same
        have stored := invariant.carries
        simp only [LoopPc.Carries] at stored
        cases stored.symm.trans found
        exact matched _ _ rfl
      · exact (invariant.recorded clean id other found same).tryMatch
  | exchanging =>
      simp only [AgentLoop.advance] at stepped
      split at stepped
      · cases stepped
        exact ⟨invariant.genuine, trivial,
          fun _ _ _ _ idle => absurd trivial idle⟩
      · cases stepped
        exact quiet _ (fun _ => id) trivial
  | copying =>
      cases stepped
      refine ⟨invariant.genuine, ?_, ?_⟩
      · intro entry member
        exact Std.TreeMap.mem_toList_iff_getElem?_eq_some.mp member
      · intro _ id remote found idle
        exact absurd
          ⟨remote, Std.TreeMap.mem_toList_iff_getElem?_eq_some.mpr found⟩ idle
  | rematching remotes =>
      cases remotes with
      | nil =>
          cases stepped
          exact quiet _ (by simp [LoopPc.Pending]) trivial
      | cons entry later =>
          obtain ⟨remoteId, remote⟩ := entry
          cases stepped
          have carries := invariant.carries
          simp only [LoopPc.Carries, List.forall_mem_cons] at carries
          refine ⟨genuine_tryMatch invariant.genuine, carries.2, ?_⟩
          intro clean id other found idle
          by_cases same : remoteId = id
          · subst same
            cases carries.1.symm.trans found
            exact matched _ _ rfl
          · refine (invariant.recorded clean id other found ?_).tryMatch
            rintro ⟨pending, member⟩
            rcases List.mem_cons.mp member with equal | member
            · cases equal
              exact same rfl
            · exact idle ⟨pending, member⟩
  | announcing =>
      cases stepped
      exact quiet _ (fun _ => id) trivial
  | reaping =>
      cases stepped
      refine ⟨?_, trivial, ?_⟩
      · intro key m found
        exact
          invariant.genuine key m
            ((activeMatches_reapDead agent now key m).mp found).1
      · intro clean id remote found _
        rw [(reapDead_frame agent now).2] at clean
        rw [remotes_reapDead] at found
        split at found
        · cases found
        · rename_i living
          exact
            (invariant.recorded clean id remote found fun pending =>
              pending).reapDead invariant.genuine living

theorem AgentInvariant.step
    {input : AgentInput}
    (invariant : AgentInvariant relation loop)
    (matched :
      ∀ announces now, input = .advance announces now →
        ∀ id remote, loop.nextMatch = some (id, remote) →
          Recorded relation (loop.agent.tryMatch id remote).1 id remote)
    (stepped : loop.step input = some (target, emitted)) :
    AgentInvariant relation target := by
  cases input with
  | addEndpoint endpoint =>
      cases stepped
      exact ⟨invariant.genuine, invariant.carries,
        fun clean => absurd clean (by simp [DiscoveryAgent.addEndpoint])⟩
  | receive announcement now =>
      obtain ⟨agent, pc⟩ := loop
      simp only [AgentLoop.step] at stepped
      split at stepped
      · cases stepped
        exact ⟨invariant.genuine, trivial, invariant.recorded⟩
      · split at stepped
        · cases stepped
          exact ⟨invariant.genuine, trivial, invariant.recorded⟩
        · cases stepped
          refine ⟨invariant.genuine, ?_, ?_⟩
          · exact Std.TreeMap.getElem?_insert_self
          · intro clean id remote found idle
            simp only [LoopPc.Pending] at idle
            simp only [DiscoveryAgent.storeRemote,
              Std.TreeMap.getElem?_insert, Std.compare_eq_iff_eq, idle,
              if_false] at found
            exact invariant.recorded clean id remote found fun pending => pending
      · cases stepped
  | advance announces now =>
      exact invariant.advance (matched announces now rfl) stepped

end Loop

/-- An agent before `start`, whose endpoints have been added but which knows
nobody. -/
structure AgentLoop.Fresh (loop : AgentLoop) : Prop where
  pc : loop.pc = .starting
  remotes : ∀ id : Nat, loop.agent.remotes[id]? = none
  activeMatches : ∀ key : Text, loop.agent.activeMatches[key]? = none

theorem AgentLoop.Fresh.invariant
    {loop : AgentLoop} (fresh : loop.Fresh)
    (relation : MatchInfo → MatchInfo → Prop) :
    AgentInvariant relation loop where
  genuine := by
    intro key m found
    rw [fresh.activeMatches] at found
    cases found
  carries := by
    rw [fresh.pc]
    trivial
  recorded := by
    intro _ id remote found
    rw [fresh.remotes] at found
    cases found

end MiniMiddleware.Discovery
