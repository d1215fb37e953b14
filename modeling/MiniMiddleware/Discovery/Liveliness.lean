import MiniMiddleware.Discovery.TimedGroup

/-!
# Who is alive

Within the bounds on time, an agent never takes a running participant for dead
if its timeout covers the other's announce interval, one iteration and one
delivery; and a participant that has stopped is forgotten, and its matches are
reported as gone, within the timeout, one iteration and one delivery.
-/

namespace MiniMiddleware.Discovery

open MiniMiddleware.Library

/-! ## What no step changes -/

section Steps

variable {loop target : AgentLoop} {input : AgentInput}
  {emitted : List AgentEvent}

theorem livelinessTimeout_of_step
    (stepped : loop.step input = some (target, emitted)) :
    target.agent.livelinessTimeout = loop.agent.livelinessTimeout := by
  cases AgentLoop.steps_of_step stepped with
  | reaped announces now _ =>
      have spared :
          SameAgent loop.agent
            { loop.agent with
              remotes :=
                (loop.agent.deadIds now).foldl
                  (fun remotes id => remotes.erase id) loop.agent.remotes } :=
        ⟨rfl, rfl, rfl, rfl, rfl⟩
      exact (spared.unmatchDead (loop.agent.deadIds now)).timeout
  | _ =>
      rfl

theorem begun_of_step
    (stepped : loop.step input = some (target, emitted)) :
    target.pc = .starting →
      loop.pc = .starting ∧ ∃ endpoint, input = .addEndpoint endpoint := by
  obtain ⟨agent, pc⟩ := loop
  cases input with
  | addEndpoint endpoint =>
      cases stepped
      exact fun atStart => ⟨atStart, endpoint, rfl⟩
  | receive announcement now =>
      simp only [AgentLoop.step] at stepped
      split at stepped
      · cases stepped
        intro atStart
        cases atStart
      · split at stepped <;> cases stepped <;> intro atStart <;> cases atStart
      · cases stepped
  | advance announces now =>
      intro atStart
      cases pc with
      | receiving =>
          cases stepped
      | exchanging =>
          simp only [AgentLoop.step, AgentLoop.advance] at stepped
          split at stepped <;> cases stepped <;> cases atStart
      | rematching remotes =>
          cases remotes <;> cases stepped <;> cases atStart
      | _ =>
          cases stepped
          cases atStart

theorem dead_of_mem_unmatchDead
    (dead : List Nat) {agent : DiscoveryAgent} {m : MatchInfo}
    (member : m ∈ (DiscoveryAgent.unmatchDead dead agent).2) :
    m.remoteParticipantId ∈ dead := by
  induction dead generalizing agent with
  | nil =>
      cases member
  | cons deadId later inductionHypothesis =>
      rcases List.mem_append.mp member with first | rest
      · have same := (mem_matchesWith.mp first).2
        rw [same]
        exact List.mem_cons_self
      · exact List.mem_cons_of_mem deadId (inductionHypothesis rest)

/-- Only the matches of a participant that is found dead are reported as
gone. -/
theorem dead_of_unmatched
    (stepped : loop.step input = some (target, emitted))
    {m : MatchInfo} (reported : .unmatched m ∈ emitted) :
    ∃ announces now,
      input = .advance announces now ∧ loop.pc = .reaping ∧
        m.remoteParticipantId ∈ loop.agent.deadIds now := by
  cases AgentLoop.steps_of_step stepped with
  | reaped announces now place =>
      obtain ⟨_, member, same⟩ := List.mem_map.mp reported
      cases same
      exact ⟨announces, now, rfl, place, dead_of_mem_unmatchDead _ member⟩
  | moved announces now next _ silent =>
      cases silent _ reported
  | tried announces now id remote next _ =>
      simp at reported
  | _ =>
      cases reported

end Steps

/-! ## The invariant -/

/-- What holds of the group between any two steps. -/
structure TimedInvariant (timing : GroupTiming) (group : TimedGroup) :
    Prop where
  configured : Configured timing group
  sound : group.detector.Sound timing.periods

section Invariant

variable {timing : GroupTiming} {group target middle : TimedGroup}
  {input : TimedInput} {events : List (Nat × AgentEvent)} {pid : Nat}
  {choice : ParticipantStep}

/-- A step of one agent changes neither its id nor its timeout, and takes it to
the start only from there, when it adds an endpoint. -/
theorem Configured.perform
    (configured : Configured timing group)
    (performed : group.perform pid choice = some (middle, events)) (id : Nat) :
    (middle.loops id).agent.participantId = id ∧
      (middle.loops id).agent.livelinessTimeout =
        timing.livelinessTimeout id ∧
      ((middle.loops id).pc = .starting → (group.loops id).pc = .starting) ∧
      ((middle.loops pid).pc = .starting →
        ∃ endpoint, choice = .addEndpoint endpoint) := by
  obtain ⟨agentInput, next, emitted, isInput, stepped, rfl, _⟩ :=
    TimedGroup.exists_of_perform performed
  have onlyAdding (atStart : next.pc = .starting) :
      ∃ endpoint, choice = .addEndpoint endpoint := by
    obtain ⟨_, endpoint, rfl⟩ := begun_of_step stepped atStart
    cases choice with
    | addEndpoint added =>
        exact ⟨added, rfl⟩
    | receive datagram now =>
        cases datagram with
        | none =>
            cases isInput
        | some number =>
            obtain ⟨_, _, impossible⟩ := Option.map_eq_some_iff.mp isInput
            cases impossible
    | advance announces now =>
        cases isInput
  by_cases same : id = pid
  · subst same
    simp only [TimedGroup.moved, Function.update_self]
    exact
      ⟨(extends_of_step stepped).participantId.trans
          (configured.participantId id),
        (livelinessTimeout_of_step stepped).trans
          (configured.livelinessTimeout id),
        fun atStart => (begun_of_step stepped atStart).1, onlyAdding⟩
  · simp only [TimedGroup.moved, Function.update_of_ne same,
      Function.update_self]
    exact ⟨configured.participantId id, configured.livelinessTimeout id,
      fun atStart => atStart, onlyAdding⟩

theorem Configured.step
    (configured : Configured timing group)
    (stepped : group.step timing input = some (target, events)) :
    Configured timing target := by
  cases TimedGroup.steps_of_step stepped with
  | added pid endpoint middle _ performed =>
      have kept := configured.perform performed
      have running := (TimedGroup.perform_frame performed).2.2.1
      refine ⟨fun id => (kept id).1, fun id => (kept id).2.1,
        fun id isRunning atStart => ?_⟩
      rw [running] at isRunning
      exact configured.begun id isRunning ((kept id).2.2.1 atStart)
  | started pid middle _ fresh place performed =>
      have kept := configured.perform performed
      have running := (TimedGroup.perform_frame performed).2.2.1
      refine ⟨fun id => (kept id).1, fun id => (kept id).2.1,
        fun id isRunning atStart => ?_⟩
      rcases List.mem_cons.mp isRunning with rfl | old
      · obtain ⟨_, impossible⟩ := (kept id).2.2.2 atStart
        cases impossible
      · rw [running] at old
        exact configured.begun id old ((kept id).2.2.1 atStart)
  | received pid datagram middle _ isRunning performed =>
      have kept := configured.perform performed
      have same := TimedGroup.sameWorld_markReceived middle pid datagram
      have running := (TimedGroup.perform_frame performed).2.2.1
      refine ⟨?_, ?_, ?_⟩ <;> rw [same.loops]
      · exact fun id => (kept id).1
      · exact fun id => (kept id).2.1
      · intro id member atStart
        rw [same.running, running] at member
        exact configured.begun id member ((kept id).2.2.1 atStart)
  | advanced pid middle _ isRunning performed =>
      have kept := configured.perform performed
      have same := TimedGroup.sameWorld_markAdvanced timing middle group pid
      have running := (TimedGroup.perform_frame performed).2.2.1
      refine ⟨?_, ?_, ?_⟩ <;> rw [same.loops]
      · exact fun id => (kept id).1
      · exact fun id => (kept id).2.1
      · intro id member atStart
        rw [same.running, running] at member
        exact configured.begun id member ((kept id).2.2.1 atStart)
  | stopped pid =>
      exact ⟨configured.participantId, configured.livelinessTimeout,
        fun id member => configured.begun id (List.mem_filter.mp member).1⟩
  | elapsed time =>
      exact ⟨configured.participantId, configured.livelinessTimeout,
        configured.begun⟩

/-- Every step within the bounds on time keeps the invariant. -/
theorem TimedInvariant.step
    (invariant : TimedInvariant timing group)
    (timely : group.Timely timing input)
    (stepped : group.step timing input = some (target, events)) :
    TimedInvariant timing target := by
  refine ⟨invariant.configured.step stepped, ?_⟩
  rcases TimedGroup.detector_step invariant.configured timely stepped with
    same | ⟨action, punctual, moved⟩
  · rw [same]
    exact invariant.sound
  · exact invariant.sound.step punctual moved

theorem TimedGroup.Fresh.invariant
    (fresh : group.Fresh timing) : TimedInvariant timing group where
  configured :=
    ⟨fun pid => (fresh.agents.2 pid).2, fresh.livelinessTimeout,
      fun pid isRunning => by
        rw [fresh.running] at isRunning
        cases isRunning⟩
  sound := by
    have nothing : group.network = [] := List.map_eq_nil_iff.mp fresh.agents.1
    refine Detector.Fresh.sound
      ⟨fresh.started, fresh.running, ?_, fresh.receipts, ?_⟩
    · simp [TimedGroup.detector, nothing]
    · intro pid id
      simp [TimedGroup.detector, (fresh.agents.2 pid).1.remotes id]

end Invariant

theorem timedInvariant_of_run
    {timing : GroupTiming} {inputs : List TimedInput} {group : TimedGroup}
    {events : List (Nat × AgentEvent)}
    (run :
      (timedMachine timing).Run (TimedGroup.Timely timing) inputs group
        events) :
    TimedInvariant timing group :=
  run.invariant (fun group _ => TimedInvariant timing group)
    (fun _ fresh => TimedGroup.Fresh.invariant fresh)
    fun _ _ _ _ _ invariant timely stepped => invariant.step timely stepped

/-! ## No running participant is taken for dead -/

/-- The timeout of the participant `pid` covers the announce interval of `id`,
one iteration and one delivery. -/
def GroupTiming.Patient (timing : GroupTiming) (pid id : Nat) : Prop :=
  timing.announceInterval id + timing.iteration + timing.delay ≤
    timing.livelinessTimeout pid

/-- Whoever has reported a match as gone has started, and so has the other
participant; if both are running, then the timeout did not cover the other's
interval and both bounds. -/
def OnlyDeadUnmatched (timing : GroupTiming) (group : TimedGroup)
    (events : List (Nat × AgentEvent)) : Prop :=
  ∀ pid m, (pid, .unmatched m) ∈ events →
    pid ∈ group.started ∧ m.remoteParticipantId ∈ group.started ∧
      (pid ∈ group.running → m.remoteParticipantId ∈ group.running →
        ¬ timing.Patient pid m.remoteParticipantId)

section Accuracy

variable {timing : GroupTiming} {group target middle : TimedGroup}
  {input : TimedInput} {events emitted : List (Nat × AgentEvent)} {pid : Nat}
  {choice : ParticipantStep}

/-- What an agent reports as gone at the present time it has not heard for
longer than its timeout. -/
theorem TimedInvariant.unmatched
    (invariant : TimedInvariant timing group)
    (observing : pid ∈ group.running)
    {announces : Bool}
    (performed :
      group.perform pid (.advance announces group.clock) =
        some (middle, emitted))
    {id : Nat} {m : MatchInfo} (reported : (id, .unmatched m) ∈ emitted) :
    id = pid ∧ m.remoteParticipantId ∈ group.started ∧
      (m.remoteParticipantId ∈ group.running →
        ¬ timing.Patient pid m.remoteParticipantId) := by
  obtain ⟨agentInput, next, own, isInput, stepped, _, rfl⟩ :=
    TimedGroup.exists_of_perform performed
  cases isInput
  obtain ⟨event, member, same⟩ := List.mem_map.mp reported
  cases same
  obtain ⟨_, now, isAdvance, _, dead⟩ := dead_of_unmatched stepped member
  cases isAdvance
  rw [TableInvariant.mem_deadIds, invariant.configured.livelinessTimeout]
    at dead
  obtain ⟨remote, stored, late⟩ := dead
  have heard :
      group.detector.heard pid m.remoteParticipantId = some remote.lastSeen := by
    simp [TimedGroup.detector, stored]
  refine ⟨rfl, ?_, fun living patient => ?_⟩
  · by_contra unknown
    obtain ⟨_, _, beat, isBeat, isSource, _⟩ :=
      invariant.sound.heard pid _ _ heard
    exact
      ((invariant.sound.silent m.remoteParticipantId unknown).1 beat isBeat).1
        isSource
  · have recent := invariant.sound.heard_recently observing living heard
    have clock : group.detector.clock = group.clock := rfl
    unfold GroupTiming.Patient at patient
    simp only [GroupTiming.periods, clock] at recent
    omega

/-- Only `reap_dead` reports matches as gone. -/
theorem reaping_of_unmatched
    (performed : group.perform pid choice = some (middle, emitted))
    {id : Nat} {m : MatchInfo} (reported : (id, .unmatched m) ∈ emitted) :
    (group.loops pid).pc = .reaping ∧
      ∃ announces now, choice = .advance announces now := by
  obtain ⟨agentInput, next, own, isInput, stepped, _, rfl⟩ :=
    TimedGroup.exists_of_perform performed
  obtain ⟨event, member, same⟩ := List.mem_map.mp reported
  cases same
  obtain ⟨announces, now, rfl, place, _⟩ := dead_of_unmatched stepped member
  refine ⟨place, ?_⟩
  cases choice with
  | addEndpoint endpoint =>
      cases isInput
  | receive datagram heard =>
      cases datagram with
      | none =>
          cases isInput
      | some number =>
          obtain ⟨_, _, impossible⟩ := Option.map_eq_some_iff.mp isInput
          cases impossible
  | advance announced called =>
      exact ⟨announced, called, rfl⟩

theorem running_of_step
    (stepped : group.step timing input = some (target, emitted)) :
    group.started ⊆ target.started ∧
      ∀ id ∈ target.running, id ∈ group.running ∨ id ∉ group.started := by
  cases TimedGroup.steps_of_step stepped with
  | added pid endpoint _ _ performed =>
      obtain ⟨_, started, running, _⟩ := TimedGroup.perform_frame performed
      rw [started, running]
      exact ⟨List.Subset.refl _, fun _ member => Or.inl member⟩
  | started pid middle _ fresh _ performed =>
      obtain ⟨_, started, running, _⟩ := TimedGroup.perform_frame performed
      simp only [TimedGroup.markStarted, started, running]
      refine ⟨List.subset_cons_self pid _, fun id member => ?_⟩
      rcases List.mem_cons.mp member with rfl | old
      · exact Or.inr fresh
      · exact Or.inl old
  | received pid datagram middle _ _ performed =>
      obtain ⟨_, started, running, _⟩ := TimedGroup.perform_frame performed
      have same := TimedGroup.sameWorld_markReceived middle pid datagram
      rw [same.started, same.running, started, running]
      exact ⟨List.Subset.refl _, fun _ member => Or.inl member⟩
  | advanced pid middle _ _ performed =>
      obtain ⟨_, started, running, _⟩ := TimedGroup.perform_frame performed
      have same := TimedGroup.sameWorld_markAdvanced timing middle group pid
      rw [same.started, same.running, started, running]
      exact ⟨List.Subset.refl _, fun _ member => Or.inl member⟩
  | stopped pid =>
      exact ⟨List.Subset.refl _, fun _ member =>
        Or.inl (List.mem_filter.mp member).1⟩
  | elapsed time =>
      exact ⟨List.Subset.refl _, fun _ member => Or.inl member⟩

theorem OnlyDeadUnmatched.step
    (onlyDead : OnlyDeadUnmatched timing group events)
    (invariant : TimedInvariant timing group)
    (stepped : group.step timing input = some (target, emitted)) :
    OnlyDeadUnmatched timing target (events ++ emitted) := by
  obtain ⟨grows, begins⟩ := running_of_step stepped
  have wasRunning {id : Nat} (began : id ∈ group.started)
      (isRunning : id ∈ target.running) : id ∈ group.running :=
    (begins id isRunning).resolve_right fun fresh => fresh began
  intro id m reported
  rcases List.mem_append.mp reported with old | new
  · obtain ⟨own, other, dead⟩ := onlyDead id m old
    exact ⟨grows own, grows other, fun observing living =>
      dead (wasRunning own observing) (wasRunning other living)⟩
  · cases TimedGroup.steps_of_step stepped with
    | added pid endpoint middle _ performed =>
        obtain ⟨_, _, _, impossible⟩ := reaping_of_unmatched performed new
        cases impossible
    | started pid middle _ _ place performed =>
        obtain ⟨reaping, _⟩ := reaping_of_unmatched performed new
        cases place.symm.trans reaping
    | received pid datagram middle _ _ performed =>
        obtain ⟨_, _, _, impossible⟩ := reaping_of_unmatched performed new
        cases impossible
    | advanced pid middle _ isRunning performed =>
        obtain ⟨rfl, other, dead⟩ :=
          invariant.unmatched isRunning performed new
        have own := invariant.sound.started id isRunning
        exact ⟨grows own, grows other, fun _ living =>
          dead (wasRunning other living)⟩
    | stopped pid =>
        cases new
    | elapsed time =>
        cases new

/-- Within the bounds on time, two participants that are both running, and of
which one's timeout covers the other's announce interval, one iteration and one
delivery: the one has never reported a match with the other as gone, and if it
has received anything from the other it knows it. -/
theorem liveliness_accurate
    {inputs : List TimedInput}
    (run :
      (timedMachine timing).Run (TimedGroup.Timely timing) inputs group events)
    {id : Nat} (observing : pid ∈ group.running) (living : id ∈ group.running)
    (foreign : id ≠ pid) (patient : timing.Patient pid id) :
    (∀ m, m.remoteParticipantId = id → (pid, .unmatched m) ∉ events) ∧
      ∀ number datagram, group.network[number]? = some datagram →
        datagram.announcement.participantId = id →
        (pid, number) ∈ group.receipts →
        id ∈ (group.loops pid).agent.remotes := by
  have both :=
    run.invariant
      (fun group events =>
        TimedInvariant timing group ∧ OnlyDeadUnmatched timing group events)
      (fun _ fresh => ⟨TimedGroup.Fresh.invariant fresh,
        fun _ _ member => by cases member⟩)
      fun _ _ _ _ _ invariant timely stepped =>
        ⟨invariant.1.step timely stepped,
          invariant.2.step invariant.1 stepped⟩
  refine ⟨?_, ?_⟩
  · rintro m rfl reported
    exact (both.2 pid m reported).2.2 observing living patient
  · rintro number datagram found rfl receipt
    have beat :
        group.detector.beats[number]? =
          some ⟨datagram.announcement.participantId, datagram.sentAt,
            datagram.audience⟩ := by
      simp [TimedGroup.detector, found]
    have known :=
      both.1.sound.kept pid observing _ living foreign patient number _ beat
        rfl receipt
    rw [Std.TreeMap.mem_iff_isSome_getElem?, Option.isSome_iff_ne_none]
    intro unknown
    exact known (by simp [TimedGroup.detector, unknown])

end Accuracy

/-- The settings of the source, an iteration of at most 300 ms, and at most
100 ms for a datagram. -/
def defaultTiming : GroupTiming where
  announceInterval _ := 1000
  livelinessTimeout _ := 5000
  iteration := 300
  delay := 100

/-- The group of fresh agents at time zero. -/
def freshTimed : TimedGroup where
  loops := freshLoops

theorem freshTimed_fresh : freshTimed.Fresh defaultTiming :=
  ⟨freshLoops_fresh, rfl, rfl, rfl, fun _ => rfl⟩

/-- Participants 1 and 2 start, and 1 hears of 2 and completes the
iteration. -/
def pairMeets : List TimedInput :=
  [.addEndpoint 1 publisherOfT, .addEndpoint 2 subscriberOfT, .start 1,
    .start 2, .elapse 50, .receive 1 (some 1)] ++
    List.replicate 7 (.advance 1)

/-- Iterations of one loop that hear nothing, 200 ms apart. -/
def idles (pid : Nat) : List TimedInput :=
  [.receive pid none, .advance pid, .advance pid, .advance pid]

/-- Both run for a while. -/
theorem liveliness_accurate_pair :
    ∃ group events,
      (timedMachine defaultTiming).Run (TimedGroup.Timely defaultTiming)
          (pairMeets ++ [.elapse 50, .receive 2 (some 0), .elapse 200] ++
            idles 1) group events ∧
        (∀ m, m.remoteParticipantId = 2 → (1, .unmatched m) ∉ events) ∧
        2 ∈ (group.loops 1).agent.remotes := by
  obtain ⟨group, events, run, checked⟩ :=
    Machine.run_of_exec_check (timedMachine defaultTiming)
      (TimedGroup.Timely defaultTiming)
      (pairMeets ++ [.elapse 50, .receive 2 (some 0), .elapse 200] ++ idles 1)
      freshTimed
      (fun group _ =>
        1 ∈ group.running ∧ 2 ∈ group.running ∧
          group.network[1]?.map
              (fun datagram => datagram.announcement.participantId) =
            some 2 ∧
          (1, 1) ∈ group.receipts)
      freshTimed_fresh (by decide +kernel)
  obtain ⟨observing, living, isSent, receipt⟩ := of_decide_eq_true checked
  obtain ⟨datagram, found, own⟩ := Option.map_eq_some_iff.mp isSent
  obtain ⟨kept, known⟩ :=
    liveliness_accurate run observing living (by decide)
      (by unfold GroupTiming.Patient; decide)
  exact ⟨group, events, run, kept, known 1 datagram found own receipt⟩

/-! ## Every stopped participant is forgotten -/

/-- A match that is not active has been reported as new and as gone equally
often. -/
theorem HistoryInvariant.count_eq
    {loop : AgentLoop} {events : List AgentEvent}
    (history : HistoryInvariant loop events) {m : MatchInfo}
    (inactive : loop.agent.activeMatches[matchKey m]? ≠ some m) :
    events.count (.matched m) = events.count (.unmatched m) := by
  have alternating := history.booked.alternating (matchKey m)
  have notOpen := history.booked.stillOpen (matchKey m)
  rw [← notOpen] at inactive
  have counts := alternating.count_eq inactive
  rwa [show matchKey m = matchKey (Bracket.opened m).item from rfl,
    count_historyOf,
    show matchKey (Bracket.opened m).item =
      matchKey (Bracket.closed m).item from rfl,
    count_historyOf, (count_callbacks m events).1,
    (count_callbacks m events).2] at counts

section Completeness

variable {timing : GroupTiming} {inputs later : List TimedInput}
  {middle group : TimedGroup} {before after : List (Nat × AgentEvent)}

/-- What every step of the failure detector keeps holds at the end of a run
from a state in which it holds. -/
theorem detector_exec
    (property : Detector Nat → Prop)
    (kept :
      ∀ detector action target, property detector →
        detector.step timing.periods action = some target → property target)
    (holds : property middle.detector)
    (invariant : TimedInvariant timing middle)
    (continued :
      (timedMachine timing).exec (TimedGroup.Timely timing) middle later =
        some (group, after)) :
    TimedInvariant timing group ∧ property group.detector := by
  refine Machine.exec_invariant
    (fun group => TimedInvariant timing group ∧ property group.detector)
    ⟨invariant, holds⟩ ?_ continued
  rintro state input target emitted _ ⟨sound, holds⟩ timely stepped
  refine ⟨sound.step timely stepped, ?_⟩
  rcases TimedGroup.detector_step sound.configured timely stepped with
    same | ⟨action, _, moved⟩
  · rw [same]
    exact holds
  · exact kept _ _ _ holds moved

/-- Within the bounds on time, a participant `id` that has stopped or crashed
is unknown to every running participant once its timeout, one iteration and one
delivery have passed: no row of the snapshot shows it, and every match with it
has been reported as gone as often as it was reported as new. -/
theorem liveliness_complete
    (run :
      (timedMachine timing).Run (TimedGroup.Timely timing) inputs middle
        before)
    (continued :
      (timedMachine timing).exec (TimedGroup.Timely timing) middle later =
        some (group, after))
    {pid id : Nat} (wasStarted : id ∈ middle.started)
    (stopped : id ∉ middle.running) (observing : pid ∈ group.running)
    (late :
      middle.clock + timing.delay + timing.livelinessTimeout pid +
          timing.iteration <
        group.clock) :
    id ∉ (group.loops pid).agent.remotes ∧
      (∀ row ∈ (group.loops pid).agent.snapshotEndpoints,
        row.participantId ≠ id) ∧
      ∀ m, m.remoteParticipantId = id →
        (before ++ after).count (pid, .matched m) =
          (before ++ after).count (pid, .unmatched m) := by
  have sound := timedInvariant_of_run run
  have gone : Detector.Gone middle.clock id middle.detector :=
    ⟨wasStarted, stopped, fun beat member _ => sound.sound.past beat member⟩
  obtain ⟨invariant, stillGone⟩ :=
    detector_exec (Detector.Gone middle.clock id)
      (fun _ _ _ gone stepped => gone.step stepped) gone sound continued
  have forgotten := invariant.sound.forgotten stillGone observing late
  have unknown : (group.loops pid).agent.remotes[id]? = none := by
    simpa [TimedGroup.detector] using forgotten
  have foreign : id ≠ pid := by
    rintro rfl
    exact stillGone.stopped observing
  obtain ⟨steps, groupRun⟩ := groupRun_of_run (run.continued continued)
  obtain ⟨ghost, holds, participants⟩ := groupInvariant_of_run groupRun
  have notKnown : id ∉ (group.loops pid).agent.remotes := by
    rw [Std.TreeMap.mem_iff_isSome_getElem?, unknown]
    exact Bool.false_ne_true
  refine ⟨notKnown, ?_, ?_⟩
  · intro row shown isSource
    rcases List.mem_append.mp shown with localRow | remoteRow
    · obtain ⟨endpoint, _, rfl⟩ := List.mem_map.mp localRow
      exact foreign
        (isSource.symm.trans (invariant.configured.participantId pid))
    · obtain ⟨⟨other, remote⟩, stored, listed⟩ :=
        List.mem_flatMap.mp remoteRow
      obtain ⟨endpoint, _, rfl⟩ := List.mem_map.mp listed
      rw [Std.TreeMap.mem_toList_iff_getElem?_eq_some] at stored
      have same : other = id := isSource
      subst same
      cases unknown.symm.trans stored
  · rintro m rfl
    have history := (participants pid).history
    rw [holds.histories] at history
    have inactive :
        (group.loops pid).agent.activeMatches[matchKey m]? ≠ some m :=
      fun active => notKnown (history.known _ _ active)
    have counts := history.count_eq inactive
    rwa [count_eventsAt, count_eventsAt] at counts

end Completeness

/-- Iterations of participant 1 that hear nothing, 290 ms apart. -/
def waits (iterations : Nat) : List TimedInput :=
  (List.replicate iterations (.elapse 290 :: idles 1)).flatten

/-- Participant 2 stops, and participant 1 forgets it. -/
theorem liveliness_complete_pair :
    ∃ middle group before after,
      (timedMachine defaultTiming).Run (TimedGroup.Timely defaultTiming)
          (pairMeets ++ [.stop 2]) middle before ∧
        (timedMachine defaultTiming).exec (TimedGroup.Timely defaultTiming)
            middle (waits 19) = some (group, after) ∧
        2 ∉ (group.loops 1).agent.remotes ∧
        (before ++ after).count
            (1, .matched ⟨publisherOfT, subscriberOfT, ⟨[], 2⟩, 2, ['h']⟩) =
          (before ++ after).count
            (1,
              .unmatched ⟨publisherOfT, subscriberOfT, ⟨[], 2⟩, 2, ['h']⟩) := by
  obtain ⟨middle, before, run, checked⟩ :=
    Machine.run_of_exec_check (timedMachine defaultTiming)
      (TimedGroup.Timely defaultTiming) (pairMeets ++ [.stop 2]) freshTimed
      (fun middle _ =>
        2 ∈ middle.started ∧ 2 ∉ middle.running ∧ middle.clock = 50 ∧
          ((timedMachine defaultTiming).exec
            (TimedGroup.Timely defaultTiming) middle (waits 19)).any
              fun outcome =>
                1 ∈ outcome.1.running ∧ 5450 < outcome.1.clock)
      freshTimed_fresh (by decide +kernel)
  obtain ⟨wasStarted, stopped, clock, continues⟩ := of_decide_eq_true checked
  obtain ⟨⟨group, after⟩, continued, outcome⟩ :=
    (Option.any_eq_true _ _).mp continues
  obtain ⟨observing, late⟩ := of_decide_eq_true outcome
  have forgotten :=
    liveliness_complete run continued wasStarted stopped observing
      (by rw [clock]; exact late)
  exact ⟨middle, group, before, after, run, continued, forgotten.1,
    forgotten.2.2 _ rfl⟩

end MiniMiddleware.Discovery
