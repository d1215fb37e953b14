import MiniMiddleware.Discovery.Liveliness

/-!
# Discovery converges

Two running participants that have stopped adding endpoints are matched, within
a known time, exactly where their endpoints belong together, and both sides
agree.  An announcement that was sent before the last endpoint was added may
overtake a newer one, so it takes one delivery until such announcements are
gone, and an announce interval, an iteration and a delivery more until a newer
one has been heard; and it takes two iterations until the dirty flag has been
noticed.
-/

namespace MiniMiddleware.Discovery

open MiniMiddleware.Library

/-! ## Endpoints that no longer change -/

theorem localEndpoints_of_step
    {loop target : AgentLoop} {input : AgentInput} {emitted : List AgentEvent}
    (stepped : loop.step input = some (target, emitted)) :
    target.agent.localEndpoints = loop.agent.localEndpoints ∨
      ∃ endpoint, input = .addEndpoint endpoint := by
  cases AgentLoop.steps_of_step stepped with
  | added endpoint =>
      exact Or.inr ⟨endpoint, rfl⟩
  | reaped announces now _ =>
      exact Or.inl (reapDead_frame loop.agent now).1
  | _ =>
      exact Or.inl rfl

theorem addEndpoint_of_input
    {choice : ParticipantStep} {sent : List ParticipantAnnouncement}
    {endpoint : EndpointInfo}
    (isInput : choice.input? sent = some (.addEndpoint endpoint)) :
    choice = .addEndpoint endpoint := by
  cases choice with
  | addEndpoint added =>
      cases isInput
      rfl
  | receive datagram now =>
      cases datagram with
      | none =>
          cases isInput
      | some number =>
          obtain ⟨_, _, impossible⟩ := Option.map_eq_some_iff.mp isInput
          cases impossible
  | advance announces now =>
      cases isInput

/-- A datagram that an agent receives is on the network. -/
theorem datagram_of_input
    {choice : ParticipantStep} {group : TimedGroup}
    {announcement : ParticipantAnnouncement} {now : Nat}
    (isInput :
      choice.input? group.sent = some (.receive (some announcement) now)) :
    ∃ number datagram,
      choice = .receive (some number) now ∧
        group.network[number]? = some datagram ∧
        datagram.announcement = announcement := by
  cases choice with
  | addEndpoint added =>
      cases isInput
  | receive datagram heard =>
      cases datagram with
      | none =>
          cases isInput
      | some number =>
          obtain ⟨_, isSent, same⟩ := Option.map_eq_some_iff.mp isInput
          cases same
          rw [TimedGroup.sent, List.getElem?_map] at isSent
          obtain ⟨datagram, found, same⟩ := Option.map_eq_some_iff.mp isSent
          exact ⟨number, datagram, rfl, found, same⟩
  | advance announces now =>
      cases isInput

/-- The participant `id` has these endpoints, it has announced them since the
time `since`, and whoever has heard it after all older announcements were gone
knows them. -/
structure Steady (timing : GroupTiming) (since id : Nat)
    (endpoints : List EndpointInfo) (group : TimedGroup) : Prop where
  own : (group.loops id).agent.localEndpoints = endpoints
  announced :
    ∀ datagram ∈ group.network, datagram.announcement.participantId = id →
      since < datagram.sentAt → datagram.announcement.endpoints = endpoints
  stored :
    ∀ pid remote, (group.loops pid).agent.remotes[id]? = some remote →
      since + timing.delay < remote.lastSeen → remote.endpoints = endpoints

section Steadiness

variable {timing : GroupTiming} {since id pid : Nat}
  {endpoints : List EndpointInfo} {group target middle : TimedGroup}
  {choice : ParticipantStep} {input : TimedInput}
  {events : List (Nat × AgentEvent)}

theorem Steady.sameWorld
    (steady : Steady timing since id endpoints group)
    (same : TimedGroup.SameWorld group target) :
    Steady timing since id endpoints target where
  own := by
    rw [same.loops]
    exact steady.own
  announced := by
    rw [same.network]
    exact steady.announced
  stored := by
    rw [same.loops]
    exact steady.stored

/-- A step of an agent that does not add an endpoint to `id`, and receives
datagrams in time. -/
theorem Steady.perform
    (steady : Steady timing since id endpoints group)
    (configured : Configured timing group)
    (performed : group.perform pid choice = some (middle, events))
    (kept : ∀ endpoint, choice = .addEndpoint endpoint → pid ≠ id)
    (inTime :
      ∀ number now, choice = .receive (some number) now →
        ∀ datagram ∈ group.network[number]?,
          now ≤ datagram.sentAt + timing.delay) :
    Steady timing since id endpoints middle := by
  obtain ⟨agentInput, next, emitted, isInput, stepped, rfl, _⟩ :=
    TimedGroup.exists_of_perform performed
  refine ⟨?_, ?_, ?_⟩
  · by_cases same : id = pid
    · subst same
      simp only [TimedGroup.moved, Function.update_self]
      rcases localEndpoints_of_step stepped with unchanged | ⟨endpoint, rfl⟩
      · rw [unchanged]
        exact steady.own
      · exact absurd rfl (kept endpoint (addEndpoint_of_input isInput))
    · simp only [TimedGroup.moved, Function.update_of_ne same]
      exact steady.own
  · intro datagram member own late
    rcases List.mem_append.mp member with old | new
    · exact steady.announced datagram old own late
    · obtain ⟨announcement, isSent, rfl⟩ := List.mem_map.mp new
      have sender := announced_of_step stepped isSent
      dsimp only at own ⊢
      rw [sender] at own ⊢
      have same : pid = id :=
        (configured.participantId pid).symm.trans own
      subst same
      exact steady.own
  · intro other remote found late
    by_cases same : other = pid
    · subst same
      simp only [TimedGroup.moved, Function.update_self] at found
      rcases remotes_of_step stepped found with
        old | ⟨announcement, now, rfl, _, sender, rfl⟩
      · exact steady.stored other remote old late
      · obtain ⟨number, datagram, rfl, onNetwork, rfl⟩ :=
          datagram_of_input isInput
        have bound := inTime number now rfl datagram onNetwork
        have heard : since + timing.delay < now := late
        exact
          steady.announced datagram (List.mem_of_getElem? onNetwork) sender
            (by omega)
    · simp only [TimedGroup.moved, Function.update_of_ne same] at found
      exact steady.stored other remote found late

theorem Steady.step
    (steady : Steady timing since id endpoints group)
    (configured : Configured timing group)
    (timely : group.Timely timing input)
    (kept : ∀ endpoint, input ≠ .addEndpoint id endpoint)
    (stepped : group.step timing input = some (target, events)) :
    Steady timing since id endpoints target := by
  cases TimedGroup.steps_of_step stepped with
  | added pid endpoint _ _ performed =>
      refine steady.perform configured performed ?_ ?_
      · rintro added _ rfl
        exact kept endpoint rfl
      · intro _ _ impossible
        cases impossible
  | started pid middle _ _ _ performed =>
      have after : Steady timing since id endpoints middle := by
        refine steady.perform configured performed ?_ ?_
        · intro _ impossible
          cases impossible
        · intro _ _ impossible
          cases impossible
      exact ⟨after.own, after.announced, after.stored⟩
  | received pid datagram middle _ _ performed =>
      refine Steady.sameWorld ?_
        (TimedGroup.sameWorld_markReceived middle pid datagram)
      refine steady.perform configured performed ?_ ?_
      · intro _ impossible
        cases impossible
      · intro number now isReceive
        cases isReceive
        exact timely
  | advanced pid middle _ _ performed =>
      refine Steady.sameWorld ?_
        (TimedGroup.sameWorld_markAdvanced timing middle group pid)
      refine steady.perform configured performed ?_ ?_
      · intro _ impossible
        cases impossible
      · intro _ _ impossible
        cases impossible
  | stopped pid =>
      exact ⟨steady.own, steady.announced, steady.stored⟩
  | elapsed time =>
      exact ⟨steady.own, steady.announced, steady.stored⟩

end Steadiness

/-! ## The dirty flag -/

/-- The places between the exchange of the flag and the end of the test of the
announce interval. -/
def LoopPc.BehindExchange : LoopPc → Prop
  | .copying | .rematching _ | .announcing => True
  | _ => False

/-- Only `add_endpoint` sets the flag, and the exchange clears it. -/
theorem dirty_of_step
    {loop target : AgentLoop} {input : AgentInput} {emitted : List AgentEvent}
    (stepped : loop.step input = some (target, emitted))
    (notAdding : ∀ endpoint, input ≠ .addEndpoint endpoint)
    (dirty : target.agent.endpointsDirty = true) :
    loop.agent.endpointsDirty = true ∧
      (target.pc.BehindExchange → loop.pc.BehindExchange) := by
  obtain ⟨agent, pc⟩ := loop
  cases input with
  | addEndpoint endpoint =>
      exact absurd rfl (notAdding endpoint)
  | receive announcement now =>
      simp only [AgentLoop.step] at stepped
      split at stepped
      · cases stepped
        exact ⟨dirty, fun behind => by cases behind⟩
      · split at stepped <;> cases stepped <;>
          exact ⟨dirty, fun behind => by cases behind⟩
      · cases stepped
  | advance announces now =>
      cases pc with
      | receiving =>
          cases stepped
      | exchanging =>
          simp only [AgentLoop.step, AgentLoop.advance] at stepped
          split at stepped
          · cases stepped
            cases dirty
          · rename_i clean
            cases stepped
            exact absurd dirty clean
      | rematching remotes =>
          cases remotes <;> cases stepped <;> exact ⟨dirty, fun _ => trivial⟩
      | copying =>
          cases stepped
          exact ⟨dirty, fun _ => trivial⟩
      | reaping =>
          cases stepped
          rw [(reapDead_frame agent now).2] at dirty
          exact ⟨dirty, fun behind => by cases behind⟩
      | announcing =>
          cases stepped
          exact ⟨dirty, fun behind => by cases behind⟩
      | starting =>
          cases stepped
          exact ⟨dirty, fun behind => by cases behind⟩
      | matching remoteId remote =>
          cases stepped
          exact ⟨dirty, fun behind => by cases behind⟩

/-- The participant `pid` has added no endpoint after the time `since`.  While
its flag is set, its loop has tested the interval at most once since then, and
not at all if it is behind the exchange of the flag. -/
structure Noticing (timing : GroupTiming) (since pid : Nat)
    (group : TimedGroup) : Prop where
  started : pid ∈ group.started
  tested :
    (group.loops pid).agent.endpointsDirty = true →
      group.passed pid ≤ since + timing.iteration ∧
        ((group.loops pid).pc.BehindExchange → group.passed pid ≤ since)

section Flags

variable {timing : GroupTiming} {since pid id : Nat}
  {group target middle : TimedGroup} {choice : ParticipantStep}
  {input : TimedInput} {events : List (Nat × AgentEvent)}

theorem Noticing.perform
    (noticing : Noticing timing since pid group)
    (performed : group.perform id choice = some (middle, events))
    (kept : ∀ endpoint, choice = .addEndpoint endpoint → id ≠ pid) :
    Noticing timing since pid middle := by
  obtain ⟨agentInput, next, emitted, isInput, stepped, rfl, _⟩ :=
    TimedGroup.exists_of_perform performed
  refine ⟨noticing.started, fun dirty => ?_⟩
  by_cases same : pid = id
  · subst same
    simp only [TimedGroup.moved, Function.update_self] at dirty ⊢
    have notAdding (endpoint : EndpointInfo) :
        agentInput ≠ .addEndpoint endpoint := by
      rintro rfl
      exact kept endpoint (addEndpoint_of_input isInput) rfl
    obtain ⟨wasDirty, behind⟩ := dirty_of_step stepped notAdding dirty
    obtain ⟨once, never⟩ := noticing.tested wasDirty
    exact ⟨once, fun later => never (behind later)⟩
  · simp only [TimedGroup.moved, Function.update_of_ne same] at dirty ⊢
    exact noticing.tested dirty

theorem passed_markAdvanced (timing : GroupTiming)
    (middle group : TimedGroup) (id pid : Nat) :
    (middle.markAdvanced timing group id).passed pid = middle.passed pid ∨
      id = pid ∧ (group.loops pid).pc = .announcing ∧
        (middle.markAdvanced timing group id).passed pid = middle.clock := by
  unfold TimedGroup.markAdvanced
  split
  · rename_i place
    by_cases same : pid = id
    · subst same
      exact Or.inr ⟨rfl, place, Function.update_self ..⟩
    · exact Or.inl (Function.update_of_ne same ..)
  · exact Or.inl rfl
  · exact Or.inl rfl

theorem Noticing.step
    (noticing : Noticing timing since pid group)
    (invariant : TimedInvariant timing group)
    (kept : ∀ endpoint, input ≠ .addEndpoint pid endpoint)
    (stepped : group.step timing input = some (target, events)) :
    Noticing timing since pid target := by
  cases TimedGroup.steps_of_step stepped with
  | added id endpoint _ _ performed =>
      refine noticing.perform performed ?_
      rintro added _ rfl
      exact kept endpoint rfl
  | started id middle _ fresh _ performed =>
      have after : Noticing timing since pid middle :=
        noticing.perform performed fun _ impossible => by cases impossible
      have different : pid ≠ id := by
        rintro rfl
        exact fresh noticing.started
      refine ⟨List.mem_cons_of_mem id after.started, ?_⟩
      simp only [TimedGroup.markStarted, Function.update_of_ne different]
      exact after.tested
  | received id datagram middle _ _ performed =>
      have after : Noticing timing since pid middle :=
        noticing.perform performed fun _ impossible => by cases impossible
      have same := TimedGroup.sameWorld_markReceived middle id datagram
      have passed :
          (middle.markReceived id datagram).passed = middle.passed := by
        unfold TimedGroup.markReceived
        split
        · rfl
        · split
          · rfl
          · split <;> rfl
      refine ⟨?_, ?_⟩
      · rw [same.started]
        exact after.started
      · rw [same.loops, passed]
        exact after.tested
  | advanced id middle _ isRunning performed =>
      have after : Noticing timing since pid middle :=
        noticing.perform performed fun _ impossible => by cases impossible
      have same := TimedGroup.sameWorld_markAdvanced timing middle group id
      obtain ⟨clock, _, _, passedBefore⟩ := TimedGroup.perform_frame performed
      refine ⟨?_, ?_⟩
      · rw [same.started]
        exact after.started
      · rw [same.loops]
        intro dirty
        obtain ⟨once, never⟩ := after.tested dirty
        rcases passed_markAdvanced timing middle group id pid with
          unchanged | ⟨rfl, place, now⟩
        · rw [unchanged]
          exact ⟨once, never⟩
        · -- The loop was behind the exchange with the flag set.
          obtain ⟨agentInput, next, emitted, isInput, agentStepped, rfl, _⟩ :=
            TimedGroup.exists_of_perform performed
          cases isInput
          obtain ⟨rfl, rfl⟩ := step_of_announcing place agentStepped
          have wasDirty :
              (group.loops id).agent.endpointsDirty = true := by
            simpa [TimedGroup.moved] using dirty
          have notSince :=
            (noticing.tested wasDirty).2 (by rw [place]; trivial)
          have punctual : group.clock ≤ group.passed id + timing.iteration :=
            (invariant.sound.senders id isRunning).punctual
          rw [now, clock]
          refine ⟨by omega, fun behind => ?_⟩
          simp [TimedGroup.moved, LoopPc.BehindExchange] at behind
  | stopped id =>
      exact ⟨noticing.started, noticing.tested⟩
  | elapsed time =>
      exact ⟨noticing.started, noticing.tested⟩

end Flags

/-! ## The time it takes -/

/-- An announce interval, two iterations and two deliveries. -/
def GroupTiming.settlingTime (timing : GroupTiming) (pid id : Nat) : Nat :=
  max (timing.announceInterval pid) (timing.announceInterval id) +
    2 * timing.iteration + 2 * timing.delay

section Convergence

variable {timing : GroupTiming} {inputs later : List TimedInput}
  {middle group : TimedGroup} {before after : List (Nat × AgentEvent)}
  {pid id : Nat}

/-- One side knows the present endpoints of the other, and has matched its
own. -/
theorem upToDate_of_exec
    (invariant : TimedInvariant timing middle)
    (continued :
      (timedMachine timing).exec (TimedGroup.Timely timing) middle later =
        some (group, after))
    (foreign : id ≠ pid)
    (began : pid ∈ middle.running) (otherBegan : id ∈ middle.running)
    (running : pid ∈ group.running) (otherRunning : id ∈ group.running)
    (patient : timing.Patient pid id)
    (quiet :
      ∀ endpoint,
        TimedInput.addEndpoint pid endpoint ∉ later ∧
          TimedInput.addEndpoint id endpoint ∉ later)
    (atEnd : (group.loops pid).pc = .receiving)
    (late : middle.clock + timing.settlingTime pid id < group.clock) :
    UpToDate group.loops pid id ∧
      (group.loops id).agent.localEndpoints =
        (middle.loops id).agent.localEndpoints := by
  obtain ⟨sound, addressing, steady, noticing⟩ :
      TimedInvariant timing group ∧
        Detector.Addressing middle.clock pid id group.detector ∧
        Steady timing middle.clock id (middle.loops id).agent.localEndpoints
          group ∧
        Noticing timing middle.clock pid group := by
    refine Machine.exec_invariant
      (fun group =>
        TimedInvariant timing group ∧
          Detector.Addressing middle.clock pid id group.detector ∧
          Steady timing middle.clock id (middle.loops id).agent.localEndpoints
            group ∧
          Noticing timing middle.clock pid group)
      ⟨invariant, invariant.sound.addressing began otherBegan, ⟨rfl, ?_, ?_⟩,
        ⟨invariant.sound.started pid began, fun _ => ?_⟩⟩ ?_ continued
    · -- Nothing has been sent or heard after the present.
      intro datagram member _ later
      obtain ⟨number, found⟩ := List.mem_iff_getElem?.mp member
      have beat :
          (⟨datagram.announcement.participantId, datagram.sentAt,
              datagram.audience⟩ : Beat Nat) ∈ middle.detector.beats :=
        List.mem_map.mpr ⟨datagram, member, rfl⟩
      exact absurd (invariant.sound.past _ beat) (Nat.not_le.mpr later)
    · intro other remote found later
      have heard :
          middle.detector.heard other id = some remote.lastSeen := by
        simp [TimedGroup.detector, found]
      have past : remote.lastSeen ≤ middle.clock :=
        (invariant.sound.heard other id _ heard).2.1
      omega
    · have past : middle.passed pid ≤ middle.clock :=
        (invariant.sound.senders pid began).past
      exact ⟨Nat.le_add_right_of_le past, fun _ => past⟩
    · rintro state input target emitted member ⟨sound, addressing, steady,
        noticing⟩ timely stepped
      refine ⟨sound.step timely stepped, ?_, ?_, ?_⟩
      · rcases TimedGroup.detector_step sound.configured timely stepped with
          same | ⟨action, _, moved⟩
        · rw [same]
          exact addressing
        · exact addressing.step foreign moved
      · refine steady.step sound.configured timely ?_ stepped
        rintro endpoint rfl
        exact (quiet endpoint).2 member
      · refine noticing.step sound ?_ stepped
        rintro endpoint rfl
        exact (quiet endpoint).1 member
  have interval := Nat.le_max_right (timing.announceInterval pid)
    (timing.announceInterval id)
  unfold GroupTiming.settlingTime at late
  have clock : group.detector.clock = group.clock := rfl
  obtain ⟨time, heard, recent⟩ :=
    sound.sound.known addressing foreign running otherRunning patient (by
      simp only [GroupTiming.periods, clock]
      omega)
  simp only [GroupTiming.periods, clock] at recent
  obtain ⟨remote, known, rfl⟩ := Option.map_eq_some_iff.mp heard
  refine ⟨⟨atEnd, ?_, remote, known, ?_⟩, steady.own⟩
  · by_contra notClean
    have tested := (noticing.tested (by simpa using notClean)).1
    have punctual : group.clock ≤ group.passed pid + timing.iteration :=
      (sound.sound.senders pid running).punctual
    omega
  · rw [steady.own]
    exact steady.stored pid remote known (by omega)

/-- Within the bounds on time, two participants that keep running and have
added no endpoints for the settling time, whenever both loops are at `recv`:
each is matched with the other exactly where an endpoint of the one belongs to
one of the other, and the matches of the two mirror each other. -/
theorem discovery_converges
    (run :
      (timedMachine timing).Run (TimedGroup.Timely timing) inputs middle
        before)
    (continued :
      (timedMachine timing).exec (TimedGroup.Timely timing) middle later =
        some (group, after))
    (foreign : id ≠ pid)
    (began : pid ∈ middle.running) (otherBegan : id ∈ middle.running)
    (running : pid ∈ group.running) (otherRunning : id ∈ group.running)
    (patient : timing.Patient pid id) (otherPatient : timing.Patient id pid)
    (quiet :
      ∀ endpoint,
        TimedInput.addEndpoint pid endpoint ∉ later ∧
          TimedInput.addEndpoint id endpoint ∉ later)
    (atEnd : (group.loops pid).pc = .receiving)
    (otherAtEnd : (group.loops id).pc = .receiving)
    (late : middle.clock + timing.settlingTime pid id < group.clock)
    (kind otherKind : EndpointKind) (topic : Text) :
    (MatchedAs group.loops pid id kind otherKind topic ↔
      ∃ le ∈ (middle.loops pid).agent.localEndpoints,
        ∃ re ∈ (middle.loops id).agent.localEndpoints,
          le.kind = kind ∧ re.kind = otherKind ∧ le.topic = topic ∧
            Matching le re) ∧
      (MatchedAs group.loops pid id kind otherKind topic ↔
        MatchedAs group.loops id pid otherKind kind topic) := by
  have invariant := timedInvariant_of_run run
  have otherLate :
      middle.clock + timing.settlingTime id pid < group.clock := by
    unfold GroupTiming.settlingTime at late ⊢
    rwa [Nat.max_comm]
  obtain ⟨here, otherOwn⟩ :=
    upToDate_of_exec invariant continued foreign began otherBegan running
      otherRunning patient quiet atEnd late
  obtain ⟨there, own⟩ :=
    upToDate_of_exec invariant continued (Ne.symm foreign) otherBegan began
      otherRunning running otherPatient
      (fun endpoint => ⟨(quiet endpoint).2, (quiet endpoint).1⟩) otherAtEnd
      otherLate
  obtain ⟨steps, groupRun⟩ := groupRun_of_run (run.continued continued)
  rw [← otherOwn, ← own]
  exact ⟨matchedAs_iff groupRun here kind otherKind topic,
    matchedAs_comm groupRun here there kind otherKind topic⟩

end Convergence

/-- Participant 1 hears the first announcement of 2, and each the second one of
the other. -/
def pairSettles : List TimedInput :=
  [.elapse 100, .receive 1 (some 1)] ++ List.replicate 7 (.advance 1) ++
    .receive 2 none :: List.replicate 5 (.advance 2) ++
    (List.replicate 4 (.elapse 290 :: (idles 1 ++ idles 2))).flatten ++
    [.elapse 100, .receive 1 (some 3)] ++ List.replicate 4 (.advance 1) ++
    .receive 2 (some 2) :: List.replicate 4 (.advance 2) ++
    (List.replicate 2 (.elapse 290 :: (idles 1 ++ idles 2))).flatten

theorem pairSettles_quiet (pid : Nat) (endpoint : EndpointInfo) :
    .addEndpoint pid endpoint ∉ pairSettles := by
  intro member
  have quiet :
      pairSettles.all fun input =>
        match input with
        | .addEndpoint _ _ => false
        | _ => true := by decide
  cases List.all_eq_true.mp quiet _ member

/-- A publisher and a subscriber find each other. -/
theorem discovery_converges_pair :
    ∃ middle group before after,
      (timedMachine defaultTiming).Run (TimedGroup.Timely defaultTiming)
          [.addEndpoint 1 publisherOfT, .addEndpoint 2 subscriberOfT,
            .start 1, .start 2] middle before ∧
        (timedMachine defaultTiming).exec (TimedGroup.Timely defaultTiming)
            middle pairSettles = some (group, after) ∧
        MatchedAs group.loops 1 2 .publisher .subscriber ['t'] ∧
        MatchedAs group.loops 2 1 .subscriber .publisher ['t'] := by
  obtain ⟨middle, before, run, checked⟩ :=
    Machine.run_of_exec_check (timedMachine defaultTiming)
      (TimedGroup.Timely defaultTiming)
      [.addEndpoint 1 publisherOfT, .addEndpoint 2 subscriberOfT, .start 1,
        .start 2] freshTimed
      (fun middle _ =>
        (1 ∈ middle.running ∧ 2 ∈ middle.running ∧ middle.clock = 0 ∧
            (middle.loops 1).agent.localEndpoints = [publisherOfT] ∧
            (middle.loops 2).agent.localEndpoints = [subscriberOfT]) ∧
          ((timedMachine defaultTiming).exec
            (TimedGroup.Timely defaultTiming) middle pairSettles).any
              fun outcome =>
                1 ∈ outcome.1.running ∧ 2 ∈ outcome.1.running ∧
                  (outcome.1.loops 1).pc = .receiving ∧
                  (outcome.1.loops 2).pc = .receiving ∧
                  1800 < outcome.1.clock)
      freshTimed_fresh (by decide +kernel)
  obtain ⟨⟨began, otherBegan, clock, own, otherOwn⟩, continues⟩ :=
    of_decide_eq_true checked
  obtain ⟨⟨group, after⟩, continued, outcome⟩ :=
    (Option.any_eq_true _ _).mp continues
  obtain ⟨running, otherRunning, atEnd, otherAtEnd, late⟩ :=
    of_decide_eq_true outcome
  have patient (pid id : Nat) : defaultTiming.Patient pid id :=
    (by decide : 1000 + 300 + 100 ≤ 5000)
  have converged :=
    discovery_converges run continued (by decide : (2 : Nat) ≠ 1) began
      otherBegan running otherRunning (patient 1 2) (patient 2 1)
      (fun endpoint =>
        ⟨pairSettles_quiet 1 endpoint, pairSettles_quiet 2 endpoint⟩)
      atEnd otherAtEnd (by rw [clock]; exact late) .publisher .subscriber
      ['t']
  have here : MatchedAs group.loops 1 2 .publisher .subscriber ['t'] := by
    refine converged.1.mpr
      ⟨publisherOfT, ?_, subscriberOfT, ?_, rfl, rfl, rfl,
        (pairMatches_iff _ _).mp (by decide)⟩
    · rw [own]
      exact List.mem_cons_self
    · rw [otherOwn]
      exact List.mem_cons_self
  exact ⟨middle, group, before, after, run, continued, here,
    converged.2.mp here⟩

end MiniMiddleware.Discovery
