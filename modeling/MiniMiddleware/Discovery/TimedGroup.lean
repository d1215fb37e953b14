import MiniMiddleware.Discovery.DiscoveryNetwork
import MiniMiddleware.Library.FailureDetector

/-!
# Discovery in time

The group of discovery agents with a clock: `last_announce_`, `last_seen` and
`now` are readings of it, an agent announces when `announce_interval_` has
passed and reaps whom it has not heard for longer than `liveliness_timeout_`.
How long an iteration of the background loop and the delivery of a datagram may
take is bounded by the guard of the runs.

Seen from outside, the agents are a failure detector: announcements are its
beats, `last_seen` is when one process last heard another.
-/

namespace MiniMiddleware.Discovery

open MiniMiddleware.Library

/-- An announcement on the network, and the participants that were listening
when it was sent. -/
structure Datagram where
  announcement : ParticipantAnnouncement
  sentAt : Nat
  audience : List Nat
  deriving DecidableEq, Repr

/-- `announce_interval_` and `liveliness_timeout_` of every participant, and
the bounds on an iteration of a loop and on the delivery of a datagram. -/
structure GroupTiming where
  announceInterval : Nat → Nat
  livelinessTimeout : Nat → Nat
  iteration : Nat
  delay : Nat

/-- The settings of the failure detector. -/
def GroupTiming.periods (timing : GroupTiming) : Periods Nat where
  interval := timing.announceInterval
  timeout := timing.livelinessTimeout
  iteration := timing.iteration
  delay := timing.delay

/-- The participants, the network and the clock.  `receipts` pairs a
participant with the number of a datagram of another that it has received;
`passed` and `reapedAt` say when a loop last was at the test of the interval
and in `reap_dead`. -/
structure TimedGroup where
  network : List Datagram := []
  loops : Nat → AgentLoop
  clock : Nat := 0
  started : List Nat := []
  running : List Nat := []
  receipts : List (Nat × Nat) := []
  lastAnnounce : Nat → Nat := fun _ => 0
  passed : Nat → Nat := fun _ => 0
  reapedAt : Nat → Nat := fun _ => 0

/-- What happens next.  `receive pid none` is a timeout of `recv` or a
malformed datagram; a participant that stops may also have crashed. -/
inductive TimedInput where
  | addEndpoint (pid : Nat) (endpoint : EndpointInfo)
  | start (pid : Nat)
  | receive (pid : Nat) (datagram : Option Nat)
  | advance (pid : Nat)
  | stop (pid : Nat)
  | elapse (time : Nat)
  deriving DecidableEq, Repr

namespace TimedGroup

/-- The announcements sent so far. -/
def sent (group : TimedGroup) : List ParticipantAnnouncement :=
  group.network.map Datagram.announcement

/-- The group after a step of one agent. -/
def moved (group : TimedGroup) (pid : Nat) (next : AgentLoop)
    (emitted : List AgentEvent) : TimedGroup :=
  { group with
    network :=
      group.network ++ (announcementsOf emitted).map fun announcement =>
        ⟨announcement, group.clock,
          group.running.filter fun other => other ≠ pid⟩
    loops := Function.update group.loops pid next }

/-- A step of one agent at the present time. -/
def perform (group : TimedGroup) (pid : Nat) (choice : ParticipantStep) :
    Option (TimedGroup × List (Nat × AgentEvent)) :=
  (participantStep pid group.sent (group.loops pid) choice).map fun after =>
    (group.moved pid after.2.1 (after.2.2.map Prod.snd), after.2.2)

/-- `now - last_announce_ >= announce_interval_`. -/
def due (timing : GroupTiming) (group : TimedGroup) (pid : Nat) : Bool :=
  timing.announceInterval pid ≤ group.clock - group.lastAnnounce pid

/-- The announcement behind `start`, and `last_announce_` set after it. -/
def markStarted (group : TimedGroup) (pid : Nat) : TimedGroup :=
  { group with
    started := pid :: group.started
    running := pid :: group.running
    lastAnnounce := Function.update group.lastAnnounce pid group.clock
    passed := Function.update group.passed pid group.clock
    reapedAt := Function.update group.reapedAt pid group.clock }

/-- A datagram of another participant has been received. -/
def markReceived (group : TimedGroup) (pid : Nat) (datagram : Option Nat) :
    TimedGroup :=
  match datagram with
  | none => group
  | some number =>
      match group.network[number]? with
      | none => group
      | some received =>
          if received.announcement.participantId = pid then
            group
          else
            { group with receipts := (pid, number) :: group.receipts }

/-- The loop has moved on from the place where it was before. -/
def markAdvanced (timing : GroupTiming) (group before : TimedGroup)
    (pid : Nat) : TimedGroup :=
  match (before.loops pid).pc with
  | .announcing =>
      { group with
        passed := Function.update group.passed pid group.clock
        lastAnnounce :=
          if before.due timing pid then
            Function.update group.lastAnnounce pid group.clock
          else
            group.lastAnnounce }
  | .reaping =>
      { group with
        reapedAt := Function.update group.reapedAt pid group.clock }
  | _ => group

/-- One step. -/
def step (timing : GroupTiming) (group : TimedGroup) :
    TimedInput → Option (TimedGroup × List (Nat × AgentEvent))
  | .addEndpoint pid endpoint => group.perform pid (.addEndpoint endpoint)
  | .start pid =>
      if pid ∉ group.started ∧ (group.loops pid).pc = .starting then
        (group.perform pid (.advance false group.clock)).map fun after =>
          (after.1.markStarted pid, after.2)
      else
        none
  | .receive pid datagram =>
      if pid ∈ group.running then
        (group.perform pid (.receive datagram group.clock)).map fun after =>
          (after.1.markReceived pid datagram, after.2)
      else
        none
  | .advance pid =>
      if pid ∈ group.running then
        (group.perform pid
            (.advance (group.due timing pid) group.clock)).map fun after =>
          (after.1.markAdvanced timing group pid, after.2)
      else
        none
  | .stop pid =>
      some
        ({ group with
            running := group.running.filter fun other => other ≠ pid }, [])
  | .elapse time => some ({ group with clock := group.clock + time }, [])

/-- The agents as a failure detector. -/
def detector (group : TimedGroup) : Detector Nat where
  clock := group.clock
  started := group.started
  running := group.running
  beats :=
    group.network.map fun datagram =>
      ⟨datagram.announcement.participantId, datagram.sentAt,
        datagram.audience⟩
  receipts := group.receipts
  lastBeat := group.lastAnnounce
  passed := group.passed
  checked := group.reapedAt
  heard pid id := (group.loops pid).agent.remotes[id]?.map Remote.lastSeen

/-- The bounds on time: no datagram arrives after `delay`, and the clock only
moves on within the bounds of the failure detector. -/
def Timely (timing : GroupTiming) (group : TimedGroup) : TimedInput → Prop
  | .receive _ (some number) =>
      ∀ datagram ∈ group.network[number]?,
        group.clock ≤ datagram.sentAt + timing.delay
  | .elapse time => group.detector.Punctual timing.periods (.elapse time)
  | _ => True

instance (timing : GroupTiming) (group : TimedGroup) (input : TimedInput) :
    Decidable (group.Timely timing input) :=
  match input with
  | .addEndpoint _ _ | .start _ | .receive _ none | .advance _ | .stop _ =>
      inferInstanceAs (Decidable True)
  | .receive _ (some number) =>
      inferInstanceAs
        (Decidable
          (∀ datagram ∈ group.network[number]?,
            group.clock ≤ datagram.sentAt + timing.delay))
  | .elapse time =>
      inferInstanceAs
        (Decidable (group.detector.Punctual timing.periods (.elapse time)))

/-- Nobody has started or sent anything. -/
structure Fresh (timing : GroupTiming) (group : TimedGroup) : Prop where
  agents : FreshGroup (group.sent, group.loops)
  started : group.started = []
  running : group.running = []
  receipts : group.receipts = []
  livelinessTimeout :
    ∀ pid,
      (group.loops pid).agent.livelinessTimeout = timing.livelinessTimeout pid

end TimedGroup

/-- The group in time as a machine. -/
def timedMachine (timing : GroupTiming) :
    Machine TimedGroup TimedInput (Nat × AgentEvent) where
  initial := TimedGroup.Fresh timing
  step := TimedGroup.step timing

/-! ## The group without time -/

namespace TimedGroup

@[simp]
theorem sent_moved
    (group : TimedGroup) (pid : Nat) (next : AgentLoop)
    (emitted : List AgentEvent) :
    (group.moved pid next emitted).sent =
      group.sent ++ announcementsOf emitted := by
  simp [sent, moved, Function.comp_def]

theorem exists_of_perform
    {group target : TimedGroup} {pid : Nat} {choice : ParticipantStep}
    {events : List (Nat × AgentEvent)}
    (performed : group.perform pid choice = some (target, events)) :
    ∃ input next emitted,
      choice.input? group.sent = some input ∧
        (group.loops pid).step input = some (next, emitted) ∧
        target = group.moved pid next emitted ∧
        events = emitted.map (Prod.mk pid) := by
  obtain ⟨⟨after, next, calls⟩, stepped, reached⟩ :=
    Option.map_eq_some_iff.mp performed
  obtain ⟨input, emitted, isInput, moved, _, rfl⟩ :=
    exists_of_participantStep stepped
  cases reached
  refine ⟨input, next, emitted, isInput, moved, ?_, rfl⟩
  simp [Function.comp_def]

theorem perform_frame
    {group target : TimedGroup} {pid : Nat} {choice : ParticipantStep}
    {events : List (Nat × AgentEvent)}
    (performed : group.perform pid choice = some (target, events)) :
    target.clock = group.clock ∧ target.started = group.started ∧
      target.running = group.running ∧ target.passed = group.passed := by
  obtain ⟨_, _, _, _, _, rfl, _⟩ := exists_of_perform performed
  exact ⟨rfl, rfl, rfl, rfl⟩

/-- A step of an agent is a step of the group without time. -/
theorem groupStep_of_perform
    {group target : TimedGroup} {pid : Nat} {choice : ParticipantStep}
    {events : List (Nat × AgentEvent)}
    (performed : group.perform pid choice = some (target, events)) :
    groupMachine.step (group.sent, group.loops) (pid, choice) =
      some ((target.sent, target.loops), events) := by
  obtain ⟨input, next, emitted, isInput, stepped, rfl, rfl⟩ :=
    exists_of_perform performed
  simp only [groupMachine, threadMachine, participantStep, isInput, stepped,
    Option.bind_some, Option.map_some, sent_moved]
  rfl

@[simp]
theorem sent_markStarted (group : TimedGroup) (pid : Nat) :
    (group.markStarted pid).sent = group.sent :=
  rfl

/-- The marks leave alone the agents, the network, the clock and who runs. -/
structure SameWorld (group after : TimedGroup) : Prop where
  loops : after.loops = group.loops
  network : after.network = group.network
  clock : after.clock = group.clock
  started : after.started = group.started
  running : after.running = group.running

theorem SameWorld.sent
    {group after : TimedGroup} (same : SameWorld group after) :
    after.sent = group.sent := by
  rw [TimedGroup.sent, same.network, TimedGroup.sent]

theorem sameWorld_markReceived
    (group : TimedGroup) (pid : Nat) (datagram : Option Nat) :
    SameWorld group (group.markReceived pid datagram) := by
  unfold markReceived
  split
  · exact ⟨rfl, rfl, rfl, rfl, rfl⟩
  · split
    · exact ⟨rfl, rfl, rfl, rfl, rfl⟩
    · split <;> exact ⟨rfl, rfl, rfl, rfl, rfl⟩

theorem sameWorld_markAdvanced
    (timing : GroupTiming) (group before : TimedGroup) (pid : Nat) :
    SameWorld group (group.markAdvanced timing before pid) := by
  unfold markAdvanced
  split <;> exact ⟨rfl, rfl, rfl, rfl, rfl⟩

/-- What a step can do, one constructor for each kind of input. -/
inductive Steps (timing : GroupTiming) (group : TimedGroup) :
    TimedInput → TimedGroup → List (Nat × AgentEvent) → Prop
  | added (pid : Nat) (endpoint : EndpointInfo) (middle : TimedGroup)
      (events : List (Nat × AgentEvent)) :
      group.perform pid (.addEndpoint endpoint) = some (middle, events) →
      Steps timing group (.addEndpoint pid endpoint) middle events
  | started (pid : Nat) (middle : TimedGroup)
      (events : List (Nat × AgentEvent)) :
      pid ∉ group.started →
      (group.loops pid).pc = .starting →
      group.perform pid (.advance false group.clock) = some (middle, events) →
      Steps timing group (.start pid) (middle.markStarted pid) events
  | received (pid : Nat) (datagram : Option Nat) (middle : TimedGroup)
      (events : List (Nat × AgentEvent)) :
      pid ∈ group.running →
      group.perform pid (.receive datagram group.clock) =
        some (middle, events) →
      Steps timing group (.receive pid datagram)
        (middle.markReceived pid datagram) events
  | advanced (pid : Nat) (middle : TimedGroup)
      (events : List (Nat × AgentEvent)) :
      pid ∈ group.running →
      group.perform pid (.advance (group.due timing pid) group.clock) =
        some (middle, events) →
      Steps timing group (.advance pid) (middle.markAdvanced timing group pid)
        events
  | stopped (pid : Nat) :
      Steps timing group (.stop pid)
        { group with
          running := group.running.filter fun other => other ≠ pid } []
  | elapsed (time : Nat) :
      Steps timing group (.elapse time)
        { group with clock := group.clock + time } []

theorem steps_of_step
    {timing : GroupTiming} {group target : TimedGroup} {input : TimedInput}
    {events : List (Nat × AgentEvent)}
    (stepped : group.step timing input = some (target, events)) :
    group.Steps timing input target events := by
  cases input with
  | addEndpoint pid endpoint =>
      exact Steps.added pid endpoint target events stepped
  | start pid =>
      simp only [step, Option.ite_none_right_eq_some] at stepped
      obtain ⟨⟨fresh, place⟩, performs⟩ := stepped
      obtain ⟨⟨after, calls⟩, performed, reached⟩ :=
        Option.map_eq_some_iff.mp performs
      cases reached
      exact Steps.started pid after calls fresh place performed
  | receive pid datagram =>
      simp only [step, Option.ite_none_right_eq_some] at stepped
      obtain ⟨isRunning, performs⟩ := stepped
      obtain ⟨⟨after, calls⟩, performed, reached⟩ :=
        Option.map_eq_some_iff.mp performs
      cases reached
      exact Steps.received pid datagram after calls isRunning performed
  | advance pid =>
      simp only [step, Option.ite_none_right_eq_some] at stepped
      obtain ⟨isRunning, performs⟩ := stepped
      obtain ⟨⟨after, calls⟩, performed, reached⟩ :=
        Option.map_eq_some_iff.mp performs
      cases reached
      exact Steps.advanced pid after calls isRunning performed
  | stop pid =>
      cases stepped
      exact Steps.stopped pid
  | elapse time =>
      cases stepped
      exact Steps.elapsed time

/-- A step in time is a step of the group, or leaves it alone. -/
theorem groupStep_of_step
    {timing : GroupTiming} {group target : TimedGroup} {input : TimedInput}
    {events : List (Nat × AgentEvent)}
    (stepped : group.step timing input = some (target, events)) :
    (∃ choice,
      groupMachine.step (group.sent, group.loops) choice =
        some ((target.sent, target.loops), events)) ∨
      target.sent = group.sent ∧ target.loops = group.loops ∧ events = [] := by
  cases steps_of_step stepped with
  | added pid endpoint middle _ performed =>
      exact Or.inl ⟨_, groupStep_of_perform performed⟩
  | started pid middle _ _ _ performed =>
      have moved := groupStep_of_perform performed
      exact Or.inl ⟨_, moved⟩
  | received pid datagram middle _ _ performed =>
      have same := sameWorld_markReceived middle pid datagram
      rw [same.sent, same.loops]
      exact Or.inl ⟨_, groupStep_of_perform performed⟩
  | advanced pid middle _ _ performed =>
      have same := sameWorld_markAdvanced timing middle group pid
      rw [same.sent, same.loops]
      exact Or.inl ⟨_, groupStep_of_perform performed⟩
  | stopped pid =>
      exact Or.inr ⟨rfl, rfl, rfl⟩
  | elapsed time =>
      exact Or.inr ⟨rfl, rfl, rfl⟩

end TimedGroup

/-- Every run in time is a run of the group. -/
theorem groupRun_of_run
    {timing : GroupTiming} {guard : TimedGroup → TimedInput → Prop}
    {inputs : List TimedInput} {group : TimedGroup}
    {events : List (Nat × AgentEvent)}
    (run : (timedMachine timing).Run guard inputs group events) :
    ∃ steps,
      groupMachine.Run Machine.free steps (group.sent, group.loops)
        events := by
  refine run.invariant
    (fun group events =>
      ∃ steps,
        groupMachine.Run Machine.free steps (group.sent, group.loops) events)
    (fun group (fresh : group.Fresh timing) => ⟨[], .start fresh.agents⟩) ?_
  rintro group events input target emitted ⟨steps, before⟩ _ stepped
  rcases TimedGroup.groupStep_of_step stepped with
    ⟨choice, moved⟩ | ⟨sent, loops, rfl⟩
  · exact ⟨_, before.next trivial moved⟩
  · rw [sent, loops, List.append_nil]
    exact ⟨steps, before⟩

/-! ## The places of the loop -/

section Places

variable {loop next : AgentLoop} {announces : Bool} {now : Nat}
  {emitted : List AgentEvent}

theorem step_of_starting
    (place : loop.pc = .starting)
    (stepped : loop.step (.advance announces now) = some (next, emitted)) :
    next = { loop with pc := .receiving } ∧
      emitted = [.announced loop.agent.announce] := by
  obtain ⟨agent, pc⟩ := loop
  cases place
  cases stepped
  exact ⟨rfl, rfl⟩

theorem step_of_announcing
    (place : loop.pc = .announcing)
    (stepped : loop.step (.advance announces now) = some (next, emitted)) :
    next = { loop with pc := .reaping } ∧
      emitted =
        if announces then [.announced loop.agent.announce] else [] := by
  obtain ⟨agent, pc⟩ := loop
  cases place
  cases stepped
  exact ⟨rfl, rfl⟩

theorem step_of_reaping
    (place : loop.pc = .reaping)
    (stepped : loop.step (.advance announces now) = some (next, emitted)) :
    next = ⟨(loop.agent.reapDead now).1, .receiving⟩ ∧
      emitted = (loop.agent.reapDead now).2.map .unmatched := by
  obtain ⟨agent, pc⟩ := loop
  cases place
  cases stepped
  exact ⟨rfl, rfl⟩

@[simp]
theorem announcementsOf_matched (entered : List MatchInfo) :
    announcementsOf (entered.map .matched) = [] := by
  simp [announcementsOf, List.filterMap_map]

@[simp]
theorem announcementsOf_unmatched (erased : List MatchInfo) :
    announcementsOf (erased.map .unmatched) = [] := by
  simp [announcementsOf, List.filterMap_map]

/-- At the other places the loop neither announces nor forgets anybody. -/
theorem step_of_between
    (notStarting : loop.pc ≠ .starting) (notAnnouncing : loop.pc ≠ .announcing)
    (notReaping : loop.pc ≠ .reaping)
    (stepped : loop.step (.advance announces now) = some (next, emitted)) :
    announcementsOf emitted = [] ∧ next.agent.remotes = loop.agent.remotes := by
  obtain ⟨agent, pc⟩ := loop
  cases pc with
  | starting =>
      exact absurd rfl notStarting
  | receiving =>
      cases stepped
  | matching remoteId remote =>
      cases stepped
      exact ⟨announcementsOf_matched _, rfl⟩
  | exchanging =>
      simp only [AgentLoop.step, AgentLoop.advance] at stepped
      split at stepped <;> cases stepped <;> exact ⟨rfl, rfl⟩
  | copying =>
      cases stepped
      exact ⟨rfl, rfl⟩
  | rematching remotes =>
      cases remotes with
      | nil =>
          cases stepped
          exact ⟨rfl, rfl⟩
      | cons entry later =>
          cases stepped
          exact ⟨announcementsOf_matched _, rfl⟩
  | announcing =>
      exact absurd rfl notAnnouncing
  | reaping =>
      exact absurd rfl notReaping

end Places

/-! ## The group as a failure detector -/

/-- What the failure detector needs to know of the agents. -/
structure Configured (timing : GroupTiming) (group : TimedGroup) : Prop where
  participantId : ∀ pid, (group.loops pid).agent.participantId = pid
  livelinessTimeout :
    ∀ pid,
      (group.loops pid).agent.livelinessTimeout = timing.livelinessTimeout pid
  begun : ∀ pid ∈ group.running, (group.loops pid).pc ≠ .starting

namespace TimedGroup

/-- What one agent has heard. -/
def heardBy (loop : AgentLoop) (id : Nat) : Option Nat :=
  loop.agent.remotes[id]?.map Remote.lastSeen

section Views

variable {timing : GroupTiming} {group : TimedGroup} {pid : Nat}
  {next : AgentLoop} {emitted : List AgentEvent}

theorem heard_moved
    (group : TimedGroup) (pid : Nat) (next : AgentLoop)
    (emitted : List AgentEvent) :
    (group.moved pid next emitted).detector.heard =
      Function.update group.detector.heard pid (heardBy next) := by
  funext other id
  by_cases same : other = pid
  · subst same
    simp [detector, moved, heardBy]
  · simp [detector, moved, same]

/-- A step that neither sends nor changes what is stored. -/
theorem detector_moved_quiet
    (group : TimedGroup) (pid : Nat) (next : AgentLoop)
    {emitted : List AgentEvent}
    (silent : announcementsOf emitted = [])
    (kept : next.agent.remotes = (group.loops pid).agent.remotes) :
    (group.moved pid next emitted).detector = group.detector := by
  have heard : (group.moved pid next emitted).detector.heard =
      group.detector.heard := by
    rw [heard_moved]
    refine Function.update_eq_self_iff.mpr (funext fun id => ?_)
    simp [heardBy, detector, kept]
  have fields : (group.moved pid next emitted).detector =
      { group.detector with
        heard := (group.moved pid next emitted).detector.heard } := by
    simp [detector, moved, silent]
  rw [fields, heard]

theorem detector_moved_announced
    (group : TimedGroup) (pid : Nat) (next : AgentLoop)
    {announcement : ParticipantAnnouncement}
    (own : announcement.participantId = pid)
    (kept : next.agent.remotes = (group.loops pid).agent.remotes) :
    (group.moved pid next [.announced announcement]).detector =
      { group.detector.send pid with lastBeat := group.lastAnnounce } := by
  have heard :
      (group.moved pid next [.announced announcement]).detector.heard =
        group.detector.heard := by
    rw [heard_moved]
    refine Function.update_eq_self_iff.mpr (funext fun id => ?_)
    simp [heardBy, detector, kept]
  have fields :
      (group.moved pid next [.announced announcement]).detector =
        { group.detector.send pid with
          lastBeat := group.lastAnnounce
          heard :=
            (group.moved pid next
              [.announced announcement]).detector.heard } := by
    simp [detector, moved, announcementsOf, own, Detector.send]
  rw [fields, heard]
  rfl

theorem network_moved_nil :
    (group.moved pid next []).network = group.network := by
  simp [moved, announcementsOf]

theorem heardBy_storeRemote
    (announcement : ParticipantAnnouncement) (now : Nat) (pc : LoopPc) :
    heardBy ⟨(group.loops pid).agent.storeRemote announcement now, pc⟩ =
      Function.update (group.detector.heard pid) announcement.participantId
        (some now) := by
  funext id
  simp only [heardBy, DiscoveryAgent.storeRemote,
    Std.TreeMap.getElem?_insert]
  by_cases same : announcement.participantId = id
  · subst same
    simp [DiscoveryAgent.remoteOf]
  · have different : ¬ id = announcement.participantId :=
      fun equal => same equal.symm
    simp [same, different, detector]

section Receipts

variable {number : Nat} {received : Datagram}

theorem markReceived_own
    (found : group.network[number]? = some received)
    (own : received.announcement.participantId = pid) :
    group.markReceived pid (some number) = group := by
  simp [markReceived, found, own]

theorem markReceived_other
    (found : group.network[number]? = some received)
    (foreign : received.announcement.participantId ≠ pid) :
    group.markReceived pid (some number) =
      { group with receipts := (pid, number) :: group.receipts } := by
  simp [markReceived, found, foreign]

end Receipts

variable {target : TimedGroup} {events : List (Nat × AgentEvent)}

theorem detector_addEndpoint
    {endpoint : EndpointInfo}
    (performed :
      group.perform pid (.addEndpoint endpoint) = some (target, events)) :
    target.detector = group.detector := by
  obtain ⟨input, next, emitted, isInput, stepped, rfl, _⟩ :=
    exists_of_perform performed
  cases isInput
  cases stepped
  exact detector_moved_quiet group pid _ rfl rfl

theorem detector_start
    (configured : Configured timing group)
    (place : (group.loops pid).pc = .starting)
    (performed :
      group.perform pid (.advance false group.clock) = some (target, events)) :
    (target.markStarted pid).detector = group.detector.start pid := by
  obtain ⟨input, next, emitted, isInput, stepped, rfl, _⟩ :=
    exists_of_perform performed
  cases isInput
  obtain ⟨rfl, rfl⟩ := step_of_starting place stepped
  have own : (group.loops pid).agent.announce.participantId = pid :=
    configured.participantId pid
  have view :=
    detector_moved_announced group pid
      { group.loops pid with pc := .receiving } own rfl
  have beats := congrArg Detector.beats view
  have heard := congrArg Detector.heard view
  exact Detector.ext rfl rfl rfl beats rfl rfl rfl rfl heard

theorem detector_receive
    (configured : Configured timing group)
    (isRunning : pid ∈ group.running) {datagram : Option Nat}
    (performed :
      group.perform pid (.receive datagram group.clock) =
        some (target, events)) :
    (target.markReceived pid datagram).detector = group.detector ∨
      ∃ number, datagram = some number ∧
        group.detector.step timing.periods (.hear pid number) =
          some (target.markReceived pid datagram).detector := by
  obtain ⟨input, next, emitted, isInput, stepped, rfl, _⟩ :=
    exists_of_perform performed
  cases datagram with
  | none =>
      cases isInput
      left
      simp only [AgentLoop.step] at stepped
      split at stepped
      · cases stepped
        exact detector_moved_quiet group pid _ rfl rfl
      · cases ‹none = some _›
      · cases stepped
  | some number =>
      obtain ⟨announcement, isSent, rfl⟩ := Option.map_eq_some_iff.mp isInput
      rw [sent, List.getElem?_map] at isSent
      obtain ⟨received, found, rfl⟩ := Option.map_eq_some_iff.mp isSent
      simp only [AgentLoop.step] at stepped
      split at stepped
      · cases ‹some _ = none›
      · rename_i announcement same
        cases same
        split at stepped
        · rename_i own
          cases stepped
          left
          have ownId : received.announcement.participantId = pid := by
            rw [own, configured.participantId]
          rw [markReceived_own (by rw [network_moved_nil]; exact found) ownId]
          exact detector_moved_quiet group pid _ rfl rfl
        · rename_i foreign
          cases stepped
          right
          have foreignId : received.announcement.participantId ≠ pid := by
            rw [← configured.participantId pid]
            exact foreign
          have beat :
              group.detector.beats[number]? =
                some ⟨received.announcement.participantId, received.sentAt,
                  received.audience⟩ := by
            simp [detector, found]
          refine ⟨number, rfl, ?_⟩
          simp only [Detector.step, beat]
          rw [if_pos ⟨isRunning, foreignId⟩]
          rw [markReceived_other (by rw [network_moved_nil]; exact found)
            foreignId]
          refine congrArg some (Detector.ext rfl rfl rfl ?_ rfl rfl rfl rfl ?_)
          · simp only [detector, network_moved_nil, Detector.hear]
          · refine Eq.trans ?_ (heard_moved group pid _ []).symm
            simp only [Detector.hear, heardBy_storeRemote]
            rfl
      · cases stepped

/-- What is left after `reap_dead` has been heard within the timeout. -/
theorem heardBy_reapDead
    (configured : Configured timing group) (pc : LoopPc) :
    heardBy ⟨((group.loops pid).agent.reapDead group.clock).1, pc⟩ =
      fun id => (group.detector.heard pid id).filter fun time =>
        group.clock - time ≤ timing.livelinessTimeout pid := by
  funext id
  simp only [heardBy, remotes_reapDead]
  cases found : (group.loops pid).agent.remotes[id]? with
  | none =>
      simp [detector, found]
  | some remote =>
      have dead :
          id ∈ (group.loops pid).agent.deadIds group.clock ↔
            timing.livelinessTimeout pid < group.clock - remote.lastSeen := by
        rw [TableInvariant.mem_deadIds, found,
          configured.livelinessTimeout pid]
        simp
      have heard : group.detector.heard pid id = some remote.lastSeen := by
        simp [detector, found]
      rw [heard, Option.filter_some]
      by_cases late :
          timing.livelinessTimeout pid < group.clock - remote.lastSeen
      · have silent : ¬ group.clock - remote.lastSeen ≤
            timing.livelinessTimeout pid := Nat.not_le.mpr late
        rw [if_pos (dead.mpr late), decide_eq_false silent]
        rfl
      · rw [if_neg (dead.not.mpr late),
          if_pos (decide_eq_true (Nat.not_lt.mp late))]
        rfl

/-- The background loop behind `recv`. -/
theorem detector_advance
    (configured : Configured timing group)
    (isRunning : pid ∈ group.running)
    (performed :
      group.perform pid (.advance (group.due timing pid) group.clock) =
        some (target, events)) :
    let after := target.markAdvanced timing group pid
    after.detector = group.detector ∨
      group.detector.step timing.periods (.pass pid) = some after.detector ∨
      group.detector.step timing.periods (.check pid) =
        some after.detector := by
  obtain ⟨input, next, emitted, isInput, stepped, rfl, _⟩ :=
    exists_of_perform performed
  cases isInput
  dsimp only
  by_cases announcing : (group.loops pid).pc = .announcing
  · right
    left
    obtain ⟨rfl, rfl⟩ := step_of_announcing announcing stepped
    simp only [Detector.step]
    rw [if_pos (show pid ∈ group.detector.running from isRunning)]
    refine congrArg some ?_
    have place (sent : TimedGroup) :
        sent.markAdvanced timing group pid =
          { sent with
            passed := Function.update sent.passed pid sent.clock
            lastAnnounce :=
              if group.due timing pid then
                Function.update sent.lastAnnounce pid sent.clock
              else
                sent.lastAnnounce } := by
      simp only [markAdvanced, announcing]
    rw [place]
    by_cases isDue : group.due timing pid
    · have beatDue :
          timing.periods.interval pid ≤
            group.detector.clock - group.detector.lastBeat pid :=
        of_decide_eq_true isDue
      have own : (group.loops pid).agent.announce.participantId = pid :=
        configured.participantId pid
      have view :=
        detector_moved_announced group pid
          { group.loops pid with pc := .reaping } own rfl
      have beats := congrArg Detector.beats view
      have heard := congrArg Detector.heard view
      rw [Detector.pass, if_pos beatDue]
      simp only [if_pos isDue]
      exact
        Detector.ext rfl rfl rfl beats.symm rfl rfl rfl rfl heard.symm
    · have notDue :
          ¬ timing.periods.interval pid ≤
            group.detector.clock - group.detector.lastBeat pid :=
        fun isDue' => isDue (decide_eq_true isDue')
      have view :=
        detector_moved_quiet group pid { group.loops pid with pc := .reaping }
          (rfl : announcementsOf [] = []) rfl
      have beats := congrArg Detector.beats view
      have heard := congrArg Detector.heard view
      rw [Detector.pass, if_neg notDue]
      simp only [isDue, Bool.false_eq_true, if_false]
      exact
        Detector.ext rfl rfl rfl beats.symm rfl rfl rfl rfl heard.symm
  · by_cases reaping : (group.loops pid).pc = .reaping
    · right
      right
      obtain ⟨rfl, rfl⟩ := step_of_reaping reaping stepped
      simp only [Detector.step]
      rw [if_pos (show pid ∈ group.detector.running from isRunning)]
      refine congrArg some ?_
      have place (reaped : TimedGroup) :
          reaped.markAdvanced timing group pid =
            { reaped with
              reapedAt :=
                Function.update reaped.reapedAt pid reaped.clock } := by
        simp only [markAdvanced, reaping]
      rw [place]
      refine Detector.ext rfl rfl rfl ?_ rfl rfl rfl rfl ?_
      · simp [detector, moved, Detector.check]
      · have heard :=
          heard_moved group pid
            ⟨((group.loops pid).agent.reapDead group.clock).1, .receiving⟩
            (((group.loops pid).agent.reapDead group.clock).2.map .unmatched)
        rw [heardBy_reapDead configured] at heard
        exact heard.symm
    · left
      obtain ⟨silent, kept⟩ :=
        step_of_between (configured.begun pid isRunning) announcing reaping
          stepped
      have unmarked :
          (group.moved pid next emitted).markAdvanced timing group pid =
            group.moved pid next emitted := by
        unfold markAdvanced
        split
        · exact absurd ‹_› announcing
        · exact absurd ‹_› reaping
        · rfl
      rw [unmarked]
      exact detector_moved_quiet group pid next silent kept

/-- Every step within the bounds on time is one of the failure detector within
the same bounds, or none at all. -/
theorem detector_step
    (configured : Configured timing group) {input : TimedInput}
    (timely : group.Timely timing input)
    (stepped : group.step timing input = some (target, events)) :
    target.detector = group.detector ∨
      ∃ action,
        group.detector.Punctual timing.periods action ∧
          group.detector.step timing.periods action = some target.detector := by
  cases steps_of_step stepped with
  | added pid endpoint middle _ performed =>
      exact Or.inl (detector_addEndpoint performed)
  | started pid middle _ fresh place performed =>
      refine Or.inr ⟨.start pid, trivial, ?_⟩
      rw [detector_start configured place performed]
      exact if_neg fresh
  | received pid datagram middle _ isRunning performed =>
      rcases detector_receive configured isRunning performed with
        same | ⟨number, rfl, heard⟩
      · exact Or.inl same
      · refine Or.inr ⟨.hear pid number, ?_, heard⟩
        intro beat found
        simp only [detector, List.getElem?_map, Option.mem_def] at found
        obtain ⟨datagram, isSent, rfl⟩ := Option.map_eq_some_iff.mp found
        exact timely datagram isSent
  | advanced pid middle _ isRunning performed =>
      rcases detector_advance configured isRunning performed with
        same | passed | checked
      · exact Or.inl same
      · exact Or.inr ⟨.pass pid, trivial, passed⟩
      · exact Or.inr ⟨.check pid, trivial, checked⟩
  | stopped pid =>
      exact Or.inr ⟨.stop pid, trivial, rfl⟩
  | elapsed time =>
      exact Or.inr ⟨.elapse time, timely, rfl⟩

end Views

end TimedGroup

end MiniMiddleware.Discovery
