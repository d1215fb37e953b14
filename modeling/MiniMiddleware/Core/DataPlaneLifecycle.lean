import MiniMiddleware.Core.DataPlane
import MiniMiddleware.Library.Machine

/-!
# The life of a data plane

A node constructs its data plane, calls `start`, which fails if the data
server does not come up, and goes on in either case: it sets the local
identity and hands every match to the data plane until `stop`.

The pointer `shm_readers_` is set at the end of a successful `start` and moved
out by `stop`.  `shm_sub_match` and `shm_sub_unmatch` dereference it without a
check.  This module records every such use and whether the manager was there.
-/

namespace MiniMiddleware.Core

open MiniMiddleware.Discovery MiniMiddleware.Transport MiniMiddleware.Library

namespace DataPlane

/-- `DataPlane::DataPlane`. -/
def constructed (bus : LocalBus SinkHandle) : DataPlane where
  localPid := 0
  localHostId := []
  bus := bus

/-- `start`, given whether the data server starts. -/
def start (plane : DataPlane) (serverStarts : Bool) : DataPlane × Bool :=
  if !serverStarts then
    (plane, false)
  else
    ({ plane with shmReaders := some ∅ }, true)

/-- `set_local_identity`. -/
def setLocalIdentity (plane : DataPlane) (pid : Nat) (hostId : Text)
    (enableShm : Bool) : DataPlane :=
  { plane with
    localPid := pid
    localHostId := hostId
    shmEnabled := enableShm }

/-- The critical section of `stop`.  Clearing `shm_pub_` unlinks the segments;
the manager of the readers is handed to the caller. -/
def stop (plane : DataPlane) (memory : SharedMemory) :
    DataPlane × SharedMemory × Option (Std.TreeMap Text ReaderEntry) :=
  ({ plane with
      stopped := true
      sinks := ∅
      connections := ∅
      refcount := ∅
      shmPub := ∅
      shmSubRef := ∅
      shmReaders := none },
    plane.shmPub.toList.foldl
      (fun left entry => left.unlink (segName plane.localPid entry.1)) memory,
    plane.shmReaders)

/-- The two calls through `shm_readers_`. -/
inductive ReaderOperation where
  | addReader
  | removeReader
  deriving DecidableEq, Repr

/-- A call through `shm_readers_`: the operation, its key, and whether the
pointer was set. -/
structure ReaderUse where
  operation : ReaderOperation
  key : Text
  present : Bool
  deriving DecidableEq, Repr

/-- The call that `shm_sub_match` makes: it reaches `add_reader` unless the
segment already has a reference. -/
def shmSubMatchUses (plane : DataPlane) (m : MatchInfo) : List ReaderUse :=
  let name := segName m.remoteParticipantId m.localEndpoint.topic
  match plane.shmSubRef[name]? with
  | some _ => []
  | none => [⟨.addReader, name, plane.shmReaders.isSome⟩]

/-- The call that `shm_sub_unmatch` makes: it reaches `remove_reader` when the
last reference of the segment goes. -/
def shmSubUnmatchUses (plane : DataPlane) (m : MatchInfo) : List ReaderUse :=
  let name := segName m.remoteParticipantId m.localEndpoint.topic
  match plane.shmSubRef[name]? with
  | none => []
  | some ref =>
      if 0 < ref - 1 then
        []
      else
        [⟨.removeReader, name, plane.shmReaders.isSome⟩]

/-- The calls of `handle_match` through `shm_readers_`. -/
def handleMatchUses (plane : DataPlane) (m : MatchInfo) : List ReaderUse :=
  if plane.stopped then []
  else if plane.route m = .shmSub then plane.shmSubMatchUses m
  else []

/-- The calls of `handle_unmatch` through `shm_readers_`. -/
def handleUnmatchUses (plane : DataPlane) (m : MatchInfo) : List ReaderUse :=
  if plane.stopped then []
  else if plane.route m = .shmSub then plane.shmSubUnmatchUses m
  else []

end DataPlane

/-! ## The machine -/

/-- How far the constructor of the node is, with the result of `start`. -/
inductive SetupPhase where
  | constructed
  | startCalled (succeeded : Bool)
  | identified (succeeded : Bool)
  deriving DecidableEq, Repr

/-- A data plane with the shared memory of its host.  `released` holds the
managers that the `stop` calls in progress have moved out and not yet
destroyed.  A call through the null pointer ends the process. -/
structure PlaneLife where
  plane : DataPlane
  memory : SharedMemory
  phase : SetupPhase := .constructed
  released : List (Option (Std.TreeMap Text ReaderEntry)) := []
  crashed : Bool := false

/-- What happens to a data plane.  `elsewhere` stands for everything else that
works on the bus and on the shared memory of the host. -/
inductive LifeInput where
  | start (serverStarts : Bool)
  | setLocalIdentity (pid : Nat) (hostId : Text) (enableShm : Bool)
  | handleMatch (m : MatchInfo) (outcome : CreateOutcome)
  | handleUnmatch (m : MatchInfo)
  | stopLocked
  | stopReset
  | elsewhere (bus : LocalBus SinkHandle) (memory : SharedMemory)

namespace PlaneLife

/-- The node has set the identity, and the process is alive. -/
def serving (life : PlaneLife) : Bool :=
  !life.crashed &&
    match life.phase with
    | .identified _ => true
    | _ => false

/-- Finish a call that made `uses` and left `after`. -/
def finish (life : PlaneLife) (after : DataPlane × SharedMemory)
    (uses : List DataPlane.ReaderUse) :
    PlaneLife × List DataPlane.ReaderUse :=
  ({ life with
      plane := after.1
      memory := after.2
      crashed := uses.any fun use => !use.present },
    uses)

/-- One step.  The operations under the mutex are single steps; `stop` is two,
since it destroys the manager outside the mutex. -/
def step (life : PlaneLife) :
    LifeInput → Option (PlaneLife × List DataPlane.ReaderUse)
  | .start serverStarts =>
      if life.phase = .constructed then
        let started := life.plane.start serverStarts
        some
          ({ life with plane := started.1, phase := .startCalled started.2 },
            [])
      else
        none
  | .setLocalIdentity pid hostId enableShm =>
      match life.phase with
      | .startCalled succeeded =>
          some
            ({ life with
                plane := life.plane.setLocalIdentity pid hostId enableShm
                phase := .identified succeeded },
              [])
      | _ => none
  | .handleMatch m outcome =>
      if life.serving then
        some
          (life.finish (life.plane.handleMatch life.memory m outcome)
            (life.plane.handleMatchUses m))
      else
        none
  | .handleUnmatch m =>
      if life.serving then
        some
          (life.finish (life.plane.handleUnmatch life.memory m)
            (life.plane.handleUnmatchUses m))
      else
        none
  | .stopLocked =>
      if life.serving then
        let (plane, memory, readers) := life.plane.stop life.memory
        some
          ({ life with
              plane := plane
              memory := memory
              released := life.released ++ [readers] },
            [])
      else
        none
  | .stopReset =>
      match life.released with
      | [] => none
      | _ :: rest =>
          if life.serving then some ({ life with released := rest }, [])
          else none
  | .elsewhere bus memory =>
      if life.serving then
        some
          ({ life with
              plane := { life.plane with bus := bus }
              memory := memory },
            [])
      else
        none

/-- The life of a data plane from its construction on. -/
def lifecycle : Machine PlaneLife LifeInput DataPlane.ReaderUse where
  initial life :=
    ∃ bus memory, life = { plane := .constructed bus, memory := memory }
  step := step

/-- The steps that need no manager or find one: no match of a best-effort
subscriber with a publisher on the same host is handled between a failed
`start` and `stop`. -/
def Provided (life : PlaneLife) : LifeInput → Prop
  | .handleMatch m _ =>
      life.phase = .identified false → life.plane.stopped = false →
        life.plane.route m ≠ .shmSub
  | _ => True

instance (life : PlaneLife) : (input : LifeInput) →
    Decidable (Provided life input)
  | .handleMatch m _ =>
      inferInstanceAs (Decidable
        (life.phase = .identified false → life.plane.stopped = false →
          life.plane.route m ≠ .shmSub))
  | .start _ => isTrue trivial
  | .setLocalIdentity _ _ _ => isTrue trivial
  | .handleUnmatch _ => isTrue trivial
  | .stopLocked => isTrue trivial
  | .stopReset => isTrue trivial
  | .elsewhere _ _ => isTrue trivial

end PlaneLife

/-! ## What the operations do to the pointer and its references -/

namespace DataPlane

theorem handleMatch_of_stopped
    {plane : DataPlane} (stopped : plane.stopped = true)
    (memory : SharedMemory) (m : MatchInfo) (outcome : CreateOutcome) :
    plane.handleMatch memory m outcome = (plane, memory) := by
  unfold handleMatch
  rw [if_pos stopped]

theorem handleUnmatch_of_stopped
    {plane : DataPlane} (stopped : plane.stopped = true)
    (memory : SharedMemory) (m : MatchInfo) :
    plane.handleUnmatch memory m = (plane, memory) := by
  unfold handleUnmatch
  rw [if_pos stopped]

theorem isSome_shmReaders_handleMatch
    (plane : DataPlane) (memory : SharedMemory) (m : MatchInfo)
    (outcome : CreateOutcome) :
    (plane.handleMatch memory m outcome).1.shmReaders.isSome =
      plane.shmReaders.isSome := by
  cases running : plane.stopped with
  | true =>
      rw [handleMatch_of_stopped running]
  | false =>
      rw [handleMatch_eq running]
      cases plane.route m with
      | ignored =>
          rfl
      | tcpPub =>
          exact congrArg Option.isSome (plane.tcpPubMatch_shm m).2.2
      | shmPub =>
          exact congrArg Option.isSome
            (plane.shmPubMatch_readers memory m outcome).2
      | shmSub =>
          dsimp only
          rw [(plane.shmSubMatch_readers m []).2]
          split
          · rfl
          · exact Option.isSome_map

theorem isSome_shmReaders_handleUnmatch
    (plane : DataPlane) (memory : SharedMemory) (m : MatchInfo) :
    (plane.handleUnmatch memory m).1.shmReaders.isSome =
      plane.shmReaders.isSome := by
  cases running : plane.stopped with
  | true =>
      rw [handleUnmatch_of_stopped running]
  | false =>
      rw [handleUnmatch_eq running]
      cases plane.route m with
      | ignored =>
          rfl
      | tcpPub =>
          exact congrArg Option.isSome (plane.tcpPubUnmatch_shm m).2.2
      | shmPub =>
          exact congrArg Option.isSome
            (plane.shmPubUnmatch_cases memory m).2.2.2
      | shmSub =>
          dsimp only
          rcases plane.shmSubUnmatch_readers m with ⟨kept, _⟩ | ⟨erased, _⟩
          · rw [kept]
          · rw [erased]
            exact Option.isSome_map

/-- Only a match that `shm_sub_match` handles adds a reference. -/
theorem shmSubRef_handleMatch
    {plane : DataPlane} {m : MatchInfo}
    (elsewhere : plane.stopped = false → plane.route m ≠ .shmSub)
    (memory : SharedMemory) (outcome : CreateOutcome) :
    (plane.handleMatch memory m outcome).1.shmSubRef = plane.shmSubRef := by
  cases running : plane.stopped with
  | true =>
      rw [handleMatch_of_stopped running]
  | false =>
      rw [handleMatch_eq running]
      cases routed : plane.route m with
      | ignored =>
          rfl
      | tcpPub =>
          exact (plane.tcpPubMatch_shm m).2.1
      | shmPub =>
          exact (plane.shmPubMatch_readers memory m outcome).1
      | shmSub =>
          exact absurd routed (elsewhere running)

/-- An unmatch adds no reference. -/
theorem mem_shmSubRef_handleUnmatch
    {plane : DataPlane} {memory : SharedMemory} {m : MatchInfo} {name : Text}
    (member : name ∈ (plane.handleUnmatch memory m).1.shmSubRef) :
    name ∈ plane.shmSubRef := by
  cases running : plane.stopped with
  | true =>
      rwa [handleUnmatch_of_stopped running] at member
  | false =>
      rw [handleUnmatch_eq running] at member
      cases routed : plane.route m with
      | ignored =>
          rwa [routed] at member
      | tcpPub =>
          rw [routed] at member
          dsimp only at member
          rwa [(plane.tcpPubUnmatch_shm m).2.1] at member
      | shmPub =>
          rw [routed] at member
          dsimp only at member
          rwa [(plane.shmPubUnmatch_cases memory m).2.2.1] at member
      | shmSub =>
          rw [routed] at member
          dsimp only at member
          rcases plane.shmSubUnmatch_readers m with ⟨_, kept⟩ | ⟨_, erased⟩
          · exact kept name member
          · rw [erased] at member
            exact Std.TreeMap.mem_of_mem_erase member

theorem stopped_handleMatch
    (plane : DataPlane) (memory : SharedMemory) (m : MatchInfo)
    (outcome : CreateOutcome) :
    (plane.handleMatch memory m outcome).1.stopped = plane.stopped := by
  cases running : plane.stopped with
  | true =>
      rw [handleMatch_of_stopped running]
      exact running
  | false =>
      rw [(sameIdentity_handleMatch running memory m outcome).stopped, running]

theorem stopped_handleUnmatch
    (plane : DataPlane) (memory : SharedMemory) (m : MatchInfo) :
    (plane.handleUnmatch memory m).1.stopped = plane.stopped := by
  cases running : plane.stopped with
  | true =>
      rw [handleUnmatch_of_stopped running]
      exact running
  | false =>
      rw [(sameIdentity_handleUnmatch running memory m).stopped, running]

theorem mem_handleMatchUses
    {plane : DataPlane} {m : MatchInfo} {use : ReaderUse}
    (member : use ∈ plane.handleMatchUses m) :
    plane.stopped = false ∧ plane.route m = .shmSub ∧
      use.present = plane.shmReaders.isSome := by
  unfold handleMatchUses shmSubMatchUses at member
  split_ifs at member with stopped routed
  · cases member
  · dsimp only at member
    split at member
    · cases member
    · rw [List.mem_singleton] at member
      exact ⟨Bool.eq_false_iff.mpr stopped, routed, by rw [member]⟩
  · cases member

/-- A use of an unmatch also needs a reference. -/
theorem mem_handleUnmatchUses
    {plane : DataPlane} {m : MatchInfo} {use : ReaderUse}
    (member : use ∈ plane.handleUnmatchUses m) :
    plane.stopped = false ∧
      segName m.remoteParticipantId m.localEndpoint.topic ∈ plane.shmSubRef ∧
      use.present = plane.shmReaders.isSome := by
  unfold handleUnmatchUses shmSubUnmatchUses at member
  split_ifs at member with stopped routed
  · cases member
  · dsimp only at member
    split at member
    · cases member
    · rename_i ref found
      split_ifs at member
      · cases member
      · rw [List.mem_singleton] at member
        have referenced :
            segName m.remoteParticipantId m.localEndpoint.topic ∈
              plane.shmSubRef :=
          Std.TreeMap.mem_iff_isSome_getElem?.mpr (by simp [found])
        exact ⟨Bool.eq_false_iff.mpr stopped, referenced, by rw [member]⟩
  · cases member

end DataPlane

/-! ## The pointer over a whole life -/

/-- Whether `start` has succeeded. -/
def SetupPhase.succeeded : SetupPhase → Bool
  | .constructed => false
  | .startCalled succeeded => succeeded
  | .identified succeeded => succeeded

namespace PlaneLife

/-- After a successful `start` the manager is there until `stop`; without one
there is neither a manager nor a reference to a reader. -/
structure Managed (life : PlaneLife) : Prop where
  present :
    life.phase.succeeded = true → life.plane.stopped = false →
      life.plane.shmReaders.isSome = true
  missing :
    life.phase.succeeded = false → life.plane.shmReaders.isSome = false
  unreferenced :
    life.phase.succeeded = false → ∀ name : Text, name ∉ life.plane.shmSubRef

theorem managed_constructed
    (bus : LocalBus SinkHandle) (memory : SharedMemory) :
    Managed { plane := .constructed bus, memory := memory } where
  present succeeded := nomatch succeeded
  missing _ := rfl
  unreferenced _ _ := Std.TreeMap.not_mem_emptyc

/-- The rule for a step that leaves the phase, `stopped_`, the pointer and the
set of references as they were, or shrinks the latter. -/
theorem Managed.of_kept
    {life target : PlaneLife} (managed : Managed life)
    (phase : target.phase = life.phase)
    (stopped : target.plane.stopped = life.plane.stopped)
    (pointer :
      target.plane.shmReaders.isSome = life.plane.shmReaders.isSome)
    (references :
      life.phase.succeeded = false → ∀ name : Text,
        name ∈ target.plane.shmSubRef → name ∈ life.plane.shmSubRef) :
    Managed target where
  present succeeded running := by
    rw [pointer]
    exact managed.present (phase ▸ succeeded) (stopped ▸ running)
  missing failed := by
    rw [pointer]
    exact managed.missing (phase ▸ failed)
  unreferenced failed name member :=
    managed.unreferenced (phase ▸ failed) name
      (references (phase ▸ failed) name member)

theorem phase_of_serving
    {life : PlaneLife} (serves : life.serving = true) :
    ∃ succeeded, life.phase = .identified succeeded := by
  unfold serving at serves
  cases phase : life.phase with
  | constructed => simp [phase] at serves
  | startCalled _ => simp [phase] at serves
  | identified succeeded => exact ⟨succeeded, rfl⟩

theorem Managed.handleMatchUses
    {life : PlaneLife} (managed : Managed life)
    (serves : life.serving = true) {m : MatchInfo} {outcome : CreateOutcome}
    (provided : Provided life (.handleMatch m outcome)) :
    ∀ use ∈ life.plane.handleMatchUses m, use.present = true := by
  intro use member
  obtain ⟨running, routed, pointer⟩ := DataPlane.mem_handleMatchUses member
  obtain ⟨succeeded, phase⟩ := phase_of_serving serves
  cases succeeded with
  | true =>
      rw [pointer]
      exact managed.present (by rw [phase]; rfl) running
  | false =>
      exact absurd routed (provided phase running)

/-- An unmatch that reaches the manager finds it: a reference only exists
after a successful `start`. -/
theorem Managed.handleUnmatchUses
    {life : PlaneLife} (managed : Managed life) (m : MatchInfo) :
    ∀ use ∈ life.plane.handleUnmatchUses m, use.present = true := by
  intro use member
  obtain ⟨running, referenced, pointer⟩ :=
    DataPlane.mem_handleUnmatchUses member
  cases succeeded : life.phase.succeeded with
  | true =>
      rw [pointer]
      exact managed.present succeeded running
  | false =>
      exact absurd referenced (managed.unreferenced succeeded _)

/-- A match that is not provided for calls through the null pointer. -/
theorem Managed.missing_of_not_provided
    {life : PlaneLife} (managed : Managed life) {input : LifeInput}
    (unprovided : ¬ Provided life input)
    {target : PlaneLife} {uses : List DataPlane.ReaderUse}
    (stepped : life.step input = some (target, uses)) :
    ∃ use ∈ uses, use.present = false := by
  cases input with
  | handleMatch m outcome =>
      simp only [Provided, not_forall, not_not] at unprovided
      obtain ⟨phase, running, routed⟩ := unprovided
      have failed : life.phase.succeeded = false := by rw [phase]; rfl
      let name := segName m.remoteParticipantId m.localEndpoint.topic
      have unreferenced : life.plane.shmSubRef[name]? = none :=
        Std.TreeMap.getElem?_eq_none (managed.unreferenced failed name)
      have reached :
          life.plane.handleMatchUses m =
            [⟨.addReader, name, life.plane.shmReaders.isSome⟩] := by
        simp [DataPlane.handleMatchUses, DataPlane.shmSubMatchUses, running,
          routed, name, unreferenced]
      simp only [step, Option.ite_none_right_eq_some, Option.some.injEq,
        finish, Prod.mk.injEq] at stepped
      obtain ⟨_, _, rfl⟩ := stepped
      rw [reached]
      exact ⟨_, List.mem_singleton_self _, managed.missing failed⟩
  | _ =>
      exact absurd trivial unprovided

theorem Managed.step
    {life : PlaneLife} (managed : Managed life) {input : LifeInput}
    (provided : Provided life input)
    {target : PlaneLife} {uses : List DataPlane.ReaderUse}
    (stepped : life.step input = some (target, uses)) :
    Managed target ∧ ∀ use ∈ uses, use.present = true := by
  have noUses : ∀ use ∈ ([] : List DataPlane.ReaderUse), use.present = true :=
    fun _ member => nomatch member
  cases input with
  | start serverStarts =>
      simp only [PlaneLife.step, Option.ite_none_right_eq_some,
        Option.some.injEq, Prod.mk.injEq] at stepped
      obtain ⟨phase, rfl, rfl⟩ := stepped
      have failed : life.phase.succeeded = false := by rw [phase]; rfl
      refine ⟨?_, noUses⟩
      cases serverStarts with
      | true =>
          exact
            { present := fun _ _ => rfl
              missing := fun started => nomatch started
              unreferenced := fun started => nomatch started }
      | false =>
          exact
            { present := fun started => nomatch started
              missing := fun _ => managed.missing failed
              unreferenced := fun _ => managed.unreferenced failed }
  | setLocalIdentity pid hostId enableShm =>
      simp only [PlaneLife.step] at stepped
      split at stepped
      · rename_i succeeded phase
        cases stepped
        have same : life.phase.succeeded = succeeded := by rw [phase]; rfl
        exact
          ⟨{ present := fun started => managed.present (same.trans started)
             missing := fun failed => managed.missing (same.trans failed)
             unreferenced := fun failed =>
               managed.unreferenced (same.trans failed) },
            noUses⟩
      · cases stepped
  | handleMatch m outcome =>
      simp only [PlaneLife.step, Option.ite_none_right_eq_some,
        Option.some.injEq, finish, Prod.mk.injEq] at stepped
      obtain ⟨serves, rfl, rfl⟩ := stepped
      have found := managed.handleMatchUses serves provided
      refine ⟨managed.of_kept rfl (life.plane.stopped_handleMatch _ m outcome)
        (life.plane.isSome_shmReaders_handleMatch _ m outcome) ?_, found⟩
      intro failed name member
      obtain ⟨succeeded, phase⟩ := phase_of_serving serves
      have phaseFailed : life.phase = .identified false := by
        rw [phase] at failed ⊢
        exact congrArg SetupPhase.identified failed
      dsimp only at member
      rwa [DataPlane.shmSubRef_handleMatch (provided phaseFailed)] at member
  | handleUnmatch m =>
      simp only [PlaneLife.step, Option.ite_none_right_eq_some,
        Option.some.injEq, finish, Prod.mk.injEq] at stepped
      obtain ⟨_, rfl, rfl⟩ := stepped
      exact
        ⟨managed.of_kept rfl (life.plane.stopped_handleUnmatch _ m)
            (life.plane.isSome_shmReaders_handleUnmatch _ m)
            fun _ _ => DataPlane.mem_shmSubRef_handleUnmatch,
          managed.handleUnmatchUses m⟩
  | stopLocked =>
      simp only [PlaneLife.step, Option.ite_none_right_eq_some,
        Option.some.injEq, Prod.mk.injEq] at stepped
      obtain ⟨_, rfl, rfl⟩ := stepped
      exact
        ⟨{ present := fun _ running => nomatch running
           missing := fun _ => rfl
           unreferenced := fun _ _ => Std.TreeMap.not_mem_emptyc },
          noUses⟩
  | stopReset =>
      simp only [PlaneLife.step] at stepped
      split at stepped
      · cases stepped
      · split_ifs at stepped
        cases stepped
        exact ⟨managed.of_kept rfl rfl rfl fun _ _ => id, noUses⟩
  | elsewhere bus memory =>
      simp only [PlaneLife.step, Option.ite_none_right_eq_some,
        Option.some.injEq, Prod.mk.injEq] at stepped
      obtain ⟨_, rfl, rfl⟩ := stepped
      exact ⟨managed.of_kept rfl rfl rfl fun _ _ => id, noUses⟩

theorem managed_of_run
    {inputs : List LifeInput} {life : PlaneLife}
    {uses : List DataPlane.ReaderUse}
    (run : lifecycle.Run Provided inputs life uses) :
    Managed life ∧ ∀ use ∈ uses, use.present = true := by
  refine run.invariant
    (fun life uses => Managed life ∧ ∀ use ∈ uses, use.present = true) ?_ ?_
  · rintro life ⟨bus, memory, rfl⟩
    exact ⟨managed_constructed bus memory, fun _ member => nomatch member⟩
  · rintro life uses input target emitted ⟨managed, earlier⟩ provided stepped
    have ⟨kept, later⟩ := managed.step provided stepped
    refine ⟨kept, fun use member => ?_⟩
    rcases List.mem_append.mp member with member | member
    · exact earlier use member
    · exact later use member

/-- In any run, from the construction on and with `start` succeeding or
failing, every use finds the manager exactly if every step is provided for. -/
theorem dataPlane_readers_present_iff
    {inputs : List LifeInput} {life : PlaneLife}
    {uses : List DataPlane.ReaderUse}
    (run : lifecycle.Run Machine.free inputs life uses) :
    (∀ use ∈ uses, use.present = true) ↔
      lifecycle.Run Provided inputs life uses := by
  refine ⟨fun found => ?_, fun guarded => (managed_of_run guarded).2⟩
  induction run with
  | start initially =>
      exact .start initially
  | @next inputs life target uses emitted input _ _ stepped
      inductionHypothesis =>
      have earlier : lifecycle.Run Provided inputs life uses :=
        inductionHypothesis fun use member =>
          found use (List.mem_append_left emitted member)
      have provided : Provided life input := by
        by_contra unprovided
        obtain ⟨use, member, absent⟩ :=
          (managed_of_run earlier).1.missing_of_not_provided unprovided stepped
        have present := found use (List.mem_append_right uses member)
        rw [absent] at present
        cases present
      exact earlier.next provided stepped

/-- A subscriber's match with a publisher on the same host. -/
def sameHostMatch : MatchInfo where
  localEndpoint := { kind := .subscriber, topic := ['t'], typeName := ['T'] }
  remoteEndpoint := { kind := .publisher, topic := ['t'], typeName := ['T'] }
  remoteLocator := ⟨[], 0⟩
  remoteParticipantId := 1
  remoteHostId := ['h']

/-- The setup with a data server that does not start, and one match. -/
def failedSetup : List LifeInput :=
  [.start false, .setLocalIdentity 2 ['h'] true,
    .handleMatch sameHostMatch .created]

/-- A match, its unmatch and `stop` after a setup that succeeds. -/
def wholeLife : List LifeInput :=
  [.start true, .setLocalIdentity 2 ['h'] true,
    .handleMatch sameHostMatch .created, .handleUnmatch sameHostMatch,
    .stopLocked, .stopReset]

/-- Both uses of that life find the manager. -/
theorem dataPlane_readers_present_started :
    ∃ life uses,
      lifecycle.Run Machine.free wholeLife life uses ∧
        uses.length = 2 ∧
        lifecycle.Run Provided wholeLife life uses := by
  obtain ⟨life, uses, run, checked⟩ :=
    Machine.run_of_exec_check lifecycle Machine.free wholeLife
      { plane := .constructed .empty, memory := .empty }
      (fun _ uses => uses.length = 2 ∧ ∀ use ∈ uses, use.present = true)
      ⟨_, _, rfl⟩ (by decide +kernel)
  simp only [decide_eq_true_eq] at checked
  obtain ⟨twice, found⟩ := checked
  exact ⟨life, uses, run, twice, (dataPlane_readers_present_iff run).mp found⟩

/-- The data server does not start, and the node goes on: the first match that
`shm_sub_match` handles calls `add_reader` through the null pointer. -/
theorem dataPlane_failed_start_dispatches :
    ¬ ∀ (inputs : List LifeInput) (life : PlaneLife)
        (uses : List DataPlane.ReaderUse),
        lifecycle.Run Machine.free inputs life uses →
        ∀ use ∈ uses, use.present = true := by
  intro claimed
  obtain ⟨life, uses, run, checked⟩ :=
    Machine.run_of_exec_check lifecycle Machine.free failedSetup
      { plane := .constructed .empty, memory := .empty }
      (fun life uses =>
        life.crashed = true ∧ uses = [⟨.addReader, segName 1 ['t'], false⟩])
      ⟨_, _, rfl⟩ (by decide +kernel)
  simp only [decide_eq_true_eq] at checked
  obtain ⟨_, sole⟩ := checked
  have present := claimed _ life uses run _ (sole ▸ List.mem_singleton_self _)
  cases present

end PlaneLife

end MiniMiddleware.Core
