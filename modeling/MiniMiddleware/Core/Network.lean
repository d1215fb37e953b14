import MiniMiddleware.Core.Fabric
import MiniMiddleware.Core.SinkLists
import MiniMiddleware.Library.Lists

/-!
# A network of nodes at the level of the bus

`publish` and `deliver_inbound` collect their targets under the lock of the
bus and call `enqueue` on them one by one after they have released it.  In
between, every other operation of every node may run, so that a target may
have been removed from the bus by the time it is reached.  Here the two parts
are separate steps: an operation of `Fabric` collects, and the `enqueue` steps
of the calls in progress interleave freely.

A call holds its targets until it returns.  A `ShmSink` that is dropped by the
data plane in the meantime is destroyed, and its segment unlinked, only then.

Which nodes are matched on what is left to the inputs, so the topology is
arbitrary and may have cycles.
-/

namespace MiniMiddleware.Core

open MiniMiddleware.Library MiniMiddleware.Discovery MiniMiddleware.Transport

/-- Where a call of the bus comes from.  For a `publish` also the remote sinks
that its topic has when the targets are collected. -/
inductive Origin where
  | publish (topic typeName : Text) (bytes : Bytes)
      (registered : List SinkHandle)
  | inbound
  deriving DecidableEq, Repr

/-- A call of `publish`, or those of `deliver_inbound` for one frame or one
poll: the targets it holds and the calls of `enqueue` still to be made. -/
structure BusCall where
  pid : Nat
  origin : Origin
  targets : List SinkHandle
  remaining : List (SinkHandle × Bytes)
  returned : Bool := false
  deriving DecidableEq, Repr

/-- The first `enqueue` that remains has been called. -/
def BusCall.advance (call : BusCall) : BusCall :=
  { call with remaining := call.remaining.tail }

/-- The call has returned. -/
def BusCall.close (call : BusCall) : BusCall :=
  { call with returned := true }

/-- A call of `enqueue` on a sink that leads out of the node `pid`, by the bus
call of the given number. -/
structure Send where
  call : Nat
  pid : Nat
  sink : SinkHandle
  bytes : Bytes
  deriving DecidableEq, Repr

/-- The frame that a send puts into a TCP stream. -/
def Send.frame (send : Send) : Option Frame :=
  frameOf send.bytes send.sink

/-- The nodes, the sends whose frames are on the wire, and all calls of the
buses so far. -/
structure Network where
  fabric : Fabric
  inFlight : List Send := []
  calls : List BusCall := []

/-- An operation of a node, the next `enqueue` of a call, or its return. -/
inductive NetworkInput where
  | operate (input : FabricInput)
  | enqueue (call : Nat)
  | finish (call : Nat)
  deriving DecidableEq, Repr

namespace Network

/-- Whether a call in progress holds a sink of a node. -/
def held (network : Network) (pid : Nat) (sink : SinkHandle) : Bool :=
  network.calls.any fun call =>
    !call.returned && call.pid = pid && call.targets.contains sink

/-- Whether a weak pointer to a sink can still be locked. -/
def alive (network : Network) (pid : Nat) (sink : SinkHandle) : Bool :=
  (network.fabric.planes pid).alive sink || network.held pid sink

/-- A new call of the bus of a node, which has collected its targets. -/
def begin (network : Network) (fabric : Fabric) (pid : Nat) (origin : Origin)
    (remaining : List (SinkHandle × Bytes)) : Network :=
  { network with
    fabric := fabric
    calls :=
      network.calls ++
        [{ pid := pid
           origin := origin
           targets := remaining.map Prod.fst
           remaining := remaining }] }

/-- `LocalBus::publish` up to the release of the lock. -/
def publish (network : Network) (pid : Nat) (topic typeName : Text)
    (bytes : Bytes) : Network :=
  let plane := network.fabric.planes pid
  let published := plane.bus.publish (network.alive pid) topic typeName
  network.begin
    (network.fabric.setPlane pid { plane with bus := published.1 }) pid
    (.publish topic typeName bytes (plane.bus.entry topic).remoteSinks)
    (published.2.map fun sink => (sink, bytes))

/-- `poll_once`: what is read goes to `deliver_inbound`. -/
def poll (network : Network) (pid : Nat) : Network :=
  let polled :=
    (network.fabric.planes pid).pollOnce (network.fabric.memoryOf pid)
  network.begin (network.fabric.setPlane pid polled.1) pid .inbound polled.2.2

/-- `on_inbound` of the peer that a frame is sent to, which leaves its
stream. -/
def onInbound (network : Network) (index : Nat) (frame : Frame) : Network :=
  let delivered :=
    (network.fabric.planes frame.peer).deliverInbound frame.topic frame.bytes
  let after :=
    network.begin
      { network.fabric.setPlane frame.peer delivered.1 with
        wire := network.fabric.wire.eraseIdx index }
      frame.peer .inbound delivered.2
  { after with inFlight := network.inFlight.eraseIdx index }

/-- `handle_unmatch`, where the calls in progress hold their targets. -/
def handleUnmatch (network : Network) (pid : Nat) (m : MatchInfo) : Network :=
  { network with
    fabric := network.fabric.handleUnmatchHeld (network.held pid) pid m }

/-- The operations of `Fabric`, where `publish`, `poll` and `arrive` only
collect their targets. -/
def operate (network : Network) : FabricInput → Option Network
  | .createPublisher pid topic typeName reliability =>
      some
        { network with
          fabric :=
            network.fabric.createPublisher pid topic typeName reliability }
  | .createSubscriber pid topic typeName reliability =>
      some
        { network with
          fabric :=
            network.fabric.createSubscriber pid topic typeName reliability }
  | .handleMatch pid m outcome =>
      some
        { network with
          fabric :=
            network.fabric.apply pid
              ((network.fabric.planes pid).handleMatch
                (network.fabric.memoryOf pid) m outcome) }
  | .handleUnmatch pid m => some (network.handleUnmatch pid m)
  | .publish pid topic typeName bytes =>
      some (network.publish pid topic typeName bytes)
  | .poll pid => some (network.poll pid)
  | .arrive index =>
      network.fabric.wire[index]?.map fun frame =>
        network.onInbound index frame

/-- `enqueue` on a sink, by a call of the node `pid`. -/
def enqueueOn (network : Network) (index pid : Nat) (sink : SinkHandle)
    (bytes : Bytes) : Network :=
  let send : Send := ⟨index, pid, sink, bytes⟩
  let fabric := network.fabric
  let written :=
    fabric.apply pid
      (fabric.planes pid, writeSink bytes (fabric.memoryOf pid) sink)
  { fabric := { written with wire := fabric.wire ++ send.frame.toList }
    inFlight :=
      network.inFlight ++ if send.frame.isSome then [send] else []
    calls := network.calls.modify index BusCall.advance }

/-- The next `enqueue` of a call, with the send if the sink leads out of the
node. -/
def enqueue (network : Network) (index : Nat) :
    Option (Network × List Send) :=
  match network.calls[index]? with
  | none => none
  | some call =>
      match call.remaining with
      | [] => none
      | (sink, bytes) :: _ =>
          some
            (network.enqueueOn index call.pid sink bytes,
              if sink.leaves then [⟨index, call.pid, sink, bytes⟩] else [])

/-- A call returns and drops its targets; what nobody else holds is
destroyed. -/
def close (network : Network) (index : Nat) (call : BusCall) : Network :=
  let after :=
    { network with calls := network.calls.modify index BusCall.close }
  { after with
    fabric :=
      network.fabric.release (after.alive call.pid) call.pid call.targets }

/-- The return of a call that has nothing left to do. -/
def finish (network : Network) (index : Nat) : Option Network :=
  match network.calls[index]? with
  | none => none
  | some call =>
      if call.remaining = [] ∧ call.returned = false then
        some (network.close index call)
      else
        none

/-- One step, with the sends it makes. -/
def step (network : Network) :
    NetworkInput → Option (Network × List Send)
  | .operate input => (network.operate input).map fun after => (after, [])
  | .enqueue index => network.enqueue index
  | .finish index => (network.finish index).map fun after => (after, [])

end Network

/-- The network as a machine; its events are the sends. -/
def networkMachine : Machine Network NetworkInput Send where
  initial network := ∃ hosts shm, network = { fabric := Fabric.started hosts shm }
  step := Network.step

/-! ## Calls that are not interrupted -/

/-- The effects of `enqueue` on several sinks of a node. -/
def Fabric.enqueueAll (fabric : Fabric) (pid : Nat) (bytes : Bytes)
    (sinks : List SinkHandle) : Fabric :=
  { fabric.apply pid
      (fabric.planes pid,
        sinks.foldl (writeSink bytes) (fabric.memoryOf pid)) with
    wire := fabric.wire ++ sinks.filterMap (frameOf bytes) }

namespace Network

theorem exec_enqueues
    {bytes : Bytes} {sinks : List SinkHandle} {network : Network}
    {index : Nat} {call : BusCall}
    (found : network.calls[index]? = some call)
    (remaining : call.remaining = sinks.map fun sink => (sink, bytes)) :
    ∃ target sends,
      networkMachine.exec Machine.free network
          (List.replicate sinks.length (.enqueue index)) =
        some (target, sends) ∧
        target.fabric = network.fabric.enqueueAll call.pid bytes sinks := by
  induction sinks generalizing network call with
  | nil =>
      refine ⟨network, [], rfl, ?_⟩
      simp [Fabric.enqueueAll, Fabric.apply, Fabric.memoryOf]
  | cons sink later inductionHypothesis =>
      cases stepped : network.enqueue index with
      | none =>
          simp [enqueue, found, remaining] at stepped
      | some outcome =>
          obtain ⟨middle, sent⟩ := outcome
          obtain ⟨calls, fabric⟩ :
              middle.calls = network.calls.modify index BusCall.advance ∧
                middle.fabric =
                  network.fabric.enqueueAll call.pid bytes [sink] := by
            simp only [enqueue, found, remaining, List.map_cons] at stepped
            cases stepped
            refine ⟨rfl, ?_⟩
            cases sink <;> rfl
          have advanced : middle.calls[index]? = some call.advance := by
            rw [calls]
            exact getElem?_modify_eq_some.mpr ⟨call, found, by simp⟩
          obtain ⟨target, sends, executed, after⟩ :=
            inductionHypothesis advanced (by simp [BusCall.advance, remaining])
          refine ⟨target, sent ++ sends, ?_, ?_⟩
          · rw [List.length_cons, List.replicate_succ]
            exact Machine.exec_cons trivial stepped executed
          · rw [after, fabric]
            simp only [Fabric.enqueueAll, Fabric.apply, Fabric.memoryOf,
              BusCall.advance, Function.update_self, Function.update_idem,
              Function.update_eq_self, List.foldl_cons, List.foldl_nil,
              List.append_assoc, ← List.filterMap_append, List.singleton_append]

/-- A `publish` that is not interrupted does what the operation of `Fabric`
does in one step. -/
theorem exec_publish
    (network : Network) (pid : Nat) (topic typeName : Text) (bytes : Bytes)
    (idle : ∀ sink, network.held pid sink = false) :
    let plane := network.fabric.planes pid
    let targets := (plane.bus.publish plane.alive topic typeName).2
    ∃ target sends,
      networkMachine.exec Machine.free network
          (.operate (.publish pid topic typeName bytes) ::
            List.replicate targets.length (.enqueue network.calls.length)) =
        some (target, sends) ∧
        target.fabric =
          (network.fabric.publish pid topic typeName bytes).1 := by
  have alive : network.alive pid = (network.fabric.planes pid).alive := by
    funext sink
    rw [Network.alive, idle, Bool.or_false]
  have begun :
      (network.publish pid topic typeName bytes).calls[network.calls.length]? =
        some _ :=
    getElem?_concat_eq_some.mpr (Or.inr ⟨rfl, rfl⟩)
  obtain ⟨target, sends, executed, after⟩ := exec_enqueues begun rfl
  rw [alive] at executed after
  refine ⟨target, [] ++ sends, Machine.exec_cons trivial rfl executed, ?_⟩
  rw [after]
  simp only [Fabric.enqueueAll, Network.publish, Network.begin,
    Fabric.publish, Fabric.setPlane_eq_apply, Fabric.apply, Fabric.memoryOf,
    alive, Function.update_self, Function.update_idem, Function.update_eq_self]

end Network

/-! ## What a step can do -/

namespace Network

section Inversion

variable {network target : Network} {input : FabricInput} {index : Nat}
  {sent : List Send}

theorem step_operate
    (stepped : network.step (.operate input) = some (target, sent)) :
    network.operate input = some target ∧ sent = [] := by
  obtain ⟨after, operated, equal⟩ := Option.map_eq_some_iff.mp stepped
  cases equal
  exact ⟨operated, rfl⟩

theorem operate_arrive
    (operated : network.operate (.arrive index) = some target) :
    ∃ frame, target = network.onInbound index frame := by
  obtain ⟨frame, _, rfl⟩ := Option.map_eq_some_iff.mp operated
  exact ⟨frame, rfl⟩

theorem step_enqueue
    (stepped : network.step (.enqueue index) = some (target, sent)) :
    ∃ call sink bytes later,
      network.calls[index]? = some call ∧
        call.remaining = (sink, bytes) :: later ∧
        target = network.enqueueOn index call.pid sink bytes ∧
        sent =
          if sink.leaves then [⟨index, call.pid, sink, bytes⟩] else [] := by
  simp only [step, enqueue] at stepped
  split at stepped
  · cases stepped
  · rename_i call found
    split at stepped
    · cases stepped
    · rename_i sink bytes later remaining
      cases stepped
      exact ⟨call, sink, bytes, later, found, remaining, rfl, rfl⟩

theorem step_finish
    (stepped : network.step (.finish index) = some (target, sent)) :
    ∃ call, target = network.close index call ∧ sent = [] := by
  obtain ⟨after, finished, equal⟩ := Option.map_eq_some_iff.mp stepped
  cases equal
  simp only [finish] at finished
  split at finished
  · cases finished
  · rename_i call _
    split_ifs at finished
    cases finished
    exact ⟨call, rfl, rfl⟩

end Inversion

/-- The nodes run under their own ids and keep their lists of sinks apart. -/
structure Steady (network : Network) : Prop where
  running : ∀ pid, (network.fabric.planes pid).stopped = false
  localPid : ∀ pid, (network.fabric.planes pid).localPid = pid
  sorted : ∀ pid, (network.fabric.planes pid).Sorted

theorem steady_started (hosts : Nat → Text) (shm : Nat → Bool) :
    Steady { fabric := Fabric.started hosts shm } where
  running _ := rfl
  localPid _ := rfl
  sorted pid := DataPlane.sorted_started pid (hosts pid) (shm pid)

/-- Only a match adds a sink that leads out of the node to its bus. -/
def BusKept (network : Network) (input : NetworkInput) (pid : Nat)
    (plane : DataPlane) : Prop :=
  ∀ topic sink, sink.leaves = true → plane.bus.Has topic sink →
    (network.fabric.planes pid).bus.Has topic sink ∨
      ∃ m outcome, input = .operate (.handleMatch pid m outcome)

theorem busKept_of_pruned
    {network : Network} {pid : Nat} {plane : DataPlane}
    (input : NetworkInput)
    (pruned : plane.bus.Pruned (network.fabric.planes pid).bus) :
    network.BusKept input pid plane :=
  fun _ _ _ has => Or.inl (pruned.has has)

/-- One node at most changes its data plane, and keeps its identity. -/
theorem Steady.planes_step
    {network target : Network} {input : NetworkInput} {sent : List Send}
    (steady : network.Steady)
    (stepped : network.step input = some (target, sent)) :
    ∃ pid plane,
      target.fabric.planes = Function.update network.fabric.planes pid plane ∧
        DataPlane.SameIdentity (network.fabric.planes pid) plane ∧
        plane.Sorted ∧ network.BusKept input pid plane := by
  have pruned :
      ∀ pid (plane : DataPlane),
        plane.bus.Pruned (network.fabric.planes pid).bus →
        (network.fabric.planes pid).nextSerial ≤ plane.nextSerial →
        plane.Sorted ∧ network.BusKept input pid plane :=
    fun pid _ fewer serials =>
      ⟨(steady.sorted pid).prune fewer serials, busKept_of_pruned input fewer⟩
  cases input with
  | operate input =>
      obtain ⟨operated, rfl⟩ := step_operate stepped
      cases input with
      | createPublisher pid topic typeName reliability =>
          cases operated
          have fewer :=
            (network.fabric.planes pid).bus.pruned_registerPublisher topic
              typeName
          exact ⟨pid, _, rfl, ⟨rfl, rfl, rfl, rfl⟩,
            pruned pid _ fewer (Nat.le_refl _)⟩
      | createSubscriber pid topic typeName reliability =>
          cases operated
          have stays :
              (SinkHandle.subscriber (network.fabric.planes pid).nextSerial
                topic typeName).leaves = false := rfl
          refine ⟨pid, _, rfl, ⟨rfl, rfl, rfl, rfl⟩,
            (steady.sorted pid).subscribe stays rfl (Nat.le_succ _), ?_⟩
          intro other sink leaves has
          rcases LocalBus.has_subscribe has with old | ⟨_, rfl⟩
          · exact Or.inl old
          · rw [stays] at leaves
            cases leaves
      | handleMatch pid m outcome =>
          cases operated
          have same :=
            DataPlane.sameIdentity_handleMatch (steady.running pid)
              (network.fabric.memoryOf pid) m outcome
          have sorted :=
            (steady.sorted pid).handleMatch (steady.running pid)
              (network.fabric.memoryOf pid) m outcome
          exact ⟨pid, _, rfl, same, sorted,
            fun _ _ _ _ => Or.inr ⟨m, outcome, rfl⟩⟩
      | handleUnmatch pid m =>
          cases operated
          obtain ⟨fewer, serials⟩ :=
            DataPlane.handleUnmatch_pruned (steady.running pid)
              (network.fabric.memoryOf pid) m
          have same :=
            DataPlane.sameIdentity_handleUnmatch (steady.running pid)
              (network.fabric.memoryOf pid) m
          exact ⟨pid, _, rfl, same, pruned pid _ fewer serials.ge⟩
      | publish pid topic typeName bytes =>
          cases operated
          have fewer :=
            (network.fabric.planes pid).bus.pruned_publish
              (network.alive pid) topic typeName
          exact ⟨pid, _, rfl, ⟨rfl, rfl, rfl, rfl⟩,
            pruned pid _ fewer (Nat.le_refl _)⟩
      | poll pid =>
          cases operated
          obtain ⟨fewer, serials⟩ :=
            DataPlane.pollOnce_pruned (network.fabric.planes pid)
              (network.fabric.memoryOf pid)
          exact ⟨pid, _, rfl, (DataPlane.pollOnce_frame _ _).1,
            pruned pid _ fewer serials.ge⟩
      | arrive index =>
          obtain ⟨frame, rfl⟩ := operate_arrive operated
          have fewer :=
            (network.fabric.planes frame.peer).bus.pruned_deliverInbound
              (network.fabric.planes frame.peer).alive frame.topic
          exact ⟨frame.peer, _, rfl, ⟨rfl, rfl, rfl, rfl⟩,
            pruned frame.peer _ fewer (Nat.le_refl _)⟩
  | enqueue index =>
      obtain ⟨call, sink, bytes, later, _, _, rfl, _⟩ := step_enqueue stepped
      exact ⟨call.pid, _, rfl, DataPlane.SameIdentity.refl _,
        pruned call.pid _ (LocalBus.Pruned.refl _) (Nat.le_refl _)⟩
  | finish index =>
      obtain ⟨call, rfl, _⟩ := step_finish stepped
      exact ⟨call.pid, _, rfl, DataPlane.SameIdentity.refl _,
        pruned call.pid _ (LocalBus.Pruned.refl _) (Nat.le_refl _)⟩

theorem Steady.step
    {network target : Network} {input : NetworkInput} {sent : List Send}
    (steady : network.Steady)
    (stepped : network.step input = some (target, sent)) :
    target.Steady := by
  obtain ⟨pid, plane, planes, same, sorted, _⟩ := steady.planes_step stepped
  have each :
      ∀ other,
        DataPlane.SameIdentity (network.fabric.planes other)
            (target.fabric.planes other) ∧
          (target.fabric.planes other).Sorted := by
    intro other
    rw [planes]
    refine ⟨Fabric.sameIdentities_of_update same other, ?_⟩
    by_cases mine : other = pid
    · subst mine
      rwa [Function.update_self]
    · rw [Function.update_of_ne mine]
      exact steady.sorted other
  exact ⟨fun other => (each other).1.stopped.trans (steady.running other),
    fun other => (each other).1.localPid.trans (steady.localPid other),
    fun other => (each other).2⟩

/-- A call that has just collected its targets: those of `deliver_inbound`
stay in the node, and those of `publish` that leave it are remote sinks that
the topic has now. -/
def Fresh (network : Network) (input : NetworkInput) (call : BusCall) : Prop :=
  match call.origin with
  | .inbound => ∀ target ∈ call.remaining, target.1.leaves = false
  | .publish topic typeName bytes registered =>
      input = .operate (.publish call.pid topic typeName bytes) ∧
        registered =
          ((network.fabric.planes call.pid).bus.entry topic).remoteSinks ∧
        ((call.remaining.map Prod.fst).filter SinkHandle.leaves).Sublist
          registered ∧
        ∀ target ∈ call.remaining, target.2 = bytes

/-- What a step can do to the calls: nothing, begin one, make the next
`enqueue` of one, or return from one. -/
inductive CallStep (network : Network) (input : NetworkInput) :
    List BusCall → List Send → Prop
  | kept : CallStep network input network.calls []
  | began (call : BusCall) :
      network.Fresh input call →
      CallStep network input (network.calls ++ [call]) []
  | enqueued (index : Nat) (call : BusCall) (sink : SinkHandle)
      (bytes : Bytes) (later : List (SinkHandle × Bytes)) :
      network.calls[index]? = some call →
      call.remaining = (sink, bytes) :: later →
      CallStep network input (network.calls.modify index BusCall.advance)
        (if sink.leaves then [⟨index, call.pid, sink, bytes⟩] else [])
  | finished (index : Nat) :
      CallStep network input (network.calls.modify index BusCall.close) []

theorem Steady.calls_step
    {network target : Network} {input : NetworkInput} {sent : List Send}
    (steady : network.Steady)
    (stepped : network.step input = some (target, sent)) :
    network.CallStep input target.calls sent := by
  cases input with
  | operate input =>
      obtain ⟨operated, rfl⟩ := step_operate stepped
      cases input with
      | publish pid topic typeName bytes =>
          cases operated
          have leaving :=
            (steady.sorted pid).publish_leaving (network.alive pid) topic
              typeName
          refine .began _ ⟨rfl, rfl, ?_, ?_⟩
          · rw [List.map_map]
            exact (List.map_id _).symm ▸ leaving
          · intro target member
            obtain ⟨_, _, rfl⟩ := List.mem_map.mp member
            rfl
      | poll pid =>
          cases operated
          exact .began _ ((steady.sorted pid).pollOnce_calls _)
      | arrive index =>
          obtain ⟨frame, rfl⟩ := operate_arrive operated
          have stay :=
            (steady.sorted frame.peer).deliverInbound_calls frame.topic
              frame.bytes
          exact .began _ stay
      | _ =>
          cases operated
          exact .kept
  | enqueue index =>
      obtain ⟨call, sink, bytes, later, found, remaining, rfl, rfl⟩ :=
        step_enqueue stepped
      exact .enqueued index call sink bytes later found remaining
  | finish index =>
      obtain ⟨call, rfl, rfl⟩ := step_finish stepped
      exact .finished index

/-- What a step can do to the streams: nothing, take a frame out, or append
the frame of a send. -/
theorem frames_step
    {network target : Network} {input : NetworkInput} {sent : List Send}
    (stepped : network.step input = some (target, sent)) :
    (target.fabric.wire = network.fabric.wire ∧
        target.inFlight = network.inFlight ∧ sent = []) ∨
      (∃ index,
        target.fabric.wire = network.fabric.wire.eraseIdx index ∧
          target.inFlight = network.inFlight.eraseIdx index ∧ sent = []) ∨
      ∃ send : Send,
        target.fabric.wire = network.fabric.wire ++ send.frame.toList ∧
          target.inFlight =
            network.inFlight ++ (if send.frame.isSome then [send] else []) ∧
          sent = if send.sink.leaves then [send] else [] := by
  cases input with
  | operate input =>
      obtain ⟨operated, rfl⟩ := step_operate stepped
      cases input with
      | arrive index =>
          obtain ⟨frame, rfl⟩ := operate_arrive operated
          exact Or.inr (Or.inl ⟨index, rfl, rfl, rfl⟩)
      | _ =>
          cases operated
          exact Or.inl ⟨rfl, rfl, rfl⟩
  | enqueue index =>
      obtain ⟨call, sink, bytes, later, _, _, rfl, rfl⟩ := step_enqueue stepped
      exact Or.inr (Or.inr ⟨_, rfl, rfl, rfl⟩)
  | finish index =>
      obtain ⟨call, rfl, rfl⟩ := step_finish stepped
      exact Or.inl ⟨rfl, rfl, rfl⟩

end Network

end MiniMiddleware.Core
