import MiniMiddleware.Common.QueueHistory
import MiniMiddleware.Transport.ShmRing

/-!
# Subscribers

A subscriber pushes what it is given to its queue; its worker thread pops one
message after the other, parses it and calls back.  The QoS of the subscriber
gives the capacity of the queue.

The serialized messages are parsed by generated code, which is a parameter
here.
-/

namespace MiniMiddleware.Core

open MiniMiddleware.Library
open MiniMiddleware.Transport
open MiniMiddleware.QueueHistory

/-- `Qos::History`. -/
inductive History where
  | keepLast
  | keepAll
  deriving DecidableEq, Repr

/-- The part of `Qos` that a subscriber uses. -/
structure Qos where
  history : History
  depth : UInt32
  deriving DecidableEq, Repr

/-- A subscriber and its worker.  `held` is the message that the worker has
popped and not yet parsed; `finished` says that `run` has returned. -/
structure Subscriber where
  queue : BlockingQueue Bytes
  held : Option Bytes
  finished : Bool
  deriving DecidableEq, Repr

/-- The calls of `enqueue`, the two halves of a round of the worker, and the
destructor. -/
inductive SubscriberInput where
  | enqueue (bytes : Bytes)
  | take
  | handle
  | close
  deriving DecidableEq, Repr

/-- What happens in the queue, the calls of the callback, and the messages that
could not be parsed. -/
inductive SubscriberEvent (Message : Type) where
  | queue (event : QueueEvent Bytes)
  | called (message : Message)
  | unparsed (bytes : Bytes)
  deriving DecidableEq, Repr

/-- The capacity of the queue. -/
def Qos.capacity (qos : Qos) : Nat :=
  if qos.history = .keepLast then qos.depth.toNat else 0

namespace Subscriber

variable {Message : Type}

/-- `Subscriber::Subscriber`. -/
def created (qos : Qos) : Subscriber where
  queue := .created qos.capacity
  held := none
  finished := false

/-- A critical section of the queue that is not the worker's. -/
def onQueue (subscriber : Subscriber) (input : QueueInput Bytes) :
    Option (Subscriber × List (SubscriberEvent Message)) :=
  (subscriber.queue.step input).map fun outcome =>
    ({ subscriber with queue := outcome.1 }, outcome.2.map .queue)

/-- One step; `parse` is `ParseFromString`. -/
def step (parse : Bytes → Option Message) (subscriber : Subscriber) :
    SubscriberInput → Option (Subscriber × List (SubscriberEvent Message))
  | .enqueue bytes => subscriber.onQueue (.push bytes)
  | .take =>
      if subscriber.held = none ∧ ¬subscriber.finished then
        subscriber.queue.pop.map fun outcome =>
          ({ queue := outcome.1
             held := outcome.2
             finished := outcome.2.isNone },
            (BlockingQueue.taken outcome.2).map .queue)
      else
        none
  | .handle =>
      subscriber.held.map fun bytes =>
        ({ subscriber with held := none },
          match parse bytes with
          | some message => [.called message]
          | none => [.unparsed bytes])
  | .close => subscriber.onQueue .close

end Subscriber

/-- A subscriber, the threads that publish to it, and its worker. -/
def subscriberMachine {Message : Type} (parse : Bytes → Option Message)
    (qos : Qos) :
    Machine Subscriber SubscriberInput (SubscriberEvent Message) where
  initial := fun subscriber => subscriber = .created qos
  step := Subscriber.step parse

section Projections

variable {Message : Type}

/-- The events of the queue. -/
def queueEvents (events : List (SubscriberEvent Message)) :
    List (QueueEvent Bytes) :=
  events.filterMap fun
    | .queue event => some event
    | _ => none

/-- The messages passed to the callback. -/
def callbacks (events : List (SubscriberEvent Message)) : List Message :=
  events.filterMap fun
    | .called message => some message
    | _ => none

@[simp]
theorem queueEvents_append (earlier later : List (SubscriberEvent Message)) :
    queueEvents (earlier ++ later) = queueEvents earlier ++ queueEvents later :=
  List.filterMap_append

@[simp]
theorem callbacks_append (earlier later : List (SubscriberEvent Message)) :
    callbacks (earlier ++ later) = callbacks earlier ++ callbacks later :=
  List.filterMap_append

@[simp]
theorem queueEvents_map_queue (events : List (QueueEvent Bytes)) :
    queueEvents (events.map (@SubscriberEvent.queue Message)) =
      events := by
  simp [queueEvents, List.filterMap_map]

@[simp]
theorem callbacks_map_queue (events : List (QueueEvent Bytes)) :
    callbacks (events.map (@SubscriberEvent.queue Message)) =
      [] := by
  simp [callbacks, List.filterMap_map]

end Projections

/-! ## What a step can do -/

namespace Subscriber

variable {Message : Type} {parse : Bytes → Option Message}
  {subscriber target : Subscriber} {input : SubscriberInput}
  {emitted : List (SubscriberEvent Message)}

/-- A publisher or the destructor uses the queue, or the worker pops, or it
handles the message that it has popped. -/
inductive Change (parse : Bytes → Option Message)
    (subscriber target : Subscriber) :
    List (SubscriberEvent Message) → Prop
  | queue (input : QueueInput Bytes) (queue : BlockingQueue Bytes)
      (events : List (QueueEvent Bytes)) :
      (∀ removal, .removed removal ∈ events → removal.dropped = true) →
      subscriber.queue.step input = some (queue, events) →
      target = { subscriber with queue := queue } →
      Change parse subscriber target (events.map .queue)
  | take (queue : BlockingQueue Bytes) (held : Option Bytes) :
      subscriber.held = none →
      subscriber.finished = false →
      subscriber.queue.pop = some (queue, held) →
      target = ⟨queue, held, held.isNone⟩ →
      Change parse subscriber target
        ((BlockingQueue.taken held).map .queue)
  | handle (bytes : Bytes) :
      subscriber.held = some bytes →
      target = { subscriber with held := none } →
      Change parse subscriber target
        (match parse bytes with
          | some message => [.called message]
          | none => [.unparsed bytes])

/-- A push removes only items that it drops, and `close` removes none. -/
theorem dropped_of_push_or_close
    {queue after : BlockingQueue Bytes} {input : QueueInput Bytes}
    {events : List (QueueEvent Bytes)}
    (kind : (∃ bytes, input = .push bytes) ∨ input = .close)
    (stepped : queue.step input = some (after, events))
    {removal : Removal Bytes} (member : .removed removal ∈ events) :
    removal.dropped = true := by
  cases BlockingQueue.change_of_step stepped with
  | replaced _ oldest =>
      have same : removal = ⟨oldest, true⟩ := by simpa using member
      rw [same]
  | popped _ _ _ pops =>
      rcases pops with rfl | rfl <;> simp at kind
  | _ =>
      simp at member

theorem change_of_onQueue
    {input : QueueInput Bytes}
    (kind : (∃ bytes, input = .push bytes) ∨ input = .close)
    (stepped : subscriber.onQueue input = some (target, emitted)) :
    Change parse subscriber target emitted := by
  unfold onQueue at stepped
  obtain ⟨⟨queue, events⟩, moved, equal⟩ := Option.map_eq_some_iff.mp stepped
  cases equal
  exact .queue input queue events
    (fun _ => dropped_of_push_or_close kind moved) moved rfl

theorem change_of_step
    (stepped : subscriber.step parse input = some (target, emitted)) :
    Change parse subscriber target emitted := by
  cases input with
  | enqueue bytes =>
      exact change_of_onQueue (Or.inl ⟨bytes, rfl⟩) stepped
  | take =>
      simp only [step] at stepped
      split_ifs at stepped with idle
      obtain ⟨⟨queue, held⟩, moved, equal⟩ :=
        Option.map_eq_some_iff.mp stepped
      cases equal
      exact .take queue held idle.1 (Bool.eq_false_iff.mpr idle.2) moved rfl
  | handle =>
      obtain ⟨bytes, busy, equal⟩ := Option.map_eq_some_iff.mp stepped
      cases equal
      exact .handle bytes busy rfl
  | close =>
      exact change_of_onQueue (Or.inr rfl) stepped

/-! ## Whole runs -/

/-- What the worker has done with the messages that it popped. -/
structure Worked (parse : Bytes → Option Message) (subscriber : Subscriber)
    (events : List (SubscriberEvent Message)) (handled : List Bytes) :
    Prop where
  popped : popped (queueEvents events) = handled ++ subscriber.held.toList
  called : callbacks events = handled.filterMap parse
  finished :
    subscriber.finished = true →
      subscriber.queue.closed = true ∧ subscriber.queue.queue = [] ∧
        subscriber.held = none

theorem popped_eq_nil
    {events : List (QueueEvent Bytes)}
    (dropped :
      ∀ removal, .removed removal ∈ events → removal.dropped = true) :
    QueueHistory.popped events = [] := by
  rw [QueueHistory.popped, List.map_eq_nil_iff, List.filter_eq_nil_iff]
  intro removal member
  obtain ⟨event, present, kind⟩ := List.mem_filterMap.mp member
  cases event with
  | removed other =>
      cases kind
      simp [dropped removal present]
  | _ =>
      cases kind

theorem queue_of_closed
    {queue after : BlockingQueue Bytes} {input : QueueInput Bytes}
    {events : List (QueueEvent Bytes)}
    (stepped : queue.step input = some (after, events))
    (closed : queue.closed = true) (empty : queue.queue = []) :
    after.closed = true ∧ after.queue = [] := by
  have draining :=
    draining_of_change closed (BlockingQueue.change_of_step stepped)
  have order := draining.inOrder
  rw [empty, List.append_eq_nil_iff] at order
  exact ⟨draining.closed, order.2⟩

theorem Worked.change
    {events : List (SubscriberEvent Message)} {handled : List Bytes}
    (worked : Worked parse subscriber events handled)
    (change : Change parse subscriber target emitted) :
    ∃ handled, Worked parse target (events ++ emitted) handled := by
  cases change with
  | queue input queue moved dropped stepped equal =>
      subst equal
      refine ⟨handled, ?_, ?_, fun finished => ?_⟩
      · rw [queueEvents_append, popped_append, queueEvents_map_queue,
          popped_eq_nil dropped, List.append_nil]
        exact worked.popped
      · rw [callbacks_append, callbacks_map_queue, List.append_nil]
        exact worked.called
      · obtain ⟨closed, empty, idle⟩ := worked.finished finished
        obtain ⟨closed, empty⟩ := queue_of_closed stepped closed empty
        exact ⟨closed, empty, idle⟩
  | take queue held idle _ moved equal =>
      subst equal
      have before := worked.popped
      rw [idle] at before
      refine ⟨handled, ?_, ?_, fun finished => ?_⟩
      · rw [queueEvents_append, popped_append, queueEvents_map_queue, before]
        cases held with
        | none =>
            simp [BlockingQueue.taken, QueueHistory.popped, removals]
        | some bytes =>
            simp [BlockingQueue.taken, QueueHistory.popped, removals]
      · rw [callbacks_append, callbacks_map_queue, List.append_nil]
        exact worked.called
      · unfold BlockingQueue.pop at moved
        split at moved
        · cases moved
          cases finished
        · rename_i empty
          split_ifs at moved with closed
          cases moved
          exact ⟨closed, empty, rfl⟩
  | handle bytes busy equal =>
      subst equal
      have before := worked.popped
      rw [busy] at before
      refine ⟨handled ++ [bytes], ?_, ?_, fun finished => ?_⟩
      · rw [queueEvents_append, popped_append, before]
        cases parse bytes with
        | none =>
            simp [queueEvents, QueueHistory.popped, removals]
        | some message =>
            simp [queueEvents, QueueHistory.popped, removals]
      · rw [callbacks_append, worked.called, List.filterMap_append]
        cases parsed : parse bytes with
        | none =>
            simp [callbacks, parsed]
        | some message =>
            simp [callbacks, parsed]
      · have idle := (worked.finished finished).2.2
        rw [busy] at idle
        cases idle

theorem sound_of_change
    {capacity : Nat} {events : List (SubscriberEvent Message)}
    (sound : Sound capacity subscriber.queue (queueEvents events))
    (change : Change parse subscriber target emitted) :
    Sound capacity target.queue (queueEvents (events ++ emitted)) := by
  rw [queueEvents_append]
  cases change with
  | queue input queue moved _ stepped equal =>
      subst equal
      rw [queueEvents_map_queue]
      exact sound.change (BlockingQueue.change_of_step stepped)
  | take queue held _ _ moved equal =>
      subst equal
      have stepped :
          subscriber.queue.step .pop =
            some (queue, BlockingQueue.taken held) := by
        simp [BlockingQueue.step, moved]
      rw [queueEvents_map_queue]
      exact sound.change (BlockingQueue.change_of_step stepped)
  | handle bytes _ equal =>
      subst equal
      cases parse bytes with
      | none =>
          simpa [queueEvents] using sound
      | some message =>
          simpa [queueEvents] using sound

end Subscriber

theorem subscriber_of_run
    {Message : Type} {parse : Bytes → Option Message} {qos : Qos}
    {inputs : List SubscriberInput} {subscriber : Subscriber}
    {events : List (SubscriberEvent Message)}
    (run :
      (subscriberMachine parse qos).Run Machine.free inputs subscriber
        events) :
    Sound qos.capacity subscriber.queue (queueEvents events) ∧
      ∃ handled, Subscriber.Worked parse subscriber events handled := by
  refine run.invariant
    (fun subscriber events =>
      Sound qos.capacity subscriber.queue (queueEvents events) ∧
        ∃ handled, Subscriber.Worked parse subscriber events handled) ?_ ?_
  · rintro subscriber rfl
    exact ⟨sound_created qos.capacity, [], rfl, rfl, nofun⟩
  · rintro subscriber events input target emitted ⟨sound, handled, worked⟩ _
      stepped
    have change := Subscriber.change_of_step stepped
    exact ⟨Subscriber.sound_of_change sound change, worked.change change⟩

/-- Every history of a queue has the queue's semantics, and the callbacks of a
subscriber are the messages it was given, in order, without those that were
dropped, that cannot be parsed, or that are still waiting. -/
theorem queue_semantics
    {Item : Type} {capacity : Nat} {inputs : List (QueueInput Item)}
    {queue : BlockingQueue Item} {events : List (QueueEvent Item)}
    (run : (queueMachine Item capacity).Run Machine.free inputs queue events)
    {Message : Type} {parse : Bytes → Option Message} {qos : Qos}
    {calls : List SubscriberInput} {subscriber : Subscriber}
    {seen : List (SubscriberEvent Message)}
    (subscribed :
      (subscriberMachine parse qos).Run Machine.free calls subscriber seen) :
    Semantics capacity queue events ∧
      ∃ handled,
        (removals (queueEvents seen)).map Removal.item ++
            subscriber.queue.queue =
          accepted (queueEvents seen) ∧
        popped (queueEvents seen) = handled ++ subscriber.held.toList ∧
        callbacks seen = handled.filterMap parse ∧
        (subscriber.finished = true →
          subscriber.queue.queue = [] ∧ subscriber.held = none) := by
  obtain ⟨sound, handled, worked⟩ := subscriber_of_run subscribed
  refine ⟨(sound_of_run run).semantics, handled, sound.order, worked.popped,
    worked.called, fun finished => ?_⟩
  exact (worked.finished finished).2

/-- A queue of capacity one drops an item and is closed before it is empty; a
subscriber cannot parse the empty message. -/
theorem queue_semantics_capacityOne :
    ∃ queue events subscriber seen,
      (queueMachine Nat 1).Run Machine.free
          [.push 1, .push 2, .close, .push 3, .pop] queue events ∧
        (subscriberMachine List.head? ⟨.keepLast, 2⟩).Run Machine.free
          [.enqueue [], .enqueue [5], .take, .handle, .take, .handle]
          subscriber seen ∧
        Semantics 1 queue events ∧ popped events = [2] ∧
        callbacks seen = [5] := by
  obtain ⟨queue, events, run, popped⟩ :=
    Machine.run_of_exec_check (queueMachine Nat 1) Machine.free
      [.push 1, .push 2, .close, .push 3, .pop] (.created 1)
      (fun _ events => popped events = [2]) rfl (by decide +kernel)
  obtain ⟨subscriber, seen, subscribed, called⟩ :=
    Machine.run_of_exec_check
      (subscriberMachine List.head? ⟨.keepLast, 2⟩) Machine.free
      [.enqueue [], .enqueue [5], .take, .handle, .take, .handle]
      (.created ⟨.keepLast, 2⟩)
      (fun _ seen => callbacks seen = [5]) rfl (by decide +kernel)
  exact ⟨queue, events, subscriber, seen, run, subscribed,
    (queue_semantics run subscribed).1, of_decide_eq_true popped,
    of_decide_eq_true called⟩

/-! ## What the queue is given and what it gives -/

section Steps

variable {Message : Type} {parse : Bytes → Option Message}
  {subscriber reached : Subscriber} {input : SubscriberInput}
  {seen : List (SubscriberEvent Message)}

/-- A push on an open queue is accepted. -/
theorem accepted_of_enqueue
    {bytes : Bytes} (opened : subscriber.queue.closed = false)
    (stepped : subscriber.step parse (.enqueue bytes) = some (reached, seen)) :
    QueueHistory.accepted (queueEvents seen) = [bytes] ∧
      reached.queue.closed = false ∧
      ∀ refused, .queue (.refused refused) ∉ seen := by
  obtain ⟨⟨queue, events⟩, pushed, equal⟩ := Option.map_eq_some_iff.mp stepped
  cases equal
  have change := BlockingQueue.change_of_step pushed
  cases change with
  | appended _ _ _ same =>
      subst same
      exact ⟨rfl, opened, by simp⟩
  | replaced _ oldest rest _ _ _ _ same =>
      subst same
      exact ⟨rfl, opened, by simp⟩
  | refused _ closed =>
      rw [opened] at closed
      cases closed
  | popped _ _ _ pops =>
      simp at pops
  | nothing _ pops =>
      simp at pops

/-- Only `enqueue` gives the queue a message, and only the destructor closes
it. -/
theorem accepted_of_other
    (other : ∀ bytes, input ≠ .enqueue bytes)
    (stepped : subscriber.step parse input = some (reached, seen)) :
    QueueHistory.accepted (queueEvents seen) = [] ∧
      (input ≠ .close → reached.queue.closed = subscriber.queue.closed) ∧
      ∀ refused, .queue (.refused refused) ∉ seen := by
  cases input with
  | enqueue bytes =>
      exact (other bytes rfl).elim
  | take =>
      simp only [Subscriber.step] at stepped
      split_ifs at stepped
      obtain ⟨⟨queue, held⟩, moved, equal⟩ :=
        Option.map_eq_some_iff.mp stepped
      cases equal
      have popped :
          subscriber.queue.step .pop =
            some (queue, BlockingQueue.taken held) := by
        rw [BlockingQueue.step, moved]
        rfl
      have closed : queue.closed = subscriber.queue.closed := by
        have change := BlockingQueue.change_of_step popped
        generalize BlockingQueue.taken held = events at change
        cases change with
        | popped _ _ _ _ _ same =>
            rw [same]
        | nothing _ _ _ same =>
            rw [same]
      rw [queueEvents_map_queue]
      cases held with
      | none =>
          exact ⟨rfl, fun _ => closed, by simp [BlockingQueue.taken]⟩
      | some bytes =>
          exact ⟨rfl, fun _ => closed, by simp [BlockingQueue.taken]⟩
  | handle =>
      obtain ⟨bytes, busy, equal⟩ := Option.map_eq_some_iff.mp stepped
      cases equal
      cases parse bytes with
      | none =>
          exact ⟨rfl, fun _ => rfl, by simp⟩
      | some message =>
          exact ⟨rfl, fun _ => rfl, by simp⟩
  | close =>
      cases stepped
      exact ⟨rfl, fun open' => (open' rfl).elim, by simp⟩

theorem popped_of_enqueue
    {bytes : Bytes}
    (moved : subscriber.step parse (.enqueue bytes) = some (reached, seen)) :
    popped (queueEvents seen) = [] ∧ callbacks seen = [] ∧
      reached.held = subscriber.held := by
  obtain ⟨⟨queue, queueSeen⟩, pushed, equal⟩ := Option.map_eq_some_iff.mp moved
  cases equal
  have none : popped queueSeen = [] :=
    Subscriber.popped_eq_nil fun _ =>
      Subscriber.dropped_of_push_or_close (Or.inl ⟨bytes, rfl⟩) pushed
  exact ⟨by rw [queueEvents_map_queue, none], callbacks_map_queue _, rfl⟩

theorem popped_of_take
    (moved : subscriber.step parse .take = some (reached, seen)) :
    subscriber.held = none ∧
      popped (queueEvents seen) = reached.held.toList ∧
      callbacks seen = [] := by
  simp only [Subscriber.step] at moved
  split at moved
  · rename_i idle
    obtain ⟨⟨queue, held⟩, _, equal⟩ := Option.map_eq_some_iff.mp moved
    cases equal
    refine ⟨idle.1, ?_, callbacks_map_queue _⟩
    rw [queueEvents_map_queue]
    cases held <;> rfl
  · cases moved

theorem cases_of_handle
    (moved : subscriber.step parse .handle = some (reached, seen)) :
    ∃ bytes, subscriber.held = some bytes ∧ reached.held = none ∧
      ((∃ payload, seen = [.called payload]) ∨ seen = [.unparsed bytes]) := by
  obtain ⟨bytes, busy, equal⟩ := Option.map_eq_some_iff.mp moved
  cases equal
  refine ⟨bytes, busy, rfl, ?_⟩
  cases parse bytes with
  | none =>
      exact Or.inr rfl
  | some payload =>
      exact Or.inl ⟨payload, rfl⟩

/-- What the worker has handled, among what arrived. -/
theorem handled_of_arrivals
    {Tag : Type} {capacity : Nat} {messages : List (Tag × Bytes)}
    {handled : List Bytes}
    (sound :
      QueueHistory.Sound capacity subscriber.queue (queueEvents seen))
    (worked : Subscriber.Worked parse subscriber seen handled)
    (accepted :
      QueueHistory.accepted (queueEvents seen) = messages.map Prod.snd) :
    ∃ taken : List (Tag × Bytes),
      handled = taken.map Prod.snd ∧ taken.Sublist messages ∧
        (capacity = 0 →
          ∃ waiting, messages = taken ++ waiting ∧
            waiting.map Prod.snd =
              subscriber.held.toList ++ subscriber.queue.queue) := by
  have order := sound.order
  rw [accepted] at order
  by_cases unbounded : capacity = 0
  · have undropped := sound.unbounded unbounded
    have allPopped :
        (QueueHistory.removals (queueEvents seen)).map Removal.item =
          QueueHistory.popped (queueEvents seen) := by
      rw [QueueHistory.victims, List.map_eq_nil_iff, List.filter_eq_nil_iff]
        at undropped
      rw [QueueHistory.popped, List.filter_eq_self.mpr]
      intro removal member
      simpa using undropped removal member
    rw [allPopped, worked.popped, List.append_assoc] at order
    obtain ⟨taken, waiting, isWhole, isHandled, isWaiting⟩ :=
      List.map_eq_append_iff.mp order.symm
    refine ⟨taken, isHandled.symm, ?_, fun _ => ⟨waiting, isWhole, isWaiting⟩⟩
    rw [isWhole]
    exact List.sublist_append_left _ _
  · have sublist := sound.popped_sublist
    rw [worked.popped, accepted] at sublist
    have handledSublist :=
      (List.sublist_append_left handled subscriber.held.toList).trans sublist
    obtain ⟨taken, isSublist, isHandled⟩ :=
      List.sublist_map_iff.mp handledSublist
    exact ⟨taken, isHandled, isSublist, fun zero => (unbounded zero).elim⟩

end Steps

/-! ## The depth as a bound -/

/-- A subscriber that keeps the last messages never holds more than `depth` of
them, exactly if the depth is not zero. -/
theorem queue_within_depth_iff
    {Message : Type} (parse : Bytes → Option Message)
    (qos : Qos) (keepLast : qos.history = .keepLast) :
    (∀ inputs subscriber events,
        (subscriberMachine parse qos).Run Machine.free inputs subscriber
          events →
        subscriber.queue.size ≤ qos.depth.toNat) ↔
      0 < qos.depth := by
  have capacity : qos.capacity = qos.depth.toNat := by
    rw [Qos.capacity, if_pos keepLast]
  constructor
  · intro bounded
    by_contra zero
    have none : qos = ⟨.keepLast, 0⟩ := by
      obtain ⟨history, depth⟩ := qos
      simp only [UInt32.not_lt, UInt32.le_zero_iff] at zero
      rw [← keepLast, ← zero]
    subst none
    obtain ⟨subscriber, events, run, held⟩ :=
      Machine.run_of_exec_check (subscriberMachine parse ⟨.keepLast, 0⟩)
        Machine.free [.enqueue []] (.created ⟨.keepLast, 0⟩)
        (fun subscriber _ => subscriber.queue.size = 1) rfl rfl
    have limit := bounded _ _ _ run
    rw [of_decide_eq_true held] at limit
    exact absurd limit (by decide)
  · intro positive inputs subscriber events run
    rw [← capacity]
    refine (subscriber_of_run run).1.bounded ?_
    rw [capacity]
    exact UInt32.lt_iff_toNat_lt.mp positive

theorem queue_within_depth_iff_one :
    ∃ subscriber events,
      (subscriberMachine List.head? ⟨.keepLast, 1⟩).Run Machine.free
          [.enqueue [7], .enqueue [8]] subscriber events ∧
        subscriber.queue.size ≤ 1 := by
  obtain ⟨subscriber, events, run, _⟩ :=
    Machine.run_of_exec_check (subscriberMachine List.head? ⟨.keepLast, 1⟩)
      Machine.free [.enqueue [7], .enqueue [8]] (.created ⟨.keepLast, 1⟩)
      (fun _ _ => true) rfl (by decide +kernel)
  have bounded := (queue_within_depth_iff List.head? ⟨.keepLast, 1⟩ rfl).mpr
  exact ⟨subscriber, events, run, bounded (by decide) _ _ _ run⟩

/-- With depth zero, a message that nobody has taken is held. -/
theorem queue_beyond_depth_zero :
    ¬ ∀ (qos : Qos), qos.history = .keepLast →
        ∀ inputs subscriber events,
          (subscriberMachine List.head? qos).Run Machine.free inputs subscriber
            events →
          subscriber.queue.size ≤ qos.depth.toNat := by
  intro claimed
  obtain ⟨subscriber, events, run, held⟩ :=
    Machine.run_of_exec_check (subscriberMachine List.head? ⟨.keepLast, 0⟩)
      Machine.free [.enqueue [7]] (.created ⟨.keepLast, 0⟩)
      (fun subscriber _ => subscriber.queue.size = 1) rfl (by decide +kernel)
  have limit := claimed ⟨.keepLast, 0⟩ rfl _ _ _ run
  rw [of_decide_eq_true held] at limit
  exact absurd limit (by decide)

end MiniMiddleware.Core
