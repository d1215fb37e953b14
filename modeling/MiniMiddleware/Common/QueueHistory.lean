import MiniMiddleware.Common.BlockingQueue
import MiniMiddleware.Library.Machine

/-!
# Histories of a queue

The critical sections of any number of threads on one queue are the steps of a
machine whose events are what happened to each item.  Items leave the queue at
its front only, either popped or dropped, so at any time the items removed so
far, followed by the items in the queue, are the accepted items in the order
of their pushes.  Everything else about the queue follows from this and from
the number of items that it holds.
-/

namespace MiniMiddleware

open MiniMiddleware.Library

/-- An item that has left the queue. -/
structure Removal (Item : Type) where
  item : Item
  dropped : Bool
  deriving DecidableEq, Repr

/-- What a critical section does. -/
inductive QueueEvent (Item : Type) where
  | accepted (item : Item)
  | refused (item : Item)
  | removed (removal : Removal Item)
  | nothing
  | closed
  deriving DecidableEq, Repr

/-- The critical sections. -/
inductive QueueInput (Item : Type) where
  | push (item : Item)
  | pop
  | tryPop
  | close
  deriving DecidableEq, Repr

namespace QueueHistory

variable {Item : Type}

/-- The accepted pushes. -/
def accepted (events : List (QueueEvent Item)) : List Item :=
  events.filterMap fun
    | .accepted item => some item
    | _ => none

/-- The items that left the queue, popped or dropped. -/
def removals (events : List (QueueEvent Item)) : List (Removal Item) :=
  events.filterMap fun
    | .removed removal => some removal
    | _ => none

/-- The popped items. -/
def popped (events : List (QueueEvent Item)) : List Item :=
  ((removals events).filter fun removal => !removal.dropped).map Removal.item

/-- The dropped items. -/
def victims (events : List (QueueEvent Item)) : List Item :=
  ((removals events).filter Removal.dropped).map Removal.item

@[simp]
theorem accepted_append (earlier later : List (QueueEvent Item)) :
    accepted (earlier ++ later) = accepted earlier ++ accepted later :=
  List.filterMap_append

@[simp]
theorem removals_append (earlier later : List (QueueEvent Item)) :
    removals (earlier ++ later) = removals earlier ++ removals later :=
  List.filterMap_append

@[simp]
theorem popped_append (earlier later : List (QueueEvent Item)) :
    popped (earlier ++ later) = popped earlier ++ popped later := by
  simp [popped]

@[simp]
theorem victims_append (earlier later : List (QueueEvent Item)) :
    victims (earlier ++ later) = victims earlier ++ victims later := by
  simp [victims]

/-- Whatever left the queue was popped or dropped. -/
theorem length_removals (events : List (QueueEvent Item)) :
    (removals events).length =
      (popped events).length + (victims events).length := by
  rw [popped, victims, List.length_map, List.length_map, Nat.add_comm]
  exact List.length_eq_length_filter_add Removal.dropped

end QueueHistory

namespace BlockingQueue

variable {Item : Type}

/-- The item that a push drops: the oldest one of a full queue. -/
def victim (queue : BlockingQueue Item) : List (Removal Item) :=
  if 0 < queue.capacity ∧ queue.capacity ≤ queue.size then
    (queue.queue.take 1).map fun item => ⟨item, true⟩
  else
    []

/-- The events of a pop. -/
def taken : Option Item → List (QueueEvent Item)
  | some item => [.removed ⟨item, false⟩]
  | none => [.nothing]

/-- One critical section. -/
def step (queue : BlockingQueue Item) :
    QueueInput Item → Option (BlockingQueue Item × List (QueueEvent Item))
  | .push item =>
      match queue.push item with
      | (target, true) =>
          some (target,
            queue.victim.map QueueEvent.removed ++ [.accepted item])
      | (target, false) => some (target, [.refused item])
  | .pop => queue.pop.map fun outcome => (outcome.1, taken outcome.2)
  | .tryPop => some (queue.tryPop.1, taken queue.tryPop.2)
  | .close => some (queue.close, [.closed])

end BlockingQueue

/-- A queue of the given capacity and the threads that use it. -/
def queueMachine (Item : Type) (capacity : Nat) :
    Machine (BlockingQueue Item) (QueueInput Item) (QueueEvent Item) where
  initial := fun queue => queue = .created capacity
  step := BlockingQueue.step

namespace BlockingQueue

variable {Item : Type} {queue target : BlockingQueue Item}
  {input : QueueInput Item} {emitted : List (QueueEvent Item)}

/-! ## What a critical section can do -/

/-- Either an item is appended to an open queue, after the oldest one had to
leave a full queue, or the front is popped, or the items stay as they are. -/
inductive Change (queue target : BlockingQueue Item) :
    QueueInput Item → List (QueueEvent Item) → Prop
  | appended (item : Item) :
      queue.closed = false →
      (0 < queue.capacity → queue.size < queue.capacity) →
      target = { queue with queue := queue.queue ++ [item] } →
      Change queue target (.push item) [.accepted item]
  | replaced (item oldest : Item) (rest : List Item) :
      queue.closed = false →
      0 < queue.capacity →
      queue.capacity ≤ queue.size →
      queue.queue = oldest :: rest →
      target =
        { queue with
          queue := rest ++ [item]
          dropped := queue.dropped + 1 } →
      Change queue target (.push item)
        [.removed ⟨oldest, true⟩, .accepted item]
  | refused (item : Item) :
      queue.closed = true →
      target = queue →
      Change queue target (.push item) [.refused item]
  | popped (input : QueueInput Item) (item : Item) (rest : List Item) :
      input = .pop ∨ input = .tryPop →
      queue.queue = item :: rest →
      target = { queue with queue := rest } →
      Change queue target input [.removed ⟨item, false⟩]
  | nothing (input : QueueInput Item) :
      input = .pop ∨ input = .tryPop →
      queue.queue = [] →
      target = queue →
      Change queue target input [.nothing]
  | closed :
      target = queue.close →
      Change queue target .close [.closed]

theorem change_of_step
    (stepped : queue.step input = some (target, emitted)) :
    Change queue target input emitted := by
  cases input with
  | push item =>
      by_cases closed : queue.closed = true
      · simp only [step, push, if_pos closed] at stepped
        cases stepped
        exact .refused item closed rfl
      have opened := Bool.eq_false_iff.mpr closed
      by_cases full : 0 < queue.capacity ∧ queue.capacity ≤ queue.size
      · have full' :
            0 < queue.capacity ∧ queue.capacity ≤ queue.queue.length := full
        simp only [step, push, victim, if_neg closed, if_pos full,
          if_pos full'] at stepped
        cases items : queue.queue with
        | nil =>
            rw [items] at full'
            simp only [List.length_nil] at full'
            omega
        | cons oldest rest =>
            rw [items] at stepped
            cases stepped
            exact .replaced item oldest rest opened full.1 full.2 items rfl
      · have full' :
            ¬(0 < queue.capacity ∧ queue.capacity ≤ queue.queue.length) := full
        simp only [step, push, victim, if_neg closed, if_neg full,
          if_neg full'] at stepped
        cases stepped
        exact .appended item opened (fun positive => by omega) rfl
  | pop =>
      obtain ⟨outcome, found, equal⟩ := Option.map_eq_some_iff.mp stepped
      cases equal
      unfold pop at found
      split at found
      · rename_i item rest items
        cases found
        exact .popped _ item rest (Or.inl rfl) items rfl
      · rename_i items
        split_ifs at found
        cases found
        exact .nothing _ (Or.inl rfl) items rfl
  | tryPop =>
      cases items : queue.queue with
      | nil =>
          simp only [step, tryPop, items] at stepped
          cases stepped
          exact .nothing _ (Or.inr rfl) items rfl
      | cons item rest =>
          simp only [step, tryPop, items] at stepped
          cases stepped
          exact .popped _ item rest (Or.inr rfl) items rfl
  | close =>
      cases stepped
      exact .closed rfl

end BlockingQueue

/-! ## Whole histories -/

namespace QueueHistory

variable {Item : Type}

/-- A queue of the given capacity and its history. -/
structure Sound (capacity : Nat) (queue : BlockingQueue Item)
    (events : List (QueueEvent Item)) : Prop where
  limit : queue.capacity = capacity
  order :
    (removals events).map Removal.item ++ queue.queue = accepted events
  counted : queue.dropped = (victims events).length
  bounded : 0 < capacity → queue.size ≤ capacity
  unbounded : capacity = 0 → victims events = []

theorem sound_created (capacity : Nat) :
    Sound capacity (BlockingQueue.created capacity : BlockingQueue Item) [] :=
  ⟨rfl, rfl, rfl, fun _ => Nat.zero_le _, fun _ => rfl⟩

variable {capacity : Nat} {queue target : BlockingQueue Item}
  {input : QueueInput Item} {events emitted : List (QueueEvent Item)}

theorem Sound.quiet
    (sound : Sound capacity queue events)
    (limit : target.capacity = queue.capacity)
    (items : target.queue = queue.queue)
    (counter : target.dropped = queue.dropped)
    (noneAccepted : accepted emitted = [])
    (noneRemoved : removals emitted = []) :
    Sound capacity target (events ++ emitted) := by
  have same : removals (events ++ emitted) = removals events := by
    rw [removals_append, noneRemoved, List.append_nil]
  have dropped : victims (events ++ emitted) = victims events := by
    rw [victims, same, victims]
  refine ⟨limit.trans sound.limit, ?_, ?_, ?_, ?_⟩
  · rw [same, accepted_append, noneAccepted, List.append_nil, items]
    exact sound.order
  · rw [dropped, counter]
    exact sound.counted
  · rw [BlockingQueue.size, items]
    exact sound.bounded
  · rw [dropped]
    exact sound.unbounded

theorem Sound.change
    (sound : Sound capacity queue events)
    (change : BlockingQueue.Change queue target input emitted) :
    Sound capacity target (events ++ emitted) := by
  have order := sound.order
  cases change with
  | appended item _ room equal =>
      subst equal
      refine ⟨sound.limit, ?_, ?_, fun positive => ?_, fun zero => ?_⟩
      · simpa [removals, accepted] using
          congrArg (fun items => items ++ [item]) order
      · simpa [victims, removals] using sound.counted
      · have place := room (sound.limit ▸ positive)
        have limit := sound.limit
        simp only [BlockingQueue.size, List.length_append,
          List.length_singleton] at place ⊢
        omega
      · simpa [victims, removals] using sound.unbounded zero
  | replaced item oldest rest _ positive full items equal =>
      subst equal
      refine ⟨sound.limit, ?_, ?_, fun positive => ?_, fun zero => ?_⟩
      · rw [items] at order
        simpa [removals, accepted] using
          congrArg (fun items => items ++ [item]) order
      · simpa [victims, removals] using sound.counted
      · have limit := sound.bounded positive
        simp only [BlockingQueue.size, items, List.length_append,
          List.length_cons, List.length_nil] at limit ⊢
        omega
      · have limit := sound.limit
        omega
  | popped _ item rest _ items equal =>
      subst equal
      refine ⟨sound.limit, ?_, ?_, fun positive => ?_, fun zero => ?_⟩
      · rw [items] at order
        simpa [removals, accepted] using order
      · simpa [victims, removals] using sound.counted
      · have limit := sound.bounded positive
        simp only [BlockingQueue.size, items, List.length_cons] at limit ⊢
        omega
      · simpa [victims, removals] using sound.unbounded zero
  | refused item _ equal =>
      subst equal
      exact sound.quiet rfl rfl rfl rfl rfl
  | nothing _ _ _ equal =>
      subst equal
      exact sound.quiet rfl rfl rfl rfl rfl
  | closed equal =>
      subst equal
      exact sound.quiet rfl rfl rfl rfl rfl

theorem sound_of_run
    {inputs : List (QueueInput Item)}
    (run : (queueMachine Item capacity).Run Machine.free inputs queue events) :
    Sound capacity queue events := by
  refine run.invariant (fun queue events => Sound capacity queue events) ?_ ?_
  · rintro queue rfl
    exact sound_created capacity
  · intro queue events input target emitted sound _ stepped
    exact sound.change (BlockingQueue.change_of_step stepped)

/-- The popped items are accepted items in the order of their pushes. -/
theorem Sound.popped_sublist (sound : Sound capacity queue events) :
    (popped events).Sublist (accepted events) := by
  rw [← sound.order]
  exact (List.filter_sublist.map Removal.item).trans
    (List.sublist_append_left _ _)

/-- Every accepted item was popped, was dropped or is still queued. -/
theorem Sound.length_accepted (sound : Sound capacity queue events) :
    (accepted events).length =
      (popped events).length + queue.dropped + queue.size := by
  rw [← sound.order, List.length_append, List.length_map, length_removals,
    sound.counted]
  rfl

/-- The queue holds the most recent accepted items. -/
theorem Sound.queue_eq (sound : Sound capacity queue events) :
    queue.queue =
      (accepted events).drop ((accepted events).length - queue.size) := by
  rw [← sound.order]
  refine (List.drop_left' ?_).symm
  rw [List.length_append]
  exact (Nat.add_sub_cancel _ _).symm

/-- Only a push on a full queue drops an item, and that is the oldest one. -/
theorem Sound.dropped_of_step
    (sound : Sound capacity queue events)
    (stepped : queue.step input = some (target, emitted))
    {item : Item} (member : .removed ⟨item, true⟩ ∈ emitted) :
    (∃ pushed, input = .push pushed) ∧ 0 < capacity ∧
      queue.size = capacity ∧ queue.queue.head? = some item := by
  have change := BlockingQueue.change_of_step stepped
  cases change with
  | replaced pushed oldest rest _ positive full items _ =>
      have same : item = oldest := by simpa using member
      subst same
      rw [sound.limit] at positive full
      have limit := sound.bounded positive
      exact ⟨⟨pushed, rfl⟩, positive, by omega, by rw [items]; rfl⟩
  | _ =>
      simp at member

/-! ## After `close` -/

/-- A closed queue accepts and drops nothing; its items are popped in
order. -/
structure Draining (queue target : BlockingQueue Item)
    (emitted : List (QueueEvent Item)) : Prop where
  closed : target.closed = true
  noneAccepted : accepted emitted = []
  noneDropped : victims emitted = []
  inOrder : popped emitted ++ target.queue = queue.queue

theorem Draining.trans
    {first second third : BlockingQueue Item}
    {earlier later : List (QueueEvent Item)}
    (before : Draining first second earlier)
    (after : Draining second third later) :
    Draining first third (earlier ++ later) := by
  refine ⟨after.closed, ?_, ?_, ?_⟩
  · rw [accepted_append, before.noneAccepted, after.noneAccepted, List.append_nil]
  · rw [victims_append, before.noneDropped, after.noneDropped, List.append_nil]
  · rw [popped_append, List.append_assoc, after.inOrder, before.inOrder]

theorem draining_of_change
    (closed : queue.closed = true)
    (change : BlockingQueue.Change queue target input emitted) :
    Draining queue target emitted := by
  cases change with
  | appended item opened =>
      rw [closed] at opened
      cases opened
  | replaced item oldest rest opened =>
      rw [closed] at opened
      cases opened
  | refused item _ equal =>
      subst equal
      exact ⟨closed, rfl, rfl, rfl⟩
  | popped _ item rest _ items equal =>
      subst equal
      exact ⟨closed, rfl, rfl, items.symm⟩
  | nothing _ _ _ equal =>
      subst equal
      exact ⟨closed, rfl, rfl, rfl⟩
  | closed equal =>
      subst equal
      exact ⟨rfl, rfl, rfl, rfl⟩

theorem draining_of_exec
    {inputs : List (QueueInput Item)}
    (closed : queue.closed = true)
    (executed :
      (queueMachine Item capacity).exec Machine.free queue inputs =
        some (target, emitted)) :
    Draining queue target emitted := by
  refine Machine.exec_relation
    (fun queue emitted target =>
      queue.closed = true → Draining queue target emitted)
    (fun _ closed => ⟨closed, rfl, rfl, rfl⟩) ?_ executed closed
  intro queue input middle target emitted events _ _ stepped later closed
  have first := draining_of_change closed (BlockingQueue.change_of_step stepped)
  exact first.trans (later first.closed)

/-- The queue of a given capacity, seen from its history: what it has popped
and dropped, what it holds, what it drops next, and what it does once it is
closed. -/
structure Semantics (capacity : Nat) (queue : BlockingQueue Item)
    (events : List (QueueEvent Item)) : Prop where
  inOrder : (popped events).Sublist (accepted events)
  everyItem :
    (removals events).map Removal.item ++ queue.queue = accepted events
  counted :
    (accepted events).length =
      (popped events).length + queue.dropped + queue.size
  bounded : 0 < capacity → queue.size ≤ capacity
  mostRecent :
    queue.queue =
      (accepted events).drop ((accepted events).length - queue.size)
  dropsOldest :
    ∀ input target emitted item,
      queue.step input = some (target, emitted) →
      .removed ⟨item, true⟩ ∈ emitted →
      (∃ pushed, input = .push pushed) ∧ 0 < capacity ∧
        queue.size = capacity ∧ queue.queue.head? = some item
  neverDrops : capacity = 0 → queue.dropped = 0 ∧ victims events = []
  refusesClosed :
    queue.closed = true → ∀ item, queue.push item = (queue, false)
  popsClosed :
    queue.closed = true →
      queue.pop =
          some ({ queue with queue := queue.queue.tail }, queue.queue.head?) ∧
        queue.tryPop =
          ({ queue with queue := queue.queue.tail }, queue.queue.head?)
  drains :
    queue.closed = true →
      ∀ later target emitted,
        (queueMachine Item capacity).exec Machine.free queue later =
          some (target, emitted) →
        Draining queue target emitted

theorem pop_of_closed (closed : queue.closed = true) :
    queue.pop =
        some ({ queue with queue := queue.queue.tail }, queue.queue.head?) ∧
      queue.tryPop =
        ({ queue with queue := queue.queue.tail }, queue.queue.head?) := by
  obtain ⟨capacity, items, dropped, isClosed⟩ := queue
  cases items with
  | nil =>
      simp only at closed
      simp [BlockingQueue.pop, BlockingQueue.tryPop, closed]
  | cons item rest =>
      exact ⟨rfl, rfl⟩

theorem Sound.semantics (sound : Sound capacity queue events) :
    Semantics capacity queue events where
  inOrder := sound.popped_sublist
  everyItem := sound.order
  counted := sound.length_accepted
  bounded := sound.bounded
  mostRecent := sound.queue_eq
  dropsOldest _ _ _ _ stepped member := sound.dropped_of_step stepped member
  neverDrops zero := by
    have none := sound.unbounded zero
    exact ⟨by rw [sound.counted, none]; rfl, none⟩
  refusesClosed closed item := by
    rw [BlockingQueue.push, if_pos closed]
  popsClosed := pop_of_closed
  drains closed _ _ _ executed := draining_of_exec closed executed

end QueueHistory

end MiniMiddleware
