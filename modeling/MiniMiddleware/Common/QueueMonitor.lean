import MiniMiddleware.Common.QueueHistory
import MiniMiddleware.Library.Monitor

/-!
# The queue behind its mutex

`push` and `close` change the queue in a critical section and call the condition
variable behind it; `pop` and `try_pop` wait in the loop of `wait` and
`wait_for`, whose predicate is looked at under the mutex.  Threads may wake up
by themselves, and `try_pop` wakes up when its time is over.

The queue that `QueueHistory` speaks of has critical sections only.  Here every
run of the threads is shown to be a run of it.
-/

namespace MiniMiddleware

open MiniMiddleware.Library
open MiniMiddleware.QueueHistory

/-- A thread in `pop` or `try_pop`; `expired` says that its time is over. -/
structure Popper where
  thread : Nat
  timed : Bool
  expired : Bool
  deriving DecidableEq, Repr

/-- The critical sections, the calls of the condition variable behind them, and
what wakes a thread without a call. -/
inductive PopperInput (Item : Type) where
  | push (item : Item)
  | close
  | notifyOne (woken : Option Popper)
  | notifyAll
  | enter (thread : Nat) (timed : Bool)
  | look (popper : Popper)
  | wake (popper : Popper)
  | expire (popper : Popper)
  deriving DecidableEq, Repr

/-- What the threads do that are inside a call already. -/
def PopperInput.IsInternal {Item : Type} : PopperInput Item → Prop
  | .notifyOne _ => True
  | .notifyAll => True
  | .look _ => True
  | _ => False

/-- What happens in the queue, and what `pop` or `try_pop` returns. -/
inductive PopperEvent (Item : Type) where
  | queue (event : QueueEvent Item)
  | returned (popper : Popper) (item : Option Item)
  deriving DecidableEq, Repr

/-- The queue, its mutex and its condition variable. -/
abbrev QueueMonitor (Item : Type) :=
  Monitor (BlockingQueue Item) Popper

namespace QueueMonitor

variable {Item : Type}

/-- The body of the waiting loop under the mutex: without an item, a thread
waits on while the queue is open and its time is not over. -/
def verdict (queue : BlockingQueue Item) (popper : Popper) :
    Option (BlockingQueue Item) :=
  if queue.queue = [] ∧ queue.closed = false ∧ popper.expired = false then
    none
  else
    some queue.tryPop.1

/-- What a thread that leaves the loop returns. -/
def answer (queue : BlockingQueue Item) (popper : Popper) :
    List (PopperEvent Item) :=
  match verdict queue popper with
  | none => []
  | some _ =>
      (BlockingQueue.taken queue.tryPop.2).map .queue ++
        [.returned popper queue.tryPop.2]

/-- A thread is in one call at most. -/
def waits (monitor : QueueMonitor Item) (thread : Nat) : Bool :=
  monitor.waiting.any fun popper => popper.thread = thread

/-- One step. -/
def step (monitor : QueueMonitor Item) :
    PopperInput Item → Option (QueueMonitor Item × List (PopperEvent Item))
  | .push item =>
      match monitor.data.push item with
      | (queue, true) =>
          some (monitor.update queue 1 0,
            (monitor.data.victim.map QueueEvent.removed ++
              [QueueEvent.accepted item]).map .queue)
      | (_, false) => some (monitor, [.queue (.refused item)])
  | .close =>
      some (monitor.update monitor.data.close 0 1, [.queue .closed])
  | .notifyOne woken => (monitor.notifyOne woken).map fun after => (after, [])
  | .notifyAll => monitor.notifyAll.map fun after => (after, [])
  | .enter thread timed =>
      if waits monitor thread then
        none
      else
        some (monitor.enter ⟨thread, timed, false⟩, [])
  | .look popper =>
      (monitor.look verdict popper).map fun after =>
        (after, answer monitor.data popper)
  | .wake popper =>
      (monitor.rouse popper popper).map fun after => (after, [])
  | .expire popper =>
      if popper.timed then
        (monitor.rouse popper { popper with expired := true }).map
          fun after => (after, [])
      else
        none

end QueueMonitor

/-- A queue of the given capacity, with the threads that push, pop and close. -/
def popperMachine (Item : Type) (capacity : Nat) :
    Machine (QueueMonitor Item) (PopperInput Item) (PopperEvent Item) where
  initial := fun monitor => monitor = Monitor.unused (.created capacity)
  step := QueueMonitor.step

section Projections

variable {Item : Type}

/-- What happens in the queue. -/
def queueHistoryOf (events : List (PopperEvent Item)) : List (QueueEvent Item) :=
  events.filterMap fun
    | .queue event => some event
    | .returned _ _ => none

/-- What the calls of `pop` and `try_pop` return, by thread. -/
def returnsOf (events : List (PopperEvent Item)) :
    List (Popper × Option Item) :=
  events.filterMap fun
    | .queue _ => none
    | .returned popper item => some (popper, item)

@[simp]
theorem queueHistoryOf_append (earlier later : List (PopperEvent Item)) :
    queueHistoryOf (earlier ++ later) =
      queueHistoryOf earlier ++ queueHistoryOf later :=
  List.filterMap_append

@[simp]
theorem returnsOf_append (earlier later : List (PopperEvent Item)) :
    returnsOf (earlier ++ later) = returnsOf earlier ++ returnsOf later :=
  List.filterMap_append

@[simp]
theorem queueHistoryOf_map_queue (events : List (QueueEvent Item)) :
    queueHistoryOf (events.map .queue) = events := by
  simp [queueHistoryOf, List.filterMap_map]

@[simp]
theorem returnsOf_map_queue (events : List (QueueEvent Item)) :
    returnsOf (events.map .queue) = [] := by
  simp [returnsOf, List.filterMap_map]

end Projections

/-! ## Runs of the queue -/

namespace QueueMonitor

variable {Item : Type} {monitor after : QueueMonitor Item}
  {input : PopperInput Item} {events emitted : List (PopperEvent Item)}

/-- Who looks at a queue without an item, open and in time, sees nothing. -/
theorem verdict_eq_none_iff {queue : BlockingQueue Item} {popper : Popper} :
    verdict queue popper = none ↔
      queue.queue = [] ∧ queue.closed = false ∧ popper.expired = false := by
  unfold verdict
  split_ifs with waiting
  · exact iff_of_true rfl waiting
  · exact iff_of_false nofun waiting

theorem verdict_eq_some
    {queue found : BlockingQueue Item} {popper : Popper}
    (decided : verdict queue popper = some found) :
    found = queue.tryPop.1 := by
  unfold verdict at decided
  split_ifs at decided
  exact (Option.some.inj decided).symm

/-- A step is a critical section of the queue, or the queue does not notice. -/
def Mirrored (monitor after : QueueMonitor Item)
    (emitted : List (PopperEvent Item)) : Prop :=
  (∃ input,
      monitor.data.step input = some (after.data, queueHistoryOf emitted)) ∨
    (after.data = monitor.data ∧ queueHistoryOf emitted = [])

theorem mirrored_of_step
    (stepped : monitor.step input = some (after, emitted)) :
    Mirrored monitor after emitted := by
  cases input with
  | push item =>
      left
      refine ⟨.push item, ?_⟩
      simp only [step] at stepped
      split at stepped
      · rename_i queue pushed
        cases stepped
        rw [queueHistoryOf_map_queue, BlockingQueue.step, pushed]
        rfl
      · rename_i queue pushed
        cases stepped
        have unchanged : queue = monitor.data := by
          unfold BlockingQueue.push at pushed
          split_ifs at pushed
          · cases pushed
            rfl
          · cases (Prod.mk.inj pushed).2
          · cases (Prod.mk.inj pushed).2
        rw [BlockingQueue.step, pushed, unchanged]
        rfl
  | close =>
      cases stepped
      exact Or.inl ⟨.close, rfl⟩
  | notifyOne woken =>
      obtain ⟨reached, moved, equal⟩ := Option.map_eq_some_iff.mp stepped
      cases equal
      exact Or.inr ⟨(Monitor.perm_of_notifyOne moved).2, rfl⟩
  | notifyAll =>
      obtain ⟨reached, moved, equal⟩ := Option.map_eq_some_iff.mp stepped
      cases equal
      exact Or.inr ⟨(Monitor.perm_of_notifyAll moved).2, rfl⟩
  | enter thread timed =>
      simp only [step] at stepped
      split_ifs at stepped
      cases stepped
      exact Or.inr ⟨rfl, rfl⟩
  | look popper =>
      obtain ⟨reached, moved, equal⟩ := Option.map_eq_some_iff.mp stepped
      cases equal
      rcases (Monitor.perm_of_look moved).2 with
        ⟨waiting, _, same⟩ | ⟨decided, _⟩
      · right
        rw [answer, waiting]
        exact ⟨same, rfl⟩
      · left
        refine ⟨.tryPop, ?_⟩
        rw [answer, decided, BlockingQueue.step, verdict_eq_some decided,
          queueHistoryOf_append, queueHistoryOf_map_queue]
        simp [queueHistoryOf]
  | wake popper =>
      obtain ⟨reached, moved, equal⟩ := Option.map_eq_some_iff.mp stepped
      cases equal
      exact Or.inr ⟨(Monitor.perm_of_rouse moved).2.2, rfl⟩
  | expire popper =>
      simp only [step] at stepped
      split_ifs at stepped
      obtain ⟨reached, moved, equal⟩ := Option.map_eq_some_iff.mp stepped
      cases equal
      exact Or.inr ⟨(Monitor.perm_of_rouse moved).2.2, rfl⟩

theorem popped_of_step
    (stepped : monitor.step input = some (after, emitted)) :
    popped (queueHistoryOf emitted) =
      (returnsOf emitted).filterMap Prod.snd := by
  cases input with
  | push item =>
      simp only [step] at stepped
      split at stepped
      · cases stepped
        rw [queueHistoryOf_map_queue, returnsOf_map_queue]
        unfold BlockingQueue.victim
        split_ifs
        · cases monitor.data.queue with
          | nil =>
              rfl
          | cons oldest rest =>
              rfl
        · rfl
      · cases stepped
        rfl
  | close =>
      cases stepped
      rfl
  | notifyOne woken =>
      obtain ⟨reached, _, equal⟩ := Option.map_eq_some_iff.mp stepped
      cases equal
      rfl
  | notifyAll =>
      obtain ⟨reached, _, equal⟩ := Option.map_eq_some_iff.mp stepped
      cases equal
      rfl
  | enter thread timed =>
      simp only [step] at stepped
      split_ifs at stepped
      cases stepped
      rfl
  | look popper =>
      obtain ⟨reached, _, equal⟩ := Option.map_eq_some_iff.mp stepped
      cases equal
      unfold answer
      split
      · rfl
      · rw [queueHistoryOf_append, returnsOf_append, queueHistoryOf_map_queue,
          returnsOf_map_queue]
        cases monitor.data.tryPop.2 with
        | none =>
            rfl
        | some item =>
            rfl
  | wake popper =>
      obtain ⟨reached, _, equal⟩ := Option.map_eq_some_iff.mp stepped
      cases equal
      rfl
  | expire popper =>
      simp only [step] at stepped
      split_ifs at stepped
      obtain ⟨reached, _, equal⟩ := Option.map_eq_some_iff.mp stepped
      cases equal
      rfl

/-- Only a thread with a time limit runs out of time, and without one `pop`
only returns nothing when the queue is closed. -/
structure Timed (monitor : QueueMonitor Item)
    (events : List (PopperEvent Item)) : Prop where
  expired :
    ∀ popper ∈ monitor.waiting, popper.expired = true → popper.timed = true
  returned :
    ∀ popper, (popper, none) ∈ returnsOf events → popper.timed = false →
      monitor.data.closed = true ∧ monitor.data.queue = []

/-- A step that returns nothing and at most changes who waits. -/
theorem Timed.quiet
    (timed : Timed monitor events)
    (waiting : ∀ popper ∈ after.waiting, popper ∈ monitor.waiting ∨
      (popper.expired = true → popper.timed = true))
    (data :
      monitor.data.closed = true → monitor.data.queue = [] →
        after.data.closed = true ∧ after.data.queue = [])
    (none : returnsOf emitted = []) :
    Timed after (events ++ emitted) := by
  constructor
  · intro popper member expired
    rcases waiting popper member with before | isTimed
    · exact timed.expired popper before expired
    · exact isTimed expired
  · intro popper member untimed
    rw [returnsOf_append, none, List.append_nil] at member
    have before := timed.returned popper member untimed
    exact data before.1 before.2

/-- An item is accepted only by an open queue. -/
theorem opened_of_push
    {queue target : BlockingQueue Item} {item : Item}
    (pushed : queue.push item = (target, true)) : queue.closed = false := by
  unfold BlockingQueue.push at pushed
  split_ifs at pushed with closed
  · cases (Prod.mk.inj pushed).2
  · exact Bool.eq_false_iff.mpr closed
  · exact Bool.eq_false_iff.mpr closed

theorem tryPop_of_empty
    {queue : BlockingQueue Item} (empty : queue.queue = []) :
    queue.tryPop = (queue, none) := by
  unfold BlockingQueue.tryPop
  rw [empty]

/-- Who leaves the loop with nothing has found no item, and the queue closed or
its time over. -/
theorem reason_of_nothing
    {queue found : BlockingQueue Item} {popper : Popper}
    (decided : verdict queue popper = some found)
    (nothing : queue.tryPop.2 = none) :
    queue.queue = [] ∧ (queue.closed = true ∨ popper.expired = true) := by
  have empty : queue.queue = [] := by
    unfold BlockingQueue.tryPop at nothing
    split at nothing
    · cases nothing
    · assumption
  refine ⟨empty, ?_⟩
  by_contra neither
  rw [not_or, Bool.not_eq_true, Bool.not_eq_true] at neither
  have waits : verdict queue popper = none :=
    verdict_eq_none_iff.mpr ⟨empty, neither⟩
  rw [waits] at decided
  cases decided

theorem Timed.look
    (timed : Timed monitor events) {popper : Popper}
    (moved : monitor.look verdict popper = some after) :
    Timed after (events ++ answer monitor.data popper) := by
  obtain ⟨present, outcome⟩ := Monitor.perm_of_look moved
  rcases outcome with ⟨waiting, same, data⟩ | ⟨decided, left⟩
  · rw [answer, waiting]
    refine timed.quiet (fun other member => Or.inl (same.mem_iff.mp member)) ?_
      rfl
    intro closed empty
    rw [data]
    exact ⟨closed, empty⟩
  · have popped := verdict_eq_some decided
    have stays :
        monitor.data.closed = true ∧ monitor.data.queue = [] →
          after.data.closed = true ∧ after.data.queue = [] := by
      intro drained
      rw [popped, tryPop_of_empty drained.2]
      exact drained
    constructor
    · intro other member expired
      have before := left.mem_iff.mp (List.mem_cons_of_mem popper member)
      exact timed.expired other before expired
    · intro other member untimed
      apply stays
      rw [returnsOf_append] at member
      rcases List.mem_append.mp member with before | returned
      · exact timed.returned other before untimed
      · have isReturn :
            (other, none) = (popper, monitor.data.tryPop.2) := by
          rw [answer, decided, returnsOf_append, returnsOf_map_queue]
            at returned
          exact List.mem_singleton.mp returned
        obtain ⟨same, nothing⟩ := Prod.mk.inj isReturn
        subst same
        obtain ⟨empty, closed | expired⟩ :=
          reason_of_nothing decided nothing.symm
        · exact ⟨closed, empty⟩
        · have isTimed := timed.expired other present expired
          rw [isTimed] at untimed
          cases untimed

theorem Timed.step
    (timed : Timed monitor events)
    (stepped : monitor.step input = some (after, emitted)) :
    Timed after (events ++ emitted) := by
  cases input with
  | push item =>
      simp only [QueueMonitor.step] at stepped
      split at stepped
      · rename_i queue pushed
        cases stepped
        refine timed.quiet (fun _ member => Or.inl member) ?_
          (returnsOf_map_queue _)
        intro closed _
        rw [opened_of_push pushed] at closed
        cases closed
      · cases stepped
        exact timed.quiet (fun _ member => Or.inl member)
          (fun closed empty => ⟨closed, empty⟩) rfl
  | close =>
      cases stepped
      exact timed.quiet (fun _ member => Or.inl member)
        (fun _ empty => ⟨rfl, empty⟩) rfl
  | notifyOne woken =>
      obtain ⟨reached, moved, equal⟩ := Option.map_eq_some_iff.mp stepped
      cases equal
      obtain ⟨same, data⟩ := Monitor.perm_of_notifyOne moved
      refine timed.quiet (fun _ member => Or.inl (same.mem_iff.mp member)) ?_
        rfl
      rw [data]
      exact fun closed empty => ⟨closed, empty⟩
  | notifyAll =>
      obtain ⟨reached, moved, equal⟩ := Option.map_eq_some_iff.mp stepped
      cases equal
      obtain ⟨same, data⟩ := Monitor.perm_of_notifyAll moved
      refine timed.quiet (fun _ member => Or.inl (same ▸ member)) ?_ rfl
      rw [data]
      exact fun closed empty => ⟨closed, empty⟩
  | enter thread isTimed =>
      simp only [QueueMonitor.step] at stepped
      split_ifs at stepped
      cases stepped
      refine timed.quiet (fun popper member => ?_)
        (fun closed empty => ⟨closed, empty⟩) rfl
      rcases List.mem_append.mp member with asleep | awake
      · exact Or.inl (List.mem_append_left _ asleep)
      · rcases List.mem_cons.mp awake with isNew | awake
        · right
          intro expired
          rw [isNew] at expired
          cases expired
        · exact Or.inl (List.mem_append_right _ awake)
  | look popper =>
      obtain ⟨reached, moved, equal⟩ := Option.map_eq_some_iff.mp stepped
      cases equal
      exact timed.look moved
  | wake popper =>
      obtain ⟨reached, moved, equal⟩ := Option.map_eq_some_iff.mp stepped
      cases equal
      obtain ⟨present, same, data⟩ := Monitor.perm_of_rouse moved
      refine timed.quiet (fun other member => ?_) ?_ rfl
      · left
        rcases List.mem_cons.mp (same.mem_iff.mp member) with isRoused | other
        · rw [isRoused]
          exact present
        · exact List.mem_of_mem_erase other
      · rw [data]
        exact fun closed empty => ⟨closed, empty⟩
  | expire popper =>
      simp only [QueueMonitor.step] at stepped
      split_ifs at stepped with isTimed
      obtain ⟨reached, moved, equal⟩ := Option.map_eq_some_iff.mp stepped
      cases equal
      obtain ⟨_, same, data⟩ := Monitor.perm_of_rouse moved
      refine timed.quiet (fun other member => ?_) ?_ rfl
      · rcases List.mem_cons.mp (same.mem_iff.mp member) with isRoused | other
        · right
          intro _
          rw [isRoused]
          exact isTimed
        · exact Or.inl (List.mem_of_mem_erase other)
      · rw [data]
        exact fun closed empty => ⟨closed, empty⟩

/-! ## No lost wakeups -/

/-- How many threads could leave the loop: as many as there are items, and all
of them once the queue is closed. -/
def tickets (queue : BlockingQueue Item) : ℕ∞ :=
  if queue.closed then ⊤ else queue.size

theorem tickets_of_opened
    {queue : BlockingQueue Item} (opened : queue.closed = false) :
    tickets queue = queue.size := by
  rw [tickets, opened]
  rfl

theorem tickets_of_closed
    {queue : BlockingQueue Item} (closed : queue.closed = true) :
    tickets queue = ⊤ := by
  rw [tickets, closed]
  rfl

theorem tickets_eq_zero_iff {queue : BlockingQueue Item} :
    tickets queue = 0 ↔ queue.queue = [] ∧ queue.closed = false := by
  cases closed : queue.closed with
  | true =>
      rw [tickets_of_closed closed]
      simp
  | false =>
      rw [tickets_of_opened closed]
      simp [BlockingQueue.size]

theorem tickets_of_push
    {queue target : BlockingQueue Item} {item : Item}
    (pushed : queue.push item = (target, true)) :
    tickets target ≤ tickets queue + (1 : ℕ) := by
  have opened := opened_of_push pushed
  have closing : target.closed = queue.closed := by
    unfold BlockingQueue.push at pushed
    split_ifs at pushed
    all_goals
      rw [← (Prod.mk.inj pushed).1]
  rw [tickets_of_opened opened, tickets_of_opened (closing.trans opened),
    ← Nat.cast_add, Nat.cast_le]
  unfold BlockingQueue.push at pushed
  split_ifs at pushed
  · cases (Prod.mk.inj pushed).2
  · rw [← (Prod.mk.inj pushed).1]
    simp only [BlockingQueue.size, List.length_append, List.length_drop,
      List.length_singleton]
    omega
  · rw [← (Prod.mk.inj pushed).1]
    simp [BlockingQueue.size]

/-- A pop uses up a ticket, or there was none. -/
theorem tickets_of_tryPop (queue : BlockingQueue Item) :
    tickets queue.tryPop.1 + 1 ≤ tickets queue ∨
      tickets queue.tryPop.1 = 0 := by
  cases closed : queue.closed with
  | true =>
      left
      rw [tickets_of_closed closed]
      exact le_top
  | false =>
      cases items : queue.queue with
      | nil =>
          right
          rw [tryPop_of_empty items]
          exact tickets_eq_zero_iff.mpr ⟨items, closed⟩
      | cons item rest =>
          left
          have popped : queue.tryPop.1 = { queue with queue := rest } := by
            unfold BlockingQueue.tryPop
            rw [items]
          have stays : queue.tryPop.1.closed = false := by
            rw [popped]
            exact closed
          rw [tickets_of_opened closed, tickets_of_opened stays, popped]
          simp [BlockingQueue.size, items]

theorem covered_of_step
    (covered : Monitor.Covered tickets monitor)
    (stepped : monitor.step input = some (after, emitted)) :
    Monitor.Covered tickets after := by
  cases input with
  | push item =>
      simp only [step] at stepped
      split at stepped
      · rename_i queue pushed
        cases stepped
        exact covered.update (Or.inl (tickets_of_push pushed))
      · cases stepped
        exact covered
  | close =>
      cases stepped
      exact covered.update (Or.inr Nat.one_pos)
  | notifyOne woken =>
      obtain ⟨reached, moved, equal⟩ := Option.map_eq_some_iff.mp stepped
      cases equal
      exact covered.notifyOne moved
  | notifyAll =>
      obtain ⟨reached, moved, equal⟩ := Option.map_eq_some_iff.mp stepped
      cases equal
      exact Monitor.covered_of_notifyAll moved
  | enter thread timed =>
      simp only [step] at stepped
      split_ifs at stepped
      cases stepped
      exact covered.enter _
  | look popper =>
      obtain ⟨reached, moved, equal⟩ := Option.map_eq_some_iff.mp stepped
      cases equal
      refine covered.look ?_ ?_ moved
      · intro waits
        obtain ⟨empty, opened, _⟩ := verdict_eq_none_iff.mp waits
        exact tickets_eq_zero_iff.mpr ⟨empty, opened⟩
      · intro found decided
        rw [verdict_eq_some decided]
        exact Or.inr (tickets_of_tryPop monitor.data)
  | wake popper =>
      obtain ⟨reached, moved, equal⟩ := Option.map_eq_some_iff.mp stepped
      cases equal
      exact covered.rouse moved
  | expire popper =>
      simp only [step] at stepped
      split_ifs at stepped
      obtain ⟨reached, moved, equal⟩ := Option.map_eq_some_iff.mp stepped
      cases equal
      exact covered.rouse moved

/-- The inputs of a thread inside a call are the internal moves of the
monitor. -/
theorem internal_iff :
    Monitor.Internal verdict monitor after ↔
      ∃ input emitted, input.IsInternal ∧
        monitor.step input = some (after, emitted) := by
  constructor
  · intro internal
    cases internal with
    | notifyOne woken moved =>
        exact ⟨.notifyOne woken, [], trivial, by rw [step, moved]; rfl⟩
    | notifyAll moved =>
        exact ⟨.notifyAll, [], trivial, by rw [step, moved]; rfl⟩
    | look popper moved =>
        exact ⟨.look popper, _, trivial, by rw [step, moved]; rfl⟩
  · rintro ⟨input, emitted, isInternal, stepped⟩
    cases input with
    | notifyOne woken =>
        obtain ⟨reached, moved, equal⟩ := Option.map_eq_some_iff.mp stepped
        cases equal
        exact .notifyOne woken moved
    | notifyAll =>
        obtain ⟨reached, moved, equal⟩ := Option.map_eq_some_iff.mp stepped
        cases equal
        exact .notifyAll moved
    | look popper =>
        obtain ⟨reached, moved, equal⟩ := Option.map_eq_some_iff.mp stepped
        cases equal
        exact .look popper moved
    | _ =>
        exact isInternal.elim

end QueueMonitor

/-- Whatever the threads do, the queue goes through critical sections of `push`,
`pop` and `close`; each item that is popped is returned by one call, in order,
and `pop` returns nothing only from a closed and empty queue. -/
theorem queue_linearizable
    {Item : Type} {capacity : Nat} {inputs : List (PopperInput Item)}
    {monitor : QueueMonitor Item} {events : List (PopperEvent Item)}
    (run :
      (popperMachine Item capacity).Run Machine.free inputs monitor events) :
    (∃ sections,
        (queueMachine Item capacity).Run Machine.free sections monitor.data
          (queueHistoryOf events)) ∧
      popped (queueHistoryOf events) =
        (returnsOf events).filterMap Prod.snd ∧
      ∀ popper, (popper, none) ∈ returnsOf events → popper.timed = false →
        monitor.data.closed = true ∧ monitor.data.queue = [] := by
  have sound :
      (∃ sections,
          (queueMachine Item capacity).Run Machine.free sections monitor.data
            (queueHistoryOf events)) ∧
        popped (queueHistoryOf events) =
          (returnsOf events).filterMap Prod.snd ∧
        QueueMonitor.Timed monitor events := by
    refine run.invariant
      (fun monitor events =>
        (∃ sections,
            (queueMachine Item capacity).Run Machine.free sections
              monitor.data (queueHistoryOf events)) ∧
          popped (queueHistoryOf events) =
            (returnsOf events).filterMap Prod.snd ∧
          QueueMonitor.Timed monitor events) ?_ ?_
    · rintro monitor rfl
      exact ⟨⟨[], .start rfl⟩, rfl, nofun, nofun⟩
    · intro monitor events input after emitted holds _ stepped
      obtain ⟨⟨sections, before⟩, returned, timed⟩ := holds
      refine ⟨?_, ?_, timed.step stepped⟩
      · rw [queueHistoryOf_append]
        rcases QueueMonitor.mirrored_of_step stepped with
          ⟨input, moved⟩ | ⟨same, silent⟩
        · exact ⟨_, before.next trivial moved⟩
        · rw [same, silent, List.append_nil]
          exact ⟨sections, before⟩
      · rw [queueHistoryOf_append, returnsOf_append, popped_append,
          List.filterMap_append, returned, QueueMonitor.popped_of_step stepped]
  exact ⟨sound.1, sound.2.1, sound.2.2.returned⟩

/-- One thread is woken by a push, another runs out of time. -/
theorem queue_linearizable_pair :
    ∃ monitor events,
      (popperMachine Nat 1).Run Machine.free
          [.enter 1 false, .enter 2 true, .look ⟨1, false, false⟩,
            .look ⟨2, true, false⟩, .push 6, .push 7,
            .notifyOne (some ⟨1, false, false⟩), .look ⟨1, false, false⟩,
            .expire ⟨2, true, false⟩, .look ⟨2, true, true⟩]
          monitor events ∧
        returnsOf events =
          [(⟨1, false, false⟩, some 7), (⟨2, true, true⟩, none)] ∧
        popped (queueHistoryOf events) = [7] := by
  obtain ⟨monitor, events, run, checked⟩ :=
    Machine.run_of_exec_check (popperMachine Nat 1) Machine.free
      [.enter 1 false, .enter 2 true, .look ⟨1, false, false⟩,
        .look ⟨2, true, false⟩, .push 6, .push 7,
        .notifyOne (some ⟨1, false, false⟩), .look ⟨1, false, false⟩,
        .expire ⟨2, true, false⟩, .look ⟨2, true, true⟩]
      (Monitor.unused (.created 1))
      (fun _ events =>
        returnsOf events =
          [(⟨1, false, false⟩, some 7), (⟨2, true, true⟩, none)])
      rfl (by decide +kernel)
  have returned := of_decide_eq_true checked
  have ordered := (queue_linearizable run).2.1
  rw [returned] at ordered
  exact ⟨monitor, events, run, returned, ordered⟩

/-- No wakeup is lost: a thread only stays asleep beside an empty, open queue.
Until then some thread has something to do, and all of it comes to an end. -/
theorem no_lost_wakeup
    {Item : Type} {capacity : Nat} {inputs : List (PopperInput Item)}
    {monitor : QueueMonitor Item} {events : List (PopperEvent Item)}
    (run :
      (popperMachine Item capacity).Run Machine.free inputs monitor events) :
    (monitor.Quiet →
        monitor.asleep = [] ∨
          monitor.data.queue = [] ∧ monitor.data.closed = false) ∧
      (¬ monitor.Quiet →
        ∃ input after emitted, input.IsInternal ∧
          monitor.step input = some (after, emitted)) ∧
      ∀ input after emitted, input.IsInternal →
        monitor.step input = some (after, emitted) →
        after.rank < monitor.rank := by
  have covered : Monitor.Covered QueueMonitor.tickets monitor := by
    refine run.invariant
      (fun monitor _ => Monitor.Covered QueueMonitor.tickets monitor) ?_ ?_
    · rintro monitor rfl
      exact Or.inl rfl
    · intro monitor events input after emitted covered _ stepped
      exact QueueMonitor.covered_of_step covered stepped
  refine ⟨fun quiet => ?_, fun busy => ?_, fun input after emitted kind step => ?_⟩
  · rcases covered.asleep_of_quiet quiet with nobody | without
    · exact Or.inl nobody
    · exact Or.inr (QueueMonitor.tickets_eq_zero_iff.mp without)
  · have internal :
        ∃ after, Monitor.Internal QueueMonitor.verdict monitor after :=
      Monitor.exists_internal busy
    obtain ⟨after, moved⟩ := internal
    obtain ⟨input, emitted, kind, stepped⟩ := QueueMonitor.internal_iff.mp moved
    exact ⟨input, after, emitted, kind, stepped⟩
  · have moved := QueueMonitor.internal_iff.mpr ⟨input, emitted, kind, step⟩
    exact moved.rank_lt

/-- A push beside a sleeping thread leaves something to do. -/
theorem no_lost_wakeup_push :
    ∃ monitor events,
      (popperMachine Nat 0).Run Machine.free
          [.enter 1 false, .look ⟨1, false, false⟩, .push 7] monitor events ∧
        monitor.asleep = [⟨1, false, false⟩] ∧
        ∃ input after emitted, input.IsInternal ∧
          monitor.step input = some (after, emitted) := by
  obtain ⟨monitor, events, run, checked⟩ :=
    Machine.run_of_exec_check (popperMachine Nat 0) Machine.free
      [.enter 1 false, .look ⟨1, false, false⟩, .push 7]
      (Monitor.unused (.created 0))
      (fun monitor _ =>
        monitor.asleep = [⟨1, false, false⟩] ∧ monitor.notifies = 1)
      rfl (by decide +kernel)
  obtain ⟨asleep, calls⟩ := of_decide_eq_true checked
  have busy : ¬ monitor.Quiet := by
    intro quiet
    rw [quiet.notifies] at calls
    cases calls
  exact ⟨monitor, events, run, asleep, (no_lost_wakeup run).2.1 busy⟩

end MiniMiddleware
