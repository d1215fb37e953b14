import Mathlib.Data.List.Basic

/-!
# The queue of a subscriber

`push` and `pop` are critical sections of one mutex.  A full queue drops its
oldest item; capacity zero means that it is unbounded.
-/

namespace MiniMiddleware

/-- `BlockingQueue`. -/
structure BlockingQueue (Item : Type) where
  capacity : Nat
  queue : List Item
  dropped : Nat
  closed : Bool
  deriving DecidableEq, Repr

namespace BlockingQueue

variable {Item : Type}

/-- A queue right after its construction. -/
def created (capacity : Nat) : BlockingQueue Item :=
  ⟨capacity, [], 0, false⟩

/-- `push`; the result says whether the item was accepted. -/
def push (queue : BlockingQueue Item) (item : Item) :
    BlockingQueue Item × Bool :=
  if queue.closed then
    (queue, false)
  else if 0 < queue.capacity ∧ queue.capacity ≤ queue.queue.length then
    ({ queue with
        queue := queue.queue.drop 1 ++ [item]
        dropped := queue.dropped + 1 }, true)
  else
    ({ queue with queue := queue.queue ++ [item] }, true)

/-- `pop`; it blocks while the queue is open and empty, and returns nothing
once it is closed and empty. -/
def pop (queue : BlockingQueue Item) :
    Option (BlockingQueue Item × Option Item) :=
  match queue.queue with
  | item :: rest => some ({ queue with queue := rest }, some item)
  | [] => if queue.closed then some (queue, none) else none

/-- `try_pop`; on an open and empty queue it gives up when its time is over. -/
def tryPop (queue : BlockingQueue Item) : BlockingQueue Item × Option Item :=
  match queue.queue with
  | item :: rest => ({ queue with queue := rest }, some item)
  | [] => (queue, none)

/-- `close`. -/
def close (queue : BlockingQueue Item) : BlockingQueue Item :=
  { queue with closed := true }

/-- `size`. -/
def size (queue : BlockingQueue Item) : Nat :=
  queue.queue.length

end BlockingQueue

end MiniMiddleware
