import Mathlib.Data.ENat.Basic
import Mathlib.Data.List.Basic
import Mathlib.Data.List.Perm.Basic
import Mathlib.Data.Prod.Lex

/-!
# Monitors

Data behind a mutex, and one condition variable.  A thread that waits looks at
the data under the mutex; it leaves with new data, or it falls asleep until it
is woken and looks again.  A thread that changes the data in a critical section
wakes others behind it, so between the change and the call of the condition
variable the call is still to be made.

Waking nobody is harmless as long as nobody has to be woken.  The number of
waiters that the data would let leave, its tickets, is never larger than the
number of threads that are awake or about to be woken, unless nobody is asleep.
-/

namespace MiniMiddleware.Library

universe u v

/-- The data, the threads that wait on the condition variable, those that will
look at the data next, and the calls of `notify_one` and `notify_all` that are
still to be made. -/
structure Monitor (Data : Type u) (Waiter : Type v) where
  data : Data
  asleep : List Waiter
  awake : List Waiter
  notifies : Nat
  broadcasts : Nat
  deriving DecidableEq, Repr

namespace Monitor

variable {Data : Type u} {Waiter : Type v}

/-- A monitor that nobody uses. -/
def unused (data : Data) : Monitor Data Waiter :=
  ⟨data, [], [], 0, 0⟩

/-- A critical section that changes the data, and the calls that follow it. -/
def update (monitor : Monitor Data Waiter) (data : Data)
    (ones alls : Nat) : Monitor Data Waiter :=
  { monitor with
    data := data
    notifies := monitor.notifies + ones
    broadcasts := monitor.broadcasts + alls }

/-- A thread begins to wait; it looks at the data first. -/
def enter (monitor : Monitor Data Waiter) (waiter : Waiter) :
    Monitor Data Waiter :=
  { monitor with awake := waiter :: monitor.awake }

/-- `notify_all`. -/
def notifyAll (monitor : Monitor Data Waiter) :
    Option (Monitor Data Waiter) :=
  if monitor.broadcasts = 0 then
    none
  else
    some
      { monitor with
        asleep := []
        awake := monitor.asleep ++ monitor.awake
        broadcasts := monitor.broadcasts - 1 }

/-- `notify_one`, which wakes any thread that is asleep. -/
def notifyOne [DecidableEq Waiter] (monitor : Monitor Data Waiter)
    (woken : Option Waiter) :
    Option (Monitor Data Waiter) :=
  if monitor.notifies = 0 then
    none
  else
    match woken with
    | none =>
        if monitor.asleep = [] then
          some { monitor with notifies := monitor.notifies - 1 }
        else
          none
    | some waiter =>
        if waiter ∈ monitor.asleep then
          some
            { monitor with
              asleep := monitor.asleep.erase waiter
              awake := waiter :: monitor.awake
              notifies := monitor.notifies - 1 }
        else
          none

/-- A thread wakes up by itself, or because its time is over. -/
def rouse [DecidableEq Waiter] (monitor : Monitor Data Waiter)
    (waiter roused : Waiter) : Option (Monitor Data Waiter) :=
  if waiter ∈ monitor.asleep then
    some
      { monitor with
        asleep := monitor.asleep.erase waiter
        awake := roused :: monitor.awake }
  else
    none

/-- A thread that is awake looks at the data: with `none` it falls asleep, else
it leaves the data that it has found there. -/
def look [DecidableEq Waiter] (verdict : Data → Waiter → Option Data)
    (monitor : Monitor Data Waiter) (waiter : Waiter) :
    Option (Monitor Data Waiter) :=
  if waiter ∈ monitor.awake then
    match verdict monitor.data waiter with
    | none =>
        some
          { monitor with
            asleep := waiter :: monitor.asleep
            awake := monitor.awake.erase waiter }
    | some data =>
        some
          { monitor with
            data := data
            awake := monitor.awake.erase waiter }
  else
    none

/-- Nobody has anything to do. -/
structure Quiet (monitor : Monitor Data Waiter) : Prop where
  awake : monitor.awake = []
  notifies : monitor.notifies = 0
  broadcasts : monitor.broadcasts = 0

/-! ## Who waits -/

section Waiting

variable {monitor after : Monitor Data Waiter}

/-- The threads inside the waiting loop. -/
def waiting (monitor : Monitor Data Waiter) : List Waiter :=
  monitor.asleep ++ monitor.awake

theorem perm_of_notifyAll (moved : monitor.notifyAll = some after) :
    after.waiting = monitor.waiting ∧ after.data = monitor.data := by
  unfold notifyAll at moved
  split_ifs at moved
  cases moved
  exact ⟨rfl, rfl⟩

theorem perm_of_notifyOne [DecidableEq Waiter]
    {woken : Option Waiter} (moved : monitor.notifyOne woken = some after) :
    after.waiting.Perm monitor.waiting ∧ after.data = monitor.data := by
  unfold notifyOne at moved
  cases woken with
  | none =>
      simp only at moved
      split_ifs at moved
      cases moved
      exact ⟨List.Perm.refl _, rfl⟩
  | some waiter =>
      simp only at moved
      split_ifs at moved with _ asleep
      cases moved
      have others := (List.perm_cons_erase asleep).symm
      exact
        ⟨List.perm_middle.trans (others.append_right monitor.awake), rfl⟩

/-- A thread that wakes up by itself may have changed meanwhile. -/
theorem perm_of_rouse [DecidableEq Waiter]
    {waiter roused : Waiter}
    (moved : monitor.rouse waiter roused = some after) :
    waiter ∈ monitor.waiting ∧
      after.waiting.Perm (roused :: monitor.waiting.erase waiter) ∧
      after.data = monitor.data := by
  unfold rouse at moved
  split_ifs at moved with asleep
  cases moved
  have erased := List.erase_append_left monitor.awake asleep
  refine ⟨List.mem_append_left _ asleep, ?_, rfl⟩
  unfold waiting
  rw [erased]
  exact List.perm_middle

/-- A thread that looks at the data stays or leaves. -/
theorem perm_of_look [DecidableEq Waiter]
    {verdict : Data → Waiter → Option Data} {waiter : Waiter}
    (moved : monitor.look verdict waiter = some after) :
    waiter ∈ monitor.waiting ∧
      ((verdict monitor.data waiter = none ∧
          after.waiting.Perm monitor.waiting ∧ after.data = monitor.data) ∨
        verdict monitor.data waiter = some after.data ∧
          (waiter :: after.waiting).Perm monitor.waiting) := by
  unfold look at moved
  split_ifs at moved with awake
  refine ⟨List.mem_append_right _ awake, ?_⟩
  have others := (List.perm_cons_erase awake).symm
  split at moved
  · rename_i asleep
    cases moved
    left
    refine ⟨asleep, ?_, rfl⟩
    have moving :
        (waiter :: (monitor.asleep ++ monitor.awake.erase waiter)).Perm
          (monitor.asleep ++ waiter :: monitor.awake.erase waiter) :=
      List.perm_middle.symm
    exact moving.trans (others.append_left monitor.asleep)
  · rename_i data found
    cases moved
    right
    refine ⟨found, ?_⟩
    have moving :
        (waiter :: (monitor.asleep ++ monitor.awake.erase waiter)).Perm
          (monitor.asleep ++ waiter :: monitor.awake.erase waiter) :=
      List.perm_middle.symm
    exact moving.trans (others.append_left monitor.asleep)

end Waiting

/-! ## No lost wakeups -/

section Covered

variable {tickets : Data → ℕ∞} {monitor after : Monitor Data Waiter}

/-- Whoever could leave is awake or about to be woken, unless nobody is
asleep. -/
def Covered (tickets : Data → ℕ∞) (monitor : Monitor Data Waiter) : Prop :=
  monitor.asleep = [] ∨ 0 < monitor.broadcasts ∨
    tickets monitor.data ≤ (monitor.awake.length + monitor.notifies : ℕ)

/-- A quiet monitor only lets those sleep that cannot leave. -/
theorem Covered.asleep_of_quiet
    (covered : Covered tickets monitor) (quiet : monitor.Quiet) :
    monitor.asleep = [] ∨ tickets monitor.data = 0 := by
  rcases covered with empty | broadcasting | enough
  · exact Or.inl empty
  · rw [quiet.broadcasts] at broadcasting
    exact absurd broadcasting (lt_irrefl 0)
  · right
    rw [quiet.awake, quiet.notifies] at enough
    simpa using enough

/-- A critical section calls for as many threads as it has made tickets. -/
theorem Covered.update
    (covered : Covered tickets monitor) {data : Data} {ones alls : Nat}
    (called :
      tickets data ≤ tickets monitor.data + ones ∨ 0 < alls) :
    Covered tickets (monitor.update data ones alls) := by
  unfold Covered Monitor.update
  rcases covered with empty | broadcasting | enough
  · exact Or.inl empty
  · right
    left
    exact Nat.add_pos_left broadcasting alls
  · right
    rcases called with covers | broadcast
    · right
      have total :
          tickets monitor.data + (ones : ℕ∞) ≤
            ((monitor.awake.length + monitor.notifies : ℕ) : ℕ∞) + ones :=
        add_le_add_left enough _
      have whole := covers.trans total
      rw [← Nat.cast_add, Nat.add_assoc] at whole
      exact whole
    · left
      exact Nat.add_pos_right monitor.broadcasts broadcast

theorem Covered.enter
    (covered : Covered tickets monitor) (waiter : Waiter) :
    Covered tickets (monitor.enter waiter) := by
  unfold Covered Monitor.enter
  rcases covered with empty | broadcasting | enough
  · exact Or.inl empty
  · exact Or.inr (Or.inl broadcasting)
  · right
    right
    have busy :
        monitor.awake.length + monitor.notifies ≤
          (waiter :: monitor.awake).length + monitor.notifies := by
      rw [List.length_cons]
      omega
    exact enough.trans (Nat.cast_le.mpr busy)

/-- A thread that is awake instead of asleep. -/
theorem Covered.awoken
    (covered : Covered tickets monitor) {waiter : Waiter}
    (asleep : waiter ∈ monitor.asleep)
    (data : after.data = monitor.data)
    (broadcasts : after.broadcasts = monitor.broadcasts)
    (busy :
      monitor.awake.length + monitor.notifies ≤
        after.awake.length + after.notifies) :
    Covered tickets after := by
  rcases covered with empty | broadcasting | enough
  · rw [empty] at asleep
    cases asleep
  · right
    left
    rw [broadcasts]
    exact broadcasting
  · right
    right
    rw [data]
    exact enough.trans (Nat.cast_le.mpr busy)

theorem Covered.notifyOne [DecidableEq Waiter]
    (covered : Covered tickets monitor) {woken : Option Waiter}
    (stepped : monitor.notifyOne woken = some after) :
    Covered tickets after := by
  unfold Monitor.notifyOne at stepped
  cases woken with
  | none =>
      simp only at stepped
      split_ifs at stepped with _ empty
      cases stepped
      exact Or.inl empty
  | some waiter =>
      simp only at stepped
      split_ifs at stepped with idle asleep
      have equal := Option.some.inj stepped
      subst equal
      have busy :
          monitor.awake.length + monitor.notifies ≤
            (waiter :: monitor.awake).length + (monitor.notifies - 1) := by
        rw [List.length_cons]
        omega
      exact covered.awoken asleep rfl rfl busy

theorem covered_of_notifyAll
    (stepped : monitor.notifyAll = some after) : Covered tickets after := by
  unfold Monitor.notifyAll at stepped
  split_ifs at stepped
  cases stepped
  exact Or.inl rfl

theorem Covered.rouse [DecidableEq Waiter]
    (covered : Covered tickets monitor) {waiter roused : Waiter}
    (stepped : monitor.rouse waiter roused = some after) :
    Covered tickets after := by
  unfold Monitor.rouse at stepped
  split_ifs at stepped with asleep
  have equal := Option.some.inj stepped
  subst equal
  have busy :
      monitor.awake.length + monitor.notifies ≤
        (roused :: monitor.awake).length + monitor.notifies := by
    rw [List.length_cons]
    omega
  exact covered.awoken asleep rfl rfl busy

/-- A thread only falls asleep without a ticket; it uses one up when it leaves,
or there is none left. -/
theorem Covered.look [DecidableEq Waiter]
    {verdict : Data → Waiter → Option Data}
    (covered : Covered tickets monitor) {waiter : Waiter}
    (sleeps :
      verdict monitor.data waiter = none → tickets monitor.data = 0)
    (leaves :
      ∀ data, verdict monitor.data waiter = some data →
        monitor.asleep = [] ∨ tickets data + 1 ≤ tickets monitor.data ∨
          tickets data = 0)
    (stepped : monitor.look verdict waiter = some after) :
    Covered tickets after := by
  unfold Monitor.look at stepped
  split_ifs at stepped with awake
  split at stepped
  · rename_i asleep
    cases stepped
    right
    right
    rw [sleeps asleep]
    exact bot_le
  · rename_i data found
    cases stepped
    rcases leaves data found with empty | used | without
    · exact Or.inl empty
    · rcases covered with empty | broadcasting | enough
      · exact Or.inl empty
      · exact Or.inr (Or.inl broadcasting)
      · right
        right
        have present : 0 < monitor.awake.length :=
          List.length_pos_of_mem awake
        have total := used.trans enough
        have split :
            monitor.awake.length + monitor.notifies =
              (monitor.awake.erase waiter).length + monitor.notifies + 1 := by
          rw [List.length_erase_of_mem awake]
          omega
        rw [split, Nat.cast_add, Nat.cast_one] at total
        exact (ENat.add_le_add_iff_right ENat.one_ne_top).mp total
    · right
      right
      rw [without]
      exact bot_le

end Covered

/-! ## What happens without new changes -/

section Settling

variable [DecidableEq Waiter] {verdict : Data → Waiter → Option Data}
  {monitor after : Monitor Data Waiter}

/-- A call of the condition variable is made, or a thread that is awake looks at
the data. -/
inductive Internal (verdict : Data → Waiter → Option Data)
    (monitor after : Monitor Data Waiter) : Prop
  | notifyOne (woken : Option Waiter) :
      monitor.notifyOne woken = some after → Internal verdict monitor after
  | notifyAll :
      monitor.notifyAll = some after → Internal verdict monitor after
  | look (waiter : Waiter) :
      monitor.look verdict waiter = some after →
      Internal verdict monitor after

/-- The calls that are still to be made, and the threads that are awake. -/
def rank (monitor : Monitor Data Waiter) : ℕ ×ₗ ℕ :=
  toLex (monitor.notifies + monitor.broadcasts, monitor.awake.length)

omit [DecidableEq Waiter] in
theorem rank_lt_of_calls
    (fewer :
      after.notifies + after.broadcasts <
        monitor.notifies + monitor.broadcasts) :
    after.rank < monitor.rank :=
  Prod.Lex.toLex_lt_toLex.mpr (Or.inl fewer)

omit [DecidableEq Waiter] in
theorem rank_lt_of_awake
    (same :
      after.notifies + after.broadcasts =
        monitor.notifies + monitor.broadcasts)
    (fewer : after.awake.length < monitor.awake.length) :
    after.rank < monitor.rank :=
  Prod.Lex.toLex_lt_toLex.mpr (Or.inr ⟨same, fewer⟩)

theorem Internal.rank_lt (internal : Internal verdict monitor after) :
    after.rank < monitor.rank := by
  cases internal with
  | notifyOne woken stepped =>
      apply rank_lt_of_calls
      unfold Monitor.notifyOne at stepped
      cases woken with
      | none =>
          simp only at stepped
          split_ifs at stepped
          cases stepped
          dsimp only
          omega
      | some waiter =>
          simp only at stepped
          split_ifs at stepped
          cases stepped
          dsimp only
          omega
  | notifyAll stepped =>
      apply rank_lt_of_calls
      unfold Monitor.notifyAll at stepped
      split_ifs at stepped
      cases stepped
      dsimp only
      omega
  | look waiter stepped =>
      unfold Monitor.look at stepped
      split_ifs at stepped with awake
      have fewer : (monitor.awake.erase waiter).length < monitor.awake.length :=
        by
          have present := List.length_pos_of_mem awake
          rw [List.length_erase_of_mem awake]
          omega
      split at stepped
      · cases stepped
        exact rank_lt_of_awake rfl fewer
      · cases stepped
        exact rank_lt_of_awake rfl fewer

theorem exists_internal (busy : ¬ monitor.Quiet) :
    ∃ after, Internal verdict monitor after := by
  by_contra stuck
  apply busy
  refine ⟨?_, ?_, ?_⟩
  · cases awake : monitor.awake with
    | nil =>
        rfl
    | cons waiter rest =>
        exfalso
        apply stuck
        have member : waiter ∈ monitor.awake := by
          rw [awake]
          exact List.mem_cons_self
        cases decided : verdict monitor.data waiter with
        | none =>
            exact ⟨_, .look waiter (by simp [look, member, decided]; rfl)⟩
        | some data =>
            exact ⟨_, .look waiter (by simp [look, member, decided]; rfl)⟩
  · by_contra calls
    apply stuck
    cases asleep : monitor.asleep with
    | nil =>
        exact ⟨_, .notifyOne none (by simp [notifyOne, calls, asleep]; rfl)⟩
    | cons waiter rest =>
        have member : waiter ∈ monitor.asleep := by
          rw [asleep]
          exact List.mem_cons_self
        exact
          ⟨_, .notifyOne (some waiter)
            (by simp [notifyOne, calls, member]; rfl)⟩
  · by_contra calls
    apply stuck
    exact ⟨_, .notifyAll (by simp [notifyAll, calls]; rfl)⟩

end Settling

end Monitor

end MiniMiddleware.Library
