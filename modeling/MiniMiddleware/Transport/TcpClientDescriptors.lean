import MiniMiddleware.Library.Lists
import MiniMiddleware.Transport.TcpClientThreads

/-!
# The descriptors of the TCP client

`stop` closes the two descriptors of a client while callers of `send` may
still be on their way.  Only the first caller of `stop` passes the exchange of
`stopped_`; it closes after the event loop has been joined, and while it holds
`write_mutex_`.  A `send` looks at `stopped_` under the same lock, so it has
either left before or sees the flag.

The argument is made thread by thread, with the thread that passed the
exchange as a ghost value.
-/

namespace MiniMiddleware.Transport

open MiniMiddleware.Library FrameCodec

namespace ClientPoint

/-- The thread is inside a critical section of `write_mutex_`. -/
def owns : ClientPoint → Bool
  | .sendCheck _ | .sendAppend _ | .sendModify | .sendUnlock _ => true
  | .stopIfHeld _ | .stopClose _ | .stopForget _ | .stopUnlock => true
  | .writeNext _ | .writeIfEmpty _ | .writeModify _ | .writeUnlock _ => true
  | _ => false

/-- The event loop has not returned. -/
def inLoop : ClientPoint → Bool
  | .loopCheck | .loopWait | .loopDispatch _ => true
  | .loopConnecting _ _ | .loopConnected _ _ => true
  | .completeCheck _ | .completeState _ | .completeModify _ => true
  | .readNext _ _ | .readDecode _ _ _ | .readDeliver _ _ _ _ => true
  | .writeLock _ | .writeNext _ | .writeIfEmpty _ | .writeModify _ => true
  | .writeUnlock _ => true
  | _ => false

/-- The caller of `stop` has passed the exchange, and has not joined yet. -/
def joins : ClientPoint → Bool
  | .stopClear | .stopIfSocket | .stopShutdown => true
  | .stopIfJoinable | .stopJoin => true
  | _ => false

/-- The caller of `stop` has joined the event loop. -/
def joined : ClientPoint → Bool
  | .stopLock | .stopIfHeld _ | .stopClose _ | .stopForget _ => true
  | .stopUnlock | .stopFinish => true
  | _ => false

/-- The caller of `stop` has passed the exchange. -/
def stopping (point : ClientPoint) : Bool :=
  point.joins || point.joined

/-- What follows in the same critical section, or in the same `stop`, relies
on the descriptor being open. -/
def needs : ClientPoint → Descriptor → Bool
  | .sendAppend _, _ | .sendModify, _ => true
  | .stopClear, _ | .stopIfSocket, _ | .stopShutdown, _ => true
  | .stopIfJoinable, _ | .stopJoin, _ | .stopLock, _ => true
  | .stopIfHeld .sock, _ | .stopClose .sock, _ => true
  | .stopForget .sock, .epoll => true
  | .stopIfHeld .epoll, .epoll | .stopClose .epoll, .epoll => true
  | _, _ => false

theorem stopping_of_joins
    {point : ClientPoint} (joins : point.joins = true) :
    point.stopping = true := by
  simp [stopping, joins]

/-- A thread that relies on a descriptor is in `stop` or has the lock. -/
theorem stopping_or_owns_of_needs
    {point : ClientPoint} {descriptor : Descriptor}
    (needs : point.needs descriptor = true) :
    point.stopping = true ∨ point.owns = true := by
  cases point with
  | sendAppend => exact Or.inr rfl
  | sendModify => exact Or.inr rfl
  | stopClear => exact Or.inl rfl
  | stopIfSocket => exact Or.inl rfl
  | stopShutdown => exact Or.inl rfl
  | stopIfJoinable => exact Or.inl rfl
  | stopJoin => exact Or.inl rfl
  | stopLock => exact Or.inl rfl
  | stopIfHeld => exact Or.inl rfl
  | stopClose => exact Or.inl rfl
  | stopForget => exact Or.inl rfl
  | _ => cases needs

end ClientPoint

/-! ## What a step does -/

/-- The lock, the flag, the descriptors and the thread are as before. -/
structure SameAccess (before after : SharedClient) : Prop where
  lock : after.lock = before.lock
  stopped : after.stopped = before.stopped
  isOpen : after.isOpen = before.isOpen
  joinable : after.joinable = before.joinable
  ended : after.ended = before.ended

/-- Beyond the lock, `next` relies on nothing that `point` does not rely on. -/
structure Continues (point next : ClientPoint) : Prop where
  inLoop : next.inLoop = true → point.inLoop = true
  joins : next.joins = true → point.joins = true
  joined : next.joined = true → point.joined = true
  needs :
    ∀ descriptor, next.needs descriptor = true →
      point.needs descriptor = true

/-- The calls neither close nor join, and a descriptor is used only by the
event loop or where it is relied on. -/
def Permitted (point : ClientPoint) (calls : List ClientCall) : Prop :=
  ∀ call ∈ calls,
    (∀ descriptor, call ≠ .close descriptor) ∧ call ≠ .join ∧
      ∀ descriptor, call.uses descriptor = true →
        point.inLoop = true ∨ point.needs descriptor = true

/-- What a step can do, as far as the descriptors are concerned. -/
inductive AccessStep (thread : ClientThread) (client : SharedClient)
    (point : ClientPoint) :
    SharedClient → ClientPoint → List ClientCall → Prop
  | plain {after : SharedClient} {next : ClientPoint}
      {calls : List ClientCall} :
      SameAccess client after → next.owns = point.owns →
      Continues point next → Permitted point calls →
      AccessStep thread client point after next calls
  | admitted (frame : Bytes) :
      point = .sendCheck frame → client.stopped = false →
      AccessStep thread client point client (.sendAppend frame) []
  | exchanged :
      point = .idle → client.stopped = false →
      AccessStep thread client point { client with stopped := true }
        .stopClear []
  | acquired {next : ClientPoint} :
      client.lock = none → Continues point next →
      AccessStep thread client point { client with lock := some thread }
        next []
  | released {next : ClientPoint} {calls : List ClientCall} :
      point.owns = true → next.owns = false →
      Continues point next → Permitted point calls →
      AccessStep thread client point client.release next calls
  | notJoinable :
      point = .stopIfJoinable → client.joinable = false →
      AccessStep thread client point client .stopLock []
  | joined :
      point = .stopJoin → client.ended = true →
      AccessStep thread client point { client with joinable := false }
        .stopLock [.join]
  | closed (descriptor : Descriptor) :
      point = .stopClose descriptor →
      AccessStep thread client point
        { client with
          isOpen := Function.update client.isOpen descriptor false }
        (.stopForget descriptor) [.close descriptor]
  | ended {calls : List ClientCall} :
      point.inLoop = true → Permitted point calls →
      AccessStep thread client point { client with ended := true }
        .loopEnded calls

theorem SameAccess.refl (client : SharedClient) : SameAccess client client :=
  ⟨rfl, rfl, rfl, rfl, rfl⟩

theorem permitted_nil (point : ClientPoint) : Permitted point [] :=
  fun _ member => nomatch member

/-- One call that uses the descriptors only as `point` may. -/
theorem permitted_single
    {point : ClientPoint} {call : ClientCall}
    (noClose : ∀ descriptor, call ≠ .close descriptor)
    (noJoin : call ≠ .join)
    (uses :
      ∀ descriptor, call.uses descriptor = true →
        point.inLoop = true ∨ point.needs descriptor = true) :
    Permitted point [call] := by
  intro other member
  rw [List.mem_singleton] at member
  subst member
  exact ⟨noClose, noJoin, uses⟩

/-- A call of the event loop that neither closes nor joins. -/
theorem permitted_loop
    {point : ClientPoint} {call : ClientCall} (inLoop : point.inLoop = true)
    (noClose : ∀ descriptor, call ≠ .close descriptor)
    (noJoin : call ≠ .join) :
    Permitted point [call] :=
  permitted_single noClose noJoin fun _ _ => Or.inl inLoop

/-- Inside the event loop, nothing is relied on beyond the lock. -/
theorem continues_loop
    {point next : ClientPoint} (inLoop : point.inLoop = true)
    (stays : next.inLoop = true) :
    Continues point next := by
  refine ⟨fun _ => inLoop, ?_, ?_, ?_⟩
  · cases next <;> cases stays <;> nofun
  · cases next <;> cases stays <;> nofun
  · intro descriptor
    cases next <;> cases stays <;> nofun

theorem owns_afterRead (writable : Bool) (rest : List PollEvent) :
    (ClientPoint.afterRead writable rest).owns = false := by
  cases writable <;> rfl

theorem inLoop_afterRead (writable : Bool) (rest : List PollEvent) :
    (ClientPoint.afterRead writable rest).inLoop = true := by
  cases writable <;> rfl

section Steps

variable {thread : ClientThread} {client after : SharedClient}
  {point next : ClientPoint} {choice : ClientChoice}
  {calls : List ClientCall}

theorem sendStep_access
    (stepped : sendStep thread client point choice = some (after, next, calls)) :
    AccessStep thread client point after next calls := by
  unfold sendStep at stepped
  split at stepped
  · split_ifs at stepped
    · cases stepped
      exact .plain (.refl _) rfl ⟨nofun, nofun, nofun, nofun⟩ (permitted_nil _)
    · cases stepped
      exact .plain (.refl _) rfl ⟨nofun, nofun, nofun, nofun⟩
        (permitted_single nofun nofun nofun)
  · obtain ⟨locked, acquired, reached⟩ := Option.map_eq_some_iff.mp stepped
    cases reached
    unfold SharedClient.acquire at acquired
    split_ifs at acquired with free
    cases acquired
    exact .acquired free ⟨nofun, nofun, nofun, nofun⟩
  · split_ifs at stepped with stopped
    · cases stepped
      exact .plain (.refl _) rfl ⟨nofun, nofun, nofun, nofun⟩ (permitted_nil _)
    · cases stepped
      exact .admitted _ rfl (Bool.eq_false_iff.mpr stopped)
  · cases stepped
    exact .plain ⟨rfl, rfl, rfl, rfl, rfl⟩ rfl
      ⟨nofun, nofun, nofun, fun _ => id⟩ (permitted_nil _)
  · cases stepped
    exact .plain (.refl _) rfl ⟨nofun, nofun, nofun, nofun⟩
      (permitted_single nofun nofun fun _ _ => Or.inr rfl)
  · cases stepped
    exact .released rfl rfl ⟨nofun, nofun, nofun, nofun⟩
      (permitted_single nofun nofun nofun)
  · cases stepped

theorem stopStep_access
    (stepped : stopStep thread client point choice = some (after, next, calls)) :
    AccessStep thread client point after next calls := by
  unfold stopStep at stepped
  split at stepped
  · split_ifs at stepped with stopped
    · cases stepped
      exact .plain (.refl _) rfl ⟨nofun, nofun, nofun, nofun⟩ (permitted_nil _)
    · cases stepped
      exact .exchanged rfl (Bool.eq_false_iff.mpr stopped)
  · cases stepped
    exact .plain ⟨rfl, rfl, rfl, rfl, rfl⟩ rfl
      ⟨nofun, fun _ => rfl, nofun, fun _ => id⟩ (permitted_nil _)
  · split_ifs at stepped
    · cases stepped
      exact .plain (.refl _) rfl ⟨nofun, fun _ => rfl, nofun, fun _ => id⟩
        (permitted_nil _)
    · cases stepped
      exact .plain (.refl _) rfl ⟨nofun, fun _ => rfl, nofun, fun _ => id⟩
        (permitted_nil _)
  · cases stepped
    exact .plain (.refl _) rfl ⟨nofun, fun _ => rfl, nofun, fun _ => id⟩
      (permitted_single nofun nofun fun _ _ => Or.inr rfl)
  · split_ifs at stepped with joinable
    · cases stepped
      exact .plain (.refl _) rfl ⟨nofun, fun _ => rfl, nofun, fun _ => id⟩
        (permitted_nil _)
    · cases stepped
      exact .notJoinable rfl (Bool.eq_false_iff.mpr joinable)
  · split_ifs at stepped with ended
    cases stepped
    exact .joined rfl ended
  · obtain ⟨locked, acquired, reached⟩ := Option.map_eq_some_iff.mp stepped
    cases reached
    unfold SharedClient.acquire at acquired
    split_ifs at acquired with free
    cases acquired
    exact .acquired free ⟨nofun, nofun, fun _ => rfl, fun _ => id⟩
  · rename_i descriptor
    split_ifs at stepped
    · cases stepped
      refine .plain (.refl _) rfl ⟨nofun, nofun, fun _ => rfl, ?_⟩
        (permitted_nil _)
      intro other needs
      cases descriptor <;> cases other <;> exact needs
    · cases stepped
      cases descriptor with
      | sock =>
          exact .plain (.refl _) rfl
            ⟨nofun, nofun, fun _ => rfl, fun _ _ => rfl⟩ (permitted_nil _)
      | epoll =>
          exact .plain (.refl _) rfl ⟨nofun, nofun, fun _ => rfl, nofun⟩
            (permitted_nil _)
  · cases stepped
    exact .closed _ rfl
  · rename_i descriptor
    cases stepped
    cases descriptor with
    | sock =>
        refine .plain ⟨rfl, rfl, rfl, rfl, rfl⟩ rfl
          ⟨nofun, nofun, fun _ => rfl, ?_⟩ (permitted_nil _)
        rintro (_ | _) needs
        · cases needs
        · rfl
    | epoll =>
        exact .plain ⟨rfl, rfl, rfl, rfl, rfl⟩ rfl
          ⟨nofun, nofun, fun _ => rfl, nofun⟩ (permitted_nil _)
  · cases stepped
    exact .released rfl rfl ⟨nofun, nofun, fun _ => rfl, nofun⟩
      (permitted_nil _)
  · cases stepped
    exact .plain ⟨rfl, rfl, rfl, rfl, rfl⟩ rfl ⟨nofun, nofun, nofun, nofun⟩
      (permitted_nil _)
  · cases stepped

theorem loopStep_access
    (stepped : loopStep client point choice = some (after, next, calls)) :
    AccessStep thread client point after next calls := by
  unfold loopStep at stepped
  split at stepped
  · split_ifs at stepped
    · cases stepped
      exact .plain (.refl _) rfl (continues_loop rfl rfl)
        (permitted_nil _)
    · cases stepped
      exact .ended rfl (permitted_nil _)
  · split_ifs at stepped
    cases stepped
    exact .plain (.refl _) rfl (continues_loop rfl rfl)
      (permitted_loop rfl nofun nofun)
  · split_ifs at stepped
    · cases stepped
      exact .plain (.refl _) rfl (continues_loop rfl rfl)
        (permitted_loop rfl nofun nofun)
    · cases stepped
      exact .ended rfl
        (permitted_loop rfl nofun nofun)
  · cases stepped
    exact .plain (.refl _) rfl (continues_loop rfl rfl)
      (permitted_nil _)
  · split_ifs at stepped
    · cases stepped
      exact .plain ⟨rfl, rfl, rfl, rfl, rfl⟩ rfl
        (continues_loop rfl rfl) (permitted_nil _)
    · cases stepped
      exact .plain (.refl _) rfl (continues_loop rfl rfl)
        (permitted_nil _)
  · split_ifs at stepped
    · cases stepped
      exact .plain (.refl _) rfl (continues_loop rfl rfl)
        (permitted_nil _)
    · cases stepped
      exact .plain (.refl _) rfl (continues_loop rfl rfl)
        (permitted_nil _)
  · split_ifs at stepped
    · cases stepped
      exact .plain (.refl _) rfl (continues_loop rfl rfl)
        (permitted_nil _)
    · cases stepped
      exact .plain (.refl _) (owns_afterRead _ _)
        (continues_loop rfl (inLoop_afterRead _ _)) (permitted_nil _)
    · cases stepped
      exact .plain (.refl _) rfl (continues_loop rfl rfl)
        (permitted_nil _)
  · split_ifs at stepped
    · cases stepped
      exact .plain ⟨rfl, rfl, rfl, rfl, rfl⟩ rfl
        (continues_loop rfl rfl)
        (permitted_loop rfl nofun nofun)
    · cases stepped
      exact .plain (.refl _) rfl (continues_loop rfl rfl)
        (permitted_loop rfl nofun nofun)
  · cases stepped
    exact .plain ⟨rfl, rfl, rfl, rfl, rfl⟩ rfl
      (continues_loop rfl rfl) (permitted_nil _)
  · cases stepped
    exact .plain (.refl _) rfl (continues_loop rfl rfl)
      (permitted_loop rfl nofun nofun)
  · cases stepped

theorem readStep_access
    (stepped : readStep client point choice = some (after, next, calls)) :
    AccessStep thread client point after next calls := by
  unfold readStep at stepped
  split at stepped
  · split_ifs at stepped
    cases stepped
    exact .plain ⟨rfl, rfl, rfl, rfl, rfl⟩ rfl (continues_loop rfl rfl)
      (permitted_loop rfl nofun nofun)
  · rename_i last
    cases last with
    | wouldBlock =>
        cases stepped
        exact .plain (.refl _) rfl (continues_loop rfl rfl)
          (permitted_loop rfl nofun nofun)
    | peerClosed =>
        cases stepped
        exact .plain (.refl _) rfl (continues_loop rfl rfl)
          (permitted_loop rfl nofun nofun)
    | failed =>
        cases stepped
        exact .plain ⟨rfl, rfl, rfl, rfl, rfl⟩ (owns_afterRead _ _)
          (continues_loop rfl (inLoop_afterRead _ _))
          (permitted_loop rfl nofun nofun)
  · cases stepped
    exact .plain ⟨rfl, rfl, rfl, rfl, rfl⟩ rfl (continues_loop rfl rfl)
      (permitted_nil _)
  · cases stepped
    exact .plain (.refl _) rfl (continues_loop rfl rfl)
      (permitted_loop rfl nofun nofun)
  · split_ifs at stepped
    · cases stepped
      exact .plain ⟨rfl, rfl, rfl, rfl, rfl⟩ (owns_afterRead _ _)
        (continues_loop rfl (inLoop_afterRead _ _)) (permitted_nil _)
    · cases stepped
      exact .plain (.refl _) (owns_afterRead _ _)
        (continues_loop rfl (inLoop_afterRead _ _)) (permitted_nil _)
  · cases stepped

theorem writeStep_access
    (stepped :
      writeStep thread client point choice = some (after, next, calls)) :
    AccessStep thread client point after next calls := by
  unfold writeStep at stepped
  split at stepped
  · obtain ⟨locked, acquired, reached⟩ := Option.map_eq_some_iff.mp stepped
    cases reached
    unfold SharedClient.acquire at acquired
    split_ifs at acquired with free
    cases acquired
    exact .acquired free (continues_loop rfl rfl)
  · split_ifs at stepped
    cases stepped
    exact .plain (.refl _) rfl (continues_loop rfl rfl) (permitted_nil _)
  · rename_i result
    split_ifs at stepped
    cases result with
    | accepted count =>
        simp only [Option.ite_none_right_eq_some] at stepped
        obtain ⟨_, reached⟩ := stepped
        cases reached
        exact .plain ⟨rfl, rfl, rfl, rfl, rfl⟩ rfl (continues_loop rfl rfl)
          (permitted_loop rfl nofun nofun)
    | wouldBlock =>
        cases stepped
        exact .plain (.refl _) rfl (continues_loop rfl rfl)
          (permitted_loop rfl nofun nofun)
    | failed =>
        cases stepped
        exact .plain ⟨rfl, rfl, rfl, rfl, rfl⟩ rfl (continues_loop rfl rfl)
          (permitted_loop rfl nofun nofun)
  · split_ifs at stepped
    · cases stepped
      exact .plain (.refl _) rfl (continues_loop rfl rfl) (permitted_nil _)
    · cases stepped
      exact .plain (.refl _) rfl (continues_loop rfl rfl) (permitted_nil _)
  · cases stepped
    exact .plain (.refl _) rfl (continues_loop rfl rfl)
      (permitted_loop rfl nofun nofun)
  · cases stepped
    exact .released rfl rfl (continues_loop rfl rfl) (permitted_nil _)
  · cases stepped

theorem clientStep_access
    (stepped :
      clientStep thread client point choice = some (after, next, calls)) :
    AccessStep thread client point after next calls := by
  simp only [clientStep, Option.orElse_eq_orElse, Option.orElse_eq_or,
    Option.or_eq_some_iff] at stepped
  rcases stepped with
    sends | ⟨_, stops | ⟨_, loops | ⟨_, reads | ⟨_, writes⟩⟩⟩⟩
  · exact sendStep_access sends
  · exact stopStep_access stops
  · exact loopStep_access loops
  · exact readStep_access reads
  · exact writeStep_access writes

end Steps

/-! ## The assertions -/

/-- No call uses or closes a descriptor that an earlier one has closed, and
none joins again. -/
def Respects (first later : ClientCall) : Prop :=
  (∀ descriptor, first = .close descriptor →
      later.uses descriptor = false ∧ later ≠ .close descriptor) ∧
    (first = .join → later ≠ .join)

/-- What holds of the shared members and of the calls made so far.  `stopper`
is the thread that passed the exchange of `stopped_`. -/
structure Guarded (stopper : Option ClientThread) (client : SharedClient)
    (calls : List ClientCall) : Prop where
  unstopped :
    client.stopped = false →
      stopper = none ∧ client.joinable = true ∧
        ∀ descriptor, client.isOpen descriptor = true
  looping :
    client.ended = false → ∀ descriptor, client.isOpen descriptor = true
  closed :
    ∀ descriptor, .close descriptor ∈ calls →
      client.isOpen descriptor = false
  joined : .join ∈ calls → client.joinable = false
  respects : calls.Pairwise Respects

/-- What a thread knows at its point. -/
structure Knows (stopper : Option ClientThread) (thread : ClientThread)
    (client : SharedClient) (point : ClientPoint) : Prop where
  lock : point.owns = true → client.lock = some thread
  looping : point.inLoop = true → thread = .loop ∧ client.ended = false
  stopper : point.stopping = true → stopper = some thread
  joinable : point.joins = true → client.joinable = true
  ended : point.joined = true → client.ended = true
  isOpen :
    ∀ descriptor, point.needs descriptor = true →
      client.isOpen descriptor = true

section Assertions

variable {stopper : Option ClientThread} {thread : ClientThread}
  {client after : SharedClient} {point next : ClientPoint}
  {calls emitted : List ClientCall}

theorem Guarded.of_same
    (holds : Guarded stopper client calls)
    (same : SameAccess client after) :
    Guarded stopper after calls where
  unstopped running := by
    rw [same.joinable, same.isOpen]
    exact holds.unstopped (same.stopped ▸ running)
  looping running := by
    rw [same.isOpen]
    exact holds.looping (same.ended ▸ running)
  closed := by
    rw [same.isOpen]
    exact holds.closed
  joined := by
    rw [same.joinable]
    exact holds.joined
  respects := holds.respects

theorem Knows.of_same
    (knows : Knows stopper thread client point)
    (same : SameAccess client after) :
    Knows stopper thread after point where
  lock owns := by
    rw [same.lock]
    exact knows.lock owns
  looping inLoop := by
    rw [same.ended]
    exact knows.looping inLoop
  stopper := knows.stopper
  joinable joins := by
    rw [same.joinable]
    exact knows.joinable joins
  ended joined := by
    rw [same.ended]
    exact knows.ended joined
  isOpen := by
    rw [same.isOpen]
    exact knows.isOpen

/-- A thread that goes on knows what it knew, apart from the lock. -/
theorem Knows.continue
    (knows : Knows stopper thread client point)
    (continues : Continues point next)
    (lock : next.owns = true → client.lock = some thread) :
    Knows stopper thread client next where
  lock := lock
  looping inLoop := knows.looping (continues.inLoop inLoop)
  stopper stopping := by
    apply knows.stopper
    rcases Bool.or_eq_true_iff.mp stopping with joins | joined
    · exact Bool.or_eq_true_iff.mpr (Or.inl (continues.joins joins))
    · exact Bool.or_eq_true_iff.mpr (Or.inr (continues.joined joined))
  joinable joins := knows.joinable (continues.joins joins)
  ended joined := knows.ended (continues.joined joined)
  isOpen descriptor needs :=
    knows.isOpen descriptor (continues.needs descriptor needs)

/-- The descriptors that a thread may use are open. -/
theorem Guarded.isOpen_of_use
    (holds : Guarded stopper client calls)
    (knows : Knows stopper thread client point) {descriptor : Descriptor}
    (uses : point.inLoop = true ∨ point.needs descriptor = true) :
    client.isOpen descriptor = true := by
  rcases uses with inLoop | needs
  · exact holds.looping (knows.looping inLoop).2 descriptor
  · exact knows.isOpen descriptor needs

theorem Guarded.append_permitted
    (holds : Guarded stopper client calls)
    (knows : Knows stopper thread client point)
    (permitted : Permitted point emitted) :
    Guarded stopper client (calls ++ emitted) := by
  have respected : ∀ first later, later ∈ emitted →
      (∀ descriptor, first = .close descriptor →
        client.isOpen descriptor = false) →
      Respects first later := by
    intro first later member closed
    obtain ⟨noClose, noJoin, uses⟩ := permitted later member
    refine ⟨fun descriptor closes => ⟨?_, noClose descriptor⟩,
      fun _ => noJoin⟩
    by_contra used
    rw [Bool.not_eq_false] at used
    have isOpen := holds.isOpen_of_use knows (uses descriptor used)
    rw [closed descriptor closes] at isOpen
    cases isOpen
  refine
    { holds with
      closed := fun descriptor member => ?_
      joined := fun member => ?_
      respects := List.pairwise_append.mpr ⟨holds.respects, ?_, ?_⟩ }
  · rcases List.mem_append.mp member with old | new
    · exact holds.closed descriptor old
    · exact absurd rfl ((permitted _ new).1 descriptor)
  · rcases List.mem_append.mp member with old | new
    · exact holds.joined old
    · exact absurd rfl (permitted _ new).2.1
  · apply List.pairwise_of_forall_mem_list
    intro first firstMember later laterMember
    exact respected first later laterMember fun descriptor closes =>
      absurd closes ((permitted first firstMember).1 descriptor)
  · intro first member later laterMember
    exact respected first later laterMember fun descriptor closes =>
      holds.closed descriptor (closes ▸ member)

/-- What the parallel rule asks of a step: the shared part and the thread's own
assertion hold afterwards, and no other thread is disturbed. -/
def StepSound (stopper : Option ClientThread) (thread : ClientThread)
    (client after : SharedClient) (next : ClientPoint)
    (calls emitted : List ClientCall) : Prop :=
  ∃ changed,
    Guarded changed after (calls ++ emitted) ∧
      Knows changed thread after next ∧
      ∀ other, other ≠ thread → ∀ otherPoint,
        Knows stopper other client otherPoint →
        Knows changed other after otherPoint

/-- Two threads cannot both be inside a critical section. -/
theorem Knows.not_owns
    (knows : Knows stopper thread client point) (owns : point.owns = true)
    {other : ClientThread} {otherPoint : ClientPoint}
    (different : other ≠ thread)
    (otherKnows : Knows stopper other client otherPoint) :
    otherPoint.owns = false := by
  by_contra inside
  rw [Bool.not_eq_false] at inside
  have held := knows.lock owns
  rw [otherKnows.lock inside, Option.some.injEq] at held
  exact different held

/-- Two threads cannot both have passed the exchange. -/
theorem Knows.not_stopping
    (knows : Knows stopper thread client point)
    (stopping : point.stopping = true)
    {other : ClientThread} {otherPoint : ClientPoint}
    (different : other ≠ thread)
    (otherKnows : Knows stopper other client otherPoint) :
    otherPoint.stopping = false := by
  by_contra inside
  rw [Bool.not_eq_false] at inside
  have passed := knows.stopper stopping
  rw [otherKnows.stopper inside, Option.some.injEq] at passed
  exact different passed

/-- The thread that has passed the exchange set the flag. -/
theorem Guarded.stopped_of_stopping
    (holds : Guarded stopper client calls)
    (knows : Knows stopper thread client point)
    (stopping : point.stopping = true) : client.stopped = true := by
  by_contra running
  rw [Bool.not_eq_true] at running
  have nobody := (holds.unstopped running).1
  rw [knows.stopper stopping] at nobody
  cases nobody

/-- The exchange: nobody has passed it before, so all is still there. -/
theorem stepSound_exchanged
    (holds : Guarded stopper client calls)
    (running : client.stopped = false) :
    StepSound stopper thread client { client with stopped := true }
      .stopClear calls [] := by
  obtain ⟨nobody, joinable, isOpen⟩ := holds.unstopped running
  refine ⟨some thread, ?_, ?_, fun other _ otherPoint knows => ?_⟩
  · rw [List.append_nil]
    exact { holds with unstopped := nofun }
  · exact
      { lock := nofun
        looping := nofun
        stopper := fun _ => rfl
        joinable := fun _ => joinable
        ended := nofun
        isOpen := fun descriptor _ => isOpen descriptor }
  · refine { knows with stopper := fun stopping => ?_ }
    have passed := knows.stopper stopping
    rw [nobody] at passed
    cases passed

theorem stepSound_acquired
    (holds : Guarded stopper client calls)
    (knows : Knows stopper thread client point)
    (free : client.lock = none) (continues : Continues point next) :
    StepSound stopper thread client { client with lock := some thread } next
      calls [] := by
  refine ⟨stopper, ?_, ?_, fun other _ otherPoint otherKnows => ?_⟩
  · rw [List.append_nil]
    exact { holds with }
  · have taken :
        Knows stopper thread { client with lock := some thread } point :=
      { knows with lock := fun _ => rfl }
    exact taken.continue continues fun _ => rfl
  · refine { otherKnows with lock := fun owns => ?_ }
    have held := otherKnows.lock owns
    rw [free] at held
    cases held

theorem stepSound_released
    (holds : Guarded stopper client calls)
    (knows : Knows stopper thread client point)
    (owns : point.owns = true) (released : next.owns = false)
    (continues : Continues point next) (permitted : Permitted point emitted) :
    StepSound stopper thread client client.release next calls emitted := by
  refine ⟨stopper, ?_, ?_, fun other different otherPoint otherKnows => ?_⟩
  · exact { holds.append_permitted knows permitted with }
  · have kept : Knows stopper thread client next :=
      knows.continue continues fun inside => by
        rw [released] at inside
        cases inside
    refine { kept with lock := fun inside => ?_ }
    rw [released] at inside
    cases inside
  · refine { otherKnows with lock := fun inside => ?_ }
    rw [knows.not_owns owns different otherKnows] at inside
    cases inside

/-- The join: the only caller that gets here has not joined before. -/
theorem stepSound_joined
    (holds : Guarded stopper client calls)
    (knows : Knows stopper thread client .stopJoin)
    (ended : client.ended = true) :
    StepSound stopper thread client { client with joinable := false }
      .stopLock calls [.join] := by
  have joinable := knows.joinable rfl
  have stopped := holds.stopped_of_stopping knows rfl
  refine ⟨stopper, ?_, ?_, fun other different otherPoint otherKnows => ?_⟩
  · refine
      { unstopped := fun running => ?_
        looping := holds.looping
        closed := fun descriptor member => ?_
        joined := fun _ => rfl
        respects := List.pairwise_append.mpr
          ⟨holds.respects, List.pairwise_singleton _ _, ?_⟩ }
    · dsimp only at running
      rw [stopped] at running
      cases running
    · rcases List.mem_append.mp member with old | new
      · exact holds.closed descriptor old
      · cases List.mem_singleton.mp new
    · intro first member later laterMember
      cases List.mem_singleton.mp laterMember
      refine ⟨fun _ _ => ⟨rfl, nofun⟩, fun joins => ?_⟩
      have joined := holds.joined (joins ▸ member)
      rw [joinable] at joined
      cases joined
  · exact
      { lock := nofun
        looping := nofun
        stopper := fun _ => knows.stopper rfl
        joinable := nofun
        ended := fun _ => ended
        isOpen := fun descriptor _ => knows.isOpen descriptor rfl }
  · refine { otherKnows with joinable := fun joins => ?_ }
    have idle := knows.not_stopping rfl different otherKnows
    rw [ClientPoint.stopping_of_joins joins] at idle
    cases idle

/-- A close: the only caller that gets here has the lock, has joined the event
loop, and has not closed the descriptor before. -/
theorem stepSound_closed
    (holds : Guarded stopper client calls) (descriptor : Descriptor)
    (knows : Knows stopper thread client (.stopClose descriptor)) :
    StepSound stopper thread client
      { client with
        isOpen := Function.update client.isOpen descriptor false }
      (.stopForget descriptor) calls [.close descriptor] := by
  have stopped := holds.stopped_of_stopping knows rfl
  have ended := knows.ended rfl
  have isOpen : client.isOpen descriptor = true :=
    knows.isOpen descriptor (by cases descriptor <;> rfl)
  refine ⟨stopper, ?_, ?_, fun other different otherPoint otherKnows => ?_⟩
  · refine
      { unstopped := fun running => ?_
        looping := fun running => ?_
        closed := fun another member => ?_
        joined := fun member => ?_
        respects := List.pairwise_append.mpr
          ⟨holds.respects, List.pairwise_singleton _ _, ?_⟩ }
    · dsimp only at running
      rw [stopped] at running
      cases running
    · dsimp only at running
      rw [ended] at running
      cases running
    · dsimp only
      rw [Function.update_apply]
      split_ifs with same
      · rfl
      · rcases List.mem_append.mp member with old | new
        · exact holds.closed another old
        · cases List.mem_singleton.mp new
          exact absurd rfl same
    · rcases List.mem_append.mp member with old | new
      · exact holds.joined old
      · cases List.mem_singleton.mp new
    · intro first member later laterMember
      cases List.mem_singleton.mp laterMember
      refine ⟨fun another closes => ⟨rfl, fun same => ?_⟩, fun _ => nofun⟩
      cases same
      have closed := holds.closed descriptor (closes ▸ member)
      rw [isOpen] at closed
      cases closed
  · refine
      { lock := fun _ => knows.lock rfl
        looping := nofun
        stopper := fun _ => knows.stopper rfl
        joinable := nofun
        ended := fun _ => ended
        isOpen := fun another needs => ?_ }
    -- Only `epoll_fd_` is still needed, after `sock_fd_` was closed.
    cases descriptor with
    | sock =>
        cases another with
        | sock => cases needs
        | epoll => exact knows.isOpen .epoll rfl
    | epoll => cases another <;> cases needs
  · refine { otherKnows with isOpen := fun another needs => ?_ }
    have idle := knows.not_stopping rfl different otherKnows
    have outside := knows.not_owns rfl different otherKnows
    rcases ClientPoint.stopping_or_owns_of_needs needs with stopping | owns
    · rw [idle] at stopping
      cases stopping
    · rw [outside] at owns
      cases owns

/-- The event loop returns. -/
theorem stepSound_ended
    (holds : Guarded stopper client calls)
    (knows : Knows stopper thread client point)
    (inLoop : point.inLoop = true) (permitted : Permitted point emitted) :
    StepSound stopper thread client { client with ended := true } .loopEnded
      calls emitted := by
  refine ⟨stopper, ?_, ?_, fun other different otherPoint otherKnows => ?_⟩
  · exact { holds.append_permitted knows permitted with looping := nofun }
  · exact ⟨nofun, nofun, nofun, nofun, nofun, nofun⟩
  · refine
      { otherKnows with
        looping := fun otherInLoop => ?_
        ended := fun _ => rfl }
    have itself := (otherKnows.looping otherInLoop).1
    rw [(knows.looping inLoop).1] at different
    exact absurd itself different

theorem AccessStep.sound
    (holds : Guarded stopper client calls)
    (knows : Knows stopper thread client point)
    (stepped : AccessStep thread client point after next emitted) :
    StepSound stopper thread client after next calls emitted := by
  cases stepped with
  | plain same owns continues permitted =>
      have kept : Knows stopper thread client next :=
        knows.continue continues fun inside => knows.lock (owns ▸ inside)
      exact
        ⟨stopper, (holds.append_permitted knows permitted).of_same same,
          kept.of_same same,
          fun _ _ _ otherKnows => otherKnows.of_same same⟩
  | admitted frame atCheck running =>
      subst atCheck
      have isOpen := (holds.unstopped running).2.2
      refine ⟨stopper, ?_, ?_, fun _ _ _ => id⟩
      · rwa [List.append_nil]
      · exact
          { lock := fun _ => knows.lock rfl
            looping := nofun
            stopper := nofun
            joinable := nofun
            ended := nofun
            isOpen := fun descriptor _ => isOpen descriptor }
  | exchanged _ running =>
      exact stepSound_exchanged holds running
  | acquired free continues =>
      exact stepSound_acquired holds knows free continues
  | released owns released continues permitted =>
      exact stepSound_released holds knows owns released continues permitted
  | notJoinable atJoin notJoinable =>
      subst atJoin
      have joinable := knows.joinable rfl
      rw [notJoinable] at joinable
      cases joinable
  | joined atJoin ended =>
      subst atJoin
      exact stepSound_joined holds knows ended
  | closed descriptor atClose =>
      subst atClose
      exact stepSound_closed holds descriptor knows
  | ended inLoop permitted =>
      exact stepSound_ended holds knows inLoop permitted

end Assertions

/-! ## All interleavings -/

/-- A client right after `start`: the event loop runs, and nobody has called
yet.  The connection is in progress or established. -/
structure StartedClient
    (client : SharedClient × (ClientThread → ClientPoint)) : Prop where
  state :
    client.1.state = .connecting ∨ client.1.state = .connected
  running : client.1.running = true
  held : ∀ descriptor, client.1.held descriptor = true
  isOpen : ∀ descriptor, client.1.isOpen descriptor = true
  lock : client.1.lock = none
  joinable : client.1.joinable = true
  ended : client.1.ended = false
  loop : client.2 .loop = .loopCheck
  callers : ∀ index, client.2 (.caller index) = .idle

/-- All interleavings of the event loop and of any number of callers. -/
def clientThreads :
    Machine (SharedClient × (ClientThread → ClientPoint))
      (ClientThread × ClientChoice) ClientCall :=
  threadMachine StartedClient clientStep

theorem guarded_of_run
    {inputs : List (ClientThread × ClientChoice)}
    {client : SharedClient × (ClientThread → ClientPoint)}
    {calls : List ClientCall}
    (run : clientThreads.Run Machine.free inputs client calls) :
    ∃ stopper,
      Guarded stopper client.1 calls ∧
        ∀ thread, Knows stopper thread client.1 (client.2 thread) := by
  refine Machine.Run.parallel Guarded Knows ?_ ?_ run
  · intro client points started
    refine ⟨none, ?_, ?_⟩
    · exact
        { unstopped := fun _ => ⟨rfl, started.joinable, started.isOpen⟩
          looping := fun _ => started.isOpen
          closed := nofun
          joined := nofun
          respects := List.Pairwise.nil }
    · intro thread
      cases thread with
      | loop =>
          have atStart : points .loop = .loopCheck := started.loop
          rw [atStart]
          exact
            { lock := nofun
              looping := fun _ => ⟨rfl, started.ended⟩
              stopper := nofun
              joinable := nofun
              ended := nofun
              isOpen := nofun }
      | caller index =>
          have atStart : points (.caller index) = .idle :=
            started.callers index
          rw [atStart]
          exact ⟨nofun, nofun, nofun, nofun, nofun, nofun⟩
  · intro stopper thread client point choice calls after next emitted holds
      knows stepped
    exact (clientStep_access stepped).sound holds knows

/-- In every interleaving no call is issued on a descriptor after its close,
each descriptor is closed at most once, and the event loop is joined at most
once. -/
theorem tcpClient_descriptors_safe
    {inputs : List (ClientThread × ClientChoice)}
    {client : SharedClient × (ClientThread → ClientPoint)}
    {calls : List ClientCall}
    (run : clientThreads.Run Machine.free inputs client calls) :
    (∀ descriptor earlier call later,
        calls = earlier ++ call :: later → call.uses descriptor = true →
        .close descriptor ∉ earlier) ∧
      (∀ descriptor, calls.count (.close descriptor) ≤ 1) ∧
      calls.count .join ≤ 1 := by
  obtain ⟨_, holds, _⟩ := guarded_of_run run
  have respects := holds.respects
  refine ⟨?_, fun descriptor => ?_, ?_⟩
  · rintro descriptor earlier call later rfl uses closed
    have between := (List.pairwise_append.mp respects).2.2 _ closed call
      List.mem_cons_self
    have unused := (between.1 descriptor rfl).1
    rw [uses] at unused
    cases unused
  · apply count_le_one_of_pairwise
    exact respects.imp fun pair closes => (pair.1 descriptor closes).2
  · apply count_le_one_of_pairwise
    exact respects.imp fun pair => pair.2

/-- An established connection. -/
def startedClient : SharedClient × (ClientThread → ClientPoint) :=
  ({ state := .connected
     running := true
     stopped := false
     held := fun _ => true
     isOpen := fun _ => true
     readBuffer := []
     writeBuffer := []
     lock := none
     joinable := true
     ended := false },
    fun thread =>
      match thread with
      | .loop => .loopCheck
      | .caller _ => .idle)

theorem startedClient_started : StartedClient startedClient where
  state := Or.inr rfl
  running := rfl
  held _ := rfl
  isOpen _ := rfl
  lock := rfl
  joinable := rfl
  ended := rfl
  loop := rfl
  callers _ := rfl

/-- A thread takes several steps in a row. -/
def proceeds (thread : ClientThread) (count : Nat) :
    List (ClientThread × ClientChoice) :=
  List.replicate count (thread, .proceed)

/-- A `send` that passes the check of the state before `stop` and gets the
lock after it, a `send` that is accepted, and two calls of `stop`. -/
def sendsAndStops : List (ClientThread × ClientChoice) :=
  List.flatten
    [[(.caller 0, .callSend [1]), (.caller 1, .callSend [2])],
      proceeds (.caller 1) 5, proceeds .loop 1,
      [(.caller 2, .callStop), (.caller 3, .callStop)],
      proceeds (.caller 2) 3, [(.loop, .polled [])], proceeds .loop 2,
      proceeds (.caller 2) 10, proceeds (.caller 0) 3, proceeds (.caller 2) 1]

/-- That interleaving: one registration by the accepted `send`, and each
descriptor closed once. -/
theorem tcpClient_descriptors_safe_stopping :
    ∃ client calls,
      clientThreads.Run Machine.free sendsAndStops client calls ∧
        calls.filter (fun call => call.uses .epoll) =
          [.epollCtl true, .epollWait] ∧
        (∀ descriptor, .close descriptor ∈ calls) ∧
        (∀ descriptor earlier call later,
            calls = earlier ++ call :: later →
            call.uses descriptor = true → .close descriptor ∉ earlier) ∧
        (∀ descriptor, calls.count (.close descriptor) ≤ 1) ∧
        calls.count .join ≤ 1 := by
  obtain ⟨client, calls, run, checked⟩ :=
    Machine.run_of_exec_check clientThreads Machine.free sendsAndStops
      startedClient
      (fun _ calls =>
        calls.filter (fun call => call.uses .epoll) =
            [.epollCtl true, .epollWait] ∧
          .close .sock ∈ calls ∧ .close .epoll ∈ calls)
      startedClient_started (by decide +kernel)
  simp only [decide_eq_true_eq] at checked
  obtain ⟨registered, sockClosed, epollClosed⟩ := checked
  refine ⟨client, calls, run, registered, ?_, tcpClient_descriptors_safe run⟩
  rintro (_ | _)
  · exact sockClosed
  · exact epollClosed

end MiniMiddleware.Transport
