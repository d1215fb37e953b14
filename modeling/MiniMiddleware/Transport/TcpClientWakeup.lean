import MiniMiddleware.Library.Machine
import MiniMiddleware.Transport.TcpClientTransport

/-!
# Wakeups of the TCP client

The event loop of the client drains the write buffer when the socket is
reported writable, which it only is while `EPOLLOUT` is registered.  The
registration is rewritten in three places: by `send` and by `handle_write`,
both under `write_mutex_`, and by the completion of `connect`, which sets the
connected state first and registers `EPOLLIN` alone afterwards, without the
lock.

The steps are those between which other threads can run.  A critical section
of `send` is one step; `handle_write` holds the lock from `lock` on until it
leaves its loop.
-/

namespace MiniMiddleware.Transport

open MiniMiddleware.Library

/-- Where the event loop stands: in `epoll_wait`, in front of the events that
it returned, between the two statements of `handle_connect_complete`, in front
of the lock of `handle_write`, or in its loop. -/
inductive ClientPc where
  | polling
  | dispatching (readable writable hungUp : Bool)
  | completing
  | entering
  | draining
  deriving DecidableEq, Repr

/-- A started client with its event loop, and the payloads of the threads that
are in `send` and have seen the connected state. -/
structure TcpClientLoop where
  client : TcpClientTransport
  pc : ClientPc
  checked : List Bytes
  deriving DecidableEq, Repr

/-- The steps of the event loop, of the senders, and of `stop`.  `failed` says
that the connection failed, the peer closed it or a read went wrong; `append`
names a sender by its place among those that have seen the connected state. -/
inductive ClientInput where
  | wait (readable writable hungUp : Bool)
  | dispatch (failed : Bool)
  | register
  | lock
  | write (result : WriteResult)
  | finishWrite
  | check (payload : Bytes)
  | append (sender : Nat)
  | beginStop
  | finishStop
  deriving DecidableEq, Repr

namespace TcpClientLoop

/-- The body of the loop over the events that `epoll_wait` returned. -/
def dispatch (loop : TcpClientLoop) (readable writable hungUp failed : Bool) :
    TcpClientLoop :=
  if hungUp then
    { loop with client := loop.client.hangUp, pc := .polling }
  else if loop.client.state = .connecting ∧ writable then
    if failed then
      { loop with client := loop.client.hangUp, pc := .polling }
    else
      { loop with
        client := { loop.client with state := .connected }
        pc := .completing }
  else if loop.client.state = .connected then
    { loop with
      client :=
        if readable ∧ failed then loop.client.hangUp else loop.client
      pc := if writable then .entering else .polling }
  else
    { loop with pc := .polling }

/-- One step; the events are the bytes handed to the kernel. -/
def step (loop : TcpClientLoop) :
    ClientInput → Option (TcpClientLoop × List Bytes)
  | .wait readable writable hungUp =>
      -- The socket is reported writable only while that is registered.
      if loop.pc = .polling ∧ loop.client.running ∧
          (writable → loop.client.wantsWrite) then
        some ({ loop with pc := .dispatching readable writable hungUp }, [])
      else
        none
  | .dispatch failed =>
      match loop.pc with
      | .dispatching readable writable hungUp =>
          some (loop.dispatch readable writable hungUp failed, [])
      | _ => none
  | .register =>
      if loop.pc = .completing then
        some
          ({ loop with
              client := { loop.client with wantsWrite := false }
              pc := .polling }, [])
      else
        none
  | .lock =>
      if loop.pc = .entering then
        some
          ({ loop with
              client := { loop.client with writing := true }
              pc := .draining }, [])
      else
        none
  | .write result =>
      match loop.client.write result with
      | none => none
      | some (client, bytes) =>
          some
            ({ loop with
                client := client
                pc := if client.writing then .draining else .polling },
              [bytes])
  | .finishWrite =>
      loop.client.finishWrite.map fun client =>
        ({ loop with client := client, pc := .polling }, [])
  | .check payload =>
      if loop.client.state = .connected then
        some ({ loop with checked := loop.checked ++ [payload] }, [])
      else
        some (loop, [])
  | .append sender =>
      match loop.checked[sender]? with
      | none => none
      | some payload =>
          (loop.client.sendLocked payload).map fun sent =>
            ({ loop with
                client := sent.1
                checked := loop.checked.eraseIdx sender }, [])
  | .beginStop => some ({ loop with client := loop.client.beginStop }, [])
  | .finishStop =>
      if loop.pc = .polling then
        loop.client.finishStop.map fun client =>
          ({ loop with client := client }, [])
      else
        none

/-- After `start`: the connection is in progress and `EPOLLOUT` registered, or
it is established and `EPOLLIN` registered; nothing has been sent. -/
structure Fresh (loop : TcpClientLoop) : Prop where
  state :
    loop.client.state = .connecting ∧ loop.client.wantsWrite = true ∨
      loop.client.state = .connected ∧ loop.client.wantsWrite = false
  running : loop.client.running = true
  stopped : loop.client.stopped = false
  writeBuffer : loop.client.writeBuffer = []
  writing : loop.client.writing = false
  pc : loop.pc = .polling
  checked : loop.checked = []

end TcpClientLoop

/-- The client as a machine. -/
def clientMachine : Machine TcpClientLoop ClientInput Bytes where
  initial := TcpClientLoop.Fresh
  step := TcpClientLoop.step

/-- The condition on a step: unless the client is going down, the completion
of `connect` registers `EPOLLIN` alone only while the write buffer is empty. -/
def registersEmpty (loop : TcpClientLoop) : ClientInput → Bool
  | .register =>
      loop.client.writeBuffer = [] || !loop.client.running ||
        loop.client.stopped
  | _ => true

/-- While the client is up, queued bytes have `EPOLLOUT` registered. -/
def Armed (client : TcpClientTransport) : Prop :=
  client.running = true → client.stopped = false → client.writeBuffer ≠ [] →
    client.wantsWrite = true

/-! ## The critical sections keep the client armed -/

section Sections

variable {client : TcpClientTransport}

theorem Armed.hangUp (client : TcpClientTransport) : Armed client.hangUp := by
  intro running
  cases running

theorem Armed.beginStop (client : TcpClientTransport) :
    Armed client.beginStop := by
  intro running
  cases running

theorem Armed.sendLocked
    (armed : Armed client) {payload : Bytes}
    {sent : TcpClientTransport × Bool}
    (stepped : client.sendLocked payload = some sent) : Armed sent.1 := by
  obtain ⟨after, accepted⟩ := sent
  rcases TcpClientTransport.sendLocked_cases stepped with
    ⟨_, rfl, _⟩ | ⟨_, rfl, _⟩
  · exact armed
  · exact fun _ _ _ => rfl

theorem Armed.write
    (armed : Armed client) {result : WriteResult}
    {after : TcpClientTransport × Bytes}
    (stepped : client.write result = some after) : Armed after.1 := by
  cases result with
  | accepted count =>
      simp only [TcpClientTransport.write] at stepped
      split_ifs at stepped
      cases stepped
      intro running going queued
      refine armed running going fun empty => queued ?_
      simp [empty]
  | wouldBlock =>
      simp only [TcpClientTransport.write] at stepped
      split_ifs at stepped
      cases stepped
      exact armed
  | failed =>
      simp only [TcpClientTransport.write] at stepped
      split_ifs at stepped
      cases stepped
      intro running
      cases running

/-- `handle_write` gives `EPOLLOUT` up only with an empty buffer. -/
theorem Armed.finishWrite
    {after : TcpClientTransport}
    (stepped : client.finishWrite = some after) : Armed after := by
  obtain ⟨⟨_, empty⟩, rfl⟩ := TcpClientTransport.finishWrite_eq_some stepped
  exact fun _ _ queued => absurd empty queued

theorem Armed.finishStop
    (armed : Armed client) {after : TcpClientTransport}
    (stepped : client.finishStop = some after) : Armed after := by
  obtain ⟨_, rfl⟩ := TcpClientTransport.finishStop_eq_some stepped
  exact armed

end Sections

theorem Armed.dispatch
    {loop : TcpClientLoop} (armed : Armed loop.client)
    (readable writable hungUp failed : Bool) :
    Armed (loop.dispatch readable writable hungUp failed).client := by
  unfold TcpClientLoop.dispatch
  split_ifs
  · exact Armed.hangUp loop.client
  · exact Armed.hangUp loop.client
  · exact armed
  · exact Armed.hangUp loop.client
  · exact Armed.hangUp loop.client
  · exact armed
  · exact armed
  · exact armed

theorem Armed.step
    {loop target : TcpClientLoop} {input : ClientInput} {emitted : List Bytes}
    (armed : Armed loop.client) (registers : registersEmpty loop input = true)
    (stepped : loop.step input = some (target, emitted)) :
    Armed target.client := by
  cases input with
  | wait readable writable hungUp =>
      simp only [TcpClientLoop.step] at stepped
      split_ifs at stepped
      cases stepped
      exact armed
  | dispatch failed =>
      simp only [TcpClientLoop.step] at stepped
      split at stepped
      · cases stepped
        exact armed.dispatch _ _ _ failed
      · cases stepped
  | register =>
      simp only [TcpClientLoop.step] at stepped
      split_ifs at stepped
      cases stepped
      intro running going queued
      simp only [registersEmpty, Bool.or_eq_true, decide_eq_true_eq,
        Bool.not_eq_true'] at registers
      rcases registers with (empty | down) | stopping
      · exact absurd empty queued
      · rw [down] at running
        cases running
      · rw [stopping] at going
        cases going
  | lock =>
      simp only [TcpClientLoop.step] at stepped
      split_ifs at stepped
      cases stepped
      exact armed
  | write result =>
      simp only [TcpClientLoop.step] at stepped
      split at stepped
      · cases stepped
      · rename_i client bytes wrote
        cases stepped
        exact armed.write wrote
  | finishWrite =>
      obtain ⟨client, finished, equal⟩ := Option.map_eq_some_iff.mp stepped
      cases equal
      exact Armed.finishWrite finished
  | check payload =>
      simp only [TcpClientLoop.step] at stepped
      split_ifs at stepped
      · cases stepped
        exact armed
      · cases stepped
        exact armed
  | append sender =>
      simp only [TcpClientLoop.step] at stepped
      split at stepped
      · cases stepped
      · obtain ⟨sent, locked, equal⟩ := Option.map_eq_some_iff.mp stepped
        cases equal
        exact armed.sendLocked locked
  | beginStop =>
      cases stepped
      exact Armed.beginStop loop.client
  | finishStop =>
      simp only [TcpClientLoop.step] at stepped
      split_ifs at stepped
      obtain ⟨client, finished, equal⟩ := Option.map_eq_some_iff.mp stepped
      cases equal
      exact armed.finishStop finished

/-- In every run in which the completion of `connect` registers `EPOLLIN`
alone only while nothing is queued: whenever the client is running and not
being stopped, wherever the threads stand, queued bytes have `EPOLLOUT`
registered. -/
theorem queued_bytes_registered
    {inputs : List ClientInput} {loop : TcpClientLoop} {written : List Bytes}
    (run :
      clientMachine.Run (fun loop input => registersEmpty loop input = true)
        inputs loop written)
    (running : loop.client.running = true)
    (going : loop.client.stopped = false)
    (queued : loop.client.writeBuffer ≠ []) :
    loop.client.wantsWrite = true := by
  have armed : Armed loop.client :=
    run.invariant (fun loop _ => Armed loop.client)
      (fun loop (fresh : loop.Fresh) _ _ queued =>
        absurd fresh.writeBuffer queued)
      fun _ _ _ _ _ armed registers stepped => armed.step registers stepped
  exact armed running going queued

/-! ## A connection that is being established -/

/-- A client whose `connect` is in progress. -/
def connectingClient : TcpClientLoop where
  client :=
    { state := .connecting
      running := true
      stopped := false
      writeBuffer := []
      wantsWrite := true
      writing := false }
  pc := .polling
  checked := []

theorem connectingClient_fresh : connectingClient.Fresh :=
  ⟨Or.inl ⟨rfl, rfl⟩, rfl, rfl, rfl, rfl, rfl, rfl⟩

/-- The connection is established, and one byte is sent afterwards. -/
theorem queued_bytes_registered_sentAfterwards :
    ∃ loop written,
      clientMachine.Run (fun loop input => registersEmpty loop input = true)
          [.wait false true false, .dispatch false, .register, .check [7],
            .append 0] loop written ∧
        loop.client.writeBuffer ≠ [] ∧ loop.client.wantsWrite = true := by
  obtain ⟨loop, written, run, checked⟩ :=
    Machine.run_of_exec_check clientMachine
      (fun loop input => registersEmpty loop input = true)
      [.wait false true false, .dispatch false, .register, .check [7],
        .append 0]
      connectingClient
      (fun loop _ =>
        loop.client.running = true ∧ loop.client.stopped = false ∧
          loop.client.writeBuffer ≠ [])
      connectingClient_fresh (by decide +kernel)
  obtain ⟨running, going, queued⟩ := of_decide_eq_true checked
  exact ⟨loop, written, run, queued,
    queued_bytes_registered run running going queued⟩

/-- A sender runs between the two statements of the completion: its bytes are
queued, and `EPOLLOUT` is not registered. -/
theorem queued_bytes_not_registered :
    ¬ ∀ (inputs : List ClientInput) (loop : TcpClientLoop)
        (written : List Bytes),
        clientMachine.Run Machine.free inputs loop written →
        loop.client.writing = false →
        loop.pc ≠ .completing →
        loop.client.state = .connected →
        loop.client.running = true →
        loop.client.stopped = false →
        loop.client.writeBuffer ≠ [] →
        loop.client.wantsWrite = true := by
  intro claimed
  obtain ⟨loop, written, run, checked⟩ :=
    Machine.run_of_exec_check clientMachine Machine.free
      [.wait false true false, .dispatch false, .check [7], .append 0,
        .register]
      connectingClient
      (fun loop _ =>
        loop.client.writing = false ∧ loop.pc ≠ .completing ∧
          loop.client.state = .connected ∧ loop.client.running = true ∧
          loop.client.stopped = false ∧ loop.client.writeBuffer ≠ [] ∧
          loop.client.wantsWrite = false)
      connectingClient_fresh (by decide +kernel)
  obtain ⟨outside, completed, connected, running, going, queued, lost⟩ :=
    of_decide_eq_true checked
  have registered :=
    claimed _ loop written run outside completed connected running going queued
  rw [lost] at registered
  cases registered

end MiniMiddleware.Transport
