import MiniMiddleware.Transport.FrameCodec

/-!
# The sending side of a TCP connection

`send` frames a payload and appends it to a write buffer; the event loop
drains the buffer in `handle_write`, one `write` call after the other, while
it holds the buffer's lock.  The steps below are the parts between which other
threads can run: the state check of `send`, its critical section, entering
`handle_write`, each call of `write`, and leaving the loop.
-/

namespace MiniMiddleware.Transport

open FrameCodec

/-- `ConnectionState`. -/
inductive ConnectionState where
  | disconnected
  | connecting
  | connected
  deriving DecidableEq, Repr

/-- What one call of `write` returned. -/
inductive WriteResult where
  | accepted (count : Nat)
  | wouldBlock
  | failed
  deriving DecidableEq, Repr

/-- The fields of `TcpClientTransport` that `send`, `handle_write` and `stop`
use.  `writing` holds while `handle_write` owns `write_mutex_`; `wantsWrite`
says whether `EPOLLOUT` is registered. -/
structure TcpClientTransport where
  state : ConnectionState
  running : Bool
  stopped : Bool
  writeBuffer : Bytes
  wantsWrite : Bool
  writing : Bool
  deriving DecidableEq, Repr

namespace TcpClientTransport

/-- A client whose connection is established. -/
def established : TcpClientTransport where
  state := .connected
  running := true
  stopped := false
  writeBuffer := []
  wantsWrite := false
  writing := false

/-- The critical section of `send`; `none` while `handle_write` holds the
lock. -/
def sendLocked (client : TcpClientTransport) (payload : Bytes) :
    Option (TcpClientTransport × Bool) :=
  if client.writing then
    none
  else if client.stopped then
    some (client, false)
  else
    some
      ({ client with
          writeBuffer := client.writeBuffer ++ encode payload
          wantsWrite := true },
        true)

/-- Entering `handle_write`, which the event loop does only for a connected
client that is still running. -/
def beginWrite (client : TcpClientTransport) : Option TcpClientTransport :=
  if client.running ∧ client.state = .connected ∧ ¬ client.writing then
    some { client with writing := true }
  else
    none

/-- One round of the loop of `handle_write`: the bytes handed to the kernel.
The kernel accepts at least one and at most all of them. -/
def write (client : TcpClientTransport) :
    WriteResult → Option (TcpClientTransport × Bytes)
  | .accepted count =>
      if client.writing ∧ 0 < count ∧ count ≤ client.writeBuffer.length then
        some
          ({ client with writeBuffer := client.writeBuffer.drop count },
            client.writeBuffer.take count)
      else
        none
  | .wouldBlock =>
      if client.writing ∧ client.writeBuffer ≠ [] then
        some ({ client with writing := false }, [])
      else
        none
  | .failed =>
      if client.writing ∧ client.writeBuffer ≠ [] then
        some ({ client with running := false, writing := false }, [])
      else
        none

/-- Leaving `handle_write` with an empty buffer: only `EPOLLIN` again. -/
def finishWrite (client : TcpClientTransport) : Option TcpClientTransport :=
  if client.writing ∧ client.writeBuffer = [] then
    some { client with wantsWrite := false, writing := false }
  else
    none

/-- The event loop notices an error, a hangup or the end of the stream. -/
def hangUp (client : TcpClientTransport) : TcpClientTransport :=
  { client with running := false }

/-- The beginning of `stop`: `stopped_.exchange(true)` and `running_ = false`. -/
def beginStop (client : TcpClientTransport) : TcpClientTransport :=
  { client with stopped := true, running := false }

/-- The end of `stop`, after the event loop has been joined. -/
def finishStop (client : TcpClientTransport) : Option TcpClientTransport :=
  if client.stopped ∧ ¬ client.writing then
    some { client with state := .disconnected }
  else
    none

/-! ## What the operations do -/

section Inversion

variable {client after : TcpClientTransport}

/-- The critical section of `send` refuses the payload or queues its frame. -/
theorem sendLocked_cases
    {payload : Bytes} {accepted : Bool}
    (locked : client.sendLocked payload = some (after, accepted)) :
    client.stopped = true ∧ after = client ∧ accepted = false ∨
      client.stopped = false ∧
        after =
          { client with
            writeBuffer := client.writeBuffer ++ encode payload
            wantsWrite := true } ∧
        accepted = true := by
  unfold sendLocked at locked
  split_ifs at locked with writing stopped
  · cases locked
    exact Or.inl ⟨stopped, rfl, rfl⟩
  · cases locked
    exact Or.inr ⟨Bool.eq_false_iff.mpr stopped, rfl, rfl⟩

theorem finishWrite_eq_some
    (finished : client.finishWrite = some after) :
    (client.writing = true ∧ client.writeBuffer = []) ∧
      after = { client with wantsWrite := false, writing := false } := by
  unfold finishWrite at finished
  split_ifs at finished with done
  cases finished
  exact ⟨done, rfl⟩

theorem finishStop_eq_some
    (finished : client.finishStop = some after) :
    client.stopped = true ∧ after = { client with state := .disconnected } := by
  unfold finishStop at finished
  split_ifs at finished with stopping
  cases finished
  exact ⟨stopping.1, rfl⟩

end Inversion

end TcpClientTransport

end MiniMiddleware.Transport
