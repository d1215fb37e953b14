import MiniMiddleware.Library.Threads
import MiniMiddleware.Transport.TcpClientTransport
import MiniMiddleware.Transport.TcpServerTransport

/-!
# The threads of the TCP client

A started client is used by its event loop and by any number of callers of
`send` and `stop`.  This module takes the functions apart to the statements
between which another thread can run: the loads and stores of the atomic
members, taking and releasing `write_mutex_`, the calls to the system, and
the join.  What the kernel answers is an input, so any answer can follow any
registration.  A callback that calls `send` or `stop` is one more caller.
-/

namespace MiniMiddleware.Transport

open MiniMiddleware.Library FrameCodec

/-- The event loop, or a caller of `send` and `stop`. -/
inductive ClientThread where
  | loop
  | caller (index : Nat)
  deriving DecidableEq, Repr

/-- `sock_fd_` and `epoll_fd_`. -/
inductive Descriptor where
  | sock
  | epoll
  deriving DecidableEq, Repr

/-- An event returned by `epoll_wait`: `EPOLLIN`, `EPOLLOUT`, and one of
`EPOLLERR` and `EPOLLHUP`. -/
structure PollEvent where
  readable : Bool
  writable : Bool
  failed : Bool
  deriving DecidableEq, Repr

/-- `MAX_EVENTS`. -/
def maxEvents : Nat := 16

/-- The size of the buffer in `handle_read`. -/
def readSize : Nat := 4096

/-- What the client does that others can see: its calls to the system, the
join of its thread, the messages handed to the callback, and the results of
`send`. -/
inductive ClientCall where
  | epollWait
  | epollCtl (writable : Bool)
  | getsockopt
  | read
  | write (bytes : Bytes)
  | shutdown
  | close (descriptor : Descriptor)
  | join
  | callback (message : Bytes)
  | sent (accepted : Bool)
  deriving DecidableEq, Repr

/-- Whether a call is issued on a descriptor. -/
def ClientCall.uses : ClientCall → Descriptor → Bool
  | .epollWait, .epoll => true
  | .epollCtl _, _ => true
  | .getsockopt, .sock => true
  | .read, .sock => true
  | .write _, .sock => true
  | .shutdown, .sock => true
  | _, _ => false

/-- The members that the threads share.  `held` says that a variable is not
−1, `isOpen` that the kernel still has the descriptor; `joinable` is
`thread_.joinable()`, and `ended` that the event loop has returned. -/
structure SharedClient where
  state : ConnectionState
  running : Bool
  stopped : Bool
  held : Descriptor → Bool
  isOpen : Descriptor → Bool
  readBuffer : Bytes
  writeBuffer : Bytes
  lock : Option ClientThread
  joinable : Bool
  ended : Bool

/-- The statement that a thread executes next.  The points of the event loop
carry the events still to be handled. -/
inductive ClientPoint where
  | idle
  -- `send`
  | sendLock (frame : Bytes)
  | sendCheck (frame : Bytes)
  | sendAppend (frame : Bytes)
  | sendModify
  | sendUnlock (accepted : Bool)
  -- `stop`
  | stopClear
  | stopIfSocket
  | stopShutdown
  | stopIfJoinable
  | stopJoin
  | stopLock
  | stopIfHeld (descriptor : Descriptor)
  | stopClose (descriptor : Descriptor)
  | stopForget (descriptor : Descriptor)
  | stopUnlock
  | stopFinish
  -- `event_loop`
  | loopCheck
  | loopWait
  | loopDispatch (events : List PollEvent)
  | loopConnecting (event : PollEvent) (rest : List PollEvent)
  | loopConnected (event : PollEvent) (rest : List PollEvent)
  | loopEnded
  -- `handle_connect_complete`
  | completeCheck (rest : List PollEvent)
  | completeState (rest : List PollEvent)
  | completeModify (rest : List PollEvent)
  -- `handle_read`
  | readNext (writable : Bool) (rest : List PollEvent)
  | readDecode (peerClosed writable : Bool) (rest : List PollEvent)
  | readDeliver (messages : List Bytes) (peerClosed writable : Bool)
      (rest : List PollEvent)
  -- `handle_write`
  | writeLock (rest : List PollEvent)
  | writeNext (rest : List PollEvent)
  | writeIfEmpty (rest : List PollEvent)
  | writeModify (rest : List PollEvent)
  | writeUnlock (rest : List PollEvent)
  deriving DecidableEq, Repr

/-- What is decided outside the program: the calls that callers make, and the
answers of the kernel. -/
inductive ClientChoice where
  | proceed
  | callSend (payload : Bytes)
  | callStop
  | polled (events : List PollEvent)
  | pollFailed (interrupted : Bool)
  | socketError (failed : Bool)
  | readChunk (chunk : Bytes)
  | readEnded (last : ReadEnd)
  | wrote (result : WriteResult)
  deriving DecidableEq, Repr

namespace SharedClient

/-- `std::lock_guard` on `write_mutex_`; `none` while another thread has it. -/
def acquire (client : SharedClient) (thread : ClientThread) :
    Option SharedClient :=
  if client.lock = none then some { client with lock := some thread }
  else none

/-- The end of the scope of a `std::lock_guard`. -/
def release (client : SharedClient) : SharedClient :=
  { client with lock := none }

/-- `running_ = false`. -/
def clearRunning (client : SharedClient) : SharedClient :=
  { client with running := false }

end SharedClient

namespace ClientPoint

/-- The next event handled after `handle_read`: `handle_write` if the same
event says writable, else the rest. -/
def afterRead (writable : Bool) (rest : List PollEvent) : ClientPoint :=
  if writable then writeLock rest else loopDispatch rest

/-- `stop` goes on to `epoll_fd_` after `sock_fd_`, and leaves the critical
section after `epoll_fd_`. -/
def afterClose : Descriptor → ClientPoint
  | .sock => stopIfHeld .epoll
  | .epoll => stopUnlock

end ClientPoint

open ClientPoint

/-- The steps of `send`. -/
def sendStep (thread : ClientThread) (client : SharedClient) :
    ClientPoint → ClientChoice →
      Option (SharedClient × ClientPoint × List ClientCall)
  | .idle, .callSend payload =>
      if client.state = .connected then
        some (client, .sendLock (encode payload), [])
      else
        some (client, .idle, [.sent false])
  | .sendLock frame, .proceed =>
      (client.acquire thread).map fun locked => (locked, .sendCheck frame, [])
  | .sendCheck frame, .proceed =>
      if client.stopped then some (client, .sendUnlock false, [])
      else some (client, .sendAppend frame, [])
  | .sendAppend frame, .proceed =>
      some
        ({ client with writeBuffer := client.writeBuffer ++ frame },
          .sendModify, [])
  | .sendModify, .proceed =>
      some (client, .sendUnlock true, [.epollCtl true])
  | .sendUnlock accepted, .proceed =>
      some (client.release, .idle, [.sent accepted])
  | _, _ => none

/-- The steps of `stop`. -/
def stopStep (thread : ClientThread) (client : SharedClient) :
    ClientPoint → ClientChoice →
      Option (SharedClient × ClientPoint × List ClientCall)
  | .idle, .callStop =>
      if client.stopped then some (client, .idle, [])
      else some ({ client with stopped := true }, .stopClear, [])
  | .stopClear, .proceed =>
      some (client.clearRunning, .stopIfSocket, [])
  | .stopIfSocket, .proceed =>
      if client.held .sock then some (client, .stopShutdown, [])
      else some (client, .stopIfJoinable, [])
  | .stopShutdown, .proceed =>
      some (client, .stopIfJoinable, [.shutdown])
  | .stopIfJoinable, .proceed =>
      if client.joinable then some (client, .stopJoin, [])
      else some (client, .stopLock, [])
  | .stopJoin, .proceed =>
      if client.ended then
        some ({ client with joinable := false }, .stopLock, [.join])
      else
        none
  | .stopLock, .proceed =>
      (client.acquire thread).map fun locked =>
        (locked, .stopIfHeld .sock, [])
  | .stopIfHeld descriptor, .proceed =>
      if client.held descriptor then some (client, .stopClose descriptor, [])
      else some (client, afterClose descriptor, [])
  | .stopClose descriptor, .proceed =>
      some
        ({ client with
            isOpen := Function.update client.isOpen descriptor false },
          .stopForget descriptor, [.close descriptor])
  | .stopForget descriptor, .proceed =>
      some
        ({ client with held := Function.update client.held descriptor false },
          afterClose descriptor, [])
  | .stopUnlock, .proceed =>
      some (client.release, .stopFinish, [])
  | .stopFinish, .proceed =>
      some ({ client with state := .disconnected }, .idle, [])
  | _, _ => none

/-- The steps of `event_loop` and `handle_connect_complete`. -/
def loopStep (client : SharedClient) :
    ClientPoint → ClientChoice →
      Option (SharedClient × ClientPoint × List ClientCall)
  | .loopCheck, .proceed =>
      if client.running then some (client, .loopWait, [])
      else some ({ client with ended := true }, .loopEnded, [])
  | .loopWait, .polled events =>
      if events.length ≤ maxEvents then
        some (client, .loopDispatch events, [.epollWait])
      else
        none
  | .loopWait, .pollFailed interrupted =>
      if interrupted then some (client, .loopCheck, [.epollWait])
      else some ({ client with ended := true }, .loopEnded, [.epollWait])
  | .loopDispatch [], .proceed => some (client, .loopCheck, [])
  | .loopDispatch (event :: rest), .proceed =>
      if event.failed then some (client.clearRunning, .loopCheck, [])
      else some (client, .loopConnecting event rest, [])
  | .loopConnecting event rest, .proceed =>
      if client.state = .connecting ∧ event.writable then
        some (client, .completeCheck rest, [])
      else
        some (client, .loopConnected event rest, [])
  | .loopConnected event rest, .proceed =>
      if client.state = .connected then
        if event.readable then some (client, .readNext event.writable rest, [])
        else some (client, afterRead event.writable rest, [])
      else
        some (client, .loopDispatch rest, [])
  | .completeCheck rest, .socketError failed =>
      if failed then
        some (client.clearRunning, .loopDispatch rest, [.getsockopt])
      else
        some (client, .completeState rest, [.getsockopt])
  | .completeState rest, .proceed =>
      some ({ client with state := .connected }, .completeModify rest, [])
  | .completeModify rest, .proceed =>
      some (client, .loopDispatch rest, [.epollCtl false])
  | _, _ => none

/-- The steps of `handle_read`.  A failed read returns without decoding. -/
def readStep (client : SharedClient) :
    ClientPoint → ClientChoice →
      Option (SharedClient × ClientPoint × List ClientCall)
  | .readNext writable rest, .readChunk chunk =>
      if 0 < chunk.length ∧ chunk.length ≤ readSize then
        some
          ({ client with readBuffer := client.readBuffer ++ chunk },
            .readNext writable rest, [.read])
      else
        none
  | .readNext writable rest, .readEnded last =>
      match last with
      | .wouldBlock => some (client, .readDecode false writable rest, [.read])
      | .peerClosed => some (client, .readDecode true writable rest, [.read])
      | .failed =>
          some (client.clearRunning, afterRead writable rest, [.read])
  | .readDecode peerClosed writable rest, .proceed =>
      let decoded := decode client.readBuffer
      some
        ({ client with readBuffer := decoded.2 },
          .readDeliver decoded.1 peerClosed writable rest, [])
  | .readDeliver (message :: messages) peerClosed writable rest, .proceed =>
      some
        (client, .readDeliver messages peerClosed writable rest,
          [.callback message])
  | .readDeliver [] peerClosed writable rest, .proceed =>
      if peerClosed then
        some (client.clearRunning, afterRead writable rest, [])
      else
        some (client, afterRead writable rest, [])
  | _, _ => none

/-- The steps of `handle_write`. -/
def writeStep (thread : ClientThread) (client : SharedClient) :
    ClientPoint → ClientChoice →
      Option (SharedClient × ClientPoint × List ClientCall)
  | .writeLock rest, .proceed =>
      (client.acquire thread).map fun locked => (locked, .writeNext rest, [])
  | .writeNext rest, .proceed =>
      if client.writeBuffer = [] then some (client, .writeIfEmpty rest, [])
      else none
  | .writeNext rest, .wrote result =>
      if client.writeBuffer = [] then
        none
      else
        match result with
        | .accepted count =>
            if 0 < count ∧ count ≤ client.writeBuffer.length then
              some
                ({ client with writeBuffer := client.writeBuffer.drop count },
                  .writeNext rest, [.write (client.writeBuffer.take count)])
            else
              none
        | .wouldBlock => some (client, .writeIfEmpty rest, [.write []])
        | .failed => some (client.clearRunning, .writeUnlock rest, [.write []])
  | .writeIfEmpty rest, .proceed =>
      if client.writeBuffer = [] then some (client, .writeModify rest, [])
      else some (client, .writeUnlock rest, [])
  | .writeModify rest, .proceed =>
      some (client, .writeUnlock rest, [.epollCtl false])
  | .writeUnlock rest, .proceed =>
      some (client.release, .loopDispatch rest, [])
  | _, _ => none

/-- One step of a thread. -/
def clientStep : ThreadStep ClientThread SharedClient ClientPoint ClientChoice
    ClientCall :=
  fun thread client point choice =>
    sendStep thread client point choice <|> stopStep thread client point choice
      <|> loopStep client point choice <|> readStep client point choice
      <|> writeStep thread client point choice

end MiniMiddleware.Transport
