import MiniMiddleware.Core.RpcTopics
import MiniMiddleware.Library.Lists
import MiniMiddleware.Library.Machine
import MiniMiddleware.Library.Tables

/-!
# The client of a service

`call` numbers its request, registers a `Pending` for it, publishes the
request and waits on the condition variable of the `Pending`.  The worker of
the reply subscriber looks a reply up in the map of registered calls, parses
it and stores the outcome in the `Pending` it has found.

The steps are the critical sections: those of `pending_mtx_`, which guards the
map, and those of the mutex of one `Pending`.  A caller that has woken up
holds the latter until it returns.
-/

namespace MiniMiddleware.Core

open MiniMiddleware.Library MiniMiddleware.Transport

variable {Req Resp : Type}

/-- Where a thread stands in `call`: in front of the registration, of
`publish`, in `wait_for`, in front of `erase_pending` after a failed `publish`
or after it has woken up, and after its return. -/
inductive CallPc where
  | numbered
  | registered
  | waiting
  | abandoned
  | woken (ready : Bool)
  | returned
  deriving DecidableEq, Repr

/-- What a call asks, and under which number. -/
structure CallRequest (Req : Type) where
  request : Req
  payload : Bytes
  requestId : Nat
  deriving DecidableEq, Repr

/-- A call and its `Pending`. -/
structure Call (Req Resp : Type) extends CallRequest Req where
  pc : CallPc
  done : Bool
  response : Option Resp
  deriving DecidableEq, Repr

/-- The calls made so far, the map of those registered by request id, the
counter, and what the reply worker is about to store. -/
structure Client (Req Resp : Type) where
  calls : List (Call Req Resp)
  pending : Std.TreeMap Nat Nat
  nextRequestId : Nat
  worker : Option (Nat × Option Resp)

/-- The critical sections of `call`, named by the place of the call, and those
of `handle_reply`.  `serialized` is the result of `publish`. -/
inductive ClientInput (Req : Type) where
  | call (request : Req)
  | register (index : Nat)
  | publish (index : Nat) (serialized : Bool)
  | wake (index : Nat)
  | finish (index : Nat)
  | receive (reply : RpcReply)
  | store
  deriving DecidableEq, Repr

/-- What becomes visible: a request that does not serialize, a registration, a
request on the wire, the begin of `handle_reply`, and the return of a call,
which is `ready` unless it timed out or could not publish. -/
inductive ClientEvent (Resp : Type) where
  | refused
  | registered (index : Nat)
  | sent (request : RpcRequest)
  | received (reply : RpcReply)
  | returned (index : Nat) (ready : Bool) (result : Option Resp)
  deriving DecidableEq, Repr

/-- What `handle_reply` makes of a reply. -/
def RpcReply.outcome (codec : Codec Resp) (reply : RpcReply) : Option Resp :=
  if reply.ok then codec.parse reply.payload else none

namespace Client

/-- A client right after its construction. -/
def created : Client Req Resp where
  calls := []
  pending := ∅
  nextRequestId := 1
  worker := none

/-- The requests of all calls made so far. -/
def requests (client : Client Req Resp) : List (CallRequest Req) :=
  client.calls.map Call.toCallRequest

/-- The call with a given place and position. -/
def callAt (client : Client Req Resp) (index : Nat) (pc : CallPc) :
    Option (Call Req Resp) :=
  client.calls[index]?.filter (·.pc = pc)

/-- Move a call on. -/
def moveTo (client : Client Req Resp) (index : Nat) (pc : CallPc) :
    Client Req Resp :=
  { client with
    calls := client.calls.modify index fun call => { call with pc := pc } }

/-- The begin of `call`: `SerializeToString` and `fetch_add`. -/
def call (codec : Codec Req) (client : Client Req Resp) (request : Req) :
    Client Req Resp × List (ClientEvent Resp) :=
  match codec.serialize request with
  | none => (client, [.refused])
  | some payload =>
      ({ client with
          calls :=
            client.calls ++
              [⟨⟨request, payload, client.nextRequestId⟩, .numbered, false,
                none⟩]
          nextRequestId := (client.nextRequestId + 1) % 2 ^ 64 }, [])

/-- `pending_[request_id] = pending`. -/
def register (client : Client Req Resp) (index : Nat) :
    Option (Client Req Resp × List (ClientEvent Resp)) :=
  (client.callAt index .numbered).map fun call =>
    ({ client.moveTo index .registered with
        pending := client.pending.insert call.requestId index },
      [.registered index])

/-- `publish` of the envelope; it fails only if that does not serialize. -/
def publish (replyTopic : Text) (client : Client Req Resp) (index : Nat)
    (serialized : Bool) :
    Option (Client Req Resp × List (ClientEvent Resp)) :=
  (client.callAt index .registered).map fun call =>
    if serialized then
      (client.moveTo index .waiting,
        [.sent ⟨call.requestId, replyTopic, call.payload⟩])
    else
      (client.moveTo index .abandoned, [])

/-- The return of `wait_for`, after a notification or at the timeout: its
result is `done`, read with the mutex held. -/
def wake (client : Client Req Resp) (index : Nat) :
    Option (Client Req Resp × List (ClientEvent Resp)) :=
  (client.callAt index .waiting).map fun call =>
    (client.moveTo index (.woken call.done), [])

/-- `erase_pending` and the return.  Between the two a caller that has woken up
only reads its own `Pending`, whose mutex it holds. -/
def finish (client : Client Req Resp) (index : Nat) :
    Option (Client Req Resp × List (ClientEvent Resp)) :=
  match client.calls[index]? with
  | none => none
  | some call =>
      let target :=
        { client.moveTo index .returned with
          pending := client.pending.erase call.requestId }
      match call.pc with
      | .abandoned => some (target, [.returned index false none])
      | .woken ready =>
          some
            (target,
              [.returned index ready (if ready then call.response else none)])
      | _ => none

/-- The begin of `handle_reply`, up to the parsed response. -/
def receive (codec : Codec Resp) (client : Client Req Resp)
    (reply : RpcReply) :
    Option (Client Req Resp × List (ClientEvent Resp)) :=
  match client.worker with
  | some _ => none
  | none =>
      some
        ({ client with
            worker :=
              client.pending[reply.requestId]?.map fun index =>
                (index, reply.outcome codec) },
          [.received reply])

/-- A caller that has woken up holds the mutex of its `Pending`. -/
def locked (client : Client Req Resp) (index : Nat) : Bool :=
  client.calls[index]?.any fun call =>
    call.pc = .woken true ∨ call.pc = .woken false

/-- The end of `handle_reply`. -/
def store (client : Client Req Resp) :
    Option (Client Req Resp × List (ClientEvent Resp)) :=
  match client.worker with
  | none => none
  | some (index, parsed) =>
      if client.locked index then
        none
      else
        some
          ({ client with
              calls :=
                client.calls.modify index fun call =>
                  { call with response := parsed, done := true }
              worker := none }, [])

/-- One critical section. -/
def step (request : Codec Req) (response : Codec Resp) (replyTopic : Text)
    (client : Client Req Resp) :
    ClientInput Req → Option (Client Req Resp × List (ClientEvent Resp))
  | .call message => some (client.call request message)
  | .register index => client.register index
  | .publish index serialized => client.publish replyTopic index serialized
  | .wake index => client.wake index
  | .finish index => client.finish index
  | .receive reply => client.receive response reply
  | .store => client.store

/-! ## What each critical section does -/

section Steps

variable {client target : Client Req Resp}
  {emitted : List (ClientEvent Resp)} {index : Nat}

theorem callAt_eq_some {pc : CallPc} {call : Call Req Resp} :
    client.callAt index pc = some call ↔
      client.calls[index]? = some call ∧ call.pc = pc := by
  simp [callAt, Option.filter_eq_some_iff]

theorem register_eq_some
    (stepped : client.register index = some (target, emitted)) :
    ∃ call, client.calls[index]? = some call ∧ call.pc = .numbered ∧
      target =
        { client.moveTo index .registered with
          pending := client.pending.insert call.requestId index } ∧
      emitted = [.registered index] := by
  obtain ⟨call, found, equal⟩ := Option.map_eq_some_iff.mp stepped
  obtain ⟨member, place⟩ := callAt_eq_some.mp found
  cases equal
  exact ⟨call, member, place, rfl, rfl⟩

theorem publish_eq_some
    {replyTopic : Text} {serialized : Bool}
    (stepped :
      client.publish replyTopic index serialized = some (target, emitted)) :
    ∃ call pc, client.calls[index]? = some call ∧ call.pc = .registered ∧
      (pc = .waiting ∨ pc = .abandoned) ∧
      target = client.moveTo index pc ∧
      ∀ event ∈ emitted,
        event = .sent ⟨call.requestId, replyTopic, call.payload⟩ := by
  obtain ⟨call, found, equal⟩ := Option.map_eq_some_iff.mp stepped
  obtain ⟨member, place⟩ := callAt_eq_some.mp found
  cases serialized with
  | true =>
      cases equal
      exact ⟨call, _, member, place, .inl rfl, rfl, by simp⟩
  | false =>
      cases equal
      exact ⟨call, _, member, place, .inr rfl, rfl, by simp⟩

theorem wake_eq_some
    (stepped : client.wake index = some (target, emitted)) :
    ∃ call, client.calls[index]? = some call ∧ call.pc = .waiting ∧
      target = client.moveTo index (.woken call.done) ∧ emitted = [] := by
  obtain ⟨call, found, equal⟩ := Option.map_eq_some_iff.mp stepped
  obtain ⟨member, place⟩ := callAt_eq_some.mp found
  cases equal
  exact ⟨call, member, place, rfl, rfl⟩

theorem finish_eq_some
    (stepped : client.finish index = some (target, emitted)) :
    ∃ call ready, client.calls[index]? = some call ∧
      (call.pc = .abandoned ∧ ready = false ∨ call.pc = .woken ready) ∧
      target =
        { client.moveTo index .returned with
          pending := client.pending.erase call.requestId } ∧
      emitted =
        [.returned index ready (if ready then call.response else none)] := by
  simp only [finish] at stepped
  split at stepped
  · cases stepped
  · rename_i call found
    split at stepped
    · rename_i place
      cases stepped
      exact ⟨call, false, found, .inl ⟨place, rfl⟩, rfl, rfl⟩
    · rename_i ready place
      cases stepped
      exact ⟨call, ready, found, .inr place, rfl, rfl⟩
    · cases stepped

theorem receive_eq_some
    {codec : Codec Resp} {reply : RpcReply}
    (stepped : client.receive codec reply = some (target, emitted)) :
    client.worker = none ∧
      target =
        { client with
          worker :=
            client.pending[reply.requestId]?.map fun index =>
              (index, reply.outcome codec) } ∧
      emitted = [.received reply] := by
  simp only [receive] at stepped
  split at stepped
  · cases stepped
  · rename_i idle
    cases stepped
    exact ⟨idle, rfl, rfl⟩

theorem store_eq_some (stepped : client.store = some (target, emitted)) :
    ∃ index parsed, client.worker = some (index, parsed) ∧
      client.locked index = false ∧
      target =
        { client with
          calls :=
            client.calls.modify index fun call =>
              { call with response := parsed, done := true }
          worker := none } ∧
      emitted = [] := by
  simp only [store] at stepped
  split at stepped
  · cases stepped
  · rename_i index parsed busy
    split at stepped
    · cases stepped
    · rename_i unlocked
      cases stepped
      exact ⟨index, parsed, busy, by simpa using unlocked, rfl, rfl⟩

end Steps

end Client

end MiniMiddleware.Core
