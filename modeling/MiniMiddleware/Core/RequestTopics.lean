import MiniMiddleware.Core.Rpc
import MiniMiddleware.Core.RpcSegments

/-!
# Request topics of different services

Discovery compares the names of services as they are, while requests travel on
a topic that is built from the segment of the name.  Two services whose names
are alike share their requests, so the handler of the one also runs on what
was asked of the other.
-/

namespace MiniMiddleware.Core

open MiniMiddleware.Library MiniMiddleware.Transport

variable {Clients Services : Type} {system : RpcSystem Clients Services}

/-- A request that a handler has run on was sent on the topic of its
service. -/
def ExecutedRequests (network : RpcNetwork system)
    (events : List (RpcEvent system)) : Prop :=
  ∀ (service : Services) (topic : Text) (wire : RpcRequest)
    (message : system.Req topic) (outcome : HandlerOutcome (system.Resp topic)),
    .service service topic (.executed wire message outcome) ∈ events →
      (system.serviceTopic service, wire) ∈ network.requests

section Steps

variable [DecidableEq Clients] [DecidableEq Services]
  {network target : RpcNetwork system} {events emitted : List (RpcEvent system)}

theorem ExecutedRequests.step
    {input : RpcInput system} (executed : ExecutedRequests network events)
    (stepped : network.step input = some (target, emitted)) :
    ExecutedRequests target (events ++ emitted) := by
  intro service topic wire message outcome member
  cases input with
  | client client input =>
      simp only [RpcNetwork.step] at stepped
      split at stepped
      · obtain ⟨after, _, equal⟩ := Option.map_eq_some_iff.mp stepped
        cases equal
        rcases List.mem_append.mp member with earlier | now
        · exact
            List.mem_append_left _ (executed _ _ _ _ _ earlier)
        · obtain ⟨_, _, impossible⟩ := List.mem_map.mp now
          cases impossible
      · cases stepped
  | serve other sent ending =>
      simp only [RpcNetwork.step] at stepped
      split at stepped
      · rename_i delivered
        obtain ⟨after, handled, equal⟩ := Option.map_eq_some_iff.mp stepped
        cases equal
        rcases List.mem_append.mp member with earlier | now
        · exact executed _ _ _ _ _ earlier
        · obtain ⟨event, occurs, equal⟩ := List.mem_map.mp now
          cases equal
          rcases Service.handleRequest_eq_some handled with
            ⟨_, silent, _⟩ | ⟨parsedMessage, _, ran, _⟩
          · rw [silent] at occurs
            cases occurs
          · rw [ran] at occurs
            cases List.mem_singleton.mp occurs
            exact delivered
      · cases stepped
  | reply other =>
      simp only [RpcNetwork.step] at stepped
      obtain ⟨after, replied, equal⟩ := Option.map_eq_some_iff.mp stepped
      cases equal
      rcases List.mem_append.mp member with earlier | now
      · exact executed _ _ _ _ _ earlier
      · obtain ⟨event, occurs, equal⟩ := List.mem_map.mp now
        cases equal
        exact absurd occurs (Service.not_executed_of_publishReply replied _ _ _)

/-- The run lemma: a handler runs only on requests that some client of a
service with an alike name has sent. -/
theorem alikeNames_of_executed
    {inputs : List (RpcInput system)}
    (run : (rpcMachine system).Run Machine.free inputs network events)
    {service : Services} {topic : Text} {wire : RpcRequest}
    {message : system.Req topic} {outcome : HandlerOutcome (system.Resp topic)}
    (member :
      .service service topic (.executed wire message outcome) ∈ events) :
    ∃ (client : Clients) (index : Nat)
      (call : CallRequest (system.Req (system.requestTopic client))),
      (network.clients client).requests[index]? = some call ∧
        wire = ⟨call.requestId, system.replyTopic client, call.payload⟩ ∧
        AlikeNames (system.serviceName client) (system.offeredName service) := by
  have executed : ExecutedRequests network events := by
    refine run.invariant ExecutedRequests ?_ ?_
    · intro _ _ _ _ _ _ _ impossible
      cases impossible
    · intro _ _ _ _ _ executed _ stepped
      exact executed.step stepped
  have sent := executed service topic wire message outcome member
  obtain ⟨client, index, call, sameTopic, found, equal⟩ :=
    (rpcBooks_of_run run).asked _ _ sent
  refine ⟨client, index, call, found, equal, ?_⟩
  exact (rpcRequestTopic_eq_iff _ _).mp sameTopic.symm

end Steps

/-! ## One client and one service -/

/-- A client of the first name and a service of the second one, all messages
being byte strings. -/
def oneService (first second : Text) : RpcSystem Unit Unit where
  serviceName _ := first
  clientId _ := ['c']
  offeredName _ := second
  Req _ := Bytes
  Resp _ := Bytes
  request _ := bytesCodec
  response _ := bytesCodec

/-- The only request that is sent. -/
def soleRequest (first : Text) : RpcRequest :=
  ⟨1, rpcReplyTopic first ['c'], []⟩

/-- A step of the client. -/
def asking (first second : Text) (input : ClientInput Bytes) :
    RpcInput (oneService first second) :=
  .client () input

/-- Some run makes the handler of the service run on a request of the
client. -/
def Executes (first second : Text) : Prop :=
  ∃ inputs network events topic wire message outcome,
    (rpcMachine (oneService first second)).Run Machine.free inputs network
        events ∧
      .service () topic (.executed wire message outcome) ∈ events

theorem oneService_sent (first second : Text) :
    ∃ network events,
      (rpcMachine (oneService first second)).Run Machine.free
          [asking first second (.call []), asking first second (.register 0),
            asking first second (.publish 0 true)]
          network events ∧
        network.requests = [(rpcRequestTopic first, soleRequest first)] ∧
        network.services () = Service.created := by
  refine
    ⟨_, _, .next (.next (.next (.start rfl) trivial rfl) trivial rfl) trivial
      rfl, ?_, ?_⟩
  · rfl
  · rfl

theorem executes_of_alikeNames
    {first second : Text} (alike : AlikeNames first second) :
    Executes first second := by
  have sameTopic := (rpcRequestTopic_eq_iff first second).mpr alike
  obtain ⟨network, events, run, requests, idle⟩ := oneService_sent first second
  have delivered :
      ((oneService first second).serviceTopic (), soleRequest first) ∈
        network.requests := by
    rw [requests, sameTopic]
    exact List.mem_singleton.mpr rfl
  have handled :
      ∃ after,
        (network.services ()).handleRequest bytesCodec bytesCodec
            (soleRequest first) (.returned []) =
          some
            (after, [.executed (soleRequest first) [] (.returned [])]) := by
    rw [idle]
    exact ⟨_, rfl⟩
  obtain ⟨after, handledStep⟩ := handled
  obtain ⟨target, emitted, stepped, ran⟩ :
      ∃ target emitted,
        (rpcMachine (oneService first second)).step network
            (.serve () (soleRequest first) (.returned ([] : Bytes))) =
          some (target, emitted) ∧
        emitted =
          [.service () ((oneService first second).serviceTopic ())
            (.executed (soleRequest first) ([] : Bytes)
              (.returned ([] : Bytes)))] := by
    refine
      ⟨(network.afterService ()
          (after, [.executed (soleRequest first) [] (.returned [])])).1,
        _, ?_, rfl⟩
    simp only [rpcMachine, RpcNetwork.step]
    rw [if_pos delivered]
    exact congrArg (Option.map (network.afterService ())) handledStep
  have member :
      .service () ((oneService first second).serviceTopic ())
          (.executed (soleRequest first) ([] : Bytes)
            (.returned ([] : Bytes))) ∈ events ++ emitted := by
    rw [ran]
    exact List.mem_append_right _ (List.mem_singleton.mpr rfl)
  exact ⟨_, _, _, _, _, _, _, run.next trivial stepped, member⟩

/-- The request topics of different services are different, unless the names
are alike; exactly then the handler of one service may run on a request of the
other; and in every run of any clients and services, a handler runs only on
requests of clients whose service has an alike name. -/
theorem request_topics_alike (first second : Text) :
    ((first ≠ second → rpcRequestTopic first ≠ rpcRequestTopic second) ↔
      (AlikeNames first second → first = second)) ∧
    (Executes first second ↔ AlikeNames first second) ∧
    ∀ (Clients Services : Type) [DecidableEq Clients] [DecidableEq Services]
        (system : RpcSystem Clients Services)
        (inputs : List (RpcInput system)) (network : RpcNetwork system)
        (events : List (RpcEvent system)),
      (rpcMachine system).Run Machine.free inputs network events →
      ∀ (service : Services) (topic : Text) (wire : RpcRequest)
          (message : system.Req topic)
          (outcome : HandlerOutcome (system.Resp topic)),
        .service service topic (.executed wire message outcome) ∈ events →
        ∃ (client : Clients) (index : Nat)
          (call : CallRequest (system.Req (system.requestTopic client))),
          (network.clients client).requests[index]? = some call ∧
            wire =
              ⟨call.requestId, system.replyTopic client, call.payload⟩ ∧
            AlikeNames (system.serviceName client)
              (system.offeredName service) := by
  refine ⟨?_, ⟨?_, executes_of_alikeNames⟩, ?_⟩
  · rw [← rpcRequestTopic_eq_iff]
    constructor
    · intro apart sameTopic
      by_contra different
      exact apart different sameTopic
    · intro sole different sameTopic
      exact different (sole sameTopic)
  · rintro ⟨inputs, network, events, topic, wire, message, outcome, run,
      member⟩
    obtain ⟨client, _, _, _, _, alike⟩ := alikeNames_of_executed run member
    exact alike
  · intro Clients Services _ _ system inputs network events run service topic
      wire message outcome member
    exact alikeNames_of_executed run member

/-- A blank and an underscore: the request for the one service is executed by
the handler of the other. -/
theorem request_topics_blank :
    "a b".toList ≠ "a_b".toList ∧
      rpcRequestTopic "a b".toList = rpcRequestTopic "a_b".toList ∧
      Executes "a b".toList "a_b".toList := by
  have alike : AlikeNames "a b".toList "a_b".toList := by decide +kernel
  exact
    ⟨by decide, (rpcRequestTopic_eq_iff _ _).mpr alike,
      executes_of_alikeNames alike⟩

end MiniMiddleware.Core
