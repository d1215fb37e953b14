import MiniMiddleware.Core.RpcTopics
import MiniMiddleware.Library.Tables

/-!
# A service

The worker of the request subscriber takes one request after the other: it
parses the payload, runs the handler and publishes one reply on the topic that
the request names, with a publisher that is created at its first use.  What a
handler does, also whether it throws, is an input of the step.
-/

namespace MiniMiddleware.Core

open MiniMiddleware.Transport

variable {Req Resp : Type}

/-- The end of a handler: a response, a `std::exception` with its text, or
anything else that was thrown. -/
inductive HandlerOutcome (Resp : Type) where
  | returned (response : Resp)
  | threw (what : Text)
  | threwUnknown
  deriving DecidableEq, Repr

/-- The topics of the reply publishers, by the topic they were created for, and
the reply that the worker is about to publish. -/
structure Service where
  responsePubs : Std.TreeMap Text Text
  finished : Option (Text × RpcReply)

/-- What becomes visible: the handler has run on a request, the registrar is
called, and a reply is handed to the bus. -/
inductive ServiceEvent (Req Resp : Type) where
  | executed (wire : RpcRequest) (request : Req) (outcome : HandlerOutcome Resp)
  | registered (topic : Text)
  | published (topic : Text) (reply : RpcReply)
  deriving DecidableEq, Repr

/-- The reply of `publish_error`. -/
def errorReply (wire : RpcRequest) (error : Text) : RpcReply :=
  ⟨wire.requestId, [], false, error⟩

/-- The reply to a request whose handler has ended. -/
def handlerReply (response : Codec Resp) (wire : RpcRequest) :
    HandlerOutcome Resp → RpcReply
  | .returned message =>
      match response.serialize message with
      | none => errorReply wire "response serialize failed".toList
      | some payload => ⟨wire.requestId, payload, true, []⟩
  | .threw what => errorReply wire what
  | .threwUnknown => errorReply wire "handler threw unknown exception".toList

namespace Service

/-- A service right after its construction. -/
def created : Service where
  responsePubs := ∅
  finished := none

/-- `publisher_for`: the topic of the publisher, and the call of the
registrar. -/
def publisherFor (service : Service) (replyTopic : Text) :
    Service × Text × List (ServiceEvent Req Resp) :=
  match service.responsePubs[replyTopic]? with
  | some topic => (service, topic, [])
  | none =>
      ({ service with
          responsePubs := service.responsePubs.insert replyTopic replyTopic },
        replyTopic, [.registered replyTopic])

/-- `handle_request` up to the publication of the reply. -/
def handleRequest (request : Codec Req) (response : Codec Resp)
    (service : Service) (wire : RpcRequest) (outcome : HandlerOutcome Resp) :
    Option (Service × List (ServiceEvent Req Resp)) :=
  match service.finished with
  | some _ => none
  | none =>
      match request.parse wire.payload with
      | none =>
          some
            ({ service with
                finished :=
                  some
                    (wire.replyTopic,
                      errorReply wire "request parse failed".toList) }, [])
      | some message =>
          some
            ({ service with
                finished :=
                  some (wire.replyTopic, handlerReply response wire outcome) },
              [.executed wire message outcome])

/-- The publication of the reply. -/
def publishReply (service : Service) :
    Option (Service × List (ServiceEvent Req Resp)) :=
  match service.finished with
  | none => none
  | some (replyTopic, reply) =>
      let found := service.publisherFor replyTopic
      some
        ({ found.1 with finished := none },
          found.2.2 ++ [.published found.2.1 reply])

/-- Every publisher is on the topic it was created for. -/
def PublishersFit (service : Service) : Prop :=
  ∀ replyTopic topic : Text,
    service.responsePubs[replyTopic]? = some topic → topic = replyTopic

variable {service target : Service} {emitted : List (ServiceEvent Req Resp)}

theorem handleRequest_eq_some
    {request : Codec Req} {response : Codec Resp} {wire : RpcRequest}
    {outcome : HandlerOutcome Resp}
    (stepped :
      service.handleRequest request response wire outcome =
        some (target, emitted)) :
    (request.parse wire.payload = none ∧ emitted = [] ∧
        target =
          { service with
            finished :=
              some
                (wire.replyTopic,
                  errorReply wire "request parse failed".toList) }) ∨
      ∃ message, request.parse wire.payload = some message ∧
        emitted = [.executed wire message outcome] ∧
        target =
          { service with
            finished :=
              some (wire.replyTopic, handlerReply response wire outcome) } := by
  simp only [handleRequest] at stepped
  split at stepped
  · cases stepped
  · split at stepped
    · rename_i parsed
      cases stepped
      exact .inl ⟨parsed, rfl, rfl⟩
    · rename_i message parsed
      cases stepped
      exact .inr ⟨message, parsed, rfl, rfl⟩

/-- A reply is published on the topic that its request has named. -/
theorem publishReply_eq_some
    (fit : service.PublishersFit)
    (stepped : service.publishReply = some (target, emitted)) :
    ∃ replyTopic reply, service.finished = some (replyTopic, reply) ∧
      target.finished = none ∧ target.PublishersFit ∧
      (emitted = [.published replyTopic reply] ∨
        emitted = [.registered replyTopic, .published replyTopic reply]) := by
  simp only [publishReply] at stepped
  split at stepped
  · cases stepped
  · rename_i replyTopic reply finished
    refine ⟨replyTopic, reply, finished, ?_⟩
    cases stepped
    unfold publisherFor
    split
    · rename_i topic found
      rw [fit replyTopic topic found]
      exact ⟨rfl, fit, .inl rfl⟩
    · refine ⟨rfl, ?_, .inr rfl⟩
      intro other topic found
      rcases Library.getElem?_insert_eq_some.mp found with
        ⟨equal, rfl⟩ | ⟨_, old⟩
      · exact equal
      · exact fit other topic old

theorem not_executed_of_publishReply
    (stepped : service.publishReply = some (target, emitted))
    (wire : RpcRequest) (message : Req) (outcome : HandlerOutcome Resp) :
    .executed wire message outcome ∉ emitted := by
  simp only [publishReply] at stepped
  split at stepped
  · cases stepped
  · cases stepped
    unfold publisherFor
    split <;> simp

/-- A reply that is `ok` carries what the handler has returned. -/
theorem handlerReply_ok
    {response : Codec Resp} {wire : RpcRequest} {outcome : HandlerOutcome Resp}
    (ok : (handlerReply response wire outcome).ok = true) :
    ∃ message, outcome = .returned message ∧
      response.serialize message =
        some (handlerReply response wire outcome).payload := by
  cases outcome with
  | returned message =>
      simp only [handlerReply] at ok ⊢
      split at ok
      · cases ok
      · rename_i payload serialized
        exact ⟨message, rfl, by simp [serialized]⟩
  | threw what => cases ok
  | threwUnknown => cases ok

theorem handlerReply_requestId
    (response : Codec Resp) (wire : RpcRequest)
    (outcome : HandlerOutcome Resp) :
    (handlerReply response wire outcome).requestId = wire.requestId := by
  cases outcome with
  | returned message =>
      simp only [handlerReply]
      split <;> rfl
  | threw what => rfl
  | threwUnknown => rfl

end Service

end MiniMiddleware.Core
