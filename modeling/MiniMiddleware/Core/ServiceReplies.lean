import MiniMiddleware.Common.Protobuf
import MiniMiddleware.Core.Service
import MiniMiddleware.Library.Machine
import Mathlib.Data.List.Forall2

/-!
# One reply to every request

`handle_request` builds exactly one reply on every path and calls `publish`
once.  `publish` hands the reply to the bus only if its envelope serializes,
and the service does not look at what `publish` returns: a response of almost
the largest size of a message serializes, but its envelope does not, and the
request stays without any reply.
-/

namespace MiniMiddleware.Core

open MiniMiddleware.Library MiniMiddleware.Transport MiniMiddleware.Protobuf

variable {Req Resp : Type}

/-! ## The envelope of a reply -/

/-- An `RpcReply` on the wire. -/
def RpcReply.encode (reply : RpcReply) : Bytes :=
  numberField 8 reply.requestId ++ bytesField 18 reply.payload ++
    numberField 24 (if reply.ok then 1 else 0) ++
    bytesField 34 (textBytes reply.error)

/-- The size of an `RpcReply`. -/
def RpcReply.byteSize (reply : RpcReply) : Nat :=
  numberFieldSize reply.requestId + bytesFieldSize reply.payload.length +
    numberFieldSize (if reply.ok then 1 else 0) +
    bytesFieldSize reply.error.length

/-- `SerializeToString` of an `RpcReply`. -/
def RpcReply.serialize (reply : RpcReply) : Option Bytes :=
  if reply.byteSize ≤ maxMessageSize then some reply.encode else none

theorem RpcReply.length_encode (reply : RpcReply) :
    reply.encode.length = reply.byteSize := by
  simp [encode, byteSize, Nat.add_assoc]

/-- The size is all that keeps an envelope from being serialized. -/
def SizeLimited (serialize : RpcReply → Option Bytes) : Prop :=
  ∀ reply, (serialize reply).isSome = true ↔ reply.byteSize ≤ maxMessageSize

theorem RpcReply.sizeLimited : SizeLimited RpcReply.serialize := by
  intro reply
  simp [serialize]

/-! ## One call of `handle_request` -/

/-- A handler that has run. -/
def ServiceEvent.execution :
    ServiceEvent Req Resp → Option (RpcRequest × Req × HandlerOutcome Resp)
  | .executed wire message outcome => some (wire, message, outcome)
  | _ => none

/-- A topic that the registrar is called with. -/
def ServiceEvent.registration : ServiceEvent Req Resp → Option Text
  | .registered topic => some topic
  | _ => none

/-- A reply that is handed to the bus. -/
def ServiceEvent.handed : ServiceEvent Req Resp → Option (Text × RpcReply)
  | .published topic reply => some (topic, reply)
  | _ => none

namespace Service

/-- `Publisher::publish`: a reply that does not serialize is dropped. -/
def publish (serialize : RpcReply → Option Bytes) (topic : Text)
    (reply : RpcReply) : List (ServiceEvent Req Resp) :=
  match serialize reply with
  | none => []
  | some _ => [.published topic reply]

/-- `publisher_for` and `publish`, with or without a registrar. -/
def sendReply (serialize : RpcReply → Option Bytes) (registrar : Bool)
    (service : Service) (replyTopic : Text) (reply : RpcReply) :
    Service × List (ServiceEvent Req Resp) :=
  let found := service.publisherFor replyTopic
  (found.1,
    (if registrar then found.2.2 else []) ++ publish serialize found.2.1 reply)

/-- One call of `handle_request`, from the parsing of the request to the
publication of the reply. -/
def serve (request : Codec Req) (response : Codec Resp)
    (serialize : RpcReply → Option Bytes) (registrar : Bool)
    (service : Service) (input : RpcRequest × HandlerOutcome Resp) :
    Option (Service × List (ServiceEvent Req Resp)) :=
  (service.handleRequest request response input.1 input.2).bind fun handled =>
    handled.1.finished.map fun finished =>
      let sent :=
        handled.1.sendReply serialize registrar finished.1 finished.2
      ({ sent.1 with finished := none }, handled.2 ++ sent.2)

/-- The reply that a request ends with. -/
def finalReply (request : Codec Req) (response : Codec Resp)
    (wire : RpcRequest) (outcome : HandlerOutcome Resp) : RpcReply :=
  match request.parse wire.payload with
  | none => errorReply wire "request parse failed".toList
  | some _ => handlerReply response wire outcome

variable {request : Codec Req} {response : Codec Resp}
  {serialize : RpcReply → Option Bytes} {registrar : Bool}
  {service target : Service} {wire : RpcRequest}
  {outcome : HandlerOutcome Resp} {emitted : List (ServiceEvent Req Resp)}

/-- With a registrar and an envelope that serializes, the reply is published
as in the system of clients and services. -/
theorem publishReply_eq_sendReply
    {replyTopic : Text} {reply : RpcReply}
    (finished : service.finished = some (replyTopic, reply))
    (fits : (serialize reply).isSome = true) :
    (service.publishReply : Option (Service × List (ServiceEvent Req Resp))) =
      some
        (let sent := service.sendReply serialize true replyTopic reply
        ({ sent.1 with finished := none }, sent.2)) := by
  obtain ⟨bytes, serialized⟩ := Option.isSome_iff_exists.mp fits
  simp [publishReply, sendReply, publish, finished, serialized]

/-- The handler runs if the request parses. -/
def ran (request : Codec Req) (wire : RpcRequest)
    (outcome : HandlerOutcome Resp) : List (ServiceEvent Req Resp) :=
  match request.parse wire.payload with
  | none => []
  | some message => [.executed wire message outcome]

/-- What the handler makes of a request. -/
theorem handleRequest_finalReply
    (stepped :
      service.handleRequest request response wire outcome =
        some (target, emitted)) :
    target =
        { service with
          finished :=
            some (wire.replyTopic, finalReply request response wire outcome) } ∧
      emitted = ran request wire outcome := by
  rcases handleRequest_eq_some stepped with
    ⟨failed, rfl, rfl⟩ | ⟨message, parsed, rfl, rfl⟩
  · simp [finalReply, ran, failed]
  · simp [finalReply, ran, parsed]

theorem publisherFor_eq (fit : service.PublishersFit) (replyTopic : Text) :
    (service.publisherFor replyTopic :
        Service × Text × List (ServiceEvent Req Resp)) =
      if replyTopic ∈ service.responsePubs then
        (service, replyTopic, [])
      else
        ({ service with
            responsePubs := service.responsePubs.insert replyTopic replyTopic },
          replyTopic, [.registered replyTopic]) := by
  unfold publisherFor
  split
  · rename_i topic found
    have known : replyTopic ∈ service.responsePubs := by
      rw [Std.TreeMap.mem_iff_isSome_getElem?, found]
      rfl
    rw [if_pos known, fit replyTopic topic found]
  · rename_i missing
    have unknown : replyTopic ∉ service.responsePubs := by
      rw [Std.TreeMap.mem_iff_isSome_getElem?, missing]
      exact Bool.false_ne_true
    rw [if_neg unknown]

/-- What holds of a service between two requests that were answered on the
given topics. -/
structure Answering (service : Service) (topics : List Text) : Prop where
  idle : service.finished = none
  fit : service.PublishersFit
  known : ∀ topic, topic ∈ service.responsePubs ↔ topic ∈ topics

/-- What becomes visible of one request. -/
structure Served (request : Codec Req) (response : Codec Resp)
    (serialize : RpcReply → Option Bytes) (registered : Bool)
    (wire : RpcRequest) (outcome : HandlerOutcome Resp)
    (emitted : List (ServiceEvent Req Resp)) : Prop where
  executions :
    emitted.filterMap ServiceEvent.execution =
      ((request.parse wire.payload).map fun message =>
        (wire, message, outcome)).toList
  registrations :
    emitted.filterMap ServiceEvent.registration =
      if registered then [wire.replyTopic] else []
  handed :
    emitted.filterMap ServiceEvent.handed =
      if (serialize (finalReply request response wire outcome)).isSome then
        [(wire.replyTopic, finalReply request response wire outcome)]
      else
        []

theorem views_ran
    (request : Codec Req) (wire : RpcRequest)
    (outcome : HandlerOutcome Resp) :
    (ran request wire outcome).filterMap ServiceEvent.execution =
        ((request.parse wire.payload).map fun message =>
          (wire, message, outcome)).toList ∧
      (ran request wire outcome).filterMap ServiceEvent.registration = [] ∧
      (ran request wire outcome).filterMap ServiceEvent.handed = [] := by
  unfold ran
  cases request.parse wire.payload with
  | none => exact ⟨rfl, rfl, rfl⟩
  | some message => exact ⟨rfl, rfl, rfl⟩

theorem views_publish
    (Req Resp : Type) (serialize : RpcReply → Option Bytes) (topic : Text)
    (reply : RpcReply) :
    let published : List (ServiceEvent Req Resp) :=
      publish serialize topic reply
    published.filterMap ServiceEvent.execution = [] ∧
      published.filterMap ServiceEvent.registration = [] ∧
      published.filterMap ServiceEvent.handed =
        if (serialize reply).isSome then [(topic, reply)] else [] := by
  unfold publish
  cases serialize reply with
  | none => exact ⟨rfl, rfl, rfl⟩
  | some bytes => exact ⟨rfl, rfl, rfl⟩

/-- The events of a request, put together from those of the handler, of the
registrar and of `publish`. -/
theorem served_append
    (request : Codec Req) (response : Codec Resp)
    (serialize : RpcReply → Option Bytes) (registered : Bool)
    (wire : RpcRequest) (outcome : HandlerOutcome Resp) :
    Served request response serialize registered wire outcome
      (ran request wire outcome ++
        ((if registered then [.registered wire.replyTopic] else []) ++
          publish serialize wire.replyTopic
            (finalReply request response wire outcome))) := by
  obtain ⟨executed, noRegistration, noReply⟩ :=
    views_ran request wire outcome
  obtain ⟨noExecution, noOther, handed⟩ :=
    views_publish Req Resp serialize wire.replyTopic
      (finalReply request response wire outcome)
  refine ⟨?_, ?_, ?_⟩
  · rw [List.filterMap_append, List.filterMap_append, executed, noExecution]
    cases registered <;> simp [ServiceEvent.execution]
  · rw [List.filterMap_append, List.filterMap_append, noRegistration, noOther]
    cases registered <;> simp [ServiceEvent.registration]
  · rw [List.filterMap_append, List.filterMap_append, noReply, handed]
    cases registered <;> simp [ServiceEvent.handed]

theorem serve_of_idle
    (request : Codec Req) (response : Codec Resp)
    (serialize : RpcReply → Option Bytes) (registrar : Bool)
    (idle : service.finished = none)
    (input : RpcRequest × HandlerOutcome Resp) :
    ∃ target emitted,
      service.serve request response serialize registrar input =
        some (target, emitted) := by
  have handled :
      ∃ reached events reply,
        service.handleRequest request response input.1 input.2 =
            some (reached, events) ∧
          reached.finished = some reply := by
    unfold handleRequest
    rw [idle]
    cases request.parse input.1.payload with
    | none => exact ⟨_, _, _, rfl, rfl⟩
    | some message => exact ⟨_, _, _, rfl, rfl⟩
  obtain ⟨reached, events, reply, handledStep, finished⟩ := handled
  rw [serve, handledStep, Option.bind_some, finished]
  exact ⟨_, _, rfl⟩

theorem serve_answering
    {topics : List Text} (answering : service.Answering topics)
    (stepped :
      service.serve request response serialize registrar (wire, outcome) =
        some (target, emitted)) :
    target.Answering (topics ++ [wire.replyTopic]) ∧
      Served request response serialize
        (registrar && decide (wire.replyTopic ∉ topics)) wire outcome
        emitted := by
  obtain ⟨⟨handled, events⟩, handledStep, finishing⟩ :=
    Option.bind_eq_some_iff.mp stepped
  obtain ⟨rfl, rfl⟩ := handleRequest_finalReply handledStep
  cases finishing
  have fit : PublishersFit
      { service with
        finished :=
          some (wire.replyTopic, finalReply request response wire outcome) } :=
    answering.fit
  have served :=
    served_append request response serialize
      (registrar && decide (wire.replyTopic ∉ topics)) wire outcome
  simp only [sendReply, publisherFor_eq fit]
  split
  · rename_i member
    have answered : wire.replyTopic ∈ topics :=
      (answering.known _).mp member
    refine ⟨⟨rfl, answering.fit, fun topic => ?_⟩, ?_⟩
    · rw [List.mem_append, List.mem_singleton, answering.known topic]
      refine ⟨.inl, fun known => ?_⟩
      rcases known with known | rfl
      · exact known
      · exact answered
    · simpa [answered] using served
  · rename_i unknown
    have fresh : wire.replyTopic ∉ topics :=
      fun answered => unknown ((answering.known _).mpr answered)
    refine ⟨⟨rfl, ?_, fun topic => ?_⟩, ?_⟩
    · intro other topic found
      dsimp only at found
      rcases getElem?_insert_eq_some.mp found with ⟨equal, rfl⟩ | ⟨_, old⟩
      · exact equal
      · exact answering.fit other topic old
    · rw [List.mem_append, List.mem_singleton, ← answering.known topic,
        Std.TreeMap.mem_insert, Std.compare_eq_iff_eq, or_comm, eq_comm]
    · cases registrar
      · simpa [fresh] using served
      · simpa [fresh] using served

/-! ## The reply to a request -/

/-- The request parses, its handler returns, and the response serializes. -/
def Succeeds (request : Codec Req) (response : Codec Resp)
    (wire : RpcRequest) (outcome : HandlerOutcome Resp) (payload : Bytes) :
    Prop :=
  ∃ message returned, request.parse wire.payload = some message ∧
    outcome = .returned returned ∧
    response.serialize returned = some payload

/-- The bytes of the serialized response, or of the text of the exception,
leave room for the rest of the envelope. -/
def ReplyFits (request : Codec Req) (response : Codec Resp)
    (wire : RpcRequest) (outcome : HandlerOutcome Resp) : Prop :=
  (∀ payload, Succeeds request response wire outcome payload →
    numberFieldSize wire.requestId + bytesFieldSize payload.length + 2 ≤
      maxMessageSize) ∧
  ∀ message what, request.parse wire.payload = some message →
    outcome = .threw what →
    numberFieldSize wire.requestId + bytesFieldSize what.length ≤
      maxMessageSize

theorem finalReply_requestId
    (request : Codec Req) (response : Codec Resp) (wire : RpcRequest)
    (outcome : HandlerOutcome Resp) :
    (finalReply request response wire outcome).requestId =
      wire.requestId := by
  unfold finalReply
  split
  · rfl
  · exact handlerReply_requestId response wire outcome

theorem finalReply_of_succeeds
    {payload : Bytes}
    (succeeds : Succeeds request response wire outcome payload) :
    finalReply request response wire outcome =
      ⟨wire.requestId, payload, true, []⟩ := by
  obtain ⟨message, returned, parsed, rfl, serialized⟩ := succeeds
  simp only [finalReply, parsed, handlerReply, serialized]

theorem finalReply_ok_iff :
    (finalReply request response wire outcome).ok = true ↔
      ∃ payload, Succeeds request response wire outcome payload := by
  constructor
  · intro ok
    unfold finalReply at ok
    split at ok
    · cases ok
    · rename_i message parsed
      obtain ⟨returned, ending, serialized⟩ := handlerReply_ok ok
      exact ⟨_, message, returned, parsed, ending, serialized⟩
  · rintro ⟨payload, succeeds⟩
    rw [finalReply_of_succeeds succeeds]

theorem byteSize_errorReply (wire : RpcRequest) (error : Text) :
    (errorReply wire error).byteSize =
      numberFieldSize wire.requestId + bytesFieldSize error.length := by
  have payload : bytesFieldSize 0 = 0 := rfl
  have ok : numberFieldSize 0 = 0 := rfl
  simp only [RpcReply.byteSize, errorReply, List.length_nil, payload,
    Bool.false_eq_true, if_false, ok, Nat.add_zero]

theorem byteSize_of_succeeds
    {payload : Bytes}
    (succeeds : Succeeds request response wire outcome payload) :
    (finalReply request response wire outcome).byteSize =
      numberFieldSize wire.requestId + bytesFieldSize payload.length + 2 := by
  have error : bytesFieldSize 0 = 0 := rfl
  have ok : numberFieldSize 1 = 2 := by decide
  simp only [finalReply_of_succeeds succeeds, RpcReply.byteSize,
    List.length_nil, error, if_true, ok, Nat.add_zero]

theorem byteSize_errorReply_le
    (id : wire.requestId < 2 ^ 64) {error : Text}
    (short : error.length < 128) :
    (errorReply wire error).byteSize ≤ maxMessageSize := by
  have number := numberFieldSize_le id
  have length : varintSize error.length ≤ 1 :=
    (varintSize_le_iff (by omega)).mpr (by omega)
  have field : bytesFieldSize error.length ≤ 129 := by
    unfold bytesFieldSize
    split <;> omega
  have limit : maxMessageSize = 2 ^ 31 - 1 := rfl
  rw [byteSize_errorReply]
  omega

/-- A request that ends with an error of the service itself. -/
theorem byteSize_finalReply_le
    (id : wire.requestId < 2 ^ 64)
    (failure : ¬ ∃ payload, Succeeds request response wire outcome payload)
    (caught :
      ∀ message what, request.parse wire.payload = some message →
        outcome ≠ .threw what) :
    (finalReply request response wire outcome).byteSize ≤ maxMessageSize := by
  unfold finalReply
  split
  · exact byteSize_errorReply_le id (by decide)
  · rename_i message parsed
    cases outcome with
    | returned returned =>
        simp only [handlerReply]
        split
        · exact byteSize_errorReply_le id (by decide)
        · rename_i payload serialized
          exact
            absurd ⟨payload, message, returned, parsed, rfl, serialized⟩
              failure
    | threw what => exact absurd rfl (caught message what parsed)
    | threwUnknown => exact byteSize_errorReply_le id (by decide)

/-- The envelope of the reply serializes exactly if there is room for it. -/
theorem byteSize_finalReply_le_iff (id : wire.requestId < 2 ^ 64) :
    (finalReply request response wire outcome).byteSize ≤ maxMessageSize ↔
      ReplyFits request response wire outcome := by
  by_cases success :
      ∃ payload, Succeeds request response wire outcome payload
  · obtain ⟨payload, succeeds⟩ := success
    have size := byteSize_of_succeeds succeeds
    refine
      ⟨fun fits => ⟨fun other otherSucceeds => ?_, ?_⟩,
        fun fits => size ▸ fits.1 payload succeeds⟩
    · have same := byteSize_of_succeeds otherSucceeds
      omega
    · intro message what _ threw
      obtain ⟨_, returned, _, returns, _⟩ := succeeds
      cases returns.symm.trans threw
  · by_cases threw :
        ∃ message what, request.parse wire.payload = some message ∧
          outcome = .threw what
    · obtain ⟨message, what, parsed, rfl⟩ := threw
      have size :
          (finalReply request response wire (.threw what)).byteSize =
            numberFieldSize wire.requestId + bytesFieldSize what.length := by
        simp only [finalReply, parsed, handlerReply, byteSize_errorReply]
      rw [size]
      refine
        ⟨fun fits => ⟨fun payload succeeds => ?_, ?_⟩,
          fun fits => fits.2 message what parsed rfl⟩
      · exact absurd ⟨payload, succeeds⟩ success
      · rintro other same _ ⟨⟩
        exact fits
    · refine
        ⟨fun _ => ⟨fun payload succeeds => ?_, ?_⟩, fun _ => ?_⟩
      · exact absurd ⟨payload, succeeds⟩ success
      · intro message what parsed ending
        exact absurd ⟨message, what, parsed, ending⟩ threw
      · refine byteSize_finalReply_le id success ?_
        intro message what parsed ending
        exact threw ⟨message, what, parsed, ending⟩

end Service

/-! ## The requests of a run -/

/-- A service that answers one request after the other; the events of a step
are the list of what one request leads to. -/
def serviceMachine (request : Codec Req) (response : Codec Resp)
    (serialize : RpcReply → Option Bytes) (registrar : Bool) :
    Machine Service (RpcRequest × HandlerOutcome Resp)
      (List (ServiceEvent Req Resp)) where
  initial service := service = Service.created
  step service input :=
    (service.serve request response serialize registrar input).map
      fun (target, emitted) => (target, [emitted])

/-- A request has led to exactly one reply, on its reply topic and with its
number, that is `ok` and carries the serialized response exactly if there is
one. -/
def AnsweredOnce (request : Codec Req) (response : Codec Resp)
    (wire : RpcRequest) (outcome : HandlerOutcome Resp)
    (emitted : List (ServiceEvent Req Resp)) : Prop :=
  ∃ reply, emitted.filterMap ServiceEvent.handed = [(wire.replyTopic, reply)] ∧
    reply.requestId = wire.requestId ∧
    (reply.ok = true ↔
      ∃ payload, Service.Succeeds request response wire outcome payload) ∧
    ∀ payload, Service.Succeeds request response wire outcome payload →
      reply.payload = payload

/-- The handler has run once if the request parses, and not at all
otherwise. -/
def HandledOnce (request : Codec Req) (wire : RpcRequest)
    (outcome : HandlerOutcome Resp)
    (emitted : List (ServiceEvent Req Resp)) : Prop :=
  emitted.filterMap ServiceEvent.execution =
    match request.parse wire.payload with
    | none => []
    | some message => [(wire, message, outcome)]

section Runs

variable {request : Codec Req} {response : Codec Resp}
  {serialize : RpcReply → Option Bytes} {registrar : Bool}
  {inputs : List (RpcRequest × HandlerOutcome Resp)}
  {service : Service} {events : List (List (ServiceEvent Req Resp))}

/-- The reply topics of some requests. -/
def replyTopics (inputs : List (RpcRequest × HandlerOutcome Resp)) :
    List Text :=
  inputs.map fun input => input.1.replyTopic

/-- The topics that the registrar was called with. -/
def registrations (events : List (List (ServiceEvent Req Resp))) :
    List Text :=
  events.flatten.filterMap ServiceEvent.registration

/-- A request that was served is answered if its reply has fit. -/
theorem answeredOnce_iff
    (limited : SizeLimited serialize)
    {registered : Bool} {wire : RpcRequest} {outcome : HandlerOutcome Resp}
    {emitted : List (ServiceEvent Req Resp)}
    (id : wire.requestId < 2 ^ 64)
    (served :
      Service.Served request response serialize registered wire outcome
        emitted) :
    AnsweredOnce request response wire outcome emitted ↔
      Service.ReplyFits request response wire outcome := by
  rw [← Service.byteSize_finalReply_le_iff id, ← limited]
  constructor
  · rintro ⟨reply, handed, _⟩
    by_contra dropped
    rw [served.handed, if_neg dropped] at handed
    cases handed
  · intro serializes
    refine
      ⟨Service.finalReply request response wire outcome, ?_,
        Service.finalReply_requestId request response wire outcome,
        Service.finalReply_ok_iff, fun payload succeeds => ?_⟩
    · rw [served.handed, if_pos serializes]
    · rw [Service.finalReply_of_succeeds succeeds]

theorem handledOnce
    {registered : Bool} {wire : RpcRequest} {outcome : HandlerOutcome Resp}
    {emitted : List (ServiceEvent Req Resp)}
    (served :
      Service.Served request response serialize registered wire outcome
        emitted) :
    HandledOnce request wire outcome emitted := by
  rw [HandledOnce, served.executions]
  cases request.parse wire.payload <;> rfl

/-- A topic counts once, with its first occurrence. -/
theorem count_first
    (registrar : Bool) (topics : List Text) (next topic : Text) :
    (if registrar = true ∧ topic ∈ topics then 1 else 0) +
        (if (registrar && decide (next ∉ topics)) = true then [next]
          else []).count topic =
      if registrar = true ∧ (topic ∈ topics ∨ topic = next) then 1 else 0 := by
  cases registrar with
  | false => simp
  | true =>
      by_cases same : topic = next
      · subst same
        by_cases member : topic ∈ topics <;> simp [member]
      · have other : ¬ next = topic := fun equal => same equal.symm
        by_cases member : next ∈ topics <;> simp [member, same, other]

/-- The run lemma: every request was served, and the reply topics so far were
registered. -/
theorem served_of_run
    (run :
      (serviceMachine request response serialize registrar).Run Machine.free
        inputs service events) :
    service.Answering (replyTopics inputs) ∧
      List.Forall₂
        (fun input emitted =>
          ∃ registered,
            Service.Served request response serialize registered input.1
              input.2 emitted)
        inputs events ∧
      ∀ topic, (registrations events).count topic =
        if registrar = true ∧ topic ∈ replyTopics inputs then 1 else 0 := by
  induction run with
  | start initially =>
      have equal : _ = Service.created := initially
      subst equal
      refine ⟨⟨rfl, ?_, ?_⟩, .nil, ?_⟩
      · simp [Service.PublishersFit, Service.created]
      · simp [Service.created, replyTopics]
      · simp [registrations, replyTopics]
  | @next inputs state target events emitted input _ _ stepped
      inductionHypothesis =>
      obtain ⟨answering, served, registered⟩ := inductionHypothesis
      obtain ⟨⟨reached, made⟩, serving, equal⟩ :=
        Option.map_eq_some_iff.mp stepped
      cases equal
      obtain ⟨kept, one⟩ := Service.serve_answering answering serving
      refine ⟨?_, ?_, fun topic => ?_⟩
      · simpa [replyTopics] using kept
      · exact List.rel_append served (.cons ⟨_, one⟩ .nil)
      · have before := registered topic
        have now := one.registrations
        simp only [registrations, replyTopics, List.flatten_append,
          List.filterMap_append, List.count_append, List.flatten_cons,
          List.flatten_nil, List.append_nil, now, List.map_append,
          List.mem_append, List.map_cons, List.map_nil,
          List.mem_singleton] at before ⊢
        rw [before]
        exact count_first registrar _ _ topic

end Runs

/-- In every run, exactly one reply is handed to the bus for a request, on its
topic and with its number and result, if and only if the response or the text
of the exception leaves room for the envelope.  In any case the handler runs
once if the request parses, and every reply topic is registered once. -/
theorem one_reply_iff
    (request : Codec Req) (response : Codec Resp)
    (serialize : RpcReply → Option Bytes) (registrar : Bool)
    (limited : SizeLimited serialize)
    {inputs : List (RpcRequest × HandlerOutcome Resp)}
    {service : Service} {events : List (List (ServiceEvent Req Resp))}
    (ids : ∀ input ∈ inputs, input.1.requestId < 2 ^ 64)
    (run :
      (serviceMachine request response serialize registrar).Run Machine.free
        inputs service events) :
    (List.Forall₂
        (fun input emitted =>
          AnsweredOnce request response input.1 input.2 emitted)
        inputs events ↔
      ∀ input ∈ inputs,
        Service.ReplyFits request response input.1 input.2) ∧
    List.Forall₂
      (fun input emitted =>
        (AnsweredOnce request response input.1 input.2 emitted ↔
          Service.ReplyFits request response input.1 input.2) ∧
        HandledOnce request input.1 input.2 emitted)
      inputs events ∧
    ∀ topic, (registrations events).count topic =
      if registrar = true ∧ topic ∈ replyTopics inputs then 1 else 0 := by
  obtain ⟨_, served, registered⟩ := served_of_run run
  have each :
      List.Forall₂
        (fun input emitted =>
          (AnsweredOnce request response input.1 input.2 emitted ↔
            Service.ReplyFits request response input.1 input.2) ∧
          HandledOnce request input.1 input.2 emitted)
        inputs events := by
    have numbered := (List.forall₂_and_left _ _).mpr ⟨ids, served⟩
    refine numbered.imp fun input emitted facts => ?_
    obtain ⟨id, _, one⟩ := facts
    exact ⟨answeredOnce_iff limited id one, handledOnce one⟩
  refine ⟨⟨fun answered => ?_, fun fits => ?_⟩, each, registered⟩
  · have both :
        List.Forall₂
          (fun input (_ : List (ServiceEvent Req Resp)) =>
            Service.ReplyFits request response input.1 input.2 ∧ True)
          inputs events :=
      answered.mp (fun _ _ once fact => ⟨fact.1.mp once, trivial⟩) each
    exact ((List.forall₂_and_left _ _).mp both).1
  · have both := (List.forall₂_and_left _ _).mpr ⟨fits, each⟩
    exact both.imp fun _ _ facts => facts.2.1.mpr facts.1

/-- A response that fills a message leaves no room for its envelope. -/
theorem Service.not_replyFits
    {wire : RpcRequest} {outcome : HandlerOutcome Resp}
    {request : Codec Req} {response : Codec Resp} {payload : Bytes}
    (succeeds : Succeeds request response wire outcome payload)
    (large : maxMessageSize ≤ payload.length) :
    ¬ ReplyFits request response wire outcome := by
  intro fits
  have room := fits.1 payload succeeds
  have contents := le_bytesFieldSize payload.length
  omega

theorem unanswered_of_large
    (wire : RpcRequest) (payload : Bytes)
    (id : wire.requestId < 2 ^ 64)
    (large : maxMessageSize ≤ payload.length) :
    ∃ service events,
      (serviceMachine bytesCodec bytesCodec RpcReply.serialize true).Run
          Machine.free [(wire, .returned payload)] service events ∧
        ¬ List.Forall₂
          (fun input emitted =>
            AnsweredOnce bytesCodec bytesCodec input.1 input.2 emitted)
          [(wire, .returned payload)] events := by
  obtain ⟨target, emitted, serving⟩ :=
    Service.serve_of_idle bytesCodec bytesCodec RpcReply.serialize true
      (rfl : Service.created.finished = none) (wire, .returned payload)
  have stepped :
      (serviceMachine bytesCodec bytesCodec RpcReply.serialize true).step
          Service.created (wire, .returned payload) =
        some (target, [emitted]) := by
    simp only [serviceMachine, serving, Option.map_some]
  have run :
      (serviceMachine bytesCodec bytesCodec RpcReply.serialize true).Run
        Machine.free [(wire, .returned payload)] target [emitted] :=
    .next (.start rfl) trivial stepped
  refine ⟨target, [emitted], run, fun answered => ?_⟩
  obtain ⟨_, served, _⟩ := served_of_run run
  rw [List.forall₂_cons] at answered served
  obtain ⟨_, one⟩ := served.1
  have succeeds :
      Service.Succeeds bytesCodec bytesCodec wire (.returned payload)
        payload :=
    ⟨wire.payload, payload, rfl, rfl, rfl⟩
  exact
    Service.not_replyFits succeeds large
      ((answeredOnce_iff RpcReply.sizeLimited id one).mp answered.1)

/-- Two answers on one topic and a request that does not parse. -/
theorem one_reply_iff_three :
    ∃ service events,
      (serviceMachine (Codec.only [1] [10]) bytesCodec RpcReply.serialize
          true).Run Machine.free
          [(⟨1, ['r'], [10]⟩, .returned [7]), (⟨2, ['r'], [10]⟩, .threw ['e']),
            (⟨3, ['s'], [9]⟩, .returned [])]
          service events ∧
        ∀ topic, (registrations events).count topic =
          if topic ∈ [['r'], ['r'], ['s']] then 1 else 0 := by
  obtain ⟨service, events, run, _⟩ :=
    Machine.run_of_exec_check
      (serviceMachine (Codec.only [1] [10]) bytesCodec RpcReply.serialize true)
      Machine.free
      ([(⟨1, ['r'], [10]⟩, .returned [7]), (⟨2, ['r'], [10]⟩, .threw ['e']),
        (⟨3, ['s'], [9]⟩, .returned [])] :
        List (RpcRequest × HandlerOutcome Bytes))
      Service.created (fun _ events => events.length = 3) rfl
      (by decide +kernel)
  have books :=
    one_reply_iff (Codec.only [1] [10]) bytesCodec RpcReply.serialize true
      RpcReply.sizeLimited (by decide) run
  refine ⟨service, events, run, fun topic => ?_⟩
  simpa [replyTopics] using books.2.2 topic

/-- A response that just serializes: its envelope does not, and no reply is
handed to the bus. -/
theorem no_reply_to_large_response :
    ∃ service events,
      (serviceMachine bytesCodec bytesCodec RpcReply.serialize true).Run
          Machine.free
          [(⟨1, ['r'], []⟩, .returned (List.replicate maxMessageSize 0))]
          service events ∧
        ¬ List.Forall₂
          (fun input emitted =>
            AnsweredOnce bytesCodec bytesCodec input.1 input.2 emitted)
          [(⟨1, ['r'], []⟩, .returned (List.replicate maxMessageSize 0))]
          events := by
  refine unanswered_of_large ⟨1, ['r'], []⟩ _ (by decide) ?_
  rw [List.length_replicate]

end MiniMiddleware.Core
