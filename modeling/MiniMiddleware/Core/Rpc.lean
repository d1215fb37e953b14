import MiniMiddleware.Core.Client
import MiniMiddleware.Core.Service
import Mathlib.Logic.Function.Basic

/-!
# Remote calls

Any number of clients and services exchange requests and replies over a
network that delivers a published message on its own topic and unaltered, at
any later time, in any order, any number of times or never.

Every client numbers its calls from one, so a number does not identify a call
by itself.  Together with the reply topic it does: an answer that a call
returns was computed by a service of its topic, from the request of this call.
-/

namespace MiniMiddleware.Core

open MiniMiddleware.Library MiniMiddleware.Transport

/-! ## One client -/

section OneClient

variable {Req Resp : Type}

/-- A reply with the number of a call has a given outcome. -/
def Answers (response : Codec Resp) (heard : RpcReply → Prop)
    (client : Client Req Resp) (index : Nat) (outcome : Option Resp) : Prop :=
  ∃ call reply, client.requests[index]? = some call ∧ heard reply ∧
    reply.requestId = call.requestId ∧ reply.outcome response = outcome

/-- Calls are numbered in order and hold what they have serialized; the map of
registered calls leads a number to a call with that number; and every response
is the outcome of a reply that was heard. -/
structure ClientBooks (request : Codec Req) (response : Codec Resp)
    (heard : RpcReply → Prop) (client : Client Req Resp) : Prop where
  counter : client.nextRequestId = (client.calls.length + 1) % 2 ^ 64
  numbered :
    ∀ (index : Nat) (call : CallRequest Req),
      client.requests[index]? = some call →
        call.requestId = (index + 1) % 2 ^ 64 ∧
          request.serialize call.request = some call.payload
  pending :
    ∀ (requestId index : Nat), client.pending[requestId]? = some index →
      ∃ call, client.requests[index]? = some call ∧
        call.requestId = requestId
  worker :
    ∀ (index : Nat) (parsed : Option Resp),
      client.worker = some (index, parsed) →
        Answers response heard client index parsed
  responses :
    ∀ (index : Nat) (call : Call Req Resp) (message : Resp),
      client.calls[index]? = some call → call.response = some message →
        Answers response heard client index (some message)

variable {request : Codec Req} {response : Codec Resp}
  {heard : RpcReply → Prop} {client target : Client Req Resp}

theorem requests_eq_of_modify
    {index : Nat} {update : Call Req Resp → Call Req Resp}
    (calls : target.calls = client.calls.modify index update)
    (kept : ∀ call, (update call).toCallRequest = call.toCallRequest) :
    target.requests = client.requests := by
  rw [Client.requests, calls, map_modify_of_kept kept]
  rfl

theorem requests_getElem?
    {index : Nat} {call : Call Req Resp}
    (member : client.calls[index]? = some call) :
    client.requests[index]? = some call.toCallRequest := by
  simp [Client.requests, member]

theorem Answers.grow
    {later : RpcReply → Prop} {index : Nat} {outcome : Option Resp}
    (answers : Answers response heard client index outcome)
    (requests : client.requests <+: target.requests)
    (hears : ∀ reply, heard reply → later reply) :
    Answers response later target index outcome := by
  obtain ⟨call, reply, member, known, numbered, determined⟩ := answers
  exact
    ⟨call, reply, getElem?_of_prefix requests member,
      hears reply known, numbered, determined⟩

namespace ClientBooks

theorem created :
    ClientBooks request response heard (Client.created : Client Req Resp) where
  counter := rfl
  numbered := by simp [Client.created, Client.requests]
  pending := by simp [Client.created]
  worker := by simp [Client.created]
  responses := by simp [Client.created]

theorem mono
    {later : RpcReply → Prop} (books : ClientBooks request response heard client)
    (hears : ∀ reply, heard reply → later reply) :
    ClientBooks request response later client where
  counter := books.counter
  numbered := books.numbered
  pending := books.pending
  worker index parsed busy :=
    (books.worker index parsed busy).grow List.prefix_rfl hears
  responses index call message member stored :=
    (books.responses index call message member stored).grow
      List.prefix_rfl hears

/-- The steps that change one call and keep what it asks. -/
theorem update
    {index : Nat} {change : Call Req Resp → Call Req Resp}
    (books : ClientBooks request response heard client)
    (calls : target.calls = client.calls.modify index change)
    (kept : ∀ call, (change call).toCallRequest = call.toCallRequest)
    (counter : target.nextRequestId = client.nextRequestId)
    (pending :
      ∀ (requestId other : Nat), target.pending[requestId]? = some other →
        ∃ call, client.requests[other]? = some call ∧
          call.requestId = requestId)
    (worker :
      ∀ (other : Nat) (parsed : Option Resp),
        target.worker = some (other, parsed) →
          client.worker = some (other, parsed))
    (responses :
      ∀ call message, client.calls[index]? = some call →
        (change call).response = some message →
          Answers response heard client index (some message)) :
    ClientBooks request response heard target := by
  have requests := requests_eq_of_modify calls kept
  have same : client.requests <+: target.requests :=
    requests ▸ List.prefix_rfl
  constructor
  case counter =>
    rw [counter, books.counter, calls, List.length_modify]
  case numbered =>
    rw [requests]
    exact books.numbered
  case pending =>
    rw [requests]
    exact pending
  case worker =>
    intro other parsed busy
    exact
      (books.worker other parsed (worker other parsed busy)).grow same
        fun _ known => known
  case responses =>
    intro other later message member stored
    rw [calls] at member
    obtain ⟨call, before, rfl⟩ := getElem?_modify_eq_some.mp member
    by_cases here : index = other
    · subst here
      rw [if_pos rfl] at stored
      exact (responses call message before stored).grow same fun _ known => known
    · rw [if_neg here] at stored
      exact
        (books.responses other call message before stored).grow same
          fun _ known => known

theorem moveTo
    {index : Nat} {pc : CallPc}
    (books : ClientBooks request response heard client)
    (calls : target.calls = (client.moveTo index pc).calls)
    (counter : target.nextRequestId = client.nextRequestId)
    (pending :
      ∀ (requestId other : Nat), target.pending[requestId]? = some other →
        ∃ call, client.requests[other]? = some call ∧
          call.requestId = requestId)
    (worker : target.worker = client.worker) :
    ClientBooks request response heard target := by
  refine books.update calls (fun _ => rfl) counter pending ?_ ?_
  · intro other parsed busy
    rwa [← worker]
  · intro call message member stored
    exact books.responses index call message member stored

theorem call
    (books : ClientBooks request response heard client) (message : Req) :
    ClientBooks request response heard (client.call request message).1 ∧
      client.requests <+: (client.call request message).1.requests := by
  unfold Client.call
  split
  · exact ⟨books, List.prefix_rfl⟩
  · rename_i payload serialized
    have grown :
        client.requests <+:
          Client.requests
            { client with
              calls :=
                client.calls ++
                  [⟨⟨message, payload, client.nextRequestId⟩, .numbered, false,
                    none⟩]
              nextRequestId := (client.nextRequestId + 1) % 2 ^ 64 } := by
      simp [Client.requests]
    have known (reply : RpcReply) (hears : heard reply) : heard reply := hears
    refine ⟨?_, grown⟩
    constructor
    case counter =>
      simp [books.counter]
    case numbered =>
      intro index call member
      simp only [Client.requests, List.map_append, List.map_cons, List.map_nil]
        at member
      rcases getElem?_concat_eq_some.mp member with earlier | ⟨rfl, rfl⟩
      · exact books.numbered index call earlier
      · rw [List.length_map]
        exact ⟨books.counter, serialized⟩
    case pending =>
      intro requestId index found
      obtain ⟨call, member, numbered⟩ := books.pending requestId index found
      exact ⟨call, getElem?_of_prefix grown member, numbered⟩
    case worker =>
      intro index parsed busy
      exact (books.worker index parsed busy).grow grown known
    case responses =>
      intro index call response member stored
      rcases getElem?_concat_eq_some.mp member with earlier | ⟨_, rfl⟩
      · exact
          (books.responses index call response earlier stored).grow grown known
      · cases stored

end ClientBooks

/-- What a step of a client keeps, sends and returns. -/
structure ClientAdvance (request : Codec Req) (response : Codec Resp)
    (replyTopic : Text) (heard : RpcReply → Prop)
    (client target : Client Req Resp) (emitted : List (ClientEvent Resp)) :
    Prop where
  books : ClientBooks request response heard target
  requests : client.requests <+: target.requests
  sent :
    ∀ wire, .sent wire ∈ emitted →
      ∃ (index : Nat) (call : CallRequest Req),
        target.requests[index]? = some call ∧
          wire = ⟨call.requestId, replyTopic, call.payload⟩
  returned :
    ∀ index ready message, .returned index ready (some message) ∈ emitted →
      Answers response heard target index (some message)

theorem ClientBooks.step
    {replyTopic : Text} {input : ClientInput Req}
    {emitted : List (ClientEvent Resp)}
    (books : ClientBooks request response heard client)
    (hears : ∀ reply, input = .receive reply → heard reply)
    (stepped :
      client.step request response replyTopic input = some (target, emitted)) :
    ClientAdvance request response replyTopic heard client target emitted := by
  have moved {index : Nat} {pc : CallPc}
      (calls : target.calls = (client.moveTo index pc).calls) :
      client.requests <+: target.requests :=
    requests_eq_of_modify calls (fun _ => rfl) ▸ List.prefix_rfl
  cases input with
  | call message =>
      obtain ⟨rfl, rfl⟩ := Prod.ext_iff.mp (Option.some.inj stepped)
      obtain ⟨after, requests⟩ := books.call message
      refine ⟨after, requests, ?_, ?_⟩
      all_goals
        unfold Client.call
        split <;> simp
  | register index =>
      obtain ⟨call, member, _, rfl, rfl⟩ := Client.register_eq_some stepped
      refine ⟨books.moveTo rfl rfl ?_ rfl, moved rfl, by simp, by simp⟩
      intro requestId other found
      rcases getElem?_insert_eq_some.mp found with ⟨equal, rfl⟩ | ⟨_, old⟩
      · exact ⟨call.toCallRequest, requests_getElem? member, equal⟩
      · exact books.pending requestId other old
  | publish index serialized =>
      obtain ⟨call, pc, member, _, _, rfl, sent⟩ :=
        Client.publish_eq_some stepped
      refine ⟨books.moveTo rfl rfl books.pending rfl, moved rfl, ?_, ?_⟩
      · intro wire now
        cases sent _ now
        exact
          ⟨index, call.toCallRequest,
            getElem?_of_prefix (moved rfl) (requests_getElem? member),
            rfl⟩
      · intro other ready message now
        cases sent _ now
  | wake index =>
      obtain ⟨call, _, _, rfl, rfl⟩ := Client.wake_eq_some stepped
      exact
        ⟨books.moveTo rfl rfl books.pending rfl, moved rfl, by simp, by simp⟩
  | finish index =>
      obtain ⟨call, ready, member, _, rfl, rfl⟩ :=
        Client.finish_eq_some stepped
      refine ⟨books.moveTo rfl rfl ?_ rfl, moved rfl, by simp, ?_⟩
      · intro requestId other found
        have old := (getElem?_erase_eq_some.mp found).2
        exact books.pending requestId other old
      · intro other isReady message now
        simp only [List.mem_singleton, ClientEvent.returned.injEq] at now
        obtain ⟨rfl, rfl, result⟩ := now
        split at result
        · exact
            (books.responses other call message member result.symm).grow
              (moved rfl) fun _ known => known
        · cases result
  | receive reply =>
      obtain ⟨_, rfl, rfl⟩ := Client.receive_eq_some stepped
      refine ⟨?_, List.prefix_rfl, by simp, by simp⟩
      refine ⟨books.counter, books.numbered, books.pending, ?_, books.responses⟩
      intro index parsed busy
      obtain ⟨found, taken, equal⟩ := Option.map_eq_some_iff.mp busy
      cases equal
      obtain ⟨call, member, numbered⟩ := books.pending reply.requestId index taken
      exact ⟨call, reply, member, hears reply rfl, numbered.symm, rfl⟩
  | store =>
      obtain ⟨index, parsed, busy, _, after, rfl⟩ :=
        Client.store_eq_some stepped
      have calls := congrArg Client.calls after
      refine ⟨?_, ?_, by simp, by simp⟩
      · refine
          books.update calls (fun _ => rfl) (by rw [after])
            (by rw [after]; exact books.pending) (by simp [after]) ?_
        intro call message _ stored
        exact stored ▸ books.worker index parsed busy
      · exact requests_eq_of_modify calls (fun _ => rfl) ▸ List.prefix_rfl

/-- Two calls of a client with one number are one call, as long as the counter
has not wrapped around. -/
theorem ClientBooks.index_unique
    (books : ClientBooks request response heard client)
    (few : client.calls.length < 2 ^ 64) {first second : Nat}
    {call other : CallRequest Req}
    (found : client.requests[first]? = some call)
    (otherFound : client.requests[second]? = some other)
    (same : call.requestId = other.requestId) :
    first = second := by
  obtain ⟨firstBound, _⟩ := List.getElem?_eq_some_iff.mp found
  obtain ⟨secondBound, _⟩ := List.getElem?_eq_some_iff.mp otherFound
  rw [Client.requests, List.length_map] at firstBound secondBound
  rw [(books.numbered first call found).1,
    (books.numbered second other otherFound).1, Nat.mod_eq_of_lt (by omega),
    Nat.mod_eq_of_lt (by omega)] at same
  omega

end OneClient

/-! ## Clients and services on a network -/

/-- The clients and services with the names they were created with, and the
types and serializations that belong to each request topic. -/
structure RpcSystem (Clients Services : Type) where
  serviceName : Clients → Text
  clientId : Clients → Text
  offeredName : Services → Text
  Req : Text → Type
  Resp : Text → Type
  request : (topic : Text) → Codec (Req topic)
  response : (topic : Text) → Codec (Resp topic)

variable {Clients Services : Type}

namespace RpcSystem

/-- `request_topic_` of a client. -/
def requestTopic (system : RpcSystem Clients Services) (client : Clients) :
    Text :=
  rpcRequestTopic (system.serviceName client)

/-- `reply_topic_` of a client. -/
def replyTopic (system : RpcSystem Clients Services) (client : Clients) :
    Text :=
  rpcReplyTopic (system.serviceName client) (system.clientId client)

/-- `request_topic_` of a service. -/
def serviceTopic (system : RpcSystem Clients Services) (service : Services) :
    Text :=
  rpcRequestTopic (system.offeredName service)

end RpcSystem

/-- All clients and services, and every message published so far with its
topic. -/
structure RpcNetwork (system : RpcSystem Clients Services) where
  clients :
    (client : Clients) →
      Client (system.Req (system.requestTopic client))
        (system.Resp (system.requestTopic client))
  services : Services → Service
  requests : List (Text × RpcRequest)
  replies : List (Text × RpcReply)

/-- The steps of a client, the two steps of a service. -/
inductive RpcInput (system : RpcSystem Clients Services) where
  | client (client : Clients)
      (input : ClientInput (system.Req (system.requestTopic client)))
  | serve (service : Services) (wire : RpcRequest)
      (outcome : HandlerOutcome (system.Resp (system.serviceTopic service)))
  | reply (service : Services)

/-- What becomes visible, with the topic of a service that fixes its types. -/
inductive RpcEvent (system : RpcSystem Clients Services) where
  | client (client : Clients)
      (event : ClientEvent (system.Resp (system.requestTopic client)))
  | service (service : Services) (topic : Text)
      (event : ServiceEvent (system.Req topic) (system.Resp topic))

/-- The reply that a step of a client takes from the network. -/
def ClientInput.reply? {Req : Type} : ClientInput Req → Option RpcReply
  | .receive reply => some reply
  | _ => none

/-- The request that a client hands to the network. -/
def ClientEvent.request? {Resp : Type} : ClientEvent Resp → Option RpcRequest
  | .sent wire => some wire
  | _ => none

/-- The reply that a service hands to the network, with its topic. -/
def ServiceEvent.reply? {Req Resp : Type} :
    ServiceEvent Req Resp → Option (Text × RpcReply)
  | .published topic reply => some (topic, reply)
  | _ => none

namespace RpcNetwork

variable {system : RpcSystem Clients Services} [DecidableEq Clients]
  [DecidableEq Services]

/-- Nothing has been called, served or published. -/
def created (system : RpcSystem Clients Services) : RpcNetwork system where
  clients _ := Client.created
  services _ := Service.created
  requests := []
  replies := []

/-- The effect of a step of one client. -/
def afterClient (network : RpcNetwork system) (client : Clients)
    (after :
      Client (system.Req (system.requestTopic client))
          (system.Resp (system.requestTopic client)) ×
        List (ClientEvent (system.Resp (system.requestTopic client)))) :
    RpcNetwork system × List (RpcEvent system) :=
  ({ network with
      clients := Function.update network.clients client after.1
      requests :=
        network.requests ++
          (after.2.filterMap (·.request?)).map fun wire =>
            (system.requestTopic client, wire) },
    after.2.map (.client client))

/-- The effect of a step of one service. -/
def afterService (network : RpcNetwork system) (service : Services)
    (after :
      Service ×
        List
          (ServiceEvent (system.Req (system.serviceTopic service))
            (system.Resp (system.serviceTopic service)))) :
    RpcNetwork system × List (RpcEvent system) :=
  ({ network with
      services := Function.update network.services service after.1
      replies := network.replies ++ after.2.filterMap (·.reply?) },
    after.2.map (.service service (system.serviceTopic service)))

/-- One step.  A message may be delivered once it was published, on its own
topic. -/
def step (network : RpcNetwork system) :
    RpcInput system → Option (RpcNetwork system × List (RpcEvent system))
  | .client client input =>
      if ∀ reply ∈ input.reply?,
          (system.replyTopic client, reply) ∈ network.replies then
        ((network.clients client).step
            (system.request (system.requestTopic client))
            (system.response (system.requestTopic client))
            (system.replyTopic client) input).map
          (network.afterClient client)
      else
        none
  | .serve service wire outcome =>
      if (system.serviceTopic service, wire) ∈ network.requests then
        ((network.services service).handleRequest
            (system.request (system.serviceTopic service))
            (system.response (system.serviceTopic service)) wire outcome).map
          (network.afterService service)
      else
        none
  | .reply service =>
      (network.services service).publishReply.map
        (network.afterService service)

end RpcNetwork

/-- Clients and services on a network as a machine. -/
def rpcMachine [DecidableEq Clients] [DecidableEq Services]
    (system : RpcSystem Clients Services) :
    Machine (RpcNetwork system) (RpcInput system) (RpcEvent system) where
  initial network := network = RpcNetwork.created system
  step := RpcNetwork.step

/-! ## Where replies come from -/

section Provenance

variable {system : RpcSystem Clients Services}

/-- A request was sent by a call of a client, on the topic of the client. -/
def Asked (network : RpcNetwork system) (topic : Text) (wire : RpcRequest) :
    Prop :=
  ∃ (client : Clients) (index : Nat)
    (call : CallRequest (system.Req (system.requestTopic client))),
    topic = system.requestTopic client ∧
      (network.clients client).requests[index]? = some call ∧
      wire = ⟨call.requestId, system.replyTopic client, call.payload⟩

/-- A reply goes to the topic and has the number of a request that the service
has taken from its topic; if it is `ok`, then it carries what the handler has
returned for this request. -/
def Served (network : RpcNetwork system) (events : List (RpcEvent system))
    (service : Services) (replyTopic : Text) (reply : RpcReply) : Prop :=
  ∃ wire, (system.serviceTopic service, wire) ∈ network.requests ∧
    wire.replyTopic = replyTopic ∧ reply.requestId = wire.requestId ∧
    (reply.ok = true →
      ∃ message result,
        (system.request (system.serviceTopic service)).parse wire.payload =
            some message ∧
          (system.response (system.serviceTopic service)).serialize result =
            some reply.payload ∧
          .service service (system.serviceTopic service)
            (.executed wire message (.returned result)) ∈ events)

/-- What holds after every run. -/
structure RpcBooks (network : RpcNetwork system)
    (events : List (RpcEvent system)) : Prop where
  clients :
    ∀ client,
      ClientBooks (system.request (system.requestTopic client))
        (system.response (system.requestTopic client))
        (fun reply => (system.replyTopic client, reply) ∈ network.replies)
        (network.clients client)
  asked :
    ∀ topic wire, (topic, wire) ∈ network.requests → Asked network topic wire
  publishers : ∀ service, (network.services service).PublishersFit
  finished :
    ∀ service topic reply,
      (network.services service).finished = some (topic, reply) →
        Served network events service topic reply
  served :
    ∀ topic reply, (topic, reply) ∈ network.replies →
      ∃ service, Served network events service topic reply
  returned :
    ∀ client index ready result,
      .client client (.returned index ready (some result)) ∈ events →
        Answers (system.response (system.requestTopic client))
          (fun reply => (system.replyTopic client, reply) ∈ network.replies)
          (network.clients client) index (some result)

/-- Calls and published messages are never forgotten. -/
structure RpcGrows (network target : RpcNetwork system) : Prop where
  calls :
    ∀ client,
      (network.clients client).requests <+: (target.clients client).requests
  requests : network.requests ⊆ target.requests
  replies : network.replies ⊆ target.replies

variable {network target : RpcNetwork system}
  {events emitted : List (RpcEvent system)}

theorem Asked.grow
    {topic : Text} {wire : RpcRequest} (asked : Asked network topic wire)
    (grows : RpcGrows network target) : Asked target topic wire := by
  obtain ⟨client, index, call, named, member, sent⟩ := asked
  exact
    ⟨client, index, call, named,
      getElem?_of_prefix (grows.calls client) member, sent⟩

theorem Served.grow
    {service : Services} {topic : Text} {reply : RpcReply}
    (served : Served network events service topic reply)
    (grows : RpcGrows network target) :
    Served target (events ++ emitted) service topic reply := by
  obtain ⟨wire, member, named, numbered, answered⟩ := served
  refine ⟨wire, grows.requests member, named, numbered, fun ok => ?_⟩
  obtain ⟨message, result, parsed, serialized, executed⟩ := answered ok
  exact
    ⟨message, result, parsed, serialized,
      List.mem_append_left emitted executed⟩

/-- A step keeps the books if what it adds is in order. -/
theorem RpcBooks.grow
    (books : RpcBooks network events) (grows : RpcGrows network target)
    (clients :
      ∀ client,
        ClientBooks (system.request (system.requestTopic client))
          (system.response (system.requestTopic client))
          (fun reply => (system.replyTopic client, reply) ∈ target.replies)
          (target.clients client))
    (asked :
      ∀ topic wire, (topic, wire) ∈ target.requests →
        (topic, wire) ∈ network.requests ∨ Asked target topic wire)
    (publishers : ∀ service, (target.services service).PublishersFit)
    (finished :
      ∀ service topic reply,
        (target.services service).finished = some (topic, reply) →
          (network.services service).finished = some (topic, reply) ∨
            Served target (events ++ emitted) service topic reply)
    (served :
      ∀ topic reply, (topic, reply) ∈ target.replies →
        (topic, reply) ∈ network.replies ∨
          ∃ service, Served target (events ++ emitted) service topic reply)
    (returned :
      ∀ client index ready result,
        .client client (.returned index ready (some result)) ∈ emitted →
          Answers (system.response (system.requestTopic client))
            (fun reply => (system.replyTopic client, reply) ∈ target.replies)
            (target.clients client) index (some result)) :
    RpcBooks target (events ++ emitted) := by
  constructor
  case clients => exact clients
  case asked =>
    intro topic wire member
    rcases asked topic wire member with earlier | now
    · exact (books.asked topic wire earlier).grow grows
    · exact now
  case publishers => exact publishers
  case finished =>
    intro service topic reply found
    rcases finished service topic reply found with earlier | now
    · exact (books.finished service topic reply earlier).grow grows
    · exact now
  case served =>
    intro topic reply member
    rcases served topic reply member with earlier | now
    · obtain ⟨service, served⟩ := books.served topic reply earlier
      exact ⟨service, served.grow grows⟩
    · exact now
  case returned =>
    intro client index ready result member
    rcases List.mem_append.mp member with earlier | now
    · exact
        (books.returned client index ready result earlier).grow
          (grows.calls client) fun _ known => grows.replies known
    · exact returned client index ready result now

theorem RpcBooks.created : RpcBooks (RpcNetwork.created system) [] where
  clients _ := ClientBooks.created
  asked := by simp [RpcNetwork.created]
  publishers service := by
    intro replyTopic topic found
    simp [RpcNetwork.created, Service.created] at found
  finished := by simp [RpcNetwork.created, Service.created]
  served := by simp [RpcNetwork.created]
  returned := by simp

theorem RpcBooks.afterClient
    [DecidableEq Clients] {client : Clients}
    {after :
      Client (system.Req (system.requestTopic client))
          (system.Resp (system.requestTopic client)) ×
        List (ClientEvent (system.Resp (system.requestTopic client)))}
    (books : RpcBooks network events)
    (advance :
      ClientAdvance (system.request (system.requestTopic client))
        (system.response (system.requestTopic client))
        (system.replyTopic client)
        (fun reply => (system.replyTopic client, reply) ∈ network.replies)
        (network.clients client) after.1 after.2) :
    RpcBooks (network.afterClient client after).1
      (events ++ (network.afterClient client after).2) := by
  have mine :
      (network.afterClient client after).1.clients client = after.1 := by
    simp [RpcNetwork.afterClient]
  have others {other : Clients} (different : other ≠ client) :
      (network.afterClient client after).1.clients other =
        network.clients other := by
    simp [RpcNetwork.afterClient, different]
  have grows : RpcGrows network (network.afterClient client after).1 := by
    refine ⟨fun other => ?_, List.subset_append_left _ _, List.Subset.refl _⟩
    by_cases same : other = client
    · subst same
      rw [mine]
      exact advance.requests
    · exact others same ▸ List.prefix_rfl
  refine books.grow grows ?_ ?_ books.publishers (fun _ _ _ found => .inl found)
    (fun _ _ member => .inl member) ?_
  · intro other
    by_cases same : other = client
    · subst same
      rw [mine]
      exact advance.books
    · rw [others same]
      exact books.clients other
  · intro topic wire member
    rcases List.mem_append.mp member with earlier | now
    · exact .inl earlier
    · obtain ⟨sent, emitted, equal⟩ := List.mem_map.mp now
      cases equal
      obtain ⟨event, occurs, asks⟩ := List.mem_filterMap.mp emitted
      cases event with
      | sent request =>
          cases asks
          obtain ⟨index, call, found, rfl⟩ := advance.sent _ occurs
          exact .inr ⟨client, index, call, rfl, by rw [mine]; exact found, rfl⟩
      | _ => cases asks
  · intro other index ready result member
    obtain ⟨event, occurs, equal⟩ := List.mem_map.mp member
    cases equal
    rw [mine]
    exact advance.returned index ready result occurs

theorem RpcBooks.afterService
    [DecidableEq Services] {service : Services}
    {after :
      Service ×
        List
          (ServiceEvent (system.Req (system.serviceTopic service))
            (system.Resp (system.serviceTopic service)))}
    (books : RpcBooks network events)
    (fit : after.1.PublishersFit)
    (finished :
      ∀ topic reply, after.1.finished = some (topic, reply) →
        Served (network.afterService service after).1
          (events ++ (network.afterService service after).2) service topic
          reply)
    (published :
      ∀ topic reply, .published topic reply ∈ after.2 →
        (network.services service).finished = some (topic, reply)) :
    RpcBooks (network.afterService service after).1
      (events ++ (network.afterService service after).2) := by
  have mine :
      (network.afterService service after).1.services service = after.1 := by
    simp [RpcNetwork.afterService]
  have others {other : Services} (different : other ≠ service) :
      (network.afterService service after).1.services other =
        network.services other := by
    simp [RpcNetwork.afterService, different]
  have grows : RpcGrows network (network.afterService service after).1 :=
    ⟨fun _ => List.prefix_rfl, List.Subset.refl _, List.subset_append_left _ _⟩
  refine books.grow grows ?_ (fun _ _ member => .inl member) ?_ ?_ ?_ ?_
  · intro client
    exact (books.clients client).mono fun _ known => grows.replies known
  · intro other
    by_cases same : other = service
    · subst same
      rwa [mine]
    · rw [others same]
      exact books.publishers other
  · intro other topic reply found
    by_cases same : other = service
    · subst same
      rw [mine] at found
      exact .inr (finished topic reply found)
    · rw [others same] at found
      exact .inl found
  · intro topic reply member
    rcases List.mem_append.mp member with earlier | now
    · exact .inl earlier
    · obtain ⟨event, occurs, replies⟩ := List.mem_filterMap.mp now
      cases event with
      | published other sent =>
          cases replies
          exact
            .inr ⟨service,
              (books.finished service topic reply
                (published topic reply occurs)).grow grows⟩
      | _ => cases replies
  · intro client index ready result member
    obtain ⟨event, _, equal⟩ := List.mem_map.mp member
    cases equal

variable [DecidableEq Clients] [DecidableEq Services]

theorem RpcBooks.step
    {input : RpcInput system} (books : RpcBooks network events)
    (stepped : network.step input = some (target, emitted)) :
    RpcBooks target (events ++ emitted) := by
  cases input with
  | client client input =>
      simp only [RpcNetwork.step] at stepped
      split at stepped
      · rename_i delivered
        obtain ⟨after, advanced, equal⟩ := Option.map_eq_some_iff.mp stepped
        cases equal
        refine books.afterClient ((books.clients client).step ?_ advanced)
        rintro reply rfl
        exact delivered reply rfl
      · cases stepped
  | serve service wire outcome =>
      simp only [RpcNetwork.step] at stepped
      split at stepped
      · rename_i delivered
        obtain ⟨after, handled, equal⟩ := Option.map_eq_some_iff.mp stepped
        cases equal
        rcases Service.handleRequest_eq_some handled with
          ⟨_, silent, served⟩ | ⟨message, parsed, ran, served⟩
        · refine books.afterService ?_ ?_ ?_
          · rw [served]
            exact books.publishers service
          · intro topic reply found
            rw [served] at found
            cases found
            exact ⟨wire, delivered, rfl, rfl, by simp [errorReply]⟩
          · simp [silent]
        · refine books.afterService ?_ ?_ ?_
          · rw [served]
            exact books.publishers service
          · intro topic reply found
            rw [served] at found
            cases found
            refine ⟨wire, delivered, rfl, Service.handlerReply_requestId _ _ _,
              fun ok => ?_⟩
            obtain ⟨result, rfl, serialized⟩ := Service.handlerReply_ok ok
            refine ⟨message, result, parsed, serialized, ?_⟩
            apply List.mem_append_right
            simp [RpcNetwork.afterService, ran]
          · simp [ran]
      · cases stepped
  | reply service =>
      simp only [RpcNetwork.step] at stepped
      obtain ⟨after, replied, equal⟩ := Option.map_eq_some_iff.mp stepped
      cases equal
      obtain ⟨topic, reply, finished, idle, fit, emits⟩ :=
        Service.publishReply_eq_some (books.publishers service) replied
      refine books.afterService fit (by simp [idle]) ?_
      intro other sent occurs
      rcases emits with sole | both
      · rw [sole] at occurs
        cases List.mem_singleton.mp occurs
        exact finished
      · rw [both] at occurs
        simp only [List.mem_cons, reduceCtorEq, false_or,
          ServiceEvent.published.injEq, List.not_mem_nil, or_false] at occurs
        obtain ⟨rfl, rfl⟩ := occurs
        exact finished

theorem rpcBooks_of_run
    {inputs : List (RpcInput system)}
    (run : (rpcMachine system).Run Machine.free inputs network events) :
    RpcBooks network events := by
  refine run.invariant RpcBooks ?_ ?_
  · rintro network rfl
    exact RpcBooks.created
  · intro network events input target emitted books _ stepped
    exact books.step stepped

/-- The value that a call returns was returned by the handler of a service on
the request topic of its client, run on exactly the request of this call; and
the envelope that the service has answered was sent by no other call. -/
theorem call_returns_own_answer
    (ownReplies : Function.Injective system.replyTopic)
    {inputs : List (RpcInput system)}
    (run : (rpcMachine system).Run Machine.free inputs network events)
    (few : ∀ client, (network.clients client).calls.length < 2 ^ 64)
    {client : Clients} {index : Nat} {ready : Bool}
    {result : system.Resp (system.requestTopic client)}
    (returned :
      .client client (.returned index ready (some result)) ∈ events) :
    ∃ (call : CallRequest (system.Req (system.requestTopic client)))
      (service : Services) (wire : RpcRequest),
      (network.clients client).requests[index]? = some call ∧
        wire = ⟨call.requestId, system.replyTopic client, call.payload⟩ ∧
        system.serviceTopic service = system.requestTopic client ∧
        .service service (system.requestTopic client)
          (.executed wire call.request (.returned result)) ∈ events ∧
        ∀ (otherClient : Clients) (otherIndex : Nat)
          (other : CallRequest (system.Req (system.requestTopic otherClient))),
          (network.clients otherClient).requests[otherIndex]? = some other →
          wire =
            ⟨other.requestId, system.replyTopic otherClient, other.payload⟩ →
          otherClient = client ∧ otherIndex = index := by
  have books := rpcBooks_of_run run
  obtain ⟨call, reply, member, heard, numbered, outcome⟩ :=
    books.returned client index ready result returned
  obtain ⟨service, wire, taken, addressed, sameNumber, answered⟩ :=
    books.served _ _ heard
  obtain ⟨sender, senderIndex, senderCall, topic, asked, rfl⟩ :=
    books.asked _ _ taken
  -- The reply topic identifies the client, the number then the call.
  obtain rfl := ownReplies addressed
  obtain rfl :=
    (books.clients sender).index_unique (few sender) member asked
      (numbered.symm.trans sameNumber)
  rw [member] at asked
  cases asked
  have ok : reply.ok = true := by
    by_contra failed
    simp [RpcReply.outcome, failed] at outcome
  rw [RpcReply.outcome, if_pos ok] at outcome
  obtain ⟨message, value, parsed, serialized, executed⟩ := answered ok
  refine ⟨senderCall, service, _, member, rfl, topic, ?_, ?_⟩
  · -- Both sides parse with the types of the one topic.
    generalize system.serviceTopic service = shared at *
    subst topic
    have sent := (books.clients sender).numbered index senderCall member
    rw [(system.request _).parse_serialize _ _ sent.2] at parsed
    rw [(system.response _).parse_serialize _ _ serialized] at outcome
    cases parsed
    cases outcome
    exact executed
  · intro otherClient otherIndex other found equal
    obtain ⟨sameId, sameTopic, _⟩ := RpcRequest.mk.inj equal
    obtain rfl := ownReplies sameTopic
    exact
      ⟨rfl,
        ((books.clients sender).index_unique (few sender) member found
          sameId).symm⟩

end Provenance

/-! ## Two clients with one number -/

/-- Two clients of one service, all messages being byte strings. -/
def twoClients : RpcSystem Bool Unit where
  serviceName _ := ['s']
  clientId client := if client then ['b'] else ['a']
  offeredName _ := ['s']
  Req _ := Bytes
  Resp _ := Bytes
  request _ := bytesCodec
  response _ := bytesCodec

/-- A step of one of the two clients. -/
def byClient (client : Bool) (input : ClientInput Bytes) : RpcInput twoClients :=
  .client client input

/-- The service runs its handler on a request and publishes the reply. -/
def answering (client : Bool) (payload response : Bytes) :
    List (RpcInput twoClients) :=
  [.serve () ⟨1, twoClients.replyTopic client, payload⟩ (.returned response),
    .reply ()]

/-- Both clients make their first call, the requests overtake each other, and
each reply is delivered. -/
def crossedCalls : List (RpcInput twoClients) :=
  [byClient false (.call [1]), byClient true (.call [2]),
    byClient false (.register 0), byClient true (.register 0),
    byClient false (.publish 0 true), byClient true (.publish 0 true)] ++
    answering true [2] [8] ++ answering false [1] [7] ++
    [byClient false (.receive ⟨1, [7], true, []⟩), byClient false .store,
      byClient true (.receive ⟨1, [8], true, []⟩), byClient true .store,
      byClient false (.wake 0), byClient true (.wake 0),
      byClient true (.finish 0), byClient false (.finish 0)]

/-- The first call returns a value. -/
def returnsFirst (value : Bytes) (event : ClientEvent Bytes) : Bool :=
  event = .returned 0 true (some value)

/-- The first call of a client returns a value. -/
def clientReturns (client : Bool) (value : Bytes) : RpcEvent twoClients → Bool
  | .client other event => other = client && returnsFirst value event
  | _ => false

/-- Two clients make their first calls at the same time. -/
theorem call_returns_own_answer_crossed :
    ∃ network events,
      (rpcMachine twoClients).Run Machine.free crossedCalls network events ∧
        ∃ (call : CallRequest Bytes) (service : Unit) (wire : RpcRequest),
          (network.clients true).requests[0]? = some call ∧
            wire = ⟨call.requestId, twoClients.replyTopic true, call.payload⟩ ∧
            .service service (twoClients.requestTopic true)
              (.executed wire call.request (.returned [8])) ∈ events := by
  obtain ⟨network, events, run, checked⟩ :=
    Machine.run_of_exec_check (rpcMachine twoClients) Machine.free crossedCalls
      (RpcNetwork.created twoClients)
      (fun network events =>
        events.any (clientReturns true [8]) ∧
          (network.clients false).calls.length = 1 ∧
          (network.clients true).calls.length = 1)
      rfl (by decide +kernel)
  obtain ⟨seen, first, second⟩ := of_decide_eq_true checked
  obtain ⟨event, member, returns⟩ := List.any_eq_true.mp seen
  have returned : .client true (.returned 0 true (some [8])) ∈ events := by
    cases event with
    | client other event =>
        simp only [clientReturns, returnsFirst, Bool.and_eq_true,
          decide_eq_true_eq] at returns
        obtain ⟨rfl, rfl⟩ := returns
        exact member
    | service => cases returns
  have distinct : Function.Injective twoClients.replyTopic := by
    intro one other
    revert one other
    decide +kernel
  have few (client : Bool) : (network.clients client).calls.length < 2 ^ 64 := by
    cases client <;> omega
  obtain ⟨call, service, wire, found, sent, _, executed, _⟩ :=
    call_returns_own_answer distinct run few returned
  exact ⟨network, events, run, call, service, wire, found, sent, executed⟩

end MiniMiddleware.Core
