import MiniMiddleware.Common.BlockingQueue
import MiniMiddleware.Core.Fabric
import MiniMiddleware.Core.Service
import MiniMiddleware.Library.Lists

/-!
# The types of a remote call

Services and clients advertise the names of their request and response types,
and discovery matches a service with a client only if both agree.  Nothing
depends on that match: requests travel between the endpoints of the request
topic, which all have the type of the envelope, and inside a process they do
not pass discovery at all.  So a request reaches every service of its topic,
and the handler runs whenever the payload happens to parse.

The nodes are those of a fabric; all its steps may be interleaved with those
of the clients and services.
-/

namespace MiniMiddleware.Core

open MiniMiddleware.Library MiniMiddleware.Discovery MiniMiddleware.Transport

/-- The message types by their full names, and the two envelopes. -/
structure MessageTypes where
  Message : Text → Type
  codec : (typeName : Text) → Codec (Message typeName)
  envelope : Codec RpcRequest
  replyEnvelope : Codec RpcReply

/-- `RpcRequest().GetDescriptor()->full_name()`. -/
def rpcRequestType : Text :=
  "mm.RpcRequest".toList

/-- `RpcReply().GetDescriptor()->full_name()`. -/
def rpcReplyType : Text :=
  "mm.RpcReply".toList

/-- What a client or a service is created with. -/
structure RpcParty where
  pid : Nat
  serviceName : Text
  requestType : Text
  responseType : Text
  reliability : Nat
  deriving DecidableEq, Repr

/-- A client with its counter and the requests it has sent. -/
structure HostedClient extends RpcParty where
  clientId : Text
  nextRequestId : Nat
  sent : List RpcRequest
  deriving DecidableEq, Repr

/-- A service with its request subscriber. -/
structure HostedService extends RpcParty where
  subscriber : SinkHandle
  queue : BlockingQueue Bytes
  service : Service

/-- The nodes with their names, the number of entities of each, and all
clients and services in the order of their creation. -/
structure RpcHosts where
  names : Nat → Text
  fabric : Fabric
  entities : Nat → Nat
  clients : List HostedClient
  services : List HostedService

/-- The operations of the nodes.  `capacity` is the queue limit that the QoS of
a service gives. -/
inductive RpcHostsInput (types : MessageTypes) where
  | createService (party : RpcParty) (capacity : Nat)
  | createClient (party : RpcParty)
  | fabric (input : FabricInput)
  | call (client : Nat) (typeName : Text) (request : types.Message typeName)
  | handle (service : Nat) (typeName : Text)
      (outcome : HandlerOutcome (types.Message typeName))
  | reply (service : Nat)

/-- What becomes visible of clients and services. -/
inductive RpcHostsEvent (types : MessageTypes) where
  | sent (client : Nat) (wire : RpcRequest)
  | service (service : Nat) (requestType responseType : Text)
      (event :
        ServiceEvent (types.Message requestType) (types.Message responseType))

namespace RpcParty

/-- The request topic. -/
def requestTopic (party : RpcParty) : Text :=
  rpcRequestTopic party.serviceName

/-- The endpoint that is advertised for the service or the client itself. -/
def endpoint (party : RpcParty) (kind : EndpointKind) : EndpointInfo :=
  { kind := kind
    topic := party.serviceName
    typeName := party.requestType
    reliability := party.reliability
    responseTypeName := party.responseType }

/-- The types of a client and of a service agree. -/
def SameTypes (client service : RpcParty) : Prop :=
  client.requestType = service.requestType ∧
    client.responseType = service.responseType

instance (client service : RpcParty) : Decidable (SameTypes client service) :=
  inferInstanceAs (Decidable (_ ∧ _))

end RpcParty

/-- `enqueue` of the request subscriber, if it is the one that is called. -/
def HostedService.enqueue (service : HostedService) :
    FabricEvent → HostedService
  | .enqueued pid sink bytes =>
      if pid = service.pid ∧ sink = service.subscriber then
        { service with queue := (service.queue.push bytes).1 }
      else
        service
  | _ => service

namespace RpcHosts

/-- Add one to the number of entities of a node. -/
def addEntity (hosts : RpcHosts) (pid : Nat) : RpcHosts :=
  { hosts with
    entities := Function.update hosts.entities pid (hosts.entities pid + 1) }

/-- The fabric has taken a step; its deliveries reach the queues. -/
def deliver (hosts : RpcHosts) (after : Fabric × List FabricEvent) : RpcHosts :=
  { hosts with
    fabric := after.1
    services :=
      hosts.services.map fun service =>
        after.2.foldl HostedService.enqueue service }

/-- `create_service`. -/
def createService (hosts : RpcHosts) (party : RpcParty) (capacity : Nat) :
    RpcHosts :=
  let serial := (hosts.fabric.planes party.pid).nextSerial
  let subscribed :=
    hosts.fabric.createSubscriber party.pid party.requestTopic rpcRequestType
      party.reliability
  { hosts.addEntity party.pid with
    fabric := subscribed.addEndpoint party.pid (party.endpoint .service)
    services :=
      hosts.services ++
        [{ party with
            subscriber :=
              .subscriber serial party.requestTopic rpcRequestType
            queue := .created capacity
            service := .created }] }

/-- `create_client`. -/
def createClient (hosts : RpcHosts) (party : RpcParty) : RpcHosts :=
  let clientId :=
    hosts.names party.pid ++ '-' :: decimal party.pid ++
      '-' :: decimal (hosts.entities party.pid)
  let published :=
    hosts.fabric.createPublisher party.pid party.requestTopic rpcRequestType
      party.reliability
  let subscribed :=
    published.createSubscriber party.pid
      (rpcReplyTopic party.serviceName clientId) rpcReplyType party.reliability
  { hosts.addEntity party.pid with
    fabric := subscribed.addEndpoint party.pid (party.endpoint .client)
    clients :=
      hosts.clients ++
        [{ party with clientId := clientId, nextRequestId := 1, sent := [] }] }

/-- `call` up to the publication of the request. -/
def call (types : MessageTypes) (hosts : RpcHosts) (index : Nat)
    (typeName : Text) (request : types.Message typeName) :
    Option (RpcHosts × List (RpcHostsEvent types)) :=
  match hosts.clients[index]? with
  | none => none
  | some client =>
      if client.requestType = typeName then
        match (types.codec typeName).serialize request with
        | none => some (hosts, [])
        | some payload =>
            let wire : RpcRequest :=
              ⟨client.nextRequestId,
                rpcReplyTopic client.serviceName client.clientId, payload⟩
            let number (wires : List RpcRequest) :=
              { hosts with
                clients :=
                  hosts.clients.modify index fun client =>
                    { client with
                      nextRequestId := (client.nextRequestId + 1) % 2 ^ 64
                      sent := client.sent ++ wires } }
            match types.envelope.serialize wire with
            | none => some (number [], [])
            | some bytes =>
                some
                  ((number [wire]).deliver
                    (hosts.fabric.publish client.pid client.requestTopic
                      rpcRequestType bytes),
                    [.sent index wire])
      else
        none

/-- The worker of a request subscriber takes a message from its queue, parses
the envelope and enters `handle_request`. -/
def handle (types : MessageTypes) (hosts : RpcHosts) (index : Nat)
    (typeName : Text) (outcome : HandlerOutcome (types.Message typeName)) :
    Option (RpcHosts × List (RpcHostsEvent types)) :=
  match hosts.services[index]? with
  | none => none
  | some hosted =>
      match hosted.queue.pop with
      | some (queue, some bytes) =>
          if hosted.responseType = typeName then
            match types.envelope.parse bytes with
            | none =>
                some
                  ({ hosts with
                      services :=
                        hosts.services.modify index fun service =>
                          { service with queue := queue } }, [])
            | some wire =>
                (hosted.service.handleRequest
                    (types.codec hosted.requestType) (types.codec typeName)
                    wire outcome).map fun after =>
                  ({ hosts with
                      services :=
                        hosts.services.modify index fun service =>
                          { service with queue := queue, service := after.1 } },
                    after.2.map (.service index hosted.requestType typeName))
          else
            none
      | _ => none

/-- The effect of the reply publishers on the fabric: a new publisher is
registered and advertised, and a reply is published. -/
def replyEffect (types : MessageTypes) (party : RpcParty)
    {Req Resp : Type} (hosts : RpcHosts) : ServiceEvent Req Resp → RpcHosts
  | .executed _ _ _ => hosts
  | .registered topic =>
      { hosts with
        fabric :=
          hosts.fabric.createPublisher party.pid topic rpcReplyType
            party.reliability }
  | .published topic reply =>
      match types.replyEnvelope.serialize reply with
      | none => hosts
      | some bytes =>
          hosts.deliver
            (hosts.fabric.publish party.pid topic rpcReplyType bytes)

/-- The worker of a request subscriber publishes the reply. -/
def reply (types : MessageTypes) (hosts : RpcHosts) (index : Nat) :
    Option (RpcHosts × List (RpcHostsEvent types)) :=
  match hosts.services[index]? with
  | none => none
  | some hosted =>
      hosted.service.publishReply.map fun after =>
        (after.2.foldl (replyEffect types hosted.toRpcParty)
          { hosts with
            services :=
              hosts.services.modify index fun service =>
                { service with service := after.1 } },
          after.2.map
            (.service index hosted.requestType hosted.responseType))

/-- One operation. -/
def step (types : MessageTypes) (hosts : RpcHosts) :
    RpcHostsInput types → Option (RpcHosts × List (RpcHostsEvent types))
  | .createService party capacity =>
      some (hosts.createService party capacity, [])
  | .createClient party => some (hosts.createClient party, [])
  | .fabric input =>
      (hosts.fabric.step input).map fun after => (hosts.deliver after, [])
  | .call client typeName request => hosts.call types client typeName request
  | .handle service typeName outcome =>
      hosts.handle types service typeName outcome
  | .reply service => hosts.reply types service

/-- Nodes of given names, hosts and shared-memory settings, right after their
construction. -/
def started (names hostIds : Nat → Text) (shm : Nat → Bool) : RpcHosts where
  names := names
  fabric := Fabric.started hostIds shm
  entities _ := 0
  clients := []
  services := []

end RpcHosts

/-- Nodes with services and clients as a machine. -/
def rpcHostsMachine (types : MessageTypes) :
    Machine RpcHosts (RpcHostsInput types) (RpcHostsEvent types) where
  initial hosts := ∃ names hostIds shm, hosts = RpcHosts.started names hostIds shm
  step := RpcHosts.step types

/-! ## Services keep what they were created with -/

theorem HostedService.enqueue_toRpcParty
    (service : HostedService) (event : FabricEvent) :
    (service.enqueue event).toRpcParty = service.toRpcParty := by
  unfold enqueue
  split
  · split <;> rfl
  · rfl

namespace RpcHosts

/-- What the services were created with. -/
def offers (hosts : RpcHosts) : List RpcParty :=
  hosts.services.map HostedService.toRpcParty

theorem offers_deliver (hosts : RpcHosts) (after : Fabric × List FabricEvent) :
    (hosts.deliver after).offers = hosts.offers := by
  have kept (events : List FabricEvent) :
      ∀ service : HostedService,
        (events.foldl HostedService.enqueue service).toRpcParty =
          service.toRpcParty := by
    induction events with
    | nil =>
        intro service
        rfl
    | cons event rest inductionHypothesis =>
        intro service
        rw [List.foldl_cons, inductionHypothesis,
          HostedService.enqueue_toRpcParty]
  simp [offers, deliver, kept]

theorem offers_modify
    {hosts target : RpcHosts} {index : Nat}
    {change : HostedService → HostedService}
    (services : target.services = hosts.services.modify index change)
    (kept : ∀ service, (change service).toRpcParty = service.toRpcParty) :
    target.offers = hosts.offers := by
  rw [offers, services, map_modify_of_kept kept]
  rfl

theorem replyEffect_frame
    (types : MessageTypes) (party : RpcParty) {Req Resp : Type}
    (events : List (ServiceEvent Req Resp)) :
    ∀ hosts : RpcHosts,
      (events.foldl (replyEffect types party) hosts).offers = hosts.offers ∧
        (events.foldl (replyEffect types party) hosts).clients =
          hosts.clients := by
  induction events with
  | nil =>
      intro hosts
      exact ⟨rfl, rfl⟩
  | cons event rest inductionHypothesis =>
      intro hosts
      have once :
          (hosts.replyEffect types party event).offers = hosts.offers ∧
            (hosts.replyEffect types party event).clients = hosts.clients := by
        unfold replyEffect
        split
        · exact ⟨rfl, rfl⟩
        · exact ⟨rfl, rfl⟩
        · split
          · exact ⟨rfl, rfl⟩
          · exact ⟨offers_deliver _ _, rfl⟩
      rw [List.foldl_cons]
      exact
        ⟨(inductionHypothesis _).1.trans once.1,
          (inductionHypothesis _).2.trans once.2⟩

end RpcHosts

/-! ## The condition -/

/-- A request does not parse at a service of the same name but other types. -/
def Unreadable (types : MessageTypes) (client service : RpcParty)
    (payload : Bytes) : Prop :=
  client.serviceName = service.serviceName →
    ¬ client.SameTypes service →
    ((types.codec service.requestType).parse payload).isNone = true

instance (types : MessageTypes) (client service : RpcParty) (payload : Bytes) :
    Decidable (Unreadable types client service payload) :=
  inferInstanceAs (Decidable (_ → _ → _))

/-- No request is sent that a service of the same name but other types can
read, and no such service is created after the request. -/
def UnreadableElsewhere (types : MessageTypes) (hosts : RpcHosts) :
    RpcHostsInput types → Prop
  | .createService party _ =>
      ∀ client ∈ hosts.clients, ∀ wire ∈ client.sent,
        Unreadable types client.toRpcParty party wire.payload
  | .call index typeName request =>
      ∀ client ∈ hosts.clients[index]?,
        ∀ payload ∈ (types.codec typeName).serialize request,
          ∀ offer ∈ hosts.offers,
            Unreadable types client.toRpcParty offer payload
  | _ => True

instance (types : MessageTypes) (hosts : RpcHosts) :
    (input : RpcHostsInput types) →
      Decidable (UnreadableElsewhere types hosts input)
  | .createService party _ =>
      inferInstanceAs
        (Decidable
          (∀ client ∈ hosts.clients, ∀ wire ∈ client.sent,
            Unreadable types client.toRpcParty party wire.payload))
  | .call index typeName request =>
      inferInstanceAs
        (Decidable
          (∀ client ∈ hosts.clients[index]?,
            ∀ payload ∈ (types.codec typeName).serialize request,
              ∀ offer ∈ hosts.offers,
                Unreadable types client.toRpcParty offer payload))
  | .createClient _ => inferInstanceAs (Decidable True)
  | .fabric _ => inferInstanceAs (Decidable True)
  | .handle _ _ _ => inferInstanceAs (Decidable True)
  | .reply _ => inferInstanceAs (Decidable True)

/-! ## The invariant -/

/-- What holds after every run that meets the condition. -/
structure RpcTyped (types : MessageTypes) (hosts : RpcHosts)
    (events : List (RpcHostsEvent types)) : Prop where
  sent :
    ∀ index wire, .sent index wire ∈ events →
      ∃ client, hosts.clients[index]? = some client ∧ wire ∈ client.sent
  unreadable :
    ∀ client ∈ hosts.clients, ∀ wire ∈ client.sent, ∀ offer ∈ hosts.offers,
      Unreadable types client.toRpcParty offer wire.payload
  executed :
    ∀ index requestType responseType wire message outcome,
      .service index requestType responseType
          (.executed wire message outcome) ∈ events →
      ∃ offer, hosts.offers[index]? = some offer ∧
        ((types.codec offer.requestType).parse wire.payload).isSome = true

namespace RpcTyped

variable {types : MessageTypes} {hosts target : RpcHosts}
  {events emitted : List (RpcHostsEvent types)}

/-- The steps that leave clients and offers alone; a handler runs only on what
its service can parse. -/
theorem frame
    (typed : RpcTyped types hosts events)
    (clients : target.clients = hosts.clients)
    (offers : target.offers = hosts.offers)
    (unsent : ∀ index wire, .sent index wire ∉ emitted)
    (executed :
      ∀ index requestType responseType wire message outcome,
        .service index requestType responseType
            (.executed wire message outcome) ∈ emitted →
        ∃ offer, hosts.offers[index]? = some offer ∧
          ((types.codec offer.requestType).parse wire.payload).isSome = true) :
    RpcTyped types target (events ++ emitted) := by
  constructor
  case sent =>
    intro index wire member
    rcases List.mem_append.mp member with earlier | now
    · rw [clients]
      exact typed.sent index wire earlier
    · exact absurd now (unsent index wire)
  case unreadable =>
    rw [clients, offers]
    exact typed.unreadable
  case executed =>
    rw [offers]
    intro index requestType responseType wire message outcome member
    rcases List.mem_append.mp member with earlier | now
    · exact typed.executed _ _ _ _ _ _ earlier
    · exact executed _ _ _ _ _ _ now

theorem createService
    (typed : RpcTyped types hosts events) {party : RpcParty} {capacity : Nat}
    (allowed :
      UnreadableElsewhere types hosts (.createService party capacity)) :
    RpcTyped types (hosts.createService party capacity) events := by
  have offers :
      (hosts.createService party capacity).offers = hosts.offers ++ [party] := by
    simp [RpcHosts.offers, RpcHosts.createService]
  constructor
  case sent => exact typed.sent
  case unreadable =>
    rw [offers]
    intro client member wire sent offer offered
    rcases List.mem_append.mp offered with earlier | now
    · exact typed.unreadable client member wire sent offer earlier
    · rw [List.mem_singleton.mp now]
      exact allowed client member wire sent
  case executed =>
    rw [offers]
    intro index requestType responseType wire message outcome member
    obtain ⟨offer, found, parses⟩ := typed.executed _ _ _ _ _ _ member
    exact ⟨offer, getElem?_concat_eq_some.mpr (.inl found), parses⟩

theorem createClient
    (typed : RpcTyped types hosts events) (party : RpcParty) :
    RpcTyped types (hosts.createClient party) events := by
  constructor
  case sent =>
    intro index wire member
    obtain ⟨client, found, sent⟩ := typed.sent index wire member
    exact ⟨client, getElem?_concat_eq_some.mpr (.inl found), sent⟩
  case unreadable =>
    intro client member wire sent
    rcases List.mem_append.mp member with earlier | now
    · exact typed.unreadable client earlier wire sent
    · rw [List.mem_singleton.mp now] at sent
      cases sent
  case executed => exact typed.executed

/-- A client sends requests that no service of other types can read. -/
theorem send
    (typed : RpcTyped types hosts events) {index : Nat}
    {client : HostedClient} (wires : List RpcRequest)
    (found : hosts.clients[index]? = some client)
    (clients :
      target.clients =
        hosts.clients.modify index fun client =>
          { client with
            nextRequestId := (client.nextRequestId + 1) % 2 ^ 64
            sent := client.sent ++ wires })
    (offers : target.offers = hosts.offers)
    (unreadable :
      ∀ wire ∈ wires, ∀ offer ∈ hosts.offers,
        Unreadable types client.toRpcParty offer wire.payload) :
    RpcTyped types target (events ++ wires.map (.sent index)) := by
  constructor
  case sent =>
    intro other wire member
    rw [clients]
    rcases List.mem_append.mp member with earlier | now
    · obtain ⟨before, kept, sent⟩ := typed.sent other wire earlier
      refine ⟨_, getElem?_modify_eq_some.mpr ⟨before, kept, rfl⟩, ?_⟩
      split
      · exact List.mem_append_left wires sent
      · exact sent
    · obtain ⟨same, sent, equal⟩ := List.mem_map.mp now
      cases equal
      refine ⟨_, getElem?_modify_eq_some.mpr ⟨client, found, rfl⟩, ?_⟩
      rw [if_pos rfl]
      exact List.mem_append_right client.sent sent
  case unreadable =>
    rw [clients, offers]
    intro later member wire sent
    obtain ⟨other, place⟩ := List.mem_iff_getElem?.mp member
    obtain ⟨before, kept, rfl⟩ := getElem?_modify_eq_some.mp place
    have earlier := typed.unreadable before (List.mem_of_getElem? kept)
    by_cases here : index = other
    · subst here
      rw [found] at kept
      cases kept
      rw [if_pos rfl] at sent ⊢
      rcases List.mem_append.mp sent with old | new
      · exact earlier wire old
      · exact unreadable wire new
    · rw [if_neg here] at sent ⊢
      exact earlier wire sent
  case executed =>
    rw [offers]
    intro other requestType responseType wire message outcome member
    rcases List.mem_append.mp member with earlier | now
    · exact typed.executed _ _ _ _ _ _ earlier
    · obtain ⟨_, _, impossible⟩ := List.mem_map.mp now
      cases impossible

theorem call
    (typed : RpcTyped types hosts events) {index : Nat} {typeName : Text}
    {request : types.Message typeName}
    (allowed : UnreadableElsewhere types hosts (.call index typeName request))
    (stepped :
      hosts.call types index typeName request = some (target, emitted)) :
    RpcTyped types target (events ++ emitted) := by
  simp only [RpcHosts.call] at stepped
  split at stepped
  · cases stepped
  · rename_i client found
    split at stepped
    · split at stepped
      · cases stepped
        rwa [List.append_nil]
      · rename_i payload serialized
        have unreadable := allowed client found payload serialized
        split at stepped
        · cases stepped
          exact typed.send [] found rfl rfl (by simp)
        · cases stepped
          refine
            typed.send [_] found rfl (RpcHosts.offers_deliver _ _) ?_
          intro wire sent
          rw [List.mem_singleton.mp sent]
          exact unreadable
    · cases stepped

theorem handle
    (typed : RpcTyped types hosts events) {index : Nat} {typeName : Text}
    {outcome : HandlerOutcome (types.Message typeName)}
    (stepped :
      hosts.handle types index typeName outcome = some (target, emitted)) :
    RpcTyped types target (events ++ emitted) := by
  simp only [RpcHosts.handle] at stepped
  split at stepped
  · cases stepped
  · rename_i hosted found
    split at stepped
    · rename_i queue bytes _
      split at stepped
      · split at stepped
        · cases stepped
          exact
            typed.frame rfl (RpcHosts.offers_modify rfl fun _ => rfl)
              (by simp) (by simp)
        · rename_i wire _
          obtain ⟨after, handled, equal⟩ := Option.map_eq_some_iff.mp stepped
          cases equal
          refine
            typed.frame rfl (RpcHosts.offers_modify rfl fun _ => rfl)
              (by simp) ?_
          intro other requestType responseType sent message ended member
          obtain ⟨event, occurs, equal⟩ := List.mem_map.mp member
          cases equal
          refine ⟨hosted.toRpcParty, by simp [RpcHosts.offers, found], ?_⟩
          rcases Service.handleRequest_eq_some handled with
            ⟨_, silent, _⟩ | ⟨parsedMessage, parsed, ran, _⟩
          · rw [silent] at occurs
            cases occurs
          · rw [ran] at occurs
            cases List.mem_singleton.mp occurs
            simp [parsed]
      · cases stepped
    · cases stepped

theorem reply
    (typed : RpcTyped types hosts events) {index : Nat}
    (stepped : hosts.reply types index = some (target, emitted)) :
    RpcTyped types target (events ++ emitted) := by
  simp only [RpcHosts.reply] at stepped
  split at stepped
  · cases stepped
  · rename_i hosted found
    obtain ⟨after, replied, equal⟩ := Option.map_eq_some_iff.mp stepped
    cases equal
    obtain ⟨offers, clients⟩ :=
      RpcHosts.replyEffect_frame types hosted.toRpcParty after.2
        { hosts with
          services :=
            hosts.services.modify index fun service =>
              { service with service := after.1 } }
    refine
      typed.frame clients
        (offers.trans (RpcHosts.offers_modify rfl fun _ => rfl)) (by simp) ?_
    intro other requestType responseType wire message outcome member
    obtain ⟨event, occurs, equal⟩ := List.mem_map.mp member
    cases equal
    exact absurd occurs (Service.not_executed_of_publishReply replied _ _ _)

theorem step
    {input : RpcHostsInput types} (typed : RpcTyped types hosts events)
    (allowed : UnreadableElsewhere types hosts input)
    (stepped : hosts.step types input = some (target, emitted)) :
    RpcTyped types target (events ++ emitted) := by
  cases input with
  | createService party capacity =>
      cases stepped
      rw [List.append_nil]
      exact typed.createService allowed
  | createClient party =>
      cases stepped
      rw [List.append_nil]
      exact typed.createClient party
  | fabric input =>
      obtain ⟨after, _, equal⟩ := Option.map_eq_some_iff.mp stepped
      cases equal
      exact typed.frame rfl (RpcHosts.offers_deliver _ _) (by simp) (by simp)
  | call client typeName request => exact typed.call allowed stepped
  | handle service typeName outcome => exact typed.handle stepped
  | reply service => exact typed.reply stepped

end RpcTyped

/-- If no client sends a request that parses at a service of its name but of
other types, then a handler only runs on requests of clients whose request and
response types are those of its service. -/
theorem handler_types_agree
    {types : MessageTypes} {inputs : List (RpcHostsInput types)}
    {hosts : RpcHosts} {events : List (RpcHostsEvent types)}
    (run :
      (rpcHostsMachine types).Run (UnreadableElsewhere types) inputs hosts
        events)
    {clientIndex serviceIndex : Nat} {client : HostedClient}
    {service : HostedService}
    (clientAt : hosts.clients[clientIndex]? = some client)
    (serviceAt : hosts.services[serviceIndex]? = some service)
    (sameName : client.serviceName = service.serviceName)
    {wire : RpcRequest} {requestType responseType : Text}
    {message : types.Message requestType}
    {outcome : HandlerOutcome (types.Message responseType)}
    (sent : .sent clientIndex wire ∈ events)
    (executed :
      .service serviceIndex requestType responseType
        (.executed wire message outcome) ∈ events) :
    client.requestType = service.requestType ∧
      client.responseType = service.responseType := by
  have typed : RpcTyped types hosts events := by
    refine run.invariant (RpcTyped types) ?_ ?_
    · rintro hosts ⟨names, hostIds, shm, rfl⟩
      exact ⟨by simp, by simp [RpcHosts.started], by simp⟩
    · intro hosts events input target emitted typed allowed stepped
      exact typed.step allowed stepped
  obtain ⟨sender, senderAt, wireSent⟩ := typed.sent clientIndex wire sent
  obtain ⟨offer, offerAt, parses⟩ := typed.executed _ _ _ _ _ _ executed
  rw [clientAt] at senderAt
  cases senderAt
  rw [RpcHosts.offers, List.getElem?_map, serviceAt] at offerAt
  cases offerAt
  by_contra different
  have offered : service.toRpcParty ∈ hosts.offers :=
    List.mem_map_of_mem (List.mem_of_getElem? serviceAt)
  have unparsed :=
    typed.unreadable client (List.mem_of_getElem? clientAt) wire wireSent _
      offered sameName different
  rw [Option.isNone_iff_eq_none] at unparsed
  simp [unparsed] at parses

/-! ## An empty message -/

/-- A service and a client on node 1. -/
def party (requestType responseType : Text) : RpcParty :=
  ⟨1, ['s'], requestType, responseType, 0⟩

/-- The first request of a client that is the second entity of node 1. -/
def emptyRequest : RpcRequest :=
  ⟨1, rpcReplyTopic ['s'] "n-1-1".toList, []⟩

/-- Message types without fields, or whose fields are all unset: these
serialize to the empty string, which every type parses. -/
def emptyTypes : MessageTypes where
  Message _ := Bytes
  codec _ := bytesCodec
  envelope :=
    .only emptyRequest
      ([8, 1, 18, 22] ++ emptyRequest.replyTopic.map (·.val.toUInt8))
  replyEnvelope := .only ⟨1, [], true, []⟩ [8, 1, 24, 1]

/-- A service and a client are created on one node, the client sends the empty
message, and the service takes it from its queue. -/
def callAcross (clientRequest clientResponse : Text) :
    List (RpcHostsInput emptyTypes) :=
  [.createService (party ['A'] ['B']) 0,
    .createClient (party clientRequest clientResponse),
    .call 0 clientRequest ([] : Bytes), .handle 0 ['B'] (.returned ([] : Bytes)),
    .reply 0]

/-- All nodes have one name and share a host. -/
def oneNode : RpcHosts :=
  RpcHosts.started (fun _ => ['n']) (fun _ => ['h']) fun _ => true

/-- The empty request was sent. -/
def sentEmpty : RpcHostsEvent emptyTypes → Bool
  | .sent client wire => client = 0 && wire = emptyRequest
  | _ => false

/-- The handler ran on the empty request. -/
def ranOnEmpty : RpcHostsEvent emptyTypes → Bool
  | .service service _ _ (.executed wire _ _) =>
      service = 0 && wire = emptyRequest
  | _ => false

theorem mem_of_sentEmpty
    {events : List (RpcHostsEvent emptyTypes)}
    (seen : events.any sentEmpty = true) : .sent 0 emptyRequest ∈ events := by
  obtain ⟨event, member, sent⟩ := List.any_eq_true.mp seen
  cases event with
  | sent client wire =>
      simp only [sentEmpty, Bool.and_eq_true, decide_eq_true_eq] at sent
      obtain ⟨rfl, rfl⟩ := sent
      exact member
  | service => cases sent

theorem mem_of_ranOnEmpty
    {events : List (RpcHostsEvent emptyTypes)}
    (seen : events.any ranOnEmpty = true) :
    ∃ requestType responseType message outcome,
      .service 0 requestType responseType
        (.executed emptyRequest message outcome) ∈ events := by
  obtain ⟨event, member, ran⟩ := List.any_eq_true.mp seen
  unfold ranOnEmpty at ran
  split at ran
  · simp only [Bool.and_eq_true, decide_eq_true_eq] at ran
    obtain ⟨rfl, rfl⟩ := ran
    exact ⟨_, _, _, _, member⟩
  · cases ran

/-- A client and a service with the same types. -/
theorem handler_types_agree_sameTypes :
    ∃ (hosts : RpcHosts) (events : List (RpcHostsEvent emptyTypes))
      (client : HostedClient) (service : HostedService),
      (rpcHostsMachine emptyTypes).Run (UnreadableElsewhere emptyTypes)
          (callAcross ['A'] ['B']) hosts events ∧
        hosts.clients[0]? = some client ∧ hosts.services[0]? = some service ∧
        client.requestType = service.requestType ∧
        client.responseType = service.responseType := by
  obtain ⟨hosts, events, run, checked⟩ :=
    Machine.run_of_exec_check (rpcHostsMachine emptyTypes)
      (UnreadableElsewhere emptyTypes) (callAcross ['A'] ['B']) oneNode
      (fun hosts events =>
        hosts.clients[0]?.any (fun client => client.serviceName = ['s']) ∧
          hosts.services[0]?.any (fun service => service.serviceName = ['s']) ∧
          events.any sentEmpty ∧ events.any ranOnEmpty)
      ⟨_, _, _, rfl⟩ (by decide +kernel)
  obtain ⟨clientNamed, serviceNamed, sent, ran⟩ := of_decide_eq_true checked
  obtain ⟨client, clientAt, clientName⟩ :=
    (Option.any_eq_true _ _).mp clientNamed
  obtain ⟨service, serviceAt, serviceName⟩ :=
    (Option.any_eq_true _ _).mp serviceNamed
  obtain ⟨_, _, _, _, executed⟩ := mem_of_ranOnEmpty ran
  have sameName : client.serviceName = service.serviceName := by
    rw [of_decide_eq_true clientName, of_decide_eq_true serviceName]
  exact ⟨hosts, events, client, service, run, clientAt, serviceAt,
    handler_types_agree run clientAt serviceAt sameName (mem_of_sentEmpty sent)
      executed⟩

/-- A service with request type `A` handles the request of a client with
request type `C`. -/
theorem handler_types_differ :
    ¬ ∀ (inputs : List (RpcHostsInput emptyTypes)) (hosts : RpcHosts)
        (events : List (RpcHostsEvent emptyTypes))
        (clientIndex serviceIndex : Nat) (client : HostedClient)
        (service : HostedService) (wire : RpcRequest)
        (requestType responseType : Text)
        (message : emptyTypes.Message requestType)
        (outcome : HandlerOutcome (emptyTypes.Message responseType)),
        (rpcHostsMachine emptyTypes).Run Machine.free inputs hosts events →
        hosts.clients[clientIndex]? = some client →
        hosts.services[serviceIndex]? = some service →
        client.serviceName = service.serviceName →
        .sent clientIndex wire ∈ events →
        .service serviceIndex requestType responseType
          (.executed wire message outcome) ∈ events →
        client.requestType = service.requestType ∧
          client.responseType = service.responseType := by
  intro claimed
  obtain ⟨hosts, events, run, checked⟩ :=
    Machine.run_of_exec_check (rpcHostsMachine emptyTypes) Machine.free
      (callAcross ['C'] ['D']) oneNode
      (fun hosts events =>
        hosts.clients[0]?.any
            (fun client => client.toRpcParty = party ['C'] ['D']) ∧
          hosts.services[0]?.any
            (fun service => service.toRpcParty = party ['A'] ['B']) ∧
          events.any sentEmpty ∧ events.any ranOnEmpty)
      ⟨_, _, _, rfl⟩ (by decide +kernel)
  obtain ⟨clientMade, serviceMade, sent, ran⟩ := of_decide_eq_true checked
  obtain ⟨client, clientAt, clientParty⟩ :=
    (Option.any_eq_true _ _).mp clientMade
  obtain ⟨service, serviceAt, serviceParty⟩ :=
    (Option.any_eq_true _ _).mp serviceMade
  obtain ⟨_, _, message, outcome, executed⟩ := mem_of_ranOnEmpty ran
  replace clientParty := of_decide_eq_true clientParty
  replace serviceParty := of_decide_eq_true serviceParty
  have agree :=
    claimed _ hosts events 0 0 client service emptyRequest _ _ message outcome
      run clientAt serviceAt (by rw [clientParty, serviceParty]; rfl)
      (mem_of_sentEmpty sent) executed
  rw [clientParty, serviceParty] at agree
  simp [party] at agree

end MiniMiddleware.Core
