import MiniMiddleware.Core.LocalBus
import MiniMiddleware.Transport.TcpClientTransport
import MiniMiddleware.Transport.TcpServerTransport

/-!
# Publishing over one TCP connection

A publishing thread at one node, whose bus holds remote sinks for any number
of topics over one connected `TcpClientTransport`, and the
`TcpServerTransport` of the peer.  Every call of `write` and `read`, every
critical section and every publish is a step of its own; the socket is a FIFO
byte pipe that may be severed at any point.

What the peer passes to `deliver_inbound` is always a prefix of what was
published: the receive buffer, the pipe and the write buffer together are
exactly the frames of the envelopes that are still under way.
-/

namespace MiniMiddleware.Core

open MiniMiddleware.Library MiniMiddleware.Transport
open MiniMiddleware.Transport.FrameCodec

/-- The protobuf envelope of `data.proto`. -/
structure DataMessage where
  topic : Text
  payload : Bytes
  deriving DecidableEq, Repr

/-- `SerializeToString` and `ParseFromString` of `DataMessage`: parsing
inverts serialization. -/
structure DataMessageCodec where
  serialize : DataMessage → Option Bytes
  parse : Bytes → Option DataMessage
  parse_serialize :
    ∀ message bytes, serialize message = some bytes → parse bytes = some message

/-- `RemoteSink::enqueue` up to the call of `send`: the envelope. -/
def remoteSinkEnvelope (codec : DataMessageCodec) (bytes : Bytes)
    (topic : Text) : Option Bytes :=
  codec.serialize ⟨topic, bytes⟩

/-- `DataPlane::on_inbound`: the message passed to `deliver_inbound`. -/
def onInbound (codec : DataMessageCodec) (payload : Bytes) :
    Option DataMessage :=
  codec.parse payload

/-- One connection between two nodes.  `remoteTopic` gives the topic of a
sink that is a `RemoteSink` over this connection; `topics` are the topics that
have one. -/
structure TcpLinkConfig (Sink : Type) where
  codec : DataMessageCodec
  remoteTopic : Sink → Option Text
  topics : List Text
  fd : Nat

/-- Both ends of the connection and the bytes between them.  `pending` are the
envelopes of the current publish that still have to be sent; `checked` says
that `send` has seen the connected state for the first of them. -/
structure TcpLink (Sink : Type) where
  bus : LocalBus Sink
  pending : List Bytes
  checked : Bool
  client : TcpClientTransport
  pipe : Bytes
  severed : Bool
  server : TcpServerTransport
  reading : Bool

/-- The steps of the two nodes and of the network between them. -/
inductive TcpLinkInput (Sink : Type) where
  | publish (topic typeName : Text) (bytes : Bytes) (expired : List Sink)
  | checkState
  | append
  | beginWrite
  | write (result : WriteResult)
  | finishWrite
  | hangUp
  | beginStop
  | finishStop
  | sever
  | beginRead
  | read (count : Nat)
  | endRead (ended : ReadEnd)

/-- What becomes visible: an accepted publish, and a call of
`deliver_inbound`. -/
inductive TcpLinkEvent where
  | published (topic : Text) (bytes : Bytes)
  | delivered (topic : Text) (bytes : Bytes)
  deriving DecidableEq, Repr

namespace TcpLink

variable {Sink : Type}

/-- `LocalBus::publish` and the envelopes of the remote sinks it reaches.  The
remote sinks of this connection are owned by the data plane and do not
expire. -/
def publish [DecidableEq Sink] (config : TcpLinkConfig Sink)
    (link : TcpLink Sink) (topic typeName : Text) (bytes : Bytes)
    (expired : List Sink) :
    Option (TcpLink Sink × List TcpLinkEvent) :=
  if link.pending = [] ∧ ∀ sink ∈ expired, config.remoteTopic sink = none then
    let result := link.bus.publish (fun sink => sink ∉ expired) topic typeName
    some
      ({ link with
          bus := result.1
          pending :=
            (result.2.filterMap config.remoteTopic).filterMap
              (remoteSinkEnvelope config.codec bytes) },
        if link.bus.accepts topic typeName then
          [.published topic bytes]
        else
          [])
  else
    none

/-- The state check at the head of `send`. -/
def checkState (link : TcpLink Sink) : Option (TcpLink Sink) :=
  match link.pending with
  | [] => none
  | _ :: later =>
      if link.checked then
        none
      else if link.client.state = .connected then
        some { link with checked := true }
      else
        some { link with pending := later }

/-- The critical section of `send`. -/
def append (link : TcpLink Sink) : Option (TcpLink Sink) :=
  match link.pending with
  | [] => none
  | envelope :: later =>
      if link.checked then
        (link.client.sendLocked envelope).map fun sent =>
          { link with pending := later, checked := false, client := sent.1 }
      else
        none

/-- One call of `read` inside `handle_read`, into a buffer of 4096 bytes. -/
def read (config : TcpLinkConfig Sink) (link : TcpLink Sink) (count : Nat) :
    Option (TcpLink Sink) :=
  if link.reading ∧ ¬ link.severed ∧ 0 < count ∧ count ≤ 4096 ∧
      count ≤ link.pipe.length then
    some
      { link with
        pipe := link.pipe.drop count
        server := link.server.appendChunk config.fd (link.pipe.take count) }
  else
    none

/-- One step; the events of `endRead` are the calls of `deliver_inbound`. -/
def step [DecidableEq Sink] (config : TcpLinkConfig Sink)
    (link : TcpLink Sink) :
    TcpLinkInput Sink → Option (TcpLink Sink × List TcpLinkEvent)
  | .publish topic typeName bytes expired =>
      link.publish config topic typeName bytes expired
  | .checkState => link.checkState.map (·, [])
  | .append => link.append.map (·, [])
  | .beginWrite =>
      link.client.beginWrite.map fun client =>
        ({ link with client := client }, [])
  | .write result =>
      match link.client.write result with
      | none => none
      | some (client, bytes) =>
          if link.severed ∧ bytes ≠ [] then
            none
          else
            some ({ link with client := client, pipe := link.pipe ++ bytes }, [])
  | .finishWrite =>
      link.client.finishWrite.map fun client =>
        ({ link with client := client }, [])
  | .hangUp => some ({ link with client := link.client.hangUp }, [])
  | .beginStop => some ({ link with client := link.client.beginStop }, [])
  | .finishStop =>
      link.client.finishStop.map fun client =>
        ({ link with client := client }, [])
  | .sever => some ({ link with severed := true }, [])
  | .beginRead =>
      if ¬ link.reading ∧ config.fd ∈ link.server.connectionBuffers then
        some ({ link with reading := true }, [])
      else
        none
  | .read count => (link.read config count).map (·, [])
  | .endRead ended =>
      if link.reading then
        let result := link.server.finishRead config.fd ended
        some
          ({ link with server := result.1, reading := false },
            (result.2.filterMap (onInbound config.codec)).map fun message =>
              .delivered message.topic message.payload)
      else
        none

end TcpLink

/-- The bus holds one remote sink of the connection for each of the given
topics, registered under its own topic, and no other. -/
def HoldsRemoteSinks {Sink : Type} (config : TcpLinkConfig Sink)
    (bus : LocalBus Sink) : Prop :=
  ∀ topic,
    (bus.entry topic).sinks.filterMap config.remoteTopic = [] ∧
      (bus.entry topic).remoteSinks.filterMap config.remoteTopic =
        if topic ∈ config.topics then [topic] else []

/-- Before the first publish the client is connected and both buffers are
empty. -/
structure TcpLink.Fresh {Sink : Type} (config : TcpLinkConfig Sink)
    (link : TcpLink Sink) : Prop where
  bus : HoldsRemoteSinks config link.bus
  pending : link.pending = []
  checked : link.checked = false
  client : link.client = .established
  pipe : link.pipe = []
  server : link.server.connectionBuffers[config.fd]? = some []

/-- One connection as a machine. -/
def tcpLinkMachine {Sink : Type} [DecidableEq Sink]
    (config : TcpLinkConfig Sink) :
    Machine (TcpLink Sink) (TcpLinkInput Sink) TcpLinkEvent where
  initial := TcpLink.Fresh config
  step := TcpLink.step config

/-! ## Published and delivered messages -/

section Traffic

variable {Sink : Type} (config : TcpLinkConfig Sink)

/-- The envelope of a message, when it fits into a frame. -/
def fittingEnvelope (topic : Text) (bytes : Bytes) : Option Bytes :=
  (remoteSinkEnvelope config.codec bytes topic).filter fun envelope =>
    envelope.length ≤ maxPayloadSize

/-- The published messages for the peer whose envelope is at most
`MAX_PAYLOAD_SIZE`. -/
def publishedMessages (events : List TcpLinkEvent) : List (Text × Bytes) :=
  events.filterMap fun event =>
    match event with
    | .published topic bytes =>
        if topic ∈ config.topics ∧ (fittingEnvelope config topic bytes).isSome
        then some (topic, bytes)
        else none
    | .delivered _ _ => none

/-- The messages passed to `deliver_inbound`. -/
def deliveredMessages (events : List TcpLinkEvent) : List (Text × Bytes) :=
  events.filterMap fun event =>
    match event with
    | .published _ _ => none
    | .delivered topic bytes => some (topic, bytes)

/-- The envelopes of `publishedMessages`. -/
def publishedEnvelopes (events : List TcpLinkEvent) : List Bytes :=
  (publishedMessages config events).filterMap fun message =>
    fittingEnvelope config message.1 message.2

/-- Parse an envelope back. -/
def unwrap (envelope : Bytes) : Option (Text × Bytes) :=
  (onInbound config.codec envelope).map fun message =>
    (message.topic, message.payload)

@[simp]
theorem publishedMessages_append (earlier later : List TcpLinkEvent) :
    publishedMessages config (earlier ++ later) =
      publishedMessages config earlier ++ publishedMessages config later :=
  List.filterMap_append

@[simp]
theorem publishedEnvelopes_append (earlier later : List TcpLinkEvent) :
    publishedEnvelopes config (earlier ++ later) =
      publishedEnvelopes config earlier ++ publishedEnvelopes config later := by
  simp [publishedEnvelopes]

@[simp]
theorem deliveredMessages_append (earlier later : List TcpLinkEvent) :
    deliveredMessages (earlier ++ later) =
      deliveredMessages earlier ++ deliveredMessages later :=
  List.filterMap_append

theorem unwrap_fittingEnvelope
    {topic : Text} {bytes envelope : Bytes}
    (wrapped : fittingEnvelope config topic bytes = some envelope) :
    unwrap config envelope = some (topic, bytes) := by
  simp only [fittingEnvelope, Option.filter_eq_some_iff] at wrapped
  simp [unwrap, onInbound,
    config.codec.parse_serialize ⟨topic, bytes⟩ envelope wrapped.1]

/-- Every published message is found again in its envelope. -/
theorem unwrap_publishedEnvelopes (events : List TcpLinkEvent) :
    (publishedEnvelopes config events).filterMap (unwrap config) =
      publishedMessages config events := by
  have fitting :
      ∀ message ∈ publishedMessages config events,
        (fittingEnvelope config message.1 message.2).bind (unwrap config) =
          some message := by
    rintro ⟨topic, bytes⟩ member
    obtain ⟨event, _, found⟩ := List.mem_filterMap.mp member
    cases event with
    | delivered =>
        cases found
    | published =>
        dsimp only at found
        split at found
        · rename_i admitted
          cases found
          obtain ⟨envelope, wrapped⟩ := Option.isSome_iff_exists.mp admitted.2
          rw [wrapped]
          exact unwrap_fittingEnvelope config wrapped
        · cases found
  rw [publishedEnvelopes, List.filterMap_filterMap,
    List.filterMap_congr fitting, List.filterMap_some]

theorem filterMap_collect
    {alive : Sink → Bool}
    (owned : ∀ sink, alive sink = false → config.remoteTopic sink = none)
    (sinks : List Sink) :
    (collect alive sinks).filterMap config.remoteTopic =
      sinks.filterMap config.remoteTopic := by
  rw [collect, List.filterMap_filter]
  refine List.filterMap_congr fun sink _ => ?_
  cases living : alive sink with
  | true =>
      rfl
  | false =>
      simp [owned sink living]

/-- The envelopes that an accepted publish hands to the connection and that
fit are those of its message. -/
theorem filter_envelopes
    {bus : LocalBus Sink} (holds : HoldsRemoteSinks config bus)
    {alive : Sink → Bool}
    (owned : ∀ sink, alive sink = false → config.remoteTopic sink = none)
    (topic typeName : Text) (bytes : Bytes) :
    (((bus.publish alive topic typeName).2.filterMap
          config.remoteTopic).filterMap
        (remoteSinkEnvelope config.codec bytes)).filter
          (fun envelope => envelope.length ≤ maxPayloadSize) =
      publishedEnvelopes config
        (if bus.accepts topic typeName then [.published topic bytes] else []) := by
  rw [bus.publish_targets]
  by_cases accepted : bus.accepts topic typeName
  · rw [if_pos accepted, if_pos accepted, List.filterMap_append,
      filterMap_collect config owned, filterMap_collect config owned,
      (holds topic).1, (holds topic).2, List.nil_append]
    by_cases listed : topic ∈ config.topics
    · rw [if_pos listed]
      cases wrapped : remoteSinkEnvelope config.codec bytes topic with
      | none =>
          simp [wrapped, publishedEnvelopes, publishedMessages,
            fittingEnvelope]
      | some envelope =>
          by_cases fits : envelope.length ≤ maxPayloadSize
          · simp [wrapped, fits, listed, publishedEnvelopes, publishedMessages,
              fittingEnvelope, Option.filter]
          · simp [wrapped, fits, publishedEnvelopes, publishedMessages,
              fittingEnvelope, Option.filter]
    · simp [listed, publishedEnvelopes, publishedMessages]
  · simp [accepted, publishedEnvelopes, publishedMessages]

end Traffic

/-! ## The invariant -/

section Invariant

variable {Sink : Type} {config : TcpLinkConfig Sink}

/-- The published envelopes are, in order: those decoded by the peer, those
under way, those refused because the client had been stopped, and those of the
publish in progress.  While the peer keeps the connection, its buffer, the
pipe and the write buffer hold exactly the frames under way. -/
structure LinkInvariant (config : TcpLinkConfig Sink) (link : TcpLink Sink)
    (events : List TcpLinkEvent) (decoded underway refused : List Bytes) :
    Prop where
  bus : HoldsRemoteSinks config link.bus
  published :
    publishedEnvelopes config events =
      decoded ++ (underway ++ (refused ++
        link.pending.filter fun envelope => envelope.length ≤ maxPayloadSize))
  delivered :
    deliveredMessages events = decoded.filterMap (unwrap config)
  fit : AllFit underway
  refusing : refused ≠ [] → link.client.stopped = true
  state : link.client.state = .connected ∨ link.client.stopped = true
  stream :
    ∀ buffer, link.server.connectionBuffers[config.fd]? = some buffer →
      buffer ++ (link.pipe ++ link.client.writeBuffer) = frames underway

/-- A step that neither publishes nor delivers and keeps the bus, the pending
envelopes, the order of the bytes and the stop flags. -/
theorem LinkInvariant.quiet
    {link target : TcpLink Sink} {events : List TcpLinkEvent}
    {decoded underway refused : List Bytes}
    (invariant : LinkInvariant config link events decoded underway refused)
    (bus : target.bus = link.bus)
    (pending : target.pending = link.pending)
    (stopping : link.client.stopped = true → target.client.stopped = true)
    (state :
      target.client.state = link.client.state ∨ target.client.stopped = true)
    (stream :
      ∀ buffer, target.server.connectionBuffers[config.fd]? = some buffer →
        ∃ earlier,
          link.server.connectionBuffers[config.fd]? = some earlier ∧
            buffer ++ (target.pipe ++ target.client.writeBuffer) =
              earlier ++ (link.pipe ++ link.client.writeBuffer)) :
    LinkInvariant config target (events ++ []) decoded underway refused where
  bus := bus ▸ invariant.bus
  published := by
    rw [List.append_nil, pending]
    exact invariant.published
  delivered := by
    rw [List.append_nil]
    exact invariant.delivered
  fit := invariant.fit
  refusing := fun some => stopping (invariant.refusing some)
  state := by
    rcases state with same | stopped
    · rw [same]
      exact invariant.state.imp_right stopping
    · exact Or.inr stopped
  stream := by
    intro buffer found
    obtain ⟨earlier, before, same⟩ := stream buffer found
    rw [same]
    exact invariant.stream earlier before

/-- A publish keeps the remote sinks of the connection. -/
theorem HoldsRemoteSinks.publish
    {bus : LocalBus Sink} (holds : HoldsRemoteSinks config bus)
    {alive : Sink → Bool}
    (owned : ∀ sink, alive sink = false → config.remoteTopic sink = none)
    (topic typeName : Text) :
    HoldsRemoteSinks config (bus.publish alive topic typeName).1 := by
  intro other
  rcases bus.publish_entry alive topic typeName other with
    ⟨sinks, remoteSinks⟩ | ⟨sinks, remoteSinks⟩
  · rw [sinks, remoteSinks]
    exact holds other
  · rw [sinks, remoteSinks, filterMap_collect config owned,
      filterMap_collect config owned]
    exact holds other

/-- Some split of the published envelopes is invariant. -/
def LinkSplit (config : TcpLinkConfig Sink) (link : TcpLink Sink)
    (events : List TcpLinkEvent) : Prop :=
  ∃ decoded underway refused,
    LinkInvariant config link events decoded underway refused

section Steps

variable {link target : TcpLink Sink} {events emitted : List TcpLinkEvent}

theorem LinkSplit.publish [DecidableEq Sink]
    {topic typeName : Text} {bytes : Bytes} {expired : List Sink}
    (split : LinkSplit config link events)
    (stepped :
      link.publish config topic typeName bytes expired =
        some (target, emitted)) :
    LinkSplit config target (events ++ emitted) := by
  obtain ⟨decoded, underway, refused, invariant⟩ := split
  unfold TcpLink.publish at stepped
  split at stepped
  · rename_i enabled
    have owned :
        ∀ sink, decide (sink ∉ expired) = false →
          config.remoteTopic sink = none := by
      intro sink gone
      exact enabled.2 sink (by simpa using gone)
    cases stepped
    refine ⟨decoded, underway, refused, ?_⟩
    exact
      { bus := invariant.bus.publish owned topic typeName
        published := by
          have before := invariant.published
          rw [enabled.1, List.filter_nil, List.append_nil] at before
          rw [publishedEnvelopes_append, before,
            ← filter_envelopes config invariant.bus owned]
          simp only [List.append_assoc]
        delivered := by
          rw [deliveredMessages_append, invariant.delivered]
          split <;> simp [deliveredMessages]
        fit := invariant.fit
        refusing := invariant.refusing
        state := invariant.state
        stream := invariant.stream }
  · cases stepped

/-- An envelope that is not sent because the client has been stopped joins
the refused ones. -/
theorem LinkInvariant.refuse
    {decoded underway refused : List Bytes}
    (invariant : LinkInvariant config link events decoded underway refused)
    {envelope : Bytes} {later : List Bytes}
    (pending : link.pending = envelope :: later)
    (stopped : link.client.stopped = true) (checked : Bool) :
    LinkSplit config { link with pending := later, checked := checked }
      (events ++ []) := by
  have published := invariant.published
  rw [pending] at published
  refine ⟨decoded, underway,
    refused ++ [envelope].filter fun other => other.length ≤ maxPayloadSize,
    ?_⟩
  exact
    { bus := invariant.bus
      published := by
        rw [List.append_nil, published, List.append_assoc,
          ← List.filter_append]
        rfl
      delivered := by
        rw [List.append_nil]
        exact invariant.delivered
      fit := invariant.fit
      refusing := fun _ => stopped
      state := invariant.state
      stream := invariant.stream }

theorem LinkSplit.checkState
    (split : LinkSplit config link events)
    (stepped : link.checkState = some target) :
    LinkSplit config target (events ++ []) := by
  obtain ⟨decoded, underway, refused, invariant⟩ := split
  unfold TcpLink.checkState at stepped
  cases pending : link.pending with
  | nil =>
      simp [pending] at stepped
  | cons envelope later =>
      simp only [pending] at stepped
      split at stepped
      · cases stepped
      · split at stepped
        · cases stepped
          exact ⟨decoded, underway, refused,
            invariant.quiet rfl pending.symm id (Or.inl rfl)
              fun buffer found => ⟨buffer, found, rfl⟩⟩
        · rename_i disconnected
          cases stepped
          exact
            invariant.refuse pending
              (invariant.state.resolve_left disconnected) link.checked

theorem LinkSplit.append
    (split : LinkSplit config link events)
    (stepped : link.append = some target) :
    LinkSplit config target (events ++ []) := by
  obtain ⟨decoded, underway, refused, invariant⟩ := split
  unfold TcpLink.append TcpClientTransport.sendLocked at stepped
  cases pending : link.pending with
  | nil =>
      simp [pending] at stepped
  | cons envelope later =>
      simp only [pending] at stepped
      split at stepped
      · split at stepped
        · cases stepped
        · split at stepped
          · rename_i stopped
            cases stepped
            exact invariant.refuse pending stopped false
          · rename_i running
            cases stepped
            -- Nothing has been refused yet, so the frame is the last one.
            have none : refused = [] := by
              by_contra some
              exact running (invariant.refusing some)
            subst none
            have published := invariant.published
            rw [pending] at published
            refine ⟨decoded,
              underway ++
                [envelope].filter fun other => other.length ≤ maxPayloadSize,
              [], ?_⟩
            exact
              { bus := invariant.bus
                published := by
                  rw [List.append_nil, published, List.append_assoc,
                    List.nil_append, List.nil_append, ← List.filter_append]
                  rfl
                delivered := by
                  rw [List.append_nil]
                  exact invariant.delivered
                fit := by
                  rw [allFit_append]
                  refine ⟨invariant.fit, fun other member => ?_⟩
                  simpa using (List.mem_filter.mp member).2
                refusing := fun some => absurd rfl some
                state := invariant.state
                stream := by
                  intro buffer found
                  have before := invariant.stream buffer found
                  dsimp only at *
                  rw [frames_append, ← before, List.append_assoc,
                    List.append_assoc]
                  congr 3
                  by_cases fits : envelope.length ≤ maxPayloadSize
                  · simp [fits]
                  · simp [fits, encode_of_oversize (not_le.mp fits)] }
      · cases stepped

theorem LinkSplit.write
    {result : WriteResult} {client : TcpClientTransport} {bytes : Bytes}
    (split : LinkSplit config link events)
    (written : link.client.write result = some (client, bytes)) :
    LinkSplit config
      { link with client := client, pipe := link.pipe ++ bytes }
      (events ++ []) := by
  obtain ⟨decoded, underway, refused, invariant⟩ := split
  have effect :
      bytes ++ client.writeBuffer = link.client.writeBuffer ∧
        client.stopped = link.client.stopped ∧
        client.state = link.client.state := by
    unfold TcpClientTransport.write at written
    cases result with
    | accepted count =>
        dsimp only at written
        split at written
        · cases written
          exact ⟨List.take_append_drop _ _, rfl, rfl⟩
        · cases written
    | wouldBlock =>
        dsimp only at written
        split at written
        · cases written
          exact ⟨rfl, rfl, rfl⟩
        · cases written
    | failed =>
        dsimp only at written
        split at written
        · cases written
          exact ⟨rfl, rfl, rfl⟩
        · cases written
  obtain ⟨moved, stopped, state⟩ := effect
  refine ⟨decoded, underway, refused,
    invariant.quiet rfl rfl (fun before => stopped.trans before)
      (Or.inl state) fun buffer found => ⟨buffer, found, ?_⟩⟩
  rw [List.append_assoc, moved]

theorem LinkSplit.read
    {count : Nat}
    (split : LinkSplit config link events)
    (stepped : link.read config count = some target) :
    LinkSplit config target (events ++ []) := by
  obtain ⟨decoded, underway, refused, invariant⟩ := split
  unfold TcpLink.read at stepped
  split at stepped
  · cases stepped
    refine ⟨decoded, underway, refused,
      invariant.quiet rfl rfl id (Or.inl rfl) fun buffer found => ?_⟩
    cases before : link.server.connectionBuffers[config.fd]? with
    | none =>
        rw [TcpServerTransport.appendChunk, before] at found
        rw [before] at found
        cases found
    | some earlier =>
        rw [TcpServerTransport.appendChunk_buffer before] at found
        cases found
        refine ⟨earlier, rfl, ?_⟩
        dsimp only
        rw [List.append_assoc, ← List.append_assoc (link.pipe.take count),
          List.take_append_drop]
  · cases stepped

/-- What `handle_read` does behind its loop to the envelopes under way: those
it decodes go to the callback, the others stay under way. -/
theorem finishRead_underway
    {server : TcpServerTransport} {fd : Nat} {rest : Bytes}
    {underway : List Bytes}
    (fit : AllFit underway)
    (stream :
      ∀ buffer, server.connectionBuffers[fd]? = some buffer →
        buffer ++ rest = frames underway)
    (ended : ReadEnd) :
    ∃ later,
      underway = (server.finishRead fd ended).2 ++ later ∧
        ∀ buffer,
          (server.finishRead fd ended).1.connectionBuffers[fd]? = some buffer →
            buffer ++ rest = frames later := by
  unfold TcpServerTransport.finishRead
  cases found : server.connectionBuffers[fd]? with
  | none =>
      refine ⟨underway, rfl, fun buffer some => ?_⟩
      rw [found] at some
      cases some
  | some buffer =>
      obtain ⟨later, taken, remaining⟩ :=
        decode_prefix_frames fit (stream buffer found)
      cases ended with
      | failed =>
          exact ⟨underway, rfl, by
            simp [TcpServerTransport.closeConnection]⟩
      | wouldBlock =>
          refine ⟨later, taken, fun other some => ?_⟩
          simp only [Std.TreeMap.getElem?_insert_self, Option.some.injEq]
            at some
          rw [← some]
          exact remaining
      | peerClosed =>
          exact ⟨later, taken, by
            simp [TcpServerTransport.closeConnection]⟩

theorem LinkSplit.endRead
    (split : LinkSplit config link events) (ended : ReadEnd) :
    LinkSplit config
      { link with
        server := (link.server.finishRead config.fd ended).1
        reading := false }
      (events ++
        ((link.server.finishRead config.fd ended).2.filterMap
          (onInbound config.codec)).map fun message =>
            .delivered message.topic message.payload) := by
  obtain ⟨decoded, underway, refused, invariant⟩ := split
  obtain ⟨later, taken, stream⟩ :=
    finishRead_underway invariant.fit invariant.stream ended
  generalize link.server.finishRead config.fd ended = result at *
  refine ⟨decoded ++ result.2, later, refused, ?_⟩
  exact
    { bus := invariant.bus
      published := by
        have none :
            publishedEnvelopes config
              ((result.2.filterMap (onInbound config.codec)).map fun message =>
                TcpLinkEvent.delivered message.topic message.payload) = [] := by
          simp [publishedEnvelopes, publishedMessages]
        rw [publishedEnvelopes_append, none, List.append_nil,
          invariant.published, taken]
        simp only [List.append_assoc]
      delivered := by
        rw [deliveredMessages_append, invariant.delivered,
          List.filterMap_append]
        congr 1
        simp only [deliveredMessages, List.filterMap_map, Function.comp_def,
          List.filterMap_filterMap]
        refine List.filterMap_congr fun envelope _ => ?_
        unfold unwrap
        cases onInbound config.codec envelope with
        | none =>
            rfl
        | some message =>
            rfl
      fit := by
        rw [taken] at invariant
        exact (allFit_append.mp invariant.fit).2
      refusing := invariant.refusing
      state := invariant.state
      stream := stream }

theorem LinkSplit.step [DecidableEq Sink]
    {input : TcpLinkInput Sink}
    (split : LinkSplit config link events)
    (stepped : link.step config input = some (target, emitted)) :
    LinkSplit config target (events ++ emitted) := by
  have flags (client : TcpClientTransport) (severed reading : Bool)
      (buffer : client.writeBuffer = link.client.writeBuffer)
      (stopping : link.client.stopped = true → client.stopped = true)
      (state :
        client.state = link.client.state ∨ client.stopped = true) :
      LinkSplit config
        { link with client := client, severed := severed, reading := reading }
        (events ++ []) := by
    obtain ⟨decoded, underway, refused, invariant⟩ := split
    exact ⟨decoded, underway, refused,
      invariant.quiet rfl rfl stopping state fun bytes found =>
        ⟨bytes, found, by rw [buffer]⟩⟩
  cases input with
  | publish topic typeName bytes expired =>
      exact split.publish stepped
  | checkState =>
      obtain ⟨_, checked, same⟩ := Option.map_eq_some_iff.mp stepped
      cases same
      exact split.checkState checked
  | append =>
      obtain ⟨_, appended, same⟩ := Option.map_eq_some_iff.mp stepped
      cases same
      exact split.append appended
  | beginWrite =>
      obtain ⟨client, entered, same⟩ := Option.map_eq_some_iff.mp stepped
      cases same
      unfold TcpClientTransport.beginWrite at entered
      split at entered
      · cases entered
        exact flags _ _ _ rfl id (Or.inl rfl)
      · cases entered
  | write result =>
      simp only [TcpLink.step] at stepped
      split at stepped
      · cases stepped
      · rename_i client bytes written
        split at stepped
        · cases stepped
        · cases stepped
          exact split.write written
  | finishWrite =>
      obtain ⟨client, left, same⟩ := Option.map_eq_some_iff.mp stepped
      cases same
      obtain ⟨_, rfl⟩ := TcpClientTransport.finishWrite_eq_some left
      exact flags _ _ _ rfl id (Or.inl rfl)
  | hangUp =>
      cases stepped
      exact flags _ _ _ rfl id (Or.inl rfl)
  | beginStop =>
      cases stepped
      exact flags _ _ _ rfl (fun _ => rfl) (Or.inr rfl)
  | finishStop =>
      obtain ⟨client, left, same⟩ := Option.map_eq_some_iff.mp stepped
      cases same
      obtain ⟨stopped, rfl⟩ := TcpClientTransport.finishStop_eq_some left
      exact flags _ _ _ rfl id (Or.inr stopped)
  | sever =>
      cases stepped
      exact flags link.client _ _ rfl id (Or.inl rfl)
  | beginRead =>
      simp only [TcpLink.step] at stepped
      split at stepped
      · cases stepped
        exact flags link.client _ _ rfl id (Or.inl rfl)
      · cases stepped
  | read count =>
      obtain ⟨_, received, same⟩ := Option.map_eq_some_iff.mp stepped
      cases same
      exact split.read received
  | endRead ended =>
      simp only [TcpLink.step] at stepped
      split at stepped
      · cases stepped
        exact split.endRead ended
      · cases stepped

end Steps

end Invariant

theorem TcpLink.Fresh.split
    {Sink : Type} {config : TcpLinkConfig Sink} {link : TcpLink Sink}
    (fresh : link.Fresh config) :
    LinkSplit config link [] := by
  refine ⟨[], [], [], ?_⟩
  exact
    { bus := fresh.bus
      published := by
        rw [fresh.pending]
        rfl
      delivered := rfl
      fit := by simp [AllFit]
      refusing := fun some => absurd rfl some
      state := by
        rw [fresh.client]
        exact Or.inl rfl
      stream := by
        intro buffer found
        rw [fresh.server] at found
        cases found
        rw [fresh.client, fresh.pipe]
        rfl }

/-- In every run, what the peer passes to `deliver_inbound` is a prefix of
what was published for it: nothing is lost in the middle, duplicated,
reordered, corrupted or attributed to another topic. -/
theorem tcpLink_delivers_prefix
    {Sink : Type} [DecidableEq Sink] (config : TcpLinkConfig Sink)
    {inputs : List (TcpLinkInput Sink)} {link : TcpLink Sink}
    {events : List TcpLinkEvent}
    (run : (tcpLinkMachine config).Run Machine.free inputs link events) :
    deliveredMessages events <+: publishedMessages config events := by
  have split :=
    run.invariant (LinkSplit config) (fun _ fresh => TcpLink.Fresh.split fresh)
      fun _ _ _ _ _ split _ stepped => split.step stepped
  obtain ⟨decoded, underway, refused, invariant⟩ := split
  rw [← unwrap_publishedEnvelopes config events, invariant.published,
    invariant.delivered]
  exact (List.prefix_append _ _).filterMap _

/-- The encodings of two short messages. -/
def shortMessageCodec : DataMessageCodec where
  serialize := fun message =>
    if message = ⟨['t'], [7]⟩ then some [0x0A, 1, 0x74, 0x12, 1, 7]
    else if message = ⟨['u'], [8]⟩ then some [0x0A, 1, 0x75, 0x12, 1, 8]
    else none
  parse := fun bytes =>
    if bytes = [0x0A, 1, 0x74, 0x12, 1, 7] then some ⟨['t'], [7]⟩
    else if bytes = [0x0A, 1, 0x75, 0x12, 1, 8] then some ⟨['u'], [8]⟩
    else none
  parse_serialize := by
    intro message bytes serialized
    split_ifs at serialized with first second
    · cases serialized
      rw [if_pos rfl, first]
    · cases serialized
      rw [if_neg (by decide), if_pos rfl, second]

/-- Two topics over descriptor 5; a sink is its topic. -/
def shortLink : TcpLinkConfig Text where
  codec := shortMessageCodec
  remoteTopic := some
  topics := [['t'], ['u']]
  fd := 5

/-- A connected client with two remote sinks, and a server that has accepted
it. -/
def shortLinkStart : TcpLink Text where
  bus :=
    (LocalBus.empty.addRemoteSink ['t'] ['t']).addRemoteSink ['u'] ['u']
  pending := []
  checked := false
  client := .established
  pipe := []
  severed := false
  server := ⟨(∅ : Std.TreeMap Nat Bytes).insert 5 []⟩
  reading := false

theorem shortLinkStart_fresh : shortLinkStart.Fresh shortLink where
  bus := by
    intro topic
    have missing : (LocalBus.empty : LocalBus Text).entry topic = {} :=
      LocalBus.entry_of_missing (by simp [LocalBus.empty])
    by_cases first : topic = ['t']
    · subst first
      decide
    · by_cases second : topic = ['u']
      · subst second
        decide
      · have noFirst : ¬ ['t'] = topic := fun equal => first equal.symm
        have noSecond : ¬ ['u'] = topic := fun equal => second equal.symm
        simp [shortLinkStart, shortLink, LocalBus.addRemoteSink, missing,
          first, noFirst, second, noSecond]
  pending := rfl
  checked := rfl
  client := rfl
  pipe := rfl
  server := by decide

/-- Two messages are published, written in two parts, and read in two parts
that divide the second frame. -/
def twoMessageInputs : List (TcpLinkInput Text) :=
  [.publish ['t'] ['T'] [7] [], .checkState, .append,
    .publish ['u'] ['U'] [8] [], .checkState, .append, .beginWrite,
    .write (.accepted 3), .beginRead, .read 2, .write (.accepted 17),
    .finishWrite, .read 13, .endRead .wouldBlock, .beginRead, .read 5,
    .endRead .wouldBlock]

/-- Both messages arrive on their topics, in order. -/
def twoMessageEvents : List TcpLinkEvent :=
  [.published ['t'] [7], .published ['u'] [8], .delivered ['t'] [7],
    .delivered ['u'] [8]]

theorem tcpLink_delivers_prefix_twoMessages :
    ∃ link,
      (tcpLinkMachine shortLink).Run Machine.free twoMessageInputs link
          twoMessageEvents ∧
        deliveredMessages twoMessageEvents = [(['t'], [7]), (['u'], [8])] ∧
        deliveredMessages twoMessageEvents <+:
          publishedMessages shortLink twoMessageEvents := by
  obtain ⟨link, run⟩ :=
    Machine.run_of_exec_events (tcpLinkMachine shortLink) Machine.free
      twoMessageInputs shortLinkStart twoMessageEvents shortLinkStart_fresh
      (by decide +kernel)
  exact ⟨link, run, rfl, tcpLink_delivers_prefix shortLink run⟩

end MiniMiddleware.Core
