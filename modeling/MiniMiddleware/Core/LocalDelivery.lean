import MiniMiddleware.Core.LocalBus
import MiniMiddleware.Core.Subscriber
import MiniMiddleware.Library.Tables

/-!
# Delivery inside one process

Any number of threads call `publish` and `deliver_inbound` on the bus of one
process.  A call copies the sinks of its topic under the lock and then calls
`enqueue` on them one by one without it, while other threads publish, subscribe
and drop sinks, and the workers of the subscribers pop, parse and call back.

The bus holds its sinks by weak pointers, and a call in progress holds the
sinks that it has copied.  A subscriber is therefore destroyed, and its queue
closed, only when its owner has dropped it and no call holds it any more.
-/

namespace MiniMiddleware.Core

open MiniMiddleware.Library
open MiniMiddleware.Transport

/-- A sink: a local subscriber, or one that forwards to another process. -/
inductive Target where
  | subscriber (number : Nat)
  | remote (number : Nat)
  deriving DecidableEq, Repr

/-- A call of `publish` or `deliver_inbound` behind the lock: the sinks that it
holds, and those on which it has yet to call `enqueue`. -/
structure DeliveryCall where
  bytes : Bytes
  targets : List Target
  remaining : List Target
  deriving DecidableEq, Repr

/-- The bus of a process, its subscribers, the sinks that were ever made and
those that their owner has dropped, and the calls in progress by thread. -/
structure BusThreads where
  bus : LocalBus Target
  subscribers : Nat → Subscriber
  made : List Target
  released : List Target
  calls : Std.TreeMap Nat DeliveryCall

/-- What the threads of the process do. -/
inductive DeliveryInput where
  | registerPublisher (topic typeName : Text)
  | createSubscriber (number : Nat) (topic typeName : Text)
  | addRemoteSink (number : Nat) (topic : Text)
  | removeRemoteSink (number : Nat) (topic : Text)
  | release (target : Target)
  | destroy (number : Nat)
  | publish (thread : Nat) (topic typeName : Text) (bytes : Bytes)
  | inbound (thread : Nat) (topic : Text) (bytes : Bytes)
  | enqueue (thread : Nat)
  | finish (thread : Nat)
  | take (number : Nat)
  | handle (number : Nat)
  deriving DecidableEq, Repr

/-- A subscriber is given to the bus, which may refuse it for its type; the
owner of a sink drops it; a call has copied its sinks, where a `publish` gives a
type name; it calls `enqueue`; something happens at a subscriber. -/
inductive DeliveryEvent (Message : Type) where
  | subscribed (number : Nat) (topic typeName : Text) (accepted : Bool)
  | released (target : Target)
  | collected (thread : Nat) (typeName : Option Text) (topic : Text)
      (bytes : Bytes) (targets : List Target)
  | enqueued (thread : Nat) (target : Target) (bytes : Bytes)
  | subscriber (number : Nat) (event : SubscriberEvent Message)
  deriving DecidableEq, Repr

namespace BusThreads

variable {Message : Type}

/-- Whether `weak_ptr::lock` yields the sink. -/
def alive (delivery : BusThreads) (target : Target) : Bool :=
  target ∉ delivery.released ||
    delivery.calls.toList.any fun entry => target ∈ entry.2.targets

/-- A step of one subscriber. -/
def atSubscriber (parse : Bytes → Option Message) (delivery : BusThreads)
    (number : Nat) (input : SubscriberInput) :
    Option (BusThreads × List (DeliveryEvent Message)) :=
  ((delivery.subscribers number).step parse input).map fun after =>
    ({ delivery with
        subscribers :=
          Function.update delivery.subscribers number after.1 },
      after.2.map (.subscriber number))

/-- The critical section of a call. -/
def collected (delivery : BusThreads) (thread : Nat) (typeName : Option Text)
    (topic : Text) (bytes : Bytes) (after : LocalBus Target × List Target) :
    BusThreads × List (DeliveryEvent Message) :=
  ({ delivery with
      bus := after.1
      calls :=
        delivery.calls.insert thread
          { bytes := bytes, targets := after.2, remaining := after.2 } },
    [.collected thread typeName topic bytes after.2])

/-- What a `publish` does to the bus and whom it reaches; without a type name,
`deliver_inbound`. -/
def gathered (delivery : BusThreads) (typeName : Option Text) (topic : Text) :
    LocalBus Target × List Target :=
  match typeName with
  | some typeName => delivery.bus.publish delivery.alive topic typeName
  | none => delivery.bus.deliverInbound delivery.alive topic

/-- `enqueue` on the next sink of a call. -/
def enqueueNext (parse : Bytes → Option Message) (delivery : BusThreads)
    (thread : Nat) : Option (BusThreads × List (DeliveryEvent Message)) :=
  match delivery.calls[thread]? with
  | none => none
  | some call =>
      match call.remaining with
      | [] => none
      | target :: rest =>
          let advanced :=
            { delivery with
              calls :=
                delivery.calls.insert thread { call with remaining := rest } }
          match target with
          | .remote _ =>
              some (advanced, [.enqueued thread target call.bytes])
          | .subscriber number =>
              (advanced.atSubscriber parse number (.enqueue call.bytes)).map
                fun after =>
                  (after.1, .enqueued thread target call.bytes :: after.2)

/-- One step; a thread is inside one call at most. -/
def step (parse : Bytes → Option Message) (delivery : BusThreads) :
    DeliveryInput → Option (BusThreads × List (DeliveryEvent Message))
  | .registerPublisher topic typeName =>
      some
        ({ delivery with bus := delivery.bus.registerPublisher topic typeName },
          [])
  | .createSubscriber number topic typeName =>
      if .subscriber number ∈ delivery.made then
        none
      else
        some
          ({ delivery with
              bus :=
                delivery.bus.subscribe topic typeName (.subscriber number)
              made := .subscriber number :: delivery.made },
            [.subscribed number topic typeName
              (checkType (delivery.bus.entry topic) typeName).2])
  | .addRemoteSink number topic =>
      if .remote number ∈ delivery.made then
        none
      else
        some
          ({ delivery with
              bus := delivery.bus.addRemoteSink topic (.remote number)
              made := .remote number :: delivery.made }, [])
  | .removeRemoteSink number topic =>
      some
        ({ delivery with
            bus :=
              delivery.bus.removeRemoteSink delivery.alive topic
                (.remote number) }, [])
  | .release target =>
      if target ∈ delivery.made ∧ target ∉ delivery.released then
        some ({ delivery with released := target :: delivery.released },
          [.released target])
      else
        none
  | .destroy number =>
      if delivery.alive (.subscriber number) then
        none
      else
        delivery.atSubscriber parse number .close
  | .publish thread topic typeName bytes =>
      if thread ∈ delivery.calls then
        none
      else
        some
          (delivery.collected thread (some typeName) topic bytes
            (delivery.gathered (some typeName) topic))
  | .inbound thread topic bytes =>
      if thread ∈ delivery.calls then
        none
      else
        some
          (delivery.collected thread none topic bytes
            (delivery.gathered none topic))
  | .enqueue thread => delivery.enqueueNext parse thread
  | .finish thread =>
      match delivery.calls[thread]? with
      | none => none
      | some call =>
          if call.remaining = [] then
            some ({ delivery with calls := delivery.calls.erase thread }, [])
          else
            none
  | .take number => delivery.atSubscriber parse number .take
  | .handle number => delivery.atSubscriber parse number .handle

/-- A process before anything is registered. -/
structure Fresh (qos : Nat → Qos) (delivery : BusThreads) : Prop where
  bus : ∀ topic, delivery.bus.entry topic = {}
  subscribers : ∀ number, delivery.subscribers number = .created (qos number)
  released : delivery.released = []
  calls : ∀ thread : Nat, delivery.calls[thread]? = none

end BusThreads

/-- The bus of a process, its threads and its subscribers. -/
def deliveryMachine {Message : Type} (parse : Bytes → Option Message)
    (qos : Nat → Qos) :
    Machine BusThreads DeliveryInput (DeliveryEvent Message) where
  initial := BusThreads.Fresh qos
  step := BusThreads.step parse

/-! ## Histories -/

section Histories

variable {Message : Type}

/-- The messages that the calls of a thread were to deliver to a sink. -/
def sentTo (thread : Nat) (target : Target)
    (events : List (DeliveryEvent Message)) : List Bytes :=
  events.filterMap fun event =>
    match event with
    | .collected caller _ _ bytes targets =>
        if caller = thread ∧ target ∈ targets then some bytes else none
    | _ => none

/-- The calls of `enqueue` on a sink, with their threads. -/
def arrivals (target : Target) (events : List (DeliveryEvent Message)) :
    List (Nat × Bytes) :=
  events.filterMap fun event =>
    match event with
    | .enqueued thread other bytes =>
        if other = target then some (thread, bytes) else none
    | _ => none

/-- What happened at one subscriber. -/
def eventsOf (number : Nat) (events : List (DeliveryEvent Message)) :
    List (SubscriberEvent Message) :=
  events.filterMap fun event =>
    match event with
    | .subscriber other event => if other = number then some event else none
    | _ => none

/-- The messages of one thread. -/
def fromThread (thread : Nat) (messages : List (Nat × Bytes)) : List Bytes :=
  (messages.filter fun message => message.1 = thread).map Prod.snd

/-- The message that a call in progress has yet to deliver to a sink. -/
def pendingFor (delivery : BusThreads) (thread : Nat) (target : Target) :
    List Bytes :=
  match delivery.calls[thread]? with
  | some call => if target ∈ call.remaining then [call.bytes] else []
  | none => []

@[simp]
theorem sentTo_append
    (thread : Nat) (target : Target)
    (earlier later : List (DeliveryEvent Message)) :
    sentTo thread target (earlier ++ later) =
      sentTo thread target earlier ++ sentTo thread target later :=
  List.filterMap_append

@[simp]
theorem arrivals_append
    (target : Target) (earlier later : List (DeliveryEvent Message)) :
    arrivals target (earlier ++ later) =
      arrivals target earlier ++ arrivals target later :=
  List.filterMap_append

@[simp]
theorem eventsOf_append
    (number : Nat) (earlier later : List (DeliveryEvent Message)) :
    eventsOf number (earlier ++ later) =
      eventsOf number earlier ++ eventsOf number later :=
  List.filterMap_append

@[simp]
theorem fromThread_append
    (thread : Nat) (earlier later : List (Nat × Bytes)) :
    fromThread thread (earlier ++ later) =
      fromThread thread earlier ++ fromThread thread later := by
  simp [fromThread]

theorem quiet_subscriber
    (number : Nat) (emitted : List (SubscriberEvent Message))
    (thread : Nat) (target : Target) :
    sentTo thread target (emitted.map (.subscriber number)) = [] ∧
      arrivals target (emitted.map (.subscriber number)) = [] := by
  constructor
  · simp [sentTo, List.filterMap_map]
  · simp [arrivals, List.filterMap_map]

theorem eventsOf_subscriber
    (number other : Nat) (emitted : List (SubscriberEvent Message)) :
    eventsOf number (emitted.map (.subscriber other)) =
      if other = number then emitted else [] := by
  by_cases same : other = number
  · simp [eventsOf, List.filterMap_map, same]
  · simp [eventsOf, List.filterMap_map, same]

end Histories

/-! ## What a step can do -/

namespace BusThreads

variable {Message : Type} {parse : Bytes → Option Message}
  {qos : Nat → Qos} {delivery after : BusThreads} {input : DeliveryInput}
  {events emitted : List (DeliveryEvent Message)}

/-- A sink that is held by a call. -/
theorem alive_of_call
    {thread : Nat} {call : DeliveryCall} {target : Target}
    (busy : delivery.calls[thread]? = some call)
    (member : target ∈ call.targets) : delivery.alive target = true := by
  unfold alive
  rw [Bool.or_eq_true, List.any_eq_true]
  right
  have listed : (thread, call) ∈ delivery.calls.toList :=
    Std.TreeMap.mem_toList_iff_getElem?_eq_some.mpr busy
  exact ⟨(thread, call), listed, decide_eq_true member⟩

/-- A sink is alive while its owner keeps it or a call holds it. -/
theorem alive_iff (target : Target) :
    delivery.alive target = true ↔
      target ∉ delivery.released ∨
        ∃ (thread : Nat) (call : DeliveryCall),
          delivery.calls[thread]? = some call ∧ target ∈ call.targets := by
  constructor
  · intro living
    unfold alive at living
    rw [Bool.or_eq_true, List.any_eq_true] at living
    rcases living with kept | ⟨⟨thread, call⟩, listed, member⟩
    · left
      exact of_decide_eq_true kept
    · right
      have busy := Std.TreeMap.mem_toList_iff_getElem?_eq_some.mp listed
      exact ⟨thread, call, busy, of_decide_eq_true member⟩
  · intro reason
    rcases reason with kept | ⟨thread, call, busy, member⟩
    · unfold alive
      rw [Bool.or_eq_true]
      left
      exact decide_eq_true kept
    · exact alive_of_call busy member

/-- Sinks are given to the bus or dropped; a call copies its sinks, goes to the
next one or returns; a worker or a destructor runs. -/
inductive Change (parse : Bytes → Option Message) (delivery after : BusThreads) :
    List (DeliveryEvent Message) → Prop
  | managed (emitted : List (DeliveryEvent Message)) :
      after.subscribers = delivery.subscribers →
      after.calls = delivery.calls →
      delivery.released ⊆ after.released →
      (∀ event ∈ emitted,
        (∃ number topic typeName accepted,
            event = .subscribed number topic typeName accepted) ∨
          ∃ target, event = .released target) →
      Change parse delivery after emitted
  | collected (thread : Nat) (typeName : Option Text) (topic : Text)
      (bytes : Bytes) (bus : LocalBus Target) (targets : List Target) :
      delivery.calls[thread]? = none →
      delivery.gathered typeName topic = (bus, targets) →
      targets.Nodup →
      (∀ target ∈ targets, delivery.alive target = true) →
      after =
        { delivery with
          bus := bus
          calls := delivery.calls.insert thread ⟨bytes, targets, targets⟩ } →
      Change parse delivery after
        [.collected thread typeName topic bytes targets]
  | forwarded (thread : Nat) (call : DeliveryCall) (number : Nat)
      (rest : List Target) :
      delivery.calls[thread]? = some call →
      call.remaining = .remote number :: rest →
      after =
        { delivery with
          calls :=
            delivery.calls.insert thread { call with remaining := rest } } →
      Change parse delivery after
        [.enqueued thread (.remote number) call.bytes]
  | enqueued (thread : Nat) (call : DeliveryCall) (number : Nat)
      (rest : List Target) (reached : Subscriber)
      (seen : List (SubscriberEvent Message)) :
      delivery.calls[thread]? = some call →
      call.remaining = .subscriber number :: rest →
      (delivery.subscribers number).step parse (.enqueue call.bytes) =
        some (reached, seen) →
      after =
        { delivery with
          subscribers := Function.update delivery.subscribers number reached
          calls :=
            delivery.calls.insert thread { call with remaining := rest } } →
      Change parse delivery after
        (.enqueued thread (.subscriber number) call.bytes ::
          seen.map (.subscriber number))
  | finished (thread : Nat) (call : DeliveryCall) :
      delivery.calls[thread]? = some call →
      call.remaining = [] →
      after = { delivery with calls := delivery.calls.erase thread } →
      Change parse delivery after []
  | worked (number : Nat) (input : SubscriberInput) (reached : Subscriber)
      (seen : List (SubscriberEvent Message)) :
      (delivery.subscribers number).step parse input = some (reached, seen) →
      (input = .close → delivery.alive (.subscriber number) = false) →
      (∀ bytes, input ≠ .enqueue bytes) →
      after =
        { delivery with
          subscribers :=
            Function.update delivery.subscribers number reached } →
      Change parse delivery after (seen.map (.subscriber number))

/-- The bus knows each sink once, under the kind of list that it belongs to. -/
structure Listed (delivery : BusThreads) : Prop where
  sinks :
    ∀ topic, (delivery.bus.entry topic).sinks.Nodup ∧
      ∀ target ∈ (delivery.bus.entry topic).sinks,
        target ∈ delivery.made ∧ ∃ number, target = .subscriber number
  remoteSinks :
    ∀ topic, (delivery.bus.entry topic).remoteSinks.Nodup ∧
      ∀ target ∈ (delivery.bus.entry topic).remoteSinks,
        target ∈ delivery.made ∧ ∃ number, target = .remote number

/-- The sinks of a call are different sinks that are alive. -/
theorem Listed.publish
    (listed : Listed delivery) (topic typeName : Text) :
    (delivery.bus.publish delivery.alive topic typeName).2.Nodup ∧
      ∀ target ∈ (delivery.bus.publish delivery.alive topic typeName).2,
        delivery.alive target = true := by
  rw [LocalBus.publish_targets]
  split
  · constructor
    · have distinct := (listed.sinks topic).1.filter delivery.alive
      have remoteDistinct :=
        (listed.remoteSinks topic).1.filter delivery.alive
      refine List.nodup_append.mpr ⟨distinct, remoteDistinct, ?_⟩
      intro first isLocal second isRemote equal
      have firstListed := List.mem_of_mem_filter isLocal
      have secondListed := List.mem_of_mem_filter isRemote
      obtain ⟨number, isSubscriber⟩ :=
        ((listed.sinks topic).2 first firstListed).2
      obtain ⟨other, isForwarder⟩ :=
        ((listed.remoteSinks topic).2 second secondListed).2
      rw [isSubscriber, isForwarder] at equal
      cases equal
    · intro target member
      rcases List.mem_append.mp member with isLocal | isRemote
      · exact (List.mem_filter.mp isLocal).2
      · exact (List.mem_filter.mp isRemote).2
  · exact ⟨List.nodup_nil, nofun⟩

theorem deliverInbound_targets
    {Sink : Type} (bus : LocalBus Sink) (alive : Sink → Bool) (topic : Text) :
    (bus.deliverInbound alive topic).2 =
      collect alive (bus.entry topic).sinks := by
  unfold LocalBus.deliverInbound
  cases found : bus.topics[topic]? with
  | none =>
      rw [LocalBus.entry_of_missing found]
      rfl
  | some entry =>
      rw [LocalBus.entry_of_found found]

theorem Listed.inbound
    (listed : Listed delivery) (topic : Text) :
    (delivery.bus.deliverInbound delivery.alive topic).2.Nodup ∧
      ∀ target ∈ (delivery.bus.deliverInbound delivery.alive topic).2,
        delivery.alive target = true := by
  rw [deliverInbound_targets]
  constructor
  · exact (listed.sinks topic).1.filter delivery.alive
  · intro target member
    exact (List.mem_filter.mp member).2

theorem change_of_step
    (listed : Listed delivery)
    (stepped : delivery.step parse input = some (after, emitted)) :
    Change parse delivery after emitted := by
  cases input with
  | registerPublisher topic typeName =>
      cases stepped
      exact .managed _ rfl rfl (List.Subset.refl _) nofun
  | createSubscriber number topic typeName =>
      simp only [step] at stepped
      split_ifs at stepped
      cases stepped
      refine .managed _ rfl rfl (List.Subset.refl _) ?_
      intro event member
      rw [List.mem_singleton.mp member]
      exact Or.inl ⟨_, _, _, _, rfl⟩
  | addRemoteSink number topic =>
      simp only [step] at stepped
      split_ifs at stepped
      cases stepped
      exact .managed _ rfl rfl (List.Subset.refl _) nofun
  | removeRemoteSink number topic =>
      cases stepped
      exact .managed _ rfl rfl (List.Subset.refl _) nofun
  | release target =>
      simp only [step] at stepped
      split_ifs at stepped
      cases stepped
      refine .managed _ rfl rfl (List.subset_cons_self _ _) ?_
      intro event member
      rw [List.mem_singleton.mp member]
      exact Or.inr ⟨_, rfl⟩
  | destroy number =>
      simp only [step] at stepped
      split_ifs at stepped with living
      obtain ⟨⟨reached, seen⟩, moved, equal⟩ :=
        Option.map_eq_some_iff.mp stepped
      cases equal
      exact .worked number .close reached seen moved
        (fun _ => Bool.eq_false_iff.mpr living) nofun rfl
  | publish thread topic typeName bytes =>
      simp only [step] at stepped
      split_ifs at stepped with busy
      cases stepped
      have sound := listed.publish topic typeName
      exact .collected thread (some typeName) topic bytes _ _
        (Std.TreeMap.getElem?_eq_none busy) rfl sound.1 sound.2 rfl
  | inbound thread topic bytes =>
      simp only [step] at stepped
      split_ifs at stepped with busy
      cases stepped
      have sound := listed.inbound topic
      exact .collected thread none topic bytes _ _
        (Std.TreeMap.getElem?_eq_none busy) rfl sound.1 sound.2 rfl
  | enqueue thread =>
      simp only [step, enqueueNext] at stepped
      split at stepped
      · cases stepped
      · rename_i call busy
        split at stepped
        · cases stepped
        · rename_i target rest remaining
          cases target with
          | remote number =>
              cases stepped
              exact .forwarded thread call number rest busy remaining rfl
          | subscriber number =>
              obtain ⟨⟨reached, seen⟩, moved, equal⟩ :=
                Option.map_eq_some_iff.mp stepped
              cases equal
              obtain ⟨⟨subscriber, noticed⟩, pushed, same⟩ :=
                Option.map_eq_some_iff.mp moved
              cases same
              exact .enqueued thread call number rest subscriber noticed busy
                remaining pushed rfl
  | finish thread =>
      simp only [step] at stepped
      split at stepped
      · cases stepped
      · rename_i call busy
        split_ifs at stepped with isOver
        cases stepped
        exact .finished thread call busy isOver rfl
  | take number =>
      obtain ⟨⟨reached, seen⟩, moved, equal⟩ :=
        Option.map_eq_some_iff.mp stepped
      cases equal
      exact .worked number .take reached seen moved nofun nofun rfl
  | handle number =>
      obtain ⟨⟨reached, seen⟩, moved, equal⟩ :=
        Option.map_eq_some_iff.mp stepped
      cases equal
      exact .worked number .handle reached seen moved nofun nofun rfl

/-! ## The sinks of the bus -/

theorem sinks_subscribe
    {Sink : Type} (bus : LocalBus Sink) (topic typeName other : Text)
    (sink : Sink) :
    ((bus.subscribe topic typeName sink).entry other).sinks =
      if topic = other ∧ (checkType (bus.entry topic) typeName).2 then
        (bus.entry other).sinks ++ [sink]
      else
        (bus.entry other).sinks := by
  unfold LocalBus.subscribe
  by_cases same : topic = other
  · subst same
    by_cases accepted : (checkType (bus.entry topic) typeName).2
    · simp [accepted]
    · simp [accepted]
  · by_cases accepted : (checkType (bus.entry topic) typeName).2
    · simp [accepted, same]
    · simp [accepted, same]

theorem remoteSinks_subscribe
    {Sink : Type} (bus : LocalBus Sink) (topic typeName other : Text)
    (sink : Sink) :
    ((bus.subscribe topic typeName sink).entry other).remoteSinks =
      (bus.entry other).remoteSinks := by
  unfold LocalBus.subscribe
  by_cases same : topic = other
  · subst same
    by_cases accepted : (checkType (bus.entry topic) typeName).2
    · simp [accepted]
    · simp [accepted]
  · by_cases accepted : (checkType (bus.entry topic) typeName).2
    · simp [accepted, same]
    · simp [accepted, same]

/-- Whether an event says nothing about who has subscribed. -/
def isSilent : DeliveryEvent Message → Prop
  | .subscribed _ _ _ _ => False
  | .released _ => False
  | _ => True

/-- The bus knows the subscribers that it has accepted, under the type of their
topic, until they are released. -/
structure Known (delivery : BusThreads) (events : List (DeliveryEvent Message)) :
    Prop extends Listed delivery where
  subscribed :
    ∀ topic number,
      .subscriber number ∈ (delivery.bus.entry topic).sinks →
      ∃ typeName, .subscribed number topic typeName true ∈ events
  typed :
    ∀ number topic typeName,
      .subscribed number topic typeName true ∈ events →
      typeName ≠ [] →
      (delivery.bus.entry topic).typeName = typeName
  kept :
    ∀ number topic typeName,
      .subscribed number topic typeName true ∈ events →
      .released (.subscriber number) ∉ events →
      .subscriber number ∈ (delivery.bus.entry topic).sinks
  released :
    ∀ target, target ∈ delivery.released ↔ .released target ∈ events

/-- A step that at most drops sinks that are not alive from the bus. -/
theorem Known.pruned
    (known : Known delivery events)
    (pruned : after.bus.Pruned delivery.bus)
    (typed :
      ∀ topic, (delivery.bus.entry topic).typeName ≠ [] →
        (after.bus.entry topic).typeName =
          (delivery.bus.entry topic).typeName)
    (living :
      ∀ topic, ∀ target ∈ (delivery.bus.entry topic).sinks,
        delivery.alive target = true →
        target ∈ (after.bus.entry topic).sinks)
    (made : after.made = delivery.made)
    (released : after.released = delivery.released)
    (silent : ∀ event ∈ emitted, isSilent event) :
    Known after (events ++ emitted) := by
  have earlier :
      ∀ number topic typeName accepted,
        .subscribed number topic typeName accepted ∈ events ++ emitted →
        .subscribed number topic typeName accepted ∈ events := by
    intro number topic typeName accepted member
    rcases List.mem_append.mp member with old | new
    · exact old
    · exact (silent _ new).elim
  have releases :
      ∀ target, .released target ∈ events ++ emitted ↔
        .released target ∈ events := by
    intro target
    constructor
    · intro member
      rcases List.mem_append.mp member with old | new
      · exact old
      · exact (silent _ new).elim
    · exact List.mem_append_left _
  refine ⟨⟨fun topic => ?_, fun topic => ?_⟩, ?_, ?_, ?_, fun target => ?_⟩
  · have before := known.sinks topic
    refine ⟨before.1.sublist (pruned.sinks topic), fun target member => ?_⟩
    rw [made]
    exact before.2 target ((pruned.sinks topic).subset member)
  · have before := known.remoteSinks topic
    refine ⟨before.1.sublist (pruned.remoteSinks topic),
      fun target member => ?_⟩
    rw [made]
    exact before.2 target ((pruned.remoteSinks topic).subset member)
  · intro topic number member
    have before := (pruned.sinks topic).subset member
    obtain ⟨typeName, seen⟩ := known.subscribed topic number before
    exact ⟨typeName, List.mem_append_left _ seen⟩
  · intro number topic typeName member determined
    have before := known.typed number topic typeName
      (earlier _ _ _ _ member) determined
    rw [typed topic (before ▸ determined), before]
  · intro number topic typeName member unreleased
    rw [releases] at unreleased
    have before := known.kept number topic typeName
      (earlier _ _ _ _ member) unreleased
    refine living topic _ before ((alive_iff _).mpr (Or.inl ?_))
    rw [known.released]
    exact unreleased
  · rw [released, releases, known.released]

theorem Known.quiet
    (known : Known delivery events)
    (bus : after.bus = delivery.bus)
    (made : after.made = delivery.made)
    (released : after.released = delivery.released)
    (silent : ∀ event ∈ emitted, isSilent event) :
    Known after (events ++ emitted) := by
  refine known.pruned ?_ ?_ ?_ made released silent
  · rw [bus]
    exact LocalBus.Pruned.refl _
  · intro topic _
    rw [bus]
  · intro topic target member _
    rw [bus]
    exact member

theorem Known.publish
    (known : Known delivery events)
    {thread : Nat} {topic typeName : Text} {bytes : Bytes}
    (moved :
      delivery.collected thread (some typeName) topic bytes
          (delivery.bus.publish delivery.alive topic typeName) =
        (after, emitted)) :
    Known after (events ++ emitted) := by
  cases moved
  refine known.pruned (delivery.bus.pruned_publish _ _ _) ?_ ?_ rfl rfl ?_
  · intro other determined
    have isType := delivery.bus.typeName_publish_eq delivery.alive topic
      typeName other
    rw [if_neg (fun reason => determined reason.2.2)] at isType
    exact isType
  · intro other target member living
    rcases delivery.bus.publish_entry delivery.alive topic typeName other with
      ⟨kept, _⟩ | ⟨collected, _⟩
    · exact kept ▸ member
    · have remains := List.mem_filter.mpr ⟨member, living⟩
      exact collected ▸ remains
  · intro event member
    rw [List.mem_singleton.mp member]
    trivial

theorem Known.inbound
    (known : Known delivery events)
    {thread : Nat} {topic : Text} {bytes : Bytes}
    (moved :
      delivery.collected thread none topic bytes
          (delivery.bus.deliverInbound delivery.alive topic) =
        (after, emitted)) :
    Known after (events ++ emitted) := by
  cases moved
  have within := delivery.bus.within_deliverInbound delivery.alive topic
  refine known.pruned (delivery.bus.pruned_deliverInbound _ _)
    (fun other _ => within.1.typeName other) ?_ rfl rfl ?_
  · intro other target member living
    change target ∈
      ((delivery.bus.deliverInbound delivery.alive topic).1.entry other).sinks
    unfold LocalBus.deliverInbound
    split
    · exact member
    · rename_i entry found
      rw [LocalBus.entry_store]
      split_ifs with same
      · subst same
        rw [LocalBus.entry_of_found found] at member
        exact List.mem_filter.mpr ⟨member, living⟩
      · exact member
  · intro event member
    rw [List.mem_singleton.mp member]
    trivial

theorem Known.registerPublisher
    (known : Known delivery events) (topic typeName : Text) :
    Known
      { delivery with bus := delivery.bus.registerPublisher topic typeName }
      events := by
  rw [← List.append_nil events]
  refine known.pruned (delivery.bus.pruned_registerPublisher _ _) ?_ ?_ rfl rfl
    nofun
  · intro other determined
    have isType :=
      delivery.bus.typeName_registerPublisher topic typeName other
    rw [if_neg (fun reason => determined reason.2)] at isType
    exact isType
  · intro other target member _
    change target ∈
      ((delivery.bus.registerPublisher topic typeName).entry other).sinks
    rw [LocalBus.registerPublisher, LocalBus.entry_store]
    split_ifs with same
    · subst same
      rw [LocalBus.checkType_sinks]
      exact member
    · exact member

theorem Known.removeRemoteSink
    (known : Known delivery events) (topic : Text) (sink : Target) :
    Known
      { delivery with
        bus := delivery.bus.removeRemoteSink delivery.alive topic sink }
      events := by
  rw [← List.append_nil events]
  have within := delivery.bus.within_removeRemoteSink delivery.alive topic sink
  refine known.pruned (delivery.bus.pruned_removeRemoteSink _ _ _)
    (fun other _ => within.typeName other) ?_ rfl rfl nofun
  intro other target member _
  change target ∈
    ((delivery.bus.removeRemoteSink delivery.alive topic sink).entry
      other).sinks
  rw [LocalBus.entry_removeRemoteSink]
  split_ifs with same
  · exact member
  · exact member

theorem Known.createSubscriber
    (known : Known delivery events) {number : Nat} {topic typeName : Text}
    (fresh : .subscriber number ∉ delivery.made) :
    Known
      { delivery with
        bus := delivery.bus.subscribe topic typeName (.subscriber number)
        made := .subscriber number :: delivery.made }
      (events ++
        [.subscribed number topic typeName
          (checkType (delivery.bus.entry topic) typeName).2]) := by
  have unlisted :
      ∀ other, .subscriber number ∉ (delivery.bus.entry other).sinks := by
    intro other member
    exact fresh ((known.sinks other).2 _ member).1
  refine ⟨⟨fun other => ?_, fun other => ?_⟩, ?_, ?_, ?_, fun target => ?_⟩
  · have before := known.sinks other
    rw [sinks_subscribe]
    split_ifs with added
    · constructor
      · refine List.nodup_append.mpr
          ⟨before.1, List.pairwise_singleton _ _, ?_⟩
        intro first firstMember second secondMember equal
        rw [List.mem_singleton.mp secondMember] at equal
        exact unlisted other (equal ▸ firstMember)
      · intro target member
        rcases List.mem_append.mp member with old | new
        · have known := before.2 target old
          exact ⟨List.mem_cons_of_mem _ known.1, known.2⟩
        · rw [List.mem_singleton.mp new]
          exact ⟨List.mem_cons_self, number, rfl⟩
    · refine ⟨before.1, fun target member => ?_⟩
      have known := before.2 target member
      exact ⟨List.mem_cons_of_mem _ known.1, known.2⟩
  · have before := known.remoteSinks other
    rw [remoteSinks_subscribe]
    refine ⟨before.1, fun target member => ?_⟩
    have known := before.2 target member
    exact ⟨List.mem_cons_of_mem _ known.1, known.2⟩
  · intro other subscriber member
    rw [sinks_subscribe] at member
    split_ifs at member with added
    · rcases List.mem_append.mp member with old | new
      · obtain ⟨known, seen⟩ := known.subscribed other subscriber old
        exact ⟨known, List.mem_append_left _ seen⟩
      · obtain ⟨same, accepted⟩ := added
        cases List.mem_singleton.mp new
        subst same
        refine ⟨typeName, List.mem_append_right _ ?_⟩
        rw [accepted]
        exact List.mem_singleton_self _
    · obtain ⟨known, seen⟩ := known.subscribed other subscriber member
      exact ⟨known, List.mem_append_left _ seen⟩
  · intro subscriber other isType member determined
    have typed := delivery.bus.typeName_subscribe topic typeName other
      (.subscriber number)
    rcases List.mem_append.mp member with old | new
    · have before := known.typed subscriber other isType old determined
      rw [if_neg (fun undetermined => determined (before ▸ undetermined.2))]
        at typed
      exact typed.trans before
    · have equal := List.mem_singleton.mp new
      simp only [DeliveryEvent.subscribed.injEq] at equal
      obtain ⟨rfl, rfl, rfl, accepted⟩ := equal
      have isTyped := LocalBus.typeName_of_accepted accepted.symm
      rw [LocalBus.checkType_typeName] at isTyped
      simpa [isTyped] using typed
  · intro subscriber other isType member unreleased
    rw [sinks_subscribe]
    rcases List.mem_append.mp member with old | new
    · have listed := known.kept subscriber other isType old
        (fun release => unreleased (List.mem_append_left _ release))
      split_ifs
      · exact List.mem_append_left _ listed
      · exact listed
    · have equal := List.mem_singleton.mp new
      simp only [DeliveryEvent.subscribed.injEq] at equal
      obtain ⟨rfl, rfl, rfl, accepted⟩ := equal
      rw [if_pos ⟨rfl, accepted.symm⟩]
      exact List.mem_append_right _ (List.mem_singleton_self _)
  · rw [List.mem_append, known.released]
    simp

theorem Known.addRemoteSink
    (known : Known delivery events) {number : Nat} {topic : Text}
    (fresh : .remote number ∉ delivery.made) :
    Known
      { delivery with
        bus := delivery.bus.addRemoteSink topic (.remote number)
        made := .remote number :: delivery.made }
      events := by
  refine ⟨⟨fun other => ?_, fun other => ?_⟩, ?_, ?_, ?_, known.released⟩
  · have before := known.sinks other
    rw [LocalBus.entry_addRemoteSink]
    split_ifs
    · refine ⟨before.1, fun target member => ?_⟩
      have known := before.2 target member
      exact ⟨List.mem_cons_of_mem _ known.1, known.2⟩
    · refine ⟨before.1, fun target member => ?_⟩
      have known := before.2 target member
      exact ⟨List.mem_cons_of_mem _ known.1, known.2⟩
  · have before := known.remoteSinks other
    rw [LocalBus.entry_addRemoteSink]
    split_ifs
    · constructor
      · refine List.nodup_append.mpr
          ⟨before.1, List.pairwise_singleton _ _, ?_⟩
        intro first firstMember second secondMember equal
        rw [List.mem_singleton.mp secondMember] at equal
        exact fresh (before.2 _ (equal ▸ firstMember)).1
      · intro target member
        rcases List.mem_append.mp member with old | new
        · have known := before.2 target old
          exact ⟨List.mem_cons_of_mem _ known.1, known.2⟩
        · rw [List.mem_singleton.mp new]
          exact ⟨List.mem_cons_self, number, rfl⟩
    · refine ⟨before.1, fun target member => ?_⟩
      have known := before.2 target member
      exact ⟨List.mem_cons_of_mem _ known.1, known.2⟩
  · intro other subscriber member
    rw [LocalBus.entry_addRemoteSink] at member
    apply known.subscribed other subscriber
    split_ifs at member
    · exact member
    · exact member
  · intro subscriber other isType member determined
    rw [LocalBus.entry_addRemoteSink]
    split_ifs
    · exact known.typed subscriber other isType member determined
    · exact known.typed subscriber other isType member determined
  · intro subscriber other isType member unreleased
    rw [LocalBus.entry_addRemoteSink]
    split_ifs
    · exact known.kept subscriber other isType member unreleased
    · exact known.kept subscriber other isType member unreleased

theorem Known.release
    (known : Known delivery events) (target : Target) :
    Known { delivery with released := target :: delivery.released }
      (events ++ [.released target]) := by
  refine ⟨⟨known.sinks, known.remoteSinks⟩, ?_, ?_, ?_, fun other => ?_⟩
  · intro topic number member
    obtain ⟨typeName, seen⟩ := known.subscribed topic number member
    exact ⟨typeName, List.mem_append_left _ seen⟩
  · intro number topic typeName member determined
    have old : .subscribed number topic typeName true ∈ events := by
      simpa using member
    exact known.typed number topic typeName old determined
  · intro number topic typeName member unreleased
    have old : .subscribed number topic typeName true ∈ events := by
      simpa using member
    apply known.kept number topic typeName old
    exact fun release => unreleased (List.mem_append_left _ release)
  · rw [List.mem_cons, List.mem_append, known.released]
    simp [or_comm]

theorem isSilent_subscriber
    (number : Nat) (seen : List (SubscriberEvent Message)) :
    ∀ event ∈ seen.map (DeliveryEvent.subscriber number), isSilent event := by
  intro event member
  obtain ⟨_, _, rfl⟩ := List.mem_map.mp member
  trivial

/-- `enqueue` touches neither the bus nor what is known of the sinks. -/
theorem frame_of_enqueueNext
    {thread : Nat}
    (stepped : delivery.enqueueNext parse thread = some (after, emitted)) :
    after.bus = delivery.bus ∧ after.made = delivery.made ∧
      after.released = delivery.released ∧
      ∀ event ∈ emitted, isSilent event := by
  unfold enqueueNext at stepped
  split at stepped
  · cases stepped
  · rename_i call _
    split at stepped
    · cases stepped
    · split at stepped
      · cases stepped
        refine ⟨rfl, rfl, rfl, ?_⟩
        intro event member
        rw [List.mem_singleton.mp member]
        trivial
      · obtain ⟨⟨reached, seen⟩, moved, equal⟩ :=
          Option.map_eq_some_iff.mp stepped
        obtain ⟨⟨subscriber, noticed⟩, _, same⟩ :=
          Option.map_eq_some_iff.mp moved
        cases equal
        cases same
        refine ⟨rfl, rfl, rfl, ?_⟩
        intro event member
        rcases List.mem_cons.mp member with first | later
        · rw [first]
          trivial
        · exact isSilent_subscriber _ noticed event later

theorem Known.step
    (known : Known delivery events)
    (stepped : delivery.step parse input = some (after, emitted)) :
    Known after (events ++ emitted) := by
  cases input with
  | registerPublisher topic typeName =>
      cases stepped
      rw [List.append_nil]
      exact known.registerPublisher topic typeName
  | createSubscriber number topic typeName =>
      simp only [BusThreads.step] at stepped
      split_ifs at stepped with fresh
      cases stepped
      exact known.createSubscriber fresh
  | addRemoteSink number topic =>
      simp only [BusThreads.step] at stepped
      split_ifs at stepped with fresh
      cases stepped
      rw [List.append_nil]
      exact known.addRemoteSink fresh
  | removeRemoteSink number topic =>
      cases stepped
      rw [List.append_nil]
      exact known.removeRemoteSink topic _
  | release target =>
      simp only [BusThreads.step] at stepped
      split_ifs at stepped
      cases stepped
      exact known.release target
  | destroy number =>
      simp only [BusThreads.step] at stepped
      split_ifs at stepped
      obtain ⟨⟨reached, seen⟩, _, equal⟩ := Option.map_eq_some_iff.mp stepped
      cases equal
      exact known.quiet rfl rfl rfl (isSilent_subscriber number seen)
  | publish thread topic typeName bytes =>
      simp only [BusThreads.step] at stepped
      split_ifs at stepped
      exact known.publish (Option.some.inj stepped)
  | inbound thread topic bytes =>
      simp only [BusThreads.step] at stepped
      split_ifs at stepped
      exact known.inbound (Option.some.inj stepped)
  | enqueue thread =>
      obtain ⟨bus, made, released, silent⟩ := frame_of_enqueueNext stepped
      exact known.quiet bus made released silent
  | finish thread =>
      simp only [BusThreads.step] at stepped
      split at stepped
      · cases stepped
      · split_ifs at stepped
        cases stepped
        exact known.quiet rfl rfl rfl nofun
  | take number =>
      obtain ⟨⟨reached, seen⟩, _, equal⟩ := Option.map_eq_some_iff.mp stepped
      cases equal
      exact known.quiet rfl rfl rfl (isSilent_subscriber number seen)
  | handle number =>
      obtain ⟨⟨reached, seen⟩, _, equal⟩ := Option.map_eq_some_iff.mp stepped
      cases equal
      exact known.quiet rfl rfl rfl (isSilent_subscriber number seen)

/-! ## Calls in progress -/

/-- A call goes through the sinks that it holds; what a thread was to deliver
to a sink has arrived there or is yet to. -/
structure Called (delivery : BusThreads)
    (events : List (DeliveryEvent Message)) : Prop where
  distinct :
    ∀ (thread : Nat) (call : DeliveryCall),
      delivery.calls[thread]? = some call →
      call.targets.Nodup ∧ call.remaining <:+ call.targets
  sent :
    ∀ thread target,
      sentTo thread target events =
        fromThread thread (arrivals target events) ++
          pendingFor delivery thread target

theorem pendingFor_congr
    {thread : Nat} (same : after.calls[thread]? = delivery.calls[thread]?)
    (target : Target) :
    pendingFor after thread target = pendingFor delivery thread target := by
  unfold pendingFor
  rw [same]

/-- The sink that a call comes to is not behind it any more. -/
theorem pendingFor_of_remaining
    {thread : Nat} {call : DeliveryCall} {next : Target} {rest : List Target}
    (busy : delivery.calls[thread]? = some call)
    (remaining : call.remaining = next :: rest)
    (distinct : call.remaining.Nodup)
    (advanced :
      after.calls[thread]? = some { call with remaining := rest })
    (target : Target) :
    pendingFor delivery thread target =
      (if next = target then [call.bytes] else []) ++
        pendingFor after thread target := by
  unfold pendingFor
  rw [busy, advanced]
  simp only [remaining]
  rw [remaining, List.nodup_cons] at distinct
  by_cases same : next = target
  · subst same
    simp [distinct.1]
  · have other : ¬target = next := fun equal => same equal.symm
    simp [same, other]

theorem fromThread_arrivals_enqueued
    (thread caller : Nat) (next target : Target) (bytes : Bytes) :
    fromThread thread
        (arrivals target
          ([.enqueued caller next bytes] : List (DeliveryEvent Message))) =
      if caller = thread ∧ next = target then [bytes] else [] := by
  by_cases same : next = target
  · by_cases mine : caller = thread
    · simp [arrivals, fromThread, same, mine]
    · simp [arrivals, fromThread, same, mine]
  · simp [arrivals, fromThread, same]

/-- A call goes on to its next sink. -/
theorem Called.advanced
    (called : Called delivery events)
    {thread : Nat} {call : DeliveryCall} {next : Target} {rest : List Target}
    (busy : delivery.calls[thread]? = some call)
    (remaining : call.remaining = next :: rest)
    (calls :
      after.calls =
        delivery.calls.insert thread { call with remaining := rest })
    (quiet :
      ∀ caller target,
        sentTo caller target emitted = [] ∧
          fromThread caller (arrivals target emitted) =
            if thread = caller ∧ next = target then [call.bytes] else []) :
    Called after (events ++ emitted) := by
  have before := called.distinct thread call busy
  refine ⟨fun other entry found => ?_, fun caller target => ?_⟩
  · rw [calls, Std.TreeMap.getElem?_insert] at found
    split_ifs at found with same
    · cases found
      have shorter : rest <:+ call.remaining :=
        remaining ▸ List.suffix_cons next rest
      exact ⟨before.1, shorter.trans before.2⟩
    · exact called.distinct other entry found
  · have sent := called.sent caller target
    rw [sentTo_append, arrivals_append, fromThread_append,
      (quiet caller target).1, (quiet caller target).2, List.append_nil, sent,
      List.append_assoc]
    congr 1
    by_cases mine : thread = caller
    · subst mine
      have found :
          after.calls[thread]? = some { call with remaining := rest } := by
        rw [calls]
        exact Std.TreeMap.getElem?_insert_self
      have distinct := before.1.sublist before.2.sublist
      rw [pendingFor_of_remaining busy remaining distinct found target]
      simp
    · have same : after.calls[caller]? = delivery.calls[caller]? := by
        rw [calls, Std.TreeMap.getElem?_insert]
        simp [mine]
      rw [pendingFor_congr same]
      simp [mine]

theorem Called.quiet
    (called : Called delivery events)
    (calls : after.calls = delivery.calls)
    (quiet :
      ∀ thread target,
        sentTo thread target emitted = [] ∧ arrivals target emitted = []) :
    Called after (events ++ emitted) := by
  refine ⟨fun thread call found => ?_, fun thread target => ?_⟩
  · rw [calls] at found
    exact called.distinct thread call found
  · have same : after.calls[thread]? = delivery.calls[thread]? := by
      rw [calls]
    rw [sentTo_append, arrivals_append, (quiet thread target).1,
      (quiet thread target).2, List.append_nil, List.append_nil,
      pendingFor_congr same]
    exact called.sent thread target

theorem Called.change
    (called : Called delivery events)
    (change : Change parse delivery after emitted) :
    Called after (events ++ emitted) := by
  cases change with
  | managed emitted _ calls _ management =>
      apply called.quiet calls
      intro thread target
      constructor
      · apply List.filterMap_eq_nil_iff.mpr
        intro event member
        rcases management event member with
          ⟨_, _, _, _, isSubscription⟩ | ⟨_, isRelease⟩
        · rw [isSubscription]
        · rw [isRelease]
      · apply List.filterMap_eq_nil_iff.mpr
        intro event member
        rcases management event member with
          ⟨_, _, _, _, isSubscription⟩ | ⟨_, isRelease⟩
        · rw [isSubscription]
        · rw [isRelease]
  | collected thread typeName topic bytes bus targets idle _ distinct _ equal =>
      subst equal
      refine ⟨fun other entry found => ?_, fun caller target => ?_⟩
      · simp only [Std.TreeMap.getElem?_insert] at found
        split_ifs at found with same
        · cases found
          exact ⟨distinct, List.suffix_refl _⟩
        · exact called.distinct other entry found
      · have sent := called.sent caller target
        by_cases mine : thread = caller
        · subst mine
          -- The thread was in no call, so all it sent before has arrived.
          have before : pendingFor delivery thread target = [] := by
            unfold pendingFor
            rw [idle]
          rw [before, List.append_nil] at sent
          rw [sentTo_append, arrivals_append, sent]
          by_cases member : target ∈ targets
          · simp [sentTo, arrivals, pendingFor, member]
          · simp [sentTo, arrivals, pendingFor, member]
        · rw [sentTo_append, arrivals_append, sent]
          simp [sentTo, arrivals, pendingFor, mine,
            Std.TreeMap.getElem?_insert]
  | forwarded thread call number rest busy remaining equal =>
      subst equal
      apply called.advanced busy remaining rfl
      intro caller target
      exact ⟨rfl, fromThread_arrivals_enqueued _ _ _ _ _⟩
  | enqueued thread call number rest reached seen busy remaining _ equal =>
      subst equal
      apply called.advanced busy remaining rfl
      intro caller target
      have quiet := quiet_subscriber number seen caller target
      rw [← List.singleton_append, sentTo_append, arrivals_append, quiet.1,
        quiet.2, List.append_nil, List.append_nil]
      exact ⟨rfl, fromThread_arrivals_enqueued _ _ _ _ _⟩
  | finished thread call busy isOver equal =>
      subst equal
      rw [List.append_nil]
      refine ⟨fun other entry found => ?_, fun caller target => ?_⟩
      · simp only [Std.TreeMap.getElem?_erase] at found
        split_ifs at found
        exact called.distinct other entry found
      · rw [called.sent caller target]
        congr 1
        by_cases mine : thread = caller
        · subst mine
          simp [pendingFor, busy, isOver]
        · apply (pendingFor_congr ?_ target).symm
          simp [Std.TreeMap.getElem?_erase, mine]
  | worked number input reached seen _ _ _ equal =>
      subst equal
      exact called.quiet rfl (quiet_subscriber number seen)

/-! ## The subscribers -/

/-- A call that goes on holds the sinks that it held. -/
theorem alive_of_advanced
    {target : Target} (living : after.alive target = true)
    {thread : Nat} {call : DeliveryCall} {rest : List Target}
    (busy : delivery.calls[thread]? = some call)
    (calls :
      after.calls =
        delivery.calls.insert thread { call with remaining := rest })
    (released : after.released = delivery.released) :
    delivery.alive target = true := by
  rw [alive_iff] at living ⊢
  rcases living with kept | ⟨other, entry, found, member⟩
  · left
    rw [← released]
    exact kept
  · right
    rw [calls, Std.TreeMap.getElem?_insert] at found
    split_ifs at found
    · cases found
      exact ⟨thread, call, busy, member⟩
    · exact ⟨other, entry, found, member⟩

/-- A sink that is gone does not come back. -/
theorem alive_of_change
    (change : Change parse delivery after emitted)
    {target : Target} (living : after.alive target = true) :
    delivery.alive target = true := by
  cases change with
  | managed emitted _ calls released _ =>
      rw [alive_iff] at living ⊢
      rcases living with kept | ⟨thread, call, found, member⟩
      · left
        exact fun gone => kept (released gone)
      · right
        rw [calls] at found
        exact ⟨thread, call, found, member⟩
  | collected thread typeName topic bytes bus targets _ _ _ holds equal =>
      subst equal
      rw [alive_iff] at living
      rcases living with kept | ⟨other, call, found, member⟩
      · exact (alive_iff target).mpr (Or.inl kept)
      · simp only [Std.TreeMap.getElem?_insert] at found
        split_ifs at found
        · cases found
          exact holds target member
        · exact alive_of_call found member
  | forwarded thread call number rest busy _ equal =>
      subst equal
      exact alive_of_advanced living busy rfl rfl
  | enqueued thread call number rest reached seen busy _ _ equal =>
      subst equal
      exact alive_of_advanced living busy rfl rfl
  | finished thread call _ _ equal =>
      subst equal
      rw [alive_iff] at living ⊢
      rcases living with kept | ⟨other, entry, found, member⟩
      · exact Or.inl kept
      · simp only [Std.TreeMap.getElem?_erase] at found
        split_ifs at found
        exact Or.inr ⟨other, entry, found, member⟩
  | worked number input reached seen _ _ _ equal =>
      subst equal
      exact living

end BusThreads

namespace BusThreads

variable {Message : Type} {parse : Bytes → Option Message}
  {qos : Nat → Qos} {delivery after : BusThreads} {input : DeliveryInput}
  {events emitted : List (DeliveryEvent Message)}

/-- Each subscriber is a subscriber of its own, is given what arrives, and is
open while it is alive. -/
structure Served (parse : Bytes → Option Message) (qos : Nat → Qos)
    (delivery : BusThreads) (events : List (DeliveryEvent Message)) : Prop where
  run :
    ∀ number, ∃ inputs,
      (subscriberMachine parse (qos number)).Run Machine.free inputs
        (delivery.subscribers number) (eventsOf number events)
  accepted :
    ∀ number,
      QueueHistory.accepted (queueEvents (eventsOf number events)) =
        (arrivals (.subscriber number) events).map Prod.snd
  opened :
    ∀ number, delivery.alive (.subscriber number) = true →
      (delivery.subscribers number).queue.closed = false
  unrefused :
    ∀ number bytes, .queue (.refused bytes) ∉ eventsOf number events

theorem Served.quiet
    (served : Served parse qos delivery events)
    (change : Change parse delivery after emitted)
    (subscribers : after.subscribers = delivery.subscribers)
    (quiet :
      ∀ number, eventsOf number emitted = [] ∧
        arrivals (.subscriber number) emitted = []) :
    Served parse qos after (events ++ emitted) := by
  refine ⟨fun number => ?_, fun number => ?_, fun number living => ?_,
    fun number bytes => ?_⟩
  · rw [eventsOf_append, (quiet number).1, List.append_nil, subscribers]
    exact served.run number
  · rw [eventsOf_append, arrivals_append, (quiet number).1, (quiet number).2,
      List.append_nil, List.append_nil]
    exact served.accepted number
  · rw [subscribers]
    exact served.opened number (alive_of_change change living)
  · rw [eventsOf_append, (quiet number).1, List.append_nil]
    exact served.unrefused number bytes

/-- One subscriber takes a step. -/
theorem Served.stepped
    (served : Served parse qos delivery events)
    (change : Change parse delivery after emitted)
    {number : Nat} {input : SubscriberInput} {reached : Subscriber}
    {seen : List (SubscriberEvent Message)}
    (stepped :
      (delivery.subscribers number).step parse input = some (reached, seen))
    (subscribers :
      after.subscribers =
        Function.update delivery.subscribers number reached)
    (events_eq :
      ∀ other, eventsOf other emitted = if number = other then seen else [])
    (arrived :
      ∀ other,
        (arrivals (.subscriber other) emitted).map Prod.snd =
          if number = other then
            QueueHistory.accepted (queueEvents seen)
          else
            [])
    (opened :
      after.alive (.subscriber number) = true → reached.queue.closed = false)
    (unrefused : ∀ bytes, .queue (.refused bytes) ∉ seen) :
    Served parse qos after (events ++ emitted) := by
  have others :
      ∀ other, number ≠ other →
        after.subscribers other = delivery.subscribers other := by
    intro other different
    rw [subscribers, Function.update_of_ne different.symm]
  have own : after.subscribers number = reached := by
    rw [subscribers, Function.update_self]
  refine ⟨fun other => ?_, fun other => ?_, fun other living => ?_,
    fun other bytes => ?_⟩
  · obtain ⟨inputs, run⟩ := served.run other
    rw [eventsOf_append, events_eq]
    by_cases same : number = other
    · subst same
      rw [if_pos rfl, own]
      exact ⟨_, run.next trivial stepped⟩
    · rw [if_neg same, List.append_nil, others other same]
      exact ⟨inputs, run⟩
  · rw [eventsOf_append, arrivals_append, List.map_append, events_eq, arrived,
      queueEvents_append, QueueHistory.accepted_append, served.accepted other]
    split_ifs
    · rfl
    · rfl
  · by_cases same : number = other
    · subst same
      rw [own]
      exact opened living
    · rw [others other same]
      exact served.opened other (alive_of_change change living)
  · rw [eventsOf_append, events_eq, List.mem_append, not_or]
    refine ⟨served.unrefused other bytes, ?_⟩
    split_ifs
    · exact unrefused bytes
    · exact List.not_mem_nil

theorem Served.change
    (called : Called delivery events)
    (served : Served parse qos delivery events)
    (change : Change parse delivery after emitted) :
    Served parse qos after (events ++ emitted) := by
  have moved := change
  cases change with
  | managed emitted subscribers _ _ management =>
      apply served.quiet moved subscribers
      intro number
      constructor
      · apply List.filterMap_eq_nil_iff.mpr
        intro event member
        rcases management event member with
          ⟨_, _, _, _, isSubscription⟩ | ⟨_, isRelease⟩
        · rw [isSubscription]
        · rw [isRelease]
      · apply List.filterMap_eq_nil_iff.mpr
        intro event member
        rcases management event member with
          ⟨_, _, _, _, isSubscription⟩ | ⟨_, isRelease⟩
        · rw [isSubscription]
        · rw [isRelease]
  | collected thread typeName topic bytes bus targets _ _ _ _ equal =>
      subst equal
      exact served.quiet moved rfl fun _ => ⟨rfl, rfl⟩
  | forwarded thread call number rest _ _ equal =>
      subst equal
      exact served.quiet moved rfl fun _ => ⟨rfl, by simp [arrivals]⟩
  | enqueued thread call number rest reached seen busy remaining stepped equal =>
      subst equal
      -- The call holds the subscriber, so its queue is not closed.
      have member : .subscriber number ∈ call.targets :=
        (called.distinct thread call busy).2.subset
          (remaining ▸ List.mem_cons_self)
      have opened := served.opened number (alive_of_call busy member)
      have pushed := accepted_of_enqueue opened stepped
      apply served.stepped moved stepped rfl
      · intro other
        rw [← List.singleton_append, eventsOf_append, eventsOf_subscriber]
        rfl
      · intro other
        rw [← List.singleton_append, arrivals_append,
          (quiet_subscriber number seen thread _).2, pushed.1]
        by_cases same : number = other
        · simp [arrivals, same]
        · simp [arrivals, same]
      · exact fun _ => pushed.2.1
      · exact pushed.2.2
  | finished thread call _ _ equal =>
      subst equal
      exact served.quiet moved rfl fun _ => ⟨rfl, rfl⟩
  | worked number input reached seen stepped closing other equal =>
      subst equal
      have unpushed := accepted_of_other other stepped
      apply served.stepped moved stepped rfl
      · intro subscriber
        exact eventsOf_subscriber subscriber number seen
      · intro subscriber
        rw [(quiet_subscriber number seen 0 _).2, unpushed.1]
        split_ifs
        · rfl
        · rfl
      · intro living
        have before := alive_of_change moved living
        have stays : input ≠ .close := by
          intro isClose
          rw [closing isClose] at before
          cases before
        rw [unpushed.2.1 stays]
        exact served.opened number before
      · exact unpushed.2.2

/-! ## Whole runs -/

/-- What every run keeps. -/
theorem sound_of_run
    {inputs : List DeliveryInput}
    (run :
      (deliveryMachine parse qos).Run Machine.free inputs delivery events) :
    Known delivery events ∧ Called delivery events ∧
      Served parse qos delivery events := by
  refine run.invariant
    (fun delivery events =>
      Known delivery events ∧ Called delivery events ∧
        Served parse qos delivery events) ?_ ?_
  · intro delivery fresh
    refine ⟨⟨⟨fun topic => ?_, fun topic => ?_⟩, ?_, nofun, nofun, ?_⟩,
      ⟨?_, fun thread target => ?_⟩, ⟨?_, fun _ => rfl, ?_, nofun⟩⟩
    · rw [fresh.bus]
      exact ⟨List.nodup_nil, nofun⟩
    · rw [fresh.bus]
      exact ⟨List.nodup_nil, nofun⟩
    · intro topic number member
      rw [fresh.bus] at member
      cases member
    · intro target
      rw [fresh.released]
      simp
    · intro thread call busy
      rw [fresh.calls] at busy
      cases busy
    · have idle : pendingFor delivery thread target = [] := by
        unfold pendingFor
        rw [fresh.calls]
      rw [idle]
      rfl
    · intro number
      exact ⟨[], .start (fresh.subscribers number)⟩
    · intro number _
      rw [fresh.subscribers]
      rfl
  · intro delivery events input after emitted sound _ stepped
    obtain ⟨known, called, served⟩ := sound
    have change := change_of_step known.toListed stepped
    exact ⟨known.step stepped, called.change change, served.change called change⟩

/-- Whom a call reaches, by what had happened before. -/
def Reached (earlier : List (DeliveryEvent Message)) :
    DeliveryEvent Message → Prop
  | .collected _ typeName topic _ targets =>
      (∀ number ofTopic,
        .subscribed number topic ofTopic true ∈ earlier →
        .released (.subscriber number) ∉ earlier →
        ofTopic ≠ [] →
        typeName = none ∨ typeName = some ofTopic →
        .subscriber number ∈ targets) ∧
      ∀ number,
        .subscriber number ∈ targets →
        ∃ ofTopic,
          .subscribed number topic ofTopic true ∈ earlier ∧
            (typeName = none ∨ ofTopic = [] ∨ typeName = some ofTopic)
  | _ => True

theorem accepts_of_typed
    {Sink : Type} {bus : LocalBus Sink} {topic typeName : Text}
    (typed : (bus.entry topic).typeName = typeName)
    (determined : typeName ≠ []) : bus.accepts topic typeName = true := by
  unfold LocalBus.accepts
  cases found : bus.topics[topic]? with
  | none =>
      rw [LocalBus.entry_of_missing found] at typed
      exact (determined typed.symm).elim
  | some entry =>
      rw [LocalBus.entry_of_found found] at typed
      simp [checkType, typed, determined]

theorem Known.reached
    (known : Known delivery events)
    {thread : Nat} {typeName : Option Text} {topic : Text} {bytes : Bytes}
    {bus : LocalBus Target} {targets : List Target}
    (gathered : delivery.gathered typeName topic = (bus, targets)) :
    Reached events
      (.collected thread typeName topic bytes targets) := by
  have isTargets : (delivery.gathered typeName topic).2 = targets := by
    rw [gathered]
  have listed :
      ∀ number ofTopic,
        .subscribed number topic ofTopic true ∈ events →
        .released (.subscriber number) ∉ events →
        .subscriber number ∈
          collect delivery.alive (delivery.bus.entry topic).sinks := by
    intro number ofTopic subscribed unreleased
    have member := known.kept number topic ofTopic subscribed unreleased
    rw [← known.released] at unreleased
    have living := (alive_iff _).mpr (Or.inl unreleased)
    exact List.mem_filter.mpr ⟨member, living⟩
  cases typeName with
  | none =>
      rw [BusThreads.gathered, deliverInbound_targets] at isTargets
      subst isTargets
      constructor
      · intro number ofTopic subscribed unreleased _ _
        exact listed number ofTopic subscribed unreleased
      · intro number member
        have isListed := List.mem_of_mem_filter member
        obtain ⟨ofTopic, subscribed⟩ := known.subscribed topic number isListed
        exact ⟨ofTopic, subscribed, Or.inl rfl⟩
  | some typeName =>
      rw [BusThreads.gathered] at isTargets
      constructor
      · intro number ofTopic subscribed unreleased determined same
        have typed := known.typed number topic ofTopic subscribed determined
        have equal : typeName = ofTopic := by simpa using same
        subst equal
        rw [← isTargets, LocalBus.publish_targets,
          if_pos (accepts_of_typed typed determined)]
        exact List.mem_append_left _
          (listed number typeName subscribed unreleased)
      · intro number member
        rw [← isTargets] at member
        obtain ⟨accepted, has⟩ := LocalBus.has_of_target member
        rcases has with isListed | isRemote
        · obtain ⟨ofTopic, subscribed⟩ :=
            known.subscribed topic number isListed
          refine ⟨ofTopic, subscribed, Or.inr ?_⟩
          by_cases determined : ofTopic = []
          · exact Or.inl determined
          · right
            have typed :=
              known.typed number topic ofTopic subscribed determined
            have isType :=
              LocalBus.typeName_of_accepts (typed ▸ determined) accepted
            rw [← isType, typed]
        · obtain ⟨other, isForwarder⟩ :=
            ((known.remoteSinks topic).2 _ isRemote).2
          cases isForwarder

/-- What a step says of the calls that it begins. -/
theorem reached_of_change
    (known : Known delivery events)
    (change : Change parse delivery after emitted)
    {earlier later : List (DeliveryEvent Message)}
    {event : DeliveryEvent Message}
    (split : emitted = earlier ++ event :: later) :
    Reached (events ++ earlier) event := by
  have member : event ∈ emitted := by
    rw [split]
    exact List.mem_append_right _ List.mem_cons_self
  cases change with
  | managed emitted _ _ _ management =>
      rcases management event member with
        ⟨_, _, _, _, isSubscription⟩ | ⟨_, isRelease⟩
      · rw [isSubscription]
        trivial
      · rw [isRelease]
        trivial
  | collected thread typeName topic bytes bus targets _ gathered =>
      have empty : earlier = [] := by
        have lengths := congrArg List.length split
        simp only [List.length_append, List.length_cons, List.length_nil]
          at lengths
        exact List.eq_nil_of_length_eq_zero (by omega)
      rw [List.mem_singleton.mp member, empty, List.append_nil]
      exact known.reached gathered
  | forwarded =>
      rw [List.mem_singleton.mp member]
      trivial
  | enqueued =>
      rcases List.mem_cons.mp member with first | seen
      · rw [first]
        trivial
      · obtain ⟨_, _, rfl⟩ := List.mem_map.mp seen
        trivial
  | finished =>
      cases member
  | worked =>
      obtain ⟨_, _, rfl⟩ := List.mem_map.mp member
      trivial

end BusThreads

namespace BusThreads

/-- Every call of a run reaches whom it has to. -/
theorem reached_of_run
    {Message : Type} {parse : Bytes → Option Message} {qos : Nat → Qos}
    {inputs : List DeliveryInput} {delivery : BusThreads}
    {events : List (DeliveryEvent Message)}
    (run :
      (deliveryMachine parse qos).Run Machine.free inputs delivery events)
    {earlier later : List (DeliveryEvent Message)}
    {event : DeliveryEvent Message}
    (split : events = earlier ++ event :: later) : Reached earlier event := by
  induction run generalizing earlier later with
  | start _ =>
      simp at split
  | next before _ stepped inductionHypothesis =>
      have known := (sound_of_run before).1
      have change := change_of_step known.toListed stepped
      rcases List.append_eq_append_iff.mp split with
        ⟨first, isEarlier, isEmitted⟩ | ⟨rest, isEvents, isLater⟩
      · rw [isEarlier]
        exact reached_of_change known change isEmitted
      · cases rest with
        | nil =>
            rw [List.append_nil] at isEvents
            have isEmitted := isLater.symm
            have reached :=
              reached_of_change known change
                (isEmitted.trans (List.nil_append _).symm)
            rwa [List.append_nil, isEvents] at reached
        | cons next rest =>
            obtain ⟨rfl, _⟩ := List.cons.inj isLater
            exact inductionHypothesis isEvents

end BusThreads

/-- A call reaches the subscribers that its topic has accepted and that their
owners still keep, and no others than those of its topic and type. -/
theorem calls_reach_subscribers
    {Message : Type} {parse : Bytes → Option Message} {qos : Nat → Qos}
    {inputs : List DeliveryInput} {delivery : BusThreads}
    {events : List (DeliveryEvent Message)}
    (run :
      (deliveryMachine parse qos).Run Machine.free inputs delivery events)
    {earlier later : List (DeliveryEvent Message)}
    {thread : Nat} {typeName : Option Text} {topic : Text} {bytes : Bytes}
    {targets : List Target}
    (split :
      events =
        earlier ++ .collected thread typeName topic bytes targets :: later) :
    (∀ number ofTopic,
        .subscribed number topic ofTopic true ∈ earlier →
        .released (.subscriber number) ∉ earlier →
        ofTopic ≠ [] →
        typeName = none ∨ typeName = some ofTopic →
        .subscriber number ∈ targets) ∧
      ∀ number,
        .subscriber number ∈ targets →
        ∃ ofTopic,
          .subscribed number topic ofTopic true ∈ earlier ∧
            (typeName = none ∨ ofTopic = [] ∨ typeName = some ofTopic) :=
  BusThreads.reached_of_run run split

/-- Two threads publish to two subscribers, of which one is released and
destroyed while a call still holds it. -/
def pairInputs : List DeliveryInput :=
  [.createSubscriber 1 ['t'] ['T'], .createSubscriber 2 ['t'] ['T'],
    .addRemoteSink 1 ['t'], .publish 0 ['t'] ['T'] [7],
    .publish 5 ['t'] ['T'] [8], .enqueue 5, .release (.subscriber 1),
    .enqueue 0, .enqueue 0, .enqueue 5, .enqueue 0, .finish 0, .enqueue 5,
    .finish 5, .destroy 1, .take 1, .handle 1, .take 1, .handle 1,
    .inbound 0 ['t'] [9], .enqueue 0, .finish 0]

/-- A process with these subscribers before anything has happened. -/
def pairDelivery (qos : Nat → Qos) : BusThreads :=
  ⟨⟨∅⟩, fun number => .created (qos number), [], [], ∅⟩

/-- One of them keeps all messages, the other the last one. -/
def pairQos (number : Nat) : Qos :=
  if number = 1 then ⟨.keepAll, 0⟩ else ⟨.keepLast, 1⟩

theorem fresh_pairDelivery (qos : Nat → Qos) :
    BusThreads.Fresh qos (pairDelivery qos) := by
  refine ⟨fun topic => ?_, fun _ => rfl, rfl, fun thread => ?_⟩
  · simp [pairDelivery, LocalBus.entry]
  · simp [pairDelivery]

theorem calls_reach_subscribers_pair :
    ∃ busThreads events,
      (deliveryMachine (List.head? (α := UInt8)) pairQos).Run Machine.free
          pairInputs busThreads events ∧
        ∃ earlier later targets,
          events =
              earlier ++ .collected 0 none ['t'] [9] targets :: later ∧
            .subscribed 2 ['t'] ['T'] true ∈ earlier ∧
            .released (.subscriber 2) ∉ earlier ∧
            .subscriber 2 ∈ targets := by
  obtain ⟨busThreads, events, run, checked⟩ :=
    Machine.run_of_exec_check (deliveryMachine List.head? pairQos)
      Machine.free pairInputs (pairDelivery pairQos)
      (fun _ events =>
        (events =
            events.take 21 ++
              .collected 0 none ['t'] [9] [.subscriber 2] ::
                events.drop 22) ∧
          .subscribed 2 ['t'] ['T'] true ∈ events.take 21 ∧
          .released (.subscriber 2) ∉ events.take 21)
      (fresh_pairDelivery pairQos) (by decide +kernel)
  obtain ⟨split, subscribed, kept⟩ := of_decide_eq_true checked
  have reached :=
    (calls_reach_subscribers run split).1 2 ['T'] subscribed kept (by decide)
      (Or.inl rfl)
  exact ⟨busThreads, events, run, _, _, _, split, subscribed, kept, reached⟩

/-- Whatever the threads do, a subscriber is called back with the messages of
each thread in the order of its calls, each at most once; nothing arrives at a
closed queue.  What is missing is still with a call, was dropped from a full
queue, or is in the queue or with the worker: without a limit a thread's
messages are a prefix, and all of them once nothing is on its way. -/
theorem local_delivery
    {Message : Type} {parse : Bytes → Option Message} {qos : Nat → Qos}
    {inputs : List DeliveryInput} {delivery : BusThreads}
    {events : List (DeliveryEvent Message)}
    (run :
      (deliveryMachine parse qos).Run Machine.free inputs delivery events)
    (number : Nat) :
    ∃ handled : List (Nat × Bytes),
      callbacks (eventsOf number events) =
          handled.filterMap (fun message => parse message.2) ∧
        (∀ thread,
          (fromThread thread handled).Sublist
            (sentTo thread (.subscriber number) events)) ∧
        (∀ thread,
          sentTo thread (.subscriber number) events =
            fromThread thread (arrivals (.subscriber number) events) ++
              pendingFor delivery thread (.subscriber number)) ∧
        ((arrivals (.subscriber number) events).length =
          handled.length + (delivery.subscribers number).held.toList.length +
            (delivery.subscribers number).queue.dropped +
            (delivery.subscribers number).queue.size) ∧
        (∀ bytes, .queue (.refused bytes) ∉ eventsOf number events) ∧
        ((qos number).capacity = 0 →
          ∀ thread,
            fromThread thread handled <+:
                sentTo thread (.subscriber number) events ∧
              ((delivery.subscribers number).queue.queue = [] →
                (delivery.subscribers number).held = none →
                delivery.calls[thread]? = none →
                fromThread thread handled =
                  sentTo thread (.subscriber number) events)) := by
  obtain ⟨_, called, served⟩ := BusThreads.sound_of_run run
  obtain ⟨steps, ownRun⟩ := served.run number
  obtain ⟨sound, taken, worked⟩ := subscriber_of_run ownRun
  have accepted := served.accepted number
  obtain ⟨handled, isTaken, isSublist, unlimited⟩ :=
    handled_of_arrivals sound worked accepted
  have sent := called.sent
  refine ⟨handled, ?_, fun thread => ?_, fun thread => sent thread _, ?_,
    served.unrefused number, fun unbounded thread => ?_⟩
  · rw [worked.called, isTaken, List.filterMap_map]
    rfl
  · have filtered :=
      (isSublist.filter fun message => message.1 = thread).map Prod.snd
    rw [sent]
    exact filtered.trans (List.sublist_append_left _ _)
  · have total := sound.length_accepted
    rw [accepted, List.length_map, worked.popped, List.length_append, isTaken,
      List.length_map] at total
    exact total
  · obtain ⟨waiting, isWhole, isWaiting⟩ := unlimited unbounded
    rw [sent, isWhole, fromThread_append, List.append_assoc]
    refine ⟨List.prefix_append _ _, fun empty idle returned => ?_⟩
    rw [empty, idle] at isWaiting
    have none : waiting = [] := by simpa using isWaiting
    have noCall : pendingFor delivery thread (.subscriber number) = [] := by
      unfold pendingFor
      rw [returned]
    rw [none, noCall]
    simp [fromThread]

theorem local_delivery_pair :
    ∃ busThreads events,
      (deliveryMachine List.head? pairQos).Run Machine.free pairInputs
          busThreads events ∧
        callbacks (eventsOf 1 events) = [8, 7] ∧
        ∃ handled : List (Nat × Bytes),
          callbacks (eventsOf 1 events) =
              handled.filterMap (fun message => message.2.head?) ∧
            fromThread 0 handled = sentTo 0 (.subscriber 1) events := by
  obtain ⟨busThreads, events, run, checked⟩ :=
    Machine.run_of_exec_check (deliveryMachine List.head? pairQos)
      Machine.free pairInputs (pairDelivery pairQos)
      (fun reached events =>
        callbacks (eventsOf 1 events) = [8, 7] ∧
          (reached.subscribers 1).queue.queue = [] ∧
          (reached.subscribers 1).held = none ∧
          reached.calls[0]? = none)
      (fresh_pairDelivery pairQos) (by decide +kernel)
  have outcome := of_decide_eq_true checked
  obtain ⟨handled, called, _, _, _, _, unlimited⟩ := local_delivery run 1
  have whole :=
    ((unlimited (by decide) 0).2 outcome.2.1 outcome.2.2.1 outcome.2.2.2)
  exact ⟨busThreads, events, run, outcome.1, handled, called, whole⟩

end MiniMiddleware.Core
