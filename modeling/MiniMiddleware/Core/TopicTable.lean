import MiniMiddleware.Core.LocalBus
import MiniMiddleware.Library.Machine
import MiniMiddleware.Transport.ShmRing

/-!
# The bus as a table of topics

What the bus is for can be said without its bookkeeping.  A topic is present
once it has been registered, subscribed to or given a remote sink.  Its type
is the first of the type names it was used with.  A sink that was accepted is
reached as long as it lives and, if it is remote, has not been removed.

`IdealTable` says just that: it keeps every type name a topic was ever used
with and every registration, and never drops a sink because it expired.  The
bus, which checks types when they come in and prunes expired sinks as it walks
its lists, has the same runs.

Sinks expire at any time, also while the bus walks a list.  `publish` and
`deliver_inbound` hold on to every sink they find alive, so a sink that
expires during the walk counts as expired before the operation if the walk
finds it so, and as expired after it otherwise.
-/

namespace MiniMiddleware.Core

open MiniMiddleware.Library MiniMiddleware.Transport

/-- The operations of the bus, and the expiry of a sink. -/
inductive BusInput (Sink : Type) where
  | registerPublisher (topic typeName : Text)
  | subscribe (topic typeName : Text) (sink : Sink)
  | addRemoteSink (topic : Text) (sink : Sink)
  | removeRemoteSink (topic : Text) (sink : Sink)
  | publish (topic typeName : Text) (bytes : Bytes)
  | deliverInbound (topic : Text) (bytes : Bytes)
  | expire (sink : Sink)
  deriving DecidableEq, Repr

/-- A call of `enqueue`. -/
structure Enqueued (Sink : Type) where
  sink : Sink
  bytes : Bytes
  deriving DecidableEq, Repr

/-- The calls of `enqueue` on a list of targets. -/
def enqueueOn {Sink : Type} (bytes : Bytes) (targets : List Sink) :
    List (Enqueued Sink) :=
  targets.map fun sink => ⟨sink, bytes⟩

/-- Whether the type names of an operation are not empty. -/
def BusInput.typed {Sink : Type} : BusInput Sink → Bool
  | .registerPublisher _ typeName => typeName ≠ []
  | .subscribe _ typeName _ => typeName ≠ []
  | .publish _ typeName _ => typeName ≠ []
  | _ => true

section Machines

variable {Sink : Type} [DecidableEq Sink]

/-- Whether a sink has not expired. -/
def living (expired : List Sink) (sink : Sink) : Bool :=
  sink ∉ expired

/-! ## The bus -/

/-- A bus and the sinks that have expired. -/
structure WatchedBus (Sink : Type) where
  bus : LocalBus Sink
  expired : List Sink

/-- One operation of the bus. -/
def WatchedBus.step (watched : WatchedBus Sink) :
    BusInput Sink → Option (WatchedBus Sink × List (Enqueued Sink))
  | .registerPublisher topic typeName =>
      some ({ watched with bus := watched.bus.registerPublisher topic typeName },
        [])
  | .subscribe topic typeName sink =>
      some ({ watched with bus := watched.bus.subscribe topic typeName sink },
        [])
  | .addRemoteSink topic sink =>
      some ({ watched with bus := watched.bus.addRemoteSink topic sink }, [])
  | .removeRemoteSink topic sink =>
      some
        ({ watched with
            bus :=
              watched.bus.removeRemoteSink (living watched.expired) topic
                sink }, [])
  | .publish topic typeName bytes =>
      let outcome :=
        watched.bus.publish (living watched.expired) topic typeName
      some ({ watched with bus := outcome.1 }, enqueueOn bytes outcome.2)
  | .deliverInbound topic bytes =>
      let outcome := watched.bus.deliverInbound (living watched.expired) topic
      some ({ watched with bus := outcome.1 }, enqueueOn bytes outcome.2)
  | .expire sink =>
      some ({ watched with expired := sink :: watched.expired }, [])

/-- The bus as a machine. -/
def busMachine (Sink : Type) [DecidableEq Sink] :
    Machine (WatchedBus Sink) (BusInput Sink) (Enqueued Sink) where
  initial := fun watched => watched = ⟨.empty, []⟩
  step := WatchedBus.step

/-! ## The table -/

/-- A topic: whether it has been created, the type names it was used with
since then, and the registrations of its sinks. -/
structure IdealTopic (Sink : Type) where
  present : Bool := false
  uses : List Text := []
  subscribers : List Sink := []
  remotes : List Sink := []

/-- The first type name that a topic was used with. -/
def IdealTopic.type (topic : IdealTopic Sink) : Option Text :=
  topic.uses.head?

/-- Whether a topic has no type yet or this one. -/
def IdealTopic.admits (topic : IdealTopic Sink) (typeName : Text) : Bool :=
  topic.type = none ∨ topic.type = some typeName

/-- All topics, and the sinks that have expired. -/
structure IdealTable (Sink : Type) where
  topics : Text → IdealTopic Sink := fun _ => {}
  expired : List Sink := []

namespace IdealTable

/-- Change one topic. -/
def update (table : IdealTable Sink) (topic : Text)
    (change : IdealTopic Sink → IdealTopic Sink) : IdealTable Sink :=
  { table with
    topics := Function.update table.topics topic (change (table.topics topic)) }

/-- The sinks of a list that have not expired. -/
def live (table : IdealTable Sink) (sinks : List Sink) : List Sink :=
  sinks.filter fun sink => sink ∉ table.expired

/-- One operation of the table. -/
def step (table : IdealTable Sink) :
    BusInput Sink → Option (IdealTable Sink × List (Enqueued Sink))
  | .registerPublisher topic typeName =>
      some
        (table.update topic fun entry =>
          { entry with present := true, uses := entry.uses ++ [typeName] }, [])
  | .subscribe topic typeName sink =>
      some
        (table.update topic fun entry =>
          { entry with
            present := true
            uses := entry.uses ++ [typeName]
            subscribers :=
              if entry.admits typeName then entry.subscribers ++ [sink]
              else entry.subscribers }, [])
  | .addRemoteSink topic sink =>
      some
        (table.update topic fun entry =>
          { entry with present := true, remotes := entry.remotes ++ [sink] },
          [])
  | .removeRemoteSink topic sink =>
      some
        (table.update topic fun entry =>
          { entry with
            remotes := entry.remotes.filter fun other => other ≠ sink }, [])
  | .publish topic typeName bytes =>
      let entry := table.topics topic
      if entry.present then
        some
          (table.update topic fun entry =>
            { entry with uses := entry.uses ++ [typeName] },
            if entry.admits typeName then
              enqueueOn bytes
                (table.live entry.subscribers ++ table.live entry.remotes)
            else
              [])
      else
        some (table, [])
  | .deliverInbound topic bytes =>
      some
        (table, enqueueOn bytes (table.live (table.topics topic).subscribers))
  | .expire sink => some ({ table with expired := sink :: table.expired }, [])

end IdealTable

/-- The table as a machine. -/
def tableMachine (Sink : Type) [DecidableEq Sink] :
    Machine (IdealTable Sink) (BusInput Sink) (Enqueued Sink) where
  initial := fun table => table = {}
  step := IdealTable.step

/-! ## Entries and topics -/

/-- An entry of the bus, if there is one, stands for a topic of the table: the
expired sinks aside, it has the same sinks in the same order. -/
structure StandsFor (alive : Sink → Bool) (found : Option (TopicEntry Sink))
    (topic : IdealTopic Sink) : Prop where
  present : found.isSome = topic.present
  typeName : (found.getD {}).typeName = topic.type.getD []
  named : ∀ typeName ∈ topic.uses, typeName ≠ []
  sinks :
    collect alive (found.getD {}).sinks = collect alive topic.subscribers
  remoteSinks :
    collect alive (found.getD {}).remoteSinks = collect alive topic.remotes

omit [DecidableEq Sink]

theorem collect_collect (alive : Sink → Bool) (sinks : List Sink) :
    collect alive (collect alive sinks) = collect alive sinks := by
  simp [collect]

/-- Sinks that agree up to expiry do so later on. -/
theorem collect_eq_of_shrinks
    {alive later : Sink → Bool} (shrinks : ∀ sink, later sink → alive sink)
    {first second : List Sink} (same : collect alive first = collect alive second) :
    collect later first = collect later second := by
  have pruned :
      ∀ sinks : List Sink, collect later (collect alive sinks) =
        collect later sinks := by
    intro sinks
    simp only [collect, List.filter_filter]
    refine List.filter_congr fun sink _ => ?_
    cases kept : later sink with
    | false =>
        rfl
    | true =>
        simp [shrinks sink kept]
  rw [← pruned first, same, pruned]

theorem collect_append (alive : Sink → Bool) (first second : List Sink) :
    collect alive (first ++ second) =
      collect alive first ++ collect alive second :=
  List.filter_append first second

/-- The type check of the bus is that of the table. -/
theorem StandsFor.checkType
    {alive : Sink → Bool} {found : Option (TopicEntry Sink)}
    {topic : IdealTopic Sink} (stands : StandsFor alive found topic)
    (typeName : Text) :
    (Core.checkType (found.getD {}) typeName).2 = topic.admits typeName ∧
      (Core.checkType (found.getD {}) typeName).1.typeName =
        (topic.uses ++ [typeName]).head?.getD [] := by
  have current := stands.typeName
  unfold Core.checkType IdealTopic.admits
  unfold IdealTopic.type at current ⊢
  cases uses : topic.uses with
  | nil =>
      rw [uses] at current
      simp only [List.head?_nil, Option.getD_none] at current
      simp [current]
  | cons first rest =>
      have named := stands.named first (by simp [uses])
      rw [uses] at current
      simp only [List.head?_cons, Option.getD_some] at current
      simp only [current, if_neg named, List.cons_append, List.head?_cons]
      by_cases same : first = typeName
      · simp [same, current]
      · simp [same, current]

/-- Using a topic with a type name, whether it is accepted or not. -/
theorem StandsFor.used
    {alive : Sink → Bool} {found : Option (TopicEntry Sink)}
    {topic : IdealTopic Sink} (stands : StandsFor alive found topic)
    {typeName : Text} (named : typeName ≠ [])
    {sinks remoteSinks subscribers remotes : List Sink}
    (sameSinks : collect alive sinks = collect alive subscribers)
    (sameRemotes : collect alive remoteSinks = collect alive remotes) :
    StandsFor alive
      (some
        { (Core.checkType (found.getD {}) typeName).1 with
          sinks := sinks, remoteSinks := remoteSinks })
      { present := true
        uses := topic.uses ++ [typeName]
        subscribers := subscribers
        remotes := remotes } where
  present := rfl
  typeName := (stands.checkType typeName).2
  named other member := by
    rcases List.mem_append.mp member with member | member
    · exact stands.named other member
    · rw [List.mem_singleton.mp member]
      exact named
  sinks := sameSinks
  remoteSinks := sameRemotes

theorem checkType_eta (entry : TopicEntry Sink) (typeName : Text) :
    (Core.checkType entry typeName).1 =
      { (Core.checkType entry typeName).1 with
        sinks := entry.sinks, remoteSinks := entry.remoteSinks } := by
  unfold Core.checkType
  split_ifs <;> rfl

/-! ## The simulation -/

/-- A bus stands for a table. -/
structure Represents [DecidableEq Sink] (watched : WatchedBus Sink)
    (table : IdealTable Sink) : Prop where
  expired : watched.expired = table.expired
  topics :
    ∀ topic,
      StandsFor (living watched.expired) watched.bus.topics[topic]?
        (table.topics topic)

variable [DecidableEq Sink] {watched : WatchedBus Sink}
  {table : IdealTable Sink}

theorem Represents.store
    (represents : Represents watched table) {topic : Text}
    {entry : TopicEntry Sink} {change : IdealTopic Sink → IdealTopic Sink}
    (stands :
      StandsFor (living watched.expired) (some entry)
        (change (table.topics topic))) :
    Represents { watched with bus := watched.bus.store topic entry }
      (table.update topic change) := by
  refine ⟨represents.expired, fun other => ?_⟩
  simp only [LocalBus.getElem?_store, IdealTable.update]
  by_cases same : topic = other
  · subst same
    simpa using stands
  · rw [if_neg same, Function.update_of_ne (fun equal => same equal.symm)]
    exact represents.topics other

theorem Represents.live
    (represents : Represents watched table) (sinks : List Sink) :
    table.live sinks = collect (living watched.expired) sinks := by
  rw [represents.expired]
  rfl

theorem represents_registerPublisher
    (represents : Represents watched table) {topic typeName : Text}
    (named : typeName ≠ []) :
    Represents
      { watched with bus := watched.bus.registerPublisher topic typeName }
      (table.update topic fun entry =>
        { entry with present := true, uses := entry.uses ++ [typeName] }) := by
  have stands := represents.topics topic
  refine represents.store ?_
  rw [LocalBus.entry, Std.TreeMap.getD_eq_getD_getElem?, checkType_eta]
  exact stands.used named stands.sinks stands.remoteSinks

theorem represents_subscribe
    (represents : Represents watched table) {topic typeName : Text}
    (named : typeName ≠ []) (sink : Sink) :
    Represents
      { watched with bus := watched.bus.subscribe topic typeName sink }
      (table.update topic fun entry =>
        { entry with
          present := true
          uses := entry.uses ++ [typeName]
          subscribers :=
            if entry.admits typeName then entry.subscribers ++ [sink]
            else entry.subscribers }) := by
  have stands := represents.topics topic
  have accepted := (stands.checkType typeName).1
  unfold LocalBus.subscribe
  rw [LocalBus.entry, Std.TreeMap.getD_eq_getD_getElem?]
  dsimp only
  split_ifs with admitted
  · refine represents.store ?_
    rw [← accepted, if_pos admitted, LocalBus.checkType_sinks, checkType_eta]
    refine stands.used named ?_ stands.remoteSinks
    rw [collect_append, collect_append, stands.sinks]
  · refine represents.store ?_
    rw [← accepted, if_neg admitted, checkType_eta]
    exact stands.used named stands.sinks stands.remoteSinks

theorem represents_addRemoteSink
    (represents : Represents watched table) (topic : Text) (sink : Sink) :
    Represents { watched with bus := watched.bus.addRemoteSink topic sink }
      (table.update topic fun entry =>
        { entry with
          present := true, remotes := entry.remotes ++ [sink] }) := by
  have stands := represents.topics topic
  refine represents.store ?_
  rw [LocalBus.entry, Std.TreeMap.getD_eq_getD_getElem?]
  refine ⟨rfl, stands.typeName, stands.named, stands.sinks, ?_⟩
  rw [Option.getD_some, collect_append, collect_append, stands.remoteSinks]

/-- Removal prunes expired sinks as well, which nobody can tell. -/
theorem represents_removeRemoteSink
    (represents : Represents watched table) (topic : Text) (sink : Sink) :
    Represents
      { watched with
        bus :=
          watched.bus.removeRemoteSink (living watched.expired) topic sink }
      (table.update topic fun entry =>
        { entry with
          remotes := entry.remotes.filter fun other => other ≠ sink }) := by
  have stands := represents.topics topic
  have removed :
      ∀ sinks : List Sink,
        collect (living watched.expired)
            (sinks.filter fun other => other ≠ sink) =
          (collect (living watched.expired) sinks).filter fun other =>
            other ≠ sink := by
    intro sinks
    simp only [collect, List.filter_filter, Bool.and_comm]
  unfold LocalBus.removeRemoteSink
  cases found : watched.bus.topics[topic]? with
  | none =>
      rw [found] at stands
      refine ⟨represents.expired, fun other => ?_⟩
      by_cases same : topic = other
      · subst same
        dsimp only [IdealTable.update]
        rw [found, Function.update_self]
        refine ⟨stands.present, stands.typeName, stands.named, stands.sinks, ?_⟩
        rw [removed, ← stands.remoteSinks]
        rfl
      · simp only [IdealTable.update]
        rw [Function.update_of_ne (fun equal => same equal.symm)]
        exact represents.topics other
  | some entry =>
      rw [found] at stands
      refine represents.store
        ⟨stands.present, stands.typeName, stands.named, stands.sinks, ?_⟩
      rw [removed, ← stands.remoteSinks]
      simp [collect, Bool.and_comm, Bool.and_left_comm]

/-- What a publish on a present topic leaves: the type name was used, and
the expired sinks are gone if it was accepted. -/
theorem represents_published
    (represents : Represents watched table) {topic typeName : Text}
    (named : typeName ≠ []) {entry : TopicEntry Sink}
    (found : watched.bus.topics[topic]? = some entry)
    {sinks remoteSinks : List Sink}
    (sameSinks :
      collect (living watched.expired) sinks =
        collect (living watched.expired) entry.sinks)
    (sameRemotes :
      collect (living watched.expired) remoteSinks =
        collect (living watched.expired) entry.remoteSinks) :
    Represents
      { watched with
        bus :=
          watched.bus.store topic
            { (checkType entry typeName).1 with
              sinks := sinks, remoteSinks := remoteSinks } }
      (table.update topic fun entry =>
        { entry with uses := entry.uses ++ [typeName] }) := by
  have stands := represents.topics topic
  rw [found] at stands
  refine represents.store ?_
  rw [← stands.present]
  exact stands.used named (sameSinks.trans stands.sinks)
    (sameRemotes.trans stands.remoteSinks)

/-- A publish reaches the sinks that the table says. -/
theorem represents_publish
    (represents : Represents watched table) {topic typeName : Text}
    (named : typeName ≠ []) (bytes : Bytes) :
    ∃ reached,
      table.step (.publish topic typeName bytes) =
          some (reached,
            enqueueOn bytes
              (watched.bus.publish (living watched.expired) topic
                typeName).2) ∧
        Represents
          { watched with
            bus :=
              (watched.bus.publish (living watched.expired) topic
                typeName).1 } reached := by
  have stands := represents.topics topic
  have accepted := (stands.checkType typeName).1
  cases found : watched.bus.topics[topic]? with
  | none =>
      have missing : (table.topics topic).present = false := by
        rw [← stands.present, found]
        rfl
      refine ⟨table, ?_, ?_⟩
      · simp [LocalBus.publish, IdealTable.step, found, missing, enqueueOn]
      · simpa [LocalBus.publish, found] using represents
  | some entry =>
      rw [found] at stands accepted
      rw [Option.getD_some] at accepted
      have present : (table.topics topic).present = true :=
        stands.present.symm
      refine ⟨table.update topic fun entry =>
        { entry with uses := entry.uses ++ [typeName] }, ?_, ?_⟩
      · simp only [LocalBus.publish, IdealTable.step, found, present, if_true,
          LocalBus.checkType_sinks, LocalBus.checkType_remoteSinks,
          ← accepted, represents.live]
        by_cases admitted : (checkType entry typeName).2 = true
        · simp only [if_pos admitted, ← stands.sinks, ← stands.remoteSinks,
            Option.getD_some]
        · simp only [if_neg admitted, enqueueOn, List.map_nil]
      · by_cases admitted : (checkType entry typeName).2 = true
        · simp only [LocalBus.publish, found, if_pos admitted,
            LocalBus.checkType_sinks, LocalBus.checkType_remoteSinks]
          exact represents_published represents named found
            (collect_collect _ _) (collect_collect _ _)
        · simp only [LocalBus.publish, found, if_neg admitted]
          rw [checkType_eta]
          exact represents_published represents named found rfl rfl

/-- An inbound message reaches the accepted subscribers that live. -/
theorem represents_deliverInbound
    (represents : Represents watched table) (topic : Text) :
    (watched.bus.deliverInbound (living watched.expired) topic).2 =
        table.live (table.topics topic).subscribers ∧
      Represents
        { watched with
          bus :=
            (watched.bus.deliverInbound (living watched.expired) topic).1 }
        table := by
  have stands := represents.topics topic
  rw [represents.live, ← stands.sinks]
  unfold LocalBus.deliverInbound
  cases found : watched.bus.topics[topic]? with
  | none =>
      exact ⟨rfl, represents⟩
  | some entry =>
      rw [found] at stands
      refine ⟨rfl, represents.expired, fun other => ?_⟩
      dsimp only
      rw [LocalBus.getElem?_store]
      split_ifs with same
      · subst same
        refine ⟨stands.present, stands.typeName, stands.named, ?_,
          stands.remoteSinks⟩
        rw [← stands.sinks]
        exact collect_collect _ _
      · exact represents.topics other

theorem represents_expire
    (represents : Represents watched table) (sink : Sink) :
    Represents { watched with expired := sink :: watched.expired }
      { table with expired := sink :: table.expired } := by
  have shrinks :
      ∀ other, living (sink :: watched.expired) other →
        living watched.expired other := by
    intro other lives
    simp only [living, List.mem_cons, not_or, decide_eq_true_eq] at lives ⊢
    exact lives.2
  refine ⟨congrArg (List.cons sink) represents.expired, fun topic => ?_⟩
  have stands := represents.topics topic
  exact ⟨stands.present, stands.typeName, stands.named,
    collect_eq_of_shrinks shrinks stands.sinks,
    collect_eq_of_shrinks shrinks stands.remoteSinks⟩

/-- Every operation of the bus is an operation of the table with the same
calls of `enqueue`. -/
theorem Represents.step
    (represents : Represents watched table) {input : BusInput Sink}
    (typed : input.typed = true) {target : WatchedBus Sink}
    {emitted : List (Enqueued Sink)}
    (stepped : watched.step input = some (target, emitted)) :
    ∃ reached,
      table.step input = some (reached, emitted) ∧
        Represents target reached := by
  cases input with
  | registerPublisher topic typeName =>
      cases stepped
      exact ⟨_, rfl,
        represents_registerPublisher represents (of_decide_eq_true typed)⟩
  | subscribe topic typeName sink =>
      cases stepped
      exact ⟨_, rfl,
        represents_subscribe represents (of_decide_eq_true typed) sink⟩
  | addRemoteSink topic sink =>
      cases stepped
      exact ⟨_, rfl, represents_addRemoteSink represents topic sink⟩
  | removeRemoteSink topic sink =>
      cases stepped
      exact ⟨_, rfl, represents_removeRemoteSink represents topic sink⟩
  | publish topic typeName bytes =>
      cases stepped
      exact represents_publish represents (of_decide_eq_true typed) bytes
  | deliverInbound topic bytes =>
      cases stepped
      obtain ⟨targets, kept⟩ := represents_deliverInbound represents topic
      refine ⟨table, ?_, kept⟩
      rw [targets]
      rfl
  | expire sink =>
      cases stepped
      exact ⟨_, rfl, represents_expire represents sink⟩

/-! ## Types stay, and rejected operations change nothing -/

/-- No operation changes the type of a topic that has one. -/
theorem typeName_step
    {input : BusInput Sink} {target : WatchedBus Sink}
    {emitted : List (Enqueued Sink)} {topic : Text}
    (determined : (watched.bus.entry topic).typeName ≠ [])
    (stepped : watched.step input = some (target, emitted)) :
    (target.bus.entry topic).typeName =
      (watched.bus.entry topic).typeName := by
  cases input with
  | registerPublisher other typeName =>
      cases stepped
      simp [LocalBus.typeName_registerPublisher, determined]
  | subscribe other typeName sink =>
      cases stepped
      simp [LocalBus.typeName_subscribe, determined]
  | addRemoteSink other sink =>
      cases stepped
      dsimp only
      rw [LocalBus.entry_addRemoteSink]
      split_ifs <;> rfl
  | removeRemoteSink other sink =>
      cases stepped
      exact (watched.bus.within_removeRemoteSink _ other sink).typeName topic
  | publish other typeName bytes =>
      cases stepped
      simp [LocalBus.typeName_publish_eq, determined]
  | deliverInbound other bytes =>
      cases stepped
      exact (watched.bus.within_deliverInbound _ other).1.typeName topic
  | expire sink =>
      cases stepped
      rfl

omit [DecidableEq Sink] in
/-- An operation with another type than that of its topic leaves every entry
as it is. -/
theorem unchanged_of_rejected
    {bus : LocalBus Sink} {topic typeName : Text}
    (determined : (bus.entry topic).typeName ≠ [])
    (different : (bus.entry topic).typeName ≠ typeName)
    (alive : Sink → Bool) (sink : Sink) :
    (∀ other : Text,
        (bus.registerPublisher topic typeName).topics[other]? =
            bus.topics[other]? ∧
          (bus.subscribe topic typeName sink).topics[other]? =
            bus.topics[other]? ∧
          (bus.publish alive topic typeName).1.topics[other]? =
            bus.topics[other]?) ∧
      (bus.publish alive topic typeName).2 = [] := by
  cases found : bus.topics[topic]? with
  | none =>
      rw [LocalBus.entry_of_missing found] at determined
      exact absurd rfl determined
  | some entry =>
      have checked : checkType (bus.entry topic) typeName =
          (bus.entry topic, false) := by
        rw [checkType, if_neg determined, if_pos different]
      have kept : ∀ other : Text,
          (bus.store topic (bus.entry topic)).topics[other]? =
            bus.topics[other]? := by
        intro other
        rw [LocalBus.getElem?_store]
        split_ifs with same
        · rw [← same, found, LocalBus.entry_of_found found]
        · rfl
      have published :
          bus.publish alive topic typeName =
            (bus.store topic (bus.entry topic), []) := by
        rw [LocalBus.entry_of_found found] at checked
        simp [LocalBus.publish, found, checked, LocalBus.entry_of_found found]
      refine ⟨fun other => ⟨?_, ?_, ?_⟩, by rw [published]⟩
      · rw [LocalBus.registerPublisher, checked]
        exact kept other
      · simp only [LocalBus.subscribe, checked]
        exact kept other
      · rw [published]
        exact kept other

/-- Every run of the bus is a run of the table, with the same calls of
`enqueue`, as long as type names are not empty.  The bus then has the topics
and types of the table and its sinks, up to expired ones; a topic keeps its
type for ever; and an operation that is rejected changes nothing. -/
theorem bus_refines_table
    {inputs : List (BusInput Sink)} {events : List (Enqueued Sink)}
    (run :
      (busMachine Sink).Run (fun _ input => input.typed = true) inputs watched
        events) :
    (∃ table,
        (tableMachine Sink).Run Machine.free inputs table events ∧
          ∀ topic : Text,
            (topic ∈ watched.bus.topics ↔
                (table.topics topic).present = true) ∧
              (watched.bus.entry topic).typeName =
                (table.topics topic).type.getD [] ∧
              (table.topics topic).type ≠ some [] ∧
              collect (living watched.expired)
                  (watched.bus.entry topic).sinks =
                table.live (table.topics topic).subscribers ∧
              collect (living watched.expired)
                  (watched.bus.entry topic).remoteSinks =
                table.live (table.topics topic).remotes) ∧
      (∀ topic : Text, (watched.bus.entry topic).typeName ≠ [] →
        ∀ later target emitted,
          (busMachine Sink).exec Machine.free watched later =
            some (target, emitted) →
          (target.bus.entry topic).typeName =
            (watched.bus.entry topic).typeName) ∧
      ∀ (topic typeName : Text) (sink : Sink),
        (watched.bus.entry topic).typeName ≠ [] →
        (watched.bus.entry topic).typeName ≠ typeName →
        (∀ other : Text,
            (watched.bus.registerPublisher topic typeName).topics[other]? =
                watched.bus.topics[other]? ∧
              (watched.bus.subscribe topic typeName sink).topics[other]? =
                watched.bus.topics[other]? ∧
              (watched.bus.publish (living watched.expired) topic
                  typeName).1.topics[other]? =
                watched.bus.topics[other]?) ∧
          (watched.bus.publish (living watched.expired) topic typeName).2 =
            [] := by
  have simulated :
      ∃ table, (tableMachine Sink).Run Machine.free inputs table events ∧
        Represents watched table := by
    refine run.simulated Represents ?_
      fun _ _ _ _ _ represents typed stepped => represents.step typed stepped
    rintro watched rfl
    refine ⟨{}, rfl, rfl, fun topic => ?_⟩
    simp only [LocalBus.empty, Std.TreeMap.getElem?_emptyc]
    exact ⟨rfl, rfl, by simp, rfl, rfl⟩
  obtain ⟨table, tableRun, represents⟩ := simulated
  refine ⟨⟨table, tableRun, fun topic => ?_⟩, ?_, ?_⟩
  · have stands := represents.topics topic
    rw [LocalBus.entry, Std.TreeMap.getD_eq_getD_getElem?, represents.live,
      represents.live]
    refine ⟨?_, stands.typeName, ?_, stands.sinks, stands.remoteSinks⟩
    · rw [← stands.present]
      exact Std.TreeMap.mem_iff_isSome_getElem?
    · intro unnamed
      exact stands.named [] (List.mem_of_mem_head? unnamed) rfl
  · intro topic determined later target emitted executed
    have kept :=
      Machine.exec_invariant
        (fun state : WatchedBus Sink =>
          (state.bus.entry topic).typeName =
            (watched.bus.entry topic).typeName)
        rfl
        (fun state input target emitted _ same _ stepped =>
          (typeName_step (same ▸ determined) stepped).trans same)
        executed
    exact kept
  · intro topic typeName sink determined different
    exact unchanged_of_rejected determined different _ sink

/-- Sink 1 expires, sink 2 has the wrong type, and sinks 3 and 4 are reached
in this order. -/
theorem bus_refines_table_fourSinks :
    ∃ watched events,
      (busMachine Nat).Run (fun _ input => input.typed = true)
          [.addRemoteSink ['t'] 4, .subscribe ['t'] ['T'] 1,
            .subscribe ['t'] ['U'] 2, .subscribe ['t'] ['T'] 3, .expire 1,
            .publish ['t'] ['T'] [7]] watched events ∧
        events = [⟨3, [7]⟩, ⟨4, [7]⟩] ∧
        ∃ table,
          (tableMachine Nat).Run Machine.free
            [.addRemoteSink ['t'] 4, .subscribe ['t'] ['T'] 1,
              .subscribe ['t'] ['U'] 2, .subscribe ['t'] ['T'] 3, .expire 1,
              .publish ['t'] ['T'] [7]] table events := by
  obtain ⟨watched, events, run, checked⟩ :=
    Machine.run_of_exec_check (busMachine Nat)
      (fun _ input => input.typed = true)
      [.addRemoteSink ['t'] 4, .subscribe ['t'] ['T'] 1,
        .subscribe ['t'] ['U'] 2, .subscribe ['t'] ['T'] 3, .expire 1,
        .publish ['t'] ['T'] [7]]
      ⟨.empty, []⟩ (fun _ events => events = [⟨3, [7]⟩, ⟨4, [7]⟩]) rfl
      (by decide +kernel)
  obtain ⟨⟨table, tableRun, _⟩, _⟩ := bus_refines_table run
  exact ⟨watched, events, run, of_decide_eq_true checked, table, tableRun⟩

end Machines

end MiniMiddleware.Core
