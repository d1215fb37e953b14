import MiniMiddleware.Common.Text
import Std.Data.TreeMap.Lemmas

/-!
# The in-process bus

`LocalBus` distributes bytes by topic.  A topic keeps the type name it was
first used with, its local subscribers and its remote sinks.  The bus holds
its sinks by weak pointers, so each operation that walks a list of sinks is
given the predicate that says which of them are still alive.

The model is generic in the sinks: `publish` and `deliver_inbound` return the
sinks on which `enqueue` is then called, outside the lock and in this order.
-/

namespace MiniMiddleware.Core

/-- `LocalBus::TopicEntry`; an empty type name is undetermined. -/
structure TopicEntry (Sink : Type) where
  typeName : Text := []
  sinks : List Sink := []
  remoteSinks : List Sink := []
  deriving DecidableEq, Repr

/-- The topics of one process. -/
structure LocalBus (Sink : Type) where
  topics : Std.TreeMap Text (TopicEntry Sink)

/-- `check_type`: the entry afterwards, and whether the type is accepted. -/
def checkType {Sink : Type} (entry : TopicEntry Sink) (typeName : Text) :
    TopicEntry Sink × Bool :=
  if entry.typeName = [] then
    ({ entry with typeName := typeName }, true)
  else if entry.typeName ≠ typeName then
    (entry, false)
  else
    (entry, true)

/-- `collect`: the sinks that are still alive.  They are both the targets and
what remains of the list. -/
def collect {Sink : Type} (alive : Sink → Bool) (sinks : List Sink) :
    List Sink :=
  sinks.filter alive

namespace LocalBus

variable {Sink : Type}

/-- A bus without topics. -/
def empty : LocalBus Sink :=
  ⟨∅⟩

/-- `topics_[topic]`, which creates a missing entry. -/
def entry (bus : LocalBus Sink) (topic : Text) : TopicEntry Sink :=
  bus.topics.getD topic {}

/-- Replace the entry of one topic. -/
def store (bus : LocalBus Sink) (topic : Text) (entry : TopicEntry Sink) :
    LocalBus Sink :=
  ⟨bus.topics.insert topic entry⟩

/-- `register_publisher`. -/
def registerPublisher (bus : LocalBus Sink) (topic typeName : Text) :
    LocalBus Sink :=
  bus.store topic (checkType (bus.entry topic) typeName).1

/-- `subscribe`: a sink of another type is not added. -/
def subscribe (bus : LocalBus Sink) (topic typeName : Text) (sink : Sink) :
    LocalBus Sink :=
  let checked := checkType (bus.entry topic) typeName
  if checked.2 then
    bus.store topic { checked.1 with sinks := checked.1.sinks ++ [sink] }
  else
    bus.store topic checked.1

/-- `publish`: the sinks that receive the bytes. -/
def publish (bus : LocalBus Sink) (alive : Sink → Bool)
    (topic typeName : Text) : LocalBus Sink × List Sink :=
  match bus.topics[topic]? with
  | none => (bus, [])
  | some entry =>
      let checked := checkType entry typeName
      if checked.2 then
        let sinks := collect alive checked.1.sinks
        let remoteSinks := collect alive checked.1.remoteSinks
        (bus.store topic
            { checked.1 with sinks := sinks, remoteSinks := remoteSinks },
          sinks ++ remoteSinks)
      else
        (bus.store topic checked.1, [])

/-- `add_remote_sink`, which does not look at the type. -/
def addRemoteSink (bus : LocalBus Sink) (topic : Text) (sink : Sink) :
    LocalBus Sink :=
  let entry := bus.entry topic
  bus.store topic { entry with remoteSinks := entry.remoteSinks ++ [sink] }

/-- `remove_remote_sink`, which also removes expired sinks. -/
def removeRemoteSink [DecidableEq Sink] (bus : LocalBus Sink)
    (alive : Sink → Bool) (topic : Text) (sink : Sink) : LocalBus Sink :=
  match bus.topics[topic]? with
  | none => bus
  | some entry =>
      bus.store topic
        { entry with
          remoteSinks :=
            entry.remoteSinks.filter fun other => alive other && other ≠ sink }

/-- `deliver_inbound`: only local subscribers receive the bytes. -/
def deliverInbound (bus : LocalBus Sink) (alive : Sink → Bool) (topic : Text) :
    LocalBus Sink × List Sink :=
  match bus.topics[topic]? with
  | none => (bus, [])
  | some entry =>
      let sinks := collect alive entry.sinks
      (bus.store topic { entry with sinks := sinks }, sinks)

/-- Whether a publish with this type name passes the type check. -/
def accepts (bus : LocalBus Sink) (topic typeName : Text) : Bool :=
  match bus.topics[topic]? with
  | none => false
  | some entry => (checkType entry typeName).2

/-! ## Lookups -/

theorem getElem?_store
    (bus : LocalBus Sink) (topic other : Text) (entry : TopicEntry Sink) :
    (bus.store topic entry).topics[other]? =
      if topic = other then some entry else bus.topics[other]? := by
  simp [store, Std.TreeMap.getElem?_insert]

@[simp]
theorem entry_store
    (bus : LocalBus Sink) (topic other : Text) (entry : TopicEntry Sink) :
    (bus.store topic entry).entry other =
      if topic = other then entry else bus.entry other := by
  simp only [LocalBus.entry, Std.TreeMap.getD_eq_getD_getElem?, getElem?_store]
  split <;> rfl

theorem entry_of_found
    {bus : LocalBus Sink} {topic : Text} {entry : TopicEntry Sink}
    (found : bus.topics[topic]? = some entry) :
    bus.entry topic = entry := by
  simp [LocalBus.entry, Std.TreeMap.getD_eq_getD_getElem?, found]

theorem entry_of_missing
    {bus : LocalBus Sink} {topic : Text}
    (missing : bus.topics[topic]? = none) :
    bus.entry topic = {} := by
  simp [LocalBus.entry, Std.TreeMap.getD_eq_getD_getElem?, missing]

@[simp]
theorem checkType_sinks (entry : TopicEntry Sink) (typeName : Text) :
    (checkType entry typeName).1.sinks = entry.sinks := by
  unfold checkType
  split_ifs <;> rfl

@[simp]
theorem checkType_remoteSinks (entry : TopicEntry Sink) (typeName : Text) :
    (checkType entry typeName).1.remoteSinks = entry.remoteSinks := by
  unfold checkType
  split_ifs <;> rfl

/-- The sinks reached by a publish, read off the entry of its topic. -/
theorem publish_targets
    (bus : LocalBus Sink) (alive : Sink → Bool) (topic typeName : Text) :
    (bus.publish alive topic typeName).2 =
      if bus.accepts topic typeName then
        collect alive (bus.entry topic).sinks ++
          collect alive (bus.entry topic).remoteSinks
      else
        [] := by
  unfold publish accepts
  cases found : bus.topics[topic]? with
  | none =>
      rfl
  | some entry =>
      dsimp only
      rw [entry_of_found found]
      by_cases accepted : (checkType entry typeName).2
      · simp [accepted]
      · simp [accepted]

/-- A publish leaves the sinks of a topic alone or drops the expired ones. -/
theorem publish_entry
    (bus : LocalBus Sink) (alive : Sink → Bool) (topic typeName other : Text) :
    let after := (bus.publish alive topic typeName).1.entry other
    (after.sinks = (bus.entry other).sinks ∧
        after.remoteSinks = (bus.entry other).remoteSinks) ∨
      (after.sinks = collect alive (bus.entry other).sinks ∧
        after.remoteSinks = collect alive (bus.entry other).remoteSinks) := by
  unfold publish
  cases found : bus.topics[topic]? with
  | none =>
      exact Or.inl ⟨rfl, rfl⟩
  | some entry =>
      by_cases same : topic = other
      · subst same
        rw [entry_of_found found]
        by_cases accepted : (checkType entry typeName).2
        · right
          simp [accepted]
        · left
          simp [accepted]
      · left
        by_cases accepted : (checkType entry typeName).2
        · simp [accepted, same]
        · simp [accepted, same]

/-! ## Buses that only lose sinks -/

/-- A sink of a topic, local or remote. -/
def Has (bus : LocalBus Sink) (topic : Text) (sink : Sink) : Prop :=
  sink ∈ (bus.entry topic).sinks ∨ sink ∈ (bus.entry topic).remoteSinks

/-- A bus whose lists have lost sinks at most. -/
structure Pruned (after before : LocalBus Sink) : Prop where
  sinks :
    ∀ topic, (after.entry topic).sinks.Sublist (before.entry topic).sinks
  remoteSinks :
    ∀ topic,
      (after.entry topic).remoteSinks.Sublist (before.entry topic).remoteSinks

theorem Pruned.refl (bus : LocalBus Sink) : bus.Pruned bus :=
  ⟨fun _ => List.Sublist.refl _, fun _ => List.Sublist.refl _⟩

theorem Pruned.trans
    {first second third : LocalBus Sink}
    (upper : second.Pruned first) (lower : third.Pruned second) :
    third.Pruned first :=
  ⟨fun topic => (lower.sinks topic).trans (upper.sinks topic),
    fun topic => (lower.remoteSinks topic).trans (upper.remoteSinks topic)⟩

theorem Pruned.has
    {after before : LocalBus Sink} (pruned : after.Pruned before)
    {topic : Text} {sink : Sink} (has : after.Has topic sink) :
    before.Has topic sink :=
  has.imp (fun member => (pruned.sinks topic).subset member)
    fun member => (pruned.remoteSinks topic).subset member

theorem pruned_store
    {bus : LocalBus Sink} {topic : Text} {entry : TopicEntry Sink}
    (sinks : entry.sinks.Sublist (bus.entry topic).sinks)
    (remoteSinks : entry.remoteSinks.Sublist (bus.entry topic).remoteSinks) :
    (bus.store topic entry).Pruned bus := by
  refine ⟨fun other => ?_, fun other => ?_⟩
  · rw [entry_store]
    split_ifs with same
    · exact same ▸ sinks
    · exact List.Sublist.refl _
  · rw [entry_store]
    split_ifs with same
    · exact same ▸ remoteSinks
    · exact List.Sublist.refl _

theorem pruned_registerPublisher
    (bus : LocalBus Sink) (topic typeName : Text) :
    (bus.registerPublisher topic typeName).Pruned bus := by
  refine pruned_store ?_ ?_
  · rw [checkType_sinks]
  · rw [checkType_remoteSinks]

theorem pruned_publish
    (bus : LocalBus Sink) (alive : Sink → Bool) (topic typeName : Text) :
    (bus.publish alive topic typeName).1.Pruned bus := by
  refine ⟨fun other => ?_, fun other => ?_⟩
  · rcases bus.publish_entry alive topic typeName other with
      ⟨kept, _⟩ | ⟨collected, _⟩
    · rw [kept]
    · rw [collected]
      exact List.filter_sublist
  · rcases bus.publish_entry alive topic typeName other with
      ⟨_, kept⟩ | ⟨_, collected⟩
    · rw [kept]
    · rw [collected]
      exact List.filter_sublist

theorem pruned_deliverInbound
    (bus : LocalBus Sink) (alive : Sink → Bool) (topic : Text) :
    (bus.deliverInbound alive topic).1.Pruned bus := by
  unfold deliverInbound
  split
  · exact Pruned.refl bus
  · rename_i entry found
    refine pruned_store ?_ ?_
    · rw [entry_of_found found]
      exact List.filter_sublist
    · rw [entry_of_found found]

theorem pruned_removeRemoteSink
    [DecidableEq Sink] (bus : LocalBus Sink) (alive : Sink → Bool)
    (topic : Text) (sink : Sink) :
    (bus.removeRemoteSink alive topic sink).Pruned bus := by
  unfold removeRemoteSink
  split
  · exact Pruned.refl bus
  · rename_i entry found
    refine pruned_store ?_ ?_
    · rw [entry_of_found found]
    · rw [entry_of_found found]
      exact List.filter_sublist

/-- A bus with the types of another and no further sinks. -/
structure Within (after before : LocalBus Sink) :
    Prop where
  typeName :
    ∀ topic, (after.entry topic).typeName = (before.entry topic).typeName
  sinks : ∀ topic, (after.entry topic).sinks ⊆ (before.entry topic).sinks
  remoteSinks :
    ∀ topic, (after.entry topic).remoteSinks ⊆ (before.entry topic).remoteSinks

theorem Within.refl (bus : LocalBus Sink) :
    bus.Within bus :=
  ⟨fun _ => rfl, fun _ => List.Subset.refl _, fun _ => List.Subset.refl _⟩

theorem Within.trans
    {first second third : LocalBus Sink}
    (upper : second.Within first) (lower : third.Within second) :
    third.Within first :=
  ⟨fun topic => (lower.typeName topic).trans (upper.typeName topic),
    fun topic => List.Subset.trans (lower.sinks topic) (upper.sinks topic),
    fun topic =>
      List.Subset.trans (lower.remoteSinks topic) (upper.remoteSinks topic)⟩

theorem Within.has
    {after before : LocalBus Sink} (within : after.Within before)
    {topic : Text} {sink : Sink} (has : after.Has topic sink) :
    before.Has topic sink :=
  has.imp (fun member => within.sinks topic member)
    fun member => within.remoteSinks topic member

theorem Pruned.within
    {after before : LocalBus Sink} (pruned : after.Pruned before)
    (typeName :
      ∀ topic, (after.entry topic).typeName = (before.entry topic).typeName) :
    after.Within before :=
  ⟨typeName, fun topic => (pruned.sinks topic).subset,
    fun topic => (pruned.remoteSinks topic).subset⟩

theorem typeName_store
    {bus : LocalBus Sink} {topic : Text} {entry : TopicEntry Sink}
    (typeName : entry.typeName = (bus.entry topic).typeName) (other : Text) :
    ((bus.store topic entry).entry other).typeName =
      (bus.entry other).typeName := by
  rw [entry_store]
  split_ifs with same
  · exact same ▸ typeName
  · rfl

theorem within_deliverInbound
    (bus : LocalBus Sink) (alive : Sink → Bool) (topic : Text) :
    (bus.deliverInbound alive topic).1.Within bus ∧
      (bus.deliverInbound alive topic).2 ⊆ (bus.entry topic).sinks := by
  have pruned := bus.pruned_deliverInbound alive topic
  unfold deliverInbound at pruned ⊢
  split at pruned
  · exact ⟨Within.refl bus, List.nil_subset _⟩
  · rename_i entry found
    have same := entry_of_found found
    refine ⟨pruned.within (typeName_store ?_), ?_⟩
    · rw [same]
    · rw [same]
      exact List.filter_sublist.subset

theorem within_removeRemoteSink
    [DecidableEq Sink] (bus : LocalBus Sink) (alive : Sink → Bool)
    (topic : Text) (sink : Sink) :
    (bus.removeRemoteSink alive topic sink).Within bus := by
  have pruned := bus.pruned_removeRemoteSink alive topic sink
  unfold removeRemoteSink at pruned ⊢
  split at pruned
  · exact Within.refl bus
  · rename_i entry found
    refine pruned.within (typeName_store ?_)
    rw [entry_of_found found]

theorem entry_addRemoteSink
    (bus : LocalBus Sink) (topic other : Text) (sink : Sink) :
    (bus.addRemoteSink topic sink).entry other =
      if topic = other then
        { bus.entry other with
          remoteSinks := (bus.entry other).remoteSinks ++ [sink] }
      else
        bus.entry other := by
  rw [addRemoteSink, entry_store]
  by_cases equal : topic = other
  · subst equal
    simp
  · simp [equal]

theorem has_addRemoteSink
    {bus : LocalBus Sink} {topic other : Text} {added sink : Sink}
    (has : (bus.addRemoteSink topic added).Has other sink) :
    bus.Has other sink ∨ topic = other ∧ sink = added := by
  unfold Has at has ⊢
  rw [entry_addRemoteSink] at has
  by_cases same : topic = other
  · rw [if_pos same] at has
    rcases has with isLocal | isRemote
    · exact Or.inl (Or.inl isLocal)
    · rcases List.mem_append.mp isRemote with old | new
      · exact Or.inl (Or.inr old)
      · exact Or.inr ⟨same, List.mem_singleton.mp new⟩
  · rw [if_neg same] at has
    exact Or.inl has

theorem has_registerPublisher
    {bus : LocalBus Sink} {topic typeName other : Text} {sink : Sink}
    (has : (bus.registerPublisher topic typeName).Has other sink) :
    bus.Has other sink :=
  (bus.pruned_registerPublisher topic typeName).has has

theorem has_subscribe
    {bus : LocalBus Sink} {topic typeName other : Text} {added sink : Sink}
    (has : (bus.subscribe topic typeName added).Has other sink) :
    bus.Has other sink ∨ topic = other ∧ sink = added := by
  unfold Has subscribe at *
  dsimp only at has
  by_cases same : topic = other
  · subst same
    split at has
    · simp only [entry_store, if_true, checkType_sinks, checkType_remoteSinks,
        List.mem_append, List.mem_singleton] at has
      tauto
    · simp only [entry_store, if_true, checkType_sinks, checkType_remoteSinks]
        at has
      exact Or.inl has
  · split at has <;> simpa [same] using has

theorem has_publish
    {bus : LocalBus Sink} {alive : Sink → Bool} {topic typeName other : Text}
    {sink : Sink}
    (has : (bus.publish alive topic typeName).1.Has other sink) :
    bus.Has other sink :=
  (bus.pruned_publish alive topic typeName).has has

theorem has_of_target
    {bus : LocalBus Sink} {alive : Sink → Bool} {topic typeName : Text}
    {sink : Sink} (target : sink ∈ (bus.publish alive topic typeName).2) :
    bus.accepts topic typeName ∧ bus.Has topic sink := by
  rw [publish_targets] at target
  split at target
  · rename_i accepted
    refine ⟨accepted, ?_⟩
    exact (List.mem_append.mp target).imp List.mem_of_mem_filter
      List.mem_of_mem_filter
  · cases target

/-! ## Exactly the expected remote sinks -/

/-- The remote sinks of each topic are the expected ones, each once. -/
def RemoteSinksAre (bus : LocalBus Sink) (expected : Text → Sink → Prop) :
    Prop :=
  ∀ topic,
    (bus.entry topic).remoteSinks.Nodup ∧
      ∀ sink, sink ∈ (bus.entry topic).remoteSinks ↔ expected topic sink

theorem RemoteSinksAre.congr
    {bus : LocalBus Sink} {expected other : Text → Sink → Prop}
    (holds : bus.RemoteSinksAre expected)
    (same : ∀ topic sink, other topic sink ↔ expected topic sink) :
    bus.RemoteSinksAre other := by
  intro topic
  refine ⟨(holds topic).1, fun sink => ?_⟩
  rw [(holds topic).2, same]

theorem RemoteSinksAre.addRemoteSink
    {bus : LocalBus Sink} {expected : Text → Sink → Prop}
    (holds : bus.RemoteSinksAre expected) {topic : Text} {sink : Sink}
    (fresh : ¬ expected topic sink) :
    (bus.addRemoteSink topic sink).RemoteSinksAre fun other handle =>
      expected other handle ∨ other = topic ∧ handle = sink := by
  intro other
  rw [entry_addRemoteSink]
  by_cases same : topic = other
  · subst same
    simp only [if_true]
    refine ⟨?_, fun handle => ?_⟩
    · refine
        List.nodup_append.mpr
          ⟨(holds topic).1, List.pairwise_singleton _ _, ?_⟩
      intro first firstMember second secondMember equal
      rw [List.mem_singleton.mp secondMember] at equal
      rw [equal, (holds topic).2] at firstMember
      exact fresh firstMember
    · rw [List.mem_append, List.mem_singleton, (holds topic).2]
      simp
  · have reversed : ¬ other = topic := fun equal => same equal.symm
    simp only [if_neg same, reversed, false_and, or_false]
    exact holds other

theorem entry_removeRemoteSink
    [DecidableEq Sink] (bus : LocalBus Sink) (alive : Sink → Bool)
    (topic other : Text) (sink : Sink) :
    (bus.removeRemoteSink alive topic sink).entry other =
      if topic = other then
        { bus.entry other with
          remoteSinks :=
            (bus.entry other).remoteSinks.filter fun handle =>
              alive handle && handle ≠ sink }
      else
        bus.entry other := by
  unfold removeRemoteSink
  by_cases same : topic = other
  · subst same
    cases found : bus.topics[topic]? with
    | none =>
        rw [if_pos rfl, entry_of_missing found]
        rfl
    | some entry =>
        simp [entry_of_found found]
  · rw [if_neg same]
    split
    · rfl
    · simp [same]

theorem RemoteSinksAre.removeRemoteSink
    [DecidableEq Sink] {bus : LocalBus Sink} {expected : Text → Sink → Prop}
    (holds : bus.RemoteSinksAre expected) {alive : Sink → Bool} {topic : Text}
    (living : ∀ handle, expected topic handle → alive handle = true)
    (sink : Sink) :
    (bus.removeRemoteSink alive topic sink).RemoteSinksAre fun other handle =>
      expected other handle ∧ ¬ (other = topic ∧ handle = sink) := by
  intro other
  rw [entry_removeRemoteSink]
  by_cases same : topic = other
  · subst same
    simp only [if_true]
    refine ⟨(holds topic).1.filter _, fun handle => ?_⟩
    rw [List.mem_filter, (holds topic).2]
    constructor
    · rintro ⟨isExpected, kept⟩
      refine ⟨isExpected, fun removed => ?_⟩
      simp [removed.2] at kept
    · rintro ⟨isExpected, kept⟩
      refine ⟨isExpected, ?_⟩
      simpa [living handle isExpected] using kept
  · have reversed : ¬ other = topic := fun equal => same equal.symm
    simp only [if_neg same, reversed, false_and, not_false_eq_true, and_true]
    exact holds other

/-! ## Types -/

/-- The type of an entry after a check: the first type it is used with. -/
theorem checkType_typeName (entry : TopicEntry Sink) (typeName : Text) :
    (checkType entry typeName).1.typeName =
      if entry.typeName = [] then typeName else entry.typeName := by
  unfold checkType
  split_ifs <;> rfl

/-- An accepted type is the type of the entry afterwards. -/
theorem typeName_of_accepted
    {entry : TopicEntry Sink} {typeName : Text}
    (accepted : (checkType entry typeName).2) :
    (checkType entry typeName).1.typeName = typeName := by
  unfold checkType at accepted ⊢
  split_ifs at accepted ⊢ with undetermined different
  · rfl
  · exact not_not.mp different

theorem typeName_registerPublisher
    (bus : LocalBus Sink) (topic typeName other : Text) :
    ((bus.registerPublisher topic typeName).entry other).typeName =
      if topic = other ∧ (bus.entry other).typeName = [] then typeName
      else (bus.entry other).typeName := by
  rw [registerPublisher, entry_store]
  by_cases same : topic = other
  · subst same
    simp [checkType_typeName]
  · simp [same]

theorem typeName_subscribe
    (bus : LocalBus Sink) (topic typeName other : Text) (sink : Sink) :
    ((bus.subscribe topic typeName sink).entry other).typeName =
      if topic = other ∧ (bus.entry other).typeName = [] then typeName
      else (bus.entry other).typeName := by
  unfold subscribe
  dsimp only
  by_cases same : topic = other
  · subst same
    split <;> simp [checkType_typeName]
  · split <;> simp [same]

/-- A sink is only added if the topic then has its type. -/
theorem has_subscribe_typed
    {bus : LocalBus Sink} {topic typeName other : Text} {added sink : Sink}
    (has : (bus.subscribe topic typeName added).Has other sink) :
    bus.Has other sink ∨
      topic = other ∧ sink = added ∧
        ((bus.subscribe topic typeName added).entry topic).typeName =
          typeName := by
  rcases has_subscribe has with old | ⟨same, isNew⟩
  · exact Or.inl old
  · by_cases accepted : (checkType (bus.entry topic) typeName).2
    · refine Or.inr ⟨same, isNew, ?_⟩
      simp only [subscribe, if_pos accepted, entry_store, if_true]
      exact typeName_of_accepted accepted
    · left
      subst same
      simpa [subscribe, accepted, Has] using has

/-- A publish on a topic that exists gives it a type, unless it has one. -/
theorem typeName_publish_eq
    (bus : LocalBus Sink) (alive : Sink → Bool) (topic typeName other : Text) :
    ((bus.publish alive topic typeName).1.entry other).typeName =
      if topic = other ∧ topic ∈ bus.topics ∧ (bus.entry other).typeName = []
      then typeName
      else (bus.entry other).typeName := by
  unfold publish
  cases found : bus.topics[topic]? with
  | none =>
      have absent : topic ∉ bus.topics := by
        simp [Std.TreeMap.mem_iff_isSome_getElem?, found]
      simp [absent]
  | some entry =>
      have present : topic ∈ bus.topics := by
        simp [Std.TreeMap.mem_iff_isSome_getElem?, found]
      by_cases same : topic = other
      · subst same
        rw [entry_of_found found]
        by_cases accepted : (checkType entry typeName).2
        · simp [accepted, checkType_typeName, present]
        · simp [accepted, checkType_typeName, present]
      · by_cases accepted : (checkType entry typeName).2
        · simp [accepted, same]
        · simp [accepted, same]

theorem typeName_publish
    {bus : LocalBus Sink} {topic : Text}
    (determined : (bus.entry topic).typeName ≠ []) (alive : Sink → Bool)
    (typeName other : Text) :
    ((bus.publish alive topic typeName).1.entry other).typeName =
      (bus.entry other).typeName := by
  rw [typeName_publish_eq, if_neg]
  rintro ⟨rfl, _, undetermined⟩
  exact determined undetermined

theorem typeName_of_accepts
    {bus : LocalBus Sink} {topic typeName : Text}
    (determined : (bus.entry topic).typeName ≠ [])
    (accepted : bus.accepts topic typeName) :
    (bus.entry topic).typeName = typeName := by
  unfold accepts at accepted
  split at accepted
  · cases accepted
  · rename_i entry found
    have isType := typeName_of_accepted accepted
    rw [checkType_typeName] at isType
    rw [entry_of_found found] at determined ⊢
    rwa [if_neg determined] at isType

end LocalBus

end MiniMiddleware.Core
