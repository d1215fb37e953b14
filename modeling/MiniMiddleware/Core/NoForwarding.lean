import MiniMiddleware.Core.Network
import MiniMiddleware.Core.SegmentOwners
import MiniMiddleware.Library.Lists
import Mathlib.Data.List.InsertIdx

/-!
# No forwarding

Messages leave a node only through sinks in the second list of a topic, and
only `publish` reads that list.  Over all interleavings and all topologies:
what is in a TCP stream or in a ring was sent by a `publish` of the node it
comes from, a `publish` sends at most once per remote sink that was registered
when it collected its targets, and `deliver_inbound` never sends.  So there is
no second hop, even where nodes publish to each other on one topic.
-/

namespace MiniMiddleware.Core

open MiniMiddleware.Library MiniMiddleware.Discovery MiniMiddleware.Transport

/-! ## Sends and calls -/

/-- The sinks that a call has sent to so far. -/
def sentBy (index : Nat) (sends : List Send) : List SinkHandle :=
  (sends.filter fun send => send.call = index).map Send.sink

theorem sentBy_append (index : Nat) (sends later : List Send) :
    sentBy index (sends ++ later) =
      sentBy index sends ++ sentBy index later := by
  rw [sentBy, List.filter_append, List.map_append, sentBy, sentBy]

/-- What a call sends with one `enqueue`. -/
theorem sentBy_enqueue
    (other index pid : Nat) (sink : SinkHandle) (bytes : Bytes) :
    sentBy other (if sink.leaves then [⟨index, pid, sink, bytes⟩] else []) =
      if index = other then (if sink.leaves then [sink] else []) else [] := by
  by_cases same : index = other
  · split_ifs <;> simp [sentBy, same]
  · split_ifs <;> simp [sentBy, same]

namespace BusCall

/-- What a call has sent and may still send: nothing if it is inbound, and
else at most once to each sink that was registered. -/
def Accounted (call : BusCall) (sent : List SinkHandle) : Prop :=
  match call.origin with
  | .inbound => sent = [] ∧ ∀ target ∈ call.remaining, target.1.leaves = false
  | .publish _ _ bytes registered =>
      registered.Nodup ∧
        (sent ++
          (call.remaining.map Prod.fst).filter SinkHandle.leaves).Sublist
            registered ∧
        ∀ target ∈ call.remaining, target.2 = bytes

/-- The next `enqueue` moves a sink from what may be sent to what was. -/
theorem Accounted.enqueue
    {call : BusCall} {sent : List SinkHandle} {sink : SinkHandle}
    {bytes : Bytes} {later : List (SinkHandle × Bytes)}
    (accounted : call.Accounted sent)
    (remaining : call.remaining = (sink, bytes) :: later) :
    call.advance.Accounted (sent ++ if sink.leaves then [sink] else []) := by
  unfold Accounted advance at *
  dsimp only
  rw [remaining] at accounted ⊢
  dsimp only [List.tail_cons]
  split at accounted
  · obtain ⟨nothing, stay⟩ := accounted
    have stays : sink.leaves = false := stay (sink, bytes) List.mem_cons_self
    refine ⟨by simp [nothing, stays], fun target member => ?_⟩
    exact stay target (List.mem_cons_of_mem _ member)
  · obtain ⟨nodup, within, same⟩ := accounted
    refine ⟨nodup, ?_, fun target member =>
      same target (List.mem_cons_of_mem _ member)⟩
    by_cases leaves : sink.leaves = true
    · simpa [leaves] using within
    · simpa [leaves] using within

/-- A call that sends is a `publish`, and sends its bytes to a sink that was
registered. -/
theorem Accounted.sends
    {call : BusCall} {sent : List SinkHandle} {sink : SinkHandle}
    {bytes : Bytes} {later : List (SinkHandle × Bytes)}
    (accounted : call.Accounted sent)
    (remaining : call.remaining = (sink, bytes) :: later)
    (leaves : sink.leaves = true) :
    ∃ topic typeName registered,
      call.origin = .publish topic typeName bytes registered ∧
        sink ∈ registered := by
  unfold Accounted at accounted
  rw [remaining] at accounted
  split at accounted
  · have stays : sink.leaves = false :=
      accounted.2 (sink, bytes) List.mem_cons_self
    rw [leaves] at stays
    cases stays
  · rename_i topic typeName published registered origin
    obtain ⟨_, within, same⟩ := accounted
    have equal : bytes = published := same (sink, bytes) List.mem_cons_self
    refine ⟨topic, typeName, registered, equal ▸ origin, within.subset ?_⟩
    simp [leaves]

end BusCall

theorem Send.leaves_of_frame
    {carried : Frame} (send : Send) (framed : send.frame = some carried) :
    send.sink.leaves = true := by
  unfold Send.frame frameOf at framed
  split at framed
  · rename_i isRemote
    rw [isRemote]
    rfl
  · cases framed

/-- The call is a `publish` of the node that a send comes from, and the send
passes its bytes to a sink that was registered. -/
def BusCall.Made (call : BusCall) (send : Send) : Prop :=
  call.pid = send.pid ∧
    ∃ topic typeName registered,
      call.origin = .publish topic typeName send.bytes registered ∧
        send.sink ∈ registered

namespace Network

/-- A call keeps its node and its origin. -/
theorem CallStep.persists
    {network : Network} {input : NetworkInput} {calls : List BusCall}
    {sent : List Send} (change : network.CallStep input calls sent)
    {index : Nat} {old : BusCall} (found : network.calls[index]? = some old) :
    ∃ call, calls[index]? = some call ∧ call.pid = old.pid ∧
      call.origin = old.origin := by
  cases change with
  | kept =>
      exact ⟨old, found, rfl, rfl⟩
  | began call _ =>
      exact ⟨old, getElem?_concat_eq_some.mpr (Or.inl found), rfl, rfl⟩
  | enqueued position call sink bytes later _ _ =>
      refine ⟨_, getElem?_modify_eq_some.mpr ⟨old, found, rfl⟩, ?_⟩
      split_ifs <;> exact ⟨rfl, rfl⟩
  | finished position =>
      refine ⟨_, getElem?_modify_eq_some.mpr ⟨old, found, rfl⟩, ?_⟩
      split_ifs <;> exact ⟨rfl, rfl⟩

/-- A call has begun before, with the same node and origin, or begins now. -/
theorem CallStep.began_before
    {network : Network} {input : NetworkInput} {calls : List BusCall}
    {sent : List Send} (change : network.CallStep input calls sent)
    {index : Nat} {call : BusCall} (found : calls[index]? = some call) :
    (∃ old, network.calls[index]? = some old ∧ old.pid = call.pid ∧
        old.origin = call.origin) ∨
      index = network.calls.length ∧ network.Fresh input call := by
  cases change with
  | kept =>
      exact Or.inl ⟨call, found, rfl, rfl⟩
  | began added fresh =>
      rcases getElem?_concat_eq_some.mp found with old | ⟨rfl, rfl⟩
      · exact Or.inl ⟨call, old, rfl, rfl⟩
      · exact Or.inr ⟨rfl, fresh⟩
  | enqueued position _ _ _ _ _ _ =>
      obtain ⟨before, earlier, rfl⟩ := getElem?_modify_eq_some.mp found
      refine Or.inl ⟨before, earlier, ?_⟩
      split_ifs <;> exact ⟨rfl, rfl⟩
  | finished position =>
      obtain ⟨before, earlier, rfl⟩ := getElem?_modify_eq_some.mp found
      refine Or.inl ⟨before, earlier, ?_⟩
      split_ifs <;> exact ⟨rfl, rfl⟩

/-- Every send is made by a `publish` of its node, to a sink registered there
for the topic; every call is within what it may send; and the frames in the
streams are those of sends, in order and each once. -/
structure Accounted (network : Network) (sends : List Send) : Prop where
  calls :
    ∀ (index : Nat) (call : BusCall), network.calls[index]? = some call →
      call.Accounted (sentBy index sends)
  made :
    ∀ send ∈ sends,
      ∃ call : BusCall, network.calls[send.call]? = some call ∧ call.Made send
  frames : network.fabric.wire.map some = network.inFlight.map Send.frame
  inFlight : network.inFlight.Sublist sends

/-- A call that has just begun may send to what it has collected. -/
theorem Fresh.accounted
    {network : Network} {input : NetworkInput} {call : BusCall}
    (fresh : network.Fresh input call) (steady : network.Steady) :
    call.Accounted [] := by
  unfold Fresh at fresh
  unfold BusCall.Accounted
  cases origin : call.origin with
  | inbound =>
      rw [origin] at fresh
      exact ⟨rfl, fresh⟩
  | publish topic typeName bytes registered =>
      rw [origin] at fresh
      obtain ⟨_, rfl, within, same⟩ := fresh
      exact ⟨(steady.sorted call.pid).nodup _, within, same⟩

/-- A call that has not begun has sent nothing. -/
theorem Accounted.sentBy_length
    {network : Network} {sends : List Send}
    (accounted : network.Accounted sends) :
    sentBy network.calls.length sends = [] := by
  rw [sentBy, List.map_eq_nil_iff, List.filter_eq_nil_iff]
  intro send member
  obtain ⟨call, found, _⟩ := accounted.made send member
  have inside : send.call < network.calls.length :=
    (List.getElem?_eq_some_iff.mp found).1
  simp only [decide_eq_true_eq]
  omega

theorem Accounted.calls_step
    {network : Network} {sends : List Send}
    (accounted : network.Accounted sends) (steady : network.Steady)
    {input : NetworkInput} {calls : List BusCall} {sent : List Send}
    (change : network.CallStep input calls sent) :
    (∀ (index : Nat) (call : BusCall), calls[index]? = some call →
        call.Accounted (sentBy index (sends ++ sent))) ∧
      ∀ send ∈ sends ++ sent,
        ∃ call : BusCall, calls[send.call]? = some call ∧ call.Made send := by
  have kept :
      ∀ send ∈ sends,
        ∃ call : BusCall, calls[send.call]? = some call ∧ call.Made send := by
    intro send member
    obtain ⟨old, found, samePid, made⟩ := accounted.made send member
    obtain ⟨call, present, pid, origin⟩ := change.persists found
    exact ⟨call, present, pid.trans samePid, origin ▸ made⟩
  cases change with
  | kept =>
      rw [List.append_nil]
      exact ⟨accounted.calls, kept⟩
  | began call fresh =>
      rw [List.append_nil]
      refine ⟨fun index other present => ?_, kept⟩
      rcases getElem?_concat_eq_some.mp present with found | ⟨rfl, rfl⟩
      · exact accounted.calls index other found
      · rw [accounted.sentBy_length]
        exact fresh.accounted steady
  | enqueued index call sink bytes later found remaining =>
      refine ⟨fun other after present => ?_, fun send member => ?_⟩
      · obtain ⟨before, earlier, rfl⟩ := getElem?_modify_eq_some.mp present
        rw [sentBy_append, sentBy_enqueue]
        by_cases same : index = other
        · subst same
          rw [found] at earlier
          cases earlier
          rw [if_pos rfl, if_pos rfl]
          exact (accounted.calls index call found).enqueue remaining
        · rw [if_neg same, if_neg same, List.append_nil]
          exact accounted.calls other before earlier
      · rcases List.mem_append.mp member with old | new
        · exact kept send old
        · split_ifs at new with leaves
          · rw [List.mem_singleton.mp new]
            refine ⟨call.advance,
              getElem?_modify_eq_some.mpr ⟨call, found, by simp⟩, rfl, ?_⟩
            exact (accounted.calls index call found).sends remaining leaves
          · cases new
  | finished index =>
      rw [List.append_nil]
      refine ⟨fun other after present => ?_, kept⟩
      obtain ⟨before, found, rfl⟩ := getElem?_modify_eq_some.mp present
      split_ifs
      · exact accounted.calls other before found
      · exact accounted.calls other before found

/-- The frames in the streams stay those of sends. -/
theorem Accounted.frames_step
    {network target : Network} {sends sent : List Send} {input : NetworkInput}
    (accounted : network.Accounted sends)
    (stepped : network.step input = some (target, sent)) :
    target.fabric.wire.map some = target.inFlight.map Send.frame ∧
      target.inFlight.Sublist (sends ++ sent) := by
  rcases Network.frames_step stepped with
    ⟨wire, inFlight, rfl⟩ | ⟨index, wire, inFlight, rfl⟩ |
      ⟨send, wire, inFlight, rfl⟩
  · rw [wire, inFlight, List.append_nil]
    exact ⟨accounted.frames, accounted.inFlight⟩
  · rw [wire, inFlight, List.append_nil, ← List.eraseIdx_map,
      ← List.eraseIdx_map, accounted.frames]
    exact ⟨rfl, (List.eraseIdx_sublist _ _).trans accounted.inFlight⟩
  · rw [wire, inFlight, List.map_append, List.map_append, accounted.frames]
    cases framed : send.frame with
    | none =>
        refine ⟨rfl, ?_⟩
        exact (accounted.inFlight.append (List.nil_sublist _))
    | some frame =>
        have leaves : send.sink.leaves = true := send.leaves_of_frame framed
        rw [leaves]
        refine ⟨by simp [framed], ?_⟩
        exact accounted.inFlight.append (List.Sublist.refl _)

theorem Accounted.step
    {network target : Network} {sends sent : List Send} {input : NetworkInput}
    (accounted : network.Accounted sends) (steady : network.Steady)
    (stepped : network.step input = some (target, sent)) :
    target.Accounted (sends ++ sent) := by
  obtain ⟨calls, made⟩ :=
    accounted.calls_step steady (steady.calls_step stepped)
  obtain ⟨frames, inFlight⟩ := accounted.frames_step stepped
  exact ⟨calls, made, frames, inFlight⟩

end Network

/-! ## Rings -/

/-- A topic as the system calls see it in a segment name.  Topics of one
participant that agree in this form share a segment, so the rings belong to
these. -/
def SegTopic (_pid : Nat) (topic : Text) : Prop :=
  cStr (topic.map segChar) = topic

theorem separated_segTopic : Separated SegTopic := by
  intro pid first second isFirst isSecond equal
  rw [← isFirst, equal, isSecond]

theorem segTopic_cStr (pid : Nat) (topic : Text) :
    SegTopic pid (cStr (topic.map segChar)) := by
  have stable :
      (cStr (topic.map segChar)).map segChar = cStr (topic.map segChar) := by
    refine
      (List.map_congr_left fun char member => ?_).trans (List.map_id _)
    obtain ⟨before, _, rfl⟩ :=
      List.mem_map.mp ((List.takeWhile_sublist _).subset member)
    simp only [segChar, id_eq]
    split_ifs <;> simp_all
  rw [SegTopic, stable]
  exact List.takeWhile_idem

theorem cStr_segName_cStr (pid : Nat) (topic : Text) :
    cStr (segName pid (cStr (topic.map segChar))) =
      cStr (segName pid topic) :=
  cStr_segName_eq_iff.mpr ⟨rfl, segTopic_cStr pid topic⟩

/-- Bytes that a participant has sent to a segment of its own. -/
def SentTo (sends : List Send) (pid : Nat) (topic : Text) (bytes : Bytes) :
    Prop :=
  ∃ send ∈ sends, send.pid = pid ∧ send.bytes = bytes ∧
    ∃ serial object name, send.sink = .shm serial object name ∧
      cStr name = cStr (segName pid topic)

/-- A sink of a participant writes to a ring that belongs to it. -/
def Writes (owner : Nat → Nat × Text) (memory : SharedMemory) (pid object : Nat)
    (name : Text) : Prop :=
  ∃ topic, cStr name = cStr (segName pid topic) ∧
    Holds owner memory object pid topic

theorem Writes.extend
    {owner owner' : Nat → Nat × Text} {memory memory' : SharedMemory}
    {pid object : Nat} {name : Text}
    (writes : Writes owner memory pid object name)
    (grows : Extends owner memory owner' memory') :
    Writes owner' memory' pid object name := by
  obtain ⟨topic, named, holds⟩ := writes
  exact ⟨topic, named, holds.extend grows⟩

section Rings

variable {legit : Nat → Text → Bytes → Prop} {owner : Nat → Nat × Text}
  {memory : SharedMemory} {plane : DataPlane}

/-- A match creates the segment of the node that handles it, or none. -/
theorem MemorySound.handleMatch
    (sound : MemorySound SegTopic legit owner memory)
    (running : plane.stopped = false) (m : MatchInfo)
    (outcome : CreateOutcome) :
    let after := plane.handleMatch memory m outcome
    ∃ owner',
      MemorySound SegTopic legit owner' after.2 ∧
        Extends owner memory owner' after.2 ∧
        ∀ topic serial object name,
          after.1.bus.Has topic (.shm serial object name) →
            plane.bus.Has topic (.shm serial object name) ∨
              Writes owner' after.2 plane.localPid object name := by
  rw [DataPlane.handleMatch_eq running]
  cases plane.route m with
  | ignored =>
      exact ⟨owner, sound, Extends.refl owner memory,
        fun _ _ _ _ has => Or.inl has⟩
  | tcpPub =>
      refine ⟨owner, sound, Extends.refl owner memory, ?_⟩
      intro topic serial object name has
      rcases plane.bus_tcpPubMatch m with same | added
      · rw [same] at has
        exact Or.inl has
      · rw [added] at has
        rcases LocalBus.has_addRemoteSink has with old | ⟨_, isNew⟩
        · exact Or.inl old
        · cases isNew
  | shmPub =>
      have created :=
        sound.create separated_segTopic
          (segTopic_cStr plane.localPid m.localEndpoint.topic) outcome
      rw [SharedMemory.create_congr (cStr_segName_cStr _ _)] at created
      obtain ⟨owner', isSound, grows, holds⟩ := created
      cases plane.shmPubMatch_cases memory m outcome with
      | counted _ _ _ bus unchanged =>
          dsimp only
          rw [unchanged, bus]
          exact ⟨owner, sound, Extends.refl owner memory,
            fun _ _ _ _ has => Or.inl has⟩
      | created object _ made _ bus changed =>
          dsimp only
          rw [changed, bus]
          refine ⟨owner', isSound, grows, ?_⟩
          intro topic serial found name has
          rcases LocalBus.has_addRemoteSink has with old | ⟨_, isNew⟩
          · exact Or.inl old
          · cases isNew
            exact Or.inr ⟨_, (cStr_segName_cStr _ _).symm, holds object made⟩
      | failed _ _ _ bus changed =>
          dsimp only
          rw [changed, bus]
          exact ⟨owner', isSound, grows, fun _ _ _ _ has => Or.inl has⟩
  | shmSub =>
      dsimp only
      rw [plane.shmSubMatch_bus m]
      exact ⟨owner, sound, Extends.refl owner memory,
        fun _ _ _ _ has => Or.inl has⟩

/-- Unlinking several names. -/
theorem MemorySound.unlinkAll
    (sound : MemorySound SegTopic legit owner memory) (names : List Text) :
    MemorySound SegTopic legit owner (names.foldl SharedMemory.unlink memory) ∧
      Extends owner memory owner (names.foldl SharedMemory.unlink memory) := by
  induction names generalizing memory with
  | nil =>
      exact ⟨sound, Extends.refl owner memory⟩
  | cons name later inductionHypothesis =>
      obtain ⟨unlinked, first⟩ := sound.unlink name
      obtain ⟨isSound, rest⟩ := inductionHypothesis unlinked
      exact ⟨isSound, first.trans rest⟩

end Rings

namespace Network

/-- A sink that a node may still write to: it is on the bus, or a call in
progress has collected it. -/
def Knows (network : Network) (pid : Nat) (sink : SinkHandle) : Prop :=
  (∃ topic, (network.fabric.planes pid).bus.Has topic sink) ∨
    ∃ call ∈ network.calls, call.pid = pid ∧
      ∃ bytes, (sink, bytes) ∈ call.remaining

/-- The sinks out of the node that remain in calls were known before. -/
theorem CallStep.known
    {network : Network} {input : NetworkInput} {calls : List BusCall}
    {sent : List Send} (change : network.CallStep input calls sent)
    {call : BusCall} (member : call ∈ calls) {sink : SinkHandle}
    {bytes : Bytes} (remains : (sink, bytes) ∈ call.remaining)
    (leaves : sink.leaves = true) : network.Knows call.pid sink := by
  cases change with
  | kept =>
      exact Or.inr ⟨call, member, rfl, bytes, remains⟩
  | began added fresh =>
      rcases List.mem_append.mp member with old | new
      · exact Or.inr ⟨call, old, rfl, bytes, remains⟩
      · rw [← List.mem_singleton.mp new] at fresh
        unfold Fresh at fresh
        split at fresh
        · have stays : sink.leaves = false := fresh (sink, bytes) remains
          rw [leaves] at stays
          cases stays
        · obtain ⟨_, rfl, within, _⟩ := fresh
          refine Or.inl ⟨_, Or.inr (within.subset ?_)⟩
          exact List.mem_filter.mpr
            ⟨List.mem_map.mpr ⟨(sink, bytes), remains, rfl⟩, leaves⟩
  | enqueued index old _ _ _ _ _ =>
      obtain ⟨place, found⟩ := List.mem_iff_getElem?.mp member
      obtain ⟨before, earlier, rfl⟩ := getElem?_modify_eq_some.mp found
      refine Or.inr ⟨before, List.mem_of_getElem? earlier, ?_, bytes, ?_⟩
      · split_ifs <;> rfl
      · split_ifs at remains
        · exact List.mem_of_mem_tail remains
        · exact remains
  | finished index =>
      obtain ⟨place, found⟩ := List.mem_iff_getElem?.mp member
      obtain ⟨before, earlier, rfl⟩ := getElem?_modify_eq_some.mp found
      refine Or.inr ⟨before, List.mem_of_getElem? earlier, ?_, bytes, ?_⟩
      · split_ifs <;> rfl
      · split_ifs at remains <;> exact remains

/-- Where a sink that leads out of a node comes from: it was known before, or
the node has handled a match. -/
theorem Steady.knows_step
    {network target : Network} {input : NetworkInput} {sent : List Send}
    (steady : network.Steady)
    (stepped : network.step input = some (target, sent))
    {pid : Nat} {sink : SinkHandle} (leaves : sink.leaves = true)
    (knows : target.Knows pid sink) :
    network.Knows pid sink ∨
      ∃ m outcome topic,
        input = .operate (.handleMatch pid m outcome) ∧
          ((network.fabric.planes pid).handleMatch
            (network.fabric.memoryOf pid) m outcome).1.bus.Has topic sink := by
  rcases knows with ⟨topic, has⟩ | ⟨call, member, rfl, bytes, remains⟩
  · obtain ⟨changed, plane, planes, _, _, kept⟩ := steady.planes_step stepped
    have onBus := has
    rw [planes] at has
    by_cases mine : pid = changed
    · subst mine
      rw [Function.update_self] at has
      rcases kept topic sink leaves has with old | ⟨m, outcome, rfl⟩
      · exact Or.inl (Or.inl ⟨topic, old⟩)
      · cases stepped
        refine Or.inr ⟨m, outcome, topic, rfl, ?_⟩
        simpa [Fabric.apply] using onBus
    · rw [Function.update_of_ne mine] at has
      exact Or.inl (Or.inl ⟨topic, has⟩)
  · exact Or.inl ((steady.calls_step stepped).known member remains leaves)

/-- What a step can do to the memory of a host, as seen by the node that takes
the step. -/
inductive MemoryStep (network : Network) (input : NetworkInput) (pid : Nat) :
    SharedMemory → List Send → Prop
  | unlinked (names : List Text) :
      (∀ other m outcome, input ≠ .operate (.handleMatch other m outcome)) →
      MemoryStep network input pid
        (names.foldl SharedMemory.unlink (network.fabric.memoryOf pid)) []
  | matched (m : MatchInfo) (outcome : CreateOutcome) :
      input = .operate (.handleMatch pid m outcome) →
      MemoryStep network input pid
        ((network.fabric.planes pid).handleMatch (network.fabric.memoryOf pid)
          m outcome).2 []
  | wrote (index : Nat) (sink : SinkHandle) (bytes : Bytes) :
      (∀ other m outcome, input ≠ .operate (.handleMatch other m outcome)) →
      network.Knows pid sink →
      MemoryStep network input pid
        (writeSink bytes (network.fabric.memoryOf pid) sink)
        (if sink.leaves then [⟨index, pid, sink, bytes⟩] else [])

theorem Steady.memory_step
    {network target : Network} {input : NetworkInput} {sent : List Send}
    (steady : network.Steady)
    (stepped : network.step input = some (target, sent)) :
    ∃ pid memory,
      target.fabric.memory =
          Function.update network.fabric.memory
            (network.fabric.planes pid).localHostId memory ∧
        network.MemoryStep input pid memory sent := by
  have unchanged :
      ∀ pid,
        network.fabric.memory =
          Function.update network.fabric.memory
            (network.fabric.planes pid).localHostId
            (network.fabric.memoryOf pid) :=
    fun _ => (Function.update_eq_self _ _).symm
  -- Unlinking no name stands for the operations that leave the memory alone.
  cases input with
  | operate input =>
      obtain ⟨operated, rfl⟩ := step_operate stepped
      cases input with
      | handleMatch pid m outcome =>
          cases operated
          exact ⟨pid, _, rfl, .matched m outcome rfl⟩
      | handleUnmatch pid m =>
          cases operated
          refine ⟨pid, _, rfl, ?_⟩
          dsimp only
          split_ifs
          · exact .unlinked [] (by simp)
          · rcases DataPlane.memory_handleUnmatch (steady.running pid)
              (network.fabric.memoryOf pid) m with same | unlinked
            · rw [same]
              exact .unlinked [] (by simp)
            · rw [unlinked]
              exact .unlinked [_] (by simp)
      | arrive index =>
          obtain ⟨frame, rfl⟩ := operate_arrive operated
          exact ⟨frame.peer, _, unchanged _, .unlinked [] (by simp)⟩
      | createPublisher pid topic typeName reliability =>
          cases operated
          exact ⟨pid, _, unchanged pid, .unlinked [] (by simp)⟩
      | createSubscriber pid topic typeName reliability =>
          cases operated
          exact ⟨pid, _, unchanged pid, .unlinked [] (by simp)⟩
      | publish pid topic typeName bytes =>
          cases operated
          exact ⟨pid, _, unchanged pid, .unlinked [] (by simp)⟩
      | poll pid =>
          cases operated
          exact ⟨pid, _, unchanged pid, .unlinked [] (by simp)⟩
  | enqueue index =>
      obtain ⟨call, sink, bytes, later, found, remaining, rfl, rfl⟩ :=
        step_enqueue stepped
      refine ⟨call.pid, _, rfl, .wrote index sink bytes (by simp) ?_⟩
      refine Or.inr ⟨call, List.mem_of_getElem? found, rfl, bytes, ?_⟩
      rw [remaining]
      exact List.mem_cons_self
  | finish index =>
      obtain ⟨call, rfl, rfl⟩ := step_finish stepped
      exact ⟨call.pid, _, rfl, .unlinked _ (by simp)⟩

/-- Every ring belongs to one node, holds what that node has sent to it, and
is written to by that node's sinks only. -/
def Owned (network : Network) (sends : List Send) : Prop :=
  ∃ owner : Text → Nat → Nat × Text,
    (∀ host,
        MemorySound SegTopic (SentTo sends) (owner host)
          (network.fabric.memory host)) ∧
      ∀ pid serial object name, network.Knows pid (.shm serial object name) →
        Writes (owner (network.fabric.planes pid).localHostId)
          (network.fabric.memoryOf pid) pid object name

/-- A step keeps the memory of its host sound for what has then been sent. -/
theorem MemoryStep.sound
    {network : Network} {input : NetworkInput} {pid : Nat}
    {memory : SharedMemory} {sends sent : List Send}
    {owner : Nat → Nat × Text}
    (change : network.MemoryStep input pid memory sent)
    (steady : network.Steady)
    (isSound :
      MemorySound SegTopic (SentTo (sends ++ sent)) owner
        (network.fabric.memoryOf pid))
    (writers :
      ∀ serial object name, network.Knows pid (.shm serial object name) →
        Writes owner (network.fabric.memoryOf pid) pid object name) :
    ∃ owner',
      MemorySound SegTopic (SentTo (sends ++ sent)) owner' memory ∧
        Extends owner (network.fabric.memoryOf pid) owner' memory ∧
        ∀ other m outcome topic serial object name,
          input = .operate (.handleMatch other m outcome) →
          ((network.fabric.planes other).handleMatch
              (network.fabric.memoryOf other) m outcome).1.bus.Has topic
            (.shm serial object name) →
          network.Knows other (.shm serial object name) ∨
            other = pid ∧ Writes owner' memory pid object name := by
  cases change with
  | unlinked names noMatch =>
      obtain ⟨stillSound, grows⟩ := isSound.unlinkAll names
      exact ⟨owner, stillSound, grows,
        fun other m outcome _ _ _ _ isMatch =>
          absurd isMatch (noMatch other m outcome)⟩
  | matched m outcome isMatch =>
      obtain ⟨owner', stillSound, grows, added⟩ :=
        isSound.handleMatch (steady.running pid) m outcome
      refine ⟨owner', stillSound, grows, ?_⟩
      intro other _ _ topic serial object name same has
      rw [isMatch] at same
      cases same
      rcases added topic serial object name has with old | writes
      · exact Or.inl (Or.inl ⟨topic, old⟩)
      · rw [steady.localPid] at writes
        exact Or.inr ⟨rfl, writes⟩
  | wrote index sink bytes noMatch known =>
      have isSent :
          ∀ serial object name, sink = .shm serial object name →
            ∃ writer topic,
              Holds owner (network.fabric.memoryOf pid) object writer topic ∧
                SentTo
                  (sends ++
                    if sink.leaves then [⟨index, pid, sink, bytes⟩] else [])
                  writer topic bytes := by
        rintro serial object name rfl
        obtain ⟨topic, named, holds⟩ := writers serial object name known
        refine ⟨pid, topic, holds, _,
          List.mem_append_right sends List.mem_cons_self, rfl, rfl,
          serial, object, name, rfl, named⟩
      obtain ⟨stillSound, grows⟩ := isSound.enqueue isSent
      exact ⟨owner, stillSound, grows,
        fun other m outcome _ _ _ _ isMatch =>
          absurd isMatch (noMatch other m outcome)⟩

theorem Owned.step
    {network target : Network} {sends sent : List Send} {input : NetworkInput}
    (owned : network.Owned sends) (steady : network.Steady)
    (stepped : network.step input = some (target, sent)) :
    target.Owned (sends ++ sent) := by
  obtain ⟨owner, memories, writers⟩ := owned
  have more :
      ∀ pid topic bytes,
        SentTo sends pid topic bytes → SentTo (sends ++ sent) pid topic bytes := by
    rintro pid topic bytes ⟨send, member, rest⟩
    exact ⟨send, List.mem_append_left sent member, rest⟩
  obtain ⟨pid, memory, changed, change⟩ := steady.memory_step stepped
  obtain ⟨owner', isSound, grows, added⟩ :=
    change.sound steady ((memories _).mono more)
      fun serial object name known => writers pid serial object name known
  have hosts :
      ∀ other,
        (target.fabric.planes other).localHostId =
          (network.fabric.planes other).localHostId := by
    intro other
    obtain ⟨_, _, planes, same, _⟩ := steady.planes_step stepped
    rw [planes]
    exact (Fabric.sameIdentities_of_update same other).localHostId
  refine ⟨Function.update owner (network.fabric.planes pid).localHostId owner',
    fun host => ?_, fun other serial object name known => ?_⟩
  · rw [changed]
    by_cases here : host = (network.fabric.planes pid).localHostId
    · subst here
      rw [Function.update_self, Function.update_self]
      exact isSound
    · rw [Function.update_of_ne here, Function.update_of_ne here]
      exact (memories host).mono more
  · rw [Fabric.memoryOf, hosts, changed]
    have old :
        network.Knows other (.shm serial object name) →
        Writes
          (Function.update owner (network.fabric.planes pid).localHostId owner'
            (network.fabric.planes other).localHostId)
          (Function.update network.fabric.memory
            (network.fabric.planes pid).localHostId memory
            (network.fabric.planes other).localHostId)
          other object name := by
      intro before
      have writes := writers other serial object name before
      by_cases here :
          (network.fabric.planes other).localHostId =
            (network.fabric.planes pid).localHostId
      · rw [Fabric.memoryOf_eq here, here] at writes
        rw [here, Function.update_self, Function.update_self]
        exact writes.extend grows
      · rw [Function.update_of_ne here, Function.update_of_ne here]
        exact writes
    -- Only the node that takes the step can have a new sink, and only by
    -- creating the segment it writes to.
    rcases steady.knows_step stepped rfl known with
      before | ⟨m, outcome, topic, isMatch, has⟩
    · exact old before
    · rcases added other m outcome topic serial object name isMatch has with
        before | ⟨rfl, writes⟩
      · exact old before
      · rw [Function.update_self, Function.update_self]
        exact writes

end Network

/-! ## Whole runs -/

/-- The call of a number is a `publish` on a node, begun at a point of the run
where its topic had these remote sinks. -/
def PublishCall (inputs : List NetworkInput) (index pid : Nat)
    (topic typeName : Text) (bytes : Bytes) (registered : List SinkHandle) :
    Prop :=
  ∃ before after network sends,
    inputs = before ++ .operate (.publish pid topic typeName bytes) :: after ∧
      networkMachine.Run Machine.free before network sends ∧
      network.calls.length = index ∧
      ((network.fabric.planes pid).bus.entry topic).remoteSinks = registered

section Runs

variable {inputs : List NetworkInput} {network : Network} {sends : List Send}

theorem steady_of_run
    (run : networkMachine.Run Machine.free inputs network sends) :
    network.Steady := by
  refine run.invariant (fun network _ => network.Steady) ?_ ?_
  · rintro network ⟨hosts, shm, rfl⟩
    exact Network.steady_started hosts shm
  · intro network _ input target sent steady _ stepped
    exact steady.step stepped

theorem accounted_of_run
    (run : networkMachine.Run Machine.free inputs network sends) :
    network.Accounted sends ∧ network.Owned sends := by
  induction run with
  | start initially =>
      obtain ⟨hosts, shm, rfl⟩ := initially
      obtain ⟨owner, memories, _⟩ :=
        FabricSound.started SegTopic (SentTo []) hosts shm
      refine ⟨⟨by simp, by simp, rfl, List.Sublist.refl _⟩,
        owner, memories, ?_⟩
      rintro pid serial object name (⟨topic, has⟩ | ⟨call, member, _⟩)
      · simp [Fabric.started, DataPlane.started, LocalBus.Has, LocalBus.entry,
          LocalBus.empty] at has
      · cases member
  | next earlier _ stepped inductionHypothesis =>
      obtain ⟨accounted, owned⟩ := inductionHypothesis
      have steady := steady_of_run earlier
      exact ⟨accounted.step steady stepped, owned.step steady stepped⟩

/-- Every call whose origin is a `publish` is one. -/
theorem publishCall_of_run
    (run : networkMachine.Run Machine.free inputs network sends)
    {index : Nat} {call : BusCall}
    (found : network.calls[index]? = some call)
    {topic typeName : Text} {bytes : Bytes} {registered : List SinkHandle}
    (origin : call.origin = .publish topic typeName bytes registered) :
    PublishCall inputs index call.pid topic typeName bytes registered := by
  -- A call begins in the last step of the run, or it has begun before with
  -- the same origin.
  induction run generalizing call with
  | start initially =>
      obtain ⟨hosts, shm, rfl⟩ := initially
      simp at found
  | @next inputs state target events emitted input earlier allowed stepped
      inductionHypothesis =>
      have change := (steady_of_run earlier).calls_step stepped
      rcases change.began_before found with
        ⟨old, present, pid, same⟩ | ⟨rfl, fresh⟩
      · obtain ⟨before, after, reached, sent, split, rest⟩ :=
          inductionHypothesis present (same.trans origin)
        rw [pid] at split rest
        refine ⟨before, after ++ [input], reached, sent, ?_, rest⟩
        rw [split, List.append_assoc, List.cons_append]
      · unfold Network.Fresh at fresh
        rw [origin] at fresh
        obtain ⟨rfl, registeredNow, _⟩ := fresh
        exact ⟨inputs, [], state, events, rfl, earlier, rfl,
          registeredNow.symm⟩

end Runs

/-- In every run of any network: the frames in the TCP streams are those of
sends, each at most once; a ring belongs to one node and what can be read from
it was sent to it by that node; every send is made by a `publish` call on its
node, to a sink that was registered there for the topic when the call
collected its targets, and such a call sends at most once to each of them; and
a call of `deliver_inbound` sends nothing. -/
theorem no_forwarding
    {inputs : List NetworkInput} {network : Network} {sends : List Send}
    (run : networkMachine.Run Machine.free inputs network sends) :
    (network.fabric.wire.map some = network.inFlight.map Send.frame ∧
        network.inFlight.Sublist sends) ∧
      (∀ (host : Text) (object : Nat),
        ((network.fabric.memory host).objects object).magic = kMagic →
        ∃ writer topic,
          (∀ name : Text,
            (network.fabric.memory host).bound name = some object →
              cStr name = cStr (segName writer topic)) ∧
            ∀ bytes,
              Readable shmView ((network.fabric.memory host).objects object)
                bytes →
              ∃ send ∈ sends, send.pid = writer ∧ send.bytes = bytes ∧
                ∃ serial target name,
                  send.sink = .shm serial target name ∧
                    cStr name = cStr (segName writer topic)) ∧
      (∀ send ∈ sends,
        ∃ topic typeName registered,
          PublishCall inputs send.call send.pid topic typeName send.bytes
              registered ∧
            send.sink ∈ registered ∧
            (sentBy send.call sends).Nodup ∧
            (sentBy send.call sends).Sublist registered) ∧
      ∀ (index : Nat) (call : BusCall),
        network.calls[index]? = some call → call.origin = .inbound →
        sentBy index sends = [] := by
  obtain ⟨accounted, owner, memories, _⟩ := accounted_of_run run
  refine ⟨⟨accounted.frames, accounted.inFlight⟩, ?_, ?_, ?_⟩
  · intro host object ready
    obtain ⟨_, _, _, readable⟩ := (memories host).contents object ready
    refine ⟨(owner host object).1, (owner host object).2, ?_, readable⟩
    intro name bound
    exact ((memories host).named name object bound).2.2
  · intro send member
    obtain ⟨call, found, pid, topic, typeName, registered, origin, listed⟩ :=
      accounted.made send member
    have published := publishCall_of_run run found origin
    have within := accounted.calls send.call call found
    rw [pid] at published
    unfold BusCall.Accounted at within
    rw [origin] at within
    obtain ⟨nodup, sublist, _⟩ := within
    have sent : (sentBy send.call sends).Sublist registered :=
      (List.sublist_append_left _ _).trans sublist
    exact ⟨topic, typeName, registered, published, listed, sent.nodup nodup,
      sent⟩
  · intro index call found origin
    have within := accounted.calls index call found
    unfold BusCall.Accounted at within
    rw [origin] at within
    exact within.1

/-! ## Nodes that publish to each other -/

/-- Participants 1 and 2 share a host, participant 3 has its own. -/
def cycleHost (pid : Nat) : Text :=
  if pid = 3 then ['g'] else ['h']

/-- A participant publishes topic `t` and subscribes to it. -/
def takePart (pid : Nat) : List NetworkInput :=
  [.operate (.createPublisher pid ['t'] ['T'] 0),
    .operate (.createSubscriber pid ['t'] ['T'] 0)]

/-- A participant is matched with a peer in both directions. -/
def pairWith (pid peer : Nat) : List NetworkInput :=
  let publisher := bestEffort .publisher ['t'] ['T']
  let subscriber := bestEffort .subscriber ['t'] ['T']
  [.operate (.handleMatch pid
      ⟨publisher, subscriber, ⟨[], 0⟩, peer, cycleHost peer⟩ .created),
    .operate (.handleMatch pid
      ⟨subscriber, publisher, ⟨[], 0⟩, peer, cycleHost peer⟩ .created)]

/-- Participant 1 publishes once; the message goes to participant 2 through
shared memory and to participant 3 over TCP, both of which publish to
participant 1. -/
def cycleInputs : List NetworkInput :=
  takePart 1 ++ takePart 2 ++ takePart 3 ++ pairWith 1 2 ++ pairWith 2 1 ++
    pairWith 1 3 ++ pairWith 3 1 ++
    [.operate (.poll 2), .operate (.publish 1 ['t'] ['T'] [7]), .enqueue 1,
      .enqueue 1, .enqueue 1, .finish 1, .operate (.poll 2), .enqueue 2,
      .operate (.arrive 0), .enqueue 3]

/-- The publish sends twice, and neither of the peers sends anything on. -/
theorem no_forwarding_cycle :
    ∃ network sends,
      networkMachine.Run Machine.free cycleInputs network sends ∧
        sends =
          [⟨1, 1, .shm 1 0 (segName 1 ['t']), [7]⟩,
            ⟨1, 1, .remote 2 ['t'] 3, [7]⟩] ∧
        (∀ send ∈ sends,
          ∃ topic typeName registered,
            PublishCall cycleInputs send.call send.pid topic typeName
                send.bytes registered ∧
              send.sink ∈ registered ∧
              (sentBy send.call sends).Nodup ∧
              (sentBy send.call sends).Sublist registered) ∧
        network.calls.map BusCall.pid = [2, 1, 2, 3] ∧
        ∀ (index : Nat) (call : BusCall),
          network.calls[index]? = some call → call.origin = .inbound →
          sentBy index sends = [] := by
  obtain ⟨network, sends, run, checked⟩ :=
    Machine.run_of_exec_check networkMachine Machine.free cycleInputs
      { fabric := Fabric.started cycleHost fun _ => true }
      (fun network sends =>
        decide
          (sends =
              [⟨1, 1, .shm 1 0 (segName 1 ['t']), [7]⟩,
                ⟨1, 1, .remote 2 ['t'] 3, [7]⟩] ∧
            network.calls.map BusCall.pid = [2, 1, 2, 3]))
      ⟨_, _, rfl⟩ (by decide +kernel)
  obtain ⟨sent, callers⟩ := of_decide_eq_true checked
  obtain ⟨_, _, made, inbound⟩ := no_forwarding run
  exact ⟨network, sends, run, sent, made, callers, inbound⟩

end MiniMiddleware.Core
