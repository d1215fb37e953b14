import MiniMiddleware.Core.Fabric

/-!
# The writers of a ring

A ring has one writer: readers tell whole messages from torn ones only as long
as no two calls of `ShmRing::write` overlap.  `LocalBus::publish` collects the
sinks under the lock of the bus and calls `enqueue` on them outside of it, and
neither a publisher nor a `ShmSink` takes a lock of its own.  So the rings of a
node have one writer as long as its threads do not publish to them at the same
time.

The threads of one node are those that are inside `publish`.  They are
interleaved store by store with each other and with all other operations of
the network.  A thread holds the sinks it has collected until it returns, so a
segment that is dropped in the meantime stays linked, and a rematch that
creates it again re-initialises the ring the thread writes to.
-/

namespace MiniMiddleware.Core

open MiniMiddleware.Library MiniMiddleware.Discovery MiniMiddleware.Transport

/-- The ring that a sink writes to. -/
def SinkHandle.ring? : SinkHandle → Option Nat
  | .shm _ object _ => some object
  | _ => none

/-- A thread: the bytes it publishes, the sinks it has collected and holds,
those of them not yet served, and its place in a `write` in progress. -/
structure PublishThread where
  bytes : Bytes
  held : List SinkHandle
  targets : List SinkHandle
  writing : Option (Nat × WriterPc)
  deriving DecidableEq, Repr

/-- A thread outside of `publish`. -/
def PublishThread.idle : PublishThread :=
  ⟨[], [], [], none⟩

/-- The rings that a thread writes to or will write to. -/
def PublishThread.rings (thread : PublishThread) : List Nat :=
  thread.writing.toList.map Prod.fst ++ thread.targets.filterMap (·.ring?)

/-- One node of a fabric with its threads. -/
structure ThreadedNode where
  pid : Nat
  fabric : Fabric
  threads : List PublishThread

/-- The steps of the threads, named by their place: the critical section of
`LocalBus::publish`, the call of `enqueue` on the next sink up to the
`fetch_add` of a write, the next store of a write, and the return. -/
inductive ThreadInput where
  | fabric (input : FabricInput)
  | publish (thread : Nat) (topic typeName : Text) (bytes : Bytes)
  | enqueue (thread : Nat)
  | store (thread : Nat)
  | finish (thread : Nat)
  deriving DecidableEq, Repr

/-- `write(const std::string&)` passes the size as a 32-bit word. -/
def writeArgument (bytes : Bytes) : Bytes :=
  bytes.take (bytes.length % 2 ^ 32)

/-- A `write` is in progress as long as it is not idle. -/
def inProgress (object : Nat) : WriterPc → Option (Nat × WriterPc)
  | .idle => none
  | pc => some (object, pc)

namespace ThreadedNode

/-- The rings that a topic is routed to. -/
def routedRings (node : ThreadedNode) (topic : Text) : List Nat :=
  let entry := (node.fabric.planes node.pid).bus.entry topic
  (entry.sinks ++ entry.remoteSinks).filterMap (·.ring?)

/-- Whether a thread holds a sink of a node. -/
def holds (node : ThreadedNode) (pid : Nat) (sink : SinkHandle) : Bool :=
  pid = node.pid && node.threads.any fun thread => thread.held.contains sink

/-- Whether a weak pointer to a sink of the node can still be locked. -/
def alive (node : ThreadedNode) (sink : SinkHandle) : Bool :=
  (node.fabric.planes node.pid).alive sink || node.holds node.pid sink

/-- The operations of the network.  A `publish` of the threads' own node is not
a single step here, and its `handle_unmatch` spares what the threads hold. -/
def operate (node : ThreadedNode) :
    FabricInput → Option (Fabric × List FabricEvent)
  | .publish pid topic typeName bytes =>
      if pid = node.pid then none
      else some (node.fabric.publish pid topic typeName bytes)
  | .handleUnmatch pid m =>
      some (node.fabric.handleUnmatchHeld (node.holds pid) pid m, [])
  | input => node.fabric.step input

/-- Replace the content of one ring. -/
def setRing (node : ThreadedNode) (object : Nat) (ring : RingMemory) : Fabric :=
  node.fabric.apply node.pid
    (node.fabric.planes node.pid,
      (node.fabric.memoryOf node.pid).store object ring)

/-- The critical section of `LocalBus::publish`. -/
def publish (node : ThreadedNode) (index : Nat) (topic typeName : Text)
    (bytes : Bytes) : Option (ThreadedNode × List FabricEvent) :=
  if node.threads[index]? = some .idle then
    let plane := node.fabric.planes node.pid
    let published := plane.bus.publish node.alive topic typeName
    some
      ({ node with
          fabric :=
            node.fabric.setPlane node.pid { plane with bus := published.1 }
          threads :=
            node.threads.set index ⟨bytes, published.2, published.2, none⟩ },
        [.published node.pid topic typeName bytes])
  else
    none

/-- `enqueue` on the next sink. -/
def enqueue (node : ThreadedNode) (index : Nat) :
    Option (ThreadedNode × List FabricEvent) :=
  match node.threads[index]? with
  | some ⟨bytes, held, sink :: rest, none⟩ =>
      match sink with
      | .shm _ object _ =>
          let begun :=
            beginWrite shmView ((node.fabric.memoryOf node.pid).objects object)
              (writeArgument bytes)
          some
            ({ node with
                fabric := node.setRing object begun.2.1
                threads :=
                  node.threads.set index
                    ⟨bytes, held, rest, inProgress object begun.1⟩ }, [])
      | .remote _ topic peer =>
          some
            ({ node with
                fabric :=
                  { node.fabric with
                    wire := node.fabric.wire ++ [⟨peer, topic, bytes⟩] }
                threads :=
                  node.threads.set index ⟨bytes, held, rest, none⟩ }, [])
      | .subscriber serial topic typeName =>
          some
            ({ node with
                threads :=
                  node.threads.set index ⟨bytes, held, rest, none⟩ },
              [.enqueued node.pid (.subscriber serial topic typeName) bytes])
  | _ => none

/-- The next store of a write in progress. -/
def store (node : ThreadedNode) (index : Nat) :
    Option (ThreadedNode × List FabricEvent) :=
  match node.threads[index]? with
  | some ⟨bytes, held, targets, some (object, pc)⟩ =>
      (writerStep shmView ((node.fabric.memoryOf node.pid).objects object)
          pc).map fun stored =>
        ({ node with
            fabric := node.setRing object stored.2
            threads :=
              node.threads.set index
                ⟨bytes, held, targets, inProgress object stored.1⟩ }, [])
  | _ => none

/-- The return of a `publish` that has served all its sinks. -/
def finish (node : ThreadedNode) (index : Nat) :
    Option (ThreadedNode × List FabricEvent) :=
  match node.threads[index]? with
  | some ⟨_, held, [], none⟩ =>
      let after := { node with threads := node.threads.set index .idle }
      some
        ({ after with
            fabric := node.fabric.release after.alive node.pid held }, [])
  | _ => none

/-- One step. -/
def step (node : ThreadedNode) :
    ThreadInput → Option (ThreadedNode × List FabricEvent)
  | .fabric input =>
      (node.operate input).map fun after =>
        ({ node with fabric := after.1 }, after.2)
  | .publish index topic typeName bytes =>
      node.publish index topic typeName bytes
  | .enqueue index => node.enqueue index
  | .store index => node.store index
  | .finish index => node.finish index

end ThreadedNode

/-- A node with any number of threads, in a network that has just started. -/
def threadedNodeMachine :
    Machine ThreadedNode ThreadInput FabricEvent where
  initial node :=
    ∃ pid hosts shm count,
      node =
        ⟨pid, Fabric.started hosts shm, List.replicate count PublishThread.idle⟩
  step := ThreadedNode.step

/-- A thread neither writes, nor has still to write, to a ring that a topic is
routed to. -/
def ThreadedNode.KeepsOff (node : ThreadedNode) (index : Nat) (topic : Text) :
    Prop :=
  ∀ thread ∈ node.threads[index]?, ∀ ring ∈ thread.rings,
    ring ∉ node.routedRings topic

instance (node : ThreadedNode) (index : Nat) (topic : Text) :
    Decidable (node.KeepsOff index topic) :=
  inferInstanceAs (Decidable (∀ thread ∈ node.threads[index]?, _))

/-- A thread enters `publish` only while all others keep off the rings that its
topic is routed to. -/
def SerialPublish (node : ThreadedNode) : ThreadInput → Prop
  | .publish index topic _ _ =>
      ∀ other < node.threads.length, other ≠ index → node.KeepsOff other topic
  | _ => True

instance (node : ThreadedNode) :
    (input : ThreadInput) → Decidable (SerialPublish node input)
  | .publish index topic _ _ =>
      inferInstanceAs
        (Decidable
          (∀ other < node.threads.length, other ≠ index →
            node.KeepsOff other topic))
  | .fabric _ => inferInstanceAs (Decidable True)
  | .enqueue _ => inferInstanceAs (Decidable True)
  | .store _ => inferInstanceAs (Decidable True)
  | .finish _ => inferInstanceAs (Decidable True)

/-! ## The invariant -/

theorem PublishThread.mem_rings {thread : PublishThread} {ring : Nat} :
    ring ∈ thread.rings ↔
      (∃ pc, thread.writing = some (ring, pc)) ∨
        ∃ sink ∈ thread.targets, sink.ring? = some ring := by
  simp [rings]

/-- No two threads have a ring in common. -/
def RingsDisjoint (threads : List PublishThread) : Prop :=
  ∀ (first second : Nat) (one other : PublishThread) (ring : Nat),
    threads[first]? = some one → threads[second]? = some other →
    ring ∈ one.rings → ring ∈ other.rings → first = second

/-- A thread may take up rings that no other thread has. -/
theorem RingsDisjoint.set
    {threads : List PublishThread} {index : Nat} {thread : PublishThread}
    (disjoint : RingsDisjoint threads)
    (new :
      ∀ ring ∈ thread.rings, ∀ (other : Nat) (before : PublishThread),
        other ≠ index → threads[other]? = some before →
          ring ∉ before.rings) :
    RingsDisjoint (threads.set index thread) := by
  intro first second one other ring firstAt secondAt inOne inOther
  rw [List.getElem?_set] at firstAt secondAt
  by_cases firstHere : index = first
  · by_cases secondHere : index = second
    · exact firstHere.symm.trans secondHere
    · rw [if_neg secondHere] at secondAt
      rw [if_pos firstHere] at firstAt
      split at firstAt
      · cases firstAt
        exact
          absurd inOther
            (new ring inOne second other (Ne.symm secondHere) secondAt)
      · cases firstAt
  · rw [if_neg firstHere] at firstAt
    by_cases secondHere : index = second
    · rw [if_pos secondHere] at secondAt
      split at secondAt
      · cases secondAt
        exact
          absurd inOne
            (new ring inOther first one (Ne.symm firstHere) firstAt)
      · cases secondAt
    · rw [if_neg secondHere] at secondAt
      exact disjoint first second one other ring firstAt secondAt inOne inOther

/-- A thread that goes on keeps to the rings it has. -/
theorem RingsDisjoint.keep
    {threads : List PublishThread} {index : Nat}
    {before thread : PublishThread}
    (disjoint : RingsDisjoint threads)
    (beforeAt : threads[index]? = some before)
    (kept : ∀ ring ∈ thread.rings, ring ∈ before.rings) :
    RingsDisjoint (threads.set index thread) := by
  refine disjoint.set ?_
  intro ring member other otherThread different otherAt inOther
  exact
    different
      (disjoint other index otherThread before ring otherAt beforeAt inOther
        (kept ring member))

theorem inProgress_fst
    {object ring : Nat} {pc after : WriterPc}
    (writing : inProgress object pc = some (ring, after)) : ring = object := by
  cases pc <;> cases writing <;> rfl

theorem rings_of_rest
    {bytes : Bytes} {held rest : List SinkHandle} {sink : SinkHandle}
    (ring : Nat)
    (member : ring ∈ PublishThread.rings ⟨bytes, held, rest, none⟩) :
    ring ∈ PublishThread.rings ⟨bytes, held, sink :: rest, none⟩ := by
  rw [PublishThread.mem_rings] at member ⊢
  rcases member with ⟨pc, idle⟩ | ⟨other, later, writes⟩
  · cases idle
  · exact .inr ⟨other, List.mem_cons_of_mem sink later, writes⟩

/-- The collected sinks are among those of the topic. -/
theorem rings_of_collected
    {node : ThreadedNode} {alive : SinkHandle → Bool} {topic typeName : Text}
    {ring : Nat}
    (member :
      ring ∈
        ((node.fabric.planes node.pid).bus.publish alive topic
          typeName).2.filterMap (·.ring?)) :
    ring ∈ node.routedRings topic := by
  obtain ⟨sink, collected, writes⟩ := List.mem_filterMap.mp member
  refine List.mem_filterMap.mpr ⟨sink, ?_, writes⟩
  rw [LocalBus.publish_targets] at collected
  split at collected
  · rw [List.mem_append] at collected ⊢
    exact
      collected.imp (fun kept => (List.mem_filter.mp kept).1) fun kept =>
        (List.mem_filter.mp kept).1
  · cases collected

theorem RingsDisjoint.step
    {node target : ThreadedNode} {input : ThreadInput}
    {emitted : List FabricEvent} (disjoint : RingsDisjoint node.threads)
    (allowed : SerialPublish node input)
    (stepped : node.step input = some (target, emitted)) :
    RingsDisjoint target.threads := by
  cases input with
  | fabric input =>
      obtain ⟨after, _, equal⟩ := Option.map_eq_some_iff.mp stepped
      cases equal
      exact disjoint
  | publish index topic typeName bytes =>
      simp only [ThreadedNode.step, ThreadedNode.publish] at stepped
      split at stepped
      · cases stepped
        refine disjoint.set ?_
        intro ring member other before different beforeAt taken
        have bound := (List.getElem?_eq_some_iff.mp beforeAt).1
        exact
          allowed other bound different before beforeAt ring taken
            (rings_of_collected (by simpa [PublishThread.rings] using member))
      · cases stepped
  | enqueue index =>
      simp only [ThreadedNode.step, ThreadedNode.enqueue] at stepped
      split at stepped
      · rename_i bytes held sink rest found
        cases sink with
        | shm serial object name =>
            cases stepped
            refine disjoint.keep found fun ring member => ?_
            rw [PublishThread.mem_rings] at member ⊢
            rcases member with ⟨pc, current⟩ | ⟨sink, later, writes⟩
            · rw [inProgress_fst current]
              exact .inr ⟨_, List.mem_cons_self, rfl⟩
            · exact .inr ⟨sink, List.mem_cons_of_mem _ later, writes⟩
        | remote serial topic peer =>
            cases stepped
            exact disjoint.keep found rings_of_rest
        | subscriber serial topic typeName =>
            cases stepped
            exact disjoint.keep found rings_of_rest
      · cases stepped
  | store index =>
      simp only [ThreadedNode.step, ThreadedNode.store] at stepped
      split at stepped
      · rename_i bytes held targets object pc found
        obtain ⟨stored, _, equal⟩ := Option.map_eq_some_iff.mp stepped
        cases equal
        refine disjoint.keep found fun ring member => ?_
        rw [PublishThread.mem_rings] at member ⊢
        rcases member with ⟨pc, current⟩ | later
        · rw [inProgress_fst current]
          exact .inl ⟨_, rfl⟩
        · exact .inr later
      · cases stepped
  | finish index =>
      simp only [ThreadedNode.step, ThreadedNode.finish] at stepped
      split at stepped
      · cases stepped
        refine disjoint.set fun ring member => ?_
        cases member
      · cases stepped

/-- If no thread enters `publish` on a topic while another thread writes, or
has still to write, to a ring of the topic, then at most one write is between
its `fetch_add` and its last store in every ring. -/
theorem ring_has_one_writer
    {inputs : List ThreadInput} {node : ThreadedNode}
    {events : List FabricEvent}
    (run : threadedNodeMachine.Run SerialPublish inputs node events)
    {first second object : Nat} {one other : PublishThread}
    {onePc otherPc : WriterPc}
    (firstAt : node.threads[first]? = some one)
    (secondAt : node.threads[second]? = some other)
    (oneWrites : one.writing = some (object, onePc))
    (otherWrites : other.writing = some (object, otherPc)) :
    first = second := by
  have disjoint : RingsDisjoint node.threads := by
    refine run.invariant (fun node _ => RingsDisjoint node.threads) ?_ ?_
    · rintro node ⟨pid, hosts, shm, count, rfl⟩
      intro first second one other ring firstAt _ inOne
      rw [List.getElem?_replicate] at firstAt
      split at firstAt
      · cases firstAt
        cases inOne
      · cases firstAt
    · intro node events input target emitted disjoint allowed stepped
      exact disjoint.step allowed stepped
  exact
    disjoint first second one other object firstAt secondAt
      (PublishThread.mem_rings.mpr (.inl ⟨onePc, oneWrites⟩))
      (PublishThread.mem_rings.mpr (.inl ⟨otherPc, otherWrites⟩))

/-! ## Two threads on one topic -/

/-- Node 1 with two threads, on one host with the subscriber. -/
def twoThreads : ThreadedNode :=
  ⟨1, oneHostFabric, [.idle, .idle]⟩

/-- A topic with one subscriber on the host. -/
def routedTopic : List ThreadInput :=
  (connect ['t'] ['T']).map .fabric

/-- A thread publishes a one-byte message and returns. -/
def wholePublish (thread : Nat) : List ThreadInput :=
  [.publish thread ['t'] ['T'] [7], .enqueue thread, .store thread,
    .store thread, .store thread, .store thread, .finish thread]

/-- The second thread publishes after the first one. -/
def oneAfterTheOther : List ThreadInput :=
  routedTopic ++ wholePublish 0 ++
    [.publish 1 ['t'] ['T'] [8], .enqueue 1, .store 1]

/-- Both threads claim a position. -/
def bothClaim : List ThreadInput :=
  routedTopic ++
    [.publish 0 ['t'] ['T'] [7], .publish 1 ['t'] ['T'] [8], .enqueue 0,
      .enqueue 1]

/-- The peer is lost and found again while the first thread writes; then the
second thread publishes. -/
def rematchedMeanwhile : List ThreadInput :=
  routedTopic ++
    [.publish 0 ['t'] ['T'] [7], .enqueue 0,
      .fabric (.handleUnmatch 1 (publisherMatch ['t'] ['T'])),
      .fabric (.handleMatch 1 (publisherMatch ['t'] ['T']) .created),
      .publish 1 ['t'] ['T'] [8]]

/-- A thread writes to the first object of the host. -/
def writes (node : ThreadedNode) (index : Nat) : Bool :=
  node.threads[index]?.any fun thread => thread.writing.any fun w => w.1 = 0

theorem exists_of_writes
    {node : ThreadedNode} {index : Nat} (checked : writes node index = true) :
    ∃ thread pc, node.threads[index]? = some thread ∧
      thread.writing = some (0, pc) := by
  obtain ⟨thread, found, writing⟩ := (Option.any_eq_true _ _).mp checked
  obtain ⟨⟨object, pc⟩, current, first⟩ := (Option.any_eq_true _ _).mp writing
  cases of_decide_eq_true first
  exact ⟨thread, pc, found, current⟩

/-- In the middle of the second write. -/
theorem ring_has_one_writer_serial :
    ∃ node events,
      threadedNodeMachine.Run SerialPublish oneAfterTheOther node events ∧
        ∃ thread pc, node.threads[1]? = some thread ∧
          thread.writing = some (0, pc) ∧
          ∀ (other : Nat) (otherThread : PublishThread) (otherPc : WriterPc),
            node.threads[other]? = some otherThread →
            otherThread.writing = some (0, otherPc) → 1 = other := by
  obtain ⟨node, events, run, checked⟩ :=
    Machine.run_of_exec_check threadedNodeMachine SerialPublish oneAfterTheOther
      twoThreads (fun node _ => writes node 1) ⟨1, _, _, 2, rfl⟩
      (by decide +kernel)
  obtain ⟨thread, pc, found, current⟩ := exists_of_writes checked
  exact ⟨node, events, run, thread, pc, found, current,
    fun _ _ _ otherAt writing =>
      ring_has_one_writer run found otherAt current writing⟩

/-- Two threads publish at the same time and write to one ring. -/
theorem ring_has_two_writers :
    ¬ ∀ (inputs : List ThreadInput) (node : ThreadedNode)
        (events : List FabricEvent) (first second object : Nat)
        (one other : PublishThread) (onePc otherPc : WriterPc),
        threadedNodeMachine.Run Machine.free inputs node events →
        node.threads[first]? = some one → node.threads[second]? = some other →
        one.writing = some (object, onePc) →
        other.writing = some (object, otherPc) → first = second := by
  intro claimed
  obtain ⟨node, events, run, checked⟩ :=
    Machine.run_of_exec_check threadedNodeMachine Machine.free bothClaim
      twoThreads (fun node _ => writes node 0 && writes node 1)
      ⟨1, _, _, 2, rfl⟩ (by decide +kernel)
  obtain ⟨firstWrites, secondWrites⟩ := Bool.and_eq_true_iff.mp checked
  obtain ⟨one, onePc, oneAt, oneCurrent⟩ := exists_of_writes firstWrites
  obtain ⟨other, otherPc, otherAt, otherCurrent⟩ :=
    exists_of_writes secondWrites
  exact
    absurd
      (claimed _ node events 0 1 0 one other onePc otherPc run oneAt otherAt
        oneCurrent otherCurrent)
      (by decide)

/-- The first thread holds the dropped sink, so its segment is created again
in place, and the second thread would write to the same ring. -/
example :
    (threadedNodeMachine.exec SerialPublish twoThreads
        rematchedMeanwhile).isNone ∧
      (threadedNodeMachine.exec Machine.free twoThreads
        (rematchedMeanwhile ++ [.enqueue 1])).any fun after =>
          writes after.1 0 && writes after.1 1 := by
  decide +kernel

end MiniMiddleware.Core
