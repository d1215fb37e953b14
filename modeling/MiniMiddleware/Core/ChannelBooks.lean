import MiniMiddleware.Core.Node
import MiniMiddleware.Library.RefCounts

/-!
# The books of the data plane

What the tables of a data plane say about the active matches: one TCP sink for
each match over TCP, counted for each peer; one writer for each topic and one
reader for each segment, counted over the matches that use them; and exactly
these sinks on the bus.  Each book is kept by `handle_match` and
`handle_unmatch`, one lemma for each route.
-/

namespace MiniMiddleware.Core

open MiniMiddleware.Library MiniMiddleware.Discovery MiniMiddleware.Transport

/-! ## Resources -/

/-- The peer whose connection a match uses. -/
def tcpPeer (plane : DataPlane) (m : MatchInfo) : Option Nat :=
  if plane.route m = .tcpPub then some m.remoteParticipantId else none

/-- The topic whose writer an installed match uses. -/
def writerTopic (m : MatchInfo) : Option Text :=
  some m.localEndpoint.topic

/-- The segment whose reader a match uses. -/
def readerName (plane : DataPlane) (m : MatchInfo) : Option Text :=
  if plane.route m = .shmSub then
    some (segName m.remoteParticipantId m.localEndpoint.topic)
  else
    none

/-- The sinks that the tables of the data plane hold for a topic. -/
def OwnSink (plane : DataPlane) (topic : Text) (handle : SinkHandle) : Prop :=
  (∃ (key : Text) (serial peer : Nat),
      plane.sinks[key]? = some handle ∧
        handle = .remote serial topic peer) ∨
    ∃ pub, plane.shmPub[topic]? = some pub ∧ pub.sink = handle

theorem tcpPeer_congr
    {plane other : DataPlane} (same : plane.SameIdentity other) :
    tcpPeer other = tcpPeer plane := by
  funext m
  simp only [tcpPeer, same.route]

theorem readerName_congr
    {plane other : DataPlane} (same : plane.SameIdentity other) :
    readerName other = readerName plane := by
  funext m
  simp only [readerName, same.route]

/-! ## TCP -/

/-- The books of the TCP sinks and connections. -/
structure TcpBooks (active : Std.TreeMap Text MatchInfo) (plane : DataPlane) :
    Prop where
  follow : SinksFollow active plane
  distinct :
    ∀ (key other : Text) (handle : SinkHandle),
      plane.sinks[key]? = some handle → plane.sinks[other]? = some handle →
      key = other
  serials :
    ∀ (key : Text) (serial peer : Nat) (topic : Text),
      plane.sinks[key]? = some (.remote serial topic peer) →
      serial < plane.nextSerial
  peers : Counted (fun pid => plane.refcount[pid]?) (tcpPeer plane) active
  connections : ∀ pid : Nat, pid ∈ plane.connections ↔ pid ∈ plane.refcount

/-- Every sink is a remote sink for the topic and the peer of its match. -/
theorem SinksFollow.handle
    {active : Std.TreeMap Text MatchInfo} {plane : DataPlane}
    (follow : SinksFollow active plane) {key : Text} {handle : SinkHandle}
    (found : plane.sinks[key]? = some handle) :
    ∃ m serial,
      active[key]? = some m ∧ plane.route m = .tcpPub ∧
        handle =
          .remote serial m.localEndpoint.topic m.remoteParticipantId := by
  obtain ⟨m, isActive, routed⟩ := follow.justified key handle found
  obtain ⟨serial, sink⟩ := follow.present key m isActive routed
  rw [found] at sink
  exact ⟨m, serial, isActive, routed, Option.some.inj sink⟩

section Steps

variable {active : Std.TreeMap Text MatchInfo} {plane : DataPlane}
  {m : MatchInfo}

theorem SinksFollow.unused
    (follow : SinksFollow active plane) (fresh : matchKey m ∉ active) :
    matchKey m ∉ plane.sinks := by
  intro used
  obtain ⟨handle, found⟩ :=
    Option.isSome_iff_exists.mp
      (Std.TreeMap.mem_iff_isSome_getElem?.mp used)
  obtain ⟨old, oldFound, _⟩ := follow.justified _ _ found
  exact fresh (Std.TreeMap.mem_iff_isSome_getElem?.mpr (by simp [oldFound]))

/-- A match that is not routed over TCP leaves the TCP tables alone. -/
theorem tcp_frame_handleMatch
    (running : plane.stopped = false) (memory : SharedMemory)
    (outcome : CreateOutcome) (notTcp : plane.route m ≠ .tcpPub) :
    let after := (plane.handleMatch memory m outcome).1
    after.sinks = plane.sinks ∧ after.refcount = plane.refcount ∧
      after.connections = plane.connections ∧
      plane.nextSerial ≤ after.nextSerial := by
  rw [DataPlane.handleMatch_eq running]
  cases routed : plane.route m with
  | ignored =>
      exact ⟨rfl, rfl, rfl, Nat.le_refl _⟩
  | tcpPub =>
      exact absurd routed notTcp
  | shmPub =>
      unfold DataPlane.shmPubMatch
      dsimp only
      split
      · exact ⟨rfl, rfl, rfl, Nat.le_refl _⟩
      · split
        · exact ⟨rfl, rfl, rfl, Nat.le_refl _⟩
        · exact ⟨rfl, rfl, rfl, Nat.le_succ _⟩
  | shmSub =>
      unfold DataPlane.shmSubMatch
      dsimp only
      split <;> exact ⟨rfl, rfl, rfl, Nat.le_refl _⟩

/-- Neither does an unmatch that is not routed over TCP touch them. -/
theorem tcp_frame_handleUnmatch
    (running : plane.stopped = false) (memory : SharedMemory)
    (notTcp : plane.route m ≠ .tcpPub) :
    let after := (plane.handleUnmatch memory m).1
    after.sinks = plane.sinks ∧ after.refcount = plane.refcount ∧
      after.connections = plane.connections ∧
      after.nextSerial = plane.nextSerial := by
  rw [DataPlane.handleUnmatch_eq running]
  cases routed : plane.route m with
  | ignored =>
      exact ⟨rfl, rfl, rfl, rfl⟩
  | tcpPub =>
      exact absurd routed notTcp
  | shmPub =>
      unfold DataPlane.shmPubUnmatch
      dsimp only
      split
      · exact ⟨rfl, rfl, rfl, rfl⟩
      · split_ifs <;> exact ⟨rfl, rfl, rfl, rfl⟩
  | shmSub =>
      unfold DataPlane.shmSubUnmatch
      dsimp only
      split
      · exact ⟨rfl, rfl, rfl, rfl⟩
      · split_ifs <;> exact ⟨rfl, rfl, rfl, rfl⟩

theorem TcpBooks.matched
    (books : TcpBooks active plane) (memory : SharedMemory)
    (outcome : CreateOutcome) (fresh : matchKey m ∉ active) :
    TcpBooks (active.insert (matchKey m) m)
      (plane.handleMatch memory m outcome).1 := by
  have running := books.follow.stopped
  have same := DataPlane.sameIdentity_handleMatch running memory m outcome
  have follow := books.follow.matched memory outcome fresh
  by_cases routed : plane.route m = .tcpPub
  · have unused := books.follow.unused fresh
    have sinks := DataPlane.sinks_handleMatch running memory m outcome
    have tables := DataPlane.tcpPubMatch_tables unused
    have isTcp :
        (plane.handleMatch memory m outcome).1 = plane.tcpPubMatch m := by
      rw [DataPlane.handleMatch_eq running, routed]
    rw [isTcp] at same follow sinks ⊢
    obtain ⟨_, serial, counts, connections⟩ := tables
    refine ⟨follow, ?_, ?_, ?_, ?_⟩
    · -- The new sink has a serial number that no other sink has.
      intro key other handle first second
      rw [sinks] at first second
      split at first <;> split at second
      · rename_i isNew alsoNew
        exact isNew.2.1.symm.trans alsoNew.2.1
      · cases first
        exact absurd (books.serials _ _ _ _ second) (Nat.lt_irrefl _)
      · cases second
        exact absurd (books.serials _ _ _ _ first) (Nat.lt_irrefl _)
      · exact books.distinct key other handle first second
    · intro key number peer topic found
      rw [sinks] at found
      rw [serial]
      split at found
      · cases found
        exact Nat.lt_succ_self _
      · exact (books.serials _ _ _ _ found).trans (Nat.lt_succ_self _)
    · rw [tcpPeer_congr same]
      refine books.peers.insert fresh (by rw [tcpPeer, if_pos routed]) ?_ ?_
      · rw [counts, if_pos rfl]
      · intro other different
        rw [counts, if_neg fun equal => different equal.symm]
    · intro pid
      rw [connections, books.connections, Std.TreeMap.mem_iff_isSome_getElem?,
        Std.TreeMap.mem_iff_isSome_getElem?, counts]
      by_cases equal : m.remoteParticipantId = pid
      · simp [equal]
      · simp [equal]
  · obtain ⟨sinks, refcount, connections, serial⟩ :=
      tcp_frame_handleMatch running memory outcome routed
    refine ⟨follow, ?_, ?_, ?_, ?_⟩
    · rw [sinks]
      exact books.distinct
    · intro key number peer topic found
      rw [sinks] at found
      exact (books.serials _ _ _ _ found).trans_le serial
    · rw [refcount, tcpPeer_congr same]
      exact books.peers.insert_none fresh (by rw [tcpPeer, if_neg routed])
    · rw [connections, refcount]
      exact books.connections

theorem SinksFollow.unmatched
    (follow : SinksFollow active plane) (memory : SharedMemory)
    (isActive : active[matchKey m]? = some m) :
    SinksFollow (active.erase (matchKey m))
      (plane.handleUnmatch memory m).1 := by
  have same := DataPlane.sameIdentity_handleUnmatch follow.stopped memory m
  have sinks := DataPlane.sinks_handleUnmatch follow.stopped memory m
  refine ⟨same.stopped.trans follow.stopped, ?_, ?_⟩
  · intro key other found routed
    rw [same.route] at routed
    obtain ⟨different, old⟩ := getElem?_erase_eq_some.mp found
    rw [sinks, if_neg fun taken => different taken.2]
    exact follow.present key other old routed
  · intro key handle found
    rw [sinks] at found
    split at found
    · cases found
    · rename_i kept
      obtain ⟨other, otherActive, routed⟩ := follow.justified key handle found
      refine ⟨other, ?_, by rw [same.route]; exact routed⟩
      rw [Std.TreeMap.getElem?_erase, if_neg]
      · exact otherActive
      · intro equal
        have sameKey : matchKey m = key := Std.compare_eq_iff_eq.mp equal
        rw [← sameKey, isActive] at otherActive
        cases otherActive
        exact kept ⟨routed, sameKey⟩

theorem TcpBooks.unmatched
    (books : TcpBooks active plane) (memory : SharedMemory)
    (isActive : active[matchKey m]? = some m) :
    TcpBooks (active.erase (matchKey m))
      (plane.handleUnmatch memory m).1 := by
  have running := books.follow.stopped
  have same := DataPlane.sameIdentity_handleUnmatch running memory m
  have follow := books.follow.unmatched memory isActive
  by_cases routed : plane.route m = .tcpPub
  · obtain ⟨serial, sink⟩ := books.follow.present _ _ isActive routed
    have sinks := DataPlane.sinks_handleUnmatch running memory m
    have tables := DataPlane.tcpPubUnmatch_tables sink
    have isTcp :
        (plane.handleUnmatch memory m).1 = plane.tcpPubUnmatch m := by
      rw [DataPlane.handleUnmatch_eq running, routed]
    rw [isTcp] at same follow sinks ⊢
    obtain ⟨_, serials, counts, connections⟩ := tables
    have old {key : Text} {handle : SinkHandle}
        (found : (plane.tcpPubUnmatch m).sinks[key]? = some handle) :
        plane.sinks[key]? = some handle := by
      rw [sinks] at found
      split at found
      · cases found
      · exact found
    refine ⟨follow, ?_, ?_, ?_, ?_⟩
    · intro key other handle first second
      exact books.distinct key other handle (old first) (old second)
    · intro key number peer topic found
      rw [serials]
      exact books.serials _ _ _ _ (old found)
    · rw [tcpPeer_congr same]
      refine books.peers.erase isActive (by rw [tcpPeer, if_pos routed]) ?_ ?_
      · rw [counts, if_pos rfl]
      · intro other different
        rw [counts, if_neg fun equal => different equal.symm]
    · intro pid
      rw [connections, books.connections, Std.TreeMap.mem_iff_isSome_getElem?,
        Std.TreeMap.mem_iff_isSome_getElem?, counts]
      by_cases equal : m.remoteParticipantId = pid
      · subst equal
        have counted :=
          books.peers.found isActive (by rw [tcpPeer, if_pos routed])
        rw [counted]
        simp only [if_true, true_and]
        split <;> simp_all
      · simp [equal]
  · obtain ⟨sinks, refcount, connections, serial⟩ :=
      tcp_frame_handleUnmatch running memory routed
    refine ⟨follow, ?_, ?_, ?_, ?_⟩
    · rw [sinks]
      exact books.distinct
    · intro key number peer topic found
      rw [sinks] at found
      rw [serial]
      exact books.serials _ _ _ _ found
    · rw [refcount, tcpPeer_congr same]
      exact books.peers.erase_none isActive (by rw [tcpPeer, if_neg routed])
    · rw [connections, refcount]
      exact books.connections

/-! ## Shared-memory readers -/

/-- The books of the readers. -/
structure ReaderBooks (active : Std.TreeMap Text MatchInfo)
    (plane : DataPlane) : Prop where
  counts :
    Counted (fun name => plane.shmSubRef[name]?) (readerName plane) active
  entries :
    ∃ readers,
      plane.shmReaders = some readers ∧
        ∀ name : Text, name ∈ readers ↔ name ∈ plane.shmSubRef

/-- A match that is not routed to a reader leaves the readers alone. -/
theorem reader_frame_handleMatch
    (running : plane.stopped = false) (memory : SharedMemory)
    (outcome : CreateOutcome) (notReader : plane.route m ≠ .shmSub) :
    let after := (plane.handleMatch memory m outcome).1
    after.shmSubRef = plane.shmSubRef ∧
      after.shmReaders = plane.shmReaders := by
  rw [DataPlane.handleMatch_eq running]
  cases routed : plane.route m with
  | ignored =>
      exact ⟨rfl, rfl⟩
  | tcpPub =>
      exact (plane.tcpPubMatch_shm m).2
  | shmPub =>
      exact plane.shmPubMatch_readers memory m outcome
  | shmSub =>
      exact absurd routed notReader

theorem reader_frame_handleUnmatch
    (running : plane.stopped = false) (memory : SharedMemory)
    (notReader : plane.route m ≠ .shmSub) :
    let after := (plane.handleUnmatch memory m).1
    after.shmSubRef = plane.shmSubRef ∧
      after.shmReaders = plane.shmReaders := by
  rw [DataPlane.handleUnmatch_eq running]
  cases routed : plane.route m with
  | ignored =>
      exact ⟨rfl, rfl⟩
  | tcpPub =>
      exact (plane.tcpPubUnmatch_shm m).2
  | shmPub =>
      exact (plane.shmPubUnmatch_cases memory m).2.2
  | shmSub =>
      exact absurd routed notReader

/-- What `shm_sub_match` does to the counts and the entries. -/
theorem shmSubMatch_tables (plane : DataPlane) (m : MatchInfo) :
    let own := segName m.remoteParticipantId m.localEndpoint.topic
    let after := plane.shmSubMatch m
    (∀ name : Text,
      after.shmSubRef[name]? =
        if own = name then some (plane.shmSubRef[name]?.getD 0 + 1)
        else plane.shmSubRef[name]?) ∧
      ∀ readers, plane.shmReaders = some readers →
        (∀ name : Text, name ∈ readers ↔ name ∈ plane.shmSubRef) →
        ∃ later,
          after.shmReaders = some later ∧
            ∀ name : Text, name ∈ later ↔ own = name ∨ name ∈ readers := by
  unfold DataPlane.shmSubMatch
  dsimp only
  cases found :
      plane.shmSubRef[segName m.remoteParticipantId m.localEndpoint.topic]? with
  | none =>
      refine ⟨fun name => ?_, fun readers held agree => ?_⟩
      · rw [Std.TreeMap.getElem?_insert]
        by_cases same :
            segName m.remoteParticipantId m.localEndpoint.topic = name
        · subst same
          simp [found]
        · simp [same]
      · have absent :
            segName m.remoteParticipantId m.localEndpoint.topic ∉ readers := by
          rw [agree, Std.TreeMap.mem_iff_isSome_getElem?, found]
          simp
        refine ⟨_, by rw [held]; rfl, fun name => ?_⟩
        simp [DataPlane.addReader, absent, Std.TreeMap.mem_insert]
  | some ref =>
      refine ⟨fun name => ?_, fun readers held agree => ?_⟩
      · rw [Std.TreeMap.getElem?_insert]
        by_cases same :
            segName m.remoteParticipantId m.localEndpoint.topic = name
        · subst same
          simp [found]
        · simp [same]
      · refine ⟨readers, held, fun name => ⟨Or.inr, ?_⟩⟩
        rintro (rfl | old)
        · rw [agree, Std.TreeMap.mem_iff_isSome_getElem?, found]
          rfl
        · exact old

/-- What `shm_sub_unmatch` does to a segment that is counted. -/
theorem shmSubUnmatch_tables
    {ref : Int}
    (found :
      plane.shmSubRef[segName m.remoteParticipantId
        m.localEndpoint.topic]? = some ref) :
    let own := segName m.remoteParticipantId m.localEndpoint.topic
    let after := plane.shmSubUnmatch m
    (∀ name : Text,
      after.shmSubRef[name]? =
        if own = name then if ref - 1 ≤ 0 then none else some (ref - 1)
        else plane.shmSubRef[name]?) ∧
      ∀ readers, plane.shmReaders = some readers →
        ∃ later,
          after.shmReaders = some later ∧
            ∀ name : Text,
              name ∈ later ↔ name ∈ readers ∧ ¬ (own = name ∧ ref - 1 ≤ 0) := by
  simp only [DataPlane.shmSubUnmatch, found]
  by_cases more : 0 < ref - 1
  · have notLast : ¬ ref - 1 ≤ 0 := by omega
    simp only [more, if_true, notLast, if_false, and_false, not_false_eq_true,
      and_true]
    refine ⟨fun name => ?_, fun readers held => ⟨readers, held, fun _ => Iff.rfl⟩⟩
    rw [Std.TreeMap.getElem?_insert]
    simp only [Std.compare_eq_iff_eq]
  · have last : ref - 1 ≤ 0 := by omega
    simp only [more, if_false, last, if_true, and_true]
    refine ⟨fun name => ?_, fun readers held => ?_⟩
    · rw [Std.TreeMap.getElem?_erase]
      simp only [Std.compare_eq_iff_eq]
    · refine ⟨_, by rw [held]; rfl, fun name => ?_⟩
      simp [Std.TreeMap.mem_erase, and_comm]

theorem ReaderBooks.matched
    (books : ReaderBooks active plane) (running : plane.stopped = false)
    (memory : SharedMemory) (outcome : CreateOutcome)
    (fresh : matchKey m ∉ active) :
    ReaderBooks (active.insert (matchKey m) m)
      (plane.handleMatch memory m outcome).1 := by
  have same := DataPlane.sameIdentity_handleMatch running memory m outcome
  by_cases routed : plane.route m = .shmSub
  · have isReader :
        (plane.handleMatch memory m outcome).1 = plane.shmSubMatch m := by
      rw [DataPlane.handleMatch_eq running, routed]
    rw [isReader] at same ⊢
    obtain ⟨counts, entries⟩ := shmSubMatch_tables plane m
    refine ⟨?_, ?_⟩
    · rw [readerName_congr same]
      refine books.counts.insert fresh (by rw [readerName, if_pos routed]) ?_ ?_
      · rw [counts, if_pos rfl]
      · intro other different
        rw [counts, if_neg fun equal => different equal.symm]
    · obtain ⟨readers, held, agree⟩ := books.entries
      obtain ⟨later, laterHeld, members⟩ := entries readers held agree
      refine ⟨later, laterHeld, fun name => ?_⟩
      rw [members, agree, Std.TreeMap.mem_iff_isSome_getElem?,
        Std.TreeMap.mem_iff_isSome_getElem?, counts]
      by_cases equal :
          segName m.remoteParticipantId m.localEndpoint.topic = name
      · simp [equal]
      · simp [equal]
  · obtain ⟨counts, entries⟩ :=
      reader_frame_handleMatch running memory outcome routed
    refine ⟨?_, ?_⟩
    · rw [counts, readerName_congr same]
      exact books.counts.insert_none fresh (by rw [readerName, if_neg routed])
    · rw [counts, entries]
      exact books.entries

theorem ReaderBooks.unmatched
    (books : ReaderBooks active plane) (running : plane.stopped = false)
    (memory : SharedMemory) (isActive : active[matchKey m]? = some m) :
    ReaderBooks (active.erase (matchKey m))
      (plane.handleUnmatch memory m).1 := by
  have same := DataPlane.sameIdentity_handleUnmatch running memory m
  by_cases routed : plane.route m = .shmSub
  · have isReader :
        (plane.handleUnmatch memory m).1 = plane.shmSubUnmatch m := by
      rw [DataPlane.handleUnmatch_eq running, routed]
    rw [isReader] at same ⊢
    have used :
        readerName plane m =
          some (segName m.remoteParticipantId m.localEndpoint.topic) := by
      rw [readerName, if_pos routed]
    have counted := books.counts.found isActive used
    obtain ⟨counts, entries⟩ := shmSubUnmatch_tables counted
    refine ⟨?_, ?_⟩
    · rw [readerName_congr same]
      refine books.counts.erase isActive used ?_ ?_
      · rw [counts, if_pos rfl, counted]
        rfl
      · intro other different
        rw [counts, if_neg fun equal => different equal.symm]
    · obtain ⟨readers, held, agree⟩ := books.entries
      obtain ⟨later, laterHeld, members⟩ := entries readers held
      refine ⟨later, laterHeld, fun name => ?_⟩
      rw [members, agree, Std.TreeMap.mem_iff_isSome_getElem?,
        Std.TreeMap.mem_iff_isSome_getElem?, counts]
      by_cases equal :
          segName m.remoteParticipantId m.localEndpoint.topic = name
      · subst equal
        rw [counted]
        simp only [if_true, true_and]
        split <;> simp_all
      · simp [equal]
  · obtain ⟨counts, entries⟩ :=
      reader_frame_handleUnmatch running memory routed
    refine ⟨?_, ?_⟩
    · rw [counts, readerName_congr same]
      exact books.counts.erase_none isActive (by rw [readerName, if_neg routed])
    · rw [counts, entries]
      exact books.entries

/-! ## Shared-memory writers -/

/-- The books of the writers. -/
structure WriterBooks (installed : Std.TreeMap Text MatchInfo)
    (plane : DataPlane) : Prop where
  counts :
    Counted (fun topic => plane.shmPub[topic]?.map ShmPub.ref) writerTopic
      installed
  handles :
    ∀ (topic : Text) (pub : ShmPub), plane.shmPub[topic]? = some pub →
      ∃ serial object name, pub.sink = .shm serial object name

/-- A match that is not routed to a writer leaves the writers alone. -/
theorem writer_frame_handleMatch
    (running : plane.stopped = false) (memory : SharedMemory)
    (outcome : CreateOutcome) (notWriter : plane.route m ≠ .shmPub) :
    (plane.handleMatch memory m outcome).1.shmPub = plane.shmPub := by
  rw [DataPlane.handleMatch_eq running]
  cases routed : plane.route m with
  | ignored =>
      rfl
  | tcpPub =>
      exact (plane.tcpPubMatch_shm m).1
  | shmPub =>
      exact absurd routed notWriter
  | shmSub =>
      exact plane.shmSubMatch_writers m

theorem writer_frame_handleUnmatch
    (running : plane.stopped = false) (memory : SharedMemory)
    (notWriter : plane.route m ≠ .shmPub) :
    (plane.handleUnmatch memory m).1.shmPub = plane.shmPub := by
  rw [DataPlane.handleUnmatch_eq running]
  cases routed : plane.route m with
  | ignored =>
      rfl
  | tcpPub =>
      exact (plane.tcpPubUnmatch_shm m).1
  | shmPub =>
      exact absurd routed notWriter
  | shmSub =>
      exact plane.shmSubUnmatch_writers m

theorem shmPubUnmatch_of_found
    {pub : ShmPub} (found : plane.shmPub[m.localEndpoint.topic]? = some pub)
    (memory : SharedMemory) :
    (plane.shmPubUnmatch memory m).1 =
      if 0 < pub.ref - 1 then
        { plane with
          shmPub :=
            plane.shmPub.insert m.localEndpoint.topic
              { pub with ref := pub.ref - 1 } }
      else
        { plane with
          bus :=
            plane.bus.removeRemoteSink plane.alive m.localEndpoint.topic
              pub.sink
          shmPub := plane.shmPub.erase m.localEndpoint.topic } := by
  simp only [DataPlane.shmPubUnmatch, found]
  split <;> rfl

theorem shmPubUnmatch_of_missing
    (missing : plane.shmPub[m.localEndpoint.topic]? = none)
    (memory : SharedMemory) :
    (plane.shmPubUnmatch memory m).1 = plane := by
  simp only [DataPlane.shmPubUnmatch, missing]

variable {installed : Std.TreeMap Text MatchInfo}

theorem WriterBooks.matched
    (books : WriterBooks installed plane) (memory : SharedMemory)
    (outcome : CreateOutcome) (fresh : matchKey m ∉ installed) :
    WriterBooks
      (if m.localEndpoint.topic ∈
          (plane.shmPubMatch memory m outcome).1.shmPub then
        installed.insert (matchKey m) m
      else
        installed)
      (plane.shmPubMatch memory m outcome).1 := by
  cases plane.shmPubMatch_cases memory m outcome with
  | counted pub found writers _ _ =>
      rw [writers, if_pos (by simp [Std.TreeMap.mem_insert])]
      refine ⟨?_, ?_⟩
      · refine books.counts.insert fresh rfl ?_ ?_
        · simp [writers, found]
        · intro other different
          rw [writers, Std.TreeMap.getElem?_insert, if_neg]
          simpa using fun equal => different equal.symm
      · intro topic other held
        rw [writers] at held
        rcases getElem?_insert_eq_some.mp held with ⟨_, rfl⟩ | ⟨_, old⟩
        · exact books.handles _ pub found
        · exact books.handles topic other old
  | created object missing _ writers _ _ =>
      rw [writers, if_pos (by simp [Std.TreeMap.mem_insert])]
      refine ⟨?_, ?_⟩
      · refine books.counts.insert fresh rfl ?_ ?_
        · simp [writers, missing]
        · intro other different
          rw [writers, Std.TreeMap.getElem?_insert, if_neg]
          simpa using fun equal => different equal.symm
      · intro topic other held
        rw [writers] at held
        rcases getElem?_insert_eq_some.mp held with ⟨_, rfl⟩ | ⟨_, old⟩
        · exact ⟨_, _, _, rfl⟩
        · exact books.handles topic other old
  | failed missing _ writers _ _ =>
      rw [writers, if_neg]
      · exact ⟨by rw [writers]; exact books.counts,
          by rw [writers]; exact books.handles⟩
      · rw [Std.TreeMap.mem_iff_isSome_getElem?, missing]
        simp

/-- An installed match is unmatched: its topic has a writer, which is counted
down and dropped with the last match. -/
theorem WriterBooks.unmatched
    (books : WriterBooks installed plane) (memory : SharedMemory)
    (isInstalled : installed[matchKey m]? = some m) :
    WriterBooks (installed.erase (matchKey m))
      (plane.shmPubUnmatch memory m).1 := by
  have counted := books.counts.found isInstalled rfl
  obtain ⟨pub, found, ref⟩ := Option.map_eq_some_iff.mp counted
  have stored :
      (plane.shmPub[m.localEndpoint.topic]?.map ShmPub.ref).getD 0 =
        pub.ref := by
    rw [found]
    rfl
  rw [shmPubUnmatch_of_found found]
  split
  · rename_i more
    have notLast : ¬ pub.ref - 1 ≤ 0 := by omega
    refine ⟨?_, ?_⟩
    · refine books.counts.erase isInstalled rfl ?_ ?_
      · rw [stored, if_neg notLast]
        simp
      · intro other different
        rw [Std.TreeMap.getElem?_insert, if_neg]
        simpa using fun equal => different equal.symm
    · intro topic other held
      rcases getElem?_insert_eq_some.mp held with ⟨_, rfl⟩ | ⟨_, old⟩
      · exact books.handles _ pub found
      · exact books.handles topic other old
  · rename_i noMore
    have last : pub.ref - 1 ≤ 0 := by omega
    refine ⟨?_, ?_⟩
    · refine books.counts.erase isInstalled rfl ?_ ?_
      · rw [stored, if_pos last]
        simp
      · intro other different
        rw [Std.TreeMap.getElem?_erase, if_neg]
        simpa using fun equal => different equal.symm
    · intro topic other held
      exact books.handles topic other (getElem?_erase_eq_some.mp held).2

/-- A match keeps the sinks of the writers that are there. -/
theorem writerSink_handleMatch
    (running : plane.stopped = false) (memory : SharedMemory)
    (outcome : CreateOutcome) {topic : Text} {pub : ShmPub}
    (found : plane.shmPub[topic]? = some pub) :
    ∃ later,
      (plane.handleMatch memory m outcome).1.shmPub[topic]? = some later ∧
        later.sink = pub.sink := by
  by_cases routed : plane.route m = .shmPub
  · rw [DataPlane.handleMatch_eq running, routed]
    dsimp only
    cases plane.shmPubMatch_cases memory m outcome with
    | counted old oldFound writers _ _ =>
        rw [writers, Std.TreeMap.getElem?_insert]
        split
        · rename_i same
          rw [← Std.compare_eq_iff_eq.mp same, oldFound] at found
          cases found
          exact ⟨_, rfl, rfl⟩
        · exact ⟨pub, found, rfl⟩
    | created object missing _ writers _ _ =>
        rw [writers, Std.TreeMap.getElem?_insert, if_neg]
        · exact ⟨pub, found, rfl⟩
        · intro same
          rw [← Std.compare_eq_iff_eq.mp same, missing] at found
          cases found
    | failed _ _ writers _ _ =>
        rw [writers]
        exact ⟨pub, found, rfl⟩
  · rw [writer_frame_handleMatch running memory outcome routed]
    exact ⟨pub, found, rfl⟩

theorem writerSink_handleUnmatch
    (running : plane.stopped = false) (memory : SharedMemory) {topic : Text}
    {later : ShmPub}
    (found : (plane.handleUnmatch memory m).1.shmPub[topic]? = some later) :
    ∃ pub, plane.shmPub[topic]? = some pub ∧ later.sink = pub.sink := by
  by_cases routed : plane.route m = .shmPub
  · rw [DataPlane.handleUnmatch_eq running, routed] at found
    dsimp only at found
    cases (plane.shmPubUnmatch_cases memory m).1 with
    | ignored writers _ =>
        rw [writers] at found
        exact ⟨later, found, rfl⟩
    | counted pub held writers _ =>
        rw [writers] at found
        rcases getElem?_insert_eq_some.mp found with ⟨rfl, rfl⟩ | ⟨_, old⟩
        · exact ⟨pub, held, rfl⟩
        · exact ⟨later, old, rfl⟩
    | dropped writers _ =>
        rw [writers] at found
        exact ⟨later, (getElem?_erase_eq_some.mp found).2, rfl⟩
  · rw [writer_frame_handleUnmatch running memory routed] at found
    exact ⟨later, found, rfl⟩

/-! ## The bus -/

/-- The sinks of the tables are alive. -/
theorem alive_of_ownSink
    {topic : Text} {handle : SinkHandle} (own : OwnSink plane topic handle) :
    plane.alive handle = true := by
  cases handle with
  | subscriber serial topic typeName =>
      rfl
  | remote serial topic peer =>
      simp only [DataPlane.alive, Bool.or_eq_true, List.any_eq_true,
        Prod.exists, Std.TreeMap.mem_toList_iff_getElem?_eq_some,
        decide_eq_true_eq]
      rcases own with ⟨key, _, _, found, _⟩ | ⟨pub, found, isSink⟩
      · exact Or.inl ⟨key, _, found, rfl⟩
      · exact Or.inr ⟨_, pub, found, isSink⟩
  | shm serial object name =>
      simp only [DataPlane.alive, Bool.or_eq_true, List.any_eq_true,
        Prod.exists, Std.TreeMap.mem_toList_iff_getElem?_eq_some,
        decide_eq_true_eq]
      rcases own with ⟨key, _, _, found, _⟩ | ⟨pub, found, isSink⟩
      · exact Or.inl ⟨key, _, found, rfl⟩
      · exact Or.inr ⟨_, pub, found, isSink⟩

theorem ownSink_congr
    {other : DataPlane}
    (sinks : other.sinks = plane.sinks)
    (writers :
      ∀ topic : Text,
        other.shmPub[topic]?.map ShmPub.sink =
          plane.shmPub[topic]?.map ShmPub.sink)
    (topic : Text) (handle : SinkHandle) :
    OwnSink other topic handle ↔ OwnSink plane topic handle := by
  have sameWriter := writers topic
  unfold OwnSink
  rw [sinks]
  refine or_congr_right ?_
  rw [← Option.map_eq_some_iff, ← Option.map_eq_some_iff, sameWriter]

theorem ownSink_tcpPubMatch
    (unused : matchKey m ∉ plane.sinks) (topic : Text) (handle : SinkHandle) :
    OwnSink (plane.tcpPubMatch m) topic handle ↔
      OwnSink plane topic handle ∨
        topic = m.localEndpoint.topic ∧
          handle =
            .remote plane.nextSerial m.localEndpoint.topic
              m.remoteParticipantId := by
  have sinks := DataPlane.sinks_tcpPubMatch plane m
  unfold OwnSink
  rw [(plane.tcpPubMatch_shm m).1]
  constructor
  · rintro (⟨key, serial, peer, found, isRemote⟩ | writer)
    · rw [sinks] at found
      split at found
      · cases found
        cases isRemote
        exact Or.inr ⟨rfl, rfl⟩
      · exact Or.inl (Or.inl ⟨key, serial, peer, found, isRemote⟩)
    · exact Or.inl (Or.inr writer)
  · rintro ((⟨key, serial, peer, found, isRemote⟩ | writer) | ⟨rfl, rfl⟩)
    · refine Or.inl ⟨key, serial, peer, ?_, isRemote⟩
      rw [sinks, if_neg]
      · exact found
      · rintro ⟨rfl, _⟩
        rw [Std.TreeMap.getElem?_eq_none unused] at found
        cases found
    · exact Or.inr writer
    · refine Or.inl ⟨matchKey m, plane.nextSerial, m.remoteParticipantId, ?_, rfl⟩
      rw [sinks, if_pos ⟨rfl, unused⟩]

theorem ownSink_tcpPubUnmatch
    (books : TcpBooks active plane) (writers : WriterBooks installed plane)
    {serial : Nat}
    (held :
      plane.sinks[matchKey m]? =
        some (.remote serial m.localEndpoint.topic m.remoteParticipantId))
    (topic : Text) (handle : SinkHandle) :
    OwnSink (plane.tcpPubUnmatch m) topic handle ↔
      OwnSink plane topic handle ∧
        ¬ (topic = m.localEndpoint.topic ∧
          handle =
            .remote serial m.localEndpoint.topic m.remoteParticipantId) := by
  have sinks := DataPlane.sinks_tcpPubUnmatch plane m
  unfold OwnSink
  rw [(plane.tcpPubUnmatch_shm m).1]
  constructor
  · rintro (⟨key, number, peer, found, isRemote⟩ | ⟨pub, found, isSink⟩)
    · rw [sinks] at found
      split at found
      · cases found
      · rename_i different
        refine ⟨Or.inl ⟨key, number, peer, found, isRemote⟩, ?_⟩
        rintro ⟨_, rfl⟩
        exact different (books.distinct _ _ _ held found)
    · refine ⟨Or.inr ⟨pub, found, isSink⟩, ?_⟩
      rintro ⟨_, rfl⟩
      obtain ⟨_, _, _, isShm⟩ := writers.handles topic pub found
      rw [isSink] at isShm
      cases isShm
  · rintro ⟨⟨key, number, peer, found, isRemote⟩ | writer, kept⟩
    · refine Or.inl ⟨key, number, peer, ?_, isRemote⟩
      rw [sinks, if_neg]
      · exact found
      · rintro rfl
        rw [held] at found
        cases found
        cases isRemote
        exact kept ⟨rfl, rfl⟩
    · exact Or.inr writer

/-- The bus holds exactly the sinks of the tables. -/
def BusBooks (plane : DataPlane) : Prop :=
  plane.bus.RemoteSinksAre (OwnSink plane)

theorem BusBooks.congr
    {other : DataPlane} (books : BusBooks plane)
    (bus : other.bus = plane.bus) (sinks : other.sinks = plane.sinks)
    (writers :
      ∀ topic : Text,
        other.shmPub[topic]?.map ShmPub.sink =
          plane.shmPub[topic]?.map ShmPub.sink) :
    BusBooks other := by
  unfold BusBooks
  rw [bus]
  exact LocalBus.RemoteSinksAre.congr books (ownSink_congr sinks writers)

theorem BusBooks.tcpPubMatch
    (books : BusBooks plane) (tcp : TcpBooks active plane)
    (writers : WriterBooks installed plane) (fresh : matchKey m ∉ active) :
    BusBooks (plane.tcpPubMatch m) := by
  have unused := tcp.follow.unused fresh
  unfold BusBooks
  rw [(DataPlane.tcpPubMatch_tables unused).1]
  refine LocalBus.RemoteSinksAre.congr
    (LocalBus.RemoteSinksAre.addRemoteSink books ?_)
    (ownSink_tcpPubMatch unused)
  rintro (⟨key, serial, peer, found, _⟩ | ⟨pub, found, isSink⟩)
  · exact absurd (tcp.serials _ _ _ _ found) (Nat.lt_irrefl _)
  · obtain ⟨_, _, _, isShm⟩ := writers.handles _ pub found
    rw [isSink] at isShm
    cases isShm

theorem BusBooks.tcpPubUnmatch
    (books : BusBooks plane) (tcp : TcpBooks active plane)
    (writers : WriterBooks installed plane)
    (isActive : active[matchKey m]? = some m)
    (routed : plane.route m = .tcpPub) :
    BusBooks (plane.tcpPubUnmatch m) := by
  obtain ⟨serial, held⟩ := tcp.follow.present _ _ isActive routed
  unfold BusBooks
  rw [(DataPlane.tcpPubUnmatch_tables held).1]
  exact LocalBus.RemoteSinksAre.congr
    (LocalBus.RemoteSinksAre.removeRemoteSink books
      (fun _ own => alive_of_ownSink own) _)
    (ownSink_tcpPubUnmatch tcp writers held)

theorem BusBooks.shmPubMatch
    (books : BusBooks plane) (memory : SharedMemory)
    (outcome : CreateOutcome) :
    BusBooks (plane.shmPubMatch memory m outcome).1 := by
  have sinks := (plane.shmPubMatch_frame memory m outcome).2
  cases plane.shmPubMatch_cases memory m outcome with
  | counted pub found writers bus _ =>
      refine books.congr bus sinks fun topic => ?_
      rw [writers, Std.TreeMap.getElem?_insert]
      split
      · rename_i same
        rw [← Std.compare_eq_iff_eq.mp same, found]
        rfl
      · rfl
  | created object missing _ writers bus _ =>
      unfold BusBooks
      rw [bus]
      refine LocalBus.RemoteSinksAre.congr
        (LocalBus.RemoteSinksAre.addRemoteSink books ?_) fun topic handle => ?_
      · rintro (⟨key, _, _, _, isRemote⟩ | ⟨pub, found, _⟩)
        · cases isRemote
        · rw [missing] at found
          cases found
      · unfold OwnSink
        rw [sinks, writers, or_assoc]
        refine or_congr_right ?_
        rw [Std.TreeMap.getElem?_insert]
        by_cases same : m.localEndpoint.topic = topic
        · subst same
          simp [missing, eq_comm]
        · have reversed : ¬ topic = m.localEndpoint.topic :=
            fun equal => same equal.symm
          simp [same, reversed]
  | failed _ _ writers bus _ =>
      exact books.congr bus sinks fun topic => by rw [writers]

theorem BusBooks.shmPubUnmatch
    (books : BusBooks plane) (writers : WriterBooks installed plane)
    (memory : SharedMemory) :
    BusBooks (plane.shmPubUnmatch memory m).1 := by
  cases found : plane.shmPub[m.localEndpoint.topic]? with
  | none =>
      rw [shmPubUnmatch_of_missing found]
      exact books
  | some pub =>
      rw [shmPubUnmatch_of_found found]
      split
      · refine books.congr rfl rfl fun topic => ?_
        rw [Std.TreeMap.getElem?_insert]
        split
        · rename_i same
          rw [← Std.compare_eq_iff_eq.mp same, found]
          rfl
        · rfl
      · refine LocalBus.RemoteSinksAre.congr
          (LocalBus.RemoteSinksAre.removeRemoteSink books
            (fun _ own => alive_of_ownSink own) pub.sink) fun topic handle => ?_
        unfold OwnSink
        rw [Std.TreeMap.getElem?_erase]
        obtain ⟨_, _, _, isShm⟩ := writers.handles _ pub found
        constructor
        · rintro (⟨key, serial, peer, held, isRemote⟩ | ⟨other, held, isSink⟩)
          · refine ⟨Or.inl ⟨key, serial, peer, held, isRemote⟩, ?_⟩
            rintro ⟨_, removed⟩
            rw [isRemote, isShm] at removed
            cases removed
          · split at held
            · cases held
            · rename_i different
              refine ⟨Or.inr ⟨other, held, isSink⟩, ?_⟩
              rintro ⟨same, _⟩
              exact different (by simp [same])
        · rintro ⟨tcp | ⟨other, held, isSink⟩, kept⟩
          · exact Or.inl tcp
          · refine Or.inr ⟨other, ?_, isSink⟩
            rw [if_neg]
            · exact held
            · intro same
              have sameTopic := Std.compare_eq_iff_eq.mp same
              rw [← sameTopic, found] at held
              cases held
              exact kept ⟨sameTopic.symm, isSink.symm⟩

end Steps

end MiniMiddleware.Core
