import MiniMiddleware.Core.ChannelBooks
import MiniMiddleware.Library.Brackets

/-!
# Accounting for channels

Between `start` and `stop` a data plane only sees `handle_match` and
`handle_unmatch`, which alternate for each key and repeat the match that they
close.  If every segment can be created, all its books are right in every run
of such calls.

The creation of a segment can fail.  A match whose `handle_match` left a
writer is called installed; the counts of the writers are about these.  An
unmatch does not know whether its match was installed, and this is where the
books can go wrong.
-/

namespace MiniMiddleware.Core

open MiniMiddleware.Library MiniMiddleware.Discovery MiniMiddleware.Transport

/-- A call of `handle_match`, with how the creation of a segment would go, or
of `handle_unmatch`. -/
inductive ChannelCall where
  | matched (m : MatchInfo) (outcome : CreateOutcome)
  | unmatched (m : MatchInfo)
  deriving DecidableEq, Repr

/-- A data plane, the shared memory of its host, the matches that are active,
and those of them that are installed: routed to a writer that was in place
when their `handle_match` returned. -/
structure Channels where
  plane : DataPlane
  memory : SharedMemory
  active : Std.TreeMap Text MatchInfo
  installed : Std.TreeMap Text MatchInfo

namespace Channels

/-- One call.  A match is only reported under a key that is not active, and an
unmatch repeats the match that is active under its key. -/
def step (channels : Channels) :
    ChannelCall → Option (Channels × List (Bracket MatchInfo))
  | .matched m outcome =>
      if matchKey m ∈ channels.active then
        none
      else
        let after := channels.plane.handleMatch channels.memory m outcome
        some
          ({ plane := after.1
             memory := after.2
             active := channels.active.insert (matchKey m) m
             installed :=
               if channels.plane.route m = .shmPub ∧
                   m.localEndpoint.topic ∈ after.1.shmPub then
                 channels.installed.insert (matchKey m) m
               else
                 channels.installed },
            [.opened m])
  | .unmatched m =>
      if channels.active[matchKey m]? = some m then
        let after := channels.plane.handleUnmatch channels.memory m
        some
          ({ plane := after.1
             memory := after.2
             active := channels.active.erase (matchKey m)
             installed := channels.installed.erase (matchKey m) },
            [.closed m])
      else
        none

/-- A started data plane without channels. -/
structure Fresh (channels : Channels) : Prop where
  stopped : channels.plane.stopped = false
  sinks : ∀ key : Text, channels.plane.sinks[key]? = none
  refcount : ∀ pid : Nat, channels.plane.refcount[pid]? = none
  connections : ∀ pid : Nat, channels.plane.connections[pid]? = none
  shmPub : ∀ topic : Text, channels.plane.shmPub[topic]? = none
  shmSubRef : ∀ name : Text, channels.plane.shmSubRef[name]? = none
  shmReaders :
    ∃ readers,
      channels.plane.shmReaders = some readers ∧
        ∀ name : Text, readers[name]? = none
  bus :
    ∀ topic : Text, (channels.plane.bus.entry topic).remoteSinks = []
  active : ∀ key : Text, channels.active[key]? = none
  installed : ∀ key : Text, channels.installed[key]? = none

end Channels

/-- The calls on a data plane as a machine. -/
def channelMachine : Machine Channels ChannelCall (Bracket MatchInfo) where
  initial := Channels.Fresh
  step := Channels.step

/-! ## All books together -/

/-- The condition on a call: an unmatch of a publisher's match that was not
installed finds no writer for its topic. -/
def sparesWriter (channels : Channels) : ChannelCall → Bool
  | .matched _ _ => true
  | .unmatched m =>
      channels.plane.route m ≠ .shmPub ||
        matchKey m ∈ channels.installed ||
        m.localEndpoint.topic ∉ channels.plane.shmPub

/-- What holds between any two calls. -/
structure ChannelInvariant (channels : Channels) : Prop where
  tcp : TcpBooks channels.active channels.plane
  readers : ReaderBooks channels.active channels.plane
  writers : WriterBooks channels.installed channels.plane
  bus : BusBooks channels.plane
  installed :
    ∀ (key : Text) (m : MatchInfo), channels.installed[key]? = some m →
      channels.active[key]? = some m ∧ channels.plane.route m = .shmPub

section Together

variable {channels : Channels} {m : MatchInfo} {outcome : CreateOutcome}

theorem ChannelInvariant.notInstalled
    (invariant : ChannelInvariant channels)
    (fresh : matchKey m ∉ channels.active) :
    matchKey m ∉ channels.installed := by
  intro member
  obtain ⟨other, found⟩ :=
    Option.isSome_iff_exists.mp
      (Std.TreeMap.mem_iff_isSome_getElem?.mp member)
  have isActive := (invariant.installed _ _ found).1
  rw [Std.TreeMap.getElem?_eq_none fresh] at isActive
  cases isActive

theorem ChannelInvariant.bus_handleMatch
    (invariant : ChannelInvariant channels)
    (fresh : matchKey m ∉ channels.active) :
    BusBooks (channels.plane.handleMatch channels.memory m outcome).1 := by
  rw [DataPlane.handleMatch_eq invariant.tcp.follow.stopped]
  cases channels.plane.route m with
  | ignored =>
      exact invariant.bus
  | tcpPub =>
      exact invariant.bus.tcpPubMatch invariant.tcp invariant.writers fresh
  | shmPub =>
      exact invariant.bus.shmPubMatch channels.memory outcome
  | shmSub =>
      refine invariant.bus.congr (channels.plane.shmSubMatch_bus m)
        (channels.plane.shmSubMatch_frame m).2 fun topic => ?_
      rw [channels.plane.shmSubMatch_writers m]

theorem ChannelInvariant.bus_handleUnmatch
    (invariant : ChannelInvariant channels)
    (isActive : channels.active[matchKey m]? = some m) :
    BusBooks (channels.plane.handleUnmatch channels.memory m).1 := by
  rw [DataPlane.handleUnmatch_eq invariant.tcp.follow.stopped]
  cases routed : channels.plane.route m with
  | ignored =>
      exact invariant.bus
  | tcpPub =>
      exact invariant.bus.tcpPubUnmatch invariant.tcp invariant.writers
        isActive routed
  | shmPub =>
      exact invariant.bus.shmPubUnmatch invariant.writers channels.memory
  | shmSub =>
      refine invariant.bus.congr (channels.plane.shmSubUnmatch_bus m)
        (channels.plane.shmSubUnmatch_frame m).2 fun topic => ?_
      rw [channels.plane.shmSubUnmatch_writers m]

theorem ChannelInvariant.writers_handleMatch
    (invariant : ChannelInvariant channels)
    (fresh : matchKey m ∉ channels.active) :
    WriterBooks
      (if channels.plane.route m = .shmPub ∧
          m.localEndpoint.topic ∈
            (channels.plane.handleMatch channels.memory m outcome).1.shmPub
      then
        channels.installed.insert (matchKey m) m
      else
        channels.installed)
      (channels.plane.handleMatch channels.memory m outcome).1 := by
  have running := invariant.tcp.follow.stopped
  by_cases routed : channels.plane.route m = .shmPub
  · have isWriter :
        channels.plane.handleMatch channels.memory m outcome =
          channels.plane.shmPubMatch channels.memory m outcome := by
      rw [DataPlane.handleMatch_eq running, routed]
    rw [isWriter]
    simp only [routed, true_and]
    exact invariant.writers.matched channels.memory outcome
      (invariant.notInstalled fresh)
  · rw [if_neg fun both => routed both.1]
    have writers :=
      writer_frame_handleMatch running channels.memory outcome routed
    exact ⟨by rw [writers]; exact invariant.writers.counts,
      by rw [writers]; exact invariant.writers.handles⟩

theorem ChannelInvariant.writers_handleUnmatch
    (invariant : ChannelInvariant channels)
    (isActive : channels.active[matchKey m]? = some m)
    (spares : sparesWriter channels (.unmatched m) = true) :
    WriterBooks (channels.installed.erase (matchKey m))
      (channels.plane.handleUnmatch channels.memory m).1 := by
  have running := invariant.tcp.follow.stopped
  cases found : channels.installed[matchKey m]? with
  | some other =>
      obtain ⟨otherActive, routed⟩ := invariant.installed _ _ found
      rw [isActive] at otherActive
      cases otherActive
      rw [DataPlane.handleUnmatch_eq running, routed]
      exact invariant.writers.unmatched channels.memory found
  | none =>
      have unchanged :
          (channels.plane.handleUnmatch channels.memory m).1.shmPub =
            channels.plane.shmPub := by
        by_cases routed : channels.plane.route m = .shmPub
        · have notInstalled : matchKey m ∉ channels.installed := by
            rw [Std.TreeMap.mem_iff_isSome_getElem?, found]
            simp
          have noWriter :
              channels.plane.shmPub[m.localEndpoint.topic]? = none := by
            refine Std.TreeMap.getElem?_eq_none ?_
            simpa [sparesWriter, routed, notInstalled] using spares
          rw [DataPlane.handleUnmatch_eq running, routed]
          exact congrArg DataPlane.shmPub
            (shmPubUnmatch_of_missing noWriter channels.memory)
        · exact writer_frame_handleUnmatch running channels.memory routed
      refine ⟨?_, ?_⟩
      · rw [unchanged]
        exact invariant.writers.counts.erase_missing found
      · rw [unchanged]
        exact invariant.writers.handles

theorem ChannelInvariant.step
    {target : Channels} {call : ChannelCall}
    {emitted : List (Bracket MatchInfo)}
    (invariant : ChannelInvariant channels)
    (spares : sparesWriter channels call = true)
    (stepped : channels.step call = some (target, emitted)) :
    ChannelInvariant target := by
  have running := invariant.tcp.follow.stopped
  cases call with
  | matched m outcome =>
      simp only [Channels.step] at stepped
      split at stepped
      · cases stepped
      · rename_i fresh
        cases stepped
        have same :=
          DataPlane.sameIdentity_handleMatch running channels.memory m outcome
        refine ⟨invariant.tcp.matched channels.memory outcome fresh,
          invariant.readers.matched running channels.memory outcome fresh,
          invariant.writers_handleMatch fresh,
          invariant.bus_handleMatch fresh, ?_⟩
        intro key other found
        have old (found : channels.installed[key]? = some other) :
            (channels.active.insert (matchKey m) m)[key]? = some other ∧
              (channels.plane.handleMatch channels.memory m outcome).1.route
                other = .shmPub := by
          obtain ⟨isActive, routed⟩ := invariant.installed key other found
          refine ⟨?_, (same.route other).trans routed⟩
          rw [Std.TreeMap.getElem?_insert, if_neg]
          · exact isActive
          · intro equal
            rw [← Std.compare_eq_iff_eq.mp equal,
              Std.TreeMap.getElem?_eq_none fresh] at isActive
            cases isActive
        dsimp only at found
        split at found
        · rename_i writes
          rcases getElem?_insert_eq_some.mp found with
            ⟨equal, rfl⟩ | ⟨_, before⟩
          · refine ⟨?_, (same.route m).trans writes.1⟩
            rw [← equal, Std.TreeMap.getElem?_insert_self]
          · exact old before
        · exact old found
  | unmatched m =>
      simp only [Channels.step] at stepped
      split at stepped
      · rename_i isActive
        cases stepped
        have same :=
          DataPlane.sameIdentity_handleUnmatch running channels.memory m
        refine ⟨invariant.tcp.unmatched channels.memory isActive,
          invariant.readers.unmatched running channels.memory isActive,
          invariant.writers_handleUnmatch isActive spares,
          invariant.bus_handleUnmatch isActive, ?_⟩
        intro key other found
        dsimp only at found ⊢
        rw [Std.TreeMap.getElem?_erase] at found ⊢
        split at found
        · cases found
        · rename_i different
          obtain ⟨otherActive, routed⟩ := invariant.installed key other found
          rw [if_neg different]
          exact ⟨otherActive, (same.route other).trans routed⟩
      · cases stepped

end Together

theorem Channels.Fresh.invariant
    {channels : Channels} (fresh : channels.Fresh) :
    ChannelInvariant channels where
  tcp :=
    { follow :=
        { stopped := fresh.stopped
          present := by
            intro key m found
            rw [fresh.active] at found
            cases found
          justified := by
            intro key handle found
            rw [fresh.sinks] at found
            cases found }
      distinct := by
        intro key other handle found
        rw [fresh.sinks] at found
        cases found
      serials := by
        intro key serial peer topic found
        rw [fresh.sinks] at found
        cases found
      peers := Counted.start fresh.refcount fresh.active
      connections := by
        intro pid
        simp [Std.TreeMap.mem_iff_isSome_getElem?, fresh.connections,
          fresh.refcount] }
  readers :=
    { counts := Counted.start fresh.shmSubRef fresh.active
      entries := by
        obtain ⟨readers, held, empty⟩ := fresh.shmReaders
        refine ⟨readers, held, fun name => ?_⟩
        simp [Std.TreeMap.mem_iff_isSome_getElem?, empty, fresh.shmSubRef] }
  writers :=
    { counts :=
        Counted.start (fun topic => by rw [fresh.shmPub]; rfl) fresh.installed
      handles := by
        intro topic pub found
        rw [fresh.shmPub] at found
        cases found }
  bus := by
    intro topic
    rw [fresh.bus]
    refine ⟨List.nodup_nil, fun handle => ⟨fun member => (nomatch member), ?_⟩⟩
    rintro (⟨key, _, _, found, _⟩ | ⟨pub, found, _⟩)
    · rw [fresh.sinks] at found
      cases found
    · rw [fresh.shmPub] at found
      cases found
  installed := by
    intro key m found
    rw [fresh.installed] at found
    cases found

/-! ## All segments can be created -/

/-- A publisher's match that does not use shared memory. -/
def overTcp (plane : DataPlane) (m : MatchInfo) : Bool :=
  pubsubPair m.localEndpoint m.remoteEndpoint &&
    m.localEndpoint.kind = .publisher && !plane.useShm m

/-- A publisher's match that uses shared memory. -/
def toWriter (plane : DataPlane) (m : MatchInfo) : Bool :=
  pubsubPair m.localEndpoint m.remoteEndpoint &&
    m.localEndpoint.kind = .publisher && plane.useShm m

/-- A subscriber's match that uses shared memory. -/
def toReader (plane : DataPlane) (m : MatchInfo) : Bool :=
  pubsubPair m.localEndpoint m.remoteEndpoint &&
    m.localEndpoint.kind = .subscriber && plane.useShm m

/-- The tables of a data plane account for the active matches. -/
structure Accounted (active : Std.TreeMap Text MatchInfo)
    (plane : DataPlane) : Prop where
  /-- One TCP sink for each publisher's match over TCP. -/
  sinks :
    ∀ key : Text,
      key ∈ plane.sinks ↔ ∃ m, active[key]? = some m ∧ overTcp plane m
  handles :
    ∀ (key : Text) (handle : SinkHandle), plane.sinks[key]? = some handle →
      ∃ m serial,
        active[key]? = some m ∧
          handle = .remote serial m.localEndpoint.topic m.remoteParticipantId
  distinct :
    ∀ (key other : Text) (handle : SinkHandle),
      plane.sinks[key]? = some handle → plane.sinks[other]? = some handle →
      key = other
  refcount :
    ∀ pid : Nat,
      plane.refcount[pid]? =
        storedCount
          (countWhere
            (fun m => overTcp plane m && m.remoteParticipantId = pid) active)
  connections : ∀ pid : Nat, pid ∈ plane.connections ↔ pid ∈ plane.refcount
  /-- One writer for each topic, counted over its matches. -/
  shmPub :
    ∀ topic : Text,
      plane.shmPub[topic]?.map ShmPub.ref =
        storedCount
          (countWhere
            (fun m => toWriter plane m && m.localEndpoint.topic = topic)
            active)
  /-- One reader for each segment, counted over its matches. -/
  shmSubRef :
    ∀ name : Text,
      plane.shmSubRef[name]? =
        storedCount
          (countWhere
            (fun m =>
              toReader plane m &&
                segName m.remoteParticipantId m.localEndpoint.topic = name)
            active)
  readers :
    ∃ readers,
      plane.shmReaders = some readers ∧
        ∀ name : Text, name ∈ readers ↔ name ∈ plane.shmSubRef
  /-- Each of these sinks is on the bus once, and no other remote sink is. -/
  remoteSinks : plane.bus.RemoteSinksAre (OwnSink plane)
  alive :
    ∀ (topic : Text) (handle : SinkHandle),
      handle ∈ (plane.bus.entry topic).remoteSinks →
      plane.alive handle = true

/-- The condition that segments can be created. -/
def createsSegments (_channels : Channels) : ChannelCall → Bool
  | .matched _ outcome => outcome = .created
  | .unmatched _ => true

theorem route_eq_tcpPub_iff (plane : DataPlane) (m : MatchInfo) :
    plane.route m = .tcpPub ↔ overTcp plane m := by
  unfold DataPlane.route overTcp
  split_ifs <;> simp_all

theorem route_eq_shmPub_iff (plane : DataPlane) (m : MatchInfo) :
    plane.route m = .shmPub ↔ toWriter plane m := by
  unfold DataPlane.route toWriter
  split_ifs <;> simp_all

theorem route_eq_shmSub_iff (plane : DataPlane) (m : MatchInfo) :
    plane.route m = .shmSub ↔ toReader plane m := by
  unfold DataPlane.route toReader pubsubPair
  cases m.localEndpoint.kind <;> simp <;> split_ifs <;> simp_all

/-- Every publisher's match that uses shared memory is installed. -/
def AllInstalled (channels : Channels) : Prop :=
  ∀ (key : Text) (m : MatchInfo), channels.active[key]? = some m →
    channels.plane.route m = .shmPub → channels.installed[key]? = some m

theorem AllInstalled.spares
    {channels : Channels} (all : AllInstalled channels) {call : ChannelCall}
    {target : Channels} {emitted : List (Bracket MatchInfo)}
    (stepped : channels.step call = some (target, emitted)) :
    sparesWriter channels call = true := by
  cases call with
  | matched m outcome =>
      rfl
  | unmatched m =>
      simp only [Channels.step] at stepped
      split at stepped
      · rename_i isActive
        by_cases routed : channels.plane.route m = .shmPub
        · have isInstalled : matchKey m ∈ channels.installed :=
            Std.TreeMap.mem_iff_isSome_getElem?.mpr
              (by rw [all _ _ isActive routed]; rfl)
          simp [sparesWriter, isInstalled]
        · simp [sparesWriter, routed]
      · cases stepped

theorem AllInstalled.step
    {channels target : Channels} {call : ChannelCall}
    {emitted : List (Bracket MatchInfo)}
    (all : AllInstalled channels)
    (running : channels.plane.stopped = false)
    (creates : createsSegments channels call = true)
    (stepped : channels.step call = some (target, emitted)) :
    AllInstalled target := by
  cases call with
  | matched m outcome =>
      simp only [createsSegments, decide_eq_true_eq] at creates
      subst creates
      simp only [Channels.step] at stepped
      split at stepped
      · cases stepped
      · cases stepped
        have same :=
          DataPlane.sameIdentity_handleMatch running channels.memory m .created
        intro key other found routed
        rw [same.route] at routed
        dsimp only at found ⊢
        rw [Std.TreeMap.getElem?_insert] at found
        split at found
        · rename_i equal
          cases found
          have wrote :
              m.localEndpoint.topic ∈
                (channels.plane.handleMatch channels.memory m
                  .created).1.shmPub := by
            rw [DataPlane.handleMatch_eq running, routed]
            exact (DataPlane.mem_shmPub_shmPubMatch _ _ _ _).mpr (Or.inl rfl)
          rw [if_pos ⟨routed, wrote⟩, Std.TreeMap.getElem?_insert,
            if_pos equal]
        · rename_i different
          have old := all key other found routed
          split
          · rw [Std.TreeMap.getElem?_insert, if_neg different, old]
          · exact old
  | unmatched m =>
      simp only [Channels.step] at stepped
      split at stepped
      · cases stepped
        have same :=
          DataPlane.sameIdentity_handleUnmatch running channels.memory m
        intro key other found routed
        rw [same.route] at routed
        dsimp only at found ⊢
        rw [Std.TreeMap.getElem?_erase] at found ⊢
        split at found
        · cases found
        · rename_i different
          rw [if_neg different]
          exact all key other found routed
      · cases stepped

/-- If all are installed, the writers are counted over the active matches. -/
theorem AllInstalled.users_writerTopic
    {channels : Channels} (all : AllInstalled channels)
    (invariant : ChannelInvariant channels) (topic : Text) :
    users writerTopic channels.installed topic =
      countWhere
        (fun m => toWriter channels.plane m && m.localEndpoint.topic = topic)
        channels.active := by
  refine countWhere_congr fun key m => ?_
  rw [Bool.and_eq_true, ← route_eq_shmPub_iff]
  simp only [writerTopic, Option.some.injEq, decide_eq_true_eq]
  constructor
  · rintro ⟨found, onTopic⟩
    obtain ⟨isActive, routed⟩ := invariant.installed key m found
    exact ⟨isActive, routed, onTopic⟩
  · rintro ⟨isActive, routed, onTopic⟩
    exact ⟨all key m isActive routed, onTopic⟩

theorem ChannelInvariant.accounted
    {channels : Channels} (invariant : ChannelInvariant channels)
    (all : AllInstalled channels) :
    Accounted channels.active channels.plane where
  sinks := by
    intro key
    constructor
    · intro used
      obtain ⟨handle, found⟩ :=
        Option.isSome_iff_exists.mp
          (Std.TreeMap.mem_iff_isSome_getElem?.mp used)
      obtain ⟨m, isActive, routed⟩ :=
        invariant.tcp.follow.justified key handle found
      exact ⟨m, isActive, (route_eq_tcpPub_iff _ _).mp routed⟩
    · rintro ⟨m, isActive, tcp⟩
      obtain ⟨serial, found⟩ :=
        invariant.tcp.follow.present key m isActive
          ((route_eq_tcpPub_iff _ _).mpr tcp)
      exact Std.TreeMap.mem_iff_isSome_getElem?.mpr (by rw [found]; rfl)
  handles := by
    intro key handle found
    obtain ⟨m, serial, isActive, _, isRemote⟩ :=
      invariant.tcp.follow.handle found
    exact ⟨m, serial, isActive, isRemote⟩
  distinct := invariant.tcp.distinct
  refcount := by
    intro pid
    refine (invariant.tcp.peers pid).trans (congrArg storedCount ?_)
    refine countWhere_congr fun key m => and_congr_right fun _ => ?_
    rw [Bool.and_eq_true, ← route_eq_tcpPub_iff, tcpPeer, decide_eq_true_eq]
    split <;> simp_all
  connections := invariant.tcp.connections
  shmPub := by
    intro topic
    rw [← all.users_writerTopic invariant topic]
    exact invariant.writers.counts topic
  shmSubRef := by
    intro name
    refine (invariant.readers.counts name).trans (congrArg storedCount ?_)
    refine countWhere_congr fun key m => and_congr_right fun _ => ?_
    rw [Bool.and_eq_true, ← route_eq_shmSub_iff, readerName, decide_eq_true_eq]
    split <;> simp_all
  readers := invariant.readers.entries
  remoteSinks := invariant.bus
  alive := by
    intro topic handle member
    exact alive_of_ownSink (((invariant.bus topic).2 handle).mp member)

/-- In every run of alternating calls in which all segments can be created,
the tables account for the active matches, and a match of a service with a
client changes nothing. -/
theorem channels_accounted
    {calls : List ChannelCall} {channels : Channels}
    {history : List (Bracket MatchInfo)}
    (run :
      channelMachine.Run
        (fun channels call => createsSegments channels call = true)
        calls channels history) :
    Accounted channels.active channels.plane ∧
      ∀ (m : MatchInfo) (outcome : CreateOutcome),
        rpcPair m.localEndpoint m.remoteEndpoint →
        channels.plane.handleMatch channels.memory m outcome =
            (channels.plane, channels.memory) ∧
          channels.plane.handleUnmatch channels.memory m =
            (channels.plane, channels.memory) := by
  have both :=
    run.invariant
      (fun channels _ => ChannelInvariant channels ∧ AllInstalled channels)
      (fun channels (fresh : channels.Fresh) =>
        ⟨fresh.invariant, fun key m found => by
          rw [fresh.active] at found
          cases found⟩)
      fun _ _ _ _ _ both creates stepped =>
        ⟨both.1.step (both.2.spares stepped) stepped,
          both.2.step both.1.tcp.follow.stopped creates stepped⟩
  refine ⟨both.1.accounted both.2, fun m outcome rpc => ?_⟩
  have ignored : channels.plane.route m = .ignored := by
    revert rpc
    unfold DataPlane.route pubsubPair rpcPair
    cases m.localEndpoint.kind <;> cases m.remoteEndpoint.kind <;> simp
  rw [DataPlane.handleMatch_eq both.1.tcp.follow.stopped,
    DataPlane.handleUnmatch_eq both.1.tcp.follow.stopped, ignored]
  exact ⟨rfl, rfl⟩

/-- A started data plane of participant 1 on an empty host. -/
def loneChannels : Channels :=
  ⟨DataPlane.started 1 ['h'] true, SharedMemory.empty, ∅, ∅⟩

theorem loneChannels_fresh : loneChannels.Fresh where
  stopped := rfl
  sinks := by simp [loneChannels, DataPlane.started]
  refcount := by simp [loneChannels, DataPlane.started]
  connections := by simp [loneChannels, DataPlane.started]
  shmPub := by simp [loneChannels, DataPlane.started]
  shmSubRef := by simp [loneChannels, DataPlane.started]
  shmReaders := ⟨∅, rfl, by simp⟩
  bus := by
    intro topic
    simp [loneChannels, DataPlane.started, LocalBus.entry, LocalBus.empty]
  active := by simp [loneChannels]
  installed := by simp [loneChannels]

/-- The match of a publisher of topic `t` with a subscriber of another
participant on the host. -/
def subscriberAt (pid reliability : Nat) : MatchInfo where
  localEndpoint :=
    { kind := .publisher
      topic := ['t']
      typeName := ['T']
      reliability := reliability }
  remoteEndpoint :=
    { kind := .subscriber
      topic := ['t']
      typeName := ['T']
      reliability := reliability }
  remoteLocator := ⟨[], 0⟩
  remoteParticipantId := pid
  remoteHostId := ['h']

/-- Two best-effort subscribers and a reliable one; the first leaves. -/
theorem channels_accounted_oneLeft :
    ∃ channels history,
      channelMachine.Run
          (fun channels call => createsSegments channels call = true)
          [.matched (subscriberAt 2 0) .created,
            .matched (subscriberAt 3 0) .created,
            .matched (subscriberAt 4 1) .created,
            .unmatched (subscriberAt 2 0)]
          channels history ∧
        channels.plane.shmPub[['t']]?.map ShmPub.ref = some 1 ∧
        channels.plane.refcount[4]? = some 1 ∧
        Accounted channels.active channels.plane := by
  obtain ⟨channels, history, run, checked⟩ :=
    Machine.run_of_exec_check channelMachine
      (fun channels call => createsSegments channels call = true)
      [.matched (subscriberAt 2 0) .created,
        .matched (subscriberAt 3 0) .created,
        .matched (subscriberAt 4 1) .created,
        .unmatched (subscriberAt 2 0)]
      loneChannels
      (fun channels _ =>
        channels.plane.shmPub[['t']]?.map ShmPub.ref = some 1 ∧
          channels.plane.refcount[4]? = some 1)
      loneChannels_fresh (by decide +kernel)
  obtain ⟨writers, peers⟩ := of_decide_eq_true checked
  exact ⟨channels, history, run, writers, peers, (channels_accounted run).1⟩

/-! ## Segments whose creation failed -/

/-- A match is installed, and the writer of its topic has the given sink. -/
structure UsesWriter (key : Text) (m : MatchInfo) (sink : SinkHandle)
    (channels : Channels) : Prop where
  invariant : ChannelInvariant channels
  installed : channels.installed[key]? = some m
  writer :
    ∃ pub,
      channels.plane.shmPub[m.localEndpoint.topic]? = some pub ∧
        pub.sink = sink

theorem ChannelInvariant.writer
    {channels : Channels} (invariant : ChannelInvariant channels)
    {key : Text} {m : MatchInfo}
    (isInstalled : channels.installed[key]? = some m) :
    ∃ pub, channels.plane.shmPub[m.localEndpoint.topic]? = some pub := by
  have counted := invariant.writers.counts.found isInstalled rfl
  obtain ⟨pub, found, _⟩ := Option.map_eq_some_iff.mp counted
  exact ⟨pub, found⟩

/-- A step that does not unmatch the match leaves it its writer. -/
theorem UsesWriter.step
    {key : Text} {m : MatchInfo} {sink : SinkHandle}
    {channels target : Channels} {call : ChannelCall}
    {emitted : List (Bracket MatchInfo)}
    (uses : UsesWriter key m sink channels)
    (standing : call ≠ .unmatched m)
    (spares : sparesWriter channels call = true)
    (stepped : channels.step call = some (target, emitted)) :
    UsesWriter key m sink target := by
  have running := uses.invariant.tcp.follow.stopped
  have isActive := (uses.invariant.installed key m uses.installed).1
  have invariant := uses.invariant.step spares stepped
  obtain ⟨pub, found, isSink⟩ := uses.writer
  cases call with
  | matched other outcome =>
      simp only [Channels.step] at stepped
      split at stepped
      · cases stepped
      · rename_i fresh
        cases stepped
        have different : matchKey other ≠ key := by
          rintro rfl
          rw [Std.TreeMap.getElem?_eq_none fresh] at isActive
          cases isActive
        refine ⟨invariant, ?_, ?_⟩
        · dsimp only
          split
          · rw [Std.TreeMap.getElem?_insert, if_neg (by simpa using different)]
            exact uses.installed
          · exact uses.installed
        · obtain ⟨later, laterFound, same⟩ :=
            writerSink_handleMatch running channels.memory outcome found
          exact ⟨later, laterFound, same.trans isSink⟩
  | unmatched other =>
      simp only [Channels.step] at stepped
      split at stepped
      · rename_i otherActive
        cases stepped
        have different : matchKey other ≠ key := by
          rintro rfl
          rw [isActive] at otherActive
          cases otherActive
          exact standing rfl
        have stillInstalled :
            (channels.installed.erase (matchKey other))[key]? = some m := by
          rw [Std.TreeMap.getElem?_erase, if_neg (by simpa using different)]
          exact uses.installed
        refine ⟨invariant, stillInstalled, ?_⟩
        obtain ⟨later, laterFound⟩ := invariant.writer stillInstalled
        obtain ⟨old, oldFound, same⟩ :=
          writerSink_handleUnmatch running channels.memory laterFound
        rw [found] at oldFound
        cases oldFound
        exact ⟨later, laterFound, same.trans isSink⟩
      · cases stepped

/-- In every run in which no match that was not installed is unmatched while
its topic has a writer: from any point at which a match is installed until it
is unmatched, whatever else is matched or unmatched, the sink of its topic
stays in `shm_pub_` and on the bus. -/
theorem installed_keeps_writer
    {earlier later : List ChannelCall} {middle channels : Channels}
    {before after : List (Bracket MatchInfo)}
    (run :
      channelMachine.Run
        (fun channels call => sparesWriter channels call = true)
        earlier middle before)
    (continued :
      channelMachine.exec
        (fun channels call => sparesWriter channels call = true)
        middle later = some (channels, after))
    {key : Text} {m : MatchInfo}
    (isInstalled : middle.installed[key]? = some m)
    (standing : ChannelCall.unmatched m ∉ later) :
    ∃ first last,
      middle.plane.shmPub[m.localEndpoint.topic]? = some first ∧
        channels.plane.shmPub[m.localEndpoint.topic]? = some last ∧
        last.sink = first.sink ∧
        last.sink ∈
          (channels.plane.bus.entry m.localEndpoint.topic).remoteSinks := by
  have invariant : ChannelInvariant middle :=
    run.invariant (fun channels _ => ChannelInvariant channels)
      (fun _ fresh => Channels.Fresh.invariant fresh)
      fun _ _ _ _ _ invariant spares stepped => invariant.step spares stepped
  obtain ⟨first, found⟩ := invariant.writer isInstalled
  have uses : UsesWriter key m first.sink channels := by
    refine Machine.exec_invariant (UsesWriter key m first.sink)
      ⟨invariant, isInstalled, first, found, rfl⟩ ?_ continued
    intro channels call target emitted member uses spares stepped
    refine uses.step ?_ spares stepped
    rintro rfl
    exact standing member
  obtain ⟨last, lastFound, same⟩ := uses.writer
  refine ⟨first, last, found, lastFound, same, ?_⟩
  exact ((uses.invariant.bus _).2 _).mpr (Or.inr ⟨last, lastFound, rfl⟩)

/-- The segment could not be created for participant 2, which leaves before
participant 3 comes; when it comes and leaves again, participant 3 keeps its
writer. -/
theorem installed_keeps_writer_secondTry :
    ∃ middle channels before after,
      channelMachine.Run
          (fun channels call => sparesWriter channels call = true)
          [.matched (subscriberAt 2 0) .openFailed,
            .unmatched (subscriberAt 2 0),
            .matched (subscriberAt 3 0) .created]
          middle before ∧
        channelMachine.exec
          (fun channels call => sparesWriter channels call = true) middle
          [.matched (subscriberAt 2 0) .created,
            .unmatched (subscriberAt 2 0)] = some (channels, after) ∧
        ['t'] ∈ channels.plane.shmPub := by
  obtain ⟨middle, before, run, checked⟩ :=
    Machine.run_of_exec_check channelMachine
      (fun channels call => sparesWriter channels call = true)
      [.matched (subscriberAt 2 0) .openFailed,
        .unmatched (subscriberAt 2 0),
        .matched (subscriberAt 3 0) .created]
      loneChannels
      (fun middle _ =>
        middle.installed[matchKey (subscriberAt 3 0)]? =
            some (subscriberAt 3 0) ∧
          (channelMachine.exec
            (fun channels call => sparesWriter channels call = true) middle
            [.matched (subscriberAt 2 0) .created,
              .unmatched (subscriberAt 2 0)]).isSome)
      loneChannels_fresh (by decide +kernel)
  obtain ⟨isInstalled, continues⟩ := of_decide_eq_true checked
  obtain ⟨⟨channels, after⟩, continued⟩ :=
    Option.isSome_iff_exists.mp continues
  obtain ⟨_, last, _, found, _⟩ :=
    installed_keeps_writer run continued isInstalled (by decide)
  exact ⟨middle, channels, before, after, run, continued,
    Std.TreeMap.mem_iff_isSome_getElem?.mpr (by
      rw [show ['t'] = (subscriberAt 3 0).localEndpoint.topic from rfl, found]
      rfl)⟩

/-- The segment could not be created for participant 2 but for participant 3;
when participant 2 is unmatched, the writer that participant 3 uses is
dropped. -/
theorem failed_match_drops_writer :
    ¬ ∀ (calls : List ChannelCall) (channels : Channels)
        (history : List (Bracket MatchInfo)) (key : Text) (m : MatchInfo),
        channelMachine.Run Machine.free calls channels history →
        channels.installed[key]? = some m →
        m.localEndpoint.topic ∈ channels.plane.shmPub := by
  intro claimed
  obtain ⟨channels, history, run, checked⟩ :=
    Machine.run_of_exec_check channelMachine Machine.free
      [.matched (subscriberAt 2 0) .openFailed,
        .matched (subscriberAt 3 0) .created,
        .unmatched (subscriberAt 2 0)]
      loneChannels
      (fun channels _ =>
        channels.installed[matchKey (subscriberAt 3 0)]? =
            some (subscriberAt 3 0) ∧
          ['t'] ∉ channels.plane.shmPub)
      loneChannels_fresh (by decide +kernel)
  obtain ⟨isInstalled, dropped⟩ := of_decide_eq_true checked
  exact dropped (claimed _ _ _ _ _ run isInstalled)

end MiniMiddleware.Core
