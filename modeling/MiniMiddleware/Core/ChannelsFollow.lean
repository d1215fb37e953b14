import MiniMiddleware.Core.Node

/-!
# Channels follow the active matches

While nothing is unmatched, the shared-memory writers and readers of a data
plane follow the active matches as its TCP sinks do: there is a writer for the
topics of the matches routed to it, and a reader for the segments of those.
-/

namespace MiniMiddleware.Core

open MiniMiddleware.Library MiniMiddleware.Discovery MiniMiddleware.Transport

/-- The matches of a table. -/
def InTable (table : Std.TreeMap Text MatchInfo) (m : MatchInfo) : Prop :=
  ∃ key : Text, table[key]? = some m

theorem inTable_insert
    {table : Std.TreeMap Text MatchInfo} {key : Text} (fresh : key ∉ table)
    (m other : MatchInfo) :
    InTable (table.insert key m) other ↔ other = m ∨ InTable table other := by
  have missing : table[key]? = none := Std.TreeMap.getElem?_eq_none fresh
  constructor
  · rintro ⟨found, stored⟩
    rcases getElem?_insert_eq_some.mp stored with ⟨_, rfl⟩ | ⟨_, old⟩
    · exact Or.inl rfl
    · exact Or.inr ⟨found, old⟩
  · rintro (rfl | ⟨found, stored⟩)
    · exact ⟨key, Std.TreeMap.getElem?_insert_self⟩
    · refine ⟨found, ?_⟩
      rw [Std.TreeMap.getElem?_insert, if_neg, stored]
      intro equal
      rw [Std.compare_eq_iff_eq] at equal
      rw [← equal, missing] at stored
      cases stored

/-- The name of the segment that a subscriber's match reads. -/
def segmentOf (m : MatchInfo) : Text :=
  segName m.remoteParticipantId m.localEndpoint.topic

/-- While nothing is unmatched, there is a writer for the topics of the
matches routed to it. -/
def WritersFollow (active : MatchInfo → Prop) (plane : DataPlane) : Prop :=
  ∀ topic : Text, topic ∈ plane.shmPub ↔
    ∃ m, active m ∧ plane.route m = .shmPub ∧ m.localEndpoint.topic = topic

/-- While nothing is unmatched, there is a reader for the segments of the
matches routed to it.  The entry of a segment carries the topic of one of
them. -/
structure ReadersFollow (active : MatchInfo → Prop) (plane : DataPlane)
    (readers : Std.TreeMap Text ReaderEntry) : Prop where
  held : plane.shmReaders = some readers
  counted : ∀ name : Text, name ∈ plane.shmSubRef ↔ name ∈ readers
  present :
    ∀ m, active m → plane.route m = .shmSub → segmentOf m ∈ readers
  justified :
    ∀ (name : Text) (entry : ReaderEntry), readers[name]? = some entry →
      ∃ m, active m ∧ plane.route m = .shmSub ∧ name = segmentOf m ∧
        entry.topic = m.localEndpoint.topic

section Matched

variable {active : MatchInfo → Prop} {plane : DataPlane}

theorem WritersFollow.matched
    (follow : WritersFollow active plane)
    (running : plane.stopped = false) (memory : SharedMemory) (m : MatchInfo) :
    WritersFollow (fun other => other = m ∨ active other)
      (plane.handleMatch memory m .created).1 := by
  have same := DataPlane.sameIdentity_handleMatch running memory m .created
  intro topic
  have before := follow topic
  simp only [same.route, or_and_right, exists_or, exists_eq_left, ← before]
  rw [DataPlane.handleMatch_eq running]
  cases routed : plane.route m with
  | ignored =>
      simp
  | tcpPub =>
      simp [(plane.tcpPubMatch_shm m).1]
  | shmPub =>
      simp [DataPlane.mem_shmPub_shmPubMatch]
  | shmSub =>
      simp [plane.shmSubMatch_writers m]

theorem ReadersFollow.shmSubMatch
    {readers : Std.TreeMap Text ReaderEntry}
    (follow : ReadersFollow active plane readers) {m : MatchInfo}
    (routed : (plane.shmSubMatch m).route m = .shmSub) :
    ∃ after,
      ReadersFollow (fun other => other = m ∨ active other)
        (plane.shmSubMatch m) after := by
  have same := (plane.shmSubMatch_frame m).1
  have refs (name : Text) :
      name ∈ (plane.shmSubMatch m).shmSubRef ↔
        segmentOf m = name ∨ name ∈ plane.shmSubRef :=
    (plane.shmSubMatch_readers m name).1
  have held :
      (plane.shmSubMatch m).shmReaders =
        if segmentOf m ∈ plane.shmSubRef then plane.shmReaders
        else
          plane.shmReaders.map fun readers =>
            DataPlane.addReader readers (segmentOf m) m.localEndpoint.topic
              (segmentOf m) :=
    (plane.shmSubMatch_readers m []).2
  by_cases known : segmentOf m ∈ plane.shmSubRef
  · -- Another match of the same segment has registered the reader.
    have inReaders := (follow.counted _).mp known
    refine ⟨readers, ?_, ?_, ?_, ?_⟩
    · rw [held, if_pos known]
      exact follow.held
    · intro name
      rw [refs, follow.counted]
      constructor
      · rintro (rfl | old)
        · exact inReaders
        · exact old
      · exact Or.inr
    · rintro other (rfl | old) otherRouted
      · exact inReaders
      · exact follow.present other old (by rwa [same.route] at otherRouted)
    · intro name entry found
      obtain ⟨old, isActive, oldRouted, rest⟩ :=
        follow.justified name entry found
      exact ⟨old, Or.inr isActive, by rw [same.route]; exact oldRouted, rest⟩
  · have absent : segmentOf m ∉ readers :=
      fun present => known ((follow.counted _).mpr present)
    refine ⟨readers.insert (segmentOf m)
      { topic := m.localEndpoint.topic, segName := segmentOf m }, ?_, ?_, ?_, ?_⟩
    · rw [held, if_neg known, follow.held, Option.map_some,
        DataPlane.addReader, if_neg absent]
    · intro name
      rw [refs, follow.counted, Std.TreeMap.mem_insert, Std.compare_eq_iff_eq]
    · rintro other (rfl | old) otherRouted
      · exact Std.TreeMap.mem_insert_self
      · exact
          Std.TreeMap.mem_insert.mpr
            (Or.inr
              (follow.present other old (by rwa [same.route] at otherRouted)))
    · intro name entry found
      rcases getElem?_insert_eq_some.mp found with ⟨equal, rfl⟩ | ⟨_, before⟩
      · exact ⟨m, Or.inl rfl, routed, equal.symm, rfl⟩
      · obtain ⟨old, isActive, oldRouted, rest⟩ :=
          follow.justified name entry before
        exact ⟨old, Or.inr isActive, by rw [same.route]; exact oldRouted, rest⟩

theorem ReadersFollow.matched
    {readers : Std.TreeMap Text ReaderEntry}
    (follow : ReadersFollow active plane readers)
    (running : plane.stopped = false) (memory : SharedMemory) (m : MatchInfo) :
    ∃ after,
      ReadersFollow (fun other => other = m ∨ active other)
        (plane.handleMatch memory m .created).1 after := by
  have same := DataPlane.sameIdentity_handleMatch running memory m .created
  have unchanged (other : plane.route m ≠ .shmSub)
      (refs :
        (plane.handleMatch memory m .created).1.shmSubRef = plane.shmSubRef)
      (held :
        (plane.handleMatch memory m .created).1.shmReaders =
          plane.shmReaders) :
      ReadersFollow (fun other => other = m ∨ active other)
        (plane.handleMatch memory m .created).1 readers :=
    { held := held.trans follow.held
      counted := by
        rw [refs]
        exact follow.counted
      present := by
        rintro found (rfl | old) routed
        · exact absurd (same.route found ▸ routed) other
        · exact follow.present found old (same.route found ▸ routed)
      justified := by
        intro name entry found
        obtain ⟨old, isActive, routed, rest⟩ := follow.justified name entry found
        exact ⟨old, Or.inr isActive, by rw [same.route]; exact routed, rest⟩ }
  cases routed : plane.route m with
  | ignored =>
      have effect := DataPlane.handleMatch_eq running memory m .created
      rw [routed] at effect
      exact ⟨readers, unchanged (by simp [routed]) (by rw [effect])
        (by rw [effect])⟩
  | tcpPub =>
      have effect := DataPlane.handleMatch_eq running memory m .created
      rw [routed] at effect
      have frame := plane.tcpPubMatch_shm m
      exact ⟨readers, unchanged (by simp [routed]) (by rw [effect]; exact frame.2.1)
        (by rw [effect]; exact frame.2.2)⟩
  | shmPub =>
      have effect := DataPlane.handleMatch_eq running memory m .created
      rw [routed] at effect
      have frame := plane.shmPubMatch_readers memory m .created
      exact ⟨readers, unchanged (by simp [routed]) (by rw [effect]; exact frame.1)
        (by rw [effect]; exact frame.2)⟩
  | shmSub =>
      have effect := DataPlane.handleMatch_eq running memory m .created
      rw [routed] at effect
      rw [effect]
      exact follow.shmSubMatch (by rw [← same.route, effect] at routed; exact routed)

end Matched

/-- All channels of a data plane follow a table of active matches. -/
structure ChannelsFollow (table : Std.TreeMap Text MatchInfo)
    (plane : DataPlane) : Prop where
  sinks : SinksFollow table plane
  writers : WritersFollow (InTable table) plane
  readers : ∃ readers, ReadersFollow (InTable table) plane readers

theorem ChannelsFollow.matched
    {table : Std.TreeMap Text MatchInfo} {plane : DataPlane}
    (follow : ChannelsFollow table plane) (memory : SharedMemory)
    {m : MatchInfo} (fresh : matchKey m ∉ table) :
    ChannelsFollow (table.insert (matchKey m) m)
      (plane.handleMatch memory m .created).1 := by
  have active :
      InTable (table.insert (matchKey m) m) =
        fun other => other = m ∨ InTable table other := by
    funext other
    exact propext (inTable_insert fresh m other)
  obtain ⟨readers, readersFollow⟩ := follow.readers
  refine ⟨follow.sinks.matched memory .created fresh, ?_, ?_⟩
  · rw [active]
    exact follow.writers.matched follow.sinks.stopped memory m
  · rw [active]
    exact readersFollow.matched follow.sinks.stopped memory m

theorem ChannelsFollow.tryMatch
    {agent : DiscoveryAgent} {plane : DataPlane}
    (follow : ChannelsFollow agent.activeMatches plane)
    (memory : SharedMemory) (remoteId : Nat) (remote : Remote) :
    ChannelsFollow (agent.tryMatch remoteId remote).1.activeMatches
      (onEvents (fun _ => .created)
        ((agent.tryMatch remoteId remote).2.map .matched)
        (plane, memory)).1 := by
  have rule :=
    recordAll_rule matchKey
      (fun table (state : DataPlane × SharedMemory) =>
        ChannelsFollow table state.1)
      (fun state m => onEvent (fun _ => .created) state (.matched m))
      (remote.matches remoteId agent.localEndpoints)
      (fun _ state _ _ fresh before => before.matched state.2 fresh)
      agent.activeMatches (plane, memory) follow
  rw [onEvents, List.foldl_map]
  exact rule

end MiniMiddleware.Core
