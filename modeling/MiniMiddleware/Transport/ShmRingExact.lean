import MiniMiddleware.Transport.ShmRingReads
import MiniMiddleware.Transport.ShmRingSession

/-!
# Exact results of sequential reads

For operations that do not overlap, the result of every read is determined by
the reader's cursor and the messages written so far, and a read concerns no
other reader.  A reader that has seen everything receives the next message,
except on a ring of one slot, where the fast-forward of a late reader steps
over the position that is written next.
-/

namespace MiniMiddleware.Transport

open MiniMiddleware.Library

/-! ## A read concerns no other reader -/

/-- The results of the reads of one reader, in order. -/
def returnedBy (id : Nat) (events : List SessionEvent) : List (Option Bytes) :=
  events.filterMap fun
    | .returned reader result => if reader = id then some result else none
    | _ => none

theorem returnedBy_append (id : Nat) (earlier later : List SessionEvent) :
    returnedBy id (earlier ++ later) =
      returnedBy id earlier ++ returnedBy id later :=
  List.filterMap_append

/-- Two sessions that differ in one reader's private state at most. -/
structure SameExcept (id : Nat) (left right : RingSession) : Prop where
  ring : left.ring = right.ring
  memory : left.memory = right.memory
  count : left.readers.length = right.readers.length
  others : ∀ other, other ≠ id → left.readers[other]? = right.readers[other]?

/-- What an execution of further operations shows of one reader: its results,
and its cursor and counter at the end. -/
def readerOutcome (config : RingConfig) (other : Nat) (session : RingSession)
    (rest : List SessionInput) :
    Option (List (Option Bytes) × Option ShmRingReader) :=
  ((ringSessionMachine config).exec Machine.free session rest).map
    fun outcome => (returnedBy other outcome.2, outcome.1.readers[other]?)

theorem readerOutcome_cons
    (config : RingConfig) (other : Nat) (session : RingSession)
    (input : SessionInput) (rest : List SessionInput) :
    readerOutcome config other session (input :: rest) =
      (session.step input).bind fun first =>
        (readerOutcome config other first.1 rest).map fun later =>
          (returnedBy other first.2 ++ later.1, later.2) := by
  rw [readerOutcome, Machine.exec_free_cons, Option.map_bind]
  congr 1
  funext first
  simp [readerOutcome, Function.comp_def, returnedBy_append]

namespace SameExcept

variable {id : Nat} {left right : RingSession}

theorem step
    (same : SameExcept id left right) (input : SessionInput) :
    left.step input = none ∧ right.step input = none ∨
      ∃ leftTarget rightTarget leftEmitted rightEmitted,
        left.step input = some (leftTarget, leftEmitted) ∧
          right.step input = some (rightTarget, rightEmitted) ∧
          SameExcept id leftTarget rightTarget ∧
          ∀ other, other ≠ id →
            returnedBy other leftEmitted = returnedBy other rightEmitted := by
  cases input with
  | write data =>
      have sameWrite :
          left.ring.write left.memory data =
            right.ring.write right.memory data := by
        rw [same.ring, same.memory]
      simp only [RingSession.step, sameWrite]
      refine Or.inr ⟨_, _, _, _, rfl, rfl, ?_, fun _ _ => rfl⟩
      exact ⟨same.ring, rfl, same.count, same.others⟩
  | makeReader =>
      simp only [RingSession.step, same.memory]
      cases ShmRing.attach right.memory with
      | none => exact Or.inl ⟨rfl, rfl⟩
      | some ring =>
          refine Or.inr ⟨_, _, _, _, rfl, rfl, ?_, fun _ _ => rfl⟩
          refine ⟨same.ring, rfl, by simp [same.count], ?_⟩
          intro other different
          simp only [List.getElem?_append, same.count,
            same.others other different]
  | read reading =>
      rcases eq_or_ne reading id with rfl | different
      · -- The reader in which the two differ: nobody else sees its read.
        simp only [RingSession.step]
        cases leftFound : left.readers[reading]? with
        | none =>
            have absent : right.readers[reading]? = none := by
              rw [List.getElem?_eq_none_iff] at leftFound ⊢
              rwa [← same.count]
            exact Or.inl ⟨rfl, by rw [absent]⟩
        | some reader =>
            have inRange : reading < right.readers.length := by
              rw [← same.count]
              exact (List.getElem?_eq_some_iff.mp leftFound).1
            rw [List.getElem?_eq_getElem inRange]
            refine Or.inr ⟨_, _, _, _, rfl, rfl, ?_, ?_⟩
            · refine ⟨same.ring, same.memory, by simp [same.count], ?_⟩
              intro other different
              simp only [List.getElem?_set_ne different.symm,
                same.others other different]
            · intro other different
              simp [returnedBy, List.filterMap_append, List.filterMap_map,
                different.symm]
      · simp only [RingSession.step, same.others reading different,
          same.memory]
        cases right.readers[reading]? with
        | none => exact Or.inl ⟨rfl, rfl⟩
        | some reader =>
            refine Or.inr ⟨_, _, _, _, rfl, rfl, ?_, fun _ _ => rfl⟩
            refine ⟨same.ring, rfl, by simp [same.count], ?_⟩
            intro other otherDifferent
            simp only [List.getElem?_set, same.count,
              same.others other otherDifferent]

/-- Sessions that differ in one reader have the same future for the others. -/
theorem readerOutcome
    (same : SameExcept id left right) {other : Nat} (different : other ≠ id)
    (config : RingConfig) (rest : List SessionInput) :
    readerOutcome config other left rest =
      readerOutcome config other right rest := by
  induction rest generalizing left right with
  | nil =>
      simp only [Transport.readerOutcome, Machine.exec, Option.map_some,
        same.others other different]
  | cons input rest inductionHypothesis =>
      rw [readerOutcome_cons, readerOutcome_cons]
      rcases same.step input with ⟨leftStuck, rightStuck⟩ |
        ⟨leftTarget, rightTarget, leftEmitted, rightEmitted, leftStepped,
          rightStepped, sameAfter, emittedAlike⟩
      · rw [leftStuck, rightStuck]
      · rw [leftStepped, rightStepped]
        simp only [Option.bind_some, inductionHypothesis sameAfter,
          emittedAlike other different]

end SameExcept

/-! ## Sessions on rings of several slots -/

namespace CursorRead

variable {slotCount : Nat} {messages : List Bytes}
  {reader moved : ShmRingReader} {result : Option Bytes} {drops : List Nat}

theorem returnsFalse_iff
    (outcome : CursorRead slotCount messages reader moved result drops) :
    result = none ↔ reader.next = messages.length := by
  cases outcome with
  | drained position =>
      simp [position]
  | within message behind _ _ =>
      simp only [reduceCtorEq, false_iff]
      omega
  | behind message far _ =>
      simp only [reduceCtorEq, false_iff]
      omega

theorem of_drained
    (outcome : CursorRead slotCount messages reader moved result drops)
    (position : reader.next = messages.length) :
    moved.next = reader.next ∧ moved.dropped = reader.dropped := by
  cases outcome with
  | drained _ => exact ⟨rfl, rfl⟩
  | within message behind _ _ => omega
  | behind message far _ => omega

theorem of_within
    (outcome : CursorRead slotCount messages reader moved result drops)
    (some : 0 < messages.length - reader.next)
    (lap : messages.length - reader.next ≤ slotCount) :
    result = messages[reader.next]? ∧ moved.dropped = reader.dropped ∧
      moved.next = reader.next + 1 := by
  cases outcome with
  | drained position => omega
  | within message _ _ content => exact ⟨content.symm, rfl, rfl⟩
  | behind message far _ => omega

theorem of_behind
    (outcome : CursorRead slotCount messages reader moved result drops)
    (far : slotCount < messages.length - reader.next) :
    result = messages[messages.length - slotCount + 1]? ∧
      moved.dropped =
        reader.dropped + (messages.length - slotCount + 1 - reader.next) ∧
      moved.next = messages.length - slotCount + 1 + 1 := by
  cases outcome with
  | drained position => omega
  | within message _ lap _ => omega
  | behind message _ content => exact ⟨content.symm, rfl, rfl⟩

end CursorRead

/-- A session on two slots or more keeps the invariant, whatever its readers
do, until `2 ^ 63` messages have been written. -/
theorem SessionInvariant.of_run
    {config : RingConfig} (several : 2 ≤ config.slotCount)
    {inputs : List SessionInput} {session : RingSession}
    {events : List SessionEvent}
    (run : (ringSessionMachine config).Run Machine.free inputs session events)
    (few : (writtenMessages events).length < 2 ^ 63) :
    SessionInvariant config session (writtenMessages events) := by
  revert few
  refine run.invariant
    (fun session events =>
      (writtenMessages events).length < 2 ^ 63 →
        SessionInvariant config session (writtenMessages events)) ?_ ?_
  · rintro session ⟨before, rfl⟩ _
    exact SessionInvariant.start config before
  · intro session events input target emitted earlier _ stepped few
    rw [writtenMessages_append] at few ⊢
    rw [List.length_append] at few
    have holds := earlier (by omega)
    refine holds.step ?_ stepped
    cases input with
    | write data =>
        intro _
        rw [holds.slots.writeSeq]
        omega
    | makeReader => trivial
    | read id =>
        intro reader _
        rw [holds.ring]
        exact Or.inl several

/-- The exact result of a read.  With `w` messages written, a reader at `c`
returns false exactly if `c = w`; up to one lap behind it returns message `c`;
further behind it returns message `w - n + 1` and counts what it skipped.  No
other reader sees the read, now or later. -/
theorem shmRing_sequential_read_exact
    {config : RingConfig} (several : 2 ≤ config.slotCount)
    {inputs : List SessionInput} {session : RingSession}
    {events : List SessionEvent}
    (run : (ringSessionMachine config).Run Machine.free inputs session events)
    (few : (writtenMessages events).length < 2 ^ 63)
    {id : Nat} {reader : ShmRingReader}
    (found : session.readers[id]? = some reader) :
    ∃ target emitted moved result,
      session.step (.read id) = some (target, emitted) ∧
        returnedBy id emitted = [result] ∧
        target.readers[id]? = some moved ∧
        reader.next ≤ (writtenMessages events).length ∧
        (result = none ↔ reader.next = (writtenMessages events).length) ∧
        (reader.next = (writtenMessages events).length →
          moved.next = reader.next ∧ moved.dropped = reader.dropped) ∧
        (0 < (writtenMessages events).length - reader.next →
          (writtenMessages events).length - reader.next ≤ config.slotCount →
          result = (writtenMessages events)[reader.next]? ∧
            moved.dropped = reader.dropped ∧
            moved.next = reader.next + 1) ∧
        (config.slotCount < (writtenMessages events).length - reader.next →
          let oldest := (writtenMessages events).length - config.slotCount + 1
          result = (writtenMessages events)[oldest]? ∧
            moved.dropped = reader.dropped + (oldest - reader.next) ∧
            moved.next = oldest + 1) ∧
        target.memory = session.memory ∧
        ∀ other, other ≠ id →
          target.readers[other]? = session.readers[other]? ∧
            ∀ rest,
              readerOutcome config other target rest =
                readerOutcome config other session rest := by
  have holds := SessionInvariant.of_run several run few
  have between := holds.readers id reader found
  have inRange := (List.getElem?_eq_some_iff.mp found).1
  have outcome := holds.read found (Or.inl several)
  have same :
      SameExcept id
        { session with
          readers := session.readers.set id (reader.read session.memory).1 }
        session :=
    ⟨rfl, rfl, by simp, fun other different =>
      List.getElem?_set_ne different.symm⟩
  have single :
      returnedBy id
          ((reader.drops session.memory).map
              (fun pos => .dropped id pos session.memory.writeSeq) ++
            [.returned id (reader.read session.memory).2]) =
        [(reader.read session.memory).2] := by
    simp [returnedBy, List.filterMap_map]
  exact ⟨_, _, _, _, RingSession.step_read found, single,
    List.getElem?_set_self inRange, between.notAhead, outcome.returnsFalse_iff,
    outcome.of_drained, outcome.of_within, outcome.of_behind, rfl,
    fun other different =>
      ⟨same.others other different, same.readerOutcome different config⟩⟩

/-- A reader is made, and three messages are written to two slots. -/
def threeMessages : List SessionInput :=
  [.makeReader, .write [7], .write [8], .write [9]]

theorem shmRing_sequential_read_exact_threeMessages :
    ∃ session events target emitted,
      (ringSessionMachine smallRing).Run Machine.free threeMessages session
          events ∧
        session.step (.read 0) = some (target, emitted) ∧
        returnedBy 0 emitted = [some [9]] := by
  obtain ⟨session, events, run, checked⟩ :=
    Machine.run_of_exec_check (ringSessionMachine smallRing) Machine.free
      threeMessages (RingSession.start smallRing zeroedMemory)
      (fun session events =>
        (session.readers[0]?).map ShmRingReader.next = some 0 ∧
          writtenMessages events = [[7], [8], [9]])
      ⟨zeroedMemory, rfl⟩ (by decide +kernel)
  obtain ⟨position, written⟩ := of_decide_eq_true checked
  obtain ⟨reader, found, atStart⟩ := Option.map_eq_some_iff.mp position
  obtain ⟨target, emitted, moved, result, stepped, returned, _, _, _, _, _,
    behind, _⟩ :=
    shmRing_sequential_read_exact (show 2 ≤ smallRing.slotCount by decide) run
      (by rw [written]; decide) found
  have far :
      smallRing.slotCount < (writtenMessages events).length - reader.next := by
    rw [written, atStart]
    decide
  have newest := (behind far).1
  rw [written] at newest
  refine ⟨session, events, target, emitted, run, stepped, ?_⟩
  rw [returned, newest]
  rfl

/-! ## A drained reader and the next message -/

/-- What one reader can tell: the messages written and its own results. -/
inductive ReaderEvent where
  | written (data : Bytes)
  | returned (result : Option Bytes)
  deriving DecidableEq, Repr

/-- The part of a session that concerns one reader. -/
def readerHistory (id : Nat) (events : List SessionEvent) : List ReaderEvent :=
  events.filterMap fun
    | .written data => some (.written data)
    | .returned reader result =>
        if reader = id then some (.returned result) else none
    | _ => none

/-- The positions that the counter of one reader has counted. -/
def droppedBy (id : Nat) (events : List SessionEvent) : List Nat :=
  events.filterMap fun
    | .dropped reader pos _ => if reader = id then some pos else none
    | _ => none

/-- A reader that has returned false receives the message written next, and
every position counted by `dropped()` had been written. -/
structure NextMessageReceived (session : RingSession)
    (events : List SessionEvent) : Prop where
  received :
    ∀ id before after message result,
      readerHistory id events =
        before ++
          [.returned none, .written message, .returned result] ++ after →
      result = some message
  counted :
    ∀ before after id pos writeSeq,
      events = before ++ .dropped id pos writeSeq :: after →
      pos < (writtenMessages before).length
  tally :
    ∀ (id : Nat) reader, session.readers[id]? = some reader →
      reader.dropped = (droppedBy id events).length

theorem readerHistory_append (id : Nat) (earlier later : List SessionEvent) :
    readerHistory id (earlier ++ later) =
      readerHistory id earlier ++ readerHistory id later :=
  List.filterMap_append

theorem droppedBy_append (id : Nat) (earlier later : List SessionEvent) :
    droppedBy id (earlier ++ later) =
      droppedBy id earlier ++ droppedBy id later :=
  List.filterMap_append

/-- What the end of a reader's history says about its cursor. -/
structure CursorHistory (session : RingSession)
    (events : List SessionEvent) : Prop where
  unmade :
    ∀ id, session.readers.length ≤ id →
      (∀ result, .returned result ∉ readerHistory id events) ∧
        droppedBy id events = []
  drained :
    ∀ (id : Nat) reader before, session.readers[id]? = some reader →
      readerHistory id events = before ++ [.returned none] →
      reader.next = (writtenMessages events).length
  oneMore :
    ∀ (id : Nat) reader before message, session.readers[id]? = some reader →
      readerHistory id events = before ++ [.returned none, .written message] →
      ∃ earlier,
        writtenMessages events = earlier ++ [message] ∧
          reader.next = earlier.length

namespace CursorHistory

variable {config : RingConfig} {session : RingSession}
  {events : List SessionEvent}

/-- The history of a reader that has just read. -/
theorem readerHistory_read (id reading : Nat) (drops : List Nat) (w : Nat)
    (result : Option Bytes) :
    readerHistory id
        (drops.map (fun pos => SessionEvent.dropped reading pos w) ++
          [SessionEvent.returned reading result]) =
      if reading = id then [.returned result] else [] := by
  by_cases same : reading = id <;>
    simp [readerHistory, List.filterMap_map, same]

theorem droppedBy_read (id reading : Nat) (drops : List Nat) (w : Nat)
    (result : Option Bytes) :
    droppedBy id
        (drops.map (fun pos => SessionEvent.dropped reading pos w) ++
          [SessionEvent.returned reading result]) =
      if reading = id then drops else [] := by
  by_cases same : reading = id <;>
    simp [droppedBy, List.filterMap_map, same]

theorem silent
    (history : CursorHistory session events) {emitted : List SessionEvent}
    (noHistory : ∀ id, readerHistory id emitted = [])
    (noDrops : ∀ id, droppedBy id emitted = [])
    (noWrites : writtenMessages emitted = []) :
    CursorHistory session (events ++ emitted) := by
  have sameWrites :
      writtenMessages (events ++ emitted) = writtenMessages events := by
    rw [writtenMessages_append, noWrites, List.append_nil]
  constructor
  case unmade =>
    intro id late
    rw [readerHistory_append, noHistory, droppedBy_append, noDrops,
      List.append_nil, List.append_nil]
    exact history.unmade id late
  case drained =>
    intro id reader before found ended
    rw [readerHistory_append, noHistory, List.append_nil] at ended
    rw [sameWrites]
    exact history.drained id reader before found ended
  case oneMore =>
    intro id reader before message found ended
    rw [readerHistory_append, noHistory, List.append_nil] at ended
    rw [sameWrites]
    exact history.oneMore id reader before message found ended

theorem written
    (history : CursorHistory session events) (memory : RingMemory)
    (data : Bytes) :
    CursorHistory { session with memory := memory }
      (events ++ [SessionEvent.written data]) := by
  have grown (id : Nat) :
      readerHistory id (events ++ [SessionEvent.written data]) =
        readerHistory id events ++ [ReaderEvent.written data] := by
    rw [readerHistory_append]
    rfl
  have undropped (id : Nat) :
      droppedBy id (events ++ [SessionEvent.written data]) =
        droppedBy id events := by
    rw [droppedBy_append]
    exact List.append_nil _
  constructor
  case unmade =>
    intro id late
    obtain ⟨never, nothing⟩ := history.unmade id late
    rw [grown, undropped]
    exact ⟨fun result member => by simp [never] at member, nothing⟩
  case drained =>
    intro id reader before _ ended
    rw [grown] at ended
    cases (List.append_inj' ended rfl).2
  case oneMore =>
    intro id reader before message found ended
    rw [grown, List.append_cons before] at ended
    obtain ⟨earlier, last⟩ := List.append_inj' ended rfl
    cases last
    exact ⟨writtenMessages events, writtenMessages_append _ _,
      history.drained id reader before found earlier⟩

theorem made
    (history : CursorHistory session events) (added : ShmRingReader) :
    CursorHistory { session with readers := session.readers ++ [added] }
      events := by
  obtain ⟨never, _⟩ := history.unmade session.readers.length (Nat.le_refl _)
  constructor
  case unmade =>
    intro id late
    simp only [List.length_append, List.length_singleton] at late
    exact history.unmade id (by omega)
  case drained =>
    intro id reader before found ended
    rcases getElem?_concat_eq_some.mp found with earlier | ⟨rfl, _⟩
    · exact history.drained id reader before earlier ended
    · exact absurd (by simp [ended]) (never none)
  case oneMore =>
    intro id reader before message found ended
    rcases getElem?_concat_eq_some.mp found with earlier | ⟨rfl, _⟩
    · exact history.oneMore id reader before message earlier ended
    · exact absurd (by simp [ended]) (never none)

theorem read
    (history : CursorHistory session events)
    {reading : Nat} {reader moved : ShmRingReader} {result : Option Bytes}
    {drops : List Nat}
    (found : session.readers[reading]? = some reader)
    (outcome :
      CursorRead config.slotCount (writtenMessages events) reader moved result
        drops)
    (w : Nat) :
    CursorHistory { session with readers := session.readers.set reading moved }
      (events ++
        (drops.map (fun pos => SessionEvent.dropped reading pos w) ++
          [SessionEvent.returned reading result])) := by
  have inRange := (List.getElem?_eq_some_iff.mp found).1
  have sameWrites :
      writtenMessages
          (events ++
            (drops.map (fun pos => SessionEvent.dropped reading pos w) ++
              [SessionEvent.returned reading result])) =
        writtenMessages events := by
    simp [writtenMessages]
  constructor
  case unmade =>
    intro id late
    rw [List.length_set] at late
    rw [readerHistory_append, readerHistory_read, droppedBy_append,
      droppedBy_read, if_neg (by omega), if_neg (by omega), List.append_nil,
      List.append_nil]
    exact history.unmade id late
  case drained =>
    intro id other before otherFound ended
    rw [readerHistory_append, readerHistory_read] at ended
    rw [sameWrites]
    rcases eq_or_ne reading id with rfl | different
    · rw [if_pos rfl] at ended
      have last := (List.append_inj' ended rfl).2
      rw [List.getElem?_set_self inRange] at otherFound
      cases otherFound
      cases last
      have position := outcome.returnsFalse_iff.mp rfl
      exact (outcome.of_drained position).1.trans position
    · rw [if_neg different, List.append_nil] at ended
      rw [List.getElem?_set_ne different] at otherFound
      exact history.drained id other before otherFound ended
  case oneMore =>
    intro id other before message otherFound ended
    rw [readerHistory_append, readerHistory_read] at ended
    rw [sameWrites]
    rcases eq_or_ne reading id with rfl | different
    · rw [if_pos rfl, List.append_cons before] at ended
      cases (List.append_inj' ended rfl).2
    · rw [if_neg different, List.append_nil] at ended
      rw [List.getElem?_set_ne different] at otherFound
      exact history.oneMore id other before message otherFound ended

end CursorHistory

/-- The end of every history after an operation. -/
theorem CursorHistory.step
    {config : RingConfig} {session target : RingSession}
    {events emitted : List SessionEvent} {input : SessionInput}
    (invariant : SessionInvariant config session (writtenMessages events))
    (history : CursorHistory session events)
    (allowed : Admissible session input)
    (stepped : session.step input = some (target, emitted)) :
    CursorHistory target (events ++ emitted) := by
  cases RingSession.steps_of_step stepped with
  | written data _ =>
      exact history.written _ data
  | refused data _ =>
      exact history.silent (fun _ => rfl) (fun _ => rfl) rfl
  | made ring _ =>
      exact (history.silent (fun _ => rfl) (fun _ => rfl) rfl).made _
  | read reading reader found =>
      have close := allowed reader found
      rw [invariant.ring, invariant.slots.writeSeq] at close
      exact history.read found (invariant.read found close) _

namespace NextMessageReceived

variable {config : RingConfig} {session target : RingSession}
  {events emitted : List SessionEvent} {input : SessionInput}

/-- What an operation counts as dropped has been written before it. -/
theorem counted_append
    (holds : NextMessageReceived session events)
    (fresh :
      ∀ id pos writeSeq, .dropped id pos writeSeq ∈ emitted →
        pos < (writtenMessages events).length)
    (before after : List SessionEvent) (id pos writeSeq : Nat)
    (split : events ++ emitted = before ++ .dropped id pos writeSeq :: after) :
    pos < (writtenMessages before).length := by
  rcases List.append_eq_append_iff.mp split with
    ⟨first, rfl, emittedEq⟩ | ⟨first, eventsEq, tailEq⟩
  · have here := fresh id pos writeSeq (by simp [emittedEq])
    rw [writtenMessages_append, List.length_append]
    omega
  · cases first with
    | nil =>
        rw [List.append_nil] at eventsEq
        subst eventsEq
        have emittedEq : emitted = .dropped id pos writeSeq :: after :=
          tailEq.symm
        exact fresh id pos writeSeq (by simp [emittedEq])
    | cons event rest =>
        simp only [List.cons_append, List.cons.injEq] at tailEq
        obtain ⟨rfl, _⟩ := tailEq
        exact holds.counted before rest id pos writeSeq eventsEq

/-- An operation shows a reader nothing, a write, or a result that agrees with
the end of its history. -/
theorem received_append
    (holds : NextMessageReceived session events) (id : Nat)
    {shown : List ReaderEvent}
    (grown :
      readerHistory id (events ++ emitted) = readerHistory id events ++ shown)
    (fresh :
      shown = [] ∨ (∃ data, shown = [.written data]) ∨
        ∃ result, shown = [.returned result] ∧
          ∀ before message,
            readerHistory id events =
                before ++ [ReaderEvent.returned none,
                  ReaderEvent.written message] →
              result = some message)
    (before after : List ReaderEvent) (message : Bytes)
    (result : Option Bytes)
    (split :
      readerHistory id (events ++ emitted) =
        before ++
          [ReaderEvent.returned none, ReaderEvent.written message,
            ReaderEvent.returned result] ++ after) :
    result = some message := by
  rw [grown] at split
  rcases fresh with rfl | ⟨data, rfl⟩ | ⟨now, rfl, sound⟩
  · rw [List.append_nil] at split
    exact holds.received id before after message result split
  · rcases concat_eq_append_iff.mp split with ⟨_, ended⟩ | ⟨rest, _, earlier⟩
    · rw [List.append_cons, List.append_cons] at ended
      cases (List.append_inj' ended rfl).2
    · exact holds.received id before rest message result earlier
  · rcases concat_eq_append_iff.mp split with ⟨_, ended⟩ | ⟨rest, _, earlier⟩
    · rw [List.append_cons, List.append_cons, List.append_assoc before] at ended
      obtain ⟨historyEq, last⟩ := List.append_inj' ended rfl
      cases last
      exact sound before message historyEq.symm
    · exact holds.received id before rest message result earlier

theorem step
    (invariant : SessionInvariant config session (writtenMessages events))
    (history : CursorHistory session events)
    (holds : NextMessageReceived session events)
    (allowed : Admissible session input)
    (stepped : session.step input = some (target, emitted)) :
    NextMessageReceived target (events ++ emitted) := by
  cases RingSession.steps_of_step stepped with
  | written data _ =>
      refine ⟨fun id => holds.received_append id (readerHistory_append _ _ _)
        (Or.inr (Or.inl ⟨data, rfl⟩)), holds.counted_append (by simp), ?_⟩
      intro id reader found
      simpa [droppedBy] using holds.tally id reader found
  | refused data _ =>
      refine ⟨fun id => holds.received_append id (readerHistory_append _ _ _)
        (Or.inl rfl), holds.counted_append (by simp), ?_⟩
      intro id reader found
      simpa [droppedBy] using holds.tally id reader found
  | made ring _ =>
      refine ⟨fun id => holds.received_append id (readerHistory_append _ _ _)
        (Or.inl rfl), holds.counted_append (by simp), ?_⟩
      intro id reader found
      rcases getElem?_concat_eq_some.mp found with earlier | ⟨rfl, rfl⟩
      · simpa [droppedBy] using holds.tally id reader earlier
      · rw [droppedBy_append,
          (history.unmade session.readers.length (Nat.le_refl _)).2]
        rfl
  | read reading reader found =>
      have between := invariant.readers reading reader found
      have close := allowed reader found
      rw [invariant.ring, invariant.slots.writeSeq] at close
      have outcome := invariant.read found close
      obtain ⟨_, tallied, written⟩ := outcome.kept between
      constructor
      case received =>
        intro id
        refine holds.received_append id (readerHistory_append _ _ _) ?_
        rw [CursorHistory.readerHistory_read]
        rcases eq_or_ne reading id with rfl | different
        · refine Or.inr (Or.inr ⟨_, if_pos rfl, ?_⟩)
          -- One message has been written since the read that returned false.
          intro before message ended
          obtain ⟨earlier, messagesEq, position⟩ :=
            history.oneMore reading reader before message found ended
          have positive := config.slotCount_pos
          have sizes := congrArg List.length messagesEq
          rw [List.length_append, List.length_singleton] at sizes
          rw [(outcome.of_within (by omega) (by omega)).1, messagesEq,
            position]
          simp
        · exact Or.inl (if_neg different)
      case counted =>
        refine holds.counted_append ?_
        intro id pos writeSeq member
        simp only [List.mem_append, List.mem_map, List.mem_singleton,
          reduceCtorEq, or_false, SessionEvent.dropped.injEq] at member
        obtain ⟨counted, isDrop, _, rfl, _⟩ := member
        exact written counted isDrop
      case tally =>
        intro id other otherFound
        rw [droppedBy_append, CursorHistory.droppedBy_read]
        rcases eq_or_ne reading id with rfl | different
        · rw [List.getElem?_set_self (List.getElem?_eq_some_iff.mp found).1]
            at otherFound
          cases otherFound
          rw [if_pos rfl, List.length_append, tallied,
            holds.tally reading reader found]
        · rw [List.getElem?_set_ne different] at otherFound
          rw [if_neg different, List.append_nil]
          exact holds.tally id other otherFound

end NextMessageReceived

/-- In every session in which no late reader reads from a one-slot ring, a
reader that has returned false receives the message written next, and only
written positions are counted as dropped. -/
theorem shmRing_drained_reader_receives_next
    {config : RingConfig} {inputs : List SessionInput}
    {session : RingSession} {events : List SessionEvent}
    (run : (ringSessionMachine config).Run Admissible inputs session events) :
    NextMessageReceived session events := by
  have all :
      SessionInvariant config session (writtenMessages events) ∧
        CursorHistory session events ∧ NextMessageReceived session events := by
    refine run.invariant
      (fun session events =>
        SessionInvariant config session (writtenMessages events) ∧
          CursorHistory session events ∧ NextMessageReceived session events)
      ?_ ?_
    · rintro session ⟨before, rfl⟩
      refine ⟨SessionInvariant.start config before, ?_, ?_⟩
      · exact ⟨fun _ _ => ⟨by simp [readerHistory], rfl⟩,
          by simp [RingSession.start], by simp [RingSession.start]⟩
      · exact ⟨by simp [readerHistory], by simp, by simp [RingSession.start]⟩
    · rintro session events input target emitted ⟨invariant, history, holds⟩
        allowed stepped
      refine ⟨?_, history.step invariant allowed stepped,
        holds.step invariant history allowed stepped⟩
      rw [writtenMessages_append]
      exact invariant.step allowed stepped
  exact all.2.2

/-- One slot of four bytes. -/
def oneSlotRing : RingConfig where
  slotCount := 1
  slotSize := 4
  powerOfTwo := ⟨0, by decide, rfl⟩
  slotSizeBound := fourByteSlots_fit

theorem shmRing_drained_reader_receives_next_oneSlot :
    ∃ session events,
      (ringSessionMachine oneSlotRing).Run Admissible
          [.makeReader, .read 0, .write [5], .read 0] session events ∧
        readerHistory 0 events =
          [.returned none, .written [5], .returned (some [5])] ∧
        NextMessageReceived session events := by
  obtain ⟨session, events, run, checked⟩ :=
    Machine.run_of_exec_check (ringSessionMachine oneSlotRing) Admissible
      [.makeReader, .read 0, .write [5], .read 0]
      (RingSession.start oneSlotRing zeroedMemory)
      (fun _ events =>
        readerHistory 0 events =
          [.returned none, .written [5], .returned (some [5])])
      ⟨zeroedMemory, rfl⟩ (by decide +kernel)
  exact ⟨session, events, run, of_decide_eq_true checked,
    shmRing_drained_reader_receives_next run⟩

/-- Two messages behind on one slot, a read returns false and steps over the
position after the last: it counts position 2 while two messages have been
written, and the third message is never received. -/
theorem shmRing_one_slot_misses_next :
    ∃ session events,
      (ringSessionMachine oneSlotRing).Run Machine.free
          [.makeReader, .write [1], .write [2], .read 0, .write [3], .read 0]
          session events ∧
        .dropped 0 2 2 ∈ events ∧
        readerHistory 0 events =
          [.written [1], .written [2]] ++
            [.returned none, .written [3], .returned none] ++ [] ∧
        ¬ NextMessageReceived session events := by
  obtain ⟨session, events, run, checked⟩ :=
    Machine.run_of_exec_check (ringSessionMachine oneSlotRing) Machine.free
      [.makeReader, .write [1], .write [2], .read 0, .write [3], .read 0]
      (RingSession.start oneSlotRing zeroedMemory)
      (fun _ events =>
        .dropped 0 2 2 ∈ events ∧
          readerHistory 0 events =
            ([.written [1], .written [2]] : List ReaderEvent) ++
              ([.returned none, .written [3], .returned none] :
                List ReaderEvent) ++ ([] : List ReaderEvent))
      ⟨zeroedMemory, rfl⟩ (by decide +kernel)
  obtain ⟨dropped, history⟩ := of_decide_eq_true checked
  refine ⟨session, events, run, dropped, history, fun holds => ?_⟩
  cases holds.received 0 _ _ _ _ history

end MiniMiddleware.Transport
