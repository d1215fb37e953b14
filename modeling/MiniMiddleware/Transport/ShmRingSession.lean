import MiniMiddleware.Library.Lists
import MiniMiddleware.Transport.ShmRingInvariant
import MiniMiddleware.Transport.ShmRingSequential

/-!
# Rings whose operations do not overlap

One writer and any number of readers use a ring, and every `write`, `read` and
`make_reader` runs to its end before the next begins.  In such a session a
slot always holds the newest message of its class of positions, so that the
result of a read is a function of the cursor and of the messages written.
-/

namespace MiniMiddleware.Transport

open MiniMiddleware.Library

/-! ## The session -/

/-- The positions counted by `dropped_` in one step of `read`. -/
def droppedPositions (events : List RingEvent) : List Nat :=
  events.filterMap fun
    | .dropped _ pos _ => some pos
    | _ => none

/-- The positions counted by `dropped_` while `read` runs to its return. -/
def runReaderDrops (memory : RingMemory) : Nat → ShmRingReader → List Nat
  | 0, _ => []
  | fuel + 1, reader =>
      let (moved, events) := readerStep 0 memory reader
      droppedPositions events ++
        if moved.pc = .idle then [] else runReaderDrops memory fuel moved

/-- The positions that a whole `read` counts as dropped. -/
def ShmRingReader.drops (reader : ShmRingReader) (memory : RingMemory) :
    List Nat :=
  runReaderDrops memory
    ((memory.writeSeq - reader.next + 1) * (reader.ring.slotSize + 5))
    reader

/-- The writer's view of the ring, the memory and the readers made so far. -/
structure RingSession where
  ring : ShmRing
  memory : RingMemory
  readers : List ShmRingReader

/-- The operations of a session. -/
inductive SessionInput where
  | write (data : Bytes)
  | makeReader
  | read (id : Nat)
  deriving DecidableEq, Repr

/-- What the operations of a session return, and the positions that
`dropped_` counts, with the value of `write_seq` at that moment. -/
inductive SessionEvent where
  | written (data : Bytes)
  | refused (data : Bytes)
  | made (reader : Nat)
  | dropped (reader pos writeSeq : Nat)
  | returned (reader : Nat) (result : Option Bytes)
  deriving DecidableEq, Repr

/-- One completed operation. -/
def RingSession.step (session : RingSession) :
    SessionInput → Option (RingSession × List SessionEvent)
  | .write data =>
      let (memory, accepted) := session.ring.write session.memory data
      some ({ session with memory := memory },
        [if accepted then .written data else .refused data])
  | .makeReader =>
      match ShmRing.attach session.memory with
      | none => none
      | some ring =>
          some ({ session with
              readers :=
                session.readers ++ [ShmRingReader.create ring session.memory] },
            [.made session.readers.length])
  | .read id =>
      match session.readers[id]? with
      | none => none
      | some reader =>
          let (moved, result) := reader.read session.memory
          some ({ session with readers := session.readers.set id moved },
            (reader.drops session.memory).map
                (fun pos => .dropped id pos session.memory.writeSeq) ++
              [.returned id result])

/-- The session right after `init` on memory with any earlier content. -/
def RingSession.start (config : RingConfig) (before : RingMemory) :
    RingSession :=
  let (ring, memory) := ShmRing.init before config.slotCount config.slotSize
  ⟨ring, memory, []⟩

/-- All sequences of completed operations on a freshly initialised ring. -/
def ringSessionMachine (config : RingConfig) :
    Machine RingSession SessionInput SessionEvent where
  initial session := ∃ before, session = RingSession.start config before
  step := RingSession.step

/-- The steps of a session, one constructor for each outcome. -/
inductive RingSession.Steps (session : RingSession) :
    SessionInput → RingSession → List SessionEvent → Prop
  | written (data : Bytes) :
      data.length ≤ session.ring.slotSize →
      RingSession.Steps session (.write data)
        { session with
          memory := (session.ring.write session.memory data).1 }
        [.written data]
  | refused (data : Bytes) :
      session.ring.slotSize < data.length →
      RingSession.Steps session (.write data) session [.refused data]
  | made (ring : ShmRing) :
      ShmRing.attach session.memory = some ring →
      RingSession.Steps session .makeReader
        { session with
          readers :=
            session.readers ++ [ShmRingReader.create ring session.memory] }
        [.made session.readers.length]
  | read (id : Nat) (reader : ShmRingReader) :
      session.readers[id]? = some reader →
      RingSession.Steps session (.read id)
        { session with
          readers := session.readers.set id (reader.read session.memory).1 }
        ((reader.drops session.memory).map
            (fun pos => .dropped id pos session.memory.writeSeq) ++
          [.returned id (reader.read session.memory).2])

theorem RingSession.steps_of_step
    {session target : RingSession} {input : SessionInput}
    {emitted : List SessionEvent}
    (stepped : session.step input = some (target, emitted)) :
    session.Steps input target emitted := by
  cases input with
  | write data =>
      by_cases small : data.length ≤ session.ring.slotSize
      · have accepted : (session.ring.write session.memory data).2 = true := by
          rw [ShmRing.write_of_fits session.ring session.memory small]
        simp only [step, accepted, if_true, Option.some.injEq,
          Prod.mk.injEq] at stepped
        obtain ⟨rfl, rfl⟩ := stepped
        exact Steps.written data small
      · have large := Nat.lt_of_not_le small
        simp only [step, ShmRing.write_of_large session.ring session.memory
          large, Bool.false_eq_true, if_false, Option.some.injEq,
          Prod.mk.injEq] at stepped
        obtain ⟨rfl, rfl⟩ := stepped
        exact Steps.refused data large
  | makeReader =>
      simp only [step] at stepped
      split at stepped
      · cases stepped
      · rename_i ring attached
        cases stepped
        exact Steps.made ring attached
  | read id =>
      simp only [step] at stepped
      split at stepped
      · cases stepped
      · rename_i reader found
        cases stepped
        exact Steps.read id reader found

theorem RingSession.step_read
    {session : RingSession} {id : Nat} {reader : ShmRingReader}
    (found : session.readers[id]? = some reader) :
    session.step (.read id) =
      some ({ session with
          readers := session.readers.set id (reader.read session.memory).1 },
        (reader.drops session.memory).map
            (fun pos => .dropped id pos session.memory.writeSeq) ++
          [.returned id (reader.read session.memory).2]) := by
  simp only [step, found]

/-- The messages written, in order. -/
def writtenMessages (events : List SessionEvent) : List Bytes :=
  events.filterMap fun
    | .written data => some data
    | _ => none

theorem writtenMessages_append (earlier later : List SessionEvent) :
    writtenMessages (earlier ++ later) =
      writtenMessages earlier ++ writtenMessages later :=
  List.filterMap_append

/-! ## One undisturbed read -/

/-- `read` returns `result` with the reader at `moved`, and `dropped_` counts
the positions `drops`. -/
structure ReadReturns (memory : RingMemory) (fuel : Nat)
    (reader moved : ShmRingReader) (result : Option Bytes)
    (drops : List Nat) : Prop where
  outcome : runReader memory fuel reader = (moved, result)
  drops : runReaderDrops memory fuel reader = drops

namespace ReadReturns

variable {memory : RingMemory} {reader middle moved : ShmRingReader}
  {result : Option Bytes} {drops : List Nat} {events : List RingEvent}
  {fuel : Nat}

theorem last
    (loaded : readerStep 0 memory reader = (moved, events))
    (returned : moved.pc = .idle) :
    ReadReturns memory (fuel + 1) reader moved (receivedBytes events)
      (droppedPositions events) := by
  constructor
  · simp only [runReader, loaded, if_pos returned]
  · simp only [runReaderDrops, loaded, if_pos returned, List.append_nil]

theorem proceed
    (loaded : readerStep 0 memory reader = (middle, events))
    (running : middle.pc ≠ .idle)
    (rest : ReadReturns memory fuel middle moved result drops) :
    ReadReturns memory (fuel + 1) reader moved result
      (droppedPositions events ++ drops) := by
  constructor
  · simp only [runReader, loaded, if_neg running, rest.outcome]
  · simp only [runReaderDrops, loaded, if_neg running, rest.drops]

theorem proceedSilent
    (loaded : readerStep 0 memory reader = (middle, []))
    (running : middle.pc ≠ .idle)
    (rest : ReadReturns memory fuel middle moved result drops) :
    ReadReturns memory (fuel + 1) reader moved result drops :=
  proceed loaded running rest

/-- The copy of an undisturbed slot and the second look at its `seq`. -/
theorem copying
    (ring : ShmRing) {next : Nat} (dropped : Nat) {len : Nat}
    (published : (memory.slots (ring.slotIndex next)).seq = next)
    (remaining copied fuel : Nat) (split : copied + remaining = len)
    (enough : remaining < fuel) :
    ReadReturns memory fuel
      ⟨ring, next, dropped,
        (List.range copied).map (memory.slots (ring.slotIndex next)).data,
        .copying len copied⟩
      ⟨ring, (next + 1) % 2 ^ 64, dropped,
        (List.range len).map (memory.slots (ring.slotIndex next)).data, .idle⟩
      (some ((List.range len).map (memory.slots (ring.slotIndex next)).data))
      [] := by
  induction remaining generalizing copied fuel with
  | zero =>
      obtain ⟨fuel, rfl⟩ : ∃ less, fuel = less + 1 := ⟨fuel - 1, by omega⟩
      have done : copied = len := by omega
      subst done
      have loaded :
          readerStep 0 memory
              ⟨ring, next, dropped,
                (List.range copied).map
                  (memory.slots (ring.slotIndex next)).data,
                .copying copied copied⟩ =
            (⟨ring, (next + 1) % 2 ^ 64, dropped,
                (List.range copied).map
                  (memory.slots (ring.slotIndex next)).data, .idle⟩,
              [.received 0 next
                ((List.range copied).map
                  (memory.slots (ring.slotIndex next)).data)]) := by
        simp [readerStep, published]
      exact last loaded rfl
  | succ remaining inductionHypothesis =>
      obtain ⟨fuel, rfl⟩ : ∃ less, fuel = less + 1 := ⟨fuel - 1, by omega⟩
      have rest := inductionHypothesis (copied + 1) fuel (by omega) (by omega)
      rw [List.range_succ, List.map_append] at rest
      refine proceedSilent ?_ ?_ rest
      · simp [readerStep, show copied < len by omega]
      · simp

/-- From the first look at a published slot to the return. -/
theorem loadSeq
    (ring : ShmRing) {next : Nat} (dropped : Nat) (out : Bytes)
    (small : next < 2 ^ 63)
    (published : (memory.slots (ring.slotIndex next)).seq = next)
    (fits : (memory.slots (ring.slotIndex next)).len ≤ ring.slotSize)
    (enough : ring.slotSize + 2 < fuel) :
    ReadReturns memory fuel ⟨ring, next, dropped, out, .loadSeq⟩
      ⟨ring, next + 1, dropped, (memory.slots (ring.slotIndex next)).payload,
        .idle⟩
      (some (memory.slots (ring.slotIndex next)).payload) [] := by
  obtain ⟨fuel, rfl⟩ : ∃ less, fuel = less + 1 + 1 := ⟨fuel - 2, by omega⟩
  have samePosition : next &&& kPositionMask = next := by
    rw [and_kPositionMask, Nat.mod_eq_of_lt small]
  have noMark : next &&& kWritingBit = 0 := by
    rw [kWritingBit_eq, Nat.and_two_pow, Nat.testBit_lt_two_pow small]
    rfl
  have copy :=
    copying ring dropped published
      (memory.slots (ring.slotIndex next)).len 0 fuel (Nat.zero_add _)
      (by omega)
  rw [Nat.mod_eq_of_lt (show next + 1 < 2 ^ 64 by omega)] at copy
  have loaded :
      readerStep 0 memory ⟨ring, next, dropped, out, .loadSeq⟩ =
        (⟨ring, next, dropped, out, .loadLen⟩, []) := by
    simp [readerStep, published, samePosition, noMark]
  refine proceedSilent loaded (by simp) (proceedSilent ?_ ?_ copy)
  · simp [readerStep, fits]
  · simp

theorem drained
    (ring : ShmRing) {next : Nat} (dropped : Nat) (out : Bytes)
    (nothing : memory.writeSeq ≤ next) (enough : 1 < fuel) :
    ReadReturns memory fuel ⟨ring, next, dropped, out, .idle⟩
      ⟨ring, next, dropped, out, .idle⟩ none [] := by
  obtain ⟨fuel, rfl⟩ : ∃ less, fuel = less + 1 + 1 := ⟨fuel - 2, by omega⟩
  have loaded :
      readerStep 0 memory ⟨ring, next, dropped, out, .loadWriteSeq⟩ =
        (⟨ring, next, dropped, out, .idle⟩, [.noData 0 memory.writeSeq]) := by
    simp [readerStep, nothing]
  exact proceedSilent rfl (by simp) (last loaded rfl)

/-- A read at most one lap behind: the slot of the cursor is returned. -/
theorem within
    (ring : ShmRing) {next : Nat} (dropped : Nat) (out : Bytes)
    (behind : next < memory.writeSeq)
    (lap : memory.writeSeq - next ≤ ring.slotCount)
    (small : next < 2 ^ 63)
    (published : (memory.slots (ring.slotIndex next)).seq = next)
    (fits : (memory.slots (ring.slotIndex next)).len ≤ ring.slotSize)
    (enough : ring.slotSize + 4 < fuel) :
    ReadReturns memory fuel ⟨ring, next, dropped, out, .idle⟩
      ⟨ring, next + 1, dropped, (memory.slots (ring.slotIndex next)).payload,
        .idle⟩
      (some (memory.slots (ring.slotIndex next)).payload) [] := by
  obtain ⟨fuel, rfl⟩ : ∃ less, fuel = less + 1 + 1 := ⟨fuel - 2, by omega⟩
  have loaded :
      readerStep 0 memory ⟨ring, next, dropped, out, .loadWriteSeq⟩ =
        (⟨ring, next, dropped, out, .loadSeq⟩, []) := by
    simp [readerStep, show ¬ memory.writeSeq ≤ next by omega,
      show ¬ ring.slotCount < memory.writeSeq - next by omega]
  exact proceedSilent rfl (by simp) <|
    proceedSilent loaded (by simp) <|
      loadSeq ring dropped out small published fits (by omega)

/-- A read more than one lap behind: the cursor first moves to `target`. -/
theorem fastForward
    (ring : ShmRing) {next : Nat} (dropped : Nat) (out : Bytes)
    {target : Nat} (isTarget : target = memory.writeSeq - ring.slotCount + 1)
    (behind : ring.slotCount < memory.writeSeq - next)
    (small : target < 2 ^ 63)
    (published : (memory.slots (ring.slotIndex target)).seq = target)
    (fits : (memory.slots (ring.slotIndex target)).len ≤ ring.slotSize)
    (enough : ring.slotSize + 4 < fuel) :
    ReadReturns memory fuel ⟨ring, next, dropped, out, .idle⟩
      ⟨ring, target + 1, (dropped + (target - next)) % 2 ^ 64,
        (memory.slots (ring.slotIndex target)).payload, .idle⟩
      (some (memory.slots (ring.slotIndex target)).payload)
      (List.range' next (target - next)) := by
  obtain ⟨fuel, rfl⟩ : ∃ less, fuel = less + 1 + 1 := ⟨fuel - 2, by omega⟩
  have loaded :
      readerStep 0 memory ⟨ring, next, dropped, out, .loadWriteSeq⟩ =
        (⟨ring, target, (dropped + (target - next)) % 2 ^ 64, out, .loadSeq⟩,
          (List.range' next (target - next)).map
            fun pos => .dropped 0 pos memory.writeSeq) := by
    simp [readerStep, show ¬ memory.writeSeq ≤ next by omega, behind,
      ShmRingReader.fastForward, isTarget]
  have counted :
      droppedPositions
          ((List.range' next (target - next)).map
            fun pos => .dropped 0 pos memory.writeSeq) =
        List.range' next (target - next) := by
    simp [droppedPositions, List.filterMap_map]
  have rest :=
    loadSeq ring ((dropped + (target - next)) % 2 ^ 64) out small published
      fits (show ring.slotSize + 2 < fuel by omega)
  have whole := proceed loaded (by simp) rest
  rw [counted, List.append_nil] at whole
  exact proceedSilent rfl (by simp) whole

end ReadReturns

/-! ## Slots hold the newest messages -/

/-- Between two operations, the slot of every position in the last lap holds
that position's message. -/
structure NewestInSlots (config : RingConfig) (memory : RingMemory)
    (messages : List Bytes) : Prop where
  header :
    memory.magic = kMagic ∧
      memory.slotCount = config.slotCount ∧
        memory.slotSize = config.slotSize
  writeSeq : memory.writeSeq = messages.length
  fits : ∀ message ∈ messages, message.length ≤ config.slotSize
  newest :
    ∀ pos message, messages[pos]? = some message →
      messages.length ≤ pos + config.slotCount →
      SlotReady (memory.slots (pos % config.slotCount)) pos message

namespace NewestInSlots

variable {config : RingConfig} {memory : RingMemory} {messages : List Bytes}

theorem start (config : RingConfig) (before : RingMemory) :
    NewestInSlots config (RingSession.start config before).memory [] where
  header := ⟨rfl, rfl, rfl⟩
  writeSeq := rfl
  fits := by simp
  newest := by simp

theorem write
    (holds : NewestInSlots config memory messages) {data : Bytes}
    (few : messages.length < 2 ^ 63)
    (small : data.length ≤ config.slotSize) :
    NewestInSlots config (config.view.write memory data).1
      (messages ++ [data]) := by
  rw [ShmRing.write_of_fits config.view memory small]
  constructor
  case header =>
    exact holds.header
  case writeSeq =>
    simp only [holds.writeSeq, List.length_append, List.length_singleton]
    exact Nat.mod_eq_of_lt (by omega)
  case fits =>
    simpa [or_imp, forall_and, small] using holds.fits
  case newest =>
    intro pos message found window
    simp only [List.length_append, List.length_singleton] at window
    simp only [RingConfig.slotIndex_view, holds.writeSeq]
    rcases getElem?_concat_eq_some.mp found with earlier | ⟨rfl, rfl⟩
    · have older : pos < messages.length :=
        (List.getElem?_eq_some_iff.mp earlier).1
      have differentSlot :
          pos % config.slotCount ≠ messages.length % config.slotCount := by
        intro same
        have lap := lap_of_mod_eq same older
        omega
      rw [Function.update_of_ne differentSlot]
      exact holds.newest pos message earlier (by omega)
    · rw [Function.update_self]
      exact ⟨rfl, payload_writtenSlot _ _ _⟩

/-- What a position of the last lap finds in its slot. -/
theorem slot
    (holds : NewestInSlots config memory messages) {pos : Nat}
    (written : pos < messages.length)
    (window : messages.length ≤ pos + config.slotCount) :
    (memory.slots (config.view.slotIndex pos)).seq = pos ∧
      (memory.slots (config.view.slotIndex pos)).len ≤ config.view.slotSize ∧
        messages[pos]? =
          some (memory.slots (config.view.slotIndex pos)).payload := by
  have found := List.getElem?_eq_getElem written
  have ready := holds.newest pos _ found window
  have lengths := congrArg List.length ready.payload
  simp only [Slot.payload, List.length_map, List.length_range] at lengths
  rw [RingConfig.slotIndex_view]
  refine ⟨ready.seq, ?_, by rw [found, ready.payload]⟩
  rw [lengths]
  exact holds.fits _ (List.getElem_mem written)

end NewestInSlots

/-! ## What a read returns -/

/-- A reader between two reads of a session. -/
structure BetweenReads (config : RingConfig) (written : Nat)
    (reader : ShmRingReader) : Prop where
  ring : reader.ring = config.view
  atRest : reader.pc = .idle
  notAhead : reader.next ≤ written
  counted : reader.dropped ≤ reader.next

/-- The outcome of a read as a function of the cursor and the messages. -/
inductive CursorRead (slotCount : Nat) (messages : List Bytes)
    (reader : ShmRingReader) :
    ShmRingReader → Option Bytes → List Nat → Prop
  | drained :
      reader.next = messages.length →
      CursorRead slotCount messages reader reader none []
  | within (message : Bytes) :
      reader.next < messages.length →
      messages.length - reader.next ≤ slotCount →
      messages[reader.next]? = some message →
      CursorRead slotCount messages reader
        { reader with next := reader.next + 1, out := message }
        (some message) []
  | behind (message : Bytes) :
      slotCount < messages.length - reader.next →
      messages[messages.length - slotCount + 1]? = some message →
      CursorRead slotCount messages reader
        { reader with
          next := messages.length - slotCount + 2
          dropped :=
            reader.dropped + (messages.length - slotCount + 1 - reader.next)
          out := message }
        (some message)
        (List.range' reader.next
          (messages.length - slotCount + 1 - reader.next))

/-- A read in a session whose ring has two slots at least, or by a reader at
most one message behind, has the outcome the messages determine. -/
theorem NewestInSlots.read
    {config : RingConfig} {memory : RingMemory} {messages : List Bytes}
    {reader : ShmRingReader}
    (holds : NewestInSlots config memory messages)
    (few : messages.length ≤ 2 ^ 63)
    (between : BetweenReads config messages.length reader)
    (close : 2 ≤ config.slotCount ∨ messages.length - reader.next ≤ 1) :
    ∃ moved result,
      reader.read memory = (moved, result) ∧
        CursorRead config.slotCount messages reader moved result
          (reader.drops memory) := by
  obtain ⟨ring, next, dropped, out, pc⟩ := reader
  obtain ⟨rfl, rfl, notAhead, counted⟩ := between
  dsimp only at notAhead counted close
  have positive := config.slotCount_pos
  rcases Nat.lt_or_ge next messages.length with behind | nothing
  · have enough :
        config.view.slotSize + 4 <
          (memory.writeSeq - next + 1) * (config.view.slotSize + 5) := by
      rw [holds.writeSeq]
      have product :=
        Nat.mul_le_mul_right (config.view.slotSize + 5)
          (show 1 ≤ messages.length - next + 1 by omega)
      omega
    rcases Nat.lt_or_ge config.slotCount (messages.length - next) with
      far | near
    · obtain ⟨published, fits, found⟩ :=
        holds.slot (show messages.length - config.slotCount + 1 < _ by omega)
          (by omega)
      have returns :=
        ReadReturns.fastForward config.view dropped out
          (by rw [holds.writeSeq]; rfl)
          (by rw [holds.writeSeq]; exact far) (by omega) published fits enough
      rw [Nat.mod_eq_of_lt (by omega)] at returns
      refine ⟨_, _, returns.outcome, ?_⟩
      rw [ShmRingReader.drops, returns.drops]
      exact CursorRead.behind _ far found
    · obtain ⟨published, fits, found⟩ :=
        holds.slot behind (by omega)
      have returns :=
        ReadReturns.within config.view dropped out
          (by rw [holds.writeSeq]; exact behind)
          (by rw [holds.writeSeq]; exact near) (by omega) published fits enough
      refine ⟨_, _, returns.outcome, ?_⟩
      rw [ShmRingReader.drops, returns.drops]
      exact CursorRead.within _ behind near found
  · have returns :=
      ReadReturns.drained config.view dropped out
        (show memory.writeSeq ≤ next by rw [holds.writeSeq]; exact nothing)
        (show 1 < (memory.writeSeq - next + 1) * (config.view.slotSize + 5) by
          rw [holds.writeSeq, Nat.sub_eq_zero_of_le nothing]
          omega)
    refine ⟨_, _, returns.outcome, ?_⟩
    rw [ShmRingReader.drops, returns.drops]
    exact CursorRead.drained (Nat.le_antisymm notAhead nothing)

/-- A read moves the cursor over written positions only. -/
theorem CursorRead.kept
    {config : RingConfig} {messages : List Bytes}
    {reader moved : ShmRingReader} {result : Option Bytes} {drops : List Nat}
    (outcome :
      CursorRead config.slotCount messages reader moved result drops)
    (between : BetweenReads config messages.length reader) :
    BetweenReads config messages.length moved ∧
      moved.dropped = reader.dropped + drops.length ∧
        ∀ pos ∈ drops, pos < messages.length := by
  have counted := between.counted
  have positive := config.slotCount_pos
  cases outcome with
  | drained _ =>
      exact ⟨between, rfl, by simp⟩
  | within message behind _ _ =>
      have position := between.notAhead
      exact ⟨⟨between.ring, between.atRest, behind, by dsimp only; omega⟩, rfl,
        by simp⟩
  | behind message far found =>
      have written := (List.getElem?_eq_some_iff.mp found).1
      refine ⟨⟨between.ring, between.atRest, by dsimp only; omega,
        by dsimp only; omega⟩, by simp, ?_⟩
      intro pos member
      rw [List.mem_range'_1] at member
      omega

/-! ## The invariant of a session -/

/-- What holds between two operations of a session. -/
structure SessionInvariant (config : RingConfig) (session : RingSession)
    (messages : List Bytes) : Prop where
  ring : session.ring = config.view
  slots : NewestInSlots config session.memory messages
  few : messages.length ≤ 2 ^ 63
  readers :
    ∀ (id : Nat) reader, session.readers[id]? = some reader →
      BetweenReads config messages.length reader

/-- The operations after which a ring goes on as documented: a position
claimed by a write leaves the writing bit free, and a reader of a one-slot
ring is at most one message behind. -/
def Admissible (session : RingSession) : SessionInput → Prop
  | .write data =>
      data.length ≤ session.ring.slotSize → session.memory.writeSeq < 2 ^ 63
  | .makeReader => True
  | .read id =>
      ∀ reader ∈ session.readers[id]?,
        2 ≤ session.ring.slotCount ∨
          session.memory.writeSeq - reader.next ≤ 1

instance (session : RingSession) (input : SessionInput) :
    Decidable (Admissible session input) :=
  match input with
  | .write data =>
      inferInstanceAs
        (Decidable (data.length ≤ session.ring.slotSize →
          session.memory.writeSeq < 2 ^ 63))
  | .makeReader => inferInstanceAs (Decidable True)
  | .read id =>
      inferInstanceAs
        (Decidable (∀ reader ∈ session.readers[id]?,
          2 ≤ session.ring.slotCount ∨
            session.memory.writeSeq - reader.next ≤ 1))

namespace SessionInvariant

variable {config : RingConfig} {session target : RingSession}
  {messages : List Bytes} {input : SessionInput}
  {emitted : List SessionEvent}

theorem start (config : RingConfig) (before : RingMemory) :
    SessionInvariant config (RingSession.start config before) [] where
  ring := rfl
  slots := NewestInSlots.start config before
  few := Nat.zero_le _
  readers := by simp [RingSession.start]

theorem read
    (holds : SessionInvariant config session messages)
    {id : Nat} {reader : ShmRingReader}
    (found : session.readers[id]? = some reader)
    (close : 2 ≤ config.slotCount ∨ messages.length - reader.next ≤ 1) :
    CursorRead config.slotCount messages reader
      (reader.read session.memory).1 (reader.read session.memory).2
      (reader.drops session.memory) := by
  obtain ⟨moved, result, outcome, determined⟩ :=
    holds.slots.read holds.few (holds.readers id reader found) close
  rw [outcome]
  exact determined

theorem step
    (holds : SessionInvariant config session messages)
    (allowed : Admissible session input)
    (stepped : session.step input = some (target, emitted)) :
    SessionInvariant config target (messages ++ writtenMessages emitted) := by
  cases RingSession.steps_of_step stepped with
  | written data small =>
      have room : messages.length < 2 ^ 63 := by
        rw [← holds.slots.writeSeq]
        exact allowed small
      rw [holds.ring] at small ⊢
      constructor
      case ring =>
        rfl
      case slots =>
        exact holds.slots.write room small
      case few =>
        simpa [writtenMessages] using room
      case readers =>
        intro id reader found
        have between := holds.readers id reader found
        have notAhead := between.notAhead
        exact { between with notAhead := by simp; omega }
  | refused data _ =>
      simpa [writtenMessages] using holds
  | made ring attached =>
      have shape : ring = config.view := by
        simp only [ShmRing.attach, holds.slots.header.1, ne_eq, not_true,
          if_false, holds.slots.header.2.1, holds.slots.header.2.2,
          Option.some.injEq] at attached
        exact attached.symm
      have silent : writtenMessages [.made session.readers.length] = [] := rfl
      rw [silent, List.append_nil]
      refine { holds with readers := ?_ }
      intro id reader found
      rcases getElem?_concat_eq_some.mp found with earlier | ⟨_, rfl⟩
      · exact holds.readers id reader earlier
      · exact ⟨shape, rfl, holds.slots.writeSeq.le, Nat.zero_le _⟩
  | read id reader found =>
      have close := allowed reader found
      rw [holds.ring, holds.slots.writeSeq] at close
      have outcome := holds.read found close
      have silent :
          writtenMessages
              ((reader.drops session.memory).map
                  (fun pos => .dropped id pos session.memory.writeSeq) ++
                [.returned id (reader.read session.memory).2]) = [] := by
        simp [writtenMessages]
      rw [silent, List.append_nil]
      refine { holds with readers := ?_ }
      intro other otherReader otherFound
      rcases eq_or_ne id other with rfl | different
      · rw [List.getElem?_set_self (List.getElem?_eq_some_iff.mp found).1]
          at otherFound
        cases otherFound
        exact (outcome.kept (holds.readers id reader found)).1
      · rw [List.getElem?_set_ne different] at otherFound
        exact holds.readers other otherReader otherFound

end SessionInvariant

end MiniMiddleware.Transport
