import MiniMiddleware.Transport.ShmRing

/-!
# Completed operations on a ring

`write` and `read` run the stores and loads of `ShmRing` to their end while
nobody else touches the memory.  The data plane above the ring is modelled
with these completed operations; what can happen between their steps is the
subject of the interleaving results.
-/

namespace MiniMiddleware.Transport

/-- Run the stores of a write that has claimed its position. -/
def runWriter (ring : ShmRing) : Nat → RingMemory → WriterPc → RingMemory
  | 0, memory, _ => memory
  | fuel + 1, memory, pc =>
      match writerStep ring memory pc with
      | none => memory
      | some (moved, changed) => runWriter ring fuel changed moved

/-- `write(data, len)` from its entry to its return. -/
def ShmRing.write (ring : ShmRing) (memory : RingMemory) (data : Bytes) :
    RingMemory × Bool :=
  let (pc, claimed, _) := beginWrite ring memory data
  (runWriter ring (data.length + 3) claimed pc, data.length ≤ ring.slotSize)

/-- The message a step of `read` returned with, if it did. -/
def receivedBytes (events : List RingEvent) : Option Bytes :=
  events.findSome? fun
    | .received _ _ out => some out
    | _ => none

/-- Run the loads of a `read` until it returns. -/
def runReader (memory : RingMemory) :
    Nat → ShmRingReader → ShmRingReader × Option Bytes
  | 0, reader => (reader, none)
  | fuel + 1, reader =>
      let (moved, events) := readerStep 0 memory reader
      if moved.pc = .idle then
        (moved, receivedBytes events)
      else
        runReader memory fuel moved

/-- `read(out)` from its entry to its return: each round of its loop takes
at most `slot_size` loads more than five. -/
def ShmRingReader.read (reader : ShmRingReader) (memory : RingMemory) :
    ShmRingReader × Option Bytes :=
  runReader memory
    ((memory.writeSeq - reader.next + 1) * (reader.ring.slotSize + 5))
    reader

/-! ## What a completed write leaves behind -/

/-- The slot after all bytes of `data` have been copied and `pos` has been
published. -/
def writtenSlot (slot : Slot) (pos : Nat) (data : Bytes) : Slot where
  seq := pos
  len := data.length
  data := fun offset => data.getD offset (slot.data offset)

@[simp]
theorem payload_writtenSlot (slot : Slot) (pos : Nat) (data : Bytes) :
    (writtenSlot slot pos data).payload = data := by
  apply List.ext_getElem
  · simp [Slot.payload, writtenSlot]
  · intro index inRange inData
    simp [Slot.payload, writtenSlot, inData]

theorem runWriter_copying
    (ring : ShmRing) (pos : Nat) (data : Bytes)
    (remaining copied : Nat) (memory : RingMemory)
    (split : copied + remaining = data.length) :
    runWriter ring (remaining + 1) memory (.copying pos data copied) =
      { memory with
        slots := Function.update memory.slots (ring.slotIndex pos)
          { memory.slots (ring.slotIndex pos) with
            seq := pos
            data := fun offset =>
              if copied ≤ offset then
                data.getD offset ((memory.slots (ring.slotIndex pos)).data offset)
              else
                (memory.slots (ring.slotIndex pos)).data offset } } := by
  induction remaining generalizing copied memory with
  | zero =>
      have ended : data[copied]? = none := by
        rw [List.getElem?_eq_none_iff]
        omega
      simp only [runWriter, writerStep, ended]
      simp only [RingMemory.storeSeq]
      congr 2
      simp only [Slot.mk.injEq, true_and]
      funext offset
      split
      · rw [List.getD_eq_default _ _ (by omega)]
      · rfl
  | succ remaining inductionHypothesis =>
      have inside : copied < data.length := by omega
      rw [runWriter]
      simp only [writerStep, List.getElem?_eq_getElem inside]
      rw [inductionHypothesis (copied + 1) _ (by omega)]
      simp only [RingMemory.storeByte, Function.update_self,
        Function.update_idem]
      congr 2
      simp only [Slot.mk.injEq, true_and]
      funext offset
      rcases Nat.lt_trichotomy offset copied with before | same | behind
      · rw [if_neg (by omega), if_neg (by omega),
          Function.update_of_ne (by omega)]
      · subst same
        rw [if_neg (by omega), if_pos (by omega), Function.update_self,
          List.getD_eq_getElem _ _ inside]
      · rw [if_pos (by omega), if_pos (by omega),
          Function.update_of_ne (by omega)]

/-- A write that fits publishes its data in the slot of the claimed position
and changes no other slot. -/
theorem ShmRing.write_of_fits
    (ring : ShmRing) (memory : RingMemory) {data : Bytes}
    (fits : data.length ≤ ring.slotSize) :
    ring.write memory data =
      ({ memory with
          writeSeq := (memory.writeSeq + 1) % 2 ^ 64
          slots :=
            Function.update memory.slots (ring.slotIndex memory.writeSeq)
              (writtenSlot (memory.slots (ring.slotIndex memory.writeSeq))
                memory.writeSeq data) },
        true) := by
  have small : ¬ data.length > ring.slotSize := by omega
  simp only [ShmRing.write, beginWrite, if_neg small, RingMemory.fetchAdd,
    fits, decide_true]
  rw [show data.length + 3 = (data.length + 1) + 1 + 1 by omega]
  rw [runWriter]
  simp only [writerStep]
  rw [runWriter]
  simp only [writerStep]
  rw [runWriter_copying ring memory.writeSeq data data.length 0 _ (by omega)]
  simp [RingMemory.storeSeq, RingMemory.storeLen, writtenSlot]

theorem ShmRing.write_of_large
    (ring : ShmRing) (memory : RingMemory) {data : Bytes}
    (large : ring.slotSize < data.length) :
    ring.write memory data = (memory, false) := by
  simp only [ShmRing.write, beginWrite, if_pos (show data.length > _ from large)]
  rw [show data.length + 3 = (data.length + 2) + 1 by omega]
  simp only [runWriter, writerStep, Prod.mk.injEq, true_and, decide_eq_false_iff_not]
  omega

/-! ## What a completed read returns -/

/-- Between two loads of an undisturbed `read`, the slot looked at is
published and the bytes copied so far are those of the slot. -/
structure CopyMatches (memory : RingMemory) (reader : ShmRingReader) : Prop where
  seen :
    reader.pc = .loadLen →
      (memory.slots (reader.ring.slotIndex reader.next)).seq &&& kWritingBit = 0
  copied :
    ∀ len count, reader.pc = .copying len count →
      let slot := memory.slots (reader.ring.slotIndex reader.next)
      slot.seq &&& kWritingBit = 0 ∧ slot.len = len ∧ count ≤ len ∧
        reader.out = (List.range count).map slot.data

/-- A message that `memory` holds in a published slot of the ring. -/
def Readable (ring : ShmRing) (memory : RingMemory) (bytes : Bytes) : Prop :=
  ∃ pos,
    (memory.slots (ring.slotIndex pos)).seq &&& kWritingBit = 0 ∧
      (memory.slots (ring.slotIndex pos)).payload = bytes

theorem readerStep_ring
    (memory : RingMemory) (reader : ShmRingReader) :
    (readerStep 0 memory reader).1.ring = reader.ring := by
  unfold readerStep
  cases reader.pc with
  | idle => rfl
  | loadWriteSeq => dsimp only; split_ifs <;> rfl
  | loadSeq => dsimp only; split_ifs <;> rfl
  | loadLen => dsimp only; split_ifs <;> rfl
  | copying len count => dsimp only; split_ifs <;> rfl

theorem CopyMatches.readerStep
    {memory : RingMemory} {reader : ShmRingReader}
    (matching : CopyMatches memory reader) :
    CopyMatches memory (readerStep 0 memory reader).1 ∧
      ∀ bytes, receivedBytes (readerStep 0 memory reader).2 = some bytes →
        Readable reader.ring memory bytes := by
  obtain ⟨ring, next, dropped, out, pc⟩ := reader
  cases pc with
  | idle =>
      exact ⟨⟨by simp [Transport.readerStep], by simp [Transport.readerStep]⟩,
        by simp [Transport.readerStep, receivedBytes]⟩
  | loadWriteSeq =>
      have silent (positions : List Nat) (w : Nat) :
          receivedBytes (positions.map fun pos => RingEvent.dropped 0 pos w) =
            none := by
        simp [receivedBytes]
      simp only [Transport.readerStep]
      split_ifs
      · exact ⟨⟨by simp, by simp⟩, by simp [receivedBytes]⟩
      · refine ⟨⟨by simp [ShmRingReader.fastForward],
          by simp [ShmRingReader.fastForward]⟩, fun bytes received => ?_⟩
        rw [silent] at received
        cases received
      · exact ⟨⟨by simp, by simp⟩, by simp [receivedBytes]⟩
  | loadSeq =>
      simp only [Transport.readerStep]
      split_ifs with wrong writing
      · exact ⟨⟨by simp [ShmRingReader.dropOne],
          by simp [ShmRingReader.dropOne]⟩, by simp [receivedBytes]⟩
      · exact ⟨⟨by simp, by simp⟩, by simp [receivedBytes]⟩
      · exact ⟨⟨fun _ => not_not.mp writing, by simp⟩, by simp [receivedBytes]⟩
  | loadLen =>
      have published := matching.seen rfl
      simp only [Transport.readerStep]
      split_ifs
      · exact ⟨⟨by simp [ShmRingReader.dropOne],
          by simp [ShmRingReader.dropOne]⟩, by simp [receivedBytes]⟩
      · refine ⟨⟨by simp, ?_⟩, by simp [receivedBytes]⟩
        intro len count equal
        cases equal
        exact ⟨published, rfl, Nat.zero_le _, rfl⟩
  | copying len count =>
      obtain ⟨published, length, bound, bytes⟩ := matching.copied len count rfl
      simp only [Transport.readerStep]
      split_ifs with more torn
      · refine ⟨⟨by simp, ?_⟩, by simp [receivedBytes]⟩
        intro len' count' equal
        cases equal
        refine ⟨published, length, more, ?_⟩
        rw [List.range_succ, List.map_append]
        exact congrArg (· ++ [_]) bytes
      · exact ⟨⟨by simp [ShmRingReader.dropOne],
          by simp [ShmRingReader.dropOne]⟩, by simp [receivedBytes]⟩
      · refine ⟨⟨by simp, by simp⟩, fun message received => ?_⟩
        simp only [receivedBytes, List.findSome?_cons, Option.some.injEq]
          at received
        refine ⟨next, published, ?_⟩
        rw [Slot.payload, length, show len = count by omega]
        exact bytes.symm.trans received

theorem runReader_readable
    (fuel : Nat) {memory : RingMemory} {reader : ShmRingReader}
    (matching : CopyMatches memory reader) {bytes : Bytes}
    (received : (runReader memory fuel reader).2 = some bytes) :
    Readable reader.ring memory bytes := by
  induction fuel generalizing reader with
  | zero =>
      cases received
  | succ fuel inductionHypothesis =>
      obtain ⟨kept, returned⟩ := matching.readerStep
      simp only [runReader] at received
      split at received
      · exact returned bytes received
      · have readable := inductionHypothesis kept received
        rwa [readerStep_ring] at readable

/-! ## A completed read returns -/

/-- An upper bound for the loads that an undisturbed `read` still makes: a
round takes at most four loads and one per byte, and each round moves the
cursor towards `write_seq`. -/
def loadsLeft (writeSeq : Nat) (reader : ShmRingReader) : Nat :=
  let round := reader.ring.slotSize + 4
  match reader.pc with
  | .idle => (writeSeq - reader.next) * round + 2
  | .loadWriteSeq => (writeSeq - reader.next) * round + 1
  | .loadSeq => (writeSeq - reader.next) * round
  | .loadLen => (writeSeq - reader.next) * round - 1
  | .copying len count =>
      (writeSeq - (reader.next + 1)) * round + 2 + (len - count)

/-- A reader that looks at a slot is behind `write_seq`, and copies at most
`slot_size` bytes. -/
structure InRound (writeSeq : Nat) (reader : ShmRingReader) : Prop where
  several : 2 ≤ reader.ring.slotCount
  behind :
    reader.pc ≠ .idle → reader.pc ≠ .loadWriteSeq → reader.next < writeSeq
  length :
    ∀ len count, reader.pc = .copying len count →
      len ≤ reader.ring.slotSize ∧ count ≤ len

theorem InRound.dropOne
    {writeSeq : Nat} {reader : ShmRingReader}
    (inRound : InRound writeSeq reader) (bound : writeSeq < 2 ^ 64)
    (behind : reader.next < writeSeq) :
    InRound writeSeq reader.dropOne ∧
      loadsLeft writeSeq reader.dropOne + (reader.ring.slotSize + 3) =
        (writeSeq - reader.next) * (reader.ring.slotSize + 4) := by
  refine ⟨⟨inRound.several, by simp [ShmRingReader.dropOne],
    by simp [ShmRingReader.dropOne]⟩, ?_⟩
  simp only [loadsLeft, ShmRingReader.dropOne]
  rw [Nat.mod_eq_of_lt (show reader.next + 1 < 2 ^ 64 by omega),
    show writeSeq - reader.next = writeSeq - (reader.next + 1) + 1 by omega,
    Nat.add_mul, Nat.one_mul]
  omega

theorem InRound.readerStep
    {memory : RingMemory} {reader : ShmRingReader}
    (inRound : InRound memory.writeSeq reader)
    (bound : memory.writeSeq < 2 ^ 64) :
    (readerStep 0 memory reader).1.pc = .idle ∨
      InRound memory.writeSeq (readerStep 0 memory reader).1 ∧
        loadsLeft memory.writeSeq (readerStep 0 memory reader).1 <
          loadsLeft memory.writeSeq reader := by
  obtain ⟨ring, next, dropped, out, pc⟩ := reader
  have several := inRound.several
  cases pc with
  | idle =>
      right
      exact ⟨⟨several, by simp [Transport.readerStep],
        by simp [Transport.readerStep]⟩,
        by simp [Transport.readerStep, loadsLeft]⟩
  | loadWriteSeq =>
      simp only [Transport.readerStep]
      split_ifs with drained far
      · exact Or.inl rfl
      · right
        simp only [ShmRingReader.fastForward]
        refine ⟨⟨several, fun _ _ => by dsimp only at *; omega, by simp⟩, ?_⟩
        simp only [loadsLeft]
        have product :=
          Nat.mul_le_mul_right (ring.slotSize + 4)
            (show memory.writeSeq - (memory.writeSeq - ring.slotCount + 1) ≤
              memory.writeSeq - next by omega)
        omega
      · right
        refine ⟨⟨several, fun _ _ => by dsimp only at *; omega, by simp⟩, ?_⟩
        simp [loadsLeft]
  | loadSeq =>
      have behind := inRound.behind (by simp) (by simp)
      obtain ⟨kept, fewer⟩ := inRound.dropOne bound behind
      simp only [Transport.readerStep]
      split_ifs
      · right
        refine ⟨kept, ?_⟩
        simp only [loadsLeft] at fewer ⊢
        omega
      · exact Or.inl rfl
      · right
        refine ⟨⟨several, fun _ _ => behind, by simp⟩, ?_⟩
        simp only [loadsLeft] at fewer ⊢
        omega
  | loadLen =>
      have behind := inRound.behind (by simp) (by simp)
      obtain ⟨kept, fewer⟩ := inRound.dropOne bound behind
      simp only [Transport.readerStep]
      split_ifs with large
      · right
        refine ⟨kept, ?_⟩
        simp only [loadsLeft] at fewer ⊢
        omega
      · right
        refine ⟨⟨several, fun _ _ => behind, ?_⟩, ?_⟩
        · intro len count equal
          cases equal
          exact ⟨not_lt.mp large, Nat.zero_le _⟩
        · dsimp only at behind
          simp only [loadsLeft]
          rw [show memory.writeSeq - next =
              memory.writeSeq - (next + 1) + 1 by omega,
            Nat.add_mul, Nat.one_mul]
          omega
  | copying len count =>
      have behind := inRound.behind (by simp) (by simp)
      have length := inRound.length len count rfl
      obtain ⟨kept, fewer⟩ := inRound.dropOne bound behind
      simp only [Transport.readerStep]
      split_ifs with more torn
      · right
        refine ⟨⟨several, fun _ _ => behind, ?_⟩, ?_⟩
        · intro len' count' equal
          cases equal
          exact ⟨length.1, more⟩
        · simp only [loadsLeft]
          omega
      · right
        refine ⟨kept, ?_⟩
        dsimp only at behind
        rw [show memory.writeSeq - next =
            memory.writeSeq - (next + 1) + 1 by omega,
          Nat.add_mul, Nat.one_mul] at fewer
        simp only [loadsLeft] at fewer ⊢
        omega
      · exact Or.inl rfl

theorem runReader_idle
    {memory : RingMemory} (bound : memory.writeSeq < 2 ^ 64)
    (fuel : Nat) {reader : ShmRingReader}
    (inRound : InRound memory.writeSeq reader)
    (enough : loadsLeft memory.writeSeq reader < fuel) :
    (runReader memory fuel reader).1.pc = .idle := by
  induction fuel generalizing reader with
  | zero =>
      cases enough
  | succ fuel inductionHypothesis =>
      simp only [runReader]
      split
      · assumption
      · rename_i running
        obtain ⟨kept, fewer⟩ :=
          (inRound.readerStep bound).resolve_left running
        exact inductionHypothesis kept (by omega)

theorem ShmRingReader.loadsLeft_lt
    {reader : ShmRingReader} (memory : RingMemory)
    (atRest : reader.pc = .idle) :
    loadsLeft memory.writeSeq reader <
      (memory.writeSeq - reader.next + 1) * (reader.ring.slotSize + 5) := by
  simp only [loadsLeft, atRest]
  rw [Nat.add_mul, Nat.one_mul]
  have product :=
    Nat.mul_le_mul_left (memory.writeSeq - reader.next)
      (show reader.ring.slotSize + 4 ≤ reader.ring.slotSize + 5 by omega)
  omega

/-- A reader at rest is in no round. -/
theorem InRound.atRest
    {reader : ShmRingReader} (writeSeq : Nat)
    (several : 2 ≤ reader.ring.slotCount) (atRest : reader.pc = .idle) :
    InRound writeSeq reader :=
  ⟨several, fun moving => absurd atRest moving, by simp [atRest]⟩

theorem ShmRingReader.read_idle
    {reader : ShmRingReader} {memory : RingMemory}
    (several : 2 ≤ reader.ring.slotCount)
    (bound : memory.writeSeq < 2 ^ 64)
    (atRest : reader.pc = .idle) :
    (reader.read memory).1.pc = .idle :=
  runReader_idle bound _ (.atRest _ several atRest)
    (reader.loadsLeft_lt memory atRest)

theorem runReader_ring
    (fuel : Nat) (memory : RingMemory) (reader : ShmRingReader) :
    (runReader memory fuel reader).1.ring = reader.ring := by
  induction fuel generalizing reader with
  | zero =>
      rfl
  | succ fuel inductionHypothesis =>
      simp only [runReader]
      split
      · exact readerStep_ring memory reader
      · rw [inductionHypothesis, readerStep_ring]

@[simp]
theorem ShmRingReader.read_ring (reader : ShmRingReader) (memory : RingMemory) :
    (reader.read memory).1.ring = reader.ring :=
  runReader_ring _ memory reader

/-- A completed read that starts at rest returns a message of a published
slot. -/
theorem ShmRingReader.read_readable
    {reader : ShmRingReader} {memory : RingMemory} {bytes : Bytes}
    (atRest : reader.pc = .idle)
    (received : (reader.read memory).2 = some bytes) :
    Readable reader.ring memory bytes :=
  runReader_readable _ ⟨by simp [atRest], by simp [atRest]⟩ received

/-! ## Writing a string -/

/-- `write(const std::string&)`: the size is converted to 32 bits before
`write(data, len)` compares it with the capacity. -/
def ShmRing.writeString (ring : ShmRing) (memory : RingMemory)
    (bytes : Bytes) : RingMemory × Bool :=
  ring.write memory (bytes.take (bytes.length % 2 ^ 32))

/-- `ShmSink::enqueue`: the warning about a message that was not written names
its size and the capacity of a slot. -/
def ShmRing.enqueue (ring : ShmRing) (memory : RingMemory) (bytes : Bytes) :
    RingMemory × Option (Nat × Nat) :=
  let (written, accepted) := ring.writeString memory bytes
  (written, if accepted then none else some (bytes.length, ring.slotSize))

theorem ShmRing.writeString_of_small
    (ring : ShmRing) (memory : RingMemory) {bytes : Bytes}
    (small : bytes.length < 2 ^ 32) :
    ring.writeString memory bytes = ring.write memory bytes := by
  rw [writeString, Nat.mod_eq_of_lt small, List.take_length]

theorem length_take_mod (bytes : Bytes) :
    (bytes.take (bytes.length % 2 ^ 32)).length = bytes.length % 2 ^ 32 := by
  rw [List.length_take]
  exact Nat.min_eq_left (Nat.mod_le _ _)

theorem ShmRing.writeString_accepts_iff
    (ring : ShmRing) (memory : RingMemory) (bytes : Bytes) :
    (ring.writeString memory bytes).2 = true ↔
      bytes.length % 2 ^ 32 ≤ ring.slotSize := by
  rw [writeString, write]
  simp only [length_take_mod, decide_eq_true_eq]

/-- `write(bytes)` and `enqueue(bytes)` accept exactly what fits in a slot,
store all of it and nothing else, and otherwise leave the ring alone. -/
structure AcceptsWhatFits (ring : ShmRing) (memory : RingMemory)
    (bytes : Bytes) : Prop where
  accepted :
    (ring.writeString memory bytes).2 = true ↔ bytes.length ≤ ring.slotSize
  stored :
    (ring.writeString memory bytes).2 = true →
      let after := (ring.writeString memory bytes).1
      let index := ring.slotIndex memory.writeSeq
      after.writeSeq = (memory.writeSeq + 1) % 2 ^ 64 ∧
        (after.slots index).len = bytes.length ∧
        (after.slots index).payload = bytes ∧
        ∀ other, other ≠ index → after.slots other = memory.slots other
  refused :
    (ring.writeString memory bytes).2 = false →
      (ring.writeString memory bytes).1 = memory
  enqueued :
    ring.enqueue memory bytes =
      ((ring.writeString memory bytes).1,
        if bytes.length ≤ ring.slotSize then none
        else some (bytes.length, ring.slotSize))

/-- A string is accepted exactly if it fits, unless its size loses high bits
in the conversion and the rest of it fits. -/
theorem shmRing_writeString_exact_iff
    (ring : ShmRing) (capacity : ring.slotSize < 2 ^ 32)
    (memory : RingMemory) (bytes : Bytes) :
    AcceptsWhatFits ring memory bytes ↔
      bytes.length < 2 ^ 32 ∨ ring.slotSize < bytes.length % 2 ^ 32 := by
  constructor
  · intro exact
    by_contra neither
    have wrapped : bytes.length % 2 ^ 32 ≤ ring.slotSize := by omega
    have accepted := (ring.writeString_accepts_iff memory bytes).mpr wrapped
    have fits := exact.accepted.mp accepted
    omega
  · intro condition
    have sizes :
        bytes.length % 2 ^ 32 ≤ ring.slotSize ↔
          bytes.length ≤ ring.slotSize := by
      have bound := Nat.mod_le bytes.length (2 ^ 32)
      rcases condition with small | large
      · rw [Nat.mod_eq_of_lt small]
      · constructor <;> intro <;> omega
    have accepts := (ring.writeString_accepts_iff memory bytes).trans sizes
    constructor
    case accepted =>
      exact accepts
    case stored =>
      intro accepted
      have fits := accepts.mp accepted
      have written := ring.write_of_fits memory fits
      rw [ring.writeString_of_small memory (by omega), written]
      simp only [Function.update_self, payload_writtenSlot, true_and]
      exact ⟨rfl, fun other different => Function.update_of_ne different _ _⟩
    case refused =>
      intro refused
      have large : ring.slotSize < bytes.length % 2 ^ 32 := by
        rw [← not_iff_not, Bool.not_eq_true] at accepts
        have := accepts.mp refused
        omega
      rw [ShmRing.writeString, ring.write_of_large memory]
      rw [length_take_mod]
      exact large
    case enqueued =>
      simp only [ShmRing.enqueue, accepts]

theorem shmRing_writeString_exact_iff_short :
    AcceptsWhatFits ⟨2, 4⟩ zeroedMemory [7, 9] :=
  (shmRing_writeString_exact_iff ⟨2, 4⟩ (by decide) zeroedMemory [7, 9]).mpr
    (Or.inl (by decide))

/-- A string of `2 ^ 32` bytes is accepted by slots of four bytes. -/
theorem shmRing_accepts_four_gigabytes :
    (ShmRing.writeString ⟨2, 4⟩ zeroedMemory
          (List.replicate (2 ^ 32) 0)).2 = true ∧
      ¬ AcceptsWhatFits ⟨2, 4⟩ zeroedMemory (List.replicate (2 ^ 32) 0) := by
  have accepted :
      (ShmRing.writeString ⟨2, 4⟩ zeroedMemory
        (List.replicate (2 ^ 32) 0)).2 = true := by
    rw [ShmRing.writeString_accepts_iff, List.length_replicate, Nat.mod_self]
    exact Nat.zero_le 4
  refine ⟨accepted, fun exact => ?_⟩
  have fits := exact.accepted.mp accepted
  rw [List.length_replicate] at fits
  exact absurd fits (by decide)

end MiniMiddleware.Transport
