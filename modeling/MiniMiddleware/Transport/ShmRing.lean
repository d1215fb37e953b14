import MiniMiddleware.Library.Machine
import Mathlib.Data.Nat.Bitwise
import Mathlib.Logic.Function.Basic

/-!
# The shared-memory ring

`ShmRing` is a view on a block of shared memory that holds a header and
`slot_count` slots.  One writer claims positions with `fetch_add` on
`write_seq` and overwrites the oldest slot; every reader owns a cursor and
detects overwritten or half-written slots by their sequence numbers.

The memory is shared, so the code is embedded as its individual loads and
stores.  `writerStep` and `readerStep` perform one of them in program order;
`shmRingMachine` interleaves one writer with any number of readers.  The
words of the header and of a slot are 64-bit or 32-bit in the source; sums
are taken modulo `2 ^ 64` where the source adds 64-bit words.
-/

namespace MiniMiddleware.Transport

open MiniMiddleware.Library

/-- The bytes of one message. -/
abbrev Bytes := List UInt8

/-- `kMagic`, published last by `init`. -/
def kMagic : Nat := 0x4D4D5247

/-- `kWritingBit`: the highest bit of a slot's `seq`. -/
def kWritingBit : Nat := 1 <<< 63

/-- `~kWritingBit` on 64-bit words. -/
def kPositionMask : Nat := 2 ^ 64 - 1 - kWritingBit

/-! ## Layout -/

/-- `kCacheLine`. -/
def kCacheLine : Nat := 64

/-- `sizeof(Header)`: three words and a pad of 32 bits, one word of 64. -/
def ringHeaderSize : Nat := 24

/-- `sizeof(SlotHeader)`: one word of 64 bits, one and a pad of 32. -/
def slotHeaderSize : Nat := 16

/-- `align_up` on 64-bit sizes, with `a` a power of two. -/
def alignUp (n a : Nat) : Nat :=
  (n + a - 1) % 2 ^ 64 &&& (2 ^ 64 - 1 - (a - 1))

/-- `header_bytes()`. -/
def headerBytes : Nat :=
  alignUp ringHeaderSize kCacheLine

/-- `slot_stride(slot_size)`. -/
def slotStride (slotSize : Nat) : Nat :=
  alignUp (slotHeaderSize + slotSize) kCacheLine

/-- `bytes_needed(slot_count, slot_size)`. -/
def bytesNeeded (slotCount slotSize : Nat) : Nat :=
  (headerBytes + slotCount * slotStride slotSize) % 2 ^ 64

/-! ## Memory and views -/

/-- A slot: its `SlotHeader` and the payload bytes behind it. -/
structure Slot where
  seq : Nat
  len : Nat
  data : Nat → UInt8

/-- The bytes of the first `len` cells of a slot. -/
def Slot.payload (slot : Slot) : Bytes :=
  (List.range slot.len).map slot.data

/-- The shared block: the fields of `Header`, and the slots behind it. -/
structure RingMemory where
  magic : Nat
  slotCount : Nat
  slotSize : Nat
  writeSeq : Nat
  slots : Nat → Slot

/-- Zeroed memory, as a fresh segment has it. -/
def zeroedMemory : RingMemory :=
  ⟨0, 0, 0, 0, fun _ => ⟨0, 0, fun _ => 0⟩⟩

namespace RingMemory

/-- Store to the `seq` word of one slot. -/
def storeSeq (memory : RingMemory) (index seq : Nat) : RingMemory :=
  { memory with
    slots := Function.update memory.slots index
      { memory.slots index with seq := seq } }

/-- Store to the `len` word of one slot. -/
def storeLen (memory : RingMemory) (index len : Nat) : RingMemory :=
  { memory with
    slots := Function.update memory.slots index
      { memory.slots index with len := len } }

/-- Store one payload byte of one slot. -/
def storeByte (memory : RingMemory) (index offset : Nat) (byte : UInt8) :
    RingMemory :=
  { memory with
    slots := Function.update memory.slots index
      { memory.slots index with
        data := Function.update (memory.slots index).data offset byte } }

/-- `write_seq.fetch_add(1)`: the old value and the memory after it. -/
def fetchAdd (memory : RingMemory) : Nat × RingMemory :=
  (memory.writeSeq,
    { memory with writeSeq := (memory.writeSeq + 1) % 2 ^ 64 })

end RingMemory

/-- A view on ring memory; the counts are cached from the header. -/
structure ShmRing where
  slotCount : Nat
  slotSize : Nat
  deriving DecidableEq, Repr

namespace ShmRing

/-- `static_cast<uint32_t>(pos) & (slot_count_ - 1)`. -/
def slotIndex (ring : ShmRing) (pos : Nat) : Nat :=
  pos % 2 ^ 32 &&& (ring.slotCount - 1)

/-- `ShmRing::init` on memory with arbitrary earlier content.  An empty slot
carries the writing bit, which no cursor accepts as data. -/
def init (memory : RingMemory) (slotCount slotSize : Nat) :
    ShmRing × RingMemory :=
  (⟨slotCount, slotSize⟩,
    { magic := kMagic
      slotCount := slotCount
      slotSize := slotSize
      writeSeq := 0
      slots := fun index =>
        if index < slotCount then
          ⟨kWritingBit, 0, (memory.slots index).data⟩
        else
          memory.slots index })

/-- `ShmRing::attach`: `none` stands for the invalid view. -/
def attach (memory : RingMemory) : Option ShmRing :=
  if memory.magic ≠ kMagic then
    none
  else
    some ⟨memory.slotCount, memory.slotSize⟩

end ShmRing

/-! ## The writer -/

/-- Where the writer stands inside `ShmRing::write`. -/
inductive WriterPc where
  | idle
  | claimed (pos : Nat) (data : Bytes)
  | marked (pos : Nat) (data : Bytes)
  | copying (pos : Nat) (data : Bytes) (copied : Nat)
  deriving DecidableEq, Repr

/-- The visible outcomes of the operations on one ring.  `dropped` carries the
value of `write_seq` at the moment of the drop. -/
inductive RingEvent where
  | written (data : Bytes)
  | refused (data : Bytes)
  | attached (reader start : Nat)
  | dropped (reader pos writeSeq : Nat)
  | received (reader pos : Nat) (out : Bytes)
  | noData (reader writeSeq : Nat)
  | busy (reader : Nat)
  deriving DecidableEq, Repr

/-- Enter `write(data, len)`: refuse an oversized message, otherwise claim
the next position with `fetch_add`. -/
def beginWrite (ring : ShmRing) (memory : RingMemory) (data : Bytes) :
    WriterPc × RingMemory × List RingEvent :=
  if data.length > ring.slotSize then
    (.idle, memory, [.refused data])
  else
    let (pos, claimed) := memory.fetchAdd
    (.claimed pos data, claimed, [.written data])

/-- The next store of a `write` in progress: `seq` with the writing bit,
`len`, each byte of `memcpy`, and the publishing `seq`. -/
def writerStep (ring : ShmRing) (memory : RingMemory) :
    WriterPc → Option (WriterPc × RingMemory)
  | .idle => none
  | .claimed pos data =>
      some (.marked pos data,
        memory.storeSeq (ring.slotIndex pos) (pos ||| kWritingBit))
  | .marked pos data =>
      some (.copying pos data 0,
        memory.storeLen (ring.slotIndex pos) data.length)
  | .copying pos data copied =>
      match data[copied]? with
      | some byte =>
          some (.copying pos data (copied + 1),
            memory.storeByte (ring.slotIndex pos) copied byte)
      | none =>
          some (.idle, memory.storeSeq (ring.slotIndex pos) pos)

/-! ## The readers -/

/-- Where a reader stands inside `ShmRingReader::read`. -/
inductive ReaderPc where
  | idle
  | loadWriteSeq
  | loadSeq
  | loadLen
  | copying (len copied : Nat)
  deriving DecidableEq, Repr

/-- A reader's private cursor, the caller's `out`, and its place in `read`. -/
structure ShmRingReader where
  ring : ShmRing
  next : Nat
  dropped : Nat
  out : Bytes
  pc : ReaderPc
  deriving DecidableEq, Repr

namespace ShmRingReader

/-- The constructor: a new reader starts at the current `write_seq`. -/
def create (ring : ShmRing) (memory : RingMemory) : ShmRingReader :=
  ⟨ring, memory.writeSeq, 0, [], .idle⟩

/-- `dropped_++; next_++; continue`. -/
def dropOne (reader : ShmRingReader) : ShmRingReader :=
  { reader with
    dropped := (reader.dropped + 1) % 2 ^ 64
    next := (reader.next + 1) % 2 ^ 64
    pc := .loadWriteSeq }

/-- Fast-forward to `target`, counting everything in between as dropped. -/
def fastForward (reader : ShmRingReader) (target : Nat) : ShmRingReader :=
  { reader with
    dropped := (reader.dropped + (target - reader.next)) % 2 ^ 64
    next := target
    pc := .loadSeq }

end ShmRingReader

/-- One load of `read`, with the branch the source takes on the loaded value.
The byte copy that finds nothing left to copy is the reload of `seq`. -/
def readerStep (id : Nat) (memory : RingMemory) (reader : ShmRingReader) :
    ShmRingReader × List RingEvent :=
  let slot := memory.slots (reader.ring.slotIndex reader.next)
  match reader.pc with
  | .idle => ({ reader with pc := .loadWriteSeq }, [])
  | .loadWriteSeq =>
      let w := memory.writeSeq
      if reader.next ≥ w then
        ({ reader with pc := .idle }, [.noData id w])
      else if w - reader.next > reader.ring.slotCount then
        let target := w - reader.ring.slotCount + 1
        (reader.fastForward target,
          (List.range' reader.next (target - reader.next)).map
            fun pos => .dropped id pos w)
      else
        ({ reader with pc := .loadSeq }, [])
  | .loadSeq =>
      if slot.seq &&& kPositionMask ≠ reader.next then
        (reader.dropOne, [.dropped id reader.next memory.writeSeq])
      else if slot.seq &&& kWritingBit ≠ 0 then
        ({ reader with pc := .idle }, [.busy id])
      else
        ({ reader with pc := .loadLen }, [])
  | .loadLen =>
      if slot.len > reader.ring.slotSize then
        (reader.dropOne, [.dropped id reader.next memory.writeSeq])
      else
        ({ reader with out := [], pc := .copying slot.len 0 }, [])
  | .copying len copied =>
      if copied < len then
        ({ reader with
            out := reader.out ++ [slot.data copied]
            pc := .copying len (copied + 1) }, [])
      else if slot.seq ≠ reader.next then
        (reader.dropOne, [.dropped id reader.next memory.writeSeq])
      else
        ({ reader with
            next := (reader.next + 1) % 2 ^ 64
            pc := .idle },
          [.received id reader.next reader.out])

/-! ## One writer and any number of readers -/

/-- The ring in shared memory, the single writer and the readers. -/
structure RingSystem where
  ring : ShmRing
  memory : RingMemory
  writer : WriterPc
  readers : List ShmRingReader

/-- Who takes the next step. -/
inductive RingInput where
  | beginWrite (data : Bytes)
  | writer
  | attach
  | reader (id : Nat)
  deriving DecidableEq, Repr

/-- One load or store of one party. -/
def RingSystem.step (system : RingSystem) :
    RingInput → Option (RingSystem × List RingEvent)
  | .beginWrite data =>
      match system.writer with
      | .idle =>
          let (writer, memory, events) :=
            Transport.beginWrite system.ring system.memory data
          some ({ system with writer := writer, memory := memory }, events)
      | _ => none
  | .writer =>
      match writerStep system.ring system.memory system.writer with
      | none => none
      | some (writer, memory) =>
          some ({ system with writer := writer, memory := memory }, [])
  | .attach =>
      match ShmRing.attach system.memory with
      | none => none
      | some ring =>
          let reader := ShmRingReader.create ring system.memory
          some ({ system with readers := system.readers ++ [reader] },
            [.attached system.readers.length reader.next])
  | .reader id =>
      match system.readers[id]? with
      | none => none
      | some reader =>
          let (moved, events) := readerStep id system.memory reader
          some ({ system with readers := system.readers.set id moved }, events)

/-- The steps of the system, one constructor for each kind. -/
inductive RingSystem.Steps (system : RingSystem) :
    RingInput → RingSystem → List RingEvent → Prop
  | refuse (data : Bytes) :
      system.writer = .idle →
      system.ring.slotSize < data.length →
      RingSystem.Steps system (.beginWrite data) system [.refused data]
  | claim (data : Bytes) :
      system.writer = .idle →
      data.length ≤ system.ring.slotSize →
      RingSystem.Steps system (.beginWrite data)
        { system with
          writer := .claimed system.memory.writeSeq data
          memory := system.memory.fetchAdd.2 }
        [.written data]
  | store (writer : WriterPc) (memory : RingMemory) :
      writerStep system.ring system.memory system.writer =
        some (writer, memory) →
      RingSystem.Steps system .writer
        { system with writer := writer, memory := memory } []
  | attach (ring : ShmRing) :
      ShmRing.attach system.memory = some ring →
      RingSystem.Steps system .attach
        { system with
          readers :=
            system.readers ++ [ShmRingReader.create ring system.memory] }
        [.attached system.readers.length system.memory.writeSeq]
  | load (id : Nat) (reader : ShmRingReader) :
      system.readers[id]? = some reader →
      RingSystem.Steps system (.reader id)
        { system with
          readers :=
            system.readers.set id (readerStep id system.memory reader).1 }
        (readerStep id system.memory reader).2

theorem RingSystem.steps_of_step
    {system target : RingSystem} {input : RingInput}
    {emitted : List RingEvent}
    (stepped : system.step input = some (target, emitted)) :
    system.Steps input target emitted := by
  cases input with
  | beginWrite data =>
      simp only [step] at stepped
      split at stepped
      · rename_i idle
        by_cases large : data.length > system.ring.slotSize
        · simp only [Transport.beginWrite, if_pos large, Option.some.injEq,
            Prod.mk.injEq] at stepped
          obtain ⟨rfl, rfl⟩ := stepped
          have unchanged :
              { system with writer := WriterPc.idle } = system := by
            rw [← idle]
          rw [unchanged]
          exact Steps.refuse data idle large
        · simp only [Transport.beginWrite, if_neg large, RingMemory.fetchAdd,
            Option.some.injEq, Prod.mk.injEq] at stepped
          obtain ⟨rfl, rfl⟩ := stepped
          exact Steps.claim data idle (by omega)
      · cases stepped
  | writer =>
      simp only [step] at stepped
      split at stepped
      · cases stepped
      · rename_i writer memory stored
        cases stepped
        exact Steps.store writer memory stored
  | attach =>
      simp only [step] at stepped
      split at stepped
      · cases stepped
      · rename_i ring attached
        cases stepped
        exact Steps.attach ring attached
  | reader id =>
      simp only [step] at stepped
      split at stepped
      · cases stepped
      · rename_i reader found
        cases stepped
        exact Steps.load id reader found

/-- The arguments of `init`: `slot_count` is a power of two, both counts are
32-bit words. -/
structure RingConfig where
  slotCount : Nat
  slotSize : Nat
  powerOfTwo : ∃ exponent, exponent < 32 ∧ slotCount = 2 ^ exponent
  slotSizeBound : slotSize < 2 ^ 32

/-- The system right after `init` on memory with any earlier content. -/
def RingSystem.start (config : RingConfig) (before : RingMemory) : RingSystem :=
  let (ring, memory) := ShmRing.init before config.slotCount config.slotSize
  ⟨ring, memory, .idle, []⟩

/-- All sequentially consistent interleavings on a freshly initialised ring. -/
def shmRingMachine (config : RingConfig) :
    Machine RingSystem RingInput RingEvent where
  initial system := ∃ before, system = RingSystem.start config before
  step := RingSystem.step

/-- The payloads of the successful writes, in order. -/
def writtenPayloads (events : List RingEvent) : List Bytes :=
  events.filterMap fun
    | .written data => some data
    | _ => none

/-- The positions a reader delivered, in order. -/
def receivedPositions (id : Nat) (events : List RingEvent) : List Nat :=
  events.filterMap fun
    | .received reader pos _ => if reader = id then some pos else none
    | _ => none

end MiniMiddleware.Transport
