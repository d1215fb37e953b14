import MiniMiddleware.Transport.ShmRingAttach
import MiniMiddleware.Transport.ShmRingInvariant
import MiniMiddleware.Transport.ShmRingLayout

/-!
# Offsets that a read dereferences

A shared-memory object is a sequence of bytes, and `ShmSegment::open` maps all
of it.  The counts of the ring come from these bytes, while the length of the
mapping comes from `fstat`; a reader computes the place of a slot from the
former and never compares it with the latter.  Sizes are 64-bit words, counts
32-bit words, and all arithmetic on them wraps.
-/

namespace MiniMiddleware.Transport

open MiniMiddleware.Library

/-! ## Bytes and words -/

/-- A mapped object: `st_size` and its bytes; those beyond `size` are not
mapped. -/
structure SharedObject where
  size : Nat
  bytes : Nat → UInt8

/-- A little-endian word of `width` bytes. -/
def loadWord (bytes : Nat → UInt8) (offset : Nat) : Nat → Nat
  | 0 => 0
  | width + 1 => (bytes offset).toNat + 256 * loadWord bytes (offset + 1) width

namespace SharedObject

variable (object : SharedObject)

/-- The words of the header at the start of the object. -/
def magic : Nat := loadWord object.bytes 0 4
def slotCount : Nat := loadWord object.bytes 4 4
def slotSize : Nat := loadWord object.bytes 8 4
def writeSeq : Nat := loadWord object.bytes 16 8

/-- `ShmSegment::open` on a name that is bound to the object: the size is
compared with that of a header only. -/
def openView : Option AttachedView :=
  if object.size < ringHeaderSize then
    none
  else if object.magic ≠ kMagic then
    none
  else
    some ⟨object.slotCount, object.slotSize, slotStride object.slotSize⟩

end SharedObject

namespace AttachedView

variable (view : AttachedView)

/-- `slot_count_ - 1` on 32-bit words. -/
def mask : Nat :=
  (view.slotCount + 2 ^ 32 - 1) % 2 ^ 32

/-- The offset of `slot(static_cast<uint32_t>(pos) & (n - 1))`. -/
def slotOffset (pos : Nat) : Nat :=
  (headerBytes + (pos % 2 ^ 32 &&& view.mask) * view.stride) % 2 ^ 64

end AttachedView

/-! ## The reader -/

/-- A range of bytes that is dereferenced. -/
structure Access where
  offset : Nat
  length : Nat
  deriving DecidableEq, Repr

/-- A reader made from a mapped segment. -/
structure MappedReader where
  view : AttachedView
  next : Nat
  dropped : Nat
  out : Bytes
  pc : ReaderPc
  deriving DecidableEq, Repr

namespace MappedReader

/-- `dropped_++; next_++; continue`. -/
def dropOne (reader : MappedReader) : MappedReader :=
  { reader with
    dropped := (reader.dropped + 1) % 2 ^ 64
    next := (reader.next + 1) % 2 ^ 64
    pc := .loadWriteSeq }

/-- One load of `read`, with the bytes it dereferences. -/
def step (object : SharedObject) (reader : MappedReader) :
    MappedReader × List Access :=
  let slot := reader.view.slotOffset reader.next
  match reader.pc with
  | .idle => ({ reader with pc := .loadWriteSeq }, [])
  | .loadWriteSeq =>
      let w := object.writeSeq
      if reader.next ≥ w then
        ({ reader with pc := .idle }, [⟨16, 8⟩])
      else if w - reader.next > reader.view.slotCount then
        let target := (w - reader.view.slotCount + 1) % 2 ^ 64
        ({ reader with
            dropped :=
              (reader.dropped + (target + 2 ^ 64 - reader.next)) % 2 ^ 64
            next := target
            pc := .loadSeq },
          [⟨16, 8⟩])
      else
        ({ reader with pc := .loadSeq }, [⟨16, 8⟩])
  | .loadSeq =>
      let s1 := loadWord object.bytes slot 8
      if s1 &&& kPositionMask ≠ reader.next then
        (reader.dropOne, [⟨slot, 8⟩])
      else if s1 &&& kWritingBit ≠ 0 then
        ({ reader with pc := .idle }, [⟨slot, 8⟩])
      else
        ({ reader with pc := .loadLen }, [⟨slot, 8⟩])
  | .loadLen =>
      let len := loadWord object.bytes (slot + 8) 4
      if len > reader.view.slotSize then
        (reader.dropOne, [⟨slot + 8, 4⟩])
      else
        ({ reader with out := [], pc := .copying len 0 }, [⟨slot + 8, 4⟩])
  | .copying len copied =>
      if copied < len then
        ({ reader with
            out :=
              reader.out ++ [object.bytes (slot + slotHeaderSize + copied)]
            pc := .copying len (copied + 1) },
          [⟨slot + slotHeaderSize + copied, 1⟩])
      else if loadWord object.bytes slot 8 ≠ reader.next then
        (reader.dropOne, [⟨slot, 8⟩])
      else
        ({ reader with
            next := (reader.next + 1) % 2 ^ 64
            pc := .idle },
          [⟨slot, 8⟩])

end MappedReader

/-- The loads of the reads of one reader, from any cursor. -/
def mappedReaderMachine (object : SharedObject) :
    Machine MappedReader Unit Access where
  initial reader :=
    object.openView = some reader.view ∧ reader.next < 2 ^ 64 ∧
      reader.dropped < 2 ^ 64 ∧ reader.pc = .idle
  step reader _ := some (reader.step object)

/-! ## Bytes and the ring they spell -/

theorem loadWord_lt (bytes : Nat → UInt8) (offset width : Nat) :
    loadWord bytes offset width < 256 ^ width := by
  induction width generalizing offset with
  | zero =>
      exact Nat.one_pos
  | succ width inductionHypothesis =>
      have rest := inductionHypothesis (offset + 1)
      have byte := (bytes offset).toNat_lt
      rw [loadWord, pow_succ]
      omega

/-- The ring memory that the bytes of an object spell, for a given view. -/
def SharedObject.ringMemory (object : SharedObject) (view : AttachedView) :
    RingMemory where
  magic := object.magic
  slotCount := object.slotCount
  slotSize := object.slotSize
  writeSeq := object.writeSeq
  slots index :=
    let slot := (headerBytes + index * view.stride) % 2 ^ 64
    { seq := loadWord object.bytes slot 8
      len := loadWord object.bytes (slot + 8) 4
      data := fun offset => object.bytes (slot + slotHeaderSize + offset) }

/-- A reader of bytes as a reader of ring memory. -/
def MappedReader.toReader (reader : MappedReader) : ShmRingReader :=
  ⟨⟨reader.view.slotCount, reader.view.slotSize⟩, reader.next, reader.dropped,
    reader.out, reader.pc⟩

/-- With one slot at least, a load of bytes is a load of ring memory. -/
theorem MappedReader.step_toReader
    (object : SharedObject) (reader : MappedReader)
    (slots : 1 ≤ reader.view.slotCount)
    (countWord : reader.view.slotCount < 2 ^ 32) :
    (reader.step object).1.toReader =
      (readerStep 0 (object.ringMemory reader.view) reader.toReader).1 := by
  obtain ⟨view, next, dropped, out, pc⟩ := reader
  dsimp only at slots countWord
  have mask : view.mask = view.slotCount - 1 := by
    rw [AttachedView.mask,
      show view.slotCount + 2 ^ 32 - 1 = view.slotCount - 1 + 2 ^ 32 by omega,
      Nat.add_mod_right, Nat.mod_eq_of_lt (by omega)]
  have written : object.writeSeq < 2 ^ 64 := loadWord_lt _ _ 8
  have sameWord : (object.ringMemory view).writeSeq = object.writeSeq := rfl
  have sameSlot :
      (object.ringMemory view).slots
          (ShmRing.slotIndex ⟨view.slotCount, view.slotSize⟩ next) =
        ⟨loadWord object.bytes (view.slotOffset next) 8,
          loadWord object.bytes (view.slotOffset next + 8) 4,
          fun offset =>
            object.bytes (view.slotOffset next + slotHeaderSize + offset)⟩ := by
    simp only [SharedObject.ringMemory, AttachedView.slotOffset,
      ShmRing.slotIndex, mask]
  cases pc with
  | idle =>
      rfl
  | loadWriteSeq =>
      simp only [step, readerStep, toReader, sameWord]
      generalize object.writeSeq = w at written
      split_ifs with drained far
      · rfl
      · have target : w - view.slotCount + 1 < 2 ^ 64 := by omega
        have skipped :
            (dropped + (w - view.slotCount + 1 + 2 ^ 64 - next)) % 2 ^ 64 =
              (dropped + (w - view.slotCount + 1 - next)) % 2 ^ 64 := by
          omega
        simp only [ShmRingReader.fastForward, Nat.mod_eq_of_lt target, skipped]
      · rfl
  | loadSeq =>
      simp only [step, readerStep, toReader, sameSlot]
      generalize loadWord object.bytes (view.slotOffset next) 8 = s1
      split_ifs <;> rfl
  | loadLen =>
      simp only [step, readerStep, toReader, sameSlot]
      generalize loadWord object.bytes (view.slotOffset next + 8) 4 = len
      split_ifs <;> rfl
  | copying len copied =>
      simp only [step, readerStep, toReader, sameSlot]
      generalize loadWord object.bytes (view.slotOffset next) 8 = s2
      split_ifs <;> rfl

/-- The end of the last bytes that the masked index can select.  The pad behind
`len` is not loaded. -/
def AttachedView.reach (view : AttachedView) : Nat :=
  headerBytes + view.mask * view.stride +
    if view.slotSize = 0 then 12 else slotHeaderSize + view.slotSize

/-! ## Rings that fit their object -/

/-- A place of `read` at which the length has passed its check. -/
def LenChecked (view : AttachedView) : ReaderPc → Prop
  | .copying len _ => len ≤ view.slotSize
  | _ => True

theorem slotOffset_le
    {view : AttachedView} (noWrap : view.reach < 2 ^ 64) (pos : Nat) :
    view.slotOffset pos +
        (if view.slotSize = 0 then 12 else slotHeaderSize + view.slotSize) ≤
      view.reach := by
  have index : (pos % 2 ^ 32 &&& view.mask) ≤ view.mask := Nat.and_le_right
  have product := Nat.mul_le_mul_right view.stride index
  simp only [AttachedView.reach] at noWrap ⊢
  rw [AttachedView.slotOffset, Nat.mod_eq_of_lt (by omega)]
  omega

/-- A load of a reader whose ring fits its object stays inside. -/
theorem MappedReader.step_inside
    {object : SharedObject} {reader : MappedReader}
    (fits : reader.view.reach ≤ object.size)
    (sizeWord : object.size < 2 ^ 63) (header : ringHeaderSize ≤ object.size)
    (checked : LenChecked reader.view reader.pc) :
    (∀ access ∈ (reader.step object).2,
      access.offset + access.length ≤ object.size) ∧
      (reader.step object).1.view = reader.view ∧
        LenChecked reader.view (reader.step object).1.pc := by
  obtain ⟨view, next, dropped, out, pc⟩ := reader
  dsimp only at fits checked ⊢
  have inside := slotOffset_le (show view.reach < 2 ^ 64 by omega) next
  have lenEnd : view.slotOffset next + 12 ≤ object.size := by
    simp only [slotHeaderSize] at inside
    split at inside <;> omega
  cases pc with
  | idle =>
      exact ⟨by simp [step], rfl, trivial⟩
  | loadWriteSeq =>
      simp only [ringHeaderSize] at header
      simp only [step]
      split_ifs
      all_goals exact ⟨by simpa using header, rfl, trivial⟩
  | loadSeq =>
      simp only [step]
      split_ifs
      all_goals
        refine ⟨?_, rfl, trivial⟩
        simp only [List.mem_singleton, forall_eq]
        omega
  | loadLen =>
      simp only [step]
      split_ifs with large
      · refine ⟨?_, rfl, trivial⟩
        simp only [List.mem_singleton, forall_eq]
        omega
      · refine ⟨?_, rfl, Nat.not_lt.mp large⟩
        simp only [List.mem_singleton, forall_eq]
        omega
  | copying len copied =>
      simp only [LenChecked] at checked
      simp only [step]
      split_ifs with more torn
      · refine ⟨?_, rfl, checked⟩
        rw [if_neg (show view.slotSize ≠ 0 by omega)] at inside
        simp only [List.mem_singleton, forall_eq]
        omega
      · refine ⟨?_, rfl, trivial⟩
        simp only [List.mem_singleton, forall_eq]
        omega
      · refine ⟨?_, rfl, trivial⟩
        simp only [List.mem_singleton, forall_eq]
        omega

/-- Every load of every read stays inside an object that holds the ring. -/
theorem mappedReader_inside
    {object : SharedObject} {view : AttachedView}
    (opened : object.openView = some view)
    (sizeWord : object.size < 2 ^ 63) (fits : view.reach ≤ object.size)
    {inputs : List Unit} {reader : MappedReader} {accesses : List Access}
    (run :
      (mappedReaderMachine object).Run Machine.free inputs reader accesses) :
    ∀ access ∈ accesses, access.offset + access.length ≤ object.size := by
  have header : ringHeaderSize ≤ object.size := by
    by_contra small
    rw [SharedObject.openView, if_pos (by omega)] at opened
    cases opened
  have all :
      (reader.view = view ∧ LenChecked view reader.pc) ∧
        ∀ access ∈ accesses, access.offset + access.length ≤ object.size := by
    refine run.invariant
      (fun reader accesses =>
        (reader.view = view ∧ LenChecked view reader.pc) ∧
          ∀ access ∈ accesses, access.offset + access.length ≤ object.size)
      ?_ ?_
    · rintro reader ⟨made, _, _, atRest⟩
      rw [opened, Option.some.injEq] at made
      refine ⟨⟨made.symm, ?_⟩, by simp⟩
      rw [atRest]
      trivial
    · rintro reader accesses _ target emitted ⟨⟨rfl, checked⟩, earlier⟩ _
        stepped
      have moved : reader.step object = (target, emitted) :=
        Option.some.inj stepped
      have inside := reader.step_inside fits sizeWord header checked
      rw [moved] at inside
      refine ⟨inside.2, fun access member => ?_⟩
      rcases List.mem_append.mp member with before | now
      · exact earlier access before
      · exact inside.1 access now
  exact all.2

/-! ## Rings that do not fit -/

/-- Byte `index` of a little-endian word. -/
def byteOf (value index : Nat) : UInt8 :=
  UInt8.ofNat (value / 256 ^ index)

theorem loadWord_of_bytes
    {bytes : Nat → UInt8} {value : Nat} (width offset : Nat)
    (small : value < 256 ^ width)
    (stored : ∀ index, index < width →
      bytes (offset + index) = byteOf value index) :
    loadWord bytes offset width = value := by
  induction width generalizing value offset with
  | zero =>
      simp only [pow_zero, Nat.lt_one_iff] at small
      rw [small]
      rfl
  | succ width inductionHypothesis =>
      have first := stored 0 (by omega)
      have rest :=
        @inductionHypothesis (value / 256) (offset + 1)
          (by rw [pow_succ] at small; omega)
          (by
            intro index inside
            rw [show offset + 1 + index = offset + (index + 1) by omega,
              stored (index + 1) (by omega), byteOf, byteOf,
              Nat.div_div_eq_div_mul, pow_succ, Nat.mul_comm])
      rw [loadWord, rest, show bytes offset = byteOf value 0 from first]
      simp only [byteOf, pow_zero, Nat.div_one, UInt8.toNat_ofNat']
      omega

/-- An object whose header announces a ring, with one published slot. -/
def craftedObject (size slotCount slotSize writeSeq slot pos : Nat) :
    SharedObject where
  size := size
  bytes offset :=
    if offset < 4 then byteOf kMagic offset
    else if offset < 8 then byteOf slotCount (offset - 4)
    else if offset < 12 then byteOf slotSize (offset - 8)
    else if offset < 16 then 0
    else if offset < 24 then byteOf writeSeq (offset - 16)
    else if offset < slot then 0
    else if offset < slot + 8 then byteOf pos (offset - slot)
    else byteOf slotSize (offset - (slot + 8))

section Crafted

variable {size slotCount slotSize writeSeq slot pos : Nat}

theorem crafted_openView
    (header : ringHeaderSize ≤ size)
    (countWord : slotCount < 2 ^ 32) (sizeWord : slotSize < 2 ^ 32) :
    (craftedObject size slotCount slotSize writeSeq slot pos).openView =
      some ⟨slotCount, slotSize, slotStride slotSize⟩ := by
  have magic :
      (craftedObject size slotCount slotSize writeSeq slot pos).magic =
        kMagic := by
    refine loadWord_of_bytes 4 0 (by decide) fun index inside => ?_
    simp [craftedObject, inside]
  have count :
      (craftedObject size slotCount slotSize writeSeq slot pos).slotCount =
        slotCount := by
    refine loadWord_of_bytes 4 4 countWord fun index inside => ?_
    simp [craftedObject, show 4 + index < 8 by omega]
  have capacity :
      (craftedObject size slotCount slotSize writeSeq slot pos).slotSize =
        slotSize := by
    refine loadWord_of_bytes 4 8 sizeWord fun index inside => ?_
    simp [craftedObject, show ¬ 8 + index < 4 by omega,
      show ¬ 8 + index < 8 by omega, show 8 + index < 12 by omega]
  rw [SharedObject.openView, magic, count, capacity,
    if_neg (show ¬ (craftedObject size slotCount slotSize writeSeq slot
      pos).size < ringHeaderSize from Nat.not_lt.mpr header)]
  simp

theorem crafted_writeSeq (word : writeSeq < 2 ^ 64) :
    (craftedObject size slotCount slotSize writeSeq slot pos).writeSeq =
      writeSeq := by
  refine loadWord_of_bytes 8 16 word fun index inside => ?_
  simp [craftedObject, show ¬ 16 + index < 4 by omega,
    show ¬ 16 + index < 8 by omega, show ¬ 16 + index < 12 by omega,
    show ¬ 16 + index < 16 by omega, show 16 + index < 24 by omega]

theorem crafted_seq (behind : 24 ≤ slot) (word : pos < 2 ^ 64) :
    loadWord (craftedObject size slotCount slotSize writeSeq slot pos).bytes
      slot 8 = pos := by
  refine loadWord_of_bytes 8 slot word fun index inside => ?_
  simp [craftedObject, show ¬ slot + index < 4 by omega,
    show ¬ slot + index < 8 by omega, show ¬ slot + index < 12 by omega,
    show ¬ slot + index < 16 by omega, show ¬ slot + index < 24 by omega,
    inside]

theorem crafted_len (behind : 24 ≤ slot) (word : slotSize < 2 ^ 32) :
    loadWord (craftedObject size slotCount slotSize writeSeq slot pos).bytes
      (slot + 8) 4 = slotSize := by
  refine loadWord_of_bytes 4 (slot + 8) word fun index inside => ?_
  simp [craftedObject, show ¬ slot + 8 + index < 4 by omega,
    show ¬ slot + 8 + index < 8 by omega,
    show ¬ slot + 8 + index < 12 by omega,
    show ¬ slot + 8 + index < 16 by omega,
    show ¬ slot + 8 + index < 24 by omega,
    show ¬ slot + 8 + index < slot by omega,
    show ¬ slot + 8 + index < slot + 8 by omega]

end Crafted

/-- A slot that the masked index selects and that does not lie in the object
as a whole. -/
theorem exists_outside
    {view : AttachedView} {size : Nat}
    (sizeWord : view.slotSize < 2 ^ 32)
    (stride : view.stride = slotStride view.slotSize)
    (mapped : size < 2 ^ 63) (outside : size < view.reach) :
    ∃ pos,
      pos < 2 ^ 32 ∧ (view.slotCount = 0 → 2 ≤ pos) ∧ 64 ≤ view.slotOffset pos ∧
        size <
          view.slotOffset pos +
            if view.slotSize = 0 then 12
            else slotHeaderSize + view.slotSize := by
  rw [slotStride_eq sizeWord] at stride
  have maskWord : view.mask < 2 ^ 32 := Nat.mod_lt _ (by decide)
  have maskZero : view.slotCount = 0 → view.mask = 2 ^ 32 - 1 := by
    intro none
    rw [AttachedView.mask, none]
    rfl
  simp only [AttachedView.reach, headerBytes_eq] at outside
  by_cases wraps : 64 + view.mask * view.stride < 2 ^ 64
  · -- The last slot is addressed as such.
    have offset :
        view.slotOffset view.mask = 64 + view.mask * view.stride := by
      rw [AttachedView.slotOffset, Nat.mod_eq_of_lt maskWord, Nat.and_self,
        headerBytes_eq, Nat.mod_eq_of_lt wraps]
    refine ⟨view.mask, maskWord, fun none => ?_, by omega, by omega⟩
    rw [maskZero none]
    decide
  · -- The address of the last slot wraps, and that of slot `2 ^ 31` does not.
    have wide : 2 ^ 32 < view.stride := by
      by_contra narrow
      have product :=
        Nat.mul_le_mul (show view.mask ≤ 2 ^ 32 - 1 by omega)
          (Nat.not_lt.mp narrow)
      omega
    have bound : view.stride ≤ 2 ^ 32 + 79 := by omega
    have high : 2 ^ 31 ≤ view.mask := by
      by_contra low
      have product :=
        Nat.mul_le_mul (show view.mask ≤ 2 ^ 31 by omega) bound
      omega
    have bit : view.mask.testBit 31 = true := by
      rw [Nat.testBit_eq_decide_div_mod_eq, decide_eq_true_eq]
      omega
    have selected : 2 ^ 31 &&& view.mask = 2 ^ 31 := by
      rw [Nat.two_pow_and, bit]
      rfl
    have offset :
        view.slotOffset (2 ^ 31) = 64 + 2 ^ 31 * view.stride := by
      rw [AttachedView.slotOffset, show 2 ^ 31 % 2 ^ 32 = 2 ^ 31 from rfl,
        selected, headerBytes_eq, Nat.mod_eq_of_lt (by omega)]
    exact ⟨2 ^ 31, by decide, fun _ => by decide, by omega, by omega⟩

theorem mappedReader_next
    {object : SharedObject} {inputs : List Unit}
    {reader target : MappedReader} {accesses emitted : List Access}
    (run :
      (mappedReaderMachine object).Run Machine.free inputs reader accesses)
    (stepped : reader.step object = (target, emitted)) :
    (mappedReaderMachine object).Run Machine.free (inputs ++ [()]) target
      (accesses ++ emitted) :=
  run.next trivial (congrArg some stepped)

/-- The object in which the slot of `pos` is published and holds as many bytes
as a slot can. -/
def fullSlotObject (size slotCount slotSize pos : Nat) : SharedObject :=
  craftedObject size slotCount slotSize
    (if slotCount = 0 then pos - 1 else pos + 1)
    (AttachedView.slotOffset ⟨slotCount, slotSize, slotStride slotSize⟩ pos) pos

/-- A suitable cursor selects that slot; with no slots at all, the cursor is
moved there by the fast-forward. -/
theorem fullSlotObject_loadSeq
    {size slotCount slotSize pos : Nat}
    (header : ringHeaderSize ≤ size)
    (countWord : slotCount < 2 ^ 32) (sizeWord : slotSize < 2 ^ 32)
    (posWord : pos < 2 ^ 32) (later : slotCount = 0 → 2 ≤ pos) :
    ∃ inputs dropped accesses,
      (mappedReaderMachine
          (fullSlotObject size slotCount slotSize pos)).Run Machine.free inputs
        ⟨⟨slotCount, slotSize, slotStride slotSize⟩, pos, dropped, [],
          .loadSeq⟩ accesses := by
  have opened :
      (fullSlotObject size slotCount slotSize pos).openView =
        some ⟨slotCount, slotSize, slotStride slotSize⟩ :=
    crafted_openView header countWord sizeWord
  have written :
      (fullSlotObject size slotCount slotSize pos).writeSeq =
        if slotCount = 0 then pos - 1 else pos + 1 :=
    crafted_writeSeq (by split <;> omega)
  by_cases none : slotCount = 0
  · have two := later none
    have start :
        (mappedReaderMachine
            (fullSlotObject size slotCount slotSize pos)).initial
          ⟨⟨slotCount, slotSize, slotStride slotSize⟩, 0, 0, [], .idle⟩ :=
      ⟨opened, Nat.two_pow_pos 64, Nat.two_pow_pos 64, rfl⟩
    have entered := mappedReader_next (Machine.Run.start start) rfl
    have target : pos - 1 - slotCount + 1 = pos := by omega
    have forwarded :
        MappedReader.step (fullSlotObject size slotCount slotSize pos)
            ⟨⟨slotCount, slotSize, slotStride slotSize⟩, 0, 0, [],
              .loadWriteSeq⟩ =
          (⟨⟨slotCount, slotSize, slotStride slotSize⟩, pos,
              (0 + (pos + 2 ^ 64 - 0)) % 2 ^ 64, [], .loadSeq⟩,
            [⟨16, 8⟩]) := by
      simp only [MappedReader.step, written, if_pos none]
      rw [if_neg (by omega), if_pos (by omega), target,
        Nat.mod_eq_of_lt (show pos < 2 ^ 64 by omega)]
    exact ⟨_, _, _, mappedReader_next entered forwarded⟩
  · have start :
        (mappedReaderMachine
            (fullSlotObject size slotCount slotSize pos)).initial
          ⟨⟨slotCount, slotSize, slotStride slotSize⟩, pos, 0, [], .idle⟩ :=
      ⟨opened, show pos < 2 ^ 64 by omega, Nat.two_pow_pos 64, rfl⟩
    have entered := mappedReader_next (Machine.Run.start start) rfl
    have selected :
        MappedReader.step (fullSlotObject size slotCount slotSize pos)
            ⟨⟨slotCount, slotSize, slotStride slotSize⟩, pos, 0, [],
              .loadWriteSeq⟩ =
          (⟨⟨slotCount, slotSize, slotStride slotSize⟩, pos, 0, [], .loadSeq⟩,
            [⟨16, 8⟩]) := by
      simp only [MappedReader.step, written, if_neg none]
      rw [if_neg (by omega), if_neg (by omega)]
    exact ⟨_, 0, _, mappedReader_next entered selected⟩

theorem fullSlotObject_copy
    {slotCount slotSize pos slot copied : Nat} (size dropped : Nat)
    (out : Bytes)
    (isSlot :
      slot =
        AttachedView.slotOffset ⟨slotCount, slotSize, slotStride slotSize⟩ pos)
    (more : copied < slotSize) :
    MappedReader.step (fullSlotObject size slotCount slotSize pos)
        ⟨⟨slotCount, slotSize, slotStride slotSize⟩, pos, dropped, out,
          .copying slotSize copied⟩ =
      (⟨⟨slotCount, slotSize, slotStride slotSize⟩, pos, dropped,
          out ++ [(fullSlotObject size slotCount slotSize pos).bytes
            (slot + slotHeaderSize + copied)],
          .copying slotSize (copied + 1)⟩,
        [⟨slot + slotHeaderSize + copied, 1⟩]) := by
  simp only [MappedReader.step, ← isSlot, if_pos more]

theorem fullSlotObject_copying
    {size slotCount slotSize pos : Nat}
    (header : ringHeaderSize ≤ size)
    (countWord : slotCount < 2 ^ 32) (sizeWord : slotSize < 2 ^ 32)
    (posWord : pos < 2 ^ 32) (later : slotCount = 0 → 2 ≤ pos)
    {slot : Nat}
    (isSlot :
      slot =
        AttachedView.slotOffset ⟨slotCount, slotSize, slotStride slotSize⟩ pos)
    (behind : 64 ≤ slot) (copied : Nat) (part : copied ≤ slotSize) :
    ∃ inputs dropped out accesses,
      (mappedReaderMachine
          (fullSlotObject size slotCount slotSize pos)).Run Machine.free inputs
          ⟨⟨slotCount, slotSize, slotStride slotSize⟩, pos, dropped, out,
            .copying slotSize copied⟩ accesses ∧
        ⟨slot + 8, 4⟩ ∈ accesses := by
  induction copied with
  | zero =>
      obtain ⟨inputs, dropped, accesses, selected⟩ :=
        fullSlotObject_loadSeq header countWord sizeWord posWord later
      have small : pos < 2 ^ 63 := by omega
      have samePosition : pos &&& kPositionMask = pos := by
        rw [and_kPositionMask, Nat.mod_eq_of_lt small]
      have noMark : pos &&& kWritingBit = 0 := by
        rw [kWritingBit_eq, Nat.and_two_pow, Nat.testBit_lt_two_pow small]
        rfl
      have seq :
          loadWord (fullSlotObject size slotCount slotSize pos).bytes slot 8 =
            pos := by
        rw [fullSlotObject, ← isSlot]
        exact crafted_seq (by omega) (by omega)
      have len :
          loadWord (fullSlotObject size slotCount slotSize pos).bytes
            (slot + 8) 4 = slotSize := by
        rw [fullSlotObject, ← isSlot]
        exact crafted_len (by omega) sizeWord
      have looked :=
        mappedReader_next selected
          (show _ = (⟨⟨slotCount, slotSize, slotStride slotSize⟩, pos, dropped,
              [], .loadLen⟩, [⟨slot, 8⟩]) by
            simp only [MappedReader.step, ← isSlot, seq, samePosition, noMark,
              ne_eq, not_true, if_false])
      have measured :=
        mappedReader_next looked
          (show _ = (⟨⟨slotCount, slotSize, slotStride slotSize⟩, pos, dropped,
              [], .copying slotSize 0⟩, [⟨slot + 8, 4⟩]) by
            simp only [MappedReader.step, ← isSlot, len, gt_iff_lt,
              Nat.lt_irrefl, if_false])
      exact ⟨_, _, _, _, measured, by simp⟩
  | succ copied inductionHypothesis =>
      obtain ⟨inputs, dropped, out, accesses, run, member⟩ :=
        inductionHypothesis (by omega)
      have copy :=
        fullSlotObject_copy size dropped out isSlot
          (show copied < slotSize by omega)
      exact ⟨_, _, _, _, mappedReader_next run copy,
        List.mem_append_left _ member⟩

/-- Reads stay inside the mapping, for every object of a given size with given
counts in its header and for every cursor, exactly if the object holds the last
slot that the mask can select. -/
theorem shmSegment_reads_inside_iff
    {size slotCount slotSize : Nat}
    (header : ringHeaderSize ≤ size) (mapped : size < 2 ^ 63)
    (countWord : slotCount < 2 ^ 32) (sizeWord : slotSize < 2 ^ 32) :
    (∀ object : SharedObject, object.size = size →
      object.openView = some ⟨slotCount, slotSize, slotStride slotSize⟩ →
      ∀ inputs reader accesses,
        (mappedReaderMachine object).Run Machine.free inputs reader accesses →
        ∀ access ∈ accesses, access.offset + access.length ≤ size) ↔
      AttachedView.reach ⟨slotCount, slotSize, slotStride slotSize⟩ ≤ size := by
  constructor
  · intro inside
    by_contra large
    obtain ⟨pos, posWord, later, behind, outside⟩ :=
      exists_outside sizeWord rfl mapped (Nat.not_le.mp large)
    have opened :
        (fullSlotObject size slotCount slotSize pos).openView =
          some ⟨slotCount, slotSize, slotStride slotSize⟩ :=
      crafted_openView header countWord sizeWord
    by_cases empty : slotSize = 0
    · obtain ⟨inputs, dropped, out, accesses, run, member⟩ :=
        fullSlotObject_copying header countWord sizeWord posWord later rfl
          behind 0 (Nat.zero_le _)
      have bound := inside _ rfl opened _ _ _ run _ member
      rw [if_pos empty] at outside
      dsimp only at bound
      omega
    · obtain ⟨inputs, dropped, out, accesses, run, _⟩ :=
        fullSlotObject_copying header countWord sizeWord posWord later rfl
          behind (slotSize - 1) (by omega)
      have copied :=
        mappedReader_next run
          (fullSlotObject_copy size dropped out rfl
            (show slotSize - 1 < slotSize by omega))
      have bound :=
        inside _ rfl opened _ _ _ copied _
          (List.mem_append_right _ List.mem_cons_self)
      rw [if_neg empty] at outside
      dsimp only at bound outside
      omega
  · intro fits object sizeEq opened inputs reader accesses run access member
    subst sizeEq
    exact mappedReader_inside opened mapped fits run access member

/-- The size that `create` gives an object of two slots of four bytes. -/
theorem shmSegment_reads_inside_iff_created :
    bytesNeeded 2 4 = 192 ∧
      ∀ object : SharedObject, object.size = 192 →
        object.openView = some ⟨2, 4, slotStride 4⟩ →
        ∀ inputs reader accesses,
          (mappedReaderMachine object).Run Machine.free inputs reader accesses →
          ∀ access ∈ accesses, access.offset + access.length ≤ 192 :=
  ⟨by decide,
    (shmSegment_reads_inside_iff (by decide) (by decide) (by decide)
      (by decide)).mpr (by decide)⟩

/-- An object that ends behind its header, which announces two slots and one
message. -/
def truncatedObject : SharedObject :=
  craftedObject 64 2 4 1 64 0

/-- The truncated object is opened, and a read of the first message looks at
a slot behind its end. -/
theorem shmSegment_reads_outside :
    truncatedObject.openView = some ⟨2, 4, slotStride 4⟩ ∧
      ∃ reader accesses,
        (mappedReaderMachine truncatedObject).Run Machine.free [(), (), ()]
            reader accesses ∧
          ⟨64, 8⟩ ∈ accesses ∧
          ¬ ∀ access ∈ accesses,
            access.offset + access.length ≤ truncatedObject.size := by
  refine ⟨crafted_openView (by decide) (by decide) (by decide), ?_⟩
  obtain ⟨reader, accesses, run, checked⟩ :=
    Machine.run_of_exec_check (mappedReaderMachine truncatedObject)
      Machine.free [(), (), ()] ⟨⟨2, 4, slotStride 4⟩, 0, 0, [], .idle⟩
      (fun _ accesses => ⟨64, 8⟩ ∈ accesses)
      ⟨crafted_openView (by decide) (by decide) (by decide), by decide,
        by decide, rfl⟩
      (by decide +kernel)
  have member := of_decide_eq_true checked
  refine ⟨reader, accesses, run, member, fun inside => ?_⟩
  have bound := inside _ member
  simp only [truncatedObject, craftedObject] at bound
  omega

end MiniMiddleware.Transport
