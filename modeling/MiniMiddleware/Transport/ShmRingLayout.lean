import MiniMiddleware.Library.Layout
import MiniMiddleware.Transport.ShmRing

/-!
# The layout of the ring

The header and the slots of a ring stand in one block, and the positions of the
messages are mapped to the slots by a mask.  All sizes are 64-bit words; with a
number of slots that is a power of two below `2 ^ 32`, whatever the size of a
slot, no word wraps.
-/

namespace MiniMiddleware.Transport

open MiniMiddleware.Library

/-- `slot(i)`, as an offset from `base_`. -/
def slotStart (slotSize index : Nat) : Nat :=
  (headerBytes + index * slotStride slotSize) % 2 ^ 64

/-- The bytes of the `Header`. -/
def headerRange : Set Nat :=
  byteRange 0 ringHeaderSize

/-- The bytes of a slot: its `SlotHeader` and `slot_size` bytes of payload. -/
def slotRange (slotSize index : Nat) : Set Nat :=
  byteRange (slotStart slotSize index) (slotHeaderSize + slotSize)

/-! ## Sizes -/

/-- Where the sum fits its word, the mask rounds up. -/
theorem alignUp_eq_roundUp
    {n bits : Nat} (narrow : bits ≤ 64) (fits : n + 2 ^ bits - 1 < 2 ^ 64) :
    alignUp n (2 ^ bits) = roundUp n (2 ^ bits) := by
  rw [alignUp, Nat.mod_eq_of_lt fits, and_highBits narrow fits]
  rfl

theorem headerBytes_eq : headerBytes = 64 := by
  decide

theorem slotStride_eq_roundUp {slotSize : Nat} (word : slotSize < 2 ^ 32) :
    slotStride slotSize = roundUp (slotHeaderSize + slotSize) kCacheLine :=
  @alignUp_eq_roundUp (slotHeaderSize + slotSize) 6 (by omega)
    (by simp only [slotHeaderSize]; omega)

theorem slotStride_eq {slotSize : Nat} (word : slotSize < 2 ^ 32) :
    slotStride slotSize = (slotSize + 79) / 64 * 64 := by
  rw [slotStride_eq_roundUp word, roundUp, slotHeaderSize, kCacheLine,
    show 16 + slotSize + 64 - 1 = slotSize + 79 by omega]

theorem slot_le_slotStride {slotSize : Nat} (word : slotSize < 2 ^ 32) :
    slotHeaderSize + slotSize ≤ slotStride slotSize := by
  rw [slotStride_eq_roundUp word]
  exact le_roundUp (by decide)

/-- Up to the largest ring, the last slot ends below `2 ^ 64`. -/
theorem headerBytes_add_lt
    {slotSize : Nat} (word : slotSize < 2 ^ 32)
    {count : Nat} (within : count ≤ 2 ^ 31) :
    headerBytes + count * slotStride slotSize < 2 ^ 64 := by
  have stride : slotStride slotSize ≤ 2 ^ 32 + 79 := by
    rw [slotStride_eq word]
    omega
  have product := Nat.mul_le_mul within stride
  rw [headerBytes_eq]
  omega

theorem slotStart_eq
    {slotSize : Nat} (word : slotSize < 2 ^ 32)
    {index : Nat} (within : index ≤ 2 ^ 31) :
    slotStart slotSize index = headerBytes + index * slotStride slotSize :=
  Nat.mod_eq_of_lt (headerBytes_add_lt word within)

/-! ## Soundness -/

/-- The layout of a ring: `bytes_needed` is what the header and the strides of
the slots take, positions are mapped to slots by their remainder, and the slots
stand on cache lines, apart from each other and from the header, inside the
block. -/
structure SoundLayout (slotCount slotSize : Nat) : Prop where
  noWrap :
    bytesNeeded slotCount slotSize =
      roundUp ringHeaderSize kCacheLine +
        slotCount * roundUp (slotHeaderSize + slotSize) kCacheLine
  index : ∀ pos, pos < 2 ^ 64 →
    ShmRing.slotIndex ⟨slotCount, slotSize⟩ pos = pos % slotCount
  headerInside : headerRange ⊆ byteRange 0 (bytesNeeded slotCount slotSize)
  slotInside : ∀ i, i < slotCount →
    slotRange slotSize i ⊆ byteRange 0 (bytesNeeded slotCount slotSize)
  headerApart : ∀ i, i < slotCount →
    Disjoint headerRange (slotRange slotSize i)
  slotsApart : ∀ i j, i < slotCount → j < slotCount → i ≠ j →
    Disjoint (slotRange slotSize i) (slotRange slotSize j)
  aligned : ∀ i, i < slotCount → kCacheLine ∣ slotStart slotSize i

/-- The layout is sound for every power of two and every size of a slot. -/
theorem shmRing_soundLayout
    (bits slotSize : Nat) (countWord : 2 ^ bits < 2 ^ 32)
    (sizeWord : slotSize < 2 ^ 32) :
    SoundLayout (2 ^ bits) slotSize := by
  have narrow : bits < 32 := (Nat.pow_lt_pow_iff_right (by omega)).mp countWord
  have within : 2 ^ bits ≤ 2 ^ 31 := Nat.pow_le_pow_right (by omega) (by omega)
  have needed :
      bytesNeeded (2 ^ bits) slotSize =
        headerBytes + 2 ^ bits * slotStride slotSize :=
    Nat.mod_eq_of_lt (headerBytes_add_lt sizeWord within)
  have place : ∀ i, i < 2 ^ bits →
      slotStart slotSize i = headerBytes + i * slotStride slotSize :=
    fun i inside => slotStart_eq sizeWord (by omega)
  have fits := slot_le_slotStride sizeWord
  have lines : kCacheLine ∣ slotStride slotSize := by
    rw [slotStride_eq_roundUp sizeWord]
    exact dvd_roundUp _ _
  constructor
  case noWrap =>
    rw [needed, slotStride_eq_roundUp sizeWord]
    rfl
  case index =>
    intro pos _
    exact mod_and_lowBits (by omega) pos
  case headerInside =>
    rintro byte ⟨_, before⟩
    have header : ringHeaderSize ≤ headerBytes := by decide
    refine ⟨Nat.zero_le byte, ?_⟩
    rw [needed]
    omega
  case slotInside =>
    intro i inside
    rw [slotRange, place i inside, needed]
    exact strided_subset fits inside
  case headerApart =>
    intro i inside
    rw [slotRange, place i inside]
    exact disjoint_header (by decide) i
  case slotsApart =>
    intro i j first second different
    rw [slotRange, slotRange, place i first, place j second]
    exact disjoint_strided fits different
  case aligned =>
    intro i inside
    rw [place i inside]
    exact Nat.dvd_add (by decide) (Nat.dvd_mul_left_of_dvd lines i)

/-- The ring of the data plane. -/
theorem shmRing_soundLayout_dataPlane : SoundLayout (2 ^ 5) (256 * 1024) :=
  shmRing_soundLayout 5 (256 * 1024) (by decide) (by decide)

end MiniMiddleware.Transport
