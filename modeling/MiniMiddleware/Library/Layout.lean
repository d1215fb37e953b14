import Mathlib.Data.Nat.Bitwise
import Mathlib.Order.CompletePartialOrder
import Mathlib.Order.Interval.Set.Disjoint

/-!
# Layout of arrays in memory

Sizes are rounded up to a multiple of a power of two by masking words, and the
items of an array stand a stride apart.  When the sum fits its words the mask
rounds as the quotient does; items that are no larger than the stride do not
meet.
-/

namespace MiniMiddleware.Library

/-! ## Alignment -/

/-- The least multiple of `alignment` that is not below `size`. -/
def roundUp (size alignment : Nat) : Nat :=
  (size + alignment - 1) / alignment * alignment

theorem dvd_roundUp (size alignment : Nat) :
    alignment ∣ roundUp size alignment :=
  Nat.dvd_mul_left _ _

theorem le_roundUp {size alignment : Nat} (positive : 0 < alignment) :
    size ≤ roundUp size alignment := by
  have below := Nat.lt_div_mul_add positive (a := size + alignment - 1)
  unfold roundUp
  omega

/-- Clearing the low bits of a word rounds it down. -/
theorem and_highBits
    {number width bits : Nat} (narrow : bits ≤ width)
    (word : number < 2 ^ width) :
    number &&& (2 ^ width - 1 - (2 ^ bits - 1)) =
      number / 2 ^ bits * 2 ^ bits := by
  have whole : 2 ^ width = 2 ^ (width - bits) * 2 ^ bits := by
    rw [← pow_add, Nat.sub_add_cancel narrow]
  have highBits :
      2 ^ width - 1 - (2 ^ bits - 1) = (2 ^ (width - bits) - 1) <<< bits := by
    have positive := Nat.two_pow_pos bits
    rw [Nat.shiftLeft_eq, Nat.sub_mul, ← whole]
    omega
  rw [highBits]
  apply Nat.eq_of_testBit_eq
  intro index
  rw [Nat.testBit_and, Nat.testBit_shiftLeft, Nat.testBit_mul_two_pow,
    Nat.testBit_div_two_pow, Nat.testBit_two_pow_sub_one]
  by_cases low : bits ≤ index
  · by_cases high : index < width
    · simp [low, show index - bits < width - bits by omega]
    · have cleared : number.testBit index = false :=
        Nat.testBit_lt_two_pow
          (Nat.lt_of_lt_of_le word
            (Nat.pow_le_pow_right (by omega) (by omega)))
      simp [low, cleared]
  · simp [low]

/-- Keeping the low bits of a word is taking it modulo a power of two. -/
theorem mod_and_lowBits
    {width bits : Nat} (narrow : bits ≤ width) (number : Nat) :
    number % 2 ^ width &&& (2 ^ bits - 1) = number % 2 ^ bits := by
  rw [Nat.and_two_pow_sub_one_eq_mod,
    Nat.mod_mod_of_dvd _ (Nat.pow_dvd_pow 2 narrow)]

/-! ## Strides -/

/-- The bytes from an offset on. -/
def byteRange (offset length : Nat) : Set Nat :=
  Set.Ico offset (offset + length)

/-- Items that are no larger than their stride do not meet. -/
theorem disjoint_strided
    {base stride length : Nat} (fits : length ≤ stride)
    {first second : Nat} (different : first ≠ second) :
    Disjoint (byteRange (base + first * stride) length)
      (byteRange (base + second * stride) length) := by
  wlog order : first < second generalizing first second
  · exact (this different.symm (by omega)).symm
  have apart := Nat.mul_le_mul_right stride (Nat.succ_le_of_lt order)
  rw [Nat.succ_mul] at apart
  apply Set.disjoint_left.mpr
  intro byte inFirst inSecond
  have before := inFirst.2
  have behind := inSecond.1
  omega

theorem disjoint_header
    {size base stride length : Nat} (inFront : size ≤ base) (index : Nat) :
    Disjoint (byteRange 0 size) (byteRange (base + index * stride) length) := by
  apply Set.disjoint_left.mpr
  intro byte inHeader inItem
  have before := inHeader.2
  have behind := inItem.1
  omega

/-- The items of an array are inside it. -/
theorem strided_subset
    {base stride length : Nat} (fits : length ≤ stride)
    {index count : Nat} (within : index < count) :
    byteRange (base + index * stride) length ⊆
      byteRange 0 (base + count * stride) := by
  have inside := Nat.mul_le_mul_right stride (Nat.succ_le_of_lt within)
  rw [Nat.succ_mul] at inside
  rintro byte ⟨behind, before⟩
  exact ⟨Nat.zero_le byte, by omega⟩

end MiniMiddleware.Library
