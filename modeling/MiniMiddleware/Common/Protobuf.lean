import MiniMiddleware.Common.Text

/-!
# The protobuf wire format

A message is the sequence of its fields that differ from their default, each
behind its tag.  The fields here have numbers below 16, so a tag is one byte:
a number is a varint, seven bits a byte, and a string is its length as a
varint followed by its bytes.

`SerializeToString` fails on a message of more than `INT_MAX` bytes.
-/

namespace MiniMiddleware.Protobuf

/-- `INT_MAX`, the largest size of a message. -/
def maxMessageSize : Nat := 2 ^ 31 - 1

/-- The number of bytes of a varint. -/
def varintSize (value : Nat) : Nat :=
  Nat.log2 value / 7 + 1

/-- A varint: seven bits a byte from the low end, the highest bit set on all
bytes but the last. -/
def varint (value : Nat) : List UInt8 :=
  (List.range (varintSize value)).map fun index =>
    let bits := value / 128 ^ index % 128
    UInt8.ofNat (if index + 1 < varintSize value then bits + 128 else bits)

/-- A field that holds a number. -/
def numberField (tag : UInt8) (value : Nat) : List UInt8 :=
  if value = 0 then [] else tag :: varint value

/-- A field that holds a string or bytes. -/
def bytesField (tag : UInt8) (data : List UInt8) : List UInt8 :=
  if data.length = 0 then [] else tag :: varint data.length ++ data

/-- The size of a field that holds a number. -/
def numberFieldSize (value : Nat) : Nat :=
  if value = 0 then 0 else 1 + varintSize value

/-- The size of a field that holds so many bytes. -/
def bytesFieldSize (length : Nat) : Nat :=
  if length = 0 then 0 else 1 + varintSize length + length

/-- The bytes of a text. -/
def textBytes (text : Text) : List UInt8 :=
  text.map fun char => UInt8.ofNat char.toNat

@[simp]
theorem length_textBytes (text : Text) :
    (textBytes text).length = text.length :=
  List.length_map _

@[simp]
theorem length_varint (value : Nat) :
    (varint value).length = varintSize value := by
  simp [varint]

@[simp]
theorem length_numberField (tag : UInt8) (value : Nat) :
    (numberField tag value).length = numberFieldSize value := by
  unfold numberField numberFieldSize
  split
  · rfl
  · simp [Nat.add_comm]

@[simp]
theorem length_bytesField (tag : UInt8) (data : List UInt8) :
    (bytesField tag data).length = bytesFieldSize data.length := by
  unfold bytesField bytesFieldSize
  split
  · rfl
  · simp only [List.length_append, List.length_cons, length_varint]
    omega

/-- So many bytes hold seven bits each. -/
theorem varintSize_le_iff {value size : Nat} (positive : 0 < size) :
    varintSize value ≤ size ↔ value < 2 ^ (7 * size) := by
  rcases Nat.eq_zero_or_pos value with rfl | some
  · have one : varintSize 0 = 1 := by decide
    rw [one]
    exact ⟨fun _ => Nat.two_pow_pos _, fun _ => positive⟩
  · have notZero : value ≠ 0 := Nat.ne_of_gt some
    rw [← Nat.log2_lt notZero]
    unfold varintSize
    omega

theorem numberFieldSize_le
    {value : Nat} (fits : value < 2 ^ 64) :
    numberFieldSize value ≤ 11 := by
  have size : varintSize value ≤ 10 :=
    (varintSize_le_iff (by omega)).mpr (by omega)
  unfold numberFieldSize
  split <;> omega

theorem le_bytesFieldSize (length : Nat) : length ≤ bytesFieldSize length := by
  unfold bytesFieldSize
  split <;> omega

end MiniMiddleware.Protobuf
