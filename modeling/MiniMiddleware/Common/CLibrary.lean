import MiniMiddleware.Common.Text
import Mathlib.Algebra.Group.Int.Defs
import Mathlib.Data.List.DropRight
import Mathlib.Data.List.Induction

/-!
# Functions of the C library on text

The character classes of the C locale and the decimal numbers that
`std::isdigit` loops, `strtol` and `strtoull` read.
-/

namespace MiniMiddleware

/-- `isspace`. -/
def isSpace (char : Char) : Bool :=
  char = ' ' || char = '\t' || char = '\n' || char = '\x0b' || char = '\x0c' ||
    char = '\r'

/-- The value of a decimal digit. -/
def digitValue (char : Char) : Nat :=
  char.toNat - '0'.toNat

/-- The number that decimal digits denote. -/
def digitsValue (digits : Text) : Nat :=
  Nat.ofDigitChars 10 digits 0

/-- A decimal number without a sign. -/
def IsDecimal (text : Text) : Prop :=
  text ≠ [] ∧ ∀ char ∈ text, char.isDigit = true

instance (text : Text) : Decidable (IsDecimal text) :=
  inferInstanceAs (Decidable (_ ∧ _))

theorem isDecimal_decimal (number : Nat) : IsDecimal (decimal number) :=
  ⟨Nat.toDigits_ne_nil, fun _ member => isDigit_of_mem_decimal member⟩

theorem digitsValue_concat (digits : Text) (char : Char) :
    digitsValue (digits ++ [char]) =
      digitsValue digits * 10 + digitValue char := by
  rw [digitsValue, Nat.ofDigitChars_append, Nat.ofDigitChars_cons,
    Nat.ofDigitChars_nil, Nat.mul_comm]
  rfl

theorem digitsValue_le_append (digits more : Text) :
    digitsValue digits ≤ digitsValue (digits ++ more) := by
  induction more using List.reverseRecOn with
  | nil => rw [List.append_nil]
  | append_singleton more char inductionHypothesis =>
      rw [← List.append_assoc, digitsValue_concat]
      omega

theorem digitValue_le {char : Char} (digit : char.isDigit = true) :
    digitValue char ≤ 9 := by
  have bound : char.toNat ≤ '9'.toNat := by
    simp only [Char.isDigit, Bool.and_eq_true, decide_eq_true_eq] at digit
    exact digit.2
  have nine : '9'.toNat = 57 := rfl
  have zero : '0'.toNat = 48 := rfl
  unfold digitValue
  omega

@[simp]
theorem digitsValue_decimal (number : Nat) :
    digitsValue (decimal number) = number :=
  Nat.ofDigitChars_ten_toDigits

/-! ## `strtol` and `strtoull` -/

/-- The sign in front of a number and what stands behind it. -/
def readSign : Text → Bool × Text
  | '-' :: rest => (true, rest)
  | '+' :: rest => (false, rest)
  | text => (false, text)

/-- The number at the front of a text, as `strtol` and `strtoull` look for it
in base ten (white space, an optional sign and digits), and what stands behind
it. -/
def readNumber (text : Text) : Option (Int × Text) :=
  let (negative, unsigned) := readSign (text.dropWhile isSpace)
  let digits := unsigned.takeWhile Char.isDigit
  if digits = [] then
    none
  else
    some
      (if negative then -(digitsValue digits : Int) else digitsValue digits,
        unsigned.dropWhile Char.isDigit)

/-- What `strtol` and `strtoull` yield: the value, whether they set `errno` to
`ERANGE`, and the text at `end`. -/
structure Converted where
  value : Int
  outOfRange : Bool
  rest : Text
  deriving DecidableEq, Repr

/-- `strtol` with a `long` of 64 bits. -/
def strtol (text : Text) : Converted :=
  match readNumber text with
  | none => ⟨0, false, text⟩
  | some (number, rest) =>
      if number < -2 ^ 63 then ⟨-2 ^ 63, true, rest⟩
      else if 2 ^ 63 - 1 < number then ⟨2 ^ 63 - 1, true, rest⟩
      else ⟨number, false, rest⟩

/-- `strtoull`: the digits have to fit, and a minus sign negates their value
as an unsigned number. -/
def strtoull (text : Text) : Converted :=
  match readNumber text with
  | none => ⟨0, false, text⟩
  | some (number, rest) =>
      if 2 ^ 64 - 1 < number.natAbs then ⟨2 ^ 64 - 1, true, rest⟩
      else ⟨number % 2 ^ 64, false, rest⟩

/-- The text is a decimal number, with an optional sign and white space in
front. -/
inductive Denotes : Text → Int → Prop
  | plain {spaces digits : Text}
      (blank : ∀ char ∈ spaces, isSpace char = true)
      (decimal : IsDecimal digits) :
      Denotes (spaces ++ digits) (digitsValue digits)
  | plus {spaces digits : Text}
      (blank : ∀ char ∈ spaces, isSpace char = true)
      (decimal : IsDecimal digits) :
      Denotes (spaces ++ '+' :: digits) (digitsValue digits)
  | minus {spaces digits : Text}
      (blank : ∀ char ∈ spaces, isSpace char = true)
      (decimal : IsDecimal digits) :
      Denotes (spaces ++ '-' :: digits) (-(digitsValue digits : Int))

theorem isSpace_of_isDigit {char : Char} (digit : char.isDigit = true) :
    isSpace char = false := by
  have zero : '0'.toNat ≤ char.toNat := by
    simp only [Char.isDigit, Bool.and_eq_true, decide_eq_true_eq] at digit
    exact digit.1
  have large : 48 ≤ char.toNat := zero
  unfold isSpace
  simp only [Bool.or_eq_false_iff, decide_eq_false_iff_not]
  refine ⟨⟨⟨⟨⟨?_, ?_⟩, ?_⟩, ?_⟩, ?_⟩, ?_⟩ <;>
    (rintro rfl; revert large; decide)

theorem dropWhile_isSpace
    {spaces rest : Text} {char : Char}
    (blank : ∀ char ∈ spaces, isSpace char = true)
    (stop : isSpace char = false) :
    (spaces ++ char :: rest).dropWhile isSpace = char :: rest := by
  rw [List.dropWhile_append_of_pos blank]
  exact List.dropWhile_cons_of_neg (by simp [stop])

/-- A decimal number is not the start of a sign. -/
theorem readSign_of_isDecimal {digits : Text} (decimal : IsDecimal digits) :
    readSign digits = (false, digits) := by
  unfold readSign
  split
  · exact absurd (decimal.2 _ List.mem_cons_self) (by decide)
  · exact absurd (decimal.2 _ List.mem_cons_self) (by decide)
  · rfl

theorem takeWhile_isDecimal {digits : Text} (decimal : IsDecimal digits) :
    digits.takeWhile Char.isDigit = digits :=
  List.takeWhile_eq_self_iff.mpr decimal.2

theorem dropWhile_isDecimal {digits : Text} (decimal : IsDecimal digits) :
    digits.dropWhile Char.isDigit = [] :=
  List.dropWhile_eq_nil_iff.mpr decimal.2

theorem readNumber_of_denotes
    {text : Text} {number : Int} (denotes : Denotes text number) :
    readNumber text = some (number, []) := by
  cases denotes with
  | @plain spaces digits blank decimal =>
      obtain ⟨char, rest, rfl⟩ := List.exists_cons_of_ne_nil decimal.1
      have digit := decimal.2 char List.mem_cons_self
      unfold readNumber
      rw [dropWhile_isSpace blank (isSpace_of_isDigit digit),
        readSign_of_isDecimal decimal]
      simp [takeWhile_isDecimal decimal, dropWhile_isDecimal decimal]
  | @plus spaces digits blank decimal =>
      unfold readNumber
      rw [dropWhile_isSpace blank (by decide)]
      simp [readSign, takeWhile_isDecimal decimal, dropWhile_isDecimal decimal,
        decimal.1]
  | @minus spaces digits blank decimal =>
      unfold readNumber
      rw [dropWhile_isSpace blank (by decide)]
      simp [readSign, takeWhile_isDecimal decimal, dropWhile_isDecimal decimal,
        decimal.1]

/-- Where nothing is left behind the number, what stands behind its sign is
decimal. -/
theorem isDecimal_of_readNumber
    {text unsigned : Text} {negative : Bool} {number : Int}
    (sign : readSign (text.dropWhile isSpace) = (negative, unsigned))
    (read : readNumber text = some (number, [])) :
    IsDecimal unsigned ∧
      number =
        if negative then -(digitsValue unsigned : Int)
        else digitsValue unsigned := by
  unfold readNumber at read
  rw [sign] at read
  dsimp only at read
  split at read
  · cases read
  · rename_i some
    obtain ⟨value, nothing⟩ := Prod.mk.inj (Option.some.inj read)
    have digits := List.dropWhile_eq_nil_iff.mp nothing
    have same := List.takeWhile_eq_self_iff.mpr digits
    rw [same] at value some
    exact ⟨⟨some, digits⟩, value.symm⟩

theorem denotes_of_readNumber
    {text : Text} {number : Int} (read : readNumber text = some (number, [])) :
    Denotes text number := by
  have blank : ∀ char ∈ text.takeWhile isSpace, isSpace char = true :=
    fun _ member => List.mem_takeWhile_imp member
  have whole : text.takeWhile isSpace ++ text.dropWhile isSpace = text :=
    List.takeWhile_append_dropWhile
  cases sign : readSign (text.dropWhile isSpace) with
  | mk negative unsigned =>
      obtain ⟨decimal, rfl⟩ := isDecimal_of_readNumber sign read
      rw [← whole]
      unfold readSign at sign
      split at sign
      · rename_i digits unspaced
        obtain ⟨rfl, rfl⟩ := Prod.mk.inj sign
        rw [unspaced]
        exact Denotes.minus blank decimal
      · rename_i digits unspaced
        obtain ⟨rfl, rfl⟩ := Prod.mk.inj sign
        rw [unspaced]
        exact Denotes.plus blank decimal
      · obtain ⟨rfl, rfl⟩ := Prod.mk.inj sign
        exact Denotes.plain blank decimal

/-- A number is read with nothing left behind it exactly if the text denotes
it. -/
theorem denotes_iff {text : Text} {number : Int} :
    Denotes text number ↔ readNumber text = some (number, []) :=
  ⟨readNumber_of_denotes, denotes_of_readNumber⟩

theorem Denotes.unique
    {text : Text} {first second : Int}
    (one : Denotes text first) (other : Denotes text second) :
    first = second := by
  have read := (denotes_iff.mp one).symm.trans (denotes_iff.mp other)
  exact (Prod.mk.inj (Option.some.inj read)).1

theorem Denotes.ne_nil
    {text : Text} {number : Int} (denotes : Denotes text number) :
    text ≠ [] := by
  rintro rfl
  cases (readNumber_of_denotes denotes : readNumber [] = some (number, []))

/-- The text denotes a number below zero. -/
def IsNegative (text : Text) : Prop :=
  ∃ number, number < 0 ∧ Denotes text number

theorem Denotes.not_isNegative_iff
    {text : Text} {number : Int} (denotes : Denotes text number) :
    ¬ IsNegative text ↔ 0 ≤ number := by
  constructor
  · intro notNegative
    by_contra below
    exact notNegative ⟨number, by omega, denotes⟩
  · rintro nonneg ⟨other, negative, otherDenotes⟩
    have same := denotes.unique otherDenotes
    omega

/-- `strtol` reads the whole text without an error. -/
theorem strtol_eq_iff {text : Text} (some : text ≠ []) {number : Int} :
    strtol text = ⟨number, false, []⟩ ↔
      Denotes text number ∧ -2 ^ 63 ≤ number ∧ number < 2 ^ 63 := by
  rw [denotes_iff]
  unfold strtol
  split
  · rename_i nothing
    simp [nothing, some]
  · rename_i value rest read
    rw [read]
    simp only [Option.some.injEq, Prod.mk.injEq]
    split
    · simp only [Converted.mk.injEq, Bool.true_eq_false, false_and, and_false,
        false_iff]
      omega
    · split
      · simp only [Converted.mk.injEq, Bool.true_eq_false, false_and, and_false,
          false_iff]
        omega
      · simp only [Converted.mk.injEq, true_and]
        constructor
        · rintro ⟨rfl, rfl⟩
          exact ⟨⟨rfl, rfl⟩, by omega, by omega⟩
        · rintro ⟨⟨rfl, rfl⟩, _⟩
          exact ⟨rfl, rfl⟩

/-- `strtoull` reads the whole text without an error. -/
theorem strtoull_eq_iff {text : Text} (some : text ≠ []) {value : Int} :
    strtoull text = ⟨value, false, []⟩ ↔
      ∃ number, Denotes text number ∧ number.natAbs < 2 ^ 64 ∧
        value = number % 2 ^ 64 := by
  simp only [denotes_iff]
  unfold strtoull
  split
  · rename_i nothing
    simp [nothing, some]
  · rename_i number rest read
    rw [read]
    simp only [Option.some.injEq, Prod.mk.injEq]
    split
    · simp only [Converted.mk.injEq, Bool.true_eq_false, false_and, and_false,
        false_iff]
      rintro ⟨_, ⟨rfl, rfl⟩, within, _⟩
      omega
    · simp only [Converted.mk.injEq, true_and]
      constructor
      · rintro ⟨rfl, rfl⟩
        exact ⟨number, ⟨rfl, rfl⟩, by omega, rfl⟩
      · rintro ⟨_, ⟨rfl, rfl⟩, _, rfl⟩
        exact ⟨rfl, rfl⟩

/-! ## `std::from_chars` -/

/-- `std::from_chars` for an unsigned number of 64 bits: digits and nothing in
front of them, and what is left behind them. -/
def fromChars (text : Text) : Option (Nat × Text) :=
  let digits := text.takeWhile Char.isDigit
  if digits = [] ∨ 2 ^ 64 ≤ digitsValue digits then
    none
  else
    some (digitsValue digits, text.dropWhile Char.isDigit)

end MiniMiddleware
