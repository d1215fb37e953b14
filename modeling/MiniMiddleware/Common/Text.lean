import Mathlib.Algebra.Group.Nat.Defs
import Mathlib.Data.List.Basic
import Mathlib.Data.List.TakeWhile

/-!
# Text

Strings that hold names (topics, types, hosts, keys, segment names) are lists
of characters.  Keys and segment names are built from decimal numbers and
separators, so the facts needed about `std::to_string` are that it is
injective and that it only yields digits.
-/

namespace MiniMiddleware

/-- A `std::string` that holds text. -/
abbrev Text := List Char

/-- Texts are compared character by character. -/
instance Text.lawfulBEq : LawfulBEq Text := inferInstance

/-- `std::to_string` of an unsigned number. -/
def decimal (number : Nat) : Text :=
  Nat.toDigits 10 number

/-- `std::to_string` of a signed number. -/
def signedDecimal : Int → Text
  | .ofNat number => decimal number
  | .negSucc number => '-' :: decimal (number + 1)

/-- `c_str()` as a system call reads it: what stands before the first null
character. -/
def cStr (text : Text) : Text :=
  text.takeWhile (· ≠ '\x00')

theorem cStr_append
    {first : Text} (noNull : '\x00' ∉ first) (second : Text) :
    cStr (first ++ second) = first ++ cStr second := by
  refine List.takeWhile_append_of_pos fun char member => ?_
  rw [decide_eq_true_eq]
  rintro rfl
  exact noNull member

theorem decimal_injective : Function.Injective decimal := by
  intro first second equal
  have read := congrArg (fun digits => Nat.ofDigitChars 10 digits 0) equal
  simpa [decimal] using read

theorem isDigit_of_mem_decimal
    {char : Char} {number : Nat} (member : char ∈ decimal number) :
    char.isDigit :=
  Nat.isDigit_of_mem_toDigits (by omega) (by omega) member

/-- What stands in front of the first separator is determined by the text. -/
theorem append_separator
    {separator : Char} {first second left right : Text}
    (firstFree : separator ∉ first) (secondFree : separator ∉ second)
    (equal : first ++ separator :: left = second ++ separator :: right) :
    first = second ∧ left = right := by
  induction first generalizing second with
  | nil =>
      cases second with
      | nil => exact ⟨rfl, (List.cons.inj equal).2⟩
      | cons char rest =>
          have same : separator = char := (List.cons.inj equal).1
          exact absurd (same ▸ List.mem_cons_self) secondFree
  | cons char rest inductionHypothesis =>
      cases second with
      | nil =>
          have same : char = separator := (List.cons.inj equal).1
          exact absurd (same ▸ List.mem_cons_self) firstFree
      | cons other others =>
          obtain ⟨rfl, tails⟩ := List.cons.inj equal
          obtain ⟨rfl, same⟩ :=
            inductionHypothesis
              (fun member => firstFree (List.mem_cons_of_mem char member))
              (fun member => secondFree (List.mem_cons_of_mem char member))
              tails
          exact ⟨rfl, same⟩

theorem notMem_decimal
    {separator : Char} (noDigit : separator.isDigit = false) (number : Nat) :
    separator ∉ decimal number := by
  intro member
  have digit := isDigit_of_mem_decimal member
  rw [noDigit] at digit
  cases digit

/-- A decimal number in front of a separator is determined by the text. -/
theorem decimal_append_separator
    {separator : Char} (noDigit : separator.isDigit = false)
    {first second : Nat} {left right : Text}
    (equal :
      decimal first ++ separator :: left = decimal second ++ separator :: right) :
    first = second ∧ left = right := by
  obtain ⟨digits, rest⟩ :=
    append_separator (notMem_decimal noDigit first)
      (notMem_decimal noDigit second) equal
  exact ⟨decimal_injective digits, rest⟩

end MiniMiddleware
