import MiniMiddleware.Config.Config
import Mathlib.Data.UInt

/-!
# Bounded decimal numbers on machine words

`parse_unsigned` computes with 64-bit words and stores through a pointer.  Its
guard compares with a quotient of what is left below the bound, so that neither
the difference nor the product nor the sum wraps; the words then stand for the
numbers of the configuration's model.
-/

namespace MiniMiddleware.Config

/-! ## The function on words -/

/-- A computation on two 64-bit words. -/
inductive Computation
  | difference (left right : UInt64)
  | product (left right : UInt64)
  | sum (left right : UInt64)
  deriving DecidableEq, Repr

/-- The computation does not wrap. -/
def Computation.Exact : Computation → Prop
  | .difference left right => right.toNat ≤ left.toNat
  | .product left right => left.toNat * right.toNat < 2 ^ 64
  | .sum left right => left.toNat + right.toNat < 2 ^ 64

/-- `c - '0'` as a 64-bit word. -/
def digitWord (char : Char) : UInt64 :=
  UInt64.ofNat (digitValue char)

/-- The loop of `parse_unsigned`: its number, and the computations on the way
there. -/
def parseUnsignedLoop (maxValue : UInt64) :
    UInt64 → Text → Option UInt64 × List Computation
  | parsed, [] => (some parsed, [])
  | parsed, char :: rest =>
      if !char.isDigit then
        (none, [])
      else
        let digit := digitWord char
        if parsed > (maxValue - digit) / 10 then
          (none, [.difference maxValue digit])
        else
          let further :=
            parseUnsignedLoop maxValue (parsed * 10 + digit) rest
          (further.1,
            .difference maxValue digit :: .product parsed 10 ::
              .sum (parsed * 10) digit :: further.2)

/-- The computations of `parse_unsigned`. -/
def computations (value : Text) (maxValue : UInt64) : List Computation :=
  if value = [] then [] else (parseUnsignedLoop maxValue 0 value).2

/-- `parse_unsigned`: what it returns, and `*out` behind it. -/
def parseUnsignedOut (value : Text) (maxValue out : UInt64) : Bool × UInt64 :=
  if value = [] then
    (false, out)
  else
    match (parseUnsignedLoop maxValue 0 value).1 with
    | none => (false, out)
    | some parsed => (true, parsed)

/-- `parse_u16`: what it returns, and `*out` behind it. -/
def parseU16Out (value : Text) (out : UInt16) : Bool × UInt16 :=
  let (ok, parsed) := parseUnsignedOut value (2 ^ 16 - 1) 0
  if !ok then (false, out) else (true, parsed.toUInt16)

/-- `parse_u32`: what it returns, and `*out` behind it. -/
def parseU32Out (value : Text) (out : UInt32) : Bool × UInt32 :=
  let (ok, parsed) := parseUnsignedOut value (2 ^ 32 - 1) 0
  if !ok then (false, out) else (true, parsed.toUInt32)

/-! ## One digit -/

theorem toNat_digitWord {char : Char} (digit : char.isDigit = true) :
    (digitWord char).toNat = digitValue char :=
  UInt64.toNat_ofNat_of_lt'
    (Nat.lt_of_le_of_lt (digitValue_le digit) (by decide))

theorem toNat_limit
    {maxValue digit : UInt64} (within : digit.toNat ≤ maxValue.toNat) :
    ((maxValue - digit) / 10).toNat =
      (maxValue.toNat - digit.toNat) / 10 := by
  rw [UInt64.toNat_div, UInt64.toNat_sub_of_le _ _ within]
  rfl

theorem toNat_next
    {maxValue parsed digit : UInt64}
    (fits : parsed.toNat * 10 + digit.toNat ≤ maxValue.toNat) :
    (parsed * 10 + digit).toNat = parsed.toNat * 10 + digit.toNat := by
  have word := maxValue.toNat_lt
  have ten : (10 : UInt64).toNat = 10 := rfl
  rw [UInt64.toNat_add, UInt64.toNat_mul, ten,
    Nat.mod_eq_of_lt (show parsed.toNat * 10 < 2 ^ 64 by omega),
    Nat.mod_eq_of_lt (by omega)]

/-! ## The loop -/

/-- On words the loop reads the same numbers, and nothing wraps. -/
theorem parseUnsignedLoop_eq
    {maxValue : UInt64} (large : 9 ≤ maxValue.toNat) (rest : Text) :
    ∀ parsed : UInt64, parsed.toNat ≤ maxValue.toNat →
      (parseUnsignedLoop maxValue parsed rest).1.map UInt64.toNat =
          parseUnsignedFrom maxValue.toNat parsed.toNat rest ∧
        ∀ computation ∈ (parseUnsignedLoop maxValue parsed rest).2,
          computation.Exact := by
  induction rest with
  | nil =>
      intro parsed _
      exact ⟨rfl, by simp [parseUnsignedLoop]⟩
  | cons char rest inductionHypothesis =>
      intro parsed bounded
      rw [parseUnsignedLoop, parseUnsignedFrom]
      by_cases digit : char.isDigit = true
      · have small := digitValue_le digit
        have sameDigit := toNat_digitWord digit
        have within : (digitWord char).toNat ≤ maxValue.toNat := by omega
        have guard :
            parsed > (maxValue - digitWord char) / 10 ↔
              (maxValue.toNat - digitValue char) / 10 < parsed.toNat := by
          rw [gt_iff_lt, UInt64.lt_iff_toNat_lt, toNat_limit within, sameDigit]
        have accepted : ¬ (!char.isDigit) = true := by simp [digit]
        rw [if_neg accepted, if_neg accepted]
        dsimp only
        by_cases tooLarge :
            (maxValue.toNat - digitValue char) / 10 < parsed.toNat
        · rw [if_pos (guard.mpr tooLarge), if_pos tooLarge]
          refine ⟨rfl, ?_⟩
          simpa [Computation.Exact] using within
        · have fits :
              parsed.toNat * 10 + (digitWord char).toNat ≤ maxValue.toNat := by
            omega
          have next := toNat_next fits
          have word := maxValue.toNat_lt
          have ten : (10 : UInt64).toNat = 10 := rfl
          have product : (parsed * 10).toNat = parsed.toNat * 10 := by
            rw [UInt64.toNat_mul, ten, Nat.mod_eq_of_lt (by omega)]
          obtain ⟨same, exact⟩ :=
            inductionHypothesis (parsed * 10 + digitWord char) (by omega)
          rw [if_neg (guard.not.mpr tooLarge), if_neg tooLarge, ← sameDigit,
            ← next]
          refine ⟨same, ?_⟩
          intro computation member
          simp only [List.mem_cons] at member
          rcases member with rfl | rfl | rfl | further
          · exact within
          · rw [Computation.Exact, ten]
            omega
          · rw [Computation.Exact, product]
            omega
          · exact exact computation further
      · have refused : (!char.isDigit) = true := by simp [digit]
        rw [if_pos refused, if_pos refused]
        exact ⟨rfl, by simp⟩

/-! ## What is stored -/

/-- The outcome of reading a numeral up to a bound: it is accepted exactly if
it is a decimal number within the bound, its value is stored then, and what was
stored before is kept otherwise. -/
structure ReadsExactly (value : Text) (bound before : Nat)
    (ok : Bool) (stored : Nat) : Prop where
  accepted : ok = true ↔ IsDecimal value ∧ digitsValue value ≤ bound
  value : ok = true → stored = digitsValue value
  kept : ok = false → stored = before

/-- On words `parse_unsigned` stores the number of the model, or fails with the
model and keeps what was stored. -/
theorem parseUnsignedOut_cases
    {maxValue : UInt64} (large : 9 ≤ maxValue.toNat) (value : Text)
    (out : UInt64) :
    (∃ parsed : UInt64,
      parseUnsigned value maxValue.toNat = some parsed.toNat ∧
        parseUnsignedOut value maxValue out = (true, parsed)) ∨
      (parseUnsigned value maxValue.toNat = none ∧
        parseUnsignedOut value maxValue out = (false, out)) := by
  by_cases empty : value = []
  · exact Or.inr ⟨if_pos empty, if_pos empty⟩
  · have same := (parseUnsignedLoop_eq large value 0 (Nat.zero_le _)).1
    rw [parseUnsigned, if_neg empty, parseUnsignedOut, if_neg empty]
    cases read : (parseUnsignedLoop maxValue 0 value).1 with
    | none =>
        rw [read] at same
        exact Or.inr ⟨same.symm, rfl⟩
    | some parsed =>
        rw [read] at same
        exact Or.inl ⟨parsed, same.symm, rfl⟩

theorem parseUnsignedOut_readsExactly
    {maxValue : UInt64} (large : 9 ≤ maxValue.toNat) (value : Text)
    (out : UInt64) :
    ReadsExactly value maxValue.toNat out.toNat
      (parseUnsignedOut value maxValue out).1
      (parseUnsignedOut value maxValue out).2.toNat := by
  have model := parseUnsigned_eq large value
  rcases parseUnsignedOut_cases large value out with
    ⟨parsed, read, result⟩ | ⟨read, result⟩
  · rw [read] at model
    obtain ⟨fits, same⟩ := Option.some_eq_ite_none_right.mp model
    rw [result]
    exact ⟨⟨fun _ => fits, fun _ => rfl⟩,
      fun _ => Option.some.inj same, nofun⟩
  · rw [read] at model
    have refused := ite_eq_right_iff.mp model.symm
    rw [result]
    exact ⟨⟨nofun, fun fits => absurd (refused fits) nofun⟩, nofun,
      fun _ => rfl⟩

theorem computations_exact
    {maxValue : UInt64} (large : 9 ≤ maxValue.toNat) (value : Text) :
    ∀ computation ∈ computations value maxValue, computation.Exact := by
  unfold computations
  split
  · simp
  · exact (parseUnsignedLoop_eq large value 0 (Nat.zero_le _)).2

/-- A narrower type that holds the bound stores the number without loss. -/
theorem ReadsExactly.narrow
    {value : Text} {bound wideBefore stored : Nat} {ok : Bool}
    (wide : ReadsExactly value bound wideBefore ok stored)
    (before size : Nat) (holds : bound < size) :
    ReadsExactly value bound before ok
      (if ok = true then stored % size else before) where
  accepted := wide.accepted
  value := by
    intro success
    have within := (wide.accepted.mp success).2
    rw [if_pos success, wide.value success, Nat.mod_eq_of_lt (by omega)]
  kept := by
    rintro rfl
    rfl

theorem toNat_max16 : (2 ^ 16 - 1 : UInt64).toNat = 2 ^ 16 - 1 := by
  decide

theorem nine_le_max16 : 9 ≤ (2 ^ 16 - 1 : UInt64).toNat := by
  decide

theorem toNat_max32 : (2 ^ 32 - 1 : UInt64).toNat = 2 ^ 32 - 1 := by
  decide

theorem nine_le_max32 : 9 ≤ (2 ^ 32 - 1 : UInt64).toNat := by
  decide

theorem parseU16Out_readsExactly (value : Text) (out : UInt16) :
    ReadsExactly value (2 ^ 16 - 1) out.toNat (parseU16Out value out).1
      (parseU16Out value out).2.toNat := by
  have wide := parseUnsignedOut_readsExactly nine_le_max16 value 0
  rw [toNat_max16] at wide
  have narrow := wide.narrow out.toNat (2 ^ 16) (by omega)
  unfold parseU16Out
  generalize parseUnsignedOut value (2 ^ 16 - 1) 0 = outcome at narrow
  obtain ⟨ok, parsed⟩ := outcome
  cases ok <;> exact narrow

theorem parseU32Out_readsExactly (value : Text) (out : UInt32) :
    ReadsExactly value (2 ^ 32 - 1) out.toNat (parseU32Out value out).1
      (parseU32Out value out).2.toNat := by
  have wide := parseUnsignedOut_readsExactly nine_le_max32 value 0
  rw [toNat_max32] at wide
  have narrow := wide.narrow out.toNat (2 ^ 32) (by omega)
  unfold parseU32Out
  generalize parseUnsignedOut value (2 ^ 32 - 1) 0 = outcome at narrow
  obtain ⟨ok, parsed⟩ := outcome
  cases ok <;> exact narrow

theorem parseU16Out_eq (value : Text) (out : UInt16) :
    parseU16Out value out =
      ((parseU16 value).isSome, (parseU16 value).getD out) := by
  have outcomes := parseUnsignedOut_cases nine_le_max16 value 0
  rw [toNat_max16] at outcomes
  rcases outcomes with ⟨parsed, read, result⟩ | ⟨read, result⟩
  · rw [parseU16Out, result, parseU16, read, Option.map_some,
      UInt16.ofNat_uInt64ToNat]
    rfl
  · rw [parseU16Out, result, parseU16, read]
    rfl

theorem parseU32Out_eq (value : Text) (out : UInt32) :
    parseU32Out value out =
      ((parseU32 value).isSome, (parseU32 value).getD out) := by
  have outcomes := parseUnsignedOut_cases nine_le_max32 value 0
  rw [toNat_max32] at outcomes
  rcases outcomes with ⟨parsed, read, result⟩ | ⟨read, result⟩
  · rw [parseU32Out, result, parseU32, read, Option.map_some,
      UInt32.ofNat_uInt64ToNat]
    rfl
  · rw [parseU32Out, result, parseU32, read]
    rfl

/-- Bounded parsing of decimal numbers is exact, and nothing wraps on the
way. -/
theorem boundedParsing_exact :
    (∀ (value : Text) (maxValue out : UInt64), 9 ≤ maxValue.toNat →
      ReadsExactly value maxValue.toNat out.toNat
          (parseUnsignedOut value maxValue out).1
          (parseUnsignedOut value maxValue out).2.toNat ∧
        ∀ computation ∈ computations value maxValue, computation.Exact) ∧
      (∀ (value : Text) (out : UInt16),
        ReadsExactly value (2 ^ 16 - 1) out.toNat (parseU16Out value out).1
          (parseU16Out value out).2.toNat) ∧
      ∀ (value : Text) (out : UInt32),
        ReadsExactly value (2 ^ 32 - 1) out.toNat (parseU32Out value out).1
          (parseU32Out value out).2.toNat :=
  ⟨fun value _ out large =>
      ⟨parseUnsignedOut_readsExactly large value out,
        computations_exact large value⟩,
    parseU16Out_readsExactly, parseU32Out_readsExactly⟩

/-- A bound of one byte. -/
theorem boundedParsing_exact_byte :
    ReadsExactly ['2', '5', '6'] 255 7
      (parseUnsignedOut ['2', '5', '6'] 255 7).1
      (parseUnsignedOut ['2', '5', '6'] 255 7).2.toNat :=
  (boundedParsing_exact.1 ['2', '5', '6'] 255 7 (by decide)).1

end MiniMiddleware.Config
