import MiniMiddleware.Bench.MessageCodec

/-!
# Payloads by the offsets of their separators

`parse_benchmark_payload` looks for three separators, each behind the one
before it, and takes what is between them by offset and length.  Cutting the
text at its separators comes to the same, and tells what the function accepts:
the texts that begin as a payload does.
-/

namespace MiniMiddleware.Bench

/-- `find` of a separator from an offset on, without an offset for `npos`. -/
def findSeparator (text : Text) (start : Nat) : Option Nat :=
  ((text.drop start).findIdx? (· = '|')).map (start + ·)

/-- `substr`. -/
def substr (text : Text) (start count : Nat) : Text :=
  (text.drop start).take count

/-- `parse_benchmark_payload`, with its searches and offsets. -/
def parseBenchmarkPayloadAt (payload : Text) :
    Option BenchmarkMessageMetadata :=
  let first := findSeparator payload 0
  let second := first.bind fun first => findSeparator payload (first + 1)
  let third := second.bind fun second => findSeparator payload (second + 1)
  match first, second, third with
  | some first, some second, some third =>
      if first = 0 then
        none
      else do
        let runId := substr payload 0 first
        let sequenceText := substr payload (first + 1) (second - first - 1)
        let timestampText := substr payload (second + 1) (third - second - 1)
        let sequence ← parseUnsigned sequenceText
        let sendNs ← parseUnsigned timestampText
        return { runId, sequence, sendNs := UInt64.ofNat sendNs }
  | _, _, _ => none

/-! ## One separator -/

theorem cutAtSeparator_eq_some_iff {text front behind : Text} :
    cutAtSeparator text = some (front, behind) ↔
      text = front ++ '|' :: behind ∧ '|' ∉ front := by
  constructor
  · intro cut
    have whole : text.takeWhile (· ≠ '|') ++ text.dropWhile (· ≠ '|') = text :=
      List.takeWhile_append_dropWhile
    unfold cutAtSeparator at cut
    split at cut
    · cases cut
    · rename_i char rest found
      obtain ⟨rfl, rfl⟩ := Prod.mk.inj (Option.some.inj cut)
      have stop : char = '|' := by
        have head := List.head?_dropWhile_not (fun c => decide (c ≠ '|')) text
        rw [found] at head
        simpa using head
      rw [found, stop] at whole
      refine ⟨whole.symm, fun member => ?_⟩
      have passed := List.mem_takeWhile_imp member
      exact of_decide_eq_true passed rfl
  · rintro ⟨rfl, free⟩
    exact cutAtSeparator_append free behind

theorem cutAtSeparator_eq_none_iff {text : Text} :
    cutAtSeparator text = none ↔ '|' ∉ text := by
  constructor
  · intro uncut member
    obtain ⟨front, behind, rfl, free⟩ := List.eq_append_cons_of_mem member
    rw [cutAtSeparator_append free] at uncut
    cases uncut
  · intro free
    cases cut : cutAtSeparator text with
    | none =>
        rfl
    | some parts =>
        obtain ⟨front, behind⟩ := parts
        obtain ⟨rfl, _⟩ := cutAtSeparator_eq_some_iff.mp cut
        exact absurd (by simp) free

/-- A search from an offset on finds the place where the rest is cut. -/
theorem findSeparator_append
    {payload before text : Text} (split : payload = before ++ text)
    {start : Nat} (here : before.length = start) :
    findSeparator payload start =
      (cutAtSeparator text).map fun parts => start + parts.1.length := by
  subst split here
  rw [findSeparator, List.drop_append_length]
  cases cut : cutAtSeparator text with
  | none =>
      have free := cutAtSeparator_eq_none_iff.mp cut
      have unfound : text.findIdx? (· = '|') = none :=
        List.findIdx?_eq_none_iff.mpr fun char member =>
          decide_eq_false fun same => free (same ▸ member)
      rw [unfound]
      rfl
  | some parts =>
      obtain ⟨front, behind⟩ := parts
      obtain ⟨rfl, free⟩ := cutAtSeparator_eq_some_iff.mp cut
      have found :
          (front ++ '|' :: behind).findIdx? (· = '|') = some front.length := by
        rw [List.findIdx?_append, List.findIdx?_eq_none_iff.mpr]
        · rw [List.findIdx?_cons, if_pos (by decide)]
          simp
        · exact fun char member =>
            decide_eq_false fun same => free (same ▸ member)
      rw [found]
      rfl

/-! ## Three separators -/

theorem substr_append
    {payload before text behind : Text}
    (split : payload = before ++ (text ++ behind))
    {start count : Nat} (here : before.length = start)
    (length : text.length = count) :
    substr payload start count = text := by
  subst split here length
  rw [substr, List.drop_append_length, List.take_append_length]

/-- What is cut off the rest is found and read by its offset, and the search for
the next separator starts behind it. -/
theorem field_of_cutAtSeparator
    {payload before text front behind : Text} {start : Nat}
    (split : payload = before ++ text) (here : before.length = start)
    (cut : cutAtSeparator text = some (front, behind)) :
    findSeparator payload start = some (start + front.length) ∧
      substr payload start front.length = front ∧
      ∃ next, payload = next ++ behind ∧
        next.length = start + front.length + 1 := by
  have found := findSeparator_append split here
  rw [cut, Option.map_some] at found
  obtain ⟨shape, _⟩ := cutAtSeparator_eq_some_iff.mp cut
  rw [shape] at split
  refine ⟨found, substr_append split here rfl, before ++ front ++ ['|'], ?_, ?_⟩
  · rw [split, List.append_assoc, List.append_assoc, List.singleton_append]
  · rw [List.length_append, List.length_append, here, List.length_singleton]

/-- The offsets lead to the texts that cutting yields. -/
theorem parseBenchmarkPayloadAt_eq (payload : Text) :
    parseBenchmarkPayloadAt payload = parseBenchmarkPayload payload := by
  have atStart : payload = [] ++ payload := rfl
  unfold parseBenchmarkPayloadAt parseBenchmarkPayload
  cases firstCut : cutAtSeparator payload with
  | none =>
      have searchFirst := findSeparator_append atStart List.length_nil
      simp [firstCut, searchFirst]
  | some parts =>
      obtain ⟨runId, behindFirst⟩ := parts
      obtain ⟨searchFirst, readRunId, _, behindOne, one⟩ :=
        field_of_cutAtSeparator atStart List.length_nil firstCut
      rw [Nat.zero_add] at searchFirst one
      cases secondCut : cutAtSeparator behindFirst with
      | none =>
          have searchSecond := findSeparator_append behindOne one
          simp [searchFirst, secondCut, searchSecond]
      | some parts =>
          obtain ⟨sequenceText, behindSecond⟩ := parts
          obtain ⟨searchSecond, readSequence, _, behindTwo, two⟩ :=
            field_of_cutAtSeparator behindOne one secondCut
          cases thirdCut : cutAtSeparator behindSecond with
          | none =>
              have searchThird := findSeparator_append behindTwo two
              simp [searchFirst, secondCut, searchSecond, thirdCut,
                searchThird]
          | some parts =>
              obtain ⟨timestampText, padding⟩ := parts
              obtain ⟨searchThird, readTimestamp, _⟩ :=
                field_of_cutAtSeparator behindTwo two thirdCut
              have secondLength :
                  runId.length + 1 + sequenceText.length - runId.length - 1 =
                    sequenceText.length := by
                omega
              have thirdLength :
                  runId.length + 1 + sequenceText.length + 1 +
                        timestampText.length -
                      (runId.length + 1 + sequenceText.length) - 1 =
                    timestampText.length := by
                omega
              simp only [searchFirst, secondCut, searchSecond, thirdCut,
                searchThird, Option.bind_some, Option.bind_eq_bind,
                secondLength, thirdLength, readRunId, readSequence,
                readTimestamp, List.length_eq_zero_iff]

/-! ## What is accepted -/

/-- A number is read from the decimal numerals of 64 bits and nothing else. -/
theorem parseUnsigned_eq_some_iff {text : Text} {number : Nat} :
    parseUnsigned text = some number ↔
      IsDecimal text ∧ digitsValue text = number ∧ number < 2 ^ 64 := by
  constructor
  · intro parsed
    unfold parseUnsigned fromChars at parsed
    dsimp only at parsed
    split at parsed
    · cases parsed
    · split at parsed
      · rename_i value read
        cases parsed
        split at read
        · cases read
        · rename_i good
          obtain ⟨rfl, nothing⟩ := Prod.mk.inj (Option.some.inj read)
          have digits := List.dropWhile_eq_nil_iff.mp nothing
          have same : text.takeWhile Char.isDigit = text :=
            List.takeWhile_eq_self_iff.mpr digits
          rw [same] at good ⊢
          exact ⟨⟨fun empty => good (Or.inl empty), digits⟩, rfl,
            Nat.lt_of_not_le fun large => good (Or.inr large)⟩
      · cases parsed
  · rintro ⟨digits, rfl, word⟩
    have read : fromChars text = some (digitsValue text, []) := by
      rw [fromChars, takeWhile_isDecimal digits, dropWhile_isDecimal digits]
      exact if_neg (not_or.mpr ⟨digits.1, Nat.not_le.mpr word⟩)
    rw [parseUnsigned, if_neg digits.1, read]

/-- The payload begins with the metadata: the id of the run and two decimal
numerals, each with a separator behind it. -/
def BeginsWith (payload : Text) (metadata : BenchmarkMessageMetadata) : Prop :=
  (metadata.runId ≠ [] ∧ '|' ∉ metadata.runId) ∧
    ∃ sequenceText timestampText padding,
      payload =
          metadata.runId ++ '|' :: (sequenceText ++ '|' ::
            (timestampText ++ '|' :: padding)) ∧
        (IsDecimal sequenceText ∧
          digitsValue sequenceText = metadata.sequence) ∧
        (IsDecimal timestampText ∧
          digitsValue timestampText = metadata.sendNs.toNat) ∧
        metadata.sequence < 2 ^ 64

theorem beginsWith_of_parseBenchmarkPayload
    {payload : Text} {metadata : BenchmarkMessageMetadata}
    (parsed : parseBenchmarkPayload payload = some metadata) :
    BeginsWith payload metadata := by
  simp only [parseBenchmarkPayload, Option.bind_eq_bind,
    Option.bind_eq_some_iff] at parsed
  obtain ⟨⟨runId, behindFirst⟩, firstCut, ⟨sequenceText, behindSecond⟩,
    secondCut, ⟨timestampText, padding⟩, thirdCut, accepted⟩ := parsed
  obtain ⟨rfl, free⟩ := cutAtSeparator_eq_some_iff.mp firstCut
  obtain ⟨rfl, _⟩ := cutAtSeparator_eq_some_iff.mp secondCut
  obtain ⟨rfl, _⟩ := cutAtSeparator_eq_some_iff.mp thirdCut
  split at accepted
  · cases accepted
  · rename_i named
    obtain ⟨sequence, readSequence, sendNs, readSendNs, result⟩ := by
      simpa only [Option.bind_eq_some_iff] using accepted
    cases result
    obtain ⟨sequenceDigits, sequenceValue, sequenceWord⟩ :=
      parseUnsigned_eq_some_iff.mp readSequence
    obtain ⟨timeDigits, timeValue, timeWord⟩ :=
      parseUnsigned_eq_some_iff.mp readSendNs
    have sameTime : (UInt64.ofNat sendNs).toNat = sendNs :=
      UInt64.toNat_ofNat_of_lt' timeWord
    exact ⟨⟨named, free⟩, sequenceText, timestampText, padding, rfl,
      ⟨sequenceDigits, sequenceValue⟩,
      ⟨timeDigits, timeValue.trans sameTime.symm⟩, sequenceWord⟩

/-- Reading a payload is the converse of making one, and what is read is what
the text begins with. -/
theorem benchmarkPayload_roundTrip :
    (∀ (runId : Text) (sequence sendNs : UInt64) (payloadBytes : Nat),
      runId ≠ [] → '|' ∉ runId →
        parseBenchmarkPayloadAt
            (makeBenchmarkPayload runId sequence.toNat sendNs.toNat
              payloadBytes) =
          some { runId, sequence := sequence.toNat, sendNs } ∧
        (makeBenchmarkPayload runId sequence.toNat sendNs.toNat
            payloadBytes).length =
          max payloadBytes
            (payloadHeader runId sequence.toNat sendNs.toNat).length) ∧
      ∀ payload metadata, parseBenchmarkPayloadAt payload = some metadata →
        BeginsWith payload metadata := by
  constructor
  · intro runId sequence sendNs payloadBytes named free
    rw [parseBenchmarkPayloadAt_eq]
    exact ⟨parseBenchmarkPayload_makeBenchmarkPayload named free
        sequence.toNat_lt sendNs payloadBytes,
      length_makeBenchmarkPayload _ _ _ _⟩
  · intro payload metadata parsed
    rw [parseBenchmarkPayloadAt_eq] at parsed
    exact beginsWith_of_parseBenchmarkPayload parsed

theorem benchmarkPayload_roundTrip_padded :
    parseBenchmarkPayloadAt (makeBenchmarkPayload ['r'] 7 5 9) =
        some ⟨['r'], 7, 5⟩ ∧
      BeginsWith (makeBenchmarkPayload ['r'] 7 5 9) ⟨['r'], 7, 5⟩ := by
  have read := (benchmarkPayload_roundTrip.1 ['r'] 7 5 9 (by decide)
    (by decide)).1
  exact ⟨read, benchmarkPayload_roundTrip.2 _ _ read⟩

end MiniMiddleware.Bench
