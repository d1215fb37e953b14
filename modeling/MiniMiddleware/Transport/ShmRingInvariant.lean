import MiniMiddleware.Transport.ShmRing
import Mathlib.Data.Nat.ModEq
import Mathlib.Tactic

/-!
# The invariant of the shared-memory ring

The invariant ties three things together: the payloads claimed so far, the
window of the last `slot_count` positions and what each of their slots holds,
and, for every reader inside `read`, what its private copy says about a slot
whose sequence number has not moved.

All arithmetic on sequence numbers stays below the writing bit as long as
fewer than `2 ^ 63` messages have been written.
-/

namespace MiniMiddleware.Transport

open MiniMiddleware.Library

/-! ## Words -/

theorem kWritingBit_eq : kWritingBit = 2 ^ 63 := by
  decide

theorem kPositionMask_eq : kPositionMask = 2 ^ 63 - 1 := by
  decide

theorem or_kWritingBit {pos : Nat} (small : pos < 2 ^ 63) :
    pos ||| kWritingBit = pos + 2 ^ 63 := by
  rw [kWritingBit_eq, Nat.or_comm]
  have split := Nat.two_pow_add_eq_or_of_lt small 1
  rw [Nat.mul_one] at split
  rw [← split, Nat.add_comm]

theorem and_kPositionMask (word : Nat) :
    word &&& kPositionMask = word % 2 ^ 63 := by
  rw [kPositionMask_eq, Nat.and_two_pow_sub_one_eq_mod]

theorem and_kWritingBit_add {word : Nat} (small : word < 2 ^ 63) :
    (word + 2 ^ 63) &&& kWritingBit ≠ 0 := by
  rw [kWritingBit_eq, Nat.and_two_pow, Nat.add_comm,
    Nat.testBit_two_pow_add_eq, Nat.testBit_lt_two_pow small]
  decide

theorem and_kWritingBit_of_small {word : Nat} (small : word < 2 ^ 63) :
    word &&& kWritingBit = 0 := by
  rw [kWritingBit_eq, Nat.and_two_pow, Nat.testBit_lt_two_pow small]
  rfl

namespace RingConfig

variable (config : RingConfig)

/-- The view every party of the ring holds. -/
def view : ShmRing :=
  ⟨config.slotCount, config.slotSize⟩

theorem slotCount_pos : 0 < config.slotCount := by
  obtain ⟨exponent, _, equality⟩ := config.powerOfTwo
  rw [equality]
  exact Nat.two_pow_pos exponent

/-- For a power-of-two count the masked index is the remainder. -/
@[simp]
theorem slotIndex_view (pos : Nat) :
    config.view.slotIndex pos = pos % config.slotCount := by
  obtain ⟨exponent, small, equality⟩ := config.powerOfTwo
  have divides : config.slotCount ∣ 2 ^ 32 := by
    rw [equality]
    exact Nat.pow_dvd_pow 2 (by omega)
  calc
    config.view.slotIndex pos =
        pos % 2 ^ 32 &&& (2 ^ exponent - 1) := by
      simp [view, ShmRing.slotIndex, equality]
    _ = pos % 2 ^ 32 % config.slotCount := by
      rw [Nat.and_two_pow_sub_one_eq_mod, equality]
    _ = pos % config.slotCount :=
      Nat.mod_mod_of_dvd pos divides

end RingConfig

/-- Two positions that share a slot are at least one lap apart. -/
theorem lap_of_mod_eq {slotCount earlier later : Nat}
    (same : earlier % slotCount = later % slotCount)
    (order : earlier < later) :
    earlier + slotCount ≤ later := by
  have divides : slotCount ∣ later - earlier :=
    (Nat.modEq_iff_dvd' order.le).mp same
  have bound := Nat.le_of_dvd (by omega) divides
  omega

/-! ## The writer's half -/

/-- `memory` and `changed` differ in one slot at most. -/
structure ChangedAt (memory changed : RingMemory) (index : Nat) : Prop where
  magic : changed.magic = memory.magic
  slotCount : changed.slotCount = memory.slotCount
  slotSize : changed.slotSize = memory.slotSize
  writeSeq : changed.writeSeq = memory.writeSeq
  others :
    ∀ other, other ≠ index → changed.slots other = memory.slots other

namespace ChangedAt

theorem storeSeq (memory : RingMemory) (index seq : Nat) :
    ChangedAt memory (memory.storeSeq index seq) index :=
  ⟨rfl, rfl, rfl, rfl, fun _ notSelf => Function.update_of_ne notSelf _ _⟩

theorem storeLen (memory : RingMemory) (index len : Nat) :
    ChangedAt memory (memory.storeLen index len) index :=
  ⟨rfl, rfl, rfl, rfl, fun _ notSelf => Function.update_of_ne notSelf _ _⟩

theorem storeByte (memory : RingMemory) (index offset : Nat) (byte : UInt8) :
    ChangedAt memory (memory.storeByte index offset byte) index :=
  ⟨rfl, rfl, rfl, rfl, fun _ notSelf => Function.update_of_ne notSelf _ _⟩

end ChangedAt

/-- The message a `write` in progress has claimed a position for. -/
def WriterPc.claim? : WriterPc → Option (Nat × Bytes)
  | .idle => none
  | .claimed pos data => some (pos, data)
  | .marked pos data => some (pos, data)
  | .copying pos data _ => some (pos, data)

/-- How many of `total` claimed positions have reached their slot's `seq`. -/
def WriterPc.markedCount (total : Nat) : WriterPc → Nat
  | .claimed _ _ => total - 1
  | _ => total

/-- How many of `total` claimed positions have been published. -/
def WriterPc.publishedCount (total : Nat) : WriterPc → Nat
  | .idle => total
  | _ => total - 1

theorem WriterPc.publishedCount_le_markedCount
    (writer : WriterPc) (total : Nat) :
    writer.publishedCount total ≤ writer.markedCount total := by
  cases writer <;> simp [publishedCount, markedCount]

theorem WriterPc.markedCount_le (writer : WriterPc) (total : Nat) :
    writer.markedCount total ≤ total := by
  cases writer <;> simp [markedCount]

/-- A published slot: its number and its whole payload. -/
structure SlotReady (slot : Slot) (pos : Nat) (payload : Bytes) : Prop where
  seq : slot.seq = pos
  payload : slot.payload = payload

/-- What the header and the slots say about the payloads claimed so far. -/
structure WriterInvariant (config : RingConfig) (memory : RingMemory)
    (writer : WriterPc) (payloads : List Bytes) : Prop where
  header :
    memory.magic = kMagic ∧
      memory.slotCount = config.slotCount ∧
        memory.slotSize = config.slotSize
  writeSeq : memory.writeSeq = payloads.length
  claim :
    ∀ pos data, writer.claim? = some (pos, data) →
      payloads.length = pos + 1 ∧ payloads[pos]? = some data
  fits : ∀ payload ∈ payloads, payload.length ≤ config.slotSize
  untouched :
    ∀ index, index < config.slotCount →
      writer.markedCount payloads.length ≤ index →
      (memory.slots index).seq = kWritingBit
  ready :
    ∀ pos payload, payloads[pos]? = some payload →
      pos < writer.publishedCount payloads.length →
      writer.markedCount payloads.length ≤ pos + config.slotCount →
      SlotReady (memory.slots (pos % config.slotCount)) pos payload
  writing :
    ∀ pos data, writer.claim? = some (pos, data) →
      pos < writer.markedCount payloads.length →
      (memory.slots (pos % config.slotCount)).seq = pos + 2 ^ 63
  copied :
    ∀ pos data count, writer = .copying pos data count →
      count ≤ data.length ∧
        (memory.slots (pos % config.slotCount)).len = data.length ∧
        ∀ offset, offset < count →
          data[offset]? =
            some ((memory.slots (pos % config.slotCount)).data offset)
  lenBound :
    ∀ index, index < config.slotCount →
      (memory.slots index).len ≤ config.slotSize

/-- What one slot can hold, seen from the positions that map to it. -/
inductive SlotContent (config : RingConfig) (memory : RingMemory)
    (writer : WriterPc) (payloads : List Bytes) (index : Nat) : Prop
  | empty :
      writer.markedCount payloads.length ≤ index →
      (memory.slots index).seq = kWritingBit →
      SlotContent config memory writer payloads index
  | ready (pos : Nat) (payload : Bytes) :
      pos % config.slotCount = index →
      pos < writer.publishedCount payloads.length →
      writer.markedCount payloads.length ≤ pos + config.slotCount →
      payloads[pos]? = some payload →
      SlotReady (memory.slots index) pos payload →
      SlotContent config memory writer payloads index
  | writing (pos : Nat) (data : Bytes) :
      pos % config.slotCount = index →
      pos + 1 = writer.markedCount payloads.length →
      writer.claim? = some (pos, data) →
      (memory.slots index).seq = pos + 2 ^ 63 →
      SlotContent config memory writer payloads index

/-- The last of `count` positions that maps to a slot already reached. -/
private theorem exists_last_position
    {slotCount count index : Nat}
    (inRange : index < slotCount) (reached : index < count) :
    ∃ pos, pos % slotCount = index ∧ pos < count ∧ count ≤ pos + slotCount := by
  refine ⟨index + slotCount * ((count - 1 - index) / slotCount), ?_, ?_, ?_⟩
  · rw [Nat.add_mul_mod_self_left, Nat.mod_eq_of_lt inRange]
  · have bound := Nat.mul_div_le (count - 1 - index) slotCount
    omega
  · have bound :=
      Nat.lt_mul_div_succ (count - 1 - index)
        (show 0 < slotCount by omega)
    rw [Nat.mul_add, Nat.mul_one] at bound
    omega

namespace WriterInvariant

variable {config : RingConfig} {memory : RingMemory} {writer : WriterPc}
  {payloads : List Bytes}

/-- Every slot is empty, published or being written. -/
theorem slotContent
    (invariant : WriterInvariant config memory writer payloads)
    {index : Nat} (inRange : index < config.slotCount) :
    SlotContent config memory writer payloads index := by
  by_cases reached : index < writer.markedCount payloads.length
  · obtain ⟨pos, same, marked, window⟩ :=
      exists_last_position inRange reached
    have inPayloads : pos < payloads.length :=
      Nat.lt_of_lt_of_le marked (writer.markedCount_le _)
    by_cases published : pos < writer.publishedCount payloads.length
    · have found : payloads[pos]? = some payloads[pos] :=
        List.getElem?_eq_getElem inPayloads
      exact SlotContent.ready pos payloads[pos] same published window found
        (same ▸ invariant.ready pos _ found published window)
    · cases shape : writer.claim? with
      | none =>
          cases writer <;>
            simp_all [WriterPc.claim?, WriterPc.publishedCount,
              WriterPc.markedCount]
      | some claim =>
          obtain ⟨claimedPos, data⟩ := claim
          have last := (invariant.claim claimedPos data shape).1
          have isClaim : pos = claimedPos := by
            cases writer <;>
              simp_all [WriterPc.claim?, WriterPc.publishedCount,
                WriterPc.markedCount] <;> omega
          have count : pos + 1 = writer.markedCount payloads.length := by
            have upper := writer.markedCount_le payloads.length
            omega
          subst isClaim
          exact SlotContent.writing pos data same count shape
            (same ▸ invariant.writing pos data shape marked)
  · exact SlotContent.empty (by omega)
      (invariant.untouched index inRange (by omega))

/-- A slot whose number is a plain position holds that position's payload. -/
theorem ready_of_seq_eq
    (invariant : WriterInvariant config memory writer payloads)
    {index pos : Nat} (inRange : index < config.slotCount)
    (small : pos < 2 ^ 63)
    (seqEq : (memory.slots index).seq = pos) :
    pos < writer.publishedCount payloads.length ∧
      payloads[pos]? = some (memory.slots index).payload := by
  cases invariant.slotContent inRange with
  | empty _ sentinel =>
      rw [sentinel, kWritingBit_eq] at seqEq
      omega
  | ready held payload _ published _ found slotReady =>
      have same : held = pos := slotReady.seq.symm.trans seqEq
      subst same
      exact ⟨published, by rw [found, slotReady.payload]⟩
  | writing held _ _ _ _ mark =>
      rw [mark] at seqEq
      omega

/-- A published position still in the window does not share its slot with
the position being written. -/
private theorem mod_ne_of_window
    {pos claimed : Nat} (earlier : pos < claimed)
    (window : claimed + 1 ≤ pos + config.slotCount) :
    pos % config.slotCount ≠ claimed % config.slotCount := by
  intro same
  have lap := lap_of_mod_eq same earlier
  omega

theorem beginWrite
    (invariant : WriterInvariant config memory .idle payloads)
    {data : Bytes} (few : payloads.length + 1 < 2 ^ 63)
    (small : data.length ≤ config.slotSize) :
    WriterInvariant config memory.fetchAdd.2
      (.claimed payloads.length data) (payloads ++ [data]) where
  header := invariant.header
  writeSeq := by
    simp only [RingMemory.fetchAdd, invariant.writeSeq, List.length_append,
      List.length_singleton]
    omega
  claim := by
    intro pos claimed shape
    simp only [WriterPc.claim?, Option.some.injEq, Prod.mk.injEq] at shape
    obtain ⟨rfl, rfl⟩ := shape
    simp
  fits := by
    intro payload member
    rcases List.mem_append.mp member with earlier | last
    · exact invariant.fits payload earlier
    · rw [List.mem_singleton.mp last]
      exact small
  untouched := by
    intro index inRange reached
    apply invariant.untouched index inRange
    simpa [WriterPc.markedCount] using reached
  ready := by
    intro pos payload found published window
    simp only [WriterPc.publishedCount, WriterPc.markedCount,
      List.length_append, List.length_singleton,
      Nat.add_sub_cancel] at published window
    rw [List.getElem?_append_left published] at found
    exact invariant.ready pos payload found published window
  writing := by
    intro pos claimed shape marked
    simp only [WriterPc.claim?, Option.some.injEq, Prod.mk.injEq] at shape
    obtain ⟨rfl, rfl⟩ := shape
    simp [WriterPc.markedCount] at marked
  copied := by
    intro pos claimed count shape
    cases shape
  lenBound := invariant.lenBound

/-- The rule for the stores of a `write` in progress: they change the slot of
the claimed position only, so the rest of the invariant carries over. -/
private theorem advance
    {changed : RingMemory} {moved : WriterPc} {pos : Nat} {data : Bytes}
    (invariant : WriterInvariant config memory writer payloads)
    (claim : writer.claim? = some (pos, data))
    (changedAt : ChangedAt memory changed (pos % config.slotCount))
    (sameClaim :
      ∀ other, moved.claim? = some other → other = (pos, data))
    (marked : moved.markedCount payloads.length = payloads.length)
    (published :
      moved.publishedCount payloads.length ≤ pos ∨
        SlotReady (changed.slots (pos % config.slotCount)) pos data)
    (writing :
      moved.claim? ≠ none →
        (changed.slots (pos % config.slotCount)).seq = pos + 2 ^ 63)
    (copied :
      ∀ other payload count, moved = .copying other payload count →
        count ≤ data.length ∧
          (changed.slots (pos % config.slotCount)).len = data.length ∧
          ∀ offset, offset < count →
            data[offset]? =
              some ((changed.slots (pos % config.slotCount)).data offset))
    (len :
      (changed.slots (pos % config.slotCount)).len ≤ config.slotSize) :
    WriterInvariant config changed moved payloads := by
  obtain ⟨total, claimed⟩ := invariant.claim pos data claim
  have upper := writer.markedCount_le payloads.length
  refine
    { header := by
        rw [changedAt.magic, changedAt.slotCount, changedAt.slotSize]
        exact invariant.header
      writeSeq := changedAt.writeSeq.trans invariant.writeSeq
      claim := ?_
      fits := invariant.fits
      untouched := ?_
      ready := ?_
      writing := ?_
      copied := ?_
      lenBound := ?_ }
  · intro other payload shape
    obtain ⟨rfl, rfl⟩ := Prod.mk.inj (sameClaim _ shape)
    exact ⟨total, claimed⟩
  · intro index inRange reached
    have notSelf : index ≠ pos % config.slotCount := by
      rw [Nat.mod_eq_of_lt (by omega)]
      omega
    rw [changedAt.others index notSelf]
    exact invariant.untouched index inRange (by omega)
  · intro other payload found isPublished window
    have inPayloads : other < payloads.length := by
      by_contra beyond
      rw [List.getElem?_eq_none (by omega)] at found
      cases found
    rcases Nat.lt_or_ge other pos with earlier | last
    · rw [changedAt.others _
        (mod_ne_of_window earlier (by omega))]
      apply invariant.ready other payload found _ (by omega)
      cases writer with
      | idle => cases claim
      | claimed | marked | copying =>
          simp only [WriterPc.publishedCount]
          omega
    · obtain rfl : other = pos := by omega
      rcases published with below | slotReady
      · omega
      · rw [claimed] at found
        cases found
        exact slotReady
  · intro other payload shape _
    obtain ⟨rfl, rfl⟩ := Prod.mk.inj (sameClaim _ shape)
    exact writing (by rw [shape]; simp)
  · intro other payload count shape
    obtain ⟨rfl, rfl⟩ :=
      Prod.mk.inj (sameClaim (other, payload) (by rw [shape]; rfl))
    exact copied other payload count shape
  · intro index inRange
    by_cases isSelf : index = pos % config.slotCount
    · rw [isSelf]
      exact len
    · rw [changedAt.others index isSelf]
      exact invariant.lenBound index inRange

theorem writerStep
    {moved : WriterPc} {changed : RingMemory}
    (invariant : WriterInvariant config memory writer payloads)
    (few : payloads.length < 2 ^ 63)
    (stepped :
      Transport.writerStep config.view memory writer =
        some (moved, changed)) :
    WriterInvariant config changed moved payloads := by
  cases writer with
  | idle =>
      cases stepped
  | claimed pos data =>
      obtain ⟨total, _⟩ := invariant.claim pos data rfl
      simp only [Transport.writerStep, RingConfig.slotIndex_view,
        Option.some.injEq, Prod.mk.injEq] at stepped
      obtain ⟨rfl, rfl⟩ := stepped
      apply invariant.advance rfl (ChangedAt.storeSeq _ _ _)
      · simp [WriterPc.claim?]
      · rfl
      · left
        simp [WriterPc.publishedCount, total]
      · intro _
        simpa [RingMemory.storeSeq] using
          or_kWritingBit (show pos < 2 ^ 63 by omega)
      · simp
      · simpa [RingMemory.storeSeq] using
          invariant.lenBound _ (Nat.mod_lt pos config.slotCount_pos)
  | marked pos data =>
      obtain ⟨total, claimed⟩ := invariant.claim pos data rfl
      simp only [Transport.writerStep, RingConfig.slotIndex_view,
        Option.some.injEq, Prod.mk.injEq] at stepped
      obtain ⟨rfl, rfl⟩ := stepped
      apply invariant.advance rfl (ChangedAt.storeLen _ _ _)
      · simp [WriterPc.claim?]
      · rfl
      · left
        simp [WriterPc.publishedCount, total]
      · intro _
        simpa [RingMemory.storeLen] using
          invariant.writing pos data rfl (by simp [WriterPc.markedCount, total])
      · intro other payload count shape
        cases shape
        simp [RingMemory.storeLen]
      · simpa [RingMemory.storeLen] using
          invariant.fits data (List.mem_of_getElem? claimed)
  | copying pos data count =>
      obtain ⟨total, claimed⟩ := invariant.claim pos data rfl
      obtain ⟨bound, len, bytes⟩ := invariant.copied pos data count rfl
      have mark :=
        invariant.writing pos data rfl (by simp [WriterPc.markedCount, total])
      simp only [Transport.writerStep, RingConfig.slotIndex_view] at stepped
      split at stepped
      · rename_i byte found
        simp only [Option.some.injEq, Prod.mk.injEq] at stepped
        obtain ⟨rfl, rfl⟩ := stepped
        have inData : count < data.length := by
          by_contra beyond
          rw [List.getElem?_eq_none (by omega)] at found
          cases found
        apply invariant.advance rfl (ChangedAt.storeByte _ _ _ _)
        · simp [WriterPc.claim?]
        · rfl
        · left
          simp [WriterPc.publishedCount, total]
        · intro _
          simpa [RingMemory.storeByte] using mark
        · intro other payload more shape
          cases shape
          refine ⟨inData, by simpa [RingMemory.storeByte] using len, ?_⟩
          intro offset below
          by_cases isLast : offset = count
          · subst isLast
            simpa [RingMemory.storeByte] using found
          · simpa [RingMemory.storeByte, Function.update_of_ne isLast] using
              bytes offset (by omega)
        · simpa [RingMemory.storeByte] using
            invariant.lenBound _ (Nat.mod_lt pos config.slotCount_pos)
      · rename_i finished
        simp only [Option.some.injEq, Prod.mk.injEq] at stepped
        obtain ⟨rfl, rfl⟩ := stepped
        have complete : count = data.length := by
          have beyond := List.getElem?_eq_none_iff.mp finished
          omega
        apply invariant.advance rfl (ChangedAt.storeSeq _ _ _)
        · simp [WriterPc.claim?]
        · rfl
        · right
          refine ⟨by simp [RingMemory.storeSeq], ?_⟩
          -- All bytes have been copied, so the slot's payload is the message.
          apply List.ext_getElem?
          intro offset
          simp only [RingMemory.storeSeq, Function.update_self, Slot.payload,
            List.getElem?_map, len]
          rcases Nat.lt_or_ge offset data.length with inside | outside
          · rw [List.getElem?_range inside, bytes offset (by omega)]
            rfl
          · rw [List.getElem?_eq_none (by simpa using outside),
              List.getElem?_eq_none (by simpa using outside)]
            rfl
        · simp [WriterPc.claim?]
        · simp
        · simpa [RingMemory.storeSeq] using
            invariant.lenBound _ (Nat.mod_lt pos config.slotCount_pos)

end WriterInvariant

end MiniMiddleware.Transport
