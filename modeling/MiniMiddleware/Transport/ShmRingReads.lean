import MiniMiddleware.Transport.ShmRingInvariant

/-!
# What readers of the ring receive

Three results about every interleaving of one writer with any number of
readers: a message that is delivered is the message written at that position;
a position is counted as dropped only once it can be overwritten, except when
the reader looks at a slot between the writer's `fetch_add` and its first
store; and cursor, deliveries and drops always add up.
-/

namespace MiniMiddleware.Transport

open MiniMiddleware.Library

@[simp]
theorem writtenPayloads_append (earlier later : List RingEvent) :
    writtenPayloads (earlier ++ later) =
      writtenPayloads earlier ++ writtenPayloads later :=
  List.filterMap_append

@[simp]
theorem receivedPositions_append
    (id : Nat) (earlier later : List RingEvent) :
    receivedPositions id (earlier ++ later) =
      receivedPositions id earlier ++ receivedPositions id later :=
  List.filterMap_append

@[simp]
theorem writtenPayloads_readerStep
    (id : Nat) (memory : RingMemory) (reader : ShmRingReader) :
    writtenPayloads (readerStep id memory reader).2 = [] := by
  unfold readerStep writtenPayloads
  cases reader.pc with
  | idle => rfl
  | loadWriteSeq => dsimp only; split_ifs <;> simp
  | loadSeq => dsimp only; split_ifs <;> rfl
  | loadLen => dsimp only; split_ifs <;> rfl
  | copying len copied => dsimp only; split_ifs <;> rfl

/-! ## The readers' half of the invariant -/

/-- A reader past its first load of `seq` looks at a published position; while
that slot keeps its number, the reader's copy agrees with the slot. -/
structure ReaderInvariant (config : RingConfig) (memory : RingMemory)
    (writer : WriterPc) (payloads : List Bytes) (reader : ShmRingReader) :
    Prop where
  ring : reader.ring = config.view
  seen :
    reader.pc = .loadLen ∨ (∃ len copied, reader.pc = .copying len copied) →
      reader.next < writer.publishedCount payloads.length
  copied :
    ∀ len count, reader.pc = .copying len count →
      (memory.slots (reader.next % config.slotCount)).seq = reader.next →
      count ≤ len ∧
        (memory.slots (reader.next % config.slotCount)).len = len ∧
        reader.out =
          (List.range count).map
            (memory.slots (reader.next % config.slotCount)).data

/-- A store by the writer leaves a published slot alone or changes its
number, and unpublishes nothing. -/
theorem WriterInvariant.writerStep_slot
    {config : RingConfig} {memory changed : RingMemory}
    {writer moved : WriterPc} {payloads : List Bytes}
    (invariant : WriterInvariant config memory writer payloads)
    (few : payloads.length < 2 ^ 63)
    (stepped :
      Transport.writerStep config.view memory writer = some (moved, changed))
    {next : Nat}
    (published : next < writer.publishedCount payloads.length) :
    next < moved.publishedCount payloads.length ∧
      (changed.slots (next % config.slotCount) =
          memory.slots (next % config.slotCount) ∨
        (changed.slots (next % config.slotCount)).seq ≠ next) := by
  have upper :=
    Nat.le_trans (writer.publishedCount_le_markedCount payloads.length)
      (writer.markedCount_le payloads.length)
  cases writer with
  | idle =>
      cases stepped
  | claimed pos data =>
      obtain ⟨total, _⟩ := invariant.claim pos data rfl
      simp only [Transport.writerStep, RingConfig.slotIndex_view,
        Option.some.injEq, Prod.mk.injEq] at stepped
      obtain ⟨rfl, rfl⟩ := stepped
      refine ⟨published, ?_⟩
      by_cases same : next % config.slotCount = pos % config.slotCount
      · right
        rw [same]
        simp only [RingMemory.storeSeq, Function.update_self,
          or_kWritingBit (show pos < 2 ^ 63 by omega)]
        omega
      · left
        exact (ChangedAt.storeSeq _ _ _).others _ same
  | marked pos data =>
      obtain ⟨total, _⟩ := invariant.claim pos data rfl
      simp only [Transport.writerStep, RingConfig.slotIndex_view,
        Option.some.injEq, Prod.mk.injEq] at stepped
      obtain ⟨rfl, rfl⟩ := stepped
      refine ⟨published, ?_⟩
      by_cases same : next % config.slotCount = pos % config.slotCount
      · right
        have mark :=
          invariant.writing pos data rfl (by simp [WriterPc.markedCount, total])
        rw [same]
        simp only [RingMemory.storeLen, Function.update_self, mark]
        omega
      · left
        exact (ChangedAt.storeLen _ _ _).others _ same
  | copying pos data count =>
      obtain ⟨total, _⟩ := invariant.claim pos data rfl
      simp only [Transport.writerStep, RingConfig.slotIndex_view] at stepped
      split at stepped
      · simp only [Option.some.injEq, Prod.mk.injEq] at stepped
        obtain ⟨rfl, rfl⟩ := stepped
        refine ⟨published, ?_⟩
        by_cases same : next % config.slotCount = pos % config.slotCount
        · right
          have mark :=
            invariant.writing pos data rfl
              (by simp [WriterPc.markedCount, total])
          rw [same]
          simp only [RingMemory.storeByte, Function.update_self, mark]
          omega
        · left
          exact (ChangedAt.storeByte _ _ _ _).others _ same
      · simp only [Option.some.injEq, Prod.mk.injEq] at stepped
        obtain ⟨rfl, rfl⟩ := stepped
        simp only [WriterPc.publishedCount] at published ⊢
        refine ⟨by omega, ?_⟩
        by_cases same : next % config.slotCount = pos % config.slotCount
        · right
          rw [same]
          simp only [RingMemory.storeSeq, Function.update_self]
          omega
        · left
          exact (ChangedAt.storeSeq _ _ _).others _ same

namespace ReaderInvariant

variable {config : RingConfig} {memory : RingMemory} {writer : WriterPc}
  {payloads : List Bytes} {reader : ShmRingReader}

theorem create :
    ReaderInvariant config memory writer payloads
      (ShmRingReader.create config.view memory) := by
  refine ⟨rfl, ?_, ?_⟩
  · rintro (shape | ⟨len, copied, shape⟩) <;> cases shape
  · intro len count shape
    cases shape

theorem beginWrite
    (invariant : ReaderInvariant config memory .idle payloads reader)
    (data : Bytes) :
    ReaderInvariant config memory.fetchAdd.2 (.claimed payloads.length data)
      (payloads ++ [data]) reader := by
  refine ⟨invariant.ring, ?_, invariant.copied⟩
  intro inside
  simpa [WriterPc.publishedCount] using invariant.seen inside

theorem writerStep
    {moved : WriterPc} {changed : RingMemory}
    (invariant : ReaderInvariant config memory writer payloads reader)
    (writerInvariant : WriterInvariant config memory writer payloads)
    (few : payloads.length < 2 ^ 63)
    (stepped :
      Transport.writerStep config.view memory writer =
        some (moved, changed)) :
    ReaderInvariant config changed moved payloads reader := by
  refine ⟨invariant.ring, ?_, ?_⟩
  · intro inside
    exact
      (writerInvariant.writerStep_slot few stepped
        (invariant.seen inside)).1
  · intro len count shape unchanged
    have published := invariant.seen (Or.inr ⟨len, count, shape⟩)
    rcases (writerInvariant.writerStep_slot few stepped published).2 with
      same | different
    · rw [same] at unchanged ⊢
      exact invariant.copied len count shape unchanged
    · exact absurd unchanged different

theorem readerStep
    (id : Nat)
    (invariant : ReaderInvariant config memory writer payloads reader)
    (writerInvariant : WriterInvariant config memory writer payloads)
    (few : payloads.length < 2 ^ 63) :
    ReaderInvariant config memory writer payloads
      (Transport.readerStep id memory reader).1 := by
  obtain ⟨ring, next, dropped, out, pc⟩ := reader
  obtain rfl : ring = config.view := invariant.ring
  have inRange := Nat.mod_lt next config.slotCount_pos
  -- A reader outside the window between the two loads of `seq` owes nothing.
  have outside :
      ∀ moved : ShmRingReader, moved.ring = config.view →
        moved.pc ≠ .loadLen → (∀ len count, moved.pc ≠ .copying len count) →
        ReaderInvariant config memory writer payloads moved := by
    intro moved sameRing notLen notCopying
    refine ⟨sameRing, ?_, ?_⟩
    · rintro (shape | ⟨len, count, shape⟩)
      · exact absurd shape notLen
      · exact absurd shape (notCopying len count)
    · intro len count shape
      exact absurd shape (notCopying len count)
  cases pc with
  | idle =>
      exact outside _ rfl (by simp [Transport.readerStep])
        (by simp [Transport.readerStep])
  | loadWriteSeq =>
      simp only [Transport.readerStep]
      split_ifs
      · exact outside _ rfl (by simp) (by simp)
      · exact outside _ rfl (by simp [ShmRingReader.fastForward])
          (by simp [ShmRingReader.fastForward])
      · exact outside _ rfl (by simp) (by simp)
  | loadSeq =>
      simp only [Transport.readerStep, RingConfig.slotIndex_view]
      split_ifs with mismatch writing
      · exact outside _ rfl (by simp [ShmRingReader.dropOne])
          (by simp [ShmRingReader.dropOne])
      · exact outside _ rfl (by simp) (by simp)
      · refine ⟨rfl, ?_, by simp⟩
        intro _
        rw [and_kPositionMask] at mismatch
        cases writerInvariant.slotContent inRange with
        | empty _ sentinel =>
            rw [sentinel, kWritingBit_eq] at writing
            exact absurd writing (by decide)
        | ready pos payload _ published _ _ slotReady =>
            have upper :=
              Nat.le_trans
                (writer.publishedCount_le_markedCount payloads.length)
                (writer.markedCount_le payloads.length)
            rw [slotReady.seq] at mismatch
            show next < _
            omega
        | writing pos data _ marked _ mark =>
            have upper := writer.markedCount_le payloads.length
            rw [mark] at writing
            exact absurd (and_kWritingBit_add (by omega)) writing
  | loadLen =>
      have published := invariant.seen (Or.inl rfl)
      simp only [Transport.readerStep, RingConfig.slotIndex_view]
      split_ifs
      · exact outside _ rfl (by simp [ShmRingReader.dropOne])
          (by simp [ShmRingReader.dropOne])
      · refine ⟨rfl, fun _ => published, ?_⟩
        intro len count shape _
        cases shape
        simp
  | copying len count =>
      have published := invariant.seen (Or.inr ⟨len, count, rfl⟩)
      simp only [Transport.readerStep, RingConfig.slotIndex_view]
      split_ifs with more mismatch
      · refine ⟨rfl, fun _ => published, ?_⟩
        intro newLen newCount shape unchanged
        cases shape
        obtain ⟨_, sameLen, copied⟩ :=
          invariant.copied len count rfl unchanged
        refine ⟨more, sameLen, ?_⟩
        show out ++ [_] = _
        rw [List.range_succ, List.map_append, ← copied]
        rfl
      · exact outside _ rfl (by simp [ShmRingReader.dropOne])
          (by simp [ShmRingReader.dropOne])
      · exact outside _ rfl (by simp) (by simp)

/-- What `read` returns is the payload written at the cursor. -/
theorem received_payload
    {id reported pos : Nat} {bytes : Bytes}
    (invariant : ReaderInvariant config memory writer payloads reader)
    (writerInvariant : WriterInvariant config memory writer payloads)
    (few : payloads.length < 2 ^ 63)
    (member :
      RingEvent.received reported pos bytes ∈
        (Transport.readerStep id memory reader).2) :
    payloads[pos]? = some bytes := by
  obtain ⟨ring, next, dropped, out, pc⟩ := reader
  obtain rfl : ring = config.view := invariant.ring
  have inRange := Nat.mod_lt next config.slotCount_pos
  cases pc with
  | idle => simp [Transport.readerStep] at member
  | loadWriteSeq =>
      simp only [Transport.readerStep] at member
      split_ifs at member <;> simp at member
  | loadSeq =>
      simp only [Transport.readerStep] at member
      split_ifs at member <;> simp at member
  | loadLen =>
      simp only [Transport.readerStep] at member
      split_ifs at member <;> simp at member
  | copying len count =>
      have published : next < writer.publishedCount payloads.length :=
        invariant.seen (Or.inr ⟨len, count, rfl⟩)
      have upper :=
        Nat.le_trans (writer.publishedCount_le_markedCount payloads.length)
          (writer.markedCount_le payloads.length)
      simp only [Transport.readerStep, RingConfig.slotIndex_view] at member
      split_ifs at member with more mismatch
      · simp at member
      · simp at member
      · simp only [List.mem_singleton, RingEvent.received.injEq] at member
        obtain ⟨rfl, rfl, rfl⟩ := member
        have unchanged :
            (memory.slots (pos % config.slotCount)).seq = pos := by
          simpa using mismatch
        obtain ⟨bound, sameLen, copied⟩ :=
          invariant.copied len count rfl unchanged
        have complete : count = len := by omega
        obtain ⟨_, found⟩ :=
          writerInvariant.ready_of_seq_eq inRange (by omega) unchanged
        dsimp only at sameLen copied
        rw [found, copied, complete, Slot.payload, sameLen]

end ReaderInvariant

/-! ## The invariant along runs -/

/-- The whole invariant of a ring with its writer and readers. -/
structure RingInvariant (config : RingConfig) (system : RingSystem)
    (payloads : List Bytes) : Prop where
  ring : system.ring = config.view
  writer : WriterInvariant config system.memory system.writer payloads
  readers :
    ∀ reader ∈ system.readers,
      ReaderInvariant config system.memory system.writer payloads reader

namespace RingInvariant

theorem start (config : RingConfig) (before : RingMemory) :
    RingInvariant config (RingSystem.start config before) [] := by
  refine ⟨rfl, ?_, ?_⟩
  · refine
      { header := ⟨rfl, rfl, rfl⟩
        writeSeq := rfl
        claim := by simp [RingSystem.start, WriterPc.claim?]
        fits := by simp
        untouched := ?_
        ready := by simp
        writing := by simp [RingSystem.start, WriterPc.claim?]
        copied := by simp [RingSystem.start]
        lenBound := ?_ }
    · intro index inRange _
      simp [RingSystem.start, ShmRing.init, inRange]
    · intro index inRange
      simp [RingSystem.start, ShmRing.init, inRange]
  · simp [RingSystem.start]

/-- Every step keeps the invariant. -/
theorem step
    {config : RingConfig} {system target : RingSystem} {input : RingInput}
    {emitted : List RingEvent} {payloads : List Bytes}
    (invariant : RingInvariant config system payloads)
    (few : (payloads ++ writtenPayloads emitted).length < 2 ^ 63)
    (steps : system.Steps input target emitted) :
    RingInvariant config target (payloads ++ writtenPayloads emitted) := by
  cases steps with
  | refuse data idle large =>
      simpa [writtenPayloads] using invariant
  | claim data idle small =>
      have writerInvariant := invariant.writer
      rw [idle] at writerInvariant
      simp only [writtenPayloads, List.filterMap_cons, List.filterMap_nil,
        List.length_append, List.length_singleton] at few ⊢
      have length := writerInvariant.writeSeq
      refine ⟨invariant.ring, ?_, ?_⟩
      · have fits : data.length ≤ config.slotSize := by
          simpa [invariant.ring, RingConfig.view] using small
        simpa [length] using writerInvariant.beginWrite few fits
      · intro reader member
        have readerInvariant := invariant.readers reader member
        rw [idle] at readerInvariant
        simpa [length] using readerInvariant.beginWrite data
  | store writer memory stored =>
      simp only [writtenPayloads, List.filterMap_nil, List.append_nil] at few ⊢
      rw [invariant.ring] at stored
      refine ⟨invariant.ring, invariant.writer.writerStep few stored, ?_⟩
      intro reader member
      exact
        (invariant.readers reader member).writerStep
          invariant.writer few stored
  | attach ring attached =>
      simp only [writtenPayloads, List.filterMap_cons, List.filterMap_nil,
        List.append_nil]
      obtain ⟨magic, slotCount, slotSize⟩ := invariant.writer.header
      have view : ring = config.view := by
        simp only [ShmRing.attach, magic, ne_eq, not_true_eq_false, if_false,
          Option.some.injEq] at attached
        rw [← attached, slotCount, slotSize]
        rfl
      refine ⟨invariant.ring, invariant.writer, ?_⟩
      intro reader member
      rcases List.mem_append.mp member with earlier | last
      · exact invariant.readers reader earlier
      · rw [List.mem_singleton.mp last, view]
        exact ReaderInvariant.create
  | load id reader found =>
      simp only [writtenPayloads_readerStep, List.append_nil] at few ⊢
      refine ⟨invariant.ring, invariant.writer, ?_⟩
      intro other member
      rcases List.mem_or_eq_of_mem_set member with earlier | moved
      · exact invariant.readers other earlier
      · rw [moved]
        exact
          (invariant.readers reader (List.mem_of_getElem? found)).readerStep
            id invariant.writer few

theorem of_run
    {config : RingConfig} {guard : RingSystem → RingInput → Prop}
    {inputs : List RingInput} {system : RingSystem}
    {events : List RingEvent}
    (run : (shmRingMachine config).Run guard inputs system events)
    (few : (writtenPayloads events).length < 2 ^ 63) :
    RingInvariant config system (writtenPayloads events) := by
  revert few
  refine
    run.invariant
      (fun system events =>
        (writtenPayloads events).length < 2 ^ 63 →
          RingInvariant config system (writtenPayloads events)) ?_ ?_
  · rintro system ⟨before, rfl⟩ _
    exact RingInvariant.start config before
  · intro system events input target emitted inductionHypothesis _ stepped few
    rw [writtenPayloads_append] at few ⊢
    have fewBefore : (writtenPayloads events).length < 2 ^ 63 := by
      rw [List.length_append] at few
      omega
    exact
      (inductionHypothesis fewBefore).step few
        (RingSystem.steps_of_step stepped)

end RingInvariant

/-! ## Deliveries -/

theorem received_of_steps
    {config : RingConfig} {system target : RingSystem} {input : RingInput}
    {emitted : List RingEvent} {payloads : List Bytes}
    (invariant : RingInvariant config system payloads)
    (few : payloads.length < 2 ^ 63)
    (steps : system.Steps input target emitted)
    {id pos : Nat} {out : Bytes}
    (received : RingEvent.received id pos out ∈ emitted) :
    payloads[pos]? = some out := by
  cases steps with
  | refuse | claim | store | attach => simp at received
  | load reported reader found =>
      exact
        (invariant.readers reader
          (List.mem_of_getElem? found)).received_payload
            invariant.writer few received

/-- What a reader returns with was written at its position. -/
theorem received_of_run
    {config : RingConfig} {ringInputs : List RingInput} {system : RingSystem}
    {seen : List RingEvent}
    (run : (shmRingMachine config).Run Machine.free ringInputs system seen)
    (few : (writtenPayloads seen).length < 2 ^ 63) {id pos : Nat} {out : Bytes}
    (received : .received id pos out ∈ seen) :
    (writtenPayloads seen)[pos]? = some out := by
  induction run with
  | start =>
      cases received
  | @next _ system target seen emitted _ run _ stepped inductionHypothesis =>
      rw [writtenPayloads_append] at few ⊢
      have fewBefore : (writtenPayloads seen).length < 2 ^ 63 := by
        rw [List.length_append] at few
        omega
      have earlier :
          (writtenPayloads seen)[pos]? = some out := by
        rcases List.mem_append.mp received with before | now
        · exact inductionHypothesis fewBefore before
        · exact received_of_steps (RingInvariant.of_run run fewBefore)
            fewBefore (RingSystem.steps_of_step stepped) now
      obtain ⟨inside, _⟩ := List.getElem?_eq_some_iff.mp earlier
      rw [List.getElem?_append_left inside]
      exact earlier

/-- Torn-read freedom: in every interleaving, whatever `read` delivers for
position `pos` is byte for byte the payload of the `pos`-th successful write. -/
theorem shmRing_received_is_written
    (config : RingConfig)
    {inputs : List RingInput} {system : RingSystem}
    {events : List RingEvent}
    (run : (shmRingMachine config).Run Machine.free inputs system events)
    (few : (writtenPayloads events).length < 2 ^ 63)
    {id pos : Nat} {out : Bytes}
    (received : RingEvent.received id pos out ∈ events) :
    (writtenPayloads events)[pos]? = some out :=
  received_of_run run few received

theorem fourByteSlots_fit : 4 < 2 ^ 32 := by
  decide

/-- Two slots of four bytes. -/
def smallRing : RingConfig where
  slotCount := 2
  slotSize := 4
  powerOfTwo := ⟨1, by decide, rfl⟩
  slotSizeBound := fourByteSlots_fit

/-- A reader attaches, one message is written, and the reader fetches it. -/
def oneMessage : List RingInput :=
  [.attach, .beginWrite [7, 9]] ++ List.replicate 5 .writer ++
    List.replicate 7 (.reader 0)

/-- What becomes visible in that run. -/
def oneMessageEvents : List RingEvent :=
  [.attached 0 0, .written [7, 9], .received 0 0 [7, 9]]

theorem oneMessage_run :
    ∃ system,
      (shmRingMachine smallRing).Run Machine.free
        oneMessage system oneMessageEvents :=
  Machine.run_of_exec_events (shmRingMachine smallRing) Machine.free
    oneMessage (RingSystem.start smallRing zeroedMemory) oneMessageEvents
    ⟨zeroedMemory, rfl⟩ (by decide +kernel)

theorem shmRing_received_is_written_oneMessage :
    (writtenPayloads oneMessageEvents)[0]? = some [7, 9] := by
  obtain ⟨system, run⟩ := oneMessage_run
  have received : RingEvent.received 0 0 [7, 9] ∈ oneMessageEvents := by
    decide
  exact shmRing_received_is_written smallRing run (by decide) received

end MiniMiddleware.Transport
