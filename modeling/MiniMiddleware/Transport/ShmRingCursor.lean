import MiniMiddleware.Transport.ShmRingReads

/-!
# Cursors, deliveries and drops

With at least two slots a cursor never passes `write_seq`, so its distance
from where it started is exactly the number of deliveries plus the number of
drops.  Which drops are justified depends on where the writer stands: a slot
looked at between `fetch_add` and the store of `pos | WRITING` still carries
the number of the previous lap, and the reader takes it for an overwritten
one.
-/

namespace MiniMiddleware.Transport

open MiniMiddleware.Library

/-! ## Cursors stay behind the writer -/

/-- A reader between its load of `write_seq` and its return. -/
def ReaderPc.hasTarget : ReaderPc → Bool
  | .idle | .loadWriteSeq => false
  | .loadSeq | .loadLen | .copying _ _ => true

/-- The cursor has not passed `write_seq`, and is strictly behind it while a
message is being looked at. -/
structure CursorBound (memory : RingMemory) (reader : ShmRingReader) :
    Prop where
  next_le : reader.next ≤ memory.writeSeq
  next_lt : reader.pc.hasTarget = true → reader.next < memory.writeSeq

namespace CursorBound

variable {memory : RingMemory} {reader : ShmRingReader}

theorem create (ring : ShmRing) (memory : RingMemory) :
    CursorBound memory (ShmRingReader.create ring memory) :=
  ⟨Nat.le_refl _, by simp [ShmRingReader.create, ReaderPc.hasTarget]⟩

/-- The bound only depends on `write_seq`, which never decreases. -/
theorem mono
    {changed : RingMemory}
    (bound : CursorBound memory reader)
    (grown : memory.writeSeq ≤ changed.writeSeq) :
    CursorBound changed reader :=
  ⟨Nat.le_trans bound.next_le grown,
    fun inside => Nat.lt_of_lt_of_le (bound.next_lt inside) grown⟩

/-- `dropped_++; next_++` on a message that was looked at. -/
theorem dropOne
    (bound : CursorBound memory reader)
    (inside : reader.pc.hasTarget = true)
    (few : memory.writeSeq < 2 ^ 63) :
    CursorBound memory reader.dropOne := by
  have strict := bound.next_lt inside
  refine ⟨?_, by simp [ShmRingReader.dropOne, ReaderPc.hasTarget]⟩
  simp only [ShmRingReader.dropOne]
  omega

/-- The fast-forward target is behind `write_seq` when there are two slots. -/
theorem readerStep
    (id : Nat)
    (bound : CursorBound memory reader)
    (twoSlots : 2 ≤ reader.ring.slotCount)
    (few : memory.writeSeq < 2 ^ 63) :
    CursorBound memory (Transport.readerStep id memory reader).1 := by
  obtain ⟨ring, next, dropped, out, pc⟩ := reader
  obtain ⟨nextLe, nextLt⟩ := bound
  dsimp only at twoSlots nextLe nextLt
  have asIs : ∀ moved : ShmRingReader, moved.next = next →
      (moved.pc.hasTarget = true → next < memory.writeSeq) →
      CursorBound memory moved := by
    intro moved sameNext strict
    exact ⟨by rw [sameNext]; exact nextLe, by rw [sameNext]; exact strict⟩
  cases pc with
  | idle =>
      exact asIs _ rfl (by simp [Transport.readerStep, ReaderPc.hasTarget])
  | loadWriteSeq =>
      simp only [Transport.readerStep]
      split_ifs with caughtUp behind
      · exact asIs _ rfl (by simp [ReaderPc.hasTarget])
      · constructor
        · simp only [ShmRingReader.fastForward]
          omega
        · intro _
          simp only [ShmRingReader.fastForward]
          omega
      · exact asIs _ rfl (fun _ => by omega)
  | loadSeq =>
      have strict := nextLt rfl
      simp only [Transport.readerStep]
      split_ifs
      · exact dropOne ⟨nextLe, nextLt⟩ rfl few
      · exact asIs _ rfl (by simp [ReaderPc.hasTarget])
      · exact asIs _ rfl (fun _ => strict)
  | loadLen =>
      have strict := nextLt rfl
      simp only [Transport.readerStep]
      split_ifs
      · exact dropOne ⟨nextLe, nextLt⟩ rfl few
      · exact asIs _ rfl (fun _ => strict)
  | copying len copied =>
      have strict := nextLt rfl
      simp only [Transport.readerStep]
      split_ifs
      · exact asIs _ rfl (fun _ => strict)
      · exact dropOne ⟨nextLe, nextLt⟩ rfl few
      · refine ⟨?_, by simp [ReaderPc.hasTarget]⟩
        simp only
        omega

end CursorBound

/-- No step moves `write_seq` back. -/
theorem writeSeq_le_of_steps
    {config : RingConfig} {system target : RingSystem} {input : RingInput}
    {emitted : List RingEvent} {payloads : List Bytes}
    (invariant : RingInvariant config system payloads)
    (few : (payloads ++ writtenPayloads emitted).length < 2 ^ 63)
    (steps : system.Steps input target emitted) :
    system.memory.writeSeq ≤ target.memory.writeSeq := by
  have after := (invariant.step few steps).writer.writeSeq
  rw [after, invariant.writer.writeSeq, List.length_append]
  exact Nat.le_add_right _ _

/-- All cursors of all readers stay within their bounds. -/
theorem cursorBound_of_run
    {config : RingConfig} (twoSlots : 2 ≤ config.slotCount)
    {guard : RingSystem → RingInput → Prop}
    {inputs : List RingInput} {system : RingSystem}
    {events : List RingEvent}
    (run : (shmRingMachine config).Run guard inputs system events)
    (few : (writtenPayloads events).length < 2 ^ 63) :
    ∀ reader ∈ system.readers, CursorBound system.memory reader := by
  induction run with
  | start initially =>
      obtain ⟨before, rfl⟩ := initially
      simp [RingSystem.start]
  | @next inputs system target events emitted input run _ stepped
      inductionHypothesis =>
      rw [writtenPayloads_append] at few
      have fewBefore : (writtenPayloads events).length < 2 ^ 63 := by
        rw [List.length_append] at few
        omega
      have invariant := RingInvariant.of_run run fewBefore
      have steps := RingSystem.steps_of_step stepped
      have grown := writeSeq_le_of_steps invariant few steps
      have bounds := inductionHypothesis fewBefore
      have total := invariant.writer.writeSeq
      cases steps with
      | refuse | claim | store =>
          intro reader member
          exact (bounds reader member).mono grown
      | attach ring attached =>
          intro reader member
          rcases List.mem_append.mp member with earlier | last
          · exact bounds reader earlier
          · rw [List.mem_singleton.mp last]
            exact CursorBound.create ring system.memory
      | load id reader found =>
          have known := List.mem_of_getElem? found
          intro other member
          rcases List.mem_or_eq_of_mem_set member with earlier | moved
          · exact bounds other earlier
          · rw [moved]
            apply (bounds reader known).readerStep id _ (by omega)
            rw [(invariant.readers reader known).ring]
            exact twoSlots

/-! ## Deliveries and drops add up -/

/-- The account of one reader that was attached at position `start`. -/
structure CursorBalance (events : List RingEvent) (id start : Nat)
    (reader : ShmRingReader) : Prop where
  balance :
    reader.next =
      start + (receivedPositions id events).length + reader.dropped
  increasing : (receivedPositions id events).Pairwise (· < ·)
  below : ∀ pos ∈ receivedPositions id events, pos < reader.next

theorem receivedPositions_readerStep_of_ne
    {id other : Nat} (different : other ≠ id)
    (memory : RingMemory) (reader : ShmRingReader) :
    receivedPositions id (readerStep other memory reader).2 = [] := by
  unfold readerStep receivedPositions
  cases reader.pc with
  | idle => rfl
  | loadWriteSeq => dsimp only; split_ifs <;> simp
  | loadSeq => dsimp only; split_ifs <;> rfl
  | loadLen => dsimp only; split_ifs <;> rfl
  | copying len copied => dsimp only; split_ifs <;> simp [different]

namespace CursorBalance

variable {events : List RingEvent} {id start : Nat}
  {memory : RingMemory} {reader : ShmRingReader}

theorem silent
    {emitted : List RingEvent}
    (account : CursorBalance events id start reader)
    (none : receivedPositions id emitted = []) :
    CursorBalance (events ++ emitted) id start reader := by
  obtain ⟨balance, increasing, below⟩ := account
  constructor <;>
    simpa only [receivedPositions_append, none, List.append_nil]

private theorem dropped
    (amount : Nat) {moved : ShmRingReader}
    (account : CursorBalance events id start reader)
    (next : moved.next = reader.next + amount)
    (count : moved.dropped = reader.dropped + amount) :
    CursorBalance events id start moved := by
  obtain ⟨balance, increasing, below⟩ := account
  refine ⟨by omega, increasing, ?_⟩
  intro pos member
  have earlier := below pos member
  omega

/-- Every step of a reader keeps its account: each of the five places that
move the cursor moves the counters along. -/
theorem readerStep
    (account : CursorBalance events id start reader)
    (bound : CursorBound memory reader)
    (few : memory.writeSeq < 2 ^ 63) :
    CursorBalance (events ++ (Transport.readerStep id memory reader).2)
      id start (Transport.readerStep id memory reader).1 := by
  obtain ⟨ring, next, dropped, out, pc⟩ := reader
  obtain ⟨nextLe, nextLt⟩ := bound
  have balance : next = _ + dropped := account.balance
  dsimp only at nextLe nextLt
  have unmoved : ∀ moved : ShmRingReader, moved.next = next →
      moved.dropped = dropped → CursorBalance events id start moved := by
    intro moved sameNext sameDropped
    exact account.dropped 0 sameNext sameDropped
  have oneDropped : CursorBalance events id start
      (ShmRingReader.dropOne ⟨ring, next, dropped, out, pc⟩) := by
    apply account.dropped 1
    · simp only [ShmRingReader.dropOne]
      omega
    · simp only [ShmRingReader.dropOne]
      omega
  cases pc with
  | idle =>
      exact (unmoved _ rfl rfl).silent rfl
  | loadWriteSeq =>
      simp only [Transport.readerStep]
      split_ifs with caughtUp behind
      · exact (unmoved _ rfl rfl).silent rfl
      · apply silent
        · apply account.dropped
            (memory.writeSeq - ring.slotCount + 1 - next)
          · simp only [ShmRingReader.fastForward]
            omega
          · simp only [ShmRingReader.fastForward]
            omega
        · simp [receivedPositions]
      · exact (unmoved _ rfl rfl).silent rfl
  | loadSeq =>
      simp only [Transport.readerStep]
      split_ifs
      · exact oneDropped.silent rfl
      · exact (unmoved _ rfl rfl).silent rfl
      · exact (unmoved _ rfl rfl).silent rfl
  | loadLen =>
      simp only [Transport.readerStep]
      split_ifs
      · exact oneDropped.silent rfl
      · exact (unmoved _ rfl rfl).silent rfl
  | copying len copied =>
      simp only [Transport.readerStep]
      split_ifs
      · exact (unmoved _ rfl rfl).silent rfl
      · exact oneDropped.silent rfl
      · have single :
            receivedPositions id [RingEvent.received id next out] = [next] := by
          simp [receivedPositions]
        have moved : (next + 1) % 2 ^ 64 = next + 1 := by omega
        constructor
        · simp only [receivedPositions_append, single, List.length_append,
            List.length_singleton, moved]
          omega
        · simp only [receivedPositions_append, single]
          rw [List.pairwise_append]
          refine ⟨account.increasing, List.pairwise_singleton _ _, ?_⟩
          intro pos member last isLast
          rw [List.mem_singleton.mp isLast]
          exact account.below pos member
        · intro pos member
          simp only [receivedPositions_append, single, List.mem_append,
            List.mem_singleton, moved] at member ⊢
          rcases member with earlier | rfl
          · have := account.below pos earlier
            dsimp only at this
            omega
          · omega

end CursorBalance

/-- The accounts of all attached readers; nobody else has deliveries. -/
structure Ledger (system : RingSystem) (events : List RingEvent) : Prop where
  accounts :
    ∀ id start, RingEvent.attached id start ∈ events →
      ∃ reader, system.readers[id]? = some reader ∧
        CursorBalance events id start reader
  unknown :
    ∀ id, system.readers.length ≤ id → receivedPositions id events = []

namespace Ledger

private theorem quiet
    {system target : RingSystem} {events emitted : List RingEvent}
    (ledger : Ledger system events)
    (sameReaders : target.readers = system.readers)
    (noAttach : ∀ id start, RingEvent.attached id start ∉ emitted)
    (noDelivery : ∀ id, receivedPositions id emitted = []) :
    Ledger target (events ++ emitted) := by
  constructor
  · intro id start attached
    rcases List.mem_append.mp attached with earlier | now
    · obtain ⟨reader, found, account⟩ := ledger.accounts id start earlier
      exact ⟨reader, by rw [sameReaders, found],
        account.silent (noDelivery id)⟩
    · exact absurd now (noAttach id start)
  · intro id beyond
    rw [sameReaders] at beyond
    rw [receivedPositions_append, ledger.unknown id beyond, noDelivery id]
    rfl

private theorem attached_not_mem_readerStep
    (reported : Nat) (memory : RingMemory) (reader : ShmRingReader)
    (id start : Nat) :
    RingEvent.attached id start ∉ (readerStep reported memory reader).2 := by
  unfold readerStep
  cases reader.pc with
  | idle => simp
  | loadWriteSeq => dsimp only; split_ifs <;> simp
  | loadSeq => dsimp only; split_ifs <;> simp
  | loadLen => dsimp only; split_ifs <;> simp
  | copying len copied => dsimp only; split_ifs <;> simp

theorem step
    {system target : RingSystem} {input : RingInput}
    {events emitted : List RingEvent}
    (ledger : Ledger system events)
    (bounds : ∀ reader ∈ system.readers, CursorBound system.memory reader)
    (few : system.memory.writeSeq < 2 ^ 63)
    (steps : system.Steps input target emitted) :
    Ledger target (events ++ emitted) := by
  cases steps with
  | refuse | claim | store =>
      exact ledger.quiet rfl (by simp) (by simp [receivedPositions])
  | attach ring attached =>
      constructor
      · intro id start member
        rcases List.mem_append.mp member with earlier | now
        · obtain ⟨reader, found, account⟩ := ledger.accounts id start earlier
          obtain ⟨inRange, _⟩ := List.getElem?_eq_some_iff.mp found
          refine ⟨reader, ?_, account.silent (by simp [receivedPositions])⟩
          rw [List.getElem?_append_left inRange]
          exact found
        · simp only [List.mem_singleton, RingEvent.attached.injEq] at now
          obtain ⟨rfl, rfl⟩ := now
          refine ⟨ShmRingReader.create ring system.memory, by simp, ?_⟩
          apply CursorBalance.silent _ (by simp [receivedPositions])
          have none := ledger.unknown system.readers.length (Nat.le_refl _)
          constructor <;> simp [none, ShmRingReader.create]
      · intro id beyond
        simp only [List.length_append, List.length_singleton] at beyond
        rw [receivedPositions_append, ledger.unknown id (by omega)]
        simp [receivedPositions]
  | load moving reader found =>
      obtain ⟨inRange, _⟩ := List.getElem?_eq_some_iff.mp found
      constructor
      · intro id start member
        rcases List.mem_append.mp member with earlier | now
        · obtain ⟨own, ownFound, account⟩ := ledger.accounts id start earlier
          by_cases same : moving = id
          · subst same
            rw [found] at ownFound
            cases ownFound
            refine ⟨(readerStep moving system.memory reader).1,
              by simp [inRange], ?_⟩
            exact
              account.readerStep
                (bounds reader (List.mem_of_getElem? found)) few
          · refine ⟨own, ?_, account.silent ?_⟩
            · simpa [List.getElem?_set_ne same] using ownFound
            · exact
                receivedPositions_readerStep_of_ne same system.memory reader
        · exact absurd now (attached_not_mem_readerStep _ _ _ _ _)
      · intro id beyond
        simp only [List.length_set] at beyond
        rw [receivedPositions_append, ledger.unknown id beyond,
          receivedPositions_readerStep_of_ne (by omega)]
        rfl

theorem of_run
    {config : RingConfig} (twoSlots : 2 ≤ config.slotCount)
    {guard : RingSystem → RingInput → Prop}
    {inputs : List RingInput} {system : RingSystem}
    {events : List RingEvent}
    (run : (shmRingMachine config).Run guard inputs system events)
    (few : (writtenPayloads events).length < 2 ^ 63) :
    Ledger system events := by
  induction run with
  | start initially =>
      obtain ⟨before, rfl⟩ := initially
      constructor
      · simp
      · simp [receivedPositions]
  | @next inputs system target events emitted input run _ stepped
      inductionHypothesis =>
      rw [writtenPayloads_append, List.length_append] at few
      have fewBefore : (writtenPayloads events).length < 2 ^ 63 := by omega
      apply (inductionHypothesis fewBefore).step
        (cursorBound_of_run twoSlots run fewBefore) _
        (RingSystem.steps_of_step stepped)
      rw [(RingInvariant.of_run run fewBefore).writer.writeSeq]
      exact fewBefore

end Ledger

/-- Order and conservation: for a reader attached at position `start`, the
cursor has advanced by deliveries plus drops, it has not passed `write_seq`,
the delivered positions increase strictly, and a `read` that is about to see
no new data at `w` has accounted for exactly the `w - start` messages. -/
theorem shmRing_order_and_conservation
    (config : RingConfig) (twoSlots : 2 ≤ config.slotCount)
    {inputs : List RingInput} {system : RingSystem}
    {events : List RingEvent}
    (run : (shmRingMachine config).Run Machine.free inputs system events)
    (few : (writtenPayloads events).length < 2 ^ 63)
    {id start : Nat}
    (attached : RingEvent.attached id start ∈ events) :
    ∃ reader, system.readers[id]? = some reader ∧
      start ≤ reader.next ∧
      reader.next - start =
        (receivedPositions id events).length + reader.dropped ∧
      reader.next ≤ system.memory.writeSeq ∧
      (receivedPositions id events).Pairwise (· < ·) ∧
      ∀ w, RingEvent.noData id w ∈ (readerStep id system.memory reader).2 →
        (receivedPositions id events).length +
          (readerStep id system.memory reader).1.dropped = w - start := by
  obtain ⟨reader, found, account⟩ :=
    (Ledger.of_run twoSlots run few).accounts id start attached
  have bound :=
    cursorBound_of_run twoSlots run few reader (List.mem_of_getElem? found)
  have balance := account.balance
  refine ⟨reader, found, by omega, by omega, bound.next_le,
    account.increasing, ?_⟩
  intro w noData
  have nextLe := bound.next_le
  unfold readerStep at noData ⊢
  cases shape : reader.pc with
  | idle => simp [shape] at noData
  | loadWriteSeq =>
      simp only [shape] at noData ⊢
      split_ifs at noData ⊢ with caughtUp behind
      · simp only [List.mem_singleton, RingEvent.noData.injEq] at noData
        dsimp only
        omega
      · simp at noData
      · simp at noData
  | loadSeq =>
      simp only [shape] at noData
      split_ifs at noData <;> simp at noData
  | loadLen =>
      simp only [shape] at noData
      split_ifs at noData <;> simp at noData
  | copying len copied =>
      simp only [shape] at noData
      split_ifs at noData <;> simp at noData

theorem shmRing_order_and_conservation_oneMessage :
    ∃ system : RingSystem, ∃ reader, system.readers[0]? = some reader ∧
      0 ≤ reader.next ∧
      reader.next - 0 =
        (receivedPositions 0 oneMessageEvents).length + reader.dropped ∧
      reader.next ≤ system.memory.writeSeq ∧
      (receivedPositions 0 oneMessageEvents).Pairwise (· < ·) ∧
      ∀ w, RingEvent.noData 0 w ∈ (readerStep 0 system.memory reader).2 →
        (receivedPositions 0 oneMessageEvents).length +
          (readerStep 0 system.memory reader).1.dropped = w - 0 := by
  obtain ⟨system, run⟩ := oneMessage_run
  exact
    ⟨system, shmRing_order_and_conservation smallRing (by decide) run
      (by decide) (by decide)⟩

/-! ## Which drops are justified -/

/-- The reader looks at the slot of a position that the writer has claimed by
`fetch_add` but not marked yet.  For position zero the empty slot's sentinel
already reads as position zero being written. -/
def StaleLoad (system : RingSystem) : RingInput → Prop
  | .reader id =>
      ∃ reader data, system.readers[id]? = some reader ∧
        reader.pc = .loadSeq ∧ reader.next ≠ 0 ∧
        system.writer = .claimed reader.next data
  | _ => False

/-- The guard of the runs without such a load. -/
def NoStaleLoad (system : RingSystem) (input : RingInput) : Prop :=
  ¬ StaleLoad system input

/-- The four branches of `read` that count a position as dropped. -/
inductive DropReason (memory : RingMemory) (reader : ShmRingReader)
    (pos : Nat) : Prop
  | fastForward :
      reader.next ≤ pos →
      pos + reader.ring.slotCount ≤ memory.writeSeq →
      DropReason memory reader pos
  | overwritten :
      reader.pc = .loadSeq →
      pos = reader.next →
      (memory.slots (reader.ring.slotIndex pos)).seq &&& kPositionMask ≠ pos →
      DropReason memory reader pos
  | badLength :
      reader.pc = .loadLen →
      reader.ring.slotSize <
        (memory.slots (reader.ring.slotIndex reader.next)).len →
      DropReason memory reader pos
  | torn (len copied : Nat) :
      reader.pc = .copying len copied →
      pos = reader.next →
      (memory.slots (reader.ring.slotIndex pos)).seq ≠ pos →
      DropReason memory reader pos

theorem dropReason_of_readerStep
    {id reported pos w : Nat} {memory : RingMemory} {reader : ShmRingReader}
    (member :
      RingEvent.dropped reported pos w ∈ (readerStep id memory reader).2) :
    w = memory.writeSeq ∧ DropReason memory reader pos := by
  unfold readerStep at member
  cases shape : reader.pc with
  | idle => simp [shape] at member
  | loadWriteSeq =>
      simp only [shape] at member
      split_ifs at member with caughtUp behind
      · simp at member
      · simp only [List.mem_map, List.mem_range'_1,
          RingEvent.dropped.injEq] at member
        obtain ⟨_, inWindow, _, rfl, rfl⟩ := member
        exact ⟨rfl, .fastForward inWindow.1 (by omega)⟩
      · simp at member
  | loadSeq =>
      simp only [shape] at member
      split_ifs at member with mismatch writing
      · simp only [List.mem_singleton, RingEvent.dropped.injEq] at member
        obtain ⟨_, rfl, rfl⟩ := member
        exact ⟨rfl, .overwritten shape rfl mismatch⟩
      · simp at member
      · simp at member
  | loadLen =>
      simp only [shape] at member
      split_ifs at member with large
      · simp only [List.mem_singleton, RingEvent.dropped.injEq] at member
        obtain ⟨_, rfl, rfl⟩ := member
        exact ⟨rfl, .badLength shape large⟩
      · simp at member
  | copying len copied =>
      simp only [shape] at member
      split_ifs at member with more mismatch
      · simp at member
      · simp only [List.mem_singleton, RingEvent.dropped.injEq] at member
        obtain ⟨_, rfl, rfl⟩ := member
        exact ⟨rfl, .torn len copied shape rfl mismatch⟩
      · simp at member

/-- The slot of a marked position that shows neither that position nor its
mark has been claimed for a later lap. -/
private theorem lap_of_marked
    {config : RingConfig} {system : RingSystem} {payloads : List Bytes}
    (invariant : RingInvariant config system payloads)
    {next : Nat} (marked : next < system.writer.markedCount payloads.length)
    (notReady :
      (system.memory.slots (next % config.slotCount)).seq ≠ next)
    (notWriting :
      (system.memory.slots (next % config.slotCount)).seq ≠ next + 2 ^ 63) :
    next + config.slotCount ≤ payloads.length := by
  have upper := system.writer.markedCount_le payloads.length
  have order := system.writer.publishedCount_le_markedCount payloads.length
  have ofHeld : ∀ held, held % config.slotCount = next % config.slotCount →
      held < payloads.length →
      system.writer.markedCount payloads.length ≤ held + config.slotCount →
      held ≠ next → next + config.slotCount ≤ payloads.length := by
    intro held same inPayloads window different
    rcases Nat.lt_or_ge held next with earlier | later
    · have lap := lap_of_mod_eq same earlier
      omega
    · have lap := lap_of_mod_eq same.symm (by omega)
      omega
  cases invariant.writer.slotContent
      (Nat.mod_lt next config.slotCount_pos) with
  | empty reached _ =>
      have below := Nat.mod_le next config.slotCount
      omega
  | ready held _ same published window _ slotReady =>
      have seq := slotReady.seq
      exact ofHeld held same (by omega) window (by omega)
  | writing held _ same last _ mark =>
      have positive := config.slotCount_pos
      exact ofHeld held same (by omega) (by omega) (by omega)

/-- A published position is not being written. -/
private theorem not_writing_of_published
    {config : RingConfig} {system : RingSystem} {payloads : List Bytes}
    (invariant : RingInvariant config system payloads)
    (few : payloads.length < 2 ^ 63)
    {next : Nat}
    (published : next < system.writer.publishedCount payloads.length) :
    (system.memory.slots (next % config.slotCount)).seq ≠ next + 2 ^ 63 := by
  have upper := system.writer.markedCount_le payloads.length
  have order := system.writer.publishedCount_le_markedCount payloads.length
  intro seqEq
  cases invariant.writer.slotContent
      (Nat.mod_lt next config.slotCount_pos) with
  | empty reached _ =>
      have below := Nat.mod_le next config.slotCount
      omega
  | ready held _ _ heldPublished _ _ slotReady =>
      have seq := slotReady.seq
      omega
  | writing held data _ last claim mark =>
      have total := (invariant.writer.claim held data claim).1
      have notIdle :
          system.writer.publishedCount payloads.length = held := by
        cases shape : system.writer with
        | idle => simp [shape, WriterPc.claim?] at claim
        | claimed | marked | copying =>
            simp only [WriterPc.publishedCount]
            omega
      omega

/-- The slot of a claimed but unmarked position shows the previous lap. -/
private theorem position_of_claimed
    {config : RingConfig} {system : RingSystem} {payloads : List Bytes}
    (invariant : RingInvariant config system payloads)
    (few : payloads.length < 2 ^ 63)
    {next : Nat} {data : Bytes} (positive : next ≠ 0)
    (claimed : system.writer = .claimed next data) :
    (system.memory.slots (next % config.slotCount)).seq &&& kPositionMask ≠
      next := by
  have total := (invariant.writer.claim next data (by rw [claimed]; rfl)).1
  have marked : system.writer.markedCount payloads.length = next := by
    simp [claimed, WriterPc.markedCount, total]
  have published : system.writer.publishedCount payloads.length = next := by
    simp [claimed, WriterPc.publishedCount, total]
  rw [and_kPositionMask]
  cases invariant.writer.slotContent
      (Nat.mod_lt next config.slotCount_pos) with
  | empty _ sentinel =>
      rw [sentinel, kWritingBit_eq]
      omega
  | ready held _ _ earlier _ _ slotReady =>
      rw [slotReady.seq]
      omega
  | writing held _ _ last _ mark =>
      rw [mark]
      omega

/-- A cursor behind `write_seq` that is not looking at the claimed position
looks at a marked one, or at the empty slot of position zero. -/
private theorem marked_of_not_stale
    {config : RingConfig} {system : RingSystem} {payloads : List Bytes}
    (invariant : RingInvariant config system payloads)
    {next : Nat} (behind : next < system.memory.writeSeq)
    (notClaimed :
      next ≠ 0 → ∀ data, system.writer ≠ .claimed next data) :
    next < system.writer.markedCount payloads.length ∨
      next = 0 ∧ (system.memory.slots 0).seq = kWritingBit := by
  have total := invariant.writer.writeSeq
  cases shape : system.writer with
  | idle | marked | copying =>
      left
      simp only [WriterPc.markedCount]
      omega
  | claimed pos data =>
      have last := (invariant.writer.claim pos data (by rw [shape]; rfl)).1
      by_cases isClaim : next = pos
      · subst isClaim
        have zero : next = 0 := by
          by_contra positive
          exact notClaimed positive data shape
        right
        refine ⟨zero, invariant.writer.untouched 0 config.slotCount_pos ?_⟩
        simp only [shape, WriterPc.markedCount]
        omega
      · left
        simp only [WriterPc.markedCount]
        omega

/-- Outside stale loads every drop is of a position the writer has already
claimed again. -/
theorem justified_of_not_stale
    {config : RingConfig} {system : RingSystem} {payloads : List Bytes}
    (invariant : RingInvariant config system payloads)
    (few : payloads.length < 2 ^ 63)
    {id pos : Nat} {reader : ShmRingReader}
    (found : system.readers[id]? = some reader)
    (bound : CursorBound system.memory reader)
    (notStale : NoStaleLoad system (.reader id))
    (reason : DropReason system.memory reader pos) :
    pos + config.slotCount ≤ system.memory.writeSeq := by
  have readerInvariant :=
    invariant.readers reader (List.mem_of_getElem? found)
  have view := readerInvariant.ring
  have total := invariant.writer.writeSeq
  cases reason with
  | fastForward _ lap =>
      simpa [view, RingConfig.view] using lap
  | overwritten pc same moved =>
      subst same
      rw [view, RingConfig.slotIndex_view] at moved
      have behind := bound.next_lt (by rw [pc]; rfl)
      rcases marked_of_not_stale invariant behind
          (fun positive data claimed =>
            notStale ⟨reader, data, found, pc, positive, claimed⟩) with
        marked | ⟨zero, sentinel⟩
      · rw [and_kPositionMask] at moved
        rw [total]
        exact
          lap_of_marked invariant marked
            (fun ready => moved (by rw [ready]; omega))
            (fun writing => moved (by rw [writing, Nat.add_mod_right]; omega))
      · rw [zero, Nat.zero_mod, sentinel] at moved
        exact absurd (by decide) moved
  | badLength _ large =>
      rw [view, RingConfig.slotIndex_view] at large
      have fits :=
        invariant.writer.lenBound _
          (Nat.mod_lt reader.next config.slotCount_pos)
      simp only [RingConfig.view] at large
      omega
  | torn len copied pc same moved =>
      subst same
      rw [view, RingConfig.slotIndex_view] at moved
      have published := readerInvariant.seen (Or.inr ⟨len, copied, pc⟩)
      have order :=
        system.writer.publishedCount_le_markedCount payloads.length
      rw [total]
      exact
        lap_of_marked invariant (by omega) moved
          (not_writing_of_published invariant few published)

/-- A stale load drops a position that nobody has claimed again. -/
theorem dropped_of_stale
    {config : RingConfig} {system : RingSystem} {payloads : List Bytes}
    (invariant : RingInvariant config system payloads)
    (few : payloads.length < 2 ^ 63)
    {id : Nat} {reader : ShmRingReader}
    (found : system.readers[id]? = some reader)
    (stale : StaleLoad system (.reader id)) :
    system.memory.writeSeq = reader.next + 1 ∧
      RingEvent.dropped id reader.next system.memory.writeSeq ∈
        (readerStep id system.memory reader).2 := by
  obtain ⟨other, data, otherFound, pc, positive, claimed⟩ := stale
  rw [found] at otherFound
  cases otherFound
  have view :=
    (invariant.readers reader (List.mem_of_getElem? found)).ring
  have last :=
    (invariant.writer.claim reader.next data (by rw [claimed]; rfl)).1
  have moved := position_of_claimed invariant few positive claimed
  refine ⟨by rw [invariant.writer.writeSeq, last], ?_⟩
  simp [readerStep, pc, view, moved]

/-- Which step drops only what can no longer be read: every one but a stale
load. -/
private theorem justified_iff_of_steps
    {config : RingConfig} (twoSlots : 2 ≤ config.slotCount)
    {system target : RingSystem} {input : RingInput}
    {emitted : List RingEvent} {payloads : List Bytes}
    (invariant : RingInvariant config system payloads)
    (bounds : ∀ reader ∈ system.readers, CursorBound system.memory reader)
    (few : payloads.length < 2 ^ 63)
    (steps : system.Steps input target emitted) :
    (∀ id pos w, RingEvent.dropped id pos w ∈ emitted →
        pos + config.slotCount ≤ w) ↔
      NoStaleLoad system input := by
  cases steps with
  | refuse | claim | store | attach =>
      simp [NoStaleLoad, StaleLoad]
  | load id reader found =>
      constructor
      · intro justified stale
        obtain ⟨fresh, dropped⟩ := dropped_of_stale invariant few found stale
        have lap := justified _ _ _ dropped
        omega
      · intro notStale reported pos w dropped
        obtain ⟨rfl, reason⟩ := dropReason_of_readerStep dropped
        exact
          justified_of_not_stale invariant few found
            (bounds reader (List.mem_of_getElem? found)) notStale reason

/-- With at least two slots, a run drops only positions that the writer has
already claimed again if and only if none of its steps loads the number of a
claimed slot before the writer's first store to it. -/
theorem shmRing_drops_justified_iff
    (config : RingConfig) (twoSlots : 2 ≤ config.slotCount)
    {inputs : List RingInput} {system : RingSystem}
    {events : List RingEvent}
    (run : (shmRingMachine config).Run Machine.free inputs system events)
    (few : (writtenPayloads events).length < 2 ^ 63) :
    (∀ id pos w, RingEvent.dropped id pos w ∈ events →
        pos + config.slotCount ≤ w) ↔
      (shmRingMachine config).Run NoStaleLoad inputs system events := by
  constructor
  · intro justified
    induction run with
    | start initially =>
        exact Machine.Run.start initially
    | @next inputs system target events emitted input run _ stepped
        inductionHypothesis =>
        rw [writtenPayloads_append, List.length_append] at few
        have fewBefore : (writtenPayloads events).length < 2 ^ 63 := by omega
        have guarded :=
          inductionHypothesis fewBefore fun id pos w member =>
            justified id pos w (List.mem_append_left emitted member)
        refine Machine.Run.next guarded ?_ stepped
        exact
          (justified_iff_of_steps twoSlots
            (RingInvariant.of_run run fewBefore)
            (cursorBound_of_run twoSlots run fewBefore) fewBefore
            (RingSystem.steps_of_step stepped)).mp
              fun id pos w member =>
                justified id pos w (List.mem_append_right events member)
  · intro guarded
    clear run
    induction guarded with
    | start => simp
    | @next inputs system target events emitted input run notStale stepped
        inductionHypothesis =>
        rw [writtenPayloads_append, List.length_append] at few
        have fewBefore : (writtenPayloads events).length < 2 ^ 63 := by omega
        intro id pos w member
        rcases List.mem_append.mp member with earlier | now
        · exact inductionHypothesis fewBefore id pos w earlier
        · exact
            (justified_iff_of_steps twoSlots
              (RingInvariant.of_run run fewBefore)
              (cursorBound_of_run twoSlots run fewBefore) fewBefore
              (RingSystem.steps_of_step stepped)).mpr notStale id pos w now

/-- A reader attaches to a ring of two slots, three messages are written, and
the reader reads. -/
def lappedReader : List RingInput :=
  .attach ::
    ([[1], [2], [3]].flatMap fun payload =>
        .beginWrite payload :: List.replicate 4 .writer) ++
      List.replicate 6 (.reader 0)

/-- The first two messages are lost, and the third is read. -/
def lappedEvents : List RingEvent :=
  [.attached 0 0, .written [1], .written [2], .written [3], .dropped 0 0 3,
    .dropped 0 1 3, .received 0 2 [3]]

theorem shmRing_drops_justified_iff_lapped :
    ∃ system,
      (∀ id pos w, RingEvent.dropped id pos w ∈ lappedEvents →
          pos + smallRing.slotCount ≤ w) ∧
        (shmRingMachine smallRing).Run NoStaleLoad
          lappedReader system lappedEvents := by
  obtain ⟨system, run⟩ :=
    Machine.run_of_exec_events (shmRingMachine smallRing) Machine.free
      lappedReader (RingSystem.start smallRing zeroedMemory) lappedEvents
      ⟨zeroedMemory, rfl⟩ (by decide +kernel)
  have justified :
      ∀ id pos w, RingEvent.dropped id pos w ∈ lappedEvents →
        pos + smallRing.slotCount ≤ w := by
    intro id pos w member
    simp only [lappedEvents, List.mem_cons, List.not_mem_nil, or_false,
      reduceCtorEq, false_or, RingEvent.dropped.injEq] at member
    simp only [smallRing]
    omega
  exact
    ⟨system, justified,
      (shmRing_drops_justified_iff smallRing (by decide) run
        (by decide)).mp justified⟩

/-- One message has been written when the reader attaches.  The writer claims
the next position; before its first store the reader looks at the slot. -/
def lostMessage : List RingInput :=
  .beginWrite [1] :: List.replicate 4 .writer ++
    [.attach, .beginWrite [2], .reader 0, .reader 0, .reader 0]

/-- A reader one message behind a ring of two slots loses that message. -/
theorem shmRing_loses_readable_message :
    ¬ ∀ config : RingConfig, 2 ≤ config.slotCount →
      ∀ inputs system events,
        (shmRingMachine config).Run Machine.free inputs system events →
        (writtenPayloads events).length < 2 ^ 63 →
        ∀ id pos w, RingEvent.dropped id pos w ∈ events →
          pos + config.slotCount ≤ w := by
  intro always
  obtain ⟨system, run⟩ :=
    Machine.run_of_exec_events (shmRingMachine smallRing) Machine.free
      lostMessage (RingSystem.start smallRing zeroedMemory)
      [.written [1], .attached 0 1, .written [2], .dropped 0 1 2]
      ⟨zeroedMemory, rfl⟩ (by decide +kernel)
  have lap :=
    always smallRing (by decide) _ _ _ run (by decide) 0 1 2 (by decide)
  exact absurd lap (by decide)

end MiniMiddleware.Transport
