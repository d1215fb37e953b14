import MiniMiddleware.Core.ShmReaderManager
import MiniMiddleware.Transport.ShmRingCursor

/-!
# A pass of the poller over a ring in use

The inner loop of `poll_once` reads one ring until `read` returns nothing, at
most `kMaxDrainPerReader` times, while the writer goes on and other readers
read.  No pass leaves anything behind that was published before it began: the
window of a ring is smaller than the number of reads.  A pass only lasts as
long as it makes progress.
-/

namespace MiniMiddleware.Core

open MiniMiddleware.Library MiniMiddleware.Transport

/-- The inner loop of `poll_once`; `rounds` is the number of reads that it may
still make, and it is left at zero. -/
structure PollPass where
  ring : RingSystem
  rounds : Nat

/-- Who takes the next step: the poller, or anybody else on the ring. -/
inductive PollInput where
  | load
  | other (input : RingInput)
  deriving DecidableEq, Repr

/-- What a load returns from `read`, if it returns. -/
def readResult (events : List RingEvent) : Option Bool :=
  events.findSome? fun
    | .received _ _ _ => some true
    | .noData _ _ | .busy _ => some false
    | _ => none

/-- The rounds that are left behind a load. -/
def roundsAfter (rounds : Nat) : Option Bool → Nat
  | none => rounds
  | some true => rounds - 1
  | some false => 0

/-- One step of the loop of the reader `id`, or of the rest. -/
def PollPass.step (id : Nat) (pass : PollPass) :
    PollInput → Option (PollPass × List RingEvent)
  | .load =>
      if pass.rounds = 0 then
        none
      else
        (pass.ring.step (.reader id)).map fun outcome =>
          (⟨outcome.1, roundsAfter pass.rounds (readResult outcome.2)⟩,
            outcome.2)
  | .other input =>
      if input = .reader id then
        none
      else
        (pass.ring.step input).map fun outcome =>
          ({ pass with ring := outcome.1 }, outcome.2)

/-- All interleavings of a pass that begins at `system`. -/
def pollMachine (system : RingSystem) (id : Nat) :
    Machine PollPass PollInput RingEvent where
  initial pass := pass = ⟨system, kMaxDrainPerReader⟩
  step := PollPass.step id

/-- The steps of a pass, one constructor for each kind. -/
inductive PollPass.Steps (id : Nat) (pass : PollPass) :
    PollInput → PollPass → List RingEvent → Prop
  | load (ring : RingSystem) (emitted : List RingEvent) :
      pass.rounds ≠ 0 →
      pass.ring.step (.reader id) = some (ring, emitted) →
      PollPass.Steps id pass .load
        ⟨ring, roundsAfter pass.rounds (readResult emitted)⟩ emitted
  | other (input : RingInput) (ring : RingSystem)
      (emitted : List RingEvent) :
      input ≠ .reader id →
      pass.ring.step input = some (ring, emitted) →
      PollPass.Steps id pass (.other input) { pass with ring := ring } emitted

theorem PollPass.steps_of_step
    {id : Nat} {pass target : PollPass} {input : PollInput}
    {emitted : List RingEvent}
    (stepped : pass.step id input = some (target, emitted)) :
    pass.Steps id input target emitted := by
  cases input with
  | load =>
      unfold step at stepped
      split_ifs at stepped with ended
      obtain ⟨⟨ring, events⟩, moved, same⟩ :=
        Option.map_eq_some_iff.mp stepped
      cases same
      exact .load ring events ended moved
  | other input =>
      unfold step at stepped
      dsimp only at stepped
      split_ifs at stepped with own
      obtain ⟨⟨ring, events⟩, moved, same⟩ :=
        Option.map_eq_some_iff.mp stepped
      cases same
      exact .other input ring events own moved

/-- A step of the pass is a step of its ring. -/
theorem PollPass.Steps.ring
    {id : Nat} {pass target : PollPass} {input : PollInput}
    {emitted : List RingEvent}
    (steps : pass.Steps id input target emitted) :
    ∃ ringInput, pass.ring.step ringInput = some (target.ring, emitted) := by
  cases steps with
  | load ring _ active stepped =>
      exact ⟨_, stepped⟩
  | other input ring _ different stepped =>
      exact ⟨_, stepped⟩

/-! ## One load -/

/-- The outcomes of a load. -/
inductive LoadStep (id : Nat) (memory : RingMemory) (reader : ShmRingReader) :
    ShmRingReader → List RingEvent → Prop
  | begun :
      reader.pc = .idle →
      LoadStep id memory reader { reader with pc := .loadWriteSeq } []
  | noData :
      reader.pc = .loadWriteSeq →
      memory.writeSeq ≤ reader.next →
      LoadStep id memory reader { reader with pc := .idle }
        [.noData id memory.writeSeq]
  | forwarded :
      reader.pc = .loadWriteSeq →
      reader.ring.slotCount < memory.writeSeq - reader.next →
      LoadStep id memory reader
        (reader.fastForward (memory.writeSeq - reader.ring.slotCount + 1))
        ((List.range' reader.next
            (memory.writeSeq - reader.ring.slotCount + 1 - reader.next)).map
          fun pos => .dropped id pos memory.writeSeq)
  | behind :
      reader.pc = .loadWriteSeq →
      memory.writeSeq - reader.next ≤ reader.ring.slotCount →
      LoadStep id memory reader { reader with pc := .loadSeq } []
  | dropped :
      reader.pc.hasTarget = true →
      LoadStep id memory reader reader.dropOne
        [.dropped id reader.next memory.writeSeq]
  | busy :
      reader.pc = .loadSeq →
      (memory.slots (reader.ring.slotIndex reader.next)).seq &&&
          kPositionMask = reader.next →
      (memory.slots (reader.ring.slotIndex reader.next)).seq &&&
          kWritingBit ≠ 0 →
      LoadStep id memory reader { reader with pc := .idle } [.busy id]
  | ready :
      reader.pc = .loadSeq →
      LoadStep id memory reader { reader with pc := .loadLen } []
  | measured (len : Nat) :
      reader.pc = .loadLen →
      len ≤ reader.ring.slotSize →
      LoadStep id memory reader
        { reader with out := [], pc := .copying len 0 } []
  | copied (len count : Nat) (out : Bytes) :
      reader.pc = .copying len count →
      count < len →
      LoadStep id memory reader
        { reader with out := out, pc := .copying len (count + 1) } []
  | received (len count : Nat) :
      reader.pc = .copying len count →
      len ≤ count →
      LoadStep id memory reader
        { reader with next := (reader.next + 1) % 2 ^ 64, pc := .idle }
        [.received id reader.next reader.out]

theorem loadStep_readerStep
    (id : Nat) (memory : RingMemory) (reader : ShmRingReader) :
    LoadStep id memory reader (readerStep id memory reader).1
      (readerStep id memory reader).2 := by
  unfold readerStep
  cases place : reader.pc with
  | idle =>
      exact .begun place
  | loadWriteSeq =>
      dsimp only
      split_ifs with caughtUp far
      · exact .noData place caughtUp
      · exact .forwarded place far
      · exact .behind place (by omega)
  | loadSeq =>
      dsimp only
      split_ifs with overwritten writing
      · exact .dropped (by rw [place]; rfl)
      · exact .busy place (not_not.mp overwritten) writing
      · exact .ready place
  | loadLen =>
      dsimp only
      split_ifs with large
      · exact .dropped (by rw [place]; rfl)
      · exact .measured _ place (Nat.not_lt.mp large)
  | copying len count =>
      dsimp only
      split_ifs with more torn
      · exact .copied len count _ place more
      · exact .dropped (by rw [place]; rfl)
      · exact .received len count place (Nat.not_lt.mp more)

/-! ## The writer meanwhile -/

theorem publishedCount_mono
    {system target : RingSystem} {input : RingInput}
    {emitted : List RingEvent} (payloads : List Bytes)
    (steps : system.Steps input target emitted) :
    system.writer.publishedCount payloads.length ≤
      target.writer.publishedCount
        (payloads ++ writtenPayloads emitted).length := by
  cases steps with
  | refuse data idle =>
      rw [show writtenPayloads [.refused data] = [] from rfl, List.append_nil]
  | claim data idle =>
      rw [idle, List.length_append]
      exact Nat.le_refl _
  | attach =>
      exact Nat.le_of_eq (by rw [List.length_append]; rfl)
  | load id reader =>
      rw [writtenPayloads_readerStep, List.append_nil]
  | store writer memory stored =>
      rw [show writtenPayloads [] = [] from rfl, List.append_nil]
      cases place : system.writer with
      | idle =>
          rw [place] at stored
          cases stored
      | claimed pos data | marked pos data =>
          rw [place] at stored
          cases stored
          exact Nat.le_refl _
      | copying pos data count =>
          rw [place] at stored
          unfold writerStep at stored
          dsimp only at stored
          split at stored
          · cases stored
            exact Nat.le_refl _
          · cases stored
            exact Nat.sub_le _ _

/-- A position that is being written is behind all that is published. -/
theorem published_le_of_busy
    {config : RingConfig} {system : RingSystem} {payloads : List Bytes}
    (invariant : RingInvariant config system payloads)
    (few : payloads.length < 2 ^ 63) {next : Nat}
    (same :
      (system.memory.slots (next % config.slotCount)).seq &&& kPositionMask =
        next)
    (writing :
      (system.memory.slots (next % config.slotCount)).seq &&& kWritingBit ≠
        0) :
    system.writer.publishedCount payloads.length ≤ next := by
  have inRange := Nat.mod_lt next config.slotCount_pos
  have order := system.writer.publishedCount_le_markedCount payloads.length
  rw [and_kPositionMask] at same
  cases invariant.writer.slotContent inRange with
  | empty unmarked isEmpty =>
      have small := Nat.mod_le next config.slotCount
      omega
  | ready pos payload _ published _ _ isReady =>
      have limited :=
        (system.writer.publishedCount_le_markedCount payloads.length).trans
          (system.writer.markedCount_le payloads.length)
      rw [isReady.seq, and_kWritingBit_of_small (by omega)] at writing
      exact absurd rfl writing
  | writing pos data _ last claim isWriting =>
      have length := (invariant.writer.claim pos data claim).1
      have notIdle :
          system.writer.publishedCount payloads.length =
            payloads.length - 1 := by
        cases place : system.writer with
        | idle =>
            rw [place] at claim
            cases claim
        | _ =>
            rfl
      rw [isWriting] at same
      omega

/-! ## The accounts of a pass -/

/-- The loads that the current attempt of `read` has made. -/
def spent : ReaderPc → Nat
  | .idle => 0
  | .loadWriteSeq => 1
  | .loadSeq => 2
  | .loadLen => 3
  | .copying _ count => count + 4

/-- The loads of one attempt at most. -/
def attemptLoads (ring : ShmRing) : Nat :=
  ring.slotSize + 5

/-- What a pass that began at `start`, when `published` messages were
published, has passed on and lost, and how many loads that took. -/
structure PollPass.Accounts (id published start loads : Nat)
    (pass : PollPass) (seen : List RingEvent) (reader : ShmRingReader) :
    Prop where
  forward : start ≤ reader.next
  passed :
    ∀ pos, start ≤ pos → pos < reader.next →
      (∃ out, .received id pos out ∈ seen) ∨ ∃ w, .dropped id pos w ∈ seen
  copying :
    ∀ len count, reader.pc = .copying len count →
      count ≤ len ∧ len ≤ reader.ring.slotSize
  limited : pass.rounds ≤ kMaxDrainPerReader
  lag :
    pass.rounds ≠ 0 →
      reader.pc.hasTarget = true ∨ pass.rounds < kMaxDrainPerReader →
      published + (kMaxDrainPerReader - pass.rounds) ≤
        reader.next + reader.ring.slotCount
  ended :
    pass.rounds = 0 → reader.pc = .idle ∧ published ≤ reader.next
  loads :
    loads ≤
      (reader.next - start) * attemptLoads reader.ring + spent reader.pc +
        if pass.rounds = 0 then attemptLoads reader.ring else 0

namespace PollPass.Accounts

variable {id published start loads : Nat} {pass : PollPass}
  {seen events : List RingEvent} {reader moved : ShmRingReader}

/-- What is passed on or reported as lost stays so. -/
theorem reported_mono
    {pos : Nat} {earlier later : List RingEvent} (within : earlier ⊆ later)
    (reported :
      (∃ out, .received id pos out ∈ earlier) ∨
        ∃ w, .dropped id pos w ∈ earlier) :
    (∃ out, .received id pos out ∈ later) ∨ ∃ w, .dropped id pos w ∈ later := by
  rcases reported with ⟨out, member⟩ | ⟨w, member⟩
  · exact Or.inl ⟨out, within member⟩
  · exact Or.inr ⟨w, within member⟩

/-- A load that moves the cursor, or a place further. -/
theorem move
    (holds : Accounts id published start loads pass seen reader)
    (active : pass.rounds ≠ 0) {rounds : Nat} (ring : RingSystem)
    (sameRing : moved.ring = reader.ring)
    (forward : reader.next ≤ moved.next)
    (passed :
      ∀ pos, reader.next ≤ pos → pos < moved.next →
        (∃ out, .received id pos out ∈ events) ∨
          ∃ w, .dropped id pos w ∈ events)
    (copying :
      ∀ len count, moved.pc = .copying len count →
        count ≤ len ∧ len ≤ moved.ring.slotSize)
    (limited : rounds ≤ kMaxDrainPerReader)
    (lag :
      rounds ≠ 0 →
        moved.pc.hasTarget = true ∨ rounds < kMaxDrainPerReader →
        published + (kMaxDrainPerReader - rounds) ≤
          moved.next + moved.ring.slotCount)
    (ended : rounds = 0 → moved.pc = .idle ∧ published ≤ moved.next)
    (cost :
      spent reader.pc + 1 ≤
        (moved.next - reader.next) * attemptLoads reader.ring +
          spent moved.pc +
          if rounds = 0 then attemptLoads reader.ring else 0) :
    Accounts id published start (loads + 1) ⟨ring, rounds⟩ (seen ++ events)
      moved := by
  refine ⟨holds.forward.trans forward, fun pos low high => ?_, copying, limited,
    lag, ended, ?_⟩
  · by_cases before : pos < reader.next
    · exact reported_mono (List.subset_append_left seen events)
        (holds.passed pos low before)
    · exact reported_mono (List.subset_append_right seen events)
        (passed pos (Nat.le_of_not_lt before) high)
  · have earlier := holds.loads
    have begun := holds.forward
    rw [if_neg active] at earlier
    have total :
        (moved.next - start) * attemptLoads reader.ring =
          (reader.next - start) * attemptLoads reader.ring +
            (moved.next - reader.next) * attemptLoads reader.ring := by
      rw [← Nat.add_mul]
      congr 1
      omega
    rw [sameRing, total]
    dsimp only
    omega

/-- A place further, without an event. -/
theorem stay
    (holds : Accounts id published start loads pass seen reader)
    (active : pass.rounds ≠ 0) (ring : RingSystem)
    (sameRing : moved.ring = reader.ring) (sameNext : moved.next = reader.next)
    (copying :
      ∀ len count, moved.pc = .copying len count →
        count ≤ len ∧ len ≤ moved.ring.slotSize)
    (lag :
      moved.pc.hasTarget = true →
        reader.pc.hasTarget = true ∨ pass.rounds < kMaxDrainPerReader ∨
          published ≤ reader.next + reader.ring.slotCount)
    (cost : spent reader.pc + 1 ≤ spent moved.pc) :
    Accounts id published start (loads + 1) ⟨ring, pass.rounds⟩ (seen ++ [])
      moved := by
  have limited := holds.limited
  refine holds.move active ring sameRing (Nat.le_of_eq sameNext.symm)
    (fun pos low high => ?_) copying limited (fun _ target => ?_)
    (fun zero => absurd zero active) ?_
  · omega
  · have earlier := holds.lag active
    rw [sameRing, sameNext]
    rcases target with target | fewer
    · rcases lag target with before | fewer | near
      · exact earlier (Or.inl before)
      · exact earlier (Or.inr fewer)
      · by_cases fewer : pass.rounds < kMaxDrainPerReader
        · exact earlier (Or.inr fewer)
        · omega
    · exact earlier (Or.inr fewer)
  · omega

theorem spent_lt
    (holds : Accounts id published start loads pass seen reader) :
    spent reader.pc < attemptLoads reader.ring := by
  unfold attemptLoads
  cases place : reader.pc with
  | copying len count =>
      have bounds := holds.copying len count place
      simp only [spent]
      omega
  | _ =>
      simp only [spent]
      omega

theorem leave
    (holds : Accounts id published start loads pass seen reader)
    (active : pass.rounds ≠ 0) (ring : RingSystem) (event : RingEvent)
    (caughtUp : published ≤ reader.next) :
    Accounts id published start (loads + 1) ⟨ring, 0⟩ (seen ++ [event])
      { reader with pc := .idle } := by
  refine holds.move active ring rfl (Nat.le_refl _) (fun pos low high => ?_)
    (fun _ _ copying => by cases copying) (Nat.zero_le _)
    (fun isActive => absurd rfl isActive) (fun _ => ⟨rfl, caughtUp⟩) ?_
  · dsimp only at high
    omega
  · have cheap := holds.spent_lt
    rw [if_pos rfl]
    dsimp only
    omega

/-- What a load of the poller does to the account. -/
theorem load
    {config : RingConfig} {system : RingSystem} {payloads : List Bytes}
    (holds : Accounts id published start loads pass seen reader)
    (active : pass.rounds ≠ 0) (ring : RingSystem)
    (invariant : RingInvariant config system payloads)
    (few : payloads.length < 2 ^ 63)
    (drains : config.slotCount ≤ kMaxDrainPerReader)
    (view : reader.ring = config.view)
    (bound : CursorBound system.memory reader)
    (current : published ≤ system.writer.publishedCount payloads.length)
    (step : LoadStep id system.memory reader moved events) :
    Accounts id published start (loads + 1)
      ⟨ring, roundsAfter pass.rounds (readResult events)⟩ (seen ++ events)
      moved := by
  have total := invariant.writer.writeSeq
  have written : published ≤ system.memory.writeSeq := by
    have order := system.writer.publishedCount_le_markedCount payloads.length
    have marked := system.writer.markedCount_le payloads.length
    omega
  have slots : reader.ring.slotCount = config.slotCount := by
    rw [view]
    rfl
  have nextLe := bound.next_le
  have limited := holds.limited
  have cheap := holds.spent_lt
  cases step with
  | begun place =>
      exact holds.stay active ring rfl rfl
        (fun _ _ copying => by cases copying)
        (fun target => absurd target Bool.false_ne_true)
        (by rw [place]; exact Nat.le_refl 1)
  | ready place =>
      exact holds.stay active ring rfl rfl
        (fun _ _ copying => by cases copying)
        (fun _ => Or.inl (by rw [place]; rfl))
        (by rw [place]; exact Nat.le_refl 3)
  | measured len place fits =>
      refine holds.stay active ring rfl rfl ?_
        (fun _ => Or.inl (by rw [place]; rfl))
        (by rw [place]; exact Nat.le_refl 4)
      rintro len count ⟨⟩
      exact ⟨Nat.zero_le _, fits⟩
  | copied len count out place more =>
      refine holds.stay active ring rfl rfl ?_
        (fun _ => Or.inl (by rw [place]; rfl))
        (by rw [place]; exact Nat.le_refl _)
      rintro len count ⟨⟩
      exact ⟨more, (holds.copying _ _ place).2⟩
  | behind place near =>
      exact holds.stay active ring rfl rfl
        (fun _ _ copying => by cases copying)
        (fun _ => Or.inr (Or.inr (by omega)))
        (by rw [place]; exact Nat.le_refl 2)
  | noData place caughtUp =>
      exact holds.leave active ring _ (by omega)
  | busy place same writing =>
      rw [view, RingConfig.slotIndex_view] at same writing
      have behind := published_le_of_busy invariant few same writing
      exact holds.leave active ring _ (by omega)
  | forwarded place far =>
      have silent :
          readResult
              ((List.range' reader.next
                  (system.memory.writeSeq - reader.ring.slotCount + 1 -
                    reader.next)).map
                fun pos => .dropped id pos system.memory.writeSeq) =
            none := by
        simp [readResult, List.findSome?_map, Function.comp_def]
      rw [silent, roundsAfter]
      refine holds.move active ring rfl ?_ (fun pos low high => ?_)
        (fun _ _ copying => by cases copying) limited (fun _ _ => ?_)
        (fun zero => absurd zero active) ?_
      · simp only [ShmRingReader.fastForward]
        omega
      · simp only [ShmRingReader.fastForward] at high
        exact Or.inr ⟨_, List.mem_map_of_mem
          (List.mem_range'_1.mpr ⟨low, by omega⟩)⟩
      · simp only [ShmRingReader.fastForward]
        by_cases fewer : pass.rounds < kMaxDrainPerReader
        · have earlier := holds.lag active (Or.inr fewer)
          omega
        · omega
      · have same : spent reader.pc + 1 = spent .loadSeq := by
          rw [place]
          rfl
        simp only [ShmRingReader.fastForward]
        omega
  | dropped target =>
      have strict := bound.next_lt target
      have next : (reader.next + 1) % 2 ^ 64 = reader.next + 1 := by omega
      have onward : spent .loadWriteSeq = 1 := rfl
      have same :
          roundsAfter pass.rounds
              (readResult
                [.dropped id reader.next system.memory.writeSeq]) =
            pass.rounds :=
        rfl
      rw [same]
      refine holds.move active ring rfl ?_ (fun pos low high => ?_)
        (fun _ _ copying => by cases copying) limited (fun _ begun => ?_)
        (fun zero => absurd zero active) ?_
      · simp only [ShmRingReader.dropOne, next]
        omega
      · simp only [ShmRingReader.dropOne, next] at high
        obtain rfl : pos = reader.next := by omega
        exact Or.inr ⟨_, List.mem_singleton.mpr rfl⟩
      · have earlier := holds.lag active (Or.inl target)
        simp only [ShmRingReader.dropOne, next]
        omega
      · simp only [ShmRingReader.dropOne, next, Nat.add_sub_cancel_left]
        omega
  | received len count place complete =>
      have target : reader.pc.hasTarget = true := by
        rw [place]
        rfl
      have strict := bound.next_lt target
      have next : (reader.next + 1) % 2 ^ 64 = reader.next + 1 := by omega
      have earlier := holds.lag active (Or.inl target)
      have rest : spent .idle = 0 := rfl
      refine holds.move active ring rfl ?_ (fun pos low high => ?_)
        (fun _ _ copying => by cases copying) ?_ (fun more _ => ?_)
        (fun none => ⟨rfl, ?_⟩) ?_
      · simp only [next]
        omega
      · simp only [next] at high
        obtain rfl : pos = reader.next := by omega
        exact Or.inl ⟨_, List.mem_singleton.mpr rfl⟩
      · exact (Nat.sub_le _ _).trans limited
      · simp only [next]
        change pass.rounds - 1 ≠ 0 at more
        change published + (kMaxDrainPerReader - (pass.rounds - 1)) ≤ _
        omega
      · simp only [next]
        change pass.rounds - 1 = 0 at none
        omega
      · simp only [next, Nat.add_sub_cancel_left]
        omega

theorem other
    (holds : Accounts id published start loads pass seen reader)
    (ring : RingSystem) :
    Accounts id published start loads { pass with ring := ring }
      (seen ++ events) reader :=
  ⟨holds.forward,
    fun pos low high =>
      reported_mono (List.subset_append_left seen events)
        (holds.passed pos low high),
    holds.copying, holds.limited, holds.lag, holds.ended, holds.loads⟩

theorem atStart
    (system : RingSystem) (id published : Nat) (idle : reader.pc = .idle) :
    Accounts id published reader.next 0 ⟨system, kMaxDrainPerReader⟩ []
      reader := by
  refine ⟨Nat.le_refl _, fun pos low high => ?_, fun len count copying => ?_,
    Nat.le_refl _, fun _ begun => ?_, fun none => ?_, Nat.zero_le _⟩
  · omega
  · rw [idle] at copying
    cases copying
  · rw [idle] at begun
    rcases begun with target | fewer
    · cases target
    · exact absurd fewer (Nat.lt_irrefl _)
  · have several : kMaxDrainPerReader ≠ 0 := by decide
    exact absurd none several

theorem loads_le
    (holds : Accounts id published start loads pass seen reader) :
    loads ≤ (reader.next - start + 1) * attemptLoads reader.ring := by
  have cheap := holds.spent_lt
  have counted := holds.loads
  rw [Nat.add_mul, Nat.one_mul]
  by_cases ended : pass.rounds = 0
  · have rest : spent .idle = 0 := rfl
    rw [if_pos ended, (holds.ended ended).1, rest] at counted
    omega
  · rw [if_neg ended] at counted
    omega

end PollPass.Accounts

/-! ## Runs of a pass -/

section Runs

variable {config : RingConfig} {history : List RingInput}
  {system : RingSystem} {before seen : List RingEvent} {id : Nat}
  {inputs : List PollInput} {pass : PollPass}

/-- A pass continues the run of the ring that it begins in. -/
theorem exists_ringRun_of_pass
    (run : (shmRingMachine config).Run Machine.free history system before)
    (passRun : (pollMachine system id).Run Machine.free inputs pass seen) :
    ∃ all,
      (shmRingMachine config).Run Machine.free all pass.ring
        (before ++ seen) := by
  induction passRun with
  | start initially =>
      cases initially
      rw [List.append_nil]
      exact ⟨history, run⟩
  | next _ _ stepped inductionHypothesis =>
      obtain ⟨all, earlier⟩ := inductionHypothesis
      obtain ⟨input, moved⟩ := (PollPass.steps_of_step stepped).ring
      rw [← List.append_assoc]
      exact ⟨_, earlier.next trivial moved⟩

theorem published_le_of_pass
    (passRun : (pollMachine system id).Run Machine.free inputs pass seen) :
    system.writer.publishedCount (writtenPayloads before).length ≤
      pass.ring.writer.publishedCount
        (writtenPayloads (before ++ seen)).length := by
  induction passRun with
  | start initially =>
      cases initially
      rw [List.append_nil]
  | next _ _ stepped inductionHypothesis =>
      obtain ⟨input, moved⟩ := (PollPass.steps_of_step stepped).ring
      rw [← List.append_assoc, writtenPayloads_append]
      exact inductionHypothesis.trans
        (publishedCount_mono _ (RingSystem.steps_of_step moved))

/-- Nobody else moves a reader. -/
theorem reader_of_steps
    {target : RingSystem} {input : RingInput} {emitted : List RingEvent}
    {reader : ShmRingReader} (found : system.readers[id]? = some reader)
    (different : input ≠ .reader id)
    (steps : system.Steps input target emitted) :
    target.readers[id]? = some reader := by
  cases steps with
  | refuse data idle | claim data idle | store writer memory stored =>
      exact found
  | attach ring attached =>
      obtain ⟨inside, _⟩ := List.getElem?_eq_some_iff.mp found
      rw [List.getElem?_append_left inside]
      exact found
  | load moving reader =>
      have apart : moving ≠ id := fun same => different (by rw [same])
      rw [List.getElem?_set_ne apart]
      exact found

/-- The accounts of a pass are right at every moment. -/
theorem accounts_of_run
    (twoSlots : 2 ≤ config.slotCount)
    (drains : config.slotCount ≤ kMaxDrainPerReader)
    (run : (shmRingMachine config).Run Machine.free history system before)
    {reader : ShmRingReader} (found : system.readers[id]? = some reader)
    (idle : reader.pc = .idle)
    (passRun : (pollMachine system id).Run Machine.free inputs pass seen)
    (few : (writtenPayloads (before ++ seen)).length < 2 ^ 63) :
    ∃ moved,
      pass.ring.readers[id]? = some moved ∧
        PollPass.Accounts id
          (system.writer.publishedCount (writtenPayloads before).length)
          reader.next (inputs.count .load) pass seen moved := by
  induction passRun with
  | start initially =>
      cases initially
      exact ⟨reader, found, .atStart system id _ idle⟩
  | @next inputs pass target seen emitted input earlier _ stepped
      inductionHypothesis =>
      rw [← List.append_assoc, writtenPayloads_append, List.length_append]
        at few
      have fewBefore : (writtenPayloads (before ++ seen)).length < 2 ^ 63 := by
        omega
      obtain ⟨current, isCurrent, holds⟩ := inductionHypothesis fewBefore
      obtain ⟨_, ringRun⟩ := exists_ringRun_of_pass run earlier
      have invariant := RingInvariant.of_run ringRun fewBefore
      have member := List.mem_of_getElem? isCurrent
      rw [List.count_append]
      cases PollPass.steps_of_step stepped with
      | load ring _ active moved =>
          cases RingSystem.steps_of_step moved with
          | load _ reader isReader =>
              obtain rfl : reader = current :=
                Option.some.inj (isReader.symm.trans isCurrent)
              obtain ⟨inside, _⟩ := List.getElem?_eq_some_iff.mp isReader
              refine ⟨_, List.getElem?_set_self inside, ?_⟩
              exact holds.load active _ invariant fewBefore drains
                (invariant.readers _ member).ring
                (cursorBound_of_run twoSlots ringRun fewBefore _ member)
                (published_le_of_pass earlier)
                (loadStep_readerStep id pass.ring.memory reader)
      | other input ring _ different moved =>
          refine ⟨current,
            reader_of_steps isCurrent different
              (RingSystem.steps_of_step moved), ?_⟩
          exact holds.other ring

/-- A pass over a ring in use passes on or reports as dropped every position
it passes; whenever it is over, it has passed all that was published when it
began, although it makes no more than `kMaxDrainPerReader` reads; until then
it can go on, and its loads are paid by the positions it passes. -/
theorem poll_catches_up
    (config : RingConfig) (twoSlots : 2 ≤ config.slotCount)
    (drains : config.slotCount ≤ kMaxDrainPerReader)
    (run : (shmRingMachine config).Run Machine.free history system before)
    {reader : ShmRingReader} (found : system.readers[id]? = some reader)
    (idle : reader.pc = .idle)
    (passRun : (pollMachine system id).Run Machine.free inputs pass seen)
    (few : (writtenPayloads (before ++ seen)).length < 2 ^ 63) :
    ∃ moved,
      pass.ring.readers[id]? = some moved ∧
        (∀ pos, reader.next ≤ pos → pos < moved.next →
          (∃ out, .received id pos out ∈ seen ∧
            (writtenPayloads (before ++ seen))[pos]? = some out) ∨
          ∃ w, .dropped id pos w ∈ seen) ∧
        (pass.rounds = 0 →
          system.writer.publishedCount (writtenPayloads before).length ≤
            moved.next) ∧
        (pass.rounds ≠ 0 → (pass.step id .load).isSome = true) ∧
        inputs.count .load ≤
          (moved.next - reader.next + 1) * (config.slotSize + 5) := by
  obtain ⟨moved, isMoved, holds⟩ :=
    accounts_of_run twoSlots drains run found idle passRun few
  obtain ⟨_, ringRun⟩ := exists_ringRun_of_pass run passRun
  have view :=
    ((RingInvariant.of_run ringRun few).readers moved
      (List.mem_of_getElem? isMoved)).ring
  refine ⟨moved, isMoved, fun pos low high => ?_,
    fun none => (holds.ended none).2, fun active => ?_, ?_⟩
  · rcases holds.passed pos low high with ⟨out, received⟩ | dropped
    · exact Or.inl ⟨out, received,
        received_of_run ringRun few (List.mem_append_right before received)⟩
    · exact Or.inr dropped
  · simp [PollPass.step, active, RingSystem.step, isMoved]
  · have bound := holds.loads_le
    rw [view] at bound
    exact bound

end Runs

/-- A reader attaches and one message is written. -/
def oneWaiting : List RingInput :=
  [.attach, .beginWrite [7, 9]] ++ List.replicate 5 .writer

/-- Seven loads that receive it and two that find nothing behind it. -/
def readsOne : List PollInput :=
  List.replicate 9 .load

/-- The pass is over with that message. -/
def receivedOne (pass : PollPass) (seen : List RingEvent) : Bool :=
  decide (pass.rounds = 0) &&
    decide (seen = [.received 0 0 [7, 9], .noData 0 1])

/-- The message waits for a reader at rest, and a pass receives it. -/
def waitsFirst (system : RingSystem) (events : List RingEvent) : Bool :=
  decide (events = [.attached 0 0, .written [7, 9]]) &&
    decide (system.writer = .idle) &&
    system.readers[0]?.any (fun reader => decide (reader.pc = .idle)) &&
    ((pollMachine system 0).exec Machine.free ⟨system, kMaxDrainPerReader⟩
      readsOne).any (fun outcome => receivedOne outcome.1 outcome.2)

theorem oneWaiting_run :
    ∃ system reader,
      (shmRingMachine smallRing).Run Machine.free oneWaiting system
          [.attached 0 0, .written [7, 9]] ∧
        system.writer = .idle ∧ system.readers[0]? = some reader ∧
        reader.pc = .idle ∧
        ∃ pass seen,
          (pollMachine system 0).Run Machine.free readsOne pass seen ∧
            receivedOne pass seen = true := by
  obtain ⟨system, before, run, checked⟩ :=
    Machine.run_of_exec_check (shmRingMachine smallRing) Machine.free
      oneWaiting (RingSystem.start smallRing zeroedMemory) waitsFirst
      ⟨zeroedMemory, rfl⟩ (by decide +kernel)
  simp only [waitsFirst, Bool.and_eq_true, decide_eq_true_eq] at checked
  obtain ⟨⟨⟨rfl, rests⟩, attached⟩, passed⟩ := checked
  obtain ⟨reader, found, idle⟩ := (Option.any_eq_true _ _).mp attached
  exact
    ⟨system, reader, run, rests, found, of_decide_eq_true idle,
      Machine.run_of_exec_check (pollMachine system 0) Machine.free readsOne
        ⟨system, kMaxDrainPerReader⟩ receivedOne rfl passed⟩

theorem poll_catches_up_oneWaiting :
    ∃ (system : RingSystem) (pass : PollPass) (moved : ShmRingReader),
      (shmRingMachine smallRing).Run Machine.free oneWaiting system
          [.attached 0 0, .written [7, 9]] ∧
        (pollMachine system 0).Run Machine.free readsOne pass
          [.received 0 0 [7, 9], .noData 0 1] ∧
        pass.rounds = 0 ∧ pass.ring.readers[0]? = some moved ∧
        1 ≤ moved.next := by
  obtain ⟨system, reader, run, rests, found, idle, pass, seen, passRun,
    ended⟩ := oneWaiting_run
  simp only [receivedOne, Bool.and_eq_true, decide_eq_true_eq] at ended
  obtain ⟨finished, rfl⟩ := ended
  obtain ⟨moved, isMoved, _, caughtUp, _⟩ :=
    poll_catches_up smallRing (by decide) (by decide) run found idle passRun
      (by decide)
  have reached := caughtUp finished
  rw [rests] at reached
  exact ⟨system, pass, moved, run, passRun, finished, isMoved, reached⟩

end MiniMiddleware.Core
