import MiniMiddleware.Core.PollPass

/-!
# A pass that nobody disturbs

The data plane is modelled with `drain`, which reads a ring to its end while
its memory stays as it is.  That loop is the pass of the poller in which only
the poller takes steps, so what holds of every pass holds of it.
-/

namespace MiniMiddleware.Core

open MiniMiddleware.Library MiniMiddleware.Transport

/-! ## What a load passes on -/

/-- What the poller of the reader `id` has passed on. -/
def passedOn (id : Nat) (events : List RingEvent) : List Bytes :=
  events.filterMap fun
    | .received reader _ out => if reader = id then some out else none
    | _ => none

theorem passedOn_append (id : Nat) (earlier later : List RingEvent) :
    passedOn id (earlier ++ later) =
      passedOn id earlier ++ passedOn id later :=
  List.filterMap_append

theorem mem_passedOn {id : Nat} {events : List RingEvent} {bytes : Bytes}
    (member : bytes ∈ passedOn id events) :
    ∃ pos, .received id pos bytes ∈ events := by
  obtain ⟨event, isSeen, isPassed⟩ := List.mem_filterMap.mp member
  cases event with
  | received number pos out =>
      dsimp only at isPassed
      split_ifs at isPassed with same
      cases isPassed
      exact ⟨pos, same ▸ isSeen⟩
  | _ =>
      cases isPassed

/-- The number of a reader only shows in the events of its loads. -/
theorem readerStep_number
    (id : Nat) (memory : RingMemory) (reader : ShmRingReader) :
    (readerStep id memory reader).1 = (readerStep 0 memory reader).1 ∧
      receivedBytes (readerStep id memory reader).2 =
        receivedBytes (readerStep 0 memory reader).2 := by
  unfold readerStep
  cases reader.pc with
  | idle =>
      exact ⟨rfl, rfl⟩
  | loadWriteSeq =>
      dsimp only
      split_ifs
      · exact ⟨rfl, rfl⟩
      · refine ⟨rfl, ?_⟩
        simp [receivedBytes, List.findSome?_map, Function.comp_def]
      · exact ⟨rfl, rfl⟩
  | loadSeq | loadLen | copying =>
      dsimp only
      split_ifs <;> exact ⟨rfl, rfl⟩

namespace LoadStep

variable {id : Nat} {memory : RingMemory} {reader moved : ShmRingReader}
  {events : List RingEvent}

theorem passedOn (step : LoadStep id memory reader moved events) :
    Core.passedOn id events = (receivedBytes events).toList := by
  cases step with
  | forwarded place far =>
      simp [Core.passedOn, receivedBytes, List.filterMap_map,
        List.findSome?_map, Function.comp_def]
  | received len count place complete =>
      simp [Core.passedOn, receivedBytes]
  | _ =>
      rfl

/-- A load that leaves the reader at rest is the last one of `read`. -/
theorem returned (step : LoadStep id memory reader moved events)
    (rests : moved.pc = .idle) :
    readResult events = some (receivedBytes events).isSome := by
  cases step with
  | noData | busy | received =>
      rfl
  | _ =>
      cases rests

theorem running (step : LoadStep id memory reader moved events)
    (runs : moved.pc ≠ .idle) :
    readResult events = none ∧ receivedBytes events = none := by
  cases step with
  | noData | busy | received =>
      exact absurd rfl runs
  | forwarded place far =>
      simp [readResult, receivedBytes, List.findSome?_map, Function.comp_def]
  | _ =>
      exact ⟨rfl, rfl⟩

end LoadStep

/-! ## From loads to the loop -/

section Undisturbed

variable {system begun : RingSystem} {id rounds : Nat}
  {inputs : List PollInput} {seen : List RingEvent} {reader : ShmRingReader}

/-- One more load of a pass. -/
theorem PollPass.run_load
    (run :
      (pollMachine begun id).Run Machine.free inputs ⟨system, rounds⟩ seen)
    (active : rounds ≠ 0) (found : system.readers[id]? = some reader) :
    (pollMachine begun id).Run Machine.free (inputs ++ [.load])
      ⟨{ system with
          readers :=
            system.readers.set id (readerStep 0 system.memory reader).1 },
        roundsAfter rounds
          (readResult (readerStep id system.memory reader).2)⟩
      (seen ++ (readerStep id system.memory reader).2) := by
  refine run.next trivial ?_
  rw [← (readerStep_number id system.memory reader).1]
  simp [pollMachine, PollPass.step, active, RingSystem.step, found]

/-- The loads of a `read` that nobody disturbs are a part of the pass. -/
theorem exists_run_of_runReader
    (active : rounds ≠ 0) (fuel : Nat)
    (run :
      (pollMachine begun id).Run Machine.free inputs ⟨system, rounds⟩ seen)
    (found : system.readers[id]? = some reader)
    (bound : system.memory.writeSeq < 2 ^ 64)
    (inRound : InRound system.memory.writeSeq reader)
    (enough : loadsLeft system.memory.writeSeq reader < fuel) :
    ∃ loads later,
      (pollMachine begun id).Run Machine.free
          (inputs ++ List.replicate loads .load)
          ⟨{ system with
              readers :=
                system.readers.set id
                  (runReader system.memory fuel reader).1 },
            roundsAfter rounds
              (some (runReader system.memory fuel reader).2.isSome)⟩
          (seen ++ later) ∧
        passedOn id later =
          (runReader system.memory fuel reader).2.toList := by
  induction fuel generalizing system inputs seen reader with
  | zero =>
      cases enough
  | succ fuel inductionHypothesis =>
      have extended := PollPass.run_load run active found
      have step := loadStep_readerStep id system.memory reader
      obtain ⟨sameReader, sameBytes⟩ :=
        readerStep_number id system.memory reader
      rw [sameReader] at step
      simp only [runReader]
      split
      · rename_i rests
        rw [step.returned rests, sameBytes] at extended
        exact ⟨1, _, extended, by rw [step.passedOn, sameBytes]⟩
      · rename_i runs
        obtain ⟨goesOn, nothing⟩ := step.running runs
        rw [goesOn] at extended
        obtain ⟨inside, _⟩ := List.getElem?_eq_some_iff.mp found
        obtain ⟨kept, fewer⟩ :=
          (inRound.readerStep bound).resolve_left runs
        obtain ⟨loads, later, whole, rest⟩ :=
          inductionHypothesis extended (List.getElem?_set_self inside) bound
            kept (fewer.trans_le (Nat.le_of_lt_succ enough))
        rw [List.append_assoc, List.append_assoc] at whole
        simp only [List.set_set] at whole
        refine ⟨loads + 1, _, whole, ?_⟩
        rw [passedOn_append, step.passedOn, nothing]
        exact rest

theorem exists_run_of_read
    (active : rounds ≠ 0)
    (run :
      (pollMachine begun id).Run Machine.free inputs ⟨system, rounds⟩ seen)
    (found : system.readers[id]? = some reader)
    (bound : system.memory.writeSeq < 2 ^ 64)
    (several : 2 ≤ reader.ring.slotCount) (idle : reader.pc = .idle) :
    ∃ loads later,
      (pollMachine begun id).Run Machine.free
          (inputs ++ List.replicate loads .load)
          ⟨{ system with
              readers :=
                system.readers.set id (reader.read system.memory).1 },
            roundsAfter rounds (some (reader.read system.memory).2.isSome)⟩
          (seen ++ later) ∧
        passedOn id later = (reader.read system.memory).2.toList :=
  exists_run_of_runReader active _ run found bound (.atRest _ several idle)
    (reader.loadsLeft_lt system.memory idle)

/-- The sequential loop is the pass that nobody disturbs. -/
theorem exists_run_of_drain
    (run :
      (pollMachine begun id).Run Machine.free inputs ⟨system, rounds⟩ seen)
    (found : system.readers[id]? = some reader)
    (bound : system.memory.writeSeq < 2 ^ 64)
    (several : 2 ≤ reader.ring.slotCount) (idle : reader.pc = .idle) :
    ∃ loads later,
      (pollMachine begun id).Run Machine.free
          (inputs ++ List.replicate loads .load)
          ⟨{ system with
              readers :=
                system.readers.set id (drain system.memory rounds reader).1 },
            0⟩
          (seen ++ later) ∧
        passedOn id later = (drain system.memory rounds reader).2 := by
  induction rounds generalizing system inputs seen reader with
  | zero =>
      refine ⟨0, [], ?_, rfl⟩
      obtain ⟨inside, rfl⟩ := List.getElem?_eq_some_iff.mp found
      simpa [drain] using run
  | succ rounds inductionHypothesis =>
      obtain ⟨loads, later, whole, passed⟩ :=
        exists_run_of_read (Nat.succ_ne_zero rounds) run found bound several
          idle
      have rests := ShmRingReader.read_idle several bound idle
      have sameRing := ShmRingReader.read_ring reader system.memory
      unfold drain
      split
      · rename_i moved outcome
        rw [outcome] at whole passed
        exact ⟨loads, later, whole, passed⟩
      · rename_i moved bytes outcome
        rw [outcome] at whole passed rests sameRing
        obtain ⟨inside, _⟩ := List.getElem?_eq_some_iff.mp found
        obtain ⟨more, last, complete, rest⟩ :=
          inductionHypothesis whole (List.getElem?_set_self inside) bound
            (by rwa [sameRing]) rests
        rw [List.append_assoc, List.append_assoc,
          List.replicate_append_replicate] at complete
        simp only [List.set_set] at complete
        refine ⟨loads + more, later ++ last, complete, ?_⟩
        rw [passedOn_append, passed, rest]
        rfl

theorem writtenPayloads_of_loads
    {pass : PollPass}
    (passRun : (pollMachine system id).Run Machine.free inputs pass seen)
    (alone : ∀ input ∈ inputs, input = .load) :
    writtenPayloads seen = [] := by
  induction passRun with
  | start =>
      rfl
  | @next inputs pass target seen emitted input earlier _ stepped
      inductionHypothesis =>
      have before :=
        inductionHypothesis fun other member =>
          alone other (List.mem_append_left _ member)
      have last := alone input (by simp)
      rw [writtenPayloads_append, before, List.nil_append]
      cases PollPass.steps_of_step stepped with
      | load ring _ active moved =>
          cases RingSystem.steps_of_step moved with
          | load _ reader found =>
              exact writtenPayloads_readerStep id pass.ring.memory reader
      | other input =>
          cases last

/-- The inner loop of `poll_once` on memory that nobody touches is the pass
in which only the poller takes steps.  In whichever state of the ring it
begins, it ends, it passes on messages that were written, and nothing that is
published is left before the cursor. -/
theorem drain_catches_up
    (config : RingConfig) (twoSlots : 2 ≤ config.slotCount)
    (drains : config.slotCount ≤ kMaxDrainPerReader)
    {history : List RingInput} {before : List RingEvent}
    (run : (shmRingMachine config).Run Machine.free history system before)
    (found : system.readers[id]? = some reader) (idle : reader.pc = .idle)
    (few : (writtenPayloads before).length < 2 ^ 63) :
    (∃ loads pass seen,
      (pollMachine system id).Run Machine.free (List.replicate loads .load)
          pass seen ∧
        pass.rounds = 0 ∧
        pass.ring.readers[id]? =
          some (drain system.memory kMaxDrainPerReader reader).1 ∧
        passedOn id seen =
          (drain system.memory kMaxDrainPerReader reader).2) ∧
      system.writer.publishedCount (writtenPayloads before).length ≤
        (drain system.memory kMaxDrainPerReader reader).1.next ∧
      ∀ bytes ∈ (drain system.memory kMaxDrainPerReader reader).2,
        bytes ∈ writtenPayloads before := by
  have invariant := RingInvariant.of_run run few
  have view := (invariant.readers reader (List.mem_of_getElem? found)).ring
  have total := invariant.writer.writeSeq
  obtain ⟨inside, _⟩ := List.getElem?_eq_some_iff.mp found
  obtain ⟨loads, seen, passRun, passed⟩ :=
    exists_run_of_drain (.start rfl) found (by omega)
      (by rw [view]; exact twoSlots) idle
  rw [List.nil_append, List.nil_append] at passRun
  have silent :=
    writtenPayloads_of_loads passRun fun input member =>
      List.eq_of_mem_replicate member
  have same : writtenPayloads (before ++ seen) = writtenPayloads before := by
    rw [writtenPayloads_append, silent, List.append_nil]
  rw [← same] at few
  obtain ⟨moved, isMoved, holds⟩ :=
    accounts_of_run twoSlots drains run found idle passRun few
  obtain ⟨_, ringRun⟩ := exists_ringRun_of_pass run passRun
  rw [List.getElem?_set_self inside] at isMoved
  obtain rfl := Option.some.inj isMoved
  refine ⟨⟨loads, _, seen, passRun, rfl, List.getElem?_set_self inside, passed⟩,
    (holds.ended rfl).2, fun bytes member => ?_⟩
  rw [← passed] at member
  obtain ⟨pos, received⟩ := mem_passedOn member
  have written :=
    received_of_run ringRun few (List.mem_append_right before received)
  rw [same] at written
  exact List.mem_of_getElem? written

end Undisturbed

theorem drain_catches_up_oneWaiting :
    ∃ (system : RingSystem) (reader : ShmRingReader),
      (shmRingMachine smallRing).Run Machine.free oneWaiting system
          [.attached 0 0, .written [7, 9]] ∧
        system.readers[0]? = some reader ∧
        (∃ loads pass seen,
          (pollMachine system 0).Run Machine.free (List.replicate loads .load)
              pass seen ∧
            pass.rounds = 0 ∧
            pass.ring.readers[0]? =
              some (drain system.memory kMaxDrainPerReader reader).1) ∧
        1 ≤ (drain system.memory kMaxDrainPerReader reader).1.next := by
  obtain ⟨system, reader, run, rests, found, idle, _⟩ := oneWaiting_run
  obtain ⟨⟨loads, pass, seen, passRun, ended, same, _⟩, reached, _⟩ :=
    drain_catches_up smallRing (by decide) (by decide) run found idle
      (by decide)
  rw [rests] at reached
  exact ⟨system, reader, run, found, ⟨loads, pass, seen, passRun, ended, same⟩,
    reached⟩

end MiniMiddleware.Core
