import MiniMiddleware.Transport.ShmRing

/-!
# Attaching while the ring is being initialised

`ShmSegment::create` reuses an object that a killed process has left behind,
and initialises its ring while readers may already poll it.  Here `init` makes
one store at a time and `attach` one load at a time, from any earlier content
of the memory.
-/

namespace MiniMiddleware.Transport

open MiniMiddleware.Library

/-- The next store of `init`.  `slotSeq index` is the head of the loop over
the slots, which ends with the publication of the magic word. -/
inductive InitPc where
  | slotCount
  | slotSize
  | pad
  | writeSeq
  | slotSeq (index : Nat)
  | slotLen (index : Nat)
  | slotPad (index : Nat)
  | done
  deriving DecidableEq, Repr

/-- One store of `init(base, slot_count, slot_size)`.  Nothing reads the pad
words, so their stores change nothing of the memory modelled here. -/
def initStep (slotCount slotSize : Nat) (memory : RingMemory) :
    InitPc → Option (InitPc × RingMemory)
  | .slotCount => some (.slotSize, { memory with slotCount := slotCount })
  | .slotSize => some (.pad, { memory with slotSize := slotSize })
  | .pad => some (.writeSeq, memory)
  | .writeSeq => some (.slotSeq 0, { memory with writeSeq := 0 })
  | .slotSeq index =>
      if index < slotCount then
        some (.slotLen index, memory.storeSeq index kWritingBit)
      else
        some (.done, { memory with magic := kMagic })
  | .slotLen index => some (.slotPad index, memory.storeLen index 0)
  | .slotPad index => some (.slotSeq (index + 1), memory)
  | .done => none

/-- The view that `attach` returns, with the stride of its slots. -/
structure AttachedView where
  slotCount : Nat
  slotSize : Nat
  stride : Nat
  deriving DecidableEq, Repr

/-- The next load of `attach`; `slot_size` is loaded a second time for the
stride. -/
inductive AttachPc where
  | magic
  | slotCount
  | slotSize (slotCount : Nat)
  | stride (slotCount slotSize : Nat)
  | returned (view : Option AttachedView)
  deriving DecidableEq, Repr

/-- One load of `attach(base)`. -/
def attachStep (memory : RingMemory) : AttachPc → Option AttachPc
  | .magic =>
      if memory.magic ≠ kMagic then some (.returned none) else some .slotCount
  | .slotCount => some (.slotSize memory.slotCount)
  | .slotSize slotCount => some (.stride slotCount memory.slotSize)
  | .stride slotCount slotSize =>
      some (.returned (some ⟨slotCount, slotSize, slotStride memory.slotSize⟩))
  | .returned _ => none

/-- The memory, the creator inside `init` and a reader inside `attach`. -/
structure AttachSystem where
  memory : RingMemory
  init : InitPc
  attach : AttachPc

/-- Who takes the next step. -/
inductive AttachInput where
  | init
  | attach
  deriving DecidableEq, Repr

/-- One store or load; `attach` starts after the first store of `init`. -/
def AttachSystem.step (slotCount slotSize : Nat) (system : AttachSystem) :
    AttachInput → Option (AttachSystem × List Unit)
  | .init =>
      match initStep slotCount slotSize system.memory system.init with
      | none => none
      | some (pc, memory) =>
          some ({ system with init := pc, memory := memory }, [])
  | .attach =>
      if system.init = .slotCount then
        none
      else
        match attachStep system.memory system.attach with
        | none => none
        | some pc => some ({ system with attach := pc }, [])

/-- All interleavings of `init` and `attach` on memory with the content
`before`. -/
def attachMachine (before : RingMemory) (slotCount slotSize : Nat) :
    Machine AttachSystem AttachInput Unit where
  initial system := system = ⟨before, .slotCount, .magic⟩
  step := AttachSystem.step slotCount slotSize

/-! ## The stores of `init` -/

/-- An initialised slot; the payload bytes are left as they were. -/
def emptySlot (slot : Slot) : Slot :=
  ⟨kWritingBit, 0, slot.data⟩

/-- The memory between two stores of `init`, as a function of the place. -/
def initMemory (before : RingMemory) (slotCount slotSize : Nat) :
    InitPc → RingMemory
  | .slotCount => before
  | .slotSize => { before with slotCount := slotCount }
  | .pad | .writeSeq =>
      { before with slotCount := slotCount, slotSize := slotSize }
  | .slotSeq index =>
      ⟨before.magic, slotCount, slotSize, 0, fun other =>
        if other < index then emptySlot (before.slots other)
        else before.slots other⟩
  | .slotLen index =>
      ⟨before.magic, slotCount, slotSize, 0, fun other =>
        if other < index then emptySlot (before.slots other)
        else if other = index then
          { before.slots other with seq := kWritingBit }
        else before.slots other⟩
  | .slotPad index =>
      ⟨before.magic, slotCount, slotSize, 0, fun other =>
        if other < index + 1 then emptySlot (before.slots other)
        else before.slots other⟩
  | .done => (ShmRing.init before slotCount slotSize).2

/-- The loop over the slots stays in range. -/
def InitPc.InRange (slotCount : Nat) : InitPc → Prop
  | .slotSeq index => index ≤ slotCount
  | .slotLen index => index < slotCount
  | .slotPad index => index < slotCount
  | _ => True

/-- Each store leads from the content of its place to the content of the
next. -/
theorem initStep_initMemory
    {before memory : RingMemory} {slotCount slotSize : Nat} {pc next : InitPc}
    (inRange : pc.InRange slotCount)
    (stored :
      initStep slotCount slotSize (initMemory before slotCount slotSize pc) pc =
        some (next, memory)) :
    memory = initMemory before slotCount slotSize next ∧
      next.InRange slotCount := by
  cases pc with
  | slotCount =>
      cases stored
      exact ⟨rfl, trivial⟩
  | slotSize =>
      cases stored
      exact ⟨rfl, trivial⟩
  | pad =>
      cases stored
      exact ⟨rfl, trivial⟩
  | writeSeq =>
      cases stored
      exact ⟨by simp [initMemory], Nat.zero_le _⟩
  | slotSeq index =>
      simp only [initStep] at stored
      split at stored
      · rename_i inside
        cases stored
        refine ⟨?_, inside⟩
        simp only [RingMemory.storeSeq, initMemory, Nat.lt_irrefl, if_false]
        congr 1
        funext other
        by_cases here : other = index
        · subst here
          simp
        · simp [here]
      · rename_i past
        cases stored
        have whole : index = slotCount := Nat.le_antisymm inRange (by omega)
        subst whole
        exact ⟨rfl, trivial⟩
  | slotLen index =>
      cases stored
      refine ⟨?_, inRange⟩
      simp only [RingMemory.storeLen, initMemory, Nat.lt_irrefl, if_false,
        if_true]
      congr 1
      funext other
      rcases Nat.lt_trichotomy other index with before | same | behind
      · simp [Function.update_of_ne (show other ≠ index by omega), before,
          show other < index + 1 by omega]
      · subst same
        simp [emptySlot]
      · simp [show ¬ other < index by omega, show other ≠ index by omega,
          show ¬ other < index + 1 by omega]
  | slotPad index =>
      cases stored
      exact ⟨rfl, inRange⟩
  | done =>
      cases stored

/-! ## What an attached reader finds -/

/-- Memory as `init(slot_count, slot_size)` leaves it, up to the payloads. -/
structure Initialised (slotCount slotSize : Nat) (memory : RingMemory) :
    Prop where
  count : memory.slotCount = slotCount
  size : memory.slotSize = slotSize
  writeSeq : memory.writeSeq = 0
  slots :
    ∀ index, index < slotCount →
      (memory.slots index).seq = kWritingBit ∧ (memory.slots index).len = 0

/-- A valid view carries the arguments of `init`, and the memory behind it is
initialised. -/
def ReadyWhenAttached (slotCount slotSize : Nat) (system : AttachSystem) :
    Prop :=
  ∀ view, system.attach = .returned (some view) →
    view = ⟨slotCount, slotSize, slotStride slotSize⟩ ∧
      Initialised slotCount slotSize system.memory

/-- Earlier content from which no attach can go wrong: no ring is published in
it, or one that agrees with what `init` stores. -/
def SafeBefore (slotCount slotSize : Nat) (before : RingMemory) : Prop :=
  before.magic ≠ kMagic ∨
    before.slotSize = slotSize ∧ before.writeSeq = 0 ∧
      ∀ index, index < slotCount →
        (before.slots index).seq = kWritingBit ∧ (before.slots index).len = 0

/-- Slots of which some have been initialised again. -/
private theorem emptySlot_or
    {slot : Slot} (empty : slot.seq = kWritingBit ∧ slot.len = 0)
    (initialised : Prop) [Decidable initialised] :
    (if initialised then emptySlot slot else slot).seq = kWritingBit ∧
      (if initialised then emptySlot slot else slot).len = 0 := by
  split
  · exact ⟨rfl, rfl⟩
  · exact empty

/-- From safe content, memory that shows the magic word is initialised at
every place of `init` after its first store. -/
theorem SafeBefore.initMemory
    {slotCount slotSize : Nat} {before : RingMemory}
    (safe : SafeBefore slotCount slotSize before) {pc : InitPc}
    (started : pc ≠ .slotCount)
    (published : (initMemory before slotCount slotSize pc).magic = kMagic) :
    Initialised slotCount slotSize (initMemory before slotCount slotSize pc) := by
  by_cases finished : pc = .done
  · subst finished
    refine ⟨rfl, rfl, rfl, fun index inRange => ?_⟩
    simp [Transport.initMemory, ShmRing.init, inRange]
  · -- The magic word is the one of the earlier ring.
    have old : before.magic = kMagic := by
      cases pc <;> first | exact published | exact absurd rfl finished
    obtain ⟨sameSize, unwritten, empty⟩ :=
      safe.resolve_left (not_not.mpr old)
    cases pc with
    | slotCount => exact absurd rfl started
    | slotSize => exact ⟨rfl, sameSize, unwritten, empty⟩
    | pad => exact ⟨rfl, rfl, unwritten, empty⟩
    | writeSeq => exact ⟨rfl, rfl, unwritten, empty⟩
    | slotSeq reached =>
        exact ⟨rfl, rfl, rfl, fun index inRange =>
          emptySlot_or (empty index inRange) _⟩
    | slotLen reached =>
        refine ⟨rfl, rfl, rfl, fun index inRange => ?_⟩
        obtain ⟨seq, len⟩ := empty index inRange
        simp only [Transport.initMemory]
        split_ifs
        · exact ⟨rfl, rfl⟩
        · exact ⟨rfl, len⟩
        · exact ⟨seq, len⟩
    | slotPad reached =>
        exact ⟨rfl, rfl, rfl, fun index inRange =>
          emptySlot_or (empty index inRange) _⟩
    | done => exact absurd rfl finished

/-- What `attach` has loaded so far. -/
def LoadsAgree (slotCount slotSize : Nat) : AttachPc → Prop
  | .magic => True
  | .slotCount => True
  | .slotSize count => count = slotCount
  | .stride count size => count = slotCount ∧ size = slotSize
  | .returned none => True
  | .returned (some view) =>
      view = ⟨slotCount, slotSize, slotStride slotSize⟩

/-- An attach that has seen the magic word. -/
def AttachPc.seesRing : AttachPc → Bool
  | .magic => false
  | .returned none => false
  | _ => true

/-- The invariant of the interleavings. -/
structure AttachInvariant (before : RingMemory) (slotCount slotSize : Nat)
    (system : AttachSystem) : Prop where
  memory : system.memory = initMemory before slotCount slotSize system.init
  inRange : system.init.InRange slotCount
  seen :
    system.attach.seesRing = true →
      system.init ≠ .slotCount ∧ system.memory.magic = kMagic
  loads : LoadsAgree slotCount slotSize system.attach

namespace AttachInvariant

variable {before : RingMemory} {slotCount slotSize : Nat}
  {system target : AttachSystem} {emitted : List Unit}

theorem magic_kept
    {memory changed : RingMemory} {pc next : InitPc}
    (stored : initStep slotCount slotSize memory pc = some (next, changed))
    (published : memory.magic = kMagic) :
    next ≠ .slotCount ∧ changed.magic = kMagic := by
  cases pc with
  | slotSeq index =>
      simp only [initStep] at stored
      split at stored <;> cases stored
      · exact ⟨by simp, published⟩
      · exact ⟨by simp, rfl⟩
  | done => cases stored
  | _ =>
      cases stored
      exact ⟨by simp, published⟩

theorem initialised
    (safe : SafeBefore slotCount slotSize before)
    (invariant : AttachInvariant before slotCount slotSize system)
    (sees : system.attach.seesRing = true) :
    Initialised slotCount slotSize system.memory := by
  obtain ⟨started, published⟩ := invariant.seen sees
  rw [invariant.memory] at published ⊢
  exact safe.initMemory started published

theorem step
    (safe : SafeBefore slotCount slotSize before)
    (invariant : AttachInvariant before slotCount slotSize system)
    {input : AttachInput}
    (stepped :
      system.step slotCount slotSize input = some (target, emitted)) :
    AttachInvariant before slotCount slotSize target := by
  cases input with
  | init =>
      simp only [AttachSystem.step] at stepped
      split at stepped
      · cases stepped
      · rename_i next changed stored
        cases stepped
        have stored' := stored
        rw [invariant.memory] at stored'
        obtain ⟨changedEq, inRange⟩ :=
          initStep_initMemory invariant.inRange stored'
        exact ⟨changedEq, inRange,
          fun sees => magic_kept stored (invariant.seen sees).2,
          invariant.loads⟩
  | attach =>
      simp only [AttachSystem.step] at stepped
      split at stepped
      · cases stepped
      · rename_i started
        have initialised := invariant.initialised safe
        have seen := invariant.seen
        have loads := invariant.loads
        cases place : system.attach with
        | magic =>
            simp only [place, attachStep] at stepped
            by_cases published : system.memory.magic = kMagic
            · simp only [published, ne_eq, not_true, if_false] at stepped
              cases stepped
              exact ⟨invariant.memory, invariant.inRange,
                fun _ => ⟨started, published⟩, trivial⟩
            · simp only [ne_eq, published, not_false_eq_true, if_true]
                at stepped
              cases stepped
              exact ⟨invariant.memory, invariant.inRange, by
                simp [AttachPc.seesRing], trivial⟩
        | slotCount =>
            simp only [place, attachStep] at stepped seen initialised
            cases stepped
            exact ⟨invariant.memory, invariant.inRange, fun _ => seen rfl,
              (initialised rfl).count⟩
        | slotSize count =>
            simp only [place, attachStep] at stepped seen initialised
            rw [place] at loads
            cases stepped
            exact ⟨invariant.memory, invariant.inRange, fun _ => seen rfl,
              loads, (initialised rfl).size⟩
        | stride count size =>
            simp only [place, attachStep] at stepped seen initialised
            rw [place] at loads
            obtain ⟨rfl, rfl⟩ := loads
            cases stepped
            refine ⟨invariant.memory, invariant.inRange, fun _ => seen rfl, ?_⟩
            simp only [LoadsAgree, (initialised rfl).size]
        | returned view =>
            simp only [place, attachStep] at stepped
            cases stepped

end AttachInvariant

/-- Every interleaving attaches to a ready ring exactly from safe content.  An
attach right after the first store of `init` finds everything else as it was
before, and a stale magic word makes it return. -/
theorem shmRing_attach_ready_iff
    (before : RingMemory) (slotCount slotSize : Nat) :
    (∀ inputs system events,
      (attachMachine before slotCount slotSize).Run Machine.free inputs system
          events →
        ReadyWhenAttached slotCount slotSize system) ↔
      SafeBefore slotCount slotSize before := by
  constructor
  · intro ready
    by_cases published : before.magic = kMagic
    · right
      have initially :
          (attachMachine before slotCount slotSize).initial
            ⟨before, .slotCount, .magic⟩ := rfl
      have executed :
          (attachMachine before slotCount slotSize).exec Machine.free
              ⟨before, .slotCount, .magic⟩
              [.init, .attach, .attach, .attach, .attach] =
            some
              (⟨{ before with slotCount := slotCount }, .slotSize,
                .returned (some ⟨slotCount, before.slotSize,
                  slotStride before.slotSize⟩)⟩, []) := by
        simp [Machine.exec, Machine.free, attachMachine, AttachSystem.step,
          initStep, attachStep, published]
      obtain ⟨viewEq, initialised⟩ :=
        ready _ _ _ (Machine.run_of_exec initially executed) _ rfl
      have sizes := congrArg AttachedView.slotSize viewEq
      exact ⟨sizes, initialised.writeSeq, initialised.slots⟩
    · exact Or.inl published
  · intro safe inputs system events run
    have invariant : AttachInvariant before slotCount slotSize system := by
      refine run.invariant
        (fun system _ => AttachInvariant before slotCount slotSize system)
        ?_ ?_
      · rintro system rfl
        exact ⟨rfl, trivial, by simp [AttachPc.seesRing], trivial⟩
      · intro system events input target emitted holds _ stepped
        exact holds.step safe stepped
    intro view returned
    have loads := invariant.loads
    rw [returned] at loads
    exact ⟨loads, invariant.initialised safe (by rw [returned]; rfl)⟩

/-- A ring of another slot size that has been written to, left behind by a
process that was killed. -/
def leftoverRing : RingMemory :=
  ⟨kMagic, 2, 8, 5, fun _ => ⟨4, 1, fun _ => 7⟩⟩

/-- An attach between the first two stores of `init` on a leftover ring
returns a valid view of the old slot size, with `write_seq` at 5. -/
theorem shmRing_attach_sees_leftover :
    ∃ system events,
      (attachMachine leftoverRing 2 4).Run Machine.free
          [.init, .attach, .attach, .attach, .attach] system events ∧
        system.attach = .returned (some ⟨2, 8, slotStride 8⟩) ∧
        system.memory.writeSeq = 5 ∧
        ¬ ReadyWhenAttached 2 4 system := by
  obtain ⟨system, events, run, checked⟩ :=
    Machine.run_of_exec_check (attachMachine leftoverRing 2 4) Machine.free
      [.init, .attach, .attach, .attach, .attach]
      ⟨leftoverRing, .slotCount, .magic⟩
      (fun system _ =>
        system.attach = .returned (some ⟨2, 8, slotStride 8⟩) ∧
          system.memory.writeSeq = 5)
      rfl (by decide +kernel)
  obtain ⟨returned, unwritten⟩ := of_decide_eq_true checked
  refine ⟨system, events, run, returned, unwritten, fun ready => ?_⟩
  have zero := (ready _ returned).2.writeSeq
  omega

end MiniMiddleware.Transport
