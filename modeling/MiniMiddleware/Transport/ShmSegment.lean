import MiniMiddleware.Common.Text
import MiniMiddleware.Library.Tables
import MiniMiddleware.Transport.ShmRingSequential

/-!
# Shared-memory segments

The shared-memory objects of one host.  A name is bound to an object; creating
a segment under a bound name reuses and re-initialises its object, and under a
free name makes a fresh one.  Unlinking frees the name, while mappings of the
object stay valid.

The system calls take a name as a C string, so names that differ only behind
a null character are one name.
-/

namespace MiniMiddleware.Transport

/-- How the system calls of `ShmSegment::create` went.  After a failed
`ftruncate` or `mmap` it unlinks the name. -/
inductive CreateOutcome where
  | created
  | openFailed
  | mapFailed
  deriving DecidableEq, Repr

/-- The objects of one host and the names bound to them. -/
structure SharedMemory where
  names : Std.TreeMap Text Nat
  objects : Nat → RingMemory
  nextObject : Nat

namespace SharedMemory

/-- A host without shared-memory objects. -/
def empty : SharedMemory :=
  ⟨∅, fun _ => zeroedMemory, 0⟩

/-- The object that `shm_open` finds under a name. -/
def bound (memory : SharedMemory) (name : Text) : Option Nat :=
  memory.names[cStr name]?

/-- `shm_unlink`. -/
def unlink (memory : SharedMemory) (name : Text) : SharedMemory :=
  { memory with names := memory.names.erase (cStr name) }

/-- `shm_open` with `O_CREAT`: the object bound to a name, fresh if there is
none. -/
def openCreate (memory : SharedMemory) (name : Text) : SharedMemory × Nat :=
  match memory.bound name with
  | some object => (memory, object)
  | none =>
      ({ names := memory.names.insert (cStr name) memory.nextObject
         objects :=
           Function.update memory.objects memory.nextObject zeroedMemory
         nextObject := memory.nextObject + 1 },
        memory.nextObject)

/-- Replace the content of one object. -/
def store (memory : SharedMemory) (object : Nat) (content : RingMemory) :
    SharedMemory :=
  { memory with objects := Function.update memory.objects object content }

/-- `ShmSegment::create`: the object of the new segment. -/
def create (memory : SharedMemory) (name : Text) (slotCount slotSize : Nat)
    (outcome : CreateOutcome) : SharedMemory × Option Nat :=
  match outcome with
  | .openFailed => (memory, none)
  | .mapFailed => ((memory.openCreate name).1.unlink name, none)
  | .created =>
      let opened := memory.openCreate name
      let ring := ShmRing.init (opened.1.objects opened.2) slotCount slotSize
      (opened.1.store opened.2 ring.2, some opened.2)

/-- `ShmSegment::open`: the object and its ring, if the name is bound and the
ring is initialised. -/
def openSegment (memory : SharedMemory) (name : Text) :
    Option (Nat × ShmRing) :=
  match memory.bound name with
  | none => none
  | some object =>
      (ShmRing.attach (memory.objects object)).map fun ring => (object, ring)

/-! ## Names -/

@[simp]
theorem bound_empty (name : Text) : empty.bound name = none := by
  simp [bound, empty]

theorem bound_openCreate
    (memory : SharedMemory) (name other : Text) :
    (memory.openCreate name).1.bound other =
      if cStr name = cStr other then some (memory.openCreate name).2
      else memory.bound other := by
  unfold openCreate
  cases found : memory.bound name with
  | none =>
      simp [bound, Std.TreeMap.getElem?_insert]
  | some object =>
      unfold bound at found ⊢
      by_cases same : cStr name = cStr other
      · rw [if_pos same, ← same, found]
      · rw [if_neg same]

@[simp]
theorem bound_store
    (memory : SharedMemory) (object : Nat) (content : RingMemory)
    (name : Text) :
    (memory.store object content).bound name = memory.bound name :=
  rfl

theorem bound_unlink
    (memory : SharedMemory) (name other : Text) :
    (memory.unlink name).bound other =
      if cStr name = cStr other then none else memory.bound other := by
  simp [bound, unlink, Std.TreeMap.getElem?_erase]

/-- Names that are one to the system calls create the same. -/
theorem create_congr
    {first second : Text} (same : cStr first = cStr second)
    (memory : SharedMemory) :
    memory.create first = memory.create second := by
  funext slotCount slotSize outcome
  simp only [create, openCreate, unlink, bound, same]

/-! ## Objects -/

/-- Names are only bound to allocated objects. -/
def Allocated (memory : SharedMemory) : Prop :=
  ∀ (name : Text) (object : Nat), memory.bound name = some object →
    object < memory.nextObject

theorem Allocated.unlink
    {memory : SharedMemory} (allocated : memory.Allocated) (name : Text) :
    (memory.unlink name).Allocated := by
  intro other object found
  rw [bound_unlink] at found
  split at found
  · cases found
  · exact allocated other object found

theorem Allocated.openCreate
    {memory : SharedMemory} (allocated : memory.Allocated) (name : Text) :
    (memory.openCreate name).1.Allocated := by
  intro other object found
  unfold SharedMemory.openCreate at found ⊢
  cases before : memory.bound name with
  | some existing =>
      rw [before] at found
      exact allocated other object found
  | none =>
      simp only [before] at found
      rcases Library.getElem?_insert_eq_some.mp found with ⟨_, rfl⟩ | ⟨_, old⟩
      · exact Nat.lt_succ_self _
      · exact (allocated other object old).trans (Nat.lt_succ_self _)

theorem Allocated.create
    {memory : SharedMemory} (allocated : memory.Allocated) (name : Text)
    (slotCount slotSize : Nat) (outcome : CreateOutcome) :
    (memory.create name slotCount slotSize outcome).1.Allocated := by
  cases outcome with
  | openFailed =>
      exact allocated
  | mapFailed =>
      exact (allocated.openCreate name).unlink name
  | created =>
      exact allocated.openCreate name

theorem bound_create_of_ne
    (memory : SharedMemory) {name other : Text}
    (different : cStr name ≠ cStr other)
    (slotCount slotSize : Nat) (outcome : CreateOutcome) :
    (memory.create name slotCount slotSize outcome).1.bound other =
      memory.bound other := by
  cases outcome with
  | openFailed =>
      rfl
  | mapFailed =>
      simp only [create]
      rw [bound_unlink, if_neg different, bound_openCreate, if_neg different]
  | created =>
      simp only [create, bound_store]
      rw [bound_openCreate, if_neg different]

theorem magic_create
    (memory : SharedMemory) (name : Text) (slotCount slotSize : Nat)
    (outcome : CreateOutcome) {object : Nat}
    (allocated : object < memory.nextObject)
    (ready : (memory.objects object).magic = kMagic) :
    ((memory.create name slotCount slotSize outcome).1.objects object).magic =
      kMagic := by
  have opened :
      ((memory.openCreate name).1.objects object).magic = kMagic := by
    unfold openCreate
    split
    · exact ready
    · dsimp only
      rwa [Function.update_of_ne allocated.ne]
  cases outcome with
  | openFailed =>
      exact ready
  | mapFailed =>
      exact opened
  | created =>
      simp only [create, store]
      by_cases same : object = (memory.openCreate name).2
      · rw [same, Function.update_self]
        rfl
      · rw [Function.update_of_ne same]
        exact opened

/-- A created segment is the object that its name is bound to: the one bound
before, if there was one. -/
theorem create_some
    {memory : SharedMemory} {name : Text} {slotCount slotSize object : Nat}
    {outcome : CreateOutcome}
    (made :
      (memory.create name slotCount slotSize outcome).2 = some object) :
    outcome = .created ∧
      (memory.create name slotCount slotSize outcome).1.bound name =
        some object ∧
      ((memory.create name slotCount slotSize outcome).1.objects object).magic =
        kMagic ∧
      ∀ old, memory.bound name = some old → old = object := by
  cases outcome with
  | openFailed =>
      cases made
  | mapFailed =>
      cases made
  | created =>
      cases made
      refine ⟨rfl, ?_, ?_, ?_⟩
      · simp only [create, bound_store]
        rw [bound_openCreate, if_pos rfl]
      · simp [create, store, ShmRing.init]
      · intro old found
        simp [openCreate, found]

/-- A failed creation leaves the name as it was or unbound. -/
theorem create_none
    {memory : SharedMemory} {name : Text} {slotCount slotSize : Nat}
    {outcome : CreateOutcome}
    (failed : (memory.create name slotCount slotSize outcome).2 = none) :
    (memory.create name slotCount slotSize outcome).1.bound name =
        memory.bound name ∨
      (memory.create name slotCount slotSize outcome).1.bound name =
        none := by
  cases outcome with
  | openFailed =>
      exact Or.inl rfl
  | mapFailed =>
      right
      simp only [create]
      rw [bound_unlink, if_pos rfl]
  | created =>
      cases failed

end SharedMemory

end MiniMiddleware.Transport
