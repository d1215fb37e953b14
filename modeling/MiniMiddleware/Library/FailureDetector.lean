import Mathlib.Logic.Function.Basic
import MiniMiddleware.Library.Lists

/-!
# A failure detector with heartbeats and timeouts

Every running process sends a beat whenever it passes a certain point of its
loop and its interval has elapsed.  It notes when it last heard each other
process, and at another point of its loop it forgets those that it has not
heard for longer than its timeout.

Time is bounded by a condition on the steps: the clock only moves on while
every running process has passed both points within `iteration`, and while
every beat has reached the processes that were running when it was sent within
`delay`; a beat older than that no longer arrives.  Beats may overtake each
other and arrive several times, and processes start and stop at any time.

Under this condition the detector is accurate, as long as the timeout covers
the interval and both bounds, and it is complete.
-/

namespace MiniMiddleware.Library

universe u

/-! ## Regular beats -/

/-- Up to `now`, no stretch of `gap` passes without a beat, once there was
one. -/
def Regular (gap : Nat) (beats : Nat → Prop) (now : Nat) : Prop :=
  ∀ time, (∃ beat, beats beat ∧ beat ≤ time) → time + gap < now →
    ∃ beat, beats beat ∧ time < beat ∧ beat ≤ time + gap

section RegularBeats

variable {gap now : Nat} {beats : Nat → Prop}

theorem Regular.beat (regular : Regular gap beats now) :
    Regular gap (fun beat => beats beat ∨ beat = now) now := by
  rintro time ⟨first, isBeat | rfl, early⟩ late
  · obtain ⟨beat, isBeat, bounds⟩ := regular time ⟨first, isBeat, early⟩ late
    exact ⟨beat, Or.inl isBeat, bounds⟩
  · omega

theorem Regular.elapse
    (regular : Regular gap beats now) {last later : Nat}
    (isBeat : beats last) (past : last ≤ now) (bound : later ≤ last + gap) :
    Regular gap beats later := by
  intro time earlier late
  by_cases before : time + gap < now
  · exact regular time earlier before
  · exact ⟨last, isBeat, by omega, by omega⟩

/-- Whoever has heard a beat, and every beat older than `delay`, has heard one
within `gap + delay`. -/
theorem Regular.heard_recently
    (regular : Regular gap beats now) {heard delay : Nat}
    (first : ∃ beat, beats beat ∧ beat ≤ heard)
    (delivered : ∀ beat, beats beat → beat + delay < now → beat ≤ heard) :
    now ≤ heard + gap + delay := by
  by_contra late
  obtain ⟨beat, isBeat, after, soon⟩ := regular heard first (by omega)
  have known := delivered beat isBeat (by omega)
  omega

end RegularBeats

/-! ## The processes -/

section Processes

variable {Id : Type u} [DecidableEq Id]

/-- A beat, and who is to receive it. -/
structure Beat (Id : Type u) where
  source : Id
  sentAt : Nat
  audience : List Id
  deriving DecidableEq, Repr

/-- The processes and the network.  `receipts` pairs a process with the number
of a beat that it has received; `passed` and `checked` say when a process was
last at the two points of its loop. -/
@[ext]
structure Detector (Id : Type u) where
  clock : Nat
  started : List Id
  running : List Id
  beats : List (Beat Id)
  receipts : List (Id × Nat)
  lastBeat : Id → Nat
  passed : Id → Nat
  checked : Id → Nat
  heard : Id → Id → Option Nat

/-- The settings of the processes, and the bounds on time. -/
structure Periods (Id : Type u) where
  interval : Id → Nat
  timeout : Id → Nat
  iteration : Nat
  delay : Nat

/-- The timeout of one process leaves room for the beats of another. -/
def Periods.Patient (periods : Periods Id) (id source : Id) : Prop :=
  periods.interval source + periods.iteration + periods.delay ≤
    periods.timeout id

/-- What can happen. -/
inductive DetectorStep (Id : Type u) where
  | start (id : Id)
  | pass (id : Id)
  | hear (id : Id) (number : Nat)
  | check (id : Id)
  | stop (id : Id)
  | elapse (time : Nat)
  deriving DecidableEq, Repr

namespace Detector

/-- A beat is sent to all others. -/
def send (detector : Detector Id) (id : Id) : Detector Id :=
  { detector with
    beats :=
      detector.beats ++
        [⟨id, detector.clock, detector.running.filter fun other => other ≠ id⟩]
    lastBeat := Function.update detector.lastBeat id detector.clock }

/-- A process starts with a beat. -/
def start (detector : Detector Id) (id : Id) : Detector Id :=
  { detector.send id with
    started := id :: detector.started
    running := id :: detector.running
    passed := Function.update detector.passed id detector.clock
    checked := Function.update detector.checked id detector.clock }

/-- A process passes the point at which it sends a beat if one is due. -/
def pass (periods : Periods Id) (detector : Detector Id) (id : Id) :
    Detector Id :=
  let sent :=
    if periods.interval id ≤ detector.clock - detector.lastBeat id then
      detector.send id
    else
      detector
  { sent with passed := Function.update detector.passed id detector.clock }

/-- A process hears a beat. -/
def hear (detector : Detector Id) (id : Id) (number : Nat) (source : Id) :
    Detector Id :=
  { detector with
    receipts := (id, number) :: detector.receipts
    heard :=
      Function.update detector.heard id
        (Function.update (detector.heard id) source (some detector.clock)) }

/-- A process forgets those that have been silent for too long. -/
def check (periods : Periods Id) (detector : Detector Id) (id : Id) :
    Detector Id :=
  { detector with
    heard :=
      Function.update detector.heard id fun source =>
        (detector.heard id source).filter fun time =>
          detector.clock - time ≤ periods.timeout id
    checked := Function.update detector.checked id detector.clock }

/-- One step. -/
def step (periods : Periods Id) (detector : Detector Id) :
    DetectorStep Id → Option (Detector Id)
  | .start id =>
      if id ∈ detector.started then none else some (detector.start id)
  | .pass id =>
      if id ∈ detector.running then some (detector.pass periods id) else none
  | .hear id number =>
      match detector.beats[number]? with
      | none => none
      | some beat =>
          if id ∈ detector.running ∧ beat.source ≠ id then
            some (detector.hear id number beat.source)
          else
            none
  | .check id =>
      if id ∈ detector.running then some (detector.check periods id) else none
  | .stop id =>
      some
        { detector with
          running := detector.running.filter fun other => other ≠ id }
  | .elapse time => some { detector with clock := detector.clock + time }

/-- Nobody has started. -/
structure Fresh (detector : Detector Id) : Prop where
  started : detector.started = []
  running : detector.running = []
  beats : detector.beats = []
  receipts : detector.receipts = []
  heard : ∀ id source, detector.heard id source = none

/-- The bounds on time, as a condition on a step. -/
def Punctual (periods : Periods Id) (detector : Detector Id) :
    DetectorStep Id → Prop
  | .hear _ number =>
      ∀ beat ∈ detector.beats[number]?,
        detector.clock ≤ beat.sentAt + periods.delay
  | .elapse time =>
      (∀ id ∈ detector.running,
        detector.clock + time ≤ detector.passed id + periods.iteration ∧
          detector.clock + time ≤ detector.checked id + periods.iteration) ∧
        ∀ entry ∈ detector.beats.zipIdx, ∀ id ∈ entry.1.audience,
          id ∈ detector.running →
          (id, entry.2) ∈ detector.receipts ∨
            detector.clock + time ≤ entry.1.sentAt + periods.delay
  | _ => True

instance (periods : Periods Id) (detector : Detector Id)
    (action : DetectorStep Id) :
    Decidable (detector.Punctual periods action) :=
  match action with
  | .start _ | .pass _ | .check _ | .stop _ =>
      inferInstanceAs (Decidable True)
  | .hear _ number =>
      inferInstanceAs
        (Decidable
          (∀ beat ∈ detector.beats[number]?,
            detector.clock ≤ beat.sentAt + periods.delay))
  | .elapse time =>
      inferInstanceAs
        (Decidable
          ((∀ id ∈ detector.running,
            detector.clock + time ≤ detector.passed id + periods.iteration ∧
              detector.clock + time ≤
                detector.checked id + periods.iteration) ∧
            ∀ entry ∈ detector.beats.zipIdx, ∀ id ∈ entry.1.audience,
              id ∈ detector.running →
              (id, entry.2) ∈ detector.receipts ∨
                detector.clock + time ≤ entry.1.sentAt + periods.delay))

/-! ## The invariant -/

/-- A process sent a beat at this time. -/
def BeatAt (detector : Detector Id) (id : Id) (time : Nat) : Prop :=
  ∃ beat ∈ detector.beats, beat.source = id ∧ beat.sentAt = time

/-- What holds of a running process as one that sends. -/
structure Sender (periods : Periods Id) (detector : Detector Id) (id : Id) :
    Prop where
  last : detector.BeatAt id (detector.lastBeat id)
  past : detector.passed id ≤ detector.clock
  due : detector.passed id ≤ detector.lastBeat id + periods.interval id
  punctual : detector.clock ≤ detector.passed id + periods.iteration
  regular :
    Regular (periods.interval id + periods.iteration) (detector.BeatAt id)
      detector.clock

/-- What holds of a running process as one that listens: whom it has heard it
has heard since its last check, and not before any beat that it has received
or was not to receive. -/
structure Observer (periods : Periods Id) (detector : Detector Id) (id : Id) :
    Prop where
  punctual : detector.clock ≤ detector.checked id + periods.iteration
  past : detector.checked id ≤ detector.clock
  checked :
    ∀ source time, detector.heard id source = some time →
      detector.checked id ≤ time + periods.timeout id
  latest :
    ∀ source time, detector.heard id source = some time →
      ∀ number beat, detector.beats[number]? = some beat →
        beat.source = source →
        (id ∈ beat.audience → (id, number) ∈ detector.receipts) →
        beat.sentAt ≤ time

/-- What holds between any two steps. -/
structure Sound (periods : Periods Id) (detector : Detector Id) : Prop where
  started : ∀ id ∈ detector.running, id ∈ detector.started
  silent :
    ∀ id, id ∉ detector.started →
      (∀ beat ∈ detector.beats, beat.source ≠ id ∧ id ∉ beat.audience) ∧
        (∀ number, (id, number) ∉ detector.receipts) ∧
        ∀ source, detector.heard id source = none
  past : ∀ beat ∈ detector.beats, beat.sentAt ≤ detector.clock
  received :
    ∀ id number, (id, number) ∈ detector.receipts →
      number < detector.beats.length
  heard :
    ∀ id source time, detector.heard id source = some time →
      source ≠ id ∧ time ≤ detector.clock ∧
        ∃ beat ∈ detector.beats,
          beat.source = source ∧ beat.sentAt ≤ time ∧
            time ≤ beat.sentAt + periods.delay
  awaited :
    ∀ number beat, detector.beats[number]? = some beat →
      ∀ id ∈ beat.audience, id ∈ detector.running →
        (id, number) ∈ detector.receipts ∨
          detector.clock ≤ beat.sentAt + periods.delay
  senders : ∀ id ∈ detector.running, Sender periods detector id
  observers : ∀ id ∈ detector.running, Observer periods detector id
  kept :
    ∀ id ∈ detector.running, ∀ source ∈ detector.running, source ≠ id →
      periods.Patient id source →
      ∀ number beat, detector.beats[number]? = some beat →
        beat.source = source → (id, number) ∈ detector.receipts →
        detector.heard id source ≠ none

omit [DecidableEq Id] in
theorem Fresh.sound
    {periods : Periods Id} {detector : Detector Id}
    (fresh : detector.Fresh) : Sound periods detector := by
  constructor <;>
    simp [fresh.started, fresh.running, fresh.beats, fresh.receipts,
      fresh.heard]

section Steps

variable {periods : Periods Id} {detector : Detector Id} {id : Id}

/-- The beats of a running process are heard within its interval and both
bounds on time. -/
theorem Sound.heard_recently
    (sound : Sound periods detector) {source : Id} {time : Nat}
    (observing : id ∈ detector.running) (sending : source ∈ detector.running)
    (heard : detector.heard id source = some time) :
    detector.clock ≤
      time + (periods.interval source + periods.iteration) +
        periods.delay := by
  refine (sound.senders source sending).regular.heard_recently ?_ ?_
  · obtain ⟨_, _, beat, member, isSource, early, _⟩ :=
      sound.heard id source time heard
    exact ⟨beat.sentAt, ⟨beat, member, isSource, rfl⟩, early⟩
  · rintro _ ⟨beat, member, isSource, rfl⟩ late
    obtain ⟨number, found⟩ := List.mem_iff_getElem?.mp member
    refine
      (sound.observers id observing).latest source time heard number beat
        found isSource fun addressed => ?_
    rcases sound.awaited number beat found id addressed observing with
      received | awaited
    · exact received
    · omega

theorem beatAt_send (other : Id) (time : Nat) :
    (detector.send id).BeatAt other time ↔
      detector.BeatAt other time ∨ (other = id ∧ time = detector.clock) := by
  simp only [BeatAt, send, List.mem_append, List.mem_singleton]
  constructor
  · rintro ⟨beat, old | rfl, rfl, rfl⟩
    · exact Or.inl ⟨beat, old, rfl, rfl⟩
    · exact Or.inr ⟨rfl, rfl⟩
  · rintro (⟨beat, old, rfl, rfl⟩ | ⟨rfl, rfl⟩)
    · exact ⟨beat, Or.inl old, rfl, rfl⟩
    · exact ⟨_, Or.inr rfl, rfl, rfl⟩

theorem Sender.send
    {other : Id} (sender : Sender periods detector other) :
    Sender periods (detector.send id) other := by
  by_cases same : other = id
  · subst same
    have last : (detector.send other).lastBeat other = detector.clock := by
      simp [Detector.send]
    refine ⟨?_, sender.past, ?_, sender.punctual, ?_⟩
    · rw [last, beatAt_send]
      exact Or.inr ⟨rfl, rfl⟩
    · have past := sender.past
      rw [last]
      exact Nat.le_add_right_of_le past
    · have regular := sender.regular.beat
      have same : (detector.send other).BeatAt other =
          fun beat => detector.BeatAt other beat ∨ beat = detector.clock := by
        funext beat
        simp [beatAt_send]
      rw [same]
      exact regular
  · have last : (detector.send id).lastBeat other = detector.lastBeat other := by
      simp [Detector.send, same]
    have beats : (detector.send id).BeatAt other = detector.BeatAt other := by
      funext beat
      simp [beatAt_send, same]
    refine ⟨?_, sender.past, ?_, sender.punctual, ?_⟩
    · rw [last, beats]
      exact sender.last
    · rw [last]
      exact sender.due
    · rw [beats]
      exact sender.regular

/-- A beat that is sent is still to be received by all others. -/
theorem Sound.send
    (sound : Sound periods detector) (known : id ∈ detector.started) :
    Sound periods (detector.send id) where
  started := sound.started
  silent := by
    intro other unknown
    obtain ⟨beats, receipts, heard⟩ := sound.silent other unknown
    refine ⟨fun beat member => ?_, receipts, heard⟩
    rcases List.mem_append.mp member with old | new
    · exact beats beat old
    · rw [List.mem_singleton.mp new]
      refine ⟨?_, fun addressed => ?_⟩
      · rintro rfl
        exact unknown known
      · exact unknown (sound.started other (List.mem_filter.mp addressed).1)
  past := by
    intro beat member
    rcases List.mem_append.mp member with old | new
    · exact sound.past beat old
    · rw [List.mem_singleton.mp new]
      exact Nat.le_refl _
  received := by
    intro other number receipt
    have bound := sound.received other number receipt
    simp only [Detector.send, List.length_append, List.length_singleton]
    omega
  heard := by
    intro other source time found
    obtain ⟨foreign, past, beat, member, holds⟩ :=
      sound.heard other source time found
    exact ⟨foreign, past, beat, List.mem_append_left _ member, holds⟩
  awaited := by
    intro number beat found other addressed isRunning
    rcases getElem?_concat_eq_some.mp found with old | ⟨_, rfl⟩
    · exact sound.awaited number beat old other addressed isRunning
    · exact Or.inr (Nat.le_add_right _ _)
  senders other isRunning := (sound.senders other isRunning).send
  observers := by
    intro other isRunning
    have observer := sound.observers other isRunning
    refine ⟨observer.punctual, observer.past, observer.checked, ?_⟩
    intro source time heard number beat found isSource settled
    rcases getElem?_concat_eq_some.mp found with old | ⟨rfl, rfl⟩
    · exact observer.latest source time heard number beat old isSource settled
    · -- Everybody else who runs is addressed, and nobody has received it yet.
      obtain ⟨foreign, _⟩ := sound.heard other source time heard
      have different : other ≠ id := by
        rintro rfl
        exact foreign isSource.symm
      have addressed :
          other ∈ detector.running.filter fun other => other ≠ id :=
        List.mem_filter.mpr ⟨isRunning, by simpa using different⟩
      have bound := sound.received _ _ (settled addressed)
      exact absurd bound (Nat.lt_irrefl _)
  kept := by
    intro other isRunning source sending foreign patient number beat found
      isSource receipt
    rcases getElem?_concat_eq_some.mp found with old | ⟨rfl, rfl⟩
    · exact
        sound.kept other isRunning source sending foreign patient number beat
          old isSource receipt
    · exact absurd (sound.received _ _ receipt) (Nat.lt_irrefl _)

theorem Sound.start
    (sound : Sound periods detector) (fresh : id ∉ detector.started) :
    Sound periods (detector.start id) := by
  obtain ⟨beats, receipts, silent⟩ := sound.silent id fresh
  have listed :
      Sound periods { detector with started := id :: detector.started } :=
    { sound with
      started := fun other isRunning =>
        List.mem_cons_of_mem id (sound.started other isRunning)
      silent := fun other unknown =>
        sound.silent other fun member =>
          unknown (List.mem_cons_of_mem id member)
      senders := fun other isRunning =>
        ⟨(sound.senders other isRunning).last,
          (sound.senders other isRunning).past,
          (sound.senders other isRunning).due,
          (sound.senders other isRunning).punctual,
          (sound.senders other isRunning).regular⟩
      observers := fun other isRunning =>
        ⟨(sound.observers other isRunning).punctual,
          (sound.observers other isRunning).past,
          (sound.observers other isRunning).checked,
          (sound.observers other isRunning).latest⟩ }
  have sent := listed.send List.mem_cons_self
  have notRunning : id ∉ detector.running := fun isRunning =>
    fresh (sound.started id isRunning)
  have others {other : Id} (isRunning : other ∈ detector.running) :
      other ≠ id := by
    rintro rfl
    exact notRunning isRunning
  have onlyBeat (time : Nat) :
      (detector.send id).BeatAt id time ↔ time = detector.clock := by
    rw [beatAt_send]
    constructor
    · rintro (⟨beat, member, isSource, _⟩ | ⟨_, now⟩)
      · exact absurd isSource (beats beat member).1
      · exact now
    · rintro rfl
      exact Or.inr ⟨rfl, rfl⟩
  refine { sent with
    started := ?_, awaited := ?_, senders := ?_, observers := ?_, kept := ?_ }
  · intro other isRunning
    rcases List.mem_cons.mp isRunning with rfl | old
    · exact List.mem_cons_self
    · exact List.mem_cons_of_mem id (sound.started other old)
  · intro number beat found other addressed isRunning
    rcases List.mem_cons.mp isRunning with rfl | old
    · have member : beat ∈ (detector.send other).beats :=
        List.mem_of_getElem? found
      rcases List.mem_append.mp member with old | new
      · exact absurd addressed (beats beat old).2
      · rw [List.mem_singleton.mp new]
        exact Or.inr (Nat.le_add_right _ _)
    · exact sent.awaited number beat found other addressed old
  · intro other isRunning
    rcases List.mem_cons.mp isRunning with rfl | old
    · have now : (detector.start other).lastBeat other = detector.clock := by
        simp [Detector.start, Detector.send]
      have passed : (detector.start other).passed other = detector.clock := by
        simp [Detector.start]
      refine ⟨?_, ?_, ?_, ?_, ?_⟩
      · rw [now]
        exact (onlyBeat _).mpr rfl
      · rw [passed]
        exact Nat.le_refl _
      · rw [passed, now]
        exact Nat.le_add_right _ _
      · rw [passed]
        exact Nat.le_add_right _ _
      · rintro time ⟨beat, isBeat, early⟩ late
        have isNow := (onlyBeat beat).mp isBeat
        have later : time + _ < detector.clock := late
        omega
    · have passed :
          (detector.start id).passed other = detector.passed other := by
        simp [Detector.start, others old]
      have sender := sent.senders other old
      refine ⟨sender.last, ?_, ?_, ?_, sender.regular⟩
      · rw [passed]
        exact sender.past
      · rw [passed]
        exact sender.due
      · rw [passed]
        exact sender.punctual
  · intro other isRunning
    rcases List.mem_cons.mp isRunning with rfl | old
    · have checked :
          (detector.start other).checked other = detector.clock := by
        simp [Detector.start]
      refine ⟨?_, ?_, ?_, ?_⟩
      · rw [checked]
        exact Nat.le_add_right _ _
      · rw [checked]
        exact Nat.le_refl _
      · intro source time heard
        cases (silent source).symm.trans heard
      · intro source time heard
        cases (silent source).symm.trans heard
    · have checked :
          (detector.start id).checked other = detector.checked other := by
        simp [Detector.start, others old]
      have observer := sent.observers other old
      refine ⟨?_, ?_, ?_, observer.latest⟩
      · rw [checked]
        exact observer.punctual
      · rw [checked]
        exact observer.past
      · rw [checked]
        exact observer.checked
  · intro other isRunning source sending foreign patient number beat found
      isSource receipt
    rcases List.mem_cons.mp isRunning with rfl | observing
    · exact absurd receipt (receipts number)
    · rcases List.mem_cons.mp sending with rfl | old
      · -- The only beat of the new process has not been received.
        rcases getElem?_concat_eq_some.mp found with old | ⟨rfl, _⟩
        · exact
            absurd isSource (beats beat (List.mem_of_getElem? old)).1
        · exact absurd (sound.received _ _ receipt) (Nat.lt_irrefl _)
      · exact
          sent.kept other observing source old foreign patient number beat
            found isSource receipt

theorem Sound.pass
    (sound : Sound periods detector) (isRunning : id ∈ detector.running) :
    Sound periods (detector.pass periods id) := by
  have passing (sent : Detector Id) (holds : Sound periods sent)
      (clock : sent.clock = detector.clock)
      (due : sent.clock ≤ sent.lastBeat id + periods.interval id) :
      Sound periods
        { sent with
          passed := Function.update sent.passed id detector.clock } := by
    refine { holds with senders := ?_, observers := ?_ }
    · intro other running
      have sender := holds.senders other running
      by_cases same : other = id
      · subst same
        refine ⟨sender.last, ?_, ?_, ?_, sender.regular⟩ <;>
          simp only [Function.update_self]
        · exact Nat.le_of_eq clock.symm
        · rw [← clock]
          exact due
        · rw [clock]
          exact Nat.le_add_right _ _
      · refine ⟨sender.last, ?_, ?_, ?_, sender.regular⟩ <;>
          simp only [Function.update_of_ne same]
        · exact sender.past
        · exact sender.due
        · exact sender.punctual
    · intro other running
      have observer := holds.observers other running
      exact ⟨observer.punctual, observer.past, observer.checked,
        observer.latest⟩
  unfold Detector.pass
  split
  · refine passing _ (sound.send (sound.started id isRunning)) rfl ?_
    simp [Detector.send]
  · rename_i notDue
    exact passing _ sound rfl (by omega)

/-- A process that hears a beat in time. -/
theorem Sound.hear
    (sound : Sound periods detector) (isRunning : id ∈ detector.running)
    {number : Nat} {beat : Beat Id}
    (found : detector.beats[number]? = some beat) (foreign : beat.source ≠ id)
    (inTime : detector.clock ≤ beat.sentAt + periods.delay) :
    Sound periods (detector.hear id number beat.source) := by
  have member := List.mem_of_getElem? found
  have heardCases {other source : Id} {time : Nat}
      (heard :
        (detector.hear id number beat.source).heard other source =
          some time) :
      (other = id ∧ source = beat.source ∧ time = detector.clock) ∨
        ((other, source) ≠ (id, beat.source) ∧
          detector.heard other source = some time) := by
    simp only [Detector.hear] at heard
    by_cases sameId : other = id
    · subst sameId
      rw [Function.update_self] at heard
      by_cases sameSource : source = beat.source
      · subst sameSource
        rw [Function.update_self] at heard
        exact Or.inl ⟨rfl, rfl, (Option.some.inj heard).symm⟩
      · rw [Function.update_of_ne sameSource] at heard
        exact Or.inr ⟨by simp [sameSource], heard⟩
    · rw [Function.update_of_ne sameId] at heard
      exact Or.inr ⟨by simp [sameId], heard⟩
  refine { sound with
    silent := ?_, received := ?_, heard := ?_, awaited := ?_, senders := ?_
    observers := ?_, kept := ?_ }
  · intro other unknown
    obtain ⟨beats, receipts, silent⟩ := sound.silent other unknown
    have different : other ≠ id := by
      rintro rfl
      exact unknown (sound.started other isRunning)
    refine ⟨beats, fun otherNumber receipt => ?_, fun source => ?_⟩
    · rcases List.mem_cons.mp receipt with same | old
      · cases same
        exact different rfl
      · exact receipts otherNumber old
    · simp [Detector.hear, different, silent]
  · intro other otherNumber receipt
    rcases List.mem_cons.mp receipt with same | old
    · cases same
      exact (List.getElem?_eq_some_iff.mp found).1
    · exact sound.received other otherNumber old
  · intro other source time heard
    rcases heardCases heard with ⟨rfl, rfl, rfl⟩ | ⟨_, old⟩
    · exact ⟨foreign, Nat.le_refl _, beat, member, rfl,
        sound.past beat member, inTime⟩
    · exact sound.heard other source time old
  · intro otherNumber other otherFound addressee addressed running
    rcases
        sound.awaited otherNumber other otherFound addressee addressed
          running with receipt | awaited
    · exact Or.inl (List.mem_cons_of_mem _ receipt)
    · exact Or.inr awaited
  · intro other running
    have sender := sound.senders other running
    exact ⟨sender.last, sender.past, sender.due, sender.punctual,
      sender.regular⟩
  · intro other running
    have observer := sound.observers other running
    refine ⟨observer.punctual, observer.past, ?_, ?_⟩
    · intro source time heard
      rcases heardCases heard with ⟨rfl, rfl, rfl⟩ | ⟨_, old⟩
      · exact Nat.le_add_right_of_le observer.past
      · exact observer.checked source time old
    · intro source time heard otherNumber otherBeat otherFound isSource settled
      rcases heardCases heard with ⟨rfl, rfl, rfl⟩ | ⟨elsewhere, old⟩
      · exact sound.past otherBeat (List.mem_of_getElem? otherFound)
      · refine
          observer.latest source time old otherNumber otherBeat otherFound
            isSource fun addressed => ?_
        rcases List.mem_cons.mp (settled addressed) with same | before
        · cases same
          cases found.symm.trans otherFound
          exact absurd (by rw [isSource]) elsewhere
        · exact before
  · intro other running source sending otherForeign patient otherNumber
      otherBeat otherFound isSource receipt
    simp only [Detector.hear]
    by_cases sameId : other = id
    · subst sameId
      rw [Function.update_self]
      by_cases sameSource : source = beat.source
      · subst sameSource
        simp
      · rw [Function.update_of_ne sameSource]
        refine
          sound.kept other running source sending otherForeign patient
            otherNumber otherBeat otherFound isSource ?_
        rcases List.mem_cons.mp receipt with same | before
        · cases same
          cases found.symm.trans otherFound
          exact absurd isSource.symm sameSource
        · exact before
    · rw [Function.update_of_ne sameId]
      refine
        sound.kept other running source sending otherForeign patient
          otherNumber otherBeat otherFound isSource ?_
      rcases List.mem_cons.mp receipt with same | before
      · cases same
        exact absurd rfl sameId
      · exact before

/-- A check forgets nobody whose beats it leaves room for. -/
theorem Sound.check
    (sound : Sound periods detector) (isRunning : id ∈ detector.running) :
    Sound periods (detector.check periods id) := by
  have heardBefore {other source : Id} {time : Nat}
      (heard : (detector.check periods id).heard other source = some time) :
      detector.heard other source = some time ∧
        (other = id → detector.clock - time ≤ periods.timeout id) := by
    simp only [Detector.check] at heard
    by_cases same : other = id
    · subst same
      rw [Function.update_self, Option.filter_eq_some_iff] at heard
      exact ⟨heard.1, fun _ => of_decide_eq_true heard.2⟩
    · rw [Function.update_of_ne same] at heard
      exact ⟨heard, fun equal => absurd equal same⟩
  refine { sound with
    silent := ?_, heard := ?_, senders := ?_, observers := ?_, kept := ?_ }
  · intro other unknown
    obtain ⟨beats, receipts, silent⟩ := sound.silent other unknown
    have different : other ≠ id := by
      rintro rfl
      exact unknown (sound.started other isRunning)
    exact ⟨beats, receipts, by simp [Detector.check, different, silent]⟩
  · intro other source time heard
    exact sound.heard other source time (heardBefore heard).1
  · intro other running
    have sender := sound.senders other running
    exact ⟨sender.last, sender.past, sender.due, sender.punctual,
      sender.regular⟩
  · intro other running
    have observer := sound.observers other running
    have latest :
        ∀ source time,
          (detector.check periods id).heard other source = some time →
          ∀ number beat, detector.beats[number]? = some beat →
            beat.source = source →
            (other ∈ beat.audience → (other, number) ∈ detector.receipts) →
            beat.sentAt ≤ time :=
      fun source time heard =>
        observer.latest source time (heardBefore heard).1
    by_cases same : other = id
    · subst same
      refine ⟨?_, ?_, ?_, latest⟩ <;>
        simp only [Detector.check, Function.update_self]
      · exact Nat.le_add_right _ _
      · exact Nat.le_refl _
      · intro source time heard
        have recent :=
          (heardBefore (by
            simpa only [Detector.check, Function.update_self] using heard)).2
            rfl
        omega
    · refine ⟨?_, ?_, ?_, latest⟩ <;>
        simp only [Detector.check, Function.update_of_ne same]
      · exact observer.punctual
      · exact observer.past
      · exact observer.checked
  · intro other running source sending foreign patient number beat found
      isSource receipt
    have known :=
      sound.kept other running source sending foreign patient number beat found
        isSource receipt
    simp only [Detector.check]
    by_cases same : other = id
    · subst same
      rw [Function.update_self]
      obtain ⟨time, heard⟩ := Option.ne_none_iff_exists'.mp known
      have recent := sound.heard_recently running sending heard
      have room : detector.clock - time ≤ periods.timeout other := by
        have bound := patient
        unfold Periods.Patient at bound
        omega
      rw [heard, Option.filter_some, if_pos (decide_eq_true room)]
      exact Option.some_ne_none time
    · rw [Function.update_of_ne same]
      exact known

theorem Sound.stop (sound : Sound periods detector) (id : Id) :
    Sound periods
      { detector with
        running := detector.running.filter fun other => other ≠ id } := by
  have stillRunning {other : Id}
      (running : other ∈ detector.running.filter fun other => other ≠ id) :
      other ∈ detector.running :=
    (List.mem_filter.mp running).1
  refine { sound with
    started := ?_, awaited := ?_, senders := ?_, observers := ?_, kept := ?_ }
  · exact fun other running => sound.started other (stillRunning running)
  · exact fun number beat found other addressed running =>
      sound.awaited number beat found other addressed (stillRunning running)
  · intro other running
    have sender := sound.senders other (stillRunning running)
    exact ⟨sender.last, sender.past, sender.due, sender.punctual,
      sender.regular⟩
  · intro other running
    have observer := sound.observers other (stillRunning running)
    exact ⟨observer.punctual, observer.past, observer.checked,
      observer.latest⟩
  · exact fun other running source sending =>
      sound.kept other (stillRunning running) source (stillRunning sending)

omit [DecidableEq Id] in
theorem Sound.elapse
    (sound : Sound periods detector) {time : Nat}
    (punctual : detector.Punctual periods (.elapse time)) :
    Sound periods { detector with clock := detector.clock + time } := by
  obtain ⟨loops, deliveries⟩ := punctual
  refine { sound with
    past := ?_, heard := ?_, awaited := ?_, senders := ?_, observers := ?_ }
  · exact fun beat member => Nat.le_add_right_of_le (sound.past beat member)
  · intro other source heardAt heard
    obtain ⟨foreign, past, holds⟩ := sound.heard other source heardAt heard
    exact ⟨foreign, Nat.le_add_right_of_le past, holds⟩
  · intro number beat found other addressed running
    exact
      deliveries (beat, number) (List.mem_zipIdx_iff_getElem?.mpr found) other
        addressed running
  · intro other running
    have sender := sound.senders other running
    have bound := (loops other running).1
    have due := sender.due
    refine ⟨sender.last, Nat.le_add_right_of_le sender.past, due, bound, ?_⟩
    obtain ⟨beat, member, isSource, last⟩ := sender.last
    refine
      sender.regular.elapse ⟨beat, member, isSource, last⟩ ?_ (by
        dsimp only
        omega)
    rw [← last]
    exact sound.past beat member
  · intro other running
    have observer := sound.observers other running
    exact ⟨(loops other running).2, Nat.le_add_right_of_le observer.past,
      observer.checked, observer.latest⟩

theorem Sound.step
    {action : DetectorStep Id} {target : Detector Id}
    (sound : Sound periods detector)
    (punctual : detector.Punctual periods action)
    (stepped : detector.step periods action = some target) :
    Sound periods target := by
  cases action with
  | start id =>
      simp only [Detector.step, Option.ite_none_left_eq_some,
        Option.some.injEq] at stepped
      obtain ⟨fresh, rfl⟩ := stepped
      exact sound.start fresh
  | pass id =>
      simp only [Detector.step, Option.ite_none_right_eq_some,
        Option.some.injEq] at stepped
      obtain ⟨isRunning, rfl⟩ := stepped
      exact sound.pass isRunning
  | hear id number =>
      simp only [Detector.step] at stepped
      split at stepped
      · cases stepped
      · rename_i beat found
        simp only [Option.ite_none_right_eq_some, Option.some.injEq]
          at stepped
        obtain ⟨⟨isRunning, foreign⟩, rfl⟩ := stepped
        exact sound.hear isRunning found foreign (punctual beat found)
  | check id =>
      simp only [Detector.step, Option.ite_none_right_eq_some,
        Option.some.injEq] at stepped
      obtain ⟨isRunning, rfl⟩ := stepped
      exact sound.check isRunning
  | stop id =>
      cases stepped
      exact sound.stop id
  | elapse time =>
      cases stepped
      exact sound.elapse punctual

end Steps

/-! ## A process that has stopped -/

/-- The process has stopped, and sent nothing after `since`. -/
structure Gone (since : Nat) (source : Id) (detector : Detector Id) :
    Prop where
  started : source ∈ detector.started
  stopped : source ∉ detector.running
  silent :
    ∀ beat ∈ detector.beats, beat.source = source → beat.sentAt ≤ since

section Stopped

variable {periods : Periods Id} {detector target : Detector Id}
  {since : Nat} {id source : Id} {action : DetectorStep Id}

theorem Gone.send
    (gone : Gone since source detector) (different : id ≠ source) :
    Gone since source (detector.send id) where
  started := gone.started
  stopped := gone.stopped
  silent := by
    intro beat member isSource
    rcases List.mem_append.mp member with old | new
    · exact gone.silent beat old isSource
    · rw [List.mem_singleton.mp new] at isSource
      exact absurd isSource different

theorem Gone.step
    (gone : Gone since source detector)
    (stepped : detector.step periods action = some target) :
    Gone since source target := by
  obtain ⟨started, stopped, silent⟩ := gone
  cases action with
  | start id =>
      simp only [Detector.step, Option.ite_none_left_eq_some,
        Option.some.injEq] at stepped
      obtain ⟨fresh, rfl⟩ := stepped
      have different : id ≠ source := by
        rintro rfl
        exact fresh started
      obtain ⟨_, _, kept⟩ := Gone.send ⟨started, stopped, silent⟩ different
      refine ⟨List.mem_cons_of_mem id started, fun member => ?_, kept⟩
      rcases List.mem_cons.mp member with same | old
      · exact different same.symm
      · exact stopped old
  | pass id =>
      simp only [Detector.step, Option.ite_none_right_eq_some,
        Option.some.injEq] at stepped
      obtain ⟨isRunning, rfl⟩ := stepped
      have different : id ≠ source := by
        rintro rfl
        exact stopped isRunning
      have sent := Gone.send ⟨started, stopped, silent⟩ different
      unfold Detector.pass
      split
      · exact ⟨started, stopped, sent.silent⟩
      · exact ⟨started, stopped, silent⟩
  | hear id number =>
      simp only [Detector.step] at stepped
      split at stepped
      · cases stepped
      · simp only [Option.ite_none_right_eq_some, Option.some.injEq]
          at stepped
        obtain ⟨_, rfl⟩ := stepped
        exact ⟨started, stopped, silent⟩
  | check id =>
      simp only [Detector.step, Option.ite_none_right_eq_some,
        Option.some.injEq] at stepped
      obtain ⟨_, rfl⟩ := stepped
      exact ⟨started, stopped, silent⟩
  | stop id =>
      cases stepped
      exact ⟨started, fun member => stopped (List.mem_filter.mp member).1,
        silent⟩
  | elapse time =>
      cases stepped
      exact ⟨started, stopped, silent⟩

omit [DecidableEq Id] in
theorem Sound.forgotten
    (sound : Sound periods detector) (gone : Gone since source detector)
    (observing : id ∈ detector.running)
    (late :
      since + periods.delay + periods.timeout id + periods.iteration <
        detector.clock) :
    detector.heard id source = none := by
  by_contra known
  obtain ⟨time, heard⟩ := Option.ne_none_iff_exists'.mp known
  obtain ⟨_, _, beat, member, isSource, _, inTime⟩ :=
    sound.heard id source time heard
  have sent := gone.silent beat member isSource
  have observer := sound.observers id observing
  have checked := observer.checked source time heard
  have punctual := observer.punctual
  omega

end Stopped

/-! ## Two processes that keep running -/

/-- One process has started and another has sent a beat; as long as the first
is running, it is to receive all beats of the other after `since`. -/
structure Addressing (since : Nat) (id source : Id) (detector : Detector Id) :
    Prop where
  started : id ∈ detector.started
  first : ∃ time, detector.BeatAt source time ∧ time ≤ since
  addressed :
    id ∈ detector.running →
      ∀ beat ∈ detector.beats, beat.source = source → since < beat.sentAt →
        id ∈ beat.audience

section Running

variable {periods : Periods Id} {detector target : Detector Id}
  {since : Nat} {id source : Id} {action : DetectorStep Id}

omit [DecidableEq Id] in
theorem Sound.addressing
    (sound : Sound periods detector) (observing : id ∈ detector.running)
    (sending : source ∈ detector.running) :
    Addressing detector.clock id source detector where
  started := sound.started id observing
  first := by
    obtain ⟨beat, member, isSource, last⟩ :=
      (sound.senders source sending).last
    exact ⟨_, ⟨beat, member, isSource, rfl⟩, sound.past beat member⟩
  addressed _ beat member _ late :=
    absurd (sound.past beat member) (Nat.not_le.mpr late)

theorem Addressing.send
    (addressing : Addressing since id source detector) (foreign : source ≠ id)
    (other : Id) : Addressing since id source (detector.send other) where
  started := addressing.started
  first := by
    obtain ⟨time, beat, early⟩ := addressing.first
    exact ⟨time, (beatAt_send source time).mpr (Or.inl beat), early⟩
  addressed := by
    intro isRunning beat member isSource late
    rcases List.mem_append.mp member with old | new
    · exact addressing.addressed isRunning beat old isSource late
    · rw [List.mem_singleton.mp new] at isSource ⊢
      refine List.mem_filter.mpr ⟨isRunning, ?_⟩
      have different : id ≠ other := by
        rintro rfl
        exact foreign isSource.symm
      simpa using different

theorem Addressing.step
    (addressing : Addressing since id source detector) (foreign : source ≠ id)
    (stepped : detector.step periods action = some target) :
    Addressing since id source target := by
  obtain ⟨started, first, addressed⟩ := addressing
  cases action with
  | start other =>
      simp only [Detector.step, Option.ite_none_left_eq_some,
        Option.some.injEq] at stepped
      obtain ⟨fresh, rfl⟩ := stepped
      obtain ⟨_, kept, toAll⟩ :=
        Addressing.send ⟨started, first, addressed⟩ foreign other
      refine ⟨List.mem_cons_of_mem other started, kept, fun isRunning => ?_⟩
      rcases List.mem_cons.mp isRunning with rfl | old
      · exact absurd started fresh
      · exact toAll old
  | pass other =>
      simp only [Detector.step, Option.ite_none_right_eq_some,
        Option.some.injEq] at stepped
      obtain ⟨_, rfl⟩ := stepped
      have sent := Addressing.send ⟨started, first, addressed⟩ foreign other
      unfold Detector.pass
      split
      · exact ⟨started, sent.first, sent.addressed⟩
      · exact ⟨started, first, addressed⟩
  | hear other number =>
      simp only [Detector.step] at stepped
      split at stepped
      · cases stepped
      · simp only [Option.ite_none_right_eq_some, Option.some.injEq]
          at stepped
        obtain ⟨_, rfl⟩ := stepped
        exact ⟨started, first, addressed⟩
  | check other =>
      simp only [Detector.step, Option.ite_none_right_eq_some,
        Option.some.injEq] at stepped
      obtain ⟨_, rfl⟩ := stepped
      exact ⟨started, first, addressed⟩
  | stop other =>
      cases stepped
      exact ⟨started, first, fun isRunning =>
        addressed (List.mem_filter.mp isRunning).1⟩
  | elapse time =>
      cases stepped
      exact ⟨started, first, addressed⟩

/-- One has heard the other, and lately. -/
theorem Sound.known
    (sound : Sound periods detector)
    (addressing : Addressing since id source detector) (foreign : source ≠ id)
    (observing : id ∈ detector.running) (sending : source ∈ detector.running)
    (patient : periods.Patient id source)
    (late :
      since + (periods.interval source + periods.iteration) + periods.delay <
        detector.clock) :
    ∃ time, detector.heard id source = some time ∧
      detector.clock ≤
        time + (periods.interval source + periods.iteration) +
          periods.delay := by
  obtain ⟨_, ⟨beat, member, isSource, rfl⟩, after, soon⟩ :=
    (sound.senders source sending).regular since addressing.first (by omega)
  obtain ⟨number, found⟩ := List.mem_iff_getElem?.mp member
  have addressed :=
    addressing.addressed observing beat member isSource after
  have receipt : (id, number) ∈ detector.receipts := by
    rcases sound.awaited number beat found id addressed observing with
      received | awaited
    · exact received
    · omega
  obtain ⟨time, heard⟩ :=
    Option.ne_none_iff_exists'.mp
      (sound.kept id observing source sending foreign patient number beat found
        isSource receipt)
  exact ⟨time, heard, sound.heard_recently observing sending heard⟩

end Running

end Detector

end Processes

end MiniMiddleware.Library
