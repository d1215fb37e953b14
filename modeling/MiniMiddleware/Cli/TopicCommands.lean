import MiniMiddleware.Cli.MessageFormat
import MiniMiddleware.Core.Subscriber
import MiniMiddleware.Library.Monitor
import Mathlib.Data.ENat.Basic
import Mathlib.Data.List.Induction

/-!
# `topic echo` and `topic hz`

Both commands create a subscriber whose callback changes a state behind a
mutex, and `main` waits on a condition variable until the callback says that
the state is done.  The callback ignores what comes later; `main` returns and
with it destroys the subscriber, whose worker may still call back until it is
joined.

The callback calls `notify_one` under the mutex; here the call may also come
later, which only adds interleavings.
-/

namespace MiniMiddleware.Cli

open MiniMiddleware.Core MiniMiddleware.Library MiniMiddleware.Transport

/-- What a command does: its state, the callback for a message and the time at
which it came, when it is done, and whether `main` waits for that. -/
structure TopicCommand (State Message : Type) where
  initial : State
  callback : Message → Nat → State → State
  done : State → Bool
  waits : Bool

/-- Where `main` stands: in front of its wait, inside it, or behind it. -/
inductive MainPc where
  | starting
  | waiting
  | returned
  deriving DecidableEq, Repr

/-- A running command. -/
structure CommandRun (State : Type) where
  subscriber : Subscriber
  monitor : Monitor State Unit
  main : MainPc
  deriving DecidableEq, Repr

/-- The bus enqueues, the worker pops and calls back, `main` waits, and the
subscriber is destroyed once `main` has returned. -/
inductive CommandInput where
  | enqueue (bytes : Bytes)
  | take
  | handle (now : Nat)
  | enter
  | look
  | notify (woken : Option Unit)
  | wake
  | close
  deriving DecidableEq, Repr

/-- What happens at the subscriber, and the calls of the callback. -/
inductive CommandEvent (Message : Type) where
  | subscriber (event : SubscriberEvent Message)
  | callback (message : Message) (now : Nat)
  deriving DecidableEq, Repr

section Commands

variable {State Message : Type}

namespace TopicCommand

/-- The callback, which returns at once when the command is done. -/
def onMessage (command : TopicCommand State Message) (state : State)
    (call : Message × Nat) : State :=
  if command.done state then state else command.callback call.1 call.2 state

/-- The body of the waiting loop of `main`. -/
def verdict (command : TopicCommand State Message) (state : State)
    (_main : Unit) : Option State :=
  if command.done state then some state else none

end TopicCommand

namespace CommandRun

/-- A step of the subscriber that is not a callback. -/
def onSubscriber (parse : Bytes → Option Message) (run : CommandRun State)
    (input : SubscriberInput) :
    Option (CommandRun State × List (CommandEvent Message)) :=
  (run.subscriber.step parse input).map fun after =>
    ({ run with subscriber := after.1 }, after.2.map .subscriber)

/-- The callbacks of the worker, under the mutex. -/
def called (command : TopicCommand State Message) (run : CommandRun State)
    (messages : List Message) (now : Nat) : Monitor State Unit :=
  messages.foldl
    (fun monitor message =>
      if command.done monitor.data then
        monitor
      else
        monitor.update (command.callback message now monitor.data) 1 0)
    run.monitor

/-- One step. -/
def step (command : TopicCommand State Message)
    (parse : Bytes → Option Message) (run : CommandRun State) :
    CommandInput → Option (CommandRun State × List (CommandEvent Message))
  | .enqueue bytes => run.onSubscriber parse (.enqueue bytes)
  | .take => run.onSubscriber parse .take
  | .handle now =>
      (run.subscriber.step parse .handle).map fun after =>
        ({ run with
            subscriber := after.1
            monitor := run.called command (callbacks after.2) now },
          after.2.map .subscriber ++
            (callbacks after.2).map fun message => .callback message now)
  | .enter =>
      if run.main = .starting ∧ command.waits then
        some
          ({ run with monitor := run.monitor.enter (), main := .waiting }, [])
      else
        none
  | .look =>
      (run.monitor.look command.verdict ()).map fun monitor =>
        ({ run with
            monitor := monitor
            main :=
              if command.done run.monitor.data then .returned else .waiting },
          [])
  | .notify woken =>
      (run.monitor.notifyOne woken).map fun monitor =>
        ({ run with monitor := monitor }, [])
  | .wake =>
      (run.monitor.rouse () ()).map fun monitor =>
        ({ run with monitor := monitor }, [])
  | .close =>
      if run.main = .returned then
        run.onSubscriber parse .close
      else
        none

end CommandRun

/-- A command whose subscriber has the given QoS. -/
def commandMachine (command : TopicCommand State Message)
    (parse : Bytes → Option Message) (qos : Qos) :
    Machine (CommandRun State) CommandInput (CommandEvent Message) where
  initial := fun run =>
    run = ⟨.created qos, Monitor.unused command.initial, .starting⟩
  step := CommandRun.step command parse

/-- The calls of the callback, with their times. -/
def callsOf (events : List (CommandEvent Message)) : List (Message × Nat) :=
  events.filterMap fun
    | .callback message now => some (message, now)
    | .subscriber _ => none

/-- What happened at the subscriber. -/
def seenOf (events : List (CommandEvent Message)) :
    List (SubscriberEvent Message) :=
  events.filterMap fun
    | .callback _ _ => none
    | .subscriber event => some event

end Commands

/-! ## The two commands -/

/-- `EchoState`. -/
structure EchoState where
  received : Nat := 0
  done : Bool := false
  out : Text := []
  deriving DecidableEq, Repr

/-- `HzState`; times are nanoseconds. -/
structure HzState where
  timestamps : List Nat := []
  done : Bool := false
  deriving DecidableEq, Repr

/-- What the callback of `topic echo` prints for a message. -/
def echoLines (formatted : FormatResult) : Text :=
  (if formatted.ok then formatted.text else formatted.error) ++ ['\n'] ++
    "---\n".toList

section Echo

variable {Float Double Message : Type}

/-- `run_echo_for`; `serialize` is `SerializeToString`. -/
def echoCommand (formats : MessageFormats Float Double)
    (serialize : Message → Bytes) (typeName : Text) (count : Int) :
    TopicCommand EchoState Message where
  initial := {}
  callback := fun message _ state =>
    let formatted := formatMessage formats typeName (serialize message)
    let received := state.received + 1
    { received := received
      done := 0 < count ∧ count ≤ received
      out := state.out ++ echoLines formatted }
  done := EchoState.done
  waits := 0 < count

/-- `run_hz_for`, up to its wait. -/
def hzCommand (count : Int) : TopicCommand HzState Message where
  initial := {}
  callback := fun _ now state =>
    let timestamps := state.timestamps ++ [now]
    { timestamps := timestamps
      done := 0 < count ∧ count ≤ timestamps.length }
  done := HzState.done
  waits := 0 < count

end Echo

/-- The intervals, the first and the last time that `run_hz_for` computes the
rate from; without two times there is none. -/
def hzSample (window : Int) (timestamps : List Nat) :
    Option (Nat × Nat × Nat) :=
  let boundedWindow := if 1 < window then window else 2
  let sampleCount := (min boundedWindow timestamps.length).toNat
  if 2 ≤ sampleCount then
    match timestamps[timestamps.length - sampleCount]?,
        timestamps.getLast? with
    | some first, some last => some (sampleCount - 1, first, last)
    | _, _ => none
  else
    none

/-! ## Every command -/

section Runs

variable {State Message : Type} {command : TopicCommand State Message}
  {parse : Bytes → Option Message} {qos : Qos}
  {run after : CommandRun State} {input : CommandInput}
  {events emitted : List (CommandEvent Message)}

@[simp]
theorem callsOf_append (earlier later : List (CommandEvent Message)) :
    callsOf (earlier ++ later) = callsOf earlier ++ callsOf later :=
  List.filterMap_append

@[simp]
theorem seenOf_append (earlier later : List (CommandEvent Message)) :
    seenOf (earlier ++ later) = seenOf earlier ++ seenOf later :=
  List.filterMap_append

@[simp]
theorem callsOf_map_subscriber (seen : List (SubscriberEvent Message)) :
    callsOf (seen.map .subscriber) = [] := by
  simp [callsOf, List.filterMap_map]

@[simp]
theorem seenOf_map_subscriber (seen : List (SubscriberEvent Message)) :
    seenOf (seen.map .subscriber) = seen := by
  simp [seenOf, List.filterMap_map]

@[simp]
theorem callsOf_map_callback (messages : List Message) (now : Nat) :
    callsOf (messages.map fun message => .callback message now) =
      messages.map fun message => (message, now) := by
  simp [callsOf, List.filterMap_map]

@[simp]
theorem seenOf_map_callback (messages : List Message) (now : Nat) :
    seenOf (messages.map fun message => .callback message now) = [] := by
  simp [seenOf, List.filterMap_map]

namespace TopicCommand

/-- `main` may leave its wait once the command is done. -/
def tickets (command : TopicCommand State Message) (state : State) : ℕ∞ :=
  if command.done state then 1 else 0

theorem tickets_le_one (state : State) : command.tickets state ≤ 1 := by
  unfold tickets
  split_ifs
  · exact le_refl 1
  · exact zero_le_one

theorem tickets_eq_zero_iff {state : State} :
    command.tickets state = 0 ↔ command.done state = false := by
  unfold tickets
  cases command.done state with
  | true =>
      simp
  | false =>
      simp

theorem foldl_of_done
    {state : State} (done : command.done state = true)
    (calls : List (Message × Nat)) :
    calls.foldl command.onMessage state = state := by
  induction calls with
  | nil =>
      rfl
  | cons call rest inductionHypothesis =>
      have stays : command.onMessage state call = state := by
        rw [onMessage, if_pos done]
      rw [List.foldl_cons, stays]
      exact inductionHypothesis

end TopicCommand

namespace CommandRun

/-- The callbacks of the worker change the state, one after the other, and call
for `main`. -/
theorem called_spec
    (covered : run.monitor.Covered command.tickets)
    (messages : List Message) (now : Nat) :
    (run.called command messages now).data =
        (messages.map fun message => (message, now)).foldl command.onMessage
          run.monitor.data ∧
      (run.called command messages now).waiting = run.monitor.waiting ∧
      (run.called command messages now).Covered command.tickets := by
  unfold called
  generalize run.monitor = monitor at covered ⊢
  induction messages generalizing monitor with
  | nil =>
      exact ⟨rfl, rfl, covered⟩
  | cons message rest inductionHypothesis =>
      rw [List.foldl_cons, List.map_cons, List.foldl_cons]
      by_cases done : command.done monitor.data
      · have stays :
            command.onMessage monitor.data (message, now) = monitor.data := by
          rw [TopicCommand.onMessage, if_pos done]
        rw [if_pos done, stays]
        exact inductionHypothesis monitor covered
      · have changes :
            command.onMessage monitor.data (message, now) =
              command.callback message now monitor.data := by
          rw [TopicCommand.onMessage, if_neg done]
        rw [if_neg done, changes]
        have few :
            command.tickets (command.callback message now monitor.data) ≤ 1 :=
          TopicCommand.tickets_le_one _
        have called :
            command.tickets (command.callback message now monitor.data) ≤
              command.tickets monitor.data + (1 : ℕ) :=
          few.trans le_add_self
        exact inductionHypothesis _ (covered.update (Or.inl called))

/-- What holds of a running command: its state is that of the calls so far,
`main` is the only one that waits, and it is woken when it has to be. -/
structure Sound (command : TopicCommand State Message)
    (parse : Bytes → Option Message) (qos : Qos) (run : CommandRun State)
    (events : List (CommandEvent Message)) : Prop where
  subscribed :
    ∃ steps,
      (subscriberMachine parse qos).Run Machine.free steps run.subscriber
        (seenOf events)
  messages : (callsOf events).map Prod.fst = callbacks (seenOf events)
  data :
    run.monitor.data =
      (callsOf events).foldl command.onMessage command.initial
  waiting :
    run.monitor.waiting = if run.main = .waiting then [()] else []
  covered : run.monitor.Covered command.tickets
  returned :
    run.main = .returned → command.done run.monitor.data = true
  waits : run.main ≠ .starting → command.waits = true

/-- Only the worker's `handle` calls back. -/
theorem callbacks_eq_nil
    {subscriber reached : Subscriber} {step : SubscriberInput}
    {seen : List (SubscriberEvent Message)}
    (other : step ≠ .handle)
    (moved : subscriber.step parse step = some (reached, seen)) :
    callbacks seen = [] := by
  cases step with
  | enqueue bytes =>
      obtain ⟨⟨queue, happened⟩, _, equal⟩ := Option.map_eq_some_iff.mp moved
      cases equal
      exact callbacks_map_queue happened
  | take =>
      simp only [Subscriber.step] at moved
      split_ifs at moved
      obtain ⟨⟨queue, held⟩, _, equal⟩ := Option.map_eq_some_iff.mp moved
      cases equal
      exact callbacks_map_queue _
  | handle =>
      exact (other rfl).elim
  | close =>
      cases moved
      rfl

theorem Sound.onSubscriber
    (sound : Sound command parse qos run events) (step : SubscriberInput)
    (other : step ≠ .handle)
    (stepped : run.onSubscriber parse step = some (after, emitted)) :
    Sound command parse qos after (events ++ emitted) := by
  obtain ⟨⟨subscriber, seen⟩, moved, equal⟩ :=
    Option.map_eq_some_iff.mp stepped
  cases equal
  obtain ⟨steps, before⟩ := sound.subscribed
  have extended :
      (subscriberMachine parse qos).Run Machine.free (steps ++ [step])
        subscriber (seenOf events ++ seen) :=
    before.next trivial moved
  refine ⟨⟨steps ++ [step], ?_⟩, ?_, ?_, sound.waiting, sound.covered,
    sound.returned, sound.waits⟩
  · rw [seenOf_append, seenOf_map_subscriber]
    exact extended
  · rw [callsOf_append, seenOf_append, callsOf_map_subscriber,
      seenOf_map_subscriber, callbacks_append, callbacks_eq_nil other moved,
      List.append_nil, List.append_nil]
    exact sound.messages
  · rw [callsOf_append, callsOf_map_subscriber, List.append_nil]
    exact sound.data

theorem Sound.handle
    (sound : Sound command parse qos run events) {now : Nat}
    (stepped : run.step command parse (.handle now) = some (after, emitted)) :
    Sound command parse qos after (events ++ emitted) := by
  obtain ⟨⟨subscriber, seen⟩, moved, equal⟩ :=
    Option.map_eq_some_iff.mp stepped
  cases equal
  obtain ⟨steps, before⟩ := sound.subscribed
  obtain ⟨data, waiting, covered⟩ :=
    called_spec sound.covered (callbacks seen) now
  have extended :
      (subscriberMachine parse qos).Run Machine.free (steps ++ [.handle])
        subscriber (seenOf events ++ seen) :=
    before.next trivial moved
  refine ⟨⟨steps ++ [.handle], ?_⟩, ?_, ?_, waiting.trans sound.waiting,
    covered, ?_, sound.waits⟩
  · rw [seenOf_append, seenOf_append, seenOf_map_subscriber,
      seenOf_map_callback, List.append_nil]
    exact extended
  · rw [callsOf_append, callsOf_append, seenOf_append, seenOf_append,
      callsOf_map_subscriber, seenOf_map_subscriber, callsOf_map_callback,
      seenOf_map_callback, List.append_nil, List.nil_append, List.map_append,
      callbacks_append, sound.messages, List.map_map]
    have first :
        (Prod.fst ∘ fun message : Message => (message, now)) = id := rfl
    rw [first, List.map_id]
  · rw [callsOf_append, callsOf_append, callsOf_map_subscriber,
      callsOf_map_callback, List.nil_append, List.foldl_append, ← sound.data]
    exact data
  · intro returned
    have done := sound.returned returned
    change command.done (run.called command (callbacks seen) now).data = true
    rw [data, TopicCommand.foldl_of_done done]
    exact done

theorem Sound.look
    (sound : Sound command parse qos run events)
    (stepped : run.step command parse .look = some (after, emitted)) :
    Sound command parse qos after (events ++ emitted) := by
  obtain ⟨monitor, moved, equal⟩ := Option.map_eq_some_iff.mp stepped
  cases equal
  rw [List.append_nil]
  obtain ⟨present, outcome⟩ := Monitor.perm_of_look moved
  have inside : run.main = .waiting := by
    by_contra outside
    rw [sound.waiting, if_neg outside] at present
    cases present
  have sole : run.monitor.waiting = [()] := by
    rw [sound.waiting, if_pos inside]
  have alone : run.monitor.awake ≠ [] → run.monitor.asleep = [] := by
    intro awake
    have lengths := congrArg List.length sole
    have some := List.length_pos_of_ne_nil awake
    simp only [Monitor.waiting, List.length_append, List.length_singleton]
      at lengths
    exact List.eq_nil_of_length_eq_zero (by omega)
  have covered : monitor.Covered command.tickets := by
    refine sound.covered.look ?_ ?_ moved
    · intro waits
      unfold TopicCommand.verdict at waits
      split_ifs at waits with done
      exact TopicCommand.tickets_eq_zero_iff.mpr (Bool.eq_false_iff.mpr done)
    · intro data _
      left
      apply alone
      intro empty
      rw [Monitor.look, empty] at moved
      simp at moved
  rcases outcome with ⟨asleep, same, data⟩ | ⟨found, left⟩
  · have pending : command.done run.monitor.data = false := by
      unfold TopicCommand.verdict at asleep
      split_ifs at asleep with done
      exact Bool.eq_false_iff.mpr done
    rw [pending]
    refine ⟨sound.subscribed, sound.messages, data.trans sound.data, ?_,
      covered, fun left => by simp at left, fun _ => ?_⟩
    · rw [sole] at same
      exact List.perm_singleton.mp same
    · exact sound.waits (by simp [inside])
  · have finished : command.done run.monitor.data = true := by
      unfold TopicCommand.verdict at found
      split_ifs at found with done
      exact done
    have data : monitor.data = run.monitor.data := by
      unfold TopicCommand.verdict at found
      rw [if_pos finished] at found
      exact (Option.some.inj found).symm
    rw [finished]
    refine ⟨sound.subscribed, sound.messages, data.trans sound.data, ?_,
      covered, fun _ => ?_, fun _ => ?_⟩
    · have lengths := left.length_eq
      rw [sole, List.length_cons, List.length_singleton] at lengths
      exact List.eq_nil_of_length_eq_zero (Nat.succ.inj lengths)
    · change command.done monitor.data = true
      rw [data]
      exact finished
    · exact sound.waits (by simp [inside])

theorem Sound.moved
    (sound : Sound command parse qos run events)
    {monitor : Monitor State Unit}
    (same : monitor.waiting.Perm run.monitor.waiting)
    (data : monitor.data = run.monitor.data)
    (covered : monitor.Covered command.tickets) :
    Sound command parse qos { run with monitor := monitor } events := by
  refine ⟨sound.subscribed, sound.messages, data.trans sound.data, ?_, covered,
    fun returned => ?_, sound.waits⟩
  · have before := sound.waiting
    rw [before] at same
    by_cases inside : run.main = .waiting
    · rw [if_pos inside] at same ⊢
      exact List.perm_singleton.mp same
    · rw [if_neg inside] at same ⊢
      exact List.perm_nil.mp same
  · have done := sound.returned returned
    change command.done monitor.data = true
    rw [data]
    exact done

theorem Sound.step
    (sound : Sound command parse qos run events)
    (stepped : run.step command parse input = some (after, emitted)) :
    Sound command parse qos after (events ++ emitted) := by
  cases input with
  | enqueue bytes =>
      exact sound.onSubscriber (.enqueue bytes) nofun stepped
  | take =>
      exact sound.onSubscriber .take nofun stepped
  | handle now =>
      exact sound.handle stepped
  | enter =>
      simp only [CommandRun.step] at stepped
      split_ifs at stepped with begins
      cases stepped
      rw [List.append_nil]
      have nobody := sound.waiting
      rw [begins.1, if_neg nofun] at nobody
      obtain ⟨asleep, awake⟩ := List.append_eq_nil_iff.mp nobody
      refine ⟨sound.subscribed, sound.messages, sound.data, ?_,
        sound.covered.enter (), nofun, fun _ => begins.2⟩
      simp [Monitor.enter, Monitor.waiting, asleep, awake]
  | look =>
      exact sound.look stepped
  | notify woken =>
      obtain ⟨monitor, moved, equal⟩ := Option.map_eq_some_iff.mp stepped
      cases equal
      rw [List.append_nil]
      obtain ⟨same, data⟩ := Monitor.perm_of_notifyOne moved
      exact sound.moved same data (sound.covered.notifyOne moved)
  | wake =>
      obtain ⟨monitor, moved, equal⟩ := Option.map_eq_some_iff.mp stepped
      cases equal
      rw [List.append_nil]
      obtain ⟨present, same, data⟩ := Monitor.perm_of_rouse moved
      have back := same.trans (List.perm_cons_erase present).symm
      exact sound.moved back data (sound.covered.rouse moved)
  | close =>
      simp only [CommandRun.step] at stepped
      split_ifs at stepped
      exact sound.onSubscriber .close nofun stepped

end CommandRun

theorem CommandRun.sound_of_run
    {inputs : List CommandInput}
    (steps :
      (commandMachine command parse qos).Run Machine.free inputs run events) :
    CommandRun.Sound command parse qos run events := by
  refine steps.invariant
    (fun run events => CommandRun.Sound command parse qos run events) ?_ ?_
  · rintro run rfl
    exact ⟨⟨[], .start rfl⟩, rfl, rfl, rfl, Or.inl rfl, nofun,
      fun begun => (begun rfl).elim⟩
  · intro run events input after emitted sound _ stepped
    exact sound.step stepped

/-- Once nobody has anything to do, `main` only waits for a command that is not
done. -/
theorem CommandRun.Sound.pending
    (sound : CommandRun.Sound command parse qos run events)
    (inside : run.main = .waiting) (quiet : run.monitor.Quiet) :
    command.done run.monitor.data = false := by
  rcases sound.covered.asleep_of_quiet quiet with nobody | without
  · have sole := sound.waiting
    rw [if_pos inside, Monitor.waiting, nobody, quiet.awake] at sole
    cases sole
  · exact TopicCommand.tickets_eq_zero_iff.mp without

end Runs

/-! ## The first messages -/

section First

variable {Float Double Message : Type}

/-- The first `count` items, or all of them without a count. -/
def shown {Item : Type} (count : Int) (items : List Item) : List Item :=
  if 0 < count then items.take count.toNat else items

theorem shown_concat {Item : Type} (count : Int) (items : List Item)
    (item : Item) :
    shown count (items ++ [item]) =
      if 0 < count ∧ count ≤ items.length then
        shown count items
      else
        shown count items ++ [item] := by
  unfold shown
  by_cases counted : 0 < count
  · by_cases enough : count ≤ items.length
    · have inside : count.toNat ≤ items.length := by omega
      rw [if_pos counted, if_pos counted, if_pos ⟨counted, enough⟩,
        List.take_append_of_le_length inside]
    · have beyond : items.length < count.toNat := by omega
      rw [if_pos counted, if_pos counted, if_neg (fun both => enough both.2),
        List.take_of_length_le, List.take_of_length_le]
      · omega
      · rw [List.length_append, List.length_singleton]
        omega
  · rw [if_neg counted, if_neg counted, if_neg (fun both => counted both.1)]

theorem shown_of_few {Item : Type} {count : Int} {items : List Item}
    (few : ¬(0 < count ∧ count ≤ items.length)) :
    shown count items = items := by
  unfold shown
  split_ifs with counted
  · apply List.take_of_length_le
    omega
  · rfl

theorem map_shown {Item Other : Type} (f : Item → Other) (count : Int)
    (items : List Item) :
    (shown count items).map f = shown count (items.map f) := by
  unfold shown
  split_ifs
  · exact List.map_take
  · rfl

/-- The state after the calls of a callback that keeps what it is called with
until it has been called `count` times. -/
theorem foldl_onMessage
    {State : Type} (command : TopicCommand State Message) (count : Int)
    (kept : List (Message × Nat) → Bool → State)
    (done : ∀ items flag, command.done (kept items flag) = flag)
    (callback :
      ∀ items call,
        command.callback call.1 call.2 (kept items false) =
          kept (items ++ [call])
            (decide (0 < count ∧ count ≤ (items ++ [call]).length)))
    (calls : List (Message × Nat)) :
    calls.foldl command.onMessage (kept [] false) =
      kept (shown count calls)
        (decide (0 < count ∧ count ≤ calls.length)) := by
  induction calls using List.reverseRecOn with
  | nil =>
      have unfinished : ¬(0 < count ∧ count ≤ (0 : Int)) := by omega
      simp [shown, unfinished]
  | append_singleton calls call inductionHypothesis =>
      rw [List.foldl_append, inductionHypothesis, List.foldl_cons,
        List.foldl_nil, shown_concat, TopicCommand.onMessage, done]
      by_cases finished : 0 < count ∧ count ≤ calls.length
      · have still : 0 < count ∧ count ≤ (calls ++ [call]).length := by
          rw [List.length_append, List.length_singleton]
          omega
        rw [if_pos finished, if_pos (decide_eq_true finished),
          decide_eq_true finished, decide_eq_true still]
      · rw [if_neg finished, if_neg (by simpa using finished),
          decide_eq_false finished, shown_of_few finished, callback]

/-- The state of `topic echo` after the calls of its callback. -/
theorem foldl_echo
    (formats : MessageFormats Float Double) (serialize : Message → Bytes)
    (typeName : Text) (count : Int) (calls : List (Message × Nat)) :
    calls.foldl (echoCommand formats serialize typeName count).onMessage {} =
      { received := (shown count calls).length
        done := decide (0 < count ∧ count ≤ calls.length)
        out :=
          (shown count calls).flatMap fun call =>
            echoLines
              (formatMessage formats typeName (serialize call.1)) } := by
  refine
    foldl_onMessage (echoCommand formats serialize typeName count) count
      (fun items flag =>
        { received := items.length
          done := flag
          out :=
            items.flatMap fun call =>
              echoLines
                (formatMessage formats typeName (serialize call.1)) })
      (fun _ _ => rfl) (fun items call => ?_) calls
  simp [echoCommand]

/-- The state of `topic hz` after the calls of its callback. -/
theorem foldl_hz (count : Int) (calls : List (Message × Nat)) :
    calls.foldl (hzCommand count).onMessage {} =
      { timestamps := (shown count calls).map Prod.snd
        done := decide (0 < count ∧ count ≤ calls.length) } := by
  refine
    foldl_onMessage (hzCommand count) count
      (fun items flag => { timestamps := items.map Prod.snd, done := flag })
      (fun _ _ => rfl) (fun items call => ?_) calls
  simp [hzCommand]

/-- With two times at least, the rate is computed from times that exist. -/
theorem hzSample_of_length
    (window : Int) (timestamps : List Nat) (several : 2 ≤ timestamps.length) :
    ∃ first last,
      hzSample window timestamps =
          some ((min (max window 2) timestamps.length).toNat - 1, first,
            last) ∧
        timestamps[timestamps.length -
          (min (max window 2) timestamps.length).toNat]? = some first ∧
        timestamps[timestamps.length - 1]? = some last := by
  have bounded : (if 1 < window then window else 2) = max window 2 := by
    split_ifs <;> omega
  unfold hzSample
  simp only [bounded]
  have least : 2 ≤ (min (max window 2) (timestamps.length : Int)).toNat := by
    omega
  rw [if_pos least]
  have inside :
      timestamps.length - (min (max window 2) timestamps.length).toNat <
        timestamps.length := by
    omega
  have nonempty : timestamps.length - 1 < timestamps.length := by omega
  rw [List.getElem?_eq_getElem inside, List.getLast?_eq_getElem?,
    List.getElem?_eq_getElem nonempty]
  exact ⟨_, _, rfl, rfl, rfl⟩

/-- `topic echo` prints the first `count` messages that its subscriber is called
back with, whatever comes later; it returns when they are printed, and is not
left asleep then. -/
theorem echo_prints_first
    {formats : MessageFormats Float Double} {serialize : Message → Bytes}
    {typeName : Text} {count : Int} {parse : Bytes → Option Message}
    {qos : Qos} {inputs : List CommandInput} {run : CommandRun EchoState}
    {events : List (CommandEvent Message)}
    (steps :
      (commandMachine (echoCommand formats serialize typeName count) parse
        qos).Run Machine.free inputs run events) :
    run.monitor.data.out =
        ((shown count (callbacks (seenOf events))).flatMap fun message =>
          echoLines (formatMessage formats typeName (serialize message))) ∧
      (run.main = .returned →
        0 < count ∧ count ≤ (callbacks (seenOf events)).length) ∧
      (run.main = .waiting → run.monitor.Quiet →
        (callbacks (seenOf events)).length < count) := by
  have sound := CommandRun.sound_of_run steps
  have data := sound.data.trans (foldl_echo _ _ _ _ _)
  have finished :
      run.monitor.data.done =
        decide (0 < count ∧ count ≤ (callbacks (seenOf events)).length) := by
    rw [data, ← sound.messages, List.length_map]
  refine ⟨?_, fun returned => ?_, fun waiting quiet => ?_⟩
  · rw [data, ← sound.messages, ← map_shown, List.flatMap_map]
  · have done := sound.returned returned
    change run.monitor.data.done = true at done
    rw [finished] at done
    exact of_decide_eq_true done
  · have pending := sound.pending waiting quiet
    change run.monitor.data.done = false at pending
    rw [finished] at pending
    have open' := of_decide_eq_false pending
    have waits := sound.waits (by rw [waiting]; exact nofun)
    have counted : 0 < count := of_decide_eq_true waits
    omega

/-- A parser that knows two messages. -/
def letterFormats : MessageFormats Unit Unit where
  parseString := fun bytes =>
    if bytes = [1] then some ['a'] else if bytes = [2] then some ['b'] else none
  parsePoint := fun _ => none
  parseCloud := fun _ => none
  showFloat := fun _ => []
  showDouble := fun _ => []

/-- Three messages, of which the last comes when two are printed, and `main`
that is woken once by itself. -/
def threeMessages : List CommandInput :=
  [.enqueue [1], .enqueue [2], .enqueue [1], .enter, .look, .take, .handle 10,
    .notify (some ()), .look, .take, .handle 30, .wake, .take, .handle 35,
    .look, .notify none, .close]

theorem echo_prints_first_three :
    ∃ run events,
      (commandMachine (echoCommand letterFormats id stringMsgType 2)
          (some : Bytes → Option Bytes) ⟨.keepLast, 16⟩).Run Machine.free
          threeMessages run events ∧
        callbacks (seenOf events) = [[1], [2], [1]] ∧
        run.monitor.data.out = "data: a\n---\ndata: b\n---\n".toList := by
  obtain ⟨run, events, steps, checked⟩ :=
    Machine.run_of_exec_check
      (commandMachine (echoCommand letterFormats id stringMsgType 2)
        (some : Bytes → Option Bytes) ⟨.keepLast, 16⟩)
      Machine.free threeMessages
      ⟨.created ⟨.keepLast, 16⟩, Monitor.unused {}, .starting⟩
      (fun _ events => callbacks (seenOf events) = [[1], [2], [1]]) rfl
      (by decide +kernel)
  have called := of_decide_eq_true checked
  have printed := (echo_prints_first steps).1
  rw [called] at printed
  exact ⟨run, events, steps, called, printed.trans (by decide +kernel)⟩

/-- `topic hz` keeps the times of the first `count` messages; when it returns,
it computes the rate from the last of them that the window admits. -/
theorem hz_samples_window
    {count window : Int} {parse : Bytes → Option Message}
    {qos : Qos} {inputs : List CommandInput} {run : CommandRun HzState}
    {events : List (CommandEvent Message)}
    (steps :
      (commandMachine (hzCommand count) parse qos).Run Machine.free inputs
        run events) :
    run.monitor.data.timestamps =
        (shown count (callsOf events)).map Prod.snd ∧
      (callsOf events).map Prod.fst = callbacks (seenOf events) ∧
      (run.main = .waiting → run.monitor.Quiet →
        (callsOf events).length < count) ∧
      (run.main = .returned →
        run.monitor.data.timestamps.length = count ∧
          (2 ≤ count →
            ∃ first last,
              hzSample window run.monitor.data.timestamps =
                  some ((min (max window 2) count).toNat - 1, first, last) ∧
                ((callsOf events).map Prod.snd)[
                  (count - min (max window 2) count).toNat]? = some first ∧
                ((callsOf events).map Prod.snd)[(count - 1).toNat]? =
                  some last)) := by
  have sound := CommandRun.sound_of_run steps
  have data := sound.data.trans (foldl_hz _ _)
  have times :
      run.monitor.data.timestamps =
        (shown count (callsOf events)).map Prod.snd := by
    rw [data]
  have finished :
      run.monitor.data.done =
        decide (0 < count ∧ count ≤ (callsOf events).length) := by
    rw [data]
  refine ⟨times, sound.messages, fun waiting quiet => ?_, fun returned => ?_⟩
  · have pending := sound.pending waiting quiet
    change run.monitor.data.done = false at pending
    rw [finished] at pending
    have open' := of_decide_eq_false pending
    have waits := sound.waits (by rw [waiting]; exact nofun)
    have counted : 0 < count := of_decide_eq_true waits
    omega
  · have done := sound.returned returned
    change run.monitor.data.done = true at done
    rw [finished] at done
    obtain ⟨counted, enough⟩ := of_decide_eq_true done
    have taken :
        run.monitor.data.timestamps =
          ((callsOf events).map Prod.snd).take count.toNat := by
      rw [times, shown, if_pos counted, List.map_take]
    have length : run.monitor.data.timestamps.length = count.toNat := by
      rw [taken, List.length_take, List.length_map]
      omega
    have lengthInt : (run.monitor.data.timestamps.length : Int) = count := by
      omega
    refine ⟨lengthInt, fun several => ?_⟩
    obtain ⟨first, last, sample, isFirst, isLast⟩ :=
      hzSample_of_length window run.monitor.data.timestamps (by omega)
    rw [lengthInt, length] at isFirst
    rw [length] at isLast
    rw [lengthInt] at sample
    refine ⟨first, last, sample, ?_, ?_⟩
    · rw [taken, List.getElem?_take_of_lt (by omega)] at isFirst
      rw [← isFirst]
      congr 1
      omega
    · rw [taken, List.getElem?_take_of_lt (by omega)] at isLast
      rw [← isLast]
      congr 1
      omega

theorem hz_samples_window_three :
    ∃ run events,
      (commandMachine (hzCommand 2) (some : Bytes → Option Bytes)
          ⟨.keepLast, 16⟩).Run Machine.free threeMessages run events ∧
        run.main = .returned ∧
        ∃ first last,
          hzSample 5 run.monitor.data.timestamps = some (1, first, last) := by
  obtain ⟨run, events, steps, checked⟩ :=
    Machine.run_of_exec_check
      (commandMachine (hzCommand 2) (some : Bytes → Option Bytes)
        ⟨.keepLast, 16⟩)
      Machine.free threeMessages
      ⟨.created ⟨.keepLast, 16⟩, Monitor.unused {}, .starting⟩
      (fun run _ => run.main = .returned) rfl (by decide +kernel)
  have returned := of_decide_eq_true checked
  obtain ⟨_, several⟩ := (hz_samples_window steps).2.2.2 returned
  obtain ⟨first, last, sample, _⟩ := several (le_refl 2)
  exact ⟨run, events, steps, returned, first, last, sample⟩

end First

end MiniMiddleware.Cli
