import MiniMiddleware.Core.SegmentOwners

/-!
# Topic isolation over shared memory

`seg_name` replaces some characters of a topic and the system calls cut the
name at its first null character, so two topics of one participant may share a
segment, a ring and a reader entry.  For a set of channels that stay distinct
nevertheless, whatever a shared-memory reader delivers for a channel was
published by its participant on its topic.
-/

namespace MiniMiddleware.Core

open MiniMiddleware.Library MiniMiddleware.Discovery MiniMiddleware.Transport

/-- A message that the publisher of a channel has handed to its bus. -/
def PublishedOn (events : List FabricEvent) (pid : Nat) (topic : Text)
    (bytes : Bytes) : Prop :=
  ∃ typeName, .published pid topic typeName bytes ∈ events

theorem PublishedOn.append
    {events : List FabricEvent} {pid : Nat} {topic : Text} {bytes : Bytes}
    (published : PublishedOn events pid topic bytes)
    (later : List FabricEvent) :
    PublishedOn (events ++ later) pid topic bytes := by
  obtain ⟨typeName, member⟩ := published
  exact ⟨typeName, List.mem_append_left later member⟩

/-- What holds after every run on separated channels: the network is sound for
the messages published so far, and so are all deliveries. -/
structure Isolated (channels : Nat → Text → Prop) (fabric : Fabric)
    (events : List FabricEvent) : Prop where
  sound : FabricSound channels (PublishedOn events) fabric
  delivered :
    ∀ pid name topic bytes, .read pid name topic bytes ∈ events →
      ∃ writer, PublishedOn events writer topic bytes ∧
        name = segName writer topic

theorem Isolated.step
    {channels : Nat → Text → Prop} (separated : Separated channels)
    {fabric target : Fabric} {events emitted : List FabricEvent}
    {input : FabricInput}
    (isolated : Isolated channels fabric events)
    (allowed : OnChannels channels fabric input)
    (stepped : fabric.step input = some (target, emitted)) :
    Isolated channels target (events ++ emitted) := by
  refine ⟨?_, ?_⟩
  · refine
      isolated.sound.step separated
        (fun _ _ _ published => published.append emitted) ?_ allowed stepped
    rintro pid topic typeName bytes rfl _
    cases stepped
    exact ⟨typeName, List.mem_append_right events List.mem_cons_self⟩
  · intro pid name topic bytes member
    rcases List.mem_append.mp member with earlier | now
    · obtain ⟨writer, published, named⟩ :=
        isolated.delivered pid name topic bytes earlier
      exact ⟨writer, published.append emitted, named⟩
    · obtain ⟨writer, published, named⟩ :=
        isolated.sound.read separated stepped now
      exact ⟨writer, published.append emitted, named⟩

/-- If the topics of each participant stay distinct after the replacement of
characters and up to the first null character, then no two channels share a
segment name in the system calls, and every message that a reader of a
channel's segment delivers on the channel's topic was published by that
participant on exactly that topic. -/
theorem shm_delivers_own_topic
    {channels : Nat → Text → Prop} (separated : Separated channels)
    {inputs : List FabricInput} {fabric : Fabric} {events : List FabricEvent}
    (run : fabricMachine.Run (OnChannels channels) inputs fabric events) :
    (∀ firstPid secondPid first second,
        channels firstPid first → channels secondPid second →
        cStr (segName firstPid first) = cStr (segName secondPid second) →
        firstPid = secondPid ∧ first = second) ∧
      ∀ reader writer topic bytes,
        .read reader (segName writer topic) topic bytes ∈ events →
        ∃ typeName, .published writer topic typeName bytes ∈ events := by
  refine ⟨?_, ?_⟩
  · intro firstPid secondPid first second firstChannel secondChannel equal
    exact
      Prod.mk.inj (separated.channel firstChannel secondChannel equal)
  · intro reader writer topic bytes delivered
    have isolated : Isolated channels fabric events := by
      refine run.invariant (Isolated channels) ?_ ?_
      · rintro fabric ⟨hosts, shm, rfl⟩
        exact ⟨FabricSound.started channels _ hosts shm, by simp⟩
      · intro fabric events input target emitted isolated allowed stepped
        exact isolated.step separated allowed stepped
    obtain ⟨other, published, named⟩ :=
      isolated.delivered reader _ topic bytes delivered
    rw [(cStr_segName_eq_iff.mp (congrArg cStr named)).1]
    exact published

/-! ## Two topics with one segment name -/

/-- A message on a single topic. -/
theorem shm_delivers_own_topic_single :
    ∃ fabric events,
      fabricMachine.Run (OnChannels fun _ topic => topic = ['t'])
          (connect ['t'] ['T'] ++ sendOne ['t'] ['T']) fabric events ∧
        .read 2 (segName 1 ['t']) ['t'] [7] ∈ events ∧
        ∃ typeName, .published 1 ['t'] typeName [7] ∈ events := by
  obtain ⟨fabric, events, run, checked⟩ :=
    Machine.run_of_exec_check fabricMachine
      (OnChannels fun _ topic => topic = ['t'])
      (connect ['t'] ['T'] ++ sendOne ['t'] ['T']) oneHostFabric
      (fun _ events => .read 2 (segName 1 ['t']) ['t'] [7] ∈ events)
      ⟨_, _, rfl⟩ (by decide +kernel)
  rw [decide_eq_true_eq] at checked
  have separated : Separated fun _ topic => topic = ['t'] := by
    rintro pid first second rfl rfl _
    rfl
  exact ⟨fabric, events, run, checked,
    (shm_delivers_own_topic separated run).2 2 1 ['t'] [7] checked⟩

/-- A message on topic `a_b` is delivered on topic `a/b`, on which nothing was
published. -/
theorem shm_delivers_other_topic :
    ¬ ∀ (inputs : List FabricInput) (fabric : Fabric)
        (events : List FabricEvent) (reader writer : Nat) (topic : Text)
        (bytes : Bytes),
        fabricMachine.Run Machine.free inputs fabric events →
        .read reader (segName writer topic) topic bytes ∈ events →
        ∃ typeName, .published writer topic typeName bytes ∈ events := by
  intro claimed
  obtain ⟨fabric, run⟩ :=
    Machine.run_of_exec_events fabricMachine Machine.free
      (connect ['a', '/', 'b'] ['T'] ++ connect ['a', '_', 'b'] ['T'] ++
        sendOne ['a', '_', 'b'] ['T'])
      oneHostFabric
      [.published 1 ['a', '_', 'b'] ['T'] [7],
        .read 2 (segName 1 ['a', '/', 'b']) ['a', '/', 'b'] [7],
        .enqueued 2 (.subscriber 0 ['a', '/', 'b'] ['T']) [7]]
      ⟨_, _, rfl⟩ (by decide +kernel)
  obtain ⟨typeName, published⟩ :=
    claimed _ fabric _ 2 1 ['a', '/', 'b'] [7] run (by simp)
  simp at published

end MiniMiddleware.Core
