import MiniMiddleware.Transport.TcpClientWakeup

/-!
# What `send` reports

A call of `send` returns at its state check or from its critical section.  The
machine of this module is the client with its event loop; its events are the
calls of `send` as they return, with what they had seen and what they did to
the write buffer.  The event loop can end here also because `epoll_wait`
fails, which leaves `running_` as it is.

Two things go wrong.  `encode` answers an oversized payload with an empty
frame, and `send` takes that for a frame.  And the event loop gives up an
established connection by clearing `running_`, which `send` does not look at.
-/

namespace MiniMiddleware.Transport

open MiniMiddleware.Library
open FrameCodec

/-- A call of `send` that has returned.  `connected` is what its state check
saw, `stopping` the flag `stopped_` at its last look; `before` and `after` are
the write buffer around its critical section. -/
structure SendReturn where
  payload : Bytes
  connected : Bool
  stopping : Bool
  accepted : Bool
  before : Bytes
  after : Bytes
  deriving DecidableEq, Repr

/-- The answer is true only of a payload that can be decoded from what was
appended, and false only of one that left the buffer alone. -/
def SendReturn.Truthful (sent : SendReturn) : Prop :=
  (sent.accepted = true →
      ∃ frame, sent.after = sent.before ++ frame ∧
        decode frame = ([sent.payload], [])) ∧
    (sent.accepted = false → sent.after = sent.before)

/-- A refused call that changed nothing. -/
def SendReturn.Refused (sent : SendReturn) : Prop :=
  sent.accepted = false ∧ sent.after = sent.before

/-- The calls of `send` that return in a step. -/
def TcpClientLoop.returned (loop : TcpClientLoop) :
    ClientInput → List SendReturn
  | .check payload =>
      if loop.client.state = .connected then
        []
      else
        [{ payload := payload
           connected := false
           stopping := loop.client.stopped
           accepted := false
           before := loop.client.writeBuffer
           after := loop.client.writeBuffer }]
  | .append sender =>
      match loop.checked[sender]? with
      | none => []
      | some payload =>
          match loop.client.sendLocked payload with
          | none => []
          | some (client, accepted) =>
              [{ payload := payload
                 connected := true
                 stopping := loop.client.stopped
                 accepted := accepted
                 before := loop.client.writeBuffer
                 after := client.writeBuffer }]
  | _ => []

/-- A client with its event loop, and whether that loop was left because
`epoll_wait` failed. -/
structure SendingClient where
  loop : TcpClientLoop
  exited : Bool
  deriving DecidableEq, Repr

/-- The call of `epoll_wait`. -/
def ClientInput.isWait : ClientInput → Bool
  | .wait _ _ _ => true
  | _ => false

/-- The steps of the client, and the failure of `epoll_wait`. -/
inductive SendingInput where
  | client (input : ClientInput)
  | epollFails
  deriving DecidableEq, Repr

namespace SendingClient

/-- One step.  A loop that was left does not wait for events again. -/
def step (sending : SendingClient) :
    SendingInput → Option (SendingClient × List SendReturn)
  | .client input =>
      if sending.exited ∧ input.isWait then
        none
      else
        (sending.loop.step input).map fun stepped =>
          ({ sending with loop := stepped.1 }, sending.loop.returned input)
  | .epollFails =>
      if sending.loop.pc = .polling ∧ sending.loop.client.running ∧
          ¬sending.exited then
        some ({ sending with exited := true }, [])
      else
        none

/-- After `start`. -/
def Fresh (sending : SendingClient) : Prop :=
  sending.loop.Fresh ∧ sending.exited = false

/-- The event loop has cleared `running_`, or it was left. -/
def Dead (sending : SendingClient) : Prop :=
  sending.loop.client.running = false ∨ sending.exited = true

instance (sending : SendingClient) : Decidable sending.Dead :=
  inferInstanceAs (Decidable (_ ∨ _))

/-- The branches in which the event loop gives up: an error or a hangup, the
end of the stream or a read error, a write error, and the failure of
`epoll_wait`. -/
def givesUp (sending : SendingClient) : SendingInput → Bool
  | .client (.dispatch failed) =>
      match sending.loop.pc with
      | .dispatching readable _ hungUp => hungUp || (readable && failed)
      | _ => false
  | .client (.write .failed) => true
  | .epollFails => true
  | _ => false

/-- The condition on a step: the event loop does not give up an established
connection before `stop` has begun. -/
def keepsConnection (sending : SendingClient) (input : SendingInput) : Bool :=
  !sending.givesUp input || sending.loop.client.stopped ||
    sending.loop.client.state ≠ .connected

end SendingClient

/-- The client whose calls of `send` are observed. -/
def sendingMachine : Machine SendingClient SendingInput SendReturn where
  initial := SendingClient.Fresh
  step := SendingClient.step

/-! ## One call -/

/-- Where a return comes from. -/
theorem TcpClientLoop.returned_cases
    {loop : TcpClientLoop} {input : ClientInput} {sent : SendReturn}
    (member : sent ∈ loop.returned input) :
    sent.connected = false ∧ sent.Refused ∧
        loop.client.state ≠ .connected ∨
      sent.connected = true ∧ sent.stopping = true ∧ sent.Refused ∧
        loop.client.stopped = true ∨
      sent.connected = true ∧ sent.stopping = false ∧
        loop.client.stopped = false ∧ sent.accepted = true ∧
        sent.after = sent.before ++ encode sent.payload ∧
        ∃ sender : Nat, loop.checked[sender]? = some sent.payload := by
  cases input with
  | check payload =>
      simp only [returned] at member
      split_ifs at member with connected
      · cases member
      · cases List.mem_singleton.mp member
        exact Or.inl ⟨rfl, ⟨rfl, rfl⟩, connected⟩
  | append sender =>
      simp only [returned] at member
      split at member
      · cases member
      · rename_i payload found
        split at member
        · cases member
        · rename_i client accepted locked
          cases List.mem_singleton.mp member
          refine Or.inr ?_
          rcases TcpClientTransport.sendLocked_cases locked with
            ⟨stopped, rfl, refused⟩ | ⟨going, rfl, taken⟩
          · exact Or.inl ⟨rfl, stopped, ⟨refused, rfl⟩, stopped⟩
          · exact Or.inr ⟨rfl, going, going, taken, rfl, sender, found⟩
  | _ =>
      cases member

/-- The frame of a payload gives the payload back exactly if it fits. -/
theorem decode_encode_iff (payload : Bytes) :
    decode (encode payload) = ([payload], []) ↔
      payload.length ≤ maxPayloadSize := by
  constructor
  · intro decoded
    by_contra large
    rw [encode_of_oversize (by omega), decode_of_incomplete incomplete_nil]
      at decoded
    cases decoded
  · intro fits
    have single : AllFit [payload] := by
      intro other member
      rw [List.mem_singleton.mp member]
      exact fits
    simpa using decode_frames single

theorem SendReturn.Refused.truthful
    {sent : SendReturn} (refused : sent.Refused) : sent.Truthful := by
  refine ⟨fun accepted => ?_, fun _ => refused.2⟩
  rw [refused.1] at accepted
  cases accepted

theorem SendReturn.truthful_of_accepted
    {sent : SendReturn} (accepted : sent.accepted = true)
    (grown : sent.after = sent.before ++ encode sent.payload) :
    sent.Truthful ↔ sent.payload.length ≤ maxPayloadSize := by
  rw [← decode_encode_iff]
  constructor
  · intro truthful
    obtain ⟨frame, extended, decoded⟩ := truthful.1 accepted
    rw [grown] at extended
    rw [List.append_cancel_left extended]
    exact decoded
  · intro decoded
    refine ⟨fun _ => ⟨_, grown, decoded⟩, fun refused => ?_⟩
    rw [accepted] at refused
    cases refused

theorem SendingClient.returned_of_step
    {sending target : SendingClient} {input : SendingInput}
    {emitted : List SendReturn} {sent : SendReturn}
    (stepped : sending.step input = some (target, emitted))
    (member : sent ∈ emitted) :
    ∃ calling, input = .client calling ∧
      sent ∈ sending.loop.returned calling := by
  cases input with
  | client calling =>
      simp only [step] at stepped
      split_ifs at stepped
      obtain ⟨_, _, equal⟩ := Option.map_eq_some_iff.mp stepped
      cases equal
      exact ⟨calling, rfl, member⟩
  | epollFails =>
      simp only [step] at stepped
      split_ifs at stepped
      cases stepped
      cases member

/-- In every run, a returned call of `send` told the truth exactly if it was
turned away by the state check or by `stop`, or its payload fits into a
frame. -/
theorem send_truthful_iff
    {inputs : List SendingInput} {sending : SendingClient}
    {sends : List SendReturn}
    (run : sendingMachine.Run Machine.free inputs sending sends) :
    ∀ sent ∈ sends,
      sent.Truthful ↔
        sent.connected = false ∨ sent.stopping = true ∨
          sent.payload.length ≤ maxPayloadSize := by
  refine run.invariant
    (fun _ sends =>
      ∀ sent ∈ sends,
        sent.Truthful ↔
          sent.connected = false ∨ sent.stopping = true ∨
            sent.payload.length ≤ maxPayloadSize)
    (fun _ _ _ member => by cases member) ?_
  intro state sends input target emitted earlier _ stepped sent member
  rcases List.mem_append.mp member with member | member
  · exact earlier sent member
  · obtain ⟨calling, _, returned⟩ :=
      SendingClient.returned_of_step stepped member
    rcases TcpClientLoop.returned_cases returned with
      ⟨away, refused, _⟩ | ⟨_, stopping, refused, _⟩ |
        ⟨seen, going, _, accepted, grown, _⟩
    · exact iff_of_true refused.truthful (Or.inl away)
    · exact iff_of_true refused.truthful (Or.inr (Or.inl stopping))
    · rw [SendReturn.truthful_of_accepted accepted grown]
      simp [seen, going]

/-! ## An established connection -/

/-- A client whose `connect` succeeded at once. -/
def establishedClient : SendingClient where
  loop := { client := .established, pc := .polling, checked := [] }
  exited := false

theorem establishedClient_fresh : establishedClient.Fresh :=
  ⟨⟨Or.inr ⟨rfl, rfl⟩, rfl, rfl, rfl, rfl, rfl, rfl⟩, rfl⟩

theorem run_send_established (payload : Bytes) :
    ∃ sending,
      sendingMachine.Run Machine.free
        [.client (.check payload), .client (.append 0)] sending
        [{ payload := payload
           connected := true
           stopping := false
           accepted := true
           before := []
           after := encode payload }] :=
  Machine.run_of_exec_events sendingMachine Machine.free
    [.client (.check payload), .client (.append 0)] establishedClient _
    establishedClient_fresh rfl

theorem send_truthful_iff_oneByte :
    ∃ sending sent,
      sendingMachine.Run Machine.free
          [.client (.check [7]), .client (.append 0)] sending [sent] ∧
        sent.accepted = true ∧ sent.Truthful := by
  obtain ⟨sending, run⟩ := run_send_established [7]
  refine ⟨sending, _, run, rfl, ?_⟩
  refine (send_truthful_iff run _ List.mem_cons_self).mpr ?_
  exact Or.inr (Or.inr (by decide))

/-- One byte more than fits into a frame. -/
def oversizePayload : Bytes :=
  List.replicate (maxPayloadSize + 1) 0

/-- A payload that cannot be framed is reported as sent. -/
theorem send_not_truthful :
    ¬ ∀ (inputs : List SendingInput) (sending : SendingClient)
        (sends : List SendReturn),
        sendingMachine.Run Machine.free inputs sending sends →
        ∀ sent ∈ sends, sent.Truthful := by
  intro claimed
  have size : oversizePayload.length = maxPayloadSize + 1 :=
    List.length_replicate
  generalize oversizePayload = payload at size
  obtain ⟨sending, run⟩ := run_send_established payload
  have truthful := claimed _ _ _ run _ List.mem_cons_self
  have fits :=
    (SendReturn.truthful_of_accepted rfl (List.nil_append _).symm).mp truthful
  dsimp only at fits
  omega

/-! ## The end of the event loop -/

namespace TcpClientLoop

/-- `stop` is not undone, and afterwards the write buffer only shrinks. -/
theorem step_stopped
    {loop target : TcpClientLoop} {input : ClientInput} {emitted : List Bytes}
    (stepped : loop.step input = some (target, emitted))
    (stopped : loop.client.stopped = true) :
    target.client.stopped = true ∧
      target.client.writeBuffer <:+ loop.client.writeBuffer := by
  cases input with
  | dispatch failed =>
      simp only [step] at stepped
      split at stepped
      · cases stepped
        unfold dispatch
        split_ifs <;> exact ⟨stopped, List.suffix_rfl⟩
      · cases stepped
  | write result =>
      simp only [step] at stepped
      split at stepped
      · cases stepped
      · rename_i client bytes wrote
        cases stepped
        cases result with
        | accepted count =>
            simp only [TcpClientTransport.write] at wrote
            split_ifs at wrote
            cases wrote
            exact ⟨stopped, List.drop_suffix count _⟩
        | _ =>
            simp only [TcpClientTransport.write] at wrote
            split_ifs at wrote
            cases wrote
            exact ⟨stopped, List.suffix_rfl⟩
  | finishWrite =>
      obtain ⟨client, finished, equal⟩ := Option.map_eq_some_iff.mp stepped
      cases equal
      obtain ⟨_, rfl⟩ := TcpClientTransport.finishWrite_eq_some finished
      exact ⟨stopped, List.suffix_rfl⟩
  | append sender =>
      simp only [step] at stepped
      split at stepped
      · cases stepped
      · obtain ⟨sent, locked, equal⟩ := Option.map_eq_some_iff.mp stepped
        cases equal
        rcases TcpClientTransport.sendLocked_cases locked with
          ⟨_, kept, _⟩ | ⟨going, _, _⟩
        · dsimp only
          rw [kept]
          exact ⟨stopped, List.suffix_rfl⟩
        · rw [stopped] at going
          cases going
  | beginStop =>
      cases stepped
      exact ⟨rfl, List.suffix_rfl⟩
  | finishStop =>
      simp only [step] at stepped
      split_ifs at stepped
      obtain ⟨client, finished, equal⟩ := Option.map_eq_some_iff.mp stepped
      cases equal
      obtain ⟨_, rfl⟩ := TcpClientTransport.finishStop_eq_some finished
      exact ⟨stopped, List.suffix_rfl⟩
  | _ =>
      simp only [step] at stepped
      split_ifs at stepped <;> cases stepped <;>
        exact ⟨stopped, List.suffix_rfl⟩

/-- A client that has never been connected: no sender got past the state
check, and the event loop is not in `handle_write`. -/
structure NotUp (loop : TcpClientLoop) : Prop where
  state : loop.client.state ≠ .connected
  checked : loop.checked = []
  writing : loop.client.writing = false
  pc : loop.pc ≠ .completing ∧ loop.pc ≠ .entering ∧ loop.pc ≠ .draining

/-- What can happen to such a client. -/
theorem NotUp.step_cases
    {loop target : TcpClientLoop} {input : ClientInput} {emitted : List Bytes}
    (notUp : loop.NotUp)
    (stepped : loop.step input = some (target, emitted)) :
    (∃ readable writable hungUp,
        input = .wait readable writable hungUp ∧
          loop.pc = .polling ∧ loop.client.running = true ∧
          target =
            { loop with pc := .dispatching readable writable hungUp }) ∨
      (∃ readable writable hungUp failed,
        loop.pc = .dispatching readable writable hungUp ∧
          target = loop.dispatch readable writable hungUp failed) ∨
      (target.client.stopped = true ∧
        target.client.writeBuffer = loop.client.writeBuffer) ∨
      target = loop := by
  cases input with
  | wait readable writable hungUp =>
      simp only [step] at stepped
      split_ifs at stepped with waiting
      cases stepped
      exact Or.inl ⟨_, _, _, rfl, waiting.1, waiting.2.1, rfl⟩
  | dispatch failed =>
      simp only [step] at stepped
      split at stepped
      · rename_i readable writable hungUp place
        cases stepped
        exact Or.inr (Or.inl ⟨_, _, _, failed, place, rfl⟩)
      · cases stepped
  | register =>
      simp only [step, if_neg notUp.pc.1] at stepped
      cases stepped
  | lock =>
      simp only [step, if_neg notUp.pc.2.1] at stepped
      cases stepped
  | write result =>
      have idle : loop.client.write result = none := by
        cases result <;> simp [TcpClientTransport.write, notUp.writing]
      simp [step, idle] at stepped
  | finishWrite =>
      simp [step, TcpClientTransport.finishWrite, notUp.writing] at stepped
  | check payload =>
      simp only [step, if_neg notUp.state] at stepped
      cases stepped
      exact Or.inr (Or.inr (Or.inr rfl))
  | append sender =>
      simp [step, notUp.checked] at stepped
  | beginStop =>
      cases stepped
      exact Or.inr (Or.inr (Or.inl ⟨rfl, rfl⟩))
  | finishStop =>
      simp only [step] at stepped
      split_ifs at stepped
      obtain ⟨client, finished, equal⟩ := Option.map_eq_some_iff.mp stepped
      cases equal
      obtain ⟨stopping, rfl⟩ := TcpClientTransport.finishStop_eq_some finished
      exact Or.inr (Or.inr (Or.inl ⟨stopping, rfl⟩))

end TcpClientLoop

namespace SendingClient

/-- A client is being stopped, or it is up, or it has not come up; in the last
case a dead event loop stands outside. -/
inductive Phase (sending : SendingClient) : Prop
  | stopping :
      sending.loop.client.stopped = true → Phase sending
  | up :
      sending.loop.client.state = .connected → ¬sending.Dead → Phase sending
  | notUp :
      sending.loop.NotUp → (sending.Dead → sending.loop.pc = .polling) →
      Phase sending

/-- A client on which nothing can be sent any more. -/
def Finished (sending : SendingClient) : Prop :=
  sending.loop.client.stopped = true ∨
    sending.loop.NotUp ∧ sending.Dead ∧ sending.loop.pc = .polling

/-- The loop of a step that is not the failure of `epoll_wait`. -/
theorem step_client
    {sending target : SendingClient} {input : ClientInput}
    {emitted : List SendReturn}
    (stepped : sending.step (.client input) = some (target, emitted)) :
    ∃ loop bytes,
      sending.loop.step input = some (loop, bytes) ∧
        target = { sending with loop := loop } ∧
        (input.isWait = true → sending.exited = false) := by
  simp only [step] at stepped
  split_ifs at stepped with left
  obtain ⟨⟨loop, bytes⟩, moved, equal⟩ := Option.map_eq_some_iff.mp stepped
  cases equal
  refine ⟨loop, bytes, moved, rfl, fun waiting => ?_⟩
  rw [Bool.eq_false_iff]
  exact fun exited => left ⟨exited, waiting⟩

/-- A client that is up stays up until `stop` begins. -/
theorem phase_of_up
    {sending target : SendingClient} {input : ClientInput}
    {emitted : List SendReturn}
    (connected : sending.loop.client.state = .connected)
    (alive : ¬sending.Dead)
    (keeps : sending.keepsConnection (.client input) = true)
    (going : sending.loop.client.stopped = false)
    (stepped : sending.step (.client input) = some (target, emitted)) :
    target.Phase := by
  obtain ⟨loop, bytes, moved, rfl, _⟩ := step_client stepped
  have unbroken : sending.givesUp (.client input) = false := by
    simpa [keepsConnection, going, connected] using keeps
  cases input with
  | dispatch failed =>
      simp only [TcpClientLoop.step] at moved
      split at moved
      · rename_i readable writable hungUp place
        cases moved
        simp only [givesUp, place, Bool.or_eq_false_iff] at unbroken
        have intact : ¬(readable = true ∧ failed = true) := by
          simpa using unbroken.2
        refine .up ?_ ?_
        · simp [TcpClientLoop.dispatch, unbroken.1, connected, intact]
        · simpa [TcpClientLoop.dispatch, unbroken.1, connected, intact, Dead]
            using alive
      · cases moved
  | write result =>
      simp only [TcpClientLoop.step] at moved
      split at moved
      · cases moved
      · rename_i client bytes wrote
        cases moved
        cases result with
        | failed =>
            cases unbroken
        | _ =>
            simp only [TcpClientTransport.write] at wrote
            split_ifs at wrote
            cases wrote
            exact .up connected alive
  | finishWrite =>
      obtain ⟨client, finished, equal⟩ := Option.map_eq_some_iff.mp moved
      cases equal
      obtain ⟨_, rfl⟩ := TcpClientTransport.finishWrite_eq_some finished
      exact .up connected alive
  | append sender =>
      simp only [TcpClientLoop.step] at moved
      split at moved
      · cases moved
      · obtain ⟨sent, locked, equal⟩ := Option.map_eq_some_iff.mp moved
        cases equal
        rcases TcpClientTransport.sendLocked_cases locked with
          ⟨_, kept, _⟩ | ⟨_, queued, _⟩
        · exact .up (kept ▸ connected) (kept ▸ alive)
        · exact .up (queued ▸ connected) (queued ▸ alive)
  | beginStop =>
      cases moved
      exact .stopping rfl
  | finishStop =>
      simp [TcpClientLoop.step, TcpClientTransport.finishStop, going] at moved
  | _ =>
      simp only [TcpClientLoop.step] at moved
      split_ifs at moved
      all_goals
        cases moved
        exact .up connected alive

/-- A client that is not up can come up, unless its event loop is dead. -/
theorem phase_of_notUp
    {sending target : SendingClient} {input : ClientInput}
    {emitted : List SendReturn}
    (notUp : sending.loop.NotUp)
    (outside : sending.Dead → sending.loop.pc = .polling)
    (stepped : sending.step (.client input) = some (target, emitted)) :
    target.Phase := by
  obtain ⟨loop, bytes, moved, rfl, waits⟩ := step_client stepped
  rcases notUp.step_cases moved with
    ⟨readable, writable, hungUp, rfl, _, running, rfl⟩ |
      ⟨readable, writable, hungUp, failed, place, rfl⟩ | ⟨stopped, _⟩ | rfl
  · refine .notUp ⟨notUp.state, notUp.checked, notUp.writing, ?_⟩ ?_
    · exact ⟨nofun, nofun, nofun⟩
    · rintro (stops | exited)
      · rw [running] at stops
        cases stops
      · rw [waits rfl] at exited
        cases exited
  · have alive : ¬sending.Dead := by
      intro dead
      rw [outside dead] at place
      cases place
    have back : ∀ client : TcpClientTransport,
        client.state = sending.loop.client.state →
        client.writing = sending.loop.client.writing →
        Phase
          { sending with
            loop := { sending.loop with client := client, pc := .polling } } :=
      fun client state writing =>
        .notUp
          ⟨state ▸ notUp.state, notUp.checked, writing ▸ notUp.writing,
            nofun, nofun, nofun⟩
          fun _ => rfl
    unfold TcpClientLoop.dispatch
    rw [if_neg notUp.state]
    split_ifs
    · exact back _ rfl rfl
    · exact back _ rfl rfl
    · exact .up rfl alive
    · exact back _ rfl rfl
  · exact .stopping stopped
  · exact .notUp notUp outside

theorem Phase.step
    {sending target : SendingClient} {input : SendingInput}
    {emitted : List SendReturn}
    (phase : sending.Phase) (keeps : sending.keepsConnection input = true)
    (stepped : sending.step input = some (target, emitted)) :
    target.Phase := by
  by_cases stopped : sending.loop.client.stopped = true
  · refine .stopping ?_
    cases input with
    | client input =>
        obtain ⟨loop, bytes, moved, rfl, _⟩ := step_client stepped
        exact (TcpClientLoop.step_stopped moved stopped).1
    | epollFails =>
        simp only [SendingClient.step] at stepped
        split_ifs at stepped
        cases stepped
        exact stopped
  have going := Bool.eq_false_iff.mpr stopped
  cases input with
  | client input =>
      cases phase with
      | stopping stopping =>
          exact absurd stopping stopped
      | up connected alive =>
          exact phase_of_up connected alive keeps going stepped
      | notUp notUp outside =>
          exact phase_of_notUp notUp outside stepped
  | epollFails =>
      simp only [SendingClient.step] at stepped
      split_ifs at stepped with failing
      cases stepped
      cases phase with
      | stopping stopping =>
          exact absurd stopping stopped
      | up connected alive =>
          simp [keepsConnection, givesUp, going, connected] at keeps
      | notUp notUp outside =>
          exact .notUp notUp fun _ => failing.1

theorem Phase.finished
    {sending : SendingClient} (phase : sending.Phase) (dead : sending.Dead) :
    sending.Finished := by
  cases phase with
  | stopping stopping =>
      exact Or.inl stopping
  | up connected alive =>
      exact absurd dead alive
  | notUp notUp outside =>
      exact Or.inr ⟨notUp, dead, outside dead⟩

/-- A finished client refuses whatever is sent. -/
theorem Finished.refuses
    {sending : SendingClient} (finished : sending.Finished)
    {input : ClientInput} {sent : SendReturn}
    (member : sent ∈ sending.loop.returned input) : sent.Refused := by
  rcases TcpClientLoop.returned_cases member with
    ⟨_, refused, _⟩ | ⟨_, _, refused, _⟩ | ⟨_, _, going, _, _, sender, found⟩
  · exact refused
  · exact refused
  · rcases finished with stopped | ⟨notUp, _, _⟩
    · rw [stopped] at going
      cases going
    · rw [notUp.checked] at found
      cases found

/-- A finished client stays so, and its write buffer only shrinks. -/
theorem Finished.step
    {sending target : SendingClient} {input : SendingInput}
    {emitted : List SendReturn}
    (finished : sending.Finished)
    (stepped : sending.step input = some (target, emitted)) :
    target.Finished ∧
      target.loop.client.writeBuffer <:+ sending.loop.client.writeBuffer := by
  cases input with
  | client input =>
      obtain ⟨loop, bytes, moved, rfl, waits⟩ := step_client stepped
      rcases finished with stopped | ⟨notUp, dead, outside⟩
      · obtain ⟨still, shrinks⟩ := TcpClientLoop.step_stopped moved stopped
        exact ⟨Or.inl still, shrinks⟩
      rcases notUp.step_cases moved with
        ⟨readable, writable, hungUp, rfl, _, running, _⟩ |
          ⟨readable, writable, hungUp, failed, place, _⟩ | ⟨stopped, kept⟩ | rfl
      · rcases dead with stops | exited
        · rw [running] at stops
          cases stops
        · rw [waits rfl] at exited
          cases exited
      · rw [outside] at place
        cases place
      · exact ⟨Or.inl stopped, kept ▸ List.suffix_rfl⟩
      · exact ⟨Or.inr ⟨notUp, dead, outside⟩, List.suffix_rfl⟩
  | epollFails =>
      simp only [SendingClient.step] at stepped
      split_ifs at stepped
      cases stepped
      rcases finished with stopped | ⟨notUp, _, outside⟩
      · exact ⟨Or.inl stopped, List.suffix_rfl⟩
      · exact ⟨Or.inr ⟨notUp, Or.inr rfl, outside⟩, List.suffix_rfl⟩

end SendingClient

/-- In every run in which the event loop does not give up an established
connection before `stop` has begun: once it is dead, every call of `send` that
returns from then on was refused, and the write buffer only shrinks. -/
theorem sends_refused_once_dead
    {inputs : List SendingInput} {sending : SendingClient}
    {sends : List SendReturn}
    (run :
      sendingMachine.Run
        (fun sending input => sending.keepsConnection input = true)
        inputs sending sends)
    (dead : sending.Dead)
    {later : List SendingInput} {target : SendingClient}
    {returned : List SendReturn}
    (executed :
      sendingMachine.exec Machine.free sending later =
        some (target, returned)) :
    (∀ sent ∈ returned, sent.Refused) ∧
      target.loop.client.writeBuffer <:+ sending.loop.client.writeBuffer := by
  have phase : sending.Phase := by
    refine run.invariant (fun sending _ => sending.Phase) ?_ ?_
    · intro sending fresh
      obtain ⟨fresh, inside⟩ := fresh
      have alive : ¬sending.Dead := by
        simp [SendingClient.Dead, fresh.running, inside]
      rcases fresh.state with ⟨connecting, _⟩ | ⟨connected, _⟩
      · refine .notUp ⟨?_, fresh.checked, fresh.writing, ?_⟩ fun _ => fresh.pc
        · simp [connecting]
        · simp [fresh.pc]
      · exact .up connected alive
    · intro _ _ _ _ _ phase keeps stepped
      exact phase.step keeps stepped
  obtain ⟨⟨_, shrinks⟩, refused⟩ :=
    Machine.exec_invariant_events
      (fun state : SendingClient =>
        state.Finished ∧
          state.loop.client.writeBuffer <:+ sending.loop.client.writeBuffer)
      SendReturn.Refused
      ⟨phase.finished dead, List.suffix_rfl⟩
      (fun state input target emitted _ holds _ stepped => by
        obtain ⟨finished, shrinks⟩ := holds.1.step stepped
        refine ⟨⟨finished, shrinks.trans holds.2⟩, fun sent member => ?_⟩
        obtain ⟨calling, _, returned⟩ :=
          SendingClient.returned_of_step stepped member
        exact holds.1.refuses returned)
      executed
  exact ⟨refused, shrinks⟩

/-- A byte is queued, `stop` begins, and a later `send` finds the state still
connected. -/
theorem sends_refused_once_dead_stopping :
    ∃ sending sends,
      sendingMachine.Run
          (fun sending input => sending.keepsConnection input = true)
          [.client (.check [7]), .client (.append 0), .client .beginStop]
          sending sends ∧
        sending.Dead ∧
        ∃ target sent,
          sendingMachine.exec Machine.free sending
              [.client (.check [8]), .client (.append 0)] =
            some (target, [sent]) ∧
          sent.connected = true ∧ sent.Refused := by
  obtain ⟨sending, sends, run, checked⟩ :=
    Machine.run_of_exec_check sendingMachine
      (fun sending input => sending.keepsConnection input = true)
      [.client (.check [7]), .client (.append 0), .client .beginStop]
      establishedClient
      (fun sending _ =>
        sending.Dead ∧
          (sendingMachine.exec Machine.free sending
              [.client (.check [8]), .client (.append 0)]).any
            fun outcome =>
              outcome.2.map SendReturn.connected = [true])
      establishedClient_fresh (by decide +kernel)
  obtain ⟨dead, continued⟩ := of_decide_eq_true checked
  obtain ⟨⟨target, returned⟩, executed, seen⟩ :=
    (Option.any_eq_true _ _).mp continued
  obtain ⟨sent, rfl, connected⟩ :=
    List.map_eq_singleton_iff.mp (of_decide_eq_true seen)
  exact ⟨sending, sends, run, dead, target, sent, executed, connected,
    (sends_refused_once_dead run dead executed).1 sent List.mem_cons_self⟩

/-- The peer closes the connection; a `send` called afterwards is accepted and
its frame stays in the buffer. -/
theorem send_accepted_when_dead :
    ¬ ∀ (inputs : List SendingInput) (sending : SendingClient)
        (sends : List SendReturn),
        sendingMachine.Run Machine.free inputs sending sends →
        sending.Dead →
        sending.loop.checked = [] →
        ∀ (later : List SendingInput) (target : SendingClient)
          (returned : List SendReturn),
          sendingMachine.exec Machine.free sending later =
            some (target, returned) →
          ∀ sent ∈ returned, sent.Refused := by
  intro claimed
  obtain ⟨sending, sends, run, checked⟩ :=
    Machine.run_of_exec_check sendingMachine Machine.free
      [.client (.wait true false false), .client (.dispatch true)]
      establishedClient
      (fun sending _ =>
        sending.Dead ∧ sending.loop.checked = [] ∧
          (sendingMachine.exec Machine.free sending
              [.client (.check [7]), .client (.append 0)]).any
            fun outcome =>
              outcome.2.map SendReturn.accepted = [true])
      establishedClient_fresh (by decide +kernel)
  obtain ⟨dead, idle, continued⟩ := of_decide_eq_true checked
  obtain ⟨⟨target, returned⟩, executed, accepted⟩ :=
    (Option.any_eq_true _ _).mp continued
  obtain ⟨sent, rfl, taken⟩ :=
    List.map_eq_singleton_iff.mp (of_decide_eq_true accepted)
  have refused :=
    claimed _ sending sends run dead idle _ target _ executed sent
      List.mem_cons_self
  rw [refused.1] at taken
  cases taken

end MiniMiddleware.Transport
