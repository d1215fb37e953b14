import MiniMiddleware.Core.Client

/-!
# The first reply to a call

Several replies may carry the number of one call: a message can be duplicated,
and more than one service can answer.  A call stays in the map of registered
calls until its thread has woken up, and `handle_reply` does not look at
`done`, so a later reply that arrives before that replaces the response.

The result is that of the first reply in every run in which a reply that finds
a finished call has the outcome already stored.
-/

namespace MiniMiddleware.Core

open MiniMiddleware.Library MiniMiddleware.Transport

variable {Req Resp : Type}

/-- A client as a machine. -/
def clientMachine (request : Codec Req) (response : Codec Resp)
    (replyTopic : Text) :
    Machine (Client Req Resp) (ClientInput Req) (ClientEvent Resp) where
  initial client := client = Client.created
  step := Client.step request response replyTopic

/-- The registration of one call. -/
def ClientEvent.registers (index : Nat) : ClientEvent Resp → Bool
  | .registered other => other = index
  | _ => false

/-- A reply with a given number that `handle_reply` was entered with. -/
def ClientEvent.replyUnder (requestId : Nat) :
    ClientEvent Resp → Option RpcReply
  | .received reply => if reply.requestId = requestId then some reply else none
  | _ => none

/-- The replies with the number of a call that were processed since the call
has registered. -/
def repliesTo (index requestId : Nat) (events : List (ClientEvent Resp)) :
    List RpcReply :=
  (events.dropWhile fun event => !event.registers index).filterMap
    (·.replyUnder requestId)

/-- The call that a reply with a given number finds. -/
def Client.registeredCall (client : Client Req Resp) (requestId : Nat) :
    Option (Call Req Resp) :=
  client.pending[requestId]?.bind fun index => client.calls[index]?

/-- A reply that finds a finished call has the outcome that is stored. -/
def SameOutcome (codec : Codec Resp) (client : Client Req Resp) :
    ClientInput Req → Prop
  | .receive reply =>
      ∀ call ∈ client.registeredCall reply.requestId,
        call.done = true → reply.outcome codec = call.response
  | _ => True

instance [DecidableEq Resp] (codec : Codec Resp) (client : Client Req Resp) :
    (input : ClientInput Req) → Decidable (SameOutcome codec client input)
  | .receive reply =>
      inferInstanceAs
        (Decidable
          (∀ call ∈ client.registeredCall reply.requestId,
            call.done = true → reply.outcome codec = call.response))
  | .call _ => inferInstanceAs (Decidable True)
  | .register _ => inferInstanceAs (Decidable True)
  | .publish _ _ => inferInstanceAs (Decidable True)
  | .wake _ => inferInstanceAs (Decidable True)
  | .finish _ => inferInstanceAs (Decidable True)
  | .store => inferInstanceAs (Decidable True)

/-! ## Replies since the registration -/

section Replies

variable {index requestId : Nat} {events more : List (ClientEvent Resp)}

/-- The call has registered. -/
def Registered (events : List (ClientEvent Resp)) (index : Nat) : Prop :=
  ∃ event ∈ events, event.registers index = true

theorem Registered.append (registered : Registered events index) :
    Registered (events ++ more) index := by
  obtain ⟨event, member, registers⟩ := registered
  exact ⟨event, List.mem_append_left more member, registers⟩

theorem repliesTo_append (registered : Registered events index) :
    repliesTo index requestId (events ++ more) =
      repliesTo index requestId events ++
        more.filterMap (·.replyUnder requestId) := by
  obtain ⟨event, member, registers⟩ := registered
  have remains :
      (events.dropWhile fun event => !event.registers index).isEmpty =
        false := by
    rw [List.isEmpty_eq_false_iff, Ne, List.dropWhile_eq_nil_iff]
    intro unregistered
    simpa [registers] using unregistered event member
  simp [repliesTo, List.dropWhile_append, remains]

theorem repliesTo_append_of_not_registered
    (unregistered : ¬ Registered events index) :
    repliesTo index requestId (events ++ more) =
      repliesTo index requestId more := by
  have dropped :
      (events.dropWhile fun event => !event.registers index) = [] := by
    rw [List.dropWhile_eq_nil_iff]
    intro event member
    simpa using fun registers => unregistered ⟨event, member, registers⟩
  simp [repliesTo, List.dropWhile_append, dropped]

theorem registered_of_head
    {reply : RpcReply}
    (first : (repliesTo index requestId events).head? = some reply) :
    Registered events index := by
  by_contra unregistered
  have none : repliesTo index requestId (events ++ []) = [] :=
    repliesTo_append_of_not_registered unregistered
  rw [List.append_nil] at none
  simp [none] at first

/-- A result is determined by the first reply. -/
def First (codec : Codec Resp) (events : List (ClientEvent Resp))
    (index requestId : Nat) (result : Option Resp) : Prop :=
  ∃ reply, (repliesTo index requestId events).head? = some reply ∧
    result = reply.outcome codec

theorem First.append
    {codec : Codec Resp} {result : Option Resp}
    (first : First codec events index requestId result) :
    First codec (events ++ more) index requestId result := by
  obtain ⟨reply, head, determined⟩ := first
  refine ⟨reply, ?_, determined⟩
  rw [repliesTo_append (registered_of_head head), List.head?_append, head]
  rfl

theorem First.unique
    {codec : Codec Resp} {result other : Option Resp}
    (first : First codec events index requestId result)
    (second : First codec events index requestId other) :
    result = other := by
  obtain ⟨reply, head, determined⟩ := first
  obtain ⟨same, sameHead, otherDetermined⟩ := second
  rw [head] at sameHead
  cases sameHead
  rw [determined, otherDetermined]

end Replies

/-! ## The invariant -/

/-- What holds after every run in which finished calls keep their outcome. -/
structure FirstReplies (codec : Codec Resp) (client : Client Req Resp)
    (events : List (ClientEvent Resp)) : Prop where
  registered :
    ∀ index, Registered events index →
      ∃ call, client.calls[index]? = some call ∧ call.pc ≠ .numbered
  pending :
    ∀ (requestId index : Nat), client.pending[requestId]? = some index →
      Registered events index ∧
        ∃ call, client.calls[index]? = some call ∧
          call.requestId = requestId
  untouched :
    ∀ (requestId index : Nat) (call : Call Req Resp),
      client.pending[requestId]? = some index →
      client.calls[index]? = some call → call.done = false →
      (∀ parsed, client.worker ≠ some (index, parsed)) →
        repliesTo index requestId events = []
  worker :
    ∀ (index : Nat) (parsed : Option Resp),
      client.worker = some (index, parsed) →
      ∃ call, client.calls[index]? = some call ∧
        First codec events index call.requestId parsed
  finished :
    ∀ (index : Nat) (call : Call Req Resp),
      client.calls[index]? = some call → call.done = true →
        First codec events index call.requestId call.response
  ready :
    ∀ (index : Nat) (call : Call Req Resp),
      client.calls[index]? = some call → call.pc = .woken true →
        call.done = true
  returned :
    ∀ (index : Nat) (result : Option Resp),
      .returned index true result ∈ events →
      ∃ call, client.calls[index]? = some call ∧
        First codec events index call.requestId result

/-- What the callers do to the calls: the `Pending` of a call keeps its content,
a call does not go back in front of its registration, and one that is finished
or wakes up for a reply was there before. -/
structure CallsProgress (client target : Client Req Resp) : Prop where
  kept :
    ∀ (index : Nat) (call : Call Req Resp),
      client.calls[index]? = some call →
      ∃ later, target.calls[index]? = some later ∧
        later.requestId = call.requestId ∧ later.done = call.done ∧
        later.response = call.response ∧
        (call.pc ≠ .numbered → later.pc ≠ .numbered)
  came :
    ∀ (index : Nat) (later : Call Req Resp),
      target.calls[index]? = some later →
      later.done = true ∨ later.pc = .woken true →
      ∃ call, client.calls[index]? = some call ∧
        (later.pc = .woken true → call.pc = .woken true ∨ call.done = true)

theorem CallsProgress.moveTo
    {client target : Client Req Resp} {index : Nat} {pc : CallPc}
    (calls : target.calls = (client.moveTo index pc).calls)
    (proceeds : pc ≠ .numbered)
    (ready :
      ∀ call, client.calls[index]? = some call → pc = .woken true →
        call.done = true) :
    CallsProgress client target := by
  constructor
  · intro other call found
    refine ⟨if index = other then { call with pc := pc } else call, ?_, ?_⟩
    · rw [calls]
      exact getElem?_modify_eq_some.mpr ⟨call, found, rfl⟩
    · split
      · exact ⟨rfl, rfl, rfl, fun _ => proceeds⟩
      · exact ⟨rfl, rfl, rfl, id⟩
  · intro other later found _
    rw [calls] at found
    obtain ⟨call, before, rfl⟩ := getElem?_modify_eq_some.mp found
    refine ⟨call, before, fun woken => ?_⟩
    by_cases here : index = other
    · subst here
      rw [if_pos rfl] at woken
      exact .inr (ready call before woken)
    · rw [if_neg here] at woken
      exact .inl woken

theorem CallsProgress.call
    (request : Codec Req) (client : Client Req Resp) (message : Req) :
    CallsProgress client (client.call request message).1 := by
  unfold Client.call
  split
  · exact
      ⟨fun _ call found => ⟨call, found, rfl, rfl, rfl, id⟩,
        fun _ call found _ => ⟨call, found, .inl⟩⟩
  · constructor
    · intro index call found
      exact
        ⟨call, getElem?_concat_eq_some.mpr (.inl found), rfl, rfl, rfl, id⟩
    · intro index later found active
      rcases getElem?_concat_eq_some.mp found with earlier | ⟨_, rfl⟩
      · exact ⟨later, earlier, .inl⟩
      · simp at active

namespace FirstReplies

variable {codec : Codec Resp} {client target : Client Req Resp}
  {events emitted : List (ClientEvent Resp)} {index : Nat}

theorem created : FirstReplies codec (Client.created : Client Req Resp) [] where
  registered := by
    rintro index ⟨event, member, _⟩
    cases member
  pending := by simp [Client.created]
  untouched := by simp [Client.created]
  worker := by simp [Client.created]
  finished := by simp [Client.created]
  ready := by simp [Client.created]
  returned := by simp

/-- The steps of the callers other than registrations: calls begin or move on,
and may be taken off the map. -/
theorem progress
    (sound : FirstReplies codec client events)
    (calls : CallsProgress client target)
    (pending :
      ∀ (requestId other : Nat), target.pending[requestId]? = some other →
        client.pending[requestId]? = some other)
    (worker : target.worker = client.worker)
    (quiet :
      ∀ event ∈ emitted,
        (∀ other, event.registers other = false) ∧
          ∀ requestId, event.replyUnder requestId = none)
    (returned :
      ∀ other result, .returned other true result ∈ emitted →
        ∃ call, client.calls[other]? = some call ∧
          First codec events other call.requestId result) :
    FirstReplies codec target (events ++ emitted) := by
  have silent (requestId : Nat) :
      emitted.filterMap (·.replyUnder requestId) = [] := by
    rw [List.filterMap_eq_nil_iff]
    exact fun event member => (quiet event member).2 requestId
  have carry {other : Nat} {result : Option Resp}
      (first :
        ∃ call, client.calls[other]? = some call ∧
          First codec events other call.requestId result) :
      ∃ later, target.calls[other]? = some later ∧
        First codec (events ++ emitted) other later.requestId result := by
    obtain ⟨call, found, first⟩ := first
    obtain ⟨later, after, same, _⟩ := calls.kept other call found
    exact ⟨later, after, by rw [same]; exact first.append⟩
  constructor
  case registered =>
    rintro other ⟨event, member, registers⟩
    rcases List.mem_append.mp member with earlier | now
    · obtain ⟨call, found, past⟩ :=
        sound.registered other ⟨event, earlier, registers⟩
      obtain ⟨later, after, _, _, _, stays⟩ := calls.kept other call found
      exact ⟨later, after, stays past⟩
    · rw [(quiet event now).1 other] at registers
      cases registers
  case pending =>
    intro requestId other found
    obtain ⟨registered, call, member, numbered⟩ :=
      sound.pending requestId other (pending requestId other found)
    obtain ⟨later, after, same, _⟩ := calls.kept other call member
    exact ⟨registered.append, later, after, same.trans numbered⟩
  case untouched =>
    intro requestId other later found member unfinished idle
    have before := pending requestId other found
    obtain ⟨registered, call, earlier, _⟩ :=
      sound.pending requestId other before
    obtain ⟨same, after, _, done, _⟩ := calls.kept other call earlier
    rw [member] at after
    cases after
    rw [repliesTo_append registered, silent, List.append_nil]
    refine sound.untouched requestId other call before earlier
      (done.symm.trans unfinished) ?_
    rwa [← worker]
  case worker =>
    intro other parsed busy
    rw [worker] at busy
    exact carry (sound.worker other parsed busy)
  case finished =>
    intro other later member finished
    obtain ⟨call, earlier, woken⟩ := calls.came other later member (.inl finished)
    obtain ⟨same, after, id, done, response, _⟩ := calls.kept other call earlier
    rw [member] at after
    cases after
    rw [id, response]
    exact (sound.finished other call earlier (done.symm.trans finished)).append
  case ready =>
    intro other later member woken
    obtain ⟨call, earlier, ready⟩ := calls.came other later member (.inr woken)
    obtain ⟨same, after, _, done, _⟩ := calls.kept other call earlier
    rw [member] at after
    cases after
    rw [done]
    rcases ready woken with before | finished
    · exact sound.ready other call earlier before
    · exact finished
  case returned =>
    intro other result member
    rcases List.mem_append.mp member with earlier | now
    · exact carry (sound.returned other result earlier)
    · exact carry (returned other result now)

/-- Results that were returned before another event stay determined. -/
theorem returned_append
    (sound : FirstReplies codec client events) {event : ClientEvent Resp}
    (different : ∀ index result, event ≠ .returned index true result)
    (index : Nat) (result : Option Resp)
    (member : .returned index true result ∈ events ++ [event]) :
    ∃ call, client.calls[index]? = some call ∧
      First codec (events ++ [event]) index call.requestId result := by
  rcases List.mem_append.mp member with earlier | now
  · obtain ⟨call, found, first⟩ := sound.returned index result earlier
    exact ⟨call, found, first.append⟩
  · exact absurd (List.mem_singleton.mp now).symm (different index result)

theorem register
    (sound : FirstReplies codec client events)
    (stepped : client.register index = some (target, emitted)) :
    FirstReplies codec target (events ++ emitted) := by
  obtain ⟨call, member, numbered, rfl, rfl⟩ := Client.register_eq_some stepped
  have unregistered : ¬ Registered events index := by
    intro registered
    obtain ⟨same, found, past⟩ := sound.registered index registered
    rw [member] at found
    cases found
    exact past numbered
  have unseen (requestId : Nat) :
      repliesTo index requestId (events ++ [.registered index]) = [] := by
    rw [repliesTo_append_of_not_registered unregistered]
    simp [repliesTo, ClientEvent.registers, ClientEvent.replyUnder]
  have moved : CallsProgress client (client.moveTo index .registered) :=
    .moveTo rfl (by simp) (by simp)
  have rest :
      FirstReplies codec (client.moveTo index .registered)
        (events ++ []) :=
    sound.progress moved (fun _ _ found => found) rfl (by simp) (by simp)
  rw [List.append_nil] at rest
  obtain ⟨later, after, same, _⟩ := moved.kept index call member
  have here : Registered (events ++ [.registered index]) index :=
    ⟨_, List.mem_append_right _ List.mem_cons_self, by
      simp [ClientEvent.registers]⟩
  constructor
  case registered =>
    rintro other ⟨event, occurs, registers⟩
    rcases List.mem_append.mp occurs with earlier | now
    · exact rest.registered other ⟨event, earlier, registers⟩
    · rw [List.mem_singleton.mp now] at registers
      obtain rfl : index = other := by
        simpa [ClientEvent.registers] using registers
      refine ⟨{ call with pc := .registered }, ?_, by simp⟩
      exact
        getElem?_modify_eq_some.mpr ⟨call, member, (if_pos rfl).symm⟩
  case pending =>
    intro requestId other found
    rcases getElem?_insert_eq_some.mp found with ⟨equal, rfl⟩ | ⟨_, old⟩
    · exact ⟨here, later, after, same.trans equal⟩
    · obtain ⟨registered, rest⟩ := rest.pending requestId other old
      exact ⟨registered.append, rest⟩
  case untouched =>
    intro requestId other later found member unfinished idle
    by_cases mine : index = other
    · rw [← mine]
      exact unseen requestId
    · rcases getElem?_insert_eq_some.mp found with ⟨_, rfl⟩ | ⟨_, old⟩
      · exact absurd rfl mine
      · rw [repliesTo_append (rest.pending requestId other old).1,
          rest.untouched requestId other later old member unfinished idle]
        rfl
  case worker =>
    intro other parsed busy
    obtain ⟨call, found, first⟩ := rest.worker other parsed busy
    exact ⟨call, found, first.append⟩
  case finished =>
    intro other call found done
    exact (rest.finished other call found done).append
  case ready => exact rest.ready
  case returned => exact rest.returned_append (by simp)

/-- A reply that finds an unfinished call is the first; for a finished call the
guard says that it does not matter. -/
theorem receive
    {reply : RpcReply} (sound : FirstReplies codec client events)
    (allowed : SameOutcome codec client (.receive reply))
    (stepped : client.receive codec reply = some (target, emitted)) :
    FirstReplies codec target (events ++ emitted) := by
  obtain ⟨idle, rfl, rfl⟩ := Client.receive_eq_some stepped
  constructor
  case registered =>
    rintro other ⟨event, member, registers⟩
    rcases List.mem_append.mp member with earlier | now
    · exact sound.registered other ⟨event, earlier, registers⟩
    · rw [List.mem_singleton.mp now] at registers
      cases registers
  case pending =>
    intro requestId other found
    obtain ⟨registered, rest⟩ := sound.pending requestId other found
    exact ⟨registered.append, rest⟩
  case untouched =>
    intro requestId other call found member unfinished elsewhere
    have unseen :=
      sound.untouched requestId other call found member unfinished
        (by simp [idle])
    have different : reply.requestId ≠ requestId := by
      rintro rfl
      exact elsewhere _ (by rw [found]; rfl)
    rw [repliesTo_append (sound.pending requestId other found).1, unseen]
    simp [ClientEvent.replyUnder, different]
  case worker =>
    intro other parsed busy
    obtain ⟨found, taken, equal⟩ := Option.map_eq_some_iff.mp busy
    cases equal
    obtain ⟨registered, call, member, numbered⟩ :=
      sound.pending reply.requestId other taken
    refine ⟨call, member, ?_⟩
    rw [numbered]
    by_cases done : call.done = true
    · have stored :=
        allowed call (by simp [Client.registeredCall, taken, member]) done
      rw [stored, ← numbered]
      exact (sound.finished other call member done).append
    · have unseen :=
        sound.untouched reply.requestId other call taken member
          (by simpa using done) (by simp [idle])
      refine ⟨reply, ?_, rfl⟩
      rw [repliesTo_append registered, unseen]
      simp [ClientEvent.replyUnder]
  case finished =>
    intro other call found done
    exact (sound.finished other call found done).append
  case ready => exact sound.ready
  case returned => exact sound.returned_append (by simp)

/-- What is stored is the outcome of the first reply. -/
theorem store
    (sound : FirstReplies codec client events)
    (stepped : client.store = some (target, emitted)) :
    FirstReplies codec target (events ++ emitted) := by
  obtain ⟨index, parsed, busy, _, rfl, rfl⟩ := Client.store_eq_some stepped
  rw [List.append_nil]
  have kept {other : Nat} {call : Call Req Resp}
      (found : client.calls[other]? = some call) :
      ∃ later,
        (client.calls.modify index fun call =>
          { call with response := parsed, done := true })[other]? =
            some later ∧
          later.requestId = call.requestId ∧ later.pc = call.pc :=
    ⟨_, getElem?_modify_eq_some.mpr ⟨call, found, rfl⟩, by
      split <;> rfl, by split <;> rfl⟩
  have carry {other : Nat} {result : Option Resp}
      (first :
        ∃ call, client.calls[other]? = some call ∧
          First codec events other call.requestId result) :
      ∃ later,
        (client.calls.modify index fun call =>
          { call with response := parsed, done := true })[other]? =
            some later ∧
          First codec events other later.requestId result := by
    obtain ⟨call, found, first⟩ := first
    obtain ⟨later, after, same, _⟩ := kept found
    exact ⟨later, after, by rw [same]; exact first⟩
  constructor
  case registered =>
    intro other registered
    obtain ⟨call, found, past⟩ := sound.registered other registered
    obtain ⟨later, after, _, same⟩ := kept found
    exact ⟨later, after, by rw [same]; exact past⟩
  case pending =>
    intro requestId other found
    obtain ⟨registered, call, member, numbered⟩ :=
      sound.pending requestId other found
    obtain ⟨later, after, same, _⟩ := kept member
    exact ⟨registered, later, after, same.trans numbered⟩
  case untouched =>
    intro requestId other later found member unfinished _
    obtain ⟨call, before, rfl⟩ := getElem?_modify_eq_some.mp member
    by_cases here : index = other
    · simp [here] at unfinished
    · rw [if_neg here] at unfinished
      refine sound.untouched requestId other call found before unfinished ?_
      intro stored elsewhere
      rw [busy] at elsewhere
      cases elsewhere
      exact here rfl
  case worker => simp
  case finished =>
    intro other later member done
    obtain ⟨call, before, rfl⟩ := getElem?_modify_eq_some.mp member
    by_cases here : index = other
    · subst here
      obtain ⟨same, found, first⟩ := sound.worker index parsed busy
      rw [before] at found
      cases found
      rw [if_pos rfl]
      exact first
    · rw [if_neg here] at done ⊢
      exact sound.finished other call before done
  case ready =>
    intro other later member woken
    obtain ⟨call, before, rfl⟩ := getElem?_modify_eq_some.mp member
    by_cases here : index = other
    · rw [if_pos here]
    · rw [if_neg here] at woken ⊢
      exact sound.ready other call before woken
  case returned =>
    intro other result member
    exact carry (sound.returned other result member)

theorem step
    {request : Codec Req} {replyTopic : Text} {input : ClientInput Req}
    (sound : FirstReplies codec client events)
    (allowed : SameOutcome codec client input)
    (stepped :
      client.step request codec replyTopic input = some (target, emitted)) :
    FirstReplies codec target (events ++ emitted) := by
  cases input with
  | call message =>
      obtain ⟨rfl, rfl⟩ := Prod.ext_iff.mp (Option.some.inj stepped)
      refine sound.progress (.call request client message) ?_ ?_ ?_ ?_
      all_goals
        unfold Client.call
        split <;> simp [ClientEvent.registers, ClientEvent.replyUnder]
  | register index => exact sound.register stepped
  | publish index serialized =>
      obtain ⟨call, pc, _, _, places, rfl, sent⟩ :=
        Client.publish_eq_some stepped
      refine sound.progress (.moveTo rfl ?_ ?_) (fun _ _ found => found) rfl
        ?_ ?_
      · rcases places with rfl | rfl <;> simp
      · rcases places with rfl | rfl <;> simp
      · intro event member
        rw [sent event member]
        exact ⟨fun _ => rfl, fun _ => rfl⟩
      · intro other result member
        cases sent _ member
  | wake index =>
      obtain ⟨call, member, _, rfl, rfl⟩ := Client.wake_eq_some stepped
      refine sound.progress (.moveTo rfl (by simp) ?_)
        (fun _ _ found => found) rfl (by simp) (by simp)
      intro same found woken
      rw [member] at found
      cases found
      simpa using woken
  | finish index =>
      obtain ⟨call, ready, member, place, rfl, rfl⟩ :=
        Client.finish_eq_some stepped
      refine sound.progress (.moveTo rfl (by simp) (by simp)) ?_ rfl ?_ ?_
      · intro requestId other found
        exact (getElem?_erase_eq_some.mp found).2
      · simp [ClientEvent.registers, ClientEvent.replyUnder]
      · intro other result returned
        cases List.mem_singleton.mp returned
        rcases place with ⟨_, impossible⟩ | woken
        · cases impossible
        · have done := sound.ready index call member woken
          exact ⟨call, member, sound.finished index call member done⟩
  | receive reply => exact sound.receive allowed stepped
  | store => exact sound.store stepped

end FirstReplies

theorem firstReplies_of_run
    {request : Codec Req} {response : Codec Resp} {replyTopic : Text}
    {inputs : List (ClientInput Req)} {client : Client Req Resp}
    {events : List (ClientEvent Resp)}
    (run :
      (clientMachine request response replyTopic).Run (SameOutcome response)
        inputs client events) :
    FirstReplies response client events := by
  refine run.invariant (FirstReplies response) ?_ ?_
  · rintro client rfl
    exact FirstReplies.created
  · intro client events input target emitted sound allowed stepped
    exact sound.step allowed stepped

/-- A finished call stays finished. -/
theorem finished_step
    {request : Codec Req} {response : Codec Resp} {replyTopic : Text}
    {client target : Client Req Resp} {input : ClientInput Req}
    {emitted : List (ClientEvent Resp)} {index requestId : Nat}
    (stepped :
      client.step request response replyTopic input = some (target, emitted))
    (finished :
      ∃ call, client.calls[index]? = some call ∧
        call.requestId = requestId ∧ call.done = true) :
    ∃ call, target.calls[index]? = some call ∧
      call.requestId = requestId ∧ call.done = true := by
  obtain ⟨call, member, numbered, done⟩ := finished
  have moved {pc : CallPc} {other : Nat} :
      ∃ later, (client.moveTo other pc).calls[index]? = some later ∧
        later.requestId = requestId ∧ later.done = true := by
    refine ⟨_, getElem?_modify_eq_some.mpr ⟨call, member, rfl⟩, ?_⟩
    split <;> exact ⟨numbered, done⟩
  cases input with
  | call message =>
      obtain ⟨rfl, _⟩ := Prod.ext_iff.mp (Option.some.inj stepped)
      obtain ⟨later, after, same, kept, _⟩ :=
        (CallsProgress.call request client message).kept index call member
      exact ⟨later, after, same.trans numbered, kept.trans done⟩
  | register other =>
      obtain ⟨_, _, _, rfl, _⟩ := Client.register_eq_some stepped
      exact moved
  | publish other serialized =>
      obtain ⟨_, _, _, _, _, rfl, _⟩ := Client.publish_eq_some stepped
      exact moved
  | wake other =>
      obtain ⟨_, _, _, rfl, _⟩ := Client.wake_eq_some stepped
      exact moved
  | finish other =>
      obtain ⟨_, _, _, _, rfl, _⟩ := Client.finish_eq_some stepped
      exact moved
  | receive reply =>
      obtain ⟨_, rfl, _⟩ := Client.receive_eq_some stepped
      exact ⟨call, member, numbered, done⟩
  | store =>
      obtain ⟨other, parsed, _, _, rfl, _⟩ := Client.store_eq_some stepped
      refine ⟨_, getElem?_modify_eq_some.mpr ⟨call, member, rfl⟩, ?_⟩
      split
      · exact ⟨numbered, rfl⟩
      · exact ⟨numbered, done⟩

/-- If no reply finds a finished call whose stored outcome it would change,
then the result of a call that does not time out is determined by the first
reply with its number that is processed after its registration, and the
response of a finished call never changes. -/
theorem first_reply_wins
    [DecidableEq Resp] (request : Codec Req) (response : Codec Resp)
    (replyTopic : Text) {inputs : List (ClientInput Req)}
    {client : Client Req Resp} {events : List (ClientEvent Resp)}
    (run :
      (clientMachine request response replyTopic).Run (SameOutcome response)
        inputs client events) :
    (∀ index result, .returned index true result ∈ events →
        ∃ call reply, client.calls[index]? = some call ∧
          (repliesTo index call.requestId events).head? = some reply ∧
          result = reply.outcome response) ∧
      ∀ rest target emitted,
        (clientMachine request response replyTopic).exec (SameOutcome response)
            client rest = some (target, emitted) →
        ∀ (index : Nat) (call : Call Req Resp),
          client.calls[index]? = some call → call.done = true →
          ∃ later, target.calls[index]? = some later ∧ later.done = true ∧
            later.response = call.response := by
  have sound := firstReplies_of_run run
  refine ⟨?_, ?_⟩
  · intro index result returned
    obtain ⟨call, member, reply, first, determined⟩ :=
      sound.returned index result returned
    exact ⟨call, reply, member, first, determined⟩
  · intro rest target emitted executed index call member done
    obtain ⟨later, after, numbered, finished⟩ :=
      Machine.exec_invariant
        (fun state : Client Req Resp =>
          ∃ later, state.calls[index]? = some later ∧
            later.requestId = call.requestId ∧ later.done = true)
        ⟨call, member, rfl, done⟩
        (fun _ _ _ _ _ before _ stepped => finished_step stepped before) executed
    refine ⟨later, after, finished, ?_⟩
    have soundAfter := firstReplies_of_run (run.continued executed)
    have first := soundAfter.finished index later after finished
    rw [numbered] at first
    exact first.unique (sound.finished index call member done).append

/-! ## Two replies to one call -/

/-- A call is made, registered and published. -/
def sendCall : List (ClientInput Bytes) :=
  [.call [1], .register 0, .publish 0 true]

/-- A reply to the first call. -/
def answer (payload : Bytes) : RpcReply :=
  ⟨1, payload, true, []⟩

/-- A duplicated reply before the caller wakes up, and another reply after its
return. -/
theorem first_reply_wins_duplicated :
    ∃ client events,
      (clientMachine bytesCodec bytesCodec ['r']).Run (SameOutcome bytesCodec)
          (sendCall ++
            [.receive (answer [7]), .store, .receive (answer [7]), .store,
              .wake 0, .finish 0, .receive (answer [8])])
          client events ∧
        .returned 0 true (some [7]) ∈ events ∧
        ∃ call reply, client.calls[0]? = some call ∧
          (repliesTo 0 call.requestId events).head? = some reply ∧
          some [7] = reply.outcome bytesCodec := by
  obtain ⟨client, events, run, checked⟩ :=
    Machine.run_of_exec_check (clientMachine bytesCodec bytesCodec ['r'])
      (SameOutcome bytesCodec)
      (sendCall ++
        ([.receive (answer [7]), .store, .receive (answer [7]), .store,
          .wake 0, .finish 0, .receive (answer [8])] :
          List (ClientInput Bytes)))
      Client.created
      (fun _ events => .returned 0 true (some [7]) ∈ events)
      rfl (by decide +kernel)
  have returned := of_decide_eq_true checked
  exact ⟨client, events, run, returned,
    (first_reply_wins bytesCodec bytesCodec ['r'] run).1 0 (some [7]) returned⟩

/-- A second, different reply before the caller wakes up replaces the
response of the first. -/
theorem second_reply_wins :
    ¬ ∀ (inputs : List (ClientInput Bytes)) (client : Client Bytes Bytes)
        (events : List (ClientEvent Bytes)),
        (clientMachine bytesCodec bytesCodec ['r']).Run Machine.free inputs
          client events →
        (∀ index result, .returned index true result ∈ events →
            ∃ call reply, client.calls[index]? = some call ∧
              (repliesTo index call.requestId events).head? = some reply ∧
              result = reply.outcome bytesCodec) ∧
          ∀ rest target emitted,
            (clientMachine bytesCodec bytesCodec ['r']).exec Machine.free
                client rest = some (target, emitted) →
            ∀ (index : Nat) (call : Call Bytes Bytes),
              client.calls[index]? = some call → call.done = true →
              ∃ later, target.calls[index]? = some later ∧
                later.done = true ∧ later.response = call.response := by
  intro claimed
  obtain ⟨client, events, run, checked⟩ :=
    Machine.run_of_exec_check (clientMachine bytesCodec bytesCodec ['r'])
      Machine.free
      (sendCall ++
        ([.receive (answer [7]), .store, .receive (answer [8]), .store,
          .wake 0, .finish 0] : List (ClientInput Bytes)))
      Client.created
      (fun client events =>
        client.calls[0]?.any (fun call => call.requestId = 1) ∧
          (repliesTo 0 1 events).head? = some (answer [7]) ∧
          .returned 0 true (some [8]) ∈ events)
      rfl (by decide +kernel)
  obtain ⟨numbered, first, returned⟩ := of_decide_eq_true checked
  obtain ⟨call, reply, member, head, determined⟩ :=
    (claimed _ client events run).1 0 (some [8]) returned
  have same : call.requestId = 1 := by
    simpa [member] using numbered
  rw [same, first] at head
  cases head
  revert determined
  decide

end MiniMiddleware.Core
