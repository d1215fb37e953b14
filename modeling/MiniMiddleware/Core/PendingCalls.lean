import MiniMiddleware.Core.FirstReply

/-!
# The map of registered calls

A call enters the map under its request id and takes itself off on every path
on which it returns, whether `publish` failed, a reply arrived or the time was
up.  A reply of which the map knows nothing is dropped at once.

Request ids come from a 64-bit counter, so a number is used again after 2⁶⁴
calls.
-/

namespace MiniMiddleware.Core

open MiniMiddleware.Library MiniMiddleware.Transport

variable {Req Resp : Type}

/-- The call has registered and not returned. -/
def CallPc.pending : CallPc → Bool
  | .numbered => false
  | .returned => false
  | _ => true

/-- What holds of the map and of the counter at all times: an entry belongs to
a call in progress, and calls are numbered in order, starting at one. -/
structure PendingBooks (client : Client Req Resp) : Prop where
  entry :
    ∀ requestId index : Nat, client.pending[requestId]? = some index →
      ∃ call, client.calls[index]? = some call ∧
        call.requestId = requestId ∧ call.pc.pending = true
  number :
    ∀ (index : Nat) (call : Call Req Resp),
      client.calls[index]? = some call →
        call.requestId = (index + 1) % 2 ^ 64
  next : client.nextRequestId = (client.calls.length + 1) % 2 ^ 64

namespace PendingBooks

variable {client target : Client Req Resp} {index : Nat}
  {emitted : List (ClientEvent Resp)}

theorem created : PendingBooks (Client.created : Client Req Resp) where
  entry := by simp [Client.created]
  number := by simp [Client.created]
  next := rfl

theorem number_modify
    (books : PendingBooks client)
    {change : Call Req Resp → Call Req Resp}
    (same : ∀ call, (change call).requestId = call.requestId)
    (other : Nat) (later : Call Req Resp)
    (found : (client.calls.modify index change)[other]? = some later) :
    later.requestId = (other + 1) % 2 ^ 64 := by
  obtain ⟨call, before, rfl⟩ := getElem?_modify_eq_some.mp found
  split
  · rw [same]
    exact books.number other call before
  · exact books.number other call before

/-- A change of one call that leaves its number alone and keeps it in
progress. -/
theorem modify
    (books : PendingBooks client)
    (change : Call Req Resp → Call Req Resp)
    (same : ∀ call, (change call).requestId = call.requestId)
    (stays :
      ∀ call, client.calls[index]? = some call →
        call.pc.pending = true → (change call).pc.pending = true)
    (calls : target.calls = client.calls.modify index change)
    (pending : target.pending = client.pending)
    (next : target.nextRequestId = client.nextRequestId) :
    PendingBooks target where
  entry requestId other found := by
    rw [pending] at found
    obtain ⟨call, before, numbered, active⟩ :=
      books.entry requestId other found
    rw [calls]
    refine ⟨_, getElem?_modify_eq_some.mpr ⟨call, before, rfl⟩, ?_⟩
    split
    · rename_i here
      subst here
      exact ⟨(same call).trans numbered, stays call before active⟩
    · exact ⟨numbered, active⟩
  number := by
    rw [calls]
    exact books.number_modify same
  next := by
    rw [next, calls, List.length_modify]
    exact books.next

theorem call
    (books : PendingBooks client) (codec : Codec Req) (message : Req) :
    PendingBooks (client.call codec message).1 := by
  unfold Client.call
  split
  · exact books
  · refine
      { entry := fun requestId other found => ?_
        number := fun other later found => ?_
        next := ?_ }
    · obtain ⟨call, before, rest⟩ := books.entry requestId other found
      exact ⟨call, getElem?_concat_eq_some.mpr (.inl before), rest⟩
    · rcases getElem?_concat_eq_some.mp found with before | ⟨rfl, rfl⟩
      · exact books.number other later before
      · exact books.next
    · have next := books.next
      simp only [List.length_append, List.length_singleton]
      omega

/-- The registration enters the call, which was not in progress before. -/
theorem register
    (books : PendingBooks client)
    (stepped : client.register index = some (target, emitted)) :
    PendingBooks target := by
  obtain ⟨call, before, place, rfl, rfl⟩ := Client.register_eq_some stepped
  refine
    { entry := fun requestId other found => ?_
      number := books.number_modify fun _ => rfl
      next := ?_ }
  · dsimp only at found
    rcases getElem?_insert_eq_some.mp found with ⟨same, rfl⟩ | ⟨_, found⟩
    · refine ⟨_, getElem?_modify_eq_some.mpr ⟨call, before, rfl⟩, ?_⟩
      rw [if_pos rfl]
      exact ⟨same, rfl⟩
    · obtain ⟨entered, member, numbered, active⟩ :=
        books.entry requestId other found
      have different : index ≠ other := by
        rintro rfl
        rw [before] at member
        cases member
        rw [place] at active
        cases active
      refine ⟨_, getElem?_modify_eq_some.mpr ⟨entered, member, rfl⟩, ?_⟩
      rw [if_neg different]
      exact ⟨numbered, active⟩
  · have next := books.next
    simpa [Client.moveTo] using next

/-- Every way to return erases the number of the call. -/
theorem finish
    (books : PendingBooks client)
    (stepped : client.finish index = some (target, emitted)) :
    PendingBooks target := by
  obtain ⟨call, ready, before, _, rfl, rfl⟩ := Client.finish_eq_some stepped
  refine
    { entry := fun requestId other found => ?_
      number := books.number_modify fun _ => rfl
      next := ?_ }
  · dsimp only at found
    obtain ⟨unequal, found⟩ := getElem?_erase_eq_some.mp found
    obtain ⟨entered, member, numbered, active⟩ :=
      books.entry requestId other found
    have different : index ≠ other := by
      rintro rfl
      rw [before] at member
      cases member
      exact unequal numbered
    refine ⟨_, getElem?_modify_eq_some.mpr ⟨entered, member, rfl⟩, ?_⟩
    rw [if_neg different]
    exact ⟨numbered, active⟩
  · have next := books.next
    simpa [Client.moveTo] using next

theorem step
    {request : Codec Req} {response : Codec Resp} {replyTopic : Text}
    {input : ClientInput Req}
    (books : PendingBooks client)
    (stepped :
      client.step request response replyTopic input =
        some (target, emitted)) :
    PendingBooks target := by
  cases input with
  | call message =>
      have equal : (client.call request message).1 = target :=
        congrArg Prod.fst (Option.some.inj stepped)
      exact equal ▸ books.call request message
  | register index =>
      exact books.register stepped
  | publish index serialized =>
      obtain ⟨call, pc, _, _, place, rfl, _⟩ := Client.publish_eq_some stepped
      have stays : pc.pending = true := by
        rcases place with rfl | rfl
        · rfl
        · rfl
      exact
        books.modify (fun call => { call with pc := pc }) (fun _ => rfl)
          (fun _ _ _ => stays) rfl rfl rfl
  | wake index =>
      obtain ⟨call, _, _, rfl, _⟩ := Client.wake_eq_some stepped
      exact
        books.modify (fun other => { other with pc := .woken call.done })
          (fun _ => rfl) (fun _ _ _ => rfl) rfl rfl rfl
  | finish index =>
      exact books.finish stepped
  | receive reply =>
      obtain ⟨_, rfl, _⟩ := Client.receive_eq_some stepped
      exact ⟨books.entry, books.number, books.next⟩
  | store =>
      obtain ⟨index, parsed, _, _, rfl, _⟩ := Client.store_eq_some stepped
      exact
        books.modify (fun call => { call with response := parsed, done := true })
          (fun _ => rfl) (fun _ _ => id) rfl rfl rfl

theorem of_run
    {request : Codec Req} {response : Codec Resp} {replyTopic : Text}
    {inputs : List (ClientInput Req)} {events : List (ClientEvent Resp)}
    (run :
      (clientMachine request response replyTopic).Run Machine.free inputs
        client events) :
    PendingBooks client := by
  refine run.invariant (fun client _ => PendingBooks client) ?_ ?_
  · intro client initially
    have equal : client = Client.created := initially
    exact equal ▸ created
  · intro _ _ _ _ _ books _ stepped
    exact books.step stepped

/-- Calls have one number exactly if their places differ by a multiple of the
range of the counter. -/
theorem requestId_eq_iff
    (books : PendingBooks client) {first second : Nat}
    {call other : Call Req Resp}
    (found : client.calls[first]? = some call)
    (otherFound : client.calls[second]? = some other) :
    call.requestId = other.requestId ↔ first % 2 ^ 64 = second % 2 ^ 64 := by
  rw [books.number first call found, books.number second other otherFound]
  omega

/-- The number of a call that has returned is in the map only for another
call. -/
theorem entry_of_returned
    (books : PendingBooks client) {other : Nat} {call : Call Req Resp}
    (found : client.calls[index]? = some call)
    (place : call.pc = .returned)
    (entered : client.pending[call.requestId]? = some other) :
    other ≠ index ∧ other % 2 ^ 64 = index % 2 ^ 64 := by
  obtain ⟨later, member, numbered, active⟩ :=
    books.entry call.requestId other entered
  refine ⟨?_, (books.requestId_eq_iff member found).mp numbered⟩
  rintro rfl
  have same : call = later := Option.some.inj (found.symm.trans member)
  rw [← same, place] at active
  cases active

/-- The map holds no number of a returned call before the counter has wrapped
around. -/
theorem getElem?_of_returned
    (books : PendingBooks client) {call : Call Req Resp}
    (few : client.calls.length ≤ 2 ^ 64)
    (found : client.calls[index]? = some call)
    (place : call.pc = .returned) :
    client.pending[call.requestId]? = none := by
  cases entered : client.pending[call.requestId]? with
  | none => rfl
  | some other =>
      obtain ⟨different, congruent⟩ :=
        books.entry_of_returned found place entered
      obtain ⟨later, member, _⟩ := books.entry call.requestId other entered
      have below : index < client.calls.length :=
        (List.getElem?_eq_some_iff.mp found).1
      have otherBelow : other < client.calls.length :=
        (List.getElem?_eq_some_iff.mp member).1
      omega

end PendingBooks

theorem Client.getElem?_of_finish
    {client target : Client Req Resp} {index : Nat} {call : Call Req Resp}
    {emitted : List (ClientEvent Resp)}
    (found : client.calls[index]? = some call)
    (stepped : client.finish index = some (target, emitted)) :
    target.pending[call.requestId]? = none := by
  obtain ⟨same, ready, member, _, rfl, _⟩ := finish_eq_some stepped
  have equal : same = call := Option.some.inj (member.symm.trans found)
  rw [equal]
  exact Std.TreeMap.getElem?_erase_self

/-- A reply of which the map knows nothing changes nothing. -/
theorem Client.receive_unknown
    {codec : Codec Resp} {client target : Client Req Resp}
    {reply : RpcReply} {emitted : List (ClientEvent Resp)}
    (unknown : client.pending[reply.requestId]? = none)
    (stepped : client.receive codec reply = some (target, emitted)) :
    target = client := by
  obtain ⟨idle, rfl, _⟩ := receive_eq_some stepped
  rw [unknown, Option.map_none, ← idle]

/-! ## The calls of a run -/

/-- In every run: the map holds numbers of calls in progress only; calls are
numbered in order from one, and share a number only if the counter has wrapped
around between them; a call that returns has taken its number off the map,
where only another call with the same number can enter it again, and none can
among the first 2⁶⁴ calls; and an unknown reply changes nothing. -/
theorem pending_calls_erased
    (request : Codec Req) (response : Codec Resp) (replyTopic : Text)
    {inputs : List (ClientInput Req)} {client : Client Req Resp}
    {events : List (ClientEvent Resp)}
    (run :
      (clientMachine request response replyTopic).Run Machine.free inputs
        client events) :
    (∀ requestId index : Nat, client.pending[requestId]? = some index →
      ∃ call, client.calls[index]? = some call ∧
        call.requestId = requestId ∧ call.pc.pending = true) ∧
    (∀ (index : Nat) (call : Call Req Resp),
      client.calls[index]? = some call →
      call.requestId = (index + 1) % 2 ^ 64) ∧
    (∀ (first second : Nat) (call other : Call Req Resp),
      client.calls[first]? = some call →
      client.calls[second]? = some other →
      (call.requestId = other.requestId ↔
        first % 2 ^ 64 = second % 2 ^ 64)) ∧
    (∀ (index : Nat) (call : Call Req Resp) (target : Client Req Resp)
        (emitted : List (ClientEvent Resp)),
      client.calls[index]? = some call →
      client.finish index = some (target, emitted) →
      target.pending[call.requestId]? = none) ∧
    (∀ (index : Nat) (call : Call Req Resp),
      client.calls[index]? = some call → call.pc = .returned →
      (∀ other : Nat, client.pending[call.requestId]? = some other →
        other ≠ index ∧ other % 2 ^ 64 = index % 2 ^ 64) ∧
      (client.calls.length ≤ 2 ^ 64 →
        client.pending[call.requestId]? = none)) ∧
    ∀ (reply : RpcReply) (target : Client Req Resp)
        (emitted : List (ClientEvent Resp)),
      client.pending[reply.requestId]? = none →
      client.receive response reply = some (target, emitted) →
      target = client := by
  have books := PendingBooks.of_run run
  refine
    ⟨books.entry, books.number, ?_, ?_, ?_,
      fun _ _ _ => Client.receive_unknown⟩
  · intro first second call other found otherFound
    exact books.requestId_eq_iff found otherFound
  · intro index call target emitted found stepped
    exact Client.getElem?_of_finish found stepped
  · intro index call found place
    exact
      ⟨fun other => books.entry_of_returned found place,
        fun few => books.getElem?_of_returned few found place⟩

/-- Two calls, of which one cannot be published and the other times out before
its reply arrives: both have returned, and the map is empty. -/
theorem pending_calls_erased_late :
    ∃ client events,
      (clientMachine bytesCodec bytesCodec ['r']).Run Machine.free
          [.call [1], .call [2], .register 0, .register 1, .publish 0 false,
            .publish 1 true, .finish 0, .wake 1, .finish 1,
            .receive ⟨2, [7], true, []⟩]
          client events ∧
        client.calls.map Call.pc = [.returned, .returned] ∧
        ∀ call ∈ client.calls, client.pending[call.requestId]? = none := by
  obtain ⟨client, events, run, checked⟩ :=
    Machine.run_of_exec_check (clientMachine bytesCodec bytesCodec ['r'])
      Machine.free
      ([.call [1], .call [2], .register 0, .register 1, .publish 0 false,
        .publish 1 true, .finish 0, .wake 1, .finish 1,
        .receive ⟨2, [7], true, []⟩] : List (ClientInput Bytes))
      Client.created
      (fun client _ => client.calls.map Call.pc = [.returned, .returned])
      rfl (by decide +kernel)
  have places := of_decide_eq_true checked
  refine ⟨client, events, run, places, fun call member => ?_⟩
  obtain ⟨index, found⟩ := List.mem_iff_getElem?.mp member
  have place : call.pc ∈ client.calls.map Call.pc :=
    List.mem_map_of_mem member
  rw [places] at place
  have returned : call.pc = .returned := by
    simpa using place
  have few : client.calls.length ≤ 2 ^ 64 := by
    have two : (client.calls.map Call.pc).length = 2 := by
      rw [places]
      rfl
    rw [List.length_map] at two
    omega
  exact
    ((pending_calls_erased bytesCodec bytesCodec ['r'] run).2.2.2.2.1 index call
      found returned).2 few

/-! ## The counter wraps around -/

/-- The client after `count` calls that have done nothing but take a number. -/
def numberedCalls (count : Nat) : Client Bytes Bytes where
  calls :=
    (List.range count).map fun index =>
      ⟨⟨[], [], (index + 1) % 2 ^ 64⟩, .numbered, false, none⟩
  pending := ∅
  nextRequestId := (count + 1) % 2 ^ 64
  worker := none

theorem numberedCalls_succ (count : Nat) :
    (numberedCalls count).call bytesCodec [] =
      (numberedCalls (count + 1), []) := by
  have next :
      ((count + 1) % 2 ^ 64 + 1) % 2 ^ 64 = (count + 1 + 1) % 2 ^ 64 := by
    omega
  simp only [Client.call, bytesCodec, numberedCalls, List.range_succ,
    List.map_append, List.map_cons, List.map_nil, next]

theorem numberedCalls_reached (count : Nat) :
    (clientMachine bytesCodec bytesCodec ['r']).Run Machine.free
      (List.replicate count (.call [])) (numberedCalls count) [] := by
  induction count with
  | zero => exact .start rfl
  | succ count inductionHypothesis =>
      have stepped :
          (clientMachine bytesCodec bytesCodec ['r']).step
              (numberedCalls count) (.call []) =
            some (numberedCalls (count + 1), []) :=
        congrArg some (numberedCalls_succ count)
      rw [List.replicate_succ']
      exact inductionHypothesis.next trivial stepped

theorem getElem?_numberedCalls
    {count index : Nat} (below : index < count) :
    (numberedCalls count).calls[index]? =
      some ⟨⟨[], [], (index + 1) % 2 ^ 64⟩, .numbered, false, none⟩ := by
  simp [numberedCalls, below]

/-- Some run has two calls with one number. -/
theorem request_id_reused :
    ∃ client events,
      (clientMachine bytesCodec bytesCodec ['r']).Run Machine.free
          (List.replicate (2 ^ 64 + 1) (.call [])) client events ∧
        ∃ (first second : Nat) (call other : Call Bytes Bytes),
          first ≠ second ∧ client.calls[first]? = some call ∧
            client.calls[second]? = some other ∧
            call.requestId = other.requestId := by
  refine
    ⟨_, _, numberedCalls_reached (2 ^ 64 + 1), 0, 2 ^ 64, _, _, ?_,
      getElem?_numberedCalls ?_, getElem?_numberedCalls ?_, ?_⟩
  · decide
  · decide
  · decide
  · rfl

end MiniMiddleware.Core
