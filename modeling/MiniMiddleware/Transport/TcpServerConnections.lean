import MiniMiddleware.Library.Lists
import MiniMiddleware.Library.Machine
import MiniMiddleware.Transport.FrameStreams

/-!
# The connections of a server

The receive buffers are kept by file descriptor, and the kernel gives the
number of a closed descriptor to the next connection.  The machine of this
module is the server together with the kernel's table of open descriptors and,
for each connection ever accepted, what was read on it and delivered for it.
Its inputs are the calls of `handle_accept` and `handle_read`, in any order.
-/

namespace MiniMiddleware.Transport

open MiniMiddleware.Library
open FrameCodec

/-- A connection that was accepted and registered: all bytes read on it, the
messages its reads passed to the callback, and how it was closed. -/
structure ConnectionLog where
  fd : Nat
  received : Bytes
  delivered : List Bytes
  ended : Option ReadEnd
  deriving DecidableEq, Repr

/-- The server, the open descriptors with the connections that own them, and
all connections in the order of their acceptance. -/
structure ServerWorld where
  server : TcpServerTransport
  descriptors : Std.TreeMap Nat Nat
  connections : List ConnectionLog

/-- The calls of the event loop.  `accept` lists the descriptors that `accept`
returned, with the outcome of their `epoll_ctl`; `readable` says what `read`
returns on a descriptor that is open. -/
inductive ServerInput where
  | accept (accepted : List (Nat × Bool))
  | readable (fd : Nat) (batch : ReadBatch)
  deriving DecidableEq, Repr

/-- What a call of `handle_read` leaves in the log of its connection. -/
def ConnectionLog.read (log : ConnectionLog) (batch : ReadBatch)
    (messages : List Bytes) : ConnectionLog where
  fd := log.fd
  received := log.received ++ batch.bytes
  delivered := log.delivered ++ messages
  ended := if batch.ended = .wouldBlock then none else some batch.ended

namespace ServerWorld

/-- One round of the loop of `handle_accept`.  The kernel returns a descriptor
that is not open; if it cannot be registered, it is closed at once. -/
def acceptOne (world : ServerWorld) (fd : Nat) (added : Bool) :
    Option ServerWorld :=
  if fd ∈ world.descriptors then
    none
  else if added then
    some
      { server := world.server.handleAccept [(fd, added)]
        descriptors := world.descriptors.insert fd world.connections.length
        connections := world.connections ++ [⟨fd, [], [], none⟩] }
  else
    some { world with server := world.server.handleAccept [(fd, added)] }

/-- `handle_accept`. -/
def accept (world : ServerWorld) : List (Nat × Bool) → Option ServerWorld
  | [] => some world
  | (fd, added) :: later =>
      match world.acceptOne fd added with
      | none => none
      | some next => next.accept later

/-- `handle_read`: the messages passed to the callback.  Nothing is read on a
descriptor that the server does not know, and reading fails on one that is not
open. -/
def readable (world : ServerWorld) (fd : Nat) (batch : ReadBatch) :
    ServerWorld × List Bytes :=
  if fd ∈ world.server.connectionBuffers then
    match world.descriptors[fd]? with
    | none =>
        let outcome := world.server.handleRead fd ⟨[], .failed⟩
        ({ world with server := outcome.1 }, outcome.2)
    | some connection =>
        let outcome := world.server.handleRead fd batch
        ({ server := outcome.1
           descriptors :=
             if batch.ended = .wouldBlock then world.descriptors
             else world.descriptors.erase fd
           connections :=
             world.connections.modify connection fun log =>
               log.read batch outcome.2 },
          outcome.2)
  else
    (world, [])

/-- One call of the event loop. -/
def step (world : ServerWorld) :
    ServerInput → Option (ServerWorld × List Bytes)
  | .accept accepted => (world.accept accepted).map fun next => (next, [])
  | .readable fd batch => some (world.readable fd batch)

/-- A server that has just been started. -/
def started : ServerWorld where
  server := ⟨∅⟩
  descriptors := ∅
  connections := []

theorem accept_server
    {accepted : List (Nat × Bool)} {world target : ServerWorld}
    (stepped : world.accept accepted = some target) :
    target.server = world.server.handleAccept accepted := by
  induction accepted generalizing world with
  | nil =>
      cases stepped
      rfl
  | cons first later inductionHypothesis =>
      obtain ⟨fd, added⟩ := first
      simp only [accept] at stepped
      split at stepped
      · cases stepped
      · rename_i next one
        rw [inductionHypothesis stepped]
        unfold acceptOne at one
        split_ifs at one with busy registered
        · cases one
          rfl
        · cases one
          rfl

end ServerWorld

/-- The server and the kernel as a machine; the events are the calls of the
callback. -/
def serverMachine : Machine ServerWorld ServerInput Bytes where
  initial := fun world => world = .started
  step := ServerWorld.step

/-! ## One call of `handle_read` -/

theorem TcpServerTransport.foldl_appendChunk_other
    (chunks : List Bytes) (server : TcpServerTransport)
    {fd other : Nat} (different : fd ≠ other) :
    (chunks.foldl (fun server chunk => server.appendChunk fd chunk)
        server).connectionBuffers[other]? =
      server.connectionBuffers[other]? := by
  induction chunks generalizing server with
  | nil =>
      rfl
  | cons chunk chunks inductionHypothesis =>
      rw [List.foldl_cons, inductionHypothesis]
      unfold appendChunk
      split
      · rfl
      · simp [Std.TreeMap.getElem?_insert, different]

/-- The buffers after `handle_read` on a known descriptor. -/
theorem TcpServerTransport.handleRead_buffers
    {server : TcpServerTransport} {fd : Nat} {buffer : Bytes}
    (found : server.connectionBuffers[fd]? = some buffer)
    (batch : ReadBatch) (other : Nat) :
    (server.handleRead fd batch).1.connectionBuffers[other]? =
      if fd = other then
        if batch.ended = .wouldBlock then
          some (decode (buffer ++ batch.bytes)).2
        else
          none
      else
        server.connectionBuffers[other]? := by
  have appended := foldl_appendChunk_buffer batch.chunks found
  have untouched :=
    fun different : fd ≠ other =>
      foldl_appendChunk_other batch.chunks server different
  unfold handleRead finishRead ReadBatch.bytes
  rw [found]
  dsimp only
  rw [appended]
  split_ifs with same blocked
  · subst same
    simp [blocked]
  · subst same
    cases ended : batch.ended with
    | wouldBlock =>
        exact absurd ended blocked
    | peerClosed =>
        simp [closeConnection]
    | failed =>
        simp [closeConnection]
  · cases batch.ended with
    | wouldBlock =>
        simpa [Std.TreeMap.getElem?_insert, same] using untouched same
    | peerClosed =>
        simpa [closeConnection, Std.TreeMap.getElem?_insert,
          Std.TreeMap.getElem?_erase, same] using untouched same
    | failed =>
        simpa [closeConnection, Std.TreeMap.getElem?_erase, same] using
          untouched same

theorem FrameCodec.decode_suffix (buffer : Bytes) :
    (decode buffer).2 <:+ buffer := by
  obtain ⟨payloads, tail, _, split, outcome⟩ := decode_cases buffer
  rcases outcome with ⟨_, decoded⟩ | ⟨_, decoded⟩
  · rw [decoded]
    exact ⟨frames payloads, split.symm⟩
  · rw [decoded]
    exact List.nil_suffix

/-! ## Isolation -/

/-- Bytes of a stream of admissible frames. -/
def WellFramed (bytes : Bytes) : Prop :=
  ∃ stream, AllFit stream ∧ bytes <+: frames stream

theorem WellFramed.keepsTail {bytes : Bytes} (framed : WellFramed bytes) :
    KeepsTail bytes := by
  obtain ⟨stream, fit, rest, split⟩ := framed
  exact keepsTail_of_frames fit split

theorem WellFramed.of_append
    {bytes more : Bytes} (framed : WellFramed (bytes ++ more)) :
    WellFramed bytes := by
  obtain ⟨stream, fit, longer⟩ := framed
  exact ⟨stream, fit, (List.prefix_append bytes more).trans longer⟩

/-- The buffer of an open connection. -/
structure Buffered (log : ConnectionLog) (buffer : Bytes) : Prop where
  opened : log.ended = none
  own : buffer <:+ log.received
  tail : WellFramed log.received → buffer = (decode log.received).2

/-- The messages of a connection. -/
def Delivered (log : ConnectionLog) : Prop :=
  log.ended ≠ some .failed → WellFramed log.received →
    log.delivered = (decode log.received).1

/-- The invariant: buffers, open descriptors and open connections correspond,
and each buffer and each delivery belongs to its connection. -/
structure ServerWorld.Isolated (world : ServerWorld) : Prop where
  entries :
    ∀ fd : Nat, fd ∈ world.server.connectionBuffers → fd ∈ world.descriptors
  owners :
    ∀ (fd connection : Nat), world.descriptors[fd]? = some connection →
      ∃ log buffer,
        world.connections[connection]? = some log ∧ log.fd = fd ∧
          world.server.connectionBuffers[fd]? = some buffer ∧
          Buffered log buffer
  opened :
    ∀ (connection : Nat) log, world.connections[connection]? = some log →
      log.ended = none → world.descriptors[log.fd]? = some connection
  delivered :
    ∀ (connection : Nat) log, world.connections[connection]? = some log →
      Delivered log

theorem Buffered.read
    {log : ConnectionLog} {buffer : Bytes} {batch : ReadBatch}
    (buffered : Buffered log buffer) (blocked : batch.ended = .wouldBlock)
    (messages : List Bytes) :
    Buffered (log.read batch messages)
      (decode (buffer ++ batch.bytes)).2 := by
  refine ⟨by simp [ConnectionLog.read, blocked], ?_, fun framed => ?_⟩
  · obtain ⟨earlier, split⟩ := buffered.own
    refine (decode_suffix _).trans ⟨earlier, ?_⟩
    rw [← List.append_assoc, split]
    rfl
  · have before := framed.of_append
    rw [buffered.tail before]
    exact
      (congrArg Prod.snd
        (decode_append_of_keepsTail before.keepsTail batch.bytes)).symm

theorem Delivered.read
    {log : ConnectionLog} {buffer : Bytes} {batch : ReadBatch}
    (delivered : Delivered log) (buffered : Buffered log buffer)
    {messages : List Bytes}
    (decoded :
      batch.ended ≠ .failed → messages = (decode (buffer ++ batch.bytes)).1) :
    Delivered (log.read batch messages) := by
  intro intact framed
  have received : batch.ended ≠ .failed := by
    intro failed
    simp [ConnectionLog.read, failed] at intact
  have before := framed.of_append
  have earlier := delivered (by simp [buffered.opened]) before
  have resumed := decode_append_of_keepsTail before.keepsTail batch.bytes
  simp only [ConnectionLog.read]
  rw [resumed, earlier, decoded received, buffered.tail before]

namespace ServerWorld

variable {world target : ServerWorld} {fd : Nat}

theorem isolated_started : started.Isolated where
  entries _ member := by simp [started] at member
  owners _ _ owned := by simp [started] at owned
  opened _ _ found := by simp [started] at found
  delivered _ _ found := by simp [started] at found

theorem Isolated.acceptOne
    (isolated : world.Isolated) {added : Bool}
    (stepped : world.acceptOne fd added = some target) : target.Isolated := by
  unfold ServerWorld.acceptOne at stepped
  split_ifs at stepped with busy registered
  · cases stepped
    have absent : world.descriptors[fd]? = none :=
      Std.TreeMap.getElem?_eq_none busy
    have empty : decode [] = ([], []) := decode_of_incomplete incomplete_nil
    have server :
        world.server.handleAccept [(fd, added)] =
          ⟨world.server.connectionBuffers.insert fd []⟩ := by
      simp [TcpServerTransport.handleAccept, registered]
    rw [server]
    refine ⟨?_, ?_, ?_, ?_⟩
    · intro other member
      rcases Std.TreeMap.mem_insert.mp member with same | member
      · exact Std.TreeMap.mem_insert.mpr (Or.inl same)
      · exact Std.TreeMap.mem_insert.mpr
          (Or.inr (isolated.entries other member))
    · intro other connection owned
      simp only [Std.TreeMap.getElem?_insert, Std.compare_eq_iff_eq] at owned ⊢
      split_ifs at owned ⊢ with same
      · cases owned
        refine ⟨⟨fd, [], [], none⟩, [], by simp, same, rfl, rfl,
          List.nil_suffix, fun _ => ?_⟩
        rw [empty]
      · obtain ⟨log, buffer, found, named, held, buffered⟩ :=
          isolated.owners other connection owned
        exact ⟨log, buffer,
          getElem?_of_prefix (List.prefix_append _ _) found, named, held,
          buffered⟩
    · intro connection log found opened
      simp only [Std.TreeMap.getElem?_insert, Std.compare_eq_iff_eq]
      rcases getElem?_concat_eq_some.mp found with found | ⟨rfl, rfl⟩
      · have owned := isolated.opened connection log found opened
        have different : fd ≠ log.fd := by
          rintro rfl
          rw [absent] at owned
          cases owned
        rw [if_neg different]
        exact owned
      · rw [if_pos rfl]
    · intro connection log found
      rcases getElem?_concat_eq_some.mp found with found | ⟨rfl, rfl⟩
      · exact isolated.delivered connection log found
      · intro _ _
        rw [empty]
  · cases stepped
    have server : world.server.handleAccept [(fd, added)] = world.server := by
      simp [TcpServerTransport.handleAccept, registered]
    rw [server]
    exact isolated

theorem Isolated.accept
    {accepted : List (Nat × Bool)} (isolated : world.Isolated)
    (stepped : world.accept accepted = some target) : target.Isolated := by
  induction accepted generalizing world with
  | nil =>
      cases stepped
      exact isolated
  | cons first later inductionHypothesis =>
      obtain ⟨fd, added⟩ := first
      simp only [ServerWorld.accept] at stepped
      split at stepped
      · cases stepped
      · rename_i next one
        exact inductionHypothesis (isolated.acceptOne one) stepped

theorem Isolated.connection_ne
    (isolated : world.Isolated) {other connection another : Nat}
    (owned : world.descriptors[fd]? = some connection)
    (otherOwned : world.descriptors[other]? = some another)
    (different : fd ≠ other) : connection ≠ another := by
  rintro rfl
  obtain ⟨log, _, found, named, _⟩ := isolated.owners fd connection owned
  obtain ⟨same, _, otherFound, otherNamed, _⟩ :=
    isolated.owners other connection otherOwned
  cases found.symm.trans otherFound
  exact different (named.symm.trans otherNamed)

theorem getElem?_descriptors_read
    (world : ServerWorld) (fd other : Nat) (batch : ReadBatch) :
    (if batch.ended = .wouldBlock then world.descriptors
      else world.descriptors.erase fd)[other]? =
      if fd = other ∧ batch.ended ≠ .wouldBlock then none
      else world.descriptors[other]? := by
  by_cases blocked : batch.ended = .wouldBlock
  · simp [blocked]
  · simp [blocked, Std.TreeMap.getElem?_erase]

/-- A read changes the buffer and the log of one connection. -/
theorem Isolated.readOpen
    (isolated : world.Isolated) {connection : Nat}
    (owned : world.descriptors[fd]? = some connection) (batch : ReadBatch) :
    Isolated
      { server := (world.server.handleRead fd batch).1
        descriptors :=
          if batch.ended = .wouldBlock then world.descriptors
          else world.descriptors.erase fd
        connections :=
          world.connections.modify connection fun log =>
            log.read batch (world.server.handleRead fd batch).2 } := by
  obtain ⟨log, buffer, found, named, held, buffered⟩ :=
    isolated.owners fd connection owned
  have buffers := world.server.handleRead_buffers held batch
  have descriptors := world.getElem?_descriptors_read fd
  refine ⟨?_, ?_, ?_, ?_⟩
  · intro other member
    rw [Std.TreeMap.mem_iff_isSome_getElem?] at member ⊢
    dsimp only at member ⊢
    rw [buffers] at member
    rw [descriptors]
    by_cases same : fd = other
    · subst same
      by_cases blocked : batch.ended = .wouldBlock
      · simp [blocked, owned]
      · simp [blocked] at member
    · rw [if_neg same] at member
      rw [if_neg (fun both => same both.1)]
      exact Std.TreeMap.mem_iff_isSome_getElem?.mp
        (isolated.entries other
          (Std.TreeMap.mem_iff_isSome_getElem?.mpr member))
  · intro other another otherOwned
    dsimp only at otherOwned ⊢
    rw [descriptors] at otherOwned
    rw [buffers]
    by_cases same : fd = other
    · subst same
      by_cases blocked : batch.ended = .wouldBlock
      · simp only [blocked, ne_eq, not_true_eq_false, and_false, if_false]
          at otherOwned
        cases owned.symm.trans otherOwned
        refine ⟨_, _,
          getElem?_modify_eq_some.mpr ⟨log, found, (if_pos rfl).symm⟩, named,
          ?_, buffered.read blocked _⟩
        rw [if_pos rfl, if_pos blocked]
      · rw [if_pos ⟨rfl, blocked⟩] at otherOwned
        cases otherOwned
    · rw [if_neg (fun both => same both.1)] at otherOwned
      have different := isolated.connection_ne owned otherOwned same
      obtain ⟨otherLog, otherBuffer, otherFound, otherNamed, otherHeld, rest⟩ :=
        isolated.owners other another otherOwned
      refine ⟨otherLog, otherBuffer,
        getElem?_modify_eq_some.mpr
          ⟨otherLog, otherFound, (if_neg different).symm⟩,
        otherNamed, ?_, rest⟩
      rw [if_neg same]
      exact otherHeld
  · intro another otherLog otherFound opened
    dsimp only at otherFound ⊢
    obtain ⟨before, beforeFound, rfl⟩ := getElem?_modify_eq_some.mp otherFound
    rw [descriptors]
    by_cases same : connection = another
    · subst same
      cases found.symm.trans beforeFound
      rw [if_pos rfl] at opened ⊢
      have blocked : batch.ended = .wouldBlock := by
        by_contra closes
        simp [ConnectionLog.read, closes] at opened
      rw [if_neg (fun both => both.2 blocked)]
      simpa [ConnectionLog.read, named] using owned
    · rw [if_neg same] at opened ⊢
      have otherOwned := isolated.opened another before beforeFound opened
      have different : fd ≠ before.fd := by
        intro equal
        rw [← equal, owned] at otherOwned
        exact same (Option.some.inj otherOwned)
      rw [if_neg (fun both => different both.1)]
      exact otherOwned
  · intro another otherLog otherFound
    dsimp only at otherFound
    obtain ⟨before, beforeFound, rfl⟩ := getElem?_modify_eq_some.mp otherFound
    have delivered := isolated.delivered another before beforeFound
    by_cases same : connection = another
    · subst same
      cases found.symm.trans beforeFound
      rw [if_pos rfl]
      exact delivered.read buffered fun received =>
        world.server.handleRead_messages held received
    · rw [if_neg same]
      exact delivered

theorem Isolated.readable
    (isolated : world.Isolated) (fd : Nat) (batch : ReadBatch) :
    (world.readable fd batch).1.Isolated := by
  by_cases known : fd ∈ world.server.connectionBuffers
  · obtain ⟨connection, owned⟩ :=
      Option.isSome_iff_exists.mp
        (Std.TreeMap.mem_iff_isSome_getElem?.mp (isolated.entries fd known))
    simp only [ServerWorld.readable, if_pos known, owned]
    exact isolated.readOpen owned batch
  · simp only [ServerWorld.readable, if_neg known]
    exact isolated

theorem Isolated.step
    (isolated : world.Isolated) {input : ServerInput} {emitted : List Bytes}
    (stepped : world.step input = some (target, emitted)) :
    target.Isolated := by
  cases input with
  | accept accepted =>
      obtain ⟨next, moved, equal⟩ := Option.map_eq_some_iff.mp stepped
      cases equal
      exact isolated.accept moved
  | readable fd batch =>
      have kept := isolated.readable fd batch
      rw [Option.some.inj stepped] at kept
      exact kept

end ServerWorld

/-- In every run of accepts and reads, whatever descriptors the kernel reuses:
buffers, open descriptors and open connections correspond one to one; a buffer
is a suffix of what was read on the connection that owns its descriptor; and a
connection that carries frames and was not ended by a read error has been
delivered exactly the complete frames of its own bytes. -/
theorem connections_isolated
    {inputs : List ServerInput} {world : ServerWorld} {called : List Bytes}
    (run : serverMachine.Run Machine.free inputs world called) :
    (∀ fd : Nat,
        fd ∈ world.server.connectionBuffers ↔
          ∃ (connection : Nat) (log : ConnectionLog),
            world.connections[connection]? = some log ∧ log.fd = fd ∧
              log.ended = none) ∧
      (∀ (connection another : Nat) (log other : ConnectionLog),
        world.connections[connection]? = some log →
        world.connections[another]? = some other →
        log.ended = none → other.ended = none → log.fd = other.fd →
        connection = another) ∧
      (∀ (connection : Nat) (log : ConnectionLog),
        world.connections[connection]? = some log →
        log.ended = none →
        ∃ buffer,
          world.server.connectionBuffers[log.fd]? = some buffer ∧
            buffer <:+ log.received ∧
            (WellFramed log.received →
              log.received = frames log.delivered ++ buffer ∧
                Incomplete buffer)) ∧
      ∀ (connection : Nat) (log : ConnectionLog),
        world.connections[connection]? = some log →
        log.ended ≠ some .failed →
        WellFramed log.received →
        log.delivered = (decode log.received).1 ∧
          ∃ rest, log.received = frames log.delivered ++ rest ∧
            Incomplete rest := by
  have isolated : world.Isolated := by
    refine run.invariant (fun world _ => world.Isolated) ?_ ?_
    · rintro world rfl
      exact ServerWorld.isolated_started
    · intro _ _ _ _ _ isolated _ stepped
      exact isolated.step stepped
  have buffered :
      ∀ (connection : Nat) (log : ConnectionLog),
        world.connections[connection]? = some log → log.ended = none →
        ∃ buffer,
          world.server.connectionBuffers[log.fd]? = some buffer ∧
            Buffered log buffer := by
    intro connection log found opened
    obtain ⟨same, buffer, sameFound, _, held, buffered⟩ :=
      isolated.owners _ _ (isolated.opened connection log found opened)
    cases found.symm.trans sameFound
    exact ⟨buffer, held, buffered⟩
  refine ⟨fun fd => ⟨fun member => ?_, ?_⟩, ?_, ?_, ?_⟩
  · obtain ⟨connection, owned⟩ :=
      Option.isSome_iff_exists.mp
        (Std.TreeMap.mem_iff_isSome_getElem?.mp (isolated.entries fd member))
    obtain ⟨log, _, found, named, _, buffered⟩ :=
      isolated.owners fd connection owned
    exact ⟨connection, log, found, named, buffered.opened⟩
  · rintro ⟨connection, log, found, rfl, opened⟩
    obtain ⟨buffer, held, _⟩ := buffered connection log found opened
    exact Std.TreeMap.mem_iff_isSome_getElem?.mpr (by rw [held]; rfl)
  · intro connection another log other found otherFound opened otherOpened same
    have owned := isolated.opened connection log found opened
    have otherOwned := isolated.opened another other otherFound otherOpened
    rw [same, otherOwned] at owned
    exact (Option.some.inj owned).symm
  · intro connection log found opened
    obtain ⟨buffer, held, holds⟩ := buffered connection log found opened
    refine ⟨buffer, held, holds.own, fun framed => ?_⟩
    rw [isolated.delivered connection log found (by simp [opened]) framed,
      holds.tail framed]
    exact framed.keepsTail
  · intro connection log found intact framed
    have delivered := isolated.delivered connection log found intact framed
    refine ⟨delivered, (decode log.received).2, ?_⟩
    rw [delivered]
    exact framed.keepsTail

/-- A connection is closed inside a header, and the next one on the same
descriptor sends a complete frame. -/
theorem connections_isolated_reused :
    ∃ world called,
      serverMachine.Run Machine.free
          [.accept [(7, true)], .readable 7 ⟨[[0, 0]], .peerClosed⟩,
            .accept [(7, true)],
            .readable 7 ⟨[[0, 0, 0, 1, 9]], .wouldBlock⟩] world called ∧
        ∃ log, world.connections[1]? = some log ∧ log.fd = 7 ∧
          log.delivered = (decode log.received).1 := by
  obtain ⟨world, called, run, checked⟩ :=
    Machine.run_of_exec_check serverMachine Machine.free
      [.accept [(7, true)], .readable 7 ⟨[[0, 0]], .peerClosed⟩,
        .accept [(7, true)],
        .readable 7 ⟨[[0, 0, 0, 1, 9]], .wouldBlock⟩]
      .started
      (fun world _ =>
        (world.connections[1]?).any fun log =>
          log.fd = 7 ∧ log.ended = none ∧ log.received = [0, 0, 0, 1, 9])
      rfl (by decide +kernel)
  obtain ⟨log, found, seen⟩ := (Option.any_eq_true _ _).mp checked
  obtain ⟨named, opened, received⟩ := of_decide_eq_true seen
  have framed : WellFramed log.received := by
    rw [received]
    exact ⟨[[9]], by decide, by decide⟩
  have isolated := (connections_isolated run).2.2.2 1 log found
    (by simp [opened]) framed
  exact ⟨world, called, run, log, found, named, isolated.1⟩

end MiniMiddleware.Transport
