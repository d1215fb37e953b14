import MiniMiddleware.Transport.FrameCodec
import Std.Data.TreeMap.Lemmas

/-!
# The receiving side of a TCP connection

`TcpServerTransport` keeps one receive buffer per open connection.
`handle_read` reads until the kernel has no more, decodes the buffer and calls
back once per complete frame.  What a call to `read` returns is chosen by the
kernel, so the chunks and the way the loop ended are arguments here.

`decode` leaves it to its caller to disconnect after a corrupt header, and
`handle_read` does not.  The last section says for which batches of a corrupted
stream this goes unnoticed.
-/

namespace MiniMiddleware.Transport

open FrameCodec

/-- How the loop around `read` ended. -/
inductive ReadEnd where
  | wouldBlock
  | peerClosed
  | failed
  deriving DecidableEq, Repr

/-- The results of the calls to `read` during one `handle_read`. -/
structure ReadBatch where
  chunks : List Bytes
  ended : ReadEnd
  deriving DecidableEq, Repr

/-- All bytes of a batch. -/
def ReadBatch.bytes (batch : ReadBatch) : Bytes :=
  batch.chunks.flatten

/-- The connections of a server, by file descriptor. -/
structure TcpServerTransport where
  connectionBuffers : Std.TreeMap Nat Bytes

namespace TcpServerTransport

/-- `handle_accept`: each accepted descriptor, with the outcome of its
`epoll_ctl`. -/
def handleAccept (server : TcpServerTransport) (accepted : List (Nat × Bool)) :
    TcpServerTransport :=
  accepted.foldl
    (fun server (fd, added) =>
      if added then
        ⟨server.connectionBuffers.insert fd []⟩
      else
        server)
    server

/-- `close_connection`. -/
def closeConnection (server : TcpServerTransport) (fd : Nat) :
    TcpServerTransport :=
  ⟨server.connectionBuffers.erase fd⟩

/-- `buffer.append(tmp, r)` on the buffer of a known connection. -/
def appendChunk (server : TcpServerTransport) (fd : Nat) (chunk : Bytes) :
    TcpServerTransport :=
  match server.connectionBuffers[fd]? with
  | none => server
  | some buffer => ⟨server.connectionBuffers.insert fd (buffer ++ chunk)⟩

/-- The part of `handle_read` behind its loop: the messages passed to the
callback.  A read error closes the connection without decoding. -/
def finishRead (server : TcpServerTransport) (fd : Nat) (ended : ReadEnd) :
    TcpServerTransport × List Bytes :=
  match server.connectionBuffers[fd]? with
  | none => (server, [])
  | some buffer =>
      match ended with
      | .failed => (server.closeConnection fd, [])
      | .wouldBlock =>
          (⟨server.connectionBuffers.insert fd (decode buffer).2⟩,
            (decode buffer).1)
      | .peerClosed =>
          (closeConnection
              ⟨server.connectionBuffers.insert fd (decode buffer).2⟩ fd,
            (decode buffer).1)

/-- `handle_read`.  An event on an unknown descriptor is ignored. -/
def handleRead (server : TcpServerTransport) (fd : Nat) (batch : ReadBatch) :
    TcpServerTransport × List Bytes :=
  match server.connectionBuffers[fd]? with
  | none => (server, [])
  | some _ =>
      finishRead
        (batch.chunks.foldl (fun server chunk => server.appendChunk fd chunk)
          server)
        fd batch.ended

/-- Successive calls of `handle_read` for one connection, and all messages
passed to the callback. -/
def handleReads (server : TcpServerTransport) (fd : Nat) :
    List ReadBatch → TcpServerTransport × List Bytes
  | [] => (server, [])
  | batch :: later =>
      let first := server.handleRead fd batch
      let rest := handleReads first.1 fd later
      (rest.1, first.2 ++ rest.2)

/-! ## One connection -/

theorem appendChunk_buffer
    {server : TcpServerTransport} {fd : Nat} {buffer : Bytes}
    (found : server.connectionBuffers[fd]? = some buffer) (chunk : Bytes) :
    (server.appendChunk fd chunk).connectionBuffers[fd]? =
      some (buffer ++ chunk) := by
  simp [appendChunk, found]

theorem foldl_appendChunk_buffer
    (chunks : List Bytes)
    {server : TcpServerTransport} {fd : Nat} {buffer : Bytes}
    (found : server.connectionBuffers[fd]? = some buffer) :
    (chunks.foldl (fun server chunk => server.appendChunk fd chunk)
        server).connectionBuffers[fd]? =
      some (buffer ++ chunks.flatten) := by
  induction chunks generalizing server buffer with
  | nil =>
      simpa using found
  | cons chunk chunks inductionHypothesis =>
      have appended := inductionHypothesis (appendChunk_buffer found chunk)
      simpa [List.append_assoc] using appended

/-- A batch that ends without an error is decoded together with what the
buffer held before. -/
theorem handleRead_messages
    {server : TcpServerTransport} {fd : Nat} {buffer : Bytes}
    (found : server.connectionBuffers[fd]? = some buffer)
    {batch : ReadBatch} (received : batch.ended ≠ .failed) :
    (server.handleRead fd batch).2 = (decode (buffer ++ batch.bytes)).1 := by
  have appended := foldl_appendChunk_buffer batch.chunks found
  unfold handleRead finishRead ReadBatch.bytes
  rw [found]
  dsimp only
  rw [appended]
  cases ended : batch.ended with
  | wouldBlock =>
      rfl
  | peerClosed =>
      rfl
  | failed =>
      exact absurd ended received

/-- After a batch that ends because nothing is left to read, the connection
keeps the undecoded tail. -/
theorem handleRead_buffer
    {server : TcpServerTransport} {fd : Nat} {buffer : Bytes}
    (found : server.connectionBuffers[fd]? = some buffer)
    {batch : ReadBatch} (drained : batch.ended = .wouldBlock) :
    (server.handleRead fd batch).1.connectionBuffers[fd]? =
      some (decode (buffer ++ batch.bytes)).2 := by
  have appended := foldl_appendChunk_buffer batch.chunks found
  unfold handleRead finishRead ReadBatch.bytes
  rw [found]
  dsimp only
  rw [appended, drained]
  simp

end TcpServerTransport

/-- The batches of one connection whose bytes all arrive: no read error, and
the peer closes at most at the end. -/
def Orderly (batches : List ReadBatch) : Prop :=
  (∀ batch ∈ batches, batch.ended ≠ .failed) ∧
    ∀ batch ∈ batches.dropLast, batch.ended = .wouldBlock

instance (batches : List ReadBatch) : Decidable (Orderly batches) :=
  inferInstanceAs (Decidable (_ ∧ _))

/-- The byte stream of a list of batches. -/
def streamOf (batches : List ReadBatch) : Bytes :=
  (batches.map ReadBatch.bytes).flatten

namespace FrameCodec

/-- Append each batch of bytes to a buffer and decode it: all messages, and
the buffer at the end. -/
def feed (buffer : Bytes) : List Bytes → List Bytes × Bytes
  | [] => ([], buffer)
  | batch :: later =>
      let first := decode (buffer ++ batch)
      let rest := feed first.2 later
      (first.1 ++ rest.1, rest.2)

end FrameCodec

/-- On orderly batches the server is an incremental decoder. -/
theorem TcpServerTransport.handleReads_messages
    {fd : Nat} {batches : List ReadBatch} (orderly : Orderly batches)
    {server : TcpServerTransport} {buffer : Bytes}
    (found : server.connectionBuffers[fd]? = some buffer) :
    (server.handleReads fd batches).2 =
      (feed buffer (batches.map ReadBatch.bytes)).1 := by
  induction batches generalizing server buffer with
  | nil =>
      rfl
  | cons batch later inductionHypothesis =>
      have received := orderly.1 batch List.mem_cons_self
      simp only [handleReads, List.map_cons, feed,
        handleRead_messages found received]
      cases later with
      | nil =>
          rfl
      | cons next later =>
          have drained := orderly.2 batch (by simp)
          have laterOrderly : Orderly (next :: later) :=
            ⟨fun other member =>
                orderly.1 other (List.mem_cons_of_mem _ member),
              fun other member =>
                orderly.2 other (by
                  rw [List.dropLast_cons_cons]
                  exact List.mem_cons_of_mem _ member)⟩
          rw [inductionHypothesis laterOrderly
            (handleRead_buffer found drained)]

/-! ## A corrupt header -/

/-- The batches behind the one in which the first `count` bytes are complete. -/
def batchesBehind : Nat → List Bytes → List Bytes
  | _, [] => []
  | count, batch :: later =>
      if count ≤ batch.length then
        later
      else
        batchesBehind (count - batch.length) later

/-- Batches that never complete a frame.  `pending` are the bytes since the
last time the buffer was empty; with each batch they stay an incomplete frame
or turn out to start with another oversized header. -/
inductive NeverComplete : Bytes → List Bytes → Prop
  | done (pending : Bytes) :
      NeverComplete pending []
  | waiting {pending batch : Bytes} {later : List Bytes} :
      Incomplete (pending ++ batch) →
      NeverComplete (pending ++ batch) later →
      NeverComplete pending (batch :: later)
  | corrupt {pending batch : Bytes} {later : List Bytes} :
      Oversized (pending ++ batch) →
      NeverComplete [] later →
      NeverComplete pending (batch :: later)

theorem feed_eq_nil_iff (later : List Bytes) (pending : Bytes) :
    (feed pending later).1 = [] ↔ NeverComplete pending later := by
  constructor
  · intro silent
    induction later generalizing pending with
    | nil =>
        exact NeverComplete.done pending
    | cons batch later inductionHypothesis =>
        simp only [feed, List.append_eq_nil_iff] at silent
        obtain ⟨payloads, tail, fit, split, outcome⟩ :=
          decode_cases (pending ++ batch)
        rcases outcome with ⟨incomplete, decoded⟩ | ⟨oversized, decoded⟩
        · rw [decoded] at silent
          obtain ⟨rfl, rest⟩ := silent
          rw [frames_nil, List.nil_append] at split
          rw [← split] at incomplete rest
          exact NeverComplete.waiting incomplete (inductionHypothesis _ rest)
        · rw [decoded] at silent
          obtain ⟨rfl, rest⟩ := silent
          rw [frames_nil, List.nil_append] at split
          rw [← split] at oversized
          exact NeverComplete.corrupt oversized (inductionHypothesis _ rest)
  · intro quiet
    induction quiet with
    | done pending =>
        rfl
    | waiting incomplete _ inductionHypothesis =>
        simp only [feed, decode_of_incomplete incomplete, List.nil_append]
        exact inductionHypothesis
    | corrupt oversized _ inductionHypothesis =>
        simp only [feed, decode_of_oversized oversized, List.nil_append]
        exact inductionHypothesis

/-- A corrupted stream: admissible frames, then an oversized header, then
anything. -/
theorem decode_corrupted
    {payloads : List Bytes} (fit : AllFit payloads)
    {header : Bytes} (oversized : Oversized header) (garbage : Bytes) :
    decode (frames payloads ++ (header ++ garbage)) = (payloads, []) := by
  rw [decode_frames_append fit,
    decode_of_oversized (oversized_append oversized garbage), List.append_nil]

section Corrupted

variable {header garbage : Bytes}

/-- A prefix of a corrupted stream that reaches behind the oversized header
is decoded into all frames before it and leaves an empty buffer. -/
theorem decode_reaching_header
    (size : header.length = headerSize) (oversized : Oversized header)
    {payloads : List Bytes} (fit : AllFit payloads)
    {buffer rest : Bytes}
    (stream : buffer ++ rest = frames payloads ++ (header ++ garbage))
    (reached : (frames payloads).length + headerSize ≤ buffer.length) :
    decode buffer = (payloads, []) := by
  have whole : frames payloads ++ header <+: buffer := by
    refine List.prefix_of_prefix_length_le
      ⟨garbage, ?_⟩ (List.prefix_append buffer rest) ?_
    · rw [stream, List.append_assoc]
    · rw [List.length_append, size]
      exact reached
  obtain ⟨more, rfl⟩ := whole
  rw [List.append_assoc]
  exact decode_corrupted fit oversized more

/-- A shorter prefix is decoded into some of these frames and keeps an
incomplete tail, with which the remaining stream is again corrupted. -/
theorem decode_before_header
    (oversized : Oversized header)
    {payloads : List Bytes} (fit : AllFit payloads)
    {buffer rest : Bytes}
    (stream : buffer ++ rest = frames payloads ++ (header ++ garbage))
    (short : buffer.length < (frames payloads).length + headerSize) :
    ∃ taken later tail,
      payloads = taken ++ later ∧ buffer = frames taken ++ tail ∧
        Incomplete tail ∧ decode buffer = (taken, tail) ∧
        tail ++ rest = frames later ++ (header ++ garbage) := by
  obtain ⟨taken, tail, takenFit, split, outcome⟩ := decode_cases buffer
  have decoded := decode_corrupted fit oversized garbage
  rw [← stream, split, List.append_assoc, decode_frames_append takenFit]
    at decoded
  have parts : payloads = taken ++ (decode (tail ++ rest)).1 :=
    (congrArg Prod.fst decoded).symm
  have remaining :
      tail ++ rest = frames (decode (tail ++ rest)).1 ++ (header ++ garbage) := by
    rw [split, parts, frames_append, List.append_assoc, List.append_assoc]
      at stream
    exact List.append_cancel_left stream
  rcases outcome with ⟨incomplete, found⟩ | ⟨tooLarge, found⟩
  · exact ⟨taken, _, tail, parts, split, incomplete, found, remaining⟩
  · have nothing : (decode (tail ++ rest)).1 = [] := by
      rw [decode_of_oversized (oversized_append tooLarge rest)]
    rw [nothing, List.append_nil] at parts
    have atLeast := tooLarge.1
    rw [split, parts, List.length_append] at short
    omega

/-- The batch that completes the oversized header empties the buffer; up to
there exactly the frames before the header have been decoded. -/
theorem feed_corrupted
    (size : header.length = headerSize) (oversized : Oversized header)
    (batches : List Bytes) {pending : Bytes} {payloads : List Bytes}
    (fit : AllFit payloads) (incomplete : Incomplete pending)
    (stream :
      pending ++ batches.flatten = frames payloads ++ (header ++ garbage)) :
    (feed pending batches).1 =
      payloads ++
        (feed []
          (batchesBehind ((frames payloads).length + headerSize - pending.length)
            batches)).1 := by
  -- The pending bytes end before the header does, or they would decode.
  have short : pending.length < (frames payloads).length + headerSize := by
    by_contra reached
    have decoded :=
      decode_reaching_header size oversized fit stream (by omega)
    rw [decode_of_incomplete incomplete] at decoded
    have empty : pending = [] := congrArg Prod.snd decoded
    simp [empty, headerSize] at reached
  induction batches generalizing pending payloads with
  | nil =>
      have lengths := congrArg List.length stream
      simp only [List.flatten_nil, List.append_nil, List.length_append, size]
        at lengths
      omega
  | cons batch later inductionHypothesis =>
      rw [List.flatten_cons, ← List.append_assoc] at stream
      by_cases reached :
          (frames payloads).length + headerSize ≤ (pending ++ batch).length
      · have decoded :=
          decode_reaching_header size oversized fit stream reached
        rw [List.length_append] at reached
        rw [batchesBehind, if_pos (by omega)]
        simp only [feed, decoded]
      · obtain ⟨taken, remaining, tail, rfl, split, waiting, decoded, rest⟩ :=
          decode_before_header oversized fit stream (by omega)
        have lengths := congrArg List.length split
        rw [List.length_append] at reached lengths
        rw [frames_append, List.length_append] at reached ⊢
        rw [List.length_append] at lengths
        rw [batchesBehind, if_neg (by omega)]
        simp only [feed, decoded]
        rw [inductionHypothesis (allFit_append.mp fit).2 waiting rest (by omega),
          List.append_assoc]
        congr 5
        omega

end Corrupted

/-- After admissible frames and a header above the maximum, exactly these
frames reach the callback if and only if the batches behind the one that
completes that header never complete a frame. -/
theorem handleReads_corrupted_iff
    (server : TcpServerTransport) (fd : Nat)
    (payloads : List Bytes) (header garbage : Bytes)
    (batches : List ReadBatch)
    (accepted : server.connectionBuffers[fd]? = some [])
    (fit : AllFit payloads)
    (size : header.length = headerSize)
    (oversized : Oversized header)
    (orderly : Orderly batches)
    (stream : streamOf batches = frames payloads ++ (header ++ garbage)) :
    (server.handleReads fd batches).2 = payloads ↔
      NeverComplete []
        (batchesBehind ((frames payloads).length + headerSize)
          (batches.map ReadBatch.bytes)) := by
  have decoded :=
    feed_corrupted size oversized (batches.map ReadBatch.bytes) fit
      incomplete_nil stream
  rw [TcpServerTransport.handleReads_messages orderly accepted, decoded,
    List.append_right_eq_self, feed_eq_nil_iff]
  rfl

/-- A frame and a corrupt header in one batch, half a header in the next. -/
theorem handleReads_corrupted_iff_sameBatch :
    ((TcpServerTransport.handleAccept ⟨∅⟩ [(5, true)]).handleReads 5
        [⟨[[0, 0, 0, 1, 7, 255, 255], [255, 255, 9]], .wouldBlock⟩,
          ⟨[[0, 0]], .peerClosed⟩]).2 = [[7]] :=
  (handleReads_corrupted_iff _ 5 [[7]] [255, 255, 255, 255] [9, 0, 0] _
      (by decide) (by decide) (by decide) (by decide) (by decide)
      (by decide)).mpr
    (NeverComplete.waiting (by decide) (NeverComplete.done _))

/-- The header `FF FF FF FF` arrives alone; the frame in the next batch is
delivered although the conversation should have ended. -/
theorem handleReads_resumes_after_corrupt_header :
    ¬ ∀ (server : TcpServerTransport) (fd : Nat) (payloads : List Bytes)
        (header garbage : Bytes) (batches : List ReadBatch),
        server.connectionBuffers[fd]? = some [] →
        AllFit payloads →
        header.length = headerSize →
        Oversized header →
        Orderly batches →
        streamOf batches = frames payloads ++ (header ++ garbage) →
        (server.handleReads fd batches).2 = payloads := by
  intro claimed
  have delivered :=
    claimed (TcpServerTransport.handleAccept ⟨∅⟩ [(5, true)]) 5 []
      [255, 255, 255, 255] [0, 0, 0, 1, 7]
      [⟨[[255, 255, 255, 255]], .wouldBlock⟩,
        ⟨[[0, 0, 0, 1, 7]], .wouldBlock⟩]
      (by decide) (by simp [AllFit]) (by decide) (by decide) (by decide)
      (by decide)
  revert delivered
  decide +kernel

/-! ## A read error -/

/-- What `handle_read` does after its loop, in order: a call of the callback,
or the removal of the connection. -/
inductive ReadAction where
  | callback (message : Bytes)
  | closed (fd : Nat)
  deriving DecidableEq, Repr

/-- The actions of one `handle_read`. -/
def TcpServerTransport.handleReadActions (server : TcpServerTransport)
    (fd : Nat) (batch : ReadBatch) : List ReadAction :=
  match server.connectionBuffers[fd]? with
  | none => []
  | some buffer =>
      let msgs := (decode (buffer ++ batch.bytes)).1
      match batch.ended with
      | .failed => [.closed fd]
      | .wouldBlock => msgs.map .callback
      | .peerClosed => msgs.map .callback ++ [.closed fd]

/-- The messages among the actions. -/
def calledBack (actions : List ReadAction) : List Bytes :=
  actions.filterMap fun
    | .callback message => some message
    | .closed _ => none

theorem TcpServerTransport.handleRead_calledBack
    (server : TcpServerTransport) (fd : Nat) (batch : ReadBatch) :
    (server.handleRead fd batch).2 =
      calledBack (server.handleReadActions fd batch) := by
  have listed (msgs : List Bytes) : calledBack (msgs.map .callback) = msgs := by
    simp [calledBack, List.filterMap_map]
  cases found : server.connectionBuffers[fd]? with
  | none =>
      simp [handleRead, handleReadActions, found, calledBack]
  | some buffer =>
      have appended := foldl_appendChunk_buffer batch.chunks found
      simp only [handleRead, handleReadActions, finishRead, found, appended]
      cases batch.ended with
      | wouldBlock => exact (listed _).symm
      | failed => rfl
      | peerClosed =>
          have messages := listed (decode (buffer ++ batch.bytes)).1
          simp only [calledBack, List.filterMap_append] at messages ⊢
          rw [messages]
          exact (List.append_nil _).symm

/-- The complete frames that have been received are passed to the callback
before anything else happens to the connection. -/
def CompleteFramesDelivered (buffer : Bytes) (batch : ReadBatch)
    (actions : List ReadAction) : Prop :=
  ∀ payloads tail, AllFit payloads →
    buffer ++ batch.bytes = frames payloads ++ tail →
    payloads.map .callback <+: actions

/-- A batch that ends without an error delivers all complete frames; after an
error they are lost, so that nothing is missing only if there were none. -/
theorem handleRead_delivers_complete_iff
    (server : TcpServerTransport) (fd : Nat) (buffer : Bytes)
    (batch : ReadBatch)
    (found : server.connectionBuffers[fd]? = some buffer) :
    CompleteFramesDelivered buffer batch (server.handleReadActions fd batch) ↔
      batch.ended ≠ .failed ∨ Incomplete (buffer ++ batch.bytes) ∨
        Oversized (buffer ++ batch.bytes) := by
  constructor
  · intro delivered
    by_contra lost
    simp only [not_or, not_not] at lost
    obtain ⟨failed, complete, admissible⟩ := lost
    simp only [Incomplete, not_or, not_and, not_lt] at complete
    simp only [Oversized, not_and, not_lt] at admissible
    have fits := admissible complete.1
    obtain ⟨payload, more, small, split⟩ :=
      eq_encode_append complete.1 fits (complete.2 fits)
    have called :=
      delivered [payload] more (by simpa [AllFit] using small)
        (by simpa [frames] using split)
    simp only [TcpServerTransport.handleReadActions, found, failed] at called
    simp at called
  · intro condition payloads tail fit split
    have decoded := decode_frames_append fit tail
    rw [← split] at decoded
    have front :
        payloads.map ReadAction.callback <+:
          (decode (buffer ++ batch.bytes)).1.map .callback := by
      rw [decoded, List.map_append]
      exact List.prefix_append _ _
    simp only [TcpServerTransport.handleReadActions, found]
    cases ended : batch.ended with
    | wouldBlock =>
        exact front
    | peerClosed =>
        exact front.trans (List.prefix_append _ _)
    | failed =>
        have silent : (decode (buffer ++ batch.bytes)).1 = [] := by
          rcases condition.resolve_left (by simp [ended]) with
            incomplete | oversized
          · rw [decode_of_incomplete incomplete]
          · rw [decode_of_oversized oversized]
        rw [silent, List.map_nil, List.prefix_nil] at front
        rw [front]
        exact List.nil_prefix

theorem handleRead_delivers_complete_iff_closed :
    (TcpServerTransport.handleAccept ⟨∅⟩ [(5, true)]).connectionBuffers[5]? =
        some [] ∧
      CompleteFramesDelivered [] ⟨[[0, 0, 0, 1], [7]], .peerClosed⟩
        ((TcpServerTransport.handleAccept ⟨∅⟩ [(5, true)]).handleReadActions 5
          ⟨[[0, 0, 0, 1], [7]], .peerClosed⟩) :=
  ⟨by decide,
    (handleRead_delivers_complete_iff _ 5 [] _ (by decide)).mpr
      (Or.inl (by decide))⟩

/-- A whole frame arrives and the next `read` fails: the connection is removed
and the frame is not passed on. -/
theorem handleRead_error_loses_frame :
    (TcpServerTransport.handleAccept ⟨∅⟩ [(5, true)]).handleReadActions 5
          ⟨[[0, 0, 0, 1, 7]], .failed⟩ = [.closed 5] ∧
      ¬ CompleteFramesDelivered [] ⟨[[0, 0, 0, 1, 7]], .failed⟩
        ((TcpServerTransport.handleAccept ⟨∅⟩ [(5, true)]).handleReadActions 5
          ⟨[[0, 0, 0, 1, 7]], .failed⟩) := by
  have actions :
      (TcpServerTransport.handleAccept ⟨∅⟩ [(5, true)]).handleReadActions 5
        ⟨[[0, 0, 0, 1, 7]], .failed⟩ = [.closed 5] := by
    decide +kernel
  refine ⟨actions, fun delivered => ?_⟩
  have called := delivered [[7]] [] (by decide) (by decide)
  rw [actions] at called
  simp at called

end MiniMiddleware.Transport
