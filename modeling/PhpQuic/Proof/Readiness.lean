/-
**Readiness under `stream_select`: one socket for many streams.**

The datagrams waiting in the UDP socket of a connection and the engine's buffer of each stream are
kept by `sharing`: a read or `handleEvents()` drains the whole socket into the buffers. A read that
finds bytes in the buffer of its stream hands out those, and drains the socket behind them. The cast
of every stream resource gives out the descriptor of that one socket.

* `Readiness.Ready`: `stream_select` does not block on a resource whose stream has unread bytes.
* `readLoop_handsOut`, `read_handsOut`: what a `read()` leaves for every stream.
* `ReadyStep.ready_iff`: a step keeps readiness exactly if it is `ReadyEvent.Safe`.
* `readiness_iff`: so does a run of such steps.
-/

import Mathlib.Logic.Function.Basic
import PhpQuic.Openssl.Environment
import PhpQuic.Interact.Transition
import PhpQuic.Proof.Calls
import PhpQuic.Proof.Reading

namespace PhpQuic

open Interact

/-! ### The socket and the engine -/

/-- What one datagram carries: bytes for any streams of the connection. -/
abbrev Datagram := List (Ssl × Bytes)

def Datagram.bytesFor (datagram : Datagram) (ssl : Ssl) : Bytes :=
  (datagram.filter fun frame => frame.1 = ssl).flatMap Prod.snd

/-- The socket's queue, the engine's buffer of each stream, and the blocking mode. -/
structure Sharing where
  socket : List Datagram
  engine : Ssl → Bytes
  blocking : Bool

namespace Sharing

/-- Everything that has come for a stream and was not handed out. -/
def pending (s : Sharing) (ssl : Ssl) : Bytes :=
  s.engine ssl ++ s.socket.flatMap fun datagram => datagram.bytesFor ssl

/-- The engine takes in every waiting datagram. -/
def drain (s : Sharing) : Sharing := { s with socket := [], engine := s.pending }

/-- The engine hands out the first `count` bytes of a stream. -/
def remove (s : Sharing) (ssl : Ssl) (count : Nat) : Sharing :=
  { s with engine := Function.update s.engine ssl ((s.engine ssl).drop count) }

/-- What `SSL_read_ex` has to hand out: the stream's buffer; where that is empty, what the socket
brings. -/
def serve (s : Sharing) (ssl : Ssl) : Bytes :=
  if s.engine ssl = [] then s.pending ssl else s.engine ssl

@[simp] theorem drain_socket (s : Sharing) : s.drain.socket = [] := rfl

@[simp] theorem drain_engine (s : Sharing) : s.drain.engine = s.pending := rfl

theorem pending_of_drained {s : Sharing} (drained : s.socket = []) (ssl : Ssl) :
    s.pending ssl = s.engine ssl := by
  rw [pending, drained, List.flatMap_nil, List.append_nil]

theorem serve_of_drained {s : Sharing} (drained : s.socket = []) (ssl : Ssl) :
    s.serve ssl = s.pending ssl := by
  rw [serve, pending_of_drained drained, ite_self]

/-- What is handed out stands in front of all that has come. -/
theorem serve_prefix (s : Sharing) (ssl : Ssl) : s.serve ssl <+: s.pending ssl := by
  unfold serve
  split
  · exact List.prefix_refl _
  · exact List.prefix_append _ _

theorem serve_eq_nil_iff (s : Sharing) (ssl : Ssl) : s.serve ssl = [] ↔ s.pending ssl = [] := by
  unfold serve
  split
  · rfl
  · rename_i held
    refine ⟨fun empty => absurd empty held, fun nothing => absurd ?_ held⟩
    exact (List.append_eq_nil_iff.mp nothing).1

end Sharing

/-- A connection with its streams: the object is live and holds the descriptor of the socket. -/
structure SharedSocket where
  conn : PhpQuicConnection
  ssl : Ssl
  live : conn.ssl = some ssl
  fd : Fd
  own : conn.fd = some fd
  object : ObjectId

/-- The object of one of its streams. -/
def SharedSocket.stream (link : SharedSocket) (ssl : Ssl) : PhpQuicStream :=
  ⟨some ssl, some link.object⟩

/-- What a call may do. `SSL_read_ex` hands out all that fits of what it has to hand out; whether
that was in the stream's buffer or came with it, the socket is drained. -/
def sharing (link : SharedSocket) (s : Sharing) :
    (call : Call) → Answer call → Sharing → Prop
  | .sslReadEx ssl space, none, s' => (s.serve ssl).take space = [] ∧ s' = s.drain
  | .sslReadEx ssl space, some got, s' =>
    got.1 = (s.serve ssl).take space ∧ s' = s.drain.remove ssl got.1.length
  | .sslHandleEvents _, _, s' => s' = s.drain
  | .sslGetBlockingMode _, mode, s' => (mode ≠ 0 ↔ s.blocking = true) ∧ s' = s
  | .sslSetBlockingMode _ blocking, rc, s' =>
    s' = { s with blocking := if rc = 0 then s.blocking else blocking }
  | .loadObject object, answer, s' =>
    (object = link.object → answer = .connection link.conn) ∧ s' = s
  | _, _, s' => s' = s

/-! ### What the reads leave -/

/-- **A read of up to `room` bytes of one stream**: the socket is drained, and nothing of another
stream is touched. -/
structure Sharing.HandsOut (ssl : Ssl) (room : Nat) (s s' : Sharing) : Prop where
  socket : s'.socket = []
  others : ∀ other, other ≠ ssl → s'.engine other = s.pending other
  rest : s'.engine ssl = (s.pending ssl).drop room

/-- A read that got nothing. -/
theorem Sharing.handsOut_drain (s : Sharing) (ssl : Ssl) : HandsOut ssl 0 s s.drain :=
  ⟨rfl, fun _ _ => rfl, rfl⟩

/-- A read that got something. -/
theorem Sharing.handsOut_remove (s : Sharing) (ssl : Ssl) (count : Nat) :
    HandsOut ssl count s (s.drain.remove ssl count) := by
  refine ⟨rfl, fun other different => ?_, ?_⟩
  · show Function.update s.pending ssl _ other = _
    rw [Function.update_of_ne different]
  · show Function.update s.pending ssl _ ssl = _
    rw [Function.update_self, drain_engine]

/-- Two reads of one stream are one larger read. -/
theorem Sharing.HandsOut.trans {ssl : Ssl} {room more : Nat} {s₁ s₂ s₃ : Sharing}
    (first : HandsOut ssl room s₁ s₂) (second : HandsOut ssl more s₂ s₃) :
    HandsOut ssl (room + more) s₁ s₃ := by
  refine ⟨second.socket, fun other different => ?_, ?_⟩
  · rw [second.others other different, pending_of_drained first.socket,
      first.others other different]
  · rw [second.rest, pending_of_drained first.socket, first.rest, List.drop_drop]

/-- A read that would have had room for more than there was. -/
theorem Sharing.HandsOut.of_short {ssl : Ssl} {room more : Nat} {s s' : Sharing}
    (hands : HandsOut ssl room s s') (short : (s.pending ssl).length ≤ room)
    (shorter : (s.pending ssl).length ≤ more) : HandsOut ssl more s s' := by
  refine ⟨hands.socket, hands.others, ?_⟩
  rw [hands.rest, List.drop_eq_nil_of_le short, List.drop_eq_nil_of_le shorter]

/-- How many bytes a read reaches that has room for `space` in its first buffer and wants `want`.
In non-blocking mode it stops at a buffer that does not fill it, and goes on behind one that does;
in blocking mode one `SSL_read_ex` is all. -/
def Sharing.reach (s : Sharing) (ssl : Ssl) (blocking : Bool) (space want : Nat) : Nat :=
  if blocking = true then min space (s.serve ssl).length
  else if (s.serve ssl).length < space then (s.serve ssl).length
  else want

/-- What one `SSL_read_ex` hands out. -/
theorem Sharing.taken_length {s : Sharing} {ssl : Ssl} {space : Nat} {got : Bytes}
    (front : got = (s.serve ssl).take space) : got.length = min space (s.serve ssl).length := by
  rw [front, List.length_take]

/-- Behind a first read the socket is drained, and in non-blocking mode a second one reaches all
that is wanted. -/
theorem Sharing.HandsOut.goes_on {ssl : Ssl} {count space want : Nat} {blocking : Bool}
    {s₁ s₂ s₃ : Sharing} (first : HandsOut ssl count s₁ s₂)
    (second : HandsOut ssl (s₂.reach ssl blocking space want) s₂ s₃) (polls : ¬ blocking = true)
    (bounded : space ≤ want) : HandsOut ssl (count + want) s₁ s₃ := by
  have rest : s₂.serve ssl = (s₁.pending ssl).drop count := by
    rw [serve_of_drained first.socket, pending_of_drained first.socket, first.rest]
  rw [reach, if_neg polls, rest, List.length_drop] at second
  split at second
  · exact (first.trans second).of_short (by omega) (by omega)
  · exact first.trans second

/-- **The loop of `read()`** hands out as much as it reaches. -/
theorem readLoop_handsOut (link : SharedSocket) (ssl : Ssl) (want : Nat) (blocking : Bool)
    (buf : Stream.ReadBuffer want) (s : Sharing) :
    Always (sharing link) (Stream.readLoop ssl want blocking buf)
      (fun _ s' => s.HandsOut ssl (s.reach ssl blocking (buf.cap - buf.bytes.length)
        (want - buf.bytes.length)) s') s := by
  apply always_readLoop
  · rintro buf s s' ⟨nothing, rfl⟩
    have empty : s.serve ssl = [] := nil_of_take_room buf nothing
    have room := buf.room
    have space : 0 < buf.cap - buf.bytes.length := by omega
    rw [Sharing.reach, empty, List.length_nil, Nat.min_zero, if_pos space, ite_self]
    exact s.handsOut_drain ssl
  · rintro buf s got _ ⟨front, rfl⟩ enough
    have hands := s.handsOut_remove ssl got.1.length
    rw [Sharing.taken_length front] at hands ⊢
    by_cases waits : blocking = true
    · rw [Sharing.reach, if_pos waits]
      exact hands
    · -- All that is wanted was there: the buffer is filled with it.
      have wanted := enough.resolve_right waits
      have whole := room_eq_wanted buf got wanted
      have taken := Sharing.taken_length front
      rw [List.length_append] at wanted
      rw [Sharing.reach, if_neg waits, if_neg (by omega), ← whole]
      rwa [Nat.min_eq_left (by omega)] at hands ⊢
  · -- The read came short of the space, and stops there.
    rintro buf s got _ ⟨front, rfl⟩ more full
    have polls : ¬ blocking = true := fun waits => more (.inr waits)
    have hands := s.handsOut_remove ssl got.1.length
    have taken := Sharing.taken_length front
    have room := buf.room
    have fits := got.2.2
    rw [List.length_append] at full
    rw [Sharing.reach, if_neg polls, if_pos (by omega)]
    rwa [taken, Nat.min_eq_right (by omega)] at hands ⊢
  · -- The read filled the buffer.
    rintro buf s got _ ⟨front, rfl⟩ more full result s' later
    have polls : ¬ blocking = true := fun waits => more (.inr waits)
    have hands := s.handsOut_remove ssl got.1.length
    have taken := Sharing.taken_length front
    have room := buf.room
    have length := @List.length_append _ buf.bytes got.1
    have filled : got.1.length = buf.cap - buf.bytes.length := by omega
    have goes := hands.goes_on later polls (Nat.sub_le_sub_right (Stream.ReadBuffer.bounded _) _)
    have all : want - buf.bytes.length = got.1.length + (want - (buf.bytes ++ got.1).length) :=
      (wanted_eq_room_add buf got full).trans (congrArg (· + _) filled.symm)
    rw [Sharing.reach, if_neg polls, if_neg (by omega), all]
    exact goes

/-- How many bytes `read($length)` reaches; its first buffer has at most 65536 bytes. -/
def Sharing.readReach (s : Sharing) (ssl : Ssl) (length : Int) : Nat :=
  s.reach ssl s.blocking (min length.toNat 65536) length.toNat

-- `'a'` in the engine and `'b'` in the socket: `read(100)` reaches one byte of the two.
example : (Sharing.mk [[(2, text "b")]] (fun _ => text "a") false).readReach 2 100 = 1 := by decide

theorem unchanged_of_reason {link : SharedSocket} {s s' : Sharing} {call : Call}
    {answer : Answer call} (asks : call.IsReason) (replied : sharing link s call answer s') :
    s' = s := by
  cases call <;> first | exact asks.elim | exact replied

/-- The first buffer, and the mode as the loop sees it. -/
theorem reach_initial (s : Sharing) (ssl : Ssl) {length : Int} (positive : 0 < length.toNat)
    {mode : Int} (answered : mode ≠ 0 ↔ s.blocking = true) :
    s.reach ssl (decide (mode ≠ 0)) ((Stream.ReadBuffer.initial length.toNat positive).cap -
        (Stream.ReadBuffer.initial length.toNat positive).bytes.length)
      (length.toNat - (Stream.ReadBuffer.initial length.toNat positive).bytes.length) =
        s.readReach ssl length := by
  have blocks : decide (mode ≠ 0) = s.blocking := by
    rw [Bool.eq_iff_iff, decide_eq_true_iff, answered]
  have first : (Stream.ReadBuffer.initial length.toNat positive).cap = min length.toNat 65536 := by
    unfold Stream.ReadBuffer.initial
    dsimp only
    split <;> omega
  rw [Sharing.readReach, blocks, first]
  rfl

/-- **What `read()` leaves**: its stream has lost as many bytes as it reached. -/
theorem read_handsOut (link : SharedSocket) (ssl : Ssl) {length : Int} (positive : 0 < length)
    (s : Sharing) :
    Always (sharing link) (Stream.read (link.stream ssl) length)
      (fun _ s' => s.HandsOut ssl (s.readReach ssl length) s') s := by
  unfold Stream.read
  rw [dif_neg (by omega)]
  simp only [SharedSocket.stream]
  refine always_call_bind.mpr fun mode s₁ replied => ?_
  obtain ⟨answered, same⟩ := replied
  rw [same]
  refine .bind (readLoop_handsOut link ssl length.toNat _ _ s) ?_
  rintro ⟨bytes, rc⟩ s₂ hands
  rw [reach_initial s ssl (by omega) answered] at hands
  refine .ite (fun _ => .pure hands) fun _ => ?_
  intro outcome s' run
  obtain rfl : s' = s₂ :=
    run.unchanged (endOfRead_calls ssl rc) fun _ _ _ _ => unchanged_of_reason
  exact hands

/-- A length that is not positive throws before anything is read. -/
theorem read_refused (link : SharedSocket) (ssl : Ssl) {length : Int} (refused : length ≤ 0)
    (s : Sharing) :
    Always (sharing link) (Stream.read (link.stream ssl) length) (fun _ s' => s' = s) s := by
  unfold Stream.read
  rw [dif_pos refused]
  exact .pure rfl

/-- What an adapter read leaves, and what it puts into the php_stream's buffer. -/
theorem quicStreamOpRead_handsOut (link : SharedSocket) (ssl : Ssl) (count : Nat) (s : Sharing) :
    Always (sharing link) (quicStreamOpRead (link.stream ssl) count)
      (fun result s' => s.HandsOut ssl (min count (s.serve ssl).length) s' ∧
        result.bytes = (s.serve ssl).take count) s := by
  simp only [quicStreamOpRead, SharedSocket.stream]
  refine always_call_bind.mpr fun got s₁ replied => ?_
  cases got with
  | some got =>
      obtain ⟨front, rfl⟩ := replied
      have hands := s.handsOut_remove ssl got.1.length
      rw [Sharing.taken_length front] at hands ⊢
      exact .pure ⟨hands, front⟩
  | none =>
      obtain ⟨nothing, rfl⟩ := replied
      have hands : s.HandsOut ssl (min count (s.serve ssl).length) s.drain := by
        rw [← List.length_take, nothing]
        exact s.handsOut_drain ssl
      refine always_call_bind.mpr ?_
      rintro err s₂ rfl
      cases err <;> exact .pure ⟨hands, nothing.symm⟩

/-! ### Runs -/

/-- The connection's side, and the read buffer of each php_stream. -/
structure Readiness where
  net : Sharing
  php : Ssl → Bytes

/-- One event at the connection. -/
inductive ReadyEvent where
  | arrival (datagram : Datagram)
  /-- The php_stream layer calls the read op. -/
  | opRead (ssl : Ssl) (count : Nat)
  /-- The script takes bytes out of the php_stream's buffer. -/
  | consume (ssl : Ssl) (count : Nat)
  | read (ssl : Ssl) (length : Int)
  | handleEvents

/-- What the events do, when the streams in `exposed` have a resource from `asStream()`. -/
inductive ReadyStep (link : SharedSocket) (exposed : Ssl → Prop) :
    Readiness → ReadyEvent → Readiness → Prop
  | arrival {s : Readiness} (datagram : Datagram) : ReadyStep link exposed s (.arrival datagram)
      { s with net := { s.net with socket := s.net.socket ++ [datagram] } }
  | opRead {s : Readiness} {ssl : Ssl} {count : Nat} {result : OpRead} {net : Sharing}
      (resource : exposed ssl)
      (ran : Run (sharing link) (quicStreamOpRead (link.stream ssl) count) s.net result net) :
      ReadyStep link exposed s (.opRead ssl count)
        ⟨net, Function.update s.php ssl (s.php ssl ++ result.bytes)⟩
  | consume {s : Readiness} {ssl : Ssl} {count : Nat} (resource : exposed ssl) :
      ReadyStep link exposed s (.consume ssl count)
        { s with php := Function.update s.php ssl ((s.php ssl).drop count) }
  | read {s : Readiness} {ssl : Ssl} {length : Int} {outcome : Outcome (Option Bytes)}
      {net : Sharing}
      (ran : Run (sharing link) (Stream.read (link.stream ssl) length) s.net outcome net) :
      ReadyStep link exposed s (.read ssl length) { s with net }
  | handleEvents {s : Readiness} {net : Sharing}
      (ran : Run (sharing link) (Connection.handleEvents link.conn) s.net () net) :
      ReadyStep link exposed s .handleEvents { s with net }

/-! ### Readiness -/

/-- A descriptor is readable: it is that of the socket, and a datagram waits there. -/
def Sharing.Readable (link : SharedSocket) (s : Sharing) (fd : Fd) : Prop :=
  fd = link.fd ∧ s.socket ≠ []

/-- **`stream_select` does not wait for bytes that are there**: if the engine holds bytes of the
stream, then once the cast op has run the php_stream's buffer holds some, or the descriptor the op
gave out is readable. -/
def Readiness.Wakes (link : SharedSocket) (s : Readiness) (ssl : Ssl) : Prop :=
  s.net.engine ssl ≠ [] → ∀ fd net,
    Run (sharing link) (quicStreamOpCast (link.stream ssl) .fdForSelect) s.net fd net →
      s.php ssl ≠ [] ∨ ∃ descriptor, fd = some descriptor ∧ net.Readable link descriptor

/-- No resource of the connection is waited for in vain. -/
def Readiness.Ready (link : SharedSocket) (exposed : Ssl → Prop) (s : Readiness) : Prop :=
  ∀ ssl, exposed ssl → s.Wakes link ssl

/-- The cast op gives out the descriptor of the shared socket, and changes nothing. -/
theorem quicStreamOpCast_run_iff {link : SharedSocket} {ssl : Ssl} {s s' : Sharing}
    {fd : Option Fd} :
    Run (sharing link) (quicStreamOpCast (link.stream ssl) .fdForSelect) s fd s' ↔
      fd = some link.fd ∧ s' = s := by
  simp only [quicStreamOpCast, SharedSocket.stream]
  constructor
  · intro run
    obtain ⟨object, s₁, ⟨loaded, rfl⟩, rest⟩ := run_ask_iff.mp run
    obtain rfl := loaded rfl
    obtain ⟨rfl, rfl⟩ := run_done_iff.mp rest
    exact ⟨link.own, rfl⟩
  · rintro ⟨rfl, rfl⟩
    refine run_ask_iff.mpr ⟨.connection link.conn, s', ⟨fun _ => rfl, rfl⟩, ?_⟩
    exact run_done_iff.mpr ⟨link.own.symm, rfl⟩

/-- So all depends on the php_stream's buffer and the socket's queue. -/
theorem Readiness.wakes_iff {link : SharedSocket} {s : Readiness} {ssl : Ssl} :
    s.Wakes link ssl ↔ (s.net.engine ssl ≠ [] → s.php ssl ≠ [] ∨ s.net.socket ≠ []) := by
  constructor
  · intro wakes held
    have ran : Run (sharing link) (quicStreamOpCast (link.stream ssl) .fdForSelect) s.net
        (some link.fd) s.net := quicStreamOpCast_run_iff.mpr ⟨rfl, rfl⟩
    rcases wakes held _ _ ran with buffered | ⟨_, _, _, waiting⟩
    · exact .inl buffered
    · exact .inr waiting
  · intro wakes held fd net run
    obtain ⟨rfl, rfl⟩ := quicStreamOpCast_run_iff.mp run
    rcases wakes held with buffered | waiting
    · exact .inl buffered
    · exact .inr ⟨link.fd, rfl, rfl, waiting⟩

/-! ### One step -/

/-- A drain of the socket cannot hurt this resource: nothing has come for the stream, or its
php_stream still has bytes. -/
def Readiness.Quiet (s : Readiness) (ssl : Ssl) : Prop :=
  s.net.pending ssl = [] ∨ s.php ssl ≠ []

/-- **When a step keeps readiness.** -/
def ReadyEvent.Safe (exposed : Ssl → Prop) (s : Readiness) : ReadyEvent → Prop
  | .arrival _ => True
  | .handleEvents => ∀ other, exposed other → s.Quiet other
  | .opRead ssl count =>
    (∀ other, exposed other → other ≠ ssl → s.Quiet other) ∧ (0 < count ∨ s.Quiet ssl)
  | .read ssl length =>
    length ≤ 0 ∨ (∀ other, exposed other → other ≠ ssl → s.Quiet other) ∧
      (exposed ssl → (s.net.pending ssl).length ≤ s.net.readReach ssl length ∨ s.php ssl ≠ [])
  | .consume ssl count =>
    count < (s.php ssl).length ∨ s.net.engine ssl = [] ∨ s.net.socket ≠ []

/-- Behind a drained socket, only the php_stream's buffer counts. -/
theorem Readiness.wakes_of_drained {link : SharedSocket} {s : Readiness} {ssl : Ssl}
    (drained : s.net.socket = []) :
    s.Wakes link ssl ↔ s.net.engine ssl = [] ∨ s.php ssl ≠ [] := by
  rw [wakes_iff, drained]
  simp only [ne_eq, not_true_eq_false, or_false]
  exact or_iff_not_imp_left.symm

/-- Readiness after a read of one stream. -/
theorem Readiness.ready_of_handsOut {link : SharedSocket} {exposed : Ssl → Prop}
    {s s' : Readiness} {ssl : Ssl} {room : Nat} (hands : s.net.HandsOut ssl room s'.net)
    (others : ∀ other, other ≠ ssl → s'.php other = s.php other) :
    s'.Ready link exposed ↔
      (∀ other, exposed other → other ≠ ssl → s.Quiet other) ∧
        (exposed ssl → (s.net.pending ssl).drop room = [] ∨ s'.php ssl ≠ []) := by
  constructor
  · intro ready
    refine ⟨fun other resource different => ?_, fun resource => ?_⟩
    · have wakes := (wakes_of_drained hands.socket).mp (ready other resource)
      rw [hands.others other different, others other different] at wakes
      exact wakes
    · have wakes := (wakes_of_drained hands.socket).mp (ready ssl resource)
      rw [hands.rest] at wakes
      exact wakes
  · rintro ⟨quiet, rest⟩ other resource
    refine (wakes_of_drained hands.socket).mpr ?_
    by_cases same : other = ssl
    · rw [same, hands.rest]
      exact rest (same ▸ resource)
    · rw [hands.others other same, others other same]
      exact quiet other resource same

/-- Readiness after `handleEvents()`. -/
theorem Readiness.ready_of_drain {link : SharedSocket} {exposed : Ssl → Prop} {s : Readiness} :
    Ready link exposed { s with net := s.net.drain } ↔ ∀ other, exposed other → s.Quiet other := by
  constructor
  · intro ready other resource
    exact (wakes_of_drained s.net.drain_socket).mp (ready other resource)
  · intro quiet other resource
    exact (wakes_of_drained s.net.drain_socket).mpr (quiet other resource)

theorem handleEvents_drains {link : SharedSocket} {s s' : Sharing}
    (run : Run (sharing link) (Connection.handleEvents link.conn) s () s') : s' = s.drain := by
  simp only [Connection.handleEvents, handleEventsOf, link.live] at run
  obtain ⟨_, s₁, replied, rest⟩ := run_ask_iff.mp run
  obtain ⟨_, rfl⟩ := run_done_iff.mp rest
  exact replied

/-- What an adapter read of `count` bytes leaves for its own resource: bytes it did not take, but
never with an empty php_stream, if it took any. -/
theorem opRead_quiet_iff (s : Sharing) (ssl : Ssl) {php : Bytes} {count : Nat} :
    ((s.pending ssl).drop (min count (s.serve ssl).length) = [] ∨
        php ++ (s.serve ssl).take count ≠ []) ↔
      0 < count ∨ s.pending ssl = [] ∨ php ≠ [] := by
  by_cases empty : s.pending ssl = []
  · rw [empty, List.drop_nil]
    exact ⟨fun _ => .inr (.inl rfl), fun _ => .inl rfl⟩
  · have serves : s.serve ssl ≠ [] := fun none => empty ((s.serve_eq_nil_iff ssl).mp none)
    cases count with
    | zero => simp [empty]
    | succ count =>
        refine ⟨fun _ => .inl (Nat.succ_pos count), fun _ => .inr fun none => serves ?_⟩
        have taken := (List.append_eq_nil_iff.mp none).2
        exact (List.take_eq_nil_iff.mp taken).resolve_left (Nat.succ_ne_zero count)

/-- Readiness after bytes were taken out of a php_stream's buffer. -/
theorem Readiness.Ready.consume_iff {link : SharedSocket} {exposed : Ssl → Prop} {s : Readiness}
    {ssl : Ssl} (ready : s.Ready link exposed) (resource : exposed ssl) (count : Nat) :
    Readiness.Ready link exposed
        { s with php := Function.update s.php ssl ((s.php ssl).drop count) } ↔
      count < (s.php ssl).length ∨ s.net.engine ssl = [] ∨ s.net.socket ≠ [] := by
  have left : (s.php ssl).drop count ≠ [] ↔ count < (s.php ssl).length := by
    rw [ne_eq, List.drop_eq_nil_iff, Nat.not_le]
  constructor
  · intro after
    have wakes := wakes_iff.mp (after ssl resource)
    dsimp only at wakes
    rw [Function.update_self, left] at wakes
    by_cases held : s.net.engine ssl = []
    · exact .inr (.inl held)
    · exact (wakes held).imp_right .inr
  · intro safe other exposure
    refine wakes_iff.mpr fun held => ?_
    by_cases same : other = ssl
    · subst same
      dsimp only
      rw [Function.update_self, left]
      rcases safe with some | empty | waiting
      · exact .inl some
      · exact absurd empty held
      · exact .inr waiting
    · dsimp only
      rw [Function.update_of_ne same]
      exact wakes_iff.mp (ready other exposure) held

/-- **One step** from a ready state leads to a ready state exactly if it is safe. -/
theorem ReadyStep.ready_iff {link : SharedSocket} {exposed : Ssl → Prop} {s s' : Readiness}
    {event : ReadyEvent} (step : ReadyStep link exposed s event s')
    (ready : s.Ready link exposed) : s'.Ready link exposed ↔ event.Safe exposed s := by
  cases step with
  | arrival datagram =>
      have waiting : s.net.socket ++ [datagram] ≠ [] := by simp
      exact ⟨fun _ => trivial, fun _ ssl _ => Readiness.wakes_iff.mpr fun _ => .inr waiting⟩
  | handleEvents ran =>
      obtain rfl := handleEvents_drains ran
      exact Readiness.ready_of_drain
  | @opRead ssl count result net resource ran =>
      obtain ⟨hands, taken⟩ := quicStreamOpRead_handsOut link ssl count s.net _ _ ran
      have others : ∀ other, other ≠ ssl →
          Function.update s.php ssl (s.php ssl ++ result.bytes) other = s.php other :=
        fun other different => Function.update_of_ne different _ _
      rw [Readiness.ready_of_handsOut hands others]
      dsimp only
      rw [Function.update_self, taken]
      refine and_congr_right fun _ => ?_
      rw [opRead_quiet_iff]
      exact ⟨fun own => own resource, fun own _ => own⟩
  | @read ssl length outcome net ran =>
      by_cases refused : length ≤ 0
      · obtain rfl : net = s.net := read_refused link ssl refused s.net _ _ ran
        exact ⟨fun _ => .inl refused, fun _ => ready⟩
      · have hands := read_handsOut link ssl (Int.not_le.mp refused) s.net _ _ ran
        have after : (Readiness.mk net s.php).Ready link exposed ↔ _ :=
          s.ready_of_handsOut hands fun _ _ => rfl
        rw [after]
        simp only [ReadyEvent.Safe, refused, false_or, List.drop_eq_nil_iff]
  | consume resource => exact ready.consume_iff resource _

/-! ### The law -/

/-- A step that is safe where it is taken. -/
def SafeStep (link : SharedSocket) (exposed : Ssl → Prop) (s : Readiness) (event : ReadyEvent)
    (s' : Readiness) : Prop :=
  ReadyStep link exposed s event s' ∧ event.Safe exposed s

/-- **In a run of safe steps `stream_select` never waits for bytes that are there; the first step
that is not safe leads to a state in which it does.** -/
theorem readiness_iff {link : SharedSocket} {exposed : Ssl → Prop} {start s : Readiness}
    {events : List ReadyEvent} (ready : start.Ready link exposed)
    (path : Path (SafeStep link exposed) start events s) :
    s.Ready link exposed ∧
      ∀ event s', ReadyStep link exposed s event s' →
        (s'.Ready link exposed ↔ event.Safe exposed s) := by
  have here : s.Ready link exposed :=
    path.invariant (fun _ _ _ before step => (step.1.ready_iff before).mpr step.2) ready
  exact ⟨here, fun event s' step => step.ready_iff here⟩

/-! ### Readiness that is kept, and readiness that is lost -/

/-- An engine that drains and hands out as `sharing` says. -/
def sharingHandler (link : SharedSocket) : Handler openssl Sharing := fun s call =>
  match call with
  | .sslReadEx ssl space =>
    if some : 0 < ((s.serve ssl).take space).length then
      (.some ⟨(s.serve ssl).take space, some, List.length_take_le _ _⟩,
        s.drain.remove ssl ((s.serve ssl).take space).length)
    else (none, s.drain)
  | .sslHandleEvents _ => ((), s.drain)
  | .sslGetBlockingMode _ => (if s.blocking then 1 else 0, s)
  | .sslSetBlockingMode _ blocking => (1, { s with blocking })
  | .loadObject _ => (.connection link.conn, s)
  | call => (succeeding call, s)

theorem sharingHandler_allowed (link : SharedSocket) (s : Sharing) (call : Call) :
    sharing link s call (sharingHandler link s call).1 (sharingHandler link s call).2 := by
  cases call with
  | sslReadEx ssl space =>
      by_cases some : 0 < ((s.serve ssl).take space).length
      · simp only [sharingHandler, some, dif_pos]
        exact ⟨rfl, rfl⟩
      · simp only [sharingHandler, some, dif_neg, not_false_eq_true]
        exact ⟨List.eq_nil_of_length_eq_zero (by omega), rfl⟩
  | sslGetBlockingMode ssl =>
      refine ⟨?_, rfl⟩
      cases blocking : s.blocking <;> simp [sharingHandler, blocking]
  | loadObject object => exact ⟨fun _ => rfl, rfl⟩
  | _ => rfl

/-- A connection in non-blocking mode. -/
def pollingLink : SharedSocket where
  conn := { quicConnectionCreate with ssl := some 1, fd := some 3 }
  ssl := 1
  live := rfl
  fd := 3
  own := rfl
  object := 1

/-- Nothing has come yet. -/
def nothingYet : Readiness := ⟨⟨[], fun _ => [], false⟩, fun _ => []⟩

/-- Two streams with a resource. -/
def exposedPair (ssl : Ssl) : Prop := ssl = 2 ∨ ssl = 4

theorem nothingYet_ready : nothingYet.Ready pollingLink exposedPair :=
  fun _ _ => Readiness.wakes_iff.mpr fun held => absurd rfl held

/-- A datagram is waiting. -/
def arrived (datagram : Datagram) : Readiness :=
  { nothingYet with net := { nothingYet.net with socket := [datagram] } }

/-- The php_stream of stream 2 has called its read op. -/
def polled (s : Readiness) : Readiness :=
  ⟨(exec (sharingHandler pollingLink) (quicStreamOpRead (pollingLink.stream 2) 8192) s.net).2,
    Function.update s.php 2 (s.php 2 ++
      (exec (sharingHandler pollingLink) (quicStreamOpRead (pollingLink.stream 2) 8192)
        s.net).1.bytes)⟩

theorem polled_step (s : Readiness) :
    ReadyStep pollingLink exposedPair s (.opRead 2 8192) (polled s) :=
  .opRead (.inl rfl) (run_exec (sharingHandler_allowed pollingLink) _ _)

/-- A datagram for one stream only can be read without harm. -/
theorem readiness_iff_example :
    (polled (arrived [(2, text "a")])).Ready pollingLink exposedPair := by
  have arrives : SafeStep pollingLink exposedPair nothingYet (.arrival [(2, text "a")])
      (arrived [(2, text "a")]) := ⟨.arrival _, trivial⟩
  refine ((readiness_iff nothingYet_ready (.single arrives)).2 _ _ (polled_step _)).mpr ?_
  refine ⟨fun other resource different => .inl ?_, .inl (by decide)⟩
  rcases resource with rfl | rfl
  · exact absurd rfl different
  · rfl

/-- **A datagram for two streams, read through the first one's resource: select blocks on the
other**, with a byte in the engine, an empty php_stream, and no datagram waiting at the descriptor
the cast op gives out. -/
theorem readiness_lost : ∃ events,
    Path (ReadyStep pollingLink exposedPair) nothingYet events
      (polled (arrived [(2, text "a"), (4, text "b")])) ∧
    exposedPair 4 ∧
    ¬ (polled (arrived [(2, text "a"), (4, text "b")])).Wakes pollingLink 4 := by
  refine ⟨_, .cons (.arrival [(2, text "a"), (4, text "b")]) (.single (polled_step _)), .inr rfl,
    fun wakes => ?_⟩
  have held : (polled (arrived [(2, text "a"), (4, text "b")])).net.engine 4 ≠ [] := by decide
  have ran := run_exec (sharingHandler_allowed pollingLink)
    (quicStreamOpCast (pollingLink.stream 4) .fdForSelect)
    (polled (arrived [(2, text "a"), (4, text "b")])).net
  rcases wakes held _ _ ran with buffered | ⟨_, _, _, waiting⟩
  · exact buffered (by decide)
  · exact waiting (by decide)

end PhpQuic
