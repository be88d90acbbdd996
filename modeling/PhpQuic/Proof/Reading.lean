/-
**Reading: nothing is lost, duplicated or reordered.**

The receive side of one stream is kept by `receiving`: the engine's buffer, the bytes removed from
it so far, and the blocking mode. Bytes may arrive during any call, and `SSL_read_ex` may hand out
any part of the front of the buffer, or nothing.

* `always_readLoop`: the rule of the loop of `read()`, for any environment.
* `readLoop_removes`: the loop returns what it removed, at most what was wanted.
* `reading_exact`: over any run of `read()`, adapter reads, changes of mode and arrivals, the
  results in order are the bytes removed, and each result is as long as it says and no longer than
  asked.
* `read_drains`: against an engine that hands out all it can, `read()` in non-blocking mode returns
  everything available, up to the requested length.
-/

import PhpQuic.Openssl.Environment
import PhpQuic.Source.Connection
import PhpQuic.Interact.Transition

namespace PhpQuic

open Interact

/-! ### The receive side -/

/-- The receive side of a stream. `removed` is what `SSL_read_ex` took out of `buffer`, in order. -/
structure Receiver where
  buffer : Bytes
  removed : Bytes
  blocking : Bool
  deriving DecidableEq

/-- The only change is that bytes arrived. -/
def Receiver.Arrives (s s' : Receiver) : Prop :=
  ∃ arrived, s' = { s with buffer := s.buffer ++ arrived }

/-- What a call may do to the receive side. -/
def receiving (s : Receiver) : (call : Call) → Answer call → Receiver → Prop
  | .sslReadEx _ _, none, s' => s.Arrives s'
  | .sslReadEx _ _, some got, s' => ∃ arrived rest, s.buffer ++ arrived = got.1 ++ rest ∧
      s' = { s with buffer := rest, removed := s.removed ++ got.1 }
  | .sslGetBlockingMode _, mode, s' => (mode ≠ 0 ↔ s.blocking = true) ∧ s.Arrives s'
  | .sslSetBlockingMode _ blocking, rc, s' =>
    { s with blocking := if rc = 0 then s.blocking else blocking }.Arrives s'
  | _, _, s' => s.Arrives s'

/-- The relation every call but `SSL_read_ex` keeps. -/
def Receiver.Idle (s s' : Receiver) : Prop := s'.removed = s.removed

/-- The calls that read nothing. -/
def Call.IsIdle : Call → Prop
  | .sslReadEx .. => False
  | _ => True

theorem removed_of_idle {α : Type} {p : Quic α} (idle : Only Call.IsIdle p) {s s' : Receiver}
    {value : α} (run : Run receiving p s value s') : s'.removed = s.removed := by
  refine run.frame (R := Receiver.Idle) idle (fun _ => rfl)
    (fun _ _ _ first second => Eq.trans second first) fun s call answer s' here moved => ?_
  cases call with
  | sslReadEx => exact here.elim
  | sslGetBlockingMode =>
      obtain ⟨_, _, rfl⟩ := moved
      rfl
  | _ =>
      obtain ⟨_, rfl⟩ := moved
      rfl

/-! ### `read()` -/

/-- **The rule of the loop of `read()`**: a property of what the loop does from a buffer follows from
the iterations that leave it, and from the one that grows the buffer. -/
theorem always_readLoop {S : Type} {B : Behaviour openssl S} {ssl : Ssl} {want : Nat}
    {blocking : Bool} {post : Stream.ReadBuffer want → S → Bytes × Int → S → Prop}
    (failed : ∀ buf s s', B s (.sslReadEx ssl (buf.cap - buf.bytes.length)) none s' →
      post buf s (buf.bytes, 0) s')
    (enough : ∀ buf s got s', B s (.sslReadEx ssl (buf.cap - buf.bytes.length)) (some got) s' →
      want ≤ (buf.bytes ++ got.1).length ∨ blocking = true → post buf s (buf.bytes ++ got.1, 1) s')
    (short : ∀ buf s got s', B s (.sslReadEx ssl (buf.cap - buf.bytes.length)) (some got) s' →
      ¬(want ≤ (buf.bytes ++ got.1).length ∨ blocking = true) →
      (buf.bytes ++ got.1).length ≠ buf.cap → post buf s (buf.bytes ++ got.1, 1) s')
    (grows : ∀ buf s got s₁, B s (.sslReadEx ssl (buf.cap - buf.bytes.length)) (some got) s₁ →
      (more : ¬(want ≤ (buf.bytes ++ got.1).length ∨ blocking = true)) →
      (full : (buf.bytes ++ got.1).length = buf.cap) → ∀ result s',
      post (.grow buf.cap (buf.bytes ++ got.1) full (Nat.zero_lt_of_lt buf.room)
        (Nat.lt_of_not_le fun wanted => more (.inl wanted))) s₁ result s' → post buf s result s')
    (buf : Stream.ReadBuffer want) (s : S) :
    Always B (Stream.readLoop ssl want blocking buf) (post buf s) s := by
  induction buf using Stream.readLoop.induct want blocking generalizing s with
  | case1 buf ih =>
      rw [Stream.readLoop]
      refine always_call_bind.mpr fun got s₁ replied => ?_
      cases got with
      | none => exact .pure (failed buf s s₁ replied)
      | some got =>
          dsimp only
          split
          · rename_i stops
            exact .pure (enough buf s got s₁ replied stops)
          · rename_i more
            split
            · rename_i full
              exact (ih got more full s₁).mono (grows buf s got s₁ replied more full)
            · rename_i less
              exact .pure (short buf s got s₁ replied more less)

/-- What a buffer holds after a read is no more than is wanted. -/
theorem readBuffer_length_le {want : Nat} (buf : Stream.ReadBuffer want)
    (got : {bytes : Bytes // 0 < bytes.length ∧ bytes.length ≤ buf.cap - buf.bytes.length}) :
    (buf.bytes ++ got.1).length ≤ want := by
  have room := buf.room
  have bounded := buf.bounded
  have fits := got.2.2
  rw [List.length_append]
  omega

/-- **What the loop returns is what it removed**, behind the bytes it started with. -/
theorem readLoop_removes (ssl : Ssl) (want : Nat) (blocking : Bool) (buf : Stream.ReadBuffer want)
    (s : Receiver) :
    Always receiving (Stream.readLoop ssl want blocking buf)
      (fun result s' => result.1.length ≤ want ∧
        ∃ got, result.1 = buf.bytes ++ got ∧ s'.removed = s.removed ++ got) s := by
  apply always_readLoop
  · rintro buf s s' ⟨_, rfl⟩
    have within := Nat.le_of_lt (Nat.lt_of_lt_of_le buf.room buf.bounded)
    exact ⟨within, [], (List.append_nil _).symm, (List.append_nil _).symm⟩
  · rintro buf s got _ ⟨arrived, rest, split, rfl⟩ -
    exact ⟨readBuffer_length_le buf got, got.1, rfl, rfl⟩
  · rintro buf s got _ ⟨arrived, rest, split, rfl⟩ - -
    exact ⟨readBuffer_length_le buf got, got.1, rfl, rfl⟩
  · rintro buf s got _ ⟨arrived, rest, split, rfl⟩ _ _ result s' ⟨short, more, returned, removed⟩
    exact ⟨short, got.1 ++ more, returned.trans (List.append_assoc _ _ _),
      removed.trans (List.append_assoc _ _ _)⟩

/-- The bytes a result of `read()` hands to PHP. -/
def readBytes : Outcome (Option Bytes) → Bytes
  | .ok (some bytes) => bytes
  | _ => []

theorem throwing_idle {α : Type} (format : Bytes) :
    Only Call.IsIdle (throwing (phpQuicThrowSsl format) : Quic (Outcome α)) := by
  refine .bind (.bind (.call trivial) fun err => ?_) fun _ => .pure _
  cases err with
  | none => exact .pure _
  | some entry => exact .bind (.call trivial) fun _ => .bind (.call trivial) fun _ => .pure _

theorem throwing_returns {α : Type} {post : Outcome α → Prop} (raised : ∀ thrown, post (.error thrown))
    (thrown : Quic Thrown) : Returns post (throwing thrown) :=
  .bind_any fun thrown => .pure (raised thrown)

/-- Behind an empty loop `read()` only asks for the reason. -/
theorem endOfRead_idle (ssl : Ssl) (rc : Int) : Only Call.IsIdle (Stream.endOfRead ssl rc) := by
  refine .bind (.call trivial) fun err => .ite (.pure _) <| .ite (.pure _) <|
    .bind (.call trivial) fun state => ?_
  cases state with
  | resetRemote => exact .pure _
  | resetLocal => exact .pure _
  | connClosed => exact .pure _
  | _ => exact throwing_idle _

theorem endOfRead_empty (ssl : Ssl) (rc : Int) :
    Returns (fun outcome => readBytes outcome = []) (Stream.endOfRead ssl rc) := by
  refine .bind_any fun err => .ite (.pure rfl) <| .ite (.pure rfl) <| .bind_any fun state => ?_
  cases state with
  | resetRemote => exact .pure rfl
  | resetLocal => exact .pure rfl
  | connClosed => exact .pure rfl
  | _ => exact .bind_any fun _ => .pure rfl

/-- `read()` hands out exactly what it removed, and no more than was asked for. -/
theorem read_removes (obj : PhpQuicStream) (length : Int) (s : Receiver) :
    Always receiving (Stream.read obj length)
      (fun outcome s' => s'.removed = s.removed ++ readBytes outcome ∧
        (readBytes outcome).length ≤ length.toNat) s := by
  unfold Stream.read
  split
  · exact .pure ⟨(List.append_nil _).symm, Nat.zero_le _⟩
  · split
    · exact .pure ⟨(List.append_nil _).symm, Nat.zero_le _⟩
    · refine always_call_bind.mpr fun mode s₁ replied => ?_
      have unchanged : s₁.removed = s.removed := by
        obtain ⟨_, _, rfl⟩ := replied
        rfl
      refine .bind (readLoop_removes _ _ _ _ s₁) ?_
      rintro ⟨bytes, rc⟩ s₂ ⟨short, got, returned, removed⟩
      obtain rfl : bytes = got := returned
      rw [unchanged] at removed
      refine .ite (fun _ => .pure ⟨removed, short⟩) fun empty => ?_
      obtain rfl : bytes = [] := by simpa using empty
      intro outcome s' run
      rw [(endOfRead_empty _ rc).of_run run, removed_of_idle (endOfRead_idle _ rc) run]
      exact ⟨removed, Nat.zero_le _⟩

/-! ### The adapter -/

/-- An adapter read puts exactly what it removed into the caller's buffer. -/
theorem quicStreamOpRead_removes (obj : PhpQuicStream) (count : Nat) (s : Receiver) :
    Always receiving (quicStreamOpRead obj count)
      (fun result s' => s'.removed = s.removed ++ result.bytes ∧ result.bytes.length ≤ count ∧
        result.bytes.length = result.count.toNat) s := by
  unfold quicStreamOpRead
  split
  · exact .pure ⟨(List.append_nil _).symm, Nat.zero_le _, rfl⟩
  · refine always_call_bind.mpr fun got s₁ replied => ?_
    cases got with
    | some got =>
        obtain ⟨arrived, rest, _, rfl⟩ := replied
        exact .pure ⟨rfl, got.2.2, rfl⟩
    | none =>
        obtain ⟨_, rfl⟩ := replied
        refine always_call_bind.mpr ?_
        rintro err s₂ ⟨_, rfl⟩
        cases err <;> exact .pure ⟨(List.append_nil _).symm, Nat.zero_le _, rfl⟩

/-! ### Runs -/

/-- One event at the stream, with its result: a call of `read()`, a read by the php_stream layer, a
change of the blocking mode by the connection, the arrival of bytes. -/
inductive ReadEvent where
  | read (length : Int) (outcome : Outcome (Option Bytes))
  | opRead (count : Nat) (result : OpRead)
  | setBlocking (conn : PhpQuicConnection) (blocking : Bool) (outcome : Outcome Unit)
  | arrival (bytes : Bytes)

/-- The bytes an event hands to PHP. -/
def ReadEvent.bytes : ReadEvent → Bytes
  | .read _ outcome => readBytes outcome
  | .opRead _ result => result.bytes
  | _ => []

/-- The result of an event is no longer than was asked for, and as long as it says. -/
def ReadEvent.Bounded : ReadEvent → Prop
  | .read length outcome => (readBytes outcome).length ≤ length.toNat
  | .opRead count result =>
    result.bytes.length ≤ count ∧ result.bytes.length = result.count.toNat
  | _ => True

/-- What the events do to the receive side. -/
inductive ReadStep (obj : PhpQuicStream) : Receiver → ReadEvent → Receiver → Prop
  | read {s s' : Receiver} {length : Int} {outcome : Outcome (Option Bytes)}
      (ran : Run receiving (Stream.read obj length) s outcome s') :
      ReadStep obj s (.read length outcome) s'
  | opRead {s s' : Receiver} {count : Nat} {result : OpRead}
      (ran : Run receiving (quicStreamOpRead obj count) s result s') :
      ReadStep obj s (.opRead count result) s'
  | setBlocking {s s' : Receiver} {conn : PhpQuicConnection} {blocking : Bool}
      {outcome : Outcome Unit}
      (ran : Run receiving (Connection.setBlocking conn blocking) s outcome s') :
      ReadStep obj s (.setBlocking conn blocking outcome) s'
  | arrival {s : Receiver} (bytes : Bytes) :
      ReadStep obj s (.arrival bytes) { s with buffer := s.buffer ++ bytes }

theorem setBlocking_idle (conn : PhpQuicConnection) (blocking : Bool) :
    Only Call.IsIdle (Connection.setBlocking conn blocking) := by
  unfold Connection.setBlocking setBlockingOf
  split
  · exact .pure _
  · exact .bind (.call trivial) fun _ => .ite (throwing_idle _) (.pure _)

/-- **One event** hands out what it removed. -/
theorem ReadStep.removes {obj : PhpQuicStream} {s s' : Receiver} {event : ReadEvent}
    (step : ReadStep obj s event s') :
    s'.removed = s.removed ++ event.bytes ∧ event.Bounded := by
  cases step with
  | read ran => exact read_removes obj _ s _ _ ran
  | opRead ran => exact quicStreamOpRead_removes obj _ s _ _ ran
  | setBlocking ran =>
      exact ⟨(removed_of_idle (setBlocking_idle _ _) ran).trans (List.append_nil _).symm, trivial⟩
  | arrival bytes => exact ⟨(List.append_nil _).symm, trivial⟩

theorem path_removes {obj : PhpQuicStream} {s s' : Receiver} {events : List ReadEvent}
    (path : Path (ReadStep obj) s events s') :
    s'.removed = s.removed ++ (events.map ReadEvent.bytes).flatten ∧
      ∀ event ∈ events, event.Bounded := by
  induction path with
  | nil => exact ⟨(List.append_nil _).symm, fun _ => (absurd · List.not_mem_nil)⟩
  | cons first _ ih =>
      obtain ⟨removed, bounded⟩ := first.removes
      refine ⟨?_, List.forall_mem_cons.mpr ⟨bounded, ih.2⟩⟩
      rw [ih.1, removed, List.map_cons, List.flatten_cons, List.append_assoc]

/-! ### An engine that hands out all it can -/

/-- What `SSL_read_ex` does when it returns the smaller of the space and the available bytes, and
no bytes arrive meanwhile. -/
def draining (s : Receiver) : (call : Call) → Answer call → Receiver → Prop
  | .sslReadEx _ space, none, s' => s.buffer.take space = [] ∧ s' = s
  | .sslReadEx _ space, some got, s' => got.1 = s.buffer.take space ∧
      s' = { s with buffer := s.buffer.drop space, removed := s.removed ++ got.1 }
  | .sslGetBlockingMode _, mode, s' => (mode ≠ 0 ↔ s.blocking = true) ∧ s' = s
  | .sslSetBlockingMode _ blocking, rc, s' =>
    s' = { s with blocking := if rc = 0 then s.blocking else blocking }
  | _, _, s' => s' = s

theorem Receiver.Arrives.refl (s : Receiver) : s.Arrives s :=
  ⟨[], by rw [List.append_nil]⟩

/-- Draining is one way to receive. -/
theorem receiving_of_draining {s s' : Receiver} {call : Call} {answer : Answer call}
    (drained : draining s call answer s') : receiving s call answer s' := by
  cases call with
  | sslReadEx ssl space =>
      cases answer with
      | none =>
          obtain ⟨_, rfl⟩ := drained
          exact .refl _
      | some got =>
          obtain ⟨front, rfl⟩ := drained
          refine ⟨[], s.buffer.drop space, ?_, rfl⟩
          rw [front, List.append_nil, List.take_append_drop]
  | sslGetBlockingMode ssl =>
      obtain ⟨mode, rfl⟩ := drained
      exact ⟨mode, .refl _⟩
  | sslSetBlockingMode ssl blocking =>
      obtain rfl : s' = _ := drained
      exact .refl _
  | _ =>
      obtain rfl : s' = s := drained
      exact .refl _

/-- A failed read with room to spare found nothing. -/
theorem nil_of_take_room {want : Nat} (buf : Stream.ReadBuffer want) {bytes : Bytes}
    (nothing : bytes.take (buf.cap - buf.bytes.length) = []) : bytes = [] := by
  have room := buf.room
  rcases List.take_eq_nil_iff.mp nothing with none | empty
  · omega
  · exact empty

/-- A buffer filled with what is wanted was as large as that. -/
theorem room_eq_wanted {want : Nat} (buf : Stream.ReadBuffer want)
    (got : {bytes : Bytes // 0 < bytes.length ∧ bytes.length ≤ buf.cap - buf.bytes.length})
    (wanted : want ≤ (buf.bytes ++ got.1).length) :
    buf.cap - buf.bytes.length = want - buf.bytes.length := by
  have bounded := buf.bounded
  have fits := got.2.2
  rw [List.length_append] at wanted
  omega

/-- What is wanted behind a full buffer is wanted behind its growth. -/
theorem wanted_eq_room_add {want : Nat} (buf : Stream.ReadBuffer want)
    (got : {bytes : Bytes // 0 < bytes.length ∧ bytes.length ≤ buf.cap - buf.bytes.length})
    (full : (buf.bytes ++ got.1).length = buf.cap) :
    want - buf.bytes.length =
      (buf.cap - buf.bytes.length) + (want - (buf.bytes ++ got.1).length) := by
  have room := buf.room
  have bounded := buf.bounded
  omega

/-- In non-blocking mode the loop goes on until it has what it wants or the buffer is empty. -/
theorem readLoop_drains (ssl : Ssl) (want : Nat) (buf : Stream.ReadBuffer want) (s : Receiver) :
    Always draining (Stream.readLoop ssl want false buf)
      (fun result _ => result.1 = buf.bytes ++ s.buffer.take (want - buf.bytes.length)) s := by
  apply always_readLoop
  · rintro buf s s' ⟨nothing, rfl⟩
    rw [nil_of_take_room buf nothing, List.take_nil, List.append_nil]
  · rintro buf s got _ ⟨front, rfl⟩ enough
    have wanted : want ≤ (buf.bytes ++ got.1).length := by simpa using enough
    rw [front, room_eq_wanted buf got wanted]
  · -- The read came short of the space: the buffer is empty now.
    rintro buf s got _ ⟨front, rfl⟩ enough full
    have room := buf.room
    have bounded := buf.bounded
    have taken := congrArg List.length front
    rw [List.length_take] at taken
    rw [List.length_append] at full
    have short : s.buffer.length ≤ buf.cap - buf.bytes.length := by omega
    have shorter : s.buffer.length ≤ want - buf.bytes.length := by omega
    rw [List.take_of_length_le short] at front
    rw [front, List.take_of_length_le shorter]
  · rintro buf s got _ ⟨front, rfl⟩ enough full result s' returned
    rw [wanted_eq_room_add buf got full, List.take_add, ← front, ← List.append_assoc]
    exact returned

/-- `read()` in non-blocking mode hands out everything available, up to the requested length. -/
theorem read_drains {obj : PhpQuicStream} {ssl : Ssl} (live : obj.ssl = some ssl) {length : Int}
    (positive : 0 < length) {s : Receiver} (polling : s.blocking = false) :
    Always draining (Stream.read obj length)
      (fun outcome _ => readBytes outcome = s.buffer.take length.toNat) s := by
  unfold Stream.read
  rw [dif_neg (by omega)]
  simp only [live]
  refine always_call_bind.mpr ?_
  rintro mode s₁ ⟨answered, same⟩
  have zero : mode = 0 := by
    by_contra nonzero
    rw [answered.mp nonzero] at polling
    cases polling
  subst zero
  rw [same]
  refine .bind (readLoop_drains ssl length.toNat _ s) ?_
  rintro ⟨bytes, rc⟩ s₂ returned
  have returned : bytes = s.buffer.take length.toNat := returned
  refine .ite (fun _ => .pure returned) fun empty => ?_
  intro outcome s' run
  rw [(endOfRead_empty _ rc).of_run run, ← returned]
  exact (List.eq_nil_of_length_eq_zero (by simpa using empty)).symm

/-! ### The law -/

/-- The results that stand for no data: `""`, null, an exception, 0 and -1. -/
def ReadEvent.Empty : ReadEvent → Prop
  | .read _ (.ok (some bytes)) => bytes = []
  | .opRead _ result => result.count ≤ 0
  | _ => True

theorem ReadEvent.bytes_of_empty {event : ReadEvent} (bounded : event.Bounded)
    (empty : event.Empty) : event.bytes = [] := by
  cases event with
  | read length outcome =>
      match outcome, empty with
      | .ok (some bytes), empty => exact empty
      | .ok none, _ => rfl
      | .error thrown, _ => rfl
  | opRead count result =>
      have nonpositive : result.count ≤ 0 := empty
      exact List.eq_nil_of_length_eq_zero (bounded.2.trans (by omega))
  | setBlocking conn blocking outcome => rfl
  | arrival bytes => rfl

/-- **Reading loses, duplicates and reorders nothing.** Over any run the results in order are the
bytes removed from the receive buffer, each no longer than was asked for; an event with an empty
result removed nothing; and in non-blocking mode, with an engine that hands out all it can, `read()`
returns all that is available up to the requested length. -/
theorem reading_exact (obj : PhpQuicStream) :
    (∀ s events s', Path (ReadStep obj) s events s' →
      s'.removed = s.removed ++ (events.map ReadEvent.bytes).flatten ∧
        ∀ event ∈ events, event.Bounded) ∧
    (∀ s event s', ReadStep obj s event s' → event.Empty → s'.removed = s.removed) ∧
    (∀ ssl length s outcome s', obj.ssl = some ssl → 0 < length → s.blocking = false →
      Run draining (Stream.read obj length) s outcome s' →
      (readBytes outcome).length = min length.toNat s.buffer.length) := by
  refine ⟨fun s events s' => path_removes, fun s event s' step empty => ?_, ?_⟩
  · rw [step.removes.1, ReadEvent.bytes_of_empty step.removes.2 empty, List.append_nil]
  · intro ssl length s outcome s' live positive polling run
    rw [read_drains live positive polling outcome s' run, List.length_take]

/-- An engine with no arrivals that hands out all it can. -/
def drainingHandler : Handler openssl Receiver := fun s call =>
  match call with
  | .sslReadEx _ space =>
    if some : 0 < (s.buffer.take space).length then
      (.some ⟨s.buffer.take space, some, List.length_take_le _ _⟩,
        { s with buffer := s.buffer.drop space, removed := s.removed ++ s.buffer.take space })
    else (none, s)
  | .sslGetBlockingMode _ => (if s.blocking then 1 else 0, s)
  | .sslSetBlockingMode _ blocking => (1, { s with blocking })
  | call => (succeeding call, s)

theorem drainingHandler_draining (s : Receiver) (call : Call) :
    draining s call (drainingHandler s call).1 (drainingHandler s call).2 := by
  cases call with
  | sslReadEx ssl space =>
      by_cases some : 0 < (s.buffer.take space).length
      · simp only [drainingHandler, some, dif_pos]
        exact ⟨rfl, rfl⟩
      · simp only [drainingHandler, some, dif_neg, not_false_eq_true]
        exact ⟨List.eq_nil_of_length_eq_zero (by omega), rfl⟩
  | sslGetBlockingMode ssl =>
      refine ⟨?_, rfl⟩
      cases blocking : s.blocking <;> simp [drainingHandler, blocking]
  | _ => exact rfl

/-- A stream, and three bytes waiting for it. -/
def pollingStream : PhpQuicStream := { quicStreamCreate with ssl := some 1 }

def waiting : Receiver := ⟨[1, 2, 3], [], false⟩

/-- Two bytes of three, once through the adapter and once through `read()`. -/
theorem reading_exact_example :
    (exec drainingHandler (quicStreamOpRead pollingStream 2) waiting).2.removed = [1, 2] ∧
      (readBytes (exec drainingHandler (Stream.read pollingStream 2) waiting).1).length = 2 := by
  obtain ⟨runs, _, drains⟩ := reading_exact pollingStream
  constructor
  · have ran := run_exec
      (fun s call => receiving_of_draining (drainingHandler_draining s call))
      (quicStreamOpRead pollingStream 2) waiting
    exact (runs _ _ _ (.single (.opRead ran))).1
  · exact drains 1 2 waiting _ _ rfl (by decide) rfl (run_exec drainingHandler_draining _ _)

end PhpQuic
