/-
**Closing a connection: when `close()` gets a CONNECTION_CLOSE sent.**

The engine of one connection is kept by `closing`: whether stream data is still unflushed, the
blocking mode, whether the connection is terminated, whether a CONNECTION_CLOSE was initiated, and
the calls of `SSL_shutdown_ex` so far. In non-blocking mode that call only initiates the close when
everything is flushed, and has to be made again otherwise.

* `Closing.Latched`: the invariant. `SSL_shutdown_ex` is called once at most; once `closed` is set,
  a CONNECTION_CLOSE was initiated exactly if that one call completed.
* `close_initiates_iff`: after a `close()` at a moment when the connection lives and all is flushed,
  a CONNECTION_CLOSE was initiated exactly when the first `close()` found the data flushed or the
  connection in blocking mode, and its `SSL_shutdown_ex` did not fail.
-/

import PhpQuic.Openssl.Environment
import PhpQuic.Source.Connection
import PhpQuic.Interact.Transition

namespace PhpQuic

open Interact

/-! ### The engine -/

/-- One call of `SSL_shutdown_ex`: what it found, and what it returned. -/
structure Shutdown where
  unflushed : Bool
  blocking : Bool
  rc : Int
  deriving DecidableEq

/-- The call did its work: it did not fail, and did not stop at unflushed data. -/
def Shutdown.Completes (call : Shutdown) : Prop :=
  0 ≤ call.rc ∧ (call.unflushed = false ∨ call.blocking = true)

/-- What matters of the engine of a connection. -/
structure CloseEngine where
  unflushed : Bool
  blocking : Bool
  terminated : Bool
  initiated : Bool
  shutdowns : List Shutdown
  deriving DecidableEq

/-- The engine did not close: data was written, flushed or acknowledged, the connection may have
come to an end in some other way. -/
structure CloseEngine.Idle (s s' : CloseEngine) : Prop where
  initiated : s'.initiated = s.initiated
  shutdowns : s'.shutdowns = s.shutdowns
  terminated : s.terminated = true → s'.terminated = true

/-- What `SSL_shutdown_ex` without `NO_STREAM_FLUSH` does. -/
def CloseEngine.shutsDown (s : CloseEngine) (rc : Int) (s' : CloseEngine) : Prop :=
  if s.terminated = true ∨ rc < 0 then s'.initiated = s.initiated
  else if s.unflushed = true ∧ s.blocking = false then rc = 0 ∧ s'.initiated = s.initiated
  -- A blocking flush may also end because the connection does.
  else s'.initiated = true ∨ s.unflushed = true ∧ s'.terminated = true

/-- What a call may do to the engine. -/
def closing (s : CloseEngine) : (call : Call) → Answer call → CloseEngine → Prop
  | .sslShutdownEx .., rc, s' => s.shutsDown rc s' ∧
      s'.shutdowns = s.shutdowns ++ [⟨s.unflushed, s.blocking, rc⟩] ∧
      (s.terminated = true → s'.terminated = true) ∧ s'.blocking = s.blocking
  | .sslSetBlockingMode _ blocking, rc, s' =>
      s.Idle s' ∧ s'.blocking = if rc = 0 then s.blocking else blocking
  | _, _, s' => s.Idle s' ∧ s'.blocking = s.blocking

/-- The calls that do not close. -/
def Call.IsOpen : Call → Prop
  | .sslShutdownEx .. => False
  | _ => True

theorem CloseEngine.Idle.refl (s : CloseEngine) : s.Idle s := ⟨rfl, rfl, id⟩

theorem CloseEngine.Idle.trans {s₁ s₂ s₃ : CloseEngine} (first : s₁.Idle s₂) (second : s₂.Idle s₃) :
    s₁.Idle s₃ :=
  ⟨second.initiated.trans first.initiated, second.shutdowns.trans first.shutdowns,
    second.terminated ∘ first.terminated⟩

theorem idle_of_open {α : Type} {p : Quic α} (calls : Only Call.IsOpen p) {s s' : CloseEngine}
    {value : α} (run : Run closing p s value s') : s.Idle s' := by
  refine run.frame calls CloseEngine.Idle.refl (fun _ _ _ => CloseEngine.Idle.trans)
    fun s call answer s' here moved => ?_
  cases call with
  | sslShutdownEx => exact here.elim
  | _ => exact moved.1

/-! ### Runs of operations on a connection -/

/-- The connection object and its engine. -/
structure Closing where
  obj : PhpQuicConnection
  engine : CloseEngine
  deriving DecidableEq

/-- One event at the connection. -/
inductive CloseEvent where
  | close (errorCode : Int) (reason : Bytes)
  | setBlocking (blocking : Bool)
  | write (stream : PhpQuicStream) (data : Buffer) (fin : Bool)
  | opWrite (stream : PhpQuicStream) (buf : Buffer)
  | endStream (stream : PhpQuicStream)
  | handleEvents
  /-- Acknowledgements arrive, a timer fires, the peer closes. -/
  | engine

/-- What the events do. -/
inductive CloseStep : Closing → CloseEvent → Closing → Prop
  | close {s : Closing} {errorCode : Int} {reason : Bytes} {obj : PhpQuicConnection}
      {engine : CloseEngine}
      (ran : Run closing (Connection.close s.obj errorCode reason) s.engine obj engine) :
      CloseStep s (.close errorCode reason) ⟨obj, engine⟩
  | setBlocking {s : Closing} {blocking : Bool} {outcome : Outcome Unit} {engine : CloseEngine}
      (ran : Run closing (Connection.setBlocking s.obj blocking) s.engine outcome engine) :
      CloseStep s (.setBlocking blocking) { s with engine }
  | write {s : Closing} {stream : PhpQuicStream} {data : Buffer} {fin : Bool}
      {outcome : Outcome Int} {engine : CloseEngine}
      (ran : Run closing (Stream.write stream data fin) s.engine outcome engine) :
      CloseStep s (.write stream data fin) { s with engine }
  | opWrite {s : Closing} {stream : PhpQuicStream} {buf : Buffer} {count : Int}
      {engine : CloseEngine} (ran : Run closing (quicStreamOpWrite stream buf) s.engine count engine) :
      CloseStep s (.opWrite stream buf) { s with engine }
  | endStream {s : Closing} {stream : PhpQuicStream} {outcome : Outcome Unit}
      {engine : CloseEngine} (ran : Run closing (Stream.endStream stream) s.engine outcome engine) :
      CloseStep s (.endStream stream) { s with engine }
  | handleEvents {s : Closing} {engine : CloseEngine}
      (ran : Run closing (Connection.handleEvents s.obj) s.engine () engine) :
      CloseStep s .handleEvents { s with engine }
  | engine {s : Closing} {engine : CloseEngine} (moved : s.engine.Idle engine)
      (mode : engine.blocking = s.engine.blocking) : CloseStep s .engine { s with engine }

/-- **The latch.** Until `closed` is set nothing was shut down. Afterwards one call was made, and
while the connection lives, a CONNECTION_CLOSE was initiated exactly if that call completed. -/
inductive Closing.Latched (s : Closing) : Prop
  | unlatched (flag : s.obj.closed = false) (shutdowns : s.engine.shutdowns = [])
      (initiated : s.engine.initiated = false)
  | latched (flag : s.obj.closed = true) (first : Shutdown)
      (shutdowns : s.engine.shutdowns = [first])
      (initiated : s.engine.terminated = false → (s.engine.initiated = true ↔ first.Completes))

/-- What holds of every state: the object is live, and the latch tells the truth. -/
structure Closing.Valid (s : Closing) : Prop where
  live : s.obj.ssl.isSome
  latch : s.Latched

/-! ### One event -/

/-- The two things `close()` can do on a live object. -/
theorem close_cases {obj obj' : PhpQuicConnection} (live : obj.ssl.isSome) {errorCode : Int}
    {reason : Bytes} {s s' : CloseEngine}
    (run : Run closing (Connection.close obj errorCode reason) s obj' s') :
    (obj.closed = true ∧ obj' = obj ∧ s' = s) ∨
      (obj.closed = false ∧ obj' = { obj with closed := true } ∧
        ∃ rc, s.shutsDown rc s' ∧ s'.shutdowns = s.shutdowns ++ [⟨s.unflushed, s.blocking, rc⟩] ∧
          (s.terminated = true → s'.terminated = true)) := by
  obtain ⟨ssl, owned⟩ := Option.isSome_iff_exists.mp live
  cases flag : obj.closed with
  | true =>
      simp only [Connection.close, owned, flag] at run
      obtain ⟨rfl, rfl⟩ := run_done_iff.mp run
      exact .inl ⟨rfl, rfl, rfl⟩
  | false =>
      simp only [Connection.close, owned, flag] at run
      obtain ⟨rc, s₁, ⟨shut, recorded, lasting, _⟩, rest⟩ := run_ask_iff.mp run
      obtain ⟨rfl, rfl⟩ := run_done_iff.mp rest
      exact .inr ⟨rfl, by rw [owned], rc, shut, recorded, lasting⟩

/-- A call on a living connection initiates the close exactly if it completes, unless the
connection ends while the call waits for a flush. -/
theorem initiated_iff_completes {s s' : CloseEngine} {rc : Int} (shut : s.shutsDown rc s')
    (fresh : s.initiated = false) (lives : s.terminated = false)
    (settled : s.unflushed = false ∨ s'.terminated = false) :
    s'.initiated = true ↔ Shutdown.Completes ⟨s.unflushed, s.blocking, rc⟩ := by
  unfold CloseEngine.shutsDown at shut
  unfold Shutdown.Completes
  split at shut
  · rename_i failed
    simp only [lives, Bool.false_eq_true, false_or] at failed
    simp only [shut, fresh, Bool.false_eq_true, false_iff]
    omega
  · rename_i answered
    simp only [lives, Bool.false_eq_true, false_or, Int.not_lt] at answered
    split at shut
    · rename_i waiting
      simp [shut.2, fresh, waiting.1, waiting.2]
    · rename_i flushes
      have initiated : s'.initiated = true := by
        refine shut.resolve_right fun ⟨waits, ended⟩ => ?_
        rcases settled with flushed | lives'
        · exact Bool.noConfusion (waits.symm.trans flushed)
        · exact Bool.noConfusion (ended.symm.trans lives')
      simp only [initiated, answered, true_and, true_iff]
      cases unflushed : s.unflushed with
      | false => exact .inl rfl
      | true =>
          refine .inr ?_
          cases blocking : s.blocking with
          | true => rfl
          | false => exact absurd ⟨unflushed, blocking⟩ flushes

/-- An event that does not close keeps the latch as it is. -/
theorem Closing.Latched.of_idle {s : Closing} {engine : CloseEngine} (latch : s.Latched)
    (idle : s.engine.Idle engine) : Closing.Latched { s with engine } := by
  cases latch with
  | unlatched flag shutdowns initiated =>
      exact .unlatched flag (idle.shutdowns.trans shutdowns) (idle.initiated.trans initiated)
  | latched flag first shutdowns initiated =>
      refine .latched flag first (idle.shutdowns.trans shutdowns) fun lives => ?_
      have livedBefore : s.engine.terminated = false := by
        by_contra ended
        rw [idle.terminated (by simpa using ended)] at lives
        cases lives
      show engine.initiated = true ↔ _
      rw [idle.initiated]
      exact initiated livedBefore

theorem throwing_open {α : Type} (format : Bytes) :
    Only Call.IsOpen (throwing (phpQuicThrowSsl format) : Quic (Outcome α)) := by
  refine .bind (.bind (.call trivial) fun err => ?_) fun _ => .pure _
  cases err with
  | none => exact .pure _
  | some entry => exact .bind (.call trivial) fun _ => .bind (.call trivial) fun _ => .pure _

theorem setBlocking_open (obj : PhpQuicConnection) (blocking : Bool) :
    Only Call.IsOpen (Connection.setBlocking obj blocking) := by
  unfold Connection.setBlocking setBlockingOf
  split
  · exact .pure _
  · exact .bind (.call trivial) fun _ => .ite (throwing_open _) (.pure _)

theorem write_open (stream : PhpQuicStream) (data : Buffer) (fin : Bool) :
    Only Call.IsOpen (Stream.write stream data fin) := by
  unfold Stream.write
  split
  · exact .pure _
  · exact .ite (.ite (.bind (.call trivial) fun _ => .ite (throwing_open _) (.pure _)) (.pure _)) <|
      .bind (.call trivial) fun ⟨rc, written⟩ =>
        .ite (.bind (.call trivial) fun _ => .ite (.pure _) (throwing_open _)) (.pure _)

theorem opWrite_open (stream : PhpQuicStream) (buf : Buffer) :
    Only Call.IsOpen (quicStreamOpWrite stream buf) := by
  unfold quicStreamOpWrite
  split
  · exact .pure _
  · exact .bind (.call trivial) fun ⟨rc, written⟩ => .ite (.pure _) <|
      .bind (.call trivial) fun _ => .ite (.pure _) (.pure _)

theorem endStream_open (stream : PhpQuicStream) : Only Call.IsOpen (Stream.endStream stream) := by
  unfold Stream.endStream
  split
  · exact .pure _
  · exact .bind (.call trivial) fun _ => .ite (throwing_open _) (.pure _)

theorem handleEvents_open (obj : PhpQuicConnection) :
    Only Call.IsOpen (Connection.handleEvents obj) := by
  unfold Connection.handleEvents handleEventsOf
  split
  · exact .pure _
  · exact .call trivial

/-- **One event** keeps the latch truthful. -/
theorem CloseStep.valid {s s' : Closing} {event : CloseEvent} (step : CloseStep s event s')
    (valid : s.Valid) : s'.Valid := by
  obtain ⟨live, latch⟩ := valid
  cases step with
  | setBlocking ran => exact ⟨live, latch.of_idle (idle_of_open (setBlocking_open _ _) ran)⟩
  | write ran => exact ⟨live, latch.of_idle (idle_of_open (write_open _ _ _) ran)⟩
  | opWrite ran => exact ⟨live, latch.of_idle (idle_of_open (opWrite_open _ _) ran)⟩
  | endStream ran => exact ⟨live, latch.of_idle (idle_of_open (endStream_open _) ran)⟩
  | handleEvents ran => exact ⟨live, latch.of_idle (idle_of_open (handleEvents_open _) ran)⟩
  | engine moved _ => exact ⟨live, latch.of_idle moved⟩
  | close ran =>
      rename_i errorCode reason obj engine
      rcases close_cases live ran with ⟨_, rfl, rfl⟩ | ⟨unlatched, rfl, rc, shut, recorded, lasting⟩
      · exact ⟨live, latch⟩
      · refine ⟨live, ?_⟩
        cases latch with
        | latched flag => exact absurd (flag.symm.trans unlatched) Bool.noConfusion
        | unlatched _ shutdowns initiated =>
            rw [shutdowns, List.nil_append] at recorded
            refine .latched rfl _ recorded fun lives' => ?_
            have lives : s.engine.terminated = false := by
              by_contra ended
              have ended' : engine.terminated = true := lasting (by simpa using ended)
              exact Bool.noConfusion (ended'.symm.trans lives')
            exact initiated_iff_completes shut initiated lives (.inr lives')

/-! ### `close()` -/

/-- A connection as the constructor or `accept()` leaves it: live, not closed, nothing shut down. -/
structure Closing.Fresh (s : Closing) : Prop where
  live : s.obj.ssl.isSome
  flag : s.obj.closed = false
  shutdowns : s.engine.shutdowns = []
  initiated : s.engine.initiated = false

theorem Closing.valid_of_path {start s : Closing} {events : List CloseEvent} (fresh : start.Fresh)
    (path : Path CloseStep start events s) : s.Valid :=
  path.invariant (fun _ _ _ valid step => step.valid valid)
    ⟨fresh.live, .unlatched fresh.flag fresh.shutdowns fresh.initiated⟩

/-- **After a `close()` at a moment when the connection lives and everything is flushed, a
CONNECTION_CLOSE was initiated exactly when the first `SSL_shutdown_ex` of the run completed**: when
it did not fail, and found the data flushed or the connection in blocking mode. -/
theorem close_initiates_iff {start s s' : Closing} {events : List CloseEvent} {errorCode : Int}
    {reason : Bytes} (fresh : start.Fresh) (path : Path CloseStep start events s)
    (closed : CloseStep s (.close errorCode reason) s') (lives : s.engine.terminated = false)
    (flushed : s.engine.unflushed = false) :
    s'.engine.initiated = true ↔
      ∃ first, s'.engine.shutdowns.head? = some first ∧ first.Completes := by
  obtain ⟨live, latch⟩ := Closing.valid_of_path fresh path
  obtain ⟨ran⟩ := closed
  rename_i obj engine
  show engine.initiated = true ↔ ∃ first, engine.shutdowns.head? = some first ∧ first.Completes
  rcases close_cases live ran with ⟨latched, _, rfl⟩ | ⟨unlatched, _, rc, shut, recorded, _⟩
  · cases latch with
    | unlatched flag => exact absurd (flag.symm.trans latched) Bool.noConfusion
    | latched _ first shutdowns initiated =>
        rw [shutdowns]
        simp only [List.head?_cons, Option.some.injEq, exists_eq_left']
        exact initiated lives
  · cases latch with
    | latched flag => exact absurd (flag.symm.trans unlatched) Bool.noConfusion
    | unlatched _ shutdowns initiated =>
        rw [recorded, shutdowns]
        simp only [List.nil_append, List.head?_cons, Option.some.injEq, exists_eq_left']
        exact initiated_iff_completes shut initiated lives (.inl flushed)

/-! ### A close that is sent, and one that never is -/

/-- An engine that flushes nothing by itself; every call but `SSL_shutdown_ex` works. -/
def stallingHandler : Handler openssl CloseEngine := fun s call =>
  match call with
  | .sslShutdownEx .. =>
    let rc : Int := if s.unflushed = true ∧ s.blocking = false then 0 else 1
    (rc, { s with
      initiated := s.initiated || !(s.terminated || s.unflushed && !s.blocking)
      shutdowns := s.shutdowns ++ [⟨s.unflushed, s.blocking, rc⟩] })
  | .sslSetBlockingMode _ blocking => (1, { s with blocking })
  | .sslWriteEx2 _ buf _ => ((1, buf.bytes.length), { s with unflushed := true })
  | call => (succeeding call, s)

theorem stallingHandler_allowed (s : CloseEngine) (call : Call) :
    closing s call (stallingHandler s call).1 (stallingHandler s call).2 := by
  cases call with
  | sslShutdownEx ssl errorCode reason =>
      refine ⟨?_, rfl, id, rfl⟩
      obtain ⟨unflushed, blocking, terminated, initiated, shutdowns⟩ := s
      cases unflushed <;> cases blocking <;> cases terminated <;>
        simp [CloseEngine.shutsDown, stallingHandler]
  | sslSetBlockingMode ssl blocking => exact ⟨⟨rfl, rfl, id⟩, rfl⟩
  | sslWriteEx2 ssl buf conclude => exact ⟨⟨rfl, rfl, id⟩, rfl⟩
  | _ => exact ⟨.refl s, rfl⟩

/-- A new connection, in blocking mode, with nothing written. -/
def newlyOpen : Closing :=
  ⟨{ quicConnectionCreate with ssl := some 1 }, ⟨false, true, false, false, []⟩⟩

theorem newlyOpen_fresh : newlyOpen.Fresh := ⟨rfl, rfl, rfl, rfl⟩

/-- `close()`, run on that engine. -/
def stallingClose (s : Closing) : Closing :=
  ⟨(exec stallingHandler (Connection.close s.obj 0 []) s.engine).1,
    (exec stallingHandler (Connection.close s.obj 0 []) s.engine).2⟩

theorem stallingClose_step (s : Closing) : CloseStep s (.close 0 []) (stallingClose s) :=
  .close (run_exec stallingHandler_allowed _ _)

/-- A single `close()` is sent. -/
theorem close_initiates_example : (stallingClose newlyOpen).engine.initiated = true :=
  (close_initiates_iff newlyOpen_fresh (.nil _) (stallingClose_step _) rfl rfl).mpr
    ⟨_, rfl, by decide, .inl rfl⟩

/-- After `$connection->setBlocking(false)`. -/
def nonBlocking : Closing :=
  { newlyOpen with
    engine := (exec stallingHandler (Connection.setBlocking newlyOpen.obj false)
      newlyOpen.engine).2 }

def someStream : PhpQuicStream := { quicStreamCreate with ssl := some 2 }

/-- After `$stream->write('a')` as well. -/
def written : Closing :=
  { nonBlocking with
    engine := (exec stallingHandler (Stream.write someStream ⟨0, text "a"⟩ false)
      nonBlocking.engine).2 }

/-- After a first `close()`, and with the data acknowledged. -/
def flushedLater : Closing :=
  { stallingClose written with engine := { (stallingClose written).engine with unflushed := false } }

/-- **The second `close()` finds everything flushed and the connection alive, and does nothing**: no
CONNECTION_CLOSE is ever initiated. -/
theorem close_never_initiates : ∃ events, Path CloseStep newlyOpen events flushedLater ∧
    CloseStep flushedLater (.close 0 []) (stallingClose flushedLater) ∧
    flushedLater.engine.terminated = false ∧ flushedLater.engine.unflushed = false ∧
    (stallingClose flushedLater).engine.initiated = false := by
  have polls : CloseStep newlyOpen (.setBlocking false) nonBlocking :=
    .setBlocking (run_exec stallingHandler_allowed _ _)
  have writes : CloseStep nonBlocking (.write someStream ⟨0, text "a"⟩ false) written :=
    .write (run_exec stallingHandler_allowed _ _)
  have flushes : CloseStep (stallingClose written) .engine flushedLater :=
    .engine ⟨rfl, rfl, id⟩ rfl
  exact ⟨_, .cons polls (.cons writes (.cons (stallingClose_step written) (.single flushes))),
    stallingClose_step _, rfl, rfl, rfl⟩

end PhpQuic
