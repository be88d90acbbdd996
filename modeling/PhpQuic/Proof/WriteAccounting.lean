/-
**Write accounting: what the calls say was written, and what entered the stream.**

Of the engine only the send side of one stream is seen (`SendSide`): the bytes that entered it, the
FIN, and a write the engine is in the middle of. Without `SSL_MODE_ENABLE_PARTIAL_WRITE` and
`SSL_MODE_ACCEPT_MOVING_WRITE_BUFFER` a non-blocking write that finds too little space appends what
fits, reports nothing as written, and wants the same buffer again; a blocking write may break off
when the connection ends. That is all that is assumed (`WritesAsDocumented`).

* `SendSide.Writes.wrote`: the three things `SSL_write_ex2` can do to a send side with no write in
  progress.
* `Writing.Exact`: the bytes entered are those the calls returned, and the FIN stands behind them.
* `WriteStep.exact_iff`: a step keeps the accounting exactly if it found room for all or nothing.
* `write_accounting_iff`: so does a run of such steps.
-/

import PhpQuic.Openssl.Environment
import PhpQuic.Interact.Transition
import PhpQuic.Proof.Calls

namespace PhpQuic

open Interact

/-! ### The send side -/

/-- A write in progress: its buffer, and how much of it has entered the stream. -/
structure AonWrite where
  base : Nat
  length : Nat
  pos : Nat
  deriving DecidableEq

/-- What is seen of the send side of a stream. -/
structure SendSide where
  /-- Every byte that ever entered it. -/
  sent : Bytes
  /-- The final size, once a FIN was placed. -/
  fin : Option Nat
  aon : Option AonWrite
  blocking : Bool
  /-- How many bytes a write can append: now, or in blocking mode before it breaks off. -/
  room : Nat
  /-- The engine takes nothing: the handshake is not done, the stream was reset, the connection has
  ended, or there is no memory. -/
  refused : Bool
  deriving DecidableEq

namespace SendSide

/-- The bytes, the FIN and the write in progress are as before. -/
structure Keeps (s s' : SendSide) : Prop where
  sent : s'.sent = s.sent
  fin : s'.fin = s.fin
  aon : s'.aon = s.aon

/-- A FIN was placed, behind everything that had entered. -/
structure Concludes (s s' : SendSide) : Prop where
  before : s.fin = none
  fin : s'.fin = some s.sent.length
  sent : s'.sent = s.sent
  aon : s'.aon = s.aon

/-- Where in its buffer a write starts: a non-blocking one goes on with the write in progress, and
has to repeat its buffer and length. -/
def start (s : SendSide) (buf : Buffer) : Option Nat :=
  if s.blocking = true then some 0
  else match s.aon with
    | none => some 0
    | some aon =>
      if aon.base = buf.address ∧ aon.length = buf.bytes.length then some aon.pos else none

/-- The write in progress after `room` bytes from `pos` on were appended, and more are left. A new
one begins only if anything was appended at all. -/
def interrupted (s : SendSide) (buf : Buffer) (pos : Nat) : Option AonWrite :=
  if s.blocking = true ∨ s.room = 0 then s.aon
  else some ⟨buf.address, buf.bytes.length, pos + s.room⟩

/-- **What `SSL_write_ex2` does with a buffer that is not empty.** -/
inductive Writes (s : SendSide) (buf : Buffer) (conclude : Bool) : Int × Nat → SendSide → Prop
  /-- Nothing is taken up. -/
  | refuses {s' : SendSide} (shut : s.refused = true ∨ s.fin.isSome ∨ s.start buf = none)
      (same : s.Keeps s') : Writes s buf conclude (0, 0) s'
  /-- Everything that was left of the buffer is appended. -/
  | completes {s' : SendSide} {pos : Nat} (live : s.refused = false) (before : s.fin = none)
      (starts : s.start buf = some pos) (all : (buf.bytes.drop pos).length ≤ s.room)
      (sent : s'.sent = s.sent ++ buf.bytes.drop pos)
      (fin : s'.fin = if conclude = true then some s'.sent.length else none)
      (aon : s'.aon = if s.blocking = true then s.aon else none) :
      Writes s buf conclude (1, buf.bytes.length) s'
  /-- A part of it is appended, as far as there is room. -/
  | breaks {s' : SendSide} {pos : Nat} (live : s.refused = false) (before : s.fin = none)
      (starts : s.start buf = some pos) (short : ¬ (buf.bytes.drop pos).length ≤ s.room)
      (sent : s'.sent = s.sent ++ (buf.bytes.drop pos).take s.room) (fin : s'.fin = none)
      (aon : s'.aon = s.interrupted buf pos) : Writes s buf conclude (0, 0) s'

variable {s s₁ s₂ s₃ : SendSide}

theorem Keeps.refl (s : SendSide) : s.Keeps s := ⟨rfl, rfl, rfl⟩

theorem Keeps.trans (first : s₁.Keeps s₂) (second : s₂.Keeps s₃) : s₁.Keeps s₃ :=
  ⟨second.sent.trans first.sent, second.fin.trans first.fin, second.aon.trans first.aon⟩

end SendSide

/-- The calls that write to a stream. -/
def Call.WritesTo (ssl : Ssl) : Call → Prop
  | .sslWriteEx2 handle .. | .sslStreamConclude handle => handle = ssl
  | _ => False

/-- **The engine writes as documented**, seen through `side`. An empty buffer appends nothing, and a
conclude fails once a FIN is placed. -/
structure WritesAsDocumented {S : Type} (B : Behaviour openssl S) (ssl : Ssl)
    (side : S → SendSide) : Prop where
  write : ∀ {s s' : S} {buf : Buffer} {conclude : Bool} {answer : Int × Nat},
    buf.bytes.length ≠ 0 → B s (.sslWriteEx2 ssl buf conclude) answer s' →
      (side s).Writes buf conclude answer (side s')
  empty : ∀ {s s' : S} {buf : Buffer} {conclude : Bool} {answer : Int × Nat},
    buf.bytes.length = 0 → B s (.sslWriteEx2 ssl buf conclude) answer s' →
      (side s).Keeps (side s') ∨ conclude = true ∧ (side s).Concludes (side s')
  conclude : ∀ {s s' : S} {rc : Int}, B s (.sslStreamConclude ssl) rc s' →
    rc = 0 ∧ (side s).Keeps (side s') ∨ rc ≠ 0 ∧ (side s).Concludes (side s')
  other : ∀ {s s' : S} {call : Call} {answer : Answer call}, ¬ call.WritesTo ssl →
    B s call answer s' → (side s).Keeps (side s')

/-! ### One `SSL_write_ex2` -/

namespace SendSide

/-- **There is room for the whole buffer, or none at all**; or the engine takes nothing anyway. -/
def HasRoom (s : SendSide) (buf : Buffer) : Prop :=
  s.refused = false → s.fin = none → buf.bytes.length ≤ s.room ∨ s.room = 0

/-- What became of a buffer, where no write was in progress. -/
inductive Wrote (s : SendSide) (buf : Buffer) (conclude : Bool) : Int × Nat → SendSide → Prop
  /-- Nothing of it entered. -/
  | kept {s' : SendSide} (room : s.HasRoom buf) (same : s.Keeps s') :
      Wrote s buf conclude (0, 0) s'
  /-- All of it entered. -/
  | complete {s' : SendSide} (room : s.HasRoom buf) (before : s.fin = none)
      (sent : s'.sent = s.sent ++ buf.bytes)
      (fin : s'.fin = if conclude = true then some s'.sent.length else none)
      (aon : s'.aon = none) : Wrote s buf conclude (1, buf.bytes.length) s'
  /-- A part of it entered, and the answer does not say so. -/
  | broke {s' : SendSide} {part : Bytes} (short : ¬ s.HasRoom buf) (some : part ≠ [])
      (sent : s'.sent = s.sent ++ part) : Wrote s buf conclude (0, 0) s'

variable {s s' : SendSide} {buf : Buffer} {conclude : Bool} {answer : Int × Nat}

theorem hasRoom_of_empty (empty : buf.bytes.length = 0) : s.HasRoom buf :=
  fun _ _ => .inl (by omega)

theorem start_of_idle (idle : s.aon = none) (buf : Buffer) : s.start buf = some 0 := by
  unfold start
  rw [idle, ite_self]

/-- Where the room ends inside the buffer, a part of it enters. -/
theorem take_room_ne_nil (filled : buf.bytes.length ≠ 0) (room : s.room ≠ 0) :
    buf.bytes.take s.room ≠ [] := by
  rw [ne_eq, List.take_eq_nil_iff, not_or]
  exact ⟨room, fun empty => filled (List.length_eq_zero_iff.mpr empty)⟩

theorem Wrote.of_keeps {s₁ : SendSide} (wrote : s.Wrote buf conclude answer s₁)
    (keeps : s₁.Keeps s') : s.Wrote buf conclude answer s' := by
  cases wrote with
  | kept room same => exact .kept room (same.trans keeps)
  | complete room before sent fin aon =>
      refine .complete room before (keeps.sent.trans sent) ?_ (keeps.aon.trans aon)
      rw [keeps.fin, fin, keeps.sent]
  | broke short some sent => exact .broke short some (keeps.sent.trans sent)

/-- **A write that finds none in progress.** -/
theorem Writes.wrote (writes : s.Writes buf conclude answer s') (idle : s.aon = none)
    (filled : buf.bytes.length ≠ 0) : s.Wrote buf conclude answer s' := by
  have front := start_of_idle idle buf
  cases writes with
  | refuses shut same =>
      refine .kept (fun live before => ?_) same
      rcases shut with refused | concluded | mismatched
      · rw [live] at refused
        cases refused
      · rw [before] at concluded
        cases concluded
      · rw [front] at mismatched
        cases mismatched
  | completes live before starts all sent fin aon =>
      obtain rfl : 0 = _ := Option.some.inj (front.symm.trans starts)
      rw [List.drop_zero] at all sent
      rw [idle, ite_self] at aon
      exact .complete (fun _ _ => .inl all) before sent fin aon
  | breaks live before starts short sent fin aon =>
      obtain rfl : 0 = _ := Option.some.inj (front.symm.trans starts)
      rw [List.drop_zero] at short sent
      by_cases none : s.room = 0
      · rw [none, List.take_zero, List.append_nil] at sent
        refine .kept (fun _ _ => .inr none) ⟨sent, fin.trans before.symm, ?_⟩
        rw [aon, interrupted, if_pos (.inr none)]
      · refine .broke (fun has => ?_) (take_room_ne_nil filled none) sent
        rcases has live before with all | nothing
        · exact short all
        · exact none nothing

end SendSide

/-! ### Runs -/

/-- One event at the stream, with its result. -/
inductive WriteEvent where
  | write (data : Buffer) (fin : Bool) (outcome : Outcome Int)
  | opWrite (buf : Buffer) (count : Int)
  | endStream (outcome : Outcome Unit)
  | reset (errorCode : Int) (outcome : Outcome Unit)
  /-- Anything else: acknowledgements make room, the mode changes, the connection ends. -/
  | other

/-- The bytes an event says it wrote: as many as it returned. -/
def WriteEvent.bytes : WriteEvent → Bytes
  | .write data _ (.ok written) => data.bytes.take written.toNat
  | .opWrite buf count => buf.bytes.take count.toNat
  | _ => []

/-- An event says it concluded the stream: a fin write returned its full length, or `end()`
succeeded. -/
def WriteEvent.concludes : WriteEvent → Bool
  | .write data fin (.ok written) => fin && written = data.bytes.length
  | .endStream (.ok ()) => true
  | _ => false

/-- The engine, the bytes the calls returned so far, in order, and whether one concluded. -/
structure Writing (S : Type) where
  engine : S
  accounted : Bytes
  concluded : Bool
  deriving DecidableEq

/-- What an event leaves. -/
def Writing.after {S : Type} (s : Writing S) (event : WriteEvent) (engine : S) : Writing S :=
  ⟨engine, s.accounted ++ event.bytes, s.concluded || event.concludes⟩

/-- What the events do. -/
inductive WriteStep {S : Type} (B : Behaviour openssl S) (side : S → SendSide)
    (obj : PhpQuicStream) : Writing S → WriteEvent → Writing S → Prop
  | write {s : Writing S} {data : Buffer} {fin : Bool} {outcome : Outcome Int} {engine : S}
      (ran : Run B (Stream.write obj data fin) s.engine outcome engine) :
      WriteStep B side obj s (.write data fin outcome) (s.after (.write data fin outcome) engine)
  | opWrite {s : Writing S} {buf : Buffer} {count : Int} {engine : S}
      (ran : Run B (quicStreamOpWrite obj buf) s.engine count engine) :
      WriteStep B side obj s (.opWrite buf count) (s.after (.opWrite buf count) engine)
  | endStream {s : Writing S} {outcome : Outcome Unit} {engine : S}
      (ran : Run B (Stream.endStream obj) s.engine outcome engine) :
      WriteStep B side obj s (.endStream outcome) (s.after (.endStream outcome) engine)
  | reset {s : Writing S} {errorCode : Int} {outcome : Outcome Unit} {engine : S}
      (ran : Run B (Stream.reset obj errorCode) s.engine outcome engine) :
      WriteStep B side obj s (.reset errorCode outcome) (s.after (.reset errorCode outcome) engine)
  | other {s : Writing S} {engine : S} (kept : (side s.engine).Keeps (side engine)) :
      WriteStep B side obj s .other (s.after .other engine)

section Accounting

variable {S : Type} {B : Behaviour openssl S} {ssl : Ssl} {side : S → SendSide}
  {obj : PhpQuicStream}

/-- **The accounting is exact**: the bytes that entered the stream are those the calls returned, and
a FIN stands right behind them exactly if a call concluded. -/
structure Writing.Exact (side : S → SendSide) (s : Writing S) : Prop where
  sent : (side s.engine).sent = s.accounted
  fin : (side s.engine).fin = if s.concluded = true then some s.accounted.length else none

/-- The invariant of a run in which every buffer fits. -/
structure Writing.Valid (side : S → SendSide) (s : Writing S) : Prop where
  exact : s.Exact side
  idle : (side s.engine).aon = none

/-- The buffer of an event meets room for all of it or for nothing. -/
def WriteEvent.Fits (side : S → SendSide) (s : Writing S) : WriteEvent → Prop
  | .write data _ _ => (side s.engine).HasRoom data
  | .opWrite buf _ => (side s.engine).HasRoom buf
  | _ => True

/-! ### What one event tells PHP -/

/-- What the caller of `SSL_write_ex2` tells PHP: a success is the whole buffer, a failure nothing. -/
structure WriteEvent.Tells (event : WriteEvent) (buf : Buffer) (conclude : Bool)
    (answer : Int × Nat) : Prop where
  complete : answer = (1, buf.bytes.length) → event.bytes = buf.bytes ∧ event.concludes = conclude
  failed : answer = (0, 0) → event.bytes = [] ∧ event.concludes = false

/-- An event that tells of nothing, and did nothing. -/
theorem Writing.Valid.of_keeps {s : Writing S} (valid : s.Valid side) {event : WriteEvent}
    (bytes : event.bytes = []) (silent : event.concludes = false) {engine : S}
    (keeps : (side s.engine).Keeps (side engine)) : (s.after event engine).Valid side := by
  unfold Writing.after
  rw [bytes, silent, List.append_nil, Bool.or_false]
  exact ⟨⟨keeps.sent.trans valid.exact.sent, keeps.fin.trans valid.exact.fin⟩,
    keeps.aon.trans valid.idle⟩

/-- Where no FIN is placed no call has concluded. -/
theorem Writing.Exact.not_concluded {s : Writing S} (exact : s.Exact side)
    (before : (side s.engine).fin = none) : s.concluded = false := by
  have placed := before.symm.trans exact.fin
  cases flag : s.concluded with
  | false => rfl
  | true =>
      rw [if_pos flag] at placed
      cases placed

/-- An event that placed a FIN, and says so. -/
theorem Writing.Valid.of_concludes {s : Writing S} (valid : s.Valid side) {event : WriteEvent}
    (bytes : event.bytes = []) (told : event.concludes = true) {engine : S}
    (concludes : (side s.engine).Concludes (side engine)) : (s.after event engine).Valid side := by
  unfold Writing.after
  rw [bytes, told, List.append_nil, Bool.or_true]
  refine ⟨⟨concludes.sent.trans valid.exact.sent, ?_⟩, concludes.aon.trans valid.idle⟩
  show (side engine).fin = some s.accounted.length
  rw [concludes.fin, valid.exact.sent]

/-- **A buffer handed to `SSL_write_ex2`** leaves the accounting exact exactly if it met room for
all of it or for nothing, and then leaves no write in progress. -/
theorem Writing.Valid.wrote_iff {s : Writing S} (valid : s.Valid side) {event : WriteEvent}
    {buf : Buffer} {conclude : Bool} {answer : Int × Nat} {engine : S}
    (tells : event.Tells buf conclude answer)
    (wrote : (side s.engine).Wrote buf conclude answer (side engine)) :
    ((s.after event engine).Exact side ↔ (side s.engine).HasRoom buf) ∧
      ((side s.engine).HasRoom buf → (s.after event engine).Valid side) := by
  cases wrote with
  | kept room same =>
      obtain ⟨bytes, silent⟩ := tells.failed rfl
      have after : (s.after event engine).Valid side := valid.of_keeps bytes silent same
      exact ⟨⟨fun _ => room, fun _ => after.exact⟩, fun _ => after⟩
  | complete room before sent fin aon =>
      obtain ⟨bytes, concludes⟩ := tells.complete rfl
      have after : (s.after event engine).Valid side := by
        have all : (side engine).sent = s.accounted ++ buf.bytes := by
          rw [sent, valid.exact.sent]
        unfold Writing.after
        rw [bytes, concludes, valid.exact.not_concluded before, Bool.false_or]
        refine ⟨⟨all, ?_⟩, aon⟩
        show (side engine).fin =
          if conclude = true then some (s.accounted ++ buf.bytes).length else none
        rw [fin, all]
      exact ⟨⟨fun _ => room, fun _ => after.exact⟩, fun _ => after⟩
  | broke short some sent =>
      obtain ⟨bytes, _⟩ := tells.failed rfl
      refine ⟨⟨fun after => ?_, fun has => absurd has short⟩, fun has => absurd has short⟩
      have more : (side engine).sent = s.accounted ++ event.bytes := after.sent
      rw [sent, bytes, List.append_nil, valid.exact.sent] at more
      exact absurd (List.append_right_eq_self.mp more) some

/-! ### The functions -/

/-- A program that writes nothing keeps what is seen. -/
theorem WritesAsDocumented.keeps (documented : WritesAsDocumented B ssl side) {α : Type}
    {p : Quic α} (only : Only (fun call : Call => ¬ call.WritesTo ssl) p) {s s' : S} {value : α}
    (run : Run B p s value s') : (side s).Keeps (side s') :=
  run.frame (R := fun s s' => (side s).Keeps (side s')) only (fun _ => .refl _)
    (fun _ _ _ => .trans) fun _ _ _ _ => documented.other

theorem Call.not_writesTo_of_throw (ssl : Ssl) (call : Call) (throws : call.IsThrow) :
    ¬ call.WritesTo ssl := by
  cases call <;> first | exact throws.elim | exact id

/-- Raising an exception tells of nothing and keeps what is seen. -/
theorem WritesAsDocumented.throwing (documented : WritesAsDocumented B ssl side) {α : Type}
    {format : Bytes} {s s' : S} {outcome : Outcome α}
    (run : Run B (throwing (phpQuicThrowSsl format)) s outcome s') :
    (side s).Keeps (side s') ∧ ∃ thrown, outcome = .error thrown := by
  refine ⟨documented.keeps ((throwing_calls (phpQuicThrowSsl_calls format)).mono
    (Call.not_writesTo_of_throw ssl)) run, ?_⟩
  obtain ⟨thrown, _, _, rest⟩ := run_bind_iff.mp run
  exact ⟨thrown, (run_done_iff.mp rest).1⟩

/-- The adapter tells PHP how many bytes the engine took. -/
theorem opWrite_tells (owned : obj.ssl = some ssl) (documented : WritesAsDocumented B ssl side)
    {buf : Buffer} {s s' : S} {count : Int} (run : Run B (quicStreamOpWrite obj buf) s count s') :
    ∃ answer s₁, B s (.sslWriteEx2 ssl buf false) answer s₁ ∧ (side s₁).Keeps (side s') ∧
      (WriteEvent.opWrite buf count).Tells buf false answer := by
  simp only [quicStreamOpWrite, owned] at run
  obtain ⟨answer, s₁, written, rest⟩ := run_call_bind_iff.mp run
  refine ⟨answer, s₁, written, ?_⟩
  by_cases done : answer.1 = 1
  · rw [if_pos done] at rest
    obtain ⟨rfl, rfl⟩ := run_done_iff.mp rest
    refine ⟨.refl _, fun complete => ⟨?_, rfl⟩, fun failed => ?_⟩
    · show buf.bytes.take (answer.2 : Int).toNat = buf.bytes
      rw [complete, Int.toNat_natCast, List.take_length]
    · rw [failed] at done
      cases done
  · rw [if_neg done] at rest
    obtain ⟨err, s₂, asked, result⟩ := run_call_bind_iff.mp rest
    have nothing : count.toNat = 0 ∧ s' = s₂ := by
      split at result
      · obtain ⟨rfl, rfl⟩ := run_done_iff.mp result
        exact ⟨rfl, rfl⟩
      · obtain ⟨rfl, rfl⟩ := run_done_iff.mp result
        exact ⟨rfl, rfl⟩
    rw [nothing.2]
    refine ⟨documented.other id asked, fun complete => ?_, fun _ => ⟨?_, rfl⟩⟩
    · exact absurd (congrArg Prod.fst complete) done
    · show buf.bytes.take count.toNat = []
      rw [nothing.1, List.take_zero]

/-- `write()` with data tells PHP how many bytes the engine took. -/
theorem write_tells (owned : obj.ssl = some ssl) (documented : WritesAsDocumented B ssl side)
    {data : Buffer} (filled : ¬ data.bytes.length = 0) {fin : Bool} {s s' : S}
    {outcome : Outcome Int} (run : Run B (Stream.write obj data fin) s outcome s') :
    ∃ answer s₁, B s (.sslWriteEx2 ssl data fin) answer s₁ ∧ (side s₁).Keeps (side s') ∧
      (WriteEvent.write data fin outcome).Tells data fin answer := by
  simp only [Stream.write, owned] at run
  rw [if_neg filled] at run
  obtain ⟨answer, s₁, written, rest⟩ := run_call_bind_iff.mp run
  refine ⟨answer, s₁, written, ?_⟩
  by_cases failed : answer.1 = 0
  · rw [if_pos failed] at rest
    obtain ⟨err, s₂, asked, result⟩ := run_call_bind_iff.mp rest
    have same : (side s₁).Keeps (side s₂) := documented.other id asked
    have incomplete : ¬ answer = (1, data.bytes.length) := by
      rintro rfl
      cases failed
    have told : (side s₂).Keeps (side s') ∧
        (outcome = .ok answer.2 ∨ ∃ thrown, outcome = .error thrown) := by
      split at result
      · obtain ⟨rfl, rfl⟩ := run_done_iff.mp result
        exact ⟨.refl _, .inl rfl⟩
      · obtain ⟨keeps, thrown⟩ := documented.throwing result
        exact ⟨keeps, .inr thrown⟩
    refine ⟨same.trans told.1, fun complete => absurd complete incomplete, fun nothing => ?_⟩
    rcases told.2 with rfl | ⟨thrown, rfl⟩
    · rw [nothing]
      refine ⟨(rfl : data.bytes.take 0 = []), ?_⟩
      show (fin && decide (((0 : Nat) : Int) = data.bytes.length)) = false
      rw [decide_eq_false (by omega), Bool.and_false]
    · exact ⟨rfl, rfl⟩
  · rw [if_neg failed] at rest
    obtain ⟨rfl, rfl⟩ := run_done_iff.mp rest
    refine ⟨.refl _, fun complete => ?_, fun nothing => absurd (congrArg Prod.fst nothing) failed⟩
    rw [complete]
    refine ⟨?_, ?_⟩
    · show data.bytes.take (data.bytes.length : Int).toNat = data.bytes
      rw [Int.toNat_natCast, List.take_length]
    · show (fin && decide (((data.bytes.length : Nat) : Int) = data.bytes.length)) = fin
      rw [decide_eq_true rfl, Bool.and_true]

/-- What a conclude makes of the send side: the FIN is placed, or nothing happens and the caller
throws. -/
theorem conclude_runs (documented : WritesAsDocumented B ssl side) {α : Type} {format : Bytes}
    {value : α} {s s' : S} {outcome : Outcome α}
    (run : Run B (do
      if (← ask (.sslStreamConclude ssl)) = 0 then throwing (phpQuicThrowSsl format)
      else return .ok value) s outcome s') :
    outcome = .ok value ∧ (side s).Concludes (side s') ∨
      (∃ thrown, outcome = .error thrown) ∧ (side s).Keeps (side s') := by
  obtain ⟨rc, s₁, answered, rest⟩ := run_call_bind_iff.mp run
  rcases documented.conclude answered with ⟨rfl, keeps⟩ | ⟨done, concludes⟩
  · rw [if_pos rfl] at rest
    obtain ⟨same, thrown⟩ := documented.throwing rest
    exact .inr ⟨thrown, keeps.trans same⟩
  · rw [if_neg done] at rest
    obtain ⟨rfl, rfl⟩ := run_done_iff.mp rest
    exact .inl ⟨rfl, concludes⟩

/-- `write()` without data is a conclude, or nothing at all. -/
theorem Writing.Valid.write_empty (owned : obj.ssl = some ssl)
    (documented : WritesAsDocumented B ssl side) {s : Writing S} (valid : s.Valid side)
    {data : Buffer} (empty : data.bytes.length = 0) {fin : Bool} {outcome : Outcome Int}
    {engine : S} (run : Run B (Stream.write obj data fin) s.engine outcome engine) :
    (s.after (.write data fin outcome) engine).Valid side := by
  simp only [Stream.write, owned] at run
  rw [if_pos empty] at run
  cases fin with
  | false =>
      obtain ⟨rfl, rfl⟩ := run_done_iff.mp run
      exact valid.of_keeps rfl rfl (.refl _)
  | true =>
      rw [if_pos rfl] at run
      rcases conclude_runs documented run with ⟨rfl, concludes⟩ | ⟨⟨thrown, rfl⟩, keeps⟩
      · refine valid.of_concludes rfl ?_ concludes
        show (true && decide ((0 : Int) = data.bytes.length)) = true
        rw [empty]
        rfl
      · exact valid.of_keeps rfl rfl keeps

/-- `reset()` writes nothing. -/
theorem reset_writes_nothing (ssl : Ssl) (obj : PhpQuicStream) (errorCode : Int) :
    Only (fun call : Call => ¬ call.WritesTo ssl) (Stream.reset obj errorCode) := by
  unfold Stream.reset
  split
  · exact .pure _
  · exact .bind (.call id) fun _ => .ite ((throwing_calls (phpQuicThrowSsl_calls _)).mono
      (Call.not_writesTo_of_throw ssl)) (.pure _)

/-! ### One event -/

/-- **One event** keeps the accounting exact exactly if its buffer met room for all of it or for
nothing, and then no write is in progress. -/
theorem WriteStep.exact_iff (owned : obj.ssl = some ssl)
    (documented : WritesAsDocumented B ssl side) {s s' : Writing S} {event : WriteEvent}
    (step : WriteStep B side obj s event s') (valid : s.Valid side) :
    (s'.Exact side ↔ event.Fits side s) ∧ (event.Fits side s → s'.Valid side) := by
  -- An event without a buffer fits, and keeps the invariant.
  have always {event : WriteEvent} {engine : S} (fits : event.Fits side s)
      (after : (s.after event engine).Valid side) :
      ((s.after event engine).Exact side ↔ event.Fits side s) ∧
        (event.Fits side s → (s.after event engine).Valid side) :=
    ⟨⟨fun _ => fits, fun _ => after.exact⟩, fun _ => after⟩
  cases step with
  | other kept => exact always trivial (valid.of_keeps rfl rfl kept)
  | reset ran =>
      exact always trivial (valid.of_keeps rfl rfl
        (documented.keeps (reset_writes_nothing ssl obj _) ran))
  | endStream ran =>
      simp only [Stream.endStream, owned] at ran
      rcases conclude_runs documented ran with ⟨rfl, concludes⟩ | ⟨⟨thrown, rfl⟩, keeps⟩
      · exact always trivial (valid.of_concludes rfl rfl concludes)
      · exact always trivial (valid.of_keeps rfl rfl keeps)
  | @opWrite buf count engine ran =>
      obtain ⟨answer, s₁, answered, keeps, tells⟩ := opWrite_tells owned documented ran
      by_cases empty : buf.bytes.length = 0
      · have nothing : (WriteEvent.opWrite buf count).bytes = [] := by
          show buf.bytes.take count.toNat = []
          rw [List.length_eq_zero_iff.mp empty, List.take_nil]
        rcases documented.empty empty answered with same | ⟨concludes, _⟩
        · exact always (SendSide.hasRoom_of_empty empty)
            (valid.of_keeps nothing rfl (same.trans keeps))
        · cases concludes
      · have wrote := (documented.write empty answered).wrote valid.idle empty
        exact valid.wrote_iff tells (wrote.of_keeps keeps)
  | @write data fin outcome engine ran =>
      by_cases empty : data.bytes.length = 0
      · exact always (SendSide.hasRoom_of_empty empty)
          (valid.write_empty owned documented empty ran)
      · obtain ⟨answer, s₁, answered, keeps, tells⟩ := write_tells owned documented empty ran
        have wrote := (documented.write empty answered).wrote valid.idle empty
        exact valid.wrote_iff tells (wrote.of_keeps keeps)

/-! ### The law -/

/-- A stream before anything was written. -/
structure Writing.Fresh (side : S → SendSide) (s : Writing S) : Prop where
  sent : (side s.engine).sent = []
  fin : (side s.engine).fin = none
  aon : (side s.engine).aon = none
  accounted : s.accounted = []
  concluded : s.concluded = false

theorem Writing.Fresh.valid {s : Writing S} (fresh : s.Fresh side) : s.Valid side := by
  refine ⟨⟨fresh.sent.trans fresh.accounted.symm, fresh.fin.trans ?_⟩, fresh.aon⟩
  rw [fresh.concluded]
  rfl

/-- A step whose buffer fits. -/
def FittingStep (B : Behaviour openssl S) (side : S → SendSide) (obj : PhpQuicStream)
    (s : Writing S) (event : WriteEvent) (s' : Writing S) : Prop :=
  WriteStep B side obj s event s' ∧ event.Fits side s

/-- **In a run in which every buffer meets room for all of it or for nothing, the accounting is
exact; the first buffer that meets room for a part of it breaks it.** -/
theorem write_accounting_iff (owned : obj.ssl = some ssl)
    (documented : WritesAsDocumented B ssl side) {start s : Writing S} {events : List WriteEvent}
    (fresh : start.Fresh side) (path : Path (FittingStep B side obj) start events s) :
    s.Exact side ∧ ∀ event s', WriteStep B side obj s event s' →
      (s'.Exact side ↔ event.Fits side s) := by
  have kept : ∀ s event s', s.Valid side → FittingStep B side obj s event s' → s'.Valid side :=
    fun _ _ _ valid fitting => (fitting.1.exact_iff owned documented valid).2 fitting.2
  have valid : s.Valid side := path.invariant kept fresh.valid
  exact ⟨valid.exact, fun event s' step => (step.exact_iff owned documented valid).1⟩

end Accounting

/-! ### A write that fits, and one that does not -/

namespace SendSide

/-- Bytes enter the stream, with a FIN behind them if `conclude` is set. -/
def append (s : SendSide) (bytes : Bytes) (conclude : Bool) : SendSide :=
  { s with
    sent := s.sent ++ bytes
    room := s.room - bytes.length
    fin := if conclude = true then some (s.sent ++ bytes).length else s.fin }

/-- `SSL_write_ex2` of an engine that does what is documented and no more. -/
def write (s : SendSide) (buf : Buffer) (conclude : Bool) : (Int × Nat) × SendSide :=
  if s.refused = true ∨ s.fin.isSome then ((0, 0), s)
  else if buf.bytes.length = 0 then ((1, 0), s.append [] conclude)
  else match s.start buf with
    | none => ((0, 0), s)
    | some pos =>
      if (buf.bytes.drop pos).length ≤ s.room then
        ((1, buf.bytes.length), { s.append (buf.bytes.drop pos) conclude with
          aon := if s.blocking = true then s.aon else none })
      else ((0, 0), { s.append ((buf.bytes.drop pos).take s.room) false with
        aon := s.interrupted buf pos })

/-- `SSL_stream_conclude` of that engine. -/
def conclude (s : SendSide) : Int × SendSide :=
  if s.refused = true ∨ s.fin.isSome then (0, s) else (1, s.append [] true)

variable {s : SendSide}

theorem concludes_append (before : s.fin = none) : s.Concludes (s.append [] true) := by
  refine ⟨before, ?_, List.append_nil _, rfl⟩
  show some (s.sent ++ []).length = some s.sent.length
  rw [List.append_nil]

theorem write_writes (s : SendSide) {buf : Buffer} (filled : buf.bytes.length ≠ 0)
    (conclude : Bool) : s.Writes buf conclude (s.write buf conclude).1 (s.write buf conclude).2 := by
  unfold write
  by_cases shut : s.refused = true ∨ s.fin.isSome
  · rw [if_pos shut]
    exact .refuses (shut.imp_right .inl) (.refl s)
  · rw [if_neg shut, if_neg filled]
    have live : s.refused = false := by simpa using fun refused => shut (.inl refused)
    have before : s.fin = none := by simpa using fun concluded => shut (.inr concluded)
    split
    · rename_i mismatched
      exact .refuses (.inr (.inr mismatched)) (.refl s)
    · rename_i pos starts
      split
      · rename_i all
        refine .completes live before starts all rfl ?_ rfl
        show (if conclude = true then _ else s.fin) = _
        rw [before]
        rfl
      · rename_i short
        exact .breaks live before starts short rfl before rfl

theorem write_empty (s : SendSide) {buf : Buffer} (empty : buf.bytes.length = 0)
    (conclude : Bool) : s.Keeps (s.write buf conclude).2 ∨
      conclude = true ∧ s.Concludes (s.write buf conclude).2 := by
  unfold write
  by_cases shut : s.refused = true ∨ s.fin.isSome
  · rw [if_pos shut]
    exact .inl (.refl s)
  · rw [if_neg shut, if_pos empty]
    cases conclude with
    | false => exact .inl ⟨List.append_nil _, rfl, rfl⟩
    | true =>
        have before : s.fin = none := by simpa using fun concluded => shut (.inr concluded)
        exact .inr ⟨rfl, concludes_append before⟩

theorem conclude_concludes (s : SendSide) :
    s.conclude.1 = 0 ∧ s.Keeps s.conclude.2 ∨ s.conclude.1 ≠ 0 ∧ s.Concludes s.conclude.2 := by
  unfold conclude
  by_cases shut : s.refused = true ∨ s.fin.isSome
  · rw [if_pos shut]
    exact .inl ⟨rfl, .refl s⟩
  · rw [if_neg shut]
    have before : s.fin = none := by simpa using fun concluded => shut (.inr concluded)
    exact .inr ⟨Int.one_ne_zero, concludes_append before⟩

end SendSide

/-- That engine, for one stream. What it cannot do now it may be asked again. -/
def sendingEngine (ssl : Ssl) : Handler openssl SendSide := fun s call =>
  match call with
  | .sslWriteEx2 handle buf conclude => if handle = ssl then s.write buf conclude else ((0, 0), s)
  | .sslStreamConclude handle => if handle = ssl then s.conclude else ((0 : Int), s)
  | .sslGetError .. => (.wantWrite, s)
  | call => (succeeding call, s)

/-- **It writes as documented.** -/
theorem sendingEngine_documented (ssl : Ssl) :
    WritesAsDocumented (answeredBy (sendingEngine ssl)) ssl id where
  write := by
    intro s s' buf conclude answer filled answered
    obtain ⟨rfl, rfl⟩ := Prod.mk.inj (answered.trans (if_pos rfl))
    exact s.write_writes filled conclude
  empty := by
    intro s s' buf conclude answer empty answered
    obtain ⟨rfl, rfl⟩ := Prod.mk.inj (answered.trans (if_pos rfl))
    exact s.write_empty empty conclude
  conclude := by
    intro s s' rc answered
    obtain ⟨rfl, rfl⟩ := Prod.mk.inj (answered.trans (if_pos rfl))
    exact s.conclude_concludes
  other := by
    intro s s' call answer other answered
    have same : s' = s := by
      refine (congrArg Prod.snd answered).trans ?_
      cases call with
      | sslWriteEx2 handle buf conclude => exact congrArg Prod.snd (if_neg other)
      | sslStreamConclude handle => exact congrArg Prod.snd (if_neg other)
      | _ => rfl
    rw [same]
    exact .refl s

def writableStream : PhpQuicStream := { quicStreamCreate with ssl := some 1 }

/-- A new stream in non-blocking mode, with room for so many bytes. -/
def unwritten (room : Nat) : Writing SendSide := ⟨⟨[], none, none, false, room, false⟩, [], false⟩

theorem unwritten_fresh (room : Nat) : (unwritten room).Fresh id := ⟨rfl, rfl, rfl, rfl, rfl⟩

def abc : Buffer := ⟨100, text "abc"⟩

/-- `$stream->write('abc', true)`, with its result. -/
def writeAbc (room : Nat) : WriteEvent :=
  .write abc true
    (exec (sendingEngine 1) (Stream.write writableStream abc true) (unwritten room).engine).1

def wroteAbc (room : Nat) : Writing SendSide :=
  (unwritten room).after (writeAbc room)
    (exec (sendingEngine 1) (Stream.write writableStream abc true) (unwritten room).engine).2

/-- The steps of the stream against that engine. -/
abbrev SendingStep := WriteStep (answeredBy (sendingEngine 1)) id writableStream

theorem wroteAbc_step (room : Nat) : SendingStep (unwritten room) (writeAbc room) (wroteAbc room) :=
  .write (run_answeredBy _ _ _)

/-- With room for three bytes, three bytes and the FIN enter the stream. -/
theorem write_accounting_example : (wroteAbc 3).Exact id :=
  ((write_accounting_iff rfl (sendingEngine_documented 1) (unwritten_fresh 3) (.nil _)).2 _ _
    (wroteAbc_step 3)).mpr fun _ _ => .inl (by decide)

/-- After `$stream->end()` as well. -/
def endedAbc (room : Nat) : Writing SendSide :=
  (wroteAbc room).after
    (.endStream
      (exec (sendingEngine 1) (Stream.endStream writableStream) (wroteAbc room).engine).1)
    (exec (sendingEngine 1) (Stream.endStream writableStream) (wroteAbc room).engine).2

/-- **With room for two bytes `write()` returns 0, two bytes have entered the stream, and the FIN of
`end()` stands behind them.** -/
theorem write_unaccounted : WritesAsDocumented (answeredBy (sendingEngine 1)) 1 id ∧
    (unwritten 2).Fresh id ∧ (∃ events, Path SendingStep (unwritten 2) events (endedAbc 2)) ∧
    (endedAbc 2).accounted = [] ∧ (endedAbc 2).engine.sent = text "ab" ∧
    (endedAbc 2).engine.fin = some 2 ∧ ¬ (endedAbc 2).Exact id := by
  have ends : SendingStep (wroteAbc 2) _ (endedAbc 2) := .endStream (run_answeredBy _ _ _)
  refine ⟨sendingEngine_documented 1, ⟨rfl, rfl, rfl, rfl, rfl⟩,
    ⟨_, .cons (wroteAbc_step 2) (.single ends)⟩, by decide, by decide, by decide, fun exact => ?_⟩
  exact absurd exact.sent (by decide)

end PhpQuic
