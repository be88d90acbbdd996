/-
**From one end to the other: what is read is what was written.**

The two ends of one direction of a stream, each with its own calls in any order. At the writing end
the accounting of `write()`, the adapter's write, `end()` and `reset()` is exact as long as every
buffer meets room for all of it or for nothing; at the reading end `read()` and the adapter hand out
what they remove. Between them QUIC carries a prefix of what entered the stream, and the final size
of its FIN.

* `SendSide.Seals`: what no call undoes. Bytes stay in the stream, and behind a FIN nothing enters.
* `opRead_finished`: the adapter reports the end of the file only for a stream read to its FIN.
* `TransferStep.matched`: a step of the two ends is at most two steps of a pipe.
* `transfer_intact`: what the reads returned is a prefix of what the writes returned, and all of it
  once the reading end was told of the end.
-/

import PhpQuic.Wire.Pipe
import PhpQuic.Proof.EndOfStream
import PhpQuic.Proof.WriteAccounting

namespace PhpQuic

open Interact Wire

/-! ### Behind a FIN -/

/-- What entered the stream stays in it, a FIN stays where it is, and nothing enters behind it. -/
structure SendSide.Seals (s s' : SendSide) : Prop where
  sent : s.sent <+: s'.sent
  fin : ∀ size ∈ s.fin, s'.fin = some size ∧ s'.sent = s.sent

namespace SendSide

variable {s s' s₁ s₂ s₃ : SendSide}

theorem Seals.refl (s : SendSide) : s.Seals s := ⟨List.prefix_refl _, fun _ placed => ⟨placed, rfl⟩⟩

theorem Seals.trans (first : s₁.Seals s₂) (second : s₂.Seals s₃) : s₁.Seals s₃ := by
  refine ⟨first.sent.trans second.sent, fun size placed => ?_⟩
  obtain ⟨there, same⟩ := first.fin size placed
  obtain ⟨later, still⟩ := second.fin size there
  exact ⟨later, still.trans same⟩

/-- Before a FIN, bytes may enter. -/
theorem Seals.of_open (before : s.fin = none) (sent : s.sent <+: s'.sent) : s.Seals s' := by
  refine ⟨sent, fun size placed => ?_⟩
  rw [before] at placed
  cases placed

theorem Keeps.seals (keeps : s.Keeps s') : s.Seals s' := by
  refine ⟨?_, fun size placed => ⟨keeps.fin.trans placed, keeps.sent⟩⟩
  rw [keeps.sent]

theorem Concludes.seals (concludes : s.Concludes s') : s.Seals s' := by
  refine .of_open concludes.before ?_
  rw [concludes.sent]

/-- `SSL_write_ex2` refuses bytes behind a FIN. -/
theorem Writes.seals {buf : Buffer} {conclude : Bool} {answer : Int × Nat}
    (writes : s.Writes buf conclude answer s') : s.Seals s' := by
  cases writes with
  | refuses _ same => exact same.seals
  | completes _ before _ _ sent =>
      refine .of_open before ?_
      rw [sent]
      exact List.prefix_append _ _
  | breaks _ before _ _ sent =>
      refine .of_open before ?_
      rw [sent]
      exact List.prefix_append _ _

end SendSide

section Writer

variable {S : Type} {B : Behaviour openssl S} {ssl : Ssl} {side : S → SendSide}
  {obj : PhpQuicStream}

/-- **No call undoes what was written.** -/
theorem WritesAsDocumented.seals (documented : WritesAsDocumented B ssl side) {s s' : S}
    {call : Call} {answer : Answer call} (replied : B s call answer s') :
    (side s).Seals (side s') := by
  by_cases other : call.WritesTo ssl
  · cases call with
    | sslWriteEx2 handle buf conclude =>
        obtain rfl : handle = ssl := other
        by_cases empty : buf.bytes.length = 0
        · rcases documented.empty empty replied with keeps | ⟨_, concludes⟩
          · exact keeps.seals
          · exact concludes.seals
        · exact (documented.write empty replied).seals
    | sslStreamConclude handle =>
        obtain rfl : handle = ssl := other
        rcases documented.conclude replied with ⟨_, keeps⟩ | ⟨_, concludes⟩
        · exact keeps.seals
        · exact concludes.seals
    | _ => exact other.elim
  · exact (documented.other other replied).seals

theorem WritesAsDocumented.seals_of_run (documented : WritesAsDocumented B ssl side) {α : Type}
    {p : Quic α} {s s' : S} {value : α} (run : Run B p s value s') : (side s).Seals (side s') :=
  run.relation (R := fun s s' => (side s).Seals (side s')) (fun _ => .refl _)
    (fun _ _ _ => .trans) fun _ _ _ _ replied => documented.seals replied

theorem WriteStep.seals (documented : WritesAsDocumented B ssl side) {s s' : Writing S}
    {event : WriteEvent} (step : WriteStep B side obj s event s') :
    (side s.engine).Seals (side s'.engine) := by
  cases step with
  | write ran => exact documented.seals_of_run ran
  | opWrite ran => exact documented.seals_of_run ran
  | endStream ran => exact documented.seals_of_run ran
  | reset ran => exact documented.seals_of_run ran
  | other kept => exact kept.seals

theorem WriteStep.accounted {s s' : Writing S} {event : WriteEvent}
    (step : WriteStep B side obj s event s') : s'.accounted = s.accounted ++ event.bytes := by
  cases step <;> rfl

theorem WriteStep.concluded {s s' : Writing S} {event : WriteEvent}
    (step : WriteStep B side obj s event s') : s'.concluded = (s.concluded || event.concludes) := by
  cases step <;> rfl

/-- Once a call concluded the stream, no event says it wrote anything. -/
theorem WriteStep.bytes_nil (documented : WritesAsDocumented B ssl side) {s s' : Writing S}
    {event : WriteEvent} (step : WriteStep B side obj s event s') (exact : s.Exact side)
    (exact' : s'.Exact side) (concluded : s.concluded = true) : event.bytes = [] := by
  have placed : (side s.engine).fin = some s.accounted.length := by rw [exact.fin, if_pos concluded]
  have still := ((step.seals documented).fin _ placed).2
  rw [exact.sent, exact'.sent, step.accounted] at still
  exact List.append_right_eq_self.mp still

end Writer

/-! ### The adapter's end of file -/

/-- An adapter read that reports the end without a failure. -/
def OpRead.AtEnd (result : OpRead) : Prop := result.eof = true ∧ result.count = 0

instance (result : OpRead) : Decidable result.AtEnd := inferInstanceAs (Decidable (_ ∧ _))

/-- `ZERO_RETURN` is read for a FIN only. -/
theorem StreamEngine.Refuses.fullyRead {allowed : StreamEngine → StreamNews → Prop}
    {s s' : StreamEngine} (refused : s.Refuses allowed s') (zero : s'.lastError = .zeroReturn) :
    s'.FullyRead := by
  rcases refused with ⟨err, want, rfl⟩ | ⟨_, move⟩ | ⟨_, move⟩
  · obtain rfl : err = .zeroReturn := zero
    exact absurd want (by decide)
  · cases move with
    | gaveUp _ other => exact absurd zero other
  · cases move with
    | finRead read _ => exact read

/-- **The adapter reports the end of the file only for a stream read to its FIN.** -/
theorem opRead_finished {allowed : StreamEngine → StreamNews → Prop} (obj : PhpQuicStream)
    (count : Nat) (s : StreamEngine) :
    Always (ending allowed) (quicStreamOpRead obj count)
      (fun result s' => result.AtEnd → s'.FullyRead) s := by
  unfold quicStreamOpRead
  split
  · exact .pure fun atEnd => Bool.noConfusion atEnd.1
  · refine always_call_bind.mpr fun got s₁ replied => ?_
    cases got with
    | some got => exact .pure fun atEnd => Bool.noConfusion atEnd.1
    | none =>
        obtain ⟨before, _, refused⟩ := replied
        refine always_call_bind.mpr ?_
        rintro err _ ⟨rfl, rfl⟩
        split
        · exact .pure fun atEnd => Bool.noConfusion atEnd.1
        · exact .pure fun atEnd => Bool.noConfusion atEnd.1
        · rename_i zero
          exact .pure fun _ => refused.fullyRead zero
        · exact .pure fun atEnd => absurd atEnd.2 (by decide)

/-- An adapter read hands out what it removes here, too. -/
theorem opRead_removes {allowed : StreamEngine → StreamNews → Prop} {obj : PhpQuicStream}
    {count : Nat} {s s' : StreamEngine} {result : OpRead}
    (run : Run (ending allowed) (quicStreamOpRead obj count) s result s') :
    s'.receiver.removed = s.receiver.removed ++ result.bytes :=
  (quicStreamOpRead_removes obj count s.receiver _ _
    (run.map StreamEngine.receiver fun _ _ _ _ => receiving_of_ending)).1

/-! ### The two ends -/

/-- The sending end, and the receiving end. -/
structure Transfer (S : Type) where
  writing : Writing S
  reading : Ending
  deriving DecidableEq

/-- **What QUIC carries**: the bytes received stand in front of those that entered the stream, and
the final size is where the FIN was placed. -/
structure Transfer.Carried {S : Type} (side : S → SendSide) (s : Transfer S) : Prop where
  bytes : s.reading.engine.receiver.removed ++ s.reading.engine.receiver.buffer <+:
    (side s.writing.engine).sent
  finalSize : ∀ size ∈ s.reading.engine.finalSize, (side s.writing.engine).fin = some size

instance {S : Type} (side : S → SendSide) (s : Transfer S) : Decidable (s.Carried side) :=
  decidable_of_iff (_ ∧ _) ⟨fun both => ⟨both.1, both.2⟩, fun carried => ⟨carried.1, carried.2⟩⟩

/-- One event at either end. -/
inductive TransferEvent where
  | send (event : WriteEvent)
  | receive (event : EndEvent)
  | opRead (count : Nat) (result : OpRead)

/-- What the events do. Every buffer that is written meets room for all of it or for nothing. The
ends are not synchronized: what the receiving end takes in during an event is only known to be
carried. -/
inductive TransferStep {S : Type} (B : Behaviour openssl S) (side : S → SendSide)
    (sender receiver : PhpQuicStream) : Transfer S → TransferEvent → Transfer S → Prop
  | send {s : Transfer S} {event : WriteEvent} {writing : Writing S}
      (step : FittingStep B side sender s.writing event writing) :
      TransferStep B side sender receiver s (.send event) { s with writing }
  | receive {s : Transfer S} {event : EndEvent} {reading : Ending}
      (step : EndStep anyNews receiver s.reading event reading)
      (carried : Transfer.Carried side { s with reading }) :
      TransferStep B side sender receiver s (.receive event) { s with reading }
  | opRead {s : Transfer S} {count : Nat} {result : OpRead} {engine : StreamEngine}
      (ran : Run (ending anyNews) (quicStreamOpRead receiver count) s.reading.engine result engine)
      (carried : Transfer.Carried side { s with reading :=
        { s.reading with engine, delivered := s.reading.delivered ++ result.bytes } }) :
      TransferStep B side sender receiver s (.opRead count result)
        { s with reading :=
          { s.reading with engine, delivered := s.reading.delivered ++ result.bytes } }

/-- The bytes an event says it wrote. -/
def TransferEvent.wrote : TransferEvent → Bytes
  | .send event => event.bytes
  | _ => []

/-- The bytes an event handed to PHP at the receiving end. -/
def TransferEvent.got : TransferEvent → Bytes
  | .receive (.read _ outcome) => readBytes outcome
  | .opRead _ result => result.bytes
  | _ => []

/-- An event that says it concluded the stream. -/
def TransferEvent.Concludes : TransferEvent → Prop
  | .send event => event.concludes = true
  | _ => False

/-- An event that told PHP of the end of the file. -/
def TransferEvent.TellsEnd : TransferEvent → Prop
  | .opRead _ result => result.AtEnd
  | _ => False

/-! ### The pipe -/

/-- The two ends as a pipe. -/
def Transfer.pipe {S : Type} (s : Transfer S) : Pipe UInt8 :=
  ⟨s.writing.accounted, s.writing.concluded, s.reading.delivered⟩

/-- An event as the pipe sees it. -/
def TransferEvent.observed : TransferEvent → List (PipeEvent UInt8)
  | .send event => .write event.bytes :: if event.concludes = true then [.close] else []
  | .receive (.read _ outcome) => [.take (readBytes outcome)]
  | .receive _ => []
  | .opRead _ result => .take result.bytes :: if result.AtEnd then [.finish] else []

section Runs

variable {S : Type} {B : Behaviour openssl S} {side : S → SendSide}
  {sender receiver : PhpQuicStream} {ssl ssl' : Ssl}

/-- What holds of every state of the two ends. -/
structure Transfer.Valid (side : S → SendSide) (s : Transfer S) : Prop where
  writing : s.writing.Valid side
  reading : s.reading.Valid
  carried : s.Carried side

/-- What was handed out entered the stream, and was accounted for. -/
theorem Transfer.Valid.ordered {s : Transfer S} (valid : s.Valid side) : s.pipe.Ordered := by
  show s.reading.delivered <+: s.writing.accounted
  rw [← valid.reading.delivered, ← valid.writing.exact.sent]
  exact (List.prefix_append _ _).trans valid.carried.bytes

/-- **A stream read to its FIN was read to the end**: a call concluded it, behind what was read. -/
theorem Transfer.Valid.finished {s : Transfer S} (valid : s.Valid side) (clean : s.reading.Clean) :
    s.pipe.Finished := by
  have placed : (side s.writing.engine).fin = some s.reading.delivered.length :=
    valid.carried.finalSize _ clean
  rw [valid.writing.exact.fin] at placed
  by_cases concluded : s.writing.concluded = true
  · rw [if_pos concluded] at placed
    exact ⟨concluded, valid.ordered.eq_of_length (Option.some.inj placed).symm⟩
  · rw [if_neg concluded] at placed
    cases placed

/-- **One event** keeps all that. -/
theorem TransferStep.valid (sends : sender.ssl = some ssl) (receives : receiver.ssl = some ssl')
    (documented : WritesAsDocumented B ssl side) {s s' : Transfer S} {event : TransferEvent}
    (step : TransferStep B side sender receiver s event s') (valid : s.Valid side) :
    s'.Valid side := by
  obtain ⟨writing, reading, carried⟩ := valid
  cases step with
  | send fitting =>
      have here := fitting.1.exact_iff sends documented writing
      have seals := fitting.1.seals documented
      refine ⟨here.2 fitting.2, reading, ?_, fun size announced => ?_⟩
      · exact carried.bytes.trans seals.sent
      · exact (seals.fin size (carried.finalSize size announced)).1
  | receive ends carried' => exact ⟨writing, ends.valid receives reading, carried'⟩
  | opRead ran carried' =>
      have lasts := lasts_of_run ran
      refine ⟨writing, ⟨lasts.sound reading.sound, ?_, fun saw => ?_⟩, carried'⟩
      · exact (opRead_removes ran).trans (congrArg (· ++ _) reading.delivered)
      · exact lasts.ended (reading.null saw)

/-- At the writing end: the bytes go in, and then a call may have concluded. -/
theorem WriteStep.matched (documented : WritesAsDocumented B ssl side) {s s' : Writing S}
    {event : WriteEvent} (step : WriteStep B side sender s event s') (exact : s.Exact side)
    (exact' : s'.Exact side) (taken : Bytes) :
    Path PipeStep ⟨s.accounted, s.concluded, taken⟩ (TransferEvent.send event).observed
      ⟨s'.accounted, s'.concluded, taken⟩ := by
  have written : PipeStep ⟨s.accounted, s.concluded, taken⟩ (.write event.bytes)
      ⟨s'.accounted, s.concluded, taken⟩ := by
    rw [step.accounted]
    exact .write (step.bytes_nil documented exact exact')
  refine .cons written ?_
  rw [step.concluded]
  cases event.concludes with
  | false =>
      rw [Bool.or_false]
      exact .nil _
  | true =>
      rw [Bool.or_true]
      exact .single .close

/-- **One event at either end is at most two of a pipe.** -/
theorem TransferStep.matched (sends : sender.ssl = some ssl) (receives : receiver.ssl = some ssl')
    (documented : WritesAsDocumented B ssl side) {s s' : Transfer S} {event : TransferEvent}
    (step : TransferStep B side sender receiver s event s') (valid : s.Valid side) :
    Path PipeStep s.pipe event.observed s'.pipe := by
  have valid' := step.valid sends receives documented valid
  cases step with
  | send fitting =>
      exact fitting.1.matched documented valid.writing.exact valid'.writing.exact s.reading.delivered
  | receive ends carried' =>
      cases ends with
      | read ran => exact .single (.take valid'.ordered)
      | _ => exact .nil _
  | @opRead count result engine ran carried' =>
      refine .cons (.take valid'.ordered) ?_
      by_cases atEnd : result.AtEnd
      · have read : engine.FullyRead := opRead_finished receiver count _ _ _ ran atEnd
        have finished := valid'.finished (valid'.reading.clean_iff.mpr read)
        rw [if_pos atEnd]
        exact .single (.finish finished.closed finished.all)
      · rw [if_neg atEnd]
        exact .nil _

/-- A stream as it is opened at one end and accepted at the other. -/
structure Transfer.Fresh (side : S → SendSide) (s : Transfer S) : Prop where
  writing : s.writing.Fresh side
  reading : s.reading.Fresh
  buffer : s.reading.engine.receiver.buffer = []
  finalSize : s.reading.engine.finalSize = none

theorem Transfer.Fresh.valid {s : Transfer S} (fresh : s.Fresh side) : s.Valid side := by
  refine ⟨fresh.writing.valid, fresh.reading.valid, ?_, fun size announced => ?_⟩
  · rw [fresh.reading.removed, fresh.buffer]
    exact List.nil_prefix
  · rw [fresh.finalSize] at announced
    cases announced

theorem Transfer.Fresh.pipe {s : Transfer S} (fresh : s.Fresh side) : s.pipe = .empty := by
  unfold Transfer.pipe Pipe.empty
  rw [fresh.writing.accounted, fresh.writing.concluded, fresh.reading.delivered]

/-- **The two ends and QUIC between them are a pipe.** -/
theorem transfer_path (sends : sender.ssl = some ssl) (receives : receiver.ssl = some ssl')
    (documented : WritesAsDocumented B ssl side) {start s : Transfer S}
    {events : List TransferEvent} (fresh : start.Fresh side)
    (path : Path (TransferStep B side sender receiver) start events s) :
    s.Valid side ∧ Path PipeStep .empty (events.flatMap TransferEvent.observed) s.pipe := by
  have kept : ∀ s event s', s.Valid side → TransferStep B side sender receiver s event s' →
      s'.Valid side := fun _ _ _ valid step => step.valid sends receives documented valid
  refine ⟨path.invariant kept fresh.valid, ?_⟩
  rw [← fresh.pipe]
  exact path.refines Transfer.pipe TransferEvent.observed kept
    (fun _ _ _ valid step => step.matched sends receives documented valid) fresh.valid

end Runs

/-! ### What the calls said -/

theorem observed_entering (event : TransferEvent) :
    event.observed.flatMap PipeEvent.entering = event.wrote := by
  cases event with
  | send event =>
      show event.bytes ++ _ = event.bytes
      cases event.concludes <;> exact List.append_nil _
  | receive event => cases event <;> rfl
  | opRead count result =>
      show [] ++ (if result.AtEnd then [PipeEvent.finish] else []).flatMap _ = []
      split <;> rfl

theorem observed_leaving (event : TransferEvent) :
    event.observed.flatMap PipeEvent.leaving = event.got := by
  cases event with
  | send event =>
      show [] ++ (if event.concludes = true then [PipeEvent.close] else []).flatMap _ = []
      split <;> rfl
  | receive event =>
      cases event with
      | read length outcome => exact List.append_nil _
      | _ => rfl
  | opRead count result =>
      show result.bytes ++ (if result.AtEnd then [PipeEvent.finish] else []).flatMap _ = _
      split <;> exact List.append_nil _

theorem finish_mem_observed {event : TransferEvent} (tells : event.TellsEnd) :
    PipeEvent.finish ∈ event.observed := by
  cases event with
  | opRead count result =>
      have atEnd : result.AtEnd := tells
      unfold TransferEvent.observed
      dsimp only
      rw [if_pos atEnd]
      exact List.mem_cons_of_mem _ (List.mem_singleton_self _)
  | _ => exact tells.elim

theorem concludes_of_close {event : TransferEvent} (member : PipeEvent.close ∈ event.observed) :
    event.Concludes := by
  cases event with
  | send event =>
      show event.concludes = true
      cases concludes : event.concludes with
      | true => rfl
      | false => simp [TransferEvent.observed, concludes] at member
  | receive event => cases event <;> simp [TransferEvent.observed] at member
  | opRead count result =>
      unfold TransferEvent.observed at member
      dsimp only at member
      split at member <;> simp at member

/-- **What the reads returned, in order, is a prefix of what the writes returned, in order**, where
every write meets room for all of its data or for nothing; and if the adapter ever reported the end
of the file, or the stream has come to a clean end, it is all of it, and a call concluded the
stream. -/
theorem transfer_intact {S : Type} {B : Behaviour openssl S} {side : S → SendSide}
    {sender receiver : PhpQuicStream} {ssl ssl' : Ssl} (sends : sender.ssl = some ssl)
    (receives : receiver.ssl = some ssl') (documented : WritesAsDocumented B ssl side)
    {start s : Transfer S} {events : List TransferEvent} (fresh : start.Fresh side)
    (path : Path (TransferStep B side sender receiver) start events s) :
    events.flatMap TransferEvent.got <+: events.flatMap TransferEvent.wrote ∧
      ((∃ event ∈ events, event.TellsEnd) ∨ s.reading.Clean →
        events.flatMap TransferEvent.got = events.flatMap TransferEvent.wrote ∧
          ∃ event ∈ events, event.Concludes) := by
  obtain ⟨valid, piped⟩ := transfer_path sends receives documented fresh path
  have wrote : s.pipe.written = events.flatMap TransferEvent.wrote := by
    rw [path_written piped, List.flatMap_assoc]
    simp only [observed_entering]
    rfl
  have got : s.pipe.taken = events.flatMap TransferEvent.got := by
    rw [path_taken piped, List.flatMap_assoc]
    simp only [observed_leaving]
    rfl
  rw [← wrote, ← got]
  refine ⟨path_ordered piped Pipe.empty_ordered, fun ended => ?_⟩
  have finished : s.pipe.Finished := by
    rcases ended with ⟨event, member, tells⟩ | clean
    · exact path_finished piped (List.mem_flatMap.mpr ⟨event, member, finish_mem_observed tells⟩)
    · exact valid.finished clean
  obtain ⟨event, member, closes⟩ :=
    List.mem_flatMap.mp (path_closed piped rfl finished.closed)
  exact ⟨finished.all, event, member, concludes_of_close closes⟩

/-! ### Three bytes and a FIN -/

/-- An engine that hands out what it has. -/
def servingEngine : Handler openssl StreamEngine := fun s call =>
  match call with
  | .sslReadEx ssl space =>
    if room : 0 < (s.receiver.buffer.take space).length ∧ s.readEnd = .live then
      (some ⟨s.receiver.buffer.take space, room.1, List.length_take_le _ _⟩,
        s.handOut (s.receiver.buffer.take space) (s.receiver.buffer.drop space))
    else idleEngine s (.sslReadEx ssl space)
  | call => idleEngine s call

theorem servingEngine_allowed (s : StreamEngine) (call : Call) :
    ending anyNews s call (servingEngine s call).1 (servingEngine s call).2 := by
  cases call with
  | sslReadEx ssl space =>
      by_cases room : 0 < (s.receiver.buffer.take space).length ∧ s.readEnd = .live
      · simp only [servingEngine, dif_pos room]
        exact ⟨s, .refl s, trivial, .handed (.inl room.2) (List.take_append_drop _ _).symm⟩
      · simp only [servingEngine, dif_neg room]
        exact idleEngine_allowed s _
  | _ => exact idleEngine_allowed s _

/-- `'abc'`, as it comes in at the other end. -/
def arrivedAbc : Ending :=
  { untouched with engine := { untouched.engine with receiver := ⟨text "abc", [], true⟩ } }

/-- And the FIN. -/
def arrivedFin : Ending :=
  { arrivedAbc with engine := { arrivedAbc.engine with finalSize := some 3 } }

/-- `fread($fp, 8)` against that engine. -/
def served (s : Ending) : OpRead × StreamEngine :=
  exec servingEngine (quicStreamOpRead idleStream 8) s.engine

/-- After it. -/
def serve (s : Ending) : Ending :=
  { s with engine := (served s).2, delivered := s.delivered ++ (served s).1.bytes }

/-- The steps of the two ends with these engines. -/
abbrev ServedStep := TransferStep (answeredBy (sendingEngine 1)) id writableStream idleStream

theorem serve_step (writing : Writing SendSide) (reading : Ending)
    (carried : Transfer.Carried id ⟨writing, serve reading⟩) :
    ServedStep ⟨writing, reading⟩ (.opRead 8 (served reading).1) ⟨writing, serve reading⟩ :=
  .opRead (run_exec servingEngine_allowed _ _) carried

/-- **`$stream->write('abc', true)` at one end; at the other `fread($fp, 8)` returns the three bytes,
and the next one reports the end of the file.** -/
theorem transfer_intact_example : ∃ events s,
    Path ServedStep ⟨unwritten 3, untouched⟩ events s ∧
      events.flatMap TransferEvent.got = text "abc" ∧
      events.flatMap TransferEvent.got = events.flatMap TransferEvent.wrote ∧
      ∃ event ∈ events, event.Concludes := by
  have send : ServedStep ⟨unwritten 3, untouched⟩ (.send (writeAbc 3)) ⟨wroteAbc 3, untouched⟩ :=
    .send ⟨wroteAbc_step 3, fun _ _ => .inl (by decide)⟩
  have bytes : ServedStep ⟨wroteAbc 3, untouched⟩ (.receive (.news (.data (text "abc"))))
      ⟨wroteAbc 3, arrivedAbc⟩ :=
    .receive (.news trivial ⟨trivial, .data rfl nofun⟩) (by decide)
  have fin : ServedStep ⟨wroteAbc 3, arrivedAbc⟩ (.receive (.news (.fin 3)))
      ⟨wroteAbc 3, arrivedFin⟩ :=
    .receive (.news trivial ⟨trivial, .fin rfl rfl (by decide)⟩) (by decide)
  have first := serve_step (wroteAbc 3) arrivedFin (by decide)
  have second := serve_step (wroteAbc 3) (serve arrivedFin) (by decide)
  have path := Path.cons send (.cons bytes (.cons fin (.cons first (.single second))))
  have fresh : Transfer.Fresh id ⟨unwritten 3, untouched⟩ :=
    ⟨unwritten_fresh 3, untouched_fresh, rfl, rfl⟩
  have told : (TransferEvent.opRead 8 (served (serve arrivedFin)).1).TellsEnd :=
    (by decide : (served (serve arrivedFin)).1.AtEnd)
  have all := (transfer_intact rfl rfl (sendingEngine_documented 1) fresh path).2
    (.inl ⟨_, by simp, told⟩)
  exact ⟨_, _, path, by decide, all⟩

end PhpQuic
