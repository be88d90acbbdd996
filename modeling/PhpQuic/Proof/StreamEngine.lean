/-
**One stream in the engine: how its two parts end.**

The engine's account of one stream is kept by `ending`: the receive side, the final size a FIN
announced, and how each of the two parts of the stream has ended. Frames of the peer and the end of
the connection come in at any moment, and the application's own calls hand out bytes, read the FIN,
give up or reset the sending part. Each such event can be restricted by what is `allowed` in the
state it meets.

* `StreamMove`: what the engine makes of one event.
* `StreamEngine.Sound`: what holds of every state; `StreamMove.lasts`: no event undoes it, and a
  receiving part that has ended stays ended.
* `ending_relation`: what every event keeps, every call keeps.
* `receiving_of_ending`: the receive side of the engine is a receive side.
-/

import PhpQuic.Proof.Reading

namespace PhpQuic

open Interact

/-! ### The engine -/

/-- How a part of a stream has ended, as the engine reports it. -/
inductive PartEnd where
  | live
  | finished
  | reset (errorCode : Nat)
  /-- The connection ended, and nothing else is on record; the part may have been reset before. -/
  | connClosed (lost : Bool)
  deriving DecidableEq

namespace PartEnd

/-- `SSL_get_stream_read_error_code` and `SSL_get_stream_write_error_code`. -/
def errorCode : PartEnd → Option Nat
  | .reset errorCode => some errorCode
  | _ => none

/-- `SSL_get_stream_read_state`. A stream without a receiving part is of the wrong direction. -/
def Reports : PartEnd → StreamState → Prop
  | .live, state => state = .ok ∨ state = .wrongDir
  | .finished, state => state = .finished
  | .reset _, state => state = .resetRemote
  | .connClosed _, state => state = .connClosed

/-- A receiving part that was reset: what was waiting in it is gone. -/
def lost : PartEnd → Bool
  | .reset _ => true
  | .connClosed lost => lost
  | _ => false

/-- The FIN has been handed to the application. -/
def retired : PartEnd → PartEnd
  | .live => .finished
  | ended => ended

/-- What the end of the connection makes of a part; the record of one that has ended may be kept. -/
def close (part : PartEnd) (keeps : Bool) : PartEnd :=
  if keeps = true ∧ part ≠ .live then part else .connClosed part.lost

theorem retired_ne_live (part : PartEnd) : part.retired ≠ .live := by
  cases part <;> exact PartEnd.noConfusion

theorem retired_of_ended {part : PartEnd} (ended : part ≠ .live) : part.retired = part := by
  cases part with
  | live => exact absurd rfl ended
  | _ => rfl

theorem lost_retired (part : PartEnd) : part.retired.lost = part.lost := by
  cases part <;> rfl

/-- Only a live part is retired to another end. -/
theorem connClosed_of_retired {part : PartEnd} {lost : Bool}
    (closed : part.retired = .connClosed lost) : part = .connClosed lost := by
  cases part with
  | live => cases closed
  | _ => exact closed

theorem close_ne_live (part : PartEnd) (keeps : Bool) : part.close keeps ≠ .live := by
  unfold close
  split
  · rename_i kept
    exact kept.2
  · exact PartEnd.noConfusion

theorem lost_close (part : PartEnd) (keeps : Bool) : (part.close keeps).lost = part.lost := by
  unfold close
  split
  · rfl
  · rfl

theorem finished_of_close {part : PartEnd} {keeps : Bool} (closed : part.close keeps = .finished) :
    part = .finished := by
  unfold close at closed
  split at closed
  · exact closed
  · cases closed

theorem Reports.ne_live {part : PartEnd} {state : StreamState}
    (reported : part.Reports state) (shut : ¬ (state = .ok ∨ state = .wrongDir)) :
    part ≠ .live := by
  rintro rfl
  exact shut reported

end PartEnd

/-- What matters of a stream in the engine. -/
structure StreamEngine where
  receiver : Receiver
  /-- From the peer's FIN. -/
  finalSize : Option Nat
  readEnd : PartEnd
  writeEnd : PartEnd
  /-- What `SSL_get_error` says about the last failed read. -/
  lastError : SslError
  deriving DecidableEq

namespace StreamEngine

/-- The peer's FIN is known, and every byte before it has been handed out. -/
def FullyRead (s : StreamEngine) : Prop := s.finalSize = some s.receiver.removed.length

instance (s : StreamEngine) : Decidable s.FullyRead := inferInstanceAs (Decidable (_ = _))

/-- What can still be handed out. -/
def waiting (s : StreamEngine) : Bytes := if s.readEnd.lost = true then [] else s.receiver.buffer

/-- The peer's FIN is known, and every byte before it has been handed out or waits. -/
def Complete (s : StreamEngine) : Prop :=
  s.finalSize = some (s.receiver.removed ++ s.waiting).length

instance (s : StreamEngine) : Decidable s.Complete := inferInstanceAs (Decidable (_ = _))

/-- No reset is on record, of either part. -/
def Unreset (s : StreamEngine) : Prop :=
  s.readEnd.errorCode = none ∧ s.writeEnd.errorCode = none

instance (s : StreamEngine) : Decidable s.Unreset := inferInstanceAs (Decidable (_ ∧ _))

/-- The FIN is retired once everything before it was handed out. -/
def retireFin (s : StreamEngine) : StreamEngine :=
  { s with readEnd := if s.FullyRead then s.readEnd.retired else s.readEnd }

/-- `SSL_read_ex` handed out `got` and keeps `rest`. -/
def handOut (s : StreamEngine) (got rest : Bytes) : StreamEngine :=
  retireFin { s with
    receiver := { s.receiver with buffer := rest, removed := s.receiver.removed ++ got } }

/-- `SSL_stream_reset`. -/
def resetSend (s : StreamEngine) (errorCode : Nat) : StreamEngine :=
  { s with writeEnd := if s.writeEnd = .live then .reset errorCode else s.writeEnd }

/-- The end of the connection. -/
def close (s : StreamEngine) (keepsRead keepsWrite : Bool) : StreamEngine :=
  { s with readEnd := s.readEnd.close keepsRead, writeEnd := s.writeEnd.close keepsWrite }

end StreamEngine

/-- What happens to a stream in the engine. -/
inductive StreamNews where
  | data (bytes : Bytes)
  | fin (finalSize : Nat)
  | resetStream (errorCode : Nat)
  | stopSending (errorCode : Nat)
  | acknowledged
  /-- The record of a part that has ended before is kept or not. -/
  | connClosed (keepsRead keepsWrite : Bool)
  /-- `SSL_read_ex` handed out bytes. -/
  | handed (bytes : Bytes)
  /-- `SSL_read_ex` told of the FIN. -/
  | finRead
  /-- `SSL_read_ex` failed for good. -/
  | gaveUp
  /-- `SSL_stream_reset` reset the sending part. -/
  | resetSend (errorCode : Nat)

/-- The events no call of the application brings about. -/
def StreamNews.FromNetwork : StreamNews → Prop
  | .data _ | .fin _ | .resetStream _ | .stopSending _ | .acknowledged | .connClosed .. => True
  | _ => False

/-- What the engine makes of an event. A frame for a part that has ended is ignored; bytes that wait
are handed out also after the connection ended; `ZERO_RETURN` stands for a fully read FIN only. -/
inductive StreamMove : StreamEngine → StreamNews → StreamEngine → Prop
  | data {s : StreamEngine} {bytes : Bytes} (live : s.readEnd = .live)
      (within : ∀ size ∈ s.finalSize,
        (s.receiver.removed ++ (s.receiver.buffer ++ bytes)).length ≤ size) :
      StreamMove s (.data bytes)
        { s with receiver := { s.receiver with buffer := s.receiver.buffer ++ bytes } }
  | fin {s : StreamEngine} {size : Nat} (live : s.readEnd = .live) (unknown : s.finalSize = none)
      (within : (s.receiver.removed ++ s.receiver.buffer).length ≤ size) :
      StreamMove s (.fin size) { s with finalSize := some size }
  | resetStream {s : StreamEngine} {errorCode : Nat} (live : s.readEnd = .live) :
      StreamMove s (.resetStream errorCode) { s with readEnd := .reset errorCode }
  | stopSending {s : StreamEngine} {errorCode : Nat} (live : s.writeEnd = .live) :
      StreamMove s (.stopSending errorCode) { s with writeEnd := .reset errorCode }
  | acknowledged {s : StreamEngine} (live : s.writeEnd = .live) :
      StreamMove s .acknowledged { s with writeEnd := .finished }
  | connClosed {s : StreamEngine} {keepsRead keepsWrite : Bool} :
      StreamMove s (.connClosed keepsRead keepsWrite) (s.close keepsRead keepsWrite)
  | handed {s : StreamEngine} {got rest : Bytes}
      (readable : s.readEnd = .live ∨ s.readEnd = .connClosed false)
      (front : s.receiver.buffer = got ++ rest) : StreamMove s (.handed got) (s.handOut got rest)
  | finRead {s : StreamEngine} (read : s.FullyRead) (kept : s.readEnd.lost = false) :
      StreamMove s .finRead { s with lastError := .zeroReturn, readEnd := s.readEnd.retired }
  | gaveUp {s : StreamEngine} {err : SslError} (fails : ¬ err.IsWant) (other : err ≠ .zeroReturn) :
      StreamMove s .gaveUp { s with lastError := err }
  | resetSend {s : StreamEngine} {errorCode : Nat} :
      StreamMove s (.resetSend errorCode) (s.resetSend errorCode)

section Behaviour

variable (allowed : StreamEngine → StreamNews → Prop)

/-- An event that is allowed in the state it meets. -/
def StreamEngine.Goes (s : StreamEngine) (news : StreamNews) (s' : StreamEngine) : Prop :=
  allowed s news ∧ StreamMove s news s'

/-- Any news from the network may come in during a call. -/
def StreamEngine.Moves (s s' : StreamEngine) : Prop :=
  ∃ news, Path (fun s news s' => StreamNews.FromNetwork news ∧ s.Goes allowed news s') s news s'

/-- A failed `SSL_read_ex`: it may be asked again, or not. -/
def StreamEngine.Refuses (s s' : StreamEngine) : Prop :=
  (∃ err, err.IsWant ∧ s' = { s with lastError := err }) ∨ s.Goes allowed .gaveUp s' ∨
    s.Goes allowed .finRead s'

/-- What a call may do to the engine. The queries look at the state and leave it alone. -/
def ending (s : StreamEngine) : (call : Call) → Answer call → StreamEngine → Prop
  | .sslReadEx _ _, none, s' => ∃ s₁, s.Moves allowed s₁ ∧ s₁.Refuses allowed s'
  | .sslReadEx _ _, some got, s' => ∃ s₁, s.Moves allowed s₁ ∧ s₁.Goes allowed (.handed got.1) s'
  | .sslGetError .., err, s' => err = s.lastError ∧ s' = s
  | .sslGetBlockingMode _, mode, s' => (mode ≠ 0 ↔ s.receiver.blocking = true) ∧ s' = s
  | .sslSetBlockingMode _ blocking, rc, s' => s' = { s with receiver :=
      { s.receiver with blocking := if rc = 0 then s.receiver.blocking else blocking } }
  | .sslGetStreamReadState _, state, s' => s.readEnd.Reports state ∧ s' = s
  | .sslGetStreamReadErrorCode _, code, s' => code = s.readEnd.errorCode ∧ s' = s
  | .sslGetStreamWriteErrorCode _, code, s' => code = s.writeEnd.errorCode ∧ s' = s
  | .sslStreamReset _ errorCode, rc, s' => ∃ s₁, s.Moves allowed s₁ ∧
      (rc = 0 ∧ s' = s₁ ∨ rc ≠ 0 ∧ s₁.Goes allowed (.resetSend errorCode) s')
  | _, _, s' => s.Moves allowed s'

/-- Any event may happen at any time. -/
def anyNews (_ : StreamEngine) (_ : StreamNews) : Prop := True

end Behaviour

variable {allowed : StreamEngine → StreamNews → Prop}

/-! ### What no event undoes -/

/-- What holds of every state of the engine. -/
structure StreamEngine.Sound (s : StreamEngine) : Prop where
  /-- Nothing comes in behind the FIN. -/
  within : ∀ size ∈ s.finalSize, (s.receiver.removed ++ s.receiver.buffer).length ≤ size
  /-- A part that ended normally was fully read. -/
  finished : s.readEnd = .finished → s.FullyRead
  /-- After `ZERO_RETURN` the receiving part has ended. -/
  zeroReturn : s.lastError = .zeroReturn → s.readEnd ≠ .live
  /-- The end of the connection ends both parts. -/
  closed : ∀ lost, s.readEnd = .connClosed lost → s.writeEnd ≠ .live

namespace StreamEngine

variable {s s' : StreamEngine}

/-- Of a fully read stream nothing waits. -/
theorem Sound.buffer_nil (sound : s.Sound) (read : s.FullyRead) : s.receiver.buffer = [] := by
  have within := sound.within _ read
  rw [List.length_append] at within
  exact List.eq_nil_of_length_eq_zero (by omega)

theorem waiting_nil (empty : s.receiver.buffer = []) : s.waiting = [] := by
  unfold waiting
  rw [empty, ite_self]

/-- Everything came in and nothing waits: everything was read. -/
theorem Sound.fullyRead_iff (sound : s.Sound) : s.FullyRead ↔ s.Complete ∧ s.waiting = [] := by
  constructor
  · intro read
    have nothing := waiting_nil (sound.buffer_nil read)
    refine ⟨?_, nothing⟩
    unfold Complete
    rw [nothing, List.append_nil]
    exact read
  · rintro ⟨complete, nothing⟩
    unfold Complete at complete
    rw [nothing, List.append_nil] at complete
    exact complete

theorem waiting_of_kept (kept : s.readEnd.lost = false) : s.waiting = s.receiver.buffer := by
  unfold waiting
  rw [kept]
  rfl

theorem handOut_readEnd (s : StreamEngine) (got rest : Bytes) : (s.handOut got rest).readEnd =
    if s.finalSize = some (s.receiver.removed ++ got).length then s.readEnd.retired
    else s.readEnd := rfl

/-- Handing out moves bytes from what waits to what was removed. -/
theorem handOut_complete {got rest : Bytes} (kept : s.readEnd.lost = false)
    (front : s.receiver.buffer = got ++ rest) : (s.handOut got rest).Complete ↔ s.Complete := by
  have kept' : (s.handOut got rest).readEnd.lost = false := by
    rw [handOut_readEnd]
    split
    · rw [PartEnd.lost_retired, kept]
    · exact kept
  unfold Complete
  rw [waiting_of_kept kept, waiting_of_kept kept', front]
  show s.finalSize = some ((s.receiver.removed ++ got) ++ rest).length ↔ _
  rw [List.append_assoc]

theorem lost_of_readable (readable : s.readEnd = .live ∨ s.readEnd = .connClosed false) :
    s.readEnd.lost = false := by
  rcases readable with live | closed
  · rw [live]
    rfl
  · rw [closed]
    rfl

end StreamEngine

/-- The engine stays sound, and a receiving part that has ended stays ended. -/
structure StreamEngine.Lasts (s s' : StreamEngine) : Prop where
  sound : s.Sound → s'.Sound
  ended : s.readEnd ≠ .live → s'.readEnd ≠ .live

theorem StreamEngine.Lasts.refl (s : StreamEngine) : s.Lasts s := ⟨id, id⟩

theorem StreamEngine.Lasts.trans {s₁ s₂ s₃ : StreamEngine} (first : s₁.Lasts s₂)
    (second : s₂.Lasts s₃) : s₁.Lasts s₃ :=
  ⟨second.sound ∘ first.sound, second.ended ∘ first.ended⟩

/-- Bytes are handed out only while the receiving part is not finished; it becomes so exactly when
all of them were. -/
theorem StreamEngine.handOut_lasts {s : StreamEngine} {got rest : Bytes}
    (readable : s.readEnd = .live ∨ s.readEnd = .connClosed false)
    (front : s.receiver.buffer = got ++ rest) : s.Lasts (s.handOut got rest) := by
  have unfinished : s.readEnd ≠ .finished := by
    rcases readable with live | closed
    · rw [live]
      exact PartEnd.noConfusion
    · rw [closed]
      exact PartEnd.noConfusion
  have within (sound : s.Sound) :
      ∀ size ∈ s.finalSize, ((s.receiver.removed ++ got) ++ rest).length ≤ size := by
    rw [List.append_assoc, ← front]
    exact sound.within
  unfold StreamEngine.handOut StreamEngine.retireFin
  dsimp only
  split
  · rename_i read
    have ended := PartEnd.retired_ne_live s.readEnd
    refine ⟨fun sound => ⟨within sound, fun _ => read, fun _ => ended, fun lost closed => ?_⟩,
      fun _ => ended⟩
    exact sound.closed lost (PartEnd.connClosed_of_retired closed)
  · exact ⟨fun sound => ⟨within sound, fun finished => absurd finished unfinished,
      sound.zeroReturn, sound.closed⟩, id⟩

/-- **One event** keeps the engine sound and what has ended ended. -/
theorem StreamMove.lasts {s s' : StreamEngine} {news : StreamNews} (move : StreamMove s news s') :
    s.Lasts s' := by
  have never {ended : PartEnd} (live : s.readEnd = .live) (other : s.readEnd = ended)
      (differs : ended ≠ .live) : False := differs (other.symm.trans live)
  cases move with
  | data live within =>
      refine ⟨fun sound => ⟨within, fun finished => ?_, sound.zeroReturn, sound.closed⟩, id⟩
      exact (never live finished PartEnd.noConfusion).elim
  | fin live unknown within =>
      refine ⟨fun sound => ⟨?_, fun finished => ?_, sound.zeroReturn, sound.closed⟩, id⟩
      · rintro size placed
        obtain rfl := Option.some.inj placed
        exact within
      · exact (never live finished PartEnd.noConfusion).elim
  | resetStream live =>
      exact ⟨fun sound => ⟨sound.within, PartEnd.noConfusion, fun _ => PartEnd.noConfusion,
        fun _ => PartEnd.noConfusion⟩, fun _ => PartEnd.noConfusion⟩
  | stopSending live =>
      exact ⟨fun sound => ⟨sound.within, sound.finished, sound.zeroReturn,
        fun _ _ => PartEnd.noConfusion⟩, id⟩
  | acknowledged live =>
      exact ⟨fun sound => ⟨sound.within, sound.finished, sound.zeroReturn,
        fun _ _ => PartEnd.noConfusion⟩, id⟩
  | connClosed =>
      have ended := PartEnd.close_ne_live s.readEnd
      refine ⟨fun sound => ⟨sound.within, fun finished => ?_, fun _ => ended _, fun _ _ => ?_⟩,
        fun _ => ended _⟩
      · exact sound.finished (PartEnd.finished_of_close finished)
      · exact PartEnd.close_ne_live s.writeEnd _
  | handed readable front => exact StreamEngine.handOut_lasts readable front
  | finRead read kept =>
      have ended := PartEnd.retired_ne_live s.readEnd
      refine ⟨fun sound => ⟨sound.within, fun _ => read, fun _ => ended, fun lost closed => ?_⟩,
        fun _ => ended⟩
      exact sound.closed lost (PartEnd.connClosed_of_retired closed)
  | gaveUp _ other =>
      exact ⟨fun sound => ⟨sound.within, sound.finished, fun zero => absurd zero other,
        sound.closed⟩, id⟩
  | resetSend =>
      refine ⟨fun sound => ⟨sound.within, sound.finished, sound.zeroReturn, fun lost closed => ?_⟩,
        id⟩
      show (if s.writeEnd = .live then _ else s.writeEnd) ≠ _
      rw [if_neg (sound.closed lost closed)]
      exact sound.closed lost closed

/-- What every event keeps, the news during a call keep. -/
theorem StreamEngine.Moves.relation {R : StreamEngine → StreamEngine → Prop} (refl : ∀ s, R s s)
    (trans : ∀ s₁ s₂ s₃, R s₁ s₂ → R s₂ s₃ → R s₁ s₃)
    (kept : ∀ s news s', s.Goes allowed news s' → R s s') {s s' : StreamEngine}
    (moves : s.Moves allowed s') : R s s' := by
  obtain ⟨news, path⟩ := moves
  exact path.relation refl trans fun _ _ _ move => kept _ _ _ move.2

/-- **What every event keeps, every call keeps**, if it does not look at the last error or the
blocking mode. -/
theorem ending_relation {R : StreamEngine → StreamEngine → Prop} (refl : ∀ s, R s s)
    (trans : ∀ s₁ s₂ s₃, R s₁ s₂ → R s₂ s₃ → R s₁ s₃)
    (kept : ∀ s news s', s.Goes allowed news s' → R s s')
    (wants : ∀ (s : StreamEngine) err, err.IsWant → R s { s with lastError := err })
    (modes : ∀ (s : StreamEngine) blocking,
      R s { s with receiver := { s.receiver with blocking } }) {s s' : StreamEngine} {call : Call}
    {answer : Answer call} (replied : ending allowed s call answer s') : R s s' := by
  have news {s s' : StreamEngine} (moves : s.Moves allowed s') : R s s' :=
    moves.relation refl trans kept
  cases call with
  | sslReadEx ssl space =>
      cases answer with
      | none =>
          obtain ⟨s₁, moves, ⟨err, want, rfl⟩ | fails | ends⟩ := replied
          · exact trans _ _ _ (news moves) (wants s₁ err want)
          · exact trans _ _ _ (news moves) (kept _ _ _ fails)
          · exact trans _ _ _ (news moves) (kept _ _ _ ends)
      | some got =>
          obtain ⟨s₁, moves, goes⟩ := replied
          exact trans _ _ _ (news moves) (kept _ _ _ goes)
  | sslStreamReset ssl errorCode =>
      obtain ⟨s₁, moves, ⟨_, rfl⟩ | ⟨_, goes⟩⟩ := replied
      · exact news moves
      · exact trans _ _ _ (news moves) (kept _ _ _ goes)
  | sslSetBlockingMode ssl blocking =>
      obtain rfl : s' = _ := replied
      exact modes s _
  | sslGetError | sslGetBlockingMode | sslGetStreamReadState | sslGetStreamReadErrorCode
  | sslGetStreamWriteErrorCode =>
      obtain ⟨_, rfl⟩ := replied
      exact refl _
  | _ => exact news replied

/-- **One call** keeps the engine sound and what has ended ended. -/
theorem lasts_of_ending {s s' : StreamEngine} {call : Call} {answer : Answer call}
    (replied : ending allowed s call answer s') : s.Lasts s' := by
  refine ending_relation .refl (fun _ _ _ => .trans) (fun _ _ _ goes => goes.2.lasts)
    (fun s err want => ?_) (fun s blocking => ?_) replied
  · refine ⟨fun sound => ⟨sound.within, sound.finished, ?_, sound.closed⟩, id⟩
    rintro rfl
    exact absurd want (by decide)
  · exact ⟨fun sound => ⟨sound.within, sound.finished, sound.zeroReturn, sound.closed⟩, id⟩

/-- A whole run does. -/
theorem lasts_of_run {α : Type} {p : Quic α} {s s' : StreamEngine} {value : α}
    (run : Run (ending allowed) p s value s') : s.Lasts s' :=
  run.relation .refl (fun _ _ _ => .trans) fun _ _ _ _ replied => lasts_of_ending replied

/-! ### The receive side of the engine receives -/

theorem Receiver.Arrives.trans {s₁ s₂ s₃ : Receiver} (first : s₁.Arrives s₂)
    (second : s₂.Arrives s₃) : s₁.Arrives s₃ := by
  obtain ⟨bytes, rfl⟩ := first
  obtain ⟨more, rfl⟩ := second
  exact ⟨bytes ++ more, by rw [List.append_assoc]⟩

/-- Bytes come in from the network only. -/
theorem StreamMove.arrives {s s' : StreamEngine} {news : StreamNews} (move : StreamMove s news s')
    (reads : ∀ got, news ≠ .handed got) : s.receiver.Arrives s'.receiver := by
  cases move with
  | data => exact ⟨_, rfl⟩
  | handed => exact absurd rfl (reads _)
  | _ => exact .refl _

theorem StreamEngine.Moves.arrives {s s' : StreamEngine} (moves : s.Moves allowed s') :
    s.receiver.Arrives s'.receiver := by
  obtain ⟨news, path⟩ := moves
  refine path.relation (R := fun s s' => s.receiver.Arrives s'.receiver) (fun _ => .refl _)
    (fun _ _ _ => .trans) fun _ news _ move => move.2.2.arrives ?_
  rintro got rfl
  exact move.1

theorem StreamEngine.Refuses.receiver {s s' : StreamEngine} (refused : s.Refuses allowed s') :
    s'.receiver = s.receiver := by
  rcases refused with ⟨err, _, rfl⟩ | ⟨_, move⟩ | ⟨_, move⟩
  · rfl
  · cases move
    rfl
  · cases move
    rfl

/-- The view of the engine as a receive side keeps its contract. -/
theorem receiving_of_ending {s s' : StreamEngine} {call : Call} {answer : Answer call}
    (replied : ending allowed s call answer s') : receiving s.receiver call answer s'.receiver := by
  cases call with
  | sslReadEx ssl space =>
      cases answer with
      | none =>
          obtain ⟨s₁, moves, refused⟩ := replied
          show s.receiver.Arrives s'.receiver
          rw [refused.receiver]
          exact moves.arrives
      | some got =>
          obtain ⟨s₁, moves, _, move⟩ := replied
          obtain ⟨arrived, received⟩ := moves.arrives
          cases move with
          | @handed _ rest _ front =>
              refine ⟨arrived, rest, ?_, ?_⟩
              · rw [← front, received]
              · show { s₁.receiver with buffer := rest, removed := s₁.receiver.removed ++ got.1 } = _
                rw [received]
  | sslStreamReset ssl errorCode =>
      obtain ⟨s₁, moves, ⟨_, rfl⟩ | ⟨_, _, move⟩⟩ := replied
      · exact moves.arrives
      · exact moves.arrives.trans (move.arrives nofun)
  | sslSetBlockingMode ssl blocking =>
      obtain rfl : s' = _ := replied
      exact .refl _
  | sslGetBlockingMode ssl =>
      obtain ⟨mode, rfl⟩ := replied
      exact ⟨mode, .refl _⟩
  | sslGetError | sslGetStreamReadState | sslGetStreamReadErrorCode
  | sslGetStreamWriteErrorCode =>
      obtain ⟨_, rfl⟩ := replied
      exact Receiver.Arrives.refl _
  | _ => exact StreamEngine.Moves.arrives replied

end PhpQuic
