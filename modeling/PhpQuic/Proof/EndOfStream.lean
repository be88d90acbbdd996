/-
**The end of a stream: what `getResetCode()` says after `read()` returned null.**

* `StreamEngine.Told`: the condition on one event, in the state it meets.
* `StreamMove.tells_iff`: one event leaves a record that tells the truth exactly if it meets the
  condition.
* `read_null`: when `read()` answers null the receiving part has ended.
* `Ending.Valid`, `Ending.Truthful`: the invariants of every run, and of a run whose events meet the
  condition.
* `reset_code_iff`: in such a run, after a null `getResetCode()` is null exactly for a clean end.
-/

import PhpQuic.Proof.StreamEngine

namespace PhpQuic

open Interact

variable {allowed : StreamEngine → StreamNews → Prop}

/-! ### The condition on one event -/

/-- A reset stays on record when the connection ends. -/
def StreamEngine.KeepsReset (s : StreamEngine) (keepsRead keepsWrite : Bool) : Prop :=
  keepsRead = true ∧ s.readEnd.errorCode ≠ none ∨ keepsWrite = true ∧ s.writeEnd.errorCode ≠ none

instance (s : StreamEngine) (keepsRead keepsWrite : Bool) :
    Decidable (s.KeepsReset keepsRead keepsWrite) := inferInstanceAs (Decidable (_ ∨ _))

/-- **When an event leaves a record that tells the truth.** -/
def StreamEngine.Told (s : StreamEngine) : StreamNews → Prop
  /- RESET_STREAM comes before everything up to a known FIN has been read. -/
  | .resetStream _ => ¬ s.FullyRead
  /- The sending part is not reset once the receiving part was read to its FIN, -/
  | .stopSending _ | .resetSend _ => s.writeEnd = .live → s.readEnd ≠ .finished
  /- and the FIN is not read once the sending part was reset. -/
  | .handed got => s.readEnd = .live →
      s.finalSize = some (s.receiver.removed ++ got).length → s.writeEnd.errorCode = none
  | .finRead => s.readEnd = .live → s.writeEnd.errorCode = none
  /- The connection ends after everything up to the FIN has come in, or before that with a reset
  that stays on record. -/
  | .connClosed keepsRead keepsWrite =>
    if s.KeepsReset keepsRead keepsWrite then ¬ s.Complete else s.Complete
  /- `SSL_read_ex` does not give up while the end of a complete stream is waiting. -/
  | .gaveUp => s.readEnd ≠ .live → s.Complete → s.waiting = []
  | _ => True

/-- The record tells the truth: once the receiving part has ended, no reset is on record exactly if
everything up to the FIN has come in. -/
def StreamEngine.Tells (s : StreamEngine) : Prop := s.readEnd ≠ .live → (s.Unreset ↔ s.Complete)

/-- What came in up to the FIN has been read. -/
def StreamEngine.Settled (s : StreamEngine) : Prop := s.Complete → s.waiting = []

namespace StreamEngine

variable {s : StreamEngine}

theorem tells_of_live (live : s.readEnd = .live) : s.Tells := fun ended => absurd live ended

theorem close_complete (s : StreamEngine) (keepsRead keepsWrite : Bool) :
    (s.close keepsRead keepsWrite).Complete ↔ s.Complete := by
  unfold Complete waiting close
  dsimp only
  rw [PartEnd.lost_close]

theorem close_waiting (s : StreamEngine) (keepsRead keepsWrite : Bool) :
    (s.close keepsRead keepsWrite).waiting = s.waiting := by
  unfold waiting close
  dsimp only
  rw [PartEnd.lost_close]

theorem close_errorCode (part : PartEnd) (keeps : Bool) :
    (part.close keeps).errorCode = none ↔ ¬ (keeps = true ∧ part.errorCode ≠ none) := by
  cases keeps <;> cases part <;> simp [PartEnd.close, PartEnd.errorCode]

/-- The end of the connection leaves no reset on record, or keeps one. -/
theorem close_unreset (s : StreamEngine) (keepsRead keepsWrite : Bool) :
    (s.close keepsRead keepsWrite).Unreset ↔ ¬ s.KeepsReset keepsRead keepsWrite := by
  unfold Unreset KeepsReset close
  rw [close_errorCode, close_errorCode, not_or]

/-- A sending part that is reset while the connection lives. -/
theorem reset_tells_iff {s' : StreamEngine} (sound : s.Sound) (tells : s.Tells)
    (live : s.writeEnd = .live) (same : s'.readEnd = s.readEnd)
    (complete : s'.Complete ↔ s.Complete) (onRecord : s'.writeEnd.errorCode ≠ none) :
    s'.Tells ↔ (s.writeEnd = .live → s.readEnd ≠ .finished) := by
  have marked : ¬ s'.Unreset := fun unreset => onRecord unreset.2
  constructor
  · intro tells' _ finished
    have ended : s'.readEnd ≠ .live := by
      rw [same, finished]
      exact PartEnd.noConfusion
    have all : s.Complete := (sound.fullyRead_iff.mp (sound.finished finished)).1
    exact marked ((tells' ended).mpr (complete.mpr all))
  · intro told ended
    rw [same] at ended
    -- The receiving part was reset: any other end is excluded.
    have before : ¬ s.Unreset := by
      intro unreset
      cases part : s.readEnd with
      | live => exact ended part
      | finished => exact told live part
      | connClosed lost => exact sound.closed lost part live
      | reset code =>
          rw [Unreset, part] at unreset
          exact Option.some_ne_none code unreset.1
    rw [complete]
    exact ⟨fun unreset => absurd unreset marked,
      fun all => absurd ((tells ended).mpr all) before⟩

/-- A receiving part that becomes finished. -/
theorem finished_tells_iff {s : StreamEngine} (finished : s.readEnd = .finished)
    (complete : s.Complete) : s.Tells ↔ s.writeEnd.errorCode = none := by
  have ended : s.readEnd ≠ .live := by
    rw [finished]
    exact PartEnd.noConfusion
  have code : s.readEnd.errorCode = none := by rw [finished]; rfl
  exact ⟨fun tells => ((tells ended).mpr complete).2,
    fun unreset _ => ⟨fun _ => complete, fun _ => ⟨code, unreset⟩⟩⟩

/-- Bytes are handed out. -/
theorem handOut_tells_iff (tells : s.Tells) {got rest : Bytes}
    (readable : s.readEnd = .live ∨ s.readEnd = .connClosed false)
    (front : s.receiver.buffer = got ++ rest) (sound : (s.handOut got rest).Sound) :
    (s.handOut got rest).Tells ↔ s.Told (.handed got) := by
  have complete := handOut_complete (lost_of_readable readable) front
  rcases readable with live | closed
  · by_cases read : s.finalSize = some (s.receiver.removed ++ got).length
    · have finished : (s.handOut got rest).readEnd = .finished := by
        rw [handOut_readEnd, if_pos read, live]
        rfl
      have all : (s.handOut got rest).FullyRead := read
      rw [finished_tells_iff finished (sound.fullyRead_iff.mp all).1]
      exact ⟨fun unreset _ _ => unreset, fun told => told live read⟩
    · have still : (s.handOut got rest).readEnd = .live := by
        rw [handOut_readEnd, if_neg read, live]
      exact ⟨fun _ _ all => absurd all read, fun _ => tells_of_live still⟩
  · have same : (s.handOut got rest).readEnd = s.readEnd := by
      rw [handOut_readEnd, closed]
      exact ite_self _
    refine ⟨fun _ live => absurd (closed.symm.trans live) PartEnd.noConfusion, fun _ ended => ?_⟩
    rw [complete, ← tells (same ▸ ended)]
    unfold Unreset
    rw [same]
    rfl

/-- A receiving part that is reset before everything was read. -/
theorem resetStream_tells_iff (errorCode : Nat) :
    Tells { s with readEnd := .reset errorCode } ↔ ¬ s.FullyRead := by
  have onRecord : ¬ Unreset { s with readEnd := .reset errorCode } :=
    fun unreset => Option.some_ne_none errorCode unreset.1
  have read : Complete { s with readEnd := .reset errorCode } ↔ s.FullyRead := by
    show s.finalSize = some (s.receiver.removed ++ []).length ↔ _
    rw [List.append_nil]
    rfl
  refine ⟨fun tells all => onRecord ((tells PartEnd.noConfusion).mpr (read.mpr all)), ?_⟩
  exact fun told _ => ⟨fun unreset => absurd unreset onRecord,
    fun complete => absurd (read.mp complete) told⟩

/-- The end of the connection. -/
theorem close_tells_iff (keepsRead keepsWrite : Bool) :
    (s.close keepsRead keepsWrite).Tells ↔ s.Told (.connClosed keepsRead keepsWrite) := by
  have ended : (s.close keepsRead keepsWrite).readEnd ≠ .live := PartEnd.close_ne_live _ _
  have law : (s.close keepsRead keepsWrite).Tells ↔
      (¬ s.KeepsReset keepsRead keepsWrite ↔ s.Complete) := by
    rw [← s.close_unreset, ← s.close_complete keepsRead keepsWrite]
    exact ⟨fun tells => tells ended, fun law _ => law⟩
  rw [law]
  unfold Told
  dsimp only
  by_cases keeps : s.KeepsReset keepsRead keepsWrite
  · rw [if_pos keeps]
    exact ⟨fun law complete => law.mpr complete keeps,
      fun told => ⟨fun unreset => absurd keeps unreset, fun complete => absurd complete told⟩⟩
  · rw [if_neg keeps]
    exact ⟨fun law => law.mp keeps, fun told => ⟨fun _ => told, fun _ => keeps⟩⟩

/-- The FIN is told of. -/
theorem finRead_tells_iff (tells : s.Tells) (read : s.FullyRead)
    (sound : Sound { s with lastError := .zeroReturn, readEnd := s.readEnd.retired }) :
    Tells { s with lastError := .zeroReturn, readEnd := s.readEnd.retired } ↔ s.Told .finRead := by
  by_cases live : s.readEnd = .live
  · have finished : s.readEnd.retired = .finished := by
      rw [live]
      rfl
    rw [finished_tells_iff finished (sound.fullyRead_iff.mp read).1]
    exact ⟨fun unreset _ => unreset, fun told => told live⟩
  · rw [PartEnd.retired_of_ended live]
    exact ⟨fun _ live' => absurd live' live, fun _ => tells⟩

/-- Where the record tells the truth, it tells a stream read to its FIN from all others exactly if
nothing of a complete one is waiting. -/
theorem unreset_iff_fullyRead (sound : s.Sound) (tells : s.Tells) :
    (s.readEnd ≠ .live → (s.Unreset ↔ s.FullyRead)) ↔
      (s.readEnd ≠ .live → s.Complete → s.waiting = []) := by
  refine forall_congr' fun ended => ?_
  rw [sound.fullyRead_iff, tells ended]
  exact ⟨fun law complete => (law.mp complete).2,
    fun told => ⟨fun complete => ⟨complete, told complete⟩, And.left⟩⟩

end StreamEngine

/-- **One event** leaves a record that tells the truth exactly if it meets the condition. -/
theorem StreamMove.tells_iff {s s' : StreamEngine} {news : StreamNews} (move : StreamMove s news s')
    (sound : s.Sound) (tells : s.Tells) (other : news ≠ .gaveUp) : s'.Tells ↔ s.Told news := by
  have sound' := move.lasts.sound sound
  cases move with
  | data live _ => exact ⟨fun _ => trivial, fun _ => StreamEngine.tells_of_live live⟩
  | fin live _ _ => exact ⟨fun _ => trivial, fun _ => StreamEngine.tells_of_live live⟩
  | resetStream live => exact StreamEngine.resetStream_tells_iff _
  | stopSending live =>
      exact StreamEngine.reset_tells_iff sound tells live rfl Iff.rfl (Option.some_ne_none _)
  | acknowledged live =>
      refine ⟨fun _ => trivial, fun _ ended => ?_⟩
      have before := tells ended
      rw [StreamEngine.Unreset, live] at before
      exact before
  | connClosed => exact StreamEngine.close_tells_iff _ _
  | handed readable front => exact StreamEngine.handOut_tells_iff tells readable front sound'
  | finRead read _ => exact StreamEngine.finRead_tells_iff tells read sound'
  | gaveUp => exact absurd rfl other
  | resetSend =>
      unfold StreamEngine.resetSend
      by_cases live : s.writeEnd = .live
      · rw [if_pos live]
        exact StreamEngine.reset_tells_iff sound tells live rfl Iff.rfl (Option.some_ne_none _)
      · rw [if_neg live]
        exact ⟨fun _ live' => absurd live' live, fun _ => tells⟩

/-- A stream that is settled after its receiving part has ended stays so. -/
theorem StreamMove.settled {s s' : StreamEngine} {news : StreamNews} (move : StreamMove s news s')
    (ended : s.readEnd ≠ .live) (settled : s.Settled) : s'.Settled := by
  cases move with
  | data live | fin live | resetStream live => exact absurd live ended
  | stopSending | acknowledged | gaveUp | resetSend => exact settled
  | connClosed =>
      intro complete
      rw [s.close_waiting]
      exact settled ((s.close_complete _ _).mp complete)
  | handed readable front =>
      intro complete
      have kept := StreamEngine.lost_of_readable readable
      have nothing := settled ((StreamEngine.handOut_complete kept front).mp complete)
      rw [StreamEngine.waiting_of_kept kept, front, List.append_eq_nil_iff] at nothing
      exact StreamEngine.waiting_nil nothing.2
  | finRead =>
      unfold StreamEngine.Settled StreamEngine.Complete StreamEngine.waiting
      dsimp only
      rw [PartEnd.lost_retired]
      exact settled

/-- What events that meet the condition keep. -/
structure StreamEngine.Honours (s s' : StreamEngine) : Prop where
  lasts : s.Lasts s'
  tells : s.Sound → s.Tells → s'.Tells
  settled : s.readEnd ≠ .live → s.Settled → s'.Settled

theorem StreamEngine.Honours.refl (s : StreamEngine) : s.Honours s :=
  ⟨.refl s, fun _ => id, fun _ => id⟩

theorem StreamEngine.Honours.trans {s₁ s₂ s₃ : StreamEngine} (first : s₁.Honours s₂)
    (second : s₂.Honours s₃) : s₁.Honours s₃ where
  lasts := first.lasts.trans second.lasts
  tells sound tells := second.tells (first.lasts.sound sound) (first.tells sound tells)
  settled ended settled := second.settled (first.lasts.ended ended) (first.settled ended settled)

/-- One event that meets the condition. -/
theorem StreamEngine.Goes.honours {s s' : StreamEngine} {news : StreamNews}
    (goes : s.Goes StreamEngine.Told news s') : s.Honours s' := by
  refine ⟨goes.2.lasts, fun sound tells => ?_, goes.2.settled⟩
  by_cases failed : news = .gaveUp
  · subst failed
    obtain ⟨_, move⟩ := goes
    cases move
    exact tells
  · exact (goes.2.tells_iff sound tells failed).mpr goes.1

/-- A run in which every event does. -/
theorem honours_of_run {α : Type} {p : Quic α} {s s' : StreamEngine} {value : α}
    (run : Run (ending StreamEngine.Told) p s value s') : s.Honours s' :=
  run.relation .refl (fun _ _ _ => .trans) fun s call answer s' replied =>
    ending_relation .refl (fun _ _ _ => .trans) (fun _ _ _ => StreamEngine.Goes.honours)
      (fun s err want => ⟨⟨fun sound => ⟨sound.within, sound.finished, by
          rintro rfl
          exact absurd want (by decide), sound.closed⟩, id⟩, fun _ => id, fun _ => id⟩)
      (fun s blocking => ⟨⟨fun sound => ⟨sound.within, sound.finished, sound.zeroReturn,
        sound.closed⟩, id⟩, fun _ => id, fun _ => id⟩) replied

/-- So `read()` hands out what it removed here, too. -/
theorem ending_removes {obj : PhpQuicStream} {length : Int} {s s' : StreamEngine}
    {outcome : Outcome (Option Bytes)}
    (run : Run (ending allowed) (Stream.read obj length) s outcome s') :
    s'.receiver.removed = s.receiver.removed ++ readBytes outcome :=
  (read_removes obj length s.receiver _ _
    (run.map StreamEngine.receiver fun _ _ _ _ => receiving_of_ending)).1

/-! ### `read()` answers null -/

def isNull : Outcome (Option Bytes) → Bool
  | .ok none => true
  | _ => false

/-- Behind an empty loop, null stands for a part that has ended and a read that failed for good. -/
theorem endOfRead_null (ssl : Ssl) (rc : Int) {s : StreamEngine} (sound : s.Sound) :
    Always (ending allowed) (Stream.endOfRead ssl rc) (fun outcome s' =>
      isNull outcome = true → s' = s ∧ s.readEnd ≠ .live ∧ ¬ s.lastError.IsWant) s := by
  unfold Stream.endOfRead
  refine always_call_bind.mpr ?_
  rintro err _ ⟨rfl, rfl⟩
  refine .ite (fun _ => .pure Bool.noConfusion) fun fails => .ite (fun zero => ?_) fun _ => ?_
  · exact .pure fun _ => ⟨rfl, sound.zeroReturn zero, fails⟩
  · refine always_call_bind.mpr ?_
    rintro state _ ⟨reported, rfl⟩
    cases state with
    | resetRemote => exact .pure fun _ => ⟨rfl, reported.ne_live (by decide), fails⟩
    | resetLocal => exact .pure fun _ => ⟨rfl, reported.ne_live (by decide), fails⟩
    | connClosed => exact .pure fun _ => ⟨rfl, reported.ne_live (by decide), fails⟩
    | _ =>
        intro outcome s' run
        have throws : Returns (fun outcome => isNull outcome = false)
            (throwing (phpQuicThrowSsl (text "stream read failed")) : Quic (Outcome (Option Bytes))) :=
          throwing_returns (fun _ => rfl) _
        rw [throws.of_run run]
        exact Bool.noConfusion

/-- An empty result of the loop is a failed `SSL_read_ex`. -/
theorem readLoop_refused (ssl : Ssl) (want : Nat) (blocking : Bool) (buf : Stream.ReadBuffer want)
    (s : StreamEngine) :
    Always (ending allowed) (Stream.readLoop ssl want blocking buf) (fun result s' => s.Sound →
      result.1 = [] → ∃ s₁ : StreamEngine, s₁.Sound ∧ s₁.Refuses allowed s') s := by
  have filled (buf : Stream.ReadBuffer want)
      (got : {bytes : Bytes // 0 < bytes.length ∧ bytes.length ≤ buf.cap - buf.bytes.length}) :
      buf.bytes ++ got.1 ≠ [] := by
    intro empty
    have some := got.2.1
    rw [(List.append_eq_nil_iff.mp empty).2] at some
    exact absurd some (Nat.lt_irrefl 0)
  apply always_readLoop
  · rintro buf s s' ⟨s₁, moves, refused⟩ sound -
    exact ⟨s₁, (moves.relation .refl (fun _ _ _ => .trans) fun _ _ _ goes =>
      goes.2.lasts).sound sound, refused⟩
  · intro buf s got s' _ _ _ empty
    exact absurd empty (filled buf got)
  · intro buf s got s' _ _ _ _ empty
    exact absurd empty (filled buf got)
  · intro buf s got s₁ replied _ _ result s' later sound
    exact later ((lasts_of_ending replied).sound sound)

/-- When `read()` on a live object answers null, the receiving part has ended, and the last
`SSL_read_ex` failed for good. -/
theorem read_null {obj : PhpQuicStream} {ssl : Ssl} (owned : obj.ssl = some ssl) (length : Int)
    {s : StreamEngine} (sound : s.Sound) :
    Always (ending allowed) (Stream.read obj length) (fun outcome s' => isNull outcome = true →
      s'.readEnd ≠ .live ∧ ¬ s'.lastError.IsWant ∧
        ∃ s₁ : StreamEngine, s₁.Sound ∧ s₁.Refuses allowed s') s := by
  unfold Stream.read
  split
  · exact .pure Bool.noConfusion
  · simp only [owned]
    refine always_call_bind.mpr ?_
    rintro mode _ ⟨_, rfl⟩
    refine always_bind.mpr ?_
    rintro ⟨bytes, rc⟩ s₁ looped
    have sound₁ : s₁.Sound := (lasts_of_run looped).sound sound
    refine .ite (fun _ => .pure Bool.noConfusion) fun empty => ?_
    refine (endOfRead_null ssl rc sound₁).mono fun outcome s' told null => ?_
    obtain ⟨rfl, ended, fails⟩ := told null
    have nothing : bytes = [] := by simpa using empty
    exact ⟨ended, fails, readLoop_refused ssl _ _ _ _ _ _ looped sound nothing⟩

/-- A read that failed for good, where the condition is met, leaves a settled stream. -/
theorem StreamEngine.Refuses.settled {s s' : StreamEngine}
    (refused : s.Refuses StreamEngine.Told s') (sound : s.Sound) (fails : ¬ s'.lastError.IsWant)
    (ended : s'.readEnd ≠ .live) : s'.Settled := by
  rcases refused with ⟨err, want, rfl⟩ | ⟨told, move⟩ | ⟨told, move⟩
  · exact absurd want fails
  · cases move
    exact told ended
  · have sound' := move.lasts.sound sound
    cases move with
    | finRead read kept => exact fun _ => (sound'.fullyRead_iff.mp read).2

/-! ### Runs -/

/-- The engine, what `read()` has returned so far, and whether it has returned null. -/
structure Ending where
  engine : StreamEngine
  delivered : Bytes
  sawNull : Bool
  deriving DecidableEq

/-- One event at the stream. -/
inductive EndEvent where
  | news (news : StreamNews)
  | read (length : Int) (outcome : Outcome (Option Bytes))
  | reset (errorCode : Int) (outcome : Outcome Unit)
  | setBlocking (conn : PhpQuicConnection) (blocking : Bool) (outcome : Outcome Unit)

/-- What the events do, where what happens in the engine is allowed. -/
inductive EndStep (allowed : StreamEngine → StreamNews → Prop) (obj : PhpQuicStream) :
    Ending → EndEvent → Ending → Prop
  | news {s : Ending} {news : StreamNews} {engine : StreamEngine} (network : news.FromNetwork)
      (goes : s.engine.Goes allowed news engine) :
      EndStep allowed obj s (.news news) { s with engine }
  | read {s : Ending} {length : Int} {outcome : Outcome (Option Bytes)} {engine : StreamEngine}
      (ran : Run (ending allowed) (Stream.read obj length) s.engine outcome engine) :
      EndStep allowed obj s (.read length outcome)
        ⟨engine, s.delivered ++ readBytes outcome, s.sawNull || isNull outcome⟩
  | reset {s : Ending} {errorCode : Int} {outcome : Outcome Unit} {engine : StreamEngine}
      (ran : Run (ending allowed) (Stream.reset obj errorCode) s.engine outcome engine) :
      EndStep allowed obj s (.reset errorCode outcome) { s with engine }
  | setBlocking {s : Ending} {conn : PhpQuicConnection} {blocking : Bool} {outcome : Outcome Unit}
      {engine : StreamEngine}
      (ran : Run (ending allowed) (Connection.setBlocking conn blocking) s.engine outcome engine) :
      EndStep allowed obj s (.setBlocking conn blocking outcome) { s with engine }

/-- A clean end: the peer concluded with FIN, and `read()` has delivered every byte before it. -/
def Ending.Clean (s : Ending) : Prop := s.engine.finalSize = some s.delivered.length

instance (s : Ending) : Decidable s.Clean := inferInstanceAs (Decidable (_ = _))

/-- **What holds of every state.** -/
structure Ending.Valid (s : Ending) : Prop where
  sound : s.engine.Sound
  delivered : s.engine.receiver.removed = s.delivered
  null : s.sawNull = true → s.engine.readEnd ≠ .live

/-- **What holds of every state of a run whose events meet the condition.** -/
structure Ending.Truthful (s : Ending) : Prop where
  valid : s.Valid
  tells : s.engine.Tells
  settled : s.sawNull = true → s.engine.Settled

theorem reset_idle (obj : PhpQuicStream) (errorCode : Int) :
    Only Call.IsIdle (Stream.reset obj errorCode) := by
  unfold Stream.reset
  split
  · exact .pure _
  · exact .bind (.call trivial) fun _ => .ite (throwing_idle _) (.pure _)

/-- A run without reads hands out nothing. -/
theorem ending_keeps {α : Type} {p : Quic α} (idle : Only Call.IsIdle p) {s s' : StreamEngine}
    {value : α} (run : Run (ending allowed) p s value s') :
    s'.receiver.removed = s.receiver.removed :=
  removed_of_idle idle (run.map StreamEngine.receiver fun _ _ _ _ => receiving_of_ending)

/-- **One event** keeps the invariant. -/
theorem EndStep.valid {obj : PhpQuicStream} {ssl : Ssl} (owned : obj.ssl = some ssl)
    {s s' : Ending} {event : EndEvent} (step : EndStep allowed obj s event s') (valid : s.Valid) :
    s'.Valid := by
  obtain ⟨sound, delivered, null⟩ := valid
  cases step with
  | news network goes =>
      have lasts := goes.2.lasts
      have same : s.engine.receiver.Arrives _ := goes.2.arrives fun got handed => by
        subst handed
        exact network
      obtain ⟨bytes, received⟩ := same
      refine ⟨lasts.sound sound, ?_, fun saw => lasts.ended (null saw)⟩
      rw [received]
      exact delivered
  | read ran =>
      have lasts := lasts_of_run ran
      refine ⟨lasts.sound sound, ?_, fun saw => ?_⟩
      · rw [ending_removes ran, delivered]
      · rcases Bool.or_eq_true_iff.mp saw with before | now
        · exact lasts.ended (null before)
        · exact (read_null owned _ sound _ _ ran now).1
  | reset ran =>
      have lasts := lasts_of_run ran
      refine ⟨lasts.sound sound, ?_, fun saw => lasts.ended (null saw)⟩
      rw [ending_keeps (reset_idle obj _) ran]
      exact delivered
  | setBlocking ran =>
      have lasts := lasts_of_run ran
      refine ⟨lasts.sound sound, ?_, fun saw => lasts.ended (null saw)⟩
      rw [ending_keeps (setBlocking_idle _ _) ran]
      exact delivered

/-- **One event that meets the condition** keeps the record truthful. -/
theorem EndStep.truthful {obj : PhpQuicStream} {ssl : Ssl} (owned : obj.ssl = some ssl)
    {s s' : Ending} {event : EndEvent} (step : EndStep StreamEngine.Told obj s event s')
    (truthful : s.Truthful) : s'.Truthful := by
  have valid := step.valid owned truthful.valid
  -- What a part of the engine's run keeps, if the event does not answer null.
  have kept {engine : StreamEngine} (honours : s.engine.Honours engine) :
      engine.Tells ∧ (s.sawNull = true → engine.Settled) :=
    ⟨honours.tells truthful.valid.sound truthful.tells,
      fun saw => honours.settled (truthful.valid.null saw) (truthful.settled saw)⟩
  cases step with
  | news _ goes => exact ⟨valid, (kept goes.honours).1, (kept goes.honours).2⟩
  | reset ran | setBlocking ran =>
      have here := kept (honours_of_run ran)
      exact ⟨valid, here.1, here.2⟩
  | read ran =>
      have here := kept (honours_of_run ran)
      refine ⟨valid, here.1, fun saw => ?_⟩
      rcases Bool.or_eq_true_iff.mp saw with before | now
      · exact here.2 before
      · obtain ⟨ended, fails, s₁, sound₁, refused⟩ :=
          read_null owned _ truthful.valid.sound _ _ ran now
        exact refused.settled sound₁ fails ended

/-! ### `getResetCode()` -/

/-- `getResetCode()` is null exactly when neither part is on record as reset. -/
theorem getResetCode_none_iff {obj : PhpQuicStream} {ssl : Ssl} (owned : obj.ssl = some ssl)
    {s s' : StreamEngine} {code : Option Int}
    (run : Run (ending allowed) (Stream.getResetCode obj) s code s') : code = none ↔ s.Unreset := by
  simp only [Stream.getResetCode, owned] at run
  obtain ⟨readCode, s₁, ⟨read, rfl⟩, rest⟩ := run_ask_iff.mp run
  cases readCode with
  | some errorCode =>
      obtain ⟨rfl, _⟩ := run_done_iff.mp rest
      simp [StreamEngine.Unreset, ← read]
  | none =>
      obtain ⟨writeCode, s₂, ⟨write, rfl⟩, rest⟩ := run_ask_iff.mp rest
      cases writeCode with
      | some errorCode =>
          obtain ⟨rfl, _⟩ := run_done_iff.mp rest
          simp [StreamEngine.Unreset, ← write]
      | none =>
          obtain ⟨rfl, _⟩ := run_done_iff.mp rest
          simp [StreamEngine.Unreset, ← read, ← write]

/-- A clean end is a stream read to its FIN. -/
theorem Ending.Valid.clean_iff {s : Ending} (valid : s.Valid) : s.Clean ↔ s.engine.FullyRead := by
  unfold Ending.Clean StreamEngine.FullyRead
  rw [valid.delivered]

/-- A stream as it is opened or accepted, before anything was read. -/
structure Ending.Fresh (s : Ending) : Prop where
  read : s.engine.readEnd = .live
  removed : s.engine.receiver.removed = []
  within : ∀ size ∈ s.engine.finalSize, s.engine.receiver.buffer.length ≤ size
  error : s.engine.lastError ≠ .zeroReturn
  delivered : s.delivered = []
  null : s.sawNull = false

theorem Ending.Fresh.valid {s : Ending} (fresh : s.Fresh) : s.Valid := by
  have never {ended : PartEnd} (other : s.engine.readEnd = ended) (differs : ended ≠ .live) :
      False := differs (other.symm.trans fresh.read)
  refine ⟨⟨?_, fun finished => ?_, fun zero => absurd zero fresh.error, fun lost closed => ?_⟩, ?_,
    fun saw => ?_⟩
  · rw [fresh.removed]
    exact fresh.within
  · exact (never finished PartEnd.noConfusion).elim
  · exact (never closed PartEnd.noConfusion).elim
  · rw [fresh.removed, fresh.delivered]
  · rw [fresh.null] at saw
    cases saw

theorem Ending.Fresh.truthful {s : Ending} (fresh : s.Fresh) : s.Truthful := by
  refine ⟨fresh.valid, StreamEngine.tells_of_live fresh.read, fun saw => ?_⟩
  rw [fresh.null] at saw
  cases saw

/-- **In a run whose events meet the condition, after `read()` has returned null `getResetCode()` is
null exactly for a clean end.** An event that does not meet it leaves a record that does not tell
the truth; a read that gives up without meeting it leaves null on record for a stream that has not
been read. -/
theorem reset_code_iff {obj : PhpQuicStream} {ssl : Ssl} (owned : obj.ssl = some ssl)
    {start s : Ending} {events : List EndEvent} (fresh : start.Fresh)
    (path : Path (EndStep StreamEngine.Told obj) start events s) :
    (s.sawNull = true → ∀ code engine,
      Run (ending anyNews) (Stream.getResetCode obj) s.engine code engine →
        (code = none ↔ s.Clean)) ∧
    (∀ news engine, StreamMove s.engine news engine → news ≠ .gaveUp →
      (engine.Tells ↔ s.engine.Told news)) ∧
    ∀ engine, StreamMove s.engine .gaveUp engine →
      ((engine.readEnd ≠ .live → (engine.Unreset ↔ engine.FullyRead)) ↔ s.engine.Told .gaveUp) := by
  obtain ⟨valid, tells, settled⟩ : s.Truthful :=
    path.invariant (fun _ _ _ truthful step => step.truthful owned truthful) fresh.truthful
  refine ⟨fun saw code engine ran => ?_, fun _ _ move => move.tells_iff valid.sound tells,
    fun engine move => ?_⟩
  · rw [getResetCode_none_iff owned ran, valid.clean_iff, valid.sound.fullyRead_iff,
      tells (valid.null saw)]
    exact ⟨fun complete => ⟨complete, settled saw complete⟩, And.left⟩
  · have sound := move.lasts.sound valid.sound
    cases move
    exact StreamEngine.unreset_iff_fullyRead sound tells

/-! ### Ends that are told, and ends that are not -/

/-- An engine with nothing to hand out and no news during calls. -/
def idleEngine : Handler openssl StreamEngine := fun s call =>
  match call with
  | .sslReadEx .. =>
    (none, if s.FullyRead ∧ s.readEnd.lost = false then
        { s with lastError := .zeroReturn, readEnd := s.readEnd.retired }
      else { s with lastError := .ssl })
  | .sslGetError .. => (s.lastError, s)
  | .sslGetBlockingMode _ => (if s.receiver.blocking then 1 else 0, s)
  | .sslSetBlockingMode .. => ((0 : Int), s)
  | .sslGetStreamReadState _ =>
    (match s.readEnd with
      | .live => .ok
      | .finished => .finished
      | .reset _ => .resetRemote
      | .connClosed _ => .connClosed, s)
  | .sslGetStreamReadErrorCode _ => (s.readEnd.errorCode, s)
  | .sslGetStreamWriteErrorCode _ => (s.writeEnd.errorCode, s)
  | .sslStreamReset .. => ((0 : Int), s)
  | call => (succeeding call, s)

theorem StreamEngine.Moves.refl (s : StreamEngine) : s.Moves allowed s := ⟨[], .nil s⟩

theorem idleEngine_idle (s : StreamEngine) (call : Call) (idle : call.IsIdle) :
    ending allowed s call (idleEngine s call).1 (idleEngine s call).2 := by
  cases call with
  | sslReadEx => exact idle.elim
  | sslGetBlockingMode ssl =>
      refine ⟨?_, rfl⟩
      cases blocking : s.receiver.blocking <;> simp [idleEngine, blocking]
  | sslGetStreamReadState ssl =>
      refine ⟨?_, rfl⟩
      simp only [idleEngine]
      cases s.readEnd with
      | live => exact .inl rfl
      | _ => rfl
  | sslStreamReset ssl errorCode => exact ⟨s, .refl s, .inl ⟨rfl, rfl⟩⟩
  | sslSetBlockingMode => rfl
  | sslGetError | sslGetStreamReadErrorCode | sslGetStreamWriteErrorCode => exact ⟨rfl, rfl⟩
  | _ => exact .refl s

theorem idleEngine_read {s : StreamEngine} (fails : allowed s .gaveUp) (ends : allowed s .finRead)
    (ssl : Ssl) (space : Nat) :
    ending allowed s (.sslReadEx ssl space) none (idleEngine s (.sslReadEx ssl space)).2 := by
  refine ⟨s, .refl s, .inr ?_⟩
  simp only [idleEngine]
  split
  · rename_i read
    exact .inr ⟨ends, .finRead read.1 read.2⟩
  · exact .inl ⟨fails, .gaveUp (by decide) (by decide)⟩

theorem idleEngine_allowed (s : StreamEngine) (call : Call) :
    ending anyNews s call (idleEngine s call).1 (idleEngine s call).2 := by
  cases call with
  | sslReadEx ssl space => exact idleEngine_read trivial trivial ssl space
  | _ => exact idleEngine_idle s _ trivial

def idleStream : PhpQuicStream := { quicStreamCreate with ssl := some 1 }

/-- A stream just opened, in blocking mode. -/
def untouched : Ending := ⟨⟨⟨[], [], true⟩, none, .live, .live, .wantRead⟩, [], false⟩

theorem untouched_fresh : untouched.Fresh := ⟨rfl, rfl, nofun, by decide, rfl, rfl⟩

/-- `read(1)` against that engine. -/
def idleRead (s : Ending) : Ending :=
  { s with
    engine := (exec idleEngine (Stream.endOfRead 1 0) (idleEngine s.engine (.sslReadEx 1 1)).2).2
    sawNull := true }

theorem idleRead_step {s : Ending} (fails : allowed s.engine .gaveUp)
    (ends : allowed s.engine .finRead)
    (null : (exec idleEngine (Stream.endOfRead 1 0)
      (idleEngine s.engine (.sslReadEx 1 1)).2).1 = .ok none) :
    EndStep allowed idleStream s (.read 1 (.ok none)) (idleRead s) := by
  have ran : Run (ending allowed) (Stream.read idleStream 1) s.engine (.ok none)
      (idleRead s).engine := by
    unfold Stream.read
    rw [dif_neg (by decide)]
    simp only [idleStream]
    refine run_call_bind_iff.mpr ⟨_, _, idleEngine_idle s.engine (.sslGetBlockingMode 1) trivial, ?_⟩
    refine run_bind_iff.mpr ⟨([], 0), (idleEngine s.engine (.sslReadEx 1 1)).2, ?_, ?_⟩
    · rw [Stream.readLoop]
      exact run_call_bind_iff.mpr ⟨none, _, idleEngine_read fails ends 1 1, .done _ _⟩
    · have answers : ∀ s call, call.IsIdle →
          ending allowed s call (idleEngine s call).1 (idleEngine s call).2 := idleEngine_idle
      have reason := (Follows.of_only (endOfRead_idle 1 0) answers
        (idleEngine s.engine (.sslReadEx 1 1)).2).run
      rw [null] at reason
      exact reason
  have step := EndStep.read ran
  rw [show readBytes (.ok none) = [] from rfl, List.append_nil,
    show isNull (.ok none) = true from rfl, Bool.or_true] at step
  exact step

/-- After the peer's RESET_STREAM with code 123. -/
def peerReset : Ending :=
  { untouched with engine := { untouched.engine with readEnd := .reset 123 } }

/-- A reset by the peer is told from a clean end. -/
theorem reset_code_example :
    (exec idleEngine (Stream.getResetCode idleStream) (idleRead peerReset).engine).1 = none ↔
      (idleRead peerReset).Clean := by
  have resets : EndStep StreamEngine.Told idleStream untouched (.news (.resetStream 123)) peerReset :=
    .news trivial ⟨(by decide : ¬ untouched.engine.FullyRead), .resetStream rfl⟩
  have reads : EndStep StreamEngine.Told idleStream peerReset _ (idleRead peerReset) :=
    idleRead_step (fun _ _ => rfl) nofun rfl
  exact (reset_code_iff rfl untouched_fresh (.cons resets (.single reads))).1 rfl _ _
    (run_exec idleEngine_allowed _ _)

/-- After the connection ended, with no FIN and no reset before. -/
def cutShort : Ending := { untouched with engine := untouched.engine.close false false }

/-- After the peer's FIN, and then its STOP_SENDING with code 7. -/
def stopped : Ending :=
  { untouched with
    engine := { untouched.engine with finalSize := some 0, writeEnd := .reset 7 } }

/-- **A stream cut short by the end of the connection looks like a clean end, and a clean end whose
sending part was stopped looks like a reset.** -/
theorem reset_code_misleads :
    ((∃ events, Path (EndStep anyNews idleStream) untouched events (idleRead cutShort)) ∧
      (idleRead cutShort).sawNull = true ∧ ¬ (idleRead cutShort).Clean ∧
      Run (ending anyNews) (Stream.getResetCode idleStream) (idleRead cutShort).engine none
        (idleRead cutShort).engine) ∧
    ((∃ events, Path (EndStep anyNews idleStream) untouched events (idleRead stopped)) ∧
      (idleRead stopped).sawNull = true ∧ (idleRead stopped).Clean ∧
      Run (ending anyNews) (Stream.getResetCode idleStream) (idleRead stopped).engine (some 7)
        (idleRead stopped).engine) := by
  have happens {s : Ending} {news : StreamNews} {engine : StreamEngine}
      (network : news.FromNetwork) (move : StreamMove s.engine news engine) :
      EndStep anyNews idleStream s (.news news) { s with engine } := .news network ⟨trivial, move⟩
  have reads {s : Ending} (null : (exec idleEngine (Stream.endOfRead 1 0)
      (idleEngine s.engine (.sslReadEx 1 1)).2).1 = .ok none) :
      EndStep anyNews idleStream s (.read 1 (.ok none)) (idleRead s) :=
    idleRead_step trivial trivial null
  have ends : EndStep anyNews idleStream untouched (.news (.connClosed false false)) cutShort :=
    happens trivial .connClosed
  have concludes : EndStep anyNews idleStream untouched (.news (.fin 0))
      { untouched with engine := { untouched.engine with finalSize := some 0 } } :=
    happens trivial (.fin rfl rfl (Nat.le_refl 0))
  have stops : EndStep anyNews idleStream
      { untouched with engine := { untouched.engine with finalSize := some 0 } }
      (.news (.stopSending 7)) stopped := happens trivial (.stopSending rfl)
  have asked (s : Ending) := run_exec idleEngine_allowed (Stream.getResetCode idleStream) s.engine
  exact ⟨⟨⟨_, .cons ends (.single (reads rfl))⟩, rfl, by decide, asked (idleRead cutShort)⟩,
    ⟨⟨_, .cons concludes (.cons stops (.single (reads rfl)))⟩, rfl, by decide,
      asked (idleRead stopped)⟩⟩

end PhpQuic
