/-
**The timed handshake agrees with the plain one.**

The engine is a script: what each of its steps comes to. A non-blocking `SSL_connect` takes one
step; a blocking one takes steps until one is decisive. The clock is the list of its readings.

* `connectTimedLoop_ends`: the loop goes on exactly over the steps that want more and still find
  time, and stops at the first other step with that step's verdict.
* `connectTimedLoop_finishes`: in non-blocking mode the engine always answers, so there is a run.
* `connectTimed_verdict`: 1, 0 and -1 are each characterised by the first step that ends the loop;
  no `SSL_connect` follows it, and the connection is left in blocking mode. Where the deadline does
  not intervene, the constructor's two handshakes have the same outcome and leave the same mode.
-/

import PhpQuic.Openssl.Environment
import PhpQuic.Proof.Calls

namespace PhpQuic

open Interact

/-- What one step of the engine comes to. -/
inductive EngineStep where
  | success
  | want
  | fatal
  deriving DecidableEq

/-- The steps taken, the `SSL_connect` calls and the clock readings so far, and the mode. -/
structure Drive where
  steps : Nat
  connects : Nat
  readings : Nat
  blocking : Bool
  deriving DecidableEq

/-- A new SSL object is in blocking mode. -/
def freshDrive : Drive := { steps := 0, connects := 0, readings := 0, blocking := true }

/-- **The engine of a script.** The step that `SSL_connect` reports is the next one, in blocking mode
the next decisive one. `SSL_get_error` tells what that step was; the mode can always be set; no other
call matters. -/
def Scripted (script : Nat → EngineStep) (clock : Nat → Nat) : Behaviour openssl Drive :=
  fun s call answer s' =>
    match call, answer with
    | .sslConnect _, rc => ∃ step,
        (if s.blocking then s.steps ≤ step ∧ script step ≠ .want ∧
            ∀ earlier, s.steps ≤ earlier → earlier < step → script earlier = .want
          else step = s.steps) ∧
        (rc = 1 ↔ script step = .success) ∧
        s' = { s with steps := step + 1, connects := s.connects + 1 }
    | .sslGetError .., err =>
        (err = .wantRead ∨ err = .wantWrite ↔ script (s.steps - 1) = .want) ∧ s' = s
    | .monotonicMs, now => now = clock s.readings ∧ s' = { s with readings := s.readings + 1 }
    | .sslSetBlockingMode _ blocking, _ => s' = { s with blocking }
    | _, _ => s' = s

section Script

variable (script : Nat → EngineStep) (clock : Nat → Nat) (timeoutMs : Int)

/-- The remaining time that a round finds after its step. Reading 0 is the start. -/
def remainingAt (step : Nat) : Int :=
  timeoutMs - toInt64 ((clock (step + 1) : Int) - clock 0)

/-- The step wants more and finds time left. -/
def Continues (step : Nat) : Prop := script step = .want ∧ 0 < remainingAt clock timeoutMs step

instance (step : Nat) : Decidable (Continues script clock timeoutMs step) :=
  inferInstanceAs (Decidable (_ ∧ _))

/-- The verdict of a step that ends the loop. -/
def endingAt (step : Nat) : Option Int :=
  match script step with
  | .success => some 1
  | .fatal => some 0
  | .want => if remainingAt clock timeoutMs step ≤ 0 then some (-1) else none

theorem endingAt_eq_none_iff (step : Nat) :
    endingAt script clock timeoutMs step = none ↔ Continues script clock timeoutMs step := by
  unfold endingAt Continues
  cases script step with
  | success => simp
  | fatal => simp
  | want =>
      by_cases late : remainingAt clock timeoutMs step ≤ 0
      · simp [late]
      · simp [late, Int.not_le.mp late]

/-- The three verdicts. -/
theorem endingAt_eq_some_iff (step : Nat) (verdict : Int) :
    endingAt script clock timeoutMs step = some verdict ↔
      script step = .success ∧ verdict = 1 ∨ script step = .fatal ∧ verdict = 0 ∨
        script step = .want ∧ remainingAt clock timeoutMs step ≤ 0 ∧ verdict = -1 := by
  unfold endingAt
  cases script step with
  | success => simp [eq_comm]
  | fatal => simp [eq_comm]
  | want =>
      by_cases late : remainingAt clock timeoutMs step ≤ 0
      · simp [late, eq_comm]
      · simp [late]

/-! ### The loop -/

/-- **What a run of the loop comes to**, from step `first` on: it went on over `count` steps, and
then ran out of rounds, or stopped at the next step with that step's verdict. -/
def LoopEnds (first fuel : Nat) (result : Option Int) (s' : Drive) : Prop :=
  ∃ count, (∀ j < count, endingAt script clock timeoutMs (first + j) = none) ∧
    (count = fuel ∧ result = none ∨
      count < fuel ∧ result = endingAt script clock timeoutMs (first + count) ∧
        result ≠ none ∧ s'.connects = first + count + 1 ∧ s'.steps = first + count + 1 ∧
        s'.blocking = true)

variable {script clock timeoutMs}

/-- One more step in front. -/
theorem LoopEnds.cons {first fuel : Nat} {result : Option Int} {s' : Drive}
    (goes : endingAt script clock timeoutMs first = none)
    (ends : LoopEnds script clock timeoutMs (first + 1) fuel result s') :
    LoopEnds script clock timeoutMs first (fuel + 1) result s' := by
  obtain ⟨count, going, last⟩ := ends
  have shift (j : Nat) : first + 1 + j = first + (j + 1) := by omega
  simp only [shift] at going last
  refine ⟨count + 1, fun j below => ?_, ?_⟩
  · cases j with
    | zero => exact goes
    | succ j => exact going j (Nat.lt_of_succ_lt_succ below)
  · rcases last with ⟨all, none⟩ | ⟨before, stop⟩
    · exact .inl ⟨congrArg (· + 1) all, none⟩
    · exact .inr ⟨Nat.succ_lt_succ before, stop⟩

theorem connectTimedLoop_ends (ssl : Ssl) (fd : Fd) (fuel : Nat) {s : Drive}
    (mode : s.blocking = false) (counted : s.connects = s.steps) (read : s.readings = s.steps + 1) :
    Always (Scripted script clock) (connectTimedLoop ssl fd timeoutMs (clock 0) fuel)
      (LoopEnds script clock timeoutMs s.steps fuel) s := by
  induction fuel generalizing s with
  | zero => exact .pure ⟨0, fun _ below => absurd below (Nat.not_lt_zero _), .inl ⟨rfl, rfl⟩⟩
  | succ fuel ih =>
      have leave (verdict : Int) {t : Drive} (taken : t.steps = s.steps + 1)
          (called : t.connects = s.steps + 1)
          (ends : endingAt script clock timeoutMs s.steps = some verdict) :
          Always (Scripted script clock) (do
            let _ ← ask (.sslSetBlockingMode ssl true)
            return some verdict) (LoopEnds script clock timeoutMs s.steps (fuel + 1)) t := by
        refine always_call_bind.mpr fun _ s₁ replied => .pure ?_
        obtain rfl : s₁ = _ := replied
        exact ⟨0, fun _ below => absurd below (Nat.not_lt_zero _), .inr ⟨Nat.succ_pos _, ends.symm,
          nofun, called, taken, rfl⟩⟩
      refine always_call_bind.mpr fun rc s₁ connected => ?_
      obtain ⟨step, next, succeeded, rfl⟩ := connected
      simp only [mode, Bool.false_eq_true, if_false] at next
      subst next
      refine .ite (fun one => ?_) fun notOne => always_call_bind.mpr fun err s₂ asked => ?_
      · refine leave 1 rfl (congrArg (· + 1) counted) ?_
        simp [endingAt, succeeded.mp one]
      obtain ⟨wants, rfl⟩ := asked
      have wants : err = .wantRead ∨ err = .wantWrite ↔ script s.steps = .want := wants
      have unsuccessful : script s.steps ≠ .success := fun success => notOne (succeeded.mpr success)
      refine .ite (fun other => ?_) fun want => always_call_bind.mpr fun now s₃ told => ?_
      · refine leave 0 rfl (congrArg (· + 1) counted) ?_
        have fatal : script s.steps = .fatal := by
          cases here : script s.steps with
          | success => exact absurd here unsuccessful
          | want => exact absurd (wants.mpr here) (by tauto)
          | fatal => rfl
        simp [endingAt, fatal]
      have wanting : script s.steps = .want := wants.mp (by tauto)
      obtain ⟨rfl, rfl⟩ := told
      have remaining : timeoutMs - toInt64 ((clock s.readings : Int) - clock 0) =
          remainingAt clock timeoutMs s.steps := by rw [read, remainingAt]
      refine .ite (fun late => ?_) fun left => ?_
      · refine leave (-1) rfl (congrArg (· + 1) counted) ?_
        have late : remainingAt clock timeoutMs s.steps ≤ 0 := remaining ▸ late
        simp [endingAt, wanting, late]
      have left : ¬ remainingAt clock timeoutMs s.steps ≤ 0 := remaining ▸ left
      have goes : endingAt script clock timeoutMs s.steps = none := by simp [endingAt, wanting, left]
      refine always_call_bind.mpr fun _ s₄ same => ?_
      obtain rfl : s₄ = _ := same
      refine always_call_bind.mpr fun _ s₅ same => ?_
      obtain rfl : s₅ = _ := same
      refine always_call_bind.mpr fun _ s₆ same => ?_
      obtain rfl : s₆ = _ := same
      refine always_call_bind.mpr fun _ s₇ same => ?_
      obtain rfl : s₇ = _ := same
      refine always_call_bind.mpr fun _ s₈ same => ?_
      obtain rfl : s₈ = _ := same
      let next : Drive := { s with
        steps := s.steps + 1, connects := s.connects + 1, readings := s.readings + 1 }
      have rest := ih (s := next) mode (congrArg (· + 1) counted) (congrArg (· + 1) read)
      exact rest.mono fun _ _ ends => ends.cons goes

theorem phpQuicConnectTimed_ends (ssl : Ssl) (fd : Fd) (fuel : Nat) :
    Always (Scripted script clock) (phpQuicConnectTimed fuel ssl fd timeoutMs)
      (LoopEnds script clock timeoutMs 0 fuel) freshDrive := by
  refine always_call_bind.mpr fun start s₁ told => always_call_bind.mpr fun _ s₂ set => ?_
  obtain ⟨rfl, rfl⟩ := told
  obtain rfl : s₂ = _ := set
  exact connectTimedLoop_ends ssl fd fuel rfl rfl rfl

/-- In non-blocking mode the engine always answers, so that the loop comes to its end. -/
theorem connectTimedLoop_finishes (ssl : Ssl) (fd : Fd) (start fuel : Nat) {s : Drive}
    (mode : s.blocking = false) :
    Finishes (Scripted script clock) (connectTimedLoop ssl fd timeoutMs start fuel) s := by
  induction fuel generalizing s with
  | zero => exact .pure _ _
  | succ fuel ih =>
      have leave (verdict : Int) (t : Drive) : Finishes (Scripted script clock) (do
          let _ ← ask (.sslSetBlockingMode ssl true)
          return some verdict) t :=
        .call_bind (1 : Int) rfl (.pure _ _)
      let rc : Int := if script s.steps = .success then 1 else -1
      have connected : rc = 1 ↔ script s.steps = .success := by
        unfold rc
        split <;> simp_all
      let err : SslError := if script s.steps = .want then .wantRead else .ssl
      have asked : err = .wantRead ∨ err = .wantWrite ↔ script s.steps = .want := by
        unfold err
        split <;> simp_all
      have step : if s.blocking then s.steps ≤ s.steps ∧ script s.steps ≠ .want ∧
          ∀ earlier, s.steps ≤ earlier → earlier < s.steps → script earlier = .want
          else s.steps = s.steps := by
        rw [if_neg (Bool.eq_false_iff.mp mode)]
      refine .call_bind rc ⟨s.steps, step, connected, rfl⟩ (.ite (leave _ _) ?_)
      refine .call_bind err ⟨asked, rfl⟩ (.ite (leave _ _) ?_)
      refine .call_bind (clock s.readings) ⟨rfl, rfl⟩ (.ite (leave _ _) ?_)
      exact .call_bind none rfl (.call_bind true rfl (.call_bind true rfl
        (.call_bind () rfl (.call_bind () rfl (ih mode)))))

theorem phpQuicConnectTimed_finishes (ssl : Ssl) (fd : Fd) (fuel : Nat) :
    Finishes (Scripted script clock) (phpQuicConnectTimed fuel ssl fd timeoutMs) freshDrive :=
  .call_bind (clock 0) ⟨rfl, rfl⟩
    (.call_bind (1 : Int) rfl (connectTimedLoop_finishes ssl fd _ fuel rfl))

namespace LoopEnds

variable {fuel : Nat} {result : Option Int} {s' : Drive}

theorem eq_none_iff (ends : LoopEnds script clock timeoutMs 0 fuel result s') :
    result = none ↔ ∀ j < fuel, Continues script clock timeoutMs j := by
  obtain ⟨count, going, ⟨rfl, rfl⟩ | ⟨before, rfl, stopped, -⟩⟩ := ends
  · simp only [Nat.zero_add, endingAt_eq_none_iff] at going
    exact iff_of_true rfl going
  · refine iff_of_false stopped fun all => stopped ?_
    rw [Nat.zero_add]
    exact (endingAt_eq_none_iff ..).mpr (all count before)

/-- The verdict is that of the first step that ends the loop. -/
theorem eq_some_iff (ends : LoopEnds script clock timeoutMs 0 fuel result s') (verdict : Int) :
    result = some verdict ↔ ∃ step < fuel, endingAt script clock timeoutMs step = some verdict ∧
      ∀ j < step, Continues script clock timeoutMs j := by
  obtain ⟨count, going, last⟩ := ends
  simp only [Nat.zero_add, endingAt_eq_none_iff] at going last
  rcases last with ⟨rfl, rfl⟩ | ⟨before, rfl, stopped, -⟩
  · refine iff_of_false nofun ?_
    rintro ⟨step, below, ending, -⟩
    rw [(endingAt_eq_none_iff ..).mpr (going step below)] at ending
    cases ending
  · constructor
    · intro ending
      exact ⟨count, before, ending, going⟩
    · rintro ⟨step, -, ending, first⟩
      have same : step = count := by
        rcases Nat.lt_trichotomy step count with less | same | more
        · rw [(endingAt_eq_none_iff ..).mpr (going step less)] at ending
          cases ending
        · exact same
        · exact absurd ((endingAt_eq_none_iff ..).mpr (first count more)) stopped
      exact same ▸ ending

/-- On return, each `SSL_connect` but the last reported a step that went on, and the connection is
in blocking mode. -/
theorem returned (ends : LoopEnds script clock timeoutMs 0 fuel result s') (some : result ≠ none) :
    s'.blocking = true ∧ ∀ j, j + 1 < s'.connects → Continues script clock timeoutMs j := by
  obtain ⟨count, going, ⟨rfl, rfl⟩ | ⟨before, -, -, called, -, mode⟩⟩ := ends
  · exact absurd rfl some
  · simp only [Nat.zero_add, endingAt_eq_none_iff] at going called
    exact ⟨mode, fun j below => going j (by omega)⟩

end LoopEnds

/-! ### The constructor's two handshakes -/

theorem throwSsl_unchanged (format : Bytes) (s : Drive) :
    Always (Scripted script clock) (phpQuicThrowSsl format) (fun _ s' => s' = s) s := by
  refine .of_unchanged (phpQuicThrowSsl_calls format) (fun s call answer s' throws replied => ?_) s
  cases call <;> first | exact replied | exact throws.elim

/-- A throw at the end of the handshake. -/
theorem throwing_ends {thrown : Quic Thrown} {s : Drive}
    (unchanged : Always (Scripted script clock) thrown (fun _ s' => s' = s) s)
    {post : Option (Outcome Unit) → Drive → Prop} (holds : ∀ raised, post (some (.error raised)) s) :
    Always (Scripted script clock) (do return some (.error (← thrown))) post s :=
  .bind unchanged fun raised _ same => .pure (same ▸ holds raised)

/-- With a positive timeout the constructor goes on exactly after the verdict 1. -/
theorem handshake_timed (fuel : Nat) (ssl : Ssl) (fd : Fd) (host : Bytes) (port : Int)
    (positive : 0 < timeoutMs) :
    Always (Scripted script clock) (Connection.handshake fuel ssl fd host port timeoutMs)
      (fun result s' => ∀ outcome, result = some outcome →
        ∃ verdict, LoopEnds script clock timeoutMs 0 fuel (some verdict) s' ∧
          (outcome = .ok () ↔ verdict ≠ -1 ∧ verdict ≠ 0)) freshDrive := by
  unfold Connection.handshake
  rw [if_pos positive]
  refine .bind (phpQuicConnectTimed_ends ssl fd fuel) fun result s₁ ends => ?_
  cases result with
  | none => exact .pure nofun
  | some verdict =>
      refine .ite (fun late => ?_) fun inTime => .ite (fun failed => ?_) fun succeeded => ?_
      · refine throwing_ends (.pure rfl) fun raised outcome same => ⟨verdict, ends, ?_⟩
        cases same
        simp [late]
      · refine throwing_ends (throwSsl_unchanged _ _) fun raised outcome same => ⟨verdict, ends, ?_⟩
        cases same
        simp [failed]
      · refine .pure fun outcome same => ⟨verdict, ends, ?_⟩
        cases same
        exact iff_of_true rfl ⟨inTime, succeeded⟩

/-- Without one it goes on exactly when the first decisive step is a success. -/
theorem handshake_plain (fuel : Nat) (ssl : Ssl) (fd : Fd) (host : Bytes) (port : Int)
    (absent : timeoutMs ≤ 0) :
    Always (Scripted script clock) (Connection.handshake fuel ssl fd host port timeoutMs)
      (fun result s' => ∃ outcome step, result = some outcome ∧ s'.blocking = true ∧
        script step ≠ .want ∧ (∀ j < step, script j = .want) ∧
        (outcome = .ok () ↔ script step = .success)) freshDrive := by
  unfold Connection.handshake
  rw [if_neg (Int.not_lt.mpr absent)]
  refine always_call_bind.mpr fun rc s₁ connected => ?_
  obtain ⟨step, ⟨-, decisive, before⟩, succeeded, rfl⟩ := connected
  have wanted : ∀ j < step, script j = .want := fun j below => before j (Nat.zero_le j) below
  refine .ite (fun failed => ?_) fun one => ?_
  · refine throwing_ends (throwSsl_unchanged _ _) fun raised =>
      ⟨_, step, rfl, rfl, decisive, wanted, ?_⟩
    exact iff_of_false nofun fun success => failed (succeeded.mpr success)
  · refine .pure ⟨_, step, rfl, rfl, decisive, wanted, ?_⟩
    exact iff_of_true rfl (succeeded.mp (Decidable.not_not.mp one))

/-- Over all steps that want more, up to the first decisive one, time is found left. -/
def Undisturbed (script : Nat → EngineStep) (clock : Nat → Nat) (timeoutMs : Int) : Prop :=
  ∀ step, (∀ j ≤ step, script j = .want) → 0 < remainingAt clock timeoutMs step

/-- **The two handshakes agree** where the deadline does not intervene. -/
theorem handshakes_agree {fuel fuel' : Nat} {ssl : Ssl} {fd : Fd} {host : Bytes} {port : Int}
    (undisturbed : Undisturbed script clock timeoutMs) (positive : 0 < timeoutMs) {absent : Int}
    (nonpositive : absent ≤ 0) {outcome outcome' : Outcome Unit} {s' s'' : Drive}
    (timed : Run (Scripted script clock) (Connection.handshake fuel ssl fd host port timeoutMs)
      freshDrive (some outcome) s')
    (plain : Run (Scripted script clock) (Connection.handshake fuel' ssl fd host port absent)
      freshDrive (some outcome') s'') :
    (outcome = .ok () ↔ outcome' = .ok ()) ∧ s'.blocking = s''.blocking := by
  obtain ⟨verdict, ends, accepted⟩ :=
    handshake_timed fuel ssl fd host port positive _ _ timed outcome rfl
  obtain ⟨_, step, same, mode, decisive, before, accepted'⟩ :=
    handshake_plain fuel' ssl fd host port nonpositive _ _ plain
  cases same
  refine ⟨?_, (ends.returned nofun).1.trans mode.symm⟩
  obtain ⟨last, -, ending, first⟩ := (ends.eq_some_iff verdict).mp rfl
  -- The step that ended the loop is the decisive one.
  have onTime : script last ≠ .want := by
    intro want
    have all : ∀ j ≤ last, script j = .want := fun j below => by
      rcases Nat.lt_or_eq_of_le below with less | rfl
      · exact (first j less).1
      · exact want
    have left := undisturbed last all
    rw [(endingAt_eq_none_iff ..).mpr ⟨want, left⟩] at ending
    cases ending
  have here : last = step := by
    rcases Nat.lt_trichotomy last step with less | same | more
    · exact absurd (before last less) onTime
    · exact same
    · exact absurd (first step more).1 decisive
  subst here
  rw [accepted, accepted']
  rcases (endingAt_eq_some_iff ..).mp ending with
    ⟨success, rfl⟩ | ⟨fatal, rfl⟩ | ⟨want, -, rfl⟩
  · exact iff_of_true ⟨by decide, by decide⟩ success
  · exact iff_of_false (fun both => both.2 rfl) (by rw [fatal]; nofun)
  · exact absurd want onTime

end Script

/-- **The verdict of the timed handshake**, for every script, every clock and every number of
rounds: there is a run, each run has the verdict of the first step that ends the loop, and where the
deadline does not intervene it agrees with the plain handshake. -/
theorem connectTimed_verdict (script : Nat → EngineStep) (clock : Nat → Nat) (timeoutMs : Int)
    (fuel : Nat) (ssl : Ssl) (fd : Fd) :
    Finishes (Scripted script clock) (phpQuicConnectTimed fuel ssl fd timeoutMs) freshDrive ∧
    Always (Scripted script clock) (phpQuicConnectTimed fuel ssl fd timeoutMs)
      (fun result s' =>
        (result = some 1 ↔ ∃ step < fuel, script step = .success ∧
          ∀ j < step, Continues script clock timeoutMs j) ∧
        (result = some 0 ↔ ∃ step < fuel, script step = .fatal ∧
          ∀ j < step, Continues script clock timeoutMs j) ∧
        (result = some (-1) ↔ ∃ step < fuel, script step = .want ∧
          remainingAt clock timeoutMs step ≤ 0 ∧ ∀ j < step, Continues script clock timeoutMs j) ∧
        (result = none ↔ ∀ j < fuel, Continues script clock timeoutMs j) ∧
        (result ≠ none → s'.blocking = true ∧
          ∀ j, j + 1 < s'.connects → Continues script clock timeoutMs j)) freshDrive ∧
    (Undisturbed script clock timeoutMs → 0 < timeoutMs →
      ∀ (fuel' : Nat) (host : Bytes) (port absent : Int) (outcome outcome' : Outcome Unit)
        (t t' : Drive), absent ≤ 0 →
        Run (Scripted script clock) (Connection.handshake fuel ssl fd host port timeoutMs)
          freshDrive (some outcome) t →
        Run (Scripted script clock) (Connection.handshake fuel' ssl fd host port absent)
          freshDrive (some outcome') t' →
        (outcome = .ok () ↔ outcome' = .ok ()) ∧ t.blocking = t'.blocking) := by
  refine ⟨phpQuicConnectTimed_finishes ssl fd fuel,
    (phpQuicConnectTimed_ends ssl fd fuel).mono fun result s' ends => ?_,
    fun undisturbed positive _ _ _ _ _ _ _ _ nonpositive timed plain =>
      handshakes_agree undisturbed positive nonpositive timed plain⟩
  refine ⟨?_, ?_, ?_, ends.eq_none_iff, ends.returned⟩
  all_goals
    rw [ends.eq_some_iff]
    simp [endingAt_eq_some_iff, and_assoc]

/-! ### An engine that succeeds at its third step -/

def thirdStep (step : Nat) : EngineStep := if step < 2 then .want else .success

def tenthsOfSecond (reading : Nat) : Nat := 100 * reading

/-- The engine of this script, as a deterministic environment. -/
def thirdStepHandler : Handler openssl Drive := fun s call =>
  let step := if s.blocking then max s.steps 2 else s.steps
  match call with
  | .sslConnect _ => (if step < 2 then (-1 : Int) else 1,
      { s with steps := step + 1, connects := s.connects + 1 })
  | .sslGetError .. => (if s.steps - 1 < 2 then .wantRead else .ssl, s)
  | .monotonicMs => (tenthsOfSecond s.readings, { s with readings := s.readings + 1 })
  | .sslSetBlockingMode ssl blocking =>
      (succeeding (.sslSetBlockingMode ssl blocking), { s with blocking })
  | call => (succeeding call, s)

theorem thirdStepHandler_allowed (s : Drive) (call : Call) :
    Scripted thirdStep tenthsOfSecond s call (thirdStepHandler s call).1
      (thirdStepHandler s call).2 := by
  cases call with
  | sslConnect ssl =>
      refine ⟨if s.blocking then max s.steps 2 else s.steps, ?_, ?_, rfl⟩
      · cases mode : s.blocking with
        | false => simp
        | true =>
            refine ⟨Nat.le_max_left _ _, ?_, fun earlier _ below => ?_⟩
            · have late : ¬ max s.steps 2 < 2 := Nat.not_lt.mpr (Nat.le_max_right _ _)
              rw [if_pos rfl, thirdStep, if_neg late]
              nofun
            · simp only [if_true] at below
              exact if_pos (by omega)
      · show (if _ then (-1 : Int) else 1) = 1 ↔ (if _ then EngineStep.want else .success) = .success
        split <;> simp
  | sslGetError ssl rc =>
      refine ⟨?_, rfl⟩
      show (if _ then SslError.wantRead else .ssl) = _ ∨ (if _ then SslError.wantRead else .ssl) = _ ↔
        (if _ then EngineStep.want else .success) = .want
      split <;> simp
  | monotonicMs => exact ⟨rfl, rfl⟩
  | _ => exact rfl

theorem connectTimed_verdict_example :
    (exec thirdStepHandler (phpQuicConnectTimed 5 1 3 1000) freshDrive).1 = some 1 ∧
      (exec thirdStepHandler (phpQuicConnectTimed 5 1 3 1000) freshDrive).2.blocking = true := by
  have run := run_exec thirdStepHandler_allowed (phpQuicConnectTimed 5 1 3 1000) freshDrive
  obtain ⟨success, -, -, -, returned⟩ :=
    (connectTimed_verdict thirdStep tenthsOfSecond 1000 5 1 3).2.1 _ _ run
  have result := success.mpr ⟨2, by decide, rfl, by decide⟩
  exact ⟨result, (returned (result ▸ nofun)).1⟩

end PhpQuic
