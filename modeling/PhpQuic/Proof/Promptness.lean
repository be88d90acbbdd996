/-
**How long the client constructor takes.**

Every call may take any time. A wait is asked for some milliseconds; what it takes beyond them, and
what any other call takes, is work. A wait that ends in the millisecond in which it began is idle.

* `connectWaitMs_le`: no wait is asked for more than the time that is left, whatever the timer.
* `connectTimedLoop_settles`: from any reading of the clock, the loop ends no later than its deadline
  and the work done since, and every round that is not idle brings the deadline nearer.
* `connectTimed_settles`: the same of `php_quic_connect_timed`; and a verdict of -1 is never early.
* `construct_prompt`: the whole constructor takes no longer than the timeout asked for and its work;
  and if after so many rounds it is still in the handshake, then all but as many of these rounds as
  the timeout has milliseconds were idle.
-/

import PhpQuic.Proof.Deadline
import PhpQuic.Proof.Calls

namespace PhpQuic

open Interact

/-! ### Time and work -/

/-- The clock in milliseconds, the work done so far, and the waits so far that were idle. -/
structure Pace where
  clock : Nat
  working : Nat
  idle : Nat
  deriving DecidableEq

namespace Pace

variable {s s₁ s₂ s' : Pace}

/-- A wait that took `elapsed` milliseconds. One without a bound is work altogether. -/
def waits (s : Pace) (timeoutMs : Int) (elapsed : Nat) : Pace where
  clock := s.clock + elapsed
  working := s.working + (elapsed - timeoutMs.toNat)
  idle := if elapsed = 0 then s.idle + 1 else s.idle

/-- Any other call that took `elapsed` milliseconds. -/
def works (s : Pace) (elapsed : Nat) : Pace :=
  { s with clock := s.clock + elapsed, working := s.working + elapsed }

/-- A stretch of the run without a wait. -/
def Works (s s' : Pace) : Prop := ∃ elapsed, s' = s.works elapsed

theorem Works.refl (s : Pace) : s.Works s := ⟨0, rfl⟩

theorem Works.trans (first : s.Works s₁) (second : s₁.Works s₂) : s.Works s₂ := by
  obtain ⟨elapsed, rfl⟩ := first
  obtain ⟨elapsed', rfl⟩ := second
  exact ⟨elapsed + elapsed', by simp only [works, Nat.add_assoc]⟩

theorem Works.forward (works : s.Works s') : s.clock ≤ s'.clock := by
  obtain ⟨elapsed, rfl⟩ := works
  exact Nat.le_add_right _ _

end Pace

open Pace

/-- **Any engine on any clock that does not go back.** The clock tells the time, and an integer option
is converted by `toLong`. -/
def Pacing (toLong : Zval → Int) : Behaviour openssl Pace := fun s call answer s' =>
  match call, answer with
  | .phpPollfdForMs _ _ _ timeoutMs, _ => ∃ elapsed, s' = s.waits timeoutMs elapsed
  | .monotonicMs, now => now = s.clock ∧ s.Works s'
  | .zvalGetLong value, long => long = toLong value ∧ s.Works s'
  | _, _ => s.Works s'

variable {toLong : Zval → Int} {s s' : Pace}

/-- Not a wait. -/
def Call.IsWork : Call → Prop
  | .phpPollfdForMs .. => False
  | _ => True

theorem Pacing.works {call : Call} {answer : Answer call} (replied : Pacing toLong s call answer s')
    (work : call.IsWork) : s.Works s' := by
  cases call <;> first | exact replied | exact replied.2 | exact work.elim

/-- Any class of calls without the poll. -/
theorem work_of_calls {α : Type} {P : Call → Prop} {p : Quic α} (only : Only P p)
    (never : ∀ fd pollin pollout timeoutMs, ¬ P (.phpPollfdForMs fd pollin pollout timeoutMs)) :
    Only Call.IsWork p :=
  only.mono fun call here => by
    cases call <;> first | exact trivial | exact absurd here (never _ _ _ _)

/-- Without a wait there is only work. -/
theorem works_of_work {α : Type} {p : Quic α} (only : Only Call.IsWork p) (s : Pace) :
    Always (Pacing toLong) p (fun _ s' => s.Works s') s :=
  fun _ _ run => run.frame only Works.refl (fun _ _ _ => Works.trans)
    fun _ _ _ _ here replied => replied.works here

/-! ### One wait -/

/-- **No wait is asked for more than what is left**, whatever the timer. -/
theorem connectWaitMs_le {remaining : Int} (positive : 0 < remaining)
    (timer : Option EventTimeout) : connectWaitMs remaining timer ≤ remaining := by
  have capped : (if intMax < remaining then intMax else toInt32 remaining) ≤ remaining := by
    by_cases large : intMax < remaining
    · rw [if_pos large]
      exact Int.le_of_lt large
    · rw [if_neg large]
      exact Int.le_of_eq (toInt32_of_le (Int.le_of_lt positive) (Int.not_lt.mp large))
  match timer with
  | none | some { isInfinite := true, .. } => exact capped
  | some { tv, isInfinite := false } =>
      simp only [connectWaitMs]
      by_cases sooner : toInt32 (tv.sec * 1000 + tv.usec.tdiv 1000) <
          (if intMax < remaining then intMax else toInt32 remaining)
      · rw [if_pos sooner]
        exact Int.le_trans (Int.le_of_lt sooner) capped
      · rwa [if_neg sooner]

/-- Narrowing makes no elapsed time longer. -/
theorem toInt64_le {value : Int} (positive : 0 ≤ value) : toInt64 value ≤ value := by
  have split := Int.bmod_def value (2 ^ 64)
  unfold toInt64
  rw [split]
  split
  · omega
  · omega

/-- Since `start` the clock has gone less than an `int64_t` can hold. -/
def Near (start : Nat) (s : Pace) : Prop := s.clock < start + 2 ^ 63

theorem Near.elapsed {start : Nat} (near : Near start s) (started : start ≤ s.clock) :
    toInt64 ((s.clock : Int) - start) = s.clock - start := by
  unfold Near at near
  exact toInt64_of_lt (by omega) (by omega)

/-- **The deadline and the work.** `before` is the work that was done when the deadline was set. -/
structure InTime (start : Nat) (timeoutMs : Int) (before : Nat) (s : Pace) : Prop where
  started : start ≤ s.clock
  worked : before ≤ s.working
  inTime : Near start s → (s.clock : Int) + before ≤ start + timeoutMs + s.working

namespace InTime

variable {start before : Nat} {timeoutMs : Int}

theorem works (kept : InTime start timeoutMs before s) (works : s.Works s') :
    InTime start timeoutMs before s' := by
  obtain ⟨elapsed, rfl⟩ := works
  refine ⟨Nat.le_add_right_of_le kept.started, Nat.le_add_right_of_le kept.worked, fun near => ?_⟩
  have := kept.inTime (Nat.lt_of_le_of_lt (Nat.le_add_right _ _) near)
  simp only [Pace.works]
  omega

/-- **A wait that was asked for no more than what was left**, some work before. -/
theorem waits (kept : InTime start timeoutMs before s) {argument : Int} (elapsed work : Nat)
    (remains : 0 < timeoutMs - toInt64 ((s.clock : Int) - start))
    (short : argument ≤ timeoutMs - toInt64 ((s.clock : Int) - start)) :
    InTime start timeoutMs before ((s.works work).waits argument elapsed) where
  started := by
    have := kept.started
    simp only [Pace.waits, Pace.works]
    omega
  worked := by
    have := kept.worked
    simp only [Pace.waits, Pace.works]
    omega
  inTime := fun near => by
    have started := kept.started
    have worked := kept.worked
    have earlier : Near start s := by
      simp only [Near, Pace.waits, Pace.works] at near ⊢
      omega
    rw [earlier.elapsed started] at remains short
    simp only [Pace.waits, Pace.works]
    omega

end InTime

/-! ### The loop -/

/-- **What a run of the loop comes to**, from a state in time. -/
structure Settles (start : Nat) (timeoutMs : Int) (before fuel : Nat) (s : Pace)
    (verdict : Option Int) (s' : Pace) : Prop where
  forward : s.clock ≤ s'.clock
  kept : InTime start timeoutMs before s'
  rounds : verdict = none → Near start s' →
    fuel + s.idle ≤ (start + timeoutMs - s.clock).toNat + s'.idle
  notEarly : verdict = some (-1) → (start + timeoutMs : Int) ≤ s'.clock

namespace Settles

variable {start before fuel : Nat} {timeoutMs : Int} {verdict : Option Int}

/-- Some work in front. -/
theorem after {s₁ : Pace} (works : s.Works s₁)
    (settles : Settles start timeoutMs before fuel s₁ verdict s') :
    Settles start timeoutMs before fuel s verdict s' := by
  obtain ⟨elapsed, rfl⟩ := works
  have forward := settles.forward
  refine ⟨Nat.le_trans (Nat.le_add_right _ _) forward, settles.kept, fun pending near => ?_,
    settles.notEarly⟩
  have := settles.rounds pending near
  simp only [Pace.works] at this forward ⊢
  omega

/-- **One more round in front**: a wait that took no time is idle, and any other brings the deadline
nearer. -/
theorem round {argument : Int} {elapsed work : Nat} (started : start ≤ s.clock)
    (remains : 0 < timeoutMs - toInt64 ((s.clock : Int) - start))
    (settles : Settles start timeoutMs before fuel ((s.works work).waits argument elapsed)
      verdict s') :
    Settles start timeoutMs before (fuel + 1) s verdict s' := by
  have forward := settles.forward
  simp only [Pace.waits, Pace.works] at forward
  refine ⟨by omega, settles.kept, fun pending near => ?_, settles.notEarly⟩
  have earlier : Near start s := by
    unfold Near at near ⊢
    omega
  rw [earlier.elapsed started] at remains
  have rest := settles.rounds pending near
  simp only [Pace.waits, Pace.works] at rest
  by_cases instant : elapsed = 0
  · rw [if_pos instant] at rest
    omega
  · rw [if_neg instant] at rest
    omega

end Settles

theorem connectTimedLoop_settles (ssl : Ssl) (fd : Fd) (timeoutMs : Int) (start before fuel : Nat)
    (kept : InTime start timeoutMs before s) :
    Always (Pacing toLong) (connectTimedLoop ssl fd timeoutMs start fuel)
      (Settles start timeoutMs before fuel s) s := by
  induction fuel generalizing s with
  | zero => exact .pure ⟨Nat.le_refl _, kept, fun _ _ => by omega, nofun⟩
  | succ fuel ih =>
      have leave (verdict : Int) {s : Pace} (kept : InTime start timeoutMs before s)
          (late : verdict = -1 → (start + timeoutMs : Int) ≤ s.clock) :
          Always (Pacing toLong) (do
            let _ ← ask (.sslSetBlockingMode ssl true)
            return some verdict) (Settles start timeoutMs before (fuel + 1) s) s := by
        refine always_call_bind.mpr fun _ s' works => .pure
          ⟨works.forward, kept.works works, nofun, fun same => ?_⟩
        exact Int.le_trans (late (Option.some.inj same)) (Int.ofNat_le.mpr works.forward)
      refine always_call_bind.mpr fun rc s₁ connected => .ite (fun _ => ?_) fun _ => ?_
      · exact (leave 1 (kept.works connected) nofun).mono fun _ _ => Settles.after connected
      refine always_call_bind.mpr fun err s₂ asked => ?_
      have since₂ : s.Works s₂ := Works.trans connected asked
      have kept₂ := kept.works since₂
      refine Always.mono ?_ fun _ _ => Settles.after since₂
      refine .ite (fun _ => leave 0 kept₂ nofun) fun _ => always_call_bind.mpr fun now s₃ read => ?_
      obtain ⟨rfl, since₃⟩ := read
      refine .ite (fun expired => ?_) fun remains => ?_
      · have narrowed := toInt64_le (Int.sub_nonneg_of_le (Int.ofNat_le.mpr kept₂.started))
        have forward : s₂.clock ≤ s₃.clock := Works.forward since₃
        have late : (start + timeoutMs : Int) ≤ s₃.clock := by omega
        exact (leave (-1) (kept₂.works since₃) fun _ => late).mono fun _ _ => Settles.after since₃
      replace remains := Int.not_le.mp remains
      refine always_call_bind.mpr fun timer s₄ reported => always_call_bind.mpr fun _ s₅ first =>
        always_call_bind.mpr fun _ s₆ second => ?_
      obtain ⟨work, rfl⟩ := ((Works.trans since₃ reported).trans first).trans second
      refine always_call_bind.mpr fun _ s₇ polled => always_call_bind.mpr fun _ s₈ handled => ?_
      obtain ⟨elapsed, rfl⟩ := polled
      have kept₇ := kept₂.waits elapsed work remains (connectWaitMs_le remains timer)
      exact (ih (kept₇.works handled)).mono fun _ _ settles =>
        (settles.after handled).round kept₂.started remains

/-! ### The whole handshake -/

/-- What a stretch of a run with a deadline comes to: `pending` says that it is still going on. -/
structure Prompt (fuel : Nat) (timeoutMs : Int) (pending : Prop) (s s' : Pace) : Prop where
  forward : s.clock ≤ s'.clock
  inTime : Near s.clock s' → (s'.clock : Int) + s.working ≤ s.clock + max 0 timeoutMs + s'.working
  rounds : Near s.clock s' → pending → fuel + s.idle ≤ timeoutMs.toNat + s'.idle

namespace Prompt

variable {fuel : Nat} {timeoutMs : Int} {pending : Prop} {s₁ : Pace}

/-- Work alone. -/
theorem of_works (works : s.Works s') (settled : ¬ pending) :
    Prompt fuel timeoutMs pending s s' := by
  obtain ⟨elapsed, rfl⟩ := works
  refine ⟨Nat.le_add_right _ _, fun _ => ?_, fun _ pending => absurd pending settled⟩
  simp only [Pace.works]
  omega

theorem after (works : s.Works s₁) (prompt : Prompt fuel timeoutMs pending s₁ s') :
    Prompt fuel timeoutMs pending s s' := by
  obtain ⟨elapsed, rfl⟩ := works
  have forward := prompt.forward
  have nearer (near : Near s.clock s') : Near (s.works elapsed).clock s' := by
    simp only [Near, Pace.works] at near ⊢
    omega
  refine ⟨Nat.le_trans (Nat.le_add_right _ _) forward, fun near => ?_, fun near =>
    prompt.rounds (nearer near)⟩
  have := prompt.inTime (nearer near)
  simp only [Pace.works] at this
  omega

theorem before {settled : Prop} (prompt : Prompt fuel timeoutMs pending s s₁) (works : s₁.Works s')
    (still : settled → pending) : Prompt fuel timeoutMs settled s s' := by
  obtain ⟨elapsed, rfl⟩ := works
  have forward := prompt.forward
  have nearer (near : Near s.clock (s₁.works elapsed)) : Near s.clock s₁ := by
    simp only [Near, Pace.works] at near ⊢
    omega
  refine ⟨Nat.le_trans forward (Nat.le_add_right _ _), fun near => ?_, fun near pending =>
    prompt.rounds (nearer near) (still pending)⟩
  have := prompt.inTime (nearer near)
  simp only [Pace.works]
  omega

end Prompt

/-- **The timed handshake**, from before the first reading of the clock. -/
theorem connectTimed_settles (fuel : Nat) (ssl : Ssl) (fd : Fd) {timeoutMs : Int}
    (positive : 0 < timeoutMs) (s : Pace) :
    Always (Pacing toLong) (phpQuicConnectTimed fuel ssl fd timeoutMs) (fun verdict s' =>
      Prompt fuel timeoutMs (verdict = none) s s' ∧
        (verdict = some (-1) → (s.clock + timeoutMs : Int) ≤ s'.clock)) s := by
  refine always_call_bind.mpr fun start s₁ read => always_call_bind.mpr fun _ s₂ set => ?_
  obtain ⟨rfl, since₁⟩ := read
  have since₂ : s.Works s₂ := Works.trans since₁ set
  have begun : InTime s.clock timeoutMs s.working s :=
    ⟨Nat.le_refl _, Nat.le_refl _, fun _ => by omega⟩
  refine (connectTimedLoop_settles ssl fd timeoutMs s.clock s.working fuel
    (begun.works since₂)).mono fun verdict s' settles => ?_
  replace settles := settles.after since₂
  refine ⟨⟨settles.forward, fun near => ?_, fun near pending => ?_⟩, settles.notEarly⟩
  · have := settles.kept.inTime near
    omega
  · have := settles.rounds pending near
    omega

/-! ### The constructor -/

/-- The `connect_timeout_ms` option. -/
def requestedTimeout (toLong : Zval → Int) (options : Option HashTable) : Int :=
  (findOption options "connect_timeout_ms").elim 0 toLong

section Parts

variable {α β : Type} {fuel : Nat} {timeoutMs : Int}

/-- Some work in front. -/
theorem prompt_skip {p : Quic α} {rest : α → Quic (Option β)} (only : Only Call.IsWork p)
    (second : ∀ value s₁, Always (Pacing toLong) (rest value)
      (fun result s' => Prompt fuel timeoutMs (result = none) s₁ s') s₁) :
    Always (Pacing toLong) (p >>= rest)
      (fun result s' => Prompt fuel timeoutMs (result = none) s s') s :=
  .bind (works_of_work only s) fun value s₁ works =>
    (second value s₁).mono fun _ _ => Prompt.after works

/-- Some work behind, that comes to an end. -/
theorem prompt_tail {pending : Prop} {s₁ : Pace} {p : Quic (Option β)}
    (prompt : Prompt fuel timeoutMs pending s s₁) (only : Only Call.IsWork p)
    (settled : Returns (· ≠ none) p) :
    Always (Pacing toLong) p (fun result s' => Prompt fuel timeoutMs (result = none) s s') s₁ :=
  fun result s' run => prompt.before (works_of_work only s₁ result s' run) fun pending =>
    absurd pending (settled.of_run run)

/-- Work that comes to an end. -/
theorem prompt_work {p : Quic (Option β)} (only : Only Call.IsWork p)
    (settled : Returns (· ≠ none) p) :
    Always (Pacing toLong) p (fun result s' => Prompt fuel timeoutMs (result = none) s s') s :=
  have begun : Prompt fuel timeoutMs False s s := .of_works (Works.refl s) id
  prompt_tail begun only settled

end Parts

theorem optLong_long (options : Option HashTable) (key : String) (s : Pace) :
    Always (Pacing toLong) (optLong options key 0) (fun result s' =>
      result = (findOption options key).elim 0 toLong ∧ s.Works s') s := by
  unfold optLong
  cases findOption options key with
  | none => exact .pure ⟨rfl, Works.refl s⟩
  | some value => exact always_call.mpr fun _ _ replied => replied

theorem readOptions_timeout (options : Option HashTable) (s : Pace) :
    Always (Pacing toLong) (Connection.readOptions options)
      (fun result s' => result.2.2 = requestedTimeout toLong options ∧ s.Works s') s :=
  (optLong_long options _ s).bind fun _ _ ⟨_, first⟩ =>
    (optLong_long options _ _).bind fun _ _ ⟨asked, second⟩ => .pure ⟨asked, first.trans second⟩

theorem handshake_prompt (fuel : Nat) (ssl : Ssl) (fd : Fd) (host : Bytes)
    (port connectTimeoutMs : Int) (s : Pace) :
    Always (Pacing toLong) (Connection.handshake fuel ssl fd host port connectTimeoutMs)
      (fun result s' => Prompt fuel connectTimeoutMs (result = none) s s') s := by
  have thrown (format : Bytes) : Only Call.IsWork
      (do return some (.error (← phpQuicThrowSsl format)) : Quic (Option (Outcome Unit))) :=
    .bind (work_of_calls (phpQuicThrowSsl_calls format) fun _ _ _ _ => id) fun _ => .pure _
  refine .ite (fun positive => ?_) fun _ => ?_
  · refine (connectTimed_settles fuel ssl fd positive s).bind fun hs s₁ ⟨prompt, _⟩ => ?_
    cases hs with
    | none => exact .pure (prompt.before (Works.refl s₁) fun _ => rfl)
    | some hs =>
        refine .ite (fun _ => ?_) fun _ => .ite (fun _ => ?_) fun _ => ?_
        · exact prompt_tail prompt (.bind (phpQuicThrow_calls _ _) fun _ => .pure _)
            (.bind_any fun _ => .pure (Option.some_ne_none _))
        · exact prompt_tail prompt (thrown _) (.bind_any fun _ => .pure (Option.some_ne_none _))
        · exact prompt_tail prompt (.pure _) (.pure (Option.some_ne_none _))
  · refine prompt_work (.bind (.call trivial) fun _ => .ite (thrown _) (.pure _))
      (.bind_any fun _ => ?_)
    exact .ite (.bind_any fun _ => .pure (Option.some_ne_none _)) (.pure (Option.some_ne_none _))

section Constructor

variable (fuel : Nat) (obj : PhpQuicConnection) (fd : Fd) (alpn : ZendString) (peer : BioAddr)
  (host : Bytes) (port idleTimeoutMs connectTimeoutMs : Int) (options : Option HashTable)

theorem cleanup_work (ssl : Option Ssl) (ctx : Option SslCtx) :
    Only Call.IsWork (Connection.cleanup alpn peer ssl ctx fd) :=
  work_of_calls (connectionCleanup_calls alpn peer ssl ctx fd) fun _ _ _ _ => id

theorem sslError_work (ssl : Option Ssl) (ctx : Option SslCtx) :
    Only Call.IsWork (Connection.sslError alpn peer ssl ctx fd) :=
  .bind (work_of_calls (phpQuicThrowSsl_calls _) fun _ _ _ _ => id) fun _ =>
    .bind (cleanup_work fd alpn peer ssl ctx) fun _ => .pure _

theorem checkPinning_work (ssl : Ssl) : Only Call.IsWork (Connection.checkPinning ssl options) :=
  work_of_calls (checkPinning_calls ssl options) fun _ _ _ _ => id

/-- An error that is reported after some work. -/
theorem prompt_throws {α : Type} {timeoutMs : Int} {thrown : Quic Thrown}
    (work : Only Call.IsWork thrown) (s : Pace) :
    Always (Pacing toLong) (do return some (.error (← thrown)) : Quic (Option (Outcome α)))
      (fun result s' => Prompt fuel timeoutMs (result = none) s s') s :=
  prompt_work (.bind work fun _ => .pure _) (.bind_any fun _ => .pure (Option.some_ne_none _))

theorem establish_prompt (ssl : Ssl) (setup : PhpQuicTlsSetup) (s : Pace) :
    Always (Pacing toLong) (Connection.establish fuel obj ssl fd alpn peer host port idleTimeoutMs
        connectTimeoutMs options setup)
      (fun result s' => Prompt fuel connectTimeoutMs (result = none) s s') s := by
  refine prompt_skip (work_of_calls (prepareSsl_calls ssl fd alpn peer host setup)
    fun _ _ _ _ => id) fun ready s => ?_
  refine .ite (fun _ => prompt_throws fuel (sslError_work fd alpn peer _ _) s) fun _ => ?_
  refine prompt_skip (work_of_calls (requestIdleTimeout_calls ssl idleTimeoutMs)
    fun _ _ _ _ => id) fun _ s => ?_
  refine prompt_skip (work_of_calls (phpQuicConnectionConfigure_calls ssl)
    fun _ _ _ _ => id) fun _ s => ?_
  refine (handshake_prompt fuel ssl fd host port connectTimeoutMs s).bind fun hs s₁ prompt => ?_
  rcases hs with _ | thrown | ⟨⟩
  · exact .pure (prompt.before (Works.refl s₁) fun _ => rfl)
  · exact prompt_tail prompt (.bind (cleanup_work fd alpn peer _ _) fun _ => .pure _)
      (.bind_any fun _ => .pure (Option.some_ne_none _))
  · refine prompt_tail prompt (.bind_except (checkPinning_work options ssl) (fun thrown => ?_)
      fun _ => ?_) (.bind_except (fun thrown => ?_) fun _ => ?_)
    · exact .bind (cleanup_work fd alpn peer _ _) fun _ => .pure _
    · exact .bind (.call trivial) fun _ => .bind (.call trivial) fun _ => .pure _
    · exact .bind_any fun _ => .pure (Option.some_ne_none _)
    · exact .bind_any fun _ => .bind_any fun _ => .pure (Option.some_ne_none _)

theorem createSsl_prompt (s : Pace) :
    Always (Pacing toLong) (Connection.createSsl fuel obj fd alpn peer host port idleTimeoutMs
        connectTimeoutMs options)
      (fun result s' => Prompt fuel connectTimeoutMs (result = none) s s') s := by
  refine prompt_skip (.call trivial) fun ctx s => ?_
  cases ctx with
  | none => exact prompt_throws fuel (sslError_work fd alpn peer _ _) s
  | some ctx =>
      refine prompt_skip (work_of_calls (phpQuicConfigureCtx_calls ctx options false)
        fun _ _ _ _ => id) fun configured s => ?_
      cases configured with
      | error errbuf =>
          exact prompt_work (.bind (phpQuicThrow_calls _ _) fun _ =>
              .bind (cleanup_work fd alpn peer _ _) fun _ => .pure _)
            (.bind_any fun _ => .bind_any fun _ => .pure (Option.some_ne_none _))
      | ok setup =>
          refine prompt_skip (.call trivial) fun ssl s => ?_
          cases ssl with
          | none => exact prompt_throws fuel (sslError_work fd alpn peer _ _) s
          | some ssl =>
              exact prompt_skip (.call trivial) fun _ s => establish_prompt fuel obj fd alpn peer
                host port idleTimeoutMs connectTimeoutMs options ssl setup s

theorem construct_settles (s : Pace) :
    Always (Pacing toLong) (Connection.construct fuel obj host port options)
      (fun result s' =>
        Prompt fuel (requestedTimeout toLong options) (result = none) s s') s := by
  have refused (message : Bytes) (s : Pace) :
      Always (Pacing toLong)
        (do return some (.error (← phpQuicThrow message)) : Quic (Option (Outcome PhpQuicConnection)))
        (fun result s' =>
          Prompt fuel (requestedTimeout toLong options) (result = none) s s') s :=
    prompt_throws fuel (phpQuicThrow_calls _ message) s
  refine .ite (fun _ => refused _ s) fun _ => .ite (fun _ => refused _ s) fun _ =>
    .ite (fun _ => refused _ s) fun _ => ?_
  refine (readOptions_timeout options s).bind fun ⟨spec, idle, timeout⟩ s₁ ⟨asked, works⟩ => ?_
  cases asked
  refine Always.mono ?_ fun _ _ => Prompt.after works
  cases spec with
  | none => exact refused _ s₁
  | some spec =>
      refine prompt_skip (work_of_calls (phpQuicAlpnFromZval_calls spec) fun _ _ _ _ => id)
        fun encoded s => ?_
      cases encoded with
      | error errbuf => exact refused _ s
      | ok alpn =>
          refine prompt_skip (work_of_calls (phpQuicUdpClient_calls host (decimal port))
            fun _ _ _ _ => id) fun opened s => ?_
          cases opened with
          | error errbuf => exact prompt_skip (.call trivial) fun _ s => refused _ s
          | ok socket =>
              exact createSsl_prompt fuel obj socket.1 alpn socket.2 host port idle _ options s

end Constructor

/-- **The constructor is prompt.** Against every engine, and for every time that its calls take: the
constructor ends no later than its timeout and its work; and if after `fuel` rounds the handshake
is still going on, then of these at most as many as the timeout has milliseconds were not idle. -/
theorem construct_prompt (toLong : Zval → Int) (fuel : Nat) (obj : PhpQuicConnection) (host : Bytes)
    (port : Int) (options : Option HashTable) {s s' : Pace}
    {result : Option (Outcome PhpQuicConnection)}
    (run : Run (Pacing toLong) (Connection.construct fuel obj host port options) s result s')
    (near : s'.clock < s.clock + 2 ^ 63) :
    (s'.clock - s.clock : Int) ≤
        max 0 (requestedTimeout toLong options) + (s'.working - s.working : Int) ∧
      (result = none →
        (fuel : Int) ≤ max 0 (requestedTimeout toLong options) + (s'.idle - s.idle : Int)) := by
  have prompt := construct_settles fuel obj host port options s result s' run
  refine ⟨?_, fun pending => ?_⟩
  · have := prompt.inTime near
    omega
  · have := prompt.rounds near pending
    omega

/-! ### A peer that never answers -/

/-- An engine that never gets further, each step of which takes a millisecond; every wait runs its
full course. -/
def silentPeer : Handler openssl Pace := fun s call =>
  match call with
  | .sslConnect _ => ((-1 : Int), s.works 1)
  | .monotonicMs => (s.clock, s.works 0)
  | .phpPollfdForMs _ _ _ timeoutMs => ((), s.waits timeoutMs timeoutMs.toNat)
  | .zvalGetLong value => (plainLong value, s.works 0)
  | call => (succeeding call, s.works 0)

theorem silentPeer_allowed (s : Pace) (call : Call) :
    Pacing plainLong s call (silentPeer s call).1 (silentPeer s call).2 := by
  cases call <;> first | exact ⟨_, rfl⟩ | exact ⟨rfl, _, rfl⟩

/-- The options `['alpn' => 'h3', 'connect_timeout_ms' => 1000]`. -/
def timedOptions : Option HashTable :=
  some [(.name (text "alpn"), .string (text "h3")),
    (.name (text "connect_timeout_ms"), .long 1000)]

theorem construct_prompt_example : ∃ thrown s',
    Run (Pacing plainLong) (Connection.construct 3 quicConnectionCreate (text "host") 443
      timedOptions) ⟨0, 0, 0⟩ (some (.error thrown)) s' ∧
    thrown.message = text "QUIC handshake with host:443 timed out after 1000ms" ∧
    (s'.clock - (0 : Nat) : Int) ≤ max 0 (requestedTimeout plainLong timedOptions) +
      (s'.working - (0 : Nat) : Int) := by
  have run := run_exec silentPeer_allowed
    (Connection.construct 3 quicConnectionCreate (text "host") 443 timedOptions) ⟨0, 0, 0⟩
  have ended : exec silentPeer
      (Connection.construct 3 quicConnectionCreate (text "host") 443 timedOptions) ⟨0, 0, 0⟩ =
      (some (.error ⟨text "QUIC handshake with host:443 timed out after 1000ms", none⟩),
        ⟨1001, 2, 0⟩) := by rfl
  rw [ended] at run
  exact ⟨_, _, run, rfl, (construct_prompt _ _ _ _ _ _ run (by decide)).1⟩

end PhpQuic
