/-
**The deadline of the timed handshake.**

`php_quic_connect_timed` waits, in every round, for the time left or for the engine's own timer,
whichever is less. Both are narrowed to `int`; only the first is cut down to `INT_MAX` before.

* `connectWaitMs_fits_iff`: of a positive remaining time, the wait lies between zero and it exactly
  when the timer's milliseconds narrow to a number that is not negative.
* `connectTimedLoop_kept`: every wait of a run is computed from that round's reading and timer; and
  while engine calls take no time and no poll outlasts its argument, the clock passes the deadline
  only after a wait that did not fit.
* `waits_fit_iff`: the run's waits all fit exactly when every timer and every elapsed time does.
* `negative_wait_oversleeps`: a timer of 2147484 seconds, and the handshake ends late.
-/

import PhpQuic.Openssl.Environment
import PhpQuic.Source.Connection

namespace PhpQuic

open Interact

/-! ### Narrowing -/

theorem toInt64_of_lt {value : Int} (positive : 0 ≤ value) (small : value < 2 ^ 63) :
    toInt64 value = value := by
  unfold toInt64
  exact Int.bmod_eq_of_le (by omega) (by omega)

theorem toInt32_of_le {value : Int} (positive : 0 ≤ value) (small : value ≤ intMax) :
    toInt32 value = value := by
  unfold intMax at small
  unfold toInt32
  exact Int.bmod_eq_of_le (by omega) (by omega)

theorem toInt32_nonneg_iff (value : Int) : 0 ≤ toInt32 value ↔ value % 2 ^ 32 < 2 ^ 31 := by
  unfold toInt32
  have split := Int.bmod_def value (2 ^ 32)
  have low := Int.emod_nonneg value (by decide : (2 ^ 32 : Int) ≠ 0)
  by_cases below : value % 2 ^ 32 < 2 ^ 31
  · rw [split, if_pos (by omega)]
    omega
  · rw [split, if_neg (by omega)]
    omega

/-! ### One wait -/

/-- A timer as `SSL_get_event_timeout` may report it. -/
def TimerValid : Option EventTimeout → Prop
  | some { tv, isInfinite := false } => 0 ≤ tv.sec ∧ 0 ≤ tv.usec ∧ tv.usec < 1000000
  | _ => True

/-- The timer is absent or infinite, or its milliseconds narrow to an `int` that is not negative. -/
def TimerFits : Option EventTimeout → Prop
  | some { tv, isInfinite := false } => (tv.sec * 1000 + tv.usec / 1000) % 2 ^ 32 < 2 ^ 31
  | _ => True

instance (timer : Option EventTimeout) : Decidable (TimerValid timer) :=
  match timer with
  | none | some { isInfinite := true, .. } => isTrue trivial
  | some { tv, isInfinite := false } =>
      inferInstanceAs (Decidable (0 ≤ tv.sec ∧ 0 ≤ tv.usec ∧ tv.usec < 1000000))

instance (timer : Option EventTimeout) : Decidable (TimerFits timer) :=
  match timer with
  | none | some { isInfinite := true, .. } => isTrue trivial
  | some { tv, isInfinite := false } =>
      inferInstanceAs (Decidable ((tv.sec * 1000 + tv.usec / 1000) % 2 ^ 32 < 2 ^ 31))

/-- **The wait of a round fits exactly when the timer does.** -/
theorem connectWaitMs_fits_iff {remaining : Int} (positive : 0 < remaining)
    {timer : Option EventTimeout} (valid : TimerValid timer) :
    0 ≤ connectWaitMs remaining timer ∧ connectWaitMs remaining timer ≤ remaining ↔
      TimerFits timer := by
  -- The first of the two: the remaining time, at most `INT_MAX`.
  have capped : 0 < (if intMax < remaining then intMax else toInt32 remaining) ∧
      (if intMax < remaining then intMax else toInt32 remaining) ≤ remaining := by
    by_cases large : intMax < remaining
    · rw [if_pos large]
      exact ⟨by decide, Int.le_of_lt large⟩
    · rw [if_neg large, toInt32_of_le (Int.le_of_lt positive) (Int.not_lt.mp large)]
      exact ⟨positive, Int.le_refl _⟩
  match timer, valid with
  | none, _ => exact iff_of_true ⟨Int.le_of_lt capped.1, capped.2⟩ trivial
  | some { tv, isInfinite := true }, _ => exact iff_of_true ⟨Int.le_of_lt capped.1, capped.2⟩ trivial
  | some { tv, isInfinite := false }, valid =>
      have whole : tv.usec.tdiv 1000 = tv.usec / 1000 := Int.tdiv_eq_ediv_of_nonneg valid.2.1
      have narrowed := toInt32_nonneg_iff (tv.sec * 1000 + tv.usec / 1000)
      simp only [connectWaitMs, TimerFits, whole]
      rw [← narrowed]
      by_cases sooner : toInt32 (tv.sec * 1000 + tv.usec / 1000) <
          (if intMax < remaining then intMax else toInt32 remaining)
      · rw [if_pos sooner]
        omega
      · rw [if_neg sooner]
        omega

/-- One wait: the clock as this round read it, the timer the engine reported, and the argument of
the poll. -/
structure Wait where
  reading : Nat
  timer : Option EventTimeout
  argument : Int

namespace Wait

/-- The wait lies between zero and the time that remained at this round's reading. -/
def Fits (start : Nat) (timeoutMs : Int) (wait : Wait) : Prop :=
  0 ≤ wait.argument ∧ wait.argument ≤ timeoutMs - ((wait.reading : Int) - start)

/-- The elapsed time is an `int64_t`, and the timer fits. -/
def InRange (start : Nat) (wait : Wait) : Prop :=
  (wait.reading : Int) - start < 2 ^ 63 ∧ TimerFits wait.timer

/-- The wait is the one the loop computes. -/
def Computed (start : Nat) (timeoutMs : Int) (wait : Wait) : Prop :=
  start ≤ wait.reading ∧ TimerValid wait.timer ∧
    0 < timeoutMs - toInt64 ((wait.reading : Int) - start) ∧
    wait.argument = connectWaitMs (timeoutMs - toInt64 ((wait.reading : Int) - start)) wait.timer

instance (start : Nat) (wait : Wait) : Decidable (wait.InRange start) :=
  inferInstanceAs (Decidable (_ ∧ _))

theorem fits_iff {start : Nat} {timeoutMs : Int} {wait : Wait}
    (computed : wait.Computed start timeoutMs) (bound : timeoutMs < 2 ^ 63) :
    wait.Fits start timeoutMs ↔ wait.InRange start := by
  obtain ⟨after, valid, positive, argument⟩ := computed
  by_cases elapsed : (wait.reading : Int) - start < 2 ^ 63
  · rw [toInt64_of_lt (by omega) elapsed] at positive argument
    rw [Fits, argument, connectWaitMs_fits_iff positive valid, InRange, and_iff_right elapsed]
  · -- So long after the start nothing remains, whatever the narrowed difference says.
    refine iff_of_false (fun fits => ?_) fun inRange => elapsed inRange.1
    have := Int.le_trans fits.1 fits.2
    omega

end Wait

/-! ### The clock -/

/-- What a timed handshake is observed to do: the clock in milliseconds, the last reading of it, the
timer last reported, the waits so far, and whether no call took longer than it may. -/
structure Watch where
  clock : Nat
  reading : Nat
  timer : Option EventTimeout
  waits : List Wait
  punctual : Bool

/-- A call takes no longer than it may: an engine call no time, a poll its argument. A negative
argument has no bound. -/
def Call.punctual : Call → Nat → Bool
  | .phpPollfdForMs _ _ _ timeoutMs, elapsed => timeoutMs < 0 ∨ (elapsed : Int) ≤ timeoutMs
  | _, elapsed => elapsed = 0

/-- What a call records. -/
def Watch.record (s : Watch) : (call : Call) → Answer call → Watch
  | .monotonicMs, now => { s with reading := now }
  | .sslGetEventTimeout _, timer => { s with timer }
  | .phpPollfdForMs _ _ _ argument, _ =>
      { s with waits := s.waits ++ [⟨s.reading, s.timer, argument⟩] }
  | _, _ => s

/-- The clock tells the time, and the timers are valid. -/
def Tells (s : Watch) : (call : Call) → Answer call → Prop
  | .monotonicMs, now => now = s.clock
  | .sslGetEventTimeout _, timer => TimerValid timer
  | _, _ => True

/-- **Any engine on any clock that does not go back**: every call may take any time. -/
def Ticking : Behaviour openssl Watch := fun s call answer s' =>
  Tells s call answer ∧ ∃ elapsed : Nat,
    s' = { s.record call answer with
      clock := s.clock + elapsed, punctual := s.punctual && call.punctual elapsed }

/-! ### One round -/

/-- What holds of a run at every point of the loop. -/
structure DeadlineKept (start : Nat) (timeoutMs : Int) (s : Watch) : Prop where
  started : start ≤ s.clock
  computed : ∀ wait ∈ s.waits, wait.Computed start timeoutMs
  inTime : s.punctual = true → (∀ wait ∈ s.waits, wait.Fits start timeoutMs) →
    (s.clock : Int) ≤ start + timeoutMs

/-- What every call but a poll does to the clock and the waits. -/
structure Watch.Passes (s s' : Watch) : Prop where
  forward : s.clock ≤ s'.clock
  waits : s'.waits = s.waits
  punctual : s'.punctual = true → s.punctual = true ∧ s'.clock = s.clock

theorem Watch.Passes.trans {s s₁ s₂ : Watch} (first : s.Passes s₁) (second : s₁.Passes s₂) :
    s.Passes s₂ where
  forward := Nat.le_trans first.forward second.forward
  waits := second.waits.trans first.waits
  punctual := fun punctual => by
    have ⟨before, same⟩ := second.punctual punctual
    have ⟨start, same'⟩ := first.punctual before
    exact ⟨start, same.trans same'⟩

def Call.IsPoll : Call → Prop
  | .phpPollfdForMs .. => True
  | _ => False

theorem Ticking.passes {s s' : Watch} {call : Call} {answer : Answer call}
    (replied : Ticking s call answer s') (other : ¬ call.IsPoll) : s.Passes s' := by
  obtain ⟨-, elapsed, rfl⟩ := replied
  have unlogged : (s.record call answer).waits = s.waits := by
    cases call <;> first | rfl | exact absurd trivial other
  refine ⟨Nat.le_add_right _ _, unlogged, fun punctual => ?_⟩
  have ⟨before, short⟩ := Bool.and_eq_true_iff.mp punctual
  have instant : elapsed = 0 := by
    cases call <;> first | exact of_decide_eq_true short | exact absurd trivial other
  exact ⟨before, by rw [instant]; rfl⟩

theorem Ticking.reads {s s' : Watch} {now : Nat} (replied : Ticking s .monotonicMs now s') :
    now = s.clock ∧ s'.reading = s.clock := by
  obtain ⟨told, elapsed, rfl⟩ := replied
  exact ⟨told, told⟩

theorem Ticking.reports {s s' : Watch} {ssl : Ssl} {timer : Option EventTimeout}
    (replied : Ticking s (.sslGetEventTimeout ssl) timer s') :
    TimerValid timer ∧ timer = s'.timer ∧ s'.reading = s.reading := by
  obtain ⟨valid, elapsed, rfl⟩ := replied
  exact ⟨valid, rfl, rfl⟩

/-- Between its timer and its poll, a round makes these calls. -/
def Call.IsQuery : Call → Prop
  | .sslNetReadDesired _ | .sslNetWriteDesired _ => True
  | _ => False

theorem Ticking.steady {s s' : Watch} {call : Call} {answer : Answer call}
    (replied : Ticking s call answer s') (query : call.IsQuery) :
    s'.reading = s.reading ∧ s'.timer = s.timer := by
  obtain ⟨-, elapsed, rfl⟩ := replied
  cases call <;> first | exact ⟨rfl, rfl⟩ | exact query.elim

theorem DeadlineKept.passes {start : Nat} {timeoutMs : Int} {s s' : Watch}
    (kept : DeadlineKept start timeoutMs s) (passes : s.Passes s') :
    DeadlineKept start timeoutMs s' where
  started := Nat.le_trans kept.started passes.forward
  computed := by
    rw [passes.waits]
    exact kept.computed
  inTime := fun punctual fit => by
    have ⟨before, same⟩ := passes.punctual punctual
    rw [passes.waits] at fit
    rw [same]
    exact kept.inTime before fit

/-- **The poll of a round.** The time that is left was computed from a reading, and since then only
engine calls were made. -/
theorem DeadlineKept.poll {start : Nat} {timeoutMs : Int} {s : Watch}
    (kept : DeadlineKept start timeoutMs s) (after : start ≤ s.reading)
    (current : s.punctual = true → s.clock = s.reading) (valid : TimerValid s.timer)
    (remains : 0 < timeoutMs - toInt64 ((s.reading : Int) - start)) {fd : Fd} {pollin pollout : Bool}
    {s' : Watch} (replied : Ticking s (.phpPollfdForMs fd pollin pollout
      (connectWaitMs (timeoutMs - toInt64 ((s.reading : Int) - start)) s.timer)) () s') :
    DeadlineKept start timeoutMs s' := by
  obtain ⟨-, elapsed, rfl⟩ := replied
  refine ⟨Nat.le_trans kept.started (Nat.le_add_right _ _), fun wait member => ?_,
    fun punctual fit => ?_⟩
  · rcases List.mem_append.mp member with earlier | last
    · exact kept.computed wait earlier
    · cases List.mem_singleton.mp last
      exact ⟨after, valid, remains, rfl⟩
  · have ⟨before, short⟩ := Bool.and_eq_true_iff.mp punctual
    have fitted := fit _ (List.mem_append_right _ (List.mem_singleton.mpr rfl))
    have bounded := of_decide_eq_true short
    have here := current before
    simp only [Wait.Fits] at fitted
    show ((s.clock + elapsed : Nat) : Int) ≤ start + timeoutMs
    omega

/-! ### The whole handshake -/

/-- **Every run of the loop**, from one `SSL_connect` on. -/
theorem connectTimedLoop_kept (ssl : Ssl) (fd : Fd) (timeoutMs : Int) (start fuel : Nat)
    {s : Watch} (kept : DeadlineKept start timeoutMs s) :
    Always Ticking (connectTimedLoop ssl fd timeoutMs start fuel)
      (fun _ s' => DeadlineKept start timeoutMs s') s := by
  induction fuel generalizing s with
  | zero => exact .pure kept
  | succ fuel ih =>
      have leave (rc : Int) {s : Watch} (kept : DeadlineKept start timeoutMs s) :
          Always Ticking (do
            let _ ← ask (.sslSetBlockingMode ssl true)
            return some rc) (fun _ s' => DeadlineKept start timeoutMs s') s :=
        always_call_bind.mpr fun _ _ replied => .pure (kept.passes (replied.passes id))
      refine always_call_bind.mpr fun rc s₁ connected => ?_
      have kept₁ := kept.passes (connected.passes id)
      refine .ite (fun _ => leave 1 kept₁) fun _ => always_call_bind.mpr fun err s₂ asked => ?_
      have kept₂ := kept₁.passes (asked.passes id)
      refine .ite (fun _ => leave 0 kept₂) fun _ => always_call_bind.mpr fun now s₃ read => ?_
      obtain ⟨rfl, read₃⟩ := read.reads
      have since₃ := read.passes id
      refine .ite (fun _ => leave (-1) (kept₂.passes since₃)) fun remains =>
        always_call_bind.mpr fun timer s₄ reported => ?_
      obtain ⟨valid, rfl, read₄⟩ := reported.reports
      have since₄ := since₃.trans (reported.passes id)
      refine always_call_bind.mpr fun readDesired s₅ first => ?_
      have ⟨read₅, timer₅⟩ := first.steady trivial
      have since₅ := since₄.trans (first.passes id)
      refine always_call_bind.mpr fun writeDesired s₆ second => ?_
      have ⟨read₆, timer₆⟩ := second.steady trivial
      have since₆ := since₅.trans (second.passes id)
      have reading : s₆.reading = s₂.clock := by rw [read₆, read₅, read₄, read₃]
      have timer : s₆.timer = s₄.timer := timer₆.trans timer₅
      refine always_call_bind.mpr fun _ s₇ polled => always_call_bind.mpr fun _ s₈ handled => ?_
      rw [← reading] at remains
      rw [← reading, ← timer] at polled
      rw [← timer] at valid
      have kept₇ := (kept₂.passes since₆).poll (reading ▸ kept₂.started)
        (fun punctual => (since₆.punctual punctual).2.trans reading.symm) valid
        (Int.not_le.mp remains) polled
      exact ih (kept₇.passes (handled.passes id))

/-- No wait yet, and no call that took too long. -/
structure Fresh (s : Watch) : Prop where
  waits : s.waits = []
  punctual : s.punctual = true

/-- **The deadline is never overslept, exactly when the timers fit.** For every engine, every clock
and every number of rounds: the waits lie between zero and what remains exactly when, at each wait,
the elapsed time is an `int64_t` and the timer fits. If they do, then while engine calls take no time
and no poll outlasts its argument, the clock stays within the deadline, and so does the return. -/
theorem waits_fit_iff (fuel : Nat) (ssl : Ssl) (fd : Fd) {timeoutMs : Int}
    (positive : 0 < timeoutMs) (bound : timeoutMs < 2 ^ 63) {s s' : Watch} (fresh : Fresh s)
    {result : Option Int}
    (run : Run Ticking (phpQuicConnectTimed fuel ssl fd timeoutMs) s result s') :
    ((∀ wait ∈ s'.waits, wait.Fits s.clock timeoutMs) ∧
        (s'.punctual = true → (s'.clock : Int) ≤ s.clock + timeoutMs)) ↔
      ∀ wait ∈ s'.waits, wait.InRange s.clock := by
  have begun : DeadlineKept s.clock timeoutMs s := by
    refine ⟨Nat.le_refl _, fun wait member => ?_, fun _ _ => by omega⟩
    rw [fresh.waits] at member
    cases member
  have always : Always Ticking (phpQuicConnectTimed fuel ssl fd timeoutMs)
      (fun _ s' => DeadlineKept s.clock timeoutMs s') s := by
    refine always_call_bind.mpr fun start s₁ read => always_call_bind.mpr fun _ s₂ set => ?_
    obtain ⟨rfl, -⟩ := read.reads
    exact connectTimedLoop_kept ssl fd timeoutMs _ fuel
      ((begun.passes (read.passes id)).passes (set.passes id))
  have kept := always result s' run
  have each : (∀ wait ∈ s'.waits, wait.Fits s.clock timeoutMs) ↔
      ∀ wait ∈ s'.waits, wait.InRange s.clock :=
    forall₂_congr fun wait member => Wait.fits_iff (kept.computed wait member) bound
  rw [← each]
  exact ⟨fun both => both.1, fun fit => ⟨fit, fun punctual => kept.inTime punctual fit⟩⟩

/-! ### Two timers -/

/-- An engine that never gets further, with one timer, on a clock that only moves during a poll: for
as long as it is told to, or for five seconds when the argument has no bound. -/
def stalled (tv : Timeval) : Handler openssl Watch := fun s call =>
  let answer : Answer call := match call with
    | .sslConnect _ => (-1 : Int)
    | .sslGetEventTimeout _ => some ⟨tv, false⟩
    | .monotonicMs => s.clock
    | call => succeeding call
  let elapsed : Nat := match call with
    | .phpPollfdForMs _ _ _ argument => if argument < 0 then 5000 else argument.toNat
    | _ => 0
  (answer, { s.record call answer with
    clock := s.clock + elapsed, punctual := s.punctual && call.punctual elapsed })

theorem stalled_allowed (tv : Timeval) (valid : TimerValid (some ⟨tv, false⟩)) (s : Watch)
    (call : Call) : Ticking s call (stalled tv s call).1 (stalled tv s call).2 := by
  refine ⟨?_, _, rfl⟩
  cases call with
  | monotonicMs => rfl
  | sslGetEventTimeout _ => exact valid
  | _ => trivial

def zeroWatch : Watch :=
  { clock := 0, reading := 0, timer := none, waits := [], punctual := true }

theorem waits_fit_example :
    (exec (stalled ⟨0, 250000⟩) (phpQuicConnectTimed 5 1 3 1000) zeroWatch).1 = some (-1) ∧
      ((exec (stalled ⟨0, 250000⟩) (phpQuicConnectTimed 5 1 3 1000) zeroWatch).2.clock : Int) ≤
        0 + 1000 := by
  have run := run_exec (stalled_allowed ⟨0, 250000⟩ (by decide))
    (phpQuicConnectTimed 5 1 3 1000) zeroWatch
  have kept := (waits_fit_iff 5 1 3 (by decide) (by decide) ⟨rfl, rfl⟩ run).mpr (by decide)
  exact ⟨by decide, kept.2 (by decide)⟩

/-- **A timer of 2147484 seconds** narrows to -2147483296 milliseconds: the poll gets a negative
argument, and the handshake with a deadline of one second ends after five. -/
theorem negative_wait_oversleeps :
    ∃ s' wait, Fresh zeroWatch ∧
      Run Ticking (phpQuicConnectTimed 2 1 3 1000) zeroWatch (some (-1)) s' ∧
      wait ∈ s'.waits ∧ wait.argument = -2147483296 ∧ ¬ wait.Fits 0 1000 ∧
      s'.punctual = true ∧ 0 + 1000 < s'.clock := by
  have run := run_exec (stalled_allowed ⟨2147484, 0⟩ (by decide))
    (phpQuicConnectTimed 2 1 3 1000) zeroWatch
  refine ⟨_, ⟨0, some ⟨⟨2147484, 0⟩, false⟩, -2147483296⟩, ⟨rfl, rfl⟩, run, ?_, rfl, ?_, ?_, ?_⟩
  · exact List.mem_singleton.mpr rfl
  · exact fun fits => absurd fits.1 (by decide)
  · decide
  · decide

end PhpQuic
