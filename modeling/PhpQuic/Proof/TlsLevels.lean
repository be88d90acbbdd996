/-
**The numeric TLS limits: what is asked for, and what OpenSSL is given.**

`security_level` and `verify_depth` are tested as 64-bit integers and applied as `int`.

* `configureCtx_limits`: on success the context has the limits `appliedLimits`, computed from the
  options array alone.
* `limits_applied_iff`: what two successful configurations applied is what they asked for, and in
  the same order, exactly when no limit they apply is 2 ^ 31 or more.
* `level_weakened`: level 4294967296 is applied as 0, below level 1.
-/

import PhpQuic.Proof.Calls
import PhpQuic.Openssl.Environment

namespace PhpQuic

open Interact

/-- The two numeric limits of one `SSL_CTX`; `none` is OpenSSL's default. -/
structure TlsLimits where
  securityLevel : Option Int
  verifyDepth : Option Int
  deriving DecidableEq

/-- The limits of `SSL_CTX_new`. -/
def TlsLimits.default : TlsLimits := ⟨none, none⟩

/-- The effect of one call. -/
def TlsLimits.after (s : TlsLimits) : Call → TlsLimits
  | .sslCtxSetSecurityLevel _ level => { s with securityLevel := some level }
  | .sslCtxSetVerifyDepth _ depth => { s with verifyDepth := some depth }
  | _ => s

/-- `zval_get_long`: an integer is itself, any other value what `toLong` makes of it. -/
def longOf (toLong : Zval → Int) : Zval → Int
  | .long value => value
  | value => toLong value

/-- Conversions answer `longOf`. -/
def ConvertsLong (toLong : Zval → Int) : (call : Call) → Answer call → Prop
  | .zvalGetLong value, answer => answer = longOf toLong value
  | _, _ => True

/-- One context and its limits, whatever the other calls answer. -/
def limiting (toLong : Zval → Int) : Behaviour openssl TlsLimits := fun s call answer s' =>
  ConvertsLong toLong call answer ∧ s' = s.after call

variable {toLong : Zval → Int} {ctx : SslCtx} {opts : Option HashTable} {isServer : Bool}

/-! ### The limits, from the options array alone -/

/-- The number asked for, as `zend_long`. A negative one leaves OpenSSL's default. -/
def requestedLimit (toLong : Zval → Int) (opts : Option HashTable) (key : String) : Int :=
  ((findOption opts key).map (longOf toLong)).getD (-1)

theorem requestedLimit_long {key : String} {value : Int}
    (given : findOption opts key = some (.long value)) :
    requestedLimit toLong opts key = value := by
  rw [requestedLimit, given]
  rfl

/-- The number applied, as `int`. -/
def appliedLimit (requested : Int) : Option Int :=
  if 0 ≤ requested then some (toInt32 requested) else none

/-- The limits a successful configuration leaves behind. -/
def appliedLimits (toLong : Zval → Int) (opts : Option HashTable) (isServer : Bool) : TlsLimits where
  securityLevel := appliedLimit (requestedLimit toLong opts "security_level")
  verifyDepth :=
    if verifyPeerOption opts isServer then appliedLimit (requestedLimit toLong opts "verify_depth")
    else none

/-! ### The parts of the configuration -/

theorem named_unlimited (s : TlsLimits) (call : Call) (answer : Answer call) (s' : TlsLimits)
    (named : call.IsNamed) (allowed : limiting toLong s call answer s') : s' = s := by
  refine allowed.2.trans ?_
  cases call <;> first | rfl | exact named.elim

/-- Named settings leave the limits alone, in success too. -/
theorem named_settles {α : Type} {p : Quic (ZendResult α)} (named : Only Call.IsNamed p)
    (s : TlsLimits) :
    Always (limiting toLong) p (fun result s' => ∀ value, result = .ok value → s' = s) s :=
  (Always.of_unchanged named named_unlimited s).mono fun _ _ same _ _ => same

theorem optLong_requested (key : String) (s : TlsLimits) :
    Always (limiting toLong) (optLong opts key (-1))
      (fun value s' => value = requestedLimit toLong opts key ∧ s' = s) s := by
  unfold optLong requestedLimit
  cases findOption opts key with
  | none => exact .pure ⟨rfl, rfl⟩
  | some slot =>
      refine always_call.mpr ?_
      rintro value s' ⟨converted, kept⟩
      exact ⟨converted, kept⟩

theorem applyLevel_limits (value : Int) {set : Int → Quic Unit} {s : TlsLimits}
    (applied : Option Int → TlsLimits) (untouched : applied none = s)
    (sets : ∀ level, Always (limiting toLong) (set level) (fun _ s' => s' = applied (some level)) s) :
    Always (limiting toLong) (applyLevel value set)
      (fun _ s' => s' = applied (appliedLimit value)) s := by
  unfold applyLevel appliedLimit
  refine .ite (fun given => ?_) fun absent => ?_
  · rw [if_pos given]
    exact sets _
  · rw [if_neg absent]
    exact .pure untouched.symm

theorem configureVerification_limits (verifyDepth : Int) {s : TlsLimits}
    (unset : s.verifyDepth = none) :
    Always (limiting toLong) (configureVerification ctx opts isServer verifyDepth)
      (fun result s' => ∀ value, result = .ok value → s' = { s with
        verifyDepth := if verifyPeerOption opts isServer then appliedLimit verifyDepth else none })
      s := by
  unfold configureVerification
  refine .ite (fun verifying => ?_) fun trusting => ?_
  · rw [if_pos verifying]
    refine always_call_bind.mpr ?_
    rintro _ s ⟨-, rfl⟩
    refine always_call_bind.mpr ?_
    rintro _ s ⟨-, rfl⟩
    refine .bind_ok (named_settles (loadTrust_named ctx opts isServer) _)
      (fun _ _ => .pure nofun) fun _ => ?_
    refine .bind (applyLevel_limits verifyDepth (fun depth => { s with verifyDepth := depth })
      (unset ▸ rfl) fun depth => always_call.mpr ?_) ?_
    · rintro _ _ ⟨-, rfl⟩
      rfl
    · rintro _ _ rfl
      exact .pure fun _ _ => rfl
  · rw [if_neg trusting]
    refine always_call_bind.mpr ?_
    rintro _ _ ⟨-, rfl⟩
    exact .pure fun _ _ => unset ▸ rfl

theorem configureTuning_limits (securityLevel : Int) {s : TlsLimits}
    (unset : s.securityLevel = none) :
    Always (limiting toLong) (configureTuning ctx opts securityLevel)
      (fun result s' => ∀ value, result = .ok value →
        s' = { s with securityLevel := appliedLimit securityLevel }) s := by
  have names (key : String) {set : Bytes → Quic Int} (sets : ∀ names, Only Call.IsNamed (set names))
      (s : TlsLimits) : Always (limiting toLong) (applyNames opts key set)
        (fun result s' => ∀ value, result = .ok value → s' = s) s :=
    named_settles (applyNames_calls opts key sets) s
  refine .bind_ok (names _ (fun _ => .call trivial) s) (fun _ _ => .pure nofun) fun _ => ?_
  refine .bind_ok (names _ (fun _ => .call trivial) s) (fun _ _ => .pure nofun) fun _ => ?_
  refine .bind_ok (names _ (fun _ => .call trivial) s) (fun _ _ => .pure nofun) fun _ => ?_
  refine .bind (applyLevel_limits securityLevel (fun level => { s with securityLevel := level })
    (unset ▸ rfl) fun level => always_call.mpr ?_) ?_
  · rintro _ _ ⟨-, rfl⟩
    rfl
  · rintro _ _ rfl
    exact .pure fun _ _ => rfl

/-- **On success the context has the limits of the options array.** -/
theorem configureCtx_limits (toLong : Zval → Int) (ctx : SslCtx) (opts : Option HashTable)
    (isServer : Bool) :
    Always (limiting toLong) (phpQuicConfigureCtx ctx opts isServer)
      (fun result s' => ∀ setup, result = .ok setup → s' = appliedLimits toLong opts isServer)
      .default := by
  refine .bind (optLong_requested "security_level" _) ?_
  rintro _ _ ⟨rfl, rfl⟩
  refine .bind (optLong_requested "verify_depth" _) ?_
  rintro _ _ ⟨rfl, rfl⟩
  refine .bind_ok (named_settles (loadIdentity_named ctx opts isServer) _)
    (fun _ _ => .pure nofun) fun _ => ?_
  refine .bind_ok (configureVerification_limits _ rfl) (fun _ _ => .pure nofun) fun _ => ?_
  refine .bind_ok (configureTuning_limits _ rfl) (fun _ _ => .pure nofun) fun _ => ?_
  exact .pure fun _ _ => rfl

/-! ### Asked for and applied -/

/-- The number OpenSSL was given is the one asked for, or a negative one left its default. -/
def AsRequested (requested : Int) (applied : Option Int) : Prop :=
  applied = some requested ∨ requested < 0 ∧ applied = none

/-- Of two numbers asked for, the greater is not applied as the smaller. -/
def InOrder (requested requested' : Int) (applied applied' : Option Int) : Prop :=
  0 ≤ requested → requested ≤ requested' →
    ∃ value value', applied = some value ∧ applied' = some value' ∧ value ≤ value'

theorem toInt32_eq_self_iff {value : Int} (given : 0 ≤ value) :
    toInt32 value = value ↔ value < 2 ^ 31 := by
  unfold toInt32
  rw [Int.bmod_def]
  split <;> omega

theorem asRequested_applied_iff (requested : Int) :
    AsRequested requested (appliedLimit requested) ↔ requested < 2 ^ 31 := by
  unfold AsRequested appliedLimit
  by_cases given : 0 ≤ requested
  · rw [if_pos given, Option.some.injEq, toInt32_eq_self_iff given]
    exact or_iff_left fun default => absurd default.1 (by omega)
  · rw [if_neg given]
    exact iff_of_true (.inr ⟨by omega, rfl⟩) (by omega)

/-- Numbers applied as they were asked for are in the order they were asked for. -/
theorem AsRequested.inOrder {requested requested' : Int} {applied applied' : Option Int}
    (first : AsRequested requested applied) (second : AsRequested requested' applied') :
    InOrder requested requested' applied applied' := by
  intro given below
  have same := first.resolve_right fun default => absurd default.1 (by omega)
  have same' := second.resolve_right fun default => absurd default.1 (by omega)
  exact ⟨_, _, same, same', below⟩

/-- Both limits of a context are those of the options array; the depth is one of a side that
verifies its peer. -/
structure LimitsAsRequested (toLong : Zval → Int) (opts : Option HashTable) (isServer : Bool)
    (s : TlsLimits) : Prop where
  level : AsRequested (requestedLimit toLong opts "security_level") s.securityLevel
  depth : verifyPeerOption opts isServer = true →
    AsRequested (requestedLimit toLong opts "verify_depth") s.verifyDepth

/-- **The limits that fit an `int`.** -/
structure LimitsFit (toLong : Zval → Int) (opts : Option HashTable) (isServer : Bool) : Prop where
  level : requestedLimit toLong opts "security_level" < 2 ^ 31
  depth : verifyPeerOption opts isServer = true →
    requestedLimit toLong opts "verify_depth" < 2 ^ 31

theorem limitsAsRequested_iff :
    LimitsAsRequested toLong opts isServer (appliedLimits toLong opts isServer) ↔
      LimitsFit toLong opts isServer := by
  have depthApplied (verifying : verifyPeerOption opts isServer = true) :
      (appliedLimits toLong opts isServer).verifyDepth =
        appliedLimit (requestedLimit toLong opts "verify_depth") := if_pos verifying
  constructor
  · rintro ⟨level, depth⟩
    refine ⟨(asRequested_applied_iff _).mp level, fun verifying => ?_⟩
    exact (asRequested_applied_iff _).mp (depthApplied verifying ▸ depth verifying)
  · rintro ⟨level, depth⟩
    refine ⟨(asRequested_applied_iff _).mpr level, fun verifying => ?_⟩
    rw [depthApplied verifying]
    exact (asRequested_applied_iff _).mpr (depth verifying)

/-- **Two configurations apply what they ask for, in the order they ask for it, exactly when** what
they ask for fits an `int`. -/
theorem limits_applied_iff {ctx ctx' : SslCtx} {opts opts' : Option HashTable}
    {isServer isServer' : Bool} {setup setup' : PhpQuicTlsSetup} {s s' : TlsLimits}
    (ran : Run (limiting toLong) (phpQuicConfigureCtx ctx opts isServer) .default (.ok setup) s)
    (ran' : Run (limiting toLong) (phpQuicConfigureCtx ctx' opts' isServer') .default
      (.ok setup') s') :
    LimitsAsRequested toLong opts isServer s ∧ LimitsAsRequested toLong opts' isServer' s' ∧
        InOrder (requestedLimit toLong opts "security_level")
          (requestedLimit toLong opts' "security_level") s.securityLevel s'.securityLevel ∧
        (verifyPeerOption opts isServer = true → verifyPeerOption opts' isServer' = true →
          InOrder (requestedLimit toLong opts "verify_depth")
            (requestedLimit toLong opts' "verify_depth") s.verifyDepth s'.verifyDepth) ↔
      LimitsFit toLong opts isServer ∧ LimitsFit toLong opts' isServer' := by
  obtain rfl := configureCtx_limits toLong ctx opts isServer _ _ ran setup rfl
  obtain rfl := configureCtx_limits toLong ctx' opts' isServer' _ _ ran' setup' rfl
  rw [← limitsAsRequested_iff, ← limitsAsRequested_iff]
  constructor
  · rintro ⟨first, second, -, -⟩
    exact ⟨first, second⟩
  · rintro ⟨first, second⟩
    refine ⟨first, second, first.level.inOrder second.level, fun verifying verifying' => ?_⟩
    exact (first.depth verifying).inOrder (second.depth verifying')

/-! ### Levels that are kept, and one that wraps -/

/-- The environment in which every call works. -/
def limitingHandler (toLong : Zval → Int) : Handler openssl TlsLimits := fun s call =>
  (match call with
    | .zvalGetLong value => longOf toLong value
    | call => succeeding call, s.after call)

theorem limitingHandler_allowed (s : TlsLimits) (call : Call) :
    limiting toLong s call (limitingHandler toLong s call).1 (limitingHandler toLong s call).2 := by
  refine ⟨?_, rfl⟩
  cases call <;> first | exact trivial | rfl

/-- A client's options with one security level. -/
def levelOptions (level : Int) : Option HashTable :=
  some [(.name (text "security_level"), .long level)]

/-- The client's configuration with that level, in that environment. -/
def levelConfigured (level : Int) : ZendResult PhpQuicTlsSetup × TlsLimits :=
  exec (limitingHandler plainLong) (phpQuicConfigureCtx 1 (levelOptions level) false) .default

theorem levelConfigured_run (level : Int) :
    Run (limiting plainLong) (phpQuicConfigureCtx 1 (levelOptions level) false) .default
      (levelConfigured level).1 (levelConfigured level).2 :=
  run_exec limitingHandler_allowed _ _

/-- Levels 2 and 3 are applied. -/
theorem limits_applied_example :
    InOrder 2 3 (levelConfigured 2).2.securityLevel (levelConfigured 3).2.securityLevel := by
  have fits (level : Int) (small : level < 2 ^ 31) :
      LimitsFit plainLong (levelOptions level) false := by
    have requested : requestedLimit plainLong (levelOptions level) "security_level" = level :=
      requestedLimit_long rfl
    refine ⟨requested.symm ▸ small, fun _ => ?_⟩
    show (-1 : Int) < 2 ^ 31
    decide
  exact ((limits_applied_iff (levelConfigured_run 2) (levelConfigured_run 3)).mpr
    ⟨fits 2 (by decide), fits 3 (by decide)⟩).2.2.1

/-- **Level 4294967296 is applied as 0, below level 1.** -/
theorem level_weakened : ∃ setup setup' s s',
    Run (limiting plainLong) (phpQuicConfigureCtx 1 (levelOptions 1) false) .default
        (.ok setup) s ∧
      Run (limiting plainLong) (phpQuicConfigureCtx 1 (levelOptions 4294967296) false) .default
        (.ok setup') s' ∧
      s.securityLevel = some 1 ∧ s'.securityLevel = some 0 ∧
      ¬ AsRequested 4294967296 s'.securityLevel ∧
      ¬ InOrder 1 4294967296 s.securityLevel s'.securityLevel := by
  refine ⟨_, _, _, _, levelConfigured_run 1, levelConfigured_run 4294967296, rfl, rfl, ?_, ?_⟩
  · rintro (same | ⟨negative, -⟩)
    · exact absurd same (by decide)
    · exact absurd negative (by decide)
  · intro ordered
    obtain ⟨value, value', applied, applied', below⟩ := ordered (by decide) (by decide)
    cases applied
    cases applied'
    exact absurd below (by decide)

end PhpQuic
