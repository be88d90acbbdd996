/-
**Chain verification follows the options of its own context.**

The world of `Verifying` holds all `SSL_CTX`s of the process with the flag in their ex_data slot and
their verification mode, and all live clients and listeners. Any call may verify chains of peers on
any of them: OpenSSL hands the errors of the chain to the callback, one after the other, and stops
when it returns 0.

* `phpQuicVerifyCb_ne_zero_iff`: the callback goes past an error exactly when it is one of the two
  self-signed ones and the flag of the context is set.
* `Sound`: every client and listener uses a context configured from its own options, and every
  verification so far came to what those options say.
* `newConnection_sound`, `newListener_sound`: the constructors keep it, on success and on failure.
* `chain_verification`: so it holds in every run that builds clients and listeners in any order.
-/

import PhpQuic.Openssl.Environment
import PhpQuic.Proof.Calls
import PhpQuic.Interact.Transition
import Mathlib.Logic.Function.Basic

namespace PhpQuic

open Interact Function

/-! ### One chain -/

/-- The errors that `allow_self_signed` is about. -/
def IsSelfSigned (error : Int) : Prop :=
  error = depthZeroSelfSignedCert ∨ error = selfSignedCertInChain

instance (error : Int) : Decidable (IsSelfSigned error) := inferInstanceAs (Decidable (_ ∨ _))

/-- The callback goes past an error exactly when the context allows it. -/
theorem phpQuicVerifyCb_ne_zero_iff (sslGetSslCtx : Ssl → SslCtx) (allowSelfSigned : SslCtx → Bool)
    (ssl : Ssl) (error : Int) :
    phpQuicVerifyCb sslGetSslCtx allowSelfSigned 0 ⟨some ssl, error⟩ ≠ 0 ↔
      allowSelfSigned (sslGetSslCtx ssl) = true ∧ IsSelfSigned error := by
  unfold phpQuicVerifyCb IsSelfSigned
  by_cases self : error = depthZeroSelfSignedCert ∨ error = selfSignedCertInChain
  · cases allowed : allowSelfSigned (sslGetSslCtx ssl) <;> simp [self, allowed]
  · cases allowed : allowSelfSigned (sslGetSslCtx ssl) <;> simp [self]

/-- OpenSSL's verification of a chain with these errors: each is passed to the callback, up to the
first for which it returns 0. -/
def verifyChain (callback : Int → Int) : List Int → Bool
  | [] => true
  | error :: rest => if callback error = 0 then false else verifyChain callback rest

theorem verifyChain_iff (callback : Int → Int) (errors : List Int) :
    verifyChain callback errors = true ↔ ∀ error ∈ errors, callback error ≠ 0 := by
  induction errors with
  | nil => simp [verifyChain]
  | cons error rest ih =>
      rw [verifyChain, List.forall_mem_cons, ← ih]
      by_cases stops : callback error = 0
      · simp [stops]
      · simp [stops]

/-! ### All contexts of the process -/

/-- What `SSL_CTX_set_verify` sets. -/
structure VerifyMode where
  peer : Bool
  failIfNoPeerCert : Bool
  callback : Bool
  deriving DecidableEq

/-- An `SSL_CTX`, as far as verification is concerned. -/
structure ContextSettings where
  allowSelfSigned : Bool
  mode : VerifyMode
  deriving DecidableEq

/-- The settings of `SSL_CTX_new`: an empty ex_data slot, and `SSL_VERIFY_NONE`. -/
def ContextSettings.fresh : ContextSettings := ⟨false, ⟨false, false, false⟩⟩

/-- The options array a client or listener is built from. -/
structure Origin where
  options : Option HashTable
  isServer : Bool

/-- A live SSL object: its context, the mode it took over from it, and what it was built from. -/
structure Endpoint where
  ctx : SslCtx
  mode : VerifyMode
  origin : Origin

/-- What a peer presents: no certificate, or one whose chain has these errors. -/
abbrev Presented := Option (List Int)

/-- One verification that took place, with its outcome. -/
structure Verification where
  origin : Origin
  presented : Presented
  accepted : Bool

structure Contexts where
  settings : SslCtx → ContextSettings
  /-- The extension's own reference on the context. -/
  held : SslCtx → Bool
  engine : Ssl → Option Endpoint
  verifications : List Verification

namespace Contexts

/-- A process before its first client or listener. -/
def empty : Contexts :=
  { settings := fun _ => .fresh, held := fun _ => false, engine := fun _ => none, verifications := [] }

/-- `SSL_get_SSL_CTX`. -/
def sslGetSslCtx (s : Contexts) (ssl : Ssl) : SslCtx :=
  match s.engine ssl with
  | some engine => engine.ctx
  | none => 0

/-- The callback of an SSL object: OpenSSL's own leaves the error standing. -/
def callback (s : Contexts) (ssl : Ssl) (mode : VerifyMode) (error : Int) : Int :=
  if mode.callback then
    phpQuicVerifyCb s.sslGetSslCtx (fun ctx => (s.settings ctx).allowSelfSigned) 0 ⟨some ssl, error⟩
  else 0

/-- OpenSSL's decision on a peer. -/
def accepts (s : Contexts) (ssl : Ssl) (mode : VerifyMode) : Presented → Bool
  | none => !(mode.peer && mode.failIfNoPeerCert)
  | some errors => !mode.peer || verifyChain (s.callback ssl mode) errors

/-- No SSL object uses the context. -/
def Clear (s : Contexts) (ctx : SslCtx) : Prop :=
  ∀ ssl engine, s.engine ssl = some engine → engine.ctx ≠ ctx

def configure (s : Contexts) (ctx : SslCtx) (settings : ContextSettings) : Contexts :=
  { s with settings := update s.settings ctx settings }

/-- A new SSL object of a context. -/
def attach (s : Contexts) (ssl : Ssl) (ctx : SslCtx) (origin : Origin) : Contexts :=
  { s with engine := update s.engine ssl (some ⟨ctx, (s.settings ctx).mode, origin⟩) }

end Contexts

/-- What a call does to the contexts, while a constructor works on the options of `origin`. A new
context has a handle that nothing uses; a new SSL object has a handle that is free. -/
def Affects (origin : Origin) (s : Contexts) : (call : Call) → Answer call → Contexts → Prop
  | .sslCtxNew _, some ctx, s' => s.Clear ctx ∧ s.held ctx = false ∧
      s' = { s.configure ctx .fresh with held := update s.held ctx true }
  | .sslCtxFree ctx, _, s' => s' = { s with held := update s.held ctx false }
  | .sslCtxSetExData ctx allowSelfSigned, _, s' =>
      s' = s.configure ctx { s.settings ctx with allowSelfSigned }
  | .sslCtxSetVerify ctx peer failIfNoPeerCert callback, _, s' =>
      s' = s.configure ctx { s.settings ctx with mode := ⟨peer, failIfNoPeerCert, callback⟩ }
  | .sslNew ctx, some ssl, s' => s.engine ssl = none ∧ s' = s.attach ssl ctx origin
  | .sslNewListener ctx, some ssl, s' => s.engine ssl = none ∧ s' = s.attach ssl ctx origin
  -- An accepted connection belongs to the context of its listener.
  | .sslAcceptConnection listener, some ssl, s' => s.engine ssl = none ∧
      s' = match s.engine listener with
        | some parent => s.attach ssl parent.ctx parent.origin
        | none => s
  | .sslFree ssl, _, s' => s' = { s with engine := update s.engine ssl none }
  | _, _, s' => s' = s

/-- Verifications on live SSL objects, of any peers. -/
def Contexts.Verifies (s s' : Contexts) : Prop :=
  ∃ more, s' = { s with verifications := s.verifications ++ more } ∧
    ∀ verification ∈ more, ∃ ssl engine, s.engine ssl = some engine ∧
      verification.origin = engine.origin ∧
      verification.accepted = s.accepts ssl engine.mode verification.presented

/-- **The contexts of the process**: a call has its effect, and then any chains are verified. -/
def Verifying (origin : Origin) : Behaviour openssl Contexts := fun s call answer s' =>
  ∃ middle, Affects origin s call answer middle ∧ middle.Verifies s'

/-! ### What the options ask for -/

/-- The settings of a context configured from these options. -/
def Origin.settings (origin : Origin) : ContextSettings :=
  let verifyPeer := verifyPeerOption origin.options origin.isServer
  { allowSelfSigned := verifyPeer && optBool origin.options "allow_self_signed" false
    mode := ⟨verifyPeer, verifyPeer && origin.isServer, verifyPeer⟩ }

/-- The outcome is the one the options ask for, where they ask for verification. -/
def Verification.AsAsked (verification : Verification) : Prop :=
  verifyPeerOption verification.origin.options verification.origin.isServer = true →
    match verification.presented with
    | none => verification.origin.isServer = true → verification.accepted = false
    | some errors => verification.accepted = true ↔ errors = [] ∨
        (∀ error ∈ errors, IsSelfSigned error) ∧
          optBool verification.origin.options "allow_self_signed" false = true

/-- Every live SSL object has the settings its own options ask for. -/
def Contexts.Rooted (s : Contexts) : Prop :=
  ∀ ssl engine, s.engine ssl = some engine →
    s.settings engine.ctx = engine.origin.settings ∧ engine.mode = engine.origin.settings.mode

theorem Contexts.Rooted.asAsked {s : Contexts} (rooted : s.Rooted) {ssl : Ssl} {engine : Endpoint}
    (live : s.engine ssl = some engine) (presented : Presented) :
    Verification.AsAsked ⟨engine.origin, presented, s.accepts ssl engine.mode presented⟩ := by
  obtain ⟨settings, mode⟩ := rooted ssl engine live
  intro verify
  have verify : verifyPeerOption engine.origin.options engine.origin.isServer = true := verify
  rw [mode]
  cases presented with
  | none =>
      intro server
      have strict : (engine.origin.settings.mode.peer &&
          engine.origin.settings.mode.failIfNoPeerCert) = true := by
        show (verifyPeerOption engine.origin.options engine.origin.isServer &&
          (verifyPeerOption engine.origin.options engine.origin.isServer &&
            engine.origin.isServer)) = true
        rw [verify, Bool.true_and, Bool.true_and]
        exact server
      rw [Contexts.accepts, strict]
      rfl
  | some errors =>
      have here : s.sslGetSslCtx ssl = engine.ctx := by rw [Contexts.sslGetSslCtx, live]
      have passed (error : Int) : s.callback ssl engine.origin.settings.mode error ≠ 0 ↔
          optBool engine.origin.options "allow_self_signed" false = true ∧ IsSelfSigned error := by
        have installed : engine.origin.settings.mode.callback = true := verify
        rw [Contexts.callback, if_pos installed, phpQuicVerifyCb_ne_zero_iff, here, settings,
          Origin.settings, verify, Bool.true_and]
      have active : engine.origin.settings.mode.peer = true := verify
      rw [Contexts.accepts, active, Bool.not_true, Bool.false_or, verifyChain_iff]
      simp only [passed]
      constructor
      · intro all
        cases errors with
        | nil => exact .inl rfl
        | cons error rest =>
            exact .inr ⟨fun error member => (all error member).2, (all error List.mem_cons_self).1⟩
      · rintro (rfl | ⟨self, allowed⟩)
        · exact fun _ member => absurd member List.not_mem_nil
        · exact fun error member => ⟨allowed, self error member⟩

/-! ### The calls -/

/-- The calls that make no context and no first SSL object, and decide nothing about verification. -/
def Call.IsQuiet : Call → Prop
  | .sslCtxNew _ | .sslCtxSetExData .. | .sslCtxSetVerify .. | .sslNew _ | .sslNewListener _ => False
  | _ => True

/-- The invariant: all contexts in use are configured from the options of their own users, and all
verifications came to what these ask for. -/
structure Sound (s : Contexts) : Prop where
  rooted : s.Rooted
  asked : ∀ verification ∈ s.verifications, verification.AsAsked

theorem Sound.verifies {s s' : Contexts} (sound : Sound s) (verified : s.Verifies s') : Sound s' := by
  obtain ⟨more, rfl, genuine⟩ := verified
  refine ⟨sound.rooted, fun verification member => ?_⟩
  rcases List.mem_append.mp member with earlier | new
  · exact sound.asked verification earlier
  · obtain ⟨ssl, engine, live, origin, accepted⟩ := genuine verification new
    have same : verification = ⟨engine.origin, verification.presented,
        s.accepts ssl engine.mode verification.presented⟩ := by rw [← origin, ← accepted]
    rw [same]
    exact sound.rooted.asAsked live _

/-- The invariant, and a context that is not in use yet, with its settings. -/
structure Preparing (ctx : SslCtx) (settings : ContextSettings) (s : Contexts) : Prop where
  sound : Sound s
  clear : s.Clear ctx
  settings : s.settings ctx = settings

/-- A quiet call leaves all settings as they are, and makes SSL objects of a listener's context only. -/
theorem Affects.quiet {origin : Origin} {s s' : Contexts} {call : Call} {answer : Answer call}
    (affects : Affects origin s call answer s') (quiet : call.IsQuiet) :
    s'.settings = s.settings ∧ s'.verifications = s.verifications ∧
      ∀ ssl engine, s'.engine ssl = some engine → ∃ ssl' parent, s.engine ssl' = some parent ∧
        engine.ctx = parent.ctx ∧ engine.origin = parent.origin ∧
        (engine.mode = parent.mode ∨ engine.mode = (s.settings parent.ctx).mode) := by
  have same {t : Contexts} (engines : t.engine = s.engine) (ssl : Ssl) (engine : Endpoint)
      (live : t.engine ssl = some engine) : ∃ ssl' parent, s.engine ssl' = some parent ∧
        engine.ctx = parent.ctx ∧ engine.origin = parent.origin ∧
        (engine.mode = parent.mode ∨ engine.mode = (s.settings parent.ctx).mode) :=
    ⟨ssl, engine, engines ▸ live, rfl, rfl, .inl rfl⟩
  cases call with
  | sslCtxNew _ | sslCtxSetExData | sslCtxSetVerify | sslNew _ | sslNewListener _ =>
      exact quiet.elim
  | sslCtxFree ctx =>
      obtain rfl : s' = _ := affects
      exact ⟨rfl, rfl, same rfl⟩
  | sslFree ssl =>
      obtain rfl : s' = _ := affects
      refine ⟨rfl, rfl, fun handle engine live => ?_⟩
      by_cases freed : handle = ssl
      · rw [freed] at live
        simp at live
      · exact same rfl handle engine (by simpa [freed] using live)
  | sslAcceptConnection listener =>
      cases answer with
      | none =>
          obtain rfl : s' = s := affects
          exact ⟨rfl, rfl, same rfl⟩
      | some ssl =>
          obtain ⟨-, rfl⟩ := affects
          cases found : s.engine listener with
          | none => exact ⟨rfl, rfl, same rfl⟩
          | some parent =>
              refine ⟨rfl, rfl, fun handle engine live => ?_⟩
              by_cases new : handle = ssl
              · rw [new] at live
                simp only [Contexts.attach, update_self, Option.some.injEq] at live
                exact ⟨listener, parent, found, live ▸ ⟨rfl, rfl, .inr rfl⟩⟩
              · exact same rfl handle engine (by simpa [Contexts.attach, new] using live)
  | _ =>
      obtain rfl : s' = s := affects
      exact ⟨rfl, rfl, same rfl⟩

theorem Contexts.Verifies.unchanged {s s' : Contexts} (verified : s.Verifies s') :
    s'.settings = s.settings ∧ s'.engine = s.engine := by
  obtain ⟨more, rfl, -⟩ := verified
  exact ⟨rfl, rfl⟩

theorem Verifying.sound {origin : Origin} {s s' : Contexts} {call : Call} {answer : Answer call}
    (replied : Verifying origin s call answer s') (quiet : call.IsQuiet) (sound : Sound s) :
    Sound s' := by
  obtain ⟨middle, affects, verified⟩ := replied
  obtain ⟨settings, logged, engines⟩ := affects.quiet quiet
  refine Sound.verifies ⟨fun ssl engine live => ?_, ?_⟩ verified
  · obtain ⟨ssl', parent, live', ctx, origin, mode⟩ := engines ssl engine live
    obtain ⟨configured, taken⟩ := sound.rooted ssl' parent live'
    rw [settings, ctx, origin]
    refine ⟨configured, mode.elim (fun same => same.trans taken) fun same => ?_⟩
    rw [same, configured]
  · rw [logged]
    exact sound.asked

theorem Verifying.preparing {origin : Origin} {s s' : Contexts} {call : Call} {answer : Answer call}
    (replied : Verifying origin s call answer s') (quiet : call.IsQuiet) {ctx : SslCtx}
    {settings : ContextSettings} (preparing : Preparing ctx settings s) :
    Preparing ctx settings s' := by
  refine ⟨replied.sound quiet preparing.sound, ?_, ?_⟩
  all_goals
    obtain ⟨middle, affects, verified⟩ := replied
    obtain ⟨kept, -, engines⟩ := affects.quiet quiet
    obtain ⟨kept', engines'⟩ := verified.unchanged
  · intro ssl engine live
    obtain ⟨ssl', parent, live', ctx, -, -⟩ := engines ssl engine (engines' ▸ live)
    rw [ctx]
    exact preparing.clear ssl' parent live'
  · rw [kept', kept]
    exact preparing.settings

/-- Settings of a context that is not in use. -/
theorem Preparing.configure {ctx : SslCtx} {old settings : ContextSettings} {s s' : Contexts}
    (preparing : Preparing ctx old s) (verified : (s.configure ctx settings).Verifies s') :
    Preparing ctx settings s' := by
  have clear : (s.configure ctx settings).Clear ctx := preparing.clear
  have sound : Sound (s.configure ctx settings) := by
    refine ⟨fun ssl engine live => ?_, preparing.sound.asked⟩
    have other : engine.ctx ≠ ctx := preparing.clear ssl engine live
    show update s.settings ctx settings engine.ctx = _ ∧ _
    rw [update_of_ne other]
    exact preparing.sound.rooted ssl engine live
  obtain ⟨kept, engines⟩ := verified.unchanged
  refine ⟨sound.verifies verified, ?_, ?_⟩
  · intro ssl engine live
    exact clear ssl engine (engines ▸ live)
  · rw [kept]
    exact update_self ..

theorem Verifying.sslCtxNew {origin : Origin} {s s' : Contexts} {isServer : Bool}
    {answer : Option SslCtx} (replied : Verifying origin s (.sslCtxNew isServer) answer s')
    (sound : Sound s) :
    Sound s' ∧ ∀ ctx, answer = some ctx → Preparing ctx .fresh s' := by
  obtain ⟨middle, affects, verified⟩ := replied
  cases answer with
  | none =>
      obtain rfl : middle = s := affects
      exact ⟨sound.verifies verified, nofun⟩
  | some ctx =>
      obtain ⟨clear, -, rfl⟩ := affects
      have here : Preparing ctx (s.settings ctx)
          { s with held := update s.held ctx true } := ⟨⟨sound.rooted, sound.asked⟩, clear, rfl⟩
      have fresh : Preparing ctx .fresh s' := here.configure verified
      exact ⟨fresh.sound, fun _ same => Option.some.inj same ▸ fresh⟩

/-- The first SSL object of a context that is ready. -/
theorem Preparing.attach {origin : Origin} {ctx : SslCtx} {s s' : Contexts} {ssl : Ssl}
    (preparing : Preparing ctx origin.settings s)
    (verified : (s.attach ssl ctx origin).Verifies s') : Sound s' := by
  have sound : Sound (s.attach ssl ctx origin) := by
    refine ⟨fun handle engine live => ?_, preparing.sound.asked⟩
    by_cases new : handle = ssl
    · rw [new] at live
      simp only [Contexts.attach, update_self, Option.some.injEq] at live
      rw [← live]
      exact ⟨preparing.settings, congrArg ContextSettings.mode preparing.settings⟩
    · exact preparing.sound.rooted handle engine (by simpa [Contexts.attach, new] using live)
  exact sound.verifies verified

theorem Verifying.sslNew {origin : Origin} {ctx : SslCtx} {s s' : Contexts} {answer : Option Ssl}
    (replied : Verifying origin s (.sslNew ctx) answer s')
    (preparing : Preparing ctx origin.settings s) : Sound s' := by
  obtain ⟨middle, affects, verified⟩ := replied
  cases answer with
  | none =>
      obtain rfl : middle = s := affects
      exact preparing.sound.verifies verified
  | some ssl =>
      obtain ⟨-, rfl⟩ := affects
      exact preparing.attach verified

theorem Verifying.sslNewListener {origin : Origin} {ctx : SslCtx} {s s' : Contexts}
    {answer : Option Ssl} (replied : Verifying origin s (.sslNewListener ctx) answer s')
    (preparing : Preparing ctx origin.settings s) : Sound s' := by
  obtain ⟨middle, affects, verified⟩ := replied
  cases answer with
  | none =>
      obtain rfl : middle = s := affects
      exact preparing.sound.verifies verified
  | some ssl =>
      obtain ⟨-, rfl⟩ := affects
      exact preparing.attach verified

/-! ### The configuration -/

section Quiet

variable {origin : Origin} {α : Type} {p : Quic α} {s : Contexts}

theorem quiet_sound (quiet : Only Call.IsQuiet p) (sound : Sound s) :
    Always (Verifying origin) p (fun _ => Sound) s :=
  .invariant quiet (fun _ _ _ _ quiet replied => replied.sound quiet) sound

theorem quiet_preparing (quiet : Only Call.IsQuiet p) {ctx : SslCtx} {settings : ContextSettings}
    (preparing : Preparing ctx settings s) :
    Always (Verifying origin) p (fun _ => Preparing ctx settings) s :=
  .invariant quiet (fun _ _ _ _ quiet replied => replied.preparing quiet) preparing

/-- A class of calls that has none of the five. -/
theorem quiet_of {P : Call → Prop} (only : Only P p) (newCtx : ∀ server, ¬ P (.sslCtxNew server))
    (exData : ∀ ctx flag, ¬ P (.sslCtxSetExData ctx flag))
    (verify : ∀ ctx peer fail callback, ¬ P (.sslCtxSetVerify ctx peer fail callback))
    (newSsl : ∀ ctx, ¬ P (.sslNew ctx)) (newListener : ∀ ctx, ¬ P (.sslNewListener ctx)) :
    Only Call.IsQuiet p :=
  only.mono fun call here => by
    cases call with
    | sslCtxNew server => exact absurd here (newCtx server)
    | sslCtxSetExData ctx flag => exact absurd here (exData ctx flag)
    | sslCtxSetVerify ctx peer fail callback => exact absurd here (verify ctx peer fail callback)
    | sslNew ctx => exact absurd here (newSsl ctx)
    | sslNewListener ctx => exact absurd here (newListener ctx)
    | _ => trivial

theorem quiet_of_loading (only : Only Call.IsLoading p) : Only Call.IsQuiet p :=
  quiet_of only (fun _ => id) (fun _ _ => id) (fun _ _ _ _ => id) (fun _ => id) fun _ => id

end Quiet

/-- Peer verification leaves the context with the settings of the options, or unused. -/
theorem configureVerification_prepares (origin : Origin) {ctx : SslCtx} {s : Contexts}
    (verifyDepth : Int) (preparing : Preparing ctx .fresh s) :
    Always (Verifying origin) (configureVerification ctx origin.options origin.isServer verifyDepth)
      (fun _ => Preparing ctx origin.settings) s := by
  unfold configureVerification Origin.settings
  cases verify : verifyPeerOption origin.options origin.isServer with
  | false =>
      rw [if_neg Bool.false_ne_true]
      refine always_call_bind.mpr fun _ s₁ replied => .pure ?_
      obtain ⟨_, rfl, verified⟩ := replied
      have settled := preparing.configure verified
      rw [preparing.settings] at settled
      exact settled
  | true =>
      rw [if_pos rfl]
      refine always_call_bind.mpr fun _ s₁ flagged => always_call_bind.mpr fun _ s₂ replied => ?_
      obtain ⟨_, rfl, verified⟩ := flagged
      have flagged := preparing.configure verified
      rw [preparing.settings] at flagged
      obtain ⟨_, rfl, verified⟩ := replied
      have settled := flagged.configure verified
      rw [flagged.settings] at settled
      refine .bind_except (quiet_preparing (quiet_of_loading (loadTrust_calls ..)) settled)
        (fun _ _ kept => .pure kept) fun _ s₃ kept => ?_
      exact .bind (quiet_preparing (applyLevel_calls _ fun _ => .call trivial) kept)
        fun _ _ kept => .pure kept

theorem phpQuicConfigureCtx_prepares (origin : Origin) {ctx : SslCtx} {s : Contexts}
    (preparing : Preparing ctx .fresh s) :
    Always (Verifying origin) (phpQuicConfigureCtx ctx origin.options origin.isServer)
      (fun result s' => Sound s' ∧
        ∀ setup, result = .ok setup → Preparing ctx origin.settings s') s := by
  have loading {α : Type} {p : Quic α} (only : Only Call.IsLoading p) {t : Contexts}
      {settings : ContextSettings} (preparing : Preparing ctx settings t) :
      Always (Verifying origin) p (fun _ => Preparing ctx settings) t :=
    quiet_preparing (quiet_of_loading only) preparing
  refine .bind (loading (optLong_calls ..) preparing) fun level s₁ preparing =>
    .bind (loading (optLong_calls ..) preparing) fun depth s₂ preparing => ?_
  refine .bind_except (loading (loadIdentity_calls ..) preparing)
    (fun _ _ preparing => .pure ⟨preparing.sound, nofun⟩) fun _ s₃ preparing => ?_
  refine .bind_except (configureVerification_prepares origin depth preparing)
    (fun _ _ ready => .pure ⟨ready.sound, nofun⟩) fun _ s₄ ready => ?_
  refine .bind_except (loading (configureTuning_calls ..) ready)
    (fun _ _ ready => .pure ⟨ready.sound, nofun⟩) fun _ s₅ ready => ?_
  exact .pure ⟨ready.sound, fun _ _ => ready⟩

/-! ### The constructors -/

section Quiet

variable {α : Type} {p : Quic α}

theorem quiet_of_throw (only : Only Call.IsThrow p) : Only Call.IsQuiet p :=
  quiet_of only (fun _ => id) (fun _ _ => id) (fun _ _ _ _ => id) (fun _ => id) fun _ => id

theorem quiet_of_cleanup (only : Only Call.IsCleanup p) : Only Call.IsQuiet p :=
  quiet_of only (fun _ => id) (fun _ _ => id) (fun _ _ _ _ => id) (fun _ => id) fun _ => id

theorem quiet_of_encoding (only : Only Call.IsEncoding p) : Only Call.IsQuiet p :=
  quiet_of only (fun _ => id) (fun _ _ => id) (fun _ _ _ _ => id) (fun _ => id) fun _ => id

theorem quiet_of_socket (only : Only Call.IsSocket p) : Only Call.IsQuiet p :=
  quiet_of only (fun _ => id) (fun _ _ => id) (fun _ _ _ _ => id) (fun _ => id) fun _ => id

theorem quiet_of_prepare (only : Only Call.IsPrepare p) : Only Call.IsQuiet p :=
  quiet_of only (fun _ => id) (fun _ _ => id) (fun _ _ _ _ => id) (fun _ => id) fun _ => id

theorem quiet_of_certificate (only : Only Call.IsCertificate p) : Only Call.IsQuiet p :=
  quiet_of only (fun _ => id) (fun _ _ => id) (fun _ _ _ _ => id) (fun _ => id) fun _ => id

theorem quiet_of_handshake {ssl : Ssl}
    (only : Only (fun call : Call => call.IsHandshake ssl ∨ call.IsThrow) p) :
    Only Call.IsQuiet p :=
  quiet_of only (fun _ => Or.rec id id) (fun _ _ => Or.rec id id) (fun _ _ _ _ => Or.rec id id)
    (fun _ => Or.rec id id) fun _ => Or.rec id id

end Quiet

theorem clientError_quiet (alpn : ZendString) (peer : BioAddr) (ssl : Option Ssl)
    (ctx : Option SslCtx) (fd : Fd) :
    Only Call.IsQuiet (do
      return some (.error (← Connection.sslError alpn peer ssl ctx fd)) :
        Quic (Option (Outcome PhpQuicConnection))) :=
  .bind (.bind (quiet_of_throw (phpQuicThrowSsl_calls _)) fun _ =>
    .bind (quiet_of_cleanup (connectionCleanup_calls ..)) fun _ => .pure _) fun _ => .pure _

theorem establish_quiet (fuel : Nat) (obj : PhpQuicConnection) (ssl : Ssl) (fd : Fd)
    (alpn : ZendString) (peer : BioAddr) (host : Bytes) (port idleTimeoutMs connectTimeoutMs : Int)
    (options : Option HashTable) (setup : PhpQuicTlsSetup) :
    Only Call.IsQuiet (Connection.establish fuel obj ssl fd alpn peer host port idleTimeoutMs
      connectTimeoutMs options setup) := by
  have cleaned (thrown : Thrown) : Only Call.IsQuiet (do
        Connection.cleanup alpn peer (some ssl) none fd
        return some (.error thrown) : Quic (Option (Outcome PhpQuicConnection))) :=
    .bind (quiet_of_cleanup (connectionCleanup_calls ..)) fun _ => .pure _
  refine .bind (quiet_of_prepare (prepareSsl_calls ssl fd alpn peer host setup)) fun _ =>
    .ite (clientError_quiet alpn peer _ _ fd) <|
    .bind (quiet_of_prepare (requestIdleTimeout_calls ssl _)) fun _ =>
    .bind (quiet_of_prepare (phpQuicConnectionConfigure_calls ssl)) fun _ =>
    .bind (quiet_of_handshake (handshake_calls fuel ssl fd host port _)) fun shaken => ?_
  match shaken with
  | none => exact .pure _
  | some (.error thrown) => exact cleaned thrown
  | some (.ok ()) =>
      refine .bind (quiet_of_certificate (checkPinning_calls ssl options)) fun pinned => ?_
      cases pinned with
      | error thrown => exact cleaned thrown
      | ok _ => exact .bind (.call trivial) fun _ => .bind (.call trivial) fun _ => .pure _

/-- **The client constructor**, whatever comes of it. -/
theorem newConnection_sound (fuel : Nat) (obj : PhpQuicConnection) (host : Bytes) (port : Int)
    (options : Option HashTable) {s : Contexts} (sound : Sound s) :
    Always (Verifying ⟨options, false⟩) (Connection.construct fuel obj host port options)
      (fun _ => Sound) s := by
  refine .ite (fun _ => .pure sound) fun _ => .ite (fun _ => .pure sound) fun _ =>
    .ite (fun _ => .pure sound) fun _ =>
    .bind (quiet_sound (quiet_of_loading (readOptions_calls options)) sound)
      fun ⟨spec, idle, timeout⟩ s₁ sound => ?_
  cases spec with
  | none => exact .pure sound
  | some spec =>
  refine .bind (quiet_sound (quiet_of_encoding (phpQuicAlpnFromZval_calls spec)) sound)
    fun alpn s₂ sound => ?_
  cases alpn with
  | error errbuf => exact .pure sound
  | ok alpn =>
  refine .bind (quiet_sound (quiet_of_socket (phpQuicUdpClient_calls host _)) sound)
    fun socket s₃ sound => ?_
  match socket with
  | .error errbuf => exact quiet_sound (.bind (.call trivial) fun _ => .pure _) sound
  | .ok (fd, peer) =>
  refine always_call_bind.mpr fun ctx s₄ made => ?_
  obtain ⟨sound, fresh⟩ := made.sslCtxNew sound
  cases ctx with
  | none => exact quiet_sound (clientError_quiet alpn peer _ _ fd) sound
  | some ctx =>
  refine .bind (phpQuicConfigureCtx_prepares ⟨options, false⟩ (fresh ctx rfl))
    fun result s₅ ⟨sound, ready⟩ => ?_
  cases result with
  | error errbuf =>
      exact quiet_sound (.bind (phpQuicThrow_calls _ _) fun _ =>
        .bind (quiet_of_cleanup (connectionCleanup_calls ..)) fun _ => .pure _) sound
  | ok setup =>
  refine always_call_bind.mpr fun ssl s₆ made => ?_
  have sound := made.sslNew (ready setup rfl)
  cases ssl with
  | none => exact quiet_sound (clientError_quiet alpn peer _ _ fd) sound
  | some ssl =>
      exact quiet_sound (.bind (.call trivial) fun _ => establish_quiet fuel obj ssl fd alpn peer host
        port idle timeout options setup) sound

theorem freeAlpnData_quiet (data : Option QuicAlpnData) : Only Call.IsQuiet (freeAlpnData data) := by
  cases data with
  | none => exact .pure _
  | some data => exact .bind (.call trivial) fun _ => .call trivial

theorem listenerCleanup_quiet (owner : Listener.AlpnOwner) (listener : Option Ssl)
    (ctx : Option SslCtx) (fd : Fd) :
    Only Call.IsQuiet (Listener.cleanup owner listener ctx fd) := by
  have released : Only Call.IsQuiet (Listener.releaseAlpn owner) := by
    cases owner with
    | string alpn => exact .call trivial
    | data adata => exact freeAlpnData_quiet (some adata)
  exact .bind released fun _ => .bind (quiet_of_cleanup (freeSsl_calls listener)) fun _ =>
    .bind (quiet_of_cleanup (freeCtx_calls ctx)) fun _ => .call trivial

theorem listenerError_quiet (owner : Listener.AlpnOwner) (listener : Option Ssl)
    (ctx : Option SslCtx) (fd : Fd) :
    Only Call.IsQuiet (do
      return .error (← Listener.sslError owner listener ctx fd) : Quic (Outcome PhpQuicListener)) :=
  .bind (.bind (quiet_of_throw (phpQuicThrowSsl_calls _)) fun _ =>
    .bind (listenerCleanup_quiet owner listener ctx fd) fun _ => .pure _) fun _ => .pure _

/-- The listener constructor once the context is ready. -/
theorem startListening_sound (origin : Origin) (fd : Fd) {ctx : SslCtx} (alpn : ZendString)
    (host : Bytes) (port : Int) {s : Contexts} (ready : Preparing ctx origin.settings s) :
    Always (Verifying origin) (Listener.startListening fd ctx alpn host port) (fun _ => Sound) s := by
  refine always_call_bind.mpr fun id s₁ allocated => ?_
  have ready := allocated.preparing trivial ready
  refine always_call_bind.mpr fun _ s₂ installed => ?_
  have ready := installed.preparing trivial ready
  refine always_call_bind.mpr fun listener s₃ made => ?_
  have sound := made.sslNewListener ready
  cases listener with
  | none => exact quiet_sound (listenerError_quiet _ _ _ fd) sound
  | some listener =>
  refine quiet_sound (.bind (.call trivial) fun bio => ?_) sound
  cases bio with
  | none => exact listenerError_quiet _ _ _ fd
  | some bio =>
      exact .bind (.call trivial) fun _ => .bind (.call trivial) fun _ =>
        .ite (.bind (quiet_of_throw (phpQuicThrowSsl_calls _)) fun _ =>
          .bind (listenerCleanup_quiet ..) fun _ => .pure _) (.pure _)

/-- **The listener constructor**, whatever comes of it. -/
theorem newListener_sound (obj : PhpQuicListener) (host : Bytes) (port : Int) (options : HashTable)
    {s : Contexts} (sound : Sound s) :
    Always (Verifying ⟨some options, true⟩) (Listener.construct obj host port options)
      (fun _ => Sound) s := by
  refine .ite (fun _ => .pure sound) fun _ => .ite (fun _ => .pure sound) fun _ =>
    .ite (fun _ => .pure sound) fun _ => ?_
  dsimp only
  split
  · exact .pure sound
  refine .bind (quiet_sound (quiet_of_encoding (phpQuicAlpnFromZval_calls _)) sound)
    fun alpn s₁ sound => ?_
  cases alpn with
  | error errbuf => exact .pure sound
  | ok alpn =>
  refine .bind (quiet_sound (quiet_of_socket (phpQuicUdpServer_calls host _ _)) sound)
    fun socket s₂ sound => ?_
  cases socket with
  | error errbuf => exact quiet_sound (.bind (.call trivial) fun _ => .pure _) sound
  | ok fd =>
  refine always_call_bind.mpr fun ctx s₃ made => ?_
  obtain ⟨sound, fresh⟩ := made.sslCtxNew sound
  cases ctx with
  | none => exact quiet_sound (listenerError_quiet _ _ _ fd) sound
  | some ctx =>
  refine .bind (phpQuicConfigureCtx_prepares ⟨some options, true⟩ (fresh ctx rfl))
    fun result s₄ ⟨sound, ready⟩ => ?_
  cases result with
  | error errbuf =>
      exact quiet_sound (.bind (phpQuicThrow_calls _ _) fun _ =>
        .bind (listenerCleanup_quiet ..) fun _ => .pure _) sound
  | ok setup => exact startListening_sound _ fd alpn host port (ready setup rfl)

/-! ### Whole runs -/

/-- What happens in the process: a client or a listener is built, with any outcome, or the extension
makes some other call (accepting, closing and releasing, reading and writing, polling). -/
inductive ContextStep : Contexts → Option Origin → Contexts → Prop
  | newConnection {s s' : Contexts} {fuel : Nat} {obj : PhpQuicConnection} {host : Bytes} {port : Int}
      {options : Option HashTable} {result : Option (Outcome PhpQuicConnection)}
      (ran : Run (Verifying ⟨options, false⟩) (Connection.construct fuel obj host port options)
        s result s') : ContextStep s (some ⟨options, false⟩) s'
  | newListener {s s' : Contexts} {obj : PhpQuicListener} {host : Bytes} {port : Int}
      {options : HashTable} {result : Outcome PhpQuicListener}
      (ran : Run (Verifying ⟨some options, true⟩) (Listener.construct obj host port options)
        s result s') : ContextStep s (some ⟨some options, true⟩) s'
  | call {s s' : Contexts} {origin : Origin} {call : Call} {answer : Answer call}
      (quiet : call.IsQuiet) (replied : Verifying origin s call answer s') : ContextStep s none s'

theorem ContextStep.sound {s s' : Contexts} {label : Option Origin}
    (step : ContextStep s label s') (sound : Sound s) : Sound s' := by
  cases step with
  | newConnection ran => exact newConnection_sound _ _ _ _ _ sound _ _ ran
  | newListener ran => exact newListener_sound _ _ _ _ sound _ _ ran
  | call quiet replied => exact replied.sound quiet sound

theorem Contexts.sound_of_path {labels : List (Option Origin)} {s : Contexts}
    (path : Path ContextStep .empty labels s) : Sound s :=
  path.invariant (fun _ _ _ sound step => step.sound sound)
    ⟨nofun, fun _ member => absurd member List.not_mem_nil⟩

/-- **Chain verification follows the options, context by context.** In every run, every verification
on a client or listener whose options ask for one passes exactly when no error was reported or all of
them are self-signed ones and these options allow it; such a listener refuses a peer without a
certificate. No options but those it was built from are mentioned. -/
theorem chain_verification {labels : List (Option Origin)} {s : Contexts}
    (path : Path ContextStep .empty labels s) :
    ∀ verification ∈ s.verifications,
      verifyPeerOption verification.origin.options verification.origin.isServer = true →
      (∀ errors, verification.presented = some errors →
        (verification.accepted = true ↔ errors = [] ∨
          (∀ error ∈ errors, IsSelfSigned error) ∧
            optBool verification.origin.options "allow_self_signed" false = true)) ∧
      (verification.presented = none → verification.origin.isServer = true →
        verification.accepted = false) := by
  intro verification member verify
  have asked := (Contexts.sound_of_path path).asked verification member verify
  constructor
  · intro errors presented
    rw [presented] at asked
    exact asked
  · intro presented
    rw [presented] at asked
    exact asked

/-! ### One client -/

/-- `['alpn' => 'h3', 'allow_self_signed' => true]`. -/
def trustingOptions : HashTable :=
  [(.name (text "alpn"), .string (text "h3")), (.name (text "allow_self_signed"), .bool true)]

def trusting : Origin := ⟨some trustingOptions, false⟩

/-- An environment in which the client is built, and its peer presents a self-signed certificate. -/
def selfSignedPeer : Handler openssl Contexts := fun s call =>
  match call with
  | .sslCtxNew _ => (some 1, { s.configure 1 .fresh with held := update s.held 1 true })
  | .sslCtxFree ctx => ((), { s with held := update s.held ctx false })
  | .sslCtxSetExData ctx allowSelfSigned =>
      ((), s.configure ctx { s.settings ctx with allowSelfSigned })
  | .sslCtxSetVerify ctx peer failIfNoPeerCert callback =>
      ((), s.configure ctx { s.settings ctx with mode := ⟨peer, failIfNoPeerCert, callback⟩ })
  | .sslNew ctx => (some 1, s.attach 1 ctx trusting)
  | .sslConnect _ => ((1 : Int), { s with
      verifications := s.verifications ++ [⟨trusting, some [depthZeroSelfSignedCert], true⟩] })
  | call => (succeeding call, s)

/-- A call during which nothing is verified. -/
theorem Verifying.silently {origin : Origin} {s s' : Contexts} {call : Call} {answer : Answer call}
    (affects : Affects origin s call answer s') : Verifying origin s call answer s' :=
  ⟨s', affects, [], by rw [List.append_nil], fun _ member => absurd member List.not_mem_nil⟩

theorem selfSignedPeer_follows :
    Follows (Verifying trusting) selfSignedPeer
      (Connection.construct 1 quicConnectionCreate (text "a") 443 (some trustingOptions))
      .empty := by
  -- Down to the socket.
  refine ⟨.silently rfl, .silently rfl, .silently rfl, .silently rfl, .silently rfl, .silently rfl,
    .silently rfl, ?_⟩
  -- The context and its settings.
  refine ⟨.silently ⟨nofun, rfl, rfl⟩, .silently rfl, .silently rfl, .silently rfl, ?_⟩
  -- The SSL object, down to the handshake.
  refine ⟨.silently ⟨rfl, rfl⟩, .silently rfl, .silently rfl, .silently rfl, .silently rfl,
    .silently rfl, .silently rfl, .silently rfl, .silently rfl, .silently rfl, ?_⟩
  refine ⟨⟨_, rfl, _, rfl, fun verification member => ?_⟩, .silently rfl, .silently rfl, trivial⟩
  cases List.mem_singleton.mp member
  exact ⟨1, _, rfl, rfl, by decide⟩

theorem chain_verification_example :
    ∃ s verification, verification ∈ s.verifications ∧ verification.origin = trusting ∧
      verification.presented = some [depthZeroSelfSignedCert] ∧ verification.accepted = true ∧
      ∃ labels, Path ContextStep .empty labels s := by
  have path := Path.single (ContextStep.newConnection selfSignedPeer_follows.run)
  have outcome := (chain_verification path _ List.mem_cons_self (by decide)).1 _ rfl
  exact ⟨_, _, List.mem_cons_self, rfl, rfl, outcome.mpr (.inr (by decide)), _, path⟩

end PhpQuic
