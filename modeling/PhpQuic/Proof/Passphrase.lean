/-
**The passphrase of a private key is only lent.**

`php_quic_configure_ctx` hands OpenSSL a pointer into the caller's options array, and takes it back
once the key is loaded.

* `Lending`, `lending`: which contexts carry such a pointer, and which of them live on in SSL objects
  when the constructor lets go of them.
* `operation_discreet`: an entry point that starts where no context carries one ends where none does,
  on every path; and while one does, the only calls made are those that load the key, and the
  releases of the context and of the constructor's own memory.
* `passphrase_lent`: the same of every run of entry points.
-/

import PhpQuic.Interact.Transition
import PhpQuic.Proof.Rights
import PhpQuic.Source.Operation

namespace PhpQuic

open Interact

/-! ### Who has the passphrase -/

structure Lending where
  /-- The context has the pointer that the passphrase callback reads. -/
  lent : SslCtx → Bool
  /-- An SSL object was made from the context, and keeps it. -/
  shared : SslCtx → Bool

/-- No context has a pointer into an options array. -/
def Lending.Clean (s : Lending) : Prop := ∀ ctx, s.lent ctx = false

/-- No other context has one than one that no SSL object keeps. -/
structure Lending.OnlyOn (s : Lending) (ctx : SslCtx) : Prop where
  others : ∀ other, other ≠ ctx → s.lent other = false
  unshared : s.shared ctx = false

/-- **What the calls do to it.** A new context has nothing; freeing one that no SSL object keeps ends
it. -/
def lending : Behaviour openssl Lending
  | s, .sslCtxNew _, answer, s' => s' = answer.elim s fun ctx =>
      ⟨Function.update s.lent ctx false, Function.update s.shared ctx false⟩
  | s, .sslCtxSetDefaultPasswdCbUserdata ctx userdata, _, s' =>
    s' = { s with lent := Function.update s.lent ctx userdata.isSome }
  | s, .sslNew ctx, answer, s' | s, .sslNewListener ctx, answer, s' =>
    s' = { s with shared := Function.update s.shared ctx (s.shared ctx || answer.isSome) }
  | s, .sslCtxFree ctx, _, s' =>
    s' = { s with lent := Function.update s.lent ctx (s.lent ctx && s.shared ctx) }
  | s, _, _, s' => s' = s

/-- The calls that may be made while OpenSSL has the pointer: those that load the key, and the
releases behind a failure. -/
def Call.IsKeyLoading : Call → Prop
  | .sslCtxSetDefaultPasswdCbUserdata .. | .sslCtxSetDefaultPasswdCb ..
  | .sslCtxUseCertificateChainFile .. | .sslCtxUsePrivateKeyFile .. | .sslCtxCheckPrivateKey _
  | .sslCtxFree _ | .zendStringRelease _ | .bioAddrFree _ => True
  | _ => False

/-- While it has, no other call is made. -/
def Call.Discreet (s : Lending) (call : Call) : Prop := s.Clean ∨ call.IsKeyLoading

/-- Everything below holds on all paths. -/
abbrev Discreetly {α : Type} (p : Quic α) (post : α → Lending → Prop) (s : Lending) : Prop :=
  Guarded lending Call.Discreet p post s

/-! ### Calls that lend nothing -/

/-- The call hands over no passphrase. -/
def Call.LendsNothing : Call → Prop
  | .sslCtxSetDefaultPasswdCbUserdata .. => False
  | _ => True

theorem Lending.Clean.kept {s s' : Lending} {call : Call} {answer : Answer call} (clean : s.Clean)
    (lends : call.LendsNothing) (replied : lending s call answer s') : s'.Clean := by
  cases call with
  | sslCtxSetDefaultPasswdCbUserdata => exact lends.elim
  | sslCtxNew server =>
      cases answer with
      | none =>
          obtain rfl : s' = s := replied
          exact clean
      | some ctx =>
          obtain rfl : s' = _ := replied
          intro other
          show Function.update s.lent ctx false other = false
          rw [Function.update_apply, clean other, ite_self]
  | sslNew ctx | sslNewListener ctx =>
      obtain rfl : s' = _ := replied
      exact clean
  | sslCtxFree ctx =>
      obtain rfl : s' = _ := replied
      intro other
      show Function.update s.lent ctx (s.lent ctx && s.shared ctx) other = false
      rw [Function.update_apply, clean ctx, clean other, Bool.false_and, ite_self]
  | _ =>
      obtain rfl : s' = s := replied
      exact clean

/-- A part that lends nothing. -/
theorem discreetly_of {α : Type} {p : Quic α} {s : Lending} (only : Only Call.LendsNothing p)
    (clean : s.Clean) : Discreetly p (fun _ => Lending.Clean) s :=
  .of_invariant only (fun _ _ clean _ => .inl clean) (fun _ _ _ _ clean lends => clean.kept lends) clean

theorem lendsNothing_of_touches {own : Option Handle} (apart : ∀ ctx, own ≠ some (.ctx ctx))
    {call : Call} (touches : call.Touches own) : call.LendsNothing := by
  cases call with
  | sslCtxSetDefaultPasswdCbUserdata ctx userdata =>
      obtain ⟨h, same, uses⟩ := touches.needs (.use (.ctx ctx)) List.mem_cons_self
      exact absurd (same.trans (congrArg some (Right.use.inj uses).symm)) (apart ctx)
  | _ => trivial

/-! ### Loading the key -/

/-- The settings that are made from files, names and numbers, and do not concern the passphrase. -/
def Call.IsSetting : Call → Prop
  | .zvalGetLong _ | .sslCtxSetExData .. | .sslCtxSetVerify .. | .sslCtxLoadVerifyLocations ..
  | .sslCtxSetDefaultVerifyPaths _ | .sslCtxSetVerifyDepth .. | .sslCtxSetCiphersuites ..
  | .sslCtxSet1GroupsList .. | .sslCtxSet1SigalgsList .. | .sslCtxSetSecurityLevel .. => True
  | _ => False

/-- A part that only makes such settings can be skipped. -/
theorem skipSettings {α β : Type} {p : Quic α} {rest : α → Quic β} {post : β → Lending → Prop}
    {s : Lending} (only : Only Call.IsSetting p) (clean : s.Clean)
    (second : ∀ value, Discreetly (rest value) post s) : Discreetly (p >>= rest) post s :=
  .bind (.of_still only (fun _ _ => .inl clean) fun call answer s' sets replied => by
    cases call <;> first | exact replied | exact sets.elim) fun value _ same => same ▸ second value

section Configuring

variable (ctx : SslCtx) (opts : Option HashTable) (isServer : Bool)

theorem optLong_sets (key : String) (default : Int) :
    Only Call.IsSetting (optLong opts key default) := by
  unfold optLong
  split
  · exact .pure _
  · exact .call trivial

theorem loadTrust_sets : Only Call.IsSetting (loadTrust ctx opts isServer) :=
  .ite (.bind (.call trivial) fun _ => .ite (.pure _) (.pure _)) <|
    .ite (.bind (.call trivial) fun _ => .pure _) (.pure _)

theorem configureVerification_sets (verifyDepth : Int) :
    Only Call.IsSetting (configureVerification ctx opts isServer verifyDepth) := by
  refine .ite (.bind (.call trivial) fun _ => .bind (.call trivial) fun _ =>
    .bind_except (loadTrust_sets ctx opts isServer) (fun _ => .pure _) fun _ => ?_)
    (.bind (.call trivial) fun _ => .pure _)
  exact .bind (applyLevel_calls verifyDepth fun _ => .call trivial) fun _ => .pure _

theorem configureTuning_sets (securityLevel : Int) :
    Only Call.IsSetting (configureTuning ctx opts securityLevel) := by
  have names (key : String) {set : Bytes → Quic Int} (sets : ∀ names, Only Call.IsSetting (set names)) :
      Only Call.IsSetting (applyNames opts key set) := applyNames_calls opts key sets
  refine .bind_except (names _ fun _ => .call trivial) (fun _ => .pure _) fun _ => ?_
  refine .bind_except (names _ fun _ => .call trivial) (fun _ => .pure _) fun _ => ?_
  refine .bind_except (names _ fun _ => .call trivial) (fun _ => .pure _) fun _ => ?_
  exact .bind (applyLevel_calls securityLevel fun _ => .call trivial) fun _ => .pure _

variable {ctx} {s : Lending}

/-- While the key is loaded. -/
structure Loading (ctx : SslCtx) (passphrase : Option Bytes) (s : Lending) : Prop where
  only : s.OnlyOn ctx
  clean : passphrase = none → s.Clean

/-- What a step of the configuration leaves: after a failure the context may still have the
pointer. -/
structure Configured {α : Type} (ctx : SslCtx) (result : ZendResult α) (s : Lending) : Prop where
  only : s.OnlyOn ctx
  clean : ∀ value, result = .ok value → s.Clean

theorem Lending.Clean.onlyOn (clean : s.Clean) (unshared : s.shared ctx = false) : s.OnlyOn ctx :=
  ⟨fun other _ => clean other, unshared⟩

/-- One of the calls that load the key. -/
theorem loading_bind {α : Type} {call : Call} {next : Answer call → Quic α}
    {post : α → Lending → Prop} (loads : call.IsKeyLoading)
    (still : ∀ answer s', lending s call answer s' → s' = s)
    (rest : ∀ answer, Discreetly (next answer) post s) : Discreetly (ask call >>= next) post s :=
  .ask_bind (.inr loads) fun answer s' replied => still answer s' replied ▸ rest answer

theorem installPassphrase_lends (passphrase : Option Bytes) (clean : s.Clean)
    (unshared : s.shared ctx = false) :
    Discreetly (installPassphrase ctx passphrase) (fun _ => Loading ctx passphrase) s := by
  cases passphrase with
  | none => exact .pure ⟨clean.onlyOn unshared, fun _ => clean⟩
  | some passphrase =>
      refine .ask_bind (.inr trivial) fun _ s₁ replied => ?_
      obtain rfl : s₁ = _ := replied
      refine .ask (.inr trivial) fun _ s₂ replied => ?_
      obtain rfl : s₂ = _ := replied
      refine ⟨⟨fun other different => ?_, unshared⟩, nofun⟩
      exact (Function.update_of_ne different _ _).trans (clean other)

theorem dropPassphrase_clean {passphrase : Option Bytes} (loading : Loading ctx passphrase s) :
    Discreetly (dropPassphrase ctx passphrase)
      (fun _ s' => s'.Clean ∧ s'.shared ctx = false) s := by
  cases passphrase with
  | none => exact .pure ⟨loading.clean rfl, loading.only.unshared⟩
  | some passphrase =>
      refine loading_bind trivial (fun _ _ => id) fun _ => .ask (.inr trivial) fun _ s₁ replied => ?_
      obtain rfl : s₁ = _ := replied
      refine ⟨fun other => ?_, loading.only.unshared⟩
      show Function.update s.lent ctx false other = false
      by_cases same : other = ctx
      · rw [same, Function.update_self]
      · rw [Function.update_of_ne same, loading.only.others other same]

theorem loadIdentity_lends (clean : s.Clean) (unshared : s.shared ctx = false) :
    Discreetly (loadIdentity ctx opts isServer) (Configured ctx) s := by
  have untouched (result : ZendResult Unit) : Configured ctx result s :=
    ⟨clean.onlyOn unshared, fun _ _ => clean⟩
  unfold loadIdentity
  cases phpQuicOptString opts "local_cert" with
  | none => exact .ite (fun _ => .pure (untouched _)) fun _ => .pure (untouched _)
  | some localCert =>
      refine .bind (installPassphrase_lends _ clean unshared) fun _ s₁ loading => ?_
      have failed (message : Bytes) : Discreetly (return .error message) (Configured ctx) s₁ :=
        .pure (⟨loading.only, nofun⟩ : Configured ctx (.error message : ZendResult Unit) s₁)
      refine loading_bind trivial (fun _ _ => id) fun _ => .ite (fun _ => failed _) fun _ => ?_
      refine loading_bind trivial (fun _ _ => id) fun _ => .ite (fun _ => failed _) fun _ => ?_
      refine loading_bind trivial (fun _ _ => id) fun _ => .ite (fun _ => failed _) fun _ => ?_
      exact .bind (dropPassphrase_clean loading) fun _ s₂ ⟨clean, unshared⟩ =>
        .pure ⟨clean.onlyOn unshared, fun _ _ => clean⟩

/-- **The configuration of a context** lends the passphrase while the key is loaded, and leaves it
on the context only when it fails. -/
theorem phpQuicConfigureCtx_lends (clean : s.Clean) (unshared : s.shared ctx = false) :
    Discreetly (phpQuicConfigureCtx ctx opts isServer) (Configured ctx) s := by
  refine skipSettings (optLong_sets opts _ _) clean fun _ => ?_
  refine skipSettings (optLong_sets opts _ _) clean fun verifyDepth => ?_
  refine .bind (loadIdentity_lends opts isServer clean unshared) fun loaded s₁ configured => ?_
  cases loaded with
  | error message => exact .pure ⟨configured.only, nofun⟩
  | ok =>
  have clean := configured.clean () rfl
  have ended {α : Type} (result : ZendResult α) : Configured ctx result s₁ :=
    ⟨configured.only, fun _ _ => clean⟩
  refine skipSettings (configureVerification_sets ctx opts isServer _) clean fun verified => ?_
  cases verified with
  | error message => exact .pure (ended _)
  | ok =>
  refine skipSettings (configureTuning_sets ctx opts _) clean fun tuned => ?_
  cases tuned with
  | error message => exact .pure (ended _)
  | ok => exact .pure (ended _)

end Configuring

/-! ### The constructors -/

theorem lendsNothing_of {α : Type} {P : Call → Prop} {p : Quic α} (only : Only P p)
    (apart : ∀ ctx userdata, ¬ P (.sslCtxSetDefaultPasswdCbUserdata ctx userdata)) :
    Only Call.LendsNothing p :=
  only.mono fun call here => by
    cases call with
    | sslCtxSetDefaultPasswdCbUserdata ctx userdata => exact absurd here (apart ctx userdata)
    | _ => trivial

theorem touches_lendsNothing {α : Type} {ssl : Option Ssl} {p : Quic α}
    (touches : Only (Call.Touches (ssl.map .ssl)) p) : Only Call.LendsNothing p :=
  touches.mono fun _ here => lendsNothing_of_touches (fun ctx same => by cases ssl <;> cases same) here

theorem untouching_lendsNothing {α : Type} {p : Quic α} (touches : Only (Call.Touches none) p) :
    Only Call.LendsNothing p := by
  have apart (ctx : SslCtx) : (none : Option Handle) ≠ some (.ctx ctx) := nofun
  exact touches.mono fun _ here => lendsNothing_of_touches apart here

section Lendless

variable {α : Type}

theorem throwing_lendsNothing (format : Bytes) :
    Only Call.LendsNothing (throwing (phpQuicThrow format) : Quic (Outcome α)) :=
  throwing_calls (phpQuicThrow_calls _ format)

theorem throwSsl_lendsNothing (format : Bytes) : Only Call.LendsNothing (phpQuicThrowSsl format) :=
  lendsNothing_of (phpQuicThrowSsl_calls format) fun _ _ => id

theorem throwingSsl_lendsNothing (format : Bytes) :
    Only Call.LendsNothing (throwing (phpQuicThrowSsl format) : Quic (Outcome α)) :=
  throwing_calls (throwSsl_lendsNothing format)

theorem clientError_lendsNothing (alpn : ZendString) (peer : BioAddr) (ssl : Option Ssl)
    (ctx : Option SslCtx) (fd : Fd) :
    Only Call.LendsNothing (do
      return some (.error (← Connection.sslError alpn peer ssl ctx fd)) :
        Quic (Option (Outcome PhpQuicConnection))) :=
  .bind (.bind (throwSsl_lendsNothing _) fun _ =>
    .bind (lendsNothing_of (connectionCleanup_calls alpn peer ssl ctx fd) fun _ _ => id)
      fun _ => .pure _) fun _ => .pure _

theorem establish_lendsNothing (fuel : Nat) (obj : PhpQuicConnection) (ssl : Ssl) (fd : Fd)
    (alpn : ZendString) (peer : BioAddr) (host : Bytes) (port idleTimeoutMs connectTimeoutMs : Int)
    (options : Option HashTable) (setup : PhpQuicTlsSetup) :
    Only Call.LendsNothing (Connection.establish fuel obj ssl fd alpn peer host port idleTimeoutMs
      connectTimeoutMs options setup) := by
  have cleaned (thrown : Thrown) : Only Call.LendsNothing (do
        Connection.cleanup alpn peer (some ssl) none fd
        return some (.error thrown) : Quic (Option (Outcome PhpQuicConnection))) :=
    .bind (lendsNothing_of (connectionCleanup_calls ..) fun _ _ => id) fun _ => .pure _
  have prepares {α : Type} {p : Quic α} (only : Only Call.IsPrepare p) : Only Call.LendsNothing p :=
    lendsNothing_of only fun _ _ => id
  refine .bind (prepares (prepareSsl_calls ssl fd alpn peer host setup)) fun _ =>
    .ite (clientError_lendsNothing alpn peer _ _ fd) <|
    .bind (prepares (requestIdleTimeout_calls ssl _)) fun _ =>
    .bind (prepares (phpQuicConnectionConfigure_calls ssl)) fun _ =>
    .bind (lendsNothing_of (handshake_calls fuel ssl fd host port _) fun _ _ => Or.rec id id)
      fun shaken => ?_
  match shaken with
  | none => exact .pure _
  | some (.error thrown) => exact cleaned thrown
  | some (.ok ()) =>
      refine .bind (lendsNothing_of (checkPinning_calls ssl options) fun _ _ => id) fun pinned => ?_
      cases pinned with
      | error thrown => exact cleaned thrown
      | ok _ => exact .bind (.call trivial) fun _ => .bind (.call trivial) fun _ => .pure _

theorem listenerCleanup_lendsNothing (owner : Listener.AlpnOwner) (ssl : Option Ssl)
    (ctx : Option SslCtx) (fd : Fd) :
    Only Call.LendsNothing (Listener.cleanup owner ssl ctx fd) := by
  have released : Only Call.LendsNothing (Listener.releaseAlpn owner) := by
    cases owner with
    | string alpn => exact .call trivial
    | data adata => exact .bind (.call trivial) fun _ => .call trivial
  exact .bind released fun _ => .bind (lendsNothing_of (freeSsl_calls ssl) fun _ _ => id) fun _ =>
    .bind (lendsNothing_of (freeCtx_calls ctx) fun _ _ => id) fun _ => .call trivial

theorem listenerError_lendsNothing (owner : Listener.AlpnOwner) (ssl : Option Ssl)
    (ctx : Option SslCtx) (fd : Fd) :
    Only Call.LendsNothing (do
      return .error (← Listener.sslError owner ssl ctx fd) : Quic (Outcome PhpQuicListener)) :=
  .bind (.bind (throwSsl_lendsNothing _) fun _ =>
    .bind (listenerCleanup_lendsNothing owner ssl ctx fd) fun _ => .pure _) fun _ => .pure _

theorem startListening_lendsNothing (fd : Fd) (ctx : SslCtx) (alpn : ZendString) (host : Bytes)
    (port : Int) : Only Call.LendsNothing (Listener.startListening fd ctx alpn host port) := by
  refine .bind (.call trivial) fun id => .bind (.call trivial) fun _ =>
    .bind (.call trivial) fun listener => ?_
  cases listener with
  | none => exact listenerError_lendsNothing _ _ _ fd
  | some listener =>
  refine .bind (.call trivial) fun bio => ?_
  cases bio with
  | none => exact listenerError_lendsNothing _ _ _ fd
  | some bio =>
      exact .bind (.call trivial) fun _ => .bind (.call trivial) fun _ =>
        .ite (.bind (throwSsl_lendsNothing _) fun _ =>
          .bind (listenerCleanup_lendsNothing _ (some listener) (some ctx) fd) fun _ => .pure _)
        (.pure _)

end Lendless

section Constructors

variable {s : Lending}

/-- A first part that lends nothing. -/
theorem lendless {α β : Type} {p : Quic α} {rest : α → Quic β} {post : β → Lending → Prop}
    (only : Only Call.LendsNothing p) (clean : s.Clean)
    (second : ∀ value s, s.Clean → Discreetly (rest value) post s) :
    Discreetly (p >>= rest) post s :=
  .bind (discreetly_of only clean) second

/-- Raising an exception with the code's own text makes no call. -/
theorem throw_bind {α : Type} {format : Bytes} {rest : Thrown → Quic α} {post : α → Lending → Prop}
    (second : ∀ thrown, Discreetly (rest thrown) post s) :
    Discreetly (phpQuicThrow format >>= rest) post s := second _

/-- The release of a context that no SSL object keeps. -/
theorem freeCtx_cleans {α : Type} {ctx : SslCtx} {rest : Quic α} {post : α → Lending → Prop}
    (only : s.OnlyOn ctx) (second : ∀ s, s.Clean → Discreetly rest post s) :
    Discreetly (do
      freeCtx (some ctx)
      rest) post s := by
  refine .ask_bind (.inr trivial) fun _ s₁ replied => second s₁ ?_
  obtain rfl : s₁ = _ := replied
  intro other
  show Function.update s.lent ctx (s.lent ctx && s.shared ctx) other = false
  rw [only.unshared, Bool.and_false]
  by_cases same : other = ctx
  · rw [same, Function.update_self]
  · rw [Function.update_of_ne same, only.others other same]

/-- A new context. -/
theorem newCtx {server : Bool} {ctx : SslCtx} {s' : Lending} (clean : s.Clean)
    (replied : lending s (.sslCtxNew server) (some ctx) s') : s'.Clean ∧ s'.shared ctx = false := by
  have lends : (Call.sslCtxNew server).LendsNothing := trivial
  refine ⟨clean.kept lends replied, ?_⟩
  obtain rfl : s' = _ := replied
  exact Function.update_self ctx false s.shared

theorem createSsl_discreet (fuel : Nat) (obj : PhpQuicConnection) (fd : Fd) (alpn : ZendString)
    (peer : BioAddr) (host : Bytes) (port idleTimeoutMs connectTimeoutMs : Int)
    (options : Option HashTable) (clean : s.Clean) :
    Discreetly (Connection.createSsl fuel obj fd alpn peer host port idleTimeoutMs connectTimeoutMs
      options) (fun _ => Lending.Clean) s := by
  refine .ask_bind (.inl clean) fun ctx s₁ replied => ?_
  have lends : (Call.sslCtxNew false).LendsNothing := trivial
  cases ctx with
  | none => exact discreetly_of (clientError_lendsNothing alpn peer _ _ fd) (clean.kept lends replied)
  | some ctx =>
  obtain ⟨clean, unshared⟩ := newCtx clean replied
  refine .bind (phpQuicConfigureCtx_lends options false clean unshared) fun result s₂ configured => ?_
  cases result with
  | error errbuf =>
      refine throw_bind fun thrown => .bind (?_ : Discreetly (Connection.cleanup alpn peer none
        (some ctx) fd) (fun _ => Lending.Clean) s₂) fun _ _ clean => .pure clean
      refine loading_bind trivial (fun _ _ => id) fun _ =>
        loading_bind trivial (fun _ _ => id) fun _ => ?_
      exact freeCtx_cleans configured.only fun _ clean => discreetly_of (.call trivial) clean
  | ok setup =>
      refine discreetly_of (.bind (.call trivial) fun ssl => ?_) (configured.clean setup rfl)
      cases ssl with
      | none => exact clientError_lendsNothing alpn peer _ _ fd
      | some ssl =>
          exact .bind (.call trivial) fun _ => establish_lendsNothing fuel obj ssl fd alpn peer host
            port _ _ options setup

theorem newConnection_discreet (fuel : Nat) (obj : PhpQuicConnection) (host : Bytes) (port : Int)
    (options : Option HashTable) (clean : s.Clean) :
    Discreetly (Connection.construct fuel obj host port options) (fun _ => Lending.Clean) s := by
  have refused (format : Bytes) : Only Call.LendsNothing (do
      return some (.error (← phpQuicThrow format)) : Quic (Option (Outcome PhpQuicConnection))) :=
    .bind (phpQuicThrow_calls _ format) fun _ => .pure _
  refine .ite (fun _ => discreetly_of (refused _) clean) fun _ =>
    .ite (fun _ => discreetly_of (refused _) clean) fun _ =>
    .ite (fun _ => discreetly_of (refused _) clean) fun _ => ?_
  have options' : Only Call.LendsNothing (Connection.readOptions options) :=
    .bind (lendsNothing_of (optLong_sets options _ _) fun _ _ => id) fun _ =>
      .bind (lendsNothing_of (optLong_sets options _ _) fun _ _ => id) fun _ => .pure _
  refine lendless options' clean fun ⟨spec, idleTimeoutMs, connectTimeoutMs⟩ s₁ clean => ?_
  cases spec with
  | none => exact discreetly_of (refused _) clean
  | some alpnSpec =>
  refine lendless (lendsNothing_of (phpQuicAlpnFromZval_calls alpnSpec) fun _ _ => id) clean
    fun alpn s₂ clean => ?_
  cases alpn with
  | error errbuf => exact discreetly_of (refused _) clean
  | ok alpn =>
  refine lendless (lendsNothing_of (phpQuicUdpClient_calls host _) fun _ _ => id) clean
    fun socket s₃ clean => ?_
  match socket with
  | .error errbuf => exact discreetly_of (.bind (.call trivial) fun _ => refused _) clean
  | .ok (fd, peer) =>
      exact createSsl_discreet fuel obj fd alpn peer host port _ _ options clean

theorem createCtx_discreet (fd : Fd) (alpn : ZendString) (host : Bytes) (port : Int)
    (options : HashTable) (clean : s.Clean) :
    Discreetly (Listener.createCtx fd alpn host port options) (fun _ => Lending.Clean) s := by
  refine .ask_bind (.inl clean) fun ctx s₁ replied => ?_
  have lends : (Call.sslCtxNew true).LendsNothing := trivial
  cases ctx with
  | none => exact discreetly_of (listenerError_lendsNothing _ _ _ fd) (clean.kept lends replied)
  | some ctx =>
  obtain ⟨clean, unshared⟩ := newCtx clean replied
  refine .bind (phpQuicConfigureCtx_lends (some options) true clean unshared)
    fun result s₂ configured => ?_
  cases result with
  | error errbuf =>
      refine throw_bind fun thrown => .bind (?_ : Discreetly (Listener.cleanup (.string alpn) none
        (some ctx) fd) (fun _ => Lending.Clean) s₂) fun _ _ clean => .pure clean
      refine loading_bind trivial (fun _ _ => id) fun _ => ?_
      exact freeCtx_cleans configured.only fun _ clean => discreetly_of (.call trivial) clean
  | ok setup =>
      exact discreetly_of (startListening_lendsNothing fd ctx alpn host port)
        (configured.clean setup rfl)

theorem newListener_discreet (obj : PhpQuicListener) (host : Bytes) (port : Int)
    (options : HashTable) (clean : s.Clean) :
    Discreetly (Listener.construct obj host port options) (fun _ => Lending.Clean) s := by
  have refused (format : Bytes) {s : Lending} (clean : s.Clean) :
      Discreetly (throwing (phpQuicThrow format) : Quic (Outcome PhpQuicListener))
        (fun _ => Lending.Clean) s := discreetly_of (throwing_lendsNothing format) clean
  refine .ite (fun _ => refused _ clean) fun _ => .ite (fun _ => refused _ clean) fun _ =>
    .ite (fun _ => refused _ clean) fun _ => ?_
  dsimp only
  split
  · exact refused _ clean
  · refine lendless (lendsNothing_of (phpQuicAlpnFromZval_calls _) fun _ _ => id) clean
      fun alpn s₁ clean => ?_
    cases alpn with
    | error errbuf => exact refused _ clean
    | ok alpn =>
    refine lendless (lendsNothing_of (phpQuicUdpServer_calls host _ _) fun _ _ => id) clean
      fun socket s₂ clean => ?_
    cases socket with
    | error errbuf =>
        exact discreetly_of (.bind (.call trivial) fun _ => throwing_lendsNothing errbuf) clean
    | ok fd => exact createCtx_discreet fd alpn host port options clean

end Constructors

/-! ### The other entry points -/

theorem freeSsl_lendsNothing (ssl : Option Ssl) : Only Call.LendsNothing (freeSsl ssl) :=
  lendsNothing_of (freeSsl_calls ssl) fun _ _ => id

theorem closeSocket_lendsNothing (fd : Option Fd) : Only Call.LendsNothing (closeSocket fd) := by
  cases fd with
  | none => exact .pure _
  | some fd => exact .call trivial

theorem releaseObject_lendsNothing (object : Option ObjectId) :
    Only Call.LendsNothing (releaseObject object) := by
  cases object with
  | none => exact .pure _
  | some object => exact .call trivial

theorem listenerRelease_lendsNothing (obj : PhpQuicListener) :
    Only Call.LendsNothing (quicListenerRelease obj) := by
  have block : Only Call.LendsNothing (freeAlpnData obj.alpnCbArg) := by
    cases obj.alpnCbArg with
    | none => exact .pure _
    | some data => exact .bind (.call trivial) fun _ => .call trivial
  exact .bind (freeSsl_lendsNothing obj.ssl) fun _ => .bind (closeSocket_lendsNothing obj.fd) fun _ =>
    .bind (lendsNothing_of (freeCtx_calls obj.ctx) fun _ _ => id) fun _ =>
    .bind block fun _ => .pure _

theorem streamInit_lendsNothing (ssl : Ssl) (connection : ObjectId) :
    Only Call.LendsNothing (phpQuicStreamInitObject ssl connection) :=
  .bind (.call trivial) fun _ => .pure _

theorem openStream_lendsNothing (obj : PhpQuicConnection) (this : ObjectId) (bidirectional : Bool) :
    Only Call.LendsNothing (Connection.openStream obj this bidirectional) := by
  unfold Connection.openStream
  split
  · exact throwing_lendsNothing _
  · refine .bind (.call trivial) fun stream => ?_
    cases stream with
    | none => exact throwingSsl_lendsNothing _
    | some stream => exact .bind (streamInit_lendsNothing stream this) fun _ => .pure _

theorem acceptStream_lendsNothing (obj : PhpQuicConnection) (this : ObjectId) :
    Only Call.LendsNothing (Connection.acceptStream obj this) := by
  unfold Connection.acceptStream
  split
  · exact .pure _
  · refine .bind (.call trivial) fun stream => ?_
    cases stream with
    | none => exact .pure _
    | some stream => exact .bind (streamInit_lendsNothing stream this) fun _ => .pure _

theorem accept_lendsNothing (obj : PhpQuicListener) (this : ObjectId) :
    Only Call.LendsNothing (Listener.accept obj this) := by
  unfold Listener.accept
  split
  · exact .pure _
  · refine .bind (.call trivial) fun conn => ?_
    cases conn with
    | none => exact .pure _
    | some conn =>
        refine .bind (lendsNothing_of (phpQuicConnectionConfigure_calls conn) fun _ _ => id) fun _ => ?_
        exact .bind (.bind (.call trivial) fun _ => .pure _) fun _ => .pure _

theorem newStream_lendsNothing (obj : PhpQuicStream) (conn : ObjectId) (bidirectional : Bool) :
    Only Call.LendsNothing (Stream.construct obj conn bidirectional) := by
  refine .ite (throwing_lendsNothing _) <| .bind (.call trivial) fun object => ?_
  match object with
  | .connection { ssl := some ssl, .. } =>
      refine .bind (.call trivial) fun stream => ?_
      cases stream with
      | none => exact throwingSsl_lendsNothing _
      | some stream => exact .bind (.call trivial) fun _ => .pure _
  | .connection { ssl := none, .. } => exact throwing_lendsNothing _
  | .listener _ => exact throwing_lendsNothing _
  | .stream _ => exact throwing_lendsNothing _
  | .foreign => exact throwing_lendsNothing _

theorem x509ToPem_lendsNothing (cert : X509) : Only Call.LendsNothing (phpQuicX509ToPem cert) := by
  refine .bind (.call trivial) fun bio => ?_
  cases bio with
  | none => exact .pure _
  | some bio =>
      exact .bind (.call trivial) fun _ => .ite (.bind (.call trivial) fun _ => .pure _) <|
        .bind (.call trivial) fun _ => .bind (.call trivial) fun _ => .pure _

theorem getPeerCertificate_lendsNothing (obj : PhpQuicConnection) :
    Only Call.LendsNothing (Connection.getPeerCertificate obj) := by
  unfold Connection.getPeerCertificate
  split
  · exact .pure _
  · refine .bind (.call trivial) fun cert => ?_
    cases cert with
    | none => exact .pure _
    | some cert =>
        refine .bind (x509ToPem_lendsNothing cert) fun pem => .bind (.call trivial) fun _ => ?_
        cases pem with
        | none => exact throwingSsl_lendsNothing _
        | some pem => exact .pure _

theorem getPeerCertificateChain_lendsNothing (obj : PhpQuicConnection) :
    Only Call.LendsNothing (Connection.getPeerCertificateChain obj) := by
  have encoded (chain : List X509) : Only Call.LendsNothing (Connection.chainToPem chain) := by
    induction chain with
    | nil => exact .pure _
    | cons cert rest ih =>
        exact .bind (x509ToPem_lendsNothing cert) fun _ => .bind ih fun _ => .pure _
  unfold Connection.getPeerCertificateChain
  split
  · exact .pure _
  · refine .bind (.call trivial) fun chain => ?_
    cases chain with
    | none => exact .pure _
    | some chain => exact encoded chain

theorem opCast_lendsNothing (obj : PhpQuicStream) (castas : CastAs) :
    Only Call.LendsNothing (quicStreamOpCast obj castas) := by
  unfold quicStreamOpCast
  split
  · exact .pure _
  · cases castas with
    | stdio => exact .pure _
    | fd | fdForSelect | socketd =>
        refine .bind (.call trivial) fun object => ?_
        cases object <;> exact .pure _

theorem releaseItems_lendsNothing (buffer : Poll.ItemBuffer) :
    Only Call.LendsNothing (Poll.releaseItems buffer) := by
  cases buffer with
  | none => exact .pure _
  | some address => exact .call trivial

theorem objSsl_lendsNothing (value : Zval) : Only Call.LendsNothing (phpQuicObjSsl value) := by
  unfold phpQuicObjSsl
  split
  · refine .bind (.call trivial) fun object => ?_
    cases object <;> exact .pure _
  · exact .pure _

theorem fillItems_lendsNothing (buffer : Poll.ItemBuffer) (index : Nat) (items : HashTable) :
    Only Call.LendsNothing (Poll.fillItems buffer index items) := by
  have refused (format : Bytes) : Only Call.LendsNothing (do
      Poll.releaseItems buffer
      throwing (phpQuicThrow format) : Quic (Outcome (List PollItem))) :=
    .bind (releaseItems_lendsNothing buffer) fun _ => throwing_lendsNothing format
  induction items generalizing index with
  | nil => exact .pure _
  | cons item rest ih =>
      unfold Poll.fillItems
      split
      · split
        · refine .bind (objSsl_lendsNothing _) fun ssl => ?_
          cases ssl with
          | none => exact refused _
          | some desc =>
              refine .bind (.call trivial) fun mask => .bind (ih (index + 1)) fun filled => ?_
              cases filled with
              | error thrown => exact .pure _
              | ok items => exact .pure _
        · exact refused _
      · exact refused _

theorem poll_lendsNothing (items : HashTable) (timeout : Option Float) :
    Only Call.LendsNothing (Poll.poll items timeout) := by
  have buffered : Only Call.LendsNothing (Poll.itemBuffer items.length) :=
    .ite (.pure _) (.bind (.call trivial) fun _ => .pure _)
  refine .ite (.pure _) <| .bind buffered fun buffer => .bind (fillItems_lendsNothing buffer 0 items)
    fun filled => ?_
  cases filled with
  | error thrown => exact .pure _
  | ok pollItems =>
      refine .bind (.call trivial) fun revents => ?_
      cases revents with
      | none => exact .bind (releaseItems_lendsNothing buffer) fun _ => throwingSsl_lendsNothing _
      | some revents => exact .bind (releaseItems_lendsNothing buffer) fun _ => .pure _

/-! ### Every entry point, and every run of them -/

/-- **An entry point that starts clean ends clean, and lends the passphrase only to the calls that
load the key.** -/
theorem operation_discreet (op : Operation) {s : Lending} (clean : s.Clean) :
    Discreetly op.program (fun _ => Lending.Clean) s := by
  have quietly {α : Type} {p : Quic α} (only : Only Call.LendsNothing p) :
      Discreetly (quiet p) (fun _ => Lending.Clean) s :=
    discreetly_of (.bind only fun _ => .pure _) clean
  have openly {α : Type} {p : Quic (Outcome α)} (only : Only Call.LendsNothing p) :
      Discreetly (raising p) (fun _ => Lending.Clean) s :=
    discreetly_of (.bind only fun _ => .pure _) clean
  cases op with
  | newConnection fuel obj host port options =>
      exact .bind (newConnection_discreet fuel obj host port options clean) fun _ _ clean => .pure clean
  | openStream obj this bidirectional => exact openly (openStream_lendsNothing obj this bidirectional)
  | acceptStream obj this => exact quietly (acceptStream_lendsNothing obj this)
  | closeConnection obj errorCode reason =>
      exact quietly (touches_lendsNothing (closeConnection_touches obj errorCode reason))
  | getCloseInfo obj => exact quietly (touches_lendsNothing (getCloseInfo_touches obj))
  | getConnectionFd obj => exact quietly (.pure _)
  | getCryptoInfo obj => exact openly (touches_lendsNothing (getCryptoInfo_touches obj))
  | getNegotiatedAlpn obj => exact quietly (touches_lendsNothing (getNegotiatedAlpn_touches obj))
  | getPeerCertificate obj => exact openly (getPeerCertificate_lendsNothing obj)
  | getPeerCertificateChain obj => exact quietly (getPeerCertificateChain_lendsNothing obj)
  | getVerifyResult obj => exact openly (touches_lendsNothing (getVerifyResult_touches obj))
  | getVerifyResultString obj =>
      exact openly (touches_lendsNothing (getVerifyResultString_touches obj))
  | freeConnection obj =>
      exact quietly (.bind (freeSsl_lendsNothing obj.ssl) fun _ =>
        .bind (closeSocket_lendsNothing _) fun _ => releaseObject_lendsNothing obj.listener)
  | newListener obj host port options =>
      exact .bind (newListener_discreet obj host port options clean) fun _ _ clean => .pure clean
  | accept obj this => exact quietly (accept_lendsNothing obj this)
  | closeListener obj => exact quietly (listenerRelease_lendsNothing obj)
  | getListenerFd obj => exact quietly (.pure _)
  | freeListener obj => exact quietly (.bind (listenerRelease_lendsNothing obj) fun _ => .pure _)
  | setBlocking ssl closedText blocking =>
      exact openly (touches_lendsNothing (setBlocking_touches ssl closedText blocking))
  | wantsRead ssl => exact quietly (touches_lendsNothing (wantsRead_touches ssl))
  | wantsWrite ssl => exact quietly (touches_lendsNothing (wantsWrite_touches ssl))
  | getTimeout ssl => exact openly (touches_lendsNothing (getTimeout_touches ssl))
  | handleEvents ssl => exact quietly (touches_lendsNothing (handleEvents_touches ssl))
  | newStream obj conn bidirectional => exact openly (newStream_lendsNothing obj conn bidirectional)
  | write obj data fin => exact openly (touches_lendsNothing (write_touches obj data fin))
  | read obj length => exact openly (touches_lendsNothing (read_touches obj length))
  | endStream obj => exact openly (touches_lendsNothing (endStream_touches obj))
  | reset obj errorCode => exact openly (touches_lendsNothing (reset_touches obj errorCode))
  | getResetCode obj => exact quietly (touches_lendsNothing (getResetCode_touches obj))
  | getId obj => exact openly (touches_lendsNothing (getId_touches obj))
  | isBidirectional obj => exact quietly (touches_lendsNothing (isBidirectional_touches obj))
  | getConnection obj => exact openly (untouching_lendsNothing (getConnection_touches obj))
  | asStream obj this => exact openly (untouching_lendsNothing (asStream_touches obj this))
  | freeStream obj =>
      exact quietly (.bind (freeSsl_lendsNothing obj.ssl) fun _ =>
        releaseObject_lendsNothing obj.connection)
  | opWrite obj buf => exact quietly (touches_lendsNothing (opWrite_touches obj buf))
  | opRead obj count => exact quietly (touches_lendsNothing (opRead_touches obj count))
  | opClose abstract => exact quietly (.bind (releaseObject_lendsNothing abstract) fun _ => .pure _)
  | opFlush => exact quietly (.pure _)
  | opCast obj castas => exact quietly (opCast_lendsNothing obj castas)
  | poll items timeout => exact openly (poll_lendsNothing items timeout)

/-- One entry point runs, with its calls. -/
inductive LendingStep : Lending → Operation × List (Exchange openssl Lending) → Lending → Prop
  | ran {op : Operation} {s s' : Lending} {exchanges : List (Exchange openssl Lending)}
      {thrown : Option Thrown} (trace : Trace lending op.program s exchanges thrown s') :
      LendingStep s (op, exchanges) s'

/-- **In every run of entry points, in any order and however they end**, no context has a pointer
into the caller's options when control is back in PHP; and in between, while one does, OpenSSL is
only asked to load the key, and the constructor only goes on to release, after a failure, the encoded
list, the address and the context: no handshake, no SSL object, no user code. -/
theorem passphrase_lent {start s : Lending}
    {labels : List (Operation × List (Exchange openssl Lending))} (clean : start.Clean)
    (path : Path LendingStep start labels s) :
    s.Clean ∧ ∀ label ∈ labels, ∀ exchange ∈ label.2, exchange.call.Discreet exchange.before := by
  have kept (s : Lending) (label : Operation × List (Exchange openssl Lending)) (s' : Lending)
      (clean : s.Clean) (step : LendingStep s label s') : s'.Clean := by
    cases step with
    | ran trace => exact ((operation_discreet _ clean).trace trace).2
  refine ⟨path.invariant kept clean, path.labelled kept (fun s label s' clean step => ?_) clean⟩
  cases step with
  | ran trace => exact ((operation_discreet _ clean).trace trace).1

/-- An environment in which every call works. -/
def lendingHandler : Handler openssl Lending := fun s call =>
  match call with
  | .sslCtxNew _ =>
    (some 1, ⟨Function.update s.lent 1 false, Function.update s.shared 1 false⟩)
  | .sslCtxSetDefaultPasswdCbUserdata ctx userdata =>
    ((), { s with lent := Function.update s.lent ctx userdata.isSome })
  | .sslNew ctx => (some 1, { s with shared := Function.update s.shared ctx (s.shared ctx || true) })
  | .sslNewListener ctx =>
    (some 1, { s with shared := Function.update s.shared ctx (s.shared ctx || true) })
  | .sslCtxFree ctx =>
    ((), { s with lent := Function.update s.lent ctx (s.lent ctx && s.shared ctx) })
  | call => (succeeding call, s)

theorem lendingHandler_allowed (s : Lending) (call : Call) :
    lending s call (lendingHandler s call).1 (lendingHandler s call).2 := by
  cases call <;> rfl

/-- A server whose key has a passphrase. -/
def protectedKey : Operation :=
  .newListener quicListenerCreate [] 4433
    [(.name (text "alpn"), .string (text "h3")), (.name (text "local_cert"), .string (text "key.pem")),
      (.name (text "passphrase"), .string (text "secret"))]

/-- Nothing is lent at first. -/
def unlent : Lending := ⟨fun _ => false, fun _ => false⟩

/-- The listener is made, its context had the passphrase in between, and does not have it now. -/
theorem passphrase_lent_example : ∃ labels s, Path LendingStep unlent labels s ∧ s.Clean ∧
    (∃ label ∈ labels, ∃ exchange ∈ label.2, exchange.before.lent 1 = true) ∧
      s.shared 1 = true := by
  have step := LendingStep.ran (trace_exec lendingHandler_allowed protectedKey.program unlent)
  have path := Path.single step
  refine ⟨_, _, path, (passphrase_lent (fun _ => rfl) path).1, ⟨_, List.mem_cons_self, ?_⟩, ?_⟩
  · have lent : (evaluated lendingHandler protectedKey.program unlent).any
        (fun exchange => exchange.before.lent 1) = true := by decide
    exact List.any_eq_true.mp lent
  · show (exec lendingHandler protectedKey.program unlent).2.shared 1 = true
    decide

end PhpQuic
