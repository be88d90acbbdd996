/-
Which calls the helpers of the constructors make, by class of call. With the frame rule this says
what each helper leaves alone, whatever the environment answers.
-/

import PhpQuic.Source.Listener

namespace PhpQuic

open Interact

namespace Call

/-- Sockets and name lookup. -/
def IsSocket : Call → Prop
  | .bioLookupEx .. | .bioSocket _ | .setReusePort _ | .bioConnect .. | .bioBind ..
  | .bioSocketNbio _ | .bioClosesocket _ | .bioAddrDup _ | .bioAddrinfoFree => True
  | _ => False

/-- Settings of an `SSL_CTX`, and the conversion of the integer options. -/
def IsContext : Call → Prop
  | .sslCtxSetDefaultPasswdCbUserdata .. | .sslCtxSetDefaultPasswdCb ..
  | .sslCtxUseCertificateChainFile .. | .sslCtxUsePrivateKeyFile .. | .sslCtxCheckPrivateKey _
  | .sslCtxSetExData .. | .sslCtxSetVerify .. | .sslCtxLoadVerifyLocations ..
  | .sslCtxSetDefaultVerifyPaths _ | .sslCtxSetVerifyDepth .. | .sslCtxSetCiphersuites ..
  | .sslCtxSet1GroupsList .. | .sslCtxSet1SigalgsList .. | .sslCtxSetSecurityLevel ..
  | .zvalGetLong _ => True
  | _ => False

/-- The same without those that decide how a peer's chain is verified. -/
def IsLoading : Call → Prop
  | .sslCtxSetExData .. | .sslCtxSetVerify .. => False
  | call => call.IsContext

/-- These are settings of a context all the same. -/
theorem isContext_of_loading (call : Call) (loads : call.IsLoading) : call.IsContext := by
  cases call <;> first | exact loads | exact loads.elim

/-- Of these, the settings made from files and names: no number is read or applied. -/
def IsNamed : Call → Prop
  | .zvalGetLong _ | .sslCtxSetVerifyDepth .. | .sslCtxSetSecurityLevel .. => False
  | call => call.IsLoading

/-- And these decide nothing about verification either. -/
theorem isLoading_of_named (call : Call) (named : call.IsNamed) : call.IsLoading := by
  cases call <;> first | exact named | exact named.elim

/-- The entries of an ALPN specification. -/
def IsConversion : Call → Prop
  | .zvalGetString _ => True
  | _ => False

/-- The strings of an ALPN specification. -/
def IsEncoding : Call → Prop
  | .zvalGetString _ | .zendStringAlloc _ => True
  | _ => False

/-- The conversions are a part of the encoding. -/
theorem isEncoding_of_conversion (call : Call) (converts : call.IsConversion) :
    call.IsEncoding := by
  cases call <;> first | exact converts | exact converts.elim

/-- Raising an exception. -/
def IsThrow : Call → Prop
  | .errGetError | .errClearError | .errErrorStringN .. => True
  | _ => False

/-- Asking why a read failed. -/
def IsReason : Call → Prop
  | .sslGetError .. | .sslGetStreamReadState _ | .errGetError | .errClearError
  | .errErrorStringN .. => True
  | _ => False

/-- The releases of a `cleanup` label. -/
def IsCleanup : Call → Prop
  | .zendStringRelease _ | .bioAddrFree _ | .sslFree _ | .sslCtxFree _ | .bioClosesocket _
  | .efree _ => True
  | _ => False

/-- Settings of the SSL object before the handshake. -/
def IsPrepare : Call → Prop
  | .bioNewDgram _ | .sslSetBio .. | .sslSetAlpnProtos .. | .sslSet1InitialPeerAddr ..
  | .sslSet1Host .. | .sslSetTlsextHostName .. | .sslSetIdleTimeout ..
  | .sslSetDefaultStreamModeNone _ | .sslSetIncomingStreamPolicyAccept _ => True
  | _ => False

/-- The handshake of one SSL object. -/
def IsHandshake (ssl : Ssl) : Call → Prop
  | .sslConnect handle => handle = ssl
  | .sslGetError .. | .sslSetBlockingMode .. | .sslGetEventTimeout _
  | .sslNetReadDesired _ | .sslNetWriteDesired _ | .sslHandleEvents _ | .monotonicMs
  | .phpPollfdForMs .. => True
  | _ => False

/-- Digests of a certificate. -/
def IsDigest : Call → Prop
  | .x509Digest .. | .evpGetDigestbyname _ => True
  | _ => False

/-- Pinning. -/
def IsCertificate : Call → Prop
  | .sslGet1PeerCertificate _ | .x509Digest .. | .evpGetDigestbyname _ | .x509Free _ => True
  | _ => False

/-- The digests are a part of pinning. -/
theorem isCertificate_of_digest (call : Call) (digests : call.IsDigest) : call.IsCertificate := by
  cases call <;> first | exact digests | exact digests.elim

end Call

/-! ### Exceptions -/

/-- An exception with a text of its own makes no call. -/
theorem phpQuicThrow_calls (P : Call → Prop) (format : Bytes) : Only P (phpQuicThrow format) :=
  .pure _

/-- With the error queue behind it, it makes calls on the queue only. -/
theorem phpQuicThrowSsl_calls (format : Bytes) : Only Call.IsThrow (phpQuicThrowSsl format) := by
  refine .bind (.call trivial) fun err => ?_
  cases err with
  | none => exact .pure _
  | some entry =>
      exact .bind (.call trivial) fun _ => .bind (.call trivial) fun _ => .pure _

/-- A method that ends in an exception makes the calls of the throw helper. -/
theorem throwing_calls {α : Type} {P : Call → Prop} {thrown : Quic Thrown}
    (calls : Only P thrown) : Only P (throwing thrown : Quic (Outcome α)) :=
  .bind calls fun _ => .pure _

/-- An exception behind a read is a part of its reason. -/
theorem Call.isReason_of_throw (call : Call) (throws : call.IsThrow) : call.IsReason := by
  cases call <;> first | exact throws | exact throws.elim

/-- Behind an empty loop `read()` only asks for the reason. -/
theorem endOfRead_calls (ssl : Ssl) (rc : Int) :
    Only Call.IsReason (Stream.endOfRead ssl rc) := by
  refine .bind (.call trivial) fun err => .ite (.pure _) <| .ite (.pure _) <|
    .bind (.call trivial) fun state => ?_
  cases state with
  | resetRemote => exact .pure _
  | resetLocal => exact .pure _
  | connClosed => exact .pure _
  | _ => exact throwing_calls ((phpQuicThrowSsl_calls _).mono Call.isReason_of_throw)

/-! ### Sockets -/

/-- By induction on the addresses. An address that fails gives its socket back before the next. -/
theorem udpClientLoop_calls (sock : Option Fd) (res : List AddrInfo) :
    Only Call.IsSocket (udpClientLoop sock res) := by
  induction res generalizing sock with
  | nil => exact .pure _
  | cons ai next ih =>
      refine .bind (.call trivial) fun made => ?_
      cases made with
      | none => exact ih none
      | some sock =>
          have retry : Only Call.IsSocket (do
              ask (.bioClosesocket sock)
              udpClientLoop none next) := .bind (.call trivial) fun _ => ih none
          exact .bind (.call trivial) fun _ => .ite retry <|
            .bind (.call trivial) fun _ => .ite retry (.pure _)

/-- What is left to do is a copy of the address, or a socket to close. -/
theorem udpClientPeer_calls (host port : Bytes) (found : Option Fd × Option AddrInfo) :
    Only Call.IsSocket (udpClientPeer host port found) := by
  rcases found with ⟨_ | sock, _ | ai⟩
  · exact .pure _
  · exact .pure _
  · exact .pure _
  · refine .bind (.call trivial) fun copied => ?_
    cases copied with
    | none => exact .bind (.call trivial) fun _ => .pure _
    | some peer => exact .pure _

/-- **The client's lookup makes socket calls only**, on every path. -/
theorem phpQuicUdpClient_calls (host port : Bytes) :
    Only Call.IsSocket (phpQuicUdpClient host port) := by
  refine .bind (.call trivial) fun found => ?_
  cases found with
  | none => exact .pure _
  | some res =>
      exact .bind (udpClientLoop_calls none res) fun ended =>
        .bind (udpClientPeer_calls host port ended) fun _ => .bind (.call trivial) fun _ => .pure _

theorem udpShareAddress_calls (reusePort : Bool) (sock : Fd) :
    Only Call.IsSocket (udpShareAddress reusePort sock) :=
  .ite (.call trivial) (.pure _)

theorem udpServerLoop_calls (reusePort : Bool) (sock : Option Fd) (res : List AddrInfo) :
    Only Call.IsSocket (udpServerLoop reusePort sock res) := by
  induction res generalizing sock with
  | nil => exact .pure _
  | cons ai next ih =>
      refine .bind (.call trivial) fun made => ?_
      cases made with
      | none => exact ih none
      | some sock =>
          have retry : Only Call.IsSocket (do
              ask (.bioClosesocket sock)
              udpServerLoop reusePort none next) := .bind (.call trivial) fun _ => ih none
          exact .bind (udpShareAddress_calls reusePort sock) fun _ => .ite retry <|
            .bind (.call trivial) fun _ => .ite retry <|
            .bind (.call trivial) fun _ => .ite retry (.pure _)

/-- **So does the server's.** -/
theorem phpQuicUdpServer_calls (host port : Bytes) (reusePort : Bool) :
    Only Call.IsSocket (phpQuicUdpServer host port reusePort) := by
  refine .bind (.call trivial) fun found => ?_
  cases found with
  | none => exact .pure _
  | some res =>
      refine .bind (udpServerLoop_calls reusePort none res) fun ended => ?_
      refine .bind (.call trivial) fun _ => ?_
      rcases ended with ⟨_ | sock, _⟩
      · exact .pure _
      · exact .pure _

/-! ### ALPN -/

/-- By induction on the entries: each is converted once, down to the first that is refused. -/
theorem alpnEntries_calls (elements : List (ArrayKey × Zval)) (buf : Bytes) :
    Only Call.IsConversion (alpnEntries elements buf) := by
  induction elements generalizing buf with
  | nil => exact .pure _
  | cons entry rest ih =>
      refine .bind (.call trivial) fun proto => ?_
      cases phpQuicAlpnAppend buf proto with
      | error message => exact .pure _
      | ok buf => exact ih buf

/-- The string form makes no call. -/
theorem alpnEncode_calls (spec : Zval) : Only Call.IsConversion (alpnEncode spec) := by
  unfold alpnEncode
  split
  · exact .pure _
  · exact .pure _
  · exact alpnEntries_calls _ _
  · exact .pure _

/-- The string is allocated behind the conversions, and only if nothing was refused. -/
theorem phpQuicAlpnFromZval_calls (spec : Zval) :
    Only Call.IsEncoding (phpQuicAlpnFromZval spec) :=
  .bind_except ((alpnEncode_calls spec).mono Call.isEncoding_of_conversion) (fun _ => .pure _)
    fun _ => .bind (.call trivial) fun _ => .pure _

/-! ### TLS options -/

theorem optLong_calls (opts : Option HashTable) (key : String) (default : Int) :
    Only Call.IsLoading (optLong opts key default) := by
  unfold optLong
  split
  · exact .pure _
  · exact .call trivial

theorem installPassphrase_calls (ctx : SslCtx) (passphrase : Option Bytes) :
    Only Call.IsNamed (installPassphrase ctx passphrase) :=
  .ite (.bind (.call trivial) fun _ => .call trivial) (.pure _)

theorem dropPassphrase_calls (ctx : SslCtx) (passphrase : Option Bytes) :
    Only Call.IsNamed (dropPassphrase ctx passphrase) :=
  .ite (.bind (.call trivial) fun _ => .call trivial) (.pure _)

/-- The key is loaded without a number: by files, and by the passphrase in between. -/
theorem loadIdentity_named (ctx : SslCtx) (opts : Option HashTable) (isServer : Bool) :
    Only Call.IsNamed (loadIdentity ctx opts isServer) := by
  unfold loadIdentity
  cases phpQuicOptString opts "local_cert" with
  | none => exact .ite (.pure _) (.pure _)
  | some localCert =>
      exact .bind (installPassphrase_calls ctx _) fun _ =>
        .bind (.call trivial) fun _ => .ite (.pure _) <|
        .bind (.call trivial) fun _ => .ite (.pure _) <|
        .bind (.call trivial) fun _ => .ite (.pure _) <|
        .bind (dropPassphrase_calls ctx _) fun _ => .pure _

theorem loadIdentity_calls (ctx : SslCtx) (opts : Option HashTable) (isServer : Bool) :
    Only Call.IsLoading (loadIdentity ctx opts isServer) :=
  (loadIdentity_named ctx opts isServer).mono Call.isLoading_of_named

theorem loadTrust_named (ctx : SslCtx) (opts : Option HashTable) (isServer : Bool) :
    Only Call.IsNamed (loadTrust ctx opts isServer) :=
  .ite (.bind (.call trivial) fun _ => .ite (.pure _) (.pure _)) <|
    .ite (.bind (.call trivial) fun _ => .pure _) (.pure _)

theorem loadTrust_calls (ctx : SslCtx) (opts : Option HashTable) (isServer : Bool) :
    Only Call.IsLoading (loadTrust ctx opts isServer) :=
  (loadTrust_named ctx opts isServer).mono Call.isLoading_of_named

/-- A level makes at most the call that sets it. -/
theorem applyLevel_calls {P : Call → Prop} (value : Int) {set : Int → Quic Unit}
    (sets : ∀ value, Only P (set value)) : Only P (applyLevel value set) :=
  .ite (sets _) (.pure _)

theorem configureVerification_calls (ctx : SslCtx) (opts : Option HashTable) (isServer : Bool)
    (verifyDepth : Int) :
    Only Call.IsContext (configureVerification ctx opts isServer verifyDepth) := by
  refine .ite (.bind (.call trivial) fun _ => .bind (.call trivial) fun _ =>
    .bind_except ((loadTrust_calls ctx opts isServer).mono Call.isContext_of_loading)
      (fun _ => .pure _) fun _ => ?_) (.bind (.call trivial) fun _ => .pure _)
  exact .bind (applyLevel_calls verifyDepth fun _ => .call trivial) fun _ => .pure _

/-- So does a list of names. -/
theorem applyNames_calls {P : Call → Prop} (opts : Option HashTable) (key : String)
    {set : Bytes → Quic Int} (sets : ∀ names, Only P (set names)) :
    Only P (applyNames opts key set) := by
  unfold applyNames
  cases phpQuicOptString opts key with
  | none => exact .pure _
  | some names => exact .bind (sets names) fun _ => .ite (.pure _) (.pure _)

theorem configureTuning_calls (ctx : SslCtx) (opts : Option HashTable) (securityLevel : Int) :
    Only Call.IsLoading (configureTuning ctx opts securityLevel) := by
  refine .bind_except (applyNames_calls opts _ fun _ => .call trivial) (fun _ => .pure _) fun _ => ?_
  refine .bind_except (applyNames_calls opts _ fun _ => .call trivial) (fun _ => .pure _) fun _ => ?_
  refine .bind_except (applyNames_calls opts _ fun _ => .call trivial) (fun _ => .pure _) fun _ => ?_
  exact .bind (applyLevel_calls securityLevel fun _ => .call trivial) fun _ => .pure _

/-- **`php_quic_configure_ctx` only configures**: it makes settings of a context, and conversions.
-/
theorem phpQuicConfigureCtx_calls (ctx : SslCtx) (opts : Option HashTable) (isServer : Bool) :
    Only Call.IsContext (phpQuicConfigureCtx ctx opts isServer) := by
  have loading {α : Type} {p : Quic α} (only : Only Call.IsLoading p) : Only Call.IsContext p :=
    only.mono Call.isContext_of_loading
  refine .bind (loading (optLong_calls opts _ _)) fun _ => ?_
  refine .bind (loading (optLong_calls opts _ _)) fun _ => ?_
  refine .bind_except (loading (loadIdentity_calls ctx opts isServer)) (fun _ => .pure _) fun _ => ?_
  refine .bind_except (configureVerification_calls ctx opts isServer _) (fun _ => .pure _) fun _ => ?_
  exact .bind_except (loading (configureTuning_calls ctx opts _)) (fun _ => .pure _) fun _ => .pure _

/-- On success `php_quic_configure_ctx` leaves in `out` what the options array alone decides. -/
theorem phpQuicConfigureCtx_setup (ctx : SslCtx) (opts : Option HashTable) (isServer : Bool) :
    Returns (fun result => ∀ setup, result = .ok setup → setup = tlsSetup opts isServer)
      (phpQuicConfigureCtx ctx opts isServer) := by
  refine .bind_any fun _ => .bind_any fun _ => .bind_except (fun _ => .pure nofun) fun _ => ?_
  refine .bind_except (fun _ => .pure nofun) fun _ => .bind_except (fun _ => .pure nofun) fun _ => ?_
  exact .pure fun setup same => (Except.ok.inj same).symm

/-! ### The client constructor's steps -/

/-- The two timeouts are all that the constructor converts itself. -/
theorem readOptions_calls (options : Option HashTable) :
    Only Call.IsLoading (Connection.readOptions options) :=
  .bind (optLong_calls options _ _) fun _ => .bind (optLong_calls options _ _) fun _ => .pure _

theorem readOptions_context (options : Option HashTable) :
    Only Call.IsContext (Connection.readOptions options) :=
  (readOptions_calls options).mono Call.isContext_of_loading

theorem freeSsl_calls (ssl : Option Ssl) : Only Call.IsCleanup (freeSsl ssl) := by
  cases ssl with
  | none => exact .pure _
  | some ssl => exact .call trivial

theorem freeCtx_calls (ctx : Option SslCtx) : Only Call.IsCleanup (freeCtx ctx) := by
  cases ctx with
  | none => exact .pure _
  | some ctx => exact .call trivial

/-- The `cleanup` label releases, and does nothing else. -/
theorem connectionCleanup_calls (alpn : ZendString) (peer : BioAddr) (ssl : Option Ssl)
    (ctx : Option SslCtx) (fd : Fd) :
    Only Call.IsCleanup (Connection.cleanup alpn peer ssl ctx fd) :=
  .bind (.call trivial) fun _ => .bind (.call trivial) fun _ => .bind (freeSsl_calls ssl) fun _ =>
    .bind (freeCtx_calls ctx) fun _ => .call trivial

theorem setExpectedHost_calls (ssl : Ssl) (setup : PhpQuicTlsSetup) (peerName : Bytes) :
    Only Call.IsPrepare (Connection.setExpectedHost ssl setup peerName) :=
  .ite (.call trivial) (.pure _)

theorem setServerName_calls (ssl : Ssl) (setup : PhpQuicTlsSetup) (peerName : Bytes) :
    Only Call.IsPrepare (Connection.setServerName ssl setup peerName) :=
  .ite (.call trivial) (.pure _)

/-- The settings come in the order of the source, and end with the first that fails. -/
theorem prepareSsl_calls (ssl : Ssl) (fd : Fd) (alpn : ZendString) (peer : BioAddr) (host : Bytes)
    (setup : PhpQuicTlsSetup) :
    Only Call.IsPrepare (Connection.prepareSsl ssl fd alpn peer host setup) := by
  refine .bind (.call trivial) fun bio => ?_
  cases bio with
  | none => exact .pure _
  | some bio =>
      exact .bind (.call trivial) fun _ => .bind (.call trivial) fun _ => .ite (.pure _) <|
        .bind (.call trivial) fun _ => .ite (.pure _) <|
        .bind (setExpectedHost_calls ssl setup _) fun _ => .ite (.pure _) <|
        .bind (setServerName_calls ssl setup _) fun _ => .pure _

theorem requestIdleTimeout_calls (ssl : Ssl) (idleTimeoutMs : Int) :
    Only Call.IsPrepare (Connection.requestIdleTimeout ssl idleTimeoutMs) :=
  .ite (.call trivial) (.pure _)

theorem phpQuicConnectionConfigure_calls (ssl : Ssl) :
    Only Call.IsPrepare (phpQuicConnectionConfigure ssl) :=
  .bind (.call trivial) fun _ => .call trivial

/-- By induction on the rounds; all three ways out switch the blocking mode back. -/
theorem connectTimedLoop_calls (ssl : Ssl) (fd : Fd) (timeoutMs : Int) (start fuel : Nat) :
    Only (Call.IsHandshake ssl) (connectTimedLoop ssl fd timeoutMs start fuel) := by
  induction fuel with
  | zero => exact .pure _
  | succ fuel ih =>
      have leave (rc : Int) : Only (Call.IsHandshake ssl) (do
          let _ ← ask (.sslSetBlockingMode ssl true)
          return some rc) := .bind (.call trivial) fun _ => .pure _
      exact .bind (.call rfl) fun _ => .ite (leave 1) <|
        .bind (.call trivial) fun _ => .ite (leave 0) <|
        .bind (.call trivial) fun _ => .ite (leave (-1)) <|
        .bind (.call trivial) fun _ => .bind (.call trivial) fun _ =>
        .bind (.call trivial) fun _ => .bind (.call trivial) fun _ =>
        .bind (.call trivial) fun _ => ih

theorem phpQuicConnectTimed_calls (fuel : Nat) (ssl : Ssl) (fd : Fd) (timeoutMs : Int) :
    Only (Call.IsHandshake ssl) (phpQuicConnectTimed fuel ssl fd timeoutMs) :=
  .bind (.call trivial) fun start => .bind (.call trivial) fun _ =>
    connectTimedLoop_calls ssl fd timeoutMs start fuel

theorem phpQuicFpMatches_calls (cert : X509) (md : Option EvpMd) (expected : Bytes) :
    Only Call.IsDigest (phpQuicFpMatches cert md expected) := by
  cases md with
  | none => exact .pure _
  | some md =>
      refine .bind (.call trivial) fun digest => ?_
      cases digest with
      | none => exact .pure _
      | some digest => exact .pure _

/-- By induction on the entries: no digest is asked for behind the first that fails. -/
theorem checkPins_calls (cert : X509) (elements : List (ArrayKey × Zval)) :
    Only Call.IsDigest (checkPins cert elements) := by
  induction elements with
  | nil => exact .pure _
  | cons entry rest ih =>
      rcases entry with ⟨_ | algo, value⟩
      · cases value <;> exact .pure _
      · cases value with
        | string digest =>
            refine .bind (.call trivial) fun md => ?_
            cases md with
            | none => exact .pure _
            | some md =>
                exact .ite (.pure _) <| .bind (phpQuicFpMatches_calls cert _ _) fun _ =>
                  .ite (.pure _) ih
        | _ => exact .pure _

theorem checkSpec_calls (cert : X509) (spec : Zval) :
    Only Call.IsDigest (checkSpec cert spec) := by
  unfold checkSpec
  split
  · split
    · exact .pure _
    · exact .bind (phpQuicFpMatches_calls cert _ _) fun _ => .ite (.pure _) (.pure _)
  · exact checkPins_calls cert _
  · exact .pure _

/-- **Pinning gets the certificate, asks for digests, and lets go of it.** -/
theorem phpQuicCheckFingerprint_calls (ssl : Ssl) (spec : Zval) :
    Only Call.IsCertificate (phpQuicCheckFingerprint ssl spec) := by
  refine .bind (.call trivial) fun cert => ?_
  cases cert with
  | none => exact .pure _
  | some cert =>
      exact .bind ((checkSpec_calls cert spec).mono Call.isCertificate_of_digest) fun _ =>
        .bind (.call trivial) fun _ => .pure _

/-- **The handshake drives one SSL object, or raises an exception.** -/
theorem handshake_calls (fuel : Nat) (ssl : Ssl) (fd : Fd) (host : Bytes)
    (port connectTimeoutMs : Int) :
    Only (fun call : Call => call.IsHandshake ssl ∨ call.IsThrow)
      (Connection.handshake fuel ssl fd host port connectTimeoutMs) := by
  have thrown (format : Bytes) : Only (fun call : Call => call.IsHandshake ssl ∨ call.IsThrow)
      (do return some (.error (← phpQuicThrowSsl format)) : Quic (Option (Outcome Unit))) :=
    .bind ((phpQuicThrowSsl_calls format).mono fun _ => .inr) fun _ => .pure _
  refine .ite (.bind ((phpQuicConnectTimed_calls fuel ssl fd _).mono fun _ => .inl) fun hs => ?_)
    (.bind (.call (.inl rfl)) fun _ => .ite (thrown _) (.pure _))
  cases hs with
  | none => exact .pure _
  | some hs =>
      exact .ite (.bind (phpQuicThrow_calls _ _) fun _ => .pure _) (.ite (thrown _) (.pure _))

theorem checkPinning_calls (ssl : Ssl) (options : Option HashTable) :
    Only Call.IsCertificate (Connection.checkPinning ssl options) := by
  unfold Connection.checkPinning
  split
  · exact .pure _
  · refine .bind_except (phpQuicCheckFingerprint_calls ssl _) (fun errbuf => ?_) fun _ => .pure _
    exact .bind (phpQuicThrow_calls _ _) fun _ => .pure _

end PhpQuic
