/-
**Rights on OpenSSL's objects**, and the parts of the entry points that leave them alone.

A right on an SSL object, an `SSL_CTX`, a BIO or a certificate is a right to make calls on it, or to
let go of it. `custody` says what every call of the interface has to do with them.

* `Call.Touches own call`: the call uses at most the object `own`, and hands out and ends no rights.
* `*_touches`: the methods on an object's own SSL object, and the steps of the constructors, touch
  nothing but that object.
-/

import PhpQuic.Interact.Capability
import PhpQuic.Proof.Calls
import PhpQuic.Proof.Ownership

namespace PhpQuic

open Interact

/-! ### Rights -/

/-- An object of OpenSSL. -/
inductive Handle where
  | ssl (handle : Ssl)
  | ctx (handle : SslCtx)
  | bio (handle : Bio)
  | certificate (handle : X509)
  deriving DecidableEq

inductive Right where
  /-- To make calls on it. -/
  | use (handle : Handle)
  /-- To free it, or to hand it over. -/
  | own (handle : Handle)
  deriving DecidableEq

/-- What comes with an object that was made, and ends with it. -/
def Handle.rights (handle : Handle) : List Right := [.use handle, .own handle]

namespace Call

/-- The rights a call needs. -/
def needs : Call → List Right
  | .sslFree ssl => [.own (.ssl ssl)]
  | .sslCtxFree ctx => [.own (.ctx ctx)]
  | .bioFree bio => [.own (.bio bio)]
  | .x509Free cert => [.own (.certificate cert)]
  | .sslSetBio ssl bio => [.use (.ssl ssl), .own (.bio bio)]
  | .pemWriteBioX509 bio cert => [.use (.bio bio), .use (.certificate cert)]
  | .bioGetMemData bio => [.use (.bio bio)]
  | .x509Digest cert _ => [.use (.certificate cert)]
  | .sslPoll items _ => items.map fun item => .use (.ssl item.desc)
  | .sslCtxSetDefaultPasswdCbUserdata ctx _ | .sslCtxSetDefaultPasswdCb ctx _
  | .sslCtxUseCertificateChainFile ctx _ | .sslCtxUsePrivateKeyFile ctx _
  | .sslCtxCheckPrivateKey ctx | .sslCtxSetExData ctx _ | .sslCtxSetVerify ctx _ _ _
  | .sslCtxLoadVerifyLocations ctx _ _ | .sslCtxSetDefaultVerifyPaths ctx
  | .sslCtxSetVerifyDepth ctx _ | .sslCtxSetCiphersuites ctx _ | .sslCtxSet1GroupsList ctx _
  | .sslCtxSet1SigalgsList ctx _ | .sslCtxSetSecurityLevel ctx _ | .sslCtxSetAlpnSelectCb ctx _
  | .sslNew ctx | .sslNewListener ctx => [.use (.ctx ctx)]
  | .sslAcceptConnection ssl | .sslNewStream ssl _ | .sslAcceptStream ssl
  | .sslSetAlpnProtos ssl _ | .sslSet1InitialPeerAddr ssl _ | .sslSet1Host ssl _
  | .sslSetTlsextHostName ssl _ | .sslSetIdleTimeout ssl _ | .sslSetDefaultStreamModeNone ssl
  | .sslSetIncomingStreamPolicyAccept ssl | .sslListen ssl | .sslConnect ssl | .sslGetError ssl _
  | .sslSetBlockingMode ssl _ | .sslGetBlockingMode ssl | .sslGetEventTimeout ssl
  | .sslNetReadDesired ssl | .sslNetWriteDesired ssl | .sslHandleEvents ssl | .sslWriteEx2 ssl _ _
  | .sslReadEx ssl _ | .sslStreamConclude ssl | .sslStreamReset ssl _ | .sslGetStreamReadState ssl
  | .sslGetStreamReadErrorCode ssl | .sslGetStreamWriteErrorCode ssl | .sslGetStreamId ssl
  | .sslGetStreamTypeBidi ssl | .sslShutdownEx ssl _ _ | .sslGetConnCloseInfo ssl
  | .sslGetVersion ssl | .sslGetCurrentCipher ssl | .sslGet0AlpnSelected ssl
  | .sslGetVerifyResult ssl | .sslGet1PeerCertificate ssl | .sslGetPeerCertChain ssl =>
    [.use (.ssl ssl)]
  | _ => []

/-- The rights that come with an answer. The certificates of a chain and the SSL object of another
PHP object are borrowed. -/
def grants : (call : Call) → Answer call → List Right
  | .sslCtxNew _, some ctx => (Handle.ctx ctx).rights
  | .sslNew _, some ssl => (Handle.ssl ssl).rights
  | .sslNewListener _, some ssl => (Handle.ssl ssl).rights
  | .sslAcceptConnection _, some ssl => (Handle.ssl ssl).rights
  | .sslNewStream .., some ssl => (Handle.ssl ssl).rights
  | .sslAcceptStream _, some ssl => (Handle.ssl ssl).rights
  | .bioNewDgram _, some bio => (Handle.bio bio).rights
  | .bioNewMem, some bio => (Handle.bio bio).rights
  | .sslGet1PeerCertificate _, some cert => (Handle.certificate cert).rights
  | .sslGetPeerCertChain _, some chain => chain.map fun cert => .use (.certificate cert)
  | .loadObject _, object => object.ssl.toList.map fun ssl => .use (.ssl ssl)
  | _, _ => []

/-- The rights that end with a call. `SSL_set_bio` takes the BIO over. User code that a conversion
runs is taken to free none of these objects. -/
def revokes : Call → List Right
  | .sslFree ssl => (Handle.ssl ssl).rights
  | .sslCtxFree ctx => (Handle.ctx ctx).rights
  | .bioFree bio | .sslSetBio _ bio => (Handle.bio bio).rights
  | .x509Free cert => (Handle.certificate cert).rights
  | _ => []

/-- The call hands out and revokes nothing. -/
def calm : Call → Bool
  | .sslCtxNew _ | .sslNew _ | .sslNewListener _ | .sslAcceptConnection _ | .sslNewStream ..
  | .sslAcceptStream _ | .bioNewDgram _ | .bioNewMem | .sslGet1PeerCertificate _
  | .sslGetPeerCertChain _ | .loadObject _ | .sslFree _ | .sslCtxFree _ | .bioFree _ | .sslSetBio ..
  | .x509Free _ => false
  | _ => true

variable {call : Call}

/-- A calm call comes with no right, whatever it answers. -/
theorem grants_of_calm (calm : call.calm = true) (answer : Answer call) :
    call.grants answer = [] := by
  cases call <;> first | rfl | exact nomatch calm

theorem revokes_of_calm (calm : call.calm = true) : call.revokes = [] := by
  cases call <;> first | rfl | exact nomatch calm

end Call

/-- **The rights on OpenSSL's objects.** -/
def custody : Capabilities openssl Right := ⟨Call.needs, Call.grants, Call.revokes⟩

/-- A call that at most uses one object, `own`, and hands out and revokes nothing. -/
structure Call.Touches (own : Option Handle) (call : Call) : Prop where
  needs : ∀ r ∈ call.needs, ∃ h, own = some h ∧ r = .use h
  calm : call.calm = true

namespace Call.Touches

variable {own : Option Handle} {h : Handle} {call : Call}

/-- A call that needs no more than the use of one object touches that object alone. -/
theorem uses (needs : call.needs = [.use h]) (calm : call.calm = true) : call.Touches (some h) :=
  ⟨fun _ here => ⟨h, rfl, List.mem_singleton.mp (needs ▸ here)⟩, calm⟩

/-- A call that needs nothing touches no object, whichever one is named. -/
theorem neutral (needs : call.needs = []) (calm : call.calm = true) : call.Touches own :=
  ⟨fun _ here => absurd (needs ▸ here) List.not_mem_nil, calm⟩

/-- **A call on an object that may be used** has the rights it needs, and leaves all rights as they
are. -/
theorem within {held : Set Right} (touches : call.Touches own)
    (holds : ∀ h, own = some h → .use h ∈ held) : custody.Within held call := by
  refine ⟨fun r needed => ?_, grants_of_calm touches.calm, revokes_of_calm touches.calm⟩
  obtain ⟨h, here, rfl⟩ := touches.needs r needed
  exact holds h here

end Call.Touches

/-- One call on one object. -/
theorem uses_ask {h : Handle} {call : Call} (needs : call.needs = [.use h])
    (calm : call.calm = true) : Only (Call.Touches (some h)) (ask call) :=
  .call (.uses needs calm)

/-- One call on no object. -/
theorem neutral_ask {own : Option Handle} {call : Call} (needs : call.needs = [])
    (calm : call.calm = true) : Only (Call.Touches own) (ask call) :=
  .call (.neutral needs calm)

/-! ### What touches nothing -/

/-- The error queue belongs to no object. -/
theorem touches_of_throw {own : Option Handle} (call : Call) (throws : call.IsThrow) :
    call.Touches own := by
  cases call <;> first | exact throws.elim | exact .neutral rfl rfl

section Touching

variable {own : Option Handle}

/-- A method that throws a text of its own touches nothing. -/
theorem throwing_touches {α : Type} (format : Bytes) :
    Only (Call.Touches own) (throwing (phpQuicThrow format) : Quic (Outcome α)) :=
  throwing_calls (phpQuicThrow_calls _ format)

/-- Nor does one that quotes the error queue. -/
theorem throwingSsl_touches {α : Type} (format : Bytes) :
    Only (Call.Touches own) (throwing (phpQuicThrowSsl format) : Quic (Outcome α)) :=
  throwing_calls ((phpQuicThrowSsl_calls format).mono touches_of_throw)

end Touching

/-! ### Methods on the object's own SSL object -/

section Methods

variable (ssl : Option Ssl)

/-- The methods that connections and listeners share ask the SSL object of their own, if there is
one. -/
theorem setBlocking_touches (closedText : String) (blocking : Bool) :
    Only (Call.Touches (ssl.map .ssl)) (setBlockingOf ssl closedText blocking) := by
  cases ssl with
  | none => exact throwing_touches _
  | some ssl => exact .bind (uses_ask rfl rfl) fun _ => .ite (throwingSsl_touches _) (.pure _)

theorem wantsRead_touches : Only (Call.Touches (ssl.map .ssl)) (wantsReadOf ssl) := by
  cases ssl with
  | none => exact .pure _
  | some ssl => exact uses_ask rfl rfl

theorem wantsWrite_touches : Only (Call.Touches (ssl.map .ssl)) (wantsWriteOf ssl) := by
  cases ssl with
  | none => exact .pure _
  | some ssl => exact uses_ask rfl rfl

/-- A timer that cannot be read is an exception, and no further call. -/
theorem getTimeout_touches : Only (Call.Touches (ssl.map .ssl)) (getTimeoutOf ssl) := by
  cases ssl with
  | none => exact .pure _
  | some ssl =>
      refine .bind (uses_ask rfl rfl) fun timeout => ?_
      cases timeout with
      | none => exact throwingSsl_touches _
      | some timeout => exact .pure _

theorem handleEvents_touches : Only (Call.Touches (ssl.map .ssl)) (handleEventsOf ssl) := by
  cases ssl with
  | none => exact .pure _
  | some ssl => exact uses_ask rfl rfl

end Methods

section Connections

variable (obj : PhpQuicConnection)

/-- A connection that is closed already is not asked again. -/
theorem closeConnection_touches (errorCode : Int) (reason : Bytes) :
    Only (Call.Touches (obj.ssl.map .ssl)) (Connection.close obj errorCode reason) := by
  obtain ⟨_ | ssl, fd, ownsFd, _ | _, listener⟩ := obj
  · exact .pure _
  · exact .pure _
  · exact .bind (uses_ask rfl rfl) fun _ => .pure _
  · exact .pure _

theorem getCloseInfo_touches :
    Only (Call.Touches (obj.ssl.map .ssl)) (Connection.getCloseInfo obj) := by
  obtain ⟨_ | ssl, fd, ownsFd, closed, listener⟩ := obj
  · exact .pure _
  · refine .bind (uses_ask rfl rfl) fun info => ?_
    cases info with
    | none => exact .pure _
    | some info => exact .pure _

theorem getCryptoInfo_touches :
    Only (Call.Touches (obj.ssl.map .ssl)) (Connection.getCryptoInfo obj) := by
  obtain ⟨_ | ssl, fd, ownsFd, closed, listener⟩ := obj
  · exact throwing_touches _
  · exact .bind (uses_ask rfl rfl) fun _ => .bind (uses_ask rfl rfl) fun _ =>
      .bind (uses_ask rfl rfl) fun _ => .pure _

theorem getNegotiatedAlpn_touches :
    Only (Call.Touches (obj.ssl.map .ssl)) (Connection.getNegotiatedAlpn obj) := by
  obtain ⟨_ | ssl, fd, ownsFd, closed, listener⟩ := obj
  · exact .pure _
  · exact .bind (uses_ask rfl rfl) fun _ => .pure _

theorem getVerifyResult_touches :
    Only (Call.Touches (obj.ssl.map .ssl)) (Connection.getVerifyResult obj) := by
  obtain ⟨_ | ssl, fd, ownsFd, closed, listener⟩ := obj
  · exact throwing_touches _
  · exact .bind (uses_ask rfl rfl) fun _ => .pure _

/-- The text of a verification code is asked of no object. -/
theorem getVerifyResultString_touches :
    Only (Call.Touches (obj.ssl.map .ssl)) (Connection.getVerifyResultString obj) := by
  obtain ⟨_ | ssl, fd, ownsFd, closed, listener⟩ := obj
  · exact throwing_touches _
  · exact .bind (uses_ask rfl rfl) fun _ => .bind (neutral_ask rfl rfl) fun _ => .pure _

end Connections

section Streams

variable (obj : PhpQuicStream)

/-- An empty write asks for at most the end of the stream, any other for the write and its reason.
-/
theorem write_touches (data : Buffer) (fin : Bool) :
    Only (Call.Touches (obj.ssl.map .ssl)) (Stream.write obj data fin) := by
  obtain ⟨_ | ssl, connection⟩ := obj
  · exact throwing_touches _
  · refine .ite (.ite (.bind (uses_ask rfl rfl) fun _ => .ite (throwingSsl_touches _) (.pure _))
      (.pure _)) <| .bind (uses_ask rfl rfl) fun ⟨rc, written⟩ => ?_
    exact .ite (.bind (uses_ask rfl rfl) fun _ => .ite (.pure _) (throwingSsl_touches _)) (.pure _)

/-- By the recursion of the loop: every round reads once from the same stream. -/
theorem readLoop_touches (ssl : Ssl) (want : Nat) (blocking : Bool)
    (buf : Stream.ReadBuffer want) :
    Only (Call.Touches (some (.ssl ssl))) (Stream.readLoop ssl want blocking buf) := by
  induction buf using Stream.readLoop.induct want blocking with
  | case1 buf ih =>
      rw [Stream.readLoop]
      refine .bind (uses_ask rfl rfl) fun got => ?_
      cases got with
      | none => exact .pure _
      | some got =>
          dsimp only
          split
          · exact .pure _
          · split
            · exact ih got ‹_› ‹_›
            · exact .pure _

/-- The reason of an empty read is asked of the stream that was read. -/
theorem endOfRead_touches (ssl : Ssl) (rc : Int) :
    Only (Call.Touches (some (.ssl ssl))) (Stream.endOfRead ssl rc) := by
  refine .bind (uses_ask rfl rfl) fun err => .ite (.pure _) <| .ite (.pure _) <|
    .bind (uses_ask rfl rfl) fun state => ?_
  cases state with
  | resetRemote => exact .pure _
  | resetLocal => exact .pure _
  | connClosed => exact .pure _
  | _ => exact throwingSsl_touches _

/-- **`read()` uses its own stream only**, in the loop and behind it. -/
theorem read_touches (length : Int) :
    Only (Call.Touches (obj.ssl.map .ssl)) (Stream.read obj length) := by
  obtain ⟨_ | ssl, connection⟩ := obj
  · unfold Stream.read
    split
    · exact throwing_touches _
    · exact .pure _
  · unfold Stream.read
    split
    · exact throwing_touches _
    · exact .bind (uses_ask rfl rfl) fun _ => .bind (readLoop_touches ssl _ _ _) fun ⟨bytes, rc⟩ =>
        .ite (.pure _) (endOfRead_touches ssl rc)

theorem endStream_touches : Only (Call.Touches (obj.ssl.map .ssl)) (Stream.endStream obj) := by
  obtain ⟨_ | ssl, connection⟩ := obj
  · exact throwing_touches _
  · exact .bind (uses_ask rfl rfl) fun _ => .ite (throwingSsl_touches _) (.pure _)

theorem reset_touches (errorCode : Int) :
    Only (Call.Touches (obj.ssl.map .ssl)) (Stream.reset obj errorCode) := by
  obtain ⟨_ | ssl, connection⟩ := obj
  · exact throwing_touches _
  · exact .bind (uses_ask rfl rfl) fun _ => .ite (throwingSsl_touches _) (.pure _)

/-- The two directions are asked for on one object. -/
theorem getResetCode_touches :
    Only (Call.Touches (obj.ssl.map .ssl)) (Stream.getResetCode obj) := by
  obtain ⟨_ | ssl, connection⟩ := obj
  · exact .pure _
  · refine .bind (uses_ask rfl rfl) fun code => ?_
    cases code with
    | some code => exact .pure _
    | none =>
        refine .bind (uses_ask rfl rfl) fun code => ?_
        cases code with
        | some code => exact .pure _
        | none => exact .pure _

theorem getId_touches : Only (Call.Touches (obj.ssl.map .ssl)) (Stream.getId obj) := by
  obtain ⟨_ | ssl, connection⟩ := obj
  · exact throwing_touches _
  · exact .bind (uses_ask rfl rfl) fun _ => .pure _

theorem isBidirectional_touches :
    Only (Call.Touches (obj.ssl.map .ssl)) (Stream.isBidirectional obj) := by
  obtain ⟨_ | ssl, connection⟩ := obj
  · exact .pure _
  · exact uses_ask rfl rfl

/-- The adapter of php_stream uses the SSL object of its stream, as `write()` and `read()` do. -/
theorem opWrite_touches (buf : Buffer) :
    Only (Call.Touches (obj.ssl.map .ssl)) (quicStreamOpWrite obj buf) := by
  obtain ⟨_ | ssl, connection⟩ := obj
  · exact .pure _
  · exact .bind (uses_ask rfl rfl) fun ⟨rc, written⟩ => .ite (.pure _) <|
      .bind (uses_ask rfl rfl) fun _ => .ite (.pure _) (.pure _)

theorem opRead_touches (count : Nat) :
    Only (Call.Touches (obj.ssl.map .ssl)) (quicStreamOpRead obj count) := by
  obtain ⟨_ | ssl, connection⟩ := obj
  · exact .pure _
  · refine .bind (uses_ask rfl rfl) fun got => ?_
    cases got with
    | some got => exact .pure _
    | none =>
        refine .bind (uses_ask rfl rfl) fun err => ?_
        cases err <;> exact .pure _

/-- These two touch nothing. -/
theorem getConnection_touches {own : Option Handle} :
    Only (Call.Touches own) (Stream.getConnection obj) := by
  obtain ⟨ssl, _ | connection⟩ := obj
  · exact throwing_touches _
  · exact .bind (neutral_ask rfl rfl) fun _ => .pure _

theorem asStream_touches {own : Option Handle} (this : ObjectId) :
    Only (Call.Touches own) (Stream.asStream obj this) := by
  obtain ⟨_ | ssl, connection⟩ := obj
  · exact throwing_touches _
  · refine .bind (neutral_ask rfl rfl) fun _ => .bind (neutral_ask rfl rfl) fun stream => ?_
    cases stream with
    | none => exact .bind (neutral_ask rfl rfl) fun _ => throwing_touches _
    | some stream => exact .pure _

end Streams

/-! ### The steps of the constructors -/

section Context

variable (ctx : SslCtx) (opts : Option HashTable) (isServer : Bool)

end Context

section Handshake

variable (ssl : Ssl)

end Handshake

end PhpQuic
