/-
quic_util.c: the TLS options shared by the client and the server, read from the options array and
applied to the `SSL_CTX`.

`php_quic_configure_ctx` is one function in C; its parts are the definitions below, in the source's
order: reading the options, the local identity, peer verification, the TLS 1.3 tuning.
-/

import PhpQuic.Source.Alpn

namespace PhpQuic

/-- The private-key passphrase callback, for OpenSSL's buffer of `size` bytes. -/
def phpQuicPasswdCb (size : Nat) (userdata : Option Bytes) : Option Bytes :=
  userdata.map fun passphrase => (cString passphrase).take size

/-- `X509_V_ERR_DEPTH_ZERO_SELF_SIGNED_CERT`. -/
def depthZeroSelfSignedCert : Int := 18

/-- `X509_V_ERR_SELF_SIGNED_CERT_IN_CHAIN`. -/
def selfSignedCertInChain : Int := 19

/-- What the verification callback reads of the `X509_STORE_CTX`: the SSL object in its ex_data and
the current error. -/
structure X509StoreCtx where
  ssl : Option Ssl
  error : Int
  deriving DecidableEq

/-- The certificate verification callback. The first two arguments are `SSL_get_SSL_CTX` and the
flag in the ex_data of an `SSL_CTX`. -/
def phpQuicVerifyCb (sslGetSslCtx : Ssl → SslCtx) (allowSelfSigned : SslCtx → Bool)
    (preverifyOk : Int) (store : X509StoreCtx) : Int :=
  if preverifyOk ≠ 0 then 1
  else
    match store.ssl with
    | none => preverifyOk
    | some ssl =>
      if allowSelfSigned (sslGetSslCtx ssl) = false then preverifyOk
      else if store.error = depthZeroSelfSignedCert ∨ store.error = selfSignedCertInChain then 1
      else preverifyOk

/-- The per-SSL settings the caller applies after `SSL_new`. -/
structure PhpQuicTlsSetup where
  peerName : Option Bytes
  verifyPeer : Bool
  verifyPeerName : Bool
  sniEnabled : Bool
  deriving DecidableEq

/-- Look a key up in an options array that may be missing. -/
def findOption (opts : Option HashTable) (key : String) : Option Zval :=
  opts.bind fun table => zendHashStrFind table (text key)

/-- A value as the C string the code borrows from it: a string with no NUL byte inside. -/
def borrowString : Zval → Option Bytes
  | .string s => if strlen s = s.length then some (cString s) else none
  | _ => none

/-- An option as a borrowed C string, or `none` if absent or not a string. -/
def phpQuicOptString (opts : Option HashTable) (key : String) : Option Bytes :=
  (findOption opts key).bind borrowString

/-- A boolean option with its default. -/
def optBool (opts : Option HashTable) (key : String) (default : Bool) : Bool :=
  match findOption opts key with
  | none => default
  | some value => zendIsTrue value

/-- An integer option with its default. -/
def optLong (opts : Option HashTable) (key : String) (default : Int) : Quic Int :=
  match findOption opts key with
  | none => pure default
  | some value => ask (.zvalGetLong value)

/-- `verify_peer`, on by default for a client only. -/
def verifyPeerOption (opts : Option HashTable) (isServer : Bool) : Bool :=
  optBool opts "verify_peer" !isServer

/-- `verify_peer_name`, which follows `verify_peer` when it is not given. -/
def verifyPeerNameOption (opts : Option HashTable) (isServer : Bool) : Bool :=
  optBool opts "verify_peer_name" (verifyPeerOption opts isServer)

/-- The passphrase on the context, while the key is loaded. -/
def installPassphrase (ctx : SslCtx) (passphrase : Option Bytes) : Quic Unit := do
  if passphrase.isSome then
    ask (.sslCtxSetDefaultPasswdCbUserdata ctx passphrase)
    ask (.sslCtxSetDefaultPasswdCb ctx true)

/-- The borrowed passphrase must not stay on the long-lived `SSL_CTX`. -/
def dropPassphrase (ctx : SslCtx) (passphrase : Option Bytes) : Quic Unit := do
  if passphrase.isSome then
    ask (.sslCtxSetDefaultPasswdCb ctx false)
    ask (.sslCtxSetDefaultPasswdCbUserdata ctx none)

/-- The local identity: the server certificate, or the client certificate of mTLS. -/
def loadIdentity (ctx : SslCtx) (opts : Option HashTable) (isServer : Bool) :
    Quic (ZendResult Unit) := do
  let localPk := phpQuicOptString opts "local_pk"
  let passphrase := phpQuicOptString opts "passphrase"
  match phpQuicOptString opts "local_cert" with
  | some localCert =>
    let keyFile := localPk.getD localCert
    installPassphrase ctx passphrase
    if (← ask (.sslCtxUseCertificateChainFile ctx localCert)) ≤ 0 then
      return .error (snprintf errlen (text "failed to load local_cert '" ++ localCert ++ text "'"))
    if (← ask (.sslCtxUsePrivateKeyFile ctx keyFile)) ≤ 0 then
      return .error (snprintf errlen (text "failed to load local_pk '" ++ keyFile ++ text "'"))
    if (← ask (.sslCtxCheckPrivateKey ctx)) ≤ 0 then
      return .error (snprintf errlen (text "local_cert and local_pk do not match"))
    dropPassphrase ctx passphrase
    return .ok ()
  | none =>
    if isServer then
      return .error (snprintf errlen
        (text "the 'local_cert' option (server certificate path) is required"))
    else
      return .ok ()

/-- Where the trusted CAs come from. -/
def loadTrust (ctx : SslCtx) (opts : Option HashTable) (isServer : Bool) :
    Quic (ZendResult Unit) := do
  let cafile := phpQuicOptString opts "cafile"
  let capath := phpQuicOptString opts "capath"
  if cafile.isSome ∨ capath.isSome then
    if (← ask (.sslCtxLoadVerifyLocations ctx cafile capath)) ≤ 0 then
      return .error (snprintf errlen (text "failed to load CA from cafile/capath"))
    return .ok ()
  else if !isServer then
    ask (.sslCtxSetDefaultVerifyPaths ctx)
    return .ok ()
  else
    return .ok ()

/-- An integer setting that a negative value leaves alone. -/
def applyLevel (value : Int) (set : Int → Quic Unit) : Quic Unit := do
  if 0 ≤ value then
    set (toInt32 value)

/-- Peer verification. -/
def configureVerification (ctx : SslCtx) (opts : Option HashTable) (isServer : Bool)
    (verifyDepth : Int) : Quic (ZendResult Unit) := do
  if verifyPeerOption opts isServer then
    ask (.sslCtxSetExData ctx (optBool opts "allow_self_signed" false))
    ask (.sslCtxSetVerify ctx true isServer true)
    match ← loadTrust ctx opts isServer with
    | .error message => return .error message
    | .ok () =>
      applyLevel verifyDepth fun depth => ask (.sslCtxSetVerifyDepth ctx depth)
      return .ok ()
  else
    ask (.sslCtxSetVerify ctx false false false)
    return .ok ()

/-- One of the TLS 1.3 name lists: set when given, refused when OpenSSL refuses it. -/
def applyNames (opts : Option HashTable) (key : String) (set : Bytes → Quic Int) :
    Quic (ZendResult Unit) :=
  match phpQuicOptString opts key with
  | none => pure (.ok ())
  | some names => do
    if (← set names) = 0 then
      return .error (snprintf errlen (text "invalid " ++ text key ++ text " '" ++ names ++ text "'"))
    return .ok ()

/-- TLS 1.3 tuning (QUIC mandates TLS 1.3, so there is no version knob). -/
def configureTuning (ctx : SslCtx) (opts : Option HashTable) (securityLevel : Int) :
    Quic (ZendResult Unit) := do
  match ← applyNames opts "ciphersuites" fun names => ask (.sslCtxSetCiphersuites ctx names) with
  | .error message => return .error message
  | .ok () =>
  match ← applyNames opts "groups" fun names => ask (.sslCtxSet1GroupsList ctx names) with
  | .error message => return .error message
  | .ok () =>
  match ← applyNames opts "sigalgs" fun names => ask (.sslCtxSet1SigalgsList ctx names) with
  | .error message => return .error message
  | .ok () =>
    applyLevel securityLevel fun level => ask (.sslCtxSetSecurityLevel ctx level)
    return .ok ()

/-- What the function leaves in `out`. -/
def tlsSetup (opts : Option HashTable) (isServer : Bool) : PhpQuicTlsSetup where
  peerName := phpQuicOptString opts "peer_name"
  verifyPeer := verifyPeerOption opts isServer
  verifyPeerName := verifyPeerNameOption opts isServer
  sniEnabled := optBool opts "SNI_enabled" true

def phpQuicConfigureCtx (ctx : SslCtx) (opts : Option HashTable) (isServer : Bool) :
    Quic (ZendResult PhpQuicTlsSetup) := do
  let securityLevel ← optLong opts "security_level" (-1)
  let verifyDepth ← optLong opts "verify_depth" (-1)
  match ← loadIdentity ctx opts isServer with
  | .error message => return .error message
  | .ok () =>
  match ← configureVerification ctx opts isServer verifyDepth with
  | .error message => return .error message
  | .ok () =>
  match ← configureTuning ctx opts securityLevel with
  | .error message => return .error message
  | .ok () =>
    return .ok (tlsSetup opts isServer)

end PhpQuic
