/-
quic_connection.c: `Quic\Connection`, client and server-accepted connections.
-/

import PhpQuic.Source.Fingerprint
import PhpQuic.Source.Handshake
import PhpQuic.Source.Stream

namespace PhpQuic

/-- PEM-encode an X509 certificate. -/
def phpQuicX509ToPem (cert : X509) : Quic (Option Bytes) := do
  match ← ask .bioNewMem with
  | none => return none
  | some bio =>
    if (← ask (.pemWriteBioX509 bio cert)) = 0 then
      ask (.bioFree bio)
      return none
    else
      let out ← ask (.bioGetMemData bio)
      ask (.bioFree bio)
      return some out

/-! ### Object handlers -/

def quicConnectionCreate : PhpQuicConnection :=
  { ssl := none, fd := none, ownsFd := false, closed := false, listener := none }

/-- Runs after every stream that referenced the connection is gone. The datagram BIO is
`BIO_NOCLOSE`, so a client's descriptor is closed here; an accepted connection borrows the
listener's. -/
def quicConnectionFree (obj : PhpQuicConnection) : Quic Unit := do
  freeSsl obj.ssl
  closeSocket (if obj.ownsFd then obj.fd else none)
  releaseObject obj.listener

/-- What the cycle collector is shown; the class has no properties. -/
def quicConnectionGetGc (obj : PhpQuicConnection) : List ObjectId :=
  match obj.listener with
  | some listener => [listener]
  | none => []

/-- Explicit stream mode, accepting peer-initiated streams. -/
def phpQuicConnectionConfigure (ssl : Ssl) : Quic Unit := do
  ask (.sslSetDefaultStreamModeNone ssl)
  ask (.sslSetIncomingStreamPolicyAccept ssl)

/-- `ZVAL_COPY` of a zval that may be absent. -/
def copyObject : Option ObjectId → Quic Unit
  | some object => ask (.gcAddref object)
  | none => return ()

def phpQuicConnectionInitObject (ssl : Ssl) (fd : Option Fd) (ownsFd : Bool)
    (listener : Option ObjectId) : Quic PhpQuicConnection := do
  copyObject listener
  return { ssl := some ssl, fd, ownsFd, closed := false, listener }

namespace Connection

/-! ### The constructor -/

/-- What the constructor takes out of the options array itself: the ALPN specification and the two
timeouts. -/
def readOptions (options : Option HashTable) : Quic (Option Zval × Int × Int) := do
  let alpnSpec := (findOption options "alpn").orElse fun _ => findOption options "alpn_protocols"
  let idleTimeoutMs ← optLong options "idle_timeout_ms" 0
  let connectTimeoutMs ← optLong options "connect_timeout_ms" 0
  return (alpnSpec, idleTimeoutMs, connectTimeoutMs)

/-- The `cleanup` label. -/
def cleanup (alpn : ZendString) (peer : BioAddr) (ssl : Option Ssl) (ctx : Option SslCtx)
    (fd : Fd) : Quic Unit := do
  ask (.zendStringRelease alpn.id)
  ask (.bioAddrFree peer)
  freeSsl ssl
  freeCtx ctx
  ask (.bioClosesocket fd)

/-- The name the peer's certificate has to be for. `0` is a failure. -/
def setExpectedHost (ssl : Ssl) (setup : PhpQuicTlsSetup) (peerName : Bytes) : Quic Int :=
  if setup.verifyPeer ∧ setup.verifyPeerName then ask (.sslSet1Host ssl peerName) else return 1

/-- Server name indication. `0` is a failure. -/
def setServerName (ssl : Ssl) (setup : PhpQuicTlsSetup) (peerName : Bytes) : Quic Int :=
  if setup.sniEnabled then ask (.sslSetTlsextHostName ssl peerName) else return 1

/-- The settings of the SSL object before the handshake; `false` is `goto ssl_error`. -/
def prepareSsl (ssl : Ssl) (fd : Fd) (alpn : ZendString) (peer : BioAddr) (host : Bytes)
    (setup : PhpQuicTlsSetup) : Quic Bool := do
  match ← ask (.bioNewDgram fd) with
  | none => return false
  | some bio =>
    ask (.sslSetBio ssl bio)
    -- NOTE: SSL_set_alpn_protos returns 0 on SUCCESS. The length is cast to `unsigned int`.
    if (← ask (.sslSetAlpnProtos ssl (castLength alpn.bytes))) ≠ 0 then
      return false
    if (← ask (.sslSet1InitialPeerAddr ssl peer)) = 0 then
      return false
    let peerName := setup.peerName.getD host
    if (← setExpectedHost ssl setup peerName) = 0 then
      return false
    return (← setServerName ssl setup peerName) ≠ 0

/-- The idle timeout, when one is asked for. -/
def requestIdleTimeout (ssl : Ssl) (idleTimeoutMs : Int) : Quic Unit := do
  if 0 < idleTimeoutMs then
    ask (.sslSetIdleTimeout ssl (Stream.toUint64 idleTimeoutMs))

/-- The text of a failed or timed-out handshake. -/
def handshakeText (host : Bytes) (port : Int) (ending : Bytes) : Bytes :=
  text "QUIC handshake with " ++ host ++ text ":" ++ decimal port ++ ending

/-- The handshake, timed or plain. The error is the exception already raised; `none` says that the
timed handshake is still going on. -/
def handshake (fuel : Nat) (ssl : Ssl) (fd : Fd) (host : Bytes) (port connectTimeoutMs : Int) :
    Quic (Option (Outcome Unit)) := do
  if 0 < connectTimeoutMs then
    match ← phpQuicConnectTimed fuel ssl fd connectTimeoutMs with
    | none => return none
    | some hs =>
      if hs = -1 then
        return some (.error (← phpQuicThrow (handshakeText host port
          (text " timed out after " ++ decimal connectTimeoutMs ++ text "ms"))))
      else if hs = 0 then
        return some (.error (← phpQuicThrowSsl (handshakeText host port (text " failed"))))
      else
        return some (.ok ())
  else if (← ask (.sslConnect ssl)) ≠ 1 then
    return some (.error (← phpQuicThrowSsl (handshakeText host port (text " failed"))))
  else
    return some (.ok ())

/-- Optional certificate pinning, post-handshake. -/
def checkPinning (ssl : Ssl) (options : Option HashTable) : Quic (Outcome Unit) :=
  match findOption options "peer_fingerprint" with
  | none => return .ok ()
  | some spec => do
    match ← phpQuicCheckFingerprint ssl spec with
    | .ok () => return .ok ()
    | .error errbuf => return .error (← phpQuicThrow errbuf)

/-- The `ssl_error` label, falling through to `cleanup`. -/
def sslError (alpn : ZendString) (peer : BioAddr) (ssl : Option Ssl) (ctx : Option SslCtx)
    (fd : Fd) : Quic Thrown := do
  let thrown ← phpQuicThrowSsl (text "failed to set up QUIC client connection")
  cleanup alpn peer ssl ctx fd
  return thrown

/-- The constructor once the socket is open and the SSL object made: everything down to the fields
of the object. -/
def establish (fuel : Nat) (obj : PhpQuicConnection) (ssl : Ssl) (fd : Fd) (alpn : ZendString)
    (peer : BioAddr) (host : Bytes) (port idleTimeoutMs connectTimeoutMs : Int)
    (options : Option HashTable) (setup : PhpQuicTlsSetup) :
    Quic (Option (Outcome PhpQuicConnection)) := do
  if !(← prepareSsl ssl fd alpn peer host setup) then
    return some (.error (← sslError alpn peer (some ssl) none fd))
  requestIdleTimeout ssl idleTimeoutMs
  phpQuicConnectionConfigure ssl
  match ← handshake fuel ssl fd host port connectTimeoutMs with
  | none => return none
  | some (.error thrown) =>
    cleanup alpn peer (some ssl) none fd
    return some (.error thrown)
  | some (.ok ()) =>
    match ← checkPinning ssl options with
    | .error thrown =>
      cleanup alpn peer (some ssl) none fd
      return some (.error thrown)
    | .ok () =>
      ask (.zendStringRelease alpn.id)
      ask (.bioAddrFree peer)
      return some (.ok { obj with ssl := some ssl, fd := some fd, ownsFd := true, closed := false })

/-- The constructor once the socket is open: the `SSL_CTX` and the SSL object. -/
def createSsl (fuel : Nat) (obj : PhpQuicConnection) (fd : Fd) (alpn : ZendString)
    (peer : BioAddr) (host : Bytes) (port idleTimeoutMs connectTimeoutMs : Int)
    (options : Option HashTable) : Quic (Option (Outcome PhpQuicConnection)) := do
  match ← ask (.sslCtxNew false) with
  | none => return some (.error (← sslError alpn peer none none fd))
  | some ctx =>
    match ← phpQuicConfigureCtx ctx options false with
    | .error errbuf =>
      let thrown ← phpQuicThrow errbuf
      cleanup alpn peer none (some ctx) fd
      return some (.error thrown)
    | .ok setup =>
      match ← ask (.sslNew ctx) with
      | none => return some (.error (← sslError alpn peer none (some ctx) fd))
      | some ssl =>
        -- SSL holds its own reference to the CTX from here on.
        ask (.sslCtxFree ctx)
        establish fuel obj ssl fd alpn peer host port idleTimeoutMs connectTimeoutMs options setup

/-- `Quic\Connection::__construct`: opens a client connection and completes the handshake. `none`
says that the handshake is still going on after `fuel` rounds. -/
def construct (fuel : Nat) (obj : PhpQuicConnection) (host : Bytes) (port : Int)
    (options : Option HashTable) : Quic (Option (Outcome PhpQuicConnection)) := do
  if port < 1 ∨ 65535 < port then
    return some (.error (← phpQuicThrow
      (text "port must be between 1 and 65535, got " ++ decimal port)))
  else if strlen host ≠ host.length then
    return some (.error (← phpQuicThrow (text "host must not contain null bytes")))
  else if obj.ssl.isSome then
    return some (.error (← phpQuicThrow (text "connection is already established")))
  else
    match ← readOptions options with
    | (none, _, _) =>
      return some (.error (← phpQuicThrow (text "the 'alpn' option is required")))
    | (some alpnSpec, idleTimeoutMs, connectTimeoutMs) =>
      match ← phpQuicAlpnFromZval alpnSpec with
      | .error errbuf => return some (.error (← phpQuicThrow errbuf))
      | .ok alpn =>
        match ← phpQuicUdpClient host (decimal port) with
        | .error errbuf =>
          ask (.zendStringRelease alpn.id)
          return some (.error (← phpQuicThrow errbuf))
        | .ok (fd, peer) =>
          createSsl fuel obj fd alpn peer host port idleTimeoutMs connectTimeoutMs options

/-! ### Streams and closing -/

def openStream (obj : PhpQuicConnection) (this : ObjectId) (bidirectional : Bool) :
    Quic (Outcome PhpQuicStream) :=
  match obj.ssl with
  | none => throwing (phpQuicThrow (text "connection is closed"))
  | some ssl => do
    match ← ask (.sslNewStream ssl !bidirectional) with
    | none => throwing (phpQuicThrowSsl (text "failed to open QUIC stream"))
    | some stream => return .ok (← phpQuicStreamInitObject stream this)

def acceptStream (obj : PhpQuicConnection) (this : ObjectId) : Quic (Option PhpQuicStream) :=
  match obj.ssl with
  | none => return none
  | some ssl => do
    match ← ask (.sslAcceptStream ssl) with
    | none => return none
    | some stream => return some (← phpQuicStreamInitObject stream this)

/-- `close()`: the object afterwards. -/
def close (obj : PhpQuicConnection) (errorCode : Int) (reason : Bytes) :
    Quic PhpQuicConnection :=
  match obj.ssl, obj.closed with
  | some ssl, false => do
    let quicReason := if 0 < reason.length then some (cString reason) else none
    let _ ← ask (.sslShutdownEx ssl (Stream.toUint64 errorCode) quicReason)
    return { obj with closed := true }
  | _, _ => return obj

/-- The array of `getCloseInfo()`. -/
structure CloseInfo where
  errorCode : Int
  frameType : Int
  reason : Bytes
  isLocal : Bool
  isTransport : Bool
  deriving DecidableEq

def getCloseInfo (obj : PhpQuicConnection) : Quic (Option CloseInfo) :=
  match obj.ssl with
  | none => return none
  | some ssl => do
    match ← ask (.sslGetConnCloseInfo ssl) with
    | none => return none
    | some info => return some {
        errorCode := Stream.toZendLong info.errorCode
        frameType := Stream.toZendLong info.frameType
        reason := info.reason.getD []
        isLocal := info.isLocal
        isTransport := info.isTransport }

/-! ### Driving the engine -/

/-- `getFd()`. -/
def getFd (obj : PhpQuicConnection) : Quic Int :=
  return match obj.fd with
  | none => -1
  | some fd => fd

end Connection

/-- `setBlocking` of a connection or a listener; `closedText` is what it throws without an SSL
object. -/
def setBlockingOf (ssl : Option Ssl) (closedText : String) (blocking : Bool) :
    Quic (Outcome Unit) :=
  match ssl with
  | none => throwing (phpQuicThrow (text closedText))
  | some ssl => do
    if (← ask (.sslSetBlockingMode ssl blocking)) = 0 then
      throwing (phpQuicThrowSsl (text "failed to set blocking mode"))
    else
      return .ok ()

/-- `wantsRead` of a connection or a listener. -/
def wantsReadOf (ssl : Option Ssl) : Quic Bool :=
  match ssl with
  | none => return false
  | some ssl => ask (.sslNetReadDesired ssl)

/-- `wantsWrite` of a connection or a listener. -/
def wantsWriteOf (ssl : Option Ssl) : Quic Bool :=
  match ssl with
  | none => return false
  | some ssl => ask (.sslNetWriteDesired ssl)

/-- `getTimeout` of a connection or a listener: the value is `sec + usec / 10 ^ 6` seconds. -/
def getTimeoutOf (ssl : Option Ssl) : Quic (Outcome (Option Timeval)) :=
  match ssl with
  | none => return .ok none
  | some ssl => do
    match ← ask (.sslGetEventTimeout ssl) with
    | none => throwing (phpQuicThrowSsl (text "failed to query QUIC event timeout"))
    | some { tv, isInfinite } => return .ok (if isInfinite then none else some tv)

/-- `handleEvents` of a connection or a listener. -/
def handleEventsOf (ssl : Option Ssl) : Quic Unit :=
  match ssl with
  | none => return ()
  | some ssl => ask (.sslHandleEvents ssl)

namespace Connection

def setBlocking (obj : PhpQuicConnection) (blocking : Bool) : Quic (Outcome Unit) :=
  setBlockingOf obj.ssl "connection is closed" blocking

def wantsRead (obj : PhpQuicConnection) : Quic Bool := wantsReadOf obj.ssl

def wantsWrite (obj : PhpQuicConnection) : Quic Bool := wantsWriteOf obj.ssl

def getTimeout (obj : PhpQuicConnection) : Quic (Outcome (Option Timeval)) := getTimeoutOf obj.ssl

def handleEvents (obj : PhpQuicConnection) : Quic Unit := handleEventsOf obj.ssl

/-! ### Session and certificates -/

/-- The array of `getCryptoInfo()`. -/
structure CryptoInfo where
  protocol : Option Bytes
  cipher : Option Cipher
  alpnProtocol : Option Bytes
  deriving DecidableEq

def getCryptoInfo (obj : PhpQuicConnection) : Quic (Outcome CryptoInfo) :=
  match obj.ssl with
  | none => throwing (phpQuicThrow (text "connection is closed"))
  | some ssl => do
    let protocol ← ask (.sslGetVersion ssl)
    let cipher ← ask (.sslGetCurrentCipher ssl)
    let alpn ← ask (.sslGet0AlpnSelected ssl)
    return .ok { protocol, cipher, alpnProtocol := if 0 < alpn.length then some alpn else none }

def getNegotiatedAlpn (obj : PhpQuicConnection) : Quic (Option Bytes) :=
  match obj.ssl with
  | none => return none
  | some ssl => do
    let alpn ← ask (.sslGet0AlpnSelected ssl)
    return if alpn.length = 0 then none else some alpn

def getPeerCertificate (obj : PhpQuicConnection) : Quic (Outcome (Option Bytes)) :=
  match obj.ssl with
  | none => return .ok none
  | some ssl => do
    match ← ask (.sslGet1PeerCertificate ssl) with
    | none => return .ok none
    | some cert =>
      let pem ← phpQuicX509ToPem cert
      ask (.x509Free cert)
      match pem with
      | none => throwing (phpQuicThrowSsl (text "failed to encode peer certificate"))
      | some pem => return .ok (some pem)

/-- The loop over the chain: certificates that fail to encode are left out. -/
def chainToPem : List X509 → Quic (List Bytes)
  | [] => return []
  | cert :: rest => do
    let pem ← phpQuicX509ToPem cert
    return pem.toList ++ (← chainToPem rest)

def getPeerCertificateChain (obj : PhpQuicConnection) : Quic (List Bytes) :=
  match obj.ssl with
  | none => return []
  | some ssl => do
    match ← ask (.sslGetPeerCertChain ssl) with
    | none => return []
    | some chain => chainToPem chain

def getVerifyResult (obj : PhpQuicConnection) : Quic (Outcome Int) :=
  match obj.ssl with
  | none => throwing (phpQuicThrow (text "connection is closed"))
  | some ssl => do
    return .ok (← ask (.sslGetVerifyResult ssl))

def getVerifyResultString (obj : PhpQuicConnection) : Quic (Outcome Bytes) :=
  match obj.ssl with
  | none => throwing (phpQuicThrow (text "connection is closed"))
  | some ssl => do
    let code ← ask (.sslGetVerifyResult ssl)
    return .ok (← ask (.x509VerifyCertErrorString code))

end Connection

end PhpQuic
