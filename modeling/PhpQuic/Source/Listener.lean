/-
quic_listener.c: `Quic\Listener`, the server side.
-/

import PhpQuic.Source.Connection

namespace PhpQuic

/-- What `SSL_select_next_proto` returns: `OPENSSL_NPN_*`. -/
inductive NextProto where
  | unsupported
  | negotiated
  | noOverlap
  deriving DecidableEq

/-- `SSL_TLSEXT_ERR_*`. -/
inductive TlsextErr where
  | ok
  | alertWarning
  | alertFatal
  | noack
  deriving DecidableEq

/-- The ALPN selection callback: its return code and what it leaves in `*out`. The first argument is
`SSL_select_next_proto`, called on the server's list and the client's. -/
def quicAlpnSelectCb (sslSelectNextProto : Bytes → Bytes → NextProto × Bytes) (data : QuicAlpnData)
    (input : Bytes) : TlsextErr × Bytes :=
  let (status, out) :=
    -- The cast of the length to `unsigned int`.
    sslSelectNextProto (data.alpn.bytes.take (data.alpn.bytes.length % 2 ^ 32)) input
  if status ≠ .negotiated then (.alertFatal, out) else (.ok, out)

/-- Release of everything a listener owns, and the emptied object. -/
def quicListenerRelease (obj : PhpQuicListener) : Quic PhpQuicListener := do
  freeSsl obj.ssl
  closeSocket obj.fd
  freeCtx obj.ctx
  freeAlpnData obj.alpnCbArg
  return { ssl := none, ctx := none, fd := none, alpnCbArg := none }

def quicListenerCreate : PhpQuicListener :=
  { ssl := none, ctx := none, fd := none, alpnCbArg := none }

def quicListenerFree (obj : PhpQuicListener) : Quic Unit := do
  let _ ← quicListenerRelease obj

namespace Listener

/-- What the `cleanup_error` label has to release: `alpn` until the callback data owns it. -/
inductive AlpnOwner where
  | string (alpn : ZendString)
  | data (adata : QuicAlpnData)
  deriving DecidableEq

def releaseAlpn : AlpnOwner → Quic Unit
  | .string alpn => ask (.zendStringRelease alpn.id)
  | .data adata => freeAlpnData (some adata)

/-- The `cleanup_error` label. -/
def cleanup (owner : AlpnOwner) (listener : Option Ssl) (ctx : Option SslCtx) (fd : Fd) :
    Quic Unit := do
  releaseAlpn owner
  freeSsl listener
  freeCtx ctx
  ask (.bioClosesocket fd)

/-- The `ssl_error` label, falling through to `cleanup_error`. -/
def sslError (owner : AlpnOwner) (listener : Option Ssl) (ctx : Option SslCtx) (fd : Fd) :
    Quic Thrown := do
  let thrown ← phpQuicThrowSsl (text "failed to set up QUIC listener")
  cleanup owner listener ctx fd
  return thrown

/-- The constructor once the context is configured: the callback data, the listener SSL and its
BIO, and listening. -/
def startListening (fd : Fd) (ctx : SslCtx) (alpn : ZendString) (host : Bytes) (port : Int) :
    Quic (Outcome PhpQuicListener) := do
  -- The ALPN data takes ownership of the encoded buffer.
  let id ← ask .emalloc
  let adata : QuicAlpnData := { id, alpn }
  ask (.sslCtxSetAlpnSelectCb ctx adata)
  match ← ask (.sslNewListener ctx) with
  | none => return .error (← sslError (.data adata) none (some ctx) fd)
  | some listener =>
    match ← ask (.bioNewDgram fd) with
    | none => return .error (← sslError (.data adata) (some listener) (some ctx) fd)
    | some bio =>
      ask (.sslSetBio listener bio)
      if (← ask (.sslListen listener)) ≤ 0 then
        let shown := if 0 < host.length then host else text "*"
        let thrown ← phpQuicThrowSsl
          (text "failed to start QUIC listener on " ++ shown ++ text ":" ++ decimal port)
        cleanup (.data adata) (some listener) (some ctx) fd
        return .error thrown
      else
        return .ok {
          ssl := some listener, ctx := some ctx, fd := some fd, alpnCbArg := some adata }

/-- The constructor once the socket is bound: the `SSL_CTX`. -/
def createCtx (fd : Fd) (alpn : ZendString) (host : Bytes) (port : Int) (options : HashTable) :
    Quic (Outcome PhpQuicListener) := do
  match ← ask (.sslCtxNew true) with
  | none => return .error (← sslError (.string alpn) none none fd)
  | some ctx =>
    match ← phpQuicConfigureCtx ctx (some options) true with
    | .error errbuf =>
      let thrown ← phpQuicThrow errbuf
      cleanup (.string alpn) none (some ctx) fd
      return .error thrown
    | .ok _ => startListening fd ctx alpn host port

/-- `Quic\Listener::__construct`: binds the UDP socket and starts listening. -/
def construct (obj : PhpQuicListener) (host : Bytes) (port : Int) (options : HashTable) :
    Quic (Outcome PhpQuicListener) := do
  if port < 1 ∨ 65535 < port then
    throwing (phpQuicThrow (text "port must be between 1 and 65535, got " ++ decimal port))
  else if strlen host ≠ host.length then
    throwing (phpQuicThrow (text "host must not contain null bytes"))
  else if obj.ssl.isSome then
    throwing (phpQuicThrow (text "listener is already listening"))
  else
    let options' := some options
    match (findOption options' "alpn").orElse fun _ => findOption options' "alpn_protocols" with
    | none => throwing (phpQuicThrow (text "the 'alpn' option is required"))
    | some alpnSpec =>
      match ← phpQuicAlpnFromZval alpnSpec with
      | .error errbuf => throwing (phpQuicThrow errbuf)
      | .ok alpn =>
        let reusePort := optBool options' "reuse_port" false
        match ← phpQuicUdpServer host (decimal port) reusePort with
        | .error errbuf =>
          ask (.zendStringRelease alpn.id)
          throwing (phpQuicThrow errbuf)
        | .ok fd => createCtx fd alpn host port options

/-- `accept()`: the new connection object borrows the listener's descriptor and holds a reference
on the listener. -/
def accept (obj : PhpQuicListener) (this : ObjectId) : Quic (Option PhpQuicConnection) :=
  match obj.ssl with
  | none => return none
  | some ssl => do
    match ← ask (.sslAcceptConnection ssl) with
    | none => return none
    | some conn =>
      phpQuicConnectionConfigure conn
      return some (← phpQuicConnectionInitObject conn obj.fd false (some this))

def close (obj : PhpQuicListener) : Quic PhpQuicListener := quicListenerRelease obj

def getFd (obj : PhpQuicListener) : Quic Int :=
  return match obj.fd with
  | none => -1
  | some fd => fd

def setBlocking (obj : PhpQuicListener) (blocking : Bool) : Quic (Outcome Unit) :=
  setBlockingOf obj.ssl "listener is closed" blocking

def wantsRead (obj : PhpQuicListener) : Quic Bool := wantsReadOf obj.ssl

def wantsWrite (obj : PhpQuicListener) : Quic Bool := wantsWriteOf obj.ssl

def getTimeout (obj : PhpQuicListener) : Quic (Outcome (Option Timeval)) := getTimeoutOf obj.ssl

def handleEvents (obj : PhpQuicListener) : Quic Unit := handleEventsOf obj.ssl

end Listener

end PhpQuic
