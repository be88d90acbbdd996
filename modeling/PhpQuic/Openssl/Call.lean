/-
**The interface between the extension and everything it calls**: OpenSSL, the sockets of the
operating system and the Zend engine.

One call per external function the sources use, with the data that crosses the boundary. A pointer
is a handle (a number), `NULL` is `none`, a descriptor of `-1` is `none`. Where the C function
reports failure by a return code next to an output argument, the answer is an `Option` of that
output. A `Behaviour openssl S` is one contract these functions may be assumed to keep; no contract
is built in here, except for the two bounds that make an answer meaningful at all (`ReadAnswer`).
-/

import PhpQuic.Zend.Value

namespace PhpQuic

open Interact

/-- A descriptor number of the process. -/
abbrev Fd := Nat
abbrev Ssl := Nat
abbrev SslCtx := Nat
abbrev Bio := Nat
abbrev BioAddr := Nat
abbrev X509 := Nat
/-- The handle of a PHP object in the object store. -/
abbrev ObjectId := Nat
/-- The handle of a php_stream resource. -/
abbrev PhpStream := Nat

/-- One entry of a `BIO_ADDRINFO` list. -/
structure AddrInfo where
  family : Nat
  address : BioAddr
  deriving DecidableEq

/-- A `zend_string` the extension allocated. -/
structure ZendString where
  id : Nat
  bytes : Bytes
  deriving DecidableEq

/-- `quic_alpn_data`: the argument of the ALPN selection callback. -/
structure QuicAlpnData where
  id : Nat
  alpn : ZendString
  deriving DecidableEq

/-- A digest OpenSSL can know by name, with the size `EVP_MD_get_size` reports. -/
inductive EvpMd where
  | md5
  | sha1
  | md5Sha1
  | sha224
  | sha256
  | sha384
  | sha512
  | other (name : Bytes) (size : Int)
  deriving DecidableEq

/-- `EVP_MD_get_size`. -/
def EvpMd.getSize : EvpMd → Int
  | .md5 => 16
  | .sha1 => 20
  | .md5Sha1 => 36
  | .sha224 => 28
  | .sha256 => 32
  | .sha384 => 48
  | .sha512 => 64
  | .other _ size => size

/-- One entry of OpenSSL's error queue: its code and, for the reasoning only, the number of the
operation during which it was queued. -/
structure ErrEntry where
  code : Nat
  operation : Nat
  deriving DecidableEq

/-- The codes of `SSL_get_error`. -/
inductive SslError where
  | ssl
  | wantRead
  | wantWrite
  | syscall
  | zeroReturn
  deriving DecidableEq

/-- `SSL_STREAM_STATE_*`. -/
inductive StreamState where
  | none
  | ok
  | wrongDir
  | finished
  | resetLocal
  | resetRemote
  | connClosed
  deriving DecidableEq

structure Timeval where
  sec : Int
  usec : Int
  deriving DecidableEq

/-- The outputs of `SSL_get_event_timeout`. -/
structure EventTimeout where
  tv : Timeval
  isInfinite : Bool
  deriving DecidableEq

/-- `SSL_CONN_CLOSE_INFO`. -/
structure ConnCloseInfo where
  errorCode : Nat
  frameType : Nat
  reason : Option Bytes
  isLocal : Bool
  isTransport : Bool
  deriving DecidableEq

/-- What is asked of the current cipher. -/
structure Cipher where
  name : Bytes
  bits : Int
  version : Bytes
  deriving DecidableEq

/-- A C buffer handed to OpenSSL: where it lies and what it holds. -/
structure Buffer where
  address : Nat
  bytes : Bytes
  deriving DecidableEq

/-- The answer of `SSL_read_ex` for a space of `space` bytes: nothing, or between one byte and
`space` bytes. -/
abbrev ReadAnswer (space : Nat) :=
  Option {bytes : Bytes // 0 < bytes.length ∧ bytes.length ≤ space}

/-- One `SSL_POLL_ITEM` before the poll. -/
structure PollItem where
  desc : Ssl
  events : Nat
  deriving DecidableEq

/-! ### Object records (php_quic.h) -/

structure PhpQuicConnection where
  ssl : Option Ssl
  fd : Option Fd
  ownsFd : Bool
  closed : Bool
  listener : Option ObjectId
  deriving DecidableEq

structure PhpQuicListener where
  ssl : Option Ssl
  ctx : Option SslCtx
  fd : Option Fd
  alpnCbArg : Option QuicAlpnData
  deriving DecidableEq

structure PhpQuicStream where
  ssl : Option Ssl
  connection : Option ObjectId
  deriving DecidableEq

/-- An object of the store, by class entry. -/
inductive QuicObject where
  | connection (object : PhpQuicConnection)
  | listener (object : PhpQuicListener)
  | stream (object : PhpQuicStream)
  | foreign
  deriving DecidableEq

/-! ### The calls -/

inductive Call where
  -- sockets
  | bioLookupEx (host : Option Bytes) (port : Bytes) (server : Bool)
  | bioSocket (family : Nat)
  | setReusePort (sock : Fd)
  | bioConnect (sock : Fd) (address : BioAddr)
  | bioBind (sock : Fd) (address : BioAddr)
  | bioSocketNbio (sock : Fd)
  | bioClosesocket (sock : Fd)
  | bioAddrDup (address : BioAddr)
  | bioAddrFree (address : BioAddr)
  | bioAddrinfoFree
  -- SSL_CTX settings
  | sslCtxSetDefaultPasswdCbUserdata (ctx : SslCtx) (userdata : Option Bytes)
  | sslCtxSetDefaultPasswdCb (ctx : SslCtx) (installed : Bool)
  | sslCtxUseCertificateChainFile (ctx : SslCtx) (file : Bytes)
  | sslCtxUsePrivateKeyFile (ctx : SslCtx) (file : Bytes)
  | sslCtxCheckPrivateKey (ctx : SslCtx)
  | sslCtxSetExData (ctx : SslCtx) (allowSelfSigned : Bool)
  | sslCtxSetVerify (ctx : SslCtx) (peer failIfNoPeerCert callback : Bool)
  | sslCtxLoadVerifyLocations (ctx : SslCtx) (cafile capath : Option Bytes)
  | sslCtxSetDefaultVerifyPaths (ctx : SslCtx)
  | sslCtxSetVerifyDepth (ctx : SslCtx) (depth : Int)
  | sslCtxSetCiphersuites (ctx : SslCtx) (names : Bytes)
  | sslCtxSet1GroupsList (ctx : SslCtx) (names : Bytes)
  | sslCtxSet1SigalgsList (ctx : SslCtx) (names : Bytes)
  | sslCtxSetSecurityLevel (ctx : SslCtx) (level : Int)
  -- creation and release
  | sslCtxNew (server : Bool)
  | sslCtxFree (ctx : SslCtx)
  | sslCtxSetAlpnSelectCb (ctx : SslCtx) (data : QuicAlpnData)
  | sslNew (ctx : SslCtx)
  | sslNewListener (ctx : SslCtx)
  | sslAcceptConnection (listener : Ssl)
  | sslNewStream (connection : Ssl) (unidirectional : Bool)
  | sslAcceptStream (connection : Ssl)
  | sslFree (ssl : Ssl)
  | bioNewDgram (sock : Fd)
  | sslSetBio (ssl : Ssl) (bio : Bio)
  -- SSL settings before the handshake
  | sslSetAlpnProtos (ssl : Ssl) (protos : Bytes)
  | sslSet1InitialPeerAddr (ssl : Ssl) (peer : BioAddr)
  | sslSet1Host (ssl : Ssl) (name : Bytes)
  | sslSetTlsextHostName (ssl : Ssl) (name : Bytes)
  | sslSetIdleTimeout (ssl : Ssl) (ms : Nat)
  | sslSetDefaultStreamModeNone (ssl : Ssl)
  | sslSetIncomingStreamPolicyAccept (ssl : Ssl)
  | sslListen (ssl : Ssl)
  -- engine
  | sslConnect (ssl : Ssl)
  | sslGetError (ssl : Ssl) (rc : Int)
  | sslSetBlockingMode (ssl : Ssl) (blocking : Bool)
  | sslGetBlockingMode (ssl : Ssl)
  | sslGetEventTimeout (ssl : Ssl)
  | sslNetReadDesired (ssl : Ssl)
  | sslNetWriteDesired (ssl : Ssl)
  | sslHandleEvents (ssl : Ssl)
  | sslWriteEx2 (ssl : Ssl) (buf : Buffer) (conclude : Bool)
  | sslReadEx (ssl : Ssl) (space : Nat)
  | sslStreamConclude (ssl : Ssl)
  | sslStreamReset (ssl : Ssl) (errorCode : Nat)
  | sslGetStreamReadState (ssl : Ssl)
  | sslGetStreamReadErrorCode (ssl : Ssl)
  | sslGetStreamWriteErrorCode (ssl : Ssl)
  | sslGetStreamId (ssl : Ssl)
  | sslGetStreamTypeBidi (ssl : Ssl)
  | sslShutdownEx (ssl : Ssl) (errorCode : Nat) (reason : Option Bytes)
  | sslGetConnCloseInfo (ssl : Ssl)
  | sslPoll (items : List PollItem) (timeout : Option Timeval)
  -- session and certificates
  | sslGetVersion (ssl : Ssl)
  | sslGetCurrentCipher (ssl : Ssl)
  | sslGet0AlpnSelected (ssl : Ssl)
  | sslGetVerifyResult (ssl : Ssl)
  | x509VerifyCertErrorString (code : Int)
  | sslGet1PeerCertificate (ssl : Ssl)
  | sslGetPeerCertChain (ssl : Ssl)
  | x509Digest (cert : X509) (md : EvpMd)
  | x509Free (cert : X509)
  | evpGetDigestbyname (name : Bytes)
  | bioNewMem
  | pemWriteBioX509 (bio : Bio) (cert : X509)
  | bioGetMemData (bio : Bio)
  | bioFree (bio : Bio)
  -- the error queue
  | errGetError
  | errClearError
  | errErrorStringN (code : Nat) (size : Nat)
  -- Zend engine and memory. The two conversions may run user code, a handler of warnings or a
  -- `__toString`; it may leave an exception pending, which no function of the extension looks for.
  | zvalGetLong (value : Zval)
  | zvalGetString (value : Zval)
  | zendStringAlloc (bytes : Bytes)
  | zendStringRelease (id : Nat)
  | emalloc
  | efree (address : Nat)
  | loadObject (object : ObjectId)
  | gcAddref (object : ObjectId)
  | gcDelref (object : ObjectId)
  | objRelease (object : ObjectId)
  | phpStreamAlloc (stream : ObjectId)
  -- clock and waiting
  | monotonicMs
  | phpPollfdForMs (fd : Fd) (pollin pollout : Bool) (timeoutMs : Int)

/-- The type of each call's answer. -/
abbrev Answer : Call → Type
  | .bioLookupEx .. => Option (List AddrInfo)
  | .bioSocket _ => Option Fd
  | .setReusePort _ => Bool
  | .bioConnect .. => Bool
  | .bioBind .. => Bool
  | .bioSocketNbio _ => Bool
  | .bioAddrDup _ => Option BioAddr
  | .sslCtxUseCertificateChainFile .. => Int
  | .sslCtxUsePrivateKeyFile .. => Int
  | .sslCtxCheckPrivateKey _ => Int
  | .sslCtxLoadVerifyLocations .. => Int
  | .sslCtxSetCiphersuites .. => Int
  | .sslCtxSet1GroupsList .. => Int
  | .sslCtxSet1SigalgsList .. => Int
  | .sslCtxNew _ => Option SslCtx
  | .sslNew _ => Option Ssl
  | .sslNewListener _ => Option Ssl
  | .sslAcceptConnection _ => Option Ssl
  | .sslNewStream .. => Option Ssl
  | .sslAcceptStream _ => Option Ssl
  | .bioNewDgram _ => Option Bio
  | .sslSetAlpnProtos .. => Int
  | .sslSet1InitialPeerAddr .. => Int
  | .sslSet1Host .. => Int
  | .sslSetTlsextHostName .. => Int
  | .sslListen _ => Int
  | .sslConnect _ => Int
  | .sslGetError .. => SslError
  | .sslSetBlockingMode .. => Int
  | .sslGetBlockingMode _ => Int
  | .sslGetEventTimeout _ => Option EventTimeout
  | .sslNetReadDesired _ => Bool
  | .sslNetWriteDesired _ => Bool
  | .sslWriteEx2 .. => Int × Nat
  | .sslReadEx _ space => ReadAnswer space
  | .sslStreamConclude _ => Int
  | .sslStreamReset .. => Int
  | .sslGetStreamReadState _ => StreamState
  | .sslGetStreamReadErrorCode _ => Option Nat
  | .sslGetStreamWriteErrorCode _ => Option Nat
  | .sslGetStreamId _ => Nat
  | .sslGetStreamTypeBidi _ => Bool
  | .sslShutdownEx .. => Int
  | .sslGetConnCloseInfo _ => Option ConnCloseInfo
  | .sslPoll .. => Option (List Nat)
  | .sslGetVersion _ => Option Bytes
  | .sslGetCurrentCipher _ => Option Cipher
  | .sslGet0AlpnSelected _ => Bytes
  | .sslGetVerifyResult _ => Int
  | .x509VerifyCertErrorString _ => Bytes
  | .sslGet1PeerCertificate _ => Option X509
  | .sslGetPeerCertChain _ => Option (List X509)
  | .x509Digest .. => Option Bytes
  | .evpGetDigestbyname _ => Option EvpMd
  | .bioNewMem => Option Bio
  | .pemWriteBioX509 .. => Int
  | .bioGetMemData _ => Bytes
  | .errGetError => Option ErrEntry
  | .errErrorStringN .. => Bytes
  | .zvalGetLong _ => Int
  | .zvalGetString _ => Bytes
  | .zendStringAlloc _ => Nat
  | .emalloc => Nat
  | .loadObject _ => QuicObject
  | .phpStreamAlloc _ => Option PhpStream
  | .monotonicMs => Nat
  | _ => Unit

/-- The extension's interface to its environment. -/
abbrev openssl : Interface := ⟨Call, Answer⟩

/-- A function of the extension. -/
abbrev Quic (α : Type) := Program openssl α

/-- Make one call. -/
abbrev ask (call : Call) : Quic (Answer call) := @Program.call openssl call

end PhpQuic
