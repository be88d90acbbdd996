/-
An environment in which every call works: the base that concrete environments change where it
matters to them.
-/

import PhpQuic.Openssl.Call

namespace PhpQuic

open Interact

/-- `zval_get_long` of a null, a boolean, an integer, or a reference to one. -/
def plainLong : Zval → Int
  | .bool value => if value then 1 else 0
  | .long value => value
  | .reference target => plainLong target
  | _ => 0

/-- `zval_get_string` of a string, or of a reference to one. -/
def plainString : Zval → Bytes
  | .string bytes => bytes
  | .reference target => plainString target
  | _ => []

/-- The answer of each call when everything works and no data is waiting. -/
def succeeding : (call : Call) → Answer call
  | .bioLookupEx .. => some [⟨2, 1⟩]
  | .bioSocket _ => some 3
  | .setReusePort _ | .bioConnect .. | .bioBind .. | .bioSocketNbio _ => true
  | .bioAddrDup address => some address
  | .sslCtxUseCertificateChainFile .. | .sslCtxUsePrivateKeyFile ..
  | .sslCtxCheckPrivateKey _ | .sslCtxLoadVerifyLocations .. | .sslCtxSetCiphersuites ..
  | .sslCtxSet1GroupsList .. | .sslCtxSet1SigalgsList .. => (1 : Int)
  | .sslCtxNew _ | .sslNew _ | .sslNewListener _ | .sslAcceptConnection _ | .sslNewStream ..
  | .sslAcceptStream _ | .bioNewDgram _ => some 1
  -- NOTE: 0 is success here.
  | .sslSetAlpnProtos .. => (0 : Int)
  | .sslSet1InitialPeerAddr .. | .sslSet1Host .. | .sslSetTlsextHostName .. | .sslListen _
  | .sslConnect _ | .sslSetBlockingMode .. | .sslStreamConclude _ | .sslStreamReset ..
  | .sslShutdownEx .. | .pemWriteBioX509 .. => (1 : Int)
  | .sslGetError .. => .wantRead
  | .sslGetBlockingMode _ => (0 : Int)
  | .sslGetEventTimeout _ => some ⟨⟨0, 0⟩, true⟩
  | .sslNetReadDesired _ => true
  | .sslNetWriteDesired _ => false
  | .sslWriteEx2 _ buf _ => (1, buf.bytes.length)
  | .sslReadEx .. => none
  | .sslGetStreamReadState _ => .ok
  | .sslGetStreamReadErrorCode _ | .sslGetStreamWriteErrorCode _ => none
  | .sslGetStreamId _ => (0 : Nat)
  | .sslGetStreamTypeBidi _ => true
  | .sslGetConnCloseInfo _ => none
  | .sslPoll items _ => some (items.map fun _ => 0)
  | .sslGetVersion _ => some (text "QUICv1")
  | .sslGetCurrentCipher _ => none
  | .sslGet0AlpnSelected _ | .x509VerifyCertErrorString _ | .bioGetMemData _
  | .errErrorStringN .. => []
  | .sslGetVerifyResult _ => (0 : Int)
  | .sslGet1PeerCertificate _ => some 1
  | .sslGetPeerCertChain _ => some [1]
  | .x509Digest .. => none
  | .evpGetDigestbyname _ => none
  | .bioNewMem => some 1
  | .errGetError => none
  | .zvalGetLong value => plainLong value
  | .zvalGetString value => plainString value
  | .zendStringAlloc _ | .emalloc => (1 : Nat)
  | .loadObject _ => .foreign
  | .phpStreamAlloc _ => some 1
  | .monotonicMs => (0 : Nat)
  | .bioClosesocket _ | .bioAddrFree _ | .bioAddrinfoFree
  | .sslCtxSetDefaultPasswdCbUserdata .. | .sslCtxSetDefaultPasswdCb .. | .sslCtxSetExData ..
  | .sslCtxSetVerify .. | .sslCtxSetDefaultVerifyPaths _ | .sslCtxSetVerifyDepth ..
  | .sslCtxSetSecurityLevel .. | .sslCtxFree _ | .sslCtxSetAlpnSelectCb .. | .sslFree _
  | .sslSetBio .. | .sslSetIdleTimeout .. | .sslSetDefaultStreamModeNone _
  | .sslSetIncomingStreamPolicyAccept _ | .sslHandleEvents _ | .x509Free _ | .bioFree _
  | .errClearError | .zendStringRelease _ | .efree _ | .gcAddref _ | .gcDelref _
  | .objRelease _ | .phpPollfdForMs .. => ()

end PhpQuic
