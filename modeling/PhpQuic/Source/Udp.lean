/-
quic_util.c: creating the UDP sockets of a client and of a server.

Both functions walk the resolved addresses and keep the first socket for which every step works.
The loops below carry `sock` through the iterations as the C variable of that name, and come back
with `sock` and the list node `ai` at which the loop was left.
-/

import PhpQuic.Source.Exception

namespace PhpQuic

/-- The address loop of `php_quic_udp_client`. -/
def udpClientLoop : Option Fd → List AddrInfo → Quic (Option Fd × Option AddrInfo)
  | sock, [] => return (sock, none)
  | _, ai :: next => do
    match ← ask (.bioSocket ai.family) with
    | none => udpClientLoop none next
    | some sock =>
      if !(← ask (.bioConnect sock ai.address)) then
        ask (.bioClosesocket sock)
        udpClientLoop none next
      else if !(← ask (.bioSocketNbio sock)) then
        ask (.bioClosesocket sock)
        udpClientLoop none next
      else
        return (some sock, some ai)

/-- The size of the constructors' `errbuf`. -/
def errlen : Nat := 256

/-- What the address loop found, with a copy of the address for OpenSSL. -/
def udpClientPeer (host port : Bytes) : Option Fd × Option AddrInfo → Quic (ZendResult (Fd × BioAddr))
  | (some sock, some ai) => do
    match ← ask (.bioAddrDup ai.address) with
    | some peer => return .ok (sock, peer)
    | none =>
      ask (.bioClosesocket sock)
      return .error (snprintf errlen (text "out of memory duplicating peer address"))
  | _ => return .error (snprintf errlen
      (text "failed to create UDP socket to " ++ host ++ text ":" ++ port))

def phpQuicUdpClient (host port : Bytes) : Quic (ZendResult (Fd × BioAddr)) := do
  match ← ask (.bioLookupEx (some host) port false) with
  | none =>
    return .error (snprintf errlen (text "failed to resolve " ++ host ++ text ":" ++ port))
  | some res =>
    let result ← udpClientPeer host port (← udpClientLoop none res)
    ask .bioAddrinfoFree
    return result

/-- `SO_REUSEPORT`, where it is asked for. -/
def udpShareAddress (reusePort : Bool) (sock : Fd) : Quic Bool :=
  if reusePort then ask (.setReusePort sock) else return true

/-- The address loop of `php_quic_udp_server` (on a platform with `SO_REUSEPORT`). -/
def udpServerLoop (reusePort : Bool) :
    Option Fd → List AddrInfo → Quic (Option Fd × Option AddrInfo)
  | sock, [] => return (sock, none)
  | _, ai :: next => do
    match ← ask (.bioSocket ai.family) with
    | none => udpServerLoop reusePort none next
    | some sock =>
      -- Must be set before bind().
      if !(← udpShareAddress reusePort sock) then
        ask (.bioClosesocket sock)
        udpServerLoop reusePort none next
      else if !(← ask (.bioBind sock ai.address)) then
        ask (.bioClosesocket sock)
        udpServerLoop reusePort none next
      else if !(← ask (.bioSocketNbio sock)) then
        ask (.bioClosesocket sock)
        udpServerLoop reusePort none next
      else
        return (some sock, some ai)

def phpQuicUdpServer (host : Bytes) (port : Bytes) (reusePort : Bool) : Quic (ZendResult Fd) := do
  let host := if host = [] then none else some host
  let shown := host.getD (text "*")
  match ← ask (.bioLookupEx host port true) with
  | none =>
    return .error (snprintf errlen
      (text "failed to resolve bind address " ++ shown ++ text ":" ++ port))
  | some res =>
    let (sock, _) ← udpServerLoop reusePort none res
    ask .bioAddrinfoFree
    match sock with
    | some sock => return .ok sock
    | none => return .error (snprintf errlen
        (text "failed to bind UDP socket on " ++ shown ++ text ":" ++ port))

end PhpQuic
