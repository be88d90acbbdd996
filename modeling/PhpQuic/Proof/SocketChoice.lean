/-
**Which socket the UDP functions return, and what becomes of the others.**

The sockets of the process are kept by `network`: for each open descriptor the position of the
address it was created for and what was done with it, and the positions for which a socket was
created and closed. Which steps work for which address is fixed beforehand, in any way.

* `udpClientLoop_eq`, `udpServerLoop_eq`: both loops are first-fit searches.
* `clientAttempt_goes`, `serverAttempt_goes`: an attempt works exactly if all steps of its address
  do, and has closed what it created otherwise.
* `udp_firstFit`: the socket returned is the one of the first address whose steps all work. Without
  such an address, or without a copy of it for the client, there is an error text and no socket.
-/

import PhpQuic.Interact.Search
import PhpQuic.Source.Udp
import Mathlib.Logic.Function.Basic
import Mathlib.Data.List.Nodup

namespace PhpQuic

open Interact

/-! ### The sockets of the process -/

/-- Which of the steps for one address work. -/
structure AddressSteps where
  socket : Bool
  reusePort : Bool
  /-- `BIO_connect` or `BIO_bind`. -/
  attach : Bool
  nonBlocking : Bool
  deriving DecidableEq

/-- What the sockets meet: the result of the name lookup, the steps by position in it, and the
copies of addresses. -/
structure Network where
  resolved : Option (List AddrInfo)
  steps : Nat → AddressSteps
  copy : BioAddr → Option BioAddr

/-- An open socket: the position it was created for, and what was done with it. -/
structure UdpSocket where
  position : Nat
  family : Nat
  reusePort : Bool
  peer : Option BioAddr
  /-- With the `SO_REUSEPORT` of that moment. -/
  bound : Option (BioAddr × Bool)
  nonBlocking : Bool
  deriving DecidableEq

/-- A socket as `BIO_socket` makes it. -/
def UdpSocket.fresh (position family : Nat) : UdpSocket :=
  ⟨position, family, false, none, none, false⟩

structure Sockets where
  table : Fd → Option UdpSocket
  /-- How many sockets were asked for. -/
  tried : Nat
  /-- The positions for which a socket was created, and for which it was closed. -/
  created : List Nat
  closed : List Nat
  /-- Closes of descriptors that were not open. -/
  strays : Nat

namespace Sockets

/-- Before the first socket. -/
def start (table : Fd → Option UdpSocket) : Sockets := ⟨table, 0, [], [], 0⟩

/-- One more socket, or the failure to create it. -/
def opens (s : Sockets) (sock : Option Fd) (family : Nat) : Sockets :=
  match sock with
  | none => { s with tried := s.tried + 1 }
  | some sock => { s with
      table := Function.update s.table sock (some (.fresh s.tried family))
      tried := s.tried + 1
      created := s.created ++ [s.tried] }

/-- A step that worked. -/
def changes (s : Sockets) (sock : Fd) (change : UdpSocket → UdpSocket) (worked : Bool) : Sockets :=
  if worked then { s with table := Function.update s.table sock ((s.table sock).map change) } else s

def closes (s : Sockets) (sock : Fd) : Sockets :=
  match s.table sock with
  | none => { s with strays := s.strays + 1 }
  | some socket => { s with
      table := Function.update s.table sock none
      closed := s.closed ++ [socket.position] }

/-- Whether a step works is up to the address the socket was created for. -/
def answers (s : Sockets) (net : Network) (sock : Fd) (step : AddressSteps → Bool) : Bool :=
  ((s.table sock).map fun socket => step (net.steps socket.position)).getD false

end Sockets

/-- What a call may do to the sockets. -/
def network (net : Network) (s : Sockets) : (call : Call) → Answer call → Sockets → Prop
  | .bioLookupEx .., found, s' => found = net.resolved ∧ s' = s
  | .bioSocket family, sock, s' => (sock.isSome = (net.steps s.tried).socket) ∧
      (∀ opened, sock = some opened → s.table opened = none) ∧ s' = s.opens sock family
  | .setReusePort sock, worked, s' => worked = s.answers net sock AddressSteps.reusePort ∧
      s' = s.changes sock (fun socket => { socket with reusePort := true }) worked
  | .bioConnect sock address, worked, s' => worked = s.answers net sock AddressSteps.attach ∧
      s' = s.changes sock (fun socket => { socket with peer := some address }) worked
  | .bioBind sock address, worked, s' => worked = s.answers net sock AddressSteps.attach ∧
      s' = s.changes sock
        (fun socket => { socket with bound := some (address, socket.reusePort) }) worked
  | .bioSocketNbio sock, worked, s' => worked = s.answers net sock AddressSteps.nonBlocking ∧
      s' = s.changes sock (fun socket => { socket with nonBlocking := true }) worked
  | .bioClosesocket sock, _, s' => s' = s.closes sock
  | .bioAddrDup address, copied, s' => copied = net.copy address ∧ s' = s
  | _, _, s' => s' = s

/-! ### The loops as searches -/

/-- What `php_quic_udp_client` does for one address. -/
def clientAttempt (ai : AddrInfo) : Quic (Option Fd) := do
  match ← ask (.bioSocket ai.family) with
  | none => return none
  | some sock =>
    if !(← ask (.bioConnect sock ai.address)) then
      ask (.bioClosesocket sock)
      return none
    else if !(← ask (.bioSocketNbio sock)) then
      ask (.bioClosesocket sock)
      return none
    else
      return some sock

/-- What `php_quic_udp_server` does for one address. -/
def serverAttempt (reusePort : Bool) (ai : AddrInfo) : Quic (Option Fd) := do
  match ← ask (.bioSocket ai.family) with
  | none => return none
  | some sock =>
    if !(← udpShareAddress reusePort sock) then
      ask (.bioClosesocket sock)
      return none
    else if !(← ask (.bioBind sock ai.address)) then
      ask (.bioClosesocket sock)
      return none
    else if !(← ask (.bioSocketNbio sock)) then
      ask (.bioClosesocket sock)
      return none
    else
      return some sock

/-- `sock` and `ai` behind the loop. -/
def loopResult (found : Option (Fd × AddrInfo)) : Option Fd × Option AddrInfo :=
  (found.map Prod.fst, found.map Prod.snd)

theorem udpClientLoop_eq (res : List AddrInfo) :
    udpClientLoop none res = loopResult <$> firstFit clientAttempt res := by
  induction res with
  | nil => rfl
  | cons ai next ih =>
      refine congrArg (Program.ask _) (funext fun made => ?_)
      cases made with
      | none => exact ih
      | some sock =>
          refine congrArg (Program.ask _) (funext fun connected => ?_)
          cases connected with
          | false => exact congrArg (Program.ask _) (funext fun _ => ih)
          | true =>
              refine congrArg (Program.ask _) (funext fun nonBlocking => ?_)
              cases nonBlocking with
              | false => exact congrArg (Program.ask _) (funext fun _ => ih)
              | true => rfl

/-- What follows the sharing of the address may be compared step by step. -/
theorem shareAddress_congr {α β γ : Type} {reusePort : Bool} {sock : Fd} {p : Bool → Quic γ}
    {q : Bool → Quic α} {rest : α → Quic β} {last : β → Quic γ}
    (same : ∀ shared, p shared = (q shared >>= rest) >>= last) :
    udpShareAddress reusePort sock >>= p =
      ((udpShareAddress reusePort sock >>= q) >>= rest) >>= last := by
  rw [bind_assoc, bind_assoc]
  refine congrArg (udpShareAddress reusePort sock >>= ·) (funext fun shared => ?_)
  rw [same, bind_assoc]

theorem udpServerLoop_eq (reusePort : Bool) (res : List AddrInfo) :
    udpServerLoop reusePort none res = loopResult <$> firstFit (serverAttempt reusePort) res := by
  induction res with
  | nil => rfl
  | cons ai next ih =>
      refine congrArg (Program.ask _) (funext fun made => ?_)
      cases made with
      | none => exact ih
      | some sock =>
          refine shareAddress_congr fun shared => ?_
          cases shared with
          | false => exact congrArg (Program.ask _) (funext fun _ => ih)
          | true =>
              refine congrArg (Program.ask _) (funext fun bound => ?_)
              cases bound with
              | false => exact congrArg (Program.ask _) (funext fun _ => ih)
              | true =>
                  refine congrArg (Program.ask _) (funext fun nonBlocking => ?_)
                  cases nonBlocking with
                  | false => exact congrArg (Program.ask _) (funext fun _ => ih)
                  | true => rfl

/-! ### One attempt -/

section Attempt

variable {net : Network} {table : Fd → Option UdpSocket}

/-- The positions before `position` for which a socket can be created. -/
def socketsBefore (net : Network) (position : Nat) : List Nat :=
  (List.range position).filter fun earlier => (net.steps earlier).socket

theorem socketsBefore_succ (net : Network) (position : Nat) :
    socketsBefore net (position + 1) =
      socketsBefore net position ++ if (net.steps position).socket then [position] else [] := by
  rw [socketsBefore, List.range_succ, List.filter_append, List.filter_singleton,
    Bool.cond_eq_ite, socketsBefore]

/-- After failures at all positions before `position`: every socket created was closed, once. -/
def allClosed (net : Network) (table : Fd → Option UdpSocket) (position : Nat) : Sockets :=
  ⟨table, position, socketsBefore net position, socketsBefore net position, 0⟩

/-- The same with the socket of `position` open. -/
def oneOpen (net : Network) (table : Fd → Option UdpSocket) (position : Nat) (sock : Fd)
    (socket : UdpSocket) : Sockets :=
  ⟨Function.update table sock (some socket), position + 1, socketsBefore net position ++ [position],
    socketsBefore net position, 0⟩

theorem opens_none {position : Nat} (family : Nat) (refused : (net.steps position).socket = false) :
    (allClosed net table position).opens none family = allClosed net table (position + 1) := by
  simp [allClosed, Sockets.opens, socketsBefore_succ, refused]

theorem opens_some (position : Nat) (sock : Fd) (family : Nat) :
    (allClosed net table position).opens (some sock) family =
      oneOpen net table position sock (.fresh position family) := rfl

variable {position : Nat} {sock : Fd} {socket : UdpSocket}

theorem answers_oneOpen (own : socket.position = position) (step : AddressSteps → Bool) :
    (oneOpen net table position sock socket).answers net sock step =
      step (net.steps position) := by
  simp [Sockets.answers, oneOpen, own]

theorem changes_oneOpen (change : UdpSocket → UdpSocket) (worked : Bool) :
    (oneOpen net table position sock socket).changes sock change worked =
      oneOpen net table position sock (if worked then change socket else socket) := by
  cases worked <;> simp [Sockets.changes, oneOpen]

theorem closes_oneOpen (own : socket.position = position) (free : table sock = none)
    (created : (net.steps position).socket = true) :
    (oneOpen net table position sock socket).closes sock =
      allClosed net table (position + 1) := by
  simp [Sockets.closes, oneOpen, allClosed, socketsBefore_succ, own, created, free]

/-- Giving up closes the socket. -/
theorem gives_up {α : Type} {failure : α} (own : socket.position = position)
    (free : table sock = none) (created : (net.steps position).socket = true)
    {post : α → Sockets → Prop} (holds : post failure (allClosed net table (position + 1))) :
    Always (network net)
      (do
        ask (.bioClosesocket sock)
        return failure)
      post (oneOpen net table position sock socket) := by
  refine always_call_bind.mpr ?_
  rintro _ _ rfl
  rw [closes_oneOpen own free created]
  exact .pure holds

/-- A step of the attempt on the socket that is open. -/
theorem network_step {step : AddressSteps → Bool} {change : UdpSocket → UdpSocket} {worked : Bool}
    {s' : Sockets} (own : socket.position = position)
    (replied : worked = (oneOpen net table position sock socket).answers net sock step ∧
      s' = (oneOpen net table position sock socket).changes sock change worked) :
    worked = step (net.steps position) ∧
      s' = oneOpen net table position sock (if worked then change socket else socket) := by
  obtain ⟨rfl, rfl⟩ := replied
  exact ⟨answers_oneOpen own step, changes_oneOpen change _⟩

/-- All steps of the client for the address at that position work. -/
def Connects (net : Network) (position : Nat) : Prop :=
  (net.steps position).socket = true ∧ (net.steps position).attach = true ∧
    (net.steps position).nonBlocking = true

/-- The socket of the client for that address. -/
def connectedSocket (position : Nat) (ai : AddrInfo) : UdpSocket :=
  ⟨position, ai.family, false, some ai.address, none, true⟩

/-- All steps of the server for the address at that position work. -/
def Binds (net : Network) (reusePort : Bool) (position : Nat) : Prop :=
  (net.steps position).socket = true ∧ (reusePort = true → (net.steps position).reusePort = true) ∧
    (net.steps position).attach = true ∧ (net.steps position).nonBlocking = true

/-- The socket of the server for that address: bound with `SO_REUSEPORT`, where it was asked for. -/
def boundSocket (reusePort : Bool) (position : Nat) (ai : AddrInfo) : UdpSocket :=
  ⟨position, ai.family, reusePort, none, some (ai.address, reusePort), true⟩

/-- The attempt has ended with this socket as the only one open. -/
def Holds (net : Network) (table : Fd → Option UdpSocket) (socket : Nat → AddrInfo → UdpSocket)
    (position : Nat) (ai : AddrInfo) (sock : Fd) (s : Sockets) : Prop :=
  table sock = none ∧ s = oneOpen net table position sock (socket position ai)

/-- The attempts so far have left nothing open. -/
def Spent (net : Network) (table : Fd → Option UdpSocket) (position : Nat) (s : Sockets) : Prop :=
  s = allClosed net table position

theorem clientAttempt_goes (position : Nat) (ai : AddrInfo) (s : Sockets)
    (spent : Spent net table position s) :
    Always (network net) (clientAttempt ai) (Attempted (Connects net) (Spent net table)
      (Holds net table connectedSocket) position ai) s := by
  obtain rfl := spent
  refine always_call_bind.mpr ?_
  rintro made _ ⟨created, free, rfl⟩
  cases made with
  | none =>
      have missed : ¬ Connects net position := fun works => nomatch created.trans works.1
      refine .pure ⟨fun _ => ⟨missed, opens_none ai.family created.symm⟩, nofun⟩
  | some sock =>
      have socketMade : (net.steps position).socket = true := created.symm
      have unused : table sock = none := free sock rfl
      rw [opens_some]
      refine always_call_bind.mpr fun connected s₁ replied => ?_
      obtain ⟨attached, rfl⟩ := network_step rfl replied
      cases connected with
      | false =>
          have missed : ¬ Connects net position := fun works => nomatch attached.trans works.2.1
          exact gives_up rfl unused socketMade ⟨fun _ => ⟨missed, rfl⟩, nofun⟩
      | true =>
          refine always_call_bind.mpr fun nonBlocking s₂ replied => ?_
          obtain ⟨unblocked, rfl⟩ := network_step rfl replied
          cases nonBlocking with
          | false =>
              have missed : ¬ Connects net position := fun works => nomatch unblocked.trans works.2.2
              exact gives_up rfl unused socketMade ⟨fun _ => ⟨missed, rfl⟩, nofun⟩
          | true =>
              refine .pure ⟨nofun, ?_⟩
              rintro _ ⟨rfl⟩
              exact ⟨⟨socketMade, attached.symm, unblocked.symm⟩, unused, rfl⟩

/-- `SO_REUSEPORT` is set on the new socket exactly when it is asked for and works. -/
theorem shareAddress_goes (reusePort : Bool) {family : Nat} :
    Always (network net) (udpShareAddress reusePort sock)
      (fun shared s' => (shared = true ↔ (reusePort = true → (net.steps position).reusePort = true)) ∧
        s' = oneOpen net table position sock
          { UdpSocket.fresh position family with reusePort := reusePort && shared })
      (oneOpen net table position sock (.fresh position family)) := by
  cases reusePort with
  | false => exact .pure ⟨iff_of_true rfl nofun, rfl⟩
  | true =>
      refine always_call.mpr fun shared s' replied => ?_
      obtain ⟨sharing, rfl⟩ := network_step rfl replied
      refine ⟨⟨fun works _ => sharing.symm.trans works, fun works => sharing.trans (works rfl)⟩, ?_⟩
      cases shared <;> rfl

theorem serverAttempt_goes (reusePort : Bool) (position : Nat) (ai : AddrInfo) (s : Sockets)
    (spent : Spent net table position s) :
    Always (network net) (serverAttempt reusePort ai) (Attempted (Binds net reusePort)
      (Spent net table) (Holds net table (boundSocket reusePort)) position ai) s := by
  obtain rfl := spent
  refine always_call_bind.mpr ?_
  rintro made _ ⟨created, free, rfl⟩
  cases made with
  | none =>
      have missed : ¬ Binds net reusePort position := fun works => nomatch created.trans works.1
      refine .pure ⟨fun _ => ⟨missed, opens_none ai.family created.symm⟩, nofun⟩
  | some sock =>
      have socketMade : (net.steps position).socket = true := created.symm
      have unused : table sock = none := free sock rfl
      rw [opens_some]
      refine .bind (shareAddress_goes reusePort) fun shared s₁ ⟨sharing, kept⟩ => ?_
      obtain rfl := kept
      cases shared with
      | false =>
          have missed : ¬ Binds net reusePort position := fun works =>
            nomatch sharing.mpr works.2.1
          exact gives_up rfl unused socketMade ⟨fun _ => ⟨missed, rfl⟩, nofun⟩
      | true =>
          rw [Bool.and_true]
          refine always_call_bind.mpr fun bound s₂ replied => ?_
          obtain ⟨attached, rfl⟩ := network_step rfl replied
          cases bound with
          | false =>
              have missed : ¬ Binds net reusePort position := fun works =>
                nomatch attached.trans works.2.2.1
              exact gives_up rfl unused socketMade ⟨fun _ => ⟨missed, rfl⟩, nofun⟩
          | true =>
              refine always_call_bind.mpr fun nonBlocking s₃ replied => ?_
              obtain ⟨unblocked, rfl⟩ := network_step rfl replied
              cases nonBlocking with
              | false =>
                  have missed : ¬ Binds net reusePort position := fun works =>
                    nomatch unblocked.trans works.2.2.2
                  exact gives_up rfl unused socketMade ⟨fun _ => ⟨missed, rfl⟩, nofun⟩
              | true =>
                  refine .pure ⟨nofun, ?_⟩
                  rintro _ ⟨rfl⟩
                  exact ⟨⟨socketMade, sharing.mp rfl, attached.symm, unblocked.symm⟩, unused, rfl⟩

end Attempt

/-! ### What the functions return -/

theorem snprintf_ne_nil {formatted : Bytes} (given : formatted ≠ []) :
    snprintf errlen formatted ≠ [] := by
  rw [snprintf, errlen, ne_eq, List.take_eq_nil_iff]
  rintro (zero | empty)
  · cases zero
  · exact given empty

section Functions

variable (net : Network) (table : Fd → Option UdpSocket)

/-- How `php_quic_udp_client` ends, and the sockets it leaves. -/
inductive ClientEnd : ZendResult (Fd × BioAddr) → Sockets → Prop
  | unresolved {errbuf : Bytes} (lookup : net.resolved = none) (filled : errbuf ≠ []) :
      ClientEnd (.error errbuf) (allClosed net table 0)
  | connected {res : List AddrInfo} {position : Nat} {ai : AddrInfo} {sock : Fd} {peer : BioAddr}
      (lookup : net.resolved = some res) (first : FirstFit (Connects net) res position ai)
      (unused : table sock = none) (copied : net.copy ai.address = some peer) :
      ClientEnd (.ok (sock, peer))
        (oneOpen net table position sock (connectedSocket position ai))
  | uncopied {res : List AddrInfo} {position : Nat} {ai : AddrInfo} {errbuf : Bytes}
      (lookup : net.resolved = some res) (first : FirstFit (Connects net) res position ai)
      (failed : net.copy ai.address = none) (filled : errbuf ≠ []) :
      ClientEnd (.error errbuf) (allClosed net table (position + 1))
  | exhausted {res : List AddrInfo} {errbuf : Bytes} (lookup : net.resolved = some res)
      (without : ∀ position, position < res.length → ¬ Connects net position)
      (filled : errbuf ≠ []) : ClientEnd (.error errbuf) (allClosed net table res.length)

/-- How `php_quic_udp_server` ends, and the sockets it leaves. -/
inductive ServerEnd (reusePort : Bool) : ZendResult Fd → Sockets → Prop
  | unresolved {errbuf : Bytes} (lookup : net.resolved = none) (filled : errbuf ≠ []) :
      ServerEnd reusePort (.error errbuf) (allClosed net table 0)
  | bound {res : List AddrInfo} {position : Nat} {ai : AddrInfo} {sock : Fd}
      (lookup : net.resolved = some res) (first : FirstFit (Binds net reusePort) res position ai)
      (unused : table sock = none) :
      ServerEnd reusePort (.ok sock)
        (oneOpen net table position sock (boundSocket reusePort position ai))
  | exhausted {res : List AddrInfo} {errbuf : Bytes} (lookup : net.resolved = some res)
      (without : ∀ position, position < res.length → ¬ Binds net reusePort position)
      (filled : errbuf ≠ []) :
      ServerEnd reusePort (.error errbuf) (allClosed net table res.length)

variable {net table}

/-- A search leaves the loop with what it found. -/
theorem always_loop {loop : List AddrInfo → Quic (Option Fd × Option AddrInfo)}
    {attempt : AddrInfo → Quic (Option Fd)} {works : Nat → Prop}
    {socket : Nat → AddrInfo → UdpSocket}
    (searches : ∀ res, loop res = loopResult <$> firstFit attempt res)
    (goes : ∀ position ai s, Spent net table position s → Always (network net) (attempt ai)
      (Attempted works (Spent net table) (Holds net table socket) position ai) s)
    (res : List AddrInfo) :
    Always (network net) (loop res) (fun ended s => ∃ found, ended = loopResult found ∧
      Searched works (Spent net table) (Holds net table socket) res found s) (.start table) := by
  rw [searches, ← bind_pure_comp]
  exact .bind (always_firstFit goes res rfl) fun found s searched => .pure ⟨found, rfl, searched⟩

theorem phpQuicUdpClient_ends (host port : Bytes) :
    Always (network net) (phpQuicUdpClient host port) (ClientEnd net table) (.start table) := by
  refine always_call_bind.mpr ?_
  rintro found _ ⟨looked, rfl⟩
  cases found with
  | none => exact .pure (.unresolved looked.symm (snprintf_ne_nil (List.cons_ne_nil _ _)))
  | some res =>
      refine .bind (always_loop udpClientLoop_eq clientAttempt_goes res) ?_
      rintro _ s ⟨found, rfl, searched⟩
      cases searched with
      | exhausted without ended =>
          obtain rfl := ended
          refine always_call_bind.mpr ?_
          rintro _ _ rfl
          exact .pure (.exhausted looked.symm without (snprintf_ne_nil (List.cons_ne_nil _ _)))
      | found first taken =>
          obtain ⟨unused, rfl⟩ := taken
          refine always_bind.mpr (always_call_bind.mpr ?_)
          rintro copied _ ⟨same, rfl⟩
          cases copied with
          | none =>
              refine gives_up rfl unused first.here.1 (always_call_bind.mpr ?_)
              rintro _ _ rfl
              exact .pure (.uncopied looked.symm first same.symm
                (snprintf_ne_nil (List.cons_ne_nil _ _)))
          | some peer =>
              refine .pure (always_call_bind.mpr ?_)
              rintro _ _ rfl
              exact .pure (.connected looked.symm first unused same.symm)

theorem phpQuicUdpServer_ends (host port : Bytes) (reusePort : Bool) :
    Always (network net) (phpQuicUdpServer host port reusePort) (ServerEnd net table reusePort)
      (.start table) := by
  refine always_call_bind.mpr ?_
  rintro found _ ⟨looked, rfl⟩
  cases found with
  | none => exact .pure (.unresolved looked.symm (snprintf_ne_nil (List.cons_ne_nil _ _)))
  | some res =>
      refine .bind (always_loop (udpServerLoop_eq reusePort) (serverAttempt_goes reusePort) res) ?_
      rintro _ s ⟨found, rfl, searched⟩
      refine always_call_bind.mpr ?_
      rintro _ _ rfl
      cases searched with
      | exhausted without ended =>
          obtain rfl := ended
          exact .pure (.exhausted looked.symm without (snprintf_ne_nil (List.cons_ne_nil _ _)))
      | found first taken =>
          obtain ⟨unused, rfl⟩ := taken
          exact .pure (.bound looked.symm first unused)

/-- **First fit, and nothing leaks**, for both functions. -/
theorem udp_firstFit (net : Network) (table : Fd → Option UdpSocket) (host port : Bytes)
    (reusePort : Bool) :
    Always (network net) (phpQuicUdpClient host port) (ClientEnd net table) (.start table) ∧
      Always (network net) (phpQuicUdpServer host port reusePort)
        (ServerEnd net table reusePort) (.start table) :=
  ⟨phpQuicUdpClient_ends host port, phpQuicUdpServer_ends host port reusePort⟩

end Functions

/-- Two addresses, of which only the second can be connected to. -/
def secondOnly : Network where
  resolved := some [⟨10, 1⟩, ⟨2, 2⟩]
  steps position := ⟨true, true, position ≠ 0, true⟩
  copy address := some (address + 10)

/-- The client gets a socket to the second, on the descriptor the first had. -/
example : ∃ s, Run (network secondOnly) (phpQuicUdpClient (text "host") (text "443"))
    (.start fun _ => none) (.ok (3, 12)) s ∧ s.created = [0, 1] ∧ s.closed = [0] := by
  refine ⟨_, .ask (show network _ _ _ (some _) _ from ⟨rfl, rfl⟩) <|
    .ask (show network _ _ _ (some 3) _ from ⟨rfl, fun _ _ => rfl, rfl⟩) <|
    .ask (show network _ _ _ false _ from ⟨rfl, rfl⟩) <|
    .ask (show network _ _ _ () _ from rfl) <|
    .ask (show network _ _ _ (some 3) _ from ⟨rfl, ?_, rfl⟩) <|
    .ask (show network _ _ _ true _ from ⟨rfl, rfl⟩) <|
    .ask (show network _ _ _ true _ from ⟨rfl, rfl⟩) <|
    .ask (show network _ _ _ (some 12) _ from ⟨rfl, rfl⟩) <|
    .ask (show network _ _ _ () _ from rfl) (.done _ _), rfl, rfl⟩
  rintro _ ⟨rfl⟩
  rfl

end PhpQuic
