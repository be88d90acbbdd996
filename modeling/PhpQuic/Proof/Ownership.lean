/-
**The resources behind the objects: descriptors, SSL objects, callback data, reference counts.**

`Heap` keeps what the process has open and what the extension and OpenSSL remember of it, and
`owning` says what a call may do to it. An accepted connection keeps the BIO and the context of the
listener it came from; a stream keeps those of its connection.

* `Heap.Spares`: nothing that was in use has been released or changed.
* `construct_listens`, `construct_connects`: a constructor spares everything in use, and if it
  returns, the object holds resources nobody else holds.
* `accept_joins`, `openStream_joins`, `acceptStream_joins`, `construct_joins`: an object that shares
  the resources of another one, with the reference it takes on it.
* `listenerRelease_releases`, `freeObject_releases`: the releases.
-/

import Mathlib.Logic.Function.Basic
import PhpQuic.Interact.Transition
import PhpQuic.Openssl.Environment
import PhpQuic.Proof.Calls

namespace PhpQuic

open Interact

/-! ### The resources -/

/-- An SSL object: the descriptor in its datagram BIO, with the socket it stood for when the BIO was
made, and the context. -/
structure Engine where
  bio : Option (Fd × Nat)
  ctx : SslCtx
  deriving DecidableEq

/-- The resources of the process. -/
structure Heap where
  /-- What each open descriptor stands for. -/
  table : Fd → Option Nat
  nextSocket : Nat
  bios : Bio → Option (Fd × Nat)
  engine : Ssl → Option Engine
  /-- The argument of the ALPN callback of a context. -/
  alpnArg : SslCtx → Option Nat
  /-- The blocks that were allocated and not freed. -/
  allocated : Nat → Bool
  object : ObjectId → Option QuicObject
  /-- Objects are numbered in order. -/
  bound : ObjectId
  refcount : ObjectId → Nat
  /-- How many references the script holds, and how many open php_streams. -/
  user : ObjectId → Nat
  adapters : ObjectId → Nat

/-- The SSL handle an object holds. -/
def QuicObject.ssl : QuicObject → Option Ssl
  | .connection obj => obj.ssl
  | .listener obj => obj.ssl
  | .stream obj => obj.ssl
  | .foreign => none

/-- The descriptor an object closes when it is released. -/
def QuicObject.ownFd : QuicObject → Option Fd
  | .connection obj => if obj.ownsFd then obj.fd else none
  | .listener obj => obj.fd
  | _ => none

/-- The callback data an object frees when it is released. -/
def QuicObject.ownAlpn : QuicObject → Option Nat
  | .listener obj => obj.alpnCbArg.map QuicAlpnData.id
  | _ => none

/-- The object an object holds a reference on. -/
def QuicObject.parent : QuicObject → Option ObjectId
  | .connection obj => obj.listener
  | .stream obj => obj.connection
  | _ => none

namespace Heap

/-- No SSL object has this context. -/
def CtxUnused (s : Heap) (ctx : SslCtx) : Prop :=
  ∀ ssl engine, s.engine ssl = some engine → engine.ctx ≠ ctx

def setEngine (s : Heap) (ssl : Ssl) (engine : Option Engine) : Heap :=
  { s with engine := Function.update s.engine ssl engine }

def setAlpnArg (s : Heap) (ctx : SslCtx) (arg : Option Nat) : Heap :=
  { s with alpnArg := Function.update s.alpnArg ctx arg }

def setAllocated (s : Heap) (id : Nat) (value : Bool) : Heap :=
  { s with allocated := Function.update s.allocated id value }

def closeFd (s : Heap) (fd : Fd) : Heap := { s with table := Function.update s.table fd none }

/-- A BIO on a descriptor, for the socket the descriptor stands for now. -/
def makeBio (s : Heap) (bio : Bio) (fd : Fd) : Heap :=
  { s with bios := Function.update s.bios bio ((s.table fd).map fun socket => (fd, socket)) }

/-- A BIO is given to an SSL object. -/
def setBio (s : Heap) (ssl : Ssl) (bio : Bio) : Heap :=
  s.setEngine ssl ((s.engine ssl).map fun engine => { engine with bio := s.bios bio })

/-- The operating system gives out a descriptor that is not open, for something new. -/
def openFd (s : Heap) (fd : Fd) : Heap :=
  { s with
    table := Function.update s.table fd (some s.nextSocket)
    nextSocket := s.nextSocket + 1 }

def addref (s : Heap) (object : ObjectId) : Heap :=
  { s with refcount := Function.update s.refcount object (s.refcount object + 1) }

def delref (s : Heap) (object : ObjectId) : Heap :=
  { s with refcount := Function.update s.refcount object (s.refcount object - 1) }

end Heap

/-- What a call may do. A new handle is one that is not in use. -/
def owning (s : Heap) : (call : Call) → Answer call → Heap → Prop
  | .bioSocket _, some fd, s' => s.table fd = none ∧ s' = s.openFd fd
  | .bioClosesocket fd, _, s' => s' = s.closeFd fd
  | .bioNewDgram fd, some bio, s' => s' = s.makeBio bio fd
  | .sslSetBio ssl bio, _, s' => s' = s.setBio ssl bio
  | .sslCtxNew _, some ctx, s' => s.CtxUnused ctx ∧ s' = s.setAlpnArg ctx none
  | .sslCtxSetAlpnSelectCb ctx data, _, s' => s' = s.setAlpnArg ctx (some data.id)
  | .emalloc, id, s' => s.allocated id = false ∧ s' = s.setAllocated id true
  | .efree id, _, s' => s' = s.setAllocated id false
  | .sslNew ctx, some ssl, s' => s.engine ssl = none ∧ s' = s.setEngine ssl (some ⟨none, ctx⟩)
  | .sslNewListener ctx, some ssl, s' =>
    s.engine ssl = none ∧ s' = s.setEngine ssl (some ⟨none, ctx⟩)
  | .sslAcceptConnection listener, some ssl, s' =>
    s.engine ssl = none ∧ s' = s.setEngine ssl (s.engine listener)
  | .sslNewStream connection _, some ssl, s' =>
    s.engine ssl = none ∧ s' = s.setEngine ssl (s.engine connection)
  | .sslAcceptStream connection, some ssl, s' =>
    s.engine ssl = none ∧ s' = s.setEngine ssl (s.engine connection)
  | .sslFree ssl, _, s' => s' = s.setEngine ssl none
  | .gcAddref object, _, s' => s' = s.addref object
  | .gcDelref object, _, s' => s' = s.delref object
  | .objRelease object, _, s' => s' = s.delref object
  | .phpStreamAlloc object, some _, s' => s' = { s with
      adapters := Function.update s.adapters object (s.adapters object + 1) }
  | .loadObject object, answer, s' => answer = (s.object object).getD .foreign ∧ s' = s
  | _, _, s' => s' = s

/-! ### Nothing in use is touched -/

/-- **What was in use is still there, as it was**, and no object or reference has changed. -/
structure Heap.Spares (s s' : Heap) : Prop where
  table : ∀ fd socket, s.table fd = some socket → s'.table fd = some socket
  engine : ∀ ssl engine, s.engine ssl = some engine → s'.engine ssl = some engine
  alpnArg : ∀ ssl engine, s.engine ssl = some engine → s'.alpnArg engine.ctx = s.alpnArg engine.ctx
  allocated : ∀ id, s.allocated id = true → s'.allocated id = true
  object : s'.object = s.object
  bound : s'.bound = s.bound
  refcount : s'.refcount = s.refcount
  user : s'.user = s.user
  adapters : s'.adapters = s.adapters

namespace Heap.Spares

variable {s s₁ s₂ : Heap}

theorem refl (s : Heap) : s.Spares s :=
  ⟨fun _ _ => id, fun _ _ => id, fun _ _ _ => rfl, fun _ => id, rfl, rfl, rfl, rfl, rfl⟩

theorem table_none (spares : s.Spares s₁) {fd : Fd} (closed : s₁.table fd = none) :
    s.table fd = none := by
  by_contra opened
  obtain ⟨socket, here⟩ := Option.ne_none_iff_exists'.mp opened
  rw [spares.table fd socket here] at closed
  cases closed

/-- What is free afterwards was free before. -/
theorem engine_none (spares : s.Spares s₁) {ssl : Ssl} (unused : s₁.engine ssl = none) :
    s.engine ssl = none := by
  by_contra used
  obtain ⟨engine, here⟩ := Option.ne_none_iff_exists'.mp used
  rw [spares.engine ssl engine here] at unused
  cases unused

theorem not_allocated (spares : s.Spares s₁) {id : Nat} (free : s₁.allocated id = false) :
    s.allocated id = false := by
  by_contra held
  have here : s.allocated id = true := by simpa using held
  rw [spares.allocated id here] at free
  cases free

/-- A context that no SSL object uses afterwards was used by none before. -/
theorem ctxUnused (spares : s.Spares s₁) {ctx : SslCtx} (unused : s₁.CtxUnused ctx) :
    s.CtxUnused ctx :=
  fun ssl engine here => unused ssl engine (spares.engine ssl engine here)

theorem openFd (spares : s.Spares s₁) {fd : Fd} (closed : s₁.table fd = none) :
    s.Spares (s₁.openFd fd) := by
  refine { spares with table := fun other socket here => ?_ }
  have different : other ≠ fd := by
    rintro rfl
    rw [spares.table_none closed] at here
    cases here
  show Function.update s₁.table fd _ other = _
  rw [Function.update_of_ne different]
  exact spares.table other socket here

/-- A descriptor that was not open at the start may be closed again. -/
theorem closeFd (spares : s.Spares s₁) {fd : Fd} (new : s.table fd = none) :
    s.Spares (s₁.closeFd fd) := by
  refine { spares with table := fun other socket here => ?_ }
  have different : other ≠ fd := by
    rintro rfl
    rw [new] at here
    cases here
  show Function.update s₁.table fd _ other = _
  rw [Function.update_of_ne different]
  exact spares.table other socket here

/-- So may an SSL object that was not there be made, changed and freed, -/
theorem setEngine (spares : s.Spares s₁) {ssl : Ssl} (new : s.engine ssl = none)
    (engine : Option Engine) : s.Spares (s₁.setEngine ssl engine) := by
  refine { spares with engine := fun other held here => ?_ }
  have different : other ≠ ssl := by
    rintro rfl
    rw [new] at here
    cases here
  show Function.update s₁.engine ssl _ other = _
  rw [Function.update_of_ne different]
  exact spares.engine other held here

theorem makeBio (spares : s.Spares s₁) (bio : Bio) (fd : Fd) : s.Spares (s₁.makeBio bio fd) :=
  { spares with }

theorem setBio (spares : s.Spares s₁) {ssl : Ssl} (new : s.engine ssl = none) (bio : Bio) :
    s.Spares (s₁.setBio ssl bio) :=
  spares.setEngine new _

theorem setAlpnArg (spares : s.Spares s₁) {ctx : SslCtx} (unused : s.CtxUnused ctx)
    (arg : Option Nat) : s.Spares (s₁.setAlpnArg ctx arg) := by
  refine { spares with alpnArg := fun ssl engine here => ?_ }
  show Function.update s₁.alpnArg ctx _ engine.ctx = _
  rw [Function.update_of_ne (unused ssl engine here)]
  exact spares.alpnArg ssl engine here

/-- and a callback block. -/
theorem setAllocated (spares : s.Spares s₁) {id : Nat} (free : s.allocated id = false)
    (value : Bool) : s.Spares (s₁.setAllocated id value) := by
  refine { spares with allocated := fun other held => ?_ }
  have different : other ≠ id := by
    rintro rfl
    rw [free] at held
    cases held
  show Function.update s₁.allocated id _ other = _
  rw [Function.update_of_ne different]
  exact spares.allocated other held

end Heap.Spares

/-- The calls that spare what is in use in `s`: what they release or change is not. -/
def Call.SparedBy (s : Heap) : Call → Prop
  | .bioClosesocket fd => s.table fd = none
  | .sslFree ssl | .sslSetBio ssl _ => s.engine ssl = none
  | .efree id => s.allocated id = false
  | .sslCtxSetAlpnSelectCb ctx _ => s.CtxUnused ctx
  | .gcAddref _ | .gcDelref _ | .objRelease _ | .phpStreamAlloc _ => False
  | _ => True

/-- **One call.** -/
theorem Heap.Spares.call {s s₁ s₂ : Heap} (spares : s.Spares s₁) {call : Call}
    {answer : Answer call} (here : call.SparedBy s) (replied : owning s₁ call answer s₂) :
    s.Spares s₂ := by
  cases call with
  | bioSocket family =>
      cases answer with
      | none =>
          obtain rfl : s₂ = s₁ := replied
          exact spares
      | some fd =>
          obtain ⟨closed, rfl⟩ := replied
          exact spares.openFd closed
  | bioClosesocket fd =>
      obtain rfl : s₂ = _ := replied
      exact spares.closeFd here
  | bioNewDgram fd =>
      cases answer with
      | none =>
          obtain rfl : s₂ = s₁ := replied
          exact spares
      | some bio =>
          obtain rfl : s₂ = _ := replied
          exact spares.makeBio bio fd
  | sslSetBio ssl bio =>
      obtain rfl : s₂ = _ := replied
      exact spares.setBio here bio
  | sslCtxNew server =>
      cases answer with
      | none =>
          obtain rfl : s₂ = s₁ := replied
          exact spares
      | some ctx =>
          obtain ⟨unused, rfl⟩ := replied
          exact spares.setAlpnArg (spares.ctxUnused unused) none
  | sslCtxSetAlpnSelectCb ctx data =>
      obtain rfl : s₂ = _ := replied
      exact spares.setAlpnArg here _
  | emalloc =>
      obtain ⟨free, rfl⟩ := replied
      exact spares.setAllocated (spares.not_allocated free) true
  | efree id =>
      obtain rfl : s₂ = _ := replied
      exact spares.setAllocated here false
  | sslNew | sslNewListener | sslAcceptConnection | sslNewStream | sslAcceptStream =>
      cases answer with
      | none =>
          obtain rfl : s₂ = s₁ := replied
          exact spares
      | some ssl =>
          obtain ⟨unused, rfl⟩ := replied
          exact spares.setEngine (spares.engine_none unused) _
  | sslFree ssl =>
      obtain rfl : s₂ = _ := replied
      exact spares.setEngine here none
  | loadObject object =>
      obtain ⟨_, rfl⟩ := replied
      exact spares
  | gcAddref | gcDelref | objRelease | phpStreamAlloc => exact here.elim
  | _ =>
      obtain rfl : s₂ = s₁ := replied
      exact spares

/-- **A whole program** of such calls. -/
theorem Heap.Spares.always {s s₁ : Heap} (spares : s.Spares s₁) {α : Type} {p : Quic α}
    (only : Only (Call.SparedBy s) p) : Always owning p (fun _ s' => s.Spares s') s₁ := by
  intro value s' run
  induction run with
  | done => exact spares
  | ask replied _ ih =>
      cases only with
      | ask here rest => exact ih (spares.call here replied) (rest _)

/-! ### Calls that do not touch the resources -/

def Call.IsInert : Call → Prop
  | .bioSocket _ | .bioClosesocket _ | .bioNewDgram _ | .sslSetBio .. | .sslCtxNew _
  | .sslCtxSetAlpnSelectCb .. | .emalloc | .efree _ | .sslNew _ | .sslNewListener _
  | .sslAcceptConnection _ | .sslNewStream .. | .sslAcceptStream _ | .sslFree _ | .gcAddref _
  | .gcDelref _ | .objRelease _ | .phpStreamAlloc _ => False
  | _ => True

/-- **An inert call leaves the heap as it is.** -/
theorem owning_inert {s s' : Heap} {call : Call} {answer : Answer call} (inert : call.IsInert)
    (replied : owning s call answer s') : s' = s := by
  cases call with
  | loadObject => exact replied.2
  | _ => first | exact inert.elim | exact replied

/-- Settings, encodings, exceptions, handshakes and pinning are inert: they make and free nothing
that the heap keeps. -/
theorem Call.isInert_of_context (call : Call) (here : call.IsContext) : call.IsInert := by
  cases call <;> first | exact trivial | exact here.elim

theorem Call.isInert_of_encoding (call : Call) (here : call.IsEncoding) : call.IsInert := by
  cases call <;> first | exact trivial | exact here.elim

theorem Call.isInert_of_throw (call : Call) (here : call.IsThrow) : call.IsInert := by
  cases call <;> first | exact trivial | exact here.elim

theorem Call.isInert_of_handshake {ssl : Ssl} (call : Call) (here : call.IsHandshake ssl) :
    call.IsInert := by
  cases call <;> first | exact trivial | exact here.elim

theorem Call.isInert_of_certificate (call : Call) (here : call.IsCertificate) :
    call.IsInert := by
  cases call <;> first | exact trivial | exact here.elim

/-- So they spare whatever was there. -/
theorem Call.sparedBy_of_inert {s : Heap} (call : Call) (here : call.IsInert) :
    call.SparedBy s := by
  cases call <;> first | exact trivial | exact here.elim

/-- A part that does not touch the resources can be skipped. -/
theorem skipInert {α β : Type} {p : Quic α} {rest : α → Quic β} {post : β → Heap → Prop}
    {s : Heap} (inert : Only Call.IsInert p)
    (second : ∀ value, Always owning (rest value) post s) : Always owning (p >>= rest) post s :=
  .skip inert (fun _ _ _ _ => owning_inert) second

theorem throwSsl_inert (format : Bytes) : Only Call.IsInert (phpQuicThrowSsl format) :=
  (phpQuicThrowSsl_calls format).mono Call.isInert_of_throw

/-! ### Sockets -/

/-- A descriptor that was not open before, and is now. -/
def Heap.Opened (s s' : Heap) (fd : Fd) : Prop :=
  s.table fd = none ∧ ∃ socket, s'.table fd = some socket

theorem Heap.Opened.openFd {s s₁ : Heap} (spares : s.Spares s₁) {fd : Fd}
    (closed : s₁.table fd = none) : s.Opened (s₁.openFd fd) fd :=
  ⟨spares.table_none closed, s₁.nextSocket, Function.update_self _ _ _⟩

/-- The client's address loop closes what it does not return. -/
theorem udpClientLoop_opens (res : List AddrInfo) {s s₁ : Heap} (spares : s.Spares s₁) :
    Always owning (udpClientLoop none res)
      (fun found s' => s.Spares s' ∧ ∀ fd, found.1 = some fd → s.Opened s' fd) s₁ := by
  induction res generalizing s₁ with
  | nil => exact .pure ⟨spares, nofun⟩
  | cons ai next ih =>
      refine always_call_bind.mpr fun made s₂ replied => ?_
      cases made with
      | none =>
          obtain rfl : s₂ = s₁ := replied
          exact ih spares
      | some sock =>
          obtain ⟨closed, rfl⟩ := replied
          have opened := Heap.Opened.openFd spares closed
          have spares := spares.openFd closed
          have retry : Always owning (do
              ask (.bioClosesocket sock)
              udpClientLoop none next)
              (fun found s' => s.Spares s' ∧ ∀ fd, found.1 = some fd → s.Opened s' fd)
              (s₁.openFd sock) := by
            refine always_call_bind.mpr fun _ s₃ released => ?_
            obtain rfl : s₃ = _ := released
            exact ih (spares.closeFd opened.1)
          refine skipInert (.call trivial) fun _ => .ite (fun _ => retry) fun _ => ?_
          refine skipInert (.call trivial) fun _ => .ite (fun _ => retry) fun _ => .pure ?_
          exact ⟨spares, fun fd same => Option.some.inj same ▸ opened⟩

/-- Without a copy of the address the socket is closed again, and nothing is open. -/
theorem udpClientPeer_opens (host port : Bytes) {found : Option Fd × Option AddrInfo}
    {s s₁ : Heap} (spares : s.Spares s₁) (opened : ∀ fd, found.1 = some fd → s.Opened s₁ fd) :
    Always owning (udpClientPeer host port found)
      (fun result s' => s.Spares s' ∧ ∀ fd peer, result = .ok (fd, peer) → s.Opened s' fd) s₁ := by
  rcases found with ⟨_ | sock, _ | ai⟩
  · exact .pure ⟨spares, nofun⟩
  · exact .pure ⟨spares, nofun⟩
  · exact .pure ⟨spares, nofun⟩
  · refine skipInert (.call trivial) fun copied => ?_
    cases copied with
    | none =>
        refine always_call_bind.mpr fun _ s₂ released => .pure ⟨?_, nofun⟩
        obtain rfl : s₂ = _ := released
        exact spares.closeFd (opened sock rfl).1
    | some peer =>
        refine .pure ⟨spares, ?_⟩
        rintro fd _ same
        obtain ⟨rfl, _⟩ := Prod.mk.inj (Except.ok.inj same)
        exact opened sock rfl

/-- **The client's lookup opens one socket or none.** -/
theorem phpQuicUdpClient_opens (host port : Bytes) (s : Heap) :
    Always owning (phpQuicUdpClient host port)
      (fun result s' => s.Spares s' ∧ ∀ fd peer, result = .ok (fd, peer) → s.Opened s' fd) s := by
  refine skipInert (.call trivial) fun found => ?_
  cases found with
  | none => exact .pure ⟨.refl s, nofun⟩
  | some res =>
      refine .bind (udpClientLoop_opens res (.refl s)) fun ended s₁ ⟨spares, opened⟩ => ?_
      refine .bind (udpClientPeer_opens host port spares opened) fun result s₂ found => ?_
      exact skipInert (.call trivial) fun _ => .pure found

/-- The server's address loop closes what it does not return. -/
theorem udpServerLoop_opens (reusePort : Bool) (res : List AddrInfo) {s s₁ : Heap}
    (spares : s.Spares s₁) :
    Always owning (udpServerLoop reusePort none res)
      (fun found s' => s.Spares s' ∧ ∀ fd, found.1 = some fd → s.Opened s' fd) s₁ := by
  induction res generalizing s₁ with
  | nil => exact .pure ⟨spares, nofun⟩
  | cons ai next ih =>
      refine always_call_bind.mpr fun made s₂ replied => ?_
      cases made with
      | none =>
          obtain rfl : s₂ = s₁ := replied
          exact ih spares
      | some sock =>
          obtain ⟨closed, rfl⟩ := replied
          have opened := Heap.Opened.openFd spares closed
          have spares := spares.openFd closed
          have retry : Always owning (do
              ask (.bioClosesocket sock)
              udpServerLoop reusePort none next)
              (fun found s' => s.Spares s' ∧ ∀ fd, found.1 = some fd → s.Opened s' fd)
              (s₁.openFd sock) := by
            refine always_call_bind.mpr fun _ s₃ released => ?_
            obtain rfl : s₃ = _ := released
            exact ih (spares.closeFd opened.1)
          have shares : Only Call.IsInert (udpShareAddress reusePort sock) :=
            .ite (.call trivial) (.pure _)
          refine skipInert shares fun _ => .ite (fun _ => retry) fun _ => ?_
          refine skipInert (.call trivial) fun _ => .ite (fun _ => retry) fun _ => ?_
          refine skipInert (.call trivial) fun _ => .ite (fun _ => retry) fun _ => .pure ?_
          exact ⟨spares, fun fd same => Option.some.inj same ▸ opened⟩

/-- **So does the server's.** -/
theorem phpQuicUdpServer_opens (host port : Bytes) (reusePort : Bool) (s : Heap) :
    Always owning (phpQuicUdpServer host port reusePort)
      (fun result s' => s.Spares s' ∧ ∀ fd, result = .ok fd → s.Opened s' fd) s := by
  refine skipInert (.call trivial) fun found => ?_
  cases found with
  | none => exact .pure ⟨.refl s, nofun⟩
  | some res =>
      refine .bind (udpServerLoop_opens reusePort res (.refl s)) ?_
      rintro ⟨sock, ai⟩ s₁ ⟨spares, opened⟩
      refine skipInert (.call trivial) fun _ => ?_
      cases sock with
      | none => exact .pure ⟨spares, nofun⟩
      | some sock => exact .pure ⟨spares, fun fd same => Except.ok.inj same ▸ opened sock rfl⟩

/-! ### The client's constructor -/

/-- The SSL object of a connection has this socket in its BIO, and the object its descriptor. -/
def Heap.Linked (s : Heap) (obj : PhpQuicConnection) (fd : Fd) (socket : Nat) (ctx : SslCtx) :
    Prop :=
  ∃ ssl, obj.ssl = some ssl ∧ obj.fd = some fd ∧ s.engine ssl = some ⟨some (fd, socket), ctx⟩

/-- A client connection: its own socket is open, and its context has no ALPN callback. -/
def Heap.Dialled (s : Heap) (obj : PhpQuicConnection) : Prop :=
  obj.ownsFd = true ∧ ∃ fd socket ctx,
    s.Linked obj fd socket ctx ∧ s.table fd = some socket ∧ s.alpnArg ctx = none

/-- Nothing the object would release was in use. -/
structure Heap.Unclaimed (s : Heap) (object : QuicObject) : Prop where
  ssl : ∀ ssl, object.ssl = some ssl → s.engine ssl = none
  ownFd : ∀ fd, object.ownFd = some fd → s.table fd = none
  ownAlpn : ∀ id, object.ownAlpn = some id → s.allocated id = false

/-- Freeing an SSL object that is new spares the old ones. -/
theorem freeSsl_spared {s : Heap} {ssl : Option Ssl} (new : ∀ handle ∈ ssl, s.engine handle = none) :
    Only (Call.SparedBy s) (freeSsl ssl) := by
  cases ssl with
  | none => exact .pure _
  | some handle => exact .call (new handle rfl)

theorem noSsl_new (s : Heap) : ∀ handle ∈ (none : Option Ssl), s.engine handle = none :=
  fun handle member => absurd member (Option.not_mem_none handle)

theorem freeCtx_inert (ctx : Option SslCtx) : Only Call.IsInert (freeCtx ctx) := by
  cases ctx with
  | none => exact .pure _
  | some ctx => exact .call trivial

/-- **The client's labels spare all that was there before the call.** -/
theorem connectionCleanup_spared {s : Heap} {ssl : Option Ssl} {fd : Fd}
    (new : ∀ handle ∈ ssl, s.engine handle = none) (closed : s.table fd = none)
    (alpn : ZendString) (peer : BioAddr) (ctx : Option SslCtx) :
    Only (Call.SparedBy s) (Connection.cleanup alpn peer ssl ctx fd) :=
  .bind (.call trivial) fun _ => .bind (.call trivial) fun _ => .bind (freeSsl_spared new) fun _ =>
    .bind ((freeCtx_inert ctx).mono Call.sparedBy_of_inert) fun _ => .call closed

theorem connectionError_spared {s : Heap} {ssl : Option Ssl} {fd : Fd}
    (new : ∀ handle ∈ ssl, s.engine handle = none) (closed : s.table fd = none)
    (alpn : ZendString) (peer : BioAddr) (ctx : Option SslCtx) :
    Only (Call.SparedBy s) (Connection.sslError alpn peer ssl ctx fd) :=
  .bind ((throwSsl_inert _).mono Call.sparedBy_of_inert) fun _ =>
    .bind (connectionCleanup_spared new closed alpn peer ctx) fun _ => .pure _

/-- A new SSL object gets a BIO on an open descriptor. -/
theorem Heap.makeBio_setBio_engine {s : Heap} {ssl : Ssl} {fd : Fd} {socket : Nat} {ctx : SslCtx}
    (here : s.engine ssl = some ⟨none, ctx⟩) (opened : s.table fd = some socket) (bio : Bio) :
    ((s.makeBio bio fd).setBio ssl bio).engine ssl = some ⟨some (fd, socket), ctx⟩ := by
  have made : (s.makeBio bio fd).bios bio = some (fd, socket) := by
    show Function.update s.bios bio _ bio = _
    rw [Function.update_self, opened]
    rfl
  show Function.update s.engine ssl ((s.engine ssl).map _) ssl = _
  rw [Function.update_self, here, made]
  rfl

/-- The BIO of a new SSL object is made and set, and no other resource is touched. -/
theorem prepareSsl_links {s s₁ : Heap} (spares : s.Spares s₁) {ssl : Ssl} {fd : Fd} {socket : Nat}
    {ctx : SslCtx} (new : s.engine ssl = none) (here : s₁.engine ssl = some ⟨none, ctx⟩)
    (opened : s₁.table fd = some socket) (alpn : ZendString) (peer : BioAddr) (host : Bytes)
    (setup : PhpQuicTlsSetup) :
    Always owning (Connection.prepareSsl ssl fd alpn peer host setup)
      (fun ok s' => s.Spares s' ∧ s'.table = s₁.table ∧ s'.alpnArg = s₁.alpnArg ∧
        (ok = true → s'.engine ssl = some ⟨some (fd, socket), ctx⟩)) s₁ := by
  refine always_call_bind.mpr fun bio s₂ made => ?_
  cases bio with
  | none =>
      obtain rfl : s₂ = s₁ := made
      exact .pure ⟨spares, rfl, rfl, nofun⟩
  | some bio =>
      refine always_call_bind.mpr fun _ s₃ set => ?_
      obtain rfl : s₂ = _ := made
      obtain rfl : s₃ = _ := set
      have linked := Heap.makeBio_setBio_engine here opened bio
      have kept : s.Spares ((s₁.makeBio bio fd).setBio ssl bio) :=
        (spares.makeBio bio fd).setBio new bio
      have failed : Always owning (return false : Quic Bool)
          (fun ok s' => s.Spares s' ∧ s'.table = s₁.table ∧ s'.alpnArg = s₁.alpnArg ∧
            (ok = true → s'.engine ssl = some ⟨some (fd, socket), ctx⟩))
          ((s₁.makeBio bio fd).setBio ssl bio) := .pure ⟨kept, rfl, rfl, Bool.noConfusion⟩
      refine skipInert (.call trivial) fun _ => .ite (fun _ => failed) fun _ => ?_
      refine skipInert (.call trivial) fun _ => .ite (fun _ => failed) fun _ => ?_
      have names : Only Call.IsInert
          (Connection.setExpectedHost ssl setup (setup.peerName.getD host)) :=
        .ite (.call trivial) (.pure _)
      refine skipInert names fun _ => .ite (fun _ => failed) fun _ => ?_
      have indicates : Only Call.IsInert
          (Connection.setServerName ssl setup (setup.peerName.getD host)) :=
        .ite (.call trivial) (.pure _)
      exact skipInert indicates fun _ => .pure ⟨kept, rfl, rfl, fun _ => linked⟩

/-- What the client's constructor guarantees of the object it returns. -/
def Heap.Connects (s : Heap) (obj : PhpQuicConnection)
    (result : Option (Outcome PhpQuicConnection)) (s' : Heap) : Prop :=
  s.Spares s' ∧ ∀ made, result = some (.ok made) →
    made.listener = obj.listener ∧ s'.Dialled made ∧ s.Unclaimed (.connection made)

theorem Heap.Connects.of_error {s s' : Heap} (spares : s.Spares s') (obj : PhpQuicConnection)
    (thrown : Thrown) : s.Connects obj (some (.error thrown)) s' :=
  ⟨spares, nofun⟩

theorem establish_connects {s s₁ : Heap} (spares : s.Spares s₁) {ssl : Ssl} {fd : Fd}
    {socket : Nat} {ctx : SslCtx} (new : s.engine ssl = none)
    (here : s₁.engine ssl = some ⟨none, ctx⟩) (closed : s.table fd = none)
    (opened : s₁.table fd = some socket) (plain : s₁.alpnArg ctx = none) (fuel : Nat)
    (obj : PhpQuicConnection) (alpn : ZendString) (peer : BioAddr) (host : Bytes)
    (port idleTimeoutMs connectTimeoutMs : Int) (options : Option HashTable)
    (setup : PhpQuicTlsSetup) :
    Always owning (Connection.establish fuel obj ssl fd alpn peer host port idleTimeoutMs
      connectTimeoutMs options setup) (s.Connects obj) s₁ := by
  have own : ∀ handle ∈ some ssl, s.engine handle = none :=
    fun handle same => Option.some.inj (Option.mem_def.mp same) ▸ new
  refine .bind (prepareSsl_links spares new here opened alpn peer host setup) ?_
  rintro ok s₂ ⟨spares₂, table, args, linked⟩
  have cleaned (thrown : Thrown) {s₃ : Heap} (spares₃ : s.Spares s₃) : Always owning (do
      Connection.cleanup alpn peer (some ssl) none fd
      return some (.error thrown)) (s.Connects obj) s₃ :=
    .bind (spares₃.always (connectionCleanup_spared own closed alpn peer none)) fun _ _ kept =>
      .pure (.of_error kept obj thrown)
  refine .ite (fun _ => ?_) fun worked => ?_
  · exact .bind (spares₂.always (connectionError_spared own closed alpn peer none))
      fun thrown _ kept => .pure (.of_error kept obj thrown)
  have linked := linked (by simpa using worked)
  have idle : Only Call.IsInert (Connection.requestIdleTimeout ssl idleTimeoutMs) :=
    .ite (.call trivial) (.pure _)
  have configured : Only Call.IsInert (phpQuicConnectionConfigure ssl) :=
    .bind (.call trivial) fun _ => .call trivial
  refine skipInert idle fun _ => skipInert configured fun _ => ?_
  have shakes : Only Call.IsInert
      (Connection.handshake fuel ssl fd host port connectTimeoutMs) := by
    refine (handshake_calls fuel ssl fd host port connectTimeoutMs).mono fun call here => ?_
    exact here.elim (Call.isInert_of_handshake call) (Call.isInert_of_throw call)
  refine skipInert shakes fun shaken => ?_
  match shaken with
  | none => exact .pure ⟨spares₂, nofun⟩
  | some (.error thrown) => exact cleaned thrown spares₂
  | some (.ok ()) =>
      refine skipInert ((checkPinning_calls ssl options).mono Call.isInert_of_certificate)
        fun pinned => ?_
      cases pinned with
      | error thrown => exact cleaned thrown spares₂
      | ok _ =>
          refine skipInert (.call trivial) fun _ => skipInert (.call trivial) fun _ => .pure ?_
          refine ⟨spares₂, fun made same => ?_⟩
          obtain rfl := Except.ok.inj (Option.some.inj same)
          refine ⟨rfl, ⟨rfl, fd, socket, ctx, ⟨ssl, rfl, rfl, linked⟩, ?_, ?_⟩, ?_⟩
          · rw [table, opened]
          · rw [args, plain]
          · exact ⟨fun _ same => Option.some.inj same ▸ new,
              fun _ same => Option.some.inj same ▸ closed, nofun⟩

/-- Every failure on the way to the SSL object ends in a label that spares the heap. -/
theorem createSsl_connects {s s₁ : Heap} (spares : s.Spares s₁) {fd : Fd}
    (opened : s.Opened s₁ fd) (fuel : Nat) (obj : PhpQuicConnection) (alpn : ZendString)
    (peer : BioAddr) (host : Bytes) (port idleTimeoutMs connectTimeoutMs : Int)
    (options : Option HashTable) :
    Always owning (Connection.createSsl fuel obj fd alpn peer host port idleTimeoutMs
      connectTimeoutMs options) (s.Connects obj) s₁ := by
  obtain ⟨closed, socket, here⟩ := opened
  have failed (ctx : Option SslCtx) {s₂ : Heap} (spares₂ : s.Spares s₂) : Always owning (do
      return some (.error (← Connection.sslError alpn peer none ctx fd))) (s.Connects obj) s₂ :=
    .bind (spares₂.always (connectionError_spared (noSsl_new s) closed alpn peer ctx))
      fun thrown _ kept => .pure (.of_error kept obj thrown)
  refine always_call_bind.mpr fun made s₂ replied => ?_
  cases made with
  | none =>
      obtain rfl : s₂ = s₁ := replied
      exact failed none spares
  | some ctx =>
  obtain ⟨unused, rfl⟩ := replied
  have spares₂ := spares.setAlpnArg (spares.ctxUnused unused) none
  have plain : (s₁.setAlpnArg ctx none).alpnArg ctx = none := Function.update_self _ _ _
  refine skipInert ((phpQuicConfigureCtx_calls ctx options false).mono Call.isInert_of_context)
    fun configured => ?_
  cases configured with
  | error errbuf =>
      refine skipInert (phpQuicThrow_calls _ _) fun thrown => ?_
      exact .bind (spares₂.always (connectionCleanup_spared (noSsl_new s) closed alpn peer (some ctx)))
        fun _ _ kept => .pure (.of_error kept obj thrown)
  | ok setup =>
  refine always_call_bind.mpr fun made s₃ replied => ?_
  cases made with
  | none =>
      obtain rfl : s₃ = _ := replied
      exact failed (some ctx) spares₂
  | some ssl =>
      obtain ⟨free, rfl⟩ := replied
      have new := spares₂.engine_none free
      have held : ((s₁.setAlpnArg ctx none).setEngine ssl (some ⟨none, ctx⟩)).engine ssl =
          some ⟨none, ctx⟩ := Function.update_self _ _ _
      exact skipInert (.call trivial) fun _ => establish_connects (spares₂.setEngine new _) new held
        closed here plain fuel obj alpn peer host port idleTimeoutMs connectTimeoutMs options setup

/-- **`Connection::__construct`** spares everything in use; if it returns, the object has a socket,
an SSL object and a context of its own. -/
theorem construct_connects (fuel : Nat) (obj : PhpQuicConnection) (host : Bytes) (port : Int)
    (options : Option HashTable) (s : Heap) :
    Always owning (Connection.construct fuel obj host port options) (s.Connects obj) s := by
  have refused (thrown : Thrown) : Always owning
      (return some (.error thrown) : Quic (Option (Outcome PhpQuicConnection))) (s.Connects obj) s :=
    .pure (.of_error (.refl s) obj thrown)
  refine .ite (fun _ => skipInert (phpQuicThrow_calls _ _) refused) fun _ =>
    .ite (fun _ => skipInert (phpQuicThrow_calls _ _) refused) fun _ =>
    .ite (fun _ => skipInert (phpQuicThrow_calls _ _) refused) fun _ => ?_
  refine skipInert ((readOptions_context options).mono Call.isInert_of_context)
    fun ⟨spec, idle, timeout⟩ => ?_
  cases spec with
  | none => exact skipInert (phpQuicThrow_calls _ _) refused
  | some spec =>
  refine skipInert ((phpQuicAlpnFromZval_calls spec).mono Call.isInert_of_encoding)
    fun alpn => ?_
  cases alpn with
  | error errbuf => exact skipInert (phpQuicThrow_calls _ _) refused
  | ok alpn =>
  refine .bind (phpQuicUdpClient_opens host _ s) fun socket s₁ ⟨spares, opened⟩ => ?_
  match socket with
  | .error errbuf =>
      exact skipInert (.call trivial) fun _ => skipInert (phpQuicThrow_calls _ _) fun thrown =>
        .pure (.of_error spares obj thrown)
  | .ok (fd, peer) =>
      exact createSsl_connects spares (opened fd peer rfl) fuel obj alpn peer host port idle timeout
        options

/-! ### The listener's constructor -/

/-- A listening object: all its fields are set, its socket is open, and the callback data on its
context is allocated. -/
def Heap.Listening (s : Heap) (obj : PhpQuicListener) (fd : Fd) (socket : Nat) (ctx : SslCtx) :
    Prop :=
  ∃ ssl data, obj = ⟨some ssl, some ctx, some fd, some data⟩ ∧
    s.engine ssl = some ⟨some (fd, socket), ctx⟩ ∧ s.table fd = some socket ∧
    s.alpnArg ctx = some data.id ∧ s.allocated data.id = true

/-- What the listener's constructor guarantees of the object it returns. -/
def Heap.Listens (s : Heap) (outcome : Outcome PhpQuicListener) (s' : Heap) : Prop :=
  s.Spares s' ∧ ∀ made, outcome = .ok made →
    (∃ fd socket ctx, s'.Listening made fd socket ctx) ∧ s.Unclaimed (.listener made)

theorem Heap.Listens.of_error {s s' : Heap} (spares : s.Spares s') (thrown : Thrown) :
    s.Listens (.error thrown) s' :=
  ⟨spares, nofun⟩

/-- The callback data, if it is allocated already, was not in use. -/
def Heap.NewOwner (s : Heap) : Listener.AlpnOwner → Prop
  | .string _ => True
  | .data adata => s.allocated adata.id = false

/-- **The listener's labels do too.** -/
theorem listenerCleanup_spared {s : Heap} {owner : Listener.AlpnOwner} {ssl : Option Ssl} {fd : Fd}
    (free : s.NewOwner owner) (new : ∀ handle ∈ ssl, s.engine handle = none)
    (closed : s.table fd = none) (ctx : Option SslCtx) :
    Only (Call.SparedBy s) (Listener.cleanup owner ssl ctx fd) := by
  have releases : Only (Call.SparedBy s) (Listener.releaseAlpn owner) := by
    cases owner with
    | string alpn => exact .call trivial
    | data adata => exact .bind (.call trivial) fun _ => .call free
  exact .bind releases fun _ => .bind (freeSsl_spared new) fun _ =>
    .bind ((freeCtx_inert ctx).mono Call.sparedBy_of_inert) fun _ => .call closed

/-- The exception in front of them is inert. -/
theorem listenerError_spared {s : Heap} {owner : Listener.AlpnOwner} {ssl : Option Ssl} {fd : Fd}
    (free : s.NewOwner owner) (new : ∀ handle ∈ ssl, s.engine handle = none)
    (closed : s.table fd = none) (ctx : Option SslCtx) :
    Only (Call.SparedBy s) (Listener.sslError owner ssl ctx fd) :=
  .bind ((throwSsl_inert _).mono Call.sparedBy_of_inert) fun _ =>
    .bind (listenerCleanup_spared free new closed ctx) fun _ => .pure _

theorem startListening_listens {s s₁ : Heap} (spares : s.Spares s₁) {fd : Fd}
    (opened : s.Opened s₁ fd) {ctx : SslCtx} (unused : s.CtxUnused ctx) (alpn : ZendString)
    (host : Bytes) (port : Int) :
    Always owning (Listener.startListening fd ctx alpn host port) s.Listens s₁ := by
  obtain ⟨closed, socket, here⟩ := opened
  refine always_call_bind.mpr fun id s₂ replied => ?_
  obtain ⟨unallocated, rfl⟩ := replied
  have free := spares.not_allocated unallocated
  have owner : s.NewOwner (.data ⟨id, alpn⟩) := free
  have spares₂ := spares.setAllocated free true
  refine always_call_bind.mpr fun _ s₃ registered => ?_
  obtain rfl : s₃ = _ := registered
  have spares₃ := spares₂.setAlpnArg unused (some id)
  have failed {ssl : Option Ssl} (new : ∀ handle ∈ ssl, s.engine handle = none) {s₄ : Heap}
      (spares₄ : s.Spares s₄) : Always owning (do
        return .error (← Listener.sslError (.data ⟨id, alpn⟩) ssl (some ctx) fd)) s.Listens s₄ :=
    .bind (spares₄.always (listenerError_spared owner new closed (some ctx)))
      fun thrown _ kept => .pure (.of_error kept thrown)
  refine always_call_bind.mpr fun made s₄ replied => ?_
  cases made with
  | none =>
      obtain rfl : s₄ = _ := replied
      exact failed (noSsl_new s) spares₃
  | some ssl =>
  obtain ⟨unheld, rfl⟩ := replied
  have new := spares₃.engine_none unheld
  have own : ∀ handle ∈ some ssl, s.engine handle = none :=
    fun handle same => Option.some.inj (Option.mem_def.mp same) ▸ new
  have spares₄ := spares₃.setEngine new (some ⟨none, ctx⟩)
  refine always_call_bind.mpr fun made s₅ replied => ?_
  cases made with
  | none =>
      obtain rfl : s₅ = _ := replied
      exact failed own spares₄
  | some bio =>
  obtain rfl : s₅ = _ := replied
  refine always_call_bind.mpr fun _ s₆ set => ?_
  obtain rfl : s₆ = _ := set
  have spares₆ := (spares₄.makeBio bio fd).setBio new bio
  refine skipInert (.call trivial) fun listens => .ite (fun _ => ?_) fun _ => ?_
  · refine skipInert (throwSsl_inert _) fun thrown => ?_
    exact .bind (spares₆.always (listenerCleanup_spared owner own closed (some ctx)))
      fun _ _ kept => .pure (.of_error kept thrown)
  · refine .pure ⟨spares₆, fun made same => ?_⟩
    obtain rfl := Except.ok.inj same
    have linked := Heap.makeBio_setBio_engine
      (s := ((s₁.setAllocated id true).setAlpnArg ctx (some id)).setEngine ssl (some ⟨none, ctx⟩))
      (Function.update_self ssl _ _) here bio
    refine ⟨⟨fd, socket, ctx, ssl, _, rfl, linked, here, ?_, ?_⟩, ?_⟩
    · exact Function.update_self ctx _ _
    · exact Function.update_self id _ _
    · exact ⟨fun _ same => Option.some.inj same ▸ new,
        fun _ same => Option.some.inj same ▸ closed, fun _ same => Option.some.inj same ▸ free⟩

/-- **`Listener::__construct`** spares everything in use; if it returns, the object has a socket, an
SSL object, a context and callback data of its own. -/
theorem construct_listens (obj : PhpQuicListener) (host : Bytes) (port : Int)
    (options : HashTable) (s : Heap) :
    Always owning (Listener.construct obj host port options) s.Listens s := by
  have refused (format : Bytes) : Always owning
      (throwing (phpQuicThrow format) : Quic (Outcome PhpQuicListener)) s.Listens s :=
    skipInert (phpQuicThrow_calls _ _) fun thrown => .pure (.of_error (.refl s) thrown)
  refine .ite (fun _ => refused _) fun _ => .ite (fun _ => refused _) fun _ =>
    .ite (fun _ => refused _) fun _ => ?_
  dsimp only
  split
  · exact refused _
  rename_i spec _
  refine skipInert ((phpQuicAlpnFromZval_calls spec).mono Call.isInert_of_encoding)
    fun alpn => ?_
  cases alpn with
  | error errbuf => exact refused _
  | ok alpn =>
  refine .bind (phpQuicUdpServer_opens host _ _ s) fun socket s₁ ⟨spares, opened⟩ => ?_
  cases socket with
  | error errbuf =>
      exact skipInert (.call trivial) fun _ => skipInert (phpQuicThrow_calls _ _) fun thrown =>
        .pure (.of_error spares thrown)
  | ok fd =>
  have opened := opened fd rfl
  have unowned : s.NewOwner (.string alpn) := trivial
  refine always_call_bind.mpr fun made s₂ replied => ?_
  cases made with
  | none =>
      obtain rfl : s₂ = s₁ := replied
      exact .bind (spares.always (listenerError_spared unowned (noSsl_new s) opened.1 none))
        fun thrown _ kept => .pure (.of_error kept thrown)
  | some ctx =>
  obtain ⟨unheld, rfl⟩ := replied
  have unused := spares.ctxUnused unheld
  have spares₂ := spares.setAlpnArg unused none
  refine skipInert ((phpQuicConfigureCtx_calls ctx (some options) true).mono
    Call.isInert_of_context) fun configured => ?_
  cases configured with
  | error errbuf =>
      refine skipInert (phpQuicThrow_calls _ _) fun thrown => ?_
      exact .bind (spares₂.always (listenerCleanup_spared unowned (noSsl_new s) opened.1 (some ctx)))
        fun _ _ kept => .pure (.of_error kept thrown)
  | ok _ => exact startListening_listens spares₂ opened unused alpn host port

/-! ### Objects that share the resources of another one -/

/-- A new SSL object with the BIO and the context of `root`, and one more reference on `parent`. -/
def Heap.join (s : Heap) (root ssl : Ssl) (parent : ObjectId) : Heap :=
  (s.setEngine ssl (s.engine root)).addref parent

theorem phpQuicConnectionConfigure_inert (ssl : Ssl) :
    Only Call.IsInert (phpQuicConnectionConfigure ssl) :=
  .bind (.call trivial) fun _ => .call trivial

/-- `accept()` returns nothing, or a connection that shares the listener's engine and refers to the
listener. -/
theorem accept_joins (obj : PhpQuicListener) (this : ObjectId) (s : Heap) :
    Always owning (Listener.accept obj this)
      (fun result s' => (result = none ∧ s' = s) ∨
        ∃ root ssl, obj.ssl = some root ∧ s.engine ssl = none ∧ s' = s.join root ssl this ∧
          result = some ⟨some ssl, obj.fd, false, false, some this⟩) s := by
  unfold Listener.accept
  split
  · exact .pure (.inl ⟨rfl, rfl⟩)
  · rename_i root owned
    refine always_call_bind.mpr fun made s₁ replied => ?_
    cases made with
    | none =>
        obtain rfl : s₁ = s := replied
        exact .pure (.inl ⟨rfl, rfl⟩)
    | some ssl =>
        obtain ⟨new, rfl⟩ := replied
        refine skipInert (phpQuicConnectionConfigure_inert ssl) fun _ => ?_
        refine always_call_bind.mpr fun _ s₂ counted => ?_
        obtain rfl : s₂ = _ := counted
        exact .pure (.inr ⟨root, ssl, owned, new, rfl, rfl⟩)

/-- What every way to a stream object does: nothing, or a stream that shares the connection's engine
and refers to the connection. -/
def Heap.JoinsStream (s : Heap) (conn : Option Ssl) (parent : ObjectId)
    (made : Option PhpQuicStream) (s' : Heap) : Prop :=
  (made = none ∧ s' = s) ∨
    ∃ root ssl, conn = some root ∧ s.engine ssl = none ∧ s' = s.join root ssl parent ∧
      made = some ⟨some ssl, some parent⟩

/-- What a method made, unless it threw. -/
def madeBy {α : Type} : Outcome α → Option α
  | .ok made => some made
  | .error _ => none

/-- A method that throws has made no stream. -/
theorem throwing_joins {conn : Option Ssl} {parent : ObjectId} {thrown : Quic Thrown}
    (inert : Only Call.IsInert thrown) (s : Heap) :
    Always owning (throwing thrown : Quic (Outcome PhpQuicStream))
      (fun outcome s' => s.JoinsStream conn parent (madeBy outcome) s') s :=
  skipInert inert fun _ => .pure (.inl ⟨rfl, rfl⟩)

theorem openStream_joins (obj : PhpQuicConnection) (this : ObjectId) (bidirectional : Bool)
    (s : Heap) :
    Always owning (Connection.openStream obj this bidirectional)
      (fun outcome s' => s.JoinsStream obj.ssl this (madeBy outcome) s') s := by
  unfold Connection.openStream
  split
  · exact throwing_joins (phpQuicThrow_calls _ _) s
  · rename_i root owned
    refine always_call_bind.mpr fun made s₁ replied => ?_
    cases made with
    | none =>
        obtain rfl : s₁ = s := replied
        exact throwing_joins (throwSsl_inert _) s₁
    | some ssl =>
        obtain ⟨new, rfl⟩ := replied
        refine always_call_bind.mpr fun _ s₂ counted => ?_
        obtain rfl : s₂ = _ := counted
        exact .pure (.inr ⟨root, ssl, owned, new, rfl, rfl⟩)

/-- An accepted stream shares the engine of its connection, as an opened one does. -/
theorem acceptStream_joins (obj : PhpQuicConnection) (this : ObjectId) (s : Heap) :
    Always owning (Connection.acceptStream obj this)
      (fun made s' => s.JoinsStream obj.ssl this made s') s := by
  unfold Connection.acceptStream
  split
  · exact .pure (.inl ⟨rfl, rfl⟩)
  · rename_i root owned
    refine always_call_bind.mpr fun made s₁ replied => ?_
    cases made with
    | none =>
        obtain rfl : s₁ = s := replied
        exact .pure (.inl ⟨rfl, rfl⟩)
    | some ssl =>
        obtain ⟨new, rfl⟩ := replied
        refine always_call_bind.mpr fun _ s₂ counted => ?_
        obtain rfl : s₂ = _ := counted
        exact .pure (.inr ⟨root, ssl, owned, new, rfl, rfl⟩)

/-- The SSL object of a connection of the store. -/
def Heap.connectionSsl (s : Heap) (object : ObjectId) : Option Ssl :=
  match s.object object with
  | some (.connection obj) => obj.ssl
  | _ => none

/-- `Stream::__construct`. -/
theorem construct_joins (obj : PhpQuicStream) (conn : ObjectId) (bidirectional : Bool)
    (s : Heap) :
    Always owning (Stream.construct obj conn bidirectional)
      (fun outcome s' => s.JoinsStream (s.connectionSsl conn) conn (madeBy outcome) s') s := by
  refine .ite (fun _ => throwing_joins (phpQuicThrow_calls _ _) s) fun _ => ?_
  refine always_call_bind.mpr ?_
  rintro loaded s₁ ⟨found, rfl⟩
  have closed : Always owning
      (throwing (phpQuicThrow (text "connection is closed")) : Quic (Outcome PhpQuicStream))
      (fun outcome s' => s₁.JoinsStream (s₁.connectionSsl conn) conn (madeBy outcome) s') s₁ :=
    throwing_joins (phpQuicThrow_calls _ _) s₁
  match loaded, found with
  | .connection { ssl := some root, fd, ownsFd, closed := shut, listener }, found =>
      have here : s₁.connectionSsl conn = some root := by
        unfold Heap.connectionSsl
        cases stored : s₁.object conn with
        | none =>
            rw [stored] at found
            cases found
        | some object =>
            rw [stored] at found
            obtain rfl : _ = object := found
            rfl
      refine always_call_bind.mpr fun made s₂ replied => ?_
      cases made with
      | none =>
          obtain rfl : s₂ = s₁ := replied
          exact throwing_joins (throwSsl_inert _) s₂
      | some ssl =>
          obtain ⟨new, rfl⟩ := replied
          refine always_call_bind.mpr fun _ s₃ counted => ?_
          obtain rfl : s₃ = _ := counted
          exact .pure (.inr ⟨root, ssl, here, new, rfl, rfl⟩)
  | .connection { ssl := none, .. }, _ => exact closed
  | .listener _, _ => exact closed
  | .stream _, _ => exact closed
  | .foreign, _ => exact closed

/-! ### Releases -/

namespace Heap

def dropSsl (s : Heap) : Option Ssl → Heap
  | some ssl => s.setEngine ssl none
  | none => s

def dropFd (s : Heap) : Option Fd → Heap
  | some fd => s.closeFd fd
  | none => s

def dropAlpn (s : Heap) : Option Nat → Heap
  | some id => s.setAllocated id false
  | none => s

def dropRef (s : Heap) : Option ObjectId → Heap
  | some object => s.delref object
  | none => s

/-- Everything an object owns is released, and its reference given back. -/
def release (s : Heap) (object : QuicObject) : Heap :=
  (((s.dropSsl object.ssl).dropFd object.ownFd).dropAlpn object.ownAlpn).dropRef object.parent

end Heap

/-- Each part of a destructor lets go of one field, if it is set: of the SSL object, -/
theorem freeSsl_drops (ssl : Option Ssl) (s : Heap) :
    Always owning (freeSsl ssl) (fun _ s' => s' = s.dropSsl ssl) s := by
  cases ssl with
  | none => exact .pure rfl
  | some ssl => exact always_call.mpr fun _ _ replied => replied

/-- of the descriptor, -/
theorem closeSocket_drops (fd : Option Fd) (s : Heap) :
    Always owning (closeSocket fd) (fun _ s' => s' = s.dropFd fd) s := by
  cases fd with
  | none => exact .pure rfl
  | some fd => exact always_call.mpr fun _ _ replied => replied

/-- of the reference on the parent, -/
theorem releaseObject_drops (object : Option ObjectId) (s : Heap) :
    Always owning (releaseObject object) (fun _ s' => s' = s.dropRef object) s := by
  cases object with
  | none => exact .pure rfl
  | some object => exact always_call.mpr fun _ _ replied => replied

/-- and of the callback data. -/
theorem freeAlpnData_drops (data : Option QuicAlpnData) (s : Heap) :
    Always owning (freeAlpnData data)
      (fun _ s' => s' = s.dropAlpn (data.map QuicAlpnData.id)) s := by
  cases data with
  | none => exact .pure rfl
  | some data =>
      exact skipInert (.call trivial) fun _ => always_call.mpr fun _ _ replied => replied

/-- **Listener release** lets go of all four, and empties the object. -/
theorem listenerRelease_releases (obj : PhpQuicListener) (s : Heap) :
    Always owning (quicListenerRelease obj)
      (fun obj' s' => obj' = quicListenerCreate ∧ s' = s.release (.listener obj)) s := by
  refine .bind (freeSsl_drops obj.ssl s) fun _ s₁ first => ?_
  refine .bind (closeSocket_drops obj.fd s₁) fun _ s₂ second => ?_
  refine skipInert (freeCtx_inert obj.ctx) fun _ => ?_
  refine .bind (freeAlpnData_drops obj.alpnCbArg s₂) fun _ s₃ third => .pure ⟨rfl, ?_⟩
  rw [third, second, first]
  rfl

/-- The destructor of an object. -/
def freeObject : QuicObject → Quic Unit
  | .connection obj => quicConnectionFree obj
  | .listener obj => quicListenerFree obj
  | .stream obj => quicStreamFree obj
  | .foreign => return ()

/-- **A destructor lets go of exactly what its object holds.** -/
theorem freeObject_releases (object : QuicObject) (s : Heap) :
    Always owning (freeObject object) (fun _ s' => s' = s.release object) s := by
  cases object with
  | connection obj =>
      refine .bind (freeSsl_drops obj.ssl s) fun _ s₁ first => ?_
      refine .bind (closeSocket_drops _ s₁) fun _ s₂ second => ?_
      refine (releaseObject_drops obj.listener s₂).mono fun _ s' third => ?_
      rw [third, second, first]
      rfl
  | listener obj =>
      exact .bind (listenerRelease_releases obj s) fun _ _ released => .pure released.2
  | stream obj =>
      refine .bind (freeSsl_drops obj.ssl s) fun _ s₁ first => ?_
      refine (releaseObject_drops obj.connection s₁).mono fun _ s' second => ?_
      rw [second, first]
      rfl
  | foreign => exact .pure rfl

end PhpQuic
