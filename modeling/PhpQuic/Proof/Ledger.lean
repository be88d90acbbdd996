/-
**The ledger of what a constructor acquires and releases.**

`Ledger` keeps, for the whole process, everything acquired and not yet released, and what freeing
each SSL object gives back with it: its reference on the `SSL_CTX`, and its BIO.

* `Ledger.holds`: a ledger with more outstanding, in some hand. `after_acquired`, `after_madeSsl`,
  `releases`, `setsBio` and `freesSsl` are the steps between such ledgers; every release is one of
  the hand.
* `alpnFromZval_keeps`, `udpClient_keeps`, `udpServer_keeps`, `checkPinning_keeps`: what the helpers
  of the constructors leave in the hand.
* `trace_ledger_balance`: over a trace, what was acquired is what was released, and what is still
  outstanding.
-/

import PhpQuic.Proof.Calls
import PhpQuic.Interact.Trace
import Mathlib.Algebra.Order.Group.Multiset
import Mathlib.Logic.Function.Basic
import Mathlib.Tactic.Abel

namespace PhpQuic

open Interact

/-- What a constructor acquires. Of an `SSL_CTX` it is one reference. -/
inductive Asset where
  | descriptor (fd : Fd)
  | ssl (ssl : Ssl)
  | ctx (ctx : SslCtx)
  | bio (bio : Bio)
  | string (id : Nat)
  | block (address : Nat)
  | address (address : BioAddr)
  | addrinfo
  | certificate (cert : X509)
  deriving DecidableEq

/-- Everything outstanding, and the part of it each SSL object holds. -/
structure Ledger where
  outstanding : Multiset Asset
  inside : Ssl → Multiset Asset

namespace Ledger

/-- What a call gives back. -/
def lost (s : Ledger) : Call → Multiset Asset
  | .bioClosesocket fd => {.descriptor fd}
  | .bioAddrFree address => {.address address}
  | .bioAddrinfoFree => {.addrinfo}
  | .sslCtxFree ctx => {.ctx ctx}
  | .sslFree ssl => {.ssl ssl} + s.inside ssl
  | .zendStringRelease id => {.string id}
  | .efree address => {.block address}
  | .x509Free cert => {.certificate cert}
  | _ => 0

/-- What a call acquires. A new SSL object takes its own reference on the context. -/
def gained : (call : Call) → Answer call → Multiset Asset
  | .bioLookupEx .., some _ => {.addrinfo}
  | .bioSocket _, some fd => {.descriptor fd}
  | .bioAddrDup _, some address => {.address address}
  | .sslCtxNew _, some ctx => {.ctx ctx}
  | .sslNew ctx, some ssl => {.ssl ssl} + {.ctx ctx}
  | .sslNewListener ctx, some ssl => {.ssl ssl} + {.ctx ctx}
  | .bioNewDgram _, some bio => {.bio bio}
  | .zendStringAlloc _, id => {.string id}
  | .emalloc, address => {.block address}
  | .sslGet1PeerCertificate _, some cert => {.certificate cert}
  | _, _ => 0

/-- What the SSL objects hold after a call. -/
def insideAfter (s : Ledger) : (call : Call) → Answer call → Ssl → Multiset Asset
  | .sslNew ctx, some ssl => Function.update s.inside ssl {.ctx ctx}
  | .sslNewListener ctx, some ssl => Function.update s.inside ssl {.ctx ctx}
  | .sslSetBio ssl bio, _ => Function.update s.inside ssl (s.inside ssl + {.bio bio})
  | .sslFree ssl, _ => Function.update s.inside ssl 0
  | _, _ => s.inside

/-- The ledger after a call. -/
def after (s : Ledger) (call : Call) (answer : Answer call) : Ledger :=
  ⟨s.outstanding - s.lost call + gained call answer, s.insideAfter call answer⟩

/-- A new SSL object is none that holds something. -/
def Fresh (s : Ledger) : (call : Call) → Answer call → Prop
  | .sslNew _, some ssl => s.inside ssl = 0
  | .sslNewListener _, some ssl => s.inside ssl = 0
  | _, _ => True

end Ledger

/-- The environment that keeps the ledger, whatever it answers. -/
def keeping : Behaviour openssl Ledger := fun s call answer s' =>
  s.Fresh call answer ∧ s' = s.after call answer

/-- Beyond what was outstanding before, `call` gives back only what is outstanding now. -/
def Releasable (before : Multiset Asset) (s : Ledger) (call : Call) : Prop :=
  s.lost call = 0 ∨ before + s.lost call ≤ s.outstanding

/-! ### Hands -/

/-- An SSL object in the hand, with what it holds. -/
abbrev MadeSsl := Option (Ssl × Multiset Asset)

namespace Ledger

/-- What the hand has of an SSL object. -/
def madeAssets : MadeSsl → Multiset Asset
  | none => 0
  | some (ssl, contents) => {.ssl ssl} + contents

/-- The ledger with more outstanding: an SSL object, and the rest of the hand. -/
def holds (s : Ledger) (hand : Multiset Asset) (made : MadeSsl) : Ledger where
  outstanding := s.outstanding + (madeAssets made + hand)
  inside := match made with
    | none => s.inside
    | some (ssl, contents) => Function.update s.inside ssl contents

theorem holds_nothing {s : Ledger} : s.holds 0 none = s := by
  simp [holds, madeAssets]

theorem holds_inside {s : Ledger} {hand contents : Multiset Asset} {ssl : Ssl} :
    (s.holds hand (some (ssl, contents))).inside ssl = contents := by
  simp [holds]

end Ledger

/-- Calls that neither acquire nor release. -/
def Call.IsCostless : Call → Prop
  | .bioLookupEx .. | .bioSocket _ | .bioAddrDup _ | .sslCtxNew _ | .sslNew _ | .sslNewListener _
  | .bioNewDgram _ | .zendStringAlloc _ | .emalloc | .sslGet1PeerCertificate _
  | .bioClosesocket _ | .bioAddrFree _ | .bioAddrinfoFree | .sslCtxFree _ | .sslFree _
  | .zendStringRelease _ | .efree _ | .x509Free _ | .sslSetBio .. => False
  | _ => True

/-- The one thing a call releases. `SSL_free` is apart, for what the SSL object holds. -/
def Call.gives : Call → Option Asset
  | .bioClosesocket fd => some (.descriptor fd)
  | .bioAddrFree address => some (.address address)
  | .bioAddrinfoFree => some .addrinfo
  | .sslCtxFree ctx => some (.ctx ctx)
  | .zendStringRelease id => some (.string id)
  | .efree address => some (.block address)
  | .x509Free cert => some (.certificate cert)
  | _ => none

/-- From a ledger that holds more than `s`: every call gives back only what is outstanding beyond
`s`, and every run ends in `post`. -/
abbrev Keeps {α : Type} (s : Ledger) (p : Quic α) (post : α → Ledger → Prop) (t : Ledger) : Prop :=
  Guarded keeping (Releasable s.outstanding) p post t

namespace Ledger

variable {s : Ledger} {hand rest assets : Multiset Asset} {made : MadeSsl}

/-! ### Single steps -/

theorem after_costless {t : Ledger} (call : Call) (answer : Answer call) (free : call.IsCostless) :
    t.after call answer = t := by
  cases call <;> first | exact free.elim | simp [after, lost, gained, insideAfter]

theorem releasable_costless {before : Multiset Asset} (t : Ledger) (call : Call)
    (free : call.IsCostless) : Releasable before t call := by
  cases call <;> first | exact free.elim | exact .inl rfl

/-- A part that costs nothing can be skipped. -/
theorem skips {α β : Type} {p : Quic α} {next : α → Quic β} {post : β → Ledger → Prop} {t : Ledger}
    (free : Only Call.IsCostless p) (second : ∀ value, Keeps s (next value) post t) :
    Keeps s (p >>= next) post t :=
  .skip free releasable_costless
    (fun _ call answer _ here replied => replied.2.trans (after_costless call answer here)) second

/-- A call that fails to acquire. -/
theorem after_failed {t : Ledger} {call : Call} {answer : Answer call} (keeps : t.lost call = 0)
    (failed : gained call answer = 0) (inside : t.insideAfter call answer = t.inside) :
    t.after call answer = t := by
  rw [after, keeps, failed, inside, add_zero, tsub_zero]

/-- A call that acquires puts it into the hand. -/
theorem after_acquired {call : Call} {answer : Answer call}
    (keeps : (s.holds hand made).lost call = 0) (gains : gained call answer = assets)
    (inside : (s.holds hand made).insideAfter call answer = (s.holds hand made).inside) :
    (s.holds hand made).after call answer = s.holds (assets + hand) made := by
  rw [after, keeps, gains, inside, tsub_zero]
  refine congrArg (Ledger.mk · _) ?_
  show s.outstanding + (madeAssets made + hand) + assets =
    s.outstanding + (madeAssets made + (assets + hand))
  abel

/-- A call that releases takes it from the hand. -/
theorem after_released {call : Call} {answer : Answer call}
    (gives : (s.holds (assets + rest) made).lost call = assets)
    (nothing : gained call answer = 0)
    (inside : (s.holds (assets + rest) made).insideAfter call answer =
      (s.holds (assets + rest) made).inside) :
    (s.holds (assets + rest) made).after call answer = s.holds rest made := by
  rw [after, gives, nothing, inside, add_zero]
  refine congrArg (Ledger.mk · _) ?_
  have parts : s.outstanding + (madeAssets made + (assets + rest)) =
      s.outstanding + (madeAssets made + rest) + assets := by abel
  show s.outstanding + (madeAssets made + (assets + rest)) - assets = _
  rw [parts, Multiset.add_sub_cancel_right]

theorem lost_of_gives {call : Call} {asset : Asset} (gives : call.gives = some asset) (t : Ledger) :
    t.lost call = {asset} := by
  cases call <;> cases gives <;> rfl

theorem gained_of_gives {call : Call} {asset : Asset} (gives : call.gives = some asset)
    (answer : Answer call) : gained call answer = 0 := by
  cases call <;> cases gives <;> rfl

theorem inside_of_gives {call : Call} {asset : Asset} (gives : call.gives = some asset) (t : Ledger)
    (answer : Answer call) : t.insideAfter call answer = t.inside := by
  cases call <;> cases gives <;> rfl

theorem releasable_held {call : Call}
    (gives : (s.holds (assets + rest) made).lost call = assets) :
    Releasable s.outstanding (s.holds (assets + rest) made) call := by
  refine .inr (gives.symm ▸ ?_)
  refine add_le_add (le_refl s.outstanding) ?_
  exact le_trans (Multiset.le_add_right _ _) (Multiset.le_add_left _ _)

/-- **One release.** -/
theorem releases {call : Call} {asset : Asset} (gives : call.gives = some asset)
    {split : Multiset Asset} (parts : split = {asset} + rest) :
    Keeps s (ask call) (fun _ t => t = s.holds rest made) (s.holds split made) := by
  subst parts
  have lost := lost_of_gives gives
  refine .ask (releasable_held (lost _)) fun answer t replied => ?_
  refine replied.2.trans (after_released (lost _) ?_ ?_)
  · exact gained_of_gives gives answer
  · exact inside_of_gives gives _ answer

/-- A release, and what follows it. -/
theorem releases_bind {β : Type} {call : Call} {next : Answer call → Quic β}
    {post : β → Ledger → Prop} {asset : Asset} (gives : call.gives = some asset)
    {split : Multiset Asset} (parts : split = {asset} + rest)
    (second : ∀ answer, Keeps s (next answer) post (s.holds rest made)) :
    Keeps s (ask call >>= next) post (s.holds split made) :=
  .bind (releases gives parts) fun answer _ same => same ▸ second answer

/-- The SSL object takes over a reference on its context. -/
theorem after_madeSsl {ctx : SslCtx} {ssl : Ssl} :
    (s.holds hand none).after (.sslNew ctx) (some ssl) = s.holds hand (some (ssl, {.ctx ctx})) := by
  simp only [after, lost, gained, insideAfter, holds, madeAssets, tsub_zero]
  congr 1
  abel

theorem after_madeListener {ctx : SslCtx} {ssl : Ssl} :
    (s.holds hand none).after (.sslNewListener ctx) (some ssl) =
      s.holds hand (some (ssl, {.ctx ctx})) := after_madeSsl

/-- The SSL object takes over the BIO. -/
theorem setsBio {ssl : Ssl} {bio : Bio} {contents : Multiset Asset} :
    Keeps s (ask (.sslSetBio ssl bio))
      (fun _ t => t = s.holds hand (some (ssl, contents + {.bio bio})))
      (s.holds ({.bio bio} + hand) (some (ssl, contents))) := by
  refine .ask (.inl rfl) fun answer t replied => replied.2.trans ?_
  simp only [after, lost, gained, insideAfter, holds, madeAssets, tsub_zero, add_zero,
    Function.update_self, Function.update_idem]
  congr 1
  abel

/-- **Freeing the SSL object**, with what it holds. -/
theorem freesSsl {ssl : Ssl} {contents : Multiset Asset} (fresh : s.inside ssl = 0) :
    Keeps s (ask (.sslFree ssl)) (fun _ t => t = s.holds hand none)
      (s.holds hand (some (ssl, contents))) := by
  have gives : (s.holds hand (some (ssl, contents))).lost (.sslFree ssl) = {.ssl ssl} + contents := by
    simp [lost, holds]
  refine .ask (.inr ?_) fun answer t replied => replied.2.trans ?_
  · rw [gives]
    exact add_le_add (le_refl s.outstanding) (Multiset.le_add_right _ _)
  · rw [after, gives]
    simp only [gained, insideAfter, holds, madeAssets, add_zero, zero_add, Function.update_idem]
    congr 1
    · rw [add_comm _ hand, ← add_assoc, Multiset.add_sub_cancel_right]
    · rw [← fresh, Function.update_eq_self]

/-! ### The helpers -/

/-- What a result has, if it is one. -/
def heldBy {ε α : Type} (assets : α → Multiset Asset) : Except ε α → Multiset Asset
  | .ok value => assets value
  | .error _ => 0

/-- What a socket variable has. -/
def heldSocket : Option Fd → Multiset Asset
  | some fd => {.descriptor fd}
  | none => 0

theorem costless_conversion (call : Call) (here : call.IsConversion) : call.IsCostless := by
  cases call <;> first | exact trivial | exact here.elim

theorem costless_digest (call : Call) (here : call.IsDigest) : call.IsCostless := by
  cases call <;> first | exact trivial | exact here.elim

/-- The encoded list is in the hand of the caller. -/
theorem alpnFromZval_keeps (spec : Zval) :
    Keeps s (phpQuicAlpnFromZval spec)
      (fun result t => t = s.holds (heldBy (fun alpn => {.string alpn.id}) result + hand) made)
      (s.holds hand made) := by
  refine skips ((alpnEncode_calls spec).mono costless_conversion) fun encoded => ?_
  cases encoded with
  | error errbuf => exact .pure (by rw [heldBy, zero_add])
  | ok bytes =>
      refine .ask_bind (.inl rfl) ?_
      rintro id _ ⟨-, rfl⟩
      exact .pure (after_acquired rfl rfl rfl)

/-- The client's loop closes every socket it does not return. -/
theorem udpClientLoop_keeps (res : List AddrInfo) :
    Keeps s (udpClientLoop none res)
      (fun found t => t = s.holds (heldSocket found.1 + hand) made ∧
        (found.2 = none → found.1 = none)) (s.holds hand made) := by
  induction res with
  | nil => exact .pure ⟨by rw [heldSocket, zero_add], fun _ => rfl⟩
  | cons ai next ih =>
      refine .ask_bind (.inl rfl) ?_
      rintro made _ ⟨-, rfl⟩
      cases made with
      | none =>
          rw [after_failed rfl rfl rfl]
          exact ih
      | some sock =>
          rw [after_acquired rfl rfl rfl]
          have retry : Keeps s (do
              ask (.bioClosesocket sock)
              udpClientLoop none next) _ _ := releases_bind rfl rfl fun _ => ih
          refine skips (.call trivial) fun _ => .ite (fun _ => retry) fun _ => ?_
          refine skips (.call trivial) fun _ => .ite (fun _ => retry) fun _ => ?_
          exact .pure ⟨rfl, nofun⟩

/-- The server's loop too. -/
theorem udpServerLoop_keeps (reusePort : Bool) (res : List AddrInfo) :
    Keeps s (udpServerLoop reusePort none res)
      (fun found t => t = s.holds (heldSocket found.1 + hand) made) (s.holds hand made) := by
  have shares (sock : Fd) : Only Call.IsCostless (udpShareAddress reusePort sock) :=
    .ite (.call trivial) (.pure _)
  induction res with
  | nil => exact .pure (by rw [heldSocket, zero_add])
  | cons ai next ih =>
      refine .ask_bind (.inl rfl) ?_
      rintro made _ ⟨-, rfl⟩
      cases made with
      | none =>
          rw [after_failed rfl rfl rfl]
          exact ih
      | some sock =>
          rw [after_acquired rfl rfl rfl]
          have retry : Keeps s (do
              ask (.bioClosesocket sock)
              udpServerLoop reusePort none next) _ _ := releases_bind rfl rfl fun _ => ih
          refine skips (shares sock) fun _ => .ite (fun _ => retry) fun _ => ?_
          refine skips (.call trivial) fun _ => .ite (fun _ => retry) fun _ => ?_
          refine skips (.call trivial) fun _ => .ite (fun _ => retry) fun _ => ?_
          exact .pure rfl

/-- What the client's socket function returns. -/
def heldClient : ZendResult (Fd × BioAddr) → Multiset Asset :=
  heldBy fun found => {.descriptor found.1} + {.address found.2}

theorem udpClientPeer_keeps (host port : Bytes) {found : Option Fd × Option AddrInfo}
    (both : found.2 = none → found.1 = none) :
    Keeps s (udpClientPeer host port found)
      (fun result t => t = s.holds (heldClient result + hand) made)
      (s.holds (heldSocket found.1 + hand) made) := by
  rcases found with ⟨_ | sock, _ | ai⟩
  · exact .pure rfl
  · exact .pure rfl
  · cases both rfl
  · refine .ask_bind (.inl rfl) ?_
    rintro copied _ ⟨-, rfl⟩
    cases copied with
    | none =>
        rw [after_failed rfl rfl rfl]
        refine releases_bind rfl rfl fun _ => .pure ?_
        rw [heldClient, heldBy, zero_add]
    | some peer =>
        rw [after_acquired rfl rfl rfl]
        refine .pure (congrArg (s.holds · made) ?_)
        show {.address peer} + ({.descriptor sock} + hand) =
          {.descriptor sock} + {.address peer} + hand
        abel

/-- The client's socket function frees the list of addresses. -/
theorem udpClient_keeps (host port : Bytes) :
    Keeps s (phpQuicUdpClient host port)
      (fun result t => t = s.holds (heldClient result + hand) made) (s.holds hand made) := by
  refine .ask_bind (.inl rfl) ?_
  rintro found _ ⟨-, rfl⟩
  cases found with
  | none =>
      rw [after_failed rfl rfl rfl]
      exact .pure (by rw [heldClient, heldBy, zero_add])
  | some res =>
      rw [after_acquired rfl rfl rfl]
      refine .bind (udpClientLoop_keeps res) fun found t ⟨same, both⟩ => ?_
      subst same
      refine .bind (udpClientPeer_keeps host port both) fun result t same => ?_
      subst same
      exact releases_bind rfl (add_left_comm _ _ _) fun _ => .pure rfl

theorem udpServer_keeps (host port : Bytes) (reusePort : Bool) :
    Keeps s (phpQuicUdpServer host port reusePort)
      (fun result t => t = s.holds (heldBy (fun fd => {.descriptor fd}) result + hand) made)
      (s.holds hand made) := by
  refine .ask_bind (.inl rfl) ?_
  rintro found _ ⟨-, rfl⟩
  cases found with
  | none =>
      rw [after_failed rfl rfl rfl]
      exact .pure (by rw [heldBy, zero_add])
  | some res =>
      rw [after_acquired rfl rfl rfl]
      refine .bind (udpServerLoop_keeps reusePort res) fun found t same => ?_
      subst same
      refine releases_bind rfl (add_left_comm _ _ _) fun _ => ?_
      rcases found with ⟨_ | sock, _⟩
      · exact .pure rfl
      · exact .pure rfl

/-- The certificate that pinning looks at is freed. -/
theorem checkPinning_keeps (ssl : Ssl) (options : Option HashTable) :
    Keeps s (Connection.checkPinning ssl options) (fun _ t => t = s.holds hand made)
      (s.holds hand made) := by
  unfold Connection.checkPinning
  split
  · exact .pure rfl
  · rename_i spec _
    have checks : Keeps s (phpQuicCheckFingerprint ssl spec) (fun _ t => t = s.holds hand made)
        (s.holds hand made) := by
      refine .ask_bind (.inl rfl) ?_
      rintro cert _ ⟨-, rfl⟩
      cases cert with
      | none =>
          rw [after_failed rfl rfl rfl]
          exact .pure rfl
      | some cert =>
          rw [after_acquired rfl rfl rfl]
          refine skips ((checkSpec_calls cert spec).mono costless_digest) fun result => ?_
          exact releases_bind rfl rfl fun _ => .pure rfl
    refine .bind checks fun verdict t same => ?_
    cases verdict with
    | ok _ => exact .pure same
    | error errbuf => exact skips (phpQuicThrow_calls _ _) fun _ => .pure same

end Ledger

/-! ### Over a trace -/

/-- What a trace acquired. -/
def acquired (exchanges : List (Exchange openssl Ledger)) : Multiset Asset :=
  (exchanges.map fun exchange => Ledger.gained exchange.call exchange.answer).sum

/-- What a trace released. -/
def released (exchanges : List (Exchange openssl Ledger)) : Multiset Asset :=
  (exchanges.map fun exchange => exchange.before.lost exchange.call).sum

/-- **The balance of a trace** whose releases are all of things outstanding. -/
theorem trace_ledger_balance {α : Type} {p : Quic α} {s s' : Ledger} {value : α}
    {exchanges : List (Exchange openssl Ledger)} (trace : Trace keeping p s exchanges value s')
    (releasable : ∀ exchange ∈ exchanges,
      Releasable s.outstanding exchange.before exchange.call) :
    s.outstanding + acquired exchanges = s'.outstanding + released exchanges := by
  refine trace.sum_balance Ledger.outstanding _ _ fun exchange member => ?_
  obtain ⟨-, same⟩ := trace.allowed exchange member
  have within : exchange.before.lost exchange.call ≤ exchange.before.outstanding := by
    obtain nothing | held := releasable exchange member
    · exact nothing ▸ Multiset.zero_le _
    · exact le_trans (Multiset.le_add_left _ _) held
  rw [same, Ledger.after, add_right_comm, Multiset.sub_add_cancel within]

end PhpQuic
