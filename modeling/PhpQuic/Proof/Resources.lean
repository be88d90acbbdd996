/-
**What is made and what is released, call by call.**

A `Resource` is an SSL object, a descriptor or a block of callback data. A `Holding` is what one
party has to release: an object, or a constructor that has not returned.

* `Call.Careful`: what the call releases is in use, and everything that depends on it is gone.
* `owning_balances`: what a careful call makes and releases is the difference of what is in use.
* `Heap.Accounted`: between two events every resource in use is held by a stored object, or is none
  of the extension's.
* `Heap.Grows`: what a constructor has made so far is what it holds.
-/

import PhpQuic.Interact.Trace
import PhpQuic.Proof.Lifecycle

namespace PhpQuic

open Interact

/-! ### Resources -/

/-- What has to be released exactly once. -/
inductive Resource where
  | ssl (ssl : Ssl)
  | descriptor (fd : Fd)
  | block (id : Nat)
  deriving DecidableEq

/-- What one party has to release. -/
structure Holding where
  ssl : Option Ssl
  fd : Option Fd
  block : Option Nat

namespace Holding

def Has (held : Holding) : Resource → Prop
  | .ssl ssl => held.ssl = some ssl
  | .descriptor fd => held.fd = some fd
  | .block id => held.block = some id

def empty : Holding := ⟨none, none, none⟩

/-- The empty hand has nothing. -/
theorem empty_has (r : Resource) : ¬ empty.Has r := by
  cases r <;> exact nofun

end Holding

/-- What an object releases when it is destroyed. -/
def QuicObject.holding (object : QuicObject) : Holding :=
  ⟨object.ssl, object.ownFd, object.ownAlpn⟩

/-- What the object a constructor or a method made releases, if it made one. -/
def Holding.ofMade : Option QuicObject → Holding
  | some made => made.holding
  | none => empty

/-- An object whose fields were released holds nothing. -/
theorem QuicObject.Idle.holding {object : QuicObject} (idle : object.Idle) :
    object.holding = .empty := by
  obtain ⟨ssl, ownFd, ownAlpn, _⟩ := idle.empty
  unfold QuicObject.holding
  rw [ssl, ownFd, ownAlpn]
  rfl

/-- Of two objects that are apart, at most one has a resource. -/
theorem QuicObject.Apart.has {first second : QuicObject} (apart : first.Apart second)
    {r : Resource} (here : second.holding.Has r) : ¬ first.holding.Has r := by
  cases r with
  | ssl ssl => exact apart.ssl ssl here
  | descriptor fd => exact apart.ownFd fd here
  | block id => exact apart.ownAlpn id here

namespace Heap

/-- The resource is in use. -/
def live (s : Heap) : Resource → Bool
  | .ssl ssl => (s.engine ssl).isSome
  | .descriptor fd => (s.table fd).isSome
  | .block id => s.allocated id

/-- A stored object holds the resource. -/
def Owned (s : Heap) (r : Resource) : Prop :=
  ∃ id object, s.object id = some object ∧ object.holding.Has r

/-- No stored object refers to an object that satisfies `parent`. -/
def NoChildOf (s : Heap) (parent : QuicObject → Prop) : Prop :=
  ∀ id object child held, s.object id = some object → parent object →
    s.object child = some held → held.parent ≠ some id

/-- What was in use before a part that spares it still is. -/
theorem Spares.live {s s' : Heap} (spares : s.Spares s') {r : Resource} (here : s.live r = true) :
    s'.live r = true := by
  cases r with
  | ssl ssl =>
      obtain ⟨engine, same⟩ := Option.isSome_iff_exists.mp here
      exact Option.isSome_iff_exists.mpr ⟨engine, spares.engine ssl engine same⟩
  | descriptor fd =>
      obtain ⟨socket, same⟩ := Option.isSome_iff_exists.mp here
      exact Option.isSome_iff_exists.mpr ⟨socket, spares.table fd socket same⟩
  | block id => exact spares.allocated id here

/-! ### What is in use after an update -/

section Updates

variable (s : Heap) (r : Resource)

/-- Each update of the heap adds one resource to those in use, or takes one away: a descriptor, -/
theorem live_openFd (fd : Fd) :
    (s.openFd fd).live r = true ↔ s.live r = true ∨ r = .descriptor fd := by
  cases r with
  | descriptor other =>
      by_cases same : other = fd
      · simp [live, openFd, same]
      · simp [live, openFd, same]
  | ssl | block => simp [live, openFd]

theorem live_closeFd (fd : Fd) :
    (s.closeFd fd).live r = true ↔ s.live r = true ∧ r ≠ .descriptor fd := by
  cases r with
  | descriptor other =>
      by_cases same : other = fd
      · simp [live, closeFd, same]
      · simp [live, closeFd, same]
  | ssl | block => simp [live, closeFd]

/-- an SSL object, -/
theorem live_setEngine_some (ssl : Ssl) (engine : Engine) :
    (s.setEngine ssl (some engine)).live r = true ↔ s.live r = true ∨ r = .ssl ssl := by
  cases r with
  | ssl other =>
      by_cases same : other = ssl
      · simp [live, setEngine, same]
      · simp [live, setEngine, same]
  | descriptor | block => simp [live, setEngine]

theorem live_setEngine_none (ssl : Ssl) :
    (s.setEngine ssl none).live r = true ↔ s.live r = true ∧ r ≠ .ssl ssl := by
  cases r with
  | ssl other =>
      by_cases same : other = ssl
      · simp [live, setEngine, same]
      · simp [live, setEngine, same]
  | descriptor | block => simp [live, setEngine]

/-- or a callback block. -/
theorem live_setAllocated_true (id : Nat) :
    (s.setAllocated id true).live r = true ↔ s.live r = true ∨ r = .block id := by
  cases r with
  | block other =>
      by_cases same : other = id
      · simp [live, setAllocated, same]
      · simp [live, setAllocated, same]
  | ssl | descriptor => simp [live, setAllocated]

theorem live_setAllocated_false (id : Nat) :
    (s.setAllocated id false).live r = true ↔ s.live r = true ∧ r ≠ .block id := by
  cases r with
  | block other =>
      by_cases same : other = id
      · simp [live, setAllocated, same]
      · simp [live, setAllocated, same]
  | ssl | descriptor => simp [live, setAllocated]

/-- A BIO is no resource of its own: it goes with its SSL object. -/
theorem live_setBio (ssl : Ssl) (bio : Bio) : (s.setBio ssl bio).live r = s.live r := by
  cases r with
  | ssl other =>
      by_cases same : other = ssl
      · simp [live, setBio, setEngine, same]
      · simp [live, setBio, setEngine, Function.update_of_ne same]
  | descriptor | block => rfl

/-- **A released object takes exactly what it held out of use.** -/
theorem live_release (object : QuicObject) :
    (s.release object).live r = true ↔ s.live r = true ∧ ¬ object.holding.Has r := by
  cases r with
  | ssl ssl =>
      unfold live QuicObject.holding Holding.Has
      rw [s.release_engine object]
      by_cases own : object.ssl = some ssl
      · simp [own, dropSsl, setEngine]
      · simp [own, s.dropSsl_engine_of_ne own]
  | descriptor fd =>
      unfold live QuicObject.holding Holding.Has
      rw [s.release_table object]
      by_cases own : object.ownFd = some fd
      · simp [own, dropFd, closeFd]
      · simp [own, s.dropFd_table_of_ne own]
  | block id =>
      unfold live QuicObject.holding Holding.Has
      rw [s.release_allocated object]
      by_cases own : object.ownAlpn = some id
      · simp [own, dropAlpn, setAllocated]
      · simp [own, s.dropAlpn_allocated_of_ne own]

end Updates

end Heap

/-! ### Careful calls -/

/-- The call releases only what is in use, and everything that depends on it is gone by then: no
stored object refers to the object that holds it, no other SSL object than those of stored objects
is in use, and none has its BIO on a descriptor that is closed. A new SSL object is made from one in
use. -/
def Call.Careful (s : Heap) : Call → Prop
  | .sslFree ssl =>
    s.live (.ssl ssl) = true ∧ s.NoChildOf (·.holding.Has (.ssl ssl)) ∧
      ∀ other, s.live (.ssl other) = true → other = ssl ∨ s.Owned (.ssl other)
  | .bioClosesocket fd =>
    s.live (.descriptor fd) = true ∧ s.NoChildOf (·.holding.Has (.descriptor fd)) ∧
      ∀ ssl engine socket, s.engine ssl = some engine → engine.bio ≠ some (fd, socket)
  | .efree id => s.live (.block id) = true ∧ s.NoChildOf (·.holding.Has (.block id))
  | .sslCtxFree ctx => s.NoChildOf fun object => ∃ obj, object = .listener obj ∧ obj.ctx = some ctx
  | .sslAcceptConnection ssl | .sslNewStream ssl _ | .sslAcceptStream ssl =>
    s.live (.ssl ssl) = true
  | _ => True

/-- The resource a call makes. -/
def Call.made : (call : Call) → Answer call → Option Resource
  | .bioSocket _, some fd => some (.descriptor fd)
  | .emalloc, id => some (.block id)
  | .sslNew _, some ssl => some (.ssl ssl)
  | .sslNewListener _, some ssl => some (.ssl ssl)
  | .sslAcceptConnection _, some ssl => some (.ssl ssl)
  | .sslNewStream .., some ssl => some (.ssl ssl)
  | .sslAcceptStream _, some ssl => some (.ssl ssl)
  | _, _ => none

/-- The resource a call releases. -/
def Call.released : Call → Option Resource
  | .sslFree ssl => some (.ssl ssl)
  | .bioClosesocket fd => some (.descriptor fd)
  | .efree id => some (.block id)
  | _ => none

/-- A resource that is new counts once more afterwards, -/
theorem gain_balances {s s' : Heap} {gained : Resource} (new : s.live gained = false)
    (after : ∀ r, s'.live r = true ↔ s.live r = true ∨ r = gained) (r : Resource) :
    (s.live r).toNat + (if some gained = some r then 1 else 0) = (s'.live r).toNat := by
  have here := after r
  by_cases same : r = gained
  · subst same
    simp [new, here.mpr (.inr rfl)]
  · have kept : s'.live r = s.live r := by simpa [same] using here
    simp [kept, Ne.symm same]

/-- and one that was in use once less. -/
theorem loss_balances {s s' : Heap} {lost : Resource} (old : s.live lost = true)
    (after : ∀ r, s'.live r = true ↔ s.live r = true ∧ r ≠ lost) (r : Resource) :
    (s.live r).toNat = (s'.live r).toNat + if some lost = some r then 1 else 0 := by
  have here := after r
  by_cases same : r = lost
  · subst same
    have gone : s'.live r = false := by simpa using here
    simp [old, gone]
  · have kept : s'.live r = s.live r := by simpa [same] using here
    simp [kept, Ne.symm same]

/-- A handle without an engine is no SSL object in use. -/
theorem live_of_engine_none {s : Heap} {ssl : Ssl} (unused : s.engine ssl = none) :
    s.live (.ssl ssl) = false := by
  simp [Heap.live, unused]

theorem live_of_closed {s : Heap} {fd : Fd} (closed : s.table fd = none) :
    s.live (.descriptor fd) = false := by
  simp [Heap.live, closed]

/-- A copy of a live engine. -/
theorem live_setEngine_copy {s : Heap} {root : Ssl} (rooted : s.live (.ssl root) = true) (ssl : Ssl)
    (r : Resource) :
    (s.setEngine ssl (s.engine root)).live r = true ↔ s.live r = true ∨ r = .ssl ssl := by
  obtain ⟨engine, here⟩ := Option.isSome_iff_exists.mp rooted
  rw [here]
  exact s.live_setEngine_some r ssl engine

/-- **The books balance**: with what a careful call makes and releases, what is in use after it is
what was in use before. -/
theorem owning_balances {s s' : Heap} {call : Call} {answer : Answer call}
    (careful : call.Careful s) (replied : owning s call answer s') (r : Resource) :
    (s.live r).toNat + (if call.made answer = some r then 1 else 0) =
      (s'.live r).toNat + if call.released = some r then 1 else 0 := by
  cases call with
  | bioSocket family =>
      cases answer with
      | none =>
          obtain rfl : s' = s := replied
          rfl
      | some fd =>
          obtain ⟨closed, rfl⟩ := replied
          exact gain_balances (live_of_closed closed) (fun r => s.live_openFd r fd) r
  | bioClosesocket fd =>
      obtain rfl : s' = _ := replied
      exact loss_balances careful.1 (fun r => s.live_closeFd r fd) r
  | bioNewDgram fd =>
      cases answer with
      | none =>
          obtain rfl : s' = s := replied
          rfl
      | some bio =>
          obtain rfl : s' = _ := replied
          cases r <;> rfl
  | sslSetBio ssl bio =>
      obtain rfl : s' = _ := replied
      rw [Heap.live_setBio]
      rfl
  | sslCtxNew server =>
      cases answer with
      | none =>
          obtain rfl : s' = s := replied
          rfl
      | some ctx =>
          obtain ⟨_, rfl⟩ := replied
          cases r <;> rfl
  | emalloc =>
      obtain ⟨free, rfl⟩ := replied
      have new : s.live (.block answer) = false := free
      exact gain_balances new (fun r => s.live_setAllocated_true r answer) r
  | efree id =>
      obtain rfl : s' = _ := replied
      exact loss_balances careful.1 (fun r => s.live_setAllocated_false r id) r
  | sslNew ctx | sslNewListener ctx =>
      cases answer with
      | none =>
          obtain rfl : s' = s := replied
          rfl
      | some ssl =>
          obtain ⟨unused, rfl⟩ := replied
          exact gain_balances (live_of_engine_none unused)
            (fun r => s.live_setEngine_some r ssl ⟨none, ctx⟩) r
  | sslAcceptConnection root | sslNewStream root | sslAcceptStream root =>
      cases answer with
      | none =>
          obtain rfl : s' = s := replied
          rfl
      | some ssl =>
          obtain ⟨unused, rfl⟩ := replied
          exact gain_balances (live_of_engine_none unused) (live_setEngine_copy careful ssl) r
  | sslFree ssl =>
      obtain rfl : s' = _ := replied
      exact loss_balances careful.1 (fun r => s.live_setEngine_none r ssl) r
  | loadObject object =>
      obtain ⟨_, rfl⟩ := replied
      rfl
  | phpStreamAlloc object =>
      cases answer with
      | none =>
          obtain rfl : s' = s := replied
          rfl
      | some stream =>
          obtain rfl : s' = _ := replied
          cases r <;> rfl
  | sslCtxSetAlpnSelectCb | gcAddref | gcDelref | objRelease =>
      obtain rfl : s' = _ := replied
      cases r <;> rfl
  | _ =>
      obtain rfl : s' = s := replied
      rfl

/-! ### Between two events -/

/-- **Every resource in use is held by a stored object, or is none of the extension's.** -/
structure Heap.Accounted (s : Heap) (foreign : Resource → Prop) : Prop where
  valid : s.Valid
  live_iff : ∀ r, s.live r = true ↔ foreign r ∨ s.Owned r
  disjoint : ∀ r, foreign r → ¬ s.Owned r
  ownSsl : ∀ ssl, ¬ foreign (.ssl ssl)

namespace Heap.Accounted

variable {s : Heap} {foreign : Resource → Prop} (accounted : s.Accounted foreign)
include accounted

/-- What a stored object holds is in use. -/
theorem live {id : ObjectId} {object : QuicObject} (stored : s.object id = some object)
    {r : Resource} (has : object.holding.Has r) : s.live r = true :=
  (accounted.live_iff r).mpr (.inr ⟨id, object, stored, has⟩)

/-- Every SSL object in use is held by a stored object. -/
theorem owned {ssl : Ssl} (used : s.live (.ssl ssl) = true) : s.Owned (.ssl ssl) :=
  ((accounted.live_iff _).mp used).resolve_left (accounted.ownSsl ssl)

theorem owner {ssl : Ssl} {engine : Engine} (here : s.engine ssl = some engine) :
    ∃ id object, s.object id = some object ∧ object.ssl = some ssl :=
  accounted.owned (Option.isSome_iff_exists.mpr ⟨engine, here⟩)

/-- It has an open socket. -/
theorem engine_open {ssl : Ssl} {engine : Engine} (here : s.engine ssl = some engine) :
    ∃ fd socket, engine.bio = some (fd, socket) ∧ s.table fd = some socket := by
  obtain ⟨id, object, stored, holds⟩ := accounted.owner here
  obtain ⟨fd, socket, ctx, same, _, opened, _⟩ := accounted.valid.sound id object ssl stored holds
  obtain rfl := Option.some.inj (here.symm.trans same)
  exact ⟨fd, socket, rfl, opened⟩

/-- The context of a stored listener is in use. -/
theorem ctx_used {id : ObjectId} {obj : PhpQuicListener} {ctx : SslCtx}
    (stored : s.object id = some (.listener obj)) (here : obj.ctx = some ctx) :
    ¬ s.CtxUnused ctx := by
  intro unused
  rcases accounted.valid.fits id _ stored with rfl | ⟨fd, socket, _, ssl, _, rfl, engine, _⟩
  · cases here
  · exact unused ssl _ engine (Option.some.inj here)

end Heap.Accounted

/-! ### What a constructor holds -/

/-- From `s`, what came to be in use is what is held now. -/
structure Heap.Grows (s : Heap) (hand : Holding) (s₁ : Heap) : Prop where
  spares : s.Spares s₁
  new : ∀ r, hand.Has r → s.live r = false
  live_iff : ∀ r, s₁.live r = true ↔ s.live r = true ∨ hand.Has r

namespace Heap.Grows

variable {s s₁ : Heap} {hand hand' : Holding}

/-- Nothing acquired yet. -/
theorem refl (s : Heap) : s.Grows .empty s := by
  refine ⟨.refl s, fun r has => absurd has (Holding.empty_has r), fun r => ?_⟩
  exact (or_iff_left (Holding.empty_has r)).symm

/-- What is free now was free at the start: only the hand was added. -/
theorem unused (grows : s.Grows hand s₁) {r : Resource} (free : s₁.live r = false) :
    s.live r = false := by
  by_contra used
  have here : s.live r = true := by simpa using used
  rw [grows.spares.live here] at free
  cases free

/-- **One more in the hand**: the resource was free, and is in use now. -/
theorem gain (grows : s.Grows hand s₁) {s₂ : Heap} {gained : Resource}
    (free : s₁.live gained = false) (spares : s.Spares s₂)
    (after : ∀ r, s₂.live r = true ↔ s₁.live r = true ∨ r = gained)
    (has : ∀ r, hand'.Has r ↔ hand.Has r ∨ r = gained) : s.Grows hand' s₂ := by
  refine ⟨spares, fun r here => ?_, fun r => ?_⟩
  · rcases (has r).mp here with before | rfl
    · exact grows.new r before
    · exact grows.unused free
  · rw [after, grows.live_iff, has, or_assoc]

/-- **One less in the hand**: it was in use, and is free again. -/
theorem lose (grows : s.Grows hand s₁) {s₂ : Heap} {lost : Resource} (held : hand.Has lost)
    (spares : s.Spares s₂) (after : ∀ r, s₂.live r = true ↔ s₁.live r = true ∧ r ≠ lost)
    (has : ∀ r, hand'.Has r ↔ hand.Has r ∧ r ≠ lost) : s.Grows hand' s₂ := by
  refine ⟨spares, fun r here => grows.new r ((has r).mp here).1, fun r => ?_⟩
  have old : s.live r = true → r ≠ lost := by
    rintro used rfl
    rw [grows.new r held] at used
    cases used
  rw [after, grows.live_iff, has]
  constructor
  · rintro ⟨before | before, different⟩
    · exact .inl before
    · exact .inr ⟨before, different⟩
  · rintro (before | ⟨before, different⟩)
    · exact ⟨.inl before, old before⟩
    · exact ⟨.inr before, different⟩

/-- The same is in use. -/
theorem same (grows : s.Grows hand s₁) {s₂ : Heap} (spares : s.Spares s₂)
    (after : ∀ r, s₂.live r = s₁.live r) : s.Grows hand s₂ :=
  ⟨spares, grows.new, fun r => after r ▸ grows.live_iff r⟩

end Heap.Grows

namespace Holding

variable {held : Holding}

theorem has_setSsl {ssl : Ssl} (idle : held.ssl = none) (r : Resource) :
    ({ held with ssl := some ssl } : Holding).Has r ↔ held.Has r ∨ r = .ssl ssl := by
  cases r with
  | ssl other => simp [Has, idle, eq_comm]
  | descriptor | block => simp [Has]

theorem has_setFd {fd : Fd} (idle : held.fd = none) (r : Resource) :
    ({ held with fd := some fd } : Holding).Has r ↔ held.Has r ∨ r = .descriptor fd := by
  cases r with
  | descriptor other => simp [Has, idle, eq_comm]
  | ssl | block => simp [Has]

theorem has_setBlock {id : Nat} (idle : held.block = none) (r : Resource) :
    ({ held with block := some id } : Holding).Has r ↔ held.Has r ∨ r = .block id := by
  cases r with
  | block other => simp [Has, idle, eq_comm]
  | ssl | descriptor => simp [Has]

theorem has_dropSsl {ssl : Ssl} (here : held.ssl = some ssl) (r : Resource) :
    ({ held with ssl := none } : Holding).Has r ↔ held.Has r ∧ r ≠ .ssl ssl := by
  cases r with
  | ssl other => simp [Has, here, eq_comm]
  | descriptor | block => simp [Has]

theorem has_dropFd {fd : Fd} (here : held.fd = some fd) (r : Resource) :
    ({ held with fd := none } : Holding).Has r ↔ held.Has r ∧ r ≠ .descriptor fd := by
  cases r with
  | descriptor other => simp [Has, here, eq_comm]
  | ssl | block => simp [Has]

theorem has_dropBlock {id : Nat} (here : held.block = some id) (r : Resource) :
    ({ held with block := none } : Holding).Has r ↔ held.Has r ∧ r ≠ .block id := by
  cases r with
  | block other => simp [Has, here, eq_comm]
  | ssl | descriptor => simp [Has]

end Holding

namespace Heap.Grows

variable {s s₁ : Heap} {hand : Holding}

/-- A socket is opened while the hand has none. -/
theorem openFd (grows : s.Grows hand s₁) {fd : Fd} (closed : s₁.table fd = none)
    (idle : hand.fd = none) : s.Grows { hand with fd := some fd } (s₁.openFd fd) :=
  grows.gain (live_of_closed closed) (grows.spares.openFd closed) (fun r => s₁.live_openFd r fd)
    (Holding.has_setFd idle)

/-- An SSL object is made on a handle that nothing in use has. -/
theorem makeSsl (grows : s.Grows hand s₁) {ssl : Ssl} (unused : s₁.engine ssl = none)
    (idle : hand.ssl = none) (engine : Engine) :
    s.Grows { hand with ssl := some ssl } (s₁.setEngine ssl (some engine)) :=
  grows.gain (live_of_engine_none unused)
    (grows.spares.setEngine (grows.spares.engine_none unused) _)
    (fun r => s₁.live_setEngine_some r ssl engine) (Holding.has_setSsl idle)

theorem allocate (grows : s.Grows hand s₁) {id : Nat} (free : s₁.allocated id = false)
    (idle : hand.block = none) :
    s.Grows { hand with block := some id } (s₁.setAllocated id true) := by
  have new : s₁.live (.block id) = false := free
  exact grows.gain new (grows.spares.setAllocated (grows.spares.not_allocated free) true)
    (fun r => s₁.live_setAllocated_true r id) (Holding.has_setBlock idle)

/-- The releases of a `cleanup` label take back what is in the hand: the descriptor, -/
theorem closeFd (grows : s.Grows hand s₁) {fd : Fd} (held : hand.fd = some fd) :
    s.Grows { hand with fd := none } (s₁.closeFd fd) := by
  have here : hand.Has (.descriptor fd) := held
  have closed : s.table fd = none := by simpa [live] using grows.new _ here
  exact grows.lose here (grows.spares.closeFd closed) (fun r => s₁.live_closeFd r fd)
    (Holding.has_dropFd held)

/-- the SSL object, -/
theorem dropSsl (grows : s.Grows hand s₁) {ssl : Ssl} (held : hand.ssl = some ssl) :
    s.Grows { hand with ssl := none } (s₁.setEngine ssl none) := by
  have here : hand.Has (.ssl ssl) := held
  have unused : s.engine ssl = none := by simpa [live] using grows.new _ here
  exact grows.lose here (grows.spares.setEngine unused none) (fun r => s₁.live_setEngine_none r ssl)
    (Holding.has_dropSsl held)

/-- and the callback data. -/
theorem dropBlock (grows : s.Grows hand s₁) {id : Nat} (held : hand.block = some id) :
    s.Grows { hand with block := none } (s₁.setAllocated id false) := by
  have here : hand.Has (.block id) := held
  have free : s.allocated id = false := grows.new _ here
  exact grows.lose here (grows.spares.setAllocated free false)
    (fun r => s₁.live_setAllocated_false r id) (Holding.has_dropBlock held)

/-- A BIO for the SSL object that is held. -/
theorem setBio (grows : s.Grows hand s₁) {ssl : Ssl} (held : hand.ssl = some ssl) (fd : Fd)
    (bio : Bio) : s.Grows hand ((s₁.makeBio bio fd).setBio ssl bio) := by
  have here : hand.Has (.ssl ssl) := held
  have unused : s.engine ssl = none := by simpa [live] using grows.new _ here
  refine grows.same ((grows.spares.makeBio bio fd).setBio unused bio) fun r => ?_
  rw [Heap.live_setBio]
  cases r <;> rfl

theorem setAlpnArg (grows : s.Grows hand s₁) {ctx : SslCtx} (unused : s.CtxUnused ctx)
    (arg : Option Nat) : s.Grows hand (s₁.setAlpnArg ctx arg) :=
  grows.same (grows.spares.setAlpnArg unused arg) fun r => by cases r <;> rfl

end Heap.Grows

end PhpQuic
