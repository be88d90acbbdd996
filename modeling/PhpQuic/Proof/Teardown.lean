/-
**The end of a request: objects are freed in an order of the engine's own.**

At the end of a request, and when it collects cycles, the engine runs the destructors of objects that
are still referred to. It takes a reference on each of them first, so that its memory stays.

* `teardown_releases`: in whatever order it does so, each SSL object, descriptor and callback block is
  released once, while it is in use; every reference that is given back was counted, on an object that
  is still there; and when every object was freed none of these that the extension made is in use.
* `teardown_careful`: as long as no object is freed before one that refers to it, every call is
  careful; and freeing an object that something refers to never is.

In the runs before no listener is closed: after `Listener::close()` a connection that was accepted
from it uses a descriptor and a callback block that are gone.
-/

import PhpQuic.Proof.ChildrenFirst
import PhpQuic.Proof.Counting

namespace PhpQuic

open Interact

/-! ### The steps -/

/-- What a destructor leaves behind: the object as it was created. Nobody looks at `closed` and
`owns_fd` of a connection any more. -/
def QuicObject.emptied : QuicObject → QuicObject
  | .connection _ => .connection quicConnectionCreate
  | .listener _ => .listener quicListenerCreate
  | .stream _ => .stream quicStreamCreate
  | .foreign => .foreign

/-- The engine's own reference. -/
def Heap.pin (s : Heap) (id : ObjectId) : Heap := (s.addref id).setUser id (s.user id + 1)

inductive TeardownEvent where
  /-- The destructor is called, and the object stays. -/
  | sweep (id : ObjectId)
  /-- No reference is left. -/
  | destroy (id : ObjectId)
  /-- A value of the script that held the object is gone. -/
  | dropReference (id : ObjectId)
  /-- A php_stream of the object is closed. -/
  | closeResource (id : ObjectId)

/-- An event, and the calls it made. -/
abbrev TeardownLabel := TeardownEvent × List (Exchange openssl Heap)

/-- **What the events do.** -/
inductive TeardownStep : Heap → TeardownLabel → Heap → Prop
  | sweep {s s₁ : Heap} {id : ObjectId} {object : QuicObject} {calls : List (Exchange openssl Heap)}
      (stored : s.object id = some object)
      (ran : Trace owning (freeObject object) (s.pin id) calls () s₁) :
      TeardownStep s (.sweep id, calls) (s₁.setObject id (some object.emptied))
  | destroy {s s₁ : Heap} {id : ObjectId} {object : QuicObject}
      {calls : List (Exchange openssl Heap)} (stored : s.object id = some object)
      (unreferenced : s.refcount id = 0) (ran : Trace owning (freeObject object) s calls () s₁) :
      TeardownStep s (.destroy id, calls) (s₁.setObject id none)
  | dropReference {s : Heap} {id : ObjectId} {object : QuicObject}
      (stored : s.object id = some object) (held : 0 < s.user id) :
      TeardownStep s (.dropReference id, []) ((s.delref id).setUser id (s.user id - 1))
  | closeResource {s s₁ : Heap} {id : ObjectId} {object : QuicObject} {rc : Int}
      {calls : List (Exchange openssl Heap)} (stored : s.object id = some object)
      (opened : 0 < s.adapters id)
      (ran : Trace owning (quicStreamOpClose (some id)) s calls rc s₁) :
      TeardownStep s (.closeResource id, calls) (s₁.setAdapters id (s₁.adapters id - 1))

theorem QuicObject.emptied_idle (object : QuicObject) : object.emptied.Idle := by
  cases object with
  | foreign => trivial
  | connection | listener | stream => exact rfl

theorem QuicObject.emptied_level (object : QuicObject) : object.emptied.level = object.level := by
  cases object <;> rfl

/-! ### What a destructor calls -/

/-- The call makes nothing. It releases what is in use, or a reference that is counted on an object
that is stored. -/
def Call.Frees (s : Heap) : Call → Prop
  | .sslFree ssl => s.live (.ssl ssl) = true
  | .bioClosesocket fd => s.live (.descriptor fd) = true
  | .efree id => s.live (.block id) = true
  | .objRelease object => 0 < s.refcount object ∧ s.object object ≠ none
  | .sslCtxFree _ | .zendStringRelease _ => True
  | _ => False

/-- **The books balance.** -/
theorem frees_balances {s s' : Heap} {call : Call} {answer : Answer call} (frees : call.Frees s)
    (replied : owning s call answer s') (r : Resource) :
    (s.live r).toNat = (s'.live r).toNat + if call.released = some r then 1 else 0 := by
  cases call with
  | sslFree ssl =>
      obtain rfl : s' = _ := replied
      exact loss_balances frees (fun r => s.live_setEngine_none r ssl) r
  | bioClosesocket fd =>
      obtain rfl : s' = _ := replied
      exact loss_balances frees (fun r => s.live_closeFd r fd) r
  | efree id =>
      obtain rfl : s' = _ := replied
      exact loss_balances frees (fun r => s.live_setAllocated_false r id) r
  | objRelease =>
      obtain rfl : s' = _ := replied
      cases r <;> rfl
  | sslCtxFree | zendStringRelease =>
      obtain rfl : s' = s := replied
      rfl
  | _ => exact frees.elim

/-- A part of a destructor. -/
abbrev Freeing {α : Type} (p : Quic α) (post : α → Heap → Prop) (s : Heap) : Prop :=
  Guarded owning Call.Frees p post s

theorem freeSsl_frees {own : Option Ssl} {s : Heap}
    (live : ∀ ssl, own = some ssl → s.live (.ssl ssl) = true) :
    Freeing (freeSsl own) (fun _ s' => s' = s.dropSsl own) s := by
  cases own with
  | none => exact .pure rfl
  | some ssl => exact .ask (live ssl rfl) fun _ _ replied => replied

theorem closeSocket_frees {own : Option Fd} {s : Heap}
    (live : ∀ fd, own = some fd → s.live (.descriptor fd) = true) :
    Freeing (closeSocket own) (fun _ s' => s' = s.dropFd own) s := by
  cases own with
  | none => exact .pure rfl
  | some fd => exact .ask (live fd rfl) fun _ _ replied => replied

theorem freeCtx_frees (own : Option SslCtx) (s : Heap) :
    Freeing (freeCtx own) (fun _ s' => s' = s) s := by
  cases own with
  | none => exact .pure rfl
  | some ctx => exact .ask trivial fun _ _ replied => replied

theorem freeAlpnData_frees {own : Option QuicAlpnData} {s : Heap}
    (live : ∀ data, own = some data → s.live (.block data.id) = true) :
    Freeing (freeAlpnData own) (fun _ s' => s' = s.dropAlpn (own.map QuicAlpnData.id)) s := by
  cases own with
  | none => exact .pure rfl
  | some data =>
      refine .ask_bind trivial fun _ s₁ replied => ?_
      obtain rfl : s₁ = s := replied
      exact .ask (live data rfl) fun _ _ replied => replied

theorem releaseObject_frees {own : Option ObjectId} {s : Heap}
    (counted : ∀ id, own = some id → 0 < s.refcount id ∧ s.object id ≠ none) :
    Freeing (releaseObject own) (fun _ s' => s' = s.dropRef own) s := by
  cases own with
  | none => exact .pure rfl
  | some id => exact .ask (counted id rfl) fun _ _ replied => replied

namespace Heap

variable (s : Heap) (own : Option Ssl) (ownFd : Option Fd)

theorem live_dropSsl_descriptor (fd : Fd) :
    (s.dropSsl own).live (.descriptor fd) = s.live (.descriptor fd) := by
  cases own <;> rfl

theorem live_drops_block (id : Nat) :
    ((s.dropSsl own).dropFd ownFd).live (.block id) = s.live (.block id) := by
  cases own <;> cases ownFd <;> rfl

theorem drops_kept (ownAlpn : Option Nat) :
    (((s.dropSsl own).dropFd ownFd).dropAlpn ownAlpn).refcount = s.refcount ∧
      (((s.dropSsl own).dropFd ownFd).dropAlpn ownAlpn).object = s.object := by
  cases own <;> cases ownFd <;> cases ownAlpn <;> exact ⟨rfl, rfl⟩

end Heap

/-- **The destructor of an object whose resources are in use**, wherever it is called. -/
theorem freeObject_frees {object : QuicObject} {s : Heap}
    (live : ∀ r, object.holding.Has r → s.live r = true)
    (counted : ∀ id, object.parent = some id → 0 < s.refcount id ∧ s.object id ≠ none) :
    Freeing (freeObject object) (fun _ s' => s' = s.release object) s := by
  have ssl : Freeing (freeSsl object.ssl) (fun _ s' => s' = s.dropSsl object.ssl) s :=
    freeSsl_frees fun ssl own => live (.ssl ssl) own
  have fd : Freeing (closeSocket object.ownFd)
      (fun _ s' => s' = (s.dropSsl object.ssl).dropFd object.ownFd) (s.dropSsl object.ssl) :=
    closeSocket_frees fun fd own =>
      (s.live_dropSsl_descriptor object.ssl fd).trans (live (.descriptor fd) own)
  have reference : Freeing (releaseObject object.parent) (fun _ s' => s' = s.release object)
      (((s.dropSsl object.ssl).dropFd object.ownFd).dropAlpn object.ownAlpn) := by
    refine releaseObject_frees fun id refers => ?_
    obtain ⟨refcount, objects⟩ := s.drops_kept object.ssl object.ownFd object.ownAlpn
    rw [refcount, objects]
    exact counted id refers
  cases object with
  | connection obj =>
      refine .bind ssl fun _ s₁ first => ?_
      subst first
      refine .bind fd fun _ s₂ second => ?_
      subst second
      exact reference
  | listener obj =>
      have released : Freeing (quicListenerRelease obj)
          (fun _ s' => s' = s.release (.listener obj)) s := by
        refine .bind ssl fun _ s₁ first => ?_
        subst first
        refine .bind fd fun _ s₂ second => ?_
        subst second
        refine .bind (freeCtx_frees obj.ctx _) fun _ s₃ same => ?_
        subst same
        refine .bind (freeAlpnData_frees fun data own => ?_) fun _ _ third => .pure third
        rw [Heap.live_drops_block]
        exact live (.block data.id) (congrArg (Option.map QuicAlpnData.id) own)
      exact .bind released fun _ _ same => .pure same
  | stream obj =>
      refine .bind ssl fun _ s₁ first => ?_
      subst first
      exact reference
  | foreign => exact .pure rfl

/-! ### What holds in any order -/

/-- Every resource in use has one holder among the stored objects, or is none of the extension's. -/
structure Heap.Booked (s : Heap) (foreign : Resource → Prop) : Prop where
  tallied : s.Tallied
  apart : ∀ id object other object', s.object id = some object → s.object other = some object' →
    id ≠ other → object.Apart object'
  live_iff : ∀ r, s.live r = true ↔ foreign r ∨ s.Owned r
  disjoint : ∀ r, foreign r → ¬ s.Owned r

theorem Heap.Accounted.booked {s : Heap} {foreign : Resource → Prop}
    (accounted : s.Accounted foreign) (tallied : s.Tallied) : s.Booked foreign :=
  ⟨tallied, accounted.valid.apart, accounted.live_iff, accounted.disjoint⟩

namespace Heap.Booked

variable {s s' : Heap} {foreign : Resource → Prop} (booked : s.Booked foreign)
include booked

theorem live {id : ObjectId} {object : QuicObject} (stored : s.object id = some object)
    {r : Resource} (has : object.holding.Has r) : s.live r = true :=
  (booked.live_iff r).mpr (.inr ⟨id, object, stored, has⟩)

/-- No object has changed. -/
theorem of_same (object : s'.object = s.object) (live : ∀ r, s'.live r = s.live r)
    (tallied : s'.Tallied) : s'.Booked foreign := by
  have owned (r : Resource) : s'.Owned r ↔ s.Owned r := by
    unfold Heap.Owned
    rw [object]
  refine ⟨tallied, by rw [object]; exact booked.apart, fun r => ?_, fun r strange => ?_⟩
  · rw [live, owned]
    exact booked.live_iff r
  · rw [owned]
    exact booked.disjoint r strange

/-- An object was released. -/
theorem free {id : ObjectId} {object : QuicObject} (stored : s.object id = some object)
    {left : Option QuicObject} (idle : ∀ held, left = some held → held.Idle)
    (tallied : ((s.release object).setObject id left).Tallied) :
    ((s.release object).setObject id left).Booked foreign := by
  have live (r : Resource) : ((s.release object).setObject id left).live r = true ↔
      s.live r = true ∧ ¬ object.holding.Has r := by
    rw [← s.live_release r object]
    cases r <;> exact Iff.rfl
  have map : ((s.release object).setObject id left).object = Function.update s.object id left := by
    rw [← (s.release_kept object).2.1]
    rfl
  have before {other : ObjectId} {held : QuicObject}
      (now : ((s.release object).setObject id left).object other = some held) :
      held.Idle ∨ other ≠ id ∧ s.object other = some held := by
    rw [map] at now
    by_cases same : other = id
    · rw [same, Function.update_self] at now
      exact .inl (idle held now)
    · rw [Function.update_of_ne same] at now
      exact .inr ⟨same, now⟩
  have owned (r : Resource) : ((s.release object).setObject id left).Owned r ↔
      s.Owned r ∧ ¬ object.holding.Has r := by
    constructor
    · rintro ⟨other, held, now, has⟩
      rcases before now with empty | ⟨different, there⟩
      · rw [empty.holding] at has
        exact (Holding.empty_has r has).elim
      · have apart := booked.apart id object other held stored there (Ne.symm different)
        exact ⟨⟨other, held, there, has⟩, apart.has has⟩
    · rintro ⟨⟨other, held, there, has⟩, gone⟩
      have different : other ≠ id := by
        rintro rfl
        exact gone (Option.some.inj (there.symm.trans stored) ▸ has)
      refine ⟨other, held, ?_, has⟩
      rw [map, Function.update_of_ne different]
      exact there
  refine ⟨tallied, fun first held second held' now now' different => ?_, fun r => ?_,
    fun r strange => ?_⟩
  · rcases before now with empty | ⟨_, there⟩
    · exact empty.apart held'
    rcases before now' with empty | ⟨_, there'⟩
    · exact (empty.apart held).symm
    · exact booked.apart first held second held' there there' different
  · rw [live, owned, booked.live_iff, or_and_right]
    refine or_congr_left (and_iff_left_of_imp fun strange has => ?_)
    exact booked.disjoint r strange ⟨id, object, stored, has⟩
  · rw [owned]
    exact fun ⟨held, _⟩ => booked.disjoint r strange held

/-- The engine takes a reference. -/
theorem pin (id : ObjectId) : (s.pin id).Booked foreign :=
  booked.of_same rfl (fun r => by cases r <;> rfl)
    (booked.tallied.recount_user id fun counted => by omega)

/-- What a stored object refers to is stored, and that reference is counted. -/
theorem parent_counted {id parent : ObjectId} {object : QuicObject}
    (stored : s.object id = some object) (refers : object.parent = some parent) :
    0 < s.refcount parent ∧ s.object parent ≠ none := by
  obtain ⟨top, there, _⟩ := booked.tallied.above id object stored parent refers
  have referred : s.children parent ≠ 0 := fun childless =>
    Heap.parent_ne_of_childless childless stored (booked.tallied.bounded id object stored) refers
  have counted := booked.tallied.counted parent top there
  refine ⟨by omega, ?_⟩
  rw [there]
  exact Option.some_ne_none top

/-- **The destructor of a stored object.** -/
theorem freeing {id : ObjectId} {object : QuicObject} (stored : s.object id = some object) :
    Freeing (freeObject object) (fun _ s' => s' = s.release object) s :=
  freeObject_frees (fun _ has => booked.live stored has)
    fun _ refers => booked.parent_counted stored refers

end Heap.Booked

/-- A traced part of a destructor releases what it calls for, and no more. -/
theorem Freeing.balances {α : Type} {p : Quic α} {post : α → Heap → Prop} {s s₁ : Heap}
    (freeing : Freeing p post s) {calls : List (Exchange openssl Heap)} {value : α}
    (ran : Trace owning p s calls value s₁) :
    (∀ exchange ∈ calls, exchange.call.Frees exchange.before) ∧ post value s₁ ∧
      ∀ r, (s.live r).toNat = (s₁.live r).toNat + calls.countP (releasedIn r) := by
  obtain ⟨frees, after⟩ := freeing.trace ran
  refine ⟨frees, after, fun r => ?_⟩
  have allowed := ran.allowed
  have balance := ran.balance (fun s => (s.live r).toNat) (fun _ => false) (releasedIn r)
    fun exchange member => by
      simpa [releasedIn] using frees_balances (frees exchange member) (allowed exchange member) r
  simpa using balance

/-- **One step, in any order.** -/
theorem TeardownStep.booked {s s' : Heap} {label : TeardownLabel} {foreign : Resource → Prop}
    (step : TeardownStep s label s') (booked : s.Booked foreign) :
    s'.Booked foreign ∧ (∀ exchange ∈ label.2, exchange.call.Frees exchange.before) ∧
      ∀ r, (s.live r).toNat = (s'.live r).toNat + label.2.countP (releasedIn r) := by
  cases step with
  | @sweep s₁ id object calls stored ran =>
      have pinned := booked.pin id
      obtain ⟨frees, rfl, balance⟩ := (pinned.freeing stored).balances ran
      have tallied := pinned.tallied.empty stored object.emptied_level
        object.emptied_idle.empty.2.2.2
      refine ⟨pinned.free stored (fun held same => ?_) tallied, frees, fun r => ?_⟩
      · exact Option.some.inj same ▸ object.emptied_idle
      · have before : (s.pin id).live r = s.live r := by cases r <;> rfl
        have after : (((s.pin id).release object).setObject id (some object.emptied)).live r =
            ((s.pin id).release object).live r := by cases r <;> rfl
        rw [after, ← before]
        exact balance r
  | @destroy s₁ id object calls stored unreferenced ran =>
      obtain ⟨frees, rfl, balance⟩ := (booked.freeing stored).balances ran
      have counted := booked.tallied.counted id object stored
      have tallied := booked.tallied.destroy stored (by omega)
      refine ⟨booked.free stored nofun tallied, frees, fun r => ?_⟩
      have after : ((s.release object).setObject id none).live r = (s.release object).live r := by
        cases r <;> rfl
      rw [after]
      exact balance r
  | @dropReference id object stored held =>
      refine ⟨booked.of_same rfl (fun r => by cases r <;> rfl) ?_, nofun, fun r => ?_⟩
      · exact booked.tallied.recount_user id fun counted => by omega
      · cases r <;> rfl
  | @closeResource s₁ id object rc calls stored opened ran =>
      have counted := booked.tallied.counted id object stored
      have here : 0 < s.refcount id ∧ s.object id ≠ none :=
        ⟨by omega, stored ▸ Option.some_ne_none object⟩
      have freeing : Freeing (quicStreamOpClose (some id)) (fun _ s' => s' = s.delref id) s :=
        .bind (releaseObject_frees fun other same => Option.some.inj same ▸ here)
          fun _ _ same => .pure same
      obtain ⟨frees, rfl, balance⟩ := freeing.balances ran
      have adapters : (s.delref id).adapters = s.adapters := rfl
      refine ⟨booked.of_same rfl (fun r => by cases r <;> rfl) ?_, frees, fun r => ?_⟩
      · refine booked.tallied.recount_adapters id fun counted => ?_
        rw [adapters]
        omega
      · have after : ((s.delref id).setAdapters id ((s.delref id).adapters id - 1)).live r =
            (s.delref id).live r := by cases r <;> rfl
        rw [after]
        exact balance r

/-! ### Every teardown -/

/-- All calls of a teardown, in order. -/
def teardownCalls (labels : List TeardownLabel) : List (Exchange openssl Heap) :=
  labels.flatMap Prod.snd

theorem path_booked {s s' : Heap} {labels : List TeardownLabel} {foreign : Resource → Prop}
    (path : Path TeardownStep s labels s') (booked : s.Booked foreign) :
    s'.Booked foreign ∧
      (∀ exchange ∈ teardownCalls labels, exchange.call.Frees exchange.before) ∧
      ∀ r, (s.live r).toNat =
        (s'.live r).toNat + (teardownCalls labels).countP (releasedIn r) := by
  induction path with
  | nil => exact ⟨booked, nofun, fun _ => rfl⟩
  | @cons s s₁ s₂ label labels first _ ih =>
      obtain ⟨after, frees, balance⟩ := first.booked booked
      obtain ⟨last, later, rest⟩ := ih after
      have calls : teardownCalls (label :: labels) = label.2 ++ teardownCalls labels := rfl
      refine ⟨last, fun exchange member => ?_, fun r => ?_⟩
      · rw [calls, List.mem_append] at member
        exact member.elim (frees exchange) (later exchange)
      · have here := balance r
        have next := rest r
        rw [calls, List.countP_append]
        omega

theorem path_tallied_of_traced {start s : Heap} {labels : List LifeLabel}
    (empty : ∀ id, start.object id = none) (path : Path TracedStep start labels s) : s.Tallied :=
  path.invariant (fun _ _ _ before step => step.lifeStep.tallied before) (.of_empty empty)

/-- **In any order, each SSL object, descriptor and callback block is released once**, after a run in
which no listener was closed. -/
theorem teardown_releases {start s s' : Heap} {labels : List LifeLabel}
    {ends : List TeardownLabel} (fresh : start.Fresh) (path : Path TracedStep start labels s)
    (teardown : Path TeardownStep s ends s') :
    (∀ exchange ∈ teardownCalls ends, exchange.call.Frees exchange.before) ∧
    (∀ id object, s'.object id = some object →
      s'.refcount id = s'.user id + s'.adapters id + s'.children id) ∧
    (∀ r, ¬ Foreign start labels r → timesMade labels r =
      timesReleased labels r + (teardownCalls ends).countP (releasedIn r) + (s'.live r).toNat) ∧
    (∀ r, Foreign start labels r → s'.live r = true) ∧
    ((∀ id object, s'.object id = some object → object.Idle) →
      ∀ r, s'.live r = true ↔ Foreign start labels r) := by
  have accounted := path_accounted path fresh.accounted
  have booked := accounted.booked (path_tallied_of_traced fresh.object path)
  obtain ⟨after, frees, balance⟩ := path_booked teardown booked
  refine ⟨frees, after.tallied.counted, fun r own => ?_,
    fun r strange => (after.live_iff r).mpr (.inl strange), fun idle r => ?_⟩
  · have before := (children_first fresh path).balanced r own
    have here := balance r
    omega
  · rw [after.live_iff]
    refine or_iff_left ?_
    rintro ⟨id, object, stored, has⟩
    rw [(idle id object stored).holding] at has
    exact Holding.empty_has r has

/-! ### Children first -/

/-- No object is freed while another one refers to it. -/
def TeardownEvent.Safe (s : Heap) : TeardownEvent → Prop
  | .sweep id => s.children id = 0
  | _ => True

/-- A step that is safe where it is taken. -/
def SafeTeardownStep (s : Heap) (label : TeardownLabel) (s' : Heap) : Prop :=
  TeardownStep s label s' ∧ label.1.Safe s

/-- Every call of the step is careful. -/
def TeardownLabel.Careful (label : TeardownLabel) : Prop :=
  ∀ exchange ∈ label.2, exchange.call.Careful exchange.before

theorem Heap.Accounted.pin {s : Heap} {foreign : Resource → Prop} (accounted : s.Accounted foreign)
    (id : ObjectId) : (s.pin id).Accounted foreign :=
  accounted.of_same rfl (fun r => by cases r <;> rfl)
    (accounted.valid.recount_user id fun counted => by omega)

/-- **A safe step** is careful, and everything in use is sound after it. -/
theorem SafeTeardownStep.careful {s s' : Heap} {label : TeardownLabel}
    {foreign : Resource → Prop} (step : SafeTeardownStep s label s')
    (accounted : s.Accounted foreign) (tallied : s.Tallied) :
    label.Careful ∧ s'.Accounted foreign := by
  obtain ⟨step, safe⟩ := step
  have after := (step.booked (accounted.booked tallied)).1
  have account (valid : s'.Valid) : s'.Accounted foreign :=
    ⟨valid, after.live_iff, after.disjoint, accounted.ownSsl⟩
  cases step with
  | @sweep s₁ id object calls stored ran =>
      have pinned := accounted.pin id
      have careful := freeObject_careful pinned stored safe
      obtain rfl := freeObject_releases object _ () s₁ ran.run
      refine ⟨(careful.trace ran).1, account (pinned.valid.free stored safe fun held same => ?_)⟩
      exact Option.some.inj same ▸ object.emptied_idle
  | @destroy s₁ id object calls stored unreferenced ran =>
      have counted := tallied.counted id object stored
      have childless : s.children id = 0 := by omega
      have careful := freeObject_careful accounted stored childless
      obtain rfl := freeObject_releases object _ () s₁ ran.run
      exact ⟨(careful.trace ran).1, account (accounted.valid.free stored childless nofun)⟩
  | @dropReference id object stored held =>
      exact ⟨nofun, account (accounted.valid.recount_user id fun counted => by omega)⟩
  | @closeResource s₁ id object rc calls stored opened ran =>
      obtain rfl : s₁ = s.delref id := opClose_counts id s rc s₁ ran.run
      have adapters : (s.delref id).adapters = s.adapters := rfl
      have careful : Carefully (quicStreamOpClose (some id)) (fun _ _ => True) s :=
        .bind (.ask trivial fun _ _ _ => trivial) fun _ _ _ => .pure trivial
      refine ⟨(careful.trace ran).1, account (accounted.valid.recount_adapters id fun counted => ?_)⟩
      rw [adapters]
      omega

/-- The destructor of an object with an SSL object frees that first. -/
theorem freeObject_trace {object : QuicObject} {ssl : Ssl} (own : object.ssl = some ssl)
    {s s₁ : Heap} {calls : List (Exchange openssl Heap)}
    (ran : Trace owning (freeObject object) s calls () s₁) :
    ∃ exchange ∈ calls, exchange.before = s ∧ exchange.call = .sslFree ssl := by
  cases object with
  | connection obj =>
      obtain ⟨_, _, _, _, _⟩ := obj
      obtain rfl : _ = some ssl := own
      cases ran with
      | ask _ _ => exact ⟨_, List.mem_cons_self, rfl, rfl⟩
  | listener obj =>
      obtain ⟨_, _, _, _⟩ := obj
      obtain rfl : _ = some ssl := own
      cases ran with
      | ask _ _ => exact ⟨_, List.mem_cons_self, rfl, rfl⟩
  | stream obj =>
      obtain ⟨_, _⟩ := obj
      obtain rfl : _ = some ssl := own
      cases ran with
      | ask _ _ => exact ⟨_, List.mem_cons_self, rfl, rfl⟩
  | foreign => cases own

/-- **An object in use is freed with care exactly if nothing refers to it.** -/
theorem TeardownStep.careful_iff {s s' : Heap} {id : ObjectId} {object : QuicObject}
    {calls : List (Exchange openssl Heap)} {foreign : Resource → Prop}
    (step : TeardownStep s (.sweep id, calls) s') (stored : s.object id = some object)
    (used : object.ssl ≠ none) (accounted : s.Accounted foreign) (tallied : s.Tallied) :
    TeardownLabel.Careful (.sweep id, calls) ↔ s.children id = 0 := by
  refine ⟨fun careful => ?_, fun childless => ?_⟩
  · by_contra referred
    obtain ⟨child, held, there, refers⟩ := Heap.exists_child referred
    obtain ⟨ssl, own⟩ := Option.ne_none_iff_exists'.mp used
    cases step with
    | @sweep s₁ _ object' _ stored' ran =>
        obtain rfl : object = object' := Option.some.inj (stored.symm.trans stored')
        obtain ⟨exchange, member, before, call⟩ := freeObject_trace own ran
        have here := careful exchange member
        rw [before, call] at here
        exact here.2.1 id object child held stored own there refers
  · exact (SafeTeardownStep.careful ⟨step, childless⟩ accounted tallied).1

theorem path_teardown_careful {s s' : Heap} {labels : List TeardownLabel}
    {foreign : Resource → Prop} (path : Path SafeTeardownStep s labels s')
    (accounted : s.Accounted foreign) (tallied : s.Tallied) :
    (∀ label ∈ labels, label.Careful) ∧ s'.Accounted foreign ∧ s'.Tallied := by
  induction path with
  | nil => exact ⟨nofun, accounted, tallied⟩
  | cons first _ ih =>
      obtain ⟨careful, after⟩ := first.careful accounted tallied
      have counted := (first.1.booked (accounted.booked tallied)).1.tallied
      obtain ⟨later, last⟩ := ih after counted
      exact ⟨List.forall_mem_cons.mpr ⟨careful, later⟩, last⟩

/-- **With children first every call is careful, and out of that order it is not**, after a run in
which no listener was closed. -/
theorem teardown_careful {start s s' : Heap} {labels : List LifeLabel}
    {ends : List TeardownLabel} (fresh : start.Fresh) (path : Path TracedStep start labels s)
    (teardown : Path SafeTeardownStep s ends s') :
    (∀ label ∈ ends, label.Careful) ∧ s'.Sound ∧
    ∀ id object calls s'', s'.object id = some object → object.ssl ≠ none →
      TeardownStep s' (.sweep id, calls) s'' →
        (TeardownLabel.Careful (.sweep id, calls) ↔ s'.children id = 0) := by
  have accounted := path_accounted path fresh.accounted
  have tallied := path_tallied_of_traced fresh.object path
  obtain ⟨careful, after, counted⟩ := path_teardown_careful teardown accounted tallied
  exact ⟨careful, after.valid.sound, fun id object calls s'' stored used step =>
    step.careful_iff stored used after counted⟩

/-! ### A listener and the connection accepted from it -/

theorem TeardownStep.sweepable {s : Heap} {id : ObjectId} {object : QuicObject}
    (stored : s.object id = some object) : ∃ calls, TeardownStep s (.sweep id, calls)
      (((s.pin id).release object).setObject id (some object.emptied)) := by
  obtain ⟨calls, ran⟩ := run_iff_trace.mp (freeObject_run object (s.pin id))
  exact ⟨calls, .sweep stored ran⟩

theorem acceptedHeap_path : ∃ labels, Path TracedStep emptyHeap labels acceptedHeap := by
  obtain ⟨labels, _, path⟩ := Path.traced (.cons ⟨.create .listener, trivial⟩
    (.cons ⟨listeningHeap_step, trivial⟩ (.single ⟨acceptedHeap_step, trivial⟩)))
  exact ⟨labels, path⟩

/-- The listener is freed while the connection refers to it. -/
def parentSweptHeap : Heap :=
  ((acceptedHeap.pin 0).release (.listener boundListener)).setObject 0
    (some (.listener quicListenerCreate))

def bothSweptHeap : Heap :=
  ((parentSweptHeap.pin 1).release (.connection borrowingConnection)).setObject 1
    (some (.connection quicConnectionCreate))

theorem bothSweptHeap_idle {id : ObjectId} {object : QuicObject} (inside : id < 2)
    (stored : bothSweptHeap.object id = some object) : object.Idle := by
  rcases Nat.le_one_iff_eq_zero_or_eq_one.mp (Nat.lt_succ_iff.mp inside) with rfl | rfl
  · obtain rfl : QuicObject.listener quicListenerCreate = object := Option.some.inj stored
    exact rfl
  · obtain rfl : QuicObject.connection quicConnectionCreate = object := Option.some.inj stored
    exact rfl

theorem teardown_releases_example : ∃ labels ends,
    Path TracedStep emptyHeap labels acceptedHeap ∧
      Path TeardownStep acceptedHeap ends bothSweptHeap ∧
        ∀ r, bothSweptHeap.live r = true ↔ Foreign emptyHeap labels r := by
  obtain ⟨labels, path⟩ := acceptedHeap_path
  obtain ⟨first, parent⟩ : ∃ calls, TeardownStep acceptedHeap (.sweep 0, calls) parentSweptHeap :=
    TeardownStep.sweepable rfl
  obtain ⟨second, child⟩ : ∃ calls,
      TeardownStep parentSweptHeap (.sweep 1, calls) bothSweptHeap := TeardownStep.sweepable rfl
  have teardown := Path.cons parent (.single child)
  have fresh : emptyHeap.Fresh := ⟨fun _ => rfl, fun _ => rfl⟩
  have booked := (path_accounted path fresh.accounted).booked
    (path_tallied_of_traced fresh.object path)
  have bounded := (path_booked teardown booked).1.tallied.bounded
  obtain ⟨_, _, _, _, nothing⟩ := teardown_releases fresh path teardown
  exact ⟨labels, _, path, teardown, nothing fun id object stored =>
    bothSweptHeap_idle (bounded id object stored) stored⟩

/-- The connection first is careful; the listener first is not. -/
theorem teardown_careful_example :
    (∃ calls s', TeardownStep acceptedHeap (.sweep 1, calls) s' ∧
      TeardownLabel.Careful (.sweep 1, calls)) ∧
    ∃ calls, TeardownStep acceptedHeap (.sweep 0, calls) parentSweptHeap ∧
      ¬ TeardownLabel.Careful (.sweep 0, calls) := by
  obtain ⟨labels, path⟩ := acceptedHeap_path
  have fresh : emptyHeap.Fresh := ⟨fun _ => rfl, fun _ => rfl⟩
  obtain ⟨_, _, exactly⟩ := teardown_careful fresh path (.nil acceptedHeap)
  obtain ⟨first, child⟩ := TeardownStep.sweepable
    (rfl : acceptedHeap.object 1 = some (.connection borrowingConnection))
  obtain ⟨second, parent⟩ : ∃ calls, TeardownStep acceptedHeap (.sweep 0, calls) parentSweptHeap :=
    TeardownStep.sweepable rfl
  refine ⟨⟨first, _, child, ?_⟩, second, parent, fun careful => ?_⟩
  · exact (exactly 1 _ first _ rfl nofun child).mpr (by decide)
  · have childless := (exactly 0 (.listener boundListener) second _ rfl nofun parent).mp careful
    exact absurd childless (by decide)

end PhpQuic
