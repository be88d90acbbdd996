/-
**The references on listeners, connections and streams, in every run.**

`Heap.Tallied` is the part of the invariant that does not need the resources: it also holds in the
runs that close a listener under the connections accepted from it.

* `LifeStep.tallied`: every step keeps it.
* `path_tallied`: in every run the count of an object is the number of references on it, what an
  object refers to is stored and of the kind above it, and no destructor runs while something refers
  to its object.
-/

import PhpQuic.Proof.Lifecycle

namespace PhpQuic

open Interact

/-! ### The invariant -/

/-- A stream refers to a connection, and a connection to a listener. -/
def QuicObject.level : QuicObject → Nat
  | .stream _ => 2
  | .connection _ => 1
  | .listener _ | .foreign => 0

/-- What the object refers to is stored, one level above it. -/
def Heap.Above (s : Heap) (object : QuicObject) : Prop :=
  ∀ parent, object.parent = some parent →
    ∃ held, s.object parent = some held ∧ object.level = held.level + 1

/-- **The references add up.** -/
structure Heap.Tallied (s : Heap) : Prop where
  bounded : ∀ id object, s.object id = some object → id < s.bound
  counted : ∀ id object, s.object id = some object →
    s.refcount id = s.user id + s.adapters id + s.children id
  above : ∀ id object, s.object id = some object → s.Above object
  idle : ∀ id object, s.object id = some object → object.ssl = none → object.parent = none

/-- From `s`, a new object with the reference it takes. -/
structure Heap.Brings (s : Heap) (made : QuicObject) (s₁ : Heap) : Prop where
  object : s₁.object = s.object
  bound : s₁.bound = s.bound
  user : s₁.user = s.user
  adapters : s₁.adapters = s.adapters
  refcount : ∀ id, s₁.refcount id = s.refcount id + if made.parent = some id then 1 else 0
  above : s.Above made
  idle : made.ssl = none → made.parent = none

namespace Heap

theorem Tallied.of_empty {s : Heap} (empty : ∀ id, s.object id = none) : s.Tallied := by
  have nothing {id : ObjectId} {object : QuicObject} (stored : s.object id = some object) : False := by
    rw [empty] at stored
    cases stored
  exact ⟨fun _ _ stored => (nothing stored).elim, fun _ _ stored => (nothing stored).elim,
    fun _ _ stored => (nothing stored).elim, fun _ _ stored => (nothing stored).elim⟩

/-- Nothing refers to what is not stored. -/
theorem Tallied.childless {s : Heap} (tallied : s.Tallied) {parent : ObjectId}
    (unstored : s.object parent = none) : s.children parent = 0 := by
  by_contra referred
  obtain ⟨child, held, there, refers⟩ := exists_child referred
  obtain ⟨_, stored, _⟩ := tallied.above child held there parent refers
  cases unstored.symm.trans stored

theorem Above.mono {s s' : Heap} {object : QuicObject} (above : s.Above object)
    (kept : ∀ id held, s.object id = some held → object.parent = some id →
      ∃ left, s'.object id = some left ∧ left.level = held.level) : s'.Above object := by
  intro parent refers
  obtain ⟨held, stored, level⟩ := above parent refers
  obtain ⟨left, there, same⟩ := kept parent held stored refers
  exact ⟨left, there, same ▸ level⟩

end Heap

/-! ### What the steps do to it -/

section Updates

variable {s s₁ : Heap} (tallied : s.Tallied)
include tallied

/-- No object has changed. -/
theorem Heap.Tallied.of_same {s' : Heap} (object : s'.object = s.object)
    (bound : s'.bound = s.bound)
    (counted : ∀ id, s.refcount id = s.user id + s.adapters id + s.children id →
      s'.refcount id = s'.user id + s'.adapters id + s.children id) : s'.Tallied := by
  refine ⟨?_, fun id held stored => ?_, fun id held stored => ?_, ?_⟩
  · rw [object, bound]
    exact tallied.bounded
  · rw [object] at stored
    rw [Heap.children_congr object bound]
    exact counted id (tallied.counted id held stored)
  · rw [object] at stored
    exact (tallied.above id held stored).mono fun other held there _ => ⟨held, object ▸ there, rfl⟩
  · rw [object]
    exact tallied.idle

/-- The count of one object, the script's references and the php_streams change together. -/
theorem Heap.Tallied.recount (id : ObjectId) {refcount user adapters : Nat}
    (balanced : s.refcount id = s.user id + s.adapters id + s.children id →
      refcount = user + adapters + s.children id) :
    ({ s with
      refcount := Function.update s.refcount id refcount
      user := Function.update s.user id user
      adapters := Function.update s.adapters id adapters } : Heap).Tallied := by
  refine tallied.of_same rfl rfl fun other counted => ?_
  dsimp only
  by_cases same : other = id
  · subst same
    rw [Function.update_self, Function.update_self, Function.update_self]
    exact balanced counted
  · rw [Function.update_of_ne same, Function.update_of_ne same, Function.update_of_ne same]
    exact counted

theorem Heap.Tallied.recount_user (id : ObjectId) {refcount user : Nat}
    (balanced : s.refcount id = s.user id + s.adapters id + s.children id →
      refcount = user + s.adapters id + s.children id) :
    ({ s with
      refcount := Function.update s.refcount id refcount
      user := Function.update s.user id user } : Heap).Tallied := by
  have recounted := tallied.recount id balanced
  rwa [Function.update_eq_self] at recounted

theorem Heap.Tallied.recount_adapters (id : ObjectId) {refcount adapters : Nat}
    (balanced : s.refcount id = s.user id + s.adapters id + s.children id →
      refcount = s.user id + adapters + s.children id) :
    ({ s with
      refcount := Function.update s.refcount id refcount
      adapters := Function.update s.adapters id adapters } : Heap).Tallied := by
  have recounted := tallied.recount id balanced
  rwa [Function.update_eq_self] at recounted

/-- One object is replaced by one of its kind. -/
theorem Heap.Tallied.put {s' : Heap} {id : ObjectId} {old made : QuicObject}
    (stored : s.object id = some old) (kind : made.level = old.level)
    (object : s'.object = Function.update s.object id (some made)) (bound : s'.bound = s.bound)
    (above : s.Above made) (idle : made.ssl = none → made.parent = none)
    (counted : ∀ other held, s.object other = some held →
      s.refcount other = s.user other + s.adapters other + s.children other →
        s'.refcount other = s'.user other + s'.adapters other + s'.children other) :
    s'.Tallied := by
  have inside := tallied.bounded id old stored
  have here : s'.object id = some made := by rw [object, Function.update_self]
  have there {other : ObjectId} (different : other ≠ id) : s'.object other = s.object other := by
    rw [object, Function.update_of_ne different]
  have raised {held : QuicObject} (below : s.Above held) : s'.Above held := by
    refine below.mono fun other top stored' _ => ?_
    by_cases same : other = id
    · subst same
      obtain rfl : old = top := Option.some.inj (stored.symm.trans stored')
      exact ⟨made, here, kind⟩
    · exact ⟨top, (there same).trans stored', rfl⟩
  refine ⟨fun other held now => ?_, fun other held now => ?_, fun other held now => ?_,
    fun other held now => ?_⟩
  · rw [bound]
    by_cases same : other = id
    · rw [same]
      exact inside
    · exact tallied.bounded other held ((there same).symm.trans now)
  · by_cases same : other = id
    · subst same
      exact counted other old stored (tallied.counted other old stored)
    · have before := (there same).symm.trans now
      exact counted other held before (tallied.counted other held before)
  · by_cases same : other = id
    · obtain rfl : made = held := Option.some.inj (here.symm.trans (same ▸ now))
      exact raised above
    · exact raised (tallied.above other held ((there same).symm.trans now))
  · by_cases same : other = id
    · obtain rfl : made = held := Option.some.inj (here.symm.trans (same ▸ now))
      exact idle
    · exact tallied.idle other held ((there same).symm.trans now)

/-- A constructor ran on an object that had no SSL object. -/
theorem Heap.Tallied.store {old made : QuicObject} (brings : s.Brings made s₁) {id : ObjectId}
    (stored : s.object id = some old) (kind : made.level = old.level) (unused : old.ssl = none) :
    (s₁.setObject id (some made)).Tallied := by
  have orphan : s.parentOf id = none := by
    rw [Heap.parentOf, stored]
    exact tallied.idle id old stored unused
  have object : (s₁.setObject id (some made)).object = Function.update s.object id (some made) := by
    rw [← brings.object]
    rfl
  have inside := tallied.bounded id old stored
  refine tallied.put stored kind object brings.bound brings.above brings.idle
    fun other held there before => ?_
  have children := Heap.children_update inside object brings.bound other
  have counts := brings.refcount other
  rw [orphan, if_neg (Option.some_ne_none other).symm, Option.bind_some] at children
  show s₁.refcount other =
    s₁.user other + s₁.adapters other + (s₁.setObject id (some made)).children other
  rw [brings.user, brings.adapters]
  omega

/-- An object was made. -/
theorem Heap.Tallied.install {made : QuicObject} (brings : s.Brings made s₁) :
    (s₁.install made).Tallied := by
  have unstored : s.object s.bound = none := by
    by_contra stored
    obtain ⟨object, here⟩ := Option.ne_none_iff_exists'.mp stored
    exact (tallied.bounded s.bound object here).false
  have object : (s₁.install made).object = Function.update s.object s.bound (some made) := by
    rw [← brings.object, ← brings.bound]
    rfl
  have bound : (s₁.install made).bound = s.bound + 1 := by
    rw [← brings.bound]
    rfl
  have here : (s₁.install made).object s.bound = some made := by rw [object, Function.update_self]
  have there {other : ObjectId} (different : other ≠ s.bound) :
      (s₁.install made).object other = s.object other := by
    rw [object, Function.update_of_ne different]
  have raised {held : QuicObject} (below : s.Above held) : (s₁.install made).Above held := by
    refine below.mono fun other top stored _ => ⟨top, ?_, rfl⟩
    have different : other ≠ s.bound := by
      rintro rfl
      cases unstored.symm.trans stored
    exact (there different).trans stored
  refine ⟨fun other held now => ?_, fun other held now => ?_, fun other held now => ?_,
    fun other held now => ?_⟩
  · rw [bound]
    by_cases same : other = s.bound
    · exact same ▸ Nat.lt_succ_self s.bound
    · exact Nat.lt_succ_of_lt (tallied.bounded other held ((there same).symm.trans now))
  · have children := Heap.children_install object bound other
    show Function.update s₁.refcount s₁.bound 1 other =
      Function.update s₁.user s₁.bound 1 other + Function.update s₁.adapters s₁.bound 0 other +
        (s₁.install made).children other
    rw [brings.bound]
    by_cases same : other = s.bound
    · subst same
      have elsewhere : made.parent ≠ some s.bound := by
        intro refers
        obtain ⟨top, stored, _⟩ := brings.above s.bound refers
        cases unstored.symm.trans stored
      rw [Function.update_self, Function.update_self, Function.update_self, children,
        tallied.childless unstored, if_neg elsewhere]
    · have before := tallied.counted other held ((there same).symm.trans now)
      rw [Function.update_of_ne same, Function.update_of_ne same, Function.update_of_ne same,
        brings.refcount, brings.user, brings.adapters, children]
      omega
  · by_cases same : other = s.bound
    · obtain rfl : made = held := Option.some.inj (here.symm.trans (same ▸ now))
      exact raised brings.above
    · exact raised (tallied.above other held ((there same).symm.trans now))
  · by_cases same : other = s.bound
    · obtain rfl : made = held := Option.some.inj (here.symm.trans (same ▸ now))
      exact brings.idle
    · exact tallied.idle other held ((there same).symm.trans now)

/-- What a release does to the counts. -/
theorem Heap.Tallied.released {id : ObjectId} {object : QuicObject}
    (stored : s.object id = some object) {left : Option QuicObject}
    (orphan : left.bind QuicObject.parent = none) {other : ObjectId}
    (before : s.refcount other = s.user other + s.adapters other + s.children other) :
    ((s.release object).setObject id left).refcount other =
      ((s.release object).setObject id left).user other +
        ((s.release object).setObject id left).adapters other +
          ((s.release object).setObject id left).children other := by
  obtain ⟨_, objects, bound, user, adapters⟩ := s.release_kept object
  have map : ((s.release object).setObject id left).object = Function.update s.object id left := by
    rw [← objects]
    rfl
  have children := Heap.children_update (tallied.bounded id object stored) map bound other
  have own : s.parentOf id = object.parent := by
    rw [Heap.parentOf, stored]
    rfl
  simp only [own, orphan, reduceCtorEq, if_false] at children
  show (s.release object).refcount other = (s.release object).user other +
    (s.release object).adapters other + ((s.release object).setObject id left).children other
  rw [Heap.release_refcount, Heap.dropRef_refcount, user, adapters]
  omega

/-- An object is released and stays in its place, with what refers to it or without. -/
theorem Heap.Tallied.empty {id : ObjectId} {object left : QuicObject}
    (stored : s.object id = some object) (kind : left.level = object.level)
    (orphan : left.parent = none) : ((s.release object).setObject id (some left)).Tallied := by
  obtain ⟨_, objects, bound, _, _⟩ := s.release_kept object
  have map : ((s.release object).setObject id (some left)).object =
      Function.update s.object id (some left) := by
    rw [← objects]
    rfl
  have above : s.Above left := by
    intro parent refers
    cases orphan.symm.trans refers
  have none : (some left).bind QuicObject.parent = none := orphan
  exact tallied.put stored kind map bound above (fun _ => orphan)
    fun other _ _ before => tallied.released stored none before

/-- An object nothing refers to is destroyed. -/
theorem Heap.Tallied.destroy {id : ObjectId} {object : QuicObject}
    (stored : s.object id = some object) (childless : s.children id = 0) :
    ((s.release object).setObject id none).Tallied := by
  obtain ⟨_, objects, bound, _, _⟩ := s.release_kept object
  have map : ((s.release object).setObject id none).object = Function.update s.object id none := by
    rw [← objects]
    rfl
  have before {other : ObjectId} {held : QuicObject}
      (now : ((s.release object).setObject id none).object other = some held) :
      s.object other = some held := by
    rw [map] at now
    by_cases same : other = id
    · rw [same, Function.update_self] at now
      cases now
    · rwa [Function.update_of_ne same] at now
  refine ⟨fun other held now => ?_, fun other held now => ?_, fun other held now => ?_,
    fun other held now => tallied.idle other held (before now)⟩
  · show other < (s.release object).bound
    rw [bound]
    exact tallied.bounded other held (before now)
  · exact tallied.released stored rfl (tallied.counted other held (before now))
  · refine (tallied.above other held (before now)).mono fun parent top there refers => ⟨top, ?_, rfl⟩
    have different : parent ≠ id := by
      rintro rfl
      exact Heap.parent_ne_of_childless childless (before now)
        (tallied.bounded other held (before now)) refers
    rw [map, Function.update_of_ne different]
    exact there

end Updates

/-! ### What the methods bring -/

namespace Heap.Brings

variable {s s₁ : Heap}

theorem of_spares {made : QuicObject} (spares : s.Spares s₁) (orphan : made.parent = none) :
    s.Brings made s₁ := by
  refine ⟨spares.object, spares.bound, spares.user, spares.adapters, fun id => ?_, ?_,
    fun _ => orphan⟩
  · rw [orphan, spares.refcount, if_neg nofun, Nat.add_zero]
  · intro parent refers
    cases orphan.symm.trans refers

/-- An object that shares the engine of the one it refers to. -/
theorem join {made top : QuicObject} {root ssl : Ssl} {parent : ObjectId}
    (live : made.ssl = some ssl) (refers : made.parent = some parent)
    (stored : s.object parent = some top) (level : made.level = top.level + 1) :
    s.Brings made (s.join root ssl parent) := by
  refine ⟨rfl, rfl, rfl, rfl, fun id => ?_, fun other same => ?_, fun unused => ?_⟩
  · show Function.update s.refcount parent (s.refcount parent + 1) id = _
    rw [refers]
    by_cases same : id = parent
    · rw [same, Function.update_self, if_pos rfl]
    · rw [Function.update_of_ne same, if_neg fun here => same (Option.some.inj here).symm,
        Nat.add_zero]
  · obtain rfl := Option.some.inj (refers.symm.trans same)
    exact ⟨top, stored, level⟩
  · cases live.symm.trans unused

end Heap.Brings

/-- What a method made of a connection, or none. -/
theorem Heap.JoinsStream.brings {s s₁ : Heap} {parent : ObjectId} {conn : Option Ssl}
    {made : Option PhpQuicStream} (joined : s.JoinsStream conn parent made s₁)
    (stored : ∀ ssl, conn = some ssl → ∃ obj, s.object parent = some (.connection obj)) :
    made.map QuicObject.stream = none ∧ s₁ = s ∨
      ∃ stream, made.map QuicObject.stream = some (.stream stream) ∧
        s.Brings (.stream stream) s₁ := by
  rcases joined with ⟨rfl, same⟩ | ⟨root, ssl, rooted, _, rfl, rfl⟩
  · exact .inl ⟨rfl, same⟩
  · obtain ⟨obj, there⟩ := stored root rooted
    exact .inr ⟨_, rfl, .join rfl rfl there rfl⟩

section Made

variable {s s₁ : Heap} (tallied : s.Tallied)
include tallied

theorem Heap.Tallied.spares (spares : s.Spares s₁) : s₁.Tallied :=
  tallied.of_same spares.object spares.bound fun id counted => by
    rw [spares.refcount, spares.user, spares.adapters, counted]

theorem Heap.Tallied.installMade {made : Option QuicObject}
    (brought : made = none ∧ s₁ = s ∨ ∃ object, made = some object ∧ s.Brings object s₁) :
    (s₁.installMade made).Tallied := by
  rcases brought with ⟨rfl, rfl⟩ | ⟨object, rfl, brings⟩
  · exact tallied
  · exact tallied.install brings

theorem Heap.Tallied.installStream {made : Option QuicObject}
    (brought : made = none ∧ s₁ = s ∨
      ∃ stream, made = some (.stream stream) ∧ s.Brings (.stream stream) s₁) :
    (s₁.installMade made).Tallied :=
  tallied.installMade (brought.imp_right fun ⟨_, same, brings⟩ => ⟨_, same, brings⟩)

end Made

/-! ### The steps -/

/-- **Every step keeps the counts**, the closing of a listener with connections too. -/
theorem LifeStep.tallied {s s' : Heap} {event : LifeEvent} (step : LifeStep s event s')
    (tallied : s.Tallied) : s'.Tallied := by
  cases step with
  | create kind =>
      have orphan := kind.create_idle.empty.2.2.2
      exact tallied.install (.of_spares (.refl s) orphan)
  | @listen s₁ this obj host port options outcome stored held ran =>
      have spares := (construct_listens obj host port options s outcome s₁ ran).1
      cases outcome with
      | error thrown => exact tallied.spares spares
      | ok made => exact tallied.store (.of_spares spares rfl) stored rfl (listen_idle ran)
  | @connect s₁ this obj fuel host port options outcome stored held ran =>
      obtain ⟨spares, returned⟩ := construct_connects fuel obj host port options s _ s₁ ran
      cases outcome with
      | error thrown => exact tallied.spares spares
      | ok made =>
          have unused := connect_idle ran
          have orphan : (QuicObject.connection made).parent = none :=
            (returned made rfl).1.trans (tallied.idle this _ stored unused)
          exact tallied.store (.of_spares spares orphan) stored rfl unused
  | @newStream s₁ this conn obj bidirectional outcome stored held given ran =>
      have joined := construct_joins obj conn bidirectional s outcome s₁ ran
      have brought := joined.brings fun ssl live =>
        (Heap.connection_of_ssl live).imp fun _ found => found.1
      cases outcome with
      | error thrown =>
          rcases brought with ⟨_, rfl⟩ | ⟨_, same, _⟩
          · exact tallied
          · cases same
      | ok made =>
          rcases brought with ⟨same, _⟩ | ⟨stream, same, brings⟩
          · cases same
          · obtain rfl := QuicObject.stream.inj (Option.some.inj same)
            exact tallied.store brings stored rfl (newStream_idle ran)
  | @accept s₁ this obj made stored held ran =>
      refine tallied.installMade ?_
      rcases accept_joins obj this s made s₁ ran with ⟨rfl, same⟩ | ⟨root, ssl, live, _, rfl, rfl⟩
      · exact .inl ⟨rfl, same⟩
      · exact .inr ⟨_, rfl, .join rfl rfl stored rfl⟩
  | @closeListener s₁ this obj obj' stored held ran =>
      obtain ⟨rfl, rfl⟩ := listenerRelease_releases obj s obj' s₁ ran
      exact tallied.empty stored rfl rfl
  | @openStream s₁ this obj bidirectional outcome stored held ran =>
      have joined := openStream_joins obj this bidirectional s outcome s₁ ran
      exact tallied.installStream (joined.brings fun _ _ => ⟨obj, stored⟩)
  | @acceptStream s₁ this obj made stored held ran =>
      have joined := acceptStream_joins obj this s made s₁ ran
      exact tallied.installStream (joined.brings fun _ _ => ⟨obj, stored⟩)
  | @asStream _ this obj outcome stored held ran =>
      rcases asStream_counts obj this s outcome s' ran with rfl | rfl
      · exact tallied
      · exact tallied.recount_adapters this fun counted => by omega
  | @closeResource s₁ this object rc stored opened ran =>
      obtain rfl : s₁ = s.delref this := opClose_counts this s rc s₁ ran
      have adapters : (s.delref this).adapters = s.adapters := rfl
      refine tallied.recount_adapters this fun counted => ?_
      rw [adapters]
      omega
  | @getConnection s₁ this obj outcome stored held ran =>
      rcases getConnection_counts obj s outcome s₁ ran with ⟨same, rfl⟩ | ⟨conn, same, rfl⟩
      · rw [same]
        exact tallied
      · rw [same]
        have user : (s.addref conn).user = s.user := rfl
        refine tallied.recount_user conn fun counted => ?_
        rw [user]
        omega
  | copyReference held => exact tallied.recount_user _ fun counted => by omega
  | dropReference stored held => exact tallied.recount_user _ fun counted => by omega
  | @destroy s₁ id object stored unreferenced ran =>
      obtain rfl := freeObject_releases object s () s₁ ran
      have counted := tallied.counted id object stored
      exact tallied.destroy stored (by omega)
  | openDescriptor closed => exact tallied.spares ((Heap.Spares.refl s).openFd closed)

theorem path_tallied {start s : Heap} {events : List LifeEvent} (empty : ∀ id, start.object id = none)
    (path : Path LifeStep start events s) : s.Tallied :=
  path.invariant (fun _ _ _ before step => step.tallied before) (.of_empty empty)

end PhpQuic
