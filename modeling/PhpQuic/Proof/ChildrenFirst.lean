/-
**Children die before their parents, and everything is released exactly once.**

In a run that closes no listener explicitly:

* `LifeStep.accounted`: every resource in use has exactly one holder after every event.
* `Heap.Counted`: the count of a stream is the references the script and the php_streams hold, that
  of a connection counts its streams too, and that of a listener its accepted connections.
* `LifeStep.adapters`: only streams get php_streams.
* `path_accounted`, `path_careful`, `path_balances`: the same for runs.
* `children_first`: the law.
-/

import PhpQuic.Proof.LifeCalls

namespace PhpQuic

open Interact

/-! ### Every resource in use has one holder -/

namespace Heap.Accounted

variable {s s₁ s' : Heap} {foreign : Resource → Prop} (accounted : s.Accounted foreign)
include accounted

/-- A new object takes the place of one that held nothing, or of none. -/
theorem put {made : QuicObject} (id : ObjectId)
    (old : ∀ object, s.object id = some object → object.holding = .empty)
    (object : s'.object = Function.update s.object id (some made))
    (new : ∀ r, made.holding.Has r → s.live r = false)
    (live : ∀ r, s'.live r = true ↔ s.live r = true ∨ made.holding.Has r) (valid : s'.Valid) :
    s'.Accounted foreign := by
  have owned (r : Resource) : s'.Owned r ↔ s.Owned r ∨ made.holding.Has r := by
    unfold Heap.Owned
    rw [object]
    constructor
    · rintro ⟨other, held, stored, has⟩
      by_cases same : other = id
      · rw [same, Function.update_self] at stored
        exact .inr (Option.some.inj stored ▸ has)
      · rw [Function.update_of_ne same] at stored
        exact .inl ⟨other, held, stored, has⟩
    · rintro (⟨other, held, stored, has⟩ | has)
      · have different : other ≠ id := by
          rintro rfl
          rw [old held stored] at has
          exact Holding.empty_has r has
        exact ⟨other, held, by rwa [Function.update_of_ne different], has⟩
      · exact ⟨id, made, Function.update_self id _ _, has⟩
  refine ⟨valid, fun r => ?_, fun r strange => ?_, accounted.ownSsl⟩
  · rw [live, owned, accounted.live_iff, or_assoc]
  · rw [owned]
    rintro (before | has)
    · exact accounted.disjoint r strange before
    · have used := (accounted.live_iff r).mpr (.inl strange)
      rw [new r has] at used
      cases used

/-- No object has changed. -/
theorem of_same (object : s'.object = s.object) (live : ∀ r, s'.live r = s.live r)
    (valid : s'.Valid) : s'.Accounted foreign := by
  have owned (r : Resource) : s'.Owned r ↔ s.Owned r := by
    unfold Heap.Owned
    rw [object]
  refine ⟨valid, fun r => ?_, fun r strange => ?_, accounted.ownSsl⟩
  · rw [live, owned]
    exact accounted.live_iff r
  · rw [owned]
    exact accounted.disjoint r strange

/-- The process opened a descriptor. -/
theorem openFd {fd : Fd} (closed : s.table fd = none) (valid : (s.openFd fd).Valid) :
    (s.openFd fd).Accounted fun r => foreign r ∨ r = .descriptor fd := by
  refine ⟨valid, fun r => ?_, ?_, fun ssl => ?_⟩
  · rw [s.live_openFd r fd, accounted.live_iff]
    exact or_right_comm
  · rintro r (strange | rfl) owned
    · exact accounted.disjoint r strange owned
    · have used := (accounted.live_iff _).mpr (.inr owned)
      rw [live_of_closed closed] at used
      cases used
  · rintro (strange | same)
    · exact accounted.ownSsl ssl strange
    · cases same

/-- What is in use when an object has been released. -/
theorem free {id : ObjectId} {object : QuicObject} (stored : s.object id = some object)
    (valid : ((s.release object).setObject id none).Valid) :
    ((s.release object).setObject id none).Accounted foreign := by
  have live (r : Resource) : ((s.release object).setObject id none).live r = true ↔
      s.live r = true ∧ ¬ object.holding.Has r := by
    rw [← s.live_release r object]
    cases r <;> exact Iff.rfl
  have map : ((s.release object).setObject id none).object = Function.update s.object id none := by
    rw [← (s.release_kept object).2.1]
    rfl
  have owned (r : Resource) : ((s.release object).setObject id none).Owned r ↔
      s.Owned r ∧ ¬ object.holding.Has r := by
    unfold Heap.Owned
    rw [map]
    constructor
    · rintro ⟨other, held, there, has⟩
      by_cases same : other = id
      · rw [same, Function.update_self] at there
        cases there
      · rw [Function.update_of_ne same] at there
        have apart := accounted.valid.apart id object other held stored there (Ne.symm same)
        exact ⟨⟨other, held, there, has⟩, apart.has has⟩
    · rintro ⟨⟨other, held, there, has⟩, gone⟩
      have different : other ≠ id := by
        rintro rfl
        exact gone (Option.some.inj (there.symm.trans stored) ▸ has)
      exact ⟨other, held, by rwa [Function.update_of_ne different], has⟩
  refine ⟨valid, fun r => ?_, fun r strange => ?_, accounted.ownSsl⟩
  · rw [live, owned, accounted.live_iff, or_and_right]
    refine or_congr_left (and_iff_left_of_imp fun strange has => ?_)
    exact accounted.disjoint r strange ⟨id, object, stored, has⟩
  · rw [owned]
    exact fun ⟨before, _⟩ => accounted.disjoint r strange before

end Heap.Accounted

/-- From `s`, the resources of `hand` came to be, and no object has changed. -/
structure Heap.Adds (s : Heap) (hand : Holding) (s₁ : Heap) : Prop where
  object : s₁.object = s.object
  bound : s₁.bound = s.bound
  new : ∀ r, hand.Has r → s.live r = false
  live_iff : ∀ r, s₁.live r = true ↔ s.live r = true ∨ hand.Has r

namespace Heap.Adds

variable {s s₁ : Heap} {hand : Holding}

theorem refl (s : Heap) : s.Adds .empty s :=
  ⟨rfl, rfl, (Heap.Grows.refl s).new, (Heap.Grows.refl s).live_iff⟩

theorem of_grows (grows : s.Grows hand s₁) : s.Adds hand s₁ :=
  ⟨grows.spares.object, grows.spares.bound, grows.new, grows.live_iff⟩

theorem live_same (adds : s.Adds .empty s₁) (r : Resource) : s₁.live r = s.live r := by
  rw [Bool.eq_iff_iff, adds.live_iff, or_iff_left (Holding.empty_has r)]

/-- An SSL object made from another one. -/
theorem join {root ssl : Ssl} (rooted : s.live (.ssl root) = true) (unused : s.engine ssl = none)
    (parent : ObjectId) : s.Adds ⟨some ssl, none, none⟩ (s.join root ssl parent) := by
  have has (r : Resource) : (Holding.mk (some ssl) none none).Has r ↔ r = .ssl ssl := by
    cases r <;> simp [Holding.Has, eq_comm]
  refine ⟨rfl, rfl, fun r here => ?_, fun r => ?_⟩
  · rw [(has r).mp here]
    exact live_of_engine_none unused
  · rw [has, ← live_setEngine_copy rooted ssl r]
    cases r <;> exact Iff.rfl

end Heap.Adds

namespace Heap.Accounted

variable {s s₁ : Heap} {foreign : Resource → Prop} (accounted : s.Accounted foreign)
include accounted

/-- A constructor ran on an idle object, or threw. -/
theorem storeMade {made : Option QuicObject} (adds : s.Adds (.ofMade made) s₁) {id : ObjectId}
    {old : QuicObject} (stored : s.object id = some old)
    (idle : ∀ object, made = some object → old.ssl = none) (valid : (s₁.storeMade id made).Valid) :
    (s₁.storeMade id made).Accounted foreign := by
  cases made with
  | none =>
      exact accounted.of_same adds.object adds.live_same valid
  | some made =>
      have empty := ((accounted.valid.fits id old stored).idle (idle made rfl)).holding
      refine accounted.put id (fun object here => ?_) ?_ adds.new
        (fun r => .trans ?_ (adds.live_iff r)) valid
      · exact Option.some.inj (stored.symm.trans here) ▸ empty
      · rw [← adds.object]
        rfl
      · cases r <;> exact Iff.rfl

/-- A method made an object, or none. -/
theorem installMade (made : Option QuicObject) (adds : s.Adds (.ofMade made) s₁)
    (valid : (s₁.installMade made).Valid) : (s₁.installMade made).Accounted foreign := by
  cases made with
  | none =>
      exact accounted.of_same adds.object adds.live_same valid
  | some made =>
      refine accounted.put s.bound (fun object here => ?_) ?_ adds.new
        (fun r => .trans ?_ (adds.live_iff r)) valid
      · exact absurd (accounted.valid.bounded _ _ here) (Nat.lt_irrefl _)
      · rw [← adds.object, ← adds.bound]
        rfl
      · cases r <;> exact Iff.rfl

theorem joinsStream {parent : ObjectId} {made : Option PhpQuicStream} {ssl : Option Ssl}
    (joined : s.JoinsStream ssl parent made s₁)
    (rooted : ∀ root, ssl = some root → s.live (.ssl root) = true) :
    s.Adds (.ofMade (made.map .stream)) s₁ := by
  rcases joined with ⟨rfl, rfl⟩ | ⟨root, ssl, live, new, rfl, rfl⟩
  · exact .refl _
  · exact .join (rooted root live) new parent

end Heap.Accounted

/-- **One event keeps the account.** -/
theorem LifeStep.accounted {s s' : Heap} {event : LifeEvent} {foreign : Resource → Prop}
    (step : LifeStep s event s') (accounted : s.Accounted foreign)
    (closesNone : event.ClosesNone) :
    s'.Accounted fun r => foreign r ∨ event.opens = some r := by
  have safe : event.Safe s := by
    cases event <;> first | exact trivial | exact closesNone.elim
  have valid := step.valid accounted.valid safe
  have opensNone (none : event.opens = none) (same : s'.Accounted foreign) :
      s'.Accounted fun r => foreign r ∨ event.opens = some r := by
    simpa [none] using same
  cases step with
  | create kind =>
      refine opensNone rfl (accounted.installMade (some kind.create) ?_ valid)
      have adds := Heap.Adds.refl s
      rwa [← kind.create_idle.holding] at adds
  | @listen s₁ this obj host port options outcome stored held ran =>
      have grows := (construct_careful_listener accounted obj host port options).always _ _ ran
      refine opensNone rfl (accounted.storeMade (.of_grows grows) stored (fun object made => ?_) valid)
      cases outcome with
      | error => cases made
      | ok => exact listen_idle ran
  | @connect s₁ this obj fuel host port options outcome stored held ran =>
      have grows :=
        (construct_careful_connection accounted fuel obj host port options).always _ _ ran _ rfl
      refine opensNone rfl (accounted.storeMade (.of_grows grows) stored (fun object made => ?_) valid)
      cases outcome with
      | error => cases made
      | ok => exact connect_idle ran
  | @newStream s₁ this conn obj bidirectional outcome stored held given ran =>
      have joined := construct_joins obj conn bidirectional s outcome s₁ ran
      have rooted (root : Ssl) (live : s.connectionSsl conn = some root) :
          s.live (.ssl root) = true := by
        obtain ⟨above, connected, here⟩ := Heap.connection_of_ssl live
        exact accounted.live connected (r := .ssl root) here
      refine opensNone rfl (accounted.storeMade (accounted.joinsStream joined rooted) stored
        (fun object made => ?_) valid)
      cases outcome with
      | error => cases made
      | ok => exact newStream_idle ran
  | @accept s₁ this obj made stored held ran =>
      refine opensNone rfl (accounted.installMade _ ?_ valid)
      rcases accept_joins obj this s made s₁ ran with ⟨rfl, rfl⟩ | ⟨root, ssl, live, new, rfl, rfl⟩
      · exact .refl _
      · exact .join (accounted.live stored (r := .ssl root) live) new this
  | closeListener => exact closesNone.elim
  | @openStream s₁ this obj bidirectional outcome stored held ran =>
      have joined := openStream_joins obj this bidirectional s outcome s₁ ran
      exact opensNone rfl (accounted.installMade _ (accounted.joinsStream joined fun root live =>
        accounted.live stored (r := .ssl root) live) valid)
  | @acceptStream s₁ this obj made stored held ran =>
      have joined := acceptStream_joins obj this s made s₁ ran
      exact opensNone rfl (accounted.installMade _ (accounted.joinsStream joined fun root live =>
        accounted.live stored (r := .ssl root) live) valid)
  | @asStream _ this obj outcome stored held ran =>
      refine opensNone rfl (accounted.of_same ?_ (fun r => ?_) valid)
      · rcases asStream_counts obj this s outcome s' ran with rfl | rfl <;> rfl
      · rcases asStream_counts obj this s outcome s' ran with rfl | rfl
        · rfl
        · cases r <;> rfl
  | @closeResource s₁ this object rc stored opened ran =>
      obtain rfl : s₁ = s.delref this := opClose_counts this s rc s₁ ran
      exact opensNone rfl (accounted.of_same rfl (fun r => by cases r <;> rfl) valid)
  | @getConnection s₁ this obj outcome stored held ran =>
      refine opensNone rfl (accounted.of_same ?_ (fun r => ?_) valid)
      · rcases getConnection_counts obj s outcome s₁ ran with ⟨same, rfl⟩ | ⟨conn, same, rfl⟩ <;>
          rw [same] <;> rfl
      · rcases getConnection_counts obj s outcome s₁ ran with ⟨same, rfl⟩ | ⟨conn, same, rfl⟩ <;>
          rw [same] <;> cases r <;> rfl
  | copyReference held =>
      exact opensNone rfl (accounted.of_same rfl (fun r => by cases r <;> rfl) valid)
  | dropReference stored held =>
      exact opensNone rfl (accounted.of_same rfl (fun r => by cases r <;> rfl) valid)
  | @destroy s₁ id object stored unreferenced ran =>
      obtain rfl := freeObject_releases object s () s₁ ran
      exact opensNone rfl (accounted.free stored valid)
  | @openDescriptor fd closed =>
      simpa [LifeEvent.opens, eq_comm] using accounted.openFd closed valid

/-! ### The counts, kind by kind -/

namespace QuicObject

def isStream : QuicObject → Bool
  | .stream _ => true
  | _ => false

/-- The object is a stream of this connection. -/
def isStreamOf (conn : ObjectId) : QuicObject → Bool
  | .stream obj => obj.connection = some conn
  | _ => false

/-- The object is a connection accepted from this listener. -/
def isAcceptedFrom (listener : ObjectId) : QuicObject → Bool
  | .connection obj => obj.listener = some listener
  | _ => false

end QuicObject

namespace Heap

/-- The number of stored objects of a kind. -/
def count (s : Heap) (kind : QuicObject → Bool) : Nat :=
  ((Finset.range s.bound).filter fun id => (s.object id).any kind).card

/-- **What the count of an object counts.** -/
structure Counted (s : Heap) : Prop where
  stream : ∀ id obj, s.object id = some (.stream obj) → s.refcount id = s.user id + s.adapters id
  connection : ∀ id obj, s.object id = some (.connection obj) →
    s.refcount id = s.user id + s.count (QuicObject.isStreamOf id)
  listener : ∀ id obj, s.object id = some (.listener obj) →
    s.refcount id = s.user id + s.count (QuicObject.isAcceptedFrom id)

/-- Only streams have php_streams. -/
def AdaptersOfStreams (s : Heap) : Prop :=
  ∀ id object, s.object id = some object → object.isStream = false → s.adapters id = 0

theorem children_eq_count {s : Heap} {parent : ObjectId} {kind : QuicObject → Bool}
    (same : ∀ id object, s.object id = some object →
      (object.parent = some parent ↔ kind object = true)) : s.children parent = s.count kind := by
  unfold children count
  congr 1
  refine Finset.filter_congr fun id _ => ?_
  unfold parentOf
  cases stored : s.object id with
  | none => simp
  | some object => simpa using same id object stored

theorem Valid.counts {s : Heap} (valid : s.Valid) (plain : s.AdaptersOfStreams) : s.Counted := by
  refine ⟨fun id obj stored => ?_, fun id obj stored => ?_, fun id obj stored => ?_⟩
  · have childless : s.children id = 0 := by
      refine Finset.card_eq_zero.mpr (Finset.filter_eq_empty_iff.mpr fun child _ refers => ?_)
      unfold parentOf at refers
      obtain ⟨held, there, here⟩ := Option.bind_eq_some_iff.mp refers
      rcases (valid.fits child held there).parent_cases here with ⟨_, _, _, above⟩ | ⟨_, _, _, above⟩
      · cases stored.symm.trans above
      · cases stored.symm.trans above
    have counted := valid.counted id _ stored
    omega
  · have children : s.children id = s.count (QuicObject.isStreamOf id) := by
      refine children_eq_count fun child held there => ⟨fun refers => ?_, fun kind => ?_⟩
      · rcases (valid.fits child held there).parent_cases refers with
          ⟨_, _, rfl, _⟩ | ⟨_, _, _, above⟩
        · exact decide_eq_true refers
        · cases stored.symm.trans above
      · cases held with
        | stream => exact of_decide_eq_true kind
        | _ => cases kind
    have counted := valid.counted id _ stored
    have none := plain id _ stored rfl
    omega
  · have children : s.children id = s.count (QuicObject.isAcceptedFrom id) := by
      refine children_eq_count fun child held there => ⟨fun refers => ?_, fun kind => ?_⟩
      · rcases (valid.fits child held there).parent_cases refers with
          ⟨_, _, _, above⟩ | ⟨_, _, rfl, _⟩
        · cases stored.symm.trans above
        · exact decide_eq_true refers
      · cases held with
        | connection => exact of_decide_eq_true kind
        | _ => cases kind
    have counted := valid.counted id _ stored
    have none := plain id _ stored rfl
    omega

/-- Without references from outside, and with nothing left to destroy, nothing is stored. -/
theorem Valid.drained {s : Heap} (valid : s.Valid) (unreferenced : ∀ id object,
    s.object id = some object → s.refcount id ≠ 0 ∧ s.user id = 0 ∧ s.adapters id = 0) :
    ∀ id, s.object id = none := by
  have parent {id : ObjectId} {object : QuicObject} (stored : s.object id = some object) :
      ∃ child held, s.object child = some held ∧ held.parent = some id := by
    have counted := valid.counted id object stored
    obtain ⟨nonzero, user, adapters⟩ := unreferenced id object stored
    exact Heap.exists_child (by omega)
  -- A listener would have a connection, that a stream, and that a child; but streams have none.
  have noStream {id : ObjectId} {obj : PhpQuicStream} (stored : s.object id = some (.stream obj)) :
      False := by
    obtain ⟨child, held, there, refers⟩ := parent stored
    rcases (valid.fits child held there).parent_cases refers with ⟨_, _, _, above⟩ | ⟨_, _, _, above⟩
    · cases stored.symm.trans above
    · cases stored.symm.trans above
  have noConnection {id : ObjectId} {obj : PhpQuicConnection}
      (stored : s.object id = some (.connection obj)) : False := by
    obtain ⟨child, held, there, refers⟩ := parent stored
    rcases (valid.fits child held there).parent_cases refers with ⟨_, _, rfl, _⟩ | ⟨_, _, _, above⟩
    · exact noStream there
    · cases stored.symm.trans above
  intro id
  by_contra stored
  obtain ⟨object, here⟩ := Option.ne_none_iff_exists'.mp stored
  obtain ⟨child, held, there, refers⟩ := parent here
  rcases (valid.fits child held there).parent_cases refers with ⟨_, _, rfl, _⟩ | ⟨_, _, rfl, _⟩
  · exact noStream there
  · exact noConnection there

end Heap

namespace Heap.AdaptersOfStreams

variable {s s₁ : Heap} (plain : s.AdaptersOfStreams)
include plain

theorem of_same {s' : Heap} (object : s'.object = s.object)
    (fewer : ∀ id object, s.object id = some object → object.isStream = false →
      s'.adapters id ≤ s.adapters id) : s'.AdaptersOfStreams := by
  intro id held stored other
  rw [object] at stored
  have before := plain id held stored other
  have after := fewer id held stored other
  omega

theorem storeMade (object : s₁.object = s.object) (adapters : s₁.adapters = s.adapters)
    {id : ObjectId} {old : QuicObject} (stored : s.object id = some old) (made : Option QuicObject)
    (same : ∀ object, made = some object → object.isStream = old.isStream) :
    (s₁.storeMade id made).AdaptersOfStreams := by
  have kept := plain.of_same object fun _ _ _ _ => adapters ▸ Nat.le_refl _
  cases made with
  | none => exact kept
  | some made =>
      intro other held there idle
      by_cases here : other = id
      · subst here
        obtain rfl : made = held := by simpa [Heap.storeMade, Heap.setObject] using there
        show s₁.adapters other = 0
        rw [adapters]
        exact plain other old stored (same made rfl ▸ idle)
      · have there : s₁.object other = some held := by
          simpa [Heap.storeMade, Heap.setObject, here] using there
        exact kept other held there idle

theorem installMade (object : s₁.object = s.object) (adapters : s₁.adapters = s.adapters)
    (made : Option QuicObject) : (s₁.installMade made).AdaptersOfStreams := by
  have kept := plain.of_same object fun _ _ _ _ => adapters ▸ Nat.le_refl _
  cases made with
  | none => exact kept
  | some made =>
      intro other held there idle
      show Function.update s₁.adapters s₁.bound 0 other = 0
      by_cases here : other = s₁.bound
      · rw [here, Function.update_self]
      · rw [Function.update_of_ne here]
        have there : s₁.object other = some held := by
          simpa [Heap.installMade, Heap.install, here] using there
        exact kept other held there idle

end Heap.AdaptersOfStreams

theorem Heap.JoinsStream.kept {s s₁ : Heap} {ssl : Option Ssl} {parent : ObjectId}
    {made : Option PhpQuicStream} (joined : s.JoinsStream ssl parent made s₁) :
    s₁.object = s.object ∧ s₁.adapters = s.adapters := by
  rcases joined with ⟨_, rfl⟩ | ⟨_, _, _, _, rfl, _⟩
  · exact ⟨rfl, rfl⟩
  · exact ⟨rfl, rfl⟩

/-- **Only a stream gets a php_stream.** -/
theorem LifeStep.adapters {s s' : Heap} {event : LifeEvent} (step : LifeStep s event s')
    (plain : s.AdaptersOfStreams) : s'.AdaptersOfStreams := by
  cases step with
  | create kind => exact plain.installMade rfl rfl (some kind.create)
  | @listen s₁ this obj host port options outcome stored held ran =>
      have spares := (construct_listens obj host port options s outcome s₁ ran).1
      refine plain.storeMade spares.object spares.adapters stored _ fun object made => ?_
      obtain ⟨_, _, rfl⟩ := Option.map_eq_some_iff.mp made
      rfl
  | @connect s₁ this obj fuel host port options outcome stored held ran =>
      have spares := (construct_connects fuel obj host port options s _ s₁ ran).1
      refine plain.storeMade spares.object spares.adapters stored _ fun object made => ?_
      obtain ⟨_, _, rfl⟩ := Option.map_eq_some_iff.mp made
      rfl
  | @newStream s₁ this conn obj bidirectional outcome stored held given ran =>
      have kept := (construct_joins obj conn bidirectional s outcome s₁ ran).kept
      refine plain.storeMade kept.1 kept.2 stored _ fun object made => ?_
      obtain ⟨_, _, rfl⟩ := Option.map_eq_some_iff.mp made
      rfl
  | @accept s₁ this obj made stored held ran =>
      have kept : s₁.object = s.object ∧ s₁.adapters = s.adapters := by
        rcases accept_joins obj this s made s₁ ran with ⟨_, rfl⟩ | ⟨_, _, _, _, rfl, _⟩
        · exact ⟨rfl, rfl⟩
        · exact ⟨rfl, rfl⟩
      exact plain.installMade kept.1 kept.2 _
  | @closeListener s₁ this obj obj' stored held ran =>
      obtain ⟨rfl, rfl⟩ := listenerRelease_releases obj s obj' s₁ ran
      obtain ⟨_, objects, _, _, adapters⟩ := s.release_kept (.listener obj)
      refine plain.storeMade objects adapters stored (some _) fun object made => ?_
      obtain rfl := Option.some.inj made
      rfl
  | @openStream s₁ this obj bidirectional outcome stored held ran =>
      have kept := (openStream_joins obj this bidirectional s outcome s₁ ran).kept
      exact plain.installMade kept.1 kept.2 _
  | @acceptStream s₁ this obj made stored held ran =>
      have kept := (acceptStream_joins obj this s made s₁ ran).kept
      exact plain.installMade kept.1 kept.2 _
  | @asStream _ this obj outcome stored held ran =>
      rcases asStream_counts obj this s outcome s' ran with rfl | rfl
      · exact plain
      · refine plain.of_same rfl fun id object there other => ?_
        have different : id ≠ this := by
          rintro rfl
          obtain rfl := Option.some.inj (stored.symm.trans there)
          cases other
        show Function.update s.adapters this _ id ≤ _
        rw [Function.update_of_ne different]
  | @closeResource s₁ this object rc stored opened ran =>
      obtain rfl : s₁ = s.delref this := opClose_counts this s rc s₁ ran
      refine plain.of_same rfl fun id held there other => ?_
      show Function.update s.adapters this (s.adapters this - 1) id ≤ _
      by_cases same : id = this
      · rw [same, Function.update_self]
        omega
      · rw [Function.update_of_ne same]
  | @getConnection s₁ this obj outcome stored held ran =>
      rcases getConnection_counts obj s outcome s₁ ran with ⟨same, rfl⟩ | ⟨conn, same, rfl⟩
      · rw [same]
        exact plain
      · rw [same]
        exact plain.of_same rfl fun _ _ _ _ => Nat.le_refl _
  | copyReference held => exact plain.of_same rfl fun _ _ _ _ => Nat.le_refl _
  | dropReference stored held => exact plain.of_same rfl fun _ _ _ _ => Nat.le_refl _
  | @destroy s₁ id object stored unreferenced ran =>
      obtain rfl := freeObject_releases object s () s₁ ran
      obtain ⟨_, objects, _, _, adapters⟩ := s.release_kept object
      intro other held there idle
      have different : other ≠ id := by
        rintro rfl
        simp [Heap.setObject] at there
      show (s.release object).adapters other = 0
      rw [adapters]
      refine plain other held ?_ idle
      simpa [Heap.setObject, different, objects] using there
  | openDescriptor closed => exact plain.of_same rfl fun _ _ _ _ => Nat.le_refl _

/-! ### Runs -/

section Path

variable {start s : Heap} {labels : List LifeLabel} (path : Path TracedStep start labels s)
include path

theorem path_adapters (plain : start.AdaptersOfStreams) : s.AdaptersOfStreams :=
  path.invariant (fun _ _ _ before step => step.lifeStep.adapters before) plain

/-- **A run keeps the account.** -/
theorem path_accounted {foreign : Resource → Prop} (accounted : start.Accounted foreign) :
    s.Accounted fun r => foreign r ∨ Opened labels r := by
  induction path generalizing foreign with
  | nil => simpa [Opened] using accounted
  | @cons s s₁ s₂ label labels first _ ih =>
      have rest := ih (first.lifeStep.accounted accounted first.1)
      simpa [Opened, or_assoc] using rest

theorem path_careful {foreign : Resource → Prop} (accounted : start.Accounted foreign) :
    ∀ exchange ∈ exchanges labels, exchange.call.Careful exchange.before := by
  induction path generalizing foreign with
  | nil => exact fun _ member => absurd member List.not_mem_nil
  | cons first _ ih =>
      intro exchange member
      rcases List.mem_append.mp member with here | later
      · exact first.careful accounted exchange here
      · exact ih (first.lifeStep.accounted accounted first.1) exchange later

/-- **The books of a run balance.** -/
theorem path_balances {foreign : Resource → Prop} (accounted : start.Accounted foreign)
    {r : Resource} (unopened : ¬ Opened labels r) :
    (start.live r).toNat + timesMade labels r = (s.live r).toNat + timesReleased labels r := by
  induction path generalizing foreign with
  | nil => rfl
  | @cons s s₁ s₂ label labels first _ ih =>
      have here : label.1.opens ≠ some r := fun opens =>
        unopened ⟨label, List.mem_cons_self, opens⟩
      have later : ¬ Opened labels r := fun ⟨other, member, opens⟩ =>
        unopened ⟨other, List.mem_cons_of_mem _ member, opens⟩
      have balance := first.balances accounted here
      have rest := ih (first.lifeStep.accounted accounted first.1) later
      have made : timesMade (label :: labels) r =
          label.2.countP (madeIn r) + timesMade labels r := List.countP_append
      have released : timesReleased (label :: labels) r =
          label.2.countP (releasedIn r) + timesReleased labels r := List.countP_append
      omega

end Path

/-- Before anything was made: no object is stored, and no SSL object is in use. -/
structure Heap.Fresh (start : Heap) : Prop where
  object : ∀ id, start.object id = none
  engine : ∀ ssl, start.engine ssl = none

theorem Heap.Fresh.accounted {start : Heap} (fresh : start.Fresh) :
    start.Accounted fun r => start.live r = true := by
  have unowned (r : Resource) : ¬ start.Owned r := by
    rintro ⟨id, object, stored, _⟩
    cases (fresh.object id).symm.trans stored
  refine ⟨.of_empty fresh.object, fun r => (or_iff_left (unowned r)).symm, fun r _ => unowned r,
    fun ssl used => ?_⟩
  rw [live_of_engine_none (fresh.engine ssl)] at used
  cases used

/-! ### The law -/

/-- What is in use but none of the extension's: it was in use before, or the process opened it. -/
def Foreign (start : Heap) (labels : List LifeLabel) (r : Resource) : Prop :=
  start.live r = true ∨ Opened labels r

/-- **Children die before their parents, and everything is released once.** -/
structure ChildrenFirst (start : Heap) (labels : List LifeLabel) (s : Heap) : Prop where
  /-- The counts of streams, connections and listeners. -/
  counted : s.Counted
  /-- What is released is in use, and nothing depends on it any more. -/
  careful : ∀ exchange ∈ exchanges labels, exchange.call.Careful exchange.before
  /-- What is in use is held by exactly one object. -/
  held : ∀ r, ¬ Foreign start labels r →
    (s.live r = true ↔ ∃! id, ∃ object, s.object id = some object ∧ object.holding.Has r)
  /-- What was made was released once since, or is in use. -/
  balanced : ∀ r, ¬ Foreign start labels r →
    timesMade labels r = timesReleased labels r + (s.live r).toNat
  /-- What is none of the extension's is never released. -/
  spared : ∀ r, Foreign start labels r → s.live r = true ∧ ¬ s.Owned r
  /-- When all references are dropped and every object without a reference is destroyed, nothing is
  left, and everything that was made has been released. -/
  drained : (∀ id object, s.object id = some object →
      s.refcount id ≠ 0 ∧ s.user id = 0 ∧ s.adapters id = 0) →
    (∀ id, s.object id = none) ∧
      ∀ r, ¬ Foreign start labels r → timesMade labels r = timesReleased labels r

/-- **Every run.** -/
theorem children_first {start s : Heap} {labels : List LifeLabel} (fresh : start.Fresh)
    (path : Path TracedStep start labels s) : ChildrenFirst start labels s := by
  have accounted := path_accounted path fresh.accounted
  have plain : start.AdaptersOfStreams := fun id object stored _ => by
    cases (fresh.object id).symm.trans stored
  have balanced (r : Resource) (own : ¬ Foreign start labels r) :
      timesMade labels r = timesReleased labels r + (s.live r).toNat := by
    have balance := path_balances path fresh.accounted (r := r) fun opened => own (.inr opened)
    have before : start.live r = false := by simpa using fun used => own (.inl used)
    rw [before] at balance
    simp only [Bool.toNat_false] at balance
    omega
  have owned (r : Resource) (own : ¬ Foreign start labels r) : s.live r = true ↔ s.Owned r :=
    (accounted.live_iff r).trans (or_iff_right own)
  refine ⟨accounted.valid.counts (path_adapters path plain), path_careful path fresh.accounted,
    fun r own => ?_, balanced, fun r strange => ?_, fun unreferenced => ?_⟩
  · rw [owned r own]
    constructor
    · rintro ⟨id, object, stored, has⟩
      refine ⟨id, ⟨object, stored, has⟩, ?_⟩
      rintro other ⟨held, there, here⟩
      by_contra different
      exact (accounted.valid.apart id object other held stored there (Ne.symm different)).has here has
    · rintro ⟨id, ⟨object, stored, has⟩, _⟩
      exact ⟨id, object, stored, has⟩
  · exact ⟨(accounted.live_iff r).mpr (.inl strange), accounted.disjoint r strange⟩
  · have nothing := accounted.valid.drained unreferenced
    refine ⟨nothing, fun r own => ?_⟩
    have unowned : ¬ s.Owned r := by
      rintro ⟨id, object, stored, _⟩
      cases (nothing id).symm.trans stored
    have dead : s.live r = false := by simpa [unowned] using owned r own
    have balance := balanced r own
    rw [dead] at balance
    exact balance

/-! ### A whole life -/

theorem freeSsl_run (ssl : Option Ssl) (s : Heap) : Run owning (freeSsl ssl) s () (s.dropSsl ssl) := by
  cases ssl with
  | none => exact .done _ _
  | some ssl => exact .ask rfl (.done _ _)

theorem closeSocket_run (fd : Option Fd) (s : Heap) :
    Run owning (closeSocket fd) s () (s.dropFd fd) := by
  cases fd with
  | none => exact .done _ _
  | some fd => exact .ask rfl (.done _ _)

theorem releaseObject_run (object : Option ObjectId) (s : Heap) :
    Run owning (releaseObject object) s () (s.dropRef object) := by
  cases object with
  | none => exact .done _ _
  | some object => exact .ask rfl (.done _ _)

theorem freeCtx_run (ctx : Option SslCtx) (s : Heap) : Run owning (freeCtx ctx) s () s := by
  cases ctx with
  | none => exact .done _ _
  | some ctx => exact .ask rfl (.done _ _)

theorem freeAlpnData_run (data : Option QuicAlpnData) (s : Heap) :
    Run owning (freeAlpnData data) s () (s.dropAlpn (data.map QuicAlpnData.id)) := by
  cases data with
  | none => exact .done _ _
  | some data => exact run_call_bind_iff.mpr ⟨(), s, rfl, .ask rfl (.done _ _)⟩

/-- A destructor always ends. -/
theorem freeObject_run (object : QuicObject) (s : Heap) :
    Run owning (freeObject object) s () (s.release object) := by
  cases object with
  | connection obj =>
      exact run_bind_iff.mpr ⟨(), _, freeSsl_run obj.ssl s, run_bind_iff.mpr
        ⟨(), _, closeSocket_run _ _, releaseObject_run obj.listener _⟩⟩
  | listener obj =>
      refine run_bind_iff.mpr ⟨quicListenerCreate, _, ?_, .done _ _⟩
      exact run_bind_iff.mpr ⟨(), _, freeSsl_run obj.ssl s, run_bind_iff.mpr
        ⟨(), _, closeSocket_run obj.fd _, run_bind_iff.mpr
          ⟨(), _, freeCtx_run obj.ctx _, run_bind_iff.mpr
            ⟨(), _, freeAlpnData_run obj.alpnCbArg _, .done _ _⟩⟩⟩⟩
  | stream obj =>
      exact run_bind_iff.mpr ⟨(), _, freeSsl_run obj.ssl s, releaseObject_run obj.connection _⟩
  | foreign => exact .done _ _

/-- **An object without references can be destroyed.** -/
theorem LifeStep.destroyable {s : Heap} {id : ObjectId} {object : QuicObject}
    (stored : s.object id = some object) (unreferenced : s.refcount id = 0) :
    LifeStep s (.destroy id) ((s.release object).setObject id none) :=
  .destroy stored unreferenced (freeObject_run object s)

/-- The script drops the listener first, and the connection that was accepted from it then. -/
def droppedHeap : Heap :=
  let s := (acceptedHeap.delref 0).setUser 0 0
  (s.delref 1).setUser 1 0

/-- The connection is destroyed, and the listener with it. -/
def emptiedHeap : Heap :=
  let s := (droppedHeap.release (.connection borrowingConnection)).setObject 1 none
  (s.release (.listener boundListener)).setObject 0 none

theorem children_first_example :
    ∃ labels, Path TracedStep emptyHeap labels emptiedHeap ∧
      ChildrenFirst emptyHeap labels emptiedHeap := by
  have dropsListener : LifeStep acceptedHeap (.dropReference 0)
      ((acceptedHeap.delref 0).setUser 0 0) := .dropReference rfl (by decide)
  have dropsConnection : LifeStep ((acceptedHeap.delref 0).setUser 0 0) (.dropReference 1)
      droppedHeap := .dropReference rfl (by decide)
  have destroysConnection : LifeStep droppedHeap (.destroy 1)
      ((droppedHeap.release (.connection borrowingConnection)).setObject 1 none) :=
    .destroyable rfl rfl
  have destroysListener : LifeStep
      ((droppedHeap.release (.connection borrowingConnection)).setObject 1 none) (.destroy 0)
      emptiedHeap := .destroyable rfl rfl
  obtain ⟨labels, _, path⟩ := Path.traced (.cons ⟨.create .listener, trivial⟩
    (.cons ⟨listeningHeap_step, trivial⟩ (.cons ⟨acceptedHeap_step, trivial⟩
      (.cons ⟨dropsListener, trivial⟩ (.cons ⟨dropsConnection, trivial⟩
        (.cons ⟨destroysConnection, trivial⟩ (.single ⟨destroysListener, trivial⟩)))))))
  exact ⟨labels, path, children_first ⟨fun _ => rfl, fun _ => rfl⟩ path⟩

end PhpQuic
