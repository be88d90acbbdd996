/-
**The life of listeners, connections and streams: nothing released stays in use.**

The runs of `LifeStep` make objects, run their constructors, accept connections, open streams, take
and drop references, close listeners and destroy objects; the process opens descriptors of its own
at any moment.

* `Heap.Sound`: the descriptor a live object shows is open and is its socket, and the ALPN callback
  data of its context is allocated.
* `Heap.Valid`: the invariant. Every object has its resources to itself or shares those of its
  parent, and the count of every object is the number of references on it.
* `Heap.Valid.store`, `Heap.Valid.install`, `Heap.Valid.of_same`, `Heap.Valid.free`: what the kinds
  of steps preserve.
* `lifecycle_iff`: in a run that closes listeners without accepted connections only, every state is
  sound; closing one that has accepted connections leads to a state that is not.
-/

import Mathlib.Algebra.BigOperators.Intervals
import Mathlib.Algebra.Order.BigOperators.Group.Finset
import PhpQuic.Openssl.Environment
import PhpQuic.Proof.Ownership

namespace PhpQuic

open Interact

/-! ### Soundness -/

/-- The descriptor an object shows: what `getFd()` returns, and the cast for `stream_select`. -/
def Heap.Shows (s : Heap) : QuicObject → Fd → Prop
  | .connection obj, fd => Run owning (Connection.getFd obj) s fd s
  | .listener obj, fd => Run owning (Listener.getFd obj) s fd s
  | .stream obj, fd => Run owning (quicStreamOpCast obj .fdForSelect) s (some fd) s
  | .foreign, _ => False

/-- **No released resource is in use.** The descriptor in the BIO of a live object is the one it
shows, it is open, and it is the socket the BIO was made for; and the callback data on its context
has not been freed. -/
def Heap.Sound (s : Heap) : Prop :=
  ∀ id object ssl, s.object id = some object → object.ssl = some ssl →
    ∃ fd socket ctx, s.engine ssl = some ⟨some (fd, socket), ctx⟩ ∧ s.Shows object fd ∧
      s.table fd = some socket ∧ ∀ arg, s.alpnArg ctx = some arg → s.allocated arg = true

/-! ### What each object holds -/

/-- An accepted connection refers to a listening object and has its socket and its context. -/
def Heap.Accepted (s : Heap) (obj : PhpQuicConnection) : Prop :=
  obj.ownsFd = false ∧ ∃ parent listener fd socket ctx, obj.listener = some parent ∧
    s.object parent = some (.listener listener) ∧ s.Listening listener fd socket ctx ∧
    s.Linked obj fd socket ctx

/-- A stream refers to a connection and has its socket and its context. -/
def Heap.Carried (s : Heap) (obj : PhpQuicStream) : Prop :=
  ∃ ssl parent conn root engine, obj = ⟨some ssl, some parent⟩ ∧
    s.object parent = some (.connection conn) ∧ conn.ssl = some root ∧
    s.engine root = some engine ∧ s.engine ssl = some engine

/-- An object as it was created. -/
def QuicObject.Idle : QuicObject → Prop
  | .connection obj => obj = quicConnectionCreate
  | .listener obj => obj = quicListenerCreate
  | .stream obj => obj = quicStreamCreate
  | .foreign => True

theorem QuicObject.Idle.empty {object : QuicObject} (idle : object.Idle) :
    object.ssl = none ∧ object.ownFd = none ∧ object.ownAlpn = none ∧ object.parent = none := by
  cases object with
  | foreign => exact ⟨rfl, rfl, rfl, rfl⟩
  | connection | listener | stream =>
      obtain rfl : _ = _ := idle
      exact ⟨rfl, rfl, rfl, rfl⟩

/-- An object is idle, or it holds what its kind holds. -/
def Heap.Fits (s : Heap) : QuicObject → Prop
  | .connection obj =>
    obj = quicConnectionCreate ∨ (obj.listener = none ∧ s.Dialled obj) ∨ s.Accepted obj
  | .listener obj => obj = quicListenerCreate ∨ ∃ fd socket ctx, s.Listening obj fd socket ctx
  | .stream obj => obj = quicStreamCreate ∨ s.Carried obj
  | .foreign => True

/-- Two objects own nothing in common. -/
structure QuicObject.Apart (first second : QuicObject) : Prop where
  ssl : ∀ ssl, second.ssl = some ssl → first.ssl ≠ some ssl
  ownFd : ∀ fd, second.ownFd = some fd → first.ownFd ≠ some fd
  ownAlpn : ∀ id, second.ownAlpn = some id → first.ownAlpn ≠ some id

theorem QuicObject.Apart.symm {first second : QuicObject} (apart : first.Apart second) :
    second.Apart first :=
  ⟨fun ssl here there => apart.ssl ssl there here,
    fun fd here there => apart.ownFd fd there here,
    fun id here there => apart.ownAlpn id there here⟩

/-- What an object owns is in use. -/
structure Heap.Holds (s : Heap) (object : QuicObject) : Prop where
  ssl : ∀ ssl, object.ssl = some ssl → s.engine ssl ≠ none
  ownFd : ∀ fd, object.ownFd = some fd → s.table fd ≠ none
  ownAlpn : ∀ id, object.ownAlpn = some id → s.allocated id = true

theorem Heap.Linked.engine_eq {s : Heap} {obj : PhpQuicConnection} {fd : Fd} {socket : Nat}
    {ctx : SslCtx} (linked : s.Linked obj fd socket ctx) {ssl : Ssl} (live : obj.ssl = some ssl) :
    s.engine ssl = some ⟨some (fd, socket), ctx⟩ := by
  obtain ⟨root, here, _, engine⟩ := linked
  obtain rfl : root = ssl := Option.some.inj (here.symm.trans live)
  exact engine

theorem Heap.Linked.holds {s : Heap} {obj : PhpQuicConnection} {fd : Fd} {socket : Nat}
    {ctx : SslCtx} (linked : s.Linked obj fd socket ctx) :
    ∀ ssl, obj.ssl = some ssl → s.engine ssl ≠ none := by
  intro ssl live
  rw [linked.engine_eq live]
  exact Option.some_ne_none _

theorem Heap.Fits.holds {s : Heap} {object : QuicObject} (fits : s.Fits object) :
    s.Holds object := by
  cases object with
  | foreign => exact ⟨nofun, nofun, nofun⟩
  | connection obj =>
      rcases fits with rfl | ⟨_, owns, fd, socket, ctx, linked, opened, _⟩ | ⟨owns, accepted⟩
      · exact ⟨nofun, nofun, nofun⟩
      · refine ⟨linked.holds, fun other same => ?_, nofun⟩
        obtain ⟨_, _, shows, _⟩ := linked
        simp only [QuicObject.ownFd, owns, if_true] at same
        obtain rfl : fd = other := Option.some.inj (shows.symm.trans same)
        rw [opened]
        exact Option.some_ne_none _
      · obtain ⟨_, _, _, _, _, _, _, _, linked⟩ := accepted
        refine ⟨linked.holds, fun other same => ?_, nofun⟩
        simp only [QuicObject.ownFd, owns] at same
        cases same
  | listener obj =>
      rcases fits with rfl | ⟨fd, socket, ctx, ssl, data, rfl, engine, opened, _, held⟩
      · exact ⟨nofun, nofun, nofun⟩
      · refine ⟨fun _ same => ?_, fun _ same => ?_, fun _ same => ?_⟩
        · obtain rfl := Option.some.inj same
          rw [engine]
          exact Option.some_ne_none _
        · obtain rfl := Option.some.inj same
          rw [opened]
          exact Option.some_ne_none _
        · obtain rfl := Option.some.inj same
          exact held
  | stream obj =>
      rcases fits with rfl | ⟨ssl, parent, conn, root, engine, rfl, _, _, _, here⟩
      · exact ⟨nofun, nofun, nofun⟩
      · refine ⟨fun _ same => ?_, nofun, nofun⟩
        obtain rfl := Option.some.inj same
        rw [here]
        exact Option.some_ne_none _

/-- What was not in use is apart from everything that is. -/
theorem Heap.Unclaimed.apart {s : Heap} {new old : QuicObject} (unclaimed : s.Unclaimed new)
    (holds : s.Holds old) : new.Apart old := by
  refine ⟨fun ssl here same => holds.ssl ssl here (unclaimed.ssl ssl same),
    fun fd here same => holds.ownFd fd here (unclaimed.ownFd fd same), fun id here same => ?_⟩
  exact Bool.noConfusion ((unclaimed.ownAlpn id same).symm.trans (holds.ownAlpn id here))

/-- An idle object owns nothing. -/
theorem QuicObject.Idle.apart {object : QuicObject} (idle : object.Idle) (other : QuicObject) :
    object.Apart other := by
  obtain ⟨ssl, ownFd, ownAlpn, _⟩ := idle.empty
  refine ⟨fun _ _ same => ?_, fun _ _ same => ?_, fun _ _ same => ?_⟩
  · rw [ssl] at same
    cases same
  · rw [ownFd] at same
    cases same
  · rw [ownAlpn] at same
    cases same

/-! ### References -/

/-- The parent of a stored object. -/
def Heap.parentOf (s : Heap) (id : ObjectId) : Option ObjectId :=
  (s.object id).bind QuicObject.parent

/-- The number of stored objects that refer to `parent`. -/
def Heap.children (s : Heap) (parent : ObjectId) : Nat :=
  ((Finset.range s.bound).filter fun id => s.parentOf id = some parent).card

/-- A change of one object counts where it refers to. -/
theorem Heap.children_update {s s' : Heap} {id : ObjectId} {stored : Option QuicObject}
    (inside : id < s.bound) (object : s'.object = Function.update s.object id stored)
    (bound : s'.bound = s.bound) (parent : ObjectId) :
    s'.children parent + (if s.parentOf id = some parent then 1 else 0) =
      s.children parent + (if stored.bind QuicObject.parent = some parent then 1 else 0) := by
  have member := Finset.mem_range.mpr inside
  have here : s'.parentOf id = stored.bind QuicObject.parent := by
    rw [Heap.parentOf, object, Function.update_self]
  have others : ∀ other ∈ (Finset.range s.bound).erase id,
      (if s'.parentOf other = some parent then 1 else 0) =
        if s.parentOf other = some parent then 1 else 0 := by
    intro other there
    rw [Heap.parentOf, object, Function.update_of_ne (Finset.ne_of_mem_erase there)]
    rfl
  unfold Heap.children
  rw [bound, Finset.card_filter, Finset.card_filter, ← Finset.add_sum_erase _ _ member,
    ← Finset.add_sum_erase _ _ member, Finset.sum_congr rfl others, here]
  omega

/-- So does a new object. -/
theorem Heap.children_install {s s' : Heap} {stored : QuicObject}
    (object : s'.object = Function.update s.object s.bound (some stored))
    (bound : s'.bound = s.bound + 1) (parent : ObjectId) :
    s'.children parent = s.children parent + if stored.parent = some parent then 1 else 0 := by
  have here : s'.parentOf s.bound = stored.parent := by
    rw [Heap.parentOf, object, Function.update_self]
    rfl
  have others : ∀ other ∈ Finset.range s.bound,
      (if s'.parentOf other = some parent then 1 else 0) =
        if s.parentOf other = some parent then 1 else 0 := by
    intro other there
    rw [Heap.parentOf, object, Function.update_of_ne (Finset.mem_range.mp there).ne]
    rfl
  unfold Heap.children
  rw [bound, Finset.card_filter, Finset.card_filter, Finset.sum_range_succ,
    Finset.sum_congr rfl others, here]

theorem Heap.children_congr {s s' : Heap} (object : s'.object = s.object)
    (bound : s'.bound = s.bound) (parent : ObjectId) : s'.children parent = s.children parent := by
  unfold Heap.children Heap.parentOf
  rw [object, bound]

/-- Without children, no stored object refers to `parent`. -/
theorem Heap.parent_ne_of_childless {s : Heap} {parent id : ObjectId} {object : QuicObject}
    (childless : s.children parent = 0) (stored : s.object id = some object)
    (inside : id < s.bound) : object.parent ≠ some parent := by
  intro refers
  have member : id ∈ (Finset.range s.bound).filter fun id => s.parentOf id = some parent := by
    refine Finset.mem_filter.mpr ⟨Finset.mem_range.mpr inside, ?_⟩
    rw [Heap.parentOf, stored]
    exact refers
  rw [Finset.card_eq_zero.mp childless] at member
  exact absurd member (Finset.notMem_empty id)

/-- **The invariant.** -/
structure Heap.Valid (s : Heap) : Prop where
  bounded : ∀ id object, s.object id = some object → id < s.bound
  fits : ∀ id object, s.object id = some object → s.Fits object
  apart : ∀ id object other object', s.object id = some object → s.object other = some object' →
    id ≠ other → object.Apart object'
  counted : ∀ id object, s.object id = some object →
    s.refcount id = s.user id + s.adapters id + s.children id

/-! ### The invariant implies soundness -/

/-- A socket is open and what it was, and the callback data of a context is allocated. -/
structure Heap.Usable (s : Heap) (fd : Fd) (socket : Nat) (ctx : SslCtx) : Prop where
  opened : s.table fd = some socket
  allocated : ∀ arg, s.alpnArg ctx = some arg → s.allocated arg = true

theorem Heap.Listening.usable {s : Heap} {obj : PhpQuicListener} {fd : Fd} {socket : Nat}
    {ctx : SslCtx} (listening : s.Listening obj fd socket ctx) : s.Usable fd socket ctx := by
  obtain ⟨ssl, data, _, _, opened, registered, held⟩ := listening
  refine ⟨opened, fun arg same => ?_⟩
  rw [registered] at same
  obtain rfl := Option.some.inj same
  exact held

theorem Heap.Dialled.usable {s : Heap} {obj : PhpQuicConnection} (dialled : s.Dialled obj) :
    ∃ fd socket ctx, s.Linked obj fd socket ctx ∧ s.Usable fd socket ctx := by
  obtain ⟨_, fd, socket, ctx, linked, opened, plain⟩ := dialled
  refine ⟨fd, socket, ctx, linked, opened, fun arg same => ?_⟩
  rw [plain] at same
  cases same

/-- A connection with an SSL object has a usable socket. -/
theorem Heap.Fits.usable {s : Heap} {obj : PhpQuicConnection} (fits : s.Fits (.connection obj))
    {ssl : Ssl} (live : obj.ssl = some ssl) :
    ∃ fd socket ctx, s.Linked obj fd socket ctx ∧ s.Usable fd socket ctx := by
  rcases fits with rfl | ⟨_, dialled⟩ | ⟨_, parent, listener, fd, socket, ctx, accepted⟩
  · cases live
  · exact dialled.usable
  · obtain ⟨_, _, listening, linked⟩ := accepted
    exact ⟨fd, socket, ctx, linked, listening.usable⟩

/-- The cast of a stream gives out the descriptor of its connection. -/
theorem quicStreamOpCast_shows {s : Heap} {conn : PhpQuicConnection} {ssl : Ssl}
    {parent : ObjectId} (stored : s.object parent = some (.connection conn)) :
    Run owning (quicStreamOpCast ⟨some ssl, some parent⟩ .fdForSelect) s conn.fd s := by
  have loaded : owning s (.loadObject parent) (.connection conn) s := by
    refine ⟨?_, rfl⟩
    rw [stored]
    rfl
  exact .ask loaded (.done _ _)

theorem Heap.Valid.sound {s : Heap} (valid : s.Valid) : s.Sound := by
  intro id object ssl stored live
  have fits := valid.fits id object stored
  cases object with
  | foreign => cases live
  | connection obj =>
      obtain ⟨fd, socket, ctx, linked, usable⟩ := fits.usable live
      refine ⟨fd, socket, ctx, linked.engine_eq live, ?_, usable.opened, usable.allocated⟩
      obtain ⟨_, _, shown, _⟩ := linked
      show Run owning (Connection.getFd obj) s fd s
      rw [Connection.getFd, shown]
      exact .done _ _
  | listener obj =>
      rcases fits with rfl | ⟨fd, socket, ctx, listening⟩
      · cases live
      · have usable := listening.usable
        obtain ⟨root, data, rfl, engine, _⟩ := listening
        obtain rfl := Option.some.inj live
        exact ⟨fd, socket, ctx, engine, .done _ _, usable.opened, usable.allocated⟩
  | stream obj =>
      rcases fits with rfl | ⟨own, parent, conn, root, engine, rfl, there, rooted, shared, here⟩
      · cases live
      · obtain rfl := Option.some.inj live
        obtain ⟨fd, socket, ctx, linked, usable⟩ := (valid.fits parent _ there).usable rooted
        have same := shared.symm.trans (linked.engine_eq rooted)
        refine ⟨fd, socket, ctx, here.trans same, ?_, usable.opened, usable.allocated⟩
        obtain ⟨_, _, shown, _⟩ := linked
        have cast : Run owning (quicStreamOpCast ⟨some own, some parent⟩ .fdForSelect) s conn.fd s :=
          quicStreamOpCast_shows there
        rw [shown] at cast
        exact cast

/-! ### Steps that release nothing -/

/-- Everything in use is still there, and so is every object that holds an SSL object. -/
structure Heap.Extends (s s' : Heap) : Prop where
  table : ∀ fd socket, s.table fd = some socket → s'.table fd = some socket
  engine : ∀ ssl engine, s.engine ssl = some engine → s'.engine ssl = some engine
  alpnArg : ∀ ssl engine, s.engine ssl = some engine → s'.alpnArg engine.ctx = s.alpnArg engine.ctx
  allocated : ∀ id, s.allocated id = true → s'.allocated id = true
  object : ∀ id object ssl, s.object id = some object → object.ssl = some ssl →
    s'.object id = some object

theorem Heap.Spares.extends {s s' : Heap} (spares : s.Spares s') : s.Extends s' :=
  ⟨spares.table, spares.engine, spares.alpnArg, spares.allocated,
    fun _ _ _ stored _ => spares.object ▸ stored⟩

namespace Heap.Extends

variable {s s₁ s' : Heap}

theorem refl (s : Heap) : s.Extends s := (Heap.Spares.refl s).extends

theorem trans (first : s.Extends s₁) (second : s₁.Extends s') : s.Extends s' := by
  refine ⟨fun fd socket here => second.table fd socket (first.table fd socket here),
    fun ssl engine here => second.engine ssl engine (first.engine ssl engine here),
    fun ssl engine here => ?_, fun id here => second.allocated id (first.allocated id here),
    fun id object ssl stored live => second.object id object ssl ?_ live⟩
  · have there := first.engine ssl engine here
    exact (second.alpnArg ssl engine there).trans (first.alpnArg ssl engine here)
  · exact first.object id object ssl stored live

/-- An idle object, or none, is replaced. -/
theorem replace {id : ObjectId} {stored : Option QuicObject}
    (idle : ∀ object, s.object id = some object → object.ssl = none)
    (object : s'.object = Function.update s.object id stored) (table : s'.table = s.table)
    (engine : s'.engine = s.engine) (alpnArg : s'.alpnArg = s.alpnArg)
    (allocated : s'.allocated = s.allocated) : s.Extends s' := by
  refine ⟨fun _ _ here => table ▸ here, fun _ _ here => engine ▸ here, fun _ _ _ => alpnArg ▸ rfl,
    fun _ here => allocated ▸ here, fun other held ssl there live => ?_⟩
  have different : other ≠ id := by
    rintro rfl
    rw [idle held there] at live
    cases live
  rw [object, Function.update_of_ne different]
  exact there

theorem linked (kept : s.Extends s') {obj : PhpQuicConnection} {fd : Fd} {socket : Nat}
    {ctx : SslCtx} (linked : s.Linked obj fd socket ctx) : s'.Linked obj fd socket ctx := by
  obtain ⟨root, live, shown, engine⟩ := linked
  exact ⟨root, live, shown, kept.engine root _ engine⟩

theorem dialled (kept : s.Extends s') {obj : PhpQuicConnection} (dialled : s.Dialled obj) :
    s'.Dialled obj := by
  obtain ⟨owns, fd, socket, ctx, linked, opened, plain⟩ := dialled
  refine ⟨owns, fd, socket, ctx, kept.linked linked, kept.table fd socket opened, ?_⟩
  obtain ⟨root, _, _, engine⟩ := linked
  exact (kept.alpnArg root _ engine).trans plain

theorem listening (kept : s.Extends s') {obj : PhpQuicListener} {fd : Fd} {socket : Nat}
    {ctx : SslCtx} (listening : s.Listening obj fd socket ctx) :
    s'.Listening obj fd socket ctx := by
  obtain ⟨ssl, data, same, engine, opened, registered, held⟩ := listening
  exact ⟨ssl, data, same, kept.engine ssl _ engine, kept.table fd socket opened,
    (kept.alpnArg ssl _ engine).trans registered, kept.allocated data.id held⟩

end Heap.Extends

theorem Heap.Fits.extends {s s' : Heap} {object : QuicObject} (fits : s.Fits object)
    (kept : s.Extends s') : s'.Fits object := by
  cases object with
  | foreign => trivial
  | connection obj =>
      rcases fits with idle | ⟨orphan, dialled⟩ | ⟨owns, parent, listener, fd, socket, ctx, accepted⟩
      · exact .inl idle
      · exact .inr (.inl ⟨orphan, kept.dialled dialled⟩)
      · obtain ⟨refers, stored, listening, linked⟩ := accepted
        refine .inr (.inr ⟨owns, parent, listener, fd, socket, ctx, refers, ?_,
          kept.listening listening, kept.linked linked⟩)
        obtain ⟨root, _, rfl, _⟩ := listening
        exact kept.object parent _ root stored rfl
  | listener obj =>
      rcases fits with idle | ⟨fd, socket, ctx, listening⟩
      · exact .inl idle
      · exact .inr ⟨fd, socket, ctx, kept.listening listening⟩
  | stream obj =>
      rcases fits with idle | ⟨ssl, parent, conn, root, engine, same, stored, rooted, shared, here⟩
      · exact .inl idle
      · exact .inr ⟨ssl, parent, conn, root, engine, same, kept.object parent _ root stored rooted,
          rooted, kept.engine root engine shared, kept.engine ssl engine here⟩

theorem QuicObject.Idle.fits {object : QuicObject} (idle : object.Idle) (s : Heap) :
    s.Fits object := by
  cases object with
  | foreign => trivial
  | connection | listener | stream => exact .inl idle

/-- An object without an SSL object is as it was created. -/
theorem Heap.Fits.idle {s : Heap} {object : QuicObject} (fits : s.Fits object)
    (unused : object.ssl = none) : object.Idle := by
  cases object with
  | foreign => trivial
  | connection obj =>
      have unlinked {fd : Fd} {socket : Nat} {ctx : SslCtx} (linked : s.Linked obj fd socket ctx) :
          False := by
        obtain ⟨root, live, _⟩ := linked
        exact Option.some_ne_none root (live.symm.trans unused)
      rcases fits with idle | ⟨_, _, _, _, _, linked, _⟩ | ⟨_, _, _, _, _, _, _, _, _, linked⟩
      · exact idle
      · exact (unlinked linked).elim
      · exact (unlinked linked).elim
  | listener obj =>
      rcases fits with idle | ⟨_, _, _, _, _, rfl, _⟩
      · exact idle
      · cases unused
  | stream obj =>
      rcases fits with idle | ⟨_, _, _, _, _, rfl, _⟩
      · exact idle
      · cases unused

/-- A stream refers to a connection, and a connection to a listener. -/
theorem Heap.Fits.parent_cases {s : Heap} {object : QuicObject} (fits : s.Fits object)
    {parent : ObjectId} (refers : object.parent = some parent) :
    (∃ stream conn, object = .stream stream ∧ s.object parent = some (.connection conn)) ∨
      ∃ conn listener, object = .connection conn ∧ s.object parent = some (.listener listener) := by
  cases object with
  | foreign => cases refers
  | listener obj => cases refers
  | connection obj =>
      rcases fits with rfl | ⟨orphan, _⟩ | ⟨_, above, listener, _, _, _, here, stored, _⟩
      · cases refers
      · cases orphan.symm.trans refers
      · obtain rfl := Option.some.inj (here.symm.trans refers)
        exact .inr ⟨obj, listener, rfl, stored⟩
  | stream obj =>
      rcases fits with rfl | ⟨_, above, conn, _, _, rfl, stored, _⟩
      · cases refers
      · obtain rfl := Option.some.inj refers
        exact .inl ⟨_, conn, rfl, stored⟩

/-- What an object refers to is stored. -/
theorem Heap.Fits.parent_stored {s : Heap} {object : QuicObject} (fits : s.Fits object)
    {parent : ObjectId} (refers : object.parent = some parent) : s.object parent ≠ none := by
  rcases fits.parent_cases refers with ⟨_, _, _, stored⟩ | ⟨_, _, _, stored⟩
  · simp [stored]
  · simp [stored]

/-- An object that is not stored has no children. -/
theorem Heap.Valid.childless {s : Heap} (valid : s.Valid) {parent : ObjectId}
    (unstored : s.object parent = none) : s.children parent = 0 := by
  refine Finset.card_eq_zero.mpr (Finset.filter_eq_empty_iff.mpr fun id _ refers => ?_)
  unfold Heap.parentOf at refers
  obtain ⟨object, stored, here⟩ := Option.bind_eq_some_iff.mp refers
  exact (valid.fits id object stored).parent_stored here unstored

/-! ### The store -/

namespace Heap

def setObject (s : Heap) (id : ObjectId) (stored : Option QuicObject) : Heap :=
  { s with object := Function.update s.object id stored }

/-- A new object, with the reference the script gets. -/
def install (s : Heap) (object : QuicObject) : Heap :=
  { s with
    object := Function.update s.object s.bound (some object)
    bound := s.bound + 1
    refcount := Function.update s.refcount s.bound 1
    user := Function.update s.user s.bound 1
    adapters := Function.update s.adapters s.bound 0 }

/-- The script gets a reference, or gives one back. -/
def setUser (s : Heap) (id : ObjectId) (count : Nat) : Heap :=
  { s with user := Function.update s.user id count }

def setAdapters (s : Heap) (id : ObjectId) (count : Nat) : Heap :=
  { s with adapters := Function.update s.adapters id count }

/-- The object a constructor was called on, if it returned. -/
def storeMade (s : Heap) (id : ObjectId) : Option QuicObject → Heap
  | some made => s.setObject id (some made)
  | none => s

/-- The object a method returned, if it did. -/
def installMade (s : Heap) : Option QuicObject → Heap
  | some made => s.install made
  | none => s

/-- From `s`, the resources of a new object came to be, and the reference it holds. -/
structure Supplies (s : Heap) (made : QuicObject) (s₁ : Heap) : Prop where
  kept : s.Extends s₁
  object : s₁.object = s.object
  bound : s₁.bound = s.bound
  user : s₁.user = s.user
  adapters : s₁.adapters = s.adapters
  refcount : ∀ id, s₁.refcount id = s.refcount id + if made.parent = some id then 1 else 0
  fits : s₁.Fits made
  unclaimed : s.Unclaimed made

end Heap

/-- A new object takes the place of an idle one, or of none. -/
theorem Heap.Valid.set {s s₁ s' : Heap} (valid : s.Valid) {made : QuicObject}
    (supplies : s.Supplies made s₁) {id : ObjectId}
    (object : s'.object = Function.update s.object id (some made)) (kept : s₁.Extends s')
    (inside : id < s'.bound) (bound : s.bound ≤ s'.bound)
    (counted : ∀ other object, s'.object other = some object →
      s'.refcount other = s'.user other + s'.adapters other + s'.children other) : s'.Valid := by
  have whole := supplies.kept.trans kept
  have here : s'.object id = some made := by rw [object, Function.update_self]
  have there {other : ObjectId} (different : other ≠ id) : s'.object other = s.object other := by
    rw [object, Function.update_of_ne different]
  have fresh {other : ObjectId} {held : QuicObject} (stored : s.object other = some held) :
      made.Apart held :=
    supplies.unclaimed.apart (valid.fits other held stored).holds
  refine ⟨fun other held stored => ?_, fun other held stored => ?_,
    fun first held second held' stored stored' different => ?_, counted⟩
  · by_cases same : other = id
    · rw [same]
      exact inside
    · rw [there same] at stored
      exact (valid.bounded other held stored).trans_le bound
  · by_cases same : other = id
    · obtain rfl : made = held := Option.some.inj (here.symm.trans (same ▸ stored))
      exact supplies.fits.extends kept
    · rw [there same] at stored
      exact (valid.fits other held stored).extends whole
  · by_cases same : first = id
    · obtain rfl : made = held := Option.some.inj (here.symm.trans (same ▸ stored))
      rw [there (same ▸ different.symm)] at stored'
      exact fresh stored'
    · rw [there same] at stored
      by_cases same' : second = id
      · obtain rfl : made = held' := Option.some.inj (here.symm.trans (same' ▸ stored'))
        exact (fresh stored).symm
      · rw [there same'] at stored'
        exact valid.apart first held second held' stored stored' different

/-- A constructor ran on an idle object. -/
theorem Heap.Valid.store {s s₁ : Heap} (valid : s.Valid) {old made : QuicObject}
    (supplies : s.Supplies made s₁) {id : ObjectId} (stored : s.object id = some old)
    (unused : old.ssl = none) : (s₁.setObject id (some made)).Valid := by
  have idle : ∀ object, s.object id = some object → object.ssl = none := by
    intro object here
    rw [stored] at here
    exact Option.some.inj here ▸ unused
  have orphan : s.parentOf id = none := by
    rw [Heap.parentOf, stored]
    exact ((valid.fits id old stored).idle unused).empty.2.2.2
  have object : (s₁.setObject id (some made)).object = Function.update s.object id (some made) := by
    rw [← supplies.object]
    rfl
  have inside := valid.bounded id old stored
  have kept : s₁.Extends (s₁.setObject id (some made)) :=
    .replace (supplies.object ▸ idle) rfl rfl rfl rfl rfl
  refine valid.set supplies object kept (supplies.bound ▸ inside) supplies.bound.ge ?_
  intro other held there
  have before : s.refcount other = s.user other + s.adapters other + s.children other := by
    by_cases same : other = id
    · rw [same]
      exact valid.counted id old stored
    · rw [object, Function.update_of_ne same] at there
      exact valid.counted other held there
  have children := Heap.children_update inside object supplies.bound other
  have counts := supplies.refcount other
  rw [orphan, if_neg nofun, Option.bind_some] at children
  show s₁.refcount other =
    s₁.user other + s₁.adapters other + (s₁.setObject id (some made)).children other
  rw [supplies.user, supplies.adapters]
  omega

/-- An object was made. -/
theorem Heap.Valid.install {s s₁ : Heap} (valid : s.Valid) {made : QuicObject}
    (supplies : s.Supplies made s₁) : (s₁.install made).Valid := by
  have unstored : s.object s.bound = none := by
    by_contra stored
    obtain ⟨object, here⟩ := Option.ne_none_iff_exists'.mp stored
    exact (valid.bounded s.bound object here).false
  have idle : ∀ object, s.object s.bound = some object → object.ssl = none := by
    intro object here
    rw [unstored] at here
    cases here
  have object : (s₁.install made).object = Function.update s.object s.bound (some made) := by
    rw [← supplies.object, ← supplies.bound]
    rfl
  have bound : (s₁.install made).bound = s.bound + 1 := by
    rw [← supplies.bound]
    rfl
  have kept : s₁.Extends (s₁.install made) :=
    .replace (supplies.bound ▸ supplies.object ▸ idle) rfl rfl rfl rfl rfl
  have inside : s.bound < (s₁.install made).bound := bound ▸ Nat.lt_succ_self s.bound
  refine valid.set supplies object kept inside inside.le fun other held there => ?_
  have children := Heap.children_install object bound other
  show Function.update s₁.refcount s₁.bound 1 other =
    Function.update s₁.user s₁.bound 1 other + Function.update s₁.adapters s₁.bound 0 other +
      (s₁.install made).children other
  rw [supplies.bound]
  by_cases same : other = s.bound
  · subst same
    have other_parent : made.parent ≠ some s.bound := by
      intro refers
      exact supplies.fits.parent_stored refers (supplies.object ▸ unstored)
    rw [Function.update_self, Function.update_self, Function.update_self, children,
      valid.childless unstored, if_neg other_parent]
  · rw [object, Function.update_of_ne same] at there
    rw [Function.update_of_ne same, Function.update_of_ne same, Function.update_of_ne same,
      supplies.refcount, supplies.user, supplies.adapters, children,
      valid.counted other held there]
    omega

/-- No object has changed. -/
theorem Heap.Valid.of_same {s s' : Heap} (valid : s.Valid) (kept : s.Extends s')
    (object : s'.object = s.object) (bound : s'.bound = s.bound)
    (counted : ∀ id, s.refcount id = s.user id + s.adapters id + s.children id →
      s'.refcount id = s'.user id + s'.adapters id + s.children id) : s'.Valid := by
  refine ⟨?_, ?_, ?_, ?_⟩
  · rw [object, bound]
    exact valid.bounded
  · intro id held stored
    rw [object] at stored
    exact (valid.fits id held stored).extends kept
  · rw [object]
    exact valid.apart
  · intro id held stored
    rw [object] at stored
    rw [Heap.children_congr object bound]
    exact counted id (valid.counted id held stored)

theorem Heap.Valid.spares {s s' : Heap} (valid : s.Valid) (spares : s.Spares s') : s'.Valid :=
  valid.of_same spares.extends spares.object spares.bound fun id counted => by
    rw [spares.refcount, spares.user, spares.adapters, counted]

/-! ### What a release leaves alone -/

/-- Only what `object`, stored at `id`, owned may have changed. -/
structure Heap.Frees (s : Heap) (id : ObjectId) (object : QuicObject) (s' : Heap) : Prop where
  table : ∀ fd, object.ownFd ≠ some fd → s'.table fd = s.table fd
  engine : ∀ ssl, object.ssl ≠ some ssl → s'.engine ssl = s.engine ssl
  allocated : ∀ block, object.ownAlpn ≠ some block → s'.allocated block = s.allocated block
  alpnArg : s'.alpnArg = s.alpnArg
  object : ∀ other, other ≠ id → s'.object other = s.object other

namespace Heap

theorem dropSsl_engine_of_ne (s : Heap) {own : Option Ssl} {ssl : Ssl} (different : own ≠ some ssl) :
    (s.dropSsl own).engine ssl = s.engine ssl := by
  cases own with
  | none => rfl
  | some own => exact Function.update_of_ne (fun same => different (congrArg some same.symm)) _ _

theorem dropFd_table_of_ne (s : Heap) {own : Option Fd} {fd : Fd} (different : own ≠ some fd) :
    (s.dropFd own).table fd = s.table fd := by
  cases own with
  | none => rfl
  | some own => exact Function.update_of_ne (fun same => different (congrArg some same.symm)) _ _

theorem dropAlpn_allocated_of_ne (s : Heap) {own : Option Nat} {block : Nat}
    (different : own ≠ some block) : (s.dropAlpn own).allocated block = s.allocated block := by
  cases own with
  | none => rfl
  | some own => exact Function.update_of_ne (fun same => different (congrArg some same.symm)) _ _

section Release

variable (s : Heap) (object : QuicObject)

theorem release_engine : (s.release object).engine = (s.dropSsl object.ssl).engine := by
  unfold release
  cases object.parent <;> cases object.ownAlpn <;> cases object.ownFd <;> rfl

theorem release_table : (s.release object).table = (s.dropFd object.ownFd).table := by
  unfold release
  cases object.parent <;> cases object.ownAlpn <;> cases object.ownFd <;> cases object.ssl <;> rfl

theorem release_allocated :
    (s.release object).allocated = (s.dropAlpn object.ownAlpn).allocated := by
  unfold release
  cases object.parent <;> cases object.ownAlpn <;> cases object.ownFd <;> cases object.ssl <;> rfl

theorem release_refcount : (s.release object).refcount = (s.dropRef object.parent).refcount := by
  unfold release
  cases object.parent <;> cases object.ownAlpn <;> cases object.ownFd <;> cases object.ssl <;> rfl

theorem release_kept : (s.release object).alpnArg = s.alpnArg ∧
    (s.release object).object = s.object ∧ (s.release object).bound = s.bound ∧
    (s.release object).user = s.user ∧ (s.release object).adapters = s.adapters := by
  unfold release
  cases object.parent <;> cases object.ownAlpn <;> cases object.ownFd <;> cases object.ssl <;>
    exact ⟨rfl, rfl, rfl, rfl, rfl⟩

end Release

theorem release_closes (s : Heap) {object : QuicObject} {fd : Fd} (own : object.ownFd = some fd) :
    (s.release object).table fd = none := by
  rw [release_table, own]
  exact Function.update_self fd none s.table

theorem dropRef_refcount (s : Heap) (parent : Option ObjectId) (id : ObjectId) :
    (s.dropRef parent).refcount id = s.refcount id - if parent = some id then 1 else 0 := by
  cases parent with
  | none => rfl
  | some parent =>
      show Function.update s.refcount parent (s.refcount parent - 1) id = _
      by_cases same : id = parent
      · rw [same, Function.update_self, if_pos rfl]
      · rw [Function.update_of_ne same, if_neg fun here => same (Option.some.inj here).symm]
        rfl

end Heap

/-- A release. The record is gone then, or that of a new object. -/
theorem Heap.Frees.of_release (s : Heap) (id : ObjectId) (object : QuicObject)
    (left : Option QuicObject) : s.Frees id object ((s.release object).setObject id left) := by
  obtain ⟨alpnArg, objects, _⟩ := s.release_kept object
  refine ⟨fun fd different => ?_, fun ssl different => ?_, fun block different => ?_, alpnArg,
    fun other different => ?_⟩
  · show (s.release object).table fd = _
    rw [Heap.release_table, Heap.dropFd_table_of_ne s different]
  · show (s.release object).engine ssl = _
    rw [Heap.release_engine, Heap.dropSsl_engine_of_ne s different]
  · show (s.release object).allocated block = _
    rw [Heap.release_allocated, Heap.dropAlpn_allocated_of_ne s different]
  · show Function.update (s.release object).object id left other = _
    rw [Function.update_of_ne different, objects]

namespace Heap.Frees

variable {s s' : Heap} {id : ObjectId} {object : QuicObject}

theorem linked (frees : s.Frees id object s') {obj : PhpQuicConnection}
    (apart : object.Apart (.connection obj)) {fd : Fd} {socket : Nat} {ctx : SslCtx}
    (linked : s.Linked obj fd socket ctx) : s'.Linked obj fd socket ctx := by
  obtain ⟨root, live, shown, engine⟩ := linked
  exact ⟨root, live, shown, (frees.engine root (apart.ssl root live)).trans engine⟩

theorem dialled (frees : s.Frees id object s') {obj : PhpQuicConnection}
    (apart : object.Apart (.connection obj)) (dialled : s.Dialled obj) : s'.Dialled obj := by
  obtain ⟨owns, fd, socket, ctx, linked, opened, plain⟩ := dialled
  have own : (QuicObject.connection obj).ownFd = some fd := by
    obtain ⟨_, _, shown, _⟩ := linked
    show (if obj.ownsFd = true then obj.fd else none) = some fd
    rw [if_pos owns, shown]
  refine ⟨owns, fd, socket, ctx, frees.linked apart linked, ?_, frees.alpnArg ▸ plain⟩
  exact (frees.table fd (apart.ownFd fd own)).trans opened

theorem listening (frees : s.Frees id object s') {obj : PhpQuicListener}
    (apart : object.Apart (.listener obj)) {fd : Fd} {socket : Nat} {ctx : SslCtx}
    (listening : s.Listening obj fd socket ctx) : s'.Listening obj fd socket ctx := by
  obtain ⟨ssl, data, rfl, engine, opened, registered, held⟩ := listening
  exact ⟨ssl, data, rfl, (frees.engine ssl (apart.ssl ssl rfl)).trans engine,
    (frees.table fd (apart.ownFd fd rfl)).trans opened, frees.alpnArg ▸ registered,
    (frees.allocated data.id (apart.ownAlpn data.id rfl)).trans held⟩

/-- **An object that does not refer to the released one is left alone**: neither it nor its parent
shares anything with it. -/
theorem fits (frees : s.Frees id object s') (valid : s.Valid) (stored : s.object id = some object)
    {other : ObjectId} {held : QuicObject} (there : s.object other = some held)
    (different : other ≠ id) (stranger : held.parent ≠ some id) : s'.Fits held := by
  have apart : ∀ other held, s.object other = some held → other ≠ id → object.Apart held :=
    fun other held there different => valid.apart id object other held stored there different.symm
  have own := apart other held there different
  have fits := valid.fits other held there
  cases held with
  | foreign => trivial
  | connection obj =>
      rcases fits with idle | ⟨orphan, dialled⟩ | ⟨owns, parent, listener, fd, socket, ctx, accepted⟩
      · exact .inl idle
      · exact .inr (.inl ⟨orphan, frees.dialled own dialled⟩)
      · obtain ⟨refers, above, listening, linked⟩ := accepted
        have distinct : parent ≠ id := fun same => stranger (same ▸ refers)
        exact .inr (.inr ⟨owns, parent, listener, fd, socket, ctx, refers,
          (frees.object parent distinct).trans above,
          frees.listening (apart parent _ above distinct) listening, frees.linked own linked⟩)
  | listener obj =>
      rcases fits with idle | ⟨fd, socket, ctx, listening⟩
      · exact .inl idle
      · exact .inr ⟨fd, socket, ctx, frees.listening own listening⟩
  | stream obj =>
      rcases fits with idle | ⟨ssl, parent, conn, root, engine, rfl, above, rooted, shared, here⟩
      · exact .inl idle
      · have distinct : parent ≠ id := fun same => stranger (same ▸ rfl)
        have apart_parent := apart parent _ above distinct
        exact .inr ⟨ssl, parent, conn, root, engine, rfl,
          (frees.object parent distinct).trans above, rooted,
          (frees.engine root (apart_parent.ssl root rooted)).trans shared,
          (frees.engine ssl (own.ssl ssl rfl)).trans here⟩

end Heap.Frees

/-- **An object without children is released.** -/
theorem Heap.Valid.free {s : Heap} (valid : s.Valid) {id : ObjectId} {object : QuicObject}
    (stored : s.object id = some object) (childless : s.children id = 0)
    {left : Option QuicObject} (idle : ∀ held, left = some held → held.Idle) :
    ((s.release object).setObject id left).Valid := by
  have frees := Heap.Frees.of_release s id object left
  obtain ⟨_, objects, bound, user, adapters⟩ := s.release_kept object
  have map : ((s.release object).setObject id left).object = Function.update s.object id left := by
    rw [← objects]
    rfl
  have inside := valid.bounded id object stored
  have before : ∀ {other : ObjectId} {held : QuicObject},
      ((s.release object).setObject id left).object other = some held →
        other = id ∧ held.Idle ∨ other ≠ id ∧ s.object other = some held := by
    intro other held there
    rw [map] at there
    by_cases same : other = id
    · rw [same, Function.update_self] at there
      exact .inl ⟨same, idle held there⟩
    · rw [Function.update_of_ne same] at there
      exact .inr ⟨same, there⟩
  refine ⟨fun other held there => ?_, fun other held there => ?_,
    fun first held second held' there there' different => ?_, fun other held there => ?_⟩
  · show other < (s.release object).bound
    rw [bound]
    rcases before there with ⟨rfl, _⟩ | ⟨_, here⟩
    · exact inside
    · exact valid.bounded other held here
  · rcases before there with ⟨_, empty⟩ | ⟨distinct, here⟩
    · exact empty.fits _
    · exact frees.fits valid stored here distinct
        (Heap.parent_ne_of_childless childless here (valid.bounded other held here))
  · rcases before there with ⟨rfl, empty⟩ | ⟨distinct, here⟩
    · exact empty.apart held'
    rcases before there' with ⟨rfl, empty⟩ | ⟨_, here'⟩
    · exact (empty.apart held).symm
    · exact valid.apart first held second held' here here' different
  · have counted : s.refcount other = s.user other + s.adapters other + s.children other := by
      rcases before there with ⟨rfl, _⟩ | ⟨_, here⟩
      · exact valid.counted other object stored
      · exact valid.counted other held here
    have children := Heap.children_update inside map bound other
    have own : s.parentOf id = object.parent := by
      rw [Heap.parentOf, stored]
      rfl
    have orphan : left.bind QuicObject.parent = none := by
      refine Option.bind_eq_none_iff.mpr fun held here => ?_
      exact (idle held here).empty.2.2.2
    simp only [own, orphan, reduceCtorEq, if_false] at children
    show (s.release object).refcount other = (s.release object).user other +
      (s.release object).adapters other + ((s.release object).setObject id left).children other
    rw [Heap.release_refcount, Heap.dropRef_refcount, user, adapters]
    omega

/-! ### The steps -/

/-- The classes a script can instantiate. -/
inductive ObjectKind where
  | listener
  | connection
  | stream
  deriving DecidableEq

/-- `create_object`. -/
def ObjectKind.create : ObjectKind → QuicObject
  | listener => .listener quicListenerCreate
  | connection => .connection quicConnectionCreate
  | stream => .stream quicStreamCreate

theorem ObjectKind.create_idle (kind : ObjectKind) : kind.create.Idle := by
  cases kind <;> exact rfl

/-- The script gets the object a method returned, if it did. -/
def Heap.holdMade (s : Heap) : Option ObjectId → Heap
  | some object => s.setUser object (s.user object + 1)
  | none => s

/-- One event. `this` is the object a method is called on. -/
inductive LifeEvent where
  | create (kind : ObjectKind)
  | listen (this : ObjectId) (host : Bytes) (port : Int) (options : HashTable)
  | connect (this : ObjectId) (fuel : Nat) (host : Bytes) (port : Int) (options : Option HashTable)
  | newStream (this conn : ObjectId) (bidirectional : Bool)
  | accept (this : ObjectId)
  | closeListener (this : ObjectId)
  | openStream (this : ObjectId) (bidirectional : Bool)
  | acceptStream (this : ObjectId)
  | asStream (this : ObjectId)
  /-- A php_stream of the object is closed. -/
  | closeResource (this : ObjectId)
  | getConnection (this : ObjectId)
  | copyReference (object : ObjectId)
  | dropReference (object : ObjectId)
  /-- No reference is left. -/
  | destroy (object : ObjectId)
  /-- The process opens something that is not ours. -/
  | openDescriptor (fd : Fd)

/-- **What the events do.** -/
inductive LifeStep : Heap → LifeEvent → Heap → Prop
  | create {s : Heap} (kind : ObjectKind) : LifeStep s (.create kind) (s.install kind.create)
  | listen {s s₁ : Heap} {this : ObjectId} {obj : PhpQuicListener} {host : Bytes} {port : Int}
      {options : HashTable} {outcome : Outcome PhpQuicListener}
      (stored : s.object this = some (.listener obj)) (held : 0 < s.user this)
      (ran : Run owning (Listener.construct obj host port options) s outcome s₁) :
      LifeStep s (.listen this host port options)
        (s₁.storeMade this ((madeBy outcome).map .listener))
  | connect {s s₁ : Heap} {this : ObjectId} {obj : PhpQuicConnection} {fuel : Nat} {host : Bytes}
      {port : Int} {options : Option HashTable} {outcome : Outcome PhpQuicConnection}
      (stored : s.object this = some (.connection obj)) (held : 0 < s.user this)
      (ran : Run owning (Connection.construct fuel obj host port options) s (some outcome) s₁) :
      LifeStep s (.connect this fuel host port options)
        (s₁.storeMade this ((madeBy outcome).map .connection))
  | newStream {s s₁ : Heap} {this conn : ObjectId} {obj : PhpQuicStream} {bidirectional : Bool}
      {outcome : Outcome PhpQuicStream} (stored : s.object this = some (.stream obj))
      (held : 0 < s.user this) (given : 0 < s.user conn)
      (ran : Run owning (Stream.construct obj conn bidirectional) s outcome s₁) :
      LifeStep s (.newStream this conn bidirectional)
        (s₁.storeMade this ((madeBy outcome).map .stream))
  | accept {s s₁ : Heap} {this : ObjectId} {obj : PhpQuicListener} {made : Option PhpQuicConnection}
      (stored : s.object this = some (.listener obj)) (held : 0 < s.user this)
      (ran : Run owning (Listener.accept obj this) s made s₁) :
      LifeStep s (.accept this) (s₁.installMade (made.map .connection))
  | closeListener {s s₁ : Heap} {this : ObjectId} {obj obj' : PhpQuicListener}
      (stored : s.object this = some (.listener obj)) (held : 0 < s.user this)
      (ran : Run owning (Listener.close obj) s obj' s₁) :
      LifeStep s (.closeListener this) (s₁.setObject this (some (.listener obj')))
  | openStream {s s₁ : Heap} {this : ObjectId} {obj : PhpQuicConnection} {bidirectional : Bool}
      {outcome : Outcome PhpQuicStream} (stored : s.object this = some (.connection obj))
      (held : 0 < s.user this)
      (ran : Run owning (Connection.openStream obj this bidirectional) s outcome s₁) :
      LifeStep s (.openStream this bidirectional) (s₁.installMade ((madeBy outcome).map .stream))
  | acceptStream {s s₁ : Heap} {this : ObjectId} {obj : PhpQuicConnection}
      {made : Option PhpQuicStream} (stored : s.object this = some (.connection obj))
      (held : 0 < s.user this) (ran : Run owning (Connection.acceptStream obj this) s made s₁) :
      LifeStep s (.acceptStream this) (s₁.installMade (made.map .stream))
  | asStream {s s₁ : Heap} {this : ObjectId} {obj : PhpQuicStream} {outcome : Outcome PhpStream}
      (stored : s.object this = some (.stream obj)) (held : 0 < s.user this)
      (ran : Run owning (Stream.asStream obj this) s outcome s₁) : LifeStep s (.asStream this) s₁
  | closeResource {s s₁ : Heap} {this : ObjectId} {object : QuicObject} {rc : Int}
      (stored : s.object this = some object) (opened : 0 < s.adapters this)
      (ran : Run owning (quicStreamOpClose (some this)) s rc s₁) :
      LifeStep s (.closeResource this) (s₁.setAdapters this (s₁.adapters this - 1))
  | getConnection {s s₁ : Heap} {this : ObjectId} {obj : PhpQuicStream}
      {outcome : Outcome ObjectId} (stored : s.object this = some (.stream obj))
      (held : 0 < s.user this) (ran : Run owning (Stream.getConnection obj) s outcome s₁) :
      LifeStep s (.getConnection this) (s₁.holdMade (madeBy outcome))
  | copyReference {s : Heap} {object : ObjectId} (held : 0 < s.user object) :
      LifeStep s (.copyReference object)
        ((s.addref object).setUser object (s.user object + 1))
  | dropReference {s : Heap} {id : ObjectId} {object : QuicObject}
      (stored : s.object id = some object) (held : 0 < s.user id) :
      LifeStep s (.dropReference id) ((s.delref id).setUser id (s.user id - 1))
  | destroy {s s₁ : Heap} {id : ObjectId} {object : QuicObject}
      (stored : s.object id = some object) (unreferenced : s.refcount id = 0)
      (ran : Run owning (freeObject object) s () s₁) :
      LifeStep s (.destroy id) (s₁.setObject id none)
  | openDescriptor {s : Heap} {fd : Fd} (closed : s.table fd = none) :
      LifeStep s (.openDescriptor fd) (s.openFd fd)

/-! ### What the methods supply -/

namespace Heap.Supplies

variable {s s₁ : Heap}

theorem of_spares {made : QuicObject} (spares : s.Spares s₁) (orphan : made.parent = none)
    (fits : s₁.Fits made) (unclaimed : s.Unclaimed made) : s.Supplies made s₁ := by
  refine ⟨spares.extends, spares.object, spares.bound, spares.user, spares.adapters,
    fun id => ?_, fits, unclaimed⟩
  rw [orphan, spares.refcount, if_neg nofun, Nat.add_zero]

theorem created (s : Heap) (kind : ObjectKind) : s.Supplies kind.create s := by
  obtain ⟨ssl, ownFd, ownAlpn, orphan⟩ := kind.create_idle.empty
  refine .of_spares (.refl s) orphan (kind.create_idle.fits s)
    ⟨fun _ same => ?_, fun _ same => ?_, fun _ same => ?_⟩
  · rw [ssl] at same
    cases same
  · rw [ownFd] at same
    cases same
  · rw [ownAlpn] at same
    cases same

/-- An object with a new SSL object that shares another one's engine. -/
theorem join {made : QuicObject} {root ssl : Ssl} {parent : ObjectId} (new : s.engine ssl = none)
    (live : made.ssl = some ssl) (ownFd : made.ownFd = none) (ownAlpn : made.ownAlpn = none)
    (refers : made.parent = some parent) (fits : s.Extends (s.join root ssl parent) →
      (s.join root ssl parent).engine ssl = s.engine root → (s.join root ssl parent).Fits made) :
    s.Supplies made (s.join root ssl parent) := by
  have spares := ((Heap.Spares.refl s).setEngine new (s.engine root)).extends
  have kept : s.Extends (s.join root ssl parent) := { spares with }
  refine ⟨kept, rfl, rfl, rfl, rfl, fun id => ?_, fits kept (Function.update_self ssl _ _),
    ⟨fun _ same => ?_, fun _ same => ?_, fun _ same => ?_⟩⟩
  · show Function.update s.refcount parent (s.refcount parent + 1) id = _
    rw [refers]
    by_cases same : id = parent
    · rw [same, Function.update_self, if_pos rfl]
    · rw [Function.update_of_ne same, if_neg fun here => same (Option.some.inj here).symm,
        Nat.add_zero]
  · rw [live] at same
    obtain rfl := Option.some.inj same
    exact new
  · rw [ownFd] at same
    cases same
  · rw [ownAlpn] at same
    cases same

end Heap.Supplies

/-- `accept()` supplies the connection it returns. -/
theorem Heap.Valid.accepts {s s₁ : Heap} (valid : s.Valid) {this : ObjectId}
    {obj : PhpQuicListener} {made : Option PhpQuicConnection}
    (stored : s.object this = some (.listener obj))
    (ran : Run owning (Listener.accept obj this) s made s₁) :
    made = none ∧ s₁ = s ∨ ∃ conn, made = some conn ∧ s.Supplies (.connection conn) s₁ := by
  rcases accept_joins obj this s made s₁ ran with nothing | ⟨root, ssl, live, new, rfl, same⟩
  · exact .inl nothing
  · refine .inr ⟨_, same, .join new rfl rfl rfl rfl fun kept shared => ?_⟩
    rcases valid.fits this _ stored with rfl | ⟨fd, socket, ctx, listening⟩
    · cases live
    · have there := kept.object this _ root stored live
      have above := kept.listening listening
      obtain ⟨_, _, rfl, engine, _⟩ := listening
      obtain rfl := Option.some.inj live
      exact .inr (.inr ⟨rfl, this, _, fd, socket, ctx, rfl, there, above, ssl, rfl, rfl,
        shared.trans engine⟩)

theorem Heap.connection_of_ssl {s : Heap} {id : ObjectId} {ssl : Ssl}
    (live : s.connectionSsl id = some ssl) :
    ∃ conn, s.object id = some (.connection conn) ∧ conn.ssl = some ssl := by
  unfold Heap.connectionSsl at live
  split at live
  · exact ⟨_, ‹_›, live⟩
  · cases live

/-- So does every method that makes a stream. -/
theorem Heap.Valid.carries {s s₁ : Heap} (valid : s.Valid) {parent : ObjectId}
    {made : Option PhpQuicStream}
    (joined : s.JoinsStream (s.connectionSsl parent) parent made s₁) :
    made = none ∧ s₁ = s ∨ ∃ stream, made = some stream ∧ s.Supplies (.stream stream) s₁ := by
  rcases joined with nothing | ⟨root, ssl, live, new, rfl, same⟩
  · exact .inl nothing
  · refine .inr ⟨_, same, .join new rfl rfl rfl rfl fun kept shared => ?_⟩
    obtain ⟨conn, stored, rooted⟩ := Heap.connection_of_ssl live
    obtain ⟨fd, socket, ctx, linked, _⟩ := (valid.fits parent _ stored).usable rooted
    have engine := linked.engine_eq rooted
    exact .inr ⟨ssl, parent, conn, root, _, rfl, kept.object parent _ root stored rooted, rooted,
      kept.engine root _ engine, shared.trans engine⟩

/-- The methods of a connection. -/
theorem Heap.Valid.carriesMade {s s₁ : Heap} (valid : s.Valid) {this : ObjectId}
    {obj : PhpQuicConnection} {made : Option PhpQuicStream}
    (stored : s.object this = some (.connection obj)) (joined : s.JoinsStream obj.ssl this made s₁) :
    made.map QuicObject.stream = none ∧ s₁ = s ∨
      ∃ object, made.map QuicObject.stream = some object ∧ s.Supplies object s₁ := by
  have here : s.connectionSsl this = obj.ssl := by
    unfold Heap.connectionSsl
    rw [stored]
  rcases valid.carries (here ▸ joined) with ⟨rfl, same⟩ | ⟨stream, rfl, supplies⟩
  · exact .inl ⟨rfl, same⟩
  · exact .inr ⟨_, rfl, supplies⟩

/-! ### Constructors only return on idle objects -/

/-- A constructor that throws does not return. -/
theorem not_returned {α : Type} {thrown : Quic Thrown} {s : Heap} :
    Always owning (throwing thrown : Quic (Outcome α)) (fun outcome _ => madeBy outcome = none) s :=
  .bind (fun _ _ _ => trivial) fun _ _ _ => .pure rfl

theorem listen_idle {obj : PhpQuicListener} {host : Bytes} {port : Int} {options : HashTable}
    {made : PhpQuicListener} {s s₁ : Heap}
    (ran : Run owning (Listener.construct obj host port options) s (.ok made) s₁) :
    obj.ssl = none := by
  by_contra used
  have isSome : obj.ssl.isSome = true := Option.isSome_iff_ne_none.mpr used
  have refused : Always owning (Listener.construct obj host port options)
      (fun outcome _ => madeBy outcome = none) s :=
    .ite (fun _ => not_returned) fun _ => .ite (fun _ => not_returned) fun _ =>
      .ite (fun _ => not_returned) fun idle => absurd isSome idle
  cases refused _ _ ran

theorem newStream_idle {obj : PhpQuicStream} {conn : ObjectId} {bidirectional : Bool}
    {made : PhpQuicStream} {s s₁ : Heap}
    (ran : Run owning (Stream.construct obj conn bidirectional) s (.ok made) s₁) :
    obj.ssl = none := by
  by_contra used
  have isSome : obj.ssl.isSome = true := Option.isSome_iff_ne_none.mpr used
  have refused : Always owning (Stream.construct obj conn bidirectional)
      (fun outcome _ => madeBy outcome = none) s :=
    .ite (fun _ => not_returned) fun idle => absurd isSome idle
  cases refused _ _ ran

theorem connect_idle {fuel : Nat} {obj : PhpQuicConnection} {host : Bytes} {port : Int}
    {options : Option HashTable} {made : PhpQuicConnection} {s s₁ : Heap}
    (ran : Run owning (Connection.construct fuel obj host port options) s (some (.ok made)) s₁) :
    obj.ssl = none := by
  by_contra used
  have isSome : obj.ssl.isSome = true := Option.isSome_iff_ne_none.mpr used
  have thrown (raised : Quic Thrown) : Always owning
      (do return some (.error (← raised)) : Quic (Option (Outcome PhpQuicConnection)))
      (fun result _ => result.bind madeBy = none) s :=
    .bind (fun _ _ _ => trivial) fun _ _ _ => .pure rfl
  have refused : Always owning (Connection.construct fuel obj host port options)
      (fun result _ => result.bind madeBy = none) s :=
    .ite (fun _ => thrown _) fun _ => .ite (fun _ => thrown _) fun _ =>
      .ite (fun _ => thrown _) fun idle => absurd isSome idle
  cases refused _ _ ran

/-! ### Counting -/

theorem Heap.addref_delref (s : Heap) (id : ObjectId) : (s.addref id).delref id = s := by
  unfold Heap.delref Heap.addref
  dsimp only
  rw [Function.update_self, Function.update_idem, Nat.add_sub_cancel, Function.update_eq_self]

/-- `asStream()`: the new php_stream comes with a reference on the object, and a failure gives it
back. -/
theorem asStream_counts (obj : PhpQuicStream) (this : ObjectId) (s : Heap) :
    Always owning (Stream.asStream obj this)
      (fun _ s' => s' = s ∨ s' = (s.addref this).setAdapters this (s.adapters this + 1)) s := by
  unfold Stream.asStream
  split
  · exact skipInert (phpQuicThrow_calls _ _) fun _ => .pure (.inl rfl)
  · refine always_call_bind.mpr fun _ s₁ counted => ?_
    obtain rfl : s₁ = _ := counted
    refine always_call_bind.mpr fun made s₂ replied => ?_
    cases made with
    | none =>
        obtain rfl : s₂ = _ := replied
        refine always_call_bind.mpr fun _ s₃ counted => ?_
        obtain rfl : s₃ = _ := counted
        rw [Heap.addref_delref]
        exact skipInert (phpQuicThrow_calls _ _) fun _ => .pure (.inl rfl)
    | some stream =>
        obtain rfl : s₂ = _ := replied
        exact .pure (.inr rfl)

theorem opClose_counts (this : ObjectId) (s : Heap) :
    Always owning (quicStreamOpClose (some this)) (fun _ s' => s' = s.delref this) s :=
  .bind (releaseObject_drops (some this) s) fun _ _ dropped => .pure dropped

theorem getConnection_counts (obj : PhpQuicStream) (s : Heap) :
    Always owning (Stream.getConnection obj)
      (fun outcome s' => madeBy outcome = none ∧ s' = s ∨
        ∃ conn, madeBy outcome = some conn ∧ s' = s.addref conn) s := by
  unfold Stream.getConnection
  split
  · exact skipInert (phpQuicThrow_calls _ _) fun _ => .pure (.inl ⟨rfl, rfl⟩)
  · refine always_call_bind.mpr fun _ s₁ counted => ?_
    obtain rfl : s₁ = _ := counted
    exact .pure (.inr ⟨_, rfl, rfl⟩)

/-- The count of one object and the references on it change by the same amount. -/
theorem Heap.Valid.recount {s : Heap} (valid : s.Valid) (id : ObjectId)
    {refcount user adapters : Nat}
    (balanced : s.refcount id = s.user id + s.adapters id + s.children id →
      refcount = user + adapters + s.children id) :
    ({ s with
      refcount := Function.update s.refcount id refcount
      user := Function.update s.user id user
      adapters := Function.update s.adapters id adapters } : Heap).Valid := by
  refine valid.of_same { Heap.Extends.refl s with } rfl rfl fun other counted => ?_
  dsimp only
  by_cases same : other = id
  · subst same
    rw [Function.update_self, Function.update_self, Function.update_self]
    exact balanced counted
  · rw [Function.update_of_ne same, Function.update_of_ne same, Function.update_of_ne same]
    exact counted

/-- The script's references. -/
theorem Heap.Valid.recount_user {s : Heap} (valid : s.Valid) (id : ObjectId) {refcount user : Nat}
    (balanced : s.refcount id = s.user id + s.adapters id + s.children id →
      refcount = user + s.adapters id + s.children id) :
    ({ s with
      refcount := Function.update s.refcount id refcount
      user := Function.update s.user id user } : Heap).Valid := by
  have recounted := valid.recount id balanced
  rwa [Function.update_eq_self] at recounted

/-- The references of the php_streams. -/
theorem Heap.Valid.recount_adapters {s : Heap} (valid : s.Valid) (id : ObjectId)
    {refcount adapters : Nat}
    (balanced : s.refcount id = s.user id + s.adapters id + s.children id →
      refcount = s.user id + adapters + s.children id) :
    ({ s with
      refcount := Function.update s.refcount id refcount
      adapters := Function.update s.adapters id adapters } : Heap).Valid := by
  have recounted := valid.recount id balanced
  rwa [Function.update_eq_self] at recounted

theorem Heap.Valid.storeMade {s s₁ : Heap} (valid : s.Valid) {id : ObjectId} {old : QuicObject}
    (stored : s.object id = some old) {made : Option QuicObject}
    (supplied : made = none ∧ s₁.Valid ∨
      ∃ object, made = some object ∧ old.ssl = none ∧ s.Supplies object s₁) :
    (s₁.storeMade id made).Valid := by
  rcases supplied with ⟨rfl, after⟩ | ⟨object, rfl, unused, supplies⟩
  · exact after
  · exact valid.store supplies stored unused

theorem Heap.Valid.installMade {s s₁ : Heap} (valid : s.Valid) {made : Option QuicObject}
    (supplied : made = none ∧ s₁ = s ∨ ∃ object, made = some object ∧ s.Supplies object s₁) :
    (s₁.installMade made).Valid := by
  rcases supplied with ⟨rfl, rfl⟩ | ⟨object, rfl, supplies⟩
  · exact valid
  · exact valid.install supplies

/-! ### Closing a listener that has accepted connections -/

/-- The listener is closed with nothing accepted from it stored any more. -/
def LifeEvent.Safe (s : Heap) : LifeEvent → Prop
  | .closeListener this => s.children this = 0
  | _ => True

theorem Heap.exists_child {s : Heap} {parent : ObjectId} (some_child : s.children parent ≠ 0) :
    ∃ id held, s.object id = some held ∧ held.parent = some parent := by
  obtain ⟨id, member⟩ := Finset.card_ne_zero.mp some_child
  have refers := (Finset.mem_filter.mp member).2
  unfold Heap.parentOf at refers
  obtain ⟨held, stored, here⟩ := Option.bind_eq_some_iff.mp refers
  exact ⟨id, held, stored, here⟩

/-- What refers to a listener was accepted from it. -/
theorem Heap.Fits.of_listener {s : Heap} {held : QuicObject} (fits : s.Fits held)
    {this : ObjectId} {obj : PhpQuicListener} (stored : s.object this = some (.listener obj))
    (refers : held.parent = some this) :
    ∃ conn fd socket ctx, held = .connection conn ∧ s.Listening obj fd socket ctx ∧
      s.Linked conn fd socket ctx := by
  cases held with
  | foreign => cases refers
  | listener => cases refers
  | stream conn =>
      rcases fits with rfl | ⟨_, above, _, _, _, rfl, connected, _⟩
      · cases refers
      · obtain rfl := Option.some.inj refers
        rw [stored] at connected
        cases connected
  | connection conn =>
      rcases fits with rfl | ⟨orphan, _⟩ |
        ⟨_, above, listener, fd, socket, ctx, here, connected, listening, linked⟩
      · cases refers
      · exact absurd (orphan.symm.trans refers) nofun
      · obtain rfl : this = above := Option.some.inj (refers.symm.trans here)
        rw [stored] at connected
        obtain rfl : obj = listener := QuicObject.listener.inj (Option.some.inj connected)
        exact ⟨conn, fd, socket, ctx, rfl, listening, linked⟩

theorem Heap.Listening.ownFd {s : Heap} {obj : PhpQuicListener} {fd : Fd} {socket : Nat}
    {ctx : SslCtx} (listening : s.Listening obj fd socket ctx) :
    (QuicObject.listener obj).ownFd = some fd := by
  obtain ⟨_, _, rfl, _⟩ := listening
  rfl

/-- **An accepted connection is left with a closed descriptor.** -/
theorem Heap.Valid.close_unsound {s : Heap} (valid : s.Valid) {this : ObjectId}
    {obj : PhpQuicListener} (stored : s.object this = some (.listener obj))
    (accepted : s.children this ≠ 0) (left : Option QuicObject) :
    ¬ ((s.release (.listener obj)).setObject this left).Sound := by
  intro sound
  obtain ⟨id, held, there, refers⟩ := Heap.exists_child accepted
  obtain ⟨conn, fd, socket, ctx, rfl, listening, linked⟩ :=
    (valid.fits id held there).of_listener stored refers
  have different : id ≠ this := by
    rintro rfl
    rw [stored] at there
    cases there
  have frees := Heap.Frees.of_release s this (.listener obj) left
  have kept := frees.linked (valid.apart this _ id _ stored there different.symm) linked
  obtain ⟨root, live, _, own⟩ := kept
  have still := (frees.object id different).trans there
  obtain ⟨fd', socket', ctx', engine, _, opened, _⟩ := sound id _ root still live
  have same := own.symm.trans engine
  simp only [Option.some.injEq, Engine.mk.injEq, Prod.mk.injEq] at same
  obtain ⟨⟨rfl, rfl⟩, rfl⟩ := same
  have closed : (s.release (.listener obj)).table fd = none := s.release_closes listening.ownFd
  have impossible := closed.symm.trans opened
  cases impossible

/-! ### The law -/

/-- **One safe step.** -/
theorem LifeStep.valid {s s' : Heap} {event : LifeEvent} (step : LifeStep s event s')
    (valid : s.Valid) (safe : event.Safe s) : s'.Valid := by
  cases step with
  | create kind => exact valid.install (.created s kind)
  | @listen s₁ this obj host port options outcome stored held ran =>
      obtain ⟨spares, returned⟩ := construct_listens obj host port options s outcome s₁ ran
      refine valid.storeMade stored ?_
      cases outcome with
      | error thrown => exact .inl ⟨rfl, valid.spares spares⟩
      | ok made =>
          obtain ⟨listening, unclaimed⟩ := returned made rfl
          exact .inr ⟨_, rfl, listen_idle ran, .of_spares spares rfl (.inr listening) unclaimed⟩
  | @connect s₁ this obj fuel host port options outcome stored held ran =>
      obtain ⟨spares, returned⟩ := construct_connects fuel obj host port options s _ s₁ ran
      refine valid.storeMade stored ?_
      cases outcome with
      | error thrown => exact .inl ⟨rfl, valid.spares spares⟩
      | ok made =>
          obtain ⟨same, dialled, unclaimed⟩ := returned made rfl
          have unused := connect_idle ran
          have orphan : made.listener = none :=
            same.trans ((valid.fits this _ stored).idle unused).empty.2.2.2
          exact .inr ⟨_, rfl, unused,
            .of_spares spares orphan (.inr (.inl ⟨orphan, dialled⟩)) unclaimed⟩
  | @newStream s₁ this conn obj bidirectional outcome stored held given ran =>
      have joined := construct_joins obj conn bidirectional s outcome s₁ ran
      refine valid.storeMade stored ?_
      cases outcome with
      | error thrown =>
          rcases valid.carries joined with ⟨_, rfl⟩ | ⟨_, same, _⟩
          · exact .inl ⟨rfl, valid⟩
          · cases same
      | ok made =>
          rcases valid.carries joined with ⟨same, _⟩ | ⟨stream, same, supplies⟩
          · cases same
          · obtain rfl : made = stream := Option.some.inj same
            exact .inr ⟨_, rfl, newStream_idle ran, supplies⟩
  | @accept s₁ this obj made stored held ran =>
      refine valid.installMade ?_
      rcases valid.accepts stored ran with ⟨rfl, same⟩ | ⟨conn, rfl, supplies⟩
      · exact .inl ⟨rfl, same⟩
      · exact .inr ⟨_, rfl, supplies⟩
  | @closeListener s₁ this obj obj' stored held ran =>
      obtain ⟨rfl, rfl⟩ := listenerRelease_releases obj s obj' s₁ ran
      refine valid.free stored safe fun held same => ?_
      obtain rfl := Option.some.inj same
      exact rfl
  | @openStream s₁ this obj bidirectional outcome stored held ran =>
      have joined := openStream_joins obj this bidirectional s outcome s₁ ran
      exact valid.installMade (valid.carriesMade stored joined)
  | @acceptStream s₁ this obj made stored held ran =>
      have joined := acceptStream_joins obj this s made s₁ ran
      exact valid.installMade (valid.carriesMade stored joined)
  | @asStream _ this obj outcome stored held ran =>
      rcases asStream_counts obj this s outcome s' ran with rfl | rfl
      · exact valid
      · exact valid.recount_adapters this fun counted => by omega
  | @closeResource s₁ this object rc stored opened ran =>
      obtain rfl : s₁ = s.delref this := opClose_counts this s rc s₁ ran
      have adapters : (s.delref this).adapters = s.adapters := rfl
      refine valid.recount_adapters this fun counted => ?_
      rw [adapters]
      omega
  | @getConnection s₁ this obj outcome stored held ran =>
      rcases getConnection_counts obj s outcome s₁ ran with ⟨same, rfl⟩ | ⟨conn, same, rfl⟩
      · rw [same]
        exact valid
      · rw [same]
        have user : (s.addref conn).user = s.user := rfl
        refine valid.recount_user conn fun counted => ?_
        rw [user]
        omega
  | copyReference held => exact valid.recount_user _ fun counted => by omega
  | dropReference stored held => exact valid.recount_user _ fun counted => by omega
  | @destroy s₁ id object stored unreferenced ran =>
      obtain rfl := freeObject_releases object s () s₁ ran
      have counted := valid.counted id object stored
      exact valid.free stored (by omega) nofun
  | openDescriptor closed => exact valid.spares ((Heap.Spares.refl s).openFd closed)

/-- From a valid state, one step leads to a sound one exactly if it is safe. -/
theorem LifeStep.sound_iff {s s' : Heap} {event : LifeEvent} (step : LifeStep s event s')
    (valid : s.Valid) : s'.Sound ↔ event.Safe s := by
  refine ⟨fun sound => ?_, fun safe => (step.valid valid safe).sound⟩
  by_contra unsafe_close
  cases step with
  | @closeListener s₁ this obj obj' stored held ran =>
      obtain ⟨rfl, rfl⟩ := listenerRelease_releases obj s obj' s₁ ran
      exact valid.close_unsound stored unsafe_close _ sound
  | _ => exact unsafe_close trivial

/-- A step that is safe where it is taken. -/
def SafeLifeStep (s : Heap) (event : LifeEvent) (s' : Heap) : Prop :=
  LifeStep s event s' ∧ event.Safe s

theorem Heap.Valid.of_empty {s : Heap} (empty : ∀ id, s.object id = none) : s.Valid := by
  have nothing {id : ObjectId} {object : QuicObject} (stored : s.object id = some object) : False := by
    rw [empty] at stored
    cases stored
  exact ⟨fun _ _ stored => (nothing stored).elim, fun _ _ stored => (nothing stored).elim,
    fun _ _ _ _ stored => (nothing stored).elim, fun _ _ stored => (nothing stored).elim⟩

/-- **In a run that closes only listeners without accepted connections nothing released stays in
use; closing a listener that has one leads to a state in which something does.** -/
theorem lifecycle_iff {start s : Heap} {events : List LifeEvent}
    (empty : ∀ id, start.object id = none) (path : Path SafeLifeStep start events s) :
    s.Sound ∧ ∀ event s', LifeStep s event s' → (s'.Sound ↔ event.Safe s) := by
  have valid : s.Valid :=
    path.invariant (fun _ _ _ before step => step.1.valid before step.2) (.of_empty empty)
  exact ⟨valid.sound, fun event s' step => step.sound_iff valid⟩

/-! ### A listener closed before its connection, and one closed without any -/

/-- An environment that does as `owning` says while the handles it gives out are not in use. -/
def owningHandler : Handler openssl Heap := fun s call =>
  match call with
  | .bioSocket _ => (some 3, s.openFd 3)
  | .bioClosesocket fd => ((), s.closeFd fd)
  | .bioNewDgram fd => (some 1, s.makeBio 1 fd)
  | .sslSetBio ssl bio => ((), s.setBio ssl bio)
  | .sslCtxNew _ => (some 1, s.setAlpnArg 1 none)
  | .sslCtxSetAlpnSelectCb ctx data => ((), s.setAlpnArg ctx (some data.id))
  | .emalloc => ((1 : Nat), s.setAllocated 1 true)
  | .efree id => ((), s.setAllocated id false)
  | .sslNewListener ctx => (some 1, s.setEngine 1 (some ⟨none, ctx⟩))
  | .sslAcceptConnection listener => (some 2, s.setEngine 2 (s.engine listener))
  | .sslFree ssl => ((), s.setEngine ssl none)
  | .gcAddref object => ((), s.addref object)
  | call => (succeeding call, s)

/-- Nothing is open, and no object has been made. -/
def emptyHeap : Heap where
  table := fun _ => none
  nextSocket := 0
  bios := fun _ => none
  engine := fun _ => none
  alpnArg := fun _ => none
  allocated := fun _ => false
  object := fun _ => none
  bound := 0
  refcount := fun _ => 0
  user := fun _ => 0
  adapters := fun _ => 0

def serverOptions : HashTable :=
  [(.name (text "alpn"), .string (text "h3")),
    (.name (text "local_cert"), .string (text "cert.pem"))]

/-- `new Quic\Listener('', 4433, $options)`: the object, and its constructor. -/
def createdHeap : Heap := emptyHeap.install (ObjectKind.create .listener)

def listenResult : Outcome PhpQuicListener × Heap :=
  exec owningHandler (Listener.construct quicListenerCreate [] 4433 serverOptions) createdHeap

def listeningHeap : Heap :=
  listenResult.2.setObject 0 ((madeBy listenResult.1).map .listener)

/-- The listener that was made. -/
def boundListener : PhpQuicListener :=
  ⟨some 1, some 1, some 3, some ⟨1, ⟨1, (2 : UInt8) :: text "h3"⟩⟩⟩

theorem listenResult_follows : Follows owning owningHandler
    (Listener.construct quicListenerCreate [] 4433 serverOptions) createdHeap :=
  -- The socket, the context and its configuration, the callback data, the listener SSL.
  ⟨rfl, rfl, ⟨rfl, rfl⟩, rfl, rfl, rfl, ⟨nofun, rfl⟩, rfl, rfl, rfl, rfl, ⟨rfl, rfl⟩, rfl,
    ⟨rfl, rfl⟩, rfl, rfl, rfl, trivial⟩

theorem listeningHeap_step :
    LifeStep createdHeap (.listen 0 [] 4433 serverOptions) listeningHeap :=
  .listen rfl (by decide) listenResult_follows.run

/-- `$listener->close()`, wherever the listener is stored. -/
def closedHeap (s : Heap) : Heap :=
  (exec owningHandler (Listener.close boundListener) s).2.setObject 0
    (some (.listener (exec owningHandler (Listener.close boundListener) s).1))

theorem closedHeap_step {s : Heap} (stored : s.object 0 = some (.listener boundListener))
    (held : 0 < s.user 0) : LifeStep s (.closeListener 0) (closedHeap s) := by
  have follows : Follows owning owningHandler (Listener.close boundListener) s :=
    ⟨rfl, rfl, rfl, rfl, rfl, trivial⟩
  exact .closeListener stored held follows.run

/-- A listener that never accepted anything can be closed. -/
theorem lifecycle_example : (closedHeap listeningHeap).Sound := by
  have created : SafeLifeStep emptyHeap (.create .listener) createdHeap :=
    ⟨.create .listener, trivial⟩
  have listens : SafeLifeStep createdHeap (.listen 0 [] 4433 serverOptions) listeningHeap :=
    ⟨listeningHeap_step, trivial⟩
  have path : Path SafeLifeStep emptyHeap _ listeningHeap := .cons created (.single listens)
  exact ((lifecycle_iff (fun _ => rfl) path).2 _ _ (closedHeap_step rfl (by decide))).mpr
    (by decide : listeningHeap.children 0 = 0)

/-- `$connection = $listener->accept()`. -/
def acceptedHeap : Heap :=
  (exec owningHandler (Listener.accept boundListener 0) listeningHeap).2.installMade
    ((exec owningHandler (Listener.accept boundListener 0) listeningHeap).1.map .connection)

theorem acceptedHeap_step : LifeStep listeningHeap (.accept 0) acceptedHeap := by
  have follows : Follows owning owningHandler (Listener.accept boundListener 0) listeningHeap :=
    ⟨⟨rfl, rfl⟩, rfl, rfl, rfl, trivial⟩
  exact .accept rfl (by decide) follows.run

/-- The listener is closed then, and the process opens something else. -/
def reusedHeap : Heap := (closedHeap acceptedHeap).openFd 3

theorem reusedHeap_path : ∃ events, Path LifeStep emptyHeap events reusedHeap := by
  have closes : LifeStep acceptedHeap (.closeListener 0) (closedHeap acceptedHeap) :=
    closedHeap_step rfl (by decide)
  have opens : LifeStep (closedHeap acceptedHeap) (.openDescriptor 3) reusedHeap :=
    .openDescriptor (by decide)
  exact ⟨_, .cons (.create _) (.cons listeningHeap_step (.cons acceptedHeap_step
    (.cons closes (.single opens))))⟩

/-- The connection that was accepted. -/
def borrowingConnection : PhpQuicConnection := ⟨some 2, some 3, false, false, some 0⟩

/-- **The connection accepted from a listener that was closed: its descriptor is open again, for
something else, and the ALPN callback data on its context is freed.** -/
theorem closed_listener_dangles : (∃ events, Path LifeStep emptyHeap events reusedHeap) ∧
    (∀ id, emptyHeap.object id = none) ∧
    reusedHeap.object 1 = some (.connection borrowingConnection) ∧
    reusedHeap.engine 2 = some ⟨some (3, 0), 1⟩ ∧ reusedHeap.table 3 = some 1 ∧
    reusedHeap.alpnArg 1 = some 1 ∧ reusedHeap.allocated 1 = false ∧ ¬ reusedHeap.Sound := by
  refine ⟨reusedHeap_path, fun _ => rfl, rfl, rfl, rfl, rfl, rfl, fun sound => ?_⟩
  obtain ⟨fd, socket, ctx, engine, _, opened, _⟩ := sound 1 _ 2 rfl rfl
  obtain ⟨⟨rfl, rfl⟩, rfl⟩ : (3 = fd ∧ 0 = socket) ∧ 1 = ctx := by
    have same : some (Engine.mk (some (3, 0)) 1) = some ⟨some (fd, socket), ctx⟩ := engine
    simpa using same
  have reused : some 1 = some 0 := opened
  cases reused

end PhpQuic
