/-
**The calls of the events in the life of an object.**

* `LifeEvent.program`: the program an event runs. `lifeStep_iff`: a step is a run of it.
* `TracedStep`: a step with its calls. `Path.traced`: every run that closes no listener is one of
  such steps.
* `program_careful`: every call an event makes is careful, unless a listener is closed.
* `program_keeps`: what the store does afterwards makes and releases nothing.
-/

import PhpQuic.Proof.Releases

namespace PhpQuic

open Interact

/-! ### The calls of an event -/

namespace Heap

def listenerAt (s : Heap) (id : ObjectId) : Option PhpQuicListener :=
  match s.object id with
  | some (.listener obj) => some obj
  | _ => none

def connectionAt (s : Heap) (id : ObjectId) : Option PhpQuicConnection :=
  match s.object id with
  | some (.connection obj) => some obj
  | _ => none

def streamAt (s : Heap) (id : ObjectId) : Option PhpQuicStream :=
  match s.object id with
  | some (.stream obj) => some obj
  | _ => none

theorem listenerAt_eq_some {s : Heap} {id : ObjectId} {obj : PhpQuicListener} :
    s.listenerAt id = some obj ↔ s.object id = some (.listener obj) := by
  unfold listenerAt
  split <;> simp_all

theorem connectionAt_eq_some {s : Heap} {id : ObjectId} {obj : PhpQuicConnection} :
    s.connectionAt id = some obj ↔ s.object id = some (.connection obj) := by
  unfold connectionAt
  split <;> simp_all

theorem streamAt_eq_some {s : Heap} {id : ObjectId} {obj : PhpQuicStream} :
    s.streamAt id = some obj ↔ s.object id = some (.stream obj) := by
  unfold streamAt
  split <;> simp_all

end Heap

/-- What becomes of the store when an event has run. -/
abbrev StoreUpdate := Heap → Heap

/-- A method is called on an object, if there is one of its class. -/
def calling {α : Type} (found : Option α) (method : α → Quic (Option StoreUpdate)) :
    Quic (Option StoreUpdate) :=
  match found with
  | some obj => method obj
  | none => return none

/-- What the script has to hold for an event, or what else allows it. -/
def LifeEvent.Enabled (s : Heap) : LifeEvent → Prop
  | .create _ => True
  | .newStream this conn _ => 0 < s.user this ∧ 0 < s.user conn
  | .closeResource this => 0 < s.adapters this
  | .dropReference id => s.object id ≠ none ∧ 0 < s.user id
  | .destroy id => s.refcount id = 0
  | .openDescriptor fd => s.table fd = none
  | .listen this .. | .connect this .. | .accept this | .closeListener this | .openStream this _
  | .acceptStream this | .asStream this | .getConnection this | .copyReference this =>
    0 < s.user this

/-- The program an event runs. A constructor that does not end updates nothing. -/
def LifeEvent.program (s : Heap) : LifeEvent → Quic (Option StoreUpdate)
  | .create kind => return some fun s₁ => s₁.install kind.create
  | .listen this host port options => calling (s.listenerAt this) fun obj => do
    let outcome ← Listener.construct obj host port options
    return some fun s₁ => s₁.storeMade this ((madeBy outcome).map .listener)
  | .connect this fuel host port options => calling (s.connectionAt this) fun obj => do
    let result ← Connection.construct fuel obj host port options
    return result.map fun outcome s₁ => s₁.storeMade this ((madeBy outcome).map .connection)
  | .newStream this conn bidirectional => calling (s.streamAt this) fun obj => do
    let outcome ← Stream.construct obj conn bidirectional
    return some fun s₁ => s₁.storeMade this ((madeBy outcome).map .stream)
  | .accept this => calling (s.listenerAt this) fun obj => do
    let made ← Listener.accept obj this
    return some fun s₁ => s₁.installMade (made.map .connection)
  | .closeListener this => calling (s.listenerAt this) fun obj => do
    let obj' ← Listener.close obj
    return some fun s₁ => s₁.setObject this (some (.listener obj'))
  | .openStream this bidirectional => calling (s.connectionAt this) fun obj => do
    let outcome ← Connection.openStream obj this bidirectional
    return some fun s₁ => s₁.installMade ((madeBy outcome).map .stream)
  | .acceptStream this => calling (s.connectionAt this) fun obj => do
    let made ← Connection.acceptStream obj this
    return some fun s₁ => s₁.installMade (made.map .stream)
  | .asStream this => calling (s.streamAt this) fun obj => do
    let _ ← Stream.asStream obj this
    return some id
  | .closeResource this => calling (s.object this) fun _ => do
    let _ ← quicStreamOpClose (some this)
    return some fun s₁ => s₁.setAdapters this (s₁.adapters this - 1)
  | .getConnection this => calling (s.streamAt this) fun obj => do
    let outcome ← Stream.getConnection obj
    return some fun s₁ => s₁.holdMade (madeBy outcome)
  | .copyReference object =>
    return some fun s₁ => (s₁.addref object).setUser object (s₁.user object + 1)
  | .dropReference id => return some fun s₁ => (s₁.delref id).setUser id (s₁.user id - 1)
  | .destroy id => calling (s.object id) fun object => do
    freeObject object
    return some fun s₁ => s₁.setObject id none
  | .openDescriptor fd => return some fun s₁ => s₁.openFd fd

theorem run_calling_iff {α : Type} {found : Option α} {method : α → Quic (Option StoreUpdate)}
    {s s' : Heap} {update : StoreUpdate} :
    Run owning (calling found method) s (some update) s' ↔
      ∃ obj, found = some obj ∧ Run owning (method obj) s (some update) s' := by
  cases found with
  | none =>
      refine ⟨fun run => ?_, fun ⟨_, same, _⟩ => nomatch same⟩
      cases (run_done_iff.mp run).1
  | some obj =>
      refine ⟨fun run => ⟨obj, rfl, run⟩, ?_⟩
      rintro ⟨other, same, run⟩
      exact Option.some.inj same ▸ run

theorem run_return_iff {α β : Type} {p : Quic α} {f : α → β} {s s' : Heap} {result : β} :
    Run owning (do return f (← p)) s result s' ↔
      ∃ value, Run owning p s value s' ∧ f value = result := by
  rw [run_bind_iff]
  constructor
  · rintro ⟨value, s₁, run, rest⟩
    obtain ⟨rfl, rfl⟩ := run_done_iff.mp rest
    exact ⟨value, run, rfl⟩
  · rintro ⟨value, run, rfl⟩
    exact ⟨value, s', run, .done _ _⟩

/-- A method ran and returned. -/
theorem run_method_iff {α β : Type} {found : Option α} {p : α → Quic β}
    {f : α → β → Option StoreUpdate} {s s₁ : Heap} {update : StoreUpdate} :
    Run owning (calling found fun obj => do return f obj (← p obj)) s (some update) s₁ ↔
      ∃ obj value, found = some obj ∧ Run owning (p obj) s value s₁ ∧
        f obj value = some update := by
  rw [run_calling_iff]
  simp only [run_return_iff]
  constructor
  · rintro ⟨obj, same, value, run, made⟩
    exact ⟨obj, value, same, run, made⟩
  · rintro ⟨obj, value, same, run, made⟩
    exact ⟨obj, same, value, run, made⟩

/-- **A step is a run of the event's program.** -/
theorem lifeStep_iff {s s' : Heap} {event : LifeEvent} :
    LifeStep s event s' ↔ event.Enabled s ∧
      ∃ update s₁, Run owning (event.program s) s (some update) s₁ ∧ s' = update s₁ := by
  constructor
  · intro step
    cases step with
    | create kind => exact ⟨trivial, _, _, .done _ _, rfl⟩
    | listen stored held ran | accept stored held ran | closeListener stored held ran =>
        have found := Heap.listenerAt_eq_some.mpr stored
        exact ⟨held, _, _, run_method_iff.mpr ⟨_, _, found, ran, rfl⟩, rfl⟩
    | connect stored held ran | openStream stored held ran | acceptStream stored held ran =>
        have found := Heap.connectionAt_eq_some.mpr stored
        exact ⟨held, _, _, run_method_iff.mpr ⟨_, _, found, ran, rfl⟩, rfl⟩
    | asStream stored held ran | getConnection stored held ran =>
        have found := Heap.streamAt_eq_some.mpr stored
        exact ⟨held, _, _, run_method_iff.mpr ⟨_, _, found, ran, rfl⟩, rfl⟩
    | newStream stored held given ran =>
        have found := Heap.streamAt_eq_some.mpr stored
        exact ⟨⟨held, given⟩, _, _, run_method_iff.mpr ⟨_, _, found, ran, rfl⟩, rfl⟩
    | closeResource stored held ran | destroy stored held ran =>
        exact ⟨held, _, _, run_method_iff.mpr ⟨_, _, stored, ran, rfl⟩, rfl⟩
    | copyReference held => exact ⟨held, _, _, .done _ _, rfl⟩
    | dropReference stored held =>
        exact ⟨⟨stored ▸ Option.some_ne_none _, held⟩, _, _, .done _ _, rfl⟩
    | openDescriptor closed => exact ⟨closed, _, _, .done _ _, rfl⟩
  · rintro ⟨enabled, update, s₁, run, rfl⟩
    cases event with
    | create kind =>
        obtain ⟨same, rfl⟩ := run_done_iff.mp run
        obtain rfl := Option.some.inj same
        exact .create kind
    | listen this host port options =>
        obtain ⟨obj, outcome, found, ran, same⟩ := run_method_iff.mp run
        obtain rfl := Option.some.inj same
        exact .listen (Heap.listenerAt_eq_some.mp found) enabled ran
    | connect this fuel host port options =>
        obtain ⟨obj, result, found, ran, same⟩ := run_method_iff.mp run
        obtain ⟨outcome, rfl, rfl⟩ := Option.map_eq_some_iff.mp same
        exact .connect (Heap.connectionAt_eq_some.mp found) enabled ran
    | newStream this conn bidirectional =>
        obtain ⟨obj, outcome, found, ran, same⟩ := run_method_iff.mp run
        obtain rfl := Option.some.inj same
        exact .newStream (Heap.streamAt_eq_some.mp found) enabled.1 enabled.2 ran
    | accept this =>
        obtain ⟨obj, made, found, ran, same⟩ := run_method_iff.mp run
        obtain rfl := Option.some.inj same
        exact .accept (Heap.listenerAt_eq_some.mp found) enabled ran
    | closeListener this =>
        obtain ⟨obj, left, found, ran, same⟩ := run_method_iff.mp run
        obtain rfl := Option.some.inj same
        exact .closeListener (Heap.listenerAt_eq_some.mp found) enabled ran
    | openStream this bidirectional =>
        obtain ⟨obj, outcome, found, ran, same⟩ := run_method_iff.mp run
        obtain rfl := Option.some.inj same
        exact .openStream (Heap.connectionAt_eq_some.mp found) enabled ran
    | acceptStream this =>
        obtain ⟨obj, made, found, ran, same⟩ := run_method_iff.mp run
        obtain rfl := Option.some.inj same
        exact .acceptStream (Heap.connectionAt_eq_some.mp found) enabled ran
    | asStream this =>
        obtain ⟨obj, outcome, found, ran, same⟩ := run_method_iff.mp run
        obtain rfl := Option.some.inj same
        exact .asStream (Heap.streamAt_eq_some.mp found) enabled ran
    | closeResource this =>
        obtain ⟨object, rc, stored, ran, same⟩ := run_method_iff.mp run
        obtain rfl := Option.some.inj same
        exact .closeResource stored enabled ran
    | getConnection this =>
        obtain ⟨obj, outcome, found, ran, same⟩ := run_method_iff.mp run
        obtain rfl := Option.some.inj same
        exact .getConnection (Heap.streamAt_eq_some.mp found) enabled ran
    | copyReference object =>
        obtain ⟨same, rfl⟩ := run_done_iff.mp run
        obtain rfl := Option.some.inj same
        exact .copyReference enabled
    | dropReference id =>
        obtain ⟨same, rfl⟩ := run_done_iff.mp run
        obtain rfl := Option.some.inj same
        obtain ⟨object, stored⟩ := Option.ne_none_iff_exists'.mp enabled.1
        exact .dropReference stored enabled.2
    | destroy id =>
        obtain ⟨object, _, stored, ran, same⟩ := run_method_iff.mp run
        obtain rfl := Option.some.inj same
        exact .destroy stored enabled ran
    | openDescriptor fd =>
        obtain ⟨same, rfl⟩ := run_done_iff.mp run
        obtain rfl := Option.some.inj same
        exact .openDescriptor enabled

/-! ### Every call of an event is careful -/

/-- No listener is closed. -/
def LifeEvent.ClosesNone : LifeEvent → Prop
  | .closeListener _ => False
  | _ => True

/-- Calls that release nothing and make no SSL object from another one. -/
def Call.IsHarmless : Call → Prop
  | .sslFree _ | .bioClosesocket _ | .efree _ | .sslCtxFree _ | .sslAcceptConnection _
  | .sslNewStream .. | .sslAcceptStream _ => False
  | _ => True

theorem Call.careful_of_harmless (s : Heap) (call : Call) (harmless : call.IsHarmless) :
    call.Careful s := by
  cases call <;> first | exact trivial | exact harmless.elim

theorem Call.isHarmless_of_throw (call : Call) (throws : call.IsThrow) : call.IsHarmless := by
  cases call <;> first | exact trivial | exact throws.elim

section Events

variable {s : Heap} {foreign : Resource → Prop}

theorem careful_of_harmless {α : Type} {p : Quic α} (harmless : Only Call.IsHarmless p) (s : Heap) :
    Carefully p (fun _ _ => True) s :=
  .of_always harmless Call.careful_of_harmless fun _ _ _ => trivial

theorem throwing_harmless {α : Type} {P : Quic Thrown} (harmless : Only Call.IsHarmless P)
    (s : Heap) :
    Carefully (throwing P : Quic (Outcome α)) (fun _ _ => True) s :=
  careful_of_harmless (throwing_calls harmless) s

theorem throwSsl_harmless (format : Bytes) : Only Call.IsHarmless (phpQuicThrowSsl format) :=
  (phpQuicThrowSsl_calls format).mono Call.isHarmless_of_throw

theorem method_careful {α β : Type} {found : Option α} {p : α → Quic β}
    {f : α → β → Option StoreUpdate}
    (careful : ∀ obj, found = some obj → Carefully (p obj) (fun _ _ => True) s) :
    Carefully (calling found fun obj => do return f obj (← p obj)) (fun _ _ => True) s := by
  cases found with
  | none => exact .pure trivial
  | some obj => exact .bind (careful obj rfl) fun _ _ _ => .pure trivial

/-- What follows when an SSL object has been made from another one. -/
theorem made_careful {β : Type} {call : Call} {next : Answer call → Quic β}
    (here : call.Careful s) (rest : ∀ answer, Only Call.IsHarmless (next answer)) :
    Carefully (ask call >>= next) (fun _ _ => True) s :=
  .ask_bind here fun answer s₁ _ => careful_of_harmless (rest answer) s₁

theorem accept_careful (accounted : s.Accounted foreign) {this : ObjectId} {obj : PhpQuicListener}
    (stored : s.object this = some (.listener obj)) :
    Carefully (Listener.accept obj this) (fun _ _ => True) s := by
  unfold Listener.accept
  split
  · exact .pure trivial
  · rename_i root owned
    have has : (QuicObject.listener obj).holding.Has (.ssl root) := owned
    refine made_careful (accounted.live stored has) fun made => ?_
    cases made with
    | none => exact .pure _
    | some ssl =>
        exact .bind (.bind (.call trivial) fun _ => .call trivial) fun _ =>
          .bind (.bind (.call trivial) fun _ => .pure _) fun _ => .pure _

theorem openStream_careful (accounted : s.Accounted foreign) {this : ObjectId}
    {obj : PhpQuicConnection} (stored : s.object this = some (.connection obj))
    (bidirectional : Bool) :
    Carefully (Connection.openStream obj this bidirectional) (fun _ _ => True) s := by
  unfold Connection.openStream
  split
  · exact throwing_harmless (phpQuicThrow_calls _ _) s
  · rename_i root owned
    have has : (QuicObject.connection obj).holding.Has (.ssl root) := owned
    refine made_careful (accounted.live stored has) fun made => ?_
    cases made with
    | none => exact throwing_calls (throwSsl_harmless _)
    | some ssl => exact .bind (.bind (.call trivial) fun _ => .pure _) fun _ => .pure _

theorem acceptStream_careful (accounted : s.Accounted foreign) {this : ObjectId}
    {obj : PhpQuicConnection} (stored : s.object this = some (.connection obj)) :
    Carefully (Connection.acceptStream obj this) (fun _ _ => True) s := by
  unfold Connection.acceptStream
  split
  · exact .pure trivial
  · rename_i root owned
    have has : (QuicObject.connection obj).holding.Has (.ssl root) := owned
    refine made_careful (accounted.live stored has) fun made => ?_
    cases made with
    | none => exact .pure _
    | some ssl => exact .bind (.bind (.call trivial) fun _ => .pure _) fun _ => .pure _

theorem newStream_careful (accounted : s.Accounted foreign) (obj : PhpQuicStream) (conn : ObjectId)
    (bidirectional : Bool) :
    Carefully (Stream.construct obj conn bidirectional) (fun _ _ => True) s := by
  refine .ite (fun _ => throwing_harmless (phpQuicThrow_calls _ _) s) fun _ => ?_
  refine .ask_bind trivial ?_
  rintro loaded s₁ ⟨found, rfl⟩
  have closed : Carefully
      (throwing (phpQuicThrow (text "connection is closed")) : Quic (Outcome PhpQuicStream))
      (fun _ _ => True) s₁ :=
    throwing_harmless (phpQuicThrow_calls _ _) s₁
  match loaded, found with
  | .connection { ssl := some root, fd, ownsFd, closed := shut, listener }, found =>
      have live : s₁.live (.ssl root) = true := by
        cases stored : s₁.object conn with
        | none =>
            rw [stored] at found
            cases found
        | some object =>
            rw [stored] at found
            obtain rfl : _ = object := found
            exact accounted.live stored (r := .ssl root) rfl
      refine made_careful live fun made => ?_
      cases made with
      | none => exact throwing_calls (throwSsl_harmless _)
      | some ssl => exact .bind (.bind (.call trivial) fun _ => .pure _) fun _ => .pure _
  | .connection { ssl := none, .. }, _ => exact closed
  | .listener _, _ => exact closed
  | .stream _, _ => exact closed
  | .foreign, _ => exact closed

theorem asStream_harmless (obj : PhpQuicStream) (this : ObjectId) :
    Only Call.IsHarmless (Stream.asStream obj this) := by
  unfold Stream.asStream
  split
  · exact throwing_calls (phpQuicThrow_calls _ _)
  · refine .bind (.call trivial) fun _ => .bind (.call trivial) fun made => ?_
    cases made with
    | none => exact .bind (.call trivial) fun _ => throwing_calls (phpQuicThrow_calls _ _)
    | some stream => exact .pure _

theorem getConnection_harmless (obj : PhpQuicStream) :
    Only Call.IsHarmless (Stream.getConnection obj) := by
  unfold Stream.getConnection
  split
  · exact throwing_calls (phpQuicThrow_calls _ _)
  · exact .bind (.call trivial) fun _ => .pure _

/-- **Every call of an event is careful**, unless a listener is closed. -/
theorem program_careful (accounted : s.Accounted foreign) {event : LifeEvent}
    (enabled : event.Enabled s) (closesNone : event.ClosesNone) :
    Carefully (event.program s) (fun _ _ => True) s := by
  cases event with
  | create | copyReference | dropReference | openDescriptor => exact .pure trivial
  | listen this host port options =>
      refine method_careful fun obj _ => ?_
      exact (construct_careful_listener accounted obj host port options).mono fun _ _ _ => trivial
  | connect this fuel host port options =>
      refine method_careful fun obj _ => ?_
      exact (construct_careful_connection accounted fuel obj host port options).mono
        fun _ _ _ => trivial
  | newStream this conn bidirectional =>
      exact method_careful fun obj _ => newStream_careful accounted obj conn bidirectional
  | accept this =>
      exact method_careful fun obj found =>
        accept_careful accounted (Heap.listenerAt_eq_some.mp found)
  | closeListener this => exact closesNone.elim
  | openStream this bidirectional =>
      exact method_careful fun obj found =>
        openStream_careful accounted (Heap.connectionAt_eq_some.mp found) bidirectional
  | acceptStream this =>
      exact method_careful fun obj found =>
        acceptStream_careful accounted (Heap.connectionAt_eq_some.mp found)
  | asStream this =>
      exact method_careful fun obj _ => careful_of_harmless (asStream_harmless obj this) s
  | closeResource this =>
      refine method_careful fun _ _ => careful_of_harmless ?_ s
      exact .bind (.call trivial) fun _ => .pure _
  | getConnection this =>
      exact method_careful fun obj _ => careful_of_harmless (getConnection_harmless obj) s
  | destroy id =>
      refine method_careful fun object stored => freeObject_careful accounted stored ?_
      have counted := accounted.valid.counted id object stored
      have unreferenced : s.refcount id = 0 := enabled
      omega

end Events

/-! ### Runs with their calls -/

/-- An event, and the calls it made. -/
abbrev LifeLabel := LifeEvent × List (Exchange openssl Heap)

/-- **A step with its calls**; no listener is closed. -/
def TracedStep (s : Heap) (label : LifeLabel) (s' : Heap) : Prop :=
  label.1.ClosesNone ∧ label.1.Enabled s ∧ ∃ update s₁,
    Trace owning (label.1.program s) s label.2 (some update) s₁ ∧ s' = update s₁

theorem TracedStep.lifeStep {s s' : Heap} {label : LifeLabel} (step : TracedStep s label s') :
    LifeStep s label.1 s' := by
  obtain ⟨_, enabled, update, s₁, trace, rfl⟩ := step
  exact lifeStep_iff.mpr ⟨enabled, update, s₁, trace.run, rfl⟩

/-- Every step makes some calls. -/
theorem LifeStep.traced {s s' : Heap} {event : LifeEvent} (step : LifeStep s event s')
    (closesNone : event.ClosesNone) : ∃ calls, TracedStep s (event, calls) s' := by
  obtain ⟨enabled, update, s₁, run, rfl⟩ := lifeStep_iff.mp step
  obtain ⟨calls, trace⟩ := run_iff_trace.mp run
  exact ⟨calls, closesNone, enabled, update, s₁, trace, rfl⟩

/-- So does every run. -/
theorem Path.traced {s s' : Heap} {events : List LifeEvent}
    (path : Path (fun s event s' => LifeStep s event s' ∧ event.ClosesNone) s events s') :
    ∃ labels, labels.map Prod.fst = events ∧ Path TracedStep s labels s' := by
  induction path with
  | nil s => exact ⟨[], rfl, .nil s⟩
  | cons first _ ih =>
      obtain ⟨calls, step⟩ := first.1.traced first.2
      obtain ⟨labels, same, rest⟩ := ih
      exact ⟨_ :: labels, congrArg _ same, .cons step rest⟩

/-- All calls of a run, in order. -/
def exchanges (labels : List LifeLabel) : List (Exchange openssl Heap) := labels.flatMap Prod.snd

def madeIn (r : Resource) (exchange : Exchange openssl Heap) : Bool :=
  exchange.call.made exchange.answer = some r

def releasedIn (r : Resource) (exchange : Exchange openssl Heap) : Bool :=
  exchange.call.released = some r

/-- How often a run made a resource. -/
def timesMade (labels : List LifeLabel) (r : Resource) : Nat := (exchanges labels).countP (madeIn r)

/-- How often a run released a resource. -/
def timesReleased (labels : List LifeLabel) (r : Resource) : Nat :=
  (exchanges labels).countP (releasedIn r)

/-- What the process opened. -/
def LifeEvent.opens : LifeEvent → Option Resource
  | .openDescriptor fd => some (.descriptor fd)
  | _ => none

/-- The process opened the descriptor during the run. -/
def Opened (labels : List LifeLabel) (r : Resource) : Prop :=
  ∃ label ∈ labels, label.1.opens = some r

theorem Heap.live_storeMade (s : Heap) (id : ObjectId) (made : Option QuicObject) (r : Resource) :
    (s.storeMade id made).live r = s.live r := by
  cases made <;> cases r <;> rfl

theorem Heap.live_installMade (s : Heap) (made : Option QuicObject) (r : Resource) :
    (s.installMade made).live r = s.live r := by
  cases made <;> cases r <;> rfl

theorem Heap.live_holdMade (s : Heap) (made : Option ObjectId) (r : Resource) :
    (s.holdMade made).live r = s.live r := by
  cases made <;> cases r <;> rfl

theorem returns_method {α β : Type} {found : Option α} {p : α → Quic β}
    {f : α → β → Option StoreUpdate} {holds : Option StoreUpdate → Prop} (nothing : holds none)
    (made : ∀ obj value, holds (f obj value)) :
    Returns holds (calling found fun obj => do return f obj (← p obj)) := by
  cases found with
  | none => exact .pure nothing
  | some obj => exact .bind_any fun value => .pure (made obj value)

/-- The update of the store makes and releases nothing. -/
def StoreUpdate.Keeps (update : Option StoreUpdate) : Prop :=
  ∀ f, update = some f → ∀ s r, (f s).live r = s.live r

theorem StoreUpdate.Keeps.some {f : StoreUpdate} (keeps : ∀ s r, (f s).live r = s.live r) :
    StoreUpdate.Keeps (some f) := by
  intro g same
  exact Option.some.inj same ▸ keeps

theorem program_keeps (s : Heap) {event : LifeEvent} (opensNone : event.opens = none) :
    Returns StoreUpdate.Keeps (event.program s) := by
  cases event with
  | create kind => exact .pure (.some fun s r => s.live_installMade (some kind.create) r)
  | listen this => exact returns_method nofun fun _ _ => .some fun s r => s.live_storeMade this _ r
  | connect this =>
      refine returns_method nofun fun _ result => ?_
      cases result with
      | none => exact nofun
      | some outcome => exact .some fun s r => s.live_storeMade this _ r
  | newStream this =>
      exact returns_method nofun fun _ _ => .some fun s r => s.live_storeMade this _ r
  | accept | openStream | acceptStream =>
      exact returns_method nofun fun _ _ => .some fun s r => s.live_installMade _ r
  | closeListener this =>
      exact returns_method nofun fun _ left =>
        .some fun s r => s.live_storeMade this (some (.listener left)) r
  | asStream => exact returns_method nofun fun _ _ => .some fun s r => rfl
  | closeResource => exact returns_method nofun fun _ _ => .some fun s r => by cases r <;> rfl
  | getConnection => exact returns_method nofun fun _ _ => .some fun s r => s.live_holdMade _ r
  | copyReference | dropReference => exact .pure (.some fun s r => by cases r <;> rfl)
  | destroy => exact returns_method nofun fun _ _ => .some fun s r => by cases r <;> rfl
  | openDescriptor => cases opensNone

section Step

variable {s s' : Heap} {label : LifeLabel} {foreign : Resource → Prop}
  (step : TracedStep s label s') (accounted : s.Accounted foreign)
include step accounted

theorem TracedStep.careful : ∀ exchange ∈ label.2, exchange.call.Careful exchange.before := by
  obtain ⟨closesNone, enabled, update, s₁, trace, rfl⟩ := step
  exact ((program_careful accounted enabled closesNone).trace trace).1

/-- **One step balances**, unless the process opened the descriptor. -/
theorem TracedStep.balances {r : Resource} (unopened : label.1.opens ≠ some r) :
    (s.live r).toNat + label.2.countP (madeIn r) =
      (s'.live r).toNat + label.2.countP (releasedIn r) := by
  have careful := step.careful accounted
  obtain ⟨closesNone, enabled, update, s₁, trace, rfl⟩ := step
  have allowed := trace.allowed
  have balance := trace.balance (fun s => (s.live r).toNat) (madeIn r) (releasedIn r)
    fun exchange member => by
      simpa [madeIn, releasedIn] using
        owning_balances (careful exchange member) (allowed exchange member) r
  have kept : (update s₁).live r = s₁.live r := by
    cases opens : label.1.opens with
    | none => exact (program_keeps s opens).of_run trace.run update rfl s₁ r
    | some opened =>
        obtain ⟨event, calls⟩ := label
        cases event with
        | openDescriptor fd =>
            obtain ⟨same, _⟩ := run_done_iff.mp trace.run
            obtain rfl := Option.some.inj same
            have different : r ≠ .descriptor fd := by
              rintro rfl
              exact unopened rfl
            have after := s₁.live_openFd r fd
            rw [or_iff_left different] at after
            exact Bool.eq_iff_iff.mpr after
        | _ => cases opens
  rw [kept]
  exact balance

end Step

end PhpQuic
