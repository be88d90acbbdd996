/-
**`Quic\poll` and the user code it may run.**

Converting an events value may run a user error handler. `UserCode` is any such code: after the
conversions so far, it may change the objects, release SSL objects and leave an exception pending.
An item is judged as it is when the loop reaches it, so a table that user code changes on the way is
the table of what was found.

* `fillItems_reached`, `fillItems_refused`: the loop, in terms of the walk over the items.
* `clean_iff_harmless`: after the walk, nothing in `poll_items` is released and no exception is
  pending, exactly when no conversion did either.
* `poll_live_iff`: `SSL_poll` only sees live descriptors and no pending exception, exactly when the
  conversions are harmless or some item stops the loop.
-/

import PhpQuic.Proof.PollItems

namespace PhpQuic

open Interact

namespace Poll

/-- The objects and SSL objects of the process, and whether an exception is pending. An SSL object
is released only together with the pointer to it. -/
structure Session where
  store : ObjectId → QuicObject
  released : Ssl → Bool
  pending : Bool
  consistent : ∀ id ssl, (store id).liveSsl = some ssl → released ssl = false

/-- User code, by how many conversions there were before and by what is converted. A released SSL
object stays so, and a pending exception is for the caller of `poll()` to see. -/
structure UserCode where
  convert : Nat → Zval → Session → Int × Session
  released : ∀ count value s ssl, s.released ssl = true →
    (convert count value s).2.released ssl = true
  pending : ∀ count value s, s.pending = true → (convert count value s).2.pending = true

/-- One `SSL_poll`: the descriptors, and the session at that moment. -/
structure Moment where
  items : List PollItem
  session : Session

/-- Every descriptor is of an SSL object that has not been released, and no exception is pending. -/
def Moment.Safe (moment : Moment) : Prop :=
  (∀ item ∈ moment.items, moment.session.released item.desc = false) ∧
    moment.session.pending = false

/-- The state of one call of `poll()`. -/
structure Polls where
  session : Session
  conversions : Nat
  moments : List Moment

/-- Run the user code of one conversion. -/
def Polls.convert (user : UserCode) (value : Zval) (s : Polls) : Int × Polls :=
  let result := user.convert s.conversions value s.session
  (result.1, { s with session := result.2, conversions := s.conversions + 1 })

/-- The environment of this user code, with the answers of `SSL_poll`. -/
def hosting (user : UserCode) (answers : List PollItem → Option (List Nat)) :
    Handler openssl Polls := fun s call =>
  match call with
  | .loadObject id => (s.session.store id, s)
  | .zvalGetLong value => s.convert user value
  | .sslPoll items _ => (answers items, { s with moments := s.moments ++ [⟨items, s.session⟩] })
  | call => (succeeding call, s)

/-! ### The walk over the items -/

/-- What the loop takes from an item it reaches: the SSL object and the events value. -/
def Session.item (s : Session) (entry : Zval) : Option (Ssl × Zval) :=
  match pollSlots entry with
  | some (.object id _, events) => (s.store id).liveSsl.map fun ssl => (ssl, events)
  | _ => none

section Walk

variable (user : UserCode)

/-- Every item is acceptable when the loop reaches it. -/
def AllReached (count : Nat) : HashTable → Session → Prop
  | [], _ => True
  | (_, entry) :: rest, s =>
    match s.item entry with
    | none => False
    | some (_, events) => AllReached (count + 1) rest (user.convert count events s).2

/-- No conversion leaves an exception pending, and none releases the SSL object of an item that was
reached by then. -/
def Harmless (count : Nat) (reached : List Ssl) : HashTable → Session → Prop
  | [], _ => True
  | (_, entry) :: rest, s =>
    match s.item entry with
    | none => True
    | some (ssl, events) =>
      let s' := (user.convert count events s).2
      s'.pending = false ∧ (∀ desc ∈ reached ++ [ssl], s'.released desc = false) ∧
        Harmless (count + 1) (reached ++ [ssl]) rest s'

/-- The session when the walk ends. -/
def walk (count : Nat) : HashTable → Session → Session
  | [], s => s
  | (_, entry) :: rest, s =>
    match s.item entry with
    | none => s
    | some (_, events) => walk (count + 1) rest (user.convert count events s).2

/-- The SSL objects of the items reached. -/
def descriptors (count : Nat) : HashTable → Session → List Ssl
  | [], _ => []
  | (_, entry) :: rest, s =>
    match s.item entry with
    | none => []
    | some (ssl, events) => ssl :: descriptors (count + 1) rest (user.convert count events s).2

variable {user}

theorem walk_released {count : Nat} {items : HashTable} {s : Session} {ssl : Ssl}
    (released : s.released ssl = true) : (walk user count items s).released ssl = true := by
  induction items generalizing count s with
  | nil => exact released
  | cons item rest ih =>
      rw [walk]
      split
      · exact released
      · exact ih (user.released _ _ _ _ released)

theorem walk_pending {count : Nat} {items : HashTable} {s : Session} (pending : s.pending = true) :
    (walk user count items s).pending = true := by
  induction items generalizing count s with
  | nil => exact pending
  | cons item rest ih =>
      rw [walk]
      split
      · exact pending
      · exact ih (user.pending _ _ _ pending)

/-- **The walk ends clean exactly when every conversion was harmless.** -/
theorem clean_iff_harmless {count : Nat} {reached : List Ssl} {items : HashTable} {s : Session}
    (all : AllReached user count items s) (calm : s.pending = false)
    (live : ∀ desc ∈ reached, s.released desc = false) :
    (∀ desc ∈ reached ++ descriptors user count items s,
        (walk user count items s).released desc = false) ∧
      (walk user count items s).pending = false ↔ Harmless user count reached items s := by
  induction items generalizing count reached s with
  | nil =>
      refine iff_of_true ⟨?_, calm⟩ trivial
      rw [descriptors, List.append_nil]
      exact live
  | cons item rest ih =>
      obtain ⟨key, entry⟩ := item
      unfold AllReached at all
      unfold Harmless descriptors walk
      cases found : s.item entry with
      | none =>
          rw [found] at all
          exact all.elim
      | some both =>
          obtain ⟨ssl, events⟩ := both
          rw [found] at all
          dsimp only at all ⊢
          have split_first : reached ++ ssl :: descriptors user (count + 1) rest
              (user.convert count events s).2 = (reached ++ [ssl]) ++
                descriptors user (count + 1) rest (user.convert count events s).2 := by simp
          rw [split_first]
          constructor
          · rintro ⟨fresh, silent⟩
            have calm' : (user.convert count events s).2.pending = false :=
              Bool.eq_false_iff.mpr fun pending => by
                rw [walk_pending pending] at silent
                cases silent
            have live' : ∀ desc ∈ reached ++ [ssl],
                (user.convert count events s).2.released desc = false := fun desc member =>
              Bool.eq_false_iff.mpr fun released => by
                have kept := fresh desc (List.mem_append_left _ member)
                rw [walk_released released] at kept
                cases kept
            exact ⟨calm', live', (ih all calm' live').mp ⟨fresh, silent⟩⟩
          · rintro ⟨calm', live', harmless⟩
            exact (ih all calm' live').mpr harmless

end Walk

/-! ### The loop -/

section Loop

variable {user : UserCode} {answers : List PollItem → Option (List Nat)}

theorem exec_release {α : Type} (buffer : ItemBuffer) (message : Bytes) (s : Polls) :
    exec (hosting user answers) (do
      releaseItems buffer
      throwing (phpQuicThrow message) : Quic (Outcome α)) s =
      (.error { message := snprintf messageSize message, quoted := none }, s) := by
  cases buffer <;> rfl

theorem exec_objSsl (object : Zval) (s : Polls) :
    exec (hosting user answers) (phpQuicObjSsl object) s =
      (match object with
        | .object id _ => (s.session.store id).liveSsl
        | _ => none, s) := by
  cases object with
  | object id truth =>
      rw [phpQuicObjSsl_object]
      rfl
  | _ => rfl

/-- An item that is not acceptable ends the loop. -/
theorem exec_fillItems_none {buffer : ItemBuffer} {index : Nat} {key : ArrayKey} {entry : Zval}
    {rest : HashTable} {s : Polls} (found : s.session.item entry = none) :
    ∃ raised, exec (hosting user answers) (fillItems buffer index ((key, entry) :: rest)) s =
      (.error raised, s) := by
  unfold Session.item at found
  cases slots : pollSlots entry with
  | none =>
      rw [fillItems_malformed slots, exec_release]
      exact ⟨_, rfl⟩
  | some both =>
      obtain ⟨object, events⟩ := both
      rw [slots] at found
      rw [fillItems_cons slots, exec_bind, exec_objSsl]
      have dead : (match object with
        | .object id _ => (s.session.store id).liveSsl
        | _ => none) = none := by
        cases object with
        | object id truth => exact Option.map_eq_none_iff.mp found
        | _ => rfl
      rw [dead]
      exact ⟨_, exec_release ..⟩

/-- An acceptable one is converted, and the loop goes on. -/
theorem exec_fillItems_some {buffer : ItemBuffer} {index : Nat} {key : ArrayKey} {entry : Zval}
    {rest : HashTable} {s : Polls} {ssl : Ssl} {events : Zval}
    (found : s.session.item entry = some (ssl, events)) :
    exec (hosting user answers) (fillItems buffer index ((key, entry) :: rest)) s =
      (match exec (hosting user answers) (fillItems buffer (index + 1) rest)
          (s.convert user events).2 with
        | (.error thrown, s') => (.error thrown, s')
        | (.ok items, s') =>
            (.ok (⟨ssl, Stream.toUint64 (s.convert user events).1⟩ :: items), s')) := by
  unfold Session.item at found
  cases slots : pollSlots entry with
  | none =>
      rw [slots] at found
      cases found
  | some both =>
      obtain ⟨object, events'⟩ := both
      rw [slots] at found
      rw [fillItems_cons slots, exec_bind, exec_objSsl]
      cases object with
      | object id truth =>
          obtain ⟨live, store, same⟩ := Option.map_eq_some_iff.mp found
          cases same
          simp only [store, exec_bind, exec_call]
          have converted : hosting user answers s (.zvalGetLong events) = s.convert user events := rfl
          rw [converted]
          rcases exec (hosting user answers) (fillItems buffer (index + 1) rest)
            (s.convert user events).2 with ⟨outcome, s'⟩
          cases outcome <;> rfl
      | _ => cases found

variable (answers)

/-- The loop over items that are all acceptable when reached. -/
theorem fillItems_reached (buffer : ItemBuffer) (index : Nat) {items : HashTable} {s : Polls}
    (all : AllReached user s.conversions items s.session) : ∃ pollItems s',
    exec (hosting user answers) (fillItems buffer index items) s = (.ok pollItems, s') ∧
      pollItems.map PollItem.desc = descriptors user s.conversions items s.session ∧
      s'.session = walk user s.conversions items s.session ∧ s'.moments = s.moments := by
  induction items generalizing index s with
  | nil => exact ⟨[], s, rfl, rfl, rfl, rfl⟩
  | cons item rest ih =>
      obtain ⟨key, entry⟩ := item
      unfold AllReached at all
      unfold descriptors walk
      cases found : s.session.item entry with
      | none =>
          rw [found] at all
          exact all.elim
      | some both =>
          obtain ⟨ssl, events⟩ := both
          rw [found] at all
          obtain ⟨pollItems, s', filled, descs, session, moments⟩ :=
            ih (index + 1) (s := (s.convert user events).2) all
          rw [exec_fillItems_some found, filled]
          exact ⟨_, s', rfl, congrArg (ssl :: ·) descs, session, moments⟩

/-- The loop over items of which one is not. -/
theorem fillItems_refused (buffer : ItemBuffer) (index : Nat) {items : HashTable} {s : Polls}
    (bad : ¬ AllReached user s.conversions items s.session) : ∃ raised s',
    exec (hosting user answers) (fillItems buffer index items) s = (.error raised, s') ∧
      s'.moments = s.moments := by
  induction items generalizing index s with
  | nil => exact absurd trivial bad
  | cons item rest ih =>
      obtain ⟨key, entry⟩ := item
      unfold AllReached at bad
      cases found : s.session.item entry with
      | none =>
          obtain ⟨raised, ended⟩ := exec_fillItems_none found
          exact ⟨raised, s, ended, rfl⟩
      | some both =>
          obtain ⟨ssl, events⟩ := both
          rw [found] at bad
          obtain ⟨raised, s', filled, moments⟩ :=
            ih (index + 1) (s := (s.convert user events).2) bad
          rw [exec_fillItems_some found, filled]
          exact ⟨raised, s', rfl, moments⟩

/-! ### The whole call -/

/-- The session before a call, with no `SSL_poll` yet. -/
def begin (session : Session) : Polls := { session, conversions := 0, moments := [] }

/-- The `SSL_poll`s of one call. -/
def moments (user : UserCode) (answers : List PollItem → Option (List Nat)) (items : HashTable)
    (timeout : Option Float) (session : Session) : List Moment :=
  (exec (hosting user answers) (poll items timeout) (begin session)).2.moments

theorem exec_itemBuffer (n : Nat) (s : Polls) :
    (exec (hosting user answers) (itemBuffer n) s).2 = s := by
  unfold itemBuffer
  split <;> rfl

theorem exec_releaseItems (buffer : ItemBuffer) (s : Polls) :
    exec (hosting user answers) (releaseItems buffer) s = ((), s) := by
  cases buffer <;> rfl

/-- Past the loop there is one `SSL_poll`, in the session the walk ends in. -/
theorem moments_of_reached {items : HashTable} (nonempty : items ≠ []) (timeout : Option Float)
    {session : Session} (all : AllReached user 0 items session) : ∃ pollItems,
    pollItems.map PollItem.desc = descriptors user 0 items session ∧
      moments user answers items timeout session = [⟨pollItems, walk user 0 items session⟩] := by
  have counted : items.length ≠ 0 := fun zero => nonempty (List.length_eq_zero_iff.mp zero)
  unfold moments poll
  dsimp only
  rw [if_neg counted, exec_bind, exec_itemBuffer, exec_bind]
  obtain ⟨pollItems, s', filled, descs, session', none⟩ :=
    fillItems_reached answers (exec (hosting user answers) (itemBuffer items.length)
      (begin session)).1 0 (s := begin session) all
  rw [filled]
  refine ⟨pollItems, descs, ?_⟩
  have polled : (hosting user answers s' (.sslPoll pollItems (timeout.map toTimeval))).2.moments =
      [⟨pollItems, walk user 0 items session⟩] := by
    show s'.moments ++ [⟨pollItems, s'.session⟩] = _
    rw [none, session']
    rfl
  rw [exec_bind, exec_call]
  cases answer : (hosting user answers s' (.sslPoll pollItems (timeout.map toTimeval))).1 with
  | none =>
      dsimp only
      rw [exec_bind, exec_releaseItems]
      exact polled
  | some revents =>
      dsimp only
      rw [exec_bind, exec_releaseItems]
      exact polled

theorem moments_of_refused {items : HashTable} (timeout : Option Float) {session : Session}
    (bad : ¬ AllReached user 0 items session) : moments user answers items timeout session = [] := by
  have counted : items.length ≠ 0 := fun zero => bad (by
    rw [List.length_eq_zero_iff.mp zero]
    trivial)
  unfold moments poll
  dsimp only
  rw [if_neg counted, exec_bind, exec_itemBuffer, exec_bind]
  obtain ⟨raised, s', filled, none⟩ :=
    fillItems_refused answers (exec (hosting user answers) (itemBuffer items.length)
      (begin session)).1 0 (s := begin session) bad
  rw [filled]
  exact none

end Loop

/-- **`poll()` only hands live descriptors to the engine, and none while an exception is pending,
exactly when** either some item stops the loop, or no conversion of an events value throws or
releases the SSL object of an item that was reached by then. -/
theorem poll_live_iff (user : UserCode) (answers : List PollItem → Option (List Nat))
    (items : HashTable) (timeout : Option Float) (session : Session) (calm : session.pending = false) :
    (∀ moment ∈ moments user answers items timeout session, moment.Safe) ↔
      (AllReached user 0 items session → Harmless user 0 [] items session) := by
  by_cases all : AllReached user 0 items session
  · rw [imp_iff_right all, ← clean_iff_harmless all calm fun _ member => absurd member List.not_mem_nil,
      List.nil_append]
    by_cases empty : items = []
    · subst empty
      refine iff_of_true (fun _ member => absurd member List.not_mem_nil) ⟨fun _ member => ?_, calm⟩
      exact absurd member List.not_mem_nil
    · obtain ⟨pollItems, descs, polled⟩ := moments_of_reached answers empty timeout all
      rw [polled, List.forall_mem_singleton, ← descs, List.forall_mem_map]
      rfl
  · rw [moments_of_refused answers timeout all]
    exact iff_of_true (fun _ member => absurd member List.not_mem_nil) fun reached => absurd reached all

/-! ### Two error handlers -/

/-- `Listener::close()` on the listener of an SSL object. -/
def Session.close (s : Session) (ssl : Ssl) : Session where
  store id := if (s.store id).liveSsl = some ssl then .listener quicListenerCreate else s.store id
  released other := s.released other || decide (other = ssl)
  pending := s.pending
  consistent := by
    intro id other live
    split at live
    · cases live
    · rename_i notClosed
      have different : other ≠ ssl := fun same => notClosed (same ▸ live)
      rw [s.consistent id other live, Bool.false_or, decide_eq_false different]

/-- Converting an object warns, and the error handler closes the listener of SSL object 50. -/
def closingHandler : UserCode where
  convert _ value s :=
    match value with
    | .object _ _ => (1, s.close 50)
    | value => (plainLong value, s)
  released _ value s ssl released := by
    cases value with
    | object id truth => exact Bool.or_eq_true_iff.mpr (.inl released)
    | _ => exact released
  pending _ value s pending := by
    cases value <;> exact pending

/-- Converting an object warns, and the error handler throws. -/
def throwingHandler : UserCode where
  convert _ value s :=
    match value with
    | .object _ _ => (1, { s with pending := true })
    | value => (plainLong value, s)
  released _ value s ssl released := by
    cases value <;> exact released
  pending _ value s pending := by
    cases value with
    | object id truth => rfl
    | _ => exact pending

/-- A listener and a connection, both live. -/
def twoObjects : Session where
  store id :=
    if id = 5 then .listener { quicListenerCreate with ssl := some 50 }
    else if id = 7 then .connection { quicConnectionCreate with ssl := some 70 }
    else .foreign
  released _ := false
  pending := false
  consistent _ _ _ := rfl

/-- `[[$listener, 1], [$connection, $events]]`. -/
def twoItems (events : Zval) : HashTable :=
  [(.index 0, .array [(.index 0, .object 5 true), (.index 1, .long 1)]),
    (.index 1, .array [(.index 0, .object 7 true), (.index 1, events)])]

def silentPoll (items : List PollItem) : Option (List Nat) := some (items.map fun _ => 0)

/-- With plain numbers as events no user code runs. -/
theorem poll_live_example :
    moments closingHandler silentPoll (twoItems (.long 1)) none twoObjects ≠ [] ∧
      ∀ moment ∈ moments closingHandler silentPoll (twoItems (.long 1)) none twoObjects,
        moment.Safe := by
  refine ⟨List.cons_ne_nil _ _, ?_⟩
  refine (poll_live_iff closingHandler silentPoll (twoItems (.long 1)) none twoObjects rfl).mpr
    fun _ => ?_
  exact ⟨rfl, fun _ _ => rfl, rfl, fun _ _ => rfl, trivial⟩

/-- **An object as the second events value**: the listener is closed after its descriptor went into
`poll_items`, or `SSL_poll` runs with an exception pending. -/
theorem poll_not_live :
    (∃ moment ∈ moments closingHandler silentPoll (twoItems (.object 9 true)) none twoObjects,
      ⟨50, 1⟩ ∈ moment.items ∧ moment.session.released 50 = true ∧ ¬ moment.Safe) ∧
    ∃ moment ∈ moments throwingHandler silentPoll (twoItems (.object 9 true)) none twoObjects,
      moment.session.pending = true ∧ ¬ moment.Safe := by
  refine ⟨⟨_, List.mem_cons_self, List.mem_cons_self, rfl, fun safe => ?_⟩,
    _, List.mem_cons_self, rfl, fun safe => ?_⟩
  · exact Bool.false_ne_true (safe.1 _ List.mem_cons_self).symm
  · exact Bool.false_ne_true safe.2.symm

end Poll

end PhpQuic
