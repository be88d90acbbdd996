/-
**`Quic\poll`: items in, results out.**

The validation of one item only looks at its two slots (`pollSlots`), so every fact about the loop
goes through `fillItems_cons` and `fillItems_malformed`.

* `fillItems_spec`: the loop fills one descriptor per item, in order, or throws and releases the
  buffer at the first item it does not accept.
* `collect_eq`: the second iteration gives each key the revents of its own item.
* `poll_exact`: what a call does on an empty table, on acceptable items, on an item that is not, and
  to the heap buffer.
* `poll_transparent_iff`: wrapping slots into PHP references changes nothing, exactly as long as no
  object slot is wrapped.
-/

import PhpQuic.Openssl.Environment
import PhpQuic.Proof.Calls
import PhpQuic.Source.Poll
import Mathlib.Data.List.Forall2

namespace PhpQuic

open Interact

/-! ### The slots of an item -/

/-- An item's object slot and events slot. -/
def pollSlots (entry : Zval) : Option (Zval × Zval) :=
  match zvalDeref entry with
  | .array elements =>
    match zendHashIndexFind elements 0, zendHashIndexFind elements 1 with
    | some object, some events => some (object, events)
    | _, _ => none
  | _ => none

/-- The SSL object of a connection, a listener or a stream, while it is live. -/
def QuicObject.liveSsl : QuicObject → Option Ssl
  | .connection obj => obj.ssl
  | .listener obj => obj.ssl
  | .stream obj => obj.ssl
  | .foreign => none

theorem phpQuicObjSsl_object (id : ObjectId) (truth : Bool) :
    phpQuicObjSsl (.object id truth) = (do
      let object ← ask (.loadObject id)
      return object.liveSsl) :=
  congrArg (Program.ask (I := openssl) (.loadObject id)) <|
    funext fun object => by cases object <;> rfl

theorem phpQuicObjSsl_other {value : Zval} (other : ∀ id truth, value ≠ .object id truth) :
    phpQuicObjSsl value = pure none := by
  cases value with
  | object id truth => exact absurd rfl (other id truth)
  | _ => rfl

namespace Poll

variable {buffer : ItemBuffer} {index : Nat} {key : ArrayKey} {entry : Zval} {rest : HashTable}

/-- One round of the loop, from the slots of its item. -/
theorem fillItems_cons {object events : Zval} (slots : pollSlots entry = some (object, events)) :
    fillItems buffer index ((key, entry) :: rest) = (do
      match ← phpQuicObjSsl object with
      | none =>
        releaseItems buffer
        throwing (phpQuicThrow (text "poll item #" ++ decimal index ++
          text " is not a live Quic\\Connection, Quic\\Listener, or Quic\\Stream"))
      | some desc =>
        let mask ← ask (.zvalGetLong events)
        match ← fillItems buffer (index + 1) rest with
        | .error thrown => return .error thrown
        | .ok items => return .ok ({ desc, events := Stream.toUint64 mask } :: items)) := by
  unfold pollSlots at slots
  rw [fillItems]
  cases array : zvalDeref entry with
  | array elements =>
      simp only [array] at slots
      dsimp only
      cases first : zendHashIndexFind elements 0 with
      | none => simp [first] at slots
      | some object' =>
          cases second : zendHashIndexFind elements 1 with
          | none => simp [first, second] at slots
          | some events' =>
              simp only [first, second, Option.some.injEq, Prod.mk.injEq] at slots
              obtain ⟨rfl, rfl⟩ := slots
              rfl
  | _ => simp [array] at slots

/-- What is thrown for an item without the two slots. -/
def malformedText (entry : Zval) : Bytes :=
  match zvalDeref entry with
  | .array _ => text "each poll item must be [object, events]"
  | _ => text "each poll item must be an array [object, events]"

/-- An item without the two slots ends the loop. -/
theorem fillItems_malformed (slots : pollSlots entry = none) :
    fillItems buffer index ((key, entry) :: rest) = (do
      releaseItems buffer
      throwing (phpQuicThrow (malformedText entry))) := by
  unfold pollSlots at slots
  rw [fillItems, malformedText]
  cases array : zvalDeref entry with
  | array elements =>
      simp only [array] at slots
      dsimp only
      cases first : zendHashIndexFind elements 0 with
      | none => rfl
      | some object =>
          cases second : zendHashIndexFind elements 1 with
          | none => rfl
          | some events => simp [first, second] at slots
  | _ => rfl

/-! ### The world of one call -/

/-- One `SSL_poll`. -/
structure PollCall where
  items : List PollItem
  timeout : Option Timeval
  revents : Option (List Nat)
  deriving DecidableEq

/-- What a call of `poll()` leaves behind: its `SSL_poll`s and its heap blocks. -/
structure PollLog where
  polls : List PollCall
  allocated : List Nat
  freed : List Nat
  deriving DecidableEq

/-- Objects that stay as they are, events values that convert to fixed numbers without running code,
and an `SSL_poll` that fails or answers one revents for each item. -/
def Polling (store : ObjectId → QuicObject) (toLong : Zval → Int) : Behaviour openssl PollLog :=
  fun s call answer s' =>
    match call, answer with
    | .loadObject id, object => object = store id ∧ s' = s
    | .zvalGetLong value, number => number = toLong value ∧ s' = s
    | .emalloc, address => s' = { s with allocated := s.allocated ++ [address] }
    | .efree address, _ => s' = { s with freed := s.freed ++ [address] }
    | .sslPoll items timeout, revents =>
        (∀ list, revents = some list → list.length = items.length) ∧
          s' = { s with polls := s.polls ++ [⟨items, timeout, revents⟩] }
    | _, _ => s' = s

section Call

variable (store : ObjectId → QuicObject) (toLong : Zval → Int)

/-- The element is an array with an element 0 that is a live object and an element 1. -/
def Acceptable (entry : Zval) : Prop :=
  ∃ id truth events ssl, pollSlots entry = some (.object id truth, events) ∧
    (store id).liveSsl = some ssl

/-- The element has no element 0 or 1, or its element 0 is not a live object. Nothing is said of a
reference to a live object here. -/
def Unacceptable (entry : Zval) : Prop :=
  pollSlots entry = none ∨ ∃ object events, pollSlots entry = some (object, events) ∧
    ∀ id truth, zvalDeref object = .object id truth → (store id).liveSsl = none

/-- The descriptor of an element: its own SSL object, and the events it asks for. -/
def Describes (item : ArrayKey × Zval) (pollItem : PollItem) : Prop :=
  ∃ id truth events, pollSlots item.2 = some (.object id truth, events) ∧
    (store id).liveSsl = some pollItem.desc ∧ pollItem.events = Stream.toUint64 (toLong events)

variable {store toLong}

theorem Describes.not_unacceptable {item : ArrayKey × Zval} {pollItem : PollItem}
    (describes : Describes store toLong item pollItem) : ¬ Unacceptable store item.2 := by
  obtain ⟨id, truth, events, slots, live, -⟩ := describes
  rintro (none | ⟨object, events', slots', dead⟩)
  · rw [slots] at none
    cases none
  · cases slots.symm.trans slots'
    rw [dead id truth rfl] at live
    cases live

/-- The buffer after `releaseItems`. -/
def PollLog.release (s : PollLog) (buffer : ItemBuffer) : PollLog :=
  { s with freed := s.freed ++ buffer.toList }

theorem releaseItems_spec (buffer : ItemBuffer) (s : PollLog) :
    Always (Polling store toLong) (releaseItems buffer) (fun _ s' => s' = s.release buffer) s := by
  cases buffer with
  | none => exact .pure (by simp [PollLog.release])
  | some address => exact always_call.mpr fun _ _ replied => replied

/-- Releasing and throwing, with any throw that leaves the log alone. -/
theorem release_throwing {α : Type} {buffer : ItemBuffer} {thrown : Quic Thrown} {s : PollLog}
    (calls : Only Call.IsThrow thrown) :
    Always (Polling store toLong) (do
      releaseItems buffer
      throwing thrown : Quic (Outcome α))
      (fun outcome s' => (∃ raised, outcome = .error raised) ∧ s' = s.release buffer) s := by
  refine .bind (releaseItems_spec buffer s) fun _ s₁ released => ?_
  refine .bind (.of_unchanged calls (fun s call answer s' throws replied => ?_) s₁)
    fun raised s₂ same => .pure ⟨⟨raised, rfl⟩, same.trans released⟩
  cases call <;> first | exact replied | exact throws.elim

/-- **The validation loop.** -/
theorem fillItems_spec (buffer : ItemBuffer) (index : Nat) (items : HashTable) (s : PollLog) :
    Always (Polling store toLong) (fillItems buffer index items) (fun outcome s' =>
      (∃ pollItems, outcome = .ok pollItems ∧
        List.Forall₂ (Describes store toLong) items pollItems ∧ s' = s) ∨
      (∃ raised, outcome = .error raised) ∧ (∃ item ∈ items, ¬ Acceptable store item.2) ∧
        s' = s.release buffer) s := by
  induction items generalizing index with
  | nil => exact .pure (.inl ⟨[], rfl, .nil, rfl⟩)
  | cons item rest ih =>
      obtain ⟨key, entry⟩ := item
      have refuse (message : Bytes) (bad : ¬ Acceptable store entry) :
          Always (Polling store toLong) (do
            releaseItems buffer
            throwing (phpQuicThrow message)) (fun outcome s' =>
              (∃ pollItems, outcome = .ok pollItems ∧
                List.Forall₂ (Describes store toLong) ((key, entry) :: rest) pollItems ∧ s' = s) ∨
              (∃ raised, outcome = .error raised) ∧
                (∃ item ∈ (key, entry) :: rest, ¬ Acceptable store item.2) ∧
                s' = s.release buffer) s :=
        (release_throwing (phpQuicThrow_calls _ _)).mono fun outcome s' both =>
          .inr ⟨both.1, ⟨_, List.mem_cons_self, bad⟩, both.2⟩
      cases slots : pollSlots entry with
      | none =>
          rw [fillItems_malformed slots]
          refine refuse _ ?_
          rintro ⟨id, truth, events, ssl, slots', -⟩
          rw [slots] at slots'
          cases slots'
      | some both =>
          obtain ⟨object, events⟩ := both
          rw [fillItems_cons slots]
          have refused (bad : ∀ id truth, object = .object id truth → (store id).liveSsl = none) :
              ¬ Acceptable store entry := by
            rintro ⟨id, truth, events', ssl, slots', live⟩
            cases slots.symm.trans slots'
            rw [bad id truth rfl] at live
            cases live
          by_cases isObject : ∃ id truth, object = .object id truth
          · obtain ⟨id, truth, rfl⟩ := isObject
            rw [phpQuicObjSsl_object, bind_assoc]
            refine always_call_bind.mpr fun found s₁ loaded => ?_
            obtain ⟨rfl, rfl⟩ := loaded
            rw [pure_bind]
            cases live : (store id).liveSsl with
            | none =>
                refine refuse _ (refused fun id' truth' same => ?_)
                cases same
                exact live
            | some desc =>
                refine always_call_bind.mpr fun mask s₂ converted => ?_
                obtain ⟨rfl, rfl⟩ := converted
                refine .bind (ih (index + 1)) fun outcome s₃ filled => ?_
                rcases filled with
                  ⟨pollItems, rfl, described, rfl⟩ | ⟨⟨raised, rfl⟩, ⟨item, member, bad⟩, rfl⟩
                · exact .pure (.inl ⟨_, rfl, .cons ⟨id, truth, events, slots, live, rfl⟩ described, rfl⟩)
                · exact .pure (.inr ⟨⟨raised, rfl⟩, ⟨item, List.mem_cons_of_mem _ member, bad⟩, rfl⟩)
          · have other (id : ObjectId) (truth : Bool) : object ≠ .object id truth :=
              fun same => isObject ⟨id, truth, same⟩
            rw [phpQuicObjSsl_other other, pure_bind]
            exact refuse _ (refused fun id truth same => absurd same (other id truth))

/-! ### The results -/

/-- Each element whose revents are not zero, under its own key, in the caller's order. -/
def keyedResults (items : HashTable) (revents : List Nat) : List (ArrayKey × Int) :=
  (items.zip revents).filterMap fun (item, revents) =>
    if revents ≠ 0 then some (item.1, Stream.toZendLong revents) else none

/-- **The second iteration** is in step with the first. -/
theorem collect_eq (items : HashTable) (revents : List Nat) :
    collect items revents = keyedResults items revents := by
  induction items generalizing revents with
  | nil => rfl
  | cons item rest ih =>
      cases revents with
      | nil => rfl
      | cons first more =>
          unfold keyedResults at ih ⊢
          rw [collect, List.zip_cons_cons, List.filterMap_cons, ih more]
          by_cases empty : first = 0
          · simp [empty]
          · simp [empty]

/-- The heap buffer of a call, when it needs one. -/
def heapBlocks (items : HashTable) : Nat := if items.length ≤ stackItems then 0 else 1

variable (store toLong) in
/-- What `poll()` promises for one call with at least one item. -/
structure Exact (items : HashTable) (timeout : Option Float) (s : PollLog)
    (outcome : Outcome (List (ArrayKey × Int))) (s' : PollLog) : Prop where
  accepted : (∀ item ∈ items, Acceptable store item.2) → ∃ pollItems revents,
    List.Forall₂ (Describes store toLong) items pollItems ∧
    s'.polls = s.polls ++ [⟨pollItems, timeout.map toTimeval, revents⟩] ∧
    match revents with
    | some list => outcome = .ok (keyedResults items list)
    | none => ∃ raised, outcome = .error raised
  refused : (∃ item ∈ items, Unacceptable store item.2) →
    (∃ raised, outcome = .error raised) ∧ s'.polls = s.polls
  released : ∃ blocks, blocks.length = heapBlocks items ∧
    s'.allocated = s.allocated ++ blocks ∧ s'.freed = s.freed ++ blocks

theorem itemBuffer_spec (items : HashTable) (s : PollLog) :
    Always (Polling store toLong) (itemBuffer items.length) (fun buffer s' =>
      buffer.toList.length = heapBlocks items ∧
        s' = { s with allocated := s.allocated ++ buffer.toList }) s := by
  unfold itemBuffer heapBlocks
  by_cases small : items.length ≤ stackItems
  · rw [if_pos small, if_pos small]
    exact .pure ⟨rfl, by simp⟩
  · rw [if_neg small, if_neg small]
    refine always_call_bind.mpr fun address s₁ allocated => .pure ⟨rfl, ?_⟩
    exact allocated

theorem poll_nonempty {items : HashTable} (nonempty : items ≠ []) (timeout : Option Float)
    (s : PollLog) :
    Always (Polling store toLong) (poll items timeout) (Exact store toLong items timeout s) s := by
  have counted : items.length ≠ 0 := fun zero => nonempty (List.length_eq_zero_iff.mp zero)
  unfold poll
  dsimp only
  rw [if_neg counted]
  refine .bind (itemBuffer_spec items s) fun buffer s₁ ⟨blocks, allocated⟩ => ?_
  obtain rfl : s₁ = _ := allocated
  refine .bind (fillItems_spec buffer 0 items _) fun outcome s₂ filled => ?_
  rcases filled with ⟨pollItems, rfl, described, rfl⟩ | ⟨⟨raised, rfl⟩, bad, rfl⟩
  · have good : ∀ item ∈ items, ¬ Unacceptable store item.2 :=
      ((List.forall₂_and_left items pollItems).mp
        (described.imp fun _ _ describes => ⟨describes.not_unacceptable, describes⟩)).1
    refine always_call_bind.mpr fun revents s₃ polled => ?_
    obtain ⟨-, rfl⟩ := polled
    cases revents with
    | none =>
        refine (release_throwing (phpQuicThrowSsl_calls _)).mono fun outcome s' ended => ?_
        obtain ⟨raised, rfl⟩ := ended
        exact {
          accepted := fun _ => ⟨pollItems, none, described, rfl, raised⟩
          refused := fun ⟨item, member, bad⟩ => absurd bad (good item member)
          released := ⟨buffer.toList, blocks, rfl, rfl⟩ }
    | some list =>
        refine .bind (releaseItems_spec buffer _) fun _ s' freed => .pure ?_
        obtain rfl : s' = _ := freed
        exact {
          accepted := fun _ => ⟨pollItems, some list, described, rfl, by rw [collect_eq]⟩
          refused := fun ⟨item, member, bad⟩ => absurd bad (good item member)
          released := ⟨buffer.toList, blocks, rfl, rfl⟩ }
  · refine .pure {
      accepted := fun all => ?_
      refused := fun _ => ⟨⟨raised, rfl⟩, rfl⟩
      released := ⟨buffer.toList, blocks, rfl, rfl⟩ }
    obtain ⟨item, member, bad⟩ := bad
    exact absurd (all item member) bad

end Call

/-- **`poll()` maps its results back onto the caller's keys, or has no effect.** -/
theorem poll_exact (store : ObjectId → QuicObject) (toLong : Zval → Int) (items : HashTable)
    (timeout : Option Float) {s s' : PollLog} {outcome : Outcome (List (ArrayKey × Int))}
    (run : Run (Polling store toLong) (poll items timeout) s outcome s') :
    (items = [] → outcome = .ok [] ∧ s' = s) ∧
      (items ≠ [] → Exact store toLong items timeout s outcome s') := by
  constructor
  · rintro rfl
    exact run_done_iff.mp run
  · intro nonempty
    exact poll_nonempty nonempty timeout s outcome s' run

/-! ### Two tables -/

/-- An environment in which every item becomes readable. -/
def readable (store : ObjectId → QuicObject) : Handler openssl PollLog := fun s call =>
  match call with
  | .loadObject id => (store id, s)
  | .zvalGetLong value => (plainLong value, s)
  | .emalloc => ((1 : Nat), { s with allocated := s.allocated ++ [1] })
  | .efree address => ((), { s with freed := s.freed ++ [address] })
  | .sslPoll items timeout =>
      let revents := some (items.map fun _ => 1)
      (revents, { s with polls := s.polls ++ [⟨items, timeout, revents⟩] })
  | call => (succeeding call, s)

theorem readable_allowed (store : ObjectId → QuicObject) (s : PollLog) (call : Call) :
    Polling store plainLong s call (readable store s call).1 (readable store s call).2 := by
  cases call with
  | loadObject id => exact ⟨rfl, rfl⟩
  | zvalGetLong value => exact ⟨rfl, rfl⟩
  | sslPoll items timeout =>
      refine ⟨fun list same => ?_, rfl⟩
      cases same
      exact List.length_map _
  | _ => exact rfl

def emptyLog : PollLog := ⟨[], [], []⟩

/-- An object store with one live connection. -/
def oneConnection (id : ObjectId) : QuicObject :=
  if id = 7 then .connection { quicConnectionCreate with ssl := some 1 } else .foreign

/-- `['rx' => [$connection, 1]]`. -/
def oneItem (object : Zval) : HashTable :=
  [(.name (text "rx"), .array [(.index 0, object), (.index 1, .long 1)])]

theorem poll_exact_example :
    ∃ pollItems revents,
      (exec (readable oneConnection) (poll (oneItem (.object 7 true)) none) emptyLog).2.polls =
        [⟨pollItems, none, revents⟩] := by
  have run := run_exec (readable_allowed oneConnection) (poll (oneItem (.object 7 true)) none) emptyLog
  have exactly := (poll_exact oneConnection plainLong _ none run).2 (List.cons_ne_nil _ _)
  obtain ⟨pollItems, revents, -, polls, -⟩ := exactly.accepted fun item member => by
    cases List.mem_singleton.mp member
    exact ⟨7, true, .long 1, 1, rfl, rfl⟩
  exact ⟨pollItems, revents, polls⟩

/-- **The empty table**: each of its elements is acceptable, and yet `SSL_poll` is not called. -/
theorem poll_empty_unpolled :
    ∃ s', Run (Polling oneConnection plainLong) (poll [] none) emptyLog (.ok []) s' ∧
      (∀ item ∈ ([] : HashTable), Acceptable oneConnection item.2) ∧
      ¬ ∃ call, s'.polls = emptyLog.polls ++ [call] := by
  refine ⟨emptyLog, .done _ _, fun _ member => absurd member List.not_mem_nil, ?_⟩
  rintro ⟨call, polls⟩
  cases polls

/-! ### References -/

/-- Make a slot a PHP reference to its value; a reference stays as it is. -/
def makeRef : Zval → Zval
  | .reference target => .reference target
  | value => .reference value

/-- The slots of one item that are made references. -/
structure SlotChoice where
  element : Bool
  object : Bool
  events : Bool
  deriving DecidableEq

def wrapSlot (chosen : Bool) (value : Zval) : Zval := if chosen then makeRef value else value

/-- The value under a key of an item. -/
def wrapAt (choice : SlotChoice) (key : ArrayKey) (value : Zval) : Zval :=
  if key = .index 0 then wrapSlot choice.object value
  else if key = .index 1 then wrapSlot choice.events value
  else value

def wrapElements (choice : SlotChoice) (elements : HashTable) : HashTable :=
  elements.map fun (key, value) => (key, wrapAt choice key value)

/-- The slots inside an element, which may be a reference already. -/
def wrapInside (choice : SlotChoice) : Zval → Zval
  | .array elements => .array (wrapElements choice elements)
  | .reference target => .reference (wrapInside choice target)
  | value => value

/-- An item with the chosen slots made references. -/
def wrapItem (pick : (ArrayKey × Zval) × SlotChoice) : ArrayKey × Zval :=
  (pick.1.1, wrapSlot pick.2.element (wrapInside pick.2 pick.1.2))

theorem zvalDeref_wrapSlot (chosen : Bool) (value : Zval) :
    zvalDeref (wrapSlot chosen value) = zvalDeref value := by
  cases chosen with
  | false => rfl
  | true => cases value <;> rfl

theorem zvalDeref_wrapInside (choice : SlotChoice) (value : Zval) :
    zvalDeref (wrapInside choice value) = wrapInside choice (zvalDeref value) := by
  induction value using zvalDeref.induct with
  | case1 target ih => rw [wrapInside, zvalDeref, zvalDeref, ih]
  | case2 value plain =>
      cases value with
      | reference target => exact absurd rfl (plain target)
      | _ => rfl

theorem lookup_wrapElements (choice : SlotChoice) (elements : HashTable) (key : ArrayKey) :
    (wrapElements choice elements).lookup key = (elements.lookup key).map (wrapAt choice key) := by
  induction elements with
  | nil => rfl
  | cons first rest ih =>
      obtain ⟨key', value⟩ := first
      unfold wrapElements at ih ⊢
      rw [List.map_cons, List.lookup_cons, List.lookup_cons, ih]
      by_cases same : key = key'
      · subst same
        rw [BEq.rfl]
        rfl
      · rw [beq_eq_false_iff_ne.mpr same]

/-- **The slots of a wrapped item** are its slots, wrapped. -/
theorem pollSlots_wrapItem (pick : (ArrayKey × Zval) × SlotChoice) :
    pollSlots (wrapItem pick).2 = (pollSlots pick.1.2).map fun (object, events) =>
      (wrapSlot pick.2.object object, wrapSlot pick.2.events events) := by
  obtain ⟨⟨key, entry⟩, choice⟩ := pick
  unfold pollSlots
  simp only [wrapItem, zvalDeref_wrapSlot, zvalDeref_wrapInside]
  cases zvalDeref entry with
  | array elements =>
      simp only [wrapInside, zendHashIndexFind, lookup_wrapElements]
      cases elements.lookup (.index 0) with
      | none => rfl
      | some object =>
          cases elements.lookup (.index 1) with
          | none => rfl
          | some events => rfl
  | _ => rfl

theorem malformedText_wrapItem (pick : (ArrayKey × Zval) × SlotChoice) :
    malformedText (wrapItem pick).2 = malformedText pick.1.2 := by
  unfold malformedText
  simp only [wrapItem, zvalDeref_wrapSlot, zvalDeref_wrapInside]
  cases zvalDeref pick.1.2 <;> rfl

/-! #### The same runs -/

variable {S : Type} {B : Behaviour openssl S}

/-- Converting a reference is converting its target. -/
def Transparent (B : Behaviour openssl S) : Prop :=
  ∀ s target number s',
    B s (.zvalGetLong (.reference target)) number s' ↔ B s (.zvalGetLong target) number s'

theorem Transparent.wrapSlot (transparent : Transparent B) (chosen : Bool) (value : Zval) :
    Equivalent B (ask (.zvalGetLong (wrapSlot chosen value))) (ask (.zvalGetLong value)) := by
  cases chosen with
  | false => exact .refl _
  | true =>
      cases value with
      | reference target => exact .refl _
      | _ =>
          intro s number s'
          show Run B (.ask _ _) _ _ _ ↔ Run B (.ask _ _) _ _ _
          rw [run_ask_iff, run_ask_iff]
          exact exists_congr fun answer => exists_congr fun s₁ =>
            and_congr_left fun _ => transparent s _ answer s₁

/-- **The loop does not see the references**, as long as they are not in an object slot. -/
theorem fillItems_wrapItem (transparent : Transparent B) (buffer : ItemBuffer) (index : Nat)
    (picks : List ((ArrayKey × Zval) × SlotChoice))
    (plain : ∀ pick ∈ picks, pick.2.object = false) :
    Equivalent B (fillItems buffer index (picks.map Prod.fst))
      (fillItems buffer index (picks.map wrapItem)) := by
  induction picks generalizing index with
  | nil => exact .refl _
  | cons pick rest ih =>
      have here := pollSlots_wrapItem pick
      have rest_plain : ∀ pick ∈ rest, pick.2.object = false := fun pick member =>
        plain pick (List.mem_cons_of_mem _ member)
      have object_plain : pick.2.object = false := plain pick List.mem_cons_self
      have text := malformedText_wrapItem pick
      obtain ⟨⟨key, entry⟩, choice⟩ := pick
      show Equivalent B (fillItems buffer index ((key, entry) :: rest.map Prod.fst))
        (fillItems buffer index ((key, (wrapItem ((key, entry), choice)).2) :: rest.map wrapItem))
      generalize (wrapItem ((key, entry), choice)).2 = wrapped at here text ⊢
      cases slots : pollSlots entry with
      | none =>
          rw [slots] at here
          rw [fillItems_malformed slots, fillItems_malformed here, text]
          exact .refl _
      | some both =>
          obtain ⟨object, events⟩ := both
          rw [slots] at here
          have object_plain : choice.object = false := object_plain
          have here : pollSlots wrapped = some (object, wrapSlot choice.events events) := by
            rw [here, Option.map_some, object_plain]
            rfl
          rw [fillItems_cons slots, fillItems_cons here]
          refine .bind (.refl _) fun found => ?_
          cases found with
          | none => exact .refl _
          | some desc =>
              refine .bind (fun s number s' => (transparent.wrapSlot _ _ s number s').symm)
                fun mask => ?_
              exact .bind (ih (index + 1) rest_plain) fun _ => .refl _

/-! #### An object slot -/

/-- What the loop accepts has an object in each object slot. -/
theorem fillItems_objects (buffer : ItemBuffer) (index : Nat) (items : HashTable) :
    Returns (fun outcome => ∀ pollItems, outcome = .ok pollItems →
      ∀ item ∈ items, ∃ id truth events, pollSlots item.2 = some (.object id truth, events))
      (fillItems buffer index items) := by
  induction items generalizing index with
  | nil => exact .pure fun _ _ _ member => absurd member List.not_mem_nil
  | cons item rest ih =>
      obtain ⟨key, entry⟩ := item
      cases slots : pollSlots entry with
      | none =>
          rw [fillItems_malformed slots]
          exact .bind_any fun _ => .bind_any fun _ => .pure nofun
      | some both =>
          obtain ⟨object, events⟩ := both
          rw [fillItems_cons slots]
          by_cases isObject : ∃ id truth, object = .object id truth
          · obtain ⟨id, truth, rfl⟩ := isObject
            refine .bind_any fun found => ?_
            cases found with
            | none => exact .bind_any fun _ => .bind_any fun _ => .pure nofun
            | some desc =>
                refine .bind_any fun mask => .bind (ih (index + 1)) fun outcome objects => ?_
                cases outcome with
                | error thrown => exact .pure nofun
                | ok items =>
                    refine .pure fun _ _ item member => ?_
                    rcases List.mem_cons.mp member with rfl | member
                    · exact ⟨id, truth, events, slots⟩
                    · exact objects items rfl item member
          · rw [phpQuicObjSsl_other fun id truth same => isObject ⟨id, truth, same⟩, pure_bind]
            exact .bind_any fun _ => .bind_any fun _ => .pure nofun

theorem poll_objects (items : HashTable) (timeout : Option Float) :
    Returns (fun outcome => ∀ table, outcome = .ok table →
      ∀ item ∈ items, ∃ id truth events, pollSlots item.2 = some (.object id truth, events))
      (poll items timeout) := by
  unfold poll
  dsimp only
  split
  · rename_i empty
    obtain rfl := List.length_eq_zero_iff.mp empty
    exact .pure fun _ _ _ member => absurd member List.not_mem_nil
  · refine .bind_any fun buffer => .bind (fillItems_objects buffer 0 items) fun outcome objects => ?_
    cases outcome with
    | error thrown => exact .pure nofun
    | ok pollItems =>
        refine .bind_any fun revents => ?_
        cases revents with
        | none => exact .bind_any fun _ => .bind_any fun _ => .pure nofun
        | some list => exact .bind_any fun _ => .pure fun _ _ => objects pollItems rfl

theorem collect_wrapItem (picks : List ((ArrayKey × Zval) × SlotChoice)) (revents : List Nat) :
    collect (picks.map wrapItem) revents = collect (picks.map Prod.fst) revents := by
  induction picks generalizing revents with
  | nil => rfl
  | cons pick rest ih =>
      cases revents with
      | nil => rfl
      | cons first more =>
          rw [List.map_cons, List.map_cons, collect, collect, ih]
          rfl

/-- **`poll()` is transparent to references, exactly as long as no object slot is one.** For items
that it accepts in some run, and for every choice of slots. -/
theorem poll_transparent_iff (transparent : Transparent B)
    (picks : List ((ArrayKey × Zval) × SlotChoice)) (timeout : Option Float) {s s' : S}
    {table : List (ArrayKey × Int)}
    (accepted : Run B (poll (picks.map Prod.fst) timeout) s (.ok table) s') :
    Equivalent B (poll (picks.map Prod.fst) timeout) (poll (picks.map wrapItem) timeout) ↔
      ∀ pick ∈ picks, pick.2.object = false := by
  constructor
  · intro same pick member
    have objects := (poll_objects _ _).of_run accepted table rfl
    have wrapped := (poll_objects _ _).of_run ((same s _ s').mp accepted) table rfl
    obtain ⟨id, truth, events, slots⟩ := objects pick.1 (List.mem_map_of_mem member)
    obtain ⟨id', truth', events', slots'⟩ := wrapped (wrapItem pick) (List.mem_map_of_mem member)
    rw [pollSlots_wrapItem, slots, Option.map_some] at slots'
    cases chosen : pick.2.object with
    | false => rfl
    | true =>
        rw [chosen] at slots'
        cases slots'
  · intro plain
    unfold poll
    simp only [List.length_map]
    by_cases empty : picks.length = 0
    · rw [if_pos empty, if_pos empty]
      exact .refl _
    · rw [if_neg empty, if_neg empty]
      refine .bind (.refl _) fun buffer =>
        .bind (fillItems_wrapItem transparent buffer 0 picks plain) fun outcome => ?_
      simp only [collect_wrapItem]
      exact .refl _

/-! #### One item -/

/-- `['rx' => [$connection, 1]]`, with a choice of slots. -/
def onePick (choice : SlotChoice) : List ((ArrayKey × Zval) × SlotChoice) :=
  (oneItem (.object 7 true)).map fun item => (item, choice)

theorem polling_transparent (store : ObjectId → QuicObject) : Transparent (Polling store plainLong) :=
  fun _ _ _ _ => Iff.rfl

theorem onePick_accepted (choice : SlotChoice) :
    Run (Polling oneConnection plainLong) (poll ((onePick choice).map Prod.fst) none) emptyLog
      (.ok [(.name (text "rx"), 1)]) ⟨[⟨[⟨1, 1⟩], none, some [1]⟩], [], []⟩ :=
  run_exec (readable_allowed oneConnection) (poll ((onePick choice).map Prod.fst) none) emptyLog

theorem poll_transparent_example :
    Equivalent (Polling oneConnection plainLong)
      (poll ((onePick ⟨true, false, true⟩).map Prod.fst) none)
      (poll ((onePick ⟨true, false, true⟩).map wrapItem) none) :=
  (poll_transparent_iff (polling_transparent oneConnection) (onePick ⟨true, false, true⟩) none
    (onePick_accepted _)).mpr (by decide)

/-- **`['rx' => [&$connection, 1]]`**: the same item is refused, and there is no `SSL_poll`. -/
theorem poll_object_reference :
    (∃ table s', Run (Polling oneConnection plainLong)
      (poll ((onePick ⟨false, true, false⟩).map Prod.fst) none) emptyLog (.ok table) s' ∧
      s'.polls = [⟨[⟨1, 1⟩], none, some [1]⟩]) ∧
    ∃ raised s', Run (Polling oneConnection plainLong)
      (poll ((onePick ⟨false, true, false⟩).map wrapItem) none) emptyLog (.error raised) s' ∧
      s'.polls = [] := by
  refine ⟨⟨_, _, onePick_accepted _, rfl⟩, ?_⟩
  have run := run_exec (readable_allowed oneConnection)
    (poll ((onePick ⟨false, true, false⟩).map wrapItem) none) emptyLog
  exact ⟨_, _, run, rfl⟩

end Poll

end PhpQuic
