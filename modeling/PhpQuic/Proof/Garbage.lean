/-
**The cycle collector sees the references of the objects as they are.**

A script has values of its own, which hold each other and the extension's objects: arrays, closures,
objects of other classes. The collector takes the count of every object from its header and asks the
`get_gc` handlers what the objects hold.

* `collector_exact`: in every state a run can reach, whatever the script's values are, the handlers
  and the counts agree with the references there are. So no object is collected that the script can
  reach or that an open php_stream belongs to, and every other object is.
-/

import Mathlib.Data.Finset.Sum
import PhpQuic.Memory.Collector
import PhpQuic.Proof.Counting
import PhpQuic.Source.Operation

namespace PhpQuic

open Interact Memory

/-! ### The references of a state -/

/-- A value of the script, or an object of the extension. -/
abbrev ScriptNode (σ : Type) : Type := σ ⊕ ObjectId

/-- The script's values that the collector can visit, what each of them holds, and the references
there are from variables, the stack and resources. -/
structure Script (σ : Type) where
  values : Finset σ
  held : σ → List (ScriptNode σ)
  roots : ScriptNode σ → Nat

variable {σ : Type}

namespace Heap

def stored (s : Heap) : Finset ObjectId := (Finset.range s.bound).filter fun id => (s.object id).isSome

/-- What refers to what. A php_stream holds its object from outside. -/
def graph (s : Heap) (script : Script σ) : Graph (ScriptNode σ) where
  nodes := script.values.disjSum s.stored
  held
    | .inl value => script.held value
    | .inr id => (s.parentOf id).toList.map .inr
  roots
    | .inl value => script.roots (.inl value)
    | .inr id => script.roots (.inr id) + s.adapters id

/-- The references the script has on an object are those from its variables and its values. -/
def Agrees [DecidableEq σ] (s : Heap) (script : Script σ) : Prop :=
  ∀ id object, s.object id = some object →
    s.user id = script.roots (.inr id) +
      ∑ value ∈ script.values, references (script.held value) (.inr id)

/-- The collector: what the values hold is the engine's business, the objects answer with their
counts and their handlers. -/
def collector [DecidableEq σ] (s : Heap) (script : Script σ) (visited : Finset (ScriptNode σ)) :
    Collector (ScriptNode σ) where
  visited := visited
  count
    | .inl value => (s.graph script).count (.inl value)
    | .inr id => s.refcount id
  reports
    | .inl value => script.held value
    | .inr id => ((s.object id).elim [] QuicObject.getGc).map .inr

end Heap

/-- **The handlers report the one reference the object holds.** -/
theorem QuicObject.getGc_eq (object : QuicObject) : object.getGc = object.parent.toList := by
  cases object with
  | connection obj =>
      obtain ⟨_, _, _, _, listener⟩ := obj
      cases listener <;> rfl
  | stream obj =>
      obtain ⟨_, connection⟩ := obj
      cases connection <;> rfl
  | listener | foreign => rfl

namespace Heap

variable {s : Heap}

theorem mem_stored (tallied : s.Tallied) {id : ObjectId} :
    id ∈ s.stored ↔ ∃ object, s.object id = some object := by
  unfold stored
  rw [Finset.mem_filter, Finset.mem_range, Option.isSome_iff_exists]
  exact and_iff_right_of_imp fun ⟨object, here⟩ => tallied.bounded id object here

variable [DecidableEq σ] {script : Script σ}

variable (script) in
/-- The references of the extension's objects. -/
theorem sum_parents (id : ObjectId) :
    ∑ child ∈ s.stored, references ((s.graph script).held (.inr child)) (.inr id) = s.children id := by
  have one (child : ObjectId) : references ((s.graph script).held (.inr child)) (.inr id) =
      if s.parentOf child = some id then 1 else 0 := by
    show references ((s.parentOf child).toList.map Sum.inr) _ = _
    cases s.parentOf child with
    | none => rfl
    | some parent => simp [references, List.count_singleton]
  have refers : s.stored.filter (fun child => s.parentOf child = some id) =
      (Finset.range s.bound).filter fun child => s.parentOf child = some id := by
    refine Finset.ext fun child => ?_
    unfold stored
    rw [Finset.mem_filter, Finset.mem_filter, Finset.mem_filter]
    refine ⟨fun ⟨⟨inside, _⟩, same⟩ => ⟨inside, same⟩, fun ⟨inside, same⟩ => ⟨⟨inside, ?_⟩, same⟩⟩
    obtain ⟨object, here, _⟩ := Option.bind_eq_some_iff.mp same
    exact Option.isSome_iff_exists.mpr ⟨object, here⟩
  rw [Finset.sum_congr rfl fun child _ => one child, ← Finset.card_filter, refers]
  rfl

/-- **The count of an object is the number of references on it.** -/
theorem graph_count (tallied : s.Tallied) (agrees : s.Agrees script) {id : ObjectId}
    (here : id ∈ s.stored) : s.refcount id = (s.graph script).count (.inr id) := by
  obtain ⟨object, stored⟩ := (mem_stored tallied).mp here
  have counted := tallied.counted id object stored
  have user := agrees id object stored
  have parents := s.sum_parents script id
  unfold Graph.count
  show _ = script.roots (.inr id) + s.adapters id + _
  rw [show (s.graph script).nodes = script.values.disjSum s.stored from rfl,
    Finset.sum_disjSum, parents]
  show _ = _ + (∑ value ∈ script.values, references (script.held value) (.inr id) + s.children id)
  omega

/-- What the collector is told is so. -/
theorem collector_of_tallied (tallied : s.Tallied) (agrees : s.Agrees script)
    {visited : Finset (ScriptNode σ)} (inside : visited ⊆ (s.graph script).nodes) :
    (s.collector script visited).Exact (s.graph script) := by
  refine ⟨inside, fun node here => ?_, fun node _ => ?_⟩
  · cases node with
    | inl value => rfl
    | inr id => exact graph_count tallied agrees (Finset.inr_mem_disjSum.mp (inside here))
  · cases node with
    | inl value => rfl
    | inr id =>
        show ((s.object id).elim [] QuicObject.getGc).map Sum.inr = (s.parentOf id).toList.map Sum.inr
        unfold parentOf
        cases s.object id with
        | none => rfl
        | some object => rw [Option.elim_some, object.getGc_eq, Option.bind_some]

end Heap

/-! ### Every run -/

/-- **What the collector takes is what nothing reaches.** -/
theorem collector_exact [DecidableEq σ] {start s : Heap} {events : List LifeEvent}
    (empty : ∀ id, start.object id = none) (path : Path LifeStep start events s)
    {script : Script σ} (agrees : s.Agrees script) {visited : Finset (ScriptNode σ)}
    (inside : visited ⊆ (s.graph script).nodes) :
    (∀ node, (s.collector script visited).Garbage node → ¬ (s.graph script).Reached node ∧
      ∀ holder ∈ (s.graph script).nodes, node ∈ (s.graph script).held holder →
        (s.collector script visited).Garbage holder) ∧
    ((∀ node ∈ (s.graph script).nodes, ¬ (s.graph script).Reached node → node ∈ visited) →
      ∀ node, (s.collector script visited).Garbage node ↔
        node ∈ (s.graph script).nodes ∧ ¬ (s.graph script).Reached node) := by
  have exact := Heap.collector_of_tallied (path_tallied empty path) agrees inside
  refine ⟨fun node garbage => ⟨exact.safe.unreached garbage, (exact.safe.held garbage).2⟩, ?_⟩
  exact fun all => exact.garbage_iff_unreached all

/-! ### A connection that only a cycle holds -/

/-- The script has a variable with the listener, and an array that holds itself and the connection,
and no variable has. -/
def cycleScript : Script Unit where
  values := {()}
  held := fun _ => [.inl (), .inr 1]
  roots := fun node => if node = .inr 0 then 1 else 0

theorem acceptedHeap_stored {id : ObjectId} {object : QuicObject}
    (stored : acceptedHeap.object id = some object) : id = 0 ∨ id = 1 := by
  have tallied : acceptedHeap.Tallied := path_tallied (fun _ => rfl)
    (.cons (.create _) (.cons listeningHeap_step (.single acceptedHeap_step)))
  have inside : id < 2 := tallied.bounded id object stored
  exact Nat.le_one_iff_eq_zero_or_eq_one.mp (Nat.lt_succ_iff.mp inside)

theorem cycleScript_agrees : acceptedHeap.Agrees cycleScript := by
  intro id object stored
  rcases acceptedHeap_stored stored with rfl | rfl
  · rfl
  · rfl

/-- The connection is collected with the array, and the listener it was accepted from is not. -/
theorem collector_exact_cycle :
    (acceptedHeap.collector cycleScript (acceptedHeap.graph cycleScript).nodes).Garbage (.inr 1) ∧
      ¬ (acceptedHeap.collector cycleScript (acceptedHeap.graph cycleScript).nodes).Garbage
        (.inr 0) := by
  have exact := (collector_exact (fun _ => rfl)
    (.cons (.create _) (.cons listeningHeap_step (.single acceptedHeap_step)))
    cycleScript_agrees (Finset.Subset.refl _)).2 fun _ here _ => here
  have only {node : ScriptNode Unit} (reached : (acceptedHeap.graph cycleScript).Reached node) :
      node = .inr 0 := by
    induction reached with
    | @base node rooted =>
        by_contra other
        cases node with
        | inl => cases rooted
        | inr id =>
            have adapters : acceptedHeap.adapters id = 0 := by
              show Function.update (Function.update (fun _ => 0) 0 0) 1 0 id = 0
              simp [Function.update_apply]
            have none : (acceptedHeap.graph cycleScript).roots (.inr id) = 0 := by
              show (if (Sum.inr id : ScriptNode Unit) = .inr 0 then 1 else 0) +
                acceptedHeap.adapters id = 0
              rw [if_neg other, adapters]
            omega
    | held _ _ holds ih =>
        subst ih
        cases holds
  refine ⟨(exact (.inr 1)).mpr ⟨by decide, fun reached => ?_⟩, fun garbage => ?_⟩
  · cases only reached
  · exact ((exact (.inr 0)).mp garbage).2 (.base (by decide))

end PhpQuic
