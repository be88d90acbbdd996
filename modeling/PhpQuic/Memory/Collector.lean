/-
**A collector of cycles for counted references, by trial deletion.**

The count of a node is the number of references on it, those of other nodes and those from outside
the graph. The collector visits some nodes, takes off their counts the references that visited nodes
report, keeps what has a count left and what kept nodes report, and takes the rest for garbage.

* `Collector.Safe.unreached`: if no node reports more than it holds, nothing that is reached is
  garbage; `Collector.Safe.held`: and only garbage refers to garbage.
* `Collector.Exact.garbage_iff`: if every visited node reports what it holds, the garbage is what is
  not reached from outside the visited nodes; `Collector.Exact.garbage_iff_unreached`: all that is
  not reached, if it was visited.
-/

import Mathlib.Algebra.Order.BigOperators.Group.Finset
import Mathlib.Data.List.Count

namespace Memory

variable {Node : Type}

/-- How many of the references in `held` are on `node`. -/
def references [DecidableEq Node] (held : List Node) (node : Node) : Nat := held.count node

theorem references_pos [DecidableEq Node] {held : List Node} {node : Node} :
    0 < references held node ↔ node ∈ held :=
  List.count_pos_iff

theorem references_eq_zero [DecidableEq Node] {held : List Node} {node : Node} :
    references held node = 0 ↔ node ∉ held :=
  List.count_eq_zero

/-- Nodes, the references each of them holds, and how many there are on each from outside. -/
structure Graph (Node : Type) where
  nodes : Finset Node
  held : Node → List Node
  roots : Node → Nat

namespace Graph

variable (g : Graph Node)

/-- All references on a node. -/
def count [DecidableEq Node] (node : Node) : Nat :=
  g.roots node + ∑ holder ∈ g.nodes, references (g.held holder) node

/-- Reached from `base`, along the references. -/
inductive ReachedFrom (base : Node → Prop) : Node → Prop
  | base {node : Node} (here : base node) : ReachedFrom base node
  | held {holder node : Node} (reached : ReachedFrom base holder) (inside : holder ∈ g.nodes)
      (holds : node ∈ g.held holder) : ReachedFrom base node

/-- Reached from outside the graph. -/
def Reached : Node → Prop := g.ReachedFrom fun node => 0 < g.roots node

/-- There is a reference on the node from outside `visited`. -/
def HeldOutside (visited : Finset Node) (node : Node) : Prop :=
  0 < g.roots node ∨ ∃ holder ∈ g.nodes, holder ∉ visited ∧ node ∈ g.held holder

variable {g}

theorem Reached.outside {node : Node} (reached : g.Reached node) (visited : Finset Node) :
    g.ReachedFrom (g.HeldOutside visited) node := by
  induction reached with
  | base rooted => exact .base (.inl rooted)
  | held _ stored holds ih => exact .held ih stored holds

/-- If all that is not reached is visited, outside is where nodes are reached from. -/
theorem ReachedFrom.reached {visited : Finset Node} {node : Node}
    (all : ∀ node ∈ g.nodes, ¬ g.Reached node → node ∈ visited)
    (outside : g.ReachedFrom (g.HeldOutside visited) node) : g.Reached node := by
  induction outside with
  | base held =>
      rcases held with rooted | ⟨holder, stored, unvisited, holds⟩
      · exact .base rooted
      · have reached : g.Reached holder := by
          by_contra lost
          exact unvisited (all holder stored lost)
        exact .held reached stored holds
  | held _ stored holds ih => exact .held ih stored holds

end Graph

/-! ### The collector -/

/-- The nodes a collector visits, their counts, and the references each of them reports. -/
structure Collector (Node : Type) where
  visited : Finset Node
  count : Node → Nat
  reports : Node → List Node

namespace Collector

variable [DecidableEq Node] (c : Collector Node)

/-- What is left of the count when the references the visited nodes report are taken off. -/
def trial (node : Node) : Nat :=
  c.count node - ∑ holder ∈ c.visited, references (c.reports holder) node

/-- What the collector keeps. -/
inductive Kept : Node → Prop
  | counted {node : Node} (inside : node ∈ c.visited) (left : 0 < c.trial node) : Kept node
  | reported {holder node : Node} (kept : Kept holder) (inside : node ∈ c.visited)
      (listed : node ∈ c.reports holder) : Kept node

/-- What it collects. -/
def Garbage (node : Node) : Prop := node ∈ c.visited ∧ ¬ c.Kept node

variable {c} {g : Graph Node}

theorem Kept.mem {node : Node} (kept : c.Kept node) : node ∈ c.visited := by
  cases kept with
  | counted inside _ => exact inside
  | reported _ inside _ => exact inside

/-! ### Nodes that report no more than they hold -/

/-- The counts are those of the graph, and no node reports more than it holds. -/
structure Safe (c : Collector Node) (g : Graph Node) : Prop where
  inside : c.visited ⊆ g.nodes
  counted : ∀ node ∈ c.visited, c.count node = g.count node
  reports : ∀ holder ∈ c.visited, ∀ node,
    references (c.reports holder) node ≤ references (g.held holder) node

namespace Safe

variable (safe : c.Safe g)
include safe

/-- What the visited nodes report is among what the nodes hold. -/
theorem reported_le (node : Node) : ∑ holder ∈ c.visited, references (c.reports holder) node ≤
    ∑ holder ∈ g.nodes, references (g.held holder) node :=
  calc ∑ holder ∈ c.visited, references (c.reports holder) node
      ≤ ∑ holder ∈ c.visited, references (g.held holder) node :=
        Finset.sum_le_sum fun holder there => safe.reports holder there node
    _ ≤ ∑ holder ∈ g.nodes, references (g.held holder) node := Finset.sum_le_sum_of_subset safe.inside

/-- A reference that was not reported is still counted. -/
theorem reported_lt {holder node : Node} (stored : holder ∈ g.nodes)
    (holds : node ∈ g.held holder) (unreported : holder ∈ c.visited → node ∉ c.reports holder) :
    ∑ holder ∈ c.visited, references (c.reports holder) node <
      ∑ holder ∈ g.nodes, references (g.held holder) node := by
  have held : 0 < references (g.held holder) node := references_pos.mpr holds
  by_cases there : holder ∈ c.visited
  · have none : references (c.reports holder) node = 0 := references_eq_zero.mpr (unreported there)
    have fewer : ∑ holder ∈ c.visited, references (c.reports holder) node <
        ∑ holder ∈ c.visited, references (g.held holder) node :=
      Finset.sum_lt_sum (fun holder there => safe.reports holder there node)
        ⟨holder, there, none ▸ held⟩
    exact fewer.trans_le (Finset.sum_le_sum_of_subset safe.inside)
  · have fewer : ∑ holder ∈ c.visited, references (g.held holder) node <
        ∑ holder ∈ g.nodes, references (g.held holder) node :=
      Finset.sum_lt_sum_of_subset safe.inside stored there held fun _ _ _ => Nat.zero_le _
    exact (Finset.sum_le_sum fun holder there => safe.reports holder there node).trans_lt fewer

theorem trial_of_unreported {holder node : Node} (here : node ∈ c.visited)
    (stored : holder ∈ g.nodes) (holds : node ∈ g.held holder)
    (unreported : holder ∈ c.visited → node ∉ c.reports holder) : 0 < c.trial node := by
  have fewer := safe.reported_lt stored holds unreported
  unfold trial
  rw [safe.counted node here, Graph.count]
  omega

/-- A visited node is kept if it is held from outside. -/
theorem trial_of_outside {node : Node} (here : node ∈ c.visited)
    (outside : g.HeldOutside c.visited node) : 0 < c.trial node := by
  rcases outside with rooted | ⟨holder, stored, unvisited, holds⟩
  · have all := safe.reported_le node
    unfold trial
    rw [safe.counted node here, Graph.count]
    omega
  · exact safe.trial_of_unreported here stored holds fun there => absurd there unvisited

/-- **What is reached from outside is kept.** -/
theorem kept {node : Node} (reached : g.ReachedFrom (g.HeldOutside c.visited) node)
    (here : node ∈ c.visited) : c.Kept node := by
  induction reached with
  | base outside => exact .counted here (safe.trial_of_outside here outside)
  | @held holder node _ stored holds ih =>
      by_cases reported : holder ∈ c.visited ∧ node ∈ c.reports holder
      · exact .reported (ih reported.1) here reported.2
      · exact .counted here (safe.trial_of_unreported here stored holds
          fun there listed => reported ⟨there, listed⟩)

/-- **Nothing that is reached is garbage.** -/
theorem unreached {node : Node} (garbage : c.Garbage node) : ¬ g.Reached node :=
  fun reached => garbage.2 (safe.kept (reached.outside c.visited) garbage.1)

/-- **Only garbage refers to garbage.** -/
theorem held {node : Node} (garbage : c.Garbage node) :
    g.roots node = 0 ∧ ∀ holder ∈ g.nodes, node ∈ g.held holder → c.Garbage holder := by
  obtain ⟨here, lost⟩ := garbage
  have unheld : ¬ g.HeldOutside c.visited node :=
    fun outside => lost (safe.kept (.base outside) here)
  refine ⟨Nat.eq_zero_of_not_pos fun rooted => unheld (.inl rooted), fun holder stored holds => ?_⟩
  have there : holder ∈ c.visited := by
    by_contra unvisited
    exact unheld (.inr ⟨holder, stored, unvisited, holds⟩)
  refine ⟨there, fun kept => lost ?_⟩
  by_cases reported : node ∈ c.reports holder
  · exact .reported kept here reported
  · exact .counted here (safe.trial_of_unreported here stored holds fun _ => reported)

end Safe

/-! ### Nodes that report what they hold -/

/-- The counts are those of the graph, and every node reports what it holds. -/
structure Exact (c : Collector Node) (g : Graph Node) : Prop where
  inside : c.visited ⊆ g.nodes
  counted : ∀ node ∈ c.visited, c.count node = g.count node
  reports : ∀ holder ∈ c.visited, c.reports holder = g.held holder

namespace Exact

variable (exact : c.Exact g)
include exact

theorem safe : c.Safe g :=
  ⟨exact.inside, exact.counted, fun holder there node => by rw [exact.reports holder there]⟩

/-- What is left of the count are the references from outside. -/
theorem outside_of_trial {node : Node} (here : node ∈ c.visited) (left : 0 < c.trial node) :
    g.HeldOutside c.visited node := by
  by_contra unheld
  have rooted : g.roots node = 0 := Nat.eq_zero_of_not_pos fun rooted => unheld (.inl rooted)
  have elsewhere : ∑ holder ∈ g.nodes \ c.visited, references (g.held holder) node = 0 := by
    refine Finset.sum_eq_zero fun holder there => references_eq_zero.mpr fun holds => ?_
    obtain ⟨stored, unvisited⟩ := Finset.mem_sdiff.mp there
    exact unheld (.inr ⟨holder, stored, unvisited, holds⟩)
  have split := Finset.sum_sdiff (f := fun holder => references (g.held holder) node) exact.inside
  have reported : ∑ holder ∈ c.visited, references (c.reports holder) node =
      ∑ holder ∈ c.visited, references (g.held holder) node :=
    Finset.sum_congr rfl fun holder there => by rw [exact.reports holder there]
  unfold trial at left
  rw [exact.counted node here, Graph.count] at left
  omega

theorem reached_of_kept {node : Node} (kept : c.Kept node) :
    g.ReachedFrom (g.HeldOutside c.visited) node := by
  induction kept with
  | counted inside left => exact .base (exact.outside_of_trial inside left)
  | @reported holder node kept _ listed ih =>
      exact .held ih (exact.inside kept.mem) (exact.reports holder kept.mem ▸ listed)

/-- **The garbage is what is not reached from outside the visited nodes.** -/
theorem garbage_iff (node : Node) : c.Garbage node ↔
    node ∈ c.visited ∧ ¬ g.ReachedFrom (g.HeldOutside c.visited) node :=
  and_congr_right fun here => not_congr
    ⟨exact.reached_of_kept, fun reached => exact.safe.kept reached here⟩

/-- **With everything visited that is not reached, that is the garbage.** -/
theorem garbage_iff_unreached (all : ∀ node ∈ g.nodes, ¬ g.Reached node → node ∈ c.visited)
    (node : Node) : c.Garbage node ↔ node ∈ g.nodes ∧ ¬ g.Reached node := by
  rw [exact.garbage_iff]
  constructor
  · rintro ⟨here, lost⟩
    exact ⟨exact.inside here, fun reached => lost (reached.outside c.visited)⟩
  · rintro ⟨stored, unreached⟩
    exact ⟨all node stored unreached, fun outside => unreached (outside.reached all)⟩

end Exact

end Collector

end Memory
