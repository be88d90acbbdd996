/-
**Labelled transitions and what holds along all their runs.**

* `Path step s labels s'`: a run from `s` to `s'`, with the labels of its steps in order.
* `Path.invariant`: what every step keeps, every run keeps.
* `Path.labelled`: what every step says with its label, every run says of all its labels.
* `Path.relation`: what every step relates, in a reflexive and transitive relation, every run does.
* `Path.length_add_le`: a measure that every step lowers bounds the length of every run.
* `Path.refines`: where every step is matched by a run of another relation, every run is.
-/

import Mathlib.Logic.Basic

namespace Interact

variable {S L : Type}

/-- A run of a labelled transition relation. -/
inductive Path (step : S → L → S → Prop) : S → List L → S → Prop
  | nil (s : S) : Path step s [] s
  | cons {s s₁ s₂ : S} {label : L} {labels : List L} (first : step s label s₁)
      (rest : Path step s₁ labels s₂) : Path step s (label :: labels) s₂

variable {step : S → L → S → Prop}

theorem Path.single {s s' : S} {label : L} (first : step s label s') : Path step s [label] s' :=
  .cons first (.nil s')

/-- **The invariant rule.** -/
theorem Path.invariant {holds : S → Prop}
    (kept : ∀ s label s', holds s → step s label s' → holds s') {s s' : S} {labels : List L}
    (path : Path step s labels s') (start : holds s) : holds s' := by
  induction path with
  | nil => exact start
  | cons first _ ih => exact ih (kept _ _ _ start first)

/-- The rule for what is seen of a run. -/
theorem Path.labelled {holds : S → Prop} {seen : L → Prop}
    (kept : ∀ s label s', holds s → step s label s' → holds s')
    (shown : ∀ s label s', holds s → step s label s' → seen label) {s s' : S} {labels : List L}
    (path : Path step s labels s') (start : holds s) : ∀ label ∈ labels, seen label := by
  induction path with
  | nil => exact fun _ member => absurd member List.not_mem_nil
  | cons first _ ih =>
      exact List.forall_mem_cons.mpr ⟨shown _ _ _ start first, ih (kept _ _ _ start first)⟩

/-- The rule for what a run does between its ends. -/
theorem Path.relation {R : S → S → Prop} (refl : ∀ s, R s s)
    (trans : ∀ s₁ s₂ s₃, R s₁ s₂ → R s₂ s₃ → R s₁ s₃)
    (kept : ∀ s label s', step s label s' → R s s') {s s' : S} {labels : List L}
    (path : Path step s labels s') : R s s' := by
  induction path with
  | nil => exact refl _
  | cons first _ ih => exact trans _ _ _ (kept _ _ _ first) ih

/-- **The termination rule**, for a measure that is lowered from states with an invariant. -/
theorem Path.length_add_le {holds : S → Prop} (measure : S → Nat)
    (kept : ∀ s label s', holds s → step s label s' → holds s')
    (lowered : ∀ s label s', holds s → step s label s' → measure s' < measure s) {s s' : S}
    {labels : List L} (path : Path step s labels s') (start : holds s) :
    labels.length + measure s' ≤ measure s := by
  induction path with
  | nil => exact Nat.le_of_eq (Nat.zero_add _)
  | cons first _ ih =>
      have here := lowered _ _ _ start first
      have later := ih (kept _ _ _ start first)
      rw [List.length_cons]
      omega

theorem Path.append {s s₁ s₂ : S} {labels more : List L} (first : Path step s labels s₁)
    (second : Path step s₁ more s₂) : Path step s (labels ++ more) s₂ := by
  induction first with
  | nil => exact second
  | cons head _ ih => exact .cons head (ih second)

/-- **The refinement rule.** A step may be matched by any number of coarser steps; a run is then
matched by all of theirs, in order. -/
theorem Path.refines {S' L' : Type} {coarse : S' → L' → S' → Prop} {holds : S → Prop}
    (view : S → S') (observed : L → List L')
    (kept : ∀ s label s', holds s → step s label s' → holds s')
    (matched : ∀ s label s', holds s → step s label s' →
      Path coarse (view s) (observed label) (view s')) {s s' : S} {labels : List L}
    (path : Path step s labels s') (start : holds s) :
    Path coarse (view s) (labels.flatMap observed) (view s') := by
  induction path with
  | nil => exact .nil _
  | cons first _ ih =>
      rw [List.flatMap_cons]
      exact (matched _ _ _ start first).append (ih (kept _ _ _ start first))

end Interact
