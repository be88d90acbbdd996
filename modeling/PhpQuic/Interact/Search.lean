/-
**First-fit search over a list of candidates.**

* `firstFit attempt candidates`: attempt one candidate after the other, and stop at the first that
  works.
* `always_firstFit`: if an attempt works exactly for the positions in `works`, and leaves the state
  as after one more failure otherwise, the search ends at the first position in `works`, or has
  failed at all of them.
-/

import PhpQuic.Interact.Program

namespace Interact

variable {I : Interface} {α β S : Type}

/-- Attempt the candidates in order, up to the first that works. -/
def firstFit (attempt : α → Program I (Option β)) : List α → Program I (Option (β × α))
  | [] => pure none
  | candidate :: rest => attempt candidate >>= fun found =>
    match found with
    | some value => pure (some (value, candidate))
    | none => firstFit attempt rest

/-- The candidate at `position` is the first that works. -/
structure FirstFit (works : Nat → Prop) (candidates : List α) (position : Nat) (candidate : α) :
    Prop where
  listed : candidates[position]? = some candidate
  here : works position
  before : ∀ earlier, earlier < position → ¬ works earlier

/-- How one attempt goes: it works and has chosen a value, or it has failed once more. -/
structure Attempted (works : Nat → Prop) (failed : Nat → S → Prop)
    (chosen : Nat → α → β → S → Prop) (position : Nat) (candidate : α) (found : Option β) (s : S) :
    Prop where
  fails : found = none → ¬ works position ∧ failed (position + 1) s
  succeeds : ∀ value, found = some value → works position ∧ chosen position candidate value s

/-- How a search goes. -/
inductive Searched (works : Nat → Prop) (failed : Nat → S → Prop) (chosen : Nat → α → β → S → Prop)
    (candidates : List α) : Option (β × α) → S → Prop
  | found {position : Nat} {candidate : α} {value : β} {s : S}
      (first : FirstFit works candidates position candidate)
      (taken : chosen position candidate value s) :
      Searched works failed chosen candidates (some (value, candidate)) s
  | exhausted {s : S} (without : ∀ position, position < candidates.length → ¬ works position)
      (ended : failed candidates.length s) : Searched works failed chosen candidates none s

variable {B : Behaviour I S} {attempt : α → Program I (Option β)} {works : Nat → Prop}
  {failed : Nat → S → Prop} {chosen : Nat → α → β → S → Prop}

/-- The rest of a search whose first attempts have failed. -/
theorem always_firstFit_rest
    (step : ∀ position candidate s, failed position s →
      Always B (attempt candidate) (Attempted works failed chosen position candidate) s)
    (tried rest : List α) {s : S} (without : ∀ position, position < tried.length → ¬ works position)
    (start : failed tried.length s) :
    Always B (firstFit attempt rest) (Searched works failed chosen (tried ++ rest)) s := by
  induction rest generalizing tried s with
  | nil =>
      rw [List.append_nil]
      exact .pure (.exhausted without start)
  | cons candidate rest ih =>
      refine .bind (step tried.length candidate s start) fun found s₁ attempted => ?_
      cases found with
      | some value =>
          obtain ⟨worked, taken⟩ := attempted.succeeds value rfl
          refine .pure (.found ⟨?_, worked, without⟩ taken)
          rw [List.getElem?_append_right (Nat.le_refl _), Nat.sub_self, List.getElem?_cons_zero]
      | none =>
          obtain ⟨missed, later⟩ := attempted.fails rfl
          have longer : (tried ++ [candidate]).length = tried.length + 1 := List.length_append
          rw [List.append_cons]
          refine ih (tried ++ [candidate]) (fun position below => ?_) (longer ▸ later)
          obtain earlier | rfl := Nat.lt_succ_iff_lt_or_eq.mp (longer ▸ below)
          · exact without position earlier
          · exact missed

/-- **The rule of the search.** -/
theorem always_firstFit
    (step : ∀ position candidate s, failed position s →
      Always B (attempt candidate) (Attempted works failed chosen position candidate) s)
    (candidates : List α) {s : S} (start : failed 0 s) :
    Always B (firstFit attempt candidates) (Searched works failed chosen candidates) s :=
  always_firstFit_rest step [] candidates (fun _ below => absurd below (Nat.not_lt_zero _)) start

end Interact
