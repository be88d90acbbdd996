/-
**The calls of a run, and programs that make each of them in a state that allows it.**

* `Trace B p s exchanges value s'`: a finished run with its calls in order, each with the states
  before and after it. `run_iff_trace`: the traces of a program are those of its runs.
* `Guarded B guard p post s`: on every path from `s` every call is made in a state that allows it,
  and every run ends in `post`. The rules are those of `Always`.
* `Guarded.trace` is what it says of a trace.
* `Trace.sum_balance`: what every call of a trace balances, the trace does.
* `Trace.counted`: a trace is a run of the behaviour that counts its calls. `Trace.map`: a trace seen
  through a part of the state.
* `Trace.latched`: a flag that calls only ever set is set at the end if it was at the start, or if a
  call of the trace set it.
* `trace_exec`: the trace of an evaluation.
-/

import PhpQuic.Interact.Program
import Mathlib.Algebra.Group.Basic
import Mathlib.Algebra.GroupWithZero.Nat

namespace Interact

variable {I : Interface} {α β S : Type}

/-- One call of a run. -/
structure Exchange (I : Interface) (S : Type) where
  before : S
  call : I.Call
  answer : I.Answer call
  after : S

/-- **A finished run and its calls.** -/
inductive Trace (B : Behaviour I S) : Program I α → S → List (Exchange I S) → α → S → Prop
  | done (value : α) (s : S) : Trace B (.done value) s [] value s
  | ask {call : I.Call} {next : I.Answer call → Program I α} {s s₁ s₂ : S}
      {answer : I.Answer call} {value : α} {exchanges : List (Exchange I S)}
      (replied : B s call answer s₁) (rest : Trace B (next answer) s₁ exchanges value s₂) :
      Trace B (.ask call next) s (⟨s, call, answer, s₁⟩ :: exchanges) value s₂

variable {B : Behaviour I S}

theorem Trace.run {p : Program I α} {s s' : S} {exchanges : List (Exchange I S)} {value : α}
    (trace : Trace B p s exchanges value s') : Run B p s value s' := by
  induction trace with
  | done value s => exact .done value s
  | ask replied _ ih => exact .ask replied ih

theorem run_iff_trace {p : Program I α} {s s' : S} {value : α} :
    Run B p s value s' ↔ ∃ exchanges, Trace B p s exchanges value s' := by
  refine ⟨fun run => ?_, fun ⟨_, trace⟩ => trace.run⟩
  induction run with
  | done value s => exact ⟨[], .done value s⟩
  | ask replied _ ih =>
      obtain ⟨exchanges, rest⟩ := ih
      exact ⟨_, .ask replied rest⟩

theorem trace_pure {value result : α} {s s' : S} {exchanges : List (Exchange I S)}
    (trace : Trace B (Pure.pure value) s exchanges result s') :
    exchanges = [] ∧ result = value ∧ s' = s := by
  cases trace
  exact ⟨rfl, rfl, rfl⟩

theorem trace_call_bind {call : I.Call} {next : I.Answer call → Program I α} {result : α} {s s' : S}
    {exchanges : List (Exchange I S)}
    (trace : Trace B (@bind (Program I) _ (no_index (I.Answer call)) α (Program.call call) next) s
      exchanges result s') :
    ∃ answer s₁ later, B s call answer s₁ ∧ exchanges = ⟨s, call, answer, s₁⟩ :: later ∧
      Trace B (next answer) s₁ later result s' := by
  cases trace with
  | ask replied rest => exact ⟨_, _, _, replied, rfl, rest⟩

/-- Every exchange of a trace is one the behaviour allows. -/
theorem Trace.allowed {p : Program I α} {s s' : S} {exchanges : List (Exchange I S)} {value : α}
    (trace : Trace B p s exchanges value s') :
    ∀ exchange ∈ exchanges, B exchange.before exchange.call exchange.answer exchange.after := by
  induction trace with
  | done => exact fun _ member => absurd member List.not_mem_nil
  | ask replied _ ih => exact List.forall_mem_cons.mpr ⟨replied, ih⟩

/-- **Balances add up.** If every exchange of a trace takes as much from a quantity as it gives,
the whole trace does. -/
theorem Trace.sum_balance {M : Type} [AddCommMonoid M] {p : Program I α} {s s' : S}
    {exchanges : List (Exchange I S)} {value : α} (trace : Trace B p s exchanges value s')
    (level : S → M) (gain loss : Exchange I S → M)
    (balanced : ∀ exchange ∈ exchanges,
      level exchange.before + gain exchange = level exchange.after + loss exchange) :
    level s + (exchanges.map gain).sum = level s' + (exchanges.map loss).sum := by
  induction trace with
  | done => rfl
  | ask _ _ ih =>
      obtain ⟨here, rest⟩ := List.forall_mem_cons.mp balanced
      have later := ih rest
      dsimp only at here
      rw [List.map_cons, List.map_cons, List.sum_cons, List.sum_cons, ← add_assoc, here,
        add_right_comm, later, add_right_comm, add_assoc]

theorem countP_eq_sum (counts : α → Bool) (xs : List α) :
    xs.countP counts = (xs.map fun x => if counts x then 1 else 0).sum := by
  induction xs with
  | nil => rfl
  | cons x xs ih => rw [List.countP_cons, List.map_cons, List.sum_cons, ih, Nat.add_comm]

/-- The same for a number that calls raise and lower by one. -/
theorem Trace.balance {p : Program I α} {s s' : S} {exchanges : List (Exchange I S)} {value : α}
    (trace : Trace B p s exchanges value s') (level : S → Nat) (gain loss : Exchange I S → Bool)
    (balanced : ∀ exchange ∈ exchanges, level exchange.before + (if gain exchange then 1 else 0) =
      level exchange.after + if loss exchange then 1 else 0) :
    level s + exchanges.countP gain = level s' + exchanges.countP loss := by
  rw [countP_eq_sum, countP_eq_sum]
  exact trace.sum_balance level _ _ balanced

/-- The behaviour that only counts some calls. -/
def counting (counts : I.Call → Bool) : Behaviour I Nat := fun number call _ number' =>
  number' = number + if counts call then 1 else 0

/-- **The calls of a trace, counted**, are those of a run. -/
theorem Trace.counted {p : Program I α} {s s' : S} {exchanges : List (Exchange I S)} {value : α}
    (trace : Trace B p s exchanges value s') (counts : I.Call → Bool) (number : Nat) :
    Run (counting counts) p number value
      (number + exchanges.countP fun exchange => counts exchange.call) := by
  induction trace generalizing number with
  | done value s => exact .done value number
  | @ask call _ _ _ _ answer _ _ _ _ ih =>
      have here : counting counts number call answer (number + if counts call then 1 else 0) := rfl
      refine .ask here ?_
      rw [List.countP_cons, Nat.add_comm (List.countP _ _), ← Nat.add_assoc]
      exact ih _

/-- A call, seen through a part of the state. -/
def Exchange.map {T : Type} (view : S → T) (exchange : Exchange I S) : Exchange I T :=
  ⟨view exchange.before, exchange.call, exchange.answer, view exchange.after⟩

/-- **A trace seen through a part of the state** is a trace of the behaviour of that part. -/
theorem Trace.map {T : Type} {C : Behaviour I T} {p : Program I α} (view : S → T)
    (allowed : ∀ s call answer s', B s call answer s' → C (view s) call answer (view s'))
    {s s' : S} {exchanges : List (Exchange I S)} {value : α}
    (trace : Trace B p s exchanges value s') :
    Trace C p (view s) (exchanges.map (Exchange.map view)) value (view s') := by
  induction trace with
  | done value s => exact .done value _
  | ask replied _ ih => exact .ask (allowed _ _ _ _ replied) ih

/-- The call of the exchange set the flag. -/
def Exchange.Sets (flag : S → Bool) (exchange : Exchange I S) : Prop :=
  flag exchange.before = false ∧ flag exchange.after = true

/-- **A flag that is never cleared** says whether some call has set it. -/
theorem Trace.latched {p : Program I α} {s s' : S} {exchanges : List (Exchange I S)} {value : α}
    (trace : Trace B p s exchanges value s') {flag : S → Bool}
    (kept : ∀ s call answer s', B s call answer s' → flag s = true → flag s' = true) :
    flag s' = true ↔ flag s = true ∨ ∃ exchange ∈ exchanges, exchange.Sets flag := by
  induction trace with
  | done value s => exact ⟨.inl, fun either => either.elim id fun ⟨_, member, _⟩ => nomatch member⟩
  | @ask call _ s s₁ _ _ _ _ replied _ ih =>
      rw [ih]
      constructor
      · rintro (set | ⟨exchange, member, sets⟩)
        · cases before : flag s with
          | true => exact .inl rfl
          | false => exact .inr ⟨_, List.mem_cons_self, before, set⟩
        · exact .inr ⟨exchange, List.mem_cons_of_mem _ member, sets⟩
      · rintro (set | ⟨exchange, member, sets⟩)
        · exact .inl (kept _ _ _ _ replied set)
        · rcases List.mem_cons.mp member with rfl | later
          · exact .inl sets.2
          · exact .inr ⟨exchange, later, sets⟩

/-- The calls of the evaluation of a program. -/
def evaluated (h : Handler I S) : Program I α → S → List (Exchange I S)
  | .done _, _ => []
  | .ask call next, s =>
    ⟨s, call, (h s call).1, (h s call).2⟩ :: evaluated h (next (h s call).1) (h s call).2

/-- Every evaluation has its trace, when the behaviour allows all the handler's answers. -/
theorem trace_exec {h : Handler I S} (allowed : ∀ s call, B s call (h s call).1 (h s call).2)
    (p : Program I α) (s : S) : Trace B p s (evaluated h p s) (exec h p s).1 (exec h p s).2 := by
  induction p generalizing s with
  | done value => exact .done value s
  | ask call next ih => exact .ask (allowed s call) (ih _ _)

/-! ### Calls made in a state that allows them -/

/-- **Every call is made in a state that allows it, and every run ends in `post`.** -/
def Guarded (B : Behaviour I S) (guard : S → I.Call → Prop) :
    Program I α → (α → S → Prop) → S → Prop
  | .done value, post, s => post value s
  | .ask call next, post, s =>
    guard s call ∧ ∀ answer s₁, B s call answer s₁ → Guarded B guard (next answer) post s₁

variable {guard : S → I.Call → Prop}

namespace Guarded

theorem pure {value : α} {post : α → S → Prop} {s : S} (holds : post value s) :
    Guarded B guard (Pure.pure value) post s := holds

theorem ask {call : I.Call} {post : I.Answer call → S → Prop} {s : S} (here : guard s call)
    (answered : ∀ answer s', B s call answer s' → post answer s') :
    Guarded B guard (Program.call call) post s := ⟨here, answered⟩

theorem ask_bind {call : I.Call} {next : I.Answer call → Program I α} {post : α → S → Prop} {s : S}
    (here : guard s call)
    (rest : ∀ answer s₁, B s call answer s₁ → Guarded B guard (next answer) post s₁) :
    Guarded B guard (@bind (Program I) _ (no_index (I.Answer call)) α (Program.call call) next)
      post s :=
  ⟨here, rest⟩

theorem mono {p : Program I α} {post weaker : α → S → Prop} {s : S}
    (guarded : Guarded B guard p post s) (implied : ∀ value s', post value s' → weaker value s') :
    Guarded B guard p weaker s := by
  induction p generalizing s with
  | done value => exact implied value s guarded
  | ask call next ih => exact ⟨guarded.1, fun answer s₁ replied => ih _ (guarded.2 answer s₁ replied)⟩

theorem bind {p : Program I α} {rest : α → Program I β} {middle : α → S → Prop}
    {post : β → S → Prop} {s : S} (first : Guarded B guard p middle s)
    (second : ∀ value s₁, middle value s₁ → Guarded B guard (rest value) post s₁) :
    Guarded B guard (p >>= rest) post s := by
  induction p generalizing s with
  | done value => exact second value s first
  | ask call next ih => exact ⟨first.1, fun answer s₁ replied => ih _ (first.2 answer s₁ replied)⟩

theorem ite {condition : Prop} [Decidable condition] {p q : Program I α} {post : α → S → Prop}
    {s : S} (first : condition → Guarded B guard p post s)
    (second : ¬ condition → Guarded B guard q post s) :
    Guarded B guard (if condition then p else q) post s := by
  split
  · exact first ‹_›
  · exact second ‹_›

/-- A program that only makes calls that are allowed in every state. -/
theorem of_always {P : I.Call → Prop} {p : Program I α} {post : α → S → Prop} {s : S}
    (only : Only P p) (free : ∀ s call, P call → guard s call) (always : Always B p post s) :
    Guarded B guard p post s := by
  induction only generalizing s with
  | done value => exact always value s (.done value s)
  | ask here _ ih =>
      refine ⟨free s _ here, fun answer s₁ replied => ih answer fun value s₂ run => ?_⟩
      exact always value s₂ (.ask replied run)

/-- A first part whose calls are allowed in every state and leave it alone can be skipped. -/
theorem skip {P : I.Call → Prop} {p : Program I α} {rest : α → Program I β} {post : β → S → Prop}
    {s : S} (only : Only P p) (free : ∀ s call, P call → guard s call)
    (kept : ∀ s call answer s', P call → B s call answer s' → s' = s)
    (second : ∀ value, Guarded B guard (rest value) post s) :
    Guarded B guard (p >>= rest) post s :=
  .bind (.of_always only free (.of_unchanged only kept s)) fun value _ same => same ▸ second value

/-- Calls that are allowed in one state, and leave it alone, end in that state. -/
theorem of_still {P : I.Call → Prop} {p : Program I α} {s : S} (only : Only P p)
    (free : ∀ call, P call → guard s call)
    (kept : ∀ call answer s', P call → B s call answer s' → s' = s) :
    Guarded B guard p (fun _ s' => s' = s) s := by
  induction only with
  | done value => exact rfl
  | ask here _ ih =>
      refine ⟨free _ here, fun answer s' replied => ?_⟩
      obtain rfl : s' = s := kept _ answer s' here replied
      exact ih answer

/-- Calls that are allowed where an invariant holds, and keep it, end where it holds. -/
theorem of_invariant {P : I.Call → Prop} {p : Program I α} {inv : S → Prop} {s : S}
    (only : Only P p) (free : ∀ s call, inv s → P call → guard s call)
    (kept : ∀ s call answer s', inv s → P call → B s call answer s' → inv s') (holds : inv s) :
    Guarded B guard p (fun _ => inv) s := by
  induction only generalizing s with
  | done value => exact holds
  | ask here _ ih =>
      exact ⟨free s _ holds here, fun answer s' replied =>
        ih answer (kept s _ answer s' holds here replied)⟩

/-- **Every exchange of a trace is made in a state that allows it.** -/
theorem trace {p : Program I α} {post : α → S → Prop} {s s' : S}
    (guarded : Guarded B guard p post s) {exchanges : List (Exchange I S)} {value : α}
    (trace : Trace B p s exchanges value s') :
    (∀ exchange ∈ exchanges, guard exchange.before exchange.call) ∧ post value s' := by
  induction trace with
  | done => exact ⟨fun _ member => absurd member List.not_mem_nil, guarded⟩
  | ask replied _ ih =>
      obtain ⟨here, rest⟩ := guarded
      obtain ⟨later, ended⟩ := ih (rest _ _ replied)
      exact ⟨List.forall_mem_cons.mpr ⟨here, later⟩, ended⟩

theorem always {p : Program I α} {post : α → S → Prop} {s : S}
    (guarded : Guarded B guard p post s) : Always B p post s := by
  intro value s' run
  obtain ⟨_, trace⟩ := run_iff_trace.mp run
  exact (guarded.trace trace).2

end Guarded

end Interact
