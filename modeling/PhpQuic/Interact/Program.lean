/-
**Programs that ask their environment, and what is true of all their runs.**

A program over an interface is a tree: it stops with a value, or makes a call and goes on from the
answer. What the environment may answer, and how a call moves the environment's state, is a
`Behaviour`; it may be nondeterministic.

* `Run B p s value s'`: one finished run of `p` against `B`. `Equivalent B p q`: the same runs.
* `Always B p post s`: every run from `s` ends in `post`. `always_pure`, `always_call_bind`,
  `always_bind` and `Always.mono` are the rules of the calculus, `Always.bind_except` and
  `Always.bind_ok` those of a part that may fail.
* `Finishes B p s`: there is a run of `p` from `s`.
* `Returns post p`: every value `p` can ever return satisfies `post`.
* `Only P p`: every call `p` can ever make satisfies `P`. `Run.frame` turns it into a frame rule: a
  reflexive and transitive relation kept by each such call is kept by the whole run.
* `exec`: the run against a deterministic environment, for evaluating a program; `Follows.run` says
  that it is a run, `Run.eq_exec` when it is the only one. `answeredBy`: the behaviour of such an
  environment.
-/

import Mathlib.Logic.Basic

namespace Interact

/-- An interface: the calls a program may make, and the type of each call's answer. -/
structure Interface where
  Call : Type
  Answer : Call → Type

/-- A program over an interface. -/
inductive Program (I : Interface) (α : Type) : Type where
  | done (value : α)
  | ask (call : I.Call) (next : I.Answer call → Program I α)

variable {I : Interface} {α β S : Type}

namespace Program

/-- Run the first program, then the second on its value. -/
protected def bind : Program I α → (α → Program I β) → Program I β
  | .done value, rest => rest value
  | .ask call next, rest => .ask call fun answer => (next answer).bind rest

instance : Monad (Program I) where
  pure := .done
  bind := Program.bind

/-- The program that makes one call and returns its answer. -/
def call (call : I.Call) : Program I (I.Answer call) := .ask call .done

theorem done_bind (value : α) (rest : α → Program I β) :
    (Program.done value >>= rest) = rest value := rfl

theorem ask_bind (call : I.Call) (next : I.Answer call → Program I α) (rest : α → Program I β) :
    (Program.ask call next >>= rest) = .ask call fun answer => next answer >>= rest := rfl

instance : LawfulMonad (Program I) := LawfulMonad.mk' (Program I)
  (fun program => by
    induction program with
    | done value => rfl
    | ask call next ih => exact congrArg (Program.ask call) (funext ih))
  (fun _ _ => rfl)
  (fun program _ _ => by
    induction program with
    | done value => rfl
    | ask call next ih => exact congrArg (Program.ask call) (funext ih))

end Program

/-! ### Runs -/

/-- How an environment with state `S` behaves: which answers to a call are possible in a state, and
the states they lead to. -/
abbrev Behaviour (I : Interface) (S : Type) := S → (call : I.Call) → I.Answer call → S → Prop

/-- **A finished run of a program** against a behaviour. -/
inductive Run (B : Behaviour I S) : Program I α → S → α → S → Prop
  | done (value : α) (s : S) : Run B (.done value) s value s
  | ask {call : I.Call} {next : I.Answer call → Program I α} {s s₁ s₂ : S}
      {answer : I.Answer call} {value : α} (replied : B s call answer s₁)
      (rest : Run B (next answer) s₁ value s₂) : Run B (.ask call next) s value s₂

variable {B : Behaviour I S}

theorem run_done_iff {value result : α} {s s' : S} :
    Run B (.done value) s result s' ↔ result = value ∧ s' = s := by
  constructor
  · intro run
    cases run
    exact ⟨rfl, rfl⟩
  · rintro ⟨rfl, rfl⟩
    exact .done _ _

theorem run_ask_iff {call : I.Call} {next : I.Answer call → Program I α} {result : α} {s s' : S} :
    Run B (.ask call next) s result s' ↔
      ∃ answer s₁, B s call answer s₁ ∧ Run B (next answer) s₁ result s' := by
  constructor
  · intro run
    cases run with
    | ask replied rest => exact ⟨_, _, replied, rest⟩
  · rintro ⟨answer, s₁, replied, rest⟩
    exact .ask replied rest

/-- A run of a sequence is a run of each part, meeting in between. -/
theorem run_bind_iff {p : Program I α} {rest : α → Program I β} {s s' : S} {result : β} :
    Run B (p >>= rest) s result s' ↔
      ∃ value s₁, Run B p s value s₁ ∧ Run B (rest value) s₁ result s' := by
  induction p generalizing s with
  | done value =>
      simp only [Program.done_bind, run_done_iff, and_assoc, exists_and_left, exists_eq_left]
  | ask call next ih =>
      simp only [Program.ask_bind, run_ask_iff, ih]
      constructor
      · rintro ⟨answer, s₁, replied, value, s₂, first, second⟩
        exact ⟨value, s₂, ⟨answer, s₁, replied, first⟩, second⟩
      · rintro ⟨value, s₂, ⟨answer, s₁, replied, first⟩, second⟩
        exact ⟨answer, s₁, replied, value, s₂, first, second⟩

-- `no_index`: in an instance the answer's type has been computed, and no longer looks like this.
theorem run_call_bind_iff {call : I.Call} {next : I.Answer call → Program I α} {result : α}
    {s s' : S} :
    Run B (@bind (Program I) _ (no_index (I.Answer call)) α (Program.call call) next) s result s' ↔
      ∃ answer s₁, B s call answer s₁ ∧ Run B (next answer) s₁ result s' :=
  run_ask_iff

/-- Two programs have the same runs. -/
def Equivalent (B : Behaviour I S) (p q : Program I α) : Prop :=
  ∀ s value s', Run B p s value s' ↔ Run B q s value s'

theorem Equivalent.refl (p : Program I α) : Equivalent B p p := fun _ _ _ => Iff.rfl

theorem Equivalent.bind {p q : Program I α} {rest rest' : α → Program I β}
    (first : Equivalent B p q) (second : ∀ value, Equivalent B (rest value) (rest' value)) :
    Equivalent B (p >>= rest) (q >>= rest') := by
  intro s result s'
  rw [run_bind_iff, run_bind_iff]
  exact exists_congr fun value => exists_congr fun s₁ =>
    and_congr (first s value s₁) (second value s₁ result s')

/-! ### What holds after every run -/

/-- Every run of `p` from `s` ends in `post`. -/
def Always (B : Behaviour I S) (p : Program I α) (post : α → S → Prop) (s : S) : Prop :=
  ∀ value s', Run B p s value s' → post value s'

theorem always_pure {value : α} {post : α → S → Prop} {s : S} :
    Always B (pure value) post s ↔ post value s := by
  show (∀ result s', Run B (.done value) s result s' → post result s') ↔ _
  simp only [run_done_iff, and_imp, forall_eq_apply_imp_iff, forall_eq]

theorem always_bind {p : Program I α} {rest : α → Program I β} {post : β → S → Prop} {s : S} :
    Always B (p >>= rest) post s ↔ Always B p (fun value => Always B (rest value) post) s := by
  constructor
  · intro always value s₁ first result s₂ second
    exact always result s₂ (run_bind_iff.mpr ⟨value, s₁, first, second⟩)
  · intro always result s₂ run
    obtain ⟨value, s₁, first, second⟩ := run_bind_iff.mp run
    exact always value s₁ first result s₂ second

theorem always_call_bind {call : I.Call} {next : I.Answer call → Program I α}
    {post : α → S → Prop} {s : S} :
    Always B (@bind (Program I) _ (no_index (I.Answer call)) α (Program.call call) next) post s ↔
      ∀ answer s₁, B s call answer s₁ → Always B (next answer) post s₁ := by
  constructor
  · intro always answer s₁ replied value s₂ rest
    exact always value s₂ (.ask replied rest)
  · intro always value s₂ run
    obtain ⟨answer, s₁, replied, rest⟩ := run_ask_iff.mp run
    exact always answer s₁ replied value s₂ rest

theorem always_call {call : I.Call} {post : I.Answer call → S → Prop} {s : S} :
    Always B (Program.call call) post s ↔ ∀ answer s', B s call answer s' → post answer s' := by
  constructor
  · intro always answer s' replied
    exact always answer s' (.ask replied (.done answer s'))
  · intro always answer s' run
    obtain ⟨answer, s₁, replied, rest⟩ := run_ask_iff.mp run
    obtain ⟨rfl, rfl⟩ := run_done_iff.mp rest
    exact always answer s' replied

theorem Always.mono {p : Program I α} {post weaker : α → S → Prop} {s : S}
    (always : Always B p post s) (implied : ∀ value s', post value s' → weaker value s') :
    Always B p weaker s :=
  fun value s' run => implied value s' (always value s' run)

theorem Always.bind {p : Program I α} {rest : α → Program I β} {middle : α → S → Prop}
    {post : β → S → Prop} {s : S} (first : Always B p middle s)
    (second : ∀ value s₁, middle value s₁ → Always B (rest value) post s₁) :
    Always B (p >>= rest) post s :=
  always_bind.mpr (first.mono second)

/-- A first part about which nothing needs to be known. -/
theorem Always.bind_any {p : Program I α} {rest : α → Program I β} {post : β → S → Prop} {s : S}
    (second : ∀ value s₁, Always B (rest value) post s₁) : Always B (p >>= rest) post s :=
  always_bind.mpr fun value s₁ _ => second value s₁

/-- A part that may fail, and what follows in each case. -/
theorem Always.bind_except {ε : Type} {p : Program I (Except ε α)}
    {rest : Except ε α → Program I β} {middle : Except ε α → S → Prop} {post : β → S → Prop} {s : S}
    (first : Always B p middle s)
    (fails : ∀ error s₁, middle (.error error) s₁ → Always B (rest (.error error)) post s₁)
    (goes : ∀ value s₁, middle (.ok value) s₁ → Always B (rest (.ok value)) post s₁) :
    Always B (p >>= rest) post s := by
  refine first.bind fun result s₁ reached => ?_
  cases result with
  | error error => exact fails error s₁ reached
  | ok value => exact goes value s₁ reached

/-- The same where success is reached in one state only. -/
theorem Always.bind_ok {ε : Type} {p : Program I (Except ε α)} {rest : Except ε α → Program I β}
    {post : β → S → Prop} {s reached : S}
    (first : Always B p (fun result s₁ => ∀ value, result = .ok value → s₁ = reached) s)
    (fails : ∀ error s₁, Always B (rest (.error error)) post s₁)
    (goes : ∀ value, Always B (rest (.ok value)) post reached) : Always B (p >>= rest) post s :=
  first.bind_except (fun error s₁ _ => fails error s₁) fun value _ settled =>
    settled value rfl ▸ goes value

theorem Always.and {p : Program I α} {post post' : α → S → Prop} {s : S}
    (first : Always B p post s) (second : Always B p post' s) :
    Always B p (fun value s' => post value s' ∧ post' value s') s :=
  fun value s' run => ⟨first value s' run, second value s' run⟩

theorem Always.pure {value : α} {post : α → S → Prop} {s : S} (holds : post value s) :
    Always B (Pure.pure value) post s := always_pure.mpr holds

theorem Always.ite {condition : Prop} [Decidable condition] {p q : Program I α}
    {post : α → S → Prop} {s : S} (first : condition → Always B p post s)
    (second : ¬ condition → Always B q post s) :
    Always B (if condition then p else q) post s := by
  split
  · exact first ‹_›
  · exact second ‹_›

/-! ### That there is a run -/

/-- Some run of `p` from `s` comes to its end. -/
def Finishes (B : Behaviour I S) (p : Program I α) (s : S) : Prop :=
  ∃ value s', Run B p s value s'

namespace Finishes

theorem pure (value : α) (s : S) : Finishes B (Pure.pure value : Program I α) s :=
  ⟨value, s, .done value s⟩

/-- One answer that is possible is enough. -/
theorem call_bind {call : I.Call} {next : I.Answer call → Program I α} {s s₁ : S}
    (answer : I.Answer call) (replied : B s call answer s₁)
    (rest : Finishes B (next answer) s₁) :
    Finishes B (@bind (Program I) _ (no_index (I.Answer call)) α (Program.call call) next) s := by
  obtain ⟨value, s₂, run⟩ := rest
  exact ⟨value, s₂, .ask replied run⟩

theorem ite {condition : Prop} [Decidable condition] {p q : Program I α} {s : S}
    (first : Finishes B p s) (second : Finishes B q s) :
    Finishes B (if condition then p else q) s := by
  split
  · exact first
  · exact second

end Finishes

/-! ### Which calls a program can make -/

/-- Every call on every path of the program satisfies `P`. -/
inductive Only (P : I.Call → Prop) : Program I α → Prop
  | done (value : α) : Only P (.done value)
  | ask {call : I.Call} {next : I.Answer call → Program I α} (here : P call)
      (rest : ∀ answer, Only P (next answer)) : Only P (.ask call next)

namespace Only

variable {P Q : I.Call → Prop}

theorem pure (value : α) : Only P (Pure.pure value : Program I α) := .done value

theorem call {call : I.Call} (here : P call) : Only P (Program.call call) :=
  .ask here fun _ => .done _

theorem bind {p : Program I α} {rest : α → Program I β} (first : Only P p)
    (second : ∀ value, Only P (rest value)) : Only P (p >>= rest) := by
  induction first with
  | done value => exact second value
  | ask here _ ih => exact .ask here ih

theorem bind_except {ε : Type} {p : Program I (Except ε α)} {rest : Except ε α → Program I β}
    (first : Only P p) (fails : ∀ error, Only P (rest (.error error)))
    (goes : ∀ value, Only P (rest (.ok value))) : Only P (p >>= rest) := by
  refine first.bind fun result => ?_
  cases result with
  | error error => exact fails error
  | ok value => exact goes value

theorem mono {p : Program I α} (only : Only P p) (implied : ∀ call, P call → Q call) :
    Only Q p := by
  induction only with
  | done value => exact .done value
  | ask here _ ih => exact .ask (implied _ here) ih

theorem ite {condition : Prop} [Decidable condition] {p q : Program I α} (first : Only P p)
    (second : Only P q) : Only P (if condition then p else q) := by
  split
  · exact first
  · exact second

end Only

/-! ### Which values a program can return -/

/-- Every value the program can return satisfies `post`, whatever it is answered. -/
inductive Returns (post : α → Prop) : Program I α → Prop
  | done {value : α} (here : post value) : Returns post (.done value)
  | ask {call : I.Call} {next : I.Answer call → Program I α}
      (rest : ∀ answer, Returns post (next answer)) : Returns post (.ask call next)

namespace Returns

theorem pure {post : α → Prop} {value : α} (here : post value) :
    Returns post (Pure.pure value : Program I α) := .done here

theorem bind {middle : α → Prop} {post : β → Prop} {p : Program I α} {rest : α → Program I β}
    (first : Returns middle p) (second : ∀ value, middle value → Returns post (rest value)) :
    Returns post (p >>= rest) := by
  induction first with
  | done here => exact second _ here
  | ask _ ih => exact .ask ih

theorem bind_any {post : β → Prop} {p : Program I α} {rest : α → Program I β}
    (second : ∀ value, Returns post (rest value)) : Returns post (p >>= rest) := by
  induction p with
  | done value => exact second value
  | ask call next ih => exact .ask ih

theorem bind_except {ε : Type} {post : β → Prop} {p : Program I (Except ε α)}
    {rest : Except ε α → Program I β} (fails : ∀ error, Returns post (rest (.error error)))
    (goes : ∀ value, Returns post (rest (.ok value))) : Returns post (p >>= rest) := by
  refine bind_any fun result => ?_
  cases result with
  | error error => exact fails error
  | ok value => exact goes value

theorem ite {condition : Prop} [Decidable condition] {post : α → Prop} {p q : Program I α}
    (first : Returns post p) (second : Returns post q) :
    Returns post (if condition then p else q) := by
  split
  · exact first
  · exact second

theorem of_run {post : α → Prop} {p : Program I α} (returns : Returns post p) {s s' : S}
    {value : α} (run : Run B p s value s') : post value := by
  induction run with
  | done value s =>
      cases returns with
      | done here => exact here
  | ask _ _ ih =>
      cases returns with
      | ask rest => exact ih (rest _)

end Returns

/-- **The frame rule.** If every call in `P` keeps the state in relation `R`, and a program makes
calls of `P` only, then the whole run does. -/
theorem Run.frame {P : I.Call → Prop} {R : S → S → Prop} {p : Program I α} (only : Only P p)
    (refl : ∀ s, R s s) (trans : ∀ s₁ s₂ s₃, R s₁ s₂ → R s₂ s₃ → R s₁ s₃)
    (kept : ∀ s call answer s', P call → B s call answer s' → R s s')
    {s s' : S} {value : α} (run : Run B p s value s') : R s s' := by
  induction run with
  | done value s => exact refl s
  | ask replied _ ih =>
      cases only with
      | ask here rest => exact trans _ _ _ (kept _ _ _ _ here replied) (ih (rest _))

/-- What every call keeps, every run keeps. -/
theorem Run.relation {R : S → S → Prop} {p : Program I α} (refl : ∀ s, R s s)
    (trans : ∀ s₁ s₂ s₃, R s₁ s₂ → R s₂ s₃ → R s₁ s₃)
    (kept : ∀ s call answer s', B s call answer s' → R s s')
    {s s' : S} {value : α} (run : Run B p s value s') : R s s' := by
  induction run with
  | done value s => exact refl s
  | ask replied _ ih => exact trans _ _ _ (kept _ _ _ _ replied) ih

/-- **Simulation.** A run is a run against any behaviour that allows the same calls, seen through a
view of the states. -/
theorem Run.map {T : Type} {C : Behaviour I T} {p : Program I α} (view : S → T)
    (allowed : ∀ s call answer s', B s call answer s' → C (view s) call answer (view s'))
    {s s' : S} {value : α} (run : Run B p s value s') : Run C p (view s) value (view s') := by
  induction run with
  | done value s => exact .done value _
  | ask replied _ ih => exact .ask (allowed _ _ _ _ replied) ih

/-- The frame rule for calls that leave the state alone. -/
theorem Run.unchanged {P : I.Call → Prop} {p : Program I α} (only : Only P p)
    (kept : ∀ s call answer s', P call → B s call answer s' → s' = s)
    {s s' : S} {value : α} (run : Run B p s value s') : s' = s :=
  run.frame (R := fun s s' => s' = s) only (fun _ => rfl)
    (fun _ _ _ first second => second.trans first) kept

/-- What every call of `P` keeps holds after a program that makes calls of `P` only. -/
theorem Always.invariant {P : I.Call → Prop} {holds : S → Prop} {p : Program I α} (only : Only P p)
    (kept : ∀ s call answer s', P call → B s call answer s' → holds s → holds s') {s : S}
    (start : holds s) : Always B p (fun _ s' => holds s') s :=
  fun _ _ run => run.frame (R := fun s s' => holds s → holds s') only (fun _ => id)
    (fun _ _ _ first second => second ∘ first) kept start

theorem Always.of_unchanged {P : I.Call → Prop} {p : Program I α} (only : Only P p)
    (kept : ∀ s call answer s', P call → B s call answer s' → s' = s) (s : S) :
    Always B p (fun _ s' => s' = s) s :=
  fun _ _ run => run.unchanged only kept

/-- A first part that leaves the state alone can be skipped. -/
theorem Always.skip {P : I.Call → Prop} {p : Program I α} {rest : α → Program I β}
    {post : β → S → Prop} {s : S} (only : Only P p)
    (kept : ∀ s call answer s', P call → B s call answer s' → s' = s)
    (second : ∀ value, Always B (rest value) post s) : Always B (p >>= rest) post s :=
  .bind (.of_unchanged only kept s) fun value _ same => same ▸ second value

/-! ### Evaluation against a deterministic environment -/

/-- An environment that answers every call in one way. -/
abbrev Handler (I : Interface) (S : Type) := S → (call : I.Call) → I.Answer call × S

/-- Run a program against a deterministic environment. -/
def exec (h : Handler I S) : Program I α → S → α × S
  | .done value, s => (value, s)
  | .ask call next, s => exec h (next (h s call).1) (h s call).2

@[simp] theorem exec_pure (h : Handler I S) (value : α) (s : S) :
    exec h (pure value) s = (value, s) := rfl

@[simp] theorem exec_call (h : Handler I S) (call : I.Call) (s : S) :
    @exec I (no_index (I.Answer call)) S h (Program.call call) s = h s call := rfl

@[simp] theorem exec_bind (h : Handler I S) (p : Program I α) (rest : α → Program I β) (s : S) :
    exec h (p >>= rest) s = exec h (rest (exec h p s).1) (exec h p s).2 := by
  induction p generalizing s with
  | done value => rfl
  | ask call next ih => exact ih _ _

@[simp] theorem exec_map (h : Handler I S) (f : α → β) (p : Program I α) (s : S) :
    exec h (f <$> p) s = (f (exec h p s).1, (exec h p s).2) := by
  rw [← bind_pure_comp, exec_bind]
  rfl

/-- The behaviour allows every answer along the evaluation. -/
def Follows (B : Behaviour I S) (h : Handler I S) : Program I α → S → Prop
  | .done _, _ => True
  | .ask call next, s =>
    B s call (h s call).1 (h s call).2 ∧ Follows B h (next (h s call).1) (h s call).2

/-- **Such an evaluation is a run.** -/
theorem Follows.run {h : Handler I S} {p : Program I α} {s : S} (follows : Follows B h p s) :
    Run B p s (exec h p s).1 (exec h p s).2 := by
  induction p generalizing s with
  | done value => exact .done value s
  | ask call next ih => exact .ask follows.1 (ih _ follows.2)

theorem Follows.of_only {P : I.Call → Prop} {h : Handler I S} {p : Program I α} (only : Only P p)
    (allowed : ∀ s call, P call → B s call (h s call).1 (h s call).2) (s : S) :
    Follows B h p s := by
  induction only generalizing s with
  | done value => trivial
  | ask here _ ih => exact ⟨allowed s _ here, ih _ _⟩

theorem Follows.of_allowed {h : Handler I S}
    (allowed : ∀ s call, B s call (h s call).1 (h s call).2) (p : Program I α) (s : S) :
    Follows B h p s := by
  induction p generalizing s with
  | done value => trivial
  | ask call next ih => exact ⟨allowed s call, ih _ _⟩

/-- Every evaluation is a run, when the behaviour allows all the handler's answers. -/
theorem run_exec {h : Handler I S} (allowed : ∀ s call, B s call (h s call).1 (h s call).2)
    (p : Program I α) (s : S) : Run B p s (exec h p s).1 (exec h p s).2 :=
  (Follows.of_allowed allowed p s).run

/-- The behaviour of a deterministic environment. -/
def answeredBy (h : Handler I S) : Behaviour I S := fun s call answer s' => (answer, s') = h s call

theorem run_answeredBy (h : Handler I S) (p : Program I α) (s : S) :
    Run (answeredBy h) p s (exec h p s).1 (exec h p s).2 :=
  run_exec (fun _ _ => rfl) p s

end Interact
