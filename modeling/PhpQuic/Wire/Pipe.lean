/-
**A pipe: what one end writes, the other end takes.**

The abstract model of a one-way connection. A writer appends items and at some point closes; a
reader takes items from the front, and is told of the end.

* `PipeStep`: the four things that can happen, and when each may.
* `Pipe.Ordered`: the reader has a prefix of what was written; kept by every run.
* `path_written`, `path_taken`: the two ends, as the concatenation of what the events carry.
* `path_closed`: a pipe is closed by an event.
* `path_finished`: once the reader has been told of the end, it has everything, and whatever still
  happens carries nothing.
-/

import PhpQuic.Interact.Transition
import Mathlib.Data.List.Infix

namespace Wire

open Interact

variable {α : Type}

/-- What was written, whether the writer has closed, and what the reader has taken. -/
structure Pipe (α : Type) where
  written : List α
  closed : Bool
  taken : List α

/-- The pipe before anything happened. -/
def Pipe.empty : Pipe α := ⟨[], false, []⟩

inductive PipeEvent (α : Type) where
  | write (items : List α)
  | close
  | take (items : List α)
  /-- The reader is told of the end. -/
  | finish

/-- The items that enter by an event. -/
def PipeEvent.entering : PipeEvent α → List α
  | .write items => items
  | _ => []

/-- The items that leave by an event. -/
def PipeEvent.leaving : PipeEvent α → List α
  | .take items => items
  | _ => []

/-- Nothing is written after the close; what is taken stands in front; the end is told only to a
reader that has everything. -/
inductive PipeStep : Pipe α → PipeEvent α → Pipe α → Prop
  | write {p : Pipe α} {items : List α} (unclosed : p.closed = true → items = []) :
      PipeStep p (.write items) { p with written := p.written ++ items }
  | close {p : Pipe α} : PipeStep p .close { p with closed := true }
  | take {p : Pipe α} {items : List α} (front : p.taken ++ items <+: p.written) :
      PipeStep p (.take items) { p with taken := p.taken ++ items }
  | finish {p : Pipe α} (closed : p.closed = true) (all : p.taken = p.written) :
      PipeStep p .finish p

/-- What was taken was written, in the same order, with nothing left out before it. -/
def Pipe.Ordered (p : Pipe α) : Prop := p.taken <+: p.written

/-- The reader has everything there will ever be. -/
structure Pipe.Finished (p : Pipe α) : Prop where
  closed : p.closed = true
  all : p.taken = p.written

variable {p p' : Pipe α} {event : PipeEvent α} {events : List (PipeEvent α)}

theorem Pipe.empty_ordered : (Pipe.empty : Pipe α).Ordered := List.prefix_refl []

theorem PipeStep.written (step : PipeStep p event p') :
    p'.written = p.written ++ event.entering := by
  cases step with
  | write => rfl
  | _ => exact (List.append_nil _).symm

theorem PipeStep.taken (step : PipeStep p event p') : p'.taken = p.taken ++ event.leaving := by
  cases step with
  | take => rfl
  | _ => exact (List.append_nil _).symm

theorem PipeStep.ordered (step : PipeStep p event p') (ordered : p.Ordered) : p'.Ordered := by
  cases step with
  | write => exact ordered.trans (List.prefix_append _ _)
  | close => exact ordered
  | take front => exact front
  | finish => exact ordered

/-- Behind the end nothing is written and nothing is left to take. -/
theorem PipeStep.after_finish (step : PipeStep p event p') (finished : p.Finished) :
    event.entering = [] ∧ event.leaving = [] ∧ p'.Finished := by
  obtain ⟨closed, all⟩ := finished
  cases step with
  | write unclosed =>
      obtain rfl := unclosed closed
      exact ⟨rfl, rfl, closed, all.trans (List.append_nil _).symm⟩
  | close => exact ⟨rfl, rfl, rfl, all⟩
  | @take items front =>
      have nothing : items = [] := by
        have within := front.length_le
        rw [List.length_append, all] at within
        exact List.length_eq_zero_iff.mp (by omega)
      obtain rfl := nothing
      exact ⟨rfl, rfl, closed, (List.append_nil _).trans all⟩
  | finish => exact ⟨rfl, rfl, closed, all⟩

theorem path_ordered (path : Path PipeStep p events p') (ordered : p.Ordered) : p'.Ordered :=
  path.invariant (fun _ _ _ ordered step => step.ordered ordered) ordered

theorem path_written (path : Path PipeStep p events p') :
    p'.written = p.written ++ events.flatMap PipeEvent.entering := by
  induction path with
  | nil => exact (List.append_nil _).symm
  | cons first _ ih => rw [ih, first.written, List.flatMap_cons, List.append_assoc]

theorem path_taken (path : Path PipeStep p events p') :
    p'.taken = p.taken ++ events.flatMap PipeEvent.leaving := by
  induction path with
  | nil => exact (List.append_nil _).symm
  | cons first _ ih => rw [ih, first.taken, List.flatMap_cons, List.append_assoc]

/-- A pipe is closed by an event. -/
theorem path_closed (path : Path PipeStep p events p') (opened : p.closed = false)
    (closed : p'.closed = true) : PipeEvent.close ∈ events := by
  induction path with
  | nil => exact Bool.noConfusion (opened.symm.trans closed)
  | cons first _ ih =>
      cases first with
      | close => exact List.mem_cons_self
      | _ => exact List.mem_cons_of_mem _ (ih opened closed)

/-- A finished pipe stays as it is. -/
theorem path_after_finish (path : Path PipeStep p events p') (finished : p.Finished) :
    p'.Finished :=
  path.invariant (fun _ _ _ finished step => (step.after_finish finished).2.2) finished

/-- **If the reader was told of the end at any time, it has everything.** -/
theorem path_finished (path : Path PipeStep p events p') (told : PipeEvent.finish ∈ events) :
    p'.Finished := by
  induction path with
  | nil => cases told
  | @cons p p₁ p₂ event events first rest ih =>
      rcases List.mem_cons.mp told with rfl | later
      · cases first with
        | finish closed all => exact path_after_finish rest ⟨closed, all⟩
      · exact ih later

end Wire
