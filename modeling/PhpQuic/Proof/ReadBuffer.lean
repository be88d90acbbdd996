/-
**The buffer of `read()`: in bounds, no larger than it must be, and the loop ends.**

`ReadLoop` has the variables of the loop as `size_t`, with every operation modulo 2 ^ 64, and
`LoopStep` is one iteration: the space offered to `SSL_read_ex`, and what it returned.

* `ReadLoop.InBounds`: the joint invariant of `total`, `cap` and `want`.
* `ReadLoop.Advances`: what one iteration does. The space offered is the rest of the buffer and not
  empty, nothing overflows, the loop goes on only with a larger buffer, and `total` increases.
* `read_inBounds`: every run of the loop has at most `want` iterations, is in bounds and advances at
  each; and the calls of `Stream.readLoop` are those of such a run.
-/

import PhpQuic.Interact.Transition
import PhpQuic.Interact.Trace
import PhpQuic.Source.Stream

namespace PhpQuic

open Interact

/-! ### The loop -/

/-- A value as `size_t`. -/
def sizeT (value : Nat) : Nat := value % 2 ^ 64

/-- The variables of the loop; it is `running` where `SSL_read_ex` is called. -/
structure ReadLoop where
  total : Nat
  cap : Nat
  running : Bool
  deriving DecidableEq

/-- One call of `SSL_read_ex`: the space offered, and the bytes got if it returned 1. -/
structure ReadCall where
  space : Nat
  got : Option Nat
  deriving DecidableEq

/-- The capacity after the buffer was filled. -/
def newcap (want cap : Nat) : Nat := if cap ≤ want / 2 then sizeT (cap * 2) else want

namespace ReadLoop

/-- Before the first call. -/
def first (want : Nat) : ReadLoop := ⟨0, if want < 65536 then want else 65536, true⟩

/-- `cap - total`. -/
def space (s : ReadLoop) : Nat := sizeT (s.cap + 2 ^ 64 - s.total)

/-- The rest of the iteration, behind the call. -/
def after (want : Nat) (blocking : Bool) (s : ReadLoop) : Option Nat → ReadLoop
  | none => { s with running := false }
  | some got =>
    let total := sizeT (s.total + got)
    if want ≤ total ∨ blocking = true then ⟨total, s.cap, false⟩
    else if total = s.cap then ⟨total, newcap want s.cap, true⟩
    else ⟨total, s.cap, false⟩

end ReadLoop

/-- **One iteration.** `SSL_read_ex` returns at least one byte, and no more than it was offered
space for. -/
structure LoopStep (want : Nat) (blocking : Bool) (s : ReadLoop) (call : ReadCall) (s' : ReadLoop) :
    Prop where
  running : s.running = true
  offered : call.space = s.space
  received : ∀ got, call.got = some got → 1 ≤ got ∧ got ≤ call.space
  next : s' = s.after want blocking call.got

/-! ### The invariant -/

/-- **The joint invariant of the three counters.** The allocation has `cap` bytes and one for NUL, so
by `filled` the string that is left is inside it. -/
structure ReadLoop.InBounds (want : Nat) (s : ReadLoop) : Prop where
  filled : s.total ≤ s.cap
  room : s.running = true → s.total < s.cap
  bounded : s.cap ≤ want
  small : s.cap ≤ max (min want 65536) (2 * s.total)

/-- What one iteration does. -/
structure ReadLoop.Advances (want : Nat) (s : ReadLoop) (call : ReadCall) (s' : ReadLoop) :
    Prop where
  positive : 0 < call.space
  inside : s.total + call.space = s.cap
  doubles : s.cap ≤ want / 2 → s.cap * 2 < 2 ^ 64
  counted : s'.total = s.total + call.got.getD 0
  nearer : ∀ got, call.got = some got → want - s'.total < want - s.total
  grows : s'.running = true → s.cap < s'.cap
  kept : s'.running = false → s'.cap = s.cap

section Bounds

variable {want : Nat} {blocking : Bool} {s s' : ReadLoop} {call : ReadCall}

/-- Never more than the first allocation, or twice what arrived. -/
theorem ReadLoop.InBounds.memory (inBounds : s.InBounds want) :
    s.cap ≤ 65536 ∨ s.cap ≤ 2 * s.total := by
  have small := inBounds.small
  omega

theorem ReadLoop.first_inBounds (positive : 0 < want) : (first want).InBounds want := by
  refine ⟨Nat.zero_le _, fun _ => ?_, ?_, ?_⟩
  all_goals
    unfold first
    dsimp only
    split <;> omega

/-- In bounds the subtraction is that of numbers. -/
theorem ReadLoop.InBounds.space_eq (inBounds : s.InBounds want) (long : want < 2 ^ 63) :
    s.space = s.cap - s.total := by
  obtain ⟨filled, -, bounded, -⟩ := inBounds
  unfold space sizeT
  omega

/-- So is the addition, and the doubling. -/
theorem sizeT_eq_self {value : Nat} (small : value < 2 ^ 64) : sizeT value = value :=
  Nat.mod_eq_of_lt small

theorem newcap_eq {cap : Nat} (long : want < 2 ^ 63) :
    newcap want cap = Stream.ReadBuffer.grownCap want cap := by
  unfold newcap Stream.ReadBuffer.grownCap
  split
  · exact sizeT_eq_self (by omega)
  · rfl

/-- A buffer short of what is wanted grows, to no more than that and no more than twice. -/
theorem grownCap_bounds {cap : Nat} (used : 0 < cap) (short : cap < want) :
    cap < Stream.ReadBuffer.grownCap want cap ∧ Stream.ReadBuffer.grownCap want cap ≤ want ∧
      Stream.ReadBuffer.grownCap want cap ≤ 2 * cap := by
  unfold Stream.ReadBuffer.grownCap
  split <;> omega

/-- Behind a call that got bytes, without the moduli. -/
theorem ReadLoop.after_some {got : Nat} (long : want < 2 ^ 63) (fits : s.total + got < 2 ^ 64) :
    s.after want blocking (some got) =
      if want ≤ s.total + got ∨ blocking = true then ⟨s.total + got, s.cap, false⟩
      else if s.total + got = s.cap then ⟨s.total + got, Stream.ReadBuffer.grownCap want s.cap, true⟩
      else ⟨s.total + got, s.cap, false⟩ := by
  simp only [after, sizeT_eq_self fits, newcap_eq long]

/-- **One iteration keeps the bounds, and advances.** -/
theorem LoopStep.sound (iteration : LoopStep want blocking s call s') (long : want < 2 ^ 63)
    (inBounds : s.InBounds want) : s'.InBounds want ∧ s.Advances want call s' := by
  obtain ⟨running, offered, received, rfl⟩ := iteration
  rw [inBounds.space_eq long] at offered
  obtain ⟨filled, room, bounded, small⟩ := inBounds
  have room := room running
  have positive : 0 < call.space := by omega
  have inside : s.total + call.space = s.cap := by omega
  have doubles : s.cap ≤ want / 2 → s.cap * 2 < 2 ^ 64 := by omega
  obtain ⟨space, _ | got⟩ := call
  · exact ⟨⟨filled, nofun, bounded, small⟩, positive, inside, doubles, rfl, nofun, nofun,
      fun _ => rfl⟩
  · obtain ⟨least, most⟩ := received got rfl
    dsimp only at most inside
    have nearer : want - (s.total + got) < want - s.total := by omega
    have left : (⟨s.total + got, s.cap, false⟩ : ReadLoop).InBounds want ∧
        s.Advances want ⟨space, some got⟩ ⟨s.total + got, s.cap, false⟩ := by
      refine ⟨⟨by dsimp only; omega, nofun, bounded, by dsimp only; omega⟩, positive, inside,
        doubles, rfl, ?_, nofun, fun _ => rfl⟩
      rintro _ ⟨rfl⟩
      exact nearer
    have larger (short : s.total + got < want) (full : s.total + got = s.cap) :
        (⟨s.total + got, Stream.ReadBuffer.grownCap want s.cap, true⟩ : ReadLoop).InBounds want ∧
        s.Advances want ⟨space, some got⟩
          ⟨s.total + got, Stream.ReadBuffer.grownCap want s.cap, true⟩ := by
      obtain ⟨grows, within, doubled⟩ := grownCap_bounds (by omega) (full ▸ short)
      refine ⟨⟨by dsimp only; omega, fun _ => by dsimp only; omega, within, by dsimp only; omega⟩,
        positive, inside, doubles, rfl, ?_, fun _ => grows, nofun⟩
      rintro _ ⟨rfl⟩
      exact nearer
    rw [ReadLoop.after_some long (by omega)]
    split
    · exact left
    · rename_i more
      split
      · rename_i full
        exact larger (by omega) full
      · exact left

/-! ### Whole runs -/

/-- How many bytes may still come. -/
def ReadLoop.remaining (want : Nat) (s : ReadLoop) : Nat :=
  if s.running then want - s.total else 0

theorem LoopStep.remaining_lt (iteration : LoopStep want blocking s call s') (long : want < 2 ^ 63)
    (inBounds : s.InBounds want) : s'.remaining want < s.remaining want := by
  obtain ⟨-, advances⟩ := iteration.sound long inBounds
  have room := inBounds.room iteration.running
  have bounded := inBounds.bounded
  have here : s.remaining want = want - s.total := if_pos iteration.running
  unfold ReadLoop.remaining at here ⊢
  rw [here]
  split
  · rename_i again
    cases answered : call.got with
    | none =>
        have left : s'.running = false := by rw [iteration.next, answered]; rfl
        exact nomatch left.symm.trans again
    | some got => exact advances.nearer got answered
  · omega

variable {calls : List ReadCall}

theorem path_inBounds (positive : 0 < want) (long : want < 2 ^ 63)
    (path : Path (LoopStep want blocking) (.first want) calls s) : s.InBounds want :=
  path.invariant (fun _ _ _ inBounds iteration => (iteration.sound long inBounds).1)
    (ReadLoop.first_inBounds positive)

theorem path_length_le (positive : 0 < want) (long : want < 2 ^ 63)
    (path : Path (LoopStep want blocking) (.first want) calls s) : calls.length ≤ want := by
  have bound := path.length_add_le (ReadLoop.remaining want)
    (fun _ _ _ inBounds iteration => (iteration.sound long inBounds).1)
    (fun _ _ _ inBounds iteration => iteration.remaining_lt long inBounds)
    (ReadLoop.first_inBounds positive)
  exact Nat.le_trans (Nat.le_add_right _ _) bound

/-- Whatever comes back, the loop can go on while it runs. -/
theorem exists_loopStep (running : s.running = true) (got : Option Nat)
    (received : ∀ count, got = some count → 1 ≤ count ∧ count ≤ s.space) :
    ∃ s', LoopStep want blocking s ⟨s.space, got⟩ s' := ⟨_, running, rfl, received, rfl⟩

end Bounds

/-! ### `Stream.readLoop` -/

/-- The call of `SSL_read_ex` in an exchange. -/
def readCall {S : Type} : Exchange openssl S → ReadCall
  | ⟨_, .sslReadEx _ space, answer, _⟩ => ⟨space, answer.map fun got => got.1.length⟩
  | _ => ⟨0, none⟩

/-- The loop at a buffer. -/
def ReadLoop.ofBuffer {want : Nat} (buf : Stream.ReadBuffer want) : ReadLoop :=
  ⟨buf.bytes.length, buf.cap, true⟩

theorem ReadLoop.space_ofBuffer {want : Nat} (buf : Stream.ReadBuffer want) (long : want < 2 ^ 63) :
    (ofBuffer buf).space = buf.cap - buf.bytes.length := by
  have room := buf.room
  have bounded := buf.bounded
  unfold ofBuffer space sizeT
  dsimp only
  omega

/-- The iteration at a buffer that gets bytes. -/
theorem loopStep_ofBuffer {want : Nat} (blocking : Bool) (long : want < 2 ^ 63)
    (buf : Stream.ReadBuffer want)
    (got : {bytes : Bytes // 0 < bytes.length ∧ bytes.length ≤ buf.cap - buf.bytes.length}) :
    LoopStep want blocking (.ofBuffer buf) ⟨buf.cap - buf.bytes.length, some got.1.length⟩
      (if want ≤ (buf.bytes ++ got.1).length ∨ blocking = true then
        ⟨(buf.bytes ++ got.1).length, buf.cap, false⟩
      else if (buf.bytes ++ got.1).length = buf.cap then
        ⟨(buf.bytes ++ got.1).length, Stream.ReadBuffer.grownCap want buf.cap, true⟩
      else ⟨(buf.bytes ++ got.1).length, buf.cap, false⟩) := by
  have room := buf.room
  have bounded := buf.bounded
  have fits := got.2
  refine ⟨rfl, (ReadLoop.space_ofBuffer buf long).symm, ?_, ?_⟩
  · rintro _ ⟨rfl⟩
    exact fits
  · have small : (ReadLoop.ofBuffer buf).total + got.1.length < 2 ^ 64 := by
      show buf.bytes.length + got.1.length < 2 ^ 64
      omega
    rw [ReadLoop.after_some long small, List.length_append]
    rfl

/-- **The calls of `Stream.readLoop` are those of a run of the loop**, from its buffer to what it
returns. -/
theorem readLoop_path {S : Type} {B : Behaviour openssl S} {ssl : Ssl} {want : Nat}
    {blocking : Bool} (long : want < 2 ^ 63) {buf : Stream.ReadBuffer want} {s s' : S}
    {exchanges : List (Exchange openssl S)} {value : Bytes × Int}
    (trace : Trace B (Stream.readLoop ssl want blocking buf) s exchanges value s') :
    ∃ cap, Path (LoopStep want blocking) (.ofBuffer buf) (exchanges.map readCall)
      ⟨value.1.length, cap, false⟩ := by
  induction buf using Stream.readLoop.induct want blocking generalizing s exchanges with
  | case1 buf ih =>
      rw [Stream.readLoop] at trace
      obtain ⟨answer, s₁, later, -, rfl, rest⟩ := trace_call_bind trace
      cases answer with
      | none =>
          obtain ⟨rfl, rfl, rfl⟩ := trace_pure rest
          exact ⟨buf.cap, .single ⟨rfl, (ReadLoop.space_ofBuffer buf long).symm, nofun, rfl⟩⟩
      | some got =>
          have step := loopStep_ofBuffer blocking long buf got
          dsimp only at rest
          split at rest
          · rename_i enough
            obtain ⟨rfl, rfl, rfl⟩ := trace_pure rest
            rw [if_pos enough] at step
            exact ⟨buf.cap, .single step⟩
          · rename_i short
            rw [if_neg short] at step
            split at rest
            · rename_i full
              rw [if_pos full] at step
              obtain ⟨cap, path⟩ := ih got short full rest
              exact ⟨cap, .cons step path⟩
            · rename_i more
              obtain ⟨rfl, rfl, rfl⟩ := trace_pure rest
              rw [if_neg more] at step
              exact ⟨buf.cap, .single step⟩

/-- **The buffer of `read()`.** Every run of the loop has at most `want` iterations; before and
after each the counters are in bounds, each advances, and none gets stuck; and the calls of
`Stream.readLoop` are those of a run that is left with what was read. -/
theorem read_inBounds (length : Int) (positive : 0 < length) (long : length < 2 ^ 63)
    (blocking : Bool) :
    (∀ calls s, Path (LoopStep length.toNat blocking) (.first length.toNat) calls s →
      calls.length ≤ length.toNat ∧ s.InBounds length.toNat ∧
        (s.cap ≤ 65536 ∨ s.cap ≤ 2 * s.total) ∧
        (∀ call s', LoopStep length.toNat blocking s call s' → s.Advances length.toNat call s') ∧
        (s.running = true → ∀ got, (∀ count, got = some count → 1 ≤ count ∧ count ≤ s.space) →
          ∃ s', LoopStep length.toNat blocking s ⟨s.space, got⟩ s')) ∧
      ∀ (S : Type) (B : Behaviour openssl S) (ssl : Ssl) (s s' : S)
        (exchanges : List (Exchange openssl S)) (value : Bytes × Int),
        Trace B (Stream.readLoop ssl length.toNat blocking (.initial length.toNat (by omega))) s
            exchanges value s' →
          ∃ cap, Path (LoopStep length.toNat blocking) (.first length.toNat)
            (exchanges.map readCall) ⟨value.1.length, cap, false⟩ := by
  have wanted : 0 < length.toNat := by omega
  have small : length.toNat < 2 ^ 63 := by omega
  refine ⟨fun calls s path => ?_, fun S B ssl s s' exchanges value trace => ?_⟩
  · have inBounds := path_inBounds wanted small path
    refine ⟨path_length_le wanted small path, inBounds, inBounds.memory, ?_, exists_loopStep⟩
    exact fun call s' iteration => (iteration.sound small inBounds).2
  · exact readLoop_path small trace

/-- Of 100000 bytes 65536 come at once; the buffer grows to 100000. -/
theorem read_inBounds_example :
    (⟨65536, 100000, true⟩ : ReadLoop).InBounds 100000 ∧
      ([⟨65536, some 65536⟩] : List ReadCall).length ≤ 100000 := by
  have filled : LoopStep 100000 false (.first 100000) ⟨65536, some 65536⟩ ⟨65536, 100000, true⟩ := by
    refine ⟨rfl, rfl, ?_, by decide⟩
    rintro _ ⟨rfl⟩
    decide
  obtain ⟨length, inBounds, -⟩ :=
    (read_inBounds 100000 (by decide) (by decide) false).1 _ _ (.single filled)
  exact ⟨inBounds, length⟩

end PhpQuic
