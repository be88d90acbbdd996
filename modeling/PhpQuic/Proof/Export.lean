/-
**Certificates as PHP sees them.**

Every certificate is written to a memory BIO of its own and copied from there. A write that fails may
have written a part.

* `x509ToPem_exports`: the copy is the whole encoding, or there is none; the BIO is gone again.
* `chainToPem_exports`: the loop keeps the order, and leaves out those that failed.
* `certificates_exported`: what `getPeerCertificate()` and `getPeerCertificateChain()` return of the
  certificates that the engine presents.
-/

import PhpQuic.Openssl.Environment
import PhpQuic.Proof.Calls

namespace PhpQuic

open Interact
open Function (update update_self update_idem update_eq_self)

/-! ### Memory BIOs -/

/-- The contents of the memory BIOs in use, and how many certificates could not be encoded. -/
structure MemoryBios where
  contents : Bio → Option Bytes
  failed : Nat

namespace MemoryBios

def put (s : MemoryBios) (bio : Bio) (held : Option Bytes) : MemoryBios :=
  { s with contents := update s.contents bio held }

def fail (s : MemoryBios) : MemoryBios := { s with failed := s.failed + 1 }

variable {s : MemoryBios} {bio : Bio}

theorem put_put (held held' : Option Bytes) :
    (s.put bio held).put bio held' = s.put bio held' := by
  simp only [put, update_idem]

/-- A BIO that was not in use is gone again. -/
theorem put_none (unused : s.contents bio = none) : s.put bio none = s := by
  rw [put, ← unused, update_eq_self]

theorem put_fail (held : Option Bytes) : (s.put bio held).fail = s.fail.put bio held := rfl

end MemoryBios

section Exporting

variable (pem : X509 → Bytes) (leaf : Ssl → Option X509) (chain : Ssl → Option (List X509))

/-- A new memory BIO is one that is not in use, and is empty. A write adds the encoding, or fails
having written a part of it. -/
def exporting : Behaviour openssl MemoryBios := fun s call answer s' =>
  match call, answer with
  | .bioNewMem, some bio => s.contents bio = none ∧ s' = s.put bio (some [])
  | .bioNewMem, none => s' = s.fail
  | .pemWriteBioX509 bio cert, rc => ∃ written, written <+: pem cert ∧ (rc ≠ 0 → written = pem cert) ∧
      s' = (if rc = 0 then s.fail else s).put bio ((s.contents bio).map (· ++ written))
  | .bioGetMemData bio, data => (∀ held, s.contents bio = some held → data = held) ∧ s' = s
  | .bioFree bio, _ => s' = s.put bio none
  | .sslGet1PeerCertificate ssl, cert => cert = leaf ssl ∧ s' = s
  | .sslGetPeerCertChain ssl, certs => certs = chain ssl ∧ s' = s
  | _, _ => s' = s

variable {pem leaf chain} {s : MemoryBios}

/-! ### One certificate -/

/-- The whole encoding, or none and one failure more. No BIO is left. -/
inductive Encoded (text : Bytes) (s : MemoryBios) : Option Bytes → MemoryBios → Prop
  | whole : Encoded text s (some text) s
  | failed : Encoded text s none s.fail

theorem x509ToPem_exports (cert : X509) (s : MemoryBios) :
    Always (exporting pem leaf chain) (phpQuicX509ToPem cert) (Encoded (pem cert) s) s := by
  refine always_call_bind.mpr fun made s₁ opened => ?_
  cases made with
  | none =>
      obtain rfl : s₁ = s.fail := opened
      exact .pure .failed
  | some bio =>
      obtain ⟨unused, rfl⟩ := opened
      refine always_call_bind.mpr fun rc s₂ ⟨written, _, whole, added⟩ => .ite (fun zero => ?_)
        fun worked => ?_
      · rw [if_pos zero, MemoryBios.put_fail, MemoryBios.put_put] at added
        refine always_call_bind.mpr fun _ s₃ freed => .pure ?_
        obtain rfl : s₃ = s₂.put bio none := freed
        have unused' : s.fail.contents bio = none := unused
        rw [added, MemoryBios.put_put, MemoryBios.put_none unused']
        exact .failed
      · obtain rfl := whole worked
        rw [if_neg worked, MemoryBios.put_put] at added
        refine always_call_bind.mpr fun out s₃ ⟨copied, same⟩ => always_call_bind.mpr fun _ s₄ freed =>
          .pure ?_
        obtain rfl : s₄ = s₃.put bio none := freed
        have held : s₂.contents bio = some (pem cert) := by
          rw [added]
          simp only [MemoryBios.put, update_self, Option.map_some, List.nil_append]
        rw [copied _ held, same, added, MemoryBios.put_put, MemoryBios.put_none unused]
        exact .whole

/-! ### The chain -/

/-- The encodings of some of the certificates, in their order; each of the others failed. -/
def Exports (pem : X509 → Bytes) (certs : List X509) (s : MemoryBios) (result : List Bytes)
    (s' : MemoryBios) : Prop :=
  ∃ kept : List X509, kept.Sublist certs ∧ result = kept.map pem ∧ s'.contents = s.contents ∧
    kept.length + s'.failed = certs.length + s.failed

theorem chainToPem_exports (certs : List X509) (s : MemoryBios) :
    Always (exporting pem leaf chain) (Connection.chainToPem certs) (Exports pem certs s) s := by
  induction certs generalizing s with
  | nil => exact .pure ⟨[], List.Sublist.refl _, rfl, rfl, rfl⟩
  | cons cert rest ih =>
      refine (x509ToPem_exports cert s).bind fun encoded s₁ wrote => ?_
      refine (ih s₁).bind fun others s₂ ⟨kept, inside, same, restored, counted⟩ => .pure ?_
      subst same
      cases wrote with
      | whole =>
          refine ⟨cert :: kept, inside.cons_cons cert, rfl, restored, ?_⟩
          rw [List.length_cons, List.length_cons]
          omega
      | failed =>
          refine ⟨kept, inside.cons cert, rfl, restored, ?_⟩
          rw [List.length_cons]
          simp only [MemoryBios.fail] at counted
          omega

/-! ### The two methods -/

/-- Raising an exception leaves the BIOs alone. -/
theorem exporting_kept (s : MemoryBios) (call : Call) (answer : Answer call) (s' : MemoryBios)
    (throws : call.IsThrow) (replied : exporting pem leaf chain s call answer s') : s' = s := by
  cases call <;> first | exact replied | exact throws.elim

theorem getPeerCertificateChain_exports (obj : PhpQuicConnection) (s : MemoryBios) :
    Always (exporting pem leaf chain) (Connection.getPeerCertificateChain obj)
      (Exports pem ((obj.ssl.bind chain).getD []) s) s := by
  have nothing : Exports pem [] s [] s := ⟨[], List.Sublist.refl _, rfl, rfl, rfl⟩
  unfold Connection.getPeerCertificateChain
  cases obj.ssl with
  | none => exact .pure nothing
  | some ssl =>
      refine always_call_bind.mpr fun certs s₁ ⟨presented, same⟩ => ?_
      obtain rfl : s₁ = s := same
      rw [Option.bind_some, ← presented]
      cases certs with
      | none => exact .pure nothing
      | some certs => exact chainToPem_exports certs s₁

/-- What `getPeerCertificate()` makes of the certificate that is presented. -/
inductive ExportsLeaf (pem : X509 → Bytes) (s : MemoryBios) :
    Option X509 → Outcome (Option Bytes) → MemoryBios → Prop
  | absent : ExportsLeaf pem s none (.ok none) s
  | whole (cert : X509) : ExportsLeaf pem s (some cert) (.ok (some (pem cert))) s
  | failed (cert : X509) (thrown : Thrown) : ExportsLeaf pem s (some cert) (.error thrown) s.fail

theorem getPeerCertificate_exports (obj : PhpQuicConnection) (s : MemoryBios) :
    Always (exporting pem leaf chain) (Connection.getPeerCertificate obj)
      (ExportsLeaf pem s (obj.ssl.bind leaf)) s := by
  unfold Connection.getPeerCertificate
  cases obj.ssl with
  | none => exact .pure .absent
  | some ssl =>
      refine always_call_bind.mpr fun cert s₁ ⟨presented, same⟩ => ?_
      obtain rfl : s₁ = s := same
      rw [Option.bind_some, ← presented]
      cases cert with
      | none => exact .pure .absent
      | some cert =>
          refine (x509ToPem_exports cert s₁).bind fun encoded s₂ wrote => ?_
          refine always_call_bind.mpr fun _ s₃ freed => ?_
          obtain rfl : s₃ = s₂ := freed
          cases wrote with
          | whole => exact .pure (.whole cert)
          | failed =>
              refine .skip (phpQuicThrowSsl_calls _) exporting_kept fun thrown => ?_
              exact .pure (.failed cert thrown)

/-- **What PHP is shown of the certificates is true.** The chain has the whole encodings of the
certificates that the engine presents, in their order, all of them if none failed; the peer's
certificate is the one the engine presents, or absent with it, or an exception. The memory BIOs
in use are those from before. -/
theorem certificates_exported (obj : PhpQuicConnection) {s s' : MemoryBios} :
    (∀ result, Run (exporting pem leaf chain) (Connection.getPeerCertificateChain obj) s result s' →
      (∃ kept : List X509, kept.Sublist ((obj.ssl.bind chain).getD []) ∧ result = kept.map pem) ∧
        (result = ((obj.ssl.bind chain).getD []).map pem ↔ s'.failed = s.failed) ∧
        s'.contents = s.contents) ∧
    ∀ outcome, Run (exporting pem leaf chain) (Connection.getPeerCertificate obj) s outcome s' →
      (∀ text, outcome = .ok text → text = (obj.ssl.bind leaf).map pem) ∧
        ((∃ thrown, outcome = .error thrown) ↔ s'.failed ≠ s.failed) ∧
        s'.contents = s.contents := by
  refine ⟨fun result run => ?_, fun outcome run => ?_⟩
  · obtain ⟨kept, inside, same, restored, counted⟩ :=
      getPeerCertificateChain_exports obj s result s' run
    refine ⟨⟨kept, inside, same⟩, ⟨fun all => ?_, fun none_failed => ?_⟩, restored⟩
    · have lengths := congrArg List.length (same.symm.trans all)
      rw [List.length_map, List.length_map] at lengths
      omega
    · have whole := inside.eq_of_length (by omega)
      rw [same, whole]
  · have exported := getPeerCertificate_exports obj s outcome s' run
    generalize obj.ssl.bind leaf = presented at exported ⊢
    cases exported with
    | absent =>
        exact ⟨fun _ same => (Except.ok.inj same).symm,
          iff_of_false (fun ⟨_, threw⟩ => by cases threw) (absurd rfl), rfl⟩
    | whole cert =>
        exact ⟨fun _ same => (Except.ok.inj same).symm,
          iff_of_false (fun ⟨_, threw⟩ => by cases threw) (absurd rfl), rfl⟩
    | failed cert thrown =>
        exact ⟨fun _ same => (by cases same),
          iff_of_true ⟨thrown, rfl⟩ (Nat.succ_ne_self s.failed), rfl⟩

end Exporting

/-! ### A chain of three, of which the second fails -/

/-- A text for each certificate. -/
def numbered (cert : X509) : Bytes := text "-----" ++ decimal cert

def exportHandler : Handler openssl MemoryBios := fun s call =>
  match call with
  | .bioNewMem => if s.contents 1 = none then (some 1, s.put 1 (some [])) else (none, s.fail)
  | .pemWriteBioX509 bio cert =>
    let rc : Int := if cert = 2 then 0 else 1
    let written := if cert = 2 then (numbered cert).take 3 else numbered cert
    (rc, (if rc = 0 then s.fail else s).put bio ((s.contents bio).map (· ++ written)))
  | .bioGetMemData bio => ((s.contents bio).getD [], s)
  | .bioFree bio => ((), s.put bio none)
  | .sslGet1PeerCertificate _ => (some 1, s)
  | .sslGetPeerCertChain _ => (some [1, 2, 3], s)
  | call => (succeeding call, s)

theorem exportHandler_allowed (s : MemoryBios) (call : Call) :
    exporting numbered (fun _ => some 1) (fun _ => some [1, 2, 3]) s call (exportHandler s call).1
      (exportHandler s call).2 := by
  cases call with
  | bioNewMem =>
      unfold exportHandler
      by_cases unused : s.contents 1 = none
      · simp only [if_pos unused]
        exact ⟨unused, rfl⟩
      · simp only [if_neg unused]
        rfl
  | pemWriteBioX509 bio cert =>
      by_cases second : cert = 2
      · refine ⟨(numbered cert).take 3, List.take_prefix 3 _, fun worked => ?_, ?_⟩
        · exact absurd (if_pos second) worked
        · simp only [exportHandler, if_pos second]
      · refine ⟨numbered cert, List.prefix_refl _, fun _ => rfl, ?_⟩
        simp only [exportHandler, if_neg second]
  | bioGetMemData bio =>
      refine ⟨fun held same => ?_, rfl⟩
      simp only [exportHandler, same, Option.getD_some]
  | sslGet1PeerCertificate _ | sslGetPeerCertChain _ => exact ⟨rfl, rfl⟩
  | _ => rfl

/-- No BIO in use. -/
def noBios : MemoryBios := ⟨fun _ => none, 0⟩

/-- A connection with an SSL object. -/
def shownConnection : PhpQuicConnection := { quicConnectionCreate with ssl := some 1 }

/-- What was written of the second certificate is not shown, and the BIO is used three times. -/
theorem certificates_exported_example : ∃ s',
    Run (exporting numbered (fun _ => some 1) (fun _ => some [1, 2, 3]))
      (Connection.getPeerCertificateChain shownConnection) noBios [numbered 1, numbered 3] s' ∧
    s'.contents = noBios.contents := by
  have run := run_exec exportHandler_allowed (Connection.getPeerCertificateChain shownConnection)
    noBios
  exact ⟨_, run, ((certificates_exported shownConnection).1 _ run).2.2⟩

end PhpQuic
