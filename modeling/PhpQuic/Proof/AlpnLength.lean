/-
**How long an accepted ALPN list can get.**

The TLS extension holds a `ProtocolNameList` of 2 to 65535 bytes. The encoder bounds each protocol,
never the list.

* `wireLength`: the length of the list that a specification stands for, from the specification.
* `alpnOut_length`: an accepted specification is encoded into that many bytes.
* `alpn_legal_iff`: what comes out is legal exactly when the specification is refused anyway, or
  stands for at most 65535 bytes.
* `alpn_overlong`: 256 protocols of 255 bytes are accepted.
-/

import PhpQuic.Proof.AlpnList

namespace PhpQuic

open Interact

/-- The length of the list a specification stands for. -/
def wireLength (spec : Zval) (converted : List Bytes) : Nat :=
  ((alpnProtocols spec converted).map fun proto => proto.length + 1).sum

/-- The longest `ProtocolNameList` of the TLS extension. -/
def longestList : Nat := 65535

/-- A list the TLS extension can carry, and that both casts of its length leave whole. -/
structure LegalList (bytes : Bytes) : Prop where
  least : 2 ≤ bytes.length
  most : bytes.length ≤ longestList
  whole : castLength bytes = bytes

theorem LegalList.of_length {bytes : Bytes} (least : 2 ≤ bytes.length)
    (most : bytes.length ≤ longestList) : LegalList bytes := by
  refine ⟨least, most, ?_⟩
  unfold longestList at most
  rw [castLength, Nat.mod_eq_of_lt (by omega), List.take_length]

/-- One protocol of at least one byte makes a list of at least two. -/
theorem Acceptable.two_le_wireLength {spec : Zval} {converted : List Bytes}
    (accepted : Acceptable spec converted) : 2 ≤ wireLength spec converted := by
  obtain ⟨nonempty, valid, -⟩ := accepted
  unfold wireLength
  cases protocols : alpnProtocols spec converted with
  | nil => exact absurd protocols nonempty
  | cons proto rest =>
      have positive := (valid proto (protocols ▸ List.mem_cons_self)).1
      rw [List.map_cons, List.sum_cons]
      omega

section Run

variable {spec : Zval} {converted more start final : List Bytes} {result : ZendResult ZendString}
  (whole : Converts spec converted) (initial : start = converted ++ more)
  (ran : Run converting (phpQuicAlpnFromZval spec) start result final)
include whole initial ran

/-- **The length of what comes out**, from what went in. -/
theorem alpnOut_length {out : ZendString} (made : result = .ok out) :
    Acceptable spec converted ∧ out.bytes.length = wireLength spec converted := by
  subst initial
  obtain ⟨accepts, encodes⟩ :=
    (phpQuicAlpnFromZval_result spec converted whole more result final ran).ok_iff
  refine ⟨accepts.mp ⟨out, made⟩, ?_⟩
  rw [encodes out made, Wire.encode_length]
  rfl

end Run

/-- **Accepted lists are legal, and longer ones refused, exactly when** the specification is refused
in any case or stands for at most 65535 bytes. -/
theorem alpn_legal_iff {spec : Zval} {converted final : List Bytes}
    {result : ZendResult ZendString} (whole : Converts spec converted)
    (ran : Run converting (phpQuicAlpnFromZval spec) converted result final) :
    (∀ out, result = .ok out → LegalList out.bytes) ∧
        (longestList < wireLength spec converted → ∃ message, result = .error message) ↔
      ¬ Acceptable spec converted ∨ wireLength spec converted ≤ longestList := by
  have initial := (List.append_nil converted).symm
  cases result with
  | error message =>
      have refused : ¬ Acceptable spec converted := fun accepted => by
        obtain ⟨out, made⟩ := (alpn_decodes whole initial ran).1.mpr accepted
        cases made
      exact iff_of_true ⟨nofun, fun _ => ⟨message, rfl⟩⟩ (.inl refused)
  | ok out =>
      obtain ⟨accepted, length⟩ := alpnOut_length whole initial ran rfl
      constructor
      · rintro ⟨legal, -⟩
        exact .inr (length ▸ (legal out rfl).most)
      · rintro (refused | short)
        · exact absurd accepted refused
        · refine ⟨fun other same => ?_, fun long => absurd short (Nat.not_le.mpr long)⟩
          obtain rfl := Except.ok.inj same
          exact .of_length (length ▸ accepted.two_le_wireLength) (length ▸ short)

theorem alpn_legal_example :
    ∃ out, (exec convertingHandler (phpQuicAlpnFromZval (.string (text "h3,h2"))) []).1 =
      .ok out ∧ LegalList out.bytes := by
  have ran := run_exec convertingHandler_allowed (phpQuicAlpnFromZval (.string (text "h3,h2"))) []
  have whole : Converts (.string (text "h3,h2")) [] := trivial
  have accepted := (acceptable_string_iff (text "h3,h2") []).mpr (by decide)
  obtain ⟨out, made⟩ := (alpn_decodes whole (List.append_nil []).symm ran).1.mpr accepted
  exact ⟨out, made, ((alpn_legal_iff whole ran).mpr (.inr (by decide))).1 out made⟩

/-! ### A list that is too long -/

/-- A protocol of the greatest length. -/
def longProtocol : Bytes := List.replicate 255 97

/-- 256 of them. -/
def longSpec : HashTable :=
  (List.range 256).map fun (index : Nat) => (.index index, .string longProtocol)

def longProtocols : List Bytes := List.replicate 256 longProtocol

theorem longSpec_converts : Converts (.array longSpec) longProtocols := by
  show longProtocols.length = longSpec.length
  rw [longProtocols, longSpec, List.length_replicate, List.length_map, List.length_range]

theorem longProtocols_acceptable : Acceptable (.array longSpec) longProtocols := by
  refine ⟨List.cons_ne_nil _ _, fun proto member => ?_, trivial⟩
  obtain rfl := List.eq_of_mem_replicate (show proto ∈ longProtocols from member)
  unfold IsProtocol longProtocol
  rw [List.length_replicate]
  exact ⟨by decide, by decide⟩

theorem longProtocols_wireLength : wireLength (.array longSpec) longProtocols = 65536 := by
  show (longProtocols.map fun proto => proto.length + 1).sum = 65536
  unfold longProtocols longProtocol
  rw [List.map_replicate, List.sum_replicate_nat, List.length_replicate]

/-- **It is accepted, with 65536 bytes.** -/
theorem alpn_overlong : ∃ out final,
    Run converting (phpQuicAlpnFromZval (.array longSpec)) longProtocols (.ok out) final ∧
      out.bytes.length = 65536 ∧ ¬ LegalList out.bytes := by
  have ran :=
    run_exec convertingHandler_allowed (phpQuicAlpnFromZval (.array longSpec)) longProtocols
  have initial := (List.append_nil longProtocols).symm
  obtain ⟨out, made⟩ :=
    (alpn_decodes longSpec_converts initial ran).1.mpr longProtocols_acceptable
  obtain ⟨-, length⟩ := alpnOut_length longSpec_converts initial ran made
  rw [longProtocols_wireLength] at length
  refine ⟨out, _, made ▸ ran, length, fun legal => ?_⟩
  have most := legal.most
  rw [length] at most
  exact absurd most (by decide)

end PhpQuic
