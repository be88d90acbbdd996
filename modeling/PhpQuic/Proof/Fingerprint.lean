/-
**The comparison of fingerprints, in both forms of a specification.**

A PHP string is compared through its C string: the bytes behind a NUL do not take part.

* `matches_iff`: a pin matches as a whole exactly when it does up to its first NUL and has none.
* `verdict_single`: the string form decides as the array form with one entry, under the name of the
  digest of its length.
* `fingerprint_exact_iff`: on arrays of known and strong digests the check is the comparison of whole
  values, exactly when not all values match up to their first NUL while one of them goes on there.
-/

import PhpQuic.Proof.Pinning

namespace PhpQuic

open Interact

/-- An array of pins: every key names a digest that OpenSSL knows, of at least 32 bytes, and every
value is a string. -/
def WellFormedPins (peer : Peer) (elements : HashTable) : Prop :=
  ∀ entry ∈ elements, ∃ algo value md, entry = (.name algo, .string value) ∧
    peer.digestByName (cString algo) = some md ∧ 32 ≤ md.getSize

/-- The pin's value up to its first NUL is the digest of the certificate in hexadecimal. -/
def Pin.MatchesCut (pin : Pin) (peer : Peer) (cert : X509) : Prop :=
  ∃ md digest value, pin.digest = some md ∧ peer.digestOf cert md = some digest ∧
    pin.value = some value ∧ Wire.decodeHex (cString value) = some digest

/-- The pin's value goes on after a NUL. -/
def Pin.HasNul (pin : Pin) : Prop := ∃ value, pin.value = some value ∧ ¬ NulFree value

/-- A value matches as a whole exactly if it does up to its first NUL and has none. -/
theorem matches_iff (pin : Pin) (peer : Peer) (cert : X509) :
    pin.Matches peer cert ↔ pin.MatchesCut peer cert ∧ ¬ pin.HasNul := by
  constructor
  · rintro ⟨md, digest, value, named, computed, given, whole⟩
    obtain ⟨same, free⟩ := (decodeHex_iff_strcaseeq value digest).mp whole
    refine ⟨⟨md, digest, value, named, computed, given, (strcaseeq_hexEncode_iff ..).mp same⟩, ?_⟩
    rintro ⟨value', given', nul⟩
    cases given.symm.trans given'
    exact nul free
  · rintro ⟨⟨md, digest, value, named, computed, given, cut⟩, noNul⟩
    have free : NulFree value := not_not.mp fun nul => noNul ⟨value, given, nul⟩
    exact ⟨md, digest, value, named, computed, given,
      (decodeHex_iff_strcaseeq ..).mpr ⟨(strcaseeq_hexEncode_iff ..).mpr cut, free⟩⟩

/-- Of a well-formed entry, the code tests the value up to its first NUL. -/
theorem entryPasses_iff {peer : Peer} {cert : X509} {elements : HashTable}
    (wellFormed : WellFormedPins peer elements) {entry : ArrayKey × Zval} (member : entry ∈ elements) :
    EntryPasses peer cert entry ↔ (entryPin peer entry).MatchesCut peer cert := by
  obtain ⟨algo, value, md, rfl, named, large⟩ := wellFormed entry member
  constructor
  · rintro ⟨algo', value', md', digest, same, named', -, computed, equal⟩
    cases same
    exact ⟨md', digest, value, named', computed, rfl, (strcaseeq_hexEncode_iff ..).mp equal⟩
  · rintro ⟨md', digest, value', named', computed, given, cut⟩
    cases given
    cases named.symm.trans named'
    exact ⟨algo, value, md, digest, rfl, named, large, computed,
      (strcaseeq_hexEncode_iff ..).mpr cut⟩

/-! ### The string form -/

/-- OpenSSL's names of the three digests of the string form. -/
structure KnowsSha2 (peer : Peer) : Prop where
  sha256 : peer.digestByName (text "sha256") = some .sha256
  sha384 : peer.digestByName (text "sha384") = some .sha384
  sha512 : peer.digestByName (text "sha512") = some .sha512

/-- **The string form is the array form with one entry**, under a name of the digest that its length
stands for. -/
theorem verdict_single {peer : Peer} {cert : X509} (presented : peer.certificate = some cert)
    (ssl : Ssl) {value algo : Bytes} {md : EvpMd} (free : NulFree algo)
    (known : peer.digestByName algo = some md) (sized : phpQuicMdForHexlen value.length = some md) :
    peer.verdict ssl (.string value) = .ok () ↔
      peer.verdict ssl (.array [(.name algo, .string value)]) = .ok () := by
  have large : 32 ≤ md.getSize := (mdForHexlen_size sized).2.1
  rw [verdict_string presented, verdict_array presented, List.forall_mem_singleton]
  constructor
  · rintro ⟨md', digest, sized', computed, equal⟩
    cases sized.symm.trans sized'
    exact ⟨algo, value, md, digest, rfl, by rw [cString_eq_self free, known], large, computed, equal⟩
  · rintro ⟨algo', value', md', digest, same, named, -, computed, equal⟩
    cases same
    rw [cString_eq_self free, known] at named
    cases named
    exact ⟨md, digest, sized, computed, equal⟩

/-- The two forms agree: on strings of the three lengths, and on no other is there a digest. -/
def FormsAgree (peer : Peer) (ssl : Ssl) : Prop :=
  ∀ value : Bytes,
    (value.length = 64 → (peer.verdict ssl (.string value) = .ok () ↔
      peer.verdict ssl (.array [(.name (text "sha256"), .string value)]) = .ok ())) ∧
    (value.length = 96 → (peer.verdict ssl (.string value) = .ok () ↔
      peer.verdict ssl (.array [(.name (text "sha384"), .string value)]) = .ok ())) ∧
    (value.length = 128 → (peer.verdict ssl (.string value) = .ok () ↔
      peer.verdict ssl (.array [(.name (text "sha512"), .string value)]) = .ok ())) ∧
    (value.length ≠ 64 → value.length ≠ 96 → value.length ≠ 128 →
      peer.verdict ssl (.string value) ≠ .ok ())

theorem formsAgree {peer : Peer} {cert : X509} (presented : peer.certificate = some cert)
    (known : KnowsSha2 peer) (ssl : Ssl) : FormsAgree peer ssl := by
  intro value
  refine ⟨fun length => ?_, fun length => ?_, fun length => ?_, fun not256 not384 not512 => ?_⟩
  · exact verdict_single presented ssl (by decide) known.sha256 (by rw [length]; rfl)
  · exact verdict_single presented ssl (by decide) known.sha384 (by rw [length]; rfl)
  · exact verdict_single presented ssl (by decide) known.sha512 (by rw [length]; rfl)
  · rw [ne_eq, verdict_string presented]
    rintro ⟨md, digest, sized, -⟩
    rw [phpQuicMdForHexlen, if_neg not256, if_neg not384, if_neg not512] at sized
    cases sized

/-! ### The array form -/

/-- Every value is the hex digest up to its first NUL, and one of them goes on there. -/
def CutShort (peer : Peer) (cert : X509) (elements : HashTable) : Prop :=
  (∀ entry ∈ elements, (entryPin peer entry).MatchesCut peer cert) ∧
    ∃ entry ∈ elements, (entryPin peer entry).HasNul

/-- **Fingerprints are compared exactly, and the two forms agree, exactly off the arrays that the C
string comparison cuts short.** The order of the entries does not matter. -/
theorem fingerprint_exact_iff (peer : Peer) {cert : X509} (presented : peer.certificate = some cert)
    (known : KnowsSha2 peer) (ssl : Ssl) {elements : HashTable}
    (wellFormed : WellFormedPins peer elements) :
    ((peer.verdict ssl (.array elements) = .ok () ↔
        ∀ entry ∈ elements, (entryPin peer entry).Matches peer cert) ∧ FormsAgree peer ssl) ↔
      ¬ CutShort peer cert elements := by
  have decided : peer.verdict ssl (.array elements) = .ok () ↔
      ∀ entry ∈ elements, (entryPin peer entry).MatchesCut peer cert := by
    rw [verdict_array presented]
    exact forall₂_congr fun entry member => entryPasses_iff wellFormed member
  rw [and_iff_left (formsAgree presented known ssl), decided]
  constructor
  · rintro faithful ⟨cut, entry, member, nul⟩
    have whole := faithful.mp cut entry member
    exact ((matches_iff ..).mp whole).2 nul
  · intro long
    constructor
    · intro cut entry member
      exact (matches_iff ..).mpr ⟨cut entry member, fun nul => long ⟨cut, entry, member, nul⟩⟩
    · intro whole entry member
      exact ((matches_iff ..).mp (whole entry member)).1

/-! ### One peer -/

/-- A peer all of whose digests are bytes 167, behind an OpenSSL that knows the three digests. -/
def shaPeer : Peer :=
  { samplePeer with
    digestByName := fun name =>
      if name = text "sha256" then some .sha256
      else if name = text "sha384" then some .sha384
      else if name = text "sha512" then some .sha512
      else none }

theorem shaPeer_knows : KnowsSha2 shaPeer := ⟨by decide, by decide, by decide⟩

/-- `['sha256' => value]`. -/
def sha256Pin (value : Bytes) : HashTable := [(.name (text "sha256"), .string value)]

theorem sha256Pin_wellFormed (value : Bytes) : WellFormedPins shaPeer (sha256Pin value) := by
  intro entry member
  cases List.mem_singleton.mp member
  exact ⟨_, value, .sha256, rfl, by decide, by decide⟩

/-- The digest itself is accepted. -/
theorem fingerprint_exact_example :
    shaPeer.verdict 1 (.array (sha256Pin (sampleHex 32))) = .ok () := by
  have whole : ∀ entry ∈ sha256Pin (sampleHex 32),
      (entryPin shaPeer entry).Matches shaPeer 1 := by
    intro entry member
    cases List.mem_singleton.mp member
    exact ⟨.sha256, List.replicate 32 167, _, by decide, rfl, rfl, by decide⟩
  have long : ¬ CutShort shaPeer 1 (sha256Pin (sampleHex 32)) := by
    rintro ⟨-, entry, member, nul⟩
    exact ((matches_iff ..).mp (whole entry member)).2 nul
  exact ((fingerprint_exact_iff shaPeer rfl shaPeer_knows 1 (sha256Pin_wellFormed _)).mpr long).1.mpr
    whole

/-- **So is the digest with a NUL and more behind it.** -/
theorem fingerprint_cut_short :
    WellFormedPins shaPeer (sha256Pin (sampleHex 32 ++ [0, 120])) ∧
      shaPeer.verdict 1 (.array (sha256Pin (sampleHex 32 ++ [0, 120]))) = .ok () ∧
      ¬ ∀ entry ∈ sha256Pin (sampleHex 32 ++ [0, 120]),
        (entryPin shaPeer entry).Matches shaPeer 1 := by
  refine ⟨sha256Pin_wellFormed _, ?_, fun whole => ?_⟩
  · refine (verdict_array rfl 1 _).mpr fun entry member => ?_
    cases List.mem_singleton.mp member
    exact ⟨_, _, .sha256, List.replicate 32 167, rfl, by decide, by decide, rfl, by decide⟩
  · have whole := whole _ List.mem_cons_self
    exact ((matches_iff ..).mp whole).2 ⟨_, rfl, by decide⟩

end PhpQuic
