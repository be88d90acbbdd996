/-
**Certificate pinning: what a successful check means.**

The checker runs against a `Peer`: the certificate the peer presented, the certificate's digests,
and OpenSSL's table of digests by name. A specification's `pins` are the string itself, or the
entries of the array.

* `strcaseeq_hexEncode_iff`: the C comparison with a digest that `%02x` wrote reads the value, up to
  its first NUL, as that digest in hexadecimal.
* `checkPins_eq_ok_iff`: the loop over the array form succeeds exactly when every entry passes the
  code's own tests (`EntryPasses`).
* `decodeHex_of_verdict`: the string form succeeds only on the digest of its length, whole.
* `pinning_sound_iff`: a success means that there was a pin, that every pin equals the certificate's
  digest as a whole string and that every digest is strong, exactly when the specification is not
  one of three kinds of array (`PinsSafely`): the empty one, one that passes with the MD5-SHA1
  combination, one that passes with bytes after a NUL.
-/

import PhpQuic.Source.Fingerprint
import PhpQuic.Openssl.Environment
import PhpQuic.Wire.Hex

namespace PhpQuic

open Interact

/-- What the pinning check is run against. -/
structure Peer where
  certificate : Option X509
  digestOf : X509 → EvpMd → Option Bytes
  digestByName : Bytes → Option EvpMd
  digest_length : ∀ cert md digest, digestOf cert md = some digest →
    (digest.length : Int) = md.getSize

namespace Peer

/-- The environment a peer stands for. -/
def handler (peer : Peer) : Handler openssl Unit := fun _ call =>
  match call with
  | .sslGet1PeerCertificate _ => (peer.certificate, ())
  | .x509Digest cert md => (peer.digestOf cert md, ())
  | .evpGetDigestbyname name => (peer.digestByName name, ())
  | call => (succeeding call, ())

variable (peer : Peer)

/-- The verdict of the check of a specification against the peer. -/
def verdict (ssl : Ssl) (spec : Zval) : ZendResult Unit :=
  (exec peer.handler (phpQuicCheckFingerprint ssl spec) ()).1

end Peer

/-! ### What a pin asks for -/

/-- One pin: the digest it names and the value it expects, as far as it has them. -/
structure Pin where
  digest : Option EvpMd
  value : Option Bytes

/-- The pin of one array entry. -/
def entryPin (peer : Peer) : ArrayKey × Zval → Pin
  | (.name algo, .string value) => ⟨peer.digestByName (cString algo), some value⟩
  | _ => ⟨none, none⟩

/-- The pins of a specification. -/
def pins (peer : Peer) : Zval → List Pin
  | .string value => [⟨phpQuicMdForHexlen value.length, some value⟩]
  | .array elements => elements.map (entryPin peer)
  | _ => []

/-- The pin's value, as a whole, is the digest of the certificate in hexadecimal, in either letter
case. -/
def Pin.Matches (pin : Pin) (peer : Peer) (cert : X509) : Prop :=
  ∃ md digest value, pin.digest = some md ∧ peer.digestOf cert md = some digest ∧
    pin.value = some value ∧ Wire.decodeHex value = some digest

/-- The pin's digest has at least 256 bits and is not MD5, SHA-1 or their combination. -/
def Pin.Strong (pin : Pin) : Prop :=
  ∃ md, pin.digest = some md ∧ 32 ≤ md.getSize ∧ md ≠ .md5 ∧ md ≠ .sha1 ∧ md ≠ .md5Sha1

/-- **Pinning is not vacuous** for a specification: there is a certificate and a pin, every pin
matches and every pin is strong. -/
def Pinned (peer : Peer) (spec : Zval) : Prop :=
  ∃ cert, peer.certificate = some cert ∧ pins peer spec ≠ [] ∧
    ∀ pin ∈ pins peer spec, pin.Matches peer cert ∧ pin.Strong

/-! ### The array form -/

/-- The code's own tests of one entry. -/
def EntryPasses (peer : Peer) (cert : X509) (entry : ArrayKey × Zval) : Prop :=
  ∃ algo value md digest, entry = (.name algo, .string value) ∧
    peer.digestByName (cString algo) = some md ∧ 32 ≤ md.getSize ∧
    peer.digestOf cert md = some digest ∧ strcaseeq (hexEncode digest) value

theorem exec_fpMatches (peer : Peer) (cert : X509) (md : EvpMd) (value : Bytes) :
    exec peer.handler (phpQuicFpMatches cert (some md) value) () =
      (match peer.digestOf cert md with
        | none => false
        | some digest => strcaseeq (hexEncode digest) value, ()) := by
  simp only [phpQuicFpMatches, exec_bind, exec_call, Peer.handler]
  cases peer.digestOf cert md <;> rfl

/-- One entry the loop can go past: the rest decides. -/
theorem checkPins_cons_of_passes {peer : Peer} {cert : X509} {entry : ArrayKey × Zval}
    (passes : EntryPasses peer cert entry) (rest : List (ArrayKey × Zval)) :
    (exec peer.handler (checkPins cert (entry :: rest)) ()).1 =
      (exec peer.handler (checkPins cert rest) ()).1 := by
  obtain ⟨algo, value, md, digest, rfl, named, large, computed, equal⟩ := passes
  have notSmall : ¬ md.getSize < 32 := Int.not_lt.mpr large
  simp only [checkPins, exec_bind, exec_call, Peer.handler, named, notSmall, if_false,
    exec_fpMatches, computed, equal, Bool.not_true, Bool.false_eq_true]

/-- An entry that fails a test ends the loop with an error. -/
theorem checkPins_cons_of_fails {peer : Peer} {cert : X509} {entry : ArrayKey × Zval}
    (fails : ¬ EntryPasses peer cert entry) (rest : List (ArrayKey × Zval)) :
    (exec peer.handler (checkPins cert (entry :: rest)) ()).1 ≠ .ok () := by
  obtain ⟨key, value⟩ := entry
  cases key with
  | index number => simp [checkPins]
  | name algo =>
      cases value with
      | string value =>
          cases named : peer.digestByName (cString algo) with
          | none => simp [checkPins, Peer.handler, named]
          | some md =>
              by_cases small : md.getSize < 32
              · simp [checkPins, Peer.handler, named, small]
              · have refused : (exec peer.handler (phpQuicFpMatches cert (some md) value) ()).1 =
                    false := by
                  rw [exec_fpMatches]
                  cases computed : peer.digestOf cert md with
                  | none => rfl
                  | some digest =>
                      by_contra accepted
                      exact fails ⟨algo, value, md, digest, rfl, named, Int.not_lt.mp small, computed,
                        by simpa using accepted⟩
                simp [checkPins, Peer.handler, named, small] at refused ⊢
                simp [refused]
      | _ => simp [checkPins]

/-- **The loop over the array form** succeeds exactly when every entry passes. -/
theorem checkPins_eq_ok_iff (peer : Peer) (cert : X509) (elements : List (ArrayKey × Zval)) :
    (exec peer.handler (checkPins cert elements) ()).1 = .ok () ↔
      ∀ entry ∈ elements, EntryPasses peer cert entry := by
  induction elements with
  | nil => simp [checkPins]
  | cons entry rest ih =>
      by_cases passes : EntryPasses peer cert entry
      · rw [checkPins_cons_of_passes passes, ih]
        simp [passes]
      · simp [checkPins_cons_of_fails passes, passes]

/-! ### The whole check -/

theorem verdict_of_no_certificate {peer : Peer} (absent : peer.certificate = none) (ssl : Ssl)
    (spec : Zval) : peer.verdict ssl spec ≠ .ok () := by
  simp [Peer.verdict, phpQuicCheckFingerprint, checkSpec, Peer.handler, absent]

theorem verdict_array {peer : Peer} {cert : X509} (presented : peer.certificate = some cert)
    (ssl : Ssl) (elements : List (ArrayKey × Zval)) :
    peer.verdict ssl (.array elements) = .ok () ↔
      ∀ entry ∈ elements, EntryPasses peer cert entry := by
  rw [← checkPins_eq_ok_iff]
  simp [Peer.verdict, phpQuicCheckFingerprint, checkSpec, Peer.handler, presented]

theorem verdict_string {peer : Peer} {cert : X509} (presented : peer.certificate = some cert)
    (ssl : Ssl) (value : Bytes) :
    peer.verdict ssl (.string value) = .ok () ↔
      ∃ md digest, phpQuicMdForHexlen value.length = some md ∧
        peer.digestOf cert md = some digest ∧ strcaseeq (hexEncode digest) value := by
  simp only [Peer.verdict, phpQuicCheckFingerprint, checkSpec, exec_bind, exec_call, Peer.handler,
    presented]
  cases named : phpQuicMdForHexlen value.length with
  | none => simp
  | some md =>
      cases computed : peer.digestOf cert md with
      | none => simp [exec_fpMatches, computed]
      | some digest =>
          cases equal : strcaseeq (hexEncode digest) value <;>
            simp [exec_fpMatches, computed, equal]

/-! ### Hex digests against whole values -/

/-- Letter case apart, a character is a digit that `%02x` writes exactly if it stands for it. -/
theorem hexValue_eq_some_iff (char : UInt8) {digit : Nat} (small : digit < 16) :
    Wire.hexValue char = some digit ↔ tolower char = tolower (hexDigit digit) := by
  have table : ∀ code < 256, ∀ digit < 16,
      Wire.hexValue (UInt8.ofNat code) = some digit ↔
        tolower (UInt8.ofNat code) = tolower (hexDigit digit) := by decide +kernel
  have here := table char.toNat char.toNat_lt digit small
  rwa [UInt8.ofNat_toNat] at here

/-- **What `%02x` writes reads as the digest**: a value equals it, letter case apart, exactly if it
says these bytes in hexadecimal. -/
theorem decodeHex_iff_hexEncode (value digest : Bytes) :
    Wire.decodeHex value = some digest ↔ value.map tolower = (hexEncode digest).map tolower := by
  rw [Wire.decodeHex_eq_some_iff]
  induction digest generalizing value with
  | nil => rw [List.flatMap_nil, hexEncode, List.flatMap_nil, List.map_nil, List.map_eq_nil_iff,
      List.map_eq_nil_iff]
  | cons byte digest ih =>
      have small : byte.toNat < 256 := byte.toNat_lt
      match value with
      | [] => exact iff_of_false nofun nofun
      | [_] => exact iff_of_false (by simp [Wire.nibbles]) (by simp [hexEncode])
      | high :: low :: rest =>
          have upper := @hexValue_eq_some_iff high (byte.toNat / 16) (by omega)
          have lower := @hexValue_eq_some_iff low (byte.toNat % 16) (by omega)
          have others := ih rest
          simp only [hexEncode, Wire.nibbles, List.map_cons, List.flatMap_cons, List.cons_append,
            List.nil_append, List.cons.injEq] at others ⊢
          rw [upper, lower, others]

theorem hexDigit_ne_zero {nibble : Nat} (small : nibble < 16) : hexDigit nibble ≠ 0 := by
  have table : ∀ n < 16, hexDigit n ≠ 0 := by decide
  exact table nibble small

theorem hexEncode_nulFree (digest : Bytes) : NulFree (hexEncode digest) := by
  intro member
  obtain ⟨byte, _, here⟩ := List.mem_flatMap.mp member
  have small : byte.toNat < 256 := byte.toNat_lt
  rcases List.mem_pair.mp here with high | low
  · exact hexDigit_ne_zero (by omega) high.symm
  · exact hexDigit_ne_zero (by omega) low.symm

theorem hexEncode_length (digest : Bytes) : (hexEncode digest).length = 2 * digest.length := by
  induction digest with
  | nil => rfl
  | cons byte rest ih =>
      simp only [hexEncode, List.flatMap_cons, List.length_append, List.length_cons,
        List.length_nil] at ih ⊢
      omega

/-- **The C comparison reads the value up to its first NUL.** -/
theorem strcaseeq_hexEncode_iff (digest value : Bytes) :
    strcaseeq (hexEncode digest) value = true ↔ Wire.decodeHex (cString value) = some digest := by
  rw [strcaseeq, cString_eq_self (hexEncode_nulFree digest), decide_eq_true_eq,
    decodeHex_iff_hexEncode]
  exact eq_comm

/-- A NUL byte is no digit. -/
theorem nulFree_of_decodeHex {value digest : Bytes}
    (whole : Wire.decodeHex value = some digest) : NulFree value := by
  intro member
  have digits := (Wire.decodeHex_eq_some_iff value digest).mp whole
  have read : Wire.hexValue 0 ∈ digest.flatMap Wire.nibbles :=
    digits ▸ List.mem_map_of_mem member
  obtain ⟨byte, _, here⟩ := List.mem_flatMap.mp read
  simp [Wire.hexValue, Wire.nibbles] at here

/-- The C comparison is the comparison of whole values exactly on values without NUL bytes. -/
theorem decodeHex_iff_strcaseeq (value digest : Bytes) :
    Wire.decodeHex value = some digest ↔
      strcaseeq (hexEncode digest) value = true ∧ NulFree value := by
  rw [strcaseeq_hexEncode_iff]
  constructor
  · intro whole
    have free := nulFree_of_decodeHex whole
    exact ⟨by rw [cString_eq_self free, whole], free⟩
  · rintro ⟨cut, free⟩
    rwa [cString_eq_self free] at cut

theorem mdForHexlen_size {hexlen : Nat} {md : EvpMd}
    (named : phpQuicMdForHexlen hexlen = some md) :
    (hexlen : Int) = 2 * md.getSize ∧ 32 ≤ md.getSize ∧ md ≠ .md5 ∧ md ≠ .sha1 ∧
      md ≠ .md5Sha1 := by
  unfold phpQuicMdForHexlen at named
  split at named
  · cases named
    simp_all [EvpMd.getSize]
  split at named
  · cases named
    simp_all [EvpMd.getSize]
  split at named
  · cases named
    simp_all [EvpMd.getSize]
  · cases named

/-- A value of the right length that the C comparison accepts has no NUL byte: a shorter C string
would not be as long as the digest. -/
theorem nulFree_of_strcaseeq {value digest : Bytes} (length : value.length = 2 * digest.length)
    (same : strcaseeq (hexEncode digest) value = true) : NulFree value := by
  rw [strcaseeq, cString_eq_self (hexEncode_nulFree digest), decide_eq_true_eq] at same
  have lengths := congrArg List.length same
  rw [List.length_map, List.length_map, hexEncode_length, ← length] at lengths
  exact (strlen_eq_length_iff value).mp lengths.symm

/-! ### What a success means -/

/-- The string form succeeds only on the digest of its length, whole. -/
theorem decodeHex_of_verdict {peer : Peer} {cert : X509} {ssl : Ssl} {value : Bytes}
    (presented : peer.certificate = some cert)
    (success : peer.verdict ssl (.string value) = .ok ()) :
    ∃ md digest, phpQuicMdForHexlen value.length = some md ∧
      peer.digestOf cert md = some digest ∧ Wire.decodeHex value = some digest := by
  obtain ⟨md, digest, named, computed, same⟩ := (verdict_string presented ssl value).mp success
  have hexlen := (mdForHexlen_size named).1
  have size := peer.digest_length cert md digest computed
  have free : NulFree value := nulFree_of_strcaseeq (by omega) same
  exact ⟨md, digest, named, computed, (decodeHex_iff_strcaseeq value digest).mpr ⟨same, free⟩⟩

/-- The string form is sound. -/
theorem pinned_of_verdict_string {peer : Peer} {ssl : Ssl} {value : Bytes}
    (success : peer.verdict ssl (.string value) = .ok ()) : Pinned peer (.string value) := by
  cases presented : peer.certificate with
  | none => exact absurd success (verdict_of_no_certificate presented ssl _)
  | some cert =>
      obtain ⟨md, digest, named, computed, whole⟩ := decodeHex_of_verdict presented success
      obtain ⟨-, large, notMd5, notSha1, notBoth⟩ := mdForHexlen_size named
      refine ⟨cert, presented, List.cons_ne_nil _ _, fun pin member => ?_⟩
      cases List.mem_singleton.mp member
      exact ⟨⟨md, digest, value, named, computed, rfl, whole⟩, md, named, large, notMd5, notSha1,
        notBoth⟩

/-- Of an entry that passes, the whole value matches and the digest is strong exactly when the value
has no NUL byte and the digest is not the MD5-SHA1 combination. -/
theorem entryPin_sound_iff {peer : Peer} {cert : X509} {algo value : Bytes}
    (passes : EntryPasses peer cert (.name algo, .string value)) :
    (entryPin peer (.name algo, .string value)).Matches peer cert ∧
        (entryPin peer (.name algo, .string value)).Strong ↔
      peer.digestByName (cString algo) ≠ some .md5Sha1 ∧ NulFree value := by
  obtain ⟨algo', value', md, digest, same, named, large, computed, equal⟩ := passes
  cases same
  constructor
  · rintro ⟨⟨md', digest', value', named', computed', hasValue, whole⟩, md'', named'', _, _, _,
      notBoth⟩
    cases hasValue
    refine ⟨fun weak => notBoth ?_, nulFree_of_decodeHex whole⟩
    exact Option.some.inj (named''.symm.trans weak)
  · rintro ⟨notBoth, free⟩
    refine ⟨⟨md, digest, value, named, computed, rfl, (decodeHex_iff_strcaseeq _ _).mpr ⟨equal, free⟩⟩,
      md, named, large, ?_, ?_, ?_⟩
    · rintro rfl
      exact absurd large (by decide)
    · rintro rfl
      exact absurd large (by decide)
    · rintro rfl
      exact notBoth named

/-- **The specifications on which pinning is sound**: all but the arrays that pass although they are
empty, name the MD5-SHA1 combination, or hold bytes after a NUL. -/
def PinsSafely (peer : Peer) : Zval → Prop
  | .array elements => ∀ cert, peer.certificate = some cert →
      (∀ entry ∈ elements, EntryPasses peer cert entry) →
      elements ≠ [] ∧ ∀ algo value, (.name algo, .string value) ∈ elements →
        peer.digestByName (cString algo) ≠ some .md5Sha1 ∧ NulFree value
  | _ => True

/-- The array form, with a certificate. -/
theorem pinned_array_iff {peer : Peer} {cert : X509} (presented : peer.certificate = some cert)
    {elements : List (ArrayKey × Zval)}
    (pass : ∀ entry ∈ elements, EntryPasses peer cert entry) :
    Pinned peer (.array elements) ↔
      elements ≠ [] ∧ ∀ algo value, (.name algo, .string value) ∈ elements →
        peer.digestByName (cString algo) ≠ some .md5Sha1 ∧ NulFree value := by
  constructor
  · rintro ⟨cert', presented', some, sound⟩
    cases presented.symm.trans presented'
    refine ⟨fun empty => some (by rw [empty]; rfl), fun algo value member => ?_⟩
    exact (entryPin_sound_iff (pass _ member)).mp (sound _ (List.mem_map_of_mem member))
  · rintro ⟨some, safe⟩
    refine ⟨cert, presented, fun empty => some (List.map_eq_nil_iff.mp empty), fun pin member => ?_⟩
    obtain ⟨entry, inside, rfl⟩ := List.mem_map.mp member
    obtain ⟨algo, value, _, _, rfl, _⟩ := id (pass entry inside)
    exact (entryPin_sound_iff (pass _ inside)).mpr (safe algo value inside)

/-- **Pinning is never vacuous, exactly off the three kinds of array.** -/
theorem pinning_sound_iff (peer : Peer) (ssl : Ssl) (spec : Zval) :
    (peer.verdict ssl spec = .ok () → Pinned peer spec) ↔ PinsSafely peer spec := by
  cases spec with
  | string value => exact iff_of_true pinned_of_verdict_string trivial
  | array elements =>
      constructor
      · intro sound cert presented pass
        exact (pinned_array_iff presented pass).mp (sound ((verdict_array presented ssl _).mpr pass))
      · intro safe success
        cases presented : peer.certificate with
        | none => exact absurd success (verdict_of_no_certificate presented ssl _)
        | some cert =>
            have pass := (verdict_array presented ssl elements).mp success
            exact (pinned_array_iff presented pass).mpr (safe cert presented pass)
  | _ =>
      refine iff_of_true (fun success => ?_) trivial
      cases presented : peer.certificate <;>
        simp [Peer.verdict, phpQuicCheckFingerprint, checkSpec, Peer.handler, presented] at success

/-! ### The three kinds, on one peer -/

/-- The digests of the examples, under OpenSSL's names. -/
def exampleDigests (name : Bytes) : Option EvpMd :=
  if name = text "md5-sha1" then some .md5Sha1
  else if name = text "sha256" then some .sha256
  else none

/-- A peer all of whose digests are bytes 167. -/
def samplePeer : Peer where
  certificate := some 1
  digestOf _ md := if 0 ≤ md.getSize then some (List.replicate md.getSize.toNat 167) else none
  digestByName := exampleDigests
  digest_length := by
    intro _ md digest computed
    split at computed
    · cases computed
      rw [List.length_replicate]
      omega
    · cases computed

/-- Such a digest in hexadecimal, in two letter cases. -/
def sampleHex (size : Nat) : Bytes := (List.replicate (size / 2) (text "A7a7")).flatten

/-- `[]`, accepted without a pin. -/
def emptySpec : Zval := .array []

/-- `['md5-sha1' => 'A7a7…']`, accepted with the combination of the two weak digests. -/
def weakSpec : Zval :=
  .array [(.name (text "md5-sha1"), .string (sampleHex 36))]

/-- `['sha256' => "A7a7…\0x"]`, accepted although the value goes on after the digest. -/
def truncatedSpec : Zval :=
  .array [(.name (text "sha256"), .string (sampleHex 32 ++ [0, 120]))]

/-- **The check succeeds where pinning is not sound**, once for each kind of array. -/
theorem pinning_unsound :
    (samplePeer.verdict 1 emptySpec = .ok () ∧ ¬ Pinned samplePeer emptySpec) ∧
    (samplePeer.verdict 1 weakSpec = .ok () ∧ ¬ Pinned samplePeer weakSpec) ∧
    (samplePeer.verdict 1 truncatedSpec = .ok () ∧ ¬ Pinned samplePeer truncatedSpec) := by
  have presented : samplePeer.certificate = some 1 := rfl
  have weakPasses : ∀ entry ∈ [(ArrayKey.name (text "md5-sha1"), Zval.string (sampleHex 36))],
      EntryPasses samplePeer 1 entry := by
    intro entry member
    cases List.mem_singleton.mp member
    exact ⟨_, _, .md5Sha1, List.replicate 36 167, rfl, by decide, by decide, rfl, by decide⟩
  have longPasses : ∀ entry ∈ [(ArrayKey.name (text "sha256"),
      Zval.string (sampleHex 32 ++ [0, 120]))], EntryPasses samplePeer 1 entry := by
    intro entry member
    cases List.mem_singleton.mp member
    exact ⟨_, _, .sha256, List.replicate 32 167, rfl, by decide, by decide, rfl, by decide⟩
  refine ⟨⟨?_, ?_⟩, ⟨?_, ?_⟩, ?_, ?_⟩
  · exact (verdict_array presented 1 []).mpr fun _ member => nomatch member
  · rintro ⟨_, _, some, _⟩
    exact some rfl
  · exact (verdict_array presented 1 _).mpr weakPasses
  · intro pinned
    have safe := ((pinned_array_iff presented weakPasses).mp pinned).2 _ _ List.mem_cons_self
    exact safe.1 (by decide)
  · exact (verdict_array presented 1 _).mpr longPasses
  · intro pinned
    have safe := ((pinned_array_iff presented longPasses).mp pinned).2 _ _ List.mem_cons_self
    exact absurd safe.2 (by decide)

end PhpQuic
