/-
quic_util.c: certificate pinning, `peer_fingerprint`.
-/

import PhpQuic.Source.Tls

namespace PhpQuic

/-- The digest a pin of the string form is for, by its hex length. -/
def phpQuicMdForHexlen (hexlen : Nat) : Option EvpMd :=
  if hexlen = 64 then some .sha256
  else if hexlen = 96 then some .sha384
  else if hexlen = 128 then some .sha512
  else none

/-- One hex digit of `%02x`. -/
def hexDigit (nibble : Nat) : UInt8 :=
  if nibble < 10 then UInt8.ofNat (48 + nibble) else UInt8.ofNat (87 + nibble)

/-- A digest as `%02x` writes it. -/
def hexEncode (digest : Bytes) : Bytes :=
  digest.flatMap fun byte => [hexDigit (byte.toNat / 16), hexDigit (byte.toNat % 16)]

def phpQuicFpMatches (cert : X509) (md : Option EvpMd) (expected : Bytes) : Quic Bool :=
  match md with
  | none => return false
  | some md => do
    match ← ask (.x509Digest cert md) with
    | none => return false
    | some digest => return strcaseeq (hexEncode digest) expected

/-- The loop over the array form. -/
def checkPins (cert : X509) : List (ArrayKey × Zval) → Quic (ZendResult Unit)
  | [] => return .ok ()
  | (.name algo, .string digest) :: rest => do
    match ← ask (.evpGetDigestbyname (cString algo)) with
    | none => return .error (snprintf errlen
        (text "peer_fingerprint: unknown digest algorithm '" ++ cString algo ++ text "'"))
    | some md =>
      -- Collision-weak digests (MD5, SHA-1, ...) are refused by their size.
      if md.getSize < 32 then
        return .error (snprintf errlen (text "peer_fingerprint: digest '" ++ cString algo ++
          text "' is too weak; use sha256 or stronger"))
      if !(← phpQuicFpMatches cert (some md) digest) then
        return .error (snprintf errlen
          (text "peer_fingerprint (" ++ cString algo ++ text ") did not match"))
      checkPins cert rest
  | _ :: _ => return .error (snprintf errlen
      (text "peer_fingerprint array must map algorithm => hex digest"))

/-- The two forms of a specification. -/
def checkSpec (cert : X509) : Zval → Quic (ZendResult Unit)
  | .string expected =>
    match phpQuicMdForHexlen expected.length with
    | none => return .error (snprintf errlen
        (text "peer_fingerprint string has an unrecognized length"))
    | some md => do
      if ← phpQuicFpMatches cert (some md) expected then
        return .ok ()
      else
        return .error (snprintf errlen (text "peer_fingerprint did not match"))
  | .array elements => checkPins cert elements
  | _ => return .error (snprintf errlen
      (text "peer_fingerprint must be a string or an array"))

def phpQuicCheckFingerprint (ssl : Ssl) (spec : Zval) : Quic (ZendResult Unit) := do
  match ← ask (.sslGet1PeerCertificate ssl) with
  | none => return .error (snprintf errlen
      (text "peer_fingerprint set but the peer presented no certificate"))
  | some cert =>
    let result ← checkSpec cert spec
    ask (.x509Free cert)
    return result

end PhpQuic
