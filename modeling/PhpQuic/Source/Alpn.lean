/-
quic_util.c: encoding an ALPN specification into the wire format, one length byte before each
protocol.
-/

import PhpQuic.Source.Udp
import Mathlib.Data.List.DropRight

namespace PhpQuic

/-- Append one protocol string to the ALPN wire buffer. -/
def phpQuicAlpnAppend (buf proto : Bytes) : ZendResult Bytes :=
  if proto.length = 0 ∨ 255 < proto.length then
    .error (snprintf errlen
      (text "ALPN protocol must be 1-255 bytes, got " ++ decimal proto.length))
  else
    .ok (buf ++ UInt8.ofNat proto.length :: proto)

/-- A space or a tab. -/
def isBlank (char : UInt8) : Bool := char = 32 ∨ char = 9

/-- One piece of the string form, both ends trimmed: `s + a` to `s + b`. -/
def alpnTrim (piece : Bytes) : Bytes := (piece.dropWhile isBlank).rdropWhile isBlank

/-- The end of one piece: append it unless it is empty. The state is the buffer and `count`, an
`int`. -/
def alpnPiece (piece : Bytes) (state : Bytes × Int) : ZendResult (Bytes × Int) :=
  let tok := alpnTrim piece
  if tok = [] then .ok state
  else (phpQuicAlpnAppend state.1 tok).map fun buf => (buf, toInt32 (state.2 + 1))

/-- The scan of the string form: `piece` is `s[start..i)`, the second argument `s[i..len)`. The
case of no bytes left is the iteration at `i == len`. -/
def alpnScan (piece : Bytes) : Bytes → Bytes × Int → ZendResult (Bytes × Int)
  | [], state => alpnPiece piece state
  | char :: rest, state =>
    if char = 44 then do
      let state ← alpnPiece piece state
      alpnScan [] rest state
    else alpnScan (piece ++ [char]) rest state

/-- The loop over the array form. Each entry is converted to a string, not trimmed or split. -/
def alpnEntries : List (ArrayKey × Zval) → Bytes → Quic (ZendResult Bytes)
  | [], buf => return .ok buf
  | (_, entry) :: rest, buf => do
    let proto ← ask (.zvalGetString entry)
    match phpQuicAlpnAppend buf proto with
    | .error message => return .error message
    | .ok buf => alpnEntries rest buf

/-- A buffer as a callee sees it whose length parameter is an `unsigned int`. -/
def castLength (bytes : Bytes) : Bytes := bytes.take (bytes.length % 2 ^ 32)

/-- The two forms of a specification, into wire format. -/
def alpnEncode : Zval → Quic (ZendResult Bytes)
  | .string s =>
    return match alpnScan [] s ([], 0) with
    | .error message => .error message
    | .ok (buf, count) =>
      if count = 0 then .error (snprintf errlen (text "ALPN string is empty")) else .ok buf
  | .array [] => return .error (snprintf errlen (text "ALPN list must not be empty"))
  | .array elements => alpnEntries elements []
  | _ => return .error (snprintf errlen (text "ALPN must be a string or array of strings"))

def phpQuicAlpnFromZval (spec : Zval) : Quic (ZendResult ZendString) := do
  match ← alpnEncode spec with
  | .error message => return .error message
  | .ok bytes =>
    let id ← ask (.zendStringAlloc bytes)
    return .ok { id, bytes }

end PhpQuic
