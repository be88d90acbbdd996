/-
quic_exception.c: raising a `Quic\Exception`, with or without the head of OpenSSL's error queue.
-/

import PhpQuic.Openssl.Call

namespace PhpQuic

/-- A thrown `Quic\Exception`: its message, and the queue entry the message quotes. -/
structure Thrown where
  message : Bytes
  quoted : Option ErrEntry
  deriving DecidableEq

/-- What a method of the extension comes back with. -/
abbrev Outcome (α : Type) := Except Thrown α

/-- The size of the message buffer of both throw helpers. -/
def messageSize : Nat := 1024

def phpQuicThrow (format : Bytes) : Quic Thrown :=
  return { message := snprintf messageSize format, quoted := none }

def phpQuicThrowSsl (format : Bytes) : Quic Thrown := do
  let message := snprintf messageSize format
  let err ← ask .errGetError
  match err with
  | none => return { message, quoted := none }
  | some entry =>
    let errbuf ← ask (.errErrorStringN entry.code 256)
    ask .errClearError
    return { message := snprintf messageSize (message ++ text ": " ++ errbuf), quoted := some entry }

end PhpQuic
