/-
quic_poll.c: `Quic\poll()`, waiting for events across a set of objects.
-/

import PhpQuic.Source.Stream

namespace PhpQuic

/-- The SSL object behind a zval. A reference in the slot is not followed. -/
def phpQuicObjSsl (value : Zval) : Quic (Option Ssl) :=
  match value with
  | .object id _ => do
    match ← ask (.loadObject id) with
    | .connection obj => return obj.ssl
    | .listener obj => return obj.ssl
    | .stream obj => return obj.ssl
    | .foreign => return none
  | _ => return none

namespace Poll

/-- The stack buffer's number of items. -/
def stackItems : Nat := 16

/-- Where `poll_items` lives: on the stack, or in a heap block. -/
abbrev ItemBuffer := Option Nat

/-- The buffer for `n` items. -/
def itemBuffer (n : Nat) : Quic ItemBuffer :=
  if n ≤ stackItems then return none else return some (← ask .emalloc)

/-- `if (poll_items != stackbuf) efree(poll_items)`. -/
def releaseItems (buffer : ItemBuffer) : Quic Unit :=
  match buffer with
  | none => return ()
  | some address => ask (.efree address)

/-- The loop that validates the items and fills `poll_items`; `index` is the C variable `i`. -/
def fillItems (buffer : ItemBuffer) (index : Nat) :
    List (ArrayKey × Zval) → Quic (Outcome (List PollItem))
  | [] => return .ok []
  | (_, entry) :: rest => do
    match zvalDeref entry with
    | .array elements =>
      match zendHashIndexFind elements 0, zendHashIndexFind elements 1 with
      | some object, some events =>
        match ← phpQuicObjSsl object with
        | none =>
          releaseItems buffer
          throwing (phpQuicThrow (text "poll item #" ++ decimal index ++
            text " is not a live Quic\\Connection, Quic\\Listener, or Quic\\Stream"))
        | some desc =>
          let mask ← ask (.zvalGetLong events)
          match ← fillItems buffer (index + 1) rest with
          | .error thrown => return .error thrown
          | .ok items => return .ok ({ desc, events := Stream.toUint64 mask } :: items)
      | _, _ =>
        releaseItems buffer
        throwing (phpQuicThrow (text "each poll item must be [object, events]"))
    | _ =>
      releaseItems buffer
      throwing (phpQuicThrow (text "each poll item must be an array [object, events]"))

/-- `(long)` of a double in the range of a `long`: the fraction is dropped. -/
def truncate (value : Float) : Int := value.toInt64.toInt

/-- The timeout in seconds as a `timeval`, in the arithmetic of doubles: negative values wait for
nothing, absurd ones are clamped so that the cast to long cannot overflow. A NaN is neither; its cast
is undefined in C, and zero here. -/
def toTimeval (timeout : Float) : Timeval :=
  let clamped := if timeout < 0 then 0 else if 100000000 < timeout then 100000000 else timeout
  let sec := truncate clamped
  { sec, usec := truncate ((clamped - Float.ofInt sec) * 1000000) }

/-- Results back onto the caller's keys, the table iterated in step with `poll_items`. -/
def collect : List (ArrayKey × Zval) → List Nat → List (ArrayKey × Int)
  | (key, _) :: rest, revents :: more =>
    if revents ≠ 0 then (key, Stream.toZendLong revents) :: collect rest more
    else collect rest more
  | _, _ => []

/-- `Quic\poll(array $items, ?float $timeout = null)`. -/
def poll (items : HashTable) (timeout : Option Float) : Quic (Outcome (List (ArrayKey × Int))) := do
  let n := items.length
  if n = 0 then
    return .ok []
  else
    let buffer ← itemBuffer n
    match ← fillItems buffer 0 items with
    | .error thrown => return .error thrown
    | .ok pollItems =>
      -- flags == 0: SSL_poll also pumps the QUIC engine.
      match ← ask (.sslPoll pollItems (timeout.map toTimeval)) with
      | none =>
        releaseItems buffer
        throwing (phpQuicThrowSsl (text "SSL_poll failed"))
      | some revents =>
        let result := collect items revents
        releaseItems buffer
        return .ok result

end Poll

end PhpQuic
