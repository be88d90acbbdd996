/-
quic_stream.c: `Quic\Stream`, one QUIC stream of a connection, and its php_stream adapter.
-/

import PhpQuic.Source.Exception

namespace PhpQuic

/-- The end of a method that answers with a value or throws. -/
def throwing {α : Type} (thrown : Quic Thrown) : Quic (Outcome α) := do
  return .error (← thrown)

/-- `SSL_get_error` asks for another try later. -/
def SslError.IsWant (err : SslError) : Prop := err = .wantRead ∨ err = .wantWrite

instance (err : SslError) : Decidable err.IsWant := inferInstanceAs (Decidable (_ ∨ _))

/-! ### Guarded releases: `if (p != NULL)` and the call that lets go of `p` -/

def freeSsl : Option Ssl → Quic Unit
  | some ssl => ask (.sslFree ssl)
  | none => return ()

def freeCtx : Option SslCtx → Quic Unit
  | some ctx => ask (.sslCtxFree ctx)
  | none => return ()

def closeSocket : Option Fd → Quic Unit
  | some fd => ask (.bioClosesocket fd)
  | none => return ()

/-- `zval_ptr_dtor` of a zval that may be undefined. -/
def releaseObject : Option ObjectId → Quic Unit
  | some object => ask (.objRelease object)
  | none => return ()

def freeAlpnData : Option QuicAlpnData → Quic Unit
  | some data => do
    ask (.zendStringRelease data.alpn.id)
    ask (.efree data.id)
  | none => return ()

/-! ### The php_stream adapter -/

/-- A `ssize_t` with a negative value for failure. -/
def quicStreamOpWrite (obj : PhpQuicStream) (buf : Buffer) : Quic Int :=
  match obj.ssl with
  | none => return -1
  | some ssl => do
    let (rc, written) ← ask (.sslWriteEx2 ssl buf false)
    if rc = 1 then
      return written
    if (← ask (.sslGetError ssl rc)).IsWant then
      return 0
    else
      return -1

/-- What a read op gives back: its `ssize_t`, the bytes put into `buf`, and whether it set
`stream->eof`. -/
structure OpRead where
  count : Int
  bytes : Bytes
  eof : Bool
  deriving DecidableEq

def quicStreamOpRead (obj : PhpQuicStream) (count : Nat) : Quic OpRead :=
  match obj.ssl with
  | none => return ⟨-1, [], false⟩
  | some ssl => do
    match ← ask (.sslReadEx ssl count) with
    | some got => return ⟨got.1.length, got.1, false⟩
    | none =>
      match ← ask (.sslGetError ssl 0) with
      | .wantRead | .wantWrite => return ⟨0, [], false⟩
      | .zeroReturn => return ⟨0, [], true⟩
      | _ => return ⟨-1, [], true⟩

/-- Drops the reference taken by `asStream`; the stream SSL is not touched. -/
def quicStreamOpClose (abstract : Option ObjectId) : Quic Int := do
  releaseObject abstract
  return 0

def quicStreamOpFlush : Quic Int := return 0

/-- How `php_stream_cast` may be asked to see the stream. -/
inductive CastAs where
  | fd
  | fdForSelect
  | socketd
  | stdio
  deriving DecidableEq

/-- The descriptor a cast gives out, or `none` for `FAILURE`. -/
def quicStreamOpCast (obj : PhpQuicStream) (castas : CastAs) : Quic (Option Fd) :=
  match obj.connection with
  | none => return none
  | some connection =>
    match castas with
    | .fd | .fdForSelect | .socketd => do
      match ← ask (.loadObject connection) with
      | .connection conn => return conn.fd
      | _ => return none
    | .stdio => return none

/-! ### Object handlers -/

def quicStreamCreate : PhpQuicStream := { ssl := none, connection := none }

/-- The stream SSL goes first: the connection it belongs to is still referenced then. -/
def quicStreamFree (obj : PhpQuicStream) : Quic Unit := do
  freeSsl obj.ssl
  releaseObject obj.connection

/-- What the cycle collector is shown; the class has no properties. -/
def quicStreamGetGc (obj : PhpQuicStream) : List ObjectId :=
  match obj.connection with
  | some connection => [connection]
  | none => []

/-- The object that wraps a stream SSL, with its reference on the connection. -/
def phpQuicStreamInitObject (streamSsl : Ssl) (connection : ObjectId) : Quic PhpQuicStream := do
  ask (.gcAddref connection)
  return { quicStreamCreate with ssl := some streamSsl, connection := some connection }

namespace Stream

/-! ### Methods -/

def construct (obj : PhpQuicStream) (conn : ObjectId) (bidirectional : Bool) :
    Quic (Outcome PhpQuicStream) := do
  if obj.ssl.isSome then
    throwing (phpQuicThrow (text "stream is already open"))
  else
    match ← ask (.loadObject conn) with
    | .connection { ssl := some ssl, .. } =>
      match ← ask (.sslNewStream ssl !bidirectional) with
      | none => throwing (phpQuicThrowSsl (text "failed to open QUIC stream"))
      | some stream =>
        ask (.gcAddref conn)
        return .ok { obj with ssl := some stream, connection := some conn }
    | _ => throwing (phpQuicThrow (text "connection is closed"))

def write (obj : PhpQuicStream) (data : Buffer) (fin : Bool) : Quic (Outcome Int) :=
  match obj.ssl with
  | none => throwing (phpQuicThrow (text "stream is closed"))
  | some ssl =>
    -- A pure FIN with no payload is expressed via conclude().
    if data.bytes.length = 0 then
      if fin then do
        if (← ask (.sslStreamConclude ssl)) = 0 then
          throwing (phpQuicThrowSsl (text "failed to conclude stream"))
        else
          return .ok 0
      else return .ok 0
    else do
      let (rc, written) ← ask (.sslWriteEx2 ssl data fin)
      if rc = 0 then
        if (← ask (.sslGetError ssl rc)).IsWant then
          return .ok written
        else
          throwing (phpQuicThrowSsl (text "stream write failed"))
      else
        return .ok written

/-- **The buffer of `read()` where `SSL_read_ex` is called**: `cap` bytes allocated, the first of
them filled. There is room for at least one more byte, and `cap` never exceeds what is wanted. -/
structure ReadBuffer (want : Nat) where
  cap : Nat
  bytes : Bytes
  room : bytes.length < cap
  bounded : cap ≤ want

namespace ReadBuffer

variable {want : Nat}

/-- The first allocation: small, whatever was asked for. -/
def initial (want : Nat) (positive : 0 < want) : ReadBuffer want where
  cap := if want < 65536 then want else 65536
  bytes := []
  room := by
    show 0 < _
    split <;> omega
  bounded := by split <;> omega

/-- The next capacity. -/
def grownCap (want cap : Nat) : Nat := if cap ≤ want / 2 then cap * 2 else want

/-- The buffer after it has been filled to the brim and reallocated. -/
def grow (cap : Nat) (bytes : Bytes) (full : bytes.length = cap) (positive : 0 < cap)
    (more : bytes.length < want) : ReadBuffer want where
  cap := grownCap want cap
  bytes := bytes
  room := by
    unfold grownCap
    split <;> omega
  bounded := by
    unfold grownCap
    split <;> omega

end ReadBuffer

/-- The loop of `read()`: the bytes read, and the last return code of `SSL_read_ex`. -/
def readLoop (ssl : Ssl) (want : Nat) (blocking : Bool) (buf : ReadBuffer want) :
    Quic (Bytes × Int) := do
  match ← ask (.sslReadEx ssl (buf.cap - buf.bytes.length)) with
  | none => return (buf.bytes, 0)
  | some got =>
    let total := buf.bytes ++ got.1
    if enough : want ≤ total.length ∨ blocking = true then
      return (total, 1)
    -- A full buffer may mean there is more; a short read means nothing more is ready now.
    else if full : total.length = buf.cap then
      readLoop ssl want blocking
        (.grow buf.cap total full (Nat.zero_lt_of_lt buf.room) (by omega))
    else
      return (total, 1)
termination_by want - buf.cap
decreasing_by
  have room := buf.room
  show want - ReadBuffer.grownCap want buf.cap < want - buf.cap
  unfold ReadBuffer.grownCap
  split <;> omega

/-- The end of `read()` when the loop got nothing: what the failed `SSL_read_ex` was about. -/
def endOfRead (ssl : Ssl) (rc : Int) : Quic (Outcome (Option Bytes)) := do
  let err ← ask (.sslGetError ssl rc)
  if err.IsWant then
    return .ok (some [])
  if err = .zeroReturn then
    -- Clean end of stream (peer FIN).
    return .ok none
  -- A reset or the connection closing ends the stream abnormally: end of stream, no throw.
  match ← ask (.sslGetStreamReadState ssl) with
  | .resetRemote | .resetLocal | .connClosed => return .ok none
  | _ => throwing (phpQuicThrowSsl (text "stream read failed"))

/-- The result of `read()`: a string, possibly empty, or null. -/
def read (obj : PhpQuicStream) (length : Int) : Quic (Outcome (Option Bytes)) := do
  if positive : length ≤ 0 then
    throwing (phpQuicThrow (text "read length must be positive, got " ++ decimal length))
  else
    match obj.ssl with
    | none => return .ok none
    | some ssl =>
      let blocking := (← ask (.sslGetBlockingMode ssl)) ≠ 0
      let (bytes, rc) ← readLoop ssl length.toNat blocking (.initial length.toNat (by omega))
      if bytes.length > 0 then
        return .ok (some bytes)
      else
        endOfRead ssl rc

/-- `end()`: conclude the send side. -/
def endStream (obj : PhpQuicStream) : Quic (Outcome Unit) :=
  match obj.ssl with
  | none => throwing (phpQuicThrow (text "stream is closed"))
  | some ssl => do
    if (← ask (.sslStreamConclude ssl)) = 0 then
      throwing (phpQuicThrowSsl (text "failed to conclude stream"))
    else
      return .ok ()

/-- The cast `(uint64_t)` of a `zend_long`. -/
def toUint64 (value : Int) : Nat := (value % 2 ^ 64).toNat

/-- The cast `(zend_long)` of a `uint64_t`. -/
def toZendLong (value : Nat) : Int := (value : Int).bmod (2 ^ 64)

def reset (obj : PhpQuicStream) (errorCode : Int) : Quic (Outcome Unit) :=
  match obj.ssl with
  | none => throwing (phpQuicThrow (text "stream is closed"))
  | some ssl => do
    if (← ask (.sslStreamReset ssl (toUint64 errorCode))) = 0 then
      throwing (phpQuicThrowSsl (text "failed to reset stream"))
    else
      return .ok ()

def getResetCode (obj : PhpQuicStream) : Quic (Option Int) :=
  match obj.ssl with
  | none => return none
  | some ssl => do
    -- Read side first (a peer RESET_STREAM), then the write side (STOP_SENDING).
    match ← ask (.sslGetStreamReadErrorCode ssl) with
    | some code => return some (toZendLong code)
    | none =>
      match ← ask (.sslGetStreamWriteErrorCode ssl) with
      | some code => return some (toZendLong code)
      | none => return none

def getId (obj : PhpQuicStream) : Quic (Outcome Int) :=
  match obj.ssl with
  | none => throwing (phpQuicThrow (text "stream is closed"))
  | some ssl => do
    return .ok (toZendLong (← ask (.sslGetStreamId ssl)))

def isBidirectional (obj : PhpQuicStream) : Quic Bool :=
  match obj.ssl with
  | none => return false
  | some ssl => ask (.sslGetStreamTypeBidi ssl)

/-- The connection, with the reference `RETURN_COPY` adds. -/
def getConnection (obj : PhpQuicStream) : Quic (Outcome ObjectId) :=
  match obj.connection with
  | none => throwing (phpQuicThrow (text "stream is not associated with a connection"))
  | some connection => do
    ask (.gcAddref connection)
    return .ok connection

/-- The adapter keeps this object alive for as long as the php_stream lives. -/
def asStream (obj : PhpQuicStream) (this : ObjectId) : Quic (Outcome PhpStream) :=
  match obj.ssl with
  | none => throwing (phpQuicThrow (text "stream is closed"))
  | some _ => do
    ask (.gcAddref this)
    match ← ask (.phpStreamAlloc this) with
    | none =>
      ask (.gcDelref this)
      throwing (phpQuicThrow (text "failed to allocate stream"))
    | some stream => return .ok stream

end Stream

end PhpQuic
