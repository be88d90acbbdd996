/-
quic_util.c: the timed handshake.

The C loop has no bound of its own. `fuel` is the number of rounds the model follows; `none` says
that after so many rounds the function is still in the loop.
-/

import PhpQuic.Source.Tls

namespace PhpQuic

/-- Narrowing an unsigned 64-bit difference to `int64_t`. -/
def toInt64 (value : Int) : Int := value.bmod (2 ^ 64)

def intMax : Int := 2 ^ 31 - 1

/-- The wait of one round: the remaining time, cut down to the engine's own timer. -/
def connectWaitMs (remaining : Int) (timer : Option EventTimeout) : Int :=
  let waitMs := if intMax < remaining then intMax else toInt32 remaining
  match timer with
  | some { tv, isInfinite := false } =>
    let evMs := toInt32 (tv.sec * 1000 + tv.usec.tdiv 1000)
    if evMs < waitMs then evMs else waitMs
  | _ => waitMs

/-- The `for (;;)` of `php_quic_connect_timed`, from one `SSL_connect` to the next. -/
def connectTimedLoop (ssl : Ssl) (fd : Fd) (timeoutMs : Int) (start : Nat) :
    Nat → Quic (Option Int)
  | 0 => return none
  | fuel + 1 => do
    let rc ← ask (.sslConnect ssl)
    if rc = 1 then
      let _ ← ask (.sslSetBlockingMode ssl true)
      return some 1
    let err ← ask (.sslGetError ssl rc)
    if err ≠ .wantRead ∧ err ≠ .wantWrite then
      let _ ← ask (.sslSetBlockingMode ssl true)
      return some 0
    let now ← ask .monotonicMs
    let remaining := timeoutMs - toInt64 ((now : Int) - start)
    if remaining ≤ 0 then
      let _ ← ask (.sslSetBlockingMode ssl true)
      return some (-1)
    let timer ← ask (.sslGetEventTimeout ssl)
    let readDesired ← ask (.sslNetReadDesired ssl)
    let writeDesired ← ask (.sslNetWriteDesired ssl)
    -- With neither direction wanted the poll waits for input.
    ask (.phpPollfdForMs fd (readDesired || !writeDesired) writeDesired
      (connectWaitMs remaining timer))
    ask (.sslHandleEvents ssl)
    connectTimedLoop ssl fd timeoutMs start fuel

def phpQuicConnectTimed (fuel : Nat) (ssl : Ssl) (fd : Fd) (timeoutMs : Int) :
    Quic (Option Int) := do
  let start ← ask .monotonicMs
  let _ ← ask (.sslSetBlockingMode ssl false)
  connectTimedLoop ssl fd timeoutMs start fuel

end PhpQuic
