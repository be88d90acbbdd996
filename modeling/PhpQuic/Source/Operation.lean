/-
The entry points of the extension: the methods PHP code can call, the functions of the php_stream
adapter, the object destructors and `Quic\poll`, with the records of the objects they work on.
-/

import PhpQuic.Source.Listener
import PhpQuic.Source.Poll

namespace PhpQuic

/-- The `get_gc` handler of an object; a listener has the standard one, and no properties. -/
def QuicObject.getGc : QuicObject → List ObjectId
  | .connection obj => quicConnectionGetGc obj
  | .stream obj => quicStreamGetGc obj
  | .listener _ | .foreign => []

/-- The exception a method raised, if it did. -/
def thrownOf {α : Type} : Outcome α → Option Thrown
  | .error thrown => some thrown
  | .ok _ => none

/-- One call into the extension. -/
inductive Operation where
  | newConnection (fuel : Nat) (obj : PhpQuicConnection) (host : Bytes) (port : Int)
      (options : Option HashTable)
  | openStream (obj : PhpQuicConnection) (this : ObjectId) (bidirectional : Bool)
  | acceptStream (obj : PhpQuicConnection) (this : ObjectId)
  | closeConnection (obj : PhpQuicConnection) (errorCode : Int) (reason : Bytes)
  | getCloseInfo (obj : PhpQuicConnection)
  | getConnectionFd (obj : PhpQuicConnection)
  | getCryptoInfo (obj : PhpQuicConnection)
  | getNegotiatedAlpn (obj : PhpQuicConnection)
  | getPeerCertificate (obj : PhpQuicConnection)
  | getPeerCertificateChain (obj : PhpQuicConnection)
  | getVerifyResult (obj : PhpQuicConnection)
  | getVerifyResultString (obj : PhpQuicConnection)
  | freeConnection (obj : PhpQuicConnection)
  | newListener (obj : PhpQuicListener) (host : Bytes) (port : Int) (options : HashTable)
  | accept (obj : PhpQuicListener) (this : ObjectId)
  | closeListener (obj : PhpQuicListener)
  | getListenerFd (obj : PhpQuicListener)
  | freeListener (obj : PhpQuicListener)
  /-- `setBlocking` and the four methods below are those of a connection or of a listener. -/
  | setBlocking (ssl : Option Ssl) (closedText : String) (blocking : Bool)
  | wantsRead (ssl : Option Ssl)
  | wantsWrite (ssl : Option Ssl)
  | getTimeout (ssl : Option Ssl)
  | handleEvents (ssl : Option Ssl)
  | newStream (obj : PhpQuicStream) (conn : ObjectId) (bidirectional : Bool)
  | write (obj : PhpQuicStream) (data : Buffer) (fin : Bool)
  | read (obj : PhpQuicStream) (length : Int)
  | endStream (obj : PhpQuicStream)
  | reset (obj : PhpQuicStream) (errorCode : Int)
  | getResetCode (obj : PhpQuicStream)
  | getId (obj : PhpQuicStream)
  | isBidirectional (obj : PhpQuicStream)
  | getConnection (obj : PhpQuicStream)
  | asStream (obj : PhpQuicStream) (this : ObjectId)
  | freeStream (obj : PhpQuicStream)
  | opWrite (obj : PhpQuicStream) (buf : Buffer)
  | opRead (obj : PhpQuicStream) (count : Nat)
  | opClose (abstract : Option ObjectId)
  | opFlush
  | opCast (obj : PhpQuicStream) (castas : CastAs)
  | poll (items : HashTable) (timeout : Option Float)

/-- A method whose value does not matter here, and that does not throw. -/
def quiet {α : Type} (method : Quic α) : Quic (Option Thrown) := do
  let _ ← method
  return none

/-- A method that may throw. -/
def raising {α : Type} (method : Quic (Outcome α)) : Quic (Option Thrown) := do
  return thrownOf (← method)

/-- Run the operation, down to the exception it raises. -/
def Operation.program : Operation → Quic (Option Thrown)
  | newConnection fuel obj host port options => do
    return (← Connection.construct fuel obj host port options).bind thrownOf
  | openStream obj this bidirectional => raising (Connection.openStream obj this bidirectional)
  | acceptStream obj this => quiet (Connection.acceptStream obj this)
  | closeConnection obj errorCode reason => quiet (Connection.close obj errorCode reason)
  | getCloseInfo obj => quiet (Connection.getCloseInfo obj)
  | getConnectionFd obj => quiet (Connection.getFd obj)
  | getCryptoInfo obj => raising (Connection.getCryptoInfo obj)
  | getNegotiatedAlpn obj => quiet (Connection.getNegotiatedAlpn obj)
  | getPeerCertificate obj => raising (Connection.getPeerCertificate obj)
  | getPeerCertificateChain obj => quiet (Connection.getPeerCertificateChain obj)
  | getVerifyResult obj => raising (Connection.getVerifyResult obj)
  | getVerifyResultString obj => raising (Connection.getVerifyResultString obj)
  | freeConnection obj => quiet (quicConnectionFree obj)
  | newListener obj host port options => raising (Listener.construct obj host port options)
  | accept obj this => quiet (Listener.accept obj this)
  | closeListener obj => quiet (Listener.close obj)
  | getListenerFd obj => quiet (Listener.getFd obj)
  | freeListener obj => quiet (quicListenerFree obj)
  | setBlocking ssl closedText blocking => raising (setBlockingOf ssl closedText blocking)
  | wantsRead ssl => quiet (wantsReadOf ssl)
  | wantsWrite ssl => quiet (wantsWriteOf ssl)
  | getTimeout ssl => raising (getTimeoutOf ssl)
  | handleEvents ssl => quiet (handleEventsOf ssl)
  | newStream obj conn bidirectional => raising (Stream.construct obj conn bidirectional)
  | write obj data fin => raising (Stream.write obj data fin)
  | read obj length => raising (Stream.read obj length)
  | endStream obj => raising (Stream.endStream obj)
  | reset obj errorCode => raising (Stream.reset obj errorCode)
  | getResetCode obj => quiet (Stream.getResetCode obj)
  | getId obj => raising (Stream.getId obj)
  | isBidirectional obj => quiet (Stream.isBidirectional obj)
  | getConnection obj => raising (Stream.getConnection obj)
  | asStream obj this => raising (Stream.asStream obj this)
  | freeStream obj => quiet (quicStreamFree obj)
  | opWrite obj buf => quiet (quicStreamOpWrite obj buf)
  | opRead obj count => quiet (quicStreamOpRead obj count)
  | opClose abstract => quiet (quicStreamOpClose abstract)
  | opFlush => quiet quicStreamOpFlush
  | opCast obj castas => quiet (quicStreamOpCast obj castas)
  | poll items timeout => raising (Poll.poll items timeout)

end PhpQuic
