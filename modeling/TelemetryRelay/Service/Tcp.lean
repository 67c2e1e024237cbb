import TelemetryRelay.Service.Basic

/-!
# The TCP service

A bound socket with an acceptor behind it.  Peers may connect as soon as it is
bound and are attached once it is started.
-/

namespace TelemetryRelay

structure TcpService where
  socket : Socket
  acceptor : AcceptorId

namespace TcpService

def bind (n : Node) (settings : TcpSettings) (buffer : BufferSettings) (table : MappingTable) :
    Except ServiceError (TcpService × Node) := do
  let n ← n.bind settings.socket
  let (a, n) := n.draw
  let acceptor := { maxPeers := settings.maxPeers, capacity := buffer.capacity, table }
  return (⟨settings.socket, a⟩, n.setAcceptor a acceptor)

variable (s : TcpService) (n : Node)

def isClosed : Bool := (n.acceptors.get? s.acceptor).all (·.closed)

def peerCount : Nat := ((n.acceptors.get? s.acceptor).map (·.peers.length)).getD 0

def start : Except ServiceError Node :=
  match n.acceptors.get? s.acceptor with
  | none => .error .terminated
  | some acceptor =>
    if acceptor.closed then .error .terminated
    else if acceptor.loop.isSome then .error .alreadyStarted
    else .ok (n.occur (.startAcceptor s.acceptor))

def terminate : Action := .all [.close s.acceptor, .unbind s.socket]

/-- A remote party connects, if it can reach the socket and the socket is open. -/
def dialIn (peer : Address) (connection : ConnectionName) : Option Node :=
  if n.reaches peer && !s.isClosed n then some (n.occur (.dialIn s.acceptor connection)) else none

end TcpService

end TelemetryRelay
