import TelemetryRelay.Service.Basic

/-!
# The UDP service

One datagram transport serves all peers, so the whole service is one bridge.
-/

namespace TelemetryRelay

structure UdpService where
  socket : Socket
  transport : TransportId
  bridge : BridgeId
  /-- The loop of the bridge, once it is started. -/
  loop : Option TaskId := none

namespace UdpService

/-- The address of a bound socket; every free port is another one. -/
def addressOf (n : Node) (s : Socket) : Address :=
  if s.port = 0 then s!"{s.address}:#{n.fresh}" else s.render

def bind (n : Node) (settings : UdpSettings) (table : MappingTable) :
    Except ServiceError (UdpService × Node) := do
  let n ← n.bind settings.socket
  let link : DatagramLink :=
    { mode := .server settings.clientTimeout, address := addressOf n settings.socket }
  let (transport, n) := n.addTransport (.datagram link)
  let (bridge, n) := n.addBridge table transport
  return ({ socket := settings.socket, transport, bridge }, n)

variable (s : UdpService) (n : Node)

/-- The transport that serves the peers. -/
def link? : Option DatagramLink :=
  match (n.transports.get? s.transport).map (·.carrier) with
  | some (Carrier.datagram d) => some d
  | _ => none

def peerCount : Nat := ((s.link? n).map (·.peers.entries.length)).getD 0

def start : Except ServiceError (UdpService × Node) :=
  if (s.link? n).all (·.closed) then .error .terminated
  else if s.loop.isSome then .error .alreadyStarted
  else
    let (loop, n) := n.startBridge s.bridge
    .ok ({ s with loop := some loop }, n)

def terminate : Action :=
  .all (.stop s.bridge :: (s.loop.map .await).toList ++ [.unbind s.socket])

/-- A datagram of a remote party arrives, if it can reach the socket. -/
def hear (peer : Address) (bytes : Bytes) : Option Node :=
  match s.link? n with
  | some d => if n.reaches peer then some (n.occur (.datagram ⟨peer, bytes⟩ d.address)) else none
  | none => none

end UdpService

end TelemetryRelay
