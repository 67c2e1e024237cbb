import TelemetryRelay.Node.Assembly
import TelemetryRelay.Service.Tcp
import TelemetryRelay.Service.Udp

/-!
# Relays

A relay runs the listener services and the uplink on one node.  It starts them
one after the other and gives up at the first that fails, which leaves those
before it running; stopping ends whatever runs.
-/

namespace TelemetryRelay

/-- Which services a relay runs. -/
structure Services where
  tcp : Bool := true
  udp : Bool := true
  uplink : Bool := true

structure Uplink where
  bridge : BridgeId
  loop : TaskId

def Uplink.terminate (u : Uplink) : Action := .all [.stop u.bridge, .await u.loop]

inductive StartError where
  | tcp (cause : ServiceError)
  | udp (cause : ServiceError)
  | uplink (target : Endpoint) (cause : BridgeError)

def StartError.message : StartError → String
  | .tcp _ => "Failed to start TCP listener"
  | .udp _ => "Failed to start UDP listener"
  | .uplink target _ => s!"Failed to connect uplink to {target.render}"

structure Relay where
  settings : Settings
  services : Services
  table : MappingTable
  tcp : Option TcpService := none
  udp : Option UdpService := none
  uplink : Option Uplink := none

namespace Relay

/-- A relay that has not started, and its node with a logger on the bus. -/
def make (settings : Settings) (services : Services) (n : Node := {}) :
    Except MappingError (Relay × Node) := do
  let table ← MappingTable.build .standard settings.mappings
  let (logger, n) := n.draw
  let bus := n.bus.subscribe ⟨logger⟩ .logger Family.anyMessage
  return ({ settings, services, table }, n.setBus bus)

/-- What a start comes to: how far the relay got, and what stopped it. -/
structure Started where
  relay : Relay
  node : Node
  failure : Option StartError := none

namespace Started

/-- The next stage of a start, unless an earlier one failed. -/
def andThen (s : Started) (stage : Relay → Node → Started) : Started :=
  if s.failure.isSome then s else stage s.relay s.node

end Started

def startTcp (r : Relay) (n : Node) : Started :=
  if !r.services.tcp then ⟨r, n, none⟩
  else match TcpService.bind n r.settings.tcp r.settings.buffer r.table with
    | .error e => ⟨r, n, some (.tcp e)⟩
    | .ok (service, n) =>
      match service.start n with
      | .error e => ⟨r, n, some (.tcp e)⟩
      | .ok n => ⟨{ r with tcp := some service }, n, none⟩

def startUdp (r : Relay) (n : Node) : Started :=
  if !r.services.udp then ⟨r, n, none⟩
  else match UdpService.bind n r.settings.udp r.table with
    | .error e => ⟨r, n, some (.udp e)⟩
    | .ok (service, n) =>
      match service.start n with
      | .error e => ⟨r, n, some (.udp e)⟩
      | .ok (service, n) => ⟨{ r with udp := some service }, n, none⟩

def startUplink (r : Relay) (n : Node) : Started :=
  match r.services.uplink, r.settings.link.endpoint with
  | true, some target =>
    let plan : BridgePlan :=
      { table := some r.table, link := some (r.settings.link, r.settings.buffer) }
    match n.build .standard plan with
    | (.error e, n) => ⟨r, n, some (.uplink target e)⟩
    | (.ok bridge, n) =>
      let (loop, n) := n.startBridge bridge
      ⟨{ r with uplink := some ⟨bridge, loop⟩ }, n, none⟩
  | _, _ => ⟨r, n, none⟩

def start (r : Relay) (n : Node) : Started :=
  ((r.startTcp n).andThen startUdp).andThen startUplink

/-- Ends all that runs: what the stop does, and the relay that it leaves. -/
def stop (r : Relay) : Action × Relay :=
  let actions := (r.uplink.map Uplink.terminate).toList ++ (r.tcp.map (·.terminate)).toList ++
    (r.udp.map (·.terminate)).toList
  (.all actions, { r with tcp := none, udp := none, uplink := none })

def isUplinkRunning (r : Relay) (n : Node) : Bool :=
  r.uplink.any fun u => (n.bridges.get? u.bridge).any (·.running)

end Relay

end TelemetryRelay
