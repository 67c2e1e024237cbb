import TelemetryRelay.Node.Network
import TelemetryRelay.Settings.Basic

/-!
# How bridges are put together

A bridge needs a mapping table and a transport.  Each can be handed over ready
or described by settings; what is ready goes first, and the table is checked
before anything is dialled.
-/

namespace TelemetryRelay

structure BridgePlan where
  table : Option MappingTable := none
  mappings : Option (List MappingConfig) := none
  transport : Option TransportId := none
  link : Option (LinkSettings × BufferSettings) := none

def BridgePlan.resolveTable (p : BridgePlan) (registry : Registry) :
    Except MappingError MappingTable :=
  match p.table, p.mappings with
  | some table, _ => .ok table
  | none, some mappings => MappingTable.build registry mappings
  | none, none => .error .empty

namespace Node

variable (n : Node)

/-- Dials, and puts an outbox before the link. -/
def dial (s : LinkSettings) (buffer : BufferSettings) : Except LinkError TransportId × Node :=
  match s.target with
  | .error e => (.error e, n)
  | .ok endpoint =>
    match n.connect endpoint with
    | (.error cause, n) => (.error (.connect endpoint.render cause), n)
    | (.ok connection, n) =>
      let link := Link.start connection true s.reconnectPause s.maximumReconnects
      let (t, n) := n.addTransport (.link link (some (.endpoint endpoint)))
        (some (.make buffer.capacity s.reconnectPause))
      (.ok t, n)

def resolveTransport (p : BridgePlan) : Except BridgeError TransportId × Node :=
  match p.transport, p.link with
  | some t, _ => (.ok t, n)
  | none, some (s, buffer) =>
    let (result, n) := n.dial s buffer
    (result.mapError .link, n)
  | none, none => (.error .noTransport, n)

def build (registry : Registry) (p : BridgePlan) : Except BridgeError BridgeId × Node :=
  match p.resolveTable registry with
  | .error e => (.error (.mapping e), n)
  | .ok table =>
    match n.resolveTransport p with
    | (.error e, n) => (.error e, n)
    | (.ok t, n) =>
      let (b, n) := n.addBridge table t
      (.ok b, n)

end Node

end TelemetryRelay
