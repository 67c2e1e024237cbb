import TelemetryRelay.Bus
import TelemetryRelay.Mapping
import TelemetryRelay.Link.Error
import TelemetryRelay.Wire.Frame

/-!
# Bridges

A bridge joins one transport to the bus by way of a mapping table: frames become
messages on their way in and messages become frames on their way out.  It
listens to the advertised types and publishes under its own id, so that nothing
goes back where it came from.
-/

namespace TelemetryRelay

open Wire

inductive BridgeError where
  | noTransport
  | mapping (e : MappingError)
  | unmapped (type : String)
  | frame (e : FrameError)
  | link (e : LinkError)
  deriving DecidableEq, Repr

def BridgeError.message : BridgeError → String
  | .noTransport => "no transport supplied or configured"
  | .mapping e => e.message
  | .unmapped type => s!"no mapping found for message type {type}"
  | .frame e => e.message
  | .link e => e.message

namespace MappingTable

/-- The frame that carries a message. -/
def frameOf (t : MappingTable) (m : Message) : Except BridgeError Frame :=
  match t.byType? m.family with
  | none => .error (.unmapped m.family.name)
  | some entry => (Frame.make entry.tag m.encode).mapError .frame

/-- The message that a frame carries; there is none if its tag is not mapped or
its payload cannot be decoded. -/
def messageOf? (t : MappingTable) (f : Frame) : Option Message := do
  let entry ← t.byTag? f.tag
  (entry.type.decode f.payload).toOption

end MappingTable

abbrev TransportId := Nat

abbrev BridgeId := Nat

structure Bridge where
  /-- What the bridge is called on the bus. -/
  id : ListenerId
  table : MappingTable
  transport : TransportId
  running : Bool := false

/-- The types that a bridge listens to, in the order of its table. -/
def Bridge.interests (b : Bridge) : List Family := b.table.advertised.map (·.type)

end TelemetryRelay
