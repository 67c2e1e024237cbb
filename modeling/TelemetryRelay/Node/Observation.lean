import TelemetryRelay.Node.State

/-!
# What is seen from outside

A node collects what it wrote, logged and reported until someone looks.
`forget` is the node after the look.
-/

namespace TelemetryRelay

open Wire

namespace Node

variable (n : Node)

/-- The connections whose local end was dropped. -/
def dropped : List ConnectionName :=
  (n.connections.entries.filter (·.2.localClosed)).map (·.1)

/-- What was written, by connection. -/
def written : List (ConnectionName × Bytes) :=
  (n.connections.entries.filter (!·.2.outbound.isEmpty)).map fun (name, c) => (name, c.outbound)

/-- The frames that a scripted transport sent. -/
def sentBy (t : TransportId) : List Frame :=
  match (n.transports.get? t).map (·.carrier) with
  | some (Carrier.scripted s) => s.sent
  | _ => []

def forgetSent (t : Transport) : Transport :=
  match t.carrier with
  | .scripted s => { t with carrier := .scripted { s with sent := [] } }
  | _ => t

/-- Forgets what these connections took, and all else that was collected. -/
def forgetBy (seen : ConnectionName → Bool) : Node :=
  let look (name : ConnectionName) (c : Connection) : Connection :=
    if seen name then { c with outbound := [] } else c
  { n with
    log := [], reports := [], mail := .empty
    connections := ⟨n.connections.entries.map fun (name, c) => (name, look name c)⟩
    transports := ⟨n.transports.entries.map fun (t, tr) => (t, forgetSent tr)⟩ }

def forget : Node := n.forgetBy fun _ => true

end Node

end TelemetryRelay
