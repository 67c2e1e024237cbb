import TelemetryRelay.Node.Observation
import TelemetryRelay.Node.Schedule

/-!
# Remote parties

A party goes by a name and stands at the far end of a connection.  It can write
and close, and it sees what is written to it and that the node has closed.
-/

namespace TelemetryRelay

structure Parties where
  connections : Assoc String ConnectionName := .empty
  /-- Parties who know that their connection is over. -/
  finished : List String := []

namespace Parties

variable (p : Parties) (n : Node)

/-- A party gets a new connection. -/
def join (name : String) (connection : ConnectionName) : Parties :=
  { connections := p.connections.set name connection, finished := p.finished.erase name }

def write (name : String) (bytes : Bytes) : Node :=
  match p.connections.get? name with
  | none => n
  | some c => n.occur (.write c bytes)

def close (name : String) : Parties × Node :=
  match p.connections.get? name with
  | none => (p, n)
  | some c => ({ p with finished := name :: p.finished }, n.occur (.close c))

/-- What each party was sent since it looked last. -/
def received : List (String × Bytes) :=
  (p.connections.entries.map fun (name, c) => (name, (n.connection c).outbound)).filter
    (!·.2.isEmpty)

/-- The parties who learn now that the node has closed their connections. -/
def ended : List String :=
  (p.connections.entries.filter fun (name, c) =>
    (n.connection c).localClosed && !p.finished.contains name).map (·.1)

/-- All parties have looked. -/
def look : Parties × Node :=
  ({ p with finished := p.ended n ++ p.finished },
    n.forgetBy fun c => p.connections.entries.any (·.2 == c))

/-- The first party waiting at an endpoint accepts under a name. -/
def accept (name : String) (e : Endpoint) : Option (Parties × Node) :=
  match n.hosts.get? e with
  | some (c :: rest) => some (p.join name c, { n with hosts := n.hosts.set e rest })
  | _ => none

end Parties

end TelemetryRelay
