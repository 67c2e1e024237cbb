import TelemetryRelay.Node.State

/-!
# The network around a node

Dialling, and the ways of datagrams.
-/

namespace TelemetryRelay

open Wire

def unreachable : IoError := ⟨.unreachable, "Network is unreachable (os error 101)"⟩

def refused : IoError := ⟨.refused, "Connection refused (os error 111)"⟩

def notFound : IoError := ⟨.notFound, "No such file or directory (os error 2)"⟩

namespace Node

variable (n : Node)

/-- Whether the network leads to an endpoint; what is on the same machine is always near. -/
def leadsTo : Endpoint → Bool
  | .tcp host _ => n.reaches host
  | .unix _ => true

/-- What is heard of an endpoint at which nobody listens. -/
def noAnswer : Endpoint → IoError
  | .tcp host _ => if n.reaches host then refused else unreachable
  | .unix _ => notFound

/-- Dials an endpoint.  Whoever listens there accepts the new connection in its own time. -/
def connect (e : Endpoint) : Except IoError ConnectionName × Node :=
  match n.hosts.get? e with
  | none => (.error (n.noAnswer e), n)
  | some backlog =>
    if n.leadsTo e then
      let (k, n) := n.draw
      let name := s!"{e.render} #{k}"
      (.ok name, { n.setConnection name {} with hosts := n.hosts.set e (backlog ++ [name]) })
    else (.error unreachable, n)

/-- A dial begins. -/
def beginDial : Dialer → Dialer
  | .scripted script calls _ =>
    .scripted script (calls + 1) (n.now + min ((script.head?.map (·.delay)).getD 0) n.longestSleep)
  | .endpoint e => .endpoint e

def scriptEmpty : IoError := ⟨.refused, "script empty"⟩

/-- What a dial comes to, if it is over. -/
def endDial : Dialer → Option (Except IoError ConnectionName × Dialer × Node)
  | .scripted script calls due =>
    if n.now < due then none
    else match script with
      | [] => some (.error scriptEmpty, .scripted [] calls due, n)
      | d :: rest =>
        let n := match d.result with
          | .ok name => n.setConnection name (n.connection name)
          | .error _ => n
        some (d.result, .scripted rest calls due, n)
  | .endpoint e =>
    let (result, n) := n.connect e
    some (result, .endpoint e, n)

/-- The datagram transport at an address. -/
def datagramAt? (address : Address) : Option (TransportId × DatagramLink) :=
  n.transports.entries.findSome? fun (t, tr) =>
    match tr.carrier with
    | .datagram d => if d.address = address then some (t, d) else none
    | _ => none

/-- Puts a datagram where it is addressed to: at a transport of the node, or with
the remote party of that address. -/
def deposit (g : Datagram) (address : Address) : Node :=
  match n.datagramAt? address with
  | some (t, d) => n.setCarrier t (.datagram { d with inbox := d.inbox ++ [g] })
  | none => { n with mail := n.mail.set address ((n.mail.get? address).getD [] ++ [g.bytes]) }

end Node

end TelemetryRelay
