import TelemetryRelay.Connection
import TelemetryRelay.Datagram
import TelemetryRelay.Node.Task
import TelemetryRelay.Outbox
import TelemetryRelay.Scripted

/-!
# Nodes

A node is everything that runs in one place: the bus with its listeners, the
transports, the bridges between them, what accepts peers, and the tasks that
keep them going.  Around it stands the network as far as the node can see it:
connections, remote parties that can be dialled, and datagrams on their way.
-/

namespace TelemetryRelay

open Wire

/-- What dialling comes to, and after how long. -/
structure Dial where
  result : Except IoError ConnectionName
  delay : Nat := 0

inductive Dialer where
  /-- Each dial takes the next of the script; `due` is when the latest is over. -/
  | scripted (script : List Dial) (calls : Nat) (due : Nat)
  | endpoint (e : Endpoint)

inductive Carrier where
  | link (l : Link) (dialer : Option Dialer)
  | scripted (s : Scripted)
  | datagram (d : DatagramLink)

structure Transport where
  carrier : Carrier
  outbox : Option Outbox := none

namespace Carrier

def isClosed : Carrier → Bool
  | .link l _ => l.closed
  | .scripted s => s.closed
  | .datagram d => d.closed

def canRecover : Carrier → Bool
  | .link l _ => l.canDial
  | .scripted s => s.canRecover
  | .datagram _ => true

end Carrier

namespace Transport

def isTerminated (t : Transport) : Bool :=
  match t.outbox with
  | some o => o.closed
  | none => t.carrier.isClosed

def canRecover (t : Transport) : Bool := t.carrier.canRecover

end Transport

/-- A listener that does with its messages whatever it likes. -/
structure Actor where
  id : ListenerId
  /-- What it does with a message; its calls are counted from one. -/
  behave : Nat → Message → Behaviour := fun _ _ => .finish true
  calls : Nat := 0

inductive LogEntry where
  | received (name : String) (message : Message)
  | published (name : String) (result : Except BusError Nat)

/-- Accepts stream peers up to a limit and gives each a bridge of its own. -/
structure Acceptor where
  maxPeers : Nat
  capacity : Nat
  table : MappingTable
  /-- Connections that nobody has accepted yet. -/
  backlog : List ConnectionName := []
  closed : Bool := false
  /-- The task that accepts, once there is one. -/
  loop : Option TaskId := none
  peers : List BridgeId := []

structure Node where
  /-- The time in milliseconds. -/
  now : Nat := 0
  /-- How long a task can sleep at a stretch: thirty years of 365 days, unless said otherwise. -/
  longestSleep : Nat := 946080000000
  /-- The hosts and datagram parties that the network leads to. -/
  reaches : Address → Bool := fun _ => true
  connections : Assoc ConnectionName Connection := .empty
  /-- Remote parties that can be dialled, and the connections they have not accepted yet. -/
  hosts : Assoc Endpoint (List ConnectionName) := .empty
  /-- Sockets that nobody can bind any more. -/
  bound : List Socket := []
  /-- Datagrams that remote parties got and have not looked at yet. -/
  mail : Assoc Address (List Bytes) := .empty
  bus : Bus Listener := .empty
  actors : Assoc String Actor := .empty
  transports : Assoc TransportId Transport := .empty
  bridges : Assoc BridgeId Bridge := .empty
  acceptors : Assoc AcceptorId Acceptor := .empty
  tasks : Assoc TaskId Task := .empty
  /-- The next number that nothing is called by yet. -/
  fresh : Nat := 0
  /-- What actors got and did, oldest first. -/
  log : List LogEntry := []
  /-- Replies of labelled tasks. -/
  reports : List (String × Reply) := []

namespace Node

variable (n : Node)

/-- By how much a task is woken early that wants to sleep for a pause. -/
def shortfall (pause : Nat) : Nat := pause - n.longestSleep

def setTransport (t : TransportId) (tr : Transport) : Node :=
  { n with transports := n.transports.set t tr }

def setCarrier (t : TransportId) (c : Carrier) : Node :=
  { n with transports := n.transports.modify t ({ · with carrier := c }) }

def setOutbox (t : TransportId) (o : Outbox) : Node :=
  { n with transports := n.transports.modify t ({ · with outbox := some o }) }

def setConnection (name : ConnectionName) (c : Connection) : Node :=
  { n with connections := n.connections.set name c }

def connection (name : ConnectionName) : Connection := (n.connections.get? name).getD {}

/-- Drops the local end of a connection. -/
def dropConnection (name : ConnectionName) : Node :=
  n.setConnection name { n.connection name with localClosed := true }

def setBus (bus : Bus Listener) : Node := { n with bus }

def setRunning (b : BridgeId) (running : Bool) : Node :=
  { n with bridges := n.bridges.modify b ({ · with running }) }

def setAcceptor (a : AcceptorId) (acceptor : Acceptor) : Node :=
  { n with acceptors := n.acceptors.set a acceptor }

def record (e : LogEntry) : Node := { n with log := n.log ++ [e] }

/-- A number that nothing is called by yet. -/
def draw : Nat × Node := (n.fresh, { n with fresh := n.fresh + 1 })

def spawn (a : Action) (label : Option String := none) (outbox : Option TransportId := none) :
    TaskId × Node :=
  let (id, n) := n.draw
  (id, { n with tasks := n.tasks.set id { activity := .acting a, outbox, label } })

/-- Takes in a transport; an outbox gets the task that sends for it. -/
def addTransport (carrier : Carrier) (outbox : Option Outbox := none) : TransportId × Node :=
  let (t, n) := n.draw
  let n := n.setTransport t { carrier, outbox }
  match outbox with
  | none => (t, n)
  | some _ => (t, (n.spawn (.drain t) none (some t)).2)

/-- Whether an outbox was asked for that is larger than any can be. -/
def isOverfull : Bool :=
  n.transports.entries.any fun (_, t) => t.outbox.any (Outbox.maxCapacity < ·.capacity)

def addBridge (table : MappingTable) (transport : TransportId) : BridgeId × Node :=
  let (b, n) := n.draw
  (b, { n with bridges := n.bridges.set b { id := ⟨b⟩, table, transport } })

/-- Subscribes a bridge to what it advertises and starts its loop. -/
def startBridge (b : BridgeId) (label : Option String := none) : TaskId × Node :=
  match n.bridges.get? b with
  | none => n.spawn (.leave b) label
  | some bridge =>
    let bus := bridge.interests.foldl
      (fun bus type => bus.subscribe bridge.id (.bridge b) type) n.bus
    ((n.setRunning b true).setBus bus).spawn (.listen b) label

/-- Takes a bridge off the bus for good. -/
def silence (b : BridgeId) : Node :=
  match n.bridges.get? b with
  | none => n
  | some bridge => (n.setRunning b false).setBus (n.bus.unsubscribe bridge.id)

end Node

end TelemetryRelay
