import TelemetryRelay.Node.Step

/-!
# Runs

What happens to a node is a list of moves: steps of its tasks, and what comes
from outside.  `run` follows one.  Any list may occur, so a statement about all
runs is one about all interleavings.
-/

namespace TelemetryRelay

open Wire

/-- What comes from outside. -/
inductive Occurrence where
  /-- Some milliseconds pass. -/
  | pass (duration : Nat)
  /-- The remote end of a connection writes. -/
  | write (c : ConnectionName) (bytes : Bytes)
  /-- The remote end of a connection closes. -/
  | close (c : ConnectionName)
  | failReads (c : ConnectionName) (e : IoError)
  | failWrites (c : ConnectionName) (e : IoError)
  /-- The remote end takes that many bytes more, or any number. -/
  | credit (c : ConnectionName) (count : Option Nat)
  /-- The gate of a scripted transport gets permits. -/
  | permit (t : TransportId) (count : Nat)
  /-- A peer comes to the socket of an acceptor over a new connection. -/
  | dialIn (a : AcceptorId) (c : ConnectionName)
  | datagram (g : Datagram) (address : Address)
  /-- Someone wants something done, and to be told about it if there is a label. -/
  | begin (a : Action) (label : Option String)
  | startBridge (b : BridgeId) (label : Option String)
  | startAcceptor (a : AcceptorId)
  | subscribe (who : String) (type : Family)
  | unsubscribe (who : String)

namespace Node

variable (n : Node)

def onConnection (c : ConnectionName) (f : Connection → Connection) : Node :=
  n.setConnection c (f (n.connection c))

def addPermits (t : TransportId) (count : Nat) : Node :=
  match (n.transports.get? t).map (·.carrier) with
  | some (Carrier.scripted s) => n.setCarrier t (.scripted { s with permits := s.permits + count })
  | _ => n

/-- A peer comes to a socket; a closed one turns it away. -/
def dialIn (a : AcceptorId) (c : ConnectionName) : Node :=
  match n.acceptors.get? a with
  | some acceptor =>
    if acceptor.closed then n
    else (n.setConnection c {}).setAcceptor a { acceptor with backlog := acceptor.backlog ++ [c] }
  | none => n

def occur : Occurrence → Node
  | .pass duration => { n with now := n.now + duration }
  | .write c bytes => n.onConnection c fun x => { x with inbound := x.inbound ++ bytes }
  | .close c => n.onConnection c fun x => { x with remoteClosed := true }
  | .failReads c e => n.onConnection c fun x => { x with readFault := some e }
  | .failWrites c e => n.onConnection c fun x => { x with writeFault := some e }
  | .credit c count => n.onConnection c fun x => { x with credit := count }
  | .permit t count => n.addPermits t count
  | .dialIn a c => n.dialIn a c
  | .datagram g address => n.deposit g address
  | .begin a label => (n.spawn a label).2
  | .startBridge b label => (n.startBridge b label).2
  | .startAcceptor a => n.startAcceptor a
  | .subscribe who type => n.subscribe who type
  | .unsubscribe who => n.unsubscribe who

end Node

inductive Move where
  /-- A task takes one step. -/
  | step (id : TaskId)
  | outside (o : Occurrence)

namespace Node

def move (n : Node) : Move → Option Node
  | .step id => n.step id
  | .outside o => some (n.occur o)

/-- Follows the moves; there is no end if one of them cannot happen. -/
def run : Node → List Move → Option Node
  | n, [] => some n
  | n, m :: ms => (n.move m).bind fun n => run n ms

theorem run_append (n : Node) (ms ms' : List Move) :
    n.run (ms ++ ms') = (n.run ms).bind fun n => n.run ms' := by
  induction ms generalizing n with
  | nil => simp [run]
  | cons m ms ih => cases h : n.move m <;> simp [run, h, ih]

end Node

end TelemetryRelay
