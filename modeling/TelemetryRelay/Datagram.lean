import TelemetryRelay.Link.State

/-!
# Datagram transports

One frame travels in one datagram, and every datagram stands alone.  A server
learns its peers from what it hears and sends to all it heard lately; a client
talks to one remote party only.
-/

namespace TelemetryRelay

open Wire

/-- The address of a datagram party. -/
abbrev Address := String

structure Datagram where
  sender : Address
  bytes : Bytes
  deriving DecidableEq, Repr

/-- The longest datagram that is a frame; a longer one is cut on arrival. -/
def maxDatagram : Nat := maxPayload + 6

/-- Where a receive puts what arrives. -/
structure Buffer where
  bytes : Bytes
  length_eq : bytes.length = maxDatagram

namespace Buffer

def blank : Buffer := ⟨List.replicate maxDatagram 0, List.length_replicate⟩

/-- How many bytes of a datagram find room. -/
def room (datagram : Bytes) : Nat := min datagram.length maxDatagram

/-- Puts a datagram over what was there; behind a shorter one the old bytes stay. -/
def store (b : Buffer) (datagram : Bytes) : Buffer :=
  ⟨datagram.take maxDatagram ++ b.bytes.drop (room datagram), by
    simp only [List.length_append, List.length_take, List.length_drop, b.length_eq, room]
    omega⟩

end Buffer

/-- What one wait at a socket comes to. -/
inductive Wait where
  /-- Nothing came as long as one wait lasts. -/
  | timedOut
  | failed (e : IoError)
  | heard (g : Datagram) (now : Nat)

def Wait.datagram? : Wait → Option Datagram
  | .heard g _ => some g
  | _ => none

inductive DatagramMode where
  | server (clientTimeout : Nat)
  | client (remote : Address)
  deriving DecidableEq, Repr

structure DatagramLink where
  mode : DatagramMode
  address : Address
  /-- When each peer was heard last. -/
  peers : Assoc Address Nat := .empty
  /-- Datagrams that wait at the socket. -/
  inbox : List Datagram := []
  closed : Bool := false

namespace DatagramLink

variable (d : DatagramLink)

/-- The peers that may still be sent to. -/
def fresh (clientTimeout now : Nat) : Assoc Address Nat :=
  ⟨d.peers.entries.filter fun p => now - p.2 ≤ clientTimeout⟩

/-- Whom a frame sent now goes to, and the link that has forgotten stale peers. -/
def targets (now : Nat) : List Address × DatagramLink :=
  match d.mode with
  | .client remote => ([remote], d)
  | .server clientTimeout =>
    let peers := d.fresh clientTimeout now
    (peers.keys, { d with peers })

/-- The frame in the bytes of a datagram; what trails it is ignored. -/
def decode (bytes : Bytes) : Except LinkError Frame :=
  match (readFrame (Source.putBack bytes [])).1 with
  | .ok f => .ok f
  | .error e => .error (.broken e)

/-- Whether a datagram counts: a client listens to its remote party only. -/
def minds (sender : Address) : Bool :=
  match d.mode with
  | .client remote => sender = remote
  | .server _ => true

/-- A server remembers when it heard somebody. -/
def note (now : Nat) (sender : Address) : DatagramLink :=
  match d.mode with
  | .client _ => d
  | .server _ => { d with peers := d.peers.set sender now }

/-- A receive waits until a datagram that counts arrives, or the socket fails.  What it comes to,
the waits that are left for others, and the link after it; it comes to nothing if they run out. -/
def receiveFrom (d : DatagramLink) (b : Buffer) :
    List Wait → Option (Except LinkError Frame) × List Wait × DatagramLink
  | [] => (none, [], d)
  | .timedOut :: rest => receiveFrom d b rest
  | .failed e :: rest => (some (.error (.broken (.io e))), rest, d)
  | .heard g now :: rest =>
    let b := b.store g.bytes
    if d.minds g.sender then
      (some (decode (b.bytes.take (Buffer.room g.bytes))), rest, d.note now g.sender)
    else receiveFrom d b rest

/-- A receive of what waits at the socket now. -/
def receive (now : Nat) : Option (Except LinkError Frame) × DatagramLink :=
  let (result, rest, d) := d.receiveFrom .blank (d.inbox.map (.heard · now))
  (result, { d with inbox := rest.filterMap Wait.datagram? })

def terminate : DatagramLink :=
  if d.closed then d else { d with closed := true, peers := .empty }

end DatagramLink

end TelemetryRelay
