import TelemetryRelay.Link.State

/-!
# Scripted transports

A stand-in for a link whose every outcome is laid down beforehand.  A send may
be held at a gate until it is given a permit; permits go to waiting sends in
order of arrival.
-/

namespace TelemetryRelay

open Wire

namespace Scripted

inductive SendOutcome where
  | ok
  | gate
  | fail (e : LinkError)
  deriving DecidableEq, Repr

end Scripted

open Scripted in
structure Scripted where
  sends : List SendOutcome
  receives : List (Except LinkError Frame)
  canRecover : Bool
  attempts : Nat := 0
  permits : Nat := 0
  /-- Sends held at the gate. -/
  held : List CallId := []
  /-- Frames sent and not yet looked at. -/
  sent : List Frame := []
  closed : Bool := false

namespace Scripted

variable (s : Scripted)

/-- Begins a send: what the script has for it, which is success when it is used up. -/
def attempt : SendOutcome × Scripted :=
  ((s.sends.head?.getD .ok), { s with attempts := s.attempts + 1, sends := s.sends.tail })

def record (f : Frame) : Scripted := { s with sent := s.sent ++ [f] }

def hold (id : CallId) : Scripted := { s with held := s.held ++ [id] }

def mayPass (id : CallId) : Bool := (s.held.take s.permits).contains id

def pass (id : CallId) : Scripted :=
  { s with held := s.held.erase id, permits := s.permits - 1 }

end Scripted

end TelemetryRelay
