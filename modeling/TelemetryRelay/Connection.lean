import TelemetryRelay.Wire.Fault

/-!
# Connections

A stream connection as its remote end plays it: the bytes it has sent, how many
it is willing to take, and whether it closed or failed.
-/

namespace TelemetryRelay

open Wire

structure Connection where
  /-- Bytes from the remote end that nobody has read yet. -/
  inbound : Bytes := []
  /-- Bytes written to the remote end that it has not looked at yet. -/
  outbound : Bytes := []
  remoteClosed : Bool := false
  readFault : Option IoError := none
  writeFault : Option IoError := none
  /-- How many bytes the remote end still takes; without limit if absent. -/
  credit : Option Nat := none
  /-- The local end was shut down or dropped. -/
  localClosed : Bool := false
  deriving DecidableEq, Repr

namespace Connection

/-- What a read or a write comes to: something, or waiting. -/
inductive Answer (α : Type) where
  | ready (value : α)
  | fault (error : IoError)
  | ended
  | wait

/-- As much as one read takes at most. -/
def readSize : Nat := 8192

def read (c : Connection) : Answer Bytes × Connection :=
  if c.inbound ≠ [] then
    (.ready (c.inbound.take readSize), { c with inbound := c.inbound.drop readSize })
  else match c.readFault with
    | some e => (.fault e, c)
    | none => if c.remoteClosed then (.ended, c) else (.wait, c)

def remoteGone : IoError := ⟨.other, "remote closed"⟩

/-- Writes as much of `bytes` as the remote end takes. -/
def write (c : Connection) (bytes : Bytes) : Answer Nat × Connection :=
  match c.writeFault with
  | some e => (.fault e, c)
  | none =>
    if c.remoteClosed then (.fault remoteGone, c)
    else
      let count := min bytes.length (c.credit.getD bytes.length)
      if count = 0 then (.wait, c)
      else (.ready count, { c with outbound := c.outbound ++ bytes.take count,
                                   credit := c.credit.map (· - count) })

end Connection

end TelemetryRelay
