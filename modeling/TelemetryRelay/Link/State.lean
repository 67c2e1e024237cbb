import TelemetryRelay.Assoc
import TelemetryRelay.Link.Error
import TelemetryRelay.Text.Quoted
import TelemetryRelay.Wire.Reader

/-!
# Links

A link carries frames over one connection at a time.  When a send or a receive
fails and the link knows how to dial, it drops the connection, pauses, dials
again and repeats the call on the new connection, up to a budget per call.

This is the state of a link and of the calls on it.  What one step of a call
does to it is in `Link.Step`; the calls may take their steps in any order.
-/

namespace TelemetryRelay

open Wire

abbrev CallId := Nat

/-- The name of a connection. -/
abbrev ConnectionName := String

namespace Link

/-- What a call wants. -/
inductive Job where
  | send (bytes : Bytes)
  | receive
  deriving DecidableEq, Repr

inductive Outcome where
  | sent
  | received (f : Frame)
  | failed (e : LinkError)
  deriving DecidableEq, Repr

/-- How far a call has come on a connection. -/
inductive Work where
  | writing (rest : Bytes)
  | reading (progress : Progress)
  deriving DecidableEq, Repr

def Job.work : Job → Work
  | .send bytes => .writing bytes
  | .receive => .reading .start

/-- Where a call stands.  `seen` is the epoch at which it looked at the link last. -/
inductive Phase where
  /-- About to look which connection is installed. -/
  | ready
  /-- Has seen a connection and not yet asked for its reader or writer. -/
  | entering (generation seen : Nat)
  /-- In the line for the reader or writer, which its head holds. -/
  | working (generation seen : Nat) (work : Work)
  | failed (seen : Nat) (cause : FrameError)
  /-- In the line for the gate, or at its head and about to look at the epoch. -/
  | waiting (seen : Nat)
  /-- Holds the gate and sleeps before it dials. -/
  | pausing (due : Nat)
  | dialling
  | done (outcome : Outcome)
  deriving DecidableEq, Repr

structure Call where
  job : Job
  phase : Phase := .ready
  /-- Reconnects counted against the budget. -/
  attempts : Nat := 0
  /-- The failure of the latest reconnect, for when there is no connection. -/
  carried : Option FrameError := none
  deriving DecidableEq, Repr

/-- One connection as the link uses it.  The lines for reader and writer are
served in order of arrival. -/
structure Lane where
  connection : ConnectionName
  abandoned : Bool := false
  readers : List CallId := []
  writers : List CallId := []
  /-- Bytes taken from the connection and not yet read as frames. -/
  unread : Bytes := []
  deriving DecidableEq, Repr

end Link

open Link in
structure Link where
  canDial : Bool
  pause : Nat
  budget : Nat
  /-- The generation of the installed connection. -/
  slot : Option Nat
  /-- All connections so far, by generation. -/
  lanes : Assoc Nat Lane
  /-- Finished reconnects. -/
  epoch : Nat := 0
  /-- Connections so far. -/
  generation : Nat := 1
  /-- The line for the gate; its head is the one call that may reconnect. -/
  gate : List CallId := []
  /-- The failure of the latest reconnect, unless it succeeded. -/
  lastFailure : Option IoError := none
  closed : Bool := false
  calls : Assoc CallId Call := .empty

namespace Link

/-- A link over an established connection. -/
def start (connection : ConnectionName) (canDial : Bool) (pause budget : Nat) : Link :=
  { canDial, pause, budget, slot := some 1, lanes := Assoc.empty.set 1 { connection } }

def isConnected (l : Link) : Bool := l.slot.isSome

/-- The installed connection. -/
def connection? (l : Link) : Option ConnectionName :=
  (l.slot.bind l.lanes.get?).map (·.connection)

def describe (l : Link) (target : Option String) : String :=
  let target := match target with
    | none => "None"
    | some name => "Some(" ++ Text.quoted name ++ ")"
  s!"Transport \x7b target: {target}, generation: {l.generation}, " ++
    s!"connected: {l.isConnected}, closed: {l.closed}, .. \x7d"

end Link

end TelemetryRelay
