import TelemetryRelay.Link.State

/-!
# Outboxes

An outbox takes frames into a bounded queue and sends them on one at a time.  A
frame that could not be sent stays with the sender and is tried again after a
pause, as long as what is underneath can recover; otherwise the sender stops,
and with it the outbox.

`step` says what one event does.  Producers whose frame does not fit stand in
line and are let in in order of arrival.
-/

namespace TelemetryRelay

open Wire

namespace Outbox

/-- What became of sending a frame. -/
inductive Sent where
  | ok
  | closed
  | failed (recoverable : Bool)
  deriving DecidableEq, Repr

def Sent.ofResult (canRecover : Bool) : Except LinkError Unit → Sent
  | .ok () => .ok
  | .error .closed => .closed
  | .error _ => .failed canRecover

inductive Sender where
  | idle
  | sending (f : Frame)
  /-- The frame is kept until it is tried again. -/
  | pausing (f : Frame) (due : Nat)
  | stopped
  deriving DecidableEq, Repr

end Outbox

open Outbox in
structure Outbox where
  capacity : Nat
  retryPause : Nat
  queue : List Frame := []
  /-- Producers and their frames, in order of arrival. -/
  line : List (CallId × Frame) := []
  sender : Sender := .idle
  closed : Bool := false
  deriving DecidableEq, Repr

namespace Outbox

/-- No outbox can be larger. -/
def maxCapacity : Nat := 2305843009213693951

/-- An outbox holds one frame at least. -/
def make (capacity retryPause : Nat) : Outbox := { capacity := max capacity 1, retryPause }

inductive Event where
  /-- A producer comes with a frame. -/
  | offer (id : CallId) (f : Frame)
  | accept (id : CallId)
  | refuse (id : CallId)
  /-- The sender takes the oldest frame. -/
  | take
  | sent (outcome : Sent) (now : Nat)
  | retry (now : Nat)
  /-- The sender notices that the outbox is closed. -/
  | halt
  | close

variable (o : Outbox)

/-- How many producers have been let in and not yet put down their frames. -/
def admitted : Nat := o.capacity - o.queue.length

def isAdmitted (id : CallId) : Bool := (o.line.take o.admitted).any (·.1 == id)

/-- Places in use, those of admitted producers among them. -/
def queued : Nat := o.queue.length + min o.admitted o.line.length

/-- A stopped sender leaves nothing behind. -/
def stop : Outbox := { o with sender := .stopped, queue := [] }

def leave (id : CallId) : Outbox := { o with line := o.line.filter (·.1 != id) }

def step : Event → Option Outbox
  | .offer id f =>
    if o.line.any (·.1 == id) then none else some { o with line := o.line ++ [(id, f)] }
  | .accept id =>
    match o.line.find? (·.1 == id) with
    | some (_, f) =>
      if o.isAdmitted id ∧ o.sender ≠ .stopped then
        some { o.leave id with queue := o.queue ++ [f] }
      else none
    | none => none
  | .refuse id =>
    if o.line.any (·.1 == id) ∧ (o.closed ∨ o.sender = .stopped) then some (o.leave id) else none
  | .take =>
    match o.sender, o.queue with
    | .idle, f :: rest => some { o with sender := .sending f, queue := rest }
    | _, _ => none
  | .sent outcome now =>
    match o.sender with
    | .sending f =>
      match outcome with
      | .ok => some { o with sender := .idle }
      | .closed => some o.stop
      | .failed true => some { o with sender := .pausing f (now + o.retryPause) }
      | .failed false => some o.stop
    | _ => none
  | .retry now =>
    match o.sender with
    | .pausing f due => if due ≤ now then some { o with sender := .sending f } else none
    | _ => none
  | .halt => if o.closed ∧ o.sender ≠ .stopped then some o.stop else none
  | .close => if o.closed then none else some { o with closed := true }

/-- All events of a run, one after the other. -/
def run : Outbox → List Event → Option Outbox
  | o, [] => some o
  | o, e :: es => (o.step e).bind fun next => run next es

end Outbox

end TelemetryRelay
