import TelemetryRelay.Link.State

/-!
# The steps of a link

`step` says what one event does to a link, and `none` that it cannot happen.
Events are the single steps of calls, what their connections answer, and the two
steps of a termination.  Every order of events is a run, so a statement about
all runs is one about all interleavings.

A call that goes on after a wait looks first whether its connection was abandoned
or the link was closed.  Only the end of a dial may still meet a link that was
closed just now.
-/

namespace TelemetryRelay.Link

open Wire

inductive Event where
  /-- A call comes in. -/
  | call (id : CallId) (job : Job)
  /-- A call notices that the link is closed. -/
  | cancel (id : CallId)
  /-- A call looks which connection is installed. -/
  | look (id : CallId)
  /-- A call asks for the reader or writer of the connection it has seen. -/
  | ask (id : CallId)
  /-- A call notices that its connection was abandoned. -/
  | lose (id : CallId)
  /-- The connection took some bytes. -/
  | wrote (id : CallId) (count : Nat)
  /-- All bytes are out. -/
  | flushed (id : CallId)
  /-- The connection gave some bytes. -/
  | filled (id : CallId) (bytes : Bytes)
  /-- Bytes that were given are read. -/
  | parse (id : CallId)
  /-- The connection is at its end. -/
  | ended (id : CallId)
  /-- The connection failed. -/
  | broke (id : CallId) (error : IoError)
  /-- A failed call decides whether to reconnect. -/
  | judge (id : CallId)
  /-- The holder of the gate compares the epochs. -/
  | enter (id : CallId) (now : Nat)
  | dial (id : CallId) (now : Nat)
  | dialled (id : CallId) (result : Except IoError ConnectionName)
  /-- The caller takes the outcome. -/
  | collect (id : CallId)
  /-- The caller gives the call up. -/
  | drop (id : CallId)
  /-- The first step of a termination. -/
  | close
  /-- The second step of a termination. -/
  | detach

def neverConnected : IoError := ⟨.notConnected, "no connection established"⟩

def replaced : IoError := ⟨.aborted, "connection was replaced"⟩

def terminatedMeanwhile : IoError := ⟨.notConnected, "transport terminated during reconnect"⟩

variable (l : Link)

def setCall (id : CallId) (c : Call) : Link := { l with calls := l.calls.set id c }

def onLane (generation : Nat) (f : Lane → Lane) : Link :=
  { l with lanes := l.lanes.modify generation f }

def Lane.leave (lane : Lane) (id : CallId) : Lane :=
  { lane with readers := lane.readers.erase id, writers := lane.writers.erase id }

/-- Takes a call out of every line. -/
def leave (id : CallId) : Link :=
  { l with gate := l.gate.erase id, lanes := l.lanes.map fun lane => lane.leave id }

def finish (id : CallId) (c : Call) (outcome : Outcome) : Link :=
  (l.leave id).setCall id { c with phase := .done outcome }

/-- The call fails on its connection and lets go of it. -/
def fail (id : CallId) (c : Call) (seen : Nat) (cause : FrameError) : Link :=
  (l.leave id).setCall id { c with phase := .failed seen cause }

/-- Drops the installed connection; calls still on it will notice. -/
def abandon : Link :=
  match l.slot with
  | none => l
  | some g => { l.onLane g fun lane => { lane with abandoned := true } with slot := none }

/-- The line that a call of this kind stands in. -/
def Lane.line (lane : Lane) : Work → List CallId
  | .writing _ => lane.writers
  | .reading _ => lane.readers

def Lane.join (lane : Lane) (id : CallId) : Work → Lane
  | .writing _ => { lane with writers := lane.writers ++ [id] }
  | .reading _ => { lane with readers := lane.readers ++ [id] }

/-- A reconnect is over: the next call gets the gate. -/
def endReconnect (id : CallId) (c : Call) (failure : Option FrameError) : Link :=
  { l with epoch := l.epoch + 1, gate := l.gate.erase id }.setCall id
    { c with phase := .ready, carried := failure.or c.carried }

/-- The connection of a call that holds its reader or writer and may go on there. -/
def holding? (id : CallId) : Option (Call × Nat × Nat × Work × Lane) := do
  let c ← l.calls.get? id
  match c.phase with
  | .working generation seen work =>
    let lane ← l.lanes.get? generation
    if (lane.line work).head? = some id ∧ lane.abandoned = false then
      some (c, generation, seen, work, lane)
    else none
  | _ => none

def onLook (id : CallId) (c : Call) : Link :=
  if l.closed then l.finish id c (.failed .closed)
  else match l.slot with
    | some g => l.setCall id { c with phase := .entering g l.epoch }
    | none =>
      let cause := c.carried.getD (.io neverConnected)
      l.setCall id { c with phase := .failed l.epoch cause, carried := none }

def onJudge (id : CallId) (c : Call) (seen : Nat) (cause : FrameError) : Link :=
  if l.closed then l.finish id c (.failed .closed)
  else if !l.canDial then l.finish id c (.failed (.broken cause))
  else if l.budget ≤ c.attempts then l.finish id c (.failed (.exhausted c.attempts cause))
  else
    { l with gate := l.gate ++ [id] }.setCall id
      { c with phase := .waiting seen, attempts := c.attempts + 1 }

/-- A call that comes to the gate with an old epoch shares the outcome of the
latest reconnect; any other drops the connection and starts one. -/
def onEnter (id : CallId) (c : Call) (seen now : Nat) : Link :=
  if l.epoch ≠ seen then
    { l with gate := l.gate.erase id }.setCall id
      { c with phase := .ready, carried := (l.lastFailure.map FrameError.io).or c.carried }
  else l.abandon.setCall id { c with phase := .pausing (now + l.pause) }

def onDialled (id : CallId) (c : Call) : Except IoError ConnectionName → Link
  | .error e => { l with lastFailure := some e }.endReconnect id c (some (.io e))
  | .ok connection =>
    if l.closed then l.endReconnect id c (some (.io terminatedMeanwhile))
    else
      let g := l.generation + 1
      { l with generation := g, slot := some g, lanes := l.lanes.set g { connection },
               lastFailure := none }.endReconnect id c none

/-- Runs a reader over the bytes its connection gave. -/
def onParse (id : CallId) (c : Call) (g seen : Nat) (progress : Progress) (unread : Bytes) : Link :=
  let left (rest : Bytes) := l.onLane g fun lane => { lane with unread := rest }
  match progress.feed unread with
  | .hungry next => (left []).setCall id { c with phase := .working g seen (.reading next) }
  | .finished (.ok f) rest => (left rest).finish id c (.received f)
  | .finished (.error e) rest => (left rest).fail id c seen e

def step : Event → Option Link
  | .call id job =>
    match l.calls.get? id with
    | some _ => none
    | none => some (l.setCall id { job })
  | .cancel id => do
    let c ← l.calls.get? id
    match c.phase with
    | .done _ => none
    | _ => if l.closed then some (l.finish id c (.failed .closed)) else none
  | .look id => do
    let c ← l.calls.get? id
    match c.phase with
    | .ready => some (l.onLook id c)
    | _ => none
  | .ask id => do
    let c ← l.calls.get? id
    match c.phase with
    | .entering g seen =>
      let lane ← l.lanes.get? g
      let work := c.job.work
      if lane.abandoned then none
      else
        some ((l.onLane g fun lane => lane.join id work).setCall id
          { c with phase := .working g seen work })
    | _ => none
  | .lose id => do
    let c ← l.calls.get? id
    match c.phase with
    | .entering g seen | .working g seen _ =>
      let lane ← l.lanes.get? g
      if lane.abandoned then some (l.fail id c seen (.io replaced)) else none
    | _ => none
  | .wrote id count => do
    match ← l.holding? id with
    | (c, g, seen, .writing rest, _) =>
      if 0 < count ∧ count ≤ rest.length then
        some (l.setCall id { c with phase := .working g seen (.writing (rest.drop count)) })
      else none
    | _ => none
  | .flushed id => do
    match ← l.holding? id with
    | (c, _, _, .writing [], _) => some (l.finish id c .sent)
    | _ => none
  | .filled id bytes => do
    match ← l.holding? id with
    | (_, g, _, .reading _, lane) =>
      if lane.unread = [] ∧ bytes ≠ [] then
        some (l.onLane g fun lane => { lane with unread := bytes })
      else none
    | _ => none
  | .parse id => do
    match ← l.holding? id with
    | (c, g, seen, .reading progress, lane) =>
      if lane.unread = [] then none else some (l.onParse id c g seen progress lane.unread)
    | _ => none
  | .ended id => do
    match ← l.holding? id with
    | (c, _, seen, .reading progress, lane) =>
      if lane.unread = [] then some (l.fail id c seen progress.cutOff) else none
    | _ => none
  | .broke id error => do
    match ← l.holding? id with
    | (c, _, seen, .reading _, lane) =>
      if lane.unread = [] then some (l.fail id c seen (.io error)) else none
    | (c, _, seen, .writing _, _) => some (l.fail id c seen (.io error))
  | .judge id => do
    let c ← l.calls.get? id
    match c.phase with
    | .failed seen cause => some (l.onJudge id c seen cause)
    | _ => none
  | .enter id now => do
    let c ← l.calls.get? id
    match c.phase with
    | .waiting seen =>
      if l.gate.head? = some id ∧ l.closed = false then some (l.onEnter id c seen now) else none
    | _ => none
  | .dial id now => do
    let c ← l.calls.get? id
    match c.phase with
    | .pausing due =>
      if due ≤ now ∧ l.closed = false then some (l.setCall id { c with phase := .dialling })
      else none
    | _ => none
  | .dialled id result => do
    let c ← l.calls.get? id
    match c.phase with
    | .dialling => some (l.onDialled id c result)
    | _ => none
  | .collect id => do
    let c ← l.calls.get? id
    match c.phase with
    | .done _ => some { l with calls := l.calls.erase id }
    | _ => none
  | .drop id => do
    let _ ← l.calls.get? id
    some { l.leave id with calls := l.calls.erase id }
  | .close => if l.closed then none else some { l with closed := true }
  | .detach => if l.closed then some l.abandon else none

/-- All events of a run, one after the other. -/
def run : Link → List Event → Option Link
  | l, [] => some l
  | l, e :: es => (l.step e).bind fun next => run next es

end TelemetryRelay.Link
