import TelemetryRelay.Link.Step
import TelemetryRelay.Node.Network

/-!
# How frames are carried

The actions that send and receive frames and that terminate transports.  Each is
given one step at a time; there is none while it has to wait.
-/

namespace TelemetryRelay

open Wire

namespace Link

def isAbandoned (l : Link) (generation : Nat) : Bool :=
  (l.lanes.get? generation).any (·.abandoned)

end Link

namespace Node

variable (n : Node)

/-! ## Calls on links -/

/-- What the connection says to the holder of its reader. -/
def readEvent (name : ConnectionName) (id : CallId) : Option (Link.Event × Node) :=
  let (answer, c) := (n.connection name).read
  match answer with
  | .ready bytes => some (.filled id bytes, n.setConnection name c)
  | .fault e => some (.broke id e, n)
  | .ended => some (.ended id, n)
  | .wait => none

/-- What the connection says to the holder of its writer. -/
def writeEvent (name : ConnectionName) (id : CallId) (rest : Bytes) : Option (Link.Event × Node) :=
  let (answer, c) := (n.connection name).write rest
  match answer with
  | .ready count => some (.wrote id count, n.setConnection name c)
  | .fault e => some (.broke id e, n)
  | .ended | .wait => none

/-- The next event of a call that is on a connection. -/
def workEvent (l : Link) (id : CallId) (generation : Nat) (work : Link.Work) :
    Option (Link.Event × Node) := do
  let lane ← l.lanes.get? generation
  if lane.abandoned then some (.lose id, n)
  else if (lane.line work).head? ≠ some id then none
  else match work with
    | .writing [] => some (.flushed id, n)
    | .writing rest => n.writeEvent lane.connection id rest
    | .reading _ =>
      if lane.unread ≠ [] then some (.parse id, n) else n.readEvent lane.connection id

/-- The next event of a call and what it does around the link.  A closed link
goes before all else. -/
def callEvent (l : Link) (dialer : Option Dialer) (id : CallId) :
    Option (Link.Event × Option Dialer × Node) := do
  let c ← l.calls.get? id
  match c.phase with
  | .done _ => some (.collect id, dialer, n)
  | phase =>
    if l.closed then some (.cancel id, dialer, n)
    else match phase with
      | .ready => some (.look id, dialer, n)
      | .entering g _ =>
        some (if l.isAbandoned g then .lose id else .ask id, dialer, n)
      | .working g _ work => (n.workEvent l id g work).map fun (e, n) => (e, dialer, n)
      | .failed .. => some (.judge id, dialer, n)
      | .waiting _ =>
        if l.gate.head? = some id then some (.enter id n.now, dialer, n) else none
      | .pausing due =>
        if due ≤ n.now + n.shortfall l.pause then
          some (.dial id (n.now + n.shortfall l.pause), dialer.map n.beginDial, n)
        else none
      | .dialling =>
        (dialer.bind n.endDial).map fun (result, dialer, n) =>
          (.dialled id result, some dialer, n)
      | .done _ => none

/-- A link takes an event; the connection it lets go of is dropped. -/
def setLink (t : TransportId) (before after : Link) (dialer : Option Dialer) : Node :=
  let n := n.setCarrier t (.link after dialer)
  match before.connection?, after.connection? with
  | some name, none => n.dropConnection name
  | _, _ => n

def replyOf (c : Link.Call) : Reply :=
  match c.phase, c.job with
  | .done .sent, _ => .sent (.ok ())
  | .done (.received f), _ => .received (.ok f)
  | .done (.failed e), .send _ => .sent (.error e)
  | .done (.failed e), .receive => .received (.error e)
  | _, _ => .done

/-- One step of a call. -/
def stepCall (id : TaskId) (t : TransportId) : Option (Node × Transition) := do
  let tr ← n.transports.get? t
  match tr.carrier with
  | .link l dialer =>
    let c ← l.calls.get? id
    let (event, dialer, n) ← n.callEvent l dialer id
    let after ← l.step event
    let n := n.setLink t l after dialer
    match event with
    | .collect _ => some (n, .reply (replyOf c))
    | _ => some (n, .go (.onLink t))
  | _ => none

/-- Comes to a link with a job. -/
def startCall (id : TaskId) (t : TransportId) (l : Link) (dialer : Option Dialer) (job : Link.Job) :
    Option (Node × Transition) := do
  let after ← l.step (.call id job)
  some (n.setCarrier t (.link after dialer), .go (.onLink t))

/-! ## Datagrams -/

/-- Sends a frame to whom it goes; only a client learns that it could not be sent. -/
def sendDatagrams (t : TransportId) (d : DatagramLink) (f : Frame) : Reply × Node :=
  if d.closed then (.sent (.error .closed), n)
  else
    let (targets, d) := d.targets n.now
    let n := n.setCarrier t (.datagram d)
    let reached := targets.filter n.reaches
    let failed := targets.length ≠ reached.length
    let n := reached.foldl (fun n peer => n.deposit ⟨d.address, f.encode⟩ peer) n
    match d.mode with
    | .client _ => (.sent (if failed then .error (.broken (.io unreachable)) else .ok ()), n)
    | .server _ => (.sent (.ok ()), n)

def fetchDatagram (t : TransportId) (d : DatagramLink) : Option (Node × Transition) :=
  if d.closed then some (n, .reply (.received (.error .closed)))
  else if d.inbox = [] then none
  else
    let (result, d) := d.receive n.now
    let n := n.setCarrier t (.datagram d)
    match result with
    | some r => some (n, .reply (.received r))
    | none => some (n, .go (.fetch t))

/-! ## Sending, receiving, terminating -/

/-- Sends on what is underneath the outbox. -/
def transmit (id : TaskId) (t : TransportId) (f : Frame) : Option (Node × Transition) := do
  let tr ← n.transports.get? t
  match tr.carrier with
  | .link l dialer => n.startCall id t l dialer (.send f.encode)
  | .datagram d =>
    let (reply, n) := n.sendDatagrams t d f
    some (n, .reply reply)
  | .scripted s =>
    let (outcome, s) := s.attempt
    match outcome with
    | .ok => some (n.setCarrier t (.scripted (s.record f)), .reply (.sent (.ok ())))
    | .gate => some (n.setCarrier t (.scripted (s.hold id)), .go (.held t f))
    | .fail e => some (n.setCarrier t (.scripted s), .reply (.sent (.error e)))

def passGate (id : TaskId) (t : TransportId) (f : Frame) : Option (Node × Transition) := do
  let tr ← n.transports.get? t
  match tr.carrier with
  | .scripted s =>
    if s.mayPass id then
      some (n.setCarrier t (.scripted ((s.pass id).record f)), .reply (.sent (.ok ())))
    else none
  | _ => none

def send (id : TaskId) (t : TransportId) (f : Frame) : Option (Node × Transition) := do
  let tr ← n.transports.get? t
  match tr.outbox with
  | none => some (n, .go (.transmit t f))
  | some o =>
    if o.closed then some (n, .reply (.sent (.error .closed)))
    else (o.step (.offer id f)).map fun o => (n.setOutbox t o, .go (.offered t))

/-- Waits for a place in the outbox; a closed outbox goes before a free place. -/
def queueUp (id : TaskId) (t : TransportId) : Option (Node × Transition) := do
  let o ← (← n.transports.get? t).outbox
  match o.step (.refuse id) with
  | some o => some (n.setOutbox t o, .reply (.sent (.error .closed)))
  | none =>
    (o.step (.accept id)).map fun o => (n.setOutbox t o, .reply (.sent (.ok ())))

def receive (t : TransportId) : Option (Node × Transition) := do
  let tr ← n.transports.get? t
  if tr.outbox.any (·.closed) then some (n, .reply (.received (.error .closed)))
  else some (n, .go (.fetch t))

/-- Receives from what is underneath the outbox. -/
def fetch (id : TaskId) (t : TransportId) : Option (Node × Transition) := do
  let tr ← n.transports.get? t
  match tr.carrier with
  | .link l dialer => n.startCall id t l dialer .receive
  | .datagram d => n.fetchDatagram t d
  | .scripted s =>
    match s.receives with
    | [] => none
    | r :: rest =>
      some (n.setCarrier t (.scripted { s with receives := rest }), .reply (.received r))

def terminate (t : TransportId) : Option (Node × Transition) := do
  let tr ← n.transports.get? t
  match tr.outbox with
  | none => some (n, .go (.hangUp t))
  | some o =>
    match o.step .close with
    | none => some (n, .reply .done)
    | some o => some (n.setOutbox t o, .call (.hangUp t) (.next (.join t)))

/-- Ends what is underneath the outbox. -/
def hangUp (t : TransportId) : Option (Node × Transition) := do
  let tr ← n.transports.get? t
  match tr.carrier with
  | .scripted s => some (n.setCarrier t (.scripted { s with closed := true }), .reply .done)
  | .datagram d => some (n.setCarrier t (.datagram d.terminate), .reply .done)
  | .link l dialer =>
    match l.step .close with
    | none => some (n, .reply .done)
    | some l => some (n.setCarrier t (.link l dialer), .go (.detach t))

def detach (t : TransportId) : Option (Node × Transition) := do
  let tr ← n.transports.get? t
  match tr.carrier with
  | .link l dialer =>
    let after ← l.step .detach
    some (n.setLink t l after dialer, .reply .done)
  | _ => some (n, .reply .done)

/-- Waits until the sender of the outbox has stopped. -/
def join (t : TransportId) : Option (Node × Transition) := do
  let tr ← n.transports.get? t
  if tr.outbox.all (·.sender = .stopped) then some (n, .reply .done) else none

/-! ## The senders of outboxes -/

def drain (t : TransportId) : Option (Node × Transition) := do
  let o ← (← n.transports.get? t).outbox
  match o.sender with
  | .stopped => some (n, .reply .done)
  | .sending f => some (n, .call (.transmit t f) (.drained t))
  | .idle => (o.step .take).map fun o => (n.setOutbox t o, .go (.drain t))
  | .pausing .. =>
    (o.step (.retry (n.now + n.shortfall o.retryPause))).map fun o =>
      (n.setOutbox t o, .go (.drain t))

/-- What became of the frame that the sender had. -/
def drained (t : TransportId) (result : Except LinkError Unit) : Node :=
  match n.transports.get? t with
  | some tr =>
    match tr.outbox.bind (·.step (.sent (.ofResult tr.canRecover result) n.now)) with
    | some o => n.setOutbox t o
    | none => n
  | none => n

/-- A sender that sees its outbox closed gives up whatever it is doing. -/
def haltSender (id : TaskId) (t : TransportId) : Option Node := do
  let tr ← n.transports.get? t
  let o ← (← tr.outbox).step .halt
  let carrier := match tr.carrier with
    | .link l dialer => .link ((l.step (.drop id)).getD l) dialer
    | .scripted s => .scripted { s with held := s.held.erase id }
    | carrier => carrier
  some ((n.setCarrier t carrier).setOutbox t o)

end Node

end TelemetryRelay
