import TelemetryRelay.Node.Carriage
import TelemetryRelay.Node.Exchange
import TelemetryRelay.Node.Reception

/-!
# The steps of a node

`step` lets one task take one step, if it can.
-/

namespace TelemetryRelay

namespace Node

variable (n : Node)

/-- One step of an action; there is none while it has to wait. -/
def act (id : TaskId) : Action → Option (Node × Transition)
  | .send t f => n.send id t f
  | .offered t => n.queueUp id t
  | .transmit t f => n.transmit id t f
  | .held t f => n.passGate id t f
  | .receive t => n.receive t
  | .fetch t => n.fetch id t
  | .onLink t => n.stepCall id t
  | .terminate t => n.terminate t
  | .hangUp t => n.hangUp t
  | .detach t => n.detach t
  | .join t => n.join t
  | .drain t => n.drain t
  | .publish sender message => some (n, n.publish sender message)
  | .deliver d => some (n, deliver d)
  | .hand listener message => some (n.hand message listener)
  | .behave name behaviour => some (n.behave name behaviour)
  | .post b message => (n.post b message).map fun next => (n, next)
  | .listen b => (n.listen b).map fun next => (n, next)
  | .rest b => some (n, .go (.listen b))
  | .leave b => some (n.silence b, .reply .left)
  | .stop b => n.stopBridge b
  | .await task => if (n.tasks.get? task).isNone then some (n, .reply .done) else none
  | .accept a => n.accept a
  | .forget a b => some (n.forgetPeer a b, .reply .done)
  | .close a => n.closeAcceptor a
  | .dismiss a => n.dismiss a
  | .clear a => some (n.clearPeers a, .reply .done)
  | .unbind s => some ({ n with bound := n.bound.erase s }, .reply .done)
  | .all [] => some (n, .reply .done)
  | .all (a :: rest) => some (n, .call a (.next (.all rest)))

/-- Goes on after a reply. -/
def resume : Then → Reply → Node × Transition
  | .next a, _ => (n, .go a)
  | .drained t, .sent result => (n.drained t result, .go (.drain t))
  | .handed d, .taken ok => (n, .go (.deliver (d.record ok)))
  | .published name next, .published result =>
    (n.record (.published name result), .go (.behave name (next result)))
  | .forwarded, .posted _ => (n, .reply (.taken true))
  | .posted, .sent result => (n, .reply (.posted (result.mapError .link)))
  | .heard b, .received result => (n, n.heard b result)
  | _, reply => (n, .reply reply)

def endTask (id : TaskId) : Node := { n with tasks := n.tasks.erase id }

/-- A task has ended; its reply is reported if it has a label. -/
def finish (id : TaskId) (label : Option String) (reply : Reply) : Node :=
  match label with
  | some label => { n.endTask id with reports := n.reports ++ [(label, reply)] }
  | none => n.endTask id

def setTask (id : TaskId) (task : Task) : Node := { n with tasks := n.tasks.set id task }

/-- One step of a task. -/
def step (id : TaskId) : Option Node := do
  let task ← n.tasks.get? id
  match task.outbox.bind (n.haltSender id) with
  | some n => some (n.endTask id)
  | none =>
    match task.activity, task.pending with
    | .acting a, _ => (n.act id a).map fun (n, next) => n.setTask id (task.advance next)
    | .replying reply, [] => some (n.finish id task.label reply)
    | .replying reply, k :: pending =>
      let (n, next) := n.resume k reply
      some (n.setTask id ({ task with pending }.advance next))

end Node

end TelemetryRelay
