import TelemetryRelay.Node.State

/-!
# Messages on a node

Publishing to the bus, what its listeners do, and the bridges that carry
messages to the links and back.
-/

namespace TelemetryRelay

open Wire

namespace Node

variable (n : Node)

/-! ## The bus -/

def publish (sender : Option ListenerId) (message : Option Message) : Transition :=
  match Delivery.start n.bus sender message with
  | .error e => .reply (.published (.error e))
  | .ok d => .go (.deliver d)

/-- Hands the message to the next recipient. -/
def deliver (d : Delivery Listener) : Transition :=
  match d.remaining with
  | [] => .reply (.published (.ok d.delivered))
  | s :: rest => .call (.hand s.listener d.message) (.handed { d with remaining := rest })

/-- A listener is called. -/
def hand (message : Message) : Listener → Node × Transition
  | .logger => (n, .reply (.taken true))
  | .bridge b => (n, .call (.post b message) .forwarded)
  | .actor name =>
    match n.actors.get? name with
    | none => (n, .reply (.taken false))
    | some actor =>
      let actor := { actor with calls := actor.calls + 1 }
      let n := { n with actors := n.actors.set name actor }
      (n.record (.received name message), .go (.behave name (actor.behave actor.calls message)))

def listenerId? (name : String) : Option ListenerId := (n.actors.get? name).map (·.id)

/-- Subscribes an actor; one that does not exist has nothing to subscribe. -/
def subscribe (name : String) (type : Family) : Node :=
  match n.listenerId? name with
  | some id => n.setBus (n.bus.subscribe id (.actor name) type)
  | none => n

def unsubscribe (name : String) : Node :=
  match n.listenerId? name with
  | some id => n.setBus (n.bus.unsubscribe id)
  | none => n

def isSubscribed (name : String) : Bool := (n.listenerId? name).any n.bus.isSubscribed

def behave (name : String) : Behaviour → Node × Transition
  | .finish taken => (n, .reply (.taken taken))
  | .subscribe who type next => (n.subscribe who type, .go (.behave name next))
  | .unsubscribe who next => (n.unsubscribe who, .go (.behave name (next (n.isSubscribed who))))
  | .publish sender message next =>
    (n, .call (.publish (sender.bind n.listenerId?) message) (.published name next))

/-! ## Bridges -/

/-- Sends a message; nothing goes out if it has no frame. -/
def post (b : BridgeId) (message : Message) : Option Transition := do
  let bridge ← n.bridges.get? b
  match bridge.table.frameOf message with
  | .error e => some (.reply (.posted (.error e)))
  | .ok f => some (.call (.send bridge.transport f) .posted)

def listen (b : BridgeId) : Option Transition := do
  let bridge ← n.bridges.get? b
  if bridge.running then some (.call (.receive bridge.transport) (.heard b))
  else some (.go (.leave b))

/-- What a bridge does with what it received. -/
def heard (b : BridgeId) (result : Except LinkError Frame) : Transition :=
  match n.bridges.get? b with
  | none => .go (.leave b)
  | some bridge =>
    match result with
    | .ok f =>
      match bridge.table.messageOf? f with
      | some message => .call (.publish (some bridge.id) (some message)) (.next (.listen b))
      | none => .go (.listen b)
    | .error .closed => .go (.leave b)
    | .error _ =>
      if (n.transports.get? bridge.transport).any fun t => t.canRecover && !t.isTerminated then
        .go (.rest b)
      else .go (.leave b)

def stopBridge (b : BridgeId) : Option (Node × Transition) := do
  let bridge ← n.bridges.get? b
  some (n.silence b, .go (.terminate bridge.transport))

end Node

end TelemetryRelay
