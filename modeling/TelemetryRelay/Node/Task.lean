import TelemetryRelay.Bridge
import TelemetryRelay.Link.State
import TelemetryRelay.Settings.Basic

/-!
# Tasks

Everything that may have to wait is a task.  A task is at one action at a time
and remembers in `pending` what the actions before it are waiting for, innermost
first.  An action ends with a reply, which the innermost of these takes up.

What an action does to the node around it is in `Node.Step`.
-/

namespace TelemetryRelay

open Wire

abbrev TaskId := CallId

abbrev AcceptorId := Nat

/-- Who subscribes to the bus of a node. -/
inductive Listener where
  | actor (name : String)
  | bridge (id : BridgeId)
  | logger
  deriving DecidableEq, Repr

/-- What an actor does with a message, one thing after the other. -/
inductive Behaviour where
  /-- Nothing more; whether the message counts as taken. -/
  | finish (taken : Bool)
  | subscribe (who : String) (type : Family) (next : Behaviour)
  /-- Goes on knowing whether that actor was subscribed. -/
  | unsubscribe (who : String) (next : Bool → Behaviour)
  | publish (sender : Option String) (message : Option Message)
      (next : Except BusError Nat → Behaviour)

inductive Reply where
  | done
  | sent (result : Except LinkError Unit)
  | received (result : Except LinkError Frame)
  | posted (result : Except BridgeError Unit)
  | published (result : Except BusError Nat)
  /-- Whether a listener took its message. -/
  | taken (ok : Bool)
  /-- The loop of a bridge is over. -/
  | left

inductive Action where
  /-- Sends through a transport, by way of its outbox if it has one. -/
  | send (t : TransportId) (f : Frame)
  /-- Waits for a place in the outbox. -/
  | offered (t : TransportId)
  /-- Sends on what is underneath the outbox. -/
  | transmit (t : TransportId) (f : Frame)
  /-- Waits for a permit. -/
  | held (t : TransportId) (f : Frame)
  | receive (t : TransportId)
  /-- Receives from what is underneath the outbox. -/
  | fetch (t : TransportId)
  /-- Has a call on the link. -/
  | onLink (t : TransportId)
  | terminate (t : TransportId)
  /-- Ends what is underneath the outbox. -/
  | hangUp (t : TransportId)
  /-- Lets go of the connection of a closed link. -/
  | detach (t : TransportId)
  /-- Waits until the sender of the outbox has stopped. -/
  | join (t : TransportId)
  /-- Sends what is in the outbox, frame by frame. -/
  | drain (t : TransportId)
  | publish (sender : Option ListenerId) (message : Option Message)
  | deliver (d : Delivery Listener)
  /-- Gives a message to one listener. -/
  | hand (listener : Listener) (message : Message)
  | behave (name : String) (behaviour : Behaviour)
  /-- Sends a message through a bridge. -/
  | post (b : BridgeId) (message : Message)
  /-- Takes in frames as long as the bridge runs. -/
  | listen (b : BridgeId)
  /-- Lets the others go first. -/
  | rest (b : BridgeId)
  /-- Ends the loop of a bridge. -/
  | leave (b : BridgeId)
  /-- Stops a bridge and terminates its transport. -/
  | stop (b : BridgeId)
  /-- Waits until a task has ended. -/
  | await (task : TaskId)
  /-- Attaches peers as they come. -/
  | accept (a : AcceptorId)
  /-- Takes a peer whose bridge is gone off the list. -/
  | forget (a : AcceptorId) (b : BridgeId)
  | close (a : AcceptorId)
  /-- Stops the peers of a closed acceptor. -/
  | dismiss (a : AcceptorId)
  /-- Forgets all peers of an acceptor. -/
  | clear (a : AcceptorId)
  /-- Gives a socket up. -/
  | unbind (s : Socket)
  /-- One after the other. -/
  | all (actions : List Action)

/-- How a task goes on when the action it waits for has ended. -/
inductive Then where
  /-- Whatever the reply was. -/
  | next (a : Action)
  | drained (t : TransportId)
  | handed (d : Delivery Listener)
  | published (name : String) (next : Except BusError Nat → Behaviour)
  | forwarded
  | posted
  | heard (b : BridgeId)

inductive Activity where
  | acting (a : Action)
  | replying (r : Reply)

structure Task where
  activity : Activity
  pending : List Then := []
  /-- The outbox that the task sends for, and with which it ends. -/
  outbox : Option TransportId := none
  /-- Where the reply of the whole task is reported. -/
  label : Option String := none

/-- What one step of an action comes to. -/
inductive Transition where
  | go (a : Action)
  /-- Another action goes first. -/
  | call (a : Action) (k : Then)
  | reply (r : Reply)

def Task.advance (t : Task) : Transition → Task
  | .go a => { t with activity := .acting a }
  | .call a k => { t with activity := .acting a, pending := k :: t.pending }
  | .reply r => { t with activity := .replying r }

end TelemetryRelay
