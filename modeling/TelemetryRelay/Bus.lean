import TelemetryRelay.Message.Family

/-!
# The message bus

Listeners subscribe to families and get every message whose type is a member.
A publish works on the recipients as they are when it begins and hands the
message to one after the other; what a recipient does in between, to the bus
too, changes nothing about who gets it.

The bus knows its listeners by their ids.  `α` is whatever stands for the
listener itself.
-/

namespace TelemetryRelay

structure ListenerId where
  number : Nat
  deriving DecidableEq, Repr, Inhabited

def ListenerId.render (id : ListenerId) : String := s!"listener-{id.number}"

inductive BusError where
  | nullMessage
  deriving DecidableEq, Repr

def BusError.message : BusError → String
  | .nullMessage => "refusing to send a null message"

/-- Why a listener did not take a message, with the text of what caused it. -/
structure ListenerError where
  message : String
  source : Option String := none
  deriving DecidableEq, Repr

structure Subscriber (α : Type) where
  id : ListenerId
  listener : α
  types : List Family

namespace Subscriber

variable {α : Type}

def holds (s : Subscriber α) (type : Family) : Bool := s.types.any (·.same type)

def accepts (s : Subscriber α) (type : Family) : Bool := s.types.any fun f => type.isA f

/-- A subscription to all messages takes the place of every narrower one. -/
def widen (s : Subscriber α) (type : Family) : Subscriber α :=
  if s.holds Family.anyMessage || s.holds type then s
  else if type.same Family.anyMessage then { s with types := [type] }
  else { s with types := s.types ++ [type] }

end Subscriber

structure Bus (α : Type) where
  subscribers : List (Subscriber α)

namespace Bus

variable {α : Type}

def empty : Bus α := ⟨[]⟩

def isSubscribed (b : Bus α) (id : ListenerId) : Bool := b.subscribers.any (·.id == id)

/-- The listener given first under an id stays the one that is called. -/
def subscribe (b : Bus α) (id : ListenerId) (listener : α) (type : Family) : Bus α :=
  if b.isSubscribed id then
    ⟨b.subscribers.map fun s => if s.id == id then s.widen type else s⟩
  else ⟨b.subscribers ++ [⟨id, listener, [type]⟩]⟩

def unsubscribe (b : Bus α) (id : ListenerId) : Bus α :=
  ⟨b.subscribers.filter (·.id != id)⟩

/-- Who gets a message of that type from that sender, in the order of their
first subscriptions. -/
def recipients (b : Bus α) (sender : Option ListenerId) (type : Family) : List (Subscriber α) :=
  b.subscribers.filter fun s => some s.id != sender && s.accepts type

def listenerCount (b : Bus α) : Nat := b.subscribers.length

def subscriptionCount (b : Bus α) : Nat :=
  b.subscribers.foldr (fun s n => s.types.length + n) 0

def describe (b : Bus α) : String :=
  s!"MessageBus \x7b listeners: {b.listenerCount}, subscriptions: {b.subscriptionCount} \x7d"

end Bus

/-- A publish under way: who still gets the message, and how many took it. -/
structure Delivery (α : Type) where
  message : Message
  remaining : List (Subscriber α)
  delivered : Nat

namespace Delivery

variable {α : Type}

def start (b : Bus α) (sender : Option ListenerId) :
    Option Message → Except BusError (Delivery α)
  | none => .error .nullMessage
  | some message => .ok ⟨message, b.recipients sender message.family, 0⟩

/-- Counts the outcome of one call. -/
def record (d : Delivery α) (taken : Bool) : Delivery α :=
  { d with delivered := d.delivered + if taken then 1 else 0 }

end Delivery

end TelemetryRelay
