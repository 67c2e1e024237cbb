import TelemetryRelay.Node.Run

/-!
# Listener services

What the services that wait for remote parties have in common: the sockets they
bind and the ways in which they refuse.
-/

namespace TelemetryRelay

open Wire

inductive ServiceError where
  | bind (address : String) (cause : IoError)
  | alreadyStarted
  | terminated
  deriving DecidableEq, Repr

def ServiceError.message : ServiceError → String
  | .bind address cause => s!"failed to bind {address}: {cause.message}"
  | .alreadyStarted => "service already started"
  | .terminated => "service terminated"

def addressInUse : IoError := ⟨.other, "Address already in use (os error 98)"⟩

namespace Node

variable (n : Node)

/-- Binds a socket; port 0 stands for any free one. -/
def bind (s : Socket) : Except ServiceError Node :=
  if s.port = 0 then .ok n
  else if n.bound.contains s then .error (.bind s.render addressInUse)
  else .ok { n with bound := s :: n.bound }

end Node

end TelemetryRelay
