import TelemetryRelay.Wire.Fault

/-!
# Where links lead and how they fail

A link runs over a stream connection to an endpoint.  A `LinkError` is what a
send or a receive comes back with when it does not succeed.
-/

namespace TelemetryRelay

open Wire

inductive ConnectionKind where
  | stream
  | datagram
  deriving DecidableEq, Repr

def ConnectionKind.name : ConnectionKind → String
  | .stream => "stream"
  | .datagram => "datagram"

inductive Endpoint where
  | tcp (host : String) (port : UInt16)
  | unix (path : String)
  deriving DecidableEq, Repr

def Endpoint.render : Endpoint → String
  | .tcp host port => s!"tcp://{host}:{port.toNat}"
  | .unix path => s!"unix://{path}"

inductive LinkError where
  | unsupportedKind (kind : ConnectionKind)
  | noConnection
  | connect (target : String) (cause : IoError)
  | broken (cause : FrameError)
  | exhausted (attempts : Nat) (cause : FrameError)
  | closed
  deriving DecidableEq, Repr

def LinkError.message : LinkError → String
  | .unsupportedKind kind =>
      s!"only stream connections are supported, configured kind is '{kind.name}'"
  | .noConnection => "no connection supplied or configured"
  | .connect target cause => s!"failed to connect to {target}: {cause.message}"
  | .broken cause => s!"link failure: {cause.message}"
  | .exhausted attempts cause =>
      s!"exceeded the maximum number of allowed reconnects ({attempts}), cause was: {cause.message}"
  | .closed => "transport terminated"

end TelemetryRelay
