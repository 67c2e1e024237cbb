import TelemetryRelay.Link.Error
import TelemetryRelay.Mapping

/-!
# Settings

What a relay is told before it starts: the link it dials, its buffers, the
mappings and the two listeners.
-/

namespace TelemetryRelay

structure LinkSettings where
  kind : ConnectionKind := .stream
  reconnectPause : Nat := 1000
  maximumReconnects : Nat := 100
  endpoint : Option Endpoint := none
  deriving DecidableEq, Repr

namespace LinkSettings

/-- A pause in whole milliseconds, as far as they fit into 64 bits. -/
def withPause (s : LinkSettings) (nanoseconds : Nat) : LinkSettings :=
  { s with reconnectPause := min (nanoseconds / 1000000) (UInt64.size - 1) }

/-- The endpoint to dial; only streams can be dialled. -/
def target (s : LinkSettings) : Except LinkError Endpoint :=
  match s.kind, s.endpoint with
  | .stream, some endpoint => .ok endpoint
  | .stream, none => .error .noConnection
  | kind, _ => .error (.unsupportedKind kind)

end LinkSettings

inductive Protocol where
  | tcp
  | udp
  deriving DecidableEq, Repr

/-- Where a listener waits; port 0 stands for any free one. -/
structure Socket where
  protocol : Protocol
  address : String
  port : UInt16
  deriving DecidableEq, Repr

def Socket.render (s : Socket) : String := s!"{s.address}:{s.port.toNat}"

structure BufferSettings where
  capacity : Nat := 10
  deriving DecidableEq, Repr

structure TcpSettings where
  address : String := "0.0.0.0"
  port : UInt16 := 7000
  maxPeers : Nat := 64
  deriving DecidableEq, Repr

def TcpSettings.socket (s : TcpSettings) : Socket := ⟨.tcp, s.address, s.port⟩

structure UdpSettings where
  address : String := "0.0.0.0"
  port : UInt16 := 7001
  receiveTimeout : Nat := 500
  clientTimeout : Nat := 10000
  deriving DecidableEq, Repr

def UdpSettings.socket (s : UdpSettings) : Socket := ⟨.udp, s.address, s.port⟩

structure Settings where
  link : LinkSettings := {}
  buffer : BufferSettings := {}
  mappings : List MappingConfig := []
  tcp : TcpSettings := {}
  udp : UdpSettings := {}
  deriving DecidableEq, Repr

/-- Settings that no relay can run with. -/
inductive Unusable where
  | noCapacity
  | noPeers
  | noReceiveTimeout
  deriving DecidableEq, Repr

inductive SettingsError where
  | unreadable
  | malformed
  | invalid (reason : Unusable)
  deriving DecidableEq, Repr

def Unusable.message : Unusable → String
  | .noCapacity => "Invalid configuration: buffer.capacity must be at least 1"
  | .noPeers => "Invalid configuration: tcp.max_peers must be at least 1"
  | .noReceiveTimeout => "Invalid configuration: udp.receive_timeout_ms must be greater than 0"

namespace Settings

def check (s : Settings) : Except Unusable Unit :=
  if s.buffer.capacity = 0 then .error .noCapacity
  else if s.tcp.maxPeers = 0 then .error .noPeers
  else if s.udp.receiveTimeout = 0 then .error .noReceiveTimeout
  else .ok ()

end Settings

end TelemetryRelay
