import TelemetryRelay.Settings.Document
import TelemetryRelay.Text.Utf8

/-!
# Loading settings

Settings come from a file, are overridden from the environment and are then
checked.
-/

namespace TelemetryRelay.Settings

/-! ## The environment -/

/-- A decimal number below `2 ^ bits`, perhaps with a plus sign, between blanks. -/
def readNatural (bits : Nat) (raw : String) : Option Nat :=
  let cs := Text.trimList Text.isBlank raw.toList
  let digits := match cs with
    | '+' :: rest => rest
    | cs => cs
  let n := Toml.valueOf 10 digits
  if !digits.isEmpty && digits.all Char.isDigit && n < Nat.pow 2 bits then some n else none

/-- Overrides from the environment; values that cannot be read are passed over. -/
def override (lookup : String → Option String) (s : Settings) : Settings :=
  let number (bits : Nat) (name : String) := (lookup name).bind (readNatural bits)
  let tcpPort := ((number 16 "SKYLINK_TCP_PORT").map UInt16.ofNat).getD s.tcp.port
  let udpPort := ((number 16 "SKYLINK_UDP_PORT").map UInt16.ofNat).getD s.udp.port
  let capacity := (number 64 "SKYLINK_BUFFER_CAPACITY").getD s.buffer.capacity
  { s with tcp := { s.tcp with port := tcpPort }, udp := { s.udp with port := udpPort },
           buffer := ⟨capacity⟩ }

/-! ## Loading -/

/-- What stands at the place of a settings file. -/
inductive Stored where
  | nothing
  | directory
  | file (content : Bytes)
  deriving DecidableEq, Repr

def read : Stored → Except SettingsError Settings
  | .file content =>
    match Text.Utf8.decode? content with
    | none => .error .unreadable
    | some document =>
      match ofDocument? document with
      | none => .error .malformed
      | some s => .ok s
  | _ => .error .unreadable

/-- Loads, overrides and checks.  Only a file that was asked for has to exist. -/
def load (optional : Bool) (lookup : String → Option String) (stored : Stored) :
    Except SettingsError Settings := do
  let s ← if optional && stored == .nothing then pure {} else read stored
  let s := s.override lookup
  match s.check with
  | .ok () => return s
  | .error reason => throw (.invalid reason)

/-- `base/name`, without doubling a slash at the end of `base`. -/
def joinPath (base name : String) : String :=
  if base.endsWith "/" then base ++ name else base ++ "/" ++ name

/-- Where settings are kept: below the configuration directory if it is given as
an absolute path, else below the home directory. -/
def defaultPath (configHome : Option String) (home : String) : String :=
  let base := match configHome with
    | some dir => if dir.startsWith "/" then dir else joinPath home ".config"
    | none => joinPath home ".config"
  joinPath (joinPath base "skylink") "skylink.toml"

end TelemetryRelay.Settings
