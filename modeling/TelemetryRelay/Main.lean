import TelemetryRelay.CommandLine
import TelemetryRelay.Settings.Load

/-!
# The program

Reads the settings that the command line names, checks that a relay can be made
from them, and tells what it would run.
-/

namespace TelemetryRelay

/-- What stands at a path; whatever cannot be read counts as a directory, unless
there is nothing. -/
def storedAt (path : String) : IO Settings.Stored := do
  try
    return .file (← IO.FS.readBinFile path).toList
  catch
    | .noFileOrDirectory .. => return .nothing
    | _ => return .directory

/-- The variables that settings are overridden from. -/
def overrides : List String :=
  ["SKYLINK_TCP_PORT", "SKYLINK_UDP_PORT", "SKYLINK_BUFFER_CAPACITY"]

def environment : IO (String → Option String) := do
  let values ← overrides.mapM fun name => return (name, ← IO.getEnv name)
  return fun name => (List.lookup name values).join

def loadSettings (c : CommandLine) : IO (Except SettingsError Settings) := do
  let lookup ← environment
  match c.settingsFile.or (← IO.getEnv "SKYLINK_CONFIG") with
  | some path => return Settings.load false lookup (← storedAt path)
  | none =>
    let home := (← IO.getEnv "HOME").getD ""
    let path := Settings.defaultPath (← IO.getEnv "XDG_CONFIG_HOME") home
    return Settings.load true lookup (← storedAt path)

def SettingsError.message : SettingsError → String
  | .unreadable => "Failed to load config: the file cannot be read"
  | .malformed => "Failed to load config: the file is malformed"
  | .invalid reason => reason.message

/-- One line for every service that the relay would run. -/
def Relay.plan (r : Relay) : List String :=
  let tcp := if r.services.tcp then ["TCP listener on " ++ r.settings.tcp.socket.render] else []
  let udp := if r.services.udp then ["UDP listener on " ++ r.settings.udp.socket.render] else []
  let uplink := match r.services.uplink, r.settings.link.endpoint with
    | true, some target => ["Uplink to " ++ target.render]
    | _, _ => []
  tcp ++ udp ++ uplink

end TelemetryRelay

open TelemetryRelay in
def main (arguments : List String) : IO UInt32 := do
  match CommandLine.parse arguments with
  | .error e =>
    IO.eprintln ("error: " ++ e.message)
    return 2
  | .ok c =>
    match ← loadSettings c with
    | .error e =>
      IO.eprintln ("Error: " ++ e.message)
      return 1
    | .ok settings =>
      match Relay.make settings c.services with
      | .error e =>
        IO.eprintln ("Error: Invalid message mappings: " ++ e.message)
        return 1
      | .ok (relay, _) =>
        for line in relay.plan do
          IO.println line
        return 0
