import TelemetryRelay.Relay

/-!
# The command line

Options name the settings file and switch services off.  An option that takes a
value has it in the same argument, after an equals sign, or in the next.
-/

namespace TelemetryRelay

structure CommandLine where
  settingsFile : Option String := none
  logLevel : String := "info"
  services : Services := {}

inductive CommandLineError where
  | unexpected (argument : String)
  | missingValue (option : String)
  deriving DecidableEq, Repr

def CommandLineError.message : CommandLineError → String
  | .unexpected argument => s!"unexpected argument '{argument}' found"
  | .missingValue option => s!"a value is required for '{option}' but none was supplied"

namespace CommandLine

/-- The name of an option and the value in the same argument. -/
def splitArgument (argument : String) : String × Option String :=
  match argument.splitOn "=" with
  | name :: part :: parts => (name, some ("=".intercalate (part :: parts)))
  | _ => (argument, none)

/-- A switch, if the argument is one. -/
def switch? (c : CommandLine) : String → Option CommandLine
  | "--no-tcp" => some { c with services := { c.services with tcp := false } }
  | "--no-udp" => some { c with services := { c.services with udp := false } }
  | "--no-uplink" => some { c with services := { c.services with uplink := false } }
  | _ => none

/-- How an option that takes a value takes it, if the name is that of one. -/
def valued? (c : CommandLine) : String → Option (String → CommandLine)
  | "-c" | "--config" => some fun file => { c with settingsFile := some file }
  | "-l" | "--log-level" => some fun level => { c with logLevel := level }
  | _ => none

def parseFrom (c : CommandLine) : List String → Except CommandLineError CommandLine
  | [] => .ok c
  | argument :: rest =>
    match c.switch? argument with
    | some c => parseFrom c rest
    | none =>
      let (name, value) := splitArgument argument
      match c.valued? name, value, rest with
      | some take, some value, rest => parseFrom (take value) rest
      | some take, none, value :: rest => parseFrom (take value) rest
      | some _, none, [] => .error (.missingValue name)
      | none, _, _ => .error (.unexpected argument)

def parse (arguments : List String) : Except CommandLineError CommandLine := parseFrom {} arguments

end CommandLine

end TelemetryRelay
