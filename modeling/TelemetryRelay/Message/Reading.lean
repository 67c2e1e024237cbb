import TelemetryRelay.Message.Family

/-!
# Readings

The named readings of a message: its fields, the values derived from them and,
where a message has one, its text.
-/

namespace TelemetryRelay

open Message

inductive Reading where
  | integer (n : Int)
  | real (d : Double)
  | text (s : String)
  | octets (bs : Bytes)
  | flag (b : Bool)
  | row (readings : List Reading)
  | group (readings : List (String × Reading))

namespace Reading

def word (w : Int16) : Reading := .integer w.toInt

def words (names : List String) (ws : List Int16) : List (String × Reading) :=
  names.zip (ws.map word)

def reals (names : List String) (ds : List Double) : List (String × Reading) :=
  names.zip (ds.map real)

/-- The names of a full motion state, in the order of its fields. -/
def motionNames : List String :=
  ["roll", "pitch", "yaw", "d_roll", "d_pitch", "d_yaw", "dd_roll", "dd_pitch", "dd_yaw",
    "x", "y", "z", "dx", "dy", "dz", "ddx", "ddy", "ddz"]

def sensors (s : SensorData) : List (String × Reading) :=
  words (motionNames ++ ["battery"]) (SensorData.layout.fields s) ++
    reals ["roll_degrees", "pitch_degrees", "yaw_degrees"]
      [SensorData.degrees s.roll, SensorData.degrees s.pitch, SensorData.degrees s.yaw] ++
    [("position", .row (s.position.map .real)), ("battery_volts", .real s.volts),
      ("display", .text s.render)]

def signals (m : MotorSignals) : List (String × Reading) :=
  words ["front", "right", "rear", "left", "id"] (MotorSignals.layout.fields m) ++
    [("display", .text m.render)]

def offsets (m : MotorOffsets) : List (String × Reading) :=
  words ["roll", "pitch", "yaw", "z"] (MotorOffsets.layout.fields m)

def gains (g : Gains) : List (String × Reading) :=
  words ["proportional", "integral", "derivative", "second_derivative"] (Gains.layout.fields g) ++
    [("display", .text g.render)]

def vehicle (flags : List Int16) (j : JaviatorData) : List (String × Reading) :=
  [("maps", .integer j.maps.toNat)] ++
    words ["temperature", "battery", "sonar", "state", "id"]
      [j.temperature, j.battery, j.sonar, j.state, j.id] ++
    [("x_position", .octets j.xPosition.digits), ("y_position", .octets j.yPosition.digits)] ++
    words ["roll", "pitch", "yaw", "d_roll", "d_pitch", "d_yaw", "ddx", "ddy", "ddz"]
      [j.roll, j.pitch, j.yaw, j.dRoll, j.dPitch, j.dYaw, j.ddx, j.ddy, j.ddz] ++
    [("has", .row (flags.map fun f => .flag (j.has f)))] ++
    reals ["x_meters", "y_meters", "roll_radians", "sonar_meters", "battery_volts"]
      [j.xPosition.metres, j.yPosition.metres, JaviatorData.radians j.roll, j.sonarMetres,
        j.volts] ++
    [("display", .text j.render)]

def command (c : PilotCommand) : Reading :=
  let named := fun (kind : String) => ("kind", Reading.text kind)
  .group <| match c with
    | .start course => [named "Start", ("text", .text course)]
    | .stop => [named "Stop"]
    | .sendCourseFileNames => [named "SendCourseFileNames"]
    | .response answer => [named "Response", ("text", .text answer)]
    | .fileName name => [named "FileName", ("text", .text name)]
    | .unknown => [named "Unknown"]

end Reading

/-- All readings of a body; `flags` are the state bits to ask a vehicle report for. -/
def Body.readings (flags : List Int16) : Body → List (String × Reading)
  | .commandData c =>
      Reading.reals ["roll", "pitch", "yaw", "height"]
          [angle c.roll, angle c.pitch, angle c.yaw, c.metres] ++
        [("raw_height", .word c.height), ("display", .text c.render)]
  | .trimValues t =>
      Reading.reals ["roll", "pitch", "yaw"] [angle t.roll, angle t.pitch, angle t.yaw] ++
        [("display", .text t.render)]
  | .motorSignals m => Reading.signals m
  | .idleLimit l => [("limit", .word l.limit)]
  | .enableSensors e => [("enabled", .flag e.enabled)]
  | .revvingParameters r =>
      Reading.words
        ["idle_speed_limit", "revving_up_step", "revving_down_step", "integral_down_step"]
        (RevvingParameters.layout.fields r)
  | .positionControllerParameters g => Reading.gains g
  | .yawControllerParameters g => Reading.gains g
  | .sensorData s => Reading.sensors s
  | .javiatorData j => Reading.vehicle flags j
  | .motorOffsets m => Reading.offsets m
  | .groundReport g =>
      [("sensor_data", .group (Reading.sensors g.sensors)),
        ("motor_signals", .group (Reading.signals g.signals)),
        ("motor_offsets", .group (Reading.offsets g.offsets)),
        ("state", .integer g.state.toNat), ("mode", .integer g.mode.toNat)]
  | .simulationData s =>
      Reading.reals Reading.motionNames (SimulationData.layout.fields s) ++
        [("equals_itself", .flag (s.equal s))]
  | .pilotData p =>
      [("text", .text p.text), ("command", Reading.command p.command),
        ("display", .text p.render)]

end TelemetryRelay
