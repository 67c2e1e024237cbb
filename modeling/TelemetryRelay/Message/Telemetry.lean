import TelemetryRelay.Message.Control
import TelemetryRelay.Message.Laser
import TelemetryRelay.Text.Utf8

/-!
# Telemetry

State reports of the vehicle, or of the simulator in its place, on their way to
the ground.
-/

namespace TelemetryRelay.Message

structure SensorData where
  roll : Int16
  pitch : Int16
  yaw : Int16
  dRoll : Int16
  dPitch : Int16
  dYaw : Int16
  ddRoll : Int16
  ddPitch : Int16
  ddYaw : Int16
  x : Int16
  y : Int16
  z : Int16
  dx : Int16
  dy : Int16
  dz : Int16
  ddx : Int16
  ddy : Int16
  ddz : Int16
  battery : Int16
  deriving DecidableEq, Repr

namespace SensorData

def layout : Layout SensorData Int16 where
  field := .word
  count := 19
  row s := #v[s.roll, s.pitch, s.yaw, s.dRoll, s.dPitch, s.dYaw, s.ddRoll, s.ddPitch, s.ddYaw,
    s.x, s.y, s.z, s.dx, s.dy, s.dz, s.ddx, s.ddy, s.ddz, s.battery]
  ofRow w := ⟨w[0], w[1], w[2], w[3], w[4], w[5], w[6], w[7], w[8],
    w[9], w[10], w[11], w[12], w[13], w[14], w[15], w[16], w[17], w[18]⟩
  ofRow_row _ := rfl

/-- Degrees in one unit of an angle. -/
def angleFactor : Double := (Double.const 0.18).div Double.pi

/-- Metres in one unit of a length, and volts in one of the battery. -/
def milli : Double := Double.const 0.001

def degrees (w : Int16) : Double := (Words.toDouble w).mul angleFactor

def position (s : SensorData) : List Double :=
  [s.x, s.y, s.z].map fun w => (Words.toDouble w).mul milli

def volts (s : SensorData) : Double := (Words.toDouble s.battery).mul milli

def render (s : SensorData) : String :=
  s!"SensorData: roll={s.roll}, pitch={s.pitch}, yaw={s.yaw}, " ++
    s!"dRoll={s.dRoll}, dPitch={s.dPitch}, dYaw={s.dYaw}, " ++
    s!"ddRoll={s.ddRoll}, ddPitch={s.ddPitch}, ddYaw={s.ddYaw}, " ++
    s!"x={s.x}, y={s.y}, z={s.z}, dx={s.dx}, dy={s.dy}, dz={s.dz}, " ++
    s!"ddx={s.ddx}, ddy={s.ddy}, ddz={s.ddz}, battery={s.battery}"

end SensorData

structure JaviatorData where
  maps : UInt32
  temperature : Int16
  battery : Int16
  sonar : Int16
  state : Int16
  id : Int16
  xPosition : LaserPosition
  yPosition : LaserPosition
  roll : Int16
  pitch : Int16
  yaw : Int16
  dRoll : Int16
  dPitch : Int16
  dYaw : Int16
  ddx : Int16
  ddy : Int16
  ddz : Int16
  deriving DecidableEq, Repr

namespace JaviatorData

def blank : JaviatorData :=
  ⟨0, 0, 0, 0, 0, 0, .zero, .zero, 0, 0, 0, 0, 0, 0, 0, 0, 0⟩

def encode (j : JaviatorData) : Bytes :=
  Bytes.ofNat 4 j.maps.toNat ++
    Field.word.encodeRow #v[j.temperature, j.battery, j.sonar, j.state, j.id] ++
    j.xPosition.encode ++ j.yPosition.encode ++
    Field.word.encodeRow
      #v[j.roll, j.pitch, j.yaw, j.dRoll, j.dPitch, j.dYaw, j.ddx, j.ddy, j.ddz]

def decode (payload : Bytes) : Except MessageError JaviatorData :=
  if h : payload.length = 48 then do
    let readings ← Kind.javiatorData.readRow .word 5 ((payload.drop 4).take 10)
    let motion ← Kind.javiatorData.readRow .word 9 (payload.drop 30)
    return {
      maps := UInt32.ofNat (Bytes.toNat (payload.take 4))
      temperature := readings[0], battery := readings[1], sonar := readings[2]
      state := readings[3], id := readings[4]
      xPosition := .slice payload 14 (by omega), yPosition := .slice payload 22 (by omega)
      roll := motion[0], pitch := motion[1], yaw := motion[2]
      dRoll := motion[3], dPitch := motion[4], dYaw := motion[5]
      ddx := motion[6], ddy := motion[7], ddz := motion[8] }
  else .error (Kind.javiatorData.wrongLength 48 payload)

/-- Whether one of the state bits in `flag` is set. -/
def has (j : JaviatorData) (flag : Int16) : Bool := j.state &&& flag != 0

/-- Radians in one unit of an Euler angle. -/
def angleFactor : Double :=
  ((Double.const 2.0).mul Double.pi).div (Double.const 65536.0)

def radians (w : Int16) : Double := (Words.toDouble w).mul angleFactor

def sonarMetres (j : JaviatorData) : Double :=
  (Words.toDouble j.sonar).mul ((Double.const 3.0).div (Double.const 1024.0))

def volts (j : JaviatorData) : Double :=
  (Words.toDouble j.battery).mul ((Double.const 18.0).div (Double.const 1024.0))

def render (j : JaviatorData) : String :=
  s!"JaviatorData: maps={j.maps}, temp={j.temperature}, batt={j.battery}, " ++
    s!"sonar={j.sonar} ({j.sonarMetres.fixed 3}), state={j.state}, id={j.id}, " ++
    s!"x_pos={Text.Utf8.decodeLossy j.xPosition.digits}, " ++
    s!"y_pos={Text.Utf8.decodeLossy j.yPosition.digits}, " ++
    s!"roll={j.roll}, pitch={j.pitch}, yaw={j.yaw}, " ++
    s!"droll={j.dRoll}, dpitch={j.dPitch}, dyaw={j.dYaw}, " ++
    s!"ddx={j.ddx}, ddy={j.ddy}, ddz={j.ddz}"

end JaviatorData

structure MotorOffsets where
  roll : Int16
  pitch : Int16
  yaw : Int16
  z : Int16
  deriving DecidableEq, Repr

namespace MotorOffsets

def layout : Layout MotorOffsets Int16 where
  field := .word
  count := 4
  row m := #v[m.roll, m.pitch, m.yaw, m.z]
  ofRow w := ⟨w.get 0, w.get 1, w.get 2, w.get 3⟩
  ofRow_row _ := rfl

end MotorOffsets

structure GroundReport where
  sensors : SensorData
  signals : MotorSignals
  offsets : MotorOffsets
  state : UInt8
  mode : UInt8
  deriving DecidableEq, Repr

namespace GroundReport

def encode (g : GroundReport) : Bytes :=
  SensorData.layout.encode g.sensors ++ MotorSignals.layout.encode g.signals ++
    MotorOffsets.layout.encode g.offsets ++ [g.state, g.mode]

/-- The parts are read as messages of their own kinds. -/
def decode (payload : Bytes) : Except MessageError GroundReport :=
  if h : payload.length = 58 then do
    let sensors ← SensorData.layout.decode .sensorData (payload.take 38)
    let signals ← MotorSignals.layout.decode .motorSignals ((payload.drop 38).take 10)
    let offsets ← MotorOffsets.layout.decode .motorOffsets ((payload.drop 48).take 8)
    return ⟨sensors, signals, offsets, payload[56], payload[57]⟩
  else .error (Kind.groundReport.wrongLength 58 payload)

end GroundReport

structure SimulationData where
  roll : Double
  pitch : Double
  yaw : Double
  dRoll : Double
  dPitch : Double
  dYaw : Double
  ddRoll : Double
  ddPitch : Double
  ddYaw : Double
  x : Double
  y : Double
  z : Double
  dx : Double
  dy : Double
  dz : Double
  ddx : Double
  ddy : Double
  ddz : Double
  deriving DecidableEq, Repr

namespace SimulationData

def layout : Layout SimulationData Double where
  field := .double
  count := 18
  row s := #v[s.roll, s.pitch, s.yaw, s.dRoll, s.dPitch, s.dYaw, s.ddRoll, s.ddPitch, s.ddYaw,
    s.x, s.y, s.z, s.dx, s.dy, s.dz, s.ddx, s.ddy, s.ddz]
  ofRow d := ⟨d[0], d[1], d[2], d[3], d[4], d[5], d[6], d[7], d[8],
    d[9], d[10], d[11], d[12], d[13], d[14], d[15], d[16], d[17]⟩
  ofRow_row _ := rfl

/-- Equality of all values, which no report with a NaN has even to itself. -/
def equal (a b : SimulationData) : Bool :=
  ((layout.fields a).zip (layout.fields b)).all fun (x, y) => x.equal y

end SimulationData

end TelemetryRelay.Message
