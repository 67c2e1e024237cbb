import TelemetryRelay.Message.Layout

/-!
# Control messages

Setpoints and tuning on their way to the vehicle.  Each type is a row of signed
words; setpoints convert to radians and metres.
-/

namespace TelemetryRelay.Message

/-- Units of an angle setpoint in one radian. -/
def angleUnits : Double := Double.pi.div (Double.const 0.18)

/-- Units of a height setpoint in one metre. -/
def heightUnits : Double := Double.const 1000.0

def angle (w : Int16) : Double := (Words.toDouble w).div angleUnits

def angleWord (radians : Double) : Int16 := Words.ofDouble (radians.mul angleUnits)

structure CommandData where
  roll : Int16
  pitch : Int16
  yaw : Int16
  height : Int16
  deriving DecidableEq, Repr

namespace CommandData

def ofUnits (roll pitch yaw height : Double) : CommandData :=
  ⟨angleWord roll, angleWord pitch, angleWord yaw, Words.ofDouble (height.mul heightUnits)⟩

def metres (c : CommandData) : Double := (Words.toDouble c.height).div heightUnits

def layout : Layout CommandData Int16 where
  field := .word
  count := 4
  row c := #v[c.roll, c.pitch, c.yaw, c.height]
  ofRow w := ⟨w[0], w[1], w[2], w[3]⟩
  ofRow_row _ := rfl

def render (c : CommandData) : String :=
  s!"CommandData: roll={(angle c.roll).fixed 4}, pitch={(angle c.pitch).fixed 4}, " ++
    s!"yaw={(angle c.yaw).fixed 4}, height above ground={c.metres.fixed 3}"

end CommandData

structure TrimValues where
  roll : Int16
  pitch : Int16
  yaw : Int16
  deriving DecidableEq, Repr

namespace TrimValues

def ofUnits (roll pitch yaw : Double) : TrimValues :=
  ⟨angleWord roll, angleWord pitch, angleWord yaw⟩

def layout : Layout TrimValues Int16 where
  field := .word
  count := 3
  row t := #v[t.roll, t.pitch, t.yaw]
  ofRow w := ⟨w[0], w[1], w[2]⟩
  ofRow_row _ := rfl

def render (t : TrimValues) : String :=
  s!"TrimValues: roll={(angle t.roll).fixed 4}, pitch={(angle t.pitch).fixed 4}, " ++
    s!"yaw={(angle t.yaw).fixed 4}"

end TrimValues

structure MotorSignals where
  front : Int16
  right : Int16
  rear : Int16
  left : Int16
  id : Int16
  deriving DecidableEq, Repr

namespace MotorSignals

def layout : Layout MotorSignals Int16 where
  field := .word
  count := 5
  row m := #v[m.front, m.right, m.rear, m.left, m.id]
  ofRow w := ⟨w[0], w[1], w[2], w[3], w[4]⟩
  ofRow_row _ := rfl

def render (m : MotorSignals) : String :=
  s!"MotorSignals: front={m.front}, right={m.right}, rear={m.rear}, left={m.left}, id={m.id}"

end MotorSignals

structure IdleLimit where
  limit : Int16
  deriving DecidableEq, Repr

namespace IdleLimit

def layout : Layout IdleLimit Int16 where
  field := .word
  count := 1
  row l := #v[l.limit]
  ofRow w := ⟨w[0]⟩
  ofRow_row _ := rfl

end IdleLimit

structure EnableSensors where
  enabled : Bool
  deriving DecidableEq, Repr

namespace EnableSensors

def encode (e : EnableSensors) : Bytes := [if e.enabled then 1 else 0]

/-- Any byte but zero switches on. -/
def decode : Bytes → Except MessageError EnableSensors
  | [b] => .ok ⟨b != 0⟩
  | payload => .error (Kind.enableSensors.wrongLength 1 payload)

end EnableSensors

/-- The payload ends in a reserved word, sent as zero and ignored on arrival. -/
structure RevvingParameters where
  idleSpeedLimit : Int16
  revvingUpStep : Int16
  revvingDownStep : Int16
  integralDownStep : Int16
  deriving DecidableEq, Repr

namespace RevvingParameters

def layout : Layout RevvingParameters Int16 where
  field := .word
  count := 5
  row r := #v[r.idleSpeedLimit, r.revvingUpStep, r.revvingDownStep, r.integralDownStep, 0]
  ofRow w := ⟨w[0], w[1], w[2], w[3]⟩
  ofRow_row _ := rfl

end RevvingParameters

/-- Gains of one controller. -/
structure Gains where
  proportional : Int16
  integral : Int16
  derivative : Int16
  secondDerivative : Int16
  deriving DecidableEq, Repr

namespace Gains

def layout : Layout Gains Int16 where
  field := .word
  count := 4
  row g := #v[g.proportional, g.integral, g.derivative, g.secondDerivative]
  ofRow w := ⟨w[0], w[1], w[2], w[3]⟩
  ofRow_row _ := rfl

def render (g : Gains) : String :=
  s!"kProportional={g.proportional}, kIntegral={g.integral}, " ++
    s!"kDerivative={g.derivative}, kSecondDerivative={g.secondDerivative}"

end Gains

end TelemetryRelay.Message
