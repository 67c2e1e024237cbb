import TelemetryRelay.Message.Telemetry
import TelemetryRelay.Message.Pilot

/-!
# Bodies

A body is the decoded content of one kind of payload.
-/

namespace TelemetryRelay

open Message

inductive Body where
  | commandData (c : CommandData)
  | motorSignals (m : MotorSignals)
  | idleLimit (l : IdleLimit)
  | enableSensors (e : EnableSensors)
  | trimValues (t : TrimValues)
  | revvingParameters (r : RevvingParameters)
  | positionControllerParameters (g : Gains)
  | yawControllerParameters (g : Gains)
  | sensorData (s : SensorData)
  | javiatorData (j : JaviatorData)
  | motorOffsets (m : MotorOffsets)
  | groundReport (g : GroundReport)
  | simulationData (s : SimulationData)
  | pilotData (p : PilotData)
  deriving DecidableEq, Repr

namespace Body

def kind : Body → Kind
  | .commandData _ => .commandData
  | .motorSignals _ => .motorSignals
  | .idleLimit _ => .idleLimit
  | .enableSensors _ => .enableSensors
  | .trimValues _ => .trimValues
  | .revvingParameters _ => .revvingParameters
  | .positionControllerParameters _ => .positionControllerParameters
  | .yawControllerParameters _ => .yawControllerParameters
  | .sensorData _ => .sensorData
  | .javiatorData _ => .javiatorData
  | .motorOffsets _ => .motorOffsets
  | .groundReport _ => .groundReport
  | .simulationData _ => .simulationData
  | .pilotData _ => .pilotData

def encode : Body → Bytes
  | .commandData c => CommandData.layout.encode c
  | .motorSignals m => MotorSignals.layout.encode m
  | .idleLimit l => IdleLimit.layout.encode l
  | .enableSensors e => e.encode
  | .trimValues t => TrimValues.layout.encode t
  | .revvingParameters r => RevvingParameters.layout.encode r
  | .positionControllerParameters g => Gains.layout.encode g
  | .yawControllerParameters g => Gains.layout.encode g
  | .sensorData s => SensorData.layout.encode s
  | .javiatorData j => j.encode
  | .motorOffsets m => MotorOffsets.layout.encode m
  | .groundReport g => g.encode
  | .simulationData s => SimulationData.layout.encode s
  | .pilotData p => p.data

/-- The body that a row of words spells, for kinds that are nothing else. -/
def ofWords? (words : List Int16) : Kind → Option Body
  | .commandData => (CommandData.layout.ofFields? words).map .commandData
  | .motorSignals => (MotorSignals.layout.ofFields? words).map .motorSignals
  | .idleLimit => (IdleLimit.layout.ofFields? words).map .idleLimit
  | .trimValues => (TrimValues.layout.ofFields? words).map .trimValues
  | .revvingParameters => (RevvingParameters.layout.ofFields? words).map .revvingParameters
  | .positionControllerParameters =>
      (Gains.layout.ofFields? words).map .positionControllerParameters
  | .yawControllerParameters => (Gains.layout.ofFields? words).map .yawControllerParameters
  | .sensorData => (SensorData.layout.ofFields? words).map .sensorData
  | .motorOffsets => (MotorOffsets.layout.ofFields? words).map .motorOffsets
  | _ => none

end Body

/-- Decodes a payload as a body of a kind. -/
def Kind.decode (k : Kind) (payload : Bytes) : Except MessageError Body :=
  match k with
  | .commandData => (CommandData.layout.decode k payload).map .commandData
  | .motorSignals => (MotorSignals.layout.decode k payload).map .motorSignals
  | .idleLimit => (IdleLimit.layout.decode k payload).map .idleLimit
  | .enableSensors => (EnableSensors.decode payload).map .enableSensors
  | .trimValues => (TrimValues.layout.decode k payload).map .trimValues
  | .revvingParameters => (RevvingParameters.layout.decode k payload).map .revvingParameters
  | .positionControllerParameters =>
      (Gains.layout.decode k payload).map .positionControllerParameters
  | .yawControllerParameters => (Gains.layout.decode k payload).map .yawControllerParameters
  | .sensorData => (SensorData.layout.decode k payload).map .sensorData
  | .javiatorData => (JaviatorData.decode payload).map .javiatorData
  | .motorOffsets => (MotorOffsets.layout.decode k payload).map .motorOffsets
  | .groundReport => (GroundReport.decode payload).map .groundReport
  | .simulationData => (SimulationData.layout.decode k payload).map .simulationData
  | .pilotData => .ok (.pilotData ⟨payload⟩)

end TelemetryRelay
