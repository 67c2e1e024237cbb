/-!
# Kinds of payload

The kinds of payload that every party can decode, with their names and the lengths
that a payload must have.
-/

namespace TelemetryRelay

inductive Kind where
  | commandData
  | motorSignals
  | idleLimit
  | enableSensors
  | trimValues
  | revvingParameters
  | positionControllerParameters
  | yawControllerParameters
  | sensorData
  | javiatorData
  | motorOffsets
  | groundReport
  | simulationData
  | pilotData
  deriving DecidableEq, Repr

namespace Kind

def name : Kind → String
  | .commandData => "CommandData"
  | .motorSignals => "MotorSignals"
  | .idleLimit => "IdleLimit"
  | .enableSensors => "EnableSensors"
  | .trimValues => "TrimValues"
  | .revvingParameters => "RevvingParameters"
  | .positionControllerParameters => "PositionControllerParameters"
  | .yawControllerParameters => "YawControllerParameters"
  | .sensorData => "SensorData"
  | .javiatorData => "JaviatorData"
  | .motorOffsets => "MotorOffsets"
  | .groundReport => "GroundReport"
  | .simulationData => "SimulationData"
  | .pilotData => "PilotData"

/-- The length of every payload of a kind, where it is fixed. -/
def payloadLength? : Kind → Option Nat
  | .commandData => some 8
  | .motorSignals => some 10
  | .idleLimit => some 2
  | .enableSensors => some 1
  | .trimValues => some 6
  | .revvingParameters => some 10
  | .positionControllerParameters => some 8
  | .yawControllerParameters => some 8
  | .sensorData => some 38
  | .javiatorData => some 48
  | .motorOffsets => some 8
  | .groundReport => some 58
  | .simulationData => some 144
  | .pilotData => none

/-- All kinds. -/
def all : List Kind :=
  [.commandData, .motorSignals, .idleLimit, .enableSensors, .trimValues, .revvingParameters,
    .positionControllerParameters, .yawControllerParameters, .sensorData, .javiatorData,
    .motorOffsets, .groundReport, .simulationData, .pilotData]

end Kind

end TelemetryRelay
