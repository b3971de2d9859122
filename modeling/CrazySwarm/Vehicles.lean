import CrazySwarm.Numbers
import CrazySwarm.Lib.Dict

/-! What a supervisor and a vehicle adapter say to each other: operating modes, vehicle
states with their permitted transitions, telemetry, commands and acknowledgements. -/
namespace CrazySwarm

variable {F : Type}

inductive OperatingMode where
  | sim | live | shadow | replay
  deriving DecidableEq, Repr

def OperatingMode.value : OperatingMode → String
  | sim => "SIM"
  | live => "LIVE"
  | shadow => "SHADOW"
  | replay => "REPLAY"

/-- Membership in `{LIVE, SHADOW}`. -/
def OperatingMode.real (mode : OperatingMode) : Bool := mode ∈ [live, shadow]

inductive AuthorityClass where
  | simulation | physical | observationOnly
  deriving DecidableEq, Repr

inductive CommandSource where
  | cli | ui | mission | supervisor | test
  deriving DecidableEq, Repr

inductive VehicleState where
  | disconnected | connecting | ready | arming | takingOff | flying | returning | landing
  | aborting | fault | emergency
  deriving DecidableEq, Repr

namespace VehicleState

def value : VehicleState → String
  | disconnected => "DISCONNECTED"
  | connecting => "CONNECTING"
  | ready => "READY"
  | arming => "ARMING"
  | takingOff => "TAKING_OFF"
  | flying => "FLYING"
  | returning => "RETURNING"
  | landing => "LANDING"
  | aborting => "ABORTING"
  | fault => "FAULT"
  | emergency => "EMERGENCY"

/-- `ALLOWED_TRANSITIONS`. -/
def allowedTransitions : VehicleState → List VehicleState
  | disconnected => [connecting]
  | connecting => [ready, disconnected, fault]
  | ready => [arming, takingOff, disconnected, fault, emergency]
  | arming => [ready, fault, emergency]
  | takingOff => [flying, landing, aborting, fault, emergency]
  | flying => [returning, landing, aborting, fault, emergency]
  | returning => [flying, landing, aborting, fault, emergency]
  | landing => [ready, fault, emergency]
  | aborting => [landing, ready, fault, emergency]
  | fault => [ready, disconnected, emergency]
  | emergency => [disconnected]

/-- The states in which the supervisor takes the vehicle to be in the air. -/
def airborne (state : VehicleState) : Bool := state ∈ [takingOff, flying, returning]

def terminal (state : VehicleState) : Bool := state ∈ [disconnected, fault, emergency]

end VehicleState

def canTransition (current target : VehicleState) : Bool :=
  current == target || target ∈ current.allowedTransitions

/-- What can come out of an awaited call. Only the first three are instances of `Exception`. -/
inductive Raised (F : Type) where
  | fault (raised : Fault F)
  | timeout
  | other (name message : String)
  | cancelled
  deriving DecidableEq, Repr

namespace Raised

def error (code : ErrorCode) (message : String) : Raised F :=
  .fault (.crazySwarm code message .none)

/-- `except Exception` and `suppress(Exception)` let a cancellation through. -/
def isException : Raised F → Bool
  | cancelled => false
  | _ => true

/-- `except CrazySwarmError`. -/
def isCrazySwarmError : Raised F → Bool
  | fault (.crazySwarm ..) => true
  | _ => false

def hasCode (code : ErrorCode) : Raised F → Bool
  | fault (.crazySwarm raised _ _) => raised == code
  | _ => false

end Raised

structure VehicleIdentity where
  vehicleId : String
  deriving DecidableEq, Repr

structure VehicleBackendProfile where
  authority : AuthorityClass
  supportsDurationAwareTimeout : Bool
  deriving DecidableEq, Repr

/-- What the supervisor reads of an adapter without awaiting it. -/
structure Vehicle where
  identity : VehicleIdentity
  backendProfile : VehicleBackendProfile
  features : List VehicleCapability
  deriving DecidableEq, Repr

structure TransportReading (F : Type) where
  deliveryQualityPercent : Option F
  deriving DecidableEq, Repr

/-- The sensor readings are only tested for being present. -/
structure VehicleTelemetry (F : Type) where
  state : VehicleState
  armed : Bool
  flying : Bool
  positionM : Option (Vector3 F) := none
  attitudeYawRad : Option F := none
  localizationQualityPercent : Option F := none
  batteryPercent : Option F := none
  linkQualityPercent : Option F := none
  transport : Option (TransportReading F) := none
  imu : Bool := false
  flow : Bool := false
  ranges : Bool := false
  faults : List String := []
  deriving DecidableEq, Repr

/-- On the ground with the motors off. -/
def VehicleTelemetry.landed (telemetry : VehicleTelemetry F) : Bool :=
  !telemetry.armed && !telemetry.flying

structure TelemetryEnvelope (F : Type) where
  vehicleId : String
  sequence : Nat
  sourceTimestampS : F
  sourceClockId : String := "adapter-monotonic"
  sourceClockEpoch : Nat := 0
  telemetry : VehicleTelemetry F
  deriving DecidableEq, Repr

inductive CommandKind where
  | arm | disarm | takeoff | hover | moveRelative | executeTrajectory | stopAndHold | land
  | abort | emergencyStop
  deriving DecidableEq, Repr

def CommandKind.value : CommandKind → String
  | arm => "arm"
  | disarm => "disarm"
  | takeoff => "takeoff"
  | hover => "hover"
  | moveRelative => "move_relative"
  | executeTrajectory => "execute_trajectory"
  | stopAndHold => "stop_and_hold"
  | land => "land"
  | abort => "abort"
  | emergencyStop => "emergency_stop"

inductive CoordinateFrame where
  | world | home | body | sensor
  deriving DecidableEq, Repr

structure MoveRelativeCommand (F : Type) where
  xM : F
  yM : F
  zM : F
  yawRad : F
  durationS : F
  frame : CoordinateFrame
  deriving DecidableEq, Repr

structure LandingGoalRegion (F : Type) where
  landingTargetM : Vector3 F
  deriving DecidableEq, Repr

structure LandCommand (F : Type) where
  targetHeightM : F
  targetPositionM : Option (Vector3 F)
  goalRegion : Option (LandingGoalRegion F)
  durationS : F
  deriving DecidableEq, Repr

inductive AcknowledgementStatus where
  | accepted | completed | rejected | timedOut | unknownOutcome
  deriving DecidableEq, Repr

structure CommandAcknowledgement where
  commandId : String
  status : AcknowledgementStatus
  message : Option String
  deriving DecidableEq, Repr

end CrazySwarm
