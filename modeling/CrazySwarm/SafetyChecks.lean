import CrazySwarm.SafetyPolicy
import CrazySwarm.Trajectory
import CrazySwarm.Lib.Sorting

/-! What the supervisor checks against its policy: takeoffs, hovers, moves, trajectories,
landing targets, preflight observations and health observations. -/
namespace CrazySwarm
open PyFloat PyMath

variable {F : Type} [PyMath F]

/-- `raise CrazySwarmError(code, message)` unless the condition holds. -/
def demand (condition : Bool) (code : ErrorCode) (message : String) : Except (Raised F) Unit :=
  require condition (.error code message)

omit [PyMath F] in
@[simp] theorem demand_eq_ok {condition : Bool} {code : ErrorCode} {message : String} {u : Unit} :
    (demand condition code message : Except (Raised F) Unit) = .ok u ↔ condition = true :=
  require_eq_ok

namespace SafetyPolicy

variable (policy : SafetyPolicy F)

def validateTakeoff (heightM durationS : F) : Except (Raised F) Unit := do
  demand (!(le heightM zero || lt policy.maxAltitudeM heightM))
    .invalidCommand "takeoff height exceeds policy"
  demand (!(le durationS zero || lt policy.maxMissionDurationS durationS))
    .invalidCommand "takeoff duration exceeds policy"
  demand (!lt policy.maxVerticalSpeedMS (ofRat 1.5 * heightM / durationS))
    .invalidCommand "takeoff vertical speed exceeds policy"
  demand (!lt policy.maxAccelerationMS2 (ofRat 6 * heightM / pow durationS 2))
    .invalidCommand "takeoff acceleration exceeds policy"

def validateHover (durationS : F) : Except (Raised F) Unit :=
  demand (!(le durationS zero || lt policy.maxMissionDurationS durationS))
    .invalidCommand "hover duration exceeds policy"

def displacement (telemetry : VehicleTelemetry F) (command : MoveRelativeCommand F) :
    Except (Raised F) (F × F) :=
  if command.frame = .body then
    match telemetry.attitudeYawRad with
    | none => .error (.error .localizationInvalid
        "body-frame move requires a current attitude observation")
    | some yaw => .ok (command.xM * cos yaw - command.yM * sin yaw,
        command.xM * sin yaw + command.yM * cos yaw)
  else .ok (command.xM, command.yM)

def validateRelativeMove (telemetry : VehicleTelemetry F) (command : MoveRelativeCommand F) :
    Except (Raised F) Unit := do
  demand (!lt policy.maxMissionDurationS command.durationS)
    .invalidCommand "move duration exceeds policy"
  let horizontal := hypot command.xM command.yM
  demand (!lt policy.maxHorizontalSpeedMS (ofRat 1.5 * horizontal / command.durationS))
    .invalidCommand "horizontal speed exceeds policy"
  demand (!lt policy.maxVerticalSpeedMS (ofRat 1.5 * abs command.zM / command.durationS))
    .invalidCommand "vertical speed exceeds policy"
  let distance := sqrt (pow horizontal 2 + pow command.zM 2)
  demand (!lt policy.maxAccelerationMS2 (ofRat 6 * distance / pow command.durationS 2))
    .invalidCommand "acceleration exceeds policy"
  demand (!lt policy.maxYawRateRadS (ofRat 1.5 * abs command.yawRad / command.durationS))
    .invalidCommand "yaw rate exceeds policy"
  match telemetry.positionM with
  | none => .error (.error .localizationInvalid
      "relative move requires a current position observation")
  | some position =>
    let (dx, dy) ← displacement telemetry command
    demand (policy.flightVolume.contains ⟨position.x + dx, position.y + dy, position.z + command.zM⟩)
      .geofenceBreach "move target exceeds policy volume"

def validateLandingTarget (targetPositionM : Option (Vector3 F)) : Except (Raised F) Unit :=
  demand (targetPositionM.all policy.flightVolume.contains)
    .geofenceBreach "landing target is outside the admitted flight volume"

def distance (first second : Vector3 F) : F :=
  sqrt (pow (first.x - second.x) 2 + pow (first.y - second.y) 2 + pow (first.z - second.z) 2)

def validatePoint (point : TrajectoryPoint F) : Except (Raised F) Unit := do
  demand (policy.flightVolume.contains point.positionM && !lt policy.maxAltitudeM point.positionM.z)
    .geofenceBreach "accepted trajectory leaves the configured flight volume"
  demand (!lt policy.maxHorizontalSpeedMS (hypot point.velocityMS.x point.velocityMS.y))
    .invalidCommand "trajectory horizontal speed exceeds policy"
  demand (!lt policy.maxVerticalSpeedMS (abs point.velocityMS.z))
    .invalidCommand "trajectory vertical speed exceeds policy"
  demand (!lt policy.maxAccelerationMS2 point.accelerationMS2.length)
    .invalidCommand "trajectory acceleration exceeds policy"
  demand (!lt policy.maxYawRateRadS (abs point.yawRateRadS))
    .invalidCommand "trajectory yaw rate exceeds policy"

/-- The dynamics limits a sampled setpoint must keep. -/
def withinDynamics (setpoint : TrajectorySetpoint F) : Bool :=
  !(lt policy.maxHorizontalSpeedMS (hypot setpoint.velocityMS.x setpoint.velocityMS.y) ||
    lt policy.maxVerticalSpeedMS (abs setpoint.velocityMS.z) ||
    lt policy.maxAccelerationMS2 setpoint.accelerationMS2.length ||
    lt policy.maxYawRateRadS (abs setpoint.yawRateRadS))

/-- The setpoint at `index` twentieths of the segment. -/
def segmentSample (previous current : TrajectoryPoint F) (index : Nat) : TrajectorySetpoint F :=
  let durationS := current.timeFromStartS - previous.timeFromStartS
  sampleTrajectorySegment previous current
    (previous.timeFromStartS + durationS * ofRat index / ofRat 20)

def validateSample (previous current : TrajectoryPoint F) (index : Nat) :
    Except (Raised F) Unit := do
  let setpoint := segmentSample previous current index
  demand (policy.flightVolume.contains setpoint.positionM)
    .geofenceBreach "accepted trajectory spline leaves the configured flight volume"
  demand (policy.withinDynamics setpoint)
    .invalidCommand "accepted trajectory spline exceeds a dynamics policy limit"

/-- Every item passes, in order; the first failure is the result. -/
def forAll (items : List α) (check : α → Except ε Unit) : Except ε Unit :=
  match items with
  | [] => .ok ()
  | item :: rest => do check item; forAll rest check

def validateTrajectory (positionM : Option (Vector3 F))
    (trajectory : TimeParameterizedTrajectory F) : Except (Raised F) Unit := do
  demand (!lt policy.maxMissionDurationS trajectory.durationS)
    .invalidCommand "trajectory duration exceeds mission policy"
  match positionM, trajectory.points with
  | none, _ => .error (.error .localizationInvalid
      "absolute trajectory requires a current position observation")
  | some _, [] => .error (.other "IndexError" "tuple index out of range")
  | some position, first :: _ => do
    let startError := distance first.positionM position
    require (!lt (max (ofRat 0.15) (trajectory.completionPositionToleranceM * ofRat 2)) startError)
      (.fault (.crazySwarm .localizationInvalid
        "accepted trajectory start does not match the observed vehicle position"
        (.entries [("start_error_m", .number startError)])))
    forAll trajectory.points policy.validatePoint
    forAll trajectory.segments fun (previous, current) =>
      forAll (List.range' 1 19) (policy.validateSample previous current)

end SafetyPolicy

section Preflight

inductive Observed (F : Type) where
  | text (value : String)
  | number (value : F)
  | unavailable
  deriving DecidableEq, Repr

structure PreflightCheck (F : Type) where
  code : String
  passed : Bool
  message : String
  observed : Observed F := .unavailable
  required : Observed F := .unavailable
  deriving DecidableEq, Repr

def Observed.ofOption : Option F → Observed F
  | some value => .number value
  | none => .unavailable

/-- `_transport_quality`. -/
def transportQuality (data : VehicleTelemetry F) : Option F :=
  match data.linkQualityPercent with
  | some quality => some quality
  | none => data.transport.bind TransportReading.deliveryQualityPercent

def joinedValues (capabilities : List VehicleCapability) : String :=
  ",".intercalate (Sorting.sortBy id (capabilities.map VehicleCapability.value))

/-- Whether the mode gives commands to a vehicle of this authority; `authorized` says whether
a live authorization is stored for it. -/
def commandAuthority (authority : AuthorityClass) (mode : OperatingMode) (authorized : Bool) :
    Bool :=
  (authority == .simulation && mode == .sim) ||
    (authority == .physical && mode.real && authorized)

structure PreflightObservation (F : Type) where
  vehicle : Vehicle
  state : VehicleState
  telemetry : TelemetryEnvelope F
  requiredCapabilities : List VehicleCapability
  allowSimulationLowBattery : Bool
  mode : OperatingMode
  authorized : Bool

def preflightChecks (policy : SafetyPolicy F) (o : PreflightObservation F) :
    List (PreflightCheck F) :=
  let data := o.telemetry.telemetry
  let battery := policy.minimumTakeoffBatteryPercent
  let low := data.batteryPercent.any (lt · battery)
  let positioningRequired := o.requiredCapabilities.any fun capability =>
    capability ∈ [.relativePositioning, .globalPositioning]
  [{ code := "IDENTITY"
     passed := o.telemetry.vehicleId == o.vehicle.identity.vehicleId
     message := "telemetry identity matches selected vehicle"
     observed := .text o.telemetry.vehicleId
     required := .text o.vehicle.identity.vehicleId },
   { code := "STATE_READY"
     passed := o.state == .ready
     message := "vehicle is connected and ready"
     observed := .text o.state.value
     required := .text VehicleState.ready.value },
   { code := "CAPABILITIES"
     passed := o.requiredCapabilities.all (· ∈ o.vehicle.features)
     message := "required capabilities are present"
     observed := .text (joinedValues o.vehicle.features)
     required := .text (joinedValues o.requiredCapabilities) },
   { code := "BATTERY"
     passed := data.batteryPercent.any fun percent =>
       le battery percent || o.allowSimulationLowBattery
     message := if o.allowSimulationLowBattery && low then
       "confirmed Fast Sim low-battery risk override" else "battery meets takeoff policy"
     observed := .ofOption data.batteryPercent
     required := .number battery },
   { code := "COMMAND_TRANSPORT"
     passed := (transportQuality data).any (le policy.minimumLinkQualityPercent ·)
     message := "command transport quality meets policy"
     observed := .ofOption (transportQuality data)
     required := .number policy.minimumLinkQualityPercent },
   { code := "GEOFENCE"
     passed := data.positionM.any policy.flightVolume.contains
     message := "estimated position is inside configured flight volume" },
   { code := "NO_CRITICAL_FAULT"
     passed := "CRITICAL_BATTERY" ∉ data.faults || o.allowSimulationLowBattery
     message := if o.allowSimulationLowBattery && "CRITICAL_BATTERY" ∈ data.faults then
       "confirmed Fast Sim low-battery fault override" else "no critical fault is active" },
   { code := "LOCALIZATION"
     passed := !positioningRequired || data.localizationQualityPercent.any
       (le policy.minimumLocalizationQualityPercent ·)
     message := "localization meets required capability policy"
     observed := .ofOption data.localizationQualityPercent
     required := .number
       (if positioningRequired then policy.minimumLocalizationQualityPercent else zero) }] ++
  (if positioningRequired then
    [{ code := "POSITIONING_SENSORS"
       passed := data.imu && data.flow
       message := "IMU and Flow observations are available" }] else []) ++
  (if .rangeSensing ∈ o.requiredCapabilities then
    [{ code := "RANGE_SENSORS"
       passed := data.ranges
       message := "canonical range observations are available" }] else []) ++
  [{ code := "COMMAND_AUTHORITY"
     passed := commandAuthority o.vehicle.backendProfile.authority o.mode o.authorized
     message := "selected mode has command authority for this vehicle"
     observed := .text o.mode.value }]

def preflightApproved (policy : SafetyPolicy F) (o : PreflightObservation F) : Bool :=
  (preflightChecks policy o).all PreflightCheck.passed

end Preflight

section Health

inductive RecoveryAction where
  | none | rejectNewCommands | abortAndLand | emergencyStop
  deriving DecidableEq, Repr

def RecoveryAction.order : RecoveryAction → Nat
  | none => 0
  | rejectNewCommands => 1
  | abortAndLand => 2
  | emergencyStop => 3

structure HealthIssue where
  code : String
  message : String
  action : RecoveryAction
  deriving DecidableEq, Repr

structure HealthAssessment where
  vehicleId : String
  healthy : Bool
  action : RecoveryAction
  issues : List HealthIssue
  deriving DecidableEq, Repr

/-- `_highest_action`: the first of the most severe actions. -/
def highestAction (issues : List HealthIssue) : RecoveryAction :=
  issues.foldl (fun highest issue =>
    if highest.order < issue.action.order then issue.action else highest) .none

/-- What one health evaluation looks at. -/
structure HealthObservation (F : Type) where
  vehicleId : String
  state : VehicleState
  received : Option (TelemetryEnvelope F × F)
  now : F
  lowBatteryOverride : Bool

def batteryIssue (policy : SafetyPolicy F) (o : HealthObservation F) (action : RecoveryAction) :
    Option F → List HealthIssue
  | none => [⟨"BATTERY_UNAVAILABLE", "battery observation is unavailable", action⟩]
  | some percent =>
    if le percent policy.criticalBatteryPercent && !o.lowBatteryOverride then
      [⟨"CRITICAL_BATTERY", "battery is critical", action⟩] else []

def transportIssue (policy : SafetyPolicy F) (action : RecoveryAction) :
    Option F → List HealthIssue
  | none => [⟨"TRANSPORT_QUALITY_UNAVAILABLE",
      "command transport quality does not meet policy", action⟩]
  | some quality =>
    if lt quality policy.minimumLinkQualityPercent then
      [⟨"TRANSPORT_QUALITY_LOW", "command transport quality does not meet policy", action⟩]
    else []

def issueIf (condition : Bool) (code message : String) (action : RecoveryAction) :
    List HealthIssue :=
  if condition then [⟨code, message, action⟩] else []

omit [PyMath F] in
@[simp] theorem issueIf_eq_nil {condition : Bool} {code message : String} {action : RecoveryAction} :
    issueIf condition code message action = [] ↔ condition = false := by
  cases condition <;> simp [issueIf]

/-- The message of a stale observation carries its age to the millisecond; only the text
around it is kept here. -/
def healthIssues (policy : SafetyPolicy F) (o : HealthObservation F) : List HealthIssue :=
  let airborne := o.state.airborne
  let action := if airborne then RecoveryAction.abortAndLand else .rejectNewCommands
  match o.received with
  | none => [⟨"NO_TELEMETRY", "no telemetry has been received", action⟩]
  | some (envelope, receivedAt) =>
    let telemetry := envelope.telemetry
    issueIf (lt policy.telemetryTimeoutS (o.now - receivedAt))
      "TELEMETRY_STALE" "telemetry is stale" action ++
    issueIf (telemetry.state == .disconnected && airborne)
      "LINK_LOST" "vehicle disconnected while airborne" .emergencyStop ++
    batteryIssue policy o action telemetry.batteryPercent ++
    transportIssue policy action (transportQuality telemetry) ++
    issueIf (telemetry.localizationQualityPercent.all
        (lt · policy.minimumLocalizationQualityPercent))
      "LOCALIZATION_INVALID" "localization quality is below policy" action ++
    issueIf (!telemetry.positionM.any policy.flightVolume.contains)
      "GEOFENCE_BREACH" "estimated position is outside policy volume" action ++
    issueIf (airborne && !(telemetry.imu && telemetry.flow))
      "REQUIRED_SENSOR_UNAVAILABLE"
      "IMU/Flow data required by the active profile is unavailable" .emergencyStop

def assessHealth (policy : SafetyPolicy F) (o : HealthObservation F) : HealthAssessment :=
  let issues := healthIssues policy o
  ⟨o.vehicleId, issues.isEmpty, highestAction issues, issues⟩

end Health

end CrazySwarm
