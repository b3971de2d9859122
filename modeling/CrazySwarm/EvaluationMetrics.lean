import CrazySwarm.EvaluationEvidence

/-! The metrics of one vehicle in a mission execution: what its telemetry, its commands and their
acknowledgements, and the result of its mission say, against the plan that was accepted. -/
namespace CrazySwarm.Evaluation
open PyFloat PyMath
open PyData (field)

section Measures
variable {F : Type} [PyBuiltins F]

/-- `_STOP_SPEED_M_S`. -/
def stopSpeedMS : F := ofRat 0.02

/-- `_PAIRING_TOLERANCE_S`. -/
def pairingToleranceS : F := ofRat 0.25

def norm (value : Vector3 F) : F := value.length

def distance (first second : Vector3 F) : F :=
  sqrt (pow (first.x - second.x) 2 + pow (first.y - second.y) 2 + pow (first.z - second.z) 2)

def optionalDistance (first second : Option (Vector3 F)) : Option F := do
  return distance (← first) (← second)

/-- `min(values, default=None)`. -/
def minimum? : List F → Option F
  | [] => none
  | value :: rest => some (rest.foldl PyFloat.min value)

def maximum? : List F → Option F
  | [] => none
  | value :: rest => some (rest.foldl PyFloat.max value)

def sum (values : List F) : F := values.foldl (· + ·) zero

/-- `_rms`. -/
def rms (values : List F) : Option F :=
  if values.isEmpty then none
  else some (sqrt (sum (values.map fun value => value * value) / ofRat values.length))

/-- `_last_present`. -/
def lastPresent {α : Type} (values : List (Option α)) : Option α := (values.filterMap id).getLast?

/-- `_nonnegative`. -/
def nonnegative (value : Option F) : Option F := value.map (PyFloat.max zero)

/-- `_path_length`. -/
def pathLength (values : List (Option (Vector3 F))) : Option F :=
  let present := values.filterMap id
  if present.isEmpty then none
  else some (sum ((present.zip present.tail).map fun (first, second) => distance first second))

/-- `_boundary_margin`. -/
def boundaryMargin (minimum maximum position : Vector3 F) : F :=
  [maximum.x - position.x, position.y - minimum.y, maximum.y - position.y, position.z - minimum.z,
    maximum.z - position.z].foldl PyFloat.min (position.x - minimum.x)

/-- `_derivatives`. -/
def derivatives (values : List (Option F)) (times : List F) : List F :=
  ((values.zip values.tail).zip (times.zip times.tail)).map
    fun ((previous, current), previousTime, currentTime) =>
      let delta := currentTime - previousTime
      match previous, current with
      | some previous, some current =>
        if lt zero delta then PyFloat.abs (current - previous) / delta else zero
      | _, _ => zero

/-- `_percentile`. -/
def percentile (values : List F) (quantile : F) : F :=
  let ordered := values.insertionSort fun a b => lt b a = false
  let position := ofRat (values.length - 1) * quantile
  let lower := PyBuiltins.floor position
  let upper := PyBuiltins.ceil position
  let item (index : Int) := (ordered[index.toNat]?).getD zero
  if lower = upper then item lower
  else
    let weight := position - ofRat lower
    item lower * (ofRat 1 - weight) + item upper * weight

/-- The places of the first and of the last speed above the stop speed, if there are two. -/
def movingSpan (speeds : List (Option F)) : Option (Nat × Nat) :=
  let moving := speeds.zipIdx.filterMap fun (speed, index) =>
    if speed.any (lt stopSpeedMS ·) then some index else none
  match moving with
  | first :: second :: rest => some (first, (second :: rest).getLast (by simp))
  | _ => none

def isStopped (speed : Option F) : Bool := speed.any (le · stopSpeedMS)

/-- The number of stops that begin. -/
def countStops : Bool → List (Option F) → Nat
  | _, [] => 0
  | stopped, speed :: rest =>
    (if isStopped speed && !stopped then 1 else 0) + countStops (isStopped speed) rest

/-- `_unintended_stops`. -/
def unintendedStops (speeds : List (Option F)) : Nat :=
  match movingSpan speeds with
  | none => 0
  | some (first, last) => countStops false ((speeds.take last).drop (first + 1))

/-- The number of stops that end after they have lasted long enough. -/
def countLastingStops (persistenceS : F) : Option F → List (Option F × F) → Nat
  | _, [] => 0
  | started, (speed, time) :: rest =>
    match isStopped speed, started with
    | true, none => countLastingStops persistenceS (some time) rest
    | true, some started => countLastingStops persistenceS (some started) rest
    | false, none => countLastingStops persistenceS none rest
    | false, some started =>
      (if le persistenceS (time - started) then 1 else 0) + countLastingStops persistenceS none rest

/-- `_unintended_stops_timed`, with the defaults of its threshold and its persistence. -/
def unintendedStopsTimed (speeds : List (Option F)) (times : List F) : Nat :=
  match movingSpan speeds with
  | none => 0
  | some (first, last) =>
    countLastingStops (ofRat 0.20) none (((speeds.zip times).take (last + 1)).drop (first + 1))

end Measures

section Plans
variable {F : Type} [PyBuiltins F]

/-- `_roles_for_vehicle`. -/
def rolesForVehicle (vehicleId : String) (assignments : List (String × String)) : List String :=
  (assignments.filter (·.2 = vehicleId)).map (·.1)

/-- `_vehicle_plan`: the target and the planned duration of the first role of the vehicle. -/
def vehiclePlan (vehicleId : String) (plan : PyMapping F) (assignments : List (String × String)) :
    Option (Vector3 F) × Option F :=
  let roles := ((plan.get "roles").asList.getD []).map (·.asMapping)
  let own := roles.find? fun item =>
    let assigned := (Dict.lookup (textField item "role_id") assignments).getD ""
    (item.getD "vehicle_id" (.text assigned)).str = vehicleId
  match own with
  | none => (none, none)
  | some item =>
    let waypoint := ((item.get "waypoints").asList.getD []).getLast?
    (waypoint.bind fun last => vector (last.asMapping.get "end_m"),
      (item.get "planned_duration_s").asNumber)

/-- `_plan_boundaries`. -/
def planBoundaries (plan : PyMapping F) : Option (Vector3 F × Vector3 F) := do
  let safety := field plan "safety"
  let minimum ← vector (safety.get "flight_volume_minimum_m")
  let maximum ← vector (safety.get "flight_volume_maximum_m")
  return (minimum, maximum)

def profileAudit (vehicleId : String) (plan : PyMapping F) (assignments : List (String × String)) :
    Except DataError (PyMapping F) := do
  let audits := mappings (← (plan.getD "profile_audits" (.tuple [])).iterate)
  return (audits.find? fun item =>
    (vehicleId :: rolesForVehicle vehicleId assignments).contains (textField item "role_id")).getD []

end Plans

section Trajectories
variable {F : Type} [PyBuiltins F]

/-- `_telemetry_events`. -/
def telemetryEvents (events : List (RecordedEvent F)) : List (RecordedEvent F × RecordedEnvelope F) :=
  events.filterMap fun event =>
    match event.payload with
    | .telemetry envelope => some (event, envelope)
    | _ => none

def trajectoryCommands :
    List (RecordedEvent F) → List (String × ExecuteTrajectoryCommand F × List (RecordedEvent F))
  | [] => []
  | event :: rest =>
    match event.payload with
    | .command commandId (.executeTrajectory command) =>
      (commandId, command, rest) :: trajectoryCommands rest
    | _ => trajectoryCommands rest

/-- What a trajectory command may refer to. -/
structure AcceptedAuthority (F : Type) where
  planId : String
  planSha256 : String
  programs : Dict String (PyMapping F)
  campaignTrajectories : List String
  resultPrograms : List String
  replacements : List ReplacementAuthority

def acceptedAuthority (events : List (RecordedEvent F)) (plan : PyMapping F)
    (acceptedPlanSha256 : String) (replacements : List ReplacementAuthority) :
    Except DataError (AcceptedAuthority F) := do
  let programs := mappings (← (plan.getD "execution_programs" (.list [])).iterate)
  let trajectories ← (plan.getD "campaign_trajectory_sha256s" (.tuple [])).iterate
  return {
    planId := textField plan "plan_id"
    planSha256 := acceptedPlanSha256
    programs := byField programs "program_id"
    campaignTrajectories := (trajectories.filter (·.truthy)).map (·.str)
    resultPrograms := events.filterMap fun event =>
      match event.payload with
      | .missionResult sha256 _ => sha256.filter (· ≠ "")
      | _ => none
    replacements }

variable (canonicalSha256 : PyData F → Except DataError String)

def programMatches (command : ExecuteTrajectoryCommand F) (program : PyMapping F) :
    Except DataError Bool := do
  if (← canonicalSha256 (.mapping program)) ≠ command.executionProgramSha256 then return false
  let operations := mappings (← (program.getD "operations" (.list [])).iterate)
  return (operations.map (textField · "trajectory_sha256")).contains command.trajectorySha256

/-- The command refers to the plan that was accepted, or to a replacement that was. -/
def commandResolves (authority : AcceptedAuthority F) (command : ExecuteTrajectoryCommand F) :
    Except DataError Bool := do
  let matched ←
    if authority.programs.values.isEmpty then
      pure (authority.campaignTrajectories.contains command.trajectorySha256 &&
        authority.resultPrograms.contains command.executionProgramSha256)
    else authority.programs.values.anyM (programMatches canonicalSha256 command)
  let original := command.acceptedPlanId = authority.planId &&
    command.acceptedPlanSha256 = authority.planSha256 && matched
  let replacement := authority.replacements.contains
    ⟨command.acceptedPlanId, command.acceptedPlanSha256, command.trajectorySha256,
      command.executionProgramSha256⟩
  return original || replacement

/-- The stops that the trajectory itself makes between its ends, undeclared. -/
def generatedStops (command : ExecuteTrajectoryCommand F) : Nat :=
  (command.trajectory.points.tail.dropLast).countP fun point =>
    !command.trajectory.declaredStopSequences.contains point.sequence &&
      le (norm point.velocityMS) stopSpeedMS

def isAcknowledgementOf (commandId : String) (event : RecordedEvent F) : Bool :=
  match event.payload with
  | .acknowledgement other => other = commandId
  | _ => false

def commandSamples (commandId : String) (later : List (RecordedEvent F)) :
    List (RecordedEnvelope F) :=
  (telemetryEvents (later.takeWhile fun event => !isAcknowledgementOf commandId event)).map (·.2)

structure SampleErrors (F : Type) where
  tracking : List F := []
  speed : List F := []
  steadySpeeds : List F := []
  steadyTracking : List F := []

def sampleErrors (trajectory : TimeParameterizedTrajectory F) (sourceStartS : F)
    (envelope : RecordedEnvelope F) : SampleErrors F :=
  match envelope.telemetry.groundTruthPositionM.or envelope.telemetry.positionM,
      sampleTrajectory trajectory (envelope.sourceTimestampS - sourceStartS) with
  | some actual, some desired =>
    let tracking := [distance actual desired.positionM]
    match envelope.telemetry.velocityMS with
    | none => { tracking }
    | some actualVelocity =>
      let actualSpeed := norm actualVelocity
      let desiredSpeed := norm desired.velocityMS
      let error := PyFloat.abs (actualSpeed - desiredSpeed)
      if lt stopSpeedMS desiredSpeed && le (norm desired.accelerationMS2) (ofRat 1e-6) then
        { tracking, speed := [error], steadySpeeds := [actualSpeed], steadyTracking := [error] }
      else { tracking, speed := [error] }
  | _, _ => {}

structure TrajectoryMetrics (F : Type) where
  commandCount : Nat := 0
  identityMatch : Option Bool := none
  sha256s : List String := []
  generatedStops : Nat := 0
  trackingErrors : List F := []
  speedErrors : List F := []
  routeUnintendedStops : Nat := 0
  steadySpeeds : List F := []
  steadyTrackingErrors : List F := []

def selectedMetrics (authority : AcceptedAuthority F)
    (selected : List (String × ExecuteTrajectoryCommand F × List (RecordedEvent F))) :
    Except DataError (TrajectoryMetrics F) := do
  let resolved ← selected.mapM fun (_, command, _) => commandResolves canonicalSha256 authority command
  let sampled := selected.map fun (commandId, command, later) =>
    (command, commandSamples commandId later)
  let errors := sampled.flatMap fun (command, samples) =>
    match samples with
    | [] => []
    | first :: _ => samples.map (sampleErrors command.trajectory first.sourceTimestampS)
  return {
    commandCount := selected.length
    identityMatch := some (resolved.all id)
    sha256s := Sorting.sortBy id (selected.map (·.2.1.trajectorySha256)).dedup
    generatedStops := (selected.map fun (_, command, _) => generatedStops command).sum
    trackingErrors := errors.flatMap (·.tracking)
    speedErrors := errors.flatMap (·.speed)
    routeUnintendedStops := (sampled.map fun (_, samples) =>
      unintendedStopsTimed (samples.map fun sample => sample.telemetry.velocityMS.map norm)
        (samples.map (·.sourceTimestampS))).sum
    steadySpeeds := errors.flatMap (·.steadySpeeds)
    steadyTrackingErrors := errors.flatMap (·.steadyTracking) }

/-- `_trajectory_metrics`. -/
def trajectoryMetrics (events : List (RecordedEvent F)) (plan : PyMapping F)
    (acceptedPlanSha256 : String) (replacements : List ReplacementAuthority) :
    Except DataError (TrajectoryMetrics F) :=
  match trajectoryCommands events with
  | [] => .ok {}
  | selected => do
    let authority ← acceptedAuthority events plan acceptedPlanSha256 replacements
    selectedMetrics canonicalSha256 authority selected

end Trajectories

end CrazySwarm.Evaluation
