import CrazySwarm.EvaluationMetrics

/-! The evaluation of a mission execution: the metrics of its vehicles and of the fleet, the
completeness of the evidence, the operator's summary and the report over all of them. -/
namespace CrazySwarm.Evaluation
open PyFloat PyMath
open PyData (field)

section GoalCaptures
variable {F : Type} [PyBuiltins F]

structure GoalCaptureMetrics (F : Type) where
  landingGoalId : Option String := none
  attemptCount : Option Int := none
  descentAuthorized : Option Bool := none
  terminalMarginM : Option F := none
  terminalContact : Option String := none
  targetCenterErrorM : Option F := none
  preContactVerticalSpeedMS : Option F := none
  postContactSettlingS : Option F := none
  motorsCutAfterContact : Option Bool := none

/-- `str(items[key]) if items.get(key) else None`. -/
def presentText (items : PyMapping F) (key : String) : Option String :=
  if (items.get key).truthy then some (items.get key).str else none

/-- `_goal_capture_metrics`. -/
def goalCaptureMetrics (events : List (RecordedEvent F)) : GoalCaptureMetrics F :=
  let results := events.filterMap fun event =>
    match event.payload with
    | .missionResult _ goalCaptures => some goalCaptures
    | _ => none
  match results.getLast?.bind (·.getLast?) with
  | none => {}
  | some capture =>
    let goal := field capture "goal"
    let target := vector (goal.get "landing_target_m")
    let terminal := vector ((capture.get "terminal_truth_position_m").or
      (capture.get "terminal_estimated_position_m"))
    let margin := do
      let target ← target
      let terminal ← terminal
      let horizontal ← (goal.get "horizontal_tolerance_m").asNumber
      let vertical ← (goal.get "vertical_tolerance_m").asNumber
      return PyFloat.min (horizontal - hypot (terminal.x - target.x) (terminal.y - target.y))
        (vertical - PyFloat.abs (terminal.z - target.z))
    { landingGoalId := presentText goal "goal_id"
      attemptCount := (capture.get "attempt_count").asInt
      descentAuthorized := (capture.get "descent_authorized").asBool
      terminalMarginM := margin
      terminalContact := presentText capture "terminal_contact"
      targetCenterErrorM := (capture.get "target_center_horizontal_error_m").asNumber
      preContactVerticalSpeedMS := (capture.get "pre_contact_vertical_speed_m_s").asNumber
      postContactSettlingS := (capture.get "post_contact_settling_s").asNumber
      motorsCutAfterContact := (capture.get "motors_cut_after_contact").asBool }

end GoalCaptures

section Vehicles
variable {F : Type} [PyBuiltins F]

structure VehicleExecutionMetrics (F : Type) where
  vehicleId : String
  runIds : List String
  telemetrySampleCount : Nat
  commandCount : Nat
  acknowledgementCount : Nat
  elapsedS : Option F
  estimatePathLengthM : Option F
  truthPathLengthM : Option F
  estimateTargetErrorM : Option F
  truthTargetErrorM : Option F
  trackingRmsErrorM : Option F
  trackingMaxErrorM : Option F
  finalSpeedMS : Option F
  peakSpeedMS : Option F
  peakAccelerationMS2 : Option F
  peakJerkMS3 : Option F
  unintendedStopCount : Nat
  declaredHoldCount : Nat
  declaredHoldDurationS : F
  batteryUsedPercent : Option F
  minimumBoundaryMarginM : Option F
  plannedDurationS : Option F
  executionDurationDeltaS : Option F
  terminalState : Option String
  inheritedFaults : List String
  newFaults : List String
  trajectoryCommandCount : Nat
  acceptedPlanIdentityMatch : Option Bool
  acceptedTrajectorySha256s : List String
  trajectoryGenerationUnintendedStopCount : Nat
  trajectoryTrackingRmsErrorM : Option F
  trajectoryTrackingMaxErrorM : Option F
  trajectorySpeedRmsErrorMS : Option F
  trajectorySpeedMaxErrorMS : Option F
  profileSubmissionId : Option String
  profileKind : Option String
  plannedProfileConformancePassed : Option Bool
  plannedProfileMaximumFractionalError : Option F
  profileSteadySpeedMeanMS : Option F
  profileSteadySpeedP05MS : Option F
  profileSteadySpeedP95MS : Option F
  profileSteadySpeedRippleMS : Option F
  profileSteadySpeedTrackingRmsErrorMS : Option F
  profileSteadySpeedTrackingMaxErrorMS : Option F
  peakRequestedMotorThrustN : Option F
  peakAppliedPwmPercent : Option F
  minimumMotorThrustHeadroomN : Option F
  motorSaturationSampleCount : Nat
  peakBatteryCurrentA : Option F
  goalCapture : GoalCaptureMetrics F

/-- The metrics that no field lets fall below zero. -/
def VehicleExecutionMetrics.nonnegativeFields (metrics : VehicleExecutionMetrics F) :
    List (String × Option F) :=
  [("elapsed_s", metrics.elapsedS),
   ("estimate_path_length_m", metrics.estimatePathLengthM),
   ("truth_path_length_m", metrics.truthPathLengthM),
   ("estimate_target_error_m", metrics.estimateTargetErrorM),
   ("truth_target_error_m", metrics.truthTargetErrorM),
   ("tracking_rms_error_m", metrics.trackingRmsErrorM),
   ("tracking_max_error_m", metrics.trackingMaxErrorM),
   ("final_speed_m_s", metrics.finalSpeedMS),
   ("peak_speed_m_s", metrics.peakSpeedMS),
   ("peak_acceleration_m_s2", metrics.peakAccelerationMS2),
   ("peak_jerk_m_s3", metrics.peakJerkMS3),
   ("declared_hold_duration_s", some metrics.declaredHoldDurationS),
   ("battery_used_percent", metrics.batteryUsedPercent),
   ("planned_duration_s", metrics.plannedDurationS),
   ("trajectory_tracking_rms_error_m", metrics.trajectoryTrackingRmsErrorM),
   ("trajectory_tracking_max_error_m", metrics.trajectoryTrackingMaxErrorM),
   ("trajectory_speed_rms_error_m_s", metrics.trajectorySpeedRmsErrorMS),
   ("trajectory_speed_max_error_m_s", metrics.trajectorySpeedMaxErrorMS),
   ("planned_profile_maximum_fractional_error", metrics.plannedProfileMaximumFractionalError),
   ("profile_steady_speed_mean_m_s", metrics.profileSteadySpeedMeanMS),
   ("profile_steady_speed_p05_m_s", metrics.profileSteadySpeedP05MS),
   ("profile_steady_speed_p95_m_s", metrics.profileSteadySpeedP95MS),
   ("profile_steady_speed_ripple_m_s", metrics.profileSteadySpeedRippleMS),
   ("profile_steady_speed_tracking_rms_error_m_s", metrics.profileSteadySpeedTrackingRmsErrorMS),
   ("profile_steady_speed_tracking_max_error_m_s", metrics.profileSteadySpeedTrackingMaxErrorMS),
   ("peak_requested_motor_thrust_n", metrics.peakRequestedMotorThrustN),
   ("peak_applied_pwm_percent", metrics.peakAppliedPwmPercent),
   ("minimum_motor_thrust_headroom_n", metrics.minimumMotorThrustHeadroomN),
   ("peak_battery_current_a", metrics.peakBatteryCurrentA),
   ("touchdown_target_center_error_m", metrics.goalCapture.targetCenterErrorM),
   ("pre_contact_vertical_speed_m_s", metrics.goalCapture.preContactVerticalSpeedMS),
   ("post_contact_settling_s", metrics.goalCapture.postContactSettlingS)]

/-- Construct a contract model whose named field checks must all pass. -/
def checkedModel {α : Type} (model : String) (checks : List (String × Bool)) (value : α) :
    Except DataError α :=
  if checks.all (·.2) then .ok value
  else .error (.validation model ((checks.filter (!·.2)).map (·.1)))

def VehicleExecutionMetrics.fieldChecks (metrics : VehicleExecutionMetrics F) :
    List (String × Bool) :=
  [("vehicle_id", isIdentifier metrics.vehicleId),
   ("run_ids", metrics.runIds.all isIdentifier),
   ("accepted_trajectory_sha256s", metrics.acceptedTrajectorySha256s.all isSha256),
   ("profile_submission_id", metrics.profileSubmissionId.all isIdentifier),
   ("peak_applied_pwm_percent", metrics.peakAppliedPwmPercent.all (atMost · (ofRat 100))),
   ("landing_goal_id", metrics.goalCapture.landingGoalId.all isIdentifier),
   ("goal_capture_attempt_count", metrics.goalCapture.attemptCount.all (1 ≤ ·))] ++
  metrics.nonnegativeFields.map fun (name, value) => (name, value.all (ge · zero))

def motorReadings (samples : List (RecordedTelemetry F)) : List (MotorReading F) :=
  (samples.flatMap fun sample => sample.motors.getD []).filter fun reading =>
    lt zero reading.thrustN || reading.requestedThrustN.any (lt zero ·)

def holdDurations (events : List (RecordedEvent F)) : List F :=
  events.filterMap fun event =>
    match event.payload with
    | .command _ (.hover durationS) => some durationS
    | .command _ .stopAndHold => some zero
    | _ => none

def faultSets (samples : List (RecordedTelemetry F)) (reported : List String) :
    List String × List String :=
  let inherited := ((samples.head?.map (·.faults)).getD []).dedup
  let later := (samples.tail.flatMap (·.faults) ++ reported).dedup
  (Sorting.sortBy id inherited, Sorting.sortBy id (later.filter (!inherited.contains ·)))

/-- What `_vehicle_metrics` reads beside the events. -/
structure EvaluationPlan (F : Type) where
  plan : PyMapping F
  assignments : List (String × String)
  acceptedPlanSha256 : String
  replacementAuthorities : List ReplacementAuthority

/-- `_vehicle_metrics`. -/
def vehicleMetrics (canonicalSha256 : PyData F → Except DataError String)
    (accepted : EvaluationPlan F) (vehicleId : String) (runIds : List String)
    (events : List (RecordedEvent F)) : Except DataError (VehicleExecutionMetrics F) := do
  let envelopes := (telemetryEvents events).map (·.2)
  let samples := envelopes.map (·.telemetry)
  -- dynamics live on the source clock
  let times := envelopes.map (·.sourceTimestampS)
  let estimates := samples.map (·.positionM)
  let truths := samples.map (·.groundTruthPositionM)
  let speeds := samples.map fun sample => sample.velocityMS.map norm
  let (target, plannedDuration) := vehiclePlan vehicleId accepted.plan accepted.assignments
  let trackingErrors := (estimates.zip truths).filterMap fun (estimate, truth) =>
    optionalDistance estimate truth
  let reported := events.filterMap fun event =>
    match event.payload with
    | .fault code => some code
    | _ => none
  let (inheritedFaults, newFaults) := faultSets samples reported
  let elapsed := match times, times.getLast? with
    | first :: _ :: _, some last => some (last - first)
    | _, _ => none
  let accelerations := derivatives speeds times
  let jerks := if 3 ≤ times.length then derivatives (accelerations.map some) times.tail else []
  let batteries := samples.filterMap (·.batteryPercent)
  let readings := motorReadings samples
  let margins := match planBoundaries accepted.plan with
    | none => []
    | some (minimum, maximum) =>
      (truths.zip estimates).filterMap fun (truth, estimate) =>
        (truth.or estimate).map (boundaryMargin minimum maximum)
  let holds := holdDurations events
  let trajectories ← trajectoryMetrics canonicalSha256 events accepted.plan
    accepted.acceptedPlanSha256 accepted.replacementAuthorities
  let audit ← profileAudit vehicleId accepted.plan accepted.assignments
  let steady := trajectories.steadySpeeds
  let constantPath := textField audit "profile_kind" = "CONSTANT_PATH_SPEED" && !steady.isEmpty
  let low := percentile steady (ofRat 0.05)
  let high := percentile steady (ofRat 0.95)
  let ofProfile (value : F) := if constantPath then some value else none
  let metrics : VehicleExecutionMetrics F :=
    { vehicleId
      runIds
      telemetrySampleCount := samples.length
      commandCount := events.countP (·.payload.isCommand)
      acknowledgementCount := events.countP (·.payload.isAcknowledgement)
      elapsedS := nonnegative elapsed
      estimatePathLengthM := pathLength estimates
      truthPathLengthM := pathLength truths
      estimateTargetErrorM := optionalDistance (lastPresent estimates) target
      truthTargetErrorM := optionalDistance (lastPresent truths) target
      trackingRmsErrorM := rms trackingErrors
      trackingMaxErrorM := maximum? trackingErrors
      finalSpeedMS := lastPresent speeds
      peakSpeedMS := maximum? (speeds.filterMap id)
      peakAccelerationMS2 := maximum? accelerations
      peakJerkMS3 := maximum? jerks
      unintendedStopCount :=
        if trajectories.commandCount = 0 then unintendedStops speeds
        else trajectories.routeUnintendedStops
      declaredHoldCount := holds.length
      declaredHoldDurationS := sum holds
      batteryUsedPercent := match batteries, batteries.getLast? with
        | first :: _, some last => some (PyFloat.max zero (first - last))
        | _, _ => none
      minimumBoundaryMarginM := minimum? margins
      plannedDurationS := plannedDuration
      executionDurationDeltaS := do return (← elapsed) - (← plannedDuration)
      terminalState := samples.getLast?.map (·.state.value)
      inheritedFaults
      newFaults
      trajectoryCommandCount := trajectories.commandCount
      acceptedPlanIdentityMatch := trajectories.identityMatch
      acceptedTrajectorySha256s := trajectories.sha256s
      trajectoryGenerationUnintendedStopCount := trajectories.generatedStops
      trajectoryTrackingRmsErrorM := rms trajectories.trackingErrors
      trajectoryTrackingMaxErrorM := maximum? trajectories.trackingErrors
      trajectorySpeedRmsErrorMS := rms trajectories.speedErrors
      trajectorySpeedMaxErrorMS := maximum? trajectories.speedErrors
      profileSubmissionId := presentText accepted.plan "profile_submission_id"
      profileKind := presentText audit "profile_kind"
      plannedProfileConformancePassed := (audit.get "passed").asBool
      plannedProfileMaximumFractionalError := (audit.get "maximum_fractional_error").asNumber
      profileSteadySpeedMeanMS := ofProfile (sum steady / ofRat steady.length)
      profileSteadySpeedP05MS := ofProfile low
      profileSteadySpeedP95MS := ofProfile high
      profileSteadySpeedRippleMS := ofProfile (high - low)
      profileSteadySpeedTrackingRmsErrorMS :=
        if audit.isEmpty then none else rms trajectories.steadyTrackingErrors
      profileSteadySpeedTrackingMaxErrorMS :=
        if audit.isEmpty then none else maximum? trajectories.steadyTrackingErrors
      peakRequestedMotorThrustN := maximum? (readings.filterMap (·.requestedThrustN))
      peakAppliedPwmPercent := maximum? (readings.filterMap (·.appliedPwmPercent))
      minimumMotorThrustHeadroomN := minimum? (readings.filterMap fun reading =>
        reading.availableThrustN.map fun available => PyFloat.max zero (available - reading.thrustN))
      motorSaturationSampleCount := samples.countP fun sample =>
        sample.motors.any fun readings => readings.any (·.saturated)
      peakBatteryCurrentA := maximum? (samples.filterMap (·.batteryCurrentA))
      goalCapture := goalCaptureMetrics events }
  checkedModel "VehicleExecutionMetrics" metrics.fieldChecks metrics

end Vehicles

section Fleet
variable {F : Type} [PyBuiltins F]

structure FleetExecutionMetrics (F : Type) where
  vehicleCount : Nat
  elapsedS : Option F
  minimumEstimatedSeparationM : Option F
  minimumTruthSeparationM : Option F
  minimumSeparationPair : Option (String × String)
  warningSampleCount : Nat
  criticalSampleCount : Nat
  warningSeparationM : Option F
  criticalSeparationM : Option F
  predictedMinimumSeparationM : Option F
  planExecutionDurationDeltaS : Option F
  deconflictionPlanSha256 : Option String
  selectedDeconflictionStrategy : Option String
  nominalDeconflictionExecuted : Option Bool

/-- `recorded_at_utc.timestamp()`. -/
def timestamp (event : RecordedEvent F) : F := ofRat (mkRat event.recordedAtUtc 1000000)

/-- Past the samples after which another is at least as near to the time. -/
def nearest (time : F) :
    List (RecordedEvent F × RecordedEnvelope F) → List (RecordedEvent F × RecordedEnvelope F)
  | current :: next :: rest =>
    if le (PyFloat.abs (timestamp next.1 - time)) (PyFloat.abs (timestamp current.1 - time)) then
      nearest time (next :: rest)
    else current :: next :: rest
  | other => other

/-- `_paired_telemetry`. -/
def pairedTelemetry : List (RecordedEvent F × RecordedEnvelope F) →
    List (RecordedEvent F × RecordedEnvelope F) → List (RecordedEnvelope F × RecordedEnvelope F)
  | [], _ => []
  | first :: others, second =>
    let remaining := nearest (timestamp first.1) second
    let paired := remaining.head?.filter fun other =>
      le (PyFloat.abs (timestamp other.1 - timestamp first.1)) pairingToleranceS
    (paired.map fun other => (first.2, other.2)).toList ++ pairedTelemetry others remaining

/-- The separations seen so far. -/
structure SeparationSummary (F : Type) where
  minimumEstimate : Option F := none
  minimumTruth : Option F := none
  minimumPair : Option (String × String) := none
  warningCount : Nat := 0
  criticalCount : Nat := 0

/-- One pair of samples. -/
def SeparationSummary.observe (warning critical : Option F) (summary : SeparationSummary F)
    (seen : (String × String) × RecordedEnvelope F × RecordedEnvelope F) : SeparationSummary F :=
  let (pair, first, second) := seen
  let estimate := optionalDistance first.telemetry.positionM second.telemetry.positionM
  let truth := optionalDistance first.telemetry.groundTruthPositionM
    second.telemetry.groundTruthPositionM
  let observed := truth.or estimate
  let below (value minimum : Option F) : Bool :=
    value.any fun value => minimum.all fun minimum => lt value minimum
  let summary :=
    if below estimate summary.minimumEstimate then
      { summary with
        minimumEstimate := estimate
        minimumPair := if summary.minimumTruth.isNone then some pair else summary.minimumPair }
    else summary
  let summary :=
    if below truth summary.minimumTruth then
      { summary with minimumTruth := truth, minimumPair := some pair }
    else if summary.minimumPair.isNone && observed.isSome then
      { summary with minimumPair := some pair }
    else summary
  let within (threshold : Option F) : Bool :=
    observed.any fun observed => threshold.any fun threshold => lt observed threshold
  if within critical then { summary with criticalCount := summary.criticalCount + 1 }
  else if within warning then { summary with warningCount := summary.warningCount + 1 }
  else summary

/-- `_predicted_minimum_separation`. -/
def predictedMinimumSeparation (plan : PyMapping F) : Option F :=
  let deconfliction := field plan "deconfliction"
  let selected := do
    let candidates ← (deconfliction.get "candidates").asList
    let index ← (deconfliction.get "selected_candidate_index").asInt
    let candidate ← if 0 ≤ index then candidates[index.toNat]? else none
    (candidate.asMapping.get "predicted_minimum_separation_m").asNumber
  let routes := ((field plan "planning").get "route_plans").asList.getD []
  selected.or (minimum? (routes.filterMap fun route =>
    (route.asMapping.get "expected_minimum_separation_m").asNumber))

def FleetExecutionMetrics.fieldChecks (metrics : FleetExecutionMetrics F) : List (String × Bool) :=
  [("vehicle_count", 1 ≤ metrics.vehicleCount),
   ("elapsed_s", metrics.elapsedS.all (ge · zero)),
   ("minimum_estimated_separation_m", metrics.minimumEstimatedSeparationM.all (ge · zero)),
   ("minimum_truth_separation_m", metrics.minimumTruthSeparationM.all (ge · zero)),
   ("minimum_separation_pair", metrics.minimumSeparationPair.all fun (first, second) =>
      isIdentifier first && isIdentifier second),
   ("warning_separation_m", metrics.warningSeparationM.all (gt · zero)),
   ("critical_separation_m", metrics.criticalSeparationM.all (gt · zero)),
   ("predicted_minimum_separation_m", metrics.predictedMinimumSeparationM.all (ge · zero)),
   ("deconfliction_plan_sha256", metrics.deconflictionPlanSha256.all isSha256),
   ("selected_deconfliction_strategy", metrics.selectedDeconflictionStrategy.all isIdentifier)]

def eventsOf (events : List (RecordedEvent F)) (vehicleId : String) : List (RecordedEvent F) :=
  events.filter (·.vehicleId = vehicleId)

def vehiclesSeen (events : List (RecordedEvent F)) : List String :=
  (events.map (·.vehicleId)).dedup

/-- `combinations(items, 2)`. -/
def pairs {α : Type} : List α → List (α × α)
  | [] => []
  | item :: rest => rest.map (item, ·) ++ pairs rest

/-- `_fleet_metrics`. -/
def fleetMetrics (events : List (RecordedEvent F)) (plan : PyMapping F)
    (vehicles : List (VehicleExecutionMetrics F)) : Except DataError (FleetExecutionMetrics F) :=
  let warning := ((field plan "safety").get "warning_separation_m").asNumber
  let critical := ((field plan "safety").get "critical_separation_m").asNumber
  let telemetry (vehicleId : String) := telemetryEvents (eventsOf events vehicleId)
  let seen := (pairs (Sorting.sortBy id (vehiclesSeen events))).flatMap fun (first, second) =>
    (pairedTelemetry (telemetry first) (telemetry second)).map ((first, second), ·)
  let summary := seen.foldl (SeparationSummary.observe warning critical) {}
  let elapsed := maximum? (vehicles.filterMap (·.elapsedS))
  let planned := maximum? (vehicles.filterMap (·.plannedDurationS))
  let deconfliction := field plan "deconfliction"
  let identities := vehicles.filterMap (·.acceptedPlanIdentityMatch)
  let metrics : FleetExecutionMetrics F :=
    { vehicleCount := vehicles.length
      elapsedS := elapsed
      minimumEstimatedSeparationM := summary.minimumEstimate
      minimumTruthSeparationM := summary.minimumTruth
      minimumSeparationPair := summary.minimumPair
      warningSampleCount := summary.warningCount
      criticalSampleCount := summary.criticalCount
      warningSeparationM := warning
      criticalSeparationM := critical
      predictedMinimumSeparationM := predictedMinimumSeparation plan
      planExecutionDurationDeltaS := do return (← elapsed) - (← planned)
      deconflictionPlanSha256 := presentText deconfliction "plan_sha256"
      selectedDeconflictionStrategy := presentText deconfliction "selected_strategy"
      nominalDeconflictionExecuted :=
        if (deconfliction.get "status").asText = some "RESOLVED" then
          some (!identities.isEmpty && identities.length = vehicles.length && identities.all id)
        else none }
  checkedModel "FleetExecutionMetrics" metrics.fieldChecks metrics

end Fleet

section Completeness
variable {F : Type} [PyBuiltins F]

inductive EvaluationStatus where
  | complete | incomplete
  deriving DecidableEq, Repr

structure EvidenceCompleteness where
  complete : Bool
  present : List String
  missing : List String
  deriving DecidableEq, Repr

/-- `_run_has_provenance`. -/
def runHasProvenance (run : EvaluatedRun F) : Except DataError Bool :=
  match run.result.or run.snapshot with
  | .absent | .malformed => .ok false
  | .data (.mapping value) =>
    .ok (["configuration_hash", "mission_runtime_id", "vehicle_adapter"].all fun key =>
      (PyMapping.get value key).truthy)
  -- data without a `get`
  | .data _ => .error .attribute

def eachVehicleHas (events : List (RecordedEvent F)) (kind : EvidencePayload F → Bool) : Bool :=
  (vehiclesSeen events).all fun vehicleId =>
    (eventsOf events vehicleId).any fun event => kind event.payload

/-- The checks of `_evidence_completeness`. -/
def evidenceChecks (runs : List (EvaluatedRun F)) (events : List (RecordedEvent F))
    (context : PyMapping F) (vehicleCount : Nat) (vehicles : List (VehicleExecutionMetrics F)) :
    Except DataError (List (String × Bool)) := do
  let dynamicReplanning ← dynamicReplanningEvidenceComplete context
  let provenance ← runs.allM runHasProvenance
  return [
    ("accepted_authority_identity",
      vehicles.all fun vehicle => vehicle.acceptedPlanIdentityMatch ≠ some false),
    ("accepted_plan", !(field context "mission_plan").isEmpty ||
      ["campaign_plan", "campaign_schedule", "campaign_trajectories"].all fun key =>
        !(field context key).isEmpty),
    ("acknowledgements", eachVehicleHas events (·.isAcknowledgement)),
    ("binding", !(field context "binding").isEmpty),
    ("child_results", runs.all (·.result.isPresent)),
    ("commands", eachVehicleHas events (·.isCommand)),
    ("deployment", !(field context "deployment").isEmpty),
    ("dynamic_replanning", dynamicReplanning),
    ("execution_result",
      !((context.get "execution_result").or (context.get "fleet_result")).asMapping.isEmpty),
    ("fleet_events", vehicleCount = 1 || (context.get "fleet_events").truthy),
    ("provenance", provenance),
    ("telemetry", eachVehicleHas events (·.isTelemetry)),
    ("terminal_runs", runs.all (·.status.isSome))]

/-- `_evidence_completeness`. -/
def evidenceCompleteness (checks : List (String × Bool)) : EvidenceCompleteness :=
  let missing := Sorting.sortBy id ((checks.filter (!·.2)).map (·.1))
  { complete := missing.isEmpty
    present := Sorting.sortBy id ((checks.filter (·.2)).map (·.1))
    missing }

end Completeness

section Reports
variable {F : Type} [PyBuiltins F]

def vehicleLine (vehicle : VehicleExecutionMetrics F) : String :=
  let errorText := match vehicle.truthTargetErrorM.or vehicle.estimateTargetErrorM with
    | none => "target error unavailable"
    | some error => "target error " ++ PyBuiltins.format3 error ++ " m"
  let terminal := match vehicle.terminalState with
    | none | some "" => "unknown"
    | some state => state
  vehicle.vehicleId ++ ": " ++ errorText ++ "; " ++ toString vehicle.unintendedStopCount ++
    " unintended stops; terminal " ++ terminal ++ "."

/-- `_operator_summary`. -/
def operatorSummary (evidence : EvidenceCompleteness) (vehicles : List (VehicleExecutionMetrics F))
    (fleet : FleetExecutionMetrics F) : List String :=
  let first :=
    if evidence.complete then "Evidence is complete."
    else "Evidence is incomplete: " ++ String.intercalate ", " evidence.missing ++ "."
  let separation := match fleet.minimumTruthSeparationM.or fleet.minimumEstimatedSeparationM with
    | none => "minimum separation unavailable"
    | some separation => "minimum separation " ++ PyBuiltins.format3 separation ++ " m"
  let last := "Fleet: " ++ separation ++ "; " ++ toString fleet.warningSampleCount ++
    " warning samples; " ++ toString fleet.criticalSampleCount ++ " critical samples."
  first :: vehicles.map vehicleLine ++ if 1 < fleet.vehicleCount then [last] else []

structure EvaluationPayload (F : Type) where
  missionExecutionId : String
  status : EvaluationStatus
  evidence : EvidenceCompleteness
  runIds : List String
  vehicleIds : List String
  vehicles : List (VehicleExecutionMetrics F)
  fleet : FleetExecutionMetrics F
  summary : List String
  annotations : List OperatorAnnotation

structure MissionExecutionEvaluation (F : Type) extends EvaluationPayload F where
  reportSha256 : String

/-- `canonical_sha256`, of untyped data and of the payload of a report. -/
structure CanonicalHash (F : Type) where
  data : PyData F → Except DataError String
  report : EvaluationPayload F → Except DataError String

/-- The key by which events are sorted. -/
def eventOrder (event : RecordedEvent F) : Int ×ₗ String ×ₗ String ×ₗ Nat ×ₗ String :=
  toLex (event.recordedAtUtc, toLex (event.vehicleId, toLex (event.runId,
    toLex (event.sequence, event.eventId))))

def evaluationPlan (hash : CanonicalHash F) (context : PyMapping F) :
    Except DataError (EvaluationPlan F) := do
  let missionPlan := field context "mission_plan"
  let plan ← if missionPlan.isEmpty then campaignEvaluationPlan hash.data context else pure missionPlan
  let executionResult :=
    ((context.get "execution_result").or (context.get "fleet_result")).asMapping
  let acceptedPlanSha256 := (((context.get "mission_plan_sha256").or
    (executionResult.get "mission_plan_sha256")).or
      ((field context "campaign_plan").get "plan_sha256")).or (.text "")
  return {
    plan
    assignments := (field context "assignments").map fun (roleId, vehicleId) => (roleId, vehicleId.str)
    acceptedPlanSha256 := acceptedPlanSha256.str
    replacementAuthorities := ← replacementCommandAuthorities context }

def runVehicles (runs : List (EvaluatedRun F)) : List String :=
  Sorting.sortBy id (runs.map (·.vehicleId)).dedup

def runIdsOf (runs : List (EvaluatedRun F)) (vehicleId : String) : List String :=
  Sorting.sortBy id ((runs.filter (·.vehicleId = vehicleId)).map (·.runId))

def orderedEvents (events : List (RecordedEvent F)) : List (RecordedEvent F) :=
  Sorting.sortBy eventOrder events

/-- `evaluate_mission_execution`. -/
def evaluateMissionExecution (hash : CanonicalHash F) (missionExecutionId : String)
    (runs : List (EvaluatedRun F)) (events : List (RecordedEvent F)) (context : PyMapping F)
    (annotations : List (PyMapping F)) : Except DataError (MissionExecutionEvaluation F) := do
  require (!runs.isEmpty) (.value "mission execution evaluation requires at least one run")
  let ordered := orderedEvents events
  let accepted ← evaluationPlan hash context
  let vehicleIds := runVehicles runs
  let vehicles ← vehicleIds.mapM fun vehicleId =>
    vehicleMetrics hash.data accepted vehicleId (runIdsOf runs vehicleId) (eventsOf ordered vehicleId)
  let checks ← evidenceChecks runs ordered context vehicleIds.length vehicles
  let evidence := evidenceCompleteness checks
  let parsed ← parsedAnnotations annotations
  let fleet ← fleetMetrics ordered accepted.plan vehicles
  let payload : EvaluationPayload F :=
    { missionExecutionId
      status := if evidence.complete then .complete else .incomplete
      evidence
      runIds := Sorting.sortBy id (runs.map (·.runId))
      vehicleIds
      vehicles
      fleet
      summary := operatorSummary evidence vehicles fleet
      annotations := parsed }
  let reportSha256 ← hash.report payload
  checkedModel "MissionExecutionEvaluation"
    [("mission_execution_id", isIdentifier missionExecutionId),
     ("run_ids", payload.runIds.all isIdentifier),
     ("vehicle_ids", payload.vehicleIds.all isIdentifier),
     ("report_sha256", isSha256 reportSha256)]
    { payload with reportSha256 }

end Reports

end CrazySwarm.Evaluation
