import CrazySwarm.CampaignGeometry
import CrazySwarm.Trajectory

/-! The candidates of the joint planner: timed routes, their cost and their evaluation against
the hard constraints of the case. The trajectory of a route is a parameter here. -/
namespace CrazySwarm
open PyFloat PyMath
open CampaignGeometry (pairwise combinations minimum? maximum? sum lerp droneByRole
  authoredCenterline sortedTexts RouteGeometry)

variable {F : Type} [PyMath F] [PyRound F]

inductive GeometryFamily where
  | direct | lateralSpline | quadraticBezier | arcConflictTube | corridorFollowing
  | verticalLayer
  deriving DecidableEq, Repr

structure RouteStop (F : Type) where
  positionM : Vector3 F
  mode : RouteNodeMode
  dwellS : F
  deriving DecidableEq, Repr

structure CandidateRoute (F : Type) where
  roleId : String
  pointsM : List (Vector3 F)
  routeStartS : F
  routeDurationS : F
  groundWaitS : F
  airborneWaitS : F
  speedFactor : F
  geometryFamily : GeometryFamily := .direct
  declaredStops : List (RouteStop F) := []
  segmentDurationsS : List F := []
  deriving DecidableEq, Repr

inductive ParameterValue (F : Type) where
  | number (value : F)
  | text (value : String)
  | integer (value : Int)
  | boolean (value : Bool)
  deriving DecidableEq, Repr

structure CandidateSeed (F : Type) where
  strategy : PlannerStrategy
  generatorId : String
  parameters : List (String × ParameterValue F)
  routes : List (CandidateRoute F)
  deriving DecidableEq, Repr

structure CandidateCost (F : Type) where
  priorityInversion : Nat
  starvation : Nat
  missionCompletionTimeS : F
  maximumWaitS : F
  totalEnergyPercent : F
  airborneHoverTimeS : F
  pathLengthM : F
  accelerationMS2 : F
  jerkMS3 : F
  negativeSeparationRobustnessM : F
  negativeBoundaryRobustnessM : F
  pathFidelityM : F
  regionCaptureErrorM : F
  integratedSquaredAccelerationM2S3 : F
  integratedSquaredJerkM2S5 : F
  negativeEnergyReservePercent : F
  affectedRoleCount : Nat
  cutoverLatencyS : F
  deriving DecidableEq, Repr

namespace CandidateCost

def value (cost : CandidateCost F) : ObjectiveMetric → F
  | .priorityInversion => ofRat cost.priorityInversion
  | .starvation => ofRat cost.starvation
  | .missionCompletionTimeS => cost.missionCompletionTimeS
  | .maximumWaitS => cost.maximumWaitS
  | .totalEnergyPercent => cost.totalEnergyPercent
  | .airborneHoverTimeS => cost.airborneHoverTimeS
  | .pathLengthM => cost.pathLengthM
  | .accelerationMS2 => cost.accelerationMS2
  | .jerkMS3 => cost.jerkMS3
  | .separationRobustnessM => cost.negativeSeparationRobustnessM
  | .boundaryRobustnessM => cost.negativeBoundaryRobustnessM
  | .pathFidelityM => cost.pathFidelityM
  | .regionCaptureErrorM => cost.regionCaptureErrorM
  | .integratedSquaredAccelerationM2S3 => cost.integratedSquaredAccelerationM2S3
  | .integratedSquaredJerkM2S5 => cost.integratedSquaredJerkM2S5
  | .energyReservePercent => cost.negativeEnergyReservePercent
  | .affectedRoleCount => ofRat cost.affectedRoleCount
  | .cutoverLatencyS => cost.cutoverLatencyS

/-- `vector_for`. -/
def vectorFor (cost : CandidateCost F) (objectiveOrder : List ObjectiveMetric) : List F :=
  objectiveOrder.map cost.value

end CandidateCost

inductive CandidateStatus where
  | feasible | rejected
  deriving DecidableEq, Repr

structure CandidateEvaluation (F : Type) where
  candidateId : String
  strategy : PlannerStrategy
  generatorId : String
  parameters : List (String × ParameterValue F)
  routes : List (CandidateRoute F)
  status : CandidateStatus
  rejectionReasons : List String
  predictedMinimumSeparationM : F
  minimumBoundaryMarginM : Option F
  predictedBatteryEndPercent : List (String × F)
  cost : CandidateCost F
  deriving DecidableEq, Repr

namespace CandidateRoute

/-- What the independent verifier reads of a candidate's route. -/
def geometry (route : CandidateRoute F) : RouteGeometry F :=
  ⟨route.roleId, route.pointsM, route.routeStartS, route.routeDurationS, route.segmentDurationsS⟩

end CandidateRoute

namespace CampaignEvaluation

def defaultTakeoffDurationS : F := ofRat 2.5
def defaultStabilizationS : F := ofRat 0.5
def defaultLandingDurationS : F := ofRat 5
def defaultReservationClearanceS : F := ofRat 0.8

def executionOverheadS : F :=
  defaultTakeoffDurationS + defaultStabilizationS + defaultLandingDurationS

/-- `_distance`. -/
def distance (first second : Vector3 F) : F :=
  sqrt (pow (first.x - second.x) 2 + pow (first.y - second.y) 2 + pow (first.z - second.z) 2)

/-- `path_length_m`. -/
def pathLengthM (route : CandidateRoute F) : F :=
  sum ((pairwise route.pointsM).map fun (first, second) => distance first second)

/-- A number of successive sums. -/
def ticks (start step : F) : Nat → List F
  | 0 => []
  | count + 1 => start :: ticks (start + step) step count

/-- As many steps as lie between the two times, and two more. -/
def stepCount (start limit step : F) : Nat :=
  (PyRound.ceil ((limit - start) / step)).toNat + 2

/-- `while time < limit` and `while time <= limit`, from a start on in steps. -/
def timesBefore (start limit step : F) : List F :=
  (ticks start step (stepCount start limit step)).takeWhile (lt · limit)

def timesUpTo (start limit step : F) : List F :=
  (ticks start step (stepCount start limit step)).takeWhile (le · limit)

def origin : Vector3 F := ⟨zero, zero, zero⟩

def sampledPosition (trajectory : TimeParameterizedTrajectory F) (timeS : F) : Vector3 F :=
  match sampleTrajectory trajectory timeS with
  | some setpoint => setpoint.positionM
  | none => origin

def firstPosition (trajectory : TimeParameterizedTrajectory F) : Vector3 F :=
  (trajectory.points.head?.map TrajectoryPoint.positionM).getD origin

def lastPosition (trajectory : TimeParameterizedTrajectory F) : Vector3 F :=
  (trajectory.points.getLast?.map TrajectoryPoint.positionM).getD origin

/-- `_sample_trajectory_positions`. -/
def sampleTrajectoryPositions (route : CandidateRoute F)
    (trajectory : TimeParameterizedTrajectory F) (stepS : F) : List (Vector3 F) :=
  (timesBefore zero route.routeDurationS stepS).map (sampledPosition trajectory) ++
    [lastPosition trajectory]

/-- `_boundary_margin`. -/
def boundaryMargin (point : Vector3 F) (case : CampaignCase F) : F :=
  let volume := case.hardConstraints.flightVolume
  [volume.maximumM.x - point.x, point.y - volume.minimumM.y, volume.maximumM.y - point.y,
    point.z - volume.minimumM.z, volume.maximumM.z - point.z].foldl PyFloat.min
      (point.x - volume.minimumM.x)

/-- `_is_step_aligned`. -/
def isStepAligned (value stepS : F) : Bool :=
  isClose (value / stepS) (ofRat (PyRound.round (value / stepS))) (ofRat 1e-9)

def jointPosition (route : CandidateRoute F) (trajectory : TimeParameterizedTrajectory F)
    (stepS timestamp : F) : Vector3 F :=
  let samples := sampleTrajectoryPositions route trajectory stepS
  let routeStartS := route.routeStartS + defaultTakeoffDurationS + defaultStabilizationS
  let routeEndS := routeStartS + route.routeDurationS
  if le timestamp routeStartS then firstPosition trajectory
  else if le timestamp routeEndS && isStepAligned routeStartS stepS then
    let sampleIndex := PyRound.round ((timestamp - routeStartS) / stepS)
    (samples[(Min.min sampleIndex (samples.length - 1)).toNat]?).getD origin
  else if le timestamp routeEndS then sampledPosition trajectory (timestamp - routeStartS)
  else lastPosition trajectory

/-- The end of the joint schedule, and a quarter of a step. -/
def jointLimit (flown : List (CandidateRoute F × TimeParameterizedTrajectory F)) (stepS : F) : F :=
  let ends := flown.map fun (route, _) => route.routeStartS + defaultTakeoffDurationS +
    defaultStabilizationS + route.routeDurationS + defaultLandingDurationS
  (maximum? ends).getD zero + stepS * ofRat 0.25

/-- The distances of any two vehicles at the sampled times of the joint schedule. -/
def sampledDistances (flown : List (CandidateRoute F × TimeParameterizedTrajectory F))
    (stepS : F) : List F :=
  (timesUpTo zero (jointLimit flown stepS) stepS).flatMap fun timestamp =>
    (combinations (flown.map fun (route, trajectory) =>
      jointPosition route trajectory stepS timestamp)).map fun (first, second) =>
        distance first second

/-- `_minimum_smooth_joint_separation`. -/
def minimumSmoothJointSeparation (flown : List (CandidateRoute F × TimeParameterizedTrajectory F))
    (stepS : F) : F :=
  if flown.length < 2 then ofRat 1000000
  else (minimum? (sampledDistances flown stepS)).getD (ofRat 1000000)

/-- `_simultaneous_route_overlap_s`. -/
def simultaneousRouteOverlapS : List (CandidateRoute F) → F
  | [] => zero
  | [route] => route.routeDurationS
  | routes =>
    let starts := routes.map CandidateRoute.routeStartS
    let ends := routes.map fun route => route.routeStartS + route.routeDurationS
    PyFloat.max zero ((minimum? ends).getD zero - (maximum? starts).getD zero)

/-- `int(...)` of a number that is not negative. -/
def truncate (value : F) : Nat := (-PyRound.ceil (neg value)).toNat

/-- `_formation_offset_at_progress`. -/
def formationOffsetAtProgress (offsets : List (Vector3 F)) (progress : F) : Vector3 F :=
  match offsets with
  | [offset] => offset
  | _ =>
    let scaled := progress * ofRat (offsets.length - 1 : Nat)
    let index := Nat.min (offsets.length - 2) (truncate scaled)
    lerp (offsets.getD index origin) (offsets.getD (index + 1) origin) (scaled - ofRat index)

def formationOffset (offsets : Dict String (Vector3 F))
    (offsetsByNode : Dict String (List (Vector3 F))) (roleId : String) (progress : F) :
    Except PyError (Vector3 F) :=
  if !offsets.items.isEmpty then
    match offsets.get? roleId with
    | some offset => .ok offset
    | none => .error (.keyError roleId)
  else
    match offsetsByNode.get? roleId with
    | some nodes => .ok (formationOffsetAtProgress nodes progress)
    | none => .error (.keyError roleId)

/-- `_maximum_formation_error`; none where the routes never overlap. -/
def maximumFormationError (flown : List (CandidateRoute F × TimeParameterizedTrajectory F))
    (offsets : Dict String (Vector3 F)) (offsetsByNode : Dict String (List (Vector3 F)))
    (stepS : F) : Except PyError (Option F) := do
  let starts := flown.map fun (route, _) => route.routeStartS
  let ends := flown.map fun (route, _) => route.routeStartS + route.routeDurationS
  let overlapStartS := (maximum? starts).getD zero
  let overlapEndS := (minimum? ends).getD zero
  if le overlapEndS overlapStartS then
    return none
  let errors ← (timesUpTo overlapStartS (overlapEndS + stepS * ofRat 0.25) stepS).mapM
    fun timestampS => do
      let progress := PyFloat.min (ofRat 1) (PyFloat.max zero
        ((timestampS - overlapStartS) / (overlapEndS - overlapStartS)))
      let normalized ← flown.mapM fun (route, trajectory) => do
        let offset ← formationOffset offsets offsetsByNode route.roleId progress
        let position := sampledPosition trajectory (progress * trajectory.durationS)
        return CampaignGeometry.subtract position offset
      return (maximum? ((combinations normalized).map fun (first, second) =>
        distance first second)).getD zero
  return some (errors.foldl PyFloat.max zero)

def vectorNorm (value : Vector3 F) : F := sqrt (pow value.x 2 + pow value.y 2 + pow value.z 2)

/-- `_trajectory_cost_dynamics`: the largest acceleration and jerk of the samples. -/
def trajectoryCostDynamics (trajectory : TimeParameterizedTrajectory F) : F × F :=
  let samples : List (F × Vector3 F) := (pairwise trajectory.points).flatMap fun (start, «end») =>
    let durationS := «end».timeFromStartS - start.timeFromStartS
    (List.range 11).map fun subdivision =>
      let timestampS := start.timeFromStartS + durationS * ofRat subdivision / ofRat 10
      (timestampS, (sampleTrajectorySegment start «end» timestampS).accelerationMS2)
  let jerks := ((pairwise samples).filter fun (before, after) => lt before.1 after.1).map
    fun (before, after) => distance after.2 before.2 / (after.1 - before.1)
  ((maximum? (samples.map fun (_, acceleration) => vectorNorm acceleration)).getD zero,
    (maximum? jerks).getD zero)

def routeBefore (first second : CandidateRoute F) : Bool :=
  lt first.routeStartS second.routeStartS ||
    (eq first.routeStartS second.routeStartS && first.roleId < second.roleId)

def startSkewS (routes : List (CandidateRoute F)) : F :=
  let starts := routes.map CandidateRoute.routeStartS
  (maximum? starts).getD zero - (minimum? starts).getD zero

/-- A route with what its role's drone has to offer. -/
abbrev Assigned (F : Type) : Type := CandidateRoute F × DroneCase F

/-- `_priority_inversions`. -/
def priorityInversions (assigned : List (Assigned F)) : Nat :=
  ((combinations (assigned.insertionSort fun a b => !routeBefore b.1 a.1)).map
    fun (earlier, later) => later.2.priority - earlier.2.priority).sum

def prioritizedRoutes (assigned : List (Assigned F)) : List (CandidateRoute F) :=
  (assigned.insertionSort fun a b => b.2.priority < a.2.priority ∨
    a.2.priority = b.2.priority ∧ a.1.roleId ≤ b.1.roleId).map (·.1)

/-- `_authored_route_length`. -/
def authoredRouteLength (drone : DroneCase F) : F :=
  sum ((pairwise (authoredCenterline drone)).map fun (before, after) => distance before after)

/-- The energy a route takes, and what is left of the drone's battery. -/
def energyPercent (route : CandidateRoute F) : F :=
  pathLengthM route * ofRat 1 + route.airborneWaitS * ofRat 0.25 + ofRat 1

def batteryEnd (assigned : Assigned F) : F :=
  assigned.2.initialBatteryPercent - energyPercent assigned.1

section Reasons

variable (case : CampaignCase F) (planning : PlanningSubmission F)
  (flown : List (CandidateRoute F × TimeParameterizedTrajectory F))

def minimumBoundaryMargin : Option F :=
  minimum? (flown.flatMap fun (route, trajectory) =>
    (sampleTrajectoryPositions route trajectory case.search.predictionStepS).map
      (boundaryMargin · case))

def regionReasons : List String :=
  if case.semantics.isNone then [] else flown.flatMap fun (route, trajectory) =>
    let samples := sampleTrajectoryPositions route trajectory case.search.predictionStepS
    (if case.keepOutRegions.any fun region => samples.any region.contains then
      ["KEEP_OUT_VIOLATION:" ++ route.roleId] else []) ++
    (if !case.requiredCorridors.isEmpty &&
        samples.any fun point => !case.requiredCorridors.any fun corridor =>
          corridor.contains point then
      ["REQUIRED_CORRIDOR_VIOLATION:" ++ route.roleId] else [])

/-- The checks of a candidate's launches, waits and simultaneity. -/
def timingReasons (strategy : PlannerStrategy) (routes : List (CandidateRoute F)) : List String :=
  let constraints := case.hardConstraints
  let coordination := planning.coordination
  (if strategy = .verticalLayer && !constraints.verticalLayersAllowed then
    ["VERTICAL_LAYER_FORBIDDEN"] else []) ++
  (if strategy = .airborneStaging && !constraints.hoverAllowed then
    ["HOVER_FORBIDDEN"] else []) ++
  (if routes.any fun route => lt constraints.maximumHoverS route.airborneWaitS then
    ["HOVER_LIMIT_EXCEEDED"] else []) ++
  (if !constraints.synchronizedLaunchRequired && case.allowedStrategies.contains .groundDelay &&
      routes.any fun route =>
        lt constraints.maximumUnrequiredAirborneWaitS route.airborneWaitS then
    ["UNREQUIRED_AIRBORNE_WAIT_EXCEEDED"] else []) ++
  (if (constraints.synchronizedLaunchRequired || coordination.synchronizedLaunchRequired) &&
      routes.any fun first => routes.any fun second =>
        !eq (PyRound.roundDigits first.groundWaitS 9)
          (PyRound.roundDigits second.groundWaitS 9) then
    ["SYNCHRONIZED_LAUNCH_VIOLATION"] else []) ++
  (if coordination.synchronizedRouteStartRequired &&
      lt (coordination.maximumRouteStartSkewS + ofRat 1e-9) (startSkewS routes) then
    ["PLANNING_SYNCHRONIZED_ROUTE_START_VIOLATION"] else []) ++
  (if lt (simultaneousRouteOverlapS routes) coordination.minimumSimultaneousFlightS then
    ["PLANNING_MINIMUM_SIMULTANEOUS_FLIGHT_VIOLATION"] else [])

def formationExceeds (coordination : CoordinationConstraints F) (stepS : F) :
    Except PyError Bool :=
  match coordination.maximumFormationErrorM with
  | none => .ok false
  | some limit => do
    let error ← maximumFormationError flown coordination.formationOffsetsM
      coordination.formationOffsetsByNodeM stepS
    return error.all (lt limit)

/-- The case's own coordination constraints. -/
def coordinationReasons : Except PyError (List String) :=
  match case.semantics with
  | none => .ok []
  | some semantics => do
    let coordination := semantics.coordinationConstraints
    let routes := flown.map (·.1)
    let formation ← formationExceeds flown coordination case.search.predictionStepS
    return (if coordination.synchronizedRouteStartRequired &&
        lt coordination.maximumRouteStartSkewS (startSkewS routes) then
          ["SYNCHRONIZED_ROUTE_START_VIOLATION"] else []) ++
      (if lt (simultaneousRouteOverlapS routes) coordination.minimumSimultaneousFlightS then
        ["MINIMUM_SIMULTANEOUS_FLIGHT_VIOLATION"] else []) ++
      (if formation then ["FORMATION_ERROR_VIOLATION"] else [])

/-- The battery, goal and speed checks of one role. -/
def roleReasons (assigned : Assigned F) : List String :=
  let (route, drone) := assigned
  let landing := drone.landingRegion.center
  let routeEnd := route.pointsM.getLastD origin
  (if lt (batteryEnd assigned) drone.minimumReserveBatteryPercent then
    ["BATTERY_RESERVE_VIOLATION:" ++ route.roleId] else []) ++
  (if lt (ofRat 1e-9) (hypot (routeEnd.x - landing.x) (routeEnd.y - landing.y)) then
    ["TERMINAL_GOAL_VIOLATION:" ++ route.roleId] else []) ++
  (if drone.goalSequence.any fun goal => !route.pointsM.any goal.contains then
    ["REQUIRED_GOAL_VIOLATION:" ++ route.roleId] else []) ++
  (if lt case.hardConstraints.dynamics.maximumHorizontalSpeedMS
      (pathLengthM route / route.routeDurationS) then
    ["DYNAMICS_SPEED_VIOLATION:" ++ route.roleId] else [])

def precedenceReasons (assigned : List (Assigned F)) : List String :=
  match case.semantics.bind CaseSemantics.precedenceThreshold with
  | none => []
  | some threshold =>
    if (pairwise (prioritizedRoutes assigned)).any fun (earlier, later) =>
        lt (later.routeStartS - earlier.routeStartS) (threshold - ofRat 1e-9) then
      ["PRIORITY_PRECEDENCE_VIOLATION"]
    else []

end Reasons

/-- The completion time of the joint schedule; `max` of no routes raises. -/
def completionTimeS (routes : List (CandidateRoute F)) : Except PyError F :=
  match maximum? (routes.map fun route =>
    route.routeStartS + route.routeDurationS + executionOverheadS) with
  | some completion => .ok completion
  | none => .error (.valueError "max() iterable argument is empty")

def objectiveSeparation (planning : PlanningSubmission F) (routes : List (CandidateRoute F))
    (separation : F) : F :=
  if planning.planningSubmissionId = "constrained.robust_schedule" then
    (CampaignGeometry.minimumContinuousRouteCenterDistance
      (routes.map CandidateRoute.geometry)).getD (ofRat 1000000)
  else separation

def candidateCost (case : CampaignCase F)
    (flown : List (CandidateRoute F × TimeParameterizedTrajectory F))
    (assigned : List (Assigned F)) (completion robustness boundary : F) : CandidateCost F :=
  let routes := flown.map (·.1)
  let waits := routes.map CandidateRoute.routeStartS
  let dynamics := flown.map fun (route, trajectory) => (route, trajectoryCostDynamics trajectory)
  let maximumWait := (maximum? waits).getD zero
  { priorityInversion := priorityInversions assigned
    starvation := (waits.filter (lt (case.hardConstraints.deadlineS / ofRat 2))).length
    missionCompletionTimeS := completion
    maximumWaitS := maximumWait
    totalEnergyPercent := sum (routes.map energyPercent)
    airborneHoverTimeS := sum (routes.map CandidateRoute.airborneWaitS)
    pathLengthM := sum (routes.map pathLengthM)
    accelerationMS2 := (maximum? (dynamics.map (·.2.1))).getD zero
    jerkMS3 := (maximum? (dynamics.map (·.2.2))).getD zero
    negativeSeparationRobustnessM := neg robustness
    negativeBoundaryRobustnessM := neg boundary
    pathFidelityM := sum (assigned.map fun (route, drone) =>
      PyFloat.max zero (pathLengthM route - authoredRouteLength drone))
    regionCaptureErrorM := (maximum? (assigned.flatMap fun (route, drone) =>
      drone.goalSequence.filterMap fun goal =>
        minimum? (route.pointsM.map fun point => distance point goal.center))).getD zero
    integratedSquaredAccelerationM2S3 := sum (dynamics.map fun (route, item) =>
      pow item.1 2 * route.routeDurationS)
    integratedSquaredJerkM2S5 := sum (dynamics.map fun (route, item) =>
      pow item.2 2 * route.routeDurationS)
    negativeEnergyReservePercent := neg ((minimum? (assigned.map batteryEnd)).getD zero)
    affectedRoleCount := (routes.filter fun route => route.geometryFamily != .direct ||
      lt zero route.routeStartS || !isClose route.speedFactor (ofRat 1) zero).length
    cutoverLatencyS := maximumWait }

/-- `_evaluate_candidate`. The caches it is handed only avoid computing a trajectory twice. -/
def evaluateCandidate (case : CampaignCase F) (planning : PlanningSubmission F)
    (trajectoryOf : CandidateRoute F → Except PyError (TimeParameterizedTrajectory F))
    (index : Nat) (seed : CandidateSeed F) : Except PyError (CandidateEvaluation F) := do
  let flown ← seed.routes.mapM fun route => do return (route, ← trajectoryOf route)
  let boundary := minimumBoundaryMargin case flown
  let coordination ← coordinationReasons case flown
  let separation := minimumSmoothJointSeparation flown case.search.predictionStepS
  let required := planning.clearance.requiredPairwiseCenterSeparationM
  let assigned ← seed.routes.mapM fun route => do
    return (route, ← droneByRole case route.roleId)
  let completion ← completionTimeS seed.routes
  let reasons :=
    (if boundary.all (lt · zero) then ["FLIGHT_VOLUME_VIOLATION"] else []) ++
    regionReasons case flown ++
    timingReasons case planning seed.strategy seed.routes ++
    coordination ++
    (if lt separation required then ["GLOBAL_RESERVATION_SEPARATION_VIOLATION"] else []) ++
    assigned.flatMap (roleReasons case) ++
    (if lt case.hardConstraints.deadlineS completion then ["DEADLINE_VIOLATION"] else []) ++
    precedenceReasons case assigned
  return {
    candidateId := "candidate-" ++ "".pushn '0' (4 - (toString (index + 1)).length) ++
      toString (index + 1)
    strategy := seed.strategy
    generatorId := seed.generatorId
    parameters := seed.parameters
    routes := seed.routes
    status := if reasons.isEmpty then .feasible else .rejected
    rejectionReasons := sortedTexts reasons
    predictedMinimumSeparationM := separation
    minimumBoundaryMarginM := boundary
    predictedBatteryEndPercent := assigned.map fun item => (item.1.roleId, batteryEnd item)
    cost := candidateCost case flown assigned completion
      (objectiveSeparation planning seed.routes separation - required) (boundary.getD zero) }

theorem status_eq_feasible {none : Bool} :
    (if none then CandidateStatus.feasible else .rejected) = .feasible ↔ none = true := by
  cases none <;> simp

/-- What a candidate that is feasible has been checked for. -/
structure Accepted (case : CampaignCase F) (planning : PlanningSubmission F)
    (seed : CandidateSeed F) (evaluation : CandidateEvaluation F) : Prop where
  routes : evaluation.routes = seed.routes
  reasons : evaluation.rejectionReasons = []
  timing : timingReasons case planning seed.strategy seed.routes = []
  roles : ∀ route ∈ seed.routes, ∃ drone, droneByRole case route.roleId = .ok drone ∧
    roleReasons case (route, drone) = []
  completion : completionTimeS seed.routes = .ok evaluation.cost.missionCompletionTimeS
  deadline : lt case.hardConstraints.deadlineS evaluation.cost.missionCompletionTimeS = false

theorem evaluateCandidate_accepted {case : CampaignCase F} {planning : PlanningSubmission F}
    {trajectoryOf : CandidateRoute F → Except PyError (TimeParameterizedTrajectory F)}
    {index : Nat} {seed : CandidateSeed F} {evaluation : CandidateEvaluation F}
    (ok : evaluateCandidate case planning trajectoryOf index seed = .ok evaluation)
    (feasible : evaluation.status = .feasible) : Accepted case planning seed evaluation := by
  unfold evaluateCandidate at ok
  obtain ⟨flown, -, ok⟩ := bind_eq_ok.mp ok
  obtain ⟨coordination, -, ok⟩ := bind_eq_ok.mp ok
  obtain ⟨assigned, assignedOk, ok⟩ := bind_eq_ok.mp ok
  obtain ⟨completion, completionOk, ok⟩ := bind_eq_ok.mp ok
  cases ok
  have none := List.isEmpty_iff.mp (status_eq_feasible.mp feasible)
  have parts := none
  simp only [List.append_eq_nil_iff] at parts
  obtain ⟨⟨⟨⟨⟨⟨-, timing⟩, -⟩, -⟩, roles⟩, deadline⟩, -⟩ := parts
  have kept : lt case.hardConstraints.deadlineS completion = false := by
    by_contra late
    rw [if_pos (Bool.eq_true_of_not_eq_false late)] at deadline
    cases deadline
  constructor
  · rfl
  · dsimp only
    rw [none]
    rfl
  · exact timing
  · intro route member
    obtain ⟨pair, among, found⟩ := exists_of_mem_items assignedOk member
    obtain ⟨drone, droneOk, same⟩ := bind_eq_ok.mp found
    cases same
    exact ⟨drone, droneOk, List.flatMap_eq_nil_iff.mp roles _ among⟩
  · exact completionOk
  · exact kept

theorem evaluateCandidate_feasible {case : CampaignCase F} {planning : PlanningSubmission F}
    {trajectoryOf : CandidateRoute F → Except PyError (TimeParameterizedTrajectory F)}
    {seed : CandidateSeed F} {flown : List (CandidateRoute F × TimeParameterizedTrajectory F)}
    {assigned : List (Assigned F)} {completion : F} (index : Nat)
    (flownOk : seed.routes.mapM (fun route => do return (route, ← trajectoryOf route)) = .ok flown)
    (boundary : (minimumBoundaryMargin case flown).all (lt · zero) = false)
    (regions : regionReasons case flown = [])
    (timing : timingReasons case planning seed.strategy seed.routes = [])
    (coordination : coordinationReasons case flown = .ok [])
    (separation : lt (minimumSmoothJointSeparation flown case.search.predictionStepS)
      planning.clearance.requiredPairwiseCenterSeparationM = false)
    (assignedOk : seed.routes.mapM (fun route => do
      return (route, ← droneByRole case route.roleId)) = .ok assigned)
    (roles : assigned.flatMap (roleReasons case) = [])
    (completionOk : completionTimeS seed.routes = .ok completion)
    (deadline : lt case.hardConstraints.deadlineS completion = false)
    (precedence : precedenceReasons case assigned = []) :
    ∃ evaluation, evaluateCandidate case planning trajectoryOf index seed = .ok evaluation ∧
      evaluation.status = .feasible := by
  rw [evaluateCandidate, flownOk]
  refine ⟨_, bind_eq_ok.mpr ⟨flown, rfl, bind_eq_ok.mpr ⟨[], coordination,
    bind_eq_ok.mpr ⟨assigned, assignedOk, bind_eq_ok.mpr ⟨completion, completionOk, rfl⟩⟩⟩⟩, ?_⟩
  simp [boundary, regions, timing, separation, roles, deadline, precedence]

theorem le_minimumSmoothJointSeparation [Field F] [LinearOrder F] [IsStrictOrderedRing F] [Exact F]
    {flown : List (CandidateRoute F × TimeParameterizedTrajectory F)} {stepS bound : F}
    (small : bound ≤ ((1000000 : ℚ) : F)) :
    bound ≤ minimumSmoothJointSeparation flown stepS ↔
      flown.length < 2 ∨ ∀ separation ∈ sampledDistances flown stepS, bound ≤ separation := by
  unfold minimumSmoothJointSeparation
  split
  · next few => simpa [few] using small
  · next many =>
    cases found : minimum? (sampledDistances flown stepS) with
    | none =>
      have none : sampledDistances flown stepS = [] := by
        cases list : sampledDistances flown stepS with
        | nil => rfl
        | cons first rest =>
          rw [list] at found
          cases found
      simpa [none, many] using small
    | some least => simp [many, CampaignGeometry.le_minimum? found]

end CampaignEvaluation

end CrazySwarm
