import CrazySwarm.CampaignEvaluation

/-! The time allocation of a candidate's route: knots at the route's points with fly-through
velocities, stretched until the samples keep the dynamics limits, with the declared holds put
in. -/
namespace CrazySwarm
open PyFloat PyMath PyRoot
open CampaignGeometry (pairwise maximum? subtract)

variable {F : Type} [PyMath F] [PyRound F] [PyRoot F]

namespace CampaignTrajectory

/-- `_norm` and `_distance` of the trajectory code. -/
def norm (value : Vector3 F) : F := sqrt (value.x * value.x + value.y * value.y + value.z * value.z)

def distance (first second : Vector3 F) : F := norm (subtract first second)

/-- `_scale_vector` and `_add_scaled`. -/
def scaleVector (value : Vector3 F) (scale : F) : Vector3 F :=
  ⟨value.x * scale, value.y * scale, value.z * scale⟩

def addScaled (first second : Vector3 F) (scale : F) : Vector3 F :=
  ⟨first.x + second.x * scale, first.y + second.y * scale, first.z + second.z * scale⟩

/-- `_unit`. -/
def unit (value : Vector3 F) : Vector3 F :=
  let length := norm value
  if le length (ofRat 1e-12) then .zero
  else ⟨value.x / length, value.y / length, value.z / length⟩

/-- The velocity at a point between two others, reached and left at the given times. -/
def cornerVelocity (before position after : Vector3 F) (arrivesS leavesS : F) (stops : Bool) :
    Vector3 F :=
  let incoming := unit (subtract position before)
  let outgoing := unit (subtract after position)
  let direction := unit
    ⟨incoming.x + outgoing.x, incoming.y + outgoing.y, incoming.z + outgoing.z⟩
  let incomingSpeed := distance position before / arrivesS
  let outgoingSpeed := distance after position / leavesS
  let alignment := incoming.x * outgoing.x + incoming.y * outgoing.y + incoming.z * outgoing.z
  let velocity := if stops || le (norm direction) (ofRat 1e-12) then zero
    else PyFloat.max (ofRat 0.03) (PyFloat.min incomingSpeed outgoingSpeed *
      PyFloat.min (ofRat 0.75)
        (PyFloat.max (ofRat 0.2) ((alignment + ofRat 1) / ofRat 2)))
  ⟨direction.x * velocity, direction.y * velocity, direction.z * velocity⟩

/-- The velocity at an index; zero at the first and the last one. -/
def knotVelocity (positions : List (Vector3 F)) (timestamps : List F) (stopIndices : List Nat)
    (index : Nat) : Vector3 F :=
  match positions[index - 1]?, positions[index]?, positions[index + 1]? with
  | some before, some position, some after =>
    if index = 0 then .zero
    else cornerVelocity before position after
      (timestamps.getD index zero - timestamps.getD (index - 1) zero)
      (timestamps.getD (index + 1) zero - timestamps.getD index zero)
      (stopIndices.contains index)
  | _, _, _ => .zero

/-- `_trajectory_points`. -/
def trajectoryPoints (positions : List (Vector3 F)) (durations : List F) (scale : F)
    (stopIndices : List Nat) : List (TrajectoryPoint F) :=
  let timestamps := durations.scanl (fun last duration => last + duration * scale) zero
  positions.mapIdx fun index position =>
    { sequence := index + 1
      timeFromStartS := timestamps.getD index zero
      positionM := position
      velocityMS := knotVelocity positions timestamps stopIndices index
      accelerationMS2 := .zero
      yawRad := zero
      yawRateRadS := zero }

/-- `TimeParameterizedTrajectory(...)` with the tolerances that the campaign uses. -/
def makeTrajectory (points : List (TrajectoryPoint F)) (declaredStopSequences : List Nat) :
    Except PyError (TimeParameterizedTrajectory F) :=
  let data : TrajectoryData F := ⟨points, declaredStopSequences, ofRat 0.05, ofRat 0.05⟩
  match valid : data.validate with
  | .ok () => .ok ⟨data, valid⟩
  | .error _ => .error (.validation "TimeParameterizedTrajectory" [])

structure SampledDynamics (F : Type) where
  horizontalSpeed : F
  verticalSpeed : F
  acceleration : F
  jerk : F
  deriving DecidableEq, Repr

/-- `_sample_dynamics`. -/
def sampleDynamics (trajectory : TimeParameterizedTrajectory F) (stepS : F) : SampledDynamics F :=
  let samples := (CampaignEvaluation.timesUpTo zero
    (trajectory.durationS + stepS * ofRat 0.25) stepS).filterMap fun timestamp =>
      (sampleTrajectory trajectory timestamp).map (timestamp, ·)
  let jerks := ((pairwise samples).filter fun (before, after) => lt before.1 after.1).map
    fun (before, after) =>
      distance after.2.accelerationMS2 before.2.accelerationMS2 / (after.1 - before.1)
  let largest (values : List F) : F := (maximum? values).getD zero
  { horizontalSpeed := largest (samples.map fun (_, sample) =>
      hypot sample.velocityMS.x sample.velocityMS.y)
    verticalSpeed := largest (samples.map fun (_, sample) => PyFloat.abs sample.velocityMS.z)
    acceleration := largest (samples.map fun (_, sample) => norm sample.accelerationMS2)
    jerk := largest jerks }

/-- `_insert_holds`. -/
def insertHolds (dwellByIndex : Nat → F) (index : Nat) (shiftS : F)
    (expanded : List (TrajectoryPoint F)) : List (TrajectoryPoint F) → List (TrajectoryPoint F)
  | [] => expanded
  | point :: rest =>
    let moved := { point with
      sequence := expanded.length + 1, timeFromStartS := point.timeFromStartS + shiftS }
    let dwellS := dwellByIndex index
    if lt zero dwellS then
      let held : TrajectoryPoint F :=
        { sequence := expanded.length + 2
          timeFromStartS := point.timeFromStartS + (shiftS + dwellS)
          positionM := point.positionM
          velocityMS := .zero
          accelerationMS2 := .zero
          yawRad := zero
          yawRateRadS := zero }
      insertHolds dwellByIndex (index + 1) (shiftS + dwellS) (expanded ++ [moved, held]) rest
    else insertHolds dwellByIndex (index + 1) shiftS (expanded ++ [moved]) rest

section Allocate

variable (limits : DynamicsLimits F) (positions : List (Vector3 F))
  (stopContracts : List (Vector3 F × F))

/-- The first position within the tolerance of each declared stop. -/
def stopIndices : List Nat :=
  stopContracts.filterMap fun (stop, _) =>
    positions.findIdx? fun position => le (distance position stop) (ofRat 1e-9)

/-- `dwell_by_index`. -/
def dwellAt (index : Nat) : F :=
  if (stopIndices positions stopContracts).contains index then
    (maximum? ((stopContracts.filter fun (stop, _) =>
      le (distance (positions.getD index .zero) stop) (ofRat 1e-9)).map (·.2))).getD zero
  else zero

def segmentDurations (speedFactor : F) (segmentDurationsS : List F) : List F :=
  let nominalSpeed := PyFloat.min (ofRat 0.25 * speedFactor)
    (limits.maximumHorizontalSpeedMS * ofRat 0.65)
  if !segmentDurationsS.isEmpty then segmentDurationsS
  else (pairwise positions).map fun (first, second) =>
    if le (distance first second) (ofRat 1e-9) then ofRat 0.01
    else PyFloat.max (ofRat 0.5) (distance first second / PyFloat.max (ofRat 0.02) nominalSpeed)

/-- The sequences at which an allocation rests. -/
def allocationStops (points : List (TrajectoryPoint F)) : List Nat :=
  ((points.zipIdx).filter fun (point, index) => index == 0 || index == points.length - 1 ||
    (le (norm point.velocityMS) (ofRat 1e-9) &&
      (stopIndices positions stopContracts).any fun stop =>
        le (distance point.positionM (positions.getD stop .zero)) (ofRat 1e-9))).map
    (·.1.sequence)

/-- The loop that stretches the allocation until its samples keep the limits. -/
def allocate (durations : List F) (sampleStepS : F) :
    Nat → F → Except PyError (List (TrajectoryPoint F))
  | 0, _ =>
    .error (.valueError "bounded time allocation could not satisfy acceleration/jerk limits")
  | attempts + 1, scale => do
    let points := trajectoryPoints positions durations scale (stopIndices positions stopContracts)
    let trajectory ← makeTrajectory points (allocationStops positions stopContracts points)
    let dynamics := sampleDynamics trajectory sampleStepS
    let horizontal := dynamics.horizontalSpeed / limits.maximumHorizontalSpeedMS
    let vertical := dynamics.verticalSpeed / limits.maximumVerticalSpeedMS
    let acceleration := dynamics.acceleration / limits.maximumAccelerationMS2
    let jerk := dynamics.jerk / limits.maximumJerkMS3
    let one : F := ofRat 1
    if le horizontal one && le vertical one && le acceleration one && le jerk one then
      return insertHolds (dwellAt positions stopContracts) 0 zero [] points
    allocate durations sampleStepS attempts (scale * ([vertical, sqrt acceleration, cbrt jerk,
      ofRat 1.05].foldl PyFloat.max horizontal * ofRat 1.01))

end Allocate

/-- `allocate_trajectory_points` of a route, without path speed targets. -/
def allocateTrajectoryPoints (limits : DynamicsLimits F) (sampleStepS : F)
    (route : CandidateRoute F) : Except PyError (List (TrajectoryPoint F)) := do
  require (route.segmentDurationsS.isEmpty ||
      route.segmentDurationsS.length + 1 == route.pointsM.length)
    (.valueError "authored segment durations do not match trajectory positions")
  allocate limits route.pointsM (route.declaredStops.map fun stop => (stop.positionM, stop.dwellS))
    (segmentDurations limits route.pointsM route.speedFactor route.segmentDurationsS) sampleStepS
    12 (ofRat 1)

/-- `declared_stop_sequences`. -/
def declaredStopSequences (route : CandidateRoute F) (points : List (TrajectoryPoint F)) :
    List Nat :=
  (points.filter fun point => point.sequence == 1 || point.sequence == points.length ||
    (route.declaredStops.any fun stop =>
      le (distance point.positionM stop.positionM) (ofRat 1e-9)) &&
        le (norm point.velocityMS) (ofRat 1e-9)).map TrajectoryPoint.sequence

/-- One route's part of `_candidate_trajectories`. -/
def candidateTrajectory (case : CampaignCase F) (route : CandidateRoute F) :
    Except PyError (TimeParameterizedTrajectory F) := do
  let points ← allocateTrajectoryPoints case.hardConstraints.dynamics
    case.search.predictionStepS route
  makeTrajectory points (declaredStopSequences route points)

end CampaignTrajectory

end CrazySwarm
