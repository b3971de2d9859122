import CrazySwarm.Vehicles

/-! Time-parameterized trajectories: knots joined by one quintic for each axis, the contract
they must meet, and the setpoint at a sample time. -/
namespace CrazySwarm
open PyFloat PyMath

variable {F : Type} [PyMath F]

def Vector3.zero : Vector3 F := ⟨PyFloat.zero, PyFloat.zero, PyFloat.zero⟩

/-- `math.isfinite`: infinities and not-a-number do not cancel themselves. -/
def isFinite (value : F) : Bool := eq (value - value) PyFloat.zero

def Vector3.isFinite (v : Vector3 F) : Bool :=
  CrazySwarm.isFinite v.x && CrazySwarm.isFinite v.y && CrazySwarm.isFinite v.z

/-- `_length`. -/
def Vector3.length (v : Vector3 F) : F := sqrt (pow v.x 2 + pow v.y 2 + pow v.z 2)

structure TrajectoryPoint (F : Type) where
  sequence : Nat
  timeFromStartS : F
  positionM : Vector3 F
  velocityMS : Vector3 F
  accelerationMS2 : Vector3 F
  yawRad : F
  yawRateRadS : F
  deriving DecidableEq, Repr

/-- The field checks and `finite_values`. -/
def TrajectoryPoint.valid (point : TrajectoryPoint F) : Bool :=
  1 ≤ point.sequence && ge point.timeFromStartS PyFloat.zero && isFinite point.timeFromStartS &&
    point.positionM.isFinite && point.velocityMS.isFinite && point.accelerationMS2.isFinite &&
    isFinite point.yawRad && isFinite point.yawRateRadS

structure TrajectorySetpoint (F : Type) where
  positionM : Vector3 F
  velocityMS : Vector3 F
  accelerationMS2 : Vector3 F
  yawRad : F
  yawRateRadS : F
  deriving DecidableEq, Repr

structure AxisSample (F : Type) where
  position : F
  velocity : F
  acceleration : F
  deriving DecidableEq, Repr

def quinticSample (start startVelocity startAcceleration «end» endVelocity endAcceleration
    durationS elapsedS : F) : AxisSample F :=
  let a0 := start
  let a1 := startVelocity
  let a2 := startAcceleration / ofRat 2
  let c0 := «end» - (a0 + a1 * durationS + a2 * pow durationS 2)
  let c1 := endVelocity - (a1 + ofRat 2 * a2 * durationS)
  let c2 := endAcceleration - ofRat 2 * a2
  let a3 := (ofRat 10 * c0 - ofRat 4 * c1 * durationS + ofRat 0.5 * c2 * pow durationS 2) /
    pow durationS 3
  let a4 := (ofRat (-15) * c0 + ofRat 7 * c1 * durationS - c2 * pow durationS 2) /
    pow durationS 4
  let a5 := (ofRat 6 * c0 - ofRat 3 * c1 * durationS + ofRat 0.5 * c2 * pow durationS 2) /
    pow durationS 5
  let timeS := PyFloat.max PyFloat.zero (PyFloat.min durationS elapsedS)
  { position := a0 + a1 * timeS + a2 * pow timeS 2 + a3 * pow timeS 3 + a4 * pow timeS 4 +
      a5 * pow timeS 5
    velocity := a1 + ofRat 2 * a2 * timeS + ofRat 3 * a3 * pow timeS 2 +
      ofRat 4 * a4 * pow timeS 3 + ofRat 5 * a5 * pow timeS 4
    acceleration := ofRat 2 * a2 + ofRat 6 * a3 * timeS + ofRat 12 * a4 * pow timeS 2 +
      ofRat 20 * a5 * pow timeS 3 }

def sampleTrajectorySegment (start «end» : TrajectoryPoint F) (sampleTimeS : F) :
    TrajectorySetpoint F :=
  let durationS := «end».timeFromStartS - start.timeFromStartS
  let elapsedS := sampleTimeS - start.timeFromStartS
  let axis (of : Vector3 F → F) :=
    quinticSample (of start.positionM) (of start.velocityMS) (of start.accelerationMS2)
      (of «end».positionM) (of «end».velocityMS) (of «end».accelerationMS2) durationS elapsedS
  let x := axis Vector3.x
  let y := axis Vector3.y
  let z := axis Vector3.z
  let yaw := quinticSample start.yawRad start.yawRateRadS PyFloat.zero «end».yawRad
    «end».yawRateRadS PyFloat.zero durationS elapsedS
  { positionM := ⟨x.position, y.position, z.position⟩
    velocityMS := ⟨x.velocity, y.velocity, z.velocity⟩
    accelerationMS2 := ⟨x.acceleration, y.acceleration, z.acceleration⟩
    yawRad := yaw.position
    yawRateRadS := yaw.velocity }

structure TrajectoryData (F : Type) where
  points : List (TrajectoryPoint F)
  declaredStopSequences : List Nat
  completionPositionToleranceM : F
  completionVelocityToleranceMS : F
  deriving DecidableEq, Repr

namespace TrajectoryData

/-- Consecutive knots, as `zip(points, points[1:])` pairs them. -/
def segments (data : TrajectoryData F) : List (TrajectoryPoint F × TrajectoryPoint F) :=
  data.points.zip data.points.tail

def stopSpeedExceeds (data : TrajectoryData F) (sequence : Nat) : Bool :=
  match data.points[sequence - 1]? with
  | some point => lt data.completionVelocityToleranceMS point.velocityMS.length
  | none => true

def fieldChecks (data : TrajectoryData F) : List (String × Bool) :=
  [("points", 2 ≤ data.points.length && data.points.all TrajectoryPoint.valid),
   ("completion_position_tolerance_m",
    gt data.completionPositionToleranceM PyFloat.zero &&
      atMost data.completionPositionToleranceM (ofRat 1)),
   ("completion_velocity_tolerance_m_s",
    ge data.completionVelocityToleranceMS PyFloat.zero &&
      atMost data.completionVelocityToleranceMS (ofRat 1))]

def orderedAndContinuous (data : TrajectoryData F) : Except (Fault F) Unit := do
  require (data.points.head?.all fun first => eq first.timeFromStartS PyFloat.zero)
    (.value "trajectory must start at source time zero")
  require (data.points.map TrajectoryPoint.sequence == List.range' 1 data.points.length)
    (.value "trajectory point sequences must be contiguous")
  require (data.segments.all fun (previous, current) =>
      !le current.timeFromStartS previous.timeFromStartS)
    (.value "trajectory timestamps must increase strictly")
  require (decide (data.declaredStopSequences.Pairwise (· < ·)))
    (.value "declared stop sequences must be sorted and unique")
  require (data.declaredStopSequences.head? == some 1 &&
      data.declaredStopSequences.getLast? == some data.points.length)
    (.value "trajectory start and terminal points must be declared stops")
  data.declaredStopSequences.forM fun sequence => do
    require (1 ≤ sequence && sequence ≤ data.points.length)
      (.value "declared trajectory stop sequence is absent")
    require (!data.stopSpeedExceeds sequence)
      (.value "declared trajectory stop has non-zero velocity")

def validate (data : TrajectoryData F) : Except (Fault F) Unit := do
  validated "TimeParameterizedTrajectory" data.fieldChecks ()
  data.orderedAndContinuous

end TrajectoryData

structure TimeParameterizedTrajectory (F : Type) [PyMath F] extends TrajectoryData F where
  valid : toTrajectoryData.validate = .ok ()

namespace TimeParameterizedTrajectory

def durationS (trajectory : TimeParameterizedTrajectory F) : F :=
  (trajectory.points.getLast?.map TrajectoryPoint.timeFromStartS).getD PyFloat.zero

end TimeParameterizedTrajectory

/-- `bisect_right` by time: the number of knots not later than the sample time. -/
def bisectRight (points : List (TrajectoryPoint F)) (timeS : F) : Nat :=
  (points.takeWhile fun point => !lt timeS point.timeFromStartS).length

def segmentIndex (trajectory : TimeParameterizedTrajectory F) (timeS : F) : Nat :=
  Nat.min (trajectory.points.length - 2) (bisectRight trajectory.points timeS - 1)

def sampleTrajectory (trajectory : TimeParameterizedTrajectory F) (sampleTimeS : F) :
    Option (TrajectorySetpoint F) :=
  let boundedTimeS := PyFloat.max PyFloat.zero (PyFloat.min trajectory.durationS sampleTimeS)
  let index := segmentIndex trajectory boundedTimeS
  match trajectory.points[index]?, trajectory.points[index + 1]? with
  | some start, some «end» => some (sampleTrajectorySegment start «end» boundedTimeS)
  | _, _ => none

end CrazySwarm
