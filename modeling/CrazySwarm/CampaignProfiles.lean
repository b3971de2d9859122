import CrazySwarm.CampaignTrajectory

/-! The time allocation with path speed targets: a profile of straight legs at their target speeds
with a transition at each corner, where no stop inside the route forces the plain knots. -/
namespace CrazySwarm
open PyFloat PyMath PyRoot
open CampaignGeometry (pairwise subtract)

namespace CampaignTrajectory

section Profile

variable {F : Type} [PyMath F]

structure PathSpeedProfile (F : Type) where
  targetSpeedsMS : List F
  entryExitRampS : F
  transitionDistanceM : Option F := none
  turnBlendRadiusM : Option F := none
  deriving DecidableEq, Repr

structure ProfileLeg (F : Type) where
  before : Vector3 F
  after : Vector3 F
  direction : Vector3 F
  speed : F
  transition : F
  deriving DecidableEq, Repr

structure ProfileKnot (F : Type) where
  timestampS : F
  positionM : Vector3 F
  velocityMS : Vector3 F
  accelerationMS2 : Vector3 F
  deriving DecidableEq, Repr

def PathSpeedProfile.transition (profile : PathSpeedProfile F) (speed length : F) : F :=
  let ramped := profile.transitionDistanceM.getD (speed * profile.entryExitRampS / ofRat 2)
  let part := length * if profile.transitionDistanceM.isSome then ofRat 0.49 else ofRat 0.375
  let shortest := PyFloat.min ramped part
  match profile.turnBlendRadiusM with
  | some radius => PyFloat.min shortest (ofRat 2 * radius)
  | none => shortest

def PathSpeedProfile.legs (profile : PathSpeedProfile F) (positions : List (Vector3 F)) :
    List (ProfileLeg F) :=
  ((pairwise positions).zip profile.targetSpeedsMS).map fun ((before, after), speed) =>
    { before, after, speed
      direction := unit (subtract after before)
      transition := profile.transition speed (distance before after) }

def cornerGain (speed nextSpeed : F) : F :=
  if ge (PyFloat.min speed nextSpeed) (ofRat 0.3) then ofRat 5.5 else ofRat 2.5

def cornerKnot (timestampS : F) (leg next : ProfileLeg F) : ProfileKnot F :=
  let durationS := leg.transition / leg.speed + next.transition / next.speed
  { timestampS
    positionM := leg.after
    velocityMS := scaleVector
      (addScaled (scaleVector leg.direction leg.transition) next.direction next.transition)
      (ofRat 1 / durationS)
    accelerationMS2 := scaleVector
      (subtract (scaleVector next.direction next.speed) (scaleVector leg.direction leg.speed))
      (cornerGain leg.speed next.speed / durationS) }

def legKnots : F → Vector3 F → List (ProfileLeg F) → List (ProfileKnot F)
  | _, _, [] => []
  | timestampS, previous, leg :: rest =>
    let approach := addScaled leg.after leg.direction (neg leg.transition)
    let approachS := timestampS + distance previous approach / leg.speed
    let inbound : ProfileKnot F :=
      ⟨approachS, approach, scaleVector leg.direction leg.speed, .zero⟩
    match rest with
    | [] =>
      [inbound, ⟨approachS + ofRat 2 * leg.transition / leg.speed, leg.after, .zero, .zero⟩]
    | next :: _ =>
      let cornerS := approachS + leg.transition / leg.speed
      let leaveS := cornerS + next.transition / next.speed
      let leave := addScaled leg.after next.direction next.transition
      inbound :: cornerKnot cornerS leg next ::
        ⟨leaveS, leave, scaleVector next.direction next.speed, .zero⟩ :: legKnots leaveS leave rest

def profileKnots (legs : List (ProfileLeg F)) : List (ProfileKnot F) :=
  match legs with
  | [] => []
  | first :: _ =>
    let leaveS := ofRat 2 * first.transition / first.speed
    let leave := addScaled first.before first.direction first.transition
    ⟨zero, first.before, .zero, .zero⟩ ::
      ⟨leaveS, leave, scaleVector first.direction first.speed, .zero⟩ :: legKnots leaveS leave legs

def ProfileKnot.point (knot : ProfileKnot F) (sequence : Nat) : TrajectoryPoint F where
  sequence
  timeFromStartS := knot.timestampS
  positionM := knot.positionM
  velocityMS := knot.velocityMS
  accelerationMS2 := knot.accelerationMS2
  yawRad := zero
  yawRateRadS := zero

/-- `_profiled_path_speed_points`. -/
def profiledPathSpeedPoints (positions : List (Vector3 F)) (profile : PathSpeedProfile F) :
    Except PyError (List (TrajectoryPoint F)) := do
  require (!(pairwise positions).any fun (before, after) => le (distance before after) (ofRat 1e-9))
    (.valueError "profiled path-speed routes cannot contain zero-length segments")
  require (profile.transitionDistanceM.isNone == profile.turnBlendRadiusM.isNone)
    (.valueError "resolved corner transition requires both distance and radius")
  return (profileKnots (profile.legs positions)).mapIdx fun index knot => knot.point (index + 1)

/-- `_scale_trajectory_points`. -/
def scaleTrajectoryPoints (points : List (TrajectoryPoint F)) (scale : F) :
    List (TrajectoryPoint F) :=
  points.map fun point =>
    { point with
      timeFromStartS := point.timeFromStartS * scale
      velocityMS := scaleVector point.velocityMS (ofRat 1 / scale)
      accelerationMS2 := scaleVector point.accelerationMS2 (ofRat 1 / (scale * scale)) }

end Profile

section Allocation

variable {F : Type} [PyMath F] [PyRound F] [PyRoot F]

/-- What `allocate_trajectory_points` is asked to allocate. The order of a set of stops is that of
no source; any order will do. -/
structure Allocation (F : Type) [PyMath F] where
  case : CampaignCase F
  positions : List (Vector3 F)
  speedFactor : F
  sampleStepS : F
  stopContracts : List (Vector3 F × F)
  segmentDurationsS : List F
  profile : PathSpeedProfile F
  stopOrder : List Nat
  ordered : stopOrder.Perm (stopIndices positions stopContracts).dedup

namespace Allocation

variable (a : Allocation F)

def limits : DynamicsLimits F := a.case.hardConstraints.dynamics

def stops : List Nat := stopIndices a.positions a.stopContracts

/-- The stops that keep the route from being profiled. -/
def interiorStops : List Nat :=
  a.stops.filter fun index => index != 0 && index != a.positions.length - 1

def profiled : Bool := !a.profile.targetSpeedsMS.isEmpty && a.interiorStops.isEmpty

def durations : List F :=
  segmentDurations a.limits a.positions a.speedFactor a.segmentDurationsS

def knots (scale : F) : Except PyError (List (TrajectoryPoint F)) :=
  if a.profiled then do
    return scaleTrajectoryPoints (← profiledPathSpeedPoints a.positions a.profile) scale
  else .ok (trajectoryPoints a.positions a.durations scale a.stops)

def knotOf (points : List (TrajectoryPoint F)) (index : Nat) : Option Nat :=
  points.findIdx? fun point =>
    le (distance point.positionM (a.positions.getD index .zero)) (ofRat 1e-9)

/-- `profiled_dwell_by_index`: of two stops at one knot, the later in the order wins. -/
def profiledDwells (points : List (TrajectoryPoint F)) : Except PyError (Nat → F) := do
  let found ← a.stopOrder.mapM fun index =>
    match a.knotOf points index with
    | some knot => .ok (knot, dwellAt a.positions a.stopContracts index)
    | none => .error .stopIteration
  return fun knot => ((found.reverse.find? fun entry => entry.1 == knot).map (·.2)).getD zero

def dwells (points : List (TrajectoryPoint F)) : Except PyError (Nat → F) :=
  if a.profiled then a.profiledDwells points else .ok (dwellAt a.positions a.stopContracts)

def keepsLimits (dynamics : SampledDynamics F) : Bool :=
  let one : F := ofRat 1
  le (dynamics.horizontalSpeed / a.limits.maximumHorizontalSpeedMS) one &&
    le (dynamics.verticalSpeed / a.limits.maximumVerticalSpeedMS) one &&
    le (dynamics.acceleration / a.limits.maximumAccelerationMS2) one &&
    le (dynamics.jerk / a.limits.maximumJerkMS3) one

/-- How much the next attempt is stretched. -/
def stretch (dynamics : SampledDynamics F) : F :=
  [dynamics.verticalSpeed / a.limits.maximumVerticalSpeedMS,
    sqrt (dynamics.acceleration / a.limits.maximumAccelerationMS2),
    cbrt (dynamics.jerk / a.limits.maximumJerkMS3), ofRat 1.05].foldl PyFloat.max
      (dynamics.horizontalSpeed / a.limits.maximumHorizontalSpeedMS) * ofRat 1.01

/-- The loop of `_allocate_trajectory_points_cached`. -/
def attempt : Nat → F → Except PyError (List (TrajectoryPoint F))
  | 0, _ =>
    .error (.valueError "bounded time allocation could not satisfy acceleration/jerk limits")
  | attempts + 1, scale => do
    let points ← a.knots scale
    let trajectory ← makeTrajectory points (allocationStops a.positions a.stopContracts points)
    let dynamics := sampleDynamics trajectory a.sampleStepS
    if a.keepsLimits dynamics then
      return insertHolds (← a.dwells points) 0 zero [] points
    attempt attempts (scale * a.stretch dynamics)

/-- `allocate_trajectory_points`. -/
def allocate : Except PyError (List (TrajectoryPoint F)) := do
  require (a.segmentDurationsS.isEmpty || a.segmentDurationsS.length + 1 == a.positions.length)
    (.valueError "authored segment durations do not match trajectory positions")
  require (a.profile.targetSpeedsMS.isEmpty ||
      a.profile.targetSpeedsMS.length + 1 == a.positions.length)
    (.valueError "path-speed targets do not match trajectory positions")
  require (!a.profile.targetSpeedsMS.any (le · zero))
    (.valueError "path-speed targets must be positive")
  a.attempt 12 (ofRat 1)

end Allocation

end Allocation

end CampaignTrajectory

end CrazySwarm
