import CrazySwarm.ExecutionPrograms
import CrazySwarm.CampaignTrajectory
import CrazySwarm.GoalUpdates

/-! Replanning of a single drone: the guards of a goal update in their order, the replacement
future from the measured state to the goal, its dynamics audit, and the four tables that an
accepted decision is written to. -/
namespace CrazySwarm
open PyFloat PyMath
open CampaignGeometry (pairwise maximum?)

variable {F : Type} [PyMath F]

structure ReplanObservation (F : Type) where
  observationId : String
  roleId : String
  sourceTimestampS : F
  capturedAtSourceS : F
  positionM : Vector3 F
  velocityMS : Vector3 F
  accelerationMS2 : Vector3 F
  observationSha256 : String
  deriving DecidableEq, Repr

structure CutoverAcknowledgements where
  oldFutureCancelled : Bool
  oldFutureCancellationAcknowledged : Bool
  replacementCommandAcknowledged : Bool
  replacementAuthorityAcknowledged : Bool
  deriving DecidableEq, Repr

def CutoverAcknowledgements.complete (acknowledgements : CutoverAcknowledgements) : Bool :=
  acknowledgements.oldFutureCancelled && acknowledgements.oldFutureCancellationAcknowledged &&
    acknowledgements.replacementCommandAcknowledged &&
    acknowledgements.replacementAuthorityAcknowledged

/-- What the replanner reads of a campaign case. -/
structure SingleReplanningCase (F : Type) [PyMath F] where
  caseSha256 : String
  roleIds : List String
  replanningAuthority : ReplanningAuthority
  flightVolume : Region3D F
  keepOutRegions : List (Region3D F)
  dynamics : DynamicsLimits F
  observationFreshnessLimitS : F
  minimumGoalUpdateIntervalS : F
  planningBudgetS : F
  speedPositive : gt dynamics.maximumHorizontalSpeedMS zero = true
  intervalPositive : gt minimumGoalUpdateIntervalS zero = true

/-- The fields of a `ContinuousCutoverTrajectory`. -/
structure CutoverData (F : Type) where
  trajectoryId : String
  roleId : String
  vehicleId : String
  routeSha256 : String
  points : List (TrajectoryPoint F)
  completionPositionToleranceM : F
  completionVelocityToleranceMS : F
  deriving DecidableEq, Repr

namespace CutoverData

/-- What `sample_trajectory` reads of it. -/
def trajectory (data : CutoverData F) : TrajectoryData F where
  points := data.points
  declaredStopSequences := []
  completionPositionToleranceM := data.completionPositionToleranceM
  completionVelocityToleranceMS := data.completionVelocityToleranceMS

/-- The field checks and `continuous_future`. -/
def validate (data : CutoverData F) : Except (Fault F) Unit := do
  validated "ContinuousCutoverTrajectory"
    [("points", 2 ≤ data.points.length && data.points.all TrajectoryPoint.valid),
     ("completion_position_tolerance_m", gt data.completionPositionToleranceM zero &&
       atMost data.completionPositionToleranceM (ofRat 1)),
     ("completion_velocity_tolerance_m_s", ge data.completionVelocityToleranceMS zero &&
       atMost data.completionVelocityToleranceMS (ofRat 1))] ()
  require (data.points.head?.all fun first => eq first.timeFromStartS zero)
    (.value "cutover trajectory must start at source time zero")
  require (data.points.map TrajectoryPoint.sequence == List.range' 1 data.points.length)
    (.value "cutover trajectory sequences must be contiguous")
  require ((pairwise data.points).all fun (before, after) =>
      !le after.timeFromStartS before.timeFromStartS)
    (.value "cutover trajectory times must increase")
  require (data.points.getLast?.all fun last =>
      !lt data.completionVelocityToleranceMS (CampaignTrajectory.norm last.velocityMS))
    (.value "replacement terminal velocity exceeds tolerance")

end CutoverData

/-- A future that does not validate cannot be built. -/
structure ContinuousCutoverTrajectory (F : Type) [PyMath F] extends CutoverData F where
  valid : toCutoverData.validate = .ok ()

/-- `ContinuousCutoverTrajectory(…)`. -/
def newCutoverTrajectory (data : CutoverData F) :
    Except (Fault F) (ContinuousCutoverTrajectory F) :=
  match valid : data.validate with
  | .ok () => .ok ⟨data, valid⟩
  | .error fault => .error fault

structure TrajectoryDynamicsAudit (F : Type) where
  maximumSpeedMS : F
  maximumHorizontalSpeedMS : F
  maximumVerticalSpeedMS : F
  maximumAccelerationMS2 : F
  maximumJerkMS3 : F
  generatedUnintendedStopCount : Nat
  passed : Bool
  failures : List String
  deriving DecidableEq, Repr

/-- `audit_trajectory` of a cutover trajectory; it looks for stops in other trajectories only. -/
def auditTrajectory [PyRound F] (limits : DynamicsLimits F) (trajectory : TrajectoryData F)
    (sampleStepS : F) : TrajectoryDynamicsAudit F :=
  let samples := (CampaignEvaluation.timesUpTo zero
    (trajectory.durationS + sampleStepS * ofRat 0.25) sampleStepS).filterMap fun timestamp =>
      (trajectory.sample timestamp).map (timestamp, ·)
  let jerks := ((pairwise samples).filter fun (before, after) => lt before.1 after.1).map
    fun (before, after) => CampaignTrajectory.distance after.2.accelerationMS2
      before.2.accelerationMS2 / (after.1 - before.1)
  let largest (values : List F) : F := (maximum? values).getD zero
  let maximumHorizontalSpeedMS := largest (samples.map fun (_, sample) =>
    hypot sample.velocityMS.x sample.velocityMS.y)
  let maximumVerticalSpeedMS := largest (samples.map fun (_, sample) =>
    PyFloat.abs sample.velocityMS.z)
  let maximumAccelerationMS2 := largest (samples.map fun (_, sample) =>
    CampaignTrajectory.norm sample.accelerationMS2)
  let maximumJerkMS3 := largest jerks
  let exceeded (name : String) (value limit : F) : List String :=
    if lt (limit + ofRat 1e-6) value then [name] else []
  let failures :=
    exceeded "MAXIMUM_HORIZONTAL_SPEED" maximumHorizontalSpeedMS limits.maximumHorizontalSpeedMS ++
    exceeded "MAXIMUM_VERTICAL_SPEED" maximumVerticalSpeedMS limits.maximumVerticalSpeedMS ++
    exceeded "MAXIMUM_ACCELERATION" maximumAccelerationMS2 limits.maximumAccelerationMS2 ++
    exceeded "MAXIMUM_JERK" maximumJerkMS3 limits.maximumJerkMS3
  { maximumSpeedMS := largest (samples.map fun (_, sample) =>
      CampaignTrajectory.norm sample.velocityMS)
    maximumHorizontalSpeedMS, maximumVerticalSpeedMS, maximumAccelerationMS2, maximumJerkMS3
    generatedUnintendedStopCount := 0
    passed := failures.isEmpty
    failures }

structure SingleReplanPayload (F : Type) [PyMath F] where
  updateId : String
  disposition : GoalUpdateDisposition
  reason : String
  oldPlanSha256 : String
  oldTrajectorySha256 : String
  oldReservationSha256 : String
  observationSha256 : String
  goalUpdateSha256 : String
  replacementPlanSha256 : Option String := none
  replacementTrajectory : Option (ContinuousCutoverTrajectory F) := none
  replacementReservationSha256 : Option String := none
  sourceClockCutoverS : Option F := none
  authorityPolicy : ReplanningAuthority
  authoritySha256 : String
  acknowledgements : Option CutoverAcknowledgements := none
  fallback : Option SafeFallback := none

/-- The field checks and `accepted_is_atomic`. -/
def SingleReplanPayload.validate (payload : SingleReplanPayload F) : Except (Fault F) Unit := do
  validated "SingleReplanDecision"
    [("update_id", isIdentifier payload.updateId),
     ("old_plan_sha256", isSha256 payload.oldPlanSha256),
     ("old_trajectory_sha256", isSha256 payload.oldTrajectorySha256),
     ("old_reservation_sha256", isSha256 payload.oldReservationSha256),
     ("source_clock_cutover_s", payload.sourceClockCutoverS.all (ge · zero))] ()
  require (payload.disposition != .accepted ||
      (payload.replacementTrajectory.isSome && payload.replacementPlanSha256.isSome &&
        payload.replacementReservationSha256.isSome && payload.sourceClockCutoverS.isSome &&
        payload.acknowledgements.any CutoverAcknowledgements.complete))
    (.value "accepted replacement lacks atomic cutover authority")

structure SingleReplanDecision (F : Type) [PyMath F] extends SingleReplanPayload F where
  decisionSha256 : String
  valid : toSingleReplanPayload.validate = .ok ()

/-- The values that `canonical_sha256` is taken of. -/
inductive SingleCanonical (F : Type) [PyMath F] where
  | update (update : GoalUpdate F)
  | rejection (oldPlanSha256 oldReservationSha256 : String) (fallback : SafeFallback)
  | cutover (update : GoalUpdate F) (observation : ReplanObservation F) (durationS : F)
  | route (positionM targetM : Vector3 F) (goalRevision : Nat)
  | trajectory (data : CutoverData F)
  | plan (oldPlanSha256 : String) (update : GoalUpdate F) (observation : ReplanObservation F)
      (trajectorySha256 : String)
  | reservation (roleId trajectorySha256 : String) (cutoverS : F)
  | authority (caseSha256 planSha256 reservationSha256 : String) (cutoverS : F)
  | decision (payload : SingleReplanPayload F)

/-- The arguments of `replan`. -/
structure SingleReplanCall (F : Type) where
  update : GoalUpdate F
  observation : ReplanObservation F
  decisionTimeSourceS : F
  oldPlanSha256 : String
  oldTrajectorySha256 : String
  oldReservationSha256 : String
  acknowledgements : CutoverAcknowledgements
  planningElapsedS : F
  oldFutureSafeUntilS : Option F := none
  operatorApproved : Bool := false
  deriving DecidableEq, Repr

section Decisions

variable (canonicalSha256 : SingleCanonical F → String)

/-- `SingleReplanDecision(**payload, …)`. -/
def newSingleReplanDecision (payload : SingleReplanPayload F) :
    Except (Fault F) (SingleReplanDecision F) :=
  match valid : payload.validate with
  | .ok () => .ok ⟨payload, canonicalSha256 (.decision payload), valid⟩
  | .error fault => .error fault

/-- The first attempt of `_replacement_trajectory`. -/
def replacementDurationS (case : SingleReplanningCase F) (observation : ReplanObservation F)
    (update : GoalUpdate F) : F :=
  PyFloat.max (ofRat 1)
    (CampaignEvaluation.distance observation.positionM update.goalRegion.center /
      PyFloat.min (ofRat 0.2) (case.dynamics.maximumHorizontalSpeedMS * ofRat 0.5))

/-- From the measured state to rest at the centre of the goal region. -/
def cutoverData (observation : ReplanObservation F) (update : GoalUpdate F) (durationS : F) :
    CutoverData F where
  trajectoryId := "replacement-" ++
    ((canonicalSha256 (.cutover update observation durationS)).take 20).toString
  roleId := observation.roleId
  vehicleId := observation.roleId
  routeSha256 := canonicalSha256
    (.route observation.positionM update.goalRegion.center update.goalRevision)
  points :=
    [{ sequence := 1
       timeFromStartS := zero
       positionM := observation.positionM
       velocityMS := observation.velocityMS
       accelerationMS2 := observation.accelerationMS2
       yawRad := zero
       yawRateRadS := zero },
     { sequence := 2
       timeFromStartS := durationS
       positionM := update.goalRegion.center
       velocityMS := .zero
       accelerationMS2 := .zero
       yawRad := zero
       yawRateRadS := zero }]
  completionPositionToleranceM := ofRat 0.05
  completionVelocityToleranceMS := ofRat 0.05

variable [PyRound F]

/-- The attempts that `_replacement_trajectory` has left, each half as long again. -/
def replacementAttempts (case : SingleReplanningCase F) (observation : ReplanObservation F)
    (update : GoalUpdate F) : Nat → F → Except (Fault F) (ContinuousCutoverTrajectory F)
  | 0, _ => .error (.value "no bounded C2 replacement trajectory satisfies dynamics")
  | attempts + 1, durationS => do
    let trajectory ← newCutoverTrajectory (cutoverData canonicalSha256 observation update durationS)
    if (auditTrajectory case.dynamics trajectory.trajectory (ofRat 0.01)).passed then
      return trajectory
    else replacementAttempts case observation update attempts (durationS * ofRat 1.5)

/-- `_replacement_trajectory`. -/
def replacementTrajectory (case : SingleReplanningCase F) (observation : ReplanObservation F)
    (update : GoalUpdate F) : Except (Fault F) (ContinuousCutoverTrajectory F) :=
  replacementAttempts canonicalSha256 case observation update 12
    (replacementDurationS case observation update)

end Decisions

structure SingleDroneReplanner (F : Type) [PyMath F] where
  case : SingleReplanningCase F
  roleId : String
  acceptedUpdateIds : Dict String (SingleReplanDecision F) := .empty
  latestSequence : Dict String Nat := .empty
  latestRevision : Dict String Nat := .empty
  latestAcceptedTimestamp : Dict String F := .empty

namespace SingleDroneReplanner

/-- `__init__`. -/
def create (case : SingleReplanningCase F) (roleId : String) :
    Except (Fault F) (SingleDroneReplanner F) := do
  require (case.roleIds.length == 1)
    (.value "single-drone replanner requires an exact one-drone case")
  require (case.roleIds.head? == some roleId)
    (.value "replanning role does not match the case")
  return { case, roleId }

/-- The update is not newer than the latest accepted one of its source. -/
def isStale (replanner : SingleDroneReplanner F) (update : GoalUpdate F) : Bool :=
  decide (update.sequence ≤ (replanner.latestSequence.get? update.sourceId).getD 0) ||
    decide (update.goalRevision ≤ (replanner.latestRevision.get? update.sourceId).getD 0)

/-- The latest accepted update of the source is too recent. -/
def exceedsRate (replanner : SingleDroneReplanner F) (update : GoalUpdate F) : Bool :=
  (replanner.latestAcceptedTimestamp.get? update.sourceId).any fun latest =>
    lt (update.sourceTimestampS - latest) replanner.case.minimumGoalUpdateIntervalS

def cutoverS (call : SingleReplanCall F) : F :=
  PyFloat.max (call.decisionTimeSourceS + ofRat 0.1) call.update.requestedEffectiveTimeS

def guards (replanner : SingleDroneReplanner F) (call : SingleReplanCall F) :
    List (Bool × GoalUpdateDisposition × String × SafeFallback) :=
  let case := replanner.case
  let observationAgeS := call.decisionTimeSourceS - call.observation.sourceTimestampS
  [(replanner.isStale call.update,
    .rejectedStale, "stale sequence or goal revision", .continueOldSafeEpoch),
   (replanner.exceedsRate call.update,
    .rejectedRateLimit, "goal source exceeded the admitted update rate", .continueOldSafeEpoch),
   (decide (case.replanningAuthority = .abortOnly),
    .rejectedAuthority, "case grants abort-only replanning authority", .abortAndLand),
   (decide (case.replanningAuthority = .operatorApprovalRequired) && !call.operatorApproved,
    .rejectedAuthority, "operator approval is required", .continueOldSafeEpoch),
   (lt observationAgeS zero || lt case.observationFreshnessLimitS observationAgeS,
    .blocked, "triggering observation is stale", .abortAndLand),
   (lt case.planningBudgetS call.planningElapsedS,
    .blocked, "planning budget expired", .boundedHold),
   (call.oldFutureSafeUntilS.any (lt · (cutoverS call)),
    .blocked, "no safe old-trajectory cutover window remains", .abortAndLand),
   (!call.acknowledgements.complete,
    .blocked, "cutover cancellation or replacement acknowledgement is incomplete",
    .continueOldSafeEpoch)]

/-- The table entries of an accepted decision. -/
def record (replanner : SingleDroneReplanner F) (update : GoalUpdate F)
    (decision : SingleReplanDecision F) : SingleDroneReplanner F :=
  { replanner with
    acceptedUpdateIds := replanner.acceptedUpdateIds.insert update.updateId decision
    latestSequence := replanner.latestSequence.insert update.sourceId update.sequence
    latestRevision := replanner.latestRevision.insert update.sourceId update.goalRevision
    latestAcceptedTimestamp :=
      replanner.latestAcceptedTimestamp.insert update.sourceId update.sourceTimestampS }

section Replan

variable (canonicalSha256 : SingleCanonical F → String)

/-- A known update is answered with the decision that exists. -/
def duplicateDecision (existing : SingleReplanDecision F) :
    Except (Fault F) (SingleReplanDecision F) :=
  newSingleReplanDecision canonicalSha256 { existing.toSingleReplanPayload with
    disposition := .duplicateIdempotent
    reason := "duplicate update ID returned the existing replacement authority" }

/-- `_single_rejection`. -/
def singleRejection (case : SingleReplanningCase F) (call : SingleReplanCall F)
    (disposition : GoalUpdateDisposition) (reason : String) (fallback : SafeFallback) :
    Except (Fault F) (SingleReplanDecision F) :=
  newSingleReplanDecision canonicalSha256 {
    updateId := call.update.updateId
    disposition, reason
    oldPlanSha256 := call.oldPlanSha256
    oldTrajectorySha256 := call.oldTrajectorySha256
    oldReservationSha256 := call.oldReservationSha256
    observationSha256 := call.observation.observationSha256
    goalUpdateSha256 := canonicalSha256 (.update call.update)
    authorityPolicy := case.replanningAuthority
    authoritySha256 := canonicalSha256
      (.rejection call.oldPlanSha256 call.oldReservationSha256 fallback)
    fallback := some fallback }

/-- The decision about a replacement that has been validated and acknowledged. -/
def acceptance (replanner : SingleDroneReplanner F) (call : SingleReplanCall F)
    (trajectory : ContinuousCutoverTrajectory F) : Except (Fault F) (SingleReplanDecision F) :=
  let trajectorySha256 := canonicalSha256 (.trajectory trajectory.toCutoverData)
  let replacementPlanSha256 := canonicalSha256
    (.plan call.oldPlanSha256 call.update call.observation trajectorySha256)
  let reservationSha256 := canonicalSha256
    (.reservation replanner.roleId trajectorySha256 (cutoverS call))
  newSingleReplanDecision canonicalSha256 {
    updateId := call.update.updateId
    disposition := .accepted
    reason := "bounded replacement validated and acknowledged for one source-clock cutover"
    oldPlanSha256 := call.oldPlanSha256
    oldTrajectorySha256 := call.oldTrajectorySha256
    oldReservationSha256 := call.oldReservationSha256
    observationSha256 := call.observation.observationSha256
    goalUpdateSha256 := canonicalSha256 (.update call.update)
    replacementPlanSha256 := some replacementPlanSha256
    replacementTrajectory := some trajectory
    replacementReservationSha256 := some reservationSha256
    sourceClockCutoverS := some (cutoverS call)
    authorityPolicy := replanner.case.replanningAuthority
    authoritySha256 := canonicalSha256 (.authority replanner.case.caseSha256
      replacementPlanSha256 reservationSha256 (cutoverS call))
    acknowledgements := some call.acknowledgements }

variable [PyRound F]

/-- `replan`; what is raised leaves the tables as they are. -/
def replan (replanner : SingleDroneReplanner F) (call : SingleReplanCall F) :
    SingleDroneReplanner F × Except (Fault F) (SingleReplanDecision F) :=
  let case := replanner.case
  match replanner.acceptedUpdateIds.get? call.update.updateId with
  | some existing => (replanner, duplicateDecision canonicalSha256 existing)
  | none =>
    match (replanner.guards call).find? (·.1) with
    | some (_, disposition, reason, fallback) =>
      (replanner, singleRejection canonicalSha256 case call disposition reason fallback)
    | none =>
      match replacementTrajectory canonicalSha256 case call.observation call.update with
      | .error fault => (replanner, .error fault)
      | .ok trajectory =>
        if !(auditTrajectory case.dynamics trajectory.trajectory (ofRat 0.01)).passed then
          (replanner, singleRejection canonicalSha256 case call .blocked
            "replacement trajectory violates dynamics" .abortAndLand)
        else
          match acceptance canonicalSha256 replanner call trajectory with
          | .error fault => (replanner, .error fault)
          | .ok decision => (replanner.record call.update decision, .ok decision)

end Replan

end SingleDroneReplanner

end CrazySwarm
