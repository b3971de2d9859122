import CrazySwarm.Numbers
import CrazySwarm.Lib.Dict

/-! Campaign cases and planning submissions: the world and the drones of a case, its hard
constraints and search settings, and the authority under which a plan for it is searched. -/
namespace CrazySwarm
open PyFloat PyMath

variable {F : Type} [PyMath F]

structure Region3D (F : Type) where
  regionId : String
  minimumM : Vector3 F
  maximumM : Vector3 F
  deriving DecidableEq, Repr

/-- What the campaign code raises. -/
inductive PyError where
  | keyError (key : String)
  | valueError (message : String)
  | assertionError
  | stopIteration
  | validation (model : String) (fields : List String)
  deriving DecidableEq, Repr

/-- Construct a contract model whose named field checks must all pass. -/
def checked (model : String) (checks : List (String × Bool)) : Except PyError Unit :=
  if checks.all (·.2) then .ok ()
  else .error (.validation model ((checks.filter (!·.2)).map (·.1)))

@[simp] theorem checked_eq_ok {model : String} {checks : List (String × Bool)} {u : Unit} :
    checked model checks = .ok u ↔ ∀ check ∈ checks, check.2 = true := by
  unfold checked
  split <;> simp_all

namespace Region3D

/-- `ordered`. -/
def ordered (region : Region3D F) : Bool :=
  le region.minimumM.x region.maximumM.x && le region.minimumM.y region.maximumM.y &&
    le region.minimumM.z region.maximumM.z

/-- `center_m`. -/
def center (region : Region3D F) : Vector3 F :=
  { x := (region.minimumM.x + region.maximumM.x) / ofRat 2
    y := (region.minimumM.y + region.maximumM.y) / ofRat 2
    z := (region.minimumM.z + region.maximumM.z) / ofRat 2 }

/-- `contains`, with no margin. -/
def contains (region : Region3D F) (point : Vector3 F) : Bool :=
  (le region.minimumM.x point.x && le point.x region.maximumM.x) &&
  (le region.minimumM.y point.y && le point.y region.maximumM.y) &&
  (le region.minimumM.z point.z && le point.z region.maximumM.z)

end Region3D

inductive PlannerStrategy where
  | direct | groundDelay | airborneStaging | speedRetiming | horizontalDetour | verticalLayer
  | combinedTimingGeometry
  deriving DecidableEq, Repr

inductive ObjectiveMetric where
  | priorityInversion | starvation | missionCompletionTimeS | maximumWaitS | totalEnergyPercent
  | airborneHoverTimeS | pathLengthM | accelerationMS2 | jerkMS3 | separationRobustnessM
  | boundaryRobustnessM | pathFidelityM | regionCaptureErrorM
  | integratedSquaredAccelerationM2S3 | integratedSquaredJerkM2S5 | energyReservePercent
  | affectedRoleCount | cutoverLatencyS
  deriving DecidableEq, Repr

inductive RouteNodeMode where
  | flyThrough | capture | captureAndHold | reversal
  deriving DecidableEq, Repr

structure EnvironmentConstraints (F : Type) where
  keepOutRegions : List (Region3D F) := []
  requiredCorridors : List (Region3D F) := []
  deriving DecidableEq, Repr

structure CoordinationConstraints (F : Type) where
  synchronizedRouteStartRequired : Bool := false
  maximumRouteStartSkewS : F
  minimumSimultaneousFlightS : F
  maximumFormationErrorM : Option F := none
  formationOffsetsM : Dict String (Vector3 F) := .empty
  formationOffsetsByNodeM : Dict String (List (Vector3 F)) := .empty

structure CaseSemantics (F : Type) where
  environmentConstraints : EnvironmentConstraints F := {}
  coordinationConstraints : CoordinationConstraints F
  /-- The threshold of the first required `PRIORITY_PRECEDENCE` oracle; zero where it has none. -/
  precedenceThreshold : Option F := none

structure DroneCase (F : Type) where
  roleId : String
  startRegion : Region3D F
  goalSequence : List (Region3D F)
  landingRegion : Region3D F
  initialBatteryPercent : F
  minimumReserveBatteryPercent : F
  priority : Nat
  deriving DecidableEq, Repr

structure DynamicsLimits (F : Type) where
  maximumHorizontalSpeedMS : F
  maximumVerticalSpeedMS : F
  maximumAccelerationMS2 : F
  maximumJerkMS3 : F
  deriving DecidableEq, Repr

structure HardConstraints (F : Type) where
  flightVolume : Region3D F
  warningSeparationM : F
  positionUncertaintyM : F
  dynamics : DynamicsLimits F
  deadlineS : F
  hoverAllowed : Bool := true
  maximumHoverS : F
  verticalLayersAllowed : Bool := true
  synchronizedLaunchRequired : Bool := false
  maximumUnrequiredAirborneWaitS : F
  minimumRealtimeFactor : F
  watchdogGuardS : F
  planningBudgetS : F
  deriving DecidableEq, Repr

structure SearchSettings (F : Type) where
  predictionStepS : F
  maximumCandidateCount : Nat
  planningBudgetS : F
  delayGridS : List F
  deriving DecidableEq, Repr

structure CaseData (F : Type) where
  caseId : String
  family : String
  parentCaseSha256 : Option String := none
  drones : List (DroneCase F)
  hardConstraints : HardConstraints F
  allowedStrategies : List PlannerStrategy
  search : SearchSettings F
  semantics : Option (CaseSemantics F) := none

namespace DroneCase

/-- The field checks and `capabilities_and_reserve`. -/
def valid (drone : DroneCase F) : Bool :=
  isIdentifier drone.roleId && drone.startRegion.ordered && !drone.goalSequence.isEmpty &&
    drone.goalSequence.all Region3D.ordered && drone.landingRegion.ordered &&
    (ge drone.initialBatteryPercent zero && atMost drone.initialBatteryPercent (ofRat 100)) &&
    (ge drone.minimumReserveBatteryPercent zero &&
      atMost drone.minimumReserveBatteryPercent (ofRat 100)) &&
    drone.priority ≤ 1000 &&
    !lt drone.initialBatteryPercent drone.minimumReserveBatteryPercent

end DroneCase

namespace HardConstraints

/-- The field checks and `separation_order`. -/
def fieldChecks (constraints : HardConstraints F) : List (String × Bool) :=
  [("flight_volume", constraints.flightVolume.ordered),
   ("warning_separation_m", gt constraints.warningSeparationM zero),
   ("position_uncertainty_m", ge constraints.positionUncertaintyM zero),
   ("dynamics", gt constraints.dynamics.maximumHorizontalSpeedMS zero &&
    gt constraints.dynamics.maximumVerticalSpeedMS zero &&
    gt constraints.dynamics.maximumAccelerationMS2 zero &&
    gt constraints.dynamics.maximumJerkMS3 zero),
   ("deadline_s", gt constraints.deadlineS zero),
   ("maximum_hover_s", ge constraints.maximumHoverS zero &&
    (constraints.hoverAllowed || eq constraints.maximumHoverS zero)),
   ("maximum_unrequired_airborne_wait_s", ge constraints.maximumUnrequiredAirborneWaitS zero),
   ("minimum_realtime_factor", gt constraints.minimumRealtimeFactor zero &&
    atMost constraints.minimumRealtimeFactor (ofRat 10)),
   ("watchdog_guard_s", ge constraints.watchdogGuardS zero),
   ("planning_budget_s", gt constraints.planningBudgetS zero &&
    atMost constraints.planningBudgetS (ofRat 10))]

end HardConstraints

namespace SearchSettings

/-- The field checks and `bounded_grids`. -/
def fieldChecks (search : SearchSettings F) : List (String × Bool) :=
  [("prediction_step_s", gt search.predictionStepS zero &&
    atMost search.predictionStepS (ofRat 0.02)),
   ("maximum_candidate_count", 1 ≤ search.maximumCandidateCount &&
    search.maximumCandidateCount ≤ 4096),
   ("planning_budget_s", gt search.planningBudgetS zero &&
    atMost search.planningBudgetS (ofRat 60)),
   ("delay_grid_s", !search.delayGridS.isEmpty && search.delayGridS.length ≤ 16 &&
    search.delayGridS.all fun value => !lt value zero)]

end SearchSettings

namespace CaseData

def keepOutRegions (data : CaseData F) : List (Region3D F) :=
  (data.semantics.map fun semantics => semantics.environmentConstraints.keepOutRegions).getD []

def requiredCorridors (data : CaseData F) : List (Region3D F) :=
  (data.semantics.map fun semantics => semantics.environmentConstraints.requiredCorridors).getD []

/-- `complete_and_safe`, as far as it is about the fields kept here. -/
def validate (data : CaseData F) : Except PyError Unit := do
  checked "CampaignCase"
    [("case_id", isIdentifier data.caseId), ("family", isIdentifier data.family),
     ("drones", 1 ≤ data.drones.length && data.drones.length ≤ 3 && data.drones.all DroneCase.valid),
     ("allowed_strategies", !data.allowedStrategies.isEmpty)]
  checked "HardConstraints" data.hardConstraints.fieldChecks
  checked "SearchSettings" data.search.fieldChecks
  require (decide (data.drones.map DroneCase.roleId).Nodup)
    (.valueError "drone role IDs must be unique")
  require (decide data.allowedStrategies.Nodup) (.valueError "allowed strategies must be unique")
  require (data.hardConstraints.verticalLayersAllowed ||
      !(data.allowedStrategies.contains .verticalLayer ||
        data.allowedStrategies.contains .combinedTimingGeometry))
    (.valueError "vertical strategy is unsupported when vertical layers are forbidden")
  data.drones.forM fun drone =>
    require (data.hardConstraints.flightVolume.contains drone.startRegion.center &&
        (drone.goalSequence.all fun goal =>
          data.hardConstraints.flightVolume.contains goal.center) &&
        data.hardConstraints.flightVolume.contains drone.landingRegion.center)
      (.valueError ("role " ++ drone.roleId ++ " geometry leaves the flight volume"))
  (data.keepOutRegions ++ data.requiredCorridors).forM fun region =>
    require (data.hardConstraints.flightVolume.contains region.minimumM &&
        data.hardConstraints.flightVolume.contains region.maximumM)
      (.valueError ("semantic region " ++ region.regionId ++ " leaves the flight volume"))

end CaseData

theorem CaseData.validate_eq_ok {data : CaseData F} (ok : data.validate = .ok ()) :
    (∀ drone ∈ data.drones, drone.valid = true) ∧
      (∀ check ∈ data.hardConstraints.fieldChecks, check.2 = true) ∧
      ∀ check ∈ data.search.fieldChecks, check.2 = true := by
  unfold CaseData.validate at ok
  obtain ⟨_, fields, ok⟩ := bind_eq_ok.mp ok
  obtain ⟨_, constraints, ok⟩ := bind_eq_ok.mp ok
  obtain ⟨_, search, -⟩ := bind_eq_ok.mp ok
  have drones := checked_eq_ok.mp fields
    ("drones", 1 ≤ data.drones.length && data.drones.length ≤ 3 && data.drones.all DroneCase.valid)
    (by simp)
  simp only [Bool.and_eq_true, List.all_eq_true] at drones
  exact ⟨drones.2, checked_eq_ok.mp constraints, checked_eq_ok.mp search⟩

/-- A case that does not validate cannot be built. -/
structure CampaignCase (F : Type) [PyMath F] extends CaseData F where
  valid : toCaseData.validate = .ok ()

inductive PathAdherenceMode where
  | exactRoute | hardTube | requiredRegions | softReference | goalSequenceOnly | routeCorridor
  | authoredCenterline
  deriving DecidableEq, Repr

/-- The modes with no hard limit on the deviation. -/
def PathAdherenceMode.withoutDeviation (mode : PathAdherenceMode) : Bool :=
  mode ∈ [goalSequenceOnly, requiredRegions, softReference]

/-- A policy that fails `deviation_matches_mode` cannot be built. -/
structure PathAdherencePolicy (F : Type) [PyFloat F] where
  mode : PathAdherenceMode := .goalSequenceOnly
  maximumCenterlineDeviationM : Option F := none
  positive : maximumCenterlineDeviationM.all (gt · zero) = true
  matchesMode : maximumCenterlineDeviationM.isNone = mode.withoutDeviation
  exactTolerance : (mode != .exactRoute ||
    maximumCenterlineDeviationM.all fun limit => !lt (ofRat 0.03) limit) = true

structure ClearancePolicy (F : Type) where
  nominalVehicleRadiusM : F
  nominalVehicleHalfHeightM : F
  requiredPairwiseCenterSeparationM : F
  requiredSolidClearanceM : F
  uncertaintyAllowanceM : F
  deriving DecidableEq, Repr

structure CoordinationPolicy (F : Type) where
  synchronizedLaunchRequired : Bool
  synchronizedRouteStartRequired : Bool
  maximumRouteStartSkewS : F
  minimumSimultaneousFlightS : F
  maximumReleaseDelayS : F
  deriving DecidableEq, Repr

inductive PlanningSelectionOracle where
  | objectiveOrder | argminBoundedRelease | argmaxBoundedClearance
  deriving DecidableEq, Repr

inductive ObjectiveComposition where
  | lexicographic | weightedSum
  deriving DecidableEq, Repr

structure PlanningObjectiveTerm (F : Type) where
  metric : ObjectiveMetric
  weight : Option F := none
  deriving DecidableEq, Repr

/-- An objective that fails `complete_semantics` cannot be built. -/
structure PlanningObjective (F : Type) where
  composition : ObjectiveComposition := .lexicographic
  terms : List (PlanningObjectiveTerm F)
  nonempty : terms ≠ []
  distinct : (terms.map PlanningObjectiveTerm.metric).Nodup
  weights : ∀ term ∈ terms, term.weight.isSome = (composition == .weightedSum)

def baselinePlanningSubmissionId : String := "case_planning_authority"

structure PlanningSubmission (F : Type) [PyFloat F] where
  planningSubmissionId : String
  strategyAuthority : List PlannerStrategy
  pathAdherence : PathAdherencePolicy F
  clearance : ClearancePolicy F
  coordination : CoordinationPolicy F
  objective : PlanningObjective F
  selectionOracle : PlanningSelectionOracle := .objectiveOrder
  uniqueAuthority : strategyAuthority.Nodup

end CrazySwarm
