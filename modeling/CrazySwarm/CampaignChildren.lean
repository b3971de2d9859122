import CrazySwarm.CampaignService
import CrazySwarm.Replanning

/-! Child cases. The fields of a case that its authors set beside those a plan is searched with, the
check that a child does not weaken its parent, and what a child may not weaken. The check compares a
list of fields, and the metric gates and the behavior oracles are not on it. -/
namespace CrazySwarm
open PyFloat

inductive EnvironmentKind where
  | simulation | real
  deriving DecidableEq, Repr

inductive AuthorizationStatus where
  | softwareSimulationOnly | notAuthorized
  deriving DecidableEq, Repr

inductive ImplementationStatus where
  | executable | plannedNotExecutable
  deriving DecidableEq, Repr

inductive ExecutionEligibility where
  | staticValidateOnly | automatedAccelerated | operatorObservedRealtime | both
  deriving DecidableEq, Repr

inductive MetricComparator where
  | lessThanOrEqual | greaterThanOrEqual | equal
  deriving DecidableEq, Repr

inductive BehaviorOracleKind where
  | routeNodesCaptured | holdDuration | noUndeclaredStop | altitudeTransition | curvedPath
  | closedShape | distinctStartAndLanding | synchronizedRouteStart | minimumFlightOverlap
  | formationError | conflictResolved | boundaryMargin | keepOutAvoided | noAirborneHold
  | priorityPrecedence | constraintEnforced | unaffectedRoleNoninterference | eventHandled
  | acceptedEventGoalsCaptured
  deriving DecidableEq, Repr

inductive OracleEvidenceSource where
  | authoredRoute | plannerPrediction | executionTelemetry | eventTrace
  deriving DecidableEq, Repr

structure MetricGate (F : Type) where
  metricId : String
  comparator : MetricComparator
  threshold : F
  unit : String
  deriving DecidableEq, Repr

structure BehaviorOracle (F : Type) where
  oracleId : String
  kind : BehaviorOracleKind
  evidenceSource : OracleEvidenceSource
  roleIds : List String := []
  threshold : Option F := none
  unit : Option String := none
  required : Bool := true
  deriving DecidableEq, Repr

structure ModeComparisonTolerances (F : Type) where
  schemaVersion : Nat := 1
  maximumSourceClockTargetErrorDifferenceS : F
  maximumTruthPathLengthDifferenceM : F
  maximumTrackingRmsDifferenceM : F
  maximumMinimumSeparationDifferenceM : F
  deriving DecidableEq, Repr

/-- The hard constraints that no plan is searched with. -/
structure FurtherConstraints (F : Type) where
  criticalSeparationM : F
  stopSpeedThresholdMS : F
  unintendedStopPersistenceS : F
  maximumEqualRouteBatterySpreadPercent : F
  observationFreshnessLimitS : F
  minimumGoalUpdateIntervalS : F
  modeComparison : ModeComparisonTolerances F
  deriving DecidableEq, Repr

structure AuthoredCase (F : Type) [PyMath F] extends CampaignCase F where
  further : FurtherConstraints F
  environment : EnvironmentKind := .simulation
  authorization : AuthorizationStatus := .softwareSimulationOnly
  implementationStatus : ImplementationStatus := .executable
  executionEligibility : ExecutionEligibility := .both
  replanningAuthority : ReplanningAuthority := .abortOnly
  passFailMetrics : List (MetricGate F)
  /-- The oracles of the semantics; none without semantics. -/
  behaviorOracles : List (BehaviorOracle F) := []
  /-- Of the coordination constraints of the semantics. -/
  maximumFormationErrorM : Option F := none

variable {F : Type} [PyMath F]

/-- `_required_modes`. -/
def requiredModes : ExecutionEligibility → List CampaignRunMode
  | .both => [.automatedAccelerated, .operatorObservedRealtime]
  | .automatedAccelerated => [.automatedAccelerated]
  | .operatorObservedRealtime => [.operatorObservedRealtime]
  | .staticValidateOnly => []

/-- `_assert_mode_eligible`. -/
def assertModeEligible (eligible : ExecutionEligibility) (mode : CampaignRunMode) :
    Except CampaignRaised Unit := do
  require (eligible ≠ .staticValidateOnly)
    (.exception "PermissionError" "case is eligible only for static validation")
  require (mode ≠ .automatedAccelerated || eligible ∈ [.automatedAccelerated, .both])
    (.exception "PermissionError" "case is not eligible for accelerated execution")
  require (mode ≠ .operatorObservedRealtime || eligible ∈ [.operatorObservedRealtime, .both])
    (.exception "PermissionError" "case is not eligible for operator-observed realtime execution")

/-- `authority_rank`. -/
def authorityRank : ReplanningAuthority → Nat
  | .abortOnly => 0
  | .operatorApprovalRequired => 1
  | .autoWithinFrozenLimits => 2

namespace AuthoredCase

/-- The fields where a child may not go below its parent, with their values. -/
def minimumFields (data : AuthoredCase F) : List (String × F) :=
  [("warning_separation_m", data.hardConstraints.warningSeparationM),
   ("critical_separation_m", data.further.criticalSeparationM),
   ("position_uncertainty_m", data.hardConstraints.positionUncertaintyM),
   ("minimum_realtime_factor", data.hardConstraints.minimumRealtimeFactor),
   ("minimum_goal_update_interval_s", data.further.minimumGoalUpdateIntervalS),
   ("watchdog_guard_s", data.hardConstraints.watchdogGuardS),
   ("dynamics.stop_speed_threshold_m_s", data.further.stopSpeedThresholdMS)]

/-- The fields where a child may not go above its parent, with their values. -/
def maximumFields (data : AuthoredCase F) : List (String × F) :=
  [("deadline_s", data.hardConstraints.deadlineS),
   ("maximum_hover_s", data.hardConstraints.maximumHoverS),
   ("maximum_unrequired_airborne_wait_s", data.hardConstraints.maximumUnrequiredAirborneWaitS),
   ("maximum_equal_route_battery_spread_percent", data.further.maximumEqualRouteBatterySpreadPercent),
   ("observation_freshness_limit_s", data.further.observationFreshnessLimitS),
   ("planning_budget_s", data.hardConstraints.planningBudgetS),
   ("dynamics.maximum_horizontal_speed_m_s", data.hardConstraints.dynamics.maximumHorizontalSpeedMS),
   ("dynamics.maximum_vertical_speed_m_s", data.hardConstraints.dynamics.maximumVerticalSpeedMS),
   ("dynamics.maximum_acceleration_m_s2", data.hardConstraints.dynamics.maximumAccelerationMS2),
   ("dynamics.maximum_jerk_m_s3", data.hardConstraints.dynamics.maximumJerkMS3),
   ("dynamics.unintended_stop_persistence_s", data.further.unintendedStopPersistenceS),
   ("mode_comparison.maximum_source_clock_target_error_difference_s",
     data.further.modeComparison.maximumSourceClockTargetErrorDifferenceS),
   ("mode_comparison.maximum_truth_path_length_difference_m",
     data.further.modeComparison.maximumTruthPathLengthDifferenceM),
   ("mode_comparison.maximum_tracking_rms_difference_m",
     data.further.modeComparison.maximumTrackingRmsDifferenceM),
   ("mode_comparison.maximum_minimum_separation_difference_m",
     data.further.modeComparison.maximumMinimumSeparationDifferenceM)]

/-- `parent_drone_by_role.get`: the last drone of the role. -/
def droneOfRole (data : AuthoredCase F) (roleId : String) : Option (DroneCase F) :=
  (Dict.ofList (data.drones.map fun drone => (drone.roleId, drone))).get? roleId

end AuthoredCase

/-- The conditions of the check, each under the field whose violation it reports. -/
def childChecks (parent child : AuthoredCase F) : List (String × Bool) :=
  let before := parent.hardConstraints
  let after := child.hardConstraints
  [("hard_constraints.flight_volume", before.flightVolume.contains after.flightVolume.minimumM &&
      before.flightVolume.contains after.flightVolume.maximumM),
   ("environment", parent.environment = child.environment),
   ("authorization", parent.authorization = child.authorization),
   ("drone_count", child.drones.length = parent.drones.length),
   ("drones.role_ids", (child.drones.all fun drone => drone.roleId ∈ parent.drones.map DroneCase.roleId) &&
      parent.drones.all fun drone => drone.roleId ∈ child.drones.map DroneCase.roleId),
   ("allowed_strategies", child.allowedStrategies.all (· ∈ parent.allowedStrategies)),
   ("implementation_status", parent.implementationStatus ≠ .plannedNotExecutable ||
      child.implementationStatus = .plannedNotExecutable),
   ("execution_eligibility", (requiredModes child.executionEligibility).all
      (· ∈ requiredModes parent.executionEligibility)),
   ("replanning_authority",
      authorityRank child.replanningAuthority ≤ authorityRank parent.replanningAuthority)] ++
  (parent.minimumFields.zip child.minimumFields).map (fun pair =>
    ("hard_constraints." ++ pair.1.1, le pair.1.2 pair.2.2)) ++
  (parent.maximumFields.zip child.maximumFields).map (fun pair =>
    ("hard_constraints." ++ pair.1.1, le pair.2.2 pair.1.2)) ++
  [("hard_constraints.hover_allowed", before.hoverAllowed || !after.hoverAllowed),
   ("hard_constraints.vertical_layers_allowed",
      before.verticalLayersAllowed || !after.verticalLayersAllowed),
   ("hard_constraints.synchronized_launch_required",
      !before.synchronizedLaunchRequired || after.synchronizedLaunchRequired),
   ("hard_constraints.mode_comparison.schema_version",
      child.further.modeComparison.schemaVersion ≤ parent.further.modeComparison.schemaVersion)] ++
  child.drones.map fun drone =>
    ("drones." ++ drone.roleId ++ ".minimum_reserve_battery_percent",
      (parent.droneOfRole drone.roleId).all fun source =>
        le source.minimumReserveBatteryPercent drone.minimumReserveBatteryPercent)

/-- `_assert_child_safety_is_monotone`: it raises the violated fields in order, each once. -/
def assertChildSafetyIsMonotone (parent child : AuthoredCase F) : Except PyError Unit :=
  let violations := ((childChecks parent child).filter (!·.2)).map (·.1)
  require violations.isEmpty
    (.valueError ("child case weakens parent authority or safety bounds: " ++
      ", ".intercalate (Sorting.sortBy id violations.dedup)))

/-! What a child may not weaken. -/

/-- One role of a flight, by what the hard constraints are about. -/
structure RoleFlight (F : Type) where
  roleId : String
  positions : List (Vector3 F)
  horizontalSpeeds : List F
  verticalSpeeds : List F
  accelerations : List F
  jerks : List F
  /-- The stays below a speed that the route does not declare, with their durations. -/
  undeclaredStays : List (F × F)
  hovers : List F
  unrequiredWaits : List F
  changesLayer : Bool
  launchS : F
  finalBatteryPercent : F

structure Flight (F : Type) where
  roles : List (RoleFlight F)
  separations : List F
  completionS : F
  batterySpreadPercent : F
  realtimeFactor : F
  observationAges : List F
  goalUpdateIntervals : List F
  planningTimes : List F

namespace AuthoredCase

/-- The separation that the planner asks for. -/
def requiredSeparationM (data : AuthoredCase F) : F :=
  data.hardConstraints.warningSeparationM + data.hardConstraints.positionUncertaintyM

structure MeetsRole (data : AuthoredCase F) (role : RoleFlight F) : Prop where
  volume : ∀ point ∈ role.positions, data.hardConstraints.flightVolume.contains point = true
  horizontal : ∀ speed ∈ role.horizontalSpeeds,
    le speed data.hardConstraints.dynamics.maximumHorizontalSpeedMS = true
  vertical : ∀ speed ∈ role.verticalSpeeds,
    le speed data.hardConstraints.dynamics.maximumVerticalSpeedMS = true
  acceleration : ∀ value ∈ role.accelerations,
    le value data.hardConstraints.dynamics.maximumAccelerationMS2 = true
  jerk : ∀ value ∈ role.jerks, le value data.hardConstraints.dynamics.maximumJerkMS3 = true
  stops : ∀ stay ∈ role.undeclaredStays, le stay.1 data.further.stopSpeedThresholdMS = true →
    le data.further.unintendedStopPersistenceS stay.2 = false
  hoverAllowed : role.hovers = [] ∨ data.hardConstraints.hoverAllowed = true
  hover : ∀ duration ∈ role.hovers, le duration data.hardConstraints.maximumHoverS = true
  wait : ∀ duration ∈ role.unrequiredWaits,
    le duration data.hardConstraints.maximumUnrequiredAirborneWaitS = true
  layers : role.changesLayer = true → data.hardConstraints.verticalLayersAllowed = true
  reserve : ∀ drone ∈ data.drones, drone.roleId = role.roleId →
    le drone.minimumReserveBatteryPercent role.finalBatteryPercent = true

structure Meets (data : AuthoredCase F) (flight : Flight F) : Prop where
  roles : ∀ role ∈ flight.roles, data.MeetsRole role
  required : ∀ separation ∈ flight.separations, le data.requiredSeparationM separation = true
  warning : ∀ separation ∈ flight.separations,
    le data.hardConstraints.warningSeparationM separation = true
  critical : ∀ separation ∈ flight.separations,
    le data.further.criticalSeparationM separation = true
  deadline : le flight.completionS data.hardConstraints.deadlineS = true
  synchronized : data.hardConstraints.synchronizedLaunchRequired = true →
    ∀ first ∈ flight.roles, ∀ second ∈ flight.roles, eq first.launchS second.launchS = true
  battery : le flight.batterySpreadPercent
    data.further.maximumEqualRouteBatterySpreadPercent = true
  realtime : le data.hardConstraints.minimumRealtimeFactor flight.realtimeFactor = true
  freshness : ∀ age ∈ flight.observationAges,
    le age data.further.observationFreshnessLimitS = true
  goalUpdates : ∀ interval ∈ flight.goalUpdateIntervals,
    le data.further.minimumGoalUpdateIntervalS interval = true
  planning : ∀ duration ∈ flight.planningTimes,
    le duration data.hardConstraints.planningBudgetS = true

end AuthoredCase

def MetricComparator.stricter (comparator : MetricComparator) (old new : F) : Bool :=
  match comparator with
  | .lessThanOrEqual => le new old
  | .greaterThanOrEqual => le old new
  | .equal => eq new old

/-- How the evaluation of an oracle compares what it observes with the threshold. -/
def BehaviorOracleKind.comparator : BehaviorOracleKind → Option MetricComparator
  | .routeNodesCaptured | .constraintEnforced | .eventHandled => none
  | .holdDuration | .noUndeclaredStop | .closedShape | .synchronizedRouteStart | .formationError
  | .keepOutAvoided | .noAirborneHold | .unaffectedRoleNoninterference => some .lessThanOrEqual
  | .altitudeTransition | .curvedPath | .distinctStartAndLanding | .minimumFlightOverlap
  | .conflictResolved | .boundaryMargin | .priorityPrecedence
  | .acceptedEventGoalsCaptured => some .greaterThanOrEqual

/-- `value or default`. -/
def orDefault (value : Option F) (default : F) : F :=
  value.elim default fun value => if eq value zero then default else value

def AuthoredCase.threshold (data : AuthoredCase F) (oracle : BehaviorOracle F) : F :=
  if oracle.kind = .formationError then
    orDefault oracle.threshold (orDefault data.maximumFormationErrorM zero)
  else if oracle.kind = .acceptedEventGoalsCaptured then orDefault oracle.threshold (ofRat 1)
  else orDefault oracle.threshold zero

/-- A gate of the child stands for a gate of the parent. -/
def MetricGate.keeps (old new : MetricGate F) : Bool :=
  new.metricId = old.metricId && new.comparator = old.comparator && new.unit = old.unit &&
    old.comparator.stricter old.threshold new.threshold

def keepsOracle (parent child : AuthoredCase F) (old new : BehaviorOracle F) : Bool :=
  new.oracleId = old.oracleId && new.kind = old.kind &&
    new.evidenceSource = old.evidenceSource && new.roleIds = old.roleIds && new.required &&
    old.kind.comparator.all fun comparator =>
      comparator.stricter (parent.threshold old) (child.threshold new)

/-- The two lists that the check does not read lose no entry and loosen none. -/
def keepsEvidence (parent child : AuthoredCase F) : Bool :=
  (parent.passFailMetrics.all fun old => child.passFailMetrics.any old.keeps) &&
    (parent.behaviorOracles.filter (·.required)).all fun old =>
      child.behaviorOracles.any (keepsOracle parent child old)

structure NeverWeakens (parent child : AuthoredCase F) : Prop where
  flights : ∀ flight, child.Meets flight → parent.Meets flight
  modes : ∀ mode, assertModeEligible child.executionEligibility mode = .ok () →
    assertModeEligible parent.executionEligibility mode = .ok ()
  strategies : ∀ strategy ∈ child.allowedStrategies, strategy ∈ parent.allowedStrategies
  gates : ∀ old ∈ parent.passFailMetrics, ∃ new ∈ child.passFailMetrics, old.keeps new = true
  oracles : ∀ old ∈ parent.behaviorOracles, old.required = true →
    ∃ new ∈ child.behaviorOracles, keepsOracle parent child old new = true

/-- The addition of IEEE numbers is monotone where it cannot meet opposite infinities. -/
class MonotoneSum (F : Type) [PyMath F] : Prop extends IeeeOrder F where
  zero_number : eq (zero : F) zero = true
  add_mono {a b c d : F} : le zero a = true → le zero c = true → le a b = true → le c d = true →
    le (a + c) (b + d) = true

instance : MonotoneSum ℚ where
  zero_number := by simp [PyFloat.eq]
  add_mono _ _ := by
    simp only [PyFloat.le, decide_eq_true_eq]
    exact add_le_add

/-! Accepted children. -/
section Accepted

variable [MonotoneSum F] {parent child : AuthoredCase F}

omit [MonotoneSum F] in
theorem accepted_iff :
    assertChildSafetyIsMonotone parent child = .ok () ↔
      ∀ check ∈ childChecks parent child, check.2 = true := by
  simp [assertChildSafetyIsMonotone, List.isEmpty_iff, List.filter_eq_nil_iff]

omit [MonotoneSum F] in
theorem minimum_kept (accepted : ∀ check ∈ childChecks parent child, check.2 = true)
    (name : String) {old new : F}
    (member : ((name, old), name, new) ∈ parent.minimumFields.zip child.minimumFields) :
    le old new = true := by
  refine accepted ("hard_constraints." ++ name, le old new) ?_
  simp only [childChecks, List.mem_append, List.mem_map]
  exact .inl (.inl (.inl (.inr ⟨_, member, rfl⟩)))

omit [MonotoneSum F] in
theorem maximum_kept (accepted : ∀ check ∈ childChecks parent child, check.2 = true)
    (name : String) {old new : F}
    (member : ((name, old), name, new) ∈ parent.maximumFields.zip child.maximumFields) :
    le new old = true := by
  refine accepted ("hard_constraints." ++ name, le new old) ?_
  simp only [childChecks, List.mem_append, List.mem_map]
  exact .inl (.inl (.inr ⟨_, member, rfl⟩))

/-- A bound below another is a number, and one that passes its own check is not negative. -/
theorem zero_le {old new : F} (kept : le old new = true) (nonneg : lt old zero = false) :
    le zero old = true := by
  refine IeeeOrder.le_of_not_lt MonotoneSum.zero_number ?_ nonneg
  rcases (IeeeOrder.le_iff old new).mp kept with below | same
  · exact (IeeeOrder.number_of_lt below).1
  · exact IeeeOrder.eq_trans same (IeeeOrder.eq_symm same)

/-- A region with both corners of another inside holds all of it. -/
theorem Region3D.contains_trans {outer inner : Region3D F} {point : Vector3 F}
    (least : outer.contains inner.minimumM = true) (most : outer.contains inner.maximumM = true)
    (inside : inner.contains point = true) : outer.contains point = true := by
  simp only [contains, Bool.and_eq_true] at *
  obtain ⟨⟨⟨x, -⟩, y, -⟩, z, -⟩ := least
  obtain ⟨⟨⟨-, x'⟩, -, y'⟩, -, z'⟩ := most
  obtain ⟨⟨⟨a, a'⟩, b, b'⟩, c, c'⟩ := inside
  exact ⟨⟨⟨IeeeOrder.le_trans x a, IeeeOrder.le_trans a' x'⟩, IeeeOrder.le_trans y b,
    IeeeOrder.le_trans b' y'⟩, IeeeOrder.le_trans z c, IeeeOrder.le_trans c' z'⟩

omit [MonotoneSum F] in
theorem CampaignCase.roles_nodup (data : CampaignCase F) :
    (data.drones.map DroneCase.roleId).Nodup := by
  have ok := data.valid
  unfold CaseData.validate at ok
  obtain ⟨_, -, ok⟩ := bind_eq_ok.mp ok
  obtain ⟨_, -, ok⟩ := bind_eq_ok.mp ok
  obtain ⟨_, -, ok⟩ := bind_eq_ok.mp ok
  obtain ⟨_, unique, -⟩ := bind_eq_ok.mp ok
  simpa using unique

omit [MonotoneSum F] in
theorem droneOfRole_eq_some {drone : DroneCase F} (member : drone ∈ parent.drones) :
    parent.droneOfRole drone.roleId = some drone := by
  refine Dict.get?_ofList_of_mem ?_ (List.mem_map.mpr ⟨drone, member, rfl⟩)
  rw [List.map_map]
  exact parent.roles_nodup

omit [MonotoneSum F] in
theorem reserve_kept (accepted : ∀ check ∈ childChecks parent child, check.2 = true)
    {source : DroneCase F} (member : source ∈ parent.drones) :
    ∃ drone ∈ child.drones, drone.roleId = source.roleId ∧
      le source.minimumReserveBatteryPercent drone.minimumReserveBatteryPercent = true := by
  have roles := accepted ("drones.role_ids",
    (child.drones.all fun drone => drone.roleId ∈ parent.drones.map DroneCase.roleId) &&
      parent.drones.all fun drone => drone.roleId ∈ child.drones.map DroneCase.roleId)
    (by simp [childChecks])
  simp only [Bool.and_eq_true, List.all_eq_true, decide_eq_true_eq] at roles
  obtain ⟨drone, present, same⟩ := List.mem_map.mp (roles.2 source member)
  have kept := accepted ("drones." ++ drone.roleId ++ ".minimum_reserve_battery_percent",
    (parent.droneOfRole drone.roleId).all fun source =>
      le source.minimumReserveBatteryPercent drone.minimumReserveBatteryPercent) (by
    simp only [childChecks, List.mem_append, List.mem_map]
    exact .inr ⟨drone, present, rfl⟩)
  rw [same, droneOfRole_eq_some member] at kept
  exact ⟨drone, present, same, kept⟩

theorem role_kept (accepted : ∀ check ∈ childChecks parent child, check.2 = true)
    {role : RoleFlight F} (meets : child.MeetsRole role) : parent.MeetsRole role where
  volume point member := by
    have kept := accepted ("hard_constraints.flight_volume",
      parent.hardConstraints.flightVolume.contains child.hardConstraints.flightVolume.minimumM &&
      parent.hardConstraints.flightVolume.contains child.hardConstraints.flightVolume.maximumM)
      (by simp [childChecks])
    rw [Bool.and_eq_true] at kept
    exact Region3D.contains_trans kept.1 kept.2 (meets.volume point member)
  horizontal speed member := IeeeOrder.le_trans (meets.horizontal speed member)
    (maximum_kept accepted "dynamics.maximum_horizontal_speed_m_s" (by
      simp [AuthoredCase.maximumFields]))
  vertical speed member := IeeeOrder.le_trans (meets.vertical speed member)
    (maximum_kept accepted "dynamics.maximum_vertical_speed_m_s" (by
      simp [AuthoredCase.maximumFields]))
  acceleration value member := IeeeOrder.le_trans (meets.acceleration value member)
    (maximum_kept accepted "dynamics.maximum_acceleration_m_s2" (by
      simp [AuthoredCase.maximumFields]))
  jerk value member := IeeeOrder.le_trans (meets.jerk value member)
    (maximum_kept accepted "dynamics.maximum_jerk_m_s3" (by simp [AuthoredCase.maximumFields]))
  stops stay member slow := by
    have slower : le stay.1 child.further.stopSpeedThresholdMS = true :=
      IeeeOrder.le_trans slow (minimum_kept accepted "dynamics.stop_speed_threshold_m_s" (by
        simp [AuthoredCase.minimumFields]))
    have sooner : le child.further.unintendedStopPersistenceS
        parent.further.unintendedStopPersistenceS = true :=
      maximum_kept accepted "dynamics.unintended_stop_persistence_s" (by
        simp [AuthoredCase.maximumFields])
    have brief := meets.stops stay member slower
    by_contra long
    rw [IeeeOrder.le_trans sooner (by simpa using long)] at brief
    cases brief
  hoverAllowed := by
    have kept := accepted ("hard_constraints.hover_allowed",
      parent.hardConstraints.hoverAllowed || !child.hardConstraints.hoverAllowed)
      (by simp [childChecks])
    rcases meets.hoverAllowed with none | allowed
    · exact .inl none
    · exact .inr (by simpa [allowed] using kept)
  hover duration member := IeeeOrder.le_trans (meets.hover duration member)
    (maximum_kept accepted "maximum_hover_s" (by simp [AuthoredCase.maximumFields]))
  wait duration member := IeeeOrder.le_trans (meets.wait duration member)
    (maximum_kept accepted "maximum_unrequired_airborne_wait_s" (by
      simp [AuthoredCase.maximumFields]))
  layers changes := by
    have kept := accepted ("hard_constraints.vertical_layers_allowed",
      parent.hardConstraints.verticalLayersAllowed ||
        !child.hardConstraints.verticalLayersAllowed) (by simp [childChecks])
    simpa [meets.layers changes] using kept
  reserve drone member same := by
    obtain ⟨authored, present, shared, higher⟩ := reserve_kept accepted member
    exact IeeeOrder.le_trans higher (meets.reserve authored present (shared.trans same))

/-- What flies within the constraints of an accepted child flies within its parent's. -/
theorem flight_kept (accepted : ∀ check ∈ childChecks parent child, check.2 = true)
    {flight : Flight F} (meets : child.Meets flight) : parent.Meets flight where
  roles role member := role_kept accepted (meets.roles role member)
  required separation member := by
    have warning : le parent.hardConstraints.warningSeparationM
        child.hardConstraints.warningSeparationM = true :=
      minimum_kept accepted "warning_separation_m" (by simp [AuthoredCase.minimumFields])
    have uncertainty : le parent.hardConstraints.positionUncertaintyM
        child.hardConstraints.positionUncertaintyM = true :=
      minimum_kept accepted "position_uncertainty_m" (by simp [AuthoredCase.minimumFields])
    have fields := (CaseData.validate_eq_ok parent.valid).2.1
    have positive := fields ("warning_separation_m",
      gt parent.hardConstraints.warningSeparationM zero) (by simp [HardConstraints.fieldChecks])
    have nonneg := fields ("position_uncertainty_m",
      ge parent.hardConstraints.positionUncertaintyM zero) (by simp [HardConstraints.fieldChecks])
    have above : lt parent.hardConstraints.warningSeparationM zero = false := by
      by_contra below
      rw [gt, IeeeOrder.le_of_lt (by simpa using below)] at positive
      cases positive
    exact IeeeOrder.le_trans (MonotoneSum.add_mono (zero_le warning above)
      (zero_le uncertainty (by simpa [ge] using nonneg)) warning uncertainty)
      (meets.required separation member)
  warning separation member := IeeeOrder.le_trans (minimum_kept accepted "warning_separation_m" (by
    simp [AuthoredCase.minimumFields])) (meets.warning separation member)
  critical separation member := IeeeOrder.le_trans (minimum_kept accepted
    "critical_separation_m" (by simp [AuthoredCase.minimumFields]))
    (meets.critical separation member)
  deadline := IeeeOrder.le_trans meets.deadline
    (maximum_kept accepted "deadline_s" (by simp [AuthoredCase.maximumFields]))
  synchronized needed := by
    have kept := accepted ("hard_constraints.synchronized_launch_required",
      !parent.hardConstraints.synchronizedLaunchRequired ||
        child.hardConstraints.synchronizedLaunchRequired) (by simp [childChecks])
    exact meets.synchronized (by simpa [needed] using kept)
  battery := IeeeOrder.le_trans meets.battery
    (maximum_kept accepted "maximum_equal_route_battery_spread_percent" (by
      simp [AuthoredCase.maximumFields]))
  realtime := IeeeOrder.le_trans (minimum_kept accepted "minimum_realtime_factor" (by
    simp [AuthoredCase.minimumFields])) meets.realtime
  freshness age member := IeeeOrder.le_trans (meets.freshness age member)
    (maximum_kept accepted "observation_freshness_limit_s" (by
      simp [AuthoredCase.maximumFields]))
  goalUpdates interval member := IeeeOrder.le_trans (minimum_kept accepted
    "minimum_goal_update_interval_s" (by simp [AuthoredCase.minimumFields]))
    (meets.goalUpdates interval member)
  planning duration member := IeeeOrder.le_trans (meets.planning duration member)
    (maximum_kept accepted "planning_budget_s" (by simp [AuthoredCase.maximumFields]))

theorem assertModeEligible_iff {eligible : ExecutionEligibility} {mode : CampaignRunMode} :
    assertModeEligible eligible mode = .ok () ↔ mode ∈ requiredModes eligible := by
  cases eligible <;> cases mode <;> decide

omit [MonotoneSum F] in
theorem modes_kept (accepted : ∀ check ∈ childChecks parent child, check.2 = true)
    {mode : CampaignRunMode}
    (eligible : assertModeEligible child.executionEligibility mode = .ok ()) :
    assertModeEligible parent.executionEligibility mode = .ok () := by
  have kept := accepted ("execution_eligibility",
    (requiredModes child.executionEligibility).all (· ∈ requiredModes parent.executionEligibility))
    (by simp [childChecks])
  simp only [List.all_eq_true, decide_eq_true_eq] at kept
  exact assertModeEligible_iff.mpr (kept mode (assertModeEligible_iff.mp eligible))

omit [MonotoneSum F] in
theorem strategies_kept (accepted : ∀ check ∈ childChecks parent child, check.2 = true)
    {strategy : PlannerStrategy} (allowed : strategy ∈ child.allowedStrategies) :
    strategy ∈ parent.allowedStrategies := by
  have kept := accepted ("allowed_strategies",
    child.allowedStrategies.all (· ∈ parent.allowedStrategies)) (by simp [childChecks])
  simp only [List.all_eq_true, decide_eq_true_eq] at kept
  exact kept strategy allowed

omit [MonotoneSum F] in
theorem keepsEvidence_iff :
    keepsEvidence parent child = true ↔
      (∀ old ∈ parent.passFailMetrics, ∃ new ∈ child.passFailMetrics, old.keeps new = true) ∧
      ∀ old ∈ parent.behaviorOracles, old.required = true →
        ∃ new ∈ child.behaviorOracles, keepsOracle parent child old new = true := by
  simp only [keepsEvidence, Bool.and_eq_true, List.all_eq_true, List.any_eq_true,
    List.mem_filter, and_imp]

theorem neverWeakens_iff (accepted : assertChildSafetyIsMonotone parent child = .ok ()) :
    NeverWeakens parent child ↔ keepsEvidence parent child = true := by
  have checks := accepted_iff.mp accepted
  rw [keepsEvidence_iff]
  refine ⟨fun kept => ⟨kept.gates, kept.oracles⟩, fun kept => ?_⟩
  exact ⟨fun _ => flight_kept checks, fun _ => modes_kept checks, fun _ => strategies_kept checks,
    kept.1, kept.2⟩

/-! Chains of children. -/

omit [MonotoneSum F] in
variable [IeeeOrder F] in
theorem MetricComparator.stricter_trans {comparator : MetricComparator} {a b c : F}
    (first : comparator.stricter a b = true) (second : comparator.stricter b c = true) :
    comparator.stricter a c = true := by
  cases comparator with
  | lessThanOrEqual => exact IeeeOrder.le_trans second first
  | greaterThanOrEqual => exact IeeeOrder.le_trans first second
  | equal => exact IeeeOrder.eq_trans second first

omit [MonotoneSum F] in
variable [IeeeOrder F] in
theorem MetricGate.keeps_trans {first second third : MetricGate F}
    (kept : first.keeps second = true) (kept' : second.keeps third = true) :
    first.keeps third = true := by
  simp only [MetricGate.keeps, Bool.and_eq_true, decide_eq_true_eq] at *
  obtain ⟨⟨⟨metric, comparator⟩, unit⟩, strict⟩ := kept
  obtain ⟨⟨⟨metric', comparator'⟩, unit'⟩, strict'⟩ := kept'
  rw [comparator] at strict'
  exact ⟨⟨⟨metric'.trans metric, comparator'.trans comparator⟩, unit'.trans unit⟩,
    MetricComparator.stricter_trans strict strict'⟩

omit [MonotoneSum F] in
theorem keepsOracle_required {old new : BehaviorOracle F}
    (kept : keepsOracle parent child old new = true) : new.required = true := by
  simp only [keepsOracle, Bool.and_eq_true] at kept
  exact kept.1.2

omit [MonotoneSum F] in
variable [IeeeOrder F] in
theorem keepsOracle_trans {grandchild : AuthoredCase F} {first second third : BehaviorOracle F}
    (kept : keepsOracle parent child first second = true)
    (kept' : keepsOracle child grandchild second third = true) :
    keepsOracle parent grandchild first third = true := by
  simp only [keepsOracle, Bool.and_eq_true, decide_eq_true_eq, Option.all_eq_true] at *
  obtain ⟨⟨⟨⟨⟨oracle, kind⟩, source⟩, roles⟩, -⟩, strict⟩ := kept
  obtain ⟨⟨⟨⟨⟨oracle', kind'⟩, source'⟩, roles'⟩, required⟩, strict'⟩ := kept'
  rw [kind] at strict'
  refine ⟨⟨⟨⟨⟨oracle'.trans oracle, kind'.trans kind⟩, source'.trans source⟩,
    roles'.trans roles⟩, required⟩, fun comparator read => ?_⟩
  exact MetricComparator.stricter_trans (strict comparator read) (strict' comparator read)

omit [MonotoneSum F] in
variable [IeeeOrder F] in
theorem NeverWeakens.trans {grandchild : AuthoredCase F} (first : NeverWeakens parent child)
    (second : NeverWeakens child grandchild) : NeverWeakens parent grandchild where
  flights flight meets := first.flights flight (second.flights flight meets)
  modes mode eligible := first.modes mode (second.modes mode eligible)
  strategies strategy allowed := first.strategies strategy (second.strategies strategy allowed)
  gates old member := by
    obtain ⟨middle, present, kept⟩ := first.gates old member
    obtain ⟨new, present', kept'⟩ := second.gates middle present
    exact ⟨new, present', MetricGate.keeps_trans kept kept'⟩
  oracles old member required := by
    obtain ⟨middle, present, kept⟩ := first.oracles old member required
    obtain ⟨new, present', kept'⟩ := second.oracles middle present (keepsOracle_required kept)
    exact ⟨new, present', keepsOracle_trans kept kept'⟩

/-- The links of a chain: accepted children that keep the evidence. -/
def ChildLink (parent child : AuthoredCase F) : Prop :=
  assertChildSafetyIsMonotone parent child = .ok () ∧ keepsEvidence parent child = true

theorem chain_kept {rest : List (AuthoredCase F)} (links : List.IsChain ChildLink (parent :: rest))
    (last : AuthoredCase F) (member : last ∈ rest) : NeverWeakens parent last := by
  induction rest generalizing parent with
  | nil => simp at member
  | cons next rest ih =>
    rw [List.isChain_cons_cons] at links
    have first := (neverWeakens_iff links.1.1).mpr links.1.2
    rcases List.mem_cons.mp member with rfl | later
    · exact first
    · exact first.trans (ih links.2 later)

end Accepted

/-! ## A child with a gate that passes everything -/

section Loosened

def pairRegion : Region3D ℚ := ⟨"pad", ⟨-1, -1, 0⟩, ⟨1, 1, 2⟩⟩

def separationCase (threshold : ℚ) : AuthoredCase ℚ where
  caseId := "separation"
  family := "single_drone"
  drones := [⟨"alpha", pairRegion, [pairRegion], pairRegion, 100, 20, 1⟩]
  hardConstraints :=
    { flightVolume := ⟨"volume", ⟨-2, -2, 0⟩, ⟨2, 2, 2⟩⟩
      warningSeparationM := 3 / 4
      positionUncertaintyM := 1 / 20
      dynamics := ⟨3 / 5, 2 / 5, 1, 8⟩
      deadlineS := 120
      maximumHoverS := 60
      maximumUnrequiredAirborneWaitS := 2
      minimumRealtimeFactor := 4 / 5
      watchdogGuardS := 2
      planningBudgetS := 2 }
  allowedStrategies := [.direct, .groundDelay]
  search := ⟨1 / 50, 256, 5, [2]⟩
  valid := by decide +kernel
  further :=
    { criticalSeparationM := 1 / 2
      stopSpeedThresholdMS := 1 / 50
      unintendedStopPersistenceS := 1 / 5
      maximumEqualRouteBatterySpreadPercent := 1
      observationFreshnessLimitS := 1 / 4
      minimumGoalUpdateIntervalS := 1 / 2
      modeComparison := ⟨1, 1 / 10, 1 / 10, 1 / 50, 1 / 10⟩ }
  passFailMetrics := [⟨"minimum_separation_m", .greaterThanOrEqual, threshold, "m"⟩]
  behaviorOracles := [{ oracleId := "nodes", kind := .routeNodesCaptured,
                        evidenceSource := .executionTelemetry }]

end Loosened

end CrazySwarm
