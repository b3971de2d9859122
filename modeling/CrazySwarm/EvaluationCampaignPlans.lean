import CrazySwarm.EvaluationCompleteness

/-! What the evaluation of a vehicle reads of a campaign's plan. The plan that is made of the context
holds the target and the duration of a role; the evaluator looks for them in lists, and the plan is made
of tuples. -/
namespace CrazySwarm.Evaluation
open PyData (field)

variable {F : Type} [PyBuiltins F] {hash : CanonicalHash F} {context : PyMapping F}
  {accepted : EvaluationPlan F} {vehicleId : String} {center : Vector3 F} {duration : PyData F}

section Statement

def contextItems (context : PyMapping F) (part key : String) : Except DataError (List (PyMapping F)) :=
  return mappings (← ((field context part).getD key (.tuple [])).iterate)

/-- The vehicle flies a trajectory of the campaign; the landing region of the trajectory's drone has the
center, and the schedule gives the duration. -/
def FliesTo (context : PyMapping F) (vehicleId : String) (center : Vector3 F)
    (duration : PyData F) : Prop :=
  ∃ trajectories drones scheduleRoles, ∃ trajectory ∈ trajectories, ∃ drone,
    contextItems context "campaign_trajectories" "trajectories" = .ok trajectories ∧
    contextItems context "campaign_case" "drones" = .ok drones ∧
    contextItems context "campaign_schedule" "roles" = .ok scheduleRoles ∧
    textField trajectory "role_id" ≠ "" ∧
    (trajectory.getD "vehicle_id" (.text (textField trajectory "role_id"))).str = vehicleId ∧
    (byField drones "role_id").get? (textField trajectory "role_id") = some drone ∧
    regionCenter (field drone "landing_region") = some center ∧
    (((byField scheduleRoles "role_id").get? (textField trajectory "role_id")).getD []).getD
      "source_schedule_duration_s" ((field context "campaign_schedule").get "source_schedule_duration_s") =
        duration

structure Targets (hash : CanonicalHash F) (accepted : EvaluationPlan F) (vehicleId : String)
    (center : Vector3 F) (duration : PyData F) : Prop where
  plan : vehiclePlan vehicleId accepted.plan accepted.assignments = (some center, duration.asNumber)
  estimate : ∀ runIds events metrics,
    vehicleMetrics hash.data accepted vehicleId runIds events = .ok metrics →
      (lastPresent ((telemetryEvents events).map (·.2.telemetry.positionM))).isSome = true →
        metrics.estimateTargetErrorM.isSome = true
  truth : ∀ runIds events metrics,
    vehicleMetrics hash.data accepted vehicleId runIds events = .ok metrics →
      (lastPresent ((telemetryEvents events).map (·.2.telemetry.groundTruthPositionM))).isSome = true →
        metrics.truthTargetErrorM.isSome = true
  delta : ∀ runIds events metrics,
    vehicleMetrics hash.data accepted vehicleId runIds events = .ok metrics →
      2 ≤ (telemetryEvents events).length → duration.asNumber.isSome = true →
        metrics.executionDurationDeltaS.isSome = true

def plannedRole (roleId vehicleId : String) (center : Vector3 F) (duration : PyData F) : PyData F :=
  .mapping [
    ("role_id", .text roleId),
    ("vehicle_id", .text vehicleId),
    ("waypoints", .tuple [.mapping [("end_m", dumpVector center)]]),
    ("planned_duration_s", duration)]

end Statement

section Plans

theorem campaignEvaluationPlan_roles {canonicalSha256 : PyData F → Except DataError String}
    {plan : PyMapping F} (made : campaignEvaluationPlan canonicalSha256 context = .ok plan)
    (nonempty : plan ≠ []) :
    ∃ roles, plan.get "roles" = .tuple roles ∧
      ∀ vehicleId center duration, FliesTo context vehicleId center duration →
        ∃ roleId, plannedRole roleId vehicleId center duration ∈ roles := by
  unfold campaignEvaluationPlan at made
  dsimp only at made
  split_ifs at made with missing short
  · cases made
    exact absurd rfl nonempty
  · cases made
    exact absurd rfl nonempty
  obtain ⟨scheduleRoles, schedules, made⟩ := bind_eq_ok.mp made
  obtain ⟨drones, cases', made⟩ := bind_eq_ok.mp made
  obtain ⟨trajectories, listed, made⟩ := bind_eq_ok.mp made
  obtain ⟨trajectorySha256s, -, made⟩ := bind_eq_ok.mp made
  obtain ⟨profileAudits, -, made⟩ := bind_eq_ok.mp made
  cases made
  refine ⟨_, rfl, ?_⟩
  rintro vehicleId center duration
    ⟨flown, ownDrones, ownRoles, trajectory, among, drone, flies, hasDrones, hasRoles, named, rfl,
      found, region, rfl⟩
  rw [contextItems, listed] at flies
  rw [contextItems, cases'] at hasDrones
  rw [contextItems, schedules] at hasRoles
  cases flies
  cases hasDrones
  cases hasRoles
  refine ⟨textField trajectory "role_id", List.mem_filterMap.mpr ⟨trajectory, among, ?_⟩⟩
  rw [campaignRole]
  simp only [found, Option.getD_some, region, if_neg named]
  rfl

theorem vehiclePlan_tuple {plan : PyMapping F} {roles : List (PyData F)}
    (tuple : plan.get "roles" = .tuple roles) (vehicleId : String)
    (assignments : List (String × String)) : vehiclePlan vehicleId plan assignments = (none, none) := by
  rw [vehiclePlan, tuple]
  rfl

theorem vehicleMetrics_untargeted {canonicalSha256 : PyData F → Except DataError String}
    {runIds : List String} {events : List (RecordedEvent F)} {metrics : VehicleExecutionMetrics F}
    (untargeted : vehiclePlan vehicleId accepted.plan accepted.assignments = (none, none))
    (measured : vehicleMetrics canonicalSha256 accepted vehicleId runIds events = .ok metrics) :
    metrics.estimateTargetErrorM = none ∧ metrics.truthTargetErrorM = none ∧
      metrics.plannedDurationS = none ∧ metrics.executionDurationDeltaS = none := by
  unfold vehicleMetrics at measured
  rw [untargeted] at measured
  obtain ⟨trajectories, -, measured⟩ := bind_eq_ok.mp measured
  obtain ⟨audit, -, measured⟩ := bind_eq_ok.mp measured
  rw [checkedModel_ok measured]
  have unmeasured (position : Option (Vector3 F)) : optionalDistance position none = none := by
    cases position <;> rfl
  refine ⟨unmeasured _, unmeasured _, rfl, ?_⟩
  dsimp only
  split <;> rfl

/-- The plan of a campaign holds a role for every vehicle that flies to a center, and the evaluator never
finds one: no vehicle has a target or a planned duration. -/
theorem campaign_targets_unread (hash : CanonicalHash F) (context : PyMapping F)
    (accepted : EvaluationPlan F) (vehicleId : String) (center : Vector3 F) (duration : PyData F)
    (evaluated : evaluationPlan hash context = .ok accepted)
    (campaign : field context "mission_plan" = []) (normalised : accepted.plan ≠ [])
    (flies : FliesTo context vehicleId center duration) :
    (∃ roles roleId, accepted.plan.get "roles" = .tuple roles ∧
      plannedRole roleId vehicleId center duration ∈ roles) ∧
    ¬Targets hash accepted vehicleId center duration ∧
    ∀ runIds events metrics, vehicleMetrics hash.data accepted vehicleId runIds events = .ok metrics →
      metrics.estimateTargetErrorM = none ∧ metrics.truthTargetErrorM = none ∧
        metrics.plannedDurationS = none ∧ metrics.executionDurationDeltaS = none := by
  have made : campaignEvaluationPlan hash.data context = .ok accepted.plan := by
    unfold evaluationPlan at evaluated
    simp only [campaign, List.isEmpty_nil, if_true] at evaluated
    obtain ⟨plan, made, evaluated⟩ := bind_eq_ok.mp evaluated
    obtain ⟨replacements, -, evaluated⟩ := bind_eq_ok.mp evaluated
    cases evaluated
    exact made
  obtain ⟨roles, tuple, held⟩ := campaignEvaluationPlan_roles made normalised
  obtain ⟨roleId, among⟩ := held vehicleId center duration flies
  have unread := vehiclePlan_tuple tuple vehicleId accepted.assignments
  refine ⟨⟨roles, roleId, tuple, among⟩, fun targets => ?_, fun runIds events metrics measured =>
    vehicleMetrics_untargeted unread measured⟩
  have target := unread.symm.trans targets.plan
  cases target

end Plans

section Runs

def cornerVector (x y z : Int) : PyData ℚ := .mapping [("x", .int x), ("y", .int y), ("z", .int z)]

/-- One vehicle that flies to the region around the middle of the ground. -/
def hopContext : PyMapping ℚ := [
  ("campaign_plan", .mapping [
    ("plan_sha256", .text "0000000000000000000000000000000000000000000000000000000000000000")]),
  ("campaign_schedule", .mapping [("source_schedule_duration_s", .int 30)]),
  ("campaign_trajectories", .mapping [
    ("trajectories", .list [.mapping [("role_id", .text "alpha"), ("vehicle_id", .text "sim01")]])]),
  ("campaign_case", .mapping [
    ("drones", .list [.mapping [
      ("role_id", .text "alpha"),
      ("landing_region", .mapping [
        ("minimum_m", cornerVector (-1) (-1) 0), ("maximum_m", cornerVector 1 1 0)])]])])]

theorem hopContext_flies : FliesTo hopContext "sim01" ⟨0, 0, 0⟩ (.int 30) := by
  refine ⟨_, _, _, _, List.mem_singleton.mpr rfl, _, rfl, rfl, rfl, by decide +kernel, rfl, rfl, ?_, rfl⟩
  decide +kernel

/-- The target of the one vehicle is not found. -/
theorem hop_untargeted :
    ¬∀ accepted, evaluationPlan plainHash hopContext = .ok accepted →
      Targets plainHash accepted "sim01" ⟨0, 0, 0⟩ (.int 30) := by
  intro targets
  have computed : okWith (evaluationPlan plainHash hopContext) (fun accepted =>
      (vehiclePlan "sim01" accepted.plan accepted.assignments).1 = none) = true := by decide
  obtain ⟨accepted, evaluated, untargeted⟩ := exists_of_okWith computed
  have target := (targets accepted evaluated).plan
  rw [target] at untargeted
  simp at untargeted

theorem hop_targets_unread :
    ∃ accepted, evaluationPlan plainHash hopContext = .ok accepted ∧
      (∃ roles roleId, accepted.plan.get "roles" = .tuple roles ∧
        plannedRole roleId "sim01" ⟨0, 0, 0⟩ (.int 30) ∈ roles) ∧
      ¬Targets plainHash accepted "sim01" ⟨0, 0, 0⟩ (.int 30) ∧
      ∀ runIds events metrics,
        vehicleMetrics plainHash.data accepted "sim01" runIds events = .ok metrics →
          metrics.estimateTargetErrorM = none ∧ metrics.truthTargetErrorM = none ∧
            metrics.plannedDurationS = none ∧ metrics.executionDurationDeltaS = none := by
  have computed : okWith (evaluationPlan plainHash hopContext) (fun accepted =>
      accepted.plan.isEmpty = false) = true := by decide
  obtain ⟨accepted, evaluated, normalised⟩ := exists_of_okWith computed
  have normalised : accepted.plan ≠ [] := by
    simpa [List.isEmpty_eq_false_iff] using normalised
  exact ⟨accepted, evaluated, campaign_targets_unread plainHash hopContext accepted "sim01" ⟨0, 0, 0⟩
    (.int 30) evaluated rfl normalised hopContext_flies⟩

end Runs

end CrazySwarm.Evaluation
