import CrazySwarm.CampaignCompleteness
import Mathlib.Data.List.ReduceOption

/-! The planning envelope of a trajectory: the derivatives of its inner knots are scaled down until
its samples keep to the path and to the boundary that the submission asks for. -/
namespace CrazySwarm
open PyFloat PyMath

namespace CampaignTrajectory

section Code

variable {F : Type} [PyMath F] [PyRound F]
open CampaignGeometry (pairwise minimum? maximum? subtract)

inductive BehaviorOracleKind where
  | routeNodesCaptured | holdDuration | noUndeclaredStop | altitudeTransition | curvedPath
  | closedShape | distinctStartAndLanding | synchronizedRouteStart | minimumFlightOverlap
  | formationError | conflictResolved | boundaryMargin | keepOutAvoided | noAirborneHold
  | priorityPrecedence | constraintEnforced | unaffectedRoleNoninterference | eventHandled
  | acceptedEventGoalsCaptured
  deriving DecidableEq, Repr

structure BehaviorOracle (F : Type) where
  kind : BehaviorOracleKind
  roleIds : List String := []
  threshold : Option F := none
  required : Bool := true
  deriving DecidableEq, Repr

/-- `_distance_to_segment`. -/
def distanceToSegment (point before after : Vector3 F) : F :=
  let delta := subtract after before
  let lengthSquared := delta.x * delta.x + delta.y * delta.y + delta.z * delta.z
  if le lengthSquared (ofRat 1e-18) then distance point before
  else
    let relative := subtract point before
    let fraction := PyFloat.max zero (PyFloat.min (ofRat 1)
      ((relative.x * delta.x + relative.y * delta.y + relative.z * delta.z) / lengthSquared))
    distance point (addScaled before delta fraction)

/-- `_distance_to_polyline`; none is infinitely far. -/
def distanceToPolyline (point : Vector3 F) (polyline : List (Vector3 F)) : Option F :=
  minimum? ((pairwise polyline).map fun (before, after) => distanceToSegment point before after)

/-- `_lateral_ceiling_margin`. -/
def lateralCeilingMargin (point : Vector3 F) (case : CampaignCase F) : F :=
  let volume := case.hardConstraints.flightVolume
  [volume.maximumM.x - point.x, point.y - volume.minimumM.y, volume.maximumM.y - point.y,
    volume.maximumM.z - point.z].foldl PyFloat.min (point.x - volume.minimumM.x)

/-- `_sample_points`. -/
def samplePoints (points : List (TrajectoryPoint F)) (sampleStepS : F) :
    Except PyError (List (TrajectorySetpoint F)) := do
  let trajectory ← makeTrajectory points [1, points.length]
  return (CampaignEvaluation.timesBefore zero trajectory.durationS sampleStepS ++
    [trajectory.durationS]).filterMap (sampleTrajectory trajectory)

def largestAbove (distances : List (Option F)) (bound : F) : Bool :=
  if distances.any Option.isNone then true
  else (maximum? distances.reduceOption).all (lt bound)

def leastBelow (margins : List F) (bound : F) : Bool := (minimum? margins).all (lt · bound)

def pathLimit (submission : PlanningSubmission F) : Option F :=
  if submission.pathAdherence.mode ∈ [.hardTube, .exactRoute] then
    submission.pathAdherence.maximumCenterlineDeviationM
  else none

/-- The margin that the first required boundary oracle of the role asks for, with the allowance. -/
def boundaryLimit (oracles : List (BehaviorOracle F)) (roleId : String)
    (submission : PlanningSubmission F) : Option F :=
  (oracles.find? fun oracle => oracle.required && oracle.kind == .boundaryMargin &&
    (oracle.roleIds.isEmpty || oracle.roleIds.contains roleId)).map fun oracle =>
      oracle.threshold.getD zero + submission.clearance.uncertaintyAllowanceM

/-- `scaled`: the derivatives of the inner knots, times a factor. -/
def scaled (points : List (TrajectoryPoint F)) (factor : F) : List (TrajectoryPoint F) :=
  points.mapIdx fun index point =>
    if 0 < index ∧ index < points.length - 1 then
      { point with
        velocityMS := scaleVector point.velocityMS factor
        accelerationMS2 := scaleVector point.accelerationMS2 factor }
    else point

/-- `accepted`. -/
def withinEnvelope (case : CampaignCase F) (polyline : List (Vector3 F))
    (pathLimit boundaryLimit : Option F) (sampleStepS : F) (candidate : List (TrajectoryPoint F)) :
    Except PyError Bool := do
  let sampled ← samplePoints candidate sampleStepS
  if pathLimit.any fun limit => largestAbove
      (sampled.map fun sample => distanceToPolyline sample.positionM polyline)
      (limit + ofRat 1e-9) then
    return false
  if boundaryLimit.any fun limit => leastBelow
      (sampled.map fun sample => lateralCeilingMargin sample.positionM case)
      (limit - ofRat 1e-9) then
    return false
  return true

def bisectFactor (accepted : F → Except PyError Bool) : Nat → F → F → Except PyError F
  | 0, low, _ => .ok low
  | steps + 1, low, high => do
    let middle := (low + high) / ofRat 2
    if ← accepted middle then bisectFactor accepted steps middle high
    else bisectFactor accepted steps low middle

/-- `_apply_planning_trajectory_envelope`, with the oracles of the case's semantics. -/
def applyPlanningTrajectoryEnvelope (case : CampaignCase F) (oracles : List (BehaviorOracle F))
    (route : CandidateRoute F) (points : List (TrajectoryPoint F))
    (planningSubmission : Option (PlanningSubmission F)) (sampleStepS : F) :
    Except PyError (List (TrajectoryPoint F)) :=
  match planningSubmission with
  | none => .ok points
  | some submission =>
    let path := pathLimit submission
    let boundary := boundaryLimit oracles route.roleId submission
    if path.isNone && boundary.isNone then .ok points
    else do
      let accepted := withinEnvelope case route.pointsM path boundary sampleStepS
      if ← accepted points then return points
      if !(← accepted (scaled points zero)) then
        throw (.valueError "accepted route knots cannot satisfy the planning trajectory envelope")
      let low ← bisectFactor (fun factor => accepted (scaled points factor)) 48 zero (ofRat 1)
      return scaled points low

end Code

section Scaling

variable {F : Type} [PyMath F] {points : List (TrajectoryPoint F)} {factor : F}

theorem length_scaled : (scaled points factor).length = points.length := List.length_mapIdx

theorem map_scaled {α : Type} {of : TrajectoryPoint F → α}
    (kept : ∀ (point : TrajectoryPoint F) (velocity acceleration : Vector3 F),
      of { point with velocityMS := velocity, accelerationMS2 := acceleration } = of point) :
    (scaled points factor).map of = points.map of := by
  refine List.ext_getElem (by simp [length_scaled]) fun index _ _ => ?_
  simp only [scaled, List.getElem_map, List.getElem_mapIdx]
  split
  · exact kept ..
  · rfl

theorem scaled_first : (scaled points factor).head? = points.head? := by
  rw [List.head?_eq_getElem?, List.head?_eq_getElem?, scaled, List.getElem?_mapIdx]
  simp

theorem scaled_last : (scaled points factor).getLast? = points.getLast? := by
  rw [List.getLast?_eq_getElem?, List.getLast?_eq_getElem?, length_scaled, scaled,
    List.getElem?_mapIdx]
  simp

end Scaling

section Bisection

variable {F : Type} [PyMath F] {accepted : F → Except PyError Bool} {low high factor : F}

/-- The search ends at a factor that has been accepted, whatever lies between. -/
theorem bisectFactor_accepted {steps : ℕ} (safe : accepted low = .ok true)
    (ok : bisectFactor accepted steps low high = .ok factor) : accepted factor = .ok true := by
  induction steps generalizing low high with
  | zero =>
    cases ok
    exact safe
  | succ steps ih =>
    obtain ⟨inside, probed, ok⟩ := bind_eq_ok.mp ok
    cases inside with
    | true => exact ih probed ok
    | false => exact ih safe ok

end Bisection

section Envelope

variable {F : Type} [Field F] [LinearOrder F] [IsStrictOrderedRing F] [PyMath F] [PyRound F] [Exact F]
variable {distances : List (Option F)} {margins : List F} {bound : F}

omit [PyRound F] in
theorem largestAbove_eq_false : largestAbove distances bound = false ↔
    distances ≠ [] ∧ ∀ distance ∈ distances, ∃ d, distance = some d ∧ d ≤ bound := by
  unfold largestAbove
  split
  case isTrue infinite =>
    obtain ⟨distance, member, none⟩ := List.any_eq_true.mp infinite
    refine iff_of_false Bool.true_eq_false.mp fun ⟨_, finite⟩ => ?_
    obtain ⟨d, rfl, -⟩ := finite distance member
    cases none
  case isFalse finite =>
    have is_some {distance : Option F} (member : distance ∈ distances) : ∃ d, distance = some d := by
      cases distance with
      | none => exact absurd (List.any_eq_true.mpr ⟨none, member, rfl⟩) finite
      | some d => exact ⟨d, rfl⟩
    cases values : distances.reduceOption with
    | nil =>
      refine iff_of_false (by simp [CampaignGeometry.maximum?]) fun ⟨nonempty, _⟩ => ?_
      obtain ⟨distance, member⟩ := List.exists_mem_of_ne_nil distances nonempty
      obtain ⟨d, rfl⟩ := is_some member
      have among := List.reduceOption_mem_iff.mpr member
      rw [values] at among
      cases among
    | cons value rest =>
      have found : CampaignGeometry.maximum? (value :: rest) =
        some (rest.foldl PyFloat.max value) := rfl
      rw [found, Option.all_some, Exact.lt_false, CampaignGeometry.maximum?_le found, ← values]
      constructor
      · intro below
        have nonempty : distances ≠ [] := by
          rintro rfl
          cases values
        refine ⟨nonempty, fun distance member => ?_⟩
        obtain ⟨d, rfl⟩ := is_some member
        exact ⟨d, rfl, below d (List.reduceOption_mem_iff.mpr member)⟩
      · rintro ⟨-, below⟩ d member
        obtain ⟨d', equal, least⟩ := below _ (List.reduceOption_mem_iff.mp member)
        cases equal
        exact least

omit [PyRound F] in
theorem leastBelow_eq_false : leastBelow margins bound = false ↔
    margins ≠ [] ∧ ∀ margin ∈ margins, bound ≤ margin := by
  unfold leastBelow
  cases margins with
  | nil => simp [CampaignGeometry.minimum?]
  | cons margin rest =>
    have found : CampaignGeometry.minimum? (margin :: rest) = some (rest.foldl PyFloat.min margin) :=
      rfl
    rw [found, Option.all_some, Exact.lt_false, CampaignGeometry.le_minimum? found]
    simp

structure InEnvelope (case : CampaignCase F) (polyline : List (Vector3 F))
    (pathLimit boundaryLimit : Option F) (sampled : List (TrajectorySetpoint F)) : Prop where
  some_sample : sampled ≠ []
  path : ∀ limit ∈ pathLimit, ∀ sample ∈ sampled, ∃ d,
    distanceToPolyline sample.positionM polyline = some d ∧ d ≤ limit + 1e-9
  boundary : ∀ limit ∈ boundaryLimit, ∀ sample ∈ sampled,
    limit - 1e-9 ≤ lateralCeilingMargin sample.positionM case

variable {case : CampaignCase F} {polyline : List (Vector3 F)} {path boundary : Option F}
variable {sampled : List (TrajectorySetpoint F)}

omit [IsStrictOrderedRing F] [PyRound F] [Exact F] in
theorem inEnvelope_iff : InEnvelope case polyline path boundary sampled ↔ sampled ≠ [] ∧
    (∀ limit ∈ path, ∀ sample ∈ sampled, ∃ d,
      distanceToPolyline sample.positionM polyline = some d ∧ d ≤ limit + 1e-9) ∧
    ∀ limit ∈ boundary, ∀ sample ∈ sampled,
      limit - 1e-9 ≤ lateralCeilingMargin sample.positionM case :=
  ⟨fun inside => ⟨inside.some_sample, inside.path, inside.boundary⟩,
    fun ⟨some_sample, path, boundary⟩ => ⟨some_sample, path, boundary⟩⟩

variable {sampleStepS : F} {points candidate result : List (TrajectoryPoint F)}

theorem withinEnvelope_iff (limited : ¬(path.isNone && boundary.isNone) = true) :
    withinEnvelope case polyline path boundary sampleStepS candidate = .ok true ↔
      ∃ sampled, samplePoints candidate sampleStepS = .ok sampled ∧
        InEnvelope case polyline path boundary sampled := by
  have tolerance : ((1e-9 : ℚ) : F) = 1e-9 := by norm_num
  unfold withinEnvelope
  cases samples : samplePoints candidate sampleStepS with
  | error fault => simp [bind, Except.bind]
  | ok sampled =>
    have accepts : InEnvelope case polyline path boundary sampled ↔
        (path.any fun limit => largestAbove
          (sampled.map fun sample => distanceToPolyline sample.positionM polyline)
          (limit + 1e-9)) = false ∧
        (boundary.any fun limit => leastBelow
          (sampled.map fun sample => lateralCeilingMargin sample.positionM case)
          (limit - 1e-9)) = false := by
      cases path with
      | none =>
        cases boundary with
        | none => exact absurd rfl limited
        | some limit =>
          simp [leastBelow_eq_false, inEnvelope_iff]
      | some limit =>
        cases boundary with
        | none => simp [largestAbove_eq_false, inEnvelope_iff]
        | some margin =>
          simp [largestAbove_eq_false, leastBelow_eq_false, inEnvelope_iff]
          tauto
    simp only [bind, Except.bind, Except.ok.injEq, exists_eq_left', accepts, Exact.plus, Exact.minus,
      Exact.ofRat_cast, tolerance]
    split
    · next above => simp [above, pure, Except.pure]
    · next near =>
      split
      · next below => simp [below, pure, Except.pure]
      · next clear => simp [near, clear, pure, Except.pure]

variable {oracles : List (BehaviorOracle F)} {route : CandidateRoute F}
variable {planningSubmission : Option (PlanningSubmission F)}

/-- What an enforced envelope leaves of the knots, and what it makes of their samples. -/
structure Enforced (case : CampaignCase F) (oracles : List (BehaviorOracle F))
    (route : CandidateRoute F) (points : List (TrajectoryPoint F))
    (planningSubmission : Option (PlanningSubmission F)) (sampleStepS : F)
    (result : List (TrajectoryPoint F)) : Prop where
  times : result.map TrajectoryPoint.timeFromStartS = points.map TrajectoryPoint.timeFromStartS
  positions : result.map TrajectoryPoint.positionM = points.map TrajectoryPoint.positionM
  first : result.head? = points.head?
  last : result.getLast? = points.getLast?
  accepted : ∀ submission ∈ planningSubmission,
    let path := pathLimit submission
    let boundary := boundaryLimit oracles route.roleId submission
    ¬(path.isNone && boundary.isNone) = true →
      withinEnvelope case route.pointsM path boundary sampleStepS result = .ok true ∧
        ∃ sampled, samplePoints result sampleStepS = .ok sampled ∧
          InEnvelope case route.pointsM path boundary sampled

/-- Whatever the envelope returns is enforced. -/
theorem applyPlanningTrajectoryEnvelope_enforced
    (ok : applyPlanningTrajectoryEnvelope case oracles route points planningSubmission sampleStepS =
      .ok result) :
    Enforced case oracles route points planningSubmission sampleStepS result := by
  unfold applyPlanningTrajectoryEnvelope at ok
  cases planningSubmission with
  | none =>
    cases ok
    exact ⟨rfl, rfl, rfl, rfl, nofun⟩
  | some submission =>
    simp only at ok
    split at ok
    case isTrue unlimited =>
      cases ok
      refine ⟨rfl, rfl, rfl, rfl, ?_⟩
      rintro _ ⟨⟩ path boundary limited
      exact absurd unlimited limited
    case isFalse limited =>
      obtain ⟨given, probed, ok⟩ := bind_eq_ok.mp ok
      -- Both ways end at scaled knots that the predicate has accepted.
      have whole (accepted : withinEnvelope case route.pointsM (pathLimit submission)
          (boundaryLimit oracles route.roleId submission) sampleStepS result = .ok true)
          (kept : result = points ∨ ∃ factor, result = scaled points factor) :
          Enforced case oracles route points (some submission) sampleStepS result := by
        have inside : ∀ other ∈ some submission,
            let path := pathLimit other
            let boundary := boundaryLimit oracles route.roleId other
            ¬(path.isNone && boundary.isNone) = true →
              withinEnvelope case route.pointsM path boundary sampleStepS result = .ok true ∧
                ∃ sampled, samplePoints result sampleStepS = .ok sampled ∧
                  InEnvelope case route.pointsM path boundary sampled := by
          rintro _ ⟨⟩ path boundary -
          exact ⟨accepted, (withinEnvelope_iff limited).mp accepted⟩
        rcases kept with rfl | ⟨factor, rfl⟩
        · exact ⟨rfl, rfl, rfl, rfl, inside⟩
        · exact ⟨map_scaled fun _ _ _ => rfl, map_scaled fun _ _ _ => rfl, scaled_first, scaled_last,
            inside⟩
      cases given with
      | true =>
        cases ok
        exact whole probed (.inl rfl)
      | false =>
        obtain ⟨still, zero, ok⟩ := bind_eq_ok.mp ok
        cases still with
        | false => cases ok
        | true =>
          obtain ⟨low, searched, ok⟩ := bind_eq_ok.mp ok
          cases ok
          let accepted (factor : F) := withinEnvelope case route.pointsM (pathLimit submission)
            (boundaryLimit oracles route.roleId submission) sampleStepS (scaled points factor)
          have found : accepted low = .ok true := bisectFactor_accepted zero searched
          exact whole found (.inr ⟨low, rfl⟩)

end Envelope

/-! ## Knots that swerve out of a tube -/

section Swerve
open BoundedJointPlanner (hoverRequest hoverRoute)

theorem swerve_positive : (some (1 / 10 : ℚ)).all (gt · zero) = true := by decide +kernel

def swervePlanning : PlanningSubmission ℚ :=
  { (hoverRequest true).planning with
    pathAdherence := ⟨.hardTube, some (1 / 10), swerve_positive, rfl, rfl⟩ }

def swerveRoute : CandidateRoute ℚ :=
  { hoverRoute with pointsM := [⟨0, 0, 1⟩, ⟨2, 0, 1⟩] }

def swervePoint (sequence : Nat) (x speed : ℚ) : TrajectoryPoint ℚ :=
  ⟨sequence, x, ⟨x, 0, 1⟩, ⟨0, speed, 0⟩, .zero, 0, 0⟩

def swervePoints : List (TrajectoryPoint ℚ) :=
  [swervePoint 1 0 0, swervePoint 2 1 1, swervePoint 3 2 0]

def swerveOracles : List (BehaviorOracle ℚ) := [{ kind := .boundaryMargin, threshold := some 0 }]

/-- The search is used here: the knots come back slower sideways. -/
theorem applyPlanningTrajectoryEnvelope_enforced_swerve : ∃ result,
    applyPlanningTrajectoryEnvelope (hoverRequest true).case swerveOracles swerveRoute swervePoints
      (some swervePlanning) (3 / 2) = .ok result ∧ result ≠ swervePoints ∧
      Enforced (hoverRequest true).case swerveOracles swerveRoute swervePoints (some swervePlanning)
        (3 / 2) result := by
  obtain ⟨result, ok, scaled⟩ := exists_of_okWith
    (x := applyPlanningTrajectoryEnvelope (hoverRequest true).case swerveOracles swerveRoute
      swervePoints (some swervePlanning) (3 / 2))
    (t := fun result => decide (result ≠ swervePoints)) (by decide +kernel)
  exact ⟨result, ok, of_decide_eq_true scaled, applyPlanningTrajectoryEnvelope_enforced ok⟩

end Swerve

end CampaignTrajectory

end CrazySwarm
