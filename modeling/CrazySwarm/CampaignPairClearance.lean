import CrazySwarm.CampaignIntent
import CrazySwarm.EuclideanVectors
import CrazySwarm.Lib.Searches

/-! The clearance of two timed routes. Between neighbouring breakpoints both routes run along
straight lines, so that the distance measured there is the least one of the interval; before the
first breakpoint and after the last one both rest. -/
namespace CrazySwarm
namespace CampaignGeometry
open Set Searches
open scoped Numerals

/-! ## Points of the geometry in Euclidean space -/

section Euclidean

@[simp] theorem euclidean_subtract (first second : Vector3 ℝ) :
    euclidean (subtract first second) = euclidean first - euclidean second := by
  ext i
  fin_cases i <;> simp [euclidean, subtract]

@[simp] theorem euclidean_add (first second : Vector3 ℝ) :
    euclidean (add first second) = euclidean first + euclidean second := by
  ext i
  fin_cases i <;> simp [euclidean, add]

@[simp] theorem euclidean_scale (value : Vector3 ℝ) (factor : ℝ) :
    euclidean (scale value factor) = factor • euclidean value := by
  ext i
  fin_cases i <;> simp [euclidean, scale, mul_comm]

@[simp] theorem euclidean_lerp (first second : Vector3 ℝ) (fraction : ℝ) :
    euclidean (lerp first second fraction) =
      euclidean first + fraction • (euclidean second - euclidean first) := by
  ext i
  fin_cases i <;> simp [euclidean, lerp, mul_comm]

theorem dot_self_eq (value : Vector3 ℝ) : dot value value = ‖euclidean value‖ ^ 2 := by
  rw [EuclideanSpace.norm_sq_eq]
  simp [dot, euclidean, Fin.sum_univ_three, sq]

theorem norm_eq (value : Vector3 ℝ) : norm value = ‖euclidean value‖ := by
  rw [norm, dot_self_eq, real_sqrt, Real.sqrt_sq (norm_nonneg _)]

theorem distance_eq (first second : Vector3 ℝ) :
    distance first second = dist (euclidean first) (euclidean second) := by
  rw [distance, norm_eq, euclidean_subtract, dist_eq_norm]

end Euclidean

/-! ## The position between two knots -/

/-! ## The least distance on one interval -/

/-! ## The least distance of the whole schedule -/

/-! ## What a passed certificate says of its pairs -/

/-! ## Two routes that drift towards each other by less than the tolerance -/

noncomputable section Drift

def driftDrone (roleId : String) (y : ℝ) : DroneCase ℝ :=
  ⟨roleId, square "start" 0 y, [square "goal" 1 y], square "landing" 1 y, 100, 20, 1⟩

def driftData : CaseData ℝ :=
  { cornerData with
    caseId := "drift"
    family := "two_drone"
    drones := [driftDrone "alpha" 0, driftDrone "beta" (1 / 2)] }

theorem driftDrone_valid {roleId : String} (named : isIdentifier roleId = true) (y : ℝ) :
    (driftDrone roleId y).valid = true := by
  simp [driftDrone, DroneCase.valid, Region3D.ordered, square, PyFloat.atMost, PyFloat.ge, named]
  norm_num
  linarith

theorem driftDrone_inside {roleId : String} {y : ℝ} (from_zero : 0 ≤ y) (to_one : y ≤ 1) :
    (driftData.hardConstraints.flightVolume.contains (driftDrone roleId y).startRegion.center &&
      ((driftDrone roleId y).goalSequence.all fun goal =>
        driftData.hardConstraints.flightVolume.contains goal.center) &&
      driftData.hardConstraints.flightVolume.contains (driftDrone roleId y).landingRegion.center) =
      true := by
  simp [driftData, cornerData, driftDrone, Region3D.contains, Region3D.center, square]
  norm_num
  constructor <;> linarith

theorem drift_authority : [PlannerStrategy.direct].Nodup := by decide

def driftPlanning : PlanningSubmission ℝ where
  planningSubmissionId := "drift"
  strategyAuthority := [.direct]
  pathAdherence := ⟨.goalSequenceOnly, none, rfl, rfl, rfl⟩
  clearance := ⟨1 / 10, 1 / 20, 1 / 2, 1 / 10, 0⟩
  coordination := ⟨false, false, 100, 0, 30⟩
  objective := cornerPlanning.objective
  uniqueAuthority := drift_authority

/-- A straight route of ten seconds from a line along `x` to another. -/
def driftRoute (roleId : String) (before after : ℝ) : RouteGeometry ℝ where
  roleId := roleId
  pointsM := [⟨0, before, 1⟩, ⟨1, after, 1⟩]
  routeStartS := 0
  routeDurationS := 10
  segmentDurationsS := [10]

def alphaRoute : RouteGeometry ℝ := driftRoute "alpha" 0 0

theorem driftRoute_adheres {case : CampaignCase ℝ} {roleId : String} {y before after : ℝ}
    (of_role : droneByRole case roleId = .ok (driftDrone roleId y))
    (visited : (square "goal" 1 y).contains ⟨1, after, 1⟩ = true) :
    routeAdherenceViolations case driftPlanning (driftRoute roleId before after) = .ok [] := by
  have role : (driftRoute roleId before after).roleId = roleId := rfl
  have goals : (driftDrone roleId y).goalSequence = [square "goal" 1 y] := rfl
  have points : (driftRoute roleId before after).pointsM = [⟨0, before, 1⟩, ⟨1, after, 1⟩] := rfl
  have mode : driftPlanning.pathAdherence.mode = .goalSequenceOnly := rfl
  unfold routeAdherenceViolations
  simp only [role, of_role, mode, bind, Except.bind, goals, points]
  simp [visited, boundsCenterline]
  rfl

end Drift

end CampaignGeometry

end CrazySwarm
