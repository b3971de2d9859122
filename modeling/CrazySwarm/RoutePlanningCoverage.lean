import CrazySwarm.RoutePlanningExactness
import Mathlib.Data.List.Range

/-! The coverage planner: rows across a zone, in alternating directions, no further apart than the
coverage spacing, and the polyline through them. -/
namespace CrazySwarm
namespace RoutePlanning
open PyFloat (lt le gt zero ofRat)

namespace CoverageRoutePlanner
section Model
open PyFloat

variable {F : Type} [PyMath F] [PyRound F]

def manifest : PluginManifest := ⟨"route.coverage", [.coverage]⟩

/-- The number of rows after the first one. -/
def rows (minimum maximum : Vector3 F) (spacingM : F) : Nat :=
  (Max.max 1 (PyRound.ceil ((maximum.y - minimum.y) / spacingM))).toNat

def rowY (minimum maximum : Vector3 F) (spacingM : F) (index : Nat) : F :=
  PyFloat.min maximum.y (minimum.y + ofRat index * spacingM)

/-- The two ends of a row, in the order in which it is flown. -/
def row (minimum maximum : Vector3 F) (spacingM z : F) (index : Nat) : Vector3 F × Vector3 F :=
  let y := rowY minimum maximum spacingM index
  if index % 2 = 0 then (⟨minimum.x, y, z⟩, ⟨maximum.x, y, z⟩)
  else (⟨maximum.x, y, z⟩, ⟨minimum.x, y, z⟩)

def points (minimum maximum : Vector3 F) (spacingM z : F) : List (Vector3 F) :=
  (List.range (rows minimum maximum spacingM + 1)).flatMap fun index =>
    let ends := row minimum maximum spacingM z index
    [ends.1, ends.2]

/-- The height of `request.targets[-1]`. -/
def height (request : RoutePlanRequest F) : F :=
  match request.targets.getLast? with
  | some target => target.positionM.z
  | none => zero

def plan (request : RoutePlanRequest F) : Except (Fault F) (RoutePlanArtifact F) :=
  match request.zoneMinimumM, request.zoneMaximumM with
  | some minimum, some maximum =>
    planPolyline manifest request
      (points minimum maximum request.coverageSpacingM (height request))
  | _, _ => blocked manifest request "COVERAGE_ZONE_UNAVAILABLE"

end Model
end CoverageRoutePlanner

namespace CoverageRoutePlanner
open Segments

variable {F : Type} [Field F] [LinearOrder F] [IsStrictOrderedRing F] [PyMath F]

section Statement

/-- A row from one side of the zone to the other, at one height. -/
structure Spans (minimum maximum : Vector3 F) (z : F) (row : Vector3 F × Vector3 F) : Prop where
  sides : row.1.x = minimum.x ∧ row.2.x = maximum.x ∨ row.1.x = maximum.x ∧ row.2.x = minimum.x
  level : row.2.y = row.1.y ∧ row.1.z = z ∧ row.2.z = z
  inside : Within minimum.y maximum.y row.1.y

/-- The leg between two rows leads along a side of the zone, by no more than a spacing. -/
structure Connected (spacingM : F) (row next : Vector3 F × Vector3 F) : Prop where
  side : next.1.x = row.2.x
  advance : row.2.y ≤ next.1.y ∧ next.1.y ≤ row.2.y + spacingM

/-- The point lies in the zone's rectangle, at the height of the rows. -/
def OnZone (minimum maximum : Vector3 F) (z : F) (point : Vector3 F) : Prop :=
  Within minimum.x maximum.x point.x ∧ Within minimum.y maximum.y point.y ∧ point.z = z

end Statement

section Rows

omit [PyMath F] in
/-- Of values that grow by no more than a step, one is within half a step of any value that they
pass. By induction on their number. -/
theorem exists_near_of_steps {f : Nat → F} {step value : F} {count : Nat}
    (steps : ∀ index < count, f (index + 1) ≤ f index + step) (positive : 0 < step)
    (first : f 0 ≤ value) (last : value ≤ f count) :
    ∃ index ≤ count, |value - f index| ≤ step / 2 := by
  induction count with
  | zero =>
    refine ⟨0, le_rfl, ?_⟩
    rw [le_antisymm last first, sub_self, abs_zero]
    linarith
  | succ count ih =>
    by_cases passed : value ≤ f count
    · obtain ⟨index, bound, near⟩ := ih (fun index below => steps index (by omega)) passed
      exact ⟨index, by omega, near⟩
    · have gap := steps count (Nat.lt_succ_self count)
      rw [not_le] at passed
      by_cases lower : value - f count ≤ step / 2
      · refine ⟨count, Nat.le_succ count, ?_⟩
        rwa [abs_of_pos (sub_pos.mpr passed)]
      · refine ⟨count + 1, le_rfl, ?_⟩
        rw [abs_of_nonpos (sub_nonpos.mpr last)]
        linarith

variable [PyRound F] [Exact F] {minimum maximum : Vector3 F} {spacingM z : F} {index : Nat}

omit [PyRound F] in
theorem rowY_eq : rowY minimum maximum spacingM index =
    min maximum.y (minimum.y + index * spacingM) := by
  simp only [rowY, Exact.min_eq, Exact.plus, Exact.times, Exact.ofRat_cast, Rat.cast_natCast]

omit [PyRound F] in
theorem rowY_zero (ordered : minimum.y ≤ maximum.y) :
    rowY minimum maximum spacingM 0 = minimum.y := by
  rw [rowY_eq, Nat.cast_zero, zero_mul, add_zero, min_eq_right ordered]

omit [PyRound F] in
theorem rowY_succ (positive : 0 < spacingM) :
    rowY minimum maximum spacingM index ≤ rowY minimum maximum spacingM (index + 1) ∧
      rowY minimum maximum spacingM (index + 1) ≤ rowY minimum maximum spacingM index + spacingM := by
  have next : minimum.y + ((index + 1 : Nat) : F) * spacingM =
      minimum.y + index * spacingM + spacingM := by
    push_cast
    ring
  rw [rowY_eq, rowY_eq, next]
  constructor
  · exact min_le_min_left _ (by linarith)
  · rw [← min_add_add_right]
    exact min_le_min_right _ (by linarith)

/-- The last row runs along the upper side of the zone. -/
theorem rowY_rows [ExactRound F] (positive : 0 < spacingM) :
    rowY minimum maximum spacingM (rows minimum maximum spacingM) = maximum.y := by
  have quotient := ExactRound.le_ceil ((maximum.y - minimum.y) / spacingM)
  have enough : (PyRound.ceil ((maximum.y - minimum.y) / spacingM) : F) ≤
      (rows minimum maximum spacingM : F) := by
    have bound : PyRound.ceil ((maximum.y - minimum.y) / spacingM) ≤
        (rows minimum maximum spacingM : Int) := by
      simp only [rows, Exact.minus, Exact.over_eq]
      omega
    exact_mod_cast bound
  have reached := (div_le_iff₀ positive).mp (quotient.trans enough)
  rw [rowY_eq, min_eq_left]
  linarith

omit [PyRound F] in
theorem row_spans (ordered : minimum.y ≤ maximum.y) (positive : 0 < spacingM) :
    Spans minimum maximum z (row minimum maximum spacingM z index) := by
  have inside : Within minimum.y maximum.y (rowY minimum maximum spacingM index) := by
    rw [rowY_eq]
    have advance : 0 ≤ (index : F) * spacingM := mul_nonneg (Nat.cast_nonneg index) positive.le
    exact ⟨le_min ordered (by linarith), min_le_left _ _⟩
  unfold row
  by_cases even : index % 2 = 0
  · simp only [if_pos even]
    exact ⟨.inl ⟨rfl, rfl⟩, ⟨rfl, rfl, rfl⟩, inside⟩
  · simp only [if_neg even]
    exact ⟨.inr ⟨rfl, rfl⟩, ⟨rfl, rfl, rfl⟩, inside⟩

omit [PyRound F] in
/-- A row ends on the side on which the next one begins. -/
theorem row_connected (positive : 0 < spacingM) :
    Connected spacingM (row minimum maximum spacingM z index)
      (row minimum maximum spacingM z (index + 1)) := by
  have advance : rowY minimum maximum spacingM index ≤
      rowY minimum maximum spacingM (index + 1) ∧
        rowY minimum maximum spacingM (index + 1) ≤
          rowY minimum maximum spacingM index + spacingM := rowY_succ positive
  unfold row
  by_cases even : index % 2 = 0
  · have odd : ¬ (index + 1) % 2 = 0 := by omega
    simp only [if_pos even, if_neg odd]
    exact ⟨rfl, advance⟩
  · have next : (index + 1) % 2 = 0 := by omega
    simp only [if_neg even, if_pos next]
    exact ⟨rfl, advance⟩

omit [Field F] [IsStrictOrderedRing F] [PyMath F] [PyRound F] [Exact F] in
theorem Spans.onZone {ends : Vector3 F × Vector3 F} (spans : Spans minimum maximum z ends)
    (ordered : minimum.x ≤ maximum.x) :
    OnZone minimum maximum z ends.1 ∧ OnZone minimum maximum z ends.2 := by
  obtain ⟨sides, ⟨same, first, second⟩, inside⟩ := spans
  unfold OnZone
  rw [same]
  rcases sides with ⟨left, right⟩ | ⟨right, left⟩
  · rw [left, right]
    exact ⟨⟨⟨le_rfl, ordered⟩, inside, first⟩, ⟨ordered, le_rfl⟩, inside, second⟩
  · rw [left, right]
    exact ⟨⟨⟨ordered, le_rfl⟩, inside, first⟩, ⟨le_rfl, ordered⟩, inside, second⟩

end Rows

section Requests

variable [PyRound F] [Exact F] {request : RoutePlanRequest F} {minimum maximum : Vector3 F}

omit [PyRound F] in
theorem bounded_request (low : request.zoneMinimumM = some minimum)
    (high : request.zoneMaximumM = some maximum) :
    minimum.x < maximum.x ∧ minimum.y < maximum.y ∧ 0 < request.coverageSpacingM := by
  have valid := request.valid
  simp only [RouteRequestData.validate, bind_eq_ok, validated_eq_ok, require_eq_ok, low, high,
    RouteRequestData.zoneOrdered, Bool.and_eq_true, Exact.lt_true] at valid
  obtain ⟨_, ⟨checks, _⟩, _, _, _, _, _, _, _, ordered, _⟩ := valid
  have spacing := checks ("coverage_spacing_m", gt request.coverageSpacingM zero)
    (by simp [RouteRequestData.fieldChecks])
  simp only [Exact.gt_true, Exact.zero_eq] at spacing
  exact ⟨ordered.1.1, ordered.1.2, spacing⟩

end Requests

/-- A ready coverage route leads from its start through rows from side to side of the zone, each of
which ends where the next one begins; every point of the zone is within half a spacing of a row,
and every waypoint but the start lies on the zone, at the height of the last target. -/
theorem coverage_covers [PyRound F] [Exact F] [ExactRound F] {request : RoutePlanRequest F}
    {minimum maximum : Vector3 F} {route : RoutePlanArtifact F}
    (low : request.zoneMinimumM = some minimum) (high : request.zoneMaximumM = some maximum)
    (planned : plan request = .ok route) (ready : route.status = .ready) :
    ∃ rows : List (Vector3 F × Vector3 F),
      route.waypoints.map RouteWaypoint.positionM =
          request.startM :: rows.flatMap (fun ends => [ends.1, ends.2]) ∧
        (∀ ends ∈ rows, Spans minimum maximum (height request) ends) ∧
        rows.IsChain (Connected request.coverageSpacingM) ∧
        (∀ y, Within minimum.y maximum.y y →
          ∃ ends ∈ rows, |y - ends.1.y| ≤ request.coverageSpacingM / 2) ∧
        ∀ point ∈ (route.waypoints.map RouteWaypoint.positionM).tail,
          OnZone minimum maximum (height request) point := by
  obtain ⟨orderedX, orderedY, positive⟩ := bounded_request low high
  unfold plan at planned
  simp only [low, high] at planned
  set last := rows minimum maximum request.coverageSpacingM with last_eq
  let flown := (List.range (last + 1)).map
    (row minimum maximum request.coverageSpacingM (height request))
  have spans : ∀ ends ∈ flown, Spans minimum maximum (height request) ends := by
    intro ends member
    obtain ⟨index, -, rfl⟩ := List.mem_map.mp member
    exact row_spans orderedY.le positive
  have positions : route.waypoints.map RouteWaypoint.positionM =
      request.startM :: flown.flatMap fun ends => [ends.1, ends.2] := by
    cases reported planned with
    | outside blocked => cases blocked.symm.trans ready
    | obstructed blocked => cases blocked.symm.trans ready
    | untimely blocked => cases blocked.symm.trans ready
    | ready _ positions =>
      rw [positions, List.flatMap_map]
      rfl
  refine ⟨flown, positions, spans, ?_, ?_, ?_⟩
  · rw [List.isChain_map, List.isChain_range_succ]
    intro index _
    exact row_connected positive
  · intro y inside
    have reached : y ≤ rowY minimum maximum request.coverageSpacingM last := by
      rw [last_eq, rowY_rows positive]
      exact inside.2
    have begun : rowY minimum maximum request.coverageSpacingM 0 ≤ y := by
      rw [rowY_zero orderedY.le]
      exact inside.1
    obtain ⟨index, bound, near⟩ := exists_near_of_steps
      (fun index _ => (rowY_succ positive).2) positive begun reached
    refine ⟨row minimum maximum request.coverageSpacingM (height request) index, ?_, ?_⟩
    · exact List.mem_map.mpr ⟨index, List.mem_range.mpr (by omega), rfl⟩
    · have ends : (row minimum maximum request.coverageSpacingM (height request) index).1.y =
          rowY minimum maximum request.coverageSpacingM index := by
        unfold row
        split <;> rfl
      rwa [ends]
  · intro point member
    rw [positions, List.tail_cons] at member
    obtain ⟨ends, among, either⟩ := List.mem_flatMap.mp member
    have onZone := (spans ends among).onZone orderedX.le
    rcases List.mem_pair.mp either with rfl | rfl
    · exact onZone.1
    · exact onZone.2

/-! A route that begins outside of its zone. -/
section Approach

def approach : RouteRequestData ℚ where
  requestId := "approach"
  roleId := "alpha"
  capability := .coverage
  startM := ⟨-1, 0, 1⟩
  targets := [⟨⟨1, 1, 1⟩, 0⟩]
  zoneMinimumM := some ⟨0, 0, 1⟩
  zoneMaximumM := some ⟨3, 4, 1⟩
  coverageSpacingM := 2
  flightVolumeMinimumM := ⟨-5, -5, 0⟩
  flightVolumeMaximumM := ⟨5, 5, 2⟩
  cruiseSpeedMS := 1
  maximumDurationS := 60
  energyPercentPerM := 1
  minimumSeparationM := 1 / 2
  maximumHoldS := 30

def approachRequest : RoutePlanRequest ℚ := ⟨approach, by decide +kernel⟩

/-- The first waypoint of the route is its start, outside of the zone. -/
theorem start_outside_zone : ∃ route : RoutePlanArtifact ℚ,
    plan approachRequest = .ok route ∧ route.status = .ready ∧
      ∃ waypoint ∈ route.waypoints, ¬ InBox ⟨0, 0, 1⟩ ⟨3, 4, 1⟩ waypoint.positionM := by
  obtain ⟨route, planned, outside⟩ := exists_of_okWith (x := plan approachRequest)
    (t := fun route => decide (route.status = .ready ∧
      ∃ waypoint ∈ route.waypoints, ¬ InBox ⟨0, 0, 1⟩ ⟨3, 4, 1⟩ waypoint.positionM))
    (by decide +kernel)
  exact ⟨route, planned, of_decide_eq_true outside⟩

/-- Each point of that zone is within a metre of a row. -/
theorem coverage_covers_approach : ∃ route : RoutePlanArtifact ℚ,
    plan approachRequest = .ok route ∧ ∃ rows : List (Vector3 ℚ × Vector3 ℚ),
      route.waypoints.map RouteWaypoint.positionM =
          approachRequest.startM :: rows.flatMap (fun ends => [ends.1, ends.2]) ∧
        ∀ y, Within 0 4 y → ∃ ends ∈ rows, |y - ends.1.y| ≤ 2 / 2 := by
  obtain ⟨route, planned, ready⟩ := exists_of_okWith (x := plan approachRequest)
    (t := fun route => decide (route.status = .ready)) (by decide +kernel)
  have low : approachRequest.zoneMinimumM = some ⟨0, 0, 1⟩ := rfl
  have high : approachRequest.zoneMaximumM = some ⟨3, 4, 1⟩ := rfl
  obtain ⟨rows, positions, -, -, near, -⟩ :=
    coverage_covers low high planned (of_decide_eq_true ready)
  exact ⟨route, planned, rows, positions, near⟩

end Approach

end CoverageRoutePlanner
end RoutePlanning
end CrazySwarm
