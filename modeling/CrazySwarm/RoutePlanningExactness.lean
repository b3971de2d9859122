import CrazySwarm.RoutePlanning
import CrazySwarm.FlightPaths

/-! What the slab test of a polyline decides: whether some point of a leg lies in a box, where the
leg is taken to stand still on an axis along which its ends all but agree. -/
namespace CrazySwarm
namespace RoutePlanning
open Segments
open PyFloat (le lt zero ofRat)

variable {F : Type} [Field F] [LinearOrder F] [IsStrictOrderedRing F] [PyMath F]

section Statement

/-- Up to this difference of its ends a leg counts as parallel to the other axes. -/
def parallelWithin : F := (1e-12 : ℚ)

def InVolume (request : RoutePlanRequest F) (point : Vector3 F) : Prop :=
  InBox request.flightVolumeMinimumM request.flightVolumeMaximumM point

/-- The leg's coordinate at a time, which an axis to which it does not move keeps. -/
def held (a b t : F) : F := if |b - a| ≤ parallelWithin then a else along a b t

def heldAt (start last : Vector3 F) (t : F) : Vector3 F :=
  ⟨held start.x last.x t, held start.y last.y t, held start.z last.z t⟩

def Meets (leg : Vector3 F × Vector3 F) (obstacle : RouteObstacle F) : Prop :=
  ∃ t, Within 0 1 t ∧ InBox obstacle.minimumM obstacle.maximumM (heldAt leg.1 leg.2 t)

end Statement

section Slabs

variable [Exact F] {range : F × F} {a b low high t : F}

omit [PyMath F] [Exact F] in
theorem parallelWithin_nonneg : (0 : F) ≤ parallelWithin := Rat.cast_nonneg.mpr (by norm_num)

omit [IsStrictOrderedRing F] [PyMath F] [Exact F] in
theorem held_eq_along (exact : a = b ∨ parallelWithin < |b - a|) : held a b t = along a b t :=
  heldAlong_eq_along exact

omit [PyMath F] [Exact F] in
theorem abs_held_sub_along_le (time : Within 0 1 t) :
    |held a b t - along a b t| ≤ parallelWithin :=
  abs_heldAlong_sub_along_le parallelWithin_nonneg time

theorem clipAxis_eq : clipAxis range a b low high = clip parallelWithin range a b low high := by
  rw [clip_eq_swapping]
  simp only [clipAxis, parallelWithin, crossing, Exact.minus, Exact.over_eq, Exact.abs_eq,
    Exact.ofRat_cast, Exact.le_true, Bool.or_eq_true, Exact.lt_true, Exact.max_eq, Exact.min_eq]
  congr

/-- The slab test finds a box exactly when a point of the leg lies in it. -/
theorem segmentIntersectsBox_iff {leg : Vector3 F × Vector3 F} {obstacle : RouteObstacle F}
    (ordered : orderedBounds obstacle.minimumM obstacle.maximumM = true) :
    segmentIntersectsBox leg.1 leg.2 obstacle = true ↔ Meets leg obstacle := by
  simp only [orderedBounds, Bool.and_eq_true, Exact.le_true] at ordered
  obtain ⟨⟨orderedX, orderedY⟩, orderedZ⟩ := ordered
  unfold segmentIntersectsBox Meets
  simp only [clipAxis_eq, Exact.zero_eq, Exact.ofRat_cast, Rat.cast_one]
  exact clip_three_iff ![leg.1.x, leg.1.y, leg.1.z] ![leg.2.x, leg.2.y, leg.2.z]
    ![obstacle.minimumM.x, obstacle.minimumM.y, obstacle.minimumM.z]
    ![obstacle.maximumM.x, obstacle.maximumM.y, obstacle.maximumM.z]
    parallelWithin_nonneg ⟨orderedX, orderedY, orderedZ⟩

end Slabs

section Polyline

variable [Exact F] {manifest : PluginManifest} {request : RoutePlanRequest F}
  {targets : List (Vector3 F)} {shift : Bool} {route : RoutePlanArtifact F}

omit [LinearOrder F] [IsStrictOrderedRing F] [Field F] [Exact F] in
theorem routeArtifact_findings {status : RoutePlanStatus} {waypoints : List (RouteWaypoint F)}
    {reservations : List (TemporalReservation F)} {lengthM durationS : F}
    {limitations : List (RouteLimitation F)} {findings : List String}
    (ok : routeArtifact manifest request status waypoints reservations lengthM durationS
      limitations findings = .ok route) : route.findings = findings := by
  simp only [routeArtifact, bind_eq_ok, validated_eq_ok] at ok
  obtain ⟨_, _, _, rfl⟩ := ok
  rfl

omit [LinearOrder F] [IsStrictOrderedRing F] [Field F] [Exact F] in
theorem follow_positions {index : Nat} {previous : Vector3 F} {progress result : Progress F}
    (ok : follow request index previous progress targets = .ok result) :
    result.waypoints.map RouteWaypoint.positionM =
      progress.waypoints.map RouteWaypoint.positionM ++ targets := by
  induction targets generalizing index previous progress with
  | nil =>
    cases ok
    exact (List.append_nil _).symm
  | cons target rest ih =>
    simp only [follow, bind_eq_ok] at ok
    obtain ⟨waypoint, made, ok⟩ := ok
    rw [ih ok, RouteWaypoint.make_eq_ok made]
    simp

theorem insideVolume_iff {point : Vector3 F} :
    insideVolume point request = true ↔ InVolume request point := by
  simp only [insideVolume, Bool.and_eq_true, Exact.le_true, InVolume, InBox, Within, and_assoc]

/-- What a planned polyline reports, by the check that it fails first. -/
inductive Reported (request : RoutePlanRequest F) (targets : List (Vector3 F))
    (route : RoutePlanArtifact F) : Prop where
  | outside (blocked : route.status = .blocked)
      (findings : route.findings = ["ROUTE_OUTSIDE_FLIGHT_VOLUME"])
      (left : ∃ point ∈ request.startM :: targets, ¬ InVolume request point)
  | obstructed (blocked : route.status = .blocked)
      (findings : route.findings = ["ROUTE_INTERSECTS_OBSTACLE"])
      (inside : ∀ point ∈ request.startM :: targets, InVolume request point)
      (met : ∃ leg ∈ legs (request.startM :: targets), ∃ obstacle ∈ request.obstacles,
        segmentIntersectsBox leg.1 leg.2 obstacle = true)
  | untimely (blocked : route.status = .blocked)
      (findings : route.findings = ["ROUTE_DURATION_EXCEEDS_BOUND"] ∨
        route.findings = ["TEMPORAL_RESERVATION_REQUIRED"])
      (inside : ∀ point ∈ request.startM :: targets, InVolume request point)
      (free : ∀ leg ∈ legs (request.startM :: targets), ∀ obstacle ∈ request.obstacles,
        segmentIntersectsBox leg.1 leg.2 obstacle = false)
  | ready (findings : route.findings = [])
      (positions : route.waypoints.map RouteWaypoint.positionM = request.startM :: targets)
      (inside : ∀ point ∈ request.startM :: targets, InVolume request point)
      (free : ∀ leg ∈ legs (request.startM :: targets), ∀ obstacle ∈ request.obstacles,
        segmentIntersectsBox leg.1 leg.2 obstacle = false)

theorem reported (planned : planPolyline manifest request targets shift = .ok route) :
    Reported request targets route := by
  unfold planPolyline at planned
  simp only at planned
  split at planned
  next left =>
    obtain ⟨point, member, outside⟩ := List.any_eq_true.mp left
    refine .outside (blocked_status planned) (routeArtifact_findings planned) ⟨point, member, ?_⟩
    rw [← insideVolume_iff]
    simpa using outside
  next kept =>
  have inside : ∀ point ∈ request.startM :: targets, InVolume request point := by
    intro point member
    rw [← insideVolume_iff]
    by_contra outside
    exact kept (List.any_eq_true.mpr ⟨point, member, by simpa using outside⟩)
  split at planned
  next met =>
    obtain ⟨leg, member, met⟩ := List.any_eq_true.mp met
    obtain ⟨obstacle, among, met⟩ := List.any_eq_true.mp met
    exact .obstructed (blocked_status planned) (routeArtifact_findings planned) inside
      ⟨leg, member, obstacle, among, met⟩
  next clear =>
  have free : ∀ leg ∈ legs (request.startM :: targets), ∀ obstacle ∈ request.obstacles,
      segmentIntersectsBox leg.1 leg.2 obstacle = false := by
    intro leg member obstacle among
    by_contra met
    exact clear (List.any_eq_true.mpr ⟨leg, member, List.any_eq_true.mpr
      ⟨obstacle, among, Bool.eq_true_of_not_eq_false met⟩⟩)
  obtain ⟨first, made, planned⟩ := bind_eq_ok.mp planned
  obtain ⟨progress, followed, planned⟩ := bind_eq_ok.mp planned
  split at planned
  · exact .untimely (blocked_status planned) (.inl (routeArtifact_findings planned)) inside free
  obtain ⟨corridor, reserved, planned⟩ := bind_eq_ok.mp planned
  split at planned
  · exact .untimely (blocked_status planned) (.inr (routeArtifact_findings planned)) inside free
  obtain ⟨-, -, waypoints, -, -⟩ := routeArtifact_eq_ok planned
  refine .ready (routeArtifact_findings planned) ?_ inside free
  rw [waypoints, follow_positions followed, RouteWaypoint.make_eq_ok made]
  rfl

end Polyline

/-- A planned polyline is ready only where every point of its legs is in the volume and outside
of the obstacles, and it is turned down for leaving the one or meeting the other only where it
does so; on an axis along which a leg moves by no more than `1e-12` its points are taken at the
start of the leg, and nowhere else. -/
theorem planPolyline_exact [Exact F] {manifest : PluginManifest} {request : RoutePlanRequest F}
    {targets : List (Vector3 F)} {shift : Bool} {route : RoutePlanArtifact F}
    (ordered : ∀ obstacle ∈ request.obstacles,
      orderedBounds obstacle.minimumM obstacle.maximumM = true)
    (planned : planPolyline manifest request targets shift = .ok route) :
    (route.status = .ready →
      route.waypoints.map RouteWaypoint.positionM = request.startM :: targets ∧
        ∀ leg ∈ legs (request.startM :: targets), ∀ t, Within 0 1 t →
          InVolume request (pointAt leg.1 leg.2 t) ∧ ∀ obstacle ∈ request.obstacles,
            ¬ InBox obstacle.minimumM obstacle.maximumM (heldAt leg.1 leg.2 t)) ∧
      ("ROUTE_OUTSIDE_FLIGHT_VOLUME" ∈ route.findings ↔
        ∃ point ∈ request.startM :: targets, ¬ InVolume request point) ∧
      ("ROUTE_INTERSECTS_OBSTACLE" ∈ route.findings ↔
        (∀ point ∈ request.startM :: targets, InVolume request point) ∧
          ∃ leg ∈ legs (request.startM :: targets), ∃ obstacle ∈ request.obstacles,
            Meets leg obstacle) ∧
      ∀ a b t : F, Within 0 1 t → |held a b t - along a b t| ≤ parallelWithin ∧
        (a = b ∨ parallelWithin < |b - a| → held a b t = along a b t) := by
  have exact_free (free : ∀ leg ∈ legs (request.startM :: targets),
      ∀ obstacle ∈ request.obstacles, segmentIntersectsBox leg.1 leg.2 obstacle = false) :
      ∀ leg ∈ legs (request.startM :: targets), ∀ obstacle ∈ request.obstacles,
        ¬ Meets leg obstacle := by
    intro leg member obstacle among
    rw [← segmentIntersectsBox_iff (ordered obstacle among), free leg member obstacle among]
    exact Bool.false_ne_true
  refine ⟨fun ready => ?_, ?_, ?_, fun a b t time => ⟨abs_held_sub_along_le time, held_eq_along⟩⟩
  · cases reported planned with
    | outside blocked => cases blocked.symm.trans ready
    | obstructed blocked => cases blocked.symm.trans ready
    | untimely blocked => cases blocked.symm.trans ready
    | ready _ positions inside free =>
      refine ⟨positions, fun leg member t time => ⟨?_, fun obstacle among met => ?_⟩⟩
      · exact inBox_pointAt (inside _ (List.of_mem_zip member).1)
          (inside _ (List.mem_of_mem_tail (List.of_mem_zip member).2)) time
      · exact exact_free free leg member obstacle among ⟨t, time, met⟩
  · cases reported planned with
    | outside _ findings left => simpa [findings] using left
    | obstructed _ findings inside =>
      simpa [findings] using inside
    | untimely _ findings inside =>
      rcases findings with findings | findings <;> simpa [findings] using inside
    | ready findings _ inside => simpa [findings] using inside
  · cases reported planned with
    | outside _ findings left =>
      obtain ⟨point, member, left⟩ := left
      rw [findings]
      exact iff_of_false (by simp) fun kept => left (kept.1 point member)
    | obstructed _ findings inside met =>
      obtain ⟨leg, member, obstacle, among, met⟩ := met
      rw [segmentIntersectsBox_iff (ordered obstacle among)] at met
      rw [findings]
      exact iff_of_true (by simp) ⟨inside, leg, member, obstacle, among, met⟩
    | untimely _ findings _ free =>
      apply iff_of_false
      · rcases findings with findings | findings <;> simp [findings]
      · rintro ⟨-, leg, member, obstacle, among, met⟩
        exact exact_free free leg member obstacle among met
    | ready findings _ _ free =>
      rw [findings]
      apply iff_of_false List.not_mem_nil
      rintro ⟨-, leg, member, obstacle, among, met⟩
      exact exact_free free leg member obstacle among met

/-! A leg that passes beside a pillar. -/
section Passing

def passing : RouteRequestData ℚ where
  requestId := "passing"
  roleId := "alpha"
  capability := .direct
  startM := ⟨0, 0, 1⟩
  targets := [⟨⟨4, 0, 1⟩, 0⟩]
  coverageSpacingM := 1 / 4
  flightVolumeMinimumM := ⟨-1, -1, 0⟩
  flightVolumeMaximumM := ⟨5, 5, 2⟩
  obstacles := [⟨"pillar", ⟨2, 1 / 2, 0⟩, ⟨3, 1, 2⟩⟩]
  cruiseSpeedMS := 1 / 2
  maximumDurationS := 60
  energyPercentPerM := 1
  minimumSeparationM := 1 / 2
  maximumHoldS := 30

def passingRequest : RoutePlanRequest ℚ := ⟨passing, by decide +kernel⟩

/-- No point of the leg is in the pillar. -/
theorem planPolyline_exact_passing : ∃ route : RoutePlanArtifact ℚ,
    planPolyline DirectRoutePlanner.manifest passingRequest [⟨4, 0, 1⟩] true = .ok route ∧
      ∀ t : ℚ, Within 0 1 t → ¬ InBox ⟨2, 1 / 2, 0⟩ ⟨3, 1, 2⟩ (heldAt ⟨0, 0, 1⟩ ⟨4, 0, 1⟩ t) := by
  obtain ⟨route, planned, ready⟩ := exists_of_okWith
    (x := planPolyline DirectRoutePlanner.manifest passingRequest [⟨4, 0, 1⟩] true)
    (t := fun route => decide (route.status = .ready)) (by decide +kernel)
  have apart := ((planPolyline_exact (by decide +kernel) planned).1 (of_decide_eq_true ready)).2
  exact ⟨route, planned, fun t time => (apart (⟨0, 0, 1⟩, ⟨4, 0, 1⟩) (by decide +kernel) t time).2
    ⟨"pillar", ⟨2, 1 / 2, 0⟩, ⟨3, 1, 2⟩⟩ (by decide +kernel)⟩

end Passing

end RoutePlanning
end CrazySwarm
