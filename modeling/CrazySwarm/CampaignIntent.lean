import CrazySwarm.CampaignGeometry
import CrazySwarm.Lib.Paths
import Mathlib.Analysis.Convex.Mul

/-! The intent of a route, along all of it: its goals in their order and, under an exact route or
a hard tube, its distance from the authored centerline. The certificate looks at the vertices. -/
namespace CrazySwarm
namespace CampaignGeometry
open PyFloat (ofRat)
open Set Paths
open scoped Numerals

section Allowed
open PyFloat

/-- The distance from the centerline that an exact route or a hard tube allows, and the rounding
that the certificate allows beside it. -/
def allowedDeviation {F : Type} [PyMath F] (adherence : PathAdherencePolicy F) : Option F :=
  if adherence.mode ∈ [.exactRoute, .hardTube] then
    adherence.maximumCenterlineDeviationM.map (· + ofRat 1e-9)
  else none

end Allowed

section Intent

variable {F : Type} [Field F] [LinearOrder F] [PyMath F]

/-- The places of a route, each a segment and a fraction of it, that are in a goal region. -/
def arrivals (points : List (Vector3 F)) (goal : Region3D F) : Set (ℕ ×ₗ F) :=
  {place | ∃ segment, (pairwise points)[(ofLex place).1]? = some segment ∧
    (ofLex place).2 ∈ Icc 0 1 ∧ goal.contains (lerp segment.1 segment.2 (ofLex place).2) = true}

def routeStart : ℕ ×ₗ F := toLex (0, 0)

def withinOf (distanceM : F) (segment line : Vector3 F × Vector3 F) : Set F :=
  {t | ∃ s ∈ Icc 0 1, let apart := subtract (lerp segment.1 segment.2 t) (lerp line.1 line.2 s)
    dot apart apart ≤ distanceM ^ 2}

structure HonoursIntent (drone : DroneCase F) (adherence : PathAdherencePolicy F)
    (points : List (Vector3 F)) : Prop where
  inOrder : Visits routeStart (drone.goalSequence.map (arrivals points))
  inTube : ∀ limit ∈ allowedDeviation adherence, ∀ segment ∈ pairwise points, ∀ t ∈ Icc 0 1,
    ∃ line ∈ {line | line ∈ pairwise (authoredCenterline drone)}, t ∈ withinOf limit segment line

end Intent

/-! ## What the certificate has checked -/

section Passed
open PyFloat

variable {F : Type} [PyMath F] {case : CampaignCase F} {planning : PlanningSubmission F}
variable {candidateSha256 : String} {routes : List (RouteGeometry F)}
variable {certificate : FeasibilityCertificate F} {route : RouteGeometry F}

theorem pathAdherenceViolations_of_passed
    (ok : certifyCandidateRoutes case planning candidateSha256 routes = .ok certificate)
    (passed : certificate.passed = true) : pathAdherenceViolations case planning routes = .ok [] := by
  unfold certifyCandidateRoutes at ok
  simp only at ok
  split at ok
  · obtain ⟨_, -, ok⟩ := bind_eq_ok.mp ok
    obtain ⟨_, -, ok⟩ := bind_eq_ok.mp ok
    obtain ⟨adherence, adheres, ok⟩ := bind_eq_ok.mp ok
    cases ok
    simp only [List.isEmpty_iff, List.append_eq_nil_iff] at passed
    rw [adheres, passed.1.1.2]
  · cases ok

theorem routeAdherenceViolations_of_passed
    (ok : certifyCandidateRoutes case planning candidateSha256 routes = .ok certificate)
    (passed : certificate.passed = true) (member : route ∈ routes) :
    routeAdherenceViolations case planning route = .ok [] := by
  obtain ⟨found, each, flat⟩ := bind_eq_ok.mp (pathAdherenceViolations_of_passed ok passed)
  obtain ⟨texts, among, routeOk⟩ := exists_of_mem_items each member
  rw [routeOk, List.flatten_eq_nil_iff.mp (Except.ok.inj flat) texts among]

/-- Where the distance from the centerline is bounded, that of the vertices is checked. -/
theorem not_deviates_of_adheres {limit : F} {drone : DroneCase F}
    (adheres : routeAdherenceViolations case planning route = .ok [])
    (of_role : droneByRole case route.roleId = .ok drone)
    (bounded : boundsCenterline planning.pathAdherence.mode = true)
    (limited : planning.pathAdherence.maximumCenterlineDeviationM = some limit) :
    lt (limit + ofRat 1e-9) (routeCenterlineDeviation drone route) = false := by
  unfold routeAdherenceViolations at adheres
  simp only [of_role, bounded, limited, if_true] at adheres
  replace adheres := Except.ok.inj adheres
  simp only [List.append_eq_nil_iff] at adheres
  simpa using adheres.2

theorem pairwise_authoredCenterline_ne_nil (drone : DroneCase F) :
    pairwise (authoredCenterline drone) ≠ [] := by
  unfold authoredCenterline pairwise
  cases drone.goalSequence <;> simp

end Passed

section Vertices

variable {F : Type} [Field F] [LinearOrder F] [IsStrictOrderedRing F] [PyMath F] [Exact F]

theorem foldl_min_mem {values : List F} {start : F} :
    values.foldl PyFloat.min start ∈ start :: values := by
  induction values generalizing start with
  | nil => simp
  | cons value rest ih =>
    rw [List.foldl_cons, Exact.min_eq]
    rcases min_choice start value with first | second
    · rw [first]
      have among : rest.foldl PyFloat.min start ∈ start :: rest := ih
      simp only [List.mem_cons] at among ⊢
      tauto
    · rw [second]
      exact List.mem_cons_of_mem _ ih

theorem minimum?_mem {values : List F} {least : F} (found : minimum? values = some least) :
    least ∈ values := by
  cases values with
  | nil => cases found
  | cons value rest =>
    cases found
    exact foldl_min_mem

theorem exists_of_polylineDistance_le {point : Vector3 F} {polyline : List (Vector3 F)} {limit : F}
    (long : pairwise polyline ≠ []) (near : polylineDistance point polyline ≤ limit) :
    ∃ line ∈ pairwise polyline, pointSegmentDistance point line.1 line.2 ≤ limit := by
  unfold polylineDistance at near
  cases found : minimum? ((pairwise polyline).map fun line =>
      pointSegmentDistance point line.1 line.2) with
  | none =>
    cases segments : pairwise polyline with
    | nil => exact absurd segments long
    | cons => simp [segments, minimum?] at found
  | some least =>
    rw [found] at near
    obtain ⟨line, member, value⟩ := List.mem_map.mp (minimum?_mem found)
    exact ⟨line, member, value.le.trans near⟩

theorem polylineDistance_le_of_deviation {drone : DroneCase F} {route : RouteGeometry F} {limit : F}
    (near : routeCenterlineDeviation drone route ≤ limit) {point : Vector3 F}
    (member : point ∈ route.pointsM) :
    polylineDistance point (authoredCenterline drone) ≤ limit := by
  unfold routeCenterlineDeviation at near
  cases found : maximum? (route.pointsM.map fun point =>
      polylineDistance point (authoredCenterline drone)) with
  | none =>
    cases points : route.pointsM with
    | nil => simp [points] at member
    | cons => simp [points, maximum?] at found
  | some most =>
    rw [found] at near
    exact (maximum?_le found).mp near _ (List.mem_map_of_mem member)

variable {case : CampaignCase F} {planning : PlanningSubmission F} {candidateSha256 : String}
variable {routes : List (RouteGeometry F)} {certificate : FeasibilityCertificate F}

theorem exists_near_of_passed {route : RouteGeometry F} {drone : DroneCase F} {limit : F}
    (ok : certifyCandidateRoutes case planning candidateSha256 routes = .ok certificate)
    (passed : certificate.passed = true) (member : route ∈ routes)
    (of_role : droneByRole case route.roleId = .ok drone)
    (allowed : limit ∈ allowedDeviation planning.pathAdherence) {point : Vector3 F}
    (vertex : point ∈ route.pointsM) :
    ∃ line ∈ pairwise (authoredCenterline drone),
      pointSegmentDistance point line.1 line.2 ≤ limit := by
  unfold allowedDeviation at allowed
  split at allowed
  · next bounded =>
    obtain ⟨most, limited, rfl⟩ := Option.mem_map.mp allowed
    have adheres := routeAdherenceViolations_of_passed ok passed member
    have inside : boundsCenterline planning.pathAdherence.mode = true := by
      unfold boundsCenterline
      simp only [List.mem_cons] at bounded
      simp
      tauto
    have near := not_deviates_of_adheres adheres of_role inside limited
    apply exists_of_polylineDistance_le (pairwise_authoredCenterline_ne_nil drone)
    exact polylineDistance_le_of_deviation (Exact.lt_false.mp near) vertex
  · cases allowed

end Vertices

/-! ## Segments of a route in real space -/

section Real

/-- The point that `_point_segment_distance` measures to is on the segment. -/
theorem exists_of_pointSegmentDistance_le {point : Vector3 ℝ} {line : Vector3 ℝ × Vector3 ℝ}
    {limit : ℝ} (near : pointSegmentDistance point line.1 line.2 ≤ limit) :
    ∃ s ∈ Icc (0 : ℝ) 1, distance point (lerp line.1 line.2 s) ≤ limit := by
  unfold pointSegmentDistance at near
  refine ⟨_, ?_, near⟩
  simp only [Exact.zero_eq, Exact.max_eq, Exact.min_eq, Exact.ofRat_cast]
  split <;> simp

theorem sq_le_of_distance_le {first second : Vector3 ℝ} {limit : ℝ}
    (near : distance first second ≤ limit) :
    dot (subtract first second) (subtract first second) ≤ limit ^ 2 :=
  (Real.sqrt_le_iff.mp near).2

/-- What is between a place on a segment and one on a line, squared. -/
noncomputable def gap (segment line : Vector3 ℝ × Vector3 ℝ) (place : ℝ × ℝ) : ℝ :=
  let apart := subtract (lerp segment.1 segment.2 place.1) (lerp line.1 line.2 place.2)
  dot apart apart

/-- One coordinate of `gap`. -/
def gapOn (a b c d : ℝ) (place : ℝ × ℝ) : ℝ :=
  (a + (b - a) * place.1 - (c + (d - c) * place.2)) ^ 2

theorem gap_eq (segment line : Vector3 ℝ × Vector3 ℝ) : gap segment line =
    gapOn segment.1.x segment.2.x line.1.x line.2.x + gapOn segment.1.y segment.2.y line.1.y line.2.y +
      gapOn segment.1.z segment.2.z line.1.z line.2.z := by
  funext place
  simp only [gap, gapOn, dot, subtract, lerp, Exact.plus, Exact.minus, Exact.times, Pi.add_apply]
  ring

theorem gapOn_continuous (a b c d : ℝ) : Continuous (gapOn a b c d) := by
  unfold gapOn
  fun_prop

theorem gapOn_convexOn (a b c d : ℝ) : ConvexOn ℝ univ (gapOn a b c d) := by
  refine ⟨convex_univ, fun p _ q _ first second first_nonneg second_nonneg total => ?_⟩
  have convex : ConvexOn ℝ univ fun x : ℝ => x ^ 2 := even_two.convexOn_pow
  have square := convex.2
    (mem_univ (a + (b - a) * p.1 - (c + (d - c) * p.2)))
    (mem_univ (a + (b - a) * q.1 - (c + (d - c) * q.2))) first_nonneg second_nonneg total
  simp only [smul_eq_mul] at square
  have mixed : a + (b - a) * (first * p.1 + second * q.1) -
        (c + (d - c) * (first * p.2 + second * q.2)) =
      first * (a + (b - a) * p.1 - (c + (d - c) * p.2)) +
        second * (a + (b - a) * q.1 - (c + (d - c) * q.2)) := by
    linear_combination (c - a) * total
  simp only [gapOn, Prod.fst_add, Prod.snd_add, Prod.smul_fst, Prod.smul_snd, smul_eq_mul]
  rwa [mixed]

theorem withinOf_eq (limit : ℝ) (segment line : Vector3 ℝ × Vector3 ℝ) :
    withinOf limit segment line =
      Prod.fst '' {place : ℝ × ℝ | place.2 ∈ Icc 0 1 ∧ gap segment line place ≤ limit ^ 2} := by
  ext t
  constructor
  · rintro ⟨s, inside, near⟩
    exact ⟨(t, s), ⟨inside, near⟩, rfl⟩
  · rintro ⟨place, ⟨inside, near⟩, rfl⟩
    exact ⟨place.2, inside, near⟩

theorem withinOf_isClosed (limit : ℝ) (segment line : Vector3 ℝ × Vector3 ℝ) :
    IsClosed (withinOf limit segment line) := by
  have continuous : Continuous (gap segment line) := by
    rw [gap_eq]
    exact ((gapOn_continuous ..).add (gapOn_continuous ..)).add (gapOn_continuous ..)
  -- The fraction of the line is in a compact interval, along which a closed set is projected.
  have closed : IsClosed {place : ℝ × Icc (0 : ℝ) 1 |
      gap segment line (place.1, place.2) ≤ limit ^ 2} := by
    apply isClosed_le _ continuous_const
    fun_prop
  have projected := isClosedMap_fst_of_compactSpace _ closed
  convert projected using 1
  ext t
  constructor
  · rintro ⟨s, inside, near⟩
    exact ⟨(t, ⟨s, inside⟩), near, rfl⟩
  · rintro ⟨place, near, rfl⟩
    exact ⟨place.2, place.2.2, near⟩

theorem withinOf_ordConnected (limit : ℝ) (segment line : Vector3 ℝ × Vector3 ℝ) :
    (withinOf limit segment line).OrdConnected := by
  have convex : ConvexOn ℝ univ (gap segment line) := by
    rw [gap_eq]
    exact ((gapOn_convexOn ..).add (gapOn_convexOn ..)).add (gapOn_convexOn ..)
  have along : Convex ℝ {place : ℝ × ℝ | place.2 ∈ Icc 0 1} :=
    (convex_Icc 0 1).linear_preimage (LinearMap.snd ℝ ℝ ℝ)
  have near : Convex ℝ {place | gap segment line place ≤ limit ^ 2} := by
    simpa using convex.convex_le (limit ^ 2)
  rw [withinOf_eq]
  exact ((along.inter near).linear_image (LinearMap.fst ℝ ℝ ℝ)).ordConnected

theorem containing_isClosed (segment : Vector3 ℝ × Vector3 ℝ) (goal : Region3D ℝ) :
    IsClosed {t : ℝ | goal.contains (lerp segment.1 segment.2 t) = true} := by
  simp only [Region3D.contains, lerp, Exact.plus, Exact.minus, Exact.times, Bool.and_eq_true,
    Exact.le_true, ofPred_and]
  refine ((IsClosed.inter ?_ ?_).inter (IsClosed.inter ?_ ?_)).inter (IsClosed.inter ?_ ?_) <;>
    exact isClosed_le (by fun_prop) (by fun_prop)

theorem from_isClosed (p : ℕ ×ₗ ℝ) (k : ℕ) : IsClosed {t : ℝ | p ≤ toLex (k, t)} := by
  simp only [Prod.Lex.le_iff, ofLex_toLex]
  by_cases before : (ofLex p).1 < k
  · simp [before]
  · simp only [before, false_or]
    by_cases same : (ofLex p).1 = k
    · simp only [same, true_and]
      exact isClosed_Ici
    · simp [same]

theorem exists_first_arrival {points : List (Vector3 ℝ)} {goal : Region3D ℝ} {p v : ℕ ×ₗ ℝ}
    (visited : v ∈ arrivals points goal) (later : p ≤ v) :
    ∃ first, IsLeast {v ∈ arrivals points goal | p ≤ v} first := by
  classical
  have visits : ∃ k t, toLex (k, t) ∈ {v ∈ arrivals points goal | p ≤ v} :=
    ⟨(ofLex v).1, (ofLex v).2, visited, later⟩
  have earliest := fun k => Nat.find_min' (m := k) visits
  obtain ⟨t, ⟨segment, at_k, inside, contained⟩, from_p⟩ := Nat.find_spec visits
  generalize Nat.find visits = k at earliest at_k from_p
  -- On the first segment with a visit the visits are a compact set.
  have compact : IsCompact (Icc (0 : ℝ) 1 ∩ ({t | goal.contains (lerp segment.1 segment.2 t) = true}
      ∩ {t | p ≤ toLex (k, t)})) :=
    isCompact_Icc.inter_right ((containing_isClosed segment goal).inter (from_isClosed p k))
  obtain ⟨first, ⟨along, contains, from_first⟩, least⟩ :=
    compact.exists_isLeast ⟨t, inside, contained, from_p⟩
  refine ⟨toLex (k, first), ⟨⟨segment, at_k, along, contains⟩, from_first⟩, ?_⟩
  rintro w ⟨⟨other, at_w, within, contains_w⟩, from_w⟩
  have not_before := earliest (ofLex w).1 ⟨(ofLex w).2, ⟨other, at_w, within, contains_w⟩, from_w⟩
  rw [Prod.Lex.le_iff]
  rcases not_before.lt_or_eq with before | same
  · exact .inl before
  · subst same
    cases at_k.symm.trans at_w
    exact .inr ⟨rfl, least ⟨within, contains_w, from_w⟩⟩

end Real

/-! ## The intent of a certified route -/

section Intent

variable {case : CampaignCase ℝ} {planning : PlanningSubmission ℝ} {candidateSha256 : String}
variable {routes : List (RouteGeometry ℝ)} {certificate : FeasibilityCertificate ℝ}

theorem mem_points_of_segment {points : List (Vector3 ℝ)} {segment : Vector3 ℝ × Vector3 ℝ}
    (member : segment ∈ pairwise points) : segment.1 ∈ points :=
  (List.of_mem_zip member).1

theorem start_within_of_passed {route : RouteGeometry ℝ} {drone : DroneCase ℝ} {limit : ℝ}
    (ok : certifyCandidateRoutes case planning candidateSha256 routes = .ok certificate)
    (passed : certificate.passed = true) (member : route ∈ routes)
    (of_role : droneByRole case route.roleId = .ok drone)
    (allowed : limit ∈ allowedDeviation planning.pathAdherence) {segment : Vector3 ℝ × Vector3 ℝ}
    (among : segment ∈ pairwise route.pointsM) :
    ∃ line ∈ {line | line ∈ pairwise (authoredCenterline drone)},
      0 ∈ withinOf limit segment line := by
  have vertex := mem_points_of_segment among
  obtain ⟨line, of_line, near⟩ := exists_near_of_passed ok passed member of_role allowed vertex
  obtain ⟨s, inside, near⟩ := exists_of_pointSegmentDistance_le near
  refine ⟨line, of_line, s, inside, ?_⟩
  have origin : lerp segment.1 segment.2 (0 : ℝ) = segment.1 := by simp [lerp]
  rw [origin]
  exact sq_le_of_distance_le near

/-- A certified route honours its intent exactly when no goal is wholly passed before the first
arrival at the one before it, and when wherever a segment of an exact route or of a hard tube
leaves the neighbourhood of one part of the centerline that of another part takes over. -/
theorem passed_honours_intent_iff {route : RouteGeometry ℝ} {drone : DroneCase ℝ}
    (ok : certifyCandidateRoutes case planning candidateSha256 routes = .ok certificate)
    (passed : certificate.passed = true) (member : route ∈ routes)
    (of_role : droneByRole case route.roleId = .ok drone) :
    HonoursIntent drone planning.pathAdherence route.pointsM ↔
      ¬Overtaken routeStart (drone.goalSequence.map (arrivals route.pointsM)) ∧
      ∀ limit ∈ allowedDeviation planning.pathAdherence, ∀ segment ∈ pairwise route.pointsM,
        HandsOver {line | line ∈ pairwise (authoredCenterline drone)} (withinOf limit segment)
          0 1 := by
  have order : Visits routeStart (drone.goalSequence.map (arrivals route.pointsM)) ↔
      ¬Overtaken routeStart (drone.goalSequence.map (arrivals route.pointsM)) := by
    apply visits_iff
    intro goals among p v visited later
    obtain ⟨goal, -, rfl⟩ := List.mem_map.mp among
    exact exists_first_arrival visited later
  have tube : ∀ limit ∈ allowedDeviation planning.pathAdherence,
      ∀ segment ∈ pairwise route.pointsM,
        (∀ t ∈ Icc (0 : ℝ) 1, ∃ line ∈ {line | line ∈ pairwise (authoredCenterline drone)},
          t ∈ withinOf limit segment line) ↔
        HandsOver {line | line ∈ pairwise (authoredCenterline drone)} (withinOf limit segment)
          0 1 := by
    intro limit allowed segment among
    apply covers_iff
    · exact List.finite_toSet _
    · exact fun line _ => withinOf_isClosed limit segment line
    · exact fun line _ => withinOf_ordConnected limit segment line
    · exact start_within_of_passed ok passed member of_role allowed among
  constructor
  · rintro ⟨inOrder, inTube⟩
    exact ⟨order.mp inOrder, fun limit allowed segment among =>
      (tube limit allowed segment among).mp (inTube limit allowed segment among)⟩
  · rintro ⟨free, handsOver⟩
    exact ⟨order.mpr free, fun limit allowed segment among =>
      (tube limit allowed segment among).mpr (handsOver limit allowed segment among)⟩

end Intent

/-! ## A route that cuts a corner and takes its goals in the wrong order -/

noncomputable section Corner

def square (regionId : String) (x y : ℝ) : Region3D ℝ :=
  ⟨regionId, ⟨x - 1 / 10, y - 1 / 10, 9 / 10⟩, ⟨x + 1 / 10, y + 1 / 10, 11 / 10⟩⟩

def cornerDrone : DroneCase ℝ :=
  ⟨"alpha", square "start" 0 0, [square "first" 1 0, square "second" 1 1], square "landing" 0 1,
    100, 20, 1⟩

def cornerData : CaseData ℝ where
  caseId := "corner"
  family := "single_drone"
  drones := [cornerDrone]
  hardConstraints :=
    { flightVolume := ⟨"volume", ⟨-2, -2, 0⟩, ⟨2, 2, 2⟩⟩
      warningSeparationM := 1 / 2
      positionUncertaintyM := 0
      dynamics := ⟨1, 1, 1, 1⟩
      deadlineS := 100
      maximumHoverS := 10
      maximumUnrequiredAirborneWaitS := 1
      minimumRealtimeFactor := 1
      watchdogGuardS := 0
      planningBudgetS := 1 }
  allowedStrategies := [.direct]
  search := ⟨1 / 50, 1, 1, [1]⟩

theorem cornerDrone_valid : cornerDrone.valid = true := by
  simp [cornerDrone, DroneCase.valid, Region3D.ordered, square, PyFloat.atMost, PyFloat.ge]
  norm_num
  decide

theorem cornerData_constraints :
    ∀ check ∈ cornerData.hardConstraints.fieldChecks, check.2 = true := by
  simp [HardConstraints.fieldChecks, cornerData, Region3D.ordered, PyFloat.gt, PyFloat.ge,
    PyFloat.atMost]

theorem cornerData_search : ∀ check ∈ cornerData.search.fieldChecks, check.2 = true := by
  simp [SearchSettings.fieldChecks, cornerData, PyFloat.gt, PyFloat.atMost]
  norm_num

theorem cornerData_inside :
    (cornerData.hardConstraints.flightVolume.contains cornerDrone.startRegion.center &&
      (cornerDrone.goalSequence.all fun goal =>
        cornerData.hardConstraints.flightVolume.contains goal.center) &&
      cornerData.hardConstraints.flightVolume.contains cornerDrone.landingRegion.center) =
      true := by
  simp [cornerData, cornerDrone, Region3D.contains, Region3D.center, square]
  norm_num

theorem cornerData_valid : cornerData.validate = .ok () := by
  unfold CaseData.validate
  refine bind_eq_ok.mpr ⟨(), checked_eq_ok.mpr ?_, ?_⟩
  · simp only [List.mem_cons, List.not_mem_nil, or_false, forall_eq_or_imp, forall_eq]
    refine ⟨by decide, by decide, ?_, rfl⟩
    simpa [cornerData] using cornerDrone_valid
  refine bind_eq_ok.mpr ⟨(), checked_eq_ok.mpr cornerData_constraints, ?_⟩
  refine bind_eq_ok.mpr ⟨(), checked_eq_ok.mpr cornerData_search, ?_⟩
  refine bind_eq_ok.mpr ⟨(), by simp [cornerData, require], ?_⟩
  refine bind_eq_ok.mpr ⟨(), by simp [cornerData, require], ?_⟩
  refine bind_eq_ok.mpr ⟨(), by simp [cornerData, require], ?_⟩
  refine bind_eq_ok.mpr ⟨(), ?_, rfl⟩
  exact bind_eq_ok.mpr ⟨(), if_pos cornerData_inside, rfl⟩

def cornerCase : CampaignCase ℝ := ⟨cornerData, cornerData_valid⟩

def cornerPlanning : PlanningSubmission ℝ where
  planningSubmissionId := "corner"
  strategyAuthority := [.direct]
  pathAdherence := ⟨.hardTube, some (1 / 10), by simp [PyFloat.gt], rfl, rfl⟩
  clearance := ⟨1 / 10, 1 / 20, 1 / 2, 1 / 10, 0⟩
  coordination := ⟨false, false, 100, 0, 30⟩
  objective := ⟨.lexicographic, [⟨.missionCompletionTimeS, none⟩], by simp, by simp, by simp⟩
  uniqueAuthority := by decide

def cornerRoute : RouteGeometry ℝ where
  roleId := "alpha"
  pointsM := [⟨0, 0, 1⟩, ⟨1, 1, 1⟩, ⟨1, 0, 1⟩]
  routeStartS := 0
  routeDurationS := 10

theorem corner_deviation : routeCenterlineDeviation cornerDrone cornerRoute = 0 := by
  simp [routeCenterlineDeviation, cornerRoute, maximum?, polylineDistance, authoredCenterline,
    cornerDrone, square, pairwise, minimum?, Region3D.center, pointSegmentDistance, distance,
    subtract, dot, norm, add, scale]
  norm_num

theorem corner_adheres :
    routeAdherenceViolations cornerCase cornerPlanning cornerRoute = .ok [] := by
  have of_role : droneByRole cornerCase cornerRoute.roleId = .ok cornerDrone := rfl
  have visited : (cornerDrone.goalSequence.any fun goal =>
      !cornerRoute.pointsM.any goal.contains) = false := by
    simp [cornerDrone, cornerRoute, Region3D.contains, square]
    norm_num
  unfold routeAdherenceViolations
  simp only [of_role, bind, Except.bind]
  simp [visited, cornerPlanning, boundsCenterline, corner_deviation]
  norm_num
  rfl

theorem corner_passes : ∃ certificate,
    certifyCandidateRoutes cornerCase cornerPlanning "sha" [cornerRoute] = .ok certificate ∧
      certificate.passed = true := by
  have boundary : minimum? ([cornerRoute].flatMap fun route => route.pointsM.map fun point =>
      boundaryClearance point (structuredWorldFromCase cornerCase).flightVolume
        cornerPlanning.clearance) = some (9 / 10) := by
    simp [cornerRoute, minimum?, boundaryClearance, cornerPlanning, structuredWorldFromCase,
      cornerCase, cornerData]
    norm_num
  have measured : pathAdherenceDeviation cornerCase cornerPlanning [cornerRoute] =
      .ok (.value (routeCenterlineDeviation cornerDrone cornerRoute)) := rfl
  have adheres : pathAdherenceViolations cornerCase cornerPlanning [cornerRoute] = .ok [] := by
    unfold pathAdherenceViolations
    simp [List.mapM_cons, corner_adheres, bind, Except.bind, pure, Except.pure]
  unfold certifyCandidateRoutes
  simp only [boundary, measured, adheres, bind, Except.bind, pure, Except.pure]
  refine ⟨_, rfl, ?_⟩
  simp [contradictions, structuredWorldFromCase, cornerCase, cornerData, CaseData.keepOutRegions,
    CaseData.requiredCorridors, combinations, leastClearance, routeOverlap, maximum?, minimum?,
    cornerPlanning, cornerRoute]
  norm_num

theorem corner_segments : pairwise cornerRoute.pointsM =
    [(⟨0, 0, 1⟩, ⟨1, 1, 1⟩), (⟨1, 1, 1⟩, ⟨1, 0, 1⟩)] := rfl

theorem corner_centerline : pairwise (authoredCenterline cornerDrone) =
    [(⟨0, 0, 1⟩, ⟨1, 0, 1⟩), (⟨1, 0, 1⟩, ⟨1, 1, 1⟩), (⟨1, 1, 1⟩, ⟨0, 1, 1⟩)] := by
  simp [authoredCenterline, cornerDrone, pairwise, square, Region3D.center]
  norm_num

/-- The first goal is reached only at the end of the second segment. -/
theorem corner_first_arrival {place : ℕ ×ₗ ℝ}
    (visited : place ∈ arrivals cornerRoute.pointsM (square "first" 1 0)) :
    (ofLex place).1 = 1 ∧ 9 / 10 ≤ (ofLex place).2 := by
  obtain ⟨segment, at_place, inside, contains⟩ := visited
  rw [corner_segments] at at_place
  rcases index : (ofLex place).1 with _ | _ | _
  · rw [index] at at_place
    cases at_place
    simp [Region3D.contains, square, lerp] at contains
    linarith
  · rw [index] at at_place
    cases at_place
    simp [Region3D.contains, square, lerp] at contains
    refine ⟨rfl, ?_⟩
    linarith
  · simp [index] at at_place

theorem corner_out_of_order :
    ¬Visits routeStart (cornerDrone.goalSequence.map (arrivals cornerRoute.pointsM)) := by
  rintro ⟨first, at_first, -, second, ⟨segment, at_second, inside, contains⟩, later, -⟩
  obtain ⟨on_second, at_end⟩ := corner_first_arrival at_first
  rw [corner_segments] at at_second
  rw [Prod.Lex.le_iff] at later
  rcases index : (ofLex second).1 with _ | _ | _
  · omega
  · rw [index] at at_second later
    cases at_second
    simp [Region3D.contains, square, lerp] at contains
    rcases later with before | ⟨-, after⟩
    · omega
    · linarith
  · simp [index] at at_second

theorem corner_leaves_tube : ¬∀ limit ∈ allowedDeviation cornerPlanning.pathAdherence,
    ∀ segment ∈ pairwise cornerRoute.pointsM, ∀ t ∈ Icc (0 : ℝ) 1,
      ∃ line ∈ {line | line ∈ pairwise (authoredCenterline cornerDrone)},
        t ∈ withinOf limit segment line := by
  intro inTube
  obtain ⟨line, member, s, -, near⟩ := inTube (1 / 10 + 1e-9)
    (by simp [allowedDeviation, cornerPlanning]) (⟨0, 0, 1⟩, ⟨1, 1, 1⟩)
    (by simp [corner_segments]) (1 / 2) (by norm_num)
  have square_nonneg := sq_nonneg (1 / 2 - s)
  simp only [mem_ofPred_eq, corner_centerline, List.mem_cons, List.not_mem_nil, or_false] at member
  rcases member with rfl | rfl | rfl
  · simp [dot, subtract, lerp] at near
    nlinarith
  · simp [dot, subtract, lerp] at near
    nlinarith
  · simp [dot, subtract, lerp] at near
    nlinarith

/-- The certificate of the route passes with the order of the goals and the tube both broken. -/
theorem corner_intent_broken : ∃ certificate,
    certifyCandidateRoutes cornerCase cornerPlanning "sha" [cornerRoute] = .ok certificate ∧
      certificate.passed = true ∧
      droneByRole cornerCase cornerRoute.roleId = .ok cornerDrone ∧
      ¬HonoursIntent cornerDrone cornerPlanning.pathAdherence cornerRoute.pointsM ∧
      ¬Visits routeStart (cornerDrone.goalSequence.map (arrivals cornerRoute.pointsM)) ∧
      ¬∀ limit ∈ allowedDeviation cornerPlanning.pathAdherence,
        ∀ segment ∈ pairwise cornerRoute.pointsM, ∀ t ∈ Icc (0 : ℝ) 1,
          ∃ line ∈ {line | line ∈ pairwise (authoredCenterline cornerDrone)},
            t ∈ withinOf limit segment line := by
  obtain ⟨certificate, ok, passed⟩ := corner_passes
  have broken : ¬HonoursIntent cornerDrone cornerPlanning.pathAdherence cornerRoute.pointsM :=
    fun honours => corner_out_of_order honours.inOrder
  exact ⟨certificate, ok, passed, rfl, broken, corner_out_of_order, corner_leaves_tube⟩

theorem passed_honours_intent_iff_corner : ∃ certificate,
    certifyCandidateRoutes cornerCase cornerPlanning "sha" [cornerRoute] = .ok certificate ∧
      (HonoursIntent cornerDrone cornerPlanning.pathAdherence cornerRoute.pointsM ↔
        ¬Overtaken routeStart (cornerDrone.goalSequence.map (arrivals cornerRoute.pointsM)) ∧
        ∀ limit ∈ allowedDeviation cornerPlanning.pathAdherence,
          ∀ segment ∈ pairwise cornerRoute.pointsM,
            HandsOver {line | line ∈ pairwise (authoredCenterline cornerDrone)}
              (withinOf limit segment) 0 1) := by
  obtain ⟨certificate, ok, passed⟩ := corner_passes
  exact ⟨certificate, ok,
    passed_honours_intent_iff ok passed (List.mem_singleton.mpr rfl) rfl⟩

end Corner

end CampaignGeometry

end CrazySwarm
