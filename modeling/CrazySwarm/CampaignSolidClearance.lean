import CrazySwarm.CampaignPairClearance
import CrazySwarm.Lib.Segments

/-! The clearance of a segment from a box. The distance to a box is convex along a segment, so that
the ternary search ends near its least value; the slab test before it finds the segments that meet
the box, up to an axis along which a segment hardly moves. -/
namespace CrazySwarm
namespace CampaignGeometry
open Set Searches Segments
open scoped Numerals

section Statement

/-- Up to this difference of its ends the slab test takes a segment to stand still on an axis. -/
noncomputable def standsWithin : ℝ := (1e-15 : ℚ)

/-- The segment has a point in the box. -/
def Meets (start last : Vector3 ℝ) (bounds : Region3D ℝ) : Prop :=
  ∃ t ∈ Icc (0 : ℝ) 1, bounds.contains (lerp start last t) = true

/-- The distances of the points of the segment from the points of the box. -/
def clearances (start last : Vector3 ℝ) (bounds : Region3D ℝ) : Set ℝ :=
  {d | ∃ t ∈ Icc (0 : ℝ) 1, ∃ point, bounds.contains point = true ∧
    distance (lerp start last t) point = d}

/-- On every axis the segment stands still or moves by more than the slab test overlooks. -/
def Resolved (start last : Vector3 ℝ) : Prop :=
  (start.x = last.x ∨ standsWithin < |last.x - start.x|) ∧
    (start.y = last.y ∨ standsWithin < |last.y - start.y|) ∧
    (start.z = last.z ∨ standsWithin < |last.z - start.z|)

end Statement

/-! ## The distance of a point -/

section Point

variable {bounds : Region3D ℝ} {point other : Vector3 ℝ} {low high c p : ℝ}

theorem contains_iff : bounds.contains point = true ↔
    point.x ∈ Icc bounds.minimumM.x bounds.maximumM.x ∧
      point.y ∈ Icc bounds.minimumM.y bounds.maximumM.y ∧
      point.z ∈ Icc bounds.minimumM.z bounds.maximumM.z := by
  simp only [Region3D.contains, Bool.and_eq_true, Exact.le_true, mem_Icc, and_assoc]

theorem ordered_iff : bounds.ordered = true ↔ bounds.minimumM.x ≤ bounds.maximumM.x ∧
    bounds.minimumM.y ≤ bounds.maximumM.y ∧ bounds.minimumM.z ≤ bounds.maximumM.z := by
  simp only [Region3D.ordered, Bool.and_eq_true, Exact.le_true, and_assoc]

/-- How far a coordinate is outside two bounds. -/
def outside (low high c : ℝ) : ℝ := max (max (low - c) 0) (c - high)

theorem pointAabbDistance_eq (point : Vector3 ℝ) (bounds : Region3D ℝ) :
    pointAabbDistance point bounds =
      √(outside bounds.minimumM.x bounds.maximumM.x point.x ^ 2 +
        outside bounds.minimumM.y bounds.maximumM.y point.y ^ 2 +
        outside bounds.minimumM.z bounds.maximumM.z point.z ^ 2) := by
  simp only [pointAabbDistance, outside, Exact.plus, Exact.times, Exact.minus, Exact.max_eq,
    Exact.zero_eq, real_sqrt, sq]

theorem distance_eq_sqrt (first second : Vector3 ℝ) : distance first second =
    √((first.x - second.x) ^ 2 + (first.y - second.y) ^ 2 + (first.z - second.z) ^ 2) := by
  simp only [distance, norm, dot, subtract, Exact.plus, Exact.times, Exact.minus, real_sqrt, sq]

/-- The place between two bounds that is nearest to a coordinate. -/
def clampTo (low high c : ℝ) : ℝ := max low (min c high)

theorem clampTo_mem (ordered : low ≤ high) : clampTo low high c ∈ Icc low high :=
  ⟨le_max_left _ _, max_le ordered (min_le_right _ _)⟩

theorem outside_eq (ordered : low ≤ high) : outside low high c ^ 2 = (c - clampTo low high c) ^ 2 := by
  unfold outside clampTo
  rcases le_total c low with below | above
  · rw [min_eq_left (below.trans ordered), max_eq_left below, max_eq_left (sub_nonneg.mpr below),
      max_eq_left (by linarith)]
    ring
  · rw [max_eq_right (sub_nonpos.mpr above)]
    rcases le_total c high with inside | beyond
    · rw [min_eq_left inside, max_eq_right above, max_eq_left (sub_nonpos.mpr inside)]
      ring
    · rw [min_eq_right beyond, max_eq_right ordered, max_eq_right (sub_nonneg.mpr beyond)]

theorem outside_le (between : p ∈ Icc low high) : outside low high c ^ 2 ≤ (c - p) ^ 2 := by
  have nonneg : 0 ≤ outside low high c := (le_max_right _ _).trans (le_max_left _ _)
  have near : outside low high c ≤ |c - p| := by
    refine max_le (max_le ?_ (abs_nonneg _)) ?_
    · linarith [neg_abs_le (c - p), between.1]
    · linarith [le_abs_self (c - p), between.2]
  rw [← sq_abs (c - p)]
  exact pow_le_pow_left₀ nonneg near 2

/-- The point of the box that is nearest to a point. -/
noncomputable def nearestIn (bounds : Region3D ℝ) (point : Vector3 ℝ) : Vector3 ℝ :=
  ⟨clampTo bounds.minimumM.x bounds.maximumM.x point.x,
    clampTo bounds.minimumM.y bounds.maximumM.y point.y,
    clampTo bounds.minimumM.z bounds.maximumM.z point.z⟩

theorem contains_nearestIn (ordered : bounds.ordered = true) (point : Vector3 ℝ) :
    bounds.contains (nearestIn bounds point) = true := by
  obtain ⟨orderedX, orderedY, orderedZ⟩ := ordered_iff.mp ordered
  exact contains_iff.mpr ⟨clampTo_mem orderedX, clampTo_mem orderedY, clampTo_mem orderedZ⟩

theorem distance_nearestIn (ordered : bounds.ordered = true) :
    distance point (nearestIn bounds point) = pointAabbDistance point bounds := by
  obtain ⟨orderedX, orderedY, orderedZ⟩ := ordered_iff.mp ordered
  rw [pointAabbDistance_eq, distance_eq_sqrt, outside_eq orderedX, outside_eq orderedY,
    outside_eq orderedZ]
  rfl

/-- No point of the box is nearer than the distance to the box. -/
theorem pointAabbDistance_le (inside : bounds.contains other = true) :
    pointAabbDistance point bounds ≤ distance point other := by
  obtain ⟨insideX, insideY, insideZ⟩ := contains_iff.mp inside
  rw [pointAabbDistance_eq, distance_eq_sqrt]
  apply Real.sqrt_le_sqrt
  exact add_le_add (add_le_add (outside_le insideX) (outside_le insideY)) (outside_le insideZ)

theorem distance_nonneg (first second : Vector3 ℝ) : 0 ≤ distance first second := by
  rw [distance_eq]
  exact dist_nonneg

theorem eq_of_distance_eq_zero (together : distance point other = 0) : point = other := by
  rw [distance_eq, dist_eq_zero] at together
  exact euclidean_injective together

theorem contains_mix {s t : ℝ} (first : bounds.contains point = true)
    (second : bounds.contains other = true) (nonneg : 0 ≤ s) (nonneg' : 0 ≤ t) (whole : s + t = 1) :
    bounds.contains (add (scale point s) (scale other t)) = true := by
  obtain ⟨firstX, firstY, firstZ⟩ := contains_iff.mp first
  obtain ⟨secondX, secondY, secondZ⟩ := contains_iff.mp second
  have between {low high a b : ℝ} (first : a ∈ Icc low high) (second : b ∈ Icc low high) :
      a * s + b * t ∈ Icc low high := by
    have mixed := convex_Icc low high first second nonneg nonneg' whole
    rwa [smul_eq_mul, smul_eq_mul, mul_comm s, mul_comm t] at mixed
  exact contains_iff.mpr ⟨between firstX secondX, between firstY secondY, between firstZ secondZ⟩

end Point

/-! ## Along a segment -/

section Segment

variable {start last : Vector3 ℝ} {bounds : Region3D ℝ}

/-- The distance from the box along the segment. -/
noncomputable def clearanceAt (start last : Vector3 ℝ) (bounds : Region3D ℝ) (t : ℝ) : ℝ :=
  pointAabbDistance (lerp start last t) bounds

/-- The distance to a box is convex along a segment: a box has the points between its points. -/
theorem clearanceAt_convexOn (ordered : bounds.ordered = true) :
    ConvexOn ℝ (Icc 0 1) (clearanceAt start last bounds) := by
  refine ⟨convex_Icc 0 1, ?_⟩
  intro x _ y _ s t nonneg nonneg' whole
  have inside (u : ℝ) := contains_nearestIn ordered (lerp start last u)
  have there (u : ℝ) : clearanceAt start last bounds u =
      ‖euclidean (lerp start last u) - euclidean (nearestIn bounds (lerp start last u))‖ := by
    rw [clearanceAt, ← distance_nearestIn ordered, distance_eq, dist_eq_norm]
  have mixed := contains_mix (inside x) (inside y) nonneg nonneg' whole
  have apart : euclidean (lerp start last (s • x + t • y)) -
      euclidean (add (scale (nearestIn bounds (lerp start last x)) s)
        (scale (nearestIn bounds (lerp start last y)) t)) =
      s • (euclidean (lerp start last x) - euclidean (nearestIn bounds (lerp start last x))) +
      t • (euclidean (lerp start last y) - euclidean (nearestIn bounds (lerp start last y))) := by
    obtain rfl : s = 1 - t := by linarith
    simp only [euclidean_add, euclidean_scale, euclidean_lerp, smul_eq_mul]
    module
  calc clearanceAt start last bounds (s • x + t • y)
      ≤ distance (lerp start last (s • x + t • y))
          (add (scale (nearestIn bounds (lerp start last x)) s)
            (scale (nearestIn bounds (lerp start last y)) t)) := pointAabbDistance_le mixed
    _ ≤ ‖s • (euclidean (lerp start last x) - euclidean (nearestIn bounds (lerp start last x)))‖ +
        ‖t • (euclidean (lerp start last y) -
          euclidean (nearestIn bounds (lerp start last y)))‖ := by
        rw [distance_eq, dist_eq_norm, apart]
        exact norm_add_le _ _
    _ = s • clearanceAt start last bounds x + t • clearanceAt start last bounds y := by
        rw [norm_smul, norm_smul, Real.norm_of_nonneg nonneg, Real.norm_of_nonneg nonneg', ← there,
          ← there]
        rfl

/-- The distance to the box changes no faster than the segment is long. -/
theorem clearanceAt_slope (ordered : bounds.ordered = true) (x y : ℝ) :
    clearanceAt start last bounds x ≤
      clearanceAt start last bounds y + distance start last * |x - y| := by
  have inside := contains_nearestIn ordered (lerp start last y)
  have moved : distance (lerp start last x) (lerp start last y) = distance start last * |x - y| := by
    rw [distance_eq, distance_eq, dist_eq_norm, dist_comm, dist_eq_norm, mul_comm, ← Real.norm_eq_abs,
      ← norm_smul, euclidean_lerp, euclidean_lerp]
    congr 1
    module
  calc clearanceAt start last bounds x
      ≤ distance (lerp start last x) (nearestIn bounds (lerp start last y)) :=
        pointAabbDistance_le inside
    _ ≤ distance (lerp start last x) (lerp start last y) +
        distance (lerp start last y) (nearestIn bounds (lerp start last y)) := by
        rw [distance_eq, distance_eq, distance_eq]
        exact dist_triangle _ _ _
    _ = clearanceAt start last bounds y + distance start last * |x - y| := by
        rw [moved, distance_nearestIn ordered, add_comm]
        rfl

theorem clearanceAt_continuous (start last : Vector3 ℝ) (bounds : Region3D ℝ) :
    Continuous (clearanceAt start last bounds) := by
  have along (a b : ℝ) : Continuous fun t => a + (b - a) * t := by fun_prop
  unfold clearanceAt
  simp only [pointAabbDistance_eq, outside, lerp, Exact.plus, Exact.times, Exact.minus]
  fun_prop

/-- Some point of the segment is nearest to the box. -/
theorem exists_least_clearance (start last : Vector3 ℝ) (ordered : bounds.ordered = true) :
    ∃ m, IsLeast (clearances start last bounds) m := by
  obtain ⟨t, inside, least⟩ := isCompact_Icc.exists_isMinOn (nonempty_Icc.mpr zero_le_one)
    (clearanceAt_continuous start last bounds).continuousOn
  refine ⟨clearanceAt start last bounds t, ⟨t, inside, _, contains_nearestIn ordered _,
    distance_nearestIn ordered⟩, ?_⟩
  rintro _ ⟨u, within, point, contained, rfl⟩
  exact (least within).trans (pointAabbDistance_le contained)

/-- The search of the code is the ternary search of the distance along the segment. -/
theorem narrow_eq (steps : ℕ) (range : ℝ × ℝ) : CampaignGeometry.narrow start last bounds steps range =
    Searches.narrow (clearanceAt start last bounds) steps range := by
  induction steps generalizing range with
  | zero => rfl
  | succ steps ih =>
    obtain ⟨low, high⟩ := range
    simp only [CampaignGeometry.narrow, Searches.narrow, ih, Exact.le_true, Exact.ofRat_cast,
      Exact.over_eq, Exact.plus, Exact.minus, clearanceAt, Rat.cast_ofNat]
    congr

/-- Where the search ends is a place of the segment, and the distance there is nearly the least. -/
theorem search_end (start last : Vector3 ℝ) (ordered : bounds.ordered = true) :
    ∃ t ∈ Icc (0 : ℝ) 1,
      (let kept := CampaignGeometry.narrow start last bounds 64 (0, 1)
       pointAabbDistance (lerp start last ((kept.1 + kept.2) / 2)) bounds) =
          clearanceAt start last bounds t ∧
      ∀ u ∈ Icc (0 : ℝ) 1, clearanceAt start last bounds t ≤
        clearanceAt start last bounds u + distance start last * (2 / 3) ^ 64 := by
  have convex : ConvexOn ℝ (Icc 0 1) (clearanceAt start last bounds) := clearanceAt_convexOn ordered
  obtain ⟨above, below, width⟩ :=
    narrow_within (clearanceAt start last bounds) 64 (zero_le_one (α := ℝ))
  have shrunk : (0 : ℝ) ≤ (1 - 0) * (2 / 3) ^ 64 := by norm_num
  refine ⟨_, ⟨?_, ?_⟩, by rw [narrow_eq]; rfl, ?_⟩
  · linarith
  · linarith
  · intro u inside
    have near := narrow_middle_le 64 convex
      (fun x _ y _ => clearanceAt_slope ordered x y) (distance_nonneg start last) inside
    rwa [sub_zero, one_mul] at near

end Segment

/-! ## The slab test -/

section Slabs

variable {start last : Vector3 ℝ} {bounds : Region3D ℝ} {range : ℝ × ℝ} {a b low high t : ℝ}

theorem standsWithin_nonneg : 0 ≤ standsWithin := Rat.cast_nonneg.mpr (by norm_num)

theorem clipAxis_eq : clipAxis range a b low high = clip standsWithin range a b low high := by
  rw [clip_eq_swapping]
  simp only [clipAxis, standsWithin, crossing, Exact.minus, Exact.over_eq, Exact.abs_eq,
    Exact.ofRat_cast, Exact.le_true, Bool.or_eq_true, Exact.lt_true, Exact.max_eq, Exact.min_eq]
  congr

/-- The point at a time of a segment that stands still on an axis along which it hardly moves. -/
noncomputable def heldAt (start last : Vector3 ℝ) (t : ℝ) : Vector3 ℝ :=
  ⟨heldAlong standsWithin start.x last.x t, heldAlong standsWithin start.y last.y t,
    heldAlong standsWithin start.z last.z t⟩

theorem segmentIntersectsAabb_iff (ordered : bounds.ordered = true) :
    segmentIntersectsAabb start last bounds = true ↔
      ∃ t ∈ Icc (0 : ℝ) 1, bounds.contains (heldAt start last t) = true := by
  unfold segmentIntersectsAabb
  simp only [clipAxis_eq, Exact.zero_eq, Exact.ofRat_cast, Rat.cast_one, contains_iff]
  exact clip_three_iff ![start.x, start.y, start.z] ![last.x, last.y, last.z]
    ![bounds.minimumM.x, bounds.minimumM.y, bounds.minimumM.z]
    ![bounds.maximumM.x, bounds.maximumM.y, bounds.maximumM.z]
    standsWithin_nonneg (ordered_iff.mp ordered)

theorem heldAt_of_resolved (resolved : Resolved start last) (t : ℝ) :
    heldAt start last t = lerp start last t := by
  obtain ⟨resolvedX, resolvedY, resolvedZ⟩ := resolved
  rw [heldAt, heldAlong_eq_along resolvedX, heldAlong_eq_along resolvedY,
    heldAlong_eq_along resolvedZ]
  rfl

/-- A segment that stands still is not far from the one that moves. -/
theorem distance_heldAt_le (inside : t ∈ Icc (0 : ℝ) 1) :
    distance (lerp start last t) (heldAt start last t) ≤ 2e-15 := by
  have near (a b : ℝ) : (along a b t - heldAlong standsWithin a b t) ^ 2 ≤ standsWithin ^ 2 := by
    rw [← sq_abs, abs_sub_comm]
    exact pow_le_pow_left₀ (abs_nonneg _)
      (abs_heldAlong_sub_along_le standsWithin_nonneg inside) 2
  have whole := add_le_add (add_le_add (near start.x last.x) (near start.y last.y))
    (near start.z last.z)
  rw [distance_eq_sqrt]
  refine Real.sqrt_le_iff.mpr ⟨by norm_num, le_trans whole ?_⟩
  norm_num [standsWithin]

end Slabs

section Sound

variable {start last : Vector3 ℝ} {bounds : Region3D ℝ} {m : ℝ}

theorem segmentAabbDistance_cases (start last : Vector3 ℝ) (ordered : bounds.ordered = true) :
    (segmentIntersectsAabb start last bounds = true ∧ segmentAabbDistance start last bounds = 0) ∨
      segmentIntersectsAabb start last bounds = false ∧ ∃ t ∈ Icc (0 : ℝ) 1,
        segmentAabbDistance start last bounds = clearanceAt start last bounds t ∧
        ∀ u ∈ Icc (0 : ℝ) 1, clearanceAt start last bounds t ≤
          clearanceAt start last bounds u + distance start last * (2 / 3) ^ 64 := by
  unfold segmentAabbDistance
  simp only [Exact.zero_eq, Exact.ofRat_cast, Exact.over_eq, Exact.plus, Rat.cast_one,
    Rat.cast_ofNat]
  cases segmentIntersectsAabb start last bounds with
  | true => exact .inl ⟨rfl, rfl⟩
  | false =>
    right
    simpa using search_end start last ordered

/-- The distance is above the least one by at most what the search leaves. -/
theorem segmentAabbDistance_le (start last : Vector3 ℝ) (ordered : bounds.ordered = true) {t : ℝ}
    (within : t ∈ Icc (0 : ℝ) 1) {point : Vector3 ℝ} (inside : bounds.contains point = true) :
    segmentAabbDistance start last bounds ≤
      distance (lerp start last t) point + distance start last * (2 / 3) ^ 64 := by
  have error : 0 ≤ distance start last * (2 / 3) ^ 64 :=
    mul_nonneg (distance_nonneg _ _) (by norm_num)
  rcases segmentAabbDistance_cases start last ordered with
    ⟨-, zero⟩ | ⟨-, u, -, value, near⟩
  · rw [zero]
    exact add_nonneg (distance_nonneg _ _) error
  · rw [value]
    exact (near t within).trans (add_le_add_left (pointAabbDistance_le inside) _)

theorem meets_iff_zero_mem : Meets start last bounds ↔ 0 ∈ clearances start last bounds := by
  constructor
  · rintro ⟨t, within, inside⟩
    refine ⟨t, within, _, inside, ?_⟩
    rw [distance_eq, dist_self]
  · rintro ⟨t, within, point, inside, together⟩
    exact ⟨t, within, eq_of_distance_eq_zero together ▸ inside⟩

/-- The distance is below the least one only by what the slab test overlooks. -/
theorem le_segmentAabbDistance (ordered : bounds.ordered = true)
    (least : IsLeast (clearances start last bounds) m) :
    m ≤ segmentAabbDistance start last bounds + 2e-15 := by
  rcases segmentAabbDistance_cases start last ordered with
    ⟨intersects, zero⟩ | ⟨-, t, within, value, -⟩
  · obtain ⟨t, within, inside⟩ := (segmentIntersectsAabb_iff ordered).mp intersects
    have found := least.2 ⟨t, within, _, inside, rfl⟩
    rw [zero, zero_add]
    exact found.trans (distance_heldAt_le within)
  · have found := least.2 ⟨t, within, _, contains_nearestIn ordered _, distance_nearestIn ordered⟩
    rw [value]
    exact found.trans (le_add_of_nonneg_right (by norm_num))

/-- Where the slab test overlooks nothing, the distance is zero exactly for a segment that meets
the box, and is never below the least one. -/
theorem segmentAabbDistance_of_resolved (ordered : bounds.ordered = true)
    (resolved : Resolved start last) (least : IsLeast (clearances start last bounds) m) :
    (segmentAabbDistance start last bounds = 0 ↔ Meets start last bounds) ∧
      m ≤ segmentAabbDistance start last bounds := by
  have intersects_iff : segmentIntersectsAabb start last bounds = true ↔ Meets start last bounds := by
    rw [segmentIntersectsAabb_iff ordered]
    simp only [heldAt_of_resolved resolved, Meets]
  rcases segmentAabbDistance_cases start last ordered with
    ⟨intersects, zero⟩ | ⟨apart, t, within, value, -⟩
  · have meets := intersects_iff.mp intersects
    exact ⟨⟨fun _ => meets, fun _ => zero⟩, zero ▸ least.2 (meets_iff_zero_mem.mp meets)⟩
  · have member : segmentAabbDistance start last bounds ∈ clearances start last bounds := by
      rw [value]
      exact ⟨t, within, _, contains_nearestIn ordered _, distance_nearestIn ordered⟩
    refine ⟨⟨fun zero => meets_iff_zero_mem.mpr (zero ▸ member), fun meets => ?_⟩, least.2 member⟩
    rw [intersects_iff.mpr meets] at apart
    cases apart

end Sound

/-! ## What a passed certificate says of the solids -/

section Certificate

variable {case : CampaignCase ℝ} {planning : PlanningSubmission ℝ} {candidateSha256 : String}
variable {routes : List (RouteGeometry ℝ)} {certificate : FeasibilityCertificate ℝ}
variable {route : RouteGeometry ℝ} {start last : Vector3 ℝ} {solid : Region3D ℝ}

/-- The distance from a solid that a planning submission asks of the center of a drone. -/
def solidClearance (policy : ClearancePolicy ℝ) : ℝ :=
  policy.nominalVehicleRadiusM + (policy.requiredSolidClearanceM + policy.uncertaintyAllowanceM)

theorem minimum?_getD_le {values : List ℝ} {value fallback : ℝ} (member : value ∈ values) :
    (minimum? values).getD fallback ≤ value := by
  cases values with
  | nil => cases member
  | cons first rest => exact (le_minimum? rfl).mp le_rfl _ member

theorem routeSolidDistance_le (solid : Region3D ℝ)
    (segment : (start, last) ∈ pairwise route.pointsM) :
    routeSolidDistance route solid ≤ segmentAabbDistance start last solid :=
  minimum?_getD_le (List.mem_map_of_mem
    (f := fun (first, second) => segmentAabbDistance first second solid) segment)

theorem clear_of_passed
    (ok : certifyCandidateRoutes case planning candidateSha256 routes = .ok certificate)
    (passed : certificate.passed = true) (member : route ∈ routes)
    (segment : (start, last) ∈ pairwise route.pointsM)
    (among : solid ∈ (structuredWorldFromCase case).solids) :
    solidClearance planning.clearance - 1e-9 ≤ segmentAabbDistance start last solid := by
  unfold certifyCandidateRoutes at ok
  simp only at ok
  split at ok
  · obtain ⟨_, -, ok⟩ := bind_eq_ok.mp ok
    obtain ⟨_, -, ok⟩ := bind_eq_ok.mp ok
    obtain ⟨_, -, ok⟩ := bind_eq_ok.mp ok
    cases ok
    simp only [List.isEmpty_iff, List.append_eq_nil_iff, List.map_eq_nil_iff, List.filter_eq_nil_iff,
      List.mem_map, List.mem_flatMap] at passed
    have kept := passed.1.1.1.1.2 _ ⟨_, ⟨route, member, solid, among, rfl⟩, rfl⟩
    have tolerance : PyFloat.ofRat (F := ℝ) (-1e-9) = -1e-9 := by
      rw [Exact.ofRat_cast]
      norm_num
    simp only [Exact.lt_true, not_lt, tolerance, Exact.minus, Exact.plus] at kept
    have near := routeSolidDistance_le solid segment
    unfold solidClearance
    linarith
  · cases ok

/-- The distance of a segment from a box against the least distance of their points, and what it
makes a passed certificate say. -/
theorem segmentAabbDistance_sound (start last : Vector3 ℝ) {bounds : Region3D ℝ}
    (ordered : bounds.ordered = true) :
    (∃ m, IsLeast (clearances start last bounds) m ∧
      (Resolved start last → (segmentAabbDistance start last bounds = 0 ↔ Meets start last bounds) ∧
        m ≤ segmentAabbDistance start last bounds) ∧
      m ≤ segmentAabbDistance start last bounds + 2e-15 ∧
      segmentAabbDistance start last bounds ≤ m + distance start last * (2 / 3) ^ 64) ∧
    ∀ (case : CampaignCase ℝ) (planning : PlanningSubmission ℝ) (candidateSha256 : String)
      (routes : List (RouteGeometry ℝ)) (certificate : FeasibilityCertificate ℝ),
      certifyCandidateRoutes case planning candidateSha256 routes = .ok certificate →
      certificate.passed = true → ∀ route ∈ routes, (start, last) ∈ pairwise route.pointsM →
      bounds ∈ (structuredWorldFromCase case).solids →
      ∀ t ∈ Icc (0 : ℝ) 1, ∀ point, bounds.contains point = true →
        solidClearance planning.clearance - 1e-9 - distance start last * (2 / 3) ^ 64 ≤
          distance (lerp start last t) point := by
  constructor
  · obtain ⟨m, least⟩ := exists_least_clearance start last ordered
    refine ⟨m, least, fun resolved => segmentAabbDistance_of_resolved ordered resolved least,
      le_segmentAabbDistance ordered least, ?_⟩
    obtain ⟨t, within, point, inside, rfl⟩ := least.1
    exact segmentAabbDistance_le _ _ ordered within inside
  · intro case planning candidateSha256 routes certificate ok passed route member segment among t
      within point inside
    have clear := clear_of_passed ok passed member segment among
    have near := segmentAabbDistance_le start last ordered within inside
    linarith

end Certificate

/-! ## A segment that skims past an edge, and a route beside a solid -/

noncomputable section Block

def unitBox : Region3D ℝ := ⟨"unit", ⟨0, 0, 0⟩, ⟨1, 1, 1⟩⟩

def skimStart : Vector3 ℝ := ⟨1, 2, 1 / 2⟩

def skimLast : Vector3 ℝ := ⟨1 + 1e-15, 1, 1 / 2⟩

theorem skim_apart : ¬Meets skimStart skimLast unitBox := by
  rintro ⟨t, ⟨-, to_one⟩, inside⟩
  obtain ⟨⟨-, below⟩, ⟨-, reached⟩, -⟩ := contains_iff.mp inside
  simp only [lerp, skimStart, skimLast, unitBox, Exact.plus, Exact.minus, Exact.times] at below reached
  obtain rfl : t = 1 := by linarith
  norm_num at below

theorem skim_intersects : segmentIntersectsAabb skimStart skimLast unitBox = true := by
  have ordered : unitBox.ordered = true := ordered_iff.mpr (by norm_num [unitBox])
  refine (segmentIntersectsAabb_iff ordered).mpr ⟨1, ⟨zero_le_one, le_rfl⟩, contains_iff.mpr ?_⟩
  norm_num [heldAt, heldAlong, standsWithin, along, skimStart, skimLast, unitBox]

/-- The slab test stops the segment at the face of the box, which it never reaches. -/
theorem skims_past : unitBox.ordered = true ∧ segmentAabbDistance skimStart skimLast unitBox = 0 ∧
    ¬Meets skimStart skimLast unitBox ∧ ∀ d ∈ clearances skimStart skimLast unitBox, 0 < d := by
  have ordered : unitBox.ordered = true := ordered_iff.mpr (by norm_num [unitBox])
  refine ⟨ordered, ?_, skim_apart, ?_⟩
  · rcases segmentAabbDistance_cases skimStart skimLast ordered with ⟨-, zero⟩ | ⟨apart, -⟩
    · exact zero
    · rw [skim_intersects] at apart
      cases apart
  · rintro _ ⟨t, within, point, inside, rfl⟩
    refine (distance_nonneg _ _).lt_of_ne' fun together => skim_apart ⟨t, within, ?_⟩
    rwa [eq_of_distance_eq_zero together]

def block : Region3D ℝ := ⟨"block", ⟨0, 1, 1 / 2⟩, ⟨1, 2, 3 / 2⟩⟩

def blockData : CaseData ℝ :=
  { cornerData with
    caseId := "block"
    drones := [driftDrone "alpha" 0]
    semantics := some
      { environmentConstraints := { keepOutRegions := [block] }
        coordinationConstraints := { maximumRouteStartSkewS := 100, minimumSimultaneousFlightS := 0 } } }

theorem blockData_valid : blockData.validate = .ok () := by
  have alpha : isIdentifier "alpha" = true := by decide
  have drones : blockData.drones.all DroneCase.valid = true := by
    simp [blockData, driftDrone_valid alpha]
  have constraints : blockData.hardConstraints = cornerData.hardConstraints := rfl
  have search : blockData.search = cornerData.search := rfl
  have solid : (cornerData.hardConstraints.flightVolume.contains block.minimumM &&
      cornerData.hardConstraints.flightVolume.contains block.maximumM) = true := by
    simp [cornerData, Region3D.contains, block]
    norm_num
  unfold CaseData.validate
  rw [constraints, search]
  refine bind_eq_ok.mpr ⟨(), checked_eq_ok.mpr ?_, ?_⟩
  · simp only [List.mem_cons, List.not_mem_nil, or_false, forall_eq_or_imp, forall_eq]
    refine ⟨by decide, by decide, ?_, rfl⟩
    rw [drones]
    rfl
  refine bind_eq_ok.mpr ⟨(), checked_eq_ok.mpr cornerData_constraints, ?_⟩
  refine bind_eq_ok.mpr ⟨(), checked_eq_ok.mpr cornerData_search, ?_⟩
  refine bind_eq_ok.mpr ⟨(), by simp [blockData, require], ?_⟩
  refine bind_eq_ok.mpr ⟨(), by simp [blockData, cornerData, require], ?_⟩
  refine bind_eq_ok.mpr ⟨(), by simp [blockData, cornerData, require], ?_⟩
  refine bind_eq_ok.mpr ⟨(), bind_eq_ok.mpr ⟨(), ?_, rfl⟩, bind_eq_ok.mpr ⟨(), ?_, rfl⟩⟩
  · exact if_pos (driftDrone_inside le_rfl zero_le_one)
  · exact if_pos solid

def blockCase : CampaignCase ℝ := ⟨blockData, blockData_valid⟩

theorem block_ordered : block.ordered = true := ordered_iff.mpr (by norm_num [block])

theorem block_segment : pairwise alphaRoute.pointsM = [(⟨0, 0, 1⟩, ⟨1, 0, 1⟩)] := rfl

theorem block_resolved : Resolved ⟨0, 0, 1⟩ ⟨1, 0, 1⟩ := by
  norm_num [Resolved, standsWithin]

theorem one_le_block_clearance {d : ℝ} (member : d ∈ clearances ⟨0, 0, 1⟩ ⟨1, 0, 1⟩ block) :
    1 ≤ d := by
  obtain ⟨t, -, point, inside, rfl⟩ := member
  obtain ⟨-, ⟨beyond, -⟩, -⟩ := contains_iff.mp inside
  have far : (1 : ℝ) ≤ point.y := beyond
  rw [distance_eq_sqrt]
  apply Real.le_sqrt_of_sq_le
  simp only [lerp, Exact.plus, Exact.minus, Exact.times]
  nlinarith [sq_nonneg (0 + (1 - 0) * t - point.x), sq_nonneg (1 + (1 - 1) * t - point.z)]

theorem block_clear : 1 ≤ routeSolidDistance alphaRoute block := by
  obtain ⟨m, least⟩ := exists_least_clearance ⟨0, 0, 1⟩ ⟨1, 0, 1⟩ block_ordered
  obtain ⟨-, above⟩ := segmentAabbDistance_of_resolved block_ordered block_resolved least
  have far := one_le_block_clearance least.1
  unfold routeSolidDistance
  rw [block_segment]
  exact far.trans above

theorem block_adheres : pathAdherenceViolations blockCase driftPlanning [alphaRoute] = .ok [] := by
  have of_role : droneByRole blockCase "alpha" = .ok (driftDrone "alpha" 0) := rfl
  have alpha : routeAdherenceViolations blockCase driftPlanning alphaRoute = .ok [] :=
    driftRoute_adheres of_role (by simp [Region3D.contains, square]; norm_num)
  unfold pathAdherenceViolations
  simp [List.mapM_cons, alpha, bind, Except.bind, pure, Except.pure]

theorem block_passes : ∃ certificate,
    certifyCandidateRoutes blockCase driftPlanning "sha" [alphaRoute] = .ok certificate ∧
      certificate.passed = true := by
  have boundary : minimum? ([alphaRoute].flatMap fun route => route.pointsM.map fun point =>
      boundaryClearance point (structuredWorldFromCase blockCase).flightVolume
        driftPlanning.clearance) = some (9 / 10) := by
    simp [alphaRoute, driftRoute, minimum?, boundaryClearance, driftPlanning,
      structuredWorldFromCase, blockCase, blockData, cornerData]
    norm_num
  have measured : pathAdherenceDeviation blockCase driftPlanning [alphaRoute] =
      .ok .undefined := rfl
  have solids : (structuredWorldFromCase blockCase).solids = [block] := rfl
  have contradicted : contradictions (structuredWorldFromCase blockCase) driftPlanning.clearance =
      [] := by
    simp [contradictions, structuredWorldFromCase, blockCase, blockData, CaseData.keepOutRegions,
      CaseData.requiredCorridors, regionInside, Region3D.contains, cornerData, block]
    norm_num
  have clear := block_clear
  unfold certifyCandidateRoutes
  simp only [boundary, measured, block_adheres, solids, contradicted, bind, Except.bind, pure,
    Except.pure]
  refine ⟨_, rfl, ?_⟩
  simp [combinations, leastClearance, routeOverlap, maximum?, minimum?, driftPlanning]
  norm_num
  exact ⟨by linarith, by positivity⟩

theorem segmentAabbDistance_sound_block : ∃ certificate,
    certifyCandidateRoutes blockCase driftPlanning "sha" [alphaRoute] = .ok certificate ∧
      1 ≤ segmentAabbDistance ⟨0, 0, 1⟩ ⟨1, 0, 1⟩ block ∧
      ∀ t ∈ Icc (0 : ℝ) 1, ∀ point, block.contains point = true →
        solidClearance driftPlanning.clearance - 1e-9 -
            distance (⟨0, 0, 1⟩ : Vector3 ℝ) ⟨1, 0, 1⟩ * (2 / 3) ^ 64 ≤
          distance (lerp ⟨0, 0, 1⟩ ⟨1, 0, 1⟩ t) point := by
  obtain ⟨⟨m, least, exact, -, -⟩, certifies⟩ :=
    segmentAabbDistance_sound ⟨0, 0, 1⟩ ⟨1, 0, 1⟩ block_ordered
  obtain ⟨certificate, ok, passed⟩ := block_passes
  refine ⟨certificate, ok, ?_, ?_⟩
  · exact (one_le_block_clearance least.1).trans (exact block_resolved).2
  · exact certifies blockCase driftPlanning "sha" _ certificate ok passed alphaRoute (by simp)
      (by simp [block_segment]) (List.mem_singleton.mpr rfl)

end Block

end CampaignGeometry

end CrazySwarm
