import CrazySwarm.CampaignCompleteness
import CrazySwarm.CampaignKnots

/-! What a time allocation returns: the knots that its loop accepts with the holds put in, which of
these knots are at rest, and when the vehicle therefore is still in every hold. -/
namespace CrazySwarm
open PyFloat (le lt ofRat)
open CampaignGeometry (pairwise)

namespace CampaignTrajectory.Allocation

/-! ## The loop -/

section Loop
open PyFloat

variable {F : Type} [PyMath F] [PyRound F] [PyRoot F] (a : Allocation F)

def accepted : Nat → F → Except PyError (List (TrajectoryPoint F))
  | 0, _ =>
    .error (.valueError "bounded time allocation could not satisfy acceleration/jerk limits")
  | attempts + 1, scale => do
    let points ← a.knots scale
    let trajectory ← makeTrajectory points (allocationStops a.positions a.stopContracts points)
    let dynamics := sampleDynamics trajectory a.sampleStepS
    if a.keepsLimits dynamics then return points
    accepted attempts (scale * a.stretch dynamics)

theorem attempt_eq (attempts : Nat) (scale : F) : a.attempt attempts scale = do
    let points ← a.accepted attempts scale
    return insertHolds (← a.dwells points) 0 PyFloat.zero [] points := by
  induction attempts generalizing scale with
  | zero => rfl
  | succ attempts ih =>
    unfold attempt accepted
    cases a.knots scale with
    | error => rfl
    | ok points =>
      simp only [bind, Except.bind]
      cases makeTrajectory points (allocationStops a.positions a.stopContracts points) with
      | error => rfl
      | ok trajectory =>
        simp only
        split
        · rfl
        · exact ih _

omit [PyRound F] [PyRoot F] in
theorem stopIndices_withoutDwells (positions : List (Vector3 F)) (contracts : List (Vector3 F × F)) :
    stopIndices positions (contracts.map fun (stop, _) => (stop, PyFloat.zero)) =
      stopIndices positions contracts := by
  unfold stopIndices
  rw [List.filterMap_map]
  rfl

def withoutDwells : Allocation F :=
  { a with
    stopContracts := a.stopContracts.map fun (stop, _) => (stop, PyFloat.zero)
    ordered := (stopIndices_withoutDwells a.positions a.stopContracts).symm ▸ a.ordered }

omit [PyRound F] [PyRoot F] in
theorem stops_withoutDwells : a.withoutDwells.stops = a.stops :=
  stopIndices_withoutDwells a.positions a.stopContracts

omit [PyRound F] [PyRoot F] in
theorem profiled_withoutDwells : a.withoutDwells.profiled = a.profiled := by
  unfold profiled interiorStops
  rw [stops_withoutDwells]
  rfl

theorem accepted_withoutDwells (attempts : Nat) (scale : F) :
    a.withoutDwells.accepted attempts scale = a.accepted attempts scale := by
  have knots (scale : F) : a.withoutDwells.knots scale = a.knots scale := by
    unfold Allocation.knots
    rw [stops_withoutDwells, profiled_withoutDwells]
    rfl
  have stops (points : List (TrajectoryPoint F)) :
      allocationStops a.withoutDwells.positions a.withoutDwells.stopContracts points =
        allocationStops a.positions a.stopContracts points := by
    have same := a.stops_withoutDwells
    unfold Allocation.stops at same
    unfold allocationStops
    rw [same]
    rfl
  induction attempts generalizing scale with
  | zero => rfl
  | succ attempts ih =>
    unfold accepted
    simp only [knots, stops, ih]
    rfl

end Loop

/-! ## Runs -/

section Runs

variable {F : Type} [Field F] [LinearOrder F] [IsStrictOrderedRing F]
variable [PyMath F] [PyRound F] [PyRoot F] [Exact F]

structure WithinLimits (limits : DynamicsLimits F) (dynamics : SampledDynamics F) : Prop where
  horizontalSpeed : dynamics.horizontalSpeed ≤ limits.maximumHorizontalSpeedMS
  verticalSpeed : dynamics.verticalSpeed ≤ limits.maximumVerticalSpeedMS
  acceleration : dynamics.acceleration ≤ limits.maximumAccelerationMS2
  jerk : dynamics.jerk ≤ limits.maximumJerkMS3

variable {a : Allocation F} {unheld points : List (TrajectoryPoint F)} {dwell : ℕ → F} {scale : F}

omit [PyRound F] [PyRoot F] in
theorem limits_positive (a : Allocation F) :
    0 < a.limits.maximumHorizontalSpeedMS ∧ 0 < a.limits.maximumVerticalSpeedMS ∧
      0 < a.limits.maximumAccelerationMS2 ∧ 0 < a.limits.maximumJerkMS3 := by
  have checks := (CaseData.validate_eq_ok a.case.valid).2.1
  simp only [HardConstraints.fieldChecks, List.forall_mem_cons, Bool.and_eq_true, Exact.gt_true,
    Exact.zero_eq] at checks
  obtain ⟨-, -, -, dynamics, -⟩ := checks
  exact ⟨dynamics.1.1.1, dynamics.1.1.2, dynamics.1.2, dynamics.2⟩

omit [PyRound F] [PyRoot F] in
theorem keepsLimits_iff {dynamics : SampledDynamics F} :
    a.keepsLimits dynamics = true ↔ WithinLimits a.limits dynamics := by
  obtain ⟨horizontal, vertical, acceleration, jerk⟩ := a.limits_positive
  unfold keepsLimits
  simp only [Bool.and_eq_true, Exact.le_true, Exact.over_eq, Exact.ofRat_cast, Rat.cast_one,
    div_le_one horizontal, div_le_one vertical, div_le_one acceleration, div_le_one jerk]
  constructor
  · rintro ⟨⟨⟨horizontal, vertical⟩, acceleration⟩, jerk⟩
    exact ⟨horizontal, vertical, acceleration, jerk⟩
  · rintro ⟨horizontal, vertical, acceleration, jerk⟩
    exact ⟨⟨⟨horizontal, vertical⟩, acceleration⟩, jerk⟩

omit [PyRound F] in
theorem stretch_pos {dynamics : SampledDynamics F} : 0 < a.stretch dynamics := by
  unfold stretch
  simp only [List.foldl_cons, List.foldl_nil, Exact.max_eq, Exact.times, Exact.ofRat_cast]
  have least : (0 : F) < ((1.05 : ℚ) : F) := by norm_num
  have more : (0 : F) < ((1.01 : ℚ) : F) := by norm_num
  exact mul_pos (lt_of_lt_of_le least (le_max_right _ _)) more

/-- How an allocation that returns has come about. -/
structure Run (a : Allocation F) (unheld points : List (TrajectoryPoint F)) (dwell : ℕ → F)
    (scale : F) : Prop where
  positive : 0 < scale
  knots : a.knots scale = .ok unheld
  limited : ∃ trajectory,
    makeTrajectory unheld (allocationStops a.positions a.stopContracts unheld) = .ok trajectory ∧
      WithinLimits a.limits (sampleDynamics trajectory a.sampleStepS)
  dwells : a.dwells unheld = .ok dwell
  held : points = insertHolds dwell 0 PyFloat.zero [] unheld
  targeted : ∀ speed ∈ a.profile.targetSpeedsMS, 0 < speed
  targets : a.profile.targetSpeedsMS.isEmpty = false →
    a.profile.targetSpeedsMS.length + 1 = a.positions.length

theorem accepted_eq_ok {attempts : ℕ} (positive : 0 < scale)
    (ok : a.accepted attempts scale = .ok unheld) : ∃ scale, 0 < scale ∧
      a.knots scale = .ok unheld ∧ ∃ trajectory,
        makeTrajectory unheld (allocationStops a.positions a.stopContracts unheld) =
          .ok trajectory ∧ WithinLimits a.limits (sampleDynamics trajectory a.sampleStepS) := by
  induction attempts generalizing scale with
  | zero => cases ok
  | succ attempts ih =>
    obtain ⟨points, knots, ok⟩ := bind_eq_ok.mp ok
    obtain ⟨trajectory, made, ok⟩ := bind_eq_ok.mp ok
    simp only at ok
    split at ok
    case isTrue kept =>
      cases ok
      exact ⟨scale, positive, knots, trajectory, made, keepsLimits_iff.mp kept⟩
    case isFalse =>
      refine ih ?_ ok
      rw [Exact.times]
      exact mul_pos positive stretch_pos

theorem exists_run (ok : a.allocate = .ok points) : ∃ unheld dwell scale,
    a.accepted 12 (PyFloat.ofRat 1) = .ok unheld ∧ Run a unheld points dwell scale := by
  obtain ⟨_, -, ok⟩ := bind_eq_ok.mp ok
  obtain ⟨_, targets, ok⟩ := bind_eq_ok.mp ok
  obtain ⟨_, targeted, ok⟩ := bind_eq_ok.mp ok
  rw [attempt_eq] at ok
  obtain ⟨unheld, accepted, ok⟩ := bind_eq_ok.mp ok
  obtain ⟨dwell, dwells, ok⟩ := bind_eq_ok.mp ok
  cases ok
  have one : (0 : F) < PyFloat.ofRat 1 := by
    rw [Exact.ofRat_cast, Rat.cast_one]
    exact one_pos
  obtain ⟨scale, positive, knots, limited⟩ := accepted_eq_ok one accepted
  refine ⟨unheld, dwell, scale, accepted, positive, knots, limited, dwells, rfl, ?_, ?_⟩
  · intro speed member
    rw [require_eq_ok, Bool.not_eq_true', List.any_eq_false] at targeted
    simpa using targeted speed member
  · intro some_target
    rw [require_eq_ok, some_target] at targets
    simpa using targets

end Runs

/-! ## The knots of a run -/

section Knots

variable {F : Type} [Field F] [LinearOrder F] [IsStrictOrderedRing F]
variable [PyMath F] [PyRound F] [Exact F]
variable {a : Allocation F} {unheld points : List (TrajectoryPoint F)} {dwell : ℕ → F} {scale : F}
variable {index : ℕ} {point : TrajectoryPoint F}

omit [PyRound F] in
theorem knotted_of_makeTrajectory {stops : List ℕ} {trajectory : TimeParameterizedTrajectory F}
    (made : makeTrajectory points stops = .ok trajectory) :
    2 ≤ points.length ∧ (points.map TrajectoryPoint.timeFromStartS).Pairwise (· < ·) ∧
      points.map TrajectoryPoint.sequence = List.range' 1 points.length := by
  unfold makeTrajectory at made
  simp only at made
  split at made
  case h_1 valid =>
    have knotted := knotted_of_validate valid
    refine ⟨knotted.two, knotted.ordered, ?_⟩
    obtain ⟨_, -, valid⟩ := bind_eq_ok.mp valid
    obtain ⟨_, -, valid⟩ := bind_eq_ok.mp valid
    obtain ⟨_, numbered, -⟩ := bind_eq_ok.mp valid
    simpa using numbered
  case h_2 => cases made

theorem Run.increasing (run : Run a unheld points dwell scale) :
    (unheld.map TrajectoryPoint.timeFromStartS).Pairwise (· < ·) := by
  obtain ⟨trajectory, made, -⟩ := run.limited
  exact (knotted_of_makeTrajectory made).2.1

theorem Run.numbered (run : Run a unheld points dwell scale) :
    unheld.map TrajectoryPoint.sequence = List.range' 1 unheld.length := by
  obtain ⟨trajectory, made, -⟩ := run.limited
  exact (knotted_of_makeTrajectory made).2.2

theorem Run.two (run : Run a unheld points dwell scale) : 2 ≤ unheld.length := by
  obtain ⟨trajectory, made, -⟩ := run.limited
  exact (knotted_of_makeTrajectory made).1

def turnsBackAt (a : Allocation F) (index : ℕ) : Prop :=
  turnsBack (a.positions.getD (index - 1) .zero) (a.positions.getD index .zero)
    (a.positions.getD (index + 1) .zero) = true

omit [IsStrictOrderedRing F] [Exact F] in
theorem Run.plain_knots (run : Run a unheld points dwell scale) (plain : a.profiled = false) :
    unheld = trajectoryPoints a.positions a.durations scale a.stops := by
  have knots := run.knots
  rw [Allocation.knots, plain] at knots
  cases knots
  rfl

theorem Run.plain_atRest_iff [ExactSqrt F] (run : Run a unheld points dwell scale)
    (plain : a.profiled = false) (found : unheld[index]? = some point) :
    AtRest point ↔ index = 0 ∨ index + 1 = a.positions.length ∨ index ∈ a.stops ∨
      a.turnsBackAt index := by
  rw [run.plain_knots plain] at found
  obtain ⟨inside, -, timestamps, velocity, acceleration⟩ := getElem?_trajectoryPoints found
  rw [AtRest, velocity, acceleration, knotVelocity_eq_zero inside, and_iff_left rfl]
  rfl

def profileKnots (a : Allocation F) : List (ProfileKnot F) :=
  CampaignTrajectory.profileKnots (a.profile.legs a.positions)

theorem Run.profiled_knots (run : Run a unheld points dwell scale) (profiled : a.profiled = true) :
    unheld = scaleTrajectoryPoints
        (a.profileKnots.mapIdx fun index knot => knot.point (index + 1)) scale ∧
      ((pairwise a.positions).any fun (before, after) =>
        le (distance before after) (ofRat 1e-9)) = false := by
  have knots := run.knots
  rw [Allocation.knots, profiled, if_pos rfl] at knots
  obtain ⟨knots, built, scaled⟩ := bind_eq_ok.mp knots
  cases scaled
  obtain ⟨_, long, built⟩ := bind_eq_ok.mp built
  obtain ⟨_, -, built⟩ := bind_eq_ok.mp built
  cases built
  exact ⟨rfl, by simpa using long⟩

theorem Run.length_profiled (run : Run a unheld points dwell scale) (profiled : a.profiled = true) :
    unheld.length = a.profileKnots.length := by
  rw [(run.profiled_knots profiled).1, scaleTrajectoryPoints, List.length_map, List.length_mapIdx]

theorem Run.getElem?_profiled (run : Run a unheld points dwell scale) (profiled : a.profiled = true)
    (found : unheld[index]? = some point) : ∃ knot, a.profileKnots[index]? = some knot ∧
      point.positionM = knot.positionM ∧ (AtRest point ↔ knot.AtRest) := by
  rw [(run.profiled_knots profiled).1, scaleTrajectoryPoints, List.getElem?_map,
    List.getElem?_mapIdx, Option.map_map] at found
  obtain ⟨knot, at_index, rfl⟩ := Option.map_eq_some_iff.mp found
  have inverse : PyFloat.div (ofRat 1) scale ≠ 0 := by
    rw [Exact.div_eq, Exact.ofRat_cast, Rat.cast_one]
    exact one_div_ne_zero run.positive.ne'
  have inverse_square : PyFloat.div (ofRat 1) (PyFloat.mul scale scale) ≠ 0 := by
    rw [Exact.div_eq, Exact.mul_eq, Exact.ofRat_cast, Rat.cast_one]
    exact one_div_ne_zero (mul_pos run.positive run.positive).ne'
  refine ⟨knot, at_index, rfl, ?_⟩
  exact and_congr (scaleVector_eq_zero.trans (or_iff_left inverse))
    (scaleVector_eq_zero.trans (or_iff_left inverse_square))

theorem Run.profiled_atRest_iff [ExactSqrt F] (run : Run a unheld points dwell scale)
    (profiled : a.profiled = true) (found : unheld[index]? = some point) :
    AtRest point ↔ index = 0 ∨ index + 1 = unheld.length := by
  obtain ⟨knots, long⟩ := run.profiled_knots profiled
  obtain ⟨knot, at_index, -, same⟩ := run.getElem?_profiled profiled found
  have times : unheld.map TrajectoryPoint.timeFromStartS =
      (a.profileKnots.map ProfileKnot.timestampS).map (PyFloat.mul · scale) := by
    rw [knots, scaleTrajectoryPoints]
    refine List.ext_getElem (by simp) fun index _ _ => ?_
    simp only [List.getElem_map, List.getElem_mapIdx]
    rfl
  have increasing := run.increasing
  rw [times, List.pairwise_map] at increasing
  rw [same, run.length_profiled profiled]
  refine profileKnots_atRest_iff (moves_of_mem_legs run.targeted long) ?_ at_index
  refine increasing.imp fun {before after} earlier => ?_
  rw [Exact.mul_eq, Exact.mul_eq] at earlier
  exact lt_of_mul_lt_mul_right earlier run.positive.le

end Knots

/-! ## The holds of a run -/

section Holds

variable {F : Type} [Field F] [LinearOrder F] [IsStrictOrderedRing F]
variable [PyMath F] [PyRound F] [PyRoot F] [Exact F]
variable {a : Allocation F} {unheld points : List (TrajectoryPoint F)} {dwell : ℕ → F} {scale : F}
variable {index knot : ℕ}

omit [PyRound F] [PyRoot F] in
theorem mem_stops_of_dwellAt_pos (positive : 0 < dwellAt a.positions a.stopContracts index) :
    index ∈ a.stops := by
  unfold dwellAt at positive
  split at positive
  case isTrue stops => exact List.contains_iff_mem.mp stops
  case isFalse => simp at positive

omit [Field F] [LinearOrder F] [IsStrictOrderedRing F] [Exact F] [PyRound F] [PyRoot F] in
theorem exists_knotOf (ok : a.profiledDwells unheld = .ok dwell) (stop : index ∈ a.stops) :
    ∃ knot, a.knotOf unheld index = some knot := by
  obtain ⟨found, passed, -⟩ := bind_eq_ok.mp ok
  have among : index ∈ a.stopOrder := by
    rw [a.ordered.mem_iff, List.mem_dedup]
    exact stop
  obtain ⟨value, -, ok⟩ := exists_of_mem_items passed among
  split at ok
  next knot first => exact ⟨knot, first⟩
  next => cases ok

omit [PyRound F] [PyRoot F] in
theorem profiledDwells_cases (ok : a.profiledDwells unheld = .ok dwell) (knot : ℕ) :
    (dwell knot = 0 ∧ ∀ index ∈ a.stops, a.knotOf unheld index ≠ some knot) ∨
      ∃ index ∈ a.stops, a.knotOf unheld index = some knot ∧
        dwell knot = dwellAt a.positions a.stopContracts index := by
  have among {index : ℕ} : index ∈ a.stopOrder ↔ index ∈ a.stops := by
    rw [a.ordered.mem_iff, List.mem_dedup]
    rfl
  obtain ⟨found, passed, ok⟩ := bind_eq_ok.mp ok
  cases ok
  cases last : found.reverse.find? fun entry => entry.1 == knot with
  | none =>
    refine .inl ⟨by simp [last], fun index stop at_knot => ?_⟩
    obtain ⟨value, member, ok⟩ := exists_of_mem_items passed (among.mpr stop)
    have other := List.find?_eq_none.mp last value (List.mem_reverse.mpr member)
    rw [at_knot] at ok
    cases ok
    exact other (by simp)
  | some value =>
    have at_knot := List.find?_some last
    obtain ⟨index, stop, ok⟩ := exists_of_mem_mapM passed
      (List.mem_reverse.mp (List.mem_of_find?_eq_some last))
    split at ok
    next _ first =>
      cases ok
      refine .inr ⟨index, among.mp stop, ?_, ?_⟩
      · rw [first]
        simpa using at_knot
      · simp [last]
    next => cases ok

omit [Field F] [LinearOrder F] [IsStrictOrderedRing F] [Exact F] [PyRound F] [PyRoot F] in
theorem end_of_profiled (profiled : a.profiled = true) (stop : index ∈ a.stops) :
    index = 0 ∨ index = a.positions.length - 1 := by
  unfold Allocation.profiled interiorStops at profiled
  simp only [Bool.and_eq_true, List.isEmpty_iff, List.filter_eq_nil_iff] at profiled
  have none := profiled.2 index stop
  simp only [bne_iff_ne, ne_eq] at none
  tauto

omit [PyRound F] [PyRoot F] in
theorem dwellAt_withoutDwells :
    ¬0 < dwellAt a.withoutDwells.positions a.withoutDwells.stopContracts index := by
  unfold dwellAt
  split
  case isFalse => simp
  case isTrue =>
    cases longest : CampaignGeometry.maximum? ((a.withoutDwells.stopContracts.filter
        fun (stop, _) => le (distance (a.withoutDwells.positions.getD index .zero) stop)
          (ofRat 1e-9)).map (·.2)) with
    | none => simp
    | some most =>
      rw [Option.getD_some, not_lt, CampaignGeometry.maximum?_le longest]
      intro value member
      obtain ⟨⟨stop, dwellS⟩, kept, rfl⟩ := List.mem_map.mp member
      obtain ⟨contract, -, same⟩ := List.mem_map.mp (List.mem_filter.mp kept).1
      cases same
      exact Exact.zero_eq.le

omit [PyRound F] [PyRoot F] in
theorem dwells_withoutDwells (ok : a.dwells unheld = .ok dwell) :
    ∃ none, a.withoutDwells.dwells unheld = .ok none ∧ ∀ knot, ¬0 < none knot := by
  unfold dwells at ok ⊢
  rw [profiled_withoutDwells]
  split
  case isFalse => exact ⟨_, rfl, fun _ => dwellAt_withoutDwells⟩
  case isTrue profiled =>
    rw [if_pos profiled] at ok
    obtain ⟨found, passed, -⟩ := bind_eq_ok.mp ok
    have result : ∃ none, a.withoutDwells.profiledDwells unheld = .ok none := by
      refine (@mapM_of_forall _ _ _ _ (fun _ _ => True) a.withoutDwells.stopOrder
        fun index member => ?_).elim fun values passes => ⟨_, bind_eq_ok.mpr ⟨values, passes.1, rfl⟩⟩
      obtain ⟨value, -, ok⟩ := exists_of_mem_items passed member
      split at ok
      next knot first =>
        have same : a.withoutDwells.knotOf unheld index = some knot := first
        rw [same]
        exact ⟨_, rfl, trivial⟩
      next => cases ok
    obtain ⟨none, result⟩ := result
    refine ⟨none, result, fun knot => ?_⟩
    rcases profiledDwells_cases result knot with ⟨zero, -⟩ | ⟨index, -, -, equal⟩
    · rw [zero]
      exact lt_irrefl 0
    · rw [equal]
      exact dwellAt_withoutDwells

theorem allocate_withoutDwells (ok : a.allocate = .ok points)
    (accepted : a.accepted 12 (ofRat 1) = .ok unheld) (run : Run a unheld points dwell scale) :
    a.withoutDwells.allocate = .ok unheld := by
  obtain ⟨_, durations, ok⟩ := bind_eq_ok.mp ok
  obtain ⟨_, targets, ok⟩ := bind_eq_ok.mp ok
  obtain ⟨_, targeted, -⟩ := bind_eq_ok.mp ok
  refine bind_eq_ok.mpr ⟨_, durations, bind_eq_ok.mpr ⟨_, targets, bind_eq_ok.mpr ⟨_, targeted, ?_⟩⟩⟩
  obtain ⟨none, dwells, no_hold⟩ := dwells_withoutDwells run.dwells
  rw [attempt_eq, accepted_withoutDwells]
  refine bind_eq_ok.mpr ⟨unheld, accepted, bind_eq_ok.mpr ⟨none, dwells, ?_⟩⟩
  rw [Exact.zero_eq, insertHolds_none no_hold run.numbered]
  rfl

/-- The first knot of the profile that is at the end of the route. -/
def endKnot (a : Allocation F) : Option ℕ :=
  a.profileKnots.findIdx? fun knot =>
    le (distance knot.positionM (a.positions.getD (a.positions.length - 1) .zero)) (ofRat 1e-9)

omit [PyRoot F] in
theorem Run.knotOf_profiled (run : Run a unheld points dwell scale) (profiled : a.profiled = true)
    (index : ℕ) : a.knotOf unheld index = a.profileKnots.findIdx? fun knot =>
      le (distance knot.positionM (a.positions.getD index .zero)) (ofRat 1e-9) := by
  have positions : unheld.map TrajectoryPoint.positionM =
      a.profileKnots.map ProfileKnot.positionM := by
    rw [(run.profiled_knots profiled).1, scaleTrajectoryPoints]
    refine List.ext_getElem (by simp) fun index _ _ => ?_
    simp only [List.getElem_map, List.getElem_mapIdx]
    rfl
  let near (position : Vector3 F) : Bool :=
    le (distance position (a.positions.getD index .zero)) (ofRat 1e-9)
  calc a.knotOf unheld index
    _ = (unheld.map TrajectoryPoint.positionM).findIdx? near := by
      rw [List.findIdx?_map]
      rfl
    _ = _ := by
      rw [positions, List.findIdx?_map]
      rfl

omit [IsStrictOrderedRing F] [Exact F] [PyRoot F] in
theorem Run.exists_leg (run : Run a unheld points dwell scale) (profiled : a.profiled = true) :
    ∃ leg legs, a.profile.legs a.positions = leg :: legs ∧
      leg.before = a.positions.getD 0 .zero ∧ legs.length + 2 = a.positions.length := by
  have some_target : a.profile.targetSpeedsMS.isEmpty = false := by
    unfold Allocation.profiled at profiled
    rw [Bool.and_eq_true] at profiled
    simpa only [Bool.not_eq_true'] using profiled.1
  have lengths := run.targets some_target
  cases targets : a.profile.targetSpeedsMS with
  | nil => simp [targets] at some_target
  | cons speed speeds =>
    rw [targets, List.length_cons] at lengths
    have count : (a.profile.legs a.positions).length =
        min (a.positions.length - 1) a.profile.targetSpeedsMS.length := length_legs
    match positions : a.positions, lengths with
    | first :: second :: rest, lengths =>
      rw [positions, targets, ← lengths, Nat.add_sub_cancel, List.length_cons, Nat.min_self] at count
      have legs : ∃ leg legs, a.profile.legs (first :: second :: rest) = leg :: legs ∧
          leg.before = first := ⟨_, _, by rw [PathSpeedProfile.legs, targets]; rfl, rfl⟩
      obtain ⟨leg, legs, made, start⟩ := legs
      rw [made, List.length_cons] at count
      refine ⟨leg, legs, made, start, ?_⟩
      omega

omit [PyRoot F] in
theorem Run.knotOf_zero [ExactSqrt F] (run : Run a unheld points dwell scale)
    (profiled : a.profiled = true) : a.knotOf unheld 0 = some 0 := by
  obtain ⟨leg, legs, made, start, -⟩ := run.exists_leg profiled
  rw [run.knotOf_profiled profiled, profileKnots, made, CampaignTrajectory.profileKnots,
    List.findIdx?_cons]
  have near : le (distance leg.before (a.positions.getD 0 .zero)) (ofRat 1e-9) = true := by
    rw [← start, distance_self, Exact.le_true, Exact.ofRat_cast]
    norm_num
  simp only [near, if_true]

/-- A hold at the end of a profiled route finds the end, not a knot on the way that is there too. -/
def HoldsAtEnds (a : Allocation F) : Prop :=
  a.profiled = true → 0 < dwellAt a.positions a.stopContracts (a.positions.length - 1) →
    a.endKnot = some 0 ∨ a.endKnot = some (a.profileKnots.length - 1)

omit [PyRoot F] in
theorem Run.still_iff [ExactSqrt F] (run : Run a unheld points dwell scale) :
    (∀ index point, unheld[index]? = some point → 0 < dwell index → StillAt dwell index point) ↔
      a.HoldsAtEnds := by
  have still_at {index : ℕ} {point : TrajectoryPoint F} : 0 < dwell index →
      (StillAt dwell index point ↔ AtRest point) := stillAt_iff
  have found := run.dwells
  unfold Allocation.dwells at found
  cases profiled : a.profiled with
  | false =>
    rw [profiled] at found
    cases found
    refine iff_of_true (fun index point at_index held => ?_) fun profiles => ?_
    · rw [still_at held, run.plain_atRest_iff profiled at_index]
      exact .inr (.inr (.inl (mem_stops_of_dwellAt_pos held)))
    · rw [profiled] at profiles
      cases profiles
  | true =>
    rw [profiled, if_pos rfl] at found
    have at_end : a.knotOf unheld (a.positions.length - 1) = a.endKnot :=
      run.knotOf_profiled profiled _
    constructor
    · intro still _ held
      obtain ⟨knot, first⟩ := exists_knotOf found (mem_stops_of_dwellAt_pos held)
      rw [← at_end, first, ← run.length_profiled profiled]
      rcases profiledDwells_cases found knot with ⟨-, none⟩ | ⟨index, stop, same, equal⟩
      · exact absurd first (none _ (mem_stops_of_dwellAt_pos held))
      rcases end_of_profiled profiled stop with rfl | rfl
      · rw [run.knotOf_zero profiled] at same
        exact .inl same.symm
      · rw [← equal] at held
        obtain ⟨inside, -⟩ := List.findIdx?_eq_some_iff_getElem.mp first
        have rests := (still_at held).mp (still knot _ (List.getElem?_eq_getElem inside) held)
        rcases (run.profiled_atRest_iff profiled (List.getElem?_eq_getElem inside)).mp rests with
          rfl | last
        · exact .inl rfl
        · exact .inr (congrArg some (by omega))
    · intro at_ends index point at_index held
      rw [still_at held, run.profiled_atRest_iff profiled at_index]
      obtain ⟨inside, -⟩ := List.getElem?_eq_some_iff.mp at_index
      rcases profiledDwells_cases found index with ⟨zero, -⟩ | ⟨stop, member, first, equal⟩
      · exact absurd held zero.not_gt
      rw [equal] at held
      rcases end_of_profiled profiled member with rfl | rfl
      · rw [run.knotOf_zero profiled] at first
        exact .inl (Option.some.inj first).symm
      · rw [at_end] at first
        rcases at_ends profiled held with start | last
        · rw [start] at first
          exact .inl (Option.some.inj first).symm
        · rw [last, ← run.length_profiled profiled] at first
          have last := Option.some.inj first
          omega

structure Sound (a : Allocation F) (points unheld : List (TrajectoryPoint F)) (dwell : ℕ → F) :
    Prop where
  without : a.withoutDwells.allocate = .ok unheld
  dwells : a.dwells unheld = .ok dwell
  numbered : points.map TrajectoryPoint.sequence = List.range' 1 points.length
  increasing : (points.map TrajectoryPoint.timeFromStartS).Pairwise (· < ·)
  shifted : points.map unnumbered = withHolds dwell 0 unheld
  limited : ∃ trajectory,
    makeTrajectory unheld (allocationStops a.positions a.stopContracts unheld) = .ok trajectory ∧
      WithinLimits a.limits (sampleDynamics trajectory a.sampleStepS)
  still : ∀ index point, unheld[index]? = some point → 0 < dwell index → StillAt dwell index point

omit [PyRoot F] in
theorem Run.shifted (run : Run a unheld points dwell scale) :
    points.map TrajectoryPoint.sequence = List.range' 1 points.length ∧
      points.map unnumbered = withHolds dwell 0 unheld := by
  obtain ⟨added, inserted, numbered, kept⟩ := insertHolds_spec dwell unheld 0 []
  have start : delay dwell 0 = (PyFloat.zero : F) := by
    rw [delay, Finset.range_zero, Finset.sum_empty, Exact.zero_eq]
  rw [start, List.nil_append] at inserted
  rw [run.held, inserted]
  exact ⟨numbered, kept⟩

theorem Run.sound_iff [ExactSqrt F] (run : Run a unheld points dwell scale)
    (without : a.withoutDwells.allocate = .ok unheld) :
    (∃ unheld dwell, a.Sound points unheld dwell) ↔ a.HoldsAtEnds := by
  rw [← run.still_iff]
  constructor
  · rintro ⟨unheld', dwell', sound⟩
    have same_knots : unheld = unheld' := Except.ok.inj (without.symm.trans sound.without)
    subst same_knots
    have same_dwells : dwell = dwell' := Except.ok.inj (run.dwells.symm.trans sound.dwells)
    subst same_dwells
    exact sound.still
  · intro still
    obtain ⟨numbered, shifted⟩ := run.shifted
    have times : points.map TrajectoryPoint.timeFromStartS =
        (points.map unnumbered).map TrajectoryPoint.timeFromStartS := by
      rw [List.map_map]
      rfl
    have increasing : (points.map TrajectoryPoint.timeFromStartS).Pairwise (· < ·) := by
      rw [times, shifted]
      exact withHolds_increasing run.increasing 0
    exact ⟨unheld, dwell, without, run.dwells, numbered, increasing, shifted, run.limited, still⟩

/-- An allocation that returns is sound exactly if the holds of a profiled route are at its ends. -/
theorem allocate_sound_iff [ExactSqrt F] (ok : a.allocate = .ok points) :
    (∃ unheld dwell, a.Sound points unheld dwell) ↔ a.HoldsAtEnds := by
  obtain ⟨unheld, dwell, scale, accepted, run⟩ := exists_run ok
  exact run.sound_iff (allocate_withoutDwells ok accepted run)

end Holds

/-! ## A loop that ends on its own first leg -/

section Loop
open BoundedJointPlanner (hoverData)

def loopData : CaseData ℚ :=
  { hoverData with
    hardConstraints := { hoverData.hardConstraints with dynamics := ⟨1, 1, 5, 20⟩ } }

theorem loopData_valid : loopData.validate = .ok () := by decide +kernel

def loopPositions : List (Vector3 ℚ) :=
  [⟨0, 0, 1⟩, ⟨1, 0, 1⟩, ⟨1, 1, 1⟩, ⟨7 / 8, 1, 1⟩, ⟨7 / 8, 0, 1⟩]

theorem loopPositions_stops :
    [4].Perm (stopIndices loopPositions [(⟨7 / 8, 0, 1⟩, 5)]).dedup := by decide +kernel

/-- The route ends where the first leg begins its corner. -/
def loop : Allocation ℚ where
  case := ⟨loopData, loopData_valid⟩
  positions := loopPositions
  speedFactor := 1
  sampleStepS := 1 / 2
  stopContracts := [(⟨7 / 8, 0, 1⟩, 5)]
  segmentDurationsS := []
  profile := { targetSpeedsMS := [1 / 5, 1 / 5, 1 / 5, 1 / 5], entryExitRampS := 5 / 4 }
  stopOrder := [4]
  ordered := loopPositions_stops

example : loop.endKnot = some 2 := by decide +kernel

theorem loop_allocate : ∃ points, loop.allocate = .ok points := by
  obtain ⟨points, ok, -⟩ := exists_of_okWith (x := loop.allocate) (t := fun _ => true)
    (by decide +kernel)
  exact ⟨points, ok⟩

theorem allocate_sound_iff_loop : ∃ points, loop.allocate = .ok points ∧
    ((∃ unheld dwell, loop.Sound points unheld dwell) ↔ loop.HoldsAtEnds) := by
  obtain ⟨points, ok⟩ := loop_allocate
  exact ⟨points, ok, allocate_sound_iff ok⟩

/-- The hold that is declared for the end is put in where the vehicle passes at full speed. -/
theorem loop_holds_in_motion : ∃ points, loop.allocate = .ok points ∧
    ¬∃ unheld dwell, loop.Sound points unheld dwell := by
  obtain ⟨points, ok⟩ := loop_allocate
  obtain ⟨unheld, dwell, scale, accepted, run⟩ := exists_run ok
  refine ⟨points, ok, fun sound => ?_⟩
  have at_ends := (run.sound_iff (allocate_withoutDwells ok accepted run)).mp sound
  have found : loop.endKnot = some 2 := by decide +kernel
  have passed := at_ends (by decide +kernel) (by decide +kernel)
  rw [found] at passed
  revert passed
  decide +kernel

end Loop

end CampaignTrajectory.Allocation

end CrazySwarm
