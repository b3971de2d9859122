import CrazySwarm.CampaignHolds

/-! Which knots of a time allocation are at rest: of the plain ones the ends, the stops and those
where the path turns straight back, of the profiled ones the ends only. -/
namespace CrazySwarm
open PyFloat (le lt ofRat)

namespace CampaignTrajectory

variable {F : Type} [Field F] [LinearOrder F] [IsStrictOrderedRing F] [PyMath F] [Exact F]

theorem scaleVector_eq_zero {value : Vector3 F} {scale : F} :
    scaleVector value scale = .zero ↔ value = .zero ∨ scale = 0 := by
  simp only [vector_eq_iff, scaleVector, Vector3.zero, Exact.times, Exact.zero_eq, mul_eq_zero]
  tauto

theorem norm_zero [ExactSqrt F] : norm (.zero : Vector3 F) = 0 := by
  simp [norm, Vector3.zero, ExactSqrt.sqrt_zero]

theorem distance_self [ExactSqrt F] (position : Vector3 F) : distance position position = 0 := by
  simp [distance, norm, CampaignGeometry.subtract, ExactSqrt.sqrt_zero]

theorem distance_comm (first second : Vector3 F) : distance first second = distance second first := by
  simp only [distance, norm, CampaignGeometry.subtract, Exact.plus, Exact.minus, Exact.times]
  congr 1
  ring

/-- A segment that is not too short has a direction. -/
theorem unit_ne_zero [ExactSqrt F] {value : Vector3 F} (long : (1e-9 : ℚ) < norm value) :
    unit value ≠ .zero := by
  have small : ((1e-12 : ℚ) : F) < ((1e-9 : ℚ) : F) := by norm_num
  have tiny : (0 : F) < ((1e-9 : ℚ) : F) := by norm_num
  have length_pos : 0 < norm value := tiny.trans long
  intro none
  have longer : ¬le (norm value) (ofRat 1e-12) = true := by
    rw [Exact.le_true, Exact.ofRat_cast, not_le]
    exact small.trans long
  simp only [unit, if_neg longer, vector_eq_iff, Vector3.zero, Exact.over_eq, Exact.zero_eq,
    div_eq_zero_iff, length_pos.ne', or_false] at none
  have nothing : value = .zero := by
    simpa [vector_eq_iff, Vector3.zero] using none
  rw [nothing, norm_zero] at length_pos
  exact lt_irrefl _ length_pos

/-! ## Plain knots -/

section Plain

variable {positions : List (Vector3 F)} {timestamps : List F} {stops : List ℕ} {index : ℕ}
variable {before position after : Vector3 F} {arrivesS leavesS : F}

def turnsBack (before position after : Vector3 F) : Bool :=
  let incoming := unit (CampaignGeometry.subtract position before)
  let outgoing := unit (CampaignGeometry.subtract after position)
  le (norm (unit (CampaignGeometry.add incoming outgoing))) (ofRat 1e-12)

theorem cornerVelocity_eq_zero [ExactSqrt F] {stops : Bool} :
    cornerVelocity before position after arrivesS leavesS stops = .zero ↔
      stops = true ∨ turnsBack before position after = true := by
  let direction := unit (CampaignGeometry.add (unit (CampaignGeometry.subtract position before))
    (unit (CampaignGeometry.subtract after position)))
  have velocity : ∃ speed, cornerVelocity before position after arrivesS leavesS stops =
      scaleVector direction (if stops || turnsBack before position after then PyFloat.zero
        else PyFloat.max (ofRat 0.03) speed) := ⟨_, rfl⟩
  obtain ⟨speed, velocity⟩ := velocity
  rw [velocity, scaleVector_eq_zero]
  constructor
  · rintro (still | slow)
    · refine .inr ?_
      have nowhere : turnsBack before position after = le (norm direction) (ofRat 1e-12) := rfl
      rw [nowhere, still, norm_zero, Exact.le_true, Exact.ofRat_cast]
      norm_num
    · by_contra moves
      rw [if_neg (by simpa using moves), Exact.max_eq, Exact.ofRat_cast] at slow
      have least : (0 : F) < ((0.03 : ℚ) : F) := by norm_num
      exact (lt_of_lt_of_le least (le_max_left _ speed)).ne' slow
  · intro rests
    refine .inr ?_
    rw [if_pos (by simpa using rests), Exact.zero_eq]

/-- A plain knot is at rest at the ends, at a stop and where the path turns straight back. -/
theorem knotVelocity_eq_zero [ExactSqrt F] (inside : index < positions.length) :
    knotVelocity positions timestamps stops index = .zero ↔
      index = 0 ∨ index + 1 = positions.length ∨ index ∈ stops ∨
        turnsBack (positions.getD (index - 1) .zero) (positions.getD index .zero)
          (positions.getD (index + 1) .zero) = true := by
  unfold knotVelocity
  by_cases first : index = 0
  · refine iff_of_true ?_ (.inl first)
    split <;> simp [first]
  by_cases last : index + 1 = positions.length
  · refine iff_of_true ?_ (.inr (.inl last))
    rw [last, List.getElem?_eq_none (Nat.le_refl _)]
    split
    next found => cases found
    next => rfl
  have before : index - 1 < positions.length := by omega
  have after : index + 1 < positions.length := by omega
  simp only [List.getElem?_eq_getElem before, List.getElem?_eq_getElem inside,
    List.getElem?_eq_getElem after, List.getD_eq_getElem _ _ before,
    List.getD_eq_getElem _ _ inside, List.getD_eq_getElem _ _ after, first, last, if_false,
    false_or, cornerVelocity_eq_zero, List.contains_iff_mem]

omit [Field F] [LinearOrder F] [IsStrictOrderedRing F] [Exact F] in
theorem getElem?_trajectoryPoints {durations : List F} {scale : F} {point : TrajectoryPoint F}
    (found : (trajectoryPoints positions durations scale stops)[index]? = some point) :
    index < positions.length ∧ positions.getD index .zero = point.positionM ∧
      ∃ timestamps, point.velocityMS = knotVelocity positions timestamps stops index ∧
        point.accelerationMS2 = .zero := by
  simp only [trajectoryPoints, List.getElem?_mapIdx] at found
  obtain ⟨position, at_index, rfl⟩ := Option.map_eq_some_iff.mp found
  obtain ⟨inside, rfl⟩ := List.getElem?_eq_some_iff.mp at_index
  exact ⟨inside, List.getD_eq_getElem _ _ inside, _, rfl, rfl⟩

omit [Field F] [LinearOrder F] [IsStrictOrderedRing F] [Exact F] in
theorem length_trajectoryPoints {durations : List F} {scale : F} :
    (trajectoryPoints positions durations scale stops).length = positions.length :=
  List.length_mapIdx

end Plain

/-! ## Profiled knots -/

section Profiled

variable {leg next : ProfileLeg F} {legs : List (ProfileLeg F)} {timestampS : F}
variable {previous : Vector3 F}

/-- A leg that goes somewhere. -/
structure ProfileLeg.Moves (leg : ProfileLeg F) : Prop where
  speed : 0 < leg.speed
  direction : leg.direction ≠ .zero

def ProfileKnot.AtRest (knot : ProfileKnot F) : Prop :=
  knot.velocityMS = .zero ∧ knot.accelerationMS2 = .zero

theorem not_atRest_of_leg (moves : leg.Moves) {acceleration : Vector3 F} :
    ¬ProfileKnot.AtRest ⟨timestampS, previous, scaleVector leg.direction leg.speed, acceleration⟩ := by
  rintro ⟨still, -⟩
  rcases scaleVector_eq_zero.mp still with nowhere | slow
  · exact moves.direction nowhere
  · exact moves.speed.ne' slow

/-- A corner that is passed without velocity is passed with an acceleration. -/
theorem not_atRest_of_corner (moves : leg.Moves) (onward : next.Moves)
    (arrives : 0 < leg.transition) (leaves : 0 < next.transition) :
    ¬(cornerKnot timestampS leg next).AtRest := by
  rintro ⟨still, steady⟩
  have lasts : 0 < leg.transition / leg.speed + next.transition / next.speed :=
    add_pos (div_pos arrives moves.speed) (div_pos leaves onward.speed)
  have gain : 0 < cornerGain leg.speed next.speed := by
    unfold cornerGain
    split <;> simp only [Exact.ofRat_cast] <;> norm_num
  simp only [cornerKnot, Exact.over_eq, Exact.plus, Exact.ofRat_cast] at still steady
  have opposed := (scaleVector_eq_zero.mp still).resolve_right (by simpa using lasts.ne')
  have same := (scaleVector_eq_zero.mp steady).resolve_right (div_pos gain lasts).ne'
  simp only [vector_eq_iff, addScaled, scaleVector, CampaignGeometry.subtract, Vector3.zero,
    Exact.plus, Exact.minus, Exact.times, Exact.zero_eq] at opposed same
  have weight : 0 < leg.transition * next.speed + leg.speed * next.transition :=
    add_pos (mul_pos arrives onward.speed) (mul_pos moves.speed leaves)
  have axis {first second : F} (opposed : first * leg.transition + second * next.transition = 0)
      (same : second * next.speed - first * leg.speed = 0) : first = 0 := by
    have product : first * (leg.transition * next.speed + leg.speed * next.transition) = 0 := by
      linear_combination next.speed * opposed - next.transition * same
    exact (mul_eq_zero.mp product).resolve_right weight.ne'
  refine moves.direction (vector_eq_iff.mpr ?_)
  simp only [Vector3.zero, Exact.zero_eq]
  exact ⟨axis opposed.1 same.1, axis opposed.2.1 same.2.1, axis opposed.2.2 same.2.2⟩

omit [Field F] [LinearOrder F] [IsStrictOrderedRing F] [Exact F] in
theorem length_legKnots : (legKnots timestampS previous (leg :: legs)).length = 3 * legs.length + 2 := by
  induction legs generalizing leg timestampS previous with
  | nil => rfl
  | cons next rest ih =>
    rw [legKnots]
    simp only [List.length_cons, ih]
    omega

theorem legKnots_atRest (moves : ∀ each ∈ leg :: legs, each.Moves)
    (increasing : ((legKnots timestampS previous (leg :: legs)).map
      ProfileKnot.timestampS).Pairwise (· < ·)) :
    ∃ moving last, legKnots timestampS previous (leg :: legs) = moving ++ [last] ∧
      (∀ knot ∈ moving, ¬knot.AtRest) ∧ last.AtRest := by
  have here := moves leg List.mem_cons_self
  induction legs generalizing leg timestampS previous with
  | nil =>
    refine ⟨[_], _, rfl, ?_, rfl, rfl⟩
    simp only [List.mem_singleton, forall_eq]
    exact not_atRest_of_leg here
  | cons next rest ih =>
    have onward := moves next (List.mem_cons_of_mem _ List.mem_cons_self)
    rw [legKnots] at increasing
    simp only [List.map_cons, List.pairwise_cons, List.forall_mem_cons] at increasing
    obtain ⟨⟨arrives, -⟩, ⟨leaves, -⟩, -, increasing⟩ := increasing
    have transition {each : ProfileLeg F} {timeS : F} (swift : 0 < each.speed)
        (later : timeS < PyFloat.add timeS (PyFloat.div each.transition each.speed)) :
        0 < each.transition := by
      rw [Exact.add_eq, Exact.div_eq, lt_add_iff_pos_right] at later
      exact (div_pos_iff_of_pos_right swift).mp later
    obtain ⟨moving, last, split, unresting, rests⟩ :=
      ih (fun each member => moves each (List.mem_cons_of_mem _ member)) increasing onward
    refine ⟨_ :: _ :: _ :: moving, last, congrArg (_ :: _ :: _ :: ·) split, ?_, rests⟩
    simp only [List.forall_mem_cons]
    exact ⟨not_atRest_of_leg here,
      not_atRest_of_corner here onward (transition here.speed arrives)
        (transition onward.speed leaves), not_atRest_of_leg onward, unresting⟩

omit [Field F] [LinearOrder F] [IsStrictOrderedRing F] [Exact F] in
theorem length_profileKnots : (profileKnots (leg :: legs)).length = 3 * legs.length + 4 := by
  simp only [profileKnots, List.length_cons, length_legKnots]

theorem profileKnots_atRest_iff (moves : ∀ each ∈ legs, each.Moves)
    (increasing : ((profileKnots legs).map ProfileKnot.timestampS).Pairwise (· < ·)) {index : ℕ}
    {knot : ProfileKnot F} (found : (profileKnots legs)[index]? = some knot) :
    knot.AtRest ↔ index = 0 ∨ index + 1 = (profileKnots legs).length := by
  cases legs with
  | nil => cases found
  | cons leg rest =>
    have unfolded := profileKnots.eq_def (leg :: rest)
    simp only at unfolded
    rw [unfolded, List.map_cons, List.map_cons, List.pairwise_cons, List.pairwise_cons] at increasing
    obtain ⟨moving, last, split, unresting, rests⟩ := legKnots_atRest moves increasing.2.2
    rw [split] at unfolded
    rw [unfolded] at found ⊢
    rcases index with _ | _ | index
    · cases found
      exact iff_of_true ⟨rfl, rfl⟩ (.inl rfl)
    · cases found
      refine iff_of_false (not_atRest_of_leg (moves leg List.mem_cons_self)) ?_
      simp
    · rw [List.getElem?_cons_succ, List.getElem?_cons_succ] at found
      rcases Nat.lt_or_ge index moving.length with inner | reached
      · rw [List.getElem?_append_left inner] at found
        refine iff_of_false (unresting knot (List.mem_of_getElem? found)) ?_
        simp
        omega
      · rw [List.getElem?_append_right reached] at found
        obtain ⟨bound, rfl⟩ := List.getElem?_eq_some_iff.mp found
        have final : index = moving.length := by
          rw [List.length_singleton] at bound
          omega
        subst final
        refine iff_of_true ?_ (.inr ?_)
        · simpa using rests
        · simp

variable {profile : PathSpeedProfile F} {positions : List (Vector3 F)}

omit [Field F] [LinearOrder F] [IsStrictOrderedRing F] [Exact F] in
theorem length_legs : (profile.legs positions).length =
    min (positions.length - 1) profile.targetSpeedsMS.length := by
  simp [PathSpeedProfile.legs, CampaignGeometry.pairwise]

/-- The legs of a route go somewhere that has positive targets and no segment too short. -/
theorem moves_of_mem_legs [ExactSqrt F] (targeted : ∀ speed ∈ profile.targetSpeedsMS, 0 < speed)
    (long : ((CampaignGeometry.pairwise positions).any fun (before, after) =>
      le (distance before after) (ofRat 1e-9)) = false) :
    ∀ leg ∈ profile.legs positions, leg.Moves := by
  intro leg member
  obtain ⟨⟨⟨before, after⟩, speed⟩, among, rfl⟩ := List.mem_map.mp member
  obtain ⟨segment, target⟩ := List.of_mem_zip among
  have longer := List.any_eq_false.mp long _ segment
  rw [Exact.le_true, Exact.ofRat_cast, not_le] at longer
  refine ⟨targeted speed target, unit_ne_zero ?_⟩
  rw [distance_comm] at longer
  exact longer

end Profiled

end CampaignTrajectory

end CrazySwarm
