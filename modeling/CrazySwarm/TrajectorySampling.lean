import CrazySwarm.Lib.Bisect
import CrazySwarm.TrajectoryMotion

/-! Which segment of a trajectory a sample is taken from: the knots of a trajectory that validates
increase in time, the lookup finds a segment that holds the sampled time, and a segment meets both
of its knots, so that every segment that holds the time gives the same setpoint. -/
namespace CrazySwarm
open PyFloat (lt le ofRat)
open Set
open scoped Numerals

/-- The state at a knot. -/
def TrajectoryPoint.setpoint {F : Type} (point : TrajectoryPoint F) : TrajectorySetpoint F :=
  ⟨point.positionM, point.velocityMS, point.accelerationMS2, point.yawRad, point.yawRateRadS⟩

/-! ## Knots -/

section Knots

variable {F : Type} [Field F] [LinearOrder F] [IsStrictOrderedRing F] [PyMath F] [Exact F]
variable {data : TrajectoryData F} {timeS : F} {i : ℕ} {a b : TrajectoryPoint F}

structure Knotted (data : TrajectoryData F) : Prop where
  two : 2 ≤ data.points.length
  start : ∀ first, data.points[0]? = some first → first.timeFromStartS = 0
  ordered : (data.points.map TrajectoryPoint.timeFromStartS).Pairwise (· < ·)

theorem knotted_of_validate (valid : data.validate = .ok ()) : Knotted data := by
  obtain ⟨_, fields, valid⟩ := bind_eq_ok.mp valid
  obtain ⟨_, starts, valid⟩ := bind_eq_ok.mp valid
  obtain ⟨_, -, valid⟩ := bind_eq_ok.mp valid
  obtain ⟨_, increase, -⟩ := bind_eq_ok.mp valid
  have two := (validated_eq_ok.mp fields).1 _ List.mem_cons_self
  simp only [Bool.and_eq_true, decide_eq_true_eq] at two
  rw [require_eq_ok] at starts increase
  constructor
  · exact two.1
  · intro first found
    rw [List.head?_eq_getElem?, found] at starts
    simpa using starts
  · refine List.isChain_iff_pairwise.mp (List.isChain_iff_getElem.mpr fun i bound => ?_)
    rw [List.length_map] at bound
    have pair : (data.points[i], data.points[i + 1]) ∈ data.segments := by
      apply List.mem_of_getElem? (i := i)
      simp [TrajectoryData.segments, List.getElem?_zip_eq_some, List.getElem?_tail, bound,
        Nat.lt_of_succ_lt bound]
    have later := List.all_eq_true.mp increase _ pair
    simpa using later

omit [IsStrictOrderedRing F] [PyMath F] [Exact F] in
theorem Knotted.time_lt (knotted : Knotted data) {j : ℕ} (earlier : i < j)
    (ofI : data.points[i]? = some a) (ofJ : data.points[j]? = some b) :
    a.timeFromStartS < b.timeFromStartS := by
  obtain ⟨boundI, rfl⟩ := List.getElem?_eq_some_iff.mp ofI
  obtain ⟨boundJ, rfl⟩ := List.getElem?_eq_some_iff.mp ofJ
  have ordered := List.pairwise_iff_getElem.mp knotted.ordered i j (by simpa using boundI)
    (by simpa using boundJ) earlier
  simpa using ordered

theorem Knotted.exists_last (knotted : Knotted data) :
    ∃ last, data.points[data.points.length - 1]? = some last ∧
      data.durationS = last.timeFromStartS := by
  have bound : data.points.length - 1 < data.points.length := by
    have := knotted.two
    omega
  refine ⟨data.points[data.points.length - 1], List.getElem?_eq_getElem bound, ?_⟩
  simp [TrajectoryData.durationS, List.getLast?_eq_getElem?, bound]

theorem Knotted.within (knotted : Knotted data) (ofI : data.points[i]? = some a) :
    a.timeFromStartS ∈ Icc 0 data.durationS := by
  obtain ⟨bound, -⟩ := List.getElem?_eq_some_iff.mp ofI
  obtain ⟨last, found, duration⟩ := knotted.exists_last
  have first : data.points[0]? = some data.points[0] := List.getElem?_eq_getElem (by omega)
  constructor
  · rw [← knotted.start _ first]
    rcases Nat.eq_zero_or_pos i with rfl | later
    · rw [ofI] at first
      rw [Option.some.inj first]
    · exact (knotted.time_lt later first ofI).le
  · rw [duration]
    rcases Nat.lt_or_ge i (data.points.length - 1) with earlier | reached
    · exact (knotted.time_lt earlier ofI found).le
    · obtain rfl : i = data.points.length - 1 := by omega
      rw [ofI] at found
      rw [Option.some.inj found]

theorem bisectRight_eq (points : List (TrajectoryPoint F)) (timeS : F) :
    bisectRight points timeS = Bisect.right TrajectoryPoint.timeFromStartS points timeS := by
  have same : (fun point : TrajectoryPoint F => !lt timeS point.timeFromStartS) =
      fun point => decide (point.timeFromStartS ≤ timeS) := by
    funext point
    rw [Exact.lt_eq, ← decide_not]
    simp
  rw [bisectRight, Bisect.right, same]

/-- The segment that the lookup finds for a time of the trajectory holds that time. -/
theorem Knotted.exists_segment (knotted : Knotted data) (inside : timeS ∈ Icc 0 data.durationS) :
    ∃ a b, data.points[Nat.min (data.points.length - 2) (bisectRight data.points timeS - 1)]? =
        some a ∧
      data.points[Nat.min (data.points.length - 2) (bisectRight data.points timeS - 1) + 1]? =
        some b ∧ timeS ∈ Icc a.timeFromStartS b.timeFromStartS := by
  rw [bisectRight_eq]
  change ∃ a b, data.points[Bisect.segment _ _ timeS]? = some a ∧
    data.points[Bisect.segment _ _ timeS + 1]? = some b ∧ _
  have low : Bisect.segment TrajectoryPoint.timeFromStartS data.points timeS ≤
      data.points.length - 2 := min_le_left _ _
  have two := knotted.two
  have bound : Bisect.segment TrajectoryPoint.timeFromStartS data.points timeS + 1 <
      data.points.length := by omega
  have first : data.points[0]? = some data.points[0] := List.getElem?_eq_getElem (by omega)
  obtain ⟨last, found, duration⟩ := knotted.exists_last
  refine ⟨_, _, List.getElem?_eq_getElem (Nat.lt_of_succ_lt bound), List.getElem?_eq_getElem bound,
    ?_, ?_⟩
  · apply Bisect.segment_begins knotted.ordered first
    · rw [knotted.start _ first]
      exact inside.1
    · exact List.getElem?_eq_getElem (Nat.lt_of_succ_lt bound)
  · apply Bisect.segment_ends knotted.ordered found
    · rw [← duration]
      exact inside.2
    · exact List.getElem?_eq_getElem bound

theorem sample_eq_segment (inside : timeS ∈ Icc 0 data.durationS) :
    data.sample timeS =
      match data.points[Nat.min (data.points.length - 2) (bisectRight data.points timeS - 1)]?,
        data.points[Nat.min (data.points.length - 2) (bisectRight data.points timeS - 1) + 1]? with
      | some start, some «end» => some (sampleTrajectorySegment start «end» timeS)
      | _, _ => none := by
  have bounded : PyFloat.max PyFloat.zero (PyFloat.min data.durationS timeS) = timeS := by
    rw [Exact.max_eq, Exact.min_eq, Exact.zero_eq, min_eq_right inside.2, max_eq_right inside.1]
  rewrite [TrajectoryData.sample, bounded]
  rfl

end Knots

/-! ## One segment -/

namespace AxisEnds

variable {ends : AxisEnds} {durationS timeS : ℝ}

theorem hasDerivAt_velocityAt (ends : AxisEnds) (durationS timeS : ℝ) :
    HasDerivAt (ends.velocityAt durationS) (ends.accelerationAt durationS timeS) timeS := by
  have power (coefficient : ℝ) (n : ℕ) : HasDerivAt (fun timeS => coefficient * timeS ^ n)
      (coefficient * (n * timeS ^ (n - 1))) timeS := (hasDerivAt_pow n timeS).const_mul coefficient
  have linear : HasDerivAt (fun timeS => 2 * (ends.acceleration / 2) * timeS)
      (2 * (ends.acceleration / 2)) timeS := by
    simpa using (hasDerivAt_id timeS).const_mul (2 * (ends.acceleration / 2))
  have sum := (((linear.const_add ends.velocity).add (power (3 * ends.cubic durationS) 2)).add
    (power (4 * ends.quartic durationS) 3)).add (power (5 * ends.quintic durationS) 4)
  apply sum.congr_deriv
  simp only [accelerationAt]
  push_cast
  ring

theorem continuous_accelerationAt (ends : AxisEnds) (durationS : ℝ) :
    Continuous (ends.accelerationAt durationS) := by
  unfold accelerationAt
  fun_prop

theorem velocityAt_zero : ends.velocityAt durationS 0 = ends.velocity := by
  simp [velocityAt]

theorem accelerationAt_zero : ends.accelerationAt durationS 0 = ends.acceleration := by
  simp only [accelerationAt]
  ring

theorem velocityAt_end (positive : 0 < durationS) :
    ends.velocityAt durationS durationS = ends.endVelocity := by
  simp only [velocityAt, cubic, quartic, quintic, missedPosition, missedVelocity,
    missedAcceleration]
  field_simp
  ring

theorem accelerationAt_end (positive : 0 < durationS) :
    ends.accelerationAt durationS durationS = ends.endAcceleration := by
  simp only [accelerationAt, cubic, quartic, quintic, missedPosition, missedVelocity,
    missedAcceleration]
  field_simp
  ring

end AxisEnds

section Segments

variable {a b : TrajectoryPoint ℝ} {timeS : ℝ}

/-- An axis at the two knots of a segment. -/
def axisEnds (axis : Vector3 ℝ → ℝ) (start «end» : TrajectoryPoint ℝ) : AxisEnds where
  position := axis start.positionM
  velocity := axis start.velocityMS
  acceleration := axis start.accelerationMS2
  endPosition := axis «end».positionM
  endVelocity := axis «end».velocityMS
  endAcceleration := axis «end».accelerationMS2

/-- The yaw at the two knots of a segment; it has no acceleration there. -/
def yawEnds (start «end» : TrajectoryPoint ℝ) : AxisEnds where
  position := start.yawRad
  velocity := start.yawRateRadS
  acceleration := 0
  endPosition := «end».yawRad
  endVelocity := «end».yawRateRadS
  endAcceleration := 0

/-- The polynomials of a segment, some time after its first knot. -/
noncomputable def motionAt (start «end» : TrajectoryPoint ℝ) (elapsedS : ℝ) :
    TrajectorySetpoint ℝ :=
  let durationS := «end».timeFromStartS - start.timeFromStartS
  let position axis := (axisEnds axis start «end»).positionAt durationS elapsedS
  let velocity axis := (axisEnds axis start «end»).velocityAt durationS elapsedS
  let acceleration axis := (axisEnds axis start «end»).accelerationAt durationS elapsedS
  { positionM := ⟨position Vector3.x, position Vector3.y, position Vector3.z⟩
    velocityMS := ⟨velocity Vector3.x, velocity Vector3.y, velocity Vector3.z⟩
    accelerationMS2 := ⟨acceleration Vector3.x, acceleration Vector3.y, acceleration Vector3.z⟩
    yawRad := (yawEnds start «end»).positionAt durationS elapsedS
    yawRateRadS := (yawEnds start «end»).velocityAt durationS elapsedS }

theorem sampleTrajectorySegment_eq (a b : TrajectoryPoint ℝ) (timeS : ℝ) :
    sampleTrajectorySegment a b timeS =
      motionAt a b (clampedTimeS (b.timeFromStartS - a.timeFromStartS)
        (timeS - a.timeFromStartS)) := by
  have sampled (position velocity acceleration endPosition endVelocity endAcceleration durationS
      elapsedS : ℝ) : quinticSample position velocity acceleration endPosition endVelocity
        endAcceleration durationS elapsedS =
      (AxisEnds.mk position velocity acceleration endPosition endVelocity endAcceleration).sample
        durationS elapsedS := rfl
  unfold sampleTrajectorySegment motionAt
  simp only [Exact.minus, Exact.zero_eq, sampled, AxisEnds.sample_eq]
  rfl

/-- Within its time a segment is sampled where its polynomials are. -/
theorem sampleTrajectorySegment_of_mem (inside : timeS ∈ Icc a.timeFromStartS b.timeFromStartS) :
    sampleTrajectorySegment a b timeS = motionAt a b (timeS - a.timeFromStartS) := by
  rw [sampleTrajectorySegment_eq, clampedTimeS_of_mem]
  exact ⟨sub_nonneg.mpr inside.1, sub_le_sub_right inside.2 _⟩

theorem motionAt_zero (a b : TrajectoryPoint ℝ) : motionAt a b 0 = a.setpoint := by
  simp only [motionAt, AxisEnds.positionAt_zero, AxisEnds.velocityAt_zero,
    AxisEnds.accelerationAt_zero]
  rfl

theorem motionAt_end (later : a.timeFromStartS < b.timeFromStartS) :
    motionAt a b (b.timeFromStartS - a.timeFromStartS) = b.setpoint := by
  have positive := sub_pos.mpr later
  simp only [motionAt, AxisEnds.positionAt_end positive, AxisEnds.velocityAt_end positive,
    AxisEnds.accelerationAt_end positive]
  rfl

theorem segment_meets_start (later : a.timeFromStartS < b.timeFromStartS) :
    sampleTrajectorySegment a b a.timeFromStartS = a.setpoint := by
  rw [sampleTrajectorySegment_of_mem ⟨le_rfl, later.le⟩, sub_self, motionAt_zero]

theorem segment_meets_end (later : a.timeFromStartS < b.timeFromStartS) :
    sampleTrajectorySegment a b b.timeFromStartS = b.setpoint := by
  rw [sampleTrajectorySegment_of_mem ⟨later.le, le_rfl⟩, motionAt_end later]

end Segments

/-! ## Every segment that holds a time -/

section Lookup

variable {data : TrajectoryData ℝ} {timeS : ℝ} {i : ℕ} {a b : TrajectoryPoint ℝ}

/-- Every segment that holds a time gives the setpoint that the lookup gives. -/
theorem Knotted.sample_of_segment (knotted : Knotted data) (ofA : data.points[i]? = some a)
    (ofB : data.points[i + 1]? = some b) (inside : timeS ∈ Icc a.timeFromStartS b.timeFromStartS) :
    data.sample timeS = some (sampleTrajectorySegment a b timeS) := by
  have whole : timeS ∈ Icc 0 data.durationS :=
    ⟨(knotted.within ofA).1.trans inside.1, inside.2.trans (knotted.within ofB).2⟩
  obtain ⟨p, q, ofP, ofQ, holds⟩ := knotted.exists_segment whole
  rw [sample_eq_segment whole, ofP, ofQ]
  simp only [Option.some.injEq]
  generalize found : Nat.min (data.points.length - 2) (bisectRight data.points timeS - 1) = j
    at ofP ofQ
  rw [bisectRight_eq] at found
  have inner : i + 1 < data.points.length := (List.getElem?_eq_some_iff.mp ofB).1
  have before : i ≤ j := by
    rw [← found]
    exact Bisect.le_segment knotted.ordered ofA inner inside.1
  rcases before.eq_or_lt with rfl | earlier
  · cases ofA.symm.trans ofP
    cases ofB.symm.trans ofQ
    rfl
  · -- The lookup takes the segment after the knot that both segments share.
    rcases Nat.lt_or_ge (i + 1) j with apart | next
    · exact absurd (knotted.time_lt apart ofB ofP) (not_lt.mpr (holds.1.trans inside.2))
    · obtain rfl : i + 1 = j := le_antisymm earlier next
      cases ofB.symm.trans ofP
      obtain rfl : timeS = b.timeFromStartS := le_antisymm inside.2 holds.1
      rw [segment_meets_start (knotted.time_lt (Nat.lt_succ_self _) ofP ofQ),
        segment_meets_end (knotted.time_lt (Nat.lt_succ_self _) ofA ofB)]

end Lookup

end CrazySwarm
