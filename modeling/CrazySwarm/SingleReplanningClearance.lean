import CrazySwarm.Lib.Paths
import CrazySwarm.SingleReplanningOrder
import CrazySwarm.TrajectoryMotion

/-! Where an accepted replacement flies, over exact time. The replacement is audited for its dynamics
alone: whether it stays in the flight volume and out of the keep-out regions is a property of the
measured state, of the goal and of the duration of the first attempt that passes the audit. -/
namespace CrazySwarm
open PyFloat (ofRat)
open Set
open scoped Numerals

theorem Region3D.contains_iff {region : Region3D ℝ} {point : Vector3 ℝ} :
    region.contains point = true ↔
      point.x ∈ Icc region.minimumM.x region.maximumM.x ∧
        point.y ∈ Icc region.minimumM.y region.maximumM.y ∧
        point.z ∈ Icc region.minimumM.z region.maximumM.z := by
  simp [Region3D.contains, and_assoc]

namespace SingleDroneReplanner

section Statement

variable (canonicalSha256 : SingleCanonical ℝ → String) (case : SingleReplanningCase ℝ)
  (observation : ReplanObservation ℝ) (update : GoalUpdate ℝ)

/-- The position is in the flight volume and in none of the keep-out regions. -/
def Clear (position : Vector3 ℝ) : Prop :=
  case.flightVolume.contains position = true ∧
    ∀ region ∈ case.keepOutRegions, region.contains position = false

/-- At every time from its start to its end the trajectory has a position, and it is clear. -/
def StaysClear (trajectory : TrajectoryData ℝ) : Prop :=
  ∀ timeS ∈ Icc 0 trajectory.durationS,
    ∃ setpoint, trajectory.sample timeS = some setpoint ∧ Clear case setpoint.positionM

/-- From the measured state of an axis to rest at the centre of the goal region. -/
noncomputable def cutoverEnds (axis : Vector3 ℝ → ℝ) : AxisEnds where
  position := axis observation.positionM
  velocity := axis observation.velocityMS
  acceleration := axis observation.accelerationMS2
  endPosition := axis update.goalRegion.center
  endVelocity := 0
  endAcceleration := 0

noncomputable def cutoverPosition (durationS timeS : ℝ) : Vector3 ℝ where
  x := (cutoverEnds observation update Vector3.x).positionAt durationS timeS
  y := (cutoverEnds observation update Vector3.y).positionAt durationS timeS
  z := (cutoverEnds observation update Vector3.z).positionAt durationS timeS

/-- Where the axis turns around, it is within its bounds. -/
def TurnsWithin (axis : Vector3 ℝ → ℝ) (durationS : ℝ) : Prop :=
  ∀ timeS ∈ Ioo 0 durationS, (cutoverEnds observation update axis).velocityAt durationS timeS = 0 →
    (cutoverEnds observation update axis).positionAt durationS timeS ∈
      Icc (axis case.flightVolume.minimumM) (axis case.flightVolume.maximumM)

def OnFace (region : Region3D ℝ) (point : Vector3 ℝ) : Prop :=
  (point.x = region.minimumM.x ∨ point.x = region.maximumM.x) ∨
    (point.y = region.minimumM.y ∨ point.y = region.maximumM.y) ∨
    (point.z = region.minimumM.z ∨ point.z = region.maximumM.z)

structure KeepsClear (durationS : ℝ) : Prop where
  startsInside : case.flightVolume.contains observation.positionM = true
  endsInside : case.flightVolume.contains update.goalRegion.center = true
  turnsX : TurnsWithin case observation update Vector3.x durationS
  turnsY : TurnsWithin case observation update Vector3.y durationS
  turnsZ : TurnsWithin case observation update Vector3.z durationS
  startsOutside : ∀ region ∈ case.keepOutRegions, region.contains observation.positionM = false
  crossesNoFace : ∀ region ∈ case.keepOutRegions, ∀ timeS ∈ Icc 0 durationS,
    region.contains (cutoverPosition observation update durationS timeS) = true →
      ¬ OnFace region (cutoverPosition observation update durationS timeS)

/-- The attempt of this duration keeps the dynamics limits. -/
def Passes (durationS : ℝ) : Prop :=
  (auditTrajectory case.dynamics (cutoverData canonicalSha256 observation update durationS).trajectory
    (ofRat 0.01)).passed = true

/-- The first of the twelve attempts that keeps the dynamics limits. -/
def FirstPassing (durationS : ℝ) : Prop :=
  ∃ attempt < 12,
    durationS = replacementDurationS case observation update * 1.5 ^ attempt ∧
    Passes canonicalSha256 case observation update durationS ∧
    ∀ earlier < attempt, ¬ Passes canonicalSha256 case observation update
      (replacementDurationS case observation update * 1.5 ^ earlier)

end Statement

variable {canonicalSha256 : SingleCanonical ℝ → String} {case : SingleReplanningCase ℝ}
  {observation : ReplanObservation ℝ} {update : GoalUpdate ℝ} {durationS : ℝ}
  {trajectory : ContinuousCutoverTrajectory ℝ}

section Sampling

theorem cutover_durationS :
    (cutoverData canonicalSha256 observation update durationS).trajectory.durationS = durationS := rfl

theorem cutover_sample (canonicalSha256 : SingleCanonical ℝ → String)
    (observation : ReplanObservation ℝ) (update : GoalUpdate ℝ) (positive : 0 < durationS) (timeS : ℝ) :
    ∃ setpoint, (cutoverData canonicalSha256 observation update durationS).trajectory.sample timeS =
        some setpoint ∧
      setpoint.positionM =
        ⟨((cutoverEnds observation update Vector3.x).sample durationS timeS).position,
          ((cutoverEnds observation update Vector3.y).sample durationS timeS).position,
          ((cutoverEnds observation update Vector3.z).sample durationS timeS).position⟩ ∧
      setpoint.velocityMS =
        ⟨((cutoverEnds observation update Vector3.x).sample durationS timeS).velocity,
          ((cutoverEnds observation update Vector3.y).sample durationS timeS).velocity,
          ((cutoverEnds observation update Vector3.z).sample durationS timeS).velocity⟩ ∧
      setpoint.accelerationMS2 =
        ⟨((cutoverEnds observation update Vector3.x).sample durationS timeS).acceleration,
          ((cutoverEnds observation update Vector3.y).sample durationS timeS).acceleration,
          ((cutoverEnds observation update Vector3.z).sample durationS timeS).acceleration⟩ := by
  have twice : clampedTimeS durationS (clampedTimeS durationS timeS) = clampedTimeS durationS timeS :=
    clampedTimeS_of_mem (clampedTimeS_mem positive.le timeS)
  have clamped : PyFloat.max PyFloat.zero (PyFloat.min durationS timeS) =
      clampedTimeS durationS timeS := by
    simp [clampedTimeS]
  have minus_zero (value : ℝ) : PyFloat.sub value PyFloat.zero = value := by simp
  have axis (of : Vector3 ℝ → ℝ) (rest : of .zero = 0) :
      quinticSample (of observation.positionM) (of observation.velocityMS)
        (of observation.accelerationMS2) (of update.goalRegion.center) (of .zero) (of .zero)
        (PyFloat.sub durationS PyFloat.zero)
        (PyFloat.sub (PyFloat.max PyFloat.zero (PyFloat.min durationS timeS)) PyFloat.zero) =
      (cutoverEnds observation update of).sample durationS timeS := by
    rw [minus_zero, minus_zero, clamped, rest]
    change (cutoverEnds observation update of).sample durationS (clampedTimeS durationS timeS) = _
    rw [AxisEnds.sample_eq, AxisEnds.sample_eq, twice]
  have x := axis Vector3.x (by simp [Vector3.zero])
  have y := axis Vector3.y (by simp [Vector3.zero])
  have z := axis Vector3.z (by simp [Vector3.zero])
  rw [← x, ← y, ← z]
  exact ⟨_, rfl, rfl, rfl, rfl⟩

theorem cutover_position (canonicalSha256 : SingleCanonical ℝ → String)
    (observation : ReplanObservation ℝ) (update : GoalUpdate ℝ) (positive : 0 < durationS) {timeS : ℝ} (inside : timeS ∈ Icc 0 durationS) :
    ∃ setpoint, (cutoverData canonicalSha256 observation update durationS).trajectory.sample timeS =
        some setpoint ∧ setpoint.positionM = cutoverPosition observation update durationS timeS := by
  obtain ⟨setpoint, sampled, position, -⟩ :=
    cutover_sample canonicalSha256 observation update positive timeS
  refine ⟨setpoint, sampled, ?_⟩
  simp only [position, AxisEnds.sample_eq, clampedTimeS_of_mem inside, cutoverPosition]

end Sampling

section Clearance

theorem cutoverPosition_zero :
    cutoverPosition observation update durationS 0 = observation.positionM := by
  simp [cutoverPosition, AxisEnds.positionAt_zero, cutoverEnds]

theorem axis_stays_iff (case : SingleReplanningCase ℝ) (observation : ReplanObservation ℝ)
    (update : GoalUpdate ℝ) (axis : Vector3 ℝ → ℝ) (positive : 0 < durationS) :
    (∀ timeS ∈ Icc 0 durationS, (cutoverEnds observation update axis).positionAt durationS timeS ∈
        Icc (axis case.flightVolume.minimumM) (axis case.flightVolume.maximumM)) ↔
      axis observation.positionM ∈
          Icc (axis case.flightVolume.minimumM) (axis case.flightVolume.maximumM) ∧
        axis update.goalRegion.center ∈
          Icc (axis case.flightVolume.minimumM) (axis case.flightVolume.maximumM) ∧
        TurnsWithin case observation update axis durationS := by
  have derivative (timeS : ℝ) :=
    (cutoverEnds observation update axis).hasDerivAt_positionAt durationS timeS
  have turns := Paths.stays_iff_turns (axis case.flightVolume.minimumM)
    (axis case.flightVolume.maximumM) positive.le
    (fun timeS _ => (derivative timeS).continuousAt.continuousWithinAt)
    (fun timeS _ => derivative timeS)
  rw [turns, AxisEnds.positionAt_zero, AxisEnds.positionAt_end positive]
  rfl

/-- The flight volume is kept exactly when the two ends and the turns of each axis keep it. -/
theorem stays_inside_iff (positive : 0 < durationS) :
    (∀ timeS ∈ Icc 0 durationS, case.flightVolume.contains
        (cutoverPosition observation update durationS timeS) = true) ↔
      case.flightVolume.contains observation.positionM = true ∧
        case.flightVolume.contains update.goalRegion.center = true ∧
        TurnsWithin case observation update Vector3.x durationS ∧
        TurnsWithin case observation update Vector3.y durationS ∧
        TurnsWithin case observation update Vector3.z durationS := by
  have x := axis_stays_iff case observation update Vector3.x positive
  have y := axis_stays_iff case observation update Vector3.y positive
  have z := axis_stays_iff case observation update Vector3.z positive
  simp only [Region3D.contains_iff, cutoverPosition, forall_and]
  rw [x, y, z]
  tauto

def coordinates (point : Vector3 ℝ) : ℝ × ℝ × ℝ := (point.x, point.y, point.z)

/-- A keep-out region is avoided exactly when the drone is outside and touches no face of it. -/
theorem stays_outside_iff {region : Region3D ℝ} (positive : 0 < durationS) :
    (∀ timeS ∈ Icc 0 durationS, region.contains
        (cutoverPosition observation update durationS timeS) = false) ↔
      region.contains observation.positionM = false ∧
        ∀ timeS ∈ Icc 0 durationS,
          region.contains (cutoverPosition observation update durationS timeS) = true →
            ¬ OnFace region (cutoverPosition observation update durationS timeS) := by
  let box : Set (ℝ × ℝ × ℝ) := Icc region.minimumM.x region.maximumM.x ×ˢ
    Icc region.minimumM.y region.maximumM.y ×ˢ Icc region.minimumM.z region.maximumM.z
  let inner : Set (ℝ × ℝ × ℝ) := Ioo region.minimumM.x region.maximumM.x ×ˢ
    Ioo region.minimumM.y region.maximumM.y ×ˢ Ioo region.minimumM.z region.maximumM.z
  let faces : Set (ℝ × ℝ × ℝ) := {p | OnFace region ⟨p.1, p.2.1, p.2.2⟩}
  let path (timeS : ℝ) := coordinates (cutoverPosition observation update durationS timeS)
  have among (timeS : ℝ) : path timeS ∈ box ↔
      region.contains (cutoverPosition observation update durationS timeS) = true := by
    simp only [Region3D.contains_iff]
    rfl
  have continuous : ContinuousOn path (Icc 0 durationS) := by
    have axis (of : Vector3 ℝ → ℝ) :
        Continuous ((cutoverEnds observation update of).positionAt durationS) :=
      continuous_iff_continuousAt.mpr fun timeS =>
        ((cutoverEnds observation update of).hasDerivAt_positionAt durationS timeS).continuousAt
    exact ((axis Vector3.x).prodMk ((axis Vector3.y).prodMk (axis Vector3.z))).continuousOn
  have interior : box \ faces ⊆ interior box := by
    rintro ⟨x, y, z⟩ ⟨⟨⟨lowX, highX⟩, ⟨lowY, highY⟩, lowZ, highZ⟩, notOnFace⟩
    have isOpen : IsOpen inner := isOpen_Ioo.prod (isOpen_Ioo.prod isOpen_Ioo)
    have within : inner ⊆ box := Set.prod_mono Ioo_subset_Icc_self
      (Set.prod_mono Ioo_subset_Icc_self Ioo_subset_Icc_self)
    simp only [faces, OnFace, Set.mem_ofPred_eq, not_or] at notOnFace
    obtain ⟨⟨aboveX, belowX⟩, ⟨aboveY, belowY⟩, aboveZ, belowZ⟩ := notOnFace
    apply interior_maximal within isOpen
    exact ⟨⟨lt_of_le_of_ne lowX (Ne.symm aboveX), lt_of_le_of_ne highX belowX⟩,
      ⟨lt_of_le_of_ne lowY (Ne.symm aboveY), lt_of_le_of_ne highY belowY⟩,
      lt_of_le_of_ne lowZ (Ne.symm aboveZ), lt_of_le_of_ne highZ belowZ⟩
  have closed : IsClosed box := isClosed_Icc.prod (isClosed_Icc.prod isClosed_Icc)
  have avoids := Paths.avoids_iff isPreconnected_Icc continuous closed interior
    (left_mem_Icc.mpr positive.le)
  have touching (timeS : ℝ) : path timeS ∈ faces ↔
      OnFace region (cutoverPosition observation update durationS timeS) := Iff.rfl
  simp only [among, touching, ← Bool.not_eq_true] at avoids ⊢
  rw [avoids, cutoverPosition_zero]

theorem staysClear_iff (positive : 0 < durationS) :
    StaysClear case (cutoverData canonicalSha256 observation update durationS).trajectory ↔
      KeepsClear case observation update durationS := by
  have positions : StaysClear case
        (cutoverData canonicalSha256 observation update durationS).trajectory ↔
      ∀ timeS ∈ Icc 0 durationS, Clear case (cutoverPosition observation update durationS timeS) := by
    rw [StaysClear, cutover_durationS]
    refine forall₂_congr fun timeS inside => ?_
    obtain ⟨setpoint, sampled, position⟩ :=
      cutover_position canonicalSha256 observation update positive inside
    rw [sampled, ← position]
    simp
  have regions : (∀ timeS ∈ Icc 0 durationS, ∀ region ∈ case.keepOutRegions,
        region.contains (cutoverPosition observation update durationS timeS) = false) ↔
      ∀ region ∈ case.keepOutRegions, ∀ timeS ∈ Icc 0 durationS,
        region.contains (cutoverPosition observation update durationS timeS) = false :=
    ⟨fun clear region member timeS inside => clear timeS inside region member,
      fun clear timeS inside region member => clear region member timeS inside⟩
  simp only [positions, Clear, forall_and, regions, stays_inside_iff positive,
    stays_outside_iff positive]
  constructor
  · rintro ⟨⟨first, last, x, y, z⟩, outside, faces⟩
    exact ⟨first, last, x, y, z, outside, faces⟩
  · rintro ⟨first, last, x, y, z, outside, faces⟩
    exact ⟨⟨first, last, x, y, z⟩, outside, faces⟩

end Clearance

section Attempts

theorem newCutoverTrajectory_data {data : CutoverData ℝ}
    (made : newCutoverTrajectory data = .ok trajectory) : trajectory.toCutoverData = data := by
  unfold newCutoverTrajectory at made
  split at made
  · cases made
    rfl
  · cases made

/-- What comes out of the attempts is the first that passes. By induction on the attempts left. -/
theorem replacementAttempts_spec {attempts : Nat}
    (made : replacementAttempts canonicalSha256 case observation update attempts durationS =
      .ok trajectory) :
    ∃ attempt < attempts,
      trajectory.toCutoverData =
          cutoverData canonicalSha256 observation update (durationS * 1.5 ^ attempt) ∧
        Passes canonicalSha256 case observation update (durationS * 1.5 ^ attempt) ∧
        ∀ earlier < attempt,
          ¬ Passes canonicalSha256 case observation update (durationS * 1.5 ^ earlier) := by
  induction attempts generalizing durationS with
  | zero => cases made
  | succ attempts ih =>
    obtain ⟨built, newly, made⟩ := bind_eq_ok.mp made
    have data := newCutoverTrajectory_data newly
    have decides : (auditTrajectory case.dynamics built.trajectory (ofRat 0.01)).passed = true ↔
        Passes canonicalSha256 case observation update durationS := by
      rw [Passes, data]
    by_cases passes : (auditTrajectory case.dynamics built.trajectory (ofRat 0.01)).passed = true
    · rw [if_pos passes] at made
      cases made
      refine ⟨0, by omega, ?_, ?_, by simp⟩
      · simpa using data
      · simpa using decides.mp passes
    · rw [if_neg passes] at made
      obtain ⟨attempt, within, same, passing, before⟩ := ih made
      have scaled (attempt : Nat) : PyFloat.mul durationS (ofRat 1.5) * (1.5 : ℝ) ^ attempt =
          durationS * 1.5 ^ (attempt + 1) := by
        simp
        ring
      refine ⟨attempt + 1, by omega, ?_, ?_, ?_⟩
      · rw [← scaled]
        exact same
      · rw [← scaled]
        exact passing
      · intro earlier less
        cases earlier with
        | zero => simpa using fun passing => passes (decides.mpr passing)
        | succ earlier =>
          rw [← scaled]
          exact before earlier (by omega)

theorem firstPassing_unique {first second : ℝ}
    (one : FirstPassing canonicalSha256 case observation update first)
    (other : FirstPassing canonicalSha256 case observation update second) : first = second := by
  obtain ⟨attempt, -, rfl, passes, before⟩ := one
  obtain ⟨attempt', -, rfl, passes', before'⟩ := other
  rcases lt_trichotomy attempt attempt' with less | rfl | more
  · exact absurd passes (before' attempt less)
  · rfl
  · exact absurd passes' (before attempt' more)

theorem firstPassing_pos (first : FirstPassing canonicalSha256 case observation update durationS) :
    0 < durationS := by
  obtain ⟨attempt, -, rfl, -⟩ := first
  have least : 1 ≤ replacementDurationS case observation update := by
    simp [replacementDurationS]
  positivity

theorem accepted_replacement {replanner : SingleDroneReplanner ℝ} {call : SingleReplanCall ℝ}
    {decision : SingleReplanDecision ℝ}
    (returned : (replanner.replan canonicalSha256 call).2 = .ok decision)
    (accepted : decision.disposition = .accepted) :
    ∃ durationS trajectory, decision.replacementTrajectory = some trajectory ∧
      FirstPassing canonicalSha256 replanner.case call.observation call.update durationS ∧
      trajectory.toCutoverData = cutoverData canonicalSha256 call.observation call.update durationS := by
  have recorded : isAccepted (replanner.replan canonicalSha256 call).2 = true := by
    rw [returned]
    simpa [isAccepted] using accepted
  obtain ⟨made, same, -, -, -, -, trajectory, carries, replacement⟩ := replan_accepted recorded
  rw [same] at returned
  cases returned
  obtain ⟨attempt, within, data, passes, before⟩ := replacementAttempts_spec replacement
  exact ⟨_, trajectory, carries, ⟨attempt, within, rfl, passes, before⟩, data⟩

/-- An accepted replacement stays in the flight volume and out of the keep-out regions exactly when
the measured state, the goal and the motion between them over the first passing duration do. -/
theorem accepted_replacement_staysClear_iff {replanner : SingleDroneReplanner ℝ}
    {call : SingleReplanCall ℝ} {decision : SingleReplanDecision ℝ}
    (returned : (replanner.replan canonicalSha256 call).2 = .ok decision)
    (accepted : decision.disposition = .accepted) :
    (∃ trajectory, decision.replacementTrajectory = some trajectory ∧
        StaysClear replanner.case trajectory.trajectory) ↔
      ∀ durationS, FirstPassing canonicalSha256 replanner.case call.observation call.update durationS →
        KeepsClear replanner.case call.observation call.update durationS := by
  obtain ⟨durationS, trajectory, carries, first, data⟩ := accepted_replacement returned accepted
  rw [carries]
  simp only [Option.some.injEq, exists_eq_left', data, staysClear_iff (firstPassing_pos first)]
  constructor
  · rintro clear durationS other
    rwa [firstPassing_unique other first]
  · exact fun clear => clear _ first

end Attempts

section Audits

theorem largest_le {values : List ℝ} {bound : ℝ} (nonneg : 0 ≤ bound)
    (below : ∀ value ∈ values, value ≤ bound) :
    (CampaignGeometry.maximum? values).getD PyFloat.zero ≤ bound := by
  cases found : CampaignGeometry.maximum? values with
  | none => simpa using nonneg
  | some most => exact (CampaignGeometry.maximum?_le found).mpr below

theorem auditTrajectory_passed {limits : DynamicsLimits ℝ} {trajectory : TrajectoryData ℝ}
    {stepS : ℝ} (positive : 0 ≤ limits.maximumHorizontalSpeedMS ∧
      0 ≤ limits.maximumVerticalSpeedMS ∧ 0 ≤ limits.maximumAccelerationMS2 ∧
      0 ≤ limits.maximumJerkMS3)
    (kept : ∀ timeS setpoint, trajectory.sample timeS = some setpoint →
      PyMath.hypot setpoint.velocityMS.x setpoint.velocityMS.y ≤ limits.maximumHorizontalSpeedMS ∧
      PyFloat.abs setpoint.velocityMS.z ≤ limits.maximumVerticalSpeedMS ∧
      CampaignTrajectory.norm setpoint.accelerationMS2 ≤ limits.maximumAccelerationMS2)
    (smooth : ∀ before after first last, before < after → trajectory.sample before = some first →
      trajectory.sample after = some last →
        CampaignTrajectory.distance last.accelerationMS2 first.accelerationMS2 ≤
          limits.maximumJerkMS3 * (after - before)) :
    (auditTrajectory limits trajectory stepS).passed = true := by
  have silent (name : String) {value limit : ℝ} (within : value ≤ limit) :
      (if PyFloat.lt (limit + ofRat 1e-6) value then [name] else []) = [] := by
    rw [if_neg]
    simp only [Exact.lt_true, Exact.ofRat_cast, not_lt]
    have : (0 : ℝ) ≤ ((1e-6 : ℚ) : ℝ) := by norm_num
    linarith
  have sampled {times : List ℝ} : ∀ sample ∈ times.filterMap fun timestamp =>
      (trajectory.sample timestamp).map (timestamp, ·),
      trajectory.sample sample.1 = some sample.2 := by
    intro sample among
    obtain ⟨timestamp, -, found⟩ := List.mem_filterMap.mp among
    obtain ⟨setpoint, sampled, rfl⟩ := Option.map_eq_some_iff.mp found
    exact sampled
  simp only [auditTrajectory, Exact.plus]
  rw [silent, silent, silent, silent]
  · rfl
  · apply largest_le positive.2.2.2
    intro jerk among
    obtain ⟨⟨before, after⟩, pair, rfl⟩ := List.mem_map.mp among
    obtain ⟨adjacent, ordered⟩ := List.mem_filter.mp pair
    obtain ⟨first, second⟩ := List.of_mem_zip adjacent
    have later : before.1 < after.1 := by simpa using ordered
    have slow := smooth _ _ _ _ later (sampled before first)
      (sampled after (List.mem_of_mem_tail second))
    have positive : 0 < after.1 - before.1 := sub_pos.mpr later
    simpa only [Exact.over_eq, Exact.minus, div_le_iff₀ positive] using slow
  · apply largest_le positive.2.2.1
    intro value among
    obtain ⟨sample, member, rfl⟩ := List.mem_map.mp among
    exact (kept _ _ (sampled sample member)).2.2
  · apply largest_le positive.2.1
    intro value among
    obtain ⟨sample, member, rfl⟩ := List.mem_map.mp among
    exact (kept _ _ (sampled sample member)).2.1
  · apply largest_le positive.1
    intro value among
    obtain ⟨sample, member, rfl⟩ := List.mem_map.mp among
    exact (kept _ _ (sampled sample member)).1

end Audits

section Instances

/-- A pillar stands between the drone and the pad. -/
noncomputable def pillarCase : SingleReplanningCase ℝ where
  caseSha256 := "case"
  roleIds := ["alpha"]
  replanningAuthority := .autoWithinFrozenLimits
  flightVolume := ⟨"volume", ⟨-2, -2, 0⟩, ⟨2, 2, 2⟩⟩
  keepOutRegions := [⟨"pillar", ⟨0.4, -0.1, 0⟩, ⟨0.6, 0.1, 1⟩⟩]
  dynamics := ⟨0.6, 0.4, 1, 8⟩
  observationFreshnessLimitS := 0.25
  minimumGoalUpdateIntervalS := 0.5
  planningBudgetS := 2
  speedPositive := by norm_num
  intervalPositive := by norm_num

noncomputable def pillarCall : SingleReplanCall ℝ where
  update :=
    { sourceId := "operator"
      sequence := 1
      updateId := "goal"
      sourceTimestampS := 1
      requestedEffectiveTimeS := 1
      goalRevision := 1
      goalRegion := ⟨"pad", ⟨0.9, -0.1, 0.4⟩, ⟨1.1, 0.1, 0.6⟩⟩ }
  observation := ⟨"seen", "alpha", 1, 1, ⟨0, 0, 0.5⟩, ⟨0, 0, 0⟩, ⟨0, 0, 0⟩, "observed"⟩
  decisionTimeSourceS := 1
  oldPlanSha256 := String.ofList (List.replicate 64 'a')
  oldTrajectorySha256 := String.ofList (List.replicate 64 'b')
  oldReservationSha256 := String.ofList (List.replicate 64 'c')
  acknowledgements := ⟨true, true, true, true⟩
  planningElapsedS := 0

theorem pillarCall_durationS :
    replacementDurationS pillarCase pillarCall.observation pillarCall.update = 5 := by
  simp [replacementDurationS, CampaignEvaluation.distance, pillarCase, pillarCall, Region3D.center]
  norm_num

theorem pillarCall_ends :
    cutoverEnds pillarCall.observation pillarCall.update Vector3.x = AxisEnds.rest 0 1 ∧
      cutoverEnds pillarCall.observation pillarCall.update Vector3.y = AxisEnds.rest 0 0 ∧
      cutoverEnds pillarCall.observation pillarCall.update Vector3.z = AxisEnds.rest 0.5 0.5 := by
  norm_num [cutoverEnds, AxisEnds.rest, pillarCall, Region3D.center]

theorem pillarCall_passes (canonicalSha256 : SingleCanonical ℝ → String) :
    Passes canonicalSha256 pillarCase pillarCall.observation pillarCall.update 5 := by
  obtain ⟨x, y, z⟩ := pillarCall_ends
  have positive : (0 : ℝ) < 5 := by norm_num
  apply auditTrajectory_passed
  · norm_num [pillarCase]
  · intro timeS setpoint found
    obtain ⟨sampled, same, -, velocity, acceleration⟩ :=
      cutover_sample canonicalSha256 pillarCall.observation pillarCall.update positive timeS
    obtain rfl : sampled = setpoint := Option.some.inj (same.symm.trans found)
    have speed := abs_velocity_rest_le 0 1 positive timeS
    have rate := abs_acceleration_rest_le 0 1 positive timeS
    obtain ⟨stillY, stillY'⟩ := rest_still 0 positive timeS
    obtain ⟨stillZ, stillZ'⟩ := rest_still 0.5 positive timeS
    rw [velocity, acceleration, x, y, z, stillY, stillY', stillZ, stillZ', norm_along]
    refine ⟨?_, ?_, ?_⟩
    · simp only [real_hypot, ne_eq, OfNat.ofNat_ne_zero, not_false_eq_true, zero_pow, add_zero,
        Real.sqrt_sq_eq_abs]
      apply speed.trans
      norm_num [pillarCase]
    · norm_num [PyFloat.abs, pillarCase]
    · apply rate.trans
      norm_num [pillarCase]
  · intro before after first last ordered foundFirst foundLast
    obtain ⟨sampled, same, -, -, acceleration⟩ :=
      cutover_sample canonicalSha256 pillarCall.observation pillarCall.update positive before
    obtain ⟨sampled', same', -, -, acceleration'⟩ :=
      cutover_sample canonicalSha256 pillarCall.observation pillarCall.update positive after
    obtain rfl : sampled = first := Option.some.inj (same.symm.trans foundFirst)
    obtain rfl : sampled' = last := Option.some.inj (same'.symm.trans foundLast)
    have rate := abs_acceleration_rest_sub_le 0 1 positive ordered.le
    have stillY (timeS : ℝ) := (rest_still 0 positive timeS).2
    have stillZ (timeS : ℝ) := (rest_still 0.5 positive timeS).2
    rw [acceleration, acceleration', x, y, z, stillY, stillY, stillZ, stillZ,
      CampaignTrajectory.distance, CampaignGeometry.subtract]
    simp only [Exact.minus, sub_zero, norm_along]
    apply rate.trans
    have apart : 0 < after - before := sub_pos.mpr ordered
    norm_num [pillarCase]
    linarith

theorem pillarCall_valid (canonicalSha256 : SingleCanonical ℝ → String) :
    (cutoverData canonicalSha256 pillarCall.observation pillarCall.update 5).validate = .ok () := by
  simp [CutoverData.validate, cutoverData, pillarCall, TrajectoryPoint.valid, isFinite,
    Vector3.isFinite, Vector3.zero, CampaignGeometry.pairwise, CampaignTrajectory.norm,
    Region3D.center, bind_eq_ok]
  norm_num
  rfl

theorem exists_accepted {payload : SingleReplanPayload ℝ} (valid : payload.validate = .ok ())
    (accepted : payload.disposition = .accepted) :
    ∃ decision, newSingleReplanDecision canonicalSha256 payload = .ok decision ∧
      decision.disposition = .accepted := by
  obtain ⟨decision, built, same⟩ := exists_newSingleReplanDecision valid
  exact ⟨decision, built, by rw [same, accepted]⟩

theorem pillarCall_accepted (canonicalSha256 : SingleCanonical ℝ → String) :
    ∃ decision, (replan canonicalSha256 { case := pillarCase, roleId := "alpha" } pillarCall).2 =
      .ok decision ∧ decision.disposition = .accepted := by
  have unguarded : (guards { case := pillarCase, roleId := "alpha" } pillarCall).find? (·.1) =
      none := by
    rw [List.find?_eq_none]
    norm_num [guards, isStale, exceedsRate, cutoverS, pillarCase, pillarCall, Dict.get?_empty,
      CutoverAcknowledgements.complete]
    simp
  obtain ⟨trajectory, made, data⟩ : ∃ trajectory, newCutoverTrajectory
      (cutoverData canonicalSha256 pillarCall.observation pillarCall.update 5) = .ok trajectory ∧
      trajectory.toCutoverData =
        cutoverData canonicalSha256 pillarCall.observation pillarCall.update 5 := by
    unfold newCutoverTrajectory
    split
    · exact ⟨_, rfl, rfl⟩
    · next fault failed =>
      rw [pillarCall_valid] at failed
      cases failed
  have passes : (auditTrajectory pillarCase.dynamics trajectory.trajectory (ofRat 0.01)).passed =
      true := by
    rw [data]
    exact pillarCall_passes canonicalSha256
  have replacement : replacementTrajectory canonicalSha256 pillarCase pillarCall.observation
      pillarCall.update = .ok trajectory := by
    rw [replacementTrajectory, pillarCall_durationS, replacementAttempts]
    exact bind_eq_ok.mpr ⟨trajectory, made, if_pos passes⟩
  obtain ⟨decision, built, accepted⟩ : ∃ decision, acceptance canonicalSha256
      { case := pillarCase, roleId := "alpha" } pillarCall trajectory = .ok decision ∧
      decision.disposition = .accepted := by
    have identified : isIdentifier pillarCall.update.updateId = true := by decide
    have plan : isSha256 pillarCall.oldPlanSha256 = true := by decide
    have old : isSha256 pillarCall.oldTrajectorySha256 = true := by decide
    have reservation : isSha256 pillarCall.oldReservationSha256 = true := by decide
    have later : PyFloat.ge (cutoverS pillarCall) PyFloat.zero = true := by
      norm_num [cutoverS, pillarCall]
    apply exists_accepted
    · simp only [SingleReplanPayload.validate, identified, plan, old, reservation, later,
        Option.all_some]
      rfl
    · rfl
  refine ⟨decision, ?_, accepted⟩
  have new : ({ case := pillarCase, roleId := "alpha" } : SingleDroneReplanner ℝ).acceptedUpdateIds.get?
      pillarCall.update.updateId = none := rfl
  simp only [replan, new, unguarded, replacement, passes, built, Bool.not_true, Bool.false_eq_true,
    if_false]

theorem pillarCall_firstPassing (canonicalSha256 : SingleCanonical ℝ → String) :
    FirstPassing canonicalSha256 pillarCase pillarCall.observation pillarCall.update 5 := by
  refine ⟨0, by omega, ?_, pillarCall_passes canonicalSha256, by simp⟩
  rw [pillarCall_durationS]
  norm_num

theorem pillarCall_halfway :
    cutoverPosition pillarCall.observation pillarCall.update 5 2.5 = ⟨0.5, 0, 0.5⟩ := by
  obtain ⟨x, y, z⟩ := pillarCall_ends
  have positive : (0 : ℝ) < 5 := by norm_num
  have half : (2.5 : ℝ) = 5 * (1 / 2) := by norm_num
  rw [cutoverPosition, x, y, z, half, positionAt_rest positive, positionAt_rest positive,
    positionAt_rest positive]
  norm_num

/-- The replacement that is accepted flies through the pillar. -/
theorem accepted_replacement_meets_pillar :
    ∃ decision,
      (replan (fun _ => "hash") { case := pillarCase, roleId := "alpha" } pillarCall).2 =
        .ok decision ∧ decision.disposition = .accepted ∧
      ¬ ∃ trajectory, decision.replacementTrajectory = some trajectory ∧
        StaysClear pillarCase trajectory.trajectory := by
  obtain ⟨decision, returned, accepted⟩ := pillarCall_accepted fun _ => "hash"
  refine ⟨decision, returned, accepted, ?_⟩
  rintro ⟨trajectory, carries, clear⟩
  obtain ⟨durationS, other, carries', first, data⟩ := accepted_replacement returned accepted
  obtain rfl : other = trajectory := Option.some.inj (carries'.symm.trans carries)
  obtain rfl : durationS = 5 := firstPassing_unique first (pillarCall_firstPassing _)
  have inside : (2.5 : ℝ) ∈ Icc 0 5 := by norm_num
  obtain ⟨setpoint, sampled, position⟩ := cutover_position (fun _ => "hash")
    pillarCall.observation pillarCall.update (by norm_num : (0 : ℝ) < 5) inside
  rw [data] at clear
  obtain ⟨setpoint', sampled', -, outside⟩ := clear 2.5 inside
  obtain rfl : setpoint = setpoint' := Option.some.inj (sampled.symm.trans sampled')
  have out := outside ⟨"pillar", ⟨0.4, -0.1, 0⟩, ⟨0.6, 0.1, 1⟩⟩ (by simp [pillarCase])
  rw [position, pillarCall_halfway, ← Bool.not_eq_true, Region3D.contains_iff] at out
  norm_num at out

theorem accepted_replacement_staysClear_iff_pillar :
    ∃ decision : SingleReplanDecision ℝ,
      (replan (fun _ => "hash") { case := pillarCase, roleId := "alpha" } pillarCall).2 =
        .ok decision ∧
      ((∃ trajectory, decision.replacementTrajectory = some trajectory ∧
          StaysClear pillarCase trajectory.trajectory) ↔
        ∀ durationS, FirstPassing (fun _ => "hash") pillarCase pillarCall.observation
            pillarCall.update durationS →
          KeepsClear pillarCase pillarCall.observation pillarCall.update durationS) := by
  obtain ⟨decision, returned, accepted⟩ := pillarCall_accepted fun _ => "hash"
  exact ⟨decision, returned, accepted_replacement_staysClear_iff returned accepted⟩

end Instances

end SingleDroneReplanner

end CrazySwarm
