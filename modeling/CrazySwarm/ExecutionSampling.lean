import CrazySwarm.ExecutionPrograms

/-! What a predicted separation says: every sampled time of the joint schedule is looked at, and
the sampled times are close enough to each other to be near every other time. -/
namespace CrazySwarm
namespace ExecutionPrograms

section Positions
open PyFloat

variable {F : Type}

theorem OperationTrajectory.points_ne_nil (trajectory : OperationTrajectory F) :
    trajectory.points ≠ [] := by
  intro empty
  have two := trajectory.twoPoints
  simp [empty] at two

variable [PyMath F] {program first second : AcceptedExecutionProgram F}

theorem OperationTrajectory.exists_sample (trajectory : OperationTrajectory F) (timeS : F) :
    ∃ setpoint, trajectory.sample timeS = some setpoint := by
  have two := trajectory.twoPoints
  unfold TrajectoryData.sample
  simp only
  generalize bisectRight trajectory.points _ - 1 = last
  have low := Nat.min_le_left (trajectory.points.length - 2) last
  change Nat.min (trajectory.points.length - 2) last ≤ _ at low
  generalize Nat.min (trajectory.points.length - 2) last = index at low ⊢
  have bound : index + 1 < trajectory.points.length := by omega
  rw [List.getElem?_eq_getElem bound, List.getElem?_eq_getElem (Nat.lt_of_succ_lt bound)]
  exact ⟨_, rfl⟩

theorem TrajectoryOperation.exists_position (operation : TrajectoryOperation F) (timeS : F) :
    ∃ positionM, operation.position timeS = .ok positionM := by
  have filled := operation.trajectory.points_ne_nil
  unfold TrajectoryOperation.position
  simp only
  split
  · rw [List.head?_eq_some_head filled]
    exact ⟨_, rfl⟩
  · split
    · rw [List.getLast?_eq_some_getLast filled]
      exact ⟨_, rfl⟩
    · obtain ⟨setpoint, sampled⟩ := operation.trajectory.exists_sample (timeS - operation.startsAtS)
      rw [sampled]
      exact ⟨_, rfl⟩

theorem exists_programPosition {timeS : F} {positionM : Vector3 F}
    (placed : programPosition program timeS = .ok positionM) (otherS : F) :
    ∃ otherM, programPosition program otherS = .ok otherM := by
  obtain ⟨operation, found, -⟩ := bind_eq_ok.mp placed
  unfold programPosition
  rw [found]
  exact operation.exists_position otherS

theorem separationAt_eq_ok {timeS distanceM : F} :
    separationAt first second timeS = .ok distanceM ↔
      ∃ firstM secondM, programPosition first timeS = .ok firstM ∧
        programPosition second timeS = .ok secondM ∧ distance firstM secondM = distanceM := by
  unfold separationAt
  constructor
  · intro ok
    obtain ⟨firstM, firstOk, ok⟩ := bind_eq_ok.mp ok
    obtain ⟨secondM, secondOk, ok⟩ := bind_eq_ok.mp ok
    exact ⟨firstM, secondM, firstOk, secondOk, Except.ok.inj ok⟩
  · rintro ⟨firstM, secondM, firstOk, secondOk, rfl⟩
    rw [firstOk, secondOk]
    rfl

variable [PyRound F]

theorem sampleCount_pos (durationS : F) : 0 < sampleCount durationS :=
  Nat.lt_of_lt_of_le Nat.one_pos (Nat.le_max_left 1 _)

end Positions

section Predictions
open PyFloat (lt le ofRat)

variable {F : Type} [Field F] [LinearOrder F] [IsStrictOrderedRing F] [PyMath F] [Exact F]
variable {first second : AcceptedExecutionProgram F} {requiredSeparationM : F}

/-- A sample is taken into the minimum. -/
theorem Prediction.step_separates {prediction : Prediction F} {sample : F × F} {bound : F} :
    (prediction.step bound sample).separates requiredSeparationM = true ↔
      prediction.separates requiredSeparationM = true ∧ requiredSeparationM ≤ sample.2 := by
  obtain ⟨timeS, distanceM⟩ := sample
  rcases prediction with ⟨minimum, closest, start, finish⟩
  cases minimum with
  | none => simp [step, separates]
  | some minimum =>
    by_cases closer : distanceM < minimum
    · simp only [step, separates, Option.all_some, Exact.lt_true, closer, if_true, Exact.le_true]
      constructor
      · intro enough
        exact ⟨enough.trans closer.le, enough⟩
      · exact And.right
    · simp only [step, separates, Option.all_some, Exact.lt_true, closer, if_false, Exact.le_true]
      constructor
      · intro enough
        exact ⟨enough, enough.trans (not_lt.mp closer)⟩
      · exact And.left

theorem Prediction.foldl_step_separates {samples : List (F × F)} {start : Prediction F} {bound : F} :
    (samples.foldl (step bound) start).separates requiredSeparationM = true ↔
      start.separates requiredSeparationM = true ∧
        ∀ sample ∈ samples, requiredSeparationM ≤ sample.2 := by
  induction samples generalizing start with
  | nil => simp
  | cons sample rest ih =>
    rw [List.foldl_cons, ih, step_separates, List.forall_mem_cons, and_assoc]

variable [PyRound F]

theorem separates_iff {predicted : Prediction F} {bound : F}
    (ok : prediction first second bound = .ok predicted) :
    predicted.separates requiredSeparationM = true ↔
      ∀ timeS ∈ sampleTimes (jointDurationS first second),
        ∃ distanceM, separationAt first second timeS = .ok distanceM ∧
          requiredSeparationM ≤ distanceM := by
  obtain ⟨samples, each, result⟩ := bind_eq_ok.mp ok
  cases result
  rw [Prediction.foldl_step_separates]
  constructor
  · rintro ⟨-, apart⟩ timeS among
    obtain ⟨sample, member, sampled⟩ := exists_of_mem_items each among
    obtain ⟨distanceM, measured, same⟩ := bind_eq_ok.mp sampled
    cases same
    exact ⟨distanceM, measured, apart _ member⟩
  · intro apart
    refine ⟨rfl, fun sample member => ?_⟩
    obtain ⟨timeS, among, sampled⟩ := exists_of_mem_mapM each member
    obtain ⟨distanceM, measured, same⟩ := bind_eq_ok.mp sampled
    cases same
    obtain ⟨other, measured', enough⟩ := apart timeS among
    cases measured.symm.trans measured'
    exact enough

end Predictions

section Times
open PyFloat (lt le ofRat)

variable {F : Type} [Field F] [LinearOrder F] [IsStrictOrderedRing F] [PyMath F] [Exact F]
variable [PyRound F] {durationS : F}

theorem mem_sampleTimes {index : ℕ} (bound : index ≤ sampleCount durationS)
    (nonneg : 0 ≤ durationS) :
    (index * durationS / sampleCount durationS : F) ∈ sampleTimes durationS := by
  have count : (0 : F) < sampleCount durationS := by exact_mod_cast sampleCount_pos durationS
  unfold sampleTimes
  refine List.mem_map.mpr ⟨index, List.mem_range.mpr (Nat.lt_succ_of_le bound), ?_⟩
  have inside : (index * durationS / sampleCount durationS : F) ≤ durationS := by
    rw [div_le_iff₀ count, mul_comm]
    exact mul_le_mul_of_nonneg_left (by exact_mod_cast bound) nonneg
  simp [inside]

variable [ExactRound F]

/-- Neighbouring sampled times are at most a prediction step apart. -/
theorem duration_le_steps (durationS : F) : durationS ≤ 1 / 50 * sampleCount durationS := by
  have steps : PyRound.ceil (PyFloat.div durationS predictionStepS) ≤
      (sampleCount durationS : Int) := by
    unfold sampleCount
    exact (Int.self_le_toNat _).trans (by exact_mod_cast Nat.le_max_right 1 _)
  have value : PyFloat.div durationS predictionStepS = 50 * durationS := by
    rw [Exact.div_eq, predictionStepS, Exact.ofRat_eq]
    push_cast
    ring
  rw [value] at steps
  have cast : (PyRound.ceil (50 * durationS) : F) ≤ (sampleCount durationS : F) := by
    exact_mod_cast steps
  have reached := (ExactRound.le_ceil (50 * durationS)).trans cast
  linarith

/-- Each time of a schedule is within half a prediction step of a sampled one. -/
theorem exists_sampleTime_near [FloorRing F] {timeS : F} (after : 0 ≤ timeS)
    (before : timeS ≤ durationS) :
    ∃ sampleS ∈ sampleTimes durationS, |timeS - sampleS| ≤ 1 / 100 := by
  have count : (0 : F) < sampleCount durationS := by exact_mod_cast sampleCount_pos durationS
  have steps := duration_le_steps durationS
  rcases (after.trans before).eq_or_lt with rfl | positive
  · refine ⟨0, by simpa using mem_sampleTimes (Nat.zero_le _) (le_refl (0 : F)), ?_⟩
    rw [le_antisymm before after]
    norm_num
  · -- The nearest of the sampled times, counted in steps.
    have place : 0 ≤ timeS * sampleCount durationS / durationS := by positivity
    have last : timeS * sampleCount durationS / durationS ≤ sampleCount durationS := by
      rw [div_le_iff₀ positive, mul_comm]
      exact mul_le_mul_of_nonneg_left before count.le
    have same : timeS = timeS * sampleCount durationS / durationS * durationS /
        sampleCount durationS := by
      field_simp
    generalize timeS * sampleCount durationS / durationS = x at place last same
    have near : |x - (⌊x + 1 / 2⌋₊ : F)| ≤ 1 / 2 := by
      have low := Nat.floor_le (a := x + 1 / 2) (by linarith)
      have high := Nat.lt_floor_add_one (x + 1 / 2)
      rw [abs_le]
      constructor <;> linarith
    have within : ⌊x + 1 / 2⌋₊ ≤ sampleCount durationS := by
      apply Nat.le_of_lt_succ
      rw [Nat.floor_lt (by linarith)]
      push_cast
      linarith
    refine ⟨_, mem_sampleTimes within positive.le, ?_⟩
    have step : durationS / sampleCount durationS ≤ 1 / 50 := (div_le_iff₀ count).mpr steps
    calc |timeS - ⌊x + 1 / 2⌋₊ * durationS / sampleCount durationS|
        = |x - (⌊x + 1 / 2⌋₊ : F)| * (durationS / sampleCount durationS) := by
          rw [same, ← abs_of_pos (div_pos positive count), ← abs_mul]
          congr 1
          ring
      _ ≤ 1 / 2 * (1 / 50) := mul_le_mul near step (div_pos positive count).le (by norm_num)
      _ = 1 / 100 := by norm_num

end Times

end ExecutionPrograms

end CrazySwarm
