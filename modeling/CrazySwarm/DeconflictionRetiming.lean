import CrazySwarm.DeconflictionDelays
import CrazySwarm.DeconflictionSeparation
import CrazySwarm.TrajectorySampling

/-! Retimed programs: each trajectory is flown slower by a factor along the same path, and what
comes after it is shifted by the time that it takes longer. -/
namespace CrazySwarm
namespace Deconfliction
open PyFloat (lt le ofRat)
open ExecutionPrograms
open scoped Numerals

/-! ## One axis -/

namespace AxisEnds

variable {ends : AxisEnds} {durationS timeS factor : ℝ}

/-- The knots of a motion that is slower by a factor. -/
noncomputable def slower (factor : ℝ) (ends : AxisEnds) : AxisEnds :=
  { ends with
    velocity := ends.velocity * (1 / factor)
    acceleration := ends.acceleration * (1 / factor ^ 2)
    endVelocity := ends.endVelocity * (1 / factor)
    endAcceleration := ends.endAcceleration * (1 / factor ^ 2) }

theorem positionAt_slower (slow : 0 < factor) (positive : 0 < durationS) :
    (slower factor ends).positionAt (durationS * factor) (factor * timeS) =
      ends.positionAt durationS timeS := by
  simp only [slower, AxisEnds.positionAt, AxisEnds.cubic, AxisEnds.quartic, AxisEnds.quintic,
    AxisEnds.missedPosition, AxisEnds.missedVelocity, AxisEnds.missedAcceleration]
  field_simp

theorem velocityAt_slower (slow : 0 < factor) (positive : 0 < durationS) :
    (slower factor ends).velocityAt (durationS * factor) (factor * timeS) =
      ends.velocityAt durationS timeS * (1 / factor) := by
  simp only [slower, AxisEnds.velocityAt, AxisEnds.cubic, AxisEnds.quartic, AxisEnds.quintic,
    AxisEnds.missedPosition, AxisEnds.missedVelocity, AxisEnds.missedAcceleration]
  field_simp

theorem accelerationAt_slower (slow : 0 < factor) (positive : 0 < durationS) :
    (slower factor ends).accelerationAt (durationS * factor) (factor * timeS) =
      ends.accelerationAt durationS timeS * (1 / factor ^ 2) := by
  simp only [slower, AxisEnds.accelerationAt, AxisEnds.cubic, AxisEnds.quartic, AxisEnds.quintic,
    AxisEnds.missedPosition, AxisEnds.missedVelocity, AxisEnds.missedAcceleration]
  field_simp

end AxisEnds

/-! ## One trajectory -/

section Slowed

variable {factor timeS : ℝ} {a b : TrajectoryPoint ℝ}

/-- A setpoint that is passed slower by a factor. -/
noncomputable def slowed (factor : ℝ) (setpoint : TrajectorySetpoint ℝ) : TrajectorySetpoint ℝ :=
  { setpoint with
    velocityMS := scale setpoint.velocityMS (1 / factor)
    accelerationMS2 := scale setpoint.accelerationMS2 (1 / factor ^ 2)
    yawRateRadS := setpoint.yawRateRadS / factor }

theorem scale_eq (value : Vector3 ℝ) (factor : ℝ) :
    scale value factor = ⟨value.x * factor, value.y * factor, value.z * factor⟩ := rfl

theorem retimedPoint_eq (factor : ℝ) (point : TrajectoryPoint ℝ) :
    retimedPoint factor point =
      { point with
        timeFromStartS := point.timeFromStartS * factor
        velocityMS := scale point.velocityMS (1 / factor)
        accelerationMS2 := scale point.accelerationMS2 (1 / factor ^ 2)
        yawRateRadS := point.yawRateRadS / factor } := by
  simp [retimedPoint]

theorem motionAt_retimed (slow : 0 < factor) (later : a.timeFromStartS < b.timeFromStartS) :
    motionAt (retimedPoint factor a) (retimedPoint factor b) (factor * timeS) =
      slowed factor (motionAt a b timeS) := by
  have positive := sub_pos.mpr later
  have duration : (retimedPoint factor b).timeFromStartS - (retimedPoint factor a).timeFromStartS =
      (b.timeFromStartS - a.timeFromStartS) * factor := by
    simp only [retimedPoint_eq]
    ring
  have x : axisEnds Vector3.x (retimedPoint factor a) (retimedPoint factor b) =
      AxisEnds.slower factor (axisEnds Vector3.x a b) := by
    simp only [retimedPoint_eq, scale_eq, axisEnds, AxisEnds.slower]
  have y : axisEnds Vector3.y (retimedPoint factor a) (retimedPoint factor b) =
      AxisEnds.slower factor (axisEnds Vector3.y a b) := by
    simp only [retimedPoint_eq, scale_eq, axisEnds, AxisEnds.slower]
  have z : axisEnds Vector3.z (retimedPoint factor a) (retimedPoint factor b) =
      AxisEnds.slower factor (axisEnds Vector3.z a b) := by
    simp only [retimedPoint_eq, scale_eq, axisEnds, AxisEnds.slower]
  have yaw : yawEnds (retimedPoint factor a) (retimedPoint factor b) =
      AxisEnds.slower factor (yawEnds a b) := by
    simp [retimedPoint_eq, yawEnds, AxisEnds.slower, div_eq_mul_inv]
  simp only [motionAt, duration, x, y, z, yaw, AxisEnds.positionAt_slower slow positive,
    AxisEnds.velocityAt_slower slow positive, AxisEnds.accelerationAt_slower slow positive, slowed,
    scale_eq, mul_one_div]

theorem clampedTimeS_mul (nonneg : 0 ≤ factor) (durationS elapsedS : ℝ) :
    clampedTimeS (durationS * factor) (factor * elapsedS) =
      factor * clampedTimeS durationS elapsedS := by
  unfold clampedTimeS
  rw [mul_max_of_nonneg _ _ nonneg, mul_min_of_nonneg _ _ nonneg, mul_zero, mul_comm durationS]

theorem sampleTrajectorySegment_retimed (slow : 0 < factor)
    (later : a.timeFromStartS < b.timeFromStartS) :
    sampleTrajectorySegment (retimedPoint factor a) (retimedPoint factor b) (factor * timeS) =
      slowed factor (sampleTrajectorySegment a b timeS) := by
  have duration : (retimedPoint factor b).timeFromStartS - (retimedPoint factor a).timeFromStartS =
      (b.timeFromStartS - a.timeFromStartS) * factor := by
    simp only [retimedPoint_eq]
    ring
  have elapsed : factor * timeS - (retimedPoint factor a).timeFromStartS =
      factor * (timeS - a.timeFromStartS) := by
    simp only [retimedPoint_eq]
    ring
  rw [sampleTrajectorySegment_eq, sampleTrajectorySegment_eq, duration, elapsed,
    clampedTimeS_mul slow.le, motionAt_retimed slow later]

/-- A trajectory with each point retimed. -/
noncomputable def retimedData (factor : ℝ) (data : TrajectoryData ℝ) : TrajectoryData ℝ :=
  { data with points := data.points.map (retimedPoint factor) }

theorem durationS_retimed (factor : ℝ) (data : TrajectoryData ℝ) :
    (retimedData factor data).durationS = data.durationS * factor := by
  unfold TrajectoryData.durationS retimedData
  rw [List.getLast?_map, Option.map_map]
  cases data.points.getLast? <;> simp [retimedPoint_eq]

theorem bisectRight_retimed (slow : 0 < factor) (points : List (TrajectoryPoint ℝ)) (timeS : ℝ) :
    bisectRight (points.map (retimedPoint factor)) (factor * timeS) = bisectRight points timeS := by
  have same (point : TrajectoryPoint ℝ) :
      (!lt (factor * timeS) (retimedPoint factor point).timeFromStartS) =
        !lt timeS point.timeFromStartS := by
    simp only [retimedPoint_eq, real_lt, mul_comm factor, mul_lt_mul_iff_left₀ slow]
  unfold bisectRight
  rw [List.takeWhile_map, List.length_map]
  congr 2
  funext point
  exact same point

/-- A retimed trajectory is at a multiple of the time where the trajectory is at the time. -/
theorem sample_retimed (slow : 0 < factor) {data : TrajectoryData ℝ} (knotted : Knotted data)
    (timeS : ℝ) : (retimedData factor data).sample (factor * timeS) =
      (data.sample timeS).map (slowed factor) := by
  have bounded : max 0 (min (retimedData factor data).durationS (factor * timeS)) =
      factor * max 0 (min data.durationS timeS) := by
    rw [durationS_retimed]
    exact clampedTimeS_mul slow.le _ _
  unfold TrajectoryData.sample
  simp only [Exact.max_eq, Exact.min_eq, Exact.zero_eq, bounded]
  simp only [retimedData, List.length_map, bisectRight_retimed slow, List.getElem?_map]
  generalize max 0 (min data.durationS timeS) = boundedTimeS
  generalize Nat.min _ _ = index
  cases first : data.points[index]? with
  | none => rfl
  | some a =>
    cases second : data.points[index + 1]? with
    | none => rfl
    | some b =>
      have later := knotted.time_lt (Nat.lt_succ_self index) first second
      exact congrArg some (sampleTrajectorySegment_retimed slow later)

end Slowed

/-! ## The contract of a retimed trajectory -/

section Contract

variable {factor : ℝ} {data : TrajectoryData ℝ}

theorem toBool_iff {ε : Type} {result : Except ε Unit} : result.toBool = true ↔ result = .ok () := by
  cases result <;> simp [Except.toBool]

theorem length_scale_le (faster : 1 ≤ factor) (value : Vector3 ℝ) :
    (scale value (1 / factor)).length ≤ value.length := by
  have shrink : (1 / factor) ^ 2 ≤ 1 := by
    apply pow_le_one₀ (by positivity)
    rw [div_le_one (by linarith)]
    exact faster
  have part (a : ℝ) : (a * (1 / factor)) ^ 2 ≤ a ^ 2 := by
    rw [mul_pow]
    exact mul_le_of_le_one_right (sq_nonneg a) shrink
  simp only [Vector3.length, scale_eq, real_sqrt, Exact.plus, Exact.pow_eq]
  exact Real.sqrt_le_sqrt (add_le_add (add_le_add (part _) (part _)) (part _))

theorem isFinite_eq_true (a : ℝ) : isFinite a = true := by
  simp [isFinite]

theorem valid_retimedPoint (slow : 0 < factor) {point : TrajectoryPoint ℝ}
    (valid : point.valid = true) : (retimedPoint factor point).valid = true := by
  simp only [TrajectoryPoint.valid, Vector3.isFinite, isFinite_eq_true, Bool.and_true,
    Bool.and_eq_true, decide_eq_true_eq, Exact.ge_true, Exact.zero_eq, retimedPoint_eq] at valid ⊢
  exact ⟨valid.1, mul_nonneg valid.2 slow.le⟩

theorem segments_retimed (factor : ℝ) (data : TrajectoryData ℝ) :
    (retimedData factor data).segments =
      data.segments.map fun (a, b) => (retimedPoint factor a, retimedPoint factor b) := by
  unfold TrajectoryData.segments retimedData
  rw [← List.map_tail, List.zip_map]
  rfl

/-- A slower copy of a trajectory still meets the contract, although it is not checked again. -/
theorem validate_retimed (faster : 1 ≤ factor) (valid : data.validate = .ok ()) :
    (retimedData factor data).validate = .ok () := by
  have slow : 0 < factor := by linarith
  obtain ⟨_, fields, valid⟩ := bind_eq_ok.mp valid
  have checks := (validated_eq_ok.mp fields).1
  simp only [TrajectoryData.orderedAndContinuous, bind_eq_ok, require_eq_ok, exists_const,
    forM_eq_ok] at valid
  obtain ⟨starts, numbered, increase, sorted, ends, stops⟩ := valid
  refine bind_eq_ok.mpr ⟨(), validated_eq_ok.mpr ⟨?_, rfl⟩, ?_⟩
  · simp only [TrajectoryData.fieldChecks, List.forall_mem_cons, List.not_mem_nil,
      IsEmpty.forall_iff, implies_true, and_true, Bool.and_eq_true, decide_eq_true_eq,
      List.all_eq_true, retimedData, List.length_map, List.forall_mem_map] at checks ⊢
    exact ⟨⟨checks.1.1, fun point among => valid_retimedPoint slow (checks.1.2 point among)⟩,
      checks.2⟩
  · simp only [TrajectoryData.orderedAndContinuous, bind_eq_ok, require_eq_ok, exists_const,
      forM_eq_ok]
    refine ⟨?_, ?_, ?_, sorted, ?_, ?_⟩
    · simp only [retimedData, List.head?_map, Option.all_map]
      cases found : data.points.head? with
      | none => rfl
      | some first =>
        rw [found] at starts
        simpa [retimedPoint_eq] using .inl (by simpa using starts)
    · simpa [retimedData, Function.comp_def, retimedPoint_eq] using numbered
    · simp only [segments_retimed, List.all_map, List.all_eq_true] at increase ⊢
      rintro ⟨a, b⟩ among
      have later := increase (a, b) among
      simpa [retimedPoint_eq, slow] using later
    · simpa [retimedData] using ends
    · intro sequence declared
      obtain ⟨present, stopped⟩ := stops sequence declared
      refine ⟨by simpa [retimedData] using present, ?_⟩
      unfold TrajectoryData.stopSpeedExceeds at stopped ⊢
      simp only [retimedData, List.getElem?_map]
      cases found : data.points[sequence - 1]? with
      | none => simp [found] at stopped
      | some point =>
        simp only [found, real_lt, Bool.not_eq_true', decide_eq_false_iff_not, not_lt] at stopped
        simp only [Option.map_some, real_lt, Bool.not_eq_true', decide_eq_false_iff_not, not_lt,
          retimedPoint_eq]
        exact (length_scale_le faster _).trans stopped

end Contract

/-! ## The operations of a retimed program -/

section Operations

variable {factor addedS : ℝ} {operation retimed : ExecutionOperation ℝ}
variable {operations rest : List (ExecutionOperation ℝ)}

/-- The time by which an operation becomes longer. -/
noncomputable def gainedS (factor : ℝ) (operation : ExecutionOperation ℝ) : ℝ :=
  match operation.kind with
  | .trajectory trajectory =>
    trajectory.durationS * factor - (operation.endsAtS - operation.startsAtS)
  | _ => 0

/-- An operation and what retiming makes of it after a delay: a trajectory is flown slower along
the same path, any other operation is only shifted. -/
structure Retimed (factor addedS : ℝ) (operation retimed : ExecutionOperation ℝ) : Prop where
  sequence : retimed.sequence = operation.sequence
  starts : retimed.startsAtS = operation.startsAtS + addedS
  ends : retimed.endsAtS = operation.endsAtS + (addedS + gainedS factor operation)
  flown : ∀ trajectory, operation.kind = .trajectory trajectory →
    ∃ slower, retimed.kind = .trajectory slower ∧
      slower.durationS = trajectory.durationS * factor ∧
      ∀ timeS, slower.sample (factor * timeS) = (trajectory.sample timeS).map (slowed factor)
  other : operation.trajectory? = none → retimed.kind = operation.kind

def RetimedAll (factor : ℝ) : ℝ → List (ExecutionOperation ℝ) → List (ExecutionOperation ℝ) → Prop
  | _, [], [] => True
  | addedS, operation :: rest, retimed :: others =>
    Retimed factor addedS operation retimed ∧
      RetimedAll factor (addedS + gainedS factor operation) rest others
  | _, _, _ => False

/-- What an operation becomes in the loop. -/
noncomputable def retimedOperation (factor addedS : ℝ) (operation : ExecutionOperation ℝ) :
    ExecutionOperation ℝ :=
  match operation.kind with
  | .trajectory trajectory =>
    { operation with
      kind := .trajectory (trajectory.mapPoints (retimedPoint factor))
      startsAtS := operation.startsAtS + addedS
      endsAtS := operation.endsAtS + (addedS + gainedS factor operation) }
  | _ =>
    { operation with
      startsAtS := operation.startsAtS + addedS
      endsAtS := operation.endsAtS + (addedS + gainedS factor operation) }

theorem retimeOperations_cons (factor addedS : ℝ) (operation : ExecutionOperation ℝ)
    (rest : List (ExecutionOperation ℝ)) :
    retimeOperations factor addedS (operation :: rest) =
      retimedOperation factor addedS operation ::
        retimeOperations factor (addedS + gainedS factor operation) rest := by
  rcases operation with ⟨kind, sequence, startsAtS, endsAtS⟩
  cases kind with
  | trajectory trajectory =>
    have duration : (trajectory.mapPoints (retimedPoint factor)).durationS =
        trajectory.durationS * factor := durationS_retimed factor trajectory.toTrajectoryData
    simp only [retimeOperations, retimedOperation, gainedS, Exact.plus, Exact.minus, duration]
    congr 2
    ring
  | takeoff => simp [retimeOperations, retimedOperation, gainedS, ExecutionOperation.shifted]
  | groundWait => simp [retimeOperations, retimedOperation, gainedS, ExecutionOperation.shifted]
  | hold => simp [retimeOperations, retimedOperation, gainedS, ExecutionOperation.shifted]
  | land => simp [retimeOperations, retimedOperation, gainedS, ExecutionOperation.shifted]

theorem retimed_retimedOperation (slow : 0 < factor) (addedS : ℝ)
    (valid : operation.valid = true) :
    Retimed factor addedS operation (retimedOperation factor addedS operation) := by
  obtain ⟨-, -, -, trajectory⟩ := valid_iff.mp valid
  rcases operation with ⟨kind, sequence, startsAtS, endsAtS⟩
  constructor
  case flown =>
    rintro flown rfl
    refine ⟨_, rfl, durationS_retimed factor flown.toTrajectoryData, ?_⟩
    intro timeS
    have knotted : Knotted flown.toTrajectoryData := by
      apply knotted_of_validate
      exact toBool_iff.mp (trajectory flown rfl).1
    exact sample_retimed slow knotted timeS
  case other =>
    intro still
    cases kind with
    | trajectory => cases still
    | _ => rfl
  all_goals cases kind <;> rfl

theorem retimedOperation_sequence (factor addedS : ℝ) (operation : ExecutionOperation ℝ) :
    (retimedOperation factor addedS operation).sequence = operation.sequence := by
  unfold retimedOperation
  split <;> rfl

theorem retimedOperation_startsAtS (factor addedS : ℝ) (operation : ExecutionOperation ℝ) :
    (retimedOperation factor addedS operation).startsAtS = operation.startsAtS + addedS := by
  unfold retimedOperation
  split <;> rfl

theorem retimedOperation_endsAtS (factor addedS : ℝ) (operation : ExecutionOperation ℝ) :
    (retimedOperation factor addedS operation).endsAtS =
      operation.endsAtS + (addedS + gainedS factor operation) := by
  unfold retimedOperation
  split <;> rfl

/-- A retimed operation of a valid one is valid unless its times are not. -/
theorem valid_retimedOperation (faster : 1 ≤ factor) (valid : operation.valid = true) :
    (retimedOperation factor addedS operation).valid = true ↔
      0 ≤ operation.startsAtS + addedS ∧
        0 < operation.endsAtS + (addedS + gainedS factor operation) := by
  obtain ⟨numbered, -, -, trajectory⟩ := valid_iff.mp valid
  rw [valid_iff, retimedOperation_sequence, retimedOperation_startsAtS, retimedOperation_endsAtS]
  constructor
  · rintro ⟨-, starts, ends, -⟩
    exact ⟨starts, ends⟩
  · rintro ⟨starts, ends⟩
    refine ⟨numbered, starts, ends, ?_⟩
    intro slower kind
    rcases operation with ⟨old, sequence, startsAtS, endsAtS⟩
    cases old with
    | trajectory flown =>
      cases kind
      constructor
      · exact toBool_iff.mpr (validate_retimed faster (toBool_iff.mp (trajectory flown rfl).1))
      · have duration : (flown.mapPoints (retimedPoint factor)).durationS =
            flown.durationS * factor := durationS_retimed factor flown.toTrajectoryData
        have exactly : endsAtS + (addedS + gainedS factor ⟨.trajectory flown, sequence, startsAtS,
            endsAtS⟩) - (startsAtS + addedS) = flown.durationS * factor := by
          simp only [gainedS]
          ring
        rw [duration, exactly]
        exact close_refl _
    | _ => cases kind

/-- The shifted times are still a schedule: nothing begins before zero or ends at it, and what
follows an operation still follows it. -/
def KeepsSchedule (factor : ℝ) : ℝ → List (ExecutionOperation ℝ) → Prop
  | _, [] => True
  | addedS, operation :: rest =>
    0 ≤ operation.startsAtS + addedS ∧
      0 < operation.endsAtS + (addedS + gainedS factor operation) ∧
      (∀ next, rest.head? = some next →
        Close (operation.endsAtS + (addedS + gainedS factor operation))
          (next.startsAtS + (addedS + gainedS factor operation))) ∧
      KeepsSchedule factor (addedS + gainedS factor operation) rest

theorem retimedAll (slow : 0 < factor) (sound : ∀ operation ∈ operations, operation.valid = true)
    (addedS : ℝ) : RetimedAll factor addedS operations (retimeOperations factor addedS operations) := by
  induction operations generalizing addedS with
  | nil => exact trivial
  | cons operation rest ih =>
    rw [List.forall_mem_cons] at sound
    rw [retimeOperations_cons]
    exact ⟨retimed_retimedOperation slow addedS sound.1, ih sound.2 _⟩

theorem sequences_retimed (factor addedS : ℝ) (operations : List (ExecutionOperation ℝ)) :
    (retimeOperations factor addedS operations).map ExecutionOperation.sequence =
      operations.map ExecutionOperation.sequence := by
  induction operations generalizing addedS with
  | nil => rfl
  | cons operation rest ih =>
    rw [retimeOperations_cons, List.map_cons, List.map_cons, ih, retimedOperation_sequence]

theorem keepsSchedule_iff (faster : 1 ≤ factor)
    (sound : ∀ operation ∈ operations, operation.valid = true) (addedS : ℝ) :
    (∀ operation ∈ retimeOperations factor addedS operations, operation.valid = true) ∧
      (retimeOperations factor addedS operations).IsChain Follows ↔
        KeepsSchedule factor addedS operations := by
  induction operations generalizing addedS with
  | nil => simp [retimeOperations, KeepsSchedule]
  | cons operation rest ih =>
    rw [List.forall_mem_cons] at sound
    have later := ih sound.2 (addedS + gainedS factor operation)
    rw [retimeOperations_cons, List.forall_mem_cons, valid_retimedOperation faster sound.1]
    unfold KeepsSchedule
    rw [← later]
    cases rest with
    | nil => simp [retimeOperations]
    | cons next rest =>
      rw [retimeOperations_cons, List.isChain_cons_cons]
      simp only [Follows, retimedOperation_startsAtS, retimedOperation_endsAtS, List.head?_cons,
        Option.some.injEq, forall_eq']
      tauto

/-- Where no trajectory has a longer slot than it needs when it is retimed, nothing gets earlier and
the times stay a schedule. -/
theorem keepsSchedule_of_slots (chained : operations.IsChain Follows)
    (sound : ∀ operation ∈ operations, operation.valid = true)
    (slots : ∀ operation ∈ operations, 0 ≤ gainedS factor operation) (nonneg : 0 ≤ addedS) :
    KeepsSchedule factor addedS operations := by
  induction operations generalizing addedS with
  | nil => exact trivial
  | cons operation rest ih =>
    rw [List.forall_mem_cons] at sound slots
    obtain ⟨-, starts, ends, -⟩ := valid_iff.mp sound.1
    have later : 0 ≤ addedS + gainedS factor operation := add_nonneg nonneg slots.1
    refine ⟨add_nonneg starts nonneg, add_pos_of_pos_of_nonneg ends later, ?_, ?_⟩
    · intro next found
      cases rest with
      | nil => cases found
      | cons first rest =>
        cases found
        obtain ⟨-, begins, -, -⟩ := valid_iff.mp (sound.2 next List.mem_cons_self)
        exact (List.isChain_cons_cons.mp chained).1.add ends.le begins later
    · exact ih chained.of_cons sound.2 slots.2 later

end Operations

/-! ## Every valid program -/

section Programs

variable {factor : ℝ}

/-- A retimed program is a schedule of valid operations, the same ones in the same order: its
trajectories are flown slower along the same paths, and each operation is shifted by exactly the
time gained before it. -/
structure Retimes (factor : ℝ) (program retimed : ExecutionPrograms.AcceptedExecutionProgram ℝ) :
    Prop where
  schedules : Schedules retimed.operations
  sound : ∀ operation ∈ retimed.operations, operation.valid = true
  operations : RetimedAll factor 0 program.operations retimed.operations

end Programs

/-! ## A program that is retimed, and one whose identifier is too long -/

section Flown

/-- An identifier of the greatest length. -/
def longIdentifier : String := String.ofList (List.replicate 96 'p')

noncomputable def longDash : ExecutionPrograms.AcceptedExecutionProgram ℝ where
  toProgramData := { dashData "alpha" 0 1 with programId := longIdentifier }
  valid := by
    have named : isIdentifier longIdentifier = true := by decide +kernel
    have role : isIdentifier "alpha" = true := by decide +kernel
    obtain ⟨fields, coherent⟩ := validate_eq_ok.mp (dashData_valid role 0 1)
    apply validate_eq_ok.mpr
    rw [fieldChecks_iff] at fields ⊢
    exact ⟨⟨named, fields.2⟩, coherent⟩

end Flown

end Deconfliction

end CrazySwarm
