import CrazySwarm.DeconflictionRetiming
import CrazySwarm.TrajectoryContinuity

/-! What a predicted conflict covers: the scan finds the first and the last conflicting time and the
closest one, and three positions of a curve bound it where its turns do not leave their range. -/
namespace CrazySwarm
namespace Deconfliction
open PyFloat (lt le ofRat)
open Set Curves
open ExecutionPrograms
open scoped Numerals

/-! ## The scan -/

section Scan

variable {F : Type} [Field F] [LinearOrder F] [IsStrictOrderedRing F] [PyMath F] [Exact F]
variable {requiredSeparationM : F} {samples : List (F × F)} {sample : F × F}

def tooClose (requiredSeparationM : F) (samples : List (F × F)) : Set F :=
  {timeS | ∃ distanceM, (timeS, distanceM) ∈ samples ∧ distanceM < requiredSeparationM}

omit [PyMath F] [Exact F] in
theorem tooClose_concat : tooClose requiredSeparationM (samples ++ [sample]) =
    if sample.2 < requiredSeparationM then insert sample.1 (tooClose requiredSeparationM samples)
    else tooClose requiredSeparationM samples := by
  obtain ⟨sampleS, distanceM⟩ := sample
  ext timeS
  by_cases close : distanceM < requiredSeparationM
  · simp only [tooClose, List.mem_append, List.mem_singleton, Prod.mk.injEq, mem_ofPred_eq, close,
      if_true, mem_insert_iff]
    grind
  · simp only [tooClose, List.mem_append, List.mem_singleton, Prod.mk.injEq, mem_ofPred_eq, close,
      if_false]
    grind

structure Scanned (requiredSeparationM : F) (samples : List (F × F)) (found : Prediction F) :
    Prop where
  apart : found.conflictStartS = none ∨ found.conflictEndS = none →
    tooClose requiredSeparationM samples = ∅
  start : ∀ startS, found.conflictStartS = some startS →
    IsLeast (tooClose requiredSeparationM samples) startS
  finish : ∀ endS, found.conflictEndS = some endS →
    IsGreatest (tooClose requiredSeparationM samples) endS
  empty : found.minimumSeparationM = none → samples = []
  closest : ∀ minimum, found.minimumSeparationM = some minimum →
    (found.closestApproachS, minimum) ∈ samples ∧ ∀ sample ∈ samples, minimum ≤ sample.2
  head : ∀ first, samples.head? = some first → (∀ sample ∈ samples, first.2 ≤ sample.2) →
    found.closestApproachS = first.1

theorem Scanned.step {found : Prediction F} (scanned : Scanned requiredSeparationM samples found)
    (sample : F × F) :
    Scanned requiredSeparationM (samples ++ [sample]) (found.step requiredSeparationM sample) := by
  obtain ⟨sampleS, distanceM⟩ := sample
  rcases found with ⟨minimum, closestS, start, finish⟩
  constructor
  case apart =>
    by_cases close : distanceM < requiredSeparationM
    · simp [Prediction.step, close]
    · rw [tooClose_concat, if_neg close]
      simpa [Prediction.step, close] using scanned.apart
  case start =>
    by_cases close : distanceM < requiredSeparationM
    · rw [tooClose_concat, if_pos close]
      cases start with
      | none => simp [Prediction.step, close, scanned.apart (.inl rfl), isLeast_singleton]
      | some startS =>
        have least := (scanned.start startS rfl).insert sampleS
        simpa [Prediction.step, close, min_comm] using least
    · rw [tooClose_concat, if_neg close]
      simpa [Prediction.step, close] using scanned.start
  case finish =>
    by_cases close : distanceM < requiredSeparationM
    · rw [tooClose_concat, if_pos close]
      cases finish with
      | none => simp [Prediction.step, close, scanned.apart (.inr rfl), isGreatest_singleton]
      | some endS =>
        have greatest := (scanned.finish endS rfl).insert sampleS
        simpa [Prediction.step, close, max_comm] using greatest
    · rw [tooClose_concat, if_neg close]
      simpa [Prediction.step, close] using scanned.finish
  case empty =>
    cases minimum with
    | none => simp [Prediction.step]
    | some minimum =>
      simp only [Prediction.step]
      split <;> simp
  case closest =>
    cases minimum with
    | none => simp [Prediction.step, scanned.empty rfl]
    | some minimum =>
      obtain ⟨found, least⟩ := scanned.closest minimum rfl
      by_cases closer : distanceM < minimum
      · simp only [Prediction.step, Option.all_some, Exact.lt_true, closer, if_true]
        rintro _ ⟨⟩
        refine ⟨by simp, fun other among => ?_⟩
        rcases List.mem_append.mp among with earlier | last
        · exact closer.le.trans (least other earlier)
        · rw [List.mem_singleton.mp last]
      · simp only [Prediction.step, Option.all_some, Exact.lt_true, closer, if_false]
        rintro _ ⟨⟩
        refine ⟨List.mem_append_left _ found, fun other among => ?_⟩
        rcases List.mem_append.mp among with earlier | last
        · exact least other earlier
        · rw [List.mem_singleton.mp last]
          exact not_lt.mp closer
  case head =>
    intro first isFirst leads
    cases minimum with
    | none =>
      rw [scanned.empty rfl] at isFirst
      cases isFirst
      simp [Prediction.step]
    | some minimum =>
      obtain ⟨found, least⟩ := scanned.closest minimum rfl
      cases samples with
      | nil => cases found
      | cons head rest =>
        cases isFirst
        have later : ¬distanceM < minimum := by
          have enough := leads (sampleS, distanceM) (by simp)
          have within := least first List.mem_cons_self
          exact not_lt.mpr (within.trans enough)
        have kept := scanned.head first rfl fun other among =>
          leads other (List.mem_append_left _ among)
        simpa [Prediction.step, later] using kept

theorem scanned_foldl (samples : List (F × F)) : Scanned requiredSeparationM samples
    (samples.foldl (Prediction.step requiredSeparationM) { closestApproachS := PyFloat.zero }) := by
  induction samples using List.reverseRecOn with
  | nil => constructor <;> simp [tooClose, IsLeast, IsGreatest]
  | append_singleton samples sample ih =>
    rw [List.foldl_append]
    exact ih.step sample

end Scan

/-! ## The interval -/

section Interval

variable {F : Type} [Field F] [LinearOrder F] [IsStrictOrderedRing F] [PyMath F] [Exact F]
variable [PyRound F] {first second : ExecutionPrograms.AcceptedExecutionProgram F}
  {requiredSeparationM : F}

def conflictTimes (first second : ExecutionPrograms.AcceptedExecutionProgram F)
    (requiredSeparationM : F) : Set F :=
  {timeS | timeS ∈ sampleTimes (jointDurationS first second) ∧
    ∃ distanceM, separationAt first second timeS = .ok distanceM ∧ distanceM < requiredSeparationM}

theorem exists_samples {predicted : Prediction F}
    (ok : prediction first second requiredSeparationM = .ok predicted) :
    ∃ samples, Scanned requiredSeparationM samples predicted ∧
      samples.map Prod.fst = sampleTimes (jointDurationS first second) ∧
      ∀ timeS distanceM, (timeS, distanceM) ∈ samples →
        separationAt first second timeS = .ok distanceM := by
  obtain ⟨samples, each, result⟩ := bind_eq_ok.mp ok
  cases result
  have measured := mapM_eq_ok each
  refine ⟨samples, scanned_foldl samples, ?_, ?_⟩
  · clear each ok
    generalize sampleTimes (jointDurationS first second) = times at measured ⊢
    induction measured with
    | nil => rfl
    | cons sampled _ ih =>
      obtain ⟨distanceM, -, same⟩ := bind_eq_ok.mp sampled
      cases same
      rw [List.map_cons, ih]
  · intro timeS distanceM member
    obtain ⟨sampleS, -, sampled⟩ := exists_of_mem_mapM each member
    obtain ⟨other, separated, same⟩ := bind_eq_ok.mp sampled
    cases same
    exact separated

omit [Field F] [IsStrictOrderedRing F] [Exact F] in
theorem tooClose_eq (requiredSeparationM : F) {samples : List (F × F)}
    (times : samples.map Prod.fst = sampleTimes (jointDurationS first second))
    (measured : ∀ timeS distanceM, (timeS, distanceM) ∈ samples →
      separationAt first second timeS = .ok distanceM) :
    tooClose requiredSeparationM samples = conflictTimes first second requiredSeparationM := by
  ext timeS
  simp only [tooClose, conflictTimes, mem_ofPred_eq, ← times, List.mem_map]
  constructor
  · rintro ⟨distanceM, member, close⟩
    exact ⟨⟨_, member, rfl⟩, distanceM, measured _ _ member, close⟩
  · rintro ⟨⟨⟨_, other⟩, member, rfl⟩, distanceM, separated, close⟩
    cases separated.symm.trans (measured _ _ member)
    exact ⟨other, member, close⟩

/-- The conflict does not begin at time zero, or nothing is closer than it is there. -/
def StartSeen (first second : ExecutionPrograms.AcceptedExecutionProgram F)
    (requiredSeparationM : F) : Prop :=
  0 ∈ conflictTimes first second requiredSeparationM →
    ∀ timeS ∈ sampleTimes (jointDurationS first second), ∀ atZeroM distanceM,
      separationAt first second 0 = .ok atZeroM → separationAt first second timeS = .ok distanceM →
      atZeroM ≤ distanceM

/-- The end of a window that is reserved for a conflict between two times. -/
def windowEnd (startS endS : F) : F := if endS ≤ startS then startS + 1 / 50 else endS

omit [PyRound F] in
theorem duration_pos (first second : ExecutionPrograms.AcceptedExecutionProgram F) :
    0 < jointDurationS first second := by
  obtain ⟨fields, -⟩ := validate_eq_ok.mp first.valid
  obtain ⟨-, -, -, positive, -⟩ := fieldChecks_iff.mp fields
  unfold jointDurationS
  rw [Exact.max_eq]
  exact lt_max_of_lt_left positive

theorem sampleTimes_nonneg {durationS timeS : F} (nonneg : 0 ≤ durationS)
    (among : timeS ∈ sampleTimes durationS) : 0 ≤ timeS := by
  obtain ⟨index, -, rfl⟩ := List.mem_map.mp among
  have count : (0 : F) < sampleCount durationS := by exact_mod_cast sampleCount_pos durationS
  simp only [Exact.min_eq, Exact.over_eq, Exact.times, Exact.ofRat_cast]
  push_cast
  exact le_min nonneg (by positivity)

theorem head_sampleTimes {durationS : F} (nonneg : 0 ≤ durationS) :
    (sampleTimes durationS).head? = some 0 := by
  unfold sampleTimes
  rw [List.range_succ_eq_map]
  simp [nonneg]

section Contract

variable {roleIds : String × String} {warningSeparationM uncertaintyM : F}
variable {predicted : Prediction F} {contract : PredictedConflict F}

omit [PyRound F] in
theorem conflictContract_times (ok : conflictContract roleIds first second predicted
      warningSeparationM requiredSeparationM uncertaintyM = .ok contract) :
    contract.startsAtS = valueOr predicted.conflictStartS predicted.closestApproachS ∧
      contract.endsAtS = windowEnd contract.startsAtS
        (valueOr predicted.conflictEndS (contract.startsAtS + 1 / 50)) ∧
      tube first contract.startsAtS contract.endsAtS uncertaintyM = .ok contract.tubes.1 ∧
      tube second contract.startsAtS contract.endsAtS uncertaintyM = .ok contract.tubes.2 ∧
      contract.requiredSeparationM = requiredSeparationM := by
  obtain ⟨firstTube, ofFirst, ok⟩ := bind_eq_ok.mp ok
  obtain ⟨secondTube, ofSecond, ok⟩ := bind_eq_ok.mp ok
  cases ok
  refine ⟨rfl, ?_, ofFirst, ofSecond, rfl⟩
  simp only [windowEnd, Exact.le_true, Exact.plus, predictionStepS, Exact.ofRat_cast]
  norm_num

theorem exists_conflict
    (predictedOk : prediction first second requiredSeparationM = .ok predicted)
    (conflict : predicted.separates requiredSeparationM = false) :
    ∃ startS endS, predicted.conflictStartS = some startS ∧ predicted.conflictEndS = some endS ∧
      IsLeast (conflictTimes first second requiredSeparationM) startS ∧
      IsGreatest (conflictTimes first second requiredSeparationM) endS ∧ 0 ≤ startS ∧
      0 ≤ predicted.closestApproachS ∧
      (StartSeen first second requiredSeparationM ↔
        (startS = 0 → predicted.closestApproachS = 0)) := by
  obtain ⟨samples, scanned, times, measured⟩ := exists_samples predictedOk
  have same := tooClose_eq requiredSeparationM times measured
  have nonneg (timeS distanceM : F) (among : (timeS, distanceM) ∈ samples) : 0 ≤ timeS := by
    apply sampleTimes_nonneg (duration_pos first second).le
    rw [← times]
    exact List.mem_map_of_mem among
  have below : ∃ minimum, predicted.minimumSeparationM = some minimum ∧
      minimum < requiredSeparationM := by
    unfold Prediction.separates at conflict
    cases found : predicted.minimumSeparationM with
    | none => simp [found] at conflict
    | some minimum => exact ⟨minimum, rfl, by simpa [found] using conflict⟩
  obtain ⟨minimum, isMinimum, close⟩ := below
  obtain ⟨found, least⟩ := scanned.closest minimum isMinimum
  have nonempty : tooClose requiredSeparationM samples ≠ ∅ := by
    apply nonempty_iff_ne_empty.mp
    exact ⟨_, minimum, found, close⟩
  obtain ⟨startS, starts⟩ : ∃ startS, predicted.conflictStartS = some startS := by
    apply Option.ne_none_iff_exists'.mp
    exact fun none => nonempty (scanned.apart (.inl none))
  obtain ⟨endS, ends⟩ : ∃ endS, predicted.conflictEndS = some endS := by
    apply Option.ne_none_iff_exists'.mp
    exact fun none => nonempty (scanned.apart (.inr none))
  have isLeast := scanned.start startS starts
  have isGreatest := scanned.finish endS ends
  obtain ⟨distanceM, member, -⟩ := isLeast.1
  have startNonneg := nonneg _ _ member
  rw [same] at isLeast isGreatest
  refine ⟨startS, endS, starts, ends, isLeast, isGreatest, startNonneg, nonneg _ _ found, ?_, ?_⟩
  · intro seen atStart
    rw [atStart] at isLeast
    obtain ⟨first, rest, list⟩ : ∃ first rest, samples = first :: rest :=
      List.exists_cons_of_ne_nil (List.ne_nil_of_mem member)
    have head : first.1 = 0 := by
      have heads := congrArg List.head? times
      rw [list, head_sampleTimes (duration_pos _ _).le] at heads
      simpa using heads
    rw [scanned.head first (by rw [list]; rfl), head]
    rintro ⟨timeS, otherM⟩ among
    apply seen isLeast.1 timeS _ first.2 otherM
    · apply measured
      rw [← head, list]
      exact List.mem_cons_self
    · exact measured _ _ among
    · rw [← times]
      exact List.mem_map_of_mem among
  · intro closest atZero timeS among atZeroM distanceM zeroOk otherOk
    have start : startS = 0 := le_antisymm (isLeast.2 atZero) startNonneg
    rw [closest start] at found
    cases zeroOk.symm.trans (measured _ _ found)
    rw [← times] at among
    obtain ⟨⟨_, other⟩, listed, rfl⟩ := List.mem_map.mp among
    cases otherOk.symm.trans (measured _ _ listed)
    exact least _ listed

theorem contract_interval
    (predictedOk : prediction first second requiredSeparationM = .ok predicted)
    (conflict : predicted.separates requiredSeparationM = false)
    (ok : conflictContract roleIds first second predicted warningSeparationM requiredSeparationM
      uncertaintyM = .ok contract) :
    ∃ startS endS, IsLeast (conflictTimes first second requiredSeparationM) startS ∧
      IsGreatest (conflictTimes first second requiredSeparationM) endS ∧
      (StartSeen first second requiredSeparationM →
        contract.startsAtS = startS ∧ contract.endsAtS = windowEnd startS endS) ∧
      ((∀ timeS ∈ conflictTimes first second requiredSeparationM,
        timeS ∈ Icc contract.startsAtS contract.endsAtS) ↔
          StartSeen first second requiredSeparationM) := by
  obtain ⟨startS, endS, starts, ends, isLeast, isGreatest, nonneg, closestNonneg, seen⟩ :=
    exists_conflict predictedOk conflict
  obtain ⟨starting, ending, -, -, -⟩ := conflictContract_times ok
  have ordered : startS ≤ endS := isLeast.2 isGreatest.1
  have whole (start : startS = 0 → predicted.closestApproachS = 0) :
      contract.startsAtS = startS ∧ contract.endsAtS = windowEnd startS endS := by
    have begun : contract.startsAtS = startS := by
      rw [starting, starts, valueOr]
      by_cases zero : startS = 0
      · simp [zero, start zero, Exact.eq_eq]
      · simp [zero, Exact.eq_eq]
    refine ⟨begun, ?_⟩
    rw [ending, begun, ends, valueOr]
    by_cases zero : endS = 0
    · have both : startS = 0 := le_antisymm (zero ▸ ordered) nonneg
      simp [zero, both, windowEnd, Exact.eq_eq]
    · simp [zero, Exact.eq_eq]
  refine ⟨startS, endS, isLeast, isGreatest, fun covered => whole (seen.mp covered), ?_, ?_⟩
  · intro covers
    apply seen.mpr
    intro zero
    have first := (covers startS isLeast.1).1
    rw [starting, starts, valueOr, zero] at first
    simp only [Exact.eq_eq, Exact.zero_eq, decide_true, if_true] at first
    exact le_antisymm first closestNonneg
  · intro covered timeS among
    obtain ⟨begun, ended⟩ := whole (seen.mp covered)
    rw [begun, ended]
    refine ⟨isLeast.2 among, (isGreatest.2 among).trans ?_⟩
    unfold windowEnd
    split
    · next narrow =>
      exact narrow.trans (le_add_of_nonneg_right (by norm_num))
    · exact le_rfl

end Contract

end Interval

/-! ## The tubes -/

section Tubes

variable {program : ExecutionPrograms.AcceptedExecutionProgram ℝ} {operation : TrajectoryOperation ℝ}

theorem knotted_of_first (sound : ∀ operation ∈ program.operations, operation.valid = true)
    (found : firstTrajectory program = .ok operation) :
    Knotted operation.trajectory.toTrajectoryData := by
  have member : operation ∈ trajectoryOperations program := by
    unfold firstTrajectory at found
    split at found
    · next first rest operations =>
      cases found
      rw [operations]
      exact List.mem_cons_self
    · cases found
  obtain ⟨original, among, flown⟩ := List.mem_filterMap.mp member
  have kind : original.kind = .trajectory operation.trajectory := by
    unfold ExecutionOperation.trajectory? at flown
    split at flown
    · next kind =>
      cases flown
      exact kind
    · cases flown
  obtain ⟨-, -, -, trajectory⟩ := valid_iff.mp (sound original among)
  exact knotted_of_validate (toBool_iff.mp (trajectory _ kind).1)

/-- The vehicle of a program rests at the first point, flies the trajectory and rests at the last
point. -/
theorem passes_of_program (knotted : Knotted operation.trajectory.toTrajectoryData)
    {positionAt : ℝ → Vector3 ℝ} (placed : ∀ timeS, operation.position timeS = .ok (positionAt timeS))
    {setpoint : ℝ → TrajectorySetpoint ℝ}
    (sampled : ∀ timeS, operation.trajectory.sample timeS = some (setpoint timeS))
    {axis : Vector3 ℝ → ℝ} (ofAxis : axis ∈ axes) :
    Passes (fun timeS => axis (positionAt timeS)) (fun timeS => axis (setpoint timeS).positionM)
      (fun timeS => axis (setpoint timeS).velocityMS) operation.startsAtS operation.endsAtS
      operation.trajectory.durationS := by
  obtain ⟨last, ofLast, duration⟩ := knotted.exists_last
  have two := knotted.two
  have nonempty : 0 < operation.trajectory.points.length := by omega
  have ofFirst : operation.trajectory.points[0]? = some operation.trajectory.points[0] :=
    List.getElem?_eq_getElem nonempty
  have start := knotted.start _ ofFirst
  have atStart : setpoint 0 = operation.trajectory.points[0].setpoint := by
    have knot := knotted.sample_knot (List.mem_of_getElem? ofFirst)
    rw [start] at knot
    exact Option.some.inj ((sampled 0).symm.trans knot)
  have atEnd : setpoint operation.trajectory.durationS = last.setpoint := by
    have knot := knotted.sample_knot (List.mem_of_getElem? ofLast)
    rw [← duration] at knot
    exact Option.some.inj ((sampled _).symm.trans knot)
  constructor
  case positive =>
    rw [duration, ← start]
    exact knotted.time_lt (by omega) ofFirst ofLast
  case derives => exact (knotted.smooth sampled).velocity axis ofAxis
  case rests =>
    intro timeS late
    have same : operation.trajectory.sample timeS =
        operation.trajectory.sample operation.trajectory.durationS := by
      unfold TrajectoryData.sample
      simp only [Exact.min_eq, min_eq_left late, min_self]
    rw [sampled, sampled] at same
    simp only [Option.some.inj same]
  case before =>
    intro timeS early
    have here := placed timeS
    unfold TrajectoryOperation.position at here
    rw [if_pos (by simpa using early), List.head?_eq_getElem?, ofFirst] at here
    rw [← Except.ok.inj here, atStart]
    rfl
  case during =>
    intro timeS begun early
    have here := placed timeS
    unfold TrajectoryOperation.position at here
    rw [if_neg (by simpa using begun), if_neg (by simpa using early), Exact.minus, sampled] at here
    rw [← Except.ok.inj here]
  case after =>
    intro timeS begun late
    have here := placed timeS
    unfold TrajectoryOperation.position at here
    rw [if_neg (by simpa using begun), if_pos (by simpa using late), List.getLast?_eq_getElem?,
      ofLast] at here
    rw [← Except.ok.inj here, atEnd]
    rfl

def TrajectoryTubeReservation.Holds (tube : TrajectoryTubeReservation ℝ) (positionM : Vector3 ℝ) :
    Prop :=
  ∀ axis ∈ axes, axis positionM ∈ Icc (axis tube.minimumM) (axis tube.maximumM)

def rangeOf (first middle last marginM : ℝ) : Set ℝ :=
  Icc (min (min first middle) last - marginM) (max (max first middle) last + marginM)

theorem rangeOf_first (first middle last : ℝ) {marginM : ℝ} (nonneg : 0 ≤ marginM) :
    first ∈ rangeOf first middle last marginM := by
  have low := (min_le_left (min first middle) last).trans (min_le_left first middle)
  have high := (le_max_left first middle).trans (le_max_left (max first middle) last)
  constructor <;> linarith

theorem rangeOf_last (first middle last : ℝ) {marginM : ℝ} (nonneg : 0 ≤ marginM) :
    last ∈ rangeOf first middle last marginM := by
  have low := min_le_right (min first middle) last
  have high := le_max_right (max first middle) last
  constructor <;> linarith

theorem tube_eq_ok {startS endS marginM : ℝ} {reserved : TrajectoryTubeReservation ℝ}
    (ok : tube program startS endS marginM = .ok reserved) :
    startS < endS ∧ ∃ first middle last, programPosition program startS = .ok first ∧
      programPosition program ((startS + endS) / 2) = .ok middle ∧
      programPosition program endS = .ok last ∧
      ∀ axis ∈ axes, Icc (axis reserved.minimumM) (axis reserved.maximumM) =
        rangeOf (axis first) (axis middle) (axis last) marginM := by
  obtain ⟨first, ofFirst, ok⟩ := bind_eq_ok.mp ok
  obtain ⟨middle, ofMiddle, ok⟩ := bind_eq_ok.mp ok
  obtain ⟨last, ofLast, ok⟩ := bind_eq_ok.mp ok
  obtain ⟨_, ordered, ok⟩ := bind_eq_ok.mp ok
  obtain ⟨_, -, ok⟩ := bind_eq_ok.mp ok
  cases ok
  refine ⟨by simpa using ordered, first, middle, last, ofFirst, by simpa using ofMiddle, ofLast, ?_⟩
  intro axis ofAxis
  simp only [axes, List.mem_cons, List.not_mem_nil, or_false] at ofAxis
  rcases ofAxis with rfl | rfl | rfl <;>
    simp only [rangeOf, Exact.min_eq, Exact.max_eq, Exact.plus, Exact.minus]

/-- The bounds of a tube are never reversed. -/
theorem exists_tube (program : ExecutionPrograms.AcceptedExecutionProgram ℝ)
    {startS endS marginM : ℝ} (ordered : startS < endS) (nonneg : 0 ≤ marginM)
    (found : firstTrajectory program = .ok operation) :
    ∃ reserved, tube program startS endS marginM = .ok reserved := by
  have placed (timeS : ℝ) : ∃ positionM, programPosition program timeS = .ok positionM := by
    unfold programPosition
    rw [found]
    exact operation.exists_position timeS
  obtain ⟨first, ofFirst⟩ := placed startS
  obtain ⟨middle, ofMiddle⟩ := placed ((startS + endS) / 2)
  obtain ⟨last, ofLast⟩ := placed endS
  have bounds (axis : Vector3 ℝ → ℝ) :
      min (min (axis first) (axis middle)) (axis last) - marginM ≤
        max (max (axis first) (axis middle)) (axis last) + marginM := by
    obtain ⟨low, high⟩ := rangeOf_first (axis first) (axis middle) (axis last) nonneg
    exact low.trans high
  have ofMiddle' : programPosition program
      (PyFloat.div (PyFloat.add startS endS) (ofRat 2)) = .ok middle := by
    simpa using ofMiddle
  unfold tube
  refine ⟨_, bind_eq_ok.mpr ⟨first, ofFirst, bind_eq_ok.mpr ⟨middle, ofMiddle',
    bind_eq_ok.mpr ⟨last, ofLast, bind_eq_ok.mpr ⟨(), ?_, bind_eq_ok.mpr ⟨(), ?_, rfl⟩⟩⟩⟩⟩⟩
  · simpa using ordered
  · simp only [require_eq_ok, Bool.and_eq_true, Exact.le_true, Exact.min_eq, Exact.max_eq,
      Exact.plus, Exact.minus]
    exact ⟨⟨bounds Vector3.x, bounds Vector3.y⟩, bounds Vector3.z⟩

/-- Wherever the velocity of an axis vanishes between two times, and where the trajectory is left,
the trajectory is near the range of the program's positions at the two times and between them. -/
def TurnsNear (program : ExecutionPrograms.AcceptedExecutionProgram ℝ) (startS endS marginM : ℝ) : Prop :=
  ∀ operation first middle last, firstTrajectory program = .ok operation →
    programPosition program startS = .ok first →
    programPosition program ((startS + endS) / 2) = .ok middle →
    programPosition program endS = .ok last →
    ∀ axis ∈ axes, ∀ timeS ∈ Ioc startS endS, operation.startsAtS < timeS →
      timeS ≤ operation.endsAtS →
      ∀ setpoint, operation.trajectory.sample (timeS - operation.startsAtS) = some setpoint →
        axis setpoint.velocityMS = 0 ∨ timeS = operation.endsAtS →
        axis setpoint.positionM ∈ rangeOf (axis first) (axis middle) (axis last) marginM

theorem tube_holds_iff (sound : ∀ operation ∈ program.operations, operation.valid = true)
    {startS endS marginM : ℝ} (nonneg : 0 ≤ marginM) {reserved : TrajectoryTubeReservation ℝ}
    (ok : tube program startS endS marginM = .ok reserved) :
    (∀ timeS ∈ Icc startS endS, ∃ positionM, programPosition program timeS = .ok positionM ∧
        reserved.Holds positionM) ↔ TurnsNear program startS endS marginM := by
  obtain ⟨ordered, first, middle, last, ofFirst, ofMiddle, ofLast, bounds⟩ := tube_eq_ok ok
  obtain ⟨operation, found, -⟩ := bind_eq_ok.mp ofFirst
  have located (timeS : ℝ) : programPosition program timeS = operation.position timeS := by
    unfold programPosition
    rw [found]
    rfl
  have knotted := knotted_of_first sound found
  choose positionAt placed using operation.exists_position
  choose setpoint sampled using operation.trajectory.exists_sample
  have atStart : positionAt startS = first := by
    rw [located, placed] at ofFirst
    exact Except.ok.inj ofFirst
  have atEnd : positionAt endS = last := by
    rw [located, placed] at ofLast
    exact Except.ok.inj ofLast
  have along (axis : Vector3 ℝ → ℝ) (ofAxis : axis ∈ axes) :=
    (passes_of_program knotted placed sampled ofAxis).stays_iff
      (min (min (axis first) (axis middle)) (axis last) - marginM)
      (max (max (axis first) (axis middle)) (axis last) + marginM) startS endS
      (by rw [atStart]; exact rangeOf_first _ _ _ nonneg)
      (by rw [atEnd]; exact rangeOf_last _ _ _ nonneg)
  constructor
  · intro holds operation' first' middle' last' found' ofFirst' ofMiddle' ofLast'
    cases found.symm.trans found'
    cases ofFirst.symm.trans ofFirst'
    cases ofMiddle.symm.trans ofMiddle'
    cases ofLast.symm.trans ofLast'
    intro axis ofAxis timeS among begun left state atTime turning
    cases (sampled _).symm.trans atTime
    refine (along axis ofAxis).mp ?_ timeS among begun left turning
    intro timeS inside
    obtain ⟨positionM, here, within⟩ := holds timeS inside
    rw [located, placed] at here
    cases here
    have between := within axis ofAxis
    rw [bounds axis ofAxis] at between
    exact between
  · intro turns timeS inside
    refine ⟨positionAt timeS, by rw [located, placed], fun axis ofAxis => ?_⟩
    rw [bounds axis ofAxis]
    refine (along axis ofAxis).mpr ?_ timeS inside
    intro timeS among begun left turning
    exact turns operation first middle last found ofFirst ofMiddle ofLast axis ofAxis timeS among
      begun left _ (sampled _) turning

end Tubes

/-! ## The contract of a conflict -/

section Covers

variable {first second : ExecutionPrograms.AcceptedExecutionProgram ℝ}
  {requiredSeparationM warningSeparationM : ℝ}
variable {roleIds : String × String} {predicted : Prediction ℝ} {contract : PredictedConflict ℝ}

structure Covers (first second : ExecutionPrograms.AcceptedExecutionProgram ℝ) (contract : PredictedConflict ℝ) :
    Prop where
  times : ∀ timeS ∈ conflictTimes first second contract.requiredSeparationM,
    timeS ∈ Icc contract.startsAtS contract.endsAtS
  first : ∀ timeS ∈ Icc contract.startsAtS contract.endsAtS,
    ∃ positionM, programPosition first timeS = .ok positionM ∧ contract.tubes.1.Holds positionM
  second : ∀ timeS ∈ Icc contract.startsAtS contract.endsAtS,
    ∃ positionM, programPosition second timeS = .ok positionM ∧ contract.tubes.2.Holds positionM

/-- The contract of a predicted conflict covers it exactly when a conflict at time zero is also the
closest one, and no trajectory turns away from its three positions during the conflict. -/
theorem contract_covers_iff (soundFirst : ∀ operation ∈ first.operations, operation.valid = true)
    (soundSecond : ∀ operation ∈ second.operations, operation.valid = true)
    (predictedOk : prediction first second requiredSeparationM = .ok predicted)
    (conflict : predicted.separates requiredSeparationM = false)
    (ok : conflictContract roleIds first second predicted warningSeparationM requiredSeparationM
      defaultPositionUncertaintyM = .ok contract) :
    Covers first second contract ↔
      StartSeen first second requiredSeparationM ∧
        ∀ startS endS, IsLeast (conflictTimes first second requiredSeparationM) startS →
          IsGreatest (conflictTimes first second requiredSeparationM) endS →
          TurnsNear first startS (windowEnd startS endS) (1 / 20) ∧
            TurnsNear second startS (windowEnd startS endS) (1 / 20) := by
  obtain ⟨startS, endS, isLeast, isGreatest, whole, seen⟩ := contract_interval predictedOk conflict ok
  obtain ⟨-, -, firstTube, secondTube, required⟩ := conflictContract_times ok
  have margin : (defaultPositionUncertaintyM : ℝ) = 1 / 20 := by
    simp only [defaultPositionUncertaintyM, Exact.ofRat_cast]
    norm_num
  rw [margin] at firstTube secondTube
  have ofFirst := tube_holds_iff soundFirst (by norm_num) firstTube
  have ofSecond := tube_holds_iff soundSecond (by norm_num) secondTube
  constructor
  · intro covers
    have covered := seen.mp (required ▸ covers.times)
    obtain ⟨begun, ended⟩ := whole covered
    refine ⟨covered, fun startS' endS' isLeast' isGreatest' => ?_⟩
    rw [isLeast'.unique isLeast, isGreatest'.unique isGreatest, ← ended, ← begun]
    exact ⟨ofFirst.mp covers.first, ofSecond.mp covers.second⟩
  · rintro ⟨covered, turns⟩
    obtain ⟨begun, ended⟩ := whole covered
    have near := turns startS endS isLeast isGreatest
    rw [← ended, ← begun] at near
    constructor
    · rw [required]
      exact seen.mpr covered
    · exact ofFirst.mpr near.1
    · exact ofSecond.mpr near.2

end Covers

/-! ## A conflict that begins at time zero -/

noncomputable section Approach

theorem isIdentifier_cross_south : isIdentifier "cross_south" = true := by decide

/-- A program that dashes along the x axis, near the one that rests at the origin. -/
def nearby (fromX toX : ℝ) : ExecutionPrograms.AcceptedExecutionProgram ℝ :=
  dashProgram "cross_south" isIdentifier_cross_south fromX toX

theorem nearby_sampled (fromX toX : ℝ) :
    sampleTimes (jointDurationS (nearby fromX toX) resting) = [0, 1 / 50] ∧
      separationAt (nearby fromX toX) resting 0 = .ok |fromX| ∧
      separationAt (nearby fromX toX) resting (1 / 50) = .ok |toX| := by
  refine ⟨dash_sampleTimes, ?_, ?_⟩
  · rw [separationAt_eq_ok]
    exact ⟨_, _, dash_position.1, dash_position.1, by
      simp [ExecutionPrograms.distance, Real.sqrt_sq_eq_abs]⟩
  · rw [separationAt_eq_ok]
    exact ⟨_, _, dash_position.2, dash_position.2, by
      simp [ExecutionPrograms.distance, Real.sqrt_sq_eq_abs]⟩

theorem nearby_sound (fromX toX : ℝ) :
    ∀ operation ∈ (nearby fromX toX).operations, operation.valid = true := by
  intro operation member
  rw [List.mem_singleton.mp member]
  exact dash_operation_valid ..

theorem resting_sound : ∀ operation ∈ resting.operations, operation.valid = true := by
  intro operation member
  rw [List.mem_singleton.mp member]
  exact dash_operation_valid ..

/-- A pair that is too close at time zero has a contract. -/
theorem nearby_contract (fromX toX : ℝ) (close : |fromX| < 11 / 20) :
    ∃ predicted contract, prediction (nearby fromX toX) resting (11 / 20) = .ok predicted ∧
      predicted.separates (11 / 20) = false ∧
      conflictContract ("cross_south", "cross_west") (nearby fromX toX) resting predicted (1 / 2)
        (11 / 20) defaultPositionUncertaintyM = .ok contract := by
  obtain ⟨times, atZero, atEnd⟩ := nearby_sampled fromX toX
  have sampled : ∃ predicted, prediction (nearby fromX toX) resting (11 / 20) = .ok predicted := by
    unfold prediction
    rw [times]
    simp only [List.mapM_cons, List.mapM_nil, atZero, atEnd]
    exact ⟨_, rfl⟩
  obtain ⟨predicted, predictedOk⟩ := sampled
  have conflict : predicted.separates (11 / 20) = false := by
    rw [Bool.eq_false_iff]
    intro separates
    obtain ⟨distanceM, measured, enough⟩ :=
      (separates_iff predictedOk).mp separates 0 (by rw [times]; simp)
    cases measured.symm.trans atZero
    exact absurd close (not_lt.mpr enough)
  have later (startS reached : ℝ) : startS < windowEnd startS reached := by
    unfold windowEnd
    split
    · linarith
    · next past => exact not_le.mp past
  have ends (startS reached : ℝ) :
      (if le reached startS = true then PyFloat.add startS predictionStepS else reached) =
        windowEnd startS reached := by
    simp only [windowEnd, Exact.le_true, Exact.add_eq, predictionStepS, Exact.ofRat_cast]
    norm_num
  have margin : (0 : ℝ) ≤ defaultPositionUncertaintyM := by
    simp only [defaultPositionUncertaintyM, Exact.ofRat_cast]
    norm_num
  have window := later (valueOr predicted.conflictStartS predicted.closestApproachS)
    (valueOr predicted.conflictEndS (PyFloat.add
      (valueOr predicted.conflictStartS predicted.closestApproachS) predictionStepS))
  obtain ⟨firstTube, ofFirst⟩ := exists_tube (nearby fromX toX) window margin rfl
  obtain ⟨secondTube, ofSecond⟩ := exists_tube resting window margin rfl
  rw [← ends] at ofFirst ofSecond
  have built : ∃ contract, conflictContract ("cross_south", "cross_west") (nearby fromX toX) resting
      predicted (1 / 2) (11 / 20) defaultPositionUncertaintyM = .ok contract := by
    unfold conflictContract
    exact ⟨_, bind_eq_ok.mpr ⟨firstTube, ofFirst, bind_eq_ok.mpr ⟨secondTube, ofSecond, rfl⟩⟩⟩
  obtain ⟨contract, ok⟩ := built
  exact ⟨predicted, contract, predictedOk, conflict, ok⟩

/-- A pair that is parked too close. -/
theorem contract_covers_iff_parked : ∃ predicted contract,
    prediction (nearby (1 / 4) (1 / 4)) resting (11 / 20) = .ok predicted ∧
      predicted.separates (11 / 20) = false ∧
      conflictContract ("cross_south", "cross_west") (nearby (1 / 4) (1 / 4)) resting predicted
        (1 / 2) (11 / 20) defaultPositionUncertaintyM = .ok contract ∧
      (Covers (nearby (1 / 4) (1 / 4)) resting contract ↔
        StartSeen (nearby (1 / 4) (1 / 4)) resting (11 / 20) ∧
          ∀ startS endS, IsLeast (conflictTimes (nearby (1 / 4) (1 / 4)) resting (11 / 20)) startS →
            IsGreatest (conflictTimes (nearby (1 / 4) (1 / 4)) resting (11 / 20)) endS →
            TurnsNear (nearby (1 / 4) (1 / 4)) startS (windowEnd startS endS) (1 / 20) ∧
              TurnsNear resting startS (windowEnd startS endS) (1 / 20)) := by
  have close : |(1 / 4 : ℝ)| < 11 / 20 := by
    rw [abs_of_pos] <;> norm_num
  obtain ⟨predicted, contract, predictedOk, conflict, ok⟩ := nearby_contract (1 / 4) (1 / 4) close
  exact ⟨predicted, contract, predictedOk, conflict, ok,
    contract_covers_iff (nearby_sound _ _) resting_sound predictedOk conflict ok⟩

/-- A pair that is too close at time zero and closest later: the contract begins at the closest
approach and leaves out time zero. -/
theorem conflict_at_zero_left_out : ∃ predicted contract,
    (∀ program ∈ [nearby (1 / 4) 0, resting], ∀ operation ∈ program.operations,
      operation.valid = true) ∧
      prediction (nearby (1 / 4) 0) resting (11 / 20) = .ok predicted ∧
      predicted.separates (11 / 20) = false ∧
      conflictContract ("cross_south", "cross_west") (nearby (1 / 4) 0) resting predicted (1 / 2)
        (11 / 20) defaultPositionUncertaintyM = .ok contract ∧
      ¬Covers (nearby (1 / 4) 0) resting contract := by
  have quarter : |(1 / 4 : ℝ)| = 1 / 4 := abs_of_pos (by norm_num)
  obtain ⟨times, atZero, atEnd⟩ := nearby_sampled (1 / 4) 0
  obtain ⟨predicted, contract, predictedOk, conflict, ok⟩ :=
    nearby_contract (1 / 4) 0 (by rw [quarter]; norm_num)
  refine ⟨predicted, contract, ?_, predictedOk, conflict, ok, fun covers => ?_⟩
  · simp only [List.forall_mem_cons, List.not_mem_nil, IsEmpty.forall_iff, implies_true, and_true]
    exact ⟨nearby_sound _ _, resting_sound⟩
  obtain ⟨_, _, -, -, -, seen⟩ := contract_interval predictedOk conflict ok
  obtain ⟨-, -, -, -, required⟩ := conflictContract_times ok
  have inside := covers.times
  rw [required] at inside
  have zero : 0 ∈ conflictTimes (nearby (1 / 4) 0) resting (11 / 20) := by
    refine ⟨by rw [times]; simp, _, atZero, ?_⟩
    rw [quarter]
    norm_num
  have closest := seen.mp inside zero (1 / 50) (by rw [times]; simp) _ _ atZero atEnd
  rw [quarter, abs_zero] at closest
  norm_num at closest

end Approach

end Deconfliction

end CrazySwarm
