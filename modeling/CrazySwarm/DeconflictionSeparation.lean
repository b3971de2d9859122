import CrazySwarm.Deconfliction
import CrazySwarm.ExecutionSampling
import CrazySwarm.EuclideanVectors

/-! What a settled crossing keeps apart: the two selected programs at every sampled time, and at
every real time as far as they do not move between the samples. -/
namespace CrazySwarm
namespace Deconfliction
open ExecutionPrograms
open scoped Numerals

section Candidates
open PyFloat

variable {F : Type} [PyMath F] [PyRound F]
variable {crossing : Crossing F} {programs : List (AcceptedExecutionProgram F)}

def Settled (requiredSeparationM : F) (programs : List (AcceptedExecutionProgram F)) : Prop :=
  ∃ predicted, predictPair programs requiredSeparationM = .ok predicted ∧
    predicted.separates requiredSeparationM = true

omit [PyRound F] in
theorem length_replaceRole {roleId : String} {replacement : AcceptedExecutionProgram F} :
    (replaceRole programs roleId replacement).length = programs.length := by
  simp [replaceRole]

/-- By induction on the options left to try. -/
theorem settled_of_firstSeparating {α : Type} {roleId : String} {requiredSeparationM : F}
    {build : α → Except (ProgramError F) (AcceptedExecutionProgram F)}
    {admits : AcceptedExecutionProgram F → Except (ProgramError F) Bool}
    {accepts : AcceptedExecutionProgram F → Bool} {options : List α} {separated : Separated α F}
    (found : firstSeparating programs roleId requiredSeparationM build admits accepts options =
      .ok (some separated)) :
    Settled requiredSeparationM (replaceRole programs roleId separated.program) := by
  induction options with
  | nil => cases found
  | cons option rest ih =>
    obtain ⟨program, -, found⟩ := bind_eq_ok.mp found
    obtain ⟨admitted, -, found⟩ := bind_eq_ok.mp found
    split at found
    · obtain ⟨predicted, predictedOk, found⟩ := bind_eq_ok.mp found
      split at found
      · next enough =>
        cases found
        exact ⟨predicted, predictedOk, (Bool.and_eq_true_iff.mp enough).1⟩
      · exact ih found
    · exact ih found

structure Sound (crossing : Crossing F) (programs : List (AcceptedExecutionProgram F))
    (evaluated : Evaluated F) : Prop where
  length : evaluated.1.length = programs.length
  settled : evaluated.2.feasible = true → Settled crossing.requiredSeparationM evaluated.1

theorem stagingCandidate_sound {evaluated : Evaluated F}
    (ok : stagingCandidate crossing programs = .ok evaluated) : Sound crossing programs evaluated := by
  obtain ⟨_, -, ok⟩ := bind_eq_ok.mp ok
  obtain ⟨_, -, ok⟩ := bind_eq_ok.mp ok
  obtain ⟨_, -, ok⟩ := bind_eq_ok.mp ok
  obtain ⟨_, -, ok⟩ := bind_eq_ok.mp ok
  obtain ⟨delayed, -, ok⟩ := bind_eq_ok.mp ok
  obtain ⟨predicted, predictedOk, ok⟩ := bind_eq_ok.mp ok
  cases ok
  constructor
  · exact length_replaceRole
  · intro feasible
    exact ⟨predicted, predictedOk, (Bool.and_eq_true_iff.mp feasible).1⟩

theorem sound_of_searched {α : Type} {roleId : String} {evaluated : Evaluated F}
    {build : α → Except (ProgramError F) (AcceptedExecutionProgram F)}
    {admits : AcceptedExecutionProgram F → Except (ProgramError F) Bool}
    {accepts : AcceptedExecutionProgram F → Bool} {options : List α}
    {found : Option (Separated α F)}
    (searched : firstSeparating programs roleId crossing.requiredSeparationM build admits accepts
      options = .ok found)
    (kept : found = none → evaluated.1 = programs ∧ evaluated.2.feasible = false)
    (replaced : ∀ separated, found = some separated →
      evaluated.1 = replaceRole programs roleId separated.program) :
    Sound crossing programs evaluated := by
  cases found with
  | none =>
    obtain ⟨same, infeasible⟩ := kept rfl
    constructor
    · rw [same]
    · simp [infeasible]
  | some separated =>
    have swapped := replaced separated rfl
    constructor
    · rw [swapped, length_replaceRole]
    · intro _
      rw [swapped]
      exact settled_of_firstSeparating searched

theorem retimingCandidate_sound {evaluated : Evaluated F}
    (ok : retimingCandidate crossing programs = .ok evaluated) :
    Sound crossing programs evaluated := by
  obtain ⟨_, -, ok⟩ := bind_eq_ok.mp ok
  obtain ⟨found, searched, ok⟩ := bind_eq_ok.mp ok
  apply sound_of_searched searched
  · rintro rfl
    cases ok
    exact ⟨rfl, rfl⟩
  · rintro separated rfl
    cases ok
    rfl

theorem horizontalCandidate_sound {evaluated : Evaluated F}
    (ok : horizontalCandidate crossing programs = .ok evaluated) :
    Sound crossing programs evaluated := by
  obtain ⟨_, -, ok⟩ := bind_eq_ok.mp ok
  obtain ⟨found, searched, ok⟩ := bind_eq_ok.mp ok
  apply sound_of_searched searched
  · rintro rfl
    cases ok
    exact ⟨rfl, rfl⟩
  · rintro separated rfl
    cases ok
    rfl

theorem combinedCandidate_sound {evaluated : Evaluated F}
    (ok : combinedCandidate crossing programs = .ok evaluated) :
    Sound crossing programs evaluated := by
  obtain ⟨_, -, ok⟩ := bind_eq_ok.mp ok
  obtain ⟨found, searched, ok⟩ := bind_eq_ok.mp ok
  apply sound_of_searched searched
  · rintro rfl
    cases ok
    exact ⟨rfl, rfl⟩
  · rintro separated rfl
    cases ok
    rfl

theorem verticalCandidate_sound {evaluated : Evaluated F}
    (ok : verticalCandidate crossing programs = .ok evaluated) :
    Sound crossing programs evaluated := by
  obtain ⟨_, -, ok⟩ := bind_eq_ok.mp ok
  obtain ⟨shifted, -, ok⟩ := bind_eq_ok.mp ok
  obtain ⟨inside, -, ok⟩ := bind_eq_ok.mp ok
  simp only at ok
  split at ok
  · obtain ⟨prediction, predicts, ok⟩ := bind_eq_ok.mp ok
    obtain ⟨predicted, predictedOk, rfl⟩ := map_eq_ok.mp predicts
    cases ok
    by_cases enough : predicted.separates crossing.requiredSeparationM = true
    · simp only [Option.any_some, enough, if_true]
      exact ⟨length_replaceRole, fun _ => ⟨predicted, predictedOk, enough⟩⟩
    · simp only [Option.any_some, enough, Bool.false_eq_true, if_false]
      exact ⟨rfl, fun feasible => nomatch feasible⟩
  · cases ok
    exact ⟨rfl, fun feasible => nomatch feasible⟩

theorem candidate_sound {strategy : ConflictResolutionStrategy} {evaluated : Evaluated F}
    (ok : candidate crossing programs strategy = .ok evaluated) :
    Sound crossing programs evaluated := by
  cases strategy with
  | stagingHold => exact stagingCandidate_sound ok
  | speedRetiming => exact retimingCandidate_sound ok
  | horizontalDetour => exact horizontalCandidate_sound ok
  | verticalSeparation => exact verticalCandidate_sound ok
  | combinedRetimingVertical => exact combinedCandidate_sound ok

end Candidates

section Planned

variable {F : Type} [Field F] [LinearOrder F] [IsStrictOrderedRing F] [PyMath F] [Exact F]
variable [PyRound F] {first second : AcceptedExecutionProgram F} {requiredSeparationM : F}

/-- At every sampled time of their joint schedule two programs are a distance apart. -/
def ApartAtSamples (requiredSeparationM : F) (first second : AcceptedExecutionProgram F) : Prop :=
  ∀ timeS ∈ sampleTimes (jointDurationS first second),
    ∃ distanceM, separationAt first second timeS = .ok distanceM ∧ requiredSeparationM ≤ distanceM

omit [PyRound F] in
theorem distance_comm (a b : Vector3 F) :
    ExecutionPrograms.distance a b = ExecutionPrograms.distance b a := by
  unfold ExecutionPrograms.distance
  simp only [Exact.minus, Exact.plus, Exact.pow_eq]
  congr 1
  ring

theorem ApartAtSamples.symm (apart : ApartAtSamples requiredSeparationM first second) :
    ApartAtSamples requiredSeparationM second first := by
  have joint : jointDurationS second first = jointDurationS first second := by
    simp [jointDurationS, max_comm]
  intro timeS among
  rw [joint] at among
  obtain ⟨distanceM, measured, enough⟩ := apart timeS among
  obtain ⟨firstM, secondM, firstOk, secondOk, rfl⟩ := separationAt_eq_ok.mp measured
  exact ⟨_, separationAt_eq_ok.mpr ⟨secondM, firstM, secondOk, firstOk, distance_comm ..⟩, enough⟩

theorem Settled.apart (settled : Settled requiredSeparationM [first, second]) :
    ApartAtSamples requiredSeparationM first second := by
  obtain ⟨predicted, predictedOk, enough⟩ := settled
  exact (separates_iff predictedOk).mp enough

omit [Field F] [LinearOrder F] [IsStrictOrderedRing F] [Exact F] [PyRound F] in
theorem byRole_pair {roleId : String} {a : AcceptedExecutionProgram F}
    (found : byRole [first, second] roleId = .ok a) :
    a.roleId = roleId ∧ (a = first ∨ a = second) := by
  unfold byRole at found
  split at found
  · next program among =>
    cases found
    have role := List.find?_some among
    have member := List.mem_of_find?_eq_some among
    simp only [List.reverse_cons, List.reverse_nil, List.nil_append, List.cons_append,
      List.mem_cons, List.not_mem_nil, or_false] at member
    exact ⟨by simpa using role, member.symm⟩
  · cases found

theorem tasksOf_distinct {F : Type} (deployment : Deployment F) (taskType : String) :
    ((deployment.tasksOf taskType).map DeploymentTask.taskId).Nodup := by
  have sorted := (Sorting.sortBy_perm DeploymentTask.taskId
    (deployment.tasks.filter fun task => task.taskType == taskType)).map DeploymentTask.taskId
  apply sorted.nodup_iff.mpr
  exact (List.filter_sublist.map DeploymentTask.taskId).nodup deployment.unique

theorem tasksOf_pair {F : Type} {deployment : Deployment F} {taskType : String}
    {firstTask secondTask : DeploymentTask}
    (tasks : deployment.tasksOf taskType = [firstTask, secondTask]) :
    firstTask.taskId ≠ secondTask.taskId := by
  have distinct := tasksOf_distinct deployment taskType
  rw [tasks] at distinct
  simpa using distinct

theorem planned_apart_at_samples {deployment : Deployment F} {policy : SafetyPolicy F}
    {allowedStrategies : List ConflictResolutionStrategy}
    {selected : List (AcceptedExecutionProgram F)} {plan : FleetDeconflictionPlan F}
    (ok : planCrossingDeconfliction deployment [first, second] policy allowedStrategies =
      .ok (selected, some plan)) (settled : plan.status ≠ .blocked) :
    ∃ p q, selected = [p, q] ∧
      ApartAtSamples (PyFloat.add deployment.warningSeparationM defaultPositionUncertaintyM) p q := by
  unfold planCrossingDeconfliction at ok
  split at ok
  · next firstTask secondTask tasks =>
    simp only at ok
    split at ok
    · cases ok
      exact absurd rfl settled
    · obtain ⟨a, ofFirst, ok⟩ := bind_eq_ok.mp ok
      obtain ⟨b, ofSecond, ok⟩ := bind_eq_ok.mp ok
      split at ok
      · cases ok
        exact absurd rfl settled
      · obtain ⟨predicted, predictedOk, ok⟩ := bind_eq_ok.mp ok
        split at ok
        · next enough =>
          cases ok
          have apart := (separates_iff predictedOk).mp enough
          refine ⟨first, second, rfl, ?_⟩
          obtain ⟨roleOfA, isA⟩ := byRole_pair ofFirst
          obtain ⟨roleOfB, isB⟩ := byRole_pair ofSecond
          have distinct := tasksOf_pair tasks
          rcases isA with rfl | rfl <;> rcases isB with rfl | rfl
          · exact absurd (roleOfA.symm.trans roleOfB) distinct
          · exact apart
          · exact ApartAtSamples.symm apart
          · exact absurd (roleOfA.symm.trans roleOfB) distinct
        · obtain ⟨conflict, -, ok⟩ := bind_eq_ok.mp ok
          obtain ⟨evaluated, each, ok⟩ := bind_eq_ok.mp ok
          split at ok
          · cases ok
            exact absurd rfl settled
          · next found =>
            cases ok
            have feasible := List.find?_some found
            have member := List.fst_mem_of_mem_zipIdx (List.mem_of_find?_eq_some found)
            obtain ⟨strategy, -, evaluatedOk⟩ := exists_of_mem_mapM each member
            have sound := candidate_sound evaluatedOk
            obtain ⟨p, q, pair⟩ := List.length_eq_two.mp sound.length
            have settled := sound.settled feasible
            rw [pair] at settled
            exact ⟨p, q, pair, settled.apart⟩
  · cases ok

end Planned

/-! ## Between the samples -/

section Real

variable {first second p q : AcceptedExecutionProgram ℝ}

theorem distance_eq_dist (a b : Vector3 ℝ) :
    ExecutionPrograms.distance a b = dist (euclidean a) (euclidean b) := by
  rw [EuclideanSpace.dist_eq]
  simp only [ExecutionPrograms.distance, Exact.minus, Exact.plus, Exact.pow_eq, real_sqrt,
    euclidean, Fin.sum_univ_three, Real.dist_eq, sq_abs]
  rfl

/-- How far a program gets from one time to another. -/
def Moved (program : AcceptedExecutionProgram ℝ) (startS endS movedM : ℝ) : Prop :=
  ∃ a b, programPosition program startS = .ok a ∧ programPosition program endS = .ok b ∧
    ExecutionPrograms.distance a b = movedM

/-- Between two times a program gets no further than at some speed. -/
def MovesAtMost (speedMS : ℝ) (program : AcceptedExecutionProgram ℝ) : Prop :=
  ∀ startS endS movedM, Moved program startS endS movedM → movedM ≤ speedMS * |endS - startS|

/-- Two programs are as far apart as at another time, less what both have moved since. -/
theorem exists_moved_of_separationAt {sampleS timeS distanceM : ℝ}
    (measured : separationAt p q sampleS = .ok distanceM) :
    ∃ d m n, separationAt p q timeS = .ok d ∧ Moved p sampleS timeS m ∧ Moved q sampleS timeS n ∧
      distanceM ≤ d + m + n := by
  obtain ⟨a, b, ofP, ofQ, rfl⟩ := separationAt_eq_ok.mp measured
  obtain ⟨a', ofP'⟩ := exists_programPosition ofP timeS
  obtain ⟨b', ofQ'⟩ := exists_programPosition ofQ timeS
  refine ⟨_, _, _, separationAt_eq_ok.mpr ⟨a', b', ofP', ofQ', rfl⟩, ⟨a, a', ofP, ofP', rfl⟩,
    ⟨b, b', ofQ, ofQ', rfl⟩, ?_⟩
  simp only [distance_eq_dist]
  calc dist (euclidean a) (euclidean b)
      ≤ dist (euclidean a) (euclidean a') + dist (euclidean a') (euclidean b') +
          dist (euclidean b') (euclidean b) := dist_triangle4 ..
    _ = dist (euclidean a') (euclidean b') + dist (euclidean a) (euclidean a') +
          dist (euclidean b) (euclidean b') := by rw [dist_comm (euclidean b')]; ring

/-- A settled crossing keeps its two programs the required separation apart at every sampled time;
at every time they are no nearer than that less what they move within half a prediction step; and
never nearer than the warning separation where their speeds together are at most 5 m/s. -/
theorem planned_pair_separated {deployment : Deployment ℝ} {policy : SafetyPolicy ℝ}
    {allowedStrategies : List ConflictResolutionStrategy}
    {selected : List (AcceptedExecutionProgram ℝ)} {plan : FleetDeconflictionPlan ℝ}
    (ok : planCrossingDeconfliction deployment [first, second] policy allowedStrategies =
      .ok (selected, some plan)) (settled : plan.status ≠ .blocked) :
    ∃ p q, selected = [p, q] ∧
      ApartAtSamples (deployment.warningSeparationM + 0.05) p q ∧
      (∀ timeS ∈ Set.Icc 0 (jointDurationS p q), ∃ sampleS ∈ sampleTimes (jointDurationS p q),
        |timeS - sampleS| ≤ 0.01 ∧ ∃ d m n, separationAt p q timeS = .ok d ∧
          Moved p sampleS timeS m ∧ Moved q sampleS timeS n ∧
          deployment.warningSeparationM + 0.05 - (m + n) ≤ d) ∧
      ∀ u v, MovesAtMost u p → MovesAtMost v q → u + v ≤ 5 →
        ∀ timeS ∈ Set.Icc 0 (jointDurationS p q),
          ∃ d, separationAt p q timeS = .ok d ∧ deployment.warningSeparationM ≤ d := by
  obtain ⟨p, q, rfl, apart⟩ := planned_apart_at_samples ok settled
  have required : PyFloat.add deployment.warningSeparationM defaultPositionUncertaintyM =
      deployment.warningSeparationM + 0.05 := by
    simp [defaultPositionUncertaintyM]
  rw [required] at apart
  have everywhere : ∀ timeS ∈ Set.Icc 0 (jointDurationS p q),
      ∃ sampleS ∈ sampleTimes (jointDurationS p q), |timeS - sampleS| ≤ 0.01 ∧
        ∃ d m n, separationAt p q timeS = .ok d ∧ Moved p sampleS timeS m ∧
          Moved q sampleS timeS n ∧ deployment.warningSeparationM + 0.05 - (m + n) ≤ d := by
    rintro timeS ⟨after, before⟩
    obtain ⟨sampleS, among, near⟩ := exists_sampleTime_near after before
    obtain ⟨distanceM, measured, enough⟩ := apart sampleS among
    obtain ⟨d, m, n, at_time, ofP, ofQ, less⟩ := exists_moved_of_separationAt measured
    refine ⟨sampleS, among, near.trans (by norm_num), d, m, n, at_time, ofP, ofQ, ?_⟩
    linarith
  refine ⟨p, q, rfl, apart, everywhere, ?_⟩
  intro u v slowP slowQ together timeS inside
  obtain ⟨sampleS, -, near, d, m, n, at_time, ofP, ofQ, less⟩ := everywhere timeS inside
  refine ⟨d, at_time, ?_⟩
  have movedP := slowP _ _ _ ofP
  have movedQ := slowQ _ _ _ ofQ
  have moved : (u + v) * |timeS - sampleS| ≤ 5 * 0.01 :=
    mul_le_mul together near (abs_nonneg _) (by norm_num)
  linarith

end Real

/-! ## A pair that meets between two samples -/

noncomputable section Meeting

def restPoint (sequence : ℕ) (timeFromStartS x : ℝ) : TrajectoryPoint ℝ :=
  ⟨sequence, timeFromStartS, ⟨x, 0, 1 / 2⟩, ⟨0, 0, 0⟩, ⟨0, 0, 0⟩, 0, 0⟩

/-- From rest to rest within one prediction step. -/
def dash (fromX toX : ℝ) : OperationTrajectory ℝ where
  points := [restPoint 1 0 fromX, restPoint 2 (1 / 50) toX]
  declaredStopSequences := [1, 2]
  completionPositionToleranceM := 1 / 20
  completionVelocityToleranceMS := 1 / 20
  twoPoints := le_rfl

def dashData (roleId : String) (fromX toX : ℝ) : ProgramData ℝ where
  programId := "program"
  roleId
  operations := [⟨.trajectory (dash fromX toX), 1, 0, 1 / 50⟩]
  scheduleDurationS := 1 / 50
  contingencyReserveS := 0
  recoveryReserveS := 0
  executionTimeoutS := 1 / 50

theorem dashData_valid {roleId : String} (named : isIdentifier roleId = true) (fromX toX : ℝ) :
    (dashData roleId fromX toX).validate = .ok () := by
  have identifier : isIdentifier "program" = true := by decide
  simp [ProgramData.validate, ProgramData.fieldChecks, ProgramData.coherentSchedule, dashData,
    named, identifier, PyFloat.gt, PyFloat.ge, PyFloat.isClose, validated, bind, Except.bind,
    require]

def dashProgram (roleId : String) (named : isIdentifier roleId = true) (fromX toX : ℝ) :
    AcceptedExecutionProgram ℝ :=
  ⟨dashData roleId fromX toX, dashData_valid named fromX toX⟩

/-- One program dashes past the point at which the other one rests. -/
def dashing : AcceptedExecutionProgram ℝ := dashProgram "cross_south" (by decide +kernel) (-1) 1

def resting : AcceptedExecutionProgram ℝ := dashProgram "cross_west" (by decide +kernel) 0 0

def crossingDeployment : Deployment ℝ where
  tasks := [⟨"cross_south", "crossing-route", 100⟩, ⟨"cross_west", "crossing-route", 100⟩]
  warningSeparationM := 1 / 2
  unique := by decide

def volume : FlightVolume ℝ := ⟨⟨-2, -2, 0⟩, ⟨2, 2, 1⟩, by simp⟩

def crossingLimits : SafetyLimits ℝ where
  maxAltitudeM := 1
  maxHorizontalSpeedMS := 1
  maxVerticalSpeedMS := 1
  maxAccelerationMS2 := 1
  maxYawRateRadS := 1
  maxMissionDurationS := 100
  commandTimeoutS := 1
  telemetryTimeoutS := 1
  healthWatchdogPeriodS := 1
  controlLeaseTimeoutS := 1
  preflightValidS := 1
  minimumTakeoffBatteryPercent := 50
  criticalBatteryPercent := 20
  minimumLinkQualityPercent := 20
  minimumLocalizationQualityPercent := 20
  flightVolume := volume

def crossingPolicy : SafetyPolicy ℝ where
  toSafetyLimits := crossingLimits
  valid := by
    simp [SafetyLimits.validate, SafetyLimits.fieldChecks, SafetyLimits.thresholdsAreConsistent,
      SafetyLimits.percent, crossingLimits, volume, PyFloat.gt, PyFloat.ge, PyFloat.atMost,
      validated, require, bind, Except.bind]
    norm_num

theorem dash_position {roleId : String} {named : isIdentifier roleId = true} {fromX toX : ℝ} :
    programPosition (dashProgram roleId named fromX toX) 0 = .ok ⟨fromX, 0, 1 / 2⟩ ∧
      programPosition (dashProgram roleId named fromX toX) (1 / 50) = .ok ⟨toX, 0, 1 / 2⟩ := by
  constructor
  · simp [programPosition, firstTrajectory, trajectoryOperations, ExecutionOperation.trajectory?,
      dashProgram, dashData, TrajectoryOperation.position, dash, restPoint, bind, Except.bind]
  · simp [programPosition, firstTrajectory, trajectoryOperations, ExecutionOperation.trajectory?,
      dashProgram, dashData, TrajectoryOperation.position, dash, restPoint, bind, Except.bind]

theorem dash_sampleTimes : sampleTimes (jointDurationS dashing resting) = [0, 1 / 50] := by
  have joint : jointDurationS dashing resting = 1 / 50 := by
    simp [jointDurationS, dashing, resting, dashProgram, dashData]
  have count : sampleCount (1 / 50 : ℝ) = 1 := by
    simp [sampleCount, predictionStepS, PyRound.ceil]
    norm_num
  rw [joint]
  unfold sampleTimes
  rw [count]
  simp [List.range_succ]

theorem dash_separationAt : separationAt dashing resting 0 = .ok 1 ∧
    separationAt dashing resting (1 / 50) = .ok 1 := by
  constructor
  · rw [separationAt_eq_ok]
    exact ⟨_, _, dash_position.1, dash_position.1, by simp [ExecutionPrograms.distance]⟩
  · rw [separationAt_eq_ok]
    exact ⟨_, _, dash_position.2, dash_position.2, by simp [ExecutionPrograms.distance]⟩

theorem dash_prediction : ∃ predicted, prediction dashing resting
      (PyFloat.add crossingDeployment.warningSeparationM defaultPositionUncertaintyM) =
      .ok predicted ∧
    predicted.separates
      (PyFloat.add crossingDeployment.warningSeparationM defaultPositionUncertaintyM) = true := by
  have sampled : ∃ predicted, prediction dashing resting
      (PyFloat.add crossingDeployment.warningSeparationM defaultPositionUncertaintyM) =
      .ok predicted := by
    unfold prediction
    rw [dash_sampleTimes]
    simp only [List.mapM_cons, List.mapM_nil, dash_separationAt]
    exact ⟨_, rfl⟩
  obtain ⟨predicted, predictedOk⟩ := sampled
  refine ⟨predicted, predictedOk, (separates_iff predictedOk).mpr ?_⟩
  have required : PyFloat.add crossingDeployment.warningSeparationM defaultPositionUncertaintyM ≤
      (1 : ℝ) := by
    simp [crossingDeployment, defaultPositionUncertaintyM]
    norm_num
  rw [dash_sampleTimes]
  rintro timeS among
  simp only [List.mem_cons, List.not_mem_nil, or_false] at among
  rcases among with rfl | rfl
  · exact ⟨1, dash_separationAt.1, required⟩
  · exact ⟨1, dash_separationAt.2, required⟩

/-- The pair needs no resolution. -/
theorem crossing_unresolved :
    planCrossingDeconfliction crossingDeployment [dashing, resting] crossingPolicy declaredOrder =
      .ok ([dashing, resting], some { status := .notRequired }) := by
  obtain ⟨predicted, predictedOk, enough⟩ := dash_prediction
  have tasks : crossingDeployment.tasksOf "crossing-route" =
      [⟨"cross_south", "crossing-route", 100⟩, ⟨"cross_west", "crossing-route", 100⟩] := by
    decide
  have south : byRole [dashing, resting] "cross_south" = .ok dashing := by
    simp [byRole, dashing, resting, dashProgram, dashData]
  have west : byRole [dashing, resting] "cross_west" = .ok resting := by
    simp [byRole, dashing, resting, dashProgram, dashData]
  have single : (trajectoryOperations dashing).length = 1 ∧
      (trajectoryOperations resting).length = 1 := ⟨rfl, rfl⟩
  have roles : [dashing, resting].map (·.roleId) = ["cross_south", "cross_west"] := rfl
  unfold planCrossingDeconfliction
  rw [tasks]
  simp only [roles]
  rw [if_neg (by decide)]
  refine bind_eq_ok.mpr ⟨dashing, south, bind_eq_ok.mpr ⟨resting, west, ?_⟩⟩
  rw [if_neg (by simp [single])]
  refine bind_eq_ok.mpr ⟨predicted, predictedOk, ?_⟩
  exact if_pos enough

theorem dash_half_way (fromX toX : ℝ) : ∃ setpoint,
    (dash fromX toX).sample (1 / 100) = some setpoint ∧
      setpoint.positionM = ⟨(fromX + toX) / 2, 0, 1 / 2⟩ := by
  have bounded : PyFloat.max PyFloat.zero
      (PyFloat.min (dash fromX toX).durationS (1 / 100)) = 1 / 100 := by
    simp [TrajectoryData.durationS, dash, restPoint]
    norm_num
  have knots : bisectRight (dash fromX toX).points (1 / 100 : ℝ) = 1 := by
    simp [bisectRight, dash, restPoint]
    norm_num
  unfold TrajectoryData.sample
  simp only [bounded, knots]
  refine ⟨_, rfl, ?_⟩
  simp [sampleTrajectorySegment, quinticSample, restPoint]
  norm_num
  ring

theorem dashing_meets_resting : separationAt dashing resting (1 / 100) = .ok 0 := by
  have position {roleId : String} {named : isIdentifier roleId = true} {fromX toX : ℝ} :
      programPosition (dashProgram roleId named fromX toX) (1 / 100) =
        .ok ⟨(fromX + toX) / 2, 0, 1 / 2⟩ := by
    obtain ⟨setpoint, sampled, half_way⟩ := dash_half_way fromX toX
    have begun : ¬(1 / 100 : ℝ) ≤ 0 := by norm_num
    have unfinished : ¬(1 / 50 : ℝ) ≤ 1 / 100 := by norm_num
    have first : firstTrajectory (dashProgram roleId named fromX toX) =
        .ok ⟨0, 1 / 50, dash fromX toX⟩ := rfl
    unfold programPosition
    rw [first]
    change TrajectoryOperation.position _ _ = _
    unfold TrajectoryOperation.position
    simp only [Exact.le_true, begun, unfinished, if_false, Exact.minus, sub_zero, sampled,
      Option.map_some, half_way]
  rw [separationAt_eq_ok]
  refine ⟨_, _, position, position, ?_⟩
  simp [ExecutionPrograms.distance]

theorem dash_valid (fromX toX : ℝ) : (dash fromX toX).validate = .ok () := by
  have fields : ∀ check ∈ (dash fromX toX).fieldChecks, check.2 = true := by
    simp [TrajectoryData.fieldChecks, TrajectoryPoint.valid, dash, restPoint, Vector3.isFinite,
      isFinite, PyFloat.gt, PyFloat.ge, PyFloat.atMost]
    norm_num
  have stops : (dash fromX toX).stopSpeedExceeds 1 = false ∧
      (dash fromX toX).stopSpeedExceeds 2 = false := by
    simp [TrajectoryData.stopSpeedExceeds, dash, restPoint, Vector3.length]
  unfold TrajectoryData.validate
  refine bind_eq_ok.mpr ⟨(), validated_eq_ok.mpr ⟨fields, rfl⟩, ?_⟩
  unfold TrajectoryData.orderedAndContinuous
  refine bind_eq_ok.mpr ⟨(), require_eq_ok.mpr (by simp [dash, restPoint]), ?_⟩
  refine bind_eq_ok.mpr ⟨(), require_eq_ok.mpr rfl, ?_⟩
  refine bind_eq_ok.mpr
    ⟨(), require_eq_ok.mpr (by simp [TrajectoryData.segments, dash, restPoint]), ?_⟩
  refine bind_eq_ok.mpr ⟨(), require_eq_ok.mpr rfl, ?_⟩
  refine bind_eq_ok.mpr ⟨(), require_eq_ok.mpr rfl, ?_⟩
  have declared : (dash fromX toX).declaredStopSequences = [1, 2] := rfl
  have slow : ∀ sequence ∈ [1, 2], (do
      require (1 ≤ sequence && sequence ≤ (dash fromX toX).points.length)
        (.value "declared trajectory stop sequence is absent")
      require (!(dash fromX toX).stopSpeedExceeds sequence)
        (.value "declared trajectory stop has non-zero velocity")) =
      (.ok () : Except (Fault ℝ) Unit) := by
    intro sequence member
    simp only [List.mem_cons, List.not_mem_nil, or_false] at member
    rcases member with rfl | rfl
    · exact bind_eq_ok.mpr ⟨(), require_eq_ok.mpr rfl, require_eq_ok.mpr (by simp [stops])⟩
    · exact bind_eq_ok.mpr ⟨(), require_eq_ok.mpr rfl, require_eq_ok.mpr (by simp [stops])⟩
  rw [declared, List.forM, slow 1 (by simp)]
  rw [List.forM, slow 2 (by simp)]
  rfl

theorem dash_operation_valid (fromX toX : ℝ) :
    ExecutionOperation.valid ⟨.trajectory (dash fromX toX), 1, 0, 1 / 50⟩ = true := by
  have duration : (dash fromX toX).durationS = 1 / 50 := by
    simp [TrajectoryData.durationS, dash, restPoint]
  unfold ExecutionOperation.valid
  simp only [dash_valid, duration]
  simp [PyFloat.gt, PyFloat.ge, PyFloat.isClose, Except.toBool]

/-- The planner finds nothing to resolve for two programs that meet between its samples. -/
theorem crossing_meets_between_samples :
    planCrossingDeconfliction crossingDeployment [dashing, resting] crossingPolicy declaredOrder =
        .ok ([dashing, resting], some { status := .notRequired }) ∧
      (∀ program ∈ [dashing, resting], ∀ operation ∈ program.operations,
        operation.valid = true) ∧
      (1 / 100 : ℝ) ∈ Set.Icc 0 (jointDurationS dashing resting) ∧
      separationAt dashing resting (1 / 100) = .ok 0 ∧
      0 < crossingDeployment.warningSeparationM := by
  refine ⟨crossing_unresolved, ?_, ?_, dashing_meets_resting, ?_⟩
  · intro program among operation member
    simp only [List.mem_cons, List.not_mem_nil, or_false] at among
    rcases among with rfl | rfl
    · rw [List.mem_singleton.mp member]
      exact dash_operation_valid ..
    · rw [List.mem_singleton.mp member]
      exact dash_operation_valid ..
  · simp [jointDurationS, dashing, resting, dashProgram, dashData]
    norm_num
  · simp [crossingDeployment]

theorem planned_pair_separated_dashing : ∃ p q, [dashing, resting] = [p, q] ∧
    ApartAtSamples (crossingDeployment.warningSeparationM + 0.05) p q ∧
    (∀ timeS ∈ Set.Icc 0 (jointDurationS p q), ∃ sampleS ∈ sampleTimes (jointDurationS p q),
      |timeS - sampleS| ≤ 0.01 ∧ ∃ d m n, separationAt p q timeS = .ok d ∧
        Moved p sampleS timeS m ∧ Moved q sampleS timeS n ∧
        crossingDeployment.warningSeparationM + 0.05 - (m + n) ≤ d) ∧
    ∀ u v, MovesAtMost u p → MovesAtMost v q → u + v ≤ 5 →
      ∀ timeS ∈ Set.Icc 0 (jointDurationS p q),
        ∃ d, separationAt p q timeS = .ok d ∧ crossingDeployment.warningSeparationM ≤ d :=
  planned_pair_separated crossing_unresolved (by simp)

end Meeting

end Deconfliction

end CrazySwarm
