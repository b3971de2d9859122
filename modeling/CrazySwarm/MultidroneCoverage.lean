import CrazySwarm.MultidronePlanning
import CrazySwarm.DeconflictionSeparation
import CrazySwarm.ExecutionShifts

/-! What conflict planning for a fleet looks at: the first trajectory of each program, at every
sampled time. It sees every trajectory as far as no later one has begun. -/
namespace CrazySwarm
namespace MultidronePlanning
open ExecutionPrograms Deconfliction
open CampaignGeometry (combinations)
open scoped Numerals

section Flown
open PyFloat

variable {F : Type} [PyMath F]

/-- The trajectory operation that a program has begun last, at first the first one. -/
def flownOperation (program : AcceptedExecutionProgram F) (timeS : F) :
    Option (TrajectoryOperation F) :=
  let operations := trajectoryOperations program
  match (operations.filter fun operation => le operation.startsAtS timeS).getLast? with
  | some operation => some operation
  | none => operations.head?

/-- Where a program has its vehicle, over all of its trajectory operations. -/
def flownPosition (program : AcceptedExecutionProgram F) (timeS : F) :
    Except (ProgramError F) (Vector3 F) :=
  match flownOperation program timeS with
  | some operation => operation.position timeS
  | none => .error .indexError

def flownSeparationAt (first second : AcceptedExecutionProgram F) (timeS : F) :
    Except (ProgramError F) F := do
  let firstM ← flownPosition first timeS
  let secondM ← flownPosition second timeS
  return ExecutionPrograms.distance firstM secondM

def InTrajectory (program : AcceptedExecutionProgram F) (timeS : F) : Prop :=
  ∃ operation ∈ trajectoryOperations program,
    le operation.startsAtS timeS = true ∧ le timeS operation.endsAtS = true

def LaterBegun (program : AcceptedExecutionProgram F) (timeS : F) : Prop :=
  ∃ operation ∈ (trajectoryOperations program).tail, le operation.startsAtS timeS = true

/-- Without a later operation the flown position is the one that the planner predicts with. -/
theorem flownPosition_eq {program : AcceptedExecutionProgram F} {timeS : F}
    (first : ¬LaterBegun program timeS) :
    flownPosition program timeS = programPosition program timeS := by
  unfold flownPosition flownOperation programPosition firstTrajectory
  unfold LaterBegun at first
  cases operations : trajectoryOperations program with
  | nil => rfl
  | cons operation rest =>
    rw [operations] at first
    have none_begun : rest.filter (fun operation => le operation.startsAtS timeS) = [] := by
      rw [List.filter_eq_nil_iff]
      exact fun later member begun => first ⟨later, member, begun⟩
    by_cases begun : le operation.startsAtS timeS = true
    · simp only [List.filter_cons, none_begun, begun, if_true]
      rfl
    · simp only [List.filter_cons, none_begun, begun]
      rfl

theorem flownSeparationAt_eq {first second : AcceptedExecutionProgram F} {timeS : F}
    (ofFirst : ¬LaterBegun first timeS) (ofSecond : ¬LaterBegun second timeS) :
    flownSeparationAt first second timeS = separationAt first second timeS := by
  unfold flownSeparationAt separationAt
  rw [flownPosition_eq ofFirst, flownPosition_eq ofSecond]

end Flown

section Apart

variable {F : Type} [LinearOrder F] [PyMath F] [PyRound F]

/-- Two programs keep a distance at every sampled time of every trajectory operation of both. -/
def KeepApart (requiredSeparationM : F) (first second : AcceptedExecutionProgram F) : Prop :=
  ∀ timeS ∈ sampleTimes (jointDurationS first second),
    InTrajectory first timeS ∨ InTrajectory second timeS →
    ∃ distanceM, flownSeparationAt first second timeS = .ok distanceM ∧
      requiredSeparationM ≤ distanceM

/-- Two programs keep a distance at those of the times at which one of them has begun a second or
later trajectory operation. -/
def LaterApart (requiredSeparationM : F) (first second : AcceptedExecutionProgram F) : Prop :=
  ∀ timeS ∈ sampleTimes (jointDurationS first second),
    InTrajectory first timeS ∨ InTrajectory second timeS →
    LaterBegun first timeS ∨ LaterBegun second timeS →
    ∃ distanceM, flownSeparationAt first second timeS = .ok distanceM ∧
      requiredSeparationM ≤ distanceM

theorem keepApart_iff {requiredSeparationM : F} {first second : AcceptedExecutionProgram F}
    (apart : ApartAtSamples requiredSeparationM first second) :
    KeepApart requiredSeparationM first second ↔ LaterApart requiredSeparationM first second := by
  constructor
  · exact fun keep timeS among flying _ => keep timeS among flying
  · intro later timeS among flying
    by_cases begun : LaterBegun first timeS ∨ LaterBegun second timeS
    · exact later timeS among flying begun
    · obtain ⟨ofFirst, ofSecond⟩ := not_or.mp begun
      rw [flownSeparationAt_eq ofFirst ofSecond]
      exact apart timeS among

end Apart

/-! ## The pairs that the planner compares -/

section Pairs

variable {α : Type} {items : List α} {first second : α}

theorem mem_combinations_or (ofFirst : first ∈ items) (ofSecond : second ∈ items)
    (different : first ≠ second) :
    (first, second) ∈ combinations items ∨ (second, first) ∈ combinations items := by
  induction items with
  | nil => cases ofFirst
  | cons item rest ih =>
    simp only [combinations, List.mem_append, List.mem_map, Prod.mk.injEq]
    rcases List.mem_cons.mp ofFirst with rfl | firstLater
    · rcases List.mem_cons.mp ofSecond with rfl | secondLater
      · exact absurd rfl different
      · exact .inl (.inl ⟨second, secondLater, rfl, rfl⟩)
    · rcases List.mem_cons.mp ofSecond with rfl | secondLater
      · exact .inr (.inl ⟨first, firstLater, rfl, rfl⟩)
      · exact (ih firstLater secondLater).imp .inr .inr

end Pairs

section Planned

variable {F : Type} [Field F] [LinearOrder F] [IsStrictOrderedRing F] [PyMath F] [Exact F]
variable {requiredSeparationM : F}

theorem enough_minSeparation {first second : Option F} :
    enough requiredSeparationM (minSeparation first second) = true ↔
      enough requiredSeparationM first = true ∧ enough requiredSeparationM second = true := by
  cases first <;> cases second <;> simp [enough, minSeparation]

theorem enough_foldl {minima : List (Option F)} {start : Option F} :
    enough requiredSeparationM (minima.foldl minSeparation start) = true ↔
      enough requiredSeparationM start = true ∧
        ∀ minimum ∈ minima, enough requiredSeparationM minimum = true := by
  induction minima generalizing start with
  | nil => simp
  | cons minimum rest ih =>
    rw [List.foldl_cons, ih, enough_minSeparation, List.forall_mem_cons, and_assoc]

variable [PyRound F] {first second : AcceptedExecutionProgram F}

theorem apart_of_enough {minimum : Option F} {closestS : F}
    (ok : predictProgramMinimumSeparation first second = .ok (minimum, closestS))
    (separated : enough requiredSeparationM minimum = true) :
    ApartAtSamples requiredSeparationM first second := by
  obtain ⟨predicted, predictedOk, same⟩ := bind_eq_ok.mp ok
  cases same
  exact (separates_iff predictedOk).mp separated

theorem apart_of_pairConflict_none
    (ok : pairConflict first second requiredSeparationM = .ok none) :
    ApartAtSamples requiredSeparationM first second := by
  obtain ⟨⟨minimum, closestS⟩, predictedOk, ok⟩ := bind_eq_ok.mp ok
  simp only at ok
  split at ok
  · next separated => exact apart_of_enough predictedOk separated
  · cases ok

end Planned

/-! ## The programs that the planner hands on -/

section Roles
open PyFloat

variable {F : Type} [PyMath F] {programs : List (AcceptedExecutionProgram F)}
variable {program : AcceptedExecutionProgram F}

theorem byRole_eq_ok {roleId : String} (found : byRole programs roleId = .ok program) :
    program ∈ programs ∧ program.roleId = roleId := by
  unfold byRole at found
  split at found
  · next among =>
    cases found
    exact ⟨List.mem_reverse.mp (List.mem_of_find?_eq_some among),
      by simpa using List.find?_some among⟩
  · cases found

theorem byRole_of_mem (distinct : (programs.map (·.roleId)).Nodup) (member : program ∈ programs) :
    byRole programs program.roleId = .ok program := by
  unfold byRole
  split
  · next other among =>
    have role : other.roleId = program.roleId := by simpa using List.find?_some among
    have member' := List.mem_reverse.mp (List.mem_of_find?_eq_some among)
    rw [List.inj_on_of_nodup_map distinct member' member role]
  · next none =>
    have absent := List.find?_eq_none.mp none program (List.mem_reverse.mpr member)
    simp at absent

theorem scheduleRoles_staged {isFirst : Bool} {latestClearS : F} {order : List String}
    {scheduled : List (ScheduledRole F)}
    (ok : scheduleRoles programs isFirst latestClearS order = .ok scheduled) :
    ∀ role ∈ scheduled, ∃ base ∈ programs, base.roleId = role.roleId ∧
      staged base role.waitS = .ok role.program := by
  induction order generalizing isFirst latestClearS scheduled with
  | nil =>
    cases ok
    simp
  | cons roleId rest ih =>
    obtain ⟨program, found, ok⟩ := bind_eq_ok.mp ok
    obtain ⟨window, -, ok⟩ := bind_eq_ok.mp ok
    obtain ⟨selected, stagedOk, ok⟩ := bind_eq_ok.mp ok
    obtain ⟨selectedWindow, -, ok⟩ := bind_eq_ok.mp ok
    obtain ⟨later, laterOk, ok⟩ := bind_eq_ok.mp ok
    cases ok
    rw [List.forall_mem_cons]
    obtain ⟨member, role⟩ := byRole_eq_ok found
    exact ⟨⟨program, member, role, stagedOk⟩, ih laterOk⟩

end Roles

section Selected

variable {F : Type} [Field F] [LinearOrder F] [IsStrictOrderedRing F] [PyMath F] [Exact F]
variable [PyRound F] {requiredSeparationM : F}

/-- All programs of different roles are apart at the sampled times. -/
def AllApart (requiredSeparationM : F) (programs : List (AcceptedExecutionProgram F)) : Prop :=
  ∀ first ∈ programs, ∀ second ∈ programs, first.roleId ≠ second.roleId →
    ApartAtSamples requiredSeparationM first second

structure HandedOn (requiredSeparationM : F) (programs selected : List (AcceptedExecutionProgram F)) :
    Prop where
  apart : AllApart requiredSeparationM selected
  staged : ∀ program ∈ selected, ∃ base ∈ programs, ∃ waitS, staged base waitS = .ok program

theorem scheduleCandidate_handedOn {staging : Staging F} {order : List String}
    {selected : List (AcceptedExecutionProgram F)} {candidate : MultiDroneScheduleCandidate F}
    (ok : scheduleCandidate staging order = .ok (selected, candidate))
    (feasible : candidate.feasible = true) :
    HandedOn staging.requiredSeparationM staging.programs selected := by
  obtain ⟨scheduled, scheduledOk, ok⟩ := bind_eq_ok.mp ok
  obtain ⟨minima, each, ok⟩ := bind_eq_ok.mp ok
  cases ok
  simp only [Bool.and_eq_true] at feasible
  have separated := (enough_foldl.mp feasible.1.1).2
  have compared : ∀ pair ∈ combinations scheduled,
      ApartAtSamples staging.requiredSeparationM pair.1.program pair.2.program := by
    intro pair among
    obtain ⟨minimum, member, predicts⟩ := exists_of_mem_items each among
    obtain ⟨⟨value, closestS⟩, predictedOk, same⟩ := bind_eq_ok.mp predicts
    cases same
    exact apart_of_enough predictedOk (separated _ member)
  constructor
  · intro first ofFirst second ofSecond different
    obtain ⟨one, oneAmong, rfl⟩ := List.mem_map.mp ofFirst
    obtain ⟨other, otherAmong, rfl⟩ := List.mem_map.mp ofSecond
    rw [Sorting.mem_sortBy] at oneAmong otherAmong
    have apart : one ≠ other := fun same => different (by rw [same])
    rcases mem_combinations_or oneAmong otherAmong apart with forth | back
    · exact compared _ forth
    · exact (compared _ back).symm
  · intro program member
    obtain ⟨role, among, rfl⟩ := List.mem_map.mp member
    rw [Sorting.mem_sortBy] at among
    obtain ⟨base, ofBase, -, stagedOk⟩ := scheduleRoles_staged scheduledOk role among
    exact ⟨base, ofBase, role.waitS, stagedOk⟩

theorem apart_of_no_conflicts {programs : List (AcceptedExecutionProgram F)} {roleIds : List String}
    {found : List (Option (MultiDronePairConflict F))}
    (distinct : (programs.map (·.roleId)).Nodup)
    (covered : ∀ program ∈ programs, program.roleId ∈ roleIds)
    (each : (combinations roleIds).mapM (fun (firstRole, secondRole) => do
        let first ← byRole programs firstRole
        let second ← byRole programs secondRole
        pairConflict first second requiredSeparationM) = .ok found)
    (none : found.filterMap id = []) : AllApart requiredSeparationM programs := by
  have compared : ∀ first ∈ programs, ∀ second ∈ programs,
      (first.roleId, second.roleId) ∈ combinations roleIds →
      ApartAtSamples requiredSeparationM first second := by
    intro first ofFirst second ofSecond among
    obtain ⟨conflict, member, ok⟩ := exists_of_mem_items each among
    simp only [byRole_of_mem distinct ofFirst, byRole_of_mem distinct ofSecond] at ok
    cases conflict with
    | none => exact apart_of_pairConflict_none ok
    | some conflict =>
      have listed : conflict ∈ found.filterMap id := by simpa using member
      rw [none] at listed
      cases listed
  intro first ofFirst second ofSecond different
  rcases mem_combinations_or (covered first ofFirst) (covered second ofSecond) different with
    forth | back
  · exact compared first ofFirst second ofSecond forth
  · exact (compared second ofSecond first ofFirst back).symm

theorem planned_handedOn {deployment : Deployment F} {programs : List (AcceptedExecutionProgram F)}
    {policy : SafetyPolicy F} {exactEnumerationLimit : Nat}
    {selected : List (AcceptedExecutionProgram F)} {plan : MultiDroneConflictPlan F}
    (distinct : (programs.map (·.roleId)).Nodup)
    (ok : planMultiDroneConflicts deployment programs policy exactEnumerationLimit =
      .ok (selected, some plan)) (settled : plan.status ≠ .blocked) :
    HandedOn (PyFloat.add deployment.warningSeparationM defaultPositionUncertaintyM) programs
      selected := by
  unfold planMultiDroneConflicts at ok
  simp only at ok
  split at ok
  · cases ok
  · split at ok
    · cases ok
      exact absurd rfl settled
    · next covered =>
      obtain ⟨found, each, ok⟩ := bind_eq_ok.mp ok
      split at ok
      · next none =>
        cases ok
        constructor
        · apply apart_of_no_conflicts distinct _ each (by simpa using none)
          intro program member
          simp only [Bool.not_eq_true, Bool.not_eq_false', Bool.and_eq_true, List.all_eq_true,
            List.contains_iff_mem] at covered
          exact covered.2 _ (List.mem_map_of_mem member)
        · exact fun program member => ⟨program, member, PyFloat.zero, by simp [staged]⟩
      · obtain ⟨scheduled, each, ok⟩ := bind_eq_ok.mp ok
        split at ok
        · cases ok
          exact absurd rfl settled
        · next first rest feasible =>
          have member := Sorting.leastBy_mem
            (fun one other => comesBefore one.1.2 other.1.2) first rest
          rw [← feasible] at member
          obtain ⟨among, feasible⟩ := List.mem_filter.mp member
          obtain ⟨order, -, scheduledOk⟩ :=
            exists_of_mem_mapM each (List.fst_mem_of_mem_zipIdx among)
          cases ok
          exact scheduleCandidate_handedOn scheduledOk feasible

end Selected

/-! ## Programs with one trajectory each -/

/-! ## Two programs that meet on their second trajectories -/

section Meeting

def restPoint (sequence : ℕ) (timeFromStartS : ℚ) (x y : ℚ) : TrajectoryPoint ℚ :=
  ⟨sequence, timeFromStartS, ⟨x, y, 1 / 2⟩, ⟨0, 0, 0⟩, ⟨0, 0, 0⟩, 0, 0⟩

/-- From rest to rest within one prediction step. -/
def hop (fromX fromY toX toY : ℚ) : OperationTrajectory ℚ where
  points := [restPoint 1 0 fromX fromY, restPoint 2 (1 / 50) toX toY]
  declaredStopSequences := [1, 2]
  completionPositionToleranceM := 1 / 20
  completionVelocityToleranceMS := 1 / 20
  twoPoints := by simp

/-- A trajectory on which the vehicle stays where it is, and a second one to the origin. -/
def returning (roleId : String) (x y : ℚ) : ProgramData ℚ where
  programId := "program"
  roleId
  operations :=
    [⟨.trajectory (hop x y x y), 1, 0, 1 / 50⟩, ⟨.hold, 2, 1 / 50, 2 / 50⟩,
      ⟨.trajectory (hop x y 0 0), 3, 2 / 50, 3 / 50⟩]
  scheduleDurationS := 3 / 50
  contingencyReserveS := 0
  recoveryReserveS := 0
  executionTimeoutS := 3 / 50

def alpha : AcceptedExecutionProgram ℚ := ⟨returning "alpha" (-2) 0, by decide +kernel⟩
def bravo : AcceptedExecutionProgram ℚ := ⟨returning "bravo" 2 0, by decide +kernel⟩
def carol : AcceptedExecutionProgram ℚ := ⟨returning "carol" 0 2, by decide +kernel⟩

def returningPrograms : List (AcceptedExecutionProgram ℚ) := [alpha, bravo, carol]

def fleetDeployment : Deployment ℚ where
  tasks := ["alpha", "bravo", "carol"].map fun taskId => ⟨taskId, "multi-conflict-route", 100⟩
  warningSeparationM := 1 / 2
  unique := by decide

def fleetPolicy : SafetyPolicy ℚ where
  maxAltitudeM := 1
  maxHorizontalSpeedMS := 1
  maxVerticalSpeedMS := 1
  maxAccelerationMS2 := 1
  maxYawRateRadS := 1
  maxMissionDurationS := 100
  commandTimeoutS := 1
  telemetryTimeoutS := 1
  healthWatchdogPeriodS := 1
  controlLeaseTimeoutS := 1
  preflightValidS := 1
  minimumTakeoffBatteryPercent := 50
  criticalBatteryPercent := 20
  minimumLinkQualityPercent := 20
  minimumLocalizationQualityPercent := 20
  flightVolume := SafetyPolicy.exactDefault.flightVolume
  valid := by decide +kernel

theorem returning_unresolved : ∃ plan,
    planMultiDroneConflicts fleetDeployment returningPrograms fleetPolicy 4 =
      .ok (returningPrograms, some plan) ∧ plan.status = .notRequired := by
  obtain ⟨⟨selected, plan⟩, planned, holds⟩ := exists_of_okWith
    (x := planMultiDroneConflicts fleetDeployment returningPrograms fleetPolicy 4)
    (t := fun result => decide (result.1 = returningPrograms) &&
      result.2.any fun plan => plan.status = .notRequired) (by decide +kernel)
  simp only [Bool.and_eq_true, decide_eq_true_eq] at holds
  obtain ⟨rfl, notRequired⟩ := holds
  cases plan with
  | none => simp at notRequired
  | some plan => exact ⟨plan, planned, by simpa using notRequired⟩

end Meeting

end MultidronePlanning

end CrazySwarm
