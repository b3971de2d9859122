import CrazySwarm.CampaignGeometry
import CrazySwarm.Deconfliction

/-! Conflict planning for three and more programs: the predicted conflicts of all pairs and, where
there are any, staging schedules for the orders in which the roles may take off. -/
namespace CrazySwarm
namespace MultidronePlanning
open PyFloat PyMath ExecutionPrograms Deconfliction
open CampaignGeometry (combinations minimum? maximum? sum)

variable {F : Type} [PyMath F]

inductive MultiDronePlanningStatus where
  | notRequired | resolved | blocked
  deriving DecidableEq, Repr

inductive MultiDroneResolutionStrategy where
  | exactEnumerationStaging | priorityGreedyStaging
  deriving DecidableEq, Repr

structure MultiDronePairConflict (F : Type) where
  roleIds : String × String
  predictedMinimumSeparationM : Option F
  closestApproachS : F
  requiredSeparationM : F
  deriving DecidableEq, Repr

structure MultiDroneScheduleCandidate (F : Type) where
  strategy : MultiDroneResolutionStrategy
  precedenceOrder : List String
  plannedHoldSByRole : List (String × F)
  feasible : Bool
  predictedMinimumSeparationM : Option F
  maximumWaitS : F
  totalWaitS : F
  fairnessWaitSpreadS : F
  priorityInversionPenalty : Nat
  starvedRoleIds : List String
  reason : String
  deriving DecidableEq, Repr

structure MultiDroneConflictPlan (F : Type) where
  status : MultiDronePlanningStatus
  roleIds : List String
  conflicts : List (MultiDronePairConflict F)
  candidates : List (MultiDroneScheduleCandidate F)
  selectedStrategy : Option MultiDroneResolutionStrategy := none
  selectedCandidateIndex : Option Nat := none
  exactEnumerationLimit : Nat
  starvationBoundS : F
  deadlockDetected : Bool
  optimalityLimitation : String
  deriving DecidableEq, Repr

def picks {α : Type} : List α → List (α × List α)
  | [] => []
  | item :: rest => (item, rest) :: (picks rest).map fun (other, left) => (other, item :: left)

/-- `itertools.permutations`, of a list as long as the first argument. -/
def permutations {α : Type} : Nat → List α → List (List α)
  | 0, _ => [[]]
  | length + 1, items => (picks items).flatMap fun (item, rest) =>
    (permutations length rest).map (item :: ·)

structure ScheduledRole (F : Type) [PyMath F] where
  roleId : String
  program : AcceptedExecutionProgram F
  waitS : F

/-- `delay_program_before_trajectory(program, wait_s) if wait_s else program`. -/
def staged (program : AcceptedExecutionProgram F) (waitS : F) :
    Except (ProgramError F) (AcceptedExecutionProgram F) :=
  if eq waitS zero then .ok program else delayBeforeLaunch program waitS

/-- The loop of `_schedule_candidate`, from a time on at which the roles before are clear; the
first role does not wait. -/
def scheduleRoles (programs : List (AcceptedExecutionProgram F)) :
    Bool → F → List String → Except (ProgramError F) (List (ScheduledRole F))
  | _, _, [] => .ok []
  | isFirst, latestClearS, roleId :: rest => do
    let program ← byRole programs roleId
    let window ← firstTrajectory program
    let waitS := if isFirst then zero
      else PyFloat.max zero (latestClearS - window.startsAtS + stagingReleaseBufferS)
    let selected ← staged program waitS
    let selectedWindow ← firstTrajectory selected
    let scheduled ← scheduleRoles programs false
      (PyFloat.max latestClearS selectedWindow.endsAtS) rest
    return ⟨roleId, selected, waitS⟩ :: scheduled

/-- The smaller of two separations, each of them none where it is infinite. -/
def minSeparation (first second : Option F) : Option F :=
  match first, second with
  | some first, some second => some (PyFloat.min first second)
  | some first, none => some first
  | none, second => second

section Planning

variable [PyRound F]

/-- `predict_program_minimum_separation`. -/
def predictProgramMinimumSeparation (first second : AcceptedExecutionProgram F) :
    Except (ProgramError F) (Option F × F) := do
  let predicted ← prediction first second (ofRat 0.001)
  return (predicted.minimumSeparationM, predicted.closestApproachS)

/-- `minimum >= required_separation_m`. -/
def enough (requiredSeparationM : F) (minimum : Option F) : Bool :=
  minimum.all fun value => le requiredSeparationM value

/-- `_pair_conflict`. -/
def pairConflict (first second : AcceptedExecutionProgram F) (requiredSeparationM : F) :
    Except (ProgramError F) (Option (MultiDronePairConflict F)) := do
  let (minimum, closestS) ← predictProgramMinimumSeparation first second
  if enough requiredSeparationM minimum then return none
  else
    let roleIds := if second.roleId < first.roleId then (second.roleId, first.roleId)
      else (first.roleId, second.roleId)
    return some ⟨roleIds, minimum, closestS, requiredSeparationM⟩

/-- What the schedules of one planning share. -/
structure Staging (F : Type) [PyMath F] where
  strategy : MultiDroneResolutionStrategy
  programs : List (AcceptedExecutionProgram F)
  priority : String → Nat
  requiredSeparationM : F
  starvationBoundS : F
  policy : SafetyPolicy F

/-- `_schedule_candidate`. -/
def scheduleCandidate (staging : Staging F) (order : List String) :
    Except (ProgramError F)
      (List (AcceptedExecutionProgram F) × MultiDroneScheduleCandidate F) := do
  let scheduled ← scheduleRoles staging.programs true zero order
  let minima ← (combinations scheduled).mapM fun (first, second) => do
    let (minimum, _) ← predictProgramMinimumSeparation first.program second.program
    return minimum
  let minimum := minima.foldl minSeparation none
  let waits := scheduled.map ScheduledRole.waitS
  let maxWait := (maximum? waits).getD zero
  let minWait := (minimum? waits).getD zero
  let starved := (scheduled.filter fun role => lt staging.starvationBoundS role.waitS).map
    ScheduledRole.roleId
  let durationExceeded := scheduled.any fun role =>
    lt staging.policy.maxMissionDurationS role.program.scheduleDurationS
  let feasible := enough staging.requiredSeparationM minimum && starved.isEmpty && !durationExceeded
  return ((Sorting.sortBy ScheduledRole.roleId scheduled).map ScheduledRole.program, {
    strategy := staging.strategy
    precedenceOrder := order
    plannedHoldSByRole := scheduled.map fun role => (role.roleId, role.waitS)
    feasible
    predictedMinimumSeparationM := minimum
    maximumWaitS := maxWait
    totalWaitS := sum waits
    fairnessWaitSpreadS := maxWait - minWait
    priorityInversionPenalty := ((combinations order).map fun (earlier, later) =>
      staging.priority later - staging.priority earlier).sum
    starvedRoleIds := Sorting.sortBy id starved
    reason := if feasible then
        "joint conflict graph schedule satisfies separation, duration, and starvation bounds"
      else "joint schedule violates separation, duration, or starvation bounds" })

/-- The order of the keys by which `min` selects a candidate. -/
def comesBefore (first second : MultiDroneScheduleCandidate F) : Bool :=
  if first.priorityInversionPenalty != second.priorityInversionPenalty then
    first.priorityInversionPenalty < second.priorityInversionPenalty
  else if !eq first.maximumWaitS second.maximumWaitS then
    lt first.maximumWaitS second.maximumWaitS
  else if !eq first.totalWaitS second.totalWaitS then lt first.totalWaitS second.totalWaitS
  else if !eq first.fairnessWaitSpreadS second.fairnessWaitSpreadS then
    lt first.fairnessWaitSpreadS second.fairnessWaitSpreadS
  else first.precedenceOrder < second.precedenceOrder

def schedulingOrders (tasks : List DeploymentTask) (exactEnumerationLimit : Nat) :
    MultiDroneResolutionStrategy × List (List String) × String :=
  let roleIds := tasks.map DeploymentTask.taskId
  if roleIds.length ≤ exactEnumerationLimit then
    (.exactEnumerationStaging, permutations roleIds.length roleIds,
      "globally minimum candidate under the bounded full-route staging model; " ++
      "not a global optimum over arbitrary continuous trajectories")
  else
    (.priorityGreedyStaging,
      [(tasks.insertionSort fun first second => precedes first second).map DeploymentTask.taskId],
      "deterministic O(n^2) priority-greedy full-route staging; no general optimality guarantee")

/-- `plan_multi_drone_conflicts`. -/
def planMultiDroneConflicts (deployment : Deployment F)
    (programs : List (AcceptedExecutionProgram F)) (policy : SafetyPolicy F)
    (exactEnumerationLimit : Nat) :
    Except (ProgramError F)
      (List (AcceptedExecutionProgram F) × Option (MultiDroneConflictPlan F)) :=
  let tasks := deployment.tasksOf "multi-conflict-route"
  if tasks.length < 3 then .ok (programs, none)
  else
    let roleIds := tasks.map DeploymentTask.taskId
    let starvationBoundS := PyFloat.min (ofRat 90) (policy.maxMissionDurationS / ofRat 2)
    let blocked (conflicts : List (MultiDronePairConflict F))
        (candidates : List (MultiDroneScheduleCandidate F)) (reason : String) :
        MultiDroneConflictPlan F :=
      { status := .blocked
        roleIds
        conflicts
        candidates
        exactEnumerationLimit
        starvationBoundS
        deadlockDetected := true
        optimalityLimitation := reason }
    if !(roleIds.all (programs.map (·.roleId)).contains &&
        (programs.map (·.roleId)).all roleIds.contains) then
      .ok (programs, some (blocked [] []
        "multi-conflict roles do not have static accepted programs"))
    else do
      let required := deployment.warningSeparationM + defaultPositionUncertaintyM
      let found ← (combinations roleIds).mapM fun (firstRole, secondRole) => do
        let first ← byRole programs firstRole
        let second ← byRole programs secondRole
        pairConflict first second required
      let conflicts := found.filterMap id
      if conflicts.isEmpty then
        .ok (programs, some {
          status := .notRequired
          roleIds
          conflicts := []
          candidates := []
          exactEnumerationLimit
          starvationBoundS
          deadlockDetected := false
          optimalityLimitation := "no conflict resolution was required" })
      else
        let (strategy, orders, limitation) := schedulingOrders tasks exactEnumerationLimit
        let priority (roleId : String) : Nat :=
          ((tasks.find? fun task => task.taskId == roleId).map DeploymentTask.priority).getD 0
        let scheduled ← orders.mapM
          (scheduleCandidate ⟨strategy, programs, priority, required, starvationBoundS, policy⟩)
        let candidates := scheduled.map (·.2)
        match scheduled.zipIdx.filter fun ((_, candidate), _) => candidate.feasible with
        | [] => .ok (programs, some (blocked conflicts candidates
            "joint schedule has deadlock or exceeds the starvation/duration bound"))
        | first :: rest =>
          let ((selectedPrograms, selected), index) := Sorting.leastBy
            (fun one other => comesBefore one.1.2 other.1.2) first rest
          .ok (selectedPrograms, some {
            status := .resolved
            roleIds
            conflicts
            candidates
            selectedStrategy := selected.strategy
            selectedCandidateIndex := index
            exactEnumerationLimit
            starvationBoundS
            deadlockDetected := false
            optimalityLimitation := limitation })

end Planning

end MultidronePlanning

end CrazySwarm
