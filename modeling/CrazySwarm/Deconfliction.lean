import CrazySwarm.ExecutionPrograms
import CrazySwarm.SafetyPolicy
import CrazySwarm.Lib.Sorting

/-! Deconfliction of two crossing programs: the five strategies in their declared order, each of
them a transformation of the program that gives way and a prediction of what it achieves. -/
namespace CrazySwarm
namespace Deconfliction
open PyFloat PyMath ExecutionPrograms

variable {F : Type} [PyMath F]

structure DeploymentTask where
  taskId : String
  taskType : String
  priority : Nat
  deriving DecidableEq, Repr

/-- What the planners read of a deployment manifest; its task ids are unique. -/
structure Deployment (F : Type) where
  tasks : List DeploymentTask
  warningSeparationM : F
  unique : (tasks.map DeploymentTask.taskId).Nodup

def Deployment.tasksOf (deployment : Deployment F) (taskType : String) : List DeploymentTask :=
  Sorting.sortBy DeploymentTask.taskId
    (deployment.tasks.filter fun task => task.taskType == taskType)

inductive ConflictResolutionStrategy where
  | stagingHold | speedRetiming | horizontalDetour | verticalSeparation | combinedRetimingVertical
  deriving DecidableEq, Repr

inductive DeconflictionStatus where
  | notRequired | resolved | blocked
  deriving DecidableEq, Repr

structure TrajectoryTubeReservation (F : Type) where
  roleId : String
  startsAtS : F
  endsAtS : F
  minimumM : Vector3 F
  maximumM : Vector3 F
  uncertaintyRadiusM : F
  deriving DecidableEq, Repr

structure PredictedConflict (F : Type) where
  roleIds : String × String
  startsAtS : F
  endsAtS : F
  closestApproachS : F
  predictedMinimumSeparationM : Option F
  requiredSeparationM : F
  warningSeparationM : F
  uncertaintyMarginM : F
  tubes : TrajectoryTubeReservation F × TrajectoryTubeReservation F
  deriving DecidableEq, Repr

structure ResolutionCandidate (F : Type) [PyMath F] where
  strategy : ConflictResolutionStrategy
  feasible : Bool
  precedenceRoleId : Option String := none
  heldRoleId : Option String := none
  stagingPointM : Option (Vector3 F) := none
  plannedHoldS : F := zero
  retimingFactor : Option F := none
  horizontalDetourM : Option F := none
  verticalOffsetM : Option F := none
  predictedMinimumSeparationM : Option F := none
  addedDurationS : F := zero
  addedPathLengthM : F := zero
  reason : String

structure FleetDeconflictionPlan (F : Type) [PyMath F] where
  status : DeconflictionStatus
  conflict : Option (PredictedConflict F) := none
  candidates : List (ResolutionCandidate F) := []
  selectedStrategy : Option ConflictResolutionStrategy := none
  selectedCandidateIndex : Option Nat := none

def defaultPositionUncertaintyM : F := ofRat 0.05

def stagingReleaseBufferS : F := ofRat 0.25

/-- `_blocked_plan`. -/
def blockedPlan (candidates : List (ResolutionCandidate F)) (reason : String)
    (conflict : Option (PredictedConflict F)) : FleetDeconflictionPlan F where
  status := .blocked
  conflict
  candidates := if candidates.isEmpty then
      [{ strategy := .stagingHold, feasible := false, reason }]
    else candidates

/-! ## Programs of a pair -/

/-- `{program.role_id: program ...}[role_id]`; the last program of a role counts. -/
def byRole (programs : List (AcceptedExecutionProgram F)) (roleId : String) :
    Except (ProgramError F) (AcceptedExecutionProgram F) :=
  match programs.reverse.find? fun program => program.roleId == roleId with
  | some program => .ok program
  | none => .error (.keyError roleId)

/-- `next(item for item in programs if item.role_id == role_id)`. -/
def nextOf (programs : List (AcceptedExecutionProgram F)) (roleId : String) :
    Except (ProgramError F) (AcceptedExecutionProgram F) :=
  match programs.find? fun program => program.roleId == roleId with
  | some program => .ok program
  | none => .error .stopIteration

def replaceRole (programs : List (AcceptedExecutionProgram F)) (roleId : String)
    (replacement : AcceptedExecutionProgram F) : List (AcceptedExecutionProgram F) :=
  programs.map fun program => if program.roleId == roleId then replacement else program

section Predicting

variable [PyRound F]

/-- `_prediction(programs[0], programs[1], ...)`. -/
def predictPair (programs : List (AcceptedExecutionProgram F)) (requiredSeparationM : F) :
    Except (ProgramError F) (Prediction F) :=
  match programs with
  | first :: second :: _ => prediction first second requiredSeparationM
  | _ => .error .indexError

/-- `value or default`. -/
def valueOr (value : Option F) (default : F) : F :=
  match value with
  | some value => if eq value zero then default else value
  | none => default

/-- `_tube`. -/
def tube (program : AcceptedExecutionProgram F) (startsAtS endsAtS uncertaintyM : F) :
    Except (ProgramError F) (TrajectoryTubeReservation F) := do
  let first ← programPosition program startsAtS
  let middle ← programPosition program ((startsAtS + endsAtS) / ofRat 2)
  let last ← programPosition program endsAtS
  let low (axis : Vector3 F → F) :=
    PyFloat.min (PyFloat.min (axis first) (axis middle)) (axis last) - uncertaintyM
  let high (axis : Vector3 F → F) :=
    PyFloat.max (PyFloat.max (axis first) (axis middle)) (axis last) + uncertaintyM
  let minimumM : Vector3 F := ⟨low Vector3.x, low Vector3.y, low Vector3.z⟩
  let maximumM : Vector3 F := ⟨high Vector3.x, high Vector3.y, high Vector3.z⟩
  require (!le endsAtS startsAtS)
    (.contract (.value "trajectory tube reservation requires positive duration"))
  require (le minimumM.x maximumM.x && le minimumM.y maximumM.y && le minimumM.z maximumM.z)
    (.contract (.value "trajectory tube reservation bounds are reversed"))
  return ⟨program.roleId, startsAtS, endsAtS, minimumM, maximumM, uncertaintyM⟩

/-- `_conflict_contract`. -/
def conflictContract (roleIds : String × String) (first second : AcceptedExecutionProgram F)
    (prediction : Prediction F) (warningSeparationM requiredSeparationM uncertaintyM : F) :
    Except (ProgramError F) (PredictedConflict F) := do
  let startS := valueOr prediction.conflictStartS prediction.closestApproachS
  let reached := valueOr prediction.conflictEndS (startS + predictionStepS)
  let endS := if le reached startS then startS + predictionStepS else reached
  let firstTube ← tube first startS endS uncertaintyM
  let secondTube ← tube second startS endS uncertaintyM
  return {
    roleIds
    startsAtS := startS
    endsAtS := endS
    closestApproachS := prediction.closestApproachS
    predictedMinimumSeparationM := prediction.minimumSeparationM
    requiredSeparationM
    warningSeparationM
    uncertaintyMarginM := uncertaintyM
    tubes := (firstTube, secondTube) }

end Predicting

/-! ## Transformations of a program -/

/-- `_delay_before_trajectory`. -/
def delayBeforeTrajectory (program : AcceptedExecutionProgram F) (delayS : F) :
    Except (ProgramError F) (AcceptedExecutionProgram F) :=
  let renumbered (operations : List (ExecutionOperation F)) :=
    operations.mapIdx fun index operation => { operation with sequence := index + 1 }
  match program.operations.span fun operation => operation.trajectory?.isNone with
  | (_, []) => .error .stopIteration
  | (before, trajectory :: after) =>
    match before.getLast? with
    | some last =>
      if last.isHold then
        let kept := before.dropLast ++ [{ last with endsAtS := last.endsAtS + delayS }]
        rebuildProgram program
          (renumbered kept ++ shiftFrom before.length delayS (trajectory :: after))
      else
        inserted renumbered before trajectory after
    | none => inserted renumbered before trajectory after
where
  inserted (renumbered : List (ExecutionOperation F) → List (ExecutionOperation F))
      (before : List (ExecutionOperation F)) (trajectory : ExecutionOperation F)
      (after : List (ExecutionOperation F)) :
      Except (ProgramError F) (AcceptedExecutionProgram F) := do
    let hold ← newOperation "HoldExecutionOperation" .hold trajectory.sequence
      trajectory.startsAtS (trajectory.startsAtS + delayS)
    rebuildProgram program
      (renumbered (before ++ [hold]) ++
        shiftFrom (before.length + 1) delayS (trajectory :: after))

/-- `_scale`. -/
def scale (value : Vector3 F) (factor : F) : Vector3 F :=
  ⟨value.x * factor, value.y * factor, value.z * factor⟩

def retimedPoint (factor : F) (point : TrajectoryPoint F) : TrajectoryPoint F :=
  { point with
    timeFromStartS := point.timeFromStartS * factor
    velocityMS := scale point.velocityMS (ofRat 1 / factor)
    accelerationMS2 := scale point.accelerationMS2 (ofRat 1 / pow factor 2)
    yawRateRadS := point.yawRateRadS / factor }

/-- The loop of `_retime_program`, from a delay on. -/
def retimeOperations (factor : F) : F → List (ExecutionOperation F) → List (ExecutionOperation F)
  | _, [] => []
  | addedS, operation :: rest =>
    match operation.kind with
    | .trajectory trajectory =>
      let updated := trajectory.mapPoints (retimedPoint factor)
      { operation with
        kind := .trajectory updated
        startsAtS := operation.startsAtS + addedS
        endsAtS := operation.startsAtS + addedS + updated.durationS } ::
        retimeOperations factor
          (addedS + (updated.durationS - (operation.endsAtS - operation.startsAtS))) rest
    | _ =>
      operation.shifted operation.sequence addedS :: retimeOperations factor addedS rest

/-- `_retime_program`. -/
def retimeProgram (program : AcceptedExecutionProgram F) (factor : F) :
    Except (ProgramError F) (AcceptedExecutionProgram F) :=
  rebuildProgram program (retimeOperations factor zero program.operations)

/-- A bump along a trajectory: its height, its slope and its curvature. -/
structure Bump (F : Type) where
  value : F
  velocity : F
  acceleration : F
  deriving DecidableEq, Repr

/-- `_plateau_bump`. -/
def plateauBump (phase durationS : F) : Bump F :=
  let ramp : F := ofRat 0.25
  if le ramp phase && le phase (ofRat 1 - ramp) then ⟨ofRat 1, zero, zero⟩
  else
    let descending := lt (ofRat 1 - ramp) phase
    let raw := if descending then (ofRat 1 - phase) / ramp else phase / ramp
    let u := PyFloat.max zero (PyFloat.min (ofRat 1) raw)
    let value := ofRat 10 * pow u 3 - ofRat 15 * pow u 4 + ofRat 6 * pow u 5
    let firstU := ofRat 30 * pow u 2 - ofRat 60 * pow u 3 + ofRat 30 * pow u 4
    let secondU := ofRat 60 * u - ofRat 180 * pow u 2 + ofRat 120 * pow u 3
    let direction : F := if descending then ofRat (-1) else ofRat 1
    ⟨value, direction * firstU / ramp / durationS, secondU / pow ramp 2 / pow durationS 2⟩

/-- `math.pi`. -/
def mathPi : F := ofRat 3.141592653589793

/-- The bump of a vertical offset. -/
def sineBump (phase durationS : F) : Bump F where
  value := pow (sin (mathPi * phase)) 2
  velocity := mathPi * sin (ofRat 2 * mathPi * phase) / durationS
  acceleration := ofRat 2 * pow mathPi 2 * cos (ofRat 2 * mathPi * phase) / pow durationS 2

def offsetPoint (bump : Bump F) (horizontalOffsetM verticalOffsetM : F)
    (point : TrajectoryPoint F) : TrajectoryPoint F :=
  let moved (value : Vector3 F) (amount : F) : Vector3 F :=
    { value with
      y := value.y + horizontalOffsetM * amount
      z := value.z + verticalOffsetM * amount }
  { point with
    positionM := moved point.positionM bump.value
    velocityMS := moved point.velocityMS bump.velocity
    accelerationMS2 := moved point.accelerationMS2 bump.acceleration }

/-- `_offset_program`. -/
def offsetProgram (program : AcceptedExecutionProgram F) (horizontalOffsetM verticalOffsetM : F) :
    Except (ProgramError F) (AcceptedExecutionProgram F) :=
  rebuildProgram program <| program.operations.map fun operation =>
    match operation.kind with
    | .trajectory trajectory =>
      let durationS := trajectory.durationS
      let offset (point : TrajectoryPoint F) :=
        let phase := point.timeFromStartS / durationS
        let bump := if !eq horizontalOffsetM zero then plateauBump phase durationS
          else sineBump phase durationS
        offsetPoint bump horizontalOffsetM verticalOffsetM point
      { operation with kind := .trajectory (trajectory.mapPoints offset) }
    | _ => operation

section Planning

variable [PyRound F]

/-- Whether a setpoint is within the limits of `_program_admissible`. -/
def admissibleSetpoint (policy : SafetyPolicy F) (setpoint : TrajectorySetpoint F) : Bool :=
  !(!policy.flightVolume.contains setpoint.positionM ||
    lt policy.maxAltitudeM setpoint.positionM.z ||
    lt policy.maxHorizontalSpeedMS (hypot setpoint.velocityMS.x setpoint.velocityMS.y) ||
    lt policy.maxVerticalSpeedMS (PyFloat.abs setpoint.velocityMS.z) ||
    lt policy.maxAccelerationMS2 setpoint.accelerationMS2.length)

/-- `_program_admissible`. -/
def programAdmissible (program : AcceptedExecutionProgram F) (policy : SafetyPolicy F) :
    Except (ProgramError F) Bool :=
  (trajectoryOperations program).allM fun operation =>
    (sampleTimes operation.trajectory.durationS).allM fun timeS =>
      match operation.trajectory.sample timeS with
      | some setpoint => .ok (admissibleSetpoint policy setpoint)
      | none => .error .indexError

/-! ## The five candidates -/

/-- What a search over some options has found. -/
structure Separated (α F : Type) [PyMath F] where
  option : α
  program : AcceptedExecutionProgram F
  prediction : Prediction F

def firstSeparating {α : Type} (programs : List (AcceptedExecutionProgram F)) (roleId : String)
    (requiredSeparationM : F) (build : α → Except (ProgramError F) (AcceptedExecutionProgram F))
    (admits : AcceptedExecutionProgram F → Except (ProgramError F) Bool)
    (accepts : AcceptedExecutionProgram F → Bool) :
    List α → Except (ProgramError F) (Option (Separated α F))
  | [] => .ok none
  | option :: rest => do
    let program ← build option
    let admitted ← admits program
    if admitted then
      let prediction ← predictPair (replaceRole programs roleId program) requiredSeparationM
      if prediction.separates requiredSeparationM && accepts program then
        .ok (some ⟨option, program, prediction⟩)
      else firstSeparating programs roleId requiredSeparationM build admits accepts rest
    else firstSeparating programs roleId requiredSeparationM build admits accepts rest

/-- The two roles of a crossing, the margin between them and the policy they fly under. -/
structure Crossing (F : Type) [PyMath F] where
  precedenceRoleId : String
  heldRoleId : String
  requiredSeparationM : F
  policy : SafetyPolicy F

/-- The programs after a strategy, and its record. -/
abbrev Evaluated (F : Type) [PyMath F] :=
  List (AcceptedExecutionProgram F) × ResolutionCandidate F

variable (crossing : Crossing F) (programs : List (AcceptedExecutionProgram F))

/-- `_staging_candidate`. -/
def stagingCandidate : Except (ProgramError F) (Evaluated F) := do
  let precedence ← byRole programs crossing.precedenceRoleId
  let precedenceTrajectory ← firstTrajectory precedence
  let held ← byRole programs crossing.heldRoleId
  let heldTrajectory ← firstTrajectory held
  let delayS := PyFloat.max zero
    (precedenceTrajectory.endsAtS - heldTrajectory.startsAtS + stagingReleaseBufferS)
  let delayed ← delayBeforeTrajectory held delayS
  let transformed := replaceRole programs crossing.heldRoleId delayed
  let prediction ← predictPair transformed crossing.requiredSeparationM
  let feasible := prediction.separates crossing.requiredSeparationM &&
    le delayed.scheduleDurationS crossing.policy.maxMissionDurationS
  return (transformed, {
    strategy := .stagingHold
    feasible
    precedenceRoleId := crossing.precedenceRoleId
    heldRoleId := crossing.heldRoleId
    stagingPointM := heldTrajectory.trajectory.points.head?.map TrajectoryPoint.positionM
    plannedHoldS := delayS
    predictedMinimumSeparationM := prediction.minimumSeparationM
    addedDurationS := delayS
    reason := if feasible then
        "precedence role clears the conflict while the held role remains at an admitted " ++
        "staging point outside the required separation tube"
      else "staging delay does not satisfy separation or mission duration" })

/-- The factors of `_retiming_candidate`. -/
def retimingFactors : List F :=
  [ofRat 1.25, ofRat 1.5, ofRat 1.75, ofRat 2, ofRat 2.5, ofRat 3, ofRat 3.5, ofRat 4]

/-- `_retiming_candidate`. -/
def retimingCandidate : Except (ProgramError F) (Evaluated F) := do
  let original ← nextOf programs crossing.heldRoleId
  let found ← firstSeparating programs crossing.heldRoleId crossing.requiredSeparationM
    (retimeProgram original) (fun _ => .ok true)
    (fun program => le program.scheduleDurationS crossing.policy.maxMissionDurationS)
    retimingFactors
  let base : ResolutionCandidate F :=
    { strategy := .speedRetiming
      feasible := found.isSome
      precedenceRoleId := crossing.precedenceRoleId
      heldRoleId := crossing.heldRoleId
      reason := if found.isSome then
          "continuous trajectory timing separates the closest-approach instants"
        else "bounded continuous retiming cannot retain the required separation" }
  match found with
  | none => return (programs, base)
  | some separated =>
    return (replaceRole programs crossing.heldRoleId separated.program, { base with
      retimingFactor := some separated.option
      predictedMinimumSeparationM := separated.prediction.minimumSeparationM
      addedDurationS := separated.program.scheduleDurationS - original.scheduleDurationS })

/-- The offsets of `_horizontal_candidate`. -/
def horizontalOffsets (requiredSeparationM : F) : List F :=
  [requiredSeparationM, neg requiredSeparationM, ofRat 1.2, ofRat (-1.2), ofRat 1.5, ofRat (-1.5)]

/-- `_horizontal_candidate`. -/
def horizontalCandidate : Except (ProgramError F) (Evaluated F) := do
  let original ← nextOf programs crossing.heldRoleId
  let found ← firstSeparating programs crossing.heldRoleId crossing.requiredSeparationM
    (fun offsetM => offsetProgram original offsetM zero)
    (fun program => programAdmissible program crossing.policy) (fun _ => true)
    (horizontalOffsets crossing.requiredSeparationM)
  let base : ResolutionCandidate F :=
    { strategy := .horizontalDetour
      feasible := found.isSome
      precedenceRoleId := crossing.precedenceRoleId
      heldRoleId := crossing.heldRoleId
      reason := if found.isSome then
          "smooth in-volume lateral bump separates the crossing trajectories"
        else "bounded horizontal detour does not satisfy separation inside the volume" }
  match found with
  | none => return (programs, base)
  | some separated =>
    return (replaceRole programs crossing.heldRoleId separated.program, { base with
      horizontalDetourM := some separated.option
      predictedMinimumSeparationM := separated.prediction.minimumSeparationM
      addedPathLengthM := if eq separated.option zero then zero
        else PyFloat.abs separated.option * ofRat 2 })

/-- `_vertical_candidate`; the prediction is recorded also where it does not suffice. -/
def verticalCandidate : Except (ProgramError F) (Evaluated F) := do
  let original ← nextOf programs crossing.heldRoleId
  let shifted ← offsetProgram original zero crossing.requiredSeparationM
  let inside ← programAdmissible shifted crossing.policy
  let transformed := replaceRole programs crossing.heldRoleId shifted
  let prediction ← if inside then
      (predictPair transformed crossing.requiredSeparationM).map some
    else .ok none
  let feasible := prediction.any (·.separates crossing.requiredSeparationM)
  return (if feasible then transformed else programs, {
    strategy := .verticalSeparation
    feasible
    precedenceRoleId := crossing.precedenceRoleId
    heldRoleId := crossing.heldRoleId
    verticalOffsetM := crossing.requiredSeparationM
    predictedMinimumSeparationM := prediction.bind Prediction.minimumSeparationM
    reason := if feasible then
        "vertical layer fits the flight volume and retains the required margin"
      else "required vertical layer exceeds altitude, flight-volume, or uncertainty bounds" })

/-- The factors and offsets of `_combined_candidate`, in the order of its two loops. -/
def combinedOptions : List (F × F) :=
  [ofRat 1.5, ofRat 2, ofRat 2.5, ofRat 3, ofRat 3.25].flatMap fun factor =>
    [(factor, ofRat 0.2), (factor, ofRat 0.4), (factor, ofRat 0.6)]

/-- `_combined_candidate`. -/
def combinedCandidate : Except (ProgramError F) (Evaluated F) := do
  let original ← nextOf programs crossing.heldRoleId
  let found ← firstSeparating programs crossing.heldRoleId crossing.requiredSeparationM
    (fun (factor, offsetM) => do
      let retimed ← retimeProgram original factor
      offsetProgram retimed zero offsetM)
    (fun program => programAdmissible program crossing.policy) (fun _ => true) combinedOptions
  let base : ResolutionCandidate F :=
    { strategy := .combinedRetimingVertical
      feasible := found.isSome
      precedenceRoleId := crossing.precedenceRoleId
      heldRoleId := crossing.heldRoleId
      reason := if found.isSome then
          "bounded retiming and vertical offset jointly retain the required margin"
        else "bounded retiming and vertical combinations do not fit all hard constraints" }
  match found with
  | none => return (programs, base)
  | some separated =>
    return (replaceRole programs crossing.heldRoleId separated.program, { base with
      retimingFactor := some separated.option.1
      verticalOffsetM := some separated.option.2
      predictedMinimumSeparationM := separated.prediction.minimumSeparationM
      addedDurationS := separated.program.scheduleDurationS - original.scheduleDurationS })

def candidate : ConflictResolutionStrategy → Except (ProgramError F) (Evaluated F)
  | .stagingHold => stagingCandidate crossing programs
  | .speedRetiming => retimingCandidate crossing programs
  | .horizontalDetour => horizontalCandidate crossing programs
  | .verticalSeparation => verticalCandidate crossing programs
  | .combinedRetimingVertical => combinedCandidate crossing programs

def declaredOrder : List ConflictResolutionStrategy :=
  [.stagingHold, .speedRetiming, .horizontalDetour, .verticalSeparation, .combinedRetimingVertical]

/-- Of two tasks the one with the higher priority, then the lower id, goes first. -/
def precedes (first second : DeploymentTask) : Bool :=
  second.priority < first.priority ||
    (first.priority == second.priority && first.taskId < second.taskId)

/-- `plan_crossing_deconfliction`. -/
def planCrossingDeconfliction (deployment : Deployment F)
    (programs : List (AcceptedExecutionProgram F)) (policy : SafetyPolicy F)
    (allowedStrategies : List ConflictResolutionStrategy) :
    Except (ProgramError F)
      (List (AcceptedExecutionProgram F) × Option (FleetDeconflictionPlan F)) :=
  match deployment.tasksOf "crossing-route" with
  | [firstTask, secondTask] => do
    let roleIds := [firstTask.taskId, secondTask.taskId]
    if !(roleIds.all (programs.map (·.roleId)).contains &&
        (programs.map (·.roleId)).all roleIds.contains) then
      .ok (programs, some (blockedPlan []
        "crossing roles do not have static accepted execution programs" none))
    else
      let first ← byRole programs firstTask.taskId
      let second ← byRole programs secondTask.taskId
      if (trajectoryOperations first).length ≠ 1 || (trajectoryOperations second).length ≠ 1 then
        .ok (programs, some (blockedPlan []
          "crossing deconfliction requires one continuous trajectory per role" none))
      else
        let required := deployment.warningSeparationM + defaultPositionUncertaintyM
        let predicted ← prediction first second required
        if predicted.separates required then
          .ok (programs, some { status := .notRequired })
        else
          let conflict ← conflictContract (firstTask.taskId, secondTask.taskId) first second
            predicted deployment.warningSeparationM required defaultPositionUncertaintyM
          let precedence := if precedes secondTask firstTask then secondTask else firstTask
          let held := if precedes secondTask firstTask then firstTask else secondTask
          let evaluated ← (declaredOrder.filter allowedStrategies.contains).mapM
            (candidate ⟨precedence.taskId, held.taskId, required, policy⟩ programs)
          match evaluated.zipIdx.find? fun ((_, candidate), _) => candidate.feasible with
          | none => .ok (programs, some (blockedPlan (evaluated.map (·.2))
              "no deterministic two-drone resolution candidate is feasible" (some conflict)))
          | some ((selectedPrograms, selected), index) => .ok (selectedPrograms, some {
              status := .resolved
              conflict
              candidates := evaluated.map (·.2)
              selectedStrategy := selected.strategy
              selectedCandidateIndex := index })
  | _ => .ok (programs, none)

end Planning

end Deconfliction

end CrazySwarm
