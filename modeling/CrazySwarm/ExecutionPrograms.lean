import CrazySwarm.Trajectory
import CrazySwarm.Numbers

/-! Accepted execution programs: their operations on one schedule, the contract they must meet,
and the predicted separation of two of them. -/
namespace CrazySwarm
open PyFloat PyMath

variable {F : Type} [PyMath F]

namespace TrajectoryData

/-- The last knot's time, also of a trajectory that was copied without validation. -/
def durationS (data : TrajectoryData F) : F :=
  (data.points.getLast?.map TrajectoryPoint.timeFromStartS).getD PyFloat.zero

/-- `sample_trajectory`, also of a trajectory that was copied without validation. -/
def sample (data : TrajectoryData F) (sampleTimeS : F) : Option (TrajectorySetpoint F) :=
  let boundedTimeS := PyFloat.max PyFloat.zero (PyFloat.min data.durationS sampleTimeS)
  let index := Nat.min (data.points.length - 2) (bisectRight data.points boundedTimeS - 1)
  match data.points[index]?, data.points[index + 1]? with
  | some start, some «end» => some (sampleTrajectorySegment start «end» boundedTimeS)
  | _, _ => none

end TrajectoryData

namespace ExecutionPrograms

/-- What building or sampling a program raises. -/
inductive ProgramError (F : Type) where
  | contract (fault : Fault F)
  | indexError
  | keyError (roleId : String)
  | stopIteration
  deriving DecidableEq, Repr

/-- The trajectory of an operation. A copy with other points is not validated again, but no copy
drops one of the points. -/
structure OperationTrajectory (F : Type) extends TrajectoryData F where
  twoPoints : 2 ≤ points.length
  deriving DecidableEq, Repr

/-- A copy with each point replaced. -/
def OperationTrajectory.mapPoints (trajectory : OperationTrajectory F)
    (f : TrajectoryPoint F → TrajectoryPoint F) : OperationTrajectory F :=
  { trajectory with
    points := trajectory.points.map f
    twoPoints := by simpa using trajectory.twoPoints }

inductive OperationKind (F : Type) where
  | takeoff | groundWait | hold | land
  | trajectory (trajectory : OperationTrajectory F)
  deriving DecidableEq, Repr

structure ExecutionOperation (F : Type) where
  kind : OperationKind F
  sequence : Nat
  startsAtS : F
  endsAtS : F
  deriving DecidableEq, Repr

namespace ExecutionOperation

/-- The field checks of an operation and `identity_matches`; a copy does not run them again. -/
def valid (operation : ExecutionOperation F) : Bool :=
  1 ≤ operation.sequence && ge operation.startsAtS zero && gt operation.endsAtS zero &&
    match operation.kind with
    | .trajectory trajectory =>
      trajectory.validate.toBool &&
        isClose (operation.endsAtS - operation.startsAtS) trajectory.durationS (ofRat 1e-9)
    | _ => true

def isGroundWait (operation : ExecutionOperation F) : Bool :=
  match operation.kind with
  | .groundWait => true
  | _ => false

def isHold (operation : ExecutionOperation F) : Bool :=
  match operation.kind with
  | .hold => true
  | _ => false

/-- Renumber an operation and begin and end it later. -/
def shifted (operation : ExecutionOperation F) (sequence : Nat) (delayS : F) :
    ExecutionOperation F :=
  { operation with
    sequence
    startsAtS := operation.startsAtS + delayS
    endsAtS := operation.endsAtS + delayS }

end ExecutionOperation

structure ProgramData (F : Type) where
  programId : String
  roleId : String
  operations : List (ExecutionOperation F)
  scheduleDurationS : F
  contingencyReserveS : F
  recoveryReserveS : F
  executionTimeoutS : F
  deriving DecidableEq, Repr

namespace ProgramData

def fieldChecks (data : ProgramData F) : List (String × Bool) :=
  [("program_id", isIdentifier data.programId), ("role_id", isIdentifier data.roleId),
   ("operations", !data.operations.isEmpty),
   ("schedule_duration_s", gt data.scheduleDurationS zero),
   ("contingency_reserve_s", ge data.contingencyReserveS zero),
   ("recovery_reserve_s", ge data.recoveryReserveS zero),
   ("execution_timeout_s", gt data.executionTimeoutS zero)]

/-- `coherent_schedule`, as far as it is about the fields kept here. -/
def coherentSchedule (data : ProgramData F) : Except (Fault F) Unit := do
  require (data.operations.map ExecutionOperation.sequence == List.range' 1 data.operations.length)
    (.value "execution operation sequences must be contiguous")
  require (data.operations.head?.all fun first => eq first.startsAtS zero)
    (.value "execution program must begin at zero")
  require ((data.operations.zip data.operations.tail).all fun (previous, current) =>
      isClose previous.endsAtS current.startsAtS (ofRat 1e-9))
    (.value "execution operations must form one continuous schedule")
  require (data.operations.getLast?.all fun last =>
      isClose last.endsAtS data.scheduleDurationS (ofRat 1e-9))
    (.value "execution program duration contradicts its operations")
  require (isClose data.executionTimeoutS
      (data.scheduleDurationS + data.contingencyReserveS + data.recoveryReserveS) (ofRat 1e-9))
    (.value "execution timeout contradicts declared schedule reserves")

def validate (data : ProgramData F) : Except (Fault F) Unit := do
  validated "AcceptedExecutionProgram" data.fieldChecks ()
  data.coherentSchedule

end ProgramData

structure AcceptedExecutionProgram (F : Type) [PyMath F] extends ProgramData F where
  valid : toProgramData.validate = .ok ()
  deriving DecidableEq

/-- `AcceptedExecutionProgram.model_validate`. -/
def modelValidate (data : ProgramData F) : Except (ProgramError F) (AcceptedExecutionProgram F) :=
  match valid : data.validate with
  | .ok () => .ok ⟨data, valid⟩
  | .error fault => .error (.contract fault)

theorem modelValidate_eq_ok {data : ProgramData F} {program : AcceptedExecutionProgram F}
    (ok : modelValidate data = .ok program) : program.toProgramData = data := by
  unfold modelValidate at ok
  split at ok
  · cases ok
    rfl
  · cases ok

structure TrajectoryOperation (F : Type) where
  startsAtS : F
  endsAtS : F
  trajectory : OperationTrajectory F
  deriving DecidableEq, Repr

def ExecutionOperation.trajectory? (operation : ExecutionOperation F) :
    Option (TrajectoryOperation F) :=
  match operation.kind with
  | .trajectory trajectory => some ⟨operation.startsAtS, operation.endsAtS, trajectory⟩
  | _ => none

/-- `_trajectory_operations`. -/
def trajectoryOperations (program : AcceptedExecutionProgram F) : List (TrajectoryOperation F) :=
  program.operations.filterMap ExecutionOperation.trajectory?

/-- `_trajectory_operations(program)[0]`. -/
def firstTrajectory (program : AcceptedExecutionProgram F) :
    Except (ProgramError F) (TrajectoryOperation F) :=
  match trajectoryOperations program with
  | operation :: _ => .ok operation
  | [] => .error .indexError

/-- Where a trajectory operation has its vehicle: before it at its first point, after it at its
last one. -/
def TrajectoryOperation.position (operation : TrajectoryOperation F) (timeS : F) :
    Except (ProgramError F) (Vector3 F) :=
  let place (point : Option (Vector3 F)) : Except (ProgramError F) (Vector3 F) :=
    match point with
    | some positionM => .ok positionM
    | none => .error .indexError
  if le timeS operation.startsAtS then
    place (operation.trajectory.points.head?.map TrajectoryPoint.positionM)
  else if le operation.endsAtS timeS then
    place (operation.trajectory.points.getLast?.map TrajectoryPoint.positionM)
  else
    place ((operation.trajectory.sample (timeS - operation.startsAtS)).map
      TrajectorySetpoint.positionM)

/-- `_program_position`. -/
def programPosition (program : AcceptedExecutionProgram F) (timeS : F) :
    Except (ProgramError F) (Vector3 F) := do
  let operation ← firstTrajectory program
  operation.position timeS

/-- `_distance`. -/
def distance (first second : Vector3 F) : F :=
  sqrt (pow (first.x - second.x) 2 + pow (first.y - second.y) 2 + pow (first.z - second.z) 2)

def predictionStepS : F := ofRat 0.02

section Prediction

variable [PyRound F]

/-- `max(1, math.ceil(duration_s / PREDICTION_STEP_S))`. -/
def sampleCount (durationS : F) : Nat :=
  Nat.max 1 (PyRound.ceil (durationS / predictionStepS)).toNat

def sampleTimes (durationS : F) : List F :=
  (List.range (sampleCount durationS + 1)).map fun index : Nat =>
    PyFloat.min durationS (ofRat index * durationS / ofRat (sampleCount durationS))

/-- The joint schedule ends with the later program. -/
def jointDurationS (first second : AcceptedExecutionProgram F) : F :=
  PyFloat.max first.scheduleDurationS second.scheduleDurationS

/-- No minimum stands for an infinite one. -/
structure Prediction (F : Type) where
  minimumSeparationM : Option F := none
  closestApproachS : F
  conflictStartS : Option F := none
  conflictEndS : Option F := none
  deriving DecidableEq, Repr

namespace Prediction

/-- `minimum_separation_m >= required_separation_m`. -/
def separates (prediction : Prediction F) (requiredSeparationM : F) : Bool :=
  prediction.minimumSeparationM.all fun minimum => le requiredSeparationM minimum

def step (requiredSeparationM : F) (prediction : Prediction F) (sample : F × F) : Prediction F :=
  let (timeS, distanceM) := sample
  let closer := prediction.minimumSeparationM.all fun minimum => lt distanceM minimum
  let conflict := lt distanceM requiredSeparationM
  { minimumSeparationM := if closer then some distanceM else prediction.minimumSeparationM
    closestApproachS := if closer then timeS else prediction.closestApproachS
    conflictStartS := if conflict then
        some (prediction.conflictStartS.elim timeS fun start => PyFloat.min start timeS)
      else prediction.conflictStartS
    conflictEndS := if conflict then
        some (prediction.conflictEndS.elim timeS fun «end» => PyFloat.max «end» timeS)
      else prediction.conflictEndS }

end Prediction

def separationAt (first second : AcceptedExecutionProgram F) (timeS : F) :
    Except (ProgramError F) F := do
  let firstM ← programPosition first timeS
  let secondM ← programPosition second timeS
  return distance firstM secondM

/-- `_prediction`. -/
def prediction (first second : AcceptedExecutionProgram F) (requiredSeparationM : F) :
    Except (ProgramError F) (Prediction F) := do
  let samples ← (sampleTimes (jointDurationS first second)).mapM fun timeS => do
    let distanceM ← separationAt first second timeS
    return (timeS, distanceM)
  return samples.foldl (Prediction.step requiredSeparationM) { closestApproachS := zero }

end Prediction

/-- `_rebuild_program`. -/
def rebuildProgram (original : AcceptedExecutionProgram F)
    (operations : List (ExecutionOperation F)) :
    Except (ProgramError F) (AcceptedExecutionProgram F) :=
  match operations.getLast? with
  | none => .error .indexError
  | some last => modelValidate { original.toProgramData with
      programId := original.programId ++ "-resolved"
      operations
      scheduleDurationS := last.endsAtS
      executionTimeoutS :=
        last.endsAtS + original.contingencyReserveS + original.recoveryReserveS }

theorem rebuildProgram_eq_ok {original program : AcceptedExecutionProgram F}
    {operations : List (ExecutionOperation F)}
    (ok : rebuildProgram original operations = .ok program) :
    program.operations = operations ∧ program.roleId = original.roleId ∧
      ∃ last, operations.getLast? = some last ∧ program.scheduleDurationS = last.endsAtS := by
  unfold rebuildProgram at ok
  split at ok
  · cases ok
  · next last found =>
    have data := modelValidate_eq_ok ok
    exact ⟨by rw [data], by rw [data], last, found, by rw [data]⟩

/-- Construct an operation, whose fields are checked then. -/
def newOperation (model : String) (kind : OperationKind F) (sequence : Nat) (startsAtS endsAtS : F) :
    Except (ProgramError F) (ExecutionOperation F) :=
  (validated model
    [("sequence", 1 ≤ sequence), ("starts_at_s", ge startsAtS zero), ("ends_at_s", gt endsAtS zero)]
    ⟨kind, sequence, startsAtS, endsAtS⟩).mapError .contract

def shiftFrom (place : Nat) (delayS : F) (operations : List (ExecutionOperation F)) :
    List (ExecutionOperation F) :=
  operations.mapIdx fun index operation => operation.shifted (place + index + 1) delayS

/-- `_delay_before_launch`. -/
def delayBeforeLaunch (program : AcceptedExecutionProgram F) (delayS : F) :
    Except (ProgramError F) (AcceptedExecutionProgram F) :=
  if le delayS zero then .ok program
  else
    match program.operations with
    | [] => .error .indexError
    | first :: rest =>
      if first.isGroundWait then
        rebuildProgram program
          ({ first with endsAtS := first.endsAtS + delayS } :: shiftFrom 1 delayS rest)
      else do
        let wait ← newOperation "GroundWaitExecutionOperation" .groundWait 1 zero delayS
        rebuildProgram program (wait :: shiftFrom 1 delayS (first :: rest))

end ExecutionPrograms

end CrazySwarm
