import CrazySwarm.MissionRunner
import CrazySwarm.Lib.Coroutines

/-! The owner of one execution: it prepares the fleet, runs the mission or the fleet coordinator,
and can be cancelled at any of its waits. What it waits for may end in any way. -/
namespace CrazySwarm

inductive ExecutionStatus where
  | scheduled | preparing | ready | running | succeeded | degraded | aborted | failed
  deriving DecidableEq, Repr

inductive FleetStatus where
  | succeeded | degraded | aborted | failed
  deriving DecidableEq, Repr

inductive ExecutionResult where
  | mission (status : MissionStatus) (reasonCode message : String)
  | fleet (status : FleetStatus) (reasonCode message : String)
  deriving DecidableEq, Repr

structure ExecutionRecord where
  status : ExecutionStatus
  result : Option ExecutionResult
  reasonCode : Option String
  message : String
  deriving DecidableEq, Repr

/-- What a call raises: the error of the application, an exception of another type, or the
cancellation of the task. -/
inductive ExecutionRaised where
  | error (code : ErrorCode) (message : String)
  | exception (kind text : String)
  | cancelled
  deriving DecidableEq, Repr

inductive PreparationStage where
  | connectAll | startObservation | stabilizeObservations | runPreflight | refreshObservations
  deriving DecidableEq, Repr

/-- Where active work is being cancelled. -/
inductive CancelSite where
  | cancelled | failed | called
  deriving DecidableEq, Repr

inductive ExecutionWait where
  | prepare (stage : PreparationStage)
  | mission
  | cancelActive (site : CancelSite)
  | disconnectAllSafe
  deriving DecidableEq, Repr

/-- The reply to the last stage of the preparation is also that of `require_ready`. -/
def ExecutionReply : ExecutionWait → Type
  | .mission => Except ExecutionRaised ExecutionResult
  | _ => Except ExecutionRaised Unit

structure ExecutionCoordinator where
  status : ExecutionStatus := .scheduled
  message : String := "mission deployment scheduled"
  reasonCode : Option String := none
  result : Option ExecutionResult := none
  cancelRequested : Bool := false
  cleanupComplete : Bool := false
  deriving DecidableEq, Repr

inductive ExecutionOwner where
  | fleetCoordinator
  | missionRunner (arguments : Except ExecutionRaised Unit)

abbrev ExecutionCall (α : Type) :=
  Coroutine ExecutionCoordinator ExecutionWait ExecutionReply ExecutionRaised α

namespace ExecutionCoordinator
open Coroutine

variable (owner : ExecutionOwner)

def record (s : ExecutionCoordinator) : ExecutionRecord where
  status := s.status
  result := if s.cleanupComplete then s.result else none
  reasonCode := s.reasonCode
  message := s.message

def terminal (s : ExecutionCoordinator) : Bool :=
  s.status ∈ [ExecutionStatus.succeeded, .degraded, .aborted, .failed]

def setStatus (status : ExecutionStatus) (message : String) (s : ExecutionCoordinator) :
    ExecutionCoordinator :=
  { s with status, message }

def setTerminal (status : ExecutionStatus) (reasonCode message : String)
    (s : ExecutionCoordinator) : ExecutionCoordinator :=
  { s with status, message, reasonCode := some reasonCode }

def setCancelled (message : String) : ExecutionCoordinator → ExecutionCoordinator :=
  setTerminal .aborted "EXECUTION_CANCELLED" message

def requestCancel (s : ExecutionCoordinator) : ExecutionCoordinator :=
  { s with cancelRequested := true }

/-- `_apply_mission_result` and `_apply_fleet_result`. -/
def applyResult (s : ExecutionCoordinator) : ExecutionResult → ExecutionCoordinator
  | .mission .succeeded reasonCode message => s.setTerminal .succeeded reasonCode message
  | .mission .aborted reasonCode message => s.setTerminal .aborted reasonCode message
  | .mission .failed reasonCode message => s.setTerminal .failed reasonCode message
  | .fleet .succeeded reasonCode message => s.setTerminal .succeeded reasonCode message
  | .fleet .degraded reasonCode message => s.setTerminal .degraded reasonCode message
  | .fleet .aborted reasonCode message => s.setTerminal .aborted reasonCode message
  | .fleet .failed reasonCode message => s.setTerminal .failed reasonCode message

def stage (stage : PreparationStage) : ExecutionCall Unit :=
  wait (.prepare stage) fun reply => ofResult reply

def prepare : ExecutionCall Unit := do
  stage .connectAll
  stage .startObservation
  stage .stabilizeObservations
  stage .runPreflight
  stage .refreshObservations

/-- The fleet coordinator's run, or `_run_single`. -/
def runMission : ExecutionCall ExecutionResult :=
  match owner with
  | .missionRunner (.error raised) => raises raised
  | _ => wait .mission fun reply => ofResult reply

def escapes : ExecutionRaised → Bool
  | .error .. => match owner with
    | .fleetCoordinator => true
    | .missionRunner _ => false
  | _ => true

/-- `_cancel_active`. -/
def cancelActive (site : CancelSite) : ExecutionCall Unit :=
  wait (.cancelActive site) fun
    | .error raised => if escapes owner raised then raises raised else returns ()
    | .ok _ => returns ()

def finished (fleet : Bool) (result : ExecutionResult) (s : ExecutionCoordinator) :
    ExecutionCoordinator :=
  let s := { s with result := some result }
  if s.cancelRequested then
    s.setCancelled (if fleet then "execution cancellation completed with bounded fleet cleanup"
      else "execution cancellation completed with bounded mission cleanup")
  else s.applyResult result

def isFleet : Bool :=
  match owner with
  | .fleetCoordinator => true
  | .missionRunner _ => false

/-- The body of `run`, which returns early with the record of the moment. -/
def attempt : ExecutionCall (Option ExecutionRecord) := do
  modify (setStatus .preparing "initializing and verifying mission deployment")
  prepare
  modify (setStatus .ready "required fleet is ready")
  let s ← get
  if s.cancelRequested then
    modify (setCancelled "execution was cancelled before mission start")
    let s ← get
    return some s.record
  else
    modify (setStatus .running "starting verified mission roles")
    let result ← runMission owner
    modify (finished (isFleet owner) result)
    return none

/-- The handlers of `run`. -/
def onRaised : ExecutionRaised → ExecutionCall (Option ExecutionRecord)
  | .cancelled => do
    modify requestCancel
    cancelActive owner .cancelled
    modify (setCancelled "execution task was cancelled")
    return none
  | .error code message => do
    cancelActive owner .failed
    modify (setTerminal .failed code.value message)
    return none
  | .exception kind text => do
    cancelActive owner .failed
    modify (setTerminal .failed "EXECUTION_EXCEPTION" (kind ++ ": " ++ text))
    return none

/-- `suppress(CrazySwarmError, TimeoutError)`. -/
def suppressed : ExecutionRaised → Bool
  | .error .. => true
  | .exception kind _ => kind == "TimeoutError"
  | .cancelled => false

def complete (s : ExecutionCoordinator) : ExecutionCoordinator :=
  { s with cleanupComplete := true }

/-- The `finally` of `run`. -/
def cleanUp : ExecutionCall Unit :=
  wait .disconnectAllSafe fun
    | .error raised => if suppressed raised then modify complete else raises raised
    | .ok _ => modify complete

def returned (early : Option ExecutionRecord) : ExecutionCall ExecutionRecord := do
  let s ← get
  return early.getD s.record

def run : ExecutionCall ExecutionRecord := do
  let early ← ((attempt owner).rescue (onRaised owner)).ensure cleanUp
  returned early

def endCancelled (s : ExecutionCoordinator) : ExecutionCoordinator :=
  if s.terminal then s else s.setCancelled "execution cancellation requested"

/-- The end of `cancel`, after the active work. -/
def conclude : ExecutionCall ExecutionRecord := do
  modify endCancelled
  let s ← get
  return s.record

def cancel : ExecutionCall ExecutionRecord := do
  let s ← get
  if s.terminal && s.cleanupComplete then return s.record
  else
    modify requestCancel
    cancelActive owner .called
    conclude

inductive Operation where
  | run | cancel
  deriving DecidableEq, Repr

def program : Operation → ExecutionCall ExecutionRecord
  | .run => run owner
  | .cancel => cancel owner

end ExecutionCoordinator
end CrazySwarm
