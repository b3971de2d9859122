import CrazySwarm.Lib.Conditions
import CrazySwarm.Lib.Coroutines
import CrazySwarm.Lib.Dict

/-! The runs of the campaign service: a run is recorded under its idempotency key, waits for one of
the execution slots, and calls the executor, which may do anything. -/
namespace CrazySwarm

inductive CampaignRunMode where
  | automatedAccelerated | operatorObservedRealtime
  deriving DecidableEq, Repr

inductive CampaignRunStatus where
  | queued | running | succeeded | aborted | failed | cancelledBeforeLaunch
  deriving DecidableEq, Repr

/-- What a call raises: an exception of some type, or the cancellation of its task. -/
inductive CampaignRaised where
  | exception (kind text : String)
  | cancelled
  deriving DecidableEq, Repr

structure CampaignRunRecord where
  runId : String
  mode : CampaignRunMode
  status : CampaignRunStatus
  missionExecutionId : Option String := none
  failureReason : Option String := none
  automaticRetryCount : Nat := 0
  deriving DecidableEq, Repr

structure ReviewItem where
  reviewId : String
  runId : String
  status : CampaignRunStatus
  deriving DecidableEq, Repr

structure CampaignExecutionRequest where
  runId : String
  mode : CampaignRunMode
  droneCount : Nat
  /-- Whether `compile_scenario_trace` observes all expected dispositions. -/
  scenario : Except CampaignRaised Bool

/-- A call of `run_active`: its arguments, and what the artifacts it is about give. -/
structure CampaignRunRequest where
  mode : CampaignRunMode
  idempotencyKey : String
  transientRetry : Option (CampaignRaised → Except CampaignRaised Bool) := none
  /-- The digest over the locked inputs, the mode, the key and the time. -/
  runId : String
  /-- The checks and the plan that precede the record. -/
  prepared : Except CampaignRaised Unit := .ok ()
  /-- The checks of the execution request. -/
  authorized : Except CampaignRaised Unit := .ok ()
  droneCount : Nat := 1
  scenario : Except CampaignRaised Bool := .ok true
  /-- How often the call is woken and finds no slot before it is cancelled. -/
  rounds : Nat

/-- What the executor returns, with what the analysis of it gives. -/
structure RunArtifactSet where
  missionExecutionId : String
  /-- `status.upper()`. -/
  upperStatus : String
  /-- The bytes have the hash that is declared. -/
  csvMatches : Bool := true
  /-- Whether all required behavior oracles passed, once the artifacts are stored. -/
  analysis : Except CampaignRaised Bool := .ok true
  /-- The identifier of the review, once it is compared with others. -/
  review : Except CampaignRaised String
  /-- The lifecycle of the case is updated. -/
  lifecycle : Except CampaignRaised Unit := .ok ()

/-- The executor and its own state, waits and replies. -/
structure CampaignExecutor (E V : Type) (S : V → Type) where
  call : CampaignExecutionRequest → Coroutine E V S CampaignRaised RunArtifactSet
  /-- `request_cancel`, where it has one. -/
  requestCancel : String → E → E

structure CampaignService (E : Type) where
  runs : List CampaignRunRecord := []
  reviews : List ReviewItem := []
  idempotency : Dict String String := .empty
  executionCondition : Condition String := {}
  activeExecutionRunIds : List String := []
  cancelled : List String := []
  executor : E

inductive CampaignWait (V : Type) where
  | lock
  | relock
  | slot (runId : String)
  | executor (on : V)

/-- How a sleeper of the condition resumes. -/
inductive SlotReply where
  | notified | cancelled
  deriving DecidableEq, Repr

/-- The reply of `relock` is whether the task has been cancelled meanwhile. -/
def CampaignReply {V : Type} (S : V → Type) : CampaignWait V → Type
  | .lock => Except CampaignRaised Unit
  | .relock => Bool
  | .slot _ => SlotReply
  | .executor on => S on

/-- What a call of the service returns. -/
inductive CampaignResult where
  | review (review : ReviewItem)
  | found (known : Bool)
  | deleted (run : CampaignRunRecord)
  deriving DecidableEq, Repr

abbrev CampaignCall (E V : Type) (S : V → Type) (α : Type) :=
  Coroutine (CampaignService E) (CampaignWait V) (CampaignReply S) CampaignRaised α

def CampaignRunRecord.live (run : CampaignRunRecord) : Bool :=
  run.status == .queued || run.status == .running

namespace CampaignRunRequest

def executionRequest (request : CampaignRunRequest) : CampaignExecutionRequest where
  runId := request.runId
  mode := request.mode
  droneCount := request.droneCount
  scenario := request.scenario

def record (request : CampaignRunRequest) (status : CampaignRunStatus) : CampaignRunRecord where
  runId := request.runId
  mode := request.mode
  status := status

end CampaignRunRequest

namespace CampaignService
open Coroutine

variable {E V : Type} {S : V → Type} {α : Type}

/-- `_reconcile_interrupted_runs`. -/
def reconciled (run : CampaignRunRecord) : CampaignRunRecord :=
  if run.live then
    { run with
      status := .failed
      failureReason := some "process interrupted; partial artifacts retained for review" }
  else run

def create (runs : List CampaignRunRecord) (reviews : List ReviewItem)
    (idempotency : Dict String String) (executor : E) : CampaignService E where
  runs := runs.map reconciled
  reviews := reviews
  idempotency := idempotency
  executor := executor

def updateRun (run : CampaignRunRecord) (s : CampaignService E) : CampaignService E :=
  { s with runs := s.runs.map fun item => if item.runId = run.runId then run else item }

def runOf (s : CampaignService E) (runId : String) : Option CampaignRunRecord :=
  s.runs.find? (·.runId = runId)

def reviewOf (s : CampaignService E) (runId : String) : Option ReviewItem :=
  s.reviews.find? (·.runId = runId)

def withCondition (change : Condition String → Condition String) (s : CampaignService E) :
    CampaignService E :=
  { s with executionCondition := change s.executionCondition }

section Slots

variable (maximumConcurrency : Nat)

/-- `async with self._execution_condition`. -/
def holding (body : CampaignCall E V S α) : CampaignCall E V S α := do
  let s ← get
  if s.executionCondition.locked then
    wait .lock fun reply => ofResult reply
  modify (withCondition .acquire)
  body.ensure (modify (withCondition .release))

/-- A task that finds the lock taken waits for it, however often it is cancelled. -/
def lockAgain (s : CampaignService E) : CampaignCall E V S Bool :=
  if s.executionCondition.locked then wait .relock returns else returns false

/-- The lock is taken again whatever happens; tells whether the task was cancelled meanwhile. -/
def relock : CampaignCall E V S Bool := do
  let s ← get
  let cancelled ← lockAgain s
  modify (withCondition .acquire)
  return cancelled

/-- What `wait` does when it resumes; a cancelled sleeper passes its notification on. -/
def wake (runId : String) (reply : SlotReply) : CampaignCall E V S Unit := do
  modify (withCondition (.leave runId))
  let cancelled ← relock
  if reply == .cancelled || cancelled then
    modify (withCondition (.notify 1))
    raises .cancelled

/-- `Condition.wait`. -/
def sleep (runId : String) : CampaignCall E V S Unit := do
  modify (withCondition (.sleep runId))
  wait (.slot runId) fun reply => wake runId reply

def slotFree (s : CampaignService E) : Bool :=
  s.activeExecutionRunIds.length < maximumConcurrency

/-- `wait_for` a free slot. -/
def waitForSlot (runId : String) : Nat → CampaignCall E V S Unit
  | 0 => do
    let s ← get
    if s.slotFree maximumConcurrency then return ()
    else
      sleep runId
      raises .cancelled
  | rounds + 1 => do
    let s ← get
    if s.slotFree maximumConcurrency then return ()
    else
      sleep runId
      waitForSlot runId rounds

def takeSlot (runId : String) (s : CampaignService E) : CampaignService E :=
  { s with activeExecutionRunIds := s.activeExecutionRunIds.insert runId }

def freeSlot (runId : String) (s : CampaignService E) : CampaignService E :=
  { s with activeExecutionRunIds := s.activeExecutionRunIds.filter (· ≠ runId) }

def acquireExecutionSlot (runId : String) (rounds : Nat) : CampaignCall E V S Unit :=
  holding do
    waitForSlot maximumConcurrency runId rounds
    modify (takeSlot runId)

def releaseExecutionSlot (runId : String) : CampaignCall E V S Unit :=
  holding do
    modify (freeSlot runId)
    modify (withCondition .notifyAll)

end Slots

section Run

variable (executor : CampaignExecutor E V S) (request : CampaignRunRequest)

/-- `next` raises an exception that a coroutine lets out as this one. -/
def stopIteration : CampaignRaised := .exception "RuntimeError" "coroutine raised StopIteration"

/-- A run whose task ends is brought to its end, and the exception goes on. -/
def finishRun (raised : CampaignRaised) (finish : CampaignRunRecord → CampaignRunRecord)
    (unfinished : CampaignRunRecord → Bool) : CampaignCall E V S α := do
  let s ← get
  match s.runOf request.runId with
  | none => raises stopIteration
  | some current =>
    if unfinished current then modify (updateRun (finish current))
    raises raised

def cancelQueued (current : CampaignRunRecord) : CampaignRunRecord :=
  { current with
    status := .cancelledBeforeLaunch
    failureReason := some "campaign launch task was cancelled before execution" }

def cancelLaunched (current : CampaignRunRecord) : CampaignRunRecord :=
  if current.status = .queued then cancelQueued current
  else { current with
    status := .failed
    failureReason :=
      some "campaign execution task was cancelled; partial artifacts retained for review" }

def failLaunched (text : String) (current : CampaignRunRecord) : CampaignRunRecord :=
  { current with status := .failed, failureReason := some text }

/-- The handlers of the launched part of `run_active`. -/
def onRaised : CampaignRaised → CampaignCall E V S α
  | .cancelled => finishRun request .cancelled cancelLaunched (·.live)
  | .exception kind text =>
    finishRun request (.exception kind text) (failLaunched text) (·.live)

/-- The run is recorded with its key. -/
def enqueue (s : CampaignService E) : CampaignService E :=
  { s with
    runs := s.runs ++ [request.record .queued]
    idempotency := s.idempotency.insert request.idempotencyKey request.runId }

def execute : CampaignCall E V S RunArtifactSet :=
  (executor.call request.executionRequest).zoom (·.executor) (fun e s => { s with executor := e })
    .executor fun _ reply => reply

def giveUp (attempts : Nat) : CampaignRaised → CampaignCall E V S α
  | .cancelled => raises .cancelled
  | .exception kind text => do
    modify (updateRun { request.record .failed with
      failureReason := some text
      automaticRetryCount := attempts })
    raises (.exception kind text)

/-- `transient_retry is not None and transient_retry(error)`. -/
def retries (raised : CampaignRaised) : Except CampaignRaised Bool :=
  match request.transientRetry with
  | none => .ok false
  | some transientRetry => transientRetry raised

/-- The second attempt is the last. -/
def onFailed : CampaignRaised → CampaignCall E V S RunArtifactSet
  | .cancelled => raises .cancelled
  | .exception kind text => do
    let again ← ofResult (retries request (.exception kind text))
    if again then (execute executor request).rescue (giveUp request 1)
    else giveUp request 0 (.exception kind text)

def attempts : CampaignCall E V S RunArtifactSet :=
  (execute executor request).rescue (onFailed executor request)

/-- `_run_status`. -/
def runStatus (upper : String) : CampaignRunStatus :=
  if upper ∈ ["SUCCEEDED", "PASSED"] then .succeeded
  else if upper = "ABORTED" then .aborted
  else .failed

def finished (artifacts : RunArtifactSet) (passed : Bool) : CampaignRunRecord :=
  let status := runStatus artifacts.upperStatus
  let oracleFailure := status == .succeeded && !passed
  { request.record (if oracleFailure then .failed else status) with
    missionExecutionId := some artifacts.missionExecutionId
    failureReason := if oracleFailure then some "one or more required behavior oracles failed"
      else none }

def addReview (review : ReviewItem) (s : CampaignService E) : CampaignService E :=
  { s with reviews := s.reviews ++ [review] }

/-- `_intake`. -/
def intake (artifacts : RunArtifactSet) : CampaignCall E V S ReviewItem := do
  let passed ← ofResult artifacts.analysis
  let run := finished request artifacts passed
  modify (updateRun run)
  let reviewId ← ofResult artifacts.review
  let review : ReviewItem := ⟨reviewId, run.runId, run.status⟩
  modify (addReview review)
  ofResult artifacts.lifecycle
  return review

/-- The part of `run_active` that holds a slot. -/
def launch : CampaignCall E V S ReviewItem := do
  let s ← get
  if request.runId ∈ s.cancelled then
    modify (updateRun (request.record .cancelledBeforeLaunch))
    raises .cancelled
  else
    ofResult request.authorized
    modify (updateRun (request.record .running))
    let artifacts ← attempts executor request
    if !artifacts.csvMatches then
      raises (.exception "ValueError" "executor CSV bytes do not match the declared hash")
    intake request artifacts

def launched : CampaignCall E V S ReviewItem :=
  ((launch executor request).rescue (onRaised request)).ensure (releaseExecutionSlot request.runId)

/-- The part of `run_active` that waits for its slot. -/
def queue (maximumConcurrency : Nat) : CampaignCall E V S Unit :=
  (acquireExecutionSlot maximumConcurrency request.runId request.rounds).rescue fun raised =>
    if raised = .cancelled then
      finishRun request .cancelled cancelQueued fun current => current.status == .queued
    else raises raised

def runNew (maximumConcurrency : Nat) : CampaignCall E V S ReviewItem := do
  modify (enqueue request)
  queue request maximumConcurrency
  launched executor request

end Run

section Operations

variable (executor : Option (CampaignExecutor E V S)) (maximumConcurrency : Nat)

def runActive (request : CampaignRunRequest) : CampaignCall E V S ReviewItem := do
  let s ← get
  match s.idempotency.get? request.idempotencyKey with
  | some existing =>
    match s.reviewOf existing with
    | none => raises (.exception "RuntimeError" "idempotent campaign run is still incomplete")
    | some review => return review
  | none =>
    match executor with
    | none => raises (.exception "RuntimeError"
        "campaign execution requires an explicitly configured Fast Sim executor")
    | some executor =>
      ofResult request.prepared
      runNew executor request maximumConcurrency

def cancelQueuedRun (runId : String) (s : CampaignService E) : CampaignService E :=
  match s.runs.find? fun item => item.runId = runId ∧ item.status = .queued with
  | none => s
  | some queued => s.updateRun { queued with status := .cancelledBeforeLaunch }

def requestCancel (runId : String) (s : CampaignService E) : CampaignService E :=
  match executor with
  | none => s
  | some executor => { s with executor := executor.requestCancel runId s.executor }

def markCancelled (runId : String) (s : CampaignService E) : CampaignService E :=
  { s with cancelled := s.cancelled.insert runId }

/-- What `cancel` does to the service and its executor. -/
def withCancel (runId : String) (s : CampaignService E) : CampaignService E :=
  requestCancel executor runId (cancelQueuedRun runId (markCancelled runId s))

def cancel (runId : String) : CampaignCall E V S Bool := do
  modify (withCancel executor runId)
  let s ← get
  return s.runs.any (·.runId = runId)

/-- `validate_run_deletion`, where an approved review may forbid it. -/
def validateRunDeletion (runId : String) (permitted : Bool) (s : CampaignService E) :
    Except CampaignRaised CampaignRunRecord :=
  match s.runOf runId with
  | none => .error (.exception "KeyError" ("unknown campaign run: " ++ runId))
  | some run =>
    if run.live then
      .error (.exception "ValueError" "an active campaign run cannot be deleted")
    else if permitted then .ok run
    else .error (.exception "PermissionError"
      "approved campaign baseline evidence cannot be deleted")

/-- The run goes with its reviews and its keys. -/
def withoutRun (runId : String) (s : CampaignService E) : CampaignService E :=
  { s with
    cancelled := s.cancelled.filter (· ≠ runId)
    runs := s.runs.filter (·.runId ≠ runId)
    reviews := s.reviews.filter (·.runId ≠ runId)
    idempotency := s.idempotency.filterValues (· ≠ runId) }

def deleteRun (runId : String) (permitted : Bool) : CampaignCall E V S CampaignRunRecord := do
  let s ← get
  let run ← ofResult (s.validateRunDeletion runId permitted)
  modify (withoutRun runId)
  return run

inductive Operation where
  | runActive (request : CampaignRunRequest)
  | cancel (runId : String)
  | deleteRun (runId : String) (permitted : Bool)

def program : Operation → CampaignCall E V S CampaignResult
  | .runActive request => do
    let review ← runActive executor maximumConcurrency request
    return .review review
  | .cancel runId => do
    let known ← cancel executor runId
    return .found known
  | .deleteRun runId permitted => do
    let run ← deleteRun runId permitted
    return .deleted run

end Operations

end CampaignService
end CrazySwarm
