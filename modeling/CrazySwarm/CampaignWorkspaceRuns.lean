import CrazySwarm.CampaignWorkspace

/-! The runs and the reviews of the campaign workspace. Each operation is the code between two
waits: a call of `run_active` is queued, takes a slot and calls the executor, and what the executor,
the analysis and the operator give is part of the operation. -/
namespace CrazySwarm
namespace CampaignWorkspace
open Call

/-- A call of `run_active`, with the digest that identifies its run and the plan that its checks and
its planner give. -/
structure RunRequest where
  mode : CampaignRunMode
  idempotencyKey : String
  digest : String
  planned : Except CampaignRaised String

def RunRequest.runId (request : RunRequest) : String := "campaign-run-" ++ request.digest

structure AnalyzedArtifacts where
  analysis : MissionAnalysis
  passed : Bool

structure ReviewComparisons where
  baseline : List (String × String)
  crossCaseProfile : List (String × String)
  mode : Option (List (String × String))

/-- The artifacts of a run, with what is computed of them. -/
structure WorkspaceArtifacts where
  missionExecutionId : String
  upperStatus : String
  files : EvidenceFiles
  csvMatches : Bool := true
  analyzed : Except CampaignRaised AnalyzedArtifacts
  compared : Except CampaignRaised ReviewComparisons

/-- The bytes of an import, with what is read of them. -/
structure ImportRequest where
  caseId : String
  files : EvidenceFiles
  parsed : Except CampaignRaised Unit
  missionExecutionId : String
  upperStatus : String
  planned : Except CampaignRaised String
  analyzed : Except CampaignRaised AnalyzedArtifacts
  compared : Except CampaignRaised ReviewComparisons

section Intake

variable (digests : CampaignDigests)

def finishedRun (run : WorkspaceRun) (artifacts : WorkspaceArtifacts) (artifactHash : String)
    (analyzed : AnalyzedArtifacts) : WorkspaceRun :=
  let status := CampaignService.runStatus artifacts.upperStatus
  let oracleFailure := status = .succeeded && !analyzed.passed
  { run with
    status := if oracleFailure then .failed else status
    missionExecutionId := some artifacts.missionExecutionId
    artifactSetSha256 := some artifactHash
    analysisSha256 := some analyzed.analysis.analysisSha256
    failureReason := if oracleFailure then some "one or more required behavior oracles failed"
      else run.failureReason }

def newReview (case : CatalogCase) (run : WorkspaceRun) (planSha256 artifactHash : String)
    (analysis : MissionAnalysis) (compared : ReviewComparisons) : WorkspaceReview :=
  let review : WorkspaceReview :=
    { reviewId := "review-" ++ digests.review run.runId artifactHash
      runId := run.runId
      status := run.status
      caseId := case.caseId
      caseSha256 := case.caseSha256
      planSha256 := planSha256
      artifactSetSha256 := artifactHash
      analysis := analysis
      baselineComparison := compared.baseline
      crossCaseProfileComparison := compared.crossCaseProfile
      modeComparison := compared.mode
      operatorQuestions := case.operatorObservationQuestions
      reviewSha256 := "" }
  { review with reviewSha256 := digests.payload review.intakePayload }

def store (missionExecutionId : String) (files : EvidenceFiles) (finished : WorkspaceRun) :
    WorkspaceCall Unit := do
  modify fun w => { w with evidence := w.evidence.insert missionExecutionId files }
  updateRun finished

/-- The review is kept, and its run is one of the case. -/
def keepReview (review : WorkspaceReview) : WorkspaceCall Unit := do
  setState fun state => { state with reviews := state.reviews ++ [review] }
  let record ← lifecycleOf review.caseId
  replaceLifecycle { record with runIds := record.runIds ++ [review.runId] }

/-- `_intake`. -/
def intake (case : CatalogCase) (run : WorkspaceRun) (artifacts : WorkspaceArtifacts)
    (planSha256 artifactHash : String) : WorkspaceCall WorkspaceReview := do
  let analyzed ← ofResult artifacts.analyzed
  let finished := finishedRun run artifacts artifactHash analyzed
  store artifacts.missionExecutionId artifacts.files finished
  let compared ← ofResult artifacts.compared
  let review := newReview digests case finished planSha256 artifactHash analyzed.analysis compared
  keepReview review
  return review

end Intake

section Runs

variable (digests : CampaignDigests)

/-- The record of a call of `run_active`. -/
def queuedRun (request : RunRequest) (case : CatalogCase) (planSha256 : String) : WorkspaceRun where
  runId := request.runId
  mode := request.mode
  status := .queued
  lockedInputs := .fromCase case
  planSha256 := planSha256

/-- `run_active` up to its wait for a slot, or the review of the run that the key names. -/
def requestRun (request : RunRequest) : WorkspaceCall (Option WorkspaceReview) := do
  let w ← read id
  match w.state.idempotency.get? request.idempotencyKey with
  | some existing =>
    ofResult (match w.state.reviewOfRun existing with
      | some review => .ok (some review)
      | none => .error (raised "RuntimeError" "idempotent campaign run is still incomplete"))
  | none =>
    let case ← activeCase
    ofResult (assertModeEligible case.executionEligibility request.mode)
    let planSha256 ← ofResult request.planned
    let record := queuedRun request case planSha256
    commit fun state => { state with
      runs := state.runs ++ [record]
      idempotency := state.idempotency.insert request.idempotencyKey request.runId }
    modify fun w => { w with inFlight := w.inFlight ++ [{ record := record, case := case }] }
    return none

def flightOf (runId : String) (executing : Bool) : WorkspaceCall RunInFlight := do
  let w ← read id
  ofResult (match w.inFlight.find? fun flight =>
      flight.record.runId = runId && flight.executing = executing with
    | some flight => .ok flight
    | none => .error (raised "LookupError" "no call of this run waits here"))

def land (runId : String) : WorkspaceCall Unit :=
  modify fun w => { w with inFlight := w.inFlight.filter fun flight => flight.record.runId ≠ runId }

def endRun (runId : String) (unfinished : CampaignRunRecord → Bool)
    (finish : CampaignRunRecord → CampaignRunRecord) : WorkspaceCall Unit := do
  let w ← read id
  match w.state.runOf runId with
  | none => raises CampaignService.stopIteration
  | some current =>
    if unfinished current.toCampaignRunRecord then
      updateRun { current with toCampaignRunRecord := finish current.toCampaignRunRecord }

/-- How the handlers of `run_active` leave a launched run. -/
def handled : CampaignRaised → CampaignRunRecord → CampaignRunRecord
  | .cancelled => CampaignService.cancelLaunched
  | .exception _ text => CampaignService.failLaunched text

/-- The task is cancelled while it waits for a slot. -/
def cancelWaiting (runId : String) : WorkspaceCall Unit := do
  let _ ← flightOf runId false
  land runId
  endRun runId (fun current => current.status = .queued) CampaignService.cancelQueued
  raises .cancelled

/-- `run_active` from its slot to the call of the executor. -/
def launch (runId : String) (authorized : Except CampaignRaised Unit) : WorkspaceCall Unit := do
  let flight ← flightOf runId false
  let w ← read id
  if runId ∈ w.cancelled then
    land runId
    updateRun { flight.record with status := .cancelledBeforeLaunch }
    raises .cancelled
  else
    match authorized with
    | .error error =>
      land runId
      endRun runId CampaignRunRecord.live (handled error)
      raises error
    | .ok _ =>
      modify fun w => { w with
        inFlight := w.inFlight.map fun flight =>
          if flight.record.runId = runId then { flight with executing := true } else flight }
      updateRun { flight.record with status := .running }

def executorRaised (runId text : String) (attempts : Nat) : WorkspaceCall Unit := do
  let flight ← flightOf runId true
  land runId
  updateRun { flight.record with
    status := .failed, failureReason := some text, automaticRetryCount := attempts }
  raises (raised "Exception" text)

/-- The task is cancelled while it waits for the executor. -/
def cancelExecuting (runId : String) : WorkspaceCall Unit := do
  let _ ← flightOf runId true
  land runId
  endRun runId CampaignRunRecord.live CampaignService.cancelLaunched
  raises .cancelled

def executorReturned (runId : String) (artifacts : WorkspaceArtifacts) :
    WorkspaceCall WorkspaceReview := do
  let flight ← flightOf runId true
  land runId
  rescue (do
    ofResult (require artifacts.csvMatches
      (raised "ValueError" "executor CSV bytes do not match the declared hash"))
    intake digests flight.case { flight.record with status := .running } artifacts
      flight.record.planSha256 (digests.executedArtifacts artifacts.files)) fun error => do
    endRun runId CampaignRunRecord.live (handled error)
    raises error

def importedRunId (artifactHash : String) : String :=
  "imported-" ++ String.ofList (artifactHash.toList.take 20)

def importedRun (request : ImportRequest) (case : CatalogCase) (artifactHash planSha256 : String) :
    WorkspaceRun where
  runId := importedRunId artifactHash
  mode := .operatorObservedRealtime
  status := CampaignService.runStatus request.upperStatus
  missionExecutionId := some request.missionExecutionId
  lockedInputs := .fromCase case
  planSha256 := planSha256
  artifactSetSha256 := some artifactHash

/-- `import_artifacts`. -/
def importArtifacts (request : ImportRequest) : WorkspaceCall WorkspaceReview := do
  let artifactHash := digests.importedArtifacts request.files
  let w ← read id
  match w.state.reviews.find? (·.artifactSetSha256 = artifactHash) with
  | some existing => return existing
  | none =>
    let case ← getCase request.caseId
    ofResult request.parsed
    ofResult (require (request.missionExecutionId ≠ "")
      (raised "ValueError" "historical artifact set has no mission execution ID"))
    ofResult (require (isIdentifier request.missionExecutionId)
      (raised "ValidationError" "CampaignRunRecord"))
    let planSha256 ← ofResult request.planned
    let record := importedRun request case artifactHash planSha256
    setState fun state => { state with runs := state.runs ++ [record] }
    intake digests case record
      { missionExecutionId := request.missionExecutionId
        upperStatus := request.upperStatus
        files := request.files
        analyzed := request.analyzed
        compared := request.compared } planSha256 artifactHash

/-- `cancel`. -/
def cancel (runId : String) : WorkspaceCall Bool := do
  modify fun w => { w with cancelled := w.cancelled.insert runId }
  let w ← read id
  match w.state.runs.find? fun item => item.runId = runId ∧ item.status = .queued with
  | none => return w.state.runs.any (·.runId = runId)
  | some queued =>
    updateRun { queued with status := .cancelledBeforeLaunch }
    return true

/-- `validate_run_deletion`. -/
def validateRunDeletion (runId : String) (state : CampaignWorkspaceState) :
    Except CampaignRaised WorkspaceRun := do
  match state.runOf runId with
  | none => .error (raised "KeyError" ("unknown campaign run: " ++ runId))
  | some run =>
    require (!run.live) (raised "ValueError" "an active campaign run cannot be deleted")
    let lifecycle ← state.lifecycleForRun run
    require ((state.reviewOfRun runId).all fun review =>
        review.approval.isNone && lifecycle.1.baselineSha256 ≠ some review.artifactSetSha256)
      (raised "PermissionError" "approved campaign baseline evidence cannot be deleted")
    .ok run

def recordWithoutRun (runId : String) (record : LifecycleRecord) : LifecycleRecord :=
  { record with runIds := record.runIds.filter (· ≠ runId) }

def withoutRun (runId : String) (lifecycle : LifecycleRecord) (historical : Bool)
    (state : CampaignWorkspaceState) : CampaignWorkspaceState :=
  let kept := recordWithoutRun runId lifecycle
  { state with
    runs := state.runs.filter (·.runId ≠ runId)
    reviews := state.reviews.filter (·.runId ≠ runId)
    snapshots := state.snapshots.filter (·.runId ≠ runId)
    idempotency := state.idempotency.filterValues (· ≠ runId)
    lifecycle := if historical then state.lifecycle
      else state.lifecycle.insert kept.caseId kept
    historicalLifecycle := if historical then
        state.historicalLifecycle.map fun item =>
          if item.caseId = kept.caseId ∧ item.caseSha256 = kept.caseSha256 then kept else item
      else state.historicalLifecycle }

/-- `delete_run`. -/
def deleteRun (runId : String) : WorkspaceCall WorkspaceRun := do
  let w ← read id
  let run ← ofResult (validateRunDeletion runId w.state)
  let lifecycle ← ofResult (w.state.lifecycleForRun run)
  modify fun w => { w with
    cancelled := w.cancelled.filter (· ≠ runId)
    evidence := run.missionExecutionId.elim w.evidence w.evidence.erase }
  commit (withoutRun runId lifecycle.1 lifecycle.2)
  return run

end Runs

section Reviews

variable (digests : CampaignDigests)

def inDevelopment (lifecycle : LifecycleRecord) (review : WorkspaceReview) : Bool :=
  lifecycle.caseSha256 = review.caseSha256 && lifecycle.state = .activeDevelopment

def observed (review : WorkspaceReview) (note : String) : WorkspaceReview :=
  WorkspaceReview.rehash digests { review with
    operatorObservations := review.operatorObservations ++ [note] }

/-- `add_observation`; the note is without the blanks around it. -/
def addObservation (reviewId note actorId : String) : WorkspaceCall WorkspaceReview := do
  ofResult (require (note ≠ "") (raised "ValueError" "operator observation cannot be empty"))
  let review ← reviewOf reviewId
  let updated := observed digests review note
  replaceReview updated
  let lifecycle ← lifecycleOf review.caseId
  if inDevelopment lifecycle review then
    assertSnapshotAssessmentsComplete review.caseId
    let reviewed ← ofResult (lifecycle.transition .baselined actorId
      "operator comment opened the campaign evidence review"
      (some review.artifactSetSha256) (some updated.reviewSha256))
    commit fun state => { state with
      lifecycle := state.lifecycle.insert review.caseId reviewed
      activeCaseId := if state.activeCaseId = some review.caseId then none else state.activeCaseId
      lockedInputs := if state.activeCaseId = some review.caseId then none else state.lockedInputs }
    purgeCaseSnapshotImages review.caseId
  return updated

structure OperatorDecision where
  operatorId : String
  decision : ReviewDecision
  reason : String
  note : Option String := none
  decidedAtUtc : String

def approvalOf (review : WorkspaceReview) (decided : OperatorDecision) : ReviewApproval :=
  let approval : ReviewApproval :=
    { operatorId := decided.operatorId
      decidedAtUtc := decided.decidedAtUtc
      decision := decided.decision
      reportSha256 := review.reviewSha256
      reason := decided.reason
      note := decided.note
      approvalSha256 := "" }
  { approval with
    approvalSha256 := digests.payload [("approval", .object (WorkspaceReview.approvalFields approval))] }

def decidedReview (review : WorkspaceReview) (decided : OperatorDecision) : WorkspaceReview :=
  WorkspaceReview.rehash digests { review with
    approval := some (approvalOf digests review decided) }

def OperatorDecision.valid (decided : OperatorDecision) : Bool :=
  isIdentifier decided.operatorId && 1 ≤ decided.reason.length && decided.reason.length ≤ 1000 &&
    decided.note.all fun note => note.length ≤ 2000

/-- An approval of a case in active development needs the assessment of its snapshots. -/
def checkApproval (review : WorkspaceReview) (decided : OperatorDecision) : WorkspaceCall Unit := do
  if decided.decision = .approve then
    let lifecycle ← lifecycleOf review.caseId
    if inDevelopment lifecycle review then
      assertSnapshotAssessmentsComplete review.caseId

/-- An approval makes a case in active development the baseline. -/
def bindBaseline (review : WorkspaceReview) (reviewSha256 : String) (decided : OperatorDecision) :
    WorkspaceCall Unit := do
  if decided.decision = .approve then
    let lifecycle ← lifecycleOf review.caseId
    if inDevelopment lifecycle review then
      let reviewed ← ofResult (lifecycle.transition .baselined decided.operatorId
        "approved passing campaign review bound as baseline"
        (some review.artifactSetSha256) (some reviewSha256))
      replaceLifecycle reviewed
      purgeCaseSnapshotImages review.caseId

/-- `decide_review`. -/
def decideReview (reviewId : String) (decided : OperatorDecision) : WorkspaceCall WorkspaceReview := do
  let review ← reviewOf reviewId
  ofResult (require (decided.decision ≠ .approve || review.status = .succeeded)
    (raised "ValueError" "failed or aborted evidence cannot be approved as passed"))
  checkApproval review decided
  ofResult (require decided.valid (raised "ValidationError" "ReviewApproval"))
  let updated := decidedReview digests review decided
  replaceReview updated
  bindBaseline review updated.reviewSha256 decided
  return updated

/-- `promote_active`. -/
def promoteActive (operatorId reason : String) : WorkspaceCall LifecycleRecord := do
  let case ← activeCase
  let w ← read id
  let incomplete := incompletePrerequisites w.state case [.promoted]
  ofResult (require (incomplete.isEmpty || case.caseId = "three_drone_multi_conflict")
    (raised "ValueError" ("promotion requires promoted prerequisites: " ++
      ", ".intercalate (Sorting.sortBy id incomplete))))
  let lifecycle ← lifecycleOf case.caseId
  ofResult (require (lifecycle.state = .baselined)
    (raised "ValueError" "promotion requires a BASELINED active case"))
  let approved := (w.state.caseReviews case).filter fun review =>
    review.status = .succeeded && review.approval.any fun approval => approval.decision = .approve
  let modes := approved.filterMap fun review => (w.state.runOf review.runId).map (·.mode)
  ofResult (require ((requiredModes case.executionEligibility).all (· ∈ modes))
    (raised "ValueError" "promotion is missing required approved execution modes"))
  let latest ← ofResult (match approved.getLast? with
    | some latest => .ok latest
    | none => .error (raised "IndexError" "list index out of range"))
  let promoted ← ofResult (lifecycle.transition .promoted operatorId reason
    (some latest.artifactSetSha256) (some latest.reviewSha256))
  replaceLifecycle promoted
  purgeCaseSnapshotImages case.caseId
  return promoted

/-- `add_snapshot`; the checks of the image and of the time are given. -/
def addSnapshot (runId snapshotId : String) (accepted : Except CampaignRaised Unit) :
    WorkspaceCall Unit := do
  let w ← read id
  ofResult (require (w.state.runOf runId).isSome
    (raised "KeyError" ("unknown campaign run: " ++ runId)))
  ofResult accepted
  commit fun state => { state with
    snapshots := state.snapshots ++ [{ snapshotId := snapshotId, runId := runId }] }

/-- `_snapshot`. -/
def snapshotOf (snapshotId : String) : WorkspaceCall CampaignSnapshotRecord := do
  let w ← read id
  ofResult (match w.state.snapshots.find? (·.snapshotId = snapshotId) with
    | some snapshot => .ok snapshot
    | none => .error (raised "KeyError" ("unknown campaign snapshot: " ++ snapshotId)))

/-- `set_snapshot_comment`; `stripped` is the note without the blanks around it. -/
def setSnapshotComment (snapshotId note stripped : String) : WorkspaceCall Unit := do
  ofResult (require (stripped ≠ "") (raised "ValueError" "snapshot comment cannot be empty"))
  let snapshot ← snapshotOf snapshotId
  replaceSnapshot { snapshot with operatorComment := some note }

/-- `set_snapshot_assessment`; the assessment is without the blanks around it. -/
def setSnapshotAssessment (snapshotId assessment : String) (confidence : ℚ) : WorkspaceCall Unit := do
  ofResult (require (assessment ≠ "")
    (raised "ValueError" "snapshot neutral assessment cannot be empty"))
  let snapshot ← snapshotOf snapshotId
  replaceSnapshot { snapshot with
    neutralAssessment := some assessment, assessmentConfidence := some confidence }

end Reviews

/-- What is asked of the service, or happens to a call that waits. -/
inductive Operation where
  | setActive (caseId actorId reason : String) (planned : Except CampaignRaised PlanVerdict)
  | moveToReview (caseId actorId reason : String)
  | completeCase (caseId actorId reason : String)
  | setLifecycleState (caseId : String) (state : LifecycleState) (actorId reason : String)
      (planned : Except CampaignRaised PlanVerdict)
  | createChild (childCaseId : String) (ownsIdentity : Bool)
      (child : CatalogCase → Except CampaignRaised CatalogCase)
  | requestRun (request : RunRequest)
  | cancelWaiting (runId : String)
  | launch (runId : String) (authorized : Except CampaignRaised Unit)
  | executorRaised (runId text : String) (attempts : Nat)
  | cancelExecuting (runId : String)
  | executorReturned (runId : String) (artifacts : WorkspaceArtifacts)
  | importArtifacts (request : ImportRequest)
  | cancel (runId : String)
  | deleteRun (runId : String)
  | addObservation (reviewId note actorId : String)
  | decideReview (reviewId : String) (decided : OperatorDecision)
  | promoteActive (operatorId reason : String)
  | addSnapshot (runId snapshotId : String) (accepted : Except CampaignRaised Unit)
  | setSnapshotComment (snapshotId note stripped : String)
  | setSnapshotAssessment (snapshotId assessment : String) (confidence : ℚ)

section System

variable (digests : CampaignDigests) (audit : CatalogCase → Except CampaignRaised Unit)

def step (w : CampaignWorkspace) : Operation → CampaignWorkspace
  | .setActive caseId actorId reason planned => (setActive caseId actorId reason planned w).2
  | .moveToReview caseId actorId reason => (moveToReview caseId actorId reason w).2
  | .completeCase caseId actorId reason => (completeCase caseId actorId reason w).2
  | .setLifecycleState caseId state actorId reason planned =>
    (setLifecycleState caseId state actorId reason planned w).2
  | .createChild childCaseId ownsIdentity child =>
    (createChild audit childCaseId ownsIdentity child w).2
  | .requestRun request => (requestRun request w).2
  | .cancelWaiting runId => (cancelWaiting runId w).2
  | .launch runId authorized => (launch runId authorized w).2
  | .executorRaised runId text attempts => (executorRaised runId text attempts w).2
  | .cancelExecuting runId => (cancelExecuting runId w).2
  | .executorReturned runId artifacts => (executorReturned digests runId artifacts w).2
  | .importArtifacts request => (importArtifacts digests request w).2
  | .cancel runId => (cancel runId w).2
  | .deleteRun runId => (deleteRun runId w).2
  | .addObservation reviewId note actorId => (addObservation digests reviewId note actorId w).2
  | .decideReview reviewId decided => (decideReview digests reviewId decided w).2
  | .promoteActive operatorId reason => (promoteActive operatorId reason w).2
  | .addSnapshot runId snapshotId accepted => (addSnapshot runId snapshotId accepted w).2
  | .setSnapshotComment snapshotId note stripped => (setSnapshotComment snapshotId note stripped w).2
  | .setSnapshotAssessment snapshotId assessment confidence =>
    (setSnapshotAssessment snapshotId assessment confidence w).2

def run (w : CampaignWorkspace) (operations : List Operation) : CampaignWorkspace :=
  Runs.run (step digests audit) w operations

/-- The entries of the catalog after `discover`. -/
def discovered (cases : List CatalogCase) : Dict String CatalogCase :=
  .ofList (cases.map fun authored => (authored.caseId, authored))

/-- `initial_lifecycle`. -/
def initialLifecycle (cases : List CatalogCase) : Dict String LifecycleRecord :=
  .ofList (cases.map fun authored => (authored.caseId, authored.lifecycleRecord))

/-- A service that is started in an empty directory. -/
def start (cases : List CatalogCase) : CampaignWorkspace where
  state := { lifecycle := initialLifecycle cases }
  catalog := discovered cases
  persisted := some { lifecycle := initialLifecycle cases }

end System

end CampaignWorkspace

end CrazySwarm
