import CrazySwarm.CampaignChildren
import CrazySwarm.Lib.Calls

/-! The workspace of the campaign service: its cases and their lifecycle, its runs, reviews and
snapshots, and what it has on disk. The operations of this module are about the lifecycle of the
cases; what the planner and the operator give is part of them. -/
namespace CrazySwarm

inductive LifecycleState where
  | definedNotRun | ready | activeDevelopment | baselined | promoted | blocked
  deriving DecidableEq, Repr

def LifecycleState.value : LifecycleState → String
  | .definedNotRun => "DEFINED_NOT_RUN"
  | .ready => "READY"
  | .activeDevelopment => "ACTIVE_DEVELOPMENT"
  | .baselined => "BASELINED"
  | .promoted => "PROMOTED"
  | .blocked => "BLOCKED"

inductive ReviewDecision where
  | approve | reject | needsRerun
  deriving DecidableEq, Repr

structure LifecycleTransition where
  previousState : LifecycleState
  newState : LifecycleState
  actorId : String
  reason : String
  evidenceSha256 : Option String
  reviewSha256 : Option String
  deriving DecidableEq, Repr

structure LifecycleRecord where
  caseId : String
  caseSha256 : String
  state : LifecycleState := .definedNotRun
  transitions : List LifecycleTransition := []
  runIds : List String := []
  baselineSha256 : Option String := none
  deriving DecidableEq, Repr

/-- A case of the catalog, by what the service reads of it. -/
structure CatalogCase where
  caseId : String
  caseSha256 : String
  environment : EnvironmentKind := .simulation
  implementationStatus : ImplementationStatus := .executable
  hasMilestone : Bool := false
  prerequisites : List String := []
  executionEligibility : ExecutionEligibility := .both
  operatorObservationQuestions : List String := []
  deriving DecidableEq, Repr

structure LockedDevelopmentInputs where
  caseId : String
  caseSha256 : String
  deriving DecidableEq, Repr

structure WorkspaceRun extends CampaignRunRecord where
  lockedInputs : LockedDevelopmentInputs
  planSha256 : String
  artifactSetSha256 : Option String := none
  analysisSha256 : Option String := none
  deriving DecidableEq, Repr

structure ReviewApproval where
  operatorId : String
  decidedAtUtc : String
  decision : ReviewDecision
  reportSha256 : String
  reason : String
  note : Option String
  approvalSha256 : String
  deriving DecidableEq, Repr

/-- An analysis, by the fields of its canonical payload and its own hash. -/
structure MissionAnalysis where
  fields : List (String × String)
  analysisSha256 : String
  deriving DecidableEq, Repr

/-- A review with all that its hash is about. -/
structure WorkspaceReview extends ReviewItem where
  caseId : String
  caseSha256 : String
  planSha256 : String
  artifactSetSha256 : String
  analysis : MissionAnalysis
  baselineComparison : List (String × String)
  crossCaseProfileComparison : List (String × String)
  modeComparison : Option (List (String × String))
  operatorQuestions : List String
  operatorObservations : List String := []
  approval : Option ReviewApproval := none
  reviewSha256 : String
  deriving DecidableEq, Repr

structure CampaignSnapshotRecord where
  snapshotId : String
  runId : String
  operatorComment : Option String := none
  neutralAssessment : Option String := none
  assessmentConfidence : Option ℚ := none
  imageAvailable : Bool := true
  deriving DecidableEq, Repr

/-- The fields that are written without their validation. -/
def CampaignSnapshotRecord.valid (snapshot : CampaignSnapshotRecord) : Bool :=
  snapshot.operatorComment.all (fun comment => comment.length ≤ 2000) &&
    snapshot.neutralAssessment.all (fun assessment => assessment.length ≤ 4000) &&
    snapshot.assessmentConfidence.all fun confidence => 0 ≤ confidence && confidence ≤ 1

structure CampaignWorkspaceState where
  activeCaseId : Option String := none
  lockedInputs : Option LockedDevelopmentInputs := none
  lifecycle : Dict String LifecycleRecord
  historicalLifecycle : List LifecycleRecord := []
  runs : List WorkspaceRun := []
  reviews : List WorkspaceReview := []
  snapshots : List CampaignSnapshotRecord := []
  idempotency : Dict String String := .empty

structure EvidenceFiles where
  manifest : String
  bundle : String
  evaluation : String
  telemetry : String
  analysis : String
  deriving DecidableEq, Repr

/-- A call of `run_active` that waits, for a slot or for the executor. -/
structure RunInFlight where
  record : WorkspaceRun
  case : CatalogCase
  executing : Bool := false
  deriving DecidableEq, Repr

/-- The service, its catalog and its directory. -/
structure CampaignWorkspace where
  state : CampaignWorkspaceState
  catalog : Dict String CatalogCase
  /-- `workspace-state.json`. -/
  persisted : Option CampaignWorkspaceState := none
  /-- The files of `children`, each under the identifier that names it. -/
  children : Dict String CatalogCase := .empty
  evidence : Dict String EvidenceFiles := .empty
  cancelled : List String := []
  inFlight : List RunInFlight := []

/-- What a canonical payload holds under a key. -/
inductive PayloadValue where
  | null
  | text (value : String)
  | texts (values : List String)
  | object (fields : List (String × String))
  deriving DecidableEq, Repr

/-- `canonical_sha256` of the values that the service hashes. -/
structure CampaignDigests where
  payload : List (String × PayloadValue) → String
  /-- Of the four files of an import, byte for byte. -/
  importedArtifacts : EvidenceFiles → String
  /-- Of the manifest, the bundle and the evaluation, and of the bytes of the telemetry. -/
  executedArtifacts : EvidenceFiles → String
  /-- The digest in the identifier of a review. -/
  review : String → String → String

abbrev WorkspaceCall := Call CampaignWorkspace CampaignRaised

def raised (kind text : String) : CampaignRaised := .exception kind text

namespace LifecycleRecord

/-- `transition`: every state may be left for every other. -/
def transition (record : LifecycleRecord) (newState : LifecycleState) (actorId reason : String)
    (evidenceSha256 reviewSha256 : Option String) (requireQualificationEvidence : Bool := true) :
    Except CampaignRaised LifecycleRecord := do
  require (newState ≠ record.state) (raised "ValueError"
    ("invalid lifecycle transition " ++ record.state.value ++ " -> " ++ newState.value))
  require (!requireQualificationEvidence || newState ∉ [.baselined, .promoted] ||
      (evidenceSha256.isSome && reviewSha256.isSome))
    (raised "ValueError" "baseline/promotion requires evidence and review hashes")
  require (isIdentifier actorId && 1 ≤ reason.length && reason.length ≤ 1000)
    (raised "ValidationError" "LifecycleTransition")
  .ok { record with
    state := newState
    transitions := record.transitions ++
      [⟨record.state, newState, actorId, reason, evidenceSha256, reviewSha256⟩]
    baselineSha256 := if newState ∈ [.baselined, .promoted] && evidenceSha256.isSome
      then evidenceSha256 else record.baselineSha256 }

end LifecycleRecord

def LockedDevelopmentInputs.fromCase (case : CatalogCase) : LockedDevelopmentInputs where
  caseId := case.caseId
  caseSha256 := case.caseSha256

def CatalogCase.lifecycleRecord (case : CatalogCase) : LifecycleRecord where
  caseId := case.caseId
  caseSha256 := case.caseSha256

namespace WorkspaceReview

def decisionValue : ReviewDecision → String
  | .approve => "APPROVE"
  | .reject => "REJECT"
  | .needsRerun => "NEEDS_RERUN"

def statusValue : CampaignRunStatus → String
  | .queued => "QUEUED"
  | .running => "RUNNING"
  | .succeeded => "SUCCEEDED"
  | .aborted => "ABORTED"
  | .failed => "FAILED"
  | .cancelledBeforeLaunch => "CANCELLED_BEFORE_LAUNCH"

def approvalFields (approval : ReviewApproval) : List (String × String) :=
  [("operator_id", approval.operatorId), ("decided_at_utc", approval.decidedAtUtc),
   ("decision", decisionValue approval.decision), ("report_sha256", approval.reportSha256),
   ("reason", approval.reason), ("note", approval.note.elim "null" fun note => "\"" ++ note)]

/-- The fields that `_intake` hashes. An analysis that is hashed itself leaves its hash out. -/
def intakePayload (review : WorkspaceReview) : List (String × PayloadValue) :=
  [("review_id", .text review.reviewId), ("run_id", .text review.runId),
   ("case_id", .text review.caseId), ("case_sha256", .text review.caseSha256),
   ("status", .text (statusValue review.status)), ("plan_sha256", .text review.planSha256),
   ("artifact_set_sha256", .text review.artifactSetSha256),
   ("analysis", .object review.analysis.fields),
   ("baseline_comparison", .object review.baselineComparison),
   ("cross_case_profile_comparison", .object review.crossCaseProfileComparison),
   ("mode_comparison", review.modeComparison.elim .null .object),
   ("operator_questions", .texts review.operatorQuestions)]

/-- `canonical_payload`: all fields but the hash, the analysis with its own hash. -/
def canonicalPayload (review : WorkspaceReview) : List (String × PayloadValue) :=
  [("review_id", .text review.reviewId), ("run_id", .text review.runId),
   ("case_id", .text review.caseId), ("case_sha256", .text review.caseSha256),
   ("status", .text (statusValue review.status)), ("plan_sha256", .text review.planSha256),
   ("artifact_set_sha256", .text review.artifactSetSha256),
   ("analysis", .object (review.analysis.fields ++
      [("analysis_sha256", review.analysis.analysisSha256)])),
   ("baseline_comparison", .object review.baselineComparison),
   ("cross_case_profile_comparison", .object review.crossCaseProfileComparison),
   ("mode_comparison", review.modeComparison.elim .null .object),
   ("operator_questions", .texts review.operatorQuestions),
   ("operator_observations", .texts review.operatorObservations),
   ("approval", review.approval.elim .null fun approval => .object (approvalFields approval ++
      [("approval_sha256", approval.approvalSha256)]))]

/-- `_rehash_review`. -/
def rehash (digests : CampaignDigests) (review : WorkspaceReview) : WorkspaceReview :=
  { review with reviewSha256 := digests.payload review.canonicalPayload }

end WorkspaceReview

namespace CampaignWorkspaceState

def caseReviews (state : CampaignWorkspaceState) (case : CatalogCase) : List WorkspaceReview :=
  state.reviews.filter fun review =>
    review.caseId = case.caseId && review.caseSha256 = case.caseSha256

def caseRunIds (state : CampaignWorkspaceState) (case : CatalogCase) : List String :=
  (state.runs.filter fun run => run.lockedInputs.caseId = case.caseId &&
    run.lockedInputs.caseSha256 = case.caseSha256).map (·.runId)

def runOf (state : CampaignWorkspaceState) (runId : String) : Option WorkspaceRun :=
  state.runs.find? (·.runId = runId)

def reviewOfRun (state : CampaignWorkspaceState) (runId : String) : Option WorkspaceReview :=
  state.reviews.find? (·.runId = runId)

/-- `_lifecycle_for_run`, and whether it is a historical one. -/
def lifecycleForRun (state : CampaignWorkspaceState) (run : WorkspaceRun) :
    Except CampaignRaised (LifecycleRecord × Bool) :=
  match state.lifecycle.get? run.lockedInputs.caseId with
  | some current =>
    if current.caseSha256 = run.lockedInputs.caseSha256 then .ok (current, false)
    else historical
  | none => historical
where
  historical := match state.historicalLifecycle.find? fun record =>
      record.caseId = run.lockedInputs.caseId && record.caseSha256 = run.lockedInputs.caseSha256 with
    | some record => .ok (record, true)
    | none => .error (raised "ValueError" "campaign run lifecycle identity is unavailable")

end CampaignWorkspaceState

namespace CampaignWorkspace
open Call

section Steps

def setState (change : CampaignWorkspaceState → CampaignWorkspaceState) : WorkspaceCall Unit :=
  modify fun w => { w with state := change w.state }

/-- `_persist`. -/
def persist : WorkspaceCall Unit := modify fun w => { w with persisted := some w.state }

def commit (change : CampaignWorkspaceState → CampaignWorkspaceState) : WorkspaceCall Unit := do
  setState change
  persist

def replaceLifecycle (record : LifecycleRecord) : WorkspaceCall Unit :=
  commit fun state => { state with lifecycle := state.lifecycle.insert record.caseId record }

def updateRun (run : WorkspaceRun) : WorkspaceCall Unit :=
  commit fun state => { state with
    runs := state.runs.map fun item => if item.runId = run.runId then run else item }

def replaceReview (review : WorkspaceReview) : WorkspaceCall Unit :=
  commit fun state => { state with
    reviews := state.reviews.map fun item =>
      if item.reviewId = review.reviewId then review else item }

def replaceSnapshot (snapshot : CampaignSnapshotRecord) : WorkspaceCall Unit :=
  commit fun state => { state with
    snapshots := state.snapshots.map fun item =>
      if item.snapshotId = snapshot.snapshotId then snapshot else item }

/-- `catalog.get`. -/
def getCase (caseId : String) : WorkspaceCall CatalogCase := do
  let w ← read id
  ofResult (match w.catalog.get? caseId with
    | some case => .ok case
    | none => .error (raised "KeyError" ("unknown campaign case: " ++ caseId)))

/-- `self._state.lifecycle[case_id]`. -/
def lifecycleOf (caseId : String) : WorkspaceCall LifecycleRecord := do
  let w ← read id
  ofResult (match w.state.lifecycle.get? caseId with
    | some record => .ok record
    | none => .error (raised "KeyError" caseId))

/-- `_review`. -/
def reviewOf (reviewId : String) : WorkspaceCall WorkspaceReview := do
  let w ← read id
  ofResult (match w.state.reviews.find? (·.reviewId = reviewId) with
    | some review => .ok review
    | none => .error (raised "KeyError" ("unknown review item: " ++ reviewId)))

def unassessed (state : CampaignWorkspaceState) (case : CatalogCase) :
    List CampaignSnapshotRecord :=
  state.snapshots.filter fun snapshot => snapshot.runId ∈ state.caseRunIds case &&
    snapshot.imageAvailable && snapshot.neutralAssessment.isNone

def assertSnapshotAssessmentsComplete (caseId : String) : WorkspaceCall Unit := do
  let case ← getCase caseId
  let w ← read id
  ofResult (require (unassessed w.state case).isEmpty (raised "ValueError"
    ("neutral snapshot assessment is required before image purge: " ++
      ", ".intercalate ((unassessed w.state case).map (·.snapshotId)))))

/-- The snapshots of a case without their images. -/
def purged (state : CampaignWorkspaceState) (case : CatalogCase) : List CampaignSnapshotRecord :=
  state.snapshots.map fun snapshot =>
    if snapshot.runId ∈ state.caseRunIds case && snapshot.imageAvailable then
      { snapshot with imageAvailable := false }
    else snapshot

def purgeCaseSnapshotImages (caseId : String) : WorkspaceCall Unit := do
  assertSnapshotAssessmentsComplete caseId
  let case ← getCase caseId
  let w ← read id
  if w.state.snapshots.any fun snapshot =>
      snapshot.runId ∈ w.state.caseRunIds case && snapshot.imageAvailable then
    commit fun state => { state with snapshots := purged state case }

end Steps

/-- What `static_validate` plans. -/
structure PlanVerdict where
  ready : Bool
  blockingReason : Option String := none

section Lifecycle

def staticValidate (caseId actorId : String) (planned : Except CampaignRaised PlanVerdict) :
    WorkspaceCall PlanVerdict := do
  let _ ← getCase caseId
  let plan ← ofResult planned
  let record ← lifecycleOf caseId
  if record.state = .definedNotRun then
    let moved ← ofResult (record.transition (if plan.ready then .ready else .blocked) actorId
      (if plan.ready then "schema, compilation, and planning preview passed"
        else plan.blockingReason.getD "None") none none)
    replaceLifecycle moved
  return plan

/-- The other cases in active development are taken back. -/
def demoteOthers (caseId actorId : String) (lifecycle : Dict String LifecycleRecord) :
    Except CampaignRaised (Dict String LifecycleRecord) :=
  lifecycle.items.foldlM (fun records item =>
    if item.1 ≠ caseId ∧ item.2.state = .activeDevelopment then do
      let demoted ← item.2.transition .ready actorId
        "operator selected a different active development case" none none
      .ok (records.insert item.1 demoted)
    else .ok records) lifecycle

def activated (record : LifecycleRecord) (actorId reason : String) :
    Except CampaignRaised LifecycleRecord := do
  if record.state ∈ [.activeDevelopment, .baselined, .promoted] then .ok record
  else
    require (record.state ∈ [.definedNotRun, .ready, .blocked])
      (raised "ValueError" ("case cannot become active from " ++ record.state.value))
    record.transition .activeDevelopment actorId reason none none

def incompletePrerequisites (state : CampaignWorkspaceState) (case : CatalogCase)
    (passing : List LifecycleState) : List String :=
  case.prerequisites.filter fun prerequisite =>
    ((state.lifecycle.get? prerequisite).elim true fun record => record.state ∉ passing)

def setActive (caseId actorId reason : String) (planned : Except CampaignRaised PlanVerdict) :
    WorkspaceCall LockedDevelopmentInputs := do
  let case ← getCase caseId
  let before ← read id
  ofResult (require (!before.state.runs.any (·.live))
    (raised "ValueError" "stop the active campaign run before selecting another mission"))
  ofResult (require (case.environment ≠ .real)
    (raised "PermissionError" "Real campaign cases remain NOT_AUTHORIZED"))
  ofResult (require (case.implementationStatus = .executable)
    (raised "ValueError" "case implementation is PLANNED_NOT_EXECUTABLE"))
  let plan ← staticValidate caseId actorId planned
  ofResult (require plan.ready
    (raised "ValueError" (plan.blockingReason.getD "case planning is blocked")))
  let w ← read id
  let incomplete := incompletePrerequisites w.state case [.baselined, .promoted]
  ofResult (require (!case.hasMilestone || incomplete.isEmpty) (raised "ValueError"
    ("dynamic activation requires passing static baselines: " ++
      ", ".intercalate (Sorting.sortBy id incomplete))))
  let lifecycle ← ofResult (demoteOthers caseId actorId w.state.lifecycle)
  let record ← lifecycleOf caseId
  let active ← ofResult (activated record actorId reason)
  commit fun state => { state with
    activeCaseId := some caseId
    lockedInputs := some (.fromCase case)
    lifecycle := lifecycle.insert caseId active }
  return .fromCase case

def moveToReview (caseId actorId reason : String) : WorkspaceCall LifecycleRecord := do
  let case ← getCase caseId
  let record ← lifecycleOf caseId
  if record.state = .baselined then return record
  else
    let w ← read id
    let latest ← ofResult (match (w.state.caseReviews case).getLast? with
      | some latest => .ok latest
      | none => .error (raised "ValueError" "moving to review requires at least one recorded run"))
    assertSnapshotAssessmentsComplete caseId
    let reviewed ← ofResult (record.transition .baselined actorId reason
      (some latest.artifactSetSha256) (some latest.reviewSha256))
    replaceLifecycle reviewed
    purgeCaseSnapshotImages caseId
    return reviewed

def completeCase (caseId actorId reason : String) : WorkspaceCall LifecycleRecord := do
  let case ← getCase caseId
  let record ← lifecycleOf caseId
  if record.state = .promoted then return record
  else
    let w ← read id
    let succeeded := (w.state.caseReviews case).filter fun review => review.status = .succeeded
    let latest ← ofResult (match succeeded.getLast? with
      | some latest => .ok latest
      | none => .error (raised "ValueError"
          "completion requires at least one successful recorded run"))
    assertSnapshotAssessmentsComplete caseId
    let completed ← ofResult (record.transition .promoted actorId reason
      (some latest.artifactSetSha256) (some latest.reviewSha256))
    replaceLifecycle completed
    purgeCaseSnapshotImages caseId
    return completed

def setLifecycleState (caseId : String) (state : LifecycleState) (actorId reason : String)
    (planned : Except CampaignRaised PlanVerdict) : WorkspaceCall LifecycleRecord := do
  let case ← getCase caseId
  let current ← lifecycleOf caseId
  if current.state = state then return current
  else if state = .activeDevelopment then
    let _ ← setActive caseId actorId reason planned
    lifecycleOf caseId
  else
    let w ← read id
    let latest := (w.state.caseReviews case).getLast?
    let changed ← ofResult (current.transition state actorId reason
      (latest.map (·.artifactSetSha256)) (latest.map (·.reviewSha256)) false)
    replaceLifecycle changed
    return changed

/-- `active_case`. -/
def activeCase : WorkspaceCall CatalogCase := do
  let w ← read id
  match w.state.activeCaseId with
  | none => raises (raised "ValueError" "no ACTIVE_DEVELOPMENT case is selected")
  | some caseId =>
    let case ← getCase caseId
    ofResult (require ((w.state.lockedInputs.map (·.caseSha256)) = some case.caseSha256)
      (raised "ValueError" "active case no longer matches its locked identity"))
    return case

/-- `catalog.register`. -/
def register (audit : CatalogCase → Except CampaignRaised Unit) (child : CatalogCase)
    (catalog : Dict String CatalogCase) : Except CampaignRaised (Dict String CatalogCase) := do
  require (catalog.get? child.caseId).isNone
    (raised "ValueError" ("duplicate campaign case ID: " ++ child.caseId))
  audit child
  .ok (catalog.insert child.caseId child)

def adopt (catalog : Dict String CatalogCase) (child : CatalogCase) : WorkspaceCall Unit := do
  modify fun w => { w with catalog := catalog }
  replaceLifecycle child.lifecycleRecord

/-- `create_child`; the child is what the merged fields give, once it is checked against its
parent and the policy. -/
def createChild (audit : CatalogCase → Except CampaignRaised Unit) (childCaseId : String)
    (ownsIdentity : Bool) (child : CatalogCase → Except CampaignRaised CatalogCase) :
    WorkspaceCall CatalogCase := do
  let active ← activeCase
  ofResult (require (!ownsIdentity)
    (raised "ValueError" "child identity fields are service-owned"))
  let authored ← ofResult (child active)
  let child := { authored with caseId := childCaseId }
  modify fun w => { w with children := w.children.insert childCaseId child }
  let w ← read id
  let catalog ← ofResult (register audit child w.catalog)
  adopt catalog child
  return child

end Lifecycle

end CampaignWorkspace

end CrazySwarm
