import CrazySwarm.CampaignTrajectory

/-! The bounded joint planner: the eager search over a retained prefix of the authorized
candidates, the lazy search for the first certified one, the selection among certified
candidates, and the planning result. -/
namespace CrazySwarm
open PyFloat PyMath
open CampaignGeometry (FeasibilityCertificate certifyCandidateRoutes)

variable {F : Type} [PyMath F] [PyRound F] [PyRoot F]

inductive PlanningStatus where
  | ready | blocked
  deriving DecidableEq, Repr

inductive SearchDisposition where
  | selected | provenInfeasibleWithinDeclaredBounds | budgetExhausted
  | independentVerificationRejected
  deriving DecidableEq, Repr

structure BoundedPlanningResult (F : Type) where
  caseId : String
  planningSubmissionId : String
  status : PlanningStatus
  searchDisposition : SearchDisposition
  retainedCandidates : List (CandidateEvaluation F)
  selectedCandidateIndex : Option Nat
  selectedCandidateSha256 : Option String
  generatedCandidateCount : Nat
  retainedCandidateCount : Nat
  truncated : Bool
  truncationLimit : Nat
  predictionStepS : F
  blockingReason : Option String
  boundedSearchComplete : Bool
  representativeCandidateSha256s : List String
  feasibilityCertificate : Option (FeasibilityCertificate F)
  optimalityClaim : String
  deriving DecidableEq, Repr

namespace BoundedPlanningResult

/-- `authority_is_complete`. -/
def authorityIsComplete (result : BoundedPlanningResult F) : Except PyError Unit := do
  if result.status = .ready then
    require (result.selectedCandidateIndex.isSome && result.selectedCandidateSha256.isSome)
      (.valueError "ready planning result requires one selected candidate")
    require (result.searchDisposition == .selected)
      (.valueError "ready planning result requires SELECTED disposition")
    require (result.feasibilityCertificate.any FeasibilityCertificate.passed)
      (.valueError "ready planning result requires an independent certificate")
  else
    require (result.selectedCandidateIndex.isNone && result.selectedCandidateSha256.isNone)
      (.valueError "blocked planning result contains execution authority")
  require (!(result.searchDisposition == .budgetExhausted && result.boundedSearchComplete))
    (.valueError "budget-exhausted search cannot be complete")

end BoundedPlanningResult

/-- A planning request with what it resolves to: the violated constraints of a capability that is
proven infeasible, and the candidates that the generators yield, up to an error one may raise. -/
structure PlanRequest (F : Type) [PyMath F] where
  case : CampaignCase F
  planning : PlanningSubmission F
  capabilityInfeasible : Option (List String) := none
  seedSource : List (Except PyError (CandidateSeed F))
  firstCertifiedWithinBudget : Bool := false

namespace PlanRequest

/-- The generated candidates whose strategy the submission authorizes. -/
def authorizedSeeds (request : PlanRequest F) : List (Except PyError (CandidateSeed F)) :=
  request.seedSource.filter fun
    | .ok seed => request.planning.strategyAuthority.contains seed.strategy
    | .error _ => true

def obstacleConditioned (request : PlanRequest F) : Bool :=
  request.planning.planningSubmissionId != baselinePlanningSubmissionId &&
    request.case.parentCaseSha256.isSome && !request.case.keepOutRegions.isEmpty

/-- The search stops at the first certified candidate. -/
def lazy (request : PlanRequest F) : Bool :=
  request.firstCertifiedWithinBudget || request.obstacleConditioned

def budgetS (request : PlanRequest F) : F :=
  if request.firstCertifiedWithinBudget then
    PyFloat.min request.case.search.planningBudgetS request.case.hardConstraints.planningBudgetS
  else request.case.search.planningBudgetS

def objectiveOrder (request : PlanRequest F) : List ObjectiveMetric :=
  request.planning.objective.terms.map PlanningObjectiveTerm.metric

end PlanRequest

namespace BoundedJointPlanner

/-- Tuples compare at the first place where they differ. -/
def compareNumber (first second : F) : Ordering :=
  if eq first second then .eq else if lt first second then .lt else .gt

def compareVector : List F → List F → Ordering
  | [], [] => .eq
  | [], _ :: _ => .lt
  | _ :: _, [] => .gt
  | first :: firsts, second :: seconds =>
    (compareNumber first second).then (compareVector firsts seconds)

/-- `sorted(..., key=...)`, the keys compared by `compare`. -/
def sortedBy {α : Type} (compare : α → α → Ordering) (items : List α) : List α :=
  items.insertionSort fun a b => compare b a != .lt

variable (canonicalSha256 : CandidateEvaluation F → String) (elapsedS : Nat → F)

/-- The loop of `_representative_candidate_sha256s`. -/
def representativesFrom (seenStrategies : List PlannerStrategy) (seenReasons output : List String) :
    List (CandidateEvaluation F) → List String
  | [] => output
  | candidate :: rest =>
    let reason := candidate.rejectionReasons.headD "REJECTED"
    let sha256 := canonicalSha256 candidate
    let extended := if output.contains sha256 then output else output ++ [sha256]
    match candidate.status with
    | .feasible =>
      if seenStrategies.contains candidate.strategy then
        representativesFrom seenStrategies seenReasons output rest
      else if 16 ≤ extended.length then extended
      else representativesFrom (candidate.strategy :: seenStrategies) seenReasons extended rest
    | .rejected =>
      if seenReasons.contains reason then
        representativesFrom seenStrategies seenReasons output rest
      else if 16 ≤ extended.length then extended
      else representativesFrom seenStrategies (reason :: seenReasons) extended rest

def defaultOptimalityClaim : SearchDisposition → String
  | .selected => "optimal independently certified candidate among the completely evaluated " ++
    "declared bounded candidate set"
  | .provenInfeasibleWithinDeclaredBounds =>
    "infeasible only within the completely evaluated declared bounded candidate set"
  | _ => "no feasibility or optimality claim"

/-- What an exit of the search hands to `_planning_result`. -/
structure Outcome (F : Type) where
  evaluations : List (CandidateEvaluation F)
  generatedCount : Nat
  truncated : Bool
  disposition : SearchDisposition
  selected : Option (Nat × FeasibilityCertificate F) := none
  blockingReason : Option String := none
  boundedSearchComplete : Option Bool := none
  optimalityClaim : Option String := none
  deriving DecidableEq, Repr

/-- `_planning_result`. -/
def planningResult (request : PlanRequest F) (outcome : Outcome F) :
    Except PyError (BoundedPlanningResult F) := do
  let selectedSha256 := outcome.selected.bind fun (index, _) =>
    outcome.evaluations[index]?.map canonicalSha256
  let result : BoundedPlanningResult F :=
    { caseId := request.case.caseId
      planningSubmissionId := request.planning.planningSubmissionId
      status := if outcome.selected.isSome then .ready else .blocked
      searchDisposition := outcome.disposition
      retainedCandidates := outcome.evaluations
      selectedCandidateIndex := outcome.selected.map (·.1)
      selectedCandidateSha256 := selectedSha256
      generatedCandidateCount := outcome.generatedCount
      retainedCandidateCount := outcome.evaluations.length
      truncated := outcome.truncated
      truncationLimit := request.case.search.maximumCandidateCount
      predictionStepS := request.case.search.predictionStepS
      blockingReason := outcome.blockingReason
      boundedSearchComplete := outcome.boundedSearchComplete.getD
        (outcome.disposition != .budgetExhausted)
      representativeCandidateSha256s := representativesFrom canonicalSha256 [] []
        selectedSha256.toList outcome.evaluations
      feasibilityCertificate := outcome.selected.map (·.2)
      optimalityClaim := outcome.optimalityClaim.getD
        (defaultOptimalityClaim outcome.disposition) }
  result.authorityIsComplete
  return result

/-- `_evaluate_candidate` with the trajectories of the case. -/
def evaluate (request : PlanRequest F) (index : Nat) (seed : CandidateSeed F) :
    Except PyError (CandidateEvaluation F) :=
  CampaignEvaluation.evaluateCandidate request.case request.planning
    (CampaignTrajectory.candidateTrajectory request.case) index seed

def certify (request : PlanRequest F) (candidate : CandidateEvaluation F) :
    Except PyError (FeasibilityCertificate F) :=
  certifyCandidateRoutes request.case request.planning (canonicalSha256 candidate)
    (candidate.routes.map CandidateRoute.geometry)

def evaluateRetained (request : PlanRequest F) (index : Nat) :
    List (CandidateSeed F) → Except PyError (List (CandidateEvaluation F))
  | [] => .ok []
  | seed :: rest =>
    if lt request.case.search.planningBudgetS (elapsedS index) then .ok []
    else do
      let evaluation ← evaluate request index seed
      let evaluations ← evaluateRetained request (index + 1) rest
      return evaluation :: evaluations

/-- A feasible candidate with its place among the evaluations. -/
abbrev Indexed (F : Type) : Type := CandidateEvaluation F × Nat

abbrev Certified (F : Type) : Type := Indexed F × FeasibilityCertificate F

def firstPassed (request : PlanRequest F) :
    List (Indexed F) → Except PyError (Option (Certified F))
  | [] => .ok none
  | candidate :: rest => do
    let certificate ← certify canonicalSha256 request candidate.1
    if certificate.passed then
      return some (candidate, certificate)
    firstPassed request rest

def allPassed (request : PlanRequest F) :
    List (Indexed F) → Except PyError (List (Certified F))
  | [] => .ok []
  | candidate :: rest => do
    let certificate ← certify canonicalSha256 request candidate.1
    let passed ← allPassed request rest
    return if certificate.passed then (candidate, certificate) :: passed else passed

/-- The keys of the three selections. -/
def compareObjective (order : List ObjectiveMetric) (first second : CandidateEvaluation F) :
    Ordering :=
  (compareVector (first.cost.vectorFor order) (second.cost.vectorFor order)).then
    (compare (canonicalSha256 first) (canonicalSha256 second))

def compareRelease (order : List ObjectiveMetric) (first second : CandidateEvaluation F) :
    Ordering :=
  (compareNumber (CampaignEvaluation.startSkewS first.routes)
    (CampaignEvaluation.startSkewS second.routes)).then
      (compareObjective canonicalSha256 order first second)

def protectedClearance (certificate : FeasibilityCertificate F) : F :=
  PyFloat.min certificate.minimumPairwiseProtectedClearanceM
    certificate.minimumSolidProtectedClearanceM

def compareClearance (first second : Certified F) : Ordering :=
  (compareNumber (neg (protectedClearance first.2)) (neg (protectedClearance second.2))).then
    (compare (canonicalSha256 first.1.1) (canonicalSha256 second.1.1))

def select (request : PlanRequest F) (feasible : List (Indexed F)) :
    Except PyError (Option (Certified F)) :=
  match request.planning.selectionOracle with
  | .objectiveOrder =>
    firstPassed canonicalSha256 request (sortedBy (fun first second =>
      compareObjective canonicalSha256 request.objectiveOrder first.1 second.1) feasible)
  | .argminBoundedRelease => do
    let certified ← allPassed canonicalSha256 request feasible
    return (sortedBy (fun first second =>
      compareRelease canonicalSha256 request.objectiveOrder first.1.1 second.1.1)
        certified).head?
  | .argmaxBoundedClearance => do
    let certified ← allPassed canonicalSha256 request feasible
    return (sortedBy (compareClearance canonicalSha256) certified).head?

def optimalityClaimOf : PlanningSelectionOracle → Option String
  | .objectiveOrder => none
  | .argminBoundedRelease => some <|
    "minimum route-release skew among all independently certified " ++
      "candidates in the complete bounded family"
  | .argmaxBoundedClearance => some <|
    "maximum independently certified protected clearance among all " ++
      "candidates in the complete bounded family"

def feasibleOf (evaluations : List (CandidateEvaluation F)) : List (Indexed F) :=
  evaluations.zipIdx.filter fun item => item.1.status == .feasible

/-- The search over the retained candidates. -/
def eagerOutcome (request : PlanRequest F) (seeds : List (CandidateSeed F)) :
    Except PyError (Outcome F) := do
  let retained := seeds.take request.case.search.maximumCandidateCount
  let truncated := decide (retained.length < seeds.length)
  let evaluations ← evaluateRetained elapsedS request 0 retained
  let outcome (disposition : SearchDisposition) : Outcome F :=
    { evaluations, generatedCount := seeds.length, truncated, disposition }
  if evaluations.length ≠ retained.length then
    return { outcome .budgetExhausted with
      blockingReason := some
        "planning budget expired before all retained candidates were validated" }
  let feasible := feasibleOf evaluations
  if feasible.isEmpty then
    return { outcome .provenInfeasibleWithinDeclaredBounds with
      blockingReason := some "no bounded generated candidate satisfies every hard constraint" }
  require (request.planning.objective.composition == .lexicographic)
    (.valueError "weighted planning objectives are not implemented by this backend")
  match ← select canonicalSha256 request feasible with
  | none =>
    return { outcome .independentVerificationRejected with
      blockingReason := some
        "sampled candidates failed independent continuous feasibility verification" }
  | some ((_, index), certificate) =>
    return { outcome .selected with
      selected := some (index, certificate)
      optimalityClaim := optimalityClaimOf request.planning.selectionOracle }

/-- `_first_certified_plan`: the loop with its evaluations, the number of clock readings so far
and whether the verifier has rejected a candidate. -/
def firstCertified (request : PlanRequest F) (evaluations : List (CandidateEvaluation F))
    (readings : Nat) (verifierRejected : Bool) :
    List (Except PyError (CandidateSeed F)) → Except PyError (Outcome F)
  | [] => .ok (ended evaluations verifierRejected true)
  | next :: rest => do
    let seed ← next
    if request.case.search.maximumCandidateCount ≤ evaluations.length then
      return ended evaluations verifierRejected false
    if lt request.budgetS (elapsedS readings) then
      return expired evaluations "planning budget expired before a replacement was certified"
    let evaluation ← evaluate request evaluations.length seed
    let evaluations := evaluations ++ [evaluation]
    if evaluation.status ≠ .feasible then
      return ← firstCertified request evaluations (readings + 1) verifierRejected rest
    let certificate ← certify canonicalSha256 request evaluation
    if lt request.budgetS (elapsedS (readings + 1)) then
      return expired evaluations
        "planning budget expired during independent replacement verification"
    if certificate.passed then
      return {
        evaluations
        generatedCount := evaluations.length
        truncated := true
        disposition := .selected
        selected := some (evaluations.length - 1, certificate)
        boundedSearchComplete := some false
        optimalityClaim := some ("first independently certified feasible candidate in " ++
          "deterministic generator order; no optimality claim") }
    firstCertified request evaluations (readings + 2) true rest
where
  /-- The exit after the loop. -/
  ended (evaluations : List (CandidateEvaluation F)) (verifierRejected exhausted : Bool) :
      Outcome F :=
    { evaluations
      generatedCount := evaluations.length
      truncated := !exhausted
      disposition := if verifierRejected then .independentVerificationRejected
        else .provenInfeasibleWithinDeclaredBounds
      blockingReason := some <| if verifierRejected then
        "no sampled candidate passed independent continuous verification"
        else "no generated candidate satisfies every hard constraint"
      boundedSearchComplete := some exhausted }
  /-- The exits on an expired budget. -/
  expired (evaluations : List (CandidateEvaluation F)) (reason : String) : Outcome F :=
    { evaluations
      generatedCount := evaluations.length
      truncated := true
      disposition := .budgetExhausted
      blockingReason := some reason }

/-- The result for a capability that is proven infeasible. -/
def capabilityOutcome (violated : List String) : Outcome F :=
  { evaluations := []
    generatedCount := 0
    truncated := false
    disposition := .provenInfeasibleWithinDeclaredBounds
    blockingReason := some ("complete capability compiler and independent dense oracle proved " ++
      ",".intercalate violated)
    optimalityClaim := some ("exact capability infeasibility proven by complete compiler and " ++
      "independent dense deadline/dynamics oracle") }

/-- The candidate search in the mode that the request asks for. -/
def searchOutcome (request : PlanRequest F) : Except PyError (Outcome F) :=
  if request.lazy then
    firstCertified canonicalSha256 elapsedS request [] 0 false request.authorizedSeeds
  else do
    let seeds ← request.authorizedSeeds.mapM id
    eagerOutcome canonicalSha256 elapsedS request seeds

/-- `BoundedJointPlanner.plan`. -/
def plan (request : PlanRequest F) : Except PyError (BoundedPlanningResult F) :=
  match request.capabilityInfeasible with
  | some violated => planningResult canonicalSha256 request (capabilityOutcome violated)
  | none => do
    let outcome ← searchOutcome canonicalSha256 elapsedS request
    planningResult canonicalSha256 request outcome

end BoundedJointPlanner

end CrazySwarm
