import CrazySwarm.Lib.Sorting
import CrazySwarm.CampaignModels

/-! In-flight replanning: the coordinator's tables of sequence numbers and of decisions, the
reaction horizon of an event and the atomic commit of a fleet epoch. -/
namespace CrazySwarm
open PyFloat

variable {F : Type} [PyFloat F]

inductive SafeFallback where
  | continueOldSafeEpoch | boundedHold | abortAndLand | fleetAbortAndLand
  deriving DecidableEq, Repr

inductive GoalUpdateDisposition where
  | accepted | duplicateIdempotent | rejectedStale | rejectedRateLimit | rejectedAuthority | blocked
  deriving DecidableEq, Repr

inductive DynamicReplanDisposition where
  | accepted | duplicateIdempotent | rejectedStale | rejectedAuthority | blockedReactionHorizon
  | blockedAtomicCommit
  deriving DecidableEq, Repr

inductive ReplanningAuthority where
  | operatorApprovalRequired | autoWithinFrozenLimits | abortOnly
  deriving DecidableEq, Repr

inductive DynamicEventKind where
  | obstacleAdded | obstacleMoved | obstacleRemoved | passageClosed | passageOpened
  | peerTrajectoryUpdated | positionUncertaintyChanged
  deriving DecidableEq, Repr

structure InFlightEnvironmentEvent (F : Type) where
  eventId : String
  kind : DynamicEventKind := .obstacleRemoved
  sourceId : String
  sequence : Nat
  sourceTimestampS : F
  receivedSourceS : F
  effectiveSourceS : F
  authenticated : Bool := true
  affectedRoleIds : List String
  regionId : Option String := none
  region : Option (Region3D F) := none
  peerTrajectorySha256 : Option String := none
  positionUncertaintyM : Option F := none
  deriving DecidableEq, Repr

structure ReactionHorizonAudit (F : Type) where
  observationLatencyS : F
  queueLatencyS : F
  planningLatencyS : F
  acknowledgementLatencyS : F
  cutoverGuardS : F
  totalReactionS : F
  availableEventLeadS : F
  availableOldEpochHorizonS : F
  reactionDeadlineSourceS : F
  proposedCutoverSourceS : F
  passed : Bool
  deriving DecidableEq, Repr

structure FleetRouteReplacement where
  roleId : String
  oldTrajectorySha256 : String
  replacementTrajectorySha256 : String
  replacementPlanSha256 : String
  feasible : Bool
  cancellationAcknowledged : Bool
  replacementAcknowledged : Bool
  deriving DecidableEq, Repr

/-- What the hash of an epoch is taken of. -/
structure FleetReservationEpochPayload (F : Type) where
  epoch : Int
  affectedRoleIds : List String
  oldReservationSha256 : String
  replacementReservationSha256 : String
  sharedCutoverSourceS : F
  validationPassed : Bool
  replacements : List FleetRouteReplacement
  deriving DecidableEq, Repr

structure FleetReservationEpoch (F : Type) extends FleetReservationEpochPayload F where
  commitSha256 : String
  deriving DecidableEq, Repr

structure FleetReplanPayload (F : Type) where
  disposition : GoalUpdateDisposition
  orderedUpdateIds : List String
  oldEpoch : Int
  replacementEpoch : Option (FleetReservationEpoch F) := none
  committedRouteCount : Nat
  fallback : Option SafeFallback := none
  reason : String
  authoritySha256 : String
  deriving DecidableEq, Repr

structure FleetReplanDecision (F : Type) extends FleetReplanPayload F where
  decisionSha256 : String
  deriving DecidableEq, Repr

structure DynamicFleetReplanPayload (F : Type) where
  eventId : String
  eventSha256 : String
  disposition : DynamicReplanDisposition
  oldWorldSha256 : String
  replacementWorldSha256 : String
  oldEpoch : Int
  reactionHorizon : ReactionHorizonAudit F
  feasibilityCertificateSha256s : List String
  fleetDecision : Option (FleetReplanDecision F) := none
  fallback : Option SafeFallback := none
  reason : String
  authoritySha256 : String
  deriving DecidableEq, Repr

structure DynamicFleetReplanDecision (F : Type) extends DynamicFleetReplanPayload F where
  decisionSha256 : String
  deriving DecidableEq, Repr

/-- The values that `canonical_sha256` is taken of. -/
inductive Canonical (F : Type) where
  | event (event : InFlightEnvironmentEvent F)
  | noCommit (caseSha256 : String) (oldEpoch : Int) (fallback : SafeFallback)
  | reservation (epoch : Int) (roleIds trajectorySha256s : List String) (cutoverSourceS : F)
  | epoch (payload : FleetReservationEpochPayload F)
  | commit (caseSha256 commitSha256 : String) (updateIds : List String)
  | fleetDecision (payload : FleetReplanPayload F)
  | noDynamicCommit (event : InFlightEnvironmentEvent F) (oldEpoch : Int) (fallback : SafeFallback)
  | dynamicCommit (event : InFlightEnvironmentEvent F) (worldSha256 fleetAuthoritySha256 : String)
  | dynamicDecision (payload : DynamicFleetReplanPayload F)

/-- What the coordinator reads of a campaign case. -/
structure ReplanningCase (F : Type) where
  caseSha256 : String
  droneCount : Nat
  replanningAuthority : ReplanningAuthority
  planningBudgetS : F
  observationFreshnessLimitS : F
  deriving DecidableEq, Repr

/-- The arguments of `replan`. -/
structure ReplanCall (F : Type) where
  event : InFlightEnvironmentEvent F
  decisionTimeSourceS : F
  queueLatencyS : F
  planningLatencyS : F
  acknowledgementLatencyS : F
  cutoverGuardS : F
  oldEpochSafeUntilSourceS : F
  oldEpochStillSafe : Bool
  oldEpoch : Int
  oldReservationSha256 : String
  oldWorldSha256 : String
  replacementWorldSha256 : String
  replacements : List FleetRouteReplacement
  feasibilityCertificateSha256s : List String
  operatorApproved : Bool := false
  deriving DecidableEq, Repr

/-- `_reaction_horizon`. -/
def reactionHorizon (call : ReplanCall F) (planningBudgetS freshnessLimitS : F) :
    Except (Fault F) (ReactionHorizonAudit F) := do
  let values := [call.decisionTimeSourceS, call.queueLatencyS, call.planningLatencyS,
    call.acknowledgementLatencyS, call.cutoverGuardS, call.oldEpochSafeUntilSourceS]
  require (!values.any (lt · zero)) (.value "reaction timing values must be non-negative")
  let event := call.event
  let observationLatencyS := event.receivedSourceS - event.sourceTimestampS
  let totalReactionS := observationLatencyS + call.queueLatencyS + call.planningLatencyS +
    call.acknowledgementLatencyS + call.cutoverGuardS
  let proposedCutoverSourceS := PyFloat.max (event.sourceTimestampS + totalReactionS)
    (call.decisionTimeSourceS + call.acknowledgementLatencyS + call.cutoverGuardS)
  let deadline := PyFloat.min event.effectiveSourceS call.oldEpochSafeUntilSourceS
  let passed := le observationLatencyS freshnessLimitS && le call.planningLatencyS planningBudgetS &&
    le proposedCutoverSourceS (deadline + ofRat 1e-9)
  validated "ReactionHorizonAudit"
    [("observation_latency_s", ge observationLatencyS zero),
     ("queue_latency_s", ge call.queueLatencyS zero),
     ("planning_latency_s", ge call.planningLatencyS zero),
     ("acknowledgement_latency_s", ge call.acknowledgementLatencyS zero),
     ("cutover_guard_s", ge call.cutoverGuardS zero),
     ("total_reaction_s", ge totalReactionS zero),
     ("reaction_deadline_source_s", ge deadline zero),
     ("proposed_cutover_source_s", ge proposedCutoverSourceS zero)]
    { observationLatencyS, totalReactionS, proposedCutoverSourceS, passed
      queueLatencyS := call.queueLatencyS
      planningLatencyS := call.planningLatencyS
      acknowledgementLatencyS := call.acknowledgementLatencyS
      cutoverGuardS := call.cutoverGuardS
      availableEventLeadS := event.effectiveSourceS - event.sourceTimestampS
      availableOldEpochHorizonS := call.oldEpochSafeUntilSourceS - event.sourceTimestampS
      reactionDeadlineSourceS := deadline }

section Decisions

variable (canonicalSha256 : Canonical F → String)

/-- `FleetReplanDecision(**payload, …)`. -/
def newFleetReplanDecision (payload : FleetReplanPayload F) :
    Except (Fault F) (FleetReplanDecision F) := do
  let decision ← validated "FleetReplanDecision"
    [("ordered_update_ids", payload.orderedUpdateIds.all isIdentifier),
     ("old_epoch", decide (1 ≤ payload.oldEpoch)),
     ("committed_route_count", decide (payload.committedRouteCount ≤ 3))]
    { payload with decisionSha256 := canonicalSha256 (.fleetDecision payload) }
  validated "FleetReplanDecision"
    [("no_partial_commit",
      if payload.disposition = .accepted then
        payload.replacementEpoch.any (·.replacements.length == payload.committedRouteCount)
      else payload.committedRouteCount == 0)]
    decision

/-- `_atomic_fleet_commit`, for one event. -/
def atomicFleetCommit (case : ReplanningCase F) (call : ReplanCall F) (sharedCutoverSourceS : F) :
    Except (Fault F) (FleetReplanDecision F) := do
  let ordered := Sorting.sortBy FleetRouteReplacement.roleId call.replacements
  let roleIds := ordered.map FleetRouteReplacement.roleId
  require (!roleIds.isEmpty && decide roleIds.Nodup && decide (roleIds.length ≤ case.droneCount))
    (.value "affected fleet replacement roles are invalid")
  let complete := ordered.all fun item =>
    item.feasible && item.cancellationAcknowledged && item.replacementAcknowledged
  if !complete then
    let fallback := if call.oldEpochStillSafe then .continueOldSafeEpoch else .fleetAbortAndLand
    newFleetReplanDecision canonicalSha256 {
      disposition := .blocked
      orderedUpdateIds := [call.event.eventId]
      oldEpoch := call.oldEpoch
      committedRouteCount := 0
      fallback := some fallback
      reason := "partial feasibility, cancellation, or acknowledgement failure committed zero routes"
      authoritySha256 := canonicalSha256 (.noCommit case.caseSha256 call.oldEpoch fallback) }
  else
    let payload : FleetReservationEpochPayload F := {
      epoch := call.oldEpoch + 1
      affectedRoleIds := roleIds
      oldReservationSha256 := call.oldReservationSha256
      replacementReservationSha256 := canonicalSha256 (.reservation (call.oldEpoch + 1) roleIds
        (ordered.map FleetRouteReplacement.replacementTrajectorySha256) sharedCutoverSourceS)
      sharedCutoverSourceS
      validationPassed := true
      replacements := ordered }
    let epoch : FleetReservationEpoch F ← validated "FleetReservationEpoch"
      [("epoch", decide (1 ≤ payload.epoch)),
       ("affected_role_ids", decide (payload.affectedRoleIds.length ≤ 3)),
       ("old_reservation_sha256", isSha256 payload.oldReservationSha256),
       ("shared_cutover_source_s", ge payload.sharedCutoverSourceS zero)]
      { payload with commitSha256 := canonicalSha256 (.epoch payload) }
    newFleetReplanDecision canonicalSha256 {
      disposition := .accepted
      orderedUpdateIds := [call.event.eventId]
      oldEpoch := call.oldEpoch
      replacementEpoch := some epoch
      committedRouteCount := ordered.length
      reason := "all affected routes and one replacement reservation epoch committed atomically"
      authoritySha256 :=
        canonicalSha256 (.commit case.caseSha256 epoch.commitSha256 [call.event.eventId]) }

/-- `DynamicFleetReplanDecision(**payload, …)`. -/
def newDynamicFleetReplanDecision (payload : DynamicFleetReplanPayload F) :
    Except (Fault F) (DynamicFleetReplanDecision F) := do
  let decision ← validated "DynamicFleetReplanDecision"
    [("old_world_sha256", isSha256 payload.oldWorldSha256),
     ("replacement_world_sha256", isSha256 payload.replacementWorldSha256),
     ("old_epoch", decide (1 ≤ payload.oldEpoch)),
     ("feasibility_certificate_sha256s", payload.feasibilityCertificateSha256s.all isSha256)]
    { payload with decisionSha256 := canonicalSha256 (.dynamicDecision payload) }
  validated "DynamicFleetReplanDecision"
    [("accepted_commits_one_epoch",
      if payload.disposition = .accepted then
        payload.fleetDecision.any (·.disposition = .accepted) && payload.reactionHorizon.passed
      else payload.fleetDecision.all (·.committedRouteCount == 0))]
    decision

/-- `_dynamic_rejection`. -/
def dynamicRejection (call : ReplanCall F) (disposition : DynamicReplanDisposition)
    (reason : String) (reactionHorizon : ReactionHorizonAudit F) (fallback : SafeFallback)
    (fleetDecision : Option (FleetReplanDecision F) := none) :
    Except (Fault F) (DynamicFleetReplanDecision F) :=
  newDynamicFleetReplanDecision canonicalSha256 {
    eventId := call.event.eventId
    eventSha256 := canonicalSha256 (.event call.event)
    disposition, reason, reactionHorizon, fleetDecision
    oldWorldSha256 := call.oldWorldSha256
    replacementWorldSha256 := call.replacementWorldSha256
    oldEpoch := call.oldEpoch
    feasibilityCertificateSha256s := call.feasibilityCertificateSha256s
    fallback := some fallback
    authoritySha256 := canonicalSha256 (.noDynamicCommit call.event call.oldEpoch fallback) }

/-- The fallback of a rejection that depends on the old epoch. -/
def epochFallback (call : ReplanCall F) : SafeFallback :=
  if call.oldEpochStillSafe then .continueOldSafeEpoch else .fleetAbortAndLand

/-- What `replan` decides of an event that is neither a duplicate nor stale. -/
def decideFresh (case : ReplanningCase F) (call : ReplanCall F) (reaction : ReactionHorizonAudit F) :
    Except (Fault F) (DynamicFleetReplanDecision F) := do
  if !call.event.authenticated then
    dynamicRejection canonicalSha256 call .rejectedAuthority
      "dynamic event is not authenticated" reaction .continueOldSafeEpoch
  else if case.replanningAuthority = .abortOnly ∨
      case.replanningAuthority = .operatorApprovalRequired ∧ !call.operatorApproved then
    dynamicRejection canonicalSha256 call .rejectedAuthority
      "case/operator authority does not admit autonomous dynamic replanning" reaction
      (epochFallback call)
  else if !reaction.passed then
    dynamicRejection canonicalSha256 call .blockedReactionHorizon
      "replacement cannot be acknowledged before the event/safety horizon" reaction
      (epochFallback call)
  else if call.feasibilityCertificateSha256s.length ≠ call.replacements.length ∨
      ¬((∀ role ∈ call.event.affectedRoleIds, ∃ item ∈ call.replacements, item.roleId = role) ∧
        ∀ item ∈ call.replacements, item.roleId ∈ call.event.affectedRoleIds) then
    dynamicRejection canonicalSha256 call .blockedAtomicCommit
      "affected routes lack one independently certified replacement each" reaction
      (epochFallback call)
  else
    let fleet ← atomicFleetCommit canonicalSha256 case call reaction.proposedCutoverSourceS
    if fleet.disposition = .accepted then
      newDynamicFleetReplanDecision canonicalSha256 {
        eventId := call.event.eventId
        eventSha256 := canonicalSha256 (.event call.event)
        disposition := .accepted
        oldWorldSha256 := call.oldWorldSha256
        replacementWorldSha256 := call.replacementWorldSha256
        oldEpoch := call.oldEpoch
        reactionHorizon := reaction
        feasibilityCertificateSha256s := call.feasibilityCertificateSha256s
        fleetDecision := some fleet
        reason := "replacement world and all affected routes committed atomically"
        authoritySha256 := canonicalSha256
          (.dynamicCommit call.event call.replacementWorldSha256 fleet.authoritySha256) }
    else
      dynamicRejection canonicalSha256 call .blockedAtomicCommit fleet.reason reaction
        (fleet.fallback.getD .fleetAbortAndLand) (some fleet)

structure InFlightReplanCoordinator (F : Type) where
  case : ReplanningCase F
  latestSequenceBySource : Dict String Nat := .empty
  decisionByEventId : Dict String (DynamicFleetReplanDecision F) := .empty

namespace InFlightReplanCoordinator

/-- `__init__`. -/
def create (case : ReplanningCase F) : Except (Fault F) (InFlightReplanCoordinator F) := do
  require (decide (2 ≤ case.droneCount ∧ case.droneCount ≤ 3))
    (.value "dynamic fleet replanning requires two or three drones")
  return { case }

/-- `event.sequence <= self._latest_sequence_by_source.get(event.source_id, 0)`. -/
def isStale (coordinator : InFlightReplanCoordinator F) (event : InFlightEnvironmentEvent F) : Bool :=
  decide (event.sequence ≤ (coordinator.latestSequenceBySource.get? event.sourceId).getD 0)

/-- Keep a decision that has been made. -/
def record (coordinator : InFlightReplanCoordinator F) (call : ReplanCall F)
    (decision : Except (Fault F) (DynamicFleetReplanDecision F)) :
    InFlightReplanCoordinator F × Except (Fault F) (DynamicFleetReplanDecision F) :=
  match decision with
  | .error fault => (coordinator, .error fault)
  | .ok decision =>
    ({ coordinator with
        decisionByEventId := coordinator.decisionByEventId.insert call.event.eventId decision },
      .ok decision)

/-- `replan`; what is raised leaves the tables as they are by then. -/
def replan (coordinator : InFlightReplanCoordinator F) (call : ReplanCall F) :
    InFlightReplanCoordinator F × Except (Fault F) (DynamicFleetReplanDecision F) :=
  let event := call.event
  let case := coordinator.case
  match coordinator.decisionByEventId.get? event.eventId with
  | some existing =>
    (coordinator, dynamicRejection canonicalSha256 call .duplicateIdempotent
      "duplicate event ID returned without creating another epoch" existing.reactionHorizon
      (existing.fallback.getD .continueOldSafeEpoch))
  | none =>
    let reaction := reactionHorizon call case.planningBudgetS case.observationFreshnessLimitS
    if coordinator.isStale event then
      coordinator.record call do
        dynamicRejection canonicalSha256 call .rejectedStale
          "dynamic event source sequence is stale" (← reaction) (epochFallback call)
    else
      match reaction with
      | .error fault => (coordinator, .error fault)
      | .ok reaction =>
        let coordinator := { coordinator with
          latestSequenceBySource :=
            coordinator.latestSequenceBySource.insert event.sourceId event.sequence }
        coordinator.record call (decideFresh canonicalSha256 case call reaction)

end InFlightReplanCoordinator

end Decisions

end CrazySwarm
