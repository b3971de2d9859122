import CrazySwarm.Lib.Runs
import CrazySwarm.ReplanningInfluence

/-! What the coordinator commits over a run: one decision at most for an event, in the order of the
sequence numbers of its source, and none of it in part. The sequence number of a fresh event is
written before the decision about it is made, so that a decision that cannot be built leaves the
event stale. -/
namespace CrazySwarm
open PyFloat

variable {F : Type} [PyFloat F]

namespace InFlightReplanCoordinator

section Statement

variable (canonicalSha256 : Canonical F → String)

/-- The calls with what each of them returns or raises. -/
def answers (coordinator : InFlightReplanCoordinator F) :
    List (ReplanCall F) → List (ReplanCall F × Except (Fault F) (DynamicFleetReplanDecision F))
  | [] => []
  | call :: rest =>
    (call, (coordinator.replan canonicalSha256 call).2) ::
      answers (coordinator.replan canonicalSha256 call).1 rest

def isAccepted (result : Except (Fault F) (DynamicFleetReplanDecision F)) : Bool :=
  match result with
  | .ok decision => decision.disposition = .accepted
  | .error _ => false

def acceptedEvents (coordinator : InFlightReplanCoordinator F) (calls : List (ReplanCall F)) :
    List (InFlightEnvironmentEvent F) :=
  ((answers canonicalSha256 coordinator calls).filter fun (_, result) => isAccepted result).map
    fun (call, _) => call.event

/-- One epoch with one feasible and acknowledged replacement for each affected role, and with a
cutover that is not later than the event takes effect and the old epoch is safe. -/
def CommitsAll (call : ReplanCall F) (decision : DynamicFleetReplanDecision F) : Prop :=
  ∃ fleet epoch, decision.fleetDecision = some fleet ∧ fleet.replacementEpoch = some epoch ∧
    fleet.committedRouteCount = epoch.replacements.length ∧
    (∀ role ∈ call.event.affectedRoleIds, ∃! item, item ∈ epoch.replacements ∧ item.roleId = role) ∧
    (∀ item ∈ epoch.replacements, item.roleId ∈ call.event.affectedRoleIds ∧
      item.feasible = true ∧ item.cancellationAcknowledged = true ∧
      item.replacementAcknowledged = true) ∧
    le epoch.sharedCutoverSourceS
      (PyFloat.min call.event.effectiveSourceS call.oldEpochSafeUntilSourceS + ofRat 1e-9) = true

/-- No route of a new epoch. -/
def CommitsNothing (decision : DynamicFleetReplanDecision F) : Prop :=
  ∀ fleet, decision.fleetDecision = some fleet →
    fleet.committedRouteCount = 0 ∧ fleet.replacementEpoch = none

structure CommitsInOrder (coordinator : InFlightReplanCoordinator F) (calls : List (ReplanCall F)) :
    Prop where
  once : ((acceptedEvents canonicalSha256 coordinator calls).map (·.eventId)).Nodup
  ordered : (acceptedEvents canonicalSha256 coordinator calls).Pairwise fun earlier later =>
    earlier.sourceId = later.sourceId → earlier.sequence < later.sequence
  whole : ∀ call decision, (call, .ok decision) ∈ answers canonicalSha256 coordinator calls →
    if decision.disposition = .accepted then CommitsAll call decision else CommitsNothing decision

def LeavesNoTrace (coordinator : InFlightReplanCoordinator F) (calls : List (ReplanCall F)) : Prop :=
  Runs.Along (fun coordinator call => (coordinator.replan canonicalSha256 call).1)
    (fun coordinator call => ∀ fault, (coordinator.replan canonicalSha256 call).2 = .error fault →
      (coordinator.replan canonicalSha256 call).1 = coordinator) coordinator calls

/-- When the replacement would become active. -/
def proposedCutoverS (call : ReplanCall F) : F :=
  PyFloat.max (call.event.sourceTimestampS + (call.event.receivedSourceS -
      call.event.sourceTimestampS + call.queueLatencyS + call.planningLatencyS +
        call.acknowledgementLatencyS + call.cutoverGuardS))
    (call.decisionTimeSourceS + call.acknowledgementLatencyS + call.cutoverGuardS)

/-- The observation is fresh, the planning within its budget and the cutover in time. -/
def inTime (case : ReplanningCase F) (call : ReplanCall F) : Bool :=
  le (call.event.receivedSourceS - call.event.sourceTimestampS) case.observationFreshnessLimitS &&
    le call.planningLatencyS case.planningBudgetS &&
      le (proposedCutoverS call)
        (PyFloat.min call.event.effectiveSourceS call.oldEpochSafeUntilSourceS + ofRat 1e-9)

/-- The case and the operator let the event change the routes. -/
def mayReplan (case : ReplanningCase F) (call : ReplanCall F) : Bool :=
  call.event.authenticated && !decide (case.replanningAuthority = .abortOnly ∨
    case.replanningAuthority = .operatorApprovalRequired ∧ !call.operatorApproved)

/-- As many certificates as replacements, and these for the affected roles. -/
def certified (call : ReplanCall F) : Bool :=
  decide (call.feasibilityCertificateSha256s.length = call.replacements.length ∧
    (∀ role ∈ call.event.affectedRoleIds, ∃ item ∈ call.replacements, item.roleId = role) ∧
      ∀ item ∈ call.replacements, item.roleId ∈ call.event.affectedRoleIds)

def complete (call : ReplanCall F) : Bool :=
  call.replacements.all fun item =>
    item.feasible && item.cancellationAcknowledged && item.replacementAcknowledged

/-- The replacements are of one role each and not more than the drones, and what the epoch and the
decision about it take over from the call is valid. -/
def committable (case : ReplanningCase F) (call : ReplanCall F) : Bool :=
  let roleIds := call.replacements.map FleetRouteReplacement.roleId
  !roleIds.isEmpty && decide roleIds.Nodup && decide (roleIds.length ≤ case.droneCount) &&
    isIdentifier call.event.eventId &&
    (!complete call || isSha256 call.oldReservationSha256)

/-- The decision about a fresh event can be built. -/
def concludes (case : ReplanningCase F) (call : ReplanCall F) : Bool :=
  recordable call &&
    (!(mayReplan case call && inTime case call && certified call) || committable case call)

/-- The call does not fail after its event has been found to be fresh. -/
def Concluding (coordinator : InFlightReplanCoordinator F) (call : ReplanCall F) : Prop :=
  coordinator.isKnown call.event = false → coordinator.isStale call.event = false →
    timed coordinator.case call = true → concludes coordinator.case call = true

end Statement

variable {canonicalSha256 : Canonical F → String} {case : ReplanningCase F} {call : ReplanCall F}
  {coordinator : InFlightReplanCoordinator F} {calls : List (ReplanCall F)}
  {reaction : ReactionHorizonAudit F} {fleet : FleetReplanDecision F}
  {decision : DynamicFleetReplanDecision F}

section Decisions

theorem reactionHorizon_spec (horizon : reactionHorizon call case.planningBudgetS
      case.observationFreshnessLimitS = .ok reaction) :
    reaction.passed = inTime case call ∧
      reaction.proposedCutoverSourceS = proposedCutoverS call ∧
      ge (proposedCutoverS call) zero = true := by
  obtain ⟨_, -, horizon⟩ := bind_eq_ok.mp horizon
  obtain ⟨checks, rfl⟩ := validated_eq_ok.mp horizon
  refine ⟨rfl, rfl, ?_⟩
  exact checks ("proposed_cutover_source_s", ge (proposedCutoverS call) zero) (by simp [proposedCutoverS])

omit [PyFloat F] in
theorem newFleetReplanDecision_eq_ok {payload : FleetReplanPayload F} :
    newFleetReplanDecision canonicalSha256 payload = .ok fleet ↔
      (payload.orderedUpdateIds.all isIdentifier = true ∧ 1 ≤ payload.oldEpoch ∧
        payload.committedRouteCount ≤ 3) ∧
      (if payload.disposition = .accepted then
        payload.replacementEpoch.any (·.replacements.length == payload.committedRouteCount)
      else payload.committedRouteCount == 0) = true ∧
      { payload with decisionSha256 := canonicalSha256 (.fleetDecision payload) } = fleet := by
  simp only [newFleetReplanDecision, bind_eq_ok, validated_eq_ok]
  constructor
  · rintro ⟨_, ⟨fields, rfl⟩, consistent, rfl⟩
    exact ⟨by simpa using fields, by simpa using consistent, rfl⟩
  · rintro ⟨fields, consistent, rfl⟩
    exact ⟨_, ⟨by simpa using fields, rfl⟩, by simpa using consistent, rfl⟩

omit [PyFloat F] in
theorem newDynamicFleetReplanDecision_eq_ok {payload : DynamicFleetReplanPayload F} :
    newDynamicFleetReplanDecision canonicalSha256 payload = .ok decision ↔
      (isSha256 payload.oldWorldSha256 = true ∧ isSha256 payload.replacementWorldSha256 = true ∧
        1 ≤ payload.oldEpoch ∧ payload.feasibilityCertificateSha256s.all isSha256 = true) ∧
      (if payload.disposition = .accepted then
        payload.fleetDecision.any (·.disposition = .accepted) && payload.reactionHorizon.passed
      else payload.fleetDecision.all (·.committedRouteCount == 0)) = true ∧
      { payload with decisionSha256 := canonicalSha256 (.dynamicDecision payload) } = decision := by
  simp only [newDynamicFleetReplanDecision, bind_eq_ok, validated_eq_ok]
  constructor
  · rintro ⟨_, ⟨fields, rfl⟩, consistent, rfl⟩
    exact ⟨by simpa using fields, by simpa using consistent, rfl⟩
  · rintro ⟨fields, consistent, rfl⟩
    exact ⟨_, ⟨by simpa using fields, rfl⟩, by simpa using consistent, rfl⟩

omit [PyFloat F] in
theorem exists_newDynamicFleetReplanDecision {payload : DynamicFleetReplanPayload F}
    (fields : isSha256 payload.oldWorldSha256 = true ∧
      isSha256 payload.replacementWorldSha256 = true ∧ 1 ≤ payload.oldEpoch ∧
        payload.feasibilityCertificateSha256s.all isSha256 = true)
    (consistent : (if payload.disposition = .accepted then
        payload.fleetDecision.any (·.disposition = .accepted) && payload.reactionHorizon.passed
      else payload.fleetDecision.all (·.committedRouteCount == 0)) = true) :
    ∃ decision, newDynamicFleetReplanDecision canonicalSha256 payload = .ok decision :=
  ⟨_, newDynamicFleetReplanDecision_eq_ok.mpr ⟨fields, consistent, rfl⟩⟩

omit [PyFloat F] in
/-- A rejection that commits nothing needs the fields it takes over alone. -/
theorem exists_dynamicRejection_iff {disposition : DynamicReplanDisposition} {reason : String}
    {fallback : SafeFallback} {fleet? : Option (FleetReplanDecision F)}
    (rejects : disposition ≠ .accepted) (nothing : fleet?.all (·.committedRouteCount == 0) = true) :
    (∃ decision, dynamicRejection canonicalSha256 call disposition reason reaction fallback fleet? =
      .ok decision) ↔ recordable call = true := by
  simp only [dynamicRejection, newDynamicFleetReplanDecision_eq_ok, if_neg rejects, nothing,
    true_and, recordable, Bool.and_eq_true, decide_eq_true_eq]
  constructor
  · rintro ⟨_, ⟨old, replacement, epoch, certificates⟩, -⟩
    exact ⟨⟨⟨old, replacement⟩, epoch⟩, certificates⟩
  · rintro ⟨⟨⟨old, replacement⟩, epoch⟩, certificates⟩
    exact ⟨_, ⟨old, replacement, epoch, certificates⟩, rfl⟩

abbrev ordered (call : ReplanCall F) : List FleetRouteReplacement :=
  Sorting.sortBy FleetRouteReplacement.roleId call.replacements

omit [PyFloat F] in
theorem ordered_perm (call : ReplanCall F) :
    ((ordered call).map FleetRouteReplacement.roleId).Perm
      (call.replacements.map FleetRouteReplacement.roleId) :=
  (Sorting.sortBy_perm _ _).map _

omit [PyFloat F] in
theorem all_ordered : ((ordered call).all fun item =>
    item.feasible && item.cancellationAcknowledged && item.replacementAcknowledged) = complete call :=
  (Sorting.sortBy_perm _ _).all_eq

theorem atomicFleetCommit_spec {cutoverS : F}
    (made : atomicFleetCommit canonicalSha256 case call cutoverS = .ok fleet) :
    (call.replacements.map FleetRouteReplacement.roleId).Nodup ∧
      (fleet.disposition = .accepted ∧ complete call = true ∧ (∃ epoch,
          fleet.replacementEpoch = some epoch ∧
          fleet.committedRouteCount = epoch.replacements.length ∧
          epoch.replacements = ordered call ∧ epoch.sharedCutoverSourceS = cutoverS) ∨
        fleet.disposition = .blocked ∧ fleet.committedRouteCount = 0 ∧
          fleet.replacementEpoch = none) := by
  obtain ⟨_, roles, made⟩ := bind_eq_ok.mp made
  have distinct : (call.replacements.map FleetRouteReplacement.roleId).Nodup := by
    simp only [require_eq_ok, Bool.and_eq_true, decide_eq_true_eq] at roles
    exact (ordered_perm call).nodup_iff.mp roles.1.2
  refine ⟨distinct, ?_⟩
  rw [all_ordered] at made
  cases whole : complete call with
  | false =>
    rw [whole] at made
    obtain ⟨-, -, rfl⟩ := newFleetReplanDecision_eq_ok.mp made
    exact .inr ⟨rfl, rfl, rfl⟩
  | true =>
    rw [whole] at made
    obtain ⟨epoch, epochMade, made⟩ := bind_eq_ok.mp made
    obtain ⟨-, rfl⟩ := validated_eq_ok.mp epochMade
    obtain ⟨-, -, rfl⟩ := newFleetReplanDecision_eq_ok.mp made
    exact .inl ⟨rfl, rfl, _, rfl, rfl, rfl, rfl⟩

omit [PyFloat F] in
/-- What the commit checks of the roles does not depend on their order. -/
theorem roles_ordered :
    (!((ordered call).map FleetRouteReplacement.roleId).isEmpty &&
      decide ((ordered call).map FleetRouteReplacement.roleId).Nodup &&
        decide (((ordered call).map FleetRouteReplacement.roleId).length ≤ case.droneCount)) =
    (!(call.replacements.map FleetRouteReplacement.roleId).isEmpty &&
      decide (call.replacements.map FleetRouteReplacement.roleId).Nodup &&
        decide ((call.replacements.map FleetRouteReplacement.roleId).length ≤ case.droneCount)) := by
  have perm := ordered_perm call
  rw [perm.isEmpty_eq, perm.length_eq]
  simp only [perm.nodup_iff]

theorem exists_atomicFleetCommit_iff {cutoverS : F} (few : case.droneCount ≤ 3)
    (epoch : 1 ≤ call.oldEpoch) (cutover : ge cutoverS zero = true) :
    (∃ fleet, atomicFleetCommit canonicalSha256 case call cutoverS = .ok fleet) ↔
      committable case call = true := by
  have next : 1 ≤ call.oldEpoch + 1 := by omega
  have length : (ordered call).length = call.replacements.length :=
    (Sorting.sortBy_perm _ _).length_eq
  simp only [atomicFleetCommit, bind_eq_ok, require_eq_ok, all_ordered, roles_ordered]
  cases whole : complete call with
  | false =>
    simp [committable, whole, newFleetReplanDecision_eq_ok, epoch]
  | true =>
    simp only [List.isEmpty_map, List.length_map, Bool.and_eq_true, Bool.not_eq_eq_eq_not,
      Bool.not_true, List.isEmpty_eq_false_iff, ne_eq, decide_eq_true_eq, Bool.false_eq_true,
      ↓reduceIte, next, decide_true, cutover, bind_eq_ok, validated_eq_ok, List.mem_cons,
      List.not_mem_nil, or_false, forall_eq_or_imp, forall_eq, and_true, true_and,
      newFleetReplanDecision_eq_ok, List.all_cons, List.all_nil, Bool.and_true, epoch,
      Option.any_some, beq_iff_eq, ↓existsAndEq, exists_const, exists_and_left, committable, whole,
      Bool.false_or]
    constructor
    · rintro ⟨roles, ⟨-, reservation⟩, identifier, -⟩
      exact ⟨⟨roles, identifier⟩, reservation⟩
    · rintro ⟨⟨roles, identifier⟩, reservation⟩
      have atMost := length.trans_le (roles.2.trans few)
      exact ⟨roles, ⟨atMost, reservation⟩, identifier, atMost⟩

omit [PyFloat F] in
theorem dynamicRejection_spec {disposition : DynamicReplanDisposition} {reason : String}
    {fallback : SafeFallback} {fleet? : Option (FleetReplanDecision F)}
    (made : dynamicRejection canonicalSha256 call disposition reason reaction fallback fleet? =
      .ok decision)
    (nothing : ∀ fleet, fleet? = some fleet →
      fleet.committedRouteCount = 0 ∧ fleet.replacementEpoch = none) :
    decision.disposition = disposition ∧ CommitsNothing decision := by
  obtain ⟨-, -, rfl⟩ := newDynamicFleetReplanDecision_eq_ok.mp made
  exact ⟨rfl, nothing⟩

/-- A fresh event commits all of its routes or none. -/
theorem decideFresh_commits (horizon : reactionHorizon call case.planningBudgetS
      case.observationFreshnessLimitS = .ok reaction)
    (decided : decideFresh canonicalSha256 case call reaction = .ok decision) :
    if decision.disposition = .accepted then CommitsAll call decision
    else CommitsNothing decision := by
  have rejected {disposition : DynamicReplanDisposition} {reason : String} {fallback : SafeFallback}
      {fleet? : Option (FleetReplanDecision F)} (made : dynamicRejection canonicalSha256 call
        disposition reason reaction fallback fleet? = .ok decision)
      (rejects : disposition ≠ .accepted) (nothing : ∀ fleet, fleet? = some fleet →
        fleet.committedRouteCount = 0 ∧ fleet.replacementEpoch = none) :
      if decision.disposition = .accepted then CommitsAll call decision
      else CommitsNothing decision := by
    obtain ⟨same, committed⟩ := dynamicRejection_spec made nothing
    rw [if_neg (same ▸ rejects)]
    exact committed
  have noFleet : ∀ fleet : FleetReplanDecision F, none = some fleet →
      fleet.committedRouteCount = 0 ∧ fleet.replacementEpoch = none := by simp
  obtain ⟨passes, cutover, -⟩ := reactionHorizon_spec horizon
  unfold decideFresh at decided
  split at decided
  · exact rejected decided nofun noFleet
  split at decided
  · exact rejected decided nofun noFleet
  split at decided
  · exact rejected decided nofun noFleet
  next passed =>
  split at decided
  · exact rejected decided nofun noFleet
  next roles =>
  obtain ⟨fleet, committed, made⟩ := bind_eq_ok.mp decided
  obtain ⟨distinct, ⟨accepted, whole, epoch, epochOf, count, replacements, shared⟩ |
    ⟨blocked, none, nothing⟩⟩ := atomicFleetCommit_spec committed
  · rw [if_pos accepted] at made
    obtain ⟨-, -, rfl⟩ := newDynamicFleetReplanDecision_eq_ok.mp made
    simp only [not_or, not_not] at roles
    have onTime : inTime case call = true := by
      rw [← passes]
      simpa using passed
    have member {item : FleetRouteReplacement} :
        item ∈ epoch.replacements ↔ item ∈ call.replacements := by
      rw [replacements, Sorting.mem_sortBy]
    have accepts : DynamicReplanDisposition.accepted = .accepted := rfl
    rw [if_pos accepts]
    refine ⟨fleet, epoch, rfl, epochOf, count, ?_, ?_, ?_⟩
    · intro role affected
      obtain ⟨item, among, same⟩ := roles.2.1 role affected
      refine ⟨item, ⟨member.mpr among, same⟩, ?_⟩
      rintro other ⟨otherAmong, otherSame⟩
      exact List.inj_on_of_nodup_map distinct (member.mp otherAmong) among
        (otherSame.trans same.symm)
    · intro item among
      have done := List.all_eq_true.mp whole item (member.mp among)
      simp only [Bool.and_eq_true] at done
      exact ⟨roles.2.2 item (member.mp among), done.1.1, done.1.2, done.2⟩
    · rw [shared, cutover]
      simp only [inTime, Bool.and_eq_true] at onTime
      exact onTime.2
  · rw [if_neg (by simp [blocked])] at made
    refine rejected made nofun ?_
    rintro _ ⟨⟩
    exact ⟨none, nothing⟩

/-- A decision about a fresh event with valid timing can be built if and only if it concludes. -/
theorem exists_decideFresh_iff (few : case.droneCount ≤ 3)
    (horizon : reactionHorizon call case.planningBudgetS case.observationFreshnessLimitS =
      .ok reaction) :
    (∃ decision, decideFresh canonicalSha256 case call reaction = .ok decision) ↔
      concludes case call = true := by
  have barred (without : (mayReplan case call && inTime case call && certified call) = false) :
      concludes case call = recordable call := by
    simp [concludes, without]
  obtain ⟨passes, cutover, later⟩ := reactionHorizon_spec horizon
  unfold decideFresh
  by_cases authentic : call.event.authenticated = true
  swap
  · rw [if_pos (by simpa using authentic), barred (by simp [mayReplan, authentic])]
    exact exists_dynamicRejection_iff nofun rfl
  rw [if_neg (by simpa using authentic)]
  split_ifs with authority late uncertified
  · have unauthorized : mayReplan case call = false := by
      rw [mayReplan, decide_eq_true authority, Bool.not_true, Bool.and_false]
    rw [barred (by simp [unauthorized])]
    exact exists_dynamicRejection_iff nofun rfl
  · have tooLate : inTime case call = false := by
      rw [← passes]
      simpa using late
    rw [barred (by simp [tooLate])]
    exact exists_dynamicRejection_iff nofun rfl
  · have uncertain : certified call = false := by
      refine decide_eq_false fun certain => ?_
      exact uncertified.elim (· certain.1) (· certain.2)
    rw [barred (by simp [uncertain])]
    exact exists_dynamicRejection_iff nofun rfl
  have onTime : inTime case call = true := by
    rw [← passes]
    simpa using late
  have certain : certified call = true := by
    simp only [not_or, not_not] at uncertified
    exact decide_eq_true uncertified
  have replans : mayReplan case call = true := by
    rw [mayReplan, authentic, decide_eq_false authority]
    rfl
  have concluded : concludes case call = true ↔
      recordable call = true ∧ committable case call = true := by
    simp [concludes, onTime, certain, replans]
  rw [concluded]
  constructor
  · rintro ⟨decision, decided⟩
    obtain ⟨fleet, committed, made⟩ := bind_eq_ok.mp decided
    have fields : recordable call = true := by
      split at made
      · exact (recordable_of_new made).1
      · exact (recordable_of_new made).1
    refine ⟨fields, ?_⟩
    have epoch : 1 ≤ call.oldEpoch := by
      simp only [recordable, Bool.and_eq_true, decide_eq_true_eq] at fields
      exact fields.1.2
    exact (exists_atomicFleetCommit_iff few epoch (cutover ▸ later)).mp ⟨fleet, committed⟩
  · rintro ⟨fields, commits⟩
    have epoch : 1 ≤ call.oldEpoch := by
      simp only [recordable, Bool.and_eq_true, decide_eq_true_eq] at fields
      exact fields.1.2
    obtain ⟨fleet, committed⟩ : ∃ fleet, atomicFleetCommit canonicalSha256 case call
        reaction.proposedCutoverSourceS = .ok fleet :=
      (exists_atomicFleetCommit_iff few epoch (cutover ▸ later)).mpr commits
    rw [committed]
    simp only [recordable, Bool.and_eq_true, decide_eq_true_eq] at fields
    obtain ⟨⟨⟨old, replacement⟩, -⟩, certificates⟩ := fields
    obtain ⟨-, ⟨accepted, -, -⟩ | ⟨blocked, none, -⟩⟩ := atomicFleetCommit_spec committed
    · change ∃ decision, (if fleet.disposition = .accepted then _ else _) = Except.ok decision
      rw [if_pos accepted]
      refine exists_newDynamicFleetReplanDecision ?_ ?_
      · exact ⟨old, replacement, epoch, certificates⟩
      · simp [accepted, passes, onTime]
    · change ∃ decision, (if fleet.disposition = .accepted then _ else _) = Except.ok decision
      rw [if_neg (by simp [blocked])]
      refine exists_newDynamicFleetReplanDecision ?_ ?_
      · exact ⟨old, replacement, epoch, certificates⟩
      · simp [none]

end Decisions

section Steps

/-- The coordinator after the sequence number of the event has been written. -/
def heard (coordinator : InFlightReplanCoordinator F) (event : InFlightEnvironmentEvent F) :
    InFlightReplanCoordinator F :=
  { coordinator with
    latestSequenceBySource := coordinator.latestSequenceBySource.insert event.sourceId event.sequence }

def decided (coordinator : InFlightReplanCoordinator F) (event : InFlightEnvironmentEvent F)
    (decision : DynamicFleetReplanDecision F) : InFlightReplanCoordinator F :=
  { coordinator with
    decisionByEventId := coordinator.decisionByEventId.insert event.eventId decision }

theorem replan_cases (canonicalSha256 : Canonical F → String)
    (coordinator : InFlightReplanCoordinator F) (call : ReplanCall F) :
    ((coordinator.replan canonicalSha256 call).1 = coordinator ∧
      (coordinator.isKnown call.event = true ∨ coordinator.isStale call.event = true ∨
        timed coordinator.case call = false) ∧
      ∀ decision, (coordinator.replan canonicalSha256 call).2 = .ok decision →
        decision.disposition ≠ .accepted ∧ CommitsNothing decision) ∨
    (∃ decision, coordinator.replan canonicalSha256 call =
        (coordinator.decided call.event decision, .ok decision) ∧
      coordinator.isStale call.event = true ∧
      decision.disposition ≠ .accepted ∧ CommitsNothing decision) ∨
    (coordinator.isKnown call.event = false ∧ coordinator.isStale call.event = false ∧
      ∃ reaction, reactionHorizon call coordinator.case.planningBudgetS
        coordinator.case.observationFreshnessLimitS = .ok reaction ∧
      ((∃ fault, decideFresh canonicalSha256 coordinator.case call reaction = .error fault ∧
          coordinator.replan canonicalSha256 call = (coordinator.heard call.event, .error fault)) ∨
        ∃ decision, decideFresh canonicalSha256 coordinator.case call reaction = .ok decision ∧
          coordinator.replan canonicalSha256 call =
            ((coordinator.heard call.event).decided call.event decision, .ok decision))) := by
  have rejected {disposition : DynamicReplanDisposition} {reason : String} {fallback : SafeFallback}
      {reaction : ReactionHorizonAudit F} {decision : DynamicFleetReplanDecision F}
      (made : dynamicRejection canonicalSha256 call disposition reason reaction fallback =
        .ok decision) (rejects : disposition ≠ .accepted) :
      decision.disposition ≠ .accepted ∧ CommitsNothing decision := by
    obtain ⟨same, nothing⟩ := dynamicRejection_spec made (by simp)
    exact ⟨same ▸ rejects, nothing⟩
  unfold replan isKnown timed
  dsimp only
  cases coordinator.decisionByEventId.get? call.event.eventId with
  | some existing => exact .inl ⟨rfl, .inl rfl, fun decision made => rejected made nofun⟩
  | none =>
    simp only [Option.isSome_none]
    cases horizon : reactionHorizon call coordinator.case.planningBudgetS
        coordinator.case.observationFreshnessLimitS with
    | error fault =>
      simp only [bind, Except.bind, record, ite_self]
      exact .inl ⟨trivial, .inr (.inr rfl), by simp⟩
    | ok reaction =>
      split
      · next stale =>
        simp only [bind, Except.bind]
        generalize made : dynamicRejection canonicalSha256 call .rejectedStale
          "dynamic event source sequence is stale" reaction (epochFallback call) = result
        cases result with
        | error fault => exact .inl ⟨rfl, .inr (.inl stale), by simp [record]⟩
        | ok decision => exact .inr (.inl ⟨decision, rfl, stale, rejected made nofun⟩)
      · next fresh =>
        refine .inr (.inr ⟨trivial, by simpa using fresh, reaction, rfl, ?_⟩)
        change (∃ fault, _ ∧ (coordinator.heard call.event).record call _ = _) ∨
          ∃ decision, _ ∧ (coordinator.heard call.event).record call _ = _
        generalize decideFresh canonicalSha256 coordinator.case call reaction = result
        cases result with
        | error fault => exact .inl ⟨fault, rfl, rfl⟩
        | ok decision => exact .inr ⟨decision, rfl, rfl⟩

omit [PyFloat F] in
theorem isKnown_decided (event other : InFlightEnvironmentEvent F) :
    (coordinator.decided event decision).isKnown other =
      (decide (event.eventId = other.eventId) || coordinator.isKnown other) := by
  unfold isKnown decided
  dsimp only
  rw [Dict.get?_insert]
  split <;> simp_all

omit [PyFloat F] in
theorem isStale_heard (event other : InFlightEnvironmentEvent F) :
    (coordinator.heard event).isStale other =
      if event.sourceId = other.sourceId then decide (other.sequence ≤ event.sequence)
      else coordinator.isStale other := by
  unfold isStale heard
  dsimp only
  rw [Dict.get?_insert]
  split <;> rfl

omit [PyFloat F] in
@[simp] theorem isStale_decided (event other : InFlightEnvironmentEvent F) :
    (coordinator.decided event decision).isStale other = coordinator.isStale other := rfl

omit [PyFloat F] in
@[simp] theorem isKnown_heard (event other : InFlightEnvironmentEvent F) :
    (coordinator.heard event).isKnown other = coordinator.isKnown other := rfl

omit [PyFloat F] in
theorem stale_heard {event other : InFlightEnvironmentEvent F}
    (fresh : coordinator.isStale event = false) (stale : coordinator.isStale other = true) :
    (coordinator.heard event).isStale other = true := by
  rw [isStale_heard]
  split
  · next same =>
    simp only [isStale, same, decide_eq_false_iff_not, decide_eq_true_eq] at fresh stale ⊢
    omega
  · exact stale

theorem replan_remembers (canonicalSha256 : Canonical F → String)
    (coordinator : InFlightReplanCoordinator F) (call : ReplanCall F)
    (event : InFlightEnvironmentEvent F) :
    (coordinator.isKnown event = true →
      (coordinator.replan canonicalSha256 call).1.isKnown event = true) ∧
    (coordinator.isStale event = true →
      (coordinator.replan canonicalSha256 call).1.isStale event = true) := by
  rcases replan_cases canonicalSha256 coordinator call with ⟨same, -⟩ | ⟨decision, same, -⟩ |
    ⟨-, fresh, reaction, -, ⟨fault, -, same⟩ | ⟨decision, -, same⟩⟩
  · rw [same]
    exact ⟨id, id⟩
  · rw [same]
    exact ⟨fun known => by simp [isKnown_decided, known], id⟩
  · rw [same]
    exact ⟨id, stale_heard fresh⟩
  · rw [same]
    exact ⟨fun known => by simp [isKnown_decided, known], stale_heard fresh⟩

theorem replan_accepted (accepted : isAccepted (coordinator.replan canonicalSha256 call).2 = true) :
    (coordinator.isKnown call.event = false ∧ coordinator.isStale call.event = false) ∧
    (∀ event : InFlightEnvironmentEvent F, event.eventId = call.event.eventId →
      (coordinator.replan canonicalSha256 call).1.isKnown event = true) ∧
    ∀ event : InFlightEnvironmentEvent F, event.sourceId = call.event.sourceId →
      event.sequence ≤ call.event.sequence →
        (coordinator.replan canonicalSha256 call).1.isStale event = true := by
  rcases replan_cases canonicalSha256 coordinator call with ⟨-, -, rejects⟩ |
    ⟨decision, same, -, rejects, -⟩ |
    ⟨new, fresh, reaction, -, ⟨fault, -, same⟩ | ⟨decision, -, same⟩⟩
  · cases result : (coordinator.replan canonicalSha256 call).2 with
    | error fault =>
      rw [result] at accepted
      cases accepted
    | ok decision =>
      rw [result] at accepted
      exact absurd (of_decide_eq_true accepted) (rejects decision result).1
  · rw [same] at accepted
    exact absurd (of_decide_eq_true accepted) rejects
  · rw [same] at accepted
    cases accepted
  · rw [same]
    refine ⟨⟨new, fresh⟩, ?_, ?_⟩
    · intro event id
      rw [isKnown_decided, decide_eq_true id.symm, Bool.true_or]
    · intro event source older
      rw [isStale_decided, isStale_heard, if_pos source.symm]
      exact decide_eq_true older

/-- A call leaves the tables alone when it raises, if and only if it does not fail late. -/
theorem replan_traceless_iff (few : coordinator.case.droneCount ≤ 3) :
    (∀ fault, (coordinator.replan canonicalSha256 call).2 = .error fault →
      (coordinator.replan canonicalSha256 call).1 = coordinator) ↔ Concluding coordinator call := by
  rcases replan_cases canonicalSha256 coordinator call with ⟨same, other, -⟩ |
    ⟨decision, same, stale, -⟩ | ⟨new, fresh, reaction, horizon, decides⟩
  · refine iff_of_true (fun _ _ => same) fun new fresh onTime => ?_
    simp [new, fresh, onTime] at other
  · rw [same]
    refine iff_of_true nofun fun _ fresh => ?_
    rw [stale] at fresh
    cases fresh
  · have onTime : timed coordinator.case call = true := by
      rw [timed, horizon]
      rfl
    have concludes_iff : Concluding coordinator call ↔
        ∃ decision, decideFresh canonicalSha256 coordinator.case call reaction = .ok decision := by
      rw [exists_decideFresh_iff few horizon]
      exact ⟨fun concluding => concluding new fresh onTime, fun concluded _ _ _ => concluded⟩
    rw [concludes_iff]
    rcases decides with ⟨fault, failed, same⟩ | ⟨decision, decided, same⟩
    · rw [same, failed]
      refine iff_of_false (fun kept => ?_) (by simp)
      have latest := congrArg (fun c : InFlightReplanCoordinator F => c.isStale call.event)
        (kept fault rfl)
      simp [isStale_heard, fresh] at latest
    · rw [same]
      exact iff_of_true nofun ⟨decision, decided⟩

theorem replan_commits (made : (coordinator.replan canonicalSha256 call).2 = .ok decision) :
    if decision.disposition = .accepted then CommitsAll call decision
    else CommitsNothing decision := by
  rcases replan_cases canonicalSha256 coordinator call with ⟨-, -, rejects⟩ |
    ⟨other, same, -, rejects, nothing⟩ |
    ⟨-, -, reaction, horizon, ⟨fault, -, same⟩ | ⟨other, decided, same⟩⟩
  · rw [if_neg (rejects decision made).1]
    exact (rejects decision made).2
  · rw [same] at made
    cases made
    rw [if_neg rejects]
    exact nothing
  · rw [same] at made
    cases made
  · rw [same] at made
    cases made
    exact decideFresh_commits horizon decided

end Steps

section Runs

theorem acceptedEvents_cons {rest : List (ReplanCall F)} :
    acceptedEvents canonicalSha256 coordinator (call :: rest) =
      (if isAccepted (coordinator.replan canonicalSha256 call).2 then [call.event] else []) ++
        acceptedEvents canonicalSha256 (coordinator.replan canonicalSha256 call).1 rest := by
  cases accepts : isAccepted (coordinator.replan canonicalSha256 call).2 <;>
    simp [acceptedEvents, answers, accepts]

theorem acceptedEvents_fresh {event : InFlightEnvironmentEvent F}
    (accepted : event ∈ acceptedEvents canonicalSha256 coordinator calls) :
    coordinator.isKnown event = false ∧ coordinator.isStale event = false := by
  induction calls generalizing coordinator with
  | nil => cases accepted
  | cons call rest ih =>
    rw [acceptedEvents_cons, List.mem_append] at accepted
    rcases accepted with now | later
    · split at now
      · next accepts =>
        obtain rfl := List.mem_singleton.mp now
        exact (replan_accepted accepts).1
      · cases now
    · obtain ⟨unknown, fresh⟩ := ih later
      obtain ⟨knows, ages⟩ := replan_remembers canonicalSha256 coordinator call event
      refine ⟨?_, ?_⟩
      · exact Bool.eq_false_iff.mpr fun known => by simp [knows known] at unknown
      · exact Bool.eq_false_iff.mpr fun stale => by simp [ages stale] at fresh

theorem commitsInOrder (canonicalSha256 : Canonical F → String)
    (coordinator : InFlightReplanCoordinator F) (calls : List (ReplanCall F)) :
    CommitsInOrder canonicalSha256 coordinator calls := by
  induction calls generalizing coordinator with
  | nil => exact ⟨List.nodup_nil, .nil, fun _ _ among => (List.not_mem_nil among).elim⟩
  | cons call rest ih =>
    obtain ⟨once, ordered, whole⟩ := ih (coordinator.replan canonicalSha256 call).1
    constructor
    case once =>
      rw [acceptedEvents_cons]
      split
      · next accepts =>
        refine List.nodup_cons.mpr ⟨fun again => ?_, once⟩
        obtain ⟨event, later, same⟩ := List.mem_map.mp again
        have known := (replan_accepted accepts).2.1 event same
        rw [(acceptedEvents_fresh later).1] at known
        cases known
      · exact once
    case ordered =>
      rw [acceptedEvents_cons]
      split
      · next accepts =>
        refine List.pairwise_cons.mpr ⟨fun event later source => ?_, ordered⟩
        by_contra older
        have stale := (replan_accepted accepts).2.2 event source.symm (not_lt.mp older)
        rw [(acceptedEvents_fresh later).2] at stale
        cases stale
      · exact ordered
    case whole =>
      intro made decision among
      rw [answers, List.mem_cons] at among
      rcases among with now | later
      · obtain ⟨rfl, result⟩ := Prod.mk.inj now
        exact replan_commits result.symm
      · exact whole made decision later

end Runs

section Instances

/-- A report with the replacement of its role given twice. -/
def doubled : ReplanCall ℚ :=
  let call := reports "crate" "lidar" 1 true
  { call with
    replacements := call.replacements ++ call.replacements
    feasibilityCertificateSha256s :=
      call.feasibilityCertificateSha256s ++ call.feasibilityCertificateSha256s }

end Instances

end InFlightReplanCoordinator

end CrazySwarm
