import CrazySwarm.Replanning

/-! What events without authentication do to the decisions about the others. Both tables are
written before the authentication is checked or whatever it says, so that two runs agree on an
authenticated event if and only if the two tables do. -/
namespace CrazySwarm
open PyFloat

variable {F : Type} [PyFloat F]

namespace InFlightReplanCoordinator

section Statement

variable (canonicalSha256 : Canonical F → String)

def observed (result : Except (Fault F) (DynamicFleetReplanDecision F)) :
    Option (DynamicReplanDisposition × Option (FleetReplanDecision F) ×
      Option (FleetReservationEpoch F)) :=
  match result with
  | .ok decision => some (decision.disposition, decision.fleetDecision,
      decision.fleetDecision.bind (·.replacementEpoch))
  | .error _ => none

/-- The decisions returned for the authenticated events of a sequence of calls. -/
def decisions (coordinator : InFlightReplanCoordinator F) : List (ReplanCall F) → List
    (Option (DynamicReplanDisposition × Option (FleetReplanDecision F) ×
      Option (FleetReservationEpoch F)))
  | [] => []
  | call :: rest =>
    let (next, result) := coordinator.replan canonicalSha256 call
    if call.event.authenticated then observed result :: decisions next rest
    else decisions next rest

/-- A call of both sequences, or one that the second sequence has in addition. -/
inductive Entry (F : Type) where
  | common (call : ReplanCall F)
  | additional (call : ReplanCall F) (unauthenticated : call.event.authenticated = false)

def Entry.shared : Entry F → Option (ReplanCall F)
  | .common call => some call
  | .additional .. => none

def Entry.call : Entry F → ReplanCall F
  | .common call | .additional call _ => call

/-- The fields that every decision about the call takes over from it are valid. -/
def recordable (call : ReplanCall F) : Bool :=
  isSha256 call.oldWorldSha256 && isSha256 call.replacementWorldSha256 &&
    decide (1 ≤ call.oldEpoch) && call.feasibilityCertificateSha256s.all isSha256

def timed (case : ReplanningCase F) (call : ReplanCall F) : Bool :=
  (reactionHorizon call case.planningBudgetS case.observationFreshnessLimitS).isOk

def isKnown (coordinator : InFlightReplanCoordinator F) (event : InFlightEnvironmentEvent F) : Bool :=
  (coordinator.decisionByEventId.get? event.eventId).isSome

/-- The event has been decided in both or in neither and, if in neither, it is stale in both or
in neither. -/
def Heard (first second : InFlightReplanCoordinator F) (call : ReplanCall F) : Prop :=
  recordable call = true → second.isKnown call.event = first.isKnown call.event ∧
    (first.isKnown call.event = false → timed first.case call = true →
      second.isStale call.event = first.isStale call.event)

/-- Every authenticated event that both sequences have finds the tables alike. -/
def Undisturbed (first second : InFlightReplanCoordinator F) : List (Entry F) → Prop
  | [] => True
  | .common call :: rest =>
    (call.event.authenticated = true → Heard first second call) ∧
      Undisturbed (first.replan canonicalSha256 call).1 (second.replan canonicalSha256 call).1 rest
  | .additional call _ :: rest =>
    Undisturbed first (second.replan canonicalSha256 call).1 rest

end Statement

variable {canonicalSha256 : Canonical F → String} {case : ReplanningCase F} {call : ReplanCall F}
  {coordinator first second : InFlightReplanCoordinator F}

section Decisions

omit [PyFloat F] in
/-- A decision needs the fields it takes over from the call. -/
theorem recordable_of_new {payload : DynamicFleetReplanPayload F}
    {decision : DynamicFleetReplanDecision F}
    (made : newDynamicFleetReplanDecision canonicalSha256 payload = .ok decision) :
    (isSha256 payload.oldWorldSha256 && isSha256 payload.replacementWorldSha256 &&
      decide (1 ≤ payload.oldEpoch) && payload.feasibilityCertificateSha256s.all isSha256) = true ∧
    decision.toDynamicFleetReplanPayload = payload := by
  obtain ⟨built, checks, passes⟩ := bind_eq_ok.mp made
  obtain ⟨checks, rfl⟩ := validated_eq_ok.mp checks
  obtain ⟨-, rfl⟩ := validated_eq_ok.mp passes
  refine ⟨?_, rfl⟩
  simpa [and_assoc] using checks

omit [PyFloat F] in
/-- A rejection without a fleet decision needs nothing else. -/
theorem observed_rejection {disposition : DynamicReplanDisposition} {reason : String}
    {reaction : ReactionHorizonAudit F} {fallback : SafeFallback}
    (rejects : disposition ≠ .accepted) :
    observed (dynamicRejection canonicalSha256 call disposition reason reaction fallback) =
      if recordable call then some (disposition, none, none) else none := by
  unfold dynamicRejection
  generalize made : newDynamicFleetReplanDecision canonicalSha256 _ = result
  cases result with
  | ok decision =>
    obtain ⟨fields, taken⟩ := recordable_of_new made
    rw [if_pos (show recordable call = true from fields)]
    simp only [observed, taken, Option.bind_none]
  | error fault =>
    split
    · next fields =>
      simp only [recordable, Bool.and_eq_true] at fields
      obtain ⟨⟨⟨old, replacement⟩, epoch⟩, certificates⟩ := fields
      simp [newDynamicFleetReplanDecision, validated, old, replacement, epoch, certificates,
        rejects, bind, Except.bind] at made
    · rfl

theorem decideFresh_spec {reaction : ReactionHorizonAudit F}
    {decision : DynamicFleetReplanDecision F}
    (decided : decideFresh canonicalSha256 case call reaction = .ok decision) :
    recordable call = true ∧ decision.disposition ≠ .duplicateIdempotent ∧
      decision.disposition ≠ .rejectedStale := by
  have named {payload : DynamicFleetReplanPayload F} (made : newDynamicFleetReplanDecision
      canonicalSha256 payload = .ok decision) (same : payload.oldWorldSha256 = call.oldWorldSha256 ∧
        payload.replacementWorldSha256 = call.replacementWorldSha256 ∧
        payload.oldEpoch = call.oldEpoch ∧
        payload.feasibilityCertificateSha256s = call.feasibilityCertificateSha256s)
      (fresh : payload.disposition ≠ .duplicateIdempotent ∧ payload.disposition ≠ .rejectedStale) :
      recordable call = true ∧ decision.disposition ≠ .duplicateIdempotent ∧
        decision.disposition ≠ .rejectedStale := by
    obtain ⟨fields, taken⟩ := recordable_of_new made
    rw [same.1, same.2.1, same.2.2.1, same.2.2.2] at fields
    rw [taken]
    exact ⟨fields, fresh⟩
  unfold decideFresh at decided
  split at decided
  · exact named decided ⟨rfl, rfl, rfl, rfl⟩ ⟨nofun, nofun⟩
  split at decided
  · exact named decided ⟨rfl, rfl, rfl, rfl⟩ ⟨nofun, nofun⟩
  split at decided
  · exact named decided ⟨rfl, rfl, rfl, rfl⟩ ⟨nofun, nofun⟩
  split at decided
  · exact named decided ⟨rfl, rfl, rfl, rfl⟩ ⟨nofun, nofun⟩
  obtain ⟨fleet, -, made⟩ := bind_eq_ok.mp decided
  split at made
  · exact named made ⟨rfl, rfl, rfl, rfl⟩ ⟨nofun, nofun⟩
  · exact named made ⟨rfl, rfl, rfl, rfl⟩ ⟨nofun, nofun⟩

theorem fresh_spec {disposition : DynamicReplanDisposition}
    {learned : Option (FleetReplanDecision F) × Option (FleetReservationEpoch F)}
    (fresh : observed (do decideFresh canonicalSha256 case call (← reactionHorizon call
      case.planningBudgetS case.observationFreshnessLimitS)) = some (disposition, learned)) :
    recordable call = true ∧ timed case call = true ∧
      disposition ≠ .duplicateIdempotent ∧ disposition ≠ .rejectedStale := by
  unfold timed
  cases horizon : reactionHorizon call case.planningBudgetS case.observationFreshnessLimitS with
  | error fault =>
    rw [horizon] at fresh
    cases fresh
  | ok reaction =>
    rw [horizon] at fresh
    cases decided : decideFresh canonicalSha256 case call reaction with
    | error fault => simp [bind, Except.bind, decided, observed] at fresh
    | ok decision =>
      obtain ⟨fields, duplicate, stale⟩ := decideFresh_spec decided
      simp only [bind, Except.bind, decided, observed, Option.some.injEq, Prod.mk.injEq] at fresh
      exact ⟨fields, rfl, fresh.1 ▸ duplicate, fresh.1 ▸ stale⟩

omit [PyFloat F] in
theorem record_result {decision : Except (Fault F) (DynamicFleetReplanDecision F)} :
    (coordinator.record call decision).2 = decision := by
  cases decision <;> rfl

omit [PyFloat F] in
@[simp] theorem record_case {decision : Except (Fault F) (DynamicFleetReplanDecision F)} :
    (coordinator.record call decision).1.case = coordinator.case := by
  cases decision <;> rfl

@[simp] theorem replan_case : (coordinator.replan canonicalSha256 call).1.case = coordinator.case := by
  unfold replan
  dsimp only
  split
  · rfl
  split
  · exact record_case
  split
  · rfl
  · exact record_case

/-- What a caller learns of an event, by what the tables say of it. -/
theorem observed_replan : observed (coordinator.replan canonicalSha256 call).2 =
    if coordinator.isKnown call.event then
      if recordable call then some (.duplicateIdempotent, none, none) else none
    else if coordinator.isStale call.event then
      if timed coordinator.case call && recordable call then some (.rejectedStale, none, none)
      else none
    else observed (do decideFresh canonicalSha256 coordinator.case call (← reactionHorizon call
      coordinator.case.planningBudgetS coordinator.case.observationFreshnessLimitS)) := by
  unfold replan isKnown
  dsimp only
  cases coordinator.decisionByEventId.get? call.event.eventId with
  | some existing => exact observed_rejection nofun
  | none =>
    simp only [Option.isSome_none, Bool.false_eq_true, if_false]
    unfold timed
    cases reactionHorizon call coordinator.case.planningBudgetS
        coordinator.case.observationFreshnessLimitS with
    | error fault => split <;> rfl
    | ok reaction =>
      split
      · rw [record_result]
        exact observed_rejection nofun
      · rw [record_result]
        rfl

/-- Two runs learn the same of an event if and only if their tables say the same of it. -/
theorem observed_eq_iff (same : second.case = first.case) :
    observed (first.replan canonicalSha256 call).2 = observed (second.replan canonicalSha256 call).2 ↔
      Heard first second call := by
  rw [observed_replan, observed_replan, same]
  generalize fresh : observed (do decideFresh canonicalSha256 first.case call (← reactionHorizon call
    first.case.planningBudgetS first.case.observationFreshnessLimitS)) = outcome
  unfold Heard
  rcases outcome with _ | ⟨disposition, fleet⟩
  · cases recordable call <;> cases first.isKnown call.event <;>
      cases second.isKnown call.event <;> cases first.isStale call.event <;>
        cases second.isStale call.event <;> cases timed first.case call <;> simp
  · obtain ⟨fields, onTime, unlike⟩ := fresh_spec fresh
    rw [fields, onTime]
    cases first.isKnown call.event <;> cases second.isKnown call.event <;>
      cases first.isStale call.event <;> cases second.isStale call.event <;>
        simp [unlike.1, unlike.2, unlike.1.symm, unlike.2.symm]

end Decisions

section Runs

variable {history : List (Entry F)}

theorem decisions_of_unauthenticated {rest : List (ReplanCall F)}
    (unauthenticated : call.event.authenticated = false) :
    decisions canonicalSha256 coordinator (call :: rest) =
      decisions canonicalSha256 (coordinator.replan canonicalSha256 call).1 rest := by
  rw [decisions, unauthenticated]
  rfl

theorem decisions_of_authenticated {rest : List (ReplanCall F)}
    (authenticated : call.event.authenticated = true) :
    decisions canonicalSha256 coordinator (call :: rest) =
      observed (coordinator.replan canonicalSha256 call).2 ::
        decisions canonicalSha256 (coordinator.replan canonicalSha256 call).1 rest := by
  rw [decisions, authenticated]
  rfl

/-- From any two states the two sequences decide alike if and only if every authenticated event
that they share finds the tables alike. -/
theorem decisions_eq_iff (same : second.case = first.case) :
    decisions canonicalSha256 first (history.filterMap Entry.shared) =
      decisions canonicalSha256 second (history.map Entry.call) ↔
        Undisturbed canonicalSha256 first second history := by
  induction history generalizing first second with
  | nil => exact iff_of_true rfl trivial
  | cons entry history ih =>
    cases entry with
    | additional call unauthenticated =>
      rw [List.filterMap_cons_none rfl, List.map_cons]
      exact (decisions_of_unauthenticated unauthenticated) ▸ ih (replan_case.trans same)
    | common call =>
      have kept : (second.replan canonicalSha256 call).1.case =
          (first.replan canonicalSha256 call).1.case :=
        replan_case.trans (same.trans replan_case.symm)
      have later := ih kept
      rw [List.filterMap_cons_some (show Entry.shared (.common call) = some call from rfl),
        List.map_cons]
      by_cases authenticated : call.event.authenticated = true
      · rw [decisions_of_authenticated authenticated, Entry.call,
          decisions_of_authenticated authenticated, List.cons.injEq]
        exact and_congr ((observed_eq_iff same).trans (by simp [authenticated])) later
      · have unauthenticated := Bool.eq_false_iff.mpr authenticated
        rw [decisions_of_unauthenticated unauthenticated, Entry.call,
          decisions_of_unauthenticated unauthenticated, Undisturbed]
        simpa [authenticated] using later

end Runs

section Instances

def twoDrones : ReplanningCase ℚ where
  caseSha256 := "0000000000000000000000000000000000000000000000000000000000000000"
  droneCount := 2
  replanningAuthority := .autoWithinFrozenLimits
  planningBudgetS := 1
  observationFreshnessLimitS := 1

def zeroes (_ : Canonical ℚ) : String := twoDrones.caseSha256

def reports (eventId sourceId : String) (sequence : Nat) (authenticated : Bool) : ReplanCall ℚ where
  event := {
    eventId, sourceId, sequence, authenticated
    sourceTimestampS := 0
    receivedSourceS := 0
    effectiveSourceS := 10
    affectedRoleIds := ["lead"]
    regionId := some "crate" }
  decisionTimeSourceS := 0
  queueLatencyS := 0
  planningLatencyS := 1
  acknowledgementLatencyS := 0
  cutoverGuardS := 0
  oldEpochSafeUntilSourceS := 10
  oldEpochStillSafe := true
  oldEpoch := 1
  oldReservationSha256 := twoDrones.caseSha256
  oldWorldSha256 := twoDrones.caseSha256
  replacementWorldSha256 := twoDrones.caseSha256
  replacements := [⟨"lead", twoDrones.caseSha256, twoDrones.caseSha256, twoDrones.caseSha256,
    true, true, true⟩]
  feasibilityCertificateSha256s := [twoDrones.caseSha256]

/-- An event that is not authenticated, in the name of the source of the next one. -/
def forgery : List (Entry ℚ) :=
  [.additional (reports "forged" "lidar" 9 false) rfl, .common (reports "seen" "lidar" 1 true)]

end Instances

end InFlightReplanCoordinator

end CrazySwarm
