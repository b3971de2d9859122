import CrazySwarm.Lib.Runs
import CrazySwarm.SingleReplanning

/-! What a run of single-drone replanning accepts: newer updates of a source only and not more
often than the case admits, each of them once, and with a cutover that everyone has acknowledged
and that the old future is still safe at. -/
namespace CrazySwarm
open PyFloat (lt le gt zero)

variable {F : Type} [PyMath F]

namespace SingleDroneReplanner

section Statement

def isAccepted (result : Except (Fault F) (SingleReplanDecision F)) : Bool :=
  match result with
  | .ok decision => decision.disposition = .accepted
  | .error _ => false

def Newer (case : SingleReplanningCase F) (earlier later : GoalUpdate F) : Prop :=
  earlier.sourceId = later.sourceId →
    earlier.sequence < later.sequence ∧ earlier.goalRevision < later.goalRevision ∧
      le case.minimumGoalUpdateIntervalS
        (PyFloat.sub later.sourceTimestampS earlier.sourceTimestampS) = true

/-- The same replacement authority once more. -/
structure Repeats (decision duplicate : SingleReplanDecision F) : Prop where
  disposition : duplicate.disposition = .duplicateIdempotent
  plan : duplicate.replacementPlanSha256 = decision.replacementPlanSha256
  trajectory : duplicate.replacementTrajectory = decision.replacementTrajectory
  reservation : duplicate.replacementReservationSha256 = decision.replacementReservationSha256
  cutover : duplicate.sourceClockCutoverS = decision.sourceClockCutoverS

/-- All acknowledgements, and a cutover that is not later than the old future is safe. -/
def Authorized (call : SingleReplanCall F) (decision : SingleReplanDecision F) : Prop :=
  decision.acknowledgements = some call.acknowledgements ∧ call.acknowledgements.complete = true ∧
    ∃ cutoverS, decision.sourceClockCutoverS = some cutoverS ∧
      ∀ safeUntilS, call.oldFutureSafeUntilS = some safeUntilS → le cutoverS safeUntilS = true

variable [PyRound F] (canonicalSha256 : SingleCanonical F → String)

/-- The calls with what each of them returns or raises. -/
def answers (replanner : SingleDroneReplanner F) : List (SingleReplanCall F) →
    List (SingleReplanCall F × Except (Fault F) (SingleReplanDecision F))
  | [] => []
  | call :: rest =>
    (call, (replanner.replan canonicalSha256 call).2) ::
      answers (replanner.replan canonicalSha256 call).1 rest

def acceptedUpdates (replanner : SingleDroneReplanner F) (calls : List (SingleReplanCall F)) :
    List (GoalUpdate F) :=
  ((answers canonicalSha256 replanner calls).filter fun (_, result) => isAccepted result).map
    fun (call, _) => call.update

structure Orderly (replanner : SingleDroneReplanner F) (calls : List (SingleReplanCall F)) :
    Prop where
  ordered : (acceptedUpdates canonicalSha256 replanner calls).Pairwise (Newer replanner.case)
  idempotent : (answers canonicalSha256 replanner calls).Pairwise fun earlier later =>
    ∀ decision, earlier.2 = .ok decision → decision.disposition = .accepted →
      later.1.update.updateId = earlier.1.update.updateId →
        ∃ duplicate, later.2 = .ok duplicate ∧ Repeats decision duplicate
  unchanged : Runs.Along (fun replanner call => (replanner.replan canonicalSha256 call).1)
    (fun replanner call => isAccepted (replanner.replan canonicalSha256 call).2 = false →
      (replanner.replan canonicalSha256 call).1 = replanner) replanner calls
  authorized : ∀ call decision, (call, .ok decision) ∈ answers canonicalSha256 replanner calls →
    decision.disposition = .accepted → Authorized call decision

end Statement

variable {canonicalSha256 : SingleCanonical F → String} {replanner : SingleDroneReplanner F}
  {call : SingleReplanCall F} {calls : List (SingleReplanCall F)}
  {decision existing : SingleReplanDecision F} {payload : SingleReplanPayload F}

section Decisions

theorem newSingleReplanDecision_payload
    (made : newSingleReplanDecision canonicalSha256 payload = .ok decision) :
    decision.toSingleReplanPayload = payload := by
  unfold newSingleReplanDecision at made
  split at made
  · cases made
    rfl
  · cases made

theorem exists_newSingleReplanDecision (valid : payload.validate = .ok ()) :
    ∃ decision, newSingleReplanDecision canonicalSha256 payload = .ok decision ∧
      decision.toSingleReplanPayload = payload := by
  unfold newSingleReplanDecision
  split
  · exact ⟨_, rfl, rfl⟩
  · next fault failed =>
    rw [valid] at failed
    cases failed

theorem duplicateDecision_repeats (canonicalSha256 : SingleCanonical F → String)
    (existing : SingleReplanDecision F) :
    ∃ duplicate, duplicateDecision canonicalSha256 existing = .ok duplicate ∧
      Repeats existing duplicate := by
  have valid := existing.valid
  obtain ⟨_, fields, -⟩ := bind_eq_ok.mp valid
  have again : SingleReplanPayload.validate { existing.toSingleReplanPayload with
      disposition := .duplicateIdempotent
      reason := "duplicate update ID returned the existing replacement authority" } = .ok () := by
    apply bind_eq_ok.mpr
    exact ⟨_, fields, rfl⟩
  obtain ⟨duplicate, made, same⟩ := exists_newSingleReplanDecision again
  refine ⟨duplicate, made, ?_⟩
  constructor <;> rw [same]

theorem singleRejection_not_accepted {disposition : GoalUpdateDisposition} {reason : String}
    {fallback : SafeFallback} (rejects : disposition ≠ .accepted) :
    isAccepted (singleRejection canonicalSha256 replanner.case call disposition reason fallback) =
      false := by
  cases made : singleRejection canonicalSha256 replanner.case call disposition reason fallback with
  | error fault => rfl
  | ok decision =>
    have same := newSingleReplanDecision_payload made
    have kept : decision.disposition = disposition := by rw [same]
    simpa [isAccepted, kept] using rejects

theorem guards_reject : ∀ guard ∈ replanner.guards call, guard.2.1 ≠ .accepted := by
  simp [guards]

/-- No guard holds back the call. -/
structure Admitted (replanner : SingleDroneReplanner F) (call : SingleReplanCall F) : Prop where
  current : replanner.isStale call.update = false
  spaced : replanner.exceedsRate call.update = false
  safe : call.oldFutureSafeUntilS.any (lt · (cutoverS call)) = false
  acknowledged : call.acknowledgements.complete = true

theorem admitted_of_guards (passed : (replanner.guards call).find? (·.1) = none) :
    Admitted replanner call := by
  have closed := List.find?_eq_none.mp passed
  simp only [guards, List.mem_cons, List.not_mem_nil, or_false, forall_eq_or_imp, forall_eq,
    Bool.not_eq_true] at closed
  obtain ⟨current, spaced, -, -, -, -, safe, acknowledged⟩ := closed
  exact ⟨current, spaced, safe, by simpa using acknowledged⟩

variable [PyRound F]

theorem replan_cases (canonicalSha256 : SingleCanonical F → String)
    (replanner : SingleDroneReplanner F) (call : SingleReplanCall F) :
    (∃ existing, replanner.acceptedUpdateIds.get? call.update.updateId = some existing ∧
        replanner.replan canonicalSha256 call =
          (replanner, duplicateDecision canonicalSha256 existing)) ∨
      ((replanner.replan canonicalSha256 call).1 = replanner ∧
        isAccepted (replanner.replan canonicalSha256 call).2 = false) ∨
      (∃ trajectory decision,
        replanner.acceptedUpdateIds.get? call.update.updateId = none ∧ Admitted replanner call ∧
        replacementTrajectory canonicalSha256 replanner.case call.observation call.update =
          .ok trajectory ∧
        acceptance canonicalSha256 replanner call trajectory = .ok decision ∧
        replanner.replan canonicalSha256 call =
          (replanner.record call.update decision, .ok decision)) := by
  cases found : replanner.acceptedUpdateIds.get? call.update.updateId with
  | some existing => exact .inl ⟨existing, rfl, by simp only [replan, found]⟩
  | none =>
    refine .inr ?_
    cases guarded : (replanner.guards call).find? (·.1) with
    | some guard =>
      have rejects := guards_reject guard (List.mem_of_find?_eq_some guarded)
      simp only [replan, found, guarded, true_and]
      exact .inl (singleRejection_not_accepted rejects)
    | none =>
      cases made : replacementTrajectory canonicalSha256 replanner.case call.observation
          call.update with
      | error fault =>
        simp only [replan, found, guarded, made, true_and]
        exact .inl rfl
      | ok trajectory =>
        by_cases passed : (auditTrajectory replanner.case.dynamics trajectory.trajectory
            (PyFloat.ofRat 0.01)).passed
        · cases built : acceptance canonicalSha256 replanner call trajectory with
          | error fault =>
            simp only [replan, found, guarded, made, passed, built, Bool.not_true,
              Bool.false_eq_true, if_false, true_and]
            exact .inl rfl
          | ok decision =>
            refine .inr ⟨trajectory, decision, rfl, admitted_of_guards guarded, rfl, built, ?_⟩
            simp only [replan, found, guarded, made, passed, built, Bool.not_true,
              Bool.false_eq_true, if_false]
        · simp only [replan, found, guarded, made, passed, Bool.not_false, if_true, true_and]
          exact .inl (singleRejection_not_accepted nofun)

end Decisions

section Steps

theorem duplicateDecision_not_accepted (existing : SingleReplanDecision F) :
    isAccepted (duplicateDecision canonicalSha256 existing) = false := by
  obtain ⟨duplicate, made, repeats⟩ :=
    duplicateDecision_repeats canonicalSha256 existing
  simp [made, isAccepted, repeats.disposition]

variable [PyRound F]

theorem replan_unchanged
    (refused : isAccepted (replanner.replan canonicalSha256 call).2 = false) :
    (replanner.replan canonicalSha256 call).1 = replanner := by
  rcases replan_cases canonicalSha256 replanner call with
    ⟨existing, -, same⟩ | ⟨same, -⟩ | ⟨trajectory, decision, -, -, -, made, same⟩
  · rw [same]
  · exact same
  · have accepted : decision.disposition = .accepted := by
      rw [newSingleReplanDecision_payload made]
    simp [same, isAccepted, accepted] at refused

theorem replan_accepted
    (accepted : isAccepted (replanner.replan canonicalSha256 call).2 = true) :
    ∃ decision, replanner.replan canonicalSha256 call =
        (replanner.record call.update decision, .ok decision) ∧
      replanner.acceptedUpdateIds.get? call.update.updateId = none ∧ Admitted replanner call ∧
      decision.acknowledgements = some call.acknowledgements ∧
      decision.sourceClockCutoverS = some (cutoverS call) ∧
      ∃ trajectory, decision.replacementTrajectory = some trajectory ∧
        replacementTrajectory canonicalSha256 replanner.case call.observation call.update =
          .ok trajectory := by
  rcases replan_cases canonicalSha256 replanner call with
    ⟨existing, -, same⟩ | ⟨-, refused⟩ |
      ⟨trajectory, decision, new, admitted, replacement, made, same⟩
  · rw [same, duplicateDecision_not_accepted] at accepted
    cases accepted
  · rw [refused] at accepted
    cases accepted
  · have payload := newSingleReplanDecision_payload made
    exact ⟨decision, same, new, admitted, by rw [payload], by rw [payload], trajectory,
      by rw [payload], replacement⟩

theorem replan_case (canonicalSha256 : SingleCanonical F → String)
    (replanner : SingleDroneReplanner F) (call : SingleReplanCall F) :
    (replanner.replan canonicalSha256 call).1.case = replanner.case := by
  cases accepted : isAccepted (replanner.replan canonicalSha256 call).2 with
  | false => rw [replan_unchanged accepted]
  | true =>
    obtain ⟨decision, same, -⟩ := replan_accepted accepted
    rw [same]
    rfl

theorem replan_keeps {updateId : String}
    (known : replanner.acceptedUpdateIds.get? updateId = some existing) :
    (replanner.replan canonicalSha256 call).1.acceptedUpdateIds.get? updateId = some existing := by
  cases accepted : isAccepted (replanner.replan canonicalSha256 call).2 with
  | false => rwa [replan_unchanged accepted]
  | true =>
    obtain ⟨decision, same, new, -⟩ := replan_accepted accepted
    have other : call.update.updateId ≠ updateId := by
      rintro rfl
      rw [new] at known
      cases known
    rw [same]
    exact (Dict.get?_insert_of_ne _ decision other).trans known

theorem replan_known
    (known : replanner.acceptedUpdateIds.get? call.update.updateId = some existing) :
    ∃ duplicate, (replanner.replan canonicalSha256 call).2 = .ok duplicate ∧
      Repeats existing duplicate := by
  have same : replanner.replan canonicalSha256 call =
      (replanner, duplicateDecision canonicalSha256 existing) := by
    simp only [replan, known]
  rw [same]
  exact duplicateDecision_repeats canonicalSha256 existing

/-- The tables matter to the guards alone. -/
theorem replan_elsewhere {other : SingleDroneReplanner F}
    (accepted : isAccepted (replanner.replan canonicalSha256 call).2 = true)
    (case : other.case = replanner.case) (role : other.roleId = replanner.roleId)
    (new : other.acceptedUpdateIds.get? call.update.updateId = none)
    (current : other.isStale call.update = false) (spaced : other.exceedsRate call.update = false) :
    isAccepted (other.replan canonicalSha256 call).2 = true := by
  obtain ⟨_, -, known, admitted, -⟩ := replan_accepted accepted
  have same : (other.replan canonicalSha256 call).2 = (replanner.replan canonicalSha256 call).2 := by
    simp only [replan, new, known, guards, current, spaced, admitted.current, admitted.spaced,
      acceptance, role, case]
    repeat' first | rfl | split
  rwa [same]

end Steps

section Order

variable {F : Type} [Field F] [LinearOrder F] [IsStrictOrderedRing F] [PyMath F] [Exact F]
  {canonicalSha256 : SingleCanonical F → String} {replanner : SingleDroneReplanner F}
  {call : SingleReplanCall F} {update later : GoalUpdate F} {decision : SingleReplanDecision F}

/-- The update is neither stale nor too early. -/
def Follows (replanner : SingleDroneReplanner F) (update : GoalUpdate F) : Prop :=
  replanner.isStale update = false ∧ replanner.exceedsRate update = false

omit [Field F] [LinearOrder F] [IsStrictOrderedRing F] [Exact F] in
theorem isStale_eq_false : replanner.isStale update = false ↔
    (replanner.latestSequence.get? update.sourceId).getD 0 < update.sequence ∧
      (replanner.latestRevision.get? update.sourceId).getD 0 < update.goalRevision := by
  simp [isStale]

theorem exceedsRate_eq_false : replanner.exceedsRate update = false ↔
    ∀ latest, replanner.latestAcceptedTimestamp.get? update.sourceId = some latest →
      replanner.case.minimumGoalUpdateIntervalS ≤ update.sourceTimestampS - latest := by
  cases found : replanner.latestAcceptedTimestamp.get? update.sourceId with
  | none => simp [exceedsRate, found]
  | some latest => simp [exceedsRate, found]

theorem newer_of_follows (follows : Follows (replanner.record update decision) later) :
    Newer replanner.case update later := by
  intro sameSource
  obtain ⟨current, spaced⟩ := follows
  rw [isStale_eq_false] at current
  rw [exceedsRate_eq_false] at spaced
  simp only [record, ← sameSource, Dict.get?_insert_self, Option.getD_some] at current
  have spaced := spaced update.sourceTimestampS (by simp [record, sameSource])
  refine ⟨current.1, current.2, ?_⟩
  rw [Exact.le_eq, Exact.sub_eq, decide_eq_true_eq]
  exact spaced

theorem follows_of_record (admitted : Follows replanner update)
    (follows : Follows (replanner.record update decision) later) : Follows replanner later := by
  by_cases sameSource : update.sourceId = later.sourceId
  · obtain ⟨newerSequence, newerRevision, apart⟩ := newer_of_follows follows sameSource
    obtain ⟨current, spaced⟩ := admitted
    rw [isStale_eq_false, sameSource] at current
    rw [exceedsRate_eq_false, sameSource] at spaced
    have positive := replanner.case.intervalPositive
    rw [PyFloat.gt, Exact.le_eq, Exact.zero_eq, Bool.not_eq_true', decide_eq_false_iff_not,
      not_le] at positive
    rw [Exact.le_eq, Exact.sub_eq, decide_eq_true_eq] at apart
    refine ⟨isStale_eq_false.mpr ⟨current.1.trans newerSequence, current.2.trans newerRevision⟩, ?_⟩
    rw [exceedsRate_eq_false]
    intro latest found
    have before := spaced latest found
    linarith
  · obtain ⟨current, spaced⟩ := follows
    rw [isStale_eq_false] at current
    rw [exceedsRate_eq_false] at spaced
    simp only [record, Dict.get?_insert_of_ne _ _ sameSource] at current spaced
    exact ⟨isStale_eq_false.mpr current, exceedsRate_eq_false.mpr spaced⟩

variable [PyRound F]

theorem replan_follows
    (follows : Follows (replanner.replan canonicalSha256 call).1 later) : Follows replanner later := by
  cases accepted : isAccepted (replanner.replan canonicalSha256 call).2 with
  | false => rwa [replan_unchanged accepted] at follows
  | true =>
    obtain ⟨decision, same, -, admitted, -⟩ := replan_accepted accepted
    rw [same] at follows
    exact follows_of_record ⟨admitted.current, admitted.spaced⟩ follows

theorem replan_authorized
    (returned : (replanner.replan canonicalSha256 call).2 = .ok decision)
    (accepted : decision.disposition = .accepted) : Authorized call decision := by
  have recorded : isAccepted (replanner.replan canonicalSha256 call).2 = true := by
    rw [returned]
    simpa [isAccepted] using accepted
  obtain ⟨made, same, -, admitted, acknowledgements, cutover, -⟩ := replan_accepted recorded
  rw [same] at returned
  cases returned
  refine ⟨acknowledgements, admitted.acknowledged, cutoverS call, cutover, ?_⟩
  intro safeUntilS given
  have safe := admitted.safe
  rw [given, Option.any_some, Exact.lt_eq, decide_eq_false_iff_not, not_lt] at safe
  rwa [Exact.le_eq, decide_eq_true_eq]

end Order

section Runs

variable {F : Type} [Field F] [LinearOrder F] [IsStrictOrderedRing F] [PyMath F] [Exact F]
  [PyRound F] {canonicalSha256 : SingleCanonical F → String} {replanner : SingleDroneReplanner F}
  {call : SingleReplanCall F} {calls : List (SingleReplanCall F)}
  {existing : SingleReplanDecision F}

omit [Field F] [LinearOrder F] [IsStrictOrderedRing F] [Exact F] in
theorem acceptedUpdates_cons : acceptedUpdates canonicalSha256 replanner (call :: calls) =
    (if isAccepted (replanner.replan canonicalSha256 call).2 then [call.update] else []) ++
      acceptedUpdates canonicalSha256 (replanner.replan canonicalSha256 call).1 calls := by
  by_cases accepted : isAccepted (replanner.replan canonicalSha256 call).2 = true
  · simp [acceptedUpdates, answers, accepted]
  · simp [acceptedUpdates, answers, accepted]

/-- Every update that a run accepts follows what the tables held before the run. -/
theorem acceptedUpdates_follow :
    ∀ update ∈ acceptedUpdates canonicalSha256 replanner calls, Follows replanner update := by
  induction calls generalizing replanner with
  | nil => simp [acceptedUpdates, answers]
  | cons call rest ih =>
    intro update among
    rw [acceptedUpdates_cons, List.mem_append] at among
    rcases among with now | later
    · split at now
      · next accepted =>
        obtain rfl := List.mem_singleton.mp now
        obtain ⟨-, -, -, admitted, -⟩ := replan_accepted accepted
        exact ⟨admitted.current, admitted.spaced⟩
      · cases now
    · exact replan_follows (ih update later)

theorem acceptedUpdates_newer :
    (acceptedUpdates canonicalSha256 replanner calls).Pairwise (Newer replanner.case) := by
  induction calls generalizing replanner with
  | nil => exact List.Pairwise.nil
  | cons call rest ih =>
    have later : (acceptedUpdates canonicalSha256 (replanner.replan canonicalSha256 call).1
        rest).Pairwise (Newer replanner.case) := by
      rw [← replan_case canonicalSha256 replanner call]
      exact ih
    rw [acceptedUpdates_cons]
    split
    · next accepted =>
      obtain ⟨decision, same, -⟩ := replan_accepted accepted
      refine List.pairwise_cons.mpr ⟨fun update among => ?_, later⟩
      have follows := acceptedUpdates_follow update among
      rw [same] at follows
      exact newer_of_follows follows
    · exact later

omit [Field F] [LinearOrder F] [IsStrictOrderedRing F] [Exact F] in
theorem answers_repeat {updateId : String}
    (known : replanner.acceptedUpdateIds.get? updateId = some existing) :
    ∀ answer ∈ answers canonicalSha256 replanner calls, answer.1.update.updateId = updateId →
      ∃ duplicate, answer.2 = .ok duplicate ∧ Repeats existing duplicate := by
  induction calls generalizing replanner with
  | nil => simp [answers]
  | cons call rest ih =>
    intro answer among again
    rcases List.mem_cons.mp among with rfl | later
    · subst again
      exact replan_known known
    · exact ih (replan_keeps known) answer later again

omit [Field F] [LinearOrder F] [IsStrictOrderedRing F] [Exact F] in
theorem answers_idempotent :
    (answers canonicalSha256 replanner calls).Pairwise fun earlier later =>
      ∀ decision, earlier.2 = .ok decision → decision.disposition = .accepted →
        later.1.update.updateId = earlier.1.update.updateId →
          ∃ duplicate, later.2 = .ok duplicate ∧ Repeats decision duplicate := by
  induction calls generalizing replanner with
  | nil => exact List.Pairwise.nil
  | cons call rest ih =>
    refine List.pairwise_cons.mpr ⟨?_, ih⟩
    intro answer among decision returned accepted again
    change (replanner.replan canonicalSha256 call).2 = .ok decision at returned
    have recorded : isAccepted (replanner.replan canonicalSha256 call).2 = true := by
      rw [returned]
      simpa [isAccepted] using accepted
    obtain ⟨made, same, -⟩ := replan_accepted recorded
    rw [same] at returned
    cases returned
    refine answers_repeat ?_ answer among again
    rw [same]
    exact Dict.get?_insert_self _ _ _

theorem answers_authorized {decision : SingleReplanDecision F}
    (among : (call, .ok decision) ∈ answers canonicalSha256 replanner calls)
    (accepted : decision.disposition = .accepted) : Authorized call decision := by
  induction calls generalizing replanner with
  | nil => cases among
  | cons next rest ih =>
    rcases List.mem_cons.mp among with now | later
    · obtain ⟨rfl, returned⟩ := Prod.mk.inj now
      exact replan_authorized returned.symm accepted
    · exact ih later

/-- Every run of a replanner accepts the updates of a source in order, spaced and authorized, repeats
what it has accepted, and is not changed by what it refuses. -/
theorem replanning_orderly (canonicalSha256 : SingleCanonical F → String)
    (replanner : SingleDroneReplanner F) (calls : List (SingleReplanCall F)) :
    Orderly canonicalSha256 replanner calls where
  ordered := acceptedUpdates_newer
  idempotent := answers_idempotent
  unchanged := Runs.along (I := fun _ => True) (fun _ _ _ => trivial)
    (fun _ _ _ refused => replan_unchanged refused) trivial
  authorized := fun _ _ among accepted => answers_authorized among accepted

end Runs

section Instances

def demoCase : SingleReplanningCase ℚ where
  caseSha256 := "case"
  roleIds := ["alpha"]
  replanningAuthority := .autoWithinFrozenLimits
  flightVolume := ⟨"volume", ⟨-1, -1, 0⟩, ⟨1, 1, 1⟩⟩
  keepOutRegions := []
  dynamics := ⟨3 / 5, 2 / 5, 1, 8⟩
  observationFreshnessLimitS := 1 / 4
  minimumGoalUpdateIntervalS := 1 / 2
  planningBudgetS := 2
  speedPositive := by decide +kernel
  intervalPositive := by decide +kernel

/-- The drone hovers and is told to go on doing so. -/
def demoCall (updateId : String) (revision : Nat) (timestampS : ℚ) : SingleReplanCall ℚ where
  update :=
    { sourceId := "operator"
      sequence := revision
      updateId
      sourceTimestampS := timestampS
      requestedEffectiveTimeS := timestampS
      goalRevision := revision
      goalRegion := ⟨"pad", ⟨0, 0, 0⟩, ⟨0, 0, 1⟩⟩ }
  observation := ⟨"seen", "alpha", timestampS, timestampS, ⟨0, 0, 1 / 2⟩, .zero, .zero, "observed"⟩
  decisionTimeSourceS := timestampS
  oldPlanSha256 := String.ofList (List.replicate 64 'a')
  oldTrajectorySha256 := String.ofList (List.replicate 64 'b')
  oldReservationSha256 := String.ofList (List.replicate 64 'c')
  acknowledgements := ⟨true, true, true, true⟩
  planningElapsedS := 0

abbrev hash : SingleCanonical ℚ → String := fun _ => "hash"

abbrev resting : SingleDroneReplanner ℚ := { case := demoCase, roleId := "alpha" }

theorem first_accepted : isAccepted (resting.replan hash (demoCall "first" 1 1)).2 = true := by
  decide +kernel

theorem second_accepted : isAccepted (resting.replan hash (demoCall "second" 3 2)).2 = true := by
  decide +kernel

/-- Two updates that are accepted, one that comes too early, and a repeated one. -/
theorem replanning_orderly_hover :
    Orderly (fun _ => "hash") { case := demoCase, roleId := "alpha" }
        [demoCall "first" 1 1, demoCall "early" 2 (5 / 4), demoCall "second" 3 2,
          demoCall "first" 4 3] ∧
      (acceptedUpdates (fun _ => "hash") { case := demoCase, roleId := "alpha" }
        [demoCall "first" 1 1, demoCall "early" 2 (5 / 4), demoCall "second" 3 2,
          demoCall "first" 4 3]).map GoalUpdate.updateId = ["first", "second"] := by
  refine ⟨replanning_orderly _ _ _, ?_⟩
  obtain ⟨first, recorded, -⟩ := replan_accepted first_accepted
  let started := resting.record (demoCall "first" 1 1).update first
  have early : isAccepted (started.replan hash (demoCall "early" 2 (5 / 4))).2 = false := by
    by_contra accepted
    obtain ⟨_, -, -, admitted, -⟩ := replan_accepted (eq_true_of_ne_false accepted)
    have spaced : lt ((5 / 4 : ℚ) - 1) (1 / 2) = false := admitted.spaced
    revert spaced
    decide +kernel
  have later : isAccepted (started.replan hash (demoCall "second" 3 2)).2 = true := by
    refine replan_elsewhere second_accepted rfl rfl rfl rfl ?_
    change lt ((2 : ℚ) - 1) (1 / 2) = false
    decide +kernel
  obtain ⟨second, resumed, -⟩ := replan_accepted later
  have known : (started.record (demoCall "second" 3 2).update second).acceptedUpdateIds.get?
      (demoCall "first" 4 3).update.updateId = some first := rfl
  rw [acceptedUpdates_cons, if_pos first_accepted, recorded, acceptedUpdates_cons,
    if_neg (by simp [early, started]), replan_unchanged early, acceptedUpdates_cons, if_pos later,
    resumed, acceptedUpdates_cons, if_neg (by simp [replan, known, duplicateDecision_not_accepted])]
  rfl

end Instances

end SingleDroneReplanner

end CrazySwarm
