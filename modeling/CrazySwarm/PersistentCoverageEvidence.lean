import CrazySwarm.PersistentCoverageSteps

/-! Handover evidence over a run. The log of begun handovers is kept beside the state, as a
caller would keep it: each entry is the record last returned for that handover. A handover is
filed under its task and lease generation, so a retry at the same generation replaces the
record of the attempt that degraded. -/
namespace CrazySwarm.PersistentCoverage
open PyFloat

variable {F : Type} [PyFloat F]

/-- Replace the latest entry that has the record's identity. -/
def amend (record : HandoverRecord F) : List (HandoverRecord F) → List (HandoverRecord F)
  | [] => []
  | entry :: rest =>
    if entry.handoverId = record.handoverId then record :: rest else entry :: amend record rest

def Op.begins : Op F → Bool
  | .beginHandover _ _ _ _ => true
  | _ => false

def logReply (begins : Bool) (reply : Except (Fault F) (Option (HandoverRecord F)))
    (log : List (HandoverRecord F)) : List (HandoverRecord F) :=
  match reply with
  | .ok (some record) => if begins then record :: log else amend record log
  | _ => log

def begun (coverage : PersistentCoverage F) (log : List (HandoverRecord F)) :
    List (Call F) → List (HandoverRecord F)
  | [] => log
  | call :: rest =>
    begun (step coverage call) (logReply call.op.begins (coverage.perform call).2 log) rest

def Represented (coverage : PersistentCoverage F) (entry : HandoverRecord F) : Prop :=
  ∃ record ∈ coverage.result.handovers, record.outgoingVehicleId = entry.outgoingVehicleId ∧
    record.requestedAtMonotonicS = entry.requestedAtMonotonicS ∧ record.phase = entry.phase

structure Logged (handovers : Dict String (HandoverRecord F)) (log : List (HandoverRecord F)) :
    Prop where
  stored : ∀ entry ∈ log, handovers.get? entry.handoverId = some entry
  distinct : (log.map HandoverRecord.handoverId).Nodup
  named : ∀ key record, handovers.get? key = some record → record.handoverId = key

section Log
variable {record updated : HandoverRecord F} {handovers : Dict String (HandoverRecord F)}
  {log : List (HandoverRecord F)} {key : String}

omit [PyFloat F] in
@[simp] theorem logReply_none (begins : Bool) (reply : Except (Fault F) α)
    (log : List (HandoverRecord F)) : logReply begins (reply.map fun _ => none) log = log := by
  cases reply <;> rfl

omit [PyFloat F] in
theorem amend_ids (record : HandoverRecord F) (log : List (HandoverRecord F)) :
    (amend record log).map HandoverRecord.handoverId = log.map HandoverRecord.handoverId := by
  induction log with
  | nil => rfl
  | cons entry rest ih =>
    by_cases same : entry.handoverId = record.handoverId
    · simp [amend, same]
    · simp [amend, same, ih]

omit [PyFloat F] in
theorem mem_amend (distinct : (log.map HandoverRecord.handoverId).Nodup) {entry : HandoverRecord F}
    (member : entry ∈ amend record log) :
    entry = record ∨ (entry ∈ log ∧ entry.handoverId ≠ record.handoverId) := by
  induction log with
  | nil => simp [amend] at member
  | cons head rest ih =>
    simp only [List.map_cons, List.nodup_cons] at distinct
    by_cases same : head.handoverId = record.handoverId
    · simp only [amend, same, if_true] at member
      rcases List.mem_cons.mp member with here | later
      · exact .inl here
      · refine .inr ⟨List.mem_cons_of_mem _ later, fun again => distinct.1 ?_⟩
        rw [same, ← again]
        exact List.mem_map_of_mem later
    · simp only [amend, same, if_false] at member
      rcases List.mem_cons.mp member with rfl | later
      · exact .inr ⟨List.mem_cons_self, same⟩
      · exact (ih distinct.2 later).imp id fun ⟨among, apart⟩ => ⟨List.mem_cons_of_mem _ among, apart⟩

omit [PyFloat F] in
theorem named_insert (logged : Logged handovers log) (named : updated.handoverId = key)
    {other : String} {found : HandoverRecord F}
    (lookup : (handovers.insert key updated).get? other = some found) : found.handoverId = other := by
  rw [Dict.get?_insert] at lookup
  split at lookup
  · next same => cases lookup; exact named.trans same
  · exact logged.named other found lookup

omit [PyFloat F] in
/-- A later phase amends its own entry and no other. -/
theorem Logged.filed (logged : Logged handovers log) (found : handovers.get? key = some record)
    (same : SameHandover record updated) :
    Logged (handovers.insert key updated) (amend updated log) := by
  have named : updated.handoverId = key := same.handoverId.trans (logged.named key record found)
  refine ⟨fun entry member => ?_, ?_, fun other found => named_insert logged named⟩
  · rcases mem_amend logged.distinct member with rfl | ⟨among, apart⟩
    · simp [named]
    · rw [Dict.get?_insert_of_ne _ _ (named ▸ Ne.symm apart)]
      exact logged.stored entry among
  · rw [amend_ids]
    exact logged.distinct

omit [PyFloat F] in
/-- A handover begun under an unused identity leaves every other entry stored. -/
theorem Logged.begun (logged : Logged handovers log) (unused : handovers.get? key = none)
    (named : record.handoverId = key) : Logged (handovers.insert key record) (record :: log) := by
  have apart : ∀ entry ∈ log, key ≠ entry.handoverId := fun entry among same => by
    rw [same, logged.stored entry among] at unused
    cases unused
  refine ⟨fun entry member => ?_, ?_, fun other found => named_insert logged named⟩
  · rcases List.mem_cons.mp member with rfl | among
    · simp [named]
    · rw [Dict.get?_insert_of_ne _ _ (apart entry among)]
      exact logged.stored entry among
  · refine List.nodup_cons.mpr ⟨fun again => ?_, logged.distinct⟩
    obtain ⟨entry, among, same⟩ := List.mem_map.mp again
    exact apart entry among (named.symm.trans same.symm)

end Log

/-- An accepted `begin_handover` whose identity a stored handover already has. -/
def overwrites (coverage : PersistentCoverage F) (call : Call F) : Bool :=
  match call.op with
  | .beginHandover taskId reason candidates nowS =>
    coverage.accepts taskId reason candidates (now nowS (call.clock.read 0)) &&
      okWith (coverage.beginGuard taskId) fun (task, _) =>
        (coverage.handovers.get? (handoverId taskId (task.leaseGeneration + 1))).isSome
  | _ => false

section Steps
variable {coverage : PersistentCoverage F} {log : List (HandoverRecord F)} {key : String}
  {result : PersistentCoverage F × Except (Fault F) (HandoverRecord F)}

theorem allocateEach_handovers (available : Dict String (CoverageCandidate F)) (allow : Bool)
    (preferred : Option (Dict String String)) (nowS : Option F)
    (definitions : List (DeploymentTaskDefinition F)) (clock : Nat → F) (claimed : List String)
    (decisions : List (AllocationDecision F)) (coverage : PersistentCoverage F) :
    (allocateEach available allow preferred nowS clock definitions claimed decisions
      coverage).1.handovers = coverage.handovers := by
  induction definitions generalizing clock claimed decisions coverage with
  | nil => rfl
  | cons definition rest ih =>
    rcases allocateEach_cons available allow preferred nowS clock definition rest claimed decisions
      coverage with same | ⟨vehicleId, task, stored, _, _, _, _, _, _, same | ⟨decision, same⟩⟩
    · rw [same]
    · rw [same]
    · rw [same, ih]

omit [PyFloat F] in
theorem Advances.logged (advances : Advances coverage key result)
    (logged : Logged coverage.handovers log) :
    Logged result.1.handovers (logReply false (result.2.map some) log) := by
  cases advances with
  | rejected quiet => exact quiet.handovers ▸ logged
  | filed found successor filed =>
    rw [filed.handovers]
    exact logged.filed found successor.toSameHandover

theorem Takes.logged {candidates : List (CoverageCandidate F)} {timestamp : F}
    (takes : Takes coverage key candidates timestamp result)
    (logged : Logged coverage.handovers log) :
    Logged result.1.handovers (logReply false (result.2.map some) log) := by
  cases takes with
  | rejected _ quiet => exact quiet.handovers ▸ logged
  | torn _ _ _ _ _ handovers => exact handovers ▸ logged
  | confirmed _ found _ _ same _ _ _ handovers =>
    rw [handovers]
    exact logged.filed found same

theorem Begins.logged {taskId reason : String} {candidates : List (CoverageCandidate F)}
    {timestamp : F} (begins : Begins coverage taskId reason candidates timestamp result)
    (logged : Logged coverage.handovers log)
    (unused : ∀ task owner, coverage.accepts taskId reason candidates timestamp = true →
      coverage.beginGuard taskId = .ok (task, owner) →
      coverage.handovers.get? (handoverId taskId (task.leaseGeneration + 1)) = none) :
    Logged result.1.handovers (logReply true (result.2.map some) log) := by
  cases begins with
  | rejected _ quiet => exact quiet.handovers ▸ logged
  | @filed next task owner record accepted guarded begun filed =>
    rw [filed.handovers]
    exact logged.begun (unused task owner accepted guarded) begun.handoverId

theorem step_logged (logged : Logged coverage.handovers log) (call : Call F)
    (fresh : overwrites coverage call = false) :
    Logged (step coverage call).handovers
      (logReply call.op.begins (coverage.perform call).2 log) := by
  obtain ⟨op, clock⟩ := call
  cases op with
  | allocateInitial candidates allow preferred nowS =>
    have kept : (step coverage ⟨.allocateInitial candidates allow preferred nowS, clock⟩).handovers =
        coverage.handovers := by
      change (coverage.allocateInitial candidates allow preferred nowS clock.read).1.handovers = _
      rw [allocateInitial_state, allocateEach_handovers]
    rw [kept]
    exact (logReply_none false _ log).symm ▸ logged
  | beginHandover taskId reason candidates nowS =>
    refine (beginHandover_begins coverage taskId reason candidates nowS clock.read).logged logged ?_
    intro task owner accepted guarded
    simpa [overwrites, accepted, guarded, okWith] using fresh
  | confirmReplacementReady key candidates nowS =>
    exact (confirmReplacementReady_advances coverage key candidates nowS clock.read).logged logged
  | confirmTakeover key candidates nowS =>
    exact (confirmTakeover_takes coverage key candidates nowS clock.nonneg).logged logged
  | releaseOutgoing key reason nowS =>
    exact (releaseOutgoing_advances coverage key reason nowS clock.read).logged logged
  | terminateHandover key reason failed nowS =>
    exact (terminateHandover_advances coverage key reason failed nowS clock.read).logged logged
  | failHandover key reason nowS =>
    exact (failHandover_advances coverage key reason nowS clock.read).logged logged

end Steps

theorem run_logged {coverage : PersistentCoverage F} {log : List (HandoverRecord F)}
    {calls : List (Call F)} (logged : Logged coverage.handovers log)
    (fresh : Runs.Along step (fun coverage call => overwrites coverage call = false) coverage
      calls) :
    Logged (Runs.run step coverage calls).handovers (begun coverage log calls) := by
  induction calls generalizing coverage log with
  | nil => exact logged
  | cons call rest ih => exact ih (step_logged logged call fresh.1) fresh.2

omit [PyFloat F] in
theorem mem_result_handovers (coverage : PersistentCoverage F) (record : HandoverRecord F) :
    record ∈ coverage.result.handovers ↔ ∃ key, coverage.handovers.get? key = some record := by
  simp only [result, List.mem_filterMap, Sorting.mem_sortBy, Dict.mem_keys_iff]
  exact ⟨fun ⟨key, _, found⟩ => ⟨key, found⟩, fun ⟨key, found⟩ => ⟨key, ⟨record, found⟩, found⟩⟩

omit [PyFloat F] in
theorem succeeded_of_result {coverage : PersistentCoverage F}
    (succeeded : coverage.result.status = .succeeded) :
    ∀ record ∈ coverage.result.handovers, record.phase ≠ .degraded ∧ record.phase ≠ .failed := by
  intro record member
  simp only [result] at succeeded
  split at succeeded
  · cases succeeded
  · next unfailed =>
    split at succeeded
    · cases succeeded
    · next undegraded =>
      refine ⟨fun phase => undegraded ?_, fun phase => unfailed ?_⟩
      · exact List.any_eq_true.mpr ⟨record, member, by simp [phase]⟩
      · exact List.any_eq_true.mpr ⟨record, member, by simp [phase]⟩

theorem create_logged {fleetSessionId fleetRunId : String} {deployment : DeploymentManifest F}
    {duration : F} {clock : Nat → F} {initial : PersistentCoverage F}
    (created : create fleetSessionId fleetRunId deployment duration clock = .ok initial) :
    Logged initial.handovers [] := by
  obtain ⟨_, _, created⟩ := bind_eq_ok.mp created
  obtain ⟨_, _, created⟩ := bind_eq_ok.mp created
  cases created
  exact ⟨by simp, by simp, by simp⟩

/-- When no begun handover takes the identity of a stored one, the result represents every
handover begun in the run, and succeeds only when none of them degraded or failed. -/
theorem coverage_evidence {fleetSessionId fleetRunId : String} {deployment : DeploymentManifest F}
    {duration : F} {clock : Nat → F} {initial : PersistentCoverage F}
    (created : create fleetSessionId fleetRunId deployment duration clock = .ok initial)
    {calls : List (Call F)}
    (fresh : Runs.Along step (fun coverage call => overwrites coverage call = false) initial calls) :
    (∀ entry ∈ begun initial [] calls, Represented (Runs.run step initial calls) entry) ∧
    ((Runs.run step initial calls).result.status = .succeeded →
      ∀ entry ∈ begun initial [] calls, entry.phase ≠ .degraded ∧ entry.phase ≠ .failed) := by
  have logged := run_logged (create_logged created) fresh
  have listed : ∀ entry ∈ begun initial [] calls,
      entry ∈ (Runs.run step initial calls).result.handovers := fun entry member =>
    (mem_result_handovers _ entry).mpr ⟨_, logged.stored entry member⟩
  refine ⟨fun entry member => ⟨entry, listed entry member, rfl, rfl, rfl⟩, ?_⟩
  intro succeeded entry member
  exact succeeded_of_result succeeded entry (listed entry member)

/-- A handover without a reserve, and one after it with the reserve back. -/
def retriedRun (retried : Bool) : List (Call ℚ) := [
  callAt 10 (by decide +kernel) (.allocateInitial (threeVehicles true) false none none),
  callAt 11 (by decide +kernel)
    (.beginHandover "cover-zone-a" "LOW_BATTERY" (threeVehicles (!retried)) none),
  callAt 12 (by decide +kernel)
    (.beginHandover "cover-zone-a" "LOW_BATTERY" (threeVehicles true) none),
  callAt 13 (by decide +kernel)
    (.confirmReplacementReady "handover-cover-zone-a-2" (threeVehicles true) none),
  callAt 14 (by decide +kernel)
    (.confirmTakeover "handover-cover-zone-a-2" (threeVehicles true) none),
  callAt 15 (by decide +kernel) (.releaseOutgoing "handover-cover-zone-a-2" "RELEASED" none)]

theorem coverage_evidence_completed :
    ∃ initial, create "coverage-session" "coverage-run" threeDrone 30 (fun _ => 0) = .ok initial ∧
      (begun initial [] (retriedRun false)).map HandoverRecord.phase = [.completed] ∧
      ∀ entry ∈ begun initial [] (retriedRun false),
        Represented (Runs.run step initial (retriedRun false)) entry := by
  obtain ⟨initial, created, evaluated⟩ := exists_of_okWith
    (x := create "coverage-session" "coverage-run" threeDrone 30 (fun _ => 0))
    (t := fun initial => decide
        (Runs.Along step (fun coverage call => overwrites coverage call = false) initial
          (retriedRun false)) &&
      (begun initial [] (retriedRun false)).map HandoverRecord.phase = [.completed])
    (by decide +kernel)
  obtain ⟨fresh, phases⟩ := Bool.and_eq_true_iff.mp evaluated
  exact ⟨initial, created, of_decide_eq_true phases,
    (coverage_evidence created (of_decide_eq_true fresh)).1⟩

/-- The retry replaces the degraded attempt, and the run reports success. -/
theorem retry_loses_evidence :
    ∃ initial, create "coverage-session" "coverage-run" threeDrone 30 (fun _ => 0) = .ok initial ∧
      (Runs.run step initial (retriedRun true)).result.status = .succeeded ∧
      ∃ entry ∈ begun initial [] (retriedRun true), entry.phase = .degraded ∧
        ¬ Represented (Runs.run step initial (retriedRun true)) entry := by
  obtain ⟨initial, created, evaluated⟩ := exists_of_okWith
    (x := create "coverage-session" "coverage-run" threeDrone 30 (fun _ => 0))
    (t := fun initial =>
      let status := (Runs.run step initial (retriedRun true)).result.status
      status = .succeeded && (begun initial [] (retriedRun true)).any fun entry =>
        entry.phase = .degraded) (by decide +kernel)
  obtain ⟨status, degraded⟩ := Bool.and_eq_true_iff.mp evaluated
  obtain ⟨entry, member, phase⟩ := List.any_eq_true.mp degraded
  have status := of_decide_eq_true status
  have phase := of_decide_eq_true phase
  refine ⟨initial, created, status, entry, member, phase, ?_⟩
  rintro ⟨record, listed, _, _, same⟩
  exact (succeeded_of_result status record listed).1 (same.trans phase)

end CrazySwarm.PersistentCoverage
