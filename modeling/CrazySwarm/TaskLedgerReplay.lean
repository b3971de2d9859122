import CrazySwarm.TaskLedgerFencing

/-! Task evidence replays to the ledger. Each accepted event mirrors the record it is
appended to, and nothing is written to a record after its last event. -/
namespace CrazySwarm.TaskLedger
open PyFloat Sorting

variable {F : Type} [PyFloat F]

/-- The states whose decision and reason the evidence also carries. -/
def reportsOutcome (state : TaskState) : Bool := (replayDecision state).isSome

structure Outcome (record : TaskRecord F) (reason : Option String) : Prop where
  decision : reportsOutcome record.state = true → record.decision = replayDecision record.state
  reason : reportsOutcome record.state = true → record.terminalReason = reason

structure Mirrors (event : TaskEvidenceEvent F) (record : TaskRecord F) : Prop where
  state : event.state = record.state
  owner : event.ownerVehicleId = record.ownerVehicleId
  generation : event.leaseGeneration = record.leaseGeneration
  progress : event.progressPercent = record.progressPercent
  child : event.childMissionRunId = record.childMissionRunId
  outcome : Outcome record event.reason

/-- The fields of an accepted event that the replayed record checks again. -/
structure Accepted (event : TaskEvidenceEvent F) : Prop where
  owner : optionalIdentifier event.ownerVehicleId = true
  progress : percentage event.progressPercent = true
  child : optionalIdentifier event.childMissionRunId = true

/-- Nothing declared has been emitted yet, or the last event mirrors the record. -/
def Snapshot (record : TaskRecord F) : Prop :=
  record = TaskRecord.declare record.definition ∨
  ∃ front latest, record.events = front ++ [latest] ∧ Mirrors latest record

def sequences (record : TaskRecord F) : List Nat := record.events.map TaskEvidenceEvent.sequence

structure EvidencedRecord (taskId : String) (record : TaskRecord F) : Prop where
  identity : record.definition.taskId = taskId
  events : ∀ event ∈ record.events, event.taskId = taskId ∧ Accepted event
  snapshot : Snapshot record
  ordered : (sequences record).Pairwise (· < ·)

structure Evidenced (ledger : TaskLedger F) : Prop where
  wellLeased : WellLeased ledger
  record : ∀ taskId record, ledger.records.get? taskId = some record → EvidencedRecord taskId record
  numbered : (ledger.records.values.flatMap sequences).Perm (List.range' 1 ledger.eventSequence)

theorem write_frame {ledger : TaskLedger F} {taskId : String}
    {record updated : TaskRecord F} {reason : Option String}
    (write : Write ledger taskId record updated reason) :
    updated.definition = record.definition ∧ updated.events = record.events := by
  cases write <;> exact ⟨rfl, rfl⟩

theorem write_outcome {ledger : TaskLedger F} {taskId : String} {record updated : TaskRecord F}
    {reason : Option String} (write : Write ledger taskId record updated reason)
    (leased : Leased record) : Outcome updated reason := by
  cases write with
  | renew held =>
    have state := leased.state held
    simp only [List.mem_cons, List.not_mem_nil, or_false] at state
    constructor <;> (intro reports; rcases state with h | h | h <;> simp [h, reportsOutcome, replayDecision] at reports)
  | progress held state | decide state =>
    constructor <;> (intro reports; simp [state, reportsOutcome, replayDecision] at reports)
  | retry state | complete held state | abort state => exact ⟨fun _ => rfl, fun _ => rfl⟩
  | assign | start | pause | resume | transfer =>
    constructor <;> (intro reports; simp [reportsOutcome, replayDecision] at reports)

theorem evidence_accepted {ledger : TaskLedger F} {taskId eventType : String}
    {record : TaskRecord F} {reason : Option String} {timestamp : F}
    (created : (evidence ledger taskId eventType record reason timestamp).create =
      .ok (evidence ledger taskId eventType record reason timestamp)) :
    Accepted (evidence ledger taskId eventType record reason timestamp) := by
  obtain ⟨checks, _⟩ := validated_eq_ok.mp created
  simp only [List.forall_mem_cons] at checks
  obtain ⟨_, _, _, _, _, _, _, owner, progress, _, child, _⟩ := checks
  exact ⟨owner, progress, child⟩

theorem Evidenced.sequence_le {ledger : TaskLedger F} (evidenced : Evidenced ledger)
    {taskId : String} {record : TaskRecord F} (found : ledger.records.get? taskId = some record)
    {sequence : Nat} (member : sequence ∈ sequences record) : sequence ≤ ledger.eventSequence := by
  have collected : sequence ∈ ledger.records.values.flatMap sequences :=
    List.mem_flatMap.mpr ⟨record, (Dict.mem_values_iff _ _).mpr ⟨taskId, found⟩, member⟩
  have bounded := evidenced.numbered.mem_iff.mp collected
  simp at bounded
  omega

/-- One accepted emission over a record that keeps its past keeps the whole ledger evidenced. -/
theorem written_evidenced {ledger : TaskLedger F} {taskId eventType : String}
    {record updated : TaskRecord F} {reason : Option String} {timestamp : F}
    (evidenced : Evidenced ledger) (found : ledger.records.get? taskId = some record)
    (frame : updated.definition = record.definition ∧ updated.events = record.events)
    (leased : Leased updated) (outcome : Outcome updated reason)
    (created : (evidence ledger taskId eventType updated reason timestamp).create =
      .ok (evidence ledger taskId eventType updated reason timestamp)) :
    Evidenced (ledger.written taskId { updated with events :=
      updated.events ++ [evidence ledger taskId eventType updated reason timestamp] }) where
  wellLeased := written_wellLeased evidenced.wellLeased ⟨leased.present, leased.current⟩
  record := by
    intro other stored lookup
    simp only [written, Dict.get?_insert] at lookup
    split at lookup
    · next same =>
      subst same
      cases lookup
      have past := evidenced.record taskId record found
      refine ⟨by simpa [frame.1] using past.identity, ?_, ?_, ?_⟩
      · intro event member
        simp only [List.mem_append, List.mem_singleton, frame.2] at member
        rcases member with old | rfl
        · exact past.events event old
        · exact ⟨rfl, evidence_accepted created⟩
      · exact .inr ⟨_, _, rfl, rfl, rfl, rfl, rfl, rfl, outcome.decision, outcome.reason⟩
      · simp only [sequences, List.map_append, List.map_cons, List.map_nil, frame.2]
        refine List.pairwise_append.mpr ⟨past.ordered, by simp, ?_⟩
        intro earlier member later last
        have bound := evidenced.sequence_le found member
        simp only [List.mem_singleton] at last
        subst last
        exact Nat.lt_succ_of_le bound
    · exact evidenced.record other stored lookup
  numbered := by
    have grown := ledger.records.flatMap_insert_perm { updated with events :=
        updated.events ++ [evidence ledger taskId eventType updated reason timestamp] }
      sequences [ledger.eventSequence + 1] found (by simp [sequences, frame.2, evidence])
    refine grown.trans ?_
    simp only [written, List.range'_1_concat, Nat.add_comm 1]
    exact evidenced.numbered.append_right _

/-- A strict path appends accepted evidence at every commit. -/
theorem path_evidenced {ledger next : TaskLedger F} (path : Path True ledger next)
    (evidenced : Evidenced ledger) : Evidenced next := by
  induction path with
  | done => exact evidenced
  | @commit ledger next record updated taskId eventType reason timestamp found write accepted rest ih =>
    rcases commit_cases ledger taskId eventType updated reason timestamp
      with ⟨fault, _, eq⟩ | ⟨created, eq⟩
    · obtain ⟨result, ok⟩ := accepted trivial
      rw [eq] at ok
      cases ok
    · rw [eq] at ih
      have leased := evidenced.wellLeased taskId record found
      exact ih (written_evidenced evidenced found (write_frame write) (write_leased write leased)
        (write_outcome write leased) created)

theorem step_evidenced {ledger : TaskLedger F} (call : Call F) (evidenced : Evidenced ledger)
    (succeeded : succeeds ledger call) : Evidenced (step ledger call) :=
  path_evidenced (perform_path True ledger call.op call.clock fun _ => succeeded) evidenced

theorem replay_eq {taskId : String} {record : TaskRecord F}
    (evidenced : EvidencedRecord taskId record) {events : List (TaskEvidenceEvent F)}
    (perm : events.Perm record.events) :
    ∃ replayed, replayTask record.definition events = .ok replayed ∧
      replayed.state = record.state ∧ replayed.ownerVehicleId = record.ownerVehicleId ∧
      replayed.leaseGeneration = record.leaseGeneration ∧
      replayed.progressPercent = record.progressPercent ∧
      replayed.childMissionRunId = record.childMissionRunId ∧
      (reportsOutcome record.state = true →
        replayed.decision = record.decision ∧ replayed.terminalReason = record.terminalReason) := by
  have identified : (events.all fun event => event.taskId = record.definition.taskId) = true := by
    simp only [List.all_eq_true, decide_eq_true_eq]
    intro event member
    rw [evidenced.identity]
    exact (evidenced.events event (perm.mem_iff.mp member)).1
  have sorted := sortBy_eq_of_perm TaskEvidenceEvent.sequence evidenced.ordered perm
  rcases evidenced.snapshot with fresh | ⟨front, latest, split, mirrors⟩
  · have empty : record.events = [] := by rw [fresh]; rfl
    rw [empty] at sorted
    refine ⟨.declare record.definition, ?_, ?_⟩
    · simp [replayTask, identified, require, sorted, bind, Except.bind]
    · rw [fresh]; simp [TaskRecord.declare, reportsOutcome, replayDecision]
  · have last : record.events.getLast? = some latest := by simp [split]
    obtain ⟨_, accepted⟩ := evidenced.events latest (by simp [split])
    refine ⟨{ TaskRecord.declare record.definition with
      state := latest.state, ownerVehicleId := latest.ownerVehicleId
      leaseGeneration := latest.leaseGeneration, progressPercent := latest.progressPercent
      decision := replayDecision latest.state, terminalReason := latest.reason
      childMissionRunId := latest.childMissionRunId, events := record.events }, ?_,
      mirrors.state, mirrors.owner, mirrors.generation, mirrors.progress, mirrors.child, ?_⟩
    · simp [replayTask, identified, require, sorted, last, bind, Except.bind, TaskRecord.create,
        accepted.owner, accepted.progress, accepted.child]
    · intro reports
      exact ⟨by rw [mirrors.state, mirrors.outcome.decision reports], (mirrors.outcome.reason reports).symm⟩

theorem create_evidenced {session run sha : String}
    {definitions : List (DeploymentTaskDefinition F)} {duration : F} {clock : Nat → F}
    {initial : TaskLedger F}
    (created : create session run sha definitions duration clock = .ok initial) :
    Evidenced initial := by
  obtain ⟨records, taskIds, declared, undeclared, _⟩ := create_eq_ok created
  -- Until its own first event a record is the bare declaration, so its outcome is not reported.
  have kept : Evidenced initial ∧ ∀ taskId record, initial.records.get? taskId = some record →
      record.state = .declared := by
    refine declareAll_invariant (I := fun ledger => Evidenced ledger ∧ ∀ taskId record,
      ledger.records.get? taskId = some record → record.state = .declared)
      (fun ledger taskId record timestamp held found accepted => ?_) ⟨⟨?_, ?_, ?_⟩, ?_⟩ declared
    · have state := held.2 taskId record found
      refine ⟨written_evidenced held.1 found ⟨rfl, rfl⟩ (held.1.wellLeased taskId record found) ?_
        accepted, ?_⟩
      · constructor <;> (intro reports; simp [state, reportsOutcome, replayDecision] at reports)
      · intro other stored lookup
        simp only [written, Dict.get?_insert] at lookup
        split at lookup
        · cases lookup; exact state
        · exact held.2 other stored lookup
    · intro taskId record found
      rw [(undeclared taskId record found).1]
      exact ⟨by simp [TaskRecord.declare], by simp [TaskRecord.declare]⟩
    · intro taskId record found
      obtain ⟨fresh, identity, _⟩ := undeclared taskId record found
      have empty : record.events = [] := by rw [fresh]; rfl
      exact ⟨identity, by simp [empty], .inl fresh, by simp [sequences, empty]⟩
    · have silent : records.values.flatMap sequences = [] := by
        rw [List.flatMap_eq_nil_iff]
        intro record member
        obtain ⟨taskId, found⟩ := (Dict.mem_values_iff _ _).mp member
        rw [(undeclared taskId record found).1]
        rfl
      simp [silent]
    · intro taskId record found
      rw [(undeclared taskId record found).1]
      rfl
  exact kept.1

/-- Over every run of successful operations, each record's evidence replays to the record in
whatever order it is read, and the evidence of all tasks is numbered without gap. -/
theorem ledger_replay {session run sha : String}
    {definitions : List (DeploymentTaskDefinition F)} {duration : F} {clock : Nat → F}
    {initial : TaskLedger F}
    (created : create session run sha definitions duration clock = .ok initial)
    (calls : List (Call F)) (succeeded : Runs.Along step succeeds initial calls) :
    (∀ taskId record, (Runs.run step initial calls).records.get? taskId = some record →
      (sequences record).Pairwise (· < ·) ∧
      ∀ events : List (TaskEvidenceEvent F), events.Perm record.events →
        ∃ replayed, replayTask record.definition events = .ok replayed ∧
          replayed.state = record.state ∧ replayed.ownerVehicleId = record.ownerVehicleId ∧
          replayed.leaseGeneration = record.leaseGeneration ∧
          replayed.progressPercent = record.progressPercent ∧
          replayed.childMissionRunId = record.childMissionRunId ∧
          (record.state ∈ [.completed, .aborted, .retryPending] →
            replayed.decision = record.decision ∧
            replayed.terminalReason = record.terminalReason)) ∧
    ((Runs.run step initial calls).records.values.flatMap sequences).Perm
      (List.range' 1 (Runs.run step initial calls).eventSequence) := by
  have evidenced : Evidenced (Runs.run step initial calls) :=
    Runs.invariant_along (fun _ call held ok => step_evidenced call held ok)
      (create_evidenced created) succeeded
  refine ⟨fun taskId record found => ?_, evidenced.numbered⟩
  have here := evidenced.record taskId record found
  refine ⟨here.ordered, fun events perm => ?_⟩
  obtain ⟨replayed, ok, state, owner, generation, progress, child, outcome⟩ := replay_eq here perm
  refine ⟨replayed, ok, state, owner, generation, progress, child, fun finished => outcome ?_⟩
  simp only [List.mem_cons, List.not_mem_nil, or_false] at finished
  rcases finished with h | h | h <;> rw [h] <;> rfl

/-- A task assigned, started, reported at full progress and completed. -/
theorem ledger_replay_completed :
    let sha := "0000000000000000000000000000000000000000000000000000000000000000"
    let inspect : DeploymentTaskDefinition ℚ := ⟨"inspect-a", "zone-a", 100, [.arming], 100, 20, 10⟩
    let calls : List (Call ℚ) := [
      ⟨.assign "inspect-a" "cf01" [.arming] (some 90) false (some 1), fun _ => 1⟩,
      ⟨.start "inspect-a" "cf01" "child-1" 1 (some 2), fun _ => 2⟩,
      ⟨.updateProgress "inspect-a" "cf01" 1 100 (some 3), fun _ => 3⟩,
      ⟨.complete "inspect-a" "cf01" 1 "completion criteria met" (some 4), fun _ => 4⟩]
    ∃ initial, create "session-1" "run-1" sha [inspect] 5 (fun _ => 0) = .ok initial ∧
      (Runs.run step initial calls).eventSequence = 5 ∧
      ((Runs.run step initial calls).records.values.flatMap sequences).Perm [1, 2, 3, 4, 5] := by
  intro sha inspect calls
  obtain ⟨initial, created, succeeded⟩ := exists_of_okWith
    (x := create "session-1" "run-1" sha [inspect] 5 (fun _ => 0))
    (t := fun initial => decide (Runs.Along step succeeds initial calls ∧
      (Runs.run step initial calls).eventSequence = 5)) (by decide +kernel)
  obtain ⟨succeeded, count⟩ := of_decide_eq_true succeeded
  have numbered := (ledger_replay created calls succeeded).2
  rw [count] at numbered
  exact ⟨initial, created, count, numbered⟩

end CrazySwarm.TaskLedger
