import CrazySwarm.TaskLedger

/-! What one call can do to the ledger. A call is a path of commits, each storing a record
that a `Write` allows; every invariant is a consequence of this inversion. -/
namespace CrazySwarm.TaskLedger
open PyFloat

variable {F : Type} [PyFloat F]

/-- The record's current lease names this vehicle and generation. -/
def Held (record : TaskRecord F) (vehicleId : String) (generation : Nat) : Prop :=
  ∃ lease, record.lease = some lease ∧ lease.vehicleId = vehicleId ∧
    lease.generation = generation ∧ record.ownerVehicleId = some vehicleId

section Inversions
variable {ledger : TaskLedger F} {record : TaskRecord F}

omit [PyFloat F] in
theorem record_eq_ok {taskId : String} :
    ledger.record taskId = .ok record ↔ ledger.records.get? taskId = some record := by
  unfold TaskLedger.record
  split <;> simp_all

omit [PyFloat F] in
theorem requireState_eq_ok {states : List TaskState} {message : String} {u : Unit} :
    (requireState record states message : Except (Fault F) Unit) = .ok u ↔ record.state ∈ states := by
  simp [requireState]

theorem requireCurrentLease_eq_ok {taskId vehicleId : String} {generation : Nat} {now : F}
    (h : ledger.requireCurrentLease taskId vehicleId generation now = .ok record) :
    ledger.records.get? taskId = some record ∧ Held record vehicleId generation := by
  obtain ⟨found, lookup, h⟩ := bind_eq_ok.mp h
  cases lease : found.lease with
  | none => simp [lease] at h
  | some held =>
    simp only [lease] at h
    obtain ⟨_, current, h⟩ := bind_eq_ok.mp h
    obtain ⟨_, _, h⟩ := bind_eq_ok.mp h
    cases h
    simp only [require_eq_ok, Bool.and_eq_true, decide_eq_true_eq] at current
    exact ⟨record_eq_ok.mp lookup, held, lease, current.1.1, current.1.2, current.2⟩

theorem issueLease_eq_ok {taskId vehicleId : String} {generation : Nat} {now : F}
    {lease : TaskLease F} (h : ledger.issueLease taskId vehicleId generation now = .ok lease) :
    lease.vehicleId = vehicleId ∧ lease.generation = generation ∧ isIdentifier vehicleId = true := by
  obtain ⟨checks, rfl⟩ := validated_eq_ok.mp h
  exact ⟨rfl, rfl, checks ("vehicle_id", isIdentifier vehicleId) (by simp)⟩

end Inversions

/-- The records an operation may store over `record`, with the reason its evidence carries. -/
inductive Write (ledger : TaskLedger F) (taskId : String) (record : TaskRecord F) :
    TaskRecord F → Option String → Prop where
  | assign {vehicleId : String} {lease : TaskLease F} {now : F}
      (available : record.state ∈ [.declared, .retryPending])
      (issued : ledger.issueLease taskId vehicleId (record.leaseGeneration + 1) now = .ok lease) :
      Write ledger taskId record
        { record with
          state := .assigned, ownerVehicleId := some vehicleId, lease := some lease
          leaseGeneration := record.leaseGeneration + 1, attempts := record.attempts + 1
          decision := none, terminalReason := none } none
  | start {vehicleId child : String} {generation : Nat} (held : Held record vehicleId generation)
      (state : record.state = .assigned) :
      Write ledger taskId record
        { record with state := .inProgress, childMissionRunId := some child } none
  | renew {vehicleId : String} {generation : Nat} {now : F}
      (held : Held record vehicleId generation) :
      Write ledger taskId record
        { record with lease := record.lease.map fun lease =>
          { lease with expiresAtMonotonicS := add now ledger.leaseDurationS } } none
  | progress {vehicleId : String} {generation : Nat} {progress : F}
      (held : Held record vehicleId generation) (state : record.state = .inProgress) :
      Write ledger taskId record { record with progressPercent := progress } none
  | pause {vehicleId reason : String} {generation : Nat} (held : Held record vehicleId generation)
      (state : record.state = .inProgress) :
      Write ledger taskId record { record with state := .paused } (some reason)
  | resume {vehicleId : String} {generation : Nat} (held : Held record vehicleId generation)
      (state : record.state = .paused) :
      Write ledger taskId record { record with state := .inProgress } none
  | retry {reason : String} (state : record.state ∈ [.assigned, .inProgress, .paused]) :
      Write ledger taskId record
        { record with
          state := .retryPending, ownerVehicleId := none, lease := none
          decision := some .retry, terminalReason := some reason
          childMissionRunId := none } (some reason)
  | decide {reason : String} (state : record.state = .assigned) :
      Write ledger taskId record { record with decision := some .reassign } (some reason)
  | transfer {outgoing incoming reason : String} {lease : TaskLease F} {generation : Nat} {now : F}
      (held : Held record outgoing generation) (apart : outgoing ≠ incoming)
      (state : record.state ∈ [.assigned, .inProgress, .paused])
      (issued : ledger.issueLease taskId incoming (record.leaseGeneration + 1) now = .ok lease) :
      Write ledger taskId record
        { record with
          state := .assigned, ownerVehicleId := some incoming, lease := some lease
          leaseGeneration := record.leaseGeneration + 1, attempts := record.attempts + 1
          decision := some .reassign, terminalReason := some reason
          childMissionRunId := none } (some reason)
  | complete {vehicleId reason : String} {generation : Nat} (held : Held record vehicleId generation)
      (state : record.state = .inProgress) :
      Write ledger taskId record
        { record with
          state := .completed, lease := none, decision := some .complete
          terminalReason := some reason } (some reason)
  | abort {reason : String} (state : record.state ∉ [.completed, .aborted]) :
      Write ledger taskId record
        { record with
          state := .aborted, lease := none, decision := some .abort
          terminalReason := some reason } (some reason)

/-- The evidence an emission appends to the stored record. -/
def evidence (ledger : TaskLedger F) (taskId eventType : String) (record : TaskRecord F)
    (reason : Option String) (timestamp : F) : TaskEvidenceEvent F where
  fleetSessionId := ledger.fleetSessionId
  fleetRunId := ledger.fleetRunId
  deploymentSha256 := ledger.deploymentSha256
  sequence := ledger.eventSequence + 1
  taskId := taskId
  eventType := eventType
  state := record.state
  timestampMonotonicS := timestamp
  ownerVehicleId := record.ownerVehicleId
  leaseGeneration := record.leaseGeneration
  progressPercent := record.progressPercent
  reason := reason
  childMissionRunId := record.childMissionRunId

/-- The ledger after storing a record and spending one sequence number. -/
def written (ledger : TaskLedger F) (taskId : String) (record : TaskRecord F) : TaskLedger F :=
  { ledger with
    records := ledger.records.insert taskId record
    eventSequence := ledger.eventSequence + 1 }

theorem emit_cases {ledger : TaskLedger F} {record : TaskRecord F} {taskId : String}
    (eventType : String) (reason : Option String) (timestamp : F)
    (found : ledger.records.get? taskId = some record) :
    (∃ fault, (evidence ledger taskId eventType record reason timestamp).create = .error fault ∧
      ledger.emit taskId eventType reason timestamp =
        ({ ledger with eventSequence := ledger.eventSequence + 1 }, .error fault)) ∨
    ((evidence ledger taskId eventType record reason timestamp).create =
        .ok (evidence ledger taskId eventType record reason timestamp) ∧
      ledger.emit taskId eventType reason timestamp =
        (ledger.written taskId { record with
            events := record.events ++ [evidence ledger taskId eventType record reason timestamp] },
          .ok { record with
            events := record.events ++ [evidence ledger taskId eventType record reason timestamp] })) := by
  have lookup := record_eq_ok.mpr found
  cases created : (evidence ledger taskId eventType record reason timestamp).create with
  | error fault =>
    exact .inl ⟨fault, rfl, by simp only [evidence] at created; simp [emit, lookup, created]⟩
  | ok event =>
    obtain ⟨_, rfl⟩ := validated_eq_ok.mp created
    refine .inr ⟨rfl, ?_⟩
    simp only [evidence] at created
    simp [emit, lookup, created, written, store, evidence]

theorem commit_cases (ledger : TaskLedger F) (taskId eventType : String) (record : TaskRecord F)
    (reason : Option String) (timestamp : F) :
    (∃ fault, (evidence ledger taskId eventType record reason timestamp).create = .error fault ∧
      ledger.commit taskId (.ok record) eventType reason timestamp =
        (ledger.written taskId record, .error fault)) ∨
    ((evidence ledger taskId eventType record reason timestamp).create =
        .ok (evidence ledger taskId eventType record reason timestamp) ∧
      ledger.commit taskId (.ok record) eventType reason timestamp =
        (ledger.written taskId { record with
            events := record.events ++ [evidence ledger taskId eventType record reason timestamp] },
          .ok { record with
            events := record.events ++ [evidence ledger taskId eventType record reason timestamp] })) := by
  have stored : (ledger.store taskId record).records.get? taskId = some record := by simp [store]
  rcases emit_cases eventType reason timestamp stored with ⟨fault, created, emitted⟩ | ⟨created, emitted⟩
  · exact .inl ⟨fault, created, by simpa [commit, written, store] using emitted⟩
  · exact .inr ⟨created, by simpa [commit, written, store, evidence] using emitted⟩

/-- Whether or not its evidence is accepted, a commit stores the record it was given. -/
theorem commit_state (ledger : TaskLedger F) (taskId eventType : String) (record : TaskRecord F)
    (reason : Option String) (timestamp : F) :
    ∃ events, (ledger.commit taskId (.ok record) eventType reason timestamp).1 =
      ledger.written taskId { record with events := events } := by
  rcases commit_cases ledger taskId eventType record reason timestamp with ⟨_, _, eq⟩ | ⟨_, eq⟩
  · exact ⟨record.events, by rw [eq]⟩
  · exact ⟨_, by rw [eq]⟩

inductive Path (strict : Prop) : TaskLedger F → TaskLedger F → Prop where
  | done {ledger} : Path strict ledger ledger
  | commit {ledger next} {record updated : TaskRecord F} {taskId eventType : String} {reason : Option String} {timestamp : F}
      (found : ledger.records.get? taskId = some record)
      (write : Write ledger taskId record updated reason)
      (accepted : strict → ∃ result,
        (ledger.commit taskId (.ok updated) eventType reason timestamp).2 = .ok result)
      (rest : Path strict (ledger.commit taskId (.ok updated) eventType reason timestamp).1 next) :
      Path strict ledger next

theorem Path.trans {strict : Prop} {ledger middle next : TaskLedger F} (first : Path strict ledger middle)
    (second : Path strict middle next) : Path strict ledger next := by
  induction first with
  | done => exact second
  | commit found write accepted _ ih => exact .commit found write accepted (ih second)

theorem commit_path {strict : Prop} {ledger : TaskLedger F} {taskId eventType : String} {reason : Option String}
    {timestamp : F} {update : Except (Fault F) (TaskRecord F)}
    (writes : ∀ updated, update = .ok updated → ∃ record,
      ledger.records.get? taskId = some record ∧ Write ledger taskId record updated reason)
    (accepted : strict → ∃ result,
      (ledger.commit taskId update eventType reason timestamp).2 = .ok result) :
    Path strict ledger (ledger.commit taskId update eventType reason timestamp).1 := by
  cases computed : update with
  | error fault => exact .done
  | ok updated =>
    obtain ⟨record, found, write⟩ := writes updated computed
    rw [computed] at accepted
    exact .commit found write accepted .done

/-- An accepted commit returns what it stored: the computed record and its evidence. -/
theorem commit_ok {ledger stored : TaskLedger F} {taskId eventType : String}
    {reason : Option String} {timestamp : F} {update : Except (Fault F) (TaskRecord F)}
    {result : TaskRecord F}
    (h : ledger.commit taskId update eventType reason timestamp = (stored, .ok result)) :
    stored.records.get? taskId = some result ∧ ∃ base event, update = .ok base ∧
      result = { base with events := base.events ++ [event] } := by
  cases computed : update with
  | error fault => simp [computed, commit] at h
  | ok base =>
    rw [computed] at h
    rcases commit_cases ledger taskId eventType base reason timestamp
      with ⟨fault, _, eq⟩ | ⟨_, eq⟩
    · rw [eq] at h; cases h
    · rw [eq] at h
      cases h
      exact ⟨by simp [written], base, _, rfl, rfl⟩

section Updates
variable {ledger : TaskLedger F} {updated : TaskRecord F} {taskId vehicleId : String}

theorem assignUpdate_eq_ok {capabilities : List VehicleCapability} {battery : Option F}
    {allow : Bool} {now : F}
    (h : ledger.assignUpdate taskId vehicleId capabilities battery allow now = .ok updated) :
    ∃ record lease, ledger.records.get? taskId = some record ∧
      record.state ∈ [.declared, .retryPending] ∧
      ledger.issueLease taskId vehicleId (record.leaseGeneration + 1) now = .ok lease ∧
      updated = { record with
        state := .assigned, ownerVehicleId := some vehicleId, lease := some lease
        leaseGeneration := record.leaseGeneration + 1, attempts := record.attempts + 1
        decision := none, terminalReason := none } := by
  obtain ⟨record, found, h⟩ := bind_eq_ok.mp h
  obtain ⟨_, available, h⟩ := bind_eq_ok.mp h
  obtain ⟨_, _, h⟩ := bind_eq_ok.mp h
  obtain ⟨_, _, h⟩ := bind_eq_ok.mp h
  obtain ⟨lease, issued, h⟩ := bind_eq_ok.mp h
  cases h
  exact ⟨record, lease, record_eq_ok.mp found, requireState_eq_ok.mp available, issued, rfl⟩

theorem assignUpdate_writes {capabilities : List VehicleCapability} {battery : Option F}
    {allow : Bool} {now : F}
    (h : ledger.assignUpdate taskId vehicleId capabilities battery allow now = .ok updated) :
    ∃ record, ledger.records.get? taskId = some record ∧
      Write ledger taskId record updated none := by
  obtain ⟨record, lease, found, available, issued, rfl⟩ := assignUpdate_eq_ok h
  exact ⟨record, found, .assign available issued⟩

theorem startUpdate_writes {child : String} {generation : Nat} {now : F}
    (h : ledger.startUpdate taskId vehicleId child generation now = .ok updated) :
    ∃ record, ledger.records.get? taskId = some record ∧
      Write ledger taskId record updated none := by
  obtain ⟨record, current, h⟩ := bind_eq_ok.mp h
  obtain ⟨_, state, h⟩ := bind_eq_ok.mp h
  cases h
  obtain ⟨found, held⟩ := requireCurrentLease_eq_ok current
  exact ⟨record, found, .start held (by simpa using requireState_eq_ok.mp state)⟩

theorem renewUpdate_writes {generation : Nat} {now : F}
    (h : ledger.renewUpdate taskId vehicleId generation now = .ok updated) :
    ∃ record, ledger.records.get? taskId = some record ∧
      Write ledger taskId record updated none := by
  obtain ⟨record, current, h⟩ := bind_eq_ok.mp h
  cases h
  obtain ⟨found, held⟩ := requireCurrentLease_eq_ok current
  exact ⟨record, found, .renew held⟩

theorem progressUpdate_writes {generation : Nat} {progress now : F}
    (h : ledger.progressUpdate taskId vehicleId generation progress now = .ok updated) :
    ∃ record, ledger.records.get? taskId = some record ∧
      Write ledger taskId record updated none := by
  obtain ⟨record, current, h⟩ := bind_eq_ok.mp h
  obtain ⟨_, state, h⟩ := bind_eq_ok.mp h
  obtain ⟨_, _, h⟩ := bind_eq_ok.mp h
  cases h
  obtain ⟨found, held⟩ := requireCurrentLease_eq_ok current
  exact ⟨record, found, .progress held (by simpa using requireState_eq_ok.mp state)⟩

theorem moveUpdate_eq_ok {source target : TaskState} {message : String} {generation : Nat} {now : F}
    (h : ledger.moveUpdate source target message taskId vehicleId generation now = .ok updated) :
    ∃ record, ledger.records.get? taskId = some record ∧ Held record vehicleId generation ∧
      record.state = source ∧ updated = { record with state := target } := by
  obtain ⟨record, current, h⟩ := bind_eq_ok.mp h
  obtain ⟨_, state, h⟩ := bind_eq_ok.mp h
  cases h
  obtain ⟨found, held⟩ := requireCurrentLease_eq_ok current
  exact ⟨record, found, held, by simpa using requireState_eq_ok.mp state, rfl⟩

omit [PyFloat F] in
theorem retryUpdate_eq_ok {reason : String} (h : ledger.retryUpdate taskId reason = .ok updated) :
    ∃ record, ledger.records.get? taskId = some record ∧
      record.state ∈ [.assigned, .inProgress, .paused] ∧
      updated = { record with
        state := .retryPending, ownerVehicleId := none, lease := none
        decision := some .retry, terminalReason := some reason, childMissionRunId := none } := by
  obtain ⟨record, found, h⟩ := bind_eq_ok.mp h
  obtain ⟨_, state, h⟩ := bind_eq_ok.mp h
  cases h
  exact ⟨record, record_eq_ok.mp found, requireState_eq_ok.mp state, rfl⟩

theorem retryUpdate_writes {reason : String} (h : ledger.retryUpdate taskId reason = .ok updated) :
    ∃ record, ledger.records.get? taskId = some record ∧
      Write ledger taskId record updated (some reason) := by
  obtain ⟨record, found, state, rfl⟩ := retryUpdate_eq_ok h
  exact ⟨record, found, .retry state⟩

theorem transferUpdate_eq_ok {outgoing incoming reason : String} {generation : Nat}
    {capabilities : List VehicleCapability} {battery : Option F} {checkedAt now : F}
    (h : ledger.transferUpdate taskId outgoing incoming generation capabilities battery reason
      checkedAt now = .ok updated) :
    ∃ record lease, ledger.records.get? taskId = some record ∧ Held record outgoing generation ∧
      outgoing ≠ incoming ∧ record.state ∈ [.assigned, .inProgress, .paused] ∧
      ledger.issueLease taskId incoming (record.leaseGeneration + 1) now = .ok lease ∧
      updated = { record with
        state := .assigned, ownerVehicleId := some incoming, lease := some lease
        leaseGeneration := record.leaseGeneration + 1, attempts := record.attempts + 1
        decision := some .reassign, terminalReason := some reason
        childMissionRunId := none } := by
  obtain ⟨_, apart, h⟩ := bind_eq_ok.mp h
  obtain ⟨record, current, h⟩ := bind_eq_ok.mp h
  obtain ⟨_, state, h⟩ := bind_eq_ok.mp h
  obtain ⟨_, _, h⟩ := bind_eq_ok.mp h
  obtain ⟨lease, issued, h⟩ := bind_eq_ok.mp h
  cases h
  obtain ⟨found, held⟩ := requireCurrentLease_eq_ok current
  exact ⟨record, lease, found, held, by simpa using apart, requireState_eq_ok.mp state, issued, rfl⟩

theorem transferUpdate_writes {outgoing incoming reason : String} {generation : Nat}
    {capabilities : List VehicleCapability} {battery : Option F} {checkedAt now : F}
    (h : ledger.transferUpdate taskId outgoing incoming generation capabilities battery reason
      checkedAt now = .ok updated) :
    ∃ record, ledger.records.get? taskId = some record ∧
      Write ledger taskId record updated (some reason) := by
  obtain ⟨record, lease, found, held, apart, state, issued, rfl⟩ := transferUpdate_eq_ok h
  exact ⟨record, found, .transfer held apart state issued⟩

theorem completeUpdate_writes {reason : String} {generation : Nat} {now : F}
    (h : ledger.completeUpdate taskId vehicleId generation reason now = .ok updated) :
    ∃ record, ledger.records.get? taskId = some record ∧
      Write ledger taskId record updated (some reason) := by
  obtain ⟨record, current, h⟩ := bind_eq_ok.mp h
  obtain ⟨_, state, h⟩ := bind_eq_ok.mp h
  obtain ⟨_, _, h⟩ := bind_eq_ok.mp h
  cases h
  obtain ⟨found, held⟩ := requireCurrentLease_eq_ok current
  exact ⟨record, found, .complete held (by simpa using requireState_eq_ok.mp state)⟩

end Updates

/-- An assignment that succeeds leaves the record in `ASSIGNED`. -/
theorem assign_ok {ledger stored : TaskLedger F} {taskId vehicleId : String}
    {capabilities : List VehicleCapability} {battery nowS : Option F} {allow : Bool}
    {clock : Nat → F} {result : TaskRecord F}
    (h : ledger.assign taskId vehicleId capabilities battery allow nowS clock =
      (stored, .ok result)) :
    stored.records.get? taskId = some result ∧ result.state = .assigned := by
  obtain ⟨found, base, event, computed, rfl⟩ := commit_ok h
  obtain ⟨_, _, _, _, _, rfl⟩ := assignUpdate_eq_ok computed
  exact ⟨found, rfl⟩

theorem retry_path (strict : Prop) (ledger : TaskLedger F) (taskId reason : String)
    (clock : Nat → F)
    (accepted : strict → ∃ result, (ledger.retry taskId reason clock).2 = .ok result) :
    Path strict ledger (ledger.retry taskId reason clock).1 :=
  commit_path (fun _ => retryUpdate_writes) accepted

theorem assign_path (strict : Prop) (ledger : TaskLedger F) (taskId vehicleId : String)
    (capabilities : List VehicleCapability) (battery : Option F) (allow : Bool)
    (nowS : Option F) (clock : Nat → F)
    (accepted : strict → ∃ result,
      (ledger.assign taskId vehicleId capabilities battery allow nowS clock).2 = .ok result) :
    Path strict ledger
      (ledger.assign taskId vehicleId capabilities battery allow nowS clock).1 :=
  commit_path (fun _ => assignUpdate_writes) accepted

/-- Reassignment is a retry, an assignment and a decision, and stops at the first failure. -/
theorem reassign_path (strict : Prop) (ledger : TaskLedger F) (taskId vehicleId : String)
    (capabilities : List VehicleCapability) (battery : Option F) (reason : String)
    (nowS : Option F) (clock : Nat → F)
    (accepted : strict → ∃ result,
      (ledger.reassign taskId vehicleId capabilities battery reason nowS clock).2 = .ok result) :
    Path strict ledger
      (ledger.reassign taskId vehicleId capabilities battery reason nowS clock).1 := by
  have first := retry_path strict ledger taskId reason clock
  cases guarded : ledger.reassignGuard taskId with
  | error fault => simpa only [reassign, guarded] using Path.done
  | ok u =>
    rcases retried : ledger.retry taskId reason clock with ⟨afterRetry, fault | pending⟩
    · simp only [reassign, guarded, retried] at accepted first ⊢
      exact first accepted
    rw [retried] at first
    have first := first fun _ => ⟨pending, rfl⟩
    have second := assign_path strict afterRetry taskId vehicleId capabilities battery
      false nowS (fun i => clock (i + 1))
    rcases assigned : afterRetry.assign taskId vehicleId capabilities battery false nowS
      (fun i => clock (i + 1)) with ⟨afterAssign, fault | current⟩
    · simp only [reassign, guarded, retried, assigned] at accepted second ⊢
      exact first.trans (second accepted)
    rw [assigned] at second
    have second := second fun _ => ⟨current, rfl⟩
    simp only [reassign, guarded, retried, assigned] at accepted ⊢
    obtain ⟨found, state⟩ := assign_ok assigned
    exact (first.trans second).trans (.commit found (.decide state) accepted .done)

/-- Every call is a path of commits, and a call that returns is a strict one. -/
theorem perform_path (strict : Prop) (ledger : TaskLedger F) (op : Op F) (clock : Nat → F)
    (accepted : strict → ∃ result, (ledger.perform op clock).2 = .ok result) :
    Path strict ledger (ledger.perform op clock).1 := by
  cases op with
  | assign => exact assign_path _ _ _ _ _ _ _ _ _ accepted
  | start => exact commit_path (fun _ => startUpdate_writes) accepted
  | renew => exact commit_path (fun _ => renewUpdate_writes) accepted
  | updateProgress => exact commit_path (fun _ => progressUpdate_writes) accepted
  | pause =>
    refine commit_path (fun _ h => ?_) accepted
    obtain ⟨record, found, held, state, rfl⟩ := moveUpdate_eq_ok h
    exact ⟨record, found, .pause held state⟩
  | resume =>
    refine commit_path (fun _ h => ?_) accepted
    obtain ⟨record, found, held, state, rfl⟩ := moveUpdate_eq_ok h
    exact ⟨record, found, .resume held state⟩
  | retry => exact retry_path _ _ _ _ _ accepted
  | reassign => exact reassign_path _ _ _ _ _ _ _ _ _ accepted
  | transfer => exact commit_path (fun _ => transferUpdate_writes) accepted
  | complete => exact commit_path (fun _ => completeUpdate_writes) accepted
  | abort taskId reason =>
    simp only [perform, abort] at accepted ⊢
    split
    · exact .done
    next record found =>
      split
      · exact .done
      next unfinished =>
        rw [found] at accepted
        simp only [unfinished, if_false] at accepted
        exact .commit (record_eq_ok.mp found) (.abort unfinished) accepted .done

/-- What every accepted first emission preserves holds once all tasks are declared. -/
theorem declareAll_invariant {I : TaskLedger F → Prop} {clock : Nat → F}
    (preserved : ∀ ledger taskId record timestamp, I ledger →
      ledger.records.get? taskId = some record →
      (evidence ledger taskId "TASK_DECLARED" record none timestamp).create =
        .ok (evidence ledger taskId "TASK_DECLARED" record none timestamp) →
      I (ledger.written taskId { record with events :=
        record.events ++ [evidence ledger taskId "TASK_DECLARED" record none timestamp] })) :
    ∀ {taskIds : List String} {ledger next : TaskLedger F}, I ledger →
      declareAll clock taskIds ledger = .ok next → I next := by
  intro taskIds
  induction taskIds with
  | nil => intro ledger next held declared; cases declared; exact held
  | cons taskId rest ih =>
    intro ledger next held declared
    cases found : ledger.records.get? taskId with
    | none => simp [declareAll, emit, TaskLedger.record, found] at declared
    | some record =>
      rcases emit_cases "TASK_DECLARED" none (clock ledger.eventSequence) found
        with ⟨_, _, eq⟩ | ⟨created, eq⟩
      · simp [declareAll, eq] at declared
      · simp only [declareAll, eq] at declared
        exact ih (preserved ledger taskId record _ held found created) declared

theorem create_eq_ok {session run sha : String} {definitions : List (DeploymentTaskDefinition F)}
    {duration : F} {clock : Nat → F} {initial : TaskLedger F}
    (h : create session run sha definitions duration clock = .ok initial) :
    ∃ records taskIds, declareAll clock taskIds ⟨session, run, sha, duration, records, 0⟩ =
        .ok initial ∧
      (∀ taskId record, records.get? taskId = some record →
        record = TaskRecord.declare record.definition ∧ record.definition.taskId = taskId ∧
          record.definition ∈ definitions) ∧
      taskIds.length = definitions.length := by
  obtain ⟨_, _, h⟩ := bind_eq_ok.mp h
  obtain ⟨_, distinct, h⟩ := bind_eq_ok.mp h
  refine ⟨_, _, h, fun taskId record found => ?_, ?_⟩
  case refine_2 =>
    rw [(Sorting.sortBy_perm id _).length_eq]
    simpa [Dict.keys] using distinct
  refine Dict.get?_ofList (p := fun taskId record =>
    record = TaskRecord.declare record.definition ∧ record.definition.taskId = taskId ∧
      record.definition ∈ definitions) ?_ found
  intro item member
  obtain ⟨definition, listed, rfl⟩ := List.mem_map.mp member
  exact ⟨rfl, rfl, listed⟩

end CrazySwarm.TaskLedger
