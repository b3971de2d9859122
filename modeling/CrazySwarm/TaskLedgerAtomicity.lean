import CrazySwarm.TaskLedgerSteps

/-! When a call that raises leaves the ledger as it was. The record is stored before its evidence
is validated, and a reassignment commits three times, so a call is without effect when one of its
own checks refuses it and has one when only its evidence is refused. -/
namespace CrazySwarm.TaskLedger
open PyFloat

variable {F : Type} [PyFloat F]

def Atomic (ledger : TaskLedger F) (call : Call F) : Prop :=
  ∀ fault, (ledger.perform call.op call.clock).2 = .error fault → step ledger call = ledger

/-- The values of an event that an operation brings into it pass the checks of the event. -/
def announces (progressPercent : F) (reason childMissionRunId : Option String) (timestamp : F) : Bool :=
  ge timestamp zero && percentage progressPercent &&
    reason.all (fun text => text.length ≤ 500) && optionalIdentifier childMissionRunId

def assignable (ledger : TaskLedger F) (record : TaskRecord F) (taskId vehicleId : String)
    (capabilities : List VehicleCapability) (batteryPercent : Option F)
    (allowInadequateEnergy : Bool) (now : F) : Bool :=
  okWith (requireCapabilities record capabilities) (fun _ => true) &&
    okWith (requireEnergy record batteryPercent allowInadequateEnergy) (fun _ => true) &&
    okWith (ledger.issueLease taskId vehicleId (record.leaseGeneration + 1) now) fun _ => true

def reassignable (ledger : TaskLedger F) (record : TaskRecord F) (taskId vehicleId : String)
    (capabilities : List VehicleCapability) (batteryPercent : Option F) (reason : String)
    (nowS : Option F) (clock : Nat → F) : Bool :=
  announces record.progressPercent (some reason) none (clock 0) &&
    ledger.assignable record taskId vehicleId capabilities batteryPercent false (now nowS (clock 1)) &&
    announces record.progressPercent none none (clock 2) &&
    announces record.progressPercent (some reason) none (clock 3)

/-- The calls that write and then raise: their own checks pass and their evidence is refused, or
they are a reassignment that fails after its retry. -/
def tears (ledger : TaskLedger F) (call : Call F) : Bool :=
  let clock := call.clock
  let held (taskId vehicleId : String) (generation : Nat) (nowS : Option F)
      (torn : TaskRecord F → Bool) : Bool :=
    okWith (ledger.requireCurrentLease taskId vehicleId generation (now nowS (clock 0))) torn
  match call.op with
  | .assign taskId vehicleId capabilities battery allow nowS =>
    (ledger.records.get? taskId).any fun record => record.state ∈ [.declared, .retryPending] &&
      ledger.assignable record taskId vehicleId capabilities battery allow (now nowS (clock 0)) &&
      !announces record.progressPercent none record.childMissionRunId (clock 1)
  | .start taskId vehicleId child generation nowS =>
    held taskId vehicleId generation nowS fun record => record.state = .assigned &&
      !announces record.progressPercent none (some child) (clock 1)
  | .renew taskId vehicleId generation nowS =>
    held taskId vehicleId generation nowS fun record =>
      !announces record.progressPercent none record.childMissionRunId (clock 1)
  | .updateProgress taskId vehicleId generation progress nowS =>
    held taskId vehicleId generation nowS fun record => record.state = .inProgress &&
      !(lt progress record.progressPercent || lt (ofRat 100) progress) &&
      !announces progress none record.childMissionRunId (clock 1)
  | .pause taskId vehicleId generation reason nowS =>
    held taskId vehicleId generation nowS fun record => record.state = .inProgress &&
      !announces record.progressPercent (some reason) record.childMissionRunId (clock 1)
  | .resume taskId vehicleId generation nowS =>
    held taskId vehicleId generation nowS fun record => record.state = .paused &&
      !announces record.progressPercent none record.childMissionRunId (clock 1)
  | .retry taskId reason =>
    (ledger.records.get? taskId).any fun record =>
      record.state ∈ [.assigned, .inProgress, .paused] &&
      !announces record.progressPercent (some reason) none (clock 0)
  | .reassign taskId vehicleId capabilities battery reason nowS =>
    (ledger.records.get? taskId).any fun record =>
      record.state ∈ [.assigned, .inProgress, .paused] &&
      !ledger.reassignable record taskId vehicleId capabilities battery reason nowS clock
  | .transfer taskId outgoing incoming generation capabilities battery reason nowS =>
    outgoing ≠ incoming && held taskId outgoing generation nowS fun record =>
      record.state ∈ [.assigned, .inProgress, .paused] &&
      ledger.assignable record taskId incoming capabilities battery false (now nowS (clock 1)) &&
      !announces record.progressPercent (some reason) none (clock 2)
  | .complete taskId vehicleId generation reason nowS =>
    held taskId vehicleId generation nowS fun record => record.state = .inProgress &&
      !lt record.progressPercent record.definition.completionProgressPercent &&
      !announces record.progressPercent (some reason) record.childMissionRunId (clock 1)
  | .abort taskId reason =>
    (ledger.records.get? taskId).any fun record => record.state ∉ [.completed, .aborted] &&
      !announces record.progressPercent (some reason) record.childMissionRunId (clock 0)

/-- What the evidence of a task takes from the ledger is well formed. -/
structure Titled (ledger : TaskLedger F) (taskId : String) (owner : Option String) : Prop where
  session : isIdentifier ledger.fleetSessionId = true
  run : isIdentifier ledger.fleetRunId = true
  sha : isSha256 ledger.deploymentSha256 = true
  task : isIdentifier taskId = true
  owner : optionalIdentifier owner = true

/-- Every record is one whose evidence is well formed but for what a call brings into it. -/
def WellTitled (ledger : TaskLedger F) : Prop :=
  ∀ taskId record, ledger.records.get? taskId = some record →
    Titled ledger taskId record.ownerVehicleId

section Titles
variable {ledger next : TaskLedger F} {taskId : String} {record updated : TaskRecord F}

theorem evidence_create_iff {owner : Option String} (titled : Titled ledger taskId owner)
    (owned : record.ownerVehicleId = owner) {eventType : String}
    (typed : isIdentifier eventType = true) (reason : Option String) (timestamp : F) :
    (evidence ledger taskId eventType record reason timestamp).create =
        .ok (evidence ledger taskId eventType record reason timestamp) ↔
      announces record.progressPercent reason record.childMissionRunId timestamp = true := by
  subst owned
  simp only [TaskEvidenceEvent.create, validated_eq_ok, and_true, List.mem_cons, List.not_mem_nil,
    or_false, forall_eq_or_imp, forall_eq, evidence, titled.session, titled.run, titled.sha,
    titled.task, titled.owner, typed, announces, Bool.and_eq_true, true_and]
  have numbered : 1 ≤ ledger.eventSequence + 1 := by omega
  tauto

/-- A write keeps the owner well formed: a new one has passed the check of its lease. -/
theorem write_titled {reason : Option String} (titled : Titled ledger taskId record.ownerVehicleId)
    (write : Write ledger taskId record updated reason) :
    Titled ledger taskId updated.ownerVehicleId := by
  obtain ⟨session, run, sha, task, owner⟩ := titled
  cases write with
  | assign _ issued => exact ⟨session, run, sha, task, (issueLease_eq_ok issued).2.2⟩
  | transfer _ _ _ issued => exact ⟨session, run, sha, task, (issueLease_eq_ok issued).2.2⟩
  | retry => exact ⟨session, run, sha, task, rfl⟩
  | _ => exact ⟨session, run, sha, task, owner⟩

omit [PyFloat F] in
theorem written_wellTitled {stored : TaskRecord F} (wellTitled : WellTitled ledger)
    (titled : Titled ledger taskId stored.ownerVehicleId) : WellTitled (ledger.written taskId stored) := by
  intro other record found
  simp only [written, Dict.get?_insert] at found
  split at found
  · next same =>
    subst same
    cases found
    exact ⟨titled.session, titled.run, titled.sha, titled.task, titled.owner⟩
  · have held := wellTitled other record found
    exact ⟨held.session, held.run, held.sha, held.task, held.owner⟩

theorem path_wellTitled {strict : Prop} (path : Path strict ledger next)
    (wellTitled : WellTitled ledger) : WellTitled next := by
  induction path with
  | done => exact wellTitled
  | @commit ledger next record updated taskId eventType reason timestamp found write _ _ ih =>
    obtain ⟨events, stored⟩ := commit_state ledger taskId eventType updated reason timestamp
    have titled := write_titled (wellTitled taskId record found) write
    refine ih ?_
    rw [stored]
    exact written_wellTitled wellTitled titled

theorem step_wellTitled (wellTitled : WellTitled ledger) (call : Call F) :
    WellTitled (step ledger call) :=
  path_wellTitled (perform_path False ledger call.op call.clock False.elim) wellTitled

/-- A declared task has passed the checks of its first event. -/
theorem declareAll_titled {clock : Nat → F} {taskIds : List String}
    (declared : declareAll clock taskIds ledger = .ok next) :
    next.fleetSessionId = ledger.fleetSessionId ∧ next.fleetRunId = ledger.fleetRunId ∧
      next.deploymentSha256 = ledger.deploymentSha256 ∧
      (∀ taskId record, next.records.get? taskId = some record → ∃ old,
        ledger.records.get? taskId = some old ∧ record.ownerVehicleId = old.ownerVehicleId) ∧
      ∀ taskId ∈ taskIds, ∃ owner, Titled ledger taskId owner := by
  induction taskIds generalizing ledger with
  | nil =>
    cases declared
    exact ⟨rfl, rfl, rfl, fun taskId record found => ⟨record, found, rfl⟩, by simp⟩
  | cons taskId rest ih =>
    cases found : ledger.records.get? taskId with
    | none => simp [declareAll, emit, TaskLedger.record, found] at declared
    | some record =>
      rcases emit_cases "TASK_DECLARED" none (clock ledger.eventSequence) found
        with ⟨_, _, eq⟩ | ⟨created, eq⟩
      · simp [declareAll, eq] at declared
      simp only [declareAll, eq] at declared
      obtain ⟨session, run, sha, records, titled⟩ := ih declared
      refine ⟨session, run, sha, fun other stored lookup => ?_, fun other member => ?_⟩
      · obtain ⟨old, present, owner⟩ := records other stored lookup
        simp only [written, Dict.get?_insert] at present
        split at present
        · next same =>
          subst same
          cases present
          exact ⟨record, found, owner⟩
        · exact ⟨old, present, owner⟩
      · rcases List.mem_cons.mp member with rfl | later
        · have checked := (validated_eq_ok.mp created).1
          simp only [List.mem_cons, forall_eq_or_imp, evidence] at checked
          obtain ⟨session, run, sha, _, task, _, _, owner, _⟩ := checked
          exact ⟨_, session, run, sha, task, owner⟩
        · obtain ⟨owner, held⟩ := titled other later
          exact ⟨owner, held.session, held.run, held.sha, held.task, held.owner⟩

theorem create_wellTitled {session run sha : String}
    {definitions : List (DeploymentTaskDefinition F)} {duration : F} {clock : Nat → F}
    {initial : TaskLedger F}
    (created : create session run sha definitions duration clock = .ok initial) :
    WellTitled initial := by
  obtain ⟨_, _, h⟩ := bind_eq_ok.mp created
  obtain ⟨_, _, h⟩ := bind_eq_ok.mp h
  obtain ⟨_, _, _, undeclared, _⟩ := create_eq_ok created
  obtain ⟨session, run, sha, records, titled⟩ := declareAll_titled h
  intro taskId record found
  obtain ⟨old, present, owner⟩ := records taskId record found
  have listed := (Sorting.mem_sortBy id).mpr ((Dict.mem_keys_iff _ taskId).mpr ⟨old, present⟩)
  obtain ⟨_, held⟩ := titled taskId listed
  have unowned : old.ownerVehicleId = none := by
    refine Dict.get?_ofList (p := fun _ record => record.ownerVehicleId = none) ?_ present
    intro item member
    obtain ⟨definition, _, rfl⟩ := List.mem_map.mp member
    rfl
  rw [owner, unowned]
  exact ⟨session ▸ held.session, run ▸ held.run, sha ▸ held.sha, held.task, rfl⟩

end Titles

section Commits
variable {ledger : TaskLedger F} {taskId vehicleId eventType : String} {reason : Option String}
  {timestamp : F} {base : TaskRecord F}

theorem commit_grows (ledger : TaskLedger F) (taskId eventType : String) (base : TaskRecord F)
    (reason : Option String) (timestamp : F) :
    (ledger.commit taskId (.ok base) eventType reason timestamp).1.eventSequence =
      ledger.eventSequence + 1 := by
  obtain ⟨events, stored⟩ := commit_state ledger taskId eventType base reason timestamp
  rw [stored]
  rfl

/-- A commit raises exactly when its evidence is refused, and then the record is stored. -/
theorem commit_raises_iff (reason : Option String) (timestamp : F)
    (titled : Titled ledger taskId base.ownerVehicleId) (typed : isIdentifier eventType = true) :
    (∃ fault, (ledger.commit taskId (.ok base) eventType reason timestamp).2 = .error fault) ↔
      announces base.progressPercent reason base.childMissionRunId timestamp = false := by
  have accepted := evidence_create_iff titled rfl typed reason timestamp
  rcases commit_cases ledger taskId eventType base reason timestamp
    with ⟨fault, refused, eq⟩ | ⟨created, eq⟩
  · rw [eq]
    refine iff_of_true ⟨fault, rfl⟩ ?_
    by_contra announced
    rw [accepted.mpr (Bool.eq_true_of_not_eq_false announced)] at refused
    cases refused
  · rw [eq, accepted.mp created]
    simp

/-- An operation that commits once is without effect when it raises exactly when it has nothing to
commit or what it commits is announced. -/
theorem commit_atomic_iff {update : Except (Fault F) (TaskRecord F)}
    (wellTitled : WellTitled ledger) (typed : isIdentifier eventType = true)
    (writes : ∀ updated, update = .ok updated → ∃ record,
      ledger.records.get? taskId = some record ∧ Write ledger taskId record updated reason) :
    (∀ fault, (ledger.commit taskId update eventType reason timestamp).2 = .error fault →
        (ledger.commit taskId update eventType reason timestamp).1 = ledger) ↔
      ∀ base, update = .ok base →
        announces base.progressPercent reason base.childMissionRunId timestamp = true := by
  cases computed : update with
  | error fault => simp [commit]
  | ok base =>
    obtain ⟨record, found, write⟩ := writes base computed
    have titled := write_titled (wellTitled taskId record found) write
    have raises := commit_raises_iff reason timestamp titled typed
    have grows := commit_grows ledger taskId eventType base reason timestamp
    constructor
    · rintro atomic _ ⟨⟩
      by_contra refused
      obtain ⟨fault, raised⟩ := raises.mpr (Bool.eq_false_iff.mpr refused)
      rw [atomic fault raised] at grows
      omega
    · intro announced fault raised
      have refused := raises.mp ⟨fault, raised⟩
      rw [announced base rfl] at refused
      cases refused

theorem forall_held_iff {generation : Nat} {now : F} {check : TaskRecord F → Except (Fault F) (TaskRecord F)}
    {told : TaskRecord F → Bool} {torn : TaskRecord F → Bool}
    (checked : ∀ record, (∀ base, check record = .ok base → told base = true) ↔ torn record = false) :
    (∀ base, (ledger.requireCurrentLease taskId vehicleId generation now >>= check) = .ok base →
        told base = true) ↔
      okWith (ledger.requireCurrentLease taskId vehicleId generation now) torn = false := by
  cases ledger.requireCurrentLease taskId vehicleId generation now with
  | error fault => simp [bind, Except.bind, okWith]
  | ok record => exact checked record

omit [PyFloat F] in
theorem forall_bind_iff {α β : Type} {check : Except (Fault F) α} {rest : α → Except (Fault F) β}
    {P : β → Prop} :
    (∀ result, (check >>= rest) = .ok result → P result) ↔
      ∀ value, check = .ok value → ∀ result, rest value = .ok result → P result := by
  constructor
  · intro all value passed result computed
    exact all result (bind_eq_ok.mpr ⟨value, passed, computed⟩)
  · intro all result computed
    obtain ⟨value, passed, rest⟩ := bind_eq_ok.mp computed
    exact all value passed result rest

omit [PyFloat F] in
theorem okWith_iff {α : Type} {check : Except (Fault F) α} {test : α → Bool} :
    okWith check test = true ↔ ∃ value, check = .ok value ∧ test value = true := by
  cases check <;> simp [okWith]

omit [PyFloat F] in
theorem any_eq_false_iff {held : Option (TaskRecord F)} {test : TaskRecord F → Bool} :
    held.any test = false ↔ ∀ record, held = some record → test record = false := by
  cases held <;> simp

theorem assignable_told_iff {states : List TaskState} {capabilities : List VehicleCapability}
    {battery : Option F} {allow told : Bool} {now : F} {record : TaskRecord F} :
    (record.state ∈ states → ∀ capable, requireCapabilities record capabilities = .ok capable →
      ∀ charged, requireEnergy record battery allow = .ok charged →
      ∀ lease, ledger.issueLease taskId vehicleId (record.leaseGeneration + 1) now = .ok lease →
        told = true) ↔
      (record.state ∈ states &&
        ledger.assignable record taskId vehicleId capabilities battery allow now && !told) = false := by
  constructor
  · intro all
    by_contra torn
    simp only [Bool.not_eq_false, Bool.and_eq_true, assignable, okWith_iff, and_true,
      Bool.not_eq_true', decide_eq_true_eq] at torn
    obtain ⟨⟨available, ⟨⟨_, capable⟩, _, charged⟩, _, issued⟩, refused⟩ := torn
    rw [all available _ capable _ charged _ issued] at refused
    cases refused
  · intro whole available _ capable _ charged _ issued
    simpa [assignable, available, okWith, capable, charged, issued] using whole

theorem assignUpdate_told_iff (ledger : TaskLedger F) (taskId vehicleId : String)
    (capabilities : List VehicleCapability) (battery : Option F) (allow : Bool) (now : F)
    (told : F → Option String → Bool) :
    (∀ base, ledger.assignUpdate taskId vehicleId capabilities battery allow now = .ok base →
        told base.progressPercent base.childMissionRunId = true) ↔
      ((ledger.records.get? taskId).any fun record => record.state ∈ [.declared, .retryPending] &&
        ledger.assignable record taskId vehicleId capabilities battery allow now &&
        !told record.progressPercent record.childMissionRunId) = false := by
  simp only [assignUpdate, forall_bind_iff, record_eq_ok, requireState_eq_ok,
    Except.ok.injEq, forall_eq', forall_const, any_eq_false_iff]
  exact forall₂_congr fun record _ => assignable_told_iff

theorem transferUpdate_told_iff {outgoing incoming reason : String} {generation : Nat}
    {capabilities : List VehicleCapability} {battery : Option F} {checkedAt now : F}
    (told : F → Option String → Bool) :
    (∀ base, ledger.transferUpdate taskId outgoing incoming generation capabilities battery reason
        checkedAt now = .ok base → told base.progressPercent base.childMissionRunId = true) ↔
      (outgoing ≠ incoming && okWith (ledger.requireCurrentLease taskId outgoing generation checkedAt)
        fun record => record.state ∈ [.assigned, .inProgress, .paused] &&
          ledger.assignable record taskId incoming capabilities battery false now &&
          !told record.progressPercent none) = false := by
  by_cases same : outgoing = incoming
  · simp [transferUpdate, same, forall_bind_iff]
  · simp only [transferUpdate, validateAssignmentEnergyAndCapability, same, forall_bind_iff,
      require_eq_ok, requireState_eq_ok, Except.ok.injEq, forall_eq', ne_eq, not_false_eq_true,
      decide_true, forall_const, Bool.true_and]
    cases ledger.requireCurrentLease taskId outgoing generation checkedAt with
    | error fault => simp [okWith]
    | ok record => simp only [Except.ok.injEq, forall_eq', okWith, ← assignable_told_iff]

omit [PyFloat F] in
theorem retryUpdate_told_iff {reason : String} (told : F → Option String → Bool) :
    (∀ base, ledger.retryUpdate taskId reason = .ok base →
        told base.progressPercent base.childMissionRunId = true) ↔
      ((ledger.records.get? taskId).any fun record =>
        record.state ∈ [.assigned, .inProgress, .paused] && !told record.progressPercent none) =
          false := by
  simp only [retryUpdate, forall_bind_iff, record_eq_ok, requireState_eq_ok, Except.ok.injEq,
    forall_eq', any_eq_false_iff]
  simp

end Commits

section Reassignment
variable {ledger : TaskLedger F} {taskId vehicleId eventType : String} {reason : Option String}
  {timestamp : F} {record : TaskRecord F}

/-- A commit returns exactly when its evidence is announced. -/
theorem commit_told (base : TaskRecord F) (reason : Option String) (timestamp : F)
    (titled : Titled ledger taskId base.ownerVehicleId) (typed : isIdentifier eventType = true) :
    (announces base.progressPercent reason base.childMissionRunId timestamp = true ∧
      ∃ stored events, stored = { base with events := events } ∧
        ledger.commit taskId (.ok base) eventType reason timestamp =
          (ledger.written taskId stored, .ok stored)) ∨
    (announces base.progressPercent reason base.childMissionRunId timestamp = false ∧
      ∃ fault, ledger.commit taskId (.ok base) eventType reason timestamp =
        (ledger.written taskId base, .error fault)) := by
  have raises := commit_raises_iff reason timestamp titled typed
  rcases commit_cases ledger taskId eventType base reason timestamp
    with ⟨fault, _, eq⟩ | ⟨_, eq⟩
  · exact .inr ⟨raises.mp ⟨fault, by rw [eq]⟩, fault, eq⟩
  · refine .inl ⟨?_, _, _, rfl, eq⟩
    by_contra refused
    obtain ⟨fault, raised⟩ := raises.mpr (Bool.eq_false_iff.mpr refused)
    rw [eq] at raised
    cases raised

/-- A call that raises after it spent a sequence number is not without effect. -/
theorem not_atomic_of_spent {call : Call F} (next : TaskLedger F) (fault : Fault F)
    (performed : ledger.perform call.op call.clock = (next, .error fault))
    (spent : ledger.eventSequence < next.eventSequence) : ¬Atomic ledger call := by
  intro atomic
  have same : next = ledger := by
    simpa only [step, performed] using atomic fault (by rw [performed])
  rw [same] at spent
  omega

def retriedRecord (record : TaskRecord F) (reason : String) : TaskRecord F :=
  { record with
    state := .retryPending, ownerVehicleId := none, lease := none
    decision := some .retry, terminalReason := some reason, childMissionRunId := none }

def assignedRecord (record : TaskRecord F) (vehicleId : String) (lease : TaskLease F) : TaskRecord F :=
  { record with
    state := .assigned, ownerVehicleId := some vehicleId, lease := some lease
    leaseGeneration := record.leaseGeneration + 1, attempts := record.attempts + 1
    decision := none, terminalReason := none }

theorem assignUpdate_cases (vehicleId : String) (capabilities : List VehicleCapability)
    (battery : Option F) (allow : Bool) (now : F) (found : ledger.records.get? taskId = some record)
    (available : record.state ∈ [.declared, .retryPending]) :
    (ledger.assignable record taskId vehicleId capabilities battery allow now = true ∧
      isIdentifier vehicleId = true ∧ ∃ lease,
        ledger.assignUpdate taskId vehicleId capabilities battery allow now =
          .ok (assignedRecord record vehicleId lease)) ∨
    (ledger.assignable record taskId vehicleId capabilities battery allow now = false ∧ ∃ fault,
      ledger.assignUpdate taskId vehicleId capabilities battery allow now = .error fault) := by
  have told : (∃ base, ledger.assignUpdate taskId vehicleId capabilities battery allow now =
      .ok base) ↔ ledger.assignable record taskId vehicleId capabilities battery allow now = true := by
    have none := (assignUpdate_told_iff ledger taskId vehicleId capabilities battery allow now
      fun _ _ => false).not
    simpa only [found, Option.any_some, available, decide_true, Bool.true_and, Bool.not_false,
      Bool.and_true, Bool.not_eq_false, Bool.false_eq_true, imp_false, not_forall, not_not] using none
  cases computed : ledger.assignUpdate taskId vehicleId capabilities battery allow now with
  | error fault => exact .inr ⟨by simpa [computed] using told, fault, rfl⟩
  | ok base =>
    obtain ⟨other, lease, lookup, _, issued, rfl⟩ := assignUpdate_eq_ok computed
    cases found.symm.trans lookup
    exact .inl ⟨told.mp ⟨_, computed⟩, (issueLease_eq_ok issued).2.2, lease, rfl⟩

/-- A reassignment of a held task is without effect when it raises exactly when it cannot raise. -/
theorem reassign_atomic_iff {capabilities : List VehicleCapability} {battery nowS : Option F}
    {reason : String} {clock : Nat → F} (wellTitled : WellTitled ledger)
    (found : ledger.records.get? taskId = some record)
    (held : record.state ∈ [.assigned, .inProgress, .paused]) :
    Atomic ledger ⟨.reassign taskId vehicleId capabilities battery reason nowS, clock⟩ ↔
      ledger.reassignable record taskId vehicleId capabilities battery reason nowS clock = true := by
  have guarded : ledger.reassignGuard taskId = .ok () := by
    have unfinished : record.state ∉ [.completed, .aborted, .declared] := by
      intro closed
      simp only [List.mem_cons, List.not_mem_nil, or_false] at held closed
      rcases held with same | same | same <;> rw [same] at closed <;> simp at closed
    simp [reassignGuard, TaskLedger.record, found, bind, Except.bind, require, unfinished]
  have pending : ledger.retryUpdate taskId reason = .ok (retriedRecord record reason) := by
    simp [retryUpdate, TaskLedger.record, found, bind, Except.bind, requireState, require, held,
      retriedRecord]
  obtain ⟨session, run, sha, task, _⟩ := wellTitled taskId record found
  have performed : ledger.perform (.reassign taskId vehicleId capabilities battery reason nowS) clock =
      ledger.reassign taskId vehicleId capabilities battery reason nowS clock := rfl
  rcases commit_told (retriedRecord record reason) (some reason) (clock 0)
      ⟨session, run, sha, task, rfl⟩ (by decide : isIdentifier "TASK_RETRY_PENDING" = true)
    with ⟨first, stored, _, same, retried⟩ | ⟨refused, fault, retried⟩
  case inr =>
    have silent : announces record.progressPercent (some reason) none (clock 0) = false := refused
    refine iff_of_false (not_atomic_of_spent (ledger.written taskId (retriedRecord record reason))
      fault ?_ (by simp [written])) ?_
    · simp only [performed, reassign, guarded, retry, pending, retried]
    · simp [reassignable, silent]
  -- what the assignment checks is what it would have checked before the retry
  have found' : (ledger.written taskId stored).records.get? taskId = some stored := by simp [written]
  have unchanged : (ledger.written taskId stored).assignable stored taskId vehicleId capabilities battery
      false (now nowS (clock 1)) = ledger.assignable record taskId vehicleId capabilities battery
        false (now nowS (clock 1)) := by
    rw [same]
    rfl
  have progress : stored.progressPercent = record.progressPercent := by rw [same]; rfl
  have child : stored.childMissionRunId = none := by rw [same]; rfl
  rcases assignUpdate_cases vehicleId capabilities battery false (now nowS (clock 1)) found'
      (by rw [same]; simp [retriedRecord])
    with ⟨second, named, lease, assigned⟩ | ⟨refused, fault, assigned⟩
  case inr =>
    refine iff_of_false (not_atomic_of_spent (ledger.written taskId stored) fault ?_
      (by simp [written])) ?_
    · have unassigned : (ledger.written taskId stored).assign taskId vehicleId capabilities battery false
          nowS (fun i => clock (i + 1)) = (ledger.written taskId stored, .error fault) := by
        simp only [assign, assigned, commit]
      simp only [performed, reassign, guarded, retry, pending, retried, unassigned]
    · rw [unchanged] at refused
      simp [reassignable, refused]
  rw [unchanged] at second
  have assignedTitled : Titled (ledger.written taskId stored) taskId (some vehicleId) :=
    ⟨session, run, sha, task, named⟩
  rcases commit_told (assignedRecord stored vehicleId lease) none (clock 2) assignedTitled
      (by decide : isIdentifier "TASK_ASSIGNED" = true)
    with ⟨third, owned, _, same', filed⟩ | ⟨refused, fault, filed⟩
  case inr =>
    have silent : announces record.progressPercent none none (clock 2) = false := by
      simpa only [assignedRecord, progress, child] using refused
    refine iff_of_false (not_atomic_of_spent
      ((ledger.written taskId stored).written taskId (assignedRecord stored vehicleId lease)) fault ?_
      (by simp only [written]; omega)) ?_
    · simp only [performed, reassign, guarded, retry, pending, retried, assign, assigned, filed]
    · simp [reassignable, silent]
  have announced : announces record.progressPercent none none (clock 2) = true := by
    simpa only [assignedRecord, progress, child] using third
  have decidable : Titled ((ledger.written taskId stored).written taskId owned) taskId
      { owned with decision := some .reassign }.ownerVehicleId := by
    rw [same']
    exact ⟨session, run, sha, task, named⟩
  have kept : owned.progressPercent = record.progressPercent ∧ owned.childMissionRunId = none := by
    rw [same']
    exact ⟨progress, child⟩
  rcases commit_told { owned with decision := some .reassign } (some reason) (clock 3) decidable
      (by decide : isIdentifier "TASK_REASSIGNED" = true)
    with ⟨fourth, final, _, _, decided⟩ | ⟨refused, fault, decided⟩
  case inr =>
    have silent : announces record.progressPercent (some reason) none (clock 3) = false := by
      simpa only [kept] using refused
    refine iff_of_false (not_atomic_of_spent (((ledger.written taskId stored).written taskId
      owned).written taskId { owned with decision := some .reassign }) fault ?_
      (by simp only [written]; omega)) ?_
    · simp only [performed, reassign, guarded, retry, pending, retried, assign, assigned, filed, decided]
    · simp [reassignable, silent]
  refine iff_of_true (fun fault raised => ?_) ?_
  · simp only [performed, reassign, guarded, retry, pending, retried, assign, assigned, filed,
      decided] at raised
    cases raised
  · have told : announces record.progressPercent (some reason) none (clock 3) = true := by
      simpa only [kept] using fourth
    have begun : announces record.progressPercent (some reason) none (clock 0) = true := first
    simp [reassignable, begun, second, announced, told]

/-- A reassignment of a task that is not held raises before it writes. -/
theorem reassign_unheld_atomic {capabilities : List VehicleCapability} {battery nowS : Option F}
    {reason : String} {clock : Nat → F} (found : ledger.records.get? taskId = some record)
    (unheld : record.state ∉ [.assigned, .inProgress, .paused]) :
    Atomic ledger ⟨.reassign taskId vehicleId capabilities battery reason nowS, clock⟩ := by
  have looked := record_eq_ok.mpr found
  intro fault raised
  simp only [step, perform, reassign]
  cases guarded : ledger.reassignGuard taskId with
  | error fault => rfl
  | ok _ =>
    have refused : ledger.retryUpdate taskId reason =
        .error (.crazySwarm .invalidState "task cannot enter retry" .none) := by
      simp [retryUpdate, looked, bind, Except.bind, requireState, require, unheld]
    simp only [retry, refused, commit]

end Reassignment

section Calls
variable {ledger : TaskLedger F}

/-- A call that raises leaves the ledger as it was exactly when it is not one that tears. -/
theorem atomic_iff (wellTitled : WellTitled ledger) (op : Op F) (clock : Nat → F) :
    Atomic ledger ⟨op, clock⟩ ↔ tears ledger ⟨op, clock⟩ = false := by
  cases op with
  | assign taskId vehicleId capabilities battery allow nowS =>
    exact (commit_atomic_iff wellTitled (by decide) fun _ => assignUpdate_writes).trans
      (assignUpdate_told_iff ledger taskId vehicleId capabilities battery allow (now nowS (clock 0))
        fun progress child => announces progress none child (clock 1))
  | start taskId vehicleId child generation nowS =>
    refine (commit_atomic_iff wellTitled (by decide) fun _ => startUpdate_writes).trans ?_
    exact forall_held_iff fun record => by simp [forall_bind_iff, requireState]
  | renew taskId vehicleId generation nowS =>
    refine (commit_atomic_iff wellTitled (by decide) fun _ => renewUpdate_writes).trans ?_
    exact forall_held_iff fun record => by simp
  | updateProgress taskId vehicleId generation progress nowS =>
    refine (commit_atomic_iff wellTitled (by decide) fun _ => progressUpdate_writes).trans ?_
    exact forall_held_iff fun record => by simp [forall_bind_iff, requireState]
  | pause taskId vehicleId generation reason nowS =>
    refine (commit_atomic_iff wellTitled (by decide) fun _ h => ?_).trans ?_
    · obtain ⟨record, found, held, state, rfl⟩ := moveUpdate_eq_ok h
      exact ⟨record, found, .pause held state⟩
    · exact forall_held_iff fun record => by simp [forall_bind_iff, requireState]
  | resume taskId vehicleId generation nowS =>
    refine (commit_atomic_iff wellTitled (by decide) fun _ h => ?_).trans ?_
    · obtain ⟨record, found, held, state, rfl⟩ := moveUpdate_eq_ok h
      exact ⟨record, found, .resume held state⟩
    · exact forall_held_iff fun record => by simp [forall_bind_iff, requireState]
  | retry taskId reason =>
    exact (commit_atomic_iff wellTitled (by decide) fun _ => retryUpdate_writes).trans
      (retryUpdate_told_iff fun progress child => announces progress (some reason) child (clock 0))
  | reassign taskId vehicleId capabilities battery reason nowS =>
    simp only [tears, any_eq_false_iff]
    cases found : ledger.records.get? taskId with
    | none =>
      simp [Atomic, step, perform, reassign, reassignGuard, TaskLedger.record, found, bind, Except.bind]
    | some record =>
      by_cases held : record.state ∈ [.assigned, .inProgress, .paused]
      · rw [reassign_atomic_iff wellTitled found held]
        simp only [Option.some.injEq, forall_eq', held, decide_true, Bool.true_and,
          Bool.not_eq_false']
      · simp only [Option.some.injEq, forall_eq', held, decide_false, Bool.false_and, iff_true]
        exact reassign_unheld_atomic found held
  | transfer taskId outgoing incoming generation capabilities battery reason nowS =>
    exact (commit_atomic_iff wellTitled (by decide) fun _ => transferUpdate_writes).trans
      (transferUpdate_told_iff fun progress child => announces progress (some reason) child (clock 2))
  | complete taskId vehicleId generation reason nowS =>
    refine (commit_atomic_iff wellTitled (by decide) fun _ => completeUpdate_writes).trans ?_
    exact forall_held_iff fun record => by simp [forall_bind_iff, requireState]
  | abort taskId reason =>
    simp only [tears, any_eq_false_iff]
    cases found : ledger.records.get? taskId with
    | none => simp [Atomic, step, perform, abort, TaskLedger.record, found]
    | some record =>
      have looked := record_eq_ok.mpr found
      by_cases finished : record.state ∈ [.completed, .aborted]
      · simp only [Option.some.injEq, forall_eq', finished, not_true, decide_false, Bool.false_and,
          iff_true]
        simp [Atomic, perform, abort, looked, finished]
      · have performed : ledger.perform (.abort taskId reason) clock =
            ledger.commit taskId (.ok { record with
              state := .aborted, lease := none, decision := some .abort, terminalReason := some reason })
              "TASK_ABORTED" (some reason) (clock 0) := by
          simp [perform, abort, looked, finished]
        unfold Atomic step
        rw [performed]
        refine (commit_atomic_iff wellTitled (by decide) fun updated computed => ?_).trans ?_
        · cases computed
          exact ⟨record, found, .abort finished⟩
        simp only [Option.some.injEq, forall_eq', finished, not_false_eq_true, decide_true,
          Bool.true_and, Except.ok.injEq, Bool.not_eq_false']

end Calls

end CrazySwarm.TaskLedger
