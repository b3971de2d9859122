import CrazySwarm.PersistentCoverage
import CrazySwarm.TaskLedgerSteps

/-! What one coordinator call can do. A call files at most one handover, and only the initial
allocation and a takeover reach the task ledger. -/
namespace CrazySwarm.PersistentCoverage
open PyFloat

variable {F : Type} [PyFloat F]

/-- Both stores are as before; sequence numbers and observations may have moved. -/
structure Quiet (coordinator next : PersistentCoverage F) : Prop where
  deployment : next.deployment = coordinator.deployment
  tasks : next.tasks = coordinator.tasks
  handovers : next.handovers = coordinator.handovers

structure Filed (coordinator next : PersistentCoverage F) (key : String)
    (record : HandoverRecord F) : Prop where
  deployment : next.deployment = coordinator.deployment
  tasks : next.tasks = coordinator.tasks
  handovers : next.handovers = coordinator.handovers.insert key record

/-- What the fields of a handover's event are checked for. -/
structure Announceable (record : HandoverRecord F) (timestamp : F) : Prop where
  handover : isIdentifier record.handoverId = true
  task : isIdentifier record.taskId = true
  timestamp : ge timestamp zero = true
  outgoing : isIdentifier record.outgoingVehicleId = true
  incoming : optionalIdentifier record.incomingVehicleId = true
  generation : 1 ≤ record.eventLeaseGeneration

def spent (coordinator : PersistentCoverage F) : PersistentCoverage F :=
  { coordinator with handoverSequence := coordinator.handoverSequence + 1 }

theorem event_cases (coordinator : PersistentCoverage F) (record : HandoverRecord F)
    (phase : HandoverPhase) (reason : String) (timestamp : F) :
    (¬ Announceable record timestamp ∧ ∃ fault,
      coordinator.event record phase reason timestamp = (coordinator.spent, .error fault)) ∨
    (Announceable record timestamp ∧ ∃ event,
      coordinator.event record phase reason timestamp =
        (coordinator.spent, .ok { record with phase := phase, events := record.events ++ [event] })) := by
  cases created : HandoverEvent.create (F := F) {
      sequence := coordinator.handoverSequence + 1
      handoverId := record.handoverId
      taskId := record.taskId
      phase := phase
      timestampMonotonicS := timestamp
      outgoingVehicleId := record.outgoingVehicleId
      incomingVehicleId := record.incomingVehicleId
      leaseGeneration := record.eventLeaseGeneration
      reason := reason } with
  | error fault =>
    refine .inl ⟨fun announceable => ?_, fault, by simp [event, spent, created, Except.map]⟩
    obtain ⟨handover, task, time, outgoing, incoming, generation⟩ := announceable
    simp [HandoverEvent.create, validated, handover, task, time, outgoing, incoming,
      generation] at created
  | ok event =>
    have checked := (validated_eq_ok.mp created).1
    simp only [List.mem_cons, forall_eq_or_imp, decide_eq_true_eq] at checked
    obtain ⟨_, handover, task, time, outgoing, incoming, generation, _⟩ := checked
    exact .inr ⟨⟨handover, task, time, outgoing, incoming, generation⟩, event,
      by simp [PersistentCoverage.event, spent, created, Except.map]⟩

section Selection
variable {taskId : String} {decision : AllocationDecision F}

theorem score_eq_ok {definition : DeploymentTaskDefinition F} {zone : ZoneDefinition F}
    {allow : Bool} {candidate : CoverageCandidate F}
    (h : score definition zone allow candidate = .ok (some decision)) :
    decision.vehicleId = candidate.vehicleId ∧ isIdentifier decision.vehicleId = true := by
  unfold score at h
  simp only at h
  split at h
  · cases h
  · split at h
    · cases h
    · obtain ⟨created, h, same⟩ := map_eq_ok.mp h
      obtain ⟨checked, rfl⟩ := validated_eq_ok.mp h
      cases same
      exact ⟨rfl, checked ("vehicle_id", isIdentifier candidate.vehicleId) (by simp)⟩

theorem decisions_eq_ok {definition : DeploymentTaskDefinition F} {zone : ZoneDefinition F}
    {allow : Bool} {candidates : List (CoverageCandidate F)} {found : List (AllocationDecision F)}
    (h : decisions definition zone allow candidates = .ok found) (member : decision ∈ found) :
    (∃ candidate ∈ candidates, candidate.vehicleId = decision.vehicleId) ∧
      isIdentifier decision.vehicleId = true := by
  induction candidates generalizing found with
  | nil => cases h; simp at member
  | cons candidate rest ih =>
    obtain ⟨first, scored, h⟩ := bind_eq_ok.mp h
    obtain ⟨later, listed, h⟩ := bind_eq_ok.mp h
    cases h
    rcases List.mem_append.mp member with here | there
    · cases Option.mem_toList.mp here
      obtain ⟨same, identifier⟩ := score_eq_ok scored
      exact ⟨⟨candidate, by simp, same.symm⟩, identifier⟩
    · obtain ⟨⟨other, among, same⟩, identifier⟩ := ih listed there
      exact ⟨⟨other, List.mem_cons_of_mem _ among, same⟩, identifier⟩

theorem select_eq_ok {coordinator : PersistentCoverage F}
    {candidates : List (CoverageCandidate F)} {allow : Bool}
    (h : coordinator.select taskId candidates allow = .ok decision) :
    (∃ candidate ∈ candidates, candidate.vehicleId = decision.vehicleId) ∧
      isIdentifier decision.vehicleId = true := by
  obtain ⟨task, _, h⟩ := bind_eq_ok.mp h
  split at h
  · cases h
  · next zone _ =>
    obtain ⟨found, listed, h⟩ := bind_eq_ok.mp h
    split at h
    · cases h
    · next first rest =>
      cases h
      exact decisions_eq_ok listed (Sorting.leastBy_mem _ first rest)

end Selection

/-- What a later phase of a handover keeps of its record. -/
structure SameHandover (record updated : HandoverRecord F) : Prop where
  handoverId : updated.handoverId = record.handoverId
  taskId : updated.taskId = record.taskId
  outgoingVehicleId : updated.outgoingVehicleId = record.outgoingVehicleId
  incomingVehicleId : updated.incomingVehicleId = record.incomingVehicleId
  requestedAt : updated.requestedAtMonotonicS = record.requestedAtMonotonicS
  reason : updated.reason = record.reason

structure Successor (record updated : HandoverRecord F) : Prop extends
    SameHandover record updated where
  confirmed : updated.takeoverConfirmed = record.takeoverConfirmed
  closed : record.active = false → updated.active = false
  waiting : updated.phase ∈ [.preparing, .takeoverPending] →
    record.phase ∈ [.preparing, .takeoverPending]

/-- A freshly begun handover: degraded without a replacement, or preparing a reserve that owns
no task and is not the replacement of another handover. -/
structure Begun (coordinator : PersistentCoverage F) (task : TaskRecord F)
    (taskId owner reason : String) (timestamp : F) (record : HandoverRecord F) : Prop where
  named : Announceable record timestamp
  handoverId : record.handoverId = handoverId taskId (task.leaseGeneration + 1)
  taskId : record.taskId = taskId
  unconfirmed : record.takeoverConfirmed = false
  placed : record.phase = .degraded ∨
    ∃ vehicleId, record.incomingVehicleId = some vehicleId ∧ isIdentifier vehicleId = true ∧
      vehicleId ∉ coordinator.currentOwners ∧
      some vehicleId ∉ coordinator.reservedForOtherHandover

omit [PyFloat F] in
theorem beginGuard_eq_ok {coordinator : PersistentCoverage F} {taskId owner : String}
    {task : TaskRecord F} (h : coordinator.beginGuard taskId = .ok (task, owner)) :
    coordinator.tasks.records.get? taskId = some task ∧ task.ownerVehicleId = some owner ∧
      ∀ key record, coordinator.handovers.get? key = some record → record.active = true →
        record.taskId ≠ taskId := by
  obtain ⟨found, lookup, h⟩ := bind_eq_ok.mp h
  split at h
  · next owned _ =>
    obtain ⟨_, unused, h⟩ := bind_eq_ok.mp h
    cases h
    refine ⟨TaskLedger.record_eq_ok.mp lookup, owned, fun key record filed active same => ?_⟩
    have listed := (Dict.mem_values_iff _ record).mpr ⟨key, filed⟩
    simp only [require_eq_ok, Bool.not_eq_true', List.any_eq_false, Bool.and_eq_true,
      decide_eq_true_eq] at unused
    exact unused record listed ⟨same, active⟩
  · cases h

theorem event_eq (coordinator : PersistentCoverage F) (record : HandoverRecord F) {timestamp : F}
    (announceable : Announceable record timestamp) (phase : HandoverPhase) (reason : String) :
    ∃ event, coordinator.event record phase reason timestamp =
      (coordinator.spent, .ok { record with phase := phase, events := record.events ++ [event] }) := by
  rcases event_cases coordinator record phase reason timestamp with ⟨rejected, _⟩ | ⟨_, eq⟩
  · exact absurd announceable rejected
  · exact eq

theorem request_announceable {task : TaskRecord F} {taskId owner reason : String} {timestamp : F}
    {record : HandoverRecord F} (h : (request task taskId owner reason timestamp).create = .ok record) :
    record = request task taskId owner reason timestamp ∧ Announceable record timestamp := by
  obtain ⟨checked, rfl⟩ := validated_eq_ok.mp h
  simp only [List.mem_cons, forall_eq_or_imp, decide_eq_true_eq] at checked
  obtain ⟨handover, task, outgoing, generation, requested, _⟩ := checked
  exact ⟨rfl, handover, task, requested, outgoing, rfl, generation⟩

/-- Nothing but the application's own error is raised. -/
def handled (result : Except (Fault F) α) : Bool :=
  match result with
  | .ok _ | .error (.crazySwarm _ _ _) => true
  | .error _ => false

/-- The checks of `begin_handover` pass, and a failed selection of a reserve is handled. -/
def accepts (coordinator : PersistentCoverage F) (taskId reason : String)
    (candidates : List (CoverageCandidate F)) (timestamp : F) : Bool :=
  okWith (coordinator.beginGuard taskId) fun (task, owner) =>
    okWith (request task taskId owner reason timestamp).create (fun _ => true) &&
      handled (coordinator.select taskId (coordinator.eligibleReserve candidates) false)

inductive Begins (coordinator : PersistentCoverage F) (taskId reason : String)
    (candidates : List (CoverageCandidate F)) (timestamp : F) :
    PersistentCoverage F × Except (Fault F) (HandoverRecord F) → Prop where
  | rejected {next : PersistentCoverage F} {fault : Fault F}
      (refused : coordinator.accepts taskId reason candidates timestamp = false)
      (quiet : Quiet coordinator next) :
      Begins coordinator taskId reason candidates timestamp (next, .error fault)
  | filed {next : PersistentCoverage F} {task : TaskRecord F} {owner : String}
      {record : HandoverRecord F}
      (accepted : coordinator.accepts taskId reason candidates timestamp = true)
      (guarded : coordinator.beginGuard taskId = .ok (task, owner))
      (begun : Begun coordinator task taskId owner reason timestamp record)
      (filed : Filed coordinator next (handoverId taskId (task.leaseGeneration + 1)) record) :
      Begins coordinator taskId reason candidates timestamp (next, .ok record)

theorem beginHandover_begins (coordinator : PersistentCoverage F) (taskId reason : String)
    (candidates : List (CoverageCandidate F)) (nowS : Option F) (clock : Nat → F) :
    Begins coordinator taskId reason candidates (now nowS (clock 0))
      (coordinator.beginHandover taskId reason candidates nowS clock) := by
  cases guarded : coordinator.beginGuard taskId with
  | error fault =>
    simp only [beginHandover, guarded]
    exact .rejected (by simp [accepts, guarded, okWith]) ⟨rfl, rfl, rfl⟩
  | ok owned =>
  obtain ⟨task, owner⟩ := owned
  cases created : (request task taskId owner reason (now nowS (clock 0))).create with
  | error fault =>
    simp only [beginHandover, guarded, created]
    exact .rejected (by simp [accepts, guarded, created, okWith]) ⟨rfl, rfl, rfl⟩
  | ok record =>
  have accepted : coordinator.accepts taskId reason candidates (now nowS (clock 0)) =
      handled (coordinator.select taskId (coordinator.eligibleReserve candidates) false) := by
    simp [accepts, guarded, created, okWith]
  obtain ⟨rfl, announceable⟩ := request_announceable created
  obtain ⟨opened, requested⟩ := event_eq coordinator _ announceable .requested reason
  -- the event spends a sequence number, which the selection does not read
  have selection : coordinator.spent.select taskId (coordinator.spent.eligibleReserve candidates) false =
      coordinator.select taskId (coordinator.eligibleReserve candidates) false := rfl
  simp only [beginHandover, guarded, created, requested, andThen, selection]
  rcases selected : coordinator.select taskId (coordinator.eligibleReserve candidates) false
    with (⟨code, message, details⟩ | _ | _) | decision
  · obtain ⟨closed, degraded⟩ := event_eq coordinator.spent {
        request task taskId owner reason (now nowS (clock 0)) with
          phase := .degraded, events := [] ++ [opened] }
      ⟨announceable.1, announceable.2, announceable.3, announceable.4, announceable.5,
        announceable.6⟩ .degraded "NO_SERVICEABLE_RESERVE"
    simp only [request] at degraded ⊢
    rw [degraded]
    refine .filed (by rw [accepted, selected]; rfl) guarded ⟨?_, rfl, rfl, rfl, .inl rfl⟩ ⟨rfl, rfl, rfl⟩
    exact ⟨announceable.1, announceable.2, announceable.3, announceable.4, announceable.5, announceable.6⟩
  · exact .rejected (by rw [accepted, selected]; rfl) ⟨rfl, rfl, rfl⟩
  · exact .rejected (by rw [accepted, selected]; rfl) ⟨rfl, rfl, rfl⟩
  · obtain ⟨⟨candidate, eligible, chosen⟩, identifier⟩ := select_eq_ok selected
    obtain ⟨_, free⟩ := List.mem_filter.mp eligible
    simp only [Bool.and_eq_true, decide_eq_true_eq, chosen] at free
    obtain ⟨assigned, replacement⟩ := event_eq coordinator.spent {
        request task taskId owner reason (now nowS (clock 0)) with
          incomingVehicleId := some decision.vehicleId
          phase := .preparing
          predictedEnergyMarginPercent := some decision.predictedEnergyMarginPercent
          events := [] ++ [opened] }
      ⟨announceable.1, announceable.2, announceable.3, announceable.4, identifier,
        announceable.6⟩ .replacementSelected reason
    obtain ⟨started, preparing⟩ := event_eq coordinator.spent.spent {
        request task taskId owner reason (now nowS (clock 0)) with
          incomingVehicleId := some decision.vehicleId
          phase := .replacementSelected
          predictedEnergyMarginPercent := some decision.predictedEnergyMarginPercent
          events := [] ++ [opened] ++ [assigned] }
      ⟨announceable.1, announceable.2, announceable.3, announceable.4, identifier,
        announceable.6⟩ .preparing "replacement preparation started"
    simp only [request] at replacement preparing ⊢
    simp only [replacement, preparing]
    refine .filed (by rw [accepted, selected]; rfl) guarded
      ⟨?_, rfl, rfl, rfl, .inr ⟨_, rfl, identifier, free.1.2, free.2⟩⟩ ⟨rfl, rfl, rfl⟩
    exact ⟨announceable.1, announceable.2, announceable.3, announceable.4, identifier, announceable.6⟩

omit [PyFloat F] in
theorem handover_eq_ok {coordinator : PersistentCoverage F} {key : String}
    {record : HandoverRecord F} :
    coordinator.handover key = .ok record ↔ coordinator.handovers.get? key = some record := by
  unfold handover
  split <;> simp_all

inductive Advances (coordinator : PersistentCoverage F) (key : String) :
    PersistentCoverage F × Except (Fault F) (HandoverRecord F) → Prop where
  | rejected {next : PersistentCoverage F} {fault : Fault F} (quiet : Quiet coordinator next) :
      Advances coordinator key (next, .error fault)
  | filed {next : PersistentCoverage F} {record updated : HandoverRecord F}
      (found : coordinator.handovers.get? key = some record) (successor : Successor record updated)
      (filed : Filed coordinator next key updated) : Advances coordinator key (next, .ok updated)

theorem confirmReplacementReady_advances (coordinator : PersistentCoverage F) (key : String)
    (candidates : List (CoverageCandidate F)) (nowS : Option F) (clock : Nat → F) :
    Advances coordinator key (coordinator.confirmReplacementReady key candidates nowS clock) := by
  cases guarded : coordinator.readyGuard key candidates with
  | error fault => simp only [confirmReplacementReady, guarded]; exact .rejected ⟨rfl, rfl, rfl⟩
  | ok record =>
    obtain ⟨found, lookup, guarded'⟩ := bind_eq_ok.mp guarded
    split at guarded'
    · next preparing _ =>
      obtain ⟨_, _, guarded'⟩ := bind_eq_ok.mp guarded'
      obtain ⟨_, _, guarded'⟩ := bind_eq_ok.mp guarded'
      cases guarded'
      rcases event_cases coordinator { record with
          phase := .takeoverPending, replacementReadyAtMonotonicS := some (now nowS (clock 0)) }
        .takeoverPending "replacement ready; outgoing lease retained" (now nowS (clock 0))
        with ⟨_, fault, eq⟩ | ⟨_, event, eq⟩
      · simp only [confirmReplacementReady, guarded, eq, andThen]
        exact .rejected ⟨rfl, rfl, rfl⟩
      · simp only [confirmReplacementReady, guarded, eq, andThen]
        refine .filed (handover_eq_ok.mp lookup) ⟨⟨rfl, rfl, rfl, rfl, rfl, rfl⟩, rfl, ?_, ?_⟩
          ⟨rfl, rfl, rfl⟩
        · simp [HandoverRecord.active, preparing]
        · simp [preparing]
    · cases guarded'

theorem releaseOutgoing_advances (coordinator : PersistentCoverage F) (key reason : String)
    (nowS : Option F) (clock : Nat → F) :
    Advances coordinator key (coordinator.releaseOutgoing key reason nowS clock) := by
  cases guarded : coordinator.releaseGuard key with
  | error fault => simp only [releaseOutgoing, guarded]; exact .rejected ⟨rfl, rfl, rfl⟩
  | ok record =>
  obtain ⟨found, lookup, guarded'⟩ := bind_eq_ok.mp guarded
  obtain ⟨_, _, guarded'⟩ := bind_eq_ok.mp guarded'
  cases guarded'
  rcases event_cases coordinator { record with
      phase := .outgoingReleased
      outgoingReleasedAtMonotonicS := some (now nowS (clock 0))
      releaseReason := some reason } .outgoingReleased reason (now nowS (clock 0))
    with ⟨_, fault, eq⟩ | ⟨_, released, eq⟩
  · simp only [releaseOutgoing, guarded, eq, andThen]
    exact .rejected ⟨rfl, rfl, rfl⟩
  simp only [releaseOutgoing, guarded, eq, andThen]
  rcases event_cases coordinator.spent { record with
      phase := .completed
      outgoingReleasedAtMonotonicS := some (now nowS (clock 0))
      releaseReason := some reason
      events := record.events ++ [released] } .completed "handover completed" (now nowS (clock 0))
    with ⟨_, fault, eq⟩ | ⟨_, completed, eq⟩
  · simp only [eq]
    exact .rejected ⟨rfl, rfl, rfl⟩
  · simp only [eq]
    exact .filed (handover_eq_ok.mp lookup)
      ⟨⟨rfl, rfl, rfl, rfl, rfl, rfl⟩, rfl, fun _ => rfl, by simp⟩ ⟨rfl, rfl, rfl⟩

theorem close_advances {coordinator : PersistentCoverage F} {key reason : String}
    {record : HandoverRecord F} {phase : HandoverPhase} {replacement : CoverageVehicleState}
    {timestamp : F} (found : coordinator.handovers.get? key = some record)
    (closed : phase ∈ [.degraded, .failed]) :
    Advances coordinator key
      (coordinator.close key reason record phase replacement timestamp) := by
  rcases event_cases coordinator { record with phase := phase, releaseReason := some reason } phase
    reason timestamp with ⟨_, fault, eq⟩ | ⟨_, event, eq⟩
  · simp only [close, eq, andThen]
    exact .rejected ⟨rfl, rfl, rfl⟩
  · simp only [close, eq, andThen]
    refine .filed found ⟨⟨rfl, rfl, rfl, rfl, rfl, rfl⟩, rfl, fun _ => ?_, fun waiting => ?_⟩ ?_
    · rcases List.mem_pair.mp closed with rfl | rfl <;> rfl
    · rcases List.mem_pair.mp closed with rfl | rfl <;> simp at waiting
    · cases record.incomingVehicleId <;> exact ⟨rfl, rfl, rfl⟩

theorem terminateHandover_advances (coordinator : PersistentCoverage F) (key reason : String)
    (failed : Bool) (nowS : Option F) (clock : Nat → F) :
    Advances coordinator key (coordinator.terminateHandover key reason failed nowS clock) := by
  cases guarded : coordinator.terminateGuard key with
  | error fault => simp only [terminateHandover, guarded]; exact .rejected ⟨rfl, rfl, rfl⟩
  | ok record =>
    obtain ⟨found, lookup, guarded'⟩ := bind_eq_ok.mp guarded
    obtain ⟨_, _, guarded'⟩ := bind_eq_ok.mp guarded'
    cases guarded'
    simp only [terminateHandover, guarded]
    exact close_advances (handover_eq_ok.mp lookup) (by cases failed <;> simp)

theorem failHandover_advances (coordinator : PersistentCoverage F) (key reason : String)
    (nowS : Option F) (clock : Nat → F) :
    Advances coordinator key (coordinator.failHandover key reason nowS clock) := by
  cases lookup : coordinator.handover key with
  | error fault => simp only [failHandover, lookup]; exact .rejected ⟨rfl, rfl, rfl⟩
  | ok record =>
    have found := handover_eq_ok.mp lookup
    simp only [failHandover, lookup]
    split
    · refine .filed found ⟨⟨rfl, rfl, rfl, rfl, rfl, rfl⟩, rfl, fun closed => closed, fun waiting => waiting⟩
        ⟨rfl, rfl, ?_⟩
      exact (Dict.insert_eq_self _ found).symm
    · exact close_advances found (by simp)

theorem enforceSeparation_quiet (coordinator : PersistentCoverage F)
    (candidates : List (CoverageCandidate F)) :
    Quiet coordinator (coordinator.enforceSeparation candidates).1 := by
  unfold enforceSeparation
  simp only
  split
  · exact ⟨rfl, rfl, rfl⟩
  · split <;> exact ⟨rfl, rfl, rfl⟩

omit [PyFloat F] in
theorem takeoverGuard_eq_ok {coordinator : PersistentCoverage F} {key : String}
    {candidates : List (CoverageCandidate F)} {record : HandoverRecord F}
    {incoming : CoverageCandidate F}
    (h : coordinator.takeoverGuard key candidates = .ok (record, incoming)) :
    coordinator.handovers.get? key = some record ∧ record.phase = .takeoverPending ∧
      record.incomingVehicleId = some incoming.vehicleId := by
  obtain ⟨found, lookup, h⟩ := bind_eq_ok.mp h
  split at h
  · next vehicleId pending incoming =>
    obtain ⟨candidate, listed, h⟩ := bind_eq_ok.mp h
    cases h
    unfold findCandidate at listed
    split at listed
    · next candidate among =>
      cases listed
      have named := List.find?_some among
      exact ⟨handover_eq_ok.mp lookup, pending, by simpa [incoming] using (of_decide_eq_true named).symm⟩
    · cases listed
  · cases h

/-- The lease transfer a takeover asks of the task ledger. -/
def transferUpdate (coordinator : PersistentCoverage F) (record : HandoverRecord F)
    (incoming : CoverageCandidate F) (timestamp : F) : Except (Fault F) (TaskRecord F) :=
  coordinator.tasks.transferUpdate record.taskId record.outgoingVehicleId incoming.vehicleId
    record.outgoingLeaseGeneration incoming.capabilities (some incoming.batteryPercent)
    record.reason timestamp timestamp

/-- The takeover passes every check up to the transfer, with a reason too long for evidence. -/
def overlong (coordinator : PersistentCoverage F) (key : String)
    (candidates : List (CoverageCandidate F)) (timestamp : F) : Bool :=
  okWith (coordinator.takeoverGuard key candidates) fun (record, incoming) =>
    500 < record.reason.length &&
      okWith (coordinator.enforceSeparation candidates).2 (fun _ => true) &&
      okWith (coordinator.transferUpdate record incoming timestamp) (fun _ => true)

structure Checked (coordinator : PersistentCoverage F) : Prop where
  handovers : ∀ key record, coordinator.handovers.get? key = some record →
    isIdentifier record.handoverId = true ∧ isIdentifier record.taskId = true ∧
      isIdentifier record.outgoingVehicleId = true
  progress : ∀ taskId task, coordinator.tasks.records.get? taskId = some task →
    percentage task.progressPercent = true

structure Transferred (coordinator next : PersistentCoverage F) (record : HandoverRecord F)
    (vehicleId : String) : Prop where
  deployment : next.deployment = coordinator.deployment
  tasks : ∃ task stored, coordinator.tasks.records.get? record.taskId = some task ∧
    next.tasks = coordinator.tasks.written record.taskId stored ∧ stored.state = .assigned ∧
    stored.ownerVehicleId = some vehicleId ∧ stored.progressPercent = task.progressPercent

inductive Takes (coordinator : PersistentCoverage F) (key : String)
    (candidates : List (CoverageCandidate F)) (timestamp : F) :
    PersistentCoverage F × Except (Fault F) (HandoverRecord F) → Prop where
  | rejected {next : PersistentCoverage F} {fault : Fault F}
      (refused : coordinator.overlong key candidates timestamp = false)
      (quiet : Quiet coordinator next) :
      Takes coordinator key candidates timestamp (next, .error fault)
  | confirmed {next : PersistentCoverage F} {record updated : HandoverRecord F} {vehicleId : String}
      (short : coordinator.overlong key candidates timestamp = false)
      (found : coordinator.handovers.get? key = some record)
      (pending : record.phase = .takeoverPending)
      (incoming : record.incomingVehicleId = some vehicleId)
      (same : SameHandover record updated) (phase : updated.phase = .takeoverConfirmed)
      (takeoverConfirmed : updated.takeoverConfirmed = true)
      (transferred : Transferred coordinator next record vehicleId)
      (handovers : next.handovers = coordinator.handovers.insert key updated) :
      Takes coordinator key candidates timestamp (next, .ok updated)
  | torn {next : PersistentCoverage F} {record : HandoverRecord F} {vehicleId : String}
      {fault : Fault F}
      (long : Checked coordinator → coordinator.overlong key candidates timestamp = true)
      (found : coordinator.handovers.get? key = some record)
      (pending : record.phase = .takeoverPending)
      (incoming : record.incomingVehicleId = some vehicleId)
      (transferred : Transferred coordinator next record vehicleId)
      (handovers : next.handovers = coordinator.handovers) :
      Takes coordinator key candidates timestamp (next, .error fault)

theorem issueLease_checked {ledger : TaskLedger F} {taskId vehicleId : String} {generation : Nat}
    {timestamp : F} {lease : TaskLease F}
    (h : ledger.issueLease taskId vehicleId generation timestamp = .ok lease) :
    isIdentifier ledger.fleetSessionId = true ∧ isIdentifier ledger.fleetRunId = true ∧
      isSha256 ledger.deploymentSha256 = true ∧ isIdentifier taskId = true ∧
      isIdentifier vehicleId = true ∧ ge timestamp zero = true := by
  have checked := (validated_eq_ok.mp h).1
  simp only [List.mem_cons, forall_eq_or_imp, decide_eq_true_eq] at checked
  obtain ⟨session, run, sha, task, vehicle, _, issued, _⟩ := checked
  exact ⟨session, run, sha, task, vehicle, issued⟩

theorem confirmTakeover_takes (coordinator : PersistentCoverage F) (key : String)
    (candidates : List (CoverageCandidate F)) (nowS : Option F) {clock : Nat → F}
    (nonneg : ∀ i, ge (clock i) zero = true) :
    Takes coordinator key candidates (now nowS (clock 0))
      (coordinator.confirmTakeover key candidates nowS clock) := by
  cases guarded : coordinator.takeoverGuard key candidates with
  | error fault =>
    simp only [confirmTakeover, guarded]
    exact .rejected (by simp [overlong, guarded, okWith]) ⟨rfl, rfl, rfl⟩
  | ok chosen =>
  obtain ⟨record, incoming⟩ := chosen
  obtain ⟨found, pending, named⟩ := takeoverGuard_eq_ok guarded
  have quiet := coordinator.enforceSeparation_quiet candidates
  rcases separated : coordinator.enforceSeparation candidates with ⟨observed, fault | observations⟩
  · simp only [confirmTakeover, guarded, separated, andThen]
    rw [separated] at quiet
    exact .rejected (by simp [overlong, guarded, separated, okWith]) quiet
  have quiet : Quiet coordinator observed := by rwa [separated] at quiet
  have atLedger : observed.tasks.transfer record.taskId record.outgoingVehicleId incoming.vehicleId
      record.outgoingLeaseGeneration incoming.capabilities (some incoming.batteryPercent)
      record.reason (some (now nowS (clock 0))) (fun i => clock (i + 1)) =
      coordinator.tasks.commit record.taskId
        (coordinator.transferUpdate record incoming (now nowS (clock 0)))
        "TASK_OWNERSHIP_TRANSFERRED" (some record.reason) (clock 3) := by
    rw [quiet.tasks]; rfl
  simp only [confirmTakeover, guarded, separated, andThen, atLedger]
  cases computed : coordinator.transferUpdate record incoming (now nowS (clock 0)) with
  | error fault =>
    exact .rejected (by simp [overlong, guarded, separated, computed, okWith])
      ⟨quiet.deployment, rfl, quiet.handovers⟩
  | ok base =>
  have reaches : coordinator.overlong key candidates (now nowS (clock 0)) =
      decide (500 < record.reason.length) := by
    simp [overlong, guarded, separated, computed, okWith]
  obtain ⟨task, lease, leased, _, _, _, issued, moved⟩ := TaskLedger.transferUpdate_eq_ok computed
  obtain ⟨session, run, sha, tasked, vehicle, time⟩ := issueLease_checked issued
  rcases coordinator.tasks.commit_cases record.taskId "TASK_OWNERSHIP_TRANSFERRED" base
    (some record.reason) (clock 3) with ⟨fault, created, eq⟩ | ⟨created, eq⟩
  · have long : Checked coordinator → 500 < record.reason.length := by
      intro checked
      by_contra short
      have named : isIdentifier "TASK_OWNERSHIP_TRANSFERRED" = true := by decide
      simp [TaskEvidenceEvent.create, validated, TaskLedger.evidence, session, run, sha, tasked,
        named, nonneg, moved, checked.progress record.taskId task leased, optionalIdentifier, vehicle,
        Nat.le_of_not_lt short] at created
    simp only [eq]
    exact .torn (fun checked => by simp [reaches, long checked]) found pending named
      ⟨quiet.deployment, task, base, leased, rfl, by rw [moved], by rw [moved], by rw [moved]⟩
      quiet.handovers
  have short : record.reason.length ≤ 500 := by
    simpa using (validated_eq_ok.mp created).1
      ("reason", decide (record.reason.length ≤ 500)) (by simp [TaskLedger.evidence])
  generalize written : ({ base with events := _ } : TaskRecord F) = stored at eq
  have generation : stored.leaseGeneration = task.leaseGeneration + 1 := by rw [← written, moved]
  have transferred : ∃ task stored', coordinator.tasks.records.get? record.taskId = some task ∧
      coordinator.tasks.written record.taskId stored = coordinator.tasks.written record.taskId stored' ∧
      stored'.state = .assigned ∧ stored'.ownerVehicleId = some incoming.vehicleId ∧
      stored'.progressPercent = task.progressPercent :=
    ⟨task, stored, leased, rfl, by rw [← written, moved], by rw [← written, moved],
      by rw [← written, moved]⟩
  simp only [eq]
  rcases event_cases { observed with tasks := coordinator.tasks.written record.taskId stored }
    { record with
      phase := .takeoverConfirmed
      incomingLeaseGeneration := some stored.leaseGeneration
      takeoverConfirmedAtMonotonicS := some (now nowS (clock 0))
      takeoverConfirmed := true } .takeoverConfirmed "atomic task lease transfer confirmed"
    (now nowS (clock 0)) with ⟨rejected, fault, unannounced⟩ | ⟨_, event, confirmed⟩
  · simp only [unannounced]
    refine .torn (fun checked => absurd ?_ rejected) found pending named
      ⟨quiet.deployment, transferred⟩ quiet.handovers
    obtain ⟨handoverNamed, taskNamed, outgoingNamed⟩ := checked.handovers key record found
    exact ⟨handoverNamed, taskNamed, time, outgoingNamed,
      by simpa [optionalIdentifier, named] using vehicle,
      by simp [HandoverRecord.eventLeaseGeneration, generation]⟩
  · simp only [confirmed]
    refine .confirmed (by simp [reaches, short]) found pending named ⟨rfl, rfl, rfl, rfl, rfl, rfl⟩ rfl
      rfl ⟨quiet.deployment, transferred⟩ ?_
    rw [← quiet.handovers]
    rfl

/-- One step of the allocation loop: it stops before a task, or stores its assignment and
then stops or goes on. -/
theorem allocateEach_cons (available : Dict String (CoverageCandidate F)) (allow : Bool)
    (preferred : Option (Dict String String)) (nowS : Option F) (clock : Nat → F)
    (definition : DeploymentTaskDefinition F) (rest : List (DeploymentTaskDefinition F))
    (claimed : List String) (decisions : List (AllocationDecision F))
    (coordinator : PersistentCoverage F) :
    (allocateEach available allow preferred nowS clock (definition :: rest) claimed decisions
      coordinator).1 = coordinator ∨
    ∃ vehicleId task stored, vehicleId ∉ claimed ∧
      coordinator.tasks.records.get? definition.taskId = some task ∧
      task.state ∈ [.declared, .retryPending] ∧ stored.state = .assigned ∧
      stored.ownerVehicleId = some vehicleId ∧ stored.progressPercent = task.progressPercent ∧
      let assigned := { coordinator with
        tasks := coordinator.tasks.written definition.taskId stored }
      ((allocateEach available allow preferred nowS clock (definition :: rest) claimed decisions
          coordinator).1 = assigned ∨
        ∃ decision, (allocateEach available allow preferred nowS clock (definition :: rest) claimed
            decisions coordinator).1 =
          (allocateEach available allow preferred nowS (fun i => clock (i + 2)) rest
            (vehicleId :: claimed) (decisions ++ [decision]) assigned).1) := by
  cases selected : coordinator.select definition.taskId
      (eligibleActive available claimed preferred definition.taskId) allow with
  | error fault => exact .inl (by simp [allocateEach, selected])
  | ok decision =>
  cases known : available.get? decision.vehicleId with
  | none => exact .inl (by simp [allocateEach, selected, known])
  | some candidate =>
  obtain ⟨⟨chosen, eligible, same⟩, _⟩ := select_eq_ok selected
  have unclaimed : decision.vehicleId ∉ claimed := by
    have filtered := (List.mem_filter.mp eligible).2
    simp only [Bool.and_eq_true, decide_eq_true_eq, same] at filtered
    exact filtered.1.1.1.1
  cases computed : coordinator.tasks.assignUpdate definition.taskId decision.vehicleId
      candidate.capabilities (some candidate.batteryPercent) allow (now nowS (clock 0)) with
  | error fault =>
    exact .inl (by simp [allocateEach, selected, known, TaskLedger.assign, computed, TaskLedger.commit])
  | ok base =>
  obtain ⟨task, lease, found, available, _, moved⟩ := TaskLedger.assignUpdate_eq_ok computed
  rcases coordinator.tasks.commit_cases definition.taskId "TASK_ASSIGNED" base none (clock 1)
    with ⟨fault, _, eq⟩ | ⟨_, eq⟩
  · refine .inr ⟨decision.vehicleId, task, base, unclaimed, found, available, by rw [moved], by rw [moved],
      by rw [moved], .inl ?_⟩
    simp [allocateEach, selected, known, TaskLedger.assign, computed, eq]
  · generalize written : ({ base with events := _ } : TaskRecord F) = stored at eq
    refine .inr ⟨decision.vehicleId, task, stored, unclaimed, found, available, ?_, ?_, ?_,
      .inr ⟨decision, ?_⟩⟩
    · rw [← written, moved]
    · rw [← written, moved]
    · rw [← written, moved]
    · simp [allocateEach, selected, known, TaskLedger.assign, computed, eq]

/-- The completeness check at the end of the allocation changes nothing. -/
theorem allocateInitial_state (coverage : PersistentCoverage F)
    (candidates : List (CoverageCandidate F)) (allow : Bool)
    (preferred : Option (Dict String String)) (nowS : Option F) (clock : Nat → F) :
    (coverage.allocateInitial candidates allow preferred nowS clock).1 =
      (allocateEach (.ofList (candidates.map fun item => (item.vehicleId, item))) allow preferred
        nowS clock (byPriority coverage.deployment.tasks) [] [] coverage).1 := by
  unfold allocateInitial
  rcases allocateEach _ _ _ _ _ _ _ _ _ with ⟨next, fault | decisions⟩
  · rfl
  · simp only [andThen]
    split <;> rfl

end CrazySwarm.PersistentCoverage
