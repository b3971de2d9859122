import CrazySwarm.Lib.Dict
import CrazySwarm.Lib.Runs
import CrazySwarm.Lib.Sorting
import CrazySwarm.Models

/-! The fleet task ledger. Every operation computes the record it wants to store and
then commits it: store first, append evidence second. A rejected evidence event leaves
the stored record behind, so a failing call is not always without effect. -/
namespace CrazySwarm
open PyFloat

variable {F : Type} [PyFloat F]

inductive TaskState where
  | declared | assigned | inProgress | paused | retryPending | completed | aborted
  deriving DecidableEq, Repr

inductive TaskDecision where
  | complete | retry | reassign | abort
  deriving DecidableEq, Repr

structure DeploymentTaskDefinition (F : Type) where
  taskId : String
  zoneId : String
  priority : Nat
  requiredCapabilities : List VehicleCapability
  completionProgressPercent : F
  estimatedEnergyPercent : F
  energyMarginPercent : F
  deriving DecidableEq, Repr

structure TaskLease (F : Type) where
  fleetSessionId : String
  fleetRunId : String
  deploymentSha256 : String
  taskId : String
  vehicleId : String
  generation : Nat
  issuedAtMonotonicS : F
  expiresAtMonotonicS : F
  deriving DecidableEq, Repr

structure TaskEvidenceEvent (F : Type) where
  fleetSessionId : String
  fleetRunId : String
  deploymentSha256 : String
  sequence : Nat
  taskId : String
  eventType : String
  state : TaskState
  timestampMonotonicS : F
  ownerVehicleId : Option String
  leaseGeneration : Nat
  progressPercent : F
  reason : Option String
  childMissionRunId : Option String
  deriving DecidableEq, Repr

structure TaskRecord (F : Type) where
  definition : DeploymentTaskDefinition F
  state : TaskState
  ownerVehicleId : Option String
  lease : Option (TaskLease F)
  leaseGeneration : Nat
  progressPercent : F
  attempts : Nat
  decision : Option TaskDecision
  terminalReason : Option String
  childMissionRunId : Option String
  events : List (TaskEvidenceEvent F)
  deriving DecidableEq, Repr

def percentage (value : F) : Bool := ge value zero && atMost value (ofRat 100)
def optionalIdentifier (text : Option String) : Bool := text.all isIdentifier

def TaskLease.create (lease : TaskLease F) : Except (Fault F) (TaskLease F) :=
  validated "TaskLease" [
    ("fleet_session_id", isIdentifier lease.fleetSessionId),
    ("fleet_run_id", isIdentifier lease.fleetRunId),
    ("deployment_sha256", isSha256 lease.deploymentSha256),
    ("task_id", isIdentifier lease.taskId),
    ("vehicle_id", isIdentifier lease.vehicleId),
    ("generation", 1 ≤ lease.generation),
    ("issued_at_monotonic_s", ge lease.issuedAtMonotonicS zero),
    ("expires_at_monotonic_s", gt lease.expiresAtMonotonicS zero)] lease

def TaskEvidenceEvent.create (event : TaskEvidenceEvent F) :
    Except (Fault F) (TaskEvidenceEvent F) :=
  validated "TaskEvidenceEvent" [
    ("fleet_session_id", isIdentifier event.fleetSessionId),
    ("fleet_run_id", isIdentifier event.fleetRunId),
    ("deployment_sha256", isSha256 event.deploymentSha256),
    ("sequence", 1 ≤ event.sequence),
    ("task_id", isIdentifier event.taskId),
    ("event_type", isIdentifier event.eventType),
    ("timestamp_monotonic_s", ge event.timestampMonotonicS zero),
    ("owner_vehicle_id", optionalIdentifier event.ownerVehicleId),
    ("progress_percent", percentage event.progressPercent),
    ("reason", event.reason.all fun text => text.length ≤ 500),
    ("child_mission_run_id", optionalIdentifier event.childMissionRunId)] event

def TaskRecord.create (record : TaskRecord F) : Except (Fault F) (TaskRecord F) :=
  validated "TaskRecord" [
    ("owner_vehicle_id", optionalIdentifier record.ownerVehicleId),
    ("progress_percent", percentage record.progressPercent),
    ("child_mission_run_id", optionalIdentifier record.childMissionRunId)] record

def TaskRecord.declare (definition : DeploymentTaskDefinition F) : TaskRecord F :=
  ⟨definition, .declared, none, none, 0, zero, 0, none, none, none, []⟩

structure TaskLedger (F : Type) where
  fleetSessionId : String
  fleetRunId : String
  deploymentSha256 : String
  leaseDurationS : F
  records : Dict String (TaskRecord F)
  eventSequence : Nat

namespace TaskLedger

def record (ledger : TaskLedger F) (taskId : String) : Except (Fault F) (TaskRecord F) :=
  match ledger.records.get? taskId with
  | some record => .ok record
  | none => .error (.crazySwarm .invalidCommand ("unknown fleet task: " ++ taskId) .none)

def store (ledger : TaskLedger F) (taskId : String) (record : TaskRecord F) : TaskLedger F :=
  { ledger with records := ledger.records.insert taskId record }

/-- `_emit`: the sequence number is spent before the event is validated. -/
def emit (ledger : TaskLedger F) (taskId eventType : String) (reason : Option String)
    (timestamp : F) : TaskLedger F × Except (Fault F) (TaskRecord F) :=
  match ledger.record taskId with
  | .error fault => (ledger, .error fault)
  | .ok record =>
    let spent := { ledger with eventSequence := ledger.eventSequence + 1 }
    match TaskEvidenceEvent.create {
        fleetSessionId := ledger.fleetSessionId
        fleetRunId := ledger.fleetRunId
        deploymentSha256 := ledger.deploymentSha256
        sequence := spent.eventSequence
        taskId := taskId
        eventType := eventType
        state := record.state
        timestampMonotonicS := timestamp
        ownerVehicleId := record.ownerVehicleId
        leaseGeneration := record.leaseGeneration
        progressPercent := record.progressPercent
        reason := reason
        childMissionRunId := record.childMissionRunId } with
    | .error fault => (spent, .error fault)
    | .ok event =>
      let updated := { record with events := record.events ++ [event] }
      (spent.store taskId updated, .ok updated)

/-- Store the record an operation computed, then emit its evidence. -/
def commit (ledger : TaskLedger F) (taskId : String) (update : Except (Fault F) (TaskRecord F))
    (eventType : String) (reason : Option String) (timestamp : F) :
    TaskLedger F × Except (Fault F) (TaskRecord F) :=
  match update with
  | .error fault => (ledger, .error fault)
  | .ok record => (ledger.store taskId record).emit taskId eventType reason timestamp

def issueLease (ledger : TaskLedger F) (taskId vehicleId : String) (generation : Nat) (now : F) :
    Except (Fault F) (TaskLease F) :=
  TaskLease.create {
    fleetSessionId := ledger.fleetSessionId
    fleetRunId := ledger.fleetRunId
    deploymentSha256 := ledger.deploymentSha256
    taskId := taskId
    vehicleId := vehicleId
    generation := generation
    issuedAtMonotonicS := now
    expiresAtMonotonicS := add now ledger.leaseDurationS }

/-- Capability values in the order `sorted` gives them. -/
def sortedValues (capabilities : List VehicleCapability) : List String :=
  Sorting.sortBy id (capabilities.map VehicleCapability.value)

def requireCapabilities (record : TaskRecord F) (capabilities : List VehicleCapability) :
    Except (Fault F) Unit :=
  let missing := record.definition.requiredCapabilities.filter (· ∉ capabilities)
  require missing.isEmpty
    (.crazySwarm .capabilityMissing "vehicle does not satisfy task capabilities"
      (.missing (sortedValues missing)))

def requiredEnergy (definition : DeploymentTaskDefinition F) : F :=
  add definition.estimatedEnergyPercent definition.energyMarginPercent

def requireEnergy (record : TaskRecord F) (batteryPercent : Option F)
    (allowInadequateEnergy : Bool) : Except (Fault F) Unit :=
  let required := requiredEnergy record.definition
  require (allowInadequateEnergy || batteryPercent.any fun battery => !lt battery required)
    (.crazySwarm .criticalBattery "task assignment has inadequate observed energy margin"
      (.energy batteryPercent required))

def validateAssignmentEnergyAndCapability (record : TaskRecord F)
    (capabilities : List VehicleCapability) (batteryPercent : Option F) :
    Except (Fault F) Unit := do
  requireCapabilities record capabilities
  requireEnergy record batteryPercent false

/-- `_require_current_lease`: task, vehicle and generation must be the current ones. -/
def requireCurrentLease (ledger : TaskLedger F) (taskId vehicleId : String) (generation : Nat)
    (now : F) : Except (Fault F) (TaskRecord F) := do
  let record ← ledger.record taskId
  match record.lease with
  | none =>
    .error (.crazySwarm .modeNotAuthorized "current task ownership is required" .none)
  | some lease =>
    require (lease.vehicleId = vehicleId && lease.generation = generation &&
        record.ownerVehicleId = some vehicleId)
      (.crazySwarm .modeNotAuthorized "current task ownership is required" .none)
    require (!le lease.expiresAtMonotonicS now)
      (.crazySwarm .modeNotAuthorized "task lease has expired" .none)
    .ok record

def requireState (record : TaskRecord F) (states : List TaskState) (message : String) :
    Except (Fault F) Unit :=
  require (record.state ∈ states) (.crazySwarm .invalidState message .none)

def assignUpdate (ledger : TaskLedger F) (taskId vehicleId : String)
    (capabilities : List VehicleCapability) (batteryPercent : Option F)
    (allowInadequateEnergy : Bool) (now : F) : Except (Fault F) (TaskRecord F) := do
  let record ← ledger.record taskId
  requireState record [.declared, .retryPending] "task is not available for assignment"
  requireCapabilities record capabilities
  requireEnergy record batteryPercent allowInadequateEnergy
  let generation := record.leaseGeneration + 1
  let lease ← ledger.issueLease taskId vehicleId generation now
  .ok { record with
    state := .assigned
    ownerVehicleId := some vehicleId
    lease := some lease
    leaseGeneration := generation
    attempts := record.attempts + 1
    decision := none
    terminalReason := none }

def assign (ledger : TaskLedger F) (taskId vehicleId : String)
    (capabilities : List VehicleCapability) (batteryPercent : Option F)
    (allowInadequateEnergy : Bool) (nowS : Option F) (clock : Nat → F) :
    TaskLedger F × Except (Fault F) (TaskRecord F) :=
  ledger.commit taskId
    (ledger.assignUpdate taskId vehicleId capabilities batteryPercent allowInadequateEnergy
      (now nowS (clock 0)))
    "TASK_ASSIGNED" none (clock 1)

def startUpdate (ledger : TaskLedger F) (taskId vehicleId childMissionRunId : String)
    (generation : Nat) (now : F) : Except (Fault F) (TaskRecord F) := do
  let record ← ledger.requireCurrentLease taskId vehicleId generation now
  requireState record [.assigned] "only an assigned task can start"
  .ok { record with state := .inProgress, childMissionRunId := some childMissionRunId }

def start (ledger : TaskLedger F) (taskId vehicleId childMissionRunId : String)
    (generation : Nat) (nowS : Option F) (clock : Nat → F) :
    TaskLedger F × Except (Fault F) (TaskRecord F) :=
  ledger.commit taskId
    (ledger.startUpdate taskId vehicleId childMissionRunId generation (now nowS (clock 0)))
    "TASK_STARTED" none (clock 1)

/-- The renewed lease keeps its issue: only the expiry moves. -/
def renewUpdate (ledger : TaskLedger F) (taskId vehicleId : String) (generation : Nat) (now : F) :
    Except (Fault F) (TaskRecord F) := do
  let record ← ledger.requireCurrentLease taskId vehicleId generation now
  .ok { record with lease := record.lease.map fun lease =>
    { lease with expiresAtMonotonicS := add now ledger.leaseDurationS } }

/-- `renew` returns the renewed lease; here the record that holds it. -/
def renew (ledger : TaskLedger F) (taskId vehicleId : String) (generation : Nat)
    (nowS : Option F) (clock : Nat → F) : TaskLedger F × Except (Fault F) (TaskRecord F) :=
  ledger.commit taskId (ledger.renewUpdate taskId vehicleId generation (now nowS (clock 0)))
    "TASK_LEASE_RENEWED" none (clock 1)

def progressUpdate (ledger : TaskLedger F) (taskId vehicleId : String) (generation : Nat)
    (progressPercent : F) (now : F) : Except (Fault F) (TaskRecord F) := do
  let record ← ledger.requireCurrentLease taskId vehicleId generation now
  requireState record [.inProgress] "task is not in progress"
  require (!(lt progressPercent record.progressPercent || lt (ofRat 100) progressPercent))
    (.crazySwarm .invalidCommand "task progress must be monotonic" .none)
  .ok { record with progressPercent := progressPercent }

def updateProgress (ledger : TaskLedger F) (taskId vehicleId : String) (generation : Nat)
    (progressPercent : F) (nowS : Option F) (clock : Nat → F) :
    TaskLedger F × Except (Fault F) (TaskRecord F) :=
  ledger.commit taskId
    (ledger.progressUpdate taskId vehicleId generation progressPercent (now nowS (clock 0)))
    "TASK_PROGRESS" none (clock 1)

/-- `pause` and `resume` move a leased task between two states and nothing else. -/
def moveUpdate (ledger : TaskLedger F) (source target : TaskState) (message : String)
    (taskId vehicleId : String) (generation : Nat) (now : F) :
    Except (Fault F) (TaskRecord F) := do
  let record ← ledger.requireCurrentLease taskId vehicleId generation now
  requireState record [source] message
  .ok { record with state := target }

def pause (ledger : TaskLedger F) (taskId vehicleId : String) (generation : Nat)
    (reason : String) (nowS : Option F) (clock : Nat → F) :
    TaskLedger F × Except (Fault F) (TaskRecord F) :=
  ledger.commit taskId
    (ledger.moveUpdate .inProgress .paused "task is not in progress" taskId vehicleId generation
      (now nowS (clock 0)))
    "TASK_PAUSED" (some reason) (clock 1)

def resume (ledger : TaskLedger F) (taskId vehicleId : String) (generation : Nat)
    (nowS : Option F) (clock : Nat → F) : TaskLedger F × Except (Fault F) (TaskRecord F) :=
  ledger.commit taskId
    (ledger.moveUpdate .paused .inProgress "task is not paused" taskId vehicleId generation
      (now nowS (clock 0)))
    "TASK_RESUMED" none (clock 1)

def retryUpdate (ledger : TaskLedger F) (taskId reason : String) :
    Except (Fault F) (TaskRecord F) := do
  let record ← ledger.record taskId
  requireState record [.assigned, .inProgress, .paused] "task cannot enter retry"
  .ok { record with
    state := .retryPending
    ownerVehicleId := none
    lease := none
    decision := some .retry
    terminalReason := some reason
    childMissionRunId := none }

def retry (ledger : TaskLedger F) (taskId reason : String) (clock : Nat → F) :
    TaskLedger F × Except (Fault F) (TaskRecord F) :=
  ledger.commit taskId (ledger.retryUpdate taskId reason) "TASK_RETRY_PENDING" (some reason) (clock 0)

def reassignGuard (ledger : TaskLedger F) (taskId : String) : Except (Fault F) Unit := do
  let record ← ledger.record taskId
  require (record.state ∉ [.completed, .aborted, .declared])
    (.crazySwarm .invalidState "task cannot be reassigned" .none)

/-- `reassign` composes `retry` and `assign`, each with its own evidence, and then writes the
decision. A rejected assignment leaves the task in `RETRY_PENDING`. -/
def reassign (ledger : TaskLedger F) (taskId vehicleId : String)
    (capabilities : List VehicleCapability) (batteryPercent : Option F) (reason : String)
    (nowS : Option F) (clock : Nat → F) : TaskLedger F × Except (Fault F) (TaskRecord F) :=
  match ledger.reassignGuard taskId with
  | .error fault => (ledger, .error fault)
  | .ok _ =>
    match ledger.retry taskId reason clock with
    | (retried, .error fault) => (retried, .error fault)
    | (retried, .ok _) =>
      match retried.assign taskId vehicleId capabilities batteryPercent false nowS
          (fun i => clock (i + 1)) with
      | (assigned, .error fault) => (assigned, .error fault)
      | (assigned, .ok reassigned) =>
        assigned.commit taskId (.ok { reassigned with decision := some .reassign })
          "TASK_REASSIGNED" (some reason) (clock 3)

/-- `transfer` reads the clock once for the lease check and once for the new lease. -/
def transferUpdate (ledger : TaskLedger F) (taskId outgoingVehicleId incomingVehicleId : String)
    (expectedGeneration : Nat) (capabilities : List VehicleCapability)
    (batteryPercent : Option F) (reason : String) (checkedAt now : F) :
    Except (Fault F) (TaskRecord F) := do
  require (outgoingVehicleId ≠ incomingVehicleId)
    (.crazySwarm .invalidCommand "handover requires a new owner" .none)
  let record ← ledger.requireCurrentLease taskId outgoingVehicleId expectedGeneration checkedAt
  requireState record [.assigned, .inProgress, .paused] "task cannot be transferred"
  validateAssignmentEnergyAndCapability record capabilities batteryPercent
  let generation := record.leaseGeneration + 1
  let lease ← ledger.issueLease taskId incomingVehicleId generation now
  .ok { record with
    state := .assigned
    ownerVehicleId := some incomingVehicleId
    lease := some lease
    leaseGeneration := generation
    attempts := record.attempts + 1
    decision := some .reassign
    terminalReason := some reason
    childMissionRunId := none }

def transfer (ledger : TaskLedger F) (taskId outgoingVehicleId incomingVehicleId : String)
    (expectedGeneration : Nat) (capabilities : List VehicleCapability)
    (batteryPercent : Option F) (reason : String) (nowS : Option F) (clock : Nat → F) :
    TaskLedger F × Except (Fault F) (TaskRecord F) :=
  ledger.commit taskId
    (ledger.transferUpdate taskId outgoingVehicleId incomingVehicleId expectedGeneration
      capabilities batteryPercent reason (now nowS (clock 0)) (now nowS (clock 1)))
    "TASK_OWNERSHIP_TRANSFERRED" (some reason) (clock 2)

def completeUpdate (ledger : TaskLedger F) (taskId vehicleId : String) (generation : Nat)
    (reason : String) (now : F) : Except (Fault F) (TaskRecord F) := do
  let record ← ledger.requireCurrentLease taskId vehicleId generation now
  requireState record [.inProgress] "task is not in progress"
  require (!lt record.progressPercent record.definition.completionProgressPercent)
    (.crazySwarm .invalidState "task completion criteria are not satisfied" .none)
  .ok { record with
    state := .completed
    lease := none
    decision := some .complete
    terminalReason := some reason }

def complete (ledger : TaskLedger F) (taskId vehicleId : String) (generation : Nat)
    (reason : String) (nowS : Option F) (clock : Nat → F) :
    TaskLedger F × Except (Fault F) (TaskRecord F) :=
  ledger.commit taskId
    (ledger.completeUpdate taskId vehicleId generation reason (now nowS (clock 0)))
    "TASK_COMPLETED" (some reason) (clock 1)

/-- Aborting a finished task returns it unchanged and emits nothing. -/
def abort (ledger : TaskLedger F) (taskId reason : String) (clock : Nat → F) :
    TaskLedger F × Except (Fault F) (TaskRecord F) :=
  match ledger.record taskId with
  | .error fault => (ledger, .error fault)
  | .ok record =>
    if record.state ∈ [.completed, .aborted] then (ledger, .ok record)
    else ledger.commit taskId
      (.ok { record with
        state := .aborted
        lease := none
        decision := some .abort
        terminalReason := some reason })
      "TASK_ABORTED" (some reason) (clock 0)

/-- Emit `TASK_DECLARED` for each key in turn; the first rejected event fails the constructor. -/
def declareAll (clock : Nat → F) : List String → TaskLedger F → Except (Fault F) (TaskLedger F)
  | [], ledger => .ok ledger
  | taskId :: rest, ledger =>
    match ledger.emit taskId "TASK_DECLARED" none (clock ledger.eventSequence) with
    | (_, .error fault) => .error fault
    | (declared, .ok _) => declareAll clock rest declared

def create (fleetSessionId fleetRunId deploymentSha256 : String)
    (definitions : List (DeploymentTaskDefinition F)) (leaseDurationS : F) (clock : Nat → F) :
    Except (Fault F) (TaskLedger F) := do
  require (!le leaseDurationS zero) (.value "task lease duration must be positive")
  let records := Dict.ofList (definitions.map fun item => (item.taskId, TaskRecord.declare item))
  require (records.items.length = definitions.length) (.value "task identities must be unique")
  declareAll clock (Sorting.sortBy id records.keys)
    ⟨fleetSessionId, fleetRunId, deploymentSha256, leaseDurationS, records, 0⟩

/-- The public operations with their arguments. -/
inductive Op (F : Type) where
  | assign (taskId vehicleId : String) (capabilities : List VehicleCapability)
      (batteryPercent : Option F) (allowInadequateEnergy : Bool) (nowS : Option F)
  | start (taskId vehicleId childMissionRunId : String) (generation : Nat) (nowS : Option F)
  | renew (taskId vehicleId : String) (generation : Nat) (nowS : Option F)
  | updateProgress (taskId vehicleId : String) (generation : Nat) (progressPercent : F)
      (nowS : Option F)
  | pause (taskId vehicleId : String) (generation : Nat) (reason : String) (nowS : Option F)
  | resume (taskId vehicleId : String) (generation : Nat) (nowS : Option F)
  | retry (taskId reason : String)
  | reassign (taskId vehicleId : String) (capabilities : List VehicleCapability)
      (batteryPercent : Option F) (reason : String) (nowS : Option F)
  | transfer (taskId outgoingVehicleId incomingVehicleId : String) (expectedGeneration : Nat)
      (capabilities : List VehicleCapability) (batteryPercent : Option F) (reason : String)
      (nowS : Option F)
  | complete (taskId vehicleId : String) (generation : Nat) (reason : String) (nowS : Option F)
  | abort (taskId reason : String)

def perform (ledger : TaskLedger F) (op : Op F) (clock : Nat → F) :
    TaskLedger F × Except (Fault F) (TaskRecord F) :=
  match op with
  | .assign taskId vehicleId capabilities battery allow nowS =>
    ledger.assign taskId vehicleId capabilities battery allow nowS clock
  | .start taskId vehicleId child generation nowS =>
    ledger.start taskId vehicleId child generation nowS clock
  | .renew taskId vehicleId generation nowS => ledger.renew taskId vehicleId generation nowS clock
  | .updateProgress taskId vehicleId generation progress nowS =>
    ledger.updateProgress taskId vehicleId generation progress nowS clock
  | .pause taskId vehicleId generation reason nowS =>
    ledger.pause taskId vehicleId generation reason nowS clock
  | .resume taskId vehicleId generation nowS => ledger.resume taskId vehicleId generation nowS clock
  | .retry taskId reason => ledger.retry taskId reason clock
  | .reassign taskId vehicleId capabilities battery reason nowS =>
    ledger.reassign taskId vehicleId capabilities battery reason nowS clock
  | .transfer taskId outgoing incoming generation capabilities battery reason nowS =>
    ledger.transfer taskId outgoing incoming generation capabilities battery reason nowS clock
  | .complete taskId vehicleId generation reason nowS =>
    ledger.complete taskId vehicleId generation reason nowS clock
  | .abort taskId reason => ledger.abort taskId reason clock

/-- One call of a run: the operation and what the clock reads while it runs. -/
structure Call (F : Type) where
  op : Op F
  clock : Nat → F

def step (ledger : TaskLedger F) (call : Call F) : TaskLedger F :=
  (ledger.perform call.op call.clock).1

def succeeds (ledger : TaskLedger F) (call : Call F) : Prop :=
  ∃ record, (ledger.perform call.op call.clock).2 = .ok record

instance (ledger : TaskLedger F) (call : Call F) : Decidable (succeeds ledger call) :=
  decidable_of_iff (okWith (ledger.perform call.op call.clock).2 fun _ => true) (by
    unfold succeeds okWith
    split <;> simp_all)

end TaskLedger

def replayDecision : TaskState → Option TaskDecision
  | .completed => some .complete
  | .aborted => some .abort
  | .retryPending => some .retry
  | _ => none

/-- `replay_task`: the record the latest event of the evidence describes. -/
def replayTask (definition : DeploymentTaskDefinition F) (events : List (TaskEvidenceEvent F)) :
    Except (Fault F) (TaskRecord F) := do
  require (events.all fun event => event.taskId = definition.taskId)
    (.crazySwarm .identityMismatch "task evidence identity mismatch" .none)
  let ordered := Sorting.sortBy TaskEvidenceEvent.sequence events
  match ordered.getLast? with
  | none => .ok (.declare definition)
  | some latest =>
    TaskRecord.create { TaskRecord.declare definition with
      state := latest.state
      ownerVehicleId := latest.ownerVehicleId
      leaseGeneration := latest.leaseGeneration
      progressPercent := latest.progressPercent
      decision := replayDecision latest.state
      terminalReason := latest.reason
      childMissionRunId := latest.childMissionRunId
      events := ordered }

end CrazySwarm
