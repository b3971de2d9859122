import CrazySwarm.TaskLedger
import Mathlib.Data.Prod.Lex

/-! Allocation and reserve handover. Ownership lives in the task ledger and moves only at
takeover; the handovers are a second store beside it. The hash of a result is left out. -/
namespace CrazySwarm
open PyFloat

variable {F : Type} [PyFloat F]

inductive CoverageVehicleState where
  | active | reserve | handover | returning | unavailable
  deriving DecidableEq, Repr

inductive HandoverPhase where
  | requested | replacementSelected | preparing | takeoverPending | takeoverConfirmed
  | outgoingReleased | completed | degraded | failed
  deriving DecidableEq, Repr

structure CoverageCandidate (F : Type) where
  vehicleId : String
  capabilities : List VehicleCapability
  batteryPercent : F
  positionM : Vector3 F
  state : CoverageVehicleState
  connected : Bool := true
  armed : Bool := false
  available : Bool := true
  deriving DecidableEq, Repr

def CoverageCandidate.reserveReady (candidate : CoverageCandidate F) : Bool :=
  candidate.available && candidate.connected && !candidate.armed && candidate.state = .reserve

structure AllocationDecision (F : Type) where
  taskId : String
  vehicleId : String
  taskPriority : Nat
  distanceM : F
  observedBatteryPercent : F
  predictedEnergyMarginPercent : F
  score : F
  reason : String
  deriving DecidableEq, Repr

inductive SeparationThreshold where
  | clear | warning | critical
  deriving DecidableEq, Repr

inductive SeparationAction where
  | none | hold | blockHandover
  deriving DecidableEq, Repr

structure CoverageSeparation (F : Type) where
  firstVehicleId : String
  secondVehicleId : String
  distanceM : F
  threshold : SeparationThreshold
  action : SeparationAction
  deriving DecidableEq, Repr

structure HandoverEvent (F : Type) where
  sequence : Nat
  handoverId : String
  taskId : String
  phase : HandoverPhase
  timestampMonotonicS : F
  outgoingVehicleId : String
  incomingVehicleId : Option String
  leaseGeneration : Nat
  reason : String
  deriving DecidableEq, Repr

structure HandoverRecord (F : Type) where
  handoverId : String
  taskId : String
  outgoingVehicleId : String
  incomingVehicleId : Option String := none
  reason : String
  phase : HandoverPhase
  outgoingLeaseGeneration : Nat
  incomingLeaseGeneration : Option Nat := none
  requestedAtMonotonicS : F
  replacementReadyAtMonotonicS : Option F := none
  takeoverConfirmedAtMonotonicS : Option F := none
  outgoingReleasedAtMonotonicS : Option F := none
  predictedEnergyMarginPercent : Option F := none
  takeoverConfirmed : Bool := false
  releaseReason : Option String := none
  events : List (HandoverEvent F) := []
  deriving DecidableEq, Repr

def HandoverRecord.active (record : HandoverRecord F) : Bool :=
  record.phase ∉ [.completed, .degraded, .failed]

/-- `incoming_lease_generation or outgoing_lease_generation`. -/
def HandoverRecord.eventLeaseGeneration (record : HandoverRecord F) : Nat :=
  match record.incomingLeaseGeneration with
  | some (generation + 1) => generation + 1
  | _ => record.outgoingLeaseGeneration

inductive InitialFleetRole where
  | active | reserve | unassigned
  deriving DecidableEq, Repr

structure FleetMemberDefinition where
  vehicleId : String
  initialRole : InitialFleetRole
  deriving DecidableEq, Repr

structure ZoneDefinition (F : Type) where
  zoneId : String
  minimumM : Vector3 F
  maximumM : Vector3 F
  deriving DecidableEq, Repr

def ZoneDefinition.centerM (zone : ZoneDefinition F) : Vector3 F where
  x := div (add zone.minimumM.x zone.maximumM.x) (ofRat 2)
  y := div (add zone.minimumM.y zone.maximumM.y) (ofRat 2)
  z := div (add zone.minimumM.z zone.maximumM.z) (ofRat 2)

structure FleetConstraints (F : Type) where
  warningSeparationM : F
  criticalSeparationM : F
  deriving DecidableEq, Repr

/-- The fields below the data are what the manifest's validator enforces. -/
structure DeploymentManifest (F : Type) where
  fleet : List FleetMemberDefinition
  zones : List (ZoneDefinition F)
  tasks : List (DeploymentTaskDefinition F)
  constraints : FleetConstraints F
  sha256 : String
  fleetUnique : (fleet.map FleetMemberDefinition.vehicleId).Nodup
  zonesUnique : (zones.map ZoneDefinition.zoneId).Nodup
  tasksUnique : (tasks.map DeploymentTaskDefinition.taskId).Nodup
  zonesKnown : ∀ task ∈ tasks, task.zoneId ∈ zones.map ZoneDefinition.zoneId

def AllocationDecision.create (decision : AllocationDecision F) :
    Except (Fault F) (AllocationDecision F) :=
  validated "AllocationDecision" [
    ("task_id", isIdentifier decision.taskId),
    ("vehicle_id", isIdentifier decision.vehicleId),
    ("distance_m", ge decision.distanceM zero),
    ("observed_battery_percent", percentage decision.observedBatteryPercent)] decision

def CoverageSeparation.create (separation : CoverageSeparation F) :
    Except (Fault F) (CoverageSeparation F) :=
  validated "CoverageSeparation" [
    ("first_vehicle_id", isIdentifier separation.firstVehicleId),
    ("second_vehicle_id", isIdentifier separation.secondVehicleId),
    ("distance_m", ge separation.distanceM zero)] separation

def HandoverEvent.create (event : HandoverEvent F) : Except (Fault F) (HandoverEvent F) :=
  validated "HandoverEvent" [
    ("sequence", 1 ≤ event.sequence),
    ("handover_id", isIdentifier event.handoverId),
    ("task_id", isIdentifier event.taskId),
    ("timestamp_monotonic_s", ge event.timestampMonotonicS zero),
    ("outgoing_vehicle_id", isIdentifier event.outgoingVehicleId),
    ("incoming_vehicle_id", optionalIdentifier event.incomingVehicleId),
    ("lease_generation", 1 ≤ event.leaseGeneration)] event

def HandoverRecord.create (record : HandoverRecord F) : Except (Fault F) (HandoverRecord F) :=
  validated "HandoverRecord" [
    ("handover_id", isIdentifier record.handoverId),
    ("task_id", isIdentifier record.taskId),
    ("outgoing_vehicle_id", isIdentifier record.outgoingVehicleId),
    ("outgoing_lease_generation", 1 ≤ record.outgoingLeaseGeneration),
    ("requested_at_monotonic_s", ge record.requestedAtMonotonicS zero)] record

def distance (first second : Vector3 F) : F :=
  let square (a b : F) := mul (sub a b) (sub a b)
  sqrt (add (add (square first.x second.x) (square first.y second.y)) (square first.z second.z))

/-- `_candidate`: the first candidate with the identifier. -/
def findCandidate (candidates : List (CoverageCandidate F)) (vehicleId : String) :
    Except (Fault F) (CoverageCandidate F) :=
  match candidates.find? fun candidate => candidate.vehicleId = vehicleId with
  | some candidate => .ok candidate
  | none => .error (.crazySwarm .identityMismatch "handover vehicle is unavailable" .none)

/-- The state of a `PersistentCoverageCoordinator`. -/
structure PersistentCoverage (F : Type) where
  deployment : DeploymentManifest F
  tasks : TaskLedger F
  vehicleStates : Dict String CoverageVehicleState
  handovers : Dict String (HandoverRecord F)
  handoverSequence : Nat
  separation : List (CoverageSeparation F)

namespace PersistentCoverage

def create (fleetSessionId fleetRunId : String) (deployment : DeploymentManifest F)
    (taskLeaseDurationS : F) (clock : Nat → F) : Except (Fault F) (PersistentCoverage F) := do
  require (3 ≤ deployment.fleet.length && 2 ≤ deployment.tasks.length)
    (.value "persistent coverage requires at least three vehicles and two tasks")
  let tasks ← TaskLedger.create fleetSessionId fleetRunId deployment.sha256 deployment.tasks
    taskLeaseDurationS clock
  .ok {
    deployment := deployment
    tasks := tasks
    vehicleStates := .ofList (deployment.fleet.map fun member =>
      (member.vehicleId, if member.initialRole = .reserve then .reserve else .active))
    handovers := .empty
    handoverSequence := 0
    separation := [] }

/-- One candidate's entry in `_select`: skipped without the capabilities or the energy. -/
def score (definition : DeploymentTaskDefinition F) (zone : ZoneDefinition F)
    (allowInadequateEnergy : Bool) (candidate : CoverageCandidate F) :
    Except (Fault F) (Option (AllocationDecision F)) :=
  let margin := sub candidate.batteryPercent (TaskLedger.requiredEnergy definition)
  if !definition.requiredCapabilities.all (· ∈ candidate.capabilities) then .ok none
  else if lt margin zero && !allowInadequateEnergy then .ok none
  else
    let distance := distance candidate.positionM zone.centerM
    (AllocationDecision.create {
      taskId := definition.taskId
      vehicleId := candidate.vehicleId
      taskPriority := definition.priority
      distanceM := distance
      observedBatteryPercent := candidate.batteryPercent
      predictedEnergyMarginPercent := margin
      score := sub (add (mul (ofRat definition.priority) (ofRat 1000)) margin)
        (mul distance (ofRat 10))
      reason := "capability, availability, energy margin, distance, and priority" }).map some

def decisions (definition : DeploymentTaskDefinition F) (zone : ZoneDefinition F)
    (allowInadequateEnergy : Bool) : List (CoverageCandidate F) →
    Except (Fault F) (List (AllocationDecision F))
  | [] => .ok []
  | candidate :: rest => do
    let first ← score definition zone allowInadequateEnergy candidate
    let later ← decisions definition zone allowInadequateEnergy rest
    .ok (first.toList ++ later)

/-- Order of the keys `(score, vehicle_id)`. -/
def below (left right : AllocationDecision F) : Bool :=
  if eq left.score right.score then left.vehicleId < right.vehicleId
  else lt left.score right.score

def best (first : AllocationDecision F) (rest : List (AllocationDecision F)) :
    AllocationDecision F :=
  Sorting.leastBy (fun item best => below best item) first rest

def select (coordinator : PersistentCoverage F) (taskId : String)
    (candidates : List (CoverageCandidate F)) (allowInadequateEnergy : Bool) :
    Except (Fault F) (AllocationDecision F) := do
  let task ← coordinator.tasks.record taskId
  match coordinator.deployment.zones.find? fun zone => zone.zoneId = task.definition.zoneId with
  | none => .error (.value "StopIteration")
  | some zone =>
    let decisions ← decisions task.definition zone allowInadequateEnergy candidates
    match decisions with
    | [] => .error (.crazySwarm .preflightFailed
        "no serviceable vehicle satisfies coverage allocation" .none)
    | first :: rest => .ok (best first rest)

def eligibleActive (available : Dict String (CoverageCandidate F)) (claimed : List String)
    (preferred : Option (Dict String String)) (taskId : String) : List (CoverageCandidate F) :=
  available.values.filter fun item =>
    item.vehicleId ∉ claimed && item.available && item.connected && item.state = .active &&
      preferred.all fun assignments => assignments.get? taskId = some item.vehicleId

/-- The allocation loop: each task in turn claims one vehicle, and a failure keeps the
assignments already made. -/
def allocateEach (available : Dict String (CoverageCandidate F)) (allowInadequateEnergy : Bool)
    (preferred : Option (Dict String String)) (nowS : Option F) (clock : Nat → F) :
    List (DeploymentTaskDefinition F) → List String → List (AllocationDecision F) →
    PersistentCoverage F → PersistentCoverage F × Except (Fault F) (List (AllocationDecision F))
  | [], _, decisions, coordinator => (coordinator, .ok decisions)
  | definition :: rest, claimed, decisions, coordinator =>
    match coordinator.select definition.taskId
        (eligibleActive available claimed preferred definition.taskId) allowInadequateEnergy with
    | .error fault => (coordinator, .error fault)
    | .ok decision =>
      match available.get? decision.vehicleId with
      | none => (coordinator, .error (.value "KeyError"))
      | some candidate =>
        match coordinator.tasks.assign definition.taskId decision.vehicleId candidate.capabilities
            (some candidate.batteryPercent) allowInadequateEnergy nowS clock with
        | (tasks, .error fault) => ({ coordinator with tasks := tasks }, .error fault)
        | (tasks, .ok _) =>
          allocateEach available allowInadequateEnergy preferred nowS (fun i => clock (i + 2)) rest
            (decision.vehicleId :: claimed) (decisions ++ [decision])
            { coordinator with tasks := tasks }

def byPriority (tasks : List (DeploymentTaskDefinition F)) : List (DeploymentTaskDefinition F) :=
  Sorting.sortBy (fun item => toLex (-(item.priority : Int), item.taskId)) tasks

def allocateInitial (coordinator : PersistentCoverage F) (candidates : List (CoverageCandidate F))
    (allowInadequateEnergy : Bool) (preferred : Option (Dict String String)) (nowS : Option F)
    (clock : Nat → F) :
    PersistentCoverage F × Except (Fault F) (List (AllocationDecision F)) :=
  andThen
    (allocateEach (.ofList (candidates.map fun item => (item.vehicleId, item)))
      allowInadequateEnergy preferred nowS clock (byPriority coordinator.deployment.tasks) [] []
      coordinator)
    fun allocated decisions =>
      if decisions.length ≠ allocated.deployment.tasks.length then
        (allocated, .error (.crazySwarm .preflightFailed "coverage allocation is incomplete" .none))
      else (allocated, .ok decisions)

/-- `_event`: the sequence number is spent before the event is validated. -/
def event (coordinator : PersistentCoverage F) (record : HandoverRecord F) (phase : HandoverPhase)
    (reason : String) (timestamp : F) :
    PersistentCoverage F × Except (Fault F) (HandoverRecord F) :=
  let spent := { coordinator with handoverSequence := coordinator.handoverSequence + 1 }
  let created := HandoverEvent.create {
    sequence := spent.handoverSequence
    handoverId := record.handoverId
    taskId := record.taskId
    phase := phase
    timestampMonotonicS := timestamp
    outgoingVehicleId := record.outgoingVehicleId
    incomingVehicleId := record.incomingVehicleId
    leaseGeneration := record.eventLeaseGeneration
    reason := reason }
  (spent, created.map fun event =>
    { record with phase := phase, events := record.events ++ [event] })

def keep (coordinator : PersistentCoverage F) (handoverId : String) (record : HandoverRecord F) :
    PersistentCoverage F :=
  { coordinator with handovers := coordinator.handovers.insert handoverId record }

def setVehicle (coordinator : PersistentCoverage F) (vehicleId : String)
    (state : CoverageVehicleState) : PersistentCoverage F :=
  { coordinator with vehicleStates := coordinator.vehicleStates.insert vehicleId state }

def handoverId (taskId : String) (generation : Nat) : String :=
  "handover-" ++ taskId ++ "-" ++ toString generation

/-- The checks of `begin_handover`: a leased task without an active handover. -/
def beginGuard (coordinator : PersistentCoverage F) (taskId : String) :
    Except (Fault F) (TaskRecord F × String) := do
  let task ← coordinator.tasks.record taskId
  match task.ownerVehicleId, task.lease with
  | some owner, some _ =>
    require (!coordinator.handovers.values.any fun item => item.taskId = taskId && item.active)
      (.crazySwarm .invalidState "task already has an active handover" .none)
    .ok (task, owner)
  | _, _ => .error (.crazySwarm .invalidState "task has no current owner" .none)

def currentOwners (coordinator : PersistentCoverage F) : List String :=
  (coordinator.tasks.records.values.filterMap TaskRecord.ownerVehicleId).filter (· ≠ "")

def reservedForOtherHandover (coordinator : PersistentCoverage F) : List (Option String) :=
  (coordinator.handovers.values.filter HandoverRecord.active).map HandoverRecord.incomingVehicleId

def eligibleReserve (coordinator : PersistentCoverage F)
    (candidates : List (CoverageCandidate F)) : List (CoverageCandidate F) :=
  candidates.filter fun item =>
    item.reserveReady && item.vehicleId ∉ coordinator.currentOwners &&
      some item.vehicleId ∉ coordinator.reservedForOtherHandover

/-- The record a handover opens with, named after the next lease generation of its task. -/
def request (task : TaskRecord F) (taskId owner reason : String) (timestamp : F) :
    HandoverRecord F where
  handoverId := handoverId taskId (task.leaseGeneration + 1)
  taskId := taskId
  outgoingVehicleId := owner
  reason := reason
  phase := .requested
  outgoingLeaseGeneration := task.leaseGeneration
  requestedAtMonotonicS := timestamp

/-- The handover is filed under its name. Without a serviceable reserve it is filed as degraded. -/
def beginHandover (coordinator : PersistentCoverage F) (taskId reason : String)
    (candidates : List (CoverageCandidate F)) (nowS : Option F) (clock : Nat → F) :
    PersistentCoverage F × Except (Fault F) (HandoverRecord F) :=
  let timestamp := now nowS (clock 0)
  match coordinator.beginGuard taskId with
  | .error fault => (coordinator, .error fault)
  | .ok (task, owner) =>
    let key := handoverId taskId (task.leaseGeneration + 1)
    match HandoverRecord.create (request task taskId owner reason timestamp) with
    | .error fault => (coordinator, .error fault)
    | .ok record =>
      andThen (coordinator.event record .requested reason timestamp) fun coordinator record =>
      match coordinator.select taskId (coordinator.eligibleReserve candidates) false with
      | .error (.crazySwarm _ _ _) =>
        andThen (coordinator.event { record with phase := .degraded } .degraded
          "NO_SERVICEABLE_RESERVE" timestamp) fun coordinator record =>
        (coordinator.keep key record, .ok record)
      | .error fault => (coordinator, .error fault)
      | .ok decision =>
        andThen (coordinator.event { record with
            incomingVehicleId := some decision.vehicleId
            phase := .preparing
            predictedEnergyMarginPercent := some decision.predictedEnergyMarginPercent }
          .replacementSelected reason timestamp) fun coordinator record =>
        andThen (coordinator.event record .preparing "replacement preparation started" timestamp)
          fun coordinator record =>
        ((coordinator.setVehicle decision.vehicleId .handover).keep key record, .ok record)

def handover (coordinator : PersistentCoverage F) (key : String) :
    Except (Fault F) (HandoverRecord F) :=
  match coordinator.handovers.get? key with
  | some record => .ok record
  | none => .error (.crazySwarm .invalidCommand "unknown handover" .none)

def readyGuard (coordinator : PersistentCoverage F) (key : String)
    (candidates : List (CoverageCandidate F)) : Except (Fault F) (HandoverRecord F) := do
  let record ← coordinator.handover key
  match record.phase, record.incomingVehicleId with
  | .preparing, some vehicleId =>
    let incoming ← findCandidate candidates vehicleId
    require (incoming.connected && incoming.available)
      (.crazySwarm .preflightFailed "replacement is unavailable" .none)
    .ok record
  | _, _ => .error (.crazySwarm .invalidState "handover is not preparing" .none)

def confirmReplacementReady (coordinator : PersistentCoverage F) (key : String)
    (candidates : List (CoverageCandidate F)) (nowS : Option F) (clock : Nat → F) :
    PersistentCoverage F × Except (Fault F) (HandoverRecord F) :=
  let timestamp := now nowS (clock 0)
  match coordinator.readyGuard key candidates with
  | .error fault => (coordinator, .error fault)
  | .ok record =>
    andThen (coordinator.event { record with
        phase := .takeoverPending, replacementReadyAtMonotonicS := some timestamp }
      .takeoverPending "replacement ready; outgoing lease retained" timestamp)
      fun coordinator updated =>
    (coordinator.keep key updated, .ok updated)

def threshold (constraints : FleetConstraints F) (distance : F) :
    SeparationThreshold × SeparationAction :=
  if le distance constraints.criticalSeparationM then (.critical, .blockHandover)
  else if le distance constraints.warningSeparationM then (.warning, .hold)
  else (.clear, .none)

def separationsFrom (constraints : FleetConstraints F) (first : CoverageCandidate F) :
    List (CoverageCandidate F) → Except (Fault F) (List (CoverageSeparation F))
  | [] => .ok []
  | second :: rest => do
    let distance := distance first.positionM second.positionM
    let (threshold, action) := threshold constraints distance
    let observed ← CoverageSeparation.create
      ⟨first.vehicleId, second.vehicleId, distance, threshold, action⟩
    let later ← separationsFrom constraints first rest
    .ok (observed :: later)

def separations (constraints : FleetConstraints F) :
    List (CoverageCandidate F) → Except (Fault F) (List (CoverageSeparation F))
  | [] => .ok []
  | first :: rest => do
    let observed ← separationsFrom constraints first rest
    let later ← separations constraints rest
    .ok (observed ++ later)

/-- The observations are kept even when a critical one blocks the handover. -/
def enforceSeparation (coordinator : PersistentCoverage F)
    (candidates : List (CoverageCandidate F)) :
    PersistentCoverage F × Except (Fault F) (List (CoverageSeparation F)) :=
  let positioned := Sorting.sortBy CoverageCandidate.vehicleId
    (candidates.filter CoverageCandidate.available)
  match separations coordinator.deployment.constraints positioned with
  | .error fault => (coordinator, .error fault)
  | .ok observations =>
    let observed := { coordinator with separation := coordinator.separation ++ observations }
    if observations.any fun item => item.threshold = .critical then
      (observed, .error (.crazySwarm .preflightFailed "critical separation blocks handover" .none))
    else (observed, .ok observations)

def takeoverGuard (coordinator : PersistentCoverage F) (key : String)
    (candidates : List (CoverageCandidate F)) :
    Except (Fault F) (HandoverRecord F × CoverageCandidate F) := do
  let record ← coordinator.handover key
  match record.phase, record.incomingVehicleId with
  | .takeoverPending, some vehicleId =>
    let incoming ← findCandidate candidates vehicleId
    .ok (record, incoming)
  | _, _ => .error (.crazySwarm .invalidState "replacement is not ready for takeover" .none)

def confirmTakeover (coordinator : PersistentCoverage F) (key : String)
    (candidates : List (CoverageCandidate F)) (nowS : Option F) (clock : Nat → F) :
    PersistentCoverage F × Except (Fault F) (HandoverRecord F) :=
  let timestamp := now nowS (clock 0)
  match coordinator.takeoverGuard key candidates with
  | .error fault => (coordinator, .error fault)
  | .ok (record, incoming) =>
    andThen (coordinator.enforceSeparation candidates) fun coordinator _ =>
    match coordinator.tasks.transfer record.taskId record.outgoingVehicleId incoming.vehicleId
        record.outgoingLeaseGeneration incoming.capabilities (some incoming.batteryPercent)
        record.reason (some timestamp) (fun i => clock (i + 1)) with
    | (tasks, .error fault) => ({ coordinator with tasks := tasks }, .error fault)
    | (tasks, .ok transferred) =>
      andThen (({ coordinator with tasks := tasks }).event { record with
          phase := .takeoverConfirmed
          incomingLeaseGeneration := some transferred.leaseGeneration
          takeoverConfirmedAtMonotonicS := some timestamp
          takeoverConfirmed := true }
        .takeoverConfirmed "atomic task lease transfer confirmed" timestamp)
        fun coordinator updated =>
      (((coordinator.setVehicle incoming.vehicleId .active).setVehicle record.outgoingVehicleId
        .returning).keep key updated, .ok updated)

def releaseGuard (coordinator : PersistentCoverage F) (key : String) :
    Except (Fault F) (HandoverRecord F) := do
  let record ← coordinator.handover key
  require (record.phase = .takeoverConfirmed && record.takeoverConfirmed)
    (.crazySwarm .modeNotAuthorized "outgoing vehicle cannot be released before confirmed takeover"
      .none)
  .ok record

def releaseOutgoing (coordinator : PersistentCoverage F) (key reason : String) (nowS : Option F)
    (clock : Nat → F) : PersistentCoverage F × Except (Fault F) (HandoverRecord F) :=
  let timestamp := now nowS (clock 0)
  match coordinator.releaseGuard key with
  | .error fault => (coordinator, .error fault)
  | .ok record =>
    andThen (coordinator.event { record with
        phase := .outgoingReleased
        outgoingReleasedAtMonotonicS := some timestamp
        releaseReason := some reason } .outgoingReleased reason timestamp)
      fun coordinator updated =>
    andThen (coordinator.event { updated with phase := .completed } .completed "handover completed"
      timestamp) fun coordinator updated =>
    (coordinator.keep key updated, .ok updated)

def terminateGuard (coordinator : PersistentCoverage F) (key : String) :
    Except (Fault F) (HandoverRecord F) := do
  let record ← coordinator.handover key
  require (!(record.takeoverConfirmed || record.phase = .completed))
    (.crazySwarm .invalidState
      "confirmed or completed handover cannot be terminated as unconfirmed" .none)
  .ok record

def close (coordinator : PersistentCoverage F) (key reason : String) (record : HandoverRecord F)
    (phase : HandoverPhase) (replacement : CoverageVehicleState) (timestamp : F) :
    PersistentCoverage F × Except (Fault F) (HandoverRecord F) :=
  andThen (coordinator.event { record with phase := phase, releaseReason := some reason } phase
    reason timestamp) fun coordinator updated =>
  let coordinator := match record.incomingVehicleId with
    | some vehicleId => coordinator.setVehicle vehicleId replacement
    | none => coordinator
  (coordinator.keep key updated, .ok updated)

def terminateHandover (coordinator : PersistentCoverage F) (key reason : String) (failed : Bool)
    (nowS : Option F) (clock : Nat → F) :
    PersistentCoverage F × Except (Fault F) (HandoverRecord F) :=
  match coordinator.terminateGuard key with
  | .error fault => (coordinator, .error fault)
  | .ok record =>
    coordinator.close key reason record (if failed then .failed else .degraded) .reserve
      (now nowS (clock 0))

def failHandover (coordinator : PersistentCoverage F) (key reason : String) (nowS : Option F)
    (clock : Nat → F) : PersistentCoverage F × Except (Fault F) (HandoverRecord F) :=
  match coordinator.handover key with
  | .error fault => (coordinator, .error fault)
  | .ok record =>
    if record.phase = .failed then (coordinator, .ok record)
    else coordinator.close key reason record .failed .unavailable (now nowS (clock 0))

inductive Status where
  | succeeded | degraded | failed
  deriving DecidableEq, Repr

def Status.reasonCode : Status → String
  | .succeeded => "COVERAGE_MAINTAINED"
  | .degraded => "NO_SERVICEABLE_RESERVE"
  | .failed => "HANDOVER_FAILED"

structure Result (F : Type) where
  status : Status
  reasonCode : String
  activeOwners : List (String × String)
  handovers : List (HandoverRecord F)
  separation : List (CoverageSeparation F)

def result (coordinator : PersistentCoverage F) : Result F :=
  let handovers := (Sorting.sortBy id coordinator.handovers.keys).filterMap
    coordinator.handovers.get?
  let status :=
    if handovers.any fun item => item.phase = .failed then .failed
    else if handovers.any fun item => item.phase = .degraded then .degraded
    else .succeeded
  { status := status
    reasonCode := status.reasonCode
    activeOwners := (Sorting.sortBy id coordinator.tasks.records.keys).filterMap fun taskId =>
      (coordinator.tasks.records.get? taskId).bind fun task =>
        task.ownerVehicleId.map fun owner => (task.definition.taskId, owner)
    handovers := handovers
    separation := coordinator.separation }

/-- The public operations with their arguments. -/
inductive Op (F : Type) where
  | allocateInitial (candidates : List (CoverageCandidate F)) (allowInadequateEnergy : Bool)
      (preferred : Option (Dict String String)) (nowS : Option F)
  | beginHandover (taskId reason : String) (candidates : List (CoverageCandidate F))
      (nowS : Option F)
  | confirmReplacementReady (key : String) (candidates : List (CoverageCandidate F))
      (nowS : Option F)
  | confirmTakeover (key : String) (candidates : List (CoverageCandidate F)) (nowS : Option F)
  | releaseOutgoing (key reason : String) (nowS : Option F)
  | terminateHandover (key reason : String) (failed : Bool) (nowS : Option F)
  | failHandover (key reason : String) (nowS : Option F)

/-- One call of a run: the operation and what the clock reads while it runs. -/
structure Call (F : Type) [PyFloat F] where
  op : Op F
  clock : MonotonicClock F

/-- The handover record a call returns; the initial allocation returns none. -/
def perform (coordinator : PersistentCoverage F) (call : Call F) :
    PersistentCoverage F × Except (Fault F) (Option (HandoverRecord F)) :=
  let returned (result : PersistentCoverage F × Except (Fault F) (HandoverRecord F)) :=
    (result.1, result.2.map some)
  let clock := call.clock.read
  match call.op with
  | .allocateInitial candidates allow preferred nowS =>
    let result := coordinator.allocateInitial candidates allow preferred nowS clock
    (result.1, result.2.map fun _ => none)
  | .beginHandover taskId reason candidates nowS =>
    returned (coordinator.beginHandover taskId reason candidates nowS clock)
  | .confirmReplacementReady key candidates nowS =>
    returned (coordinator.confirmReplacementReady key candidates nowS clock)
  | .confirmTakeover key candidates nowS =>
    returned (coordinator.confirmTakeover key candidates nowS clock)
  | .releaseOutgoing key reason nowS => returned (coordinator.releaseOutgoing key reason nowS clock)
  | .terminateHandover key reason failed nowS =>
    returned (coordinator.terminateHandover key reason failed nowS clock)
  | .failHandover key reason nowS => returned (coordinator.failHandover key reason nowS clock)

def step (coordinator : PersistentCoverage F) (call : Call F) : PersistentCoverage F :=
  (coordinator.perform call).1

section ThreeDrone

def coverageTask (taskId zoneId : String) (priority : Nat) : DeploymentTaskDefinition ℚ :=
  ⟨taskId, zoneId, priority, [.relativePositioning, .highLevelCommands], 100, 40, 15⟩

/-- The shipped configuration `three-drone-persistent-coverage-v1`. -/
def threeDrone : DeploymentManifest ℚ where
  fleet := [⟨"cf01", .active⟩, ⟨"cf02", .active⟩, ⟨"cf03", .reserve⟩]
  zones := [⟨"zone-a", ⟨-3/2, -3/10, 0⟩, ⟨-9/10, 3/10, 1/2⟩⟩,
    ⟨"zone-b", ⟨9/10, -3/10, 0⟩, ⟨3/2, 3/10, 1/2⟩⟩]
  tasks := [coverageTask "cover-zone-a" "zone-a" 200, coverageTask "cover-zone-b" "zone-b" 190]
  constraints := ⟨3/4, 1/2⟩
  sha256 := "0000000000000000000000000000000000000000000000000000000000000000"
  fleetUnique := by decide
  zonesUnique := by decide
  tasksUnique := by decide
  zonesKnown := by decide

/-- The vehicles of that configuration at their homes; the reserve may be unavailable. -/
def threeVehicles (reserve : Bool) : List (CoverageCandidate ℚ) :=
  let vehicle := fun vehicleId battery position state available =>
    CoverageCandidate.mk vehicleId [.relativePositioning, .highLevelCommands] battery position state
      true false available
  [vehicle "cf01" 82 ⟨-6/5, 0, 0⟩ .active true, vehicle "cf02" 85 ⟨6/5, 0, 0⟩ .active true,
    vehicle "cf03" 96 ⟨0, -3/2, 0⟩ .reserve reserve]

/-- A call while the clock stands at one reading. -/
def callAt (reading : ℚ) (nonneg : ge reading zero = true) (op : Op ℚ) : Call ℚ :=
  ⟨op, fun _ => reading, fun _ => nonneg⟩

end ThreeDrone

end PersistentCoverage
end CrazySwarm
