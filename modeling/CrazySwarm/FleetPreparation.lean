import CrazySwarm.SupervisorCleanup

/-! The preparation of a fleet for a mission: the lifecycle record of each vehicle, and how the
vehicles are disconnected when the mission is over. -/
namespace CrazySwarm
open PyFloat PyMath

section Records

inductive RegistrationState where
  | declared | discovered | identityBound | verified
  deriving DecidableEq, Repr

inductive ConnectionState where
  | disconnected | connecting | ready | fault
  deriving DecidableEq, Repr

inductive MissionRoleState where
  | unassigned | active | reserve | handover | returning | docked | charging
  deriving DecidableEq, Repr

inductive ObservationState where
  | notObserved | current | stale | completedSnapshot
  deriving DecidableEq, Repr

inductive ExecutionSessionStatus where
  | declared | preparing | observing | ready | fault | closed
  deriving DecidableEq, Repr

structure FleetVehicleLifecycle (F : Type) where
  vehicleId : String
  configuredHome : Vector3 F
  registration : RegistrationState := .declared
  connection : ConnectionState := .disconnected
  missionRole : MissionRoleState := .unassigned
  observation : ObservationState := .notObserved
  latestTelemetry : Option (TelemetryEnvelope F) := none
  observedAtMonotonicS : Option F := none
  preflightApproved : Bool := false
  readinessSamples : Nat := 0
  readinessReason : String := "WAITING_FOR_CONNECTION"
  faultReason : Option String := none

structure PreparationEvent (F : Type) where
  sequence : Nat
  vehicleId : String
  eventType : String
  timestampMonotonicS : F
  registration : RegistrationState
  connection : ConnectionState
  missionRole : MissionRoleState
  observation : ObservationState

structure ExecutionSessionRecord (F : Type) where
  executionSessionId : String
  status : ExecutionSessionStatus
  vehicles : List (FleetVehicleLifecycle F)
  events : List (PreparationEvent F)

/-- `vehicles` are the keys of the discovered adapters and `records` the declared fleet. The
supervisor counts the readings of the clock that both take. -/
structure FleetPreparation (F : Type) [PyMath F] where
  executionSessionId : String
  supervisor : SafetySupervisor F
  vehicles : List String
  records : Dict String (FleetVehicleLifecycle F)
  status : ExecutionSessionStatus := .declared
  events : List (PreparationEvent F) := []

end Records

namespace FleetPreparation

variable {F : Type} [PyMath F]

def record (p : FleetPreparation F) : ExecutionSessionRecord F where
  executionSessionId := p.executionSessionId
  status := p.status
  vehicles := (Sorting.sortBy id p.records.keys).filterMap p.records.get?
  events := p.events

def vehicle (p : FleetPreparation F) (vehicleId : String) :
    Except (Raised F) (FleetVehicleLifecycle F) :=
  match p.records.get? vehicleId with
  | some lifecycle => .ok lifecycle
  | none => .error (.error .identityMismatch ("vehicle is not declared: " ++ vehicleId))

variable (clock : MonotonicClock F)

/-- `_emit`. -/
def emit (p : FleetPreparation F) (vehicleId : String) (lifecycle : FleetVehicleLifecycle F)
    (eventType : String) : FleetPreparation F :=
  { p with
    supervisor := { p.supervisor with ticks := p.supervisor.ticks + 1 }
    events := p.events ++ [{
      sequence := p.events.length + 1
      vehicleId
      eventType
      timestampMonotonicS := clock.read p.supervisor.ticks
      registration := lifecycle.registration
      connection := lifecycle.connection
      missionRole := lifecycle.missionRole
      observation := lifecycle.observation }] }

/-- The record of a vehicle that was disconnected. -/
def terminalSnapshot (lifecycle : FleetVehicleLifecycle F) : FleetVehicleLifecycle F :=
  { lifecycle with
    connection := .disconnected
    observation := if lifecycle.latestTelemetry.isSome then .completedSnapshot else .notObserved
    preflightApproved := false
    readinessReason := "TERMINAL_SNAPSHOT" }

/-- What the adapter of each vehicle answers to the waits of its disconnection, in turn. -/
abbrev Answers (F : Type) [PyMath F] := String → Nat → (on : Awaited F) → Reply on

variable (answers : Answers F)

/-- `await self.supervisor.disconnect(vehicle_id)`. -/
def supervisorDisconnect (vehicleId : String) (s : SafetySupervisor F) :
    SafetySupervisor F × Except (Raised F) Unit :=
  let (s, _, result) :=
    (SafetySupervisor.disconnect clock vehicleId none).answered (answers vehicleId) 0 s
  (s, result)

/-- One turn of the loop of `disconnect_all_safe`. -/
def disconnectVehicle (p : FleetPreparation F) (vehicleId : String) :
    FleetPreparation F × Except (Raised F) Unit :=
  match p.supervisor.held vehicleId with
  | none => (p, .error (.error .identityMismatch ("unknown vehicle: " ++ vehicleId)))
  | some session =>
    if session.state = .disconnected then (p, .ok ())
    else
      let (supervisor, result) := supervisorDisconnect clock answers vehicleId p.supervisor
      let p := { p with supervisor }
      match result with
      | .error raised => (p, .error raised)
      | .ok () =>
        match p.vehicle vehicleId with
        | .error raised => (p, .error raised)
        | .ok lifecycle =>
          let lifecycle := terminalSnapshot lifecycle
          (emit clock { p with records := p.records.insert vehicleId lifecycle } vehicleId lifecycle
            "DISCONNECTED_SAFE", .ok ())

def disconnectEach : List String → FleetPreparation F → FleetPreparation F × Except (Raised F) Unit
  | [], p => (p, .ok ())
  | vehicleId :: rest, p =>
    match disconnectVehicle clock answers p vehicleId with
    | (p, .error raised) => (p, .error raised)
    | (p, .ok ()) => disconnectEach rest p

def disconnectAllSafe (p : FleetPreparation F) :
    FleetPreparation F × Except (Raised F) (ExecutionSessionRecord F) :=
  match disconnectEach clock answers (Sorting.sortBy id p.vehicles) p with
  | (p, .error raised) => (p, .error raised)
  | (p, .ok ()) =>
    let p := { p with status := .closed }
    (p, .ok p.record)

end FleetPreparation

end CrazySwarm
