import CrazySwarm.SafetySupervisor

/-! The mission runner: the tables of the active runs, and `run` and `cancel` as coroutines over
them. A run calls the supervisor in its own task; the tasks it creates call it on their own. -/
namespace CrazySwarm
open PyFloat PyMath

variable {F : Type} [PyMath F]

def ErrorCode.value : ErrorCode → String
  | invalidCommand => "INVALID_COMMAND"
  | invalidState => "INVALID_STATE"
  | modeNotAuthorized => "MODE_NOT_AUTHORIZED"
  | capabilityMissing => "CAPABILITY_MISSING"
  | preflightFailed => "PREFLIGHT_FAILED"
  | commandTimeout => "COMMAND_TIMEOUT"
  | commandDropped => "COMMAND_DROPPED"
  | linkLost => "LINK_LOST"
  | telemetryStale => "TELEMETRY_STALE"
  | localizationInvalid => "LOCALIZATION_INVALID"
  | criticalBattery => "CRITICAL_BATTERY"
  | geofenceBreach => "GEOFENCE_BREACH"
  | identityMismatch => "IDENTITY_MISMATCH"
  | emergencyStopped => "EMERGENCY_STOPPED"
  | internalError => "INTERNAL_ERROR"

inductive MissionStatus where
  | succeeded | aborted | failed
  deriving DecidableEq, Repr

def MissionStatus.value : MissionStatus → String
  | succeeded => "SUCCEEDED"
  | aborted => "ABORTED"
  | failed => "FAILED"

inductive MissionPhase where
  | validating | claimingControl | connecting | preflight | arming | takingOff | executing
  | landing | cleanup | complete
  deriving DecidableEq, Repr

structure MissionRunEvent (F : Type) where
  missionRunId : String
  sequence : Nat
  phase : MissionPhase
  timestampMonotonicS : F
  message : String
  deriving DecidableEq, Repr

structure MissionResult (F : Type) where
  missionRunId : String
  missionExecutionId : String
  missionId : String
  missionName : String
  missionVersion : String
  vehicleId : String
  mode : OperatingMode
  status : MissionStatus
  reasonCode : String
  message : String
  startedAtMonotonicS : F
  finishedAtMonotonicS : F
  events : List (MissionRunEvent F)
  deriving DecidableEq, Repr

structure MissionRunSnapshot (F : Type) where
  missionRunId : String
  missionExecutionId : String
  missionId : String
  missionName : String
  missionVersion : String
  vehicleId : String
  mode : OperatingMode
  phase : MissionPhase
  startedAtMonotonicS : F
  cancellationRequested : Bool := false
  result : Option (MissionResult F) := none
  deriving DecidableEq, Repr

/-- What `run` reads of a registered mission itself. -/
structure Mission where
  missionId : String
  name : String
  missionVersion : String
  requiredCapabilities : List VehicleCapability
  deriving DecidableEq, Repr

/-- What `run` reads of an accepted execution program. -/
structure AcceptedExecutionProgram where
  startsWithGroundWait : Bool
  deriving DecidableEq, Repr

/-- The arguments of `run`; `generated` is what the default identifier draws. -/
structure RunRequest where
  missionId : String
  vehicleId : String
  missionRunId : Option String := none
  generated : String := ""
  fleetBinding : Option FleetCommandBinding := none
  requirePrepared : Bool := false
  allowSimulationLowBattery : Bool := false
  acceptedExecutionProgram : Option AcceptedExecutionProgram := none
  deriving DecidableEq, Repr

/-- `mission_run_id or f"run-{uuid.uuid4().hex}"`. -/
def RunRequest.runId (request : RunRequest) : String :=
  match request.missionRunId with
  | some runId => if runId = "" then "run-" ++ request.generated else runId
  | none => "run-" ++ request.generated

def RunRequest.executionId (request : RunRequest) : String :=
  (request.fleetBinding.map FleetCommandBinding.fleetRunId).getD request.runId

/-- The registered missions, and the checks of `validate_parameters`, `_receipt_fields` and
`_validate_execution_authority`, which read the supervisor and change nothing. -/
structure MissionRegistry (F : Type) [PyMath F] where
  missions : Dict String Mission := .empty
  validate : RunRequest → SafetySupervisor F → Except (Raised F) Unit

def MissionRegistry.get (registry : MissionRegistry F) (missionId : String) :
    Except (Raised F) Mission :=
  match registry.missions.get? missionId with
  | some mission => .ok mission
  | none => .error (.fault (.crazySwarm .invalidCommand ("unknown mission: " ++ missionId)
      (.entries [("mission_id", .text missionId)])))

structure RunHandle where
  runId : String
  vehicleId : String
  cancelEvent : Nat
  task : Nat
  deriving DecidableEq, Repr

def RunHandle.ownerId (run : RunHandle) : String := "mission:" ++ run.runId

/-- The supervisor's operations that a run awaits itself. -/
inductive Site where
  | connect | preflight | arm | disarm | release | disconnect
  deriving DecidableEq, Repr

/-- What a task of the runner can wait for: inside an operation of the supervisor that is
called on its own or by a run, or in the run itself. -/
inductive RunnerAwaited (F : Type) [PyMath F] where
  | outside (on : Awaited F)
  | inside (run : RunHandle) (site : Site) (on : Awaited F)
  | bindRun (run : RunHandle)
  | groundWait (run : RunHandle)
  | authority (run : RunHandle) (site : Site)
  | flightOrWatchdog (run : RunHandle)
  | flight (run : RunHandle)
  | watchdog (run : RunHandle)
  | gathered (run : RunHandle)
  | recovery (run : RunHandle)
  | heartbeat (run : RunHandle)

/-- The first of flight and watchdog tells which has ended, and the flight the landing faults
that the watchdog deferred. -/
def RunnerReply : RunnerAwaited F → Type
  | .outside on | .inside _ _ on => Reply on
  | .flightOrWatchdog _ => Except (Raised F) Bool
  | .flight _ => Except (Raised F) (List (String × String))
  | _ => Except (Raised F) Unit

/-- `made` counts the events and tasks made so far; `isSet` are the events that are set, and
`cancelCalls` the tasks whose `cancel` has been called. -/
structure MissionRunner (F : Type) [PyMath F] where
  supervisor : SafetySupervisor F
  runs : Dict String (MissionRunSnapshot F) := .empty
  events : Dict String (List (MissionRunEvent F)) := .empty
  vehicleRuns : Dict String String := .empty
  cancelEvents : Dict String Nat := .empty
  tasks : Dict String Nat := .empty
  authorities : Dict String (Option FleetCommandBinding) := .empty
  made : Nat := 0
  isSet : List Nat := []
  cancelCalls : List Nat := []

abbrev RunnerCall (F : Type) [PyMath F] (α : Type) :=
  Coroutine (MissionRunner F) (RunnerAwaited F) (@RunnerReply F _) (Raised F) α

namespace MissionRunner
open Coroutine SafetySupervisor

variable (clock : MonotonicClock F) (registry : MissionRegistry F)

def refuse (code : ErrorCode) (message : String) : RunnerCall F α := raises (.error code message)

/-- An operation of the supervisor called on its own. -/
def outside (call : Call F α) : RunnerCall F α :=
  call.zoom supervisor (fun supervisor r => { r with supervisor }) .outside fun _ => id

/-- An operation of the supervisor that a run awaits. -/
def inside (run : RunHandle) (site : Site) (call : Call F α) : RunnerCall F α :=
  call.zoom supervisor (fun supervisor r => { r with supervisor }) (.inside run site) fun _ => id

def awaitBindRun (run : RunHandle) : RunnerCall F Unit := wait (.bindRun run) done
def awaitGroundWait (run : RunHandle) : RunnerCall F Unit := wait (.groundWait run) done
def awaitAuthority (run : RunHandle) (site : Site) : RunnerCall F Unit :=
  wait (.authority run site) done
def awaitFlightOrWatchdog (run : RunHandle) : RunnerCall F Bool := wait (.flightOrWatchdog run) done
def awaitFlight (run : RunHandle) : RunnerCall F (List (String × String)) :=
  wait (.flight run) done
def awaitWatchdog (run : RunHandle) : RunnerCall F Unit := wait (.watchdog run) done
def awaitGathered (run : RunHandle) : RunnerCall F Unit := wait (.gathered run) done
def awaitRecovery (run : RunHandle) : RunnerCall F Unit := wait (.recovery run) done
def awaitHeartbeat (run : RunHandle) : RunnerCall F Unit := wait (.heartbeat run) done

/-- `with suppress(...)`. -/
def suppress (kinds : Raised F → Bool) (body : RunnerCall F Unit) : RunnerCall F Unit :=
  body.rescue fun raised => if kinds raised then returns () else raises raised

def newObject : RunnerCall F Nat := do
  let r ← get
  modify fun r => { r with made := r.made + 1 }
  return r.made

def sessionOf (vehicleId : String) : RunnerCall F (VehicleSession F) :=
  outside do
    let ref ← session vehicleId
    load ref

def getRun (runId : String) : RunnerCall F (MissionRunSnapshot F) := do
  let r ← get
  match r.runs.get? runId with
  | some snapshot => return snapshot
  | none => refuse .invalidCommand ("unknown mission run: " ++ runId)

def setRun (runId : String) (snapshot : MissionRunSnapshot F) : RunnerCall F Unit :=
  modify fun r => { r with runs := r.runs.insert runId snapshot }

def subscript (table : Dict String α) (key : String) : RunnerCall F α :=
  match table.get? key with
  | some value => returns value
  | none => raises (.other "KeyError" key)

/-- `_phase`. -/
def phase (runId : String) (target : MissionPhase) (message : String) : RunnerCall F Unit := do
  let r ← get
  let snapshot ← subscript r.runs runId
  let events ← subscript r.events runId
  let timestampMonotonicS ← outside (monotonic clock)
  modify fun r => { r with
    events := r.events.insert runId
      (events ++ [⟨runId, events.length + 1, target, timestampMonotonicS, message⟩]) }
  setRun runId { snapshot with phase := target }

/-- `_result`. -/
def resultOf (snapshot : MissionRunSnapshot F) (status : MissionStatus)
    (reasonCode message : String) : RunnerCall F (MissionResult F) := do
  let finishedAtMonotonicS ← outside (monotonic clock)
  let r ← get
  return {
    missionRunId := snapshot.missionRunId
    missionExecutionId := snapshot.missionExecutionId
    missionId := snapshot.missionId
    missionName := snapshot.missionName
    missionVersion := snapshot.missionVersion
    vehicleId := snapshot.vehicleId
    mode := snapshot.mode
    startedAtMonotonicS := snapshot.startedAtMonotonicS
    status, reasonCode, message, finishedAtMonotonicS
    events := (r.events.get? snapshot.missionRunId).getD [] }

/-- The snapshot contract's own checks. -/
def newSnapshot (snapshot : MissionRunSnapshot F) : Except (Raised F) (MissionRunSnapshot F) :=
  (validated "MissionRunSnapshot"
    [("mission_run_id", isIdentifier snapshot.missionRunId),
     ("mission_execution_id", isIdentifier snapshot.missionExecutionId),
     ("mission_id", isIdentifier snapshot.missionId),
     ("vehicle_id", isIdentifier snapshot.vehicleId)] snapshot).mapError .fault

def snapshotFor (request : RunRequest) (mission : Mission) (mode : OperatingMode)
    (phase : MissionPhase) (startedAtMonotonicS : F) : MissionRunSnapshot F where
  missionRunId := request.runId
  missionExecutionId := request.executionId
  missionId := mission.missionId
  missionName := mission.name
  missionVersion := mission.missionVersion
  vehicleId := request.vehicleId
  mode := mode
  phase := phase
  startedAtMonotonicS := startedAtMonotonicS

/-- The code and the message of a `CrazySwarmError`. -/
def errorText : Raised F → String × String
  | .fault (.crazySwarm code message _) => (code.value, message)
  | _ => ("", "")

/-- `f"{type(error).__name__}: {error}"`; of a rejected contract only its name is kept. -/
def describe : Raised F → String
  | .fault (.crazySwarm _ message _) => "CrazySwarmError: " ++ message
  | .fault (.validation model _) => "ValidationError: " ++ model
  | .fault (.value message) => "ValueError: " ++ message
  | .other name message => name ++ ": " ++ message
  | .timeout => "TimeoutError: "
  | .cancelled => "CancelledError: "

/-- `_validation_failure`. -/
def validationFailure (request : RunRequest) (mission : Mission) (startedS : F)
    (raised : Raised F) : RunnerCall F (MissionResult F) := do
  let r ← get
  let snapshot ← ofResult (newSnapshot
    (snapshotFor request mission r.supervisor.mode .complete startedS))
  let result ← resultOf clock snapshot .failed (errorText raised).1 (errorText raised).2
  setRun request.runId { snapshot with result := some result }
  modify fun r => { r with events := r.events.insert request.runId [] }
  return result

/-- `cancel`; its guard is never held across a wait. -/
def cancel (runId : String) : RunnerCall F (MissionRunSnapshot F) := do
  let snapshot ← getRun runId
  if snapshot.result.isSome || snapshot.cancellationRequested then
    returns snapshot
  else do
    let r ← get
    let cancelEvent ← subscript r.cancelEvents runId
    modify fun r => { r with isSet := r.isSet ++ [cancelEvent] }
    setRun runId { snapshot with cancellationRequested := true }
    let r ← get
    match r.tasks.get? runId with
    | some task => modify fun r => { r with cancelCalls := r.cancelCalls ++ [task] }
    | none => returns ()
    getRun runId

section Run

/-- `_shielded_recovery`; the recovery itself is a task of its own. -/
def shieldedRecovery (run : RunHandle) : RunnerCall F Unit :=
  suppress Raised.isException (awaitRecovery run)

/-- How a run ends. -/
structure Outcome where
  status : MissionStatus
  reasonCode : String
  message : String
  deriving DecidableEq, Repr

def completed : Outcome :=
  ⟨.succeeded, "MISSION_COMPLETED", "mission completed successfully"⟩

/-- `_execute_with_health_watchdog`, which waits for the two tasks it creates. -/
def executeWithHealthWatchdog (run : RunHandle) : RunnerCall F Unit :=
  ensure (do
    let watchdogDone ← awaitFlightOrWatchdog run
    if watchdogDone then do
      suppress (fun raised => raised matches .cancelled || raised.isCrazySwarmError) do
        let _ ← awaitFlight run
      awaitWatchdog run
    else do
      let current ← sessionOf run.vehicleId
      if current.state ∈ [.aborting, .emergency] then
        awaitWatchdog run
      else do
        suppress (· matches .cancelled) (awaitWatchdog run)
        let deferredLandingFaults ← awaitFlight run
        match deferredLandingFaults with
        | (code, message) :: _ => raises (.fault (.crazySwarm .localizationInvalid message
            (.entries [("health_issue", .text code), ("recovery", .text "LAND_COMPLETED")])))
        | [] => returns ())
    (awaitGathered run)

/-- The try block up to the connection; true if this run connected the vehicle. -/
def connectIfNeeded (run : RunHandle) (ref : Nat) (request : RunRequest) :
    RunnerCall F Bool := do
  let current ← outside (load ref)
  if current.state == .disconnected then do
    if request.requirePrepared then
      refuse .preflightFailed "prepared mission start requires an explicitly connected vehicle"
    phase clock run.runId .connecting "connecting vehicle"
    let _ ← inside run .connect (connect clock run.vehicleId)
    return true
  else return false

/-- The try block up to the lease, with which the heartbeat begins. -/
def claimAuthority (run : RunHandle) : RunnerCall F Unit := do
  awaitBindRun run
  phase clock run.runId .claimingControl "claiming command authority"
  outside (claimControl clock run.vehicleId run.ownerId none)

def requiredCapabilities (mission : Mission) (request : RunRequest) : List VehicleCapability :=
  mission.requiredCapabilities ++ [.arming] ++
    if request.acceptedExecutionProgram.isSome then [.timeParameterizedTrajectory] else []

/-- The battery that simulated low-battery runs may not go below. -/
def critical (current : VehicleSession F) (criticalBatteryPercent : F) : Bool :=
  current.telemetry.any fun envelope =>
    envelope.telemetry.batteryPercent.any (le · criticalBatteryPercent)

/-- The rest of the try block. -/
def fly (run : RunHandle) (ref : Nat) (mission : Mission) (request : RunRequest) :
    RunnerCall F Unit := do
  if request.acceptedExecutionProgram.any (·.startsWithGroundWait) then do
    phase clock run.runId .preflight "waiting on ground before just-in-time preflight and arm"
    awaitGroundWait run
  phase clock run.runId .preflight "running preflight checks"
  let report ← inside run .preflight (preflight clock run.vehicleId run.ownerId
    (requiredCapabilities mission request) none request.allowSimulationLowBattery)
  if !report.approved then
    raises (.fault (.crazySwarm .preflightFailed "mission preflight failed" (.entries
      ((report.checks.filter (!·.passed)).map fun check => ("failed_checks", .text check.code)))))
  let current ← outside (load ref)
  let r ← get
  if request.allowSimulationLowBattery &&
      critical current r.supervisor.policy.criticalBatteryPercent then
    refuse .criticalBattery "critical simulated battery cannot receive new mission authority"
  phase clock run.runId .arming "arming vehicle"
  awaitAuthority run .arm
  let _ ← inside run .arm (arm clock run.vehicleId run.ownerId report.reportId none
    ⟨.mission, some run.runId, request.fleetBinding⟩)
  executeWithHealthWatchdog run

/-- What is known when the try block ends: whether this run connected the vehicle, whether its
heartbeat began, and what was raised. -/
structure Attempt (F : Type) where
  connectedHere : Bool
  heartbeat : Bool
  raised : Option (Raised F)

/-- The try block of `run`. -/
def attempt (run : RunHandle) (ref : Nat) (mission : Mission) (request : RunRequest) :
    RunnerCall F (Attempt F) :=
  (connectIfNeeded clock run ref request).handle fun
    | .error raised => returns ⟨false, false, some raised⟩
    | .ok connectedHere => (claimAuthority clock run).handle fun
      | .error raised => returns ⟨connectedHere, false, some raised⟩
      | .ok () => (fly clock run ref mission request).handle fun
        | .error raised => returns ⟨connectedHere, true, some raised⟩
        | .ok () => returns ⟨connectedHere, true, none⟩

/-- The handlers of `run`. -/
def recover (run : RunHandle) (raised : Raised F) : RunnerCall F Outcome :=
  if raised matches .cancelled || raised matches .other "MissionCancelled" _ then do
    let current ← sessionOf run.vehicleId
    if current.state == .emergency then
      returns ⟨.aborted, ErrorCode.emergencyStopped.value,
        "mission was preempted by a supervised emergency stop"⟩
    else do
      shieldedRecovery run
      returns ⟨.aborted, "MISSION_CANCELLED",
        "mission was cancelled; abort-and-land recovery requested"⟩
  else do
    shieldedRecovery run
    returns (match raised with
      | .timeout => ⟨.aborted, "MISSION_TIMEOUT",
          "mission execution timed out; abort-and-land recovery requested"⟩
      | raised =>
        if raised.isCrazySwarmError then ⟨.failed, (errorText raised).1, (errorText raised).2⟩
        else ⟨.failed, "MISSION_EXCEPTION", describe raised⟩)

/-- `_cleanup`. It keeps the session object that it looked up. -/
def cleanup (run : RunHandle) (connectedHere : Bool) (request : RunRequest) :
    RunnerCall F Unit := do
  let ref ← outside (session run.vehicleId)
  let current ← outside (load ref)
  if current.state == .ready && current.telemetry.any (·.telemetry.armed) then
    suppress Raised.isException do
      awaitAuthority run .disarm
      let _ ← inside run .disarm (disarm clock run.vehicleId run.ownerId
        ⟨.mission, some run.runId, request.fleetBinding⟩)
  let current ← outside (load ref)
  if current.lease.any (·.ownerId == run.ownerId) then
    suppress Raised.isException
      (inside run .release (releaseControl clock run.vehicleId run.ownerId true))
  if connectedHere then do
    let current ← sessionOf run.vehicleId
    if current.state == .ready then
      suppress Raised.isException
        (inside run .disconnect (disconnect clock run.vehicleId none))

/-- The finally block of `run`. -/
def finish (run : RunHandle) (attempted : Attempt F) (request : RunRequest) :
    RunnerCall F Unit := do
  if attempted.heartbeat then
    suppress (fun raised => raised matches .cancelled || raised.isCrazySwarmError)
      (awaitHeartbeat run)
  phase clock run.runId .cleanup "releasing mission resources"
  cleanup clock run attempted.connectedHere request

/-- The end of `run`, which takes the run out of the tables. -/
def conclude (run : RunHandle) (outcome : Outcome) : RunnerCall F (MissionResult F) := do
  let r ← get
  let current ← subscript r.runs run.runId
  let result ← resultOf clock current outcome.status outcome.reasonCode outcome.message
  phase clock run.runId .complete ("mission ended " ++ outcome.status.value)
  let r ← get
  let current ← subscript r.runs run.runId
  let events ← subscript r.events run.runId
  let result := { result with events }
  modify fun r => { r with
    runs := r.runs.insert run.runId { current with result := some result }
    vehicleRuns := r.vehicleRuns.erase run.vehicleId
    cancelEvents := r.cancelEvents.erase run.runId
    tasks := r.tasks.erase run.runId
    authorities := r.authorities.erase run.runId }
  return result

/-- A registered run: the try block, its handlers and the finally block, which runs on every
exit, and then the end. -/
def active (run : RunHandle) (mission : Mission) (request : RunRequest) :
    RunnerCall F (MissionResult F) := do
  let ref ← outside (session run.vehicleId)
  modify fun r => { r with authorities := r.authorities.insert run.runId request.fleetBinding }
  let attempted ← attempt clock run ref mission request
  let outcome ← ensure
    (match attempted.raised with
      | some raised => recover run raised
      | none => returns completed)
    (finish clock run attempted request)
  conclude clock run outcome

/-- A run of a vehicle that has an active run ends at once. -/
def conflict (snapshot : MissionRunSnapshot F) (holder : String) :
    RunnerCall F (MissionResult F) := do
  let result ← resultOf clock snapshot .failed "MISSION_CONFLICT"
    ("vehicle is already owned by mission run " ++ holder)
  setRun snapshot.missionRunId { snapshot with result := some result }
  return result

/-- The run enters the tables. -/
def register (run : RunHandle) (snapshot : MissionRunSnapshot F) : RunnerCall F Unit :=
  modify fun r => { r with
    vehicleRuns := r.vehicleRuns.insert run.vehicleId run.runId
    cancelEvents := r.cancelEvents.insert run.runId run.cancelEvent
    tasks := r.tasks.insert run.runId run.task
    runs := r.runs.insert run.runId snapshot
    events := r.events.insert run.runId [] }

/-- What `run` does with a valid request, under its guard and after it. -/
def underGuard (run : RunHandle) (mission : Mission) (request : RunRequest)
    (snapshot : MissionRunSnapshot F) : RunnerCall F (MissionResult F) := do
  let r ← get
  match r.vehicleRuns.get? request.vehicleId with
  | some holder => conflict clock snapshot holder
  | none => do
    register run snapshot
    active clock run mission request

def run (request : RunRequest) : RunnerCall F (MissionResult F) := do
  let mission ← ofResult (registry.get request.missionId)
  let startedS ← outside (monotonic clock)
  let cancelEvent ← newObject
  let task ← newObject
  let r ← get
  match registry.validate request r.supervisor with
  | .error raised =>
    if raised.isCrazySwarmError then validationFailure clock request mission startedS raised
    else raises raised
  | .ok () => do
    let snapshot ← ofResult (newSnapshot
      (snapshotFor request mission r.supervisor.mode .validating startedS))
    underGuard clock ⟨request.runId, request.vehicleId, cancelEvent, task⟩ mission request snapshot

end Run

/-- What can be asked of a runner: a run, a cancellation, and what the tasks of the runs and
everybody else ask of the supervisor and report as phases. -/
inductive Operation (F : Type) [PyMath F] where
  | run (request : RunRequest)
  | cancel (runId : String)
  | phase (runId : String) (target : MissionPhase) (message : String)
  | supervisor (operation : SafetySupervisor.Operation F)

inductive Returned (F : Type) where
  | result (value : MissionResult F)
  | snapshot (value : MissionRunSnapshot F)
  | nothing
  deriving DecidableEq, Repr

def program : Operation F → RunnerCall F (Returned F)
  | .run request => do return .result (← run clock registry request)
  | .cancel runId => do return .snapshot (← cancel runId)
  | .phase runId target message => do
    phase clock runId target message
    return .nothing
  | .supervisor operation => do
    outside (SafetySupervisor.program clock operation)
    return .nothing

abbrev Loop (F : Type) [PyMath F] :=
  EventLoop (Operation F) (MissionRunner F) (RunnerAwaited F) (@RunnerReply F _) (Raised F)
    (Returned F)

abbrev Turn (F : Type) [PyMath F] :=
  EventLoop.Turn (Operation F) (RunnerAwaited F) (@RunnerReply F _)

/-- One turn of the event loop over the runner's calls. -/
def step (loop : Loop F) (turn : Turn F) : Loop F :=
  EventLoop.step (program clock registry) loop turn

/-- A runner as constructed over a supervisor as constructed. -/
def initial (policy : SafetyPolicy F) : Loop F := ⟨{ supervisor := { policy } }, []⟩

end MissionRunner

end CrazySwarm
