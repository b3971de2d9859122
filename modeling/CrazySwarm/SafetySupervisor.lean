import CrazySwarm.SafetyChecks
import CrazySwarm.Lib.Coroutines

/-! The safety supervisor: one session for each vehicle, the operating mode, and every
operation as a coroutine that waits where the source awaits. A session is an object of its
own: an operation keeps the one it looked up. -/
namespace CrazySwarm
open PyFloat PyMath

variable {F : Type} [PyMath F]

structure ControlLease (F : Type) where
  ownerId : String
  expiresAtMonotonicS : F
  deriving DecidableEq, Repr

structure LiveModeAuthorization where
  vehicleId : String
  operatorId : String
  mode : OperatingMode
  confirmed : Bool
  deriving DecidableEq, Repr

structure PreflightReport (F : Type) where
  reportId : String
  vehicleId : String
  mode : OperatingMode
  operatorId : String
  createdAtMonotonicS : F
  expiresAtMonotonicS : F
  approved : Bool
  checks : List (PreflightCheck F)
  deriving DecidableEq, Repr

structure FleetCommandBinding where
  fleetSessionId : String
  fleetRunId : String
  deploymentSha256 : String
  taskId : String
  taskLeaseGeneration : Nat
  deriving DecidableEq, Repr

/-- Who issues a command and for which run. -/
structure CommandOrigin where
  source : CommandSource := .ui
  missionRunId : Option String := none
  fleet : Option FleetCommandBinding := none
  deriving DecidableEq, Repr

inductive CommandPayload (F : Type) [PyMath F] where
  | arm
  | disarm
  | takeoff (heightM durationS : F)
  | hover (durationS : F)
  | moveRelative (command : MoveRelativeCommand F)
  | executeTrajectory (trajectory : TimeParameterizedTrajectory F)
  | stopAndHold
  | land (command : LandCommand F)
  | abort (reason : String)
  | emergencyStop (reason : String)

namespace CommandPayload

def kind : CommandPayload F → CommandKind
  | arm => .arm
  | disarm => .disarm
  | takeoff .. => .takeoff
  | hover _ => .hover
  | moveRelative _ => .moveRelative
  | executeTrajectory _ => .executeTrajectory
  | stopAndHold => .stopAndHold
  | land _ => .land
  | abort _ => .abort
  | emergencyStop _ => .emergencyStop

/-- The duration that a blocking backend declares as expected work. -/
def requestedDurationS : CommandPayload F → Option F
  | takeoff _ durationS => some durationS
  | hover durationS => some durationS
  | moveRelative command => some command.durationS
  | executeTrajectory trajectory => some trajectory.durationS
  | land command => some command.durationS
  | _ => none

def isTrajectory : CommandPayload F → Bool
  | executeTrajectory _ => true
  | _ => false

def reasonChecks (reason : String) : List (String × Bool) :=
  [("reason", 1 ≤ reason.length && reason.length ≤ 500)]

/-- `target_height_agrees`. -/
def targetHeightAgrees (command : LandCommand F) : Except (Fault F) Unit := do
  require (command.targetPositionM.all fun target =>
      isClose target.z command.targetHeightM (ofRat 1e-9))
    (.value "landing position z must match target_height_m")
  match command.goalRegion, command.targetPositionM with
  | none, _ => .ok ()
  | some _, none => .error (.value "goal-bound landing requires an explicit target position")
  | some goal, some target =>
    require (isClose target.x goal.landingTargetM.x (ofRat 1e-9) &&
        isClose target.y goal.landingTargetM.y (ofRat 1e-9))
      (.value "landing command target does not match its immutable goal region")

/-- What the command's own contract checks when the supervisor builds it; a move and a
trajectory arrive built. -/
def validate : CommandPayload F → Except (Fault F) Unit
  | takeoff heightM durationS => validated "TakeoffCommand"
      [("height_m", gt heightM PyFloat.zero), ("duration_s", gt durationS PyFloat.zero)] ()
  | hover durationS => validated "HoverCommand" [("duration_s", gt durationS PyFloat.zero)] ()
  | land command => do
    validated "LandCommand" [("target_height_m", ge command.targetHeightM PyFloat.zero),
      ("duration_s", gt command.durationS PyFloat.zero)] ()
    targetHeightAgrees command
  | abort reason => validated "AbortCommand" (reasonChecks reason) ()
  | emergencyStop reason => validated "EmergencyStopCommand" (reasonChecks reason) ()
  | _ => .ok ()

end CommandPayload

structure CommandEnvelope (F : Type) [PyMath F] where
  vehicleId : String
  commandId : String
  missionRunId : Option String
  fleet : Option FleetCommandBinding
  issuedAtMonotonicS : F
  source : CommandSource
  mode : OperatingMode
  payload : CommandPayload F

/-- The adapter's run of one command; `done` once it has returned. -/
structure ExecuteTask where
  commandId : String
  done : Bool := false
  deriving DecidableEq, Repr

structure VehicleSession (F : Type) [PyMath F] where
  vehicle : Vehicle
  state : VehicleState := .disconnected
  telemetry : Option (TelemetryEnvelope F) := none
  telemetryReceivedAtMonotonicS : Option F := none
  preflight : Option (PreflightReport F) := none
  lease : Option (ControlLease F) := none
  activeExecuteTask : Option ExecuteTask := none
  activeCommandPayload : Option (CommandPayload F) := none
  commandInterruptionError : Option (Raised F) := none
  safetyInterruptionPending : Bool := false

structure SafetyEvent (F : Type) where
  sequence : Nat
  timestampMonotonicS : F
  vehicleId : String
  eventType : String
  source : CommandSource
  message : String
  fromState : Option VehicleState := none
  toState : Option VehicleState := none
  commandId : Option String := none
  details : List (String × String) := []
  deriving DecidableEq, Repr

/-- `heap` holds every session object ever made and `sessions` the registered ones. `sent`
is what the audit sinks are told of commands. `ticks` counts the clock readings. -/
structure SafetySupervisor (F : Type) [PyMath F] where
  policy : SafetyPolicy F
  mode : OperatingMode := .sim
  sessions : Dict String Nat := .empty
  heap : List (VehicleSession F) := []
  liveAuthorizations : Dict String LiveModeAuthorization := .empty
  commandSequence : Nat := 0
  eventSequence : Nat := 0
  events : List (SafetyEvent F) := []
  sent : List (CommandEnvelope F) := []
  ticks : Nat := 0

/-- What an operation can wait for. The last waits for a cancelled command to end; `settled`
is one turn of the event loop. -/
inductive Awaited (F : Type) [PyMath F] where
  | connect (vehicleId : String)
  | disconnect (vehicleId : String)
  | snapshot (vehicleId : String)
  | execute (envelope : CommandEnvelope F)
  | settled (vehicleId : String)
  | interrupted (vehicleId : String)

/-- Every wait can return or raise, a timeout and the caller's cancellation among them. -/
def Reply : Awaited F → Type
  | .snapshot _ => Except (Raised F) (TelemetryEnvelope F)
  | .execute _ => Except (Raised F) CommandAcknowledgement
  | _ => Except (Raised F) Unit

abbrev Call (F : Type) [PyMath F] (α : Type) :=
  Coroutine (SafetySupervisor F) (Awaited F) (@Reply F _) (Raised F) α

namespace SafetySupervisor
open Coroutine

variable (clock : MonotonicClock F)

def awaitConnect (vehicleId : String) : Call F Unit := wait (.connect vehicleId) done
def awaitDisconnect (vehicleId : String) : Call F Unit := wait (.disconnect vehicleId) done
def awaitSnapshot (vehicleId : String) : Call F (TelemetryEnvelope F) :=
  wait (.snapshot vehicleId) done
def awaitExecute (envelope : CommandEnvelope F) : Call F CommandAcknowledgement :=
  wait (.execute envelope) done
def awaitInterrupted (vehicleId : String) : Call F Unit := wait (.interrupted vehicleId) done
def awaitSettled (vehicleId : String) : Call F Unit := wait (.settled vehicleId) done

def fail (code : ErrorCode) (message : String) : Call F α := raises (.error code message)

def failUnless (condition : Bool) (code : ErrorCode) (message : String) : Call F Unit :=
  ofResult (demand condition code message)

/-- `with suppress(...)`. -/
def suppress (kinds : Raised F → Bool) (body : Call F Unit) : Call F Unit :=
  body.rescue fun raised => if kinds raised then returns () else raises raised

/-- `time.monotonic()`. -/
def monotonic : Call F F := do
  let s ← get
  modify fun s => { s with ticks := s.ticks + 1 }
  return clock.read s.ticks

/-- `_now`. -/
def nowOr (value : Option F) : Call F F :=
  match value with
  | some value => returns value
  | none => monotonic clock

def nextCommandSequence : Call F Nat := do
  let s ← get
  modify fun s => { s with commandSequence := s.commandSequence + 1 }
  return s.commandSequence

/-- `_event`. -/
def event (make : Nat → F → SafetyEvent F) : Call F Unit := do
  let timestamp ← monotonic clock
  modify fun s => { s with
    events := s.events ++ [make s.eventSequence timestamp]
    eventSequence := s.eventSequence + 1 }

def session (vehicleId : String) : Call F Nat := do
  let s ← get
  match s.sessions.get? vehicleId with
  | some ref => return ref
  | none => fail .identityMismatch ("unknown vehicle: " ++ vehicleId)

/-- The current fields of a session object. -/
def load (ref : Nat) : Call F (VehicleSession F) := do
  let s ← get
  match s.heap[ref]? with
  | some session => return session
  | none => raises (.other "LookupError" "no such object")

def store (ref : Nat) (change : VehicleSession F → VehicleSession F) : Call F Unit :=
  modify fun s => { s with heap := s.heap.modify ref change }

/-- `_is_armed_or_flying`. -/
def isArmedOrFlying (session : VehicleSession F) : Bool :=
  session.telemetry.any fun envelope => !envelope.telemetry.landed

section Registry

def registerVehicle (vehicle : Vehicle) : Call F Unit := do
  let s ← get
  let vehicleId := vehicle.identity.vehicleId
  failUnless (s.sessions.get? vehicleId).isNone
    .identityMismatch "vehicle ID is already registered"
  modify fun s => { s with
    sessions := s.sessions.insert vehicleId s.heap.length
    heap := s.heap ++ [{ vehicle }] }
  event clock fun sequence timestamp =>
    ⟨sequence, timestamp, vehicleId, "VEHICLE_REGISTERED", .supervisor, "vehicle registered",
      none, none, none, []⟩

def unregisterVehicle (vehicleId : String) : Call F Unit := do
  let ref ← session vehicleId
  let current ← load ref
  failUnless (current.state == .disconnected && current.lease.isNone &&
      current.activeExecuteTask.isNone && !isArmedOrFlying current)
    .invalidState "vehicle must be disconnected and unowned before unregistering"
  event clock fun sequence timestamp =>
    ⟨sequence, timestamp, vehicleId, "VEHICLE_UNREGISTERED", .supervisor,
      "vehicle unregistered", none, none, none, []⟩
  modify fun s => { s with
    liveAuthorizations := s.liveAuthorizations.erase vehicleId
    sessions := s.sessions.erase vehicleId }

def forEach (items : List α) (body : α → Call F Unit) : Call F Unit :=
  match items with
  | [] => returns ()
  | item :: rest => do body item; forEach rest body

def registered (s : SafetySupervisor F) : List (VehicleSession F) :=
  s.sessions.values.filterMap fun ref => s.heap[ref]?

def authorize (mode : OperatingMode) (authorization : Option LiveModeAuthorization) :
    Call F Unit := do
  match authorization with
  | some given =>
    failUnless (given.confirmed && given.mode == mode)
      .modeNotAuthorized (mode.value ++ " requires explicit operator authorization")
    let ref ← session given.vehicleId
    let current ← load ref
    failUnless (current.vehicle.backendProfile.authority == .physical)
      .modeNotAuthorized "only a physical backend can authorize real-flight mode"
    modify fun s => { s with
      liveAuthorizations := s.liveAuthorizations.insert given.vehicleId given }
  | none => fail .modeNotAuthorized (mode.value ++ " requires explicit operator authorization")

def setMode (mode : OperatingMode) (authorization : Option LiveModeAuthorization) :
    Call F Unit := do
  let s ← get
  failUnless (!s.registered.any isArmedOrFlying)
    .modeNotAuthorized "cannot change mode while armed"
  if mode.real then authorize mode authorization
  modify fun s => { s with mode }
  let s ← get
  forEach s.sessions.keys fun vehicleId =>
    event clock fun sequence timestamp =>
      ⟨sequence, timestamp, vehicleId, "MODE_CHANGED", .supervisor,
        "mode changed to " ++ mode.value, none, none, none, []⟩

end Registry

section Leases

/-- `_require_owner`. -/
def requireOwner (session : VehicleSession F) (ownerId : String) (now : F)
    (allowExpired : Bool := false) : Except (Raised F) Unit :=
  match session.lease with
  | none => .error (.error .modeNotAuthorized "control ownership is required")
  | some lease => do
    demand (lease.ownerId == ownerId) .modeNotAuthorized "control ownership is required"
    demand (allowExpired || !le lease.expiresAtMonotonicS now)
      .modeNotAuthorized "control lease has expired"

def newLease (ownerId : String) (expiresAtMonotonicS : F) : Except (Raised F) (ControlLease F) :=
  (validated "ControlLease" [("owner_id", isIdentifier ownerId),
    ("expires_at_monotonic_s", ge expiresAtMonotonicS PyFloat.zero)]
    ⟨ownerId, expiresAtMonotonicS⟩).mapError .fault

def claimControl (vehicleId ownerId : String) (nowS : Option F) : Call F Unit := do
  let ref ← session vehicleId
  let now ← nowOr clock nowS
  let current ← load ref
  failUnless (!current.lease.any fun lease =>
      lt now lease.expiresAtMonotonicS && lease.ownerId != ownerId)
    .modeNotAuthorized "vehicle has another owner"
  let s ← get
  let lease ← ofResult (newLease ownerId (now + s.policy.controlLeaseTimeoutS))
  store ref ({ · with lease := some lease })
  event clock fun sequence timestamp =>
    ⟨sequence, timestamp, vehicleId, "CONTROL_CLAIMED", .supervisor,
      "control claimed by " ++ ownerId, none, none, none, []⟩

def renewControl (vehicleId ownerId : String) (nowS : Option F) : Call F Unit := do
  let ref ← session vehicleId
  let now ← nowOr clock nowS
  let current ← load ref
  ofResult (requireOwner current ownerId now)
  let s ← get
  match current.lease with
  | none => raises (.other "AssertionError" "")
  | some held =>
    let lease ← ofResult (newLease ownerId
      (max held.expiresAtMonotonicS (now + s.policy.controlLeaseTimeoutS)))
    store ref ({ · with lease := some lease })

/-- A command extends the lease, never shortens it. -/
def extendLease (ref : Nat) (byS : F) : Call F Unit := do
  let current ← load ref
  if current.lease.isSome then
    let now ← monotonic clock
    store ref fun session => { session with
      lease := session.lease.map fun lease =>
        { lease with expiresAtMonotonicS := max lease.expiresAtMonotonicS (now + byS) } }

end Leases

section Telemetry

/-- Whether `receive_telemetry` ignores the sample in favour of the stored one. -/
def staleAgainst (previous telemetry : TelemetryEnvelope F) : Bool :=
  telemetry.sourceClockId == previous.sourceClockId &&
  (telemetry.sourceClockEpoch < previous.sourceClockEpoch ||
   (telemetry.sourceClockEpoch == previous.sourceClockEpoch &&
    ((telemetry.sequence < previous.sequence ||
        lt telemetry.sourceTimestampS previous.sourceTimestampS) ||
     (telemetry.sequence == previous.sequence &&
        eq telemetry.sourceTimestampS previous.sourceTimestampS))))

def receiveTelemetry (telemetry : TelemetryEnvelope F) : Call F Unit := do
  let ref ← session telemetry.vehicleId
  let current ← load ref
  failUnless (telemetry.vehicleId == current.vehicle.identity.vehicleId)
    .identityMismatch "telemetry identity mismatch"
  if !current.telemetry.any (staleAgainst · telemetry) then
    let now ← monotonic clock
    store ref ({ · with
      telemetry := some telemetry
      telemetryReceivedAtMonotonicS := some now })

/-- `_refresh`. -/
def refresh (ref : Nat) : Call F (TelemetryEnvelope F) := do
  let current ← load ref
  let telemetry ← awaitSnapshot current.vehicle.identity.vehicleId
  receiveTelemetry clock telemetry
  return telemetry

end Telemetry

/-- `_transition`. -/
def transition (vehicleId : String) (target : VehicleState) (source : CommandSource) :
    Call F Unit := do
  let ref ← session vehicleId
  let current ← load ref
  failUnless (canTransition current.state target) .invalidState
    ("transition " ++ current.state.value ++ " -> " ++ target.value ++ " is not permitted")
  store ref ({ · with state := target })
  event clock fun sequence timestamp =>
    ⟨sequence, timestamp, vehicleId, "STATE_TRANSITION", source,
      current.state.value ++ " -> " ++ target.value, some current.state, some target, none, []⟩

/-- `_reconcile_terminal_adapter_state`. -/
def reconcileTerminalAdapterState (ref : Nat) : Call F Unit := do
  let current ← load ref
  let vehicleId := current.vehicle.identity.vehicleId
  (awaitSnapshot vehicleId).handle fun
    | .error raised =>
      if raised.isCrazySwarmError || raised matches .timeout then returns () else raises raised
    | .ok telemetry =>
      if telemetry.vehicleId != vehicleId then returns () else do
        receiveTelemetry clock telemetry
        let current ← load ref
        let reported := telemetry.telemetry.state
        let target := if canTransition current.state reported then some reported
          else if reported == .disconnected && canTransition current.state .fault then some .fault
          else none
        match target with
        | some target =>
          if reported.terminal && current.state != target then
            transition clock vehicleId target .supervisor
        | none => return ()

section Commands

/-- `_interrupt_active_command`. -/
def interruptActiveCommand (ref : Nat) (error : Raised F) : Call F Unit := do
  let current ← load ref
  let vehicleId := current.vehicle.identity.vehicleId
  match current.activeExecuteTask with
  | some ⟨_, false⟩ => do
    store ref ({ · with commandInterruptionError := some error })
    suppress (fun raised => raised matches .cancelled || raised.isCrazySwarmError)
      (awaitInterrupted vehicleId)
    awaitSettled vehicleId
  | _ => return ()

def envelopeFor (vehicleId commandId : String) (origin : CommandOrigin) (issuedAt : F)
    (mode : OperatingMode) (payload : CommandPayload F) : CommandEnvelope F :=
  ⟨vehicleId, commandId, origin.missionRunId, origin.fleet, issuedAt, origin.source, mode, payload⟩

/-- The wait for the adapter. A cancellation that a supervisor interruption caused surfaces as
the interruption's error, and the active command is cleared on every exit. -/
def runCommand (ref : Nat) (envelope : CommandEnvelope F) : Call F CommandAcknowledgement := do
  store ref ({ · with
    activeExecuteTask := some ⟨envelope.commandId, false⟩
    activeCommandPayload := some envelope.payload })
  (awaitExecute envelope).handle fun result => do
    let current ← load ref
    let outcome := match result, current.commandInterruptionError with
      | .error .cancelled, some interruption => .error interruption
      | result, _ => result
    if result matches .error .cancelled then
      store ref fun session => { session with
        commandInterruptionError := none
        safetyInterruptionPending :=
          session.safetyInterruptionPending || session.commandInterruptionError.isSome }
    store ref fun session =>
      if session.activeExecuteTask.any (·.commandId == envelope.commandId) then
        { session with activeExecuteTask := none, activeCommandPayload := none }
      else session
    ofResult outcome

/-- `_send`. -/
def send (ref : Nat) (payload : CommandPayload F) (origin : CommandOrigin) :
    Call F CommandAcknowledgement := do
  ofResult (payload.validate.mapError .fault)
  let sequence ← nextCommandSequence
  let commandId := "cmd-" ++ toString sequence
  let current ← load ref
  let vehicleId := current.vehicle.identity.vehicleId
  let issuedAt ← monotonic clock
  let s ← get
  ofResult (require (s.mode != .replay)
    (.fault (.value "REPLAY mode cannot contain vehicle commands")))
  let envelope := envelopeFor vehicleId commandId origin issuedAt s.mode payload
  modify fun s => { s with sent := s.sent ++ [envelope] }
  event clock fun sequence timestamp =>
    ⟨sequence, timestamp, vehicleId, "COMMAND_SENT", origin.source, payload.kind.value, none, none,
      some commandId, []⟩
  let timeoutS := match payload.requestedDurationS with
    | some requested =>
      if current.vehicle.backendProfile.supportsDurationAwareTimeout then
        s.policy.commandTimeoutS + (requested * ofRat 1.25 + ofRat 1)
      else s.policy.commandTimeoutS
    | none => s.policy.commandTimeoutS
  extendLease clock ref (timeoutS + s.policy.controlLeaseTimeoutS)
  let acknowledgement ← (runCommand ref envelope).rescue fun raised =>
    if raised.isCrazySwarmError then do
      reconcileTerminalAdapterState clock ref
      raises raised
    else if raised matches .timeout then do
      event clock fun sequence timestamp =>
        ⟨sequence, timestamp, vehicleId, "COMMAND_TIMEOUT", origin.source, payload.kind.value,
          none, none, some commandId, []⟩
      fail .commandTimeout "command timed out"
    else raises raised
  failUnless (acknowledgement.status == .completed) .invalidCommand
    ((acknowledgement.message.filter (· != "")).getD "adapter rejected command")
  extendLease clock ref s.policy.controlLeaseTimeoutS
  event clock fun sequence timestamp =>
    ⟨sequence, timestamp, vehicleId, "COMMAND_COMPLETED", origin.source, payload.kind.value, none,
      none, some commandId, []⟩
  return acknowledgement

/-- The checks of `_require_command_ready`, `_require_flying`, `_require_preflight` and
`_require_real_authority`. -/
def requireRealAuthority (ref : Nat) : Call F Unit := do
  let current ← load ref
  let s ← get
  match current.vehicle.backendProfile.authority with
  | .simulation =>
    failUnless (s.mode == .sim) .modeNotAuthorized
      "simulation authority can only be armed in SIM mode"
  | .observationOnly => fail .modeNotAuthorized "observation-only backend cannot be armed"
  | .physical => do
    failUnless s.mode.real .modeNotAuthorized "real vehicle requires LIVE or SHADOW mode"
    failUnless (s.liveAuthorizations.get? current.vehicle.identity.vehicleId).isSome
      .modeNotAuthorized "real mode is not authorized"

def requireOwnerNow (ref : Nat) (ownerId : String) (allowExpired : Bool := false) :
    Call F Unit := do
  let now ← monotonic clock
  let current ← load ref
  ofResult (requireOwner current ownerId now allowExpired)

def requireFlying (ref : Nat) (ownerId : String) : Call F Unit := do
  requireOwnerNow clock ref ownerId
  let current ← load ref
  failUnless (current.state == .flying) .invalidState "vehicle is not flying"

def requireCommandReady (ref : Nat) (ownerId : String) : Call F Unit := do
  requireOwnerNow clock ref ownerId
  requireRealAuthority ref
  let current ← load ref
  failUnless (current.state == .ready && current.telemetry.isSome)
    .invalidState "vehicle is not ready"
  failUnless (current.telemetry.any (·.telemetry.armed)) .invalidState "vehicle is not armed"

def requirePreflight (ref : Nat) (ownerId reportId : String) (now : F) : Call F Unit := do
  let current ← load ref
  let s ← get
  failUnless (current.preflight.any fun report =>
      report.reportId == reportId && report.operatorId == ownerId && report.mode == s.mode &&
      report.approved && !lt report.expiresAtMonotonicS now)
    .preflightFailed "valid preflight is required"

/-- A failure of an arming or takeoff puts the vehicle in `FAULT`, unless the failure is a
supervisor interruption that already took charge of it. -/
def faultOnFailure (vehicleId : String) (ref : Nat) (body : Call F α) : Call F α :=
  body.rescue fun raised =>
    if raised.isException then do
      let current ← load ref
      if current.safetyInterruptionPending then
        store ref ({ · with safetyInterruptionPending := false })
      else if !current.state.terminal then
        transition clock vehicleId .fault .supervisor
      raises raised
    else raises raised

def arm (vehicleId ownerId reportId : String) (nowS : Option F) (origin : CommandOrigin) :
    Call F CommandAcknowledgement := do
  let ref ← session vehicleId
  let now ← nowOr clock nowS
  let current ← load ref
  ofResult (requireOwner current ownerId now)
  requirePreflight ref ownerId reportId now
  requireRealAuthority ref
  transition clock vehicleId .arming origin.source
  let acknowledgement ← faultOnFailure clock vehicleId ref do
    let acknowledgement ← send clock ref .arm origin
    let telemetry ← refresh clock ref
    failUnless telemetry.telemetry.armed .preflightFailed "adapter did not report armed"
    return acknowledgement
  transition clock vehicleId .ready .supervisor
  return acknowledgement

def disarm (vehicleId ownerId : String) (origin : CommandOrigin) :
    Call F CommandAcknowledgement := do
  let ref ← session vehicleId
  requireOwnerNow clock ref ownerId
  let current ← load ref
  failUnless (current.state == .ready) .invalidState "vehicle must be ready to disarm"
  let acknowledgement ← send clock ref .disarm origin
  let _ ← refresh clock ref
  return acknowledgement

def takeoff (vehicleId ownerId : String) (heightM durationS : F) (origin : CommandOrigin) :
    Call F CommandAcknowledgement := do
  let ref ← session vehicleId
  requireCommandReady clock ref ownerId
  let s ← get
  ofResult (s.policy.validateTakeoff heightM durationS)
  transition clock vehicleId .takingOff origin.source
  let acknowledgement ← faultOnFailure clock vehicleId ref do
    let acknowledgement ← send clock ref (.takeoff heightM durationS) origin
    let telemetry ← refresh clock ref
    failUnless telemetry.telemetry.flying .invalidState "adapter did not report flying"
    return acknowledgement
  transition clock vehicleId .flying .supervisor
  return acknowledgement

/-- A command of a flying vehicle: send it, then observe. -/
def sendAndRefresh (ref : Nat) (payload : CommandPayload F) (origin : CommandOrigin) :
    Call F CommandAcknowledgement := do
  let acknowledgement ← send clock ref payload origin
  let _ ← refresh clock ref
  return acknowledgement

def hover (vehicleId ownerId : String) (durationS : F) (origin : CommandOrigin) :
    Call F CommandAcknowledgement := do
  let ref ← session vehicleId
  requireFlying clock ref ownerId
  let s ← get
  ofResult (s.policy.validateHover durationS)
  sendAndRefresh clock ref (.hover durationS) origin

/-- The telemetry of a flying session; the source casts away its absence. -/
def heldTelemetry (ref : Nat) : Call F (VehicleTelemetry F) := do
  let current ← load ref
  match current.telemetry with
  | some envelope => return envelope.telemetry
  | none => raises (.other "AttributeError" "'NoneType' object has no attribute 'telemetry'")

def moveRelative (vehicleId ownerId : String) (command : MoveRelativeCommand F)
    (origin : CommandOrigin) : Call F CommandAcknowledgement := do
  let ref ← session vehicleId
  requireFlying clock ref ownerId
  let telemetry ← heldTelemetry ref
  let s ← get
  ofResult (s.policy.validateRelativeMove telemetry command)
  sendAndRefresh clock ref (.moveRelative command) origin

def validateTrajectoryCommand (vehicleId ownerId : String)
    (trajectory : TimeParameterizedTrajectory F) : Call F Unit := do
  let ref ← session vehicleId
  requireFlying clock ref ownerId
  let current ← load ref
  failUnless (decide (.timeParameterizedTrajectory ∈ current.vehicle.features)) .preflightFailed
    "vehicle backend does not declare time-parameterized trajectory support"
  let telemetry ← heldTelemetry ref
  let s ← get
  ofResult (s.policy.validateTrajectory telemetry.positionM trajectory)

def executeTrajectory (vehicleId ownerId : String) (trajectory : TimeParameterizedTrajectory F)
    (origin : CommandOrigin) : Call F CommandAcknowledgement := do
  validateTrajectoryCommand clock vehicleId ownerId trajectory
  let ref ← session vehicleId
  sendAndRefresh clock ref (.executeTrajectory trajectory) origin

def replaceTrajectory (vehicleId ownerId : String) (trajectory : TimeParameterizedTrajectory F)
    (reason : String) (origin : CommandOrigin) : Call F CommandAcknowledgement := do
  let ref ← session vehicleId
  requireFlying clock ref ownerId
  interruptActiveCommand ref (.error .invalidState
    ("active trajectory superseded by accepted replacement: " ++ reason))
  executeTrajectory clock vehicleId ownerId trajectory { origin with source := .supervisor }

def stopAndHold (vehicleId ownerId : String) (origin : CommandOrigin) :
    Call F CommandAcknowledgement := do
  let ref ← session vehicleId
  requireFlying clock ref ownerId
  let current ← load ref
  if current.activeCommandPayload.any CommandPayload.isTrajectory then
    interruptActiveCommand ref
      (.error .invalidState "active trajectory paused by stop-and-hold authority")
  sendAndRefresh clock ref .stopAndHold origin

def land (vehicleId ownerId : String) (durationS : F) (targetPositionM : Option (Vector3 F))
    (goalRegion : Option (LandingGoalRegion F)) (origin : CommandOrigin) :
    Call F CommandAcknowledgement := do
  let ref ← session vehicleId
  requireFlying clock ref ownerId
  let s ← get
  ofResult (s.policy.validateLandingTarget targetPositionM)
  let current ← load ref
  if current.activeCommandPayload.any CommandPayload.isTrajectory then
    interruptActiveCommand ref
      (.error .invalidState "active trajectory superseded by landing authority")
  transition clock vehicleId .landing origin.source
  let acknowledgement ← send clock ref (.land {
    targetHeightM := (targetPositionM.map Vector3.z).getD PyFloat.zero
    targetPositionM, goalRegion, durationS }) origin
  let _ ← refresh clock ref
  transition clock vehicleId .ready .supervisor
  return acknowledgement

def emergencyStop (vehicleId ownerId reason : String) (allowExpiredOwner : Bool)
    (origin : CommandOrigin) : Call F CommandAcknowledgement := do
  let ref ← session vehicleId
  requireOwnerNow clock ref ownerId allowExpiredOwner
  interruptActiveCommand ref (.error .emergencyStopped reason)
  transition clock vehicleId .emergency .supervisor
  let acknowledgement ←
    send clock ref (.emergencyStop reason) { origin with source := .supervisor }
  event clock fun sequence timestamp =>
    ⟨sequence, timestamp, vehicleId, "EMERGENCY_STOP", .supervisor, reason, none, none,
      some acknowledgement.commandId, []⟩
  let _ ← refresh clock ref
  return acknowledgement

/-- The last refresh of an abort; when the landed state cannot be observed it escalates once. -/
def refreshAfterAbort (vehicleId ownerId : String) (ref : Nat) : Call F Unit :=
  (refresh clock ref).handle fun
    | .ok _ => returns ()
    | .error raised =>
      if raised.hasCode .telemetryStale then do
        suppress Raised.isCrazySwarmError do
          let _ ← emergencyStop clock vehicleId ownerId
            "abort completion could not be observed" true {}
        raises raised
      else raises raised

def abortAndLand (vehicleId ownerId reason : String) (allowExpiredOwner : Bool)
    (origin : CommandOrigin) : Call F CommandAcknowledgement := do
  let ref ← session vehicleId
  requireOwnerNow clock ref ownerId allowExpiredOwner
  let current ← load ref
  failUnless current.state.airborne .invalidState "vehicle is not in an abortable state"
  interruptActiveCommand ref
    (.error .invalidState ("active command superseded by abort: " ++ reason))
  transition clock vehicleId .aborting .supervisor
  let acknowledgement ← send clock ref (.abort reason) { origin with source := .supervisor }
  transition clock vehicleId .landing .supervisor
  refreshAfterAbort clock vehicleId ownerId ref
  transition clock vehicleId .ready .supervisor
  return acknowledgement

end Commands

section Control

def releaseControl (vehicleId ownerId : String) (allowExpiredOwner : Bool) : Call F Unit := do
  let ref ← session vehicleId
  requireOwnerNow clock ref ownerId allowExpiredOwner
  let current ← load ref
  if current.state.airborne then
    let _ ← abortAndLand clock vehicleId ownerId "control owner released" false {}
  store ref ({ · with lease := none })
  event clock fun sequence timestamp =>
    ⟨sequence, timestamp, vehicleId, "CONTROL_RELEASED", .supervisor,
      "control released by " ++ ownerId, none, none, none, []⟩

/-- One turn of the loop of `expire_control_leases`. -/
def expireControlLease (vehicleId : String) (ref : Nat) (now : F) : Call F Unit := do
  let current ← load ref
  match current.lease with
  | none => return ()
  | some lease =>
    if !lt now lease.expiresAtMonotonicS then do
      if current.state.airborne then
        let _ ← abortAndLand clock vehicleId lease.ownerId "control lease expired" true {}
      store ref ({ · with lease := none })
      event clock fun sequence timestamp =>
        ⟨sequence, timestamp, vehicleId, "CONTROL_EXPIRED", .supervisor,
          "control lease expired for " ++ lease.ownerId, none, none, none, []⟩

/-- The iteration fails if the registry changed its size since it began. -/
def expireControlLeases (nowS : Option F) : Call F Unit := do
  let now ← nowOr clock nowS
  let s ← get
  forEach s.sessions.items fun (vehicleId, ref) => do
    let current ← get
    ofResult (require (current.sessions.items.length == s.sessions.items.length)
      (.other "RuntimeError" "dictionary changed size during iteration"))
    expireControlLease clock vehicleId ref now

end Control

section Observation

/-- `_simulation_low_battery_override`. -/
def simulationLowBatteryOverride (ref : Nat) (requested : Bool) : Call F Bool := do
  let current ← load ref
  let s ← get
  failUnless (!requested ||
      (s.mode == .sim && current.vehicle.backendProfile.authority == .simulation))
    .modeNotAuthorized
    "low-battery risk override is available only for simulation authority in SIM mode"
  return requested

def preflight (vehicleId ownerId : String) (requiredCapabilities : List VehicleCapability)
    (nowS : Option F) (allowSimulationLowBattery : Bool) : Call F (PreflightReport F) := do
  let ref ← session vehicleId
  let now ← nowOr clock nowS
  let current ← load ref
  ofResult (requireOwner current ownerId now)
  let lowBatteryOverride ← simulationLowBatteryOverride ref allowSimulationLowBattery
  let telemetry ← refresh clock ref
  let current ← load ref
  let s ← get
  let checks := preflightChecks s.policy {
    vehicle := current.vehicle
    state := current.state
    telemetry, requiredCapabilities
    allowSimulationLowBattery := lowBatteryOverride
    mode := s.mode
    authorized := (s.liveAuthorizations.get? current.vehicle.identity.vehicleId).isSome }
  let approved := checks.all PreflightCheck.passed
  let sequence ← nextCommandSequence
  let reportId := "preflight-" ++ vehicleId ++ "-" ++ toString sequence
  let report ← ofResult ((validated "PreflightReport"
    [("report_id", isIdentifier reportId), ("vehicle_id", isIdentifier vehicleId),
     ("operator_id", isIdentifier ownerId),
     ("created_at_monotonic_s", ge now PyFloat.zero),
     ("expires_at_monotonic_s", ge (now + s.policy.preflightValidS) PyFloat.zero)]
    (PreflightReport.mk reportId vehicleId s.mode ownerId now (now + s.policy.preflightValidS)
      approved checks)).mapError .fault)
  store ref ({ · with preflight := some report })
  event clock fun sequence timestamp =>
    ⟨sequence, timestamp, vehicleId, "PREFLIGHT_COMPLETED", .supervisor,
      if approved then "preflight passed" else "preflight failed", none, none, none,
      [("report_id", reportId), ("approved", toString approved),
       ("simulation_low_battery_override", toString lowBatteryOverride)]⟩
  return report

def evaluateHealth (vehicleId : String) (nowS : Option F) (allowSimulationLowBattery : Bool) :
    Call F HealthAssessment := do
  let ref ← session vehicleId
  let lowBatteryOverride ← simulationLowBatteryOverride ref allowSimulationLowBattery
  let now ← nowOr clock nowS
  let current ← load ref
  let s ← get
  return assessHealth s.policy {
    vehicleId, now, lowBatteryOverride
    state := current.state
    received := do
      let telemetry ← current.telemetry
      let receivedAt ← current.telemetryReceivedAtMonotonicS
      return (telemetry, receivedAt) }

def healthInterruption (code : ErrorCode) (issue : HealthIssue) : Raised F :=
  .fault (.crazySwarm code issue.message (.entries [("health_issue", .text issue.code)]))

def enforceHealth (vehicleId ownerId : String) (nowS : Option F) (origin : CommandOrigin)
    (allowSimulationLowBattery : Bool) : Call F HealthAssessment := do
  let assessment ← evaluateHealth clock vehicleId nowS allowSimulationLowBattery
  match assessment.action, assessment.issues with
  | .abortAndLand, issue :: _ => do
    let ref ← session vehicleId
    interruptActiveCommand ref (healthInterruption .localizationInvalid issue)
    let _ ← abortAndLand clock vehicleId ownerId issue.code true origin
  | .emergencyStop, issue :: _ => do
    let ref ← session vehicleId
    interruptActiveCommand ref (healthInterruption .linkLost issue)
    let _ ← emergencyStop clock vehicleId ownerId issue.code true origin
  | _, _ => returns ()
  return assessment

def refreshAndEnforceHealth (vehicleId ownerId : String) (origin : CommandOrigin)
    (allowSimulationLowBattery : Bool) : Call F HealthAssessment := do
  let ref ← session vehicleId
  let _ ← refresh clock ref
  enforceHealth clock vehicleId ownerId none origin allowSimulationLowBattery

def observe (vehicleId ownerId : String) (timeoutS : F) : Call F (TelemetryEnvelope F) := do
  let s ← get
  failUnless (!(le timeoutS PyFloat.zero || lt s.policy.commandTimeoutS timeoutS))
    .invalidCommand "invalid observation timeout"
  let ref ← session vehicleId
  requireOwnerNow clock ref ownerId
  let current ← load ref
  let telemetry ← (awaitSnapshot current.vehicle.identity.vehicleId).rescue fun raised =>
    if raised matches .timeout then fail .telemetryStale "mission observation timed out"
    else raises raised
  receiveTelemetry clock telemetry
  failUnless (telemetry.vehicleId == vehicleId) .identityMismatch "observation identity mismatch"
  return telemetry

end Observation

section Connection

def connect (vehicleId : String) : Call F (TelemetryEnvelope F) := do
  let ref ← session vehicleId
  transition clock vehicleId .connecting .supervisor
  let telemetry ← (do awaitConnect vehicleId; refresh clock ref : Call F _).rescue fun raised =>
    if raised matches .timeout then do
      transition clock vehicleId .fault .supervisor
      fail .commandTimeout "connection timed out"
    else if raised.isException then do
      transition clock vehicleId .fault .supervisor
      raises raised
    else raises raised
  transition clock vehicleId telemetry.telemetry.state .supervisor
  return telemetry

def reconcileLanding (vehicleId : String) (ref : Nat) : Call F Unit := do
  let telemetry ← awaitSnapshot vehicleId
  failUnless (telemetry.vehicleId == vehicleId)
    .identityMismatch "disconnect snapshot identity mismatch"
  receiveTelemetry clock telemetry
  if telemetry.telemetry.state == .ready && telemetry.telemetry.landed then
    transition clock vehicleId .ready .supervisor
  let current ← load ref
  failUnless (!(current.state ∈ [.landing, .aborting])) .invalidState
    "landing and disarm completion must be observed before disconnect"

def disconnect (vehicleId : String) (ownerId : Option String) : Call F Unit := do
  let ref ← session vehicleId
  let current ← load ref
  if let some ownerId := ownerId then
    if current.lease.isSome then requireOwnerNow clock ref ownerId
  if current.state ∈ [.landing, .aborting] then reconcileLanding clock vehicleId ref
  let current ← load ref
  failUnless (!isArmedOrFlying current) .invalidState "land and disarm before disconnect"
  awaitDisconnect vehicleId
  transition clock vehicleId .disconnected .supervisor
  let telemetry ← awaitSnapshot vehicleId
  let now ← monotonic clock
  store ref ({ · with
    telemetry := some telemetry
    telemetryReceivedAtMonotonicS := some now
    lease := none
    preflight := none })

end Connection

/-- Everything that can be asked of a supervisor. `commandReturns` is the adapter's doing: the
active command of the vehicle has returned, whether or not its caller has been resumed. -/
inductive Operation (F : Type) [PyMath F] where
  | registerVehicle (vehicle : Vehicle)
  | unregisterVehicle (vehicleId : String)
  | setMode (mode : OperatingMode) (authorization : Option LiveModeAuthorization)
  | claimControl (vehicleId ownerId : String) (nowS : Option F)
  | renewControl (vehicleId ownerId : String) (nowS : Option F)
  | releaseControl (vehicleId ownerId : String) (allowExpiredOwner : Bool)
  | expireControlLeases (nowS : Option F)
  | connect (vehicleId : String)
  | disconnect (vehicleId : String) (ownerId : Option String)
  | preflight (vehicleId ownerId : String) (requiredCapabilities : List VehicleCapability)
      (nowS : Option F) (allowSimulationLowBattery : Bool)
  | arm (vehicleId ownerId reportId : String) (nowS : Option F) (origin : CommandOrigin)
  | disarm (vehicleId ownerId : String) (origin : CommandOrigin)
  | takeoff (vehicleId ownerId : String) (heightM durationS : F) (origin : CommandOrigin)
  | hover (vehicleId ownerId : String) (durationS : F) (origin : CommandOrigin)
  | moveRelative (vehicleId ownerId : String) (command : MoveRelativeCommand F)
      (origin : CommandOrigin)
  | executeTrajectory (vehicleId ownerId : String) (trajectory : TimeParameterizedTrajectory F)
      (origin : CommandOrigin)
  | replaceTrajectory (vehicleId ownerId : String) (trajectory : TimeParameterizedTrajectory F)
      (reason : String) (origin : CommandOrigin)
  | stopAndHold (vehicleId ownerId : String) (origin : CommandOrigin)
  | land (vehicleId ownerId : String) (durationS : F) (targetPositionM : Option (Vector3 F))
      (goalRegion : Option (LandingGoalRegion F)) (origin : CommandOrigin)
  | abortAndLand (vehicleId ownerId reason : String) (allowExpiredOwner : Bool)
      (origin : CommandOrigin)
  | emergencyStop (vehicleId ownerId reason : String) (allowExpiredOwner : Bool)
      (origin : CommandOrigin)
  | enforceHealth (vehicleId ownerId : String) (nowS : Option F) (origin : CommandOrigin)
      (allowSimulationLowBattery : Bool)
  | refreshAndEnforceHealth (vehicleId ownerId : String) (origin : CommandOrigin)
      (allowSimulationLowBattery : Bool)
  | observe (vehicleId ownerId : String) (timeoutS : F)
  | receiveTelemetry (telemetry : TelemetryEnvelope F)
  | reconcileTerminalAdapterState (vehicleId : String)
  | commandReturns (vehicleId : String)

def commandReturns (vehicleId : String) : Call F Unit := do
  let ref ← session vehicleId
  store ref fun session => { session with
    activeExecuteTask := session.activeExecuteTask.map ({ · with done := true }) }

def ignoring (body : Call F α) : Call F Unit := do
  let _ ← body

def program : Operation F → Call F Unit
  | .registerVehicle vehicle => registerVehicle clock vehicle
  | .unregisterVehicle vehicleId => unregisterVehicle clock vehicleId
  | .setMode mode authorization => setMode clock mode authorization
  | .claimControl vehicleId ownerId nowS => claimControl clock vehicleId ownerId nowS
  | .renewControl vehicleId ownerId nowS => renewControl clock vehicleId ownerId nowS
  | .releaseControl vehicleId ownerId allowExpired =>
    releaseControl clock vehicleId ownerId allowExpired
  | .expireControlLeases nowS => expireControlLeases clock nowS
  | .connect vehicleId => ignoring (connect clock vehicleId)
  | .disconnect vehicleId ownerId => disconnect clock vehicleId ownerId
  | .preflight vehicleId ownerId capabilities nowS lowBattery =>
    ignoring (preflight clock vehicleId ownerId capabilities nowS lowBattery)
  | .arm vehicleId ownerId reportId nowS origin =>
    ignoring (arm clock vehicleId ownerId reportId nowS origin)
  | .disarm vehicleId ownerId origin => ignoring (disarm clock vehicleId ownerId origin)
  | .takeoff vehicleId ownerId heightM durationS origin =>
    ignoring (takeoff clock vehicleId ownerId heightM durationS origin)
  | .hover vehicleId ownerId durationS origin =>
    ignoring (hover clock vehicleId ownerId durationS origin)
  | .moveRelative vehicleId ownerId command origin =>
    ignoring (moveRelative clock vehicleId ownerId command origin)
  | .executeTrajectory vehicleId ownerId trajectory origin =>
    ignoring (executeTrajectory clock vehicleId ownerId trajectory origin)
  | .replaceTrajectory vehicleId ownerId trajectory reason origin =>
    ignoring (replaceTrajectory clock vehicleId ownerId trajectory reason origin)
  | .stopAndHold vehicleId ownerId origin => ignoring (stopAndHold clock vehicleId ownerId origin)
  | .land vehicleId ownerId durationS target goal origin =>
    ignoring (land clock vehicleId ownerId durationS target goal origin)
  | .abortAndLand vehicleId ownerId reason allowExpired origin =>
    ignoring (abortAndLand clock vehicleId ownerId reason allowExpired origin)
  | .emergencyStop vehicleId ownerId reason allowExpired origin =>
    ignoring (emergencyStop clock vehicleId ownerId reason allowExpired origin)
  | .enforceHealth vehicleId ownerId nowS origin lowBattery =>
    ignoring (enforceHealth clock vehicleId ownerId nowS origin lowBattery)
  | .refreshAndEnforceHealth vehicleId ownerId origin lowBattery =>
    ignoring (refreshAndEnforceHealth clock vehicleId ownerId origin lowBattery)
  | .observe vehicleId ownerId timeoutS => ignoring (observe clock vehicleId ownerId timeoutS)
  | .receiveTelemetry telemetry => receiveTelemetry clock telemetry
  | .reconcileTerminalAdapterState vehicleId => do
    let ref ← session vehicleId
    reconcileTerminalAdapterState clock ref
  | .commandReturns vehicleId => commandReturns vehicleId

abbrev Loop (F : Type) [PyMath F] :=
  EventLoop (Operation F) (SafetySupervisor F) (Awaited F) (@Reply F _) (Raised F) Unit

abbrev Turn (F : Type) [PyMath F] := EventLoop.Turn (Operation F) (Awaited F) (@Reply F _)

/-- One turn of the event loop over the supervisor's operations. -/
def step (loop : Loop F) (turn : Turn F) : Loop F := EventLoop.step (program clock) loop turn

/-- A supervisor as constructed, with no call in flight. -/
def initial (policy : SafetyPolicy F) : Loop F := ⟨{ policy }, []⟩

def secondsClock : MonotonicClock ℚ where
  read i := i
  nonneg i := by
    have forward : (0 : ℚ) ≤ i := Nat.cast_nonneg i
    exact Bool.not_eq_true' _ ▸ decide_eq_false (not_lt.mpr forward)

end SafetySupervisor

end CrazySwarm
