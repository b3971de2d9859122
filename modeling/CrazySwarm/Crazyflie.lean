import CrazySwarm.VehicleCommands
import CrazySwarm.Lib.Coroutines

/-! The physical Crazyflie adapter: its permit, its connection, the commands that it hands to the
link and the telemetry that it normalises. Every call of the link is a wait that can return or
raise anything; the fields marked as records are read by no function of the adapter. -/
namespace CrazySwarm
open PyFloat

structure CrazyflieConnectionMetadata where
  selectedUri : String
  connectedUri : String
  protocolVersion : Option Int
  firmwareVersion : Option String
  deckParameters : List (String × Int)
  observedParameters : List (String × String)
  deriving DecidableEq, Repr

structure CrazyflieRawSample (F : Type) where
  sourceTimestampMs : Int
  receivedAtMonotonicS : F
  values : List (String × F) := []
  supervisorBitfield : Option Nat := none
  linkQualityPercent : Option F := none
  linkLatencyMs : Option F := none
  connected : Bool := true
  logErrors : List String := []
  deriving DecidableEq, Repr

inductive PermitScope where
  | observeOnly | propsOffBench | containedFlight
  deriving DecidableEq, Repr

structure PermitFields where
  vehicleId : String
  selectedUri : String
  scope : PermitScope
  issuedAtUtc : Int
  expiresAtUtc : Int
  operatorPresent : Bool
  propsRemoved : Bool
  physicallyRestrained : Bool
  flightEntryRecordId : Option String := none
  flightEntryEvidenceSha256 : Option String := none
  deriving DecidableEq, Repr

/-- `scope_has_safe_physical_state`. -/
def PermitFields.scopeHasSafePhysicalState (permit : PermitFields) : Bool :=
  permit.issuedAtUtc < permit.expiresAtUtc &&
  (permit.scope != .propsOffBench ||
    permit.operatorPresent && permit.propsRemoved && permit.physicallyRestrained) &&
  (permit.scope != .containedFlight ||
    permit.operatorPresent && !permit.propsRemoved && permit.flightEntryRecordId.isSome &&
      permit.flightEntryEvidenceSha256.isSome)

structure CommandPermit extends PermitFields where
  safe : toPermitFields.scopeHasSafePhysicalState = true
  deriving DecidableEq, Repr

def PermitScope.admitted : PermitScope → List CommandKind
  | observeOnly => []
  | propsOffBench => [.arm, .disarm, .emergencyStop]
  | containedFlight => [.arm, .disarm, .takeoff, .hover, .moveRelative, .stopAndHold, .land,
      .abort, .emergencyStop]

def CommandPermit.allows (permit : CommandPermit) (command : Option CommandKind)
    (vehicleId selectedUri : String) (now : Int) : Bool :=
  !(!permit.operatorPresent || permit.expiresAtUtc ≤ now || permit.vehicleId != vehicleId ||
    permit.selectedUri != selectedUri) && command.any (· ∈ permit.scope.admitted)

/-- The command methods of the link. -/
inductive LinkCall (F : Type) where
  | requestArm (armed : Bool)
  | takeoff (heightM durationS : F) (yawRad : Option F)
  | holdPosition (durationS : F)
  | goToRelative (xM yM zM yawRad durationS : F)
  | land (heightM durationS : F)
  | emergencyStop
  deriving DecidableEq, Repr

def LinkCall.isMotion : LinkCall F → Bool
  | requestArm _ | emergencyStop => false
  | _ => true

structure CrazyflieSettings (F : Type) where
  expectedFirmwareVersion : Option String := none
  expectedController : Option String := none
  expectedEstimator : Option String := none
  minimumProtocolVersion : Int := 12
  telemetryPeriodS : F
  estimatorVarianceLimitM2 : F
  installedCflib : Option String

/-- `connection` and the two last fields are a record: the number of the connection, and for each
one the timestamps that it has taken in and the envelopes made from them. -/
structure CrazyflieVehicle (F : Type) where
  vehicleId : String
  selectedUri : String
  metadata : Option CrazyflieConnectionMetadata := none
  permit : Option CommandPermit := none
  sequence : Nat := 0
  sourceEpoch : Nat := 0
  lastSourceTimestampMs : Option Int := none
  lastSourceTimestampS : F
  latest : TelemetryEnvelope F
  connection : Nat := 0
  timestamps : List (Nat × Int) := []
  emitted : List (Nat × Int × TelemetryEnvelope F) := []

namespace CrazyflieVehicle

variable {F : Type} [PyMath F]

def cflibPin : String := "0.1.32"

def digitsValue (digits : List Char) : Option Int :=
  if digits.isEmpty || !digits.all Char.isDigit then none
  else some (digits.foldl (fun value digit => 10 * value + (digit.toNat - '0'.toNat)) 0)

/-- `int(text)` for ASCII digits; `none` where it raises `ValueError`. -/
def parseInt (text : String) : Option Int :=
  match ((text.toList.dropWhile Char.isWhitespace).reverse.dropWhile Char.isWhitespace).reverse with
  | '-' :: digits => (digitsValue digits).map fun value => -value
  | '+' :: digits => digitsValue digits
  | digits => digitsValue digits

def preflightFailed (message : String) (details : List (String × ErrorDetail F)) :
    AdapterRaised F :=
  .error ⟨.preflightFailed, message, details⟩

def optionalText : Option String → ErrorDetail F
  | some value => .text value
  | none => .null

/-- `_require_parameter_pin`. -/
def requireParameterPin (metadata : CrazyflieConnectionMetadata) (name : String)
    (expected : Option String) : Except (AdapterRaised F) Unit :=
  match Dict.lookup name metadata.observedParameters with
  | none => .error (preflightFailed ("required Crazyflie parameter is unavailable: " ++ name) [])
  | some observed => require (expected.all (observed == ·))
      (preflightFailed ("Crazyflie parameter does not match the qualification pin: " ++ name)
        [("parameter", .text name), ("expected", optionalText expected),
          ("observed", .text observed)])

/-- `_validate_connection`. -/
def validateConnection (settings : CrazyflieSettings F) (selectedUri : String)
    (metadata : CrazyflieConnectionMetadata) : Except (AdapterRaised F) Unit := do
  require (metadata.selectedUri == selectedUri && metadata.connectedUri == selectedUri)
    (.ofCode .identityMismatch "connected Crazyflie URI does not match the explicit selection")
  require (metadata.protocolVersion.any (settings.minimumProtocolVersion ≤ ·))
    (preflightFailed "Crazyflie firmware protocol is too old for verified supervisor state"
      [("observed_protocol", ((metadata.protocolVersion.map fun version =>
        .number (ofRat version)).getD .null)),
        ("required_protocol", .number (ofRat settings.minimumProtocolVersion))])
  let missing := ["deck.bcFlow2", "deck.bcMultiranger"].filter fun name =>
    !(Dict.lookup name metadata.deckParameters).any (· != 0)
  require missing.isEmpty
    (preflightFailed "required Crazyflie decks were not measured as present"
      [("missing_deck_parameters", .texts missing)])
  let highLevel := Dict.lookup "commander.enHighLevel" metadata.observedParameters
  require (((highLevel.bind parseInt).getD 0) != 0)
    (preflightFailed "high-level commander was not measured as enabled"
      [("commander.enHighLevel", optionalText highLevel)])
  requireParameterPin metadata "stabilizer.controller" settings.expectedController
  requireParameterPin metadata "stabilizer.estimator" settings.expectedEstimator
  require (settings.expectedFirmwareVersion.all (metadata.firmwareVersion == some ·))
    (preflightFailed "Crazyflie firmware does not match the pinned version"
      [("expected", optionalText settings.expectedFirmwareVersion),
        ("observed", optionalText metadata.firmwareVersion)])
  require settings.installedCflib.isSome (preflightFailed "cflib is not installed" [])
  require (settings.installedCflib == some cflibPin)
    (preflightFailed "installed cflib does not match the qualification pin"
      [("expected", .text cflibPin), ("observed", optionalText settings.installedCflib)])

/-- `timestamp_ms / 1_000.0`. -/
def seconds (timestampMs : Int) : F := ofRat timestampMs / ofRat 1000

/-- A jump back by more than a second is a reboot. -/
def rebooted (s : CrazyflieVehicle F) (timestampMs : Int) : Bool :=
  s.lastSourceTimestampMs.any fun previous => previous - timestampMs > 1000

/-- The time that a sample may not go below. -/
def carried (s : CrazyflieVehicle F) (timestampMs : Int) : F :=
  if s.rebooted timestampMs then zero else s.lastSourceTimestampS

/-- The timestamp that counts; a small jump back is jitter. -/
def steadied (s : CrazyflieVehicle F) (timestampMs : Int) : Int :=
  if s.rebooted timestampMs then timestampMs
  else (s.lastSourceTimestampMs.map (max timestampMs)).getD timestampMs

def clamp (floor value : F) : F := if lt value floor then floor else value

/-- `_source_time`, which leaves its result in `lastSourceTimestampS`. -/
def sourceTime (s : CrazyflieVehicle F) (timestampMs : Int) : CrazyflieVehicle F :=
  { s with
    sourceEpoch := if s.rebooted timestampMs then s.sourceEpoch + 1 else s.sourceEpoch
    lastSourceTimestampMs := some (s.steadied timestampMs)
    lastSourceTimestampS := clamp (s.carried timestampMs) (seconds (s.steadied timestampMs))
    timestamps := s.timestamps ++ [(s.connection, timestampMs)] }

def isFinite (value : F) : Bool := eq (value - value) zero

/-- `_optional`. -/
def reading (values : List (String × F)) (name : String) : Option F :=
  (Dict.lookup name values).filter isFinite

/-- `_vector`. -/
def vector (values : List (String × F)) (x y z : String) : Option (Vector3 F) := do
  let x ← reading values x
  let y ← reading values y
  let z ← reading values z
  return ⟨x, y, z⟩

def radians (degrees : F) : F := degrees * ofRat 0.017453292519943295

/-- The yaw of `_attitude`. -/
def attitudeYaw (values : List (String × F)) : Option F :=
  (vector values "stabilizer.roll" "stabilizer.pitch" "stabilizer.yaw").map fun degrees =>
    radians degrees.z

def percent (value : Option F) : Bool :=
  value.all fun value => ge value zero && atMost value (ofRat 100)

/-- `_estimator_quality`. -/
def estimatorQuality (settings : CrazyflieSettings F) (values : List (String × F)) : Option F :=
  (vector values "kalman.varPX" "kalman.varPY" "kalman.varPZ").map fun variance =>
    PyFloat.max zero (PyFloat.min (ofRat 100) (ofRat 100 *
      (ofRat 1 - PyFloat.max (PyFloat.max variance.x variance.y) variance.z /
        settings.estimatorVarianceLimitM2)))

def hasQuaternion (values : List (String × F)) : Bool :=
  ["stateEstimate.qw", "stateEstimate.qx", "stateEstimate.qy", "stateEstimate.qz"].all fun name =>
    (reading values name).isSome

def present (values : List (String × F)) (names : List String) : Bool :=
  names.any fun name => (reading values name).isSome

def supervisorFaults (bitfield : Nat) : List String :=
  (if bitfield.testBit 5 then ["SUPERVISOR_TUMBLED"] else []) ++
  (if bitfield.testBit 6 then ["SUPERVISOR_LOCKED"] else []) ++
  (if bitfield.testBit 7 then ["SUPERVISOR_CRASHED"] else [])

def telemetry (settings : CrazyflieSettings F) (raw : CrazyflieRawSample F) :
    Except (AdapterRaised F) (VehicleTelemetry F) := do
  let values := raw.values
  let bitfield := raw.supervisorBitfield.getD 0
  let position := vector values "stateEstimate.x" "stateEstimate.y" "stateEstimate.z"
  let velocity := vector values "stateEstimate.vx" "stateEstimate.vy" "stateEstimate.vz"
  let quality := estimatorQuality settings values
  let battery := reading values "pm.batteryLevel"
  AdapterRaised.checked "VehicleTelemetry" [
    ("battery_percent", percent battery),
    ("battery_voltage_v", (reading values "pm.vbat").all (ge · zero)),
    ("link_quality_percent", percent raw.linkQualityPercent),
    ("link_latency_ms", raw.linkLatencyMs.all (ge · zero)),
    ("frame", position.isSome || !(velocity.isSome || (attitudeYaw values).isSome ||
      hasQuaternion values))]
  return {
    state := if bitfield.testBit 4 then .flying else .ready
    armed := bitfield.testBit 1
    flying := bitfield.testBit 4
    positionM := position
    attitudeYawRad := attitudeYaw values
    localizationQualityPercent := quality
    batteryPercent := battery
    linkQualityPercent := raw.linkQualityPercent
    transport := some ⟨raw.linkQualityPercent⟩
    imu := (vector values "acc.x" "acc.y" "acc.z").isSome &&
      (vector values "gyro.x" "gyro.y" "gyro.z").isSome
    flow := present values ["motion.squal", "range.zrange"]
    ranges := present values ["range.front", "range.back", "range.left", "range.right",
      "range.up", "range.zrange"]
    faults := raw.logErrors ++ supervisorFaults bitfield }

def envelope (s : CrazyflieVehicle F) (sourceS receivedS : F) (telemetry : VehicleTelemetry F) :
    Except (AdapterRaised F) (TelemetryEnvelope F) := do
  AdapterRaised.checked "TelemetryEnvelope" [
    ("source_timestamp_s", ge sourceS zero),
    ("received_timestamp_s", ge receivedS zero && !lt receivedS sourceS)]
  return {
    vehicleId := s.vehicleId
    sequence := s.sequence
    sourceTimestampS := sourceS
    sourceClockId := "cf-firmware-" ++ s.vehicleId
    sourceClockEpoch := s.sourceEpoch
    telemetry }

/-- `_normalize`, which moves the clock before a contract can refuse the values. -/
def normalize (settings : CrazyflieSettings F) (s : CrazyflieVehicle F)
    (raw : CrazyflieRawSample F) :
    CrazyflieVehicle F × Except (AdapterRaised F) (TelemetryEnvelope F) :=
  if !raw.connected then
    (s, .error (.ofCode .linkLost "Crazyflie link reports disconnected"))
  else
    let timed := s.sourceTime raw.sourceTimestampMs
    (timed, do
      let telemetry ← telemetry settings raw
      timed.envelope timed.lastSourceTimestampS
        (PyFloat.max raw.receivedAtMonotonicS timed.lastSourceTimestampS) telemetry)

/-- The rest of `snapshot` once the sample is there. -/
def take (settings : CrazyflieSettings F) (s : CrazyflieVehicle F) (raw : CrazyflieRawSample F) :
    CrazyflieVehicle F :=
  match s.normalize settings raw with
  | (moved, .error _) => moved
  | (moved, .ok envelope) =>
    { moved with
      latest := envelope
      sequence := moved.sequence + 1
      emitted := moved.emitted ++ [(moved.connection, raw.sourceTimestampMs, envelope)] }

/-- A connection starts over, but for the time of the last sample. -/
def opened (s : CrazyflieVehicle F) (metadata : CrazyflieConnectionMetadata) :
    CrazyflieVehicle F :=
  { s with
    metadata := some metadata
    sequence := 0
    sourceEpoch := 0
    lastSourceTimestampMs := none
    connection := s.connection + 1 }

def disconnectedSample (s : CrazyflieVehicle F) (now : F) : TelemetryEnvelope F where
  vehicleId := s.vehicleId
  sequence := s.sequence
  sourceTimestampS := now
  sourceClockId := "cf-host-" ++ s.vehicleId
  sourceClockEpoch := s.sourceEpoch
  telemetry := { state := .disconnected, armed := false, flying := false }

end CrazyflieVehicle

inductive CrazyflieWait (F : Type) where
  | connect
  | disconnect
  | readSample
  | command (call : LinkCall F)
  | sleep (durationS : F)

/-- Every call of the link can return or raise; a sleep can be cancelled. -/
def CrazyflieReply {F : Type} : CrazyflieWait F → Type
  | .connect => Except (AdapterRaised F) CrazyflieConnectionMetadata
  | .readSample => Except (AdapterRaised F) (CrazyflieRawSample F)
  | .sleep _ => Bool
  | _ => Except (AdapterRaised F) Unit

abbrev CrazyflieCall (F α : Type) :=
  Coroutine (CrazyflieVehicle F) (CrazyflieWait F) CrazyflieReply (AdapterRaised F) α

/-- How the adapter confirms a command once the link has taken it. -/
inductive Confirmation (F : Type) where
  | supervisor (armed : Bool) (timeoutS : F)
  | duration (durationS : F)
  deriving DecidableEq, Repr

namespace CrazyflieVehicle
open Coroutine

variable {F : Type} [PyMath F] (settings : CrazyflieSettings F)

/-- `except Exception as error`. -/
def mapException (raised : AdapterRaised F) (mapped : AdapterRaised F) : AdapterRaised F :=
  if raised.isException then mapped else raised

def installCommandPermit (permit : CommandPermit) : CrazyflieCall F Unit := do
  let s ← get
  if permit.vehicleId != s.vehicleId then
    raises (.ofCode .identityMismatch "permit vehicle mismatch")
  else if permit.selectedUri != s.selectedUri then
    raises (.ofCode .identityMismatch "permit URI mismatch")
  else modify fun s => { s with permit := some permit }

def clearCommandPermit : CrazyflieCall F Unit := modify fun s => { s with permit := none }

def takeSample (raw : CrazyflieRawSample F) : CrazyflieCall F (TelemetryEnvelope F) := do
  let s ← get
  modify fun s => s.take settings raw
  ofResult (s.normalize settings raw).2

def snapshot : CrazyflieCall F (TelemetryEnvelope F) := do
  let s ← get
  if s.metadata.isNone then return s.latest
  else wait .readSample fun
    | .error raised => raises (mapException raised (.error ⟨.linkLost,
        "Crazyflie telemetry is unavailable", [("error", .text raised.text)]⟩))
    | .ok raw => takeSample settings raw

def connect : CrazyflieCall F Unit := do
  let s ← get
  if s.metadata.isSome then
    raises (.ofCode .invalidState "Crazyflie is already connected")
  else wait .connect fun
    | .error raised => raises (mapException raised (.error ⟨.linkLost,
        "failed to connect to the explicitly selected Crazyflie URI",
        [("selected_uri", .text s.selectedUri), ("error", .text raised.text)]⟩))
    | .ok metadata =>
      match validateConnection settings s.selectedUri metadata with
      | .error refused => wait .disconnect fun
        | .error raised => raises raised
        | .ok _ => raises refused
      | .ok _ => do
        modify fun s => s.opened metadata
        let latest ← snapshot settings
        modify fun s => { s with latest }

/-- `now` is the clock reading for the sample of a disconnected vehicle. -/
def disconnect (now : F) : CrazyflieCall F Unit :=
  wait .disconnect fun ended => do
    modify fun s => { s with metadata := none, permit := none }
    modify fun s => { s with latest := s.disconnectedSample now }
    ofResult ended

def permitted (s : CrazyflieVehicle F) (kind : Option CommandKind) (nowUtc : Int) : Bool :=
  s.permit.any fun permit => permit.allows kind s.vehicleId s.selectedUri nowUtc

/-- `_home_frame_displacement`. -/
def homeFrameDisplacement (s : CrazyflieVehicle F) (command : MoveRelativeCommand F) :
    Except (AdapterRaised F) (F × F) :=
  if command.frame == .home then .ok (command.xM, command.yM)
  else match s.latest.telemetry.attitudeYawRad with
    | none => .error (.ofCode .localizationInvalid "BODY-frame move requires a fresh measured yaw")
    | some yaw => .ok (command.xM * PyMath.cos yaw - command.yM * PyMath.sin yaw,
        command.xM * PyMath.sin yaw + command.yM * PyMath.cos yaw)

def dispatch (s : CrazyflieVehicle F) :
    VehiclePayload F → Except (AdapterRaised F) (LinkCall F × Confirmation F)
  | .arm => .ok (.requestArm true, .supervisor true (ofRat 1.5))
  | .disarm => .ok (.requestArm false, .supervisor false (ofRat 1.5))
  | .takeoff heightM durationS yawRad => .ok (.takeoff heightM durationS yawRad, .duration durationS)
  | .hover durationS => .ok (.holdPosition durationS, .duration durationS)
  | .moveRelative command => do
    let displacement ← s.homeFrameDisplacement command
    return (.goToRelative displacement.1 displacement.2 command.zM command.yawRad
      command.durationS, .duration command.durationS)
  | .stopAndHold => .ok (.holdPosition (ofRat 0.25), .duration (ofRat 0.25))
  | .land command => .ok (.land command.targetHeightM command.durationS,
      .duration command.durationS)
  | .abort _ => .ok (.land zero (ofRat 2), .duration (ofRat 2))
  | .emergencyStop _ => .ok (.emergencyStop, .supervisor false (ofRat 1))
  | payload => .error (.ofCode .invalidCommand ("unsupported physical command: " ++ payload.value))

def unknownOutcome (command : VehicleCommand F) (raised : AdapterRaised F) : AdapterRaised F :=
  .error ⟨.linkLost, "physical command outcome is unknown; automatic retry is forbidden",
    [("command_id", .text command.commandId), ("command_outcome", .text "UNKNOWN_OUTCOME"),
      ("automatic_retry_safe", .flag false), ("error", .text raised.text)]⟩

def afterDispatch (command : VehicleCommand F) : AdapterRaised F → AdapterRaised F
  | .error raised =>
    if raised.code ∈ [ErrorCode.linkLost, .telemetryStale] then
      unknownOutcome command (.error raised)
    else .error raised
  | .exception text => unknownOutcome command (.exception text)
  | .cancelled => .cancelled

/-- `_wait_for_supervisor`, for at most so many rounds, after which the caller is cancelled. The
clock is read once a round. -/
def waitForSupervisor (armed : Bool) (deadline : F) (clock : Nat → F) : Nat → CrazyflieCall F Unit
  | 0 => raises .cancelled
  | rounds + 1 => do
    let sample ← snapshot settings
    if sample.telemetry.armed == armed then return ()
    else if le deadline (clock rounds) then
      raises (.exception "supervisor state did not confirm the command")
    else wait (.sleep (ofRat 0.02)) fun
      | false => raises .cancelled
      | true => waitForSupervisor armed deadline clock rounds

/-- `_wait_duration_and_refresh`, in the same way. -/
def waitDurationAndRefresh (deadline : F) (clock : Nat → F) : Nat → CrazyflieCall F Unit
  | 0 => raises .cancelled
  | rounds + 1 => do
    let _ ← snapshot settings
    let remaining := deadline - clock rounds
    if le remaining zero then return ()
    else wait (.sleep (PyFloat.min settings.telemetryPeriodS remaining)) fun
      | false => raises .cancelled
      | true => waitDurationAndRefresh deadline clock rounds

def confirm (started : F) (clock : Nat → F) (rounds : Nat) : Confirmation F → CrazyflieCall F Unit
  | .supervisor armed timeoutS => waitForSupervisor settings armed (started + timeoutS) clock rounds
  | .duration durationS => waitDurationAndRefresh settings (started + durationS) clock rounds

/-- The readings of the clocks during one `execute`, and the round in which it is cancelled. -/
structure Timing (F : Type) where
  nowUtc : Int
  startedS : F
  clock : Nat → F
  rounds : Nat

/-- The call of the link and what follows it, with the mapping of errors around both. -/
def perform (command : VehicleCommand F) (timing : Timing F) (call : LinkCall F)
    (confirmation : Confirmation F) : CrazyflieCall F Unit :=
  (wait (.command call) fun
    | .error raised => raises raised
    | .ok _ => confirm settings timing.startedS timing.clock timing.rounds confirmation).rescue
      fun raised => raises (afterDispatch command raised)

def execute (command : VehicleCommand F) (timing : Timing F) :
    CrazyflieCall F CommandAcknowledgement := do
  let s ← get
  if command.vehicleId != s.vehicleId then
    raises (.ofCode .identityMismatch "Crazyflie command target mismatch")
  else if s.metadata.isNone then
    raises (.ofCode .invalidState "Crazyflie is not connected")
  else if !s.permitted command.payload.kind timing.nowUtc then
    raises (.error ⟨.modeNotAuthorized,
      "physical command requires a matching, unexpired hardware permit",
      [("command", .text command.payload.value)]⟩)
  else match s.dispatch command.payload with
    | .error raised => raises raised
    | .ok dispatched => do
      perform settings command timing dispatched.1 dispatched.2
      return ⟨command.commandId, .completed, none⟩

/-- The calls that can be under way at one time. -/
inductive Operation (F : Type) where
  | connect
  | disconnect (now : F)
  | installCommandPermit (permit : CommandPermit)
  | clearCommandPermit
  | snapshot
  | execute (command : VehicleCommand F) (timing : Timing F)

inductive Answer (F : Type) where
  | done
  | envelope (sample : TelemetryEnvelope F)
  | acknowledged (acknowledgement : CommandAcknowledgement)

def program : Operation F → CrazyflieCall F (Answer F)
  | .connect => do connect settings; return .done
  | .disconnect now => do disconnect now; return .done
  | .installCommandPermit permit => do installCommandPermit permit; return .done
  | .clearCommandPermit => do clearCommandPermit; return .done
  | .snapshot => return .envelope (← snapshot settings)
  | .execute command timing => return .acknowledged (← execute settings command timing)

end CrazyflieVehicle
end CrazySwarm
