import CrazySwarm.VehicleCommands
import CrazySwarm.GatewayTransport
import CrazySwarm.Lib.Coroutines

/-! The adapter of the out-of-process simulator: its requests, the checks of the responses, and
the telemetry that it hands on. The transport answers a request with anything or raises. The lock
around a request is left out, which only adds interleavings; fields marked as records are read by
no function of the adapter. -/
namespace CrazySwarm
open PyFloat

inductive GatewayOperation where
  | connect | bindRun | command | snapshot | health | step | resetClock | disconnect
  deriving DecidableEq, Repr

structure GatewayRunBindingFields where
  missionRunId : String
  missionSourceSha256 : String
  runIdentitySha256 : String
  modelId : String
  modelVersion : String
  modelConfigurationSha256 : String
  scenarioId : String
  scenarioConfigurationSha256 : String
  fleetSessionId : Option String := none
  fleetRunId : Option String := none
  deploymentSha256 : Option String := none
  taskId : Option String := none
  taskLeaseGeneration : Option Nat := none
  backendNamespace : Option String := none
  preparationReady : Bool := false
  deriving DecidableEq, Repr

/-- `fleet_identity_is_complete`. -/
def GatewayRunBindingFields.fleetIdentityIsComplete (binding : GatewayRunBindingFields) : Bool :=
  let present := [binding.fleetSessionId.isSome, binding.fleetRunId.isSome,
    binding.deploymentSha256.isSome, binding.taskId.isSome, binding.taskLeaseGeneration.isSome,
    binding.backendNamespace.isSome, binding.preparationReady]
  present.all id || !present.any id

structure GatewayRunBinding extends GatewayRunBindingFields where
  complete : toGatewayRunBindingFields.fleetIdentityIsComplete = true
  deriving DecidableEq, Repr

structure GatewayCapabilities where
  simulationAuthority : Bool
  commands : List String
  vehicleCapabilities : List VehicleCapability
  signals : List String
  maximumVehicles : Nat
  supportsHeadless : Bool
  supportsManualStep : Bool
  supportsClockReset : Bool
  digitalTwinEnabled : Bool
  deriving DecidableEq, Repr

structure GatewayHealth where
  telemetryDroppedTotal : Nat
  deriving DecidableEq, Repr

structure GatewayTelemetrySample (F : Type) where
  vehicleId : String
  sequence : Nat
  sourceTimestampS : F
  sourceClockId : String
  sourceClockEpoch : Nat
  modelId : String
  modelVersion : String
  runIdentitySha256 : Option String
  telemetry : VehicleTelemetry F
  deriving DecidableEq, Repr

structure GatewayResponseFields (F : Type) where
  requestId : Nat
  operation : GatewayOperation
  ok : Bool
  vehicleId : String
  gatewayInstanceId : String
  sessionId : Option String
  modelId : String
  modelVersion : String
  frame : CoordinateFrame
  capabilities : Option GatewayCapabilities
  health : Option GatewayHealth
  telemetry : Option (GatewayTelemetrySample F)
  commandId : Option String
  errorCode : Option String
  error : Option String
  deriving DecidableEq, Repr

/-- `explicit_success_or_error`. -/
def GatewayResponseFields.explicitSuccessOrError {F : Type} (response : GatewayResponseFields F) :
    Bool :=
  !(response.ok && (response.error.isSome || response.errorCode.isSome)) &&
  !(!response.ok && (response.error.isNone || response.errorCode.isNone)) &&
  !(response.operation == .connect && response.ok && response.capabilities.isNone)

/-- A response that its contract accepts. -/
structure GatewayResponse (F : Type) extends GatewayResponseFields F where
  explicit : toGatewayResponseFields.explicitSuccessOrError = true
  deriving DecidableEq, Repr

/-- What the payload of a request carries for the adapter's part. -/
inductive GatewayPayload (F : Type) where
  | empty
  | binding (binding : GatewayRunBinding)
  | command (command : VehicleCommand F)
  | steps (steps : Int)
  deriving DecidableEq, Repr

structure GatewayRequest (F : Type) where
  requestId : Nat
  operation : GatewayOperation
  vehicleId : String
  sessionId : Option String
  payload : GatewayPayload F
  deriving DecidableEq, Repr

structure IsaacScene where
  sceneId : String
  sha256 : String
  vehicleId : String
  modelId : String
  modelVersion : String
  parameterConfigurationSha256 : String
  headless : Bool
  telemetryQueueBound : Nat
  deriving DecidableEq, Repr

/-- An envelope with the number of the connection that it belongs to. -/
abbrev IsaacEmission (F : Type) := Nat × TelemetryEnvelope F

structure TelemetrySubscriber (F : Type) where
  queue : List (IsaacEmission F) := []
  received : List (IsaacEmission F) := []
  listening : Bool := true
  deriving DecidableEq, Repr

/-- A full queue loses its oldest envelope. -/
def TelemetrySubscriber.offer {F : Type} (subscriber : TelemetrySubscriber F) (bound : Nat)
    (item : IsaacEmission F) : TelemetrySubscriber F :=
  if !subscriber.listening then subscriber
  else if bound ≤ subscriber.queue.length then
    { subscriber with queue := subscriber.queue.tail ++ [item] }
  else { subscriber with queue := subscriber.queue ++ [item] }

/-- `connection`, `emitted` and what subscribers have `received` are a record. -/
structure IsaacSimVehicle (F : Type) where
  nextRequestId : Nat := 0
  sessionId : Option String := none
  gatewayInstanceId : Option String := none
  binding : Option GatewayRunBinding := none
  negotiated : Option GatewayCapabilities := none
  health : Option GatewayHealth := none
  subscribers : List (TelemetrySubscriber F) := []
  telemetryDroppedTotal : Nat := 0
  latest : TelemetryEnvelope F
  lastSourceMarker : Option (Nat × Nat × F) := none
  connection : Nat := 0
  emitted : List (IsaacEmission F) := []

inductive IsaacWait (F : Type) where
  | start
  | close
  | request (request : GatewayRequest F)

/-- The transport answers with a response, with something malformed, or raises. -/
def IsaacReply {F : Type} : IsaacWait F → Type
  | .request _ => Except (AdapterRaised F) (Option (GatewayResponse F))
  | _ => Except (AdapterRaised F) Unit

abbrev IsaacCall (F α : Type) :=
  Coroutine (IsaacSimVehicle F) (IsaacWait F) IsaacReply (AdapterRaised F) α

namespace IsaacSimVehicle
open Coroutine

variable {F : Type} [PyFloat F] (scene : IsaacScene)

def features : List VehicleCapability :=
  [.arming, .relativePositioning, .highLevelCommands, .rangeSensing, .emergencyStop]

/-- `command_to_gateway_payload`. -/
def commandToGatewayPayload (command : VehicleCommand F) (binding : Option GatewayRunBinding) :
    Except (AdapterRaised F) (GatewayPayload F) := do
  require (command.mode == .sim)
    (.ofCode .modeNotAuthorized "Isaac gateway accepts simulation commands only")
  require (binding.all fun binding => command.missionRunId == some binding.missionRunId ||
      command.source == .supervisor && command.payload.kind ∈
        [some CommandKind.stopAndHold, some .land, some .abort, some .emergencyStop] ||
      command.source == .mission && command.payload.kind == some .disarm)
    (.ofCode .identityMismatch
      "Isaac command mission-run identity does not match the bound run")
  return .command command

/-- `gateway_sample_to_canonical`. -/
def gatewaySampleToCanonical (sample : GatewayTelemetrySample F)
    (binding : Option GatewayRunBinding) : Except (AdapterRaised F) (TelemetryEnvelope F) := do
  require (sample.vehicleId == scene.vehicleId)
    (.ofCode .identityMismatch "Isaac telemetry vehicle mismatch")
  require (sample.modelId == scene.modelId && sample.modelVersion == scene.modelVersion)
    (.ofCode .identityMismatch "Isaac telemetry model mismatch")
  require (binding.all fun binding => sample.runIdentitySha256 == some binding.runIdentitySha256)
    (.ofCode .identityMismatch "Isaac telemetry run mismatch")
  return {
    vehicleId := scene.vehicleId
    sequence := sample.sequence
    sourceTimestampS := sample.sourceTimestampS
    sourceClockId := sample.sourceClockId
    sourceClockEpoch := sample.sourceClockEpoch
    telemetry := sample.telemetry }

/-- The checks of `_request` on a response that is well formed. -/
def checkResponse (session : Option String) (request : GatewayRequest F)
    (response : GatewayResponse F) : Except (AdapterRaised F) Unit := do
  require (response.requestId == request.requestId && response.operation == request.operation)
    (.ofCode .identityMismatch "Isaac request identity mismatch")
  require (response.vehicleId == scene.vehicleId)
    (.ofCode .identityMismatch "Isaac vehicle identity mismatch")
  require response.ok (.error ⟨.invalidCommand,
    (response.error.filter (· != "")).getD "Isaac gateway rejected request",
    [("gateway_error_code", (response.errorCode.map .text).getD .null)]⟩)
  require (response.modelId == scene.modelId)
    (.ofCode .identityMismatch "Isaac model identity mismatch")
  require (response.modelVersion == scene.modelVersion)
    (.ofCode .identityMismatch "Isaac model version mismatch")
  require (response.frame == .home) (.ofCode .identityMismatch "Isaac frame mismatch")
  require (session.all fun session => response.sessionId == some session)
    (.ofCode .identityMismatch "Isaac session identity mismatch")

/-- `_request`. -/
def request (operation : GatewayOperation) (payload : GatewayPayload F) :
    IsaacCall F (GatewayResponse F) := do
  modify fun s => { s with nextRequestId := s.nextRequestId + 1 }
  let s ← get
  let request : GatewayRequest F :=
    ⟨s.nextRequestId, operation, scene.vehicleId, s.sessionId, payload⟩
  wait (.request request) fun
    | .error raised => raises raised
    | .ok none => raises (.ofCode .invalidCommand "malformed Isaac gateway response")
    | .ok (some response) => do
      let s ← get
      ofResult (checkResponse scene s.sessionId request response)
      return response

def sampleMarker (sample : GatewayTelemetrySample F) : Nat × Nat × F :=
  (sample.sourceClockEpoch, sample.sequence, sample.sourceTimestampS)

def behind (sample : GatewayTelemetrySample F) (previous : Nat × Nat × F) : Bool :=
  sample.sourceClockEpoch < previous.1 ||
    sample.sourceClockEpoch == previous.1 &&
      (sample.sequence ≤ previous.2.1 || lt sample.sourceTimestampS previous.2.2)

def overflowing (s : IsaacSimVehicle F) : Nat :=
  (s.subscribers.filter fun subscriber =>
    subscriber.listening && scene.telemetryQueueBound ≤ subscriber.queue.length).length

def publish (s : IsaacSimVehicle F) (envelope : TelemetryEnvelope F) : IsaacSimVehicle F :=
  { s with
    latest := envelope
    telemetryDroppedTotal := s.telemetryDroppedTotal + s.overflowing scene
    subscribers := s.subscribers.map (TelemetrySubscriber.offer · scene.telemetryQueueBound
      (s.connection, envelope))
    emitted := s.emitted ++ [(s.connection, envelope)] }

/-- `_ingest`, which moves the marker before the sample is checked. -/
def ingest (s : IsaacSimVehicle F) (response : GatewayResponse F) :
    IsaacSimVehicle F × Except (AdapterRaised F) (TelemetryEnvelope F) :=
  match response.telemetry with
  | none => (s, .error (.ofCode .telemetryStale "Isaac telemetry is absent"))
  | some sample =>
    if s.lastSourceMarker.any (behind sample) then
      (s, .error (.ofCode .telemetryStale "Isaac telemetry is stale"))
    else
      let marked := { s with lastSourceMarker := some (sampleMarker sample) }
      match gatewaySampleToCanonical scene sample s.binding with
      | .error raised => (marked, .error raised)
      | .ok envelope => (marked.publish scene envelope, .ok envelope)

def takeTelemetry (response : GatewayResponse F) : IsaacCall F (TelemetryEnvelope F) := do
  let s ← get
  modify fun s => (s.ingest scene response).1
  ofResult (s.ingest scene response).2

/-- `if response.telemetry is not None: self._ingest(response)`. -/
def takeOptional (response : GatewayResponse F) : IsaacCall F Unit := do
  if response.telemetry.isSome then
    let _ ← takeTelemetry scene response
  return ()

/-- A sample that an operation needs. -/
def takeRequired (response : GatewayResponse F) (absent : String) :
    IsaacCall F (TelemetryEnvelope F) :=
  if response.telemetry.isNone then raises (.ofCode .telemetryStale absent)
  else takeTelemetry scene response

def requiredCommands : List String :=
  ["arm", "disarm", "takeoff", "hover", "move_relative", "stop_and_hold", "land", "abort",
    "emergency_stop"]

def requiredSignals : List String := ["position", "ground-truth-position", "imu", "flow", "ranges"]

/-- `_validate_capabilities`. -/
def validateCapabilities (capabilities : GatewayCapabilities) : Except (AdapterRaised F) Unit := do
  require capabilities.simulationAuthority
    (.ofCode .modeNotAuthorized "Isaac authority is not simulation")
  require (!capabilities.digitalTwinEnabled)
    (.ofCode .modeNotAuthorized "DIGITAL_TWIN is disabled")
  require (features.all (· ∈ capabilities.vehicleCapabilities))
    (.ofCode .preflightFailed "Isaac capabilities are incomplete")
  require (requiredCommands.all (· ∈ capabilities.commands))
    (.ofCode .preflightFailed "Isaac command set is incomplete")
  require (requiredSignals.all (· ∈ capabilities.signals))
    (.ofCode .preflightFailed "Isaac signal set is incomplete")
  require (!scene.headless || capabilities.supportsHeadless)
    (.ofCode .preflightFailed "Isaac headless mode is unsupported")
  require capabilities.supportsManualStep
    (.ofCode .preflightFailed "Isaac manual stepping is unsupported")
  require capabilities.supportsClockReset
    (.ofCode .preflightFailed "Isaac clock reset is unsupported")
  require (1 ≤ capabilities.maximumVehicles)
    (.ofCode .preflightFailed "Isaac vehicle capacity is absent")

/-- The first request of a connection, and the check of what the gateway can do. -/
def negotiate : IsaacCall F (GatewayResponse F) := do
  let response ← request scene .connect .empty
  match response.capabilities with
  | none => raises (.ofCode .preflightFailed "Isaac capabilities are absent")
  | some capabilities => do
    ofResult (validateCapabilities scene capabilities)
    return response

def started (s : IsaacSimVehicle F) : IsaacSimVehicle F :=
  { s with nextRequestId := 0, lastSourceMarker := none, connection := s.connection + 1 }

def connect (transport : GatewayLifecycleState) : IsaacCall F Unit :=
  if transport ∉ [GatewayLifecycleState.new, .stopped] then
    raises (.ofCode .invalidState "Isaac gateway is already connected")
  else wait .start fun
    | .error raised => raises raised
    | .ok _ => do
      modify started
      let response ← (negotiate scene).rescue fun raised => wait .close fun
        | .error other => raises other
        | .ok _ => raises raised
      modify fun s => { s with
        negotiated := response.capabilities
        sessionId := response.sessionId
        gatewayInstanceId := some response.gatewayInstanceId
        health := response.health }
      takeOptional scene response

/-- The identity of the run that a gateway needs in full. -/
def gatewayBinding (binding : MissionRunBinding) : Except (AdapterRaised F) GatewayRunBinding :=
  match binding.missionSourceSha256, binding.runIdentitySha256, binding.modelId,
    binding.modelVersion, binding.modelConfigurationSha256, binding.scenarioId,
    binding.scenarioConfigurationSha256 with
  | some source, some run, some modelId, some version, some model, some scenarioId,
      some scenario =>
    let fields : GatewayRunBindingFields := {
      missionRunId := binding.missionRunId
      missionSourceSha256 := source
      runIdentitySha256 := run
      modelId := modelId
      modelVersion := version
      modelConfigurationSha256 := model
      scenarioId := scenarioId
      scenarioConfigurationSha256 := scenario
      fleetSessionId := binding.fleetSessionId
      fleetRunId := binding.fleetRunId
      deploymentSha256 := binding.deploymentSha256
      taskId := binding.taskId
      taskLeaseGeneration := binding.taskLeaseGeneration
      backendNamespace := binding.backendNamespace
      preparationReady := binding.preparationReady }
    if complete : fields.fleetIdentityIsComplete = true then .ok ⟨fields, complete⟩
    else .error (.exception "gateway fleet binding must be complete")
  | _, _, _, _, _, _, _ => .error (.ofCode .preflightFailed
      "Isaac mission requires complete source/model/scenario run identity")

/-- The bound run is one of the model and the scene of the adapter. -/
def sameModel (binding : GatewayRunBinding) : Bool :=
  binding.modelId == scene.modelId && binding.modelVersion == scene.modelVersion &&
    binding.modelConfigurationSha256 == scene.parameterConfigurationSha256 &&
    binding.scenarioId == scene.sceneId && binding.scenarioConfigurationSha256 == scene.sha256

def bindRun (binding : MissionRunBinding) : IsaacCall F Unit :=
  match gatewayBinding binding with
  | .error raised => raises raised
  | .ok binding =>
    if !sameModel scene binding then
      raises (.ofCode .identityMismatch "Isaac run binding changed model")
    else do
      let response ← request scene .bindRun (.binding binding)
      modify fun s => { s with binding := some binding, health := response.health }
      takeOptional scene response

def disconnectedSample : TelemetryEnvelope F where
  vehicleId := scene.vehicleId
  sequence := 0
  sourceTimestampS := zero
  sourceClockId := "isaac-" ++ scene.vehicleId
  telemetry := { state := .disconnected, armed := false, flying := false }

/-- `suppress(CrazySwarmError)`. -/
def suppressError (call : IsaacCall F Unit) : IsaacCall F Unit :=
  call.rescue fun
    | .error _ => returns ()
    | raised => raises raised

/-- The end of a disconnect. -/
def close : IsaacCall F Unit :=
  wait .close fun
    | .error raised => raises raised
    | .ok _ => modify fun s => { s with
        sessionId := none
        binding := none
        negotiated := none
        latest := disconnectedSample scene }

def disconnect (transport : GatewayLifecycleState) : IsaacCall F Unit := do
  if transport ∈ [GatewayLifecycleState.ready, .runBound] then
    suppressError do
      let response ← request scene .disconnect .empty
      takeOptional scene response
  close scene

/-- The error of a request for a command, with the details that `execute` adds. -/
def unknownOutcome (command : VehicleCommand F) : AdapterRaised F → AdapterRaised F
  | .error error => .error { error with
      details := Dict.bind "automatic_retry_safe" (.flag false)
        (Dict.bind "command_outcome" (.text "UNKNOWN_OUTCOME")
          (Dict.bind "command_id" (.text command.commandId) error.details)) }
  | raised => raised

def sendCommand (command : VehicleCommand F) : IsaacCall F (GatewayResponse F) := do
  let s ← get
  match commandToGatewayPayload command s.binding with
  | .error raised => raises raised
  | .ok payload => request scene .command payload

def execute (command : VehicleCommand F) : IsaacCall F CommandAcknowledgement :=
  if command.vehicleId != scene.vehicleId then
    raises (.ofCode .identityMismatch "Isaac command target mismatch")
  else do
    let response ← (sendCommand scene command).rescue fun raised =>
      raises (unknownOutcome command raised)
    if response.commandId != some command.commandId then
      raises (.ofCode .identityMismatch "Isaac acknowledgement mismatch")
    else do
      takeOptional scene response
      return ⟨command.commandId, .completed, some "Isaac gateway command completed"⟩

def snapshot : IsaacCall F (TelemetryEnvelope F) := do
  let response ← request scene .snapshot .empty
  takeRequired scene response "Isaac snapshot is absent"

def refreshGatewayHealth : IsaacCall F Unit := do
  let response ← request scene .health .empty
  match response.health with
  | none => raises (.ofCode .telemetryStale "Isaac health is absent")
  | some _ => modify fun s => { s with health := some ⟨s.telemetryDroppedTotal⟩ }

def manualStep (steps : Int) : IsaacCall F (TelemetryEnvelope F) := do
  if !(1 ≤ steps && steps ≤ 10000) then
    raises (.exception "Isaac manual step count must be between 1 and 10000")
  else
    let s ← get
    if !s.negotiated.any (·.supportsManualStep) then
      raises (.ofCode .preflightFailed "Isaac manual stepping is absent")
    else
      let response ← request scene .step (.steps steps)
      takeRequired scene response "Isaac step telemetry is absent"

def resetSourceClock : IsaacCall F (TelemetryEnvelope F) := do
  let response ← request scene .resetClock .empty
  takeRequired scene response "Isaac clock reset sample is absent"

/-- A new stream of telemetry. -/
def subscribe (s : IsaacSimVehicle F) : IsaacSimVehicle F :=
  { s with subscribers := s.subscribers ++ [{}] }

/-- A stream takes the next envelope of its queue, if there is one. -/
def receive (s : IsaacSimVehicle F) (stream : Nat) : IsaacSimVehicle F :=
  { s with subscribers := s.subscribers.modify stream fun subscriber =>
      { subscriber with
        queue := subscriber.queue.tail
        received := subscriber.received ++ subscriber.queue.head?.toList } }

def unsubscribe (s : IsaacSimVehicle F) (stream : Nat) : IsaacSimVehicle F :=
  { s with subscribers := s.subscribers.modify stream fun subscriber =>
      { subscriber with listening := false } }

inductive Operation (F : Type) where
  | connect (transport : GatewayLifecycleState)
  | bindRun (binding : MissionRunBinding)
  | disconnect (transport : GatewayLifecycleState)
  | execute (command : VehicleCommand F)
  | snapshot
  | refreshGatewayHealth
  | manualStep (steps : Int)
  | resetSourceClock
  | subscribe
  | receive (stream : Nat)
  | unsubscribe (stream : Nat)

inductive Answer (F : Type) where
  | done
  | envelope (sample : TelemetryEnvelope F)
  | acknowledged (acknowledgement : CommandAcknowledgement)

def program : Operation F → IsaacCall F (Answer F)
  | .connect transport => do connect scene transport; return .done
  | .bindRun binding => do bindRun scene binding; return .done
  | .disconnect transport => do disconnect scene transport; return .done
  | .execute command => return .acknowledged (← execute scene command)
  | .snapshot => return .envelope (← snapshot scene)
  | .refreshGatewayHealth => do refreshGatewayHealth scene; return .done
  | .manualStep steps => return .envelope (← manualStep scene steps)
  | .resetSourceClock => return .envelope (← resetSourceClock scene)
  | .subscribe => do modify subscribe; return .done
  | .receive stream => do modify (receive · stream); return .done
  | .unsubscribe stream => do modify (unsubscribe · stream); return .done

end IsaacSimVehicle
end CrazySwarm
