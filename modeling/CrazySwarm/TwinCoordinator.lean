import CrazySwarm.VehicleCommands
import CrazySwarm.Numbers
import CrazySwarm.Lib.Coroutines

/-! The sessions of a vehicle and its twin. A session's record is replaced by a changed copy; what
the executors of an intent do is arbitrary. -/
namespace CrazySwarm
open PyFloat

inductive TwinSourceClass where
  | measuredReal | simulatedModel | configured | test
  deriving DecidableEq, Repr

inductive TwinValidity where
  | valid | unavailable | incompatible
  deriving DecidableEq, Repr

inductive TwinSessionStatus where
  | ready | active | complete | failed
  deriving DecidableEq, Repr

/-- What an intent and its session must agree on. -/
structure TwinArtifact where
  missionId : String
  missionVersion : String
  missionSourceSha256 : Option String := none
  physicsModelId : Option String := none
  physicsModelVersion : Option String := none
  physicsConfigurationSha256 : Option String := none
  deriving DecidableEq, Repr

structure TwinSessionConfig (F : Type) extends TwinArtifact where
  observedVehicleId : String
  simulatedVehicleId : String
  observedInitialSource : TwinSourceClass
  simulatedInitialSource : TwinSourceClass
  alignmentToleranceS : F
  groundTruthAvailable : Bool := false
  testOnly : Bool := false

structure CanonicalMissionIntent extends TwinArtifact where
  intentId : String
  deriving DecidableEq, Repr

structure TwinIntentAcknowledgement (F : Type) where
  side : String
  accepted : Bool
  receivedAtMonotonicS : F
  completedAtMonotonicS : Option F
  message : Option String
  deriving DecidableEq, Repr

structure TwinObservation (F : Type) where
  vehicleId : String
  sourceClass : TwinSourceClass
  sourceTimestampS : F
  receivedTimestampS : F
  frame : CoordinateFrame
  valid : Bool := true
  positionM : Option (Vector3 F) := none
  velocityMS : Option (Vector3 F) := none
  yawRad : Option F := none
  batteryPercent : Option F := none
  deriving DecidableEq, Repr

structure TwinDeviation (F : Type) where
  observedSourceTimestampS : F
  simulatedSourceTimestampS : F
  sourceTimestampS : F
  observedLatencyMs : F
  simulatedLatencyMs : F
  alignmentDeltaMs : F
  frame : Option CoordinateFrame
  validity : TwinValidity
  positionM : Option F
  altitudeM : Option F
  velocityMS : Option F
  yawRad : Option F
  batteryPercent : Option F
  groundTruthAvailable : Bool
  observedSourceClass : TwinSourceClass
  simulatedSourceClass : TwinSourceClass
  deriving DecidableEq, Repr

structure TwinSessionRecord (F : Type) extends TwinArtifact where
  sessionId : String
  status : TwinSessionStatus
  observedVehicleId : String
  simulatedVehicleId : String
  createdAtMonotonicS : F
  groundTruthAvailable : Bool
  testOnly : Bool
  latestDeviation : Option (TwinDeviation F) := none
  intentAcknowledgements : List (TwinIntentAcknowledgement F) := []
  deviationCount : Nat := 0
  deriving DecidableEq, Repr

structure TwinSession (F : Type) where
  record : TwinSessionRecord F
  config : TwinSessionConfig F
  deviations : List (TwinDeviation F) := []

structure TwinCoordinator (F : Type) where
  sessions : Dict String (TwinSession F) := .empty

/-- One executor's run: its two clock readings, and the text of its result or its error with the
name of its type. -/
structure TwinSideRun (F : Type) where
  receivedS : F
  completedS : F
  outcome : Except (String × String) (Option String)

inductive TwinWait where
  | gather (intent : CanonicalMissionIntent)

/-- Both sides come to their end, or the wait raises. -/
def TwinReply (F : Type) : TwinWait → Type
  | .gather _ => Except (AdapterRaised F) (TwinSideRun F × TwinSideRun F)

abbrev TwinCall (F α : Type) :=
  Coroutine (TwinCoordinator F) TwinWait (TwinReply F) (AdapterRaised F) α

namespace TwinCoordinator
open Coroutine

variable {F : Type} [PyAngle F]

def unknownSession : AdapterRaised F := .ofCode .identityMismatch "unknown twin session"

/-- The checks of `create_session`. -/
def checkConfig (config : TwinSessionConfig F) : Except (AdapterRaised F) Unit := do
  require (config.observedVehicleId != config.simulatedVehicleId)
    (.ofCode .identityMismatch "observed and simulated twin vehicles must be distinct")
  require (config.observedInitialSource ∈ [TwinSourceClass.measuredReal, .configured, .test])
    (.ofCode .invalidCommand
      "observed initial state requires measured, configured, or test provenance")
  require (config.simulatedInitialSource ∈ [TwinSourceClass.simulatedModel, .configured, .test])
    (.ofCode .invalidCommand
      "simulated initial state requires model, configured, or test provenance")
  require (!(config.observedInitialSource == .test || config.simulatedInitialSource == .test) ||
      config.testOnly)
    (.ofCode .invalidCommand "test streams require a test-only twin session")

def newSession (sessionId : String) (nowS : F) (config : TwinSessionConfig F) : TwinSession F where
  record := { config with
    sessionId
    status := .ready
    createdAtMonotonicS := nowS }
  config := config

/-- `create_session`, with the random part of its identifier and the time. -/
def createSession (s : TwinCoordinator F) (token : String) (nowS : F)
    (config : TwinSessionConfig F) :
    TwinCoordinator F × Except (AdapterRaised F) (TwinSessionRecord F) :=
  match checkConfig config with
  | .error raised => (s, .error raised)
  | .ok _ =>
    let session := newSession ("twin-" ++ token) nowS config
    ({ s with sessions := s.sessions.insert session.record.sessionId session }, .ok session.record)

def update (s : TwinCoordinator F) (sessionId : String) (change : TwinSession F → TwinSession F) :
    TwinCoordinator F :=
  match s.sessions.get? sessionId with
  | none => s
  | some session => { s with sessions := s.sessions.insert sessionId (change session) }

def setStatus (status : TwinSessionStatus) (session : TwinSession F) : TwinSession F :=
  { session with record := { session.record with status := status } }

def acknowledge (added : List (TwinIntentAcknowledgement F)) (session : TwinSession F) :
    TwinSession F :=
  { session with record := { session.record with
    intentAcknowledgements := session.record.intentAcknowledgements ++ added } }

/-- `_execute_side`. -/
def executeSide (side : String) (run : TwinSideRun F) : TwinIntentAcknowledgement F :=
  match run.outcome with
  | .error (kind, text) => ⟨side, false, run.receivedS, some run.completedS,
      some (kind ++ ": " ++ text)⟩
  | .ok message => ⟨side, true, run.receivedS, some run.completedS, message⟩

def routeIntent (sessionId : String) (intent : CanonicalMissionIntent) :
    TwinCall F (TwinIntentAcknowledgement F × TwinIntentAcknowledgement F) := do
  let s ← get
  match s.sessions.get? sessionId with
  | none => raises unknownSession
  | some session =>
    if intent.toTwinArtifact != session.config.toTwinArtifact then
      raises (.ofCode .invalidCommand
        "intent artifact or physics model does not match twin session")
    else do
      modify (update · sessionId (setStatus .active))
      wait (.gather intent) fun
        | .error raised => raises raised
        | .ok runs => do
          let observed := executeSide "observed" runs.1
          let simulated := executeSide "simulated" runs.2
          modify (update · sessionId (acknowledge [observed, simulated]))
          return (observed, simulated)

/-- `_validate_observations`. -/
def validateObservations (session : TwinSession F) (observed simulated : TwinObservation F) :
    Except (AdapterRaised F) Unit := do
  require (observed.vehicleId == session.config.observedVehicleId)
    (.ofCode .identityMismatch "observed vehicle mismatch")
  require (simulated.vehicleId == session.config.simulatedVehicleId)
    (.ofCode .identityMismatch "simulated vehicle mismatch")
  require (observed.sourceClass != .simulatedModel)
    (.ofCode .invalidCommand "observed side cannot claim model data")
  require (simulated.sourceClass != .measuredReal)
    (.ofCode .invalidCommand "simulated side cannot claim real data")
  require (!(observed.sourceClass == .test || simulated.sourceClass == .test) ||
      session.config.testOnly)
    (.ofCode .invalidCommand "test observation leaked to operator twin")

def distance (left right : Vector3 F) : F :=
  sqrt (PyMath.pow (left.x - right.x) 2 + PyMath.pow (left.y - right.y) 2 +
    PyMath.pow (left.z - right.z) 2)

def wrappedAngle (value : F) : F :=
  PyAngle.mod (value + PyAngle.pi) (ofRat 2 * PyAngle.pi) - PyAngle.pi

/-- A residual of two values, where there are two and they can be compared. -/
def residual {V : Type} (validity : TwinValidity) (observed simulated : Option V)
    (measure : V → V → F) : Option F :=
  if validity = .valid then
    match observed, simulated with
    | some left, some right => some (measure left right)
    | _, _ => none
  else none

def validityOf (session : TwinSession F) (observed simulated : TwinObservation F) : TwinValidity :=
  let compatible := observed.frame == simulated.frame
  let aligned := le (abs (observed.sourceTimestampS - simulated.sourceTimestampS))
    session.config.alignmentToleranceS
  let valid := observed.valid && simulated.valid && compatible && aligned
  let comparable := valid && (
    observed.positionM.isSome && simulated.positionM.isSome ||
    observed.velocityMS.isSome && simulated.velocityMS.isSome ||
    observed.yawRad.isSome && simulated.yawRad.isSome ||
    observed.batteryPercent.isSome && simulated.batteryPercent.isSome)
  if comparable then .valid
  else if !compatible || !aligned then .incompatible
  else .unavailable

def deviationOf (session : TwinSession F) (observed simulated : TwinObservation F) :
    TwinDeviation F :=
  let validity := validityOf session observed simulated
  { observedSourceTimestampS := observed.sourceTimestampS
    simulatedSourceTimestampS := simulated.sourceTimestampS
    sourceTimestampS := max observed.sourceTimestampS simulated.sourceTimestampS
    observedLatencyMs :=
      max zero (observed.receivedTimestampS - observed.sourceTimestampS) * ofRat 1000
    simulatedLatencyMs :=
      max zero (simulated.receivedTimestampS - simulated.sourceTimestampS) * ofRat 1000
    alignmentDeltaMs := abs (observed.sourceTimestampS - simulated.sourceTimestampS) * ofRat 1000
    frame := if observed.frame == simulated.frame then some observed.frame else none
    validity
    positionM := residual validity observed.positionM simulated.positionM distance
    altitudeM := residual validity observed.positionM simulated.positionM
      fun left right => abs (left.z - right.z)
    velocityMS := residual validity observed.velocityMS simulated.velocityMS distance
    yawRad := residual validity observed.yawRad simulated.yawRad
      fun left right => abs (wrappedAngle (left - right))
    batteryPercent := residual validity observed.batteryPercent simulated.batteryPercent
      fun left right => abs (left - right)
    groundTruthAvailable := session.config.groundTruthAvailable
    observedSourceClass := observed.sourceClass
    simulatedSourceClass := simulated.sourceClass }

/-- The fields of a deviation that may not be negative. -/
def checkDeviation (deviation : TwinDeviation F) : Except (AdapterRaised F) Unit :=
  AdapterRaised.checked "TwinDeviation" [
    ("observed_source_timestamp_s", ge deviation.observedSourceTimestampS zero),
    ("simulated_source_timestamp_s", ge deviation.simulatedSourceTimestampS zero),
    ("source_timestamp_s", ge deviation.sourceTimestampS zero),
    ("observed_latency_ms", ge deviation.observedLatencyMs zero),
    ("simulated_latency_ms", ge deviation.simulatedLatencyMs zero),
    ("alignment_delta_ms", ge deviation.alignmentDeltaMs zero),
    ("position_m", deviation.positionM.all (ge · zero)),
    ("altitude_m", deviation.altitudeM.all (ge · zero)),
    ("velocity_m_s", deviation.velocityMS.all (ge · zero)),
    ("yaw_rad", deviation.yawRad.all (ge · zero)),
    ("battery_percent", deviation.batteryPercent.all (ge · zero))]

def compare (session : TwinSession F) (observed simulated : TwinObservation F) :
    Except (AdapterRaised F) (TwinDeviation F) := do
  validateObservations session observed simulated
  checkDeviation (deviationOf session observed simulated)
  return deviationOf session observed simulated

def deviate (deviation : TwinDeviation F) (session : TwinSession F) : TwinSession F :=
  let deviations := session.deviations ++ [deviation]
  { session with
    deviations
    record := { session.record with
      latestDeviation := some deviation
      deviationCount := deviations.length } }

def addObservations (sessionId : String) (observed simulated : TwinObservation F) :
    TwinCall F (TwinDeviation F) := do
  let s ← get
  match s.sessions.get? sessionId with
  | none => raises unknownSession
  | some session =>
    match compare session observed simulated with
    | .error raised => raises raised
    | .ok deviation => do
      modify (update · sessionId (deviate deviation))
      return deviation

def complete (sessionId : String) (failed : Bool) : TwinCall F (TwinSessionRecord F) := do
  let s ← get
  match s.sessions.get? sessionId with
  | none => raises unknownSession
  | some session => do
    let ended : TwinSessionStatus := if failed then .failed else .complete
    modify (update · sessionId (setStatus ended))
    return { session.record with status := ended }

inductive Operation (F : Type) where
  | routeIntent (sessionId : String) (intent : CanonicalMissionIntent)
  | addObservations (sessionId : String) (observed simulated : TwinObservation F)
  | complete (sessionId : String) (failed : Bool)

inductive Answer (F : Type) where
  | acknowledged (observed simulated : TwinIntentAcknowledgement F)
  | deviation (deviation : TwinDeviation F)
  | record (record : TwinSessionRecord F)

def program : Operation F → TwinCall F (Answer F)
  | .routeIntent sessionId intent => do
    let pair ← routeIntent sessionId intent
    return .acknowledged pair.1 pair.2
  | .addObservations sessionId observed simulated =>
    return .deviation (← addObservations sessionId observed simulated)
  | .complete sessionId failed => return .record (← complete sessionId failed)

end TwinCoordinator
end CrazySwarm
