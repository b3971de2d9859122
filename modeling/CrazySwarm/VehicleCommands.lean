import CrazySwarm.SafetySupervisor

/-! Commands as a vehicle adapter receives them, and the run identity that it is bound to. Unlike
the commands of a supervisor they include the two that open and close the connection. -/
namespace CrazySwarm

variable {F : Type}

inductive VehiclePayload (F : Type) where
  | connect
  | disconnect
  | arm
  | disarm
  | takeoff (heightM durationS : F) (yawRad : Option F)
  | hover (durationS : F)
  | moveRelative (command : MoveRelativeCommand F)
  | executeTrajectory (trajectoryVehicleId : String)
  | stopAndHold
  | land (command : LandCommand F)
  | abort (reason : String)
  | emergencyStop (reason : String)
  deriving DecidableEq, Repr

def VehiclePayload.kind : VehiclePayload F → Option CommandKind
  | connect | disconnect => none
  | arm => some .arm
  | disarm => some .disarm
  | takeoff .. => some .takeoff
  | hover _ => some .hover
  | moveRelative _ => some .moveRelative
  | executeTrajectory _ => some .executeTrajectory
  | stopAndHold => some .stopAndHold
  | land _ => some .land
  | abort _ => some .abort
  | emergencyStop _ => some .emergencyStop

def VehiclePayload.value : VehiclePayload F → String
  | connect => "connect"
  | disconnect => "disconnect"
  | payload => (payload.kind.map CommandKind.value).getD ""

structure VehicleCommand (F : Type) where
  vehicleId : String
  commandId : String
  missionRunId : Option String
  fleet : Option FleetCommandBinding
  issuedAtMonotonicS : F
  source : CommandSource
  mode : OperatingMode
  payload : VehiclePayload F
  deriving DecidableEq, Repr

/-- The identity handed to an adapter before a mission can command it. -/
structure MissionRunBinding where
  missionRunId : String
  missionSourceSha256 : Option String := none
  runIdentitySha256 : Option String := none
  modelId : Option String := none
  modelVersion : Option String := none
  modelConfigurationSha256 : Option String := none
  scenarioId : Option String := none
  scenarioConfigurationSha256 : Option String := none
  fleetSessionId : Option String := none
  fleetRunId : Option String := none
  deploymentSha256 : Option String := none
  taskId : Option String := none
  taskLeaseGeneration : Option Nat := none
  backendNamespace : Option String := none
  preparationReady : Bool := false
  deriving DecidableEq, Repr

inductive ErrorDetail (F : Type) where
  | text (value : String)
  | texts (values : List String)
  | number (value : F)
  | flag (value : Bool)
  | null
  deriving DecidableEq, Repr

structure CrazySwarmError (F : Type) where
  code : ErrorCode
  message : String
  details : List (String × ErrorDetail F) := []
  deriving DecidableEq, Repr

/-- What a call of an adapter raises: the error of the application, another `Exception` with its
text, or a cancellation or other base exception. -/
inductive AdapterRaised (F : Type) where
  | error (raised : CrazySwarmError F)
  | exception (text : String)
  | cancelled
  deriving DecidableEq, Repr

namespace AdapterRaised

def ofCode (code : ErrorCode) (message : String) : AdapterRaised F := .error ⟨code, message, []⟩

/-- `str(error)`. -/
def text : AdapterRaised F → String
  | error raised => raised.message
  | exception text => text
  | cancelled => ""

/-- `except Exception`. -/
def isException : AdapterRaised F → Bool
  | cancelled => false
  | _ => true

/-- Construct a contract model whose named field checks must all pass. -/
def checked (model : String) (checks : List (String × Bool)) : Except (AdapterRaised F) Unit :=
  require (checks.all (·.2)) (.exception
    (model ++ ": " ++ ", ".intercalate ((checks.filter (!·.2)).map (·.1))))

end AdapterRaised

end CrazySwarm
