import CrazySwarm.VehicleCommands
import CrazySwarm.FleetAuthority
import CrazySwarm.Lib.Runs

/-! The mission authority of the simulated vehicle: the run it is bound to, the receipts of the
transitions of its task lease, and the commands that pass its check of the binding. The motion of
the vehicle only moves its state, arbitrarily. -/
namespace CrazySwarm

structure AdapterTransitionReceipt extends FleetAuthorityTransitionReceipt where
  previousBindingSha256 : String
  currentBindingSha256 : String
  deriving DecidableEq, Repr

structure SimulatedVehicle where
  vehicleId : String
  state : VehicleState := .disconnected
  armed : Bool := false
  flying : Bool := false
  binding : Option MissionRunBinding := none
  authorityTransitionSequence : Nat := 0
  authorityTransitionReceipts : List AdapterTransitionReceipt := []
  deriving DecidableEq, Repr

namespace SimulatedVehicle

variable {F : Type} [PyFloat F] (sha : MissionRunBinding → String)

/-- What the physics of the vehicle and its connection leave behind. -/
structure Motion where
  state : VehicleState
  armed : Bool
  flying : Bool
  deriving DecidableEq, Repr

def moved (vehicle : SimulatedVehicle) (motion : Motion) : SimulatedVehicle :=
  { vehicle with state := motion.state, armed := motion.armed, flying := motion.flying }

def reset (vehicle : SimulatedVehicle) : SimulatedVehicle :=
  { vehicle with
    state := .disconnected, armed := false, flying := false
    binding := none
    authorityTransitionSequence := 0
    authorityTransitionReceipts := [] }

def refuse (code : ErrorCode) (message : String) : Except (Fault F) α :=
  .error (.crazySwarm code message .none)

/-- A new mission run can bind only while the simulator is safe and idle. -/
def idle (vehicle : SimulatedVehicle) : Bool :=
  vehicle.state ∈ [VehicleState.disconnected, .ready] && !vehicle.armed && !vehicle.flying

def bindRun (vehicle : SimulatedVehicle) (binding : MissionRunBinding) :
    SimulatedVehicle × Except (Fault F) Unit :=
  match vehicle.binding.filter (·.missionRunId == binding.missionRunId) with
  | some current =>
    if current ≠ binding then
      (vehicle, refuse .modeNotAuthorized
        "same-run authority changes require an explicit fleet transition")
    else (vehicle, .ok ())
  | none =>
    if !vehicle.idle then
      (vehicle, refuse .invalidState
        "a new mission run can bind only while the simulator is safe and idle")
    else
      ({ vehicle with
        binding := some binding
        authorityTransitionSequence := 0
        authorityTransitionReceipts := [] }, .ok ())

/-- `requested_identity == actual_identity`. -/
def sameIdentity (vehicle : SimulatedVehicle) (binding : MissionRunBinding)
    (transition : FleetAuthorityTransition) : Bool :=
  (transition.vehicleId, transition.missionRunId, some transition.fleetSessionId,
    some transition.fleetRunId, some transition.deploymentSha256) ==
  (vehicle.vehicleId, binding.missionRunId, binding.fleetSessionId, binding.fleetRunId,
    binding.deploymentSha256)

def ownsLease (binding : MissionRunBinding) (transition : FleetAuthorityTransition) : Bool :=
  (binding.taskId, binding.taskLeaseGeneration) ==
    (some transition.expectedTaskId, some transition.expectedTaskLeaseGeneration)

def nextBinding (binding : MissionRunBinding) (transition : FleetAuthorityTransition) :
    MissionRunBinding :=
  { binding with
    taskId := some transition.nextTaskId
    taskLeaseGeneration := some transition.nextTaskLeaseGeneration }

def transitionReceipt (vehicle : SimulatedVehicle) (binding : MissionRunBinding)
    (transition : FleetAuthorityTransition) : AdapterTransitionReceipt where
  transitionId := transition.transitionId
  sequence := transition.sequence
  vehicleId := vehicle.vehicleId
  missionRunId := binding.missionRunId
  fleetSessionId := binding.fleetSessionId.getD ""
  fleetRunId := transition.fleetRunId
  deploymentSha256 := transition.deploymentSha256
  previousTaskId := transition.expectedTaskId
  previousTaskLeaseGeneration := transition.expectedTaskLeaseGeneration
  currentTaskId := transition.nextTaskId
  currentTaskLeaseGeneration := transition.nextTaskLeaseGeneration
  reasonCode := transition.reasonCode
  authorizationSha256 := transition.authorizationSha256
  previousBindingSha256 := sha binding
  currentBindingSha256 := sha (nextBinding binding transition)

def count (value : Nat) : DetailValue F := .number (PyFloat.ofRat value)

def admittedTransition (vehicle : SimulatedVehicle) (transition : FleetAuthorityTransition) :
    Except (Fault F) MissionRunBinding :=
  match vehicle.binding.filter (·.fleetSessionId.isSome) with
  | none => refuse .modeNotAuthorized "simulator has no fleet-bound mission authority to transition"
  | some binding => do
    require (vehicle.state ∉ [VehicleState.disconnected, .emergency])
      (.crazySwarm .invalidState
        "fleet authority cannot transition while the simulator is unavailable" .none)
    require (vehicle.sameIdentity binding transition)
      (.crazySwarm .identityMismatch
        "fleet authority transition identity does not match the bound run" .none)
    require (ownsLease binding transition)
      (.crazySwarm .modeNotAuthorized
        "fleet authority transition does not own the current task lease" .none)
    require (transition.sequence == vehicle.authorityTransitionSequence + 1)
      (.crazySwarm .modeNotAuthorized
        "fleet authority transition sequence is not the next expected value"
        (.entries [("expected", count (vehicle.authorityTransitionSequence + 1)),
          ("actual", count transition.sequence)]))
    return binding

def transitionFleetAuthority (vehicle : SimulatedVehicle) (transition : FleetAuthorityTransition) :
    SimulatedVehicle × Except (Fault F) AdapterTransitionReceipt :=
  match vehicle.admittedTransition transition with
  | .error fault => (vehicle, .error fault)
  | .ok binding =>
    let receipt := vehicle.transitionReceipt sha binding transition
    ({ vehicle with
      binding := some (nextBinding binding transition)
      authorityTransitionSequence := transition.sequence
      authorityTransitionReceipts := vehicle.authorityTransitionReceipts ++ [receipt] },
      .ok receipt)

/-- `unbound_safety_override`. -/
def unboundSafetyOverride (command : VehicleCommand F) : Bool :=
  command.missionRunId.isNone && command.fleet.isNone &&
    (command.source == .supervisor &&
      command.payload.kind.any (· ∈ [CommandKind.stopAndHold, .land, .abort, .emergencyStop]) ||
    command.source == .mission && command.payload.kind == some .disarm)

def sameFleet (binding : MissionRunBinding) (fleet : FleetCommandBinding) : Bool :=
  (some fleet.fleetSessionId, some fleet.fleetRunId, some fleet.deploymentSha256,
    some fleet.taskId, some fleet.taskLeaseGeneration) ==
  (binding.fleetSessionId, binding.fleetRunId, binding.deploymentSha256, binding.taskId,
    binding.taskLeaseGeneration)

/-- `_validate_run_binding`. -/
def validateRunBinding (vehicle : SimulatedVehicle) (command : VehicleCommand F) :
    Except (Fault F) Unit :=
  match vehicle.binding with
  | none => .ok ()
  | some binding =>
    if command.missionRunId ≠ some binding.missionRunId then
      if unboundSafetyOverride command then .ok ()
      else refuse .identityMismatch "simulator mission run mismatch"
    else if binding.fleetSessionId.isNone then
      if command.fleet.isSome then refuse .identityMismatch "unexpected fleet binding"
      else .ok ()
    else if command.fleet.any (sameFleet binding) then .ok ()
    else refuse .identityMismatch "simulator fleet run mismatch"

/-- A command that passes the check has an outcome of its own and moves the vehicle. -/
def execute (vehicle : SimulatedVehicle) (command : VehicleCommand F) (motion : Motion)
    (outcome : Except (Fault F) Unit) : SimulatedVehicle × Except (Fault F) Unit :=
  if command.vehicleId ≠ vehicle.vehicleId then
    (vehicle, .error (.crazySwarm .identityMismatch
      "command target does not match simulated vehicle"
      (.entries [("expected", .text vehicle.vehicleId), ("actual", .text command.vehicleId)])))
  else
    match vehicle.validateRunBinding command with
    | .error fault => (vehicle, .error fault)
    | .ok () => (vehicle.moved motion, outcome)

/-- One call on the vehicle. `moves` stands for its connection, for the clock and for commands
that are still under way. -/
inductive Call (F : Type) where
  | bindRun (binding : MissionRunBinding)
  | transition (transition : FleetAuthorityTransition)
  | reset
  | execute (command : VehicleCommand F) (motion : Motion) (outcome : Except (Fault F) Unit)
  | moves (motion : Motion)

def step (vehicle : SimulatedVehicle) : Call F → SimulatedVehicle
  | .bindRun binding => (vehicle.bindRun binding : _ × Except (Fault F) _).1
  | .transition transition => (vehicle.transitionFleetAuthority sha transition : _ × Except (Fault F) _).1
  | .reset => vehicle.reset
  | .execute command motion outcome => (vehicle.execute command motion outcome).1
  | .moves motion => vehicle.moved motion

end SimulatedVehicle
end CrazySwarm
