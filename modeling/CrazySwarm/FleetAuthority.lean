import CrazySwarm.Lib.Locks
import CrazySwarm.SafetySupervisor

/-! The fleet authority of a mission run: one binding that every command of the run is executed
under, and its transitions to another task lease. Commands and the adapter are arbitrary
coroutines over the rest of the world. -/
namespace CrazySwarm

structure FleetAuthorityTransition where
  transitionId : String
  sequence : Nat
  vehicleId : String
  missionRunId : String
  fleetSessionId : String
  fleetRunId : String
  deploymentSha256 : String
  expectedTaskId : String
  expectedTaskLeaseGeneration : Nat
  nextTaskId : String
  nextTaskLeaseGeneration : Nat
  reasonCode : String
  authorizationSha256 : String
  changesAuthority : (expectedTaskId, expectedTaskLeaseGeneration) ≠
    (nextTaskId, nextTaskLeaseGeneration)

structure FleetAuthorityTransitionReceipt where
  transitionId : String
  sequence : Nat
  vehicleId : String
  missionRunId : String
  fleetSessionId : String
  fleetRunId : String
  deploymentSha256 : String
  previousTaskId : String
  previousTaskLeaseGeneration : Nat
  currentTaskId : String
  currentTaskLeaseGeneration : Nat
  reasonCode : String
  authorizationSha256 : String
  deriving DecidableEq, Repr

/-- `_guard` and `_health_guard`. -/
inductive AuthorityGuard where
  | guard | healthGuard
  deriving DecidableEq, Repr

/-- `world` is what the commands and the adapter act on. -/
structure MissionFleetAuthority (σ : Type) where
  world : σ
  binding : Option FleetCommandBinding
  guard : Bool := false
  healthGuard : Bool := false
  receipts : List FleetAuthorityTransitionReceipt := []

inductive AuthorityAwaited (W : Type) where
  | acquire (lock : AuthorityGuard) (within : Bool)
  | operation (lock : AuthorityGuard) (binding : Option FleetCommandBinding) (on : W)
  | adapter (binding : FleetCommandBinding) (on : W)

/-- The wait for a guard ends with the guard or with what is raised in the task. -/
def AuthorityReply {W : Type} (R : W → Type) (F : Type) : AuthorityAwaited W → Type
  | .acquire .. => Except (Raised F) Unit
  | .operation _ _ on | .adapter _ on => R on

abbrev AuthorityCall (σ W : Type) (R : W → Type) (F α : Type) :=
  Coroutine (MissionFleetAuthority σ) (AuthorityAwaited W) (AuthorityReply R F) (Raised F) α

namespace MissionFleetAuthority
open Coroutine

variable {σ W : Type} {R : W → Type} {F : Type} {α : Type}

def locked (s : MissionFleetAuthority σ) : AuthorityGuard → Bool
  | .guard => s.guard
  | .healthGuard => s.healthGuard

def turn (lock : AuthorityGuard) (flag : Bool) (s : MissionFleetAuthority σ) :
    MissionFleetAuthority σ :=
  match lock with
  | .guard => { s with guard := flag }
  | .healthGuard => { s with healthGuard := flag }

/-- A transition waits for the second guard with the first one, and for its adapter with both. -/
def holds : AuthorityAwaited W → AuthorityGuard → Bool
  | .acquire _ within, lock => within && lock == .guard
  | .operation held _ _, lock => lock == held
  | .adapter .., _ => true

def guards : Locks (MissionFleetAuthority σ) (AuthorityAwaited W) AuthorityGuard where
  locked := locked
  turn := turn
  locked_turn s lock flag other := by cases lock <;> cases other <;> rfl
  holds := holds

/-- `async with` one of the guards. -/
def withGuard (lock : AuthorityGuard) (within : Bool) (body : AuthorityCall σ W R F α) :
    AuthorityCall σ W R F α :=
  guards.withLock lock (.acquire lock within) id body

def awaitWorld (mark : W → AuthorityAwaited W)
    (back : (on : W) → AuthorityReply R F (mark on) → R on) (call : Coroutine σ W R (Raised F) α) :
    AuthorityCall σ W R F α :=
  call.zoom world (fun world s => { s with world }) mark back

def runOperation (lock : AuthorityGuard)
    (operation : Option FleetCommandBinding → Coroutine σ W R (Raised F) α) :
    AuthorityCall σ W R F α := do
  let s ← get
  awaitWorld (.operation lock s.binding) (fun _ => id) (operation s.binding)

def execute (operation : Option FleetCommandBinding → Coroutine σ W R (Raised F) α) :
    AuthorityCall σ W R F α :=
  withGuard .guard false (runOperation .guard operation)

def evaluateHealth (operation : Option FleetCommandBinding → Coroutine σ W R (Raised F) α) :
    AuthorityCall σ W R F α :=
  withGuard .healthGuard false (runOperation .healthGuard operation)

def expects (transition : FleetAuthorityTransition) (binding : FleetCommandBinding) : Bool :=
  (binding.fleetSessionId, binding.fleetRunId, binding.deploymentSha256, binding.taskId,
    binding.taskLeaseGeneration) ==
  (transition.fleetSessionId, transition.fleetRunId, transition.deploymentSha256,
    transition.expectedTaskId, transition.expectedTaskLeaseGeneration)

/-- `vehicle.transition_fleet_authority`. -/
abbrev Adapter (σ W : Type) (R : W → Type) (F : Type) :=
  FleetAuthorityTransition → Coroutine σ W R (Raised F) FleetAuthorityTransitionReceipt

/-- The body of `transition`, with both guards. -/
def change (adapter : Adapter σ W R F) (transition : FleetAuthorityTransition) :
    AuthorityCall σ W R F FleetAuthorityTransitionReceipt := do
  let s ← get
  match s.binding with
  | none => raises (.error .modeNotAuthorized "mission run has no fleet authority to transition")
  | some binding =>
    if !expects transition binding then
      raises (.error .modeNotAuthorized
        "mission command context does not own the expected task lease")
    else do
      let receipt ← awaitWorld (.adapter binding) (fun _ => id) (adapter transition)
      if (receipt.currentTaskId, receipt.currentTaskLeaseGeneration) ≠
          (transition.nextTaskId, transition.nextTaskLeaseGeneration) then
        raises (.error .identityMismatch
          "adapter authority receipt does not match the requested task lease")
      else do
        modify fun s => { s with
          binding := some { binding with
            taskId := receipt.currentTaskId
            taskLeaseGeneration := receipt.currentTaskLeaseGeneration }
          receipts := s.receipts ++ [receipt] }
        return receipt

def transition (adapter : Adapter σ W R F) (transition : FleetAuthorityTransition) :
    AuthorityCall σ W R F FleetAuthorityTransitionReceipt :=
  withGuard .guard false (withGuard .healthGuard true (change adapter transition))

inductive Operation (σ W : Type) (R : W → Type) (F : Type) where
  | execute (operation : Option FleetCommandBinding → Coroutine σ W R (Raised F) Unit)
  | evaluateHealth (operation : Option FleetCommandBinding → Coroutine σ W R (Raised F) Unit)
  | transition (transition : FleetAuthorityTransition)

def program (adapter : Adapter σ W R F) : Operation σ W R F →
    AuthorityCall σ W R F (Option FleetAuthorityTransitionReceipt)
  | .execute operation => do
    execute operation
    return none
  | .evaluateHealth operation => do
    evaluateHealth operation
    return none
  | .transition requested => do return some (← transition adapter requested)

abbrev Loop (σ W : Type) (R : W → Type) (F : Type) :=
  EventLoop (Operation σ W R F) (MissionFleetAuthority σ) (AuthorityAwaited W) (AuthorityReply R F)
    (Raised F) (Option FleetAuthorityTransitionReceipt)

abbrev Turn (σ W : Type) (R : W → Type) (F : Type) :=
  EventLoop.Turn (Operation σ W R F) (AuthorityAwaited W) (AuthorityReply R F)

def granted : (on : AuthorityAwaited W) → AuthorityReply R F on → Option AuthorityGuard
  | .acquire lock _, reply => match reply with
    | .ok _ => some lock
    | .error _ => none
  | .operation .., _ | .adapter .., _ => none

/-- A guard is handed over when it is free. -/
def mayTake (loop : Loop σ W R F) : Turn σ W R F → Bool
  | .call _ => true
  | .resume task reply => match loop.tasks[task]? with
    | some ⟨_, _, .wait on _⟩ => (granted on (reply on)).all fun lock => !loop.state.locked lock
    | _ => true

/-- One turn of the event loop over the calls of an authority, in any order in which the guards
are handed over. -/
def step (adapter : Adapter σ W R F) (loop : Loop σ W R F) (turn : Turn σ W R F) : Loop σ W R F :=
  if mayTake loop turn then EventLoop.step (program adapter) loop turn else loop

/-- The authority of a run that begins. -/
def initial (world : σ) (binding : Option FleetCommandBinding) : Loop σ W R F :=
  ⟨{ world, binding }, []⟩

end MissionFleetAuthority

end CrazySwarm
