import CrazySwarm.SimulatedAuthority

/-! The receipts of the simulated vehicle form a chain that ends in the bound run, and its check
of the binding lets only commands of that run and safety overrides through. -/
namespace CrazySwarm
namespace SimulatedVehicle

variable {F : Type} [PyFloat F] {sha : MissionRunBinding → String} {vehicle : SimulatedVehicle}

section Statement

structure Follows (earlier later : AdapterTransitionReceipt) : Prop where
  task : later.previousTaskId = earlier.currentTaskId
  lease : later.previousTaskLeaseGeneration = earlier.currentTaskLeaseGeneration
  hash : later.previousBindingSha256 = earlier.currentBindingSha256

structure Leaves (sha : MissionRunBinding → String) (receipt : AdapterTransitionReceipt)
    (binding : MissionRunBinding) : Prop where
  run : receipt.missionRunId = binding.missionRunId
  task : some receipt.currentTaskId = binding.taskId
  lease : some receipt.currentTaskLeaseGeneration = binding.taskLeaseGeneration
  hash : receipt.currentBindingSha256 = sha binding

structure AuthorityChain (sha : MissionRunBinding → String) (vehicle : SimulatedVehicle) :
    Prop where
  numbered : vehicle.authorityTransitionReceipts.map (·.sequence) =
    List.range' 1 vehicle.authorityTransitionReceipts.length
  linked : vehicle.authorityTransitionReceipts.IsChain Follows
  last : ∀ receipt, vehicle.authorityTransitionReceipts.getLast? = some receipt →
    ∃ binding, vehicle.binding = some binding ∧ Leaves sha receipt binding

def CarriesRun (binding : MissionRunBinding) (command : VehicleCommand F) : Prop :=
  command.missionRunId = some binding.missionRunId ∧
    (binding.fleetSessionId = none → command.fleet = none) ∧
    ∀ session, binding.fleetSessionId = some session →
      ∃ fleet, command.fleet = some fleet ∧ fleet.fleetSessionId = session ∧
        some fleet.fleetRunId = binding.fleetRunId ∧
        some fleet.deploymentSha256 = binding.deploymentSha256 ∧
        some fleet.taskId = binding.taskId ∧
        some fleet.taskLeaseGeneration = binding.taskLeaseGeneration

/-- The command names no run, and is a hold, a landing, an abort or an emergency stop of the
supervisor or a disarm of a mission. -/
def OverridesUnbound (command : VehicleCommand F) : Prop :=
  command.missionRunId = none ∧ command.fleet = none ∧
    (command.source = .supervisor ∧ command.payload.kind ∈
        [some CommandKind.stopAndHold, some .land, some .abort, some .emergencyStop] ∨
      command.source = .mission ∧ command.payload.kind = some .disarm)

def isIdentityMismatch : Except (Fault F) α → Prop
  | .error (.crazySwarm code _ _) => code = .identityMismatch
  | _ => False

/-- What one call on the vehicle promises in the state in which it is made. -/
def Fenced (sha : MissionRunBinding → String) (vehicle : SimulatedVehicle) : Call F → Prop
  | .transition transition => ∀ fault : Fault F,
      (vehicle.transitionFleetAuthority sha transition).2 = .error fault →
      (vehicle.transitionFleetAuthority (F := F) sha transition).1 = vehicle
  | .execute command motion outcome => ∀ binding, vehicle.binding = some binding →
      ¬isIdentityMismatch (vehicle.execute command motion outcome).2 →
      CarriesRun binding command ∨ OverridesUnbound command
  | _ => True

end Statement

omit [PyFloat F] in
/-- A call that binds a run starts a new history; every other one leaves the vehicle alone. -/
theorem bindRun_cases (vehicle : SimulatedVehicle) (binding : MissionRunBinding) :
    (vehicle.bindRun (F := F) binding).1 = vehicle ∨
      (vehicle.bindRun (F := F) binding).1 = { vehicle with
        binding := some binding
        authorityTransitionSequence := 0
        authorityTransitionReceipts := [] } := by
  unfold bindRun
  split
  · split
    · exact .inl rfl
    · exact .inl rfl
  · split
    · exact .inl rfl
    · exact .inr rfl

theorem admittedTransition_eq_ok {transition : FleetAuthorityTransition}
    {binding : MissionRunBinding}
    (admitted : (vehicle.admittedTransition transition : Except (Fault F) _) = .ok binding) :
    vehicle.binding = some binding ∧ vehicle.sameIdentity binding transition = true ∧
      ownsLease binding transition = true ∧
      transition.sequence = vehicle.authorityTransitionSequence + 1 := by
  unfold admittedTransition at admitted
  split at admitted
  · simp [refuse] at admitted
  · next found =>
    obtain ⟨bound, -⟩ := Option.filter_eq_some_iff.mp found
    obtain ⟨_, -, admitted⟩ := bind_eq_ok.mp admitted
    obtain ⟨_, identity, admitted⟩ := bind_eq_ok.mp admitted
    obtain ⟨_, lease, admitted⟩ := bind_eq_ok.mp admitted
    obtain ⟨_, next, admitted⟩ := bind_eq_ok.mp admitted
    cases admitted
    exact ⟨bound, require_eq_ok.mp identity, require_eq_ok.mp lease,
      beq_iff_eq.mp (require_eq_ok.mp next)⟩

/-- A transition is refused and changes nothing, or it starts from the bound run. -/
theorem transition_cases (sha : MissionRunBinding → String) (vehicle : SimulatedVehicle) (transition : FleetAuthorityTransition) :
    (∃ fault : Fault F, vehicle.transitionFleetAuthority sha transition = (vehicle, .error fault)) ∨
    ∃ binding, vehicle.binding = some binding ∧ ownsLease binding transition = true ∧
      transition.sequence = vehicle.authorityTransitionSequence + 1 ∧
      vehicle.transitionFleetAuthority (F := F) sha transition =
        ({ vehicle with
          binding := some (nextBinding binding transition)
          authorityTransitionSequence := transition.sequence
          authorityTransitionReceipts := vehicle.authorityTransitionReceipts ++
            [vehicle.transitionReceipt sha binding transition] },
          .ok (vehicle.transitionReceipt sha binding transition)) := by
  cases admitted : (vehicle.admittedTransition transition : Except (Fault F) _) with
  | error fault =>
    left
    exact ⟨fault, by simp [transitionFleetAuthority, admitted]⟩
  | ok binding =>
    right
    obtain ⟨bound, -, lease, next⟩ := admittedTransition_eq_ok admitted
    exact ⟨binding, bound, lease, next, by simp [transitionFleetAuthority, admitted]⟩

structure Kept (sha : MissionRunBinding → String) (vehicle : SimulatedVehicle) : Prop
    extends AuthorityChain sha vehicle where
  counted : vehicle.authorityTransitionSequence = vehicle.authorityTransitionReceipts.length

theorem Kept.fresh (none : vehicle.authorityTransitionReceipts = [])
    (zero : vehicle.authorityTransitionSequence = 0) : Kept sha vehicle where
  numbered := by simp [none]
  linked := by simp [none]
  last := by simp [none]
  counted := by simp [none, zero]

theorem Kept.moved (kept : Kept sha vehicle) (motion : Motion) : Kept sha (vehicle.moved motion) where
  numbered := kept.numbered
  linked := kept.linked
  last := kept.last
  counted := kept.counted

theorem follows_last {binding : MissionRunBinding} {transition : FleetAuthorityTransition}
    {receipt : AdapterTransitionReceipt} (leaves : Leaves sha receipt binding)
    (lease : ownsLease binding transition = true) :
    Follows receipt (vehicle.transitionReceipt sha binding transition) := by
  have owned := Prod.mk.inj (beq_iff_eq.mp lease)
  constructor
  · exact Option.some.inj (owned.1.symm.trans leaves.task.symm)
  · exact Option.some.inj (owned.2.symm.trans leaves.lease.symm)
  · exact leaves.hash.symm

theorem Kept.transition (kept : Kept sha vehicle) (transition : FleetAuthorityTransition) :
    Kept sha (vehicle.transitionFleetAuthority (F := F) sha transition).1 := by
  rcases transition_cases (F := F) sha vehicle transition with
    ⟨fault, refused⟩ | ⟨binding, bound, lease, next, done⟩
  · rw [refused]
    exact kept
  · rw [done]
    have follows : ∀ receipt, vehicle.authorityTransitionReceipts.getLast? = some receipt →
        Follows receipt (vehicle.transitionReceipt sha binding transition) := by
      intro receipt last
      obtain ⟨current, sameBinding, leaves⟩ := kept.last receipt last
      obtain rfl := Option.some.inj (bound.symm.trans sameBinding)
      exact follows_last leaves lease
    constructor
    · constructor
      · have number : transition.sequence = 1 + vehicle.authorityTransitionReceipts.length := by
          have counted := kept.counted
          omega
        simp [kept.numbered, List.range'_concat, transitionReceipt, number]
      · refine List.isChain_append.mpr ⟨kept.linked, List.isChain_singleton _, ?_⟩
        intro receipt last new isNew
        obtain rfl : _ = new := by simpa using isNew
        exact follows receipt last
      · intro receipt last
        obtain rfl : _ = receipt := by simpa using last
        exact ⟨_, rfl, rfl, rfl, rfl, rfl⟩
    · have counted := kept.counted
      simp only [List.length_append, List.length_singleton]
      omega

omit [PyFloat F] in
theorem Kept.bindRun (kept : Kept sha vehicle) (binding : MissionRunBinding) :
    Kept sha (vehicle.bindRun (F := F) binding).1 := by
  rcases bindRun_cases (F := F) vehicle binding with same | bound
  · rw [same]
    exact kept
  · rw [bound]
    exact .fresh rfl rfl

omit [PyFloat F] in
theorem Kept.execute (kept : Kept sha vehicle) (command : VehicleCommand F) (motion : Motion)
    (outcome : Except (Fault F) Unit) : Kept sha (vehicle.execute command motion outcome).1 := by
  unfold SimulatedVehicle.execute
  split
  · exact kept
  · split
    · exact kept
    · exact kept.moved motion

theorem Kept.step (kept : Kept sha vehicle) (call : Call F) : Kept sha (vehicle.step sha call) := by
  cases call with
  | bindRun binding => exact kept.bindRun binding
  | transition transition => exact kept.transition transition
  | reset => exact .fresh rfl rfl
  | execute command motion outcome => exact kept.execute command motion outcome
  | moves motion => exact kept.moved motion

omit [PyFloat F] in
theorem overrides_of_unboundSafetyOverride {command : VehicleCommand F}
    (override : unboundSafetyOverride command = true) : OverridesUnbound command := by
  simp only [unboundSafetyOverride, Bool.and_eq_true, Bool.or_eq_true, Option.isNone_iff_eq_none,
    beq_iff_eq, Option.any_eq_true, decide_eq_true_eq] at override
  obtain ⟨⟨unbound, single⟩, safety | disarm⟩ := override
  · obtain ⟨source, kind, sent, listed⟩ := safety
    refine ⟨unbound, single, .inl ⟨source, ?_⟩⟩
    rw [sent]
    exact List.mem_map_of_mem listed
  · exact ⟨unbound, single, .inr disarm⟩

omit [PyFloat F] in
theorem validated_command {binding : MissionRunBinding} {command : VehicleCommand F}
    (bound : vehicle.binding = some binding)
    (valid : vehicle.validateRunBinding command = .ok ()) :
    CarriesRun binding command ∨ OverridesUnbound command := by
  simp only [validateRunBinding, bound] at valid
  split at valid
  · split at valid
    · next override => exact .inr (overrides_of_unboundSafetyOverride override)
    · simp [refuse] at valid
  · next run =>
    left
    refine ⟨not_not.mp run, ?_, ?_⟩
    · intro none
      simp only [none, Option.isNone_none, if_true] at valid
      cases fleet : command.fleet with
      | none => rfl
      | some fleet => simp [fleet, refuse] at valid
    · intro session fleetRun
      simp only [fleetRun, Option.isNone_some, Bool.false_eq_true, if_false] at valid
      cases carried : command.fleet with
      | none => simp [carried, refuse] at valid
      | some fleet =>
        by_cases same : sameFleet binding fleet = true
        · have fields := beq_iff_eq.mp same
          simp only [fleetRun, Prod.mk.injEq, Option.some.injEq] at fields
          exact ⟨fleet, rfl, fields⟩
        · simp [carried, same, refuse] at valid

omit [PyFloat F] in
theorem validateRunBinding_refusal {command : VehicleCommand F} {fault : Fault F}
    (refused : vehicle.validateRunBinding command = .error fault) :
    isIdentityMismatch (.error fault : Except (Fault F) Unit) := by
  unfold validateRunBinding at refused
  repeat' split at refused
  all_goals first
    | cases refused
      rfl
    | cases refused

theorem fenced (vehicle : SimulatedVehicle) (call : Call F) : Fenced sha vehicle call := by
  cases call with
  | bindRun _ => trivial
  | reset => trivial
  | moves _ => trivial
  | transition transition =>
    intro fault raised
    rcases transition_cases (F := F) sha vehicle transition with
      ⟨other, refused⟩ | ⟨binding, -, -, -, done⟩
    · rw [refused]
    · simp [done] at raised
  | execute command motion outcome =>
    intro binding bound passed
    unfold SimulatedVehicle.execute at passed
    split at passed
    · exact absurd rfl passed
    · cases valid : vehicle.validateRunBinding command with
      | error fault =>
        rw [valid] at passed
        exact absurd (validateRunBinding_refusal valid) passed
      | ok _ => exact validated_command bound valid

/-- In every sequence of calls the receipts form a chain that ends in the bound run, a transition
that raises changes nothing, and the commands that pass are of the bound run or safety overrides. -/
theorem authority_receipts_chain_and_fence (sha : MissionRunBinding → String) (vehicleId : String)
    (calls : List (Call F)) :
    AuthorityChain sha (Runs.run (step sha) { vehicleId } calls) ∧
      Runs.Along (step sha) (Fenced sha) { vehicleId } calls := by
  have initial : Kept sha { vehicleId } := .fresh rfl rfl
  have preserved (vehicle : SimulatedVehicle) (call : Call F) (kept : Kept sha vehicle) :
      Kept sha (vehicle.step sha call) := kept.step call
  constructor
  · exact (Runs.invariant preserved initial).toAuthorityChain
  · exact Runs.along preserved (fun vehicle call _ => fenced vehicle call) initial

end SimulatedVehicle
end CrazySwarm
