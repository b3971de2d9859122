import CrazySwarm.FleetAuthorityTransitions
import CrazySwarm.SimulatedAuthorityChain

/-! The fleet authority of a mission run over the simulated vehicle of the run. Each keeps the task
lease for itself: the authority hands it to the commands of the run, and the vehicle checks the
commands against its own. -/
namespace CrazySwarm
namespace MissionFleetAuthority
open Coroutine EventLoop SimulatedVehicle

variable {W : Type} {R : W → Type} {F : Type} [PyFloat F] (sha : MissionRunBinding → String)

/-- `SimulatedVehicle.transition_fleet_authority`, which does not wait. -/
def simulatedAdapter : Adapter SimulatedVehicle W R F := fun transition => do
  let vehicle ← get
  let (changed, outcome) := vehicle.transitionFleetAuthority sha transition
  modify fun _ => changed
  ofResult ((outcome.map (·.toFleetAuthorityTransitionReceipt)).mapError .fault)

/-- Commands and health evaluations move the vehicle, and leave its authority alone. -/
def Commands : Operation SimulatedVehicle W R F → Prop
  | .execute operation | .evaluateHealth operation => ∀ lease,
    (operation lease).Everywhere (fun before after => ∃ motion, after = before.moved motion)
      fun _ => True
  | .transition _ => True

/-- The vehicle is bound to the run under the lease of the authority, and has the receipts of the
authority after those that it had. -/
structure Agrees (missionRunId : String) (earlier : List FleetAuthorityTransitionReceipt)
    (s : MissionFleetAuthority SimulatedVehicle) : Prop where
  bound : ∃ lease binding, s.binding = some lease ∧ s.world.binding = some binding ∧
    binding.missionRunId = missionRunId ∧ sameFleet binding lease = true
  receipts : s.world.authorityTransitionReceipts.map (·.toFleetAuthorityTransitionReceipt) =
    earlier ++ s.receipts

section Segments

variable {sha} {missionRunId : String} {earlier : List FleetAuthorityTransitionReceipt}
  {s : MissionFleetAuthority SimulatedVehicle} {α σ V ε : Type} {S : V → Type}

/-- The agreement holds at every wait and at the end. -/
abbrev Agreeing (missionRunId : String) (earlier : List FleetAuthorityTransitionReceipt)
    (c : AuthorityCall SimulatedVehicle W R F α) : Prop :=
  c.Maintains (Agrees missionRunId earlier) fun _ _ _ => True

/-- What every change of a coroutine preserves holds at its waits and at its end. -/
theorem maintains_of_everywhere {inv : σ → Prop} {rel : σ → σ → Prop} {may : V → Prop}
    {c : Coroutine σ V S ε α} (every : c.Everywhere rel may)
    (kept : ∀ a b, rel a b → inv a → inv b) : c.Maintains inv fun _ _ _ => True := by
  intro s holds
  induction c generalizing s with
  | done result => exact holds
  | act change next ih => exact ih s (every.2 s) (change s) (kept _ _ (every.1 s) holds)
  | wait on next ih =>
    exact ⟨holds, fun reply later _ given => ih reply (every.2 reply) later given.1⟩

theorem agrees_turn {lock : AuthorityGuard} {flag : Bool} (agrees : Agrees missionRunId earlier s) :
    Agrees missionRunId earlier (MissionFleetAuthority.turn lock flag s) := by
  cases lock <;> exact ⟨agrees.bound, agrees.receipts⟩

omit [PyFloat F] in
theorem withGuard_agreeing {lock : AuthorityGuard} {within : Bool}
    {body : AuthorityCall SimulatedVehicle W R F α} (runs : Agreeing missionRunId earlier body) :
    Agreeing missionRunId earlier (withGuard lock within body) := by
  have turns (flag : Bool) : Agreeing (W := W) (R := R) (F := F) missionRunId earlier
      (modify (MissionFleetAuthority.turn lock flag)) := .modify fun _ => agrees_turn
  refine .bind ?_ fun _ => .handle runs fun result => .handle (turns false) ?_
  · refine .read fun s => ?_
    split
    · exact .bind (.await fun reply => by cases reply <;> exact .done) fun _ => turns true
    · exact turns true
  · rintro (raised | _) <;> exact .done

omit [PyFloat F] in
theorem operation_agreeing {lock : AuthorityGuard}
    {operation : Option FleetCommandBinding → Coroutine SimulatedVehicle W R (Raised F) α}
    (commands : ∀ lease, (operation lease).Everywhere
      (fun before after => ∃ motion, after = before.moved motion) fun _ => True) :
    Agreeing missionRunId earlier (runOperation lock operation) := by
  refine .read fun s => ?_
  have every : (awaitWorld (.operation lock s.binding) (fun _ => id) (operation s.binding)).Everywhere
      (fun a b => ∃ motion, b = { a with world := a.world.moved motion }) fun _ => True :=
    everywhere_zoom (commands s.binding) (fun _ _ moved => by
      obtain ⟨motion, rfl⟩ := moved
      exact ⟨motion, rfl⟩) fun _ _ => trivial
  refine maintains_of_everywhere every ?_
  rintro a _ ⟨motion, rfl⟩ agrees
  exact ⟨agrees.bound, agrees.receipts⟩

omit [PyFloat F] in
theorem sameFleet_iff {binding : MissionRunBinding} {lease : FleetCommandBinding} :
    sameFleet binding lease = true ↔
      some lease.fleetSessionId = binding.fleetSessionId ∧ some lease.fleetRunId = binding.fleetRunId ∧
      some lease.deploymentSha256 = binding.deploymentSha256 ∧ some lease.taskId = binding.taskId ∧
      some lease.taskLeaseGeneration = binding.taskLeaseGeneration := by
  simp only [sameFleet, beq_iff_eq, Prod.mk.injEq]

omit [PyFloat F] in
theorem sameFleet_inj {binding : MissionRunBinding} {lease other : FleetCommandBinding}
    (same : sameFleet binding lease = true) (passes : sameFleet binding other = true) :
    other = lease := by
  obtain ⟨session, run, deployment, task, generation⟩ := sameFleet_iff.mp same
  obtain ⟨session', run', deployment', task', generation'⟩ := sameFleet_iff.mp passes
  cases other
  cases lease
  rw [FleetCommandBinding.mk.injEq]
  exact ⟨Option.some.inj (session'.trans session.symm), Option.some.inj (run'.trans run.symm),
    Option.some.inj (deployment'.trans deployment.symm), Option.some.inj (task'.trans task.symm),
    Option.some.inj (generation'.trans generation.symm)⟩

omit [PyFloat F] in
theorem bound_of_bindRun {vehicle : SimulatedVehicle} {binding : MissionRunBinding}
    (bound : (vehicle.bindRun (F := F) binding).2 = .ok ()) :
    (vehicle.bindRun (F := F) binding).1.binding = some binding := by
  unfold bindRun at bound ⊢
  split at bound
  · next current found =>
    split at bound
    · cases bound
    · next same =>
      have known := (Option.filter_eq_some_iff.mp found).1
      simp_all
  · split at bound
    · cases bound
    · next safe => simp_all

/-- The vehicle's answer to a transition of the lease that the authority expects. -/
theorem adapter_meets {transition : FleetAuthorityTransition} {lease : FleetCommandBinding}
    {post : Unit → Except (Raised F) FleetAuthorityTransitionReceipt →
      MissionFleetAuthority SimulatedVehicle → Prop} {rel : Unit → AuthorityAwaited W →
      MissionFleetAuthority SimulatedVehicle → Prop}
    {ready : (on : AuthorityAwaited W) → MissionFleetAuthority SimulatedVehicle →
      AuthorityReply R F on → MissionFleetAuthority SimulatedVehicle → Unit → Prop}
    (refused : ∀ raised, post () (.error raised) s)
    (accepted : ∀ binding, s.world.binding = some binding →
      post () (.ok (s.world.transitionReceipt sha binding transition).toFleetAuthorityTransitionReceipt)
        { s with world := { s.world with
          binding := some (nextBinding binding transition)
          authorityTransitionSequence := transition.sequence
          authorityTransitionReceipts := s.world.authorityTransitionReceipts ++
            [s.world.transitionReceipt sha binding transition] } }) :
    (awaitWorld (.adapter lease) (fun _ => id) (simulatedAdapter (W := W) (R := R) (F := F) sha
      transition)).Meets rel ready post () s := by
  have answer : (awaitWorld (.adapter lease) (fun _ => id) (simulatedAdapter sha transition)).Meets
      rel ready post () s ↔
      post () (((s.world.transitionFleetAuthority (F := F) sha transition).2.map
          (·.toFleetAuthorityTransitionReceipt)).mapError .fault)
        { s with world := (s.world.transitionFleetAuthority (F := F) sha transition).1 } := Iff.rfl
  refine answer.mpr ?_
  rcases transition_cases (F := F) sha s.world transition with
    ⟨fault, failed⟩ | ⟨binding, bound, -, -, done⟩
  · rw [failed]
    exact refused _
  · rw [done]
    exact accepted binding bound

/-- The vehicle and the authority change their leases in one segment, or neither does. -/
theorem change_agreeing (transition : FleetAuthorityTransition) :
    Agreeing (W := W) (R := R) (F := F) missionRunId earlier
      (change (simulatedAdapter sha) transition) := by
  intro s agrees
  refine meets_bind.mpr (meets_get.mpr ?_)
  dsimp only
  split
  · exact agrees
  · next lease held =>
    split
    · exact agrees
    · refine meets_bind.mpr (adapter_meets (fun raised => agrees) fun binding bound => ?_)
      obtain ⟨owned, found, owns, isBound, run, same⟩ := agrees.bound
      cases held.symm.trans owns
      cases bound.symm.trans isBound
      have fleet := sameFleet_iff.mp same
      dsimp only
      rw [if_neg (by simp [transitionReceipt])]
      refine meets_bind.mpr (meets_modify.mpr ⟨?_, ?_⟩)
      · exact ⟨_, _, rfl, rfl, run, sameFleet_iff.mpr ⟨fleet.1, fleet.2.1, fleet.2.2.1, rfl, rfl⟩⟩
      · simp [agrees.receipts]

end Segments

section Runs

variable {sha} {missionRunId : String} {earlier : List FleetAuthorityTransitionReceipt}
  {loop : Loop SimulatedVehicle W R F} {turn : Turn SimulatedVehicle W R F}

/-- The calls that are commands, evaluations and transitions begin and end with the agreement. -/
def agreeing (missionRunId : String) (earlier : List FleetAuthorityTransitionReceipt) :
    Contract (Operation SimulatedVehicle W R F) (MissionFleetAuthority SimulatedVehicle)
      (AuthorityAwaited W) (AuthorityReply R F) (Raised F)
      (Option FleetAuthorityTransitionReceipt) Unit :=
  { Contract.maintaining (Agrees missionRunId earlier) (fun _ _ _ => True) with
    begins := fun label s _ => Commands label ∧ Agrees missionRunId earlier s }

theorem agreeing_met :
    (agreeing missionRunId earlier).Met (program (simulatedAdapter (W := W) (R := R) (F := F) sha)) := by
  rintro label s first ⟨commands, agrees⟩
  have maintains : Agreeing missionRunId earlier (program (simulatedAdapter sha) label) := by
    cases label with
    | execute operation | evaluateHealth operation =>
      exact .bind (withGuard_agreeing (operation_agreeing commands)) fun _ => .done
    | transition requested =>
      refine .bind (withGuard_agreeing (withGuard_agreeing ?_)) fun _ => .done
      exact change_agreeing requested
  exact maintains s agrees

theorem step_agrees (commands : ∀ operation, turn = .call operation → Commands operation)
    (sound : loop.Sound (agreeing missionRunId earlier))
    (agrees : Agrees missionRunId earlier loop.state) :
    Agrees missionRunId earlier (step (simulatedAdapter sha) loop turn).state ∧
      (step (simulatedAdapter sha) loop turn).Sound (agreeing missionRunId earlier) := by
  unfold step
  split
  · have begins : loop.Begins (agreeing missionRunId earlier) turn () := by
      cases turn with
      | call operation => exact ⟨commands operation rfl, agrees⟩
      | resume task reply =>
        simp only [Begins]
        split
        · exact ⟨agrees, trivial⟩
        · trivial
    obtain ⟨kept, sound⟩ := step_sound agreeing_met sound fun _ => ⟨(), begins⟩
    refine ⟨?_, sound⟩
    rw [step_state]
    cases moving : moved (program (simulatedAdapter sha)) loop turn with
    | none => exact agrees
    | some ended =>
      obtain ⟨label, before, after, rest⟩ := ended
      have promises := kept () label before after rest begins moving
      cases rest with
      | done result => exact promises
      | wait on next => exact promises
      | act change next => exact promises.elim
  · exact ⟨agrees, sound⟩

theorem run_agrees {turns : List (Turn SimulatedVehicle W R F)}
    (commands : ∀ operation, .call operation ∈ turns → Commands operation)
    (serialized : Serialized loop) (sound : loop.Sound (agreeing missionRunId earlier))
    (agrees : Agrees missionRunId earlier loop.state) :
    Serialized (Runs.run (step (simulatedAdapter sha)) loop turns) ∧
      Agrees missionRunId earlier (Runs.run (step (simulatedAdapter sha)) loop turns).state := by
  induction turns generalizing loop with
  | nil => exact ⟨serialized, agrees⟩
  | cons turn rest ih =>
    have first (operation) (same : turn = .call operation) : Commands operation :=
      commands operation (by simp [same])
    obtain ⟨agrees, sound⟩ := step_agrees first sound agrees
    exact ih (fun operation member => commands operation (List.mem_cons_of_mem _ member))
      (step_serialized _ serialized) sound agrees

omit [PyFloat F] in
/-- The check of the vehicle lets through what carries the lease of the authority. -/
theorem Agrees.admits {s : MissionFleetAuthority SimulatedVehicle}
    (agrees : Agrees missionRunId earlier s) {command : VehicleCommand F}
    (own : command.missionRunId = some missionRunId) :
    s.world.validateRunBinding command = .ok () ↔ command.fleet = s.binding := by
  obtain ⟨lease, binding, held, bound, rfl, same⟩ := agrees.bound
  have fleet := sameFleet_iff.mp same
  have session : binding.fleetSessionId.isNone = false := by rw [← fleet.1]; rfl
  rw [validateRunBinding, bound, held]
  simp only [own, ne_eq, not_true_eq_false, if_false, session, Bool.false_eq_true]
  cases carried : command.fleet with
  | none => simp [refuse]
  | some other =>
    by_cases passes : sameFleet binding other = true
    · obtain rfl := sameFleet_inj same passes
      simp [passes]
    · have apart : other ≠ lease := by
        rintro rfl
        exact passes same
      simp [passes, refuse, apart]

/-- Once the vehicle is bound to the run under the first lease, however commands, evaluations and
transitions interleave: its receipts of the run are those of the authority, and a command under way
under a lease is let through exactly if it carries that lease. -/
theorem run_commands_admitted (sha : MissionRunBinding → String) (vehicle : SimulatedVehicle)
    (binding : MissionRunBinding) (lease : FleetCommandBinding)
    (carried : sameFleet binding lease = true)
    (bound : (vehicle.bindRun (F := F) binding).2 = .ok ())
    (turns : List (Turn SimulatedVehicle W R F))
    (commands : ∀ operation, .call operation ∈ turns → Commands operation) :
    let start := (vehicle.bindRun (F := F) binding).1
    let loop := Runs.run (step (simulatedAdapter sha)) (initial start (some lease)) turns
    loop.state.world.authorityTransitionReceipts.map (·.toFleetAuthorityTransitionReceipt) =
      start.authorityTransitionReceipts.map (·.toFleetAuthorityTransitionReceipt) ++
        loop.state.receipts ∧
    ∀ (task : Nat) held, (loop.tasks[task]?).bind runsUnder = some held →
      ∀ command : VehicleCommand F, command.missionRunId = some binding.missionRunId →
        (loop.state.world.validateRunBinding command = .ok () ↔ command.fleet = held) := by
  intro start loop
  have begins : Agrees binding.missionRunId
      (start.authorityTransitionReceipts.map (·.toFleetAuthorityTransitionReceipt))
      (initial (W := W) (R := R) (F := F) start (some lease)).state :=
    ⟨⟨lease, binding, rfl, bound_of_bindRun bound, rfl, carried⟩, (List.append_nil _).symm⟩
  have serialized : Serialized (initial (W := W) (R := R) (F := F) start (some lease)) := by
    refine ⟨fun _ member => absurd member List.not_mem_nil, ⟨?_, ?_⟩, fun _ _ _ _ _ found => ?_⟩
    · rintro task lock ⟨_, found, -⟩
      cases found
    · rintro task other lock ⟨_, found, -⟩
      cases found
    · cases found
  obtain ⟨serialized, agrees⟩ : Serialized loop ∧ Agrees binding.missionRunId _ loop.state :=
    run_agrees commands serialized (fun _ member => absurd member List.not_mem_nil) begins
  refine ⟨agrees.receipts, fun task held runs command own => ?_⟩
  rw [agrees.admits own]
  have binds : loop.state.binding = held := binds_of_runsUnder serialized runs
  rw [← binds]

/-- A vehicle on the ground, the run of its survey, and the handover of it before a command. -/
def readyVehicle : SimulatedVehicle := { vehicleId := "cf01", state := .ready }

def surveyBinding : MissionRunBinding where
  missionRunId := "run-cf01"
  fleetSessionId := some "fleet"
  fleetRunId := some "run"
  deploymentSha256 := some "0"
  taskId := some "survey"
  taskLeaseGeneration := some 1

def handoverThenCommand : List (Turn SimulatedVehicle Unit (fun _ => Unit) ℚ) :=
  [.call (.transition handover), .call (.execute fun _ => wait () fun _ => Coroutine.done (.ok ()))]

/-- The command after the handover is let through under the lease of the return and no other. -/
theorem return_command_admitted :
    let loop := Runs.run (step (simulatedAdapter fun _ => ""))
      (initial (readyVehicle.bindRun (F := ℚ) surveyBinding).1 (some surveyLease)) handoverThenCommand
    ∀ command : VehicleCommand ℚ, command.missionRunId = some "run-cf01" →
      (loop.state.world.validateRunBinding command = .ok () ↔
        command.fleet = some ⟨"fleet", "run", "0", "return", 1⟩) := by
  refine (run_commands_admitted (fun _ => "") readyVehicle surveyBinding surveyLease rfl rfl
    handoverThenCommand ?_).2 1 (some ⟨"fleet", "run", "0", "return", 1⟩) rfl
  intro operation member
  simp only [handoverThenCommand, List.mem_cons, EventLoop.Turn.call.injEq, List.not_mem_nil,
    or_false] at member
  rcases member with rfl | rfl
  · trivial
  · exact fun _ => ⟨trivial, fun _ => trivial⟩

end Runs

end MissionFleetAuthority
end CrazySwarm
