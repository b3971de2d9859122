import CrazySwarm.Lib.Traces
import CrazySwarm.PowertrainLoadLine

/-! The battery of the coupled model over whole runs: its charge, its cutoffs, and the motors and the
height of the vehicle along with it. -/
namespace CrazySwarm

variable {F : Type} [Field F] [LinearOrder F] [IsStrictOrderedRing F] [PyPhysics F] [Exact F]

theorem voltageForThrust_zero (curve : MotorVoltageThrustCurve F) :
    curve.voltageForThrust 0 = some 0 := by
  simp [MotorVoltageThrustCurve.voltageForThrust]

theorem basePwm_eq_zero (config : CoupledPowertrainParameters F) {inputs : PowertrainInputs F}
    {index : Fin 4} (stopped : inputs.motorCommands index = 0) : config.basePwm inputs index = 0 := by
  have requested : config.requested inputs index = 0 := by
    simp [CoupledPowertrainParameters.requested, stopped]
  simp only [CoupledPowertrainParameters.basePwm, requested, stopped, Exact.over_eq, zero_div,
    voltageForThrust_zero, isFinite_exact, Exact.zero_eq, Exact.max_eq, Exact.min_eq,
    Exact.ofRat_cast, Rat.cast_one]
  split
  · rfl
  · split
    · split
      · contradiction
      · split
        · rfl
        · exact max_eq_left (min_le_right _ _)
    · exact max_eq_left (min_le_right _ _)

theorem PowertrainBounds.target_eq_zero {config : CoupledPowertrainParameters F}
    {inputs : PowertrainInputs F} (bounds : PowertrainBounds config) {solution : PowertrainSolution F}
    (returned : solveCoupledPowertrain config inputs = .ok solution) {index : Fin 4}
    (stopped : inputs.motorCommands index = 0) : (solution.motors index).targetThrustN = 0 := by
  obtain ⟨ocv, terminalVoltageV, rfl⟩ := exists_solutionAt returned
  obtain ⟨scale, motors⟩ := evaluate_motors bounds inputs terminalVoltageV
  have same : ((config.solutionAt inputs ocv terminalVoltageV).motors index) =
      config.motorState inputs terminalVoltageV scale index := congrFun motors index
  rw [same, motorState_target, basePwm_eq_zero config stopped, zero_mul, if_pos rfl]

namespace SixDofPhysics

variable {config : PhysicsConfigData F} {state : PhysicsState F} {call : StepCall F}

/-- A move changes the motion only, and ends at or above the ground. -/
theorem move_cases (config : PhysicsConfigData F) (state : PhysicsState F) (dt : F) :
    ∃ position velocity acceleration attitude omega,
      move config state dt =
        { state with
          positionM := position
          velocityMS := velocity
          accelerationWorldMS2 := acceleration
          attitude := attitude
          angularVelocityBodyRadS := omega } ∧ 0 ≤ position.z := by
  unfold move
  dsimp only
  split
  case isTrue => exact ⟨_, _, _, _, _, rfl, Exact.zero_eq.ge⟩
  case isFalse above =>
    rw [Exact.lt_true, Exact.zero_eq, not_lt] at above
    exact ⟨_, _, _, _, _, rfl, above⟩

inductive CutoffChange (config : PhysicsConfigData F) (dt : F) (before after : PhysicsState F) : Prop where
  | depletes (empty : after.batteryStateOfCharge ≤ 0) (active : after.batteryCutoffActive = true)
      (reason : after.batteryCutoffReason = some .depleted)
  | cuts (charged : 0 < after.batteryStateOfCharge)
      (low : after.batteryVoltageV < config.batteryCutoffVoltageV)
      (lasts : config.batteryCutoffPersistenceS ≤ after.batteryUndervoltageDurationS)
      (duration : after.batteryUndervoltageDurationS = before.batteryUndervoltageDurationS + dt)
      (active : after.batteryCutoffActive = true)
      (reason : after.batteryCutoffReason = some .undervoltage)
  | waits (charged : 0 < after.batteryStateOfCharge)
      (low : after.batteryVoltageV < config.batteryCutoffVoltageV)
      (duration : after.batteryUndervoltageDurationS = before.batteryUndervoltageDurationS + dt)
      (active : after.batteryCutoffActive = before.batteryCutoffActive)
      (reason : after.batteryCutoffReason = before.batteryCutoffReason)
  | recovers (charged : 0 < after.batteryStateOfCharge)
      (cut : before.batteryCutoffReason = some .undervoltage)
      (high : config.batteryCutoffVoltageV + config.batteryCutoffRecoveryHysteresisV ≤
        after.batteryVoltageV)
      (duration : after.batteryUndervoltageDurationS = 0)
      (active : after.batteryCutoffActive = false) (reason : after.batteryCutoffReason = none)
  | holds (charged : 0 < after.batteryStateOfCharge) (duration : after.batteryUndervoltageDurationS = 0)
      (active : after.batteryCutoffActive = before.batteryCutoffActive)
      (reason : after.batteryCutoffReason = before.batteryCutoffReason)

/-- All that the chain of the cutoff reasons can do with a valid cell state. -/
theorem updateCutoff_change (config : PhysicsConfigData F) (dt : F) (state : PhysicsState F) :
    CutoffChange config dt state (updateCutoff config false state.batteryVoltageV dt state) := by
  simp only [updateCutoff, Bool.false_eq_true, if_false, Exact.le_true, Exact.lt_true, Exact.zero_eq,
    Exact.plus, Bool.and_eq_true, decide_eq_true_eq]
  split
  case isTrue empty => exact .depletes empty rfl rfl
  case isFalse charged =>
    rw [not_le] at charged
    split
    case isTrue low =>
      split
      case isTrue lasts => exact .cuts charged low lasts rfl rfl rfl
      case isFalse => exact .waits charged low rfl rfl rfl
    case isFalse =>
      split
      case isTrue recovers => exact .recovers charged recovers.1 recovers.2 rfl rfl rfl
      case isFalse => exact .holds charged rfl rfl rfl

omit [Field F] [LinearOrder F] [IsStrictOrderedRing F] [Exact F] in
/-- The chain leaves everything but the cutoff. -/
theorem updateCutoff_frame (config : PhysicsConfigData F) (invalid : Bool) (terminalVoltageV dt : F)
    (state : PhysicsState F) : ∃ active reason duration,
      updateCutoff config invalid terminalVoltageV dt state =
        { state with
          batteryCutoffActive := active
          batteryCutoffReason := reason
          batteryUndervoltageDurationS := duration } := by
  unfold updateCutoff
  dsimp only
  split_ifs
  all_goals exact ⟨_, _, _, rfl⟩

structure CoupledStep (config : PhysicsConfigData F) (before : PhysicsState F) (call : StepCall F)
    (solution : PowertrainSolution F) (after : PhysicsState F) : Prop where
  positive : 0 < call.dt
  solved : solveCoupledPowertrain config.toCoupledPowertrainParameters (powertrainInputs before call) =
    .ok solution
  voltage : after.batteryVoltageV = solution.terminalVoltageV
  current : after.batteryCurrentA = solution.totalCurrentA
  charge : after.batteryStateOfCharge = max 0 (min 1 (before.batteryStateOfCharge -
    after.batteryCurrentA * call.dt / (config.effectiveBatteryCapacityAh * 3600)))
  thrust : ∀ index, (after.motors index).thrustN = (before.motors index).thrustN +
    ((solution.motors index).targetThrustN - (before.motors index).thrustN) *
      (1 - PyPhysics.exp (-call.dt / (config.motorTimeConstantS * config.motorTimeConstantScales index)))
  height : 0 ≤ after.positionM.z
  cutoff : CutoffChange config call.dt before after

theorem invalidCellState_eq (state : PhysicsState F) : invalidCellState state = false := by
  simp [invalidCellState]

theorem cutInvalidCell_eq (state : PhysicsState F) : cutInvalidCell state = state := by
  rw [cutInvalidCell, invalidCellState_eq]
  exact if_neg Bool.false_ne_true

theorem finiteState_eq (state : PhysicsState F) : finiteState state = true := by
  simp [finiteState, Vector3.isFinite]

theorem applySolution_step {solution : PowertrainSolution F} (positive : 0 < call.dt)
    (solved : solveCoupledPowertrain config.toCoupledPowertrainParameters (powertrainInputs state call) =
      .ok solution) :
    CoupledStep config state call solution
      (move config (applySolution config state call solution) call.dt) := by
  obtain ⟨position, velocity, acceleration, attitude, omega, moved, height⟩ :=
    move_cases config (applySolution config state call solution) call.dt
  rw [moved]
  -- The state that the chain of the cutoff reasons is given.
  obtain ⟨charged, applied, charged_eq⟩ : ∃ charged : PhysicsState F,
      applySolution config state call solution =
        updateCutoff config false charged.batteryVoltageV call.dt charged ∧
      charged = { state with
        motors := coupledMotor config state call state.batteryCutoffActive solution
        batteryOpenCircuitVoltageV := solution.openCircuitVoltageV
        batteryVoltageV := solution.terminalVoltageV
        batteryCurrentA := solution.totalCurrentA
        powertrainCurrentLimited := solution.currentLimited
        batteryFilteredVoltageV := filteredVoltage config state call solution.terminalVoltageV
        batteryStateOfCharge := discharged state.batteryStateOfCharge solution.totalCurrentA
          config.effectiveBatteryCapacityAh call.dt } := by
    refine ⟨_, ?_, rfl⟩
    rw [applySolution, cutInvalidCell_eq, invalidCellState_eq]
  have change := updateCutoff_change config call.dt charged
  obtain ⟨active, reason, duration, frame⟩ :=
    updateCutoff_frame config false charged.batteryVoltageV call.dt charged
  rw [frame] at change
  rw [applied, frame]
  subst charged_eq
  refine ⟨positive, solved, rfl, rfl, ?_, fun index => ?_, height, ?_⟩
  · simp [discharged]
  · simp [coupledMotor, PyFloat.neg]
  · cases change with
    | depletes empty on why => exact .depletes empty on why
    | cuts charged low lasts longer on why => exact .cuts charged low lasts longer on why
    | waits charged low longer on why => exact .waits charged low longer on why
    | recovers charged cut high drained off why => exact .recovers charged cut high drained off why
    | holds charged drained on why => exact .holds charged drained on why

theorem checkCall_dt (checked : checkCall call = .ok ()) : 0 < call.dt := by
  obtain ⟨_, positive, _⟩ := bind_eq_ok.mp checked
  rw [require_eq_ok, isFinite_exact, Bool.not_true, Bool.or_false, Bool.not_eq_true'] at positive
  simpa using positive

theorem step_cases (coupled : config.powertrainModel = .batteryCoupledV2) (state : PhysicsState F)
    (call : StepCall F) :
    (∃ error, step config state call = (state, .error error)) ∨
      ∃ solution after, step config state call = (after, .ok ()) ∧
        CoupledStep config state call solution after := by
  unfold step
  cases checked : checkCall call with
  | error error => exact .inl ⟨error, rfl⟩
  | ok =>
    have positive := checkCall_dt checked
    simp only [andThen, powertrain, coupled, coupledPowertrain, cutInvalidCell_eq]
    cases solved : solveCoupledPowertrain config.toCoupledPowertrainParameters
        (powertrainInputs state call) with
    | error error => exact .inl ⟨error, rfl⟩
    | ok solution =>
      refine .inr ⟨solution, _, ?_, applySolution_step positive solved⟩
      simp only [finiteState_eq]
      rfl

theorem coupledStep_of_ok (coupled : config.powertrainModel = .batteryCoupledV2)
    {after : PhysicsState F} (stepped : step config state call = (after, .ok ())) :
    ∃ solution, CoupledStep config state call solution after := by
  rcases step_cases coupled state call with ⟨error, raised⟩ | ⟨solution, reached, ok, coupledStep⟩
  · rw [raised] at stepped
    cases stepped
  · rw [ok] at stepped
    cases stepped
    exact ⟨solution, coupledStep⟩

theorem state_of_error (coupled : config.powertrainModel = .batteryCoupledV2)
    {after : PhysicsState F} {error : PhysicsError}
    (stepped : step config state call = (after, .error error)) : after = state := by
  rcases step_cases coupled state call with ⟨_, raised⟩ | ⟨_, _, ok, _⟩
  · rw [raised] at stepped
    cases stepped
    rfl
  · rw [ok] at stepped
    cases stepped

/-! ## One step -/

section Step

variable {solution : PowertrainSolution F} {after : PhysicsState F}

namespace CoupledStep

theorem sound (stepped : CoupledStep config state call solution after) (admitted : Admitted config) :
    LoadLineSolution config.toCoupledPowertrainParameters (powertrainInputs state call) solution :=
  admitted.powertrain.solve_loadLine stepped.solved

theorem current_nonneg (stepped : CoupledStep config state call solution after)
    (admitted : Admitted config) : 0 ≤ after.batteryCurrentA := by
  obtain ⟨ocv, terminalVoltageV, rfl⟩ := exists_solutionAt stepped.solved
  rw [stepped.current]
  exact (PowertrainBounds.evaluate_bounds admitted.powertrain _ terminalVoltageV).2.1

theorem consumed_nonneg (stepped : CoupledStep config state call solution after)
    (admitted : Admitted config) :
    0 ≤ after.batteryCurrentA * call.dt / (config.effectiveBatteryCapacityAh * 3600) :=
  div_nonneg (mul_nonneg (stepped.current_nonneg admitted) stepped.positive.le)
    (mul_nonneg admitted.capacity.le (by norm_num))

/-- From a charge that is at most full, the charge falls by what is consumed, down to nothing. -/
theorem charge_eq (stepped : CoupledStep config state call solution after) (admitted : Admitted config)
    (full : state.batteryStateOfCharge ≤ 1) :
    after.batteryStateOfCharge = max 0 (state.batteryStateOfCharge -
      after.batteryCurrentA * call.dt / (config.effectiveBatteryCapacityAh * 3600)) := by
  rw [stepped.charge, min_eq_right]
  exact (sub_le_self _ (stepped.consumed_nonneg admitted)).trans full

theorem charge_le (stepped : CoupledStep config state call solution after) (admitted : Admitted config)
    (nonneg : 0 ≤ state.batteryStateOfCharge) (full : state.batteryStateOfCharge ≤ 1) :
    after.batteryStateOfCharge ≤ state.batteryStateOfCharge := by
  rw [stepped.charge_eq admitted full]
  exact max_le nonneg (sub_le_self _ (stepped.consumed_nonneg admitted))

/-- A motor's thrust moves towards its target, and stays within its ceiling. -/
theorem thrust_mem [ExactPhysics F] (stepped : CoupledStep config state call solution after)
    (admitted : Admitted config) (index : Fin 4)
    (within : 0 ≤ (state.motors index).thrustN ∧
      (state.motors index).thrustN ≤ config.maxMotorThrustN * config.motorThrustScales index) :
    0 ≤ (after.motors index).thrustN ∧
      (after.motors index).thrustN ≤ config.maxMotorThrustN * config.motorThrustScales index := by
  rw [stepped.thrust]
  have exponent : -call.dt / (config.motorTimeConstantS * config.motorTimeConstantScales index) ≤ 0 :=
    div_nonpos_of_nonpos_of_nonneg (neg_nonpos.mpr stepped.positive.le) (admitted.timeConstant index).le
  have decay := ExactPhysics.exp_le_one exponent
  have decay_pos := ExactPhysics.exp_pos
    (-call.dt / (config.motorTimeConstantS * config.motorTimeConstantScales index))
  obtain ⟨low, high⟩ := ((stepped.sound admitted).motors index).target
  have ceiling : 0 ≤ config.maxMotorThrustN * config.motorThrustScales index :=
    mul_nonneg admitted.powertrain.maxMotorThrust.le (admitted.powertrain.thrustScale index)
  have target : (solution.motors index).targetThrustN ≤
      config.maxMotorThrustN * config.motorThrustScales index :=
    high.trans (mul_le_of_le_one_right ceiling (PowertrainInputs.health_mem _ index).2)
  generalize PyPhysics.exp
    (-call.dt / (config.motorTimeConstantS * config.motorTimeConstantScales index)) = left at *
  obtain ⟨above, below⟩ := within
  have rest : 0 ≤ 1 - left := sub_nonneg.mpr decay
  have mixed : (state.motors index).thrustN +
      ((solution.motors index).targetThrustN - (state.motors index).thrustN) * (1 - left) =
        (state.motors index).thrustN * left + (solution.motors index).targetThrustN * (1 - left) := by
    ring
  rw [mixed]
  refine ⟨add_nonneg (mul_nonneg above decay_pos.le) (mul_nonneg low rest), ?_⟩
  calc (state.motors index).thrustN * left + (solution.motors index).targetThrustN * (1 - left)
      ≤ config.maxMotorThrustN * config.motorThrustScales index * left +
          config.maxMotorThrustN * config.motorThrustScales index * (1 - left) :=
        add_le_add (mul_le_mul_of_nonneg_right below decay_pos.le) (mul_le_mul_of_nonneg_right target rest)
    _ = config.maxMotorThrustN * config.motorThrustScales index := by ring

theorem stopped (stepped : CoupledStep config state call solution after) (admitted : Admitted config)
    (cut : state.batteryCutoffActive = true) (index : Fin 4) :
    (solution.motors index).targetThrustN = 0 := by
  refine admitted.powertrain.target_eq_zero stepped.solved ?_
  simp [powertrainInputs, coupledCommands, cutInvalidCell_eq, cut]

end CoupledStep

end Step

/-! ## Whole runs -/

/-- A step of a run that succeeded. -/
abbrev PhysicsTick (F : Type) [PyPhysics F] := Traces.Tick (PhysicsState F) (StepCall F)

/-- The part of the charge that some steps consume. -/
def consumed (config : PhysicsConfigData F) (ticks : List (PhysicsTick F)) : F :=
  (ticks.map fun tick =>
    tick.after.batteryCurrentA * tick.input.dt / (config.effectiveBatteryCapacityAh * 3600)).sum

/-- The last of some steps, all of them under the cutoff voltage, last for a time. -/
def BelowFor (config : PhysicsConfigData F) (ticks : List (PhysicsTick F)) (durationS : F) : Prop :=
  ∃ below, below <:+ ticks ∧
    (∀ tick ∈ below, tick.after.batteryVoltageV < config.batteryCutoffVoltageV) ∧
    durationS = (below.map fun tick => tick.input.dt).sum

structure BatteryInvariant (config : PhysicsConfigData F) (initialCharge : F)
    (prior : List (PhysicsTick F)) (state : PhysicsState F) : Prop where
  nonneg : 0 ≤ state.batteryStateOfCharge
  full : state.batteryStateOfCharge ≤ 1
  charge : state.batteryStateOfCharge = max 0 (initialCharge - consumed config prior)
  height : 0 ≤ state.positionM.z
  thrust : ∀ index, 0 ≤ (state.motors index).thrustN ∧
    (state.motors index).thrustN ≤ config.maxMotorThrustN * config.motorThrustScales index
  depleted : state.batteryCutoffReason = some .depleted → state.batteryStateOfCharge ≤ 0
  active : state.batteryCutoffReason ≠ none → state.batteryCutoffActive = true
  lasting : 0 < state.batteryStateOfCharge →
    BelowFor config prior state.batteryUndervoltageDurationS

structure BatteryStep (config : PhysicsConfigData F) (earlier : List (PhysicsTick F))
    (tick : PhysicsTick F) : Prop where
  discharges : tick.after.batteryStateOfCharge ≤ tick.before.batteryStateOfCharge
  /-- A depleted battery stays cut off. -/
  depleted : tick.before.batteryCutoffReason = some .depleted →
    tick.after.batteryCutoffActive = true ∧ tick.after.batteryCutoffReason = some .depleted
  /-- A cutoff for undervoltage begins when this step and those just before it, all of them under the
  cutoff voltage, last for the persistence time. -/
  begins : tick.before.batteryCutoffReason ≠ some .undervoltage →
    tick.after.batteryCutoffReason = some .undervoltage →
    ∃ below, below <:+ earlier ∧
      (∀ low ∈ below ++ [tick], low.after.batteryVoltageV < config.batteryCutoffVoltageV) ∧
      config.batteryCutoffPersistenceS ≤ ((below ++ [tick]).map fun low => low.input.dt).sum
  /-- A cutoff for undervoltage lasts, or turns into one of a depleted battery, or ends at a voltage
  that is the hysteresis above the cutoff voltage. -/
  ends : tick.before.batteryCutoffReason = some .undervoltage →
    (tick.after.batteryCutoffActive = true ∧
      (tick.after.batteryCutoffReason = some .undervoltage ∨
        tick.after.batteryCutoffReason = some .depleted)) ∨
    (tick.after.batteryCutoffActive = false ∧ tick.after.batteryCutoffReason = none ∧
      config.batteryCutoffVoltageV + config.batteryCutoffRecoveryHysteresisV ≤
        tick.after.batteryVoltageV)
  /-- A step that begins under a cutoff stops the motors. -/
  stopped : tick.before.batteryCutoffActive = true → ∀ solution,
    solveCoupledPowertrain config.toCoupledPowertrainParameters
      (powertrainInputs tick.before tick.input) = .ok solution →
    ∀ index, (solution.motors index).targetThrustN = 0

omit [LinearOrder F] [IsStrictOrderedRing F] [Exact F] in
theorem consumed_concat (config : PhysicsConfigData F) (prior : List (PhysicsTick F))
    (tick : PhysicsTick F) : consumed config (prior ++ [tick]) = consumed config prior +
      tick.after.batteryCurrentA * tick.input.dt / (config.effectiveBatteryCapacityAh * 3600) := by
  simp [consumed]

omit [IsStrictOrderedRing F] [Exact F] in
theorem BelowFor.concat {prior : List (PhysicsTick F)} {tick : PhysicsTick F} {durationS : F}
    (below : BelowFor config prior durationS)
    (low : tick.after.batteryVoltageV < config.batteryCutoffVoltageV) :
    BelowFor config (prior ++ [tick]) (durationS + tick.input.dt) := by
  obtain ⟨ticks, ⟨before, rfl⟩, each, rfl⟩ := below
  refine ⟨ticks ++ [tick], ⟨before, by rw [List.append_assoc]⟩, fun other among => ?_, by simp⟩
  rcases List.mem_append.mp among with earlier | last
  · exact each other earlier
  · rw [List.mem_singleton.mp last]
    exact low

omit [IsStrictOrderedRing F] [Exact F] in
theorem BelowFor.zero (config : PhysicsConfigData F) (ticks : List (PhysicsTick F)) :
    BelowFor config ticks 0 :=
  ⟨[], List.nil_suffix, nofun, rfl⟩

omit [PyPhysics F] [Exact F] in
theorem max_zero_sub_eq (a : F) {consumed : F}
    (nonneg : 0 ≤ consumed) : max 0 (max 0 a - consumed) = max 0 (a - consumed) := by
  rcases le_total a 0 with low | high
  · rw [max_eq_left low, zero_sub, max_eq_left (neg_nonpos.mpr nonneg),
      max_eq_left ((sub_le_self a nonneg).trans low)]
  · rw [max_eq_right high]

section Invariant

variable {prior : List (PhysicsTick F)} {initialCharge : F} {solution : PowertrainSolution F}
  {after : PhysicsState F}

theorem BatteryInvariant.step [ExactPhysics F] (admitted : Admitted config)
    (holds : BatteryInvariant config initialCharge prior state)
    (stepped : CoupledStep config state call solution after) :
    BatteryInvariant config initialCharge (prior ++ [⟨state, call, after⟩]) after := by
  have falls := stepped.charge_le admitted holds.nonneg holds.full
  have nonneg : 0 ≤ after.batteryStateOfCharge := by
    rw [stepped.charge]
    exact le_max_left _ _
  have charge : after.batteryStateOfCharge =
      max 0 (initialCharge - consumed config (prior ++ [⟨state, call, after⟩])) := by
    rw [stepped.charge_eq admitted holds.full, holds.charge, consumed_concat, ← sub_sub]
    exact max_zero_sub_eq _ (stepped.consumed_nonneg admitted)
  have thrust := fun index => stepped.thrust_mem admitted index (holds.thrust index)
  have lasting := fun charged : 0 < after.batteryStateOfCharge =>
    holds.lasting (charged.trans_le falls)
  cases stepped.cutoff with
  | depletes empty active reason =>
    exact ⟨nonneg, falls.trans holds.full, charge, stepped.height, thrust, fun _ => empty,
      fun _ => active, fun charged => absurd empty charged.not_ge⟩
  | cuts charged low lasts duration active reason =>
    refine ⟨nonneg, falls.trans holds.full, charge, stepped.height, thrust, fun same => ?_,
      fun _ => active, fun _ => ?_⟩
    · rw [reason] at same
      cases same
    · rw [duration]
      exact (lasting charged).concat low
  | waits charged low duration active reason =>
    refine ⟨nonneg, falls.trans holds.full, charge, stepped.height, thrust, fun same => ?_,
      fun given => ?_, fun _ => ?_⟩
    · rw [reason] at same
      exact falls.trans (holds.depleted same)
    · rw [reason] at given
      exact active.trans (holds.active given)
    · rw [duration]
      exact (lasting charged).concat low
  | recovers charged cut high duration active reason =>
    refine ⟨nonneg, falls.trans holds.full, charge, stepped.height, thrust, fun same => ?_,
      fun given => absurd reason given, fun _ => ?_⟩
    · rw [reason] at same
      cases same
    · rw [duration]
      exact .zero _ _
  | holds charged duration active reason =>
    refine ⟨nonneg, falls.trans holds.full, charge, stepped.height, thrust, fun same => ?_,
      fun given => ?_, fun _ => ?_⟩
    · rw [reason] at same
      exact falls.trans (holds.depleted same)
    · rw [reason] at given
      exact active.trans (holds.active given)
    · rw [duration]
      exact .zero _ _

theorem BatteryInvariant.batteryStep (admitted : Admitted config)
    (holds : BatteryInvariant config initialCharge prior state)
    (stepped : CoupledStep config state call solution after) :
    BatteryStep config prior ⟨state, call, after⟩ := by
  have falls := stepped.charge_le admitted holds.nonneg holds.full
  refine ⟨falls, fun reason => ?_, fun other reason => ?_, fun reason => ?_, fun cut other solved => ?_⟩
  · have empty := falls.trans (holds.depleted reason)
    cases stepped.cutoff with
    | depletes _ active reason => exact ⟨active, reason⟩
    | cuts charged => exact absurd empty charged.not_ge
    | waits charged => exact absurd empty charged.not_ge
    | recovers charged => exact absurd empty charged.not_ge
    | holds charged => exact absurd empty charged.not_ge
  · cases stepped.cutoff with
    | depletes _ _ same =>
      rw [same] at reason
      cases reason
    | cuts charged low lasts duration =>
      obtain ⟨below, suffix, each, same⟩ := holds.lasting (charged.trans_le falls)
      refine ⟨below, suffix, fun tick among => ?_, ?_⟩
      · rcases List.mem_append.mp among with earlier | last
        · exact each tick earlier
        · rw [List.mem_singleton.mp last]
          exact low
      · rw [duration, same] at lasts
        simpa using lasts
    | waits _ _ _ _ same => exact absurd (same.symm.trans reason) other
    | recovers _ _ _ _ _ same =>
      rw [same] at reason
      cases reason
    | holds _ _ _ same => exact absurd (same.symm.trans reason) other
  · have active := holds.active (by rw [reason]; exact nofun)
    cases stepped.cutoff with
    | depletes _ on same => exact .inl ⟨on, .inr same⟩
    | cuts _ _ _ _ on same => exact .inl ⟨on, .inl same⟩
    | waits _ _ _ on same => exact .inl ⟨on.trans active, .inl (same.trans reason)⟩
    | recovers _ _ high _ off same => exact .inr ⟨off, same, high⟩
    | holds _ _ on same => exact .inl ⟨on.trans active, .inl (same.trans reason)⟩
  · rw [stepped.solved] at solved
    cases solved
    exact stepped.stopped admitted cut

theorem reset_invariant {positionM : Vector3 F} {yawRad batteryPercent rollRad pitchRad : F}
    {velocityMS : Option (Vector3 F)} {initial : PhysicsState F} (admitted : Admitted config)
    (started : reset config positionM yawRad batteryPercent rollRad pitchRad velocityMS = .ok initial)
    (above : 0 ≤ positionM.z) :
    BatteryInvariant config initial.batteryStateOfCharge [] initial := by
  have ceiling (index : Fin 4) : 0 ≤ config.maxMotorThrustN * config.motorThrustScales index :=
    mul_nonneg admitted.powertrain.maxMotorThrust.le (admitted.powertrain.thrustScale index)
  unfold reset at started
  simp only [Exact.zero_eq, clamp_eq, Exact.ofRat_cast, Rat.cast_one] at started
  have nonneg := le_max_left 0 (min 1 (batteryPercent / ((100 : ℚ) : F)))
  have full : max 0 (min 1 (batteryPercent / ((100 : ℚ) : F))) ≤ 1 :=
    max_le zero_le_one (min_le_left _ _)
  rw [Exact.over_eq] at started
  generalize max 0 (min 1 (batteryPercent / ((100 : ℚ) : F))) = soc at started nonneg full
  split at started
  case h_1 => cases started
  case h_2 voltage _ =>
    cases started
    refine ⟨nonneg, full, ?_, above, fun index => ?_, fun reason => ?_, fun reason => ?_, fun _ => ?_⟩
    · simp [consumed, nonneg]
    · simpa using ceiling index
    · dsimp only at reason
      split at reason
      case isTrue empty => simpa using empty
      case isFalse => cases reason
    · dsimp only at reason
      split at reason
      case isTrue empty => exact empty
      case isFalse => exact absurd rfl reason
    · exact .zero _ _

end Invariant

end SixDofPhysics

open SixDofPhysics

/-- In every state that a run of steps of the coupled model reaches, from a reset at or above the ground:
the charge is what the steps left of it, the vehicle is not under the ground, and the motors are within
their ceilings; each step that succeeded does to the battery what `BatteryStep` says, and one that raised
left the state. -/
theorem coupledRun_battery [ExactPhysics F] (config : PhysicsModelConfig F)
    (coupled : config.powertrainModel = .batteryCoupledV2) (positionM : Vector3 F)
    (above : 0 ≤ positionM.z) (yawRad batteryPercent rollRad pitchRad : F)
    (velocityMS : Option (Vector3 F)) (initial : PhysicsState F)
    (started : reset config.toPhysicsConfigData positionM yawRad batteryPercent rollRad pitchRad
      velocityMS = .ok initial) (calls : List (StepCall F)) :
    let ticks := Traces.trace (step config.toPhysicsConfigData) initial calls
    let state := Runs.run (fun state call => (step config.toPhysicsConfigData state call).1) initial calls
    (0 ≤ state.batteryStateOfCharge ∧ state.batteryStateOfCharge ≤ 1) ∧
    state.batteryStateOfCharge = max 0 (initial.batteryStateOfCharge -
      (ticks.map fun tick => tick.after.batteryCurrentA * tick.input.dt /
        (config.effectiveBatteryCapacityAh * 3600)).sum) ∧
    0 ≤ state.positionM.z ∧
    (∀ index, 0 ≤ (state.motors index).thrustN ∧
      (state.motors index).thrustN ≤ config.maxMotorThrustN * config.motorThrustScales index) ∧
    (∀ earlier tick later, ticks = earlier ++ tick :: later →
      BatteryStep config.toPhysicsConfigData earlier tick) ∧
    ∀ call after error, step config.toPhysicsConfigData state call = (after, .error error) →
      after = state := by
  have begun := reset_invariant config.admitted started above
  obtain ⟨holds, each⟩ := Traces.invariant (step config.toPhysicsConfigData)
    (I := BatteryInvariant config.toPhysicsConfigData initial.batteryStateOfCharge)
    (P := BatteryStep config.toPhysicsConfigData)
    (fun prior state call after holds stepped => by
      obtain ⟨solution, coupledStep⟩ := coupledStep_of_ok coupled stepped
      exact ⟨holds.batteryStep config.admitted coupledStep, holds.step config.admitted coupledStep⟩)
    (fun prior state call after error holds stepped => by
      rw [state_of_error coupled stepped]
      exact holds) begun calls
  refine ⟨⟨holds.nonneg, holds.full⟩, holds.charge, holds.height, holds.thrust, each, ?_⟩
  exact fun call after error raised => state_of_error coupled raised

/-- A hundredth of a second on the ground. -/
def groundedCall : StepCall ℚ := { motorCommands := fun _ => 0, dt := 1 / 100 }

theorem grounded_battery : ∃ initial, reset ({} : PhysicsConfigData ℚ) ⟨0, 0, 0⟩ 0 100 0 0 none = .ok initial ∧
    ∃ tick, Traces.trace (step ({} : PhysicsConfigData ℚ)) initial [groundedCall] = [tick] ∧
      BatteryStep ({} : PhysicsConfigData ℚ) [] tick := by
  obtain ⟨initial, started, ticked⟩ := exists_of_okWith
    (x := reset ({} : PhysicsConfigData ℚ) ⟨0, 0, 0⟩ 0 100 0 0 none)
    (t := fun initial => (Traces.trace (step {}) initial [groundedCall]).length = 1) (by decide +kernel)
  obtain ⟨tick, only⟩ := List.length_eq_one_iff.mp (of_decide_eq_true ticked)
  obtain ⟨_, _, _, _, each, _⟩ := coupledRun_battery PhysicsModelConfig.default rfl ⟨0, 0, 0⟩ le_rfl 0 100
    0 0 none initial started [groundedCall]
  exact ⟨initial, started, tick, only, each [] tick [] only⟩

end CrazySwarm
