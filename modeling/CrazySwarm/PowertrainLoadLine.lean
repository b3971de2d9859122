import CrazySwarm.SixDofPhysics

/-! The solution of the battery's load line: what holds of the motors at any terminal voltage, of the
limit on the current, and of the voltage that the bisection ends at. -/
namespace CrazySwarm

variable {F : Type} [Field F] [LinearOrder F] [IsStrictOrderedRing F]

/-- The health of a motor within its bounds. -/
def PowertrainInputs.health (inputs : PowertrainInputs F) (index : Fin 4) : F :=
  max 0 (min 1 (inputs.actuatorHealthScales index))

theorem PowertrainInputs.health_mem (inputs : PowertrainInputs F) (index : Fin 4) :
    0 ≤ inputs.health index ∧ inputs.health index ≤ 1 :=
  ⟨le_max_left _ _, max_le zero_le_one (min_le_left _ _)⟩

variable [PyPhysics F] [Exact F]

structure MotorBounds (config : CoupledPowertrainParameters F) (inputs : PowertrainInputs F)
    (index : Fin 4) (motor : MotorElectricalSolution F) : Prop where
  pwm : 0 ≤ motor.appliedPwm ∧ motor.appliedPwm ≤ 1
  target : 0 ≤ motor.targetThrustN ∧
    motor.targetThrustN ≤ config.maxMotorThrustN * config.motorThrustScales index * inputs.health index
  current : 0 ≤ motor.currentA

namespace PowertrainBounds
open CoupledPowertrainParameters

variable {config : CoupledPowertrainParameters F} {inputs : PowertrainInputs F} {index : Fin 4}
  {terminalVoltageV scale : F}

theorem thrustN_nonneg (curve : MotorVoltageThrustCurve F) (voltageV : F) :
    0 ≤ curve.thrustN voltageV := by
  simp [MotorVoltageThrustCurve.thrustN]

theorem basePwm_mem (config : CoupledPowertrainParameters F) (inputs : PowertrainInputs F)
    (index : Fin 4) : 0 ≤ config.basePwm inputs index ∧ config.basePwm inputs index ≤ 1 := by
  have clamped (value : F) : 0 ≤ max 0 (min 1 value) ∧ max 0 (min 1 value) ≤ 1 :=
    ⟨le_max_left _ _, max_le zero_le_one (min_le_left _ _)⟩
  simp only [basePwm, Exact.zero_eq, Exact.ofRat_cast, Rat.cast_one, Exact.max_eq, Exact.min_eq]
  split
  · exact ⟨le_rfl, zero_le_one⟩
  · split
    · split
      · exact ⟨zero_le_one, le_rfl⟩
      · split
        · exact ⟨zero_le_one, le_rfl⟩
        · split
          · exact ⟨le_rfl, zero_le_one⟩
          · exact clamped _
    · exact clamped _

theorem motorState_pwm (config : CoupledPowertrainParameters F) (inputs : PowertrainInputs F)
    (terminalVoltageV scale : F) (index : Fin 4) :
    (config.motorState inputs terminalVoltageV scale index).appliedPwm =
      config.basePwm inputs index * scale := by
  simp [motorState]

theorem motorState_target (config : CoupledPowertrainParameters F) (inputs : PowertrainInputs F)
    (terminalVoltageV scale : F) (index : Fin 4) :
    (config.motorState inputs terminalVoltageV scale index).targetThrustN =
      if config.basePwm inputs index * scale = 0 then 0
      else min (config.maxMotorThrustN * config.motorThrustScales index * inputs.health index)
        (config.motorVoltageThrustCurve.thrustN (config.basePwm inputs index * scale * terminalVoltageV) *
          config.motorThrustScales index * inputs.health index) := by
  simp [motorState, PowertrainInputs.health]

theorem motorState_current (config : CoupledPowertrainParameters F) (inputs : PowertrainInputs F)
    (terminalVoltageV scale : F) (index : Fin 4) :
    (config.motorState inputs terminalVoltageV scale index).currentA =
      min (config.motorMaxCurrentA * config.motorCurrentScales index)
        (config.basePwm inputs index * scale * config.motorMaxCurrentA *
          config.motorCurrentScales index *
            if config.maxMotorThrustN * config.motorThrustScales index ≤ 0 then 0
            else (config.motorState inputs terminalVoltageV scale index).targetThrustN /
              (config.maxMotorThrustN * config.motorThrustScales index)) := by
  simp [motorState]

theorem motorState_bounds (bounds : PowertrainBounds config) (nonneg : 0 ≤ scale) (atMost : scale ≤ 1) :
    MotorBounds config inputs index (config.motorState inputs terminalVoltageV scale index) := by
  obtain ⟨base, baseAtMost⟩ := basePwm_mem config inputs index
  have healthy := (inputs.health_mem index).1
  have thrustScale := bounds.thrustScale index
  have ceiling : 0 ≤ config.maxMotorThrustN * config.motorThrustScales index :=
    mul_nonneg bounds.maxMotorThrust.le thrustScale
  have share : 0 ≤ config.motorMaxCurrentA * config.motorCurrentScales index :=
    mul_nonneg bounds.motorMaxCurrent.le (bounds.currentScale index)
  have pwm : 0 ≤ config.basePwm inputs index * scale := mul_nonneg base nonneg
  have target : 0 ≤ (config.motorState inputs terminalVoltageV scale index).targetThrustN ∧
      (config.motorState inputs terminalVoltageV scale index).targetThrustN ≤
        config.maxMotorThrustN * config.motorThrustScales index * inputs.health index := by
    rw [motorState_target]
    split
    · exact ⟨le_rfl, mul_nonneg ceiling healthy⟩
    · have thrust := thrustN_nonneg config.motorVoltageThrustCurve
        (config.basePwm inputs index * scale * terminalVoltageV)
      exact ⟨le_min (mul_nonneg ceiling healthy) (mul_nonneg (mul_nonneg thrust thrustScale) healthy),
        min_le_left _ _⟩
  refine ⟨?_, target, ?_⟩
  · rw [motorState_pwm]
    exact ⟨pwm, mul_le_one₀ baseAtMost nonneg atMost⟩
  · rw [motorState_current, mul_assoc (_ * scale)]
    refine le_min share (mul_nonneg (mul_nonneg pwm share) ?_)
    split
    · exact le_rfl
    · exact div_nonneg target.1 ceiling

theorem scaledCurrent_zero (bounds : PowertrainBounds config) :
    config.scaledCurrent inputs terminalVoltageV 0 = config.parasiticCurrent inputs := by
  have idle (index : Fin 4) : (config.motorState inputs terminalVoltageV 0 index).currentA = 0 := by
    rw [motorState_current, mul_zero, zero_mul, zero_mul, zero_mul]
    exact min_eq_right (mul_nonneg bounds.motorMaxCurrent.le (bounds.currentScale index))
  rw [scaledCurrent, Exact.plus, motorSum_eq, Finset.sum_congr rfl fun index _ => idle index,
    Finset.sum_const_zero, add_zero]

theorem parasiticCurrent_nonneg (bounds : PowertrainBounds config) (inputs : PowertrainInputs F) :
    0 ≤ config.parasiticCurrent inputs := by
  rw [parasiticCurrent, Exact.plus, Exact.max_eq, Exact.zero_eq]
  exact add_nonneg bounds.idleCurrent (le_max_left _ _)

theorem parasiticCurrent_le (bounds : PowertrainBounds config) (nonneg : 0 ≤ scale)
    (atMost : scale ≤ 1) :
    config.parasiticCurrent inputs ≤ config.scaledCurrent inputs terminalVoltageV scale := by
  rw [scaledCurrent, Exact.plus, motorSum_eq]
  exact le_add_of_nonneg_right (Finset.sum_nonneg fun index _ =>
    (motorState_bounds bounds nonneg atMost).current)

theorem limitingScale_mem (config : CoupledPowertrainParameters F) (inputs : PowertrainInputs F)
    (terminalVoltageV : F) : 0 ≤ config.limitingScale inputs terminalVoltageV ∧
      config.limitingScale inputs terminalVoltageV ≤ 1 := by
  rw [limitingScale, Exact.zero_eq, Exact.ofRat_cast, Rat.cast_one]
  obtain ⟨low, ordered, high⟩ := Bisection.halve_inside (Bisection.between_of_exact midpoint_eq)
    (fun middle => !PyFloat.lt config.batteryMaxCurrentA
      (config.scaledCurrent inputs terminalVoltageV middle)) 28 (zero_le_one' F)
  exact ⟨low, ordered.trans high⟩

/-- The scale that the bisection finds keeps to the limit when no duty cycle at all does. -/
theorem limitingScale_current (bounds : PowertrainBounds config)
    (room : config.parasiticCurrent inputs ≤ config.batteryMaxCurrentA) :
    config.scaledCurrent inputs terminalVoltageV (config.limitingScale inputs terminalVoltageV) ≤
      config.batteryMaxCurrentA := by
  have kept := Bisection.lower_kept midpoint
    (fun middle => !PyFloat.lt config.batteryMaxCurrentA
      (config.scaledCurrent inputs terminalVoltageV middle)) 28 (PyFloat.zero, PyFloat.ofRat 1)
  rw [← limitingScale] at kept
  rcases kept with none | within
  · rw [none, Exact.zero_eq, scaledCurrent_zero bounds]
    exact room
  · simpa using within

/-- The motors run at the requested duty cycles, at none, or at the scale that the bisection finds. -/
theorem evaluate_cases (bounds : PowertrainBounds config) (inputs : PowertrainInputs F)
    (terminalVoltageV : F) :
    (config.scaledCurrent inputs terminalVoltageV 1 ≤ config.batteryMaxCurrentA ∧
      config.evaluate inputs terminalVoltageV =
        ⟨config.motorState inputs terminalVoltageV 1, config.scaledCurrent inputs terminalVoltageV 1,
          false⟩) ∨
    (config.batteryMaxCurrentA < config.scaledCurrent inputs terminalVoltageV 1 ∧
      config.batteryMaxCurrentA ≤ config.parasiticCurrent inputs ∧
      config.evaluate inputs terminalVoltageV =
        ⟨config.motorState inputs terminalVoltageV 0, config.parasiticCurrent inputs, true⟩) ∨
    (config.batteryMaxCurrentA < config.scaledCurrent inputs terminalVoltageV 1 ∧
      config.parasiticCurrent inputs < config.batteryMaxCurrentA ∧
      config.evaluate inputs terminalVoltageV =
        ⟨config.motorState inputs terminalVoltageV (config.limitingScale inputs terminalVoltageV),
          config.scaledCurrent inputs terminalVoltageV (config.limitingScale inputs terminalVoltageV),
          true⟩) := by
  simp only [evaluate, Exact.le_true, Exact.ofRat_cast, Rat.cast_one, Exact.zero_eq, Exact.min_eq]
  by_cases within : config.scaledCurrent inputs terminalVoltageV 1 ≤ config.batteryMaxCurrentA
  · exact .inl ⟨within, if_pos within⟩
  · rw [if_neg within]
    by_cases parasitic : config.batteryMaxCurrentA ≤ config.parasiticCurrent inputs
    · exact .inr (.inl ⟨not_le.mp within, parasitic, if_pos parasitic⟩)
    · have room := not_le.mp parasitic
      rw [if_neg parasitic, min_eq_left (limitingScale_current bounds room.le)]
      exact .inr (.inr ⟨not_le.mp within, room, rfl⟩)

theorem evaluate_bounds (bounds : PowertrainBounds config) (inputs : PowertrainInputs F)
    (terminalVoltageV : F) :
    (∀ index, MotorBounds config inputs index ((config.evaluate inputs terminalVoltageV).motors index)) ∧
    0 ≤ (config.evaluate inputs terminalVoltageV).currentA ∧
    ((config.evaluate inputs terminalVoltageV).currentA ≤ config.batteryMaxCurrentA ∨
      config.batteryMaxCurrentA < config.parasiticCurrent inputs ∧
        ∀ index, ((config.evaluate inputs terminalVoltageV).motors index).appliedPwm = 0) := by
  have parasitic := parasiticCurrent_nonneg bounds inputs
  rcases evaluate_cases bounds inputs terminalVoltageV with
    ⟨within, same⟩ | ⟨_, beyond, same⟩ | ⟨_, room, same⟩
  all_goals rw [same]
  · exact ⟨fun _ => motorState_bounds bounds zero_le_one le_rfl,
      parasitic.trans (parasiticCurrent_le bounds zero_le_one le_rfl), .inl within⟩
  · refine ⟨fun _ => motorState_bounds bounds le_rfl zero_le_one, parasitic, ?_⟩
    rcases beyond.eq_or_lt with equal | above
    · exact .inl equal.ge
    · exact .inr ⟨above, fun index => by rw [motorState_pwm, mul_zero]⟩
  · obtain ⟨low, high⟩ := limitingScale_mem config inputs terminalVoltageV
    exact ⟨fun _ => motorState_bounds bounds low high,
      parasitic.trans (parasiticCurrent_le bounds low high),
      .inl (limitingScale_current bounds room.le)⟩

theorem evaluate_motors (bounds : PowertrainBounds config) (inputs : PowertrainInputs F)
    (terminalVoltageV : F) : ∃ scale, (config.evaluate inputs terminalVoltageV).motors =
      config.motorState inputs terminalVoltageV scale := by
  rcases evaluate_cases bounds inputs terminalVoltageV with ⟨_, same⟩ | ⟨_, _, same⟩ | ⟨_, _, same⟩
  all_goals exact ⟨_, congrArg Evaluation.motors same⟩

theorem residual_eq (config : CoupledPowertrainParameters F) (inputs : PowertrainInputs F)
    (ocv terminalVoltageV : F) : config.residual inputs ocv terminalVoltageV =
      terminalVoltageV + config.resistance * (config.evaluate inputs terminalVoltageV).currentA - ocv := by
  simp [CoupledPowertrainParameters.residual]

theorem residual_ocv_nonneg (bounds : PowertrainBounds config) (inputs : PowertrainInputs F) (ocv : F) :
    0 ≤ config.residual inputs ocv ocv := by
  rw [residual_eq, add_sub_cancel_left]
  exact mul_nonneg bounds.resistance (evaluate_bounds bounds inputs ocv).2.1

/-- The voltage of the load line under the ceiling on the current. -/
def limitedVoltage (config : CoupledPowertrainParameters F) (ocv : F) : F :=
  max 0 (ocv - config.batteryMaxCurrentA * config.resistance)

def loadLineEnds (config : CoupledPowertrainParameters F) (inputs : PowertrainInputs F) (ocv : F) : F × F :=
  Bisection.halve midpoint (fun middle => decide (config.residual inputs ocv middle < 0)) 40 (0, ocv)

theorem solve_eq (bounds : PowertrainBounds config) {ocv : F}
    (open_circuit : openCircuitVoltage config.batteryOcvCurve inputs.stateOfCharge = some ocv) :
    solveCoupledPowertrain config inputs =
      if config.resistance = 0 then .ok (config.solutionAt inputs ocv ocv)
      else if (config.evaluate inputs (limitedVoltage config ocv)).limited then
        .ok (config.solutionAt inputs ocv (limitedVoltage config ocv))
      else if 0 < config.residual inputs ocv 0 then .error notBracketed
      else
        .ok (config.solutionAt inputs ocv
          (((loadLineEnds config inputs ocv).1 + (loadLineEnds config inputs ocv).2) / 2)) := by
  have upper := residual_ocv_nonneg bounds inputs ocv
  simp only [solveCoupledPowertrain, open_circuit, Exact.eq_true, Exact.zero_eq, Exact.max_eq,
    Exact.minus, Exact.times, Exact.lt_eq, Bool.or_eq_true, decide_eq_true_eq, upper.not_gt, or_false,
    midpoint_eq]
  rfl

/-- A residual that is not positive at no voltage changes its sign between the ends. -/
theorem loadLineEnds_bracket (bounds : PowertrainBounds config) {ocv : F} (positive : 0 ≤ ocv)
    (begins : config.residual inputs ocv 0 ≤ 0) :
    (0 ≤ (loadLineEnds config inputs ocv).1 ∧
      (loadLineEnds config inputs ocv).1 ≤ (loadLineEnds config inputs ocv).2 ∧
      (loadLineEnds config inputs ocv).2 ≤ ocv) ∧
    (loadLineEnds config inputs ocv).2 - (loadLineEnds config inputs ocv).1 = ocv / 2 ^ 40 ∧
    config.residual inputs ocv (loadLineEnds config inputs ocv).1 ≤ 0 ∧
    0 ≤ config.residual inputs ocv (loadLineEnds config inputs ocv).2 := by
  have inside := Bisection.halve_inside (Bisection.between_of_exact midpoint_eq)
    (fun middle => decide (config.residual inputs ocv middle < 0)) 40 positive
  have width := Bisection.halve_width midpoint_eq
    (fun middle => decide (config.residual inputs ocv middle < 0)) 40 ((0 : F), ocv)
  have lower := Bisection.lower_kept midpoint
    (fun middle => decide (config.residual inputs ocv middle < 0)) 40 ((0 : F), ocv)
  have upper := Bisection.upper_kept midpoint
    (fun middle => decide (config.residual inputs ocv middle < 0)) 40 ((0 : F), ocv)
  rw [← loadLineEnds] at inside width lower upper
  refine ⟨inside, by rw [width, sub_zero], ?_, ?_⟩
  · rcases lower with first | below
    · rw [first]
      exact begins
    · exact (of_decide_eq_true below).le
  · rcases upper with first | above
    · rw [first]
      exact residual_ocv_nonneg bounds inputs ocv
    · exact not_lt.mp (of_decide_eq_false above)

end PowertrainBounds

open PowertrainBounds

structure LoadLineSolution (config : CoupledPowertrainParameters F) (inputs : PowertrainInputs F)
    (solution : PowertrainSolution F) : Prop where
  open_circuit : openCircuitVoltage config.batteryOcvCurve inputs.stateOfCharge =
    some solution.openCircuitVoltageV
  terminal : 0 ≤ solution.terminalVoltageV ∧ solution.terminalVoltageV ≤ solution.openCircuitVoltageV
  current : solution.totalCurrentA ≤ config.batteryMaxCurrentA ∨
    config.batteryMaxCurrentA < config.parasiticCurrent inputs ∧
      ∀ index, (solution.motors index).appliedPwm = 0
  motors : ∀ index, MotorBounds config inputs index (solution.motors index)
  root : solution.currentLimited = false → ∃ a b, a ≤ solution.terminalVoltageV ∧
    solution.terminalVoltageV ≤ b ∧ b - a ≤ solution.openCircuitVoltageV / 2 ^ 40 ∧
      config.residual inputs solution.openCircuitVoltageV a ≤ 0 ∧
        0 ≤ config.residual inputs solution.openCircuitVoltageV b

theorem PowertrainBounds.solutionAt_loadLine {config : CoupledPowertrainParameters F}
    {inputs : PowertrainInputs F} (bounds : PowertrainBounds config) {ocv terminalVoltageV : F}
    (open_circuit : openCircuitVoltage config.batteryOcvCurve inputs.stateOfCharge = some ocv)
    (terminal : 0 ≤ terminalVoltageV ∧ terminalVoltageV ≤ ocv)
    (root : (config.evaluate inputs terminalVoltageV).limited = false → ∃ a b, a ≤ terminalVoltageV ∧
      terminalVoltageV ≤ b ∧ b - a ≤ ocv / 2 ^ 40 ∧ config.residual inputs ocv a ≤ 0 ∧
        0 ≤ config.residual inputs ocv b) :
    LoadLineSolution config inputs (config.solutionAt inputs ocv terminalVoltageV) := by
  obtain ⟨motors, _, current⟩ := evaluate_bounds bounds inputs terminalVoltageV
  exact ⟨open_circuit, terminal, current, motors, root⟩

theorem PowertrainBounds.solve_loadLine {config : CoupledPowertrainParameters F}
    {inputs : PowertrainInputs F} (bounds : PowertrainBounds config) {solution : PowertrainSolution F}
    (returned : solveCoupledPowertrain config inputs = .ok solution) :
    LoadLineSolution config inputs solution := by
  obtain ⟨ocv, open_circuit, positive⟩ := bounds.ocvCurve.exists_pos inputs.stateOfCharge
  have width : 0 ≤ ocv / 2 ^ 40 := div_nonneg positive.le (by positivity)
  rw [solve_eq bounds open_circuit] at returned
  split at returned
  case isTrue free =>
    cases returned
    refine solutionAt_loadLine bounds open_circuit ⟨positive.le, le_rfl⟩ fun _ => ?_
    have root : config.residual inputs ocv ocv = 0 := by
      rw [residual_eq, free, zero_mul, add_zero, sub_self]
    exact ⟨ocv, ocv, le_rfl, le_rfl, by rwa [sub_self], root.le, root.ge⟩
  case isFalse =>
    split at returned
    case isTrue limited =>
      cases returned
      have drop : 0 ≤ config.batteryMaxCurrentA * config.resistance :=
        mul_nonneg bounds.maxCurrent.le bounds.resistance
      refine solutionAt_loadLine bounds open_circuit
        ⟨le_max_left _ _, max_le positive.le (sub_le_self _ drop)⟩ fun unlimited => ?_
      rw [limited] at unlimited
      cases unlimited
    case isFalse =>
      split at returned
      case isTrue => cases returned
      case isFalse bracketed =>
        cases returned
        obtain ⟨⟨low, ordered, high⟩, near, below, above⟩ :=
          loadLineEnds_bracket bounds positive.le (not_lt.mp bracketed)
        generalize loadLineEnds config inputs ocv = ends at low ordered high near below above
        refine solutionAt_loadLine bounds open_circuit ⟨by linarith, by linarith⟩ fun _ => ?_
        exact ⟨ends.1, ends.2, by linarith, by linarith, near.le, below, above⟩

/-- Whatever the solver returns is in its bounds, and on the load line unless the current is limited. -/
theorem solveCoupledPowertrain_sound (config : PhysicsModelConfig F) (inputs : PowertrainInputs F)
    (healthy : ∀ index, 0 ≤ inputs.actuatorHealthScales index ∧ inputs.actuatorHealthScales index ≤ 1)
    (solution : PowertrainSolution F)
    (returned : solveCoupledPowertrain config.toCoupledPowertrainParameters inputs = .ok solution) :
    openCircuitVoltage config.batteryOcvCurve inputs.stateOfCharge = some solution.openCircuitVoltageV ∧
    (0 ≤ solution.terminalVoltageV ∧ solution.terminalVoltageV ≤ solution.openCircuitVoltageV) ∧
    (solution.totalCurrentA ≤ config.batteryMaxCurrentA ∨
      config.batteryMaxCurrentA < config.parasiticCurrent inputs ∧
        ∀ index, (solution.motors index).appliedPwm = 0) ∧
    (∀ index, 0 ≤ (solution.motors index).appliedPwm ∧ (solution.motors index).appliedPwm ≤ 1) ∧
    (∀ index, 0 ≤ (solution.motors index).targetThrustN ∧
      (solution.motors index).targetThrustN ≤
        config.maxMotorThrustN * config.motorThrustScales index * inputs.actuatorHealthScales index) ∧
    (solution.currentLimited = false → ∃ a b, a ≤ solution.terminalVoltageV ∧
      solution.terminalVoltageV ≤ b ∧ b - a ≤ solution.openCircuitVoltageV / 2 ^ 40 ∧
        config.residual inputs solution.openCircuitVoltageV a ≤ 0 ∧
          0 ≤ config.residual inputs solution.openCircuitVoltageV b) := by
  have sound := solve_loadLine config.admitted.powertrain returned
  have health (index : Fin 4) : inputs.health index = inputs.actuatorHealthScales index := by
    rw [PowertrainInputs.health, min_eq_right (healthy index).2, max_eq_right (healthy index).1]
  refine ⟨sound.open_circuit, sound.terminal, sound.current, fun index => (sound.motors index).pwm,
    fun index => ?_, sound.root⟩
  rw [← health index]
  exact (sound.motors index).target

/-- A vehicle that stands with one ampere of additional current. -/
def standingInputs : PowertrainInputs ℚ := ⟨1, 42 / 10, fun _ => 0, 1, fun _ => 1⟩

theorem standing_sound : ∃ solution,
    solveCoupledPowertrain (PhysicsModelConfig.default : PhysicsModelConfig ℚ).toCoupledPowertrainParameters
      standingInputs = .ok solution ∧ solution.currentLimited = false ∧
    ∃ a b, a ≤ solution.terminalVoltageV ∧ solution.terminalVoltageV ≤ b ∧
      b - a ≤ solution.openCircuitVoltageV / 2 ^ 40 := by
  obtain ⟨solution, returned, free⟩ := exists_of_okWith
    (x := solveCoupledPowertrain
      (PhysicsModelConfig.default : PhysicsModelConfig ℚ).toCoupledPowertrainParameters standingInputs)
    (t := fun solution => !solution.currentLimited) (by decide +kernel)
  obtain ⟨_, _, _, _, _, root⟩ := solveCoupledPowertrain_sound PhysicsModelConfig.default
    standingInputs (fun _ => ⟨zero_le_one, le_rfl⟩) solution returned
  have unlimited : solution.currentLimited = false := by simpa using free
  obtain ⟨a, b, low, high, near, _⟩ := root unlimited
  exact ⟨solution, returned, unlimited, a, b, low, high, near⟩

/-! ## The bracket -/

namespace PowertrainBounds
open CoupledPowertrainParameters

variable {config : CoupledPowertrainParameters F} {inputs : PowertrainInputs F} {ocv : F}

theorem evaluate_limited_iff (bounds : PowertrainBounds config) (inputs : PowertrainInputs F)
    (terminalVoltageV : F) : (config.evaluate inputs terminalVoltageV).limited = true ↔
      config.batteryMaxCurrentA < config.scaledCurrent inputs terminalVoltageV 1 := by
  rcases evaluate_cases bounds inputs terminalVoltageV with
    ⟨within, same⟩ | ⟨beyond, _, same⟩ | ⟨beyond, _, same⟩
  · rw [same]
    exact iff_of_false Bool.false_ne_true within.not_gt
  · rw [same]
    exact iff_of_true rfl beyond
  · rw [same]
    exact iff_of_true rfl beyond

theorem evaluate_of_within (bounds : PowertrainBounds config) {terminalVoltageV : F}
    (within : config.scaledCurrent inputs terminalVoltageV 1 ≤ config.batteryMaxCurrentA) :
    config.evaluate inputs terminalVoltageV =
      ⟨config.motorState inputs terminalVoltageV 1, config.scaledCurrent inputs terminalVoltageV 1,
        false⟩ := by
  rcases evaluate_cases bounds inputs terminalVoltageV with ⟨_, same⟩ | ⟨beyond, _⟩ | ⟨beyond, _⟩
  · exact same
  · exact absurd within beyond.not_ge
  · exact absurd within beyond.not_ge

omit [Exact F] in
theorem limitedVoltage_eq_zero (short : ocv ≤ config.resistance * config.batteryMaxCurrentA) :
    limitedVoltage config ocv = 0 := by
  rw [limitedVoltage, mul_comm]
  exact max_eq_left (sub_nonpos.mpr short)

theorem within_of_high (bounds : PowertrainBounds config)
    (unlimited : ¬(config.evaluate inputs (limitedVoltage config ocv)).limited = true)
    (high : ocv < config.resistance * (config.evaluate inputs 0).currentA) :
    config.scaledCurrent inputs 0 1 ≤ config.batteryMaxCurrentA := by
  rw [evaluate_limited_iff bounds, not_lt] at unlimited
  have parasitic := (parasiticCurrent_le bounds zero_le_one le_rfl).trans unlimited
  have bounded : (config.evaluate inputs 0).currentA ≤ config.batteryMaxCurrentA := by
    rcases (evaluate_bounds bounds inputs 0).2.2 with bounded | beyond
    · exact bounded
    · exact absurd parasitic beyond.1.not_ge
  have short := high.le.trans (mul_le_mul_of_nonneg_left bounded bounds.resistance)
  rwa [limitedVoltage_eq_zero short] at unlimited

/-- The current that the motors would draw at no voltage decides about the bracket. -/
theorem solve_notBracketed_iff (bounds : PowertrainBounds config) (positive : 0 < ocv)
    (open_circuit : openCircuitVoltage config.batteryOcvCurve inputs.stateOfCharge = some ocv) :
    solveCoupledPowertrain config inputs = .error notBracketed ↔
      ocv < config.resistance * config.scaledCurrent inputs 0 1 ∧
        config.scaledCurrent inputs 0 1 ≤ config.batteryMaxCurrentA := by
  have begins : 0 < config.residual inputs ocv 0 ↔
      ocv < config.resistance * (config.evaluate inputs 0).currentA := by
    rw [residual_eq, zero_add, sub_pos]
  rw [solve_eq bounds open_circuit]
  split
  case isTrue free =>
    refine iff_of_false nofun fun high => ?_
    rw [free, zero_mul] at high
    exact lt_asymm positive high.1
  case isFalse =>
    split
    case isTrue limited =>
      refine iff_of_false nofun fun high => ?_
      have short := high.1.le.trans (mul_le_mul_of_nonneg_left high.2 bounds.resistance)
      rw [limitedVoltage_eq_zero short, evaluate_of_within bounds high.2] at limited
      cases limited
    case isFalse unlimited =>
      split
      case isTrue positive_residual =>
        refine iff_of_true rfl ?_
        have high := begins.mp positive_residual
        have within := within_of_high bounds unlimited high
        rw [evaluate_of_within bounds within] at high
        exact ⟨high, within⟩
      case isFalse bracketed =>
        refine iff_of_false nofun fun high => bracketed ?_
        rw [begins, evaluate_of_within bounds high.2]
        exact high.1

end PowertrainBounds

/-- The guard of the bisection raises exactly if the current that the motors would draw at no voltage is
within the ceiling and more than the load line has there; never if the load line under the ceiling
does not go below no voltage. -/
theorem solveCoupledPowertrain_notBracketed_iff (config : PhysicsModelConfig F)
    (inputs : PowertrainInputs F) :
    ∃ ocv, openCircuitVoltage config.batteryOcvCurve inputs.stateOfCharge = some ocv ∧ 0 < ocv ∧
    (solveCoupledPowertrain config.toCoupledPowertrainParameters inputs =
        .error CoupledPowertrainParameters.notBracketed ↔
      ocv < config.resistance * config.scaledCurrent inputs 0 1 ∧
        config.scaledCurrent inputs 0 1 ≤ config.batteryMaxCurrentA) ∧
    (config.resistance * config.batteryMaxCurrentA ≤ ocv →
      solveCoupledPowertrain config.toCoupledPowertrainParameters inputs ≠
        .error CoupledPowertrainParameters.notBracketed) := by
  have bounds := config.admitted.powertrain
  obtain ⟨ocv, open_circuit, positive⟩ := bounds.ocvCurve.exists_pos inputs.stateOfCharge
  have exactly := solve_notBracketed_iff bounds positive open_circuit
  refine ⟨ocv, open_circuit, positive, exactly, fun enough raised => ?_⟩
  obtain ⟨high, within⟩ := exactly.mp raised
  have bounded := mul_le_mul_of_nonneg_left within bounds.resistance
  exact lt_irrefl ocv (high.trans_le (bounded.trans enough))

/-- The load line of the defaults does not go below no voltage, and its guard does not raise. -/
theorem standing_bracketed :
    solveCoupledPowertrain (PhysicsModelConfig.default : PhysicsModelConfig ℚ).toCoupledPowertrainParameters
      standingInputs ≠ .error CoupledPowertrainParameters.notBracketed := by
  obtain ⟨ocv, open_circuit, _, _, enough⟩ :=
    solveCoupledPowertrain_notBracketed_iff PhysicsModelConfig.default standingInputs
  refine enough ?_
  have value : openCircuitVoltage
      (PhysicsModelConfig.default : PhysicsModelConfig ℚ).batteryOcvCurve standingInputs.stateOfCharge =
        some (21 / 5) := by decide +kernel
  rw [value] at open_circuit
  cases open_circuit
  decide +kernel

/-- The defaults with an internal resistance of one hundred ohms. -/
def resistiveConfig : PhysicsConfigData ℚ := { batteryInternalResistanceOhm := 100 }

example : openCircuitVoltage resistiveConfig.batteryOcvCurve 1 = some (21 / 5) := by decide +kernel

theorem resistiveConfig_valid : resistiveConfig.validate = .ok () := by
  obtain ⟨_, valid, _⟩ := exists_of_okWith (x := resistiveConfig.validate) (t := fun _ => true)
    (by decide +kernel)
  exact valid

/-- A step from a full battery, with no command, that the guard ends. -/
theorem resistive_notBracketed : ∃ config : PhysicsModelConfig ℚ, ∃ state,
    SixDofPhysics.reset config.toPhysicsConfigData ⟨0, 0, 0⟩ 0 100 0 0 none = .ok state ∧
    (SixDofPhysics.step config.toPhysicsConfigData state
      { motorCommands := fun _ => 0, dt := 1 / 100 }).2 =
        .error (.floatingPoint "battery load-line root is not bracketed") := by
  obtain ⟨state, reset, raised⟩ := exists_of_okWith
    (x := SixDofPhysics.reset resistiveConfig ⟨0, 0, 0⟩ 0 100 0 0 none)
    (t := fun state => (SixDofPhysics.step resistiveConfig state
      { motorCommands := fun _ => 0, dt := 1 / 100 }).2 =
        .error (.floatingPoint "battery load-line root is not bracketed")) (by decide +kernel)
  exact ⟨⟨resistiveConfig, resistiveConfig_valid⟩, state, reset, of_decide_eq_true raised⟩

end CrazySwarm
