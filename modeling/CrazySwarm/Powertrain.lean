import CrazySwarm.PhysicsNumbers
import CrazySwarm.Lib.Bisection

/-! The battery and the motors of the simulated vehicle: the curves of voltages, and the solution of the
load line with its limit on the current. What Python has as a tuple of four is a function of the motor. -/
namespace CrazySwarm
open PyFloat PyMath

inductive PowertrainModel where
  | legacyUncoupledV1 | batteryCoupledV2
  deriving DecidableEq, Repr

inductive BatteryCutoffReason where
  | depleted | undervoltage | invalidCellState
  deriving DecidableEq, Repr

inductive PhysicsError where
  | value (message : String)
  | floatingPoint (message : String)
  | index
  deriving DecidableEq, Repr

structure BatteryCurvePoint (F : Type) where
  stateOfCharge : F
  voltageV : F
  deriving DecidableEq, Repr

structure MotorVoltageThrustCurve (F : Type) [PyFloat F] where
  coefficient0N : F
  coefficient1NV : F
  coefficient2NV2 : F
  coefficient3NV3 : F
  minimumVoltageV : F := zero
  maximumVoltageV : F := ofRat 4.2
  deriving DecidableEq, Repr

section Model

variable {F : Type} [PyMath F]

/-- The field checks of a point. -/
def BatteryCurvePoint.valid (point : BatteryCurvePoint F) : Bool :=
  ge point.stateOfCharge zero && atMost point.stateOfCharge (ofRat 1) && gt point.voltageV zero

namespace MotorVoltageThrustCurve

/-- The field checks and `ordered_voltage_range`. -/
def validate (curve : MotorVoltageThrustCurve F) : Except (Fault F) Unit := do
  validated "MotorVoltageThrustCurve"
    [("minimum_voltage_v", ge curve.minimumVoltageV zero),
     ("maximum_voltage_v", gt curve.maximumVoltageV zero)] ()
  require (!le curve.maximumVoltageV curve.minimumVoltageV)
    (.value "motor curve voltage range must be increasing")

def thrustN (curve : MotorVoltageThrustCurve F) (voltageV : F) : F :=
  let voltage := PyFloat.max curve.minimumVoltageV (PyFloat.min curve.maximumVoltageV voltageV)
  PyFloat.max zero
    (curve.coefficient0N + curve.coefficient1NV * voltage + curve.coefficient2NV2 * pow voltage 2 +
      curve.coefficient3NV3 * pow voltage 3)

/-- The voltage for a thrust; `none` is `math.inf`. -/
def voltageForThrust (curve : MotorVoltageThrustCurve F) (thrustN : F) : Option F :=
  if le thrustN zero then some zero
  else if lt (curve.thrustN curve.maximumVoltageV + ofRat 1e-12) thrustN then none
  else
    let ends := Bisection.halve midpoint (fun middle => lt (curve.thrustN middle) thrustN) 60
      (curve.minimumVoltageV, curve.maximumVoltageV)
    some (midpoint ends.1 ends.2)

end MotorVoltageThrustCurve

/-- The properties of a configuration that the powertrain reads. -/
structure CoupledPowertrainParameters (F : Type) [PyFloat F] where
  maxMotorThrustN : F
  minimumMotorThrustN : F
  batteryInternalResistanceOhm : F
  batteryIdleCurrentA : F
  batteryMaxCurrentA : F
  motorMaxCurrentA : F
  batteryResistanceScale : F
  batteryCompensationEnabled : Bool
  batteryCompensationMinimumVoltageV : F
  batteryOcvCurve : List (BatteryCurvePoint F)
  motorVoltageThrustCurve : MotorVoltageThrustCurve F
  motorThrustScales : Fin 4 → F
  motorCurrentScales : Fin 4 → F

structure MotorElectricalSolution (F : Type) where
  requestedThrustN : F
  appliedPwm : F
  motorVoltageV : F
  targetThrustN : F
  availableThrustN : F
  currentA : F
  saturated : Bool
  deriving DecidableEq, Repr

structure PowertrainSolution (F : Type) where
  openCircuitVoltageV : F
  terminalVoltageV : F
  totalCurrentA : F
  motors : Fin 4 → MotorElectricalSolution F
  currentLimited : Bool
  deriving DecidableEq

/-- The loop of `open_circuit_voltage` over the pairs of points. -/
def interpolateVoltage (soc : F) : List (BatteryCurvePoint F) → Option F
  | lower :: upper :: rest =>
    if le soc upper.stateOfCharge then
      let span := upper.stateOfCharge - lower.stateOfCharge
      let fraction := (soc - lower.stateOfCharge) / span
      some (lower.voltageV + fraction * (upper.voltageV - lower.voltageV))
    else interpolateVoltage soc (upper :: rest)
  | [last] => some last.voltageV
  | [] => none

/-- `none` is the `IndexError` of an empty curve. -/
def openCircuitVoltage (curve : List (BatteryCurvePoint F)) (stateOfCharge : F) : Option F :=
  let soc := PyFloat.max zero (PyFloat.min (ofRat 1) stateOfCharge)
  match curve with
  | [] => none
  | first :: _ =>
    if le soc first.stateOfCharge then some first.voltageV else interpolateVoltage soc curve

def validateOcvCurve (curve : List (BatteryCurvePoint F)) : Except (Fault F) Unit := do
  require (2 ≤ curve.length) (.value "battery OCV curve requires at least two points")
  require (curve.head?.any (fun first => eq first.stateOfCharge zero) &&
      curve.getLast?.any fun last => eq last.stateOfCharge (ofRat 1))
    (.value "battery OCV curve must cover state of charge 0 through 1")
  (curve.zip curve.tail).forM fun (lower, upper) => do
    require (!le upper.stateOfCharge lower.stateOfCharge)
      (.value "battery OCV state-of-charge points must be strictly increasing")
    require (!lt upper.voltageV lower.voltageV)
      (.value "battery OCV voltage must be non-decreasing")

/-- The keyword arguments of `solve_coupled_powertrain`. -/
structure PowertrainInputs (F : Type) where
  stateOfCharge : F
  filteredSupplyVoltageV : F
  motorCommands : Fin 4 → F
  additionalCurrentA : F
  actuatorHealthScales : Fin 4 → F

structure Evaluation (F : Type) where
  motors : Fin 4 → MotorElectricalSolution F
  currentA : F
  limited : Bool

namespace CoupledPowertrainParameters

variable (config : CoupledPowertrainParameters F) (inputs : PowertrainInputs F)

def parasiticCurrent : F := config.batteryIdleCurrentA + PyFloat.max zero inputs.additionalCurrentA

def resistance : F := config.batteryInternalResistanceOhm * config.batteryResistanceScale

def requested (index : Fin 4) : F :=
  PyFloat.max zero (PyFloat.min (ofRat 1) (inputs.motorCommands index)) * config.maxMotorThrustN

def basePwm (index : Fin 4) : F :=
  let thrustScale := config.motorThrustScales index
  if lt (config.requested inputs index) config.minimumMotorThrustN || le thrustScale zero then zero
  else if config.batteryCompensationEnabled then
    match config.motorVoltageThrustCurve.voltageForThrust
        (config.requested inputs index / thrustScale) with
    | none => ofRat 1
    | some requiredVoltage =>
      if !isFinite requiredVoltage then ofRat 1
      else if lt inputs.filteredSupplyVoltageV config.batteryCompensationMinimumVoltageV then zero
      else PyFloat.max zero
        (PyFloat.min (ofRat 1) (requiredVoltage / inputs.filteredSupplyVoltageV))
  else PyFloat.max zero (PyFloat.min (ofRat 1) (inputs.motorCommands index))

/-- One round of the loop in `with_pwm_scale`. -/
def motorState (terminalVoltageV pwmScale : F) (index : Fin 4) : MotorElectricalSolution F :=
  let requestedThrust := config.requested inputs index
  let rawPwm := config.basePwm inputs index
  let pwm := rawPwm * pwmScale
  let voltage := pwm * terminalVoltageV
  let thrustScale := config.motorThrustScales index
  let healthScale := PyFloat.max zero (PyFloat.min (ofRat 1) (inputs.actuatorHealthScales index))
  let physicalThrust :=
    if eq pwm zero then zero
    else PyFloat.min (config.maxMotorThrustN * thrustScale * healthScale)
      (config.motorVoltageThrustCurve.thrustN voltage * thrustScale * healthScale)
  let available := PyFloat.min (config.maxMotorThrustN * thrustScale * healthScale)
    (config.motorVoltageThrustCurve.thrustN terminalVoltageV * thrustScale * healthScale)
  let normalizedLoad :=
    if le (config.maxMotorThrustN * thrustScale) zero then zero
    else physicalThrust / (config.maxMotorThrustN * thrustScale)
  let current := PyFloat.min (config.motorMaxCurrentA * config.motorCurrentScales index)
    (pwm * config.motorMaxCurrentA * config.motorCurrentScales index * normalizedLoad)
  { requestedThrustN := requestedThrust
    appliedPwm := pwm
    motorVoltageV := voltage
    targetThrustN := physicalThrust
    availableThrustN := available
    currentA := current
    saturated := lt (physicalThrust + ofRat 1e-9) requestedThrust &&
      (le (ofRat 1 - ofRat 1e-12) rawPwm || lt pwmScale (ofRat 1 - ofRat 1e-12) ||
        lt healthScale (ofRat 1 - ofRat 1e-12)) }

/-- The current of `with_pwm_scale`. -/
def scaledCurrent (terminalVoltageV pwmScale : F) : F :=
  config.parasiticCurrent inputs +
    motorSum fun index => (config.motorState inputs terminalVoltageV pwmScale index).currentA

/-- The largest scale that the bisection finds for the current limit. -/
def limitingScale (terminalVoltageV : F) : F :=
  (Bisection.halve midpoint
    (fun middle => !lt config.batteryMaxCurrentA (config.scaledCurrent inputs terminalVoltageV middle))
    28 (zero, ofRat 1)).1

def evaluate (terminalVoltageV : F) : Evaluation F :=
  let totalCurrent := config.scaledCurrent inputs terminalVoltageV (ofRat 1)
  if le totalCurrent config.batteryMaxCurrentA then
    { motors := config.motorState inputs terminalVoltageV (ofRat 1)
      currentA := totalCurrent
      limited := false }
  else if le config.batteryMaxCurrentA (config.parasiticCurrent inputs) then
    { motors := config.motorState inputs terminalVoltageV zero
      currentA := config.parasiticCurrent inputs
      limited := true }
  else
    let scale := config.limitingScale inputs terminalVoltageV
    { motors := config.motorState inputs terminalVoltageV scale
      currentA := PyFloat.min (config.scaledCurrent inputs terminalVoltageV scale)
        config.batteryMaxCurrentA
      limited := true }

/-- `terminal_voltage + resistance * current - ocv`. -/
def residual (ocv terminalVoltageV : F) : F :=
  terminalVoltageV + config.resistance * (config.evaluate inputs terminalVoltageV).currentA - ocv

def solutionAt (ocv terminalVoltageV : F) : PowertrainSolution F :=
  let evaluation := config.evaluate inputs terminalVoltageV
  ⟨ocv, terminalVoltageV, evaluation.currentA, evaluation.motors, evaluation.limited⟩

def notBracketed : PhysicsError := .floatingPoint "battery load-line root is not bracketed"

end CoupledPowertrainParameters

/-- The bounded load line of the battery. -/
def solveCoupledPowertrain (config : CoupledPowertrainParameters F) (inputs : PowertrainInputs F) :
    Except PhysicsError (PowertrainSolution F) :=
  match openCircuitVoltage config.batteryOcvCurve inputs.stateOfCharge with
  | none => .error .index
  | some ocv =>
    if eq config.resistance zero then .ok (config.solutionAt inputs ocv ocv)
    else
      let currentLimitedVoltage :=
        PyFloat.max zero (ocv - config.batteryMaxCurrentA * config.resistance)
      if (config.evaluate inputs currentLimitedVoltage).limited then
        .ok (config.solutionAt inputs ocv currentLimitedVoltage)
      else if lt zero (config.residual inputs ocv zero) || lt (config.residual inputs ocv ocv) zero then
        .error CoupledPowertrainParameters.notBracketed
      else
        let ends := Bisection.halve midpoint
          (fun middle => lt (config.residual inputs ocv middle) zero) 40 (zero, ocv)
        .ok (config.solutionAt inputs ocv (midpoint ends.1 ends.2))

theorem exists_solutionAt {config : CoupledPowertrainParameters F} {inputs : PowertrainInputs F}
    {solution : PowertrainSolution F} (returned : solveCoupledPowertrain config inputs = .ok solution) :
    ∃ ocv terminalVoltageV, solution = config.solutionAt inputs ocv terminalVoltageV := by
  unfold solveCoupledPowertrain at returned
  split at returned
  case h_1 => cases returned
  case h_2 ocv _ =>
    simp only at returned
    split_ifs at returned
    all_goals
      cases returned
      exact ⟨_, _, rfl⟩

end Model

end CrazySwarm
