import CrazySwarm.PhysicsConfig

/-! The flight physics of the simulated vehicle: its state, a step of it, and the controller that turns a
setpoint into motor commands. -/
namespace CrazySwarm
open PyFloat PyMath

variable {F : Type} [PyPhysics F]

structure EulerAttitude (F : Type) where
  rollRad : F
  pitchRad : F
  yawRad : F
  deriving DecidableEq, Repr

structure Quaternion (F : Type) where
  w : F
  x : F
  y : F
  z : F
  deriving DecidableEq, Repr

namespace Quaternion

/-- `Quaternion()`. -/
def identity : Quaternion F := ⟨ofRat 1, zero, zero, zero⟩

def fromYaw (yawRad : F) : Quaternion F := ⟨cos (yawRad / ofRat 2), zero, zero, sin (yawRad / ofRat 2)⟩

def normalized (q : Quaternion F) : Quaternion F :=
  let norm := sqrt (pow q.w 2 + pow q.x 2 + pow q.y 2 + pow q.z 2)
  if le norm (ofRat 1e-15) then identity else ⟨q.w / norm, q.x / norm, q.y / norm, q.z / norm⟩

def fromEuler (rollRad pitchRad yawRad : F) : Quaternion F :=
  let cr := cos (rollRad / ofRat 2)
  let sr := sin (rollRad / ofRat 2)
  let cp := cos (pitchRad / ofRat 2)
  let sp := sin (pitchRad / ofRat 2)
  let cy := cos (yawRad / ofRat 2)
  let sy := sin (yawRad / ofRat 2)
  normalized
    ⟨cr * cp * cy + sr * sp * sy, sr * cp * cy - cr * sp * sy, cr * sp * cy + sr * cp * sy,
      cr * cp * sy - sr * sp * cy⟩

def rotateBodyToWorld (q : Quaternion F) (value : Vector3 F) : Vector3 F :=
  let one : F := ofRat 1
  let two : F := ofRat 2
  let xx := q.x * q.x
  let yy := q.y * q.y
  let zz := q.z * q.z
  let xy := q.x * q.y
  let xz := q.x * q.z
  let yz := q.y * q.z
  let wx := q.w * q.x
  let wy := q.w * q.y
  let wz := q.w * q.z
  { x := (one - two * (yy + zz)) * value.x + two * (xy - wz) * value.y + two * (xz + wy) * value.z
    y := two * (xy + wz) * value.x + (one - two * (xx + zz)) * value.y + two * (yz - wx) * value.z
    z := two * (xz - wy) * value.x + two * (yz + wx) * value.y + (one - two * (xx + yy)) * value.z }

def rotateWorldToBody (q : Quaternion F) (value : Vector3 F) : Vector3 F :=
  rotateBodyToWorld ⟨q.w, neg q.x, neg q.y, neg q.z⟩ value

def integrate (q : Quaternion F) (angularVelocityBodyRadS : Vector3 F) (dt : F) : Quaternion F :=
  let wx := angularVelocityBodyRadS.x
  let wy := angularVelocityBodyRadS.y
  let wz := angularVelocityBodyRadS.z
  let half : F := ofRat 0.5
  normalized
    ⟨q.w + half * (neg q.x * wx - q.y * wy - q.z * wz) * dt,
      q.x + half * (q.w * wx + q.y * wz - q.z * wy) * dt,
      q.y + half * (q.w * wy + q.z * wx - q.x * wz) * dt,
      q.z + half * (q.w * wz + q.x * wy - q.y * wx) * dt⟩

def euler (q : Quaternion F) : EulerAttitude F :=
  let one : F := ofRat 1
  let two : F := ofRat 2
  let sinRoll := two * (q.w * q.x + q.y * q.z)
  let cosRoll := one - two * (pow q.x 2 + pow q.y 2)
  let sinPitch := PyFloat.max (neg one) (PyFloat.min one (two * (q.w * q.y - q.z * q.x)))
  let sinYaw := two * (q.w * q.z + q.x * q.y)
  let cosYaw := one - two * (pow q.y 2 + pow q.z 2)
  { rollRad := PyPhysics.atan2 sinRoll cosRoll
    pitchRad := PyPhysics.asin sinPitch
    yawRad := PyPhysics.atan2 sinYaw cosYaw }

end Quaternion

structure MotorState (F : Type) [PyPhysics F] where
  command : F := zero
  requestedThrustN : F := zero
  appliedPwm : F := zero
  motorVoltageV : F := zero
  thrustN : F := zero
  availableThrustN : F := zero
  currentA : F := zero
  saturated : Bool := false
  healthScale : F := ofRat 1
  deriving DecidableEq

structure PhysicsState (F : Type) [PyPhysics F] where
  positionM : Vector3 F := Vector3.zero
  velocityMS : Vector3 F := Vector3.zero
  accelerationWorldMS2 : Vector3 F := Vector3.zero
  attitude : Quaternion F := Quaternion.identity
  angularVelocityBodyRadS : Vector3 F := Vector3.zero
  batteryStateOfCharge : F := ofRat 1
  batteryOpenCircuitVoltageV : F := ofRat 4.2
  batteryVoltageV : F := ofRat 4.2
  batteryFilteredVoltageV : F := ofRat 4.2
  batteryCurrentA : F := zero
  batteryCutoffActive : Bool := false
  batteryCutoffReason : Option BatteryCutoffReason := none
  batteryUndervoltageDurationS : F := zero
  powertrainCurrentLimited : Bool := false
  motors : Fin 4 → MotorState F := fun _ => {}
  deriving DecidableEq

/-- The arguments of `step`. -/
structure StepCall (F : Type) [PyPhysics F] where
  motorCommands : Fin 4 → F
  dt : F
  additionalCurrentA : F := zero
  actuatorHealthScales : Fin 4 → F := fun _ => ofRat 1

/-- `_cross`. -/
def cross (left right : Vector3 F) : Vector3 F :=
  ⟨left.y * right.z - left.z * right.y, left.z * right.x - left.x * right.z,
    left.x * right.y - left.y * right.x⟩

/-- `_wrap_angle`. -/
def wrapAngle (value : F) : F :=
  PyAngle.mod (value + PyAngle.pi) (ofRat 2 * PyAngle.pi) - PyAngle.pi

/-- A force on the body and the torque around its center of mass. -/
structure Wrench (F : Type) where
  force : Vector3 F
  torque : Vector3 F
  deriving DecidableEq, Repr

namespace SixDofPhysics

variable (config : PhysicsConfigData F) (state : PhysicsState F) (call : StepCall F)

def reset (positionM : Vector3 F) (yawRad batteryPercent initialRollRad initialPitchRad : F)
    (initialVelocityMS : Option (Vector3 F)) : Except PhysicsError (PhysicsState F) :=
  let soc := clamp (batteryPercent / ofRat 100) zero (ofRat 1)
  let voltage :=
    match config.powertrainModel with
    | .batteryCoupledV2 => openCircuitVoltage config.batteryOcvCurve soc
    | .legacyUncoupledV1 => some
      (config.batteryEmptyVoltageV + soc * (config.batteryFullVoltageV - config.batteryEmptyVoltageV))
  match voltage with
  | none => .error .index
  | some voltage => .ok
    { positionM := positionM
      velocityMS := initialVelocityMS.getD Vector3.zero
      attitude := .fromEuler initialRollRad initialPitchRad yawRad
      batteryStateOfCharge := soc
      batteryOpenCircuitVoltageV := voltage
      batteryVoltageV := voltage
      batteryFilteredVoltageV := voltage
      batteryCutoffActive := le soc zero
      batteryCutoffReason := if le soc zero then some .depleted else none }

def checkCall : Except PhysicsError Unit := do
  require (!(le call.dt zero || !isFinite call.dt))
    (.value "physics step must be finite and positive")
  require ((List.finRange 4).all fun index =>
      isFinite (call.actuatorHealthScales index) && ge (call.actuatorHealthScales index) zero &&
        atMost (call.actuatorHealthScales index) (ofRat 1))
    (.value "actuator health scales must be finite values from zero to one")

def selectedCommands (index : Fin 4) : F := clamp (call.motorCommands index) zero (ofRat 1)

/-! ## The coupled powertrain -/

def invalidCellState : Bool :=
  !(isFinite state.batteryStateOfCharge && isFinite state.batteryFilteredVoltageV)

def cutInvalidCell : PhysicsState F :=
  if invalidCellState state then
    { state with
      batteryCutoffActive := true
      batteryCutoffReason := some .invalidCellState
      batteryStateOfCharge := zero }
  else state

/-- The commands that reach the motors. -/
def coupledCommands (index : Fin 4) : F :=
  if (cutInvalidCell state).batteryCutoffActive then zero else selectedCommands call index

/-- What the step gives `solve_coupled_powertrain`. -/
def powertrainInputs : PowertrainInputs F where
  stateOfCharge := if invalidCellState state then zero else state.batteryStateOfCharge
  filteredSupplyVoltageV := if invalidCellState state then zero else state.batteryFilteredVoltageV
  motorCommands := coupledCommands state call
  additionalCurrentA := call.additionalCurrentA
  actuatorHealthScales := call.actuatorHealthScales

/-- One round of the loop over the motors; a motor nears its target thrust exponentially. -/
def coupledMotor (cutoffActive : Bool) (solution : PowertrainSolution F) (index : Fin 4) :
    MotorState F :=
  let motor := state.motors index
  let electrical := solution.motors index
  let timeConstant := config.motorTimeConstantS * config.motorTimeConstantScales index
  let alpha := ofRat 1 - PyPhysics.exp (neg call.dt / timeConstant)
  { command := coupledCommands state call index
    requestedThrustN := electrical.requestedThrustN
    appliedPwm := electrical.appliedPwm
    motorVoltageV := electrical.motorVoltageV
    availableThrustN := if cutoffActive then zero else electrical.availableThrustN
    currentA := electrical.currentA
    saturated := electrical.saturated
    healthScale := call.actuatorHealthScales index
    thrustN := motor.thrustN + (electrical.targetThrustN - motor.thrustN) * alpha }

def filteredVoltage (terminalVoltageV : F) : F :=
  let filterAlpha :=
    ofRat 1 - PyPhysics.exp (neg call.dt / config.batteryCompensationFilterTimeConstantS)
  if invalidCellState state then terminalVoltageV
  else state.batteryFilteredVoltageV + filterAlpha * (terminalVoltageV - state.batteryFilteredVoltageV)

/-- The state of charge after a current flowed for a step. -/
def discharged (soc currentA capacityAh dt : F) : F :=
  clamp (soc - currentA * dt / (capacityAh * ofRat 3600)) zero (ofRat 1)

/-- The chain of the cutoff reasons; the undervoltage duration is reset in the last branch only. -/
def updateCutoff (config : PhysicsConfigData F) (invalid : Bool) (terminalVoltageV dt : F)
    (state : PhysicsState F) : PhysicsState F :=
  if invalid then
    { state with batteryCutoffActive := true, batteryCutoffReason := some .invalidCellState }
  else if le state.batteryStateOfCharge zero then
    { state with batteryCutoffActive := true, batteryCutoffReason := some .depleted }
  else if lt terminalVoltageV config.batteryCutoffVoltageV then
    let duration := state.batteryUndervoltageDurationS + dt
    if le config.batteryCutoffPersistenceS duration then
      { state with
        batteryUndervoltageDurationS := duration
        batteryCutoffActive := true
        batteryCutoffReason := some .undervoltage }
    else { state with batteryUndervoltageDurationS := duration }
  else if state.batteryCutoffReason = some .undervoltage &&
      le (config.batteryCutoffVoltageV + config.batteryCutoffRecoveryHysteresisV) terminalVoltageV then
    { state with
      batteryUndervoltageDurationS := zero
      batteryCutoffActive := false
      batteryCutoffReason := none }
  else { state with batteryUndervoltageDurationS := zero }

/-- The coupled part of the step, with the solution of the powertrain. -/
def applySolution (solution : PowertrainSolution F) : PhysicsState F :=
  let cut := cutInvalidCell state
  updateCutoff config (invalidCellState state) solution.terminalVoltageV call.dt
    { cut with
      motors := coupledMotor config state call cut.batteryCutoffActive solution
      batteryOpenCircuitVoltageV := solution.openCircuitVoltageV
      batteryVoltageV := solution.terminalVoltageV
      batteryCurrentA := solution.totalCurrentA
      powertrainCurrentLimited := solution.currentLimited
      batteryFilteredVoltageV := filteredVoltage config state call solution.terminalVoltageV
      batteryStateOfCharge := discharged cut.batteryStateOfCharge solution.totalCurrentA
        config.effectiveBatteryCapacityAh call.dt }

def coupledPowertrain : PhysicsState F × Except PhysicsError Unit :=
  match solveCoupledPowertrain config.toCoupledPowertrainParameters (powertrainInputs state call) with
  | .error raised => (cutInvalidCell state, .error raised)
  | .ok solution => (applySolution config state call solution, .ok ())

/-! ## The uncoupled powertrain -/

def legacyMotor (index : Fin 4) : MotorState F :=
  let motor := state.motors index
  let command :=
    if le state.batteryVoltageV config.batteryCutoffVoltageV then zero else selectedCommands call index
  let alpha := ofRat 1 - PyPhysics.exp (neg call.dt / config.motorTimeConstantS)
  let healthScale := call.actuatorHealthScales index
  let requestedThrust := PyPhysics.powFloat command config.thrustCurveExponent * config.maxMotorThrustN
  let targetThrust := requestedThrust * healthScale
  let thrust := motor.thrustN + (targetThrust - motor.thrustN) * alpha
  { command := command
    requestedThrustN := requestedThrust
    appliedPwm := command
    motorVoltageV := command * state.batteryVoltageV
    availableThrustN := config.maxMotorThrustN * healthScale
    thrustN := thrust
    currentA := thrust / config.maxMotorThrustN * config.motorMaxCurrentA
    saturated := lt zero command && lt healthScale (ofRat 1)
    healthScale := healthScale }

def legacyPowertrain : PhysicsState F :=
  let motors := legacyMotor config state call
  let current := config.batteryIdleCurrentA + PyFloat.max zero call.additionalCurrentA +
    motorSum fun index => (motors index).currentA
  let soc := discharged state.batteryStateOfCharge current config.batteryCapacityAh call.dt
  let legacyOcv := config.batteryEmptyVoltageV +
    soc * (config.batteryFullVoltageV - config.batteryEmptyVoltageV)
  let voltage := PyFloat.max zero (legacyOcv - current * config.batteryInternalResistanceOhm)
  let cutoff := le voltage config.batteryCutoffVoltageV
  { state with
    motors := motors
    batteryCurrentA := current
    batteryStateOfCharge := soc
    batteryOpenCircuitVoltageV := legacyOcv
    batteryVoltageV := voltage
    batteryFilteredVoltageV := voltage
    batteryCutoffActive := cutoff
    batteryCutoffReason := if cutoff then some .undervoltage else none }

def powertrain : PhysicsState F × Except PhysicsError Unit :=
  match config.powertrainModel with
  | .batteryCoupledV2 => coupledPowertrain config state call
  | .legacyUncoupledV1 => (legacyPowertrain config state call, .ok ())

/-! ## The rigid body -/

def groundEffectMultiplier : F :=
  if lt zero config.groundEffectStrength && lt state.positionM.z config.groundEffectRangeM then
    let normalizedHeight := clamp (state.positionM.z / config.groundEffectRangeM) zero (ofRat 1)
    PyFloat.min config.groundEffectMaximumMultiplier
      (ofRat 1 + config.groundEffectStrength * pow (ofRat 1 - normalizedHeight) 2)
  else ofRat 1

/-- One round of the loop over the rotors. -/
def addRotor (thrustN : Fin 4 → F) (multiplier : F) (sum : Wrench F) (index : Fin 4) : Wrench F :=
  let position := config.rotorPositionsBodyM index
  let axis := config.rotorThrustAxesBody index
  let centerOfMass := config.combinedCenterOfMassBodyM
  let thrust := thrustN index * multiplier
  let rotorForce : Vector3 F := ⟨axis.x * thrust, axis.y * thrust, axis.z * thrust⟩
  let momentArm : Vector3 F :=
    ⟨position.x - centerOfMass.x, position.y - centerOfMass.y, position.z - centerOfMass.z⟩
  let forceMoment := cross momentArm rotorForce
  let reactionScale := config.rotorReactionTorqueSigns index * config.yawMomentPerThrustM * thrust
  { force := ⟨sum.force.x + rotorForce.x, sum.force.y + rotorForce.y, sum.force.z + rotorForce.z⟩
    torque :=
      ⟨sum.torque.x + forceMoment.x + axis.x * reactionScale,
        sum.torque.y + forceMoment.y + axis.y * reactionScale,
        sum.torque.z + forceMoment.z + axis.z * reactionScale⟩ }

/-- The force of the rotors and their torque around the center of mass. -/
def rotorWrench (thrustN : Fin 4 → F) (multiplier : F) : Wrench F :=
  (List.finRange 4).foldl (addRotor config thrustN multiplier) ⟨Vector3.zero, Vector3.zero⟩

def angularAcceleration (torque omega : Vector3 F) : Vector3 F :=
  let inertiaX := config.totalInertiaXKgM2
  let inertiaY := config.totalInertiaYKgM2
  let inertiaZ := config.totalInertiaZKgM2
  { x := (torque.x - (inertiaZ - inertiaY) * omega.y * omega.z - config.angularDragNMS * omega.x) /
      inertiaX
    y := (torque.y - (inertiaX - inertiaZ) * omega.z * omega.x - config.angularDragNMS * omega.y) /
      inertiaY
    z := (torque.z - (inertiaY - inertiaX) * omega.x * omega.y - config.angularDragNMS * omega.z) /
      inertiaZ }

def dragBody (velocityBody : Vector3 F) : Vector3 F :=
  let drag (linear quadratic velocity : F) : F :=
    neg config.linearDragNSM * linear * velocity - quadratic * PyFloat.abs velocity * velocity
  { x := drag config.linearDragBodyScale.x config.quadraticDragBodyNS2M2.x velocityBody.x
    y := drag config.linearDragBodyScale.y config.quadraticDragBodyNS2M2.y velocityBody.y
    z := drag config.linearDragBodyScale.z config.quadraticDragBodyNS2M2.z velocityBody.z }

/-- The motion of the body after the powertrain. -/
def move (dt : F) : PhysicsState F :=
  let wrench := rotorWrench config (fun index => (state.motors index).thrustN)
    (groundEffectMultiplier config state)
  let totalThrust := wrench.force.length
  let omega := state.angularVelocityBodyRadS
  let angular := angularAcceleration config wrench.torque omega
  let newOmega : Vector3 F :=
    ⟨omega.x + angular.x * dt, omega.y + angular.y * dt, omega.z + angular.z * dt⟩
  let attitude := state.attitude.integrate newOmega dt
  let thrustWorld := attitude.rotateBodyToWorld wrench.force
  let velocity := state.velocityMS
  let dragWorld := attitude.rotateBodyToWorld (dragBody config (attitude.rotateWorldToBody velocity))
  let acceleration : Vector3 F :=
    ⟨(thrustWorld.x + dragWorld.x) / config.totalMassKg,
      (thrustWorld.y + dragWorld.y) / config.totalMassKg,
      (thrustWorld.z + dragWorld.z) / config.totalMassKg - config.gravityMS2⟩
  let newVelocity : Vector3 F :=
    ⟨velocity.x + acceleration.x * dt, velocity.y + acceleration.y * dt,
      velocity.z + acceleration.z * dt⟩
  let newPosition : Vector3 F :=
    ⟨state.positionM.x + newVelocity.x * dt, state.positionM.y + newVelocity.y * dt,
      state.positionM.z + newVelocity.z * dt⟩
  let flown : PhysicsState F :=
    { state with
      positionM := newPosition
      velocityMS := newVelocity
      accelerationWorldMS2 := acceleration
      attitude := attitude
      angularVelocityBodyRadS := newOmega }
  if lt newPosition.z zero then
    -- On the ground; a vehicle with little thrust comes to rest upright.
    let rests := le totalThrust (config.totalMassKg * config.gravityMS2 * ofRat 0.5)
    { flown with
      positionM := { newPosition with z := zero }
      velocityMS := { newVelocity with z := PyFloat.max zero newVelocity.z }
      attitude := if rests then .fromYaw attitude.euler.yawRad else attitude
      angularVelocityBodyRadS := if rests then Vector3.zero else newOmega }
  else flown

def finiteState : Bool :=
  state.positionM.isFinite && state.velocityMS.isFinite && state.accelerationWorldMS2.isFinite &&
    isFinite state.attitude.w && isFinite state.attitude.x && isFinite state.attitude.y &&
    isFinite state.attitude.z && state.angularVelocityBodyRadS.isFinite &&
    isFinite state.batteryStateOfCharge && isFinite state.batteryOpenCircuitVoltageV &&
    isFinite state.batteryVoltageV && isFinite state.batteryFilteredVoltageV &&
    isFinite state.batteryCurrentA &&
    (List.finRange 4).all fun index =>
      let motor := state.motors index
      isFinite motor.command && isFinite motor.requestedThrustN && isFinite motor.appliedPwm &&
        isFinite motor.motorVoltageV && isFinite motor.thrustN && isFinite motor.availableThrustN &&
        isFinite motor.currentA

/-- A step that raises leaves the state as far as it came. -/
def step : PhysicsState F × Except PhysicsError Unit :=
  andThen (state, checkCall call) fun state _ =>
  andThen (powertrain config state call) fun state _ =>
    let moved := move config state call.dt
    (moved, require (finiteState moved) (.floatingPoint "6-DOF state became non-finite"))

/-! ## The controller -/

structure ControllerState (F : Type) where
  positionM : Vector3 F
  velocityMS : Vector3 F
  attitude : EulerAttitude F
  angularVelocityBodyRadS : Vector3 F
  deriving DecidableEq, Repr

structure ControlDemand (F : Type) where
  collective : F
  torqueX : F
  torqueY : F
  torqueZ : F
  deriving DecidableEq, Repr

/-- `nominal or configured`. -/
def nominalOr (nominal : Option F) (configured : F) : F :=
  match nominal with
  | some value => if eq value zero then configured else value
  | none => configured

/-- The first part of `motor_commands_for_control_state`. -/
def controlDemand (control : ControllerState F) (target : TrajectorySetpoint F)
    (nominalTotalMassKg : Option F) : ControlDemand F :=
  let desired (along : Vector3 F → F) (positionGain velocityGain limit : F) : F :=
    clamp
      (along target.accelerationMS2 + positionGain * (along target.positionM - along control.positionM) +
        velocityGain * (along target.velocityMS - along control.velocityMS)) (neg limit) limit
  let desiredX := desired Vector3.x (ofRat 3) (ofRat 2.4) (ofRat 4)
  let desiredY := desired Vector3.y (ofRat 3) (ofRat 2.4) (ofRat 4)
  let desiredZ := desired Vector3.z (ofRat 7) (ofRat 3.6) (ofRat 5)
  let verticalForce :=
    nominalOr nominalTotalMassKg config.totalMassKg * (config.gravityMS2 + desiredZ)
  let cosYaw := cos target.yawRad
  let sinYaw := sin target.yawRad
  let lift := PyFloat.max (ofRat 0.1) (config.gravityMS2 + desiredZ)
  let tilt (lateral : F) : F :=
    clamp (PyPhysics.atan2 lateral lift) (neg config.maximumTiltRad) config.maximumTiltRad
  let desiredRoll := tilt (desiredX * sinYaw - desiredY * cosYaw)
  let desiredPitch := tilt (desiredX * cosYaw + desiredY * sinYaw)
  let attitude := control.attitude
  let omega := control.angularVelocityBodyRadS
  let tiltCompensation :=
    PyFloat.max (ofRat 0.35) (cos attitude.rollRad * cos attitude.pitchRad)
  { collective := PyFloat.max zero (verticalForce / tiltCompensation)
    torqueX := ofRat 0.0030 * wrapAngle (desiredRoll - attitude.rollRad) - ofRat 0.00018 * omega.x
    torqueY := ofRat 0.0030 * wrapAngle (desiredPitch - attitude.pitchRad) - ofRat 0.00018 * omega.y
    torqueZ := ofRat 0.0012 * wrapAngle (target.yawRad - attitude.yawRad) +
      ofRat 0.00012 * (target.yawRateRadS - omega.z) }

def mixThrusts (demand : ControlDemand F) : Fin 4 → F :=
  let base := demand.collective / ofRat 4
  let yawDelta := demand.torqueZ / (ofRat 4 * config.yawMomentPerThrustM)
  match config.rotorLayout with
  | .x =>
    let projectedArm := config.armLengthM / sqrt (ofRat 2)
    let rollDelta := demand.torqueX / (ofRat 4 * projectedArm)
    let pitchDelta := demand.torqueY / (ofRat 4 * projectedArm)
    ![base - rollDelta - pitchDelta - yawDelta, base - rollDelta + pitchDelta + yawDelta,
      base + rollDelta + pitchDelta - yawDelta, base + rollDelta - pitchDelta + yawDelta]
  | .plusLegacy =>
    let rollDelta := demand.torqueX / (ofRat 2 * config.armLengthM)
    let pitchDelta := demand.torqueY / (ofRat 2 * config.armLengthM)
    ![base - pitchDelta + yawDelta, base + rollDelta - yawDelta, base + pitchDelta + yawDelta,
      base - rollDelta - yawDelta]

def motorCommandsForControlState (control : ControllerState F) (target : TrajectorySetpoint F)
    (nominalTotalMassKg nominalMaxMotorThrustN : Option F) (index : Fin 4) : F :=
  clamp
    (mixThrusts config (controlDemand config control target nominalTotalMassKg) index /
      nominalOr nominalMaxMotorThrustN config.maxMotorThrustN) zero (ofRat 1)

end SixDofPhysics

end CrazySwarm
