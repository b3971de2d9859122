import CrazySwarm.Powertrain
import CrazySwarm.Lib.Timelines

/-! The configuration of the flight physics: its defaults, its checks, and what an accepted one promises
of the powertrain. -/
namespace CrazySwarm
open scoped Numerals

inductive QualificationClass where
  | configuredUnqualified | measuredQualified
  deriving DecidableEq, Repr

inductive RotorLayout where
  | x | plusLegacy
  deriving DecidableEq, Repr

inductive Axis where
  | x | y | z
  deriving DecidableEq, Repr

/-- Where a set of parameters comes from. -/
structure ParameterProvenance where
  parameterNames : List String
  sourceId : String
  sourceUrl : String
  sourceVersion : String
  hardwareConfiguration : String
  qualification : QualificationClass := .configuredUnqualified
  deriving DecidableEq, Repr

/-- The field checks of the contract. -/
def ParameterProvenance.valid (source : ParameterProvenance) : Bool :=
  source.parameterNames ≠ [] && source.sourceId ≠ "" && source.sourceUrl ≠ "" &&
    source.sourceVersion ≠ "" && source.hardwareConfiguration ≠ ""

/-- `_default_parameter_provenance`. -/
def defaultParameterProvenance : List ParameterProvenance :=
  [{ parameterNames :=
      ["arm_length_m", "max_motor_thrust_n", "minimum_motor_thrust_n", "yaw_moment_per_thrust_m",
       "motor_voltage_thrust_curve", "rotor_positions_body_m", "rotor_reaction_torque_signs"]
     sourceId := "bitcraze-crazyflie-firmware"
     sourceUrl := "https://github.com/bitcraze/crazyflie-firmware/tree/2026.04"
     sourceVersion := "2026.04"
     hardwareConfiguration := "Crazyflie 2.1 with 2.1+ propellers" },
   { parameterNames := ["battery_ocv_curve"]
     sourceId := "bitcraze-lipo-typical-charge-curve"
     sourceUrl :=
      "https://github.com/bitcraze/crazyflie-firmware/blob/2026.04/src/hal/src/pm_stm32f4.c"
     sourceVersion := "2026.04"
     hardwareConfiguration := "Generic single-cell LiPo curve used by Crazyflie firmware" },
   { parameterNames :=
      ["gravity_m_s2", "mass_kg", "payload_mass_kg", "center_of_mass_body_m",
       "payload_position_body_m", "payload_inertia_x_kg_m2", "payload_inertia_y_kg_m2",
       "payload_inertia_z_kg_m2", "inertia_x_kg_m2", "inertia_y_kg_m2", "inertia_z_kg_m2",
       "motor_time_constant_s", "motor_time_constant_scales", "motor_thrust_scales",
       "motor_current_scales", "battery_capacity_ah", "battery_capacity_scale",
       "battery_temperature_capacity_scale", "battery_age_capacity_scale",
       "battery_internal_resistance_ohm", "battery_resistance_scale", "battery_idle_current_a",
       "battery_max_current_a", "motor_max_current_a", "linear_drag_n_s_m",
       "linear_drag_body_scale", "quadratic_drag_body_n_s2_m2", "angular_drag_n_m_s",
       "ground_effect_strength", "ground_effect_range_m", "ground_effect_maximum_multiplier",
       "battery_cutoff_voltage_v", "battery_cutoff_persistence_s",
       "battery_cutoff_recovery_hysteresis_v", "battery_compensation_enabled",
       "battery_compensation_filter_time_constant_s", "battery_compensation_minimum_voltage_v"]
     sourceId := "crazyswarm-fast-sim-configured-baseline"
     sourceUrl := "repo://docs/archive/planning-sources/FAST_SIM_PHYSICAL_FIDELITY_WP.txt"
     sourceVersion := "FAST-SIM-PHYS-WP-00"
     hardwareConfiguration := "Project reference Crazyflie with Flow-class payload" }]

section Model
open PyFloat PyMath

variable {F : Type} [PyPhysics F]

/-- `_crazyflie_x_rotor_positions`. -/
def crazyflieXRotorPositions : Fin 4 → Vector3 F :=
  let armProjection : F := ofRat 0.046 / sqrt (ofRat 2)
  ![⟨armProjection, neg armProjection, zero⟩, ⟨neg armProjection, neg armProjection, zero⟩,
    ⟨neg armProjection, armProjection, zero⟩, ⟨armProjection, armProjection, zero⟩]

def upwardRotorAxes : Fin 4 → Vector3 F := fun _ => ⟨zero, zero, ofRat 1⟩

/-- `_crazyflie_21_plus_ocv_curve`. -/
def crazyflie21PlusOcvCurve : List (BatteryCurvePoint F) :=
  [(0, 3.00), (10, 3.78), (20, 3.83), (30, 3.87), (40, 3.89), (50, 3.92), (60, 3.96), (70, 4.00),
   (80, 4.04), (90, 4.10), (100, 4.20)].map fun (percent, voltage) =>
    ⟨ofRat percent / ofRat 100, ofRat voltage⟩

/-- `_crazyflie_21_plus_thrust_curve`. -/
def crazyflie21PlusThrustCurve : MotorVoltageThrustCurve F where
  coefficient0N := ofRat (-0.02476537915958403)
  coefficient1NV := ofRat 0.06523793527519485
  coefficient2NV2 := ofRat (-0.026792504967750107)
  coefficient3NV3 := ofRat 0.006776789303971145
  maximumVoltageV := ofRat 4.2

/-- The fields of `PhysicsModelConfig`, with their defaults. -/
structure PhysicsConfigData (F : Type) [PyPhysics F] extends CoupledPowertrainParameters F where
  maxMotorThrustN := ofRat 0.12
  minimumMotorThrustN := ofRat 0.012817578393224994
  batteryInternalResistanceOhm := ofRat 0.075
  batteryIdleCurrentA := ofRat 0.08
  batteryMaxCurrentA := ofRat 3.75
  motorMaxCurrentA := ofRat 1.2
  batteryResistanceScale := ofRat 1
  batteryCompensationEnabled := true
  batteryCompensationMinimumVoltageV := ofRat 2
  batteryOcvCurve := crazyflie21PlusOcvCurve
  motorVoltageThrustCurve := crazyflie21PlusThrustCurve
  motorThrustScales := fun _ => ofRat 1
  motorCurrentScales := fun _ => ofRat 1
  modelVersion : String := "2.0.0"
  parameterSource : QualificationClass := .configuredUnqualified
  powertrainModel : PowertrainModel := .batteryCoupledV2
  rotorLayout : RotorLayout := .x
  parameterProvenance : List ParameterProvenance := defaultParameterProvenance
  gravityMS2 : F := ofRat 9.80665
  massKg : F := ofRat 0.032
  payloadMassKg : F := zero
  centerOfMassBodyM : Vector3 F := Vector3.zero
  payloadPositionBodyM : Vector3 F := Vector3.zero
  payloadInertiaXKgM2 : F := zero
  payloadInertiaYKgM2 : F := zero
  payloadInertiaZKgM2 : F := zero
  inertiaXKgM2 : F := ofRat 1.43e-5
  inertiaYKgM2 : F := ofRat 1.43e-5
  inertiaZKgM2 : F := ofRat 2.89e-5
  armLengthM : F := ofRat 0.046
  rotorPositionsBodyM : Fin 4 → Vector3 F := crazyflieXRotorPositions
  rotorThrustAxesBody : Fin 4 → Vector3 F := upwardRotorAxes
  rotorReactionTorqueSigns : Fin 4 → F := ![ofRat (-1), ofRat 1, ofRat (-1), ofRat 1]
  thrustCurveExponent : F := ofRat 1
  motorTimeConstantS : F := ofRat 0.035
  motorTimeConstantScales : Fin 4 → F := fun _ => ofRat 1
  yawMomentPerThrustM : F := ofRat 0.0069928948992470565
  linearDragNSM : F := ofRat 0.018
  linearDragBodyScale : Vector3 F := ⟨ofRat 1, ofRat 1, ofRat 1⟩
  quadraticDragBodyNS2M2 : Vector3 F := Vector3.zero
  angularDragNMS : F := ofRat 2.5e-5
  groundEffectStrength : F := zero
  groundEffectRangeM : F := ofRat 0.12
  groundEffectMaximumMultiplier : F := ofRat 1.25
  batteryCapacityAh : F := ofRat 0.25
  batteryCapacityScale : F := ofRat 1
  batteryTemperatureCapacityScale : F := ofRat 1
  batteryAgeCapacityScale : F := ofRat 1
  batteryFullVoltageV : F := ofRat 4.2
  batteryEmptyVoltageV : F := ofRat 3
  batteryCutoffVoltageV : F := ofRat 3
  batteryCutoffPersistenceS : F := ofRat 0.1
  batteryCutoffRecoveryHysteresisV : F := ofRat 0.1
  batteryCompensationFilterTimeConstantS : F := ofRat 0.2
  maximumTiltRad : F := ofRat 0.55

namespace PhysicsConfigData

variable (config : PhysicsConfigData F)

def totalMassKg : F := config.massKg + config.payloadMassKg

def combinedCenterOfMassBodyM : Vector3 F :=
  let total := config.totalMassKg
  let along (axis : Vector3 F → F) : F :=
    (config.massKg * axis config.centerOfMassBodyM +
      config.payloadMassKg * axis config.payloadPositionBodyM) / total
  ⟨along Vector3.x, along Vector3.y, along Vector3.z⟩

/-- `_parallel_axis_inertia`. -/
def parallelAxisInertia (axis : Axis) : F :=
  let combined := config.combinedCenterOfMassBodyM
  let offset (center : Vector3 F) : Vector3 F :=
    ⟨center.x - combined.x, center.y - combined.y, center.z - combined.z⟩
  let distanceSquared (offset : Vector3 F) : F :=
    match axis with
    | .x => pow offset.y 2 + pow offset.z 2
    | .y => pow offset.x 2 + pow offset.z 2
    | .z => pow offset.x 2 + pow offset.y 2
  let (baseInertia, payloadInertia) :=
    match axis with
    | .x => (config.inertiaXKgM2, config.payloadInertiaXKgM2)
    | .y => (config.inertiaYKgM2, config.payloadInertiaYKgM2)
    | .z => (config.inertiaZKgM2, config.payloadInertiaZKgM2)
  baseInertia + config.massKg * distanceSquared (offset config.centerOfMassBodyM) + payloadInertia +
    config.payloadMassKg * distanceSquared (offset config.payloadPositionBodyM)

def totalInertiaXKgM2 : F := config.parallelAxisInertia .x
def totalInertiaYKgM2 : F := config.parallelAxisInertia .y
def totalInertiaZKgM2 : F := config.parallelAxisInertia .z

def effectiveBatteryCapacityAh : F :=
  config.batteryCapacityAh * config.batteryCapacityScale * config.batteryTemperatureCapacityScale *
    config.batteryAgeCapacityScale

/-- `legacy_v1`. -/
def legacyV1 : PhysicsConfigData F :=
  let arm : F := ofRat 0.046
  { modelVersion := "1.0.0"
    powertrainModel := .legacyUncoupledV1
    rotorLayout := .plusLegacy
    rotorPositionsBodyM :=
      ![⟨arm, zero, zero⟩, ⟨zero, arm, zero⟩, ⟨neg arm, zero, zero⟩, ⟨zero, neg arm, zero⟩]
    rotorReactionTorqueSigns := ![ofRat 1, ofRat (-1), ofRat 1, ofRat (-1)]
    maxMotorThrustN := ofRat 0.15
    minimumMotorThrustN := zero
    yawMomentPerThrustM := ofRat 0.006
    batteryEmptyVoltageV := ofRat 3.2
    batteryCompensationEnabled := false }

/-- More than zero and at most one. -/
def fraction (value : F) : Bool := gt value zero && atMost value (ofRat 1)

/-- The field checks of the contract, and those of the models in it. -/
def fieldChecks : List (String × Bool) :=
  [("parameter_provenance", config.parameterProvenance.all ParameterProvenance.valid),
   ("gravity_m_s2", gt config.gravityMS2 zero),
   ("mass_kg", gt config.massKg zero),
   ("payload_mass_kg", ge config.payloadMassKg zero),
   ("payload_inertia_x_kg_m2", ge config.payloadInertiaXKgM2 zero),
   ("payload_inertia_y_kg_m2", ge config.payloadInertiaYKgM2 zero),
   ("payload_inertia_z_kg_m2", ge config.payloadInertiaZKgM2 zero),
   ("inertia_x_kg_m2", gt config.inertiaXKgM2 zero),
   ("inertia_y_kg_m2", gt config.inertiaYKgM2 zero),
   ("inertia_z_kg_m2", gt config.inertiaZKgM2 zero),
   ("arm_length_m", gt config.armLengthM zero),
   ("max_motor_thrust_n", gt config.maxMotorThrustN zero),
   ("minimum_motor_thrust_n", ge config.minimumMotorThrustN zero),
   ("thrust_curve_exponent", gt config.thrustCurveExponent zero),
   ("motor_time_constant_s", gt config.motorTimeConstantS zero),
   ("yaw_moment_per_thrust_m", gt config.yawMomentPerThrustM zero),
   ("linear_drag_n_s_m", ge config.linearDragNSM zero),
   ("angular_drag_n_m_s", ge config.angularDragNMS zero),
   ("ground_effect_strength", ge config.groundEffectStrength zero),
   ("ground_effect_range_m", gt config.groundEffectRangeM zero),
   ("ground_effect_maximum_multiplier", ge config.groundEffectMaximumMultiplier (ofRat 1)),
   ("battery_capacity_ah", gt config.batteryCapacityAh zero),
   ("battery_capacity_scale", fraction config.batteryCapacityScale),
   ("battery_temperature_capacity_scale", fraction config.batteryTemperatureCapacityScale),
   ("battery_age_capacity_scale", fraction config.batteryAgeCapacityScale),
   ("battery_full_voltage_v", gt config.batteryFullVoltageV zero),
   ("battery_empty_voltage_v", gt config.batteryEmptyVoltageV zero),
   ("battery_ocv_curve", config.batteryOcvCurve.all BatteryCurvePoint.valid),
   ("battery_cutoff_voltage_v", gt config.batteryCutoffVoltageV zero),
   ("battery_cutoff_persistence_s", ge config.batteryCutoffPersistenceS zero),
   ("battery_cutoff_recovery_hysteresis_v", ge config.batteryCutoffRecoveryHysteresisV zero),
   ("battery_internal_resistance_ohm", ge config.batteryInternalResistanceOhm zero),
   ("battery_resistance_scale", gt config.batteryResistanceScale zero),
   ("battery_idle_current_a", ge config.batteryIdleCurrentA zero),
   ("battery_max_current_a", gt config.batteryMaxCurrentA zero),
   ("battery_compensation_filter_time_constant_s",
    gt config.batteryCompensationFilterTimeConstantS zero),
   ("battery_compensation_minimum_voltage_v", gt config.batteryCompensationMinimumVoltageV zero),
   ("motor_max_current_a", gt config.motorMaxCurrentA zero),
   ("maximum_tilt_rad",
    gt config.maximumTiltRad zero && !le (PyAngle.pi / ofRat 2) config.maximumTiltRad)]

def sameBy (left right : Vector3 F) : Bool :=
  eq left.x right.x && eq left.y right.y && eq left.z right.z

/-- Each model has its own lineage and rotor layout. -/
def validateLineage : Except (Fault F) Unit :=
  match config.powertrainModel with
  | .batteryCoupledV2 =>
    require ("2.0.0".toList.isPrefixOf config.modelVersion.toList && config.rotorLayout = .x)
      (.value "coupled v2 powertrain requires model 2.0.0 lineage and X layout")
  | .legacyUncoupledV1 =>
    require (config.modelVersion = "1.0.0" && config.rotorLayout = .plusLegacy)
      (.value "legacy v1 powertrain requires model 1.0.0 and plus layout")

def validateMotorScales : Except (Fault F) Unit := do
  require ((List.finRange 4).all fun index => ge (config.motorThrustScales index) zero)
    (.value "motor thrust scales cannot contain negative values")
  require ((List.finRange 4).all fun index => ge (config.motorCurrentScales index) zero)
    (.value "motor current scales cannot contain negative values")
  require ((List.finRange 4).all fun index => gt (config.motorTimeConstantScales index) zero)
    (.value "motor time-constant scales must be positive")

def validateInertia : Except (Fault F) Unit := do
  let x := config.totalInertiaXKgM2
  let y := config.totalInertiaYKgM2
  let z := config.totalInertiaZKgM2
  require ([x, y, z].all fun value => isFinite value && gt value zero)
    (.value "combined inertia must be finite and positive definite")
  let largestInertia := PyFloat.max (PyFloat.max x y) z
  let otherInertia := zero + x + y + z - largestInertia
  require (!lt (otherInertia * ofRat 1.02) largestInertia)
    (.value "combined inertia violates the rigid-body triangle inequality")

def validateDrag : Except (Fault F) Unit := do
  [("x", config.linearDragBodyScale.x), ("y", config.linearDragBodyScale.y),
    ("z", config.linearDragBodyScale.z)].forM fun (name, value) =>
    require (ge value zero) (.value ("linear drag body scale " ++ name ++ " cannot be negative"))
  [("x", config.quadraticDragBodyNS2M2.x), ("y", config.quadraticDragBodyNS2M2.y),
    ("z", config.quadraticDragBodyNS2M2.z)].forM fun (name, value) =>
    require (ge value zero) (.value ("quadratic body drag " ++ name ++ " cannot be negative"))

def validateRotors : Except (Fault F) Unit := do
  (List.finRange 4).forM fun index =>
    require (isClose (config.rotorThrustAxesBody index).length (ofRat 1) (ofRat 1e-9))
      (.value ("rotor M" ++ toString (index.val + 1) ++ " thrust axis must be a unit vector"))
  require ((List.finRange 4).all fun first => (List.finRange 4).all fun second =>
      first == second || !sameBy (config.rotorPositionsBodyM first) (config.rotorPositionsBodyM second))
    (.value "rotor positions must be unique")
  require ((List.finRange 4).all fun index =>
      eq (config.rotorReactionTorqueSigns index) (ofRat (-1)) ||
        eq (config.rotorReactionTorqueSigns index) (ofRat 1))
    (.value "rotor reaction torque signs must be exactly -1 or +1")

def validateProvenance : Except (Fault F) Unit := do
  let covered := config.parameterProvenance.flatMap ParameterProvenance.parameterNames
  require ((defaultParameterProvenance.flatMap ParameterProvenance.parameterNames).all
      covered.contains)
    (.value "executable v2 physical coefficients require provenance")
  require (decide covered.Nodup) (.value "physical parameter provenance cannot overlap")
  require (config.parameterSource ≠ .measuredQualified ||
      config.parameterProvenance.all fun source => source.qualification = .measuredQualified)
    (.value "measured-qualified parameter sets require qualified provenance")

/-- `validate_thrust_and_voltage`. -/
def validateThrustAndVoltage : Except (Fault F) Unit := do
  require (!le (ofRat 4 * config.maxMotorThrustN) (config.totalMassKg * config.gravityMS2))
    (.value "configured motors cannot produce hover thrust")
  require (!le config.batteryFullVoltageV config.batteryEmptyVoltageV)
    (.value "battery empty voltage must be below full voltage")
  require (!le config.batteryFullVoltageV config.batteryCutoffVoltageV)
    (.value "battery cutoff voltage must be below full voltage")
  validateOcvCurve config.batteryOcvCurve
  config.validateLineage
  require (!le config.maxMotorThrustN config.minimumMotorThrustN)
    (.value "minimum motor thrust must be below maximum motor thrust")
  config.validateMotorScales
  config.validateInertia
  config.validateDrag
  config.validateRotors
  config.validateProvenance

/-- Validation of a whole configuration, the thrust curve in it first. -/
def validate : Except (Fault F) Unit := do
  config.motorVoltageThrustCurve.validate
  validated "PhysicsModelConfig" config.fieldChecks ()
  config.validateThrustAndVoltage

end PhysicsConfigData

structure PhysicsModelConfig (F : Type) [PyPhysics F] extends PhysicsConfigData F where
  valid : toPhysicsConfigData.validate = .ok ()

end Model

section Exact

variable {F : Type} [Field F] [LinearOrder F] [IsStrictOrderedRing F] [PyMath F] [Exact F]

structure OcvCurve (curve : List (BatteryCurvePoint F)) : Prop where
  rising : curve.IsChain fun lower upper =>
    lower.stateOfCharge < upper.stateOfCharge ∧ lower.voltageV ≤ upper.voltageV
  positive : ∃ first ∈ curve.head?, 0 < first.voltageV

structure PowertrainBounds (config : CoupledPowertrainParameters F) : Prop where
  maxMotorThrust : 0 < config.maxMotorThrustN
  resistance : 0 ≤ config.resistance
  idleCurrent : 0 ≤ config.batteryIdleCurrentA
  maxCurrent : 0 < config.batteryMaxCurrentA
  motorMaxCurrent : 0 < config.motorMaxCurrentA
  thrustScale : ∀ index, 0 ≤ config.motorThrustScales index
  currentScale : ∀ index, 0 ≤ config.motorCurrentScales index
  ocvCurve : OcvCurve config.batteryOcvCurve

theorem ocvCurve_of_valid {curve : List (BatteryCurvePoint F)} (valid : validateOcvCurve curve = .ok ())
    (points : ∀ point ∈ curve, 0 < point.voltageV) : OcvCurve curve := by
  unfold validateOcvCurve at valid
  obtain ⟨_, long, valid⟩ := bind_eq_ok.mp valid
  obtain ⟨_, covers, pairs⟩ := bind_eq_ok.mp valid
  rw [require_eq_ok, decide_eq_true_eq] at long
  rw [forM_eq_ok] at pairs
  have rises : (curve.zip curve.tail).all (fun pair =>
      decide (pair.1.stateOfCharge < pair.2.stateOfCharge ∧ pair.1.voltageV ≤ pair.2.voltageV)) = true := by
    rw [List.all_eq_true]
    intro pair among
    obtain ⟨_, increasing, voltage⟩ := bind_eq_ok.mp (pairs pair among)
    rw [require_eq_ok] at increasing voltage
    exact decide_eq_true ⟨by simpa using increasing, by simpa using voltage⟩
  constructor
  · exact (all_zip_tail_iff.mp rises).imp fun _ _ each => of_decide_eq_true each
  · cases curve with
    | nil => simp at long
    | cons first rest => exact ⟨first, rfl, points first List.mem_cons_self⟩

theorem interpolateVoltage_ge {soc : F} {first : BatteryCurvePoint F}
    {rest : List (BatteryCurvePoint F)}
    (rising : (first :: rest).IsChain fun lower upper =>
      lower.stateOfCharge < upper.stateOfCharge ∧ lower.voltageV ≤ upper.voltageV)
    (past : first.stateOfCharge < soc) :
    ∃ voltage, interpolateVoltage soc (first :: rest) = some voltage ∧ first.voltageV ≤ voltage := by
  induction rest generalizing first with
  | nil => exact ⟨first.voltageV, rfl, le_rfl⟩
  | cons upper rest ih =>
    obtain ⟨⟨increasing, voltage⟩, rising⟩ := List.isChain_cons_cons.mp rising
    rw [interpolateVoltage]
    by_cases within : soc ≤ upper.stateOfCharge
    · rw [if_pos (Exact.le_true.mpr within)]
      refine ⟨_, rfl, ?_⟩
      simp only [Exact.plus, Exact.times, Exact.minus, Exact.over_eq]
      have share : 0 ≤ (soc - first.stateOfCharge) / (upper.stateOfCharge - first.stateOfCharge) :=
        div_nonneg (sub_nonneg.mpr past.le) (sub_nonneg.mpr increasing.le)
      exact le_add_of_nonneg_right (mul_nonneg share (sub_nonneg.mpr voltage))
    · rw [if_neg (by simpa using within)]
      obtain ⟨found, same, above⟩ := ih rising (not_le.mp within)
      exact ⟨found, same, voltage.trans above⟩

theorem OcvCurve.exists_pos {curve : List (BatteryCurvePoint F)} (valid : OcvCurve curve)
    (stateOfCharge : F) : ∃ ocv, openCircuitVoltage curve stateOfCharge = some ocv ∧ 0 < ocv := by
  obtain ⟨rising, first, head, positive⟩ := valid
  cases curve with
  | nil => cases head
  | cons start rest =>
    cases head
    simp only [openCircuitVoltage]
    split
    case isTrue => exact ⟨_, rfl, positive⟩
    case isFalse past =>
      obtain ⟨found, same, above⟩ := interpolateVoltage_ge rising
        (Exact.le_false.mp (Bool.eq_false_of_not_eq_true past))
      exact ⟨found, same, positive.trans_le above⟩

end Exact

section Admitted

variable {F : Type} [Field F] [LinearOrder F] [IsStrictOrderedRing F] [PyPhysics F] [Exact F]

/-- What the checks of a configuration promise. -/
structure Admitted (config : PhysicsConfigData F) : Prop where
  powertrain : PowertrainBounds config.toCoupledPowertrainParameters
  totalMass : 0 < config.totalMassKg
  armLength : 0 < config.armLengthM
  yawMoment : 0 < config.yawMomentPerThrustM
  timeConstant : ∀ index, 0 < config.motorTimeConstantS * config.motorTimeConstantScales index
  filterTimeConstant : 0 < config.batteryCompensationFilterTimeConstantS
  capacity : 0 < config.effectiveBatteryCapacityAh

theorem PhysicsModelConfig.admitted (config : PhysicsModelConfig F) :
    Admitted config.toPhysicsConfigData := by
  obtain ⟨config, valid⟩ := config
  obtain ⟨_, _, valid⟩ := bind_eq_ok.mp valid
  obtain ⟨_, checks, valid⟩ := bind_eq_ok.mp valid
  obtain ⟨_, _, valid⟩ := bind_eq_ok.mp valid
  obtain ⟨_, _, valid⟩ := bind_eq_ok.mp valid
  obtain ⟨_, _, valid⟩ := bind_eq_ok.mp valid
  obtain ⟨_, ocv, valid⟩ := bind_eq_ok.mp valid
  obtain ⟨_, _, valid⟩ := bind_eq_ok.mp valid
  obtain ⟨_, _, valid⟩ := bind_eq_ok.mp valid
  obtain ⟨_, scales, _⟩ := bind_eq_ok.mp valid
  obtain ⟨_, thrust, scales⟩ := bind_eq_ok.mp scales
  obtain ⟨_, current, time⟩ := bind_eq_ok.mp scales
  simp only [require_eq_ok, List.all_eq_true, List.mem_finRange, forall_const, Exact.ge_true,
    Exact.gt_true, Exact.zero_eq] at thrust current time
  have each := (validated_eq_ok.mp checks).1
  simp only [PhysicsConfigData.fieldChecks, List.forall_mem_cons, Exact.gt_true, Exact.ge_true,
    Exact.zero_eq, PhysicsConfigData.fraction, Bool.and_eq_true, List.all_eq_true] at each
  obtain ⟨_, _, mass, payload, _, _, _, _, _, _, arm, maxThrust, _, _, timeConstant, yaw, _, _, _, _, _,
    capacity, ⟨scale, _⟩, ⟨temperature, _⟩, ⟨age, _⟩, _, _, points, _, _, _, ohm, ohmScale, idle,
    maxCurrent, filter, _, motorCurrent, _⟩ := each
  have positive : ∀ point ∈ config.batteryOcvCurve, 0 < point.voltageV := by
    intro point among
    have valid := points point among
    rw [BatteryCurvePoint.valid, Bool.and_eq_true, Exact.gt_true, Exact.zero_eq] at valid
    exact valid.2
  refine ⟨⟨maxThrust, ?_, idle, maxCurrent, motorCurrent, thrust, current, ocvCurve_of_valid ocv positive⟩,
    ?_, arm, yaw, fun index => mul_pos timeConstant (time index), filter, ?_⟩
  · rw [CoupledPowertrainParameters.resistance, Exact.times]
    exact mul_nonneg ohm ohmScale.le
  · rw [PhysicsConfigData.totalMassKg, Exact.plus]
    exact add_pos_of_pos_of_nonneg mass payload
  · simp only [PhysicsConfigData.effectiveBatteryCapacityAh, Exact.times]
    exact mul_pos (mul_pos (mul_pos capacity scale) temperature) age

end Admitted

/-! ## The defaults -/

section Defaults

theorem andAlso_eq_ok {ε α : Type} {check : Except ε Unit} {next : Except ε α} {result : α} :
    (check >>= fun _ => next) = .ok result ↔ check = .ok () ∧ next = .ok result := by
  rw [bind_eq_ok, Unique.exists_iff]

theorem defaultNames_nodup :
    (defaultParameterProvenance.flatMap ParameterProvenance.parameterNames).Nodup := by
  decide

variable {F : Type} [Field F]

def RotorLayout.signs : RotorLayout → Fin 4 → F
  | .x => ![-1, 1, -1, 1]
  | .plusLegacy => ![1, -1, 1, -1]

theorem RotorLayout.signs_unit (layout : RotorLayout) (index : Fin 4) :
    (layout.signs index : F) = -1 ∨ (layout.signs index : F) = 1 := by
  cases layout <;> fin_cases index <;> simp [RotorLayout.signs]

variable [PyPhysics F]

def RotorLayout.positions (layout : RotorLayout) (armLength : F) : Fin 4 → Vector3 F :=
  match layout with
  | .x =>
    let projected := armLength / PyFloat.sqrt 2
    ![⟨projected, -projected, 0⟩, ⟨-projected, -projected, 0⟩, ⟨-projected, projected, 0⟩,
      ⟨projected, projected, 0⟩]
  | .plusLegacy => ![⟨armLength, 0, 0⟩, ⟨0, armLength, 0⟩, ⟨-armLength, 0, 0⟩, ⟨0, -armLength, 0⟩]

structure LaidOut (config : PhysicsConfigData F) : Prop where
  positions : config.rotorPositionsBodyM = config.rotorLayout.positions config.armLengthM
  signs : config.rotorReactionTorqueSigns = config.rotorLayout.signs
  axes : ∀ index, config.rotorThrustAxesBody index = ⟨0, 0, 1⟩
  centered : config.combinedCenterOfMassBodyM = ⟨0, 0, 0⟩

namespace PhysicsConfigData

omit [Field F] in
theorem default_provenance_valid : ({} : PhysicsConfigData F).validateProvenance = .ok () := by
  simp only [validateProvenance, andAlso_eq_ok, require_eq_ok]
  exact ⟨List.all_eq_true.mpr fun name among => List.contains_iff_mem.mpr among,
    decide_eq_true defaultNames_nodup, rfl⟩

variable [LinearOrder F] [IsStrictOrderedRing F] [Exact F]

theorem default_curve_valid :
    (crazyflie21PlusThrustCurve : MotorVoltageThrustCurve F).validate = .ok () := by
  simp only [MotorVoltageThrustCurve.validate, bind_eq_ok, validated_eq_ok, require_eq_ok]
  simp [crazyflie21PlusThrustCurve]
  norm_num

theorem default_ocvCurve_valid :
    validateOcvCurve (crazyflie21PlusOcvCurve : List (BatteryCurvePoint F)) = .ok () := by
  simp only [validateOcvCurve, bind_eq_ok, crazyflie21PlusOcvCurve, List.map_cons, List.map_nil,
    List.tail_cons, List.zip_cons_cons, List.zip_nil_right, forM_eq_ok, List.forall_mem_cons,
    require_eq_ok]
  simp
  norm_num

theorem default_inertia_valid : ({} : PhysicsConfigData F).validateInertia = .ok () := by
  simp only [validateInertia, andAlso_eq_ok, require_eq_ok, totalInertiaXKgM2, totalInertiaYKgM2,
    totalInertiaZKgM2, parallelAxisInertia, combinedCenterOfMassBodyM]
  simp [Exact.pow_eq, Vector3.zero]
  norm_num

theorem default_drag_valid : ({} : PhysicsConfigData F).validateDrag = .ok () := by
  simp [validateDrag, bind_eq_ok, Vector3.zero]

theorem default_motorScales_valid : ({} : PhysicsConfigData F).validateMotorScales = .ok () := by
  simp [validateMotorScales, bind_eq_ok]

theorem default_laidOut : LaidOut ({} : PhysicsConfigData F) := by
  constructor
  · simp [RotorLayout.positions, crazyflieXRotorPositions, PyFloat.neg]
  · simp [RotorLayout.signs]
  · simp [upwardRotorAxes]
  · simp [combinedCenterOfMassBodyM, Vector3.zero]

theorem legacyV1_laidOut : LaidOut (legacyV1 : PhysicsConfigData F) := by
  constructor
  · simp [legacyV1, RotorLayout.positions, PyFloat.neg]
  · simp [legacyV1, RotorLayout.signs]
  · simp [legacyV1, upwardRotorAxes]
  · simp [legacyV1, combinedCenterOfMassBodyM, Vector3.zero]

end PhysicsConfigData

variable [LinearOrder F] [IsStrictOrderedRing F] [ExactPhysics F]

theorem RotorLayout.positions_apart (layout : RotorLayout) {armLength : F} (arm : 0 < armLength)
    {first second : Fin 4} (different : first ≠ second) :
    layout.positions armLength first ≠ layout.positions armLength second := by
  have opposite {length : F} (positive : 0 < length) : length ≠ -length := by
    intro same
    linarith
  have projected := opposite (div_pos arm (ExactPhysics.sqrt_pos two_pos))
  have whole := opposite arm
  cases layout <;> fin_cases first <;> fin_cases second <;>
    simp [RotorLayout.positions, arm.ne', whole, whole.symm, projected, projected.symm] at different ⊢

namespace PhysicsConfigData

variable [Exact F]

theorem validateRotors_of_laidOut {config : PhysicsConfigData F} (laidOut : LaidOut config)
    (arm : 0 < config.armLengthM) : config.validateRotors = .ok () := by
  simp only [validateRotors, andAlso_eq_ok, forM_eq_ok, require_eq_ok, List.all_eq_true,
    List.mem_finRange, forall_const, laidOut.axes, laidOut.positions, laidOut.signs]
  refine ⟨?_, fun first second => ?_, fun index => ?_⟩
  · simp [Vector3.length, Exact.pow_eq, ExactPhysics.sqrt_one, PyFloat.isClose]
  · rw [Bool.or_eq_true, beq_iff_eq]
    rcases eq_or_ne first second with same | different
    · exact .inl same
    · have apart := config.rotorLayout.positions_apart arm different
      refine .inr ?_
      rw [Bool.not_eq_true']
      by_contra same
      simp only [sameBy, Bool.not_eq_false, Bool.and_eq_true, Exact.eq_true] at same
      exact apart (by rw [Vector3.mk.injEq]; exact ⟨same.1.1, same.1.2, same.2⟩)
  · rw [Bool.or_eq_true, Exact.eq_true, Exact.eq_true]
    simpa using config.rotorLayout.signs_unit index

theorem default_valid : ({} : PhysicsConfigData F).validate = .ok () := by
  have circle : 3 < (PyAngle.pi : F) := ExactPhysics.pi_gt_three
  simp only [validate, validateThrustAndVoltage, andAlso_eq_ok, require_eq_ok, validated_eq_ok,
    and_true]
  refine ⟨default_curve_valid, ?checks, ?hover, ?empty, ?cutoff, default_ocvCurve_valid, ?lineage,
    ?minimum, default_motorScales_valid, default_inertia_valid, default_drag_valid,
    validateRotors_of_laidOut default_laidOut ?arm, default_provenance_valid⟩
  case checks =>
    simp only [fieldChecks, List.forall_mem_cons]
    simp [fraction, crazyflie21PlusOcvCurve, BatteryCurvePoint.valid, defaultParameterProvenance,
      ParameterProvenance.valid]
    norm_num
    linarith
  case hover =>
    simp [totalMassKg]
    norm_num
  case lineage => simp [validateLineage]
  all_goals
    simp
    norm_num

theorem legacyV1_valid : (legacyV1 : PhysicsConfigData F).validate = .ok () := by
  have circle : 3 < (PyAngle.pi : F) := ExactPhysics.pi_gt_three
  simp only [validate, validateThrustAndVoltage, andAlso_eq_ok, require_eq_ok, validated_eq_ok,
    and_true]
  refine ⟨default_curve_valid, ?checks, ?hover, ?empty, ?cutoff, default_ocvCurve_valid, ?lineage,
    ?minimum, default_motorScales_valid, default_inertia_valid, default_drag_valid,
    validateRotors_of_laidOut legacyV1_laidOut ?arm, default_provenance_valid⟩
  case checks =>
    simp only [fieldChecks, legacyV1, List.forall_mem_cons]
    simp [fraction, crazyflie21PlusOcvCurve, BatteryCurvePoint.valid, defaultParameterProvenance,
      ParameterProvenance.valid]
    norm_num
    linarith
  case hover =>
    simp [totalMassKg, legacyV1]
    norm_num
  case lineage => simp [validateLineage, legacyV1]
  all_goals
    simp [legacyV1]
    norm_num

end PhysicsConfigData

/-- `PhysicsModelConfig()`. -/
def PhysicsModelConfig.default [Exact F] : PhysicsModelConfig F := ⟨{}, PhysicsConfigData.default_valid⟩

/-- `PhysicsModelConfig.legacy_v1()`. -/
def PhysicsModelConfig.legacyV1 [Exact F] : PhysicsModelConfig F :=
  ⟨PhysicsConfigData.legacyV1, PhysicsConfigData.legacyV1_valid⟩

end Defaults

end CrazySwarm
