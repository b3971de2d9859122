import CrazySwarm.SixDofPhysics

/-! The controller's distribution of a demand over the motors, against the wrench that the body gets of
their thrusts. -/
namespace CrazySwarm

variable {F : Type} [Field F] [LinearOrder F] [IsStrictOrderedRing F] [PyPhysics F] [Exact F]

namespace SixDofPhysics

variable {config : PhysicsConfigData F}

/-- Upright rotors around the center of mass: each adds its thrust, and the moments of it. -/
theorem addRotor_eq (laidOut : LaidOut config) (thrustN : Fin 4 → F) (sum : Wrench F) (index : Fin 4) :
    addRotor config thrustN 1 sum index =
      { force := ⟨sum.force.x, sum.force.y, sum.force.z + thrustN index⟩
        torque :=
          ⟨sum.torque.x + (config.rotorLayout.positions config.armLengthM index).y * thrustN index,
            sum.torque.y - (config.rotorLayout.positions config.armLengthM index).x * thrustN index,
            sum.torque.z + config.rotorLayout.signs index * config.yawMomentPerThrustM * thrustN index⟩ } := by
  simp [addRotor, laidOut.axes, laidOut.centered, laidOut.positions, laidOut.signs, cross, sub_eq_add_neg]

theorem rotorWrench_eq (laidOut : LaidOut config) (thrustN : Fin 4 → F) :
    rotorWrench config thrustN 1 =
      { force := ⟨0, 0, ∑ index, thrustN index⟩
        torque :=
          ⟨∑ index, (config.rotorLayout.positions config.armLengthM index).y * thrustN index,
            -∑ index, (config.rotorLayout.positions config.armLengthM index).x * thrustN index,
            ∑ index, config.rotorLayout.signs index * config.yawMomentPerThrustM * thrustN index⟩ } := by
  simp [rotorWrench, List.finRange_succ, addRotor_eq laidOut, Fin.sum_univ_four, Vector3.zero]
  ring

section Mixer

variable (config) (demand : ControlDemand F)

theorem sum_mixThrusts : ∑ index, mixThrusts config demand index = demand.collective := by
  cases layout : config.rotorLayout <;> simp [mixThrusts, layout, Fin.sum_univ_four] <;> ring

theorem yaw_mixThrusts (yaw : config.yawMomentPerThrustM ≠ 0) :
    ∑ index, config.rotorLayout.signs index * config.yawMomentPerThrustM *
      mixThrusts config demand index = demand.torqueZ := by
  cases layout : config.rotorLayout <;>
    simp [mixThrusts, layout, RotorLayout.signs, Fin.sum_univ_four] <;> field_simp <;> ring

variable (arm : config.armLengthM ≠ 0) (root : PyFloat.sqrt (2 : F) ≠ 0)
include arm root

theorem roll_mixThrusts :
    ∑ index, (config.rotorLayout.positions config.armLengthM index).y * mixThrusts config demand index =
      demand.torqueX := by
  cases layout : config.rotorLayout <;>
    simp [mixThrusts, layout, RotorLayout.positions, Fin.sum_univ_four] <;> field_simp <;> ring

theorem pitch_mixThrusts :
    -∑ index, (config.rotorLayout.positions config.armLengthM index).x * mixThrusts config demand index =
      demand.torqueY := by
  cases layout : config.rotorLayout <;>
    simp [mixThrusts, layout, RotorLayout.positions, Fin.sum_univ_four] <;> field_simp <;> ring

end Mixer

theorem rotorWrench_mixThrusts (admitted : Admitted config) (laidOut : LaidOut config)
    (root : PyFloat.sqrt (2 : F) ≠ 0) (demand : ControlDemand F) :
    rotorWrench config (mixThrusts config demand) 1 =
      { force := ⟨0, 0, demand.collective⟩
        torque := ⟨demand.torqueX, demand.torqueY, demand.torqueZ⟩ } := by
  rw [rotorWrench_eq laidOut, sum_mixThrusts, roll_mixThrusts config demand admitted.armLength.ne' root,
    pitch_mixThrusts config demand admitted.armLength.ne' root,
    yaw_mixThrusts config demand admitted.yawMoment.ne']

theorem nominalOr_ne_zero (nominal : Option F) {configured : F} (positive : 0 < configured) :
    nominalOr nominal configured ≠ 0 := by
  unfold nominalOr
  split
  · split
    case isTrue => exact positive.ne'
    case isFalse given => simpa using given
  · exact positive.ne'

end SixDofPhysics

open SixDofPhysics

/-- The plant gives the controller what it asked for: thrusts that are the commands' shares of the
controller's maximum, none of them clamped, have the collective force and the torques of the demand. -/
theorem rotorWrench_of_commands [ExactPhysics F] (config : PhysicsModelConfig F)
    (laidOut : LaidOut config.toPhysicsConfigData) (state : PhysicsState F)
    (no_ground_effect : groundEffectMultiplier config.toPhysicsConfigData state = 1)
    (control : ControllerState F) (target : TrajectorySetpoint F)
    (nominalTotalMassKg nominalMaxMotorThrustN : Option F)
    (unclamped : ∀ index, 0 ≤ mixThrusts config.toPhysicsConfigData
          (controlDemand config.toPhysicsConfigData control target nominalTotalMassKg) index /
        nominalOr nominalMaxMotorThrustN config.maxMotorThrustN ∧
      mixThrusts config.toPhysicsConfigData
          (controlDemand config.toPhysicsConfigData control target nominalTotalMassKg) index /
        nominalOr nominalMaxMotorThrustN config.maxMotorThrustN ≤ 1)
    (commanded : ∀ index, (state.motors index).thrustN =
      motorCommandsForControlState config.toPhysicsConfigData control target nominalTotalMassKg
        nominalMaxMotorThrustN index * nominalOr nominalMaxMotorThrustN config.maxMotorThrustN) :
    rotorWrench config.toPhysicsConfigData (fun index => (state.motors index).thrustN)
        (groundEffectMultiplier config.toPhysicsConfigData state) =
      { force := ⟨0, 0, (controlDemand config.toPhysicsConfigData control target
          nominalTotalMassKg).collective⟩
        torque :=
          ⟨(controlDemand config.toPhysicsConfigData control target nominalTotalMassKg).torqueX,
            (controlDemand config.toPhysicsConfigData control target nominalTotalMassKg).torqueY,
            (controlDemand config.toPhysicsConfigData control target nominalTotalMassKg).torqueZ⟩ } := by
  have maximum := nominalOr_ne_zero nominalMaxMotorThrustN config.admitted.powertrain.maxMotorThrust
  have thrusts : (fun index => (state.motors index).thrustN) = mixThrusts config.toPhysicsConfigData
      (controlDemand config.toPhysicsConfigData control target nominalTotalMassKg) := by
    funext index
    obtain ⟨low, high⟩ := unclamped index
    rw [commanded, motorCommandsForControlState, clamp_eq, Exact.over_eq, Exact.zero_eq,
      Exact.ofRat_cast, Rat.cast_one, min_eq_right high, max_eq_right low, div_mul_cancel₀ _ maximum]
  rw [no_ground_effect, thrusts]
  exact rotorWrench_mixThrusts config.admitted laidOut (ExactPhysics.sqrt_pos two_pos).ne' _

/-- A hovering vehicle that turns around all of its axes. -/
def turning : ControllerState ℚ := ⟨⟨0, 0, 1⟩, ⟨0, 0, 0⟩, ⟨0, 0, 0⟩, ⟨1, 2, 3⟩⟩

def hoverTarget : TrajectorySetpoint ℚ := ⟨⟨0, 0, 1⟩, ⟨0, 0, 0⟩, ⟨0, 0, 0⟩, 0, 0⟩

def turningState : PhysicsState ℚ where
  motors index :=
    { thrustN := motorCommandsForControlState {} turning hoverTarget none none index * (12 / 100) }

theorem turning_wrench :
    rotorWrench ({} : PhysicsConfigData ℚ) (fun index => (turningState.motors index).thrustN)
        (groundEffectMultiplier {} turningState) =
      { force := ⟨0, 0, 32 / 1000 * (980665 / 100000)⟩
        torque := ⟨-18 / 100000, -36 / 100000, -36 / 100000⟩ } :=
  (rotorWrench_of_commands PhysicsModelConfig.default PhysicsConfigData.default_laidOut turningState
    (by decide +kernel) turning hoverTarget none none (by decide +kernel) (by decide +kernel)).trans
    (by decide +kernel)

end CrazySwarm
