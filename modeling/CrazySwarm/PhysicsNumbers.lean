import CrazySwarm.Trajectory
import Mathlib.Analysis.Real.Pi.Bounds
import Mathlib.Analysis.SpecialFunctions.Complex.Arg
import Mathlib.Analysis.SpecialFunctions.Trigonometric.Inverse

/-! The further float operations of the flight physics, and four motors' values. -/
namespace CrazySwarm

/-- `math.exp`, `math.atan2` and `math.asin`, and `**` with a float exponent. -/
class PyPhysics (F : Type) extends PyAngle F where
  exp : F → F
  atan2 : F → F → F
  asin : F → F
  powFloat : F → F → F

noncomputable instance : PyAngle ℝ where
  pi := Real.pi
  mod a b := a - b * ⌊a / b⌋

noncomputable instance : PyPhysics ℝ where
  exp := Real.exp
  atan2 y x := Complex.arg ⟨x, y⟩
  asin := Real.arcsin
  powFloat a b := a ^ b

/-- For evaluating the model, with rough approximations. -/
instance : PyPhysics ℚ where
  exp a := if a ≤ 0 then 1 / (1 - a) else 1 + a
  atan2 y x := y / x
  asin a := a
  powFloat a b := a ^ b.floor

/-- The exponential function and square roots as far as the physics relies on them. -/
class ExactPhysics (F : Type) [Field F] [LinearOrder F] [IsStrictOrderedRing F]
    [PyPhysics F] : Prop where
  exp_pos (a : F) : 0 < PyPhysics.exp a
  exp_le_one {a : F} : a ≤ 0 → PyPhysics.exp a ≤ 1
  sqrt_pos {a : F} : 0 < a → 0 < PyFloat.sqrt a
  sqrt_one : PyFloat.sqrt (1 : F) = 1
  pi_gt_three : 3 < (PyAngle.pi : F)

instance : ExactPhysics ℝ where
  exp_pos := Real.exp_pos
  exp_le_one := Real.exp_le_one_iff.mpr
  sqrt_pos := Real.sqrt_pos.mpr
  sqrt_one := Real.sqrt_one
  pi_gt_three := Real.pi_gt_three

instance : ExactPhysics ℚ where
  exp_pos a := by
    rw [show PyPhysics.exp a = if a ≤ 0 then 1 / (1 - a) else 1 + a from rfl]
    split
    · exact one_div_pos.mpr (by linarith)
    · linarith
  exp_le_one {a} negative := by
    rw [show PyPhysics.exp a = if a ≤ 0 then 1 / (1 - a) else 1 + a from rfl, if_pos negative,
      div_le_one (by linarith)]
    linarith
  sqrt_pos {a} positive := by
    rw [show PyFloat.sqrt a = mkRat (Nat.sqrt a.num.toNat) (Nat.sqrt a.den) from rfl,
      Rat.mkRat_eq_div]
    have numerator : 0 < a.num.toNat := by
      have := Rat.num_pos.mpr positive
      omega
    exact div_pos (by exact_mod_cast Nat.sqrt_pos.mpr numerator)
      (by exact_mod_cast Nat.sqrt_pos.mpr a.den_pos)
  sqrt_one := by decide +kernel
  pi_gt_three := by
    rw [show (PyAngle.pi : ℚ) = 355 / 113 from rfl]
    norm_num

/-- Exact numbers are finite. -/
@[simp] theorem isFinite_exact {F : Type} [Field F] [LinearOrder F] [IsStrictOrderedRing F]
    [PyMath F] [Exact F] (value : F) : isFinite value = true := by
  simp [isFinite]

section Motors
open PyFloat

variable {F : Type} [PyMath F]

/-- `0.5 * (lower + upper)`. -/
def midpoint (lower upper : F) : F := ofRat 0.5 * (lower + upper)

/-- `_clamp`. -/
def clamp (value lower upper : F) : F := PyFloat.max lower (PyFloat.min upper value)

/-- The sum that starts at zero and runs over the motors in order. -/
def motorSum (value : Fin 4 → F) : F := zero + value 0 + value 1 + value 2 + value 3

end Motors

section Exact

variable {F : Type} [Field F] [LinearOrder F] [IsStrictOrderedRing F] [PyMath F] [Exact F]

theorem midpoint_eq (lower upper : F) : midpoint lower upper = (lower + upper) / 2 := by
  rw [midpoint, Exact.times, Exact.plus, Exact.ofRat_cast]
  push_cast
  ring

@[simp] theorem clamp_eq (value lower upper : F) :
    clamp value lower upper = Max.max lower (Min.min upper value) := by
  simp [clamp]

@[simp] theorem motorSum_eq (value : Fin 4 → F) : motorSum value = ∑ i, value i := by
  simp [motorSum, Fin.sum_univ_four]

end Exact

end CrazySwarm
