import CrazySwarm.Models
import Mathlib.Analysis.InnerProductSpace.PiL2

/-! Vectors as points of the Euclidean space. -/
namespace CrazySwarm

/-- A point as one of the Euclidean space. -/
noncomputable def euclidean (point : Vector3 ℝ) : EuclideanSpace ℝ (Fin 3) :=
  !₂[point.x, point.y, point.z]

theorem euclidean_injective : Function.Injective euclidean := by
  intro first second same
  have coordinate (i : Fin 3) := congrArg (fun point => point i) same
  have x := coordinate 0
  have y := coordinate 1
  have z := coordinate 2
  simp only [euclidean] at x y z
  cases first
  cases second
  simp_all

end CrazySwarm
