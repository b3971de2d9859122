import CrazySwarm.Models
import CrazySwarm.Lib.Segments
import Mathlib.Data.List.Chain

/-! Polylines: their legs, the points of a leg, and the boxes in which such points lie. -/
namespace CrazySwarm
open Segments

variable {F : Type} [Field F]

/-- The legs of a polyline, each with its two ends. -/
def legs (points : List (Vector3 F)) : List (Vector3 F × Vector3 F) := points.zip points.tail

def pointAt (start last : Vector3 F) (t : F) : Vector3 F :=
  ⟨along start.x last.x t, along start.y last.y t, along start.z last.z t⟩

omit [Field F] in
theorem forall_legs_iff {holds : Vector3 F → Vector3 F → Prop} {points : List (Vector3 F)} :
    (∀ leg ∈ legs points, holds leg.1 leg.2) ↔ points.IsChain holds := by
  induction points with
  | nil => simp [legs]
  | cons first rest ih =>
    cases rest with
    | nil => simp [legs]
    | cons second rest =>
      rw [List.isChain_cons_cons, ← ih]
      simp [legs]

section Boxes

variable [LinearOrder F]

def InBox (minimumM maximumM point : Vector3 F) : Prop :=
  Within minimumM.x maximumM.x point.x ∧ Within minimumM.y maximumM.y point.y ∧
    Within minimumM.z maximumM.z point.z

instance {minimumM maximumM point : Vector3 F} : Decidable (InBox minimumM maximumM point) :=
  inferInstanceAs (Decidable (_ ∧ _ ∧ _))

theorem inBox_pointAt [IsStrictOrderedRing F] {minimumM maximumM start last : Vector3 F} {t : F}
    (first : InBox minimumM maximumM start) (second : InBox minimumM maximumM last)
    (time : Within 0 1 t) : InBox minimumM maximumM (pointAt start last t) :=
  ⟨within_along first.1 second.1 time, within_along first.2.1 second.2.1 time,
    within_along first.2.2 second.2.2 time⟩

end Boxes

end CrazySwarm
