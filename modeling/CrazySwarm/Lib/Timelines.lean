import Mathlib.Data.List.Chain
import Mathlib.Data.List.Forall2
import Mathlib.Order.Basic

/-! Items that follow each other in time without a gap or an overlap, and their grouping. -/
namespace CrazySwarm

variable {α β T : Type}

/-- A test on all neighbours of a list. -/
theorem all_zip_tail_iff {p : α × α → Bool} {items : List α} :
    (items.zip items.tail).all p = true ↔ items.IsChain fun a b => p (a, b) = true := by
  induction items with
  | nil => simp
  | cons first rest ih =>
    cases rest with
    | nil => simp
    | cons second rest =>
      rw [List.isChain_cons_cons, ← ih, List.tail_cons, List.zip_cons_cons, List.all_cons,
        Bool.and_eq_true]
      rfl

variable [Preorder T]

namespace Consecutive

variable {starts ends : α → T} {begin between finish : T} {first rest : List α} {item : α}

end Consecutive

end CrazySwarm
