import Mathlib.Algebra.Order.Group.Abs
import Mathlib.Data.List.Basic
import Mathlib.Tactic.Linarith

/-! A cursor over items that are sorted by a position. For each of some ascending places it moves on as
long as the next item is no farther from the place; it stops at an item that none is nearer than. -/
namespace NearestCursor

variable {α F : Type} [Field F] [LinearOrder F] (position : α → F)

/-- The items from the cursor on, after it has moved to a place. -/
def advance (place : F) : List α → List α
  | current :: next :: rest =>
    if |position next - place| ≤ |position current - place| then advance place (next :: rest)
    else current :: next :: rest
  | other => other

def IsNearest (place : F) (items : List α) (item : α) : Prop :=
  item ∈ items ∧ ∀ other ∈ items, |position item - place| ≤ |position other - place|

def Covers (place : F) (remaining items : List α) : Prop :=
  ∀ later, place ≤ later → ∀ item ∈ items,
    ∃ other ∈ remaining, |position other - later| ≤ |position item - later|

variable {position} {place later : F} {first second third items : List α} {item : α}

theorem Covers.refl (place : F) (items : List α) : Covers position place items items :=
  fun _ _ item among => ⟨item, among, le_rfl⟩

theorem Covers.trans (left : Covers position place second first)
    (right : Covers position place third second) : Covers position place third first := by
  intro later after item among
  obtain ⟨other, stays, near⟩ := left later after item among
  obtain ⟨last, remains, nearer⟩ := right later after other stays
  exact ⟨last, remains, nearer.trans near⟩

theorem Covers.mono (covers : Covers position place first items) (after : place ≤ later) :
    Covers position later first items :=
  fun last afterLast => covers last (after.trans afterLast)

theorem IsNearest.of_covers (nearest : IsNearest position place first item)
    (covers : Covers position place first items) (sub : ∀ other ∈ first, other ∈ items) :
    IsNearest position place items item := by
  refine ⟨sub item nearest.1, fun other among => ?_⟩
  obtain ⟨remaining, stays, near⟩ := covers place le_rfl other among
  exact (nearest.2 remaining stays).trans near

theorem advance_suffix (position : α → F) (place : F) (items : List α) :
    advance position place items <:+ items := by
  induction items with
  | nil => exact List.suffix_refl []
  | cons current rest ih =>
    cases rest with
    | nil => exact List.suffix_refl _
    | cons next rest =>
      rw [advance]
      split
      · exact ih.trans (List.suffix_cons current _)
      · exact List.suffix_refl _

variable [IsStrictOrderedRing F]

/-- An item ahead that is no farther from a place is no farther from any later one. -/
theorem abs_sub_le_of_le {x y : F} (ordered : x ≤ y) (near : |y - place| ≤ |x - place|)
    (after : place ≤ later) : |y - later| ≤ |x - later| := by
  rcases le_total y place with early | late
  · rw [abs_of_nonpos (by linarith), abs_of_nonpos (by linarith)]
    linarith
  · rw [abs_of_nonneg (by linarith)] at near
    have middle : y + x ≤ 2 * place ∨ x = y := by
      rcases le_total x place with before | beyond
      · rw [abs_of_nonpos (by linarith)] at near
        exact .inl (by linarith)
      · rw [abs_of_nonneg (by linarith)] at near
        exact .inr (le_antisymm ordered (by linarith))
    rcases middle with middle | rfl
    · rw [abs_le]
      have far := neg_abs_le (x - later)
      constructor
      · linarith
      · have := le_abs_self (later - x)
        rw [abs_sub_comm] at this
        linarith
    · exact le_rfl

theorem advance_covers (sorted : items.Pairwise fun a b => position a ≤ position b) (place : F) :
    Covers position place (advance position place items) items := by
  induction items with
  | nil => exact .refl place []
  | cons current rest ih =>
    cases rest with
    | nil => exact .refl place _
    | cons next rest =>
      rw [advance]
      split
      · rename_i moved
        refine Covers.trans ?_ (ih sorted.tail)
        intro later after item among
        rcases List.mem_cons.mp among with rfl | stays
        · have ordered := List.rel_of_pairwise_cons sorted List.mem_cons_self
          exact ⟨next, List.mem_cons_self, abs_sub_le_of_le ordered moved after⟩
        · exact ⟨item, stays, le_rfl⟩
      · exact .refl place _

theorem advance_nearest (sorted : items.Pairwise fun a b => position a ≤ position b) (place : F)
    (nonempty : items ≠ []) :
    ∃ item, (advance position place items).head? = some item ∧
      IsNearest position place (advance position place items) item := by
  induction items with
  | nil => exact absurd rfl nonempty
  | cons current rest ih =>
    cases rest with
    | nil => exact ⟨current, rfl, List.mem_cons_self, by simp [advance]⟩
    | cons next rest =>
      rw [advance]
      split
      · exact ih sorted.tail (List.cons_ne_nil _ _)
      · rename_i stays
        refine ⟨current, rfl, List.mem_cons_self, fun other among => ?_⟩
        rcases List.mem_cons.mp among with rfl | ahead
        · exact le_rfl
        · have ordered : position current ≤ position next :=
            List.rel_of_pairwise_cons sorted List.mem_cons_self
          have behind : position next ≤ position other := by
            rcases List.mem_cons.mp ahead with rfl | later
            · exact le_rfl
            · exact List.rel_of_pairwise_cons sorted.tail later
          -- Moving on would have been nearer unless the place lies before the next item.
          have between : place ≤ position next := by
            by_contra before
            rw [abs_of_nonpos (by linarith), abs_of_nonpos (by linarith)] at stays
            exact stays (by linarith)
          rw [abs_of_nonneg (by linarith : 0 ≤ position next - place)] at stays
          rw [abs_of_nonneg (by linarith : 0 ≤ position other - place)]
          linarith

end NearestCursor
