import Mathlib.Data.List.Sort
import Mathlib.Order.Basic

/-! Binary lookup in a list with increasing keys. `right` counts the keys that are not past a value;
the place before them begins the segment that holds the value, as far as there is one. -/
namespace Bisect
open List

variable {α κ : Type} [LinearOrder κ] {key : α → κ} {items : List α} {x : κ} {i : ℕ} {a b : α}

def right (key : α → κ) (items : List α) (x : κ) : ℕ :=
  (items.takeWhile fun item => key item ≤ x).length

/-- The segment that is looked up for a value; a value past the last key is in the last segment. -/
def segment (key : α → κ) (items : List α) (x : κ) : ℕ :=
  min (items.length - 2) (right key items x - 1)

/-- Exactly the places before the count have keys that are not past the value. -/
theorem lt_right_iff (sorted : (items.map key).Pairwise (· < ·)) (found : items[i]? = some a) :
    i < right key items x ↔ key a ≤ x := by
  induction items generalizing i with
  | nil => simp at found
  | cons first rest ih =>
    rw [map_cons, pairwise_cons] at sorted
    by_cases reached : key first ≤ x
    · have counted : right key (first :: rest) x = right key rest x + 1 := by simp [right, reached]
      cases i with
      | zero =>
        cases Option.some.inj found
        simp [counted, reached]
      | succ i => rw [counted, Nat.add_lt_add_iff_right, ih sorted.2 (by simpa using found)]
    · have none_counted : right key (first :: rest) x = 0 := by simp [right, reached]
      have past : ¬key a ≤ x := by
        rcases mem_cons.mp (mem_of_getElem? found) with rfl | later
        · exact reached
        · intro within
          exact reached ((sorted.1 _ (mem_map_of_mem later)).le.trans within)
      simp [none_counted, past]

section Segments

variable (sorted : (items.map key).Pairwise (· < ·))
include sorted

/-- A place with a key that is not past the value is not after the segment looked up. -/
theorem le_segment (found : items[i]? = some a) (inner : i + 1 < items.length) (reached : key a ≤ x) :
    i ≤ segment key items x := by
  have counted := (lt_right_iff sorted found).mpr reached
  have low : i ≤ items.length - 2 := by omega
  exact le_min low (Nat.le_pred_of_lt counted)

theorem segment_begins (first : items[0]? = some a) (from_first : key a ≤ x)
    (found : items[segment key items x]? = some b) : key b ≤ x := by
  have counted := (lt_right_iff sorted first).mpr from_first
  apply (lt_right_iff sorted found).mp
  unfold segment
  omega

theorem segment_ends (last : items[items.length - 1]? = some a) (until_last : x ≤ key a)
    (found : items[segment key items x + 1]? = some b) : x ≤ key b := by
  by_contra past
  have counted := (lt_right_iff sorted found).mpr (le_of_not_ge past)
  have bound : segment key items x + 1 < items.length := (List.getElem?_eq_some_iff.mp found).1
  have same : segment key items x + 1 = items.length - 1 := by
    unfold segment at counted bound ⊢
    omega
  rw [same, last] at found
  cases found
  exact past until_last

end Segments

end Bisect
