import Mathlib.Algebra.Order.Field.Basic
import Mathlib.Tactic.Linarith

/-! Bisection: an interval that is cut at a middle a number of times. What a test says at the two ends is
kept, whatever the test says in between, so that a change between the ends is closed in. -/
namespace Bisection

variable {α : Type}

/-- The ends after some cuts; a middle that the test holds at becomes the lower end. -/
def halve (middle : α → α → α) (goesUp : α → Bool) : ℕ → α × α → α × α
  | 0, ends => ends
  | n + 1, (lower, upper) =>
    if goesUp (middle lower upper) then halve middle goesUp n (middle lower upper, upper)
    else halve middle goesUp n (lower, middle lower upper)

variable {middle : α → α → α} {goesUp : α → Bool} {n : ℕ} {lower upper : α}

/-- The lower end is the first one, or the test holds at it. -/
theorem lower_kept (middle : α → α → α) (goesUp : α → Bool) (n : ℕ) (ends : α × α) :
    (halve middle goesUp n ends).1 = ends.1 ∨ goesUp (halve middle goesUp n ends).1 = true := by
  induction n generalizing ends with
  | zero => exact .inl rfl
  | succ n ih =>
    obtain ⟨lower, upper⟩ := ends
    rw [halve]
    split
    case isTrue up =>
      rcases ih (middle lower upper, upper) with same | later
      · rw [same]
        exact .inr up
      · exact .inr later
    case isFalse => exact ih (lower, middle lower upper)

/-- The upper end is the first one, or the test fails at it. -/
theorem upper_kept (middle : α → α → α) (goesUp : α → Bool) (n : ℕ) (ends : α × α) :
    (halve middle goesUp n ends).2 = ends.2 ∨ goesUp (halve middle goesUp n ends).2 = false := by
  induction n generalizing ends with
  | zero => exact .inl rfl
  | succ n ih =>
    obtain ⟨lower, upper⟩ := ends
    rw [halve]
    split
    case isTrue => exact ih (middle lower upper, upper)
    case isFalse down =>
      rcases ih (lower, middle lower upper) with same | later
      · rw [same]
        exact .inr (by simpa using down)
      · exact .inr later

/-- The ends stay in order and inside the first ones. -/
theorem halve_inside [Preorder α] (between : ∀ a b, a ≤ b → a ≤ middle a b ∧ middle a b ≤ b)
    (goesUp : α → Bool) (n : ℕ) (ordered : lower ≤ upper) :
    lower ≤ (halve middle goesUp n (lower, upper)).1 ∧
      (halve middle goesUp n (lower, upper)).1 ≤ (halve middle goesUp n (lower, upper)).2 ∧
        (halve middle goesUp n (lower, upper)).2 ≤ upper := by
  induction n generalizing lower upper with
  | zero => exact ⟨le_rfl, ordered, le_rfl⟩
  | succ n ih =>
    obtain ⟨above, below⟩ := between lower upper ordered
    rw [halve]
    split
    · obtain ⟨first, ends, last⟩ := ih below
      exact ⟨above.trans first, ends, last⟩
    · obtain ⟨first, ends, last⟩ := ih above
      exact ⟨first, ends, last.trans below⟩

section Field

variable [Field α] [LinearOrder α] [IsStrictOrderedRing α]

theorem halve_width (exact_middle : ∀ a b, middle a b = (a + b) / 2) (goesUp : α → Bool) (n : ℕ)
    (ends : α × α) :
    (halve middle goesUp n ends).2 - (halve middle goesUp n ends).1 =
      (ends.2 - ends.1) / 2 ^ n := by
  induction n generalizing ends with
  | zero => rw [halve, pow_zero, div_one]
  | succ n ih =>
    obtain ⟨lower, upper⟩ := ends
    have above : upper - middle lower upper = (upper - lower) / 2 := by
      rw [exact_middle]
      linarith
    have below : middle lower upper - lower = (upper - lower) / 2 := by
      rw [exact_middle]
      linarith
    rw [halve, pow_succ', ← div_div]
    split
    · rw [ih, above]
    · rw [ih, below]

theorem between_of_exact (exact_middle : ∀ a b, middle a b = (a + b) / 2) (a b : α) (ordered : a ≤ b) :
    a ≤ middle a b ∧ middle a b ≤ b := by
  rw [exact_middle]
  constructor <;> linarith

end Field

end Bisection
