import Mathlib.Algebra.Order.Field.Basic
import Mathlib.Tactic.Linarith
import Mathlib.Tactic.Ring

/-! One coordinate of a point that runs along a straight segment in unit time: it stays between
bounds that its ends keep, and on a moving axis it is between two bounds exactly from the time of
one crossing to the time of the other. -/
namespace Segments

variable {F : Type*} [Field F] [LinearOrder F] [IsStrictOrderedRing F]
variable {a b low high t : F}

def Within (low high value : F) : Prop := low ≤ value ∧ value ≤ high

instance : Decidable (Within low high t) := inferInstanceAs (Decidable (_ ∧ _))

/-- The coordinate at a time, from `a` at time zero to `b` at time one. -/
def along (a b t : F) : F := a + (b - a) * t

omit [LinearOrder F] [IsStrictOrderedRing F] in
@[simp] theorem along_zero (a b : F) : along a b 0 = a := by simp [along]

omit [LinearOrder F] [IsStrictOrderedRing F] in
@[simp] theorem along_self (a t : F) : along a a t = a := by simp [along]

theorem le_along (first : low ≤ a) (last : low ≤ b) (time : Within 0 1 t) : low ≤ along a b t := by
  have weighted : along a b t - low = (a - low) * (1 - t) + (b - low) * t := by
    unfold along
    ring
  have before := mul_nonneg (sub_nonneg.mpr first) (sub_nonneg.mpr time.2)
  have after := mul_nonneg (sub_nonneg.mpr last) time.1
  linarith

theorem along_le (first : a ≤ high) (last : b ≤ high) (time : Within 0 1 t) :
    along a b t ≤ high := by
  have weighted : high - along a b t = (high - a) * (1 - t) + (high - b) * t := by
    unfold along
    ring
  have before := mul_nonneg (sub_nonneg.mpr first) (sub_nonneg.mpr time.2)
  have after := mul_nonneg (sub_nonneg.mpr last) time.1
  linarith

theorem within_along (first : Within low high a) (last : Within low high b)
    (time : Within 0 1 t) : Within low high (along a b t) :=
  ⟨le_along first.1 last.1 time, along_le first.2 last.2 time⟩

/-- In unit time the coordinate moves by no more than its two ends are apart. -/
theorem abs_along_sub_le (time : Within 0 1 t) : |along a b t - a| ≤ |b - a| := by
  have moved : along a b t - a = (b - a) * t := by
    unfold along
    ring
  rw [moved, abs_mul, abs_of_nonneg time.1]
  exact mul_le_of_le_one_right (abs_nonneg _) time.2

/-- The coordinate takes every value between its ends, and no other. -/
theorem exists_along_iff {value : F} :
    (∃ t, Within 0 1 t ∧ along a b t = value) ↔ Within (min a b) (max a b) value := by
  constructor
  · rintro ⟨t, time, rfl⟩
    exact within_along ⟨min_le_left a b, le_max_left a b⟩ ⟨min_le_right a b, le_max_right a b⟩ time
  · rintro ⟨above, below⟩
    rcases lt_trichotomy a b with forward | rfl | backward
    · rw [min_eq_left forward.le] at above
      rw [max_eq_right forward.le] at below
      have width := sub_pos.mpr forward
      refine ⟨(value - a) / (b - a), ⟨div_nonneg (sub_nonneg.mpr above) width.le, ?_⟩, ?_⟩
      · exact (div_le_one width).mpr (sub_le_sub_right below a)
      · rw [along, mul_div_cancel₀ _ width.ne', add_sub_cancel]
    · rw [min_self] at above
      rw [max_self] at below
      exact ⟨0, ⟨le_rfl, zero_le_one⟩, by rw [along_zero]; exact le_antisymm above below⟩
    · rw [min_eq_right backward.le] at above
      rw [max_eq_left backward.le] at below
      have width := sub_neg.mpr backward
      refine ⟨(value - a) / (b - a), ⟨?_, ?_⟩, ?_⟩
      · exact div_nonneg_of_nonpos (sub_nonpos.mpr below) width.le
      · exact (div_le_one_of_neg width).mpr (sub_le_sub_right above a)
      · rw [along, mul_div_cancel₀ _ width.ne, add_sub_cancel]

omit [Field F] [IsStrictOrderedRing F] in
theorem within_or_within (middle : F) {value : F} (between : Within (min a b) (max a b) value) :
    Within (min a middle) (max a middle) value ∨ Within (min middle b) (max middle b) value := by
  simp only [Within, min_le_iff, le_max_iff] at between ⊢
  rcases le_total value middle with below | above
  · rcases between.1 with first | last
    · exact .inl ⟨.inl first, .inr below⟩
    · exact .inr ⟨.inr last, .inl below⟩
  · rcases between.2 with first | last
    · exact .inl ⟨.inr above, .inl first⟩
    · exact .inr ⟨.inl above, .inr last⟩

/-- The values between two ends reach into a range that is not reversed. -/
def Overlaps (a b low high : F) : Prop := low ≤ high ∧ min a b ≤ high ∧ low ≤ max a b

omit [Field F] [IsStrictOrderedRing F] in
theorem overlaps_iff : Overlaps a b low high ↔
    ∃ value, Within (min a b) (max a b) value ∧ Within low high value := by
  constructor
  · rintro ⟨ordered, below, above⟩
    exact ⟨max (min a b) low, ⟨le_max_left _ _, max_le min_le_max above⟩,
      le_max_right _ _, max_le below ordered⟩
  · rintro ⟨value, between, inside⟩
    exact ⟨inside.1.trans inside.2, between.1.trans inside.2, inside.1.trans between.2⟩

def crossing (a b value : F) : F := (value - a) / (b - a)

theorem le_along_iff_of_lt (forward : a < b) : low ≤ along a b t ↔ crossing a b low ≤ t := by
  rw [crossing, div_le_iff₀ (sub_pos.mpr forward), along, mul_comm t, sub_le_iff_le_add']

theorem along_le_iff_of_lt (forward : a < b) : along a b t ≤ high ↔ t ≤ crossing a b high := by
  rw [crossing, le_div_iff₀ (sub_pos.mpr forward), along, mul_comm t, le_sub_iff_add_le']

theorem le_along_iff_of_gt (backward : b < a) : low ≤ along a b t ↔ t ≤ crossing a b low := by
  rw [crossing, le_div_iff_of_neg (sub_neg.mpr backward), along, mul_comm t, sub_le_iff_le_add']

theorem along_le_iff_of_gt (backward : b < a) : along a b t ≤ high ↔ crossing a b high ≤ t := by
  rw [crossing, div_le_iff_of_neg (sub_neg.mpr backward), along, mul_comm t, le_sub_iff_add_le']

/-- The coordinate is between two bounds from the earlier of its crossings to the later one. -/
theorem within_along_iff (moving : b ≠ a) (ordered : low ≤ high) :
    Within low high (along a b t) ↔
      Within (min (crossing a b low) (crossing a b high))
        (max (crossing a b low) (crossing a b high)) t := by
  rcases lt_or_gt_of_ne moving with backward | forward
  · have swapped : crossing a b high ≤ crossing a b low :=
      div_le_div_of_nonpos_of_le (sub_neg.mpr backward).le (sub_le_sub_right ordered a)
    rw [min_eq_right swapped, max_eq_left swapped, Within, le_along_iff_of_gt backward,
      along_le_iff_of_gt backward]
    exact and_comm
  · have kept : crossing a b low ≤ crossing a b high :=
      div_le_div_of_nonneg_right (sub_le_sub_right ordered a) (sub_pos.mpr forward).le
    rw [min_eq_left kept, max_eq_right kept, Within, le_along_iff_of_lt forward,
      along_le_iff_of_lt forward]
    exact Iff.rfl

/-! ## Clipping a segment to a box -/

section Clipping

variable {tolerance : F} {range next : F × F}

/-- The coordinate at a time, which stands still where its ends all but agree. -/
def heldAlong (tolerance a b t : F) : F := if |b - a| ≤ tolerance then a else along a b t

/-- What an axis leaves of a range of times: those at which its coordinate is within bounds. -/
def clip (tolerance : F) (range : F × F) (a b low high : F) : Option (F × F) :=
  if |b - a| ≤ tolerance then if Within low high a then some range else none
  else
    let entry := max range.1 (min (crossing a b low) (crossing a b high))
    let exit := min range.2 (max (crossing a b low) (crossing a b high))
    if entry ≤ exit then some (entry, exit) else none

omit [IsStrictOrderedRing F] in
theorem heldAlong_eq_along (exact : a = b ∨ tolerance < |b - a|) :
    heldAlong tolerance a b t = along a b t := by
  unfold heldAlong
  split
  · rcases exact with rfl | moving
    · rw [along_self]
    · exact absurd moving (not_lt.mpr ‹_›)
  · rfl

theorem abs_heldAlong_sub_along_le (nonneg : 0 ≤ tolerance) (time : Within 0 1 t) :
    |heldAlong tolerance a b t - along a b t| ≤ tolerance := by
  unfold heldAlong
  split
  · rw [abs_sub_comm]
    exact (abs_along_sub_le time).trans ‹_›
  · rwa [sub_self, abs_zero]

/-- Clipping keeps the times at which the coordinate is between the bounds. -/
theorem exists_clip_iff (range : F × F) (nonneg : 0 ≤ tolerance) (ordered : low ≤ high) :
    (∃ next, clip tolerance range a b low high = some next ∧ Within next.1 next.2 t) ↔
      Within range.1 range.2 t ∧ Within low high (heldAlong tolerance a b t) := by
  unfold clip heldAlong
  split
  case isTrue => by_cases inside : Within low high a <;> simp [inside]
  case isFalse moving =>
    have apart : b ≠ a := by
      rintro rfl
      rw [sub_self, abs_zero] at moving
      exact moving nonneg
    rw [within_along_iff apart ordered]
    constructor
    · rintro ⟨next, clipped, after, before⟩
      simp only at clipped
      split at clipped
      · cases clipped
        exact ⟨⟨(max_le_iff.mp after).1, (le_min_iff.mp before).1⟩,
          (max_le_iff.mp after).2, (le_min_iff.mp before).2⟩
      · cases clipped
    · rintro ⟨⟨first, last⟩, entered, left⟩
      have after := max_le first entered
      have before := le_min last left
      exact ⟨_, if_pos (after.trans before), after, before⟩

omit [IsStrictOrderedRing F] in
theorem clip_ordered (given : range.1 ≤ range.2)
    (clipped : clip tolerance range a b low high = some next) : next.1 ≤ next.2 := by
  unfold clip at clipped
  simp only at clipped
  split at clipped
  · split at clipped
    · cases clipped
      exact given
    · cases clipped
  · split at clipped
    · cases clipped
      exact ‹_›
    · cases clipped

omit [IsStrictOrderedRing F] in
/-- The same with the two crossings swapped where they come in the other order. -/
theorem clip_eq_swapping : clip tolerance range a b low high =
    if |b - a| ≤ tolerance then if a < low ∨ high < a then none else some range
    else
      let near := crossing a b low
      let far := crossing a b high
      let entry := max range.1 (if far < near then far else near)
      let exit := min range.2 (if far < near then near else far)
      if exit < entry then none else some (entry, exit) := by
  have earlier (near far : F) : (if far < near then far else near) = min near far := by
    rw [min_comm, min_def_lt]
  have later (near far : F) : (if far < near then near else far) = max near far := by
    rw [max_comm, max_def_lt]
  simp only [clip, earlier, later, Within]
  simp only [← not_le, ← not_and_or, ite_not]
  congr

/-- Three axes leave some of the unit time exactly where all three are between their bounds. -/
theorem clip_three_iff (a b low high : Fin 3 → F) (nonneg : 0 ≤ tolerance)
    (ordered : low 0 ≤ high 0 ∧ low 1 ≤ high 1 ∧ low 2 ≤ high 2) :
    ((clip tolerance (0, 1) (a 0) (b 0) (low 0) (high 0)).bind fun range =>
      (clip tolerance range (a 1) (b 1) (low 1) (high 1)).bind fun range =>
        clip tolerance range (a 2) (b 2) (low 2) (high 2)).isSome = true ↔
      ∃ t, Within 0 1 t ∧ Within (low 0) (high 0) (heldAlong tolerance (a 0) (b 0) t) ∧
        Within (low 1) (high 1) (heldAlong tolerance (a 1) (b 1) t) ∧
        Within (low 2) (high 2) (heldAlong tolerance (a 2) (b 2) t) := by
  obtain ⟨orderedX, orderedY, orderedZ⟩ := ordered
  rw [Option.isSome_iff_exists]
  simp only [Option.bind_eq_some_iff]
  constructor
  · rintro ⟨last, first, clippedX, second, clippedY, clippedZ⟩
    have kept : last.1 ≤ last.2 :=
      clip_ordered (clip_ordered (clip_ordered zero_le_one clippedX) clippedY) clippedZ
    obtain ⟨time, inZ⟩ := (exists_clip_iff _ nonneg orderedZ).mp ⟨last, clippedZ, le_rfl, kept⟩
    obtain ⟨time, inY⟩ := (exists_clip_iff _ nonneg orderedY).mp ⟨second, clippedY, time⟩
    obtain ⟨time, inX⟩ := (exists_clip_iff _ nonneg orderedX).mp ⟨first, clippedX, time⟩
    exact ⟨last.1, time, inX, inY, inZ⟩
  · rintro ⟨t, time, inX, inY, inZ⟩
    obtain ⟨first, clippedX, time⟩ :=
      (exists_clip_iff ((0 : F), (1 : F)) nonneg orderedX).mpr ⟨time, inX⟩
    obtain ⟨second, clippedY, time⟩ := (exists_clip_iff _ nonneg orderedY).mpr ⟨time, inY⟩
    obtain ⟨last, clippedZ, time⟩ := (exists_clip_iff _ nonneg orderedZ).mpr ⟨time, inZ⟩
    exact ⟨last, first, clippedX, second, clippedY, clippedZ⟩

end Clipping

end Segments
