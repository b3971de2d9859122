import CrazySwarm.Lib.Paths
import Mathlib.Analysis.Calculus.Deriv.Basic
import Mathlib.Topology.Order.OrderClosed
import Mathlib.Data.List.Chain

/-! Curves that are given piece by piece: what holds on each of the closed intervals between
neighbouring knots, and carries over from two intervals with a common end to their union, holds
between the first knot and the last. A path that rests before and after a curve stays in bounds
where the turns of the curve do. -/
namespace Curves
open Set

/-- One function is the derivative of another one at every point of a set, from within it. -/
def Derives (f f' : ℝ → ℝ) (s : Set ℝ) : Prop := ∀ t ∈ s, HasDerivWithinAt f (f' t) s t

section Joins

variable {f f' : ℝ → ℝ} {a b c : ℝ}

theorem derives_point (f f' : ℝ → ℝ) (a : ℝ) : Derives f f' (Icc a a) := by
  intro t _
  rw [Icc_self]
  exact hasDerivWithinAt_iff_hasFDerivWithinAt.mpr (.of_subsingleton subsingleton_singleton)

theorem hasDerivWithinAt_of_notMem {s : Set ℝ} (closed : IsClosed s) {t : ℝ} (outside : t ∉ s)
    (slope : ℝ) : HasDerivWithinAt f slope s t := by
  rw [← closed.closure_eq] at outside
  exact hasDerivWithinAt_iff_hasFDerivWithinAt.mpr (.of_notMem_closure outside)

theorem Derives.join (left : Derives f f' (Icc a b)) (right : Derives f f' (Icc b c))
    (ordered : a ≤ b) (later : b ≤ c) : Derives f f' (Icc a c) := by
  intro t among
  rw [← Icc_union_Icc_eq_Icc ordered later]
  apply HasDerivWithinAt.union
  · by_cases inside : t ∈ Icc a b
    · exact left t inside
    · exact hasDerivWithinAt_of_notMem isClosed_Icc inside _
  · by_cases inside : t ∈ Icc b c
    · exact right t inside
    · exact hasDerivWithinAt_of_notMem isClosed_Icc inside _

theorem continuousOn_join (left : ContinuousOn f (Icc a b)) (right : ContinuousOn f (Icc b c))
    (ordered : a ≤ b) (later : b ≤ c) : ContinuousOn f (Icc a c) := by
  rw [← Icc_union_Icc_eq_Icc ordered later]
  exact left.union_of_isClosed right isClosed_Icc isClosed_Icc

end Joins

theorem between_knots {P : ℝ → ℝ → Prop} (point : ∀ a, P a a)
    (join : ∀ a b c, a ≤ b → b ≤ c → P a b → P b c → P a c) {first : ℝ} {rest : List ℝ}
    (pieces : (first :: rest).IsChain fun a b => a ≤ b ∧ P a b) :
    P first ((first :: rest).getLast (List.cons_ne_nil first rest)) := by
  have whole : first ≤ (first :: rest).getLast (List.cons_ne_nil first rest) ∧
      P first ((first :: rest).getLast (List.cons_ne_nil first rest)) := by
    induction rest generalizing first with
    | nil => exact ⟨le_rfl, point first⟩
    | cons second rest ih =>
      rw [List.isChain_cons_cons] at pieces
      obtain ⟨⟨ordered, piece⟩, pieces⟩ := pieces
      obtain ⟨later, whole⟩ := ih pieces
      rw [List.getLast_cons (List.cons_ne_nil second rest)]
      exact ⟨ordered.trans later, join _ _ _ ordered later piece whole⟩
  exact whole.2

section Passing

/-- A path that rests at the start of a curve, follows it from `s` to before `e`, and then rests at
its end; the curve itself rests after its time `d`. -/
structure Passes (path curve velocity : ℝ → ℝ) (s e d : ℝ) : Prop where
  positive : 0 < d
  derives : Derives curve velocity (Icc 0 d)
  rests : ∀ t, d ≤ t → curve t = curve d
  before : ∀ t ≤ s, path t = curve 0
  during : ∀ t, s < t → t < e → path t = curve (t - s)
  after : ∀ t, s < t → e ≤ t → path t = curve d

namespace Passes

variable {path curve velocity : ℝ → ℝ} {s e d : ℝ}

theorem leaves_inside (passes : Passes path curve velocity s e d) {low high a b : ℝ}
    (stays : ∀ t ∈ Icc a b, path t ∈ Icc low high) (begun : s < e) (among : e ∈ Ioc a b) :
    curve (e - s) ∈ Icc low high := by
  have start : max a s < e := max_lt among.1 begun
  have inside (t : ℝ) (between : t ∈ Ioo (max a s) e) : curve (t - s) ∈ Icc low high := by
    obtain ⟨past_a, past_s⟩ := max_lt_iff.mp between.1
    rw [← passes.during t past_s between.2]
    exact stays t ⟨past_a.le, between.2.le.trans among.2⟩
  by_cases short : e - s ≤ d
  · have continuous : ContinuousOn (fun t => curve (t - s)) (closure (Ioo (max a s) e)) := by
      rw [closure_Ioo start.ne]
      intro t between
      have within : t - s ∈ Icc 0 d := by
        have := (le_max_right a s).trans between.1
        constructor <;> linarith [between.2]
      have at_t := (passes.derives (t - s) within).continuousWithinAt
      refine at_t.comp (f := fun t' => t' - s) (by fun_prop) ?_
      intro t' between'
      have := (le_max_right a s).trans between'.1
      constructor <;> linarith [between'.2]
    have reached : e ∈ closure (Ioo (max a s) e) := by
      rw [closure_Ioo start.ne]
      exact ⟨start.le, le_rfl⟩
    have limit := continuous.image_closure (mem_image_of_mem _ reached)
    apply closure_minimal _ isClosed_Icc limit
    rintro _ ⟨t, between, rfl⟩
    exact inside t between
  · -- The curve already rests when the path leaves it.
    have late : max (max a s) (s + d) < e := max_lt start (by linarith)
    obtain ⟨t, past, early⟩ := exists_between late
    obtain ⟨past_start, past_curve⟩ := max_lt_iff.mp past
    have here := inside t ⟨past_start, early⟩
    rw [passes.rests (t - s) (by linarith)] at here
    rwa [passes.rests (e - s) (by linarith)]

/-- With its ends in bounds, a path stays in bounds exactly when the curve does at its turns and
where the path leaves it. -/
theorem stays_iff (passes : Passes path curve velocity s e d) (low high a b : ℝ) (first : path a ∈ Icc low high)
    (last : path b ∈ Icc low high) :
    (∀ t ∈ Icc a b, path t ∈ Icc low high) ↔
      ∀ t ∈ Ioc a b, s < t → t ≤ e → velocity (t - s) = 0 ∨ t = e →
        curve (t - s) ∈ Icc low high := by
  constructor
  · intro stays t among begun left turning
    rcases left.eq_or_lt with rfl | early
    · exact passes.leaves_inside stays begun among
    · rw [← passes.during t begun early]
      exact stays t ⟨among.1.le, among.2⟩
  · intro turns t among
    by_cases resting : t ≤ s
    · rw [passes.before t resting, ← passes.before a (among.1.trans resting)]
      exact first
    have begun := not_le.mp resting
    by_cases left : e ≤ t
    · rw [passes.after t begun left, ← passes.after b (begun.trans_le among.2) (left.trans among.2)]
      exact last
    have early := not_le.mp left
    rw [passes.during t begun early]
    -- The end of the curve, where the path can still be, and where the path comes from.
    have ended (reached : s + d ≤ b) : curve d ∈ Icc low high := by
      have past : s < b := begun.trans_le among.2
      by_cases left : e ≤ b
      · rw [← passes.after b past left]
        exact last
      · rw [← passes.rests (b - s) (by linarith), ← passes.during b past (not_le.mp left)]
        exact last
    have start : curve (max a s - s) ∈ Icc low high := by
      by_cases resting : a ≤ s
      · rw [max_eq_right resting, sub_self, ← passes.before a resting]
        exact first
      · have past := not_le.mp resting
        rw [max_eq_left past.le, ← passes.during a past (among.1.trans_lt early)]
        exact first
    by_cases arrived : s + d ≤ t
    · rw [passes.rests (t - s) (by linarith)]
      exact ended (arrived.trans among.2)
    have moving := not_le.mp arrived
    have finish : curve (min (min b e) (s + d) - s) ∈ Icc low high := by
      rcases le_total (s + d) (min b e) with long | short
      · rw [min_eq_right long, add_sub_cancel_left]
        exact ended (long.trans (min_le_left _ _))
      · rw [min_eq_left short]
        by_cases left : e ≤ b
        · rw [min_eq_right left]
          exact turns e ⟨among.1.trans_lt early, left⟩ (begun.trans early) le_rfl (.inr rfl)
        · have within := not_le.mp left
          rw [min_eq_left within.le, ← passes.during b (begun.trans_le among.2) within]
          exact last
    have before : t ≤ min (min b e) (s + d) := le_min (le_min among.2 early.le) moving.le
    have after : max a s ≤ t := max_le among.1 begun.le
    have inner (t' : ℝ) (inside : t' ∈ Icc (max a s - s) (min (min b e) (s + d) - s)) :
        t' ∈ Icc 0 d := by
      have low := le_max_right a s
      have high := min_le_right (min b e) (s + d)
      constructor <;> linarith [inside.1, inside.2]
    have ordered : max a s - s ≤ min (min b e) (s + d) - s := by linarith
    have smooth : ContinuousOn curve (Icc (max a s - s) (min (min b e) (s + d) - s)) := fun t' inside =>
      (passes.derives t' (inner t' inside)).continuousWithinAt.mono inner
    have slope : ∀ t' ∈ Ioo (max a s - s) (min (min b e) (s + d) - s),
        HasDerivAt curve (velocity t') t' := by
      intro t' inside
      have low := le_max_right a s
      have high := min_le_right (min b e) (s + d)
      apply (passes.derives t' (inner t' ⟨inside.1.le, inside.2.le⟩)).hasDerivAt
      apply Icc_mem_nhds <;> linarith [inside.1, inside.2]
    apply (Paths.stays_iff_turns low high ordered smooth slope).mpr ⟨start, finish, ?_⟩
    · constructor <;> linarith
    · intro t' inside turning
      have past_a := le_max_left a s
      have past_s := le_max_right a s
      have until_b := (min_le_left (min b e) (s + d)).trans (min_le_left b e)
      have until_e := (min_le_left (min b e) (s + d)).trans (min_le_right b e)
      have here := turns (t' + s) ⟨by linarith [inside.1], by linarith [inside.2]⟩
        (by linarith [inside.1]) (by linarith [inside.2]) (.inl (by simpa using turning))
      simpa using here

end Passes

end Passing

end Curves
