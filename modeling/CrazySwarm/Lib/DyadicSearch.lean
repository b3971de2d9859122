import Mathlib.Algebra.Order.Floor.Div
import Mathlib.Tactic.Ring

/-! A search for a safe number that first probes the multiples of a power of two and then bisects:
which number it ends at, whatever lies between the numbers that it probes. -/
namespace DyadicSearch

/-- The first multiple of a step that is not below a number. -/
def roundUp (step n : ℕ) : ℕ := step * (n ⌈/⌉ step)

theorem roundUp_eq {step low n : ℕ} (aligned : step ∣ low) (above : low < n) (near : n ≤ low + step) :
    roundUp step n = low + step := by
  obtain ⟨quotient, rfl⟩ := aligned
  have positive : 0 < step := by omega
  have count : n ⌈/⌉ step = quotient + 1 := by
    apply le_antisymm
    · rw [ceilDiv_le_iff_le_mul positive, Nat.mul_succ]
      exact near
    · by_contra fewer
      have most : n ⌈/⌉ step ≤ quotient := by omega
      rw [ceilDiv_le_iff_le_mul positive] at most
      omega
  rw [roundUp, count, Nat.mul_succ]

/-- The bisection of an interval of `2 ^ rounds` numbers above a low end. -/
def bisect (safe : ℕ → Bool) : ℕ → ℕ → ℕ
  | 0, low => low + 1
  | rounds + 1, low =>
    if safe (low + 2 ^ rounds) then bisect safe rounds low
    else bisect safe rounds (low + 2 ^ rounds)

variable {safe : ℕ → Bool} {rounds low n : ℕ}

theorem bisect_inside (safe : ℕ → Bool) (rounds low : ℕ) :
    low < bisect safe rounds low ∧ bisect safe rounds low ≤ low + 2 ^ rounds := by
  induction rounds generalizing low with
  | zero => exact ⟨Nat.lt_succ_self low, le_rfl⟩
  | succ rounds ih =>
    have double : 2 ^ (rounds + 1) = 2 ^ rounds + 2 ^ rounds := by ring
    rw [bisect]
    split
    · have inside := ih low
      omega
    · have inside := ih (low + 2 ^ rounds)
      omega

theorem bisect_safe (found : safe (low + 2 ^ rounds) = true) :
    safe (bisect safe rounds low) = true := by
  induction rounds generalizing low with
  | zero => exact found
  | succ rounds ih =>
    rw [bisect]
    split
    next middle => exact ih middle
    next =>
      refine ih ?_
      rwa [Nat.add_assoc, ← Nat.mul_two, ← Nat.pow_succ]

/-- The number before the one that is found has been probed. -/
theorem bisect_pred (unsafe_low : safe low = false) :
    safe (bisect safe rounds low - 1) = false := by
  induction rounds generalizing low with
  | zero => exact unsafe_low
  | succ rounds ih =>
    rw [bisect]
    split
    next => exact ih unsafe_low
    next middle => exact ih (Bool.not_eq_true _ ▸ middle)

/-- The bisection finds the first safe number exactly if each multiple of a power of two that it
probes on the way there is safe. -/
theorem bisect_eq_iff (aligned : 2 ^ rounds ∣ low) (above : low < n) (near : n ≤ low + 2 ^ rounds)
    (first : ∀ i, low < i → i < n → safe i = false) (found : safe (low + 2 ^ rounds) = true) :
    bisect safe rounds low = n ↔ ∀ r ≤ rounds, safe (roundUp (2 ^ r) n) = true := by
  induction rounds generalizing low with
  | zero =>
    have only : n = low + 1 := by omega
    refine iff_of_true only.symm fun r none => ?_
    obtain rfl : r = 0 := by omega
    rwa [roundUp_eq (by simp) above near]
  | succ rounds ih =>
    have double : 2 ^ (rounds + 1) = 2 ^ rounds + 2 ^ rounds := by ring
    have half : 2 ^ rounds ∣ low := (pow_dvd_pow 2 (Nat.le_succ rounds)).trans aligned
    have whole : roundUp (2 ^ (rounds + 1)) n = low + 2 ^ (rounds + 1) :=
      roundUp_eq aligned above near
    have steps : (∀ r ≤ rounds + 1, safe (roundUp (2 ^ r) n) = true) ↔
        ∀ r ≤ rounds, safe (roundUp (2 ^ r) n) = true := by
      refine ⟨fun each r small => each r (by omega), fun each r small => ?_⟩
      rcases Nat.lt_or_ge r (rounds + 1) with smaller | last
      · exact each r (by omega)
      · obtain rfl : r = rounds + 1 := by omega
        rwa [whole]
    rw [steps, bisect]
    rcases Nat.lt_or_ge (low + 2 ^ rounds) n with later | earlier
    · have middle : safe (low + 2 ^ rounds) = false :=
        first _ (by have := Nat.two_pow_pos rounds; omega) later
      rw [if_neg (by simp [middle])]
      refine ih (Nat.dvd_add half (dvd_refl _)) later (by omega) (fun i after => ?_) ?_
      · exact first i (by omega)
      · rwa [Nat.add_assoc, ← double]
    · have middle : roundUp (2 ^ rounds) n = low + 2 ^ rounds := roundUp_eq half above earlier
      split
      case isTrue safe_middle => exact ih half above earlier first safe_middle
      case isFalse unsafe_middle =>
        refine iff_of_false (fun same => ?_) fun each => ?_
        · have inside := bisect_inside safe rounds (low + 2 ^ rounds)
          omega
        · refine unsafe_middle ?_
          rw [← middle]
          exact each rounds le_rfl

/-! ## Probing -/

def probe (safe : ℕ → Bool) (step : ℕ) : ℕ → ℕ → Option ℕ
  | 0, _ => none
  | count + 1, index =>
    if safe (step * index) then some index else probe safe step count (index + 1)

/-- The search: the interval before the first safe multiple of `2 ^ rounds` is bisected. -/
def search (safe : ℕ → Bool) (rounds count : ℕ) : Option ℕ :=
  (probe safe (2 ^ rounds) count 1).map fun index => bisect safe rounds (2 ^ rounds * (index - 1))

variable {step count index found m : ℕ}

theorem probe_eq_some (ok : probe safe step count index = some found) : index ≤ found ∧
    safe (step * found) = true ∧ ∀ i, index ≤ i → i < found → safe (step * i) = false := by
  induction count generalizing index with
  | zero => cases ok
  | succ count ih =>
    rw [probe] at ok
    split at ok
    case isTrue here =>
      cases ok
      exact ⟨le_rfl, here, fun i after before => absurd after (by omega)⟩
    case isFalse missed =>
      obtain ⟨later, reached, before⟩ := ih ok
      refine ⟨by omega, reached, fun i after earlier => ?_⟩
      rcases Nat.eq_or_lt_of_le after with rfl | after
      · simpa using missed
      · exact before i after earlier

/-- What the search finds is safe, the number before it is not, and it is the first safe number
exactly if what the search probes on the way to that is safe. -/
theorem search_eq_some (ok : search safe rounds count = some m) (unsafe_zero : safe 0 = false) :
    0 < m ∧ safe m = true ∧ safe (m - 1) = false ∧ ∀ n, (∀ i < n, safe i = false) →
      (m = n ↔ ∀ r ≤ rounds, safe (roundUp (2 ^ r) n) = true) := by
  obtain ⟨index, probed, rfl⟩ := Option.map_eq_some_iff.mp ok
  obtain ⟨some_index, reached, before⟩ := probe_eq_some probed
  have next : 2 ^ rounds * (index - 1) + 2 ^ rounds = 2 ^ rounds * index := by
    rw [← Nat.mul_succ]
    congr 1
    omega
  have unsafe_probe (i : ℕ) (earlier : i < index) : safe (2 ^ rounds * i) = false := by
    rcases Nat.eq_zero_or_pos i with rfl | later
    · exact unsafe_zero
    · exact before i later earlier
  have reached_end : safe (2 ^ rounds * (index - 1) + 2 ^ rounds) = true := by
    rwa [next]
  have inside := bisect_inside safe rounds (2 ^ rounds * (index - 1))
  refine ⟨by omega, bisect_safe reached_end, bisect_pred (unsafe_probe _ (by omega)), ?_⟩
  intro n first
  have near : n ≤ 2 ^ rounds * index := by
    by_contra beyond
    have none := first _ (not_le.mp beyond)
    rw [reached] at none
    cases none
  rcases Nat.lt_or_ge (2 ^ rounds * (index - 1)) n with above | earlier
  · exact bisect_eq_iff (Nat.dvd_mul_right ..) above (by omega) (fun i _ below => first i below)
      reached_end
  · -- The probe that comes first after the number has been found unsafe.
    refine iff_of_false (by omega) fun each => ?_
    have positive : 0 < 2 ^ rounds := Nat.two_pow_pos rounds
    have small : n ⌈/⌉ 2 ^ rounds ≤ index - 1 := (ceilDiv_le_iff_le_mul positive).mpr earlier
    have missed := unsafe_probe (n ⌈/⌉ 2 ^ rounds) (by omega)
    have passed := each rounds le_rfl
    rw [roundUp, missed] at passed
    cases passed

end DyadicSearch
