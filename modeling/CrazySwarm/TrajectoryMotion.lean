import CrazySwarm.CampaignTrajectory
import CrazySwarm.ExecutionPrograms
import Mathlib

/-! The motion of one axis between two knots over exact time: it starts and ends at the knots, its
velocity is the derivative of its position, and between two points of rest it is the same curve
up to scale. -/
namespace CrazySwarm
open PyFloat (ofRat)
open Set
open scoped Numerals

/-- The time that a sample of a segment is taken at. -/
noncomputable def clampedTimeS (durationS elapsedS : ℝ) : ℝ := max 0 (min durationS elapsedS)

theorem clampedTimeS_of_mem {durationS elapsedS : ℝ} (inside : elapsedS ∈ Icc 0 durationS) :
    clampedTimeS durationS elapsedS = elapsedS := by
  rw [clampedTimeS, min_eq_right inside.2, max_eq_right inside.1]

theorem clampedTimeS_mem {durationS : ℝ} (nonneg : 0 ≤ durationS) (elapsedS : ℝ) :
    clampedTimeS durationS elapsedS ∈ Icc 0 durationS :=
  ⟨le_max_left _ _, max_le nonneg (min_le_left _ _)⟩

/-- Clamping does not move two times further apart. -/
theorem clampedTimeS_sub_mem (durationS : ℝ) {before after : ℝ} (ordered : before ≤ after) :
    clampedTimeS durationS after - clampedTimeS durationS before ∈ Icc 0 (after - before) := by
  simp only [clampedTimeS]
  constructor
  · exact sub_nonneg.mpr (max_le_max_left 0 (min_le_min_left durationS ordered))
  · rcases le_total durationS after with _ | _ <;> rcases le_total durationS before with _ | _ <;>
      simp only [min_eq_left, min_eq_right, *] <;>
      rcases le_total 0 after with _ | _ <;> rcases le_total 0 before with _ | _ <;>
      rcases le_total 0 durationS with _ | _ <;> simp only [max_eq_left, max_eq_right, *] <;>
      linarith

/-- The state of one axis at the two knots of a segment. -/
structure AxisEnds where
  position : ℝ
  velocity : ℝ
  acceleration : ℝ
  endPosition : ℝ
  endVelocity : ℝ
  endAcceleration : ℝ

namespace AxisEnds

noncomputable section

variable (ends : AxisEnds) (durationS timeS : ℝ)

def sample : AxisSample ℝ :=
  quinticSample ends.position ends.velocity ends.acceleration ends.endPosition ends.endVelocity
    ends.endAcceleration durationS timeS

/-- What the straight prolongation of the start misses the end by. -/
def missedPosition : ℝ :=
  ends.endPosition -
    (ends.position + ends.velocity * durationS + ends.acceleration / 2 * durationS ^ 2)

def missedVelocity : ℝ := ends.endVelocity - (ends.velocity + 2 * (ends.acceleration / 2) * durationS)

def missedAcceleration : ℝ := ends.endAcceleration - 2 * (ends.acceleration / 2)

def cubic : ℝ :=
  (10 * ends.missedPosition durationS - 4 * ends.missedVelocity durationS * durationS +
    1 / 2 * ends.missedAcceleration * durationS ^ 2) / durationS ^ 3

def quartic : ℝ :=
  (-15 * ends.missedPosition durationS + 7 * ends.missedVelocity durationS * durationS -
    ends.missedAcceleration * durationS ^ 2) / durationS ^ 4

def quintic : ℝ :=
  (6 * ends.missedPosition durationS - 3 * ends.missedVelocity durationS * durationS +
    1 / 2 * ends.missedAcceleration * durationS ^ 2) / durationS ^ 5

def positionAt : ℝ :=
  ends.position + ends.velocity * timeS + ends.acceleration / 2 * timeS ^ 2 +
    ends.cubic durationS * timeS ^ 3 + ends.quartic durationS * timeS ^ 4 +
    ends.quintic durationS * timeS ^ 5

def velocityAt : ℝ :=
  ends.velocity + 2 * (ends.acceleration / 2) * timeS + 3 * ends.cubic durationS * timeS ^ 2 +
    4 * ends.quartic durationS * timeS ^ 3 + 5 * ends.quintic durationS * timeS ^ 4

def accelerationAt : ℝ :=
  2 * (ends.acceleration / 2) + 6 * ends.cubic durationS * timeS +
    12 * ends.quartic durationS * timeS ^ 2 + 20 * ends.quintic durationS * timeS ^ 3

end

variable {ends : AxisEnds} {durationS timeS : ℝ}

theorem sample_eq (ends : AxisEnds) (durationS elapsedS : ℝ) :
    ends.sample durationS elapsedS =
      ⟨ends.positionAt durationS (clampedTimeS durationS elapsedS),
        ends.velocityAt durationS (clampedTimeS durationS elapsedS),
        ends.accelerationAt durationS (clampedTimeS durationS elapsedS)⟩ := by
  simp only [sample, quinticSample, positionAt, velocityAt, accelerationAt, cubic, quartic, quintic,
    missedPosition, missedVelocity, missedAcceleration, clampedTimeS, Exact.plus, Exact.minus,
    Exact.times, Exact.over_eq, Exact.max_eq, Exact.min_eq, Exact.zero_eq, Exact.ofRat_cast,
    Exact.pow_eq]
  norm_num

theorem hasDerivAt_positionAt (ends : AxisEnds) (durationS timeS : ℝ) :
    HasDerivAt (ends.positionAt durationS) (ends.velocityAt durationS timeS) timeS := by
  have power (coefficient : ℝ) (n : ℕ) : HasDerivAt (fun timeS => coefficient * timeS ^ n)
      (coefficient * (n * timeS ^ (n - 1))) timeS := (hasDerivAt_pow n timeS).const_mul coefficient
  have linear : HasDerivAt (fun timeS => ends.velocity * timeS) ends.velocity timeS := by
    simpa using (hasDerivAt_id timeS).const_mul ends.velocity
  have sum := ((((linear.const_add ends.position).add (power (ends.acceleration / 2) 2)).add
    (power (ends.cubic durationS) 3)).add (power (ends.quartic durationS) 4)).add
    (power (ends.quintic durationS) 5)
  apply sum.congr_deriv
  simp only [velocityAt]
  push_cast
  ring

theorem positionAt_zero : ends.positionAt durationS 0 = ends.position := by
  simp [positionAt]

theorem positionAt_end (positive : 0 < durationS) :
    ends.positionAt durationS durationS = ends.endPosition := by
  simp only [positionAt, cubic, quartic, quintic, missedPosition, missedVelocity,
    missedAcceleration]
  field_simp
  ring

end AxisEnds

section Rest

variable {start goal durationS timeS : ℝ}

def AxisEnds.rest (start goal : ℝ) : AxisEnds := ⟨start, 0, 0, goal, 0, 0⟩

theorem positionAt_rest (positive : 0 < durationS) :
    (AxisEnds.rest start goal).positionAt durationS (durationS * timeS) =
      start + (goal - start) * (10 * timeS ^ 3 - 15 * timeS ^ 4 + 6 * timeS ^ 5) := by
  simp only [AxisEnds.rest, AxisEnds.positionAt, AxisEnds.cubic, AxisEnds.quartic,
    AxisEnds.quintic, AxisEnds.missedPosition, AxisEnds.missedVelocity,
    AxisEnds.missedAcceleration]
  field_simp
  ring

theorem velocityAt_rest (positive : 0 < durationS) :
    (AxisEnds.rest start goal).velocityAt durationS (durationS * timeS) =
      (goal - start) / durationS * (30 * (timeS * (1 - timeS)) ^ 2) := by
  simp only [AxisEnds.rest, AxisEnds.velocityAt, AxisEnds.cubic, AxisEnds.quartic,
    AxisEnds.quintic, AxisEnds.missedPosition, AxisEnds.missedVelocity,
    AxisEnds.missedAcceleration]
  field_simp
  ring

theorem accelerationAt_rest (positive : 0 < durationS) :
    (AxisEnds.rest start goal).accelerationAt durationS (durationS * timeS) =
      (goal - start) / durationS ^ 2 * (60 * (timeS * (1 - timeS)) * (1 - 2 * timeS)) := by
  simp only [AxisEnds.rest, AxisEnds.accelerationAt, AxisEnds.cubic, AxisEnds.quartic,
    AxisEnds.quintic, AxisEnds.missedPosition, AxisEnds.missedVelocity,
    AxisEnds.missedAcceleration]
  field_simp
  ring

theorem exists_share (positive : 0 < durationS) (elapsedS : ℝ) :
    ∃ share ∈ Icc (0 : ℝ) 1, clampedTimeS durationS elapsedS = durationS * share := by
  have inside := clampedTimeS_mem positive.le elapsedS
  refine ⟨clampedTimeS durationS elapsedS / durationS, ⟨?_, ?_⟩, ?_⟩
  · exact div_nonneg inside.1 positive.le
  · exact (div_le_one positive).mpr inside.2
  · field_simp

theorem share_mul_rest_le {share : ℝ} (inside : share ∈ Icc (0 : ℝ) 1) :
    share * (1 - share) ∈ Icc (0 : ℝ) (1 / 4) := by
  constructor
  · exact mul_nonneg inside.1 (by linarith [inside.2])
  · nlinarith [sq_nonneg (share - 1 / 2)]

theorem abs_velocity_rest_le (start goal : ℝ) (positive : 0 < durationS) (elapsedS : ℝ) :
    |((AxisEnds.rest start goal).sample durationS elapsedS).velocity| ≤
      15 / 8 * (|goal - start| / durationS) := by
  obtain ⟨share, inside, same⟩ := exists_share positive elapsedS
  obtain ⟨nonneg, most⟩ := share_mul_rest_le inside
  rw [AxisEnds.sample_eq, same]
  change |(AxisEnds.rest start goal).velocityAt durationS (durationS * share)| ≤ _
  rw [velocityAt_rest positive, abs_mul, abs_div, abs_of_pos positive,
    abs_of_nonneg (by positivity : 0 ≤ 30 * (share * (1 - share)) ^ 2)]
  have square : 30 * (share * (1 - share)) ^ 2 ≤ 15 / 8 := by nlinarith
  have scale : 0 ≤ |goal - start| / durationS := by positivity
  nlinarith

theorem abs_acceleration_rest_le (start goal : ℝ) (positive : 0 < durationS) (elapsedS : ℝ) :
    |((AxisEnds.rest start goal).sample durationS elapsedS).acceleration| ≤
      15 * (|goal - start| / durationS ^ 2) := by
  obtain ⟨share, inside, same⟩ := exists_share positive elapsedS
  obtain ⟨nonneg, most⟩ := share_mul_rest_le inside
  rw [AxisEnds.sample_eq, same]
  change |(AxisEnds.rest start goal).accelerationAt durationS (durationS * share)| ≤ _
  rw [accelerationAt_rest positive, abs_mul, abs_div, abs_of_pos (pow_pos positive 2)]
  have turning : |1 - 2 * share| ≤ 1 := abs_le.mpr ⟨by linarith [inside.2], by linarith [inside.1]⟩
  have shape : |60 * (share * (1 - share)) * (1 - 2 * share)| ≤ 15 := by
    rw [abs_mul, abs_of_nonneg (by linarith : 0 ≤ 60 * (share * (1 - share)))]
    nlinarith [abs_nonneg (1 - 2 * share)]
  have scale : 0 ≤ |goal - start| / durationS ^ 2 := by positivity
  nlinarith

/-- The acceleration changes at a bounded rate. -/
theorem abs_acceleration_rest_sub_le (start goal : ℝ) (positive : 0 < durationS) {before after : ℝ}
    (ordered : before ≤ after) :
    |((AxisEnds.rest start goal).sample durationS after).acceleration -
        ((AxisEnds.rest start goal).sample durationS before).acceleration| ≤
      60 * (|goal - start| / durationS ^ 3) * (after - before) := by
  obtain ⟨first, firstInside, firstSame⟩ := exists_share positive before
  obtain ⟨last, lastInside, lastSame⟩ := exists_share positive after
  obtain ⟨forward, apart⟩ := clampedTimeS_sub_mem durationS ordered
  rw [firstSame, lastSame, ← mul_sub] at forward apart
  rw [AxisEnds.sample_eq, AxisEnds.sample_eq, firstSame, lastSame]
  change |(AxisEnds.rest start goal).accelerationAt durationS (durationS * last) -
    (AxisEnds.rest start goal).accelerationAt durationS (durationS * first)| ≤ _
  rw [accelerationAt_rest positive, accelerationAt_rest positive]
  have quotient : (goal - start) / durationS ^ 2 * (60 * (last * (1 - last)) * (1 - 2 * last)) -
      (goal - start) / durationS ^ 2 * (60 * (first * (1 - first)) * (1 - 2 * first)) =
      60 * ((goal - start) / durationS ^ 3) *
        (1 - 3 * (last + first) + 2 * (last ^ 2 + last * first + first ^ 2)) *
        (durationS * (last - first)) := by
    field_simp
    ring
  have shape : |1 - 3 * (last + first) + 2 * (last ^ 2 + last * first + first ^ 2)| ≤ 1 := by
    obtain ⟨_, _⟩ := firstInside
    obtain ⟨_, _⟩ := lastInside
    rw [abs_le]
    constructor
    · nlinarith [sq_nonneg (last + first - 1), sq_nonneg (last - first)]
    · nlinarith [mul_nonneg ‹0 ≤ last› (sub_nonneg.mpr ‹last ≤ 1›),
        mul_nonneg ‹0 ≤ first› (sub_nonneg.mpr ‹first ≤ 1›), sq_nonneg (last - first)]
  rw [quotient, abs_mul, abs_mul, abs_mul, abs_div, abs_of_pos (pow_pos positive 3),
    abs_of_nonneg forward, abs_of_pos (by norm_num : (0 : ℝ) < 60)]
  have scale : 0 ≤ 60 * (|goal - start| / durationS ^ 3) := by positivity
  calc 60 * (|goal - start| / durationS ^ 3) * _ * (durationS * (last - first))
      ≤ 60 * (|goal - start| / durationS ^ 3) * 1 * (durationS * (last - first)) := by
        gcongr
    _ ≤ 60 * (|goal - start| / durationS ^ 3) * (after - before) := by
        rw [mul_one]
        gcongr

/-- From a point to itself nothing moves. -/
theorem rest_still (start : ℝ) (positive : 0 < durationS) (elapsedS : ℝ) :
    ((AxisEnds.rest start start).sample durationS elapsedS).velocity = 0 ∧
      ((AxisEnds.rest start start).sample durationS elapsedS).acceleration = 0 := by
  constructor
  · apply abs_nonpos_iff.mp
    simpa using abs_velocity_rest_le start start positive elapsedS
  · apply abs_nonpos_iff.mp
    simpa using abs_acceleration_rest_le start start positive elapsedS

end Rest

/-- A vector along the first axis. -/
theorem norm_along (value : ℝ) : CampaignTrajectory.norm ⟨value, 0, 0⟩ = |value| := by
  simp [CampaignTrajectory.norm, Real.sqrt_mul_self_eq_abs]

end CrazySwarm
