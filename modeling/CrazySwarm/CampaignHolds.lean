import CrazySwarm.CampaignProfiles
import CrazySwarm.TrajectorySampling

/-! The holds of a time allocation: where they are put into the knots, how they move the later
knots, and when the vehicle is still during one. -/
namespace CrazySwarm
open PyFloat (le lt ofRat)

namespace CampaignTrajectory

/-! ## Inserting holds -/

section Insertion

variable {F : Type} [Field F] [LinearOrder F] [PyMath F]

/-- By how much the holds before a knot delay it. -/
def delay (dwellByIndex : ℕ → F) (index : ℕ) : F := ∑ i ∈ Finset.range index, max (dwellByIndex i) 0

def movedKnot (dwellByIndex : ℕ → F) (index : ℕ) (point : TrajectoryPoint F) : TrajectoryPoint F :=
  { point with sequence := 0, timeFromStartS := point.timeFromStartS + delay dwellByIndex index }

/-- The knot at the end of a hold. -/
def heldKnot (dwellByIndex : ℕ → F) (index : ℕ) (point : TrajectoryPoint F) : TrajectoryPoint F where
  sequence := 0
  timeFromStartS := point.timeFromStartS + delay dwellByIndex (index + 1)
  positionM := point.positionM
  velocityMS := .zero
  accelerationMS2 := .zero
  yawRad := 0
  yawRateRadS := 0

def withHolds (dwellByIndex : ℕ → F) : ℕ → List (TrajectoryPoint F) → List (TrajectoryPoint F)
  | _, [] => []
  | index, point :: rest =>
    movedKnot dwellByIndex index point ::
      if 0 < dwellByIndex index then
        heldKnot dwellByIndex index point :: withHolds dwellByIndex (index + 1) rest
      else withHolds dwellByIndex (index + 1) rest

def unnumbered (point : TrajectoryPoint F) : TrajectoryPoint F := { point with sequence := 0 }

variable {dwellByIndex : ℕ → F} {index : ℕ}

omit [PyMath F] in
theorem delay_succ_of_pos (positive : 0 < dwellByIndex index) :
    delay dwellByIndex (index + 1) = delay dwellByIndex index + dwellByIndex index := by
  rw [delay, Finset.sum_range_succ, max_eq_left positive.le, delay]

omit [PyMath F] in
theorem delay_succ_of_nonpos (none : ¬0 < dwellByIndex index) :
    delay dwellByIndex (index + 1) = delay dwellByIndex index := by
  rw [delay, Finset.sum_range_succ, max_eq_right (not_lt.mp none), add_zero, delay]

variable [IsStrictOrderedRing F]

omit [PyMath F] in
theorem delay_mono : Monotone (delay dwellByIndex) :=
  monotone_nat_of_le_succ fun index => by
    rw [delay, delay, Finset.sum_range_succ]
    exact le_add_of_nonneg_right (le_max_right _ _)

variable [Exact F]

/-- What the loop adds is the rest with its holds, numbered on. By induction on the rest. -/
theorem insertHolds_spec (dwellByIndex : ℕ → F) (points : List (TrajectoryPoint F)) (index : ℕ)
    (expanded : List (TrajectoryPoint F)) :
    ∃ added, insertHolds dwellByIndex index (delay dwellByIndex index) expanded points =
        expanded ++ added ∧
      added.map TrajectoryPoint.sequence = List.range' (expanded.length + 1) added.length ∧
      added.map unnumbered = withHolds dwellByIndex index points := by
  induction points generalizing index expanded with
  | nil => exact ⟨[], by simp [insertHolds], rfl, rfl⟩
  | cons point rest ih =>
    let moved : TrajectoryPoint F :=
      { movedKnot dwellByIndex index point with sequence := expanded.length + 1 }
    by_cases positive : 0 < dwellByIndex index
    · let held : TrajectoryPoint F :=
        { heldKnot dwellByIndex index point with sequence := expanded.length + 2 }
      have step : insertHolds dwellByIndex index (delay dwellByIndex index) expanded (point :: rest) =
          insertHolds dwellByIndex (index + 1) (delay dwellByIndex (index + 1))
            (expanded ++ [moved, held]) rest := by
        simp only [insertHolds, Exact.zero_eq, Exact.lt_true, Exact.plus, if_pos positive,
          ← delay_succ_of_pos positive]
        rfl
      obtain ⟨added, inserted, numbered, kept⟩ := ih (index + 1) (expanded ++ [moved, held])
      refine ⟨moved :: held :: added, ?_, ?_, ?_⟩
      · rw [step, inserted, List.append_assoc]
        rfl
      · have count : (moved :: held :: added).length = added.length + 1 + 1 := rfl
        rw [List.map_cons, List.map_cons, numbered, List.length_append, count, List.range'_succ,
          List.range'_succ]
        rfl
      · rw [List.map_cons, List.map_cons, kept, withHolds, if_pos positive]
        rfl
    · have step : insertHolds dwellByIndex index (delay dwellByIndex index) expanded (point :: rest) =
          insertHolds dwellByIndex (index + 1) (delay dwellByIndex (index + 1))
            (expanded ++ [moved]) rest := by
        simp only [insertHolds, Exact.zero_eq, Exact.lt_true, Exact.plus, if_neg positive,
          delay_succ_of_nonpos positive]
        rfl
      obtain ⟨added, inserted, numbered, kept⟩ := ih (index + 1) (expanded ++ [moved])
      refine ⟨moved :: added, ?_, ?_, ?_⟩
      · rw [step, inserted, List.append_assoc]
        rfl
      · have count : (moved :: added).length = added.length + 1 := rfl
        rw [List.map_cons, numbered, List.length_append, count, List.range'_succ]
        rfl
      · rw [List.map_cons, kept, withHolds, if_neg positive]
        rfl

/-- Without holds nothing changes. By induction on the knots. -/
theorem insertHolds_none (none : ∀ index, ¬0 < dwellByIndex index) {points : List (TrajectoryPoint F)}
    {expanded : List (TrajectoryPoint F)} (numbered : points.map TrajectoryPoint.sequence =
      List.range' (expanded.length + 1) points.length) :
    insertHolds dwellByIndex index 0 expanded points = expanded ++ points := by
  induction points generalizing index expanded with
  | nil => simp [insertHolds]
  | cons point rest ih =>
    rw [List.map_cons, List.length_cons, List.range'_succ, List.cons.injEq] at numbered
    let first : TrajectoryPoint F :=
      { point with
        sequence := expanded.length + 1
        timeFromStartS := PyFloat.add point.timeFromStartS 0 }
    have same : first = point := by
      simp only [first, Exact.add_eq, add_zero, ← numbered.1]
    have after : rest.map TrajectoryPoint.sequence =
        List.range' ((expanded ++ [point]).length + 1) rest.length := by
      rw [List.length_append, List.length_singleton]
      exact numbered.2
    have step : insertHolds dwellByIndex index 0 expanded (point :: rest) =
        insertHolds dwellByIndex (index + 1) 0 (expanded ++ [point]) rest := by
      rw [insertHolds]
      simp only [Exact.zero_eq, Exact.lt_true, if_neg (none index)]
      exact congrArg (fun first => insertHolds dwellByIndex (index + 1) 0 (expanded ++ [first]) rest)
        same
    rw [step, ih after, List.append_assoc]
    rfl

omit [Exact F] in
theorem le_time_of_mem_withHolds {points : List (TrajectoryPoint F)} {index : ℕ}
    {knot : TrajectoryPoint F} (member : knot ∈ withHolds dwellByIndex index points) :
    ∃ point ∈ points, point.timeFromStartS + delay dwellByIndex index ≤ knot.timeFromStartS := by
  induction points generalizing index with
  | nil => cases member
  | cons point rest ih =>
    have later (member : knot ∈ withHolds dwellByIndex (index + 1) rest) : ∃ other ∈ point :: rest,
        other.timeFromStartS + delay dwellByIndex index ≤ knot.timeFromStartS := by
      obtain ⟨other, among, before⟩ := ih member
      have grown : delay dwellByIndex index ≤ delay dwellByIndex (index + 1) :=
        delay_mono (Nat.le_succ index)
      exact ⟨other, List.mem_cons_of_mem _ among, by linarith⟩
    rw [withHolds] at member
    rcases List.mem_cons.mp member with rfl | member
    · exact ⟨point, List.mem_cons_self, le_rfl⟩
    · split at member
      · rcases List.mem_cons.mp member with rfl | member
        · have grown : delay dwellByIndex index ≤ delay dwellByIndex (index + 1) :=
            delay_mono (Nat.le_succ index)
          exact ⟨point, List.mem_cons_self, add_le_add_right grown _⟩
        · exact later member
      · exact later member

omit [Exact F] in
/-- Holds keep the times in their order. -/
theorem withHolds_increasing {points : List (TrajectoryPoint F)}
    (increasing : (points.map TrajectoryPoint.timeFromStartS).Pairwise (· < ·)) (index : ℕ) :
    ((withHolds dwellByIndex index points).map TrajectoryPoint.timeFromStartS).Pairwise
      (· < ·) := by
  induction points generalizing index with
  | nil => exact List.Pairwise.nil
  | cons point rest ih =>
    rw [List.map_cons, List.pairwise_cons] at increasing
    obtain ⟨first, increasing⟩ := increasing
    have after {knot : TrajectoryPoint F} (member : knot ∈ withHolds dwellByIndex (index + 1) rest) :
        point.timeFromStartS + delay dwellByIndex (index + 1) < knot.timeFromStartS := by
      obtain ⟨other, among, before⟩ := le_time_of_mem_withHolds member
      have apart := first _ (List.mem_map_of_mem among)
      linarith
    have grown : delay dwellByIndex index ≤ delay dwellByIndex (index + 1) :=
      delay_mono (Nat.le_succ index)
    rw [withHolds]
    split
    case isTrue positive =>
      have held := delay_succ_of_pos positive
      rw [List.map_cons, List.map_cons, List.pairwise_cons, List.pairwise_cons]
      refine ⟨?_, ?_, ih increasing (index + 1)⟩
      · simp only [List.mem_cons, List.mem_map, movedKnot, heldKnot]
        rintro _ (rfl | ⟨knot, member, rfl⟩)
        · linarith
        · linarith [after member]
      · simp only [List.mem_map, heldKnot]
        rintro _ ⟨knot, member, rfl⟩
        exact after member
    case isFalse =>
      rw [List.map_cons, List.pairwise_cons]
      refine ⟨?_, ih increasing (index + 1)⟩
      simp only [List.mem_map, movedKnot]
      rintro _ ⟨knot, member, rfl⟩
      linarith [after member]

end Insertion

/-! ## Rest during a hold -/

section Rest

variable {F : Type} [Field F] [LinearOrder F] [IsStrictOrderedRing F] [PyMath F] [Exact F]
variable {position velocity acceleration durationS elapsedS : F}

/-- Where an axis is that ends at rest where it began. -/
theorem quinticSample_hold (positive : 0 < durationS) (begun : 0 ≤ elapsedS)
    (lasts : elapsedS ≤ durationS) :
    (quinticSample position velocity acceleration position 0 0 durationS elapsedS).position =
      position + elapsedS * (1 - elapsedS / durationS) ^ 3 *
        (velocity * (1 + 3 * (elapsedS / durationS)) + acceleration / 2 * elapsedS) := by
  have clamped : max 0 (min durationS elapsedS) = elapsedS := by
    rw [min_eq_right lasts, max_eq_right begun]
  simp only [quinticSample, Exact.plus, Exact.minus, Exact.times, Exact.over_eq, Exact.max_eq,
    Exact.min_eq, Exact.zero_eq, Exact.ofRat_cast, Exact.pow_eq, clamped]
  push_cast
  field_simp
  ring

/-- An axis stays where it is only if it begins at rest. -/
theorem still_iff (positive : 0 < durationS) : (∀ elapsedS ∈ Set.Icc 0 durationS,
    (quinticSample position velocity acceleration position 0 0 durationS elapsedS).position =
      position) ↔ velocity = 0 ∧ acceleration = 0 := by
  constructor
  · intro still
    -- Two places of the hold are enough to see that nothing moves.
    have third := still (durationS / 3) ⟨by positivity, by linarith⟩
    have two_thirds := still (2 * durationS / 3) ⟨by positivity, by linarith⟩
    rw [quinticSample_hold positive (by positivity) (by linarith), add_eq_left] at third two_thirds
    have early : durationS / 3 * (1 - durationS / 3 / durationS) ^ 3 ≠ 0 := by
      rw [div_right_comm, div_self positive.ne']
      positivity
    have late : 2 * durationS / 3 * (1 - 2 * durationS / 3 / durationS) ^ 3 ≠ 0 := by
      rw [div_right_comm, mul_div_cancel_right₀ _ positive.ne']
      have part : (1 : F) - 2 / 3 = 1 / 3 := by norm_num
      rw [part]
      positivity
    have first := (mul_eq_zero.mp third).resolve_left early
    have second := (mul_eq_zero.mp two_thirds).resolve_left late
    rw [div_right_comm, div_self positive.ne'] at first
    rw [div_right_comm, mul_div_cancel_right₀ _ positive.ne'] at second
    have no_velocity : velocity = 0 := by linarith
    subst no_velocity
    refine ⟨rfl, ?_⟩
    have product : acceleration * durationS = 0 := by linarith
    exact (mul_eq_zero.mp product).resolve_right positive.ne'
  · rintro ⟨rfl, rfl⟩ elapsedS ⟨begun, lasts⟩
    rw [quinticSample_hold positive begun lasts]
    ring

omit [Field F] [LinearOrder F] [IsStrictOrderedRing F] [PyMath F] [Exact F] in
theorem vector_eq_iff {first second : Vector3 F} : first = second ↔
    first.x = second.x ∧ first.y = second.y ∧ first.z = second.z := by
  cases first
  cases second
  exact Vector3.mk.injEq .. ▸ Iff.rfl

variable {dwellByIndex : ℕ → F} {index : ℕ} {point : TrajectoryPoint F}

def AtRest (point : TrajectoryPoint F) : Prop :=
  point.velocityMS = .zero ∧ point.accelerationMS2 = .zero

/-- The vehicle stays where the knot is until the end of the hold. -/
def StillAt (dwellByIndex : ℕ → F) (index : ℕ) (point : TrajectoryPoint F) : Prop :=
  let moved := movedKnot dwellByIndex index point
  let held := heldKnot dwellByIndex index point
  ∀ timeS ∈ Set.Icc moved.timeFromStartS held.timeFromStartS,
    (sampleTrajectorySegment moved held timeS).positionM = point.positionM

/-- A hold is still exactly if its knot is at rest. -/
theorem stillAt_iff (positive : 0 < dwellByIndex index) :
    StillAt dwellByIndex index point ↔ AtRest point := by
  have lasts : (heldKnot dwellByIndex index point).timeFromStartS -
      (movedKnot dwellByIndex index point).timeFromStartS = dwellByIndex index := by
    simp only [heldKnot, movedKnot, delay_succ_of_pos positive]
    ring
  have axis_iff (of : Vector3 F → F) (still_end : of .zero = 0) :
      (∀ timeS ∈ Set.Icc (movedKnot dwellByIndex index point).timeFromStartS
        (heldKnot dwellByIndex index point).timeFromStartS,
          (quinticSample (of point.positionM) (of point.velocityMS) (of point.accelerationMS2)
            (of point.positionM) (of .zero) (of .zero) (dwellByIndex index)
            (timeS - (movedKnot dwellByIndex index point).timeFromStartS)).position =
              of point.positionM) ↔ of point.velocityMS = 0 ∧ of point.accelerationMS2 = 0 := by
    rw [← still_iff positive, still_end]
    constructor
    · intro still elapsedS ⟨begun, lasting⟩
      have at_time := still (elapsedS + (movedKnot dwellByIndex index point).timeFromStartS)
        ⟨by linarith, by linarith⟩
      rwa [add_sub_cancel_right] at at_time
    · intro still timeS ⟨begun, lasting⟩
      exact still _ ⟨by linarith, by linarith⟩
  have rest_iff : AtRest point ↔
      (point.velocityMS.x = 0 ∧ point.accelerationMS2.x = 0) ∧
        (point.velocityMS.y = 0 ∧ point.accelerationMS2.y = 0) ∧
        point.velocityMS.z = 0 ∧ point.accelerationMS2.z = 0 := by
    rcases point with ⟨_, _, _, ⟨_, _, _⟩, ⟨_, _, _⟩, _, _⟩
    simp only [AtRest, Vector3.zero, Vector3.mk.injEq, Exact.zero_eq]
    tauto
  rw [rest_iff, ← axis_iff Vector3.x Exact.zero_eq, ← axis_iff Vector3.y Exact.zero_eq,
    ← axis_iff Vector3.z Exact.zero_eq, ← forall₂_and, ← forall₂_and]
  refine forall₂_congr fun timeS _ => ?_
  unfold sampleTrajectorySegment
  simp only [Exact.minus, lasts]
  exact vector_eq_iff

end Rest

end CampaignTrajectory

end CrazySwarm
