import CrazySwarm.CampaignModels
import CrazySwarm.TrajectorySampling

/-! The goals that a replanned drone still has to visit. The code takes its progress from knots that
are near to places, not from times, so that a path that comes back drops goals. -/
namespace CrazySwarm
open PyFloat PyMath

section Code

variable {F : Type} [PyMath F]

/-- `_distance` of the replanning code. -/
def replanDistance (first second : Vector3 F) : F :=
  sqrt (pow (first.x - second.x) 2 + pow (first.y - second.y) 2 + pow (first.z - second.z) 2)

/-- `min(range(len(points)), key=...)`: the first of the knots that are nearest to a place. -/
def nearestIndex (points : List (TrajectoryPoint F)) (place : Vector3 F) : Nat :=
  points.findIdx fun knot => points.all fun other =>
    le (replanDistance knot.positionM place) (replanDistance other.positionM place)

/-- `_remaining_goals`. -/
def remainingGoals (drone : DroneCase F) (trajectory : TimeParameterizedTrajectory F)
    (position : Vector3 F) : List (Region3D F) :=
  let currentIndex := nearestIndex trajectory.points position
  let remaining := drone.goalSequence.filter fun goal =>
    currentIndex ≤ nearestIndex trajectory.points goal.center
  if remaining.isEmpty then drone.goalSequence.getLast?.toList else remaining

end Code

section Statement

variable {F : Type} [Field F] [LinearOrder F] [PyMath F]

structure GoalFlight (F : Type) [Field F] [LinearOrder F] [PyMath F] where
  drone : DroneCase F
  trajectory : TimeParameterizedTrajectory F
  visitsS : List F
  valid : drone.valid = true
  inOrder : visitsS.Pairwise (· ≤ ·)
  visited : List.Forall₂ (fun goal visitS => 0 ≤ visitS ∧ visitS ≤ trajectory.durationS ∧
    ∃ setpoint, sampleTrajectory trajectory visitS = some setpoint ∧
      goal.contains setpoint.positionM = true) drone.goalSequence visitsS

namespace GoalFlight

def positionAt (flight : GoalFlight F) (timeS : F) : Vector3 F :=
  ((sampleTrajectory flight.trajectory timeS).map TrajectorySetpoint.positionM).getD .zero

def unvisited (flight : GoalFlight F) (timeS : F) : List (Region3D F) :=
  ((flight.drone.goalSequence.zip flight.visitsS).filter fun occurrence =>
    timeS < occurrence.2).map (·.1)

/-- Replanning at a time keeps every unvisited goal, in the declared order. -/
def Keeps (flight : GoalFlight F) (timeS : F) : Prop :=
  let remaining := remainingGoals flight.drone flight.trajectory (flight.positionAt timeS)
  (flight.unvisited timeS).Sublist remaining ∧ remaining.Sublist flight.drone.goalSequence

end GoalFlight

def FirstNearest (points : List (TrajectoryPoint F)) (place : Vector3 F) (k : ℕ) : Prop :=
  ∃ knot, points[k]? = some knot ∧
    (∀ other ∈ points,
      replanDistance knot.positionM place ≤ replanDistance other.positionM place) ∧
    ∀ j < k, ∀ earlier, points[j]? = some earlier →
      replanDistance knot.positionM place < replanDistance earlier.positionM place

/-- The knot that is first nearest to one place is no later than the one of another. -/
def NoLater (points : List (TrajectoryPoint F)) (place other : Vector3 F) : Prop :=
  ∃ j k, FirstNearest points place j ∧ FirstNearest points other k ∧ j ≤ k

end Statement

section Goals

variable {F : Type} [Field F] [LinearOrder F] [IsStrictOrderedRing F] [PyMath F] [Exact F]
variable {points : List (TrajectoryPoint F)} {place other : Vector3 F} {j k : ℕ}

omit [Field F] [IsStrictOrderedRing F] [Exact F] in
theorem FirstNearest.unique (first : FirstNearest points place j)
    (second : FirstNearest points place k) : j = k := by
  obtain ⟨a, atA, leastA, firstA⟩ := first
  obtain ⟨b, atB, leastB, firstB⟩ := second
  rcases lt_trichotomy j k with before | same | after
  · exact absurd (firstB j before a atA) (not_lt.mpr (leastA b (List.mem_of_getElem? atB)))
  · exact same
  · exact absurd (firstA k after b atB) (not_lt.mpr (leastB a (List.mem_of_getElem? atA)))

/-- The code finds the first nearest knot. -/
theorem nearestIndex_firstNearest (nonempty : points ≠ []) (place : Vector3 F) :
    FirstNearest points place (nearestIndex points place) := by
  let least (knot : TrajectoryPoint F) : Bool := points.all fun other =>
    le (replanDistance knot.positionM place) (replanDistance other.positionM place)
  have least_iff (knot : TrajectoryPoint F) : least knot = true ↔ ∀ other ∈ points,
      replanDistance knot.positionM place ≤ replanDistance other.positionM place := by
    simp only [least, List.all_eq_true, Exact.le_true]
  have found : points.findIdx least < points.length := by
    obtain ⟨knot, member, minimal⟩ := Set.exists_min_image {knot | knot ∈ points}
      (fun knot => replanDistance knot.positionM place) points.finite_toSet
      (List.exists_mem_of_ne_nil points nonempty)
    exact List.findIdx_lt_length_of_exists ⟨knot, member, (least_iff knot).mpr minimal⟩
  have minimal := (least_iff _).mp (List.findIdx_getElem (w := found))
  refine ⟨points[points.findIdx least], List.getElem?_eq_getElem found, minimal, ?_⟩
  intro j before earlier atJ
  obtain ⟨inside, rfl⟩ := List.getElem?_eq_some_iff.mp atJ
  have farther : ¬∀ other ∈ points,
      replanDistance points[j].positionM place ≤ replanDistance other.positionM place := by
    have fails : least points[j] = false := List.not_of_lt_findIdx before
    rw [← least_iff, fails]
    exact Bool.false_ne_true
  rw [not_forall₂] at farther
  obtain ⟨other, member, nearer⟩ := farther
  exact (minimal other member).trans_lt (not_le.mp nearer)

theorem noLater_iff (nonempty : points ≠ []) :
    NoLater points place other ↔ nearestIndex points place ≤ nearestIndex points other := by
  have atPlace := nearestIndex_firstNearest nonempty place
  have atOther := nearestIndex_firstNearest nonempty other
  constructor
  · rintro ⟨j, k, first, second, ordered⟩
    rwa [first.unique atPlace, second.unique atOther] at ordered
  · intro ordered
    exact ⟨_, _, atPlace, atOther, ordered⟩

end Goals

section Progress

variable {F : Type} [Field F] [LinearOrder F] [IsStrictOrderedRing F] [PyMath F]

omit [Field F] [IsStrictOrderedRing F] [PyMath F] in
theorem filter_later_suffix (goals : List (Region3D F)) {visitsS : List F}
    (inOrder : visitsS.Pairwise (· ≤ ·)) (timeS : F) :
    ((goals.zip visitsS).filter fun occurrence => timeS < occurrence.2) <:+ goals.zip visitsS := by
  induction visitsS generalizing goals with
  | nil => simp
  | cons visitS rest ih =>
    obtain ⟨before, restInOrder⟩ := List.pairwise_cons.mp inOrder
    cases goals with
    | nil => simp
    | cons goal goals =>
      rw [List.zip_cons_cons]
      by_cases later : timeS < visitS
      · have all : ∀ occurrence ∈ (goal, visitS) :: goals.zip rest,
            decide (timeS < occurrence.2) = true := by
          intro occurrence member
          rcases List.mem_cons.mp member with rfl | member
          · exact decide_eq_true later
          · exact decide_eq_true (later.trans_le (before _ (List.of_mem_zip member).2))
        rw [List.filter_eq_self.mpr all]
      · rw [List.filter_cons_of_neg (by simpa using later)]
        exact (ih goals restInOrder).trans (List.suffix_cons _ _)

/-- The last items are kept by a filter that falls back to the last item exactly if all of them pass,
or if nothing passes and there is at most one. -/
theorem sublist_filter_or_last_iff {α : Type} {items last : List α} {p : α → Prop}
    [DecidablePred p] (suffix : last <:+ items) :
    (let kept := if (items.filter p).isEmpty then items.getLast?.toList else items.filter p
     last.Sublist kept ∧ kept.Sublist items) ↔
      (∀ item ∈ last, p item) ∨ (∀ item ∈ items, ¬p item) ∧ last.length ≤ 1 := by
  by_cases none : ∀ item ∈ items, ¬p item
  · have empty : items.filter p = [] := List.filter_eq_nil_iff.mpr (by simpa using none)
    have inside : items.getLast?.toList.Sublist items := by
      cases found : items.getLast? with
      | none => exact List.nil_sublist _
      | some final => exact List.singleton_sublist.mpr (List.mem_of_getLast? found)
    simp only [empty, List.isEmpty_nil, if_true, inside, and_true]
    constructor
    · intro kept
      refine .inr ⟨none, kept.length_le.trans ?_⟩
      cases items.getLast? <;> simp
    · rintro (passes | ⟨-, short⟩)
      · have nothing : last = [] := List.eq_nil_iff_forall_not_mem.mpr fun item member =>
          none item (suffix.subset member) (passes item member)
        exact nothing ▸ List.nil_sublist _
      · obtain ⟨before, rfl⟩ := suffix
        match last, short with
        | [], _ => exact List.nil_sublist _
        | [final], _ => simp
  · have some_passes : (items.filter p).isEmpty = false := by
      rw [List.isEmpty_eq_false_iff, ne_eq, List.filter_eq_nil_iff]
      simpa using none
    simp only [some_passes, Bool.false_eq_true, if_false, List.filter_sublist, and_true]
    constructor
    · intro kept
      left
      intro item member
      simpa using (List.mem_filter.mp (kept.subset member)).2
    · rintro (passes | ⟨nothing, -⟩)
      · have same : last.filter p = last := List.filter_eq_self.mpr (by simpa using passes)
        exact same ▸ suffix.sublist.filter _
      · exact absurd nothing none

namespace GoalFlight

omit [IsStrictOrderedRing F] in
theorem unvisited_suffix (flight : GoalFlight F) (timeS : F) :
    flight.unvisited timeS <:+ flight.drone.goalSequence := by
  have same : (flight.drone.goalSequence.zip flight.visitsS).map Prod.fst =
      flight.drone.goalSequence :=
    List.map_fst_zip flight.visited.length_eq.le
  have later := (filter_later_suffix flight.drone.goalSequence flight.inOrder timeS).map
    Prod.fst
  rwa [same] at later

variable [Exact F]

theorem knots_ne_nil (flight : GoalFlight F) : flight.trajectory.points ≠ [] := by
  have knotted := knotted_of_validate flight.trajectory.valid
  exact List.ne_nil_of_length_pos (Nat.zero_lt_two.trans_le knotted.two)

/-- Replanning keeps the unvisited goals exactly where the knot first nearest to the vehicle is no
later than those first nearest to them, or where it is later than those of all goals and at most
the last goal is unvisited. -/
theorem keeps_iff (flight : GoalFlight F) (timeS : F) :
    flight.Keeps timeS ↔
      (∀ goal ∈ flight.unvisited timeS,
        NoLater flight.trajectory.points (flight.positionAt timeS) goal.center) ∨
      (∀ goal ∈ flight.drone.goalSequence,
        ¬NoLater flight.trajectory.points (flight.positionAt timeS) goal.center) ∧
        (flight.unvisited timeS).length ≤ 1 := by
  have nonempty := flight.knots_ne_nil
  simp only [noLater_iff nonempty]
  exact sublist_filter_or_last_iff (flight.unvisited_suffix timeS)

end GoalFlight

end Progress

/-! ## A goal that is visited twice -/

section Shuttle

def shuttlePoint (sequence : Nat) (timeS x : ℚ) : TrajectoryPoint ℚ :=
  ⟨sequence, timeS, ⟨x, 0, 1⟩, .zero, .zero, 0, 0⟩

def shuttleRegion (regionId : String) (x : ℚ) : Region3D ℚ :=
  ⟨regionId, ⟨x - 1 / 10, -1 / 10, 9 / 10⟩, ⟨x + 1 / 10, 1 / 10, 11 / 10⟩⟩

/-- To a dock, on to a shelf, back to the dock and to the exit. -/
def shuttleData : TrajectoryData ℚ where
  points := [shuttlePoint 1 0 0, shuttlePoint 2 10 1, shuttlePoint 3 20 2, shuttlePoint 4 30 1,
    shuttlePoint 5 40 3]
  declaredStopSequences := [1, 5]
  completionPositionToleranceM := 1 / 20
  completionVelocityToleranceMS := 1 / 20

theorem shuttleData_valid : shuttleData.validate = .ok () := by decide +kernel

def shuttleTrajectory : TimeParameterizedTrajectory ℚ := ⟨shuttleData, shuttleData_valid⟩

def shuttleDrone : DroneCase ℚ :=
  ⟨"alpha", shuttleRegion "start" 0, [shuttleRegion "dock" 1, shuttleRegion "shelf" 2,
    shuttleRegion "dock" 1, shuttleRegion "exit" 3], shuttleRegion "exit" 3, 100, 20, 1⟩

theorem shuttleDrone_valid : shuttleDrone.valid = true := by
  simp [shuttleDrone, shuttleRegion, DroneCase.valid, Region3D.ordered, PyFloat.atMost, PyFloat.ge]
  norm_num
  decide

theorem shuttle_ordered : [(10 : ℚ), 20, 30, 40].Pairwise (· ≤ ·) := by norm_num

theorem shuttle_visits : List.Forall₂ (fun goal visitS => 0 ≤ visitS ∧
    visitS ≤ shuttleTrajectory.durationS ∧ ∃ setpoint,
      sampleTrajectory shuttleTrajectory visitS = some setpoint ∧
        goal.contains setpoint.positionM = true) shuttleDrone.goalSequence [10, 20, 30, 40] := by
  have reached : ∀ visit ∈ shuttleDrone.goalSequence.zip [(10 : ℚ), 20, 30, 40],
      (0 ≤ visit.2 ∧ visit.2 ≤ shuttleTrajectory.durationS) ∧
        (sampleTrajectory shuttleTrajectory visit.2).any
          (fun setpoint => visit.1.contains setpoint.positionM) = true := by
    decide +kernel
  refine List.forall₂_iff_zip.mpr ⟨rfl, fun {goal visitS} member => ?_⟩
  obtain ⟨inside, at_goal⟩ := reached _ member
  exact ⟨inside.1, inside.2, (Option.any_eq_true _ _).mp at_goal⟩

def shuttle : GoalFlight ℚ where
  drone := shuttleDrone
  trajectory := shuttleTrajectory
  visitsS := [10, 20, 30, 40]
  valid := shuttleDrone_valid
  inOrder := shuttle_ordered
  visited := shuttle_visits

example : shuttle.unvisited 0 = shuttleDrone.goalSequence := by decide +kernel

/-- Before it leaves, all four goals are still to come and none is dropped. -/
theorem shuttle_keeps_all :
    (∀ goal ∈ shuttle.unvisited 0,
      NoLater shuttle.trajectory.points (shuttle.positionAt 0) goal.center) ∨
    (∀ goal ∈ shuttle.drone.goalSequence,
      ¬NoLater shuttle.trajectory.points (shuttle.positionAt 0) goal.center) ∧
      (shuttle.unvisited 0).length ≤ 1 := by
  refine (shuttle.keeps_iff 0).mp ?_
  unfold GoalFlight.Keeps
  decide +kernel

/-- At the shelf, the way back to the dock is still to come and is dropped. -/
theorem shuttle_drops_goal :
    shuttle.unvisited 20 = [shuttleRegion "dock" 1, shuttleRegion "exit" 3] ∧
      remainingGoals shuttle.drone shuttle.trajectory (shuttle.positionAt 20) =
        [shuttleRegion "shelf" 2, shuttleRegion "exit" 3] ∧
      ¬shuttle.Keeps 20 := by
  have unvisited : shuttle.unvisited 20 = [shuttleRegion "dock" 1, shuttleRegion "exit" 3] := by
    decide +kernel
  have remaining : remainingGoals shuttle.drone shuttle.trajectory (shuttle.positionAt 20) =
      [shuttleRegion "shelf" 2, shuttleRegion "exit" 3] := by
    decide +kernel
  refine ⟨unvisited, remaining, fun keeps => ?_⟩
  have kept := keeps.1
  rw [unvisited, remaining] at kept
  have dropped : shuttleRegion "dock" 1 ∉ [shuttleRegion "shelf" 2, shuttleRegion "exit" 3] := by
    decide +kernel
  exact dropped (kept.subset List.mem_cons_self)

end Shuttle

end CrazySwarm
