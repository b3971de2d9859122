import CrazySwarm.ZonePlanning
import CrazySwarm.FlightPaths

/-! When a zone route keeps clear of the obstacles. The planner leaves the straight way for the
first box that it sees there, at one of 201 points, and goes round that box on the shorter side;
what it does for later boxes never leaves the target's `x`, and the legs it lays are not looked
at again. -/
namespace CrazySwarm
namespace ZonePlanning
open Segments
open PyFloat (le lt zero ofRat)

variable {F : Type} [Field F] [LinearOrder F] [IsStrictOrderedRing F] [PyMath F]

section Statement

/-- The leg from one point to another meets none of the obstacles. -/
def Free (obstacles : List (ZoneObstacle F)) (first last : Vector3 F) : Prop :=
  ∀ obstacle ∈ obstacles, ∀ t, Within 0 1 t →
    ¬ InBox obstacle.minimumM obstacle.maximumM (pointAt first last t)

/-- The first obstacle, by the ids, that the planner sees on the straight way. -/
def firstSeen (start target : Vector3 F) (obstacles : List (ZoneObstacle F)) :
    Option (ZoneObstacle F) :=
  (Sorting.sortBy ZoneObstacle.obstacleId obstacles).find? fun obstacle =>
    segmentIntersectsBoxXy start target obstacle target.z

/-- The `y` at which the planner passes an obstacle: a safety margin off its lower side, unless the
way by the upper side is shorter. -/
def passingY (planner : ZoneTaskPlanner F) (start target : Vector3 F) (obstacle : ZoneObstacle F) :
    F :=
  let lowerY := obstacle.minimumM.y - planner.safetyMarginM
  let upperY := obstacle.maximumM.y + planner.safetyMarginM
  if wayRoundLength start target (wayRound start target upperY) <
      wayRoundLength start target (wayRound start target lowerY) then upperY
  else lowerY

/-- At the flight height no obstacle reaches into the way along the start's `x` to the passing
`y`, along that to the target's `x`, and along that to the target. -/
def RoundClear (obstacles : List (ZoneObstacle F)) (start target : Vector3 F) (y : F) : Prop :=
  ∀ obstacle ∈ obstacles, Within obstacle.minimumM.z obstacle.maximumM.z target.z →
    ¬ (Within obstacle.minimumM.x obstacle.maximumM.x start.x ∧
        Overlaps start.y y obstacle.minimumM.y obstacle.maximumM.y) ∧
      ¬ (Within obstacle.minimumM.y obstacle.maximumM.y y ∧
        Overlaps start.x target.x obstacle.minimumM.x obstacle.maximumM.x) ∧
      ¬ (Within obstacle.minimumM.x obstacle.maximumM.x target.x ∧
        Overlaps y target.y obstacle.minimumM.y obstacle.maximumM.y)

def WayClear (planner : ZoneTaskPlanner F) (obstacles : List (ZoneObstacle F))
    (start target : Vector3 F) : Prop :=
  match firstSeen start target obstacles with
  | none => Free obstacles start target
  | some obstacle => RoundClear obstacles start target (passingY planner start target obstacle)

end Statement

section Seen

variable [Exact F] {start last point : Vector3 F} {obstacle : ZoneObstacle F}

theorem insideExpandedBox_iff :
    insideExpandedBox point obstacle zero = true ↔
      InBox obstacle.minimumM obstacle.maximumM point := by
  simp only [insideExpandedBox, Bool.and_eq_true, Exact.le_true, Exact.minus, Exact.plus,
    Exact.zero_eq, sub_zero, add_zero, InBox, Within, and_assoc]

/-- What the planner looks at are points of the segment. -/
theorem samplePoint_eq (level : start.z = last.z) (index : Nat) :
    samplePoint start last last.z index = pointAt start last ((index / 200 : ℚ) : F) := by
  simp only [samplePoint, Exact.plus, Exact.minus, Exact.times, Exact.ofRat_cast, pointAt, along,
    level, sub_self, zero_mul, add_zero]

theorem not_free_of_seen {obstacles : List (ZoneObstacle F)} (level : start.z = last.z)
    (among : obstacle ∈ obstacles)
    (seen : segmentIntersectsBoxXy start last obstacle last.z = true) :
    ¬ Free obstacles start last := by
  intro free
  simp only [segmentIntersectsBoxXy, Bool.and_eq_true, List.any_eq_true, List.mem_range] at seen
  obtain ⟨-, index, bound, inside⟩ := seen
  rw [insideExpandedBox_iff, samplePoint_eq level] at inside
  have after : (0 : ℚ) ≤ index / 200 := by positivity
  have before : (index : ℚ) / 200 ≤ 1 := by
    rw [div_le_one (by norm_num)]
    exact_mod_cast Nat.le_of_lt_succ bound
  exact free obstacle among _ ⟨by exact_mod_cast after, by exact_mod_cast before⟩ inside

end Seen

section Vertical

variable {obstacles : List (ZoneObstacle F)} {first middle last : Vector3 F}

omit [PyMath F] in
theorem free_self_iff {point : Vector3 F} : Free obstacles point point ↔
    ∀ obstacle ∈ obstacles, ¬ InBox obstacle.minimumM obstacle.maximumM point := by
  have stays (t : F) : pointAt point point t = point := by simp [pointAt]
  simp only [Free, stays]
  exact ⟨fun free obstacle among => free obstacle among 0 ⟨le_rfl, zero_le_one⟩,
    fun free obstacle among _ _ => free obstacle among⟩

/-- Points that differ in their `y` at most. -/
def SameColumn (first second : Vector3 F) : Prop := first.x = second.x ∧ first.z = second.z

omit [PyMath F] in
/-- In a column a leg takes the points between its ends. -/
theorem free_column_iff (column : SameColumn first last) : Free obstacles first last ↔
    ∀ obstacle ∈ obstacles, ∀ y, Within (min first.y last.y) (max first.y last.y) y →
      ¬ InBox obstacle.minimumM obstacle.maximumM ⟨first.x, y, first.z⟩ := by
  have points (t : F) : pointAt first last t = ⟨first.x, along first.y last.y t, first.z⟩ := by
    rw [pointAt, ← column.1, ← column.2, along_self, along_self]
  simp only [Free, points]
  constructor
  · intro free obstacle among y between
    obtain ⟨t, time, rfl⟩ := exists_along_iff.mpr between
    exact free obstacle among t time
  · intro free obstacle among t time
    exact free obstacle among _ (exists_along_iff.mp ⟨t, time, rfl⟩)

omit [PyMath F] in
theorem Free.join (columns : SameColumn first middle ∧ SameColumn middle last)
    (before : Free obstacles first middle) (after : Free obstacles middle last) :
    Free obstacles first last := by
  obtain ⟨⟨sameX, sameZ⟩, other⟩ := columns
  have whole : SameColumn first last := ⟨sameX.trans other.1, sameZ.trans other.2⟩
  rw [free_column_iff ⟨sameX, sameZ⟩] at before
  rw [free_column_iff other, ← sameX, ← sameZ] at after
  rw [free_column_iff whole]
  intro obstacle among y between
  rcases within_or_within middle.y between with early | late
  · exact before obstacle among y early
  · exact after obstacle among y late

omit [PyMath F] in
/-- A way up and down a column passes every point between its ends. By induction on the stops. -/
theorem free_of_column {stops : List (Vector3 F)} (columns : ∀ stop ∈ stops, SameColumn stop last)
    (column : SameColumn first last) (chain : (first :: (stops ++ [last])).IsChain (Free obstacles)) :
    Free obstacles first last := by
  induction stops generalizing first with
  | nil => exact (List.isChain_cons_cons.mp chain).1
  | cons stop rest ih =>
    rw [List.cons_append, List.isChain_cons_cons] at chain
    have onward := columns stop List.mem_cons_self
    have rests := ih (fun other among => columns other (List.mem_cons_of_mem _ among)) onward chain.2
    exact chain.1.join ⟨⟨column.1.trans onward.1.symm, column.2.trans onward.2.symm⟩, onward⟩ rests

omit [PyMath F] in
theorem free_column_iff_overlaps (column : SameColumn first last) : Free obstacles first last ↔
    ∀ obstacle ∈ obstacles, Within obstacle.minimumM.z obstacle.maximumM.z last.z →
      ¬ (Within obstacle.minimumM.x obstacle.maximumM.x last.x ∧
        Overlaps first.y last.y obstacle.minimumM.y obstacle.maximumM.y) := by
  rw [free_column_iff column, column.1, column.2]
  simp only [overlaps_iff, InBox]
  constructor
  · rintro free obstacle among level ⟨inX, y, between, inY⟩
    exact free obstacle among y between ⟨inX, inY, level⟩
  · rintro apart obstacle among y between ⟨inX, inY, level⟩
    exact apart obstacle among level ⟨inX, y, between, inY⟩

omit [PyMath F] in
theorem free_row_iff_overlaps (row : first.y = last.y ∧ first.z = last.z) :
    Free obstacles first last ↔
      ∀ obstacle ∈ obstacles, Within obstacle.minimumM.z obstacle.maximumM.z last.z →
        ¬ (Within obstacle.minimumM.y obstacle.maximumM.y last.y ∧
          Overlaps first.x last.x obstacle.minimumM.x obstacle.maximumM.x) := by
  have points (t : F) : pointAt first last t = ⟨along first.x last.x t, last.y, last.z⟩ := by
    rw [pointAt, row.1, row.2, along_self, along_self]
  simp only [Free, points, overlaps_iff, InBox]
  constructor
  · rintro free obstacle among level ⟨inY, x, between, inX⟩
    obtain ⟨t, time, rfl⟩ := exists_along_iff.mpr between
    exact free obstacle among t time ⟨inX, inY, level⟩
  · rintro apart obstacle among t time ⟨inX, inY, level⟩
    exact apart obstacle among level ⟨inY, _, exists_along_iff.mp ⟨t, time, rfl⟩, inX⟩

end Vertical

section Compact

variable [Exact F] {obstacles : List (ZoneObstacle F)}

theorem samePoint_iff {first second : Vector3 F} :
    samePoint first second = true ↔ first = second := by
  cases first
  cases second
  simp [samePoint, and_assoc]

/-- Leaving out repeated points changes no leg but those that stay at one point. By induction on
the points. -/
theorem isChain_compactAfter_iff {link : Vector3 F → Vector3 F → Prop} {previous : Vector3 F}
    {points : List (Vector3 F)}
    (self : ∀ point ∈ previous :: compactAfter previous points, link point point) :
    (previous :: compactAfter previous points).IsChain link ↔ (previous :: points).IsChain link := by
  induction points generalizing previous with
  | nil => exact Iff.rfl
  | cons point rest ih =>
    unfold compactAfter at self ⊢
    by_cases same : samePoint point previous = true
    · rw [if_pos same] at self ⊢
      rw [samePoint_iff] at same
      subst same
      have stays := self point List.mem_cons_self
      rw [ih self, List.isChain_cons_cons]
      exact (and_iff_right stays).symm
    · rw [if_neg same] at self ⊢
      rw [List.isChain_cons_cons, List.isChain_cons_cons,
        ih fun other among => self other (List.mem_cons_of_mem _ among)]

theorem isChain_compact_iff {link : Vector3 F → Vector3 F → Prop} {points : List (Vector3 F)}
    (self : ∀ point ∈ compact points, link point point) :
    (compact points).IsChain link ↔ points.IsChain link := by
  cases points with
  | nil => exact Iff.rfl
  | cons point rest => exact isChain_compactAfter_iff self

end Compact

section Detours

variable [Exact F] {planner : ZoneTaskPlanner F} {start target : Vector3 F}
  {obstacles rest : List (ZoneObstacle F)} {obstacle : ZoneObstacle F} {detours : Detours F}

omit [Field F] [LinearOrder F] [IsStrictOrderedRing F] [Exact F] in
/-- Either side of an obstacle is passed at one `y`. -/
theorem exists_selected (planner : ZoneTaskPlanner F) (cursor target : Vector3 F)
    (obstacle : ZoneObstacle F) :
    ∃ y, planner.selected cursor target obstacle = wayRound cursor target y := by
  have member := Sorting.leastBy_mem (shorterWay cursor target)
    (wayRound cursor target (PyFloat.sub obstacle.minimumM.y planner.safetyMarginM))
    [wayRound cursor target (PyFloat.add obstacle.maximumM.y planner.safetyMarginM)]
  rcases List.mem_pair.mp member with lower | upper
  · exact ⟨_, lower⟩
  · exact ⟨_, upper⟩

theorem shorterWay_iff {first second : Vector3 F × Vector3 F} (sides : second.1.y ≤ first.1.y) :
    shorterWay start target first second = true ↔
      wayRoundLength start target first < wayRoundLength start target second := by
  unfold shorterWay
  by_cases same : wayRoundLength start target first = wayRoundLength start target second
  · rw [if_pos (Exact.eq_true.mpr same), Exact.lt_true, same]
    exact iff_of_false (not_lt.mpr sides) (lt_irrefl _)
  · rw [if_neg (by simpa using same), Exact.lt_true]

theorem selected_eq (ordered : obstacle.minimumM.y ≤ obstacle.maximumM.y) :
    planner.selected start target obstacle =
      wayRound start target (passingY planner start target obstacle) := by
  have margin : 0 < planner.safetyMarginM := by
    have positive := planner.positive
    simp only [Bool.or_eq_false_iff, Exact.le_false, Exact.zero_eq] at positive
    exact positive.2
  have sides : obstacle.minimumM.y - planner.safetyMarginM ≤
      obstacle.maximumM.y + planner.safetyMarginM := by
    linarith
  simp only [ZoneTaskPlanner.selected, Sorting.leastBy, List.foldl_cons, List.foldl_nil,
    Exact.minus, Exact.plus, passingY, apply_ite (wayRound start target)]
  exact if_congr (shorterWay_iff sides) rfl rfl

omit [Field F] [LinearOrder F] [IsStrictOrderedRing F] [Exact F] in
/-- Obstacles that are not seen from the cursor leave the route as it is. By induction on them. -/
theorem foldl_avoid_of_unseen
    (unseen : ∀ obstacle ∈ rest,
      segmentIntersectsBoxXy detours.cursor target obstacle target.z = false) :
    rest.foldl (planner.avoid target) detours = detours := by
  induction rest with
  | nil => rfl
  | cons obstacle rest ih =>
    rw [List.foldl_cons, ZoneTaskPlanner.avoid, unseen obstacle List.mem_cons_self]
    exact ih fun other among => unseen other (List.mem_cons_of_mem _ among)

omit [LinearOrder F] [IsStrictOrderedRing F] [Field F] [Exact F] in
theorem foldl_avoid_column (planner : ZoneTaskPlanner F) (rest : List (ZoneObstacle F))
    (column : SameColumn detours.cursor target) :
    ∃ added, (rest.foldl (planner.avoid target) detours).waypoints = detours.waypoints ++ added ∧
      ∀ stop ∈ added, SameColumn stop target := by
  induction rest generalizing detours with
  | nil => exact ⟨[], (List.append_nil _).symm, by simp⟩
  | cons obstacle rest ih =>
    rw [List.foldl_cons]
    by_cases seen : segmentIntersectsBoxXy detours.cursor target obstacle target.z = true
    · obtain ⟨y, passed⟩ := exists_selected planner detours.cursor target obstacle
      rw [ZoneTaskPlanner.avoid, if_pos seen, passed]
      have arrived : SameColumn (wayRound detours.cursor target y).2 target := ⟨rfl, rfl⟩
      have left : SameColumn (wayRound detours.cursor target y).1 target := ⟨column.1, rfl⟩
      obtain ⟨added, waypoints, columns⟩ := @ih ⟨detours.waypoints ++
        [(wayRound detours.cursor target y).1, (wayRound detours.cursor target y).2],
          (wayRound detours.cursor target y).2, true⟩ arrived
      refine ⟨(wayRound detours.cursor target y).1 ::
        (wayRound detours.cursor target y).2 :: added, ?_, ?_⟩
      · simpa using waypoints
      · simpa [left, arrived] using columns
    · rw [ZoneTaskPlanner.avoid, if_neg seen]
      exact ih column

/-- In the target's column the way is free exactly when the direct leg is: where that is free no
obstacle is seen, and any other way passes along the whole of it. -/
theorem foldl_avoid_free_iff (planner : ZoneTaskPlanner F) (detours : Detours F)
    (column : SameColumn detours.cursor target)
    (known : ∀ obstacle ∈ rest, obstacle ∈ obstacles) :
    ∃ added, (rest.foldl (planner.avoid target) detours).waypoints = detours.waypoints ++ added ∧
      ((detours.cursor :: (added ++ [target])).IsChain (Free obstacles) ↔
        Free obstacles detours.cursor target) := by
  by_cases free : Free obstacles detours.cursor target
  · have unseen : ∀ obstacle ∈ rest,
        segmentIntersectsBoxXy detours.cursor target obstacle target.z = false := by
      intro obstacle among
      by_contra seen
      exact not_free_of_seen column.2 (known obstacle among) (Bool.eq_true_of_not_eq_false seen) free
    rw [foldl_avoid_of_unseen unseen]
    exact ⟨[], (List.append_nil _).symm, by simp⟩
  · obtain ⟨added, waypoints, columns⟩ := foldl_avoid_column planner rest column
    exact ⟨added, waypoints, fun chain => free_of_column columns column chain,
      fun direct => absurd direct free⟩

omit [PyMath F] [Exact F] in
theorem free_round_iff (level : start.z = target.z) (y : F) :
    (Free obstacles start (wayRound start target y).1 ∧
        Free obstacles (wayRound start target y).1 (wayRound start target y).2 ∧
          Free obstacles (wayRound start target y).2 target) ↔
      RoundClear obstacles start target y := by
  have out : Free obstacles start (wayRound start target y).1 ↔ _ :=
    free_column_iff_overlaps ⟨rfl, level⟩
  have across : Free obstacles (wayRound start target y).1 (wayRound start target y).2 ↔ _ :=
    free_row_iff_overlaps ⟨rfl, rfl⟩
  have back : Free obstacles (wayRound start target y).2 target ↔ _ :=
    free_column_iff_overlaps ⟨rfl, rfl⟩
  rw [out, across, back]
  constructor
  · rintro ⟨out, across, back⟩ obstacle among height
    exact ⟨out obstacle among height, across obstacle among height, back obstacle among height⟩
  · intro clear
    exact ⟨fun obstacle among height => (clear obstacle among height).1,
      fun obstacle among height => (clear obstacle among height).2.1,
      fun obstacle among height => (clear obstacle among height).2.2⟩

theorem ordered_of_seen
    (seen : segmentIntersectsBoxXy start target obstacle target.z = true) :
    obstacle.minimumM.y ≤ obstacle.maximumM.y := by
  simp only [segmentIntersectsBoxXy, Bool.and_eq_true, List.any_eq_true] at seen
  obtain ⟨-, index, -, inside⟩ := seen
  rw [insideExpandedBox_iff] at inside
  exact inside.2.1.1.trans inside.2.1.2

/-- The laid route is free exactly when the way is clear: up to the first obstacle that is seen
nothing is changed, and behind it the route stays in the target's column. -/
theorem isChain_detours_iff (level : start.z = target.z) :
    ((planner.detours start target obstacles).waypoints ++ [target]).IsChain (Free obstacles) ↔
      WayClear planner obstacles start target := by
  unfold ZoneTaskPlanner.detours WayClear firstSeen
  cases found : (Sorting.sortBy ZoneObstacle.obstacleId obstacles).find? fun obstacle =>
      segmentIntersectsBoxXy start target obstacle target.z with
  | none =>
    have unseen := List.find?_eq_none.mp found
    rw [foldl_avoid_of_unseen (by simpa using unseen)]
    simp
  | some first =>
    obtain ⟨seen, before, after, split, unseen⟩ := List.find?_eq_some_iff_append.mp found
    have known : ∀ obstacle ∈ after, obstacle ∈ obstacles := by
      intro obstacle among
      rw [← Sorting.mem_sortBy ZoneObstacle.obstacleId, split]
      exact List.mem_append_right _ (List.mem_cons_of_mem _ among)
    have skipped : before.foldl (planner.avoid target) ⟨[start], start, false⟩ =
        ⟨[start], start, false⟩ :=
      foldl_avoid_of_unseen (by simpa using unseen)
    rw [split, List.foldl_append, skipped, List.foldl_cons, ZoneTaskPlanner.avoid, if_pos seen,
      selected_eq (ordered_of_seen seen)]
    set pair := wayRound start target (passingY planner start target first)
    have arrived : SameColumn pair.2 target := ⟨rfl, rfl⟩
    obtain ⟨added, waypoints, column⟩ :=
      foldl_avoid_free_iff planner ⟨[start, pair.1, pair.2], pair.2, true⟩ arrived known
    simp only [waypoints, ← free_round_iff level, List.cons_append, List.nil_append,
      List.isChain_cons_cons]
    exact and_congr_right' (and_congr_right' column)

end Detours

/-! Two boxes; the shorter way round the one leads through the other. -/
section TwoBoxes

def twoBoxesPlanner : ZoneTaskPlanner ℚ := ⟨2 / 5, 1 / 5, 1, by decide +kernel⟩

def twoBoxesTask : DeploymentTaskDefinition ℚ := ⟨"inspect-zone-b", "zone-b", 20, 5⟩

def twoBoxesZone : ZoneDefinition ℚ :=
  ⟨"zone-b", ⟨39 / 10, -1 / 10, 1 / 5⟩, ⟨41 / 10, 1 / 10, 2 / 5⟩, by decide +kernel⟩

def twoBoxes : List (ZoneObstacle ℚ) :=
  [⟨"box-a", ⟨3 / 2, -1 / 2, 0⟩, ⟨5 / 2, 1 / 2, 2⟩⟩,
   ⟨"box-b", ⟨19 / 10, -1, 0⟩, ⟨21 / 10, -3 / 5, 2⟩⟩]

theorem way_round_meets_second_box : ∃ plan : ZoneTaskPlan ℚ,
    twoBoxesPlanner.plan twoBoxesTask twoBoxesZone ⟨0, 0, 0⟩ twoBoxes (3 / 10) = .ok plan ∧
      ∃ leg ∈ legs plan.waypointsM, ∃ obstacle ∈ twoBoxes, ∃ t, Within 0 1 t ∧
        InBox obstacle.minimumM obstacle.maximumM (pointAt leg.1 leg.2 t) := by
  obtain ⟨plan, planned, met⟩ := exists_of_okWith
    (x := twoBoxesPlanner.plan twoBoxesTask twoBoxesZone ⟨0, 0, 0⟩ twoBoxes (3 / 10))
    (t := fun plan => decide (∃ leg ∈ legs plan.waypointsM, ∃ obstacle ∈ twoBoxes,
      InBox obstacle.minimumM obstacle.maximumM (pointAt leg.1 leg.2 (1 / 2))))
    (by decide +kernel)
  obtain ⟨leg, member, obstacle, among, inside⟩ := of_decide_eq_true met
  exact ⟨plan, planned, leg, member, obstacle, among, 1 / 2, by decide +kernel, inside⟩

end TwoBoxes

/-- A returned route keeps clear of every obstacle at the flight height exactly when no obstacle is
seen on the straight way and none is on it, or the way round the first obstacle that is seen
there reaches into no obstacle. -/
theorem plan_keeps_clear_iff [Exact F] {planner : ZoneTaskPlanner F}
    {task : DeploymentTaskDefinition F} {zone : ZoneDefinition F} {startM : Vector3 F}
    {obstacles : List (ZoneObstacle F)} {flightHeightM : F} {plan : ZoneTaskPlan F}
    (planned : planner.plan task zone startM obstacles flightHeightM = .ok plan) :
    (∀ leg ∈ legs plan.waypointsM, ∀ obstacle ∈ obstacles, ∀ t, Within 0 1 t →
        ¬ InBox obstacle.minimumM obstacle.maximumM (pointAt leg.1 leg.2 t)) ↔
      WayClear planner obstacles (ZoneTaskPlanner.start zone startM flightHeightM)
        (ZoneTaskPlanner.target zone flightHeightM) := by
  obtain ⟨-, waypoints, unobstructed⟩ := ZoneTaskPlanner.plan_eq_ok planned
  have self : ∀ point ∈ plan.waypointsM, Free obstacles point point := by
    intro point member
    rw [free_self_iff]
    intro obstacle among
    rw [← insideExpandedBox_iff, unobstructed point member obstacle among]
    exact Bool.false_ne_true
  have links : (∀ leg ∈ legs plan.waypointsM, Free obstacles leg.1 leg.2) ↔
      plan.waypointsM.IsChain (Free obstacles) := forall_legs_iff
  have level : (ZoneTaskPlanner.start zone startM flightHeightM).z =
      (ZoneTaskPlanner.target zone flightHeightM).z := rfl
  rw [waypoints] at self
  rw [← isChain_detours_iff level, ← isChain_compact_iff self, ← waypoints]
  exact links

/-- The two boxes once more. -/
theorem plan_keeps_clear_iff_two_boxes : ∃ plan : ZoneTaskPlan ℚ,
    twoBoxesPlanner.plan twoBoxesTask twoBoxesZone ⟨0, 0, 0⟩ twoBoxes (3 / 10) = .ok plan ∧
      ((∀ leg ∈ legs plan.waypointsM, ∀ obstacle ∈ twoBoxes, ∀ t, Within 0 1 t →
          ¬ InBox obstacle.minimumM obstacle.maximumM (pointAt leg.1 leg.2 t)) ↔
        WayClear twoBoxesPlanner twoBoxes
          (ZoneTaskPlanner.start twoBoxesZone ⟨0, 0, 0⟩ (3 / 10))
          (ZoneTaskPlanner.target twoBoxesZone (3 / 10))) := by
  obtain ⟨plan, planned, -⟩ := exists_of_okWith
    (x := twoBoxesPlanner.plan twoBoxesTask twoBoxesZone ⟨0, 0, 0⟩ twoBoxes (3 / 10))
    (t := fun _ => true) (by decide +kernel)
  exact ⟨plan, planned, plan_keeps_clear_iff planned⟩

end ZonePlanning
end CrazySwarm
