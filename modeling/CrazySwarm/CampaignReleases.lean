import CrazySwarm.CampaignCompleteness
import CrazySwarm.CampaignTiming
import CrazySwarm.Lib.DyadicSearch

/-! How early the releases are that the continuous timing generators choose: their search runs on
the multiples of its resolution, and finds the first safe one only if what it probes is safe from
there on. -/
namespace CrazySwarm
open PyFloat (le lt ofRat)
open scoped Numerals

namespace CampaignTiming

/-! ## The search -/

section Search

variable {F : Type} [Field F] [LinearOrder F] [IsStrictOrderedRing F] [PyMath F] [Exact F]
variable {safe : F → Bool} {maximumDelayS delayS : F}

def resolution (maximumDelayS : F) : F := maximumDelayS / 64 / 2 ^ 24

/-- No delay that is smaller by more than the resolution is safe. -/
def Earliest (safe : F → Bool) (maximumDelayS delayS : F) : Prop :=
  ∀ earlierS, 0 ≤ earlierS → earlierS < delayS - resolution maximumDelayS → safe earlierS = false

/-- There is a multiple of the resolution up to whose predecessor no delay is safe, and which is
safe itself, as is the next multiple after it of each step that the search takes. -/
def Reached (safe : F → Bool) (maximumDelayS : F) : Prop :=
  ∃ n : ℕ, (∀ earlierS, 0 ≤ earlierS →
      earlierS + resolution maximumDelayS ≤ resolution maximumDelayS * n → safe earlierS = false) ∧
    ∀ r ≤ 24, safe (resolution maximumDelayS * DyadicSearch.roundUp (2 ^ r) n) = true

/-- The test of the search on the multiples of the resolution. -/
def onGrid (safe : F → Bool) (maximumDelayS : F) (n : ℕ) : Bool :=
  safe (resolution maximumDelayS * n)

theorem bisect_eq (safe : F → Bool) (maximumDelayS : F) (rounds low : ℕ) : bisect safe rounds
      (resolution maximumDelayS * low, resolution maximumDelayS * (low + 2 ^ rounds : ℕ)) =
    resolution maximumDelayS * DyadicSearch.bisect (onGrid safe maximumDelayS) rounds low := by
  induction rounds generalizing low with
  | zero =>
    rw [bisect, DyadicSearch.bisect, pow_zero]
  | succ rounds ih =>
    have midpoint : (resolution maximumDelayS * low +
        resolution maximumDelayS * (low + 2 ^ (rounds + 1) : ℕ)) / 2 =
          resolution maximumDelayS * (low + 2 ^ rounds : ℕ) := by
      push_cast
      ring
    have double : low + 2 ^ (rounds + 1) = low + 2 ^ rounds + 2 ^ rounds := by ring
    rw [bisect, DyadicSearch.bisect]
    simp only [Exact.plus, Exact.over_eq, Exact.ofRat_cast, Rat.cast_ofNat, midpoint]
    rw [onGrid]
    split
    · exact ih low
    · rw [double]
      exact ih (low + 2 ^ rounds)

omit [PyMath F] [Exact F] in
theorem probe_eq (maximumDelayS : F) (step : ℕ) :
    maximumDelayS * step / 64 = resolution maximumDelayS * (2 ^ 24 * step : ℕ) := by
  unfold resolution
  push_cast
  ring

theorem bracket_eq (probes step : ℕ) (later : 0 < step) :
    bracket safe maximumDelayS probes step (resolution maximumDelayS * (2 ^ 24 * (step - 1) : ℕ)) =
      (DyadicSearch.probe (onGrid safe maximumDelayS) (2 ^ 24) probes step).map fun index =>
        (resolution maximumDelayS * (2 ^ 24 * (index - 1) : ℕ),
          resolution maximumDelayS * (2 ^ 24 * index : ℕ)) := by
  induction probes generalizing step with
  | zero => rfl
  | succ probes ih =>
    rw [bracket, DyadicSearch.probe]
    simp only [Exact.over_eq, Exact.times, Exact.ofRat_cast, Rat.cast_natCast, Rat.cast_ofNat,
      probe_eq]
    rw [onGrid]
    split
    · rfl
    · have onward := ih (step + 1) (Nat.succ_pos step)
      rw [Nat.add_sub_cancel] at onward
      exact onward

omit [PyMath F] [Exact F] in
theorem resolution_pos (positive : 0 < maximumDelayS) : 0 < resolution maximumDelayS := by
  unfold resolution
  positivity

omit [LinearOrder F] [IsStrictOrderedRing F] [PyMath F] [Exact F] in
theorem onGrid_zero : onGrid safe maximumDelayS 0 = safe 0 := by
  rw [onGrid, Nat.cast_zero, mul_zero]

/-- Past an unsafe start the search is one of the multiples of the resolution. -/
theorem earliestRelease_one : earliestRelease safe maximumDelayS 1 =
    (DyadicSearch.search (onGrid safe maximumDelayS) 24 64).map fun n : ℕ =>
      resolution maximumDelayS * n := by
  have start : (PyFloat.zero : F) = resolution maximumDelayS * (2 ^ 24 * (1 - 1) : ℕ) := by simp
  rw [earliestRelease, start, bracket_eq 64 1 Nat.one_pos, DyadicSearch.search, Option.map_map,
    Option.map_map]
  refine Option.map_congr fun index probed => ?_
  obtain ⟨later, -⟩ := DyadicSearch.probe_eq_some probed
  have next : 2 ^ 24 * index = 2 ^ 24 * (index - 1) + 2 ^ 24 := by omega
  have searched := bisect_eq safe maximumDelayS 24 (2 ^ 24 * (index - 1))
  rw [← next] at searched
  exact searched

theorem bisect_same (rounds : ℕ) (startS : F) : bisect safe rounds (startS, startS) = startS := by
  induction rounds with
  | zero => rfl
  | succ rounds ih =>
    rw [bisect]
    simp only [Exact.plus, Exact.over_eq, Exact.ofRat_cast, Rat.cast_ofNat, add_self_div_two, ite_self]
    exact ih

/-- What the search finds is safe, and as early as the resolution allows exactly if it can be
reached. -/
theorem earliest_iff_of_unsafe (positive : 0 < maximumDelayS) (unsafe_zero : safe 0 = false)
    (found : earliestRelease safe maximumDelayS 1 = some delayS) :
    safe delayS = true ∧ (Earliest safe maximumDelayS delayS ↔ Reached safe maximumDelayS) := by
  rw [earliestRelease_one] at found
  obtain ⟨m, searched, rfl⟩ := Option.map_eq_some_iff.mp found
  have resolution_pos := resolution_pos positive
  obtain ⟨later, reached, missed, first_iff⟩ :=
    DyadicSearch.search_eq_some searched (onGrid_zero.trans unsafe_zero)
  refine ⟨reached, ?_⟩
  have grid {i n : ℕ} (before : i + 1 ≤ n) : resolution maximumDelayS * i + resolution maximumDelayS ≤
      resolution maximumDelayS * n := by
    have ordered : ((i + 1 : ℕ) : F) ≤ n := Nat.cast_le.mpr before
    push_cast at ordered
    nlinarith
  constructor
  · intro earliest
    have unsafe_before : ∀ earlierS, 0 ≤ earlierS →
        earlierS + resolution maximumDelayS ≤ resolution maximumDelayS * m →
          safe earlierS = false := by
      intro earlierS started before
      rcases (le_sub_iff_add_le.mpr before).lt_or_eq with earlier | last
      · exact earliest earlierS started earlier
      · rw [last]
        have predecessor : resolution maximumDelayS * m - resolution maximumDelayS =
            resolution maximumDelayS * (m - 1 : ℕ) := by
          rw [Nat.cast_sub later, Nat.cast_one, mul_sub, mul_one]
        rw [predecessor]
        exact missed
    have first : ∀ i < m, onGrid safe maximumDelayS i = false := by
      intro i before
      exact unsafe_before _ (by positivity) (grid before)
    exact ⟨m, unsafe_before, (first_iff m first).mp rfl⟩
  · rintro ⟨n, unsafe_before, steps⟩ earlierS started earlier
    have first : ∀ i < n, onGrid safe maximumDelayS i = false := by
      intro i before
      exact unsafe_before _ (by positivity) (grid before)
    obtain rfl := (first_iff n first).mpr steps
    exact unsafe_before earlierS started (by linarith)

/-- As above, for a search that may start at once. -/
theorem earliest_iff (positive : 0 < maximumDelayS)
    (found : earliestRelease safe maximumDelayS 0 = some delayS) :
    safe delayS = true ∧ (Earliest safe maximumDelayS delayS ↔ Reached safe maximumDelayS) := by
  have resolution_pos := resolution_pos positive
  have first_probe : PyFloat.div (PyFloat.mul maximumDelayS (ofRat (0 : ℕ))) (ofRat 64) = (0 : F) := by
    simp only [Exact.div_eq, Exact.mul_eq, Exact.ofRat_cast, Nat.cast_zero, Rat.cast_zero, mul_zero,
      zero_div]
  have step : bracket safe maximumDelayS 65 0 PyFloat.zero =
      if safe 0 then some (PyFloat.zero, 0) else bracket safe maximumDelayS 64 1 0 := by
    rw [← first_probe]
    rfl
  rw [earliestRelease, step] at found
  split at found
  case isTrue safe_zero =>
    rw [Exact.zero_eq, Option.map_some, bisect_same] at found
    obtain rfl := Option.some.inj found
    refine ⟨safe_zero, iff_of_true (fun earlierS started earlier => ?_) ⟨0, ?_, ?_⟩⟩
    · linarith
    · intro earlierS started before
      rw [Nat.cast_zero, mul_zero] at before
      linarith
    · intro r _
      rw [DyadicSearch.roundUp, zero_ceilDiv, Nat.mul_zero, Nat.cast_zero, mul_zero]
      exact safe_zero
  case isFalse unsafe_zero =>
    rw [← Exact.zero_eq] at found
    exact earliest_iff_of_unsafe positive (by simpa using unsafe_zero) found

end Search

/-! ## The candidates -/

section Candidates

variable {F : Type} [Field F] [LinearOrder F] [IsStrictOrderedRing F] [PyMath F] [Exact F]
variable {routes scheduled : List (CandidateRoute F)} {planning : PlanningSubmission F}

/-- The continuous distance of some routes is at least the separation that is required. -/
def Apart (planning : PlanningSubmission F) (routes : List (CandidateRoute F)) : Prop :=
  ∀ distanceM, minimumContinuousCandidateDistance routes = some distanceM →
    planning.clearance.requiredPairwiseCenterSeparationM ≤ distanceM

theorem keepsApart_iff : keepsApart planning routes = true ↔ Apart planning routes := by
  unfold keepsApart Apart
  cases minimumContinuousCandidateDistance routes <;> simp

/-- Some routes are those of some roles, each released at the start chosen for its role. -/
def Scheduled (routes : List (CandidateRoute F)) (starts : Dict String F) (roleIds : List String)
    (scheduled : List (CandidateRoute F)) : Prop :=
  List.Forall₂ (fun roleId released => ∃ route startS, routeByRole routes roleId = .ok route ∧
    starts.get? roleId = some startS ∧ released = releasedAt true startS route) roleIds scheduled

omit [Field F] [LinearOrder F] [IsStrictOrderedRing F] [Exact F] in
/-- Every start but the first is the one that the search finds beside the routes before it. By
induction on the order. -/
theorem jointStarts_eq_ok {order : List String} {starts final : Dict String F}
    (ok : jointStarts routes planning scheduled starts order = .ok (some final))
    (distinct : order.Nodup) :
    (∀ roleId, roleId ∉ order → final.get? roleId = starts.get? roleId) ∧
      ∀ before roleId after, order = before ++ roleId :: after → ∃ earlier route startS,
        Scheduled routes final before earlier ∧ routeByRole routes roleId = .ok route ∧
        final.get? roleId = some startS ∧ (scheduled ++ earlier ≠ [] → earliestRelease
          (fun probe => keepsApart planning (scheduled ++ earlier ++ [releasedAt true probe route]))
          planning.coordination.maximumReleaseDelayS 0 = some startS) := by
  induction order generalizing scheduled starts with
  | nil =>
    cases ok
    refine ⟨fun _ _ => rfl, fun before roleId after split => ?_⟩
    simp at split
  | cons first rest ih =>
    obtain ⟨absent, distinct⟩ := List.nodup_cons.mp distinct
    obtain ⟨route, found, ok⟩ := bind_eq_ok.mp ok
    simp only at ok
    split at ok
    case h_1 => cases ok
    case h_2 startS chosen =>
      obtain ⟨others, chosen_later⟩ := ih ok distinct
      have start : final.get? first = some startS := by
        rw [others first absent, Dict.get?_insert_self]
      constructor
      · intro roleId member
        rw [List.mem_cons, not_or] at member
        rw [others roleId member.2, Dict.get?_insert_of_ne _ _ (Ne.symm member.1)]
      · intro before roleId after split
        cases before with
        | nil =>
          obtain ⟨rfl, rfl⟩ := List.cons.inj split
          refine ⟨[], route, startS, .nil, found, start, fun some_scheduled => ?_⟩
          rw [List.append_nil] at some_scheduled ⊢
          rwa [if_neg (by simpa using some_scheduled)] at chosen
        | cons head before =>
          obtain ⟨rfl, onward⟩ := List.cons.inj split
          obtain ⟨earlier, later, laterS, among, later_found, later_start, searched⟩ :=
            chosen_later before roleId after onward
          rw [List.append_assoc, List.singleton_append] at searched
          exact ⟨_ :: earlier, later, laterS, .cons ⟨route, startS, found, start, rfl⟩ among,
            later_found, later_start, searched⟩

theorem perm_of_mem_picks {α : Type} {items rest : List α} {item : α}
    (member : (item, rest) ∈ picks items) : (item :: rest).Perm items := by
  induction items generalizing rest with
  | nil => cases member
  | cons first others ih =>
    rcases List.mem_cons.mp member with same | member
    · cases same
      exact .refl _
    · obtain ⟨⟨picked, left⟩, among, same⟩ := List.mem_map.mp member
      cases same
      exact (List.Perm.swap first item left).trans ((ih among).cons first)

theorem perm_of_mem_permutations {α : Type} {items order : List α}
    (member : order ∈ permutations items) : order.Perm items := by
  unfold permutations at member
  generalize count : items.length = length at member
  induction length generalizing items order with
  | zero =>
    obtain rfl := List.length_eq_zero_iff.mp count
    obtain rfl := List.mem_singleton.mp member
    exact .refl _
  | succ length ih =>
    obtain ⟨⟨item, rest⟩, picked, member⟩ := List.mem_flatMap.mp member
    obtain ⟨order, among, rfl⟩ := List.mem_map.mp member
    have perm := perm_of_mem_picks picked
    have shorter : rest.length = length := by
      have same := perm.length_eq
      rw [List.length_cons, count] at same
      exact Nat.succ.inj same
    exact ((ih shorter among).cons item).trans perm

/-- Each release that is chosen keeps the separation, and is as early as the resolution allows
exactly if the search can reach such a one. -/
theorem releases_earliest_iff (routes : List (CandidateRoute F)) (planning : PlanningSubmission F)
    (ground : Bool) :
    (∀ seed ∈ continuousReleaseCandidates routes planning ground, ∃ roleId delayS,
      seed.parameters = [("role_id", .text roleId), ("delay_s", .number delayS),
        ("solver", .text "BRACKETED_BISECTION")] ∧
      seed.routes = routesWithReleaseDelay routes roleId delayS ground ∧
      Apart planning seed.routes ∧
      let safe := fun delayS =>
        keepsApart planning (routesWithReleaseDelay routes roleId delayS ground)
      Earliest safe planning.coordination.maximumReleaseDelayS delayS ↔
        Reached safe planning.coordination.maximumReleaseDelayS) ∧
    ∀ seeds, jointContinuousReleaseCandidates routes planning = .ok seeds → ∀ seed ∈ seeds,
      ∃ order starts, order.Perm (sortedRoles routes).dedup ∧
      releaseAll routes starts true = .ok seed.routes ∧
      ∀ before roleId after, order = before ++ roleId :: after → before ≠ [] →
        ∃ earlier route startS, Scheduled routes starts before earlier ∧
          routeByRole routes roleId = .ok route ∧ starts.get? roleId = some startS ∧
          Apart planning (earlier ++ [releasedAt true startS route]) ∧
          let safe := fun startS => keepsApart planning (earlier ++ [releasedAt true startS route])
          Earliest safe planning.coordination.maximumReleaseDelayS startS ↔
            Reached safe planning.coordination.maximumReleaseDelayS := by
  constructor
  · intro seed member
    unfold continuousReleaseCandidates at member
    simp only at member
    split at member
    case isTrue => cases member
    case isFalse admitted =>
      rw [Bool.or_eq_true, not_or, Exact.le_true, Exact.zero_eq, not_le] at admitted
      obtain ⟨roleId, -, chosen⟩ := List.mem_filterMap.mp member
      split at chosen
      case isTrue => cases chosen
      case isFalse unsafe_zero =>
        obtain ⟨delayS, found, rfl⟩ := Option.map_eq_some_iff.mp chosen
        rw [Exact.zero_eq] at unsafe_zero
        obtain ⟨safe, earliest_iff⟩ :=
          earliest_iff_of_unsafe admitted.2 (by simpa using unsafe_zero) found
        exact ⟨roleId, delayS, rfl, rfl, keepsApart_iff.mp safe, earliest_iff⟩
  · intro seeds ok seed member
    unfold jointContinuousReleaseCandidates at ok
    split at ok
    case isTrue =>
      cases ok
      cases member
    case isFalse admitted =>
      rw [Bool.or_eq_true, not_or, Exact.le_true, Exact.zero_eq, not_le] at admitted
      obtain ⟨found, passed, ok⟩ := bind_eq_ok.mp ok
      cases ok
      obtain ⟨result, among, same⟩ := List.mem_filterMap.mp member
      obtain rfl : result = some seed := same
      obtain ⟨order, permuted, ok⟩ := exists_of_mem_mapM passed among
      have perm := perm_of_mem_permutations permuted
      obtain ⟨starts, started, ok⟩ := bind_eq_ok.mp ok
      cases starts with
      | none => cases ok
      | some starts =>
        obtain ⟨selected, released, ok⟩ := bind_eq_ok.mp ok
        simp only [pure, Except.pure, Except.ok.injEq] at ok
        split at ok
        case isTrue => cases ok
        case isFalse =>
          cases ok
          refine ⟨order, starts, perm, released, fun before roleId after split some_before => ?_⟩
          obtain ⟨earlier, route, startS, scheduled, route_found, start, searched⟩ :=
            (jointStarts_eq_ok started (perm.nodup_iff.mpr (List.nodup_dedup _))).2
              before roleId after split
          have some_earlier : earlier ≠ [] := by
            rintro rfl
            cases scheduled
            exact some_before rfl
          obtain ⟨safe, earliest_iff⟩ := earliest_iff admitted.2 (searched some_earlier)
          exact ⟨earlier, route, startS, scheduled, route_found, start, keepsApart_iff.mp safe,
            earliest_iff⟩

end Candidates

/-! ## A release that the probes miss -/

section Bump
open BoundedJointPlanner (hoverRequest hoverRoute)

/-- Towards the other route and back. -/
def bumpRoute : CandidateRoute ℚ :=
  { hoverRoute with
    pointsM := [⟨0, 0, 1⟩, ⟨1, 0, 1⟩, ⟨0, 0, 1⟩]
    routeDurationS := 2
    segmentDurationsS := [1, 1] }

/-- Aside for a moment, and for good later. -/
def asideRoute : CandidateRoute ℚ :=
  { hoverRoute with
    roleId := "beta"
    pointsM := [⟨3 / 2, 0, 1⟩, ⟨3 / 2, 0, 1⟩, ⟨9 / 4, 0, 1⟩, ⟨3 / 2, 0, 1⟩, ⟨3 / 2, 0, 1⟩, ⟨3, 0, 1⟩]
    routeDurationS := 10
    segmentDurationsS := [3 / 4, 3 / 4, 3 / 4, 27 / 4, 1] }

theorem bump_strategies : (hoverRequest true).planning.strategyAuthority.Nodup :=
  (hoverRequest true).planning.uniqueAuthority

def bumpPlanning : PlanningSubmission ℚ :=
  { (hoverRequest true).planning with
    clearance := ⟨1 / 10, 1 / 20, 1, 1 / 10, 0⟩
    coordination := ⟨false, false, 100, 0, 64⟩
    uniqueAuthority := bump_strategies }

theorem bump_found :
    (continuousReleaseCandidates [bumpRoute, asideRoute] bumpPlanning true).any
      (fun seed => seed.parameters == [("role_id", .text "alpha"), ("delay_s", .number (17 / 2)),
        ("solver", .text "BRACKETED_BISECTION")]) = true := by
  decide +kernel

/-- The probes find a release, and it keeps the two routes apart. -/
theorem bump_releases_apart : ∃ seed ∈
    continuousReleaseCandidates [bumpRoute, asideRoute] bumpPlanning true,
      Apart bumpPlanning seed.routes := by
  obtain ⟨seed, member, -⟩ := List.any_eq_true.mp bump_found
  obtain ⟨_, _, _, _, apart, _⟩ :=
    (releases_earliest_iff [bumpRoute, asideRoute] bumpPlanning true).1 seed member
  exact ⟨seed, member, apart⟩

/-- A release after half a second is safe, but the probes are a second apart. -/
theorem bump_released_late : ∃ seed ∈
    continuousReleaseCandidates [bumpRoute, asideRoute] bumpPlanning true,
      seed.parameters = [("role_id", .text "alpha"), ("delay_s", .number (17 / 2)),
        ("solver", .text "BRACKETED_BISECTION")] ∧
      ¬Earliest (fun delayS => keepsApart bumpPlanning
          (routesWithReleaseDelay [bumpRoute, asideRoute] "alpha" delayS true))
        bumpPlanning.coordination.maximumReleaseDelayS (17 / 2) := by
  obtain ⟨seed, member, parameters⟩ := List.any_eq_true.mp bump_found
  refine ⟨seed, member, by simpa using parameters, fun earliest => ?_⟩
  have missed := earliest (1 / 2) (by decide +kernel) (by decide +kernel)
  have safe : keepsApart bumpPlanning
    (routesWithReleaseDelay [bumpRoute, asideRoute] "alpha" (1 / 2) true) = true := by decide +kernel
  cases safe.symm.trans missed

end Bump

end CampaignTiming

end CrazySwarm
