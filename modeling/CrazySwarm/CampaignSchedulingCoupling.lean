import CrazySwarm.CampaignScheduling
import CrazySwarm.CampaignCompleteness

/-! The launch schedule of a candidate that the timing generators made: the start of a route is
coupled with its waits, so that the schedule, which is made from the waits alone, realises the
joint motion that was planned. -/
namespace CrazySwarm
open PyFloat (lt le zero ofRat)
open CampaignEvaluation (defaultTakeoffDurationS defaultStabilizationS defaultLandingDurationS
  defaultReservationClearanceS)

namespace CampaignTiming

def Later {F : Type} [Zero F] [LE F] (starts : Dict String F) : Prop :=
  ∀ roleId startS, starts.get? roleId = some startS → 0 ≤ startS

theorem Later.empty {F : Type} [Zero F] [LE F] : Later (.empty : Dict String F) := fun roleId startS found => by cases found

theorem Later.insert {F : Type} [Zero F] [LE F] {starts : Dict String F} (later : Later starts) (roleId : String) {startS : F}
    (nonneg : 0 ≤ startS) : Later (starts.insert roleId startS) := by
  intro other found bound
  rw [Dict.get?_insert] at bound
  split at bound
  · cases bound
    exact nonneg
  · exact later other found bound

variable {F : Type}

/-- A route as the direct and the geometry generators make it: it starts at 0 and waits nowhere. -/
structure Based [Field F] [LinearOrder F] (route : CandidateRoute F) : Prop where
  start : route.routeStartS = 0
  ground : route.groundWaitS = 0
  airborne : route.airborneWaitS = 0
  duration : 0 < route.routeDurationS

structure Coupled [Field F] [LinearOrder F] (route : CandidateRoute F) : Prop where
  start : route.routeStartS = route.groundWaitS + route.airborneWaitS
  ground : 0 ≤ route.groundWaitS
  airborne : 0 ≤ route.airborneWaitS
  duration : 0 < route.routeDurationS

theorem Based.coupled [Field F] [LinearOrder F] {route : CandidateRoute F} (based : Based route) : Coupled route where
  start := by simp [based.start, based.ground, based.airborne]
  ground := based.ground.ge
  airborne := based.airborne.ge
  duration := based.duration

variable [Field F] [LinearOrder F] [IsStrictOrderedRing F] [PyMath F] [Exact F]

theorem Based.releasedAt {route : CandidateRoute F} (based : Based route) {ground : Bool}
    {startS : F} (later : 0 ≤ startS) : Coupled (releasedAt ground startS route) where
  start := by cases ground <;> simp [CampaignTiming.releasedAt]
  ground := by cases ground <;> simp [CampaignTiming.releasedAt, later]
  airborne := by cases ground <;> simp [CampaignTiming.releasedAt, later]
  duration := based.duration

theorem Based.delayed {route : CandidateRoute F} (based : Based route) {ground : Bool}
    {delayS : F} (later : 0 ≤ delayS) : Coupled (delayed ground delayS route) where
  start := by cases ground <;> simp [CampaignTiming.delayed, based.start]
  ground := by cases ground <;> simp [CampaignTiming.delayed, later]
  airborne := by cases ground <;> simp [CampaignTiming.delayed, later]
  duration := based.duration

variable {routes : List (CandidateRoute F)}

theorem coupled_routesWithReleaseDelay (based : ∀ route ∈ routes, Based route) {roleId : String}
    {delayS : F} {ground : Bool} (later : 0 ≤ delayS) :
    ∀ route ∈ routesWithReleaseDelay routes roleId delayS ground, Coupled route := by
  intro route member
  obtain ⟨base, among, rfl⟩ := List.mem_map.mp member
  split
  · exact (based base among).delayed later
  · exact (based base among).coupled

/-! ## The times found -/

theorem coupled_releaseAll (based : ∀ route ∈ routes, Based route) {starts : Dict String F}
    (later : Later starts) {ground : Bool} {selected : List (CandidateRoute F)}
    (ok : releaseAll routes starts ground = .ok selected) : ∀ route ∈ selected, Coupled route := by
  intro route member
  obtain ⟨base, among, released⟩ := exists_of_mem_mapM ok member
  split at released
  · next startS found =>
    cases released
    exact (based base among).releasedAt (later _ startS found)
  · cases released

theorem later_serializedStarts (based : ∀ route ∈ routes, Based route) {ground : Bool}
    {order : List String} {releaseS : F} {starts found : Dict String F} (nonneg : 0 ≤ releaseS)
    (later : Later starts)
    (ok : serializedStarts routes ground releaseS starts order = .ok found) : Later found := by
  induction order generalizing releaseS starts with
  | nil =>
    cases ok
    exact later
  | cons roleId rest ih =>
    unfold serializedStarts at ok
    obtain ⟨route, routeOk, ok⟩ := bind_eq_ok.mp ok
    have duration := (based route (mem_of_routeByRole routeOk)).duration
    refine ih ?_ (later.insert roleId nonneg) ok
    simp only [defaultReservationClearanceS, defaultTakeoffDurationS, defaultStabilizationS,
      defaultLandingDurationS, Exact.plus, Exact.ofRat_cast]
    split <;> push_cast <;> linarith

theorem bisect_nonneg (safe : F → Bool) {rounds : Nat} {lower upper : F} (below : 0 ≤ lower)
    (above : 0 ≤ upper) : 0 ≤ bisect safe rounds (lower, upper) := by
  induction rounds generalizing lower upper with
  | zero => exact above
  | succ rounds ih =>
    have middle : 0 ≤ (lower + upper) / 2 := by linarith
    simp only [bisect, Exact.plus, Exact.over_eq, Exact.ofRat_cast, Rat.cast_ofNat]
    split
    · exact ih below middle
    · exact ih middle above

theorem bracket_nonneg {safe : F → Bool} {maximumDelayS : F} (positive : 0 ≤ maximumDelayS)
    {probes step : Nat} {lower : F} {range : F × F} (below : 0 ≤ lower)
    (found : bracket safe maximumDelayS probes step lower = some range) :
    0 ≤ range.1 ∧ 0 ≤ range.2 := by
  induction probes generalizing step lower with
  | zero => cases found
  | succ probes ih =>
    have probe : 0 ≤ maximumDelayS * (step : F) / 64 := by positivity
    simp only [bracket, Exact.times, Exact.over_eq, Exact.ofRat_cast, Rat.cast_natCast,
      Rat.cast_ofNat] at found
    split at found
    · cases found
      exact ⟨below, probe⟩
    · exact ih probe found

theorem earliestRelease_nonneg {safe : F → Bool} {maximumDelayS releaseS : F}
    (positive : 0 ≤ maximumDelayS) {first : Nat}
    (found : earliestRelease safe maximumDelayS first = some releaseS) : 0 ≤ releaseS := by
  unfold earliestRelease at found
  obtain ⟨range, bracketed, rfl⟩ := Option.map_eq_some_iff.mp found
  obtain ⟨below, above⟩ := bracket_nonneg positive Exact.zero_eq.ge bracketed
  exact bisect_nonneg safe below above

variable {planning : PlanningSubmission F}

theorem later_jointStarts (positive : 0 ≤ planning.coordination.maximumReleaseDelayS)
    {order : List String} {scheduled : List (CandidateRoute F)} {starts found : Dict String F}
    (later : Later starts)
    (ok : jointStarts routes planning scheduled starts order = .ok (some found)) :
    Later found := by
  induction order generalizing scheduled starts with
  | nil =>
    cases ok
    exact later
  | cons roleId rest ih =>
    unfold jointStarts at ok
    obtain ⟨route, -, ok⟩ := bind_eq_ok.mp ok
    dsimp only at ok
    split at ok
    · cases ok
    · next startS start =>
      refine ih (later.insert roleId ?_) ok
      split at start
      · cases start
        exact Exact.zero_eq.ge
      · exact earliestRelease_nonneg positive start

variable {case : CampaignCase F} {seed : CandidateSeed F}

theorem delayGrid_nonneg {delayS : F} (member : delayS ∈ case.search.delayGridS) : 0 ≤ delayS := by
  have checks := (CaseData.validate_eq_ok case.valid).2.2
  simp only [SearchSettings.fieldChecks, List.forall_mem_cons, Bool.and_eq_true,
    List.all_eq_true] at checks
  simpa using checks.2.2.2.1.2 delayS member

/-- Whatever the timing generators make of routes that start at 0 starts when its waits are
over. -/
theorem Generated.coupled (generated : Generated case planning routes seed)
    (based : ∀ route ∈ routes, Based route) : ∀ route ∈ seed.routes, Coupled route := by
  cases generated with
  | retime roleId delayS ground member =>
    exact coupled_routesWithReleaseDelay based (delayGrid_nonneg member)
  | joint order ground seed _ ok =>
    obtain ⟨starts, startsOk, ok⟩ := bind_eq_ok.mp ok
    obtain ⟨selected, released, ok⟩ := bind_eq_ok.mp ok
    cases ok
    exact coupled_releaseAll based
      (later_serializedStarts based Exact.zero_eq.ge Later.empty startsOk) released
  | continuous ground seed member =>
    unfold continuousReleaseCandidates at member
    dsimp only at member
    split at member
    · cases member
    · next searched =>
      have positive : 0 ≤ planning.coordination.maximumReleaseDelayS := by
        simp only [Bool.or_eq_true, not_or, Exact.le_true, Exact.zero_eq, not_le] at searched
        exact searched.2.le
      obtain ⟨roleId, -, found⟩ := List.mem_filterMap.mp member
      split at found
      · cases found
      · obtain ⟨upper, released, rfl⟩ := Option.map_eq_some_iff.mp found
        exact coupled_routesWithReleaseDelay based (earliestRelease_nonneg positive released)
  | jointContinuous seeds seed ok member =>
    unfold jointContinuousReleaseCandidates at ok
    split at ok
    · cases ok
      cases member
    · next searched =>
      have positive : 0 ≤ planning.coordination.maximumReleaseDelayS := by
        simp only [Bool.or_eq_true, not_or, Exact.le_true, Exact.zero_eq, not_le] at searched
        exact searched.2.le
      obtain ⟨found, foundOk, ok⟩ := bind_eq_ok.mp ok
      cases ok
      obtain ⟨released, among, rfl⟩ := List.mem_filterMap.mp member
      obtain ⟨order, -, releasedOk⟩ := exists_of_mem_mapM foundOk among
      unfold jointContinuousRelease at releasedOk
      obtain ⟨starts, startsOk, ok⟩ := bind_eq_ok.mp releasedOk
      cases starts with
      | none => cases ok
      | some starts =>
        obtain ⟨selected, selectedOk, ok⟩ := bind_eq_ok.mp ok
        split at ok
        · cases ok
        · cases ok
          exact coupled_releaseAll based (later_jointStarts positive Later.empty startsOk)
            selectedOk
  | bottleneck order seed _ ok =>
    obtain ⟨retimed, retimedOk, ok⟩ := bind_eq_ok.mp ok
    cases ok
    obtain ⟨starts, startsOk, ok⟩ := bind_eq_ok.mp retimedOk
    obtain ⟨selected, released, ok⟩ := bind_eq_ok.mp ok
    cases ok
    exact coupled_releaseAll based
      (later_serializedStarts based Exact.zero_eq.ge Later.empty startsOk) released
  | combined geometry roleId delayS same member =>
    intro route among
    obtain ⟨base, inBase, rfl⟩ := List.mem_map.mp among
    rw [same] at inBase
    have based := based base inBase
    have later := delayGrid_nonneg (List.mem_of_mem_take member)
    split
    · constructor
      · simp [based.start, based.ground, based.airborne]
      · simpa [based.ground] using later
      · exact based.airborne.ge
      · exact based.duration
    · exact based.coupled

end CampaignTiming

namespace CampaignScheduling
open CampaignGeometry (droneByRole)
open CampaignEvaluation (pathLengthM energyPercent batteryEnd executionOverheadS Accepted
  completionTimeS timingReasons roleReasons)
open CampaignTiming (Based Coupled Generated)

def routeStartOf {F : Type} (role : RoleLaunchSchedule F) : Option F :=
  (role.actions.find? fun action => action.kind == .startRoute).map LaunchAction.startsAtSourceS

theorem routeStartOf_append {F : Type} {actions : List (LaunchAction F)} {start land : LaunchAction F}
    {roleId : String} {energy : RoleEnergyBudget F}
    (before : ∀ action ∈ actions, action.kind ≠ .startRoute) (kind : start.kind = .startRoute) :
    routeStartOf ⟨roleId, actions ++ [start, land], energy⟩ = some start.startsAtSourceS := by
  have none : (actions.find? fun action => action.kind == .startRoute) = none := by
    rw [List.find?_eq_none]
    intro action member
    simpa using before action member
  simp [routeStartOf, List.find?_append, none, kind]

variable {F : Type} [Field F] [LinearOrder F]

/-- The actions follow each other from one time to another, with no gap and no overlap. -/
def Contiguous : F → List (LaunchAction F) → F → Prop
  | start, [], until_ => start = until_
  | start, action :: rest, until_ => action.startsAtSourceS = start ∧
      start ≤ action.endsAtSourceS ∧ Contiguous action.endsAtSourceS rest until_

omit [Field F] in
theorem Contiguous.append {start between until_ : F} {first second : List (LaunchAction F)}
    (before : Contiguous start first between) (after : Contiguous between second until_) :
    Contiguous start (first ++ second) until_ := by
  induction first generalizing start with
  | nil =>
    cases before
    exact after
  | cons action rest ih =>
    obtain ⟨starts, ordered, rest⟩ := before
    exact ⟨starts, ordered, ih rest⟩

/-- A part of a role's actions before its route. -/
structure Phase (start : F) (actions : List (LaunchAction F)) (until_ : F) : Prop where
  contiguous : Contiguous start actions until_
  before : ∀ action ∈ actions, action.kind ≠ .startRoute

variable [IsStrictOrderedRing F] [PyMath F] [Exact F] {case : CampaignCase F}
variable {route : CandidateRoute F}

theorem make_eq_ok {kind : LaunchActionKind} {start until_ : F} {required : Bool}
    {rationale : String} (nonneg : 0 ≤ start) (ordered : start ≤ until_) :
    LaunchAction.make kind start until_ required rationale =
      .ok ⟨kind, start, until_, required, rationale⟩ := by
  have checks : checked "LaunchAction" [("starts_at_source_s", PyFloat.ge start zero),
      ("ends_at_source_s", PyFloat.ge until_ zero)] = .ok () := by
    simp [nonneg, nonneg.trans ordered]
  rw [LaunchAction.make, checks]
  rfl

structure Ordered (case : CampaignCase F) (route : CandidateRoute F) : Prop where
  takeoffStart : 0 ≤ (launchTimes case route).takeoffStart
  takeoffEnd : (launchTimes case route).takeoffStart ≤ (launchTimes case route).takeoffEnd
  stabilizationEnd : (launchTimes case route).takeoffEnd ≤ (launchTimes case route).stabilizationEnd
  routeStart : (launchTimes case route).routeStart =
    (launchTimes case route).stabilizationEnd + route.airborneWaitS
  airborne : 0 ≤ route.airborneWaitS
  routeEnd : (launchTimes case route).routeStart ≤ (launchTimes case route).routeEnd
  landingEnd : (launchTimes case route).routeEnd < (launchTimes case route).landingEnd

variable (case) in
theorem ordered_of_coupled (coupled : Coupled route) : Ordered case route := by
  have takeoff : 0 ≤ (launchTimes case route).takeoffStart := by
    unfold launchTimes
    dsimp only
    split
    · exact Exact.zero_eq.ge
    · exact coupled.ground
  constructor
  · exact takeoff
  · simp only [launchTimes, defaultTakeoffDurationS, Exact.plus, Exact.ofRat_cast]
    norm_num
  · simp only [launchTimes, defaultStabilizationS, Exact.plus, Exact.ofRat_cast]
    norm_num
  · simp only [launchTimes, Exact.plus]
  · exact coupled.airborne
  · have duration := coupled.duration
    simp only [launchTimes, Exact.plus]
    linarith
  · simp only [launchTimes, defaultLandingDurationS, Exact.plus, Exact.ofRat_cast]
    norm_num

theorem groundWaitActions_eq_ok (ordered : Ordered case route) :
    ∃ actions, groundWaitActions (launchTimes case route) = .ok actions ∧
      Phase 0 actions (launchTimes case route).takeoffStart := by
  have takeoff := ordered.takeoffStart
  unfold groundWaitActions
  rw [Exact.zero_eq, make_eq_ok le_rfl takeoff]
  split
  · exact ⟨_, rfl, ⟨rfl, takeoff, rfl⟩, by simp⟩
  · next atOnce =>
    have same : (0 : F) = (launchTimes case route).takeoffStart := by
      rw [Exact.gt_true, not_lt] at atOnce
      exact le_antisymm takeoff atOnce
    exact ⟨[], rfl, same, by simp⟩

theorem launchActions_eq_ok (ordered : Ordered case route) :
    ∃ actions, launchActions (launchTimes case route) = .ok actions ∧
      Phase (launchTimes case route).takeoffStart actions
        (launchTimes case route).stabilizationEnd := by
  have takeoff := ordered.takeoffStart
  have climb := ordered.takeoffEnd
  have settle := ordered.stabilizationEnd
  unfold launchActions
  rw [make_eq_ok takeoff le_rfl, make_eq_ok takeoff climb, make_eq_ok (takeoff.trans climb) settle]
  exact ⟨_, rfl, ⟨rfl, le_rfl, rfl, climb, rfl, settle, rfl⟩, by simp⟩

theorem stagingActions_eq_ok (ordered : Ordered case route) :
    ∃ actions, stagingActions (launchTimes case route) route = .ok actions ∧
      Phase (launchTimes case route).stabilizationEnd actions
        (launchTimes case route).routeStart := by
  have hovers := ordered.airborne
  have start := ordered.routeStart
  have settled := (ordered.takeoffStart.trans ordered.takeoffEnd).trans ordered.stabilizationEnd
  have staged : (launchTimes case route).stabilizationEnd ≤ (launchTimes case route).routeStart := by
    rw [start]
    exact le_add_of_nonneg_right hovers
  unfold stagingActions
  rw [make_eq_ok settled staged]
  split
  · exact ⟨_, rfl, ⟨rfl, staged, rfl⟩, by simp⟩
  · next atOnce =>
    have none : route.airborneWaitS = 0 := by
      rw [Exact.gt_true, Exact.zero_eq, not_lt] at atOnce
      exact le_antisymm atOnce hovers
    rw [none, add_zero] at start
    exact ⟨[], rfl, start.symm, by simp⟩

theorem routeActions_eq_ok (ordered : Ordered case route) :
    ∃ start land, routeActions (launchTimes case route) = .ok [start, land] ∧
      Contiguous (launchTimes case route).routeStart [start, land]
        (launchTimes case route).landingEnd ∧
      start.kind = .startRoute ∧ land.kind = .land := by
  have settled := (ordered.takeoffStart.trans ordered.takeoffEnd).trans ordered.stabilizationEnd
  have starts : 0 ≤ (launchTimes case route).routeStart := by
    rw [ordered.routeStart]
    exact add_nonneg settled ordered.airborne
  have flies := ordered.routeEnd
  unfold routeActions
  rw [make_eq_ok starts flies, make_eq_ok (starts.trans flies) ordered.landingEnd.le]
  exact ⟨_, _, rfl, ⟨rfl, flies, rfl, ordered.landingEnd.le, rfl⟩, rfl, rfl⟩

structure Realises (case : CampaignCase F) (route : CandidateRoute F)
    (role : RoleLaunchSchedule F) : Prop where
  roleId : role.roleId = route.roleId
  contiguous : Contiguous 0 role.actions (launchTimes case route).landingEnd
  lands : role.actions.getLast?.map LaunchAction.kind = some .land
  starts : routeStartOf role = some (launchTimes case route).routeStart

theorem pathLengthM_nonneg (route : CandidateRoute F) : 0 ≤ pathLengthM route := by
  unfold pathLengthM CampaignGeometry.sum
  generalize CampaignGeometry.pairwise route.pointsM = pairs
  have sums (start : F) (nonneg : 0 ≤ start) :
      0 ≤ (pairs.map fun pair => CampaignEvaluation.distance pair.1 pair.2).foldl
        PyFloat.add start := by
    induction pairs generalizing start with
    | nil => exact nonneg
    | cons pair rest ih =>
      rw [List.map_cons, List.foldl_cons]
      apply ih
      rw [Exact.add_eq]
      exact add_nonneg nonneg (Exact.sqrt_nonneg _)
  exact sums zero Exact.zero_eq.ge

/-- The energy that the schedule reckons with is the one of the evaluation. -/
theorem endBattery_eq (route : CandidateRoute F) (drone : DroneCase F) :
    endBattery route drone = batteryEnd (route, drone) := by
  simp only [endBattery, routeEnergy, batteryEnd, energyPercent, Exact.plus, Exact.minus,
    Exact.times, Exact.ofRat_cast, Rat.cast_one]
  ring

theorem routeEnergy_nonneg (coupled : Coupled route) : 0 ≤ routeEnergy route := by
  simp only [routeEnergy, Exact.plus, Exact.times, Exact.ofRat_cast]
  exact add_nonneg (pathLengthM_nonneg route) (mul_nonneg coupled.airborne (by norm_num))

variable (case) in
theorem budget_valid (coupled : Coupled route) {drone : DroneCase F}
    (roleId : drone.roleId = route.roleId) (valid : drone.valid = true)
    (battery : drone.minimumReserveBatteryPercent ≤ endBattery route drone) :
    RoleEnergyBudget.validate ⟨route.roleId, (launchTimes case route).takeoffStart,
      route.airborneWaitS, routeEnergy route, drone.minimumReserveBatteryPercent,
      endBattery route drone⟩ = .ok () := by
  have energy := routeEnergy_nonneg coupled
  have takeoff := (ordered_of_coupled case coupled).takeoffStart
  simp only [DroneCase.valid, Bool.and_eq_true, Exact.ge_true, Exact.atMost_true, Exact.zero_eq,
    Exact.ofRat_cast, Rat.cast_ofNat] at valid
  obtain ⟨⟨⟨⟨⟨⟨⟨⟨identifier, -⟩, -⟩, -⟩, -⟩, initial⟩, reserve⟩, -⟩, -⟩ := valid
  rw [roleId] at identifier
  have full : endBattery route drone ≤ 100 := by
    simp only [endBattery, Exact.minus, Exact.ofRat_cast, Rat.cast_one]
    linarith [initial.2]
  simp [RoleEnergyBudget.validate, identifier, takeoff, coupled.airborne, energy, reserve.1,
    reserve.1.trans battery, full]

theorem roleSchedule_eq_ok (coupled : Coupled route) {drone : DroneCase F}
    (found : droneByRole case route.roleId = .ok drone)
    (battery : drone.minimumReserveBatteryPercent ≤ batteryEnd (route, drone)) :
    ∃ role, roleSchedule case route = .ok role ∧ Realises case route role := by
  obtain ⟨member, roleId⟩ := CampaignGeometry.droneByRole_eq_ok found
  obtain ⟨drones, constraints, -⟩ := CaseData.validate_eq_ok case.valid
  have unrequired : 0 ≤ case.hardConstraints.maximumUnrequiredAirborneWaitS := by
    simp only [HardConstraints.fieldChecks, List.forall_mem_cons] at constraints
    simpa using constraints.2.2.2.2.2.2.1
  have ordered := ordered_of_coupled case coupled
  obtain ⟨ground, groundOk, waits, groundBefore⟩ := groundWaitActions_eq_ok ordered
  obtain ⟨launch, launchOk, launches, launchBefore⟩ := launchActions_eq_ok ordered
  obtain ⟨staging, stagingOk, stages, stagingBefore⟩ := stagingActions_eq_ok ordered
  obtain ⟨start, land, restOk, flies, startKind, landKind⟩ := routeActions_eq_ok ordered
  have wanted : (!(lt case.hardConstraints.maximumUnrequiredAirborneWaitS route.airborneWaitS &&
      le route.airborneWaitS zero)) = true := by
    simp only [Bool.not_eq_true', Bool.and_eq_false_iff, Exact.lt_false, Exact.le_false,
      Exact.zero_eq]
    by_cases hovers : 0 < route.airborneWaitS
    · exact .inr hovers
    · exact .inl ((not_lt.mp hovers).trans unrequired)
  rw [← endBattery_eq] at battery
  have reserve : (!lt (endBattery route drone) drone.minimumReserveBatteryPercent) = true := by
    simpa using battery
  have budget := budget_valid case coupled roleId (drones drone member) battery
  have made : roleSchedule case route = .ok ⟨route.roleId, ground ++ launch ++ staging ++
      [start, land], ⟨route.roleId, (launchTimes case route).takeoffStart, route.airborneWaitS,
        routeEnergy route, drone.minimumReserveBatteryPercent, endBattery route drone⟩⟩ := by
    rw [roleSchedule, found]
    simp only [bind, Except.bind, groundOk, launchOk, stagingOk, restOk, wanted, reserve, require,
      if_true, budget]
    rfl
  refine ⟨_, made, ?_⟩
  constructor
  · rfl
  · exact ((waits.append launches).append stages).append flies
  · simp [landKind]
  · rw [routeStartOf_append _ startKind, flies.1]
    intro action among
    rcases List.mem_append.mp among with among | among
    · rcases List.mem_append.mp among with among | among
      · exact groundBefore action among
      · exact launchBefore action among
    · exact stagingBefore action among

/-! ## The whole schedule -/

/-- `max` over the routes bounds them all. -/
theorem le_completionTimeS {routes : List (CandidateRoute F)} {completion : F}
    (ok : completionTimeS routes = .ok completion) (member : route ∈ routes) :
    route.routeStartS + route.routeDurationS + 8 ≤ completion := by
  unfold completionTimeS at ok
  split at ok
  · next found =>
    cases ok
    have bounds := (CampaignGeometry.maximum?_le found).mp le_rfl _ (List.mem_map_of_mem member)
    simp only [executionOverheadS, defaultTakeoffDurationS, defaultStabilizationS,
      defaultLandingDurationS, Exact.plus, Exact.ofRat_cast] at bounds
    norm_num at bounds
    linarith
  · cases ok

/-- A role has landed no later than its route, started when its waits are over, allows. -/
theorem landingEnd_le (coupled : Coupled route) :
    (launchTimes case route).landingEnd ≤ route.routeStartS + route.routeDurationS + 8 := by
  have ground := coupled.ground
  rw [coupled.start]
  simp only [launchTimes, defaultTakeoffDurationS, defaultStabilizationS,
    defaultLandingDurationS, Exact.plus, Exact.ofRat_cast, Exact.zero_eq]
  norm_num
  split <;> linarith

variable (case) in
theorem landingEnd_pos (coupled : Coupled route) : 0 < (launchTimes case route).landingEnd := by
  have ordered := ordered_of_coupled case coupled
  have settled := (ordered.takeoffStart.trans ordered.takeoffEnd).trans ordered.stabilizationEnd
  have starts : 0 ≤ (launchTimes case route).routeStart := by
    rw [ordered.routeStart]
    exact add_nonneg settled ordered.airborne
  exact (starts.trans ordered.routeEnd).trans_lt ordered.landingEnd

theorem routeStart_eq (coupled : Coupled route) :
    (launchTimes case route).routeStart = route.routeStartS + 3 -
      (if case.hardConstraints.synchronizedLaunchRequired then route.groundWaitS else 0) := by
  rw [coupled.start]
  simp only [launchTimes, defaultTakeoffDurationS, defaultStabilizationS, Exact.plus,
    Exact.ofRat_cast, Exact.zero_eq]
  norm_num
  split <;> ring

theorem battery_of_accepted {drone : DroneCase F}
    (none : roleReasons case (route, drone) = []) :
    drone.minimumReserveBatteryPercent ≤ batteryEnd (route, drone) := by
  unfold roleReasons at none
  simp only [List.append_eq_nil_iff] at none
  by_contra low
  rw [if_pos (Exact.lt_true.mpr (not_le.mp low))] at none
  cases none.1.1.1

variable (case) in
/-- The watchdog of a schedule that takes some time. -/
theorem schedule_valid (roles : List (RoleLaunchSchedule F)) {completion : F}
    (positive : 0 < completion) :
    GroundFirstSchedule.validate ⟨roles, completion,
      PyFloat.add (PyFloat.div completion case.hardConstraints.minimumRealtimeFactor)
        case.hardConstraints.watchdogGuardS,
      case.hardConstraints.minimumRealtimeFactor, case.hardConstraints.watchdogGuardS⟩ =
        .ok () := by
  have constraints := (CaseData.validate_eq_ok case.valid).2.1
  simp only [HardConstraints.fieldChecks, List.forall_mem_cons, Bool.and_eq_true, Exact.gt_true,
    Exact.ge_true, Exact.zero_eq] at constraints
  obtain ⟨-, -, -, -, -, -, -, ⟨factor, -⟩, guarded, -⟩ := constraints
  have watchdog : 0 < completion / case.hardConstraints.minimumRealtimeFactor +
      case.hardConstraints.watchdogGuardS :=
    add_pos_of_pos_of_nonneg (div_pos positive factor) guarded
  simp [GroundFirstSchedule.validate, positive.le, factor, guarded, watchdog, Exact.add_eq,
    Exact.div_eq]

theorem completionOf_le {routes : List (CandidateRoute F)} {bound : F} :
    completionOf case routes ≤ bound ↔
      0 ≤ bound ∧ ∀ route ∈ routes, (launchTimes case route).landingEnd ≤ bound := by
  rw [completionOf, CampaignGeometry.foldl_max_le, Exact.zero_eq]

variable [PyRound F] [ExactRound F] {planning : PlanningSubmission F}

theorem groundWait_near {strategy : PlannerStrategy} {routes : List (CandidateRoute F)}
    (timing : timingReasons case planning strategy routes = [])
    (synchronized : case.hardConstraints.synchronizedLaunchRequired = true)
    {first second : CandidateRoute F} (firstIn : first ∈ routes) (secondIn : second ∈ routes) :
    |first.groundWaitS - second.groundWaitS| ≤ 1e-9 := by
  have equal : PyRound.roundDigits first.groundWaitS 9 =
      PyRound.roundDigits second.groundWaitS 9 := by
    unfold timingReasons at timing
    simp only [List.append_eq_nil_iff, synchronized, Bool.true_or, Bool.true_and] at timing
    obtain ⟨⟨⟨-, launch⟩, -⟩, -⟩ := timing
    by_contra apart
    have found : (routes.any fun first => routes.any fun second =>
        !PyFloat.eq (PyRound.roundDigits first.groundWaitS 9)
          (PyRound.roundDigits second.groundWaitS 9)) = true := by
      refine List.any_eq_true.mpr ⟨first, firstIn, List.any_eq_true.mpr ⟨second, secondIn, ?_⟩⟩
      simpa using apart
    rw [if_pos found] at launch
    cases launch
  have near := ExactRound.roundDigits_near first.groundWaitS 9
  have near' := ExactRound.roundDigits_near second.groundWaitS 9
  rw [equal] at near
  rw [abs_le] at near near' ⊢
  norm_num at near near' ⊢
  constructor
  · linarith
  · linarith

structure ScheduleRealises (case : CampaignCase F) (candidate : CandidateEvaluation F)
    (schedule : GroundFirstSchedule F) : Prop where
  roles : List.Forall₂ (Realises case) (sortedRoutes candidate.routes) schedule.roles
  together : ∀ first ∈ (sortedRoutes candidate.routes).zip schedule.roles,
    ∀ second ∈ (sortedRoutes candidate.routes).zip schedule.roles,
      ∃ start start', routeStartOf first.2 = some start ∧ routeStartOf second.2 = some start' ∧
        |(start' - start) - (second.1.routeStartS - first.1.routeStartS)| ≤ 1e-9 ∧
        (case.hardConstraints.synchronizedLaunchRequired = false →
          start' - start = second.1.routeStartS - first.1.routeStartS)
  within : schedule.sourceScheduleDurationS ≤ candidate.cost.missionCompletionTimeS
  inTime : schedule.sourceScheduleDurationS ≤ case.hardConstraints.deadlineS

theorem starts_apart {routes : List (CandidateRoute F)} {strategy : PlannerStrategy}
    (timing : timingReasons case planning strategy routes = [])
    {first second : CandidateRoute F} (firstIn : first ∈ routes) (secondIn : second ∈ routes)
    (coupled : ∀ route ∈ routes, Coupled route) :
    |((launchTimes case second).routeStart - (launchTimes case first).routeStart) -
        (second.routeStartS - first.routeStartS)| ≤ 1e-9 ∧
      (case.hardConstraints.synchronizedLaunchRequired = false →
        (launchTimes case second).routeStart - (launchTimes case first).routeStart =
          second.routeStartS - first.routeStartS) := by
  rw [routeStart_eq (coupled first firstIn), routeStart_eq (coupled second secondIn)]
  cases synchronized : case.hardConstraints.synchronizedLaunchRequired with
  | false =>
    constructor
    · have same : second.routeStartS + 3 - 0 - (first.routeStartS + 3 - 0) -
          (second.routeStartS - first.routeStartS) = (0 : F) := by ring
      simp only [Bool.false_eq_true, if_false, same, abs_zero]
      norm_num
    · intro _
      simp only [Bool.false_eq_true, if_false]
      ring
  | true =>
    constructor
    · have near := groundWait_near timing synchronized firstIn secondIn
      have same : second.routeStartS + 3 - second.groundWaitS -
          (first.routeStartS + 3 - first.groundWaitS) -
            (second.routeStartS - first.routeStartS) = first.groundWaitS - second.groundWaitS := by
        ring
      rwa [if_pos rfl, if_pos rfl, same]
    · intro impossible
      cases impossible

section Pair
open BoundedJointPlanner (hoverData hoverRoute hoverRequest)

def padAt (regionId : String) (x : ℚ) : Region3D ℚ :=
  ⟨regionId, ⟨x - 1 / 4, -1, 0⟩, ⟨x + 1 / 4, 1, 2⟩⟩

/-- Two hovers a metre apart, to be launched together, with a grid of one tiny delay. -/
def pairCase : CampaignCase ℚ where
  toCaseData := { hoverData with
    drones := [
      ⟨"alpha", padAt "west" (-1 / 2), [padAt "west" (-1 / 2)], padAt "west" (-1 / 2), 100, 20, 1⟩,
      ⟨"bravo", padAt "east" (1 / 2), [padAt "east" (1 / 2)], padAt "east" (1 / 2), 100, 20, 1⟩]
    hardConstraints := { hoverData.hardConstraints with
      deadlineS := 20, synchronizedLaunchRequired := true }
    search := { hoverData.search with delayGridS := [1 / 10 ^ 10] } }
  valid := by decide +kernel

def pairRoutes : List (CandidateRoute ℚ) :=
  [{ hoverRoute with pointsM := [⟨-1 / 2, 0, 1⟩, ⟨-1 / 2, 0, 1⟩] },
   { hoverRoute with roleId := "bravo", pointsM := [⟨1 / 2, 0, 1⟩, ⟨1 / 2, 0, 1⟩] }]

def pairSeed : CandidateSeed ℚ :=
  CampaignTiming.retimeSeed pairRoutes "bravo" (1 / 10 ^ 10) true

def pairEvaluation : Except PyError (CandidateEvaluation ℚ) :=
  CampaignEvaluation.evaluateCandidate pairCase (hoverRequest true).planning
    (CampaignTrajectory.candidateTrajectory pairCase) 0 pairSeed

theorem pairRoutes_based : ∀ route ∈ pairRoutes, Based route := by
  intro route member
  simp only [pairRoutes, List.mem_cons, List.not_mem_nil, or_false] at member
  rcases member with rfl | rfl
  · exact ⟨rfl, rfl, rfl, by norm_num [hoverRoute]⟩
  · exact ⟨rfl, rfl, rfl, by norm_num [hoverRoute]⟩

theorem pairSeed_generated : Generated pairCase (hoverRequest true).planning pairRoutes pairSeed :=
  Generated.retime "bravo" _ true List.mem_cons_self

theorem pair_feasible : ∃ evaluation, pairEvaluation = .ok evaluation ∧
    evaluation.status = .feasible := by
  obtain ⟨flown, flownOk, checks⟩ := exists_of_okWith
    (x := pairSeed.routes.mapM fun route => do
      return (route, ← CampaignTrajectory.candidateTrajectory pairCase route))
    (t := fun flown => !(CampaignEvaluation.minimumBoundaryMargin pairCase flown).all (lt · zero) &&
      (CampaignEvaluation.sampledDistances flown pairCase.search.predictionStepS).all
        (le (1 / 2) ·)) (by decide +kernel)
  obtain ⟨assigned, assignedOk, roles⟩ := exists_of_okWith
    (x := pairSeed.routes.mapM fun route => do return (route, ← droneByRole pairCase route.roleId))
    (t := fun assigned => (assigned.flatMap (roleReasons pairCase)).isEmpty) (by decide +kernel)
  obtain ⟨completion, completionOk, deadline⟩ := exists_of_okWith
    (x := completionTimeS pairSeed.routes)
    (t := fun completion => !lt pairCase.hardConstraints.deadlineS completion) (by decide +kernel)
  simp only [Bool.and_eq_true, Bool.not_eq_true', List.all_eq_true] at checks deadline
  have separation := (CampaignEvaluation.le_minimumSmoothJointSeparation
    (by norm_num : (1 / 2 : ℚ) ≤ ((1000000 : ℚ) : ℚ))).mpr (.inr fun distance member =>
      Exact.le_true.mp (checks.2 distance member))
  exact CampaignEvaluation.evaluateCandidate_feasible 0 flownOk checks.1 rfl (by decide +kernel)
    rfl (Exact.lt_false.mpr separation) assignedOk (List.isEmpty_iff.mp roles) completionOk deadline
    rfl

example : (sortedRoutes pairSeed.routes).map CandidateRoute.routeStartS = [0, 1 / 10 ^ 10] := by
  decide +kernel

end Pair

end CampaignScheduling

end CrazySwarm
