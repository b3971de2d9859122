import CrazySwarm.RoutePlanning

/-! When a route that waits for existing reservations is free of conflicts and within its bounds.
The planner delays the whole route once, past the last reservation it runs into; whether the
delayed route runs into a later one, and how long it then takes, is not looked at again. -/
namespace CrazySwarm
namespace RoutePlanning
open PyFloat (le lt ge gt zero ofRat)
open scoped Numerals

variable {F : Type} [Field F] [LinearOrder F] [IsStrictOrderedRing F] [PyMath F]
  {request : RoutePlanRequest F} {route : RoutePlanArtifact F}

section Statement

structure KeepsBounds (request : RoutePlanRequest F) (route : RoutePlanArtifact F) : Prop where
  free : ∀ current ∈ route.reservations, ∀ existing ∈ request.existingReservations,
    existing.roleId ≠ request.roleId → reservationsConflict current existing = false
  hold : ∀ first ∈ route.waypoints.head?, first.arrivalS ≤ request.maximumHoldS
  duration : route.expectedDurationS ≤ request.maximumDurationS

/-- How long the legs take that follow a point, with the holds at their ends. -/
def legTimes (speed : F) (previous : Vector3 F) : List (RouteTarget F) → F
  | [] => 0
  | target :: rest =>
    distance previous target.positionM / speed + target.holdS +
      legTimes speed target.positionM rest

/-- How long the route takes without delay. -/
def travelTime (request : RoutePlanRequest F) : F :=
  legTimes request.cruiseSpeedMS request.startM request.targets

def corridorTime (request : RoutePlanRequest F) : F := max (travelTime request) (0.001 : ℚ)

def points (request : RoutePlanRequest F) : List (Vector3 F) :=
  request.startM :: request.targets.map RouteTarget.positionM

/-- On an axis, the route comes within half a separation of both sides of the reservation. -/
def NearOn (request : RoutePlanRequest F) (axis : Vector3 F → F)
    (existing : TemporalReservation F) : Prop :=
  (∃ point ∈ points request, axis existing.minimumM ≤ axis point + request.minimumSeparationM / 2) ∧
    ∃ point ∈ points request, axis point - request.minimumSeparationM / 2 ≤ axis existing.maximumM

def Near (request : RoutePlanRequest F) (existing : TemporalReservation F) : Prop :=
  NearOn request Vector3.x existing ∧ NearOn request Vector3.y existing ∧
    NearOn request Vector3.z existing

structure Blocks (request : RoutePlanRequest F) (existing : TemporalReservation F) : Prop where
  near : Near request existing
  ends : 0 < existing.endsAtS
  starts : existing.startsAtS < corridorTime request

structure LastBlocking (request : RoutePlanRequest F) (last : TemporalReservation F) : Prop where
  member : last ∈ request.existingReservations
  blocks : Blocks request last
  last : ∀ existing ∈ request.existingReservations, Blocks request existing →
    existing.endsAtS ≤ last.endsAtS

/-- Begun with a delay, the route stays clear of what other owners have reserved, along it, from
the end of the undelayed route on. -/
def SlotFree (request : RoutePlanRequest F) (delay : F) : Prop :=
  ∀ existing ∈ request.existingReservations, existing.roleId ≠ request.roleId →
    Near request existing → corridorTime request ≤ existing.startsAtS →
      delay + corridorTime request ≤ existing.startsAtS ∨ existing.endsAtS ≤ delay

/-- No two roles have reservations that conflict. -/
def RolesApart (routes : List (RoutePlanArtifact F)) : Prop :=
  ∀ first ∈ routes, ∀ second ∈ routes, first.roleId ≠ second.roleId →
    ∀ current ∈ first.reservations, ∀ existing ∈ second.reservations,
      reservationsConflict current existing = false

def Handed (input : BundleInput F) (routes : List (RoutePlanArtifact F))
    (request : RoutePlanRequest F) : Prop :=
  ∃ index role, input.activeRoles[index]? = some role ∧
    input.routeRequest ((routes.take index).flatMap RoutePlanArtifact.reservations) role =
      .ok request

end Statement

/-! The corridor of the undelayed route. -/
section Corridor

variable [Exact F]

theorem le_greatest_iff {bound : F} (values : List F) (value : F) :
    bound ≤ greatest (value :: values) ↔ ∃ v ∈ value :: values, bound ≤ v := by
  induction values generalizing value with
  | nil => simp [greatest]
  | cons second rest ih =>
    have step : greatest (value :: second :: rest) = greatest (PyFloat.max value second :: rest) := rfl
    rw [step, ih]
    simp only [List.mem_cons, exists_eq_or_imp, Exact.max_eq, le_sup_iff, or_assoc]

theorem least_le_iff {bound : F} (values : List F) (value : F) :
    least (value :: values) ≤ bound ↔ ∃ v ∈ value :: values, v ≤ bound := by
  induction values generalizing value with
  | nil => simp [least]
  | cons second rest ih =>
    have step : least (value :: second :: rest) = least (PyFloat.min value second :: rest) := rfl
    rw [step, ih]
    simp only [List.mem_cons, exists_eq_or_imp, Exact.min_eq, inf_le_iff, or_assoc]

variable {waypoints : List (RouteWaypoint F)} {existing first second : TemporalReservation F}

theorem boxesMeet_iff : boxesMeet first second = true ↔
    (second.minimumM.x ≤ first.maximumM.x ∧ first.minimumM.x ≤ second.maximumM.x) ∧
    (second.minimumM.y ≤ first.maximumM.y ∧ first.minimumM.y ≤ second.maximumM.y) ∧
    (second.minimumM.z ≤ first.maximumM.z ∧ first.minimumM.z ≤ second.maximumM.z) := by
  simp [boxesMeet, and_assoc]

theorem boxesMeet_comm (first second : TemporalReservation F) :
    boxesMeet first second = boxesMeet second first := by
  rw [Bool.eq_iff_iff, boxesMeet_iff, boxesMeet_iff]
  tauto

theorem reservationsConflict_iff : reservationsConflict first second = true ↔
    first.startsAtS < second.endsAtS ∧ second.startsAtS < first.endsAtS ∧
      boxesMeet first second = true := by
  simp [reservationsConflict, and_assoc]

theorem reservationsConflict_comm (first second : TemporalReservation F) :
    reservationsConflict first second = reservationsConflict second first := by
  rw [Bool.eq_iff_iff, reservationsConflict_iff, reservationsConflict_iff, boxesMeet_comm]
  tauto

theorem boxesMeet_reservation (laid : waypoints.map RouteWaypoint.positionM = points request)
    {duration : F} :
    boxesMeet (reservation request waypoints duration) existing = true ↔ Near request existing := by
  have along (axis : Vector3 F → F) :
      waypoints.map (fun item => axis item.positionM) = (points request).map axis := by
    rw [← laid, List.map_map]
    rfl
  have low (axis : Vector3 F → F) (bound : F) :
      least ((points request).map axis) - request.minimumSeparationM / 2 ≤ bound ↔
        ∃ point ∈ points request, axis point - request.minimumSeparationM / 2 ≤ bound := by
    rw [sub_le_iff_le_add, points, List.map_cons, least_le_iff, ← List.map_cons]
    simp only [List.mem_map, exists_exists_and_eq_and, sub_le_iff_le_add]
  have high (axis : Vector3 F → F) (bound : F) :
      bound ≤ greatest ((points request).map axis) + request.minimumSeparationM / 2 ↔
        ∃ point ∈ points request, bound ≤ axis point + request.minimumSeparationM / 2 := by
    rw [← sub_le_iff_le_add, points, List.map_cons, le_greatest_iff, ← List.map_cons]
    simp only [List.mem_map, exists_exists_and_eq_and, sub_le_iff_le_add]
  rw [boxesMeet_iff]
  simp only [reservation, along, Exact.plus, Exact.minus, Exact.over_eq, Exact.ofRat_cast,
    Rat.cast_ofNat, low, high]
  rfl

end Corridor

/-! The undelayed route. -/
section Polyline

variable [Exact F] {manifest : PluginManifest}

/-- What the undelayed route of a request looks like. -/
structure Laid (request : RoutePlanRequest F) (route : RoutePlanArtifact F) : Prop where
  roleId : route.roleId = request.roleId
  positions : route.waypoints.map RouteWaypoint.positionM = points request
  first : ∀ first ∈ route.waypoints.head?, first.arrivalS = 0
  duration : route.expectedDurationS = travelTime request
  within : travelTime request ≤ request.maximumDurationS
  reservations : route.reservations = [reservation request route.waypoints (travelTime request)]

/-- What the loop has added once the rest of the targets is done. By induction on the rest: the
targets before it fix the index, and with it the holds. -/
theorem follow_eq_ok {before rest : List (RouteTarget F)} {previous : Vector3 F}
    {progress result : Progress F} (split : request.targets = before ++ rest)
    (ok : follow request (before.length + 1) previous progress
      (rest.map RouteTarget.positionM) = .ok result) :
    result.elapsedS = progress.elapsedS + legTimes request.cruiseSpeedMS previous rest ∧
      ∃ added, result.waypoints = progress.waypoints ++ added ∧
        added.map RouteWaypoint.positionM = rest.map RouteTarget.positionM := by
  induction rest generalizing before previous progress with
  | nil =>
    cases ok
    exact ⟨(add_zero _).symm, [], (List.append_nil _).symm, rfl⟩
  | cons target rest ih =>
    simp only [List.map_cons, follow, bind_eq_ok] at ok
    obtain ⟨waypoint, made, ok⟩ := ok
    have waypoint_eq := RouteWaypoint.make_eq_ok made
    have split' : request.targets = (before ++ [target]) ++ rest := by
      rw [split, List.append_assoc, List.singleton_append]
    have length : (before ++ [target]).length = before.length + 1 := by simp
    rw [← length] at ok
    obtain ⟨elapsed, added, waypoints, positions⟩ := ih split' ok
    constructor
    · rw [elapsed, length, holdAt_eq split, legTimes]
      simp only [Exact.plus, Exact.over_eq]
      ring
    · refine ⟨waypoint :: added, ?_, ?_⟩
      · rw [waypoints, List.append_assoc, List.singleton_append]
      · rw [List.map_cons, positions, List.map_cons, waypoint_eq]

theorem laid_of_planPolyline {shift : Bool}
    (ok : planPolyline manifest request (request.targets.map RouteTarget.positionM) shift =
      .ok route) (ready : route.status = .ready) : Laid request route := by
  unfold planPolyline at ok
  simp only at ok
  split at ok
  · cases (blocked_status ok).symm.trans ready
  split at ok
  · cases (blocked_status ok).symm.trans ready
  obtain ⟨first, made, ok⟩ := bind_eq_ok.mp ok
  obtain ⟨progress, followed, ok⟩ := bind_eq_ok.mp ok
  split at ok
  · cases (blocked_status ok).symm.trans ready
  next within =>
  obtain ⟨corridor, reserved, ok⟩ := bind_eq_ok.mp ok
  split at ok
  · cases (blocked_status ok).symm.trans ready
  obtain ⟨elapsed, added, waypoints, positions⟩ :=
    follow_eq_ok (show request.targets = [] ++ request.targets from rfl) followed
  have time : progress.elapsedS = travelTime request := by
    rw [elapsed, Exact.zero_eq, zero_add, travelTime]
  obtain ⟨roleId, -, laid, reservations, duration⟩ := routeArtifact_eq_ok ok
  have first_eq := RouteWaypoint.make_eq_ok made
  have corridor_eq := TemporalReservation.make_eq_ok reserved
  refine ⟨roleId, ?_, ?_, duration.trans time, ?_, ?_⟩
  · rw [laid, waypoints, List.singleton_append, List.map_cons, positions, first_eq, points]
  · rw [laid, waypoints, List.singleton_append, List.head?_cons]
    rintro _ ⟨⟩
    rw [first_eq]
    exact Exact.zero_eq
  · rw [← time]
    simpa using within
  · rw [reservations, corridor_eq, laid, time]

end Polyline

/-! The delay of the temporal planner. -/
section Delay

variable [Exact F]

theorem foldl_max_cases {α : Type} (test : α → Bool) (worth : α → F) (items : List α) (least : F) :
    let result := items.foldl (fun worst item =>
      if test item then PyFloat.max worst (worth item) else worst) least
    least ≤ result ∧ (∀ item ∈ items, test item = true → worth item ≤ result) ∧
      (result = least ∨ ∃ item ∈ items, test item = true ∧ result = worth item) := by
  induction items generalizing least with
  | nil => simp
  | cons item rest ih =>
    obtain ⟨above, bounds, attained⟩ := ih (if test item then PyFloat.max least (worth item) else least)
    simp only [List.foldl_cons]
    cases passes : test item with
    | false =>
      simp only [passes, Bool.false_eq_true, if_false] at above bounds attained ⊢
      refine ⟨above, ?_, ?_⟩
      · rintro other (_ | ⟨_, member⟩) tested
        · rw [passes] at tested
          cases tested
        · exact bounds other member tested
      · rcases attained with same | ⟨other, member, tested, same⟩
        · exact .inl same
        · exact .inr ⟨other, List.mem_cons_of_mem _ member, tested, same⟩
    | true =>
      simp only [passes, if_true, Exact.max_eq] at above bounds attained ⊢
      refine ⟨(le_max_left _ _).trans above, ?_, ?_⟩
      · rintro other (_ | ⟨_, member⟩) tested
        · exact (le_max_right _ _).trans above
        · exact bounds other member tested
      · rcases attained with same | ⟨other, member, tested, same⟩
        · rcases max_choice least (worth item) with kept | taken
          · exact .inl (same.trans kept)
          · exact .inr ⟨item, List.mem_cons_self, passes, same.trans taken⟩
        · exact .inr ⟨other, List.mem_cons_of_mem _ member, tested, same⟩

variable {waypoints : List (RouteWaypoint F)} {existing : TemporalReservation F}

theorem conflict_iff_blocks (laid : waypoints.map RouteWaypoint.positionM = points request) :
    reservationsConflict (reservation request waypoints (travelTime request)) existing = true ↔
      Blocks request existing := by
  rw [reservationsConflict_iff, boxesMeet_reservation laid]
  have starts : (reservation request waypoints (travelTime request)).startsAtS = 0 :=
    Exact.zero_eq
  have ends : (reservation request waypoints (travelTime request)).endsAtS = corridorTime request := by
    simp [reservation, corridorTime]
  rw [starts, ends]
  exact ⟨fun ⟨a, b, c⟩ => ⟨c, a, b⟩, fun ⟨c, a, b⟩ => ⟨a, b, c⟩⟩

/-- The planner waits for the last blocking reservation, if there is any. -/
theorem shiftFor_cases (laid : waypoints.map RouteWaypoint.positionM = points request) :
    let shiftS := TemporalRoutePlanner.shiftFor
      [reservation request waypoints (travelTime request)] request.existingReservations
    (shiftS = 0 ∧ ∀ existing ∈ request.existingReservations, ¬Blocks request existing) ∨
      ∃ last, LastBlocking request last ∧ shiftS = last.endsAtS + (0.001 : ℚ) := by
  obtain ⟨above, bounds, attained⟩ := foldl_max_cases
    (reservationsConflict (reservation request waypoints (travelTime request)))
    (fun existing => existing.endsAtS + ((0.001 : ℚ) : F)) request.existingReservations 0
  have unfolded : TemporalRoutePlanner.shiftFor
      [reservation request waypoints (travelTime request)] request.existingReservations =
      request.existingReservations.foldl (fun worst item =>
        if reservationsConflict (reservation request waypoints (travelTime request)) item then
          PyFloat.max worst (item.endsAtS + ((0.001 : ℚ) : F)) else worst) 0 := by
    simp [TemporalRoutePlanner.shiftFor, reservation]
  rw [unfolded]
  simp only [conflict_iff_blocks laid] at bounds attained
  rcases attained with none | ⟨last, member, blocks, same⟩
  · refine .inl ⟨none, fun existing member blocks => ?_⟩
    have late := bounds existing member blocks
    have ends := blocks.ends
    rw [none] at late
    norm_num at late
    linarith
  · refine .inr ⟨last, ⟨member, blocks, fun existing member blocks => ?_⟩, same⟩
    have late := bounds existing member blocks
    rw [same] at late
    exact le_of_add_le_add_right late

theorem slotFree_iff (laid : waypoints.map RouteWaypoint.positionM = points request)
    {last : TemporalReservation F} (blocking : LastBlocking request last) :
    (∀ existing ∈ request.existingReservations, existing.roleId ≠ request.roleId →
      reservationsConflict (TemporalRoutePlanner.delayReservation (last.endsAtS + (0.001 : ℚ))
        (reservation request waypoints (travelTime request))) existing = false) ↔
      SlotFree request (last.endsAtS + (0.001 : ℚ)) := by
  have margin : (0 : F) < ((0.001 : ℚ) : F) := by norm_num
  have ends := blocking.blocks.ends
  refine forall₃_congr fun existing member _ => ?_
  have delayed : reservationsConflict (TemporalRoutePlanner.delayReservation
      (last.endsAtS + (0.001 : ℚ)) (reservation request waypoints (travelTime request))) existing =
        true ↔ last.endsAtS + ((0.001 : ℚ) : F) < existing.endsAtS ∧
          existing.startsAtS < last.endsAtS + ((0.001 : ℚ) : F) + corridorTime request ∧
            Near request existing := by
    have boxes : boxesMeet (reservation request waypoints (travelTime request)) existing = true ↔
        Near request existing := boxesMeet_reservation laid
    rw [reservationsConflict_iff, ← boxes]
    simp [TemporalRoutePlanner.delayReservation, reservation, corridorTime, boxesMeet, add_comm]
  rw [← Bool.not_eq_true, delayed]
  constructor
  · intro apart near later
    by_contra! meets
    exact apart ⟨meets.2, meets.1, near⟩
  · rintro free ⟨after, before, near⟩
    by_cases early : existing.startsAtS < corridorTime request
    · have bound := blocking.last existing member ⟨near, by linarith, early⟩
      linarith
    · rcases free near (not_lt.mp early) with next | previous
      · exact absurd before (not_lt.mpr next)
      · exact absurd after (not_lt.mpr previous)

theorem plan_cases (ok : TemporalRoutePlanner.plan request = .ok route)
    (ready : route.status = .ready) :
    ∃ base, Laid request base ∧ route.roleId = request.roleId ∧
      ((route = base ∧ ∀ existing ∈ request.existingReservations, ¬Blocks request existing) ∨
        ∃ last, LastBlocking request last ∧
          last.endsAtS + ((0.001 : ℚ) : F) ≤ request.maximumHoldS ∧
          route.waypoints = base.waypoints.map
            (TemporalRoutePlanner.delayWaypoint (last.endsAtS + (0.001 : ℚ))) ∧
          route.reservations = [TemporalRoutePlanner.delayReservation (last.endsAtS + (0.001 : ℚ))
            (reservation request base.waypoints (travelTime request))] ∧
          route.expectedDurationS = travelTime request + (last.endsAtS + (0.001 : ℚ))) := by
  unfold TemporalRoutePlanner.plan at ok
  obtain ⟨base, polyline, ok⟩ := bind_eq_ok.mp ok
  split at ok
  · next stopped =>
    cases ok
    cases stopped.symm.trans ready
  next notBlocked =>
  have baseReady : base.status = .ready := by
    cases status : base.status with
    | ready => rfl
    | blocked => exact absurd status notBlocked
  have laid := laid_of_planPolyline polyline baseReady
  have shift := shiftFor_cases laid.positions
  rw [laid.reservations] at ok
  simp only at ok shift
  split at ok
  · cases (blocked_status ok).symm.trans ready
  next held =>
  have hold := le_of_not_gt fun above => held (Exact.lt_true.mpr above)
  rcases shift with ⟨unshifted, none⟩ | ⟨last, blocking, shifted⟩
  · rw [unshifted, if_pos (by simp)] at ok
    cases ok
    exact ⟨route, laid, laid.roleId, .inl ⟨rfl, none⟩⟩
  · have positive : ¬le (last.endsAtS + ((0.001 : ℚ) : F)) zero = true := by
      have ends := blocking.blocks.ends
      have margin : (0 : F) < ((0.001 : ℚ) : F) := by norm_num
      simp only [Exact.le_true, Exact.zero_eq]
      linarith
    rw [shifted] at hold
    rw [shifted, if_neg positive] at ok
    obtain ⟨roleId, -, waypoints, reservations, duration⟩ := routeArtifact_eq_ok ok
    refine ⟨base, laid, roleId, .inr ⟨last, blocking, hold, waypoints, reservations, ?_⟩⟩
    rw [duration, Exact.plus, laid.duration]

/-- The added hold is never more than the request allows. -/
theorem hold_of_plan (ok : TemporalRoutePlanner.plan request = .ok route)
    (ready : route.status = .ready) :
    ∀ first ∈ route.waypoints.head?, first.arrivalS ≤ request.maximumHoldS := by
  obtain ⟨base, laid, -, ⟨rfl, -⟩ | ⟨last, -, hold, waypoints, -, -⟩⟩ := plan_cases ok ready
  · intro first head
    rw [laid.first first head]
    have valid := request.valid
    simp only [RouteRequestData.validate, bind_eq_ok, validated_eq_ok] at valid
    obtain ⟨_, ⟨checks, _⟩, _⟩ := valid
    have bounded := checks ("maximum_hold_s", ge request.maximumHoldS zero)
      (by simp [RouteRequestData.fieldChecks])
    simpa using bounded
  · rw [waypoints, List.head?_map]
    intro first head
    obtain ⟨start, here, rfl⟩ := Option.map_eq_some_iff.mp head
    simpa [TemporalRoutePlanner.delayWaypoint, laid.first start here] using hold

theorem free_iff (ok : TemporalRoutePlanner.plan request = .ok route)
    (ready : route.status = .ready) :
    (∀ current ∈ route.reservations, ∀ existing ∈ request.existingReservations,
      existing.roleId ≠ request.roleId → reservationsConflict current existing = false) ↔
      ∀ last, LastBlocking request last → SlotFree request (last.endsAtS + (0.001 : ℚ)) := by
  obtain ⟨base, laid, -, ⟨rfl, none⟩ | ⟨last, blocking, -, -, reservations, -⟩⟩ :=
    plan_cases ok ready
  · rw [laid.reservations]
    refine iff_of_true ?_ fun last blocking => absurd blocking.blocks (none last blocking.member)
    intro current own existing member _
    rw [List.mem_singleton.mp own, ← Bool.not_eq_true, conflict_iff_blocks laid.positions]
    exact none existing member
  · rw [reservations]
    simp only [List.mem_singleton, forall_eq]
    rw [slotFree_iff laid.positions blocking]
    constructor
    · intro free other otherBlocking
      have same : other.endsAtS = last.endsAtS :=
        le_antisymm (blocking.last other otherBlocking.member otherBlocking.blocks)
          (otherBlocking.last last blocking.member blocking.blocks)
      rwa [same]
    · exact fun free => free last blocking

theorem duration_iff (ok : TemporalRoutePlanner.plan request = .ok route)
    (ready : route.status = .ready) :
    route.expectedDurationS ≤ request.maximumDurationS ↔
      ∀ last, LastBlocking request last →
        travelTime request + (last.endsAtS + (0.001 : ℚ)) ≤ request.maximumDurationS := by
  obtain ⟨base, laid, -, ⟨rfl, none⟩ | ⟨last, blocking, -, -, -, duration⟩⟩ :=
    plan_cases ok ready
  · rw [laid.duration]
    exact iff_of_true laid.within fun last blocking =>
      absurd blocking.blocks (none last blocking.member)
  · rw [duration]
    constructor
    · intro within other otherBlocking
      have last_le := blocking.last other otherBlocking.member otherBlocking.blocks
      linarith
    · exact fun within => within last blocking

theorem keepsBounds_iff (ok : TemporalRoutePlanner.plan request = .ok route)
    (ready : route.status = .ready) :
    KeepsBounds request route ↔ ∀ last, LastBlocking request last →
      SlotFree request (last.endsAtS + (0.001 : ℚ)) ∧
        travelTime request + (last.endsAtS + (0.001 : ℚ)) ≤ request.maximumDurationS := by
  constructor
  · intro keeps last blocking
    exact ⟨(free_iff ok ready).mp keeps.free last blocking,
      (duration_iff ok ready).mp keeps.duration last blocking⟩
  · intro slot
    exact ⟨(free_iff ok ready).mpr fun last blocking => (slot last blocking).1,
      hold_of_plan ok ready, (duration_iff ok ready).mpr fun last blocking => (slot last blocking).2⟩

end Delay

/-! The route plans of a bundle. -/
section Bundle

variable [Exact F] {input : BundleInput F} {routes : List (RoutePlanArtifact F)}

theorem reservation_roleId (ok : TemporalRoutePlanner.plan request = .ok route)
    (ready : route.status = .ready) :
    ∀ current ∈ route.reservations, current.roleId = route.roleId := by
  obtain ⟨base, laid, roleId, ⟨rfl, -⟩ | ⟨last, -, -, -, reservations, -⟩⟩ := plan_cases ok ready
  · rw [laid.reservations, laid.roleId]
    simp [reservation]
  · rw [reservations, roleId]
    simp [reservation, TemporalRoutePlanner.delayReservation]

theorem apart_of_earlier (ok : input.routePlans = .ok routes)
    (ready : ∀ route ∈ routes, route.status = .ready) (many : 1 < input.activeRoles.length)
    (slots : ∀ request, Handed input routes request →
      ∀ last, LastBlocking request last → SlotFree request (last.endsAtS + (0.001 : ℚ)))
    {i j : Nat} {earlier later : RoutePlanArtifact F} (before : i < j)
    (here : routes[i]? = some earlier) (there : routes[j]? = some later)
    (others : earlier.roleId ≠ later.roleId) :
    ∀ current ∈ later.reservations, ∀ existing ∈ earlier.reservations,
      reservationsConflict current existing = false := by
  obtain ⟨length, planned⟩ := BundleInput.planned_of_routePlans ok
  have bound (index : Nat) (route : RoutePlanArtifact F) (found : routes[index]? = some route) :
      ∃ role, input.activeRoles[index]? = some role := by
    obtain ⟨inside, -⟩ := List.getElem?_eq_some_iff.mp found
    exact ⟨_, List.getElem?_eq_getElem (length ▸ inside)⟩
  obtain ⟨firstRole, firstAt⟩ := bound i earlier here
  obtain ⟨role, roleAt⟩ := bound j later there
  obtain ⟨firstRequest, -, firstPlanned⟩ := planned i firstRole earlier firstAt here
  obtain ⟨request, requested, plan⟩ := planned j role later roleAt there
  rw [BundleInput.routePlanner, if_pos many] at plan firstPlanned
  have earlierReady := ready earlier (List.mem_of_getElem? here)
  have laterReady := ready later (List.mem_of_getElem? there)
  obtain ⟨-, -, roleId, -⟩ := plan_cases plan laterReady
  intro current own existing foreign
  refine (free_iff plan laterReady).mpr (slots request ⟨j, role, roleAt, requested⟩) current own
    existing ?_ ?_
  · rw [BundleInput.routeRequest_eq_ok requested]
    have taken : earlier ∈ routes.take j :=
      List.mem_of_getElem? ((List.getElem?_take_of_lt before).trans here)
    exact List.mem_flatMap.mpr ⟨earlier, taken, foreign⟩
  · rw [reservation_roleId firstPlanned earlierReady existing foreign, ← roleId]
    exact others

theorem rolesApart_iff (ok : input.routePlans = .ok routes)
    (ready : ∀ route ∈ routes, route.status = .ready) :
    RolesApart routes ↔ ∀ request, Handed input routes request →
      ∀ last, LastBlocking request last → SlotFree request (last.endsAtS + (0.001 : ℚ)) := by
  obtain ⟨length, planned⟩ := BundleInput.planned_of_routePlans ok
  by_cases many : 1 < input.activeRoles.length
  · constructor
    · rintro apart request ⟨index, role, roleAt, requested⟩
      obtain ⟨inside, -⟩ := List.getElem?_eq_some_iff.mp roleAt
      have routeAt : routes[index]? = some (routes.get ⟨index, length ▸ inside⟩) :=
        List.getElem?_eq_getElem (length ▸ inside)
      obtain ⟨same, requested', plan⟩ := planned index role _ roleAt routeAt
      cases requested.symm.trans requested'
      rw [BundleInput.routePlanner, if_pos many] at plan
      have member := List.mem_of_getElem? routeAt
      refine (free_iff plan (ready _ member)).mp fun current own existing listed others => ?_
      rw [BundleInput.routeRequest_eq_ok requested] at listed
      obtain ⟨earlier, taken, foreign⟩ := List.mem_flatMap.mp listed
      have earlierMember := List.mem_of_mem_take taken
      obtain ⟨i, here⟩ := List.getElem?_of_mem earlierMember
      obtain ⟨firstInside, -⟩ := List.getElem?_eq_some_iff.mp here
      obtain ⟨firstRequest, -, firstPlan⟩ :=
        planned i _ earlier (List.getElem?_eq_getElem (length ▸ firstInside)) here
      rw [BundleInput.routePlanner, if_pos many] at firstPlan
      have owner := reservation_roleId firstPlan (ready earlier earlierMember) existing foreign
      obtain ⟨-, -, roleId, -⟩ := plan_cases plan (ready _ member)
      refine apart _ member earlier earlierMember ?_ current own existing foreign
      rw [roleId, ← owner]
      exact others.symm
    · intro slots first firstMember second secondMember others current own existing foreign
      obtain ⟨i, here⟩ := List.getElem?_of_mem firstMember
      obtain ⟨j, there⟩ := List.getElem?_of_mem secondMember
      rcases Nat.lt_trichotomy i j with before | same | after
      · rw [reservationsConflict_comm]
        exact apart_of_earlier ok ready many slots before here there others existing foreign
          current own
      · subst same
        cases here.symm.trans there
        exact absurd rfl others
      · exact apart_of_earlier ok ready many slots after there here others.symm current own
          existing foreign
  · -- a single role is planned without any reservation before it
    have single (i : Nat) (inside : i < routes.length) : i = 0 := by omega
    apply iff_of_true
    · intro first firstMember second secondMember others
      obtain ⟨i, here⟩ := List.getElem?_of_mem firstMember
      obtain ⟨j, there⟩ := List.getElem?_of_mem secondMember
      rw [single i (List.getElem?_eq_some_iff.mp here).1] at here
      rw [single j (List.getElem?_eq_some_iff.mp there).1] at there
      cases here.symm.trans there
      exact absurd rfl others
    · rintro request ⟨index, role, roleAt, requested⟩ last blocking
      have first := single index (length ▸ (List.getElem?_eq_some_iff.mp roleAt).1)
      have member := blocking.member
      rw [BundleInput.routeRequest_eq_ok requested, first] at member
      cases member

end Bundle

/-! Three roles whose routes cross. -/
section Crossing

/-- The roles cross one place; each route takes five seconds. -/
def crossingPolicy : SafetyPolicy ℚ where
  maxAltitudeM := 2
  maxHorizontalSpeedMS := 1
  maxVerticalSpeedMS := 1
  maxAccelerationMS2 := 1
  maxYawRateRadS := 1
  maxMissionDurationS := 120
  commandTimeoutS := 1
  telemetryTimeoutS := 1
  healthWatchdogPeriodS := 1
  controlLeaseTimeoutS := 1
  preflightValidS := 1
  minimumTakeoffBatteryPercent := 50
  criticalBatteryPercent := 20
  minimumLinkQualityPercent := 50
  minimumLocalizationQualityPercent := 50
  flightVolume := SafetyPolicy.exactDefault.flightVolume
  valid := by decide +kernel

def crossingRoles : BundleInput ℚ where
  missionId := "crossing"
  criticalSeparationM := 1 / 2
  roles :=
    [⟨"a", "cf-1", .active, ⟨-1, 0, 1 / 2⟩, [⟨1, 0, 1 / 2⟩], 5⟩,
     ⟨"b", "cf-2", .active, ⟨0, -1, 1 / 2⟩, [⟨0, 1, 1 / 2⟩], 5⟩,
     ⟨"c", "cf-3", .active, ⟨1, 0, 1 / 2⟩, [⟨-1, 0, 1 / 2⟩], 5⟩]
  policy := crossingPolicy

/-- The second and the third role are both delayed past the first one, into each other. -/
theorem crossing_roles_conflict : ∃ routes, crossingRoles.routePlans = .ok routes ∧
    (∀ route ∈ routes, route.status = .ready) ∧
      ∃ first ∈ routes, ∃ second ∈ routes, first.roleId ≠ second.roleId ∧
        ∃ current ∈ first.reservations, ∃ existing ∈ second.reservations,
          reservationsConflict current existing = true := by
  obtain ⟨routes, planned, holds⟩ := exists_of_okWith (x := crossingRoles.routePlans)
    (t := fun routes => decide ((∀ route ∈ routes, route.status = .ready) ∧
      ∃ first ∈ routes, ∃ second ∈ routes, first.roleId ≠ second.roleId ∧
        ∃ current ∈ first.reservations, ∃ existing ∈ second.reservations,
          reservationsConflict current existing = true)) (by decide +kernel)
  exact ⟨routes, planned, of_decide_eq_true holds⟩

end Crossing

/-- A ready temporal route is free of conflicts with other owners and within its bounds exactly
when no later reservation of theirs lies in the slot it is delayed to and the delayed route still
ends in time; and the roles of a ready bundle are pairwise free of conflict exactly when that
slot was free for each of them. -/
theorem temporal_plan_iff [Exact F] :
    (∀ (request : RoutePlanRequest F) (route : RoutePlanArtifact F),
      TemporalRoutePlanner.plan request = .ok route → route.status = .ready →
        (KeepsBounds request route ↔ ∀ last, LastBlocking request last →
          SlotFree request (last.endsAtS + (0.001 : ℚ)) ∧
            travelTime request + (last.endsAtS + (0.001 : ℚ)) ≤ request.maximumDurationS)) ∧
    ∀ (input : BundleInput F) (routes : List (RoutePlanArtifact F)),
      input.routePlans = .ok routes → (∀ route ∈ routes, route.status = .ready) →
        (RolesApart routes ↔ ∀ request, Handed input routes request →
          ∀ last, LastBlocking request last →
            SlotFree request (last.endsAtS + (0.001 : ℚ))) :=
  ⟨fun _ _ => keepsBounds_iff, fun _ _ => rolesApart_iff⟩

/-- The crossing routes once more: the slot of the third role was not free. -/
theorem temporal_plan_iff_crossing : ∃ routes : List (RoutePlanArtifact ℚ),
    crossingRoles.routePlans = .ok routes ∧ (RolesApart routes ↔
      ∀ request, Handed crossingRoles routes request → ∀ last, LastBlocking request last →
        SlotFree request (last.endsAtS + ((0.001 : ℚ) : ℚ))) := by
  obtain ⟨routes, planned, ready⟩ := exists_of_okWith (x := crossingRoles.routePlans)
    (t := fun routes => decide (∀ route ∈ routes, route.status = .ready)) (by decide +kernel)
  exact ⟨routes, planned,
    temporal_plan_iff.2 crossingRoles routes planned (of_decide_eq_true ready)⟩

end RoutePlanning
end CrazySwarm
