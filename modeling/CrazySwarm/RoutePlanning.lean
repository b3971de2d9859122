import CrazySwarm.SafetyPolicy
import CrazySwarm.Lib.Sorting

/-! Strategic route planning: route requests and artifacts, the polyline every built-in planner
lays, the temporal planner that waits for existing reservations, and the route plans of an
operational bundle. -/
namespace CrazySwarm
open PyFloat PyMath

variable {F : Type} [PyMath F]

inductive RouteCapability where
  | direct | zone | coverage | obstacleAware | temporalSeparation | dockApproach | leaderFollower
  deriving DecidableEq, Repr

def orderedBounds (minimumM maximumM : Vector3 F) : Bool :=
  le minimumM.x maximumM.x && le minimumM.y maximumM.y && le minimumM.z maximumM.z

structure PluginManifest where
  pluginId : String
  capabilities : List RouteCapability
  deriving DecidableEq, Repr

structure PluginSelection where
  pluginId : String
  capabilitiesUsed : List RouteCapability
  deriving DecidableEq, Repr

def PluginSelection.fromManifest (manifest : PluginManifest)
    (capabilitiesUsed : List RouteCapability) : Except (Fault F) PluginSelection := do
  require (capabilitiesUsed.all (· ∈ manifest.capabilities))
    (.value "selection requests an undeclared plugin capability")
  return ⟨manifest.pluginId, capabilitiesUsed⟩

structure RouteObstacle (F : Type) where
  obstacleId : String
  minimumM : Vector3 F
  maximumM : Vector3 F
  deriving DecidableEq, Repr

structure RouteTarget (F : Type) where
  positionM : Vector3 F
  holdS : F
  deriving DecidableEq, Repr

structure TemporalReservation (F : Type) where
  reservationId : String
  roleId : String
  startsAtS : F
  endsAtS : F
  minimumM : Vector3 F
  maximumM : Vector3 F
  deriving DecidableEq, Repr

/-- The constructor of `TemporalReservation`, with `ordered`. -/
def TemporalReservation.make (reservation : TemporalReservation F) :
    Except (Fault F) (TemporalReservation F) := do
  validated "TemporalReservation"
    [("reservation_id", isIdentifier reservation.reservationId),
     ("role_id", isIdentifier reservation.roleId),
     ("starts_at_s", ge reservation.startsAtS zero),
     ("ends_at_s", gt reservation.endsAtS zero)] ()
  require (!le reservation.endsAtS reservation.startsAtS)
    (.value "reservation must have positive duration")
  require (orderedBounds reservation.minimumM reservation.maximumM)
    (.value "reservation spatial bounds are reversed")
  return reservation

theorem TemporalReservation.make_eq_ok {corridor made : TemporalReservation F}
    (ok : corridor.make = .ok made) : made = corridor := by
  simp only [TemporalReservation.make, bind_eq_ok, validated_eq_ok, require_eq_ok] at ok
  obtain ⟨_, _, _, _, _, _, returned⟩ := ok
  exact (Except.ok.inj returned).symm

structure RouteWaypoint (F : Type) where
  sequence : Nat
  positionM : Vector3 F
  arrivalS : F
  departureS : F
  deriving DecidableEq, Repr

/-- The constructor of `RouteWaypoint`, with `departure_after_arrival`. -/
def RouteWaypoint.make (waypoint : RouteWaypoint F) : Except (Fault F) (RouteWaypoint F) := do
  validated "RouteWaypoint"
    [("arrival_s", ge waypoint.arrivalS zero), ("departure_s", ge waypoint.departureS zero)] ()
  require (!lt waypoint.departureS waypoint.arrivalS)
    (.value "waypoint departure precedes arrival")
  return waypoint

theorem RouteWaypoint.make_eq_ok {waypoint made : RouteWaypoint F}
    (ok : waypoint.make = .ok made) : made = waypoint := by
  simp only [RouteWaypoint.make, bind_eq_ok, validated_eq_ok, require_eq_ok] at ok
  obtain ⟨_, _, _, _, returned⟩ := ok
  exact (Except.ok.inj returned).symm

structure RouteRequestData (F : Type) where
  requestId : String
  roleId : String
  capability : RouteCapability
  startM : Vector3 F
  targets : List (RouteTarget F)
  zoneMinimumM : Option (Vector3 F) := none
  zoneMaximumM : Option (Vector3 F) := none
  coverageSpacingM : F
  flightVolumeMinimumM : Vector3 F
  flightVolumeMaximumM : Vector3 F
  obstacles : List (RouteObstacle F) := []
  existingReservations : List (TemporalReservation F) := []
  cruiseSpeedMS : F
  maximumDurationS : F
  energyPercentPerM : F
  minimumSeparationM : F
  maximumHoldS : F
  frame : CoordinateFrame := .world
  supersedesRouteSha256 : Option String := none
  deriving DecidableEq, Repr

namespace RouteRequestData

def fieldChecks (data : RouteRequestData F) : List (String × Bool) :=
  [("request_id", isIdentifier data.requestId),
   ("role_id", isIdentifier data.roleId),
   ("coverage_spacing_m", gt data.coverageSpacingM zero),
   ("cruise_speed_m_s", gt data.cruiseSpeedMS zero),
   ("maximum_duration_s", gt data.maximumDurationS zero),
   ("energy_percent_per_m", gt data.energyPercentPerM zero),
   ("minimum_separation_m", gt data.minimumSeparationM zero),
   ("maximum_hold_s", ge data.maximumHoldS zero),
   ("supersedes_route_sha256", data.supersedesRouteSha256.all isSha256)]

def zoneOrdered : Option (Vector3 F) → Option (Vector3 F) → Bool
  | some low, some high => lt low.x high.x && lt low.y high.y && le low.z high.z
  | _, _ => true

/-- The field checks and `bounded_request`. -/
def validate (data : RouteRequestData F) : Except (Fault F) Unit := do
  validated "RoutePlanRequest" data.fieldChecks ()
  require (data.frame == .world) (.value "route planning requires the world frame")
  require (!data.targets.isEmpty) (.value "route planning requires at least one target")
  require (data.zoneMinimumM.isNone == data.zoneMaximumM.isNone)
    (.value "route zone requires both minimum and maximum bounds")
  require (zoneOrdered data.zoneMinimumM data.zoneMaximumM)
    (.value "route zone bounds are invalid")
  require (lt data.flightVolumeMinimumM.x data.flightVolumeMaximumM.x &&
      lt data.flightVolumeMinimumM.y data.flightVolumeMaximumM.y &&
      lt data.flightVolumeMinimumM.z data.flightVolumeMaximumM.z)
    (.value "route flight volume is invalid")

end RouteRequestData

structure RoutePlanRequest (F : Type) [PyMath F] extends RouteRequestData F where
  valid : toRouteRequestData.validate = .ok ()

/-- `RoutePlanRequest.model_validate`. -/
def RoutePlanRequest.modelValidate (data : RouteRequestData F) :
    Except (Fault F) (RoutePlanRequest F) :=
  match valid : data.validate with
  | .ok () => .ok ⟨data, valid⟩
  | .error fault => .error fault

inductive RoutePlanStatus where
  | ready | blocked
  deriving DecidableEq, Repr

/-- `role held for {shift_s:.3f}s for temporal precedence`. -/
inductive RouteLimitation (F : Type) where
  | held (shiftS : F)
  deriving DecidableEq, Repr

structure RoutePlanArtifact (F : Type) where
  requestId : String
  roleId : String
  planner : PluginSelection
  capability : RouteCapability
  status : RoutePlanStatus
  waypoints : List (RouteWaypoint F)
  reservations : List (TemporalReservation F)
  routeLengthM : F
  expectedEnergyPercent : F
  expectedDurationS : F
  expectedMinimumSeparationM : F
  completionConditions : List String
  limitations : List (RouteLimitation F)
  findings : List String
  supersedesRouteSha256 : Option String
  deriving DecidableEq, Repr

namespace RoutePlanning

/-- `_route_artifact`. -/
def routeArtifact (manifest : PluginManifest) (request : RoutePlanRequest F)
    (status : RoutePlanStatus) (waypoints : List (RouteWaypoint F))
    (reservations : List (TemporalReservation F)) (routeLengthM durationS : F)
    (limitations : List (RouteLimitation F) := []) (findings : List String := []) :
    Except (Fault F) (RoutePlanArtifact F) := do
  let planner ← PluginSelection.fromManifest manifest [request.capability]
  let artifact : RoutePlanArtifact F :=
    { requestId := request.requestId
      roleId := request.roleId
      planner
      capability := request.capability
      status
      waypoints
      reservations
      routeLengthM
      expectedEnergyPercent := routeLengthM * request.energyPercentPerM
      expectedDurationS := durationS
      expectedMinimumSeparationM := request.minimumSeparationM
      completionConditions := ["final waypoint reached", "role completion acknowledged"]
      limitations
      findings
      supersedesRouteSha256 := request.supersedesRouteSha256 }
  validated "RoutePlanArtifact"
    [("route_length_m", ge artifact.routeLengthM zero),
     ("expected_energy_percent", ge artifact.expectedEnergyPercent zero),
     ("expected_duration_s", ge artifact.expectedDurationS zero),
     ("expected_minimum_separation_m", ge artifact.expectedMinimumSeparationM zero),
     ("findings", artifact.findings.all isIdentifier)] artifact

theorem routeArtifact_eq_ok {manifest : PluginManifest} {request : RoutePlanRequest F}
    {route : RoutePlanArtifact F} {status : RoutePlanStatus} {waypoints : List (RouteWaypoint F)}
    {reservations : List (TemporalReservation F)} {lengthM durationS : F}
    {limitations : List (RouteLimitation F)} {findings : List String}
    (ok : routeArtifact manifest request status waypoints reservations lengthM durationS
      limitations findings = .ok route) :
    route.roleId = request.roleId ∧ route.status = status ∧ route.waypoints = waypoints ∧
      route.reservations = reservations ∧ route.expectedDurationS = durationS := by
  simp only [routeArtifact, bind_eq_ok, validated_eq_ok] at ok
  obtain ⟨_, _, _, rfl⟩ := ok
  exact ⟨rfl, rfl, rfl, rfl, rfl⟩

/-- `_blocked`. -/
def blocked (manifest : PluginManifest) (request : RoutePlanRequest F) (finding : String) :
    Except (Fault F) (RoutePlanArtifact F) :=
  routeArtifact manifest request .blocked [] [] zero zero [] [finding]

theorem blocked_status {manifest : PluginManifest} {request : RoutePlanRequest F}
    {route : RoutePlanArtifact F} {finding : String}
    (ok : blocked manifest request finding = .ok route) : route.status = .blocked :=
  (routeArtifact_eq_ok ok).2.1

/-- `_inside_volume`. -/
def insideVolume (point : Vector3 F) (request : RoutePlanRequest F) : Bool :=
  (le request.flightVolumeMinimumM.x point.x && le point.x request.flightVolumeMaximumM.x) &&
  (le request.flightVolumeMinimumM.y point.y && le point.y request.flightVolumeMaximumM.y) &&
  (le request.flightVolumeMinimumM.z point.z && le point.z request.flightVolumeMaximumM.z)

/-- One axis of the slab test: what is left of the segment's parameter range. -/
def clipAxis (range : F × F) (origin target low high : F) : Option (F × F) :=
  let delta := target - origin
  if le (PyFloat.abs delta) (ofRat 1e-12) then
    if lt origin low || lt high origin then none else some range
  else
    let entry := (low - origin) / delta
    let exit := (high - origin) / delta
    let lower := PyFloat.max range.1 (if lt exit entry then exit else entry)
    let upper := PyFloat.min range.2 (if lt exit entry then entry else exit)
    if lt upper lower then none else some (lower, upper)

/-- `_segment_intersects_box`. -/
def segmentIntersectsBox (start «end» : Vector3 F) (obstacle : RouteObstacle F) : Bool :=
  let clipped := do
    let range ← clipAxis (zero, ofRat 1) start.x «end».x obstacle.minimumM.x obstacle.maximumM.x
    let range ← clipAxis range start.y «end».y obstacle.minimumM.y obstacle.maximumM.y
    clipAxis range start.z «end».z obstacle.minimumM.z obstacle.maximumM.z
  clipped.isSome

/-- `_distance`. -/
def distance (first second : Vector3 F) : F :=
  sqrt (pow (first.x - second.x) 2 + pow (first.y - second.y) 2 + pow (first.z - second.z) 2)

/-- `min` and `max` of a non-empty generator. -/
def least (values : List F) : F :=
  match values with
  | [] => zero
  | value :: rest => rest.foldl PyFloat.min value

def greatest (values : List F) : F :=
  match values with
  | [] => zero
  | value :: rest => rest.foldl PyFloat.max value

/-- `_reservation`. -/
def reservation (request : RoutePlanRequest F) (waypoints : List (RouteWaypoint F))
    (durationS : F) : TemporalReservation F :=
  let margin := request.minimumSeparationM / ofRat 2
  let low (axis : Vector3 F → F) := least (waypoints.map fun item => axis item.positionM) - margin
  let high (axis : Vector3 F → F) :=
    greatest (waypoints.map fun item => axis item.positionM) + margin
  { reservationId := "corridor-" ++ request.requestId
    roleId := request.roleId
    startsAtS := zero
    endsAtS := PyFloat.max durationS (ofRat 0.001)
    minimumM := ⟨low Vector3.x, low Vector3.y, low Vector3.z⟩
    maximumM := ⟨high Vector3.x, high Vector3.y, high Vector3.z⟩ }

/-- The boxes of two reservations are nowhere strictly apart. -/
def boxesMeet (first second : TemporalReservation F) : Bool :=
  !(lt first.maximumM.x second.minimumM.x || lt second.maximumM.x first.minimumM.x ||
    lt first.maximumM.y second.minimumM.y || lt second.maximumM.y first.minimumM.y ||
    lt first.maximumM.z second.minimumM.z || lt second.maximumM.z first.minimumM.z)

/-- `_reservations_conflict`. -/
def reservationsConflict (first second : TemporalReservation F) : Bool :=
  (lt first.startsAtS second.endsAtS && lt second.startsAtS first.endsAtS) &&
    boxesMeet first second

/-- The loop's `elapsed_s`, `length_m` and `waypoints`. -/
structure Progress (F : Type) where
  elapsedS : F
  lengthM : F
  waypoints : List (RouteWaypoint F)
  deriving DecidableEq, Repr

/-- `request.targets[min(index - 1, len(request.targets) - 1)].hold_s`. -/
def holdAt (request : RoutePlanRequest F) (index : Nat) : F :=
  match request.targets[Nat.min (index - 1) (request.targets.length - 1)]? with
  | some target => target.holdS
  | none => zero

/-- The hold at the end of a leg is the one its target asks for. -/
theorem holdAt_eq {request : RoutePlanRequest F} {before rest : List (RouteTarget F)} {target : RouteTarget F}
    (split : request.targets = before ++ target :: rest) :
    holdAt request (before.length + 1) = target.holdS := by
  have here : Nat.min before.length (request.targets.length - 1) = before.length := by
    rw [split, List.length_append, List.length_cons]
    exact Nat.min_eq_left (by omega)
  rw [holdAt, Nat.add_sub_cancel, here, split]
  simp

/-- The loop over the targets, each with the point before it. -/
def follow (request : RoutePlanRequest F) (index : Nat) (previous : Vector3 F)
    (progress : Progress F) : List (Vector3 F) → Except (Fault F) (Progress F)
  | [] => .ok progress
  | target :: rest => do
    let segmentM := distance previous target
    let elapsedS := progress.elapsedS + segmentM / request.cruiseSpeedMS
    let holdS := holdAt request index
    let waypoint ← RouteWaypoint.make ⟨index, target, elapsedS, elapsedS + holdS⟩
    follow request (index + 1) target
      ⟨elapsedS + holdS, progress.lengthM + segmentM, progress.waypoints ++ [waypoint]⟩ rest

/-- `_plan_polyline`. -/
def planPolyline (manifest : PluginManifest) (request : RoutePlanRequest F)
    (targets : List (Vector3 F)) (applyTemporalShift : Bool := true) :
    Except (Fault F) (RoutePlanArtifact F) := do
  let points := request.startM :: targets
  if points.any fun point => !insideVolume point request then
    return ← blocked manifest request "ROUTE_OUTSIDE_FLIGHT_VOLUME"
  if (points.zip targets).any fun (previous, point) =>
      request.obstacles.any (segmentIntersectsBox previous point) then
    return ← blocked manifest request "ROUTE_INTERSECTS_OBSTACLE"
  let first ← RouteWaypoint.make ⟨0, request.startM, zero, zero⟩
  let progress ← follow request 1 request.startM ⟨zero, zero, [first]⟩ targets
  if lt request.maximumDurationS progress.elapsedS then
    return ← blocked manifest request "ROUTE_DURATION_EXCEEDS_BOUND"
  let corridor ← (reservation request progress.waypoints progress.elapsedS).make
  if applyTemporalShift && request.existingReservations.any (reservationsConflict corridor) then
    return ← blocked manifest request "TEMPORAL_RESERVATION_REQUIRED"
  routeArtifact manifest request .ready progress.waypoints [corridor] progress.lengthM
    progress.elapsedS

namespace DirectRoutePlanner

def manifest : PluginManifest :=
  ⟨"route.direct", [.direct, .dockApproach, .leaderFollower]⟩

def plan (request : RoutePlanRequest F) : Except (Fault F) (RoutePlanArtifact F) :=
  planPolyline manifest request (request.targets.map RouteTarget.positionM)

end DirectRoutePlanner

namespace TemporalRoutePlanner

def manifest : PluginManifest := ⟨"route.temporal", [.temporalSeparation]⟩

/-- The nested loops over the route's own and the existing reservations. -/
def shiftFor (reservations existing : List (TemporalReservation F)) : F :=
  reservations.foldl (fun shiftS current => existing.foldl (fun shiftS existing =>
    if reservationsConflict current existing then
      PyFloat.max shiftS (existing.endsAtS - current.startsAtS + ofRat 0.001)
    else shiftS) shiftS) zero

/-- `model_copy(update=...)` of a waypoint and of a reservation; nothing is validated again. -/
def delayWaypoint (shiftS : F) (item : RouteWaypoint F) : RouteWaypoint F :=
  { item with arrivalS := item.arrivalS + shiftS, departureS := item.departureS + shiftS }

def delayReservation (shiftS : F) (item : TemporalReservation F) : TemporalReservation F :=
  { item with startsAtS := item.startsAtS + shiftS, endsAtS := item.endsAtS + shiftS }

def plan (request : RoutePlanRequest F) : Except (Fault F) (RoutePlanArtifact F) := do
  let base ← planPolyline manifest request (request.targets.map RouteTarget.positionM) false
  if base.status = .blocked then
    return base
  let shiftS := shiftFor base.reservations request.existingReservations
  if lt request.maximumHoldS shiftS then
    return ← blocked manifest request "TEMPORAL_CORRIDOR_UNAVAILABLE"
  if le shiftS zero then
    return base
  routeArtifact manifest request .ready (base.waypoints.map (delayWaypoint shiftS))
    (base.reservations.map (delayReservation shiftS)) base.routeLengthM
    (base.expectedDurationS + shiftS) [.held shiftS]

end TemporalRoutePlanner

inductive InitialFleetRole where
  | active | reserve | unassigned
  deriving DecidableEq, Repr

structure OperationalRouteInput (F : Type) where
  roleId : String
  vehicleId : String
  initialRole : InitialFleetRole
  startM : Vector3 F
  targetsM : List (Vector3 F)
  plannedDurationS : F
  deriving DecidableEq, Repr

/-- What `compile_operational_planning_bundle` reads of its mission and its deployment. -/
structure BundleInput (F : Type) [PyMath F] where
  missionId : String
  criticalSeparationM : F
  roles : List (OperationalRouteInput F)
  policy : SafetyPolicy F
  obstacles : List (RouteObstacle F) := []

namespace BundleInput

def activeRoles (input : BundleInput F) : List (OperationalRouteInput F) :=
  Sorting.sortBy OperationalRouteInput.roleId
    (input.roles.filter fun role => role.initialRole == .active)

def routeCapability (input : BundleInput F) : RouteCapability :=
  if 1 < input.activeRoles.length then .temporalSeparation else .direct

/-- The plan function of the planner that the registry resolves. -/
def routePlanner (input : BundleInput F) (request : RoutePlanRequest F) :
    Except (Fault F) (RoutePlanArtifact F) :=
  if 1 < input.activeRoles.length then TemporalRoutePlanner.plan request
  else DirectRoutePlanner.plan request

/-- `_path_length`. -/
def pathLength (points : List (Vector3 F)) : F :=
  (points.zip points.tail).foldl
    (fun total (previous, point) => total + distance point previous) zero

def cruiseSpeedMS (input : BundleInput F) : F :=
  PyFloat.min (ofRat 0.4) input.policy.maxHorizontalSpeedMS

def routeTargets (input : BundleInput F) (role : OperationalRouteInput F) :
    List (RouteTarget F) :=
  let targets := if role.targetsM.isEmpty then [role.startM] else role.targetsM
  let routeLength := pathLength (role.startM :: targets)
  let transitDuration := routeLength / input.cruiseSpeedMS
  let finalHold := PyFloat.max zero (role.plannedDurationS - transitDuration)
  targets.mapIdx fun index target =>
    ⟨target, if index = targets.length - 1 then finalHold else zero⟩

def routeRequest (input : BundleInput F) (reservations : List (TemporalReservation F))
    (role : OperationalRouteInput F) : Except (Fault F) (RoutePlanRequest F) :=
  RoutePlanRequest.modelValidate
    { requestId := "route-" ++ input.missionId ++ "-" ++ role.roleId
      roleId := role.roleId
      capability := input.routeCapability
      startM := role.startM
      targets := input.routeTargets role
      coverageSpacingM := ofRat 0.25
      flightVolumeMinimumM := input.policy.flightVolume.minimumM
      flightVolumeMaximumM := input.policy.flightVolume.maximumM
      obstacles := input.obstacles
      existingReservations := reservations
      cruiseSpeedMS := input.cruiseSpeedMS
      maximumDurationS := input.policy.maxMissionDurationS
      energyPercentPerM := ofRat 1
      minimumSeparationM := input.criticalSeparationM
      maximumHoldS := PyFloat.min (ofRat 30) (input.policy.maxMissionDurationS / ofRat 4) }

/-- The loop over the active roles. -/
def planRoles (input : BundleInput F) (plans : List (RoutePlanArtifact F)) :
    List (OperationalRouteInput F) → Except (Fault F) (List (RoutePlanArtifact F))
  | [] => .ok plans
  | role :: rest => do
    let request ← input.routeRequest (plans.flatMap RoutePlanArtifact.reservations) role
    let route ← input.routePlanner request
    input.planRoles (plans ++ [route]) rest

/-- The `route_plans` of `compile_operational_planning_bundle`. -/
def routePlans (input : BundleInput F) : Except (Fault F) (List (RoutePlanArtifact F)) :=
  input.planRoles [] input.activeRoles

variable {input : BundleInput F} {routes : List (RoutePlanArtifact F)}

theorem routeRequest_eq_ok {request : RoutePlanRequest F} {role : OperationalRouteInput F}
    {reservations : List (TemporalReservation F)}
    (ok : input.routeRequest reservations role = .ok request) :
    request.existingReservations = reservations := by
  unfold BundleInput.routeRequest RoutePlanRequest.modelValidate at ok
  split at ok
  · cases ok
    rfl
  · cases ok

/-- What the loop has planned of the roles still to come. By induction on those roles. -/
theorem planRoles_eq_ok {plans : List (RoutePlanArtifact F)}
    {roles : List (OperationalRouteInput F)} (ok : input.planRoles plans roles = .ok routes) :
    ∃ added, routes = plans ++ added ∧ added.length = roles.length ∧
      ∀ index role route, roles[index]? = some role → added[index]? = some route →
        ∃ request, input.routeRequest ((plans ++ added.take index).flatMap
          RoutePlanArtifact.reservations) role = .ok request ∧
            input.routePlanner request = .ok route := by
  induction roles generalizing plans with
  | nil =>
    cases ok
    exact ⟨[], (List.append_nil _).symm, rfl, fun _ _ _ found => by cases found⟩
  | cons first rest ih =>
    unfold BundleInput.planRoles at ok
    obtain ⟨request, requested, ok⟩ := bind_eq_ok.mp ok
    obtain ⟨route, planned, ok⟩ := bind_eq_ok.mp ok
    obtain ⟨added, rfl, length, each⟩ := ih ok
    refine ⟨route :: added, ?_, congrArg (· + 1) length, ?_⟩
    · rw [List.append_assoc, List.singleton_append]
    · intro index role other roleAt routeAt
      cases index with
      | zero =>
        cases roleAt
        cases routeAt
        exact ⟨request, by simpa using requested, planned⟩
      | succ index =>
        obtain ⟨later, handed, planned⟩ := each index role other roleAt routeAt
        rw [List.append_assoc, List.singleton_append] at handed
        exact ⟨later, handed, planned⟩

theorem planned_of_routePlans (ok : input.routePlans = .ok routes) :
    routes.length = input.activeRoles.length ∧
      ∀ index role route, input.activeRoles[index]? = some role → routes[index]? = some route →
        ∃ request, input.routeRequest ((routes.take index).flatMap
          RoutePlanArtifact.reservations) role = .ok request ∧
            input.routePlanner request = .ok route := by
  obtain ⟨added, rfl, length, each⟩ := planRoles_eq_ok ok
  exact ⟨length, each⟩

end BundleInput

end RoutePlanning

end CrazySwarm
