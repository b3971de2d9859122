import CrazySwarm.CampaignModels
import CrazySwarm.Lib.Sorting

/-! The independent verifier of candidate routes: the structured world of a case, distances
between routes, solids and the authored centerline, and the certificate made from them. -/
namespace CrazySwarm
open PyFloat PyMath

variable {F : Type} [PyMath F]

namespace CampaignGeometry

def subtract (first second : Vector3 F) : Vector3 F :=
  ⟨first.x - second.x, first.y - second.y, first.z - second.z⟩

def add (first second : Vector3 F) : Vector3 F :=
  ⟨first.x + second.x, first.y + second.y, first.z + second.z⟩

def scale (value : Vector3 F) (factor : F) : Vector3 F :=
  ⟨value.x * factor, value.y * factor, value.z * factor⟩

def dot (first second : Vector3 F) : F :=
  first.x * second.x + first.y * second.y + first.z * second.z

def norm (value : Vector3 F) : F := sqrt (dot value value)

def distance (first second : Vector3 F) : F := norm (subtract first second)

def lerp (first second : Vector3 F) (fraction : F) : Vector3 F :=
  ⟨first.x + (second.x - first.x) * fraction, first.y + (second.y - first.y) * fraction,
    first.z + (second.z - first.z) * fraction⟩

/-- What the verifier reads of a route. -/
structure RouteGeometry (F : Type) where
  roleId : String
  pointsM : List (Vector3 F)
  routeStartS : F
  routeDurationS : F
  segmentDurationsS : List F := []
  deriving DecidableEq, Repr

/-- `pairwise`. -/
def pairwise {α : Type} (items : List α) : List (α × α) := items.zip items.tail

/-- `combinations(items, 2)`. -/
def combinations {α : Type} : List α → List (α × α)
  | [] => []
  | item :: rest => rest.map (item, ·) ++ combinations rest

/-- `min` of some values, if there are any. -/
def minimum? (values : List F) : Option F :=
  match values with
  | [] => none
  | value :: rest => some (rest.foldl PyFloat.min value)

def maximum? (values : List F) : Option F :=
  match values with
  | [] => none
  | value :: rest => some (rest.foldl PyFloat.max value)

section Extremes

variable {F : Type} [Field F] [LinearOrder F] [IsStrictOrderedRing F] [PyMath F] [Exact F]

theorem foldl_max_le {α : Type} {f : α → F} {items : List α} {start bound : F} :
    items.foldl (fun most item => PyFloat.max most (f item)) start ≤ bound ↔
      start ≤ bound ∧ ∀ item ∈ items, f item ≤ bound := by
  induction items generalizing start with
  | nil => simp
  | cons item rest ih =>
    rw [List.foldl_cons, ih, Exact.max_eq, max_le_iff, and_assoc, List.forall_mem_cons]

theorem le_foldl_min {α : Type} {f : α → F} {items : List α} {start bound : F} :
    bound ≤ items.foldl (fun least item => PyFloat.min least (f item)) start ↔
      bound ≤ start ∧ ∀ item ∈ items, bound ≤ f item := by
  induction items generalizing start with
  | nil => simp
  | cons item rest ih =>
    rw [List.foldl_cons, ih, Exact.min_eq, le_min_iff, and_assoc, List.forall_mem_cons]

theorem maximum?_le {values : List F} {most bound : F} (found : maximum? values = some most) :
    most ≤ bound ↔ ∀ value ∈ values, value ≤ bound := by
  cases values with
  | nil => cases found
  | cons value rest =>
    cases found
    rw [List.forall_mem_cons]
    exact foldl_max_le

theorem le_minimum? {values : List F} {least bound : F} (found : minimum? values = some least) :
    bound ≤ least ↔ ∀ value ∈ values, bound ≤ value := by
  cases values with
  | nil => cases found
  | cons value rest =>
    cases found
    rw [List.forall_mem_cons]
    exact le_foldl_min

end Extremes

def sum (values : List F) : F := values.foldl (· + ·) zero

structure StructuredWorld (F : Type) where
  flightVolume : Region3D F
  solids : List (Region3D F)
  traversablePassages : List (Region3D F)
  deriving DecidableEq, Repr

/-- `structured_world_from_case`. -/
def structuredWorldFromCase (case : CampaignCase F) : StructuredWorld F :=
  ⟨case.hardConstraints.flightVolume, case.keepOutRegions, case.requiredCorridors⟩

def regionInside (inner outer : Region3D F) : Bool :=
  outer.contains inner.minimumM && outer.contains inner.maximumM

def regionsOverlap (first second : Region3D F) : Bool :=
  !(le first.maximumM.x second.minimumM.x || le second.maximumM.x first.minimumM.x ||
    le first.maximumM.y second.minimumM.y || le second.maximumM.y first.minimumM.y ||
    le first.maximumM.z second.minimumM.z || le second.maximumM.z first.minimumM.z)

/-- What is left of a passage, with its clearances taken off, is no narrower than the vehicle. -/
def passable (passage : Region3D F) (policy : ClearancePolicy F) : Bool :=
  let width := PyFloat.min (passage.maximumM.x - passage.minimumM.x)
      (passage.maximumM.y - passage.minimumM.y) -
    ofRat 2 * (policy.nominalVehicleRadiusM + policy.requiredSolidClearanceM +
      policy.uncertaintyAllowanceM)
  let height := passage.maximumM.z - passage.minimumM.z -
    ofRat 2 * (policy.nominalVehicleHalfHeightM + policy.requiredSolidClearanceM +
      policy.uncertaintyAllowanceM)
  le zero width && le zero height

/-- The contradictions of `validate_structured_world`; they are sorted with the violations. -/
def contradictions (world : StructuredWorld F) (policy : ClearancePolicy F) : List String :=
  ((world.solids.filter fun solid => !regionInside solid world.flightVolume).map
    fun solid => "SOLID_OUTSIDE_FLIGHT_VOLUME:" ++ solid.regionId) ++
  world.traversablePassages.flatMap fun passage =>
    (if regionInside passage world.flightVolume then []
      else ["PASSAGE_OUTSIDE_FLIGHT_VOLUME:" ++ passage.regionId]) ++
    ((world.solids.filter (regionsOverlap passage)).map fun solid =>
      "SOLID_FREE_SPACE_CONTRADICTION:" ++ solid.regionId ++ ":" ++ passage.regionId) ++
    (if passable passage policy then [] else ["PASSAGE_TOO_SMALL:" ++ passage.regionId])

/-- `_route_knot_times`. -/
def routeKnotTimes (route : RouteGeometry F) : List F :=
  let durations := if !route.segmentDurationsS.isEmpty then route.segmentDurationsS else
    let lengths := (pairwise route.pointsM).map fun (first, second) => distance first second
    let total := sum lengths
    if le total (ofRat 1e-12) then
      lengths.map fun _ => route.routeDurationS / ofRat lengths.length
    else lengths.map fun length => route.routeDurationS * length / total
  durations.scanl (· + ·) route.routeStartS

def positionOn (timestampS : F) : List ((F × F) × (Vector3 F × Vector3 F)) → Option (Vector3 F)
  | [] => none
  | ((start, «end»), (first, second)) :: rest =>
    if le timestampS «end» then
      some (lerp first second ((timestampS - start) / («end» - start)))
    else positionOn timestampS rest

/-- `_position_at`; a route has at least two points. -/
def positionAt (route : RouteGeometry F) (timestampS : F) : Vector3 F :=
  let times := routeKnotTimes route
  let origin : Vector3 F := ⟨zero, zero, zero⟩
  let first := route.pointsM.headD origin
  let last := route.pointsM.getLastD origin
  if le timestampS (times.headD zero) then first
  else if le (times.getLastD zero) timestampS then last
  else (positionOn timestampS ((pairwise times).zip (pairwise route.pointsM))).getD last

/-- `sorted(set(...))` of numbers. -/
def sortedSet (values : List F) : List F :=
  (values.foldl (fun kept value => if kept.any (eq value) then kept else kept ++ [value])
    []).insertionSort fun a b => !lt b a

/-- `_continuous_route_distance`; none where there is no interval. -/
def continuousRouteDistance (first second : RouteGeometry F) : Option F :=
  let firstTimes := routeKnotTimes first
  let secondTimes := routeKnotTimes second
  let breakpoints := sortedSet (zero :: firstTimes ++ secondTimes ++
    [PyFloat.max (firstTimes.getLastD zero) (secondTimes.getLastD zero)])
  minimum? <| (pairwise breakpoints).map fun (start, «end») =>
    let relativeStart := subtract (positionAt first start) (positionAt second start)
    let relativeDelta := subtract (subtract (positionAt first «end») (positionAt second «end»))
      relativeStart
    let denominator := dot relativeDelta relativeDelta
    let fraction := if le denominator (ofRat 1e-18) then zero
      else PyFloat.max zero
        (PyFloat.min (ofRat 1) (neg (dot relativeStart relativeDelta) / denominator))
    norm (add relativeStart (scale relativeDelta fraction))

/-- `minimum_continuous_route_center_distance`; a pair without an interval is infinitely far. -/
def minimumContinuousRouteCenterDistance (routes : List (RouteGeometry F)) : Option F :=
  if (combinations routes).isEmpty then some (ofRat 1000000)
  else minimum? ((combinations routes).filterMap fun (first, second) =>
    continuousRouteDistance first second)

/-- One axis of `_segment_intersects_aabb`. -/
def clipAxis (range : F × F) (before after minimum maximum : F) : Option (F × F) :=
  let delta := after - before
  if le (PyFloat.abs delta) (ofRat 1e-15) then
    if lt before minimum || lt maximum before then none else some range
  else
    let near := (minimum - before) / delta
    let far := (maximum - before) / delta
    let entry := PyFloat.max range.1 (if lt far near then far else near)
    let exit := PyFloat.min range.2 (if lt far near then near else far)
    if lt exit entry then none else some (entry, exit)

/-- `_segment_intersects_aabb`. -/
def segmentIntersectsAabb (start «end» : Vector3 F) (bounds : Region3D F) : Bool :=
  let clipped := do
    let range ← clipAxis (zero, ofRat 1) start.x «end».x bounds.minimumM.x bounds.maximumM.x
    let range ← clipAxis range start.y «end».y bounds.minimumM.y bounds.maximumM.y
    clipAxis range start.z «end».z bounds.minimumM.z bounds.maximumM.z
  clipped.isSome

/-- `_point_aabb_distance`. -/
def pointAabbDistance (point : Vector3 F) (bounds : Region3D F) : F :=
  let outside (coordinate minimum maximum : F) : F :=
    PyFloat.max (PyFloat.max (minimum - coordinate) zero) (coordinate - maximum)
  let dx := outside point.x bounds.minimumM.x bounds.maximumM.x
  let dy := outside point.y bounds.minimumM.y bounds.maximumM.y
  let dz := outside point.z bounds.minimumM.z bounds.maximumM.z
  sqrt (dx * dx + dy * dy + dz * dz)

/-- The ternary search of `_segment_aabb_distance`. -/
def narrow (start «end» : Vector3 F) (bounds : Region3D F) : Nat → F × F → F × F
  | 0, range => range
  | steps + 1, (low, high) =>
    let first := low + (high - low) / ofRat 3
    let second := high - (high - low) / ofRat 3
    if le (pointAabbDistance (lerp start «end» first) bounds)
        (pointAabbDistance (lerp start «end» second) bounds) then
      narrow start «end» bounds steps (low, second)
    else narrow start «end» bounds steps (first, high)

/-- `_segment_aabb_distance`. -/
def segmentAabbDistance (start «end» : Vector3 F) (bounds : Region3D F) : F :=
  if segmentIntersectsAabb start «end» bounds then zero
  else
    let (low, high) := narrow start «end» bounds 64 (zero, ofRat 1)
    pointAabbDistance (lerp start «end» ((low + high) / ofRat 2)) bounds

/-- `_boundary_clearance`. -/
def boundaryClearance (point : Vector3 F) (volume : Region3D F) (policy : ClearancePolicy F) : F :=
  let radius := policy.nominalVehicleRadiusM
  let halfHeight := policy.nominalVehicleHalfHeightM
  [volume.maximumM.x - point.x - radius, point.y - volume.minimumM.y - radius,
    volume.maximumM.y - point.y - radius, point.z - volume.minimumM.z - halfHeight,
    volume.maximumM.z - point.z - halfHeight].foldl PyFloat.min
      (point.x - volume.minimumM.x - radius)

/-- `_point_segment_distance`. -/
def pointSegmentDistance (point start «end» : Vector3 F) : F :=
  let delta := subtract «end» start
  let denominator := dot delta delta
  let fraction := if le denominator (ofRat 1e-18) then zero
    else PyFloat.max zero
      (PyFloat.min (ofRat 1) (dot (subtract point start) delta / denominator))
  distance point (add start (scale delta fraction))

/-- The drone of a role; `KeyError` where the case has none. -/
def droneByRole (case : CampaignCase F) (roleId : String) : Except PyError (DroneCase F) :=
  match case.drones.find? fun drone => drone.roleId == roleId with
  | some drone => .ok drone
  | none => .error (.keyError roleId)

theorem droneByRole_eq_ok {case : CampaignCase F} {roleId : String} {drone : DroneCase F}
    (ok : droneByRole case roleId = .ok drone) : drone ∈ case.drones ∧ drone.roleId = roleId := by
  unfold droneByRole at ok
  split at ok
  · next found =>
    cases ok
    exact ⟨List.mem_of_find?_eq_some found, by simpa using List.find?_some found⟩
  · cases ok

/-- The centers from the start over the goals to the landing, start and landing at the height of
the first and of the last goal. -/
def authoredCenterline (drone : DroneCase F) : List (Vector3 F) :=
  let goals := drone.goalSequence.map Region3D.center
  let start := drone.startRegion.center
  let landing := drone.landingRegion.center
  { start with z := (goals.headD start).z } :: goals ++
    [{ landing with z := (goals.getLastD landing).z }]

def polylineDistance (point : Vector3 F) (polyline : List (Vector3 F)) : F :=
  (minimum? ((pairwise polyline).map fun (start, «end») =>
    pointSegmentDistance point start «end»)).getD zero

/-- `_route_centerline_deviation`. -/
def routeCenterlineDeviation (drone : DroneCase F) (route : RouteGeometry F) : F :=
  (maximum? (route.pointsM.map fun point =>
    polylineDistance point (authoredCenterline drone))).getD zero

/-- The modes with a bounded distance from the authored centerline. -/
def boundsCenterline (mode : PathAdherenceMode) : Bool :=
  mode ∈ [.exactRoute, .hardTube, .authoredCenterline]

/-- One route's part of `_path_adherence_violations`. -/
def routeAdherenceViolations (case : CampaignCase F) (planning : PlanningSubmission F)
    (route : RouteGeometry F) : Except PyError (List String) := do
  let drone ← droneByRole case route.roleId
  let missed := drone.goalSequence.any fun goal => !route.pointsM.any goal.contains
  let outside := planning.pathAdherence.mode == .routeCorridor &&
    (pairwise route.pointsM).any fun (start, «end») =>
      !case.requiredCorridors.any fun corridor =>
        corridor.contains start && corridor.contains «end»
  let deviates ← if boundsCenterline planning.pathAdherence.mode then
      match planning.pathAdherence.maximumCenterlineDeviationM with
      | none => .error .assertionError
      | some limit => .ok (lt (limit + ofRat 1e-9) (routeCenterlineDeviation drone route))
    else .ok false
  return (if missed then ["REQUIRED_GOAL_VIOLATION:" ++ route.roleId] else []) ++
    (if outside then ["ROUTE_CORRIDOR_VIOLATION:" ++ route.roleId] else []) ++
    (if deviates then ["CENTERLINE_DEVIATION_VIOLATION:" ++ route.roleId] else [])

/-- `_path_adherence_violations`. -/
def pathAdherenceViolations (case : CampaignCase F) (planning : PlanningSubmission F)
    (routes : List (RouteGeometry F)) : Except PyError (List String) := do
  let found ← routes.mapM (routeAdherenceViolations case planning)
  return found.flatten

inductive PathDeviation (F : Type) where
  | undefined
  | unbounded
  | value (deviation : F)
  deriving DecidableEq, Repr

/-- `_path_adherence_deviation`. -/
def pathAdherenceDeviation (case : CampaignCase F) (planning : PlanningSubmission F)
    (routes : List (RouteGeometry F)) : Except PyError (PathDeviation F) :=
  if planning.pathAdherence.mode.withoutDeviation then .ok .undefined
  else if planning.pathAdherence.mode = .routeCorridor then do
    let violations ← pathAdherenceViolations case planning routes
    return if violations.isEmpty then .value zero else .unbounded
  else do
    let deviations ← routes.mapM fun route =>
      match case.drones.find? fun drone => drone.roleId == route.roleId with
      | some drone => .ok (routeCenterlineDeviation drone route)
      | none => .error .stopIteration
    return .value ((maximum? deviations).getD zero)

/-- `_route_overlap`. -/
def routeOverlap (routes : List (RouteGeometry F)) : F :=
  let ends := routes.map fun route => route.routeStartS + route.routeDurationS
  match minimum? ends, maximum? (routes.map RouteGeometry.routeStartS) with
  | some firstEnd, some lastStart => PyFloat.max zero (firstEnd - lastStart)
  | _, _ => zero

structure FeasibilityCertificate (F : Type) where
  caseId : String
  planningSubmissionId : String
  candidateSha256 : String
  passed : Bool
  minimumPairwiseNominalClearanceM : F
  minimumPairwiseProtectedClearanceM : F
  minimumSolidNominalClearanceM : F
  minimumSolidProtectedClearanceM : F
  minimumBoundaryClearanceM : F
  maximumPathDeviationM : PathDeviation F
  violations : List String
  deriving DecidableEq, Repr

def leastClearance (values : List F) : F := values.foldl PyFloat.min (ofRat 1000000)

def routeSolidDistance (route : RouteGeometry F) (solid : Region3D F) : F :=
  (minimum? ((pairwise route.pointsM).map fun (first, second) =>
    segmentAabbDistance first second solid)).getD zero

/-- `sorted(set(...))` of texts. -/
def sortedTexts (texts : List String) : List String := Sorting.sortBy id texts.dedup

/-- `certify_candidate_routes`. -/
def certifyCandidateRoutes (case : CampaignCase F) (planning : PlanningSubmission F)
    (candidateSha256 : String) (routes : List (RouteGeometry F)) :
    Except PyError (FeasibilityCertificate F) := do
  let policy := planning.clearance
  let world := structuredWorldFromCase case
  let distances := (combinations routes).filterMap fun (first, second) =>
    continuousRouteDistance first second
  let nominalPairwise := leastClearance (distances.map (· - ofRat 2 * policy.nominalVehicleRadiusM))
  let protectedPairwise :=
    leastClearance (distances.map (· - policy.requiredPairwiseCenterSeparationM))
  let nominals := routes.flatMap fun route => world.solids.map fun solid =>
    (solid, routeSolidDistance route solid - policy.nominalVehicleRadiusM)
  let protecteds := nominals.map fun (solid, nominal) =>
    (solid, nominal - (policy.requiredSolidClearanceM + policy.uncertaintyAllowanceM))
  let solidProtected := leastClearance (protecteds.map (·.2))
  let boundary ← match minimum? (routes.flatMap fun route =>
      route.pointsM.map fun point => boundaryClearance point world.flightVolume policy) with
    | some boundary => .ok boundary
    | none => .error (.valueError "min() iterable argument is empty")
  let deviation ← pathAdherenceDeviation case planning routes
  let adherence ← pathAdherenceViolations case planning routes
  let starts := routes.map RouteGeometry.routeStartS
  let skewed := planning.coordination.synchronizedRouteStartRequired && !starts.isEmpty &&
    lt (planning.coordination.maximumRouteStartSkewS + ofRat 1e-9)
      ((maximum? starts).getD zero - (minimum? starts).getD zero)
  let violations := contradictions world policy ++
    (if lt protectedPairwise (ofRat (-1e-9)) then ["PAIRWISE_PROTECTED_CLEARANCE_VIOLATION"]
      else []) ++
    ((protecteds.filter fun (_, clearance) => lt clearance (ofRat (-1e-9))).map fun (solid, _) =>
      "SOLID_PROTECTED_CLEARANCE_VIOLATION:" ++ solid.regionId) ++
    (if lt boundary (ofRat (-1e-9)) then ["PHYSICAL_FLIGHT_VOLUME_VIOLATION"] else []) ++
    adherence ++
    (if skewed then ["PLANNING_SYNCHRONIZED_ROUTE_START_VIOLATION"] else []) ++
    (if lt (routeOverlap routes + ofRat 1e-9) planning.coordination.minimumSimultaneousFlightS
      then ["PLANNING_MINIMUM_SIMULTANEOUS_FLIGHT_VIOLATION"] else [])
  return {
    caseId := case.caseId
    planningSubmissionId := planning.planningSubmissionId
    candidateSha256
    passed := violations.isEmpty
    minimumPairwiseNominalClearanceM := nominalPairwise
    minimumPairwiseProtectedClearanceM := protectedPairwise
    minimumSolidNominalClearanceM := leastClearance (nominals.map (·.2))
    minimumSolidProtectedClearanceM := solidProtected
    minimumBoundaryClearanceM := boundary
    maximumPathDeviationM := deviation
    violations := sortedTexts violations }

end CampaignGeometry

end CrazySwarm
