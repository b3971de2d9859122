import CrazySwarm.CampaignEvaluation

/-! The timing generators of the joint planner: releases on a grid of delays, at the earliest
boundary that keeps the separation, and in an order of the roles, on the ground or in the air. -/
namespace CrazySwarm
open PyFloat PyMath
open CampaignGeometry (minimumContinuousRouteCenterDistance)
open CampaignEvaluation (defaultTakeoffDurationS defaultStabilizationS defaultLandingDurationS
  defaultReservationClearanceS)

variable {F : Type} [PyMath F]

namespace CampaignTiming

def delayed (ground : Bool) (delayS : F) (route : CandidateRoute F) : CandidateRoute F :=
  { route with
    routeStartS := route.routeStartS + delayS
    groundWaitS := if ground then delayS else zero
    airborneWaitS := if ground then zero else delayS }

def releasedAt (ground : Bool) (startS : F) (route : CandidateRoute F) : CandidateRoute F :=
  { route with
    routeStartS := startS
    groundWaitS := if ground then startS else zero
    airborneWaitS := if ground then zero else startS }

/-- `_routes_with_release_delay`. -/
def routesWithReleaseDelay (routes : List (CandidateRoute F)) (roleId : String) (delayS : F)
    (ground : Bool) : List (CandidateRoute F) :=
  routes.map fun route => if route.roleId = roleId then delayed ground delayS route else route

def strategyOf (ground : Bool) : PlannerStrategy :=
  if ground then .groundDelay else .airborneStaging

/-- `_retime_seed`. -/
def retimeSeed (routes : List (CandidateRoute F)) (roleId : String) (delayS : F)
    (ground : Bool) : CandidateSeed F :=
  { strategy := strategyOf ground
    generatorId := if ground then "ground-delay-v1" else "airborne-staging-v1"
    parameters := [("role_id", .text roleId), ("delay_s", .number delayS)]
    routes := routesWithReleaseDelay routes roleId delayS ground }

/-- The ways to take one item out, in order. -/
def picks {α : Type} : List α → List (α × List α)
  | [] => []
  | item :: rest => (item, rest) :: (picks rest).map fun (other, others) => (other, item :: others)

def arrangements {α : Type} : Nat → List α → List (List α)
  | 0, _ => [[]]
  | count + 1, items => (picks items).flatMap fun (item, rest) =>
      (arrangements count rest).map (item :: ·)

/-- `permutations`. -/
def permutations {α : Type} (items : List α) : List (List α) := arrangements items.length items

/-- `sorted(route.role_id for route in routes)`. -/
def sortedRoles (routes : List (CandidateRoute F)) : List String :=
  Sorting.sortBy id (routes.map CandidateRoute.roleId)

/-- `route_by_role[role_id]`: the last route of the role. -/
def routeByRole (routes : List (CandidateRoute F)) (roleId : String) :
    Except PyError (CandidateRoute F) :=
  match routes.reverse.find? fun route => route.roleId == roleId with
  | some route => .ok route
  | none => .error (.keyError roleId)

theorem mem_of_routeByRole {F : Type} {routes : List (CandidateRoute F)} {roleId : String}
    {route : CandidateRoute F} (ok : routeByRole routes roleId = .ok route) : route ∈ routes := by
  unfold routeByRole at ok
  split at ok
  · next found =>
    cases ok
    exact List.mem_reverse.mp (List.mem_of_find?_eq_some found)
  · cases ok

/-- The routes released at the times found for their roles. -/
def releaseAll (routes : List (CandidateRoute F)) (starts : Dict String F) (ground : Bool) :
    Except PyError (List (CandidateRoute F)) :=
  routes.mapM fun route =>
    match starts.get? route.roleId with
    | some startS => .ok (releasedAt ground startS route)
    | none => .error (.keyError route.roleId)

/-- The loop of `_joint_retime_seed`: each role starts once the one before it is through. -/
def serializedStarts (routes : List (CandidateRoute F)) (ground : Bool) :
    F → Dict String F → List String → Except PyError (Dict String F)
  | _, starts, [] => .ok starts
  | releaseS, starts, roleId :: rest => do
    let route ← routeByRole routes roleId
    let throughS := releaseS + (route.routeDurationS + defaultReservationClearanceS)
    serializedStarts routes ground
      (if ground then throughS + (defaultTakeoffDurationS + defaultStabilizationS +
        defaultLandingDurationS) else throughS)
      (starts.insert roleId releaseS) rest

/-- `_joint_retime_seed`. -/
def jointRetimeSeed (routes : List (CandidateRoute F)) (order : List String) (ground : Bool) :
    Except PyError (CandidateSeed F) := do
  let starts ← serializedStarts routes ground zero .empty order
  let selected ← releaseAll routes starts ground
  return {
    strategy := strategyOf ground
    generatorId := if ground then "joint-ground-delay-v1" else "joint-airborne-staging-v1"
    parameters := [("precedence_order", .text (",".intercalate order))]
    routes := selected }

/-- `_minimum_continuous_candidate_distance`; none is no interval at all. -/
def minimumContinuousCandidateDistance (routes : List (CandidateRoute F)) : Option F :=
  minimumContinuousRouteCenterDistance (routes.map CandidateRoute.geometry)

def keepsApart (planning : PlanningSubmission F) (routes : List (CandidateRoute F)) : Bool :=
  (minimumContinuousCandidateDistance routes).all
    (ge · planning.clearance.requiredPairwiseCenterSeparationM)

def bracket (safe : F → Bool) (maximumDelayS : F) : Nat → Nat → F → Option (F × F)
  | 0, _, _ => none
  | probes + 1, step, lower =>
    let probe := maximumDelayS * ofRat step / ofRat 64
    if safe probe then some (lower, probe) else bracket safe maximumDelayS probes (step + 1) probe

def bisect (safe : F → Bool) : Nat → F × F → F
  | 0, (_, upper) => upper
  | rounds + 1, (lower, upper) =>
    let midpoint := (lower + upper) / ofRat 2
    bisect safe rounds (if safe midpoint then (lower, midpoint) else (midpoint, upper))

def earliestRelease (safe : F → Bool) (maximumDelayS : F) (first : Nat) : Option F :=
  (bracket safe maximumDelayS (65 - first) first zero).map (bisect safe 24)

/-- `_continuous_release_candidates`. -/
def continuousReleaseCandidates (routes : List (CandidateRoute F))
    (planning : PlanningSubmission F) (ground : Bool) : List (CandidateSeed F) :=
  let maximumDelayS := planning.coordination.maximumReleaseDelayS
  if planning.coordination.synchronizedRouteStartRequired || le maximumDelayS zero then []
  else (sortedRoles routes).filterMap fun roleId =>
    let safe (delayS : F) : Bool :=
      keepsApart planning (routesWithReleaseDelay routes roleId delayS ground)
    if safe zero then none
    else (earliestRelease safe maximumDelayS 1).map fun upper =>
      { strategy := strategyOf ground
        generatorId := if ground then "continuous-ground-release-v1"
          else "continuous-airborne-release-v1"
        parameters := [("role_id", .text roleId), ("delay_s", .number upper),
          ("solver", .text "BRACKETED_BISECTION")]
        routes := routesWithReleaseDelay routes roleId upper ground }

/-- The starts in an order of the roles, each the earliest that is safe with those before it. -/
def jointStarts (routes : List (CandidateRoute F)) (planning : PlanningSubmission F) :
    List (CandidateRoute F) → Dict String F → List String →
      Except PyError (Option (Dict String F))
  | _, starts, [] => .ok (some starts)
  | scheduled, starts, roleId :: rest => do
    let route ← routeByRole routes roleId
    let start := if scheduled.isEmpty then some zero else
      earliestRelease (fun probe => keepsApart planning (scheduled ++ [releasedAt true probe route]))
        planning.coordination.maximumReleaseDelayS 0
    match start with
    | none => .ok none
    | some startS =>
      jointStarts routes planning (scheduled ++ [releasedAt true startS route])
        (starts.insert roleId startS) rest

def jointContinuousRelease (routes : List (CandidateRoute F)) (planning : PlanningSubmission F)
    (order : List String) : Except PyError (Option (CandidateSeed F)) := do
  match ← jointStarts routes planning [] .empty order with
  | none => .ok none
  | some starts =>
    let selected ← releaseAll routes starts true
    return if (minimumContinuousCandidateDistance selected).any fun distance =>
        lt (distance + ofRat 1e-9) planning.clearance.requiredPairwiseCenterSeparationM then none
      else some {
        strategy := .groundDelay
        generatorId := "joint-continuous-ground-release-v1"
        parameters := [("precedence_order", .text (",".intercalate order)),
          ("solver", .text "ORDERED_BRACKETED_BISECTION")]
        routes := selected }

/-- `_joint_continuous_release_candidates`. -/
def jointContinuousReleaseCandidates (routes : List (CandidateRoute F))
    (planning : PlanningSubmission F) : Except PyError (List (CandidateSeed F)) := do
  if planning.coordination.synchronizedRouteStartRequired ||
      le planning.coordination.maximumReleaseDelayS zero then return []
  let found ← (permutations (sortedRoles routes).dedup).mapM
    (jointContinuousRelease routes planning)
  return found.filterMap id

/-- The serialized candidates of `_bottleneck_serialized_candidates` for the staged routes. -/
def bottleneckSerialized (staged : List (CandidateRoute F)) (order : List String) :
    Except PyError (CandidateSeed F) := do
  let retimed ← jointRetimeSeed staged order true
  return {
    strategy := .groundDelay
    generatorId := "constraint-directed-bottleneck-serialized-v1"
    parameters := [("precedence_order", .text (",".intercalate order)),
      ("passage_staging", .boolean true)]
    routes := retimed.routes }

def combinedSeed (geometry : CandidateSeed F) (roleId : String) (delayS : F) : CandidateSeed F :=
  { strategy := .combinedTimingGeometry
    generatorId := "combined-" ++ geometry.generatorId
    parameters := geometry.parameters ++ [("delay_s", .number delayS)]
    routes := geometry.routes.map fun route =>
      if route.roleId = roleId then
        { route with
          routeStartS := route.routeStartS + delayS
          groundWaitS := route.groundWaitS + delayS }
      else route }

inductive Generated (case : CampaignCase F) (planning : PlanningSubmission F)
    (base : List (CandidateRoute F)) : CandidateSeed F → Prop
  | retime (roleId : String) (delayS : F) (ground : Bool)
      (member : delayS ∈ case.search.delayGridS) :
      Generated case planning base (retimeSeed base roleId delayS ground)
  | joint (order : List String) (ground : Bool) (seed : CandidateSeed F)
      (member : order ∈ permutations (sortedRoles base))
      (ok : jointRetimeSeed base order ground = .ok seed) : Generated case planning base seed
  | continuous (ground : Bool) (seed : CandidateSeed F)
      (member : seed ∈ continuousReleaseCandidates base planning ground) :
      Generated case planning base seed
  | jointContinuous (seeds : List (CandidateSeed F)) (seed : CandidateSeed F)
      (ok : jointContinuousReleaseCandidates base planning = .ok seeds) (member : seed ∈ seeds) :
      Generated case planning base seed
  | bottleneck (order : List String) (seed : CandidateSeed F)
      (member : order ∈ permutations (sortedRoles base))
      (ok : bottleneckSerialized base order = .ok seed) : Generated case planning base seed
  | combined (geometry : CandidateSeed F) (roleId : String) (delayS : F)
      (routes : geometry.routes = base) (member : delayS ∈ case.search.delayGridS.take 2) :
      Generated case planning base (combinedSeed geometry roleId delayS)

end CampaignTiming

end CrazySwarm
