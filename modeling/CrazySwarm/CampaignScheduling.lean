import CrazySwarm.CampaignTiming

/-! The launch schedule of a candidate: for each role the actions from the wait on the ground to
the landing, with its energy budget, and the duration of the whole. -/
namespace CrazySwarm
open PyFloat PyMath
open CampaignEvaluation (defaultTakeoffDurationS defaultStabilizationS defaultLandingDurationS
  pathLengthM)

variable {F : Type} [PyMath F]

inductive LaunchActionKind where
  | groundWait | arm | takeoff | stabilize | airborneStage | startRoute | land
  deriving DecidableEq, Repr

structure LaunchAction (F : Type) where
  kind : LaunchActionKind
  startsAtSourceS : F
  endsAtSourceS : F
  required : Bool
  rationale : String
  deriving DecidableEq, Repr

structure RoleEnergyBudget (F : Type) where
  roleId : String
  groundWaitS : F
  airborneHoverS : F
  routeEnergyPercent : F
  landingReservePercent : F
  predictedEndBatteryPercent : F
  deriving DecidableEq, Repr

structure RoleLaunchSchedule (F : Type) where
  roleId : String
  actions : List (LaunchAction F)
  energy : RoleEnergyBudget F
  deriving DecidableEq, Repr

structure GroundFirstSchedule (F : Type) where
  roles : List (RoleLaunchSchedule F)
  sourceScheduleDurationS : F
  wallWatchdogS : F
  minimumRealtimeFactor : F
  watchdogGuardS : F
  deriving DecidableEq, Repr

namespace LaunchAction

/-- The constructor and its field checks. -/
def make (kind : LaunchActionKind) (startsAtSourceS endsAtSourceS : F) (required : Bool)
    (rationale : String) : Except PyError (LaunchAction F) := do
  checked "LaunchAction" [("starts_at_source_s", ge startsAtSourceS zero),
    ("ends_at_source_s", ge endsAtSourceS zero)]
  return ⟨kind, startsAtSourceS, endsAtSourceS, required, rationale⟩

end LaunchAction

namespace RoleEnergyBudget

def validate (budget : RoleEnergyBudget F) : Except PyError Unit :=
  checked "RoleEnergyBudget"
    [("role_id", isIdentifier budget.roleId), ("ground_wait_s", ge budget.groundWaitS zero),
     ("airborne_hover_s", ge budget.airborneHoverS zero),
     ("route_energy_percent", ge budget.routeEnergyPercent zero),
     ("landing_reserve_percent", ge budget.landingReservePercent zero),
     ("predicted_end_battery_percent", ge budget.predictedEndBatteryPercent zero &&
      atMost budget.predictedEndBatteryPercent (ofRat 100))]

end RoleEnergyBudget

namespace GroundFirstSchedule

def validate (schedule : GroundFirstSchedule F) : Except PyError Unit :=
  checked "GroundFirstSchedule"
    [("source_schedule_duration_s", ge schedule.sourceScheduleDurationS zero),
     ("wall_watchdog_s", gt schedule.wallWatchdogS zero),
     ("minimum_realtime_factor", gt schedule.minimumRealtimeFactor zero),
     ("watchdog_guard_s", ge schedule.watchdogGuardS zero)]

end GroundFirstSchedule

namespace CampaignScheduling
open CampaignGeometry (droneByRole)

structure LaunchTimes (F : Type) where
  takeoffStart : F
  takeoffEnd : F
  stabilizationEnd : F
  routeStart : F
  routeEnd : F
  landingEnd : F

/-- A synchronized launch leaves the ground at once. -/
def launchTimes (case : CampaignCase F) (route : CandidateRoute F) : LaunchTimes F :=
  let takeoffStart :=
    if case.hardConstraints.synchronizedLaunchRequired then zero else route.groundWaitS
  let takeoffEnd := takeoffStart + defaultTakeoffDurationS
  let stabilizationEnd := takeoffEnd + defaultStabilizationS
  let routeStart := stabilizationEnd + route.airborneWaitS
  let routeEnd := routeStart + route.routeDurationS
  ⟨takeoffStart, takeoffEnd, stabilizationEnd, routeStart, routeEnd,
    routeEnd + defaultLandingDurationS⟩

def groundWaitActions (times : LaunchTimes F) : Except PyError (List (LaunchAction F)) := do
  if gt times.takeoffStart zero then
    return [← LaunchAction.make .groundWait zero times.takeoffStart true
      "ground-first delay avoids non-required airborne battery use"]
  else return []

def launchActions (times : LaunchTimes F) : Except PyError (List (LaunchAction F)) := do
  return [
    ← LaunchAction.make .arm times.takeoffStart times.takeoffStart true
      "just-in-time arm after readiness revalidation",
    ← LaunchAction.make .takeoff times.takeoffStart times.takeoffEnd true
      "launch inside the admitted route window",
    ← LaunchAction.make .stabilize times.takeoffEnd times.stabilizationEnd true
      "short declared airborne stabilization"]

def stagingActions (times : LaunchTimes F) (route : CandidateRoute F) :
    Except PyError (List (LaunchAction F)) := do
  if gt route.airborneWaitS zero then
    return [← LaunchAction.make .airborneStage times.stabilizationEnd times.routeStart
      (gt route.airborneWaitS zero)
      (if gt route.airborneWaitS zero then "candidate explicitly requires airborne staging"
        else "schedule alignment residual")]
  else return []

def routeActions (times : LaunchTimes F) : Except PyError (List (LaunchAction F)) := do
  return [
    ← LaunchAction.make .startRoute times.routeStart times.routeEnd true
      "execute accepted bounded route",
    ← LaunchAction.make .land times.routeEnd times.landingEnd true
      "land in the accepted terminal region"]

/-- The energy that a route takes, and what is left of the battery after the landing. -/
def routeEnergy (route : CandidateRoute F) : F :=
  pathLengthM route + route.airborneWaitS * ofRat 0.25

def endBattery (route : CandidateRoute F) (drone : DroneCase F) : F :=
  drone.initialBatteryPercent - routeEnergy route - ofRat 1

def roleSchedule (case : CampaignCase F) (route : CandidateRoute F) :
    Except PyError (RoleLaunchSchedule F) := do
  let drone ← droneByRole case route.roleId
  let times := launchTimes case route
  let ground ← groundWaitActions times
  let launch ← launchActions times
  let staging ← stagingActions times route
  let rest ← routeActions times
  require (!(lt case.hardConstraints.maximumUnrequiredAirborneWaitS route.airborneWaitS &&
      le route.airborneWaitS zero))
    (.valueError "schedule creates excessive non-required airborne waiting")
  require (!lt (endBattery route drone) drone.minimumReserveBatteryPercent)
    (.valueError ("role " ++ route.roleId ++ " violates landing reserve"))
  let energy : RoleEnergyBudget F :=
    ⟨route.roleId, times.takeoffStart, route.airborneWaitS, routeEnergy route,
      drone.minimumReserveBatteryPercent, endBattery route drone⟩
  energy.validate
  return ⟨route.roleId, ground ++ launch ++ staging ++ rest, energy⟩

def sortedRoutes (routes : List (CandidateRoute F)) : List (CandidateRoute F) :=
  Sorting.sortBy CandidateRoute.roleId routes

/-- The last landing. -/
def completionOf (case : CampaignCase F) (routes : List (CandidateRoute F)) : F :=
  routes.foldl (fun completion route =>
    PyFloat.max completion (launchTimes case route).landingEnd) zero

def scheduleRoutes (case : CampaignCase F) (routes : List (CandidateRoute F)) :
    Except PyError (GroundFirstSchedule F) := do
  let roles ← routes.mapM (roleSchedule case)
  let completion := completionOf case routes
  let schedule : GroundFirstSchedule F :=
    { roles
      sourceScheduleDurationS := completion
      wallWatchdogS := completion / case.hardConstraints.minimumRealtimeFactor +
        case.hardConstraints.watchdogGuardS
      minimumRealtimeFactor := case.hardConstraints.minimumRealtimeFactor
      watchdogGuardS := case.hardConstraints.watchdogGuardS }
  schedule.validate
  return schedule

/-- `build_ground_first_schedule`, with the default durations. -/
def buildGroundFirstSchedule (case : CampaignCase F) (candidate : CandidateEvaluation F) :
    Except PyError (GroundFirstSchedule F) :=
  scheduleRoutes case (sortedRoutes candidate.routes)

end CampaignScheduling

end CrazySwarm
