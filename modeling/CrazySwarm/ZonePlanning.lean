import CrazySwarm.Numbers
import CrazySwarm.Lib.Sorting

/-! Zone tasks: the planner that flies to the centre of a zone, around the boxes that it sees on
its way, and lays the route out as actions. -/
namespace CrazySwarm
namespace ZonePlanning
open PyFloat PyMath

variable {F : Type} [PyMath F]

inductive ZoneActionKind where
  | takeoff | moveTo | hold | land
  deriving DecidableEq, Repr

structure ZoneObstacle (F : Type) where
  obstacleId : String
  minimumM : Vector3 F
  maximumM : Vector3 F
  deriving DecidableEq, Repr

/-- With `bounds_are_ordered`. -/
structure ZoneGeometry (F : Type) [PyMath F] where
  minimumM : Vector3 F
  maximumM : Vector3 F
  ordered : (lt minimumM.x maximumM.x && lt minimumM.y maximumM.y &&
    le minimumM.z maximumM.z) = true

def ZoneGeometry.centerM (geometry : ZoneGeometry F) : Vector3 F :=
  ⟨(geometry.minimumM.x + geometry.maximumM.x) / ofRat 2,
    (geometry.minimumM.y + geometry.maximumM.y) / ofRat 2,
    (geometry.minimumM.z + geometry.maximumM.z) / ofRat 2⟩

structure ZoneDefinition (F : Type) [PyMath F] where
  zoneId : String
  geometry : ZoneGeometry F

/-- What the planner reads of a task. -/
structure DeploymentTaskDefinition (F : Type) where
  taskId : String
  zoneId : String
  estimatedDurationS : F
  estimatedEnergyPercent : F
  deriving DecidableEq, Repr

structure ZoneAction (F : Type) where
  kind : ZoneActionKind
  targetM : Option (Vector3 F)
  durationS : F
  deriving DecidableEq, Repr

/-- The constructor of `ZoneAction`. -/
def ZoneAction.make (action : ZoneAction F) : Except (Fault F) (ZoneAction F) :=
  validated "ZoneAction" [("duration_s", gt action.durationS zero)] action

structure ZoneTaskPlan (F : Type) where
  taskId : String
  zoneId : String
  actions : List (ZoneAction F)
  waypointsM : List (Vector3 F)
  obstacleAware : Bool
  pathLengthM : F
  estimatedDurationS : F
  estimatedEnergyPercent : F
  deriving DecidableEq, Repr

/-- The constructor of `ZoneTaskPlan`. -/
def ZoneTaskPlan.make (plan : ZoneTaskPlan F) : Except (Fault F) (ZoneTaskPlan F) :=
  validated "ZoneTaskPlan"
    [("task_id", isIdentifier plan.taskId),
     ("zone_id", isIdentifier plan.zoneId),
     ("path_length_m", ge plan.pathLengthM zero),
     ("estimated_duration_s", gt plan.estimatedDurationS zero),
     ("estimated_energy_percent", gt plan.estimatedEnergyPercent zero)] plan

/-- `_inside_expanded_box`. -/
def insideExpandedBox (point : Vector3 F) (obstacle : ZoneObstacle F) (marginM : F) : Bool :=
  (le (obstacle.minimumM.x - marginM) point.x && le point.x (obstacle.maximumM.x + marginM)) &&
  (le (obstacle.minimumM.y - marginM) point.y && le point.y (obstacle.maximumM.y + marginM)) &&
  (le obstacle.minimumM.z point.z && le point.z obstacle.maximumM.z)

/-- The point of the segment that the loop of `_segment_intersects_box_xy` looks at. -/
def samplePoint (start «end» : Vector3 F) (heightM : F) (index : Nat) : Vector3 F :=
  let ratio : F := ofRat (index / 200)
  ⟨start.x + («end».x - start.x) * ratio, start.y + («end».y - start.y) * ratio, heightM⟩

/-- `_segment_intersects_box_xy`. -/
def segmentIntersectsBoxXy (start «end» : Vector3 F) (obstacle : ZoneObstacle F) (heightM : F) :
    Bool :=
  (le obstacle.minimumM.z heightM && le heightM obstacle.maximumM.z) &&
    (List.range 201).any fun index =>
      insideExpandedBox (samplePoint start «end» heightM index) obstacle zero

/-- `_distance`. -/
def distance (first second : Vector3 F) : F :=
  sqrt (pow (first.x - second.x) 2 + pow (first.y - second.y) 2 + pow (first.z - second.z) 2)

/-- `_path_length`. -/
def pathLength (points : List (Vector3 F)) : F :=
  (points.zip points.tail).foldl
    (fun total (previous, point) => total + distance previous point) zero

/-- The two waypoints of a way round at one `y`. -/
def wayRound (cursor target : Vector3 F) (y : F) : Vector3 F × Vector3 F :=
  (⟨cursor.x, y, target.z⟩, ⟨target.x, y, target.z⟩)

def wayRoundLength (cursor target : Vector3 F) (pair : Vector3 F × Vector3 F) : F :=
  pathLength [cursor, pair.1, pair.2, target]

/-- The keys of `min`: the length, and on equal lengths the `y` of the first waypoint. -/
def shorterWay (cursor target : Vector3 F) (first second : Vector3 F × Vector3 F) : Bool :=
  if eq (wayRoundLength cursor target first) (wayRoundLength cursor target second) then
    lt first.1.y second.1.y
  else lt (wayRoundLength cursor target first) (wayRoundLength cursor target second)

/-- What the loop over the obstacles changes. -/
structure Detours (F : Type) where
  waypoints : List (Vector3 F)
  cursor : Vector3 F
  obstacleAware : Bool
  deriving DecidableEq, Repr

/-- `point != waypoints[index - 1]`, negated. -/
def samePoint (first second : Vector3 F) : Bool :=
  eq first.x second.x && eq first.y second.y && eq first.z second.z

/-- The points after one waypoint that differ from the waypoint before them. -/
def compactAfter (previous : Vector3 F) : List (Vector3 F) → List (Vector3 F)
  | [] => []
  | point :: rest =>
    if samePoint point previous then compactAfter point rest
    else point :: compactAfter point rest

def compact : List (Vector3 F) → List (Vector3 F)
  | [] => []
  | point :: rest => point :: compactAfter point rest

structure ZoneTaskPlanner (F : Type) [PyMath F] where
  cruiseSpeedMS : F
  safetyMarginM : F
  transitEnergyPercentPerM : F
  positive : (le cruiseSpeedMS zero || le safetyMarginM zero) = false

namespace ZoneTaskPlanner

/-- The constructor of `ZoneTaskPlanner`. -/
def make (cruiseSpeedMS : F := ofRat 0.4) (safetyMarginM : F := ofRat 0.2)
    (transitEnergyPercentPerM : F := ofRat 1) : Except (Fault F) (ZoneTaskPlanner F) :=
  if positive : (le cruiseSpeedMS zero || le safetyMarginM zero) = false then
    .ok ⟨cruiseSpeedMS, safetyMarginM, transitEnergyPercentPerM, positive⟩
  else .error (.value "zone planner parameters must be positive")

/-- Where the task is carried out: the centre of its zone, no lower than the flight height. -/
def target (zone : ZoneDefinition F) (flightHeightM : F) : Vector3 F :=
  { zone.geometry.centerM with z := PyFloat.max flightHeightM zone.geometry.centerM.z }

/-- Where the route begins, at the height of the target. -/
def start (zone : ZoneDefinition F) (startM : Vector3 F) (flightHeightM : F) : Vector3 F :=
  { startM with z := (target zone flightHeightM).z }

variable (planner : ZoneTaskPlanner F)

/-- The way round an obstacle, by its lower or by its upper side. -/
def selected (cursor target : Vector3 F) (obstacle : ZoneObstacle F) : Vector3 F × Vector3 F :=
  let lowerY := obstacle.minimumM.y - planner.safetyMarginM
  let upperY := obstacle.maximumM.y + planner.safetyMarginM
  Sorting.leastBy (shorterWay cursor target) (wayRound cursor target lowerY)
    [wayRound cursor target upperY]

/-- The loop's body. -/
def avoid (target : Vector3 F) (detours : Detours F) (obstacle : ZoneObstacle F) : Detours F :=
  if segmentIntersectsBoxXy detours.cursor target obstacle target.z then
    let pair := planner.selected detours.cursor target obstacle
    ⟨detours.waypoints ++ [pair.1, pair.2], pair.2, true⟩
  else detours

/-- The loop over the obstacles, by their ids. -/
def detours (start target : Vector3 F) (obstacles : List (ZoneObstacle F)) : Detours F :=
  (Sorting.sortBy ZoneObstacle.obstacleId obstacles).foldl (planner.avoid target)
    ⟨[start], start, false⟩

def actions (waypoints : List (Vector3 F)) (target : Vector3 F) (holdDurationS : F) :
    Except (Fault F) (List (ZoneAction F)) := do
  let takeoff ← ZoneAction.make ⟨.takeoff, waypoints.head?, ofRat 2⟩
  let moves ← (waypoints.zip waypoints.tail).mapM fun (previous, point) =>
    ZoneAction.make ⟨.moveTo, some point,
      PyFloat.max (ofRat 0.1) (distance previous point / planner.cruiseSpeedMS)⟩
  let hold ← ZoneAction.make ⟨.hold, some target, holdDurationS⟩
  let land ← ZoneAction.make ⟨.land, none, ofRat 2⟩
  return takeoff :: moves ++ [hold, land]

def plan (task : DeploymentTaskDefinition F) (zone : ZoneDefinition F) (startM : Vector3 F)
    (obstacles : List (ZoneObstacle F) := []) (flightHeightM : F := ofRat 0.3) :
    Except (Fault F) (ZoneTaskPlan F) := do
  require (task.zoneId == zone.zoneId)
    (.crazySwarm .identityMismatch "task and zone do not match" .none)
  let target := target zone flightHeightM
  let detours := planner.detours (start zone startM flightHeightM) target obstacles
  let waypoints := compact (detours.waypoints ++ [target])
  require (!waypoints.any fun point => obstacles.any fun obstacle =>
      insideExpandedBox point obstacle zero)
    (.crazySwarm .preflightFailed "planned waypoint is obstructed" .none)
  let pathLengthM := pathLength waypoints
  let transitDuration := pathLengthM / planner.cruiseSpeedMS
  let holdDurationS :=
    PyFloat.max (ofRat 0.1) (task.estimatedDurationS - transitDuration - ofRat 4)
  let actions ← planner.actions waypoints target holdDurationS
  ZoneTaskPlan.make
    { taskId := task.taskId
      zoneId := zone.zoneId
      actions
      waypointsM := waypoints
      obstacleAware := detours.obstacleAware
      pathLengthM
      estimatedDurationS := (actions.map ZoneAction.durationS).foldl (· + ·) zero
      estimatedEnergyPercent := PyFloat.max (ofRat 0.01)
        (task.estimatedEnergyPercent + pathLengthM * planner.transitEnergyPercentPerM) }

/-- What a plan that is returned has been checked for. -/
theorem plan_eq_ok {planner : ZoneTaskPlanner F} {task : DeploymentTaskDefinition F}
    {zone : ZoneDefinition F} {startM : Vector3 F} {obstacles : List (ZoneObstacle F)}
    {flightHeightM : F} {plan : ZoneTaskPlan F}
    (planned : planner.plan task zone startM obstacles flightHeightM = .ok plan) :
    task.zoneId = zone.zoneId ∧
      plan.waypointsM = compact ((planner.detours (start zone startM flightHeightM)
        (target zone flightHeightM) obstacles).waypoints ++ [target zone flightHeightM]) ∧
      ∀ point ∈ plan.waypointsM, ∀ obstacle ∈ obstacles,
        insideExpandedBox point obstacle zero = false := by
  simp only [ZoneTaskPlanner.plan, bind_eq_ok, require_eq_ok, ZoneTaskPlan.make,
    validated_eq_ok] at planned
  obtain ⟨_, matching, _, unobstructed, actions, _, _, rfl⟩ := planned
  refine ⟨by simpa using matching, rfl, ?_⟩
  intro point member obstacle among
  simp only [Bool.not_eq_true', List.any_eq_false, Bool.not_eq_true] at unobstructed
  exact unobstructed point member obstacle among

end ZoneTaskPlanner

end ZonePlanning
end CrazySwarm
