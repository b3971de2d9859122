import CrazySwarm.Lib.PyData
import CrazySwarm.Lib.Sorting
import CrazySwarm.Trajectory

/-! What the evaluator of a mission execution reads: recorded events, rows of runs, annotations,
and the untyped context with the plan and the authorities that were accepted. -/
namespace CrazySwarm
open PyFloat PyMath

structure MotorReading (F : Type) where
  requestedThrustN : Option F := none
  appliedPwmPercent : Option F := none
  thrustN : F
  availableThrustN : Option F := none
  saturated : Bool := false
  deriving DecidableEq, Repr

structure RecordedTelemetry (F : Type) where
  state : VehicleState
  positionM : Option (Vector3 F) := none
  groundTruthPositionM : Option (Vector3 F) := none
  velocityMS : Option (Vector3 F) := none
  batteryPercent : Option F := none
  batteryCurrentA : Option F := none
  motors : Option (List (MotorReading F)) := none
  faults : List String := []
  deriving DecidableEq, Repr

/-- `TelemetryEnvelope`, as it is recorded. -/
structure RecordedEnvelope (F : Type) where
  sourceTimestampS : F
  telemetry : RecordedTelemetry F
  deriving DecidableEq, Repr

structure ExecuteTrajectoryCommand (F : Type) [PyMath F] where
  acceptedPlanId : String
  acceptedPlanSha256 : String
  executionProgramSha256 : String
  trajectorySha256 : String
  trajectory : TimeParameterizedTrajectory F

inductive RecordedCommand (F : Type) [PyMath F] where
  | hover (durationS : F)
  | stopAndHold
  | executeTrajectory (command : ExecuteTrajectoryCommand F)
  /-- A command of which the evaluator reads nothing. -/
  | other

inductive EvidencePayload (F : Type) [PyMath F] where
  | telemetry (telemetry : RecordedEnvelope F)
  | command (commandId : String) (payload : RecordedCommand F)
  | acknowledgement (commandId : String)
  | fault (code : String)
  | missionResult (executionProgramSha256 : Option String) (goalCaptures : List (PyMapping F))
  | other

/-- An event of the archive; the time of its recording is in microseconds. -/
structure RecordedEvent (F : Type) [PyMath F] where
  eventId : String
  sequence : Nat
  vehicleId : String
  runId : String
  recordedAtUtc : Int
  payload : EvidencePayload F

/-- What `json.loads` makes of a text of a run: there is none, it cannot be read, or it is data. -/
inductive RunText (F : Type) where
  | absent
  | malformed
  | data (value : PyData F)

/-- The columns that are read of a run. -/
structure EvaluatedRun (F : Type) where
  runId : String
  vehicleId : String
  status : Option String := none
  result : RunText F := .absent
  snapshot : RunText F := .absent

namespace EvidencePayload

variable {F : Type} [PyMath F]

def isTelemetry : EvidencePayload F → Bool
  | telemetry _ => true
  | _ => false

def isCommand : EvidencePayload F → Bool
  | command .. => true
  | _ => false

def isAcknowledgement : EvidencePayload F → Bool
  | acknowledgement _ => true
  | _ => false

end EvidencePayload

namespace RunText

variable {F : Type}

def isPresent : RunText F → Bool
  | absent => false
  | _ => true

def or (first second : RunText F) : RunText F := if first.isPresent then first else second

end RunText

namespace Evaluation

open PyData (field sameNames)

variable {F : Type}

/-- The first characters of a text. -/
def textPrefix (text : String) (count : Nat) : String := String.ofList (text.toList.take count)

def mappings (items : List (PyData F)) : List (PyMapping F) :=
  (items.filter (·.isMapping)).map (·.asMapping)

section Vectors
variable [PyBuiltins F]

/-- A float field of a contract model, out of untyped data. -/
def readFloat : PyData F → Option F
  | .text value => PyBuiltins.parseFloat value
  | value => value.asNumber

def readCoordinate (items : PyMapping F) (key : String) : Option F :=
  match Dict.lookup key items with
  | none => some zero
  | some value => readFloat value

/-- `_vector`. -/
def vector : PyData F → Option (Vector3 F)
  | .mapping items =>
    if (items.map (·.1)).all (["x", "y", "z"].contains ·) then do
      return ⟨← readCoordinate items "x", ← readCoordinate items "y", ← readCoordinate items "z"⟩
    else none
  | _ => none

/-- `model_dump` of a vector. -/
def dumpVector (value : Vector3 F) : PyData F :=
  .mapping [("x", .float value.x), ("y", .float value.y), ("z", .float value.z)]

/-- `_region_center`. -/
def regionCenter (region : PyMapping F) : Option (Vector3 F) := do
  let minimum ← vector (region.get "minimum_m")
  let maximum ← vector (region.get "maximum_m")
  return ⟨(minimum.x + maximum.x) / ofRat 2, (minimum.y + maximum.y) / ofRat 2,
    (minimum.z + maximum.z) / ofRat 2⟩

end Vectors

section Contexts
variable [PyBuiltins F] (canonicalSha256 : PyData F → Except DataError String)

/-- `str(items.get(key, ""))`. -/
def textField (items : PyMapping F) (key : String) : String := (items.getD key (.text "")).str

/-- The mappings of a list by the text of one of their fields; a later one replaces an earlier. -/
def byField (items : List (PyMapping F)) (key : String) : Dict String (PyMapping F) :=
  .ofList (items.map fun item => (textField item key, item))

def campaignRole (schedule : PyMapping F) (scheduleRoles drones : Dict String (PyMapping F))
    (trajectory : PyMapping F) : Option (PyData F) :=
  let roleId := textField trajectory "role_id"
  let drone := (drones.get? roleId).getD []
  match regionCenter (field drone "landing_region") with
  | none => none
  | some landing =>
    if roleId = "" then none
    else some (.mapping
      [("role_id", .text roleId),
       ("vehicle_id", .text (trajectory.getD "vehicle_id" (.text roleId)).str),
       ("waypoints", .tuple [.mapping [("end_m", dumpVector landing)]]),
       ("planned_duration_s", ((scheduleRoles.get? roleId).getD []).getD "source_schedule_duration_s"
          (schedule.get "source_schedule_duration_s"))])

/-- `_campaign_evaluation_plan`. -/
def campaignEvaluationPlan (context : PyMapping F) : Except DataError (PyMapping F) := do
  let campaignPlan := field context "campaign_plan"
  let schedule := field context "campaign_schedule"
  let trajectorySet := field context "campaign_trajectories"
  let case := field context "campaign_case"
  if campaignPlan.isEmpty || schedule.isEmpty || trajectorySet.isEmpty || case.isEmpty then
    return []
  let planSha256 := textField campaignPlan "plan_sha256"
  if planSha256.length ≠ 64 then return []
  let scheduleRoles := byField (mappings (← (schedule.getD "roles" (.tuple [])).iterate)) "role_id"
  let drones := byField (mappings (← (case.getD "drones" (.tuple [])).iterate)) "role_id"
  let trajectories := mappings (← (trajectorySet.getD "trajectories" (.tuple [])).iterate)
  let roles := trajectories.filterMap (campaignRole schedule scheduleRoles drones)
  let constraints := field case "hard_constraints"
  let volume := field constraints "flight_volume"
  let trajectorySha256s ← trajectories.mapM fun trajectory => canonicalSha256 (.mapping trajectory)
  let profileAudits ← (trajectorySet.getD "profile_audits" (.tuple [])).iterate
  return [
    ("plan_id", .text ("campaign-plan-" ++ textPrefix planSha256 20)),
    ("plan_sha256", .text planSha256),
    ("roles", .tuple roles),
    ("execution_programs", .tuple []),
    ("campaign_trajectory_sha256s", .tuple (trajectorySha256s.map .text)),
    ("profile_submission_id", trajectorySet.get "submission_id"),
    ("profile_audits", .tuple profileAudits),
    ("safety", .mapping [
      ("flight_volume_minimum_m", volume.get "minimum_m"),
      ("flight_volume_maximum_m", volume.get "maximum_m"),
      ("warning_separation_m", constraints.get "warning_separation_m"),
      ("critical_separation_m", constraints.get "critical_separation_m")])]

structure ReplacementAuthority where
  planId : String
  planSha256 : String
  trajectorySha256 : String
  authoritySha256 : String
  deriving DecidableEq, Repr

def recordAuthorities (record : PyMapping F) : List ReplacementAuthority :=
  let planSha256 := textField record "plan_sha256"
  let trajectories := field record "replacement_trajectory_sha256_by_role"
  let authorities := field record "replacement_authority_sha256_by_role"
  let sameRoles := trajectories.keys.all authorities.keys.contains &&
    authorities.keys.all trajectories.keys.contains
  if textField record "disposition" ≠ "ACCEPTED" || planSha256.length ≠ 64 || !sameRoles then []
  else
    (Sorting.sortBy id trajectories.keys).filterMap fun roleId =>
      let trajectory := (trajectories.get roleId).str
      let authority := (authorities.get roleId).str
      if trajectory.length = 64 ∧ authority.length = 64 then
        some ⟨"replan-" ++ textPrefix planSha256 20, planSha256, trajectory, authority⟩
      else none

/-- `_replacement_command_authorities`. -/
def replacementCommandAuthorities (context : PyMapping F) :
    Except DataError (List ReplacementAuthority) := do
  let trace := field context "campaign_execution_head_trace"
  let records ← (trace.getD "records" (.tuple [])).iterate
  return (mappings records).flatMap recordAuthorities

def environmentKinds : List String :=
  ["OBSTACLE_ADDED", "OBSTACLE_MOVED", "OBSTACLE_REMOVED", "PASSAGE_CLOSED", "PASSAGE_OPENED"]

def recordProvesReplacement (expectedRoles : List String) (record : PyMapping F) :
    Except DataError Bool := do
  if (record.get "execution_disposition").asText ≠ some "DISPATCHED" then return false
  let requiredHashes :=
    ["proposal_sha256", "decision_sha256", "plan_sha256", "replacement_world_sha256"]
  if requiredHashes.any fun key => (textField record key).length ≠ 64 then return false
  let trajectories := field record "replacement_trajectory_sha256_by_role"
  let authorities := field record "replacement_authority_sha256_by_role"
  let ofRoles (names : List String) :=
    names.all expectedRoles.contains && expectedRoles.all names.contains
  if !ofRoles trajectories.keys || !ofRoles authorities.keys then return false
  let some preparedRoles := (record.get "replacement_prepared_role_ids").asSequence | return false
  let some dispatchedRoles :=
    (record.get "replacement_dispatch_started_role_ids").asSequence | return false
  if !(← sameNames preparedRoles expectedRoles) then return false
  if !(← sameNames dispatchedRoles expectedRoles) then return false
  if (trajectories ++ authorities).any fun item => item.2.str.length ≠ 64 then return false
  let reaction := field record "reaction_horizon"
  return !reaction.isEmpty && (record.get "planning_latency_s").asNumber.isSome

/-- `_dynamic_replanning_evidence_complete`. -/
def dynamicReplanningEvidenceComplete (context : PyMapping F) : Except DataError Bool := do
  let case := field context "campaign_case"
  let semantics := field case "semantics"
  let events := mappings (← (semantics.getD "scenario_events" (.tuple [])).iterate)
  let changes := events.filter fun item =>
    environmentKinds.contains (textField item "kind") &&
      textField item "expected_disposition" = "ACCEPTED_UPDATE"
  let expectedEventIds := (changes.map (textField · "event_id")).dedup.filter (· ≠ "")
  if expectedEventIds.isEmpty then return true
  let drones := mappings (← (case.getD "drones" (.tuple [])).iterate)
  let expectedRoles := (drones.map (textField · "role_id")).dedup.filter (· ≠ "")
  let trace := field context "campaign_execution_head_trace"
  if !(trace.get "enabled").isTrue then return false
  let records := mappings (← (trace.getD "records" (.tuple [])).iterate)
  let acceptedRecords := byField (records.filter (textField · "disposition" = "ACCEPTED")) "event_id"
  if !expectedEventIds.all acceptedRecords.keys.contains then return false
  expectedEventIds.allM fun eventId =>
    recordProvesReplacement expectedRoles ((acceptedRecords.get? eventId).getD [])

end Contexts

section Annotations

structure OperatorAnnotation where
  annotationId : String
  authorId : String
  note : String
  createdAtUtc : String
  deriving DecidableEq, Repr

/-- A text field of a contract model, or its name if there is no such text. -/
def readText (items : PyMapping F) (key : String) (valid : String → Bool) : Except String String :=
  match Dict.lookup key items with
  | some (.text value) => if valid value then .ok value else .error key
  | _ => .error key

/-- `OperatorAnnotation.model_validate`. -/
def readAnnotation (item : PyMapping F) : Except DataError OperatorAnnotation :=
  let fields := ["annotation_id", "author_id", "note", "created_at_utc"]
  match readText item "annotation_id" isIdentifier, readText item "author_id" isIdentifier,
      readText item "note" (fun note => 1 ≤ note.length && note.length ≤ 2000),
      readText item "created_at_utc" (fun _ => true), item.keys.all fields.contains with
  | .ok annotationId, .ok authorId, .ok note, .ok createdAtUtc, true =>
    .ok { annotationId, authorId, note, createdAtUtc }
  | annotationId, authorId, note, createdAtUtc, _ =>
    .error (.validation "OperatorAnnotation"
      ([annotationId, authorId, note, createdAtUtc].filterMap (fun
        | .ok _ => none
        | .error key => some key) ++ item.keys.filter fun key => !fields.contains key))

/-- The key by which annotations are sorted. -/
def annotationOrder [PyBuiltins F] (item : PyMapping F) : String ×ₗ String :=
  toLex (textField item "created_at_utc", (item.get "annotation_id").str)

def parsedAnnotations [PyBuiltins F] (annotations : List (PyMapping F)) :
    Except DataError (List OperatorAnnotation) :=
  if annotations.all fun item => item.keys.contains "annotation_id" then
    (Sorting.sortBy annotationOrder annotations).mapM readAnnotation
  else .error (.key "annotation_id")

end Annotations

end Evaluation

end CrazySwarm
