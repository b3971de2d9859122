import CrazySwarm.Lib.Dict
import CrazySwarm.Lib.Sorting
import Mathlib.Data.String.Basic

/-! The run-file archive of the evidence store: a folder for each mission execution, found by its
manifest or named after the mission, and the retention of the latest missions. -/
namespace CrazySwarm

/-- A row of the table `runs`. -/
structure RunRow where
  runId : String
  missionExecutionId : String
  missionId : String
  missionName : Option String := none
  vehicleId : String
  startedAtUtc : String
  completedAtUtc : Option String := none
  status : Option String := none
  deriving DecidableEq, Repr

namespace RunRow

/-- `row["status"] or "INCOMPLETE"`. -/
def statusText (row : RunRow) : String :=
  match row.status with
  | none | some "" => "INCOMPLETE"
  | some status => status

/-- `row.get("mission_name") or row["mission_id"]`. -/
def missionText (row : RunRow) : String :=
  match row.missionName with
  | none | some "" => row.missionId
  | some name => name

/-- `ORDER BY started_at_utc, vehicle_id, run_id`. -/
def order (row : RunRow) : String ×ₗ String ×ₗ String :=
  toLex (row.startedAtUtc, toLex (row.vehicleId, row.runId))

end RunRow

/-- `re.sub(r"[^...]+", replacement, value)` for the characters that are kept. -/
def replaceRuns (kept : Char → Bool) (replacement : Char) : List Char → List Char
  | [] => []
  | c :: rest =>
    if kept c then c :: replaceRuns kept replacement rest
    else match rest with
      | [] => [replacement]
      | next :: _ =>
        if kept next then replacement :: replaceRuns kept replacement rest
        else replaceRuns kept replacement rest

def stripChars (stripped : Char → Bool) (text : List Char) : List Char :=
  ((text.dropWhile stripped).reverse.dropWhile stripped).reverse

/-- `_safe_component`. -/
def safeComponent (value : String) (maximum : Nat) : String :=
  let cleaned := stripChars (· ∈ ['.', '_', '-'])
    (replaceRuns (fun c => c.isAlphanum || c ∈ ['.', '_', '-']) '_' value.toList)
  String.ofList ((if cleaned.isEmpty then "unnamed".toList else cleaned).take maximum)

/-- `_filename_segment`, of a text that `lower` has been applied to. -/
def filenameSegment (lowered : String) : String :=
  let normalized := stripChars (· ∈ ['-', '.', '_'])
    (replaceRuns (fun c => c.isLower || c.isDigit || c ∈ ['.', '_', '-']) '-' lowered.toList)
  if normalized.isEmpty then "unknown" else String.ofList normalized

structure ArtifactEntry where
  runIds : List String
  vehicleIds : List String
  filename : Option String := none
  sizeBytes : Option Nat := none
  telemetryRowCount : Nat
  sha256 : Option String := none
  deriving DecidableEq, Repr

/-- What a manifest says of the evaluation or of the bundle. -/
structure ReportEntry where
  filename : String
  sizeBytes : Nat
  sha256 : String
  deriving DecidableEq, Repr

structure Manifest where
  missionExecutionId : Option String
  missionId : String := ""
  missionName : String := ""
  startedAtUtc : String := ""
  completedAtUtc : Option String := none
  status : String := ""
  vehicleIds : List String := []
  telemetryRowCount : Nat := 0
  artifact : Option ArtifactEntry := none
  evaluation : Option ReportEntry := none
  bundle : Option ReportEntry := none
  deriving DecidableEq, Repr

/-- A folder of the archive: its manifest, as far as one can be read, and its other files. -/
structure RunFileFolder (C : Type) where
  manifest : Option Manifest := none
  files : Dict String C := .empty

inductive ArchiveError where
  | unknownExecution (missionExecutionId : String)
  /-- Evidence that is corrupt, or that cannot be evaluated. -/
  | evidence (text : String)
  deriving DecidableEq, Repr

/-- What is written for a mission out of its rows and evidence, and what the platform gives. -/
structure ArchiveWriters (E X A C : Type) where
  lower : String → String
  /-- `strftime` of a start, in UTC. -/
  utcToken : String → String
  /-- The telemetry CSV and its number of rows. -/
  telemetryCsv : List RunRow → List E → Except ArchiveError (C × Nat)
  /-- The evaluation and the bundle. -/
  reports : String → List RunRow → List E → Option X → List A → Except ArchiveError (C × C)
  isTelemetry : E → Bool
  size : C → Nat
  sha256 : C → String

/-- The tables of the database, the folders, in the order in which they are listed, and the number
of missions that are kept. -/
structure EvidenceStore (E X A C : Type) where
  runs : List RunRow := []
  events : List (String × E) := []
  contexts : List (String × X) := []
  annotations : List (String × A) := []
  folders : Dict String (RunFileFolder C) := .empty
  keepLatestMissions : Nat := 100

/-- `mission_telemetry_csv_filename`. -/
def missionTelemetryCsvFilename (lower : String → String) (mission : RunRow) : String :=
  filenameSegment (lower mission.missionText) ++ "_" ++
    filenameSegment (lower mission.missionExecutionId) ++ "_telemetry-v1.csv"

/-- `_mission_status`. -/
def missionStatus (statuses : List String) : String :=
  if statuses.contains "INCOMPLETE" then "INCOMPLETE"
  else if statuses.contains "FAILED" then "FAILED"
  else if statuses.contains "ABORTED" then "ABORTED"
  else "SUCCEEDED"

/-- `sorted({...})` of texts. -/
def sortedSet (texts : List String) : List String := Sorting.sortBy id texts.dedup

namespace EvidenceStore

variable {E X A C : Type}

/-- `_mission_rows`. -/
def missionRows (store : EvidenceStore E X A C) (missionExecutionId : String) : List RunRow :=
  Sorting.sortBy RunRow.order (store.runs.filter (·.missionExecutionId = missionExecutionId))

/-- `_mission_events`, run after run. -/
def missionEvents (store : EvidenceStore E X A C) (rows : List RunRow) : List E :=
  rows.flatMap fun row => (store.events.filter (·.1 = row.runId)).map (·.2)

def telemetryRowCount (writers : ArchiveWriters E X A C) (store : EvidenceStore E X A C)
    (rows : List RunRow) : Nat :=
  (store.missionEvents rows).countP writers.isTelemetry

def manifestOrder (item : String × Manifest) : String ×ₗ String :=
  toLex (item.2.startedAtUtc, item.2.missionExecutionId.getD "")

/-- `_read_run_file_manifests_locked`: the folders with a manifest that names a mission execution,
latest first. -/
def manifests (store : EvidenceStore E X A C) : List (String × Manifest) :=
  let listed := store.folders.items.filterMap fun (name, folder) =>
    (folder.manifest.filter (·.missionExecutionId.isSome)).map (name, ·)
  (Sorting.sortBy manifestOrder listed.reverse).reverse

def changeFolder (store : EvidenceStore E X A C) (name : String)
    (change : RunFileFolder C → RunFileFolder C) : EvidenceStore E X A C :=
  { store with folders :=
    match store.folders.get? name with
    | none => store.folders
    | some folder => store.folders.insert name (change folder) }

/-- `mkdir(exist_ok=True)`. -/
def makeFolder (store : EvidenceStore E X A C) (name : String) : EvidenceStore E X A C :=
  if (store.folders.get? name).isSome then store
  else { store with folders := store.folders.insert name {} }

/-- `os.replace` of a folder, to a name that is free. -/
def renameFolder (store : EvidenceStore E X A C) (current expected : String) :
    EvidenceStore E X A C :=
  match store.folders.get? current with
  | none => store
  | some folder =>
    { store with folders := (store.folders.erase current).insert expected folder }

def removeFolder (store : EvidenceStore E X A C) (name : String) : EvidenceStore E X A C :=
  { store with folders := store.folders.erase name }

/-- `_atomic_write`. -/
def writeFile (store : EvidenceStore E X A C) (name filename : String) (content : C) :
    EvidenceStore E X A C :=
  store.changeFolder name fun folder => { folder with files := folder.files.insert filename content }

def writeManifest (store : EvidenceStore E X A C) (name : String) (manifest : Manifest) :
    EvidenceStore E X A C :=
  store.changeFolder name ({ · with manifest := some manifest })

/-- `_remove_superseded_csvs_locked`. -/
def removeSupersededCsvs (store : EvidenceStore E X A C) (name : String) (keep : Option String) :
    EvidenceStore E X A C :=
  store.changeFolder name fun folder => { folder with
    files := (folder.files.keys.filter fun filename =>
      some filename ≠ keep && filename.endsWith "_telemetry-v1.csv").foldl Dict.erase folder.files }

/-- The folder that `_mission_folder_locked` expects. -/
def expectedFolder (writers : ArchiveWriters E X A C) (missionExecutionId : String)
    (first : RunRow) : String :=
  writers.utcToken first.startedAtUtc ++ "_" ++ safeComponent first.missionText 64 ++ "_" ++
    safeComponent missionExecutionId 96

def currentFolder (store : EvidenceStore E X A C) (missionExecutionId : String) : Option String :=
  (store.manifests.find? (·.2.missionExecutionId = some missionExecutionId)).map (·.1)

/-- `_mission_folder_locked`. -/
def missionFolder (writers : ArchiveWriters E X A C) (store : EvidenceStore E X A C)
    (missionExecutionId : String) (first : RunRow) : EvidenceStore E X A C × String :=
  let expected := expectedFolder writers missionExecutionId first
  match store.currentFolder missionExecutionId with
  | none => (store, expected)
  | some current =>
    if current ≠ expected ∧ store.folders.get? expected = none then
      (store.renameFolder current expected, expected)
    else (store, current)

/-- The telemetry CSV of a mission that is complete, written unless the folder has it already, with
the entry of the manifest. -/
def writeArtifact (writers : ArchiveWriters E X A C) (store : EvidenceStore E X A C) (name : String)
    (previous : Option ArtifactEntry) (first : RunRow) (rest : List RunRow) :
    Except ArchiveError (EvidenceStore E X A C × ArtifactEntry) := do
  let rows := first :: rest
  let (content, rowCount) ← writers.telemetryCsv rows (store.missionEvents rows)
  let filename := missionTelemetryCsvFilename writers.lower
    (Sorting.leastBy (·.startedAtUtc < ·.startedAtUtc) first rest)
  let entry : ArtifactEntry :=
    { runIds := rows.map (·.runId)
      vehicleIds := sortedSet (rows.map (·.vehicleId))
      filename
      sizeBytes := writers.size content
      telemetryRowCount := rowCount
      sha256 := writers.sha256 content }
  let present := (store.folders.get? name).bind (·.files.get? filename)
  let reusable := match previous, present with
    | some old, some file => old.filename = some filename && old.telemetryRowCount = rowCount &&
        some (writers.size file) = old.sizeBytes && old.sha256 = some (writers.sha256 content)
    | _, _ => false
  if reusable then
    return (store, { entry with sizeBytes := previous.bind (·.sizeBytes) })
  return (store.writeFile name filename content, entry)

def reportEntry (writers : ArchiveWriters E X A C) (filename : String) (content : C) : ReportEntry :=
  ⟨filename, writers.size content, writers.sha256 content⟩

def missionManifest (missionExecutionId : String) (first : RunRow) (rest : List RunRow)
    (artifact : ArtifactEntry) (telemetryRowCount : Nat) (evaluation bundle : ReportEntry) :
    Manifest :=
  let rows := first :: rest
  { missionExecutionId := some missionExecutionId
    missionId := first.missionId
    missionName := first.missionText
    startedAtUtc := (rest.map (·.startedAtUtc)).foldl min first.startedAtUtc
    completedAtUtc :=
      if rows.all fun row => row.completedAtUtc.any (· ≠ "") then
        (rows.filterMap (·.completedAtUtc)).max?
      else none
    status := missionStatus (rows.map (·.statusText))
    vehicleIds := sortedSet (rows.map (·.vehicleId))
    telemetryRowCount
    artifact := some artifact
    evaluation := some evaluation
    bundle := some bundle }

/-- What `_materialize_mission` writes into the folder of the mission. -/
def fillFolder (writers : ArchiveWriters E X A C) (store : EvidenceStore E X A C)
    (missionExecutionId name : String) (first : RunRow) (rest : List RunRow) :
    EvidenceStore E X A C × Except ArchiveError Manifest :=
  let rows := first :: rest
  let store := store.makeFolder name
  let previous := ((store.folders.get? name).bind (·.manifest)).bind (·.artifact)
  let count := store.telemetryRowCount writers rows
  let blank : ArtifactEntry :=
    { runIds := rows.map (·.runId)
      vehicleIds := sortedSet (rows.map (·.vehicleId))
      telemetryRowCount := count }
  let written :=
    if (rows.map (·.statusText)).contains "INCOMPLETE" then .ok (store, blank)
    else store.writeArtifact writers name previous first rest
  match written with
  | .error error => (store, .error error)
  | .ok (store, artifact) =>
    match writers.reports missionExecutionId rows (store.missionEvents rows)
        ((store.contexts.find? (·.1 = missionExecutionId)).map (·.2))
        ((store.annotations.filter (·.1 = missionExecutionId)).map (·.2)) with
    | .error error => (store, .error error)
    | .ok (evaluation, bundle) =>
      let stem := safeComponent first.missionText 64 ++ "_" ++ safeComponent missionExecutionId 96
      let evaluationFilename := stem ++ "_evaluation-v1.json"
      let bundleFilename := stem ++ "_execution-bundle-v1.json"
      let store := store.writeFile name evaluationFilename evaluation
      let store := store.writeFile name bundleFilename bundle
      let manifest := missionManifest missionExecutionId first rest artifact count
        (reportEntry writers evaluationFilename evaluation)
        (reportEntry writers bundleFilename bundle)
      let store := store.writeManifest name manifest
      (store.removeSupersededCsvs name artifact.filename, .ok manifest)

/-- `_materialize_mission` before it prunes. -/
def fileMission (writers : ArchiveWriters E X A C) (store : EvidenceStore E X A C)
    (missionExecutionId : String) : EvidenceStore E X A C × Except ArchiveError Manifest :=
  match store.missionRows missionExecutionId with
  | [] => (store, .error (.unknownExecution missionExecutionId))
  | first :: rest =>
    let (store, name) := store.missionFolder writers missionExecutionId first
    store.fillFolder writers missionExecutionId name first rest

/-- A run of the mission execution of the manifest is in the database. -/
def isRetained (store : EvidenceStore E X A C) (manifest : Manifest) : Bool :=
  store.runs.any fun row => manifest.missionExecutionId = some row.missionExecutionId

/-- The manifests of the missions that are completed, latest first. -/
def completed (store : EvidenceStore E X A C) : List (String × Manifest) :=
  store.manifests.filter fun (_, manifest) =>
    store.isRetained manifest && manifest.status ≠ "INCOMPLETE"

/-- `_prune_run_file_folders_locked`. -/
def pruneRunFileFolders (store : EvidenceStore E X A C) : EvidenceStore E X A C :=
  let orphaned := store.manifests.filter fun (_, manifest) => !store.isRetained manifest
  let selected := orphaned ++ store.completed.drop store.keepLatestMissions
  (selected.map (·.1)).foldl removeFolder store

/-- The mission executions without a running run, latest first. -/
def completedExecutions (store : EvidenceStore E X A C) : List String :=
  let executions := (store.runs.map (·.missionExecutionId)).dedup.filter fun execution =>
    store.runs.all fun row => row.missionExecutionId ≠ execution || row.status.isSome
  let started (execution : String) : String :=
    ((store.missionRows execution).head?.map (·.startedAtUtc)).getD ""
  (Sorting.sortBy started executions).reverse

/-- `prune_completed_missions`. -/
def pruneCompletedMissions (store : EvidenceStore E X A C) : EvidenceStore E X A C :=
  let selected := store.completedExecutions.drop store.keepLatestMissions
  let runIds := (store.runs.filter fun row => selected.contains row.missionExecutionId).map (·.runId)
  { store with
    runs := store.runs.filter fun row => !selected.contains row.missionExecutionId
    events := store.events.filter fun event => !runIds.contains event.1
    contexts := store.contexts.filter fun context => !selected.contains context.1
    annotations := store.annotations.filter fun note => !selected.contains note.1 }

/-- `_materialize_mission`. -/
def materializeMission (writers : ArchiveWriters E X A C) (store : EvidenceStore E X A C)
    (missionExecutionId : String) : EvidenceStore E X A C × Except ArchiveError Manifest :=
  match store.fileMission writers missionExecutionId with
  | (store, .error error) => (store, .error error)
  | (store, .ok manifest) =>
    (if manifest.status = "INCOMPLETE" then store
      else store.pruneRunFileFolders.pruneCompletedMissions, .ok manifest)

end EvidenceStore

end CrazySwarm
