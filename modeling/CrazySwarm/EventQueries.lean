import CrazySwarm.Models
import CrazySwarm.Lib.Limits
import CrazySwarm.Lib.Sorting
import CrazySwarm.TelemetryBus
import CrazySwarm.Vehicles

/-! Queries of the recorded events. The database filters by the columns, orders and limits; the sensor
is looked for in what it returned. -/
namespace CrazySwarm
open PyFloat Limits

namespace EvidenceKind

def value : EvidenceKind → String
  | telemetry => "telemetry"
  | command => "command"
  | acknowledgement => "acknowledgement"
  | state => "state"
  | fault => "fault"
  | operatorAction => "operator_action"
  | missionStarted => "mission_started"
  | missionEvent => "mission_event"
  | missionResult => "mission_result"

theorem value_inj {first second : EvidenceKind} : first.value = second.value ↔ first = second := by
  cases first <;> cases second <;> simp [value]

end EvidenceKind

inductive StoredPayload (F : Type) where
  | telemetry (telemetry : TelemetryEnvelope F)
  /-- A payload of another type. -/
  | other
  deriving DecidableEq, Repr

/-- An event with its time at the source. -/
structure StoredEvent (F : Type) extends EvidenceEvent F (StoredPayload F) where
  sourceTimestampS : F
  deriving DecidableEq, Repr

/-- A row of the table `events`; `T` is the type of the texts that are stored. -/
structure EventRow (F T : Type) where
  runId : String
  sequence : Nat
  vehicleId : String
  kind : String
  sourceTimestampS : F
  eventJson : T
  sha256 : T

/-- `model_dump_json`, `model_validate_json` and `hashlib.sha256`. -/
structure EventCodec (F T : Type) where
  dumpJson : StoredEvent F → T
  validateJson : T → Option (StoredEvent F)
  sha256 : T → T
  validate_dump : ∀ event, validateJson (dumpJson event) = some event

inductive EventReadError where
  /-- `EvidenceCorruptionError`. -/
  | checksum
  | validation
  deriving DecidableEq, Repr

structure EventFilters (F : Type) where
  runId : Option String := none
  vehicleId : Option String := none
  kind : Option EvidenceKind := none
  sensor : Option String := none
  startS : Option F := none
  endS : Option F := none

namespace EventStore

variable {F T : Type} [PyFloat F]

/-- The row that `append_event` inserts. -/
def appendedRow (codec : EventCodec F T) (event : StoredEvent F) : EventRow F T where
  runId := event.runId
  sequence := event.sequence
  vehicleId := event.vehicleId
  kind := event.kind.value
  sourceTimestampS := event.sourceTimestampS
  eventJson := codec.dumpJson event
  sha256 := codec.sha256 (codec.dumpJson event)

/-- `_decode_event`. -/
def decodeEvent [DecidableEq T] (codec : EventCodec F T) (row : EventRow F T) :
    Except EventReadError (StoredEvent F) :=
  if codec.sha256 row.eventJson ≠ row.sha256 then .error .checksum
  else match codec.validateJson row.eventJson with
    | none => .error .validation
    | some event => .ok event

/-- `_contains_sensor`. -/
def containsSensor (event : StoredEvent F) (sensor : String) : Bool :=
  match event.payload with
  | .other => false
  | .telemetry envelope =>
    let telemetry := envelope.telemetry
    (Dict.lookup sensor [
      ("vehicle", true),
      ("position", true),
      ("battery", true),
      ("link", true),
      ("imu", telemetry.imu),
      ("flow", telemetry.flow),
      ("ranges", telemetry.ranges)]).getD false

/-- The `WHERE` clauses. -/
def whereClauses (filters : EventFilters F) (row : EventRow F T) : Bool :=
  filters.runId.all (row.runId = ·) && filters.vehicleId.all (row.vehicleId = ·) &&
    filters.kind.all (row.kind = ·.value) && filters.startS.all (le · row.sourceTimestampS) &&
    filters.endS.all (le row.sourceTimestampS ·)

/-- `query_events`, of the rows in the order in which the database visits them. -/
def queryEvents [DecidableEq T] (codec : EventCodec F T) (rows : List (EventRow F T))
    (filters : EventFilters F) (limit : Option Int := some 10000) :
    Except EventReadError (List (StoredEvent F)) := do
  let fetched := limited limit
    (Sorting.sortBy (·.sequence) (rows.filter (whereClauses filters)))
  let events ← fetched.mapM (decodeEvent codec)
  match filters.sensor with
  | none => return events
  | some sensor => return events.filter (containsSensor · sensor)

section Statement

/-- The event satisfies the filters other than the sensor's. -/
def Selected (filters : EventFilters F) (event : StoredEvent F) : Prop :=
  (∀ runId ∈ filters.runId, event.runId = runId) ∧
  (∀ vehicleId ∈ filters.vehicleId, event.vehicleId = vehicleId) ∧
  (∀ kind ∈ filters.kind, event.kind = kind) ∧
  (∀ startS ∈ filters.startS, le startS event.sourceTimestampS = true) ∧
  ∀ endS ∈ filters.endS, le event.sourceTimestampS endS = true

instance (filters : EventFilters F) : DecidablePred (Selected filters) := fun _ =>
  inferInstanceAs (Decidable (_ ∧ _ ∧ _ ∧ _ ∧ _))

def HasSensor (filters : EventFilters F) (event : StoredEvent F) : Prop :=
  ∀ sensor ∈ filters.sensor, containsSensor event sensor = true

instance (filters : EventFilters F) : DecidablePred (HasSensor filters) := fun _ =>
  inferInstanceAs (Decidable (∀ sensor ∈ filters.sensor, _))

/-- The first ones, in the order of their sequence, of the events that satisfy all filters. Events of
one sequence number may come in any order. -/
def FirstMatching (events : List (StoredEvent F)) (filters : EventFilters F) (limit : Option Int)
    (result : List (StoredEvent F)) : Prop :=
  ∃ ordered : List (StoredEvent F),
    ordered.Perm (events.filter fun event => Selected filters event ∧ HasSensor filters event) ∧
    ordered.Pairwise (fun first second => first.sequence ≤ second.sequence) ∧
    result = limited limit ordered

/-- The events that satisfy the filters other than the sensor's, as the database orders them. -/
def ordered (events : List (StoredEvent F)) (filters : EventFilters F) : List (StoredEvent F) :=
  Sorting.sortBy (·.sequence) (events.filter (Selected filters))

end Statement

section Rows

variable [DecidableEq T] (codec : EventCodec F T) {events : List (StoredEvent F)}
  {filters : EventFilters F}

omit [PyFloat F] in
@[simp] theorem decodeEvent_appendedRow (event : StoredEvent F) :
    decodeEvent codec (appendedRow codec event) = .ok event := by
  simp [decodeEvent, appendedRow, codec.validate_dump]

omit [PyFloat F] in
theorem mapM_decodeEvent (events : List (StoredEvent F)) :
    (events.map (appendedRow codec)).mapM (decodeEvent codec) = .ok events := by
  induction events with
  | nil => rfl
  | cons event rest ih =>
    rw [List.map_cons, List.mapM_cons, decodeEvent_appendedRow, ih]
    rfl

omit [DecidableEq T] in
theorem whereClauses_appendedRow (event : StoredEvent F) :
    whereClauses filters (appendedRow codec event) = decide (Selected filters event) := by
  rw [Bool.eq_iff_iff, decide_eq_true_iff]
  simp only [whereClauses, Bool.and_eq_true, and_assoc, Option.all_eq_true, decide_eq_true_eq]
  simp only [appendedRow, EvidenceKind.value_inj, Selected, Option.mem_def]

/-- The rows that are fetched are those of the first selected events. -/
theorem queryEvents_eq (limit : Option Int) :
    queryEvents codec (events.map (appendedRow codec)) filters limit =
      .ok ((limited limit (ordered events filters)).filter (HasSensor filters)) := by
  have sorted : Sorting.sortBy (·.sequence)
      ((events.map (appendedRow codec)).filter (whereClauses filters)) =
        (ordered events filters).map (appendedRow codec) := by
    have selected : (events.map (appendedRow codec)).filter (whereClauses filters) =
        (events.filter (Selected filters)).map (appendedRow codec) := by
      rw [List.filter_map]
      exact congrArg (List.map _)
        (List.filter_congr fun event _ => whereClauses_appendedRow codec event)
    rw [selected, ordered]
    exact Sorting.sortBy_map (fun row : EventRow F T => row.sequence) _ _
  rw [queryEvents, sorted, limited_map, mapM_decodeEvent]
  cases sensor : filters.sensor with
  | none =>
    refine congrArg Except.ok (List.filter_eq_self.mpr fun event _ => ?_).symm
    simp [HasSensor, sensor]
  | some name =>
    refine congrArg Except.ok (List.filter_congr fun event _ => ?_)
    simp [HasSensor, sensor]

end Rows

section Results

variable {events : List (StoredEvent F)} {filters : EventFilters F}

theorem firstMatching_iff (limit : Option Int) :
    FirstMatching events filters limit
        ((limited limit (ordered events filters)).filter (HasSensor filters)) ↔
      (∀ event ∈ limited limit (ordered events filters), HasSensor filters event) ∨
        ∀ event ∈ beyond limit (ordered events filters), ¬HasSensor filters event := by
  have perm : ((ordered events filters).filter (HasSensor filters)).Perm
      (events.filter fun event => Selected filters event ∧ HasSensor filters event) := by
    have sorted := (Sorting.sortBy_perm (·.sequence) (events.filter (Selected filters))).filter
      fun event => decide (HasSensor filters event)
    rw [List.filter_filter] at sorted
    refine sorted.trans (.of_eq (List.filter_congr fun event _ => ?_))
    rw [Bool.decide_and, Bool.and_comm]
  have count := countP_limited_iff limit (fun event => decide (HasSensor filters event))
    (ordered events filters)
  simp only [decide_eq_true_eq] at count
  rw [← count, List.countP_eq_length_filter]
  constructor
  · rintro ⟨others, permOthers, _, same⟩
    have lengths := (permOthers.trans perm.symm).length_eq
    rw [same]
    rcases limited_eq (α := StoredEvent F) limit with all | ⟨first, taken⟩
    · rw [all, all, lengths]
    · rw [taken, taken, List.length_take, List.length_take, lengths]
  · intro same
    have sorted := Sorting.sortBy_pairwise (fun event : StoredEvent F => event.sequence)
      (events.filter (Selected filters))
    exact ⟨(ordered events filters).filter (HasSensor filters), perm, sorted.filter _,
      filter_limited limit same⟩

/-- A query returns the first matching events exactly if every event that the limit left has the
sensor, or none has that the limit cut off. -/
theorem queryEvents_firstMatching_iff [DecidableEq T] (codec : EventCodec F T)
    (events : List (StoredEvent F)) (filters : EventFilters F) (limit : Option Int) :
    (∃ result, queryEvents codec (events.map (appendedRow codec)) filters limit = .ok result ∧
        FirstMatching events filters limit result) ↔
      (∀ event ∈ limited limit (ordered events filters), HasSensor filters event) ∨
        ∀ event ∈ beyond limit (ordered events filters), ¬HasSensor filters event := by
  rw [← firstMatching_iff limit, queryEvents_eq]
  constructor
  · rintro ⟨result, returned, first⟩
    cases returned
    exact first
  · intro first
    exact ⟨_, rfl, first⟩

def plainCodec : EventCodec ℚ (Option (StoredEvent ℚ)) where
  dumpJson := some
  validateJson text := text
  sha256 text := text
  validate_dump _ := rfl

def recorded (sequence : Nat) (kind : EvidenceKind) (payload : StoredPayload ℚ) : StoredEvent ℚ where
  eventId := ""
  sequence := sequence
  kind := kind
  vehicleId := "cf-1"
  runId := "run-1"
  receivedTimestampS := 0
  payload := payload
  sourceTimestampS := 0

/-- A command and then a sample of the inertial sensor. -/
def commandThenImu : List (StoredEvent ℚ) := [
  recorded 0 .command .other,
  recorded 1 .telemetry (.telemetry {
    vehicleId := "cf-1", sequence := 0, sourceTimestampS := 0,
    telemetry := { state := .flying, armed := true, flying := true, imu := true } })]

/-- The limit is used up by the command. -/
theorem commandThenImu_not_first :
    ¬∃ result, queryEvents plainCodec (commandThenImu.map (appendedRow plainCodec))
        { sensor := some "imu" } (some 1) = .ok result ∧
      FirstMatching commandThenImu { sensor := some "imu" } (some 1) result := by
  rintro ⟨result, returned, others, perm, _, first⟩
  have none : queryEvents plainCodec (commandThenImu.map (appendedRow plainCodec))
      { sensor := some "imu" } (some 1) = .ok [] := by decide
  rw [none] at returned
  cases returned
  have one : others.length = 1 := perm.length_eq.trans (by decide)
  obtain ⟨event, rfl⟩ := List.length_eq_one_iff.mp one
  cases first

end Results

end EventStore
end CrazySwarm
