import CrazySwarm.FleetDisconnection

/-! Which vehicles the disconnection of a fleet strands. The loop ends at the first vehicle that
cannot be disconnected, so that those after it keep their connection. -/
namespace CrazySwarm
open PyFloat PyMath

variable {F : Type} [PyMath F]

namespace FleetPreparation
open List SafetySupervisor Coroutine

variable (clock : MonotonicClock F) (answers : Answers F) {p q r : FleetPreparation F}
  {vehicleId : String} {ids : List String}

/-- `supervisor.disconnect` raises for the vehicle. -/
def refuses (s : SafetySupervisor F) (vehicleId : String) : Bool :=
  match (supervisorDisconnect clock answers vehicleId s).2 with
  | .ok () => false
  | .error _ => true

/-- The vehicle is connected and cannot be disconnected. -/
def stuck (s : SafetySupervisor F) (vehicleId : String) : Bool :=
  s.stateOf vehicleId != some .disconnected && refuses clock answers s vehicleId

def saysDisconnected (p : FleetPreparation F) (vehicleId : String) : Bool :=
  (p.records.get? vehicleId).any (·.connection == .disconnected)

/-- What discovery leaves: the vehicles are registered under their identity and have a record. -/
structure Prepared (p : FleetPreparation F) : Prop where
  distinct : p.vehicles.Nodup
  declared : ∀ vehicleId ∈ p.vehicles, (p.records.get? vehicleId).isSome
  catalogued : Catalogued p.supervisor

structure Cleaned (before after : FleetPreparation F) : Prop where
  others : ∀ vehicleId ∈ before.vehicles, stuck clock answers before.supervisor vehicleId = false →
    after.supervisor.stateOf vehicleId = some .disconnected ∧ after.saysDisconnected vehicleId = true
  stuck : ∀ vehicleId ∈ before.vehicles, stuck clock answers before.supervisor vehicleId = true →
    after.saysDisconnected vehicleId = false

structure Orderly (p : FleetPreparation F) : Prop where
  before : ∀ first ∈ p.vehicles, ∀ later ∈ p.vehicles, first < later →
    stuck clock answers p.supervisor first = true →
      p.supervisor.stateOf later = some .disconnected ∨ stuck clock answers p.supervisor later = true
  already : ∀ vehicleId ∈ p.vehicles, p.supervisor.stateOf vehicleId = some .disconnected →
    p.saysDisconnected vehicleId = true
  stuck : ∀ vehicleId ∈ p.vehicles, stuck clock answers p.supervisor vehicleId = true →
    p.saysDisconnected vehicleId = false

section Frames

/-- Nothing changes for any but the given vehicles. -/
structure Spared (ids : List String) (p q : FleetPreparation F) : Prop where
  sessions : q.supervisor.sessions = p.supervisor.sessions
  catalogued : Catalogued p.supervisor → Catalogued q.supervisor
  held : Catalogued p.supervisor → ∀ vehicleId ∉ ids,
    q.supervisor.held vehicleId = p.supervisor.held vehicleId
  records : ∀ vehicleId ∉ ids, q.records.get? vehicleId = p.records.get? vehicleId

theorem Spared.refl (p : FleetPreparation F) : Spared ids p p :=
  ⟨rfl, id, fun _ _ _ => rfl, fun _ _ => rfl⟩

theorem Spared.cons (first : Spared [vehicleId] p q) (rest : Spared ids q r) :
    Spared (vehicleId :: ids) p r where
  sessions := rest.sessions.trans first.sessions
  catalogued := rest.catalogued ∘ first.catalogued
  held catalogued other apart := by
    rw [mem_cons, not_or] at apart
    rw [rest.held (first.catalogued catalogued) other apart.2,
      first.held catalogued other (by simpa using apart.1)]
  records other apart := by
    rw [mem_cons, not_or] at apart
    rw [rest.records other apart.2, first.records other (by simpa using apart.1)]

theorem Spared.stateOf (spared : Spared ids p q) (catalogued : Catalogued p.supervisor)
    (apart : vehicleId ∉ ids) : q.supervisor.stateOf vehicleId = p.supervisor.stateOf vehicleId := by
  rw [SafetySupervisor.stateOf, spared.held catalogued vehicleId apart]
  rfl

theorem Spared.saysDisconnected (spared : Spared ids p q) (apart : vehicleId ∉ ids) :
    q.saysDisconnected vehicleId = p.saysDisconnected vehicleId := by
  rw [FleetPreparation.saysDisconnected, spared.records vehicleId apart]
  rfl

variable {clock answers}

variable (clock answers) in
theorem supervisorDisconnect_confined (vehicleId : String) (s : SafetySupervisor F) :
    Confined vehicleId s (supervisorDisconnect clock answers vehicleId s).1 ∧
      ((supervisorDisconnect clock answers vehicleId s).2 = .ok () →
        (supervisorDisconnect clock answers vehicleId s).1.stateOf vehicleId =
          some .disconnected) := by
  obtain ⟨_, ends⟩ := disconnect_confined.answered (answers vehicleId) 0
  exact ends

theorem refuses_eq_false {s : SafetySupervisor F} :
    refuses clock answers s vehicleId = false ↔
      (supervisorDisconnect clock answers vehicleId s).2 = .ok () := by
  unfold refuses
  cases (supervisorDisconnect clock answers vehicleId s).2 <;> simp

/-- A vehicle without a session cannot be disconnected. -/
theorem refuses_of_unheld {s : SafetySupervisor F} (unheld : s.held vehicleId = none) :
    refuses clock answers s vehicleId = true := by
  by_contra passes
  have returned := refuses_eq_false.mp (Bool.eq_false_of_not_eq_true passes)
  obtain ⟨confined, reached⟩ := supervisorDisconnect_confined clock answers vehicleId s
  have state := reached returned
  have still := confined.held_none unheld
  rw [SafetySupervisor.stateOf, still] at state
  cases state

/-- Whether a disconnection raises depends on the session of its vehicle alone. -/
theorem refuses_of_held {s t : SafetySupervisor F} (sessions : t.sessions = s.sessions)
    (held : t.held vehicleId = s.held vehicleId) :
    refuses clock answers t vehicleId = refuses clock answers s vehicleId := by
  cases registered : s.sessions.get? vehicleId with
  | none =>
    have unheld : s.held vehicleId = none := by rw [SafetySupervisor.held, registered]; rfl
    rw [refuses_of_unheld unheld, refuses_of_unheld (held.trans unheld)]
  | some ref =>
    have alike : Alike vehicleId ref t s := by
      refine ⟨by rw [sessions, registered], registered, ?_⟩
      rw [SafetySupervisor.held, SafetySupervisor.held, sessions, registered] at held
      exact congrArg (Option.map seen) held
    have twins : Twins (Alike vehicleId ref) anyway (disconnect clock vehicleId none)
      (disconnect clock vehicleId none) := disconnect_twins
    have agree := (twins (answers vehicleId) 0 t s alike).2.2
    unfold refuses supervisorDisconnect
    revert agree
    dsimp only
    generalize ((disconnect clock vehicleId none).answered (answers vehicleId) 0 t).2.2 = left
    generalize ((disconnect clock vehicleId none).answered (answers vehicleId) 0 s).2.2 = right
    cases left <;> cases right <;> simp [Agree]

variable (clock answers) in
theorem Spared.stuck (spared : Spared ids p q) (catalogued : Catalogued p.supervisor)
    (apart : vehicleId ∉ ids) : FleetPreparation.stuck clock answers q.supervisor vehicleId =
      FleetPreparation.stuck clock answers p.supervisor vehicleId := by
  unfold FleetPreparation.stuck
  rw [spared.stateOf catalogued apart,
    refuses_of_held spared.sessions (spared.held catalogued vehicleId apart)]

/-- What one turn of the loop does: it leaves everything else alone, and it raises exactly for a
stuck vehicle, whose record it leaves. -/
structure Turned (clock : MonotonicClock F) (answers : Answers F) (vehicleId : String)
    (p q : FleetPreparation F) (result : Except (Raised F) Unit) : Prop where
  spared : Spared [vehicleId] p q
  raised : result ≠ .ok () ↔ FleetPreparation.stuck clock answers p.supervisor vehicleId = true
  kept : result ≠ .ok () → q.records = p.records
  reached : result = .ok () → q.supervisor.stateOf vehicleId = some .disconnected
  recorded : result = .ok () → (q.saysDisconnected vehicleId = true ↔
    (p.supervisor.stateOf vehicleId = some .disconnected → p.saysDisconnected vehicleId = true))

theorem Spared.of_confined (confined : Confined vehicleId p.supervisor q.supervisor)
    (records : ∀ other, other ≠ vehicleId → q.records.get? other = p.records.get? other) :
    Spared [vehicleId] p q where
  sessions := confined.sessions
  catalogued := fun catalogued => confined.catalogued catalogued
  held catalogued other apart := confined.held catalogued (by simpa using apart)
  records other apart := records other (by simpa using apart)

theorem Turned.of_raise {raised : Raised F} (confined : Confined vehicleId p.supervisor q.supervisor)
    (records : q.records = p.records)
    (stuck : FleetPreparation.stuck clock answers p.supervisor vehicleId = true) :
    Turned clock answers vehicleId p q (.error raised) where
  spared := .of_confined confined fun _ _ => by rw [records]
  raised := ⟨fun _ => stuck, fun _ => nofun⟩
  kept _ := records
  reached := nofun
  recorded := nofun

variable (clock answers) in
theorem disconnectVehicle_turned (declared : (p.records.get? vehicleId).isSome) :
    Turned clock answers vehicleId p (disconnectVehicle clock answers p vehicleId).1
      (disconnectVehicle clock answers p vehicleId).2 := by
  obtain ⟨confined, reached⟩ := supervisorDisconnect_confined clock answers vehicleId
    p.supervisor
  have connected (refused : refuses clock answers p.supervisor vehicleId = true)
      (other : p.supervisor.stateOf vehicleId ≠ some .disconnected) :
      FleetPreparation.stuck clock answers p.supervisor vehicleId = true := by
    rw [FleetPreparation.stuck, refused, Bool.and_true, bne_iff_ne]
    exact other
  unfold disconnectVehicle
  split
  · next unheld =>
    refine .of_raise (.refl _) rfl (connected (refuses_of_unheld unheld) ?_)
    rw [SafetySupervisor.stateOf, unheld]
    intro state
    cases state
  · next session held =>
    have state : p.supervisor.stateOf vehicleId = some session.state := by
      rw [SafetySupervisor.stateOf, held]
      rfl
    split
    · next closed =>
      rw [closed] at state
      exact {
        spared := .refl p
        raised := ⟨fun raised => absurd rfl raised, fun stuck => by
          rw [FleetPreparation.stuck, state] at stuck
          cases stuck⟩
        kept := fun _ => rfl
        reached := fun _ => state
        recorded := fun _ => ⟨fun already _ => already, fun already => already state⟩ }
    · next opened =>
      have other : p.supervisor.stateOf vehicleId ≠ some .disconnected := by
        rw [state]
        simpa using opened
      generalize outcome : supervisorDisconnect clock answers vehicleId p.supervisor = ends at *
      obtain ⟨supervisor, raised | _⟩ := ends
      · have refused : refuses clock answers p.supervisor vehicleId = true := by
          rw [refuses, outcome]
        exact .of_raise confined rfl (connected refused other)
      · obtain ⟨lifecycle, declared⟩ := Option.isSome_iff_exists.mp declared
        have passes : refuses clock answers p.supervisor vehicleId = false :=
          refuses_eq_false.mpr (by rw [outcome])
        simp only [vehicle, declared]
        exact {
          spared := .of_confined (confined.trans (.of_same rfl rfl)) fun other apart =>
            Dict.get?_insert_of_ne _ _ (Ne.symm apart)
          raised := ⟨fun raised => absurd rfl raised, fun stuck => by
            rw [FleetPreparation.stuck, passes, Bool.and_false] at stuck
            cases stuck⟩
          kept := fun raised => absurd rfl raised
          reached := reached
          recorded := fun _ => ⟨fun _ state => absurd state other, fun _ => by
            simp [FleetPreparation.saysDisconnected, emit, terminalSnapshot]⟩ }

end Frames

section Runs

variable {clock answers}

variable (clock answers) in
theorem disconnectEach_spared :
    ∀ {ids : List String} {p : FleetPreparation F}, (∀ id ∈ ids, (p.records.get? id).isSome) →
      ids.Nodup → Spared ids p (disconnectEach clock answers ids p).1
  | [], p, _, _ => .refl p
  | id :: rest, p, declared, distinct => by
    obtain ⟨fresh, distinct⟩ := nodup_cons.mp distinct
    have turned := disconnectVehicle_turned clock answers (declared id (mem_cons_self ..))
    rw [disconnectEach]
    generalize disconnectVehicle clock answers p id = ends at *
    obtain ⟨q, raised | _⟩ := ends
    · exact turned.spared.cons (.refl q)
    · refine turned.spared.cons (disconnectEach_spared (fun other member => ?_) distinct)
      have apart : other ∉ [id] := by
        rintro same
        exact fresh (mem_singleton.mp same ▸ member)
      rw [turned.spared.records other apart]
      exact declared other (mem_cons_of_mem _ member)

variable (clock answers) in
/-- What the cleanup promises of one vehicle. -/
def Settled (before after : FleetPreparation F) (vehicleId : String) : Prop :=
  if FleetPreparation.stuck clock answers before.supervisor vehicleId = true then
    after.saysDisconnected vehicleId = false
  else after.supervisor.stateOf vehicleId = some .disconnected ∧ after.saysDisconnected vehicleId = true

variable (clock answers) in
/-- What the records have to say of one vehicle beforehand. -/
def Told (p : FleetPreparation F) (vehicleId : String) : Prop :=
  (p.supervisor.stateOf vehicleId = some .disconnected → p.saysDisconnected vehicleId = true) ∧
    (FleetPreparation.stuck clock answers p.supervisor vehicleId = true →
      p.saysDisconnected vehicleId = false)

variable (clock answers) in
/-- The later vehicle does not need the turn that the first one denies it. -/
def Reached (s : SafetySupervisor F) (first later : String) : Prop :=
  FleetPreparation.stuck clock answers s first = true →
    s.stateOf later = some .disconnected ∨ FleetPreparation.stuck clock answers s later = true

theorem connected_of_stuck {s : SafetySupervisor F}
    (stuck : FleetPreparation.stuck clock answers s vehicleId = true) :
    s.stateOf vehicleId ≠ some .disconnected := by
  intro state
  rw [FleetPreparation.stuck, state] at stuck
  cases stuck

theorem told_of_stuck (stuck : FleetPreparation.stuck clock answers p.supervisor vehicleId = true) :
    Told clock answers p vehicleId ↔ p.saysDisconnected vehicleId = false :=
  ⟨fun told => told.2 stuck, fun record => ⟨fun state => absurd state (connected_of_stuck stuck),
    fun _ => record⟩⟩

theorem told_of_free (free : FleetPreparation.stuck clock answers p.supervisor vehicleId ≠ true) :
    Told clock answers p vehicleId ↔ (p.supervisor.stateOf vehicleId = some .disconnected →
      p.saysDisconnected vehicleId = true) :=
  ⟨And.left, fun told => ⟨told, fun stuck => absurd stuck free⟩⟩

variable (clock answers) in
/-- Vehicles whose turn never comes are settled if they do not need one. -/
theorem settled_of_untouched (state : q.supervisor.stateOf vehicleId = p.supervisor.stateOf vehicleId)
    (record : q.saysDisconnected vehicleId = p.saysDisconnected vehicleId) :
    Settled clock answers p q vehicleId ↔
      Told clock answers p vehicleId ∧ (p.supervisor.stateOf vehicleId = some .disconnected ∨
        FleetPreparation.stuck clock answers p.supervisor vehicleId = true) := by
  unfold Settled
  rw [state, record]
  split
  · next stuck =>
    rw [told_of_stuck stuck]
    exact ⟨fun record => ⟨record, .inr stuck⟩, And.left⟩
  · next free =>
    rw [told_of_free free]
    refine ⟨fun ends => ⟨fun _ => ends.2, .inl ends.1⟩, fun ⟨told, either⟩ => ?_⟩
    have closed := either.resolve_right free
    exact ⟨closed, told closed⟩

variable (clock answers) in
/-- The loop settles the vehicles it is given exactly if none of them needs a turn after a stuck
one, and the records of those it passes over are right. -/
theorem disconnectEach_settled :
    ∀ {ids : List String} {p : FleetPreparation F}, (∀ id ∈ ids, (p.records.get? id).isSome) →
      ids.Nodup → Catalogued p.supervisor →
      ((∀ id ∈ ids, Settled clock answers p (disconnectEach clock answers ids p).1 id) ↔
        ids.Pairwise (Reached clock answers p.supervisor) ∧ ∀ id ∈ ids, Told clock answers p id)
  | [], p, _, _, _ => by simp
  | id :: rest, p, declared, distinct, catalogued => by
    obtain ⟨fresh, distinct⟩ := nodup_cons.mp distinct
    have turned := disconnectVehicle_turned clock answers (declared id (mem_cons_self ..))
    rw [disconnectEach]
    generalize disconnectVehicle clock answers p id = ends at *
    have apart {other : String} (member : other ∈ rest) : other ∉ [id] := by
      intro same
      exact fresh (mem_singleton.mp same ▸ member)
    rw [forall_mem_cons, pairwise_cons, forall_mem_cons]
    obtain ⟨q, raised | _⟩ := ends
    · have stuck := turned.raised.mp nofun
      have record (other : String) : q.saysDisconnected other = p.saysDisconnected other := by
        rw [FleetPreparation.saysDisconnected, turned.kept nofun]
        rfl
      have head : Settled clock answers p q id ↔ Told clock answers p id := by
        rw [Settled, if_pos stuck, told_of_stuck stuck, record]
      have tail (other : String) (member : other ∈ rest) :=
        settled_of_untouched clock answers (turned.spared.stateOf catalogued (apart member)) (record other)
      rw [head, forall₂_congr tail]
      constructor
      · rintro ⟨told, settled⟩
        refine ⟨⟨fun other member _ => (settled other member).2, ?_⟩, told,
          fun other member => (settled other member).1⟩
        exact pairwise_of_forall_mem_list fun _ _ other member _ => (settled other member).2
      · rintro ⟨⟨reached, -⟩, told, tolds⟩
        exact ⟨told, fun other member => ⟨tolds other member, reached other member stuck⟩⟩
    · have free : FleetPreparation.stuck clock answers p.supervisor id ≠ true :=
        fun stuck => turned.raised.mpr stuck rfl
      have known : ∀ other ∈ rest, (q.records.get? other).isSome := fun other member => by
        rw [turned.spared.records other (apart member)]
        exact declared other (mem_cons_of_mem _ member)
      have spared := disconnectEach_spared clock answers known distinct
      have still := turned.spared.catalogued catalogued
      have ih := disconnectEach_settled known distinct still
      have stucks (other : String) (member : other ∈ rest) :=
        turned.spared.stuck clock answers catalogued (apart member)
      have states (other : String) (member : other ∈ rest) :=
        turned.spared.stateOf catalogued (apart member)
      have records (other : String) (member : other ∈ rest) :=
        turned.spared.saysDisconnected (apart member)
      have head : Settled clock answers p (disconnectEach clock answers rest q).1 id ↔
          Told clock answers p id := by
        rw [Settled, if_neg free, told_of_free free, spared.stateOf still fresh,
          spared.saysDisconnected fresh, turned.recorded rfl]
        exact and_iff_right (turned.reached rfl)
      have settleds : (∀ other ∈ rest, Settled clock answers p
          (disconnectEach clock answers rest q).1 other) ↔
          ∀ other ∈ rest, Settled clock answers q (disconnectEach clock answers rest q).1 other :=
        forall₂_congr fun other member => by rw [Settled, Settled, stucks other member]
      have tolds : (∀ other ∈ rest, Told clock answers p other) ↔
          ∀ other ∈ rest, Told clock answers q other :=
        forall₂_congr fun other member => by
          rw [Told, Told, stucks other member, states other member, records other member]
      have reached : rest.Pairwise (Reached clock answers p.supervisor) ↔
          rest.Pairwise (Reached clock answers q.supervisor) :=
        Pairwise.iff_of_mem fun {first later} before after => by
          rw [Reached, Reached, stucks first before, stucks later after, states later after]
      rw [head, settleds, tolds, reached, ih]
      exact ⟨fun ⟨told, pairs, rest⟩ => ⟨⟨fun _ _ stuck => absurd stuck free, pairs⟩, told, rest⟩,
        fun ⟨⟨_, pairs⟩, told, rest⟩ => ⟨told, pairs, rest⟩⟩

theorem cleaned_iff : Cleaned clock answers p q ↔
    ∀ vehicleId ∈ Sorting.sortBy id p.vehicles, Settled clock answers p q vehicleId := by
  simp only [Sorting.mem_sortBy]
  constructor
  · intro cleaned vehicleId member
    unfold Settled
    split
    · next stuck => exact cleaned.stuck vehicleId member stuck
    · next free => exact cleaned.others vehicleId member (Bool.eq_false_of_not_eq_true free)
  · intro settled
    refine ⟨fun vehicleId member free => ?_, fun vehicleId member stuck => ?_⟩
    · have ends := settled vehicleId member
      rwa [Settled, if_neg (by simp [free])] at ends
    · have ends := settled vehicleId member
      rwa [Settled, if_pos stuck] at ends

theorem pairwise_iff_of_increasing {α : Type} [LinearOrder α] {rel : α → α → Prop} {items : List α}
    (increasing : items.Pairwise (· < ·)) :
    items.Pairwise rel ↔ ∀ first ∈ items, ∀ later ∈ items, first < later → rel first later := by
  induction increasing with
  | nil => simp
  | cons least _ ih =>
    rw [pairwise_cons, ih]
    constructor
    · rintro ⟨head, rest⟩ first before later after less
      rcases mem_cons.mp before with rfl | inside
      · rcases mem_cons.mp after with rfl | after
        · exact absurd less (lt_irrefl _)
        · exact head later after
      · rcases mem_cons.mp after with rfl | after
        · exact absurd less (least first inside).asymm
        · exact rest first inside later after less
    · exact fun pairs => ⟨fun later after => pairs _ (mem_cons_self ..) later
        (mem_cons_of_mem _ after) (least later after), fun first before later after =>
          pairs first (mem_cons_of_mem _ before) later (mem_cons_of_mem _ after)⟩

/-- The order of the loop is that of the identifiers. -/
theorem orderly_iff (distinct : p.vehicles.Nodup) : Orderly clock answers p ↔
    (Sorting.sortBy id p.vehicles).Pairwise (Reached clock answers p.supervisor) ∧
      ∀ vehicleId ∈ Sorting.sortBy id p.vehicles, Told clock answers p vehicleId := by
  have unique := (Sorting.sortBy_perm id p.vehicles).nodup_iff.mpr distinct
  have increasing : (Sorting.sortBy id p.vehicles).Pairwise (· < ·) :=
    (Sorting.sortBy_pairwise id p.vehicles).imp₂ (fun _ _ le ne => lt_of_le_of_ne le ne) unique
  rw [pairwise_iff_of_increasing increasing]
  simp only [Sorting.mem_sortBy]
  constructor
  · intro orderly
    exact ⟨orderly.before, fun vehicleId member =>
      ⟨orderly.already vehicleId member, orderly.stuck vehicleId member⟩⟩
  · rintro ⟨before, told⟩
    exact ⟨before, fun vehicleId member => (told vehicleId member).1,
      fun vehicleId member => (told vehicleId member).2⟩

end Runs

/-- The disconnection of a fleet leaves every vehicle that can be disconnected so, with records
that say what holds, exactly if the fleet is in order. -/
theorem disconnectAllSafe_cleaned_iff (clock : MonotonicClock F) (answers : Answers F)
    (p : FleetPreparation F) (prepared : Prepared p) :
    Cleaned clock answers p (disconnectAllSafe clock answers p).1 ↔ Orderly clock answers p := by
  have sorted := Sorting.sortBy_perm id p.vehicles
  have loop := disconnectEach_settled clock answers
    (fun id member => prepared.declared id (sorted.mem_iff.mp member))
    (sorted.nodup_iff.mpr prepared.distinct) prepared.catalogued
  rw [orderly_iff prepared.distinct, ← loop, cleaned_iff, disconnectAllSafe]
  generalize disconnectEach clock answers (Sorting.sortBy id p.vehicles) p = ends
  obtain ⟨q, raised | _⟩ := ends <;> rfl

section Instances

def quadrotor (vehicleId : String) : Vehicle := ⟨⟨vehicleId⟩, ⟨.simulation, true⟩, [.arming]⟩

def readyRecord (vehicleId : String) : FleetVehicleLifecycle ℚ where
  vehicleId
  configuredHome := ⟨0, 0, 0⟩
  registration := .verified
  connection := .ready

/-- Two vehicles on the ground, both connected. -/
def connectedPair : FleetPreparation ℚ where
  executionSessionId := "session-1"
  supervisor := {
    policy := .exactDefault
    sessions := (Dict.empty.insert "cf-01" 0).insert "cf-02" 1
    heap := [{ vehicle := quadrotor "cf-01", state := .ready },
      { vehicle := quadrotor "cf-02", state := .ready }] }
  vehicles := ["cf-01", "cf-02"]
  records := (Dict.empty.insert "cf-01" (readyRecord "cf-01")).insert "cf-02" (readyRecord "cf-02")
  status := .ready

def landedSample (vehicleId : String) : TelemetryEnvelope ℚ where
  vehicleId
  sequence := 1
  sourceTimestampS := 1
  telemetry := { state := .disconnected, armed := false, flying := false }

/-- Every adapter does what it is asked. -/
def obeying : Answers ℚ
  | vehicleId, _, .snapshot _ => .ok (landedSample vehicleId)
  | _, _, .execute envelope => .ok ⟨envelope.commandId, .completed, none⟩
  | _, _, .connect _ | _, _, .disconnect _ | _, _, .settled _ | _, _, .interrupted _ => .ok ()

/-- The first vehicle has lost its link: its disconnection times out. -/
def unlinked : Answers ℚ
  | "cf-01", _, .disconnect _ => .error .timeout
  | vehicleId, count, on => obeying vehicleId count on

theorem connectedPair_prepared : Prepared connectedPair where
  distinct := by decide
  declared := by decide
  catalogued vehicleId ref registered := by
    simp only [connectedPair, Dict.get?_insert, Dict.get?_empty] at registered
    split at registered
    · next same =>
      cases registered
      exact ⟨_, rfl, same⟩
    · split at registered
      · next same =>
        cases registered
        exact ⟨_, rfl, same⟩
      · cases registered

theorem connectedPair_cleaned : Cleaned secondsClock obeying connectedPair
    (disconnectAllSafe secondsClock obeying connectedPair).1 := by
  refine (disconnectAllSafe_cleaned_iff secondsClock obeying connectedPair
    connectedPair_prepared).mpr ?_
  have free : ∀ vehicleId ∈ connectedPair.vehicles,
      stuck secondsClock obeying connectedPair.supervisor vehicleId = false := by decide
  have opened : ∀ vehicleId ∈ connectedPair.vehicles,
      connectedPair.supervisor.stateOf vehicleId = some .ready := by decide
  refine ⟨fun first before _ _ _ stuck => ?_, fun vehicleId member state => ?_,
    fun vehicleId member stuck => ?_⟩
  · rw [free first before] at stuck
    cases stuck
  · rw [opened vehicleId member] at state
    cases state
  · rw [free vehicleId member] at stuck
    cases stuck

/-- The second vehicle could be disconnected, and keeps its connection. -/
theorem unlinked_first_strands_second : Prepared connectedPair ∧
    ¬ Cleaned secondsClock unlinked connectedPair
      (disconnectAllSafe secondsClock unlinked connectedPair).1 := by
  refine ⟨connectedPair_prepared, fun cleaned => ?_⟩
  have free : stuck secondsClock unlinked connectedPair.supervisor "cf-02" = false := by
    decide
  have opened : (disconnectAllSafe secondsClock unlinked connectedPair).1.supervisor.stateOf
      "cf-02" = some .ready := by decide
  have closed := (cleaned.others "cf-02" (by decide) free).1
  rw [opened] at closed
  cases closed

end Instances

end FleetPreparation

end CrazySwarm
