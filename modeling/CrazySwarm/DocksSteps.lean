import CrazySwarm.Docks
import Mathlib.Logic.Relation

/-! What one dock call can do. A call is a chain of changes: a reservation is opened, moved
along its lifecycle, or promoted from the queue into free capacity. -/
namespace CrazySwarm.DockManager
open PyFloat

variable {F : Type} [PyFloat F]

/-- The updates an operation may store over a reservation it found. -/
inductive Move (record : DockReservation F) : DockReservation F → Prop where
  | transition {target : DockOperationState} (allowed : target ∈ record.state.allowed) :
      Move record { record with
        state := target
        attempts := record.attempts + if target = .dockAttempt then 1 else 0 }
  | land {contact : Bool} (state : record.state = .dockAttempt) :
      Move record { record with
        state := .landedUnconfirmed
        modeledLandingObserved := true
        modeledContactObserved := contact }
  | unconfirmed (state : record.state = .landedUnconfirmed) : Move record (unconfirmed record)
  | charge {started ready : F} (state : record.state = .landedUnconfirmed)
      (contact : record.modeledContactObserved = true) :
      Move record { record with
        state := .chargingConfirmed
        modeledChargingConfirmed := true
        chargingStartedAtMonotonicS := some started
        estimatedReadyAtMonotonicS := some ready }
  | progress {target : DockOperationState} {battery : F}
      (state : record.state ∈ [.chargingConfirmed, .charging])
      (charged : target ∈ [.ready, .charging]) :
      Move record { record with state := target, batteryPercent := some battery }
  | unavailable (unfinished : record.state.terminal = false) : Move record (unavailableUpdate record)

structure Checked (record : DockReservation F) : Prop where
  reservation : isIdentifier record.reservationId = true
  dock : isIdentifier record.dockId = true
  vehicle : isIdentifier record.vehicleId = true

/-- A reservation just filed by `reserve`, on a full dock or into free capacity. -/
structure Opened (docks : DockManager F) (reservation : DockReservation F) : Prop where
  unheld : ∀ key held, docks.reservations.get? key = some held →
    held.vehicleId = reservation.vehicleId → held.state.terminal = true
  named : reservation.reservationId = reservationId reservation.dockId reservation.vehicleId
  capacity : ∃ definition, docks.definitions.get? reservation.dockId = some definition ∧
    docks.health.get? reservation.dockId ≠ some .unavailable ∧
    (reservation.state = .queued ∧ definition.capacity ≤ docks.occupancy reservation.dockId ∨
      reservation.state = .reserved ∧ docks.occupancy reservation.dockId < definition.capacity)
  attempts : reservation.attempts = 0
  maximumAttempts : 1 ≤ reservation.maximumAttempts
  checked : Checked reservation

structure Announceable (record : DockReservation F) (timestamp : F) : Prop where
  checked : Checked record
  timestamp : ge timestamp zero = true

theorem event_cases (docks : DockManager F) (reservation : DockReservation F)
    {eventType : String} (typed : isIdentifier eventType = true) (reason : String) (timestamp : F) :
    (¬ Announceable reservation timestamp ∧ ∃ fault,
      docks.event reservation eventType reason timestamp =
        ({ docks with sequence := docks.sequence + 1 }, .error fault)) ∨
    (Announceable reservation timestamp ∧ ∃ event,
      docks.event reservation eventType reason timestamp =
        ({ docks with sequence := docks.sequence + 1 },
          .ok { reservation with events := reservation.events ++ [event] })) := by
  cases created : DockEvent.create (F := F) {
      sequence := docks.sequence + 1
      reservationId := reservation.reservationId
      dockId := reservation.dockId
      vehicleId := reservation.vehicleId
      state := reservation.state
      timestampMonotonicS := timestamp
      eventType := eventType
      reason := reason } with
  | error fault =>
    refine .inl ⟨fun announceable => ?_, fault, by simp [event, created, Except.map]⟩
    obtain ⟨⟨reservation, dock, vehicle⟩, time⟩ := announceable
    simp [DockEvent.create, validated, reservation, dock, vehicle, time, typed] at created
  | ok event =>
    have checked := (validated_eq_ok.mp created).1
    simp only [List.mem_cons, forall_eq_or_imp, decide_eq_true_eq] at checked
    obtain ⟨_, reservation, dock, vehicle, time, _⟩ := checked
    exact .inr ⟨⟨⟨reservation, dock, vehicle⟩, time⟩, event,
      by simp [DockManager.event, created, Except.map]⟩

def filed (docks : DockManager F) (key : String) (reservation : DockReservation F) :
    DockManager F :=
  { docks with
    reservations := docks.reservations.insert key reservation
    sequence := docks.sequence + 1 }

/-- An update is stored exactly when its event is accepted. -/
theorem commit_cases (docks : DockManager F) (key : String) (updated : DockReservation F)
    {eventType : String} (typed : isIdentifier eventType = true) (reason : String) (timestamp : F) :
    (¬ Announceable updated timestamp ∧ ∃ fault,
      docks.commit key (.ok updated) eventType reason timestamp =
        ({ docks with sequence := docks.sequence + 1 }, .error fault)) ∨
    (Announceable updated timestamp ∧ ∃ event,
      docks.commit key (.ok updated) eventType reason timestamp =
        (docks.filed key { updated with events := updated.events ++ [event] },
          .ok { updated with events := updated.events ++ [event] })) := by
  rcases docks.event_cases updated typed reason timestamp with ⟨rejected, fault, eq⟩ | ⟨accepted, event, eq⟩
  · exact .inl ⟨rejected, fault, by simp [commit, eq, andThen]⟩
  · exact .inr ⟨accepted, event, by simp [commit, eq, andThen, filed]⟩

omit [PyFloat F] in
theorem transition_typed (target : DockOperationState) :
    isIdentifier ("DOCK_" ++ target.value) = true := by
  cases target <;> decide

def Identified (docks : DockManager F) : Prop :=
  ∀ key definition, docks.definitions.get? key = some definition → definition.dockId = key

section Updates
variable {docks : DockManager F} {key : String} {record updated : DockReservation F}

theorem reservation_eq_ok :
    docks.reservation key = .ok record ↔ docks.reservations.get? key = some record := by
  unfold reservation
  split <;> simp_all

theorem definition_eq_ok {dockId : String} {definition : DockDefinition F} :
    docks.definition dockId = .ok definition ↔ docks.definitions.get? dockId = some definition := by
  unfold DockManager.definition
  split <;> simp_all

theorem transitionUpdate_eq_ok {target : DockOperationState}
    (h : docks.transitionUpdate key target = .ok updated) :
    ∃ record, docks.reservations.get? key = some record ∧ target ∈ record.state.allowed ∧
      updated = { record with
        state := target
        attempts := record.attempts + if target = .dockAttempt then 1 else 0 } := by
  obtain ⟨record, found, h⟩ := bind_eq_ok.mp h
  obtain ⟨_, allowed, h⟩ := bind_eq_ok.mp h
  cases h
  exact ⟨record, reservation_eq_ok.mp found, by simpa using allowed, rfl⟩

theorem landingUpdate_eq_ok {contact : Bool} (h : docks.landingUpdate key contact = .ok updated) :
    ∃ record, docks.reservations.get? key = some record ∧ record.state = .dockAttempt ∧
      updated = { record with
        state := .landedUnconfirmed
        modeledLandingObserved := true
        modeledContactObserved := contact } := by
  obtain ⟨record, found, h⟩ := bind_eq_ok.mp h
  obtain ⟨_, state, h⟩ := bind_eq_ok.mp h
  cases h
  exact ⟨record, reservation_eq_ok.mp found, by simpa using state, rfl⟩

theorem landed_eq_ok :
    docks.landed key = .ok record ↔
      docks.reservations.get? key = some record ∧ record.state = .landedUnconfirmed := by
  refine ⟨fun h => ?_, fun ⟨found, state⟩ => ?_⟩
  · obtain ⟨record, found, h⟩ := bind_eq_ok.mp h
    obtain ⟨_, state, h⟩ := bind_eq_ok.mp h
    cases h
    exact ⟨reservation_eq_ok.mp found, by simpa using state⟩
  · have found := reservation_eq_ok.mpr found
    simp [landed, found, state, bind, Except.bind, require]

theorem chargingUpdate_eq_ok {timestamp : F}
    (h : docks.chargingUpdate record timestamp = .ok updated) :
    ∃ started ready, updated = { record with
      state := .chargingConfirmed
      modeledChargingConfirmed := true
      chargingStartedAtMonotonicS := some started
      estimatedReadyAtMonotonicS := some ready } := by
  obtain ⟨definition, _, h⟩ := bind_eq_ok.mp h
  cases h
  exact ⟨_, _, rfl⟩

theorem chargeUpdate_eq_ok {timestamp : F} (h : docks.chargeUpdate key timestamp = .ok updated) :
    ∃ record target battery, docks.reservations.get? key = some record ∧
      record.state ∈ [.chargingConfirmed, .charging] ∧ target ∈ [.ready, .charging] ∧
      updated = { record with state := target, batteryPercent := some battery } := by
  obtain ⟨record, found, h⟩ := bind_eq_ok.mp h
  obtain ⟨_, state, h⟩ := bind_eq_ok.mp h
  split at h
  · cases h
  · obtain ⟨definition, _, h⟩ := bind_eq_ok.mp h
    cases h
    refine ⟨record, _, _, reservation_eq_ok.mp found, by simpa using state, ?_, rfl⟩
    split <;> simp

theorem usable_eq_ok {preferred : Option String} {usable : List (DockDefinition F)}
    (identified : Identified docks) (h : docks.usable preferred = .ok usable) :
    ∀ definition ∈ usable, docks.definitions.get? definition.dockId = some definition ∧
      docks.health.get? definition.dockId ≠ some .unavailable := by
  obtain ⟨candidates, listed, rfl⟩ := map_eq_ok.mp h
  have known : ∀ definition ∈ candidates,
      docks.definitions.get? definition.dockId = some definition := by
    intro definition member
    cases preferred with
    | some dockId =>
      obtain ⟨item, found, same⟩ := map_eq_ok.mp listed
      have found := definition_eq_ok.mp found
      rw [← same, List.mem_singleton] at member
      subst member
      rw [identified dockId definition found]
      exact found
    | none =>
      cases listed
      obtain ⟨key, _, found⟩ := List.mem_filterMap.mp member
      rw [identified key definition found]
      exact found
  intro definition member
  obtain ⟨candidate, healthy⟩ := List.mem_filter.mp member
  exact ⟨known definition candidate, of_decide_eq_true healthy⟩

/-- What `reserve` files when it is not rejected. -/
theorem allocate_eq_ok {vehicleId : String} {preferred : Option String} {battery : Option F}
    {target timestamp : F} {reservation : DockReservation F} (identified : Identified docks)
    (bounded : 1 ≤ docks.maximumAttempts)
    (h : docks.allocate vehicleId preferred battery target timestamp = .ok reservation) :
    Opened docks reservation ∧ Announceable reservation timestamp ∧
      reservation.vehicleId = vehicleId := by
  obtain ⟨_, unheld, h⟩ := bind_eq_ok.mp h
  obtain ⟨usable, listed, h⟩ := bind_eq_ok.mp h
  split at h
  · cases h
  next first rest =>
  obtain ⟨_, _, h⟩ := bind_eq_ok.mp h
  obtain ⟨checked, rfl⟩ := validated_eq_ok.mp h
  obtain ⟨known, healthy⟩ := usable_eq_ok identified listed _ (Sorting.leastBy_mem docks.emptier first rest)
  simp only [List.mem_cons, forall_eq_or_imp] at checked
  obtain ⟨reservationNamed, dockNamed, vehicleNamed, time, _⟩ := checked
  refine ⟨⟨?_, rfl, ⟨_, known, healthy, ?_⟩, rfl, bounded,
    ⟨reservationNamed, dockNamed, vehicleNamed⟩⟩,
    ⟨⟨reservationNamed, dockNamed, vehicleNamed⟩, time⟩, rfl⟩
  · intro key held found same
    simp only [require_eq_ok, Bool.not_eq_true', List.any_eq_false, Bool.and_eq_true,
      decide_eq_true_eq, not_and, Bool.not_eq_false] at unheld
    exact unheld held ((Dict.mem_values_iff _ held).mpr ⟨key, found⟩) same
  · dsimp only
    by_cases full : (Sorting.leastBy docks.emptier first rest).capacity ≤
        docks.occupancy (Sorting.leastBy docks.emptier first rest).dockId
    · exact .inl ⟨by simp [full], full⟩
    · exact .inr ⟨by simp [full], by omega⟩

theorem promotable_eq_some {definition : DockDefinition F} {dockId : String}
    (h : docks.promotable definition dockId = some record) :
    docks.occupancy dockId < definition.capacity ∧ record ∈ docks.reservations.values ∧
      record.dockId = dockId ∧ record.state = .queued := by
  unfold promotable at h
  split at h
  · cases h
  next free =>
  split at h
  · cases h
  next first rest waiting =>
  cases h
  have member := Sorting.leastBy_mem earlier first rest
  rw [← waiting] at member
  obtain ⟨listed, waits⟩ := List.mem_filter.mp member
  simp only [DockManager.waits, Bool.and_eq_true, decide_eq_true_eq] at waits
  exact ⟨by omega, listed, waits.1, waits.2⟩

end Updates

/-- One change of the reservations, with whatever event it appends. -/
inductive Change (docks : DockManager F) : DockManager F → Prop where
  | quiet {health : Dict String DockHealth} {sequence : Nat} :
      Change docks { docks with health := health, sequence := sequence }
  | opened {reservation : DockReservation F} {events : List (DockEvent F)}
      (opened : Opened docks reservation) :
      Change docks (docks.filed reservation.reservationId { reservation with events := events })
  | moved {key : String} {record updated : DockReservation F} {events : List (DockEvent F)}
      (found : docks.reservations.get? key = some record) (move : Move record updated) :
      Change docks (docks.filed key { updated with events := events })
  | promoted {key : String} {record : DockReservation F} {definition : DockDefinition F}
      {events : List (DockEvent F)} (found : docks.reservations.get? key = some record)
      (queued : record.state = .queued)
      (known : docks.definitions.get? record.dockId = some definition)
      (free : docks.occupancy record.dockId < definition.capacity) :
      Change docks (docks.filed key
        { record with state := .reserved, queuePosition := none, events := events })

/-- What every constructed manager has and every change keeps. -/
structure Configured (docks : DockManager F) : Prop where
  identified : Identified docks
  named : ∀ key record, docks.reservations.get? key = some record →
    record.reservationId = key ∧ key = reservationId record.dockId record.vehicleId
  checked : ∀ key record, docks.reservations.get? key = some record → Checked record
  bounded : 1 ≤ docks.maximumAttempts

omit [PyFloat F] in
theorem Move.keeps {record updated : DockReservation F} (move : Move record updated) :
    updated.reservationId = record.reservationId ∧ updated.dockId = record.dockId ∧
      updated.vehicleId = record.vehicleId ∧ updated.maximumAttempts = record.maximumAttempts := by
  cases move <;> exact ⟨rfl, rfl, rfl, rfl⟩

theorem Configured.filed {docks : DockManager F} {key : String} {stored : DockReservation F}
    (configured : Configured docks) (same : stored.reservationId = key)
    (named : key = reservationId stored.dockId stored.vehicleId) (checked : Checked stored) :
    Configured (docks.filed key stored) := by
  refine ⟨configured.identified, fun other record found => ?_, fun other record found => ?_,
    configured.bounded⟩
  · simp only [DockManager.filed, Dict.get?_insert] at found
    split at found
    · next eq => cases found; exact ⟨same.trans eq, eq ▸ named⟩
    · exact configured.named other record found
  · simp only [DockManager.filed, Dict.get?_insert] at found
    split at found
    · cases found; exact checked
    · exact configured.checked other record found

theorem Change.configured {docks next : DockManager F} (change : Change docks next)
    (configured : Configured docks) : Configured next := by
  cases change with
  | quiet =>
    exact ⟨configured.identified, configured.named, configured.checked, configured.bounded⟩
  | opened opened =>
    exact configured.filed rfl opened.named
      ⟨opened.checked.reservation, opened.checked.dock, opened.checked.vehicle⟩
  | @moved key record updated events found move =>
    obtain ⟨reservation, dock, vehicle, _⟩ := move.keeps
    obtain ⟨same, named⟩ := configured.named key record found
    have checked := configured.checked key record found
    refine configured.filed (reservation.trans same) (by dsimp only; rw [dock, vehicle]; exact named) ?_
    refine ⟨?_, ?_, ?_⟩ <;> dsimp only
    · exact reservation ▸ checked.reservation
    · exact dock ▸ checked.dock
    · exact vehicle ▸ checked.vehicle
  | @promoted key record definition events found _ _ _ =>
    obtain ⟨same, named⟩ := configured.named key record found
    have checked := configured.checked key record found
    exact configured.filed same named ⟨checked.reservation, checked.dock, checked.vehicle⟩

/-- The changes of one call, in order. -/
def Changes : DockManager F → DockManager F → Prop := Relation.ReflTransGen Change

theorem Changes.one {docks next : DockManager F} (change : Change docks next) : Changes docks next :=
  .single change

theorem Changes.configured {docks next : DockManager F} (changes : Changes docks next)
    (configured : Configured docks) : Configured next := by
  induction changes with
  | refl => exact configured
  | tail _ change ih => exact change.configured ih

theorem commit_change {docks : DockManager F} {key : String}
    {update : Except (Fault F) (DockReservation F)} {eventType reason : String} {timestamp : F}
    (typed : isIdentifier eventType = true)
    (moves : ∀ updated, update = .ok updated → ∃ record,
      docks.reservations.get? key = some record ∧ Move record updated) :
    Change docks (docks.commit key update eventType reason timestamp).1 := by
  cases computed : update with
  | error fault => exact .quiet
  | ok updated =>
    rcases docks.commit_cases key updated typed reason timestamp
      with ⟨_, fault, eq⟩ | ⟨_, event, eq⟩
    · rw [eq]
      exact .quiet
    · rw [eq]
      obtain ⟨record, found, move⟩ := moves updated computed
      exact .moved found move

theorem reserve_cases {docks : DockManager F} (configured : Configured docks) (vehicleId : String)
    (preferred : Option String) (battery : Option F) (target : F) (nowS : Option F)
    (clock : Nat → F) :
    (∃ fault, docks.allocate vehicleId preferred battery target (now nowS (clock 0)) = .error fault ∧
      docks.reserve vehicleId preferred battery target nowS clock = (docks, .error fault)) ∨
    ∃ reservation event,
      docks.allocate vehicleId preferred battery target (now nowS (clock 0)) = .ok reservation ∧
      Opened docks reservation ∧ Announceable reservation (now nowS (clock 0)) ∧
      reservation.vehicleId = vehicleId ∧
      docks.reserve vehicleId preferred battery target nowS clock =
        (docks.filed reservation.reservationId
            { reservation with events := reservation.events ++ [event] },
          .ok { reservation with events := reservation.events ++ [event] }) := by
  cases allocated : docks.allocate vehicleId preferred battery target (now nowS (clock 0)) with
  | error fault => exact .inl ⟨fault, rfl, by simp [reserve, allocated]⟩
  | ok reservation =>
    obtain ⟨opened, announceable, vehicle⟩ :=
      allocate_eq_ok configured.identified configured.bounded allocated
    have typed : isIdentifier (if reservation.state = .queued then "DOCK_QUEUED"
        else "DOCK_RESERVED") = true := by split <;> decide
    rcases docks.commit_cases reservation.reservationId reservation typed "software dock allocation"
      (now nowS (clock 0)) with ⟨rejected, _⟩ | ⟨_, event, eq⟩
    · exact absurd announceable rejected
    · exact .inr ⟨reservation, event, rfl, opened, announceable, vehicle, by simp [reserve, allocated, eq]⟩

theorem transition_change (docks : DockManager F) (key : String) (target : DockOperationState)
    (reason : String) (nowS : Option F) (clock : Nat → F) :
    Change docks (docks.transition key target reason nowS clock).1 := by
  refine commit_change (transition_typed target) fun updated h => ?_
  obtain ⟨record, found, allowed, rfl⟩ := transitionUpdate_eq_ok h
  exact ⟨record, found, .transition allowed⟩

theorem reserve_changes {docks : DockManager F} (configured : Configured docks)
    (vehicleId : String) (preferred : Option String) (battery : Option F) (target : F)
    (nowS : Option F) (clock : Nat → F) :
    Changes docks (docks.reserve vehicleId preferred battery target nowS clock).1 := by
  rcases reserve_cases configured vehicleId preferred battery target nowS clock
    with ⟨fault, _, eq⟩ | ⟨reservation, event, _, opened, _, _, eq⟩
  · rw [eq]
    exact .refl
  · rw [eq]
    exact .one (.opened opened)

theorem reserveAfterHandover_changes {docks : DockManager F} (configured : Configured docks)
    (handover : HandoverRecord F) (battery nowS : Option F) (clock : Nat → F) :
    Changes docks (docks.reserveAfterHandover handover battery nowS clock).1 := by
  unfold reserveAfterHandover
  split
  · exact .refl
  · have reserved := reserve_changes configured handover.outgoingVehicleId none battery (ofRat 90)
      nowS clock
    rcases equation : docks.reserve handover.outgoingVehicleId none battery (ofRat 90) nowS clock
      with ⟨next, fault | reservation⟩
    · rw [equation] at reserved
      exact reserved
    · rw [equation] at reserved
      simp only [andThen]
      split
      · exact reserved.tail (transition_change next _ _ _ _ _)
      · exact reserved

theorem confirmModeledCharging_change (docks : DockManager F) (key : String) (confirmed : Bool)
    (nowS : Option F) (clock : Nat → F) :
    Change docks (docks.confirmModeledCharging key confirmed nowS clock).1 := by
  unfold confirmModeledCharging
  cases landed : docks.landed key with
  | error fault => exact .quiet
  | ok record =>
    obtain ⟨found, state⟩ := landed_eq_ok.mp landed
    simp only
    split
    · exact commit_change (by decide) fun updated h => by
        cases h; exact ⟨record, found, .unconfirmed state⟩
    · next contact =>
      refine commit_change (by decide) fun updated h => ?_
      obtain ⟨started, ready, rfl⟩ := chargingUpdate_eq_ok h
      exact ⟨record, found, .charge state (by simp_all)⟩

theorem promoteQueue_change {docks : DockManager F} (configured : Configured docks)
    (dockId : String) (timestamp : F) :
    Change docks (docks.promoteQueue dockId timestamp).1 := by
  unfold promoteQueue
  cases known : docks.definition dockId with
  | error fault => exact .quiet
  | ok definition =>
    simp only
    cases chosen : docks.promotable definition dockId with
    | none => exact .quiet
    | some record =>
      obtain ⟨free, listed, rfl, queued⟩ := promotable_eq_some chosen
      obtain ⟨key, found⟩ := (Dict.mem_values_iff _ record).mp listed
      have named := (configured.named key record found).1
      have typed : isIdentifier "DOCK_QUEUE_PROMOTED" = true := by decide
      rcases docks.commit_cases record.reservationId { record with
          state := .reserved, queuePosition := none } typed "capacity released" timestamp
        with ⟨_, fault, eq⟩ | ⟨_, event, eq⟩
      · simp only [eq, andThen]
        exact .quiet
      · simp only [eq, andThen]
        exact .promoted (named ▸ found) queued (definition_eq_ok.mp known) free

theorem updateModeledCharge_changes {docks : DockManager F} (configured : Configured docks)
    (key : String) (nowS : Option F) (clock : Nat → F) :
    Changes docks (docks.updateModeledCharge key nowS clock).1 := by
  unfold updateModeledCharge
  simp only
  cases computed : docks.chargeUpdate key (now nowS (clock 0)) with
  | error fault => exact .refl
  | ok updated =>
    obtain ⟨record, target, battery, found, state, charged, rfl⟩ := chargeUpdate_eq_ok computed
    simp only
    have typed : isIdentifier (if target = .ready then "MODELED_CHARGE_READY"
        else "MODELED_CHARGE_PROGRESS") = true := by split <;> decide
    rcases docks.commit_cases key { record with state := target, batteryPercent := some battery }
      typed "software scheduling model" (now nowS (clock 0)) with ⟨_, fault, eq⟩ | ⟨_, event, eq⟩
    · simp only [eq, andThen]
      exact .one .quiet
    · have moved : Change docks (docks.filed key { record with
          state := target, batteryPercent := some battery, events := record.events ++ [event] }) :=
        .moved found (.progress state charged)
      simp only [eq, andThen]
      split
      · have promoted := promoteQueue_change (moved.configured configured) record.dockId
          (now nowS (clock 0))
        split
        · next promotes => exact (Changes.one moved).tail (by rw [promotes] at promoted; exact promoted)
        · next promotes => exact (Changes.one moved).tail (by rw [promotes] at promoted; exact promoted)
      · exact .one moved

/-- The reservations `set_health` found, none of them changed yet. -/
structure Unvisited (docks : DockManager F) (rest : List (DockReservation F)) : Prop where
  stored : ∀ record ∈ rest, docks.reservations.get? record.reservationId = some record
  distinct : (rest.map DockReservation.reservationId).Nodup

theorem Configured.unvisited {docks : DockManager F} (configured : Configured docks) :
    Unvisited docks docks.reservations.values := by
  refine ⟨fun record listed => ?_, ?_⟩
  · obtain ⟨key, found⟩ := (Dict.mem_values_iff _ record).mp listed
    rw [(configured.named key record found).1]
    exact found
  · have same : docks.reservations.values.map DockReservation.reservationId =
        docks.reservations.keys := by
      simp only [Dict.values, Dict.keys, List.map_map]
      refine List.map_congr_left fun item member => ?_
      exact (configured.named item.1 item.2
        ((Dict.get?_eq_some_iff _ _ _).mpr member)).1
    rw [same]
    exact docks.reservations.nodup

theorem Unvisited.tail {docks next : DockManager F} {record : DockReservation F}
    {rest : List (DockReservation F)} (unvisited : Unvisited docks (record :: rest))
    (kept : ∀ key, key ≠ record.reservationId →
      next.reservations.get? key = docks.reservations.get? key) : Unvisited next rest := by
  have distinct := List.nodup_cons.mp unvisited.distinct
  refine ⟨fun other member => ?_, distinct.2⟩
  rw [kept other.reservationId fun same => distinct.1 (same ▸ List.mem_map_of_mem member)]
  exact unvisited.stored other (List.mem_cons_of_mem _ member)

theorem divertEach_changes (dockId : String) (timestamp : F) (docks : DockManager F)
    {rest : List (DockReservation F)} (unvisited : Unvisited docks rest) :
    Changes docks (divertEach dockId timestamp rest docks).1 := by
  induction rest generalizing docks with
  | nil => exact .refl
  | cons record rest ih =>
    unfold divertEach
    split
    · next mine =>
      simp only [Bool.and_eq_true, decide_eq_true_eq, Bool.not_eq_true'] at mine
      have typed : isIdentifier "DOCK_UNAVAILABLE" = true := by decide
      have found := unvisited.stored record List.mem_cons_self
      rcases docks.commit_cases record.reservationId (unavailableUpdate record) typed
        "dock health changed to unavailable" timestamp with ⟨_, fault, eq⟩ | ⟨_, event, eq⟩
      · simp only [eq, andThen]
        exact .one .quiet
      · simp only [eq, andThen]
        refine Relation.ReflTransGen.head (.moved found (.unavailable mine.2)) (ih _ (unvisited.tail ?_))
        intro key apart
        exact Dict.get?_insert_of_ne _ _ (Ne.symm apart)
    · exact ih _ (unvisited.tail fun _ _ => rfl)

theorem setHealth_changes {docks : DockManager F} (configured : Configured docks) (dockId : String)
    (health : DockHealth) (nowS : Option F) (clock : Nat → F) :
    Changes docks (docks.setHealth dockId health nowS clock).1 := by
  unfold setHealth
  split
  · exact .refl
  · have changed : Change docks { docks with health := docks.health.insert dockId health } := .quiet
    simp only
    split
    · have unvisited : Unvisited { docks with health := docks.health.insert dockId health }
          docks.reservations.values := ⟨configured.unvisited.stored, configured.unvisited.distinct⟩
      have diverted := divertEach_changes dockId (now nowS (clock 0)) _ unvisited
      rcases equation : divertEach dockId (now nowS (clock 0)) docks.reservations.values
        { docks with health := docks.health.insert dockId health } with ⟨next, fault | u⟩ <;>
      · rw [equation] at diverted
        exact .head changed diverted
    · exact .one changed

theorem step_changes {docks : DockManager F} (configured : Configured docks) (call : Call F) :
    Changes docks (step docks call) := by
  obtain ⟨op, clock⟩ := call
  cases op with
  | reserve => exact reserve_changes configured _ _ _ _ _ _
  | reserveAfterHandover => exact reserveAfterHandover_changes configured _ _ _ _
  | transition => exact .one (transition_change docks _ _ _ _ _)
  | confirmModeledLanding =>
    refine .one (commit_change (by decide) fun updated h => ?_)
    obtain ⟨record, found, state, rfl⟩ := landingUpdate_eq_ok h
    exact ⟨record, found, .land state⟩
  | confirmModeledCharging => exact .one (confirmModeledCharging_change docks _ _ _ _)
  | updateModeledCharge => exact updateModeledCharge_changes configured _ _ _
  | setHealth => exact setHealth_changes configured _ _ _ _

theorem create_eq_ok {definitions : List (DockDefinition F)} {ttl : F} {maximumAttempts queueLimit : Nat}
    {initial : DockManager F}
    (h : create definitions ttl maximumAttempts queueLimit = .ok initial) :
    Configured initial ∧ initial.reservations = .empty := by
  obtain ⟨_, _, h⟩ := bind_eq_ok.mp h
  obtain ⟨_, bounds, h⟩ := bind_eq_ok.mp h
  cases h
  refine ⟨⟨fun key definition found => ?_, by simp, by simp, ?_⟩, rfl⟩
  · refine Dict.get?_ofList (p := fun key definition => definition.dockId = key) ?_ found
    intro item member
    obtain ⟨definition, _, rfl⟩ := List.mem_map.mp member
    rfl
  · simp only [require_eq_ok, Bool.not_eq_true', Bool.or_eq_false_iff, decide_eq_false_iff_not] at bounds
    dsimp only
    omega

end CrazySwarm.DockManager
