import CrazySwarm.DocksQueue
import CrazySwarm.Numbers

/-! The modelled charge over a sequence of polls. Each poll adds the time since the charge started
to the battery that the poll before it has written, so that the level depends on every poll after
the start and not on the last one alone. -/
namespace CrazySwarm.DockManager

section Timing
open PyFloat

variable {F : Type} [PyFloat F]

/-- When a charge that starts now is estimated to end. -/
def readyAt (definition : DockDefinition F) (record : DockReservation F) (started : F) : F :=
  add started (max zero (mul (div (sub record.targetBatteryPercent (orZero record.batteryPercent))
    definition.modeledChargeRatePercentPerMin) (ofRat 60)))

structure Timed (docks : DockManager F) (record : DockReservation F)
    (definition : DockDefinition F) (started : F) : Prop where
  known : docks.definitions.get? record.dockId = some definition
  began : record.chargingStartedAtMonotonicS = some started
  estimated : record.estimatedReadyAtMonotonicS = some (readyAt definition record started)

/-- Every confirmed charge is timed. -/
def Timely (docks : DockManager F) : Prop :=
  ∀ key record, docks.reservations.get? key = some record → record.state = .chargingConfirmed →
    ∃ definition started, Timed docks record definition started

structure NoneConfirmed (docks next : DockManager F) : Prop where
  definitions : next.definitions = docks.definitions
  stored : ∀ key record, next.reservations.get? key = some record →
    record.state = .chargingConfirmed → docks.reservations.get? key = some record

namespace NoneConfirmed

variable {docks next later : DockManager F}

theorem refl (docks : DockManager F) : NoneConfirmed docks docks := ⟨rfl, fun _ _ found _ => found⟩

theorem trans (first : NoneConfirmed docks next) (second : NoneConfirmed next later) :
    NoneConfirmed docks later := by
  refine ⟨second.definitions.trans first.definitions, fun key record found state => ?_⟩
  exact first.stored key record (second.stored key record found state) state

theorem timely (none : NoneConfirmed docks next) (timely : Timely docks) : Timely next := by
  intro key record found state
  obtain ⟨definition, started, known, same, estimated⟩ :=
    timely key record (none.stored key record found state) state
  exact ⟨definition, started, none.definitions ▸ known, same, estimated⟩

end NoneConfirmed

variable {docks : DockManager F} {key : String}

theorem noneConfirmed_filed {stored : DockReservation F} (state : stored.state ≠ .chargingConfirmed) :
    NoneConfirmed docks (docks.filed key stored) := by
  refine ⟨rfl, fun other record found confirmed => ?_⟩
  simp only [filed, Dict.get?_insert] at found
  split at found
  · cases found
    exact absurd confirmed state
  · exact found

theorem commit_noneConfirmed {update : Except (Fault F) (DockReservation F)} {eventType : String}
    (typed : isIdentifier eventType = true) (reason : String) (timestamp : F)
    (states : ∀ updated, update = .ok updated → updated.state ≠ .chargingConfirmed) :
    NoneConfirmed docks (docks.commit key update eventType reason timestamp).1 := by
  cases computed : update with
  | error fault => exact .refl docks
  | ok updated =>
    rcases docks.commit_cases key updated typed reason timestamp with ⟨_, fault, eq⟩ | ⟨_, event, eq⟩
    · rw [eq]
      exact ⟨rfl, fun _ _ found _ => found⟩
    · rw [eq]
      refine noneConfirmed_filed ?_
      exact states updated computed

theorem transition_noneConfirmed (target : DockOperationState) (reason : String) (nowS : Option F)
    (clock : Nat → F) : NoneConfirmed docks (docks.transition key target reason nowS clock).1 := by
  refine commit_noneConfirmed (transition_typed target) _ _ fun updated computed => ?_
  obtain ⟨record, _, allowed, rfl⟩ := transitionUpdate_eq_ok computed
  rintro rfl
  cases state : record.state <;> simp [state, DockOperationState.allowed] at allowed

theorem reserve_noneConfirmed (configured : Configured docks) (vehicleId : String)
    (preferred : Option String) (battery : Option F) (target : F) (nowS : Option F) (clock : Nat → F) :
    NoneConfirmed docks (docks.reserve vehicleId preferred battery target nowS clock).1 := by
  rcases reserve_cases configured vehicleId preferred battery target nowS clock
    with ⟨fault, _, eq⟩ | ⟨reservation, event, _, opened, _, _, eq⟩
  · rw [eq]
    exact .refl docks
  · rw [eq]
    obtain ⟨definition, _, _, ⟨queued, _⟩ | ⟨reserved, _⟩⟩ := opened.capacity
    · exact noneConfirmed_filed (by simp [queued])
    · exact noneConfirmed_filed (by simp [reserved])

theorem promoteQueue_noneConfirmed (dockId : String) (timestamp : F) :
    NoneConfirmed docks (docks.promoteQueue dockId timestamp).1 := by
  unfold promoteQueue
  cases docks.definition dockId with
  | error fault => exact .refl docks
  | ok definition =>
    simp only
    cases docks.promotable definition dockId with
    | none => exact .refl docks
    | some selected =>
      have typed : isIdentifier "DOCK_QUEUE_PROMOTED" = true := by decide
      have promoted : NoneConfirmed docks (docks.commit selected.reservationId
          (.ok { selected with state := .reserved, queuePosition := none })
          "DOCK_QUEUE_PROMOTED" "capacity released" timestamp).1 :=
        commit_noneConfirmed typed _ _ fun updated computed => by cases computed; simp
      simp only [andThen]
      split <;> next eq => rwa [eq] at promoted

theorem updateModeledCharge_noneConfirmed (nowS : Option F) (clock : Nat → F) :
    NoneConfirmed docks (docks.updateModeledCharge key nowS clock).1 := by
  unfold updateModeledCharge
  simp only
  cases computed : docks.chargeUpdate key (now nowS (clock 0)) with
  | error fault => exact .refl docks
  | ok updated =>
    obtain ⟨record, target, battery, _, _, charged, same⟩ := chargeUpdate_eq_ok computed
    have typed : isIdentifier (if updated.state = .ready then "MODELED_CHARGE_READY"
        else "MODELED_CHARGE_PROGRESS") = true := by split <;> decide
    have stored : NoneConfirmed docks (docks.commit key (.ok updated)
        (if updated.state = .ready then "MODELED_CHARGE_READY" else "MODELED_CHARGE_PROGRESS")
        "software scheduling model" (now nowS (clock 0))).1 := by
      refine commit_noneConfirmed typed _ _ fun other computed => ?_
      cases computed
      rw [same]
      rcases List.mem_pair.mp charged with rfl | rfl <;> simp
    simp only [andThen]
    split
    · next eq => rwa [eq] at stored
    · next next updated eq =>
      rw [eq] at stored
      split
      · have promoted : NoneConfirmed next (next.promoteQueue updated.dockId (now nowS (clock 0))).1 :=
          promoteQueue_noneConfirmed updated.dockId _
        split <;> next eq => rw [eq] at promoted; exact stored.trans promoted
      · exact stored

theorem divertEach_noneConfirmed (dockId : String) (timestamp : F) (rest : List (DockReservation F))
    (docks : DockManager F) : NoneConfirmed docks (divertEach dockId timestamp rest docks).1 := by
  induction rest generalizing docks with
  | nil => exact .refl docks
  | cons record rest ih =>
    unfold divertEach
    split
    · have typed : isIdentifier "DOCK_UNAVAILABLE" = true := by decide
      have diverted : NoneConfirmed docks (docks.commit record.reservationId
          (.ok (unavailableUpdate record)) "DOCK_UNAVAILABLE" "dock health changed to unavailable"
          timestamp).1 := by
        refine commit_noneConfirmed typed _ _ fun updated computed => ?_
        cases computed
        unfold unavailableUpdate
        dsimp only
        split <;> simp
      simp only [andThen]
      split
      · next eq => rwa [eq] at diverted
      · next next _ eq =>
        rw [eq] at diverted
        exact diverted.trans (ih next)
    · exact ih docks

theorem setHealth_noneConfirmed (dockId : String) (health : DockHealth) (nowS : Option F)
    (clock : Nat → F) : NoneConfirmed docks (docks.setHealth dockId health nowS clock).1 := by
  unfold setHealth
  split
  · exact .refl docks
  · have changed : NoneConfirmed docks { docks with health := docks.health.insert dockId health } :=
      ⟨rfl, fun _ _ found _ => found⟩
    simp only
    split
    · have diverted := changed.trans (divertEach_noneConfirmed dockId (now nowS (clock 0))
        docks.reservations.values { docks with health := docks.health.insert dockId health })
      simp only [andThen]
      split <;> next eq => rwa [eq] at diverted
    · exact changed

theorem confirmModeledCharging_timely (timely : Timely docks) (confirmed : Bool) (nowS : Option F)
    (clock : Nat → F) : Timely (docks.confirmModeledCharging key confirmed nowS clock).1 := by
  unfold confirmModeledCharging
  simp only
  cases landed : docks.landed key with
  | error fault => exact timely
  | ok record =>
  simp only
  split
  · have typed : isIdentifier "MODELED_CHARGING_CONFIRMATION_FAILED" = true := by decide
    refine (commit_noneConfirmed typed _ _ fun updated computed => ?_).timely timely
    cases computed
    unfold unconfirmed
    dsimp only
    split <;> simp
  cases computed : docks.chargingUpdate record (now nowS (clock 0)) with
  | error fault => exact timely
  | ok updated =>
  obtain ⟨definition, known, h⟩ := bind_eq_ok.mp computed
  have known := definition_eq_ok.mp known
  cases h
  have typed : isIdentifier "MODELED_CHARGING_CONFIRMED" = true := by decide
  rcases docks.commit_cases key { record with
      state := .chargingConfirmed
      modeledChargingConfirmed := true
      chargingStartedAtMonotonicS := some (now nowS (clock 0))
      estimatedReadyAtMonotonicS := some (readyAt definition record (now nowS (clock 0))) } typed
    "software scheduling model only; no physical charge claim" (now nowS (clock 0))
    with ⟨_, fault, eq⟩ | ⟨_, event, eq⟩
  · unfold readyAt at eq
    rw [eq]
    have spent : NoneConfirmed docks { docks with sequence := docks.sequence + 1 } :=
      ⟨rfl, fun _ _ found _ => found⟩
    exact spent.timely timely
  · unfold readyAt at eq
    rw [eq]
    intro other stored found state
    simp only [filed, Dict.get?_insert] at found
    split at found
    · cases found
      exact ⟨definition, _, known, rfl, rfl⟩
    · obtain ⟨definition, started, known, began, estimated⟩ := timely other stored found state
      exact ⟨definition, started, known, began, estimated⟩

theorem step_timely (configured : Configured docks) (timely : Timely docks) (call : Call F) :
    Timely (step docks call) := by
  obtain ⟨op, clock⟩ := call
  cases op with
  | reserve => exact (reserve_noneConfirmed configured _ _ _ _ _ _).timely timely
  | reserveAfterHandover handover battery nowS =>
    refine NoneConfirmed.timely ?_ timely
    simp only [step]
    unfold reserveAfterHandover
    split
    · exact .refl docks
    · have reserved := reserve_noneConfirmed configured handover.outgoingVehicleId none battery
        (ofRat 90) nowS clock
      simp only [andThen]
      split
      · next eq => rwa [eq] at reserved
      · next eq =>
        rw [eq] at reserved
        split
        · exact reserved.trans (transition_noneConfirmed _ _ _ _)
        · exact reserved
  | transition => exact (transition_noneConfirmed _ _ _ _).timely timely
  | confirmModeledLanding =>
    have typed : isIdentifier "MODELED_LANDING_OBSERVED" = true := by decide
    refine (commit_noneConfirmed typed _ _ fun updated computed => ?_).timely timely
    obtain ⟨record, _, _, rfl⟩ := landingUpdate_eq_ok computed
    simp
  | confirmModeledCharging => exact confirmModeledCharging_timely timely _ _ _
  | updateModeledCharge => exact (updateModeledCharge_noneConfirmed _ _).timely timely
  | setHealth => exact (setHealth_noneConfirmed _ _ _ _).timely timely

theorem run_timely {definitions : List (DockDefinition F)} {ttl : F}
    {maximumAttempts queueLimit : Nat} {initial : DockManager F}
    (created : create definitions ttl maximumAttempts queueLimit = .ok initial)
    (calls : List (Call F)) :
    Configured (Runs.run step initial calls) ∧ Timely (Runs.run step initial calls) := by
  obtain ⟨configured, empty⟩ := create_eq_ok created
  refine Runs.invariant (I := fun docks => Configured docks ∧ Timely docks)
    (fun docks call reached => ?_) ⟨configured, ?_⟩
  · exact ⟨(step_changes reached.1 call).configured reached.1, step_timely reached.1 reached.2 call⟩
  · intro key record found
    rw [empty] at found
    cases found

end Timing

section Polls
open PyFloat

variable {F : Type} [PyFloat F]

/-- A poll at a time, which the caller gives or the clock reads. -/
def poll (docks : DockManager F) (key : String) (time : F) :
    DockManager F × Except (Fault F) (DockReservation F) :=
  docks.updateModeledCharge key (some time) fun _ => time

def polls (key : String) (last : F) :
    List F → DockManager F → Except (Fault F) (DockReservation F)
  | [], docks => (docks.poll key last).2
  | time :: earlier, docks =>
    match docks.poll key time with
    | (_, .error fault) => .error fault
    | (docks, .ok _) => polls key last earlier docks

/-- The level that a poll writes. -/
def level (definition : DockDefinition F) (record : DockReservation F) (started time : F) : F :=
  min record.targetBatteryPercent (add (orZero record.batteryPercent)
    (mul (div (max zero (sub time started)) (ofRat 60)) definition.modeledChargeRatePercentPerMin))

/-- What a poll returns and leaves behind. -/
structure Polled (docks next : DockManager F) (key : String) (record polled : DockReservation F)
    (definition : DockDefinition F) (started time : F) : Prop where
  charging : record.state ∈ [.chargingConfirmed, .charging]
  known : docks.definitions.get? record.dockId = some definition
  began : record.chargingStartedAtMonotonicS = some started
  battery : polled.batteryPercent = some (level definition record started time)
  state : polled.state =
    if le record.targetBatteryPercent (level definition record started time) then .ready else .charging
  target : polled.targetBatteryPercent = record.targetBatteryPercent
  dock : polled.dockId = record.dockId
  still : polled.chargingStartedAtMonotonicS = some started
  definitions : next.definitions = docks.definitions
  stored : next.reservations.get? key = some polled

variable {docks next : DockManager F} {key : String} {record polled : DockReservation F} {time : F}

theorem promoteQueue_get? (configured : Configured docks) (dockId : String) (timestamp : F)
    (found : docks.reservations.get? key = some record) (served : record.state ≠ .queued) :
    (docks.promoteQueue dockId timestamp).1.reservations.get? key = some record := by
  unfold promoteQueue
  cases docks.definition dockId with
  | error fault => exact found
  | ok definition =>
    simp only
    cases chosen : docks.promotable definition dockId with
    | none => exact found
    | some selected =>
      obtain ⟨_, listed, _, queued⟩ := promotable_eq_some chosen
      obtain ⟨other, its⟩ := (Dict.mem_values_iff _ selected).mp listed
      have named := (configured.named other selected its).1
      have apart : selected.reservationId ≠ key := by
        intro same
        rw [← named, same, found] at its
        cases its
        exact served queued
      have typed : isIdentifier "DOCK_QUEUE_PROMOTED" = true := by decide
      rcases docks.commit_cases selected.reservationId { selected with
          state := .reserved, queuePosition := none } typed "capacity released" timestamp
        with ⟨_, fault, eq⟩ | ⟨_, event, eq⟩
      · simp only [eq, andThen]
        exact found
      · simp only [eq, andThen, filed]
        rw [Dict.get?_insert_of_ne _ _ apart]
        exact found

theorem chargeUpdate_level {updated : DockReservation F}
    (found : docks.reservations.get? key = some record)
    (h : docks.chargeUpdate key time = .ok updated) : ∃ definition started,
      record.state ∈ [.chargingConfirmed, .charging] ∧
      docks.definitions.get? record.dockId = some definition ∧
      record.chargingStartedAtMonotonicS = some started ∧
      updated = { record with
        state := if le record.targetBatteryPercent (level definition record started time) then .ready
          else .charging
        batteryPercent := some (level definition record started time) } := by
  obtain ⟨other, again, h⟩ := bind_eq_ok.mp h
  cases found.symm.trans (reservation_eq_ok.mp again)
  obtain ⟨_, state, h⟩ := bind_eq_ok.mp h
  split at h
  · cases h
  · next started began =>
    obtain ⟨definition, known, h⟩ := bind_eq_ok.mp h
    cases h
    exact ⟨definition, started, by simpa using state, definition_eq_ok.mp known, began, rfl⟩

theorem poll_eq_ok (configured : Configured docks) (found : docks.reservations.get? key = some record)
    (h : docks.poll key time = (next, .ok polled)) :
    ∃ definition started, Polled docks next key record polled definition started time := by
  unfold poll updateModeledCharge at h
  simp only [now, Option.getD_some] at h
  cases computed : docks.chargeUpdate key time with
  | error fault => rw [computed] at h; cases h
  | ok updated =>
  rw [computed] at h
  obtain ⟨definition, started, charging, known, began, same⟩ := chargeUpdate_level found computed
  have typed : isIdentifier (if updated.state = .ready then "MODELED_CHARGE_READY"
      else "MODELED_CHARGE_PROGRESS") = true := by split <;> decide
  simp only at h
  rcases docks.commit_cases key updated typed "software scheduling model" time
    with ⟨_, fault, eq⟩ | ⟨_, event, eq⟩
  · rw [eq] at h
    cases h
  rw [eq] at h
  obtain ⟨stored, logged⟩ : ∃ stored : DockReservation F,
      stored = { updated with events := updated.events ++ [event] } := ⟨_, rfl⟩
  rw [← logged] at h
  have state : stored.state =
      if le record.targetBatteryPercent (level definition record started time) then .ready
        else .charging := by
    rw [logged, same]
  have change : Change docks (docks.filed key stored) := by
    rw [logged, same]
    refine .moved found (.progress charging ?_)
    split <;> simp
  have held : (docks.filed key stored).reservations.get? key = some stored := by
    simp [filed]
  refine ⟨definition, started, ?_⟩
  have polledIs (later : DockManager F) (definitions : later.definitions = docks.definitions)
      (kept : later.reservations.get? key = some stored) :
      Polled docks later key record stored definition started time := by
    refine ⟨charging, known, began, ?_, state, ?_, ?_, ?_, definitions, kept⟩
    · rw [logged, same]
    · rw [logged, same]
    · rw [logged, same]
    · rw [logged, same]
      exact began
  simp only [andThen] at h
  split at h
  · next ready =>
    have served : stored.state ≠ .queued := by rw [ready]; simp
    have promoted := promoteQueue_get? (change.configured configured) stored.dockId time held served
    have promotes : NoneConfirmed (docks.filed key stored) _ :=
      promoteQueue_noneConfirmed stored.dockId time
    have definitions := promotes.definitions
    split at h
    · cases h
    · next later _ promotes =>
      cases h
      rw [promotes] at promoted definitions
      exact polledIs _ definitions promoted
  · cases h
    exact polledIs _ rfl held

theorem polls_charging {last : F} {earlier : List F} {final : DockReservation F}
    (found : docks.reservations.get? key = some record)
    (accepted : polls key last earlier docks = .ok final) :
    record.state ∈ [.chargingConfirmed, .charging] ∧
      ∃ started, record.chargingStartedAtMonotonicS = some started := by
  have polled (time : F) (taken : ∃ next polled, docks.poll key time = (next, .ok polled)) :
      record.state ∈ [.chargingConfirmed, .charging] ∧
        ∃ started, record.chargingStartedAtMonotonicS = some started := by
    obtain ⟨next, polled, taken⟩ := taken
    unfold poll updateModeledCharge at taken
    simp only [now, Option.getD_some] at taken
    cases computed : docks.chargeUpdate key time with
    | error fault => rw [computed] at taken; cases taken
    | ok updated =>
      obtain ⟨_, started, charging, _, began, _⟩ := chargeUpdate_level found computed
      exact ⟨charging, started, began⟩
  cases earlier with
  | nil =>
    rcases equation : docks.poll key last with ⟨next, fault | last'⟩
    · rw [polls, equation] at accepted
      cases accepted
    · exact polled last ⟨next, last', equation⟩
  | cons time earlier =>
    rcases equation : docks.poll key time with ⟨next, fault | first⟩
    · rw [polls, equation] at accepted
      cases accepted
    · exact polled time ⟨next, first, equation⟩

/-- After an accepted poll the state is again one of a configured manager. -/
theorem poll_configured (configured : Configured docks)
    (h : docks.poll key time = (next, .ok polled)) : Configured next := by
  have changes := updateModeledCharge_changes configured key (some time) fun _ => time
  unfold poll at h
  rw [h] at changes
  exact changes.configured configured

end Polls

section Levels

variable {F : Type} [Field F] [LinearOrder F] [IsStrictOrderedRing F] [PyMath F] [Exact F]

/-- The charge that time since the start gives. -/
def gained (definition : DockDefinition F) (started time : F) : F :=
  (time - started) * definition.modeledChargeRatePercentPerMin / PyFloat.ofRat 60

variable {docks : DockManager F} {key : String} {record final : DockReservation F}
  {definition : DockDefinition F} {started last : F} {earlier : List F}

@[simp] theorem orZero_some (value : F) : orZero (some value) = value := by
  unfold orZero
  by_cases none : value = 0
  · simp [none]
  · simp [none]

theorem rate_positive (definition : DockDefinition F) :
    0 < definition.modeledChargeRatePercentPerMin := by
  simpa using definition.ratePositive

theorem gained_nonneg (definition : DockDefinition F) (after : started ≤ last) :
    0 ≤ gained definition started last := by
  have rate := rate_positive definition
  have elapsed : 0 ≤ last - started := sub_nonneg.mpr after
  simp only [gained, Exact.ofRat_cast]
  positivity

theorem gained_eq_zero {time : F} (none : gained definition started time = 0) : time = started := by
  have rate := rate_positive definition
  simp only [gained, Exact.ofRat_cast, div_eq_zero_iff, mul_eq_zero, sub_eq_zero] at none
  rcases none with (same | zero) | sixty
  · exact same
  · exact absurd zero rate.ne'
  · norm_num at sixty

theorem level_eq (after : started ≤ last) : level definition record started last =
    Min.min record.targetBatteryPercent (orZero record.batteryPercent + gained definition started last) := by
  have elapsed : 0 ≤ last - started := sub_nonneg.mpr after
  unfold level gained
  simp only [Exact.min_eq, Exact.max_eq, Exact.zero_eq, Exact.ofRat_cast, Exact.sub_eq, Exact.add_eq,
    Exact.mul_eq, Exact.div_eq, max_eq_right elapsed]
  ring_nf

theorem polls_level (configured : Configured docks)
    (found : docks.reservations.get? key = some record)
    (known : docks.definitions.get? record.dockId = some definition)
    (began : record.chargingStartedAtMonotonicS = some started)
    (below : orZero record.batteryPercent ≤ record.targetBatteryPercent)
    (after : ∀ time ∈ earlier, started ≤ time) (lastAfter : started ≤ last)
    (accepted : polls key last earlier docks = .ok final) :
    let reached := orZero record.batteryPercent + (earlier.map (gained definition started)).sum +
      gained definition started last
    final.batteryPercent = some (Min.min record.targetBatteryPercent reached) ∧
      (final.state = .ready ↔ record.targetBatteryPercent ≤ reached) := by
  induction earlier generalizing docks record with
  | nil =>
    rcases equation : docks.poll key last with ⟨next, fault | polled⟩
    · rw [polls, equation] at accepted
      cases accepted
    rw [polls, equation] at accepted
    cases accepted
    obtain ⟨found', started', done⟩ := poll_eq_ok configured found equation
    cases known.symm.trans done.known
    cases began.symm.trans done.began
    simp only [List.map_nil, List.sum_nil, add_zero]
    refine ⟨by rw [done.battery, level_eq lastAfter], ?_⟩
    rw [done.state, level_eq lastAfter]
    simp
  | cons time earlier ih =>
    rcases equation : docks.poll key time with ⟨next, fault | polled⟩
    · rw [polls, equation] at accepted
      cases accepted
    rw [polls, equation] at accepted
    obtain ⟨found', started', done⟩ := poll_eq_ok configured found equation
    cases known.symm.trans done.known
    cases began.symm.trans done.began
    have here : started ≤ time := after time List.mem_cons_self
    have battery := done.battery
    have state := done.state
    rw [level_eq here] at battery state
    -- the next poll is accepted, so this one has not completed the charge
    have short : orZero record.batteryPercent + gained definition started time <
        record.targetBatteryPercent := by
      by_contra full
      have ready : polled.state = .ready := by
        rw [state, if_pos]
        simpa using full
      obtain ⟨charging, -⟩ := polls_charging done.stored accepted
      rw [ready] at charging
      simp at charging
    have held : orZero polled.batteryPercent =
        orZero record.batteryPercent + gained definition started time := by
      rw [battery, min_eq_right short.le, orZero_some]
    have known : next.definitions.get? polled.dockId = some definition := by
      rw [done.definitions, done.dock]
      exact known
    have rest := ih (poll_configured configured equation) done.stored known done.still
      (by rw [held, done.target]; exact short.le)
      (fun other member => after other (List.mem_cons_of_mem time member)) accepted
    rw [held, done.target] at rest
    simp only [List.map_cons, List.sum_cons, ← add_assoc]
    exact rest

/-- The level and the readiness that the time of the last poll alone decides. -/
structure DecidedByLast (record final : DockReservation F) (definition : DockDefinition F)
    (started ready last : F) : Prop where
  battery : final.batteryPercent = some (Min.min record.targetBatteryPercent
    (orZero record.batteryPercent + gained definition started last))
  ready : final.state = .ready ↔ ready ≤ last

theorem sum_gained_nonneg (after : ∀ time ∈ earlier, started ≤ time) :
    0 ≤ (earlier.map (gained definition started)).sum := by
  refine List.sum_nonneg fun gain member => ?_
  obtain ⟨time, listed, rfl⟩ := List.mem_map.mp member
  exact gained_nonneg definition (after time listed)

theorem sum_gained_eq_zero (after : ∀ time ∈ earlier, started ≤ time) :
    (earlier.map (gained definition started)).sum = 0 ↔ ∀ time ∈ earlier, time = started := by
  induction earlier with
  | nil => simp
  | cons time earlier ih =>
    have here := gained_nonneg definition (after time List.mem_cons_self)
    have later : ∀ other ∈ earlier, started ≤ other :=
      fun other member => after other (List.mem_cons_of_mem time member)
    have rest : 0 ≤ (earlier.map (gained definition started)).sum := sum_gained_nonneg later
    rw [List.map_cons, List.sum_cons, List.forall_mem_cons, ← ih later]
    constructor
    · intro none
      have first : gained definition started time = 0 := by linarith
      exact ⟨gained_eq_zero first, by linarith⟩
    · rintro ⟨rfl, none⟩
      rw [none]
      simp [gained]

/-- The estimate is the time at which the charge since the start reaches the target. -/
theorem readyAt_le_iff (below : orZero record.batteryPercent ≤ record.targetBatteryPercent) :
    readyAt definition record started ≤ last ↔
      record.targetBatteryPercent ≤ orZero record.batteryPercent + gained definition started last := by
  have rate := rate_positive definition
  have missing : 0 ≤ (record.targetBatteryPercent - orZero record.batteryPercent) /
      definition.modeledChargeRatePercentPerMin * 60 :=
    mul_nonneg (div_nonneg (sub_nonneg.mpr below) rate.le) (by norm_num)
  have estimate : readyAt definition record started =
      started + (record.targetBatteryPercent - orZero record.batteryPercent) /
        definition.modeledChargeRatePercentPerMin * 60 := by
    unfold readyAt
    simp only [Exact.max_eq, Exact.zero_eq, Exact.ofRat_cast, Exact.sub_eq, Exact.add_eq,
      Exact.mul_eq, Exact.div_eq, Rat.cast_ofNat, max_eq_right missing]
  rw [estimate]
  simp only [gained, Exact.ofRat_cast, Rat.cast_ofNat]
  constructor
  · intro reached
    have elapsed : (record.targetBatteryPercent - orZero record.batteryPercent) /
        definition.modeledChargeRatePercentPerMin * 60 ≤ last - started := by linarith
    rw [div_mul_eq_mul_div, div_le_iff₀ rate] at elapsed
    have charged : record.targetBatteryPercent - orZero record.batteryPercent ≤
        (last - started) * definition.modeledChargeRatePercentPerMin / 60 := by
      rw [le_div_iff₀ (by norm_num)]
      exact elapsed
    linarith
  · intro reached
    have charged : record.targetBatteryPercent - orZero record.batteryPercent ≤
        (last - started) * definition.modeledChargeRatePercentPerMin / 60 := by linarith
    rw [le_div_iff₀ (by norm_num)] at charged
    have elapsed : (record.targetBatteryPercent - orZero record.batteryPercent) /
        definition.modeledChargeRatePercentPerMin * 60 ≤ last - started := by
      rw [div_mul_eq_mul_div, div_le_iff₀ rate]
      exact charged
    linarith

end Levels

/-- A charge from 80 to 90 percent at 10 percent a minute, confirmed at 16 s. -/
def confirmedCharge : List (Call ℚ) := (chargedRun true).dropLast

end CrazySwarm.DockManager
