import CrazySwarm.DocksCapacity

/-! The dock queue. Only a charge that completes promotes the queue; an attempt that fails for
good, a diversion, a dock that becomes available again and a reservation filed over another
dock's all release capacity and leave the queue standing. Without those calls the queue of an
available dock waits for full capacity only. -/
namespace CrazySwarm.DockManager
open PyFloat

variable {F : Type} [PyFloat F]

/-- An available dock with a queue is full. -/
def Conserving (docks : DockManager F) : Prop :=
  ∀ dockId definition, docks.definitions.get? dockId = some definition →
    docks.health.get? dockId = some .available → 0 < docks.queueLength dockId →
    definition.capacity ≤ docks.occupancy dockId

/-- The arguments an operation passes to `reserve`. -/
structure Request (F : Type) where
  vehicleId : String
  preferredDockId : Option String
  batteryPercent : Option F
  targetBatteryPercent : F
  nowS : Option F

def Op.request : Op F → Option (Request F)
  | .reserve vehicleId preferred battery target nowS => some ⟨vehicleId, preferred, battery, target, nowS⟩
  | .reserveAfterHandover handover battery nowS =>
    if handover.phase = .completed && handover.takeoverConfirmed then
      some ⟨handover.outgoingVehicleId, none, battery, ofRat 90, nowS⟩
    else none
  | _ => none

/-- `reserve` grants `RESERVED` only on a dock nobody is queued for. -/
def FirstCome (docks : DockManager F) (call : Call F) : Prop :=
  ∀ request, call.op.request = some request → ∀ next reservation,
    docks.reserve request.vehicleId request.preferredDockId request.batteryPercent
      request.targetBatteryPercent request.nowS call.clock = (next, .ok reservation) →
    reservation.state = .reserved → docks.queueLength reservation.dockId = 0

/-- Somebody is queued for the dock, which is available. -/
def waiting (docks : DockManager F) (dockId : String) : Bool :=
  (docks.definitions.get? dockId).isSome && docks.health.get? dockId = some .available &&
    0 < docks.queueLength dockId

/-- The dock a request is allocated to: the emptiest usable one. -/
def selection (docks : DockManager F) (preferredDockId : Option String) : Option (DockDefinition F) :=
  match docks.usable preferredDockId with
  | .ok (first :: rest) => some (Sorting.leastBy docks.emptier first rest)
  | _ => none

/-- A request for the dock passes its queue. -/
def overtakes (docks : DockManager F) (selected : DockDefinition F) : Bool :=
  docks.occupancy selected.dockId < selected.capacity && 0 < docks.queueLength selected.dockId

/-- The vehicle's reservation of the dock is filed over one that holds capacity of another dock
with a queue. -/
def evicts (docks : DockManager F) (selected : DockDefinition F) (vehicleId : String) : Bool :=
  (docks.reservations.get? (reservationId selected.dockId vehicleId)).any fun old =>
    old.state.occupiesCapacity && old.dockId ≠ selected.dockId && docks.waiting old.dockId

/-- The request passes the checks of `reserve`. -/
def accepts (docks : DockManager F) (request : Request F) (timestamp : F) : Bool :=
  okWith (docks.allocate request.vehicleId request.preferredDockId request.batteryPercent
    request.targetBatteryPercent timestamp) fun _ => true

/-- The calls that leave a queue beside free capacity, or pass one. -/
def starves (docks : DockManager F) (call : Call F) : Bool :=
  match call.op with
  | .transition reservationId target _ nowS =>
    okWith (docks.reservation reservationId) fun record =>
      target ∈ record.state.allowed && target = .diverted &&
        ge (now nowS (call.clock 0)) zero && docks.waiting record.dockId
  | .confirmModeledCharging reservationId confirmed nowS =>
    okWith (docks.landed reservationId) fun record =>
      (!confirmed || !record.modeledContactObserved) &&
        record.maximumAttempts ≤ record.attempts &&
        ge (now nowS (call.clock 0)) zero && docks.waiting record.dockId
  | .setHealth dockId health _ =>
    okWith (docks.definition dockId) fun definition => health = .available &&
      0 < docks.queueLength dockId && docks.occupancy dockId < definition.capacity
  | op => op.request.any fun request =>
      docks.accepts request (now request.nowS (call.clock 0)) &&
        (docks.selection request.preferredDockId).any fun selected =>
          docks.overtakes selected || docks.evicts selected request.vehicleId

structure SameLine (docks next : DockManager F) : Prop where
  definitions : next.definitions = docks.definitions
  health : next.health = docks.health
  occupancy : ∀ dockId, next.occupancy dockId = docks.occupancy dockId
  queueLength : ∀ dockId, next.queueLength dockId = docks.queueLength dockId

theorem SameLine.conserving_iff {docks next : DockManager F} (same : SameLine docks next) :
    Conserving next ↔ Conserving docks := by
  simp only [Conserving, same.definitions, same.health, same.occupancy, same.queueLength]

/-- The dock, when available with a queue, has at most `free` places left. -/
def Lacks (docks : DockManager F) (dockId : String) (free : Nat) : Prop :=
  ∀ definition, docks.definitions.get? dockId = some definition →
    docks.health.get? dockId = some .available → 0 < docks.queueLength dockId →
    definition.capacity ≤ docks.occupancy dockId + free

theorem SameLine.refl (docks : DockManager F) : SameLine docks docks :=
  ⟨rfl, rfl, fun _ => rfl, fun _ => rfl⟩

theorem queueLength_filed (docks : DockManager F) (key : String) (stored : DockReservation F)
    (dockId : String) : (docks.filed key stored).queueLength dockId +
      ((docks.reservations.get? key).any (waits dockId)).toNat =
        docks.queueLength dockId + (waits dockId stored).toNat :=
  docks.reservations.countP_insert key stored (waits dockId)

section Filing
variable {docks : DockManager F} {key : String} {record stored : DockReservation F}

theorem sameLine_filed (found : docks.reservations.get? key = some record)
    (dock : stored.dockId = record.dockId)
    (occupied : stored.state.occupiesCapacity = record.state.occupiesCapacity)
    (queued : stored.state = .queued ↔ record.state = .queued) :
    SameLine docks (docks.filed key stored) := by
  refine ⟨rfl, rfl, fun dockId => ?_, fun dockId => ?_⟩
  · have counted := docks.occupancy_filed key stored dockId
    have same : occupies dockId stored = occupies dockId record := by simp [occupies, dock, occupied]
    rw [found, Option.any_some, same] at counted
    omega
  · have counted := docks.queueLength_filed key stored dockId
    have same : waits dockId stored = waits dockId record := by simp [waits, dock, queued]
    rw [found, Option.any_some, same] at counted
    omega

theorem released_filed (found : docks.reservations.get? key = some record)
    (dock : stored.dockId = record.dockId) (held : record.state.occupiesCapacity = true)
    (left : stored.state.occupiesCapacity = false) (out : stored.state ≠ .queued) (dockId : String) :
    (docks.filed key stored).queueLength dockId = docks.queueLength dockId ∧
    (docks.filed key stored).occupancy dockId + (if record.dockId = dockId then 1 else 0) =
      docks.occupancy dockId := by
  have unqueued : record.state ≠ .queued := by
    intro queued
    rw [queued] at held
    cases held
  have counted := docks.occupancy_filed key stored dockId
  have lined := docks.queueLength_filed key stored dockId
  rw [found, Option.any_some] at counted lined
  simp only [occupies, dock, held, left, waits, out, unqueued, decide_false, Bool.and_false,
    Bool.and_true, Bool.toNat_false, Nat.add_zero] at counted lined
  refine ⟨lined, ?_⟩
  split
  · next mine => simpa [mine] using counted
  · next other => simpa [other] using counted

/-- Capacity released without a promotion is kept from the queue exactly when there is one. -/
theorem released_conserving_iff (conserving : Conserving docks) (safe : Safe docks)
    (found : docks.reservations.get? key = some record) (dock : stored.dockId = record.dockId)
    (held : record.state.occupiesCapacity = true) (left : stored.state.occupiesCapacity = false)
    (out : stored.state ≠ .queued) :
    Conserving (docks.filed key stored) ↔ docks.waiting record.dockId = false := by
  have counts := released_filed found dock held left out
  constructor
  · intro kept
    by_contra waits
    simp only [Bool.not_eq_false, waiting, Bool.and_eq_true, decide_eq_true_eq,
      Option.isSome_iff_exists] at waits
    obtain ⟨⟨⟨definition, known⟩, healthy⟩, queued⟩ := waits
    have full := kept record.dockId definition known healthy (by rw [(counts _).1]; exact queued)
    have bounded := safe.capacity record.dockId definition known
    have freed := (counts record.dockId).2
    simp only [if_true] at freed
    omega
  · intro empty dockId definition known healthy queued
    rw [(counts dockId).1] at queued
    have freed := (counts dockId).2
    by_cases mine : record.dockId = dockId
    · subst mine
      have known : docks.definitions.get? record.dockId = some definition := known
      have healthy : docks.health.get? record.dockId = some .available := healthy
      simp [waiting, known, healthy, queued] at empty
    · have full := conserving dockId definition known healthy queued
      simp only [mine, if_false] at freed
      omega

theorem promoted_filed (found : docks.reservations.get? key = some record)
    (dock : stored.dockId = record.dockId) (queued : record.state = .queued)
    (reserved : stored.state = .reserved) (dockId : String) :
    (docks.filed key stored).queueLength dockId + (if record.dockId = dockId then 1 else 0) =
      docks.queueLength dockId ∧
    (docks.filed key stored).occupancy dockId =
      docks.occupancy dockId + if record.dockId = dockId then 1 else 0 := by
  have counted := docks.occupancy_filed key stored dockId
  have lined := docks.queueLength_filed key stored dockId
  rw [found, Option.any_some] at counted lined
  by_cases mine : record.dockId = dockId <;>
    simp [occupies, waits, dock, mine, queued, reserved, DockOperationState.occupiesCapacity]
      at counted lined ⊢ <;> omega

theorem filed_elsewhere (found : docks.reservations.get? key = some record)
    (dock : stored.dockId = record.dockId) {dockId : String} (elsewhere : dockId ≠ record.dockId) :
    (docks.filed key stored).occupancy dockId = docks.occupancy dockId ∧
      (docks.filed key stored).queueLength dockId = docks.queueLength dockId := by
  have counted := docks.occupancy_filed key stored dockId
  have lined := docks.queueLength_filed key stored dockId
  rw [found, Option.any_some] at counted lined
  simp only [occupies, waits, dock, elsewhere.symm, decide_false, Bool.false_and,
    Bool.toNat_false, Nat.add_zero] at counted lined
  exact ⟨counted, lined⟩

end Filing

section Operations
variable {docks : DockManager F}

theorem time_of_rejected {record : DockReservation F} {timestamp : F}
    (rejected : ¬ Announceable record timestamp) (checked : Checked record) :
    ge timestamp zero = false :=
  Bool.not_eq_true _ ▸ fun valid => rejected ⟨checked, valid⟩

theorem transition_sameLine (docks : DockManager F) (key : String) {target : DockOperationState}
    (kept : target ≠ .diverted) (reason : String) (nowS : Option F) (clock : Nat → F) :
    SameLine docks (docks.transition key target reason nowS clock).1 := by
  unfold transition
  cases computed : docks.transitionUpdate key target with
  | error fault => exact .refl docks
  | ok updated =>
    obtain ⟨record, found, allowed, rfl⟩ := transitionUpdate_eq_ok computed
    rcases docks.commit_cases key _ (transition_typed target) reason (now nowS (clock 0))
      with ⟨_, fault, eq⟩ | ⟨_, event, eq⟩
    · rw [eq]
      exact ⟨rfl, rfl, fun _ => rfl, fun _ => rfl⟩
    · rw [eq]
      refine sameLine_filed found ?_ ?_ ?_
      · rfl
      all_goals
        cases state : record.state <;>
          simp_all [DockOperationState.allowed, DockOperationState.occupiesCapacity]

theorem transition_conserving_iff (sound : Sound docks) (conserving : Conserving docks)
    (key : String) (target : DockOperationState) (reason : String) (nowS : Option F)
    (clock : Nat → F) :
    Conserving (docks.transition key target reason nowS clock).1 ↔
      starves docks ⟨.transition key target reason nowS, clock⟩ = false := by
  by_cases diverted : target = .diverted
  case neg =>
    have kept := (docks.transition_sameLine key diverted reason nowS clock).conserving_iff.mpr conserving
    simp only [kept, true_iff, starves, diverted, decide_false, Bool.and_false, Bool.false_and]
    cases docks.reservation key <;> rfl
  subst diverted
  unfold transition
  simp only [starves, decide_true, Bool.and_true]
  cases computed : docks.transitionUpdate key .diverted with
  | error fault =>
    have refused : okWith (docks.reservation key) (fun record =>
        decide (DockOperationState.diverted ∈ record.state.allowed) &&
          ge (now nowS (clock 0)) zero && docks.waiting record.dockId) = false := by
      cases lookup : docks.reservation key with
      | error fault => rfl
      | ok record =>
        by_cases allowed : DockOperationState.diverted ∈ record.state.allowed
        · simp [transitionUpdate, lookup, bind, Except.bind, require, allowed] at computed
        · simp [okWith, allowed]
    rw [refused]
    exact iff_of_true conserving rfl
  | ok updated =>
    obtain ⟨record, found, allowed, same⟩ := transitionUpdate_eq_ok computed
    have checked := sound.configured.checked key record found
    simp only [reservation_eq_ok.mpr found, okWith, allowed, decide_true, Bool.true_and]
    rcases docks.commit_cases key updated (transition_typed .diverted) reason (now nowS (clock 0))
      with ⟨rejected, fault, eq⟩ | ⟨accepted, event, eq⟩ <;> subst same
    · have time := time_of_rejected rejected ⟨checked.1, checked.2, checked.3⟩
      rw [eq, time]
      exact iff_of_true conserving rfl
    · have retried : record.state = .retryPending := by
        cases state : record.state <;> simp_all [DockOperationState.allowed]
      rw [eq]
      refine (released_conserving_iff conserving sound.safe found ?_ ?_ ?_ ?_).trans ?_
      · rfl
      · rw [retried]; rfl
      · rfl
      · simp
      · simp [accepted.timestamp]

theorem confirmModeledLanding_sameLine (docks : DockManager F) (key : String) (contact : Bool)
    (nowS : Option F) (clock : Nat → F) :
    SameLine docks (docks.confirmModeledLanding key contact nowS clock).1 := by
  unfold confirmModeledLanding
  cases computed : docks.landingUpdate key contact with
  | error fault => exact .refl docks
  | ok updated =>
    obtain ⟨record, found, state, rfl⟩ := landingUpdate_eq_ok computed
    have typed : isIdentifier "MODELED_LANDING_OBSERVED" = true := by decide
    rcases docks.commit_cases key _ typed _ (now nowS (clock 0)) with ⟨_, fault, eq⟩ | ⟨_, event, eq⟩
    · rw [eq]
      exact ⟨rfl, rfl, fun _ => rfl, fun _ => rfl⟩
    · rw [eq]
      exact sameLine_filed found rfl (by rw [state]; rfl) (by simp [state])

theorem confirmModeledCharging_conserving_iff (sound : Sound docks) (conserving : Conserving docks)
    (key : String) (confirmed : Bool) (nowS : Option F) (clock : Nat → F) :
    Conserving (docks.confirmModeledCharging key confirmed nowS clock).1 ↔
      starves docks ⟨.confirmModeledCharging key confirmed nowS, clock⟩ = false := by
  unfold confirmModeledCharging
  simp only [starves]
  cases landed : docks.landed key with
  | error fault => simpa [okWith] using conserving
  | ok record =>
  obtain ⟨found, state⟩ := landed_eq_ok.mp landed
  have checked := sound.configured.checked key record found
  simp only [okWith]
  by_cases failed : (!confirmed || !record.modeledContactObserved) = true
  · simp only [failed, if_true, Bool.true_and]
    have typed : isIdentifier "MODELED_CHARGING_CONFIRMATION_FAILED" = true := by decide
    rcases docks.commit_cases key (unconfirmed record) typed
      "landed but modeled charging was not confirmed" (now nowS (clock 0))
      with ⟨rejected, fault, eq⟩ | ⟨accepted, event, eq⟩
    · have time := time_of_rejected rejected ⟨checked.1, checked.2, checked.3⟩
      rw [eq]
      simp only [time, Bool.and_false, Bool.false_and, iff_true]
      exact conserving
    · rw [eq]
      by_cases spent : record.maximumAttempts ≤ record.attempts
      · refine (released_conserving_iff conserving sound.safe found ?_ ?_ ?_ ?_).trans ?_
        · rfl
        · rw [state]; rfl
        · simp only [unconfirmed, spent, if_true]; rfl
        · simp [unconfirmed, spent]
        · simp [spent, accepted.timestamp]
      · simp only [spent, decide_false, Bool.false_and, iff_true]
        refine (sameLine_filed found ?_ ?_ ?_).conserving_iff.mpr conserving
        · rfl
        · simp only [unconfirmed, spent, state]; rfl
        · simp [unconfirmed, spent, state]
  · simp only [failed, if_false, Bool.false_and, iff_true, Bool.false_eq_true]
    cases computed : docks.chargingUpdate record (now nowS (clock 0)) with
    | error fault => exact conserving
    | ok updated =>
      obtain ⟨started, ready, rfl⟩ := chargingUpdate_eq_ok computed
      have typed : isIdentifier "MODELED_CHARGING_CONFIRMED" = true := by decide
      rcases docks.commit_cases key _ typed
        "software scheduling model only; no physical charge claim" (now nowS (clock 0))
        with ⟨_, fault, eq⟩ | ⟨_, event, eq⟩
      · rw [eq]
        exact conserving
      · rw [eq]
        refine (sameLine_filed found ?_ ?_ ?_).conserving_iff.mpr conserving
        · rfl
        · rw [state]; rfl
        · simp [state]

theorem promotable_eq_none {definition : DockDefinition F} {dockId : String}
    (h : docks.promotable definition dockId = none) (queued : 0 < docks.queueLength dockId) :
    definition.capacity ≤ docks.occupancy dockId := by
  unfold promotable at h
  split at h
  · assumption
  · split at h
    · next empty => simp [queueLength, List.countP_eq_length_filter, empty] at queued
    · cases h

/-- A promotion fills one free place, so that a dock short of one place ends up full. -/
theorem promoteQueue_conserving (configured : Configured docks) (dockId : String) {timestamp : F}
    (valid : ge timestamp zero = true) (others : ∀ other, other ≠ dockId → Lacks docks other 0)
    (slack : Lacks docks dockId 1) : Conserving (docks.promoteQueue dockId timestamp).1 := by
  have conserving : Lacks docks dockId 0 → Conserving docks := fun full other => by
    by_cases same : other = dockId
    · exact same ▸ full
    · exact others other same
  unfold promoteQueue
  cases lookup : docks.definition dockId with
  | error fault =>
    refine conserving fun definition found => ?_
    rw [definition_eq_ok.mpr found] at lookup
    cases lookup
  | ok definition =>
  have known := definition_eq_ok.mp lookup
  simp only
  cases chosen : docks.promotable definition dockId with
  | none =>
    refine conserving fun other found _ queued => ?_
    rw [known] at found
    cases found
    exact promotable_eq_none chosen queued
  | some record =>
    obtain ⟨free, listed, rfl, queued⟩ := promotable_eq_some chosen
    obtain ⟨key, found⟩ := (Dict.mem_values_iff _ record).mp listed
    obtain rfl := (configured.named key record found).1
    have checked := configured.checked _ record found
    have typed : isIdentifier "DOCK_QUEUE_PROMOTED" = true := by decide
    rcases docks.commit_cases record.reservationId { record with
        state := .reserved, queuePosition := none } typed "capacity released" timestamp
      with ⟨rejected, _⟩ | ⟨_, event, eq⟩
    · exact absurd ⟨⟨checked.1, checked.2, checked.3⟩, valid⟩ rejected
    simp only [eq, andThen]
    generalize promoted : ({ record with
      state := .reserved, queuePosition := none, events := record.events ++ [event] } :
        DockReservation F) = stored
    intro other definition known healthy waiting
    have dock : stored.dockId = record.dockId := by rw [← promoted]
    have counts := promoted_filed found dock queued (by rw [← promoted]) other
    rw [counts.2]
    by_cases mine : record.dockId = other
    · subst mine
      simp only [if_true] at counts ⊢
      exact slack definition known healthy (by omega)
    · simp only [mine, if_false, Nat.add_zero] at counts ⊢
      exact others other (Ne.symm mine) definition known healthy (by omega)

/-- A charge that completes releases its place and promotes the queue into it. -/
theorem updateModeledCharge_conserving (sound : Sound docks) (conserving : Conserving docks)
    (key : String) (nowS : Option F) (clock : Nat → F) :
    Conserving (docks.updateModeledCharge key nowS clock).1 := by
  unfold updateModeledCharge
  simp only
  cases computed : docks.chargeUpdate key (now nowS (clock 0)) with
  | error fault => exact conserving
  | ok updated =>
  obtain ⟨record, target, battery, found, state, charged, same⟩ := chargeUpdate_eq_ok computed
  have held : record.state.occupiesCapacity = true := by
    rcases List.mem_pair.mp state with state | state <;> rw [state] <;> rfl
  have unqueued : record.state ≠ .queued := by
    rcases List.mem_pair.mp state with state | state <;> simp [state]
  have typed : isIdentifier (if updated.state = .ready then "MODELED_CHARGE_READY"
      else "MODELED_CHARGE_PROGRESS") = true := by split <;> decide
  simp only
  rcases docks.commit_cases key updated typed "software scheduling model" (now nowS (clock 0))
    with ⟨_, fault, eq⟩ | ⟨accepted, event, eq⟩
  · simp only [eq, andThen]
    exact conserving
  obtain ⟨stored, logged, eq⟩ : ∃ stored : DockReservation F,
      stored = { updated with events := updated.events ++ [event] } ∧
      docks.commit key (.ok updated) (if updated.state = .ready then "MODELED_CHARGE_READY"
        else "MODELED_CHARGE_PROGRESS") "software scheduling model" (now nowS (clock 0)) =
          (docks.filed key stored, .ok stored) := ⟨_, rfl, eq⟩
  have dock : stored.dockId = record.dockId := by rw [logged, same]
  have moved : stored.state = target := by rw [logged, same]
  simp only [eq, andThen]
  rcases List.mem_pair.mp charged with rfl | rfl
  · have counts := released_filed found dock held (by rw [moved]; rfl) (by simp [moved])
    have change : Change docks (docks.filed key stored) := by
      rw [logged, same]
      exact .moved found (.progress state charged)
    have promotes := promoteQueue_conserving (change.configured sound.configured) stored.dockId
      accepted.timestamp
      (fun other elsewhere definition known healthy queued => by
        have counts := counts other
        have full := conserving other definition known healthy (by omega)
        rw [dock] at elsewhere
        simp only [Ne.symm elsewhere, if_false] at counts
        omega)
      (fun definition known healthy queued => by
        have counts := counts stored.dockId
        have full := conserving _ definition known healthy (by omega)
        split at counts <;> omega)
    rw [if_pos moved]
    rcases equation : (docks.filed key stored).promoteQueue stored.dockId (now nowS (clock 0))
      with ⟨next, fault | u⟩ <;>
    · rw [equation] at promotes
      exact promotes
  · rw [if_neg (by simp [moved])]
    refine (sameLine_filed found dock ?_ ?_).conserving_iff.mpr conserving
    · rw [moved, held]; rfl
    · simp [moved, unqueued]

/-- What the diversions of `set_health` leave as it was. -/
structure Elsewhere (dockId : String) (docks next : DockManager F) : Prop where
  definitions : next.definitions = docks.definitions
  health : next.health = docks.health
  occupancy : ∀ other, other ≠ dockId → next.occupancy other = docks.occupancy other
  queueLength : ∀ other, other ≠ dockId → next.queueLength other = docks.queueLength other

theorem divertEach_elsewhere (dockId : String) (timestamp : F) (docks : DockManager F)
    {rest : List (DockReservation F)} (unvisited : Unvisited docks rest) :
    Elsewhere dockId docks (divertEach dockId timestamp rest docks).1 := by
  induction rest generalizing docks with
  | nil => exact ⟨rfl, rfl, fun _ _ => rfl, fun _ _ => rfl⟩
  | cons record rest ih =>
    unfold divertEach
    split
    · next mine =>
      simp only [Bool.and_eq_true, decide_eq_true_eq, Bool.not_eq_true'] at mine
      have typed : isIdentifier "DOCK_UNAVAILABLE" = true := by decide
      have found := unvisited.stored record List.mem_cons_self
      rcases docks.commit_cases record.reservationId (unavailableUpdate record) typed
        "dock health changed to unavailable" timestamp with ⟨_, fault, eq⟩ | ⟨_, event, eq⟩
      · simp only [eq, andThen]
        exact ⟨rfl, rfl, fun _ _ => rfl, fun _ _ => rfl⟩
      · simp only [eq, andThen]
        obtain ⟨definitions, health, occupancy, queueLength⟩ := ih
          (docks.filed record.reservationId { unavailableUpdate record with
            events := (unavailableUpdate record).events ++ [event] })
          (unvisited.tail fun key apart => Dict.get?_insert_of_ne _ _ (Ne.symm apart))
        refine ⟨definitions, health, fun other apart => (occupancy other apart).trans ?_,
          fun other apart => (queueLength other apart).trans ?_⟩
        · refine (filed_elsewhere found ?_ (mine.1 ▸ apart)).1
          rfl
        · refine (filed_elsewhere found ?_ (mine.1 ▸ apart)).2
          rfl
    · exact ih _ (unvisited.tail fun _ _ => rfl)

theorem setHealth_conserving_iff (sound : Sound docks) (conserving : Conserving docks)
    (dockId : String) (health : DockHealth) (nowS : Option F) (clock : Nat → F) :
    Conserving (docks.setHealth dockId health nowS clock).1 ↔
      starves docks ⟨.setHealth dockId health nowS, clock⟩ = false := by
  unfold setHealth
  simp only [starves]
  cases lookup : docks.definition dockId with
  | error fault => exact iff_of_true conserving rfl
  | ok definition =>
  have known := definition_eq_ok.mp lookup
  -- only the dock itself can change its standing
  have others : ∀ other, other ≠ dockId →
      Lacks { docks with health := docks.health.insert dockId health } other 0 := by
    intro other apart found known healthy queued
    simp only [Dict.get?_insert_of_ne _ _ (Ne.symm apart)] at healthy
    exact conserving other found known healthy queued
  simp only [okWith]
  by_cases unavailable : health = .unavailable
  · subst unavailable
    simp only [if_true, reduceCtorEq, decide_false, Bool.false_and, iff_true]
    have unvisited : Unvisited { docks with health := docks.health.insert dockId .unavailable }
        docks.reservations.values :=
      ⟨sound.configured.unvisited.stored, sound.configured.unvisited.distinct⟩
    have left := divertEach_elsewhere dockId (now nowS (clock 0)) _ unvisited
    have kept : Conserving (divertEach dockId (now nowS (clock 0)) docks.reservations.values
        { docks with health := docks.health.insert dockId .unavailable }).1 := by
      intro other found known healthy queued
      rw [left.definitions] at known
      rw [left.health] at healthy
      have apart : other ≠ dockId := by
        rintro rfl
        simp at healthy
      rw [left.queueLength other apart] at queued
      rw [left.occupancy other apart]
      exact others other apart found known healthy queued
    rcases equation : divertEach dockId (now nowS (clock 0)) docks.reservations.values
      { docks with health := docks.health.insert dockId .unavailable } with ⟨next, fault | u⟩ <;>
    · rw [equation] at kept
      exact kept
  · simp only [unavailable, if_false]
    constructor
    · intro kept
      by_contra idle
      simp only [Bool.not_eq_false, Bool.and_eq_true, decide_eq_true_eq] at idle
      obtain ⟨⟨rfl, queued⟩, free⟩ := idle
      have full := kept dockId definition known (by simp) queued
      exact absurd free (Nat.not_lt.mpr full)
    · intro busy other found listed healthy queued
      by_cases same : other = dockId
      · subst same
        have listed : docks.definitions.get? other = some found := listed
        rw [known] at listed
        cases listed
        simp only [Dict.get?_insert_self, Option.some.injEq] at healthy
        have queued : 0 < docks.queueLength other := queued
        simp only [healthy, queued, decide_true, Bool.true_and, decide_eq_false_iff_not,
          Nat.not_lt] at busy
        exact busy
      · exact others other same found listed healthy queued

/-- The dock `reserve` files an accepted request at is the selected one. -/
theorem allocate_selection (identified : Identified docks) {vehicleId : String}
    {preferred : Option String} {battery : Option F} {target timestamp : F}
    {reservation : DockReservation F}
    (h : docks.allocate vehicleId preferred battery target timestamp = .ok reservation) :
    ∃ selected, docks.selection preferred = some selected ∧ reservation.dockId = selected.dockId ∧
      docks.definitions.get? selected.dockId = some selected := by
  obtain ⟨_, _, h⟩ := bind_eq_ok.mp h
  obtain ⟨usable, listed, h⟩ := bind_eq_ok.mp h
  split at h
  · cases h
  next first rest =>
  obtain ⟨_, _, h⟩ := bind_eq_ok.mp h
  obtain ⟨_, rfl⟩ := validated_eq_ok.mp h
  exact ⟨_, by simp [selection, listed], rfl,
    (usable_eq_ok identified listed _ (Sorting.leastBy_mem docks.emptier first rest)).1⟩

omit [PyFloat F] in
theorem unfinished_of_occupies {state : DockOperationState} (held : state.occupiesCapacity = true) :
    state.terminal = false := by
  cases state <;> first | rfl | cases held

theorem reservationId_inj {dockId one other : String}
    (h : reservationId dockId one = reservationId dockId other) : one = other := by
  simpa [reservationId] using h

theorem replaced_elsewhere (configured : Configured docks) {reservation old : DockReservation F}
    (opened : Opened docks reservation)
    (found : docks.reservations.get? reservation.reservationId = some old)
    (unfinished : old.state.terminal = false) : old.dockId ≠ reservation.dockId := by
  intro same
  have named := (configured.named _ old found).2
  rw [opened.named, same] at named
  have finished := opened.unheld _ old found (reservationId_inj named).symm
  rw [unfinished] at finished
  cases finished

theorem filed_conserving_iff (sound : Sound docks) (conserving : Conserving docks)
    {reservation stored : DockReservation F} {selected : DockDefinition F}
    (opened : Opened docks reservation) (dock : stored.dockId = reservation.dockId)
    (state : stored.state = reservation.state) (selects : reservation.dockId = selected.dockId)
    (known : docks.definitions.get? selected.dockId = some selected)
    (polite : docks.overtakes selected = false) :
    Conserving (docks.filed reservation.reservationId stored) ↔
      docks.evicts selected reservation.vehicleId = false := by
  have key : reservationId selected.dockId reservation.vehicleId = reservation.reservationId := by
    rw [opened.named, selects]
  have counted := docks.occupancy_filed reservation.reservationId stored
  have lined := docks.queueLength_filed reservation.reservationId stored
  simp only [evicts, key]
  constructor
  · intro kept
    by_contra evicted
    rw [Bool.not_eq_false] at evicted
    obtain ⟨old, found, evicted⟩ := (Option.any_eq_true _ _).mp evicted
    simp only [waiting, Bool.and_eq_true, decide_eq_true_eq, Option.isSome_iff_exists] at evicted
    obtain ⟨⟨held, apart⟩, ⟨⟨definition, listed⟩, healthy⟩, queued⟩ := evicted
    have counted := counted old.dockId
    have lined := lined old.dockId
    have unqueued : old.state ≠ .queued := by
      intro state
      rw [state] at held
      cases held
    have elsewhere : stored.dockId ≠ old.dockId := by rw [dock, selects]; exact Ne.symm apart
    simp only [found, Option.any_some, occupies, waits, held, unqueued, elsewhere, decide_true,
      decide_false, Bool.and_true, Bool.and_false, Bool.false_and, Bool.toNat_true,
      Bool.toNat_false, Nat.add_zero] at counted lined
    have full := kept old.dockId definition listed healthy (by omega)
    have bounded := sound.safe.capacity old.dockId definition listed
    omega
  · intro unevicted other definition listed healthy queued
    have listed : docks.definitions.get? other = some definition := listed
    have healthy : docks.health.get? other = some .available := healthy
    have counted := counted other
    have lined := lined other
    by_cases mine : stored.dockId = other
    · obtain rfl : selected.dockId = other := by rw [← selects, ← dock]; exact mine
      obtain rfl : selected = definition := Option.some.inj (known.symm.trans listed)
      have idle : (docks.reservations.get? reservation.reservationId).any
          (occupies selected.dockId) = false := by
        by_contra taken
        rw [Bool.not_eq_false] at taken
        obtain ⟨old, found, taken⟩ := (Option.any_eq_true _ _).mp taken
        simp only [occupies, Bool.and_eq_true, decide_eq_true_eq] at taken
        exact replaced_elsewhere sound.configured opened found (unfinished_of_occupies taken.2)
          (taken.1.trans selects.symm)
      rw [idle, Bool.toNat_false, Nat.add_zero] at counted
      obtain ⟨definition, again, _, place⟩ := opened.capacity
      rw [selects, known] at again
      cases again
      rw [selects] at place
      rcases place with ⟨_, full⟩ | ⟨reserved, free⟩
      · omega
      · have unqueued : waits selected.dockId stored = false := by simp [waits, state, reserved]
        rw [unqueued, Bool.toNat_false, Nat.add_zero] at lined
        simp only [overtakes, free, decide_true, Bool.true_and, decide_eq_false_iff_not] at polite
        omega
    · have unstored : occupies other stored = false ∧ waits other stored = false := by
        simp [occupies, waits, mine]
      rw [unstored.1, Bool.toNat_false, Nat.add_zero] at counted
      rw [unstored.2, Bool.toNat_false, Nat.add_zero] at lined
      have line : 0 < docks.queueLength other := by omega
      have full := conserving other definition listed healthy line
      cases taken : (docks.reservations.get? reservation.reservationId).any (occupies other) with
      | false =>
        rw [taken, Bool.toNat_false, Nat.add_zero] at counted
        omega
      | true =>
        obtain ⟨old, found, held⟩ := (Option.any_eq_true _ _).mp taken
        simp only [occupies, Bool.and_eq_true, decide_eq_true_eq] at held
        obtain ⟨rfl, held⟩ := held
        have apart : old.dockId ≠ selected.dockId := fun same => mine (by rw [dock, selects, same])
        rw [found, Option.any_some, held] at unevicted
        simp [apart, waiting, listed, healthy, line] at unevicted

theorem reserve_conserving_iff (sound : Sound docks) (conserving : Conserving docks)
    (request : Request F) (clock : Nat → F) :
    (Conserving (docks.reserve request.vehicleId request.preferredDockId request.batteryPercent
        request.targetBatteryPercent request.nowS clock).1 ∧
      ∀ next reservation, docks.reserve request.vehicleId request.preferredDockId
        request.batteryPercent request.targetBatteryPercent request.nowS clock =
          (next, .ok reservation) →
        reservation.state = .reserved → docks.queueLength reservation.dockId = 0) ↔
    (docks.accepts request (now request.nowS (clock 0)) &&
      (docks.selection request.preferredDockId).any fun selected =>
        docks.overtakes selected || docks.evicts selected request.vehicleId) = false := by
  rcases reserve_cases sound.configured request.vehicleId request.preferredDockId
    request.batteryPercent request.targetBatteryPercent request.nowS clock
    with ⟨fault, failed, eq⟩ | ⟨reservation, event, allocated, opened, _, vehicle, eq⟩
  · simp [eq, conserving, accepts, failed, okWith]
  · obtain ⟨selected, selection, selects, known⟩ :=
      allocate_selection sound.configured.identified allocated
    simp only [eq, accepts, allocated, okWith, selection, Option.any_some, Bool.true_and,
      Bool.or_eq_false_iff, Prod.mk.injEq, Except.ok.injEq, and_imp]
    obtain ⟨definition, again, _, place⟩ := opened.capacity
    rw [selects, known] at again
    cases again
    have polite : (reservation.state = .reserved → docks.queueLength reservation.dockId = 0) ↔
        docks.overtakes selected = false := by
      rw [selects] at place ⊢
      rcases place with ⟨queued, full⟩ | ⟨reserved, free⟩
      · simp [queued, overtakes, Nat.not_lt.mpr full]
      · simp [reserved, overtakes, free]
    constructor
    · rintro ⟨kept, first⟩
      have first := first _ _ rfl rfl
      have polite := polite.mp first
      refine ⟨polite, vehicle ▸ (filed_conserving_iff sound conserving opened ?_ ?_ selects known
        polite).mp kept⟩
      · rfl
      · rfl
    · rintro ⟨unpassed, unevicted⟩
      refine ⟨(filed_conserving_iff sound conserving opened ?_ ?_ selects known unpassed).mpr
        (vehicle ▸ unevicted), ?_⟩
      · rfl
      · rfl
      · rintro _ _ rfl rfl
        exact polite.mpr unpassed

theorem reserveAfterHandover_sameLine (docks : DockManager F) {handover : HandoverRecord F}
    (released : (handover.phase = .completed && handover.takeoverConfirmed) = true)
    (battery nowS : Option F) (clock : Nat → F) :
    SameLine (docks.reserve handover.outgoingVehicleId none battery (ofRat 90) nowS clock).1
      (docks.reserveAfterHandover handover battery nowS clock).1 := by
  unfold reserveAfterHandover
  rw [released, Bool.not_true, if_neg Bool.false_ne_true]
  rcases docks.reserve handover.outgoingVehicleId none battery (ofRat 90) nowS clock
    with ⟨next, fault | reservation⟩
  · exact .refl next
  · simp only [andThen]
    split
    · exact next.transition_sameLine _ (by simp) _ _ _
    · exact .refl next

/-- One call keeps the law of the queue exactly when it is not one that starves it. -/
theorem step_conserving_iff (sound : Sound docks) (conserving : Conserving docks) (call : Call F) :
    (Conserving (step docks call) ∧ FirstCome docks call) ↔ starves docks call = false := by
  obtain ⟨op, clock⟩ := call
  have quiet : op.request = none → FirstCome docks ⟨op, clock⟩ := fun none request same => by
    rw [none] at same
    cases same
  cases op with
  | reserve vehicleId preferred battery target nowS =>
    have reserved := reserve_conserving_iff sound conserving
      ⟨vehicleId, preferred, battery, target, nowS⟩ clock
    simpa only [step, FirstCome, starves, Op.request, Option.any_some, Option.some.injEq,
      forall_eq'] using reserved
  | reserveAfterHandover handover battery nowS =>
    by_cases released : (handover.phase = .completed && handover.takeoverConfirmed) = true
    · have reserved := reserve_conserving_iff sound conserving
        ⟨handover.outgoingVehicleId, none, battery, ofRat 90, nowS⟩ clock
      have same := docks.reserveAfterHandover_sameLine released battery nowS clock
      simpa only [step, same.conserving_iff, FirstCome, starves, Op.request, released, if_true,
        Option.any_some, Option.some.injEq, forall_eq'] using reserved
    · rw [Bool.not_eq_true] at released
      simp [step, reserveAfterHandover, FirstCome, starves, Op.request, released, conserving]
  | transition key target reason nowS =>
    exact (and_iff_left (quiet rfl)).trans
      (transition_conserving_iff sound conserving key target reason nowS clock)
  | confirmModeledLanding key contact nowS =>
    exact iff_of_true ⟨(docks.confirmModeledLanding_sameLine key contact nowS
      clock).conserving_iff.mpr conserving, quiet rfl⟩ rfl
  | confirmModeledCharging key confirmed nowS =>
    exact (and_iff_left (quiet rfl)).trans
      (confirmModeledCharging_conserving_iff sound conserving key confirmed nowS clock)
  | updateModeledCharge key nowS =>
    exact iff_of_true ⟨updateModeledCharge_conserving sound conserving key nowS clock, quiet rfl⟩ rfl
  | setHealth dockId health nowS =>
    exact (and_iff_left (quiet rfl)).trans
      (setHealth_conserving_iff sound conserving dockId health nowS clock)

end Operations

/-- In every run without a starving call the queue is served, and after any one more call exactly
when that call is not one. -/
theorem docks_conserving {definitions : List (DockDefinition F)} {ttl : F}
    {maximumAttempts queueLimit : Nat} {initial : DockManager F}
    (created : create definitions ttl maximumAttempts queueLimit = .ok initial)
    {calls : List (Call F)}
    (served : Runs.Along step (fun docks call => starves docks call = false) initial calls) :
    Conserving (Runs.run step initial calls) ∧ Runs.Along step FirstCome initial calls ∧
    ∀ call, (Conserving (step (Runs.run step initial calls) call) ∧
        FirstCome (Runs.run step initial calls) call) ↔
      starves (Runs.run step initial calls) call = false := by
  have start : Sound initial ∧ Conserving initial := by
    refine ⟨create_sound created, fun dockId definition known healthy queued => ?_⟩
    simp [queueLength, (create_eq_ok created).2] at queued
  have preserved : ∀ (docks : DockManager F) (call : Call F), Sound docks ∧ Conserving docks → starves docks call = false →
      Sound (step docks call) ∧ Conserving (step docks call) := fun docks call reached fair =>
    ⟨(step_changes reached.1.configured call).sound reached.1,
      ((step_conserving_iff reached.1 reached.2 call).mpr fair).1⟩
  have reached := Runs.invariant_along preserved start served
  refine ⟨reached.2, ?_, step_conserving_iff reached.1 reached.2⟩
  exact Runs.along_of_invariant preserved
    (fun docks call reached fair => ((step_conserving_iff reached.1 reached.2 call).mpr fair).2)
    start served

/-- A dock of capacity one through a charge: the queued vehicle follows the ready one. -/
def chargedRun (confirmed : Bool) : List (Call ℚ) := [
  reserveAt "cf01" 10,
  reserveAt "cf02" 11,
  ⟨.transition "dock-dock-main-cf01" .returnToDockArea "return" none, fun _ => 12⟩,
  ⟨.transition "dock-dock-main-cf01" .approachRequested "approach" none, fun _ => 13⟩,
  ⟨.transition "dock-dock-main-cf01" .dockAttempt "attempt" none, fun _ => 14⟩,
  ⟨.confirmModeledLanding "dock-dock-main-cf01" true none, fun _ => 15⟩,
  ⟨.confirmModeledCharging "dock-dock-main-cf01" confirmed none, fun _ => 16⟩,
  ⟨.updateModeledCharge "dock-dock-main-cf01" none, fun _ => 76⟩]

theorem docks_conserving_promoted :
    ∃ initial, create [dockMain] 120 1 8 = .ok initial ∧
      let docks := Runs.run step initial (chargedRun true)
      docks.queueLength "dock-main" = 0 ∧ docks.occupancy "dock-main" = 1 ∧ Conserving docks := by
  obtain ⟨initial, created, evaluated⟩ := exists_of_okWith (x := create [dockMain] 120 1 8)
    (t := fun initial => decide
        (Runs.Along step (fun docks call => starves docks call = false) initial (chargedRun true)) &&
      (Runs.run step initial (chargedRun true)).queueLength "dock-main" = 0 &&
      (Runs.run step initial (chargedRun true)).occupancy "dock-main" = 1) (by decide +kernel)
  simp only [Bool.and_eq_true, decide_eq_true_eq] at evaluated
  obtain ⟨⟨served, promoted⟩, occupied⟩ := evaluated
  exact ⟨initial, created, promoted, occupied, (docks_conserving created served).1⟩

/-- With one attempt, a charge that is not confirmed fails the reservation and leaves the queue. -/
theorem failed_charge_starves :
    ∃ initial, create [dockMain] 120 1 8 = .ok initial ∧
      ¬ Conserving (Runs.run step initial (chargedRun false)) := by
  obtain ⟨initial, created, evaluated⟩ := exists_of_okWith (x := create [dockMain] 120 1 8)
    (t := fun initial =>
      let docks := Runs.run step initial (chargedRun false)
      (docks.definitions.get? "dock-main").any (fun definition =>
        docks.occupancy "dock-main" < definition.capacity) &&
      docks.health.get? "dock-main" = some .available && 0 < docks.queueLength "dock-main")
    (by decide +kernel)
  simp only [Bool.and_eq_true, decide_eq_true_eq] at evaluated
  obtain ⟨⟨free, healthy⟩, queued⟩ := evaluated
  obtain ⟨definition, known, free⟩ := (Option.any_eq_true _ _).mp free
  refine ⟨initial, created, fun conserving => ?_⟩
  have full := conserving "dock-main" definition known healthy queued
  exact absurd (of_decide_eq_true free) (Nat.not_lt.mpr full)

end CrazySwarm.DockManager
