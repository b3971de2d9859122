import CrazySwarm.PersistentCoverage

/-! The dock scheduler: reservations with a lifecycle, a capacity and a queue for each dock.
Occupancy and queue length are counted from the reservations, never stored. -/
namespace CrazySwarm
open PyFloat

variable {F : Type} [PyFloat F]

inductive DockHealth where
  | available | degraded | unavailable
  deriving DecidableEq, Repr

inductive DockOperationState where
  | available | reserved | returnToDockArea | approachRequested | dockAttempt
  | landedUnconfirmed | chargingConfirmed | charging | ready | failed | retryPending
  | diverted | queued
  deriving DecidableEq, Repr

namespace DockOperationState

def value : DockOperationState → String
  | available => "AVAILABLE"
  | reserved => "RESERVED"
  | returnToDockArea => "RETURN_TO_DOCK_AREA"
  | approachRequested => "APPROACH_REQUESTED"
  | dockAttempt => "DOCK_ATTEMPT"
  | landedUnconfirmed => "LANDED_UNCONFIRMED"
  | chargingConfirmed => "CHARGING_CONFIRMED"
  | charging => "CHARGING"
  | ready => "READY"
  | failed => "FAILED"
  | retryPending => "RETRY_PENDING"
  | diverted => "DIVERTED"
  | queued => "QUEUED"

def occupiesCapacity (state : DockOperationState) : Bool :=
  state ∉ [available, ready, failed, diverted, queued]

def terminal (state : DockOperationState) : Bool := state ∈ [ready, failed, diverted]

/-- The table of `transition`. -/
def allowed : DockOperationState → List DockOperationState
  | reserved => [returnToDockArea]
  | returnToDockArea => [approachRequested]
  | approachRequested => [dockAttempt]
  | retryPending => [approachRequested, diverted]
  | _ => []

end DockOperationState

/-- The fields below the data are what the contract's field checks enforce. -/
structure DockDefinition (F : Type) [PyFloat F] where
  dockId : String
  capacity : Nat
  supportedChargingCapability : String
  modeledChargeRatePercentPerMin : F
  capacityPositive : 1 ≤ capacity
  ratePositive : gt modeledChargeRatePercentPerMin zero = true

structure DockEvent (F : Type) where
  sequence : Nat
  reservationId : String
  dockId : String
  vehicleId : String
  state : DockOperationState
  timestampMonotonicS : F
  eventType : String
  reason : String
  deriving DecidableEq, Repr

structure DockReservation (F : Type) where
  reservationId : String
  dockId : String
  vehicleId : String
  state : DockOperationState
  createdAtMonotonicS : F
  expiresAtMonotonicS : F
  queuePosition : Option Nat
  attempts : Nat := 0
  maximumAttempts : Nat
  modeledLandingObserved : Bool := false
  modeledContactObserved : Bool := false
  modeledChargingConfirmed : Bool := false
  batteryPercent : Option F
  targetBatteryPercent : F
  chargingStartedAtMonotonicS : Option F := none
  estimatedReadyAtMonotonicS : Option F := none
  terminalReason : Option String := none
  events : List (DockEvent F) := []
  deriving DecidableEq, Repr

structure DockSnapshot (F : Type) where
  dockId : String
  capacity : Nat
  health : DockHealth
  supportedChargingCapability : String
  occupiedVehicleIds : List String
  queuedVehicleIds : List String
  reservations : List (DockReservation F)
  deriving DecidableEq, Repr

def DockEvent.create (event : DockEvent F) : Except (Fault F) (DockEvent F) :=
  validated "DockEvent" [
    ("sequence", 1 ≤ event.sequence),
    ("reservation_id", isIdentifier event.reservationId),
    ("dock_id", isIdentifier event.dockId),
    ("vehicle_id", isIdentifier event.vehicleId),
    ("timestamp_monotonic_s", ge event.timestampMonotonicS zero),
    ("event_type", isIdentifier event.eventType)] event

def DockReservation.create (reservation : DockReservation F) :
    Except (Fault F) (DockReservation F) :=
  validated "DockReservation" [
    ("reservation_id", isIdentifier reservation.reservationId),
    ("dock_id", isIdentifier reservation.dockId),
    ("vehicle_id", isIdentifier reservation.vehicleId),
    ("created_at_monotonic_s", ge reservation.createdAtMonotonicS zero),
    ("expires_at_monotonic_s", gt reservation.expiresAtMonotonicS zero),
    ("queue_position", reservation.queuePosition.all (1 ≤ ·)),
    ("maximum_attempts", 1 ≤ reservation.maximumAttempts),
    ("battery_percent", reservation.batteryPercent.all percentage),
    ("target_battery_percent", gt reservation.targetBatteryPercent zero &&
      atMost reservation.targetBatteryPercent (ofRat 100))] reservation

def DockSnapshot.create (snapshot : DockSnapshot F) : Except (Fault F) (DockSnapshot F) :=
  validated "DockSnapshot" [
    ("dock_id", isIdentifier snapshot.dockId),
    ("capacity", 1 ≤ snapshot.capacity),
    ("supported_charging_capability", isIdentifier snapshot.supportedChargingCapability),
    ("occupied_vehicle_ids", snapshot.occupiedVehicleIds.all isIdentifier),
    ("queued_vehicle_ids", snapshot.queuedVehicleIds.all isIdentifier)] snapshot

structure DockManager (F : Type) [PyFloat F] where
  definitions : Dict String (DockDefinition F)
  health : Dict String DockHealth
  reservationTtlS : F
  maximumAttempts : Nat
  queueLimit : Nat
  reservations : Dict String (DockReservation F)
  sequence : Nat

namespace DockManager

def create (definitions : List (DockDefinition F)) (reservationTtlS : F)
    (maximumAttempts queueLimit : Nat) : Except (Fault F) (DockManager F) := do
  require (!definitions.isEmpty) (.value "dock manager requires at least one dock")
  require (!(le reservationTtlS zero || maximumAttempts < 1 || queueLimit < 1))
    (.value "dock scheduler bounds must be positive")
  .ok {
    definitions := .ofList (definitions.map fun item => (item.dockId, item))
    health := .ofList (definitions.map fun item => (item.dockId, .available))
    reservationTtlS := reservationTtlS
    maximumAttempts := maximumAttempts
    queueLimit := queueLimit
    reservations := .empty
    sequence := 0 }

def reservation (docks : DockManager F) (reservationId : String) :
    Except (Fault F) (DockReservation F) :=
  match docks.reservations.get? reservationId with
  | some reservation => .ok reservation
  | none => .error (.crazySwarm .invalidCommand "unknown dock reservation" .none)

def definition (docks : DockManager F) (dockId : String) :
    Except (Fault F) (DockDefinition F) :=
  match docks.definitions.get? dockId with
  | some definition => .ok definition
  | none => .error (.crazySwarm .invalidCommand "unknown dock" .none)

def occupies (dockId : String) (reservation : DockReservation F) : Bool :=
  reservation.dockId = dockId && reservation.state.occupiesCapacity

def waits (dockId : String) (reservation : DockReservation F) : Bool :=
  reservation.dockId = dockId && reservation.state = .queued

def occupancy (docks : DockManager F) (dockId : String) : Nat :=
  docks.reservations.values.countP (occupies dockId)

def queueLength (docks : DockManager F) (dockId : String) : Nat :=
  docks.reservations.values.countP (waits dockId)

/-- `_event`: the sequence number is spent before the event is validated. -/
def event (docks : DockManager F) (reservation : DockReservation F) (eventType reason : String)
    (timestamp : F) : DockManager F × Except (Fault F) (DockReservation F) :=
  let spent := { docks with sequence := docks.sequence + 1 }
  let created := DockEvent.create {
    sequence := spent.sequence
    reservationId := reservation.reservationId
    dockId := reservation.dockId
    vehicleId := reservation.vehicleId
    state := reservation.state
    timestampMonotonicS := timestamp
    eventType := eventType
    reason := reason }
  (spent, created.map fun event => { reservation with events := reservation.events ++ [event] })

def commit (docks : DockManager F) (reservationId : String)
    (update : Except (Fault F) (DockReservation F)) (eventType reason : String) (timestamp : F) :
    DockManager F × Except (Fault F) (DockReservation F) :=
  match update with
  | .error fault => (docks, .error fault)
  | .ok updated =>
    andThen (docks.event updated eventType reason timestamp) fun docks updated =>
    ({ docks with reservations := docks.reservations.insert reservationId updated }, .ok updated)

def candidates (docks : DockManager F) (preferredDockId : Option String) :
    Except (Fault F) (List (DockDefinition F)) :=
  match preferredDockId with
  | some dockId => (docks.definition dockId).map fun item => [item]
  | none => .ok ((Sorting.sortBy id docks.definitions.keys).filterMap docks.definitions.get?)

def usable (docks : DockManager F) (preferredDockId : Option String) :
    Except (Fault F) (List (DockDefinition F)) :=
  (docks.candidates preferredDockId).map fun candidates =>
    candidates.filter fun item => docks.health.get? item.dockId ≠ some .unavailable

/-- Order of the keys `(occupancy, dock_id)`. -/
def emptier (docks : DockManager F) (left right : DockDefinition F) : Bool :=
  docks.occupancy left.dockId < docks.occupancy right.dockId ||
    docks.occupancy left.dockId = docks.occupancy right.dockId && left.dockId < right.dockId

def reservationId (dockId vehicleId : String) : String := "dock-" ++ dockId ++ "-" ++ vehicleId

/-- The reservation `reserve` files: on the emptiest usable dock, queued when that is full. -/
def allocate (docks : DockManager F) (vehicleId : String) (preferredDockId : Option String)
    (batteryPercent : Option F) (targetBatteryPercent timestamp : F) :
    Except (Fault F) (DockReservation F) := do
  require (!docks.reservations.values.any fun item =>
      item.vehicleId = vehicleId && !item.state.terminal)
    (.crazySwarm .invalidState "vehicle already has a dock request" .none)
  let usable ← docks.usable preferredDockId
  match usable with
  | [] => .error (.crazySwarm .preflightFailed "no dock is available" .none)
  | first :: rest =>
    let selected := Sorting.leastBy docks.emptier first rest
    let queued := selected.capacity ≤ docks.occupancy selected.dockId
    require (!(queued && docks.queueLimit ≤ docks.queueLength selected.dockId))
      (.crazySwarm .invalidState "dock queue capacity is exhausted" .none)
    DockReservation.create {
      reservationId := reservationId selected.dockId vehicleId
      dockId := selected.dockId
      vehicleId := vehicleId
      state := if queued then .queued else .reserved
      createdAtMonotonicS := timestamp
      expiresAtMonotonicS := add timestamp docks.reservationTtlS
      queuePosition := if queued then some (docks.queueLength selected.dockId + 1) else none
      maximumAttempts := docks.maximumAttempts
      batteryPercent := batteryPercent
      targetBatteryPercent := targetBatteryPercent }

def reserve (docks : DockManager F) (vehicleId : String) (preferredDockId : Option String)
    (batteryPercent : Option F) (targetBatteryPercent : F) (nowS : Option F) (clock : Nat → F) :
    DockManager F × Except (Fault F) (DockReservation F) :=
  let timestamp := now nowS (clock 0)
  match docks.allocate vehicleId preferredDockId batteryPercent targetBatteryPercent timestamp with
  | .error fault => (docks, .error fault)
  | .ok reservation =>
    docks.commit reservation.reservationId (.ok reservation)
      (if reservation.state = .queued then "DOCK_QUEUED" else "DOCK_RESERVED")
      "software dock allocation" timestamp

def transitionUpdate (docks : DockManager F) (reservationId : String)
    (target : DockOperationState) : Except (Fault F) (DockReservation F) := do
  let reservation ← docks.reservation reservationId
  require (target ∈ reservation.state.allowed)
    (.crazySwarm .invalidState "invalid dock lifecycle transition" .none)
  .ok { reservation with
    state := target
    attempts := reservation.attempts + if target = .dockAttempt then 1 else 0 }

def transition (docks : DockManager F) (reservationId : String) (target : DockOperationState)
    (reason : String) (nowS : Option F) (clock : Nat → F) :
    DockManager F × Except (Fault F) (DockReservation F) :=
  docks.commit reservationId (docks.transitionUpdate reservationId target)
    ("DOCK_" ++ target.value) reason (now nowS (clock 0))

def reserveAfterHandover (docks : DockManager F) (handover : HandoverRecord F)
    (batteryPercent : Option F) (nowS : Option F) (clock : Nat → F) :
    DockManager F × Except (Fault F) (DockReservation F) :=
  if !(handover.phase = .completed && handover.takeoverConfirmed) then
    (docks, .error (.crazySwarm .modeNotAuthorized
      "dock return cannot start before confirmed takeover and release" .none))
  else
    andThen (docks.reserve handover.outgoingVehicleId none batteryPercent (ofRat 90) nowS clock)
      fun docks reservation =>
    if reservation.state = .reserved then
      docks.transition reservation.reservationId .returnToDockArea
        "outgoing vehicle released after takeover" nowS (fun i => clock (i + 1))
    else (docks, .ok reservation)

def landingUpdate (docks : DockManager F) (reservationId : String) (modeledContact : Bool) :
    Except (Fault F) (DockReservation F) := do
  let reservation ← docks.reservation reservationId
  require (reservation.state = .dockAttempt)
    (.crazySwarm .invalidState "dock attempt is not active" .none)
  .ok { reservation with
    state := .landedUnconfirmed
    modeledLandingObserved := true
    modeledContactObserved := modeledContact }

def confirmModeledLanding (docks : DockManager F) (reservationId : String) (modeledContact : Bool)
    (nowS : Option F) (clock : Nat → F) : DockManager F × Except (Fault F) (DockReservation F) :=
  docks.commit reservationId (docks.landingUpdate reservationId modeledContact)
    "MODELED_LANDING_OBSERVED"
    (if modeledContact then "modeled contact observed" else "modeled contact absent")
    (now nowS (clock 0))

/-- `value or 0.0`. -/
def orZero (value : Option F) : F :=
  match value with
  | some value => if eq value zero then zero else value
  | none => zero

/-- Landed but not charging: failed when the attempts are used up. -/
def unconfirmed (reservation : DockReservation F) : DockReservation F :=
  let terminal := reservation.maximumAttempts ≤ reservation.attempts
  { reservation with
    state := if terminal then .failed else .retryPending
    terminalReason := if terminal then some "LANDED_NOT_CHARGING" else none }

def chargingUpdate (docks : DockManager F) (reservation : DockReservation F) (timestamp : F) :
    Except (Fault F) (DockReservation F) := do
  let definition ← docks.definition reservation.dockId
  let current := orZero reservation.batteryPercent
  let durationS := max zero
    (mul (div (sub reservation.targetBatteryPercent current)
      definition.modeledChargeRatePercentPerMin) (ofRat 60))
  .ok { reservation with
    state := .chargingConfirmed
    modeledChargingConfirmed := true
    chargingStartedAtMonotonicS := some timestamp
    estimatedReadyAtMonotonicS := some (add timestamp durationS) }

def landed (docks : DockManager F) (reservationId : String) :
    Except (Fault F) (DockReservation F) := do
  let reservation ← docks.reservation reservationId
  require (reservation.state = .landedUnconfirmed)
    (.crazySwarm .invalidState "modeled landing is not awaiting charge" .none)
  .ok reservation

def confirmModeledCharging (docks : DockManager F) (reservationId : String) (confirmed : Bool)
    (nowS : Option F) (clock : Nat → F) : DockManager F × Except (Fault F) (DockReservation F) :=
  let timestamp := now nowS (clock 0)
  match docks.landed reservationId with
  | .error fault => (docks, .error fault)
  | .ok reservation =>
    if !confirmed || !reservation.modeledContactObserved then
      docks.commit reservationId (.ok (unconfirmed reservation))
        "MODELED_CHARGING_CONFIRMATION_FAILED" "landed but modeled charging was not confirmed"
        timestamp
    else
      docks.commit reservationId (docks.chargingUpdate reservation timestamp)
        "MODELED_CHARGING_CONFIRMED" "software scheduling model only; no physical charge claim"
        timestamp

/-- Order of the keys `(created_at_monotonic_s, reservation_id)`. -/
def earlier (left right : DockReservation F) : Bool :=
  if eq left.createdAtMonotonicS right.createdAtMonotonicS then
    left.reservationId < right.reservationId
  else lt left.createdAtMonotonicS right.createdAtMonotonicS

/-- The reservation `_promote_queue` promotes, if any. -/
def promotable (docks : DockManager F) (definition : DockDefinition F) (dockId : String) :
    Option (DockReservation F) :=
  if definition.capacity ≤ docks.occupancy dockId then none
  else match docks.reservations.values.filter (waits dockId) with
    | [] => none
    | first :: rest => some (Sorting.leastBy earlier first rest)

def promoteQueue (docks : DockManager F) (dockId : String) (timestamp : F) :
    DockManager F × Except (Fault F) Unit :=
  match docks.definition dockId with
  | .error fault => (docks, .error fault)
  | .ok definition =>
    match docks.promotable definition dockId with
    | none => (docks, .ok ())
    | some selected =>
      andThen (docks.commit selected.reservationId
          (.ok { selected with state := .reserved, queuePosition := none })
          "DOCK_QUEUE_PROMOTED" "capacity released" timestamp)
        fun docks _ => (docks, .ok ())

def chargeUpdate (docks : DockManager F) (reservationId : String) (timestamp : F) :
    Except (Fault F) (DockReservation F) := do
  let reservation ← docks.reservation reservationId
  require (reservation.state ∈ [.chargingConfirmed, .charging])
    (.crazySwarm .invalidState "modeled charging is not active" .none)
  match reservation.chargingStartedAtMonotonicS with
  | none => .error (.value "AssertionError")
  | some started =>
    let definition ← docks.definition reservation.dockId
    let elapsedMin := div (max zero (sub timestamp started)) (ofRat 60)
    let initial := orZero reservation.batteryPercent
    let battery := min reservation.targetBatteryPercent
      (add initial (mul elapsedMin definition.modeledChargeRatePercentPerMin))
    let ready := le reservation.targetBatteryPercent battery
    .ok { reservation with
      state := if ready then .ready else .charging
      batteryPercent := some battery }

/-- A reservation that becomes ready releases its capacity to the queue. -/
def updateModeledCharge (docks : DockManager F) (reservationId : String) (nowS : Option F)
    (clock : Nat → F) : DockManager F × Except (Fault F) (DockReservation F) :=
  let timestamp := now nowS (clock 0)
  match docks.chargeUpdate reservationId timestamp with
  | .error fault => (docks, .error fault)
  | .ok updated =>
    andThen (docks.commit reservationId (.ok updated)
        (if updated.state = .ready then "MODELED_CHARGE_READY" else "MODELED_CHARGE_PROGRESS")
        "software scheduling model" timestamp) fun docks updated =>
    if updated.state = .ready then
      andThen (docks.promoteQueue updated.dockId timestamp) fun docks _ => (docks, .ok updated)
    else (docks, .ok updated)

def unavailableUpdate (reservation : DockReservation F) : DockReservation F :=
  { reservation with
    state := if reservation.state = .queued then .queued else .diverted
    terminalReason := some "DOCK_UNAVAILABLE" }

/-- The loop of `set_health` over the reservations it found; a raised fault stops it. -/
def divertEach (dockId : String) (timestamp : F) :
    List (DockReservation F) → DockManager F → DockManager F × Except (Fault F) Unit
  | [], docks => (docks, .ok ())
  | reservation :: rest, docks =>
    if reservation.dockId = dockId && !reservation.state.terminal then
      andThen (docks.commit reservation.reservationId (.ok (unavailableUpdate reservation))
          "DOCK_UNAVAILABLE" "dock health changed to unavailable" timestamp)
        fun docks _ => divertEach dockId timestamp rest docks
    else divertEach dockId timestamp rest docks

def snapshot (docks : DockManager F) (dockId : String) : Except (Fault F) (DockSnapshot F) := do
  let definition ← docks.definition dockId
  let reservations := Sorting.sortBy DockReservation.reservationId
    (docks.reservations.values.filter fun item => item.dockId = dockId)
  match docks.health.get? dockId with
  | none => .error (.value "KeyError")
  | some health =>
    DockSnapshot.create {
      dockId := dockId
      capacity := definition.capacity
      health := health
      supportedChargingCapability := definition.supportedChargingCapability
      occupiedVehicleIds := (reservations.filter fun item => item.state.occupiesCapacity).map
        DockReservation.vehicleId
      queuedVehicleIds := (reservations.filter fun item => item.state = .queued).map
        DockReservation.vehicleId
      reservations := reservations }

def setHealth (docks : DockManager F) (dockId : String) (health : DockHealth) (nowS : Option F)
    (clock : Nat → F) : DockManager F × Except (Fault F) (DockSnapshot F) :=
  match docks.definition dockId with
  | .error fault => (docks, .error fault)
  | .ok _ =>
    let changed := { docks with health := docks.health.insert dockId health }
    if health = .unavailable then
      andThen (divertEach dockId (now nowS (clock 0)) docks.reservations.values changed)
        fun docks _ => (docks, docks.snapshot dockId)
    else (changed, changed.snapshot dockId)

/-- The public operations with their arguments. -/
inductive Op (F : Type) where
  | reserve (vehicleId : String) (preferredDockId : Option String) (batteryPercent : Option F)
      (targetBatteryPercent : F) (nowS : Option F)
  | reserveAfterHandover (handover : HandoverRecord F) (batteryPercent nowS : Option F)
  | transition (reservationId : String) (target : DockOperationState) (reason : String)
      (nowS : Option F)
  | confirmModeledLanding (reservationId : String) (modeledContact : Bool) (nowS : Option F)
  | confirmModeledCharging (reservationId : String) (confirmed : Bool) (nowS : Option F)
  | updateModeledCharge (reservationId : String) (nowS : Option F)
  | setHealth (dockId : String) (health : DockHealth) (nowS : Option F)

/-- One call of a run: the operation and what the clock reads while it runs. -/
structure Call (F : Type) where
  op : Op F
  clock : Nat → F

def step (docks : DockManager F) (call : Call F) : DockManager F :=
  match call.op with
  | .reserve vehicleId preferred battery target nowS =>
    (docks.reserve vehicleId preferred battery target nowS call.clock).1
  | .reserveAfterHandover handover battery nowS =>
    (docks.reserveAfterHandover handover battery nowS call.clock).1
  | .transition reservationId target reason nowS =>
    (docks.transition reservationId target reason nowS call.clock).1
  | .confirmModeledLanding reservationId contact nowS =>
    (docks.confirmModeledLanding reservationId contact nowS call.clock).1
  | .confirmModeledCharging reservationId confirmed nowS =>
    (docks.confirmModeledCharging reservationId confirmed nowS call.clock).1
  | .updateModeledCharge reservationId nowS =>
    (docks.updateModeledCharge reservationId nowS call.clock).1
  | .setHealth dockId health nowS => (docks.setHealth dockId health nowS call.clock).1

end DockManager
end CrazySwarm
