import CrazySwarm.Lib.Buffers
import CrazySwarm.Lib.Dict
import CrazySwarm.Numbers

/-! The telemetry bus: bounded queues of subscribers that each event is offered to, with filters and
a rate limit for each vehicle's telemetry. -/
namespace CrazySwarm
open PyFloat

variable {F P : Type} [PyFloat F]

inductive EvidenceKind where
  | telemetry | command | acknowledgement | state | fault | operatorAction | missionStarted
  | missionEvent | missionResult
  deriving DecidableEq, Repr

structure EvidenceEvent (F P : Type) where
  eventId : String
  sequence : Nat
  kind : EvidenceKind
  vehicleId : String
  runId : String
  receivedTimestampS : F
  payload : P
  deriving DecidableEq, Repr

structure TelemetrySubscription (F P : Type) where
  queue : Buffers.Buffer (EvidenceEvent F P)
  kinds : Option (List EvidenceKind) := none
  vehicleIds : Option (List String) := none
  minimumTelemetryIntervalS : F
  droppedEvents : Nat := 0
  lastTelemetryAt : Dict String F := .empty
  closed : Bool := false

namespace TelemetrySubscription

def admits (subscription : TelemetrySubscription F P) (event : EvidenceEvent F P) : Bool :=
  !subscription.closed && subscription.kinds.all (·.contains event.kind) &&
    subscription.vehicleIds.all (·.contains event.vehicleId)

def limits (subscription : TelemetrySubscription F P) (event : EvidenceEvent F P) : Bool :=
  event.kind = .telemetry && lt zero subscription.minimumTelemetryIntervalS

def isTooEarly (subscription : TelemetrySubscription F P) (event : EvidenceEvent F P) : Bool :=
  (subscription.lastTelemetryAt.get? event.vehicleId).any fun previous =>
    lt (event.receivedTimestampS - previous) subscription.minimumTelemetryIntervalS

/-- `accepts`, with the time that it writes down. -/
def accepts (subscription : TelemetrySubscription F P) (event : EvidenceEvent F P) :
    TelemetrySubscription F P × Bool :=
  if !subscription.admits event then (subscription, false)
  else if subscription.limits event then
    if subscription.isTooEarly event then (subscription, false)
    else ({ subscription with lastTelemetryAt :=
      subscription.lastTelemetryAt.insert event.vehicleId event.receivedTimestampS }, true)
  else (subscription, true)

/-- What `publish_nowait` does for one subscription. -/
def offer (subscription : TelemetrySubscription F P) (event : EvidenceEvent F P) :
    TelemetrySubscription F P :=
  let (subscription, accepted) := subscription.accepts event
  if !accepted then subscription
  else { subscription with
    queue := subscription.queue.put event
    droppedEvents :=
      if subscription.queue.isFull then subscription.droppedEvents + 1
      else subscription.droppedEvents }

/-- `get_nowait`; an empty queue is left as it is. -/
def getNowait (subscription : TelemetrySubscription F P) :
    TelemetrySubscription F P × Option (EvidenceEvent F P) :=
  ({ subscription with queue := subscription.queue.pop }, subscription.queue.items.head?)

end TelemetrySubscription

/-- The subscriptions of the bus by the number under which each has been made. -/
structure TelemetryBus where
  sequence : Nat := 0
  subscriptions : List Nat := []
  publishedEvents : Nat := 0
  droppedEvents : Nat := 0
  deriving DecidableEq, Repr

/-- The arguments of `subscribe`. -/
structure SubscribeCall (F : Type) where
  bufferSize : Int
  maxTelemetryRateHz : Option F := none
  kinds : Option (List EvidenceKind) := none
  vehicleIds : Option (List String) := none
  deriving DecidableEq, Repr

/-- The subscription that `subscribe` makes. -/
def newSubscription (call : SubscribeCall F) : Except (Fault F) (TelemetrySubscription F P) :=
  if positive : 0 < call.bufferSize then do
    require (call.maxTelemetryRateHz.all (gt · zero)) (.value "max_telemetry_rate_hz must be positive")
    return {
      queue := .empty call.bufferSize.toNat (Int.pos_iff_toNat_pos.mp positive)
      kinds := call.kinds
      vehicleIds := call.vehicleIds
      minimumTelemetryIntervalS := match call.maxTelemetryRateHz with
        | none => zero
        | some rate => ofRat 1 / rate }
  else .error (.value "buffer_size must be positive")

inductive BusCall (F P : Type) where
  | publishNowait (event : EvidenceEvent F P)
  | subscribe (call : SubscribeCall F)
  | close (id : Nat)
  | get (id : Nat)

/-- A subscription with the events that it has accepted, handed out and dropped. -/
structure Subscriber (F P : Type) where
  subscription : TelemetrySubscription F P
  ledger : Buffers.Ledger (EvidenceEvent F P) := {}

namespace Subscriber

def offer (subscriber : Subscriber F P) (event : EvidenceEvent F P) : Subscriber F P where
  subscription := subscriber.subscription.offer event
  ledger :=
    if (subscriber.subscription.accepts event).2 then
      subscriber.ledger.put subscriber.subscription.queue event
    else subscriber.ledger

def get (subscriber : Subscriber F P) : Subscriber F P where
  subscription := subscriber.subscription.getNowait.1
  ledger := subscriber.ledger.pop subscriber.subscription.queue

end Subscriber

structure BusHistory (F P : Type) where
  bus : TelemetryBus := {}
  subscribers : List (Subscriber F P) := []

namespace BusHistory

/-- `publish_nowait`; the subscriptions do not depend on each other. -/
def publish (history : BusHistory F P) (event : EvidenceEvent F P) : BusHistory F P :=
  let bus := history.bus
  let sequenced := { event with sequence := bus.sequence + 1 }
  let drops := history.subscribers.zipIdx.countP fun (subscriber, id) =>
    bus.subscriptions.contains id && (subscriber.subscription.accepts sequenced).2 &&
      subscriber.subscription.queue.isFull
  { bus := { bus with
      sequence := bus.sequence + 1
      publishedEvents := bus.publishedEvents + 1
      droppedEvents := bus.droppedEvents + drops }
    subscribers := history.subscribers.mapIdx fun id subscriber =>
      if bus.subscriptions.contains id then subscriber.offer sequenced else subscriber }

def step (history : BusHistory F P) : BusCall F P → BusHistory F P
  | .publishNowait event => history.publish event
  | .subscribe call =>
    match newSubscription call with
    | .error _ => history
    | .ok subscription =>
      { bus := { history.bus with
          subscriptions := history.bus.subscriptions ++ [history.subscribers.length] }
        subscribers := history.subscribers ++ [{ subscription }] }
  | .close id =>
    { bus := { history.bus with subscriptions := history.bus.subscriptions.filter (· != id) }
      subscribers := history.subscribers.modify id fun subscriber =>
        { subscriber with subscription := { subscriber.subscription with closed := true } } }
  | .get id => { history with subscribers := history.subscribers.modify id Subscriber.get }

end BusHistory

end CrazySwarm
