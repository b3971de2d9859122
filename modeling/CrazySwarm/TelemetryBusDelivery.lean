import CrazySwarm.Lib.Runs
import CrazySwarm.TelemetryBus

/-! What a subscriber of the bus gets: what it has accepted is handed out in order, dropped and
counted, or still among the latest in its queue. -/
namespace CrazySwarm
open PyFloat (lt le zero)

namespace TelemetrySubscription

variable {F P : Type} [PyFloat F]

theorem accepts_cases (subscription : TelemetrySubscription F P) (event : EvidenceEvent F P) :
    subscription.accepts event = (subscription, false) ∨
      (subscription.limits event = false ∧ subscription.accepts event = (subscription, true)) ∨
      (subscription.limits event = true ∧ subscription.isTooEarly event = false ∧
        subscription.accepts event = ({ subscription with
          lastTelemetryAt :=
            subscription.lastTelemetryAt.insert event.vehicleId event.receivedTimestampS }, true)) := by
  by_cases admitted : subscription.admits event = true
  · by_cases limited : subscription.limits event = true
    · by_cases early : subscription.isTooEarly event = true
      · exact .inl (by simp [accepts, admitted, limited, early])
      · simp only [Bool.not_eq_true] at early
        exact .inr (.inr ⟨limited, early, by simp [accepts, admitted, limited, early]⟩)
    · simp only [Bool.not_eq_true] at limited
      exact .inr (.inl ⟨limited, by simp [accepts, admitted, limited]⟩)
  · exact .inl (by simp [accepts, admitted])

theorem offer_interval (subscription : TelemetrySubscription F P) (event : EvidenceEvent F P) :
    (subscription.offer event).minimumTelemetryIntervalS = subscription.minimumTelemetryIntervalS := by
  rcases subscription.accepts_cases event with same | ⟨-, same⟩ | ⟨-, -, same⟩ <;>
    simp [offer, same]

theorem offer_refused {subscription : TelemetrySubscription F P} {event : EvidenceEvent F P}
    (refused : (subscription.accepts event).2 = false) : subscription.offer event = subscription := by
  rcases subscription.accepts_cases event with same | ⟨-, same⟩ | ⟨-, -, same⟩
  · simp [offer, same]
  · simp [same] at refused
  · simp [same] at refused

theorem offer_accepted {subscription : TelemetrySubscription F P} {event : EvidenceEvent F P}
    (accepted : (subscription.accepts event).2 = true) :
    (subscription.offer event).queue = subscription.queue.put event ∧
      (subscription.offer event).droppedEvents =
        subscription.droppedEvents + subscription.queue.displaced.length := by
  rw [Buffers.Buffer.length_displaced]
  by_cases full : subscription.queue.isFull = true <;>
    rcases subscription.accepts_cases event with same | ⟨-, same⟩ | ⟨-, -, same⟩ <;>
    simp [offer, same, full] at accepted ⊢

end TelemetrySubscription

namespace Subscriber

variable {F P : Type}

section Statement

variable [PyFloat F]

/-- Two telemetry events of one vehicle are an interval apart. -/
def Spaced (intervalS : F) (earlier later : EvidenceEvent F P) : Prop :=
  earlier.kind = .telemetry → later.kind = .telemetry → earlier.vehicleId = later.vehicleId →
    le intervalS (PyFloat.sub later.receivedTimestampS earlier.receivedTimestampS) = true

structure Delivered (subscriber : Subscriber F P) : Prop where
  distinct : (subscriber.ledger.entered.map EvidenceEvent.sequence).Pairwise (· < ·)
  ordered : (subscriber.ledger.taken.map EvidenceEvent.sequence).Pairwise (· < ·)
  /-- The queue is the end of what was accepted; the rest has been received or dropped. -/
  partitioned : ∃ gone, subscriber.ledger.entered = gone ++ subscriber.subscription.queue.items ∧
    gone.Perm (subscriber.ledger.taken ++ subscriber.ledger.dropped)
  bounded : subscriber.subscription.queue.items.length ≤ subscriber.subscription.queue.capacity
  counted : subscriber.ledger.dropped.length = subscriber.subscription.droppedEvents
  spaced : lt zero subscriber.subscription.minimumTelemetryIntervalS = true →
    subscriber.ledger.entered.Pairwise (Spaced subscriber.subscription.minimumTelemetryIntervalS)

/-- What is known of a subscriber of a bus that has published so many events. -/
structure Kept (number : Nat) (subscriber : Subscriber F P) : Prop where
  distinct : (subscriber.ledger.entered.map EvidenceEvent.sequence).Pairwise (· < ·)
  numbered : ∀ event ∈ subscriber.ledger.entered, event.sequence ≤ number
  balances : subscriber.ledger.Balances subscriber.subscription.queue
  counted : subscriber.ledger.dropped.length = subscriber.subscription.droppedEvents
  spaced : lt zero subscriber.subscription.minimumTelemetryIntervalS = true →
    subscriber.ledger.entered.Pairwise (Spaced subscriber.subscription.minimumTelemetryIntervalS)
  /-- The time written down for a vehicle is not before any of its accepted telemetry. -/
  latest : lt zero subscriber.subscription.minimumTelemetryIntervalS = true →
    ∀ event ∈ subscriber.ledger.entered, event.kind = .telemetry →
      ∃ lastS, subscriber.subscription.lastTelemetryAt.get? event.vehicleId = some lastS ∧
        le event.receivedTimestampS lastS = true

end Statement

section Steps

variable [PyFloat F] {subscriber : Subscriber F P} {event : EvidenceEvent F P} {number : Nat}

theorem Kept.delivered (kept : Kept number subscriber) : Delivered subscriber where
  distinct := kept.distinct
  ordered := kept.distinct.sublist (kept.balances.sublist.map _)
  partitioned := by
    obtain ⟨gone, entered, accounted, -⟩ := kept.balances
    exact ⟨gone, entered, accounted⟩
  bounded := subscriber.subscription.queue.bounded
  counted := kept.counted
  spaced := kept.spaced

theorem Kept.mono {later : Nat} (kept : Kept number subscriber) (more : number ≤ later) :
    Kept later subscriber :=
  { kept with numbered := fun event member => (kept.numbered event member).trans more }

/-- Handing out the oldest event of the queue accepts none. -/
theorem Kept.get (kept : Kept number subscriber) : Kept number subscriber.get where
  distinct := kept.distinct
  numbered := kept.numbered
  balances := kept.balances.pop
  counted := kept.counted
  spaced := kept.spaced
  latest := kept.latest

theorem Kept.close (kept : Kept number subscriber) :
    Kept number { subscriber with subscription := { subscriber.subscription with closed := true } } where
  distinct := kept.distinct
  numbered := kept.numbered
  balances := kept.balances
  counted := kept.counted
  spaced := kept.spaced
  latest := kept.latest

theorem kept_of_new {call : SubscribeCall F} {subscription : TelemetrySubscription F P}
    (made : newSubscription call = .ok subscription) : Kept number ⟨subscription, {}⟩ := by
  unfold newSubscription at made
  split at made
  · obtain ⟨_, -, made⟩ := bind_eq_ok.mp made
    cases made
    exact {
      distinct := .nil
      numbered := by simp
      balances := Buffers.Ledger.balances_empty _ _
      counted := rfl
      spaced := fun _ => .nil
      latest := by simp }
  · cases made

end Steps

section Offers

variable [Field F] [LinearOrder F] [IsStrictOrderedRing F] [PyMath F] [Exact F]
  {subscriber : Subscriber F P} {event : EvidenceEvent F P} {number : Nat}

theorem Kept.times (kept : Kept number subscriber)
    (accepted : (subscriber.subscription.accepts event).2 = true)
    (positive : lt zero subscriber.subscription.minimumTelemetryIntervalS = true) :
    (∀ earlier ∈ subscriber.ledger.entered,
        Spaced subscriber.subscription.minimumTelemetryIntervalS earlier event) ∧
      ∀ earlier ∈ subscriber.ledger.entered ++ [event], earlier.kind = .telemetry →
        ∃ lastS, (subscriber.subscription.offer event).lastTelemetryAt.get? earlier.vehicleId =
          some lastS ∧ le earlier.receivedTimestampS lastS = true := by
  have bounded := kept.latest positive
  rcases subscriber.subscription.accepts_cases event with same | ⟨free, same⟩ |
    ⟨limited, timely, same⟩
  · simp [same] at accepted
  · have other : event.kind ≠ .telemetry := by
      intro telemetry
      rw [TelemetrySubscription.limits, telemetry, positive] at free
      cases free
    have unchanged : (subscriber.subscription.offer event).lastTelemetryAt =
        subscriber.subscription.lastTelemetryAt := by
      simp [TelemetrySubscription.offer, same]
    refine ⟨fun earlier _ _ telemetry => absurd telemetry other, fun earlier member telemetry => ?_⟩
    rw [unchanged]
    rcases List.mem_append.mp member with before | now
    · exact bounded earlier before telemetry
    · obtain rfl := List.mem_singleton.mp now
      exact absurd telemetry other
  · have spaced : ∀ earlier ∈ subscriber.ledger.entered,
        Spaced subscriber.subscription.minimumTelemetryIntervalS earlier event := by
      intro earlier member telemetry _ vehicle
      obtain ⟨lastS, found, later⟩ := bounded earlier member telemetry
      rw [vehicle] at found
      simp only [TelemetrySubscription.isTooEarly, found, Option.any_some, Exact.minus,
        Exact.lt_false] at timely
      rw [Exact.le_true] at later
      rw [Exact.le_true, Exact.sub_eq]
      linarith
    have written : (subscriber.subscription.offer event).lastTelemetryAt =
        subscriber.subscription.lastTelemetryAt.insert event.vehicleId event.receivedTimestampS := by
      simp [TelemetrySubscription.offer, same]
    refine ⟨spaced, fun earlier member telemetry => ?_⟩
    rw [written]
    by_cases vehicle : event.vehicleId = earlier.vehicleId
    · refine ⟨event.receivedTimestampS, by simp [vehicle], ?_⟩
      rcases List.mem_append.mp member with before | now
      · have limitedTelemetry : event.kind = .telemetry := by
          simp only [TelemetrySubscription.limits, Bool.and_eq_true, decide_eq_true_eq] at limited
          exact limited.1
        have apart := spaced earlier before telemetry limitedTelemetry vehicle.symm
        rw [Exact.le_true, Exact.sub_eq] at apart
        rw [Exact.lt_true, Exact.zero_eq] at positive
        rw [Exact.le_true]
        linarith
      · obtain rfl := List.mem_singleton.mp now
        simp
    · rw [Dict.get?_insert_of_ne _ _ vehicle]
      rcases List.mem_append.mp member with before | now
      · exact bounded earlier before telemetry
      · obtain rfl := List.mem_singleton.mp now
        exact absurd rfl vehicle

theorem Kept.offer (kept : Kept number subscriber) (newer : number < event.sequence) :
    Kept event.sequence (subscriber.offer event) := by
  cases accepted : (subscriber.subscription.accepts event).2 with
  | false =>
    have same : subscriber.offer event = subscriber := by
      simp [Subscriber.offer, accepted, TelemetrySubscription.offer_refused accepted]
    rw [same]
    exact kept.mono newer.le
  | true =>
    obtain ⟨queue, drops⟩ := TelemetrySubscription.offer_accepted accepted
    have ledger : (subscriber.offer event).ledger =
        subscriber.ledger.put subscriber.subscription.queue event := if_pos accepted
    have interval : (subscriber.offer event).subscription.minimumTelemetryIntervalS =
        subscriber.subscription.minimumTelemetryIntervalS :=
      subscriber.subscription.offer_interval event
    constructor
    · rw [ledger]
      simp only [Buffers.Ledger.put, List.map_append, List.map_cons, List.map_nil]
      rw [List.pairwise_append]
      refine ⟨kept.distinct, List.pairwise_singleton _ _, ?_⟩
      intro before member now isNow
      obtain ⟨earlier, among, rfl⟩ := List.mem_map.mp member
      obtain rfl := List.mem_singleton.mp isNow
      exact (kept.numbered earlier among).trans_lt newer
    · rw [ledger]
      intro other member
      rcases List.mem_append.mp member with before | now
      · exact (kept.numbered other before).trans newer.le
      · obtain rfl := List.mem_singleton.mp now
        exact le_rfl
    · rw [ledger]
      simp only [Subscriber.offer, queue]
      exact kept.balances.put event
    · rw [ledger]
      simp only [Subscriber.offer, drops, Buffers.Ledger.put, List.length_append, kept.counted]
    · rw [ledger, interval]
      intro positive
      refine List.pairwise_append.mpr ⟨kept.spaced positive, List.pairwise_singleton _ _, ?_⟩
      intro earlier among now isNow
      obtain rfl := List.mem_singleton.mp isNow
      exact (kept.times accepted positive).1 earlier among
    · rw [ledger, interval]
      intro positive
      exact (kept.times accepted positive).2

end Offers

end Subscriber

namespace BusHistory

section Statement

variable {F P : Type} [PyFloat F]

/-- Every subscriber that the bus has had gets what it should. -/
def Delivers (history : BusHistory F P) : Prop :=
  ∀ subscriber ∈ history.subscribers, subscriber.Delivered

def Kept (history : BusHistory F P) : Prop :=
  ∀ subscriber ∈ history.subscribers, subscriber.Kept history.bus.sequence

end Statement

theorem forall_mem_modify {α : Type} {p : α → Prop} {f : α → α} {items : List α} (id : Nat)
    (all : ∀ item ∈ items, p item) (preserved : ∀ item, p item → p (f item)) :
    ∀ item ∈ items.modify id f, p item := by
  intro item member
  obtain ⟨index, found⟩ := List.mem_iff_getElem?.mp member
  rw [List.getElem?_modify] at found
  obtain ⟨before, there, rfl⟩ := Option.map_eq_some_iff.mp found
  have held := all before (List.mem_of_getElem? there)
  split
  · exact preserved before held
  · exact held

section Runs

variable {F P : Type} [Field F] [LinearOrder F] [IsStrictOrderedRing F] [PyMath F] [Exact F]
  {history : BusHistory F P} {call : BusCall F P}

theorem step_kept (kept : history.Kept) : (history.step call).Kept := by
  cases call with
  | publishNowait event =>
    intro subscriber member
    obtain ⟨id, inside, rfl⟩ := List.mem_mapIdx.mp member
    have before := kept _ (List.getElem_mem inside)
    have newer : history.bus.sequence <
        EvidenceEvent.sequence { event with sequence := history.bus.sequence + 1 } :=
      Nat.lt_succ_self _
    change Subscriber.Kept (history.bus.sequence + 1) _
    split
    · exact before.offer newer
    · exact before.mono (Nat.le_succ _)
  | subscribe call =>
    cases made : newSubscription (P := P) call with
    | error fault =>
      simp only [step, made]
      exact kept
    | ok subscription =>
      intro subscriber member
      simp only [step, made] at member ⊢
      rcases List.mem_append.mp member with before | now
      · exact kept subscriber before
      · obtain rfl := List.mem_singleton.mp now
        exact Subscriber.kept_of_new made
  | close id => exact forall_mem_modify id kept fun _ => Subscriber.Kept.close
  | get id => exact forall_mem_modify id kept fun _ => Subscriber.Kept.get

/-- After every run each subscriber has received in order, queued or counted as dropped exactly what
it has accepted, with the telemetry of each vehicle at its limited rate. -/
theorem bus_delivers (calls : List (BusCall F P)) :
    (Runs.run step ({} : BusHistory F P) calls).Delivers := by
  have kept : (Runs.run step ({} : BusHistory F P) calls).Kept :=
    Runs.invariant (I := Kept) (fun _ _ => step_kept) (by simp [Kept])
  exact fun subscriber member => (kept subscriber member).delivered

end Runs

section Instances

def sampleAt (vehicleId : String) (timeS : ℚ) : EvidenceEvent ℚ Unit where
  eventId := "event"
  sequence := 0
  kind := .telemetry
  vehicleId
  runId := "run"
  receivedTimestampS := timeS
  payload := ()

/-- Two events a second at most, into a queue of one: of four accepted events one is received, two
are dropped and the last is queued. -/
def demoCalls : List (BusCall ℚ Unit) :=
  [.subscribe { bufferSize := 1, maxTelemetryRateHz := some 2 },
    .publishNowait (sampleAt "alpha" 0), .publishNowait (sampleAt "alpha" (1 / 4)), .get 0,
    .publishNowait (sampleAt "alpha" (1 / 2)), .publishNowait (sampleAt "beta" (1 / 2)),
    .publishNowait (sampleAt "alpha" 1), .close 0, .publishNowait (sampleAt "alpha" 2)]

theorem bus_delivers_demo :
    (Runs.run BusHistory.step ({} : BusHistory ℚ Unit) demoCalls).Delivers ∧
      (Runs.run BusHistory.step ({} : BusHistory ℚ Unit) demoCalls).subscribers.map
        (fun subscriber => (subscriber.ledger.taken.map EvidenceEvent.sequence,
          subscriber.ledger.dropped.map EvidenceEvent.sequence,
          subscriber.subscription.queue.items.map EvidenceEvent.sequence)) = [([1], [3, 4], [5])] :=
  ⟨bus_delivers demoCalls, by decide +kernel⟩

end Instances

end BusHistory

end CrazySwarm
