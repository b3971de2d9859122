import CrazySwarm.SafetySupervisor

/-! Telemetry deliveries commute: over a chain of samples from one source the stored
observation is the newest delivered so far, whatever the order and the repetitions. -/
namespace CrazySwarm
open PyFloat PyMath

variable {F : Type} [PyMath F]

namespace TelemetryEnvelope

/-- The order of the samples of one source: by epoch, within an epoch by both counters. -/
def AtMost (x y : TelemetryEnvelope F) : Prop :=
  x.sourceClockEpoch < y.sourceClockEpoch ∨
    (x.sourceClockEpoch = y.sourceClockEpoch ∧ x.sequence ≤ y.sequence ∧
      le x.sourceTimestampS y.sourceTimestampS = true)

def Older (x y : TelemetryEnvelope F) : Prop := x.AtMost y ∧ ¬ y.AtMost x

structure Chain (vehicleId sourceClockId : String) (samples : List (TelemetryEnvelope F)) :
    Prop where
  vehicle : ∀ x ∈ samples, x.vehicleId = vehicleId
  source : ∀ x ∈ samples, x.sourceClockId = sourceClockId
  total : ∀ x ∈ samples, ∀ y ∈ samples, x.AtMost y ∨ y.AtMost x
  antisymm : ∀ x ∈ samples, ∀ y ∈ samples, x.AtMost y → y.AtMost x → x = y

def Newest (samples : List (TelemetryEnvelope F)) (x : TelemetryEnvelope F) : Prop :=
  x ∈ samples ∧ ∀ y ∈ samples, y.AtMost x

variable {vehicleId sourceClockId : String} {samples : List (TelemetryEnvelope F)}
  {x y z : TelemetryEnvelope F}

section Order
variable [IeeeOrder F]

theorem AtMost.trans (first : x.AtMost y) (second : y.AtMost z) : x.AtMost z := by
  rcases first with before | ⟨epoch, sequence, stamp⟩ <;>
    rcases second with before' | ⟨epoch', sequence', stamp'⟩
  · exact .inl (by omega)
  · exact .inl (by omega)
  · exact .inl (by omega)
  · exact .inr ⟨by omega, by omega, IeeeOrder.le_trans stamp stamp'⟩

theorem staleAgainst_iff (chain : Chain vehicleId sourceClockId samples)
    (held : y ∈ samples) (given : x ∈ samples) :
    SafetySupervisor.staleAgainst y x = true ↔ x.AtMost y := by
  have same : x.sourceClockId = y.sourceClockId :=
    (chain.source x given).trans (chain.source y held).symm
  simp only [SafetySupervisor.staleAgainst, same, beq_self_eq_true, Bool.true_and,
    Bool.or_eq_true, Bool.and_eq_true, decide_eq_true_eq, beq_iff_eq]
  constructor
  · rintro (before | ⟨epoch, (lower | earlier) | ⟨sequence, stamp⟩⟩)
    · exact .inl before
    · rcases chain.total x given y held with atMost | before | ⟨_, upper, _⟩
      · exact atMost
      · omega
      · omega
    · rcases chain.total x given y held with atMost | before | ⟨_, _, later⟩
      · exact atMost
      · omega
      · rw [IeeeOrder.not_lt_of_le later] at earlier
        cases earlier
    · exact .inr ⟨epoch, sequence.le, IeeeOrder.le_of_eq stamp⟩
  · rintro (before | ⟨epoch, sequence, stamp⟩)
    · exact .inl before
    · rcases sequence.lt_or_eq with lower | equal
      · exact .inr ⟨epoch, .inl (.inl lower)⟩
      · rcases (IeeeOrder.le_iff _ _).mp stamp with earlier | same
        · exact .inr ⟨epoch, .inl (.inr earlier)⟩
        · exact .inr ⟨epoch, .inr ⟨equal, same⟩⟩

end Order

end TelemetryEnvelope

namespace SafetySupervisor
open Coroutine TelemetryEnvelope

variable (clock : MonotonicClock F)

def held (s : SafetySupervisor F) (vehicleId : String) : Option (VehicleSession F) :=
  (s.sessions.get? vehicleId).bind fun ref => s.heap[ref]?

def stored (s : SafetySupervisor F) (vehicleId : String) : Option (TelemetryEnvelope F) :=
  (s.held vehicleId).bind VehicleSession.telemetry

/-- The freshness time of the stored observation. -/
def receivedAt (s : SafetySupervisor F) (vehicleId : String) : Option F :=
  (s.held vehicleId).bind VehicleSession.telemetryReceivedAtMonotonicS

def Registered (s : SafetySupervisor F) (vehicleId : String) : Prop :=
  ∃ session, s.held vehicleId = some session ∧ session.vehicle.identity.vehicleId = vehicleId

/-- Store a sample and renew the freshness time. -/
def accepted (s : SafetySupervisor F) (ref : Nat) (telemetry : TelemetryEnvelope F) :
    SafetySupervisor F :=
  { s with
    ticks := s.ticks + 1
    heap := s.heap.modify ref ({ · with
      telemetry := some telemetry
      telemetryReceivedAtMonotonicS := some (clock.read s.ticks) }) }

variable {clock} {s : SafetySupervisor F} {vehicleId sourceClockId : String}
  {samples : List (TelemetryEnvelope F)}

theorem held_eq_some {session : VehicleSession F} :
    s.held vehicleId = some session ↔
      ∃ ref, s.sessions.get? vehicleId = some ref ∧ s.heap[ref]? = some session := by
  simp [held, Option.bind_eq_some_iff]

/-- All that a delivery to a registered vehicle can do. -/
theorem receiveTelemetry_segment {ref : Nat} {session : VehicleSession F}
    {telemetry : TelemetryEnvelope F} (found : s.sessions.get? telemetry.vehicleId = some ref)
    (object : s.heap[ref]? = some session)
    (identity : session.vehicle.identity.vehicleId = telemetry.vehicleId) :
    (receiveTelemetry clock telemetry).segment s =
      if session.telemetry.any (staleAgainst · telemetry) then (s, returns ())
      else (accepted clock s ref telemetry, returns ()) := by
  have looked : (SafetySupervisor.session telemetry.vehicleId : Call F Nat).segment s =
      (s, returns ref) := by
    rw [SafetySupervisor.session, segment_bind_of_returns (segment_get s), found]
    rfl
  have loaded : (load ref : Call F _).segment s = (s, returns session) := by
    rw [load, segment_bind_of_returns (segment_get s), object]
    rfl
  have same : (failUnless (telemetry.vehicleId == session.vehicle.identity.vehicleId)
      .identityMismatch "telemetry identity mismatch" : Call F Unit).segment s =
        (s, returns ()) := by
    rw [identity, beq_self_eq_true]
    rfl
  rw [receiveTelemetry, segment_bind_of_returns looked, segment_bind_of_returns loaded,
    segment_bind_of_returns same]
  cases session.telemetry.any (staleAgainst · telemetry) <;> rfl

/-- What one delivery may do to the stored observation: nothing, its freshness time included,
or put a strictly newer one in its place. -/
def Freshens (vehicleId : String) (before after : SafetySupervisor F) : Prop :=
  (after.stored vehicleId = before.stored vehicleId ∧
    after.receivedAt vehicleId = before.receivedAt vehicleId) ∨
  ∃ x, after.stored vehicleId = some x ∧ ∀ y, before.stored vehicleId = some y → y.Older x

def deliver (telemetry : TelemetryEnvelope F) : Turn F := .call (.receiveTelemetry telemetry)

section Deliveries
variable [IeeeOrder F]

structure Tracks (vehicleId : String) (samples seen : List (TelemetryEnvelope F))
    (s : SafetySupervisor F) : Prop where
  registered : s.Registered vehicleId
  ofSamples : ∀ x, s.stored vehicleId = some x → x ∈ samples
  newest : ∀ x ∈ seen, ∃ y, s.stored vehicleId = some y ∧ x.AtMost y

variable (clock) in
theorem deliver_tracks (chain : Chain vehicleId sourceClockId samples) {loop : Loop F}
    {seen : List (TelemetryEnvelope F)} {x : TelemetryEnvelope F} (member : x ∈ samples)
    (tracks : loop.state.Tracks vehicleId samples seen) :
    (step clock loop (deliver x)).state.Tracks vehicleId samples (x :: seen) ∧
      Freshens vehicleId loop.state (step clock loop (deliver x)).state := by
  obtain ⟨⟨session, holds, identity⟩, ofSamples, newest⟩ := tracks
  obtain ⟨ref, found, object⟩ := held_eq_some.mp holds
  have vehicle := chain.vehicle x member
  have segment : (receiveTelemetry clock x).segment loop.state = _ :=
    receiveTelemetry_segment (vehicle ▸ found) object (identity.trans vehicle.symm)
  have stored : loop.state.stored vehicleId = session.telemetry := by simp [stored, holds]
  have after : (step clock loop (deliver x)).state =
      ((receiveTelemetry clock x).segment loop.state).1 := rfl
  rw [after, segment]
  split
  · next stale =>
    -- an ignored sample is not newer than the one that is kept
    obtain ⟨y, known, ignored⟩ := (Option.any_eq_true _ _).mp stale
    have kept : loop.state.stored vehicleId = some y := stored.trans known
    have older := (staleAgainst_iff chain (ofSamples y kept) member).mp ignored
    refine ⟨⟨⟨session, holds, identity⟩, ofSamples, ?_⟩, .inl ⟨rfl, rfl⟩⟩
    intro z seen
    rcases List.mem_cons.mp seen with rfl | before
    · exact ⟨y, kept, older⟩
    · exact newest z before
  · next fresh =>
    have holds' : (accepted clock loop.state ref x).held vehicleId = some { session with
        telemetry := some x
        telemetryReceivedAtMonotonicS := some (clock.read loop.state.ticks) } := by
      simp [held, accepted, found, object]
    have stored' : (accepted clock loop.state ref x).stored vehicleId = some x := by
      simp [SafetySupervisor.stored, holds']
    have newer : ∀ y, loop.state.stored vehicleId = some y → y.Older x := by
      intro y kept
      have notOlder : ¬ x.AtMost y := fun older => fresh ((Option.any_eq_true _ _).mpr
        ⟨y, stored.symm.trans kept, (staleAgainst_iff chain (ofSamples y kept) member).mpr older⟩)
      exact ⟨(chain.total y (ofSamples y kept) x member).resolve_right notOlder, notOlder⟩
    refine ⟨⟨⟨_, holds', identity⟩, ?_, ?_⟩, .inr ⟨x, stored', newer⟩⟩
    · rintro y kept
      cases stored'.symm.trans kept
      exact member
    · intro z seen
      refine ⟨x, stored', ?_⟩
      rcases List.mem_cons.mp seen with rfl | before
      · rcases chain.total z member z member with self | self <;> exact self
      · obtain ⟨y, kept, below⟩ := newest z before
        exact below.trans (newer y kept).1

variable (clock) in
theorem deliveries_track (chain : Chain vehicleId sourceClockId samples)
    {deliveries : List (TelemetryEnvelope F)} (members : ∀ x ∈ deliveries, x ∈ samples)
    {loop : Loop F} {seen : List (TelemetryEnvelope F)}
    (tracks : loop.state.Tracks vehicleId samples seen) :
    ∃ order, (∀ x, x ∈ order ↔ x ∈ seen ∨ x ∈ deliveries) ∧
      (Runs.run (step clock) loop (deliveries.map deliver)).state.Tracks vehicleId samples order ∧
      Runs.Along (step clock) (fun loop turn =>
        Freshens vehicleId loop.state (step clock loop turn).state)
        loop (deliveries.map deliver) := by
  induction deliveries generalizing loop seen with
  | nil => exact ⟨seen, by simp, tracks, trivial⟩
  | cons x rest ih =>
    obtain ⟨first, freshens⟩ := deliver_tracks clock chain
      (members x List.mem_cons_self) tracks
    obtain ⟨order, covers, final, along⟩ :=
      ih (fun y later => members y (List.mem_cons_of_mem x later)) first
    refine ⟨order, fun y => ?_, final, freshens, along⟩
    rw [covers, List.mem_cons, List.mem_cons]
    tauto

/-- Every delivery order of a chain, with any repetitions, leaves its maximum stored, and on
the way the observation and its freshness time change only for a strictly newer sample. -/
theorem telemetry_order_irrelevant (chain : Chain vehicleId sourceClockId samples)
    {deliveries : List (TelemetryEnvelope F)} (order : ∀ x, x ∈ deliveries ↔ x ∈ samples)
    {loop : Loop F} (registered : loop.state.Registered vehicleId)
    (unobserved : loop.state.stored vehicleId = none) :
    (samples ≠ [] → ∃ x, Newest samples x ∧
      (Runs.run (step clock) loop (deliveries.map deliver)).state.stored vehicleId = some x) ∧
    Runs.Along (step clock) (fun loop turn =>
      Freshens vehicleId loop.state (step clock loop turn).state)
      loop (deliveries.map deliver) := by
  have start : loop.state.Tracks vehicleId samples [] :=
    ⟨registered, by simp [unobserved], by simp⟩
  obtain ⟨seen, covers, final, along⟩ := deliveries_track clock chain
    (fun x member => (order x).mp member) start
  refine ⟨fun some => ?_, along⟩
  have delivered (z) (member : z ∈ samples) := (covers z).mpr (.inr ((order z).mpr member))
  obtain ⟨first, member⟩ := List.exists_mem_of_ne_nil samples some
  obtain ⟨x, kept, _⟩ := final.newest first (delivered first member)
  refine ⟨x, ⟨final.ofSamples x kept, fun z member => ?_⟩, kept⟩
  obtain ⟨y, kept', above⟩ := final.newest z (delivered z member)
  rw [kept] at kept'
  cases kept'
  exact above

end Deliveries

section Instance

def simulated : Vehicle := ⟨⟨"vehicle-1"⟩, ⟨.simulation, true⟩, [.arming]⟩

def sampleAt (sequence : Nat) : TelemetryEnvelope ℚ where
  vehicleId := "vehicle-1"
  sequence
  sourceTimestampS := sequence
  telemetry := { state := .ready, armed := false, flying := false }

def registeredLoop : Loop ℚ :=
  step secondsClock (initial .exactDefault) (.call (.registerVehicle simulated))

theorem samples_chain : Chain "vehicle-1" "adapter-monotonic" [sampleAt 3, sampleAt 5] := by
  have stamps : (3 : ℚ) ≤ 5 := by decide
  constructor <;> simp [TelemetryEnvelope.AtMost, sampleAt, PyFloat.le]
  exact stamps

theorem telemetry_order_irrelevant_late :
    ∃ x, Newest [sampleAt 3, sampleAt 5] x ∧
      (Runs.run (step secondsClock) registeredLoop
        ([sampleAt 5, sampleAt 3, sampleAt 5, sampleAt 3].map deliver)).state.stored "vehicle-1" =
          some x :=
  have registered : registeredLoop.state.Registered "vehicle-1" :=
    ⟨{ vehicle := simulated }, rfl, rfl⟩
  (telemetry_order_irrelevant samples_chain (by simp; tauto) registered rfl).1 (by simp)

end Instance

end SafetySupervisor

end CrazySwarm
