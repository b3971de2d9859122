import CrazySwarm.Crazyflie

/-! The order of the telemetry of a Crazyflie and the time of its envelopes, over every
interleaving of the calls of the adapter. -/
namespace CrazySwarm
namespace CrazyflieVehicle
open Coroutine EventLoop PyFloat

variable {F : Type} [PyMath F] {settings : CrazyflieSettings F}

/-- The comparison of firmware times, which are numbers and keep their order in seconds. -/
class ClockOrder (F : Type) [PyMath F] : Prop extends IeeeOrder F where
  zero_number : eq (zero : F) zero = true
  seconds_number (ms : Int) : eq (seconds ms : F) (seconds ms) = true
  seconds_mono {a b : Int} : a ≤ b → lt (seconds b : F) (seconds a) = false

section Statement

/-- The number of the connection, the timestamp of the sample and the envelope made from it. -/
abbrev Emission (F : Type) := Nat × Int × TelemetryEnvelope F

/-- The later envelope of a connection has the greater number and no smaller time. -/
def Ordered (emitted : List (Emission F)) : Prop :=
  emitted.Pairwise fun earlier later => earlier.1 = later.1 →
    earlier.2.2.sequence < later.2.2.sequence ∧
      (earlier.2.2.sourceClockEpoch < later.2.2.sourceClockEpoch ∨
        earlier.2.2.sourceClockEpoch = later.2.2.sourceClockEpoch ∧
          lt later.2.2.sourceTimestampS earlier.2.2.sourceTimestampS = false)

def timestampsOf (s : CrazyflieVehicle F) (connection : Nat) : List Int :=
  (s.timestamps.filter (·.1 == connection)).map (·.2)

/-- In a connection whose timestamps never decrease every envelope has the time of its sample. -/
def Faithful (s : CrazyflieVehicle F) : Prop :=
  ∀ connection, (s.timestampsOf connection).Pairwise (· ≤ ·) →
    ∀ item ∈ s.emitted, item.1 = connection → item.2.2.sourceTimestampS = seconds item.2.1

/-- The first sample of a connection is not before the time that earlier connections left. -/
def startsLater (s : CrazyflieVehicle F) (raw : CrazyflieRawSample F) : Prop :=
  raw.connected = true → s.lastSourceTimestampMs = none →
    lt (seconds raw.sourceTimestampMs) s.lastSourceTimestampS = false

def onSample (condition : CrazyflieVehicle F → CrazyflieRawSample F → Prop) :
    (on : CrazyflieWait F) → CrazyflieReply on → CrazyflieVehicle F → Prop
  | .readSample, .ok raw, s => condition s raw
  | _, _, _ => True

instance startsLater.decidable (s : CrazyflieVehicle F) (raw : CrazyflieRawSample F) :
    Decidable (s.startsLater raw) :=
  inferInstanceAs (Decidable (_ → _ → _))

instance onSample.decidable (condition : CrazyflieVehicle F → CrazyflieRawSample F → Prop)
    [∀ s raw, Decidable (condition s raw)] :
    (on : CrazyflieWait F) → (reply : CrazyflieReply on) → (s : CrazyflieVehicle F) →
      Decidable (onSample condition on reply s)
  | .readSample, .ok raw, s => inferInstanceAs (Decidable (condition s raw))
  | .readSample, .error _, _ => .isTrue trivial
  | .connect, _, _ => .isTrue trivial
  | .disconnect, _, _ => .isTrue trivial
  | .command _, _, _ => .isTrue trivial
  | .sleep _, _, _ => .isTrue trivial

end Statement

section Keeping

/-- An invariant of the clock: the connection and taking in a sample keep it, and it does not
speak of the rest. -/
structure ClockInvariant (settings : CrazyflieSettings F)
    (condition : CrazyflieVehicle F → CrazyflieRawSample F → Prop)
    (inv : CrazyflieVehicle F → Prop) : Prop where
  bound : ∀ s metadata permit latest, inv s → inv { s with metadata, permit, latest }
  opened : ∀ s metadata, inv s → inv (s.opened metadata)
  take : ∀ s raw, condition s raw → inv s → inv (s.take settings raw)

/-- The call keeps the invariant from each wait to the next. -/
abbrev KeepsClock (condition : CrazyflieVehicle F → CrazyflieRawSample F → Prop)
    (inv : CrazyflieVehicle F → Prop) {α : Type} (call : CrazyflieCall F α) : Prop :=
  call.Maintains inv (onSample condition)

variable {condition : CrazyflieVehicle F → CrazyflieRawSample F → Prop}
  {inv : CrazyflieVehicle F → Prop}

theorem snapshot_keeps (clock : ClockInvariant settings condition inv) :
    KeepsClock condition inv (snapshot settings) := by
  refine .read fun s => ?_
  split
  · exact .done
  · refine .wait fun reply later holds given => ?_
    cases reply with
    | error raised => exact holds
    | ok raw => exact clock.take later raw given holds

theorem connect_keeps (clock : ClockInvariant settings condition inv) :
    KeepsClock condition inv (connect settings) := by
  refine .read fun s => ?_
  split
  · exact .done
  · refine .await fun reply => ?_
    rcases reply with raised | metadata
    · exact .done
    · dsimp only
      split
      · refine .await fun reply => ?_
        rcases reply with raised | _
        · exact .done
        · exact .done
      · refine .bind (.modify fun s => clock.opened s metadata) fun _ => ?_
        refine .bind (snapshot_keeps clock) fun latest => ?_
        exact .modify fun s => clock.bound s s.metadata s.permit latest

theorem disconnect_keeps (clock : ClockInvariant settings condition inv) (now : F) :
    KeepsClock condition inv (disconnect now) := by
  refine .await fun ended => ?_
  refine .bind (.modify fun s => clock.bound s none none s.latest) fun _ => ?_
  refine .bind (.modify fun s => clock.bound s s.metadata s.permit (s.disconnectedSample now)) ?_
  exact fun _ => .done

theorem installCommandPermit_keeps (clock : ClockInvariant settings condition inv)
    (permit : CommandPermit) : KeepsClock condition inv (installCommandPermit permit) := by
  refine .read fun s => ?_
  split
  · exact .done
  · split
    · exact .done
    · exact .modify fun s => clock.bound s s.metadata (some permit) s.latest

theorem waitForSupervisor_keeps (clock : ClockInvariant settings condition inv) (armed : Bool)
    (deadline : F) (readings : Nat → F) (rounds : Nat) :
    KeepsClock condition inv (waitForSupervisor settings armed deadline readings rounds) := by
  induction rounds with
  | zero => exact .done
  | succ rounds ih =>
    refine .bind (snapshot_keeps clock) fun sample => ?_
    split
    · exact .done
    · split
      · exact .done
      · refine .await fun reply => ?_
        cases reply with
        | false => exact .done
        | true => exact ih

theorem waitDurationAndRefresh_keeps (clock : ClockInvariant settings condition inv)
    (deadline : F) (readings : Nat → F) (rounds : Nat) :
    KeepsClock condition inv (waitDurationAndRefresh settings deadline readings rounds) := by
  induction rounds with
  | zero => exact .done
  | succ rounds ih =>
    refine .bind (snapshot_keeps clock) fun sample => ?_
    dsimp only
    split
    · exact .done
    · refine .await fun reply => ?_
      cases reply with
      | false => exact .done
      | true => exact ih

theorem confirm_keeps (clock : ClockInvariant settings condition inv) (timing : Timing F)
    (confirmation : Confirmation F) : KeepsClock condition inv
      (confirm settings timing.startedS timing.clock timing.rounds confirmation) := by
  cases confirmation with
  | supervisor armed timeoutS => exact waitForSupervisor_keeps clock _ _ _ _
  | duration durationS => exact waitDurationAndRefresh_keeps clock _ _ _

theorem perform_keeps (clock : ClockInvariant settings condition inv) (command : VehicleCommand F)
    (timing : Timing F) (call : LinkCall F) (confirmation : Confirmation F) :
    KeepsClock condition inv (perform settings command timing call confirmation) := by
  refine .rescue (.await fun reply => ?_) fun _ => .done
  rcases reply with raised | _
  · exact .done
  · exact confirm_keeps clock timing confirmation

theorem execute_keeps (clock : ClockInvariant settings condition inv) (command : VehicleCommand F)
    (timing : Timing F) : KeepsClock condition inv (execute settings command timing) := by
  refine .read fun s => ?_
  split
  · exact .done
  · split
    · exact .done
    · split
      · exact .done
      · split
        · exact .done
        · exact .bind (perform_keeps clock command timing _ _) fun _ => .done

/-- An invariant of the clock is kept by every call of the adapter. -/
theorem program_keeps (clock : ClockInvariant settings condition inv) (operation : Operation F) :
    KeepsClock condition inv (program settings operation) := by
  cases operation with
  | connect => exact .bind (connect_keeps clock) fun _ => .done
  | disconnect now => exact .bind (disconnect_keeps clock now) fun _ => .done
  | installCommandPermit permit =>
    exact .bind (installCommandPermit_keeps clock permit) fun _ => .done
  | clearCommandPermit =>
    exact .bind (.modify fun s => clock.bound s s.metadata none s.latest) fun _ => .done
  | snapshot => exact .bind (snapshot_keeps clock) fun _ => .done
  | execute command timing => exact .bind (execute_keeps clock command timing) fun _ => .done

theorem run_clock (clock : ClockInvariant settings condition inv)
    {loop : EventLoop (Operation F) (CrazyflieVehicle F) (CrazyflieWait F) CrazyflieReply
      (AdapterRaised F) (Answer F)} {turns : List (Turn (Operation F) (CrazyflieWait F) CrazyflieReply)}
    (holds : inv loop.state) (idle : loop.tasks = [])
    (quiet : Runs.Along (step (program settings)) (fun loop turn =>
      loop.Calm (onSample condition) turn) loop turns) :
    inv (Runs.run (step (program settings)) loop turns).state := by
  exact run_invariant (program_keeps clock) holds idle quiet

end Keeping

section Sample

theorem clamp_of_not_below {floor value : F} (above : lt value floor = false) :
    clamp floor value = value := by
  simp [clamp, above]

/-- What `normalize` says when it returns: the envelope has the number, the epoch and the time
that the clock has after the sample. -/
theorem normalize_eq_ok {s moved : CrazyflieVehicle F} {raw : CrazyflieRawSample F}
    {made : TelemetryEnvelope F} (normal : s.normalize settings raw = (moved, .ok made)) :
    raw.connected = true ∧ moved = s.sourceTime raw.sourceTimestampMs ∧
      made.sequence = s.sequence ∧ made.sourceClockEpoch = moved.sourceEpoch ∧
      made.sourceTimestampS = moved.lastSourceTimestampS := by
  unfold normalize at normal
  cases connected : raw.connected with
  | false => simp [connected] at normal
  | true =>
    simp only [connected, Bool.not_true, Bool.false_eq_true, if_false, Prod.mk.injEq] at normal
    obtain ⟨rfl, returned⟩ := normal
    obtain ⟨_, -, returned⟩ := bind_eq_ok.mp returned
    obtain ⟨_, -, returned⟩ := bind_eq_ok.mp returned
    cases returned
    exact ⟨rfl, rfl, rfl, rfl, rfl⟩

theorem normalize_moved (settings : CrazyflieSettings F) (s : CrazyflieVehicle F) (raw : CrazyflieRawSample F) :
    (s.normalize settings raw).1 = s ∨ raw.connected = true ∧
      (s.normalize settings raw).1 = s.sourceTime raw.sourceTimestampMs := by
  unfold normalize
  cases connected : raw.connected with
  | false => exact .inl rfl
  | true => exact .inr ⟨rfl, rfl⟩

/-- The vehicle after an emission: the clock has moved and the envelope shows it. -/
def emits (s : CrazyflieVehicle F) (timestampMs : Int) (made : TelemetryEnvelope F) :
    CrazyflieVehicle F :=
  { s.sourceTime timestampMs with
    latest := made
    sequence := s.sequence + 1
    emitted := s.emitted ++ [(s.connection, timestampMs, made)] }

/-- Taking a sample in leaves the vehicle alone, moves its clock, or emits an envelope too. -/
theorem take_cases (settings : CrazyflieSettings F) (s : CrazyflieVehicle F) (raw : CrazyflieRawSample F) :
    s.take settings raw = s ∨
      raw.connected = true ∧ (s.take settings raw = s.sourceTime raw.sourceTimestampMs ∨
        ∃ made, made.sequence = s.sequence ∧
          made.sourceClockEpoch = (s.sourceTime raw.sourceTimestampMs).sourceEpoch ∧
          made.sourceTimestampS = (s.sourceTime raw.sourceTimestampMs).lastSourceTimestampS ∧
          s.take settings raw = s.emits raw.sourceTimestampMs made) := by
  cases normal : s.normalize settings raw with
  | mk moved result =>
    have whole := normalize_moved settings s raw
    rw [normal] at whole
    cases result with
    | error raised =>
      simp only [take, normal]
      rcases whole with same | ⟨connected, timed⟩
      · exact .inl same
      · exact .inr ⟨connected, .inl timed⟩
    | ok made =>
      obtain ⟨connected, rfl, sequence, epoch, time⟩ := normalize_eq_ok normal
      right
      refine ⟨connected, .inr ⟨made, sequence, epoch, time, ?_⟩⟩
      simp only [take, normal]
      rfl

end Sample

section Order

structure Ahead (s : CrazyflieVehicle F) (made : TelemetryEnvelope F) : Prop where
  sequence : made.sequence < s.sequence
  number : eq made.sourceTimestampS made.sourceTimestampS = true
  time : made.sourceClockEpoch < s.sourceEpoch ∨ made.sourceClockEpoch = s.sourceEpoch ∧
    le made.sourceTimestampS s.lastSourceTimestampS = true

structure InOrder (s : CrazyflieVehicle F) : Prop where
  number : eq s.lastSourceTimestampS s.lastSourceTimestampS = true
  opened : ∀ item ∈ s.emitted, item.1 ≤ s.connection
  ahead : ∀ item ∈ s.emitted, item.1 = s.connection → s.Ahead item.2.2
  ordered : Ordered s.emitted

variable [ClockOrder F] {s : CrazyflieVehicle F}

theorem carried_number (number : eq s.lastSourceTimestampS s.lastSourceTimestampS = true)
    (timestampMs : Int) : eq (s.carried timestampMs) (s.carried timestampMs) = true := by
  unfold carried
  split
  · exact ClockOrder.zero_number
  · exact number

theorem le_clamp {floor : F} (number : eq floor floor = true) (ms : Int) :
    le floor (clamp floor (seconds ms)) = true := by
  unfold clamp
  split
  · exact IeeeOrder.le_of_eq number
  · next above =>
    exact IeeeOrder.le_of_not_lt number (ClockOrder.seconds_number ms) (Bool.eq_false_iff.mpr above)

theorem clamp_number {floor : F} (number : eq floor floor = true) (ms : Int) :
    eq (clamp floor (seconds ms)) (clamp floor (seconds ms)) = true := by
  unfold clamp
  split
  · exact number
  · exact ClockOrder.seconds_number ms

/-- The clock stays ahead when it takes the time of another sample: the epoch grows, or the time
does not go back. -/
theorem Ahead.sourceTime {made : TelemetryEnvelope F} (ahead : s.Ahead made)
    (number : eq s.lastSourceTimestampS s.lastSourceTimestampS = true) (timestampMs : Int) :
    (s.sourceTime timestampMs).Ahead made := by
  refine ⟨ahead.sequence, ahead.number, ?_⟩
  by_cases jump : s.rebooted timestampMs = true
  · left
    simp only [CrazyflieVehicle.sourceTime, jump, if_true]
    rcases ahead.time with before | ⟨before, -⟩ <;> omega
  · have later := le_clamp number (s.steadied timestampMs)
    simp only [CrazyflieVehicle.sourceTime, carried, jump, if_false, Bool.false_eq_true]
    rcases ahead.time with before | ⟨same, below⟩
    · exact .inl before
    · exact .inr ⟨same, IeeeOrder.le_trans below later⟩

theorem InOrder.sourceTime (kept : s.InOrder) (timestampMs : Int) :
    (s.sourceTime timestampMs).InOrder where
  number := clamp_number (carried_number kept.number timestampMs) _
  opened := kept.opened
  ahead item member same := (kept.ahead item member same).sourceTime kept.number timestampMs
  ordered := kept.ordered

theorem InOrder.emits (kept : s.InOrder) {timestampMs : Int} {made : TelemetryEnvelope F}
    (sequence : made.sequence = s.sequence)
    (epoch : made.sourceClockEpoch = (s.sourceTime timestampMs).sourceEpoch)
    (time : made.sourceTimestampS = (s.sourceTime timestampMs).lastSourceTimestampS) :
    (s.emits timestampMs made).InOrder := by
  have timed := kept.sourceTime timestampMs
  constructor
  · exact timed.number
  · intro item member
    rcases List.mem_append.mp member with old | new
    · exact kept.opened item old
    · obtain rfl := List.mem_singleton.mp new
      exact le_rfl
  · intro item member same
    rcases List.mem_append.mp member with old | new
    · have ahead := timed.ahead item old same
      exact ⟨Nat.lt_succ_of_lt ahead.sequence, ahead.number, ahead.time⟩
    · obtain rfl := List.mem_singleton.mp new
      refine ⟨sequence ▸ Nat.lt_succ_self _, ?_, .inr ⟨epoch, ?_⟩⟩
      · rw [time]
        exact timed.number
      · rw [time]
        exact IeeeOrder.le_of_eq timed.number
  · refine List.pairwise_append.mpr ⟨kept.ordered, List.pairwise_singleton _ _, ?_⟩
    intro item old new isNew same
    obtain rfl := List.mem_singleton.mp isNew
    have ahead := timed.ahead item old same
    rw [sequence, epoch, time]
    refine ⟨ahead.sequence, ?_⟩
    rcases ahead.time with before | ⟨before, below⟩
    · exact .inl before
    · exact .inr ⟨before, IeeeOrder.not_lt_of_le below⟩

theorem inOrder_clock (settings : CrazyflieSettings F) :
    ClockInvariant settings (fun _ _ => True) (InOrder : CrazyflieVehicle F → Prop) where
  bound s metadata permit latest kept := ⟨kept.number, kept.opened,
    fun item member same =>
      ⟨(kept.ahead item member same).1, (kept.ahead item member same).2,
        (kept.ahead item member same).3⟩, kept.ordered⟩
  opened s metadata kept := by
    refine ⟨kept.number, fun item member => Nat.le_succ_of_le (kept.opened item member), ?_,
      kept.ordered⟩
    intro item member same
    have before := kept.opened item member
    have fresh : item.1 = s.connection + 1 := same
    omega
  take s raw _ kept := by
    rcases take_cases settings s raw with same | ⟨-, timed | ⟨made, sequence, epoch, time, emitted⟩⟩
    · rwa [same]
    · rw [timed]
      exact kept.sourceTime _
    · rw [emitted]
      exact kept.emits sequence epoch time

end Order

section Time
variable [ClockOrder F] {s : CrazyflieVehicle F}

/-- As long as the timestamps of the connection have not decreased, the clock shows the last one. -/
structure OnTime (s : CrazyflieVehicle F) : Prop where
  taken : ∀ item ∈ s.timestamps, item.1 ≤ s.connection
  opened : ∀ item ∈ s.emitted, item.1 ≤ s.connection
  first : s.lastSourceTimestampMs = none → s.timestampsOf s.connection = []
  current : (s.timestampsOf s.connection).Pairwise (· ≤ ·) →
    ∀ last, s.lastSourceTimestampMs = some last →
      (s.timestampsOf s.connection).getLast? = some last ∧ s.lastSourceTimestampS = seconds last
  faithful : Faithful s

omit [ClockOrder F] in
theorem timestampsOf_append (s : CrazyflieVehicle F) (timestampMs : Int) (connection : Nat) :
    (s.sourceTime timestampMs).timestampsOf connection =
      s.timestampsOf connection ++ if s.connection = connection then [timestampMs] else [] := by
  by_cases same : s.connection = connection
  · simp [timestampsOf, sourceTime, same]
  · simp [timestampsOf, sourceTime, same]

omit [ClockOrder F] in
theorem timestampsOf_current (s : CrazyflieVehicle F) (timestampMs : Int) :
    (s.sourceTime timestampMs).timestampsOf s.connection =
      s.timestampsOf s.connection ++ [timestampMs] := by
  simp [timestampsOf_append]

theorem OnTime.shows (kept : s.OnTime) {raw : CrazyflieRawSample F} (connected : raw.connected = true)
    (starts : s.startsLater raw)
    (sorted : (s.timestampsOf s.connection ++ [raw.sourceTimestampMs]).Pairwise (· ≤ ·)) :
    (s.sourceTime raw.sourceTimestampMs).lastSourceTimestampMs = some raw.sourceTimestampMs ∧
      (s.sourceTime raw.sourceTimestampMs).lastSourceTimestampS = seconds raw.sourceTimestampMs := by
  obtain ⟨before, -, last⟩ := List.pairwise_append.mp sorted
  cases previous : s.lastSourceTimestampMs with
  | none =>
    have later := starts connected previous
    simp [sourceTime, steadied, carried, rebooted, previous, clamp_of_not_below later]
  | some earlier =>
    obtain ⟨isLast, time⟩ := kept.current before earlier previous
    have order : earlier ≤ raw.sourceTimestampMs :=
      last earlier (List.mem_of_getLast? isLast) _ (List.mem_singleton_self _)
    have steady : s.rebooted raw.sourceTimestampMs = false := by
      simp only [rebooted, previous, Option.any_some, decide_eq_false_iff_not]
      omega
    have counts : s.steadied raw.sourceTimestampMs = raw.sourceTimestampMs := by
      simp [steadied, steady, previous, order]
    have later : lt (seconds raw.sourceTimestampMs) (seconds earlier : F) = false :=
      ClockOrder.seconds_mono order
    simp [sourceTime, counts, carried, steady, time, clamp_of_not_below later]

theorem OnTime.sourceTime (kept : s.OnTime) {raw : CrazyflieRawSample F}
    (connected : raw.connected = true) (starts : s.startsLater raw) :
    (s.sourceTime raw.sourceTimestampMs).OnTime where
  taken item member := by
    rcases List.mem_append.mp member with old | new
    · exact kept.taken item old
    · obtain rfl := List.mem_singleton.mp new
      exact le_rfl
  opened := kept.opened
  first none := by cases none
  current sorted last isLast := by
    have appended := timestampsOf_current s raw.sourceTimestampMs
    change ((s.sourceTime raw.sourceTimestampMs).timestampsOf s.connection).Pairwise _ at sorted
    change ((s.sourceTime raw.sourceTimestampMs).timestampsOf s.connection).getLast? = _ ∧ _
    rw [appended] at sorted ⊢
    obtain ⟨shown, time⟩ := kept.shows connected starts sorted
    obtain rfl := Option.some.inj (isLast.symm.trans shown)
    exact ⟨by simp, time⟩
  faithful connection sorted item member same := by
    rw [timestampsOf_append] at sorted
    exact kept.faithful connection (List.pairwise_append.mp sorted).1 item member same

theorem OnTime.emits (kept : s.OnTime) {raw : CrazyflieRawSample F} {made : TelemetryEnvelope F}
    (connected : raw.connected = true) (starts : s.startsLater raw)
    (time : made.sourceTimestampS = (s.sourceTime raw.sourceTimestampMs).lastSourceTimestampS) :
    (s.emits raw.sourceTimestampMs made).OnTime := by
  have timed := kept.sourceTime connected starts
  refine ⟨timed.taken, ?_, timed.first, timed.current, ?_⟩
  · intro item member
    rcases List.mem_append.mp member with old | new
    · exact kept.opened item old
    · obtain rfl := List.mem_singleton.mp new
      exact le_rfl
  · intro connection sorted item member same
    rcases List.mem_append.mp member with old | new
    · exact timed.faithful connection sorted item old same
    · obtain rfl := List.mem_singleton.mp new
      obtain rfl : s.connection = connection := same
      change ((s.sourceTime raw.sourceTimestampMs).timestampsOf s.connection).Pairwise _ at sorted
      rw [timestampsOf_current] at sorted
      exact time.trans (kept.shows connected starts sorted).2

theorem onTime_clock : ClockInvariant settings startsLater (OnTime : CrazyflieVehicle F → Prop) where
  bound s metadata permit latest kept :=
    ⟨kept.taken, kept.opened, kept.first, kept.current, kept.faithful⟩
  opened s metadata kept := by
    have fresh : s.timestampsOf (s.connection + 1) = [] := by
      simp only [timestampsOf, List.map_eq_nil_iff, List.filter_eq_nil_iff, beq_iff_eq]
      intro item member
      have before := kept.taken item member
      omega
    refine ⟨fun item member => Nat.le_succ_of_le (kept.taken item member),
      fun item member => Nat.le_succ_of_le (kept.opened item member), fun _ => fresh, ?_,
      kept.faithful⟩
    rintro - last ⟨⟩
  take s raw starts kept := by
    rcases take_cases settings s raw with same |
      ⟨connected, timed | ⟨made, -, -, time, emitted⟩⟩
    · rwa [same]
    · rw [timed]
      exact kept.sourceTime connected starts
    · rw [emitted]
      exact kept.emits connected starts time

end Time

/-- A vehicle that has never been connected. -/
def inert (vehicleId selectedUri : String) (latest : TelemetryEnvelope F) : CrazyflieVehicle F :=
  { vehicleId, selectedUri, lastSourceTimestampS := zero, latest }

abbrev Loop (F : Type) [PyMath F] :=
  EventLoop (Operation F) (CrazyflieVehicle F) (CrazyflieWait F) CrazyflieReply (AdapterRaised F)
    (Answer F)

/-- In every interleaving the envelopes of a connection are in order. They have the times of their
samples in every interleaving in which no connection starts before the time that earlier ones
left. -/
theorem telemetry_ordered_and_faithful [ClockOrder F] (settings : CrazyflieSettings F)
    (vehicleId selectedUri : String) (latest : TelemetryEnvelope F)
    (turns : List (Turn (Operation F) (CrazyflieWait F) CrazyflieReply)) :
    Ordered (Runs.run (step (program settings))
      ⟨inert vehicleId selectedUri latest, []⟩ turns).state.emitted ∧
    (Runs.Along (step (program settings)) (fun loop turn => loop.Calm (onSample startsLater) turn)
        ⟨inert vehicleId selectedUri latest, []⟩ turns →
      Faithful (Runs.run (step (program settings))
        ⟨inert vehicleId selectedUri latest, []⟩ turns).state) := by
  constructor
  · refine (run_clock (inOrder_clock settings) ?_ rfl ?_).ordered
    · exact ⟨ClockOrder.zero_number, by simp [inert], by simp [inert], .nil⟩
    · refine Runs.along (I := fun _ => True) (fun _ _ _ => trivial) (fun loop turn _ => ?_) trivial
      intro on reply _
      unfold onSample
      split <;> trivial
  · intro starts
    refine (run_clock onTime_clock ?_ rfl starts).faithful
    exact ⟨by simp [inert], by simp [inert], fun _ => rfl, by simp [inert],
      fun _ _ => by simp [inert]⟩

section Reconnection

instance : ClockOrder ℚ where
  zero_number := by decide
  seconds_number ms := by simp
  seconds_mono {a b} order := by
    simp only [Exact.lt_false, seconds, Exact.over_eq, Exact.ofRat_cast]
    gcongr

def plainSettings : CrazyflieSettings ℚ where
  telemetryPeriodS := 1 / 50
  estimatorVarianceLimitM2 := 1 / 100
  installedCflib := some "0.1.32"

def plainMetadata : CrazyflieConnectionMetadata where
  selectedUri := "radio://0/80/2M/E7E7E7E701"
  connectedUri := "radio://0/80/2M/E7E7E7E701"
  protocolVersion := some 12
  firmwareVersion := none
  deckParameters := [("deck.bcFlow2", 1), ("deck.bcMultiranger", 1)]
  observedParameters := [("commander.enHighLevel", "1"), ("stabilizer.controller", "1"),
    ("stabilizer.estimator", "2")]

def idleEnvelope : TelemetryEnvelope ℚ where
  vehicleId := "cf01"
  sequence := 0
  sourceTimestampS := 0
  telemetry := { state := .disconnected, armed := false, flying := false }

def workingLink (timestampMs : Int) : (on : CrazyflieWait ℚ) → CrazyflieReply on
  | .connect => .ok plainMetadata
  | .readSample => .ok { sourceTimestampMs := timestampMs, receivedAtMonotonicS := 0 }
  | .disconnect => .ok ()
  | .command _ => .ok ()
  | .sleep _ => true

/-- Two connections, each with one sample. -/
def reconnects (firstMs secondMs : Int) :
    List (Turn (Operation ℚ) (CrazyflieWait ℚ) CrazyflieReply) :=
  [.call .connect, .resume 0 (workingLink firstMs), .resume 0 (workingLink firstMs),
    .call (.disconnect 0), .resume 1 (workingLink firstMs),
    .call .connect, .resume 2 (workingLink secondMs), .resume 2 (workingLink secondMs)]

def reconnected (firstMs secondMs : Int) : Loop ℚ :=
  Runs.run (step (program plainSettings))
    ⟨inert "cf01" "radio://0/80/2M/E7E7E7E701" idleEnvelope, []⟩ (reconnects firstMs secondMs)

/-- A later connection that starts after the earlier one is shown with its own times. -/
theorem telemetry_ordered_and_faithful_reconnected :
    Ordered (reconnected 1000 5000).state.emitted ∧ Faithful (reconnected 1000 5000).state := by
  have kept := telemetry_ordered_and_faithful plainSettings "cf01" "radio://0/80/2M/E7E7E7E701"
    idleEnvelope (reconnects 1000 5000)
  exact ⟨kept.1, kept.2 (by decide +kernel)⟩

/-- The second connection takes in 1000 ms and shows the 5 s that the first one has left. -/
theorem reconnected_shows_earlier_time : ¬Faithful (reconnected 5000 1000).state := by
  intro faithful
  have last : (reconnected 5000 1000).state.emitted.map (fun item =>
      (item.1, item.2.1, item.2.2.sourceTimestampS)) = [(1, 5000, 5), (2, 1000, 5)] := by
    decide +kernel
  obtain ⟨item, member, shown⟩ := List.mem_map.mp (last ▸ List.mem_cons_of_mem _
    (List.mem_singleton_self (2, (1000 : Int), (5 : ℚ))))
  obtain ⟨number, raw, time⟩ : item.1 = 2 ∧ item.2.1 = 1000 ∧ item.2.2.sourceTimestampS = 5 := by
    simpa using shown
  have own := faithful 2 (by decide +kernel) item member number
  rw [time, raw] at own
  exact absurd own (by decide +kernel)

end Reconnection

end CrazyflieVehicle
end CrazySwarm
