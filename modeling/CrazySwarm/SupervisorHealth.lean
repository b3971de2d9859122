import CrazySwarm.SafetySupervisor

/-! Health evaluations compared with one another. A worse observation raises every issue that a
better one raises, as long as there is one: without telemetry a single issue stands for all. -/
namespace CrazySwarm
open PyFloat PyMath

section Severity

def Covered (first second : List HealthIssue) : Prop :=
  ∀ issue ∈ first, ∃ worse ∈ second, issue.action.order ≤ worse.action.order

variable {first second first' second' : List HealthIssue} {code message : String}
  {action : RecoveryAction}

@[simp] theorem Covered.nil : Covered [] second := by simp [Covered]

theorem Covered.singleton (issue : HealthIssue) {worse : HealthIssue}
    (same : issue.action = worse.action) : Covered [issue] [worse] := by
  simp [Covered, same]

theorem Covered.append (left : Covered first second) (right : Covered first' second') :
    Covered (first ++ first') (second ++ second') := by
  intro issue member
  rcases List.mem_append.mp member with member | member
  · obtain ⟨worse, there, severe⟩ := left issue member
    exact ⟨worse, List.mem_append_left _ there, severe⟩
  · obtain ⟨worse, there, severe⟩ := right issue member
    exact ⟨worse, List.mem_append_right _ there, severe⟩

theorem covered_issueIf {condition worse : Bool} (implies : condition = true → worse = true) :
    Covered (issueIf condition code message action) (issueIf worse code message action) := by
  cases condition with
  | false => simp [issueIf]
  | true => simpa [issueIf, implies rfl] using Covered.singleton _ rfl

theorem order_highest_foldl (start : RecoveryAction) {n : Nat} :
    (first.foldl (fun highest issue =>
      if highest.order < issue.action.order then issue.action else highest) start).order ≤ n ↔
      start.order ≤ n ∧ ∀ issue ∈ first, issue.action.order ≤ n := by
  induction first generalizing start with
  | nil => simp
  | cons issue first ih =>
    rw [List.foldl_cons, ih, List.forall_mem_cons]
    split <;> grind

@[simp] theorem RecoveryAction.order_none : RecoveryAction.none.order = 0 := rfl

/-- An assessment is at most as severe as a bound that all of its issues keep. -/
theorem order_highestAction_le {n : Nat} :
    (highestAction first).order ≤ n ↔ ∀ issue ∈ first, issue.action.order ≤ n := by
  simp [highestAction, order_highest_foldl]

theorem order_le_highestAction {issue : HealthIssue} (member : issue ∈ first) :
    issue.action.order ≤ (highestAction first).order :=
  order_highestAction_le.mp (Nat.le_refl _) issue member

theorem Covered.highestAction_le (covered : Covered first second) :
    (highestAction first).order ≤ (highestAction second).order := by
  refine order_highestAction_le.mpr fun issue member => ?_
  obtain ⟨worse, there, severe⟩ := covered issue member
  exact Nat.le_trans severe (order_le_highestAction there)

end Severity

variable {F : Type} [PyMath F]

def Lower : Option F → Option F → Prop
  | _, none => True
  | none, some _ => False
  | some first, some second => le second first = true

structure VehicleTelemetry.NoBetter (policy : SafetyPolicy F) (first second : VehicleTelemetry F) :
    Prop where
  state : first.state = .disconnected → second.state = .disconnected
  battery : Lower first.batteryPercent second.batteryPercent
  transport : Lower (transportQuality first) (transportQuality second)
  localization : Lower first.localizationQualityPercent second.localizationQualityPercent
  boundary : second.positionM.any policy.flightVolume.contains = true →
    first.positionM.any policy.flightVolume.contains = true
  imu : second.imu = true → first.imu = true
  flow : second.flow = true → first.flow = true

namespace HealthObservation

structure NoBetter (policy : SafetyPolicy F) (first second : HealthObservation F) : Prop where
  state : second.state = first.state
  lowBatteryOverride : second.lowBatteryOverride = true → first.lowBatteryOverride = true
  telemetry : ∀ later receivedLater, second.received = some (later, receivedLater) →
    ∃ earlier receivedEarlier, first.received = some (earlier, receivedEarlier) ∧
      le (first.now - receivedEarlier) (second.now - receivedLater) = true ∧
      earlier.telemetry.NoBetter policy later.telemetry

/-- The sample shows an airborne vehicle as disconnected or without a required sensor. -/
def Emergency (o : HealthObservation F) : Prop :=
  o.state.airborne = true ∧ ∃ envelope receivedAt, o.received = some (envelope, receivedAt) ∧
    (envelope.telemetry.state = .disconnected ∨
      (envelope.telemetry.imu && envelope.telemetry.flow) = false)

end HealthObservation

section Issues

variable {policy : SafetyPolicy F} {o first second : HealthObservation F}

theorem covered_transportIssue [IeeeOrder F] {action : RecoveryAction} {quality worse : Option F}
    (lower : Lower quality worse) :
    Covered (transportIssue policy action quality) (transportIssue policy action worse) := by
  cases worse with
  | none =>
    cases quality with
    | none => exact .singleton _ rfl
    | some quality =>
      simp only [transportIssue]
      split
      · exact .singleton _ rfl
      · exact .nil
  | some worse =>
    cases quality with
    | none => exact lower.elim
    | some quality =>
      simp only [transportIssue]
      split
      case isTrue low =>
        rw [if_pos (IeeeOrder.lt_of_le_of_lt lower low)]
        exact .singleton _ rfl
      case isFalse => exact .nil

theorem covered_batteryIssue [IeeeOrder F] {action : RecoveryAction} {percent worse : Option F}
    (override : second.lowBatteryOverride = true → first.lowBatteryOverride = true)
    (lower : Lower percent worse) :
    Covered (batteryIssue policy first action percent) (batteryIssue policy second action worse) := by
  cases worse with
  | none =>
    cases percent with
    | none => exact .singleton _ rfl
    | some percent =>
      simp only [batteryIssue]
      split
      · exact .singleton _ rfl
      · exact .nil
  | some worse =>
    cases percent with
    | none => exact lower.elim
    | some percent =>
      simp only [batteryIssue]
      split
      case isTrue critical =>
        simp only [Bool.and_eq_true, Bool.not_eq_true'] at critical
        have worseCritical := IeeeOrder.le_trans lower critical.1
        have noOverride : second.lowBatteryOverride = false := by
          by_contra overridden
          simp [override (by simpa using overridden)] at critical
        rw [worseCritical, noOverride]
        exact .singleton _ rfl
      case isFalse => exact .nil

theorem Lower.all_lt [IeeeOrder F] {quality worse : Option F} {minimum : F}
    (lower : Lower quality worse) (low : quality.all (lt · minimum) = true) :
    worse.all (lt · minimum) = true := by
  cases worse with
  | none => rfl
  | some worse =>
    cases quality with
    | none => exact lower.elim
    | some quality => exact IeeeOrder.lt_of_le_of_lt lower low

/-- Telemetry that is no better raises every issue again. -/
theorem covered_healthIssues [IeeeOrder F] (worse : first.NoBetter policy second)
    (received : second.received.isSome = true) :
    Covered (healthIssues policy first) (healthIssues policy second) := by
  obtain ⟨⟨later, receivedLater⟩, second_eq⟩ := Option.isSome_iff_exists.mp received
  obtain ⟨earlier, receivedEarlier, first_eq, older, sample⟩ := worse.telemetry _ _ second_eq
  simp only [healthIssues, first_eq, second_eq, worse.state]
  refine ((((((covered_issueIf ?stale).append (covered_issueIf ?link)).append
    (covered_batteryIssue worse.lowBatteryOverride sample.battery)).append
    (covered_transportIssue sample.transport)).append (covered_issueIf ?localization)).append
    (covered_issueIf ?boundary)).append (covered_issueIf ?sensors)
  case stale => exact fun stale => IeeeOrder.lt_of_lt_of_le stale older
  case link =>
    simp only [Bool.and_eq_true, beq_iff_eq]
    exact fun lost => ⟨sample.state lost.1, lost.2⟩
  case localization => exact sample.localization.all_lt
  case boundary =>
    simp only [Bool.not_eq_true']
    exact fun outside => Bool.eq_false_iff.mpr fun inside =>
      Bool.eq_false_iff.mp outside (sample.boundary inside)
  case sensors =>
    have imu := sample.imu
    have flow := sample.flow
    grind

omit [PyMath F] in
@[simp] theorem mem_issueIf {condition : Bool} {code message : String} {action : RecoveryAction}
    {issue : HealthIssue} :
    issue ∈ issueIf condition code message action ↔
      condition = true ∧ issue = ⟨code, message, action⟩ := by
  cases condition <;> simp [issueIf]

/-- The action of every issue that is no emergency. -/
def HealthObservation.rejectOrAbort (o : HealthObservation F) : RecoveryAction :=
  if o.state.airborne then .abortAndLand else .rejectNewCommands

theorem action_of_batteryIssue {action : RecoveryAction} {percent : Option F} {issue : HealthIssue}
    (member : issue ∈ batteryIssue policy o action percent) : issue.action = action := by
  unfold batteryIssue at member
  split at member
  · simp_all
  · split at member <;> simp_all

theorem action_of_transportIssue {action : RecoveryAction} {quality : Option F}
    {issue : HealthIssue} (member : issue ∈ transportIssue policy action quality) :
    issue.action = action := by
  unfold transportIssue at member
  split at member
  · simp_all
  · split at member <;> simp_all

theorem action_of_healthIssues (calm : ¬o.Emergency) {issue : HealthIssue}
    (member : issue ∈ healthIssues policy o) : issue.action = o.rejectOrAbort := by
  cases received : o.received with
  | none => simp_all [healthIssues, HealthObservation.rejectOrAbort]
  | some sample =>
    obtain ⟨envelope, receivedAt⟩ := sample
    simp only [healthIssues, received, List.mem_append, mem_issueIf, Bool.and_eq_true,
      beq_iff_eq] at member
    have connected : o.state.airborne = true → envelope.telemetry.state ≠ .disconnected :=
      fun airborne lost => calm ⟨airborne, envelope, receivedAt, received, .inl lost⟩
    have sensors : o.state.airborne = true → (envelope.telemetry.imu && envelope.telemetry.flow) = true :=
      fun airborne => by
        by_contra missing
        exact calm ⟨airborne, envelope, receivedAt, received, .inr (by simpa using missing)⟩
    rcases member with (((((stale | link) | battery) | transport) | localization) | boundary) | sensor
    · rw [stale.2]; rfl
    · exact absurd link.1.1 (connected link.1.2)
    · exact action_of_batteryIssue battery
    · exact action_of_transportIssue transport
    · rw [localization.2]; rfl
    · rw [boundary.2]; rfl
    · simp [sensors sensor.1.1] at sensor

/-- An emergency is answered with the most severe action. -/
theorem highestAction_of_emergency (emergency : o.Emergency) :
    (highestAction (healthIssues policy o)).order = 3 := by
  obtain ⟨airborne, envelope, receivedAt, received, sign⟩ := emergency
  have most : ∀ action : RecoveryAction, action.order ≤ 3 := fun action => by cases action <;> decide
  refine Nat.le_antisymm (most _) ?_
  rcases sign with lost | missing
  · have member : ⟨"LINK_LOST", "vehicle disconnected while airborne", .emergencyStop⟩ ∈
        healthIssues policy o := by
      simp [healthIssues, received, lost, airborne]
    exact order_le_highestAction member
  · have member : ⟨"REQUIRED_SENSOR_UNAVAILABLE",
        "IMU/Flow data required by the active profile is unavailable", .emergencyStop⟩ ∈
        healthIssues policy o := by
      simp [healthIssues, received, missing, airborne]
    exact order_le_highestAction member

/-- Missing telemetry is judged as severely as what it replaces, unless that was an emergency. -/
theorem highestAction_le_of_missing (state : second.state = first.state)
    (missing : second.received = none) :
    (highestAction (healthIssues policy first)).order ≤
      (highestAction (healthIssues policy second)).order ↔ ¬first.Emergency := by
  have single : healthIssues policy second =
      [⟨"NO_TELEMETRY", "no telemetry has been received", first.rejectOrAbort⟩] := by
    simp [healthIssues, missing, state, HealthObservation.rejectOrAbort]
  constructor
  · intro severe emergency
    rw [highestAction_of_emergency emergency, single] at severe
    have airborne := emergency.1
    simp [highestAction, HealthObservation.rejectOrAbort, airborne, RecoveryAction.order] at severe
  · intro calm
    refine Covered.highestAction_le fun issue member => ?_
    exact ⟨_, single ▸ List.mem_singleton_self _, (action_of_healthIssues calm member ▸ Nat.le_refl _)⟩

/-- A pointwise worse observation is judged at least as severely, unless it is missing altogether
where the better one showed an emergency. -/
theorem assessHealth_monotone_iff [IeeeOrder F] (worse : first.NoBetter policy second) :
    (assessHealth policy first).action.order ≤ (assessHealth policy second).action.order ↔
      (first.Emergency → second.received.isSome = true) := by
  cases received : second.received with
  | none => simpa [assessHealth, received] using highestAction_le_of_missing worse.state received
  | some sample =>
    have covered := covered_healthIssues worse (by simp [received])
    simpa [assessHealth] using covered.highestAction_le

end Issues

namespace SafetySupervisor
open Coroutine

variable (clock : MonotonicClock F)

/-- What `evaluate_health` returns in a state of the supervisor. -/
def evaluatedHealth (s : SafetySupervisor F) (vehicleId : String) (nowS : Option F)
    (allowSimulationLowBattery : Bool) : Option HealthAssessment :=
  match ((evaluateHealth clock vehicleId nowS allowSimulationLowBattery).segment s).2 with
  | .done (.ok assessment) => some assessment
  | _ => none

def healthObservation (s : SafetySupervisor F) (vehicleId : String) (nowS : Option F)
    (allowSimulationLowBattery : Bool) : Option (HealthObservation F) := do
  let ref ← s.sessions.get? vehicleId
  let current ← s.heap[ref]?
  return {
    vehicleId
    now := nowS.getD (clock.read s.ticks)
    lowBatteryOverride := allowSimulationLowBattery
    state := current.state
    received := do
      let telemetry ← current.telemetry
      let receivedAt ← current.telemetryReceivedAtMonotonicS
      return (telemetry, receivedAt) }

variable {clock} {s : SafetySupervisor F} {vehicleId : String} {nowS : Option F} {lowBattery : Bool}

theorem segment_load {ref : Nat} {current : VehicleSession F} (live : s.heap[ref]? = some current) :
    (load ref : Call F _).segment s = (s, returns current) := by
  unfold load
  rw [segment_bind_of_returns (segment_get s)]
  simp [live]

variable (clock nowS s) in
theorem segment_nowOr : ∃ ticks, (nowOr clock nowS).segment s =
    ({ s with ticks }, returns (nowS.getD (clock.read s.ticks))) := by
  cases nowS with
  | some now => exact ⟨s.ticks, rfl⟩
  | none => exact ⟨s.ticks + 1, rfl⟩

theorem segment_session {ref : Nat} (known : s.sessions.get? vehicleId = some ref) :
    (session vehicleId : Call F Nat).segment s = (s, returns ref) := by
  unfold session
  rw [segment_bind_of_returns (segment_get s)]
  simp [known]

theorem segment_simulationLowBatteryOverride {ref : Nat} {current : VehicleSession F}
    (live : s.heap[ref]? = some current) :
    (simulationLowBatteryOverride ref lowBattery : Call F Bool).segment s = (s, returns lowBattery) ∨
      ∃ raised, (simulationLowBatteryOverride ref lowBattery : Call F Bool).segment s =
        (s, raises raised) := by
  unfold simulationLowBatteryOverride
  rw [segment_bind_of_returns (segment_load live), segment_bind_of_returns (segment_get s)]
  cases admitted : !lowBattery || (s.mode == .sim &&
    current.vehicle.backendProfile.authority == .simulation) with
  | true => exact .inl rfl
  | false => exact .inr ⟨_, rfl⟩

theorem evaluatedHealth_eq {assessment : HealthAssessment}
    (evaluated : evaluatedHealth clock s vehicleId nowS lowBattery = some assessment) :
    ∃ o, healthObservation clock s vehicleId nowS lowBattery = some o ∧
      assessment = assessHealth s.policy o := by
  unfold evaluatedHealth evaluateHealth at evaluated
  cases known : s.sessions.get? vehicleId with
  | none =>
    have raised : (session vehicleId : Call F Nat).segment s =
        (s, raises (.error .identityMismatch ("unknown vehicle: " ++ vehicleId))) := by
      unfold session
      rw [segment_bind_of_returns (segment_get s)]
      simp [known, fail]
    rw [segment_bind_of_raises raised] at evaluated
    cases evaluated
  | some ref =>
    rw [segment_bind_of_returns (segment_session known)] at evaluated
    cases live : s.heap[ref]? with
    | none =>
      have raised : (simulationLowBatteryOverride ref lowBattery : Call F Bool).segment s =
          (s, raises (.other "LookupError" "no such object")) := by
        refine segment_bind_of_raises ?_
        unfold load
        rw [segment_bind_of_returns (segment_get s)]
        simp [live]
      rw [segment_bind_of_raises raised] at evaluated
      cases evaluated
    | some current =>
      rcases segment_simulationLowBatteryOverride live with admitted | ⟨_, raised⟩
      · obtain ⟨ticks, read⟩ := segment_nowOr clock s nowS
        have liveThen : ({ s with ticks } : SafetySupervisor F).heap[ref]? = some current := live
        rw [segment_bind_of_returns admitted, segment_bind_of_returns read,
          segment_bind_of_returns (segment_load liveThen),
          segment_bind_of_returns (segment_get _)] at evaluated
        cases evaluated
        exact ⟨_, by simp [healthObservation, known, live], rfl⟩
      · rw [segment_bind_of_raises raised] at evaluated
        cases evaluated

/-- Of two evaluations under one policy, the one that finds a pointwise worse observation is at
least as severe, unless it finds no telemetry where the other one found an emergency. Each is
healthy exactly when it reports no issue. -/
theorem evaluate_health_monotone [IeeeOrder F] (clock : MonotonicClock F)
    (s later : SafetySupervisor F) (vehicleId : String) (nowS laterNowS : Option F)
    (lowBattery laterLowBattery : Bool) (first second : HealthAssessment)
    (o worse : HealthObservation F) (samePolicy : later.policy = s.policy)
    (evaluated : evaluatedHealth clock s vehicleId nowS lowBattery = some first)
    (evaluatedLater :
      evaluatedHealth clock later vehicleId laterNowS laterLowBattery = some second)
    (observed : healthObservation clock s vehicleId nowS lowBattery = some o)
    (observedLater : healthObservation clock later vehicleId laterNowS laterLowBattery = some worse)
    (noBetter : o.NoBetter s.policy worse) :
    (first.action.order ≤ second.action.order ↔ (o.Emergency → worse.received.isSome = true)) ∧
      (first.healthy = true ↔ first.issues = []) ∧ (second.healthy = true ↔ second.issues = []) := by
  obtain ⟨_, found, rfl⟩ := evaluatedHealth_eq evaluated
  obtain ⟨_, foundLater, rfl⟩ := evaluatedHealth_eq evaluatedLater
  cases observed.symm.trans found
  cases observedLater.symm.trans foundLater
  rw [samePolicy]
  exact ⟨assessHealth_monotone_iff noBetter, by simp [assessHealth], by simp [assessHealth]⟩

section Alpha

theorem stopped_nonneg : PyFloat.ge (10 : ℚ) PyFloat.zero = true := by decide

/-- A clock that stands still. -/
def stoppedClock : MonotonicClock ℚ := ⟨fun _ => 10, fun _ => stopped_nonneg⟩

def inFlight : VehicleTelemetry ℚ where
  state := .flying
  armed := true
  flying := true
  positionM := some ⟨0, 0, 1 / 2⟩
  localizationQualityPercent := some 90
  batteryPercent := some 80
  linkQualityPercent := some 10
  transport := some ⟨some 100⟩
  imu := true
  flow := true

def flyingAlpha (sample : Option (VehicleTelemetry ℚ)) : SafetySupervisor ℚ where
  policy := .exactDefault
  sessions := Dict.empty.insert "alpha" 0
  heap := [{
    vehicle := ⟨⟨"alpha"⟩, ⟨.simulation, true⟩, []⟩
    state := .flying
    telemetry := sample.map fun telemetry =>
      { vehicleId := "alpha", sequence := 1, sourceTimestampS := 9, telemetry }
    telemetryReceivedAtMonotonicS := sample.map fun _ => 19 / 2 }]

/-- What the supervisor holds of the vehicle. -/
def alphaObservation (sample : Option (VehicleTelemetry ℚ)) : HealthObservation ℚ where
  vehicleId := "alpha"
  now := 10
  lowBatteryOverride := false
  state := .flying
  received := sample.map fun telemetry =>
    ({ vehicleId := "alpha", sequence := 1, sourceTimestampS := 9, telemetry }, 19 / 2)

theorem alpha_observed (sample : Option (VehicleTelemetry ℚ)) :
    healthObservation stoppedClock (flyingAlpha sample) "alpha" none false =
      some (alphaObservation sample) := by
  cases sample <;> rfl

/-- The sample of a vehicle that is running out of battery and drifts out of the volume. -/
def sinking : VehicleTelemetry ℚ :=
  { inFlight with batteryPercent := some 5, positionM := some ⟨0, 0, 2⟩ }

theorem sinking_noBetter : (alphaObservation (some inFlight)).NoBetter .exactDefault
    (alphaObservation (some sinking)) where
  state := rfl
  lowBatteryOverride := id
  telemetry := by
    rintro later receivedLater equal
    cases equal
    refine ⟨_, _, rfl, by decide +kernel, ⟨id, ?_, ?_, ?_, ?_, id, id⟩⟩
    · show PyFloat.le _ _ = true
      decide +kernel
    · show PyFloat.le _ _ = true
      decide +kernel
    · show PyFloat.le _ _ = true
      decide +kernel
    · intro inside
      revert inside
      decide +kernel

theorem evaluate_health_monotone_sinking :
    ∃ first second,
      evaluatedHealth stoppedClock (flyingAlpha (some inFlight)) "alpha" none false = some first ∧
      evaluatedHealth stoppedClock (flyingAlpha (some sinking)) "alpha" none false = some second ∧
      first.action.order ≤ second.action.order := by
  refine ⟨_, _, rfl, rfl, ?_⟩
  have graded := evaluate_health_monotone stoppedClock (flyingAlpha (some inFlight))
    (flyingAlpha (some sinking)) "alpha" none none false false _ _ _ _ rfl rfl rfl
    (alpha_observed _) (alpha_observed _) sinking_noBetter
  exact graded.1.mpr fun _ => rfl

/-- A vehicle that shows itself disconnected in flight is stopped; one of which the telemetry is
missing is only landed. A low link quality grounds the vehicle; without one, the delivery quality
of the transport is read in its place. -/
theorem lost_sample_less_severe :
    (∃ first second,
      evaluatedHealth stoppedClock (flyingAlpha (some { inFlight with state := .disconnected }))
        "alpha" none false = some first ∧
      evaluatedHealth stoppedClock (flyingAlpha none) "alpha" none false = some second ∧
      (alphaObservation (some { inFlight with state := .disconnected })).NoBetter .exactDefault
        (alphaObservation none) ∧
      ¬first.action.order ≤ second.action.order) ∧
    ∃ first second,
      evaluatedHealth stoppedClock (flyingAlpha (some inFlight)) "alpha" none false = some first ∧
      evaluatedHealth stoppedClock (flyingAlpha (some { inFlight with linkQualityPercent := none }))
        "alpha" none false = some second ∧
      ¬first.action.order ≤ second.action.order := by
  refine ⟨⟨_, _, rfl, rfl, ⟨rfl, id, ?_⟩, by decide +kernel⟩, _, _, rfl, rfl, by decide +kernel⟩
  intro later receivedLater equal
  cases equal

end Alpha

end SafetySupervisor

end CrazySwarm
