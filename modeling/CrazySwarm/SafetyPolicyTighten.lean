import CrazySwarm.SafetyChecks

/-! Tightening a policy only restricts what it accepts, as long as the bounds involved are
numbers: a bound that is not-a-number passes the comparison that should reject it. -/
namespace CrazySwarm
open PyFloat PyMath

variable {F : Type} [PyMath F]

namespace SafetyPolicy

/-- Everything the first policy accepts, or finds healthy, the second does too. -/
structure Restricts (tight base : SafetyPolicy F) : Prop where
  takeoff : ∀ heightM durationS, tight.validateTakeoff heightM durationS = .ok () →
    base.validateTakeoff heightM durationS = .ok ()
  move : ∀ telemetry command, tight.validateRelativeMove telemetry command = .ok () →
    base.validateRelativeMove telemetry command = .ok ()
  trajectory : ∀ positionM trajectory, tight.validateTrajectory positionM trajectory = .ok () →
    base.validateTrajectory positionM trajectory = .ok ()
  landing : ∀ target, tight.validateLandingTarget target = .ok () →
    base.validateLandingTarget target = .ok ()
  preflight : ∀ o, preflightApproved tight o = true → preflightApproved base o = true
  health : ∀ o, (assessHealth tight o).healthy = true → (assessHealth base o).healthy = true

/-- Limit by limit, what the first policy's comparisons let pass the second's let pass. -/
structure Below (tight base : SafetyPolicy F) : Prop where
  altitude : ∀ x, lt base.maxAltitudeM x = true → lt tight.maxAltitudeM x = true
  horizontalSpeed : ∀ x, lt base.maxHorizontalSpeedMS x = true →
    lt tight.maxHorizontalSpeedMS x = true
  verticalSpeed : ∀ x, lt base.maxVerticalSpeedMS x = true → lt tight.maxVerticalSpeedMS x = true
  acceleration : ∀ x, lt base.maxAccelerationMS2 x = true → lt tight.maxAccelerationMS2 x = true
  yawRate : ∀ x, lt base.maxYawRateRadS x = true → lt tight.maxYawRateRadS x = true
  missionDuration : ∀ x, lt base.maxMissionDurationS x = true →
    lt tight.maxMissionDurationS x = true
  telemetryTimeout : ∀ x, lt base.telemetryTimeoutS x = true → lt tight.telemetryTimeoutS x = true
  takeoffBattery : ∀ x, le tight.minimumTakeoffBatteryPercent x = true →
    le base.minimumTakeoffBatteryPercent x = true
  criticalBattery : ∀ x, le x base.criticalBatteryPercent = true →
    le x tight.criticalBatteryPercent = true
  linkQuality : ∀ x, le tight.minimumLinkQualityPercent x = true →
    le base.minimumLinkQualityPercent x = true
  linkQualityLow : ∀ x, lt x base.minimumLinkQualityPercent = true →
    lt x tight.minimumLinkQualityPercent = true
  localization : ∀ x, le tight.minimumLocalizationQualityPercent x = true →
    le base.minimumLocalizationQualityPercent x = true
  localizationLow : ∀ x, lt x base.minimumLocalizationQualityPercent = true →
    lt x tight.minimumLocalizationQualityPercent = true
  volume : ∀ point, tight.flightVolume.contains point = true →
    base.flightVolume.contains point = true

theorem Below.trans {first second third : SafetyPolicy F} (lower : first.Below second)
    (upper : second.Below third) : first.Below third where
  altitude x exceeds := lower.altitude x (upper.altitude x exceeds)
  horizontalSpeed x exceeds := lower.horizontalSpeed x (upper.horizontalSpeed x exceeds)
  verticalSpeed x exceeds := lower.verticalSpeed x (upper.verticalSpeed x exceeds)
  acceleration x exceeds := lower.acceleration x (upper.acceleration x exceeds)
  yawRate x exceeds := lower.yawRate x (upper.yawRate x exceeds)
  missionDuration x exceeds := lower.missionDuration x (upper.missionDuration x exceeds)
  telemetryTimeout x exceeds := lower.telemetryTimeout x (upper.telemetryTimeout x exceeds)
  takeoffBattery x enough := upper.takeoffBattery x (lower.takeoffBattery x enough)
  criticalBattery x under := lower.criticalBattery x (upper.criticalBattery x under)
  linkQuality x enough := upper.linkQuality x (lower.linkQuality x enough)
  linkQualityLow x under := lower.linkQualityLow x (upper.linkQualityLow x under)
  localization x enough := upper.localization x (lower.localization x enough)
  localizationLow x under := lower.localizationLow x (upper.localizationLow x under)
  volume point inside := upper.volume point (lower.volume point inside)

theorem not_lt_mono {tight base : F} (below : ∀ x, lt base x = true → lt tight x = true) {x : F}
    (within : lt tight x = false) : lt base x = false := by
  by_contra exceeds
  rw [below x (Bool.eq_true_of_not_eq_false exceeds)] at within
  cases within

theorem forAll_mono {check other : α → Except ε Unit}
    (implies : ∀ item, check item = .ok () → other item = .ok ()) {items : List α}
    (passed : forAll items check = .ok ()) : forAll items other = .ok () := by
  induction items with
  | nil => rfl
  | cons item rest ih =>
    obtain ⟨_, first, others⟩ := bind_eq_ok.mp passed
    exact bind_eq_ok.mpr ⟨(), implies item first, ih others⟩

section Checks
variable {tight base : SafetyPolicy F} (below : tight.Below base)
include below

theorem Below.takeoff {heightM durationS : F}
    (accepted : tight.validateTakeoff heightM durationS = .ok ()) :
    base.validateTakeoff heightM durationS = .ok () := by
  simp only [validateTakeoff, bind_eq_ok, demand_eq_ok, Bool.not_eq_true', Bool.or_eq_false_iff]
    at accepted ⊢
  obtain ⟨_, ⟨positive, low⟩, _, ⟨lasting, short⟩, _, slow, gentle⟩ := accepted
  exact ⟨(), ⟨positive, not_lt_mono below.altitude low⟩, (),
    ⟨lasting, not_lt_mono below.missionDuration short⟩, (),
    not_lt_mono below.verticalSpeed slow, not_lt_mono below.acceleration gentle⟩

theorem Below.relativeMove {telemetry : VehicleTelemetry F} {command : MoveRelativeCommand F}
    (accepted : tight.validateRelativeMove telemetry command = .ok ()) :
    base.validateRelativeMove telemetry command = .ok () := by
  simp only [validateRelativeMove, bind_eq_ok, demand_eq_ok, Bool.not_eq_true'] at accepted ⊢
  obtain ⟨_, short, _, slow, _, level, _, gentle, _, turning, rest⟩ := accepted
  refine ⟨(), not_lt_mono below.missionDuration short, (),
    not_lt_mono below.horizontalSpeed slow, (), not_lt_mono below.verticalSpeed level, (),
    not_lt_mono below.acceleration gentle, (), not_lt_mono below.yawRate turning, ?_⟩
  cases known : telemetry.positionM with
  | none => simp [known] at rest
  | some position =>
    simp only [known, bind_eq_ok, demand_eq_ok] at rest ⊢
    obtain ⟨moved, eq, inside⟩ := rest
    exact ⟨moved, eq, below.volume _ inside⟩

theorem Below.point {point : TrajectoryPoint F}
    (accepted : tight.validatePoint point = .ok ()) : base.validatePoint point = .ok () := by
  simp only [validatePoint, bind_eq_ok, demand_eq_ok, Bool.not_eq_true', Bool.and_eq_true]
    at accepted ⊢
  obtain ⟨_, ⟨inside, low⟩, _, slow, _, level, _, gentle, turning⟩ := accepted
  exact ⟨(), ⟨below.volume _ inside, not_lt_mono below.altitude low⟩, (),
    not_lt_mono below.horizontalSpeed slow, (), not_lt_mono below.verticalSpeed level, (),
    not_lt_mono below.acceleration gentle, not_lt_mono below.yawRate turning⟩

theorem Below.sample {previous current : TrajectoryPoint F} {index : Nat}
    (accepted : tight.validateSample previous current index = .ok ()) :
    base.validateSample previous current index = .ok () := by
  simp only [validateSample, withinDynamics, bind_eq_ok, demand_eq_ok, Bool.not_eq_true',
    Bool.or_eq_false_iff] at accepted ⊢
  obtain ⟨_, inside, ⟨⟨slow, level⟩, gentle⟩, turning⟩ := accepted
  exact ⟨(), below.volume _ inside, ⟨⟨not_lt_mono below.horizontalSpeed slow,
    not_lt_mono below.verticalSpeed level⟩, not_lt_mono below.acceleration gentle⟩,
    not_lt_mono below.yawRate turning⟩

theorem Below.trajectory {positionM : Option (Vector3 F)}
    {trajectory : TimeParameterizedTrajectory F}
    (accepted : tight.validateTrajectory positionM trajectory = .ok ()) :
    base.validateTrajectory positionM trajectory = .ok () := by
  simp only [validateTrajectory, bind_eq_ok, demand_eq_ok, Bool.not_eq_true'] at accepted ⊢
  obtain ⟨_, short, rest⟩ := accepted
  refine ⟨(), not_lt_mono below.missionDuration short, ?_⟩
  split at rest
  · cases rest
  · cases rest
  · next points position first others known =>
    simp only [bind_eq_ok, require_eq_ok] at rest ⊢
    obtain ⟨_, near, _, inside, sampled⟩ := rest
    exact ⟨(), near, (), forAll_mono (fun _ => below.point) inside,
      forAll_mono (fun _ => forAll_mono fun _ => below.sample) sampled⟩

theorem Below.landingTarget {target : Option (Vector3 F)}
    (accepted : tight.validateLandingTarget target = .ok ()) :
    base.validateLandingTarget target = .ok () := by
  cases target with
  | none => rfl
  | some position =>
    simp only [validateLandingTarget, demand_eq_ok, Option.all_some] at accepted ⊢
    exact below.volume _ accepted

theorem Below.approved {o : PreflightObservation F} (approved : preflightApproved tight o = true) :
    preflightApproved base o = true := by
  simp only [preflightApproved, preflightChecks, List.all_append, List.all_cons, List.all_nil,
    Bool.and_true, Bool.and_eq_true, Bool.or_eq_true, Option.any_eq_true] at approved ⊢
  obtain ⟨⟨⟨⟨identity, ready, capable, ⟨percent, known, battery⟩, ⟨quality, measured, link⟩,
    ⟨position, located, inside⟩, fault, localized⟩, sensors⟩, ranges⟩, authority⟩ := approved
  refine ⟨⟨⟨⟨identity, ready, capable, ⟨percent, known, ?_⟩,
    ⟨quality, measured, below.linkQuality _ link⟩,
    ⟨position, located, below.volume _ inside⟩, fault, ?_⟩, sensors⟩, ranges⟩, authority⟩
  · exact battery.imp (below.takeoffBattery _) id
  · refine localized.imp id ?_
    rintro ⟨value, observed, enough⟩
    exact ⟨value, observed, below.localization _ enough⟩

theorem Below.battery {o : HealthObservation F} {action : RecoveryAction} {percent : Option F}
    (none : batteryIssue tight o action percent = []) :
    batteryIssue base o action percent = [] := by
  cases percent with
  | none => exact none
  | some percent =>
    simp only [batteryIssue, ite_eq_right_iff, List.cons_ne_nil, imp_false, Bool.and_eq_true,
      not_and] at none ⊢
    exact fun critical => none (below.criticalBattery _ critical)

theorem Below.transport {action : RecoveryAction} {quality : Option F}
    (none : transportIssue tight action quality = []) :
    transportIssue base action quality = [] := by
  cases quality with
  | none => exact none
  | some quality =>
    simp only [transportIssue, ite_eq_right_iff, List.cons_ne_nil, imp_false] at none ⊢
    exact fun low => none (below.linkQualityLow _ low)

theorem Below.healthy {o : HealthObservation F}
    (healthy : (assessHealth tight o).healthy = true) : (assessHealth base o).healthy = true := by
  simp only [assessHealth, List.isEmpty_iff] at healthy ⊢
  cases known : o.received with
  | none => simp [healthIssues, known] at healthy
  | some received =>
    simp only [healthIssues, known, List.append_eq_nil_iff, issueIf_eq_nil] at healthy ⊢
    obtain ⟨⟨⟨⟨⟨⟨fresh, linked⟩, battery⟩, transport⟩, localized⟩, inside⟩, sensors⟩ := healthy
    refine ⟨⟨⟨⟨⟨⟨not_lt_mono below.telemetryTimeout fresh, linked⟩, below.battery battery⟩,
      below.transport transport⟩, ?_⟩, ?_⟩, sensors⟩
    · cases quality : received.1.telemetry.localizationQualityPercent with
      | none => simp [quality] at localized
      | some value =>
        simp only [quality, Option.all_some] at localized ⊢
        exact Bool.eq_false_of_not_eq_true fun low => by
          rw [below.localizationLow _ low] at localized
          cases localized
    · simp only [Bool.not_eq_false', Option.any_eq_true] at inside ⊢
      obtain ⟨position, located, contained⟩ := inside
      exact ⟨position, located, below.volume _ contained⟩

theorem Below.restricts : tight.Restricts base where
  takeoff _ _ := below.takeoff
  move _ _ := below.relativeMove
  trajectory _ _ := below.trajectory
  landing _ := below.landingTarget
  preflight _ := below.approved
  health _ := below.healthy

end Checks

/-- The limits that some acceptance check reads; the others are timeouts and periods. -/
def consulted : List String :=
  ["max_altitude_m", "max_horizontal_speed_m_s", "max_vertical_speed_m_s",
   "max_acceleration_m_s2", "max_yaw_rate_rad_s", "max_mission_duration_s",
   "telemetry_timeout_s", "minimum_takeoff_battery_percent", "critical_battery_percent",
   "minimum_link_quality_percent", "minimum_localization_quality_percent"]

/-- No bound that a check reads is overridden by, or overrides, not-a-number. -/
def Comparable (policy : SafetyPolicy F) (override : SafetyPolicyOverride F) : Prop :=
  ∀ field ∈ policy.maximumFields override ++ policy.minimumFields override,
    field.1 ∈ consulted →
      ∀ value, field.2.1 = some value → eq value value = true ∧ eq field.2.2 field.2.2 = true

omit [PyMath F] in
theorem rejectRelaxed_eq_ok {relaxes : F → F → Bool} {fields : List (String × Option F × F)} :
    rejectRelaxed relaxes fields = .ok () ↔
      ∀ field ∈ fields, ∀ value, field.2.1 = some value → relaxes value field.2.2 = false := by
  unfold rejectRelaxed
  split
  · next name value own found =>
    have relaxed := List.find?_some found
    have member := List.mem_of_find?_eq_some found
    simp only [Option.any_eq_true] at relaxed
    obtain ⟨given, known, above⟩ := relaxed
    constructor
    · intro none
      cases none
    · intro every
      rw [every _ member given known] at above
      cases above
  · next none =>
    simp only [List.find?_eq_none, Option.any_eq_true, not_exists, not_and,
      Bool.not_eq_true] at none
    simpa using none

theorem modelValidate_eq_ok {limits : SafetyLimits F} {policy : SafetyPolicy F}
    (valid : modelValidate limits = .ok policy) : policy.toSafetyLimits = limits := by
  unfold modelValidate at valid
  split at valid <;> cases valid
  rfl

section Order
variable [IeeeOrder F]

theorem maximum_below {value : Option F} {own : F}
    (kept : ∀ given, value = some given → lt own given = false)
    (numbers : ∀ given, value = some given → eq given given = true ∧ eq own own = true) (x : F)
    (exceeds : lt own x = true) : lt (value.getD own) x = true := by
  cases value with
  | none => exact exceeds
  | some given =>
    obtain ⟨number, own_number⟩ := numbers given rfl
    exact IeeeOrder.lt_of_le_of_lt (IeeeOrder.le_of_not_lt number own_number (kept given rfl)) exceeds

theorem minimum_above {value : Option F} {own : F}
    (kept : ∀ given, value = some given → lt given own = false)
    (numbers : ∀ given, value = some given → eq given given = true ∧ eq own own = true) (given : F)
    (known : value = some given) : le own given = true :=
  IeeeOrder.le_of_not_lt (numbers given known).2 (numbers given known).1 (kept given known)

/-- What is enough for the raised bound is enough for the bound it replaces. -/
theorem enough_of_minimum {value : Option F} {own : F}
    (above : ∀ given, value = some given → le own given = true) (x : F)
    (enough : le (value.getD own) x = true) : le own x = true := by
  cases value with
  | none => exact enough
  | some given => exact IeeeOrder.le_trans (above given rfl) enough

theorem low_of_minimum {value : Option F} {own : F}
    (above : ∀ given, value = some given → le own given = true) (x : F)
    (low : lt x own = true) : lt x (value.getD own) = true := by
  cases value with
  | none => exact low
  | some given => exact IeeeOrder.lt_of_lt_of_le low (above given rfl)

theorem atMost_of_minimum {value : Option F} {own : F}
    (above : ∀ given, value = some given → le own given = true) (x : F)
    (low : le x own = true) : le x (value.getD own) = true := by
  cases value with
  | none => exact low
  | some given => exact IeeeOrder.le_trans low (above given rfl)

theorem contains_of_containsVolume {outer inner : FlightVolume F} {point : Vector3 F}
    (low : outer.contains inner.minimumM = true) (high : outer.contains inner.maximumM = true)
    (inside : inner.contains point = true) : outer.contains point = true := by
  simp only [FlightVolume.contains, Bool.and_eq_true] at low high inside ⊢
  obtain ⟨⟨⟨lx, _⟩, ly, _⟩, lz, _⟩ := low
  obtain ⟨⟨⟨_, hx⟩, _, hy⟩, _, hz⟩ := high
  obtain ⟨⟨⟨x, x'⟩, y, y'⟩, z, z'⟩ := inside
  exact ⟨⟨⟨IeeeOrder.le_trans lx x, IeeeOrder.le_trans x' hx⟩,
    IeeeOrder.le_trans ly y, IeeeOrder.le_trans y' hy⟩,
    IeeeOrder.le_trans lz z, IeeeOrder.le_trans z' hz⟩

theorem tighten_below {base tightened : SafetyPolicy F} {override : SafetyPolicyOverride F}
    (accepted : base.tighten override = .ok tightened) (numbers : base.Comparable override) :
    tightened.Below base := by
  simp only [tighten, bind_eq_ok, require_eq_ok] at accepted
  obtain ⟨_, lowered, _, raised, _, inner, valid⟩ := accepted
  have values := modelValidate_eq_ok valid
  rw [rejectRelaxed_eq_ok] at lowered raised
  have maximum (field) (member : field ∈ base.maximumFields override)
      (read : field.1 ∈ consulted) (x : F) :=
    maximum_below (lowered field member) (numbers field (List.mem_append_left _ member) read) x
  have minimum (field) (member : field ∈ base.minimumFields override)
      (read : field.1 ∈ consulted) (given : F) :=
    minimum_above (raised field member) (numbers field (List.mem_append_right _ member) read) given
  simp only [maximumFields, List.forall_mem_cons] at maximum
  simp only [minimumFields, List.forall_mem_cons] at minimum
  obtain ⟨altitude, horizontal, vertical, acceleration, yaw, duration, _, telemetry, _⟩ := maximum
  obtain ⟨battery, critical, link, localization, _⟩ := minimum
  constructor <;> rw [values] <;> intro x
  · exact altitude (by decide) x
  · exact horizontal (by decide) x
  · exact vertical (by decide) x
  · exact acceleration (by decide) x
  · exact yaw (by decide) x
  · exact duration (by decide) x
  · exact telemetry (by decide) x
  · exact enough_of_minimum (battery (by decide)) x
  · exact atMost_of_minimum (critical (by decide)) x
  · exact enough_of_minimum (link (by decide)) x
  · exact low_of_minimum (link (by decide)) x
  · exact enough_of_minimum (localization (by decide)) x
  · exact low_of_minimum (localization (by decide)) x
  · intro inside
    cases replaced : override.flightVolume with
    | none => simpa [updated, replaced] using inside
    | some volume =>
      simp only [replaced, Option.all_some, containsVolume, Bool.and_eq_true] at inner
      simp only [updated, replaced, Option.getD_some] at inside
      exact contains_of_containsVolume inner.1 inner.2 inside

end Order

section Instances

/-- The override of the policy's own test. -/
def lowerCeiling : SafetyPolicyOverride ℚ where
  maxAltitudeM := some 0.8
  minimumTakeoffBatteryPercent := some 40
  flightVolume := some ⟨⟨-1, -1, 0⟩, ⟨1, 1, 0.8⟩, by decide +kernel⟩

def lowered : SafetyPolicy ℚ where
  toSafetyLimits := exactDefault.updated lowerCeiling
  valid := by decide +kernel

def slower : SafetyPolicyOverride ℚ where
  maxHorizontalSpeedMS := some 0.25

def loweredAndSlower : SafetyPolicy ℚ where
  toSafetyLimits := lowered.updated slower
  valid := by decide +kernel

def ieeeDefault : SafetyPolicy (Ieee ℚ) where
  toSafetyLimits := .default ⟨⟨.number (-2), .number (-2), .number 0⟩,
    ⟨.number 2, .number 2, .number 1⟩, by decide +kernel⟩
  valid := by decide +kernel

def nanVerticalSpeed : SafetyPolicyOverride (Ieee ℚ) where
  maxVerticalSpeedMS := some .nan

def unboundedVerticalSpeed : SafetyPolicy (Ieee ℚ) where
  toSafetyLimits := ieeeDefault.updated nanVerticalSpeed
  valid := by decide +kernel

end Instances

end SafetyPolicy

end CrazySwarm
