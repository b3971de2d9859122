import CrazySwarm.Vehicles

/-! The safety policy: its limits, the contract they must meet, and tightening by an override. -/
namespace CrazySwarm
open PyFloat

variable {F : Type} [PyFloat F]

/-- The field below the corners is what the contract's validator enforces. -/
structure FlightVolume (F : Type) [PyFloat F] where
  minimumM : Vector3 F
  maximumM : Vector3 F
  validBounds : (lt minimumM.x maximumM.x && lt minimumM.y maximumM.y &&
    lt minimumM.z maximumM.z) = true
  deriving DecidableEq

def FlightVolume.contains (volume : FlightVolume F) (point : Vector3 F) : Bool :=
  (le volume.minimumM.x point.x && le point.x volume.maximumM.x) &&
  (le volume.minimumM.y point.y && le point.y volume.maximumM.y) &&
  (le volume.minimumM.z point.z && le point.z volume.maximumM.z)

structure SafetyLimits (F : Type) [PyFloat F] where
  maxAltitudeM : F
  maxHorizontalSpeedMS : F
  maxVerticalSpeedMS : F
  maxAccelerationMS2 : F
  maxYawRateRadS : F
  maxMissionDurationS : F
  commandTimeoutS : F
  telemetryTimeoutS : F
  healthWatchdogPeriodS : F
  controlLeaseTimeoutS : F
  preflightValidS : F
  minimumTakeoffBatteryPercent : F
  criticalBatteryPercent : F
  minimumLinkQualityPercent : F
  minimumLocalizationQualityPercent : F
  flightVolume : FlightVolume F
  deriving DecidableEq

namespace SafetyLimits

def percent (value : F) : Bool := ge value zero && atMost value (ofRat 100)

def fieldChecks (limits : SafetyLimits F) : List (String × Bool) :=
  [("max_altitude_m", gt limits.maxAltitudeM zero),
   ("max_horizontal_speed_m_s", gt limits.maxHorizontalSpeedMS zero),
   ("max_vertical_speed_m_s", gt limits.maxVerticalSpeedMS zero),
   ("max_acceleration_m_s2", gt limits.maxAccelerationMS2 zero),
   ("max_yaw_rate_rad_s", gt limits.maxYawRateRadS zero),
   ("max_mission_duration_s", gt limits.maxMissionDurationS zero),
   ("command_timeout_s", gt limits.commandTimeoutS zero),
   ("telemetry_timeout_s", gt limits.telemetryTimeoutS zero),
   ("health_watchdog_period_s",
    gt limits.healthWatchdogPeriodS zero && atMost limits.healthWatchdogPeriodS (ofRat 1)),
   ("control_lease_timeout_s", gt limits.controlLeaseTimeoutS zero),
   ("preflight_valid_s", gt limits.preflightValidS zero),
   ("minimum_takeoff_battery_percent", percent limits.minimumTakeoffBatteryPercent),
   ("critical_battery_percent", percent limits.criticalBatteryPercent),
   ("minimum_link_quality_percent", percent limits.minimumLinkQualityPercent),
   ("minimum_localization_quality_percent", percent limits.minimumLocalizationQualityPercent)]

/-- `thresholds_are_consistent`. -/
def thresholdsAreConsistent (limits : SafetyLimits F) : Except (Fault F) Unit := do
  require (!le limits.minimumTakeoffBatteryPercent limits.criticalBatteryPercent)
    (.value "critical battery must be below takeoff battery minimum")
  require (!lt limits.maxAltitudeM limits.flightVolume.maximumM.z)
    (.value "flight volume cannot exceed maximum altitude")

/-- Validation of a whole policy. -/
def validate (limits : SafetyLimits F) : Except (Fault F) Unit := do
  validated "SafetyPolicy" limits.fieldChecks ()
  limits.thresholdsAreConsistent

end SafetyLimits

structure SafetyPolicy (F : Type) [PyFloat F] extends SafetyLimits F where
  valid : toSafetyLimits.validate = .ok ()
  deriving DecidableEq

/-- `SafetyPolicy.model_validate`. -/
def SafetyPolicy.modelValidate (limits : SafetyLimits F) : Except (Fault F) (SafetyPolicy F) :=
  match valid : limits.validate with
  | .ok () => .ok ⟨limits, valid⟩
  | .error fault => .error fault

structure SafetyPolicyOverride (F : Type) [PyFloat F] where
  maxAltitudeM : Option F := none
  maxHorizontalSpeedMS : Option F := none
  maxVerticalSpeedMS : Option F := none
  maxAccelerationMS2 : Option F := none
  maxYawRateRadS : Option F := none
  maxMissionDurationS : Option F := none
  commandTimeoutS : Option F := none
  telemetryTimeoutS : Option F := none
  healthWatchdogPeriodS : Option F := none
  controlLeaseTimeoutS : Option F := none
  preflightValidS : Option F := none
  minimumTakeoffBatteryPercent : Option F := none
  criticalBatteryPercent : Option F := none
  minimumLinkQualityPercent : Option F := none
  minimumLocalizationQualityPercent : Option F := none
  flightVolume : Option (FlightVolume F) := none
  deriving DecidableEq

namespace SafetyPolicyOverride

def fieldChecks (override : SafetyPolicyOverride F) : List (String × Bool) :=
  [("max_altitude_m", override.maxAltitudeM.all (gt · zero)),
   ("max_horizontal_speed_m_s", override.maxHorizontalSpeedMS.all (gt · zero)),
   ("max_vertical_speed_m_s", override.maxVerticalSpeedMS.all (gt · zero)),
   ("max_acceleration_m_s2", override.maxAccelerationMS2.all (gt · zero)),
   ("max_yaw_rate_rad_s", override.maxYawRateRadS.all (gt · zero)),
   ("max_mission_duration_s", override.maxMissionDurationS.all (gt · zero)),
   ("command_timeout_s", override.commandTimeoutS.all (gt · zero)),
   ("telemetry_timeout_s", override.telemetryTimeoutS.all (gt · zero)),
   ("health_watchdog_period_s", override.healthWatchdogPeriodS.all (gt · zero)),
   ("control_lease_timeout_s", override.controlLeaseTimeoutS.all (gt · zero)),
   ("preflight_valid_s", override.preflightValidS.all (gt · zero)),
   ("minimum_takeoff_battery_percent",
    override.minimumTakeoffBatteryPercent.all SafetyLimits.percent),
   ("critical_battery_percent", override.criticalBatteryPercent.all SafetyLimits.percent),
   ("minimum_link_quality_percent", override.minimumLinkQualityPercent.all SafetyLimits.percent),
   ("minimum_localization_quality_percent",
    override.minimumLocalizationQualityPercent.all SafetyLimits.percent)]

/-- The override passes its own contract. -/
def valid (override : SafetyPolicyOverride F) : Bool := override.fieldChecks.all (·.2)

end SafetyPolicyOverride

namespace SafetyPolicy

/-- The limits an override may only lower: name, override and own value. -/
def maximumFields (policy : SafetyPolicy F) (override : SafetyPolicyOverride F) :
    List (String × Option F × F) :=
  [("max_altitude_m", override.maxAltitudeM, policy.maxAltitudeM),
   ("max_horizontal_speed_m_s", override.maxHorizontalSpeedMS, policy.maxHorizontalSpeedMS),
   ("max_vertical_speed_m_s", override.maxVerticalSpeedMS, policy.maxVerticalSpeedMS),
   ("max_acceleration_m_s2", override.maxAccelerationMS2, policy.maxAccelerationMS2),
   ("max_yaw_rate_rad_s", override.maxYawRateRadS, policy.maxYawRateRadS),
   ("max_mission_duration_s", override.maxMissionDurationS, policy.maxMissionDurationS),
   ("command_timeout_s", override.commandTimeoutS, policy.commandTimeoutS),
   ("telemetry_timeout_s", override.telemetryTimeoutS, policy.telemetryTimeoutS),
   ("health_watchdog_period_s", override.healthWatchdogPeriodS, policy.healthWatchdogPeriodS),
   ("control_lease_timeout_s", override.controlLeaseTimeoutS, policy.controlLeaseTimeoutS),
   ("preflight_valid_s", override.preflightValidS, policy.preflightValidS)]

/-- The limits an override may only raise. -/
def minimumFields (policy : SafetyPolicy F) (override : SafetyPolicyOverride F) :
    List (String × Option F × F) :=
  [("minimum_takeoff_battery_percent", override.minimumTakeoffBatteryPercent,
    policy.minimumTakeoffBatteryPercent),
   ("critical_battery_percent", override.criticalBatteryPercent, policy.criticalBatteryPercent),
   ("minimum_link_quality_percent", override.minimumLinkQualityPercent,
    policy.minimumLinkQualityPercent),
   ("minimum_localization_quality_percent", override.minimumLocalizationQualityPercent,
    policy.minimumLocalizationQualityPercent)]

/-- The first field whose override relaxes it raises. The source walks a set, whose order is
not fixed; which field is named first is the only thing that depends on it. -/
def rejectRelaxed (relaxes : F → F → Bool) (fields : List (String × Option F × F)) :
    Except (Fault F) Unit :=
  match fields.find? fun (_, value, own) => value.any (relaxes · own) with
  | some (name, _) => .error (.value (name ++ " override would relax the safety envelope"))
  | none => .ok ()

def containsVolume (policy : SafetyPolicy F) (candidate : FlightVolume F) : Bool :=
  policy.flightVolume.contains candidate.minimumM &&
    policy.flightVolume.contains candidate.maximumM

/-- The policy's values with the override's in their place. -/
def updated (policy : SafetyPolicy F) (override : SafetyPolicyOverride F) : SafetyLimits F where
  maxAltitudeM := override.maxAltitudeM.getD policy.maxAltitudeM
  maxHorizontalSpeedMS := override.maxHorizontalSpeedMS.getD policy.maxHorizontalSpeedMS
  maxVerticalSpeedMS := override.maxVerticalSpeedMS.getD policy.maxVerticalSpeedMS
  maxAccelerationMS2 := override.maxAccelerationMS2.getD policy.maxAccelerationMS2
  maxYawRateRadS := override.maxYawRateRadS.getD policy.maxYawRateRadS
  maxMissionDurationS := override.maxMissionDurationS.getD policy.maxMissionDurationS
  commandTimeoutS := override.commandTimeoutS.getD policy.commandTimeoutS
  telemetryTimeoutS := override.telemetryTimeoutS.getD policy.telemetryTimeoutS
  healthWatchdogPeriodS := override.healthWatchdogPeriodS.getD policy.healthWatchdogPeriodS
  controlLeaseTimeoutS := override.controlLeaseTimeoutS.getD policy.controlLeaseTimeoutS
  preflightValidS := override.preflightValidS.getD policy.preflightValidS
  minimumTakeoffBatteryPercent :=
    override.minimumTakeoffBatteryPercent.getD policy.minimumTakeoffBatteryPercent
  criticalBatteryPercent := override.criticalBatteryPercent.getD policy.criticalBatteryPercent
  minimumLinkQualityPercent :=
    override.minimumLinkQualityPercent.getD policy.minimumLinkQualityPercent
  minimumLocalizationQualityPercent :=
    override.minimumLocalizationQualityPercent.getD policy.minimumLocalizationQualityPercent
  flightVolume := override.flightVolume.getD policy.flightVolume

def tighten (policy : SafetyPolicy F) (override : SafetyPolicyOverride F) :
    Except (Fault F) (SafetyPolicy F) := do
  rejectRelaxed (fun value own => lt own value) (policy.maximumFields override)
  rejectRelaxed (fun value own => lt value own) (policy.minimumFields override)
  require (override.flightVolume.all policy.containsVolume)
    (.value "flight_volume override would relax the safety envelope")
  modelValidate (policy.updated override)

end SafetyPolicy

def SafetyLimits.default (volume : FlightVolume F) : SafetyLimits F where
  maxAltitudeM := ofRat 1
  maxHorizontalSpeedMS := ofRat 0.5
  maxVerticalSpeedMS := ofRat 0.3
  maxAccelerationMS2 := ofRat 1
  maxYawRateRadS := ofRat 1.5707963268
  maxMissionDurationS := ofRat 300
  commandTimeoutS := ofRat 10
  telemetryTimeoutS := ofRat 1
  healthWatchdogPeriodS := ofRat 0.02
  controlLeaseTimeoutS := ofRat 2
  preflightValidS := ofRat 30
  minimumTakeoffBatteryPercent := ofRat 30
  criticalBatteryPercent := ofRat 10
  minimumLinkQualityPercent := ofRat 70
  minimumLocalizationQualityPercent := ofRat 60
  flightVolume := volume

def SafetyPolicy.exactDefault : SafetyPolicy ℚ where
  toSafetyLimits := .default ⟨⟨-2, -2, 0⟩, ⟨2, 2, 1⟩, by decide +kernel⟩
  valid := by decide +kernel

end CrazySwarm
