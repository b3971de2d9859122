import CrazySwarm.SixDofPhysics
import CrazySwarm.Lib.DelayLines

/-! The sampled sensors of the simulated vehicle. Every sensor keeps a history that it prunes while it
reads it at a fixed latency, and a clock that skips the periods it missed. -/
namespace CrazySwarm
open PyFloat PyMath PyPhysics

variable {F : Type} [PyPhysics F] [PyRound F]

section SampleClock

/-- `math.floor`. -/
def floorInt (a : F) : Int := -PyRound.ceil (neg a)

def sampleDue (nowS nextSampleS : F) : Bool := le nextSampleS (nowS + ofRat 1e-12)

def skippedPeriods (nowS nextSampleS periodS : F) : Int :=
  Max.max 1 (floorInt ((nowS - nextSampleS) / periodS) + 1)

def advanceSampleTime (nowS nextSampleS periodS : F) : F :=
  nextSampleS + ofRat (skippedPeriods nowS nextSampleS periodS) * periodS

def periodS (sampleRateHz : F) : F := ofRat 1 / sampleRateHz

/-- A sample without a time is never due. -/
def dueBy (boundaryS : F) (sourceTimestampS : Option F) : Bool :=
  sourceTimestampS.any (le · boundaryS)

end SampleClock

section Imu

structure ImuModelConfig (F : Type) where
  sampleRateHz : F
  latencyS : F
  accelerationNoiseStdMS2 : Vector3 F
  angularVelocityNoiseStdRadS : Vector3 F
  accelerationBiasMS2 : Vector3 F
  angularVelocityBiasRadS : Vector3 F
  accelerationBiasRandomWalkMS2SqrtS : Vector3 F
  angularVelocityBiasRandomWalkRadSSqrtS : Vector3 F
  accelerationScaleError : Vector3 F
  angularVelocityScaleError : Vector3 F
  misalignmentRad : Vector3 F
  filterTimeConstantS : F
  accelerationClipMS2 : Option F
  angularVelocityClipRadS : Option F
  deriving DecidableEq, Repr

structure ImuSample (F : Type) where
  sourceTimestampS : F
  accelerationBodyMS2 : Vector3 F
  angularVelocityBodyRadS : Vector3 F
  deriving DecidableEq, Repr

/-- `draws` counts the values taken from the random source. -/
structure SampledImuModel (F : Type) where
  history : List (ImuSample F)
  nextSampleS : F
  accelerationBias : Vector3 F
  angularVelocityBias : Vector3 F
  filteredAcceleration : Vector3 F
  filteredAngularVelocity : Vector3 F
  reading : ImuSample F
  draws : Nat
  deriving DecidableEq, Repr

/-- The arguments of an update: the true motion at a time. -/
structure ImuTruth (F : Type) where
  nowS : F
  accelerationBodyMS2 : Vector3 F
  angularVelocityBodyRadS : Vector3 F
  deriving DecidableEq, Repr

/-- `_add`. -/
def addVectors (left right : Vector3 F) : Vector3 F :=
  ⟨left.x + right.x, left.y + right.y, left.z + right.z⟩

/-- `_clip`. -/
def clipVector (value : Vector3 F) : Option F → Vector3 F
  | none => value
  | some limit =>
    let clip (component : F) := PyFloat.max (neg limit) (PyFloat.min limit component)
    ⟨clip value.x, clip value.y, clip value.z⟩

namespace SampledImuModel

variable (config : ImuModelConfig F) (gauss : Nat → F → F)

/-- `_noise`: the source is asked only for a deviation that is not zero. -/
def noise (standardDeviation : F) : StateM Nat F := fun draws =>
  if eq standardDeviation zero then (zero, draws) else (gauss draws standardDeviation, draws + 1)

def noiseVector (standardDeviation : Vector3 F) : StateM Nat (Vector3 F) := do
  let x ← noise gauss standardDeviation.x
  let y ← noise gauss standardDeviation.y
  let z ← noise gauss standardDeviation.z
  return ⟨x, y, z⟩

def walkBias (bias density : Vector3 F) (dt : F) : StateM Nat (Vector3 F) := do
  let scale := sqrt dt
  let step ← noiseVector gauss ⟨density.x * scale, density.y * scale, density.z * scale⟩
  return addVectors bias step

def measure (truth bias noiseStd scaleError : Vector3 F) : StateM Nat (Vector3 F) := do
  let one : F := ofRat 1
  let scaled : Vector3 F := ⟨truth.x * (one + scaleError.x), truth.y * (one + scaleError.y),
    truth.z * (one + scaleError.z)⟩
  let misaligned := addVectors scaled (cross config.misalignmentRad scaled)
  let error ← noiseVector gauss noiseStd
  return addVectors (addVectors misaligned bias) error

/-- `_filter`. -/
def lowPass (previous current : Vector3 F) (alpha : F) : Vector3 F :=
  ⟨previous.x + alpha * (current.x - previous.x), previous.y + alpha * (current.y - previous.y),
    previous.z + alpha * (current.z - previous.z)⟩

/-- A due measurement: the errors and filters that it leaves, and the sample. -/
def measured (imu : SampledImuModel F) (truth : ImuTruth F) :
    StateM Nat (SampledImuModel F × ImuSample F) := do
  let period := periodS config.sampleRateHz
  let accelerationBias ← walkBias gauss imu.accelerationBias
    config.accelerationBiasRandomWalkMS2SqrtS period
  let angularVelocityBias ← walkBias gauss imu.angularVelocityBias
    config.angularVelocityBiasRandomWalkRadSSqrtS period
  let acceleration ← measure config gauss truth.accelerationBodyMS2 accelerationBias
    config.accelerationNoiseStdMS2 config.accelerationScaleError
  let angularVelocity ← measure config gauss truth.angularVelocityBodyRadS angularVelocityBias
    config.angularVelocityNoiseStdRadS config.angularVelocityScaleError
  let filters := lt zero config.filterTimeConstantS
  let alpha := ofRat 1 - exp (neg period / config.filterTimeConstantS)
  let acceleration :=
    if filters then lowPass imu.filteredAcceleration acceleration alpha else acceleration
  let angularVelocity :=
    if filters then lowPass imu.filteredAngularVelocity angularVelocity alpha else angularVelocity
  return ({ imu with
      accelerationBias, angularVelocityBias
      filteredAcceleration := acceleration
      filteredAngularVelocity := angularVelocity },
    { sourceTimestampS := truth.nowS
      accelerationBodyMS2 := clipVector acceleration config.accelerationClipMS2
      angularVelocityBodyRadS := clipVector angularVelocity config.angularVelocityClipRadS })

/-- The sample that an update takes, if one is due. -/
def newSamples (imu : SampledImuModel F) (truth : ImuTruth F) : List (ImuSample F) :=
  if sampleDue truth.nowS imu.nextSampleS then [(imu.measured config gauss truth imu.draws).1.2]
  else []

/-- The first part of an update. -/
def takeSample (imu : SampledImuModel F) (truth : ImuTruth F) : SampledImuModel F :=
  if sampleDue truth.nowS imu.nextSampleS then
    let ((left, sample), draws) := imu.measured config gauss truth imu.draws
    { left with
      history := imu.history ++ [sample]
      nextSampleS := advanceSampleTime truth.nowS imu.nextSampleS (periodS config.sampleRateHz)
      draws }
  else imu

omit [PyRound F] in
theorem newSamples_stamped {config : ImuModelConfig F} {gauss : Nat → F → F}
    {imu : SampledImuModel F} {truth : ImuTruth F} :
    ∀ sample ∈ imu.newSamples config gauss truth, some sample.sourceTimestampS = some truth.nowS := by
  intro sample member
  unfold newSamples at member
  split at member
  · obtain rfl := List.mem_singleton.mp member
    rfl
  · cases member

theorem takeSample_history (imu : SampledImuModel F) (truth : ImuTruth F) :
    (imu.takeSample config gauss truth).history =
      imu.history ++ imu.newSamples config gauss truth := by
  unfold takeSample newSamples
  split
  · rfl
  · rw [List.append_nil]

def dueSample (boundaryS : F) (sample : ImuSample F) : Bool :=
  dueBy boundaryS (some sample.sourceTimestampS)

/-- `update`; an empty history has no first sample to read. -/
def update (imu : SampledImuModel F) (truth : ImuTruth F) : Option (SampledImuModel F) :=
  let imu := imu.takeSample config gauss truth
  let boundary := truth.nowS - config.latencyS
  (DelayLines.select (dueSample boundary) imu.history).map fun selected =>
    { imu with
      reading := selected
      history := DelayLines.prune (dueSample boundary) imu.history }

/-- The state that `reset` gives to its update. -/
def cleared (imu : SampledImuModel F) (truth : ImuTruth F) : SampledImuModel F :=
  { imu with
    history := []
    accelerationBias := config.accelerationBiasMS2
    angularVelocityBias := config.angularVelocityBiasRadS
    filteredAcceleration := truth.accelerationBodyMS2
    filteredAngularVelocity := truth.angularVelocityBodyRadS
    nextSampleS := truth.nowS }

def reset (imu : SampledImuModel F) (truth : ImuTruth F) : Option (SampledImuModel F) :=
  (imu.cleared config truth).update config gauss truth

end SampledImuModel

end Imu

section Observations

inductive FlowStatus where
  | valid | degraded | stale | unavailable
  deriving DecidableEq, Repr

inductive RangeStatus where
  | valid | noHit | clipped | stale | unavailable
  deriving DecidableEq, Repr

structure FlowReading (F : Type) where
  velocityBodyMS : Option (Vector3 F)
  groundDistanceM : Option F
  qualityPercent : F
  status : FlowStatus
  sourceTimestampS : Option F
  deriving DecidableEq, Repr

structure RangeReadings (F : Type) where
  frontM : Option F
  backM : Option F
  leftM : Option F
  rightM : Option F
  upM : Option F
  downM : Option F
  maxRangeM : F
  statuses : List (String × RangeStatus)
  sourceTimestampS : Option F
  deriving DecidableEq, Repr

structure SamplingConfig (F : Type) where
  sampleRateHz : F
  latencyS : F
  deriving DecidableEq, Repr

structure SampledObservations (F : Type) where
  flowHistory : List (FlowReading F)
  rangeHistory : List (RangeReadings F)
  heldFlow : FlowReading F
  heldRanges : RangeReadings F
  nextFlowSampleS : F
  nextRangeSampleS : F
  deriving DecidableEq, Repr

/-- What the sensors would measure at a time. -/
structure Surroundings (F : Type) where
  nowS : F
  flow : FlowReading F
  ranges : RangeReadings F
  deriving DecidableEq, Repr

/-- `_sample_flow_reading`: what is measured, with the time of the sample. -/
def sampleFlowReading (around : Surroundings F) : FlowReading F :=
  { around.flow with sourceTimestampS := some around.nowS }

/-- `_sample_range_readings`. -/
def sampleRangeReadings (around : Surroundings F) : RangeReadings F :=
  { around.ranges with sourceTimestampS := some around.nowS }

def selectSample {S : Type} (stamp : S → Option F) (history : List S) (boundaryS : F) :
    Option (S × List S) :=
  let due (sample : S) := dueBy boundaryS (stamp sample)
  (DelayLines.select due history).map fun selected => (selected, DelayLines.prune due history)

/-- `_select_flow_sample`. -/
def selectFlowSample (history : List (FlowReading F)) (boundaryS : F) :
    Option (FlowReading F × List (FlowReading F)) :=
  selectSample FlowReading.sourceTimestampS history boundaryS

/-- `_select_range_sample`. -/
def selectRangeSample (history : List (RangeReadings F)) (boundaryS : F) :
    Option (RangeReadings F × List (RangeReadings F)) :=
  selectSample RangeReadings.sourceTimestampS history boundaryS

namespace SampledObservations

variable (flow range : SamplingConfig F)

/-- `_reset_sampled_observations`. -/
def reset (around : Surroundings F) : SampledObservations F :=
  { flowHistory := [sampleFlowReading around]
    rangeHistory := [sampleRangeReadings around]
    heldFlow := sampleFlowReading around
    heldRanges := sampleRangeReadings around
    nextFlowSampleS := around.nowS + periodS flow.sampleRateHz
    nextRangeSampleS := around.nowS + periodS range.sampleRateHz }

def newFlow (held : SampledObservations F) (around : Surroundings F) : List (FlowReading F) :=
  if sampleDue around.nowS held.nextFlowSampleS then [sampleFlowReading around] else []

def newRanges (held : SampledObservations F) (around : Surroundings F) : List (RangeReadings F) :=
  if sampleDue around.nowS held.nextRangeSampleS then [sampleRangeReadings around] else []

omit [PyRound F] in
theorem newFlow_stamped {held : SampledObservations F} {around : Surroundings F} :
    ∀ sample ∈ held.newFlow around, sample.sourceTimestampS = some around.nowS := by
  intro sample member
  unfold SampledObservations.newFlow at member
  split at member
  · obtain rfl := List.mem_singleton.mp member
    rfl
  · cases member

omit [PyRound F] in
theorem newRanges_stamped {held : SampledObservations F} {around : Surroundings F} :
    ∀ sample ∈ held.newRanges around, sample.sourceTimestampS = some around.nowS := by
  intro sample member
  unfold SampledObservations.newRanges at member
  split at member
  · obtain rfl := List.mem_singleton.mp member
    rfl
  · cases member

def nextSample (config : SamplingConfig F) (nowS nextSampleS : F) : F :=
  if sampleDue nowS nextSampleS then
    advanceSampleTime nowS nextSampleS (periodS config.sampleRateHz)
  else nextSampleS

/-- `_update_sampled_observations`. -/
def update (held : SampledObservations F) (around : Surroundings F) :
    Option (SampledObservations F) := do
  let (heldFlow, flowHistory) ← selectFlowSample (held.flowHistory ++ held.newFlow around)
    (around.nowS - flow.latencyS)
  let (heldRanges, rangeHistory) ← selectRangeSample (held.rangeHistory ++ held.newRanges around)
    (around.nowS - range.latencyS)
  return {
    flowHistory, rangeHistory, heldFlow, heldRanges
    nextFlowSampleS := nextSample flow around.nowS held.nextFlowSampleS
    nextRangeSampleS := nextSample range around.nowS held.nextRangeSampleS }

end SampledObservations

structure EstimatorSample (F : Type) where
  timeS : F
  positionM : Vector3 F
  velocityMS : Vector3 F
  attitude : EulerAttitude F
  angularVelocityBodyRadS : Vector3 F
  deriving DecidableEq, Repr

/-- The history's part of `_update_estimator`. -/
def estimatorUpdate (latencyS : F) (history : List (EstimatorSample F))
    (sample : EstimatorSample F) : Option (EstimatorSample F × List (EstimatorSample F)) :=
  selectSample (fun item => some item.timeS) (history ++ [sample]) (sample.timeS - latencyS)

end Observations

section Records

variable (config : ImuModelConfig F) (gauss : Nat → F → F) (flow range : SamplingConfig F)

/-- A model beside every sample it has taken since its reset. -/
structure RecordedImu (F : Type) where
  imu : SampledImuModel F
  complete : List (ImuSample F)

def RecordedImu.reset (imu : SampledImuModel F) (truth : ImuTruth F) : Option (RecordedImu F) :=
  (imu.reset config gauss truth).map fun reset =>
    ⟨reset, (imu.cleared config truth).newSamples config gauss truth⟩

def RecordedImu.update (record : RecordedImu F) (truth : ImuTruth F) : Option (RecordedImu F) :=
  (record.imu.update config gauss truth).map fun imu =>
    ⟨imu, record.complete ++ record.imu.newSamples config gauss truth⟩

structure RecordedObservations (F : Type) where
  held : SampledObservations F
  completeFlow : List (FlowReading F)
  completeRanges : List (RangeReadings F)

def RecordedObservations.reset (around : Surroundings F) : RecordedObservations F :=
  ⟨.reset flow range around, [sampleFlowReading around], [sampleRangeReadings around]⟩

def RecordedObservations.update (record : RecordedObservations F) (around : Surroundings F) :
    Option (RecordedObservations F) :=
  (record.held.update flow range around).map fun held =>
    ⟨held, record.completeFlow ++ record.held.newFlow around,
      record.completeRanges ++ record.held.newRanges around⟩

structure RecordedEstimator (F : Type) where
  history : List (EstimatorSample F) := []
  selected : Option (EstimatorSample F) := none
  complete : List (EstimatorSample F) := []

def RecordedEstimator.update (latencyS : F) (record : RecordedEstimator F)
    (sample : EstimatorSample F) : Option (RecordedEstimator F) :=
  (estimatorUpdate latencyS record.history sample).map fun found =>
    ⟨found.2, some found.1, record.complete ++ [sample]⟩

end Records

end CrazySwarm
