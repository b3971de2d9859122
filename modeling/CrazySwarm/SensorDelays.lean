import CrazySwarm.SampledSensors

/-! What a sensor yields from its pruned history is what its complete history would yield, at every
update of every run, and its clock never falls behind. -/
namespace CrazySwarm

section SampleClock

variable {F : Type} [Field F] [LinearOrder F] [IsStrictOrderedRing F] [PyPhysics F] [Exact F]

theorem periodS_pos {sampleRateHz : F} (positive : 0 < sampleRateHz) : 0 < periodS sampleRateHz := by
  simpa [periodS] using positive

theorem lt_of_not_sampleDue {nowS nextSampleS : F} (early : ¬sampleDue nowS nextSampleS = true) :
    nowS < nextSampleS := by
  have slack : (0 : F) ≤ ((1e-12 : ℚ) : F) := Rat.cast_nonneg.mpr (by norm_num)
  rw [sampleDue, Exact.plus, Exact.ofRat_cast, Exact.le_true, not_le] at early
  linarith

variable [PyRound F] [ExactRound F]

theorem lt_floorInt_add_one (a : F) : a < (floorInt a : F) + 1 := by
  have negated : PyFloat.neg a = -a := by simp [PyFloat.neg]
  have above := ExactRound.ceil_lt (-a)
  rw [floorInt, negated]
  push_cast
  linarith

theorem lt_advanceSampleTime {nowS nextSampleS period : F} (positive : 0 < period) :
    nowS < advanceSampleTime nowS nextSampleS period := by
  let quotient := (nowS - nextSampleS) / period
  have whole : ((floorInt quotient + 1 : Int) : F) ≤ skippedPeriods nowS nextSampleS period := by
    rw [skippedPeriods, Exact.over_eq, Exact.minus]
    exact_mod_cast le_max_right _ _
  have beyond := lt_floorInt_add_one quotient
  push_cast at whole
  have steps : quotient * period < (skippedPeriods nowS nextSampleS period : F) * period :=
    mul_lt_mul_of_pos_right (by linarith) positive
  have gap : quotient * period = nowS - nextSampleS := div_mul_cancel₀ _ positive.ne'
  rw [advanceSampleTime, Exact.plus, Exact.times, Exact.ofRat_cast]
  push_cast
  linarith

end SampleClock

section Delays

variable {F S : Type} [LinearOrder F] [PyPhysics F] {stamp : S → Option F}

structure Delays (stamp : S → Option F) (nowS boundaryS : F) (history complete : List S) : Prop where
  retains : DelayLines.Retains (fun sample => dueBy boundaryS (stamp sample)) history complete
  stamped : ∀ sample ∈ complete, ∃ t, stamp sample = some t ∧ t ≤ nowS
  inOrder : ∀ boundary, DelayLines.InOrder (fun sample => dueBy boundary (stamp sample)) complete

/-- Before the first sample. -/
theorem Delays.empty (nowS boundaryS : F) : Delays stamp nowS boundaryS [] [] :=
  ⟨DelayLines.retains_refl, nofun, fun _ => List.Pairwise.nil⟩

variable [Field F] [IsStrictOrderedRing F] [Exact F]

theorem dueBy_some {boundaryS t : F} : dueBy boundaryS (some t) = true ↔ t ≤ boundaryS := by
  simp [dueBy]

theorem dueBy_later {boundaryS later : F} (forward : boundaryS ≤ later) {sourceTimestampS : Option F}
    (due : dueBy boundaryS sourceTimestampS = true) : dueBy later sourceTimestampS = true := by
  cases sourceTimestampS with
  | none => cases due
  | some t => exact dueBy_some.mpr ((dueBy_some.mp due).trans forward)

theorem Delays.select {nowS later boundaryS boundary : F} {history complete new : List S}
    (delays : Delays stamp nowS boundaryS history complete) (forward : nowS ≤ later)
    (moves : boundaryS ≤ boundary) (fresh : ∀ sample ∈ new, stamp sample = some later)
    (nonempty : complete ++ new ≠ []) :
    ∃ selected rest, selectSample stamp (history ++ new) boundary = some (selected, rest) ∧
      DelayLines.delayed (fun sample => dueBy boundary (stamp sample)) (complete ++ new) =
        some selected ∧
      Delays stamp later boundary rest (complete ++ new) := by
  have inOrder : ∀ bound, DelayLines.InOrder (fun sample => dueBy bound (stamp sample))
      (complete ++ new) := by
    intro bound
    refine List.pairwise_append.mpr ⟨delays.inOrder bound, ?_, ?_⟩
    · refine List.Pairwise.imp_of_mem (R := fun _ _ => True) ?_ (List.pairwise_of_forall fun _ _ => trivial)
      intro a b first second _ due
      beta_reduce at due ⊢
      rwa [fresh a first, ← fresh b second]
    · intro a first b second due
      obtain ⟨t, stamped, past⟩ := delays.stamped a first
      beta_reduce at due ⊢
      rw [fresh b second, dueBy_some] at due
      rw [stamped, dueBy_some]
      exact past.trans (forward.trans due)
  have retains := (delays.retains.later fun _ => dueBy_later moves).append new
  have same := retains.select_eq (inOrder boundary)
  obtain ⟨selected, yields⟩ : ∃ selected, DelayLines.delayed
      (fun sample => dueBy boundary (stamp sample)) (complete ++ new) = some selected := by
    rw [DelayLines.delayed]
    cases all : complete ++ new with
    | nil => exact absurd all nonempty
    | cons first rest =>
      cases ((first :: rest).filter fun sample => dueBy boundary (stamp sample)).getLast? with
      | none => exact ⟨first, rfl⟩
      | some last => exact ⟨last, rfl⟩
  refine ⟨selected, _, ?_, yields, retains.prune, ?_, inOrder⟩
  · rw [selectSample, same, yields]
    rfl
  · intro sample member
    rcases List.mem_append.mp member with old | added
    · obtain ⟨t, stamped, past⟩ := delays.stamped sample old
      exact ⟨t, stamped, past.trans forward⟩
    · exact ⟨later, fresh sample added, le_rfl⟩

end Delays

section Machines

variable {F : Type} [Field F] [LinearOrder F] [IsStrictOrderedRing F] [PyPhysics F] [PyRound F]
  [Exact F] [ExactRound F]

def Yields {S : Type} (stamp : S → Option F) (nowS latencyS : F) (complete : List S)
    (sample : S) : Prop :=
  DelayLines.delayed (fun sample => dueBy (nowS - latencyS) (stamp sample)) complete = some sample

section Imu

variable {config : ImuModelConfig F} (gauss : Nat → F → F)

namespace SampledImuModel

variable {gauss} in
theorem lt_takeSample_next (positive : 0 < config.sampleRateHz) (imu : SampledImuModel F)
    (truth : ImuTruth F) : truth.nowS < (imu.takeSample config gauss truth).nextSampleS := by
  unfold takeSample
  split
  · exact lt_advanceSampleTime (periodS_pos positive)
  · next early => exact lt_of_not_sampleDue early

end SampledImuModel

/-- Between two updates. -/
structure ImuDelayed (config : ImuModelConfig F) (nowS : F) (record : RecordedImu F) : Prop where
  yields : Yields (fun sample => some sample.sourceTimestampS) nowS config.latencyS record.complete
    record.imu.reading
  delays : Delays (fun sample => some sample.sourceTimestampS) nowS (nowS - config.latencyS)
    record.imu.history record.complete
  ahead : nowS < record.imu.nextSampleS
  nonempty : record.complete ≠ []

variable {gauss} in
theorem imu_update {imu : SampledImuModel F} {truth : ImuTruth F} {nowS : F}
    {complete : List (ImuSample F)} (positive : 0 < config.sampleRateHz)
    (delays : Delays (fun sample => some sample.sourceTimestampS) nowS (nowS - config.latencyS)
      imu.history complete) (forward : nowS ≤ truth.nowS)
    (nonempty : complete ++ imu.newSamples config gauss truth ≠ []) :
    ∃ imu', imu.update config gauss truth = some imu' ∧ ImuDelayed config truth.nowS
      ⟨imu', complete ++ imu.newSamples config gauss truth⟩ := by
  obtain ⟨selected, rest, selects, yields, kept⟩ := delays.select forward
    (sub_le_sub_right forward config.latencyS) SampledImuModel.newSamples_stamped nonempty
  let taken := imu.takeSample config gauss truth
  have updated : imu.update config gauss truth =
      (selectSample (fun sample => some sample.sourceTimestampS) taken.history
        (truth.nowS - config.latencyS)).map fun found =>
      { taken with reading := found.1, history := found.2 } := by
    unfold SampledImuModel.update selectSample
    rw [Exact.minus, Option.map_map]
    rfl
  rw [SampledImuModel.takeSample_history, selects] at updated
  exact ⟨_, updated, yields, kept, SampledImuModel.lt_takeSample_next positive imu truth, nonempty⟩

theorem imu_step (positive : 0 < config.sampleRateHz) (nowS : F) (record : RecordedImu F)
    (truth : ImuTruth F) (delayed : ImuDelayed config nowS record) (forward : nowS ≤ truth.nowS) :
    ∃ record', record.update config gauss truth = some record' ∧
      ImuDelayed config truth.nowS record' := by
  obtain ⟨imu', updated, kept⟩ := imu_update positive delayed.delays forward
    (List.append_ne_nil_of_left_ne_nil delayed.nonempty (record.imu.newSamples config gauss truth))
  refine ⟨_, ?_, kept⟩
  rw [RecordedImu.update, updated]
  rfl

theorem imu_reset (positive : 0 < config.sampleRateHz) (start : SampledImuModel F)
    (truth : ImuTruth F) : ∃ record, RecordedImu.reset config gauss start truth = some record ∧
      ImuDelayed config truth.nowS record := by
  have slack : (0 : F) ≤ ((1e-12 : ℚ) : F) := Rat.cast_nonneg.mpr (by norm_num)
  have due : sampleDue truth.nowS (start.cleared config truth).nextSampleS = true := by
    rw [sampleDue, Exact.plus, Exact.ofRat_cast, Exact.le_true, SampledImuModel.cleared]
    linarith
  have taken : [] ++ (start.cleared config truth).newSamples config gauss truth ≠ [] := by
    rw [SampledImuModel.newSamples, if_pos due]
    exact List.cons_ne_nil _ _
  obtain ⟨imu', updated, kept⟩ := imu_update positive
    (Delays.empty truth.nowS _) le_rfl taken
  refine ⟨_, ?_, kept⟩
  rw [RecordedImu.reset, SampledImuModel.reset, updated]
  rfl

end Imu

section Observations

variable {flow range : SamplingConfig F}

theorem lt_nextSample {config : SamplingConfig F} (positive : 0 < config.sampleRateHz)
    (nowS nextSampleS : F) : nowS < SampledObservations.nextSample config nowS nextSampleS := by
  unfold SampledObservations.nextSample
  split
  · exact lt_advanceSampleTime (periodS_pos positive)
  · next early => exact lt_of_not_sampleDue early

structure ObservationsDelayed (flow range : SamplingConfig F) (nowS : F)
    (record : RecordedObservations F) : Prop where
  yieldsFlow : Yields FlowReading.sourceTimestampS nowS flow.latencyS record.completeFlow
    record.held.heldFlow
  yieldsRanges : Yields RangeReadings.sourceTimestampS nowS range.latencyS record.completeRanges
    record.held.heldRanges
  flowDelays : Delays FlowReading.sourceTimestampS nowS (nowS - flow.latencyS)
    record.held.flowHistory record.completeFlow
  rangeDelays : Delays RangeReadings.sourceTimestampS nowS (nowS - range.latencyS)
    record.held.rangeHistory record.completeRanges
  flowAhead : nowS < record.held.nextFlowSampleS
  rangeAhead : nowS < record.held.nextRangeSampleS
  flowNonempty : record.completeFlow ≠ []
  rangeNonempty : record.completeRanges ≠ []

theorem observations_step (flowPositive : 0 < flow.sampleRateHz)
    (rangePositive : 0 < range.sampleRateHz) (nowS : F) (record : RecordedObservations F)
    (around : Surroundings F) (delayed : ObservationsDelayed flow range nowS record)
    (forward : nowS ≤ around.nowS) : ∃ record', record.update flow range around = some record' ∧
      ObservationsDelayed flow range around.nowS record' := by
  have someFlow := List.append_ne_nil_of_left_ne_nil delayed.flowNonempty (record.held.newFlow around)
  have someRanges :=
    List.append_ne_nil_of_left_ne_nil delayed.rangeNonempty (record.held.newRanges around)
  obtain ⟨heldFlow, flowRest, flowSelects, flowYields, flowKept⟩ := delayed.flowDelays.select forward
    (sub_le_sub_right forward flow.latencyS) SampledObservations.newFlow_stamped
      someFlow
  obtain ⟨heldRanges, rangeRest, rangeSelects, rangeYields, rangeKept⟩ :=
    delayed.rangeDelays.select forward (sub_le_sub_right forward range.latencyS)
      SampledObservations.newRanges_stamped someRanges
  let held : SampledObservations F := ⟨flowRest, rangeRest, heldFlow, heldRanges,
    SampledObservations.nextSample flow around.nowS record.held.nextFlowSampleS,
    SampledObservations.nextSample range around.nowS record.held.nextRangeSampleS⟩
  refine ⟨⟨held, record.completeFlow ++ record.held.newFlow around,
      record.completeRanges ++ record.held.newRanges around⟩, ?_, flowYields, rangeYields, flowKept,
    rangeKept, lt_nextSample flowPositive _ _, lt_nextSample rangePositive _ _, someFlow, someRanges⟩
  rw [RecordedObservations.update, SampledObservations.update, selectFlowSample, selectRangeSample,
    Exact.minus, Exact.minus, flowSelects, rangeSelects]
  rfl

omit [PyRound F] [ExactRound F] in
theorem observations_reset (flowPositive : 0 < flow.sampleRateHz)
    (rangePositive : 0 < range.sampleRateHz) (around : Surroundings F) :
    ObservationsDelayed flow range around.nowS (.reset flow range around) := by
  have once {S : Type} (stamp : S → Option F) (sample : S) (stamped : stamp sample = some around.nowS)
      (boundaryS : F) : Delays stamp around.nowS boundaryS [sample] [sample] :=
    ⟨DelayLines.retains_refl, by simp [stamped], fun _ => List.pairwise_singleton _ _⟩
  have yields {S : Type} {stamp : S → Option F} (latencyS : F) (sample : S) :
      Yields stamp around.nowS latencyS [sample] sample := by
    unfold Yields DelayLines.delayed
    rw [List.filter_singleton]
    cases dueBy (around.nowS - latencyS) (stamp sample) <;> rfl
  have ahead {config : SamplingConfig F} (positive : 0 < config.sampleRateHz) :
      around.nowS < PyFloat.add around.nowS (periodS config.sampleRateHz) := by
    rw [Exact.add_eq]
    exact lt_add_of_pos_right _ (periodS_pos positive)
  exact ⟨yields _ _, yields _ _, once _ (sampleFlowReading around) rfl _,
    once _ (sampleRangeReadings around) rfl _, ahead flowPositive, ahead rangePositive,
    List.cons_ne_nil _ _, List.cons_ne_nil _ _⟩

end Observations

section Estimator

structure EstimatorDelayed (latencyS nowS : F) (record : RecordedEstimator F) : Prop where
  yields : ∀ sample, record.selected = some sample →
    Yields (fun sample => some sample.timeS) nowS latencyS record.complete sample
  delays : Delays (fun sample => some sample.timeS) nowS (nowS - latencyS) record.history
    record.complete

omit [PyRound F] [ExactRound F] in
theorem estimator_step {latencyS : F} (nowS : F) (record : RecordedEstimator F)
    (sample : EstimatorSample F) (delayed : EstimatorDelayed latencyS nowS record)
    (forward : nowS ≤ sample.timeS) : ∃ record', record.update latencyS sample = some record' ∧
      EstimatorDelayed latencyS sample.timeS record' ∧ record'.selected.isSome = true := by
  have stamped : ∀ item ∈ [sample], some item.timeS = some sample.timeS := by simp
  obtain ⟨selected, rest, selects, yields, kept⟩ := delayed.delays.select forward
    (sub_le_sub_right forward latencyS) stamped (List.append_ne_nil_of_right_ne_nil _
      (List.cons_ne_nil sample []))
  refine ⟨⟨rest, some selected, record.complete ++ [sample]⟩, ?_, ⟨?_, kept⟩, rfl⟩
  · rw [RecordedEstimator.update, estimatorUpdate, Exact.minus, selects]
    rfl
  · rintro _ ⟨⟩
    exact yields

omit [Field F] [LinearOrder F] [IsStrictOrderedRing F] [PyRound F] [Exact F] [ExactRound F] in
theorem estimator_complete {latencyS : F} {record record' : RecordedEstimator F}
    {samples : List (EstimatorSample F)}
    (ran : samples.foldlM (RecordedEstimator.update latencyS) record = some record') :
    record'.complete = record.complete ++ samples := by
  induction samples generalizing record with
  | nil =>
    cases ran
    rw [List.append_nil]
  | cons sample rest ih =>
    rw [List.foldlM_cons] at ran
    obtain ⟨next, updated, ran⟩ := Option.bind_eq_some_iff.mp ran
    obtain ⟨found, -, rfl⟩ := Option.map_eq_some_iff.mp updated
    rw [ih ran, List.append_assoc]
    rfl

end Estimator

section Counts

variable (config : ImuModelConfig F) (gauss : Nat → F → F) (flow range : SamplingConfig F)

omit [Field F] [LinearOrder F] [IsStrictOrderedRing F] [Exact F] [ExactRound F] in
theorem imu_counts (record : RecordedImu F) (truth : ImuTruth F) (record' : RecordedImu F)
    (updated : record.update config gauss truth = some record') :
    record'.complete.length ≤ record.complete.length + 1 := by
  obtain ⟨imu, -, rfl⟩ := Option.map_eq_some_iff.mp updated
  rw [List.length_append, SampledImuModel.newSamples]
  split <;> simp

omit [Field F] [LinearOrder F] [IsStrictOrderedRing F] [Exact F] [ExactRound F] in
theorem observations_counts (record : RecordedObservations F) (around : Surroundings F)
    (record' : RecordedObservations F) (updated : record.update flow range around = some record') :
    record'.completeFlow.length ≤ record.completeFlow.length + 1 ∧
      record'.completeRanges.length ≤ record.completeRanges.length + 1 := by
  obtain ⟨held, -, rfl⟩ := Option.map_eq_some_iff.mp updated
  rw [List.length_append, List.length_append, SampledObservations.newFlow,
    SampledObservations.newRanges]
  constructor <;> split <;> simp

end Counts

/-- Whenever the updates come at times that do not decrease, each of the four histories yields after
every one of them what its complete history would, each sampling clock is ahead of the time, and no
update takes two samples. -/
theorem sampledHistories_exact (config : ImuModelConfig F) (gauss : Nat → F → F)
    (flow range : SamplingConfig F) (estimatorLatencyS : F)
    (imuPositive : 0 < config.sampleRateHz) (flowPositive : 0 < flow.sampleRateHz)
    (rangePositive : 0 < range.sampleRateHz) :
    (∀ (start : SampledImuModel F) (first : ImuTruth F) (later : List (ImuTruth F)),
      (first.nowS :: later.map ImuTruth.nowS).IsChain (· ≤ ·) →
      let nowS := (later.map ImuTruth.nowS).getLastD first.nowS
      ∃ record, (RecordedImu.reset config gauss start first >>= fun record =>
          later.foldlM (RecordedImu.update config gauss) record) = some record ∧
        Yields (fun sample => some sample.sourceTimestampS) nowS config.latencyS record.complete
          record.imu.reading ∧
        nowS - ((1e-12 : ℚ) : F) < record.imu.nextSampleS ∧
        record.complete.length ≤ (first :: later).length) ∧
    (∀ (first : Surroundings F) (later : List (Surroundings F)),
      (first.nowS :: later.map Surroundings.nowS).IsChain (· ≤ ·) →
      let nowS := (later.map Surroundings.nowS).getLastD first.nowS
      ∃ record, later.foldlM (RecordedObservations.update flow range)
          (.reset flow range first) = some record ∧
        Yields FlowReading.sourceTimestampS nowS flow.latencyS record.completeFlow
          record.held.heldFlow ∧
        Yields RangeReadings.sourceTimestampS nowS range.latencyS record.completeRanges
          record.held.heldRanges ∧
        nowS - ((1e-12 : ℚ) : F) < record.held.nextFlowSampleS ∧
        nowS - ((1e-12 : ℚ) : F) < record.held.nextRangeSampleS ∧
        record.completeFlow.length ≤ (first :: later).length ∧
        record.completeRanges.length ≤ (first :: later).length) ∧
    ∀ (first : EstimatorSample F) (later : List (EstimatorSample F)),
      (first.timeS :: later.map EstimatorSample.timeS).IsChain (· ≤ ·) →
      let nowS := (later.map EstimatorSample.timeS).getLastD first.timeS
      ∃ record sample, (first :: later).foldlM (RecordedEstimator.update estimatorLatencyS) {} =
          some record ∧ record.complete = first :: later ∧ record.selected = some sample ∧
        Yields (fun sample => some sample.timeS) nowS estimatorLatencyS record.complete sample := by
  have slack {nowS next : F} (ahead : nowS < next) : nowS - ((1e-12 : ℚ) : F) < next := by
    have positive : (0 : F) ≤ ((1e-12 : ℚ) : F) := Rat.cast_nonneg.mpr (by norm_num)
    linarith
  refine ⟨fun start first later forward => ?_, fun first later forward => ?_,
    fun first later forward => ?_⟩
  · obtain ⟨begun, reset, delayed⟩ := imu_reset gauss imuPositive start first
    obtain ⟨record, ran, kept⟩ := DelayLines.run_keeps (imu_step gauss imuPositive)
      delayed forward
    have grown := DelayLines.run_counts (imu_counts config gauss) ran
    have one : begun.complete.length ≤ 1 := by
      obtain ⟨imu, -, rfl⟩ := Option.map_eq_some_iff.mp reset
      rw [SampledImuModel.newSamples]
      split <;> simp
    refine ⟨record, ?_, kept.yields, slack kept.ahead, ?_⟩
    · rw [reset]
      exact ran
    · rw [List.length_cons]
      omega
  · obtain ⟨record, ran, kept⟩ := DelayLines.run_keeps (observations_step flowPositive rangePositive)
      (observations_reset flowPositive rangePositive first) forward
    have flows := DelayLines.run_counts
      (fun record around record' updated => (observations_counts flow range record around record'
        updated).1) ran
    have ranges := DelayLines.run_counts
      (fun record around record' updated => (observations_counts flow range record around record'
        updated).2) ran
    refine ⟨record, ran, kept.yieldsFlow, kept.yieldsRanges, slack kept.flowAhead,
      slack kept.rangeAhead, ?_, ?_⟩
    · rwa [List.length_cons, Nat.add_comm]
    · rwa [List.length_cons, Nat.add_comm]
  · have empty : EstimatorDelayed estimatorLatencyS first.timeS ({} : RecordedEstimator F) :=
      ⟨nofun, Delays.empty _ _⟩
    obtain ⟨begun, updated, delayed⟩ := estimator_step first.timeS {} first empty le_rfl
    obtain ⟨record, ran, kept, chosen⟩ := DelayLines.run_keeps (P := fun nowS record =>
      EstimatorDelayed estimatorLatencyS nowS record ∧ record.selected.isSome = true)
      (fun nowS record sample kept => estimator_step nowS record sample kept.1) delayed forward
    have whole : (first :: later).foldlM (RecordedEstimator.update estimatorLatencyS) {} =
        some record := by
      rw [List.foldlM_cons, updated]
      exact ran
    obtain ⟨sample, selected⟩ := Option.isSome_iff_exists.mp chosen
    exact ⟨record, sample, whole, estimator_complete whole, selected, kept.yields sample selected⟩

end Machines

/-- A flow sensor with a hundred samples each second, read one sample late. -/
theorem hundredHertz_exact :
    let flow : SamplingConfig ℚ := ⟨100, 1 / 100⟩
    let range : SamplingConfig ℚ := ⟨50, 0⟩
    let around (nowS : ℚ) : Surroundings ℚ := ⟨nowS, ⟨none, some 1, 90, .valid, none⟩,
      ⟨none, none, none, none, none, some 1, 4, [], none⟩⟩
    ∃ record, [around (1 / 100)].foldlM (RecordedObservations.update flow range)
        (.reset flow range (around 0)) = some record ∧
      Yields FlowReading.sourceTimestampS (1 / 100) flow.latencyS record.completeFlow
        record.held.heldFlow := by
  intro flow range around
  let still : ImuModelConfig ℚ := ⟨100, 0, .zero, .zero, .zero, .zero, .zero, .zero, .zero, .zero,
    .zero, 0, none, none⟩
  obtain ⟨record, ran, yields, -⟩ := (sampledHistories_exact still (fun _ _ => 0) flow range 0
    (by norm_num [still]) (by norm_num [flow]) (by norm_num [range])).2.1 (around 0)
    [around (1 / 100)] (by norm_num [around])
  exact ⟨record, ran, yields⟩

end CrazySwarm
