import CrazySwarm.Lib.NearestCursor
import CrazySwarm.EvaluationCompleteness

/-! The samples of two vehicles that are paired for their separation: each of the first with a nearest in
time of the second, as far as one is near enough. -/
namespace CrazySwarm.Evaluation
open NearestCursor

variable {F : Type} [Field F] [LinearOrder F] [IsStrictOrderedRing F] [PyBuiltins F] [Exact F]

/-- A telemetry event with its sample. -/
abbrev Sample (F : Type) [PyBuiltins F] := RecordedEvent F × RecordedEnvelope F

section Statement

def InOrder (samples : List (Sample F)) : Prop :=
  samples.Pairwise fun a b => a.1.recordedAtUtc ≤ b.1.recordedAtUtc

def timeBetween (a b : Sample F) : F := |(timestamp a.1 : F) - timestamp b.1|

def truthSeparation (samples : RecordedEnvelope F × RecordedEnvelope F) : Option F :=
  optionalDistance samples.1.telemetry.groundTruthPositionM samples.2.telemetry.groundTruthPositionM

inductive NearestPairing (second : List (Sample F)) :
    List (Sample F) → List (RecordedEnvelope F × RecordedEnvelope F) → Prop where
  | nil : NearestPairing second [] []
  | paired {sample other : Sample F} {rest pairs} (among : other ∈ second)
      (nearest : ∀ any ∈ second, timeBetween other sample ≤ timeBetween any sample)
      (within : timeBetween other sample ≤ pairingToleranceS)
      (others : NearestPairing second rest pairs) :
      NearestPairing second (sample :: rest) ((sample.2, other.2) :: pairs)
  | apart {sample : Sample F} {rest pairs}
      (far : ∀ any ∈ second, ¬timeBetween any sample ≤ pairingToleranceS)
      (others : NearestPairing second rest pairs) : NearestPairing second (sample :: rest) pairs

end Statement

section Pairing

def recordedAt (sample : Sample F) : F := timestamp sample.1

theorem recordedAt_eq (sample : Sample F) :
    (recordedAt sample : F) = (sample.1.recordedAtUtc : F) / 1000000 := by
  rw [recordedAt, timestamp, Exact.ofRat_cast, Rat.mkRat_eq_div]
  push_cast
  rfl

theorem recordedAt_le {a b : Sample F} (ordered : a.1.recordedAtUtc ≤ b.1.recordedAtUtc) :
    (recordedAt a : F) ≤ recordedAt b := by
  rw [recordedAt_eq, recordedAt_eq]
  exact div_le_div_of_nonneg_right (by exact_mod_cast ordered) (by norm_num)

theorem nearest_eq (time : F) (samples : List (Sample F)) :
    nearest time samples = advance recordedAt time samples := by
  induction samples with
  | nil => rfl
  | cons current rest ih =>
    cases rest with
    | nil => rfl
    | cons next rest =>
      rw [nearest, advance, ih]
      simp only [Exact.abs_eq, Exact.minus, Exact.le_true]
      rfl

theorem pairedTelemetry_from {first second remaining : List (Sample F)}
    (suffix : remaining <:+ second) (sorted : InOrder second) (ascending : InOrder first)
    (covers : ∀ sample ∈ first, Covers recordedAt (recordedAt sample) remaining second) :
    NearestPairing second first (pairedTelemetry first remaining) := by
  induction first generalizing remaining with
  | nil => exact .nil
  | cons sample rest ih =>
    rw [pairedTelemetry]
    have timesSorted : remaining.Pairwise fun a b => (recordedAt a : F) ≤ recordedAt b :=
      (sorted.sublist suffix.sublist).imp recordedAt_le
    have moved := nearest_eq (recordedAt sample) remaining
    have stays := advance_suffix recordedAt (recordedAt sample) remaining
    have onward := advance_covers timesSorted (recordedAt sample)
    rw [← moved] at stays onward
    have reached := (covers sample List.mem_cons_self).trans onward
    have others : NearestPairing second rest
        (pairedTelemetry rest (nearest (recordedAt sample) remaining)) := by
      refine ih (stays.trans suffix) ascending.tail fun later among => ?_
      exact reached.mono (recordedAt_le (List.rel_of_pairwise_cons ascending among))
    cases empty : remaining with
    | nil =>
      subst empty
      refine .apart (fun any among => ?_) others
      obtain ⟨other, left, -⟩ := covers sample List.mem_cons_self _ le_rfl any among
      cases left
    | cons current ahead =>
      rw [← empty]
      have nonempty : remaining ≠ [] := by simp [empty]
      obtain ⟨other, head, nearestLeft⟩ := advance_nearest timesSorted (recordedAt sample) nonempty
      rw [← moved] at head nearestLeft
      have best := nearestLeft.of_covers reached fun item left =>
        suffix.subset (stays.subset left)
      have head' : (nearest (timestamp sample.1) remaining).head? = some other := head
      rw [head', Option.filter_some]
      simp only [Exact.abs_eq, Exact.minus, Exact.le_true]
      split
      · rename_i within
        exact .paired best.1 best.2 within others
      · rename_i beyond
        refine .apart (fun any among within => beyond ?_) others
        exact (best.2 any among).trans within

theorem pairedTelemetry_nearest {first second : List (Sample F)} (ascending : InOrder first)
    (sorted : InOrder second) : NearestPairing second first (pairedTelemetry first second) :=
  pairedTelemetry_from (List.suffix_refl second) sorted ascending fun _ _ => .refl _ second

end Pairing

section Minimum

structure Attains (summary : SeparationSummary F)
    (seen : List ((String × String) × RecordedEnvelope F × RecordedEnvelope F)) : Prop where
  absent : summary.minimumTruth = none →
    ∀ item ∈ seen, truthSeparation item.2 = none
  attained : ∀ least, summary.minimumTruth = some least →
    (∃ item ∈ seen, truthSeparation item.2 = some least ∧ summary.minimumPair = some item.1) ∧
    ∀ item ∈ seen, ∀ separation, truthSeparation item.2 = some separation → least ≤ separation

variable {warning critical : Option F} {summary : SeparationSummary F} {pair : String × String}
  {first second : RecordedEnvelope F}

theorem observe_below (warning critical : Option F) (pair : String × String) {separation : F}
    (seen : truthSeparation (first, second) = some separation)
    (below : ∀ least ∈ summary.minimumTruth, separation < least) :
    (summary.observe warning critical (pair, first, second)).minimumTruth = some separation ∧
      (summary.observe warning critical (pair, first, second)).minimumPair = some pair := by
  have truth : optionalDistance first.telemetry.groundTruthPositionM
    second.telemetry.groundTruthPositionM = some separation := seen
  have lower : (summary.minimumTruth.all fun least => PyFloat.lt separation least) = true := by
    rw [Option.all_eq_true]
    exact fun least found => Exact.lt_true.mpr (below least found)
  unfold SeparationSummary.observe
  simp only [truth, Option.any_some, Option.some_or]
  split_ifs <;> simp_all

theorem observe_above (warning critical : Option F) (pair : String × String)
    (above : ∀ separation, truthSeparation (first, second) = some separation →
      ∃ least ∈ summary.minimumTruth, least ≤ separation)
    (named : summary.minimumTruth.isSome = true → summary.minimumPair.isSome = true) :
    (summary.observe warning critical (pair, first, second)).minimumTruth = summary.minimumTruth ∧
      (summary.minimumTruth.isSome = true →
        (summary.observe warning critical (pair, first, second)).minimumPair = summary.minimumPair) := by
  have unchanged : ((optionalDistance first.telemetry.groundTruthPositionM
      second.telemetry.groundTruthPositionM).any fun separation =>
        summary.minimumTruth.all fun least => PyFloat.lt separation least) = false := by
    rw [Option.any_eq_false]
    intro separation found
    obtain ⟨least, kept, le⟩ := above separation found
    rw [kept, Option.all_some]
    simpa using le
  unfold SeparationSummary.observe
  cases known : summary.minimumTruth with
  | none =>
    rw [known] at unchanged
    dsimp only
    constructor
    · split_ifs <;> simp_all
    · nofun
  | some least =>
    rw [known] at unchanged named
    obtain ⟨kept, found⟩ := Option.isSome_iff_exists.mp (named rfl)
    dsimp only
    constructor
    · split_ifs <;> simp_all
    · intro _
      split_ifs <;> simp_all

theorem Attains.observe {seen : List ((String × String) × RecordedEnvelope F × RecordedEnvelope F)}
    (attains : Attains summary seen)
    (item : (String × String) × RecordedEnvelope F × RecordedEnvelope F) :
    Attains (summary.observe warning critical item) (seen ++ [item]) := by
  obtain ⟨pair, first, second⟩ := item
  by_cases lower : ∃ separation, truthSeparation (first, second) = some separation ∧
      ∀ least ∈ summary.minimumTruth, separation < least
  · obtain ⟨separation, found, below⟩ := lower
    obtain ⟨truth, named⟩ := observe_below warning critical pair found below
    constructor
    · intro none
      rw [truth] at none
      cases none
    · intro least known
      rw [truth] at known
      cases known
      refine ⟨⟨(pair, first, second), by simp, found, named⟩, ?_⟩
      intro item among other separated
      rcases List.mem_append.mp among with earlier | last
      · cases known : summary.minimumTruth with
        | none =>
          rw [attains.absent known item earlier] at separated
          cases separated
        | some least =>
          exact ((below least known).trans_le
            ((attains.attained least known).2 item earlier other separated)).le
      · rw [List.mem_singleton] at last
        subst last
        rw [found] at separated
        cases separated
        exact le_rfl
  · have above : ∀ separation, truthSeparation (first, second) = some separation →
        ∃ least ∈ summary.minimumTruth, least ≤ separation := by
      intro separation found
      by_contra none
      refine lower ⟨separation, found, fun least known => ?_⟩
      by_contra low
      exact none ⟨least, known, not_lt.mp low⟩
    have named : summary.minimumTruth.isSome = true → summary.minimumPair.isSome = true := by
      intro known
      obtain ⟨least, known⟩ := Option.isSome_iff_exists.mp known
      obtain ⟨item, -, -, pair⟩ := (attains.attained least known).1
      rw [pair]
      rfl
    obtain ⟨truth, kept⟩ := observe_above warning critical pair above named
    constructor
    · intro none
      rw [truth] at none
      intro item among
      rcases List.mem_append.mp among with earlier | last
      · exact attains.absent none item earlier
      · rw [List.mem_singleton] at last
        subst last
        by_contra some
        obtain ⟨separation, found⟩ := Option.ne_none_iff_exists'.mp some
        obtain ⟨least, known, -⟩ := above separation found
        rw [none] at known
        cases known
    · intro least known
      rw [truth] at known
      rw [kept (by rw [known]; rfl)]
      obtain ⟨⟨item, among, found, pair⟩, lowest⟩ := attains.attained least known
      refine ⟨⟨item, List.mem_append_left _ among, found, pair⟩, ?_⟩
      intro other listed separation separated
      rcases List.mem_append.mp listed with earlier | last
      · exact lowest other earlier separation separated
      · rw [List.mem_singleton] at last
        subst last
        obtain ⟨low, known', le⟩ := above separation separated
        rw [known] at known'
        cases known'
        exact le

theorem attains_foldl (warning critical : Option F)
    (seen : List ((String × String) × RecordedEnvelope F × RecordedEnvelope F)) :
    Attains (seen.foldl (SeparationSummary.observe warning critical) {}) seen := by
  induction seen using List.reverseRecOn with
  | nil => exact ⟨fun _ _ among => absurd among List.not_mem_nil, nofun⟩
  | append_singleton seen item ih =>
    rw [List.foldl_append]
    exact ih.observe item

theorem mem_pairs_iff {items : List String} (increasing : items.Pairwise (· < ·)) {a b : String} :
    (a, b) ∈ pairs items ↔ a ∈ items ∧ b ∈ items ∧ a < b := by
  induction items with
  | nil => simp [pairs]
  | cons item rest ih =>
    obtain ⟨ahead, increasing⟩ := List.pairwise_cons.mp increasing
    rw [pairs, List.mem_append, ih increasing, List.mem_map]
    constructor
    · rintro (⟨other, later, same⟩ | ⟨left, right, below⟩)
      · cases same
        exact ⟨List.mem_cons_self, List.mem_cons_of_mem _ later, ahead _ later⟩
      · exact ⟨List.mem_cons_of_mem _ left, List.mem_cons_of_mem _ right, below⟩
    · rintro ⟨left, right, below⟩
      rcases List.mem_cons.mp left with rfl | inRest
      · rcases List.mem_cons.mp right with rfl | later
        · exact absurd below (lt_irrefl _)
        · exact .inl ⟨b, later, rfl⟩
      · rcases List.mem_cons.mp right with rfl | later
        · exact absurd (below.trans (ahead a inRest)) (lt_irrefl _)
        · exact .inr ⟨inRest, later, below⟩

end Minimum

def telemetryOf (events : List (RecordedEvent F)) (vehicleId : String) : List (Sample F) :=
  telemetryEvents (eventsOf events vehicleId)

structure LeastSeparation (events : List (RecordedEvent F)) (metrics : FleetExecutionMetrics F)
    (paired : String → String → List (RecordedEnvelope F × RecordedEnvelope F)) : Prop where
  nearest : ∀ first second,
    NearestPairing (telemetryOf events second) (telemetryOf events first) (paired first second)
  absent : metrics.minimumTruthSeparationM = none →
    ∀ first ∈ vehiclesSeen events, ∀ second ∈ vehiclesSeen events, first < second →
      ∀ samples ∈ paired first second, truthSeparation samples = none
  attained : ∀ least, metrics.minimumTruthSeparationM = some least →
    ∃ first ∈ vehiclesSeen events, ∃ second ∈ vehiclesSeen events, first < second ∧
      metrics.minimumSeparationPair = some (first, second) ∧
      ∃ samples ∈ paired first second, truthSeparation samples = some least
  least : ∀ least, metrics.minimumTruthSeparationM = some least →
    ∀ first ∈ vehiclesSeen events, ∀ second ∈ vehiclesSeen events, first < second →
      ∀ samples ∈ paired first second, ∀ separation, truthSeparation samples = some separation →
        least ≤ separation

omit [Field F] [LinearOrder F] [IsStrictOrderedRing F] [Exact F] in
theorem telemetryOf_inOrder {events : List (RecordedEvent F)}
    (ordered : events.Pairwise fun a b => a.recordedAtUtc ≤ b.recordedAtUtc) (vehicleId : String) :
    InOrder (telemetryOf events vehicleId) := by
  rw [InOrder, telemetryOf, telemetryEvents, List.pairwise_filterMap]
  have own : (eventsOf events vehicleId).Pairwise fun a b => a.recordedAtUtc ≤ b.recordedAtUtc :=
    ordered.sublist List.filter_sublist
  refine own.imp fun {a b} le first found second also => ?_
  have same {event : RecordedEvent F} {sample : Sample F}
      (read : sample ∈ telemetryEvents [event]) : sample.1 = event := by
    obtain ⟨other, among, read⟩ := List.mem_filterMap.mp read
    cases List.mem_singleton.mp among
    cases payload : event.payload <;> rw [payload] at read <;> cases read
    rfl
  rw [same (List.mem_filterMap.mpr ⟨a, List.mem_singleton_self a, found⟩),
    same (List.mem_filterMap.mpr ⟨b, List.mem_singleton_self b, also⟩)]
  exact le

/-- Pairing yields nearest samples, and the fleet's least separation is the least over them. -/
theorem pairing_nearest :
    (∀ first second : List (Sample F), InOrder first → InOrder second →
      NearestPairing second first (pairedTelemetry first second)) ∧
    ∀ (events : List (RecordedEvent F)) (plan : PyMapping F)
      (vehicles : List (VehicleExecutionMetrics F)) (metrics : FleetExecutionMetrics F),
      events.Pairwise (fun a b => a.recordedAtUtc ≤ b.recordedAtUtc) →
      fleetMetrics events plan vehicles = .ok metrics →
        LeastSeparation events metrics fun first second =>
          pairedTelemetry (telemetryOf events first) (telemetryOf events second) := by
  refine ⟨fun first second => pairedTelemetry_nearest, ?_⟩
  intro events plan vehicles metrics ordered returned
  have measured := checkedModel_ok returned
  have sorted : (Sorting.sortBy id (vehiclesSeen events)).Pairwise (· < ·) := by
    have distinct : (Sorting.sortBy id (vehiclesSeen events)).Nodup :=
      (Sorting.sortBy_perm id _).nodup_iff.mpr (List.nodup_dedup _)
    exact (Sorting.sortBy_pairwise id (vehiclesSeen events)).imp₂
      (fun _ _ le ne => lt_of_le_of_ne le ne) distinct
  let paired (first second : String) :=
    pairedTelemetry (telemetryOf events first) (telemetryOf events second)
  let seen := (pairs (Sorting.sortBy id (vehiclesSeen events))).flatMap fun pair =>
    (paired pair.1 pair.2).map (pair, ·)
  have mem_seen {item} : item ∈ seen ↔ item.1.1 ∈ vehiclesSeen events ∧
      item.1.2 ∈ vehiclesSeen events ∧ item.1.1 < item.1.2 ∧ item.2 ∈ paired item.1.1 item.1.2 := by
    obtain ⟨⟨first, second⟩, samples⟩ := item
    rw [List.mem_flatMap]
    constructor
    · rintro ⟨pair, among, listed⟩
      obtain ⟨found, inPaired, same⟩ := List.mem_map.mp listed
      cases same
      obtain ⟨amongFirst, amongSecond, below⟩ := (mem_pairs_iff sorted).mp among
      exact ⟨(Sorting.mem_sortBy id).mp amongFirst, (Sorting.mem_sortBy id).mp amongSecond, below,
        inPaired⟩
    · rintro ⟨amongFirst, amongSecond, below, inPaired⟩
      exact ⟨(first, second), (mem_pairs_iff sorted).mpr ⟨(Sorting.mem_sortBy id).mpr amongFirst,
        (Sorting.mem_sortBy id).mpr amongSecond, below⟩, List.mem_map.mpr ⟨samples, inPaired, rfl⟩⟩
  have attains : ∃ summary : SeparationSummary F, Attains summary seen ∧
      metrics.minimumTruthSeparationM = summary.minimumTruth ∧
      metrics.minimumSeparationPair = summary.minimumPair := by
    rw [measured]
    exact ⟨_, attains_foldl ((PyData.field plan "safety").get "warning_separation_m").asNumber
      ((PyData.field plan "safety").get "critical_separation_m").asNumber seen, rfl, rfl⟩
  obtain ⟨summary, attains, truth, pair⟩ := attains
  constructor
  case nearest =>
    exact fun first second => pairedTelemetry_nearest (telemetryOf_inOrder ordered first)
      (telemetryOf_inOrder ordered second)
  case absent =>
    intro none first amongFirst second amongSecond below samples listed
    rw [truth] at none
    exact attains.absent none ((first, second), samples)
      (mem_seen.mpr ⟨amongFirst, amongSecond, below, listed⟩)
  case attained =>
    intro least known
    rw [truth] at known
    obtain ⟨⟨⟨first, second⟩, samples⟩, among, separated, named⟩ := (attains.attained least known).1
    obtain ⟨amongFirst, amongSecond, below, listed⟩ := mem_seen.mp among
    exact ⟨first, amongFirst, second, amongSecond, below, pair.trans named, samples, listed, separated⟩
  case least =>
    intro least known first amongFirst second amongSecond below samples listed separation separated
    rw [truth] at known
    exact (attains.attained least known).2 ((first, second), samples)
      (mem_seen.mpr ⟨amongFirst, amongSecond, below, listed⟩) separation separated

/-- Two samples of one vehicle, half a second apart, and one of another between them. -/
def flightSamples : List (RecordedEvent ℚ) :=
  [("sim01", 0), ("sim02", 200000), ("sim01", 500000)].map fun (vehicleId, time) =>
    { eventId := "", sequence := 0, vehicleId, runId := "run-1", recordedAtUtc := time
      payload := .telemetry {
        sourceTimestampS := 0
        telemetry := { state := .flying, groundTruthPositionM := some ⟨time, 0, 0⟩ } } }

theorem flightSamples_nearest :
    NearestPairing (telemetryOf flightSamples "sim02") (telemetryOf flightSamples "sim01")
      (pairedTelemetry (telemetryOf flightSamples "sim01") (telemetryOf flightSamples "sim02")) ∧
    ∃ vehicle metrics, fleetMetrics flightSamples [] [vehicle] = .ok metrics ∧
      LeastSeparation flightSamples metrics fun first second =>
        pairedTelemetry (telemetryOf flightSamples first) (telemetryOf flightSamples second) := by
  have ordered : flightSamples.Pairwise fun a b => a.recordedAtUtc ≤ b.recordedAtUtc := by decide
  have computed : okWith (do
      let vehicle ← vehicleMetrics plainHash.data ⟨[], [], "", []⟩ "sim01" ["run-1"] flightSamples
      fleetMetrics flightSamples [] [vehicle]) (fun _ => true) = true := by decide +kernel
  obtain ⟨metrics, measured, -⟩ := exists_of_okWith computed
  obtain ⟨vehicle, -, measured⟩ := bind_eq_ok.mp measured
  exact ⟨pairing_nearest.1 _ _ (telemetryOf_inOrder ordered _) (telemetryOf_inOrder ordered _),
    vehicle, metrics, measured, pairing_nearest.2 _ _ _ _ ordered measured⟩

end CrazySwarm.Evaluation
