import CrazySwarm.Evaluation

/-! The order of the evidence does not matter to an evaluation, as long as its runs can be read:
it goes through the sorted events, runs and annotations alone. -/
namespace CrazySwarm.Evaluation
open PyData (field)

variable {F : Type} [PyBuiltins F] {hash : CanonicalHash F} {missionExecutionId : String}
  {runs permutedRuns : List (EvaluatedRun F)} {events permutedEvents : List (RecordedEvent F)}
  {context : PyMapping F} {annotations permutedAnnotations : List (PyMapping F)}
  {evaluation : MissionExecutionEvaluation F}

/-- The JSON text of the run is missing, malformed, or an object. -/
def IsReadable (run : EvaluatedRun F) : Prop :=
  match run.result.or run.snapshot with
  | .absent | .malformed | .data (.mapping _) => True
  | .data _ => False

section Orders

theorem orderedEvents_congr (distinct : (events.map (·.eventId)).Nodup)
    (perm : permutedEvents.Perm events) : orderedEvents permutedEvents = orderedEvents events := by
  refine Sorting.sortBy_congr eventOrder ?_ perm
  refine List.pairwise_map.mpr ((List.pairwise_map.mp distinct).imp fun {a b} apart same => apart ?_)
  have ids := congrArg (fun key => (ofLex (ofLex (ofLex (ofLex key).2).2).2).2) same
  exact ids

omit [PyBuiltins F] in
theorem readAnnotation_ok {item : PyMapping F} {parsed : OperatorAnnotation}
    (ok : readAnnotation item = .ok parsed) :
    (item.get "annotation_id").asText = some parsed.annotationId := by
  unfold readAnnotation at ok
  dsimp only at ok
  split at ok
  · rename_i annotationId _ _ _ read _ _ _ _
    injection ok with ok
    subst ok
    unfold readText at read
    split at read
    · rename_i value found
      split at read
      · injection read with read
        simp [PyMapping.get, PyMapping.getD, found, PyData.asText, read]
      · contradiction
    · contradiction
  · contradiction

/-- Annotations that can be read have texts for their identifiers, so distinct identifiers give
distinct keys. -/
theorem annotationOrder_nodup (distinct : (annotations.map (·.get "annotation_id")).Nodup)
    (texts : ∀ item ∈ annotations, (item.get "annotation_id").asText.isSome = true) :
    (annotations.map annotationOrder).Nodup := by
  refine List.pairwise_map.mpr ?_
  refine (List.pairwise_map.mp distinct).imp_of_mem fun {a b} among among' apart same => apart ?_
  obtain ⟨name, left⟩ := Option.isSome_iff_exists.mp (texts a among)
  obtain ⟨name', right⟩ := Option.isSome_iff_exists.mp (texts b among')
  exact PyData.eq_of_str_eq left right (congrArg (fun key => (ofLex key).2) same)

theorem parsedAnnotations_congr {parsed : List OperatorAnnotation}
    (ok : parsedAnnotations annotations = .ok parsed)
    (distinct : (annotations.map (·.get "annotation_id")).Nodup)
    (perm : permutedAnnotations.Perm annotations) :
    parsedAnnotations permutedAnnotations = .ok parsed := by
  unfold parsedAnnotations at ok ⊢
  split at ok
  · rename_i identified
    have texts : ∀ item ∈ annotations, (item.get "annotation_id").asText.isSome = true := by
      intro item among
      obtain ⟨parsed, -, read⟩ :=
        exists_of_mem_items ok ((Sorting.mem_sortBy annotationOrder).mpr among)
      simp [readAnnotation_ok read]
    have identified' : (permutedAnnotations.all fun item => item.keys.contains "annotation_id") = true := by
      rw [List.all_eq_true] at identified ⊢
      exact fun item among => identified item (perm.mem_iff.mp among)
    rw [if_pos identified', Sorting.sortBy_congr annotationOrder (annotationOrder_nodup distinct texts) perm]
    exact ok
  · contradiction

end Orders

section Runs

theorem runHasProvenance_ok {run : EvaluatedRun F} :
    IsReadable run ↔ ∃ provenance, runHasProvenance run = .ok provenance := by
  unfold IsReadable runHasProvenance
  cases run.result.or run.snapshot with
  | absent => simp
  | malformed => simp
  | data value => cases value <;> simp

theorem allM_provenance (readable : ∀ run ∈ runs, IsReadable run) :
    runs.allM runHasProvenance = .ok (runs.all fun run => okWith (runHasProvenance run) id) := by
  induction runs with
  | nil => rfl
  | cons run rest ih =>
    obtain ⟨provenance, held⟩ := runHasProvenance_ok.mp (readable run List.mem_cons_self)
    have others := ih fun other among => readable other (List.mem_cons_of_mem _ among)
    cases provenance with
    | false => simp [List.allM, held, bind, Except.bind, okWith, pure, Except.pure]
    | true => simpa [List.allM, held, bind, Except.bind, okWith] using others

theorem all_congr {α : Type} {items permuted : List α} (perm : permuted.Perm items) (test : α → Bool) :
    permuted.all test = items.all test := by
  rw [Bool.eq_iff_iff, List.all_eq_true, List.all_eq_true]
  exact ⟨fun all item among => all item (perm.mem_iff.mpr among),
    fun all item among => all item (perm.mem_iff.mp among)⟩

omit [PyBuiltins F] in
theorem runVehicles_congr (perm : permutedRuns.Perm runs) :
    runVehicles permutedRuns = runVehicles runs :=
  Sorting.sortBy_id_congr (perm.map (·.vehicleId)).dedup

omit [PyBuiltins F] in
theorem runIdsOf_congr (perm : permutedRuns.Perm runs) (vehicleId : String) :
    runIdsOf permutedRuns vehicleId = runIdsOf runs vehicleId :=
  Sorting.sortBy_id_congr ((perm.filter _).map (·.runId))

theorem evidenceChecks_congr (perm : permutedRuns.Perm runs)
    (readable : ∀ run ∈ runs, IsReadable run) (vehicleCount : Nat)
    (vehicles : List (VehicleExecutionMetrics F)) :
    evidenceChecks permutedRuns events context vehicleCount vehicles =
      evidenceChecks runs events context vehicleCount vehicles := by
  have readable' : ∀ run ∈ permutedRuns, IsReadable run :=
    fun run among => readable run (perm.mem_iff.mp among)
  simp only [evidenceChecks, allM_provenance readable, allM_provenance readable', all_congr perm]

end Runs

section Evaluations

theorem evaluateMissionExecution_ok
    (returned : evaluateMissionExecution hash missionExecutionId runs events context annotations =
      .ok evaluation) :
    (∃ parsed, parsedAnnotations annotations = .ok parsed) ∧
      ∃ provenance, runs.allM runHasProvenance = .ok provenance := by
  unfold evaluateMissionExecution at returned
  obtain ⟨_, -, returned⟩ := bind_eq_ok.mp returned
  obtain ⟨accepted, -, returned⟩ := bind_eq_ok.mp returned
  obtain ⟨vehicles, -, returned⟩ := bind_eq_ok.mp returned
  obtain ⟨checks, checked, returned⟩ := bind_eq_ok.mp returned
  obtain ⟨parsed, read, -⟩ := bind_eq_ok.mp returned
  unfold evidenceChecks at checked
  obtain ⟨dynamicReplanning, -, checked⟩ := bind_eq_ok.mp checked
  obtain ⟨provenance, asked, -⟩ := bind_eq_ok.mp checked
  exact ⟨⟨parsed, read⟩, provenance, asked⟩

theorem evaluateMissionExecution_congr (perm : permutedRuns.Perm runs)
    (readable : ∀ run ∈ runs, IsReadable run)
    (ordered : orderedEvents permutedEvents = orderedEvents events)
    (parsed : parsedAnnotations permutedAnnotations = parsedAnnotations annotations) :
    evaluateMissionExecution hash missionExecutionId permutedRuns permutedEvents context
        permutedAnnotations =
      evaluateMissionExecution hash missionExecutionId runs events context annotations := by
  have empty : permutedRuns.isEmpty = runs.isEmpty := by
    rw [Bool.eq_iff_iff, List.isEmpty_iff, List.isEmpty_iff]
    exact ⟨fun none' => by simpa [none'] using perm.symm, fun none' => by simpa [none'] using perm⟩
  simp only [evaluateMissionExecution, empty, ordered, parsed, runVehicles_congr perm,
    runIdsOf_congr perm, evidenceChecks_congr perm readable,
    Sorting.sortBy_id_congr (perm.map (·.runId))]

/-- For an evaluation that is returned, every order of the runs, of the events and of the annotations
gives it too exactly when each run can be read: a run whose JSON text is not an object raises,
unless a run without provenance comes first. -/
theorem evaluation_order_iff
    (returned : evaluateMissionExecution hash missionExecutionId runs events context annotations =
      .ok evaluation)
    (distinctEvents : (events.map (·.eventId)).Nodup)
    (distinctAnnotations : (annotations.map (·.get "annotation_id")).Nodup) :
    (∀ (permutedRuns : List (EvaluatedRun F)) (permutedEvents : List (RecordedEvent F))
        (permutedAnnotations : List (PyMapping F)), permutedRuns.Perm runs →
        permutedEvents.Perm events → permutedAnnotations.Perm annotations →
          evaluateMissionExecution hash missionExecutionId permutedRuns permutedEvents context
            permutedAnnotations = .ok evaluation) ↔
      ∀ run ∈ runs, IsReadable run := by
  constructor
  · intro same run among
    obtain ⟨before, after, rfl⟩ := List.append_of_mem among
    have first := same (run :: (before ++ after)) events annotations List.perm_middle.symm (.refl _)
      (.refl _)
    obtain ⟨-, provenance, asked⟩ := evaluateMissionExecution_ok first
    rw [List.allM] at asked
    obtain ⟨own, held, -⟩ := bind_eq_ok.mp asked
    exact runHasProvenance_ok.mpr ⟨own, held⟩
  · intro readable permutedRuns permutedEvents permutedAnnotations runsPerm eventsPerm annotationsPerm
    obtain ⟨⟨parsed, read⟩, -⟩ := evaluateMissionExecution_ok returned
    have same := parsedAnnotations_congr read distinctAnnotations annotationsPerm
    rw [evaluateMissionExecution_congr runsPerm readable (orderedEvents_congr distinctEvents eventsPerm)
      (same.trans read.symm)]
    exact returned

end Evaluations

section Samples

def plainHash : CanonicalHash ℚ where
  data _ := .ok (String.ofList (List.replicate 64 'a'))
  report _ := .ok (String.ofList (List.replicate 64 'b'))

def provenance : PyMapping ℚ :=
  [("configuration_hash", .text "c"), ("mission_runtime_id", .text "sim"),
   ("vehicle_adapter", .text "sim")]

def sampleEvent (eventId vehicleId : String) (recordedAtUtc : Int) (payload : EvidencePayload ℚ) :
    RecordedEvent ℚ :=
  { eventId, sequence := 1, vehicleId, runId := "run-1", recordedAtUtc, payload }

/-- Two runs and three events of two vehicles. -/
theorem evaluation_order_readable : ∃ evaluation : MissionExecutionEvaluation ℚ,
    (∀ (permutedRuns : List (EvaluatedRun ℚ)) (permutedEvents : List (RecordedEvent ℚ))
        (permutedAnnotations : List (PyMapping ℚ)),
        permutedRuns.Perm
          [⟨"run-1", "sim01", some "SUCCEEDED", .data (.mapping provenance), .absent⟩,
            ⟨"run-2", "sim02", none, .absent, .malformed⟩] →
        permutedEvents.Perm
          [sampleEvent "event-2" "sim02" 5 (.telemetry ⟨1, { state := .flying }⟩),
            sampleEvent "event-1" "sim01" 5 (.command "command-1" .stopAndHold),
            sampleEvent "event-3" "sim01" 4 (.acknowledgement "command-1")] →
        permutedAnnotations.Perm [] →
          evaluateMissionExecution plainHash "flight-1" permutedRuns permutedEvents []
            permutedAnnotations = .ok evaluation) ↔
      ∀ run ∈ [(⟨"run-1", "sim01", some "SUCCEEDED", .data (.mapping provenance), .absent⟩ :
          EvaluatedRun ℚ), ⟨"run-2", "sim02", none, .absent, .malformed⟩], IsReadable run := by
  have computed : okWith (evaluateMissionExecution plainHash "flight-1"
      [⟨"run-1", "sim01", some "SUCCEEDED", .data (.mapping provenance), .absent⟩,
        ⟨"run-2", "sim02", none, .absent, .malformed⟩]
      [sampleEvent "event-2" "sim02" 5 (.telemetry ⟨1, { state := .flying }⟩),
        sampleEvent "event-1" "sim01" 5 (.command "command-1" .stopAndHold),
        sampleEvent "event-3" "sim01" 4 (.acknowledgement "command-1")] [] [])
      (fun _ => true) = true := by decide +kernel
  obtain ⟨evaluation, returned, -⟩ := exists_of_okWith computed
  exact ⟨evaluation, evaluation_order_iff returned (by decide) List.nodup_nil⟩

/-- A run whose result is `null` raises, unless a run without provenance is asked before it. -/
theorem not_evaluation_order :
    ¬ ∀ (runs permutedRuns : List (EvaluatedRun ℚ)) (events permutedEvents : List (RecordedEvent ℚ))
      (annotations permutedAnnotations : List (PyMapping ℚ)), permutedRuns.Perm runs →
        permutedEvents.Perm events → permutedAnnotations.Perm annotations →
          (events.map (·.eventId)).Nodup → (annotations.map (·.get "annotation_id")).Nodup →
            ∀ evaluation, evaluateMissionExecution plainHash "flight-1" runs events [] annotations =
              .ok evaluation →
              evaluateMissionExecution plainHash "flight-1" permutedRuns permutedEvents []
                permutedAnnotations = .ok evaluation := by
  intro same
  have computed : okWith (evaluateMissionExecution plainHash "flight-1"
      [⟨"run-1", "sim01", none, .absent, .malformed⟩,
        ⟨"run-2", "sim01", some "SUCCEEDED", .data .none, .absent⟩] [] [] [])
      (fun _ => true) = true := by decide
  have raised : okWith (evaluateMissionExecution plainHash "flight-1"
      [⟨"run-2", "sim01", some "SUCCEEDED", .data .none, .absent⟩,
        ⟨"run-1", "sim01", none, .absent, .malformed⟩] [] [] [])
      (fun _ => true) = false := by decide
  obtain ⟨evaluation, returned, -⟩ := exists_of_okWith computed
  have other := same _ [⟨"run-2", "sim01", some "SUCCEEDED", .data .none, .absent⟩,
    ⟨"run-1", "sim01", none, .absent, .malformed⟩] [] [] [] [] (List.Perm.swap _ _ _) (.refl _)
      (.refl _) List.nodup_nil List.nodup_nil evaluation returned
  rw [other] at raised
  contradiction

end Samples

end CrazySwarm.Evaluation
