import CrazySwarm.EvaluationOrder

/-! What an evaluation with complete evidence says of the vehicles. The checks of commands,
acknowledgements and telemetry go over the vehicles that have events, and the check of authority
over those that have runs. -/
namespace CrazySwarm.Evaluation

variable {F : Type} [PyBuiltins F] {hash : CanonicalHash F} {missionExecutionId : String}
  {runs : List (EvaluatedRun F)} {events : List (RecordedEvent F)} {context : PyMapping F}
  {annotations : List (PyMapping F)} {evaluation : MissionExecutionEvaluation F}

section Statement

def HasEvent (events : List (RecordedEvent F)) (vehicleId : String)
    (kind : EvidencePayload F → Bool) : Prop :=
  ∃ event ∈ events, event.vehicleId = vehicleId ∧ kind event.payload = true

/-- Each vehicle that has a run has a command, an acknowledgement and telemetry. -/
def Covered (runs : List (EvaluatedRun F)) (events : List (RecordedEvent F)) : Prop :=
  ∀ run ∈ runs, HasEvent events run.vehicleId (·.isCommand) ∧
    HasEvent events run.vehicleId (·.isAcknowledgement) ∧
      HasEvent events run.vehicleId (·.isTelemetry)

/-- The trajectory command of the vehicle refers to the plan that was accepted, or to a replacement
that was. -/
def Resolves (hash : CanonicalHash F) (context : PyMapping F) (events : List (RecordedEvent F))
    (vehicleId : String) (command : ExecuteTrajectoryCommand F) : Prop :=
  ∃ accepted authority, evaluationPlan hash context = .ok accepted ∧
    acceptedAuthority (eventsOf (orderedEvents events) vehicleId) accepted.plan
        accepted.acceptedPlanSha256 accepted.replacementAuthorities = .ok authority ∧
      commandResolves hash.data authority command = .ok true

def CommandsResolve (hash : CanonicalHash F) (context : PyMapping F)
    (events : List (RecordedEvent F)) (kind : String → Prop) : Prop :=
  ∀ event ∈ events, kind event.vehicleId → ∀ commandId command,
    event.payload = .command commandId (.executeTrajectory command) →
      Resolves hash context events event.vehicleId command

end Statement

section Identity

theorem mem_trajectoryCommands {event : RecordedEvent F} {commandId : String}
    {command : ExecuteTrajectoryCommand F} (among : event ∈ events)
    (sent : event.payload = .command commandId (.executeTrajectory command)) :
    ∃ later, (commandId, command, later) ∈ trajectoryCommands events := by
  induction events with
  | nil => contradiction
  | cons first rest ih =>
    rw [trajectoryCommands]
    obtain rfl | among := List.mem_cons.mp among
    · rw [sent]
      exact ⟨rest, List.mem_cons_self⟩
    · obtain ⟨later, found⟩ := ih among
      split
      · exact ⟨later, List.mem_cons_of_mem _ found⟩
      · exact ⟨later, found⟩

theorem selectedMetrics_resolves {canonicalSha256 : PyData F → Except DataError String}
    {authority : AcceptedAuthority F}
    {selected : List (String × ExecuteTrajectoryCommand F × List (RecordedEvent F))}
    {metrics : TrajectoryMetrics F}
    (measured : selectedMetrics canonicalSha256 authority selected = .ok metrics)
    (matched : metrics.identityMatch ≠ some false) :
    ∀ item ∈ selected, commandResolves canonicalSha256 authority item.2.1 = .ok true := by
  unfold selectedMetrics at measured
  obtain ⟨resolved, each, measured⟩ := bind_eq_ok.mp measured
  injection measured with measured
  subst measured
  have all : resolved.all id = true := by simpa using matched
  intro item among
  obtain ⟨result, member, held⟩ := exists_of_mem_items each among
  rwa [show result = true from List.all_eq_true.mp all result member] at held

theorem trajectoryMetrics_resolves {canonicalSha256 : PyData F → Except DataError String}
    {plan : PyMapping F} {acceptedPlanSha256 : String} {replacements : List ReplacementAuthority}
    {metrics : TrajectoryMetrics F}
    (measured : trajectoryMetrics canonicalSha256 events plan acceptedPlanSha256 replacements =
      .ok metrics)
    (matched : metrics.identityMatch ≠ some false) :
    ∀ item ∈ trajectoryCommands events, ∃ authority,
      acceptedAuthority events plan acceptedPlanSha256 replacements = .ok authority ∧
        commandResolves canonicalSha256 authority item.2.1 = .ok true := by
  unfold trajectoryMetrics at measured
  split at measured
  · rename_i none'
    simp [none']
  · obtain ⟨authority, accepted, measured⟩ := bind_eq_ok.mp measured
    exact fun item among => ⟨authority, accepted, selectedMetrics_resolves measured matched item among⟩

theorem checkedModel_ok {α : Type} {model : String} {checks : List (String × Bool)} {value result : α}
    (ok : checkedModel model checks value = .ok result) : result = value := by
  unfold checkedModel at ok
  split at ok
  · injection ok with ok
    exact ok.symm
  · contradiction

theorem vehicleMetrics_identity {canonicalSha256 : PyData F → Except DataError String}
    {accepted : EvaluationPlan F} {vehicleId : String} {runIds : List String}
    {metrics : VehicleExecutionMetrics F}
    (measured : vehicleMetrics canonicalSha256 accepted vehicleId runIds events = .ok metrics) :
    ∃ trajectories, trajectoryMetrics canonicalSha256 events accepted.plan
        accepted.acceptedPlanSha256 accepted.replacementAuthorities = .ok trajectories ∧
      metrics.acceptedPlanIdentityMatch = trajectories.identityMatch := by
  unfold vehicleMetrics at measured
  obtain ⟨trajectories, found, measured⟩ := bind_eq_ok.mp measured
  obtain ⟨audit, -, measured⟩ := bind_eq_ok.mp measured
  refine ⟨trajectories, found, ?_⟩
  rw [checkedModel_ok measured]

end Identity

section Checks

omit [PyBuiltins F] in
theorem evidenceCompleteness_complete {checks : List (String × Bool)}
    (complete : (evidenceCompleteness checks).complete = true) :
    ∀ check ∈ checks, check.2 = true := by
  intro check among
  by_contra failed
  have missing : check.1 ∈ Sorting.sortBy id ((checks.filter (!·.2)).map (·.1)) := by
    rw [Sorting.mem_sortBy]
    exact List.mem_map_of_mem (List.mem_filter.mpr ⟨among, by simpa using failed⟩)
  rw [evidenceCompleteness, List.isEmpty_iff] at complete
  rw [complete] at missing
  contradiction

theorem mem_orderedEvents {event : RecordedEvent F} :
    event ∈ orderedEvents events ↔ event ∈ events := Sorting.mem_sortBy eventOrder

theorem eachVehicleHas_covers {kind : EvidencePayload F → Bool} {vehicleId : String}
    (checked : eachVehicleHas (orderedEvents events) kind = true) :
    (∃ event ∈ events, event.vehicleId = vehicleId) → HasEvent events vehicleId kind := by
  rintro ⟨event, among, rfl⟩
  have seen : event.vehicleId ∈ vehiclesSeen (orderedEvents events) :=
    List.mem_dedup.mpr (List.mem_map_of_mem (mem_orderedEvents.mpr among))
  obtain ⟨found, own, held⟩ := List.any_eq_true.mp (List.all_eq_true.mp checked _ seen)
  obtain ⟨listed, same⟩ := List.mem_filter.mp own
  exact ⟨found, mem_orderedEvents.mp listed, by simpa using same, held⟩

theorem evaluateMissionExecution_complete
    (returned : evaluateMissionExecution hash missionExecutionId runs events context annotations =
      .ok evaluation)
    (complete : evaluation.status = .complete) :
    eachVehicleHas (orderedEvents events) (·.isCommand) = true ∧
      eachVehicleHas (orderedEvents events) (·.isAcknowledgement) = true ∧
      eachVehicleHas (orderedEvents events) (·.isTelemetry) = true ∧
      ∃ accepted, evaluationPlan hash context = .ok accepted ∧
        ∀ run ∈ runs, ∃ runIds metrics,
          vehicleMetrics hash.data accepted run.vehicleId runIds
            (eventsOf (orderedEvents events) run.vehicleId) = .ok metrics ∧
          metrics.acceptedPlanIdentityMatch ≠ some false := by
  unfold evaluateMissionExecution at returned
  obtain ⟨_, -, returned⟩ := bind_eq_ok.mp returned
  obtain ⟨accepted, planned, returned⟩ := bind_eq_ok.mp returned
  obtain ⟨vehicles, measured, returned⟩ := bind_eq_ok.mp returned
  obtain ⟨checks, checked, returned⟩ := bind_eq_ok.mp returned
  obtain ⟨parsed, -, returned⟩ := bind_eq_ok.mp returned
  obtain ⟨fleet, -, returned⟩ := bind_eq_ok.mp returned
  obtain ⟨reportSha256, -, returned⟩ := bind_eq_ok.mp returned
  have whole : (evidenceCompleteness checks).complete = true := by
    rw [checkedModel_ok returned] at complete
    by_contra failed
    simp [failed] at complete
  have passed := evidenceCompleteness_complete whole
  unfold evidenceChecks at checked
  obtain ⟨dynamicReplanning, -, checked⟩ := bind_eq_ok.mp checked
  obtain ⟨provenance, -, checked⟩ := bind_eq_ok.mp checked
  injection checked with checked
  subst checked
  have commands := passed ("commands", eachVehicleHas (orderedEvents events) (·.isCommand)) (by simp)
  have acknowledgements := passed
    ("acknowledgements", eachVehicleHas (orderedEvents events) (·.isAcknowledgement)) (by simp)
  have telemetry := passed
    ("telemetry", eachVehicleHas (orderedEvents events) (·.isTelemetry)) (by simp)
  refine ⟨commands, acknowledgements, telemetry, accepted, planned, fun run among => ?_⟩
  have listed : run.vehicleId ∈ runVehicles runs :=
    (Sorting.mem_sortBy id).mpr (List.mem_dedup.mpr (List.mem_map_of_mem among))
  obtain ⟨metrics, member, own⟩ := exists_of_mem_items measured listed
  have identities := passed ("accepted_authority_identity", _) List.mem_cons_self
  exact ⟨_, metrics, own, by simpa using List.all_eq_true.mp identities metrics member⟩

/-- The evidence of a complete evaluation covers every vehicle that has a run, and every trajectory
command resolves, exactly when each of these vehicles has an event at all and the commands of the
other vehicles resolve. -/
theorem complete_evidence_iff
    (returned : evaluateMissionExecution hash missionExecutionId runs events context annotations =
      .ok evaluation)
    (complete : evaluation.status = .complete) :
    (Covered runs events ∧ CommandsResolve hash context events fun _ => True) ↔
      (∀ run ∈ runs, ∃ event ∈ events, event.vehicleId = run.vehicleId) ∧
        CommandsResolve hash context events fun vehicleId => ∀ run ∈ runs, run.vehicleId ≠ vehicleId := by
  obtain ⟨commands, acknowledgements, telemetry, accepted, planned, vehicles⟩ :=
    evaluateMissionExecution_complete returned complete
  constructor
  · rintro ⟨covered, resolve⟩
    refine ⟨fun run among => ?_, fun event among _ => resolve event among trivial⟩
    obtain ⟨event, seen, same, -⟩ := (covered run among).1
    exact ⟨event, seen, same⟩
  · rintro ⟨seen, others⟩
    refine ⟨fun run among => ⟨eachVehicleHas_covers commands (seen run among),
      eachVehicleHas_covers acknowledgements (seen run among),
      eachVehicleHas_covers telemetry (seen run among)⟩, ?_⟩
    intro event among _ commandId command sent
    by_cases flown : ∃ run ∈ runs, run.vehicleId = event.vehicleId
    · obtain ⟨run, listed, same⟩ := flown
      obtain ⟨runIds, metrics, measured, matched⟩ := vehicles run listed
      obtain ⟨trajectories, found, identity⟩ := vehicleMetrics_identity measured
      have own : event ∈ eventsOf (orderedEvents events) run.vehicleId :=
        List.mem_filter.mpr ⟨mem_orderedEvents.mpr among, by simpa using same.symm⟩
      obtain ⟨later, selected⟩ := mem_trajectoryCommands own sent
      obtain ⟨authority, held, resolved⟩ :=
        trajectoryMetrics_resolves found (identity ▸ matched) _ selected
      exact ⟨accepted, authority, planned, same ▸ held, resolved⟩
    · exact others event among (fun run listed same => flown ⟨run, listed, same⟩) commandId command sent

end Checks

section Samples

/-- A context with everything that the checks ask of one. -/
def fullContext : PyMapping ℚ :=
  [("mission_plan", .mapping [("plan_id", .text "plan-1")]),
   ("binding", .mapping [("backend", .text "FAST_SIM")]),
   ("deployment", .mapping [("deployment_id", .text "d")]),
   ("execution_result", .mapping [("status", .text "SUCCEEDED")]),
   ("fleet_events", .list [.text "MISSION_STARTED"])]

def finishedRun (runId vehicleId : String) : EvaluatedRun ℚ where
  runId
  vehicleId
  status := some "SUCCEEDED"
  result := .data (.mapping provenance)

/-- A command, its acknowledgement and a sample of one vehicle. -/
def fullEvidence : List (RecordedEvent ℚ) :=
  [sampleEvent "event-1" "sim01" 1 (.command "command-1" .stopAndHold),
   sampleEvent "event-2" "sim01" 2 (.telemetry ⟨1, { state := .flying }⟩),
   sampleEvent "event-3" "sim01" 3 (.acknowledgement "command-1")]

theorem complete_evidence_single : ∃ evaluation : MissionExecutionEvaluation ℚ,
    evaluation.status = .complete ∧
      ((Covered [finishedRun "run-1" "sim01"] fullEvidence ∧
          CommandsResolve plainHash fullContext fullEvidence fun _ => True) ↔
        (∀ run ∈ [finishedRun "run-1" "sim01"], ∃ event ∈ fullEvidence,
            event.vehicleId = run.vehicleId) ∧
          CommandsResolve plainHash fullContext fullEvidence fun vehicleId =>
            ∀ run ∈ [finishedRun "run-1" "sim01"], run.vehicleId ≠ vehicleId) := by
  have computed : okWith (evaluateMissionExecution plainHash "flight-1" [finishedRun "run-1" "sim01"]
      fullEvidence fullContext []) (fun evaluation => evaluation.status = .complete) = true := by
    decide +kernel
  obtain ⟨evaluation, returned, complete⟩ := exists_of_okWith computed
  have complete := of_decide_eq_true complete
  exact ⟨evaluation, complete, complete_evidence_iff returned complete⟩

/-- The evidence of two runs is complete although one of the vehicles has no event. -/
theorem not_complete_evidence :
    ¬ ∀ (runs : List (EvaluatedRun ℚ)) (events : List (RecordedEvent ℚ)) (context : PyMapping ℚ)
      (annotations : List (PyMapping ℚ)) (evaluation : MissionExecutionEvaluation ℚ),
      evaluateMissionExecution plainHash "flight-1" runs events context annotations = .ok evaluation →
        evaluation.status = .complete →
          Covered runs events ∧ CommandsResolve plainHash context events fun _ => True := by
  intro covers
  have computed : okWith (evaluateMissionExecution plainHash "flight-1"
      [finishedRun "run-1" "sim01", finishedRun "run-2" "sim02"] fullEvidence fullContext [])
      (fun evaluation => evaluation.status = .complete) = true := by decide +kernel
  obtain ⟨evaluation, returned, complete⟩ := exists_of_okWith computed
  have covered := (covers _ _ _ _ evaluation returned (of_decide_eq_true complete)).1
  obtain ⟨event, among, same, -⟩ := (covered (finishedRun "run-2" "sim02") (by simp)).1
  simp only [fullEvidence, List.mem_cons, List.not_mem_nil, or_false] at among
  obtain rfl | rfl | rfl := among
  all_goals simp [sampleEvent, finishedRun] at same

end Samples

end CrazySwarm.Evaluation
