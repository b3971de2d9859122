import CrazySwarm.CampaignWorkspaceConsistency

/-! The evidence of a run is filed under its mission execution, and an import names the execution
itself. Where every run has an execution of its own, no operation touches the evidence of another
run, and what a review has been made from can be read back. -/
namespace CrazySwarm
namespace CampaignWorkspace
open Call Relation

variable {digests : CampaignDigests} {audit : CatalogCase → Except CampaignRaised Unit}
  {before w w' : CampaignWorkspace} {operation : Operation}

section Statement

variable (digests : CampaignDigests)

def Operation.subject : Operation → Option String
  | .executorReturned runId _ | .deleteRun runId => some runId
  | .importArtifacts request => some (importedRunId (digests.importedArtifacts request.files))
  | _ => none

def Unshared (w : CampaignWorkspace) (runId execution : String) : Prop :=
  ∀ run ∈ w.state.runs, run.missionExecutionId = some execution → run.runId = runId

def Separate (w : CampaignWorkspace) : Operation → Prop
  | .executorReturned runId artifacts => (∃ flight ∈ w.inFlight, flight.record.runId = runId) →
      Operation.Reads (.executorReturned runId artifacts) →
      Unshared w runId artifacts.missionExecutionId
  | .importArtifacts request => Imports digests w request →
      Unshared w (importedRunId (digests.importedArtifacts request.files)) request.missionExecutionId
  | _ => True

/-- The operation leaves the evidence of the runs that it is not about. -/
def Isolates (audit : CatalogCase → Except CampaignRaised Unit) (w : CampaignWorkspace)
    (operation : Operation) : Prop :=
  ∀ run ∈ w.state.runs, operation.subject digests ≠ some run.runId →
    ∀ execution, run.missionExecutionId = some execution →
      (step digests audit w operation).evidence.get? execution = w.evidence.get? execution

/-- The files hash to what the review names, the way its run has been recorded. -/
def Attests (files : EvidenceFiles) (review : WorkspaceReview) : Prop :=
  (review.runId = importedRunId review.artifactSetSha256 ∧
      digests.importedArtifacts files = review.artifactSetSha256) ∨
    ((∃ digest, review.runId = "campaign-run-" ++ digest) ∧
      digests.executedArtifacts files = review.artifactSetSha256)

/-- The run of the review has the files that the review is about. -/
def Attested (w : CampaignWorkspace) (review : WorkspaceReview) : Prop :=
  ∃ run ∈ w.state.runs, run.runId = review.runId ∧
    ∃ execution files, run.missionExecutionId = some execution ∧
      w.evidence.get? execution = some files ∧ Attests digests files review

end Statement

/-- No two runs have one execution. -/
def Apart (w : CampaignWorkspace) : Prop :=
  ∀ run ∈ w.state.runs, ∀ execution, run.missionExecutionId = some execution →
    Unshared w run.runId execution

section Isolation

theorem Separate.unshared (separate : Separate digests before operation) (known : Known before)
    {runId execution artifactHash : String} {files : EvidenceFiles}
    (records : operation.Records digests runId execution artifactHash files)
    (reads : operation.Reads)
    (present : (∃ request, operation = .importArtifacts request ∧ Imports digests before request) ∨
      ∃ flight ∈ before.inFlight, flight.record.runId = runId) : Unshared before runId execution := by
  cases operation with
  | importArtifacts request =>
    have imports := imports_of_records known records present
    obtain ⟨rfl, rfl, rfl, rfl⟩ := records
    exact separate imports
  | executorReturned returned artifacts =>
    obtain ⟨rfl, rfl, rfl, rfl⟩ := records
    rcases present with ⟨_, same, -⟩ | waiting
    · cases same
    · exact separate waiting reads
  | _ => exact absurd records id

theorem Operation.Records.subject {runId execution artifactHash : String} {files : EvidenceFiles}
    (records : operation.Records digests runId execution artifactHash files) :
    operation.subject digests = some runId := by
  cases operation with
  | importArtifacts request =>
    obtain ⟨rfl, rfl, rfl, rfl⟩ := records
    rfl
  | executorReturned returned artifacts => exact congrArg some records.1.symm
  | _ => exact absurd records id

theorem withRun_cases {run item : WorkspaceRun} {state : CampaignWorkspaceState}
    (member : item ∈ (withRun run state).runs) :
    item = run ∨ (item ∈ state.runs ∧ item.runId ≠ run.runId) := by
  obtain ⟨old, present, rfl⟩ := List.mem_map.mp member
  split
  · exact .inl rfl
  · next apart => exact .inr ⟨present, apart⟩

theorem Apart.of_origin (apart : Apart w)
    (origin : ∀ item ∈ w'.state.runs, ∀ execution, item.missionExecutionId = some execution →
      ∃ old ∈ w.state.runs, old.runId = item.runId ∧ old.missionExecutionId = some execution) :
    Apart w' := by
  intro first member execution named second member' named'
  obtain ⟨old, present, runId, held⟩ := origin first member execution named
  obtain ⟨old', present', runId', held'⟩ := origin second member' execution named'
  rw [← runId, ← runId']
  exact apart old present execution held old' present' held'

theorem Apart.of_unshared (apart : Apart w) (run : WorkspaceRun)
    (unshared : ∀ execution, run.missionExecutionId = some execution → Unshared w run.runId execution)
    (origin : ∀ item ∈ w'.state.runs, item = run ∨ item ∈ w.state.runs) : Apart w' := by
  intro first member execution named second member' named'
  rcases origin first member with rfl | old <;> rcases origin second member' with rfl | old'
  · rfl
  · exact unshared execution named second old' named'
  · exact (unshared execution named' first old named).symm
  · exact apart first old execution named second old' named'

theorem Change.apart (change : Change digests audit before operation w w') (known : Known before)
    (separate : Separate digests before operation) (apart : Apart w) : Apart w' := by
  cases change with
  | queued =>
    refine apart.of_unshared _ ?_ fun item member =>
      (List.mem_append.mp member).symm.imp List.mem_singleton.mp id
    exact nofun
  | @updated run _ execution =>
    refine apart.of_origin fun item member key named => ?_
    rcases withRun_cases member with rfl | ⟨present, -⟩
    · rcases execution with ⟨old, present, runId, same⟩ | ⟨unexecuted, -⟩
      · exact ⟨old, present, runId, same.trans named⟩
      · cases unexecuted.symm.trans named
    · exact ⟨item, present, rfl, named⟩
  | @imported request authored planSha256 asked first imports =>
    subst asked
    refine apart.of_unshared _ ?_ fun item member =>
      (List.mem_append.mp member).symm.imp List.mem_singleton.mp id
    · intro execution named
      cases named
      unfold Unshared
      rw [first]
      exact separate imports
  | @stored run execution _ _ _ records own others reads _ present =>
    have unshared := separate.unshared known records reads present
    refine apart.of_unshared run ?_ fun item member => ?_
    · intro key named item member held
      cases own.symm.trans named
      rcases others item member with old | same
      · exact unshared item old held
      · exact same
    · exact (withRun_cases member).imp id And.left
  | deleted =>
    exact apart.of_origin fun item member execution named =>
      ⟨item, List.mem_of_mem_filter member, rfl, named⟩
  | _ => exact apart

theorem Change.isolates (change : Change digests audit before operation w w') (known : Known before)
    (separate : Separate digests before operation) (apart : Apart before) :
    ∀ run ∈ before.state.runs, operation.subject digests ≠ some run.runId →
      ∀ execution, run.missionExecutionId = some execution →
        w'.evidence.get? execution = w.evidence.get? execution := by
  intro item member other key named
  cases change with
  | @stored run execution _ _ _ records _ _ reads _ present =>
    refine Dict.get?_insert_of_ne _ _ ?_
    rintro rfl
    have same := separate.unshared known records reads present item member named
    exact other (same ▸ records.subject)
  | @deleted runId run _ asked first valid _ =>
    subst asked first
    obtain ⟨listed, here, -⟩ := validateRunDeletion_eq_ok valid
    simp only [committed]
    cases executed : run.missionExecutionId with
    | none => rfl
    | some execution =>
      have distinct : execution ≠ key := by
        rintro rfl
        have same := apart run listed execution executed item member named
        exact other (congrArg some (here.symm.trans same.symm))
      exact (Dict.get?_erase _ _ _).trans (if_neg distinct)
  | _ => rfl

end Isolation

section Attestation

variable {review : WorkspaceReview}

theorem Attested.of_run (attested : Attested digests w review)
    (kept : ∀ run ∈ w.state.runs, run.runId = review.runId → ∀ execution,
      run.missionExecutionId = some execution →
        (∃ new ∈ w'.state.runs, new.runId = run.runId ∧ new.missionExecutionId = some execution) ∧
          w'.evidence.get? execution = w.evidence.get? execution) : Attested digests w' review := by
  obtain ⟨run, member, runId, execution, files, named, found, attests⟩ := attested
  obtain ⟨⟨new, present, same, held⟩, evidence⟩ := kept run member runId execution named
  exact ⟨new, present, same.trans runId, execution, files, held, evidence.trans found, attests⟩

/-- Whether a review is attested depends on its run and on the hash that it names. -/
theorem Attested.congr {updated : WorkspaceReview} (attested : Attested digests w review)
    (runId : updated.runId = review.runId)
    (artifacts : updated.artifactSetSha256 = review.artifactSetSha256) :
    Attested digests w updated := by
  unfold Attested Attests at attested ⊢
  rw [runId, artifacts]
  exact attested

theorem attests_of_records (known : Known before) {execution artifactHash : String}
    {files : EvidenceFiles}
    (records : operation.Records digests review.runId execution artifactHash files)
    (hash : review.artifactSetSha256 = artifactHash)
    (present : (∃ request, operation = .importArtifacts request ∧ Imports digests before request) ∨
      ∃ flight ∈ before.inFlight, flight.record.runId = review.runId) :
    Attests digests files review := by
  subst hash
  cases operation with
  | importArtifacts request =>
    obtain ⟨runId, -, rfl, artifacts⟩ := records
    exact .inl ⟨runId, artifacts.symm⟩
  | executorReturned returned artifacts =>
    obtain ⟨-, -, rfl, hash⟩ := records
    rcases present with ⟨_, same, -⟩ | ⟨flight, waiting, same⟩
    · cases same
    · obtain ⟨⟨digest, named⟩, -⟩ := known.flights flight waiting
      exact .inr ⟨⟨digest, same.symm.trans named⟩, hash.symm⟩
  | _ => exact absurd records id

theorem Attested.updated (attested : Attested digests w review) (ledger : Ledger w)
    (initial : Ledger before) (member : review ∈ w.state.reviews) {run : WorkspaceRun}
    (execution : (∃ old ∈ w.state.runs, old.runId = run.runId ∧
        old.missionExecutionId = run.missionExecutionId) ∨
      (run.missionExecutionId = none ∧ w.state.reviews = before.state.reviews ∧
        ∃ flight ∈ before.inFlight, flight.record.runId = run.runId)) :
    Attested digests (w.committed (withRun run w.state)) review := by
  refine attested.of_run fun item present same key named => ⟨?_, rfl⟩
  refine ⟨_, List.mem_map_of_mem present, ?_⟩
  split
  · next here =>
    rcases execution with ⟨old, present', runId, held⟩ | ⟨-, reviews, flight, waiting, runId⟩
    · cases eq_of_key ledger.consistent.runIds present present' (here.trans runId.symm)
      exact ⟨here.symm, held.symm.trans named⟩
    · rw [reviews] at member
      have unreviewed := (initial.flights flight waiting).unreviewed review member
      exact absurd (same.symm.trans (here.trans runId.symm)) unreviewed
  · exact ⟨rfl, named⟩

theorem Attested.stored (attested : Attested digests w review) {run : WorkspaceRun}
    {execution : String} {files : EvidenceFiles} (unreviewed : review.runId ≠ run.runId)
    (unshared : Unshared w run.runId execution) :
    Attested digests { w.committed (withRun run w.state) with
      evidence := w.evidence.insert execution files } review := by
  refine attested.of_run fun item present same key named => ?_
  have apart : item.runId ≠ run.runId := fun here => unreviewed (same.symm.trans here)
  refine ⟨⟨item, List.mem_map.mpr ⟨item, present, if_neg apart⟩, rfl, named⟩, ?_⟩
  refine Dict.get?_insert_of_ne _ _ ?_
  rintro rfl
  exact apart (unshared item present named)

theorem Attested.deleted (attested : Attested digests w review) (apart : Apart w) {runId : String}
    {run : WorkspaceRun} {lifecycle : LifecycleRecord × Bool} {cancelled : List String}
    (valid : validateRunDeletion runId w.state = .ok run) (other : review.runId ≠ runId) :
    Attested digests ({ w with
      cancelled := cancelled
      evidence := run.missionExecutionId.elim w.evidence w.evidence.erase }.committed
        (withoutRun runId lifecycle.1 lifecycle.2 w.state)) review := by
  obtain ⟨listed, here, -⟩ := validateRunDeletion_eq_ok valid
  refine attested.of_run fun item present same key named => ⟨?_, ?_⟩
  · have stays : item.runId ≠ runId := fun here => other (same.symm.trans here)
    exact ⟨item, List.mem_filter.mpr ⟨present, by simpa using stays⟩, rfl, named⟩
  · simp only [committed]
    cases executed : run.missionExecutionId with
    | none => rfl
    | some execution =>
      have distinct : execution ≠ key := by
        rintro rfl
        have shared := apart run listed execution executed item present named
        exact other (same.symm.trans (shared.trans here))
      exact (Dict.get?_erase _ _ _).trans (if_neg distinct)

structure Evidenced (digests : CampaignDigests) (w : CampaignWorkspace) : Prop where
  known : Known w
  ledger : Ledger w
  apart : Apart w
  attested : ∀ review ∈ w.state.reviews, Attested digests w review

theorem Change.attested (change : Change digests audit before operation w w')
    (initial : Evidenced digests before) (orderly : Orderly digests before operation)
    (separate : Separate digests before operation) (held : Evidenced digests w) :
    ∀ review ∈ w'.state.reviews, Attested digests w' review := by
  have ended : Ledger w' :=
    (change.ledger ⟨initial.known, initial.ledger⟩ orderly ⟨held.known, held.ledger⟩).2
  have attested := held.attested
  intro review member
  cases change with
  | queued =>
    refine (attested review member).of_run fun run present _ _ named => ⟨?_, rfl⟩
    exact ⟨run, List.mem_append_left _ present, rfl, named⟩
  | imported =>
    refine (attested review member).of_run fun run present _ _ named => ⟨?_, rfl⟩
    exact ⟨run, List.mem_append_left _ present, rfl, named⟩
  | updated _ execution =>
    exact (attested review member).updated held.ledger initial.ledger member execution
  | @stored run execution _ _ _ records _ others reads reviews present =>
    have unshared := separate.unshared initial.known records reads present
    have unreviewed := recorded_unreviewed initial.known initial.ledger orderly records present
    rw [← reviews] at unreviewed
    refine (attested review member).stored (unreviewed review member) fun item listed named => ?_
    exact (others item listed).elim (fun old => unshared item old named) id
  | @reviewed new record execution _ files records hash _ _ _ _ _ finished present evidence _ =>
    rcases List.mem_append.mp member with old | last
    · exact attested review old
    · cases List.mem_singleton.mp last
      obtain ⟨run, listed, same⟩ := ended.consistent.reviews review member
      exact ⟨run, listed, same, execution, files, (finished run listed same).1, evidence,
        attests_of_records initial.known records hash (present.imp And.left And.left)⟩
  | @replaced old updated present same =>
    obtain ⟨earlier, listed, rfl⟩ := List.mem_map.mp member
    split
    · exact (attested old present).congr same.2.1 same.2.2.2.2
    · exact attested earlier listed
  | deleted asked first valid _ =>
    obtain ⟨present, apart⟩ := List.mem_filter.mp member
    exact (attested review present).deleted held.apart valid (by simpa using apart)
  | _ => exact attested review member

end Attestation

section Runs

theorem step_apart (known : Known w) (separate : Separate digests w operation) (apart : Apart w) :
    Apart (step digests audit w operation) := by
  have changes : ReflTransGen (Change digests audit w operation) w (step digests audit w operation) :=
    step_changes known operation
  exact Change.chain (fun change held => change.apart known separate held) changes apart

theorem step_isolates (known : Known w) (separate : Separate digests w operation) (apart : Apart w) :
    Isolates digests audit w operation := by
  intro run member other execution named
  have changes : ReflTransGen (Change digests audit w operation) w (step digests audit w operation) :=
    step_changes known operation
  refine Change.chain (I := fun w' => w'.evidence.get? execution = w.evidence.get? execution)
    (fun change held => ?_) changes rfl
  exact (change.isolates known separate apart run member other execution named).trans held

theorem step_evidenced (evidenced : Evidenced digests w) (orderly : Orderly digests w operation)
    (separate : Separate digests w operation) :
    Evidenced digests (step digests audit w operation) := by
  have changes : ReflTransGen (Change digests audit w operation) w (step digests audit w operation) :=
    step_changes evidenced.known operation
  refine Change.chain (fun change held => ?_) changes evidenced
  obtain ⟨known, ledger⟩ := change.ledger ⟨evidenced.known, evidenced.ledger⟩ orderly
    ⟨held.known, held.ledger⟩
  exact ⟨known, ledger, change.apart evidenced.known separate held.apart,
    change.attested evidenced orderly separate held⟩

theorem start_evidenced (cases : List CatalogCase) : Evidenced digests (start cases) := by
  refine ⟨start_known cases, start_ledger cases, ?_, ?_⟩
  · simp [Apart, start]
  · simp [start]

/-- In a run that records every run under an execution of its own, no operation touches the evidence of
a run that it is not about. Where it also makes no identifier twice and deletes no run whose call still
waits, every review, approved or not, has the evidence that it names. -/
theorem evidence_isolated (cases : List CatalogCase) (operations : List Operation)
    (separate : Runs.Along (step digests audit) (Separate digests) (start cases) operations) :
    Runs.Along (step digests audit) (Isolates digests audit) (start cases) operations ∧
    (Runs.Along (step digests audit) (Orderly digests) (start cases) operations →
      ∀ review ∈ (run digests audit (start cases) operations).state.reviews,
        Attested digests (run digests audit (start cases) operations) review) := by
  have initial : Evidenced digests (start cases) := start_evidenced cases
  constructor
  · refine Runs.along_of_invariant (I := fun w => Known w ∧ Apart w) ?_ ?_
      ⟨initial.known, initial.apart⟩ separate
    · rintro w operation ⟨known, apart⟩ separate
      exact ⟨step_known known operation, step_apart known separate apart⟩
    · rintro w operation ⟨known, apart⟩ separate
      exact step_isolates known separate apart
  · intro orderly
    have held : Evidenced digests (run digests audit (start cases) operations) := by
      refine Runs.invariant_along ?_ initial (orderly.and separate)
      rintro w operation evidenced ⟨orderly, separate⟩
      exact step_evidenced evidenced orderly separate
    exact held.attested

/-- Two imports with an execution each, and the second one deleted. -/
theorem evidence_isolated_two_imports :
    (hoverRun [hoverImport "m" "exec" (.ok hoverAnalyzed),
      hoverImport "n" "other" (.ok hoverAnalyzed)]).evidence.get? "exec" =
        some (hoverFiles "m") ∧
    Isolates hoverDigests (fun _ => .ok ()) (hoverRun [hoverImport "m" "exec" (.ok hoverAnalyzed),
      hoverImport "n" "other" (.ok hoverAnalyzed)]) (.deleteRun "imported-n") ∧
    ∀ review ∈ (hoverRun [hoverImport "m" "exec" (.ok hoverAnalyzed),
        hoverImport "n" "other" (.ok hoverAnalyzed), .deleteRun "imported-n"]).state.reviews,
      Attested hoverDigests (hoverRun [hoverImport "m" "exec" (.ok hoverAnalyzed),
        hoverImport "n" "other" (.ok hoverAnalyzed), .deleteRun "imported-n"]) review := by
  have separate : Runs.Along (step hoverDigests fun _ => .ok ()) (Separate hoverDigests)
      (start [hoverAuthored]) [hoverImport "m" "exec" (.ok hoverAnalyzed),
        hoverImport "n" "other" (.ok hoverAnalyzed), .deleteRun "imported-n"] := by
    refine ⟨fun _ => ?_, fun _ => ?_, trivial, trivial⟩
    · unfold Unshared
      decide
    · unfold Unshared
      decide
  have orderly : Runs.Along (step hoverDigests fun _ => .ok ()) (Orderly hoverDigests)
      (start [hoverAuthored]) [hoverImport "m" "exec" (.ok hoverAnalyzed),
        hoverImport "n" "other" (.ok hoverAnalyzed), .deleteRun "imported-n"] := by
    refine ⟨fun _ => ⟨?_, ?_⟩, fun _ => ⟨?_, ?_⟩, fun _ _ => ?_, trivial⟩ <;> decide
  obtain ⟨isolates, attested⟩ := evidence_isolated _ _ separate
  exact ⟨by decide, isolates.2.2.1, attested orderly⟩

/-- An import that names the execution of an approved run takes the place of its evidence. -/
theorem import_overwrites_evidence :
    let approved : List Operation := [hoverImport "m" "exec" (.ok hoverAnalyzed),
      .decideReview "review-imported-mm" ⟨"operator", .approve, "passed", none, "now"⟩]
    let overwriting := hoverImport "n" "exec" (.ok hoverAnalyzed)
    ¬ Isolates hoverDigests (fun _ => .ok ()) (hoverRun approved) overwriting ∧
      ∃ review ∈ (hoverRun (approved ++ [overwriting])).state.reviews,
        review.approval.isSome = true ∧
          ¬ Attested hoverDigests (hoverRun (approved ++ [overwriting])) review := by
  intro approved overwriting
  constructor
  · intro isolates
    have recorded : ∃ run ∈ (hoverRun approved).state.runs,
        overwriting.subject hoverDigests ≠ some run.runId ∧ run.missionExecutionId = some "exec" := by
      decide
    obtain ⟨run, member, other, named⟩ := recorded
    exact absurd (isolates run member other "exec" named) (by decide)
  · have reviewed : ∃ review ∈ (hoverRun (approved ++ [overwriting])).state.reviews,
        review.approval.isSome = true ∧ review.artifactSetSha256 = "m" := by decide
    have filed : ∀ run ∈ (hoverRun (approved ++ [overwriting])).state.runs,
        run.missionExecutionId = some "exec" := by decide
    have evidence : (hoverRun (approved ++ [overwriting])).evidence.get? "exec" =
        some (hoverFiles "n") := by decide
    obtain ⟨review, member, decided, hash⟩ := reviewed
    refine ⟨review, member, decided, ?_⟩
    rintro ⟨run, listed, -, execution, files, named, found, attests⟩
    cases (filed run listed).symm.trans named
    cases evidence.symm.trans found
    have same : "n" = "m" := by
      rw [← hash]
      exact attests.elim And.right And.right
    exact absurd same (by decide)

end Runs

end CampaignWorkspace
end CrazySwarm
