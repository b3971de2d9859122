import CrazySwarm.CampaignWorkspaceRuns

/-! What an operation can change in the workspace. Every operation, whether it returns or raises, is
a sequence of changes of a few kinds; what holds of every reachable workspace is shown of each
kind. -/
namespace CrazySwarm

def LifecycleRecord.identity (record : LifecycleRecord) : LockedDevelopmentInputs :=
  ⟨record.caseId, record.caseSha256⟩

namespace CampaignWorkspace
open Call Relation

/-- The state becomes this, and is written. -/
def committed (w : CampaignWorkspace) (state : CampaignWorkspaceState) : CampaignWorkspace :=
  { w with state := state, persisted := some state }

def withRun (run : WorkspaceRun) (state : CampaignWorkspaceState) : CampaignWorkspaceState :=
  { state with runs := state.runs.map fun item => if item.runId = run.runId then run else item }

def withReview (review : WorkspaceReview) (state : CampaignWorkspaceState) :
    CampaignWorkspaceState :=
  { state with
    reviews := state.reviews.map fun item =>
      if item.reviewId = review.reviewId then review else item }

/-- The lifecycle records are those of the catalog, and only `run_active` has calls that wait. -/
structure Known (w : CampaignWorkspace) : Prop where
  identities : ∀ caseId, (w.state.lifecycle.get? caseId).map LifecycleRecord.identity =
    (w.catalog.get? caseId).map LockedDevelopmentInputs.fromCase
  keys : ∀ caseId authored, w.catalog.get? caseId = some authored → authored.caseId = caseId
  flights : ∀ flight ∈ w.inFlight, (∃ digest, flight.record.runId = "campaign-run-" ++ digest) ∧
    flight.record.missionExecutionId = none ∧ flight.record.lockedInputs = .fromCase flight.case ∧
    w.catalog.get? flight.case.caseId = some flight.case

def Operation.Records (digests : CampaignDigests) (operation : Operation) (runId execution : String)
    (artifactHash : String) (files : EvidenceFiles) : Prop :=
  match operation with
  | .executorReturned returned artifacts => runId = returned ∧
    execution = artifacts.missionExecutionId ∧ files = artifacts.files ∧
    artifactHash = digests.executedArtifacts files
  | .importArtifacts request => runId = importedRunId artifactHash ∧
    execution = request.missionExecutionId ∧ files = request.files ∧
    artifactHash = digests.importedArtifacts files
  | _ => False

structure Imports (digests : CampaignDigests) (w : CampaignWorkspace) (request : ImportRequest) :
    Prop where
  unreviewed : ∀ review ∈ w.state.reviews,
    review.artifactSetSha256 ≠ digests.importedArtifacts request.files
  known : (w.catalog.get? request.caseId).isSome
  parsed : request.parsed = .ok ()
  execution : request.missionExecutionId ≠ "" ∧ isIdentifier request.missionExecutionId
  planned : ∃ planSha256, request.planned = .ok planSha256

def Operation.Reads : Operation → Prop
  | .executorReturned _ artifacts =>
    artifacts.csvMatches = true ∧ ∃ analyzed, artifacts.analyzed = .ok analyzed
  | _ => True

def Operation.chooses : Operation → Bool
  | .setLifecycleState .. => true
  | _ => false

/-- A record that moves on, other than by being selected. -/
structure Advances (reviews : List WorkspaceReview) (chosen : Bool) (old new : LifecycleRecord) :
    Prop where
  identity : new.identity = old.identity
  development : new.state = .activeDevelopment → old.state = .activeDevelopment
  baseline : new.baselineSha256 = old.baselineSha256 ∨ ∃ review ∈ reviews,
    review.caseId = old.caseId ∧ review.caseSha256 = old.caseSha256 ∧
      new.baselineSha256 = some review.artifactSetSha256
  baselined : new.state = .baselined →
    old.state = .baselined ∨ chosen = true ∨ new.baselineSha256.isSome

structure Selects (selected caseId : String) (old new : LifecycleRecord) : Prop where
  identity : new.identity = old.identity
  development : new.state = .activeDevelopment → caseId = selected
  baseline : new.baselineSha256 = old.baselineSha256
  baselined : new.state = .baselined → old.state = .baselined

/-- Where a run that is written comes from: the runs, or a call that has waited. -/
def Source (before w : CampaignWorkspace) (run : WorkspaceRun) : Prop :=
  ∃ old, (old ∈ w.state.runs ∨ (w.state.runs = before.state.runs ∧
      ∃ flight ∈ before.inFlight, flight.record = old)) ∧
    old.runId = run.runId ∧ old.lockedInputs = run.lockedInputs

inductive Change (digests : CampaignDigests) (audit : CatalogCase → Except CampaignRaised Unit)
    (before : CampaignWorkspace) (operation : Operation) :
    CampaignWorkspace → CampaignWorkspace → Prop where
  | calls {w inFlight cancelled}
      (kept : ∀ flight ∈ inFlight, ∃ old ∈ w.inFlight,
        old.record = flight.record ∧ old.case = flight.case) :
      Change digests audit before operation w
        { w with inFlight := inFlight, cancelled := cancelled }
  | queued {w request authored planSha256} (asked : operation = .requestRun request)
      (first : w.state = before.state)
      (unkeyed : w.state.idempotency.get? request.idempotencyKey = none)
      (known : w.catalog.get? authored.caseId = some authored) :
      Change digests audit before operation w (w.committed { w.state with
        runs := w.state.runs ++ [queuedRun request authored planSha256]
        idempotency := w.state.idempotency.insert request.idempotencyKey request.runId })
  | departed {w request authored planSha256} (asked : operation = .requestRun request)
      (unkeyed : before.state.idempotency.get? request.idempotencyKey = none)
      (runs : w.state.runs = before.state.runs ++ [queuedRun request authored planSha256])
      (reviews : w.state.reviews = before.state.reviews)
      (known : w.catalog.get? authored.caseId = some authored) :
      Change digests audit before operation w { w with
        inFlight := w.inFlight ++
          [{ record := queuedRun request authored planSha256, case := authored }] }
  | updated {w run} (source : Source before w run)
      (execution : (∃ old ∈ w.state.runs, old.runId = run.runId ∧
          old.missionExecutionId = run.missionExecutionId) ∨
        (run.missionExecutionId = none ∧ w.state.reviews = before.state.reviews ∧
          ∃ flight ∈ before.inFlight, flight.record.runId = run.runId)) :
      Change digests audit before operation w (w.committed (withRun run w.state))
  | imported {w request authored planSha256} (asked : operation = .importArtifacts request)
      (first : w.state = before.state)
      (imports : Imports digests before request)
      (known : w.catalog.get? authored.caseId = some authored) :
      Change digests audit before operation w { w with
        state := { w.state with
          runs := w.state.runs ++ [importedRun request authored
            (digests.importedArtifacts request.files) planSha256] } }
  | stored {w run execution artifactHash files} (source : Source before w run)
      (records : operation.Records digests run.runId execution artifactHash files)
      (own : run.missionExecutionId = some execution)
      (others : ∀ item ∈ w.state.runs, item ∈ before.state.runs ∨ item.runId = run.runId)
      (reads : operation.Reads)
      (reviews : w.state.reviews = before.state.reviews)
      (present : (∃ request, operation = .importArtifacts request ∧ Imports digests before request) ∨
        ∃ flight ∈ before.inFlight, flight.record.runId = run.runId) :
      Change digests audit before operation w { w.committed (withRun run w.state) with
        evidence := w.evidence.insert execution files }
  | reviewed {w review record execution artifactHash files}
      (records : operation.Records digests review.runId execution artifactHash files)
      (hash : review.artifactSetSha256 = artifactHash)
      (bound : review.reviewSha256 = digests.payload review.intakePayload)
      (fresh : review.operatorObservations = [] ∧ review.approval = none)
      (named : review.reviewId = "review-" ++ digests.review review.runId artifactHash)
      (reviews : w.state.reviews = before.state.reviews)
      (landed : ∀ flight ∈ w.inFlight, flight.record.runId ≠ review.runId)
      (finished : ∀ run ∈ w.state.runs, run.runId = review.runId →
        run.missionExecutionId = some execution ∧
          run.lockedInputs = ⟨review.caseId, review.caseSha256⟩)
      (present : ((∃ request, operation = .importArtifacts request ∧ Imports digests before request) ∧
          ∃ run ∈ w.state.runs, run.runId = review.runId) ∨
        ((∃ flight ∈ before.inFlight, flight.record.runId = review.runId) ∧
          ∀ run ∈ before.state.runs, ∃ item ∈ w.state.runs, item.runId = run.runId))
      (evidence : w.evidence.get? execution = some files)
      (found : w.state.lifecycle.get? review.caseId = some record) :
      Change digests audit before operation w (w.committed { w.state with
        reviews := w.state.reviews ++ [review]
        lifecycle := w.state.lifecycle.insert review.caseId
          { record with runIds := record.runIds ++ [review.runId] } })
  | replaced {w review updated} (member : review ∈ w.state.reviews)
      (same : updated.reviewId = review.reviewId ∧ updated.runId = review.runId ∧
        updated.caseId = review.caseId ∧ updated.caseSha256 = review.caseSha256 ∧
        updated.artifactSetSha256 = review.artifactSetSha256)
      (bound : updated.reviewSha256 = digests.payload updated.canonicalPayload)
      (touched : updated.operatorObservations ≠ [] ∨ updated.approval ≠ none) :
      Change digests audit before operation w (w.committed (withReview updated w.state))
  | lifecycle {w caseId old new active locked}
      (found : w.state.lifecycle.get? caseId = some old)
      (advances : Advances w.state.reviews operation.chooses old new)
      (authority : (active = w.state.activeCaseId ∧ locked = w.state.lockedInputs) ∨
        (w.state.activeCaseId = some caseId ∧ active = none ∧ locked = none ∧
          new.state ≠ .activeDevelopment)) :
      Change digests audit before operation w (w.committed { w.state with
        lifecycle := w.state.lifecycle.insert caseId new
        activeCaseId := active
        lockedInputs := locked })
  | selected {w caseId authored lifecycle}
      (known : w.catalog.get? caseId = some authored)
      (forward : ∀ other old, w.state.lifecycle.get? other = some old →
        ∃ new, lifecycle.get? other = some new ∧ Selects caseId other old new)
      (backward : ∀ other new, lifecycle.get? other = some new →
        ∃ old, w.state.lifecycle.get? other = some old ∧ Selects caseId other old new) :
      Change digests audit before operation w (w.committed { w.state with
        activeCaseId := some caseId
        lockedInputs := some (.fromCase authored)
        lifecycle := lifecycle })
  | snapshots {w snapshots}
      (named : ∀ snapshot ∈ snapshots, (∃ old ∈ w.state.snapshots, old.runId = snapshot.runId) ∨
        ∃ run ∈ w.state.runs, run.runId = snapshot.runId) :
      Change digests audit before operation w (w.committed { w.state with snapshots := snapshots })
  | childFile {w child caseId} (key : child.caseId = caseId) :
      Change digests audit before operation w { w with
        children := w.children.insert caseId child }
  | adopted {w child} (unknown : w.catalog.get? child.caseId = none) (audited : audit child = .ok ())
      (file : w.children.get? child.caseId = some child) :
      Change digests audit before operation w ({ w with
        catalog := w.catalog.insert child.caseId child }.committed { w.state with
          lifecycle := w.state.lifecycle.insert child.caseId child.lifecycleRecord })
  | deleted {w runId run lifecycle} (asked : operation = .deleteRun runId) (first : w = before)
      (valid : validateRunDeletion runId w.state = .ok run)
      (found : w.state.lifecycleForRun run = .ok lifecycle) :
      Change digests audit before operation w ({ w with
        cancelled := w.cancelled.filter (· ≠ runId)
        evidence := run.missionExecutionId.elim w.evidence w.evidence.erase }.committed
          (withoutRun runId lifecycle.1 lifecycle.2 w.state))

section Known

variable {digests : CampaignDigests} {audit : CatalogCase → Except CampaignRaised Unit}
  {before w w' : CampaignWorkspace} {operation : Operation}

/-- A record that changes in place keeps the identities. -/
theorem Known.insert (known : Known w) {caseId : String} {old new : LifecycleRecord}
    (found : w.state.lifecycle.get? caseId = some old) (same : new.identity = old.identity)
    (other : String) :
    ((w.state.lifecycle.insert caseId new).get? other).map LifecycleRecord.identity =
      (w.catalog.get? other).map LockedDevelopmentInputs.fromCase := by
  rw [← known.identities other, Dict.get?_insert]
  by_cases here : caseId = other
  · subst here
    simp [found, same]
  · simp [here]

theorem Known.record (known : Known w) {caseId : String} {record : LifecycleRecord}
    (found : w.state.lifecycle.get? caseId = some record) :
    ∃ authored, w.catalog.get? caseId = some authored ∧ record.identity = .fromCase authored ∧
      record.caseId = caseId := by
  have same := known.identities caseId
  rw [found] at same
  obtain ⟨authored, present, eq⟩ := Option.map_eq_some_iff.mp same.symm
  refine ⟨authored, present, eq.symm, ?_⟩
  have key := congrArg LockedDevelopmentInputs.caseId eq
  exact key.symm.trans (known.keys caseId authored present)

theorem Known.lifecycle (known : Known w) {authored : CatalogCase}
    (found : w.catalog.get? authored.caseId = some authored) :
    ∃ record, w.state.lifecycle.get? authored.caseId = some record ∧
      record.identity = .fromCase authored := by
  have same := known.identities authored.caseId
  rw [found] at same
  exact Option.map_eq_some_iff.mp same

theorem lifecycleForRun_cases {state : CampaignWorkspaceState} {run : WorkspaceRun}
    {lifecycle : LifecycleRecord × Bool} (found : state.lifecycleForRun run = .ok lifecycle) :
    (state.lifecycle.get? run.lockedInputs.caseId = some lifecycle.1 ∧
      lifecycle.1.caseSha256 = run.lockedInputs.caseSha256 ∧ lifecycle.2 = false) ∨
      lifecycle.2 = true := by
  have historical : CampaignWorkspaceState.lifecycleForRun.historical state run = .ok lifecycle →
      lifecycle.2 = true := by
    unfold CampaignWorkspaceState.lifecycleForRun.historical
    intro read
    split at read
    · cases read
      rfl
    · cases read
  unfold CampaignWorkspaceState.lifecycleForRun at found
  split at found
  · next current present =>
    split at found
    · next same =>
      cases found
      exact .inl ⟨present, same, rfl⟩
    · exact .inr (historical found)
  · exact .inr (historical found)

theorem withoutRun_identities (known : Known w) {runId : String} {run : WorkspaceRun}
    {lifecycle : LifecycleRecord × Bool}
    (found : w.state.lifecycleForRun run = .ok lifecycle) (caseId : String) :
    ((withoutRun runId lifecycle.1 lifecycle.2 w.state).lifecycle.get? caseId).map
        LifecycleRecord.identity =
      (w.catalog.get? caseId).map LockedDevelopmentInputs.fromCase := by
  rcases lifecycleForRun_cases found with ⟨present, -, current⟩ | historical
  · obtain ⟨-, -, -, key⟩ := known.record present
    have same : (recordWithoutRun runId lifecycle.1).caseId = run.lockedInputs.caseId := key
    simp only [withoutRun, current, Bool.false_eq_true, if_false, same]
    refine known.insert present ?_ caseId
    rfl
  · simp only [withoutRun, historical, if_true]
    exact known.identities caseId

theorem selected_identities {caseId : String} {before after : Dict String LifecycleRecord}
    (forward : ∀ other old, before.get? other = some old →
      ∃ new, after.get? other = some new ∧ Selects caseId other old new)
    (backward : ∀ other new, after.get? other = some new →
      ∃ old, before.get? other = some old ∧ Selects caseId other old new) (other : String) :
    (after.get? other).map LifecycleRecord.identity =
      (before.get? other).map LifecycleRecord.identity := by
  cases found : before.get? other with
  | none =>
    cases later : after.get? other with
    | none => rfl
    | some new =>
      obtain ⟨old, present, -⟩ := backward other new later
      rw [found] at present
      cases present
  | some old =>
    obtain ⟨new, present, selects⟩ := forward other old found
    simp [present, selects.identity]

theorem Change.known (change : Change digests audit before operation w w') (known : Known w) :
    Known w' := by
  cases change with
  | calls kept =>
    refine ⟨known.identities, known.keys, fun flight member => ?_⟩
    obtain ⟨old, present, record, authored⟩ := kept flight member
    rw [← record, ← authored]
    exact known.flights old present
  | queued => exact ⟨known.identities, known.keys, known.flights⟩
  | departed _ _ _ _ authored =>
    refine ⟨known.identities, known.keys, fun flight member => ?_⟩
    rcases List.mem_append.mp member with old | new
    · exact known.flights flight old
    · cases List.mem_singleton.mp new
      exact ⟨⟨_, rfl⟩, rfl, rfl, authored⟩
  | updated => exact ⟨known.identities, known.keys, known.flights⟩
  | imported => exact ⟨known.identities, known.keys, known.flights⟩
  | stored => exact ⟨known.identities, known.keys, known.flights⟩
  | reviewed _ _ _ _ _ _ _ _ _ _ found =>
    exact ⟨known.insert found rfl, known.keys, known.flights⟩
  | replaced => exact ⟨known.identities, known.keys, known.flights⟩
  | lifecycle found advances _ =>
    exact ⟨known.insert found advances.identity, known.keys, known.flights⟩
  | selected _ forward backward =>
    refine ⟨fun other => ?_, known.keys, known.flights⟩
    refine (Eq.trans ?_ (known.identities other))
    exact selected_identities forward backward other
  | snapshots => exact ⟨known.identities, known.keys, known.flights⟩
  | childFile => exact ⟨known.identities, known.keys, known.flights⟩
  | @adopted child unknown _ _ =>
    refine ⟨fun other => ?_, fun other authored found => ?_, fun flight member => ?_⟩
    · have same := known.identities other
      simp only [committed, Dict.get?_insert]
      split
      · rfl
      · exact same
    · simp only [committed, Dict.get?_insert] at found
      split at found
      · next here => cases found; exact here
      · exact known.keys other authored found
    · obtain ⟨digest, execution, locked, authored⟩ := known.flights flight member
      refine ⟨digest, execution, locked, ?_⟩
      have apart : child.caseId ≠ flight.case.caseId := by
        intro same
        rw [← same, unknown] at authored
        cases authored
      simp only [committed, Dict.get?_insert_of_ne _ _ apart]
      exact authored
  | deleted _ _ _ found =>
    exact ⟨withoutRun_identities known found, known.keys, known.flights⟩

theorem Change.catalog (change : Change digests audit before operation w w') {caseId : String}
    {authored : CatalogCase} (found : w.catalog.get? caseId = some authored) :
    w'.catalog.get? caseId = some authored := by
  cases change with
  | @adopted child unknown _ _ =>
    have apart : child.caseId ≠ caseId := by
      rintro rfl
      rw [unknown] at found
      cases found
    exact (Dict.get?_insert_of_ne _ _ apart).trans found
  | _ => exact found

/-- What a change keeps, a sequence of changes keeps. -/
theorem Change.chain {I : CampaignWorkspace → Prop}
    (kept : ∀ {w w'}, Change digests audit before operation w w' → I w → I w')
    (changes : ReflTransGen (Change digests audit before operation) w w') (initial : I w) : I w' := by
  induction changes with
  | refl => exact initial
  | tail _ last ih => exact kept last ih

end Known

end CampaignWorkspace
end CrazySwarm
