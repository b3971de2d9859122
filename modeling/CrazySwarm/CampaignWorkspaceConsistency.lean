import CrazySwarm.CampaignWorkspaceSteps

/-! The collections of the workspace refer to one another. The references hold in every run that makes
no identifier twice and deletes no run whose call still waits. -/
namespace CrazySwarm

def CampaignWorkspaceState.hasRun (state : CampaignWorkspaceState) (runId : String) : Prop :=
  ∃ run ∈ state.runs, run.runId = runId

structure CampaignWorkspaceState.Consistent (state : CampaignWorkspaceState) : Prop where
  runIds : (state.runs.map fun run => run.runId).Nodup
  reviews : ∀ review ∈ state.reviews, state.hasRun review.runId
  snapshots : ∀ snapshot ∈ state.snapshots, state.hasRun snapshot.runId
  idempotency : ∀ key runId, state.idempotency.get? key = some runId → state.hasRun runId
  development : ∀ caseId record, state.lifecycle.get? caseId = some record →
    record.state = .activeDevelopment →
      state.activeCaseId = some caseId ∧ state.lockedInputs = some record.identity

namespace CampaignWorkspace
open Call Relation

variable {digests : CampaignDigests} {audit : CatalogCase → Except CampaignRaised Unit}
  {before w w' : CampaignWorkspace} {operation : Operation}

/-- A run or a review that the operation records has a new identifier, and no call waits for a run that
it deletes. -/
def Orderly (digests : CampaignDigests) (w : CampaignWorkspace) : Operation → Prop
  | .requestRun request => w.state.idempotency.get? request.idempotencyKey = none →
      ∀ run ∈ w.state.runs, run.runId ≠ request.runId
  | .importArtifacts request => Imports digests w request →
      let artifactHash := digests.importedArtifacts request.files
      (∀ run ∈ w.state.runs, run.runId ≠ importedRunId artifactHash) ∧
        ∀ review ∈ w.state.reviews, review.reviewId ≠
          "review-" ++ digests.review (importedRunId artifactHash) artifactHash
  | .executorReturned runId artifacts => ∀ review ∈ w.state.reviews, review.reviewId ≠
      "review-" ++ digests.review runId (digests.executedArtifacts artifacts.files)
  | .deleteRun runId => ∀ run, validateRunDeletion runId w.state = .ok run →
      ∀ flight ∈ w.inFlight, flight.record.runId ≠ runId
  | _ => True

structure Waits (runs : List WorkspaceRun) (reviews : List WorkspaceReview) (record : WorkspaceRun) :
    Prop where
  present : ∃ run ∈ runs, run.runId = record.runId
  locked : ∀ run ∈ runs, run.runId = record.runId → run.lockedInputs = record.lockedInputs
  unreviewed : ∀ review ∈ reviews, review.runId ≠ record.runId

/-- The references, with what they need to last. -/
structure Ledger (w : CampaignWorkspace) : Prop where
  consistent : w.state.Consistent
  locked : ∀ review ∈ w.state.reviews, ∀ run ∈ w.state.runs, run.runId = review.runId →
    run.lockedInputs = ⟨review.caseId, review.caseSha256⟩
  reviewIds : (w.state.reviews.map fun review => review.reviewId).Nodup
  reviewed : (w.state.reviews.map fun review => review.runId).Nodup
  flights : ∀ flight ∈ w.inFlight, Waits w.state.runs w.state.reviews flight.record
  baselines : ∀ caseId record sha, w.state.lifecycle.get? caseId = some record →
    record.baselineSha256 = some sha → ∃ review ∈ w.state.reviews, review.caseId = caseId ∧
      review.caseSha256 = record.caseSha256 ∧ review.artifactSetSha256 = sha

section Collections

theorem eq_of_key {α : Type} {key : α → String} {items : List α} (distinct : (items.map key).Nodup)
    {first second : α} (member : first ∈ items) (member' : second ∈ items)
    (same : key first = key second) : first = second :=
  List.inj_on_of_nodup_map distinct member member' same

theorem nodup_append_fresh {α : Type} {key : α → String} {items : List α} {item : α}
    (distinct : (items.map key).Nodup) (fresh : ∀ old ∈ items, key old ≠ key item) :
    ((items ++ [item]).map key).Nodup := by
  rw [List.map_append, List.nodup_append]
  refine ⟨distinct, by simp, ?_⟩
  intro first listed second last
  obtain ⟨old, member, rfl⟩ := List.mem_map.mp listed
  cases List.mem_singleton.mp last
  exact fresh old member

theorem nodup_filter {α : Type} {key : α → String} {items : List α} (keep : α → Bool)
    (distinct : (items.map key).Nodup) : ((items.filter keep).map key).Nodup :=
  distinct.sublist (List.filter_sublist.map key)

theorem map_replaced {α : Type} (key value : α → String) {items : List α} {new : α}
    (same : ∀ item ∈ items, key item = key new → value item = value new) :
    (items.map fun item => if key item = key new then new else item).map value =
      items.map value := by
  rw [List.map_map]
  refine List.map_congr_left fun item member => ?_
  simp only [Function.comp]
  split
  · next here => exact (same item member here).symm
  · rfl

end Collections

section Runs

variable {run : WorkspaceRun}

/-- A run with a new identifier. -/
theorem Ledger.addRun (ledger : Ledger w) (fresh : ∀ old ∈ w.state.runs, old.runId ≠ run.runId) :
    Ledger { w with state := { w.state with runs := w.state.runs ++ [run] } } := by
  have consistent := ledger.consistent
  have kept : ∀ {runId}, w.state.hasRun runId →
      ({ w.state with runs := w.state.runs ++ [run] } : CampaignWorkspaceState).hasRun runId := by
    rintro _ ⟨old, member, rfl⟩
    exact ⟨old, List.mem_append_left _ member, rfl⟩
  have apart : ∀ {runId}, w.state.hasRun runId → run.runId ≠ runId := by
    rintro _ ⟨old, member, rfl⟩ same
    exact fresh old member same.symm
  refine { ledger with consistent := ?_, locked := ?_, flights := ?_ }
  · exact
      { consistent with
        runIds := nodup_append_fresh consistent.runIds fresh
        reviews := fun review member => kept (consistent.reviews review member)
        snapshots := fun snapshot member => kept (consistent.snapshots snapshot member)
        idempotency := fun key runId found => kept (consistent.idempotency key runId found) }
  · intro review member item listed same
    rcases List.mem_append.mp listed with old | new
    · exact ledger.locked review member item old same
    · cases List.mem_singleton.mp new
      exact absurd same (apart (consistent.reviews review member))
  · intro flight waiting
    have waits := ledger.flights flight waiting
    refine { waits with present := kept waits.present, locked := fun item listed same => ?_ }
    rcases List.mem_append.mp listed with old | new
    · exact waits.locked item old same
    · cases List.mem_singleton.mp new
      exact absurd same (apart waits.present)

theorem Ledger.writeRun (ledger : Ledger w)
    (locks : ∀ item ∈ w.state.runs, item.runId = run.runId → item.lockedInputs = run.lockedInputs) :
    Ledger (w.committed (withRun run w.state)) := by
  have consistent := ledger.consistent
  have kept : ∀ {runId}, w.state.hasRun runId → (withRun run w.state).hasRun runId := by
    rintro _ ⟨old, member, rfl⟩
    exact withRun_named run member
  have origin : ∀ item ∈ (withRun run w.state).runs, ∃ old ∈ w.state.runs,
      old.runId = item.runId ∧ old.lockedInputs = item.lockedInputs := by
    intro item listed
    obtain ⟨old, member, rfl⟩ := List.mem_map.mp listed
    refine ⟨old, member, ?_⟩
    split
    · next same => exact ⟨same, locks old member same⟩
    · exact ⟨rfl, rfl⟩
  refine { ledger with consistent := ?_, locked := ?_, flights := ?_ }
  · refine
      { consistent with
        runIds := ?_
        reviews := fun review member => kept (consistent.reviews review member)
        snapshots := fun snapshot member => kept (consistent.snapshots snapshot member)
        idempotency := fun key runId found => kept (consistent.idempotency key runId found) }
    simp only [committed, withRun]
    rw [map_replaced (fun item : WorkspaceRun => item.runId) (fun item => item.runId)
      fun _ _ same => same]
    exact consistent.runIds
  · intro review member item listed same
    obtain ⟨old, present, runId, lock⟩ := origin item listed
    rw [← lock]
    exact ledger.locked review member old present (runId.trans same)
  · intro flight waiting
    have waits := ledger.flights flight waiting
    refine { waits with present := kept waits.present, locked := fun item listed same => ?_ }
    obtain ⟨old, present, runId, lock⟩ := origin item listed
    rw [← lock]
    exact waits.locked old present (runId.trans same)

theorem Source.locks (source : Source before w run) (initial : Ledger before) (ledger : Ledger w) :
    ∀ item ∈ w.state.runs, item.runId = run.runId → item.lockedInputs = run.lockedInputs := by
  intro item member same
  obtain ⟨old, present | ⟨runs, flight, waiting, rfl⟩, runId, locked⟩ := source
  · rw [← locked, eq_of_key ledger.consistent.runIds member present (same.trans runId.symm)]
  · rw [runs] at member
    rw [← locked]
    exact (initial.flights flight waiting).locked item member (same.trans runId.symm)

end Runs

section Reviews

variable {review updated : WorkspaceReview}

/-- A review with a new identifier, of a run that has none. -/
theorem Ledger.addReview (ledger : Ledger w) (present : w.state.hasRun review.runId)
    (locked : ∀ run ∈ w.state.runs, run.runId = review.runId →
      run.lockedInputs = ⟨review.caseId, review.caseSha256⟩)
    (fresh : ∀ old ∈ w.state.reviews, old.reviewId ≠ review.reviewId ∧ old.runId ≠ review.runId)
    (landed : ∀ flight ∈ w.inFlight, flight.record.runId ≠ review.runId) :
    Ledger { w with state := { w.state with reviews := w.state.reviews ++ [review] } } where
  consistent :=
    { ledger.consistent with
      reviews := fun item listed => by
        rcases List.mem_append.mp listed with old | new
        · exact ledger.consistent.reviews item old
        · cases List.mem_singleton.mp new
          exact present }
  locked := by
    intro item listed
    rcases List.mem_append.mp listed with old | new
    · exact ledger.locked item old
    · cases List.mem_singleton.mp new
      exact locked
  reviewIds := nodup_append_fresh ledger.reviewIds fun old member => (fresh old member).1
  reviewed := nodup_append_fresh ledger.reviewed fun old member => (fresh old member).2
  flights := by
    intro flight waiting
    refine { ledger.flights flight waiting with unreviewed := fun item listed => ?_ }
    rcases List.mem_append.mp listed with old | new
    · exact (ledger.flights flight waiting).unreviewed item old
    · cases List.mem_singleton.mp new
      exact (landed flight waiting).symm
  baselines := by
    intro caseId record sha found bound
    obtain ⟨old, member, same⟩ := ledger.baselines caseId record sha found bound
    exact ⟨old, List.mem_append_left _ member, same⟩

theorem Ledger.writeReview (ledger : Ledger w) (member : review ∈ w.state.reviews)
    (same : updated.reviewId = review.reviewId ∧ updated.runId = review.runId ∧
      updated.caseId = review.caseId ∧ updated.caseSha256 = review.caseSha256 ∧
      updated.artifactSetSha256 = review.artifactSetSha256) :
    Ledger (w.committed (withReview updated w.state)) := by
  obtain ⟨reviewId, runId, caseId, caseSha256, artifacts⟩ := same
  have only : ∀ item ∈ w.state.reviews, item.reviewId = updated.reviewId → item = review :=
    fun item listed here => eq_of_key ledger.reviewIds listed member (here.trans reviewId)
  -- a review that is there now stands for one that was there
  have origin : ∀ item ∈ (withReview updated w.state).reviews, ∃ old ∈ w.state.reviews,
      old.runId = item.runId ∧ old.caseId = item.caseId ∧ old.caseSha256 = item.caseSha256 := by
    intro item listed
    obtain ⟨old, present, rfl⟩ := List.mem_map.mp listed
    refine ⟨old, present, ?_⟩
    split
    · next here =>
      rw [only old present here]
      exact ⟨runId.symm, caseId.symm, caseSha256.symm⟩
    · exact ⟨rfl, rfl, rfl⟩
  refine ⟨{ ledger.consistent with reviews := ?_ }, ?_, ?_, ?_, ?_, ?_⟩
  · intro item listed
    obtain ⟨old, present, runId, -⟩ := origin item listed
    rw [← runId]
    exact ledger.consistent.reviews old present
  · intro item listed
    obtain ⟨old, present, runId, caseId, caseSha256⟩ := origin item listed
    rw [← runId, ← caseId, ← caseSha256]
    exact ledger.locked old present
  · simp only [committed, withReview]
    rw [map_replaced (fun item : WorkspaceReview => item.reviewId) (fun item => item.reviewId)
      fun _ _ here => here]
    exact ledger.reviewIds
  · simp only [committed, withReview]
    rw [map_replaced (fun item : WorkspaceReview => item.reviewId) (fun item => item.runId)
      fun item listed here => by rw [only item listed here, runId]]
    exact ledger.reviewed
  · intro flight waiting
    refine { ledger.flights flight waiting with unreviewed := fun item listed => ?_ }
    obtain ⟨old, present, runId, -⟩ := origin item listed
    rw [← runId]
    exact (ledger.flights flight waiting).unreviewed old present
  · intro key record sha found bound
    obtain ⟨old, present, named, hash, artifact⟩ := ledger.baselines key record sha found bound
    refine ⟨_, List.mem_map_of_mem present, ?_⟩
    split
    · next here =>
      rw [only old present here] at named hash artifact
      exact ⟨caseId.trans named, caseSha256.trans hash, artifacts.trans artifact⟩
    · exact ⟨named, hash, artifact⟩

end Reviews

section Lifecycle

variable {caseId : String} {old new : LifecycleRecord} {active : Option String}
  {locked : Option LockedDevelopmentInputs}

/-- The run identifiers of a record are no reference that is followed. -/
theorem Ledger.writeRecord (ledger : Ledger w) (known : Known w)
    (found : w.state.lifecycle.get? caseId = some old)
    (identity : new.identity = old.identity)
    (development : new.state = .activeDevelopment → old.state = .activeDevelopment)
    (baseline : new.baselineSha256 = old.baselineSha256 ∨ ∃ review ∈ w.state.reviews,
      review.caseId = old.caseId ∧ review.caseSha256 = old.caseSha256 ∧
        new.baselineSha256 = some review.artifactSetSha256)
    (authority : (active = w.state.activeCaseId ∧ locked = w.state.lockedInputs) ∨
      (w.state.activeCaseId = some caseId ∧ active = none ∧ locked = none ∧
        new.state ≠ .activeDevelopment)) :
    Ledger { w with state := { w.state with
      lifecycle := w.state.lifecycle.insert caseId new
      activeCaseId := active
      lockedInputs := locked } } := by
  obtain ⟨-, -, -, key⟩ := known.record found
  have sha : new.caseSha256 = old.caseSha256 :=
    congrArg LockedDevelopmentInputs.caseSha256 identity
  refine { ledger with consistent := { ledger.consistent with development := ?_ }, baselines := ?_ }
  · intro other record present developing
    have before : ∃ earlier, w.state.lifecycle.get? other = some earlier ∧
        earlier.state = .activeDevelopment ∧ earlier.identity = record.identity := by
      rw [Dict.get?_insert] at present
      split at present
      · next here =>
        subst here
        cases present
        exact ⟨old, found, development developing, identity.symm⟩
      · exact ⟨record, present, developing, rfl⟩
    obtain ⟨earlier, listed, developed, same⟩ := before
    have held := ledger.consistent.development other earlier listed developed
    rw [same] at held
    rcases authority with ⟨rfl, rfl⟩ | ⟨selected, -, -, idle⟩
    · exact held
    · cases held.1.symm.trans selected
      rw [Dict.get?_insert_self] at present
      cases present
      exact absurd developing idle
  · intro other record bound present named
    rw [Dict.get?_insert] at present
    split at present
    · next here =>
      subst here
      cases present
      rcases baseline with same | ⟨review, member, case, hash, qualified⟩
      · rw [sha]
        exact ledger.baselines caseId old bound found (same.symm.trans named)
      · refine ⟨review, member, case.trans key, hash.trans sha.symm, ?_⟩
        exact Option.some.inj (qualified.symm.trans named)
    · exact ledger.baselines other record bound present named

theorem Ledger.select (ledger : Ledger w) (known : Known w) {authored : CatalogCase}
    {lifecycle : Dict String LifecycleRecord} (found : w.catalog.get? caseId = some authored)
    (backward : ∀ other new, lifecycle.get? other = some new →
      ∃ old, w.state.lifecycle.get? other = some old ∧ Selects caseId other old new) :
    Ledger { w with state := { w.state with
      activeCaseId := some caseId
      lockedInputs := some (.fromCase authored)
      lifecycle := lifecycle } } := by
  refine { ledger with consistent := { ledger.consistent with development := ?_ }, baselines := ?_ }
  · intro other record present developing
    obtain ⟨old, listed, selects⟩ := backward other record present
    obtain rfl := selects.development developing
    obtain ⟨authored', found', identity, -⟩ := known.record listed
    cases found.symm.trans found'
    exact ⟨rfl, by rw [selects.identity, identity]⟩
  · intro other record sha present named
    obtain ⟨old, listed, selects⟩ := backward other record present
    rw [show record.caseSha256 = old.caseSha256 from
      congrArg LockedDevelopmentInputs.caseSha256 selects.identity]
    exact ledger.baselines other old sha listed (selects.baseline.symm.trans named)

end Lifecycle

section Deletion

variable {runId : String} {run : WorkspaceRun} {lifecycle : LifecycleRecord × Bool}

theorem lifecycleForRun_current {state : CampaignWorkspaceState} {record : LifecycleRecord}
    (found : state.lifecycle.get? run.lockedInputs.caseId = some record)
    (same : record.caseSha256 = run.lockedInputs.caseSha256) :
    state.lifecycleForRun run = .ok (record, false) := by
  unfold CampaignWorkspaceState.lifecycleForRun
  rw [found]
  simp [same]

theorem validateRunDeletion_eq_ok {state : CampaignWorkspaceState}
    (valid : validateRunDeletion runId state = .ok run) :
    run ∈ state.runs ∧ run.runId = runId ∧ ∃ lifecycle, state.lifecycleForRun run = .ok lifecycle ∧
      ∀ review, state.reviewOfRun runId = some review → review.approval = none ∧
        lifecycle.1.baselineSha256 ≠ some review.artifactSetSha256 := by
  unfold validateRunDeletion at valid
  split at valid
  · cases valid
  · next found =>
    obtain ⟨_, -, valid⟩ := bind_eq_ok.mp valid
    obtain ⟨lifecycle, read, valid⟩ := bind_eq_ok.mp valid
    obtain ⟨_, free, valid⟩ := bind_eq_ok.mp valid
    cases valid
    refine ⟨List.mem_of_find?_eq_some found, by simpa using List.find?_some found, lifecycle, read, ?_⟩
    intro review present
    rw [require_eq_ok, present] at free
    simpa using free

theorem withoutRun_origin (known : Known w) (found : w.state.lifecycleForRun run = .ok lifecycle)
    {caseId : String} {new : LifecycleRecord}
    (present : (withoutRun runId lifecycle.1 lifecycle.2 w.state).lifecycle.get? caseId = some new) :
    ∃ old, w.state.lifecycle.get? caseId = some old ∧ new.identity = old.identity ∧
      new.state = old.state ∧ new.baselineSha256 = old.baselineSha256 := by
  rcases lifecycleForRun_cases found with ⟨current, -, here⟩ | historical
  · obtain ⟨-, -, -, key⟩ := known.record current
    simp only [withoutRun, here, Bool.false_eq_true, if_false, recordWithoutRun, Dict.get?_insert]
      at present
    split at present
    · next same =>
      cases present
      rw [key] at same
      exact ⟨lifecycle.1, same ▸ current, rfl, rfl, rfl⟩
    · exact ⟨new, present, rfl, rfl, rfl⟩
  · simp only [withoutRun, historical, if_true] at present
    exact ⟨new, present, rfl, rfl, rfl⟩

theorem Ledger.baseline_kept (ledger : Ledger w) (valid : validateRunDeletion runId w.state = .ok run)
    {caseId : String} {record : LifecycleRecord} {review : WorkspaceReview}
    (found : w.state.lifecycle.get? caseId = some record) (member : review ∈ w.state.reviews)
    (named : review.caseId = caseId ∧ review.caseSha256 = record.caseSha256)
    (baseline : record.baselineSha256 = some review.artifactSetSha256) : review.runId ≠ runId := by
  intro same
  obtain ⟨listed, here, lifecycle, read, free⟩ := validateRunDeletion_eq_ok valid
  have locked := ledger.locked review member run listed (here.trans same.symm)
  have current : w.state.lifecycleForRun run = .ok (record, false) := by
    refine lifecycleForRun_current ?_ ?_
    · rw [locked, named.1]
      exact found
    · rw [locked, named.2]
  cases read.symm.trans current
  have own : w.state.reviewOfRun runId = some review := by
    cases first : w.state.reviewOfRun runId with
    | none =>
      have absent := List.find?_eq_none.mp first review member
      simp [same] at absent
    | some other =>
      have runOf : other.runId = runId := by simpa using List.find?_some first
      rw [eq_of_key ledger.reviewed (List.mem_of_find?_eq_some first) member (runOf.trans same.symm)]
  exact (free review own).2 baseline

theorem Ledger.deleteRun {evidence : Dict String EvidenceFiles} {cancelled : List String}
    (ledger : Ledger w) (known : Known w) (valid : validateRunDeletion runId w.state = .ok run)
    (found : w.state.lifecycleForRun run = .ok lifecycle)
    (idle : ∀ flight ∈ w.inFlight, flight.record.runId ≠ runId) :
    Ledger ({ w with cancelled := cancelled, evidence := evidence }.committed
      (withoutRun runId lifecycle.1 lifecycle.2 w.state)) := by
  have consistent := ledger.consistent
  have kept : ∀ {other}, other ≠ runId → w.state.hasRun other →
      (withoutRun runId lifecycle.1 lifecycle.2 w.state).hasRun other := by
    rintro _ apart ⟨old, member, rfl⟩
    exact ⟨old, List.mem_filter.mpr ⟨member, by simpa using apart⟩, rfl⟩
  refine ⟨⟨nodup_filter _ consistent.runIds, ?_, ?_, ?_, ?_⟩, ?_, nodup_filter _ ledger.reviewIds,
    nodup_filter _ ledger.reviewed, ?_, ?_⟩
  · intro review listed
    obtain ⟨member, apart⟩ := List.mem_filter.mp listed
    exact kept (by simpa using apart) (consistent.reviews review member)
  · intro snapshot listed
    obtain ⟨member, apart⟩ := List.mem_filter.mp listed
    exact kept (by simpa using apart) (consistent.snapshots snapshot member)
  · intro key other bound
    obtain ⟨present, apart⟩ := (Dict.get?_filterValues_eq_some_iff _).mp bound
    exact kept (by simpa using apart) (consistent.idempotency key other present)
  · intro caseId new present developing
    obtain ⟨old, listed, identity, state, -⟩ := withoutRun_origin known found present
    rw [identity]
    exact consistent.development caseId old listed (state.symm.trans developing)
  · intro review listed item listed'
    exact ledger.locked review (List.mem_of_mem_filter listed) item (List.mem_of_mem_filter listed')
  · intro flight waiting
    have waits := ledger.flights flight waiting
    exact ⟨kept (idle flight waiting) waits.present,
      fun item listed => waits.locked item (List.mem_of_mem_filter listed),
      fun review listed => waits.unreviewed review (List.mem_of_mem_filter listed)⟩
  · intro caseId new sha present named
    obtain ⟨old, listed, identity, -, baseline⟩ := withoutRun_origin known found present
    have hash : new.caseSha256 = old.caseSha256 :=
      congrArg LockedDevelopmentInputs.caseSha256 identity
    obtain ⟨review, member, case, same, artifact⟩ :=
      ledger.baselines caseId old sha listed (baseline.symm.trans named)
    refine ⟨review, List.mem_filter.mpr ⟨member, ?_⟩, case, same.trans hash.symm, artifact⟩
    have apart := ledger.baseline_kept valid listed member ⟨case, same⟩
      (by rw [artifact]; exact baseline.symm.trans named)
    simpa using apart

end Deletion

section Changes

theorem imports_of_records (known : Known before) {request : ImportRequest}
    {runId execution artifactHash : String} {files : EvidenceFiles}
    (records : (Operation.importArtifacts request).Records digests runId execution artifactHash files)
    (present : (∃ other, Operation.importArtifacts request = .importArtifacts other ∧
        Imports digests before other) ∨
      ∃ flight ∈ before.inFlight, flight.record.runId = runId) : Imports digests before request := by
  rcases present with ⟨_, same, imports⟩ | ⟨flight, waiting, same⟩
  · cases same
    exact imports
  · obtain ⟨⟨digest, campaign⟩, -⟩ := known.flights flight waiting
    exact absurd (records.1.symm.trans (same.symm.trans campaign)) (imported_ne_campaign _ digest)

theorem recorded_unreviewed (known : Known before) (initial : Ledger before)
    (orderly : Orderly digests before operation) {runId execution artifactHash : String}
    {files : EvidenceFiles}
    (records : operation.Records digests runId execution artifactHash files)
    (present : (∃ request, operation = .importArtifacts request ∧ Imports digests before request) ∨
      ∃ flight ∈ before.inFlight, flight.record.runId = runId) :
    ∀ old ∈ before.state.reviews, old.runId ≠ runId := by
  intro old member
  cases operation with
  | importArtifacts request =>
    obtain ⟨runs, -⟩ := orderly (imports_of_records known records present)
    obtain ⟨named, -, rfl, rfl⟩ := records
    obtain ⟨item, listed, here⟩ := initial.consistent.reviews old member
    rw [named]
    exact fun same => runs item listed (here.trans same)
  | executorReturned returned artifacts =>
    rcases present with ⟨_, same, -⟩ | ⟨flight, waiting, same⟩
    · cases same
    · rw [← same]
      exact (initial.flights flight waiting).unreviewed old member
  | _ => exact absurd records id

/-- The identifiers of a review that an operation keeps are new. -/
theorem reviewed_fresh (known : Known before) (initial : Ledger before)
    (orderly : Orderly digests before operation) {review : WorkspaceReview}
    {execution artifactHash : String} {files : EvidenceFiles}
    (records : operation.Records digests review.runId execution artifactHash files)
    (named : review.reviewId = "review-" ++ digests.review review.runId artifactHash)
    (present : (∃ request, operation = .importArtifacts request ∧ Imports digests before request) ∨
      ∃ flight ∈ before.inFlight, flight.record.runId = review.runId) :
    ∀ old ∈ before.state.reviews, old.reviewId ≠ review.reviewId ∧ old.runId ≠ review.runId := by
  intro old member
  refine ⟨?_, recorded_unreviewed known initial orderly records present old member⟩
  cases operation with
  | importArtifacts request =>
    obtain ⟨-, reviews⟩ := orderly (imports_of_records known records present)
    obtain ⟨runId, -, rfl, rfl⟩ := records
    rw [named, runId]
    exact reviews old member
  | executorReturned returned artifacts =>
    obtain ⟨runId, -, rfl, rfl⟩ := records
    rw [named, runId]
    exact orderly old member
  | _ => exact absurd records id

theorem Change.ledger (change : Change digests audit before operation w w')
    (start : Known before ∧ Ledger before) (orderly : Orderly digests before operation)
    (held : Known w ∧ Ledger w) : Known w' ∧ Ledger w' := by
  obtain ⟨known, ledger⟩ := held
  have initial := start.2
  refine ⟨change.known known, ?_⟩
  cases change with
  | calls kept =>
    refine { ledger with flights := fun flight member => ?_ }
    obtain ⟨old, present, record, -⟩ := kept flight member
    rw [← record]
    exact ledger.flights old present
  | @queued request authored planSha256 asked first unkeyed _ =>
    subst asked
    rw [first] at unkeyed
    have fresh := orderly unkeyed
    rw [← first] at fresh
    have added : Ledger { w with state := { w.state with
        runs := w.state.runs ++ [queuedRun request authored planSha256] } } := ledger.addRun fresh
    refine { added with consistent := { added.consistent with idempotency := ?_ } }
    intro key runId found
    rw [committed, Dict.get?_insert] at found
    split at found
    · cases found
      exact ⟨_, List.mem_append_right _ (List.mem_singleton.mpr rfl), rfl⟩
    · exact added.consistent.idempotency key runId found
  | departed asked unkeyed runs reviews =>
    subst asked
    have fresh := orderly unkeyed
    refine { ledger with flights := fun flight member => ?_ }
    rcases List.mem_append.mp member with old | new
    · exact ledger.flights flight old
    · cases List.mem_singleton.mp new
      simp only [runs, reviews]
      refine ⟨⟨_, List.mem_append_right _ (List.mem_singleton.mpr rfl), rfl⟩, ?_, ?_⟩
      · intro item listed same
        rcases List.mem_append.mp listed with old | last
        · exact absurd same (fresh item old)
        · cases List.mem_singleton.mp last
          rfl
      · intro review listed same
        obtain ⟨item, present, here⟩ := initial.consistent.reviews review listed
        exact fresh item present (here.trans same)
  | updated source => exact ledger.writeRun (source.locks initial ledger)
  | imported asked first imports =>
    subst asked
    refine ledger.addRun ?_
    rw [first]
    exact (orderly imports).1
  | stored source =>
    have written := ledger.writeRun (source.locks initial ledger)
    exact { written with }
  | @reviewed review record _ _ _ records hash _ _ named reviews landed finished present _ found =>
    have fresh := reviewed_fresh start.1 initial orderly records named
      (present.imp And.left And.left)
    rw [← reviews] at fresh
    have there : w.state.hasRun review.runId := by
      rcases present with ⟨-, there⟩ | ⟨⟨flight, waiting, same⟩, all⟩
      · exact there
      · obtain ⟨item, member, here⟩ := (initial.flights flight waiting).present
        obtain ⟨later, listed, now⟩ := all item member
        exact ⟨later, listed, now.trans (here.trans same)⟩
    have added := ledger.addReview there (fun item member same => (finished item member same).2) fresh
      landed
    have known' : Known { w with state := { w.state with reviews := w.state.reviews ++ [review] } } :=
      ⟨known.identities, known.keys, known.flights⟩
    let named : LifecycleRecord := { record with runIds := record.runIds ++ [review.runId] }
    have advanced : named.identity = record.identity := rfl
    have written := added.writeRecord known' found advanced id (.inl rfl) (.inl ⟨rfl, rfl⟩)
    exact { written with }
  | replaced member same => exact ledger.writeReview member same
  | lifecycle found advances authority =>
    have written := ledger.writeRecord known found advances.identity advances.development
      advances.baseline authority
    exact { written with }
  | selected found _ backward =>
    have selected := ledger.select known found backward
    exact { selected with }
  | snapshots named =>
    refine { ledger with consistent := { ledger.consistent with snapshots := ?_ } }
    intro snapshot member
    rcases named snapshot member with ⟨old, listed, same⟩ | there
    · rw [← same]
      exact ledger.consistent.snapshots old listed
    · exact there
  | childFile => exact { ledger with }
  | @adopted child unknown _ _ =>
    refine { ledger with consistent := { ledger.consistent with development := ?_ }, baselines := ?_ }
    · intro other record found developing
      rw [committed, Dict.get?_insert] at found
      split at found
      · cases found
        cases developing
      · exact ledger.consistent.development other record found developing
    · intro other record sha found named
      rw [committed, Dict.get?_insert] at found
      split at found
      · cases found
        cases named
      · exact ledger.baselines other record sha found named
  | deleted asked first valid found =>
    subst asked first
    exact ledger.deleteRun known valid found (orderly _ valid)

end Changes

section Records

/-- A record and what becomes of it: its evidence stays, and it is no baseline without any unless the
operator has chosen so. -/
structure Qualifies (chosen : Bool) (old new : LifecycleRecord) : Prop where
  identity : new.identity = old.identity
  evidenced : old.baselineSha256.isSome → new.baselineSha256.isSome
  baselined : new.state = .baselined →
    old.state = .baselined ∨ chosen = true ∨ new.baselineSha256.isSome

theorem Qualifies.refl (chosen : Bool) (record : LifecycleRecord) : Qualifies chosen record record :=
  ⟨rfl, id, .inl⟩

theorem Qualifies.trans {chosen : Bool} {first second third : LifecycleRecord}
    (left : Qualifies chosen first second) (right : Qualifies chosen second third) :
    Qualifies chosen first third := by
  refine ⟨right.identity.trans left.identity, right.evidenced ∘ left.evidenced, fun baselined => ?_⟩
  rcases right.baselined baselined with before | later
  · rcases left.baselined before with initial | chosen | evidenced
    · exact .inl initial
    · exact .inr (.inl chosen)
    · exact .inr (.inr (right.evidenced evidenced))
  · exact .inr later

theorem Advances.qualifies {reviews : List WorkspaceReview} {chosen : Bool}
    {old new : LifecycleRecord} (advances : Advances reviews chosen old new) :
    Qualifies chosen old new := by
  refine ⟨advances.identity, fun evidenced => ?_, advances.baselined⟩
  rcases advances.baseline with same | ⟨review, -, -, -, named⟩
  · rw [same]
    exact evidenced
  · simp [named]

theorem Selects.qualifies {selected caseId : String} {chosen : Bool} {old new : LifecycleRecord}
    (selects : Selects selected caseId old new) : Qualifies chosen old new :=
  ⟨selects.identity, fun evidenced => by rw [selects.baseline]; exact evidenced,
    fun baselined => .inl (selects.baselined baselined)⟩

/-- A record that is written in the place of one that it follows. -/
theorem qualifies_insert {chosen : Bool} {lifecycle : Dict String LifecycleRecord} {caseId : String}
    {old new : LifecycleRecord} (found : lifecycle.get? caseId = some old)
    (qualifies : Qualifies chosen old new) {other : String} {record : LifecycleRecord}
    (present : lifecycle.get? other = some record) :
    ∃ later, (lifecycle.insert caseId new).get? other = some later ∧
      Qualifies chosen record later := by
  rw [Dict.get?_insert]
  split
  · next here =>
    subst here
    cases found.symm.trans present
    exact ⟨new, rfl, qualifies⟩
  · exact ⟨record, present, .refl chosen record⟩

theorem Change.qualifies (change : Change digests audit before operation w w') (known : Known w)
    {caseId : String} {record : LifecycleRecord}
    (present : w.state.lifecycle.get? caseId = some record) :
    ∃ later, w'.state.lifecycle.get? caseId = some later ∧
      Qualifies operation.chooses record later := by
  cases change with
  | reviewed _ _ _ _ _ _ _ _ _ _ found =>
    refine qualifies_insert found ?_ present
    exact ⟨rfl, id, .inl⟩
  | lifecycle found advances _ => exact qualifies_insert found advances.qualifies present
  | selected _ forward _ =>
    obtain ⟨later, listed, selects⟩ := forward caseId record present
    exact ⟨later, listed, selects.qualifies⟩
  | @adopted child unknown _ _ =>
    have apart : child.caseId ≠ caseId := by
      rintro rfl
      obtain ⟨_, found, -⟩ := known.record present
      cases unknown.symm.trans found
    exact ⟨record, (Dict.get?_insert_of_ne _ _ apart).trans present, .refl _ record⟩
  | @deleted runId run lifecycle _ _ _ found =>
    rcases lifecycleForRun_cases found with ⟨current, -, here⟩ | historical
    · obtain ⟨-, -, -, key⟩ := known.record current
      have same : (recordWithoutRun runId lifecycle.1).caseId = run.lockedInputs.caseId := key
      simp only [committed, withoutRun, here, Bool.false_eq_true, if_false, same]
      refine qualifies_insert current ?_ present
      exact ⟨rfl, id, .inl⟩
    · simp only [committed, withoutRun, historical, if_true]
      exact ⟨record, present, .refl _ record⟩
  | _ => exact ⟨record, present, .refl _ record⟩

theorem Change.adds (change : Change digests audit before operation w w') (known : Known w)
    {caseId : String} {record : LifecycleRecord} (absent : w.state.lifecycle.get? caseId = none)
    (present : w'.state.lifecycle.get? caseId = some record) : record.state ≠ .baselined := by
  have same := known.identities caseId
  rw [absent] at same
  have unknown := Option.map_eq_none_iff.mp same.symm
  have later := (change.known known).identities caseId
  rw [present] at later
  cases change with
  | @adopted child =>
    simp only [committed, Dict.get?_insert] at present
    split at present
    · cases present
      simp [CatalogCase.lifecycleRecord]
    · cases absent.symm.trans present
  | _ => exact absurd later (by simp [committed, unknown])

theorem changes_qualify (known : Known w)
    (changes : ReflTransGen (Change digests audit before operation) w w') :
    (∀ caseId record, w.state.lifecycle.get? caseId = some record →
      ∃ later, w'.state.lifecycle.get? caseId = some later ∧
        Qualifies operation.chooses record later) ∧
    ∀ caseId record, w.state.lifecycle.get? caseId = none →
      w'.state.lifecycle.get? caseId = some record → operation.chooses = false →
        record.state = .baselined → record.baselineSha256.isSome := by
  induction changes with
  | refl =>
    refine ⟨fun _ record found => ⟨record, found, .refl _ record⟩, fun _ _ absent found => ?_⟩
    cases absent.symm.trans found
  | @tail middle last changes change ih =>
    have known' := Change.chain Change.known changes known
    refine ⟨fun caseId record found => ?_, fun caseId record absent found chosen baselined => ?_⟩
    · obtain ⟨between, present, first⟩ := ih.1 caseId record found
      obtain ⟨later, listed, second⟩ := change.qualifies known' present
      exact ⟨later, listed, first.trans second⟩
    · cases between : middle.state.lifecycle.get? caseId with
      | none => exact absurd baselined (change.adds known' between found)
      | some old =>
        obtain ⟨later, listed, qualifies⟩ := change.qualifies known' between
        cases listed.symm.trans found
        rcases qualifies.baselined baselined with before | chose | evidenced
        · exact qualifies.evidenced (ih.2 caseId old absent between chosen before)
        · rw [chosen] at chose
          cases chose
        · exact evidenced

theorem run_evidenced (known : Known w) (operations : List Operation) {caseId : String}
    {record : LifecycleRecord} (found : w.state.lifecycle.get? caseId = some record)
    (evidenced : record.baselineSha256.isSome) :
    ∃ later, (run digests audit w operations).state.lifecycle.get? caseId = some later ∧
      later.identity = record.identity ∧ later.baselineSha256.isSome := by
  induction operations generalizing w record with
  | nil => exact ⟨record, found, rfl, evidenced⟩
  | cons operation rest ih =>
    have changes : ReflTransGen (Change digests audit w operation) w (step digests audit w operation) :=
      step_changes known operation
    obtain ⟨next, present, qualifies⟩ := (changes_qualify known changes).1 caseId record found
    obtain ⟨later, listed, identity, held⟩ :=
      ih (step_known known operation) present (qualifies.evidenced evidenced)
    exact ⟨later, listed, identity.trans qualifies.identity, held⟩

end Records

section Runs

theorem step_ledger (known : Known w) (orderly : Orderly digests w operation) (ledger : Ledger w) :
    Ledger (step digests audit w operation) :=
  (Change.chain (I := fun w => Known w ∧ Ledger w)
    (fun change held => change.ledger ⟨known, ledger⟩ orderly held)
    (step_changes known operation) ⟨known, ledger⟩).2

theorem start_ledger (cases : List CatalogCase) : Ledger (start cases) := by
  have fresh : ∀ caseId record, (initialLifecycle cases).get? caseId = some record →
      record.state = .definedNotRun ∧ record.baselineSha256 = none := by
    intro caseId record found
    rw [initialLifecycle_get?] at found
    obtain ⟨authored, -, rfl⟩ := Option.map_eq_some_iff.mp found
    exact ⟨rfl, rfl⟩
  refine ⟨⟨by simp [start], by simp [start], by simp [start], by simp [start], ?_⟩, by simp [start],
    by simp [start], by simp [start], by simp [start], ?_⟩
  · intro caseId record found developing
    rw [(fresh caseId record found).1] at developing
    cases developing
  · intro caseId record sha found named
    rw [(fresh caseId record found).2] at named
    cases named

theorem run_ledger {cases : List CatalogCase} {operations : List Operation}
    (orderly : Runs.Along (step digests audit) (Orderly digests) (start cases) operations) :
    Ledger (run digests audit (start cases) operations) :=
  (run_invariant (fun _ _ known orderly ledger => step_ledger known orderly ledger)
    (start_ledger cases) orderly).2

theorem Ledger.covered (ledger : Ledger w) (known : Known w) {caseId : String}
    {record : LifecycleRecord} (found : w.state.lifecycle.get? caseId = some record)
    (evidenced : record.baselineSha256.isSome) :
    ∃ item ∈ w.state.runs, item.lockedInputs = record.identity := by
  obtain ⟨sha, named⟩ := Option.isSome_iff_exists.mp evidenced
  obtain ⟨review, member, case, hash, -⟩ := ledger.baselines caseId record sha found named
  obtain ⟨item, listed, same⟩ := ledger.consistent.reviews review member
  obtain ⟨-, -, -, key⟩ := known.record found
  refine ⟨item, listed, ?_⟩
  rw [ledger.locked review member item listed same, case, hash, ← key]
  rfl

/-- In a run whose operations make no identifier twice and delete no run whose call still waits, every
reference finds its run, one case at most is in development, and a baseline that the operator has not
chosen by hand has a run from then on. -/
theorem workspace_consistent (cases : List CatalogCase) (operations : List Operation)
    (orderly : Runs.Along (step digests audit) (Orderly digests) (start cases) operations) :
    (run digests audit (start cases) operations).state.Consistent ∧
    (∀ first second old new,
      (run digests audit (start cases) operations).state.lifecycle.get? first = some old →
      (run digests audit (start cases) operations).state.lifecycle.get? second = some new →
      old.state = .activeDevelopment → new.state = .activeDevelopment → first = second) ∧
    ∀ earlier operation later caseId record, operations = earlier ++ operation :: later →
      operation.chooses = false →
      (∀ old, (run digests audit (start cases) earlier).state.lifecycle.get? caseId = some old →
        old.state ≠ .baselined) →
      (run digests audit (start cases) (earlier ++ [operation])).state.lifecycle.get? caseId =
        some record → record.state = .baselined →
      ∃ item ∈ (run digests audit (start cases) operations).state.runs,
        item.lockedInputs = record.identity := by
  have ledger : Ledger (run digests audit (start cases) operations) := run_ledger orderly
  have ended : Known (run digests audit (start cases) operations) := run_known cases operations
  refine ⟨ledger.consistent, ?_, ?_⟩
  · intro first second old new found found' developing developing'
    have held := (ledger.consistent.development first old found developing).1
    have held' := (ledger.consistent.development second new found' developing').1
    exact Option.some.inj (held.symm.trans held')
  · intro earlier operation later caseId record split chosen unbaselined found baselined
    have known : Known (run digests audit (start cases) earlier) := run_known cases earlier
    have after : run digests audit (start cases) (earlier ++ [operation]) =
        step digests audit (run digests audit (start cases) earlier) operation := by
      simp [run, Runs.run_append]
    rw [after] at found
    have changes : ReflTransGen (Change digests audit _ operation) _ _ :=
      step_changes known operation
    have evidenced : record.baselineSha256.isSome := by
      cases first : (run digests audit (start cases) earlier).state.lifecycle.get? caseId with
      | none => exact (changes_qualify known changes).2 caseId record first found chosen baselined
      | some old =>
        obtain ⟨later, listed, qualifies⟩ := (changes_qualify known changes).1 caseId old first
        cases listed.symm.trans found
        rcases qualifies.baselined baselined with before | chose | evidenced
        · exact absurd before (unbaselined old first)
        · rw [chosen] at chose
          cases chose
        · exact evidenced
    have whole : run digests audit (start cases) operations =
        run digests audit (step digests audit (run digests audit (start cases) earlier) operation)
          later := by
      simp [split, run, Runs.run_append]
    rw [whole] at ledger ended ⊢
    obtain ⟨final, listed, identity, held⟩ :=
      run_evidenced (step_known known operation) later found evidenced
    obtain ⟨item, member, locked⟩ := ledger.covered ended listed held
    exact ⟨item, member, locked.trans identity⟩

/-- An import that is moved to review. -/
theorem workspace_consistent_hover :
    ∃ item ∈ (hoverRun [hoverImport "m" "exec" (.ok hoverAnalyzed),
      .moveToReview "hover" "operator" "seen"]).state.runs,
      item.lockedInputs = ⟨"hover", "hover-sha"⟩ := by
  have orderly : Runs.Along (step hoverDigests fun _ => .ok ()) (Orderly hoverDigests)
      (start [hoverAuthored]) [hoverImport "m" "exec" (.ok hoverAnalyzed),
        .moveToReview "hover" "operator" "seen"] :=
    ⟨fun _ => ⟨by simp [start], by simp [start]⟩, trivial, trivial⟩
  have found : (hoverRun [hoverImport "m" "exec" (.ok hoverAnalyzed),
      .moveToReview "hover" "operator" "seen"]).state.lifecycle.get? "hover" =
      some
        { caseId := "hover"
          caseSha256 := "hover-sha"
          state := .baselined
          transitions := [⟨.definedNotRun, .baselined, "operator", "seen", some "m", some "intake"⟩]
          runIds := ["imported-m"]
          baselineSha256 := some "m" } := by decide
  have unbaselined : ∀ old, (hoverRun [hoverImport "m" "exec" (.ok hoverAnalyzed)]).state.lifecycle.get?
      "hover" = some old → old.state ≠ .baselined := by
    intro old listed
    have state : ((hoverRun [hoverImport "m" "exec" (.ok hoverAnalyzed)]).state.lifecycle.get?
      "hover").map (·.state) = some .definedNotRun := by decide
    rw [listed] at state
    have here : old.state = .definedNotRun := Option.some.inj state
    rw [here]
    decide
  exact (workspace_consistent _ _ orderly).2.2 [hoverImport "m" "exec" (.ok hoverAnalyzed)]
    (.moveToReview "hover" "operator" "seen") [] "hover" _ rfl rfl unbaselined found rfl

/-- The run of an import whose telemetry is not read stays, and importing the bytes again makes
another run with its identifier. -/
theorem failed_import_repeated : ¬ (hoverRun [hoverImport "m" "exec" unreadable,
    hoverImport "m" "exec" unreadable]).state.Consistent :=
  fun consistent => absurd consistent.runIds (by decide)

end Runs

end CampaignWorkspace
end CrazySwarm
