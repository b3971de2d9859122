import CrazySwarm.CampaignWorkspaceChanges

/-! Every operation of the workspace is a sequence of changes. One lemma for each function of the
service; the callers use these and do not look into the function. -/
namespace CrazySwarm
namespace CampaignWorkspace
open Call Relation

variable {digests : CampaignDigests} {audit : CatalogCase → Except CampaignRaised Unit}
  {before w : CampaignWorkspace} {operation : Operation} {α : Type}

section Reads

variable {change : CampaignWorkspace → CampaignWorkspace → Prop}

theorem read_makes :
    Makes change (read id : WorkspaceCall CampaignWorkspace) w (fun value s => w = value ∧ w = s) :=
  makes_read ⟨rfl, rfl⟩

theorem ofResult_makes {result : Except CampaignRaised α} :
    Makes change (ofResult result) w (fun value s => w = s ∧ result = .ok value) :=
  makes_ofResult fun _ returned => ⟨rfl, returned⟩

theorem getCase_makes {caseId : String} :
    Makes change (getCase caseId) w
      (fun authored s => w = s ∧ w.catalog.get? caseId = some authored) := by
  refine read_makes.bind ?_
  rintro _ _ - ⟨rfl, rfl⟩
  refine makes_ofResult fun authored returned => ⟨rfl, ?_⟩
  split at returned
  · next found => rw [found]; cases returned; rfl
  · cases returned

theorem lifecycleOf_makes {caseId : String} :
    Makes change (lifecycleOf caseId) w
      (fun record s => w = s ∧ w.state.lifecycle.get? caseId = some record) := by
  refine read_makes.bind ?_
  rintro _ _ - ⟨rfl, rfl⟩
  refine makes_ofResult fun record returned => ⟨rfl, ?_⟩
  split at returned
  · next found => rw [found]; cases returned; rfl
  · cases returned

theorem reviewOf_makes {reviewId : String} :
    Makes change (reviewOf reviewId) w
      (fun review s => w = s ∧ review ∈ w.state.reviews ∧ review.reviewId = reviewId) := by
  refine read_makes.bind ?_
  rintro _ _ - ⟨rfl, rfl⟩
  refine makes_ofResult fun review returned => ⟨rfl, ?_⟩
  split at returned
  · next found =>
    cases returned
    exact ⟨List.mem_of_find?_eq_some found, by simpa using List.find?_some found⟩
  · cases returned

theorem assertSnapshotAssessmentsComplete_makes {caseId : String} :
    Makes change (assertSnapshotAssessmentsComplete caseId) w (fun _ s => w = s) := by
  refine getCase_makes.bind ?_
  rintro authored _ - ⟨rfl, -⟩
  refine read_makes.bind ?_
  rintro _ _ - ⟨rfl, rfl⟩
  exact makes_ofResult fun _ _ => rfl

theorem activeCase_makes :
    Makes change activeCase w
      (fun authored s => w = s ∧ ∃ caseId, w.catalog.get? caseId = some authored) := by
  refine read_makes.bind ?_
  rintro _ _ - ⟨rfl, rfl⟩
  split
  · exact makes_raises
  · next caseId _ =>
    refine getCase_makes.bind ?_
    rintro authored _ - ⟨rfl, found⟩
    refine ofResult_makes.bind ?_
    rintro _ _ - ⟨rfl, -⟩
    exact makes_pure ⟨rfl, caseId, found⟩

end Reads

section Commits

theorem commit_makes {f : CampaignWorkspaceState → CampaignWorkspaceState}
    (changed : Change digests audit before operation w (w.committed (f w.state))) :
    Makes (Change digests audit before operation) (commit f) w
      (fun _ s => s = w.committed (f w.state)) :=
  ⟨.single changed, fun _ _ => rfl⟩

theorem modify_makes {f : CampaignWorkspace → CampaignWorkspace}
    (changed : Change digests audit before operation w (f w)) :
    Makes (Change digests audit before operation) (modify f : WorkspaceCall Unit) w
      (fun _ s => s = f w) :=
  makes_modify (.single changed) rfl

/-- A record that moves on is written. -/
theorem replaceLifecycle_makes (known : Known w) {caseId : String} {old new : LifecycleRecord}
    (found : w.state.lifecycle.get? caseId = some old)
    (advances : Advances w.state.reviews operation.chooses old new) :
    Makes (Change digests audit before operation) (replaceLifecycle new) w (fun _ _ => True) := by
  obtain ⟨-, -, -, key⟩ := known.record found
  have same : new.caseId = caseId :=
    (congrArg LockedDevelopmentInputs.caseId advances.identity).trans key
  unfold replaceLifecycle
  rw [same]
  exact (commit_makes (.lifecycle found advances (.inl ⟨rfl, rfl⟩))).mono fun _ _ _ => trivial

theorem purgeCaseSnapshotImages_makes {caseId : String} :
    Makes (Change digests audit before operation) (purgeCaseSnapshotImages caseId) w
      (fun _ _ => True) := by
  refine assertSnapshotAssessmentsComplete_makes.bind ?_
  rintro _ _ - rfl
  refine getCase_makes.bind ?_
  rintro authored _ - ⟨rfl, -⟩
  refine read_makes.bind ?_
  rintro _ _ - ⟨rfl, rfl⟩
  split
  · refine (commit_makes (.snapshots ?_)).mono fun _ _ _ => trivial
    simp only [purged, List.mem_map]
    rintro _ ⟨old, present, rfl⟩
    refine .inl ⟨old, present, ?_⟩
    split <;> rfl
  · exact makes_pure trivial

end Commits

section Transitions

variable {record new : LifecycleRecord} {newState : LifecycleState} {actorId reason : String}
  {evidence review : Option String} {required : Bool}

theorem transition_eq_ok
    (moved : record.transition newState actorId reason evidence review required = .ok new) :
    new.identity = record.identity ∧ new.state = newState ∧ new.baselineSha256 =
      if newState ∈ [.baselined, .promoted] && evidence.isSome then evidence
        else record.baselineSha256 := by
  unfold LifecycleRecord.transition at moved
  obtain ⟨_, -, moved⟩ := bind_eq_ok.mp moved
  obtain ⟨_, -, moved⟩ := bind_eq_ok.mp moved
  obtain ⟨_, -, moved⟩ := bind_eq_ok.mp moved
  cases moved
  exact ⟨rfl, rfl, rfl⟩

theorem advances_of_transition {reviews : List WorkspaceReview} {chosen : Bool}
    (moved : record.transition newState actorId reason evidence review required = .ok new)
    (idle : newState ≠ .activeDevelopment)
    (named : ∀ sha, evidence = some sha → ∃ item ∈ reviews, item.caseId = record.caseId ∧
      item.caseSha256 = record.caseSha256 ∧ sha = item.artifactSetSha256)
    (qualified : newState = .baselined → chosen = true ∨ evidence.isSome) :
    Advances reviews chosen record new := by
  obtain ⟨identity, state, baseline⟩ := transition_eq_ok moved
  refine ⟨identity, fun active => absurd (state.symm.trans active) idle, ?_, fun baselined => ?_⟩
  · rw [baseline]
    split
    · next evident =>
      cases evidence with
      | none => simp at evident
      | some sha =>
        obtain ⟨item, present, caseId, caseSha256, same⟩ := named sha rfl
        exact .inr ⟨item, present, caseId, caseSha256, congrArg some same⟩
    · exact .inl rfl
  · rcases qualified (state.symm.trans baselined) with chosen | evident
    · exact .inr (.inl chosen)
    · rw [baseline, state.symm.trans baselined]
      simp [evident]

theorem advances_without_evidence {reviews : List WorkspaceReview} {chosen : Bool}
    (moved : record.transition newState actorId reason none review required = .ok new)
    (idle : newState ≠ .activeDevelopment) (unqualified : newState ≠ .baselined) :
    Advances reviews chosen record new :=
  advances_of_transition moved idle nofun fun baselined => absurd baselined unqualified

theorem advances_of_review {reviews : List WorkspaceReview} {chosen : Bool} {item : WorkspaceReview}
    (present : item ∈ reviews) (caseId : item.caseId = record.caseId)
    (caseSha256 : item.caseSha256 = record.caseSha256)
    (moved : record.transition newState actorId reason (some item.artifactSetSha256) review required =
      .ok new) (idle : newState ≠ .activeDevelopment) : Advances reviews chosen record new :=
  advances_of_transition moved idle
    (fun _ named => ⟨item, present, caseId, caseSha256, (Option.some.inj named).symm⟩)
    fun _ => .inr rfl

end Transitions

section Lifecycle

theorem staticValidate_makes (known : Known w) {caseId actorId : String}
    {planned : Except CampaignRaised PlanVerdict} :
    Makes (Change digests audit before operation) (staticValidate caseId actorId planned) w
      (fun _ _ => True) := by
  refine getCase_makes.bind ?_
  rintro authored _ - ⟨rfl, -⟩
  refine ofResult_makes.bind ?_
  rintro plan _ - ⟨rfl, -⟩
  refine lifecycleOf_makes.bind ?_
  rintro record _ - ⟨rfl, found⟩
  split
  · refine ofResult_makes.bind ?_
    rintro changed _ - ⟨rfl, moved⟩
    have advances : Advances w.state.reviews operation.chooses record changed :=
      advances_without_evidence moved (by split <;> decide) (by split <;> decide)
    refine (replaceLifecycle_makes known found advances).bind ?_
    rintro _ _ - -
    exact makes_pure trivial
  · exact makes_pure trivial

structure Demotes (caseId other : String) (old new : LifecycleRecord) : Prop where
  identity : new.identity = old.identity
  baseline : new.baselineSha256 = old.baselineSha256
  development : other ≠ caseId → new.state ≠ .activeDevelopment
  selected : other = caseId → new = old
  baselined : new.state = .baselined → old.state = .baselined

theorem demotes_self {caseId other : String} {record : LifecycleRecord}
    (spared : ¬(other ≠ caseId ∧ record.state = .activeDevelopment)) :
    Demotes caseId other record record :=
  ⟨rfl, rfl, fun apart active => spared ⟨apart, active⟩, fun _ => rfl, id⟩

theorem demotes_transition {caseId other actorId reason : String} {old new : LifecycleRecord}
    (apart : other ≠ caseId) (moved : old.transition .ready actorId reason none none = .ok new) :
    Demotes caseId other old new := by
  obtain ⟨identity, state, baseline⟩ := transition_eq_ok moved
  refine ⟨identity, by simpa using baseline, fun _ => ?_, fun same => absurd same apart, ?_⟩
  · rw [state]
    decide
  · rw [state]
    nofun

theorem demoteOthers_fold {caseId actorId : String} {items : List (String × LifecycleRecord)}
    {lifecycle records : Dict String LifecycleRecord} (distinct : (items.map Prod.fst).Nodup)
    (listed : ∀ item ∈ items, lifecycle.get? item.1 = some item.2)
    (demoted : items.foldlM (fun records item =>
      if item.1 ≠ caseId ∧ item.2.state = .activeDevelopment then do
        let demoted ← item.2.transition .ready actorId
          "operator selected a different active development case" none none
        Except.ok (records.insert item.1 demoted)
      else .ok records) lifecycle = .ok records) :
    (∀ other, other ∉ items.map Prod.fst → records.get? other = lifecycle.get? other) ∧
      ∀ item ∈ items, ∃ new, records.get? item.1 = some new ∧ Demotes caseId item.1 item.2 new := by
  induction items generalizing lifecycle with
  | nil => cases demoted; exact ⟨fun _ _ => rfl, by simp⟩
  | cons item rest ih =>
    rw [List.map_cons, List.nodup_cons] at distinct
    rw [List.foldlM_cons] at demoted
    obtain ⟨next, first, demoted⟩ := bind_eq_ok.mp demoted
    have here : (∀ other, other ≠ item.1 → next.get? other = lifecycle.get? other) ∧
        ∃ new, next.get? item.1 = some new ∧ Demotes caseId item.1 item.2 new := by
      split at first
      · next condition =>
        obtain ⟨changed, moved, first⟩ := bind_eq_ok.mp first
        cases first
        refine ⟨fun other apart => Dict.get?_insert_of_ne _ _ (Ne.symm apart), changed, by simp, ?_⟩
        exact demotes_transition condition.1 moved
      · next spared =>
        cases first
        exact ⟨fun _ _ => rfl, item.2, listed item (by simp), demotes_self spared⟩
    obtain ⟨others, new, found, demotes⟩ := here
    have later := ih distinct.2 (fun entry member => by
      rw [others entry.1 (fun same => distinct.1 (same ▸ List.mem_map_of_mem member))]
      exact listed entry (by simp [member])) demoted
    refine ⟨fun other absent => ?_, fun entry member => ?_⟩
    · simp only [List.map_cons, List.mem_cons, not_or] at absent
      rw [later.1 other absent.2, others other absent.1]
    · rcases List.mem_cons.mp member with rfl | tail
      · exact ⟨new, (later.1 _ distinct.1).trans found, demotes⟩
      · exact later.2 entry tail

theorem demoteOthers_eq_ok {caseId actorId : String} {lifecycle records : Dict String LifecycleRecord}
    (demoted : demoteOthers caseId actorId lifecycle = .ok records) :
    (∀ other old, lifecycle.get? other = some old →
      ∃ new, records.get? other = some new ∧ Demotes caseId other old new) ∧
    ∀ other, lifecycle.get? other = none → records.get? other = none := by
  have fold := demoteOthers_fold lifecycle.nodup
    (fun item member => (Dict.get?_eq_some_iff _ _ _).mpr member) demoted
  refine ⟨fun other old found => ?_, fun other absent => ?_⟩
  · exact fold.2 (other, old) ((Dict.get?_eq_some_iff _ _ _).mp found)
  · rw [fold.1 other ?_, absent]
    intro listed
    obtain ⟨item, member, rfl⟩ := List.mem_map.mp listed
    rw [(Dict.get?_eq_some_iff lifecycle item.1 item.2).mpr member] at absent
    cases absent

theorem activated_eq_ok {caseId actorId reason : String} {record active : LifecycleRecord}
    (ok : activated record actorId reason = .ok active) : Selects caseId caseId record active := by
  unfold activated at ok
  split at ok
  · cases ok
    exact ⟨rfl, fun _ => rfl, rfl, id⟩
  · obtain ⟨_, -, moved⟩ := bind_eq_ok.mp ok
    obtain ⟨identity, state, baseline⟩ := transition_eq_ok moved
    exact ⟨identity, fun _ => rfl, by simpa using baseline, fun baselined =>
      absurd (state.symm.trans baselined) (by decide)⟩

theorem setActive_makes (known : Known w) {caseId actorId reason : String}
    {planned : Except CampaignRaised PlanVerdict} :
    Makes (Change digests audit before operation) (setActive caseId actorId reason planned) w
      (fun _ _ => True) := by
  refine getCase_makes.bind ?_
  rintro authored _ - ⟨rfl, found⟩
  refine read_makes.bind ?_
  rintro _ _ - ⟨rfl, rfl⟩
  refine ofResult_makes.bind ?_
  rintro _ _ - ⟨rfl, -⟩
  refine ofResult_makes.bind ?_
  rintro _ _ - ⟨rfl, -⟩
  refine ofResult_makes.bind ?_
  rintro _ _ - ⟨rfl, -⟩
  refine (staticValidate_makes known).bind ?_
  rintro plan w' changes -
  have known' := Change.chain Change.known changes known
  have found' := Change.chain (fun change => Change.catalog change) changes found
  refine ofResult_makes.bind ?_
  rintro _ _ - ⟨rfl, -⟩
  refine read_makes.bind ?_
  rintro _ _ - ⟨rfl, rfl⟩
  refine ofResult_makes.bind ?_
  rintro _ _ - ⟨rfl, -⟩
  refine ofResult_makes.bind ?_
  rintro records _ - ⟨rfl, demoted⟩
  refine lifecycleOf_makes.bind ?_
  rintro record _ - ⟨rfl, present⟩
  refine ofResult_makes.bind ?_
  rintro active _ - ⟨rfl, ok⟩
  obtain ⟨forward, backward⟩ := demoteOthers_eq_ok demoted
  have selects : Selects caseId caseId record active := activated_eq_ok ok
  refine (commit_makes (.selected found' ?_ ?_)).bind ?_
  · intro other old there
    rw [Dict.get?_insert]
    split
    · next here =>
      subst here
      cases present.symm.trans there
      exact ⟨active, rfl, selects⟩
    · next apart =>
      obtain ⟨new, listed, demotes⟩ := forward other old there
      exact ⟨new, listed, demotes.identity, fun active =>
        absurd active (demotes.development (Ne.symm apart)), demotes.baseline, demotes.baselined⟩
  · intro other new there
    rw [Dict.get?_insert] at there
    split at there
    · next here =>
      cases there
      subst here
      exact ⟨record, present, selects⟩
    · next apart =>
      cases earlier : w'.state.lifecycle.get? other with
      | none => rw [backward other earlier] at there; cases there
      | some old =>
        obtain ⟨_, listed, demotes⟩ := forward other old earlier
        cases listed.symm.trans there
        exact ⟨old, rfl, demotes.identity, fun active =>
          absurd active (demotes.development (Ne.symm apart)), demotes.baseline, demotes.baselined⟩
  · rintro _ _ - -
    exact makes_pure trivial

theorem caseReview_of_record (known : Known w) {caseId : String} {authored : CatalogCase}
    {record : LifecycleRecord} {review : WorkspaceReview}
    (found : w.catalog.get? caseId = some authored)
    (present : w.state.lifecycle.get? caseId = some record)
    (listed : review ∈ w.state.caseReviews authored) :
    review ∈ w.state.reviews ∧ review.caseId = record.caseId ∧
      review.caseSha256 = record.caseSha256 := by
  obtain ⟨own, there, identity, -⟩ := known.record present
  cases found.symm.trans there
  simp only [CampaignWorkspaceState.caseReviews, List.mem_filter, Bool.and_eq_true,
    decide_eq_true_eq] at listed
  exact ⟨listed.1, listed.2.1.trans (congrArg LockedDevelopmentInputs.caseId identity).symm,
    listed.2.2.trans (congrArg LockedDevelopmentInputs.caseSha256 identity).symm⟩

theorem qualify_makes (known : Known w) {caseId actorId reason : String} {authored : CatalogCase}
    {record : LifecycleRecord} {latest : WorkspaceReview} {newState : LifecycleState} {sha : String}
    (found : w.catalog.get? caseId = some authored)
    (present : w.state.lifecycle.get? caseId = some record)
    (listed : latest ∈ w.state.caseReviews authored) (idle : newState ≠ .activeDevelopment) :
    Makes (Change digests audit before operation) (do
      let moved ← ofResult (record.transition newState actorId reason
        (some latest.artifactSetSha256) (some sha))
      replaceLifecycle moved
      purgeCaseSnapshotImages caseId
      return moved) w (fun _ _ => True) := by
  obtain ⟨reviewed, same, sha⟩ := caseReview_of_record known found present listed
  refine ofResult_makes.bind ?_
  rintro moved _ - ⟨rfl, transition⟩
  refine (replaceLifecycle_makes known present
    (advances_of_review reviewed same sha transition idle)).bind ?_
  rintro _ _ - -
  refine purgeCaseSnapshotImages_makes.bind ?_
  rintro _ _ - -
  exact makes_pure trivial

theorem moveToReview_makes (known : Known w) {caseId actorId reason : String} :
    Makes (Change digests audit before operation) (moveToReview caseId actorId reason) w
      (fun _ _ => True) := by
  refine getCase_makes.bind ?_
  rintro authored _ - ⟨rfl, found⟩
  refine lifecycleOf_makes.bind ?_
  rintro record _ - ⟨rfl, present⟩
  split
  · exact makes_pure trivial
  · refine read_makes.bind ?_
    rintro _ _ - ⟨rfl, rfl⟩
    refine ofResult_makes.bind ?_
    rintro latest _ - ⟨rfl, last⟩
    split at last
    · next listed =>
      cases last
      refine assertSnapshotAssessmentsComplete_makes.bind ?_
      rintro _ _ - rfl
      exact qualify_makes known found present (List.mem_of_getLast? listed) (by decide)
    · cases last

theorem completeCase_makes (known : Known w) {caseId actorId reason : String} :
    Makes (Change digests audit before operation) (completeCase caseId actorId reason) w
      (fun _ _ => True) := by
  refine getCase_makes.bind ?_
  rintro authored _ - ⟨rfl, found⟩
  refine lifecycleOf_makes.bind ?_
  rintro record _ - ⟨rfl, present⟩
  split
  · exact makes_pure trivial
  · refine read_makes.bind ?_
    rintro _ _ - ⟨rfl, rfl⟩
    refine ofResult_makes.bind ?_
    rintro latest _ - ⟨rfl, last⟩
    split at last
    · next listed =>
      cases last
      refine assertSnapshotAssessmentsComplete_makes.bind ?_
      rintro _ _ - rfl
      exact qualify_makes known found present (List.mem_of_mem_filter (List.mem_of_getLast? listed))
        (by decide)
    · cases last

theorem setLifecycleState_makes (known : Known w) {caseId actorId reason : String}
    {state : LifecycleState} {planned : Except CampaignRaised PlanVerdict}
    (asked : operation.chooses = true) :
    Makes (Change digests audit before operation)
      (setLifecycleState caseId state actorId reason planned) w (fun _ _ => True) := by
  refine getCase_makes.bind ?_
  rintro authored _ - ⟨rfl, found⟩
  refine lifecycleOf_makes.bind ?_
  rintro current _ - ⟨rfl, present⟩
  split
  · exact makes_pure trivial
  · split
    · refine (setActive_makes known).bind ?_
      rintro _ _ - -
      exact lifecycleOf_makes.mono fun _ _ _ => trivial
    · next idle =>
      refine read_makes.bind ?_
      rintro _ _ - ⟨rfl, rfl⟩
      refine ofResult_makes.bind ?_
      rintro changed _ - ⟨rfl, moved⟩
      refine (replaceLifecycle_makes known present
        (advances_of_transition moved idle ?_ fun _ => .inl asked)).bind ?_
      · intro sha named
        obtain ⟨latest, last, rfl⟩ := Option.map_eq_some_iff.mp named
        obtain ⟨reviewed, same, identity⟩ :=
          caseReview_of_record known found present (List.mem_of_getLast? last)
        exact ⟨latest, reviewed, same, identity, rfl⟩
      · rintro _ _ - -
        exact makes_pure trivial

theorem register_eq_ok {child : CatalogCase} {catalog registered : Dict String CatalogCase}
    (ok : register audit child catalog = .ok registered) :
    catalog.get? child.caseId = none ∧ audit child = .ok () ∧
      registered = catalog.insert child.caseId child := by
  obtain ⟨_, unknown, ok⟩ := bind_eq_ok.mp ok
  obtain ⟨_, audited, ok⟩ := bind_eq_ok.mp ok
  cases ok
  exact ⟨by simpa using unknown, audited, rfl⟩

theorem adopt_makes {child : CatalogCase} {catalog : Dict String CatalogCase}
    (registered : register audit child w.catalog = .ok catalog)
    (file : w.children.get? child.caseId = some child) :
    Makes (Change digests audit before operation) (adopt catalog child) w (fun _ _ => True) := by
  obtain ⟨unknown, audited, rfl⟩ := register_eq_ok registered
  exact ⟨.single (.adopted unknown audited file), fun _ _ => trivial⟩

theorem createChild_makes {childCaseId : String} {ownsIdentity : Bool}
    {child : CatalogCase → Except CampaignRaised CatalogCase} :
    Makes (Change digests audit before operation) (createChild audit childCaseId ownsIdentity child) w
      (fun _ _ => True) := by
  refine activeCase_makes.bind ?_
  rintro active _ - ⟨rfl, -⟩
  refine ofResult_makes.bind ?_
  rintro _ _ - ⟨rfl, -⟩
  refine ofResult_makes.bind ?_
  rintro authored _ - ⟨rfl, -⟩
  refine (modify_makes (.childFile ?_)).bind ?_
  · rfl
  rintro _ _ - rfl
  refine read_makes.bind ?_
  rintro _ _ - ⟨rfl, rfl⟩
  refine ofResult_makes.bind ?_
  rintro catalog _ - ⟨rfl, registered⟩
  refine (adopt_makes registered (Dict.get?_insert_self _ _ _)).bind ?_
  rintro _ _ - -
  exact makes_pure trivial

end Lifecycle

section Runs

theorem flightOf_makes {change : CampaignWorkspace → CampaignWorkspace → Prop} {runId : String}
    {executing : Bool} :
    Makes change (flightOf runId executing) w
      (fun flight s => w = s ∧ flight ∈ w.inFlight ∧ flight.record.runId = runId) := by
  refine read_makes.bind ?_
  rintro _ _ - ⟨rfl, rfl⟩
  refine makes_ofResult fun flight returned => ⟨rfl, ?_⟩
  split at returned
  · next found =>
    cases returned
    have named := List.find?_some found
    simp only [Bool.and_eq_true, decide_eq_true_eq] at named
    exact ⟨List.mem_of_find?_eq_some found, named.1⟩
  · cases returned

/-- The workspace once no call of the run waits. -/
def landed (runId : String) (w : CampaignWorkspace) : CampaignWorkspace :=
  { w with inFlight := w.inFlight.filter fun flight => flight.record.runId ≠ runId }

theorem land_makes {runId : String} :
    Makes (Change digests audit before operation) (land runId) w
      (fun _ s => s = landed runId w) :=
  modify_makes (.calls fun flight member => ⟨flight, List.mem_of_mem_filter member, rfl, rfl⟩)

theorem updateRun_makes {run : WorkspaceRun} (source : Source before w run)
    (execution : (∃ old ∈ w.state.runs, old.runId = run.runId ∧
        old.missionExecutionId = run.missionExecutionId) ∨
      (run.missionExecutionId = none ∧ w.state.reviews = before.state.reviews ∧
        ∃ flight ∈ before.inFlight, flight.record.runId = run.runId)) :
    Makes (Change digests audit before operation) (updateRun run) w
      (fun _ s => s = w.committed (withRun run w.state)) :=
  commit_makes (.updated source execution)

/-- A run that is written from the call that has waited for it. -/
theorem updateFlight_makes {flight : RunInFlight} {run : WorkspaceRun}
    (runs : w.state.runs = before.state.runs) (reviews : w.state.reviews = before.state.reviews)
    (member : flight ∈ before.inFlight) (known : Known before)
    (same : run.runId = flight.record.runId)
    (locked : run.lockedInputs = flight.record.lockedInputs)
    (execution : run.missionExecutionId = flight.record.missionExecutionId) :
    Makes (Change digests audit before operation) (updateRun run) w
      (fun _ s => s = w.committed (withRun run w.state)) := by
  obtain ⟨-, unexecuted, -⟩ := known.flights flight member
  exact updateRun_makes ⟨flight.record, .inr ⟨runs, flight, member, rfl⟩, same.symm, locked.symm⟩
    (.inr ⟨execution.trans unexecuted, reviews, flight, member, same.symm⟩)

theorem endRun_makes {runId : String} {unfinished : CampaignRunRecord → Bool}
    {finish : CampaignRunRecord → CampaignRunRecord}
    (kept : ∀ current, (finish current).runId = current.runId ∧
      (finish current).missionExecutionId = current.missionExecutionId) :
    Makes (Change digests audit before operation) (endRun runId unfinished finish) w
      (fun _ _ => True) := by
  refine read_makes.bind ?_
  rintro _ _ - ⟨rfl, rfl⟩
  split
  · exact makes_raises
  · next current found =>
    have member := List.mem_of_find?_eq_some found
    split
    · obtain ⟨same, execution⟩ := kept current.toCampaignRunRecord
      refine (updateRun_makes ?_ ?_).mono fun _ _ _ => trivial
      · exact ⟨current, .inl member, same.symm, rfl⟩
      · exact .inl ⟨current, member, same.symm, execution.symm⟩
    · exact makes_pure trivial

theorem cancelQueued_kept (current : CampaignRunRecord) :
    (CampaignService.cancelQueued current).runId = current.runId ∧
      (CampaignService.cancelQueued current).missionExecutionId = current.missionExecutionId :=
  ⟨rfl, rfl⟩

theorem cancelLaunched_kept (current : CampaignRunRecord) :
    (CampaignService.cancelLaunched current).runId = current.runId ∧
      (CampaignService.cancelLaunched current).missionExecutionId = current.missionExecutionId := by
  unfold CampaignService.cancelLaunched
  split <;> exact ⟨rfl, rfl⟩

theorem handled_kept (error : CampaignRaised) (current : CampaignRunRecord) :
    (handled error current).runId = current.runId ∧
      (handled error current).missionExecutionId = current.missionExecutionId := by
  cases error with
  | cancelled => exact cancelLaunched_kept current
  | exception kind text => exact ⟨rfl, rfl⟩

theorem requestRun_makes (known : Known w) {request : RunRequest} :
    Makes (Change digests audit w (.requestRun request)) (requestRun request) w
      (fun _ _ => True) := by
  refine read_makes.bind ?_
  rintro _ _ - ⟨rfl, rfl⟩
  split
  · exact ofResult_makes.mono fun _ _ _ => trivial
  · next unkeyed =>
    refine activeCase_makes.bind ?_
    rintro authored _ - ⟨rfl, caseId, found⟩
    rw [← known.keys caseId authored found] at found
    refine ofResult_makes.bind ?_
    rintro _ _ - ⟨rfl, -⟩
    refine ofResult_makes.bind ?_
    rintro planSha256 _ - ⟨rfl, -⟩
    refine (commit_makes (.queued rfl rfl unkeyed found)).bind ?_
    rintro _ _ - rfl
    refine (modify_makes (.departed rfl unkeyed ?_ ?_ ?_)).bind ?_
    · rfl
    · rfl
    · exact found
    · rintro _ _ - -
      exact makes_pure trivial

theorem cancelWaiting_makes {runId : String} :
    Makes (Change digests audit before operation) (cancelWaiting runId) w (fun _ _ => True) := by
  refine flightOf_makes.bind ?_
  rintro flight _ - ⟨rfl, -⟩
  refine land_makes.bind ?_
  rintro _ _ - rfl
  refine (endRun_makes cancelQueued_kept).bind ?_
  rintro _ _ - -
  exact makes_raises

theorem cancelExecuting_makes {runId : String} :
    Makes (Change digests audit before operation) (cancelExecuting runId) w (fun _ _ => True) := by
  refine flightOf_makes.bind ?_
  rintro flight _ - ⟨rfl, -⟩
  refine land_makes.bind ?_
  rintro _ _ - rfl
  refine (endRun_makes cancelLaunched_kept).bind ?_
  rintro _ _ - -
  exact makes_raises

theorem launch_makes (known : Known w) {runId : String} {authorized : Except CampaignRaised Unit} :
    Makes (Change digests audit w operation) (launch runId authorized) w (fun _ _ => True) := by
  refine flightOf_makes.bind ?_
  rintro flight _ - ⟨rfl, member, -⟩
  refine read_makes.bind ?_
  rintro _ _ - ⟨rfl, rfl⟩
  split
  · refine land_makes.bind ?_
    rintro _ _ - rfl
    refine (updateFlight_makes ?_ ?_ member known ?_ ?_ ?_).bind ?_
    · rfl
    · rfl
    · rfl
    · rfl
    · rfl
    · rintro _ _ - -
      exact makes_raises
  · split
    · next error =>
      refine land_makes.bind ?_
      rintro _ _ - rfl
      refine (endRun_makes (handled_kept error)).bind ?_
      rintro _ _ - -
      exact makes_raises
    · refine (modify_makes (.calls ?_)).bind ?_
      · rintro _ moved
        obtain ⟨old, present, rfl⟩ := List.mem_map.mp moved
        refine ⟨old, present, ?_⟩
        split <;> exact ⟨rfl, rfl⟩
      · rintro _ _ - rfl
        refine (updateFlight_makes ?_ ?_ member known ?_ ?_ ?_).mono fun _ _ _ => trivial
        · rfl
        · rfl
        · rfl
        · rfl
        · rfl

theorem executorRaised_makes (known : Known w) {runId text : String} {attempts : Nat} :
    Makes (Change digests audit w operation) (executorRaised runId text attempts) w
      (fun _ _ => True) := by
  refine flightOf_makes.bind ?_
  rintro flight _ - ⟨rfl, member, -⟩
  refine land_makes.bind ?_
  rintro _ _ - rfl
  refine (updateFlight_makes ?_ ?_ member known ?_ ?_ ?_).bind ?_
  · rfl
  · rfl
  · rfl
  · rfl
  · rfl
  · rintro _ _ - -
    exact makes_raises

section Intake

theorem store_makes (run : WorkspaceRun) {execution artifactHash : String} {files : EvidenceFiles}
    (source : Source before w run)
    (records : operation.Records digests run.runId execution artifactHash files)
    (own : run.missionExecutionId = some execution)
    (others : ∀ item ∈ w.state.runs, item ∈ before.state.runs ∨ item.runId = run.runId)
    (reads : operation.Reads) (reviews : w.state.reviews = before.state.reviews)
    (present : (∃ request, operation = .importArtifacts request ∧ Imports digests before request) ∨
      ∃ flight ∈ before.inFlight, flight.record.runId = run.runId) :
    Makes (Change digests audit before operation) (store execution files run) w
      (fun _ s => s = { w.committed (withRun run w.state) with
        evidence := w.evidence.insert execution files }) :=
  ⟨.single (.stored source records own others reads reviews present), fun _ _ => rfl⟩

theorem keepReview_run (review : WorkspaceReview) {record : LifecycleRecord}
    (found : w.state.lifecycle.get? review.caseId = some record) (key : record.caseId = review.caseId) :
    (keepReview review w).2 = w.committed { w.state with
      reviews := w.state.reviews ++ [review]
      lifecycle := w.state.lifecycle.insert review.caseId
        { record with runIds := record.runIds ++ [review.runId] } } := by
  have read : lifecycleOf review.caseId { w with
      state := { w.state with reviews := w.state.reviews ++ [review] } } =
      (.ok record, { w with state := { w.state with reviews := w.state.reviews ++ [review] } }) := by
    unfold lifecycleOf
    rw [bind_of_ok rfl]
    simp only [id, Call.read, ofResult, found]
  unfold keepReview
  rw [bind_of_ok rfl]
  simp only [setState, Call.modify]
  rw [bind_of_ok (congrArg Prod.fst read), read]
  simp only [replaceLifecycle, key]
  rfl

theorem withRun_finished {run item : WorkspaceRun} {state : CampaignWorkspaceState}
    (member : item ∈ (withRun run state).runs) (same : item.runId = run.runId) : item = run := by
  obtain ⟨old, -, rfl⟩ := List.mem_map.mp member
  split
  · rfl
  · next apart =>
    rw [if_neg apart] at same
    exact absurd same apart

/-- Writing a run back keeps the run identifiers. -/
theorem withRun_named (run : WorkspaceRun) {item : WorkspaceRun} {state : CampaignWorkspaceState}
    (member : item ∈ state.runs) : ∃ new ∈ (withRun run state).runs, new.runId = item.runId := by
  refine ⟨_, List.mem_map_of_mem member, ?_⟩
  split
  · next same => exact same.symm
  · rfl

theorem intake_makes (known : Known w) {authored : CatalogCase} {run : WorkspaceRun}
    {artifacts : WorkspaceArtifacts} {planSha256 artifactHash : String}
    (found : w.catalog.get? authored.caseId = some authored)
    (locked : run.lockedInputs = .fromCase authored)
    (records : operation.Records digests run.runId artifacts.missionExecutionId artifactHash
      artifacts.files)
    (source : Source before w run)
    (others : ∀ item ∈ w.state.runs, item ∈ before.state.runs ∨ item.runId = run.runId)
    (reads : ∀ analyzed, artifacts.analyzed = .ok analyzed → operation.Reads)
    (reviews : w.state.reviews = before.state.reviews)
    (landed : ∀ flight ∈ w.inFlight, flight.record.runId ≠ run.runId)
    (present : ((∃ request, operation = .importArtifacts request ∧ Imports digests before request) ∧
        ∃ item ∈ w.state.runs, item.runId = run.runId) ∨
      ((∃ flight ∈ before.inFlight, flight.record.runId = run.runId) ∧
        ∀ item ∈ before.state.runs, ∃ new ∈ w.state.runs, new.runId = item.runId)) :
    Makes (Change digests audit before operation)
      (intake digests authored run artifacts planSha256 artifactHash) w (fun _ _ => True) := by
  refine ofResult_makes.bind ?_
  rintro analyzed _ - ⟨rfl, ok⟩
  let finished := finishedRun run artifacts artifactHash analyzed
  refine (store_makes finished source records rfl others (reads analyzed ok) reviews
    (present.imp And.left And.left)).bind ?_
  rintro _ _ - rfl
  refine ofResult_makes.bind ?_
  rintro compared _ - ⟨rfl, -⟩
  obtain ⟨record, recorded, identity⟩ := known.lifecycle found
  have kept := keepReview_run (w := { w.committed (withRun finished w.state) with
    evidence := w.evidence.insert artifacts.missionExecutionId artifacts.files })
    (newReview digests authored finished planSha256 artifactHash analyzed.analysis compared)
    recorded (congrArg LockedDevelopmentInputs.caseId identity)
  have makes : Makes (Change digests audit before operation)
      (keepReview (newReview digests authored finished planSha256 artifactHash analyzed.analysis
        compared)) { w.committed (withRun finished w.state) with
          evidence := w.evidence.insert artifacts.missionExecutionId artifacts.files }
      (fun _ _ => True) := by
    refine ⟨.single ?_, fun _ _ => trivial⟩
    rw [kept]
    refine .reviewed records rfl rfl ⟨rfl, rfl⟩ rfl reviews landed ?_ ?_
      (Dict.get?_insert_self _ _ _) recorded
    · intro item member same
      rw [withRun_finished member same]
      exact ⟨rfl, locked⟩
    · rcases present with ⟨imports, item, member, same⟩ | ⟨flight, all⟩
      · obtain ⟨new, listed, named⟩ := withRun_named finished member
        exact .inl ⟨imports, new, listed, named.trans same⟩
      · refine .inr ⟨flight, fun item member => ?_⟩
        obtain ⟨new, listed, named⟩ := all item member
        obtain ⟨later, listed', named'⟩ := withRun_named finished listed
        exact ⟨later, listed', named'.trans named⟩
  exact makes.bind fun _ _ _ _ => makes_pure trivial

theorem executorReturned_makes (known : Known w) {runId : String} {artifacts : WorkspaceArtifacts} :
    Makes (Change digests audit w (.executorReturned runId artifacts))
      (executorReturned digests runId artifacts) w (fun _ _ => True) := by
  refine flightOf_makes.bind ?_
  rintro flight _ - ⟨rfl, member, rfl⟩
  refine land_makes.bind ?_
  rintro _ _ changes rfl
  have known' := Change.chain Change.known changes known
  obtain ⟨-, -, locked, found⟩ := known.flights flight member
  refine Makes.rescue ?_ fun error s' _ => ?_
  · refine ofResult_makes.bind ?_
    rintro _ _ - ⟨rfl, matched⟩
    refine intake_makes known' found locked ⟨rfl, rfl, rfl, rfl⟩ ?_ (fun item member => .inl member)
      (fun analyzed ok => ⟨require_eq_ok.mp matched, analyzed, ok⟩) rfl ?_
      (.inr ⟨⟨flight, member, rfl⟩, fun item member => ⟨item, member, rfl⟩⟩)
    · exact ⟨flight.record, .inr ⟨rfl, flight, member, rfl⟩, rfl, rfl⟩
    · intro other waiting
      simpa using (List.mem_filter.mp waiting).2
  · refine (endRun_makes (handled_kept error)).bind ?_
    rintro _ _ - -
    exact makes_raises

theorem imported_ne_campaign (imported digest : String) :
    "imported-" ++ imported ≠ "campaign-run-" ++ digest := by
  intro same
  have characters := congrArg String.toList same
  simp at characters

theorem importArtifacts_makes (known : Known w) {request : ImportRequest} :
    Makes (Change digests audit w (.importArtifacts request)) (importArtifacts digests request) w
      (fun _ _ => True) := by
  refine read_makes.bind ?_
  rintro _ _ - ⟨rfl, rfl⟩
  split
  · exact makes_pure trivial
  · next unreviewed =>
    refine getCase_makes.bind ?_
    rintro authored _ - ⟨rfl, found⟩
    refine ofResult_makes.bind ?_
    rintro _ _ - ⟨rfl, parsed⟩
    refine ofResult_makes.bind ?_
    rintro _ _ - ⟨rfl, named⟩
    refine ofResult_makes.bind ?_
    rintro _ _ - ⟨rfl, identifier⟩
    refine ofResult_makes.bind ?_
    rintro planSha256 _ - ⟨rfl, planned⟩
    have imports : Imports digests w request :=
      ⟨by simpa using unreviewed, Option.isSome_of_eq_some found, parsed,
        ⟨by simpa using require_eq_ok.mp named, require_eq_ok.mp identifier⟩, planSha256, planned⟩
    rw [← known.keys _ authored found] at found
    refine (modify_makes (.imported rfl rfl imports found)).bind ?_
    rintro _ _ changes rfl
    have known' := Change.chain Change.known changes known
    refine intake_makes known' found rfl ⟨rfl, rfl, rfl, rfl⟩ ⟨_, .inl ?_, rfl, rfl⟩ ?_
      (fun _ _ => trivial) rfl ?_
      (.inl ⟨⟨request, rfl, imports⟩, _, ?_, rfl⟩)
    · exact List.mem_append_right _ (List.mem_singleton.mpr rfl)
    · intro item member
      rcases List.mem_append.mp member with old | new
      · exact .inl old
      · exact .inr (congrArg (·.runId) (List.mem_singleton.mp new))
    · intro flight waiting same
      obtain ⟨⟨digest, named⟩, -⟩ := known.flights flight waiting
      exact imported_ne_campaign _ digest (same.symm.trans named)
    · exact List.mem_append_right _ (List.mem_singleton.mpr rfl)

end Intake

theorem cancel_makes {runId : String} :
    Makes (Change digests audit before operation) (cancel runId) w (fun _ _ => True) := by
  refine (modify_makes (.calls fun flight member => ⟨flight, member, rfl, rfl⟩)).bind ?_
  rintro _ _ - rfl
  refine read_makes.bind ?_
  rintro _ _ - ⟨rfl, rfl⟩
  split
  · exact makes_pure trivial
  · next queued found =>
    have member := List.mem_of_find?_eq_some found
    refine (updateRun_makes ?_ ?_).bind ?_
    · exact ⟨queued, .inl member, rfl, rfl⟩
    · exact .inl ⟨queued, member, rfl, rfl⟩
    · rintro _ _ - -
      exact makes_pure trivial

theorem deleteRun_makes {runId : String} :
    Makes (Change digests audit w (.deleteRun runId)) (deleteRun runId) w (fun _ _ => True) := by
  refine read_makes.bind ?_
  rintro _ _ - ⟨rfl, rfl⟩
  refine ofResult_makes.bind ?_
  rintro run _ - ⟨rfl, valid⟩
  refine ofResult_makes.bind ?_
  rintro lifecycle _ - ⟨rfl, found⟩
  exact ⟨.single (.deleted rfl rfl valid found), fun _ _ => trivial⟩

end Runs

section Reviews

/-- A review that is replaced by itself with more in it, rehashed. -/
theorem replaceReview_makes {review : WorkspaceReview} (updated : WorkspaceReview) (member : review ∈ w.state.reviews)
    (same : updated.reviewId = review.reviewId ∧ updated.runId = review.runId ∧
      updated.caseId = review.caseId ∧ updated.caseSha256 = review.caseSha256 ∧
      updated.artifactSetSha256 = review.artifactSetSha256)
    (bound : updated.reviewSha256 = digests.payload updated.canonicalPayload)
    (touched : updated.operatorObservations ≠ [] ∨ updated.approval ≠ none) :
    Makes (Change digests audit before operation) (replaceReview updated) w
      (fun _ s => s = w.committed (withReview updated w.state)) :=
  commit_makes (.replaced member same bound touched)

/-- A review that is replaced stays among the reviews. -/
theorem mem_withReview {review updated : WorkspaceReview} {state : CampaignWorkspaceState}
    (member : review ∈ state.reviews) (same : updated.reviewId = review.reviewId) :
    updated ∈ (withReview updated state).reviews :=
  List.mem_map.mpr ⟨review, member, if_pos same.symm⟩

theorem inDevelopment_advances (known : Known w) {review updated : WorkspaceReview}
    {lifecycle reviewed : LifecycleRecord} {actorId reason sha : String} {chosen : Bool}
    (found : w.state.lifecycle.get? review.caseId = some lifecycle)
    (development : inDevelopment lifecycle review = true)
    (moved : lifecycle.transition .baselined actorId reason (some review.artifactSetSha256)
      (some sha) = .ok reviewed)
    (member : updated ∈ w.state.reviews) (caseId : updated.caseId = review.caseId)
    (caseSha256 : updated.caseSha256 = review.caseSha256)
    (artifacts : updated.artifactSetSha256 = review.artifactSetSha256) :
    Advances w.state.reviews chosen lifecycle reviewed := by
  obtain ⟨-, -, -, key⟩ := known.record found
  simp only [inDevelopment, Bool.and_eq_true, decide_eq_true_eq] at development
  rw [← artifacts] at moved
  exact advances_of_review member (caseId.trans key.symm) (caseSha256.trans development.1.symm) moved
    (by decide)

theorem addObservation_makes (known : Known w) {reviewId note actorId : String} :
    Makes (Change digests audit before operation) (addObservation digests reviewId note actorId) w
      (fun _ _ => True) := by
  refine ofResult_makes.bind ?_
  rintro _ _ - ⟨rfl, -⟩
  refine reviewOf_makes.bind ?_
  rintro review _ - ⟨rfl, member, -⟩
  refine (replaceReview_makes (observed digests review note) member ⟨rfl, rfl, rfl, rfl, rfl⟩ rfl
    (.inl (by simp [observed, WorkspaceReview.rehash]))).bind ?_
  rintro _ _ changes rfl
  have known' := Change.chain Change.known changes known
  refine lifecycleOf_makes.bind ?_
  rintro lifecycle _ - ⟨rfl, found⟩
  split
  · next development =>
    refine assertSnapshotAssessmentsComplete_makes.bind ?_
    rintro _ _ - rfl
    refine ofResult_makes.bind ?_
    rintro reviewed _ - ⟨rfl, moved⟩
    have advances : Advances _ operation.chooses lifecycle reviewed :=
      inDevelopment_advances known' found development moved (mem_withReview member rfl) rfl rfl rfl
    refine (commit_makes (.lifecycle found advances ?_)).bind ?_
    · obtain ⟨-, state, -⟩ := transition_eq_ok moved
      split
      · next active => exact .inr ⟨active, rfl, rfl, by rw [state]; decide⟩
      · exact .inl ⟨rfl, rfl⟩
    · rintro _ _ - -
      refine purgeCaseSnapshotImages_makes.bind ?_
      rintro _ _ - -
      exact makes_pure trivial
  · exact makes_pure trivial

theorem checkApproval_makes {change : CampaignWorkspace → CampaignWorkspace → Prop}
    {review : WorkspaceReview} {decided : OperatorDecision} :
    Makes change (checkApproval review decided) w (fun _ s => w = s) := by
  unfold checkApproval
  split
  · refine lifecycleOf_makes.bind ?_
    rintro lifecycle _ - ⟨rfl, -⟩
    split
    · exact assertSnapshotAssessmentsComplete_makes
    · exact makes_pure rfl
  · exact makes_pure rfl

theorem bindBaseline_makes (known : Known w) {review updated : WorkspaceReview} {sha : String}
    {decided : OperatorDecision} (member : updated ∈ w.state.reviews)
    (caseId : updated.caseId = review.caseId) (caseSha256 : updated.caseSha256 = review.caseSha256)
    (artifacts : updated.artifactSetSha256 = review.artifactSetSha256) :
    Makes (Change digests audit before operation) (bindBaseline review sha decided) w
      (fun _ _ => True) := by
  unfold bindBaseline
  split
  · refine lifecycleOf_makes.bind ?_
    rintro lifecycle _ - ⟨rfl, found⟩
    split
    · next development =>
      refine ofResult_makes.bind ?_
      rintro reviewed _ - ⟨rfl, moved⟩
      refine (replaceLifecycle_makes known found (inDevelopment_advances known found development moved
        member caseId caseSha256 artifacts)).bind ?_
      rintro _ _ - -
      exact purgeCaseSnapshotImages_makes
    · exact makes_pure trivial
  · exact makes_pure trivial

theorem decideReview_makes (known : Known w) {reviewId : String} {decided : OperatorDecision} :
    Makes (Change digests audit before operation) (decideReview digests reviewId decided) w
      (fun _ _ => True) := by
  refine reviewOf_makes.bind ?_
  rintro review _ - ⟨rfl, member, -⟩
  refine ofResult_makes.bind ?_
  rintro _ _ - ⟨rfl, -⟩
  refine checkApproval_makes.bind ?_
  rintro _ _ - rfl
  refine ofResult_makes.bind ?_
  rintro _ _ - ⟨rfl, -⟩
  refine (replaceReview_makes (decidedReview digests review decided) member
    ⟨rfl, rfl, rfl, rfl, rfl⟩ rfl (.inr (by simp [decidedReview, WorkspaceReview.rehash]))).bind ?_
  rintro _ _ changes rfl
  have known' := Change.chain Change.known changes known
  refine (bindBaseline_makes known' (mem_withReview member rfl) rfl rfl rfl).bind ?_
  rintro _ _ - -
  exact makes_pure trivial

theorem promoteActive_makes (known : Known w) {operatorId reason : String} :
    Makes (Change digests audit before operation) (promoteActive operatorId reason) w
      (fun _ _ => True) := by
  refine activeCase_makes.bind ?_
  rintro authored _ - ⟨rfl, caseId, found⟩
  rw [← known.keys caseId authored found] at found
  refine read_makes.bind ?_
  rintro _ _ - ⟨rfl, rfl⟩
  refine ofResult_makes.bind ?_
  rintro _ _ - ⟨rfl, -⟩
  refine lifecycleOf_makes.bind ?_
  rintro lifecycle _ - ⟨rfl, present⟩
  refine ofResult_makes.bind ?_
  rintro _ _ - ⟨rfl, -⟩
  refine ofResult_makes.bind ?_
  rintro _ _ - ⟨rfl, -⟩
  refine ofResult_makes.bind ?_
  rintro latest _ - ⟨rfl, last⟩
  split at last
  · next listed =>
    cases last
    exact qualify_makes known found present (List.mem_of_mem_filter (List.mem_of_getLast? listed))
      (by decide)
  · cases last

theorem addSnapshot_makes {runId snapshotId : String} {accepted : Except CampaignRaised Unit} :
    Makes (Change digests audit before operation) (addSnapshot runId snapshotId accepted) w
      (fun _ _ => True) := by
  refine read_makes.bind ?_
  rintro _ _ - ⟨rfl, rfl⟩
  refine ofResult_makes.bind ?_
  rintro _ _ - ⟨rfl, present⟩
  refine ofResult_makes.bind ?_
  rintro _ _ - ⟨rfl, -⟩
  refine (commit_makes (.snapshots ?_)).mono fun _ _ _ => trivial
  intro snapshot member
  rcases List.mem_append.mp member with old | new
  · exact .inl ⟨snapshot, old, rfl⟩
  · cases List.mem_singleton.mp new
    rw [require_eq_ok] at present
    obtain ⟨run, found⟩ := Option.isSome_iff_exists.mp present
    exact .inr ⟨run, List.mem_of_find?_eq_some found, by simpa using List.find?_some found⟩

theorem snapshotOf_makes {change : CampaignWorkspace → CampaignWorkspace → Prop}
    {snapshotId : String} :
    Makes change (snapshotOf snapshotId) w
      (fun snapshot s => w = s ∧ snapshot ∈ w.state.snapshots) := by
  refine read_makes.bind ?_
  rintro _ _ - ⟨rfl, rfl⟩
  refine makes_ofResult fun snapshot returned => ⟨rfl, ?_⟩
  split at returned
  · next found =>
    cases returned
    exact List.mem_of_find?_eq_some found
  · cases returned

theorem replaceSnapshot_makes {snapshot updated : CampaignSnapshotRecord}
    (member : snapshot ∈ w.state.snapshots) (same : updated.runId = snapshot.runId) :
    Makes (Change digests audit before operation) (replaceSnapshot updated) w (fun _ _ => True) := by
  refine (commit_makes (.snapshots ?_)).mono fun _ _ _ => trivial
  intro item listed
  obtain ⟨old, present, rfl⟩ := List.mem_map.mp listed
  refine .inl ?_
  split
  · exact ⟨snapshot, member, same.symm⟩
  · exact ⟨old, present, rfl⟩

theorem setSnapshotComment_makes {snapshotId note stripped : String} :
    Makes (Change digests audit before operation) (setSnapshotComment snapshotId note stripped) w
      (fun _ _ => True) := by
  refine ofResult_makes.bind ?_
  rintro _ _ - ⟨rfl, -⟩
  refine snapshotOf_makes.bind ?_
  rintro snapshot _ - ⟨rfl, member⟩
  exact replaceSnapshot_makes member rfl

theorem setSnapshotAssessment_makes {snapshotId assessment : String} {confidence : ℚ} :
    Makes (Change digests audit before operation)
      (setSnapshotAssessment snapshotId assessment confidence) w (fun _ _ => True) := by
  refine ofResult_makes.bind ?_
  rintro _ _ - ⟨rfl, -⟩
  refine snapshotOf_makes.bind ?_
  rintro snapshot _ - ⟨rfl, member⟩
  exact replaceSnapshot_makes member rfl

end Reviews

/-- Every operation is a sequence of changes from the workspace that it finds. -/
theorem step_changes (known : Known w) (operation : Operation) :
    ReflTransGen (Change digests audit w operation) w (step digests audit w operation) := by
  cases operation with
  | setActive => exact (setActive_makes known).changes
  | moveToReview => exact (moveToReview_makes known).changes
  | completeCase => exact (completeCase_makes known).changes
  | setLifecycleState => exact (setLifecycleState_makes known rfl).changes
  | createChild => exact createChild_makes.changes
  | requestRun => exact (requestRun_makes known).changes
  | cancelWaiting => exact cancelWaiting_makes.changes
  | launch => exact (launch_makes known).changes
  | executorRaised => exact (executorRaised_makes known).changes
  | cancelExecuting => exact cancelExecuting_makes.changes
  | executorReturned => exact (executorReturned_makes known).changes
  | importArtifacts => exact (importArtifacts_makes known).changes
  | cancel => exact cancel_makes.changes
  | deleteRun => exact deleteRun_makes.changes
  | addObservation => exact (addObservation_makes known).changes
  | decideReview => exact (decideReview_makes known).changes
  | promoteActive => exact (promoteActive_makes known).changes
  | addSnapshot => exact addSnapshot_makes.changes
  | setSnapshotComment => exact setSnapshotComment_makes.changes
  | setSnapshotAssessment => exact setSnapshotAssessment_makes.changes

theorem step_known (known : Known w) (operation : Operation) :
    Known (step digests audit w operation) :=
  Change.chain Change.known (step_changes known operation) known

theorem initialLifecycle_get? (cases : List CatalogCase) (caseId : String) :
    (initialLifecycle cases).get? caseId =
      ((discovered cases).get? caseId).map CatalogCase.lifecycleRecord :=
  Dict.get?_ofList_map cases CatalogCase.caseId id CatalogCase.lifecycleRecord caseId

theorem discovered_key {cases : List CatalogCase} {caseId : String} {authored : CatalogCase}
    (found : (discovered cases).get? caseId = some authored) : authored.caseId = caseId := by
  refine Dict.get?_ofList (p := fun caseId authored => authored.caseId = caseId) ?_ found
  intro item member
  obtain ⟨_, -, rfl⟩ := List.mem_map.mp member
  rfl

theorem start_known (cases : List CatalogCase) : Known (start cases) := by
  refine ⟨fun caseId => ?_, fun _ _ => discovered_key, by simp [start]⟩
  simp only [start, initialLifecycle_get?, Option.map_map]
  rfl

theorem run_invariant {I : CampaignWorkspace → Prop} {cond : CampaignWorkspace → Operation → Prop}
    {cases : List CatalogCase} {operations : List Operation}
    (kept : ∀ w operation, Known w → cond w operation → I w → I (step digests audit w operation))
    (initial : I (start cases))
    (along : Runs.Along (step digests audit) cond (start cases) operations) :
    Known (run digests audit (start cases) operations) ∧
      I (run digests audit (start cases) operations) :=
  Runs.invariant_along (I := fun w => Known w ∧ I w)
    (fun w operation held meets =>
      ⟨step_known held.1 operation, kept w operation held.1 meets held.2⟩)
    ⟨start_known cases, initial⟩ along

theorem run_kept {I : CampaignWorkspace → Prop} {cases : List CatalogCase}
    (kept : ∀ w operation, Known w → I w → I (step digests audit w operation))
    (initial : I (start cases)) (operations : List Operation) :
    I (run digests audit (start cases) operations) :=
  (Runs.invariant (I := fun w => Known w ∧ I w)
    (fun w operation held => ⟨step_known held.1 operation, kept w operation held.1 held.2⟩)
    ⟨start_known cases, initial⟩).2

theorem run_known (cases : List CatalogCase) (operations : List Operation) :
    Known (run digests audit (start cases) operations) :=
  Runs.invariant (fun _ operation known => step_known known operation) (start_known cases)

/-! A workspace with one case. -/
section Hover

def hoverAuthored : CatalogCase := { caseId := "hover", caseSha256 := "hover-sha" }

/-- Digests that tell apart what the workspace below hashes. -/
def hoverDigests : CampaignDigests where
  payload payload := if payload.length = 12 then "intake" else "canonical"
  importedArtifacts files := files.manifest
  executedArtifacts files := files.manifest
  review runId artifactHash := runId ++ artifactHash

def hoverAnalyzed : AnalyzedArtifacts := ⟨⟨[], "analysis"⟩, true⟩

def hoverCompared : ReviewComparisons := ⟨[], [], none⟩

def hoverFiles (manifest : String) : EvidenceFiles := ⟨manifest, "bundle", "evaluation", "rows", "analysis"⟩

def hoverImport (manifest execution : String) (analyzed : Except CampaignRaised AnalyzedArtifacts) :
    Operation :=
  .importArtifacts
    { caseId := "hover"
      files := hoverFiles manifest
      parsed := .ok ()
      missionExecutionId := execution
      upperStatus := "SUCCEEDED"
      planned := .ok "plan"
      analyzed := analyzed
      compared := .ok hoverCompared }

/-- The bytes are no telemetry that the analyzer can read. -/
def unreadable : Except CampaignRaised AnalyzedArtifacts := .error (raised "ValueError" "telemetry")

def hoverRun (operations : List Operation) : CampaignWorkspace :=
  run hoverDigests (fun _ => .ok ()) (start [hoverAuthored]) operations

end Hover

end CampaignWorkspace
end CrazySwarm
