import CrazySwarm.CampaignWorkspaceSteps

/-! The hash of a review. A new review is hashed over the fields that its intake has at hand, and a
review that is observed or decided is hashed over all its fields. -/
namespace CrazySwarm

/-- The review has an observation or an approval. -/
def WorkspaceReview.touched (review : WorkspaceReview) : Bool :=
  !review.operatorObservations.isEmpty || review.approval.isSome

namespace CampaignWorkspace
open Call Relation

variable {digests : CampaignDigests} {audit : CatalogCase → Except CampaignRaised Unit}

/-- Each review is hashed by the path that wrote it last. -/
def Bound (digests : CampaignDigests) (w : CampaignWorkspace) : Prop :=
  ∀ review ∈ w.state.reviews, review.reviewSha256 =
    digests.payload (if review.touched then review.canonicalPayload else review.intakePayload)

section Changes

variable {before w w' : CampaignWorkspace} {operation : Operation}

theorem Change.bound (change : Change digests audit before operation w w') (bound : Bound digests w) :
    Bound digests w' := by
  cases change with
  | reviewed _ _ hash fresh =>
    intro item member
    rcases List.mem_append.mp member with old | new
    · exact bound item old
    · cases List.mem_singleton.mp new
      rw [hash]
      simp [WorkspaceReview.touched, fresh.1, fresh.2]
  | replaced _ _ hash touched =>
    intro item member
    obtain ⟨old, present, rfl⟩ := List.mem_map.mp member
    split
    · rw [hash, if_pos]
      rcases touched with observed | approved
      · simp [WorkspaceReview.touched, observed]
      · simp [WorkspaceReview.touched, Option.isSome_iff_ne_none, approved]
    · exact bound old present
  | deleted => exact fun item member => bound item (List.mem_of_mem_filter member)
  | _ => exact bound

theorem step_bound (known : Known w) (bound : Bound digests w) :
    Bound digests (step digests audit w operation) :=
  Change.chain Change.bound (step_changes known operation) bound

theorem run_bound (cases : List CatalogCase) (operations : List Operation) :
    Bound digests (run digests audit (start cases) operations) :=
  run_kept (fun _ _ known bound => step_bound known bound) (by simp [Bound, start]) operations

end Changes

/-- The hash is that of the content if and only if the review has been touched, or the hashes of the
two payloads fall together. -/
theorem bound_iff {review : WorkspaceReview} (bound : review.reviewSha256 =
    digests.payload (if review.touched then review.canonicalPayload else review.intakePayload)) :
    review.reviewSha256 = digests.payload review.canonicalPayload ↔
      review.touched = true ∨
        digests.payload review.intakePayload = digests.payload review.canonicalPayload := by
  rw [bound]
  by_cases touched : review.touched = true
  · simp [touched]
  · simp [touched]

section Content

theorem statusValue_inj {first second : CampaignRunStatus}
    (same : WorkspaceReview.statusValue first = WorkspaceReview.statusValue second) :
    first = second := by
  revert same
  cases first <;> cases second <;> decide

theorem decisionValue_inj {first second : ReviewDecision}
    (same : WorkspaceReview.decisionValue first = WorkspaceReview.decisionValue second) :
    first = second := by
  revert same
  cases first <;> cases second <;> decide

/-- A note is not taken for its absence. -/
theorem noteValue_inj {first second : Option String}
    (same : (first.elim "null" fun note => "\"" ++ note) =
      second.elim "null" fun note => "\"" ++ note) : first = second := by
  have apart : ∀ note : String, "null" ≠ "\"" ++ note := by
    intro note same
    simpa using congrArg String.toList same
  cases first with
  | none =>
    cases second with
    | none => rfl
    | some note => exact absurd same (apart note)
  | some note =>
    cases second with
    | none => exact absurd same.symm (apart note)
    | some note' => exact congrArg some (by simpa using same)

theorem approval_inj {first second : ReviewApproval}
    (same : WorkspaceReview.approvalFields first ++ [("approval_sha256", first.approvalSha256)] =
      WorkspaceReview.approvalFields second ++ [("approval_sha256", second.approvalSha256)]) :
    first = second := by
  obtain ⟨operatorId, decidedAtUtc, decision, reportSha256, reason, note, approvalSha256⟩ := first
  obtain ⟨operatorId', decidedAtUtc', decision', reportSha256', reason', note', approvalSha256'⟩ :=
    second
  simp only [WorkspaceReview.approvalFields, List.cons_append, List.nil_append, List.cons.injEq,
    Prod.mk.injEq, true_and, and_true] at same
  obtain ⟨rfl, rfl, decision, rfl, rfl, note, rfl⟩ := same
  cases decisionValue_inj decision
  cases noteValue_inj note
  rfl

theorem analysis_inj {first second : MissionAnalysis}
    (same : first.fields ++ [("analysis_sha256", first.analysisSha256)] =
      second.fields ++ [("analysis_sha256", second.analysisSha256)]) : first = second := by
  obtain ⟨fields, last⟩ := List.append_inj' same rfl
  cases first
  cases second
  simp_all

/-- A payload value that may be absent, and is no null otherwise, is read back. -/
theorem elim_object_inj {α : Type} {f : α → List (String × String)} {first second : Option α}
    (inj : ∀ x y, f x = f y → x = y)
    (same : (first.elim PayloadValue.null fun x => .object (f x)) =
      second.elim PayloadValue.null fun x => .object (f x)) : first = second := by
  cases first with
  | none =>
    cases second with
    | none => rfl
    | some y => cases same
  | some x =>
    cases second with
    | none => cases same
    | some y => exact congrArg some (inj x y (PayloadValue.object.inj same))

theorem canonicalPayload_inj {first second : WorkspaceReview}
    (same : first.canonicalPayload = second.canonicalPayload)
    (hash : first.reviewSha256 = second.reviewSha256) : first = second := by
  obtain ⟨⟨reviewId, runId, status⟩, caseId, caseSha256, planSha256, artifacts, analysis, baseline,
    crossCase, mode, questions, observations, approval, reviewSha256⟩ := first
  obtain ⟨⟨reviewId', runId', status'⟩, caseId', caseSha256', planSha256', artifacts', analysis',
    baseline', crossCase', mode', questions', observations', approval', reviewSha256'⟩ := second
  simp only [WorkspaceReview.canonicalPayload, List.cons.injEq, Prod.mk.injEq, true_and, and_true,
    PayloadValue.text.injEq, PayloadValue.texts.injEq, PayloadValue.object.injEq] at same
  obtain ⟨rfl, rfl, rfl, rfl, status, rfl, rfl, analysis, rfl, rfl, mode, rfl, rfl, approval⟩ := same
  cases hash
  cases statusValue_inj status
  cases analysis_inj analysis
  cases elim_object_inj (f := id) (fun _ _ eq => eq) mode
  cases elim_object_inj (fun _ _ => approval_inj) approval
  rfl

end Content

theorem decideReview_report {w : CampaignWorkspace} {reviewId : String} {decided : OperatorDecision}
    {updated : WorkspaceReview} (ok : (decideReview digests reviewId decided w).1 = .ok updated) :
    ∃ review ∈ w.state.reviews,
      updated.approval.map (·.reportSha256) = some review.reviewSha256 := by
  have makes : Makes (fun _ _ => True) (decideReview digests reviewId decided) w
      (fun updated _ => ∃ review ∈ w.state.reviews,
        updated.approval.map (·.reportSha256) = some review.reviewSha256) := by
    refine reviewOf_makes.bind ?_
    rintro review _ - ⟨rfl, member, -⟩
    refine makes_any.bind ?_
    rintro _ _ - -
    refine makes_any.bind ?_
    rintro _ _ - -
    refine makes_any.bind ?_
    rintro _ _ - -
    refine makes_any.bind ?_
    rintro _ _ - -
    refine makes_any.bind ?_
    rintro _ _ - -
    exact makes_pure ⟨review, member, rfl⟩
  exact makes.returned updated ok

/-- In every run the hash of a review is that of its content if and only if the review has been
observed or decided since its intake, and likewise for the report that an approval names. -/
theorem review_hash_iff (cases : List CatalogCase) (operations : List Operation) :
    (∀ review ∈ (run digests audit (start cases) operations).state.reviews,
      (review.reviewSha256 = digests.payload review.canonicalPayload ↔ review.touched = true ∨
        digests.payload review.intakePayload = digests.payload review.canonicalPayload)) ∧
    (∀ reviewId decided updated,
      (decideReview digests reviewId decided (run digests audit (start cases) operations)).1 =
        .ok updated →
      ∃ review ∈ (run digests audit (start cases) operations).state.reviews,
        (updated.approval.map (·.reportSha256) = some (digests.payload review.canonicalPayload) ↔
          review.touched = true ∨
            digests.payload review.intakePayload = digests.payload review.canonicalPayload)) ∧
    (Function.Injective digests.payload →
      ∀ first ∈ (run digests audit (start cases) operations).state.reviews,
      ∀ second ∈ (run digests audit (start cases) operations).state.reviews,
        first.touched = true → second.touched = true → first.reviewSha256 = second.reviewSha256 →
          first = second) := by
  have bound : Bound digests (run digests audit (start cases) operations) := run_bound cases operations
  refine ⟨fun review member => bound_iff (bound review member), ?_, ?_⟩
  · intro reviewId decided updated ok
    obtain ⟨review, member, report⟩ := decideReview_report ok
    refine ⟨review, member, ?_⟩
    rw [report, Option.some_inj]
    exact bound_iff (bound review member)
  · intro injective first present second present' touched touched' same
    have hash := (bound_iff (bound first present)).mpr (.inl touched)
    have hash' := (bound_iff (bound second present')).mpr (.inl touched')
    exact canonicalPayload_inj (injective (hash.symm.trans (same.trans hash'))) same

/-- A review that is observed has the hash of its content, and one that is not has not. -/
theorem review_hash_iff_hover :
    ((hoverRun [hoverImport "m" "exec" (.ok hoverAnalyzed),
        .addObservation "review-imported-mm" "seen" "operator"]).state.reviews.map
      fun review => (review.touched, review.reviewSha256)) = [(true, "canonical")] ∧
    ∀ review ∈ (hoverRun [hoverImport "m" "exec" (.ok hoverAnalyzed),
        .addObservation "review-imported-mm" "seen" "operator"]).state.reviews,
      (review.reviewSha256 = hoverDigests.payload review.canonicalPayload ↔ review.touched = true ∨
        hoverDigests.payload review.intakePayload = hoverDigests.payload review.canonicalPayload) :=
  ⟨by decide, (review_hash_iff [hoverAuthored] _).1⟩

/-- The hash of a new review is not that of its content. -/
theorem intake_hash_unbound :
    ¬ ∀ review ∈ (hoverRun [hoverImport "m" "exec" (.ok hoverAnalyzed)]).state.reviews,
      review.reviewSha256 = hoverDigests.payload review.canonicalPayload := by
  decide

end CampaignWorkspace
end CrazySwarm
