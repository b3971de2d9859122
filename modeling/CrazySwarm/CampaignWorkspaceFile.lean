import CrazySwarm.CampaignEditTraces

/-! What the workspace file holds while the campaign service runs. Operations write the whole state
with their last change, except that an import records its run before its telemetry is analyzed. -/
namespace CrazySwarm
namespace CampaignWorkspace
open Call

variable {digests : CampaignDigests} {audit : CatalogCase → Except CampaignRaised Unit}
  {w w' before : CampaignWorkspace} {operation : Operation} {request : ImportRequest}

/-- The file holds the state, but for runs that were recorded since it was written. -/
def Saved (w : CampaignWorkspace) : Prop :=
  ∃ runs, w.persisted = some { w.state with runs := runs } ∧ runs <+: w.state.runs

def Written (w : CampaignWorkspace) : Prop := w.persisted = some w.state

/-- An import gets to record its run, and its telemetry cannot be analyzed. -/
def Unanalyzed (digests : CampaignDigests) (w : CampaignWorkspace) : Operation → Prop
  | .importArtifacts request => Imports digests w request ∧
      ∃ error, request.analyzed = .error error
  | _ => False

theorem Written.saved (written : Written w) : Saved w :=
  ⟨w.state.runs, written, List.prefix_refl _⟩

/-- Only the run of an import is recorded without the file. -/
theorem Change.written (change : Change digests audit before operation w w')
    (other : ¬∃ request, operation = .importArtifacts request) (written : Written w) :
    Written w' := by
  cases change with
  | imported asked => exact absurd ⟨_, asked⟩ other
  | calls | departed | childFile => exact written
  | _ => rfl

theorem Change.saved (change : Change digests audit before operation w w') (saved : Saved w) :
    Saved w' := by
  cases change with
  | imported =>
    obtain ⟨runs, held, early⟩ := saved
    exact ⟨runs, held, early.trans (List.prefix_append _ _)⟩
  | calls | departed | childFile => exact saved
  | _ => exact Written.saved rfl

/-- The file is written when the import ends exactly if its telemetry was analyzed. -/
theorem importArtifacts_written_iff (known : Known w) (written : Written w) :
    Written (importArtifacts digests request w).2 ↔
      ¬Unanalyzed digests w (.importArtifacts request) := by
  rcases importArtifacts_ends digests request w with
    ⟨quiet, not_imports⟩ | ⟨imports, authored, planSha256, found, ends⟩
  · rw [quiet]
    exact iff_of_true written fun unanalyzed => not_imports unanalyzed.1
  · have key := known.keys _ _ found
    obtain ⟨record, present, -⟩ := known.lifecycle (by rwa [key])
    rw [ends]
    generalize recorded : importedRun request authored (digests.importedArtifacts request.files)
      planSha256 = run
    cases read : request.analyzed with
    | error error =>
      refine iff_of_false (fun late => ?_) fun fine => fine ⟨imports, error, read⟩
      have stays : (intakeOf digests request authored planSha256 (recording w run)).2 =
          recording w run := by
        rw [intakeOf, intake, read]
        rfl
      rw [stays] at late
      have same : w.state.runs = w.state.runs ++ [run] :=
        congrArg CampaignWorkspaceState.runs (Option.some.inj (written.symm.trans late))
      simp at same
    | ok analyzed =>
      refine iff_of_true ?_ ?_
      · let ends (result : Except CampaignRaised WorkspaceReview × CampaignWorkspace) : Prop :=
          Written result.2
        have analyzes : ends (intakeOf digests request authored planSha256 (recording w run)) := by
          refine ends_ofResult (fun error failed => ?_) fun _ _ => ?_
          · cases read.symm.trans failed
          refine ends_done rfl (ends_ofResult (fun _ _ => rfl) fun _ _ => ?_)
          exact ends_done (keepReview_apply present) rfl
        exact analyzes
      · rintro ⟨-, error, failed⟩
        cases read.symm.trans failed

theorem step_written_iff (known : Known w) (written : Written w) (operation : Operation) :
    Written (step digests audit w operation) ↔ ¬Unanalyzed digests w operation := by
  by_cases asked : ∃ request, operation = .importArtifacts request
  · obtain ⟨request, rfl⟩ := asked
    exact importArtifacts_written_iff known written
  · refine iff_of_true ?_ ?_
    · exact Change.chain (fun change => change.written asked) (step_changes known operation) written
    · cases operation with
      | importArtifacts request => exact absurd ⟨request, rfl⟩ asked
      | _ => exact id

theorem step_saved (known : Known w) (saved : Saved w) (operation : Operation) :
    Saved (step digests audit w operation) :=
  Change.chain (fun change => change.saved) (step_changes known operation) saved

theorem along_written_iff (known : Known w) (written : Written w) (operations : List Operation) :
    Runs.Along (step digests audit)
        (fun w operation => Written (step digests audit w operation)) w operations ↔
      Runs.Along (step digests audit) (fun w operation => ¬Unanalyzed digests w operation)
        w operations := by
  induction operations generalizing w with
  | nil => rfl
  | cons operation rest ih =>
    have here : Written (step digests audit w operation) ↔ ¬Unanalyzed digests w operation :=
      step_written_iff known written operation
    constructor
    · rintro ⟨kept, later⟩
      exact ⟨here.mp kept, (ih (step_known known operation) kept).mp later⟩
    · rintro ⟨fine, later⟩
      have kept := here.mpr fine
      exact ⟨kept, (ih (step_known known operation) kept).mpr later⟩

/-- Over every run of operations, failing ones included, the workspace file is behind by no more than
runs that imports have recorded, and by nothing exactly if each import's telemetry can be analyzed. -/
theorem run_saved (digests : CampaignDigests) (audit : CatalogCase → Except CampaignRaised Unit)
    (cases : List CatalogCase) (operations : List Operation) :
    Saved (run digests audit (start cases) operations) ∧
    (Runs.Along (step digests audit)
        (fun w operation => Written (step digests audit w operation)) (start cases) operations ↔
      Runs.Along (step digests audit) (fun w operation => ¬Unanalyzed digests w operation)
        (start cases) operations) := by
  have known : Known (start cases) := start_known cases
  have written : Written (start cases) := rfl
  refine ⟨?_, along_written_iff known written operations⟩
  have kept : Known (run digests audit (start cases) operations) ∧
      Saved (run digests audit (start cases) operations) :=
    Runs.invariant (I := fun w => Known w ∧ Saved w)
    (fun w operation held => ⟨step_known held.1 operation, step_saved held.1 held.2 operation⟩)
    ⟨known, written.saved⟩
  exact kept.2

end CampaignWorkspace
end CrazySwarm
