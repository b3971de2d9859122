import CrazySwarm.CampaignWorkspaceSteps

/-! What a campaign edit that raises leaves behind. Imports record their run, and new children their
file, before the last of their checks; selections and lifecycle choices change nothing before
theirs, but one lifecycle choice is not the one that is made. -/
namespace CrazySwarm
namespace CampaignWorkspace
open Call

variable (digests : CampaignDigests) (audit : CatalogCase → Except CampaignRaised Unit)
  {w w' : CampaignWorkspace} {caseId actorId reason : String}
  {planned : Except CampaignRaised PlanVerdict}

def Classified (caseId : String) (w w' : CampaignWorkspace) : Prop :=
  ∃ old new, w.state.lifecycle.get? caseId = some old ∧ old.state = .definedNotRun ∧
    new.state ∈ [.ready, .blocked] ∧
    w'.state = { w.state with lifecycle := w.state.lifecycle.insert caseId new }

/-- The state, the catalog and the files of `children` are as before, but for a classification. -/
structure Traceless (classified : Option String) (w w' : CampaignWorkspace) : Prop where
  state : w'.state = w.state ∨ ∃ caseId ∈ classified, Classified caseId w w'
  catalog : w'.catalog = w.catalog
  children : ∀ caseId, w'.children.get? caseId = w.children.get? caseId

/-- The lifecycle choice leaves no trace when it raises, and is made when it returns. -/
def Chosen (caseId : String) (state : LifecycleState) (w : CampaignWorkspace)
    (ends : Except CampaignRaised LifecycleRecord × CampaignWorkspace) : Prop :=
  (∀ error, ends.1 = .error error → Traceless (some caseId) w ends.2) ∧
    ∀ record, ends.1 = .ok record →
      ∃ kept, ends.2.state.lifecycle.get? caseId = some kept ∧ kept.state = state

/-- If the edit raises it leaves no trace, and a lifecycle choice that returns is made. -/
def Edits (w : CampaignWorkspace) : Operation → Prop
  | .importArtifacts request => ∀ error, (importArtifacts digests request w).1 = .error error →
      Traceless none w (importArtifacts digests request w).2
  | .createChild childCaseId ownsIdentity child => ∀ error,
      (createChild audit childCaseId ownsIdentity child w).1 = .error error →
      Traceless none w (createChild audit childCaseId ownsIdentity child w).2
  | .setActive caseId actorId reason planned => ∀ error,
      (setActive caseId actorId reason planned w).1 = .error error →
      Traceless (some caseId) w (setActive caseId actorId reason planned w).2
  | .setLifecycleState caseId state actorId reason planned =>
      Chosen caseId state w (setLifecycleState caseId state actorId reason planned w)
  | _ => True

/-- The selection of a case is refused by one of its checks. -/
def Refused (w : CampaignWorkspace) (caseId : String) (case : CatalogCase) (actorId : String)
    (planned : Except CampaignRaised PlanVerdict) : Prop :=
  w.state.runs.any (·.live) = true ∨ case.environment = .real ∨
    case.implementationStatus ≠ .executable ∨ (∀ plan, planned = .ok plan → plan.ready = false) ∨
    case.hasMilestone = true ∧ incompletePrerequisites w.state case [.baselined, .promoted] ≠ [] ∨
    isIdentifier actorId = false ∧ ∃ other record, other ≠ caseId ∧
      w.state.lifecycle.get? other = some record ∧ record.state = .activeDevelopment

/-- No check fails after the import has recorded its run, or the child has its file, unless the file
is there already; and no case that is baselined or promoted is chosen to be active. -/
def Unchecked (w : CampaignWorkspace) : Operation → Prop
  | .importArtifacts request => Imports digests w request →
      (∃ analyzed, request.analyzed = .ok analyzed) ∧ ∃ compared, request.compared = .ok compared
  | .createChild childCaseId ownsIdentity child => ownsIdentity = false →
      ∀ active authored, (activeCase w).1 = .ok active → child active = .ok authored →
        (w.catalog.get? childCaseId = none ∧
          audit { authored with caseId := childCaseId } = .ok ()) ∨
        w.children.get? childCaseId = some { authored with caseId := childCaseId }
  | .setLifecycleState caseId .activeDevelopment actorId _ planned => ∀ authored record,
      w.catalog.get? caseId = some authored → w.state.lifecycle.get? caseId = some record →
        record.state ∈ [.baselined, .promoted] → Refused w caseId authored actorId planned
  | _ => True

section Steps

variable {α : Type} {ends : Except CampaignRaised α × CampaignWorkspace → Prop}

theorem getCase_apply (caseId : String) (w : CampaignWorkspace) :
    getCase caseId w = (match w.catalog.get? caseId with
      | some authored => .ok authored
      | none => .error (raised "KeyError" ("unknown campaign case: " ++ caseId)), w) := rfl

theorem lifecycleOf_apply (caseId : String) (w : CampaignWorkspace) :
    lifecycleOf caseId w = (match w.state.lifecycle.get? caseId with
      | some record => .ok record
      | none => .error (raised "KeyError" caseId), w) := rfl

theorem ends_getCase {next : CatalogCase → WorkspaceCall α}
    (missing : ∀ error, w.catalog.get? caseId = none → ends (.error error, w))
    (found : ∀ authored, w.catalog.get? caseId = some authored → ends (next authored w)) :
    ends ((getCase caseId >>= next) w) := by
  rw [bind_apply, getCase_apply]
  cases known : w.catalog.get? caseId with
  | none => exact missing _ known
  | some authored => exact found authored known

theorem ends_lifecycleOf {next : LifecycleRecord → WorkspaceCall α}
    (missing : ∀ error, w.state.lifecycle.get? caseId = none → ends (.error error, w))
    (found : ∀ record, w.state.lifecycle.get? caseId = some record → ends (next record w)) :
    ends ((lifecycleOf caseId >>= next) w) := by
  rw [bind_apply, lifecycleOf_apply]
  cases known : w.state.lifecycle.get? caseId with
  | none => exact missing _ known
  | some record => exact found record known

theorem ends_require {condition : Bool} {error : CampaignRaised} {next : Unit → WorkspaceCall α}
    (fails : condition = false → ends (.error error, w))
    (goes : condition = true → ends (next () w)) :
    ends ((ofResult (require condition error) >>= next) w) := by
  cases condition with
  | false => exact fails rfl
  | true => exact goes rfl

end Steps

section Imports

variable {digests} {request : ImportRequest} {authored : CatalogCase} {run : WorkspaceRun}
  {artifacts : WorkspaceArtifacts} {planSha256 artifactHash : String}

def recording (w : CampaignWorkspace) (run : WorkspaceRun) : CampaignWorkspace :=
  { w with state := { w.state with runs := w.state.runs ++ [run] } }

/-- The call of `_intake` that an import ends with. -/
def intakeOf (digests : CampaignDigests) (request : ImportRequest) (authored : CatalogCase)
    (planSha256 : String) : WorkspaceCall WorkspaceReview :=
  intake digests authored
    (importedRun request authored (digests.importedArtifacts request.files) planSha256)
    { missionExecutionId := request.missionExecutionId
      upperStatus := request.upperStatus
      files := request.files
      analyzed := request.analyzed
      compared := request.compared } planSha256 (digests.importedArtifacts request.files)

/-- An import raises or returns before it changes anything, or it records its run. -/
def ImportEnds (digests : CampaignDigests) (request : ImportRequest) (w : CampaignWorkspace)
    (ends : Except CampaignRaised WorkspaceReview × CampaignWorkspace) : Prop :=
  ends.2 = w ∧ ¬ Imports digests w request ∨
    Imports digests w request ∧ ∃ authored planSha256,
      w.catalog.get? request.caseId = some authored ∧
      ends = intakeOf digests request authored planSha256
        (recording w (importedRun request authored (digests.importedArtifacts request.files)
          planSha256))

theorem importArtifacts_ends (digests : CampaignDigests) (request : ImportRequest)
    (w : CampaignWorkspace) : ImportEnds digests request w (importArtifacts digests request w) := by
  refine ends_read ?_
  dsimp only [id]
  cases unreviewed : w.state.reviews.find?
      (·.artifactSetSha256 = digests.importedArtifacts request.files) with
  | some existing =>
    refine .inl ⟨rfl, fun imports => imports.unreviewed existing
      (List.mem_of_find?_eq_some unreviewed) ?_⟩
    simpa using List.find?_some unreviewed
  | none =>
    refine ends_getCase (fun _ missing => .inl ⟨rfl, fun imports => ?_⟩) fun authored known => ?_
    · have known := imports.known
      rw [missing] at known
      cases known
    refine ends_ofResult (fun _ failed => .inl ⟨rfl, fun imports => ?_⟩) fun _ parsed => ?_
    · cases failed.symm.trans imports.parsed
    refine ends_require (fun failed => .inl ⟨rfl, fun imports => ?_⟩) fun named => ?_
    · exact of_decide_eq_false failed imports.execution.1
    refine ends_require (fun failed => .inl ⟨rfl, fun imports => ?_⟩) fun identified => ?_
    · cases failed.symm.trans imports.execution.2
    refine ends_ofResult (fun _ failed => .inl ⟨rfl, fun imports => ?_⟩) fun planSha256 planned => ?_
    · obtain ⟨planSha256, planned⟩ := imports.planned
      cases failed.symm.trans planned
    exact .inr ⟨⟨by simpa using unreviewed, by simp [known], parsed, ⟨of_decide_eq_true named,
      identified⟩, planSha256, planned⟩, authored, planSha256, known, rfl⟩

theorem keepReview_apply {s : CampaignWorkspace} {review : WorkspaceReview} {record : LifecycleRecord}
    (present : s.state.lifecycle.get? review.caseId = some record) :
    keepReview review s = (.ok (), s.committed { s.state with
      reviews := s.state.reviews ++ [review]
      lifecycle := s.state.lifecycle.insert record.caseId
        { record with runIds := record.runIds ++ [review.runId] } }) := by
  have found : (setState (fun state => { state with reviews := state.reviews ++ [review] }) s
      ).2.state.lifecycle.get? review.caseId = some record := present
  rw [keepReview, bind_of_ok rfl, bind_apply, lifecycleOf_apply, found]
  rfl

/-- `_intake` ends with the review, or with the failed analysis or comparison; the run stays. -/
def IntakeEnds (artifacts : WorkspaceArtifacts) (s : CampaignWorkspace)
    (ends : Except CampaignRaised WorkspaceReview × CampaignWorkspace) : Prop :=
  let read := (∃ analyzed, artifacts.analyzed = .ok analyzed) ∧
    ∃ compared, artifacts.compared = .ok compared
  (∃ error, ends.1 = .error error) ∧ ¬ read ∧
      ends.2.state.runs.length = s.state.runs.length ∨
    (∃ review, ends.1 = .ok review) ∧ read

theorem intake_ends {s : CampaignWorkspace} {record : LifecycleRecord}
    (present : s.state.lifecycle.get? authored.caseId = some record) :
    IntakeEnds artifacts s (intake digests authored run artifacts planSha256 artifactHash s) := by
  refine ends_ofResult (fun error failed => .inl ⟨⟨error, rfl⟩, ?_, rfl⟩) fun analyzed read => ?_
  · rintro ⟨⟨analyzed, read⟩, -⟩
    cases failed.symm.trans read
  refine ends_done rfl (ends_ofResult (fun error failed => .inl ⟨⟨error, rfl⟩, ?_, ?_⟩)
    fun compared shown => ends_done (keepReview_apply present) ?_)
  · rintro ⟨-, compared, shown⟩
    cases failed.symm.trans shown
  · exact List.length_map _
  · exact .inr ⟨⟨_, rfl⟩, ⟨analyzed, read⟩, compared, shown⟩

theorem importArtifacts_edits_iff (known : Known w) :
    Edits digests audit w (.importArtifacts request) ↔
      Unchecked digests audit w (.importArtifacts request) := by
  dsimp only [Edits, Unchecked]
  rcases importArtifacts_ends digests request w with
    ⟨quiet, not_imports⟩ | ⟨imports, authored, planSha256, found, ends⟩
  · refine iff_of_true (fun error _ => ?_) fun imports => absurd imports not_imports
    exact ⟨.inl (by rw [quiet]), by rw [quiet], fun _ => by rw [quiet]⟩
  · have key := known.keys _ _ found
    obtain ⟨record, present, -⟩ := known.lifecycle (by rwa [key])
    generalize recorded : importedRun request authored (digests.importedArtifacts request.files)
      planSha256 = run at ends
    have intaken : IntakeEnds _ (recording w run) (intakeOf digests request authored planSha256
      (recording w run)) := intake_ends present
    rw [← ends] at intaken
    rcases intaken with ⟨⟨error, raises⟩, unread, longer⟩ | ⟨⟨review, returns⟩, read⟩
    · refine iff_of_false (fun traceless => ?_) fun checked => unread (checked imports)
      rcases (traceless error raises).state with same | ⟨_, ⟨⟩, _⟩
      rw [same] at longer
      simp [recording] at longer
    · refine iff_of_true (fun error raises => ?_) fun _ => read
      cases returns.symm.trans raises

end Imports

section Children

variable {audit} {childCaseId : String} {ownsIdentity : Bool}
  {child : CatalogCase → Except CampaignRaised CatalogCase}

/-- `create_child` changes nothing before the file is written; after that only the registration can
raise. -/
def ChildEnds (audit : CatalogCase → Except CampaignRaised Unit) (childCaseId : String)
    (ownsIdentity : Bool) (child : CatalogCase → Except CampaignRaised CatalogCase)
    (w : CampaignWorkspace) (ends : Except CampaignRaised CatalogCase × CampaignWorkspace) : Prop :=
  ends.2 = w ∧ ¬ (ownsIdentity = false ∧ ∃ active authored, (activeCase w).1 = .ok active ∧
      child active = .ok authored) ∨
    ownsIdentity = false ∧ ∃ active authored, (activeCase w).1 = .ok active ∧
      child active = .ok authored ∧
      ((∃ error, ends = (.error error, { w with
          children := w.children.insert childCaseId { authored with caseId := childCaseId } }) ∧
          ¬ (w.catalog.get? childCaseId = none ∧
            audit { authored with caseId := childCaseId } = .ok ())) ∨
        (∃ value, ends.1 = .ok value) ∧ w.catalog.get? childCaseId = none ∧
          audit { authored with caseId := childCaseId } = .ok ())

theorem register_cases (audit : CatalogCase → Except CampaignRaised Unit) (authored : CatalogCase)
    (catalog : Dict String CatalogCase) :
    (∃ error, register audit authored catalog = .error error ∧
      ¬ (catalog.get? authored.caseId = none ∧ audit authored = .ok ())) ∨
    (∃ registered, register audit authored catalog = .ok registered) ∧
      catalog.get? authored.caseId = none ∧ audit authored = .ok () := by
  unfold register
  cases found : catalog.get? authored.caseId with
  | some other => exact .inl ⟨_, rfl, by simp⟩
  | none =>
    cases audited : audit authored with
    | error error => exact .inl ⟨error, rfl, by simp⟩
    | ok value => exact .inr ⟨⟨_, rfl⟩, rfl, rfl⟩

theorem createChild_ends (audit : CatalogCase → Except CampaignRaised Unit) (childCaseId : String)
    (ownsIdentity : Bool) (child : CatalogCase → Except CampaignRaised CatalogCase)
    (w : CampaignWorkspace) : ChildEnds audit childCaseId ownsIdentity child w
      (createChild audit childCaseId ownsIdentity child w) := by
  refine ends_quiet activeCase_makes.quiet (fun error failed => .inl ⟨rfl, ?_⟩) fun active chosen => ?_
  · rintro ⟨-, active, authored, chosen, -⟩
    cases failed.symm.trans chosen
  refine ends_require (fun owned => .inl ⟨rfl, ?_⟩) fun unowned => ?_
  · rintro ⟨free, -⟩
    simp [free] at owned
  refine ends_ofResult (fun error failed => .inl ⟨rfl, ?_⟩) fun authored merged => ?_
  · rintro ⟨-, active', authored, chosen', merged⟩
    cases chosen.symm.trans chosen'
    cases failed.symm.trans merged
  have free : ownsIdentity = false := by simpa using unowned
  refine ends_done rfl (ends_read (ends_ofResult (fun error failed => ?_) fun catalog registered => ?_))
  · rcases register_cases audit { authored with caseId := childCaseId } w.catalog with ⟨error', -, unmet⟩ | ⟨⟨_, passes⟩, -⟩
    · exact .inr ⟨free, active, authored, chosen, merged, .inl ⟨error, rfl, unmet⟩⟩
    · cases failed.symm.trans passes
  · rcases register_cases audit { authored with caseId := childCaseId } w.catalog with ⟨error', failed, -⟩ | ⟨-, met⟩
    · cases registered.symm.trans failed
    · exact .inr ⟨free, active, authored, chosen, merged, .inr ⟨⟨_, rfl⟩, met⟩⟩

theorem createChild_edits_iff :
    Edits digests audit w (.createChild childCaseId ownsIdentity child) ↔
      Unchecked digests audit w (.createChild childCaseId ownsIdentity child) := by
  dsimp only [Edits, Unchecked]
  rcases createChild_ends audit childCaseId ownsIdentity child w with ⟨quiet, unmerged⟩ |
    ⟨free, active, authored, chosen, merged, ⟨error, ends, unmet⟩ | ⟨⟨value, returns⟩, met⟩⟩
  · refine iff_of_true (fun error _ => ⟨.inl (by rw [quiet]), by rw [quiet], fun _ => by rw [quiet]⟩)
      fun free active authored chosen merged => ?_
    exact absurd ⟨free, active, authored, chosen, merged⟩ unmerged
  · rw [ends]
    constructor
    · intro traceless _ active' authored' chosen' merged'
      cases chosen.symm.trans chosen'
      cases merged.symm.trans merged'
      right
      have file := (traceless error rfl).children childCaseId
      rwa [Dict.get?_insert_self, eq_comm] at file
    · intro checked _ _
      have there := (checked free active authored chosen merged).resolve_left unmet
      refine ⟨.inl rfl, rfl, fun other => ?_⟩
      rw [Dict.insert_eq_self _ there]
  · refine iff_of_true (fun error raises => ?_) fun _ active' authored' chosen' merged' => ?_
    · cases returns.symm.trans raises
    · cases chosen.symm.trans chosen'
      cases merged.symm.trans merged'
      exact .inl met

end Children

section Selections

structure Validated (caseId : String) (w s : CampaignWorkspace) (record current : LifecycleRecord) :
    Prop where
  traceless : Traceless (some caseId) w s
  before : w.state.lifecycle.get? caseId = some record
  after : s.state.lifecycle.get? caseId = some current
  moves : s = w ∨ record.state = .definedNotRun ∧ current.state ∈ [.ready, .blocked]

def ValidateEnds (caseId : String) (planned : Except CampaignRaised PlanVerdict)
    (w : CampaignWorkspace) (ends : Except CampaignRaised PlanVerdict × CampaignWorkspace) : Prop :=
  (∃ error, ends = (.error error, w) ∧ ∀ authored record, w.catalog.get? caseId = some authored →
      w.state.lifecycle.get? caseId = some record → record.state ≠ .definedNotRun →
        planned = .error error) ∨
    ∃ plan s record current, ends = (.ok plan, s) ∧ planned = .ok plan ∧
      Validated caseId w s record current

theorem staticValidate_ends (known : Known w) (caseId actorId : String)
    (planned : Except CampaignRaised PlanVerdict) :
    ValidateEnds caseId planned w (staticValidate caseId actorId planned w) := by
  refine ends_getCase (fun error missing => .inl ⟨error, rfl, fun _ _ found => ?_⟩) fun _ _ => ?_
  · cases missing.symm.trans found
  refine ends_ofResult (fun error failed => .inl ⟨error, rfl, fun _ _ _ _ _ => failed⟩)
    fun plan planned => ?_
  refine ends_lifecycleOf (fun error missing => .inl ⟨error, rfl, fun _ _ _ found => ?_⟩)
    fun record found => ?_
  · cases missing.symm.trans found
  dsimp only
  split
  · next unrun =>
    refine ends_ofResult (fun error _ => .inl ⟨error, rfl, fun _ _ _ found' run => ?_⟩)
      fun moved transition => ?_
    · cases found.symm.trans found'
      exact absurd unrun run
    obtain ⟨identity, state, -⟩ := transition_eq_ok transition
    obtain ⟨_, -, -, key⟩ := known.record found
    have named : moved.caseId = caseId :=
      (congrArg LockedDevelopmentInputs.caseId identity).trans key
    have classes : moved.state ∈ [.ready, .blocked] := by
      rw [state]
      split <;> decide
    refine .inr ⟨plan, _, record, moved, rfl, planned, ⟨.inr ⟨caseId, rfl, record, moved, found, unrun,
      classes, ?_⟩, rfl, fun _ => rfl⟩, found, ?_, .inr ⟨unrun, classes⟩⟩
    · rw [← named]
      rfl
    · rw [← named]
      exact Dict.get?_insert_self _ _ _
  · exact .inr ⟨plan, w, record, record, rfl, planned, ⟨.inl rfl, rfl, fun _ => rfl⟩, found, found,
      .inl rfl⟩

theorem demoted_ok_iff {record : LifecycleRecord} (active : record.state = .activeDevelopment) :
    (∃ demoted, record.transition .ready actorId
      "operator selected a different active development case" none none = .ok demoted) ↔
      isIdentifier actorId = true := by
  have short : "operator selected a different active development case".length ≤ 1000 := by decide
  have long : 1 ≤ "operator selected a different active development case".length := by decide
  unfold LifecycleRecord.transition
  rw [active]
  cases named : isIdentifier actorId with
  | true => simp [require, short, long, bind, Except.bind]
  | false => simp [require, bind, Except.bind]

/-- Demoting the other cases fails if there is one and the operator cannot be named. -/
theorem demoteOthers_ok_iff {lifecycle : Dict String LifecycleRecord} :
    (∃ records, demoteOthers caseId actorId lifecycle = .ok records) ↔
      ¬ (isIdentifier actorId = false ∧ ∃ other record, other ≠ caseId ∧
        lifecycle.get? other = some record ∧ record.state = .activeDevelopment) := by
  have fold (items : List (String × LifecycleRecord)) (records : Dict String LifecycleRecord) :
      (∃ demoted, items.foldlM (fun records item =>
        if item.1 ≠ caseId ∧ item.2.state = .activeDevelopment then do
          let demoted ← item.2.transition .ready actorId
            "operator selected a different active development case" none none
          Except.ok (records.insert item.1 demoted)
        else .ok records) records = .ok demoted) ↔
      ∀ item ∈ items, item.1 ≠ caseId ∧ item.2.state = .activeDevelopment →
        isIdentifier actorId = true := by
    induction items generalizing records with
    | nil => simp [pure, Except.pure]
    | cons item rest ih =>
      rw [List.foldlM_cons, List.forall_mem_cons]
      by_cases other : item.1 ≠ caseId ∧ item.2.state = .activeDevelopment
      · rw [if_pos other]
        cases moved : item.2.transition .ready actorId
            "operator selected a different active development case" none none with
        | error error =>
          refine iff_of_false nofun fun holds => ?_
          obtain ⟨demoted, done⟩ := (demoted_ok_iff other.2).mpr (holds.1 other)
          cases moved.symm.trans done
        | ok demoted =>
          have named := (demoted_ok_iff other.2).mp ⟨demoted, moved⟩
          rw [and_iff_right fun _ => named]
          exact ih _
      · rw [if_neg other, and_iff_right fun holds => absurd holds other]
        exact ih records
  rw [demoteOthers, fold]
  constructor
  · rintro named ⟨unnamed, other, record, apart, found, active⟩
    have listed := (Dict.get?_eq_some_iff _ _ _).mp found
    rw [named (other, record) listed ⟨apart, active⟩] at unnamed
    cases unnamed
  · intro free item member ⟨apart, active⟩
    by_contra unnamed
    exact free ⟨Bool.eq_false_of_not_eq_true unnamed, item.1, item.2, apart,
      (Dict.get?_eq_some_iff _ _ _).mpr member, active⟩

structure ActiveEnds (caseId actorId : String) (planned : Except CampaignRaised PlanVerdict)
    (w : CampaignWorkspace) (ends : Except CampaignRaised LockedDevelopmentInputs × CampaignWorkspace) :
    Prop where
  traceless : ∀ error, ends.1 = .error error → Traceless (some caseId) w ends.2
  refused : ∀ error, ends.1 = .error error → ∀ authored record,
    w.catalog.get? caseId = some authored → w.state.lifecycle.get? caseId = some record →
      record.state ∈ [.baselined, .promoted] → Refused w caseId authored actorId planned
  activates : ∀ lock, ends.1 = .ok lock → ∃ authored record kept,
    w.catalog.get? caseId = some authored ∧ w.state.lifecycle.get? caseId = some record ∧
      ends.2.state.lifecycle.get? caseId = some kept ∧
      (record.state ∉ [.baselined, .promoted] ∧ kept.state = .activeDevelopment ∨
        record.state ∈ [.baselined, .promoted] ∧ kept.state = record.state ∧
          ¬ Refused w caseId authored actorId planned)

theorem ActiveEnds.of_refusal {s : CampaignWorkspace} {error : CampaignRaised}
    (traceless : Traceless (some caseId) w s)
    (refused : ∀ authored record, w.catalog.get? caseId = some authored →
      w.state.lifecycle.get? caseId = some record → record.state ∈ [.baselined, .promoted] →
        Refused w caseId authored actorId planned) :
    ActiveEnds caseId actorId planned w (.error error, s) :=
  ⟨fun _ _ => traceless, fun _ _ => refused, nofun⟩

theorem activated_cases (record : LifecycleRecord) (actorId reason : String) :
    record.state ∈ [.baselined, .promoted] ∧ activated record actorId reason = .ok record ∨
      record.state ∉ [.baselined, .promoted] ∧ ∀ active,
        activated record actorId reason = .ok active → active.state = .activeDevelopment := by
  unfold activated
  by_cases kept : record.state ∈ [.baselined, .promoted]
  · exact .inl ⟨kept, if_pos (List.mem_cons_of_mem _ kept)⟩
  · refine .inr ⟨kept, fun active ok => ?_⟩
    split at ok
    · next listed =>
      cases ok
      exact (List.mem_cons.mp listed).resolve_right kept
    · obtain ⟨_, -, moved⟩ := bind_eq_ok.mp ok
      exact (transition_eq_ok moved).2.1

theorem setActive_ends (known : Known w) :
    ActiveEnds caseId actorId planned w (setActive caseId actorId reason planned w) := by
  have here : Traceless (some caseId) w w := ⟨.inl rfl, rfl, fun _ => rfl⟩
  refine ends_getCase (fun error missing => .of_refusal here fun authored _ found => ?_)
    fun authored found => ends_read ?_
  · cases missing.symm.trans found
  refine ends_require (fun live => .of_refusal here fun _ _ _ _ _ => .inl ?_) fun idle => ?_
  · simpa using live
  refine ends_require (fun real => .of_refusal here fun _ _ found' _ _ => .inr (.inl ?_))
    fun virtual => ?_
  · cases found.symm.trans found'
    simpa using real
  refine ends_require (fun planned => .of_refusal here fun _ _ found' _ _ => .inr (.inr (.inl ?_)))
    fun executable => ?_
  · cases found.symm.trans found'
    simpa using planned
  rw [bind_apply]
  rcases staticValidate_ends known caseId actorId planned with
    ⟨error, ends, failed⟩ | ⟨plan, s, record, current, ends, planned, validated⟩
  · rw [ends]
    refine .of_refusal here fun _ record found present kept => .inr (.inr (.inr (.inl ?_)))
    rw [failed _ _ found present fun unrun => by simp [unrun] at kept]
    nofun
  rw [ends]
  have refused {error : CampaignRaised}
      (checked : s = w → current = record → record.state ∈ [.baselined, .promoted] →
        Refused w caseId authored actorId (.ok plan)) :
      ActiveEnds caseId actorId (.ok plan) w (.error error, s) := by
    refine .of_refusal validated.traceless fun _ _ found' present kept => ?_
    cases found.symm.trans found'
    cases validated.before.symm.trans present
    rcases validated.moves with rfl | ⟨unrun, -⟩
    · exact checked rfl (Option.some.inj (validated.after.symm.trans present)) kept
    · simp [unrun] at kept
  cases planned
  refine ends_require (fun blocked => refused fun _ _ _ => .inr (.inr (.inr (.inl ?_)))) fun ready => ?_
  · rintro _ ⟨⟩
    exact blocked
  refine ends_read (ends_require (fun incomplete => refused fun same _ _ =>
    .inr (.inr (.inr (.inr (.inl ?_))))) fun complete => ?_)
  · simpa [same] using incomplete
  refine ends_ofResult (fun error failed => refused fun same _ _ =>
    .inr (.inr (.inr (.inr (.inr ?_))))) fun records demoted => ?_
  · rw [← same]
    refine Classical.byContradiction fun named => ?_
    obtain ⟨records, demoted⟩ := demoteOthers_ok_iff.mpr named
    cases failed.symm.trans demoted
  refine ends_lifecycleOf (fun error missing => ?_) fun listed present => ?_
  · cases missing.symm.trans validated.after
  cases validated.after.symm.trans present
  refine ends_ofResult (fun error failed => refused fun _ same kept => ?_) fun active ok => ?_
  · subst same
    rcases activated_cases current actorId reason with ⟨-, done⟩ | ⟨other, -⟩
    · cases failed.symm.trans done
    · exact absurd kept other
  refine ends_done rfl ⟨nofun, nofun, fun _ _ => ⟨authored, record, active, found, validated.before,
    Dict.get?_insert_self _ _ _, ?_⟩⟩
  rcases validated.moves with same | ⟨unrun, classified⟩
  · subst same
    cases validated.after.symm.trans validated.before
    rcases activated_cases record actorId reason with ⟨kept, done⟩ | ⟨other, moves⟩
    · cases ok.symm.trans done
      refine .inr ⟨kept, rfl, ?_⟩
      rintro (live | real | planned | blocked | ⟨milestone, incomplete⟩ | unnamed)
      · simp [live] at idle
      · simp [real] at virtual
      · simp [planned] at executable
      · exact absurd ready (by simp [blocked plan rfl])
      · simp [milestone, incomplete] at complete
      · exact demoteOthers_ok_iff.mp ⟨records, demoted⟩ unnamed
    · exact .inl ⟨other, moves active ok⟩
  · refine .inl ⟨by simp [unrun], ?_⟩
    rcases activated_cases current actorId reason with ⟨kept, -⟩ | ⟨-, moves⟩
    · simp only [List.mem_cons, List.not_mem_nil, or_false] at kept classified
      rcases kept with state | state <;> simp [state] at classified
    · exact moves active ok

end Selections

section Choices

variable {state : LifecycleState}

theorem Chosen.of_error {error : CampaignRaised} : Chosen caseId state w (.error error, w) :=
  ⟨fun _ _ => ⟨.inl rfl, rfl, fun _ => rfl⟩, nofun⟩

theorem setLifecycleState_chosen (known : Known w) (apart : state ≠ .activeDevelopment) :
    Chosen caseId state w (setLifecycleState caseId state actorId reason planned w) := by
  refine ends_getCase (fun _ _ => .of_error) fun authored _ => ?_
  refine ends_lifecycleOf (fun _ _ => .of_error) fun current found => ?_
  by_cases reached : current.state = state
  · simp only [if_pos reached]
    exact ⟨nofun, fun _ _ => ⟨current, found, reached⟩⟩
  · simp only [if_neg reached, if_neg apart]
    refine ends_read (ends_ofResult (fun _ _ => .of_error) fun changed moved => ?_)
    obtain ⟨identity, made, -⟩ := transition_eq_ok moved
    obtain ⟨_, -, -, key⟩ := known.record found
    have named : changed.caseId = caseId :=
      (congrArg LockedDevelopmentInputs.caseId identity).trans key
    refine ends_done rfl ⟨nofun, fun _ _ => ⟨changed, ?_, made⟩⟩
    rw [← named]
    exact Dict.get?_insert_self _ _ _

/-- The choice to be active is made unless the case is baselined or promoted and its selection is not
refused. -/
def ActiveChoice (caseId actorId : String) (planned : Except CampaignRaised PlanVerdict)
    (w : CampaignWorkspace) (ends : Except CampaignRaised LifecycleRecord × CampaignWorkspace) : Prop :=
  Chosen caseId .activeDevelopment w ends ↔ ∀ authored record, w.catalog.get? caseId = some authored →
    w.state.lifecycle.get? caseId = some record → record.state ∈ [.baselined, .promoted] →
      Refused w caseId authored actorId planned

theorem setLifecycleState_activeChoice (known : Known w) :
    ActiveChoice caseId actorId planned w
      (setLifecycleState caseId .activeDevelopment actorId reason planned w) := by
  refine ends_getCase (fun _ missing => ?_) fun authored _ => ends_lifecycleOf (fun _ missing => ?_)
    fun current found => ?_
  · refine iff_of_true .of_error fun _ _ found => ?_
    cases missing.symm.trans found
  · refine iff_of_true .of_error fun _ _ _ found => ?_
    cases missing.symm.trans found
  by_cases reached : current.state = .activeDevelopment
  · simp only [if_pos reached]
    refine iff_of_true ⟨nofun, fun _ _ => ⟨current, found, reached⟩⟩ fun _ _ _ found' kept => ?_
    cases found.symm.trans found'
    simp [reached] at kept
  · simp only [if_neg reached, if_true]
    have selected : ActiveEnds caseId actorId planned w (setActive caseId actorId reason planned w) :=
      setActive_ends known
    rw [bind_apply]
    generalize setActive caseId actorId reason planned w = ends at selected
    obtain ⟨result, s⟩ := ends
    cases result with
    | error error =>
      exact iff_of_true ⟨fun _ _ => selected.traceless error rfl, nofun⟩ (selected.refused error rfl)
    | ok lock =>
      obtain ⟨authored', record, kept, catalogued, present, listed, ⟨other, active⟩ |
        ⟨qualified, same, unrefused⟩⟩ := selected.activates lock rfl
      all_goals dsimp only [ActiveChoice]; rw [lifecycleOf_apply, listed]
      · refine iff_of_true ⟨nofun, fun _ _ => ⟨kept, listed, active⟩⟩ fun _ _ _ present' held => ?_
        cases present.symm.trans present'
        exact absurd held other
      · refine iff_of_false (fun chosen => ?_) fun refuses =>
          unrefused (refuses _ _ catalogued present qualified)
        obtain ⟨kept', listed', active⟩ := chosen.2 kept rfl
        cases listed.symm.trans listed'
        rw [← same, active] at qualified
        simp at qualified

end Choices

section Runs

theorem edits_iff (known : Known w) (operation : Operation) :
    Edits digests audit w operation ↔ Unchecked digests audit w operation := by
  cases operation with
  | importArtifacts request => exact importArtifacts_edits_iff audit known
  | createChild childCaseId ownsIdentity child => exact createChild_edits_iff digests
  | setActive caseId actorId reason planned =>
    exact iff_of_true (setActive_ends known).traceless trivial
  | setLifecycleState caseId state actorId reason planned =>
    cases state with
    | activeDevelopment => exact setLifecycleState_activeChoice known
    | _ => exact iff_of_true (setLifecycleState_chosen known (by decide)) trivial
  | _ => exact Iff.rfl

/-- In every workspace that a run of operations leads to, an edit leaves no trace when it raises, and
a choice is made when it returns, exactly if nothing is checked too late. -/
theorem run_edits_iff (cases : List CatalogCase) (operations : List Operation)
    (operation : Operation) :
    Edits digests audit (run digests audit (start cases) operations) operation ↔
      Unchecked digests audit (run digests audit (start cases) operations) operation :=
  edits_iff digests audit (run_known cases operations) operation

/-- A service with one case imports telemetry that cannot be read: the import raises, and its run
stays. -/
theorem unreadable_import_leaves_run :
    ¬ Edits hoverDigests (fun _ => .ok ()) (hoverRun [])
      (hoverImport "manifest" "execution" unreadable) := by
  intro traceless
  have checked := (edits_iff hoverDigests _ (run_known [hoverAuthored] []) _).mp traceless
  obtain ⟨⟨analyzed, read⟩, -⟩ := checked ⟨nofun, rfl, rfl, by decide, "plan", rfl⟩
  cases read

end Runs

end CampaignWorkspace
end CrazySwarm
