import CrazySwarm.CampaignCompleteness

/-! The candidate that the complete search selects: certified for its own hash, without a
rejection reason, and best among the certified ones by the order that the submission asks for. -/
namespace CrazySwarm
namespace BoundedJointPlanner
open PyFloat (lt le eq)
open Sorting (Agrees sortBy)
open CampaignGeometry (FeasibilityCertificate certifyCandidateRoutes)

/-! ## What the verifier passes -/

section Verifier

variable {F : Type} [PyMath F] {canonicalSha256 : CandidateEvaluation F → String}
variable {request : PlanRequest F} {elapsedS : Nat → F}

def Passes (canonicalSha256 : CandidateEvaluation F → String) (request : PlanRequest F)
    (candidate : CandidateEvaluation F) (certificate : FeasibilityCertificate F) : Prop :=
  certify canonicalSha256 request candidate = .ok certificate ∧ certificate.passed = true

theorem certifyCandidateRoutes_sha256 {case : CampaignCase F} {planning : PlanningSubmission F}
    {sha256 : String} {routes : List (CampaignGeometry.RouteGeometry F)}
    {certificate : FeasibilityCertificate F}
    (ok : certifyCandidateRoutes case planning sha256 routes = .ok certificate) :
    certificate.candidateSha256 = sha256 := by
  unfold certifyCandidateRoutes at ok
  dsimp only at ok
  split at ok
  swap
  · cases ok
  obtain ⟨boundary, -, ok⟩ := bind_eq_ok.mp ok
  obtain ⟨deviation, -, ok⟩ := bind_eq_ok.mp ok
  obtain ⟨adherence, -, ok⟩ := bind_eq_ok.mp ok
  cases ok
  rfl

/-- The scan ends at the first candidate that passes. -/
theorem firstPassed_eq_ok {items : List (Indexed F)} {found : Option (Certified F)}
    (ok : firstPassed canonicalSha256 request items = .ok found) :
    match found with
    | none => ∀ item ∈ items, ¬∃ certificate, Passes canonicalSha256 request item.1 certificate
    | some chosen => Passes canonicalSha256 request chosen.1.1 chosen.2 ∧
        ∃ before after, items = before ++ chosen.1 :: after ∧ ∀ item ∈ before,
          ¬∃ certificate, Passes canonicalSha256 request item.1 certificate := by
  induction items with
  | nil =>
    cases ok
    simp
  | cons item rest ih =>
    unfold firstPassed at ok
    obtain ⟨certificate, certified, ok⟩ := bind_eq_ok.mp ok
    split at ok
    · next passed =>
      cases ok
      exact ⟨⟨certified, passed⟩, [], rest, rfl, by simp⟩
    · next failed =>
      have fails : ¬∃ certificate, Passes canonicalSha256 request item.1 certificate := by
        rintro ⟨other, same, passed⟩
        cases certified.symm.trans same
        exact failed passed
      cases found with
      | none =>
        intro other member
        rcases List.mem_cons.mp member with rfl | member
        · exact fails
        · exact ih ok other member
      | some chosen =>
        obtain ⟨passes, before, after, split, others⟩ := ih ok
        refine ⟨passes, item :: before, after, by rw [split]; rfl, ?_⟩
        intro other member
        rcases List.mem_cons.mp member with rfl | member
        · exact fails
        · exact others other member

theorem mem_allPassed {items : List (Indexed F)} {certified : List (Certified F)}
    (ok : allPassed canonicalSha256 request items = .ok certified) {item : Certified F} :
    item ∈ certified ↔ item.1 ∈ items ∧ Passes canonicalSha256 request item.1.1 item.2 := by
  induction items generalizing certified with
  | nil =>
    cases ok
    simp
  | cons candidate rest ih =>
    unfold allPassed at ok
    obtain ⟨certificate, certifies, ok⟩ := bind_eq_ok.mp ok
    obtain ⟨passed, restOk, ok⟩ := bind_eq_ok.mp ok
    cases ok
    have first (other : Certified F) (same : other.1 = candidate) :
        Passes canonicalSha256 request other.1.1 other.2 ↔
          other.2 = certificate ∧ certificate.passed = true := by
      rw [Passes, same, certifies, Except.ok.injEq]
      constructor
      · rintro ⟨rfl, passes⟩
        exact ⟨rfl, passes⟩
      · rintro ⟨rfl, passes⟩
        exact ⟨rfl, passes⟩
    rw [List.mem_cons, or_and_right, ← ih restOk]
    split
    · next passes =>
      rw [List.mem_cons, Prod.ext_iff]
      constructor
      · rintro (⟨same, rest⟩ | member)
        · exact .inl ⟨same, (first item same).mpr ⟨rest, passes⟩⟩
        · exact .inr member
      · rintro (⟨same, rest⟩ | member)
        · exact .inl ⟨same, ((first item same).mp rest).1⟩
        · exact .inr member
    · next fails =>
      constructor
      · exact .inr
      · rintro (⟨same, rest⟩ | member)
        · exact absurd ((first item same).mp rest).2 fails
        · exact member

theorem evaluated_of_mem [PyRound F] [PyRoot F] {seeds : List (CandidateSeed F)}
    {evaluations : List (CandidateEvaluation F)}
    (ok : evaluateRetained elapsedS request 0 seeds = .ok evaluations)
    {evaluation : CandidateEvaluation F} (member : evaluation ∈ evaluations) :
    ∃ index seed, evaluate request index seed = .ok evaluation := by
  generalize 0 = start at ok
  induction seeds generalizing start evaluations with
  | nil =>
    cases ok
    cases member
  | cons seed rest ih =>
    unfold evaluateRetained at ok
    split at ok
    · cases ok
      cases member
    · obtain ⟨first, evaluated, ok⟩ := bind_eq_ok.mp ok
      obtain ⟨later, laterOk, ok⟩ := bind_eq_ok.mp ok
      cases ok
      rcases List.mem_cons.mp member with rfl | member
      · exact ⟨start, seed, evaluated⟩
      · exact ih member _ laterOk

theorem eager_of_plan [PyRound F] [PyRoot F] (eager : request.lazy = false) {result : BoundedPlanningResult F}
    (searches : request.capabilityInfeasible = none)
    (ok : plan canonicalSha256 elapsedS request = .ok result) :
    ∃ seeds outcome, eagerOutcome canonicalSha256 elapsedS request seeds = .ok outcome ∧
      planningResult canonicalSha256 request outcome = .ok result := by
  unfold plan at ok
  rw [searches] at ok
  obtain ⟨outcome, searched, ok⟩ := bind_eq_ok.mp ok
  unfold searchOutcome at searched
  rw [if_neg (Bool.eq_false_iff.mp eager)] at searched
  obtain ⟨seeds, -, searched⟩ := bind_eq_ok.mp searched
  exact ⟨seeds, outcome, searched, ok⟩

end Verifier

variable {F : Type} [Field F] [LinearOrder F] [IsStrictOrderedRing F] [PyMath F] [Exact F]

/-! ## The keys of the selections -/

theorem compareNumber_agrees : Agrees id (compareNumber : F → F → Ordering) :=
  Agrees.of_order fun a b => by simp [compareNumber]

theorem compareVector_agrees : Agrees id (compareVector : List F → List F → Ordering) := by
  intro first
  induction first with
  | nil =>
    intro second
    cases second <;> simp [compareVector]
  | cons head tail ih =>
    intro second
    cases second with
    | nil => simp [compareVector]
    | cons head' tail' =>
      obtain ⟨below, same⟩ := compareNumber_agrees head head'
      obtain ⟨below', same'⟩ := ih tail'
      simp only [id_eq] at below same below' same'
      simp only [compareVector, id_eq, List.cons_lt_cons_iff, List.cons.injEq]
      rw [← below, ← same, ← below', ← same']
      cases compareNumber head head' <;> simp

theorem compareText_agrees : Agrees id (compare : String → String → Ordering) :=
  Agrees.of_order fun a b => by
    rw [show compare a b = compareOfLessAndEq a b from rfl, compareOfLessAndEq]
    by_cases below : a < b
    · simp [below, below.ne]
    · simp [below]

variable (canonicalSha256 : CandidateEvaluation F → String) (order : List ObjectiveMetric)

/-- The objective vector, then the hash. -/
def objectiveKey (candidate : CandidateEvaluation F) : Lex (List F × String) :=
  toLex (candidate.cost.vectorFor order, canonicalSha256 candidate)

theorem compareObjective_agrees :
    Agrees (objectiveKey canonicalSha256 order) (compareObjective canonicalSha256 order) :=
  (compareVector_agrees.on fun candidate : CandidateEvaluation F =>
    candidate.cost.vectorFor order).lex (compareText_agrees.on canonicalSha256)

/-- The release skew, then the objective vector and the hash. -/
def releaseKey (candidate : CandidateEvaluation F) : Lex (F × Lex (List F × String)) :=
  toLex (CampaignEvaluation.startSkewS candidate.routes,
    objectiveKey canonicalSha256 order candidate)

theorem compareRelease_agrees :
    Agrees (releaseKey canonicalSha256 order) (compareRelease canonicalSha256 order) :=
  (compareNumber_agrees.on fun candidate : CandidateEvaluation F =>
    CampaignEvaluation.startSkewS candidate.routes).lex
      (compareObjective_agrees canonicalSha256 order)

/-- The falling clearance, then the hash. -/
def clearanceKey (certified : Certified F) : Lex (F × String) :=
  toLex (PyFloat.neg (protectedClearance certified.2), canonicalSha256 certified.1.1)

theorem compareClearance_agrees :
    Agrees (clearanceKey canonicalSha256) (compareClearance canonicalSha256) :=
  (compareNumber_agrees.on fun certified : Certified F =>
    PyFloat.neg (protectedClearance certified.2)).lex
      (compareText_agrees.on fun certified : Certified F => canonicalSha256 certified.1.1)

theorem clearance_le_of_key_le {first second : Certified F}
    (key : clearanceKey canonicalSha256 first ≤ clearanceKey canonicalSha256 second) :
    protectedClearance second.2 ≤ protectedClearance first.2 := by
  have negated (value : F) : PyFloat.neg value = -value := by simp [PyFloat.neg]
  rw [clearanceKey, clearanceKey, Prod.Lex.toLex_le_toLex, negated, negated] at key
  rcases key with below | ⟨same, -⟩
  · exact (neg_lt_neg_iff.mp below).le
  · exact (neg_injective same).ge

/-! ## The selection -/

variable {canonicalSha256} {request : PlanRequest F}

def NoWorse (canonicalSha256 : CandidateEvaluation F → String) (request : PlanRequest F)
    (first : CandidateEvaluation F) (certificate : FeasibilityCertificate F)
    (second : CandidateEvaluation F) (certificate' : FeasibilityCertificate F) : Prop :=
  match request.planning.selectionOracle with
  | .objectiveOrder => objectiveKey canonicalSha256 request.objectiveOrder first ≤
      objectiveKey canonicalSha256 request.objectiveOrder second
  | .argminBoundedRelease => releaseKey canonicalSha256 request.objectiveOrder first ≤
      releaseKey canonicalSha256 request.objectiveOrder second
  | .argmaxBoundedClearance => protectedClearance certificate' ≤ protectedClearance certificate

structure Chosen (canonicalSha256 : CandidateEvaluation F → String) (request : PlanRequest F)
    (feasible : List (Indexed F)) (chosen : Certified F) : Prop where
  mem : chosen.1 ∈ feasible
  passes : Passes canonicalSha256 request chosen.1.1 chosen.2
  best : ∀ other ∈ feasible, ∀ certificate, Passes canonicalSha256 request other.1 certificate →
    NoWorse canonicalSha256 request chosen.1.1 chosen.2 other.1 certificate

def Decides (canonicalSha256 : CandidateEvaluation F → String) (request : PlanRequest F)
    (feasible : List (Indexed F)) : Option (Certified F) → Prop
  | none => ∀ item ∈ feasible, ¬∃ certificate, Passes canonicalSha256 request item.1 certificate
  | some chosen => Chosen canonicalSha256 request feasible chosen

theorem chosen_of_firstPassed {feasible : List (Indexed F)} {found : Option (Certified F)}
    (oracle : request.planning.selectionOracle = .objectiveOrder)
    (ok : firstPassed canonicalSha256 request (sortedBy (fun first second =>
      compareObjective canonicalSha256 request.objectiveOrder first.1 second.1) feasible) =
        .ok found) :
    Decides canonicalSha256 request feasible found := by
  have agrees := (compareObjective_agrees canonicalSha256 request.objectiveOrder).on
    fun item : Indexed F => item.1
  have sorted := agrees.insertionSort_eq feasible
  rw [sortedBy, sorted] at ok
  have scanned := firstPassed_eq_ok ok
  cases found with
  | none =>
    intro item member
    exact scanned item ((Sorting.mem_sortBy _).mpr member)
  | some chosen =>
    obtain ⟨passes, before, after, split, others⟩ := scanned
    obtain ⟨member, least⟩ := Sorting.sortBy_first_least _ split others
    refine ⟨member, passes, ?_⟩
    intro other among certificate passes'
    rw [NoWorse, oracle]
    exact least other among ⟨certificate, passes'⟩

omit [Field F] [IsStrictOrderedRing F] [Exact F] in
theorem chosen_of_allPassed {κ : Type} [LinearOrder κ] {key : Certified F → κ}
    {cmp : Certified F → Certified F → Ordering} (agrees : Agrees key cmp)
    (noWorse : ∀ first second, key first ≤ key second →
      NoWorse canonicalSha256 request first.1.1 first.2 second.1.1 second.2)
    {feasible : List (Indexed F)} {certified : List (Certified F)}
    (ok : allPassed canonicalSha256 request feasible = .ok certified) :
    Decides canonicalSha256 request feasible (sortedBy cmp certified).head? := by
  rw [sortedBy, agrees.insertionSort_eq]
  cases head : (sortBy key certified).head? with
  | none =>
    rintro item member ⟨certificate, passes⟩
    have among : (item, certificate) ∈ sortBy key certified :=
      (Sorting.mem_sortBy key).mpr ((mem_allPassed ok).mpr ⟨member, passes⟩)
    rw [List.head?_eq_none_iff.mp head] at among
    cases among
  | some chosen =>
    obtain ⟨among, least⟩ := Sorting.sortBy_head_least key head
    obtain ⟨member, passes⟩ := (mem_allPassed ok).mp among
    refine ⟨member, passes, ?_⟩
    intro other among' certificate passes'
    exact noWorse _ (other, certificate)
      (least (other, certificate) ((mem_allPassed ok).mpr ⟨among', passes'⟩))

theorem select_eq_ok {feasible : List (Indexed F)} {found : Option (Certified F)}
    (ok : select canonicalSha256 request feasible = .ok found) :
    Decides canonicalSha256 request feasible found := by
  unfold select at ok
  cases oracle : request.planning.selectionOracle with
  | objectiveOrder =>
    rw [oracle] at ok
    exact chosen_of_firstPassed oracle ok
  | argminBoundedRelease =>
    rw [oracle] at ok
    obtain ⟨certified, passed, ok⟩ := bind_eq_ok.mp ok
    cases ok
    refine chosen_of_allPassed ((compareRelease_agrees canonicalSha256 request.objectiveOrder).on
      fun item : Certified F => item.1.1) ?_ passed
    intro first second key
    rwa [NoWorse, oracle]
  | argmaxBoundedClearance =>
    rw [oracle] at ok
    obtain ⟨certified, passed, ok⟩ := bind_eq_ok.mp ok
    cases ok
    refine chosen_of_allPassed (compareClearance_agrees canonicalSha256) ?_ passed
    intro first second key
    rw [NoWorse, oracle]
    exact clearance_le_of_key_le canonicalSha256 key

/-! ## The plan -/

variable [PyRound F] [PyRoot F] {elapsedS : Nat → F}

structure SelectsBest (canonicalSha256 : CandidateEvaluation F → String) (request : PlanRequest F)
    (result : BoundedPlanningResult F) (index : Nat) (selected : CandidateEvaluation F)
    (certificate : FeasibilityCertificate F) : Prop where
  index_eq : result.selectedCandidateIndex = some index
  selected_eq : result.retainedCandidates[index]? = some selected
  certificate_eq : result.feasibilityCertificate = some certificate
  feasible : selected.status = .feasible
  reasons : selected.rejectionReasons = []
  passes : Passes canonicalSha256 request selected certificate
  ownHash : certificate.candidateSha256 = canonicalSha256 selected
  best : ∀ other ∈ result.retainedCandidates, other.status = .feasible → ∀ certificate',
    Passes canonicalSha256 request other certificate' →
      NoWorse canonicalSha256 request selected certificate other certificate'

/-- The complete search selects the best candidate that the verifier passes, and rejects the
candidates only where the verifier passes none. -/
theorem plan_selects_best (eager : request.lazy = false) {result : BoundedPlanningResult F}
    (ok : plan canonicalSha256 elapsedS request = .ok result) :
    (result.status = .ready → ∃ index selected certificate,
      SelectsBest canonicalSha256 request result index selected certificate) ∧
    (result.searchDisposition = .independentVerificationRejected →
      ∀ candidate ∈ result.retainedCandidates, candidate.status = .feasible →
        ¬∃ certificate, Passes canonicalSha256 request candidate certificate) := by
  cases resolved : request.capabilityInfeasible with
  | some violated =>
    unfold plan at ok
    rw [resolved] at ok
    obtain ⟨disposition, -, -, -, status, -⟩ := planningResult_eq_ok ok
    constructor
    · intro ready
      cases status.symm.trans ready
    · intro rejected
      cases disposition.symm.trans rejected
  | none =>
    obtain ⟨seeds, outcome, searched, ok⟩ := eager_of_plan eager resolved ok
    obtain ⟨disposition, retained, -, -, status, index, certificate⟩ := planningResult_eq_ok ok
    obtain ⟨evaluated, -, -, exits⟩ := eagerOutcome_eq_ok searched
    rw [disposition, retained, status]
    constructor
    · intro ready
      have selects : outcome.selected.isSome := by
        by_contra unset
        rw [if_neg unset] at ready
        cases ready
      rcases exits with ⟨-, -, none⟩ | ⟨-, ⟨-, -, none⟩ | ⟨-, -, none⟩ | ⟨chosen, found, -, some⟩⟩
      · simp [none] at selects
      · simp [none] at selects
      · simp [none] at selects
      obtain ⟨member, passes, best⟩ : Chosen .. := select_eq_ok found
      obtain ⟨at_index, feasible⟩ := mem_feasibleOf.mp member
      obtain ⟨place, seed, value⟩ := evaluated_of_mem evaluated (List.mem_of_getElem? at_index)
      refine ⟨chosen.1.2, chosen.1.1, chosen.2, ?_⟩
      constructor
      · rw [index, some]
        rfl
      · rwa [retained]
      · rw [certificate, some]
        rfl
      · exact feasible
      · exact (CampaignEvaluation.evaluateCandidate_accepted value feasible).reasons
      · exact passes
      · exact certifyCandidateRoutes_sha256 passes.1
      · intro other among feasible'
        rw [retained] at among
        obtain ⟨at_other, found⟩ := List.getElem?_of_mem among
        exact best (other, at_other) (mem_feasibleOf.mpr ⟨found, feasible'⟩)
    · intro rejected candidate member feasible
      rcases exits with ⟨-, other, -⟩ | ⟨-, ⟨-, other, -⟩ | ⟨found, -, -⟩ | ⟨_, -, other, -⟩⟩
      · cases other.symm.trans rejected
      · cases other.symm.trans rejected
      · obtain ⟨at_index, found_at⟩ := List.getElem?_of_mem member
        exact select_eq_ok found (candidate, at_index) (mem_feasibleOf.mpr ⟨found_at, feasible⟩)
      · cases other.symm.trans rejected

/-- The hover with time and candidates enough. -/
def patientRequest : PlanRequest ℚ where
  case := ⟨{ hoverData with
    hardConstraints := { hoverData.hardConstraints with deadlineS := 20 }
    search := { hoverData.search with maximumCandidateCount := 8 } }, by decide +kernel⟩
  planning := (hoverRequest true).planning
  seedSource := (hoverRequest true).seedSource

theorem plan_selects_best_hover : ∃ result : BoundedPlanningResult ℚ,
    plan (fun candidate => candidate.candidateId) (fun _ => 0) patientRequest = .ok result ∧
      ∃ index selected certificate, SelectsBest (fun candidate => candidate.candidateId)
        patientRequest result index selected certificate := by
  obtain ⟨result, planned, ready⟩ := exists_of_okWith
    (x := plan (fun candidate => candidate.candidateId) (fun _ => 0) patientRequest)
    (t := fun result => result.status == .ready) (by decide +kernel)
  exact ⟨result, planned,
    (plan_selects_best (by decide) planned).1 (beq_iff_eq.mp ready)⟩

end BoundedJointPlanner
end CrazySwarm
