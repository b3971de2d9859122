import CrazySwarm.CampaignPlanner

/-! What an infeasibility verdict and a claim of completeness rest on: the candidates that the
search has evaluated, in the eager mode over a retained prefix and in the lazy mode. -/
namespace CrazySwarm
namespace BoundedJointPlanner
open PyFloat PyMath
open CampaignGeometry (FeasibilityCertificate)

theorem mem_feasibleOf {F : Type} {evaluations : List (CandidateEvaluation F)} {item : Indexed F} :
    item ∈ feasibleOf evaluations ↔
      evaluations[item.2]? = some item.1 ∧ item.1.status = .feasible := by
  simp [feasibleOf, List.mem_filter, List.mem_zipIdx_iff_getElem?]

theorem rejected_of_feasibleOf {F : Type} {evaluations : List (CandidateEvaluation F)}
    (none : feasibleOf evaluations = []) :
    ∀ candidate ∈ evaluations, candidate.status = .rejected := by
  intro candidate member
  obtain ⟨index, at_index⟩ := List.getElem?_of_mem member
  cases status : candidate.status with
  | rejected => rfl
  | feasible =>
    have feasible : (candidate, index) ∈ feasibleOf evaluations :=
      mem_feasibleOf.mpr ⟨at_index, status⟩
    rw [none] at feasible
    cases feasible

variable {F : Type} [PyMath F]
variable {canonicalSha256 : CandidateEvaluation F → String} {elapsedS : Nat → F}
variable {request : PlanRequest F}

/-- `bounded_search_complete`, by default unless the budget is exhausted. -/
def Outcome.complete (outcome : Outcome F) : Bool :=
  outcome.boundedSearchComplete.getD (outcome.disposition != .budgetExhausted)

theorem planningResult_eq_ok {outcome : Outcome F} {result : BoundedPlanningResult F}
    (ok : planningResult canonicalSha256 request outcome = .ok result) :
    result.searchDisposition = outcome.disposition ∧
      result.retainedCandidates = outcome.evaluations ∧
      result.truncated = outcome.truncated ∧
      result.boundedSearchComplete = outcome.complete ∧
      result.status = (if outcome.selected.isSome then .ready else .blocked) ∧
      result.selectedCandidateIndex = outcome.selected.map (·.1) ∧
      result.feasibilityCertificate = outcome.selected.map (·.2) := by
  unfold planningResult at ok
  obtain ⟨_, -, ok⟩ := bind_eq_ok.mp ok
  cases ok
  exact ⟨rfl, rfl, rfl, rfl, rfl, rfl, rfl⟩

theorem budgetS_of_not_lazy (eager : request.lazy = false) :
    request.budgetS = request.case.search.planningBudgetS := by
  have unset : request.firstCertifiedWithinBudget = false := by
    simp only [PlanRequest.lazy, Bool.or_eq_false_iff] at eager
    exact eager.1
  simp [PlanRequest.budgetS, unset]

variable [PyRound F] [PyRoot F]

def evaluateAt (request : PlanRequest F) (index : Nat)
    (seed : Except PyError (CandidateSeed F)) : Except PyError (CandidateEvaluation F) :=
  seed >>= evaluate request index

def Evaluated (request : PlanRequest F) (evaluations : List (CandidateEvaluation F)) : Prop :=
  request.authorizedSeeds.mapIdx (evaluateAt request) = evaluations.map .ok

structure Honest (request : PlanRequest F) (result : BoundedPlanningResult F) : Prop where
  infeasible : request.capabilityInfeasible = none →
    result.searchDisposition = .provenInfeasibleWithinDeclaredBounds →
    Evaluated request result.retainedCandidates ∧
      (∀ candidate ∈ result.retainedCandidates, candidate.status = .rejected) ∧
      result.truncated = false ∧ result.boundedSearchComplete = true
  complete : result.boundedSearchComplete = true → Evaluated request result.retainedCandidates

/-- The authorized candidates outnumber the maximum, and the search gets through all it may
evaluate: within the budget and, when it stops at the first certified candidate, with none that
is feasible. -/
structure Unfinished (elapsedS : Nat → F) (request : PlanRequest F) : Prop where
  truncated : request.case.search.maximumCandidateCount < request.authorizedSeeds.length
  inBudget : ∀ index < request.case.search.maximumCandidateCount,
    lt request.budgetS (elapsedS index) = false
  rejected : request.lazy = true → ∀ index < request.case.search.maximumCandidateCount,
    ∃ seed evaluation, request.authorizedSeeds[index]? = some seed ∧
      evaluateAt request index seed = .ok evaluation ∧ evaluation.status = .rejected

/-! ## The result of an outcome -/

namespace Outcome

/-- `Honest`, for the exit of a search. -/
structure Honest (request : PlanRequest F) (outcome : Outcome F) : Prop where
  infeasible : outcome.disposition = .provenInfeasibleWithinDeclaredBounds →
    Evaluated request outcome.evaluations ∧
      (∀ candidate ∈ outcome.evaluations, candidate.status = .rejected) ∧
      outcome.truncated = false ∧ outcome.complete = true
  complete : outcome.complete = true → Evaluated request outcome.evaluations

end Outcome

theorem honest_iff_outcome {outcome : Outcome F} {result : BoundedPlanningResult F}
    (searches : request.capabilityInfeasible = none)
    (ok : planningResult canonicalSha256 request outcome = .ok result) :
    Honest request result ↔ outcome.Honest request := by
  obtain ⟨disposition, retained, truncated, complete, -⟩ := planningResult_eq_ok ok
  constructor
  · intro honest
    constructor
    · simpa only [disposition, retained, truncated, complete] using honest.infeasible searches
    · simpa only [retained, complete] using honest.complete
  · intro honest
    constructor
    · intro _
      simpa only [disposition, retained, truncated, complete] using honest.infeasible
    · simpa only [retained, complete] using honest.complete

theorem Evaluated.length_eq {evaluations : List (CandidateEvaluation F)}
    (evaluated : Evaluated request evaluations) :
    request.authorizedSeeds.length = evaluations.length := by
  simpa using congrArg List.length evaluated

/-! ## The eager search -/

theorem evaluateRetained_eq_ok {seeds : List (CandidateSeed F)} {start : Nat}
    {evaluations : List (CandidateEvaluation F)}
    (ok : evaluateRetained elapsedS request start seeds = .ok evaluations) :
    (evaluations.length = seeds.length ∧
      seeds.mapIdx (fun index => evaluate request (start + index)) = evaluations.map .ok ∧
      ∀ index < seeds.length,
        lt request.case.search.planningBudgetS (elapsedS (start + index)) = false) ∨
    (evaluations.length < seeds.length ∧
      lt request.case.search.planningBudgetS (elapsedS (start + evaluations.length)) = true) := by
  induction seeds generalizing start evaluations with
  | nil =>
    cases ok
    exact .inl ⟨rfl, rfl, fun index bound => absurd bound index.not_lt_zero⟩
  | cons seed rest ih =>
    unfold evaluateRetained at ok
    split at ok
    · next expired =>
      cases ok
      exact .inr ⟨by simp, expired⟩
    · next inBudget =>
      obtain ⟨evaluation, evaluated, ok⟩ := bind_eq_ok.mp ok
      obtain ⟨later, laterOk, ok⟩ := bind_eq_ok.mp ok
      cases ok
      rcases ih laterOk with ⟨length, evaluations, inBudgets⟩ | ⟨length, expired⟩
      · refine .inl ⟨by simpa using length, ?_, ?_⟩
        · rw [List.mapIdx_cons, List.map_cons, ← evaluations, Nat.add_zero, evaluated]
          simp only [Nat.add_assoc, Nat.add_comm 1]
        · intro index bound
          cases index with
          | zero => exact Bool.eq_false_iff.mpr inBudget
          | succ index =>
            have earlier := inBudgets index (Nat.lt_of_succ_lt_succ bound)
            rwa [Nat.add_assoc, Nat.add_comm 1] at earlier
      · refine .inr ⟨by simpa using length, ?_⟩
        rwa [List.length_cons, Nat.add_comm later.length, ← Nat.add_assoc]

theorem eagerOutcome_eq_ok {seeds : List (CandidateSeed F)} {outcome : Outcome F}
    (ok : eagerOutcome canonicalSha256 elapsedS request seeds = .ok outcome) :
    evaluateRetained elapsedS request 0 (seeds.take request.case.search.maximumCandidateCount) =
        .ok outcome.evaluations ∧
      outcome.truncated = decide (request.case.search.maximumCandidateCount < seeds.length) ∧
      outcome.boundedSearchComplete = none ∧
      ((outcome.evaluations.length ≠
          (seeds.take request.case.search.maximumCandidateCount).length ∧
          outcome.disposition = .budgetExhausted ∧ outcome.selected = none) ∨
        outcome.evaluations.length =
          (seeds.take request.case.search.maximumCandidateCount).length ∧
        (feasibleOf outcome.evaluations = [] ∧
            outcome.disposition = .provenInfeasibleWithinDeclaredBounds ∧
            outcome.selected = none ∨
          select canonicalSha256 request (feasibleOf outcome.evaluations) = .ok none ∧
            outcome.disposition = .independentVerificationRejected ∧ outcome.selected = none ∨
          ∃ chosen, select canonicalSha256 request (feasibleOf outcome.evaluations) =
              .ok (some chosen) ∧
            outcome.disposition = .selected ∧
            outcome.selected = some (chosen.1.2, chosen.2))) := by
  unfold eagerOutcome at ok
  obtain ⟨evaluations, evaluated, ok⟩ := bind_eq_ok.mp ok
  have truncated : (decide ((seeds.take request.case.search.maximumCandidateCount).length <
      seeds.length)) = decide (request.case.search.maximumCandidateCount < seeds.length) := by
    rw [List.length_take]
    congr 1
    exact propext ⟨fun h => by omega, fun h => by omega⟩
  rw [truncated] at ok
  split at ok
  · next expired =>
    cases ok
    exact ⟨evaluated, rfl, rfl, .inl ⟨expired, rfl, rfl⟩⟩
  next complete =>
  have complete := not_not.mp complete
  dsimp only at ok
  split at ok
  · next infeasible =>
    cases ok
    exact ⟨evaluated, rfl, rfl, .inr ⟨complete, .inl ⟨List.isEmpty_iff.mp infeasible, rfl, rfl⟩⟩⟩
  obtain ⟨_, -, ok⟩ := bind_eq_ok.mp ok
  obtain ⟨chosen, selected, ok⟩ := bind_eq_ok.mp ok
  cases chosen with
  | none =>
    cases ok
    exact ⟨evaluated, rfl, rfl, .inr ⟨complete, .inr (.inl ⟨selected, rfl, rfl⟩)⟩⟩
  | some chosen =>
    cases ok
    exact ⟨evaluated, rfl, rfl, .inr ⟨complete, .inr (.inr ⟨chosen, selected, rfl, rfl⟩)⟩⟩

/-- An eager search is honest unless it got through all it retained of a longer list. -/
theorem eagerOutcome_honest_iff (eager : request.lazy = false)
    {seeds : List (CandidateSeed F)} (authorized : request.authorizedSeeds = seeds.map .ok)
    {outcome : Outcome F}
    (ok : eagerOutcome canonicalSha256 elapsedS request seeds = .ok outcome) :
    outcome.Honest request ↔ ¬Unfinished elapsedS request := by
  obtain ⟨evaluated, truncated, default, exits⟩ := eagerOutcome_eq_ok ok
  have budget := budgetS_of_not_lazy eager
  have length : request.authorizedSeeds.length = seeds.length := by simp [authorized]
  rcases evaluateRetained_eq_ok evaluated with ⟨all, values, inBudget⟩ | ⟨short, expired⟩
  · have complete : outcome.complete = true := by
      rcases exits with ⟨apart, -⟩ | ⟨-, ⟨-, disposition, -⟩ | ⟨-, disposition, -⟩ |
        ⟨_, -, disposition, -⟩⟩
      · exact absurd all apart
      all_goals simp [Outcome.complete, default, disposition]
    by_cases longer : request.case.search.maximumCandidateCount < seeds.length
    · have unfinished : Unfinished elapsedS request := by
        constructor
        · rwa [length]
        · intro index bound
          rw [budget]
          have := inBudget index (by rw [List.length_take]; omega)
          rwa [Nat.zero_add] at this
        · intro lazy
          cases eager.symm.trans lazy
      constructor
      · intro honest
        have := (honest.complete complete).length_eq
        rw [length, all, List.length_take] at this
        omega
      · intro finished
        exact absurd unfinished finished
    · rw [List.take_of_length_le (Nat.le_of_not_lt longer)] at values
      have whole : Evaluated request outcome.evaluations := by
        rw [Evaluated, ← values, authorized]
        apply List.ext_getElem
        · simp
        · intro index _ _
          simp [evaluateAt, bind, Except.bind]
      constructor
      · intro _ unfinished
        exact longer (length ▸ unfinished.truncated)
      · intro _
        constructor
        · intro disposition
          rcases exits with ⟨apart, -⟩ | ⟨-, ⟨none, -, -⟩ | ⟨-, other, -⟩ | ⟨_, -, other, -⟩⟩
          · exact absurd all apart
          · exact ⟨whole, rejected_of_feasibleOf none, by simp [truncated, longer], complete⟩
          all_goals cases disposition.symm.trans other
        · intro _
          exact whole
  · rcases exits with ⟨-, disposition, -⟩ | ⟨all, -⟩
    · constructor
      · intro _ unfinished
        have bound : outcome.evaluations.length < request.case.search.maximumCandidateCount := by
          rw [List.length_take] at short
          omega
        have inBudget := unfinished.inBudget _ bound
        rw [budget, ← Nat.zero_add outcome.evaluations.length, expired] at inBudget
        cases inBudget
      · intro _
        constructor
        · intro other
          cases disposition.symm.trans other
        · intro complete
          simp [Outcome.complete, default, disposition] at complete
    · exact absurd all (Nat.ne_of_lt short)

/-! ## The lazy search -/

/-- What the loop of the lazy search has done before the rest of the candidates. -/
structure Searched (elapsedS : Nat → F) (request : PlanRequest F)
    (before : List (Except PyError (CandidateSeed F))) (evaluations : List (CandidateEvaluation F))
    (readings : Nat) (verifierRejected : Bool) : Prop where
  evaluated : before.mapIdx (evaluateAt request) = evaluations.map .ok
  bounded : evaluations.length ≤ request.case.search.maximumCandidateCount
  untouched : verifierRejected = false → readings = evaluations.length ∧
    (∀ candidate ∈ evaluations, candidate.status = .rejected) ∧
    ∀ index < evaluations.length, lt request.budgetS (elapsedS index) = false
  feasible : verifierRejected = true → ∃ candidate ∈ evaluations, candidate.status = .feasible

namespace Searched

variable {before rest : List (Except PyError (CandidateSeed F))}
variable {evaluations : List (CandidateEvaluation F)} {readings : Nat} {verifierRejected : Bool}

theorem start : Searched elapsedS request [] [] 0 false where
  evaluated := rfl
  bounded := Nat.zero_le _
  untouched _ := ⟨rfl, by simp, fun index bound => absurd bound index.not_lt_zero⟩
  feasible impossible := by cases impossible

theorem length_eq (searched : Searched elapsedS request before evaluations readings
    verifierRejected) : before.length = evaluations.length := by
  simpa using congrArg List.length searched.evaluated

theorem evaluated_at (searched : Searched elapsedS request before evaluations readings
    verifierRejected) (split : request.authorizedSeeds = before ++ rest) {index : Nat}
    {evaluation : CandidateEvaluation F} (found : evaluations[index]? = some evaluation) :
    ∃ seed, request.authorizedSeeds[index]? = some seed ∧
      evaluateAt request index seed = .ok evaluation := by
  have bound : index < before.length := by
    rw [searched.length_eq]
    exact (List.getElem?_eq_some_iff.mp found).1
  have same : (before.mapIdx (evaluateAt request))[index]? = some (.ok evaluation) := by
    rw [searched.evaluated, List.getElem?_map, found]
    rfl
  rw [List.getElem?_mapIdx, Option.map_eq_some_iff] at same
  obtain ⟨seed, at_index, value⟩ := same
  exact ⟨seed, by rw [split, List.getElem?_append_left bound, at_index], value⟩

theorem not_unfinished (searched : Searched elapsedS request before evaluations readings
    verifierRejected) (split : request.authorizedSeeds = before ++ rest)
    (lazy : request.lazy = true)
    (feasible : ∃ candidate ∈ evaluations, candidate.status = .feasible) :
    ¬Unfinished elapsedS request := by
  intro unfinished
  obtain ⟨candidate, member, feasible⟩ := feasible
  obtain ⟨index, found⟩ := List.getElem?_of_mem member
  have bound := Nat.lt_of_lt_of_le (List.getElem?_eq_some_iff.mp found).1 searched.bounded
  obtain ⟨seed, at_index, value⟩ := searched.evaluated_at split found
  obtain ⟨seed', evaluation, at_index', value', rejected⟩ := unfinished.rejected lazy index bound
  cases at_index.symm.trans at_index'
  cases value.symm.trans value'
  cases feasible.symm.trans rejected

theorem extend (searched : Searched elapsedS request before evaluations readings verifierRejected)
    {next : Except PyError (CandidateSeed F)} {evaluation : CandidateEvaluation F}
    (room : evaluations.length < request.case.search.maximumCandidateCount)
    (value : evaluateAt request evaluations.length next = .ok evaluation) :
    (before ++ [next]).mapIdx (evaluateAt request) = (evaluations ++ [evaluation]).map .ok ∧
      (evaluations ++ [evaluation]).length ≤ request.case.search.maximumCandidateCount := by
  constructor
  · rw [List.mapIdx_concat, searched.evaluated, searched.length_eq, value, List.map_append]
    rfl
  · rw [List.length_append]
    exact room

theorem afterRejected
    (searched : Searched elapsedS request before evaluations readings verifierRejected)
    {next : Except PyError (CandidateSeed F)} {evaluation : CandidateEvaluation F}
    (room : evaluations.length < request.case.search.maximumCandidateCount)
    (value : evaluateAt request evaluations.length next = .ok evaluation)
    (inBudget : lt request.budgetS (elapsedS readings) = false)
    (rejected : evaluation.status = .rejected) :
    Searched elapsedS request (before ++ [next]) (evaluations ++ [evaluation]) (readings + 1)
      verifierRejected where
  evaluated := (searched.extend room value).1
  bounded := (searched.extend room value).2
  untouched unset := by
    obtain ⟨count, others, earlier⟩ := searched.untouched unset
    refine ⟨by rw [count, List.length_append]; rfl, ?_, ?_⟩
    · intro candidate member
      rcases List.mem_append.mp member with member | last
      · exact others candidate member
      · rwa [List.mem_singleton.mp last]
    · intro index bound
      rw [List.length_append, List.length_singleton] at bound
      by_cases last : index = evaluations.length
      · rwa [last, ← count]
      · exact earlier index (by omega)
  feasible set := by
    obtain ⟨candidate, member, feasible⟩ := searched.feasible set
    exact ⟨candidate, List.mem_append_left _ member, feasible⟩

theorem afterVerifier
    (searched : Searched elapsedS request before evaluations readings verifierRejected)
    {next : Except PyError (CandidateSeed F)} {evaluation : CandidateEvaluation F}
    (room : evaluations.length < request.case.search.maximumCandidateCount)
    (value : evaluateAt request evaluations.length next = .ok evaluation)
    (feasible : evaluation.status = .feasible) :
    Searched elapsedS request (before ++ [next]) (evaluations ++ [evaluation]) (readings + 2)
      true where
  evaluated := (searched.extend room value).1
  bounded := (searched.extend room value).2
  untouched unset := by cases unset
  feasible _ := ⟨evaluation, by simp, feasible⟩

end Searched

namespace Outcome

/-- An exit with another verdict that claims no completeness. -/
theorem honest_of_modest {outcome : Outcome F}
    (verdict : outcome.disposition ≠ .provenInfeasibleWithinDeclaredBounds)
    (modest : outcome.complete = false) : outcome.Honest request where
  infeasible other := absurd other verdict
  complete claimed := by cases modest.symm.trans claimed

end Outcome

theorem ended_exhausted_honest {evaluations : List (CandidateEvaluation F)} {readings : Nat}
    {verifierRejected : Bool}
    (searched : Searched elapsedS request request.authorizedSeeds evaluations readings
      verifierRejected) :
    (firstCertified.ended evaluations verifierRejected true).Honest request where
  infeasible verdict := by
    refine ⟨searched.evaluated, ?_, rfl, rfl⟩
    cases verifierRejected with
    | true => cases verdict
    | false => exact (searched.untouched rfl).2.1
  complete _ := searched.evaluated

theorem ended_cut_honest_iff {before rest : List (Except PyError (CandidateSeed F))}
    {next : Except PyError (CandidateSeed F)} {evaluations : List (CandidateEvaluation F)}
    {readings : Nat} {verifierRejected : Bool}
    (searched : Searched elapsedS request before evaluations readings verifierRejected)
    (split : request.authorizedSeeds = before ++ next :: rest) (lazy : request.lazy = true)
    (full : request.case.search.maximumCandidateCount ≤ evaluations.length) :
    (firstCertified.ended evaluations verifierRejected false).Honest request ↔
      ¬Unfinished elapsedS request := by
  have count := Nat.le_antisymm searched.bounded full
  cases verifierRejected with
  | true =>
    have finished := searched.not_unfinished split lazy (searched.feasible rfl)
    exact iff_of_true (Outcome.honest_of_modest nofun rfl) finished
  | false =>
    obtain ⟨-, rejected, inBudget⟩ := searched.untouched rfl
    have unfinished : Unfinished elapsedS request := by
      constructor
      · rw [split, List.length_append, searched.length_eq, count]
        simp
      · rwa [← count]
      · intro _ index bound
        rw [← count] at bound
        have found := List.getElem?_eq_getElem bound
        obtain ⟨seed, at_index, value⟩ := searched.evaluated_at split found
        exact ⟨seed, _, at_index, value, rejected _ (List.getElem_mem bound)⟩
    have dishonest :
        ¬(firstCertified.ended evaluations false false).Honest request := by
      intro honest
      cases (honest.infeasible rfl).2.2.1
    exact iff_of_false dishonest (not_not.mpr unfinished)

theorem firstCertified_honest_iff {before rest : List (Except PyError (CandidateSeed F))}
    {evaluations : List (CandidateEvaluation F)} {readings : Nat} {verifierRejected : Bool}
    {outcome : Outcome F}
    (searched : Searched elapsedS request before evaluations readings verifierRejected)
    (split : request.authorizedSeeds = before ++ rest) (lazy : request.lazy = true)
    (ok : firstCertified canonicalSha256 elapsedS request evaluations readings verifierRejected
      rest = .ok outcome) :
    outcome.Honest request ↔ ¬Unfinished elapsedS request := by
  induction rest generalizing before evaluations readings verifierRejected with
  | nil =>
    cases ok
    rw [List.append_nil] at split
    rw [← split] at searched
    have short : ¬Unfinished elapsedS request := by
      intro unfinished
      have := unfinished.truncated
      rw [searched.length_eq] at this
      exact absurd searched.bounded (Nat.not_le.mpr this)
    exact iff_of_true (ended_exhausted_honest searched) short
  | cons next rest ih =>
    have split' : request.authorizedSeeds = (before ++ [next]) ++ rest := by
      rw [split, List.append_assoc, List.singleton_append]
    unfold firstCertified at ok
    obtain ⟨seed, seedOk, ok⟩ := bind_eq_ok.mp ok
    split at ok
    · next full =>
      cases ok
      exact ended_cut_honest_iff searched split lazy full
    next full =>
    have room := Nat.lt_of_not_le full
    split at ok
    · next expired =>
      cases ok
      refine iff_of_true (Outcome.honest_of_modest nofun rfl) ?_
      cases verifierRejected with
      | true => exact searched.not_unfinished split lazy (searched.feasible rfl)
      | false =>
        intro unfinished
        have inBudget := unfinished.inBudget _ room
        rw [← (searched.untouched rfl).1, expired] at inBudget
        cases inBudget
    next inBudget =>
    obtain ⟨evaluation, evaluated, ok⟩ := bind_eq_ok.mp ok
    have value : evaluateAt request evaluations.length next = .ok evaluation := by
      rw [seedOk]
      exact evaluated
    dsimp only at ok
    split at ok
    · next other =>
      have rejected : evaluation.status = .rejected := by
        cases status : evaluation.status with
        | rejected => rfl
        | feasible => exact absurd status other
      exact ih (searched.afterRejected room value (Bool.eq_false_iff.mpr inBudget) rejected)
        split' ok
    next feasible =>
    have verified := searched.afterVerifier room value (not_not.mp feasible)
    have finished := verified.not_unfinished split' lazy (verified.feasible rfl)
    obtain ⟨certificate, -, ok⟩ := bind_eq_ok.mp ok
    split at ok
    · cases ok
      exact iff_of_true (Outcome.honest_of_modest nofun rfl) finished
    split at ok
    · cases ok
      exact iff_of_true (Outcome.honest_of_modest nofun rfl) finished
    · exact ih verified split' ok

/-! ## Both modes -/

theorem searched_honest_iff {result : BoundedPlanningResult F}
    (searches : request.capabilityInfeasible = none)
    (ok : plan canonicalSha256 elapsedS request = .ok result) :
    Honest request result ↔ ¬Unfinished elapsedS request := by
  unfold plan at ok
  rw [searches] at ok
  obtain ⟨outcome, searched, ok⟩ := bind_eq_ok.mp ok
  rw [honest_iff_outcome searches ok]
  unfold searchOutcome at searched
  split at searched
  · next lazy =>
    exact firstCertified_honest_iff Searched.start rfl lazy searched
  · next eager =>
    obtain ⟨seeds, authorized, searched⟩ := bind_eq_ok.mp searched
    exact eagerOutcome_honest_iff (Bool.eq_false_iff.mpr eager) (mapM_id_eq_ok authorized) searched

/-- A capability that is proven infeasible leaves the candidates unevaluated. -/
theorem unsearched_honest_iff {violated : List String} {result : BoundedPlanningResult F}
    (skips : request.capabilityInfeasible = some violated)
    (ok : plan canonicalSha256 elapsedS request = .ok result) :
    Honest request result ↔ request.authorizedSeeds = [] := by
  unfold plan at ok
  rw [skips] at ok
  obtain ⟨-, retained, -, complete, -⟩ := planningResult_eq_ok ok
  have none : result.retainedCandidates = [] := retained
  constructor
  · intro honest
    have evaluated := (honest.complete complete).length_eq
    rw [none] at evaluated
    exact List.eq_nil_of_length_eq_zero evaluated
  · intro empty
    constructor
    · intro searches
      cases skips.symm.trans searches
    · intro _
      rw [Evaluated, empty, none]
      rfl

/-- The planner's verdicts rest on a complete search exactly when it does not get through all the
candidates that it may evaluate while there are more, and when a capability that is proven
infeasible leaves no candidates out. -/
theorem plan_honest_iff {result : BoundedPlanningResult F}
    (ok : plan canonicalSha256 elapsedS request = .ok result) :
    Honest request result ↔
      (request.capabilityInfeasible = none → ¬Unfinished elapsedS request) ∧
        (request.capabilityInfeasible ≠ none → request.authorizedSeeds = []) := by
  cases resolved : request.capabilityInfeasible with
  | none => simp [searched_honest_iff resolved ok]
  | some violated => simp [unsearched_honest_iff resolved ok]

/-! ## A hover with more candidates than it may evaluate -/

section Hover

def hoverRegion : Region3D ℚ := ⟨"pad", ⟨-1, -1, 0⟩, ⟨1, 1, 2⟩⟩

def hoverData : CaseData ℚ where
  caseId := "hover"
  family := "single_drone"
  drones := [⟨"alpha", hoverRegion, [hoverRegion], hoverRegion, 100, 20, 1⟩]
  hardConstraints :=
    { flightVolume := ⟨"volume", ⟨-2, -2, 0⟩, ⟨2, 2, 2⟩⟩
      warningSeparationM := 1 / 2
      positionUncertaintyM := 0
      dynamics := ⟨1, 1, 1, 1⟩
      deadlineS := 5
      maximumHoverS := 10
      maximumUnrequiredAirborneWaitS := 1
      minimumRealtimeFactor := 1
      watchdogGuardS := 0
      planningBudgetS := 1 }
  allowedStrategies := [.direct, .groundDelay]
  search := ⟨1 / 50, 1, 1, [1]⟩

def hoverRoute : CandidateRoute ℚ where
  roleId := "alpha"
  pointsM := [⟨0, 0, 1⟩, ⟨0, 0, 1⟩]
  routeStartS := 0
  routeDurationS := 1 / 100
  groundWaitS := 0
  airborneWaitS := 0
  speedFactor := 1
  segmentDurationsS := [1 / 100]

/-- A pure hover that the deadline rejects, with one candidate allowed of the two that its
strategies yield. -/
def hoverRequest (eager : Bool) : PlanRequest ℚ where
  case := ⟨hoverData, by decide +kernel⟩
  planning :=
    { planningSubmissionId := "case_planning_authority"
      strategyAuthority := [.direct, .groundDelay]
      pathAdherence := ⟨.goalSequenceOnly, none, rfl, rfl, rfl⟩
      clearance := ⟨1 / 10, 1 / 20, 1 / 2, 1 / 10, 0⟩
      coordination := ⟨false, false, 100, 0, 30⟩
      objective := ⟨.lexicographic, [⟨.missionCompletionTimeS, none⟩], by simp, by simp, by simp⟩
      uniqueAuthority := by decide }
  capabilityInfeasible := none
  firstCertifiedWithinBudget := !eager
  seedSource :=
    [.ok ⟨.direct, "direct-v1", [], [hoverRoute]⟩,
     .ok ⟨.groundDelay, "ground-delay-v1", [("role_id", .text "alpha"), ("delay_s", .number 1)],
      [{ hoverRoute with routeStartS := 1, groundWaitS := 1 }]⟩]

theorem plan_honest_iff_hover : ∃ result : BoundedPlanningResult ℚ,
    plan (fun _ => "sha") (fun _ => 0) (hoverRequest true) = .ok result ∧
      (Honest (hoverRequest true) result ↔
        ((hoverRequest true).capabilityInfeasible = none →
          ¬Unfinished (fun _ => 0) (hoverRequest true)) ∧
        ((hoverRequest true).capabilityInfeasible ≠ none →
          (hoverRequest true).authorizedSeeds = [])) := by
  obtain ⟨result, planned, -⟩ := exists_of_okWith
    (x := plan (fun _ => "sha") (fun _ => 0) (hoverRequest true)) (t := fun _ => true)
    (by decide +kernel)
  exact ⟨result, planned, plan_honest_iff planned⟩

theorem hover_truncated (eager : Bool) : ∃ result : BoundedPlanningResult ℚ,
    plan (fun _ => "sha") (fun _ => 0) (hoverRequest eager) = .ok result ∧
      result.searchDisposition = .provenInfeasibleWithinDeclaredBounds ∧
      result.retainedCandidates.length = 1 ∧ result.truncated = true ∧
      result.boundedSearchComplete = eager := by
  obtain ⟨result, planned, holds⟩ := exists_of_okWith
    (x := plan (fun _ => "sha") (fun _ => 0) (hoverRequest eager))
    (t := fun result => decide (
      result.searchDisposition = .provenInfeasibleWithinDeclaredBounds ∧
        result.retainedCandidates.length = 1 ∧ result.truncated = true ∧
        result.boundedSearchComplete = eager)) (by cases eager <;> decide +kernel)
  exact ⟨result, planned, of_decide_eq_true holds⟩

theorem hover_verdict_unfounded :
    (∃ result, plan (fun _ => "sha") (fun _ => 0) (hoverRequest true) = .ok result ∧
      result.boundedSearchComplete = true ∧ ¬Evaluated (hoverRequest true)
        result.retainedCandidates ∧ ¬Honest (hoverRequest true) result) ∧
    ∃ result, plan (fun _ => "sha") (fun _ => 0) (hoverRequest false) = .ok result ∧
      result.searchDisposition = .provenInfeasibleWithinDeclaredBounds ∧
      result.truncated = true ∧ ¬Honest (hoverRequest false) result := by
  constructor
  · obtain ⟨result, planned, -, one, -, complete⟩ := hover_truncated true
    have left : ¬Evaluated (hoverRequest true) result.retainedCandidates := by
      intro evaluated
      have two : (hoverRequest true).authorizedSeeds.length = 2 := by decide
      have length := evaluated.length_eq
      omega
    exact ⟨result, planned, complete, left, fun honest => left (honest.complete complete)⟩
  · obtain ⟨result, planned, verdict, -, truncated, -⟩ := hover_truncated false
    refine ⟨result, planned, verdict, truncated, fun honest => ?_⟩
    cases truncated.symm.trans (honest.infeasible rfl verdict).2.2.1

end Hover

end BoundedJointPlanner
end CrazySwarm
