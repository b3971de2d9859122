import CrazySwarm.CampaignAllocation

/-! Stops that are declared for visits of a route: which visits the match by position finds for
them, and when the allocation therefore flies them all. -/
namespace CrazySwarm
open PyFloat (le lt ofRat)

namespace CampaignTrajectory

/-! ## How long the holds are -/

section Delays

variable {F : Type} [Field F] [LinearOrder F] [IsStrictOrderedRing F]
omit [IsStrictOrderedRing F] in
theorem withHolds_last [PyMath F] (dwellByIndex : ℕ → F) (points : List (TrajectoryPoint F))
    (index : ℕ) :
    (withHolds dwellByIndex index points).getLast?.map TrajectoryPoint.timeFromStartS =
      points.getLast?.map fun point =>
        point.timeFromStartS + delay dwellByIndex (index + points.length) := by
  induction points generalizing index with
  | nil => rfl
  | cons point rest ih =>
    have onward := ih (index + 1)
    cases rest with
    | nil =>
      rw [withHolds]
      split
      case isTrue => rfl
      case isFalse none =>
        simp only [withHolds, List.getLast?_singleton, Option.map_some, List.length_singleton,
          movedKnot, delay_succ_of_nonpos none]
    | cons next rest =>
      have count : index + (point :: next :: rest).length = index + 1 + (next :: rest).length := by
        simp only [List.length_cons]
        omega
      have kept : withHolds dwellByIndex (index + 1) (next :: rest) ≠ [] := by
        rw [withHolds]
        exact List.cons_ne_nil _ _
      rw [count, List.getLast?_cons_cons, ← onward, withHolds]
      congr 1
      split
      · rw [List.getLast?_cons_of_ne_nil (List.cons_ne_nil _ _), List.getLast?_cons_of_ne_nil kept]
      · rw [List.getLast?_cons_of_ne_nil kept]

def declaredDwell (visits : List (ℕ × F)) (visit : ℕ) : F :=
  ((visits.filter fun declared => declared.1 == visit).map (·.2)).sum

variable {visits : List (ℕ × F)} {visit count : ℕ}

omit [LinearOrder F] [IsStrictOrderedRing F] in
theorem declaredDwell_cons (declared : ℕ × F) : declaredDwell (declared :: visits) visit =
    (if visit = declared.1 then declared.2 else 0) + declaredDwell visits visit := by
  unfold declaredDwell
  rw [List.filter_cons]
  by_cases same : visit = declared.1
  · simp [same]
  · rw [if_neg same, if_neg (by simpa using Ne.symm same), zero_add]

omit [LinearOrder F] [IsStrictOrderedRing F] in
theorem sum_declaredDwell (inside : ∀ declared ∈ visits, declared.1 < count) :
    ∑ visit ∈ Finset.range count, declaredDwell visits visit = (visits.map (·.2)).sum := by
  induction visits with
  | nil => simp [declaredDwell]
  | cons declared rest ih =>
    rw [List.forall_mem_cons] at inside
    simp only [declaredDwell_cons, Finset.sum_add_distrib, List.map_cons, List.sum_cons,
      ih inside.2, Finset.sum_ite_eq', Finset.mem_range, inside.1, if_true]

theorem declaredDwell_nonneg (nonneg : ∀ declared ∈ visits, 0 ≤ declared.2) :
    0 ≤ declaredDwell visits visit := by
  refine List.sum_nonneg fun value member => ?_
  obtain ⟨declared, kept, rfl⟩ := List.mem_map.mp member
  exact nonneg declared (List.mem_of_mem_filter kept)

theorem declaredDwell_eq_zero (nonneg : ∀ declared ∈ visits, 0 ≤ declared.2) :
    declaredDwell visits visit = 0 ↔ ∀ declared ∈ visits, declared.1 = visit → ¬0 < declared.2 := by
  induction visits with
  | nil => simp [declaredDwell]
  | cons declared rest ih =>
    rw [List.forall_mem_cons] at nonneg
    have later : 0 ≤ declaredDwell rest visit := declaredDwell_nonneg nonneg.2
    rw [declaredDwell_cons, List.forall_mem_cons, ← ih nonneg.2]
    by_cases same : visit = declared.1
    · rw [if_pos same, add_eq_zero_iff_of_nonneg nonneg.1 later]
      refine and_congr_left fun _ => ?_
      simp only [same, forall_const, not_lt]
      exact ⟨Eq.le, fun none => le_antisymm none nonneg.1⟩
    · rw [if_neg same, zero_add]
      exact (and_iff_right fun other => absurd other.symm same).symm

end Delays

namespace Allocation

/-! ## Matching -/

section Matching

variable {F : Type} [Field F] [LinearOrder F] [IsStrictOrderedRing F] [PyMath F] [Exact F]

/-- Two visits of a route are at one position. -/
def Near (a : Allocation F) (first second : ℕ) : Prop :=
  le (distance (a.positions.getD first .zero) (a.positions.getD second .zero)) (ofRat 1e-9) = true

def FirstAt (a : Allocation F) (visit declared : ℕ) : Prop :=
  visit < a.positions.length ∧ a.Near visit declared ∧ ∀ earlier < visit, ¬a.Near earlier declared

structure Declares (a : Allocation F) (visits : List (ℕ × F)) : Prop where
  contracts : a.stopContracts = visits.map fun declared =>
    (a.positions.getD declared.1 .zero, declared.2)
  inside : ∀ declared ∈ visits, declared.1 < a.positions.length
  nonneg : ∀ declared ∈ visits, 0 ≤ declared.2

variable {a : Allocation F} {visits : List (ℕ × F)} {visit : ℕ}

omit [IsStrictOrderedRing F] [Exact F] in
theorem mem_stops_iff (declares : a.Declares visits) :
    visit ∈ a.stops ↔ ∃ declared ∈ visits, a.FirstAt visit declared.1 := by
  unfold stops stopIndices
  rw [declares.contracts, List.mem_filterMap]
  simp only [List.mem_map, exists_exists_and_eq_and]
  refine exists_congr fun declared => and_congr_right fun _ => ?_
  rw [List.findIdx?_eq_some_iff_getElem]
  constructor
  · rintro ⟨inside, near, earlier⟩
    refine ⟨inside, ?_, fun other before => ?_⟩
    · rw [Near, List.getD_eq_getElem _ _ inside]
      exact near
    · rw [Near, List.getD_eq_getElem _ _ (before.trans inside)]
      exact earlier other before
  · rintro ⟨inside, near, earlier⟩
    rw [Near, List.getD_eq_getElem _ _ inside] at near
    refine ⟨inside, near, fun other before => ?_⟩
    have apart := earlier other before
    rwa [Near, List.getD_eq_getElem _ _ (before.trans inside)] at apart

theorem dwellAt_isLUB (declares : a.Declares visits) (stop : visit ∈ a.stops) :
    IsLUB {dwellS | ∃ declared ∈ visits, a.Near visit declared.1 ∧ declared.2 = dwellS}
      (dwellAt a.positions a.stopContracts visit) := by
  let values := (a.stopContracts.filter fun contract =>
    le (distance (a.positions.getD visit .zero) contract.1) (ofRat 1e-9)).map (·.2)
  have dwell : dwellAt a.positions a.stopContracts visit =
      (CampaignGeometry.maximum? values).getD PyFloat.zero :=
    if_pos (List.contains_iff_mem.mpr stop)
  have mem_values {dwellS : F} : dwellS ∈ values ↔
      ∃ declared ∈ visits, a.Near visit declared.1 ∧ declared.2 = dwellS := by
    simp only [values, declares.contracts, List.mem_map, List.mem_filter, Near]
    constructor
    · rintro ⟨_, ⟨⟨declared, member, rfl⟩, near⟩, rfl⟩
      exact ⟨declared, member, near, rfl⟩
    · rintro ⟨declared, member, near, rfl⟩
      exact ⟨_, ⟨⟨declared, member, rfl⟩, near⟩, rfl⟩
  obtain ⟨declared, member, -, near, -⟩ := (mem_stops_iff declares).mp stop
  have some_value := mem_values.mpr ⟨declared, member, near, rfl⟩
  have maximum : ∃ most, CampaignGeometry.maximum? values = some most := by
    obtain ⟨value, rest, split⟩ := List.exists_cons_of_ne_nil (List.ne_nil_of_mem some_value)
    exact ⟨_, congrArg CampaignGeometry.maximum? split⟩
  obtain ⟨most, longest⟩ := maximum
  rw [dwell, longest, Option.getD_some, isLUB_iff_le_iff]
  intro bound
  rw [CampaignGeometry.maximum?_le longest]
  exact ⟨fun above dwellS among => above dwellS (mem_values.mpr among),
    fun above value among => above (mem_values.mp among)⟩

theorem dwellAt_of_not_stop (not_stop : visit ∉ a.stops) :
    dwellAt a.positions a.stopContracts visit = 0 :=
  (if_neg (mt List.contains_iff_mem.mp not_stop)).trans Exact.zero_eq

theorem dwellAt_nonneg (declares : a.Declares visits) (visit : ℕ) :
    0 ≤ dwellAt a.positions a.stopContracts visit := by
  by_cases stop : visit ∈ a.stops
  · obtain ⟨declared, member, -, near, -⟩ := (mem_stops_iff declares).mp stop
    exact (declares.nonneg declared member).trans
      ((dwellAt_isLUB declares stop).1 ⟨declared, member, near, rfl⟩)
  · exact (dwellAt_of_not_stop stop).ge

structure DwellsMatch (a : Allocation F) (visits : List (ℕ × F)) : Prop where
  longest : ∀ visit < a.positions.length, (∃ declared ∈ visits, a.FirstAt visit declared.1) →
    IsLUB {dwellS | ∃ declared ∈ visits, a.Near visit declared.1 ∧ declared.2 = dwellS}
      (declaredDwell visits visit)
  found : ∀ dwelt ∈ visits, 0 < dwelt.2 → ∃ declared ∈ visits, a.FirstAt dwelt.1 declared.1

theorem dwellsMatch_iff (declares : a.Declares visits) : a.DwellsMatch visits ↔
    ∀ visit < a.positions.length,
      dwellAt a.positions a.stopContracts visit = declaredDwell visits visit := by
  constructor
  · rintro ⟨longest, found⟩ visit inside
    by_cases stop : visit ∈ a.stops
    · exact (dwellAt_isLUB declares stop).unique
        (longest visit inside ((mem_stops_iff declares).mp stop))
    · rw [dwellAt_of_not_stop stop, eq_comm, declaredDwell_eq_zero declares.nonneg]
      rintro dwelt member rfl positive
      exact stop ((mem_stops_iff declares).mpr (found dwelt member positive))
  · intro equal
    constructor
    · intro visit inside first
      rw [← equal visit inside]
      exact dwellAt_isLUB declares ((mem_stops_iff declares).mpr first)
    · intro dwelt member positive
      by_contra none
      have not_stop : dwelt.1 ∉ a.stops := fun stop => none ((mem_stops_iff declares).mp stop)
      have zero := equal dwelt.1 (declares.inside dwelt member)
      rw [dwellAt_of_not_stop not_stop, eq_comm, declaredDwell_eq_zero declares.nonneg] at zero
      exact zero dwelt member rfl positive

end Matching

/-! ## Flying -/

section Flying

variable {F : Type} [Field F] [LinearOrder F] [IsStrictOrderedRing F]
variable [PyMath F] [PyRound F] [Exact F]

/-- The vehicle rests at a visit with no stop there: at the ends, and where a path of plain knots
turns straight back. -/
def RestsAnyway (a : Allocation F) (visit : ℕ) : Prop :=
  visit = 0 ∨ visit + 1 = a.positions.length ∨ a.profiled = false ∧ a.turnsBackAt visit

/-- The knot of a visit; a profile has two more for each leg. -/
def visitKnot (a : Allocation F) (visit : ℕ) : ℕ := if a.profiled then 3 * visit else visit

structure FlownBy [PyRoot F] (a : Allocation F) (visits : List (ℕ × F))
    (points unheld : List (TrajectoryPoint F)) (dwell : ℕ → F) : Prop where
  without : a.withoutDwells.allocate = .ok unheld
  dwells : a.dwells unheld = .ok dwell
  shifted : points.map unnumbered = withHolds dwell 0 unheld
  stops : ∀ declared ∈ visits, ∃ point,
    unheld[a.visitKnot declared.1]? = some point ∧ AtRest point
  holds : ∀ visit < a.positions.length,
    max (dwell (a.visitKnot visit)) 0 = declaredDwell visits visit
  duration : points.getLast?.map TrajectoryPoint.timeFromStartS =
    unheld.getLast?.map fun point => point.timeFromStartS + (visits.map (·.2)).sum
  through : ∀ visit < a.positions.length, visit ∉ visits.map Prod.fst →
    ∀ point, unheld[a.visitKnot visit]? = some point → AtRest point → a.RestsAnyway visit

def Flown [PyRoot F] (a : Allocation F) (visits : List (ℕ × F))
    (points : List (TrajectoryPoint F)) : Prop :=
  ∃ unheld dwell, a.FlownBy visits points unheld dwell

structure Matched (a : Allocation F) (visits : List (ℕ × F)) : Prop where
  found : ∀ declared ∈ visits,
    (∃ other ∈ visits, a.FirstAt declared.1 other.1) ∨ a.RestsAnyway declared.1
  declared : ∀ visit, (∃ declared ∈ visits, a.FirstAt visit declared.1) →
    visit ∈ visits.map Prod.fst ∨ a.RestsAnyway visit
  dwells : a.DwellsMatch visits
  atEnd : a.profiled = true → 0 < declaredDwell visits (a.positions.length - 1) →
    a.endKnot = some (a.profileKnots.length - 1)

variable {a : Allocation F} {visits : List (ℕ × F)} {unheld points : List (TrajectoryPoint F)}
variable {dwell : ℕ → F} {scale : F} {visit : ℕ}

theorem Run.length_positions (run : Run a unheld points dwell scale) : 2 ≤ a.positions.length ∧
    unheld.length = if a.profiled then 3 * (a.positions.length - 1) + 1 else a.positions.length := by
  cases profiled : a.profiled with
  | false =>
    have length : unheld.length = a.positions.length := by
      rw [run.plain_knots profiled, length_trajectoryPoints]
    have two := run.two
    exact ⟨by omega, length⟩
  | true =>
    obtain ⟨leg, legs, made, -, count⟩ := run.exists_leg profiled
    have length := run.length_profiled profiled
    rw [profileKnots, made, length_profileKnots] at length
    rw [if_pos rfl]
    omega

theorem Run.visitKnot_lt (run : Run a unheld points dwell scale)
    (inside : visit < a.positions.length) : a.visitKnot visit < unheld.length := by
  obtain ⟨-, length⟩ := run.length_positions
  rw [length, visitKnot]
  split <;> omega

theorem Run.visit_atRest_iff [ExactSqrt F] (run : Run a unheld points dwell scale)
    (inside : visit < a.positions.length) {point : TrajectoryPoint F}
    (found : unheld[a.visitKnot visit]? = some point) :
    AtRest point ↔ visit ∈ a.stops ∨ a.RestsAnyway visit := by
  obtain ⟨two, length⟩ := run.length_positions
  unfold RestsAnyway
  unfold visitKnot at found
  cases profiled : a.profiled with
  | false =>
    rw [profiled, if_neg Bool.false_ne_true] at found
    rw [run.plain_atRest_iff profiled found]
    tauto
  | true =>
    rw [profiled, if_pos rfl] at found length
    rw [run.profiled_atRest_iff profiled found]
    constructor
    · intro ends
      exact .inr (by omega)
    · rintro (stop | ends)
      · have ends := end_of_profiled profiled stop
        omega
      · simp only [Bool.true_eq_false, false_and, or_false] at ends
        omega

theorem Run.stops_iff [ExactSqrt F] (run : Run a unheld points dwell scale)
    (declares : a.Declares visits) :
    (∀ declared ∈ visits, ∃ point,
      unheld[a.visitKnot declared.1]? = some point ∧ AtRest point) ↔
    ∀ declared ∈ visits,
      (∃ other ∈ visits, a.FirstAt declared.1 other.1) ∨ a.RestsAnyway declared.1 := by
  refine forall₂_congr fun declared member => ?_
  have inside := declares.inside declared member
  have found := List.getElem?_eq_getElem (run.visitKnot_lt inside)
  rw [← mem_stops_iff declares, ← run.visit_atRest_iff inside found, found]
  simp

theorem Run.through_iff [ExactSqrt F] (run : Run a unheld points dwell scale)
    (declares : a.Declares visits) :
    (∀ visit < a.positions.length, visit ∉ visits.map Prod.fst →
      ∀ point, unheld[a.visitKnot visit]? = some point → AtRest point → a.RestsAnyway visit) ↔
    ∀ visit, (∃ declared ∈ visits, a.FirstAt visit declared.1) →
      visit ∈ visits.map Prod.fst ∨ a.RestsAnyway visit := by
  constructor
  · intro through visit found
    by_contra other
    rw [not_or] at other
    obtain ⟨declared, member, first⟩ := found
    have inside := first.1
    have at_visit := List.getElem?_eq_getElem (run.visitKnot_lt inside)
    have rests := (run.visit_atRest_iff inside at_visit).mpr
      (.inl ((mem_stops_iff declares).mpr ⟨declared, member, first⟩))
    exact other.2 (through visit inside other.1 _ at_visit rests)
  · intro found visit inside undeclared point at_visit rests
    rcases (run.visit_atRest_iff inside at_visit).mp rests with stop | anyway
    · exact (found visit ((mem_stops_iff declares).mp stop)).resolve_left undeclared
    · exact anyway

/-- The last knot is delayed by what is declared exactly if the holds come to that. -/
theorem Run.duration_iff (run : Run a unheld points dwell scale) {total : F} :
    points.getLast?.map TrajectoryPoint.timeFromStartS =
        unheld.getLast?.map (fun point => point.timeFromStartS + total) ↔
      delay dwell unheld.length = total := by
  have last : points.getLast?.map TrajectoryPoint.timeFromStartS =
      unheld.getLast?.map fun point => point.timeFromStartS + delay dwell unheld.length := by
    have delayed := withHolds_last dwell unheld 0
    rw [Nat.zero_add, ← run.shifted.2, List.getLast?_map, Option.map_map] at delayed
    exact delayed
  have two := run.two
  have some_last : unheld.getLast? = some (unheld.getLast (List.ne_nil_of_length_pos (by omega))) :=
    List.getLast?_eq_getLast_of_ne_nil _
  rw [last, some_last, Option.map_some, Option.map_some, Option.some.injEq, add_right_inj]

theorem Run.plain_holds_iff (run : Run a unheld points dwell scale) (plain : a.profiled = false)
    (declares : a.Declares visits) :
    ((∀ visit < a.positions.length,
        max (dwell (a.visitKnot visit)) 0 = declaredDwell visits visit) ∧
      delay dwell unheld.length = (visits.map (·.2)).sum) ↔ a.DwellsMatch visits := by
  have knot (visit : ℕ) : a.visitKnot visit = visit := by
    rw [visitKnot, plain, if_neg Bool.false_ne_true]
  have dwells := run.dwells
  rw [Allocation.dwells, plain] at dwells
  cases dwells
  obtain ⟨-, length⟩ := run.length_positions
  rw [plain, if_neg Bool.false_ne_true] at length
  simp only [knot, max_eq_left (dwellAt_nonneg declares _), dwellsMatch_iff declares, length,
    and_iff_left_iff_imp]
  intro equal
  rw [delay, ← sum_declaredDwell declares.inside]
  refine Finset.sum_congr rfl fun visit inside => ?_
  rw [max_eq_left (dwellAt_nonneg declares visit), equal visit (Finset.mem_range.mp inside)]

section Profiled

variable [ExactSqrt F]

/-- The stops of a profiled route are declared for its ends. -/
def AtEnds (a : Allocation F) (visits : List (ℕ × F)) : Prop :=
  ∀ declared ∈ visits, declared.1 = 0 ∨ declared.1 + 1 = a.positions.length

theorem Run.endKnot_ne_zero (run : Run a unheld points dwell scale) (profiled : a.profiled = true)
    (declares : a.Declares visits) (ends : a.AtEnds visits)
    (stop : a.positions.length - 1 ∈ a.stops) : a.endKnot ≠ some 0 := by
  obtain ⟨two, -⟩ := run.length_positions
  obtain ⟨declared, member, -, -, earlier⟩ := (mem_stops_iff declares).mp stop
  have apart : ¬a.Near 0 declared.1 := earlier 0 (by omega)
  rcases ends declared member with first | last
  · refine fun _ => apart ?_
    rw [first, Near, distance_self, Exact.le_true, Exact.ofRat_cast]
    norm_num
  · obtain ⟨leg, legs, made, start, -⟩ := run.exists_leg profiled
    intro found
    obtain ⟨_, near, -⟩ := List.findIdx?_eq_some_iff_getElem.mp found
    have first : ∃ rest, a.profileKnots = ⟨PyFloat.zero, leg.before, .zero, .zero⟩ :: rest := by
      rw [profileKnots, made]
      exact ⟨_, rfl⟩
    obtain ⟨rest, first⟩ := first
    simp only [first, List.getElem_cons_zero, start] at near
    have visit : declared.1 = a.positions.length - 1 := by omega
    rw [visit] at apart
    exact apart near

/-- The knots of a profiled route that are held: the first one, and the first at the end. -/
theorem Run.profiled_dwell (run : Run a unheld points dwell scale) (profiled : a.profiled = true)
    (declares : a.Declares visits) (ends : a.AtEnds visits) (knot : ℕ) :
    dwell knot = if knot = 0 then dwellAt a.positions a.stopContracts 0
      else if a.endKnot = some knot then
        dwellAt a.positions a.stopContracts (a.positions.length - 1)
      else 0 := by
  have dwells := run.dwells
  rw [Allocation.dwells, profiled, if_pos rfl] at dwells
  have at_start := run.knotOf_zero profiled
  have at_end : a.knotOf unheld (a.positions.length - 1) = a.endKnot :=
    run.knotOf_profiled profiled _
  rcases profiledDwells_cases dwells knot with ⟨zero, unmatched⟩ | ⟨index, stop, first, equal⟩
  · rw [zero]
    split
    case isTrue start =>
      subst start
      exact (dwellAt_of_not_stop fun stop => unmatched 0 stop at_start).symm
    case isFalse =>
      split
      case isTrue last =>
        exact (dwellAt_of_not_stop fun stop => unmatched _ stop (at_end.trans last)).symm
      case isFalse => rfl
  · rw [equal]
    rcases end_of_profiled profiled stop with rfl | rfl
    · rw [at_start] at first
      rw [if_pos (Option.some.inj first).symm]
    · rw [at_end] at first
      have later : knot ≠ 0 := by
        rintro rfl
        exact run.endKnot_ne_zero profiled declares ends stop first
      rw [if_neg later, if_pos first]

/-- Both ends together are held for the dwells at them. -/
theorem Run.profiled_delay (run : Run a unheld points dwell scale) (profiled : a.profiled = true)
    (declares : a.Declares visits) (ends : a.AtEnds visits) :
    delay dwell unheld.length = dwellAt a.positions a.stopContracts 0 +
      dwellAt a.positions a.stopContracts (a.positions.length - 1) := by
  have start_nonneg := dwellAt_nonneg declares 0
  have end_nonneg := dwellAt_nonneg declares (a.positions.length - 1)
  have formula := run.profiled_dwell profiled declares ends
  have two := run.two
  have start : max (dwell 0) 0 = dwellAt a.positions a.stopContracts 0 := by
    rw [formula, if_pos rfl, max_eq_left start_nonneg]
  rcases end_nonneg.eq_or_lt with none | dwelt
  · rw [← none, add_zero, delay, ← start]
    refine Finset.sum_eq_single_of_mem 0 (Finset.mem_range.mpr (by omega)) fun knot _ later => ?_
    rw [formula, if_neg later, ← none, ite_self, max_self]
  · have stop := mem_stops_of_dwellAt_pos dwelt
    have dwells := run.dwells
    rw [Allocation.dwells, profiled, if_pos rfl] at dwells
    obtain ⟨last, found⟩ := exists_knotOf dwells stop
    obtain ⟨inside, -⟩ := List.findIdx?_eq_some_iff_getElem.mp found
    rw [run.knotOf_profiled profiled] at found
    have at_end : a.endKnot = some last := found
    have later : last ≠ 0 := by
      rintro rfl
      exact run.endKnot_ne_zero profiled declares ends stop at_end
    have held : max (dwell last) 0 =
        dwellAt a.positions a.stopContracts (a.positions.length - 1) := by
      rw [formula, if_neg later, if_pos at_end, max_eq_left end_nonneg]
    rw [← start, ← held, delay]
    refine Finset.sum_eq_add 0 last later.symm (fun knot _ other => ?_) (fun outside => ?_)
      fun outside => ?_
    · have elsewhere : ¬a.endKnot = some knot := by
        rw [at_end]
        exact fun same => other.2 (Option.some.inj same).symm
      rw [formula, if_neg other.1, if_neg elsewhere, max_self]
    · exact absurd (Finset.mem_range.mpr (by omega)) outside
    · exact absurd (Finset.mem_range.mpr inside) outside

omit [PyRound F] [Exact F] [ExactSqrt F] in
theorem declaredDwell_inner (declares : a.Declares visits) (ends : a.AtEnds visits)
    (later : visit ≠ 0) (earlier : visit + 1 ≠ a.positions.length) :
    declaredDwell visits visit = 0 := by
  rw [declaredDwell_eq_zero declares.nonneg]
  rintro declared member rfl -
  rcases ends declared member with first | last
  · exact later first
  · exact earlier last

theorem Run.profiled_holds_iff (run : Run a unheld points dwell scale)
    (profiled : a.profiled = true) (declares : a.Declares visits) (ends : a.AtEnds visits) :
    ((∀ visit < a.positions.length,
        max (dwell (a.visitKnot visit)) 0 = declaredDwell visits visit) ∧
      delay dwell unheld.length = (visits.map (·.2)).sum) ↔
    a.DwellsMatch visits ∧ (0 < declaredDwell visits (a.positions.length - 1) →
      a.endKnot = some (a.profileKnots.length - 1)) := by
  obtain ⟨two, length⟩ := run.length_positions
  rw [profiled, if_pos rfl, run.length_profiled profiled] at length
  have start_nonneg := dwellAt_nonneg declares 0
  have end_nonneg := dwellAt_nonneg declares (a.positions.length - 1)
  have knot (visit : ℕ) : a.visitKnot visit = 3 * visit := by
    rw [visitKnot, profiled, if_pos rfl]
  have formula := run.profiled_dwell profiled declares ends
  have together : (visits.map (·.2)).sum =
      declaredDwell visits 0 + declaredDwell visits (a.positions.length - 1) := by
    rw [← sum_declaredDwell declares.inside]
    refine Finset.sum_eq_add 0 (a.positions.length - 1) (by omega) (fun visit inside inner => ?_)
      (fun outside => ?_) fun outside => ?_
    · exact declaredDwell_inner declares ends inner.1 (by omega)
    · exact absurd (Finset.mem_range.mpr (by omega)) outside
    · exact absurd (Finset.mem_range.mpr (by omega)) outside
  have last_knot : a.profileKnots.length - 1 = 3 * (a.positions.length - 1) := by omega
  rw [run.profiled_delay profiled declares ends, together, dwellsMatch_iff declares, last_knot]
  simp only [knot, formula]
  constructor
  · rintro ⟨holds, duration⟩
    have start := holds 0 (by omega)
    rw [if_pos (Nat.mul_zero 3), max_eq_left start_nonneg] at start
    rw [start, add_right_inj] at duration
    refine ⟨fun visit inside => ?_, fun dwelt => ?_⟩
    · by_cases first : visit = 0
      · rw [first, start]
      by_cases last : visit + 1 = a.positions.length
      · have visit_eq : visit = a.positions.length - 1 := by omega
        rw [visit_eq, duration]
      have not_stop : visit ∉ a.stops := fun stop => by
        have ends := end_of_profiled profiled stop
        omega
      rw [dwellAt_of_not_stop not_stop, declaredDwell_inner declares ends first last]
    · by_contra elsewhere
      have hold := holds (a.positions.length - 1) (by omega)
      rw [if_neg (by omega), if_neg elsewhere, max_self] at hold
      exact dwelt.ne hold
  · rintro ⟨equal, at_end⟩
    refine ⟨fun visit inside => ?_, by rw [equal 0 (by omega), equal _ (by omega)]⟩
    by_cases first : visit = 0
    · rw [if_pos (by omega), max_eq_left start_nonneg, equal 0 (by omega), first]
    rw [if_neg (by omega)]
    have last_eq := equal (a.positions.length - 1) (by omega)
    rw [← last_eq] at at_end
    rcases end_nonneg.eq_or_lt with none | dwelt
    · rw [← none, ite_self, max_self]
      by_cases last : visit + 1 = a.positions.length
      · have visit_eq : visit = a.positions.length - 1 := by omega
        rw [visit_eq, ← last_eq, none]
      · exact (declaredDwell_inner declares ends first last).symm
    · by_cases last : visit + 1 = a.positions.length
      · have visit_eq : visit = a.positions.length - 1 := by omega
        rw [visit_eq, if_pos (at_end dwelt), max_eq_left end_nonneg, last_eq]
      · have elsewhere : ¬a.endKnot = some (3 * visit) := by
          rw [at_end dwelt, Option.some.injEq]
          omega
        rw [if_neg elsewhere, max_self, declaredDwell_inner declares ends first last]

end Profiled

theorem Run.flown_iff [PyRoot F] [ExactSqrt F] (run : Run a unheld points dwell scale)
    (without : a.withoutDwells.allocate = .ok unheld) (declares : a.Declares visits) :
    a.Flown visits points ↔ a.Matched visits := by
  have holds_iff (found : ∀ declared ∈ visits,
      (∃ other ∈ visits, a.FirstAt declared.1 other.1) ∨ a.RestsAnyway declared.1) :
      ((∀ visit < a.positions.length,
        max (dwell (a.visitKnot visit)) 0 = declaredDwell visits visit) ∧
      delay dwell unheld.length = (visits.map (·.2)).sum) ↔
      a.DwellsMatch visits ∧ (a.profiled = true →
        0 < declaredDwell visits (a.positions.length - 1) →
          a.endKnot = some (a.profileKnots.length - 1)) := by
    cases profiled : a.profiled with
    | false =>
      rw [run.plain_holds_iff profiled declares]
      simp
    | true =>
      have ends : a.AtEnds visits := by
        intro declared member
        rcases found declared member with first | anyway
        · have ends := end_of_profiled profiled ((mem_stops_iff declares).mpr first)
          have inside := declares.inside declared member
          omega
        · simpa [RestsAnyway, profiled] using anyway
      rw [run.profiled_holds_iff profiled declares ends]
      simp
  constructor
  · rintro ⟨unheld', dwell', flown⟩
    have same_knots : unheld = unheld' := Except.ok.inj (without.symm.trans flown.without)
    subst same_knots
    have same_dwells : dwell = dwell' := Except.ok.inj (run.dwells.symm.trans flown.dwells)
    subst same_dwells
    have found := (run.stops_iff declares).mp flown.stops
    obtain ⟨dwells, at_end⟩ :=
      (holds_iff found).mp ⟨flown.holds, run.duration_iff.mp flown.duration⟩
    exact ⟨found, (run.through_iff declares).mp flown.through, dwells, at_end⟩
  · intro matched
    obtain ⟨holds, duration⟩ := (holds_iff matched.found).mpr ⟨matched.dwells, matched.atEnd⟩
    exact ⟨unheld, dwell, without, run.dwells, run.shifted.2,
      (run.stops_iff declares).mpr matched.found, holds, run.duration_iff.mpr duration,
      (run.through_iff declares).mpr matched.declared⟩

/-- The stops that are declared for some visits are flown exactly if the match by position finds
these visits. -/
theorem allocate_flown_iff [PyRoot F] [ExactSqrt F] (ok : a.allocate = .ok points)
    (declares : a.Declares visits) : a.Flown visits points ↔ a.Matched visits := by
  obtain ⟨unheld, dwell, scale, accepted, run⟩ := exists_run ok
  exact run.flown_iff (allocate_withoutDwells ok accepted run) declares

end Flying

/-! ## A route that stops at its second visit of a place -/

section Square

def squarePositions : List (Vector3 ℚ) :=
  [⟨-1, 0, 1⟩, ⟨0, 0, 1⟩, ⟨1, 0, 1⟩, ⟨1, 1, 1⟩, ⟨0, 1, 1⟩, ⟨0, 0, 1⟩, ⟨0, -1, 1⟩]

theorem squarePositions_stops :
    [1].Perm (stopIndices squarePositions [(⟨0, 0, 1⟩, 5)]).dedup := by decide +kernel

/-- The route flies through a place, once around a square, and stops where it was before. -/
def square : Allocation ℚ where
  case := ⟨loopData, loopData_valid⟩
  positions := squarePositions
  speedFactor := 1
  sampleStepS := 1 / 2
  stopContracts := [(⟨0, 0, 1⟩, 5)]
  segmentDurationsS := []
  profile := { targetSpeedsMS := [], entryExitRampS := 5 / 4 }
  stopOrder := [1]
  ordered := squarePositions_stops

theorem square_declares : square.Declares [(5, 5)] where
  contracts := rfl
  inside := by decide
  nonneg := by decide

theorem square_allocate : ∃ points, square.allocate = .ok points := by
  obtain ⟨points, ok, -⟩ := exists_of_okWith (x := square.allocate) (t := fun _ => true)
    (by decide +kernel)
  exact ⟨points, ok⟩

theorem allocate_flown_iff_square : ∃ points, square.allocate = .ok points ∧
    (square.Flown [(5, 5)] points ↔ square.Matched [(5, 5)]) := by
  obtain ⟨points, ok⟩ := square_allocate
  exact ⟨points, ok, allocate_flown_iff ok square_declares⟩

/-- The vehicle holds at the first visit and flies through the one that the stop is declared for. -/
theorem square_holds_early : ∃ points, square.allocate = .ok points ∧
    square.Declares [(5, 5)] ∧ ¬square.Flown [(5, 5)] points := by
  obtain ⟨points, ok⟩ := square_allocate
  obtain ⟨unheld, dwell, scale, accepted, run⟩ := exists_run ok
  refine ⟨points, ok, square_declares, fun flown => ?_⟩
  have matched := (run.flown_iff (allocate_withoutDwells ok accepted run) square_declares).mp flown
  obtain ⟨declared, member, -, -, earlier⟩ :=
    matched.dwells.found (5, 5) List.mem_cons_self (by decide)
  obtain rfl := List.mem_singleton.mp member
  have near : square.Near 1 5 := by
    unfold Near
    decide +kernel
  exact earlier 1 (by decide) near

end Square

end Allocation

end CampaignTrajectory

end CrazySwarm
