import CrazySwarm.ExecutionShifts
import CrazySwarm.MultidroneCoverage
import Mathlib.Order.CompletePartialOrder

/-! Staging schedules: in the order in which the roles take off each trajectory begins a buffer
after those before it have ended, and of the schedules that fit the planner takes the cheapest. -/
namespace CrazySwarm
open ExecutionPrograms Deconfliction

namespace MultidronePlanning
open PyFloat (lt le ofRat)
open Set (Icc)

/-! ## One schedule -/

section Schedules

variable {F : Type} [Field F] [LinearOrder F] [IsStrictOrderedRing F] [PyMath F] [Exact F]
variable {programs : List (AcceptedExecutionProgram F)}

theorem staged_window {base selected : AcceptedExecutionProgram F} {waitS : F}
    {window : TrajectoryOperation F} (ok : staged base waitS = .ok selected) (nonneg : 0 ≤ waitS)
    (found : firstTrajectory base = .ok window) :
    firstTrajectory selected = .ok (window.delayedBy waitS) := by
  unfold staged at ok
  split at ok
  · next none =>
    cases ok
    have zero : waitS = 0 := by simpa using none
    rw [found]
    simp [TrajectoryOperation.delayedBy, zero]
  · next some =>
    have positive : le waitS PyFloat.zero = false := by
      have apart : waitS ≠ 0 := by simpa using some
      simpa using lt_of_le_of_ne nonneg apart.symm
    rw [firstTrajectory_eq_ok, trajectories_delayBeforeLaunch ok positive, List.head?_map,
      firstTrajectory_eq_ok.mp found]
    rfl

omit [Field F] [LinearOrder F] [IsStrictOrderedRing F] [Exact F] in
theorem staged_roleId {base selected : AcceptedExecutionProgram F} {waitS : F}
    (ok : staged base waitS = .ok selected) : selected.roleId = base.roleId := by
  unfold staged at ok
  split at ok
  · cases ok
    rfl
  · exact delayBeforeLaunch_roleId ok

structure Waits (programs : List (AcceptedExecutionProgram F)) (role : ScheduledRole F)
    (base window : TrajectoryOperation F) : Prop where
  based : ∃ program, byRole programs role.roleId = .ok program ∧ firstTrajectory program = .ok base
  roleId : role.program.roleId = role.roleId
  nonneg : 0 ≤ role.waitS
  found : firstTrajectory role.program = .ok window
  delayed : window = base.delayedBy role.waitS

/-- The trajectory of the first role has ended a buffer before that of the second role begins. -/
def Clears (earlier later : ScheduledRole F) : Prop :=
  ∃ first second, firstTrajectory earlier.program = .ok first ∧
    firstTrajectory later.program = .ok second ∧
    first.endsAtS + stagingReleaseBufferS ≤ second.startsAtS

/-- One turn of the loop: the role waits until its trajectory begins a buffer after the time at
which the roles before it are clear. -/
theorem scheduleRoles_cons {isFirst : Bool} {latestClearS : F} {roleId : String}
    {rest : List String} {scheduled : List (ScheduledRole F)}
    (ok : scheduleRoles programs isFirst latestClearS (roleId :: rest) = .ok scheduled) :
    ∃ role base window later, scheduled = role :: later ∧ role.roleId = roleId ∧
      Waits programs role base window ∧
      (isFirst = false → latestClearS + stagingReleaseBufferS ≤ window.startsAtS) ∧
      scheduleRoles programs false (max latestClearS window.endsAtS) rest = .ok later := by
  obtain ⟨program, found, ok⟩ := bind_eq_ok.mp ok
  obtain ⟨base, baseOk, ok⟩ := bind_eq_ok.mp ok
  obtain ⟨selected, stagedOk, ok⟩ := bind_eq_ok.mp ok
  obtain ⟨window, windowOk, ok⟩ := bind_eq_ok.mp ok
  obtain ⟨later, laterOk, ok⟩ := bind_eq_ok.mp ok
  cases ok
  simp only [Exact.max_eq, Exact.minus, Exact.plus, Exact.zero_eq] at stagedOk laterOk ⊢
  generalize waits : (if isFirst = true then (0 : F)
    else max 0 (latestClearS - base.startsAtS + stagingReleaseBufferS)) = waitS at stagedOk ⊢
  have nonneg : 0 ≤ waitS := by
    rw [← waits]
    split
    · exact le_rfl
    · exact le_max_left _ _
  obtain rfl : window = base.delayedBy waitS :=
    Except.ok.inj (windowOk.symm.trans (staged_window stagedOk nonneg baseOk))
  refine ⟨⟨roleId, selected, waitS⟩, base, _, later, rfl, rfl, ?_, ?_, laterOk⟩
  · exact ⟨⟨program, found, baseOk⟩, (staged_roleId stagedOk).trans (byRole_eq_ok found).2, nonneg,
      windowOk, rfl⟩
  · rintro rfl
    have enough : latestClearS - base.startsAtS + stagingReleaseBufferS ≤ waitS := by
      rw [← waits, if_neg (by simp)]
      exact le_max_right _ _
    have start : (base.delayedBy waitS).startsAtS = base.startsAtS + waitS := Exact.plus _ _
    linarith

/-- The loop keeps every later trajectory behind the time at which those before it are clear. By
induction on the roles that are left. -/
theorem scheduleRoles_clears {isFirst : Bool} {latestClearS : F} {order : List String}
    {scheduled : List (ScheduledRole F)}
    (ok : scheduleRoles programs isFirst latestClearS order = .ok scheduled) :
    scheduled.map ScheduledRole.roleId = order ∧ scheduled.Pairwise Clears ∧
      (∀ role ∈ scheduled, ∃ base window, Waits programs role base window ∧
        (isFirst = false → latestClearS + stagingReleaseBufferS ≤ window.startsAtS)) := by
  induction order generalizing isFirst latestClearS scheduled with
  | nil =>
    cases ok
    simp
  | cons roleId rest ih =>
    obtain ⟨role, base, window, later, rfl, named, waits, behind, laterOk⟩ := scheduleRoles_cons ok
    obtain ⟨names, apart, waiting⟩ := ih laterOk
    have clear (other : ScheduledRole F) (among : other ∈ later) : ∃ base' window',
        Waits programs other base' window' ∧
          max latestClearS window.endsAtS + stagingReleaseBufferS ≤ window'.startsAtS := by
      obtain ⟨base', window', waits', after⟩ := waiting other among
      exact ⟨base', window', waits', after rfl⟩
    refine ⟨by rw [List.map_cons, named, names], List.pairwise_cons.mpr ⟨?_, apart⟩, ?_⟩
    · intro other among
      obtain ⟨base', window', waits', after⟩ := clear other among
      refine ⟨window, window', waits.found, waits'.found, le_trans ?_ after⟩
      exact add_le_add_left (le_max_right _ _) _
    · intro other among
      rcases List.mem_cons.mp among with rfl | among
      · exact ⟨base, window, waits, behind⟩
      · obtain ⟨base', window', waits', after⟩ := clear other among
        refine ⟨base', window', waits', fun _ => le_trans ?_ after⟩
        exact add_le_add_left (le_max_left _ _) _

/-- In the order, each trajectory window ends a buffer before every later one begins. -/
def WindowsApart (selected : List (AcceptedExecutionProgram F)) (earlier later : String) : Prop :=
  ∃ first second window next, byRole selected earlier = .ok first ∧
    byRole selected later = .ok second ∧ firstTrajectory first = .ok window ∧
    firstTrajectory second = .ok next ∧
    window.endsAtS + stagingReleaseBufferS ≤ next.startsAtS ∧
    Disjoint (Icc window.startsAtS window.endsAtS) (Icc next.startsAtS next.endsAtS)

/-- The programs of a schedule and its waits: every role of the order flies its own program after
a wait, and no two of them fly their trajectories at the same time. -/
structure WithoutOverlap (programs : List (AcceptedExecutionProgram F)) (order : List String)
    (selected : List (AcceptedExecutionProgram F)) (holds : List (String × F)) : Prop where
  roles : (selected.map (·.roleId)).Perm order
  listed : holds.map Prod.fst = order
  nonneg : ∀ hold ∈ holds, 0 ≤ hold.2
  delayed : ∀ hold ∈ holds, ∃ base staged window, byRole programs hold.1 = .ok base ∧
    byRole selected hold.1 = .ok staged ∧ firstTrajectory base = .ok window ∧
    firstTrajectory staged = .ok (window.delayedBy hold.2)
  apart : order.Pairwise (WindowsApart selected)

variable [PyRound F]

theorem scheduleCandidate_withoutOverlap {staging : Staging F} {order : List String}
    {selected : List (AcceptedExecutionProgram F)} {candidate : MultiDroneScheduleCandidate F}
    (distinct : order.Nodup) (ok : scheduleCandidate staging order = .ok (selected, candidate)) :
    candidate.precedenceOrder = order ∧
      WithoutOverlap staging.programs order selected candidate.plannedHoldSByRole := by
  obtain ⟨scheduled, scheduledOk, ok⟩ := bind_eq_ok.mp ok
  obtain ⟨minima, -, ok⟩ := bind_eq_ok.mp ok
  cases ok
  obtain ⟨names, clears, waiting⟩ := scheduleRoles_clears scheduledOk
  have own (role : ScheduledRole F) (among : role ∈ scheduled) :
      role.program.roleId = role.roleId := by
    obtain ⟨base, window, waits, -⟩ := waiting role among
    exact waits.roleId
  have roles : ((Sorting.sortBy ScheduledRole.roleId scheduled).map ScheduledRole.program).map
      (·.roleId) = (Sorting.sortBy ScheduledRole.roleId scheduled).map ScheduledRole.roleId := by
    rw [List.map_map]
    apply List.map_congr_left
    intro role among
    exact own role ((Sorting.mem_sortBy _).mp among)
  have perm := (Sorting.sortBy_perm ScheduledRole.roleId scheduled).map ScheduledRole.roleId
  rw [names, ← roles] at perm
  have found (role : ScheduledRole F) (among : role ∈ scheduled) :
      byRole ((Sorting.sortBy ScheduledRole.roleId scheduled).map ScheduledRole.program)
        role.roleId = .ok role.program := by
    rw [← own role among]
    apply byRole_of_mem (perm.nodup_iff.mpr distinct)
    exact List.mem_map_of_mem ((Sorting.mem_sortBy _).mpr among)
  refine ⟨rfl, perm, ?_, ?_, ?_, ?_⟩
  · rw [List.map_map]
    exact names
  · intro hold member
    obtain ⟨role, among, rfl⟩ := List.mem_map.mp member
    obtain ⟨base, window, waits, -⟩ := waiting role among
    exact waits.nonneg
  · intro hold member
    obtain ⟨role, among, rfl⟩ := List.mem_map.mp member
    obtain ⟨base, window, waits, -⟩ := waiting role among
    obtain ⟨program, based, baseOk⟩ := waits.based
    exact ⟨program, role.program, base, based, found role among, baseOk,
      waits.delayed ▸ waits.found⟩
  · rw [← names, List.pairwise_map]
    apply clears.imp_of_mem
    intro earlier later ofEarlier ofLater clear
    obtain ⟨window, next, windowOk, nextOk, after⟩ := clear
    refine ⟨earlier.program, later.program, window, next, found earlier ofEarlier,
      found later ofLater, windowOk, nextOk, after, ?_⟩
    rw [Set.disjoint_left]
    intro timeS during also
    have buffer : (0 : F) < stagingReleaseBufferS := by
      rw [stagingReleaseBufferS, Exact.ofRat_eq]
      norm_num
    linarith [during.2, also.1]

end Schedules

/-! ## The orders that are considered -/

section Orders

variable {α : Type} {items order : List α}

theorem mem_picks {item : α} {left : List α} :
    (item, left) ∈ picks items ↔
      ∃ before after, items = before ++ item :: after ∧ left = before ++ after := by
  induction items generalizing left with
  | nil => simp [picks]
  | cons first rest ih =>
    simp only [picks, List.mem_cons, Prod.mk.injEq, List.mem_map, Prod.exists]
    constructor
    · rintro (⟨rfl, rfl⟩ | ⟨other, others, among, rfl, rfl⟩)
      · exact ⟨[], left, rfl, rfl⟩
      · obtain ⟨before, after, rfl, rfl⟩ := ih.mp among
        exact ⟨first :: before, after, rfl, rfl⟩
    · rintro ⟨before, after, same, rfl⟩
      cases before with
      | nil =>
        obtain ⟨rfl, rfl⟩ := List.cons.inj same
        exact .inl ⟨rfl, rfl⟩
      | cons head before =>
        obtain ⟨rfl, rfl⟩ := List.cons.inj same
        exact .inr ⟨item, before ++ after, ih.mpr ⟨before, after, rfl, rfl⟩, rfl, rfl⟩

/-- Exactly the rearrangements of the items. By induction on their number. -/
theorem mem_permutations : order ∈ permutations items.length items ↔ order.Perm items := by
  generalize count : items.length = length
  induction length generalizing items order with
  | zero =>
    rw [List.length_eq_zero_iff] at count
    simp [permutations, count]
  | succ length ih =>
    simp only [permutations, List.mem_flatMap, List.mem_map, Prod.exists, mem_picks]
    constructor
    · rintro ⟨item, _, ⟨before, after, rfl, rfl⟩, rest, among, rfl⟩
      have shorter : (before ++ after).length = length := by
        simp only [List.length_append, List.length_cons] at count ⊢
        omega
      exact (((ih shorter).mp among).cons item).trans List.perm_middle.symm
    · intro perm
      cases order with
      | nil => simp [← perm.length_eq] at count
      | cons item rest =>
        obtain ⟨before, after, rfl⟩ := List.append_of_mem (perm.mem_iff.mp List.mem_cons_self)
        have shorter : (before ++ after).length = length := by
          simp only [List.length_append, List.length_cons] at count ⊢
          omega
        have left : rest.Perm (before ++ after) := (perm.trans List.perm_middle).cons_inv
        exact ⟨item, _, ⟨before, after, rfl, rfl⟩, rest, (ih shorter).mpr left, rfl⟩

theorem schedulingOrders_perm {tasks : List DeploymentTask} {exactEnumerationLimit : ℕ}
    {order : List String} (considered : order ∈ (schedulingOrders tasks exactEnumerationLimit).2.1) :
    order.Perm (tasks.map DeploymentTask.taskId) := by
  unfold schedulingOrders at considered
  simp only at considered
  split at considered
  · exact mem_permutations.mp considered
  · rw [List.mem_singleton.mp considered]
    exact (List.perm_insertionSort _ tasks).map _

end Orders

/-! ## The cheapest schedule -/

section Cheapest

variable {F : Type} [Field F] [LinearOrder F] [IsStrictOrderedRing F] [PyMath F] [Exact F]

/-- The cost by which the candidates are compared: inversions of priority, the longest wait, the
waits in all, their spread and, of equal ones, the order itself. -/
def cost (candidate : MultiDroneScheduleCandidate F) : ℕ ×ₗ F ×ₗ F ×ₗ F ×ₗ List String :=
  toLex (candidate.priorityInversionPenalty, toLex (candidate.maximumWaitS,
    toLex (candidate.totalWaitS, toLex (candidate.fairnessWaitSpreadS, candidate.precedenceOrder))))

theorem comesBefore_iff (first second : MultiDroneScheduleCandidate F) :
    comesBefore first second = true ↔ cost first < cost second := by
  simp only [cost, Prod.Lex.toLex_lt_toLex]
  unfold comesBefore
  by_cases penalty : first.priorityInversionPenalty = second.priorityInversionPenalty
  · by_cases longest : first.maximumWaitS = second.maximumWaitS
    · by_cases total : first.totalWaitS = second.totalWaitS
      · by_cases spread : first.fairnessWaitSpreadS = second.fairnessWaitSpreadS
        · simp [penalty, longest, total, spread, Exact.eq_eq]
        · simp [penalty, longest, total, spread, Exact.eq_eq]
      · simp [penalty, longest, total, Exact.eq_eq]
    · simp [penalty, longest, Exact.eq_eq]
  · simp [penalty]

variable [PyRound F]

structure SelectsLeast (tasks : List DeploymentTask) (exactEnumerationLimit : ℕ)
    (programs selected : List (AcceptedExecutionProgram F)) (plan : MultiDroneConflictPlan F)
    (index : ℕ) (candidate : MultiDroneScheduleCandidate F) : Prop where
  roleIds : plan.roleIds = tasks.map DeploymentTask.taskId
  chosen : plan.selectedCandidateIndex = some index
  strategy : plan.selectedStrategy = some candidate.strategy
  found : plan.candidates[index]? = some candidate
  feasible : candidate.feasible = true
  least : ∀ other ∈ plan.candidates, other.feasible = true → cost candidate ≤ cost other
  apart : WithoutOverlap programs candidate.precedenceOrder selected candidate.plannedHoldSByRole
  scheduled : ∀ other ∈ plan.candidates, ∃ staging programs', staging.programs = programs ∧
    scheduleCandidate staging other.precedenceOrder = .ok (programs', other)
  considered : plan.candidates.map (·.precedenceOrder) =
    (schedulingOrders tasks exactEnumerationLimit).2.1
  enumerated : plan.roleIds.length ≤ exactEnumerationLimit →
    ∀ order : List String, order.Perm plan.roleIds →
      ∃ other ∈ plan.candidates, other.precedenceOrder = order

omit [LinearOrder F] [IsStrictOrderedRing F] [Exact F] [Field F] in
theorem scheduleCandidate_order {staging : Staging F} {order : List String}
    {selected : List (AcceptedExecutionProgram F)} {candidate : MultiDroneScheduleCandidate F}
    (ok : scheduleCandidate staging order = .ok (selected, candidate)) :
    candidate.precedenceOrder = order := by
  obtain ⟨scheduled, -, ok⟩ := bind_eq_ok.mp ok
  obtain ⟨minima, -, ok⟩ := bind_eq_ok.mp ok
  cases ok
  rfl

omit [LinearOrder F] [IsStrictOrderedRing F] [Exact F] [Field F] in
theorem orders_of_scheduled {staging : Staging F} {orders : List (List String)}
    {scheduled : List (List (AcceptedExecutionProgram F) × MultiDroneScheduleCandidate F)}
    (each : orders.mapM (scheduleCandidate staging) = .ok scheduled) :
    (scheduled.map (·.2)).map (·.precedenceOrder) = orders := by
  have scheduledOk := mapM_eq_ok each
  clear each
  induction scheduledOk with
  | nil => rfl
  | cons ok _ ih => rw [List.map_cons, List.map_cons, ih, scheduleCandidate_order ok]

theorem planned_selectsLeast {deployment : Deployment F}
    {programs : List (AcceptedExecutionProgram F)} {policy : SafetyPolicy F}
    {exactEnumerationLimit : ℕ} {selected : List (AcceptedExecutionProgram F)}
    {plan : MultiDroneConflictPlan F}
    (ok : planMultiDroneConflicts deployment programs policy exactEnumerationLimit =
      .ok (selected, some plan)) (resolved : plan.status = .resolved) :
    ∃ index candidate, SelectsLeast (deployment.tasksOf "multi-conflict-route")
      exactEnumerationLimit programs selected plan index candidate := by
  have distinct := tasksOf_distinct deployment "multi-conflict-route"
  unfold planMultiDroneConflicts at ok
  simp only at ok
  split at ok
  · cases ok
  · split at ok
    · cases ok
      cases resolved
    · obtain ⟨conflicts, -, ok⟩ := bind_eq_ok.mp ok
      split at ok
      · cases ok
        cases resolved
      · obtain ⟨scheduled, each, ok⟩ := bind_eq_ok.mp ok
        split at ok
        · cases ok
          cases resolved
        · next first rest feasible =>
          have member := Sorting.leastBy_mem
            (fun one other => comesBefore one.1.2 other.1.2) first rest
          have least := Sorting.leastBy_le (fun scheduled => cost scheduled.1.2)
            (fun one other => comesBefore_iff one.1.2 other.1.2) first rest
          generalize Sorting.leastBy (fun one other => comesBefore one.1.2 other.1.2) first rest =
            best at member least ok
          rw [← feasible] at member least
          obtain ⟨among, fits⟩ := List.mem_filter.mp member
          obtain ⟨⟨bestPrograms, candidate⟩, index⟩ := best
          cases ok
          have place := List.mk_mem_zipIdx_iff_getElem?.mp among
          refine ⟨index, candidate, rfl, rfl, rfl, ?_, fits, ?_, ?_, ?_, ?_, ?_⟩
          · rw [List.getElem?_map, place]
            rfl
          · intro other listed suitable
            obtain ⟨⟨programs', candidate'⟩, scheduledAt, rfl⟩ := List.mem_map.mp listed
            obtain ⟨index', place'⟩ := List.mem_iff_getElem?.mp scheduledAt
            apply least ((programs', candidate'), index')
            exact List.mem_filter.mpr ⟨List.mk_mem_zipIdx_iff_getElem?.mpr place', suitable⟩
          · obtain ⟨order, considered, scheduledOk⟩ :=
              exists_of_mem_mapM each (List.mem_of_getElem? place)
            have fresh := (schedulingOrders_perm considered).nodup_iff.mpr distinct
            obtain ⟨rfl, apart⟩ := scheduleCandidate_withoutOverlap fresh scheduledOk
            exact apart
          · intro other listed
            obtain ⟨⟨programs', candidate'⟩, scheduledAt, rfl⟩ := List.mem_map.mp listed
            obtain ⟨order, considered, scheduledOk⟩ := exists_of_mem_mapM each scheduledAt
            rw [← scheduleCandidate_order scheduledOk] at scheduledOk
            exact ⟨_, programs', rfl, scheduledOk⟩
          · exact orders_of_scheduled each
          · intro few order perm
            have considered : order ∈ (schedulingOrders
                (deployment.tasksOf "multi-conflict-route") exactEnumerationLimit).2.1 := by
              unfold schedulingOrders
              rw [if_pos few]
              exact mem_permutations.mpr perm
            rw [← orders_of_scheduled each, List.map_map] at considered
            obtain ⟨result, among, named⟩ := List.mem_map.mp considered
            exact ⟨result.2, List.mem_map_of_mem among, named⟩

end Cheapest

/-- Every schedule that is computed keeps the trajectory windows apart in its order, and the
planner selects a feasible one that costs the least of all the orders it considers. -/
theorem schedules_never_overlap {F : Type} [Field F] [LinearOrder F] [IsStrictOrderedRing F]
    [PyMath F] [Exact F] [PyRound F] :
    (∀ (staging : Staging F) (order : List String) (selected : List (AcceptedExecutionProgram F))
      (candidate : MultiDroneScheduleCandidate F), order.Nodup →
      scheduleCandidate staging order = .ok (selected, candidate) →
      candidate.precedenceOrder = order ∧
        WithoutOverlap staging.programs order selected candidate.plannedHoldSByRole) ∧
    ∀ (deployment : Deployment F) (programs : List (AcceptedExecutionProgram F))
      (policy : SafetyPolicy F) (exactEnumerationLimit : ℕ)
      (selected : List (AcceptedExecutionProgram F)) (plan : MultiDroneConflictPlan F),
      planMultiDroneConflicts deployment programs policy exactEnumerationLimit =
        .ok (selected, some plan) → plan.status = .resolved →
      ∃ index candidate, SelectsLeast (deployment.tasksOf "multi-conflict-route")
        exactEnumerationLimit programs selected plan index candidate := by
  constructor
  · intro staging order selected candidate distinct ok
    exact scheduleCandidate_withoutOverlap distinct ok
  · intro deployment programs policy exactEnumerationLimit selected plan ok resolved
    exact planned_selectsLeast ok resolved

/-- From rest to rest within two prediction steps. -/
def pass (fromX fromY toX toY : ℚ) : OperationTrajectory ℚ where
  points := [restPoint 1 0 fromX fromY, restPoint 2 (1 / 25) toX toY]
  declaredStopSequences := [1, 2]
  completionPositionToleranceM := 1 / 20
  completionVelocityToleranceMS := 1 / 20
  twoPoints := by simp

/-- A program that passes over the origin to the opposite place. -/
def passing (roleId : String) (x y : ℚ) : ProgramData ℚ where
  programId := "program"
  roleId
  operations := [⟨.trajectory (pass x y (-x) (-y)), 1, 0, 1 / 25⟩]
  scheduleDurationS := 1 / 25
  contingencyReserveS := 0
  recoveryReserveS := 0
  executionTimeoutS := 1 / 25

def passingPrograms : List (AcceptedExecutionProgram ℚ) :=
  [⟨passing "alpha" 2 0, by decide +kernel⟩, ⟨passing "bravo" 0 2, by decide +kernel⟩,
    ⟨passing "carol" 2 2, by decide +kernel⟩]

def passingStaging : Staging ℚ where
  strategy := .exactEnumerationStaging
  programs := passingPrograms
  priority _ := 100
  requiredSeparationM := 1 / 2
  starvationBoundS := 50
  policy := fleetPolicy

/-- Three programs that pass over the origin are staged one after another. -/
theorem schedules_never_overlap_passing :
    (∃ selected candidate,
      scheduleCandidate passingStaging ["alpha", "bravo", "carol"] = .ok (selected, candidate) ∧
      WithoutOverlap passingPrograms ["alpha", "bravo", "carol"] selected
        candidate.plannedHoldSByRole) ∧
    ∃ selected plan index candidate,
      planMultiDroneConflicts fleetDeployment passingPrograms fleetPolicy 4 =
        .ok (selected, some plan) ∧ plan.status = .resolved ∧
      SelectsLeast (fleetDeployment.tasksOf "multi-conflict-route") 4 passingPrograms selected plan
        index candidate := by
  obtain ⟨⟨staged, scheduled⟩, scheduledOk, -⟩ := exists_of_okWith
    (x := scheduleCandidate passingStaging ["alpha", "bravo", "carol"]) (t := fun _ => true)
    (by decide +kernel)
  obtain ⟨⟨selected, plan⟩, planned, holds⟩ := exists_of_okWith
    (x := planMultiDroneConflicts fleetDeployment passingPrograms fleetPolicy 4)
    (t := fun result => result.2.any fun plan => plan.status = .resolved) (by decide +kernel)
  constructor
  · exact ⟨staged, scheduled, scheduledOk,
      ((schedules_never_overlap (F := ℚ)).1 _ _ _ _ (by decide) scheduledOk).2⟩
  · cases plan with
    | none => simp at holds
    | some plan =>
      have resolved : plan.status = .resolved := by simpa using holds
      obtain ⟨index, candidate, least⟩ :=
        (schedules_never_overlap (F := ℚ)).2 _ _ _ _ _ _ planned resolved
      exact ⟨selected, plan, index, candidate, planned, resolved, least⟩

end MultidronePlanning

end CrazySwarm
