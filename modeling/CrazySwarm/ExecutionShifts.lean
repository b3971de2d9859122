import CrazySwarm.ExecutionPrograms

/-! When operations can be rebuilt into a program: they are numbered, begin at zero and follow each
other, and their program leaves room for the suffix of its identifier. Operations that are shifted
together still follow each other. -/
namespace CrazySwarm
namespace ExecutionPrograms
open scoped Numerals

/-! ## Shifted operations -/

section Shifted
open PyFloat

variable {F : Type} [PyMath F]

/-- A trajectory operation that begins and ends later. -/
def TrajectoryOperation.delayedBy (operation : TrajectoryOperation F) (delayS : F) :
    TrajectoryOperation F :=
  { operation with
    startsAtS := operation.startsAtS + delayS
    endsAtS := operation.endsAtS + delayS }

theorem trajectory?_shifted (operation : ExecutionOperation F) (sequence : ℕ) (delayS : F) :
    (operation.shifted sequence delayS).trajectory? =
      operation.trajectory?.map (·.delayedBy delayS) := by
  rcases operation with ⟨kind, _, _, _⟩
  cases kind <;> rfl

theorem shiftFrom_cons (place : ℕ) (delayS : F) (operation : ExecutionOperation F)
    (rest : List (ExecutionOperation F)) :
    shiftFrom place delayS (operation :: rest) =
      operation.shifted (place + 1) delayS :: shiftFrom (place + 1) delayS rest := by
  unfold shiftFrom
  rw [List.mapIdx_cons]
  simp only [Nat.add_zero, List.cons.injEq, true_and]
  congr 1
  funext index operation
  rw [Nat.add_right_comm place 1 index, Nat.add_assoc place index 1]

theorem trajectories_shiftFrom (place : ℕ) (delayS : F) (operations : List (ExecutionOperation F)) :
    (shiftFrom place delayS operations).filterMap ExecutionOperation.trajectory? =
      (operations.filterMap ExecutionOperation.trajectory?).map (·.delayedBy delayS) := by
  induction operations generalizing place with
  | nil => rfl
  | cons operation rest ih =>
    rw [shiftFrom_cons, List.filterMap_cons, List.filterMap_cons, trajectory?_shifted, ih]
    cases operation.trajectory? <;> rfl

theorem length_shiftFrom (place : ℕ) (delayS : F) (operations : List (ExecutionOperation F)) :
    (shiftFrom place delayS operations).length = operations.length := by
  simp [shiftFrom]

theorem sequences_shiftFrom (place : ℕ) (delayS : F) (operations : List (ExecutionOperation F)) :
    (shiftFrom place delayS operations).map ExecutionOperation.sequence =
      List.range' (place + 1) operations.length := by
  induction operations generalizing place with
  | nil => rfl
  | cons operation rest ih =>
    rw [shiftFrom_cons, List.map_cons, ih, List.length_cons, List.range'_succ]
    rfl

theorem mem_shiftFrom {place : ℕ} {delayS : F} {operations : List (ExecutionOperation F)}
    {shifted : ExecutionOperation F} (member : shifted ∈ shiftFrom place delayS operations) :
    ∃ operation ∈ operations, ∃ sequence, 1 ≤ sequence ∧
      shifted = operation.shifted sequence delayS := by
  obtain ⟨index, bound, rfl⟩ := List.mem_mapIdx.mp member
  exact ⟨_, List.getElem_mem bound, _, Nat.succ_le_succ (Nat.zero_le _), rfl⟩

omit [PyMath F] in
theorem trajectory?_of_isGroundWait {operation : ExecutionOperation F}
    (waits : operation.isGroundWait = true) : operation.trajectory? = none := by
  unfold ExecutionOperation.isGroundWait at waits
  unfold ExecutionOperation.trajectory?
  split at waits
  · next kind => rw [kind]
  · cases waits

theorem newOperation_eq_ok {model : String} {kind : OperationKind F} {sequence : ℕ}
    {startsAtS endsAtS : F} {operation : ExecutionOperation F}
    (ok : newOperation model kind sequence startsAtS endsAtS = .ok operation) :
    operation = ⟨kind, sequence, startsAtS, endsAtS⟩ := by
  unfold newOperation at ok
  unfold validated at ok
  split at ok
  · cases ok
    rfl
  · cases ok

variable {program delayed : AcceptedExecutionProgram F} {delayS : F}

theorem delayBeforeLaunch_cases (ok : delayBeforeLaunch program delayS = .ok delayed) :
    le delayS zero = true ∧ delayed = program ∨
      le delayS zero = false ∧ ∃ wait rest, wait.trajectory? = none ∧
        trajectoryOperations program = rest.filterMap ExecutionOperation.trajectory? ∧
        rebuildProgram program (wait :: shiftFrom 1 delayS rest) = .ok delayed := by
  unfold delayBeforeLaunch at ok
  cases positive : le delayS zero with
  | true =>
    rw [if_pos positive] at ok
    cases ok
    exact .inl ⟨rfl, rfl⟩
  | false =>
    rw [if_neg (by simp [positive])] at ok
    unfold trajectoryOperations
    split at ok
    · cases ok
    · next first rest operations =>
      rw [operations]
      split at ok
      · next waits =>
        have longer : ({ first with endsAtS := first.endsAtS + delayS } :
            ExecutionOperation F).trajectory? = none := trajectory?_of_isGroundWait waits
        exact .inr ⟨rfl, _, rest, longer,
          List.filterMap_cons_none (trajectory?_of_isGroundWait waits), ok⟩
      · obtain ⟨wait, built, ok⟩ := bind_eq_ok.mp ok
        have waits : wait.trajectory? = none := by
          rw [newOperation_eq_ok built]
          rfl
        exact .inr ⟨rfl, wait, first :: rest, waits, rfl, ok⟩

theorem trajectories_delayBeforeLaunch (ok : delayBeforeLaunch program delayS = .ok delayed)
    (positive : le delayS zero = false) :
    trajectoryOperations delayed = (trajectoryOperations program).map (·.delayedBy delayS) := by
  rcases delayBeforeLaunch_cases ok with ⟨refused, -⟩ | ⟨-, wait, rest, waits, same, rebuilt⟩
  · cases refused.symm.trans positive
  · rw [same, trajectoryOperations, (rebuildProgram_eq_ok rebuilt).1,
      List.filterMap_cons_none waits, trajectories_shiftFrom]

theorem delayBeforeLaunch_roleId (ok : delayBeforeLaunch program delayS = .ok delayed) :
    delayed.roleId = program.roleId := by
  rcases delayBeforeLaunch_cases ok with ⟨-, rfl⟩ | ⟨-, wait, rest, -, -, rebuilt⟩
  · rfl
  · exact (rebuildProgram_eq_ok rebuilt).2.1

theorem firstTrajectory_eq_ok {operation : TrajectoryOperation F} :
    firstTrajectory program = .ok operation ↔
      (trajectoryOperations program).head? = some operation := by
  unfold firstTrajectory
  cases trajectoryOperations program <;> simp

end Shifted

/-! ## Schedules -/

section Schedules
open PyFloat (isClose ofRat)

variable {F : Type} [Field F] [LinearOrder F] [IsStrictOrderedRing F] [PyMath F] [Exact F]
variable {a b delayS : F} {operations : List (ExecutionOperation F)}

/-- Equal times, up to the tolerance of the schedule. -/
def Close (a b : F) : Prop := isClose a b (ofRat 1e-9) = true

theorem close_iff : Close a b ↔ |a - b| ≤ max (1 / 1000000000 * max |a| |b|) (1 / 1000000000) := by
  unfold Close isClose
  rw [Bool.or_eq_true, Exact.eq_true, Exact.le_true]
  simp only [Exact.minus, Exact.times, Exact.max_eq, Exact.abs_eq, Exact.ofRat_cast]
  rw [show ((1e-9 : ℚ) : F) = 1 / 1000000000 by norm_num]
  constructor
  · rintro (rfl | near)
    · rw [sub_self, abs_zero]
      exact le_max_of_le_right (by norm_num)
    · exact near
  · exact .inr

theorem close_refl (a : F) : Close a a := by
  rw [close_iff, sub_self, abs_zero]
  exact le_max_of_le_right (by norm_num)

/-- Two times stay close when both are moved away from zero. -/
theorem Close.add (close : Close a b) (ofA : 0 ≤ a) (ofB : 0 ≤ b) (nonneg : 0 ≤ delayS) :
    Close (a + delayS) (b + delayS) := by
  rw [close_iff] at close ⊢
  rw [add_sub_add_right_eq_sub]
  refine close.trans (max_le_max_right _ ?_)
  apply mul_le_mul_of_nonneg_left _ (by norm_num)
  rw [abs_of_nonneg ofA, abs_of_nonneg ofB, abs_of_nonneg (add_nonneg ofA nonneg),
    abs_of_nonneg (add_nonneg ofB nonneg)]
  exact max_le_max (le_add_of_nonneg_right nonneg) (le_add_of_nonneg_right nonneg)

/-- One operation begins where the other one ends. -/
def Follows (previous current : ExecutionOperation F) : Prop :=
  Close previous.endsAtS current.startsAtS

structure Schedules (operations : List (ExecutionOperation F)) : Prop where
  nonempty : operations ≠ []
  numbered : operations.map ExecutionOperation.sequence = List.range' 1 operations.length
  starts : ∀ first, operations.head? = some first → first.startsAtS = 0
  chained : operations.IsChain Follows

theorem chained_iff : ((operations.zip operations.tail).all fun (previous, current) =>
    isClose previous.endsAtS current.startsAtS (ofRat 1e-9)) = true ↔
      operations.IsChain Follows := by
  induction operations with
  | nil => simp
  | cons first rest ih =>
    cases rest with
    | nil => simp
    | cons second rest =>
      rw [List.isChain_cons_cons, ← ih]
      simp only [List.tail_cons, List.zip_cons_cons, List.all_cons, Bool.and_eq_true]
      rfl

theorem coherentSchedule_eq_ok {data : ProgramData F} :
    data.coherentSchedule = .ok () ↔
      data.operations.map ExecutionOperation.sequence = List.range' 1 data.operations.length ∧
        (∀ first, data.operations.head? = some first → first.startsAtS = 0) ∧
        data.operations.IsChain Follows ∧
        (∀ last, data.operations.getLast? = some last → Close last.endsAtS data.scheduleDurationS) ∧
        Close data.executionTimeoutS
          (data.scheduleDurationS + data.contingencyReserveS + data.recoveryReserveS) := by
  unfold ProgramData.coherentSchedule
  simp only [bind_eq_ok, require_eq_ok, exists_const, beq_iff_eq, chained_iff, Option.all_eq_true,
    Exact.eq_true, Exact.zero_eq, Exact.plus]
  rfl

theorem fieldChecks_iff {data : ProgramData F} :
    (∀ check ∈ data.fieldChecks, check.2 = true) ↔
      isIdentifier data.programId = true ∧ isIdentifier data.roleId = true ∧
        data.operations ≠ [] ∧ 0 < data.scheduleDurationS ∧ 0 ≤ data.contingencyReserveS ∧
        0 ≤ data.recoveryReserveS ∧ 0 < data.executionTimeoutS := by
  simp [ProgramData.fieldChecks]

omit [Field F] [LinearOrder F] [IsStrictOrderedRing F] [Exact F] in
theorem validate_eq_ok {data : ProgramData F} : data.validate = .ok () ↔
    (∀ check ∈ data.fieldChecks, check.2 = true) ∧ data.coherentSchedule = .ok () := by
  unfold ProgramData.validate
  simp [bind_eq_ok]

omit [Field F] [LinearOrder F] [IsStrictOrderedRing F] [Exact F] in
theorem exists_modelValidate_iff {data : ProgramData F} :
    (∃ program, modelValidate data = .ok program) ↔ data.validate = .ok () := by
  unfold modelValidate
  constructor
  · rintro ⟨program, ok⟩
    split at ok
    · next valid => exact valid
    · cases ok
  · intro valid
    split
    · exact ⟨_, rfl⟩
    · next fault invalid =>
      rw [valid] at invalid
      cases invalid

theorem AcceptedExecutionProgram.schedules (program : AcceptedExecutionProgram F) :
    Schedules program.operations := by
  obtain ⟨fields, coherent⟩ := validate_eq_ok.mp program.valid
  obtain ⟨numbered, starts, chained, -, -⟩ := coherentSchedule_eq_ok.mp coherent
  exact ⟨(fieldChecks_iff.mp fields).2.2.1, numbered, starts, chained⟩

theorem exists_rebuild_iff (program : AcceptedExecutionProgram F)
    (operations : List (ExecutionOperation F)) :
    (∃ rebuilt, rebuildProgram program operations = .ok rebuilt) ↔
      isIdentifier (program.programId ++ "-resolved") = true ∧ Schedules operations ∧
        ∀ last, operations.getLast? = some last → 0 < last.endsAtS := by
  obtain ⟨fields, -⟩ := validate_eq_ok.mp program.valid
  obtain ⟨-, role, -, -, contingency, recovery, -⟩ := fieldChecks_iff.mp fields
  unfold rebuildProgram
  cases found : operations.getLast? with
  | none =>
    have empty : operations = [] := by simpa using found
    constructor
    · rintro ⟨_, impossible⟩
      cases impossible
    · rintro ⟨-, schedules, -⟩
      exact absurd empty schedules.nonempty
  | some last =>
    simp only [exists_modelValidate_iff, validate_eq_ok, fieldChecks_iff, coherentSchedule_eq_ok,
      Exact.plus, found, Option.some.injEq, forall_eq']
    constructor
    · rintro ⟨⟨named, -, nonempty, positive, -⟩, numbered, starts, chained, -⟩
      exact ⟨named, ⟨nonempty, numbered, starts, chained⟩, positive⟩
    · rintro ⟨named, schedules, positive⟩
      refine ⟨⟨named, role, schedules.nonempty, positive, contingency, recovery, ?_⟩,
        schedules.numbered, schedules.starts, schedules.chained, close_refl _, close_refl _⟩
      exact add_pos_of_pos_of_nonneg (add_pos_of_pos_of_nonneg positive contingency) recovery

end Schedules

/-! ## The identifier of a rebuilt program -/

section Identifiers

/-- An identifier of 87 characters leaves room for the suffix of a rebuilt program. -/
theorem isIdentifier_resolved {text : String} (identifier : isIdentifier text = true) :
    isIdentifier (text ++ "-resolved") = true ↔ text.length ≤ 87 := by
  rw [← String.length_toList]
  unfold isIdentifier at identifier ⊢
  cases chars : text.toList with
  | nil => simp [chars] at identifier
  | cons first rest =>
    simp only [chars, Bool.and_eq_true, decide_eq_true_eq] at identifier
    have suffix : "-resolved".toList.all identifierRest = true := by decide
    rw [String.toList_append, chars]
    simp only [List.cons_append, List.all_append, List.length_append, List.length_cons, identifier.1,
      suffix, Bool.and_self, Bool.true_and, decide_eq_true_eq]
    have nine : "-resolved".toList.length = 9 := by decide
    omega

end Identifiers

end ExecutionPrograms

end CrazySwarm
