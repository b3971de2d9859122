import CrazySwarm.Deconfliction
import CrazySwarm.ExecutionShifts
import Mathlib.Data.List.TakeWhile

/-! Delayed programs: a wait or a hold becomes longer, or is inserted, and everything after it is
shifted, so that the vehicle is where it was, but later. -/
namespace CrazySwarm
namespace Deconfliction
open PyFloat (le ofRat)
open Set (Icc)
open ExecutionPrograms

/-! ## Kept and shifted operations -/

section Kept

variable {F : Type} [Field F] [LinearOrder F] [IsStrictOrderedRing F] [PyMath F] [Exact F]
variable {before kept after : List (ExecutionOperation F)} {delayS : F}

/-- No operation flies a trajectory. -/
def Still (operations : List (ExecutionOperation F)) : Prop :=
  operations.filterMap ExecutionOperation.trajectory? = []

theorem valid_iff {operation : ExecutionOperation F} : operation.valid = true ↔
    1 ≤ operation.sequence ∧ 0 ≤ operation.startsAtS ∧ 0 < operation.endsAtS ∧
      ∀ trajectory, operation.kind = .trajectory trajectory →
        trajectory.validate.toBool = true ∧
          Close (operation.endsAtS - operation.startsAtS) trajectory.durationS := by
  rcases operation with ⟨kind, sequence, startsAtS, endsAtS⟩
  unfold ExecutionOperation.valid
  cases kind <;> simp [and_assoc, Close]

/-- The operations before the delay, and those kept in their place: they are a schedule which
meets the shifted rest, and none of them flies a trajectory. -/
structure Kept (delayS : F) (before kept after : List (ExecutionOperation F)) : Prop where
  schedules : Schedules kept
  sound : ∀ operation ∈ kept, operation.valid = true
  still_before : Still before
  still : Still kept
  meets : ∀ last next, kept.getLast? = some last → after.head? = some next →
    Close last.endsAtS (next.startsAtS + delayS)

theorem valid_shifted {operation : ExecutionOperation F} (valid : operation.valid = true)
    {sequence : ℕ} (numbered : 1 ≤ sequence) (nonneg : 0 ≤ delayS) :
    (operation.shifted sequence delayS).valid = true := by
  obtain ⟨-, starts, ends, trajectory⟩ := valid_iff.mp valid
  refine valid_iff.mpr ⟨numbered, ?_, ?_, ?_⟩
  · exact (add_nonneg starts nonneg).trans_eq (Exact.plus _ _).symm
  · exact (add_pos_of_pos_of_nonneg ends nonneg).trans_eq (Exact.plus _ _).symm
  · intro flown kind
    obtain ⟨valid, fits⟩ := trajectory flown kind
    refine ⟨valid, ?_⟩
    have same : (operation.shifted sequence delayS).endsAtS -
        (operation.shifted sequence delayS).startsAtS = operation.endsAtS - operation.startsAtS := by
      simp [ExecutionOperation.shifted]
    rwa [same]

theorem chained_shiftFrom (chained : after.IsChain Follows)
    (sound : ∀ operation ∈ after, operation.valid = true) (nonneg : 0 ≤ delayS) (place : ℕ) :
    (shiftFrom place delayS after).IsChain Follows := by
  induction after generalizing place with
  | nil => exact List.IsChain.nil
  | cons first rest ih =>
    cases rest with
    | nil => exact List.IsChain.singleton _
    | cons second rest =>
      rw [List.isChain_cons_cons] at chained
      have later := ih chained.2 (fun operation among => sound operation (List.mem_cons_of_mem _ among))
        (place + 1)
      rw [shiftFrom_cons] at later
      rw [shiftFrom_cons, shiftFrom_cons, List.isChain_cons_cons]
      refine ⟨?_, later⟩
      obtain ⟨-, -, ends, -⟩ := valid_iff.mp (sound first (by simp))
      obtain ⟨-, starts, -, -⟩ := valid_iff.mp (sound second (by simp))
      simpa [Follows, ExecutionOperation.shifted] using chained.1.add ends.le starts nonneg

theorem Kept.shifted (keeps : Kept delayS before kept after) (schedules : Schedules (before ++ after))
    (sound : ∀ operation ∈ after, operation.valid = true) (nonneg : 0 ≤ delayS) :
    Schedules (kept ++ shiftFrom kept.length delayS after) where
  nonempty := by simp [keeps.schedules.nonempty]
  numbered := by
    rw [List.map_append, keeps.schedules.numbered, sequences_shiftFrom, List.length_append,
      length_shiftFrom, Nat.add_comm kept.length 1, List.range'_append_1]
  starts first found := by
    rw [List.head?_append_of_ne_nil _ keeps.schedules.nonempty] at found
    exact keeps.schedules.starts first found
  chained := by
    have chained := (List.isChain_append.mp schedules.chained).2.1
    refine List.isChain_append.mpr ⟨keeps.schedules.chained, ?_, ?_⟩
    · exact chained_shiftFrom chained sound nonneg _
    · intro last ofLast next ofNext
      cases after with
      | nil => simp [shiftFrom] at ofNext
      | cons first rest =>
        rw [shiftFrom_cons] at ofNext
        cases ofNext
        have meets := keeps.meets last first ofLast rfl
        simpa [Follows, ExecutionOperation.shifted] using meets

theorem Kept.sound_shifted (keeps : Kept delayS before kept after)
    (sound : ∀ operation ∈ after, operation.valid = true) (nonneg : 0 ≤ delayS) :
    ∀ operation ∈ kept ++ shiftFrom kept.length delayS after, operation.valid = true := by
  intro operation among
  rcases List.mem_append.mp among with kept | shifted
  · exact keeps.sound operation kept
  · obtain ⟨original, member, sequence, numbered, rfl⟩ := mem_shiftFrom shifted
    exact valid_shifted (sound original member) numbered nonneg

omit [LinearOrder F] [IsStrictOrderedRing F] [Exact F] in
theorem Kept.trajectories (keeps : Kept delayS before kept after) :
    (kept ++ shiftFrom kept.length delayS after).filterMap ExecutionOperation.trajectory? =
      ((before ++ after).filterMap ExecutionOperation.trajectory?).map (·.delayedBy delayS) := by
  rw [List.filterMap_append, List.filterMap_append, keeps.still, keeps.still_before,
    trajectories_shiftFrom, List.nil_append, List.nil_append]

section Building

variable {init rest : List (ExecutionOperation F)} {operation next : ExecutionOperation F}

omit [LinearOrder F] [IsStrictOrderedRing F] [Exact F] in
theorem numbered_append (schedules : Schedules (before ++ after)) :
    before.map ExecutionOperation.sequence = List.range' 1 before.length ∧
      after.map ExecutionOperation.sequence = List.range' (1 + before.length) after.length := by
  have numbered := schedules.numbered
  rw [List.map_append, List.length_append, ← List.range'_append_1] at numbered
  exact List.append_inj numbered (by simp)

omit [LinearOrder F] [IsStrictOrderedRing F] [Exact F] in
theorem schedules_until (schedules : Schedules (init ++ next :: rest))
    (numbered : operation.sequence = init.length + 1) (starts : operation.startsAtS = next.startsAtS) :
    Schedules (init ++ [operation]) where
  nonempty := by simp
  numbered := by
    rw [List.map_append, (numbered_append schedules).1, List.length_append, List.map_singleton,
      numbered, List.length_singleton, ← List.range'_append_1, Nat.add_comm]
    rfl
  starts first found := by
    cases init with
    | nil =>
      cases found
      rw [starts]
      exact schedules.starts next rfl
    | cons head rest => exact schedules.starts first found
  chained := by
    obtain ⟨chained, -, meets⟩ := List.isChain_append.mp schedules.chained
    refine List.isChain_append.mpr ⟨chained, List.IsChain.singleton _, ?_⟩
    intro last ofLast _ ofOperation
    cases ofOperation
    have follows := meets last ofLast next rfl
    unfold Follows at follows ⊢
    rwa [starts]

/-- Lengthen the operation before the shifted ones. -/
theorem kept_extended (init : List (ExecutionOperation F))
    (schedules : Schedules (init ++ operation :: after))
    (sound : ∀ other ∈ init ++ operation :: after, other.valid = true) (still : Still init)
    (grounded : operation.trajectory? = none) (positive : 0 < delayS) :
    Kept delayS (init ++ [operation])
      (init ++ [{ operation with endsAtS := PyFloat.add operation.endsAtS delayS }]) after := by
  have valid := valid_iff.mp (sound operation (by simp))
  have longer : ({ operation with endsAtS := PyFloat.add operation.endsAtS delayS } :
      ExecutionOperation F).trajectory? = none := by
    unfold ExecutionOperation.trajectory? at grounded ⊢
    split at grounded <;> simp_all
  constructor
  case schedules =>
    refine schedules_until schedules ?_ (by rfl)
    have numbered := (numbered_append schedules).2
    rw [List.map_cons, List.length_cons, List.range'_succ] at numbered
    rw [(List.cons.inj numbered).1, Nat.add_comm]
  case sound =>
    intro other among
    rcases List.mem_append.mp among with kept | last
    · exact sound other (List.mem_append_left _ kept)
    · rw [List.mem_singleton.mp last]
      refine valid_iff.mpr ⟨valid.1, valid.2.1, ?_, ?_⟩
      · exact (add_pos valid.2.2.1 positive).trans_eq (Exact.add_eq _ _).symm
      · intro trajectory kind
        unfold ExecutionOperation.trajectory? at grounded
        simp only at kind
        rw [kind] at grounded
        cases grounded
  case still_before =>
    unfold Still at still ⊢
    rw [List.filterMap_append, still, List.filterMap_cons_none grounded]
    rfl
  case still =>
    unfold Still at still ⊢
    rw [List.filterMap_append, still, List.filterMap_cons_none longer]
    rfl
  case meets =>
    intro last next ofLast ofNext
    rw [List.getLast?_concat] at ofLast
    cases ofLast
    have chained := (List.isChain_append.mp schedules.chained).2.1
    cases after with
    | nil => cases ofNext
    | cons first rest =>
      cases ofNext
      obtain ⟨-, starts, -, -⟩ := valid_iff.mp (sound next (by simp))
      rw [Exact.add_eq]
      exact Close.add (List.isChain_cons_cons.mp chained).1 valid.2.2.1.le starts positive.le

theorem kept_inserted (before : List (ExecutionOperation F))
    (schedules : Schedules (before ++ next :: rest))
    (sound : ∀ other ∈ before ++ next :: rest, other.valid = true) (still : Still before)
    (grounded : operation.trajectory? = none) (numbered : operation.sequence = before.length + 1)
    (starts : operation.startsAtS = next.startsAtS)
    (ends : operation.endsAtS = next.startsAtS + delayS) (positive : 0 < delayS) :
    Kept delayS before (before ++ [operation]) (next :: rest) := by
  obtain ⟨-, nonneg, -, -⟩ := valid_iff.mp (sound next (by simp))
  constructor
  case schedules => exact schedules_until schedules numbered starts
  case sound =>
    intro other among
    rcases List.mem_append.mp among with kept | last
    · exact sound other (List.mem_append_left _ kept)
    · rw [List.mem_singleton.mp last]
      refine valid_iff.mpr ⟨by omega, by rwa [starts], ?_, ?_⟩
      · rw [ends]
        exact add_pos_of_nonneg_of_pos nonneg positive
      · intro trajectory kind
        unfold ExecutionOperation.trajectory? at grounded
        rw [kind] at grounded
        cases grounded
  case still_before => exact still
  case still =>
    unfold Still at still ⊢
    rw [List.filterMap_append, still, List.filterMap_cons_none grounded]
    rfl
  case meets =>
    intro last first ofLast ofNext
    rw [List.getLast?_concat] at ofLast
    cases ofLast
    cases ofNext
    rw [ends]
    exact close_refl _

end Building

/-! ## The two delays -/

section Delays

variable {program : AcceptedExecutionProgram F}

/-- The time before which `delayBeforeLaunch` inserts its delay. -/
def launchInsertionS (program : AcceptedExecutionProgram F) : F :=
  match program.operations with
  | first :: _ => if first.isGroundWait then first.endsAtS else 0
  | [] => 0

/-- The time before which `delayBeforeTrajectory` inserts its delay. -/
def trajectoryInsertionS (program : AcceptedExecutionProgram F) : F :=
  match program.operations.span fun operation => operation.trajectory?.isNone with
  | (_, []) => 0
  | (before, trajectory :: _) =>
    match before.getLast? with
    | some last => if last.isHold then last.endsAtS else trajectory.startsAtS
    | none => trajectory.startsAtS

theorem newOperation_eq {model : String} {kind : OperationKind F} {sequence : ℕ}
    {startsAtS endsAtS : F} (numbered : 1 ≤ sequence) (starts : 0 ≤ startsAtS) (ends : 0 < endsAtS) :
    newOperation model kind sequence startsAtS endsAtS = .ok ⟨kind, sequence, startsAtS, endsAtS⟩ := by
  unfold newOperation validated
  rw [if_pos (by simp [numbered, starts, ends])]
  rfl

/-- Either the ground wait at the start becomes longer, or one is inserted. -/
theorem delayBeforeLaunch_eq (sound : ∀ operation ∈ program.operations, operation.valid = true)
    (positive : 0 < delayS) :
    ∃ before kept after, program.operations = before ++ after ∧ Kept delayS before kept after ∧
      delayBeforeLaunch program delayS =
        rebuildProgram program (kept ++ shiftFrom kept.length delayS after) := by
  have schedules := program.schedules
  unfold delayBeforeLaunch
  rw [if_neg (by simpa using positive)]
  cases operations : program.operations with
  | nil => exact absurd operations schedules.nonempty
  | cons first rest =>
    rw [operations] at schedules sound
    simp only
    by_cases waits : first.isGroundWait = true
    · have grounded : first.trajectory? = none := trajectory?_of_isGroundWait waits
      rw [if_pos waits]
      exact ⟨[first], _, rest, rfl, kept_extended [] schedules sound rfl grounded positive,
        rfl⟩
    · rw [if_neg waits, newOperation_eq le_rfl (by simp) positive]
      have starts := schedules.starts first rfl
      refine ⟨[], [⟨.groundWait, 1, PyFloat.zero, delayS⟩], first :: rest, rfl, ?_, rfl⟩
      apply kept_inserted [] schedules sound rfl rfl rfl _ _ positive
      · simp [starts]
      · simp [starts]

omit [Field F] [LinearOrder F] [IsStrictOrderedRing F] [PyMath F] [Exact F] in
theorem renumbered_eq {operations : List (ExecutionOperation F)}
    (numbered : operations.map ExecutionOperation.sequence = List.range' 1 operations.length) :
    (operations.mapIdx fun index operation => { operation with sequence := index + 1 }) =
      operations := by
  apply List.ext_getElem (by simp)
  intro i bound bound'
  have same := congrArg (·[i]?) numbered
  simp only [List.getElem?_map, List.getElem?_eq_getElem bound', Option.map_some,
    List.getElem?_range' bound', Option.some.injEq] at same
  rw [List.getElem_mapIdx]
  have here : i + 1 = operations[i].sequence := by omega
  rw [here]

/-- Either the hold before the first trajectory becomes longer, or one is inserted. -/
theorem delayBeforeTrajectory_eq (sound : ∀ operation ∈ program.operations, operation.valid = true)
    (positive : 0 < delayS) (flies : trajectoryOperations program ≠ []) :
    ∃ before kept after, program.operations = before ++ after ∧ Kept delayS before kept after ∧
      delayBeforeTrajectory program delayS =
        rebuildProgram program (kept ++ shiftFrom kept.length delayS after) := by
  have schedules := program.schedules
  unfold delayBeforeTrajectory
  simp only [List.span_eq_takeWhile_dropWhile]
  have split := List.takeWhile_append_dropWhile
    (p := fun operation : ExecutionOperation F => operation.trajectory?.isNone)
    (l := program.operations)
  have still : Still (program.operations.takeWhile fun operation => operation.trajectory?.isNone) := by
    apply List.filterMap_eq_nil_iff.mpr
    intro operation among
    simpa using List.mem_takeWhile_imp among
  generalize program.operations.takeWhile _ = before at split still ⊢
  generalize program.operations.dropWhile _ = after at split ⊢
  cases after with
  | nil =>
    unfold trajectoryOperations at flies
    rw [← split, List.append_nil] at flies
    exact absurd still flies
  | cons trajectory after =>
    rw [← split] at schedules sound
    simp only
    obtain ⟨-, starts, -, -⟩ := valid_iff.mp (sound trajectory (by simp))
    have inserted : ∃ kept, Kept delayS before kept (trajectory :: after) ∧
        delayBeforeTrajectory.inserted program delayS
          (fun operations => operations.mapIdx fun index operation =>
            { operation with sequence := index + 1 }) before trajectory after =
          rebuildProgram program (kept ++ shiftFrom kept.length delayS (trajectory :: after)) := by
      have numbered := (numbered_append schedules).2
      rw [List.map_cons, List.length_cons, List.range'_succ] at numbered
      have sequence := (List.cons.inj numbered).1
      have keeps : Kept delayS before (before ++ [⟨.hold, trajectory.sequence,
          trajectory.startsAtS, PyFloat.add trajectory.startsAtS delayS⟩]) (trajectory :: after) :=
        kept_inserted before schedules sound still rfl (sequence.trans (Nat.add_comm _ _)) rfl
          (Exact.add_eq _ _) positive
      refine ⟨_, keeps, ?_⟩
      unfold delayBeforeTrajectory.inserted
      rw [newOperation_eq (by omega) starts
        ((add_pos_of_nonneg_of_pos starts positive).trans_eq (Exact.plus _ _).symm)]
      rw [List.length_append, List.length_singleton]
      exact congrArg (fun kept => rebuildProgram program
        (kept ++ shiftFrom (before.length + 1) delayS (trajectory :: after)))
        (renumbered_eq keeps.schedules.numbered)
    cases found : before.getLast? with
    | none =>
      obtain ⟨kept, keeps, same⟩ := inserted
      exact ⟨before, kept, trajectory :: after, split.symm, keeps, same⟩
    | some last =>
      by_cases holds : last.isHold = true
      · have ending := List.dropLast_append_getLast? last found
        have grounded : last.trajectory? = none := by
          unfold ExecutionOperation.isHold at holds
          unfold ExecutionOperation.trajectory?
          split at holds <;> simp_all
        have earlier : Still before.dropLast := by
          unfold Still at still ⊢
          rw [← ending, List.filterMap_append, List.append_eq_nil_iff] at still
          exact still.1
        rw [← ending, List.append_assoc] at schedules sound
        have keeps := kept_extended _ schedules sound earlier grounded positive
        rw [ending] at keeps
        refine ⟨before, _, trajectory :: after, split.symm, keeps, ?_⟩
        have length : before.length = before.dropLast.length + 1 := by
          rw [← congrArg List.length ending, List.length_append, List.length_singleton]
        simp only [if_pos holds]
        rw [List.length_append, List.length_singleton, ← length]
        exact congrArg (fun kept => rebuildProgram program
          (kept ++ shiftFrom before.length delayS (trajectory :: after)))
          (renumbered_eq keeps.schedules.numbered)
      · obtain ⟨kept, keeps, same⟩ := inserted
        refine ⟨before, kept, trajectory :: after, split.symm, keeps, ?_⟩
        simp only [if_neg holds]
        exact same

end Delays

end Kept

theorem delayBeforeTrajectory_flies {F : Type} [PyMath F]
    {program delayed : AcceptedExecutionProgram F} {delayS : F}
    (ok : delayBeforeTrajectory program delayS = .ok delayed) : trajectoryOperations program ≠ [] := by
  intro none_flown
  have all : program.operations.dropWhile (fun operation => operation.trajectory?.isNone) = [] := by
    apply List.dropWhile_eq_nil_iff.mpr
    intro operation among
    rw [List.filterMap_eq_nil_iff.mp none_flown operation among]
    rfl
  unfold delayBeforeTrajectory at ok
  simp only [List.span_eq_takeWhile_dropWhile, all] at ok
  cases ok

/-! ## Where a delayed program has its vehicle -/

section Positions

variable {F : Type} [Field F] [LinearOrder F] [IsStrictOrderedRing F] [PyMath F] [Exact F]
variable {program delayed : AcceptedExecutionProgram F} {delayS insertionS timeS : F}

theorem position_delayedBy (operation : TrajectoryOperation F) (delayS timeS : F) :
    (operation.delayedBy delayS).position timeS = operation.position (timeS - delayS) := by
  simp only [TrajectoryOperation.position, TrajectoryOperation.delayedBy, Exact.plus, Exact.minus,
    Exact.le_true, sub_le_iff_le_add, le_sub_iff_add_le, sub_add_eq_sub_sub_swap]

theorem programPosition_delayed
    (trajectories : trajectoryOperations delayed =
      (trajectoryOperations program).map (·.delayedBy delayS)) (timeS : F) :
    programPosition delayed timeS = programPosition program (timeS - delayS) := by
  unfold programPosition firstTrajectory
  rw [trajectories]
  cases trajectoryOperations program with
  | nil => rfl
  | cons operation rest => exact position_delayedBy operation delayS timeS

structure ShiftedBy (program delayed : AcceptedExecutionProgram F) (delayS insertionS : F) :
    Prop where
  schedules : Schedules delayed.operations
  sound : ∀ operation ∈ delayed.operations, operation.valid = true
  after : ∀ timeS, insertionS ≤ timeS →
    programPosition delayed (timeS + delayS) = programPosition program timeS
  before : ∀ timeS < insertionS, programPosition delayed timeS = programPosition program timeS
  during : ∀ timeS ∈ Icc insertionS (insertionS + delayS),
    programPosition delayed timeS = programPosition delayed insertionS

def RestsUntil (program : AcceptedExecutionProgram F) (timeS : F) : Prop :=
  ∀ earlierS ≤ timeS, programPosition program earlierS = programPosition program timeS

omit [Exact F] in
/-- Each delay back from the insertion leaves the vehicle where it was. By induction on the number
of delays that reach back to a time. -/
theorem restsUntil_of_shifted [Archimedean F] (positive : 0 < delayS)
    (shifted : ∀ timeS, programPosition delayed timeS = programPosition program (timeS - delayS))
    (before : ∀ timeS < insertionS, programPosition delayed timeS = programPosition program timeS)
    (during : ∀ timeS ∈ Icc insertionS (insertionS + delayS),
      programPosition delayed timeS = programPosition delayed insertionS) :
    RestsUntil program insertionS := by
  have last (timeS : F) (inside : timeS ∈ Icc (insertionS - delayS) insertionS) :
      programPosition program timeS = programPosition program (insertionS - delayS) := by
    have same := during (timeS + delayS) ⟨by linarith [inside.1], by linarith [inside.2]⟩
    rwa [shifted, shifted, add_sub_cancel_right] at same
  have ended : programPosition program insertionS =
      programPosition program (insertionS - delayS) :=
    last insertionS ⟨by linarith, le_rfl⟩
  have reach (count : ℕ) : ∀ timeS ≤ insertionS, insertionS - count * delayS ≤ timeS →
      programPosition program timeS = programPosition program insertionS := by
    induction count with
    | zero =>
      intro timeS early late
      rw [le_antisymm early (by simpa using late)]
    | succ count ih =>
      intro timeS early late
      by_cases recent : insertionS - delayS ≤ timeS
      · rw [last timeS ⟨recent, early⟩, ended]
      · have later : timeS + delayS < insertionS := by linarith
        have same := before (timeS + delayS) later
        rw [shifted, add_sub_cancel_right] at same
        rw [same]
        apply ih _ later.le
        push_cast at late
        linarith
  intro timeS early
  obtain ⟨count, enough⟩ := Archimedean.arch (insertionS - timeS) positive
  apply reach count timeS early
  rw [nsmul_eq_mul] at enough
  linarith

theorem shiftedBy_iff [Archimedean F] (positive : 0 < delayS)
    (sound : ∀ operation ∈ delayed.operations, operation.valid = true)
    (trajectories : trajectoryOperations delayed =
      (trajectoryOperations program).map (·.delayedBy delayS)) :
    ShiftedBy program delayed delayS insertionS ↔ RestsUntil program insertionS := by
  have shifted := programPosition_delayed trajectories
  constructor
  · intro moved
    exact restsUntil_of_shifted positive shifted moved.before moved.during
  · intro rests
    refine ⟨delayed.schedules, sound, ?_, ?_, ?_⟩
    · intro timeS _
      rw [shifted, add_sub_cancel_right]
    · intro timeS early
      rw [shifted, rests (timeS - delayS) (by linarith), rests timeS early.le]
    · intro timeS inside
      rw [shifted, shifted, rests (timeS - delayS) (by linarith [inside.2]),
        rests (insertionS - delayS) (by linarith)]

theorem restsUntil_of_le (early : ∀ operation, firstTrajectory program = .ok operation →
    timeS ≤ operation.startsAtS) : RestsUntil program timeS := by
  intro earlierS ordered
  unfold programPosition
  cases found : firstTrajectory program with
  | error fault => rfl
  | ok operation =>
    have start := early operation found
    change operation.position earlierS = operation.position timeS
    unfold TrajectoryOperation.position
    rw [if_pos (by simpa using ordered.trans start), if_pos (by simpa using start)]

end Positions

/-! ## Every valid program -/

section Shifts

variable {F : Type} [Field F] [LinearOrder F] [IsStrictOrderedRing F] [PyMath F] [Exact F]

def Shifts (program : AcceptedExecutionProgram F) (delayS insertionS : F)
    (result : Except (ProgramError F) (AcceptedExecutionProgram F)) : Prop :=
  ∃ delayed, result = .ok delayed ∧ ShiftedBy program delayed delayS insertionS

variable [Archimedean F] {program : AcceptedExecutionProgram F} {delayS : F}

theorem shifts_iff {insertionS : F} {result : Except (ProgramError F) (AcceptedExecutionProgram F)}
    (sound : ∀ operation ∈ program.operations, operation.valid = true) (positive : 0 < delayS)
    (built : ∃ before kept after, program.operations = before ++ after ∧
      Kept delayS before kept after ∧
      result = rebuildProgram program (kept ++ shiftFrom kept.length delayS after)) :
    Shifts program delayS insertionS result ↔
      program.programId.length ≤ 87 ∧ RestsUntil program insertionS := by
  obtain ⟨before, kept, after, operations, keeps, rfl⟩ := built
  have named : isIdentifier program.programId = true :=
    (fieldChecks_iff.mp (validate_eq_ok.mp program.valid).1).1
  have schedules := program.schedules
  rw [operations] at schedules sound
  have ofAfter : ∀ operation ∈ after, operation.valid = true :=
    fun operation among => sound operation (List.mem_append_right _ among)
  have valid := keeps.sound_shifted ofAfter positive.le
  have rebuilt := exists_rebuild_iff program (kept ++ shiftFrom kept.length delayS after)
  have flown {delayed : AcceptedExecutionProgram F}
      (ok : rebuildProgram program (kept ++ shiftFrom kept.length delayS after) = .ok delayed) :
      ShiftedBy program delayed delayS insertionS ↔ RestsUntil program insertionS := by
    have same := (rebuildProgram_eq_ok ok).1
    apply shiftedBy_iff positive
    · rwa [same]
    · unfold trajectoryOperations
      rw [same, operations]
      exact keeps.trajectories
  rw [← isIdentifier_resolved named]
  constructor
  · rintro ⟨delayed, ok, moved⟩
    exact ⟨(rebuilt.mp ⟨delayed, ok⟩).1, (flown ok).mp moved⟩
  · rintro ⟨room, rests⟩
    obtain ⟨delayed, ok⟩ := rebuilt.mpr ⟨room, keeps.shifted schedules ofAfter positive.le,
      fun last found => (valid_iff.mp (valid last (List.mem_of_getLast? found))).2.2.1⟩
    exact ⟨delayed, ok, (flown ok).mpr rests⟩

/-- The two delays only shift a valid program exactly when its identifier has room for the suffix
of the rebuilt program and its vehicle rests until the delay is inserted; a delay before the
trajectory needs one. -/
theorem delays_shift_iff (program : AcceptedExecutionProgram F)
    (sound : ∀ operation ∈ program.operations, operation.valid = true) (positive : 0 < delayS) :
    (Shifts program delayS (trajectoryInsertionS program) (delayBeforeTrajectory program delayS) ↔
      program.programId.length ≤ 87 ∧ trajectoryOperations program ≠ [] ∧
        RestsUntil program (trajectoryInsertionS program)) ∧
    (Shifts program delayS (launchInsertionS program) (delayBeforeLaunch program delayS) ↔
      program.programId.length ≤ 87 ∧ RestsUntil program (launchInsertionS program)) := by
  constructor
  · by_cases flies : trajectoryOperations program = []
    · have raises : ∀ delayed, delayBeforeTrajectory program delayS ≠ .ok delayed :=
        fun delayed ok => delayBeforeTrajectory_flies ok flies
      constructor
      · rintro ⟨delayed, ok, -⟩
        exact absurd ok (raises delayed)
      · rintro ⟨-, flown, -⟩
        exact absurd flies flown
    · rw [shifts_iff sound positive (delayBeforeTrajectory_eq sound positive flies)]
      simp [flies]
  · exact shifts_iff sound positive (delayBeforeLaunch_eq sound positive)

end Shifts

/-! ## A program that is delayed, and one whose identifier is too long -/

section Delayed

/-- From one place to another within a second. -/
def leg : OperationTrajectory ℚ where
  points := [⟨1, 0, ⟨0, 0, 1⟩, ⟨0, 0, 0⟩, ⟨0, 0, 0⟩, 0, 0⟩,
    ⟨2, 1, ⟨1, 0, 1⟩, ⟨0, 0, 0⟩, ⟨0, 0, 0⟩, 0, 0⟩]
  declaredStopSequences := [1, 2]
  completionPositionToleranceM := 1 / 20
  completionVelocityToleranceMS := 1 / 20
  twoPoints := by simp

/-- Take off, fly and land. -/
def flight (programId : String) : ProgramData ℚ where
  programId
  roleId := "alpha"
  operations := [⟨.takeoff, 1, 0, 2⟩, ⟨.trajectory leg, 2, 2, 3⟩, ⟨.land, 3, 3, 5⟩]
  scheduleDurationS := 5
  contingencyReserveS := 0
  recoveryReserveS := 0
  executionTimeoutS := 5

def shortFlight : AcceptedExecutionProgram ℚ := ⟨flight "program", by decide +kernel⟩

theorem delays_shift_iff_shortFlight :
    Shifts shortFlight 1 2 (delayBeforeTrajectory shortFlight 1) ∧
      Shifts shortFlight 1 0 (delayBeforeLaunch shortFlight 1) := by
  obtain ⟨beforeTrajectory, beforeLaunch⟩ :=
    delays_shift_iff shortFlight (by decide +kernel) (show (0 : ℚ) < 1 by decide +kernel)
  have rests (timeS : ℚ) (early : timeS ≤ 2) : RestsUntil shortFlight timeS := by
    apply restsUntil_of_le
    rintro operation ⟨⟩
    exact early
  have onTrajectory : trajectoryInsertionS shortFlight = 2 := by decide +kernel
  have onLaunch : launchInsertionS shortFlight = 0 := by decide +kernel
  rw [onTrajectory] at beforeTrajectory
  rw [onLaunch] at beforeLaunch
  exact ⟨beforeTrajectory.mpr ⟨by decide, by decide +kernel, rests 2 le_rfl⟩,
    beforeLaunch.mpr ⟨by decide, rests 0 (by decide +kernel)⟩⟩

def longFlight : AcceptedExecutionProgram ℚ :=
  ⟨flight (String.ofList (List.replicate 96 'p')), by decide +kernel⟩

/-- The suffix of a rebuilt program makes its identifier too long. -/
theorem long_identifier_raises :
    (∀ operation ∈ longFlight.operations, operation.valid = true) ∧
      ¬Shifts longFlight 1 (trajectoryInsertionS longFlight) (delayBeforeTrajectory longFlight 1) ∧
      ¬Shifts longFlight 1 (launchInsertionS longFlight) (delayBeforeLaunch longFlight 1) := by
  refine ⟨by decide +kernel, ?_, ?_⟩
  · rintro ⟨delayed, ok, -⟩
    have raised : (delayBeforeTrajectory longFlight 1).toBool = false := by decide +kernel
    rw [ok] at raised
    cases raised
  · rintro ⟨delayed, ok, -⟩
    have raised : (delayBeforeLaunch longFlight 1).toBool = false := by decide +kernel
    rw [ok] at raised
    cases raised

end Delayed

end Deconfliction

end CrazySwarm
