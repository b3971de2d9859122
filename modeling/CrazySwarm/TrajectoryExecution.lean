import CrazySwarm.TrajectorySampling

/-! The execution of a trajectory by the simulated vehicle: fixed steps up to the duration, and a cursor
that only moves forward over the segments. -/
namespace CrazySwarm
open PyFloat PyMath

section Model

variable {F V E : Type} [PyMath F]

/-- One step of the execution: its length, its end and what the vehicle is given. -/
structure FlownStep (F : Type) where
  dtS : F
  sampleTimeS : F
  setpoint : TrajectorySetpoint F
  deriving DecidableEq, Repr

inductive FlightEnd (V E : Type) where
  | finished (vehicle : V)
  /-- What the vehicle raised in a step. -/
  | raised (error : E)
  /-- There is no segment under the cursor. -/
  | indexError
  /-- The fuel did not suffice. -/
  | unfinished
  deriving DecidableEq, Repr

/-- The cursor moves on while the time is past the end of its segment, up to the last one. -/
def advanceCursor (points : List (TrajectoryPoint F)) (sampleTimeS : F) (index : Nat) : Nat :=
  match points[index + 1]? with
  | none => index
  | some next =>
    if index + 1 < points.length - 1 ∧ lt next.timeFromStartS sampleTimeS = true then
      advanceCursor points sampleTimeS (index + 1)
    else index
termination_by points.length - index

/-- The loop of `_execute_trajectory` over the trajectory; `fly` is the vehicle's step, with its motor
commands. -/
def flyTrajectory (fly : V → F → TrajectorySetpoint F → Except E V)
    (points : List (TrajectoryPoint F)) (durationS fixedStepS : F) :
    Nat → V → F → Nat → List (FlownStep F) × FlightEnd V E
  | 0, _, _, _ => ([], .unfinished)
  | fuel + 1, vehicle, elapsedS, index =>
    if lt elapsedS durationS then
      let dt := PyFloat.min fixedStepS (durationS - elapsedS)
      let sampleTimeS := elapsedS + dt
      let index := advanceCursor points sampleTimeS index
      match points[index]?, points[index + 1]? with
      | some start, some «end» =>
        let setpoint := sampleTrajectorySegment start «end» sampleTimeS
        match fly vehicle dt setpoint with
        | .error error => ([⟨dt, sampleTimeS, setpoint⟩], .raised error)
        | .ok vehicle =>
          let (later, ended) :=
            flyTrajectory fly points durationS fixedStepS fuel vehicle sampleTimeS index
          (⟨dt, sampleTimeS, setpoint⟩ :: later, ended)
      | _, _ => ([], .indexError)
    else ([], .finished vehicle)

/-- `_execute_trajectory`, up to where the vehicle settles. -/
def executeTrajectory (fly : V → F → TrajectorySetpoint F → Except E V)
    (trajectory : TimeParameterizedTrajectory F) (fixedStepS : F) (fuel : Nat) (vehicle : V) :
    List (FlownStep F) × FlightEnd V E :=
  flyTrajectory fly trajectory.points trajectory.durationS fixedStepS fuel vehicle PyFloat.zero 0

end Model

section Cursor
open Set

variable {data : TrajectoryData ℝ} {index : ℕ} {elapsedS sampleTimeS fixedStepS : ℝ}

structure Behind (points : List (TrajectoryPoint ℝ)) (index : ℕ) (timeS : ℝ) : Prop where
  segment : index + 1 < points.length
  begun : ∀ start, points[index]? = some start → start.timeFromStartS ≤ timeS

/-- After its moves the cursor is on a segment that begins before the time, and that ends after it unless
it is the last. -/
theorem advanceCursor_behind (points : List (TrajectoryPoint ℝ)) (index : ℕ) (sampleTimeS : ℝ)
    (behind : Behind points index sampleTimeS) :
    Behind points (advanceCursor points sampleTimeS index) sampleTimeS ∧
      (advanceCursor points sampleTimeS index + 1 < points.length - 1 →
        ∀ next, points[advanceCursor points sampleTimeS index + 1]? = some next →
          sampleTimeS ≤ next.timeFromStartS) := by
  fun_induction advanceCursor points sampleTimeS index with
  | case1 index absent =>
    have bound := behind.segment
    rw [List.getElem?_eq_getElem bound] at absent
    cases absent
  | case2 index next found moves ih =>
    have passed : next.timeFromStartS < sampleTimeS := by simpa using moves.2
    refine ih ⟨by omega, fun start same => ?_⟩
    cases found.symm.trans same
    exact passed.le
  | case3 index next found stays =>
    refine ⟨behind, fun inner other same => ?_⟩
    cases found.symm.trans same
    by_contra past
    exact stays ⟨inner, by simpa using past⟩

theorem Knotted.cursor_holds (knotted : Knotted data) (behind : Behind data.points index elapsedS)
    (onward : elapsedS ≤ sampleTimeS) (within : sampleTimeS ≤ data.durationS) :
    Behind data.points (advanceCursor data.points sampleTimeS index) sampleTimeS ∧
    ∃ a b, data.points[advanceCursor data.points sampleTimeS index]? = some a ∧
      data.points[advanceCursor data.points sampleTimeS index + 1]? = some b ∧
        sampleTimeS ∈ Icc a.timeFromStartS b.timeFromStartS := by
  obtain ⟨ahead, ends⟩ := advanceCursor_behind data.points index sampleTimeS
    ⟨behind.segment, fun start found => (behind.begun start found).trans onward⟩
  generalize advanceCursor data.points sampleTimeS index = reached at ahead ends ⊢
  have bound := ahead.segment
  refine ⟨ahead, data.points[reached], data.points[reached + 1], List.getElem?_eq_getElem _,
    List.getElem?_eq_getElem bound, ahead.begun _ (List.getElem?_eq_getElem _), ?_⟩
  rcases Nat.lt_or_ge (reached + 1) (data.points.length - 1) with inner | last
  · exact ends inner _ (List.getElem?_eq_getElem bound)
  · obtain ⟨final, found, duration⟩ := knotted.exists_last
    have same : reached + 1 = data.points.length - 1 := by omega
    rw [← same, List.getElem?_eq_getElem bound] at found
    cases found
    exact within.trans_eq duration

end Cursor

section Flight

variable {V E : Type} {data : TrajectoryData ℝ} {fixedStepS : ℝ}

structure Tracks (data : TrajectoryData ℝ) (fixedStepS elapsedS : ℝ) (flown : List (FlownStep ℝ)) :
    Prop where
  sampled : ∀ step ∈ flown, data.sample step.sampleTimeS = some step.setpoint
  advancing : (elapsedS :: flown.map (·.sampleTimeS)).IsChain fun a b => a < b ∧ b - a ≤ fixedStepS

theorem Tracks.nil (data : TrajectoryData ℝ) (fixedStepS elapsedS : ℝ) :
    Tracks data fixedStepS elapsedS [] :=
  ⟨nofun, .singleton _⟩

theorem Tracks.cons {elapsedS : ℝ} {step : FlownStep ℝ} {later : List (FlownStep ℝ)}
    (sampled : data.sample step.sampleTimeS = some step.setpoint) (onward : elapsedS < step.sampleTimeS)
    (bounded : step.sampleTimeS - elapsedS ≤ fixedStepS)
    (tracks : Tracks data fixedStepS step.sampleTimeS later) :
    Tracks data fixedStepS elapsedS (step :: later) := by
  constructor
  · intro other among
    rcases List.mem_cons.mp among with rfl | behind
    · exact sampled
    · exact tracks.sampled other behind
  · exact List.IsChain.cons_cons ⟨onward, bounded⟩ tracks.advancing

/-- A step of the loop: its end lies ahead, within the fixed step and the duration, and the cursor gives
the setpoint of the trajectory there. -/
theorem Knotted.step_sampled (knotted : Knotted data) (positive : 0 < fixedStepS) {elapsedS : ℝ}
    {index : ℕ} (behind : Behind data.points index elapsedS) (before : elapsedS < data.durationS) :
    ∃ dt, PyFloat.min fixedStepS (data.durationS - elapsedS) = dt ∧ 0 < dt ∧ dt ≤ fixedStepS ∧
      elapsedS + dt ≤ data.durationS ∧ (dt = fixedStepS ∨ elapsedS + dt = data.durationS) ∧
      Behind data.points (advanceCursor data.points (elapsedS + dt) index) (elapsedS + dt) ∧
      ∃ a b, data.points[advanceCursor data.points (elapsedS + dt) index]? = some a ∧
        data.points[advanceCursor data.points (elapsedS + dt) index + 1]? = some b ∧
        data.sample (elapsedS + dt) = some (sampleTrajectorySegment a b (elapsedS + dt)) := by
  obtain ⟨dt, same⟩ : ∃ dt, dt = Min.min fixedStepS (data.durationS - elapsedS) := ⟨_, rfl⟩
  have advances : 0 < dt := same ▸ lt_min positive (sub_pos.mpr before)
  have left : dt ≤ data.durationS - elapsedS := same ▸ min_le_right _ _
  have within : elapsedS + dt ≤ data.durationS := by linarith
  refine ⟨dt, (Exact.min_eq _ _).trans same.symm, advances, same ▸ min_le_left _ _, within, ?_, ?_⟩
  · rcases min_choice fixedStepS (data.durationS - elapsedS) with choice | choice
    · exact .inl (same.trans choice)
    · rw [same, choice]
      exact .inr (by ring)
  · obtain ⟨ahead, a, b, ofA, ofB, inside⟩ :=
      knotted.cursor_holds behind (by linarith : elapsedS ≤ elapsedS + dt) within
    exact ⟨ahead, a, b, ofA, ofB, knotted.sample_of_segment ofA ofB inside⟩

theorem Knotted.flyTrajectory_tracks (knotted : Knotted data)
    (fly : V → ℝ → TrajectorySetpoint ℝ → Except E V) (positive : 0 < fixedStepS) (fuel : ℕ) (vehicle : V)
    (elapsedS : ℝ) (index : ℕ) (behind : Behind data.points index elapsedS)
    (before : elapsedS ≤ data.durationS) :
    ∃ flown ended,
      flyTrajectory fly data.points data.durationS fixedStepS fuel vehicle elapsedS index =
        (flown, ended) ∧
      Tracks data fixedStepS elapsedS flown ∧ ended ≠ .indexError ∧
      (∀ steps : ℕ, data.durationS - elapsedS ≤ steps * fixedStepS → steps < fuel →
        ended ≠ .unfinished) ∧
      ∀ last, ended = .finished last →
        (elapsedS :: flown.map (·.sampleTimeS)).getLast? = some data.durationS := by
  induction fuel generalizing vehicle elapsedS index with
  | zero => exact ⟨[], .unfinished, rfl, .nil _ _ _, nofun, fun _ _ none => absurd none (by omega), nofun⟩
  | succ fuel ih =>
    rw [flyTrajectory]
    by_cases ahead : elapsedS < data.durationS
    · rw [if_pos (Exact.lt_true.mpr ahead)]
      obtain ⟨dt, length, advances, bounded, within, ends, cursor, a, b, ofA, ofB, sampled⟩ :=
        knotted.step_sampled positive behind ahead
      have plus : @HAdd.hAdd ℝ ℝ ℝ (@instHAdd ℝ PyFloat.instAdd) elapsedS dt = elapsedS + dt := rfl
      have minus : @HSub.hSub ℝ ℝ ℝ (@instHSub ℝ PyFloat.instSub) data.durationS elapsedS =
        data.durationS - elapsedS := rfl
      simp only [minus, length, plus, ofA, ofB]
      cases flew : fly vehicle dt (sampleTrajectorySegment a b (elapsedS + dt)) with
      | error error =>
        refine ⟨_, _, rfl, .cons sampled (by simpa using advances) (by simpa using bounded)
          (.nil _ _ _), nofun, fun _ _ _ => nofun, nofun⟩
      | ok next =>
        obtain ⟨later, ended, flown, tracks, indexed, enough, last⟩ :=
          ih next (elapsedS + dt) _ cursor within
        simp only [flown]
        refine ⟨_, _, rfl, .cons sampled (by simpa using advances) (by simpa using bounded) tracks,
          indexed, ?_, ?_⟩
        · intro steps left more
          cases steps with
          | zero =>
            rw [Nat.cast_zero, zero_mul] at left
            linarith
          | succ steps =>
            refine enough steps ?_ (by omega)
            push_cast at left
            rcases ends with same | same
            · rw [same]
              linarith
            · rw [same, sub_self]
              positivity
        · intro final done
          rw [List.map_cons, List.getLast?_cons_cons]
          exact last final done
    · rw [if_neg (by simpa using ahead)]
      refine ⟨[], .finished vehicle, rfl, .nil _ _ _, nofun, fun _ _ _ => nofun, fun _ _ => ?_⟩
      rw [le_antisymm before (not_lt.mp ahead)]
      rfl

/-- With enough fuel the execution of a trajectory ends, unless the vehicle raises; its setpoints are those
of the trajectory at times that advance by at most a fixed step, up to the duration. -/
theorem executeTrajectory_tracks (trajectory : TimeParameterizedTrajectory ℝ) (fixedStepS : ℝ)
    (positive : 0 < fixedStepS) (fly : V → ℝ → TrajectorySetpoint ℝ → Except E V) (vehicle : V) :
    ∃ enough, ∀ fuel, enough ≤ fuel → ∃ flown ended,
      executeTrajectory fly trajectory fixedStepS fuel vehicle = (flown, ended) ∧
      ((∃ last, ended = .finished last) ∨ ∃ error, ended = .raised error) ∧
      (∀ step ∈ flown, sampleTrajectory trajectory step.sampleTimeS = some step.setpoint) ∧
      ((0 :: flown.map (·.sampleTimeS)).IsChain fun a b => a < b ∧ b - a ≤ fixedStepS) ∧
      ((∃ last, ended = .finished last) →
        (flown.map (·.sampleTimeS)).getLast? = some trajectory.durationS) := by
  have knotted := knotted_of_validate trajectory.valid
  obtain ⟨first, found⟩ : ∃ first, trajectory.points[0]? = some first :=
    ⟨_, List.getElem?_eq_getElem (by have := knotted.two; omega)⟩
  have behind : Behind trajectory.points 0 0 := by
    refine ⟨by have := knotted.two; omega, fun start same => ?_⟩
    exact (knotted.start start same).le
  have lasts : 0 < trajectory.toTrajectoryData.durationS := by
    obtain ⟨final, reached, duration⟩ := knotted.exists_last
    rw [duration, ← knotted.start first found]
    exact knotted.time_lt (by have := knotted.two; omega) found reached
  obtain ⟨steps, enough⟩ : ∃ steps : ℕ, trajectory.toTrajectoryData.durationS ≤ steps * fixedStepS := by
    obtain ⟨steps, enough⟩ := exists_nat_ge (trajectory.toTrajectoryData.durationS / fixedStepS)
    exact ⟨steps, (div_le_iff₀ positive).mp enough⟩
  refine ⟨steps + 1, fun fuel more => ?_⟩
  obtain ⟨flown, ended, ran, tracks, indexed, unfinished, last⟩ :=
    knotted.flyTrajectory_tracks fly positive fuel vehicle 0 0 behind lasts.le
  have start : (PyFloat.zero : ℝ) = 0 := Exact.zero_eq
  refine ⟨flown, ended, by rw [executeTrajectory, start]; exact ran, ?_, tracks.sampled,
    tracks.advancing, ?_⟩
  · cases ended with
    | finished final => exact .inl ⟨final, rfl⟩
    | raised error => exact .inr ⟨error, rfl⟩
    | indexError => exact absurd rfl indexed
    | unfinished => exact absurd rfl (unfinished steps (by rwa [sub_zero]) (by omega))
  · rintro ⟨final, finished⟩
    have reached := last final finished
    cases flown with
    | nil =>
      rw [List.map_nil, List.getLast?_singleton, Option.some_inj] at reached
      exact absurd reached lasts.ne
    | cons step later =>
      rw [List.map_cons, List.getLast?_cons_cons] at reached
      exact reached

/-- At rest for a second. -/
noncomputable def restData : TrajectoryData ℝ where
  points := [⟨1, 0, ⟨0, 0, 1⟩, ⟨0, 0, 0⟩, ⟨0, 0, 0⟩, 0, 0⟩, ⟨2, 1, ⟨0, 0, 1⟩, ⟨0, 0, 0⟩, ⟨0, 0, 0⟩, 0, 0⟩]
  declaredStopSequences := [1, 2]
  completionPositionToleranceM := 1
  completionVelocityToleranceMS := 1

theorem restData_valid : restData.validate = .ok () := by
  have sequences : ([1, 2] : List ℕ) = List.range' 1 2 := by decide
  simp [TrajectoryData.validate, TrajectoryData.fieldChecks, TrajectoryData.orderedAndContinuous,
    TrajectoryData.segments, TrajectoryData.stopSpeedExceeds, restData, TrajectoryPoint.valid,
    Vector3.isFinite, CrazySwarm.isFinite, Vector3.length, PyFloat.gt, PyFloat.ge, PyFloat.atMost,
    validated, bind, Except.bind, require, ← sequences]
  rfl

/-- A vehicle that counts its steps. -/
theorem rest_tracks :
    ∃ enough, ∀ fuel, enough ≤ fuel → ∃ flown ended,
      executeTrajectory (fun (steps : ℕ) _ _ => (.ok (steps + 1) : Except Unit ℕ)) ⟨restData, restData_valid⟩
        (1 / 100) fuel 0 = (flown, ended) ∧
      ((∃ last, ended = .finished last) ∨ ∃ error, ended = .raised error) ∧
      (∀ step ∈ flown,
        sampleTrajectory ⟨restData, restData_valid⟩ step.sampleTimeS = some step.setpoint) ∧
      ((0 :: flown.map (·.sampleTimeS)).IsChain fun a b => a < b ∧ b - a ≤ 1 / 100) ∧
      ((∃ last, ended = .finished last) → (flown.map (·.sampleTimeS)).getLast? =
        some (TimeParameterizedTrajectory.durationS ⟨restData, restData_valid⟩)) :=
  executeTrajectory_tracks ⟨restData, restData_valid⟩ (1 / 100) (by norm_num) _ 0

end Flight

end CrazySwarm
