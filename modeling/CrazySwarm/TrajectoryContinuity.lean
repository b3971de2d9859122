import CrazySwarm.ExecutionSampling
import CrazySwarm.Lib.Curves
import CrazySwarm.TrajectorySampling

/-! What the samples of a trajectory are over exact time: velocity and acceleration are the first
and second derivative of the position, on every segment and across the knots, neighbouring segments
agree at the knot between them, and the lookup gives what a scan over the segments gives. -/
namespace CrazySwarm
open PyFloat (lt le ofRat)
open Set Curves
open scoped Numerals

/-- The axes of a position, a velocity or an acceleration. -/
def axes : List (Vector3 ℝ → ℝ) := [Vector3.x, Vector3.y, Vector3.z]

/-- The first segment that ends no earlier than the time. -/
noncomputable def linearScan (data : TrajectoryData ℝ) (timeS : ℝ) : Option (TrajectorySetpoint ℝ) :=
  (data.segments.find? fun (_, «end») => le timeS «end».timeFromStartS).map
    fun (start, «end») => sampleTrajectorySegment start «end» timeS

/-- Over a set of times the velocity is the derivative of the position, the acceleration that of
the velocity, and it is continuous. -/
structure Smooth (setpoint : ℝ → TrajectorySetpoint ℝ) (s : Set ℝ) : Prop where
  velocity : ∀ axis ∈ axes, Derives (fun timeS => axis (setpoint timeS).positionM)
    (fun timeS => axis (setpoint timeS).velocityMS) s
  acceleration : ∀ axis ∈ axes, Derives (fun timeS => axis (setpoint timeS).velocityMS)
    (fun timeS => axis (setpoint timeS).accelerationMS2) s
  continuous : ∀ axis ∈ axes, ContinuousOn (fun timeS => axis (setpoint timeS).accelerationMS2) s
  yawRate : Derives (fun timeS => (setpoint timeS).yawRad) (fun timeS => (setpoint timeS).yawRateRadS) s

namespace Smooth

variable {setpoint other : ℝ → TrajectorySetpoint ℝ} {a b c : ℝ} {s : Set ℝ}

theorem congr (smooth : Smooth setpoint s) (same : ∀ timeS ∈ s, other timeS = setpoint timeS) :
    Smooth other s := by
  have moved (of slope : TrajectorySetpoint ℝ → ℝ)
      (derives : Derives (fun timeS => of (setpoint timeS)) (fun timeS => slope (setpoint timeS)) s) :
      Derives (fun timeS => of (other timeS)) (fun timeS => slope (other timeS)) s := by
    intro timeS among
    dsimp only
    rw [same timeS among]
    exact (derives timeS among).congr (fun t inside => by rw [same t inside]) (by rw [same timeS among])
  exact {
    velocity := fun axis ofAxis => moved (fun setpoint => axis setpoint.positionM)
      (fun setpoint => axis setpoint.velocityMS) (smooth.velocity axis ofAxis)
    acceleration := fun axis ofAxis => moved (fun setpoint => axis setpoint.velocityMS)
      (fun setpoint => axis setpoint.accelerationMS2) (smooth.acceleration axis ofAxis)
    continuous := fun axis ofAxis =>
      (smooth.continuous axis ofAxis).congr fun t inside => by rw [same t inside]
    yawRate := moved TrajectorySetpoint.yawRad TrajectorySetpoint.yawRateRadS smooth.yawRate }

theorem point (setpoint : ℝ → TrajectorySetpoint ℝ) (a : ℝ) : Smooth setpoint (Icc a a) where
  velocity _ _ := derives_point _ _ a
  acceleration _ _ := derives_point _ _ a
  continuous _ _ := by
    rw [Icc_self]
    exact continuousOn_singleton _ _
  yawRate := derives_point _ _ a

theorem join (left : Smooth setpoint (Icc a b)) (right : Smooth setpoint (Icc b c)) (ordered : a ≤ b)
    (later : b ≤ c) : Smooth setpoint (Icc a c) where
  velocity axis ofAxis := (left.velocity axis ofAxis).join (right.velocity axis ofAxis) ordered later
  acceleration axis ofAxis :=
    (left.acceleration axis ofAxis).join (right.acceleration axis ofAxis) ordered later
  continuous axis ofAxis :=
    continuousOn_join (left.continuous axis ofAxis) (right.continuous axis ofAxis) ordered later
  yawRate := left.yawRate.join right.yawRate ordered later

end Smooth

section Segment

variable {a b : TrajectoryPoint ℝ}

theorem smooth_motionAt (a b : TrajectoryPoint ℝ) (s : Set ℝ) :
    Smooth (fun timeS => motionAt a b (timeS - a.timeFromStartS)) s := by
  have delayed {f f' : ℝ → ℝ} (derivative : ∀ t, HasDerivAt f (f' t) t) :
      Derives (fun timeS => f (timeS - a.timeFromStartS)) (fun timeS => f' (timeS - a.timeFromStartS))
        s := fun t _ => by
    simpa using ((derivative (t - a.timeFromStartS)).comp_sub_const t a.timeFromStartS).hasDerivWithinAt
  constructor
  · intro axis ofAxis
    simp only [axes, List.mem_cons, List.not_mem_nil, or_false] at ofAxis
    rcases ofAxis with rfl | rfl | rfl <;> exact delayed fun t => AxisEnds.hasDerivAt_positionAt _ _ t
  · intro axis ofAxis
    simp only [axes, List.mem_cons, List.not_mem_nil, or_false] at ofAxis
    rcases ofAxis with rfl | rfl | rfl <;> exact delayed fun t => AxisEnds.hasDerivAt_velocityAt _ _ t
  · intro axis ofAxis
    simp only [axes, List.mem_cons, List.not_mem_nil, or_false] at ofAxis
    rcases ofAxis with rfl | rfl | rfl <;>
      exact ((AxisEnds.continuous_accelerationAt _ _).comp
        (continuous_id.sub continuous_const)).continuousOn
  · exact delayed fun t => AxisEnds.hasDerivAt_positionAt _ _ t

theorem smooth_segment (a b : TrajectoryPoint ℝ) :
    Smooth (sampleTrajectorySegment a b) (Icc a.timeFromStartS b.timeFromStartS) :=
  (smooth_motionAt a b _).congr fun _ inside => sampleTrajectorySegment_of_mem inside

end Segment

section Data

variable {data : TrajectoryData ℝ} {setpoint : ℝ → TrajectorySetpoint ℝ}

/-- By joining the segments at the knots. -/
theorem Knotted.smooth (knotted : Knotted data)
    (sampled : ∀ timeS, data.sample timeS = some (setpoint timeS)) :
    Smooth setpoint (Icc 0 data.durationS) := by
  obtain ⟨last, found, duration⟩ := knotted.exists_last
  have two := knotted.two
  have nonempty : 0 < data.points.length := by omega
  have first : data.points[0]? = some data.points[0] := List.getElem?_eq_getElem nonempty
  have start := knotted.start _ first
  have pieces : (data.points.map TrajectoryPoint.timeFromStartS).IsChain fun a b =>
      a ≤ b ∧ Smooth setpoint (Icc a b) := by
    refine List.isChain_iff_getElem.mpr fun i bound => ?_
    rw [List.length_map] at bound
    simp only [List.getElem_map]
    have ofA : data.points[i]? = some data.points[i] := List.getElem?_eq_getElem _
    have ofB : data.points[i + 1]? = some data.points[i + 1] := List.getElem?_eq_getElem bound
    refine ⟨(knotted.time_lt (Nat.lt_succ_self i) ofA ofB).le, ?_⟩
    refine (smooth_segment _ _).congr fun timeS inside => ?_
    exact Option.some.inj ((sampled timeS).symm.trans (knotted.sample_of_segment ofA ofB inside))
  cases points : data.points with
  | nil => simp [points] at first
  | cons point rest =>
    simp only [points] at pieces first found start
    have whole := between_knots (P := fun a b => Smooth setpoint (Icc a b)) (Smooth.point setpoint)
      (fun a b c ordered later left right => left.join right ordered later) pieces
    have ends : (point.timeFromStartS :: rest.map TrajectoryPoint.timeFromStartS).getLast
        (List.cons_ne_nil _ _) = data.durationS := by
      rw [duration, ← Option.some_inj, ← List.getLast?_eq_some_getLast, ← List.map_cons,
        List.getLast?_map, List.getLast?_eq_getElem?, found]
      rfl
    rw [ends] at whole
    rwa [show point.timeFromStartS = 0 from start] at whole

theorem getElem?_segments {i : ℕ} {a b : TrajectoryPoint ℝ} :
    data.segments[i]? = some (a, b) ↔ data.points[i]? = some a ∧ data.points[i + 1]? = some b := by
  simp [TrajectoryData.segments, List.getElem?_zip_eq_some, List.getElem?_tail]

/-- The segment before the one that the scan stops at ends too early. -/
theorem Knotted.linearScan_eq (knotted : Knotted data) {timeS : ℝ}
    (inside : timeS ∈ Icc 0 data.durationS) : linearScan data timeS = data.sample timeS := by
  obtain ⟨p, q, ofP, ofQ, holds⟩ := knotted.exists_segment inside
  have stops : (data.segments.find? fun (_, «end») => le timeS «end».timeFromStartS).isSome := by
    apply List.find?_isSome.mpr
    exact ⟨(p, q), List.mem_of_getElem? (getElem?_segments.mpr ⟨ofP, ofQ⟩), by simpa using holds.2⟩
  obtain ⟨⟨a, b⟩, found⟩ := Option.isSome_iff_exists.mp stops
  obtain ⟨reached, i, bound, here, earlier⟩ := List.find?_eq_some_iff_getElem.mp found
  obtain ⟨ofA, ofB⟩ := getElem?_segments.mp (List.getElem?_eq_some_iff.mpr ⟨bound, here⟩)
  have begun : a.timeFromStartS ≤ timeS := by
    cases i with
    | zero =>
      rw [knotted.start a ofA]
      exact inside.1
    | succ i =>
      have before : i < data.segments.length := Nat.lt_of_succ_lt bound
      have pair := getElem?_segments.mp (List.getElem?_eq_getElem before)
      have early := earlier i (Nat.lt_succ_self i)
      rw [← Option.some.inj (pair.2.symm.trans ofA)]
      simp only [real_le, Bool.not_eq_true', decide_eq_false_iff_not, not_le] at early
      exact early.le
  have ended : timeS ≤ b.timeFromStartS := by simpa using reached
  rw [linearScan, found, knotted.sample_of_segment ofA ofB ⟨begun, ended⟩]
  rfl

theorem Knotted.sample_knot (knotted : Knotted data) {point : TrajectoryPoint ℝ}
    (among : point ∈ data.points) : data.sample point.timeFromStartS = some point.setpoint := by
  obtain ⟨i, found⟩ := List.mem_iff_getElem?.mp among
  have two := knotted.two
  have bound := (List.getElem?_eq_some_iff.mp found).1
  by_cases last : i + 1 < data.points.length
  · have next := List.getElem?_eq_getElem last
    have later := knotted.time_lt (Nat.lt_succ_self i) found next
    rw [knotted.sample_of_segment found next ⟨le_rfl, later.le⟩, segment_meets_start later]
  · obtain ⟨j, rfl⟩ : ∃ j, i = j + 1 := ⟨i - 1, by omega⟩
    have before := List.getElem?_eq_getElem (Nat.lt_of_succ_lt bound)
    have later := knotted.time_lt (Nat.lt_succ_self j) before found
    rw [knotted.sample_of_segment before found ⟨later.le, le_rfl⟩, segment_meets_end later]

end Data

/-! ## Every trajectory that validates -/

structure SampledSmoothly (trajectory : TimeParameterizedTrajectory ℝ)
    (setpoint : ℝ → TrajectorySetpoint ℝ) : Prop where
  sampled : ∀ timeS, sampleTrajectory trajectory timeS = some (setpoint timeS)
  smooth : Smooth setpoint (Icc 0 trajectory.durationS)
  segment : ∀ timeS ∈ Icc 0 trajectory.durationS, ∃ start «end»,
    trajectory.points[segmentIndex trajectory timeS]? = some start ∧
      trajectory.points[segmentIndex trajectory timeS + 1]? = some «end» ∧
      timeS ∈ Icc start.timeFromStartS «end».timeFromStartS ∧
      setpoint timeS = sampleTrajectorySegment start «end» timeS
  segment_smooth : ∀ start «end», (start, «end») ∈ trajectory.segments →
    Smooth (sampleTrajectorySegment start «end») (Icc start.timeFromStartS «end».timeFromStartS)
  meets_knots : ∀ start «end», (start, «end») ∈ trajectory.segments →
    sampleTrajectorySegment start «end» start.timeFromStartS = start.setpoint ∧
      sampleTrajectorySegment start «end» «end».timeFromStartS = «end».setpoint
  at_knots : ∀ point ∈ trajectory.points, setpoint point.timeFromStartS = point.setpoint
  scanned : ∀ timeS ∈ Icc 0 trajectory.durationS,
    linearScan trajectory.toTrajectoryData timeS = some (setpoint timeS)

theorem sampleTrajectory_smooth (trajectory : TimeParameterizedTrajectory ℝ) :
    ∃ setpoint, SampledSmoothly trajectory setpoint := by
  have knotted := knotted_of_validate trajectory.valid
  have defined (timeS : ℝ) : ∃ setpoint, sampleTrajectory trajectory timeS = some setpoint :=
    ExecutionPrograms.OperationTrajectory.exists_sample ⟨trajectory.toTrajectoryData, knotted.two⟩
      timeS
  choose setpoint sampled using defined
  have ordered {start «end» : TrajectoryPoint ℝ} (pair : (start, «end») ∈ trajectory.segments) :
      start.timeFromStartS < «end».timeFromStartS := by
    obtain ⟨i, place⟩ := List.mem_iff_getElem?.mp pair
    obtain ⟨ofStart, ofEnd⟩ := getElem?_segments.mp place
    exact knotted.time_lt (Nat.lt_succ_self i) ofStart ofEnd
  have chosen {start «end» : TrajectoryPoint ℝ} {timeS : ℝ} {i : ℕ}
      (ofStart : trajectory.points[i]? = some start)
      (ofEnd : trajectory.points[i + 1]? = some «end»)
      (inside : timeS ∈ Icc start.timeFromStartS «end».timeFromStartS) :
      setpoint timeS = sampleTrajectorySegment start «end» timeS :=
    Option.some.inj ((sampled timeS).symm.trans (knotted.sample_of_segment ofStart ofEnd inside))
  refine ⟨setpoint, ?_⟩
  constructor
  case sampled => exact sampled
  case smooth => exact knotted.smooth sampled
  case segment =>
    intro timeS inside
    obtain ⟨start, «end», ofStart, ofEnd, holds⟩ := knotted.exists_segment inside
    exact ⟨start, «end», ofStart, ofEnd, holds, chosen ofStart ofEnd holds⟩
  case segment_smooth =>
    intro start «end» _
    exact smooth_segment start «end»
  case meets_knots =>
    intro start «end» pair
    exact ⟨segment_meets_start (ordered pair), segment_meets_end (ordered pair)⟩
  case at_knots =>
    intro point among
    exact Option.some.inj ((sampled point.timeFromStartS).symm.trans (knotted.sample_knot among))
  case scanned =>
    intro timeS inside
    exact (knotted.linearScan_eq inside).trans (sampled timeS)

end CrazySwarm
