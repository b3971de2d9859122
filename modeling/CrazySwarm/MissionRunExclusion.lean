import CrazySwarm.MissionRunSteps

/-! No two active runs share a vehicle. While no run call takes the identifier of an active run,
nobody but a run itself touches its snapshot, its event and its task until it ends, and a
cancellation finds all three. -/
namespace CrazySwarm
open PyFloat PyMath

variable {F : Type} [PyMath F]

structure RunHandle.Registered (run : RunHandle) (s : MissionRunner F) : Prop where
  vehicle : s.vehicleRuns.get? run.vehicleId = some run.runId
  event : s.cancelEvents.get? run.runId = some run.cancelEvent
  task : s.tasks.get? run.runId = some run.task
  snapshot : ∃ snapshot, s.runs.get? run.runId = some snapshot ∧ snapshot.result = none ∧
    (snapshot.cancellationRequested = true →
      run.cancelEvent ∈ s.isSet ∧ run.task ∈ s.cancelCalls)

namespace MissionRunner
open Coroutine SafetySupervisor EventLoop

section Statement

variable (clock : MonotonicClock F) (registry : MissionRegistry F)

def handleOf : EventLoop.Task (Operation F) (MissionRunner F) (RunnerAwaited F) RunnerReply
    (Raised F) (Returned F) → Option RunHandle
  | ⟨.run _, _, .wait on _⟩ => on.run?
  | _ => none

def Active (loop : Loop F) (task : Nat) (run : RunHandle) : Prop :=
  (loop.tasks[task]?).bind handleOf = some run

/-- Whether a run call gets as far as the tables. -/
def reaches (request : RunRequest) (s : MissionRunner F) : Bool :=
  match registry.get request.missionId with
  | .error _ => false
  | .ok mission =>
    (newSnapshot (snapshotFor request mission s.supervisor.mode .validating
      (PyFloat.zero : F))).isOk &&
    match registry.validate request { s.supervisor with ticks := s.supervisor.ticks + 1 } with
    | .error raised => raised.isCrazySwarmError
    | .ok () => true

/-- A run call that gets to the tables does not name an active run. -/
def Fresh (loop : Loop F) : Turn F → Prop
  | .call (.run request) => reaches registry request loop.state = true →
      ∀ run ∈ loop.tasks.filterMap handleOf, run.runId ≠ request.runId
  | _ => True

instance (loop : Loop F) : (turn : Turn F) → Decidable (Fresh registry loop turn)
  | .call (.run request) => inferInstanceAs (Decidable (reaches registry request loop.state = true →
      ∀ run ∈ loop.tasks.filterMap handleOf, run.runId ≠ request.runId))
  | .call (.cancel _) | .call (.phase ..) | .call (.supervisor _) | .resume .. => .isTrue trivial

structure RunExclusive (loop : Loop F) (turn : Turn F) : Prop where
  named : ∀ (task : Nat) request since on next,
    (step clock registry loop turn).tasks[task]? = some ⟨.run request, since, .wait on next⟩ →
      ∃ run, on.run? = some run ∧ run.runId = request.runId ∧ run.vehicleId = request.vehicleId
  owned : ∀ task run, Active (step clock registry loop turn) task run →
    (step clock registry loop turn).state.vehicleRuns.get? run.vehicleId = some run.runId
  one : ∀ task run other run', Active (step clock registry loop turn) task run →
    Active (step clock registry loop turn) other run' → run.vehicleId = run'.vehicleId →
      task = other
  rejected : ∀ request before after result, turn = .call (.run request) →
    moved (program clock registry) loop turn =
      some (.run request, before, after, .done (.ok (.result result))) →
    result.reasonCode = "MISSION_CONFLICT" → ∀ task run, Active loop task run →
      after.runs.get? run.runId = before.runs.get? run.runId ∧
      after.cancelEvents.get? run.runId = before.cancelEvents.get? run.runId ∧
      after.tasks.get? run.runId = before.tasks.get? run.runId
  stops : ∀ runId task run, turn = .call (.cancel runId) → Active loop task run →
    run.runId = runId →
      run.cancelEvent ∈ (step clock registry loop turn).state.isSet ∧
      run.task ∈ (step clock registry loop turn).state.cancelCalls

end Statement

variable {clock : MonotonicClock F} {registry : MissionRegistry F} {a b d s : MissionRunner F}
  {run other : RunHandle} {request : RunRequest} {mission : Mission} {loop : Loop F} {turn : Turn F}
  {ids vehicles : String → Prop}

section Elsewhere

/-- The tables are the same but for some identifiers and some vehicles. -/
structure Elsewhere (ids vehicles : String → Prop) (a b : MissionRunner F) : Prop where
  runs : ∀ id, ¬ids id → b.runs.get? id = a.runs.get? id
  cancelEvents : ∀ id, ¬ids id → b.cancelEvents.get? id = a.cancelEvents.get? id
  tasks : ∀ id, ¬ids id → b.tasks.get? id = a.tasks.get? id
  vehicleRuns : ∀ vehicleId, ¬vehicles vehicleId →
    b.vehicleRuns.get? vehicleId = a.vehicleRuns.get? vehicleId
  isSet : b.isSet = a.isSet
  cancelCalls : b.cancelCalls = a.cancelCalls

/-- Nothing in the tables has changed. -/
abbrev Alike (a b : MissionRunner F) : Prop := Elsewhere (fun _ => False) (fun _ => False) a b

theorem Elsewhere.refl (s : MissionRunner F) : Elsewhere ids vehicles s s :=
  ⟨fun _ _ => rfl, fun _ _ => rfl, fun _ _ => rfl, fun _ _ => rfl, rfl, rfl⟩

theorem Elsewhere.trans (first : Elsewhere ids vehicles a b) (second : Elsewhere ids vehicles b d) :
    Elsewhere ids vehicles a d where
  runs id apart := (second.runs id apart).trans (first.runs id apart)
  cancelEvents id apart := (second.cancelEvents id apart).trans (first.cancelEvents id apart)
  tasks id apart := (second.tasks id apart).trans (first.tasks id apart)
  vehicleRuns id apart := (second.vehicleRuns id apart).trans (first.vehicleRuns id apart)
  isSet := second.isSet.trans first.isSet
  cancelCalls := second.cancelCalls.trans first.cancelCalls

theorem Elsewhere.mono {ids' vehicles' : String → Prop} (same : Elsewhere ids vehicles a b)
    (identifiers : ∀ id, ids id → ids' id) (named : ∀ vehicleId, vehicles vehicleId →
      vehicles' vehicleId) : Elsewhere ids' vehicles' a b where
  runs id apart := same.runs id (mt (identifiers id) apart)
  cancelEvents id apart := same.cancelEvents id (mt (identifiers id) apart)
  tasks id apart := same.tasks id (mt (identifiers id) apart)
  vehicleRuns id apart := same.vehicleRuns id (mt (named id) apart)
  isSet := same.isSet
  cancelCalls := same.cancelCalls

theorem registered_of_elsewhere (registered : run.Registered a)
    (same : Elsewhere ids vehicles a b) (identifier : ¬ids run.runId)
    (vehicle : ¬vehicles run.vehicleId) : run.Registered b := by
  obtain ⟨snapshot, found, open', requested⟩ := registered.snapshot
  refine ⟨(same.vehicleRuns _ vehicle).trans registered.vehicle,
    (same.cancelEvents _ identifier).trans registered.event,
    (same.tasks _ identifier).trans registered.task, snapshot,
    (same.runs _ identifier).trans found, open', ?_⟩
  rw [same.isSet, same.cancelCalls]
  exact requested

theorem alike_supervisor (s : MissionRunner F) (supervisor : SafetySupervisor F) :
    Alike s { s with supervisor } :=
  ⟨fun _ _ => rfl, fun _ _ => rfl, fun _ _ => rfl, fun _ _ => rfl, rfl, rfl⟩

theorem inside_alike {site : Site} {call : Call F α} :
    (inside run site call).Everywhere Alike (·.run? = some run) :=
  everywhere_zoom (everywhere_anything call) (fun s supervisor _ => alike_supervisor s supervisor)
    fun _ _ => rfl

theorem outside_alike {call : Call F α} {small : SafetySupervisor F → SafetySupervisor F → Prop}
    {may : RunnerAwaited F → Prop} (every : call.Everywhere small fun _ => False) :
    (outside call).Everywhere Alike may :=
  everywhere_zoom every (fun s supervisor _ => alike_supervisor s supervisor) fun _ => False.elim

/-- A phase touches its own run alone. -/
theorem entered_elsewhere {runId message : String} {target : MissionPhase}
    {snapshot : MissionRunSnapshot F} {events : List (MissionRunEvent F)} :
    Elsewhere (· = runId) (fun _ => False) s
      (s.entered clock runId target message snapshot events) where
  runs _ apart := Dict.get?_insert_of_ne s.runs _ (Ne.symm apart)
  cancelEvents _ _ := rfl
  tasks _ _ := rfl
  vehicleRuns _ _ := rfl
  isSet := rfl
  cancelCalls := rfl

/-- Nor does a phase take a run from the tables. -/
theorem registered_of_entered (registered : run.Registered s) {runId message : String}
    {target : MissionPhase} {snapshot : MissionRunSnapshot F} {events : List (MissionRunEvent F)}
    (found : s.runs.get? runId = some snapshot) :
    run.Registered (s.entered clock runId target message snapshot events) := by
  by_cases own : run.runId = runId
  · obtain ⟨held, found', open', requested⟩ := registered.snapshot
    rw [own, found] at found'
    cases found'
    refine ⟨registered.vehicle, registered.event, registered.task, { snapshot with phase := target },
      ?_, open', requested⟩
    rw [own]
    exact Dict.get?_insert_self s.runs runId _
  · exact registered_of_elsewhere registered entered_elsewhere own id

end Elsewhere

section Contract

/-- What a segment of an active run has kept since it began: if it began with the call, the call
got to the tables and found its vehicle free. -/
structure Carried (registry : MissionRegistry F) (request : RunRequest) (run : RunHandle)
    (first : Begun F) (s : MissionRunner F) : Prop where
  runId : run.runId = request.runId
  vehicleId : run.vehicleId = request.vehicleId
  admitted : first.resumed = none → reaches registry request first.state = true ∧
    first.state.vehicleRuns.get? request.vehicleId = none
  elsewhere : Elsewhere (· = run.runId) (· = run.vehicleId) first.state s
  registered : run.Registered s

/-- What a segment has done to the tables since it began. -/
def Tabled (registry : MissionRegistry F) (label : Operation F) (first : Begun F)
    (s : MissionRunner F) : Prop :=
  match label with
  | .run request => Elsewhere
      (fun id => id = request.runId ∧
        (first.resumed = none → reaches registry request first.state = true))
      (fun vehicleId => vehicleId = request.vehicleId ∧
        (first.resumed = none → first.state.vehicleRuns.get? request.vehicleId = none))
      first.state s
  | .cancel runId => ∀ run : RunHandle, run.Registered first.state → run.Registered s ∧
      (run.runId = runId → run.cancelEvent ∈ s.isSet ∧ run.task ∈ s.cancelCalls)
  | _ => ∀ run : RunHandle, run.Registered first.state → run.Registered s

/-- What the segments of every call do to the tables. -/
def runContract (registry : MissionRegistry F) : Contract (Operation F) (MissionRunner F)
    (RunnerAwaited F) RunnerReply (Raised F) (Returned F) (Begun F) :=
  .ofBegun (fun _ _ => True)
    (fun label on _ later => match label with
      | .run _ => ∀ run, on.run? = some run → run.Registered later
      | _ => True)
    (fun label first on s => Tabled registry label first s ∧ match label with
      | .run request => ∃ run, on.run? = some run ∧ Carried registry request run first s
      | .cancel _ | .phase .. => False
      | .supervisor _ => True)
    fun label first _ s => Tabled registry label first s

theorem Carried.tabled {first : Begun F} (carried : Carried registry request run first s)
    (same : Elsewhere (· = run.runId) (· = run.vehicleId) s d) :
    Tabled registry (.run request) first d :=
  (carried.elsewhere.trans same).mono
    (fun _ own => ⟨own.trans carried.runId, fun called => (carried.admitted called).1⟩)
    fun _ own => ⟨own.trans carried.vehicleId, fun called => (carried.admitted called).2⟩

theorem Carried.alike {first : Begun F} (carried : Carried registry request run first s)
    (same : Alike s d) : Carried registry request run first d where
  runId := carried.runId
  vehicleId := carried.vehicleId
  admitted := carried.admitted
  elsewhere := carried.elsewhere.trans (same.mono (fun _ => False.elim) fun _ => False.elim)
  registered := registered_of_elsewhere carried.registered same id id

variable (clock registry) in
/-- The parts of an active run keep it in the tables. -/
theorem carriedParts (identifier : run.runId = request.runId)
    (vehicle : run.vehicleId = request.vehicleId) :
    Parts clock run (Carried registry request run) (fun _ on => on.run? = some run)
      fun on _ reply later resumed => resumed = ⟨some ⟨on, reply⟩, later⟩ ∧
        ∀ run, on.run? = some run → run.Registered later := by
  have starts {on : RunnerAwaited F} {reply : RunnerReply on} {later : MissionRunner F}
      (registered : run.Registered later) :
      Carried registry request run ⟨some ⟨on, reply⟩, later⟩ later :=
    ⟨identifier, vehicle, fun called => (by cases called), .refl _, registered⟩
  have keeps {α : Type} {c : RunnerCall F α} (alike : c.Everywhere Alike (·.run? = some run)) :
      Steady (Carried registry request run) (fun _ on => on.run? = some run)
        (fun on _ reply later resumed => resumed = ⟨some ⟨on, reply⟩, later⟩ ∧
          ∀ run, on.run? = some run → run.Registered later) c := by
    refine alike.keeps (fun first s s' carried _ same => ⟨carried.alike same, trivial⟩)
      (fun _ _ _ own _ => own) ?_
    rintro first on s reply later resumed own ⟨rfl, registered⟩ _ _
    exact ⟨starts (registered run own), trivial⟩
  refine ⟨?_, fun _ _ _ => keeps inside_alike, fun _ still => keeps (outside_alike still),
    keeps (outside_alike claimControl_silent), ?_⟩
  · intro α on result own
    refine Keeps.wait (fun _ _ _ => own) ?_
    rintro first s reply later resumed - - ⟨rfl, registered⟩
    exact ⟨starts (registered run own), trivial⟩
  · intro target message first s carried _
    apply phase_meets
    · exact fun _ _ => ⟨carried, trivial⟩
    · intro snapshot events found _
      refine ⟨⟨identifier, vehicle, carried.admitted, carried.elsewhere.trans ?_, ?_⟩, trivial⟩
      · exact entered_elsewhere.mono (fun _ => id) fun _ => False.elim
      · exact registered_of_entered carried.registered found

/-- The last statements touch the run's own entries alone, and wait for nothing. -/
theorem conclude_elsewhere {outcome : Outcome} {may : RunnerAwaited F → Prop} :
    (conclude clock run outcome).Everywhere (Elsewhere (· = run.runId) (· = run.vehicleId)) may := by
  have monotonic_elsewhere : (outside (monotonic clock)).Everywhere
      (Elsewhere (· = run.runId) (· = run.vehicleId)) may :=
    (outside_alike monotonic_still).mono
      (fun _ _ same => same.mono (fun _ => False.elim) fun _ => False.elim) fun _ => id
  have look : (Coroutine.get : RunnerCall F _).Everywhere
      (Elsewhere (· = run.runId) (· = run.vehicleId)) may := everywhere_get .refl
  have listed {α : Type} {table : Dict String α} {key : String} :
      (subscript table key : RunnerCall F α).Everywhere
        (Elsewhere (· = run.runId) (· = run.vehicleId)) may := by
    unfold subscript
    split <;> trivial
  have entries (change : MissionRunner F → MissionRunner F)
      (same : ∀ s, Elsewhere (· = run.runId) (· = run.vehicleId) s (change s)) :
      (Coroutine.modify change : RunnerCall F Unit).Everywhere
        (Elsewhere (· = run.runId) (· = run.vehicleId)) may := everywhere_modify.mpr same
  have phased : (phase clock run.runId .complete ("mission ended " ++ outcome.status.value)).Everywhere
      (Elsewhere (· = run.runId) (· = run.vehicleId)) may := by
    refine look.bind fun _ => listed.bind fun _ => listed.bind fun _ => monotonic_elsewhere.bind
      fun _ => (entries _ fun s => ?_).bind fun _ => entries _ fun s => ?_
    · exact ⟨fun _ _ => rfl, fun _ _ => rfl, fun _ _ => rfl, fun _ _ => rfl, rfl, rfl⟩
    · exact ⟨fun _ apart => Dict.get?_insert_of_ne s.runs _ (Ne.symm apart), fun _ _ => rfl,
        fun _ _ => rfl, fun _ _ => rfl, rfl, rfl⟩
  have result (snapshot : MissionRunSnapshot F) (status : MissionStatus) (reason message : String) :
      (resultOf clock snapshot status reason message).Everywhere
        (Elsewhere (· = run.runId) (· = run.vehicleId)) may :=
    monotonic_elsewhere.bind fun _ => look.bind fun _ => trivial
  refine look.bind fun _ => listed.bind fun current => (result _ _ _ _).bind fun _ => phased.bind
    fun _ => look.bind fun _ => listed.bind fun _ => listed.bind fun _ =>
      (entries _ fun s => ?_).bind fun _ => trivial
  refine ⟨fun id apart => ?_, fun id apart => ?_, fun id apart => ?_, fun id apart => ?_, rfl, rfl⟩
  · exact Dict.get?_insert_of_ne s.runs _ (Ne.symm apart)
  · exact (Dict.get?_erase _ _ _).trans (if_neg (Ne.symm apart))
  · exact (Dict.get?_erase _ _ _).trans (if_neg (Ne.symm apart))
  · exact (Dict.get?_erase _ _ _).trans (if_neg (Ne.symm apart))

section Met

variable {post : Begun F → Except (Raised F) (Returned F) → MissionRunner F → Prop}

variable (registry request) in
abbrev RunMeets {α : Type} (c : RunnerCall F α)
    (post : Begun F → Except (Raised F) α → MissionRunner F → Prop) (first : Begun F)
    (s : MissionRunner F) : Prop :=
  c.Meets ((runContract registry).rel (.run request)) ((runContract registry).ready (.run request))
    post first s

theorem runMeets_of_steady {c : RunnerCall F α} {first : Begun F}
    {post : Begun F → Except (Raised F) α → MissionRunner F → Prop}
    (steady : Steady (Carried registry request run) (fun _ on => on.run? = some run)
      (fun on _ reply later resumed => resumed = ⟨some ⟨on, reply⟩, later⟩ ∧
        ∀ run, on.run? = some run → run.Registered later) c)
    (carried : Carried registry request run first s)
    (next : ∀ first result s, Carried registry request run first s → post first result s) :
    RunMeets registry request c post first s := by
  refine (steady first s carried trivial).weaken ?_ fun first result s ended =>
    next first result s ended.1
  rintro first on s ⟨carried, own⟩
  exact ⟨carried.tabled (.refl _), run, own, carried⟩

/-- A run that has just entered the tables keeps its contract to its end. -/
theorem active_meets {first : Begun F} (carried : Carried registry request run first s) :
    RunMeets registry request (active clock run mission request)
      (fun first _ s => Tabled registry (.run request) first s) first s := by
  have parts := carriedParts clock registry carried.runId carried.vehicleId
  unfold active
  refine meets_bind.mpr (runMeets_of_steady (parts.looks _ session_still) carried ?_)
  rintro first (raised | ref) s carried
  · exact carried.tabled (.refl _)
  refine meets_bind.mpr (meets_modify.mpr ?_)
  have authorized : Carried registry request run first
      { s with authorities := s.authorities.insert run.runId request.fleetBinding } :=
    carried.alike ⟨fun _ _ => rfl, fun _ _ => rfl, fun _ _ => rfl, fun _ _ => rfl, rfl, rfl⟩
  refine meets_bind.mpr (runMeets_of_steady parts.attempt authorized ?_)
  rintro first (raised | attempted) s carried
  · exact carried.tabled (.refl _)
  refine meets_bind.mpr (runMeets_of_steady (Steady.ensure ?_ parts.finish) carried ?_)
  · split
    · exact parts.recover
    · exact .done
  rintro first (raised | outcome) s carried
  · exact carried.tabled (.refl _)
  -- the run takes itself out of the tables and waits no more
  have concludes : (conclude clock run outcome).Everywhere
      (Elsewhere (· = run.runId) (· = run.vehicleId)) fun _ => False := conclude_elsewhere
  exact Everywhere.meets concludes .refl (fun _ _ _ => .trans) fun _ _ same => carried.tabled same

omit [PyMath F] in
/-- A snapshot contract checks the identifiers alone. -/
theorem newSnapshot_eq_ok {snapshot result : MissionRunSnapshot F} :
    newSnapshot snapshot = .ok result ↔
      (isIdentifier snapshot.missionRunId = true ∧ isIdentifier snapshot.missionExecutionId = true ∧
        isIdentifier snapshot.missionId = true ∧ isIdentifier snapshot.vehicleId = true) ∧
      snapshot = result := by
  have built : newSnapshot snapshot = .ok result ↔ (validated "MissionRunSnapshot"
      [("mission_run_id", isIdentifier snapshot.missionRunId),
       ("mission_execution_id", isIdentifier snapshot.missionExecutionId),
       ("mission_id", isIdentifier snapshot.missionId),
       ("vehicle_id", isIdentifier snapshot.vehicleId)] snapshot : Except (Fault F) _) =
        .ok result := by
    unfold newSnapshot
    cases validated "MissionRunSnapshot" _ snapshot <;> simp [Except.mapError]
  rw [built, validated_eq_ok]
  simp

theorem reaches_of_snapshot {mode : OperatingMode} {phase : MissionPhase} {started : F}
    {snapshot : MissionRunSnapshot F} (known : registry.get request.missionId = .ok mission)
    (valid : newSnapshot (snapshotFor request mission mode phase started) = .ok snapshot)
    (checks : ∀ raised,
      registry.validate request { s.supervisor with ticks := s.supervisor.ticks + 1 } =
        .error raised → raised.isCrazySwarmError = true) :
    reaches registry request s = true := by
  have named := (newSnapshot_eq_ok.mp valid).1
  have built : newSnapshot (snapshotFor request mission s.supervisor.mode .validating
      (PyFloat.zero : F)) = .ok _ := newSnapshot_eq_ok.mpr ⟨named, rfl⟩
  simp only [reaches, known, built, Except.isOk, Except.toBool, Bool.true_and]
  split
  · next raised failed => exact checks raised failed
  · rfl

/-- A result changes nothing but the clock. -/
theorem resultOf_meets {snapshot : MissionRunSnapshot F} {status : MissionStatus}
    {reasonCode message : String} {first : Begun F}
    {waits : Begun F → RunnerAwaited F → MissionRunner F → Prop}
    {ready : (on : RunnerAwaited F) → MissionRunner F → RunnerReply on → MissionRunner F →
      Begun F → Prop}
    {post : Begun F → Except (Raised F) (MissionResult F) → MissionRunner F → Prop}
    (ends : ∀ result, post first (.ok result)
      { s with supervisor := { s.supervisor with ticks := s.supervisor.ticks + 1 } }) :
    (resultOf clock snapshot status reasonCode message).Meets waits ready post first s :=
  meets_bind.mpr (meets_monotonic.mpr (meets_bind.mpr (meets_get.mpr (ends _))))

/-- A request that is rejected by its checks is recorded under its identifier. -/
theorem validationFailure_meets {started : F} {raised : Raised F}
    (known : registry.get request.missionId = .ok mission) (same : Alike s d)
    (checked : registry.validate request { s.supervisor with ticks := s.supervisor.ticks + 1 } =
      .error raised) (own : raised.isCrazySwarmError = true) :
    RunMeets registry request (validationFailure clock request mission started raised)
      (fun first _ s => Tabled registry (.run request) first s) ⟨none, s⟩ d := by
  refine meets_bind.mpr (meets_get.mpr (meets_bind.mpr (meets_ofResult.mpr ?_)))
  cases built : newSnapshot (snapshotFor request mission d.supervisor.mode .complete started) with
  | error raised => exact same.mono (fun _ => False.elim) fun _ => False.elim
  | ok snapshot =>
    have reached : reaches registry request s = true := by
      refine reaches_of_snapshot known built fun raised' failed => ?_
      rw [checked] at failed
      cases failed
      exact own
    refine meets_bind.mpr (resultOf_meets fun result => meets_bind.mpr (meets_modify.mpr
      (meets_bind.mpr (meets_modify.mpr ?_))))
    refine (same.mono (fun _ => False.elim) fun _ => False.elim).trans
      ⟨fun id apart => ?_, fun _ _ => rfl, fun _ _ => rfl, fun _ _ => rfl, rfl, rfl⟩
    exact Dict.get?_insert_of_ne d.runs _ fun same => apart ⟨same.symm, fun _ => reached⟩

/-- A valid request is rejected if its vehicle has a run, and becomes active otherwise. -/
theorem underGuard_meets {snapshot : MissionRunSnapshot F} (same : Alike s d)
    (identifier : run.runId = request.runId) (vehicle : run.vehicleId = request.vehicleId)
    (named : snapshot.missionRunId = request.runId) (open' : snapshot.result = none)
    (unrequested : snapshot.cancellationRequested = false)
    (reached : reaches registry request s = true) :
    RunMeets registry request (underGuard clock run mission request snapshot)
      (fun first _ s => Tabled registry (.run request) first s) ⟨none, s⟩ d := by
  refine meets_bind.mpr (meets_get.mpr ?_)
  have before := same.vehicleRuns request.vehicleId id
  dsimp only
  split
  · next holder held =>
    unfold conflict
    refine meets_bind.mpr (resultOf_meets fun result => meets_bind.mpr (meets_modify.mpr ?_))
    refine (same.mono (fun _ => False.elim) fun _ => False.elim).trans
      ⟨fun id apart => ?_, fun _ _ => rfl, fun _ _ => rfl, fun _ _ => rfl, rfl, rfl⟩
    refine Dict.get?_insert_of_ne d.runs _ fun same => apart ⟨?_, fun _ => reached⟩
    exact same.symm.trans named
  · next held =>
    unfold register
    refine meets_bind.mpr (meets_modify.mpr (active_meets ⟨identifier, vehicle, fun _ =>
      ⟨reached, before.symm.trans held⟩, ?_, ?_⟩))
    · refine (same.mono (fun _ => False.elim) fun _ => False.elim).trans
        ⟨fun id apart => ?_, fun id apart => ?_, fun id apart => ?_, fun id apart => ?_, rfl, rfl⟩
      · exact Dict.get?_insert_of_ne d.runs _ (Ne.symm apart)
      · exact Dict.get?_insert_of_ne d.cancelEvents _ (Ne.symm apart)
      · exact Dict.get?_insert_of_ne d.tasks _ (Ne.symm apart)
      · exact Dict.get?_insert_of_ne d.vehicleRuns _ (Ne.symm apart)
    · refine ⟨Dict.get?_insert_self d.vehicleRuns _ _, Dict.get?_insert_self d.cancelEvents _ _,
        Dict.get?_insert_self d.tasks _ _, snapshot, Dict.get?_insert_self d.runs _ _, open', ?_⟩
      rw [unrequested]
      nofun

/-- A run call keeps its contract. -/
theorem run_meets : RunMeets registry request (MissionRunner.run clock registry request)
    (fun first _ s => Tabled registry (.run request) first s) ⟨none, s⟩ s := by
  have untouched {s' : MissionRunner F} (same : Alike s s') :
      Tabled registry (.run request) ⟨none, s⟩ s' :=
    same.mono (fun _ => False.elim) fun _ => False.elim
  refine meets_bind.mpr (meets_ofResult.mpr ?_)
  cases known : registry.get request.missionId with
  | error raised => exact untouched (.refl s)
  | ok mission =>
    refine meets_bind.mpr (meets_monotonic.mpr (meets_bind.mpr (meets_newObject.mpr
      (meets_bind.mpr (meets_newObject.mpr (meets_bind.mpr (meets_get.mpr ?_)))))))
    have same : Alike s { s with
        supervisor := { s.supervisor with ticks := s.supervisor.ticks + 1 }
        made := s.made + 1 + 1 } :=
      ⟨fun _ _ => rfl, fun _ _ => rfl, fun _ _ => rfl, fun _ _ => rfl, rfl, rfl⟩
    dsimp only
    split
    · next raised failed =>
      split
      · next own => exact validationFailure_meets known same failed own
      · exact untouched same
    · next checked =>
      refine meets_bind.mpr (meets_ofResult.mpr ?_)
      cases built : newSnapshot (snapshotFor request mission s.supervisor.mode .validating
          (clock.read s.supervisor.ticks)) with
      | error raised => exact untouched same
      | ok snapshot =>
        obtain rfl := (newSnapshot_eq_ok.mp built).2
        refine underGuard_meets same rfl rfl rfl rfl rfl ?_
        refine reaches_of_snapshot known built fun raised failed => ?_
        rw [checked] at failed
        cases failed

theorem meets_getRun {runId : String} {first : Begun F}
    {waits : Begun F → RunnerAwaited F → MissionRunner F → Prop}
    {ready : (on : RunnerAwaited F) → MissionRunner F → RunnerReply on → MissionRunner F →
      Begun F → Prop}
    {post : Begun F → Except (Raised F) (MissionRunSnapshot F) → MissionRunner F → Prop}
    (found : ∀ snapshot, s.runs.get? runId = some snapshot → post first (.ok snapshot) s)
    (missing : ∀ raised, s.runs.get? runId = none → post first (.error raised) s) :
    (getRun runId).Meets waits ready post first s := by
  refine meets_bind.mpr (meets_get.mpr ?_)
  dsimp only
  split
  · next snapshot held => exact found snapshot held
  · next held => exact missing _ held

theorem registered_of_requested {runId : String} {event : Nat} {tasks : List Nat}
    {snapshot : MissionRunSnapshot F} (registered : run.Registered s)
    (found : s.runs.get? runId = some snapshot) (event' : s.cancelEvents.get? runId = some event)
    (cancels : ∀ task, s.tasks.get? runId = some task → task ∈ tasks)
    (keeps : ∀ task ∈ s.cancelCalls, task ∈ tasks) :
    run.Registered { s with
      isSet := s.isSet ++ [event]
      runs := s.runs.insert runId { snapshot with cancellationRequested := true }
      cancelCalls := tasks } ∧
    (run.runId = runId → run.cancelEvent ∈ s.isSet ++ [event] ∧ run.task ∈ tasks) := by
  have own : run.runId = runId → run.cancelEvent ∈ s.isSet ++ [event] ∧ run.task ∈ tasks := by
    rintro rfl
    have same := registered.event.symm.trans event'
    cases same
    exact ⟨by simp, cancels _ registered.task⟩
  obtain ⟨held, found', open', requested⟩ := registered.snapshot
  refine ⟨⟨registered.vehicle, registered.event, registered.task, ?_⟩, own⟩
  by_cases same : run.runId = runId
  · rw [same, found] at found'
    cases found'
    refine ⟨{ snapshot with cancellationRequested := true }, ?_, open', fun _ => own same⟩
    rw [same]
    exact Dict.get?_insert_self s.runs _ _
  · refine ⟨held, ?_, open', fun asked => ?_⟩
    · exact (Dict.get?_insert_of_ne s.runs _ (Ne.symm same)).trans found'
    · obtain ⟨set, called⟩ := requested asked
      exact ⟨List.mem_append_left _ set, keeps _ called⟩

theorem cancel_meets {runId : String} :
    (cancel runId).Meets ((runContract registry).rel (.cancel runId))
      ((runContract registry).ready (.cancel runId))
      (fun first _ s => Tabled registry (.cancel runId) first s) ⟨none, s⟩ s := by
  have missing (lost : s.runs.get? runId = none) : Tabled registry (.cancel runId) ⟨none, s⟩ s := by
    intro run registered
    refine ⟨registered, ?_⟩
    rintro rfl
    obtain ⟨_, found, _⟩ := registered.snapshot
    cases lost.symm.trans found
  refine meets_bind.mpr (meets_getRun (fun snapshot found => ?_) fun raised lost => missing lost)
  dsimp only
  split
  · next ended =>
    intro run registered
    refine ⟨registered, ?_⟩
    rintro rfl
    obtain ⟨held, found', open', requested⟩ := registered.snapshot
    cases found.symm.trans found'
    simp only [open', Option.isSome_none, Bool.false_or] at ended
    exact requested ended
  · refine meets_bind.mpr (meets_get.mpr ?_)
    refine meets_bind.mpr (meets_subscript (fun cancelEvent event => ?_) fun raised event => ?_)
    · refine meets_bind.mpr (meets_modify.mpr (meets_bind.mpr (meets_modify.mpr (meets_bind.mpr
        (meets_get.mpr ?_)))))
      dsimp only
      split
      · next task cancelled =>
        have cancels : ∀ other, s.tasks.get? runId = some other → other ∈ s.cancelCalls ++ [task] := by
          intro other held
          cases cancelled.symm.trans held
          simp
        refine meets_bind.mpr (meets_modify.mpr (meets_getRun (fun _ _ => ?_) fun _ _ => ?_))
        all_goals
          exact fun run registered => registered_of_requested registered found event cancels
            fun _ called => List.mem_append_left _ called
      · next lost =>
        have cancels : ∀ other, s.tasks.get? runId = some other → other ∈ s.cancelCalls := by
          intro other held
          cases lost.symm.trans held
        refine meets_bind.mpr (meets_returns.mpr (meets_getRun (fun _ _ => ?_) fun _ _ => ?_))
        all_goals
          exact fun run registered => registered_of_requested registered found event cancels
            fun _ => id
    · intro run registered
      refine ⟨registered, ?_⟩
      rintro rfl
      cases event.symm.trans registered.event

end Met

variable (clock registry) in
/-- Every call keeps its contract. -/
theorem runContract_met : (runContract registry).Met (program clock registry) := by
  rintro label s first ⟨rfl, -⟩
  cases label with
  | run request =>
    refine meets_bind.mpr (run_meets.mono ?_)
    rintro first (raised | result) s tabled <;> exact tabled
  | cancel runId =>
    refine meets_bind.mpr (cancel_meets.mono ?_)
    rintro first (raised | snapshot) s tabled <;> exact tabled
  | phase runId target message =>
    refine meets_bind.mpr (phase_meets (fun _ _ _ => id) fun snapshot events found _ => ?_)
    exact fun run registered => registered_of_entered registered found
  | supervisor operation =>
    have alike : (outside (SafetySupervisor.program clock operation)).Everywhere Alike
        (fun _ : RunnerAwaited F => True) :=
      everywhere_zoom (everywhere_anything _) (fun s supervisor _ => alike_supervisor s supervisor)
        fun _ _ => trivial
    have keeps : (outside (SafetySupervisor.program clock operation)).Keeps
        (Tabled registry (.supervisor operation)) (fun _ _ => True)
        ((runContract registry).ready (.supervisor operation)) (fun _ _ => True)
        fun _ _ _ => True := by
      refine alike.keeps ?_ (fun _ _ _ _ _ => trivial) ?_
      · exact fun first s s' tabled _ same => ⟨fun run registered =>
          registered_of_elsewhere (tabled run registered) same id id, trivial⟩
      · rintro first on s reply later resumed - ⟨rfl, -⟩ - -
        exact ⟨fun run => id, trivial⟩
    refine meets_bind.mpr ((keeps ⟨none, s⟩ s (fun run => id) trivial).mono ?_)
    rintro first (raised | value) s ⟨tabled, -⟩ <;> exact tabled

end Contract

section Invariant

/-- Between any two turns every active run is in the tables, and no two have an identifier or a
vehicle in common. -/
structure Exclusive (registry : MissionRegistry F) (loop : Loop F) : Prop where
  sound : loop.Sound (runContract registry)
  registered : ∀ task run, Active loop task run → run.Registered loop.state
  apart : ∀ task run other run', Active loop task run → Active loop other run' → task ≠ other →
    run.runId ≠ run'.runId ∧ run.vehicleId ≠ run'.vehicleId

theorem active_iff {task : Nat} : Active loop task run ↔ ∃ request since on next,
    loop.tasks[task]? = some ⟨.run request, since, .wait on next⟩ ∧ on.run? = some run := by
  constructor
  · intro active
    obtain ⟨⟨label, since, rest⟩, found, handle⟩ := Option.bind_eq_some_iff.mp active
    unfold handleOf at handle
    split at handle
    · next suspended =>
      cases suspended
      exact ⟨_, _, _, _, found, handle⟩
    · cases handle
  · rintro ⟨request, since, on, next, found, own⟩
    exact Option.bind_eq_some_iff.mpr ⟨_, found, own⟩

theorem active_of_suspended (sound : loop.Sound (runContract registry)) {task : Nat}
    {since : MissionRunner F} {on : RunnerAwaited F}
    {next : RunnerReply on → RunnerCall F (Returned F)}
    (found : loop.tasks[task]? = some ⟨.run request, since, .wait on next⟩) :
    ∃ run, on.run? = some run ∧ run.runId = request.runId ∧ run.vehicleId = request.vehicleId := by
  obtain ⟨first, suspended, -⟩ := sound _ (List.mem_of_getElem? found)
  obtain ⟨-, run, own, carried⟩ := suspended
  exact ⟨run, own, carried.runId, carried.vehicleId⟩

variable (clock) in
theorem run_admitted (exclusive : Exclusive registry loop) (turn : Turn F) :
    loop.Admitted (program clock registry) (runContract registry) turn := by
  apply admitted_ofBegun
  · exact fun _ _ => trivial
  · rintro task reply rfl label since on next found
    cases label with
    | run request =>
      exact fun run own => exclusive.registered task run
        (active_iff.mpr ⟨request, since, on, next, found, own⟩)
    | _ => trivial

/-- What the contract promises of a turn. -/
theorem tabled_of_moved (exclusive : Exclusive registry loop) {label : Operation F}
    {before after : MissionRunner F} {rest : RunnerCall F (Returned F)}
    (moves : moved (program clock registry) loop turn = some (label, before, after, rest)) :
    Tabled registry label (loop.begun turn) after ∧ ∀ request on next, label = .run request →
      rest = .wait on next → ∃ run, on.run? = some run ∧
        Carried registry request run (loop.begun turn) after := by
  have admitted := run_admitted clock exclusive turn
  have kept := (step_sound (runContract_met clock registry) exclusive.sound admitted).1
  have promises := promises_begun admitted kept moves
  cases rest with
  | done result => exact ⟨promises, fun _ _ _ _ same => by cases same⟩
  | act change next => exact promises.elim
  | wait on next =>
    refine ⟨promises.1, ?_⟩
    rintro request _ _ rfl same
    cases same
    exact promises.2

theorem apart_of_moved (exclusive : Exclusive registry loop) (fresh : Fresh registry loop turn)
    {before after : MissionRunner F} {rest : RunnerCall F (Returned F)}
    (moves : moved (program clock registry) loop turn = some (.run request, before, after, rest))
    {task : Nat} (active : Active loop task run) (elsewhere : task ≠ loop.index turn) :
    (((loop.begun turn).resumed = none → reaches registry request loop.state = true) →
      run.runId ≠ request.runId) ∧
    (((loop.begun turn).resumed = none → loop.state.vehicleRuns.get? request.vehicleId = none) →
      run.vehicleId ≠ request.vehicleId) := by
  rcases moved_cases moves with rfl | ⟨since, on, next, reply, found, resumed⟩
  · constructor
    · intro reached
      obtain ⟨suspended, held, handle⟩ := Option.bind_eq_some_iff.mp active
      exact fresh (reached rfl) run (List.mem_filterMap.mpr
        ⟨suspended, List.mem_of_getElem? held, handle⟩)
    · intro free same
      have vehicle := (exclusive.registered task run active).vehicle
      rw [same, free rfl] at vehicle
      cases vehicle
  · obtain ⟨own, handle, identifier, vehicle⟩ := active_of_suspended exclusive.sound found
    have moving : Active loop (loop.index turn) own :=
      active_iff.mpr ⟨request, since, on, next, found, handle⟩
    obtain ⟨ids, vehicles⟩ := exclusive.apart task run _ own active moving elsewhere
    exact ⟨fun _ => identifier ▸ ids, fun _ => vehicle ▸ vehicles⟩

theorem registered_of_moved (exclusive : Exclusive registry loop)
    (fresh : Fresh registry loop turn) {label : Operation F} {before after : MissionRunner F}
    {rest : RunnerCall F (Returned F)}
    (moves : moved (program clock registry) loop turn = some (label, before, after, rest))
    {task : Nat} (active : Active loop task run) (elsewhere : task ≠ loop.index turn) :
    run.Registered after := by
  obtain ⟨tabled, -⟩ := tabled_of_moved exclusive moves
  have registered : run.Registered (loop.begun turn).state :=
    begun_state loop turn ▸ exclusive.registered task run active
  cases label with
  | run request =>
    obtain ⟨ids, vehicles⟩ := apart_of_moved exclusive fresh moves active elsewhere
    rw [← begun_state loop turn] at ids vehicles
    exact registered_of_elsewhere registered tabled (fun own => ids own.2 own.1)
      fun own => vehicles own.2 own.1
  | cancel runId => exact (tabled run registered).1
  | phase runId target message => exact tabled run registered
  | supervisor operation => exact tabled run registered

/-- Active after a turn is the run that it left suspended, and whoever else was before. -/
theorem active_of_step (exclusive : Exclusive registry loop) {label : Operation F}
    {before after : MissionRunner F} {rest : RunnerCall F (Returned F)}
    (moves : moved (program clock registry) loop turn = some (label, before, after, rest))
    {task : Nat} (active : Active (step clock registry loop turn) task run) :
    (task = loop.index turn ∧ ∃ request, label = .run request ∧
      Carried registry request run (loop.begun turn) after) ∨
    (task ≠ loop.index turn ∧ Active loop task run) := by
  by_cases own : task = loop.index turn
  · left
    subst own
    obtain ⟨request, since, on, next, found, handle⟩ := active_iff.mp active
    rw [step, step_index moves] at found
    cases found
    obtain ⟨run', handle', carried⟩ := (tabled_of_moved exclusive moves).2 request on next rfl rfl
    cases handle.symm.trans handle'
    exact ⟨rfl, request, rfl, carried⟩
  · right
    rw [Active, step, step_other _ own] at active
    exact ⟨own, active⟩

variable (clock) in
theorem step_exclusive (exclusive : Exclusive registry loop) (fresh : Fresh registry loop turn) :
    Exclusive registry (step clock registry loop turn) := by
  have sound := (step_sound (runContract_met clock registry) exclusive.sound
    (run_admitted clock exclusive turn)).2
  cases moves : moved (program clock registry) loop turn with
  | none => rwa [step, step_idle moves]
  | some ended =>
    obtain ⟨label, before, after, rest⟩ := ended
    have state : (step clock registry loop turn).state = after := by
      rw [step, step_state, moves]
      rfl
    refine ⟨sound, ?_, ?_⟩
    · intro task run active
      rw [state]
      rcases active_of_step exclusive moves active with ⟨-, request, -, carried⟩ | ⟨other, active⟩
      · exact carried.registered
      · exact registered_of_moved exclusive fresh moves active other
    · -- the run that moved against another one
      have against {request : RunRequest} {own run : RunHandle} {task : Nat}
          (same : label = .run request)
          (carried : Carried registry request own (loop.begun turn) after)
          (active : Active loop task run) (other : task ≠ loop.index turn) :
          run.runId ≠ own.runId ∧ run.vehicleId ≠ own.vehicleId := by
        subst same
        have admitted := carried.admitted
        rw [begun_state] at admitted
        obtain ⟨ids, vehicles⟩ := apart_of_moved exclusive fresh moves active other
        rw [carried.runId, carried.vehicleId]
        exact ⟨ids fun called => (admitted called).1, vehicles fun called => (admitted called).2⟩
      intro task run other run' active active' apart
      rcases active_of_step exclusive moves active with ⟨same, request, call, carried⟩ | ⟨aside, held⟩
      · rcases active_of_step exclusive moves active' with ⟨same', -⟩ | ⟨aside', held'⟩
        · exact absurd (same.trans same'.symm) apart
        · obtain ⟨ids, vehicles⟩ := against call carried held' aside'
          exact ⟨ids.symm, vehicles.symm⟩
      · rcases active_of_step exclusive moves active' with ⟨-, request, call, carried⟩ | ⟨-, held'⟩
        · exact against call carried held aside
        · exact exclusive.apart task run other run' held held' apart

/-- What the invariant gives for one turn. -/
theorem exclusive_turn (exclusive : Exclusive registry loop) (fresh : Fresh registry loop turn) :
    RunExclusive clock registry loop turn := by
  have after := step_exclusive clock exclusive fresh
  refine ⟨fun task request since on next found => active_of_suspended after.sound found,
    fun task run active => (after.registered task run active).vehicle, ?_, ?_, ?_⟩
  · intro task run other run' active active' same
    by_contra apart
    exact (after.apart task run other run' active active' apart).2 same
  · rintro request before after result rfl moves - task run active
    obtain ⟨tabled, -⟩ := tabled_of_moved exclusive moves
    obtain rfl := moved_before moves
    have other : task ≠ loop.index (.call (.run request) : Turn F) := by
      obtain ⟨_, found, -⟩ := Option.bind_eq_some_iff.mp active
      exact Nat.ne_of_lt (List.getElem?_eq_some_iff.mp found).1
    obtain ⟨ids, -⟩ := apart_of_moved exclusive fresh moves active other
    have apart : ¬(run.runId = request.runId ∧ ((loop.begun (.call (.run request))).resumed = none →
        reaches registry request loop.state = true)) := fun own => ids own.2 own.1
    exact ⟨tabled.runs _ apart, tabled.cancelEvents _ apart, tabled.tasks _ apart⟩
  · rintro runId task run rfl active same
    have moves : moved (program clock registry) loop (.call (.cancel runId)) =
      some (_, _, _, _) := rfl
    obtain ⟨tabled, -⟩ := tabled_of_moved exclusive moves
    exact (tabled run (exclusive.registered task run active)).2 same

/-- In every run whose run calls name no active run, however they interleave and whatever they
wait for, runs are exclusive: a vehicle has one active run, a rejected run leaves the others and
a cancellation stops the run it names. -/
theorem run_exclusive (clock : MonotonicClock F) (registry : MissionRegistry F)
    (policy : SafetyPolicy F) (turns : List (Turn F))
    (fresh : Runs.Along (step clock registry) (Fresh registry) (initial policy) turns) :
    Runs.Along (step clock registry) (RunExclusive clock registry) (initial policy) turns := by
  have start : Exclusive registry (initial policy) := by
    have idle (task : Nat) (run : RunHandle) : ¬Active (initial policy) task run := nofun
    exact ⟨fun _ member => absurd member List.not_mem_nil,
      fun task run active => absurd active (idle task run),
      fun task run _ _ active => absurd active (idle task run)⟩
  exact Runs.along_of_invariant (fun _ _ => step_exclusive clock) (fun _ _ => exclusive_turn) start fresh

end Invariant

section Instances

/-- One mission whose requests all pass the checks. -/
def surveys : MissionRegistry ℚ where
  missions := .ofList [("survey", ⟨"survey", "Survey", "1", []⟩)]
  validate _ _ := .ok ()

def enrols : Turn ℚ :=
  .call (.supervisor (.registerVehicle ⟨⟨"cf01"⟩, ⟨.simulation, true⟩, [.arming]⟩))

def starts (runId : String) : Turn ℚ :=
  .call (.run { missionId := "survey", vehicleId := "cf01", missionRunId := some runId })

/-- A second run of the vehicle is rejected, and the first is cancelled while it connects. -/
theorem run_exclusive_conflict :
    Runs.Along (step secondsClock surveys) (RunExclusive secondsClock surveys)
      (initial .exactDefault) [enrols, starts "first", starts "second", .call (.cancel "first")] :=
  run_exclusive secondsClock surveys .exactDefault _ (by decide)

/-- A run rejected under the identifier of the active run takes the place of its snapshot, and
the cancellation finds a run that has ended. -/
theorem rejected_run_shadows_active :
    ¬ Runs.Along (step secondsClock surveys) (RunExclusive secondsClock surveys)
      (initial .exactDefault)
      ([enrols, starts "first", starts "first"] ++ [.call (.cancel "first")]) := by
  intro along
  have last := (Runs.Along.append.mp along).2.1
  have active : Active (Runs.run (step secondsClock surveys) (initial .exactDefault)
      [enrols, starts "first", starts "first"]) 1 ⟨"first", "cf01", 0, 1⟩ := by
    unfold Active
    decide
  have unset : (step secondsClock surveys (Runs.run (step secondsClock surveys)
      (initial .exactDefault) [enrols, starts "first", starts "first"])
        (.call (.cancel "first"))).state.isSet = [] := by
    decide
  have stopped := (last.stops "first" 1 _ rfl active rfl).1
  rw [unset] at stopped
  exact absurd stopped List.not_mem_nil

end Instances

end MissionRunner

end CrazySwarm
