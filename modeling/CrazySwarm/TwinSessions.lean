import CrazySwarm.TwinCoordinator

/-! What the sessions of a twin keep over every interleaving of their calls: the acknowledgements
of the intents, the accepted observations, and the status that a session has ended with. -/
namespace CrazySwarm
namespace TwinCoordinator
open Coroutine EventLoop

variable {F : Type} [PyAngle F]

abbrev Loop (F : Type) :=
  EventLoop (Operation F) (TwinCoordinator F) TwinWait (TwinReply F) (AdapterRaised F) (Answer F)

abbrev Task (F : Type) :=
  EventLoop.Task (Operation F) (TwinCoordinator F) TwinWait (TwinReply F) (AdapterRaised F) (Answer F)

section Statement

def opened (requests : List (String × F × TwinSessionConfig F)) : TwinCoordinator F :=
  requests.foldl (fun s request => (s.createSession request.1 request.2.1 request.2.2).1) {}

def granted (sessionId : String) : Operation F → Except (AdapterRaised F) (Answer F) →
    List (TwinIntentAcknowledgement F)
  | .routeIntent target _, .ok (.acknowledged observed simulated) =>
    if target = sessionId then [observed, simulated] else []
  | _, _ => []

def accepted (sessionId : String) : Operation F → Except (AdapterRaised F) (Answer F) →
    List (TwinDeviation F)
  | .addObservations target _ _, .ok (.deviation deviation) =>
    if target = sessionId then [deviation] else []
  | _, _ => []

def entries {β : Type} (of : Operation F → Except (AdapterRaised F) (Answer F) → List β)
    (task : Task F) : List β :=
  match task.rest with
  | .done result => of task.label result
  | _ => []

def closed (s : TwinCoordinator F) (sessionId : String) : Bool :=
  (s.sessions.get? sessionId).any (·.record.status ∈ [TwinSessionStatus.complete, .failed])

def StaysClosed (a b : TwinCoordinator F) : Prop :=
  ∀ sessionId, a.closed sessionId = true → b.closed sessionId = true

def timely (s : TwinCoordinator F) : Operation F → Bool
  | .routeIntent sessionId intent => (s.sessions.get? sessionId).all fun session =>
      intent.toTwinArtifact != session.config.toTwinArtifact || !s.closed sessionId
  | _ => true

/-- The record of a session has the acknowledgements of the intents that have returned, and counts
the observations that have been accepted. -/
def Accounted (loop : Loop F) : Prop :=
  ∀ sessionId session, loop.state.sessions.get? sessionId = some session →
    session.record.intentAcknowledgements.Perm (loop.tasks.flatMap (entries (granted sessionId))) ∧
    session.record.deviationCount = (loop.tasks.flatMap (entries (accepted sessionId))).length

end Statement

section Books

def acknowledgements (s : TwinCoordinator F) (sessionId : String) :
    List (TwinIntentAcknowledgement F) :=
  ((s.sessions.get? sessionId).map (·.record.intentAcknowledgements)).getD []

def deviations (s : TwinCoordinator F) (sessionId : String) : List (TwinDeviation F) :=
  ((s.sessions.get? sessionId).map (·.deviations)).getD []

/-- The count of a session is that of its deviations. -/
def Counted (s : TwinCoordinator F) : Prop :=
  ∀ sessionId session, s.sessions.get? sessionId = some session →
    session.record.deviationCount = session.deviations.length

structure Books (a b : TwinCoordinator F)
    (gained : String → List (TwinIntentAcknowledgement F))
    (deviated : String → List (TwinDeviation F)) : Prop where
  sessions : ∀ sessionId, (b.sessions.get? sessionId).isSome = (a.sessions.get? sessionId).isSome
  acknowledgements : ∀ sessionId,
    b.acknowledgements sessionId = a.acknowledgements sessionId ++ gained sessionId
  deviations : ∀ sessionId, b.deviations sessionId = a.deviations sessionId ++ deviated sessionId
  counted : a.Counted → b.Counted

variable {s : TwinCoordinator F} {sessionId : String} {session : TwinSession F}
  {change : TwinSession F → TwinSession F}

omit [PyAngle F] in
theorem Books.refl (s : TwinCoordinator F) : Books s s (fun _ => []) fun _ => [] where
  sessions _ := rfl
  acknowledgements _ := (List.append_nil _).symm
  deviations _ := (List.append_nil _).symm
  counted := id

omit [PyAngle F] in
theorem get?_update (found : s.sessions.get? sessionId = some session) (other : String) :
    (s.update sessionId change).sessions.get? other =
      if sessionId = other then some (change session) else s.sessions.get? other := by
  simp only [update, found]
  exact Dict.get?_insert _ _ _ _

omit [PyAngle F] in
/-- A change of one session object enters what it appends under that session alone. -/
theorem update_books (found : s.sessions.get? sessionId = some session)
    {added : List (TwinIntentAcknowledgement F)} {further : List (TwinDeviation F)}
    (acknowledged : (change session).record.intentAcknowledgements =
      session.record.intentAcknowledgements ++ added)
    (deviated : (change session).deviations = session.deviations ++ further)
    (counts : session.record.deviationCount = session.deviations.length →
      (change session).record.deviationCount = (change session).deviations.length) :
    Books s (s.update sessionId change) (fun other => if sessionId = other then added else [])
      (fun other => if sessionId = other then further else []) := by
  constructor
  · intro other
    rw [get?_update found]
    by_cases same : sessionId = other
    · subst same
      simp [found]
    · simp [same]
  · intro other
    rw [acknowledgements, get?_update found]
    by_cases same : sessionId = other
    · subst same
      simp [acknowledgements, found, acknowledged]
    · simp [acknowledgements, same]
  · intro other
    rw [deviations, get?_update found]
    by_cases same : sessionId = other
    · subst same
      simp [deviations, found, deviated]
    · simp [deviations, same]
  · intro counted other changed now
    rw [get?_update found] at now
    by_cases same : sessionId = other
    · simp only [same, if_true, Option.some.injEq] at now
      exact now ▸ counts (counted _ _ found)
    · simp only [same, if_false] at now
      exact counted _ _ now

omit [PyAngle F] in
theorem setStatus_books (found : s.sessions.get? sessionId = some session)
    (status : TwinSessionStatus) :
    Books s (s.update sessionId (setStatus status)) (fun _ => []) (fun _ => []) := by
  have books : Books s (s.update sessionId (setStatus status)) _ _ :=
    update_books found (List.append_nil _).symm (List.append_nil _).symm fun same => same
  simpa only [ite_self] using books

omit [PyAngle F] in
theorem acknowledge_books (found : s.sessions.get? sessionId = some session)
    (added : List (TwinIntentAcknowledgement F)) :
    Books s (s.update sessionId (acknowledge added))
      (fun other => if sessionId = other then added else []) (fun _ => []) := by
  have books : Books s (s.update sessionId (acknowledge added)) _ _ :=
    update_books found rfl (List.append_nil _).symm fun same => same
  simpa only [ite_self] using books

omit [PyAngle F] in
theorem deviate_books (found : s.sessions.get? sessionId = some session)
    (deviation : TwinDeviation F) :
    Books s (s.update sessionId (deviate deviation)) (fun _ => [])
      (fun other => if sessionId = other then [deviation] else []) := by
  have books : Books s (s.update sessionId (deviate deviation)) _ _ :=
    update_books found (List.append_nil _).symm rfl fun _ => rfl
  simpa only [ite_self] using books

omit [PyAngle F] in
theorem update_staysClosed (found : s.sessions.get? sessionId = some session)
    (ends : session.record.status ∈ [TwinSessionStatus.complete, .failed] →
      (change session).record.status ∈ [TwinSessionStatus.complete, .failed]) :
    StaysClosed s (s.update sessionId change) := by
  intro other before
  rw [closed, get?_update found]
  by_cases same : sessionId = other
  · subst same
    simp only [closed, found, Option.any_some, decide_eq_true_eq] at before
    simpa using ends before
  · rw [if_neg same]
    exact before

end Books

section Segments

abbrev Beginning (F : Type) := Begun (TwinCoordinator F) TwinWait (TwinReply F)

/-- A segment that starts a timely call, or ends a wait, reopens no session. -/
def Reopens (operation : Operation F) (begun : Beginning F) (s : TwinCoordinator F) : Prop :=
  (begun.resumed = none → begun.state.timely operation = true) → StaysClosed begun.state s

/-- An intent waits only while its session is there. -/
def Present (operation : Operation F) (s : TwinCoordinator F) : Prop :=
  ∀ sessionId intent, operation = .routeIntent sessionId intent →
    (s.sessions.get? sessionId).isSome = true

/-- What every segment adds to the books. -/
def sessionContract : Contract (Operation F) (TwinCoordinator F) TwinWait (TwinReply F)
    (AdapterRaised F) (Answer F) (Beginning F) :=
  .ofBegun (fun _ _ => True)
    (fun operation _ since later => Present operation since → Present operation later)
    (fun operation begun _ s => Books begun.state s (fun _ => []) (fun _ => []) ∧
      Reopens operation begun s ∧ Present operation s)
    (fun operation begun result s => Books begun.state s (fun sessionId => granted sessionId operation result)
      (fun sessionId => accepted sessionId operation result) ∧ Reopens operation begun s)

variable {s : TwinCoordinator F} {begun : Beginning F}

omit [PyAngle F] in
theorem staysClosed_refl (s : TwinCoordinator F) : StaysClosed s s := fun _ => id

omit [PyAngle F] in
/-- A call that raises leaves the coordinator as it is. -/
theorem raised_post (operation : Operation F) (begun : Beginning F) (raised : AdapterRaised F) :
    sessionContract.post operation begun (.error raised) begun.state := by
  have none (sessionId : String) : granted sessionId operation (.error raised) = [] ∧
      accepted sessionId operation (.error raised) = [] := by
    cases operation <;> exact ⟨rfl, rfl⟩
  refine ⟨?_, fun _ => staysClosed_refl _⟩
  simp only [none]
  exact Books.refl _

theorem routeIntent_meets (sessionId : String) (intent : CanonicalMissionIntent) :
    (program (.routeIntent sessionId intent)).Meets (sessionContract.rel (.routeIntent sessionId intent))
      (sessionContract.ready (.routeIntent sessionId intent))
      (sessionContract.post (.routeIntent sessionId intent)) ⟨none, s⟩ s := by
  rw [program, meets_bind, routeIntent, meets_bind, meets_get]
  dsimp only
  cases found : s.sessions.get? sessionId with
  | none => exact raised_post _ ⟨none, s⟩ _
  | some session =>
    dsimp only
    split
    · exact raised_post _ ⟨none, s⟩ _
    · next fits =>
      have activated := setStatus_books found .active
      rw [meets_bind, meets_modify]
      refine ⟨⟨activated, ?_, ?_⟩, ?_⟩
      · intro timely other before
        rw [closed, get?_update found]
        by_cases same : sessionId = other
        · subst same
          have agrees : intent.toTwinArtifact = session.config.toTwinArtifact := by simpa using fits
          have open_ := timely rfl
          simp [TwinCoordinator.timely, found, agrees, show s.closed sessionId = true from before] at open_
        · rw [if_neg same]
          exact before
      · rintro _ _ ⟨⟩
        rw [activated.sessions, found]
        rfl
      · rintro reply later _ ⟨rfl, stays⟩
        cases reply with
        | error raised => exact raised_post _ _ _
        | ok runs =>
          have there : (later.sessions.get? sessionId).isSome = true := by
            refine stays ?_ sessionId intent rfl
            rintro _ _ ⟨⟩
            rw [activated.sessions, found]
            rfl
          obtain ⟨current, now⟩ := Option.isSome_iff_exists.mp there
          constructor
          · exact acknowledge_books now _
          · exact fun _ => update_staysClosed now id

theorem addObservations_meets (sessionId : String) (observed simulated : TwinObservation F) :
    (program (.addObservations sessionId observed simulated)).Meets
      (sessionContract.rel (.addObservations sessionId observed simulated))
      (sessionContract.ready (.addObservations sessionId observed simulated))
      (sessionContract.post (.addObservations sessionId observed simulated)) ⟨none, s⟩ s := by
  rw [program, meets_bind, addObservations, meets_bind, meets_get]
  dsimp only
  cases found : s.sessions.get? sessionId with
  | none => exact raised_post _ ⟨none, s⟩ _
  | some session =>
    dsimp only
    cases compared : compare session observed simulated with
    | error raised => exact raised_post _ ⟨none, s⟩ _
    | ok deviation =>
      constructor
      · exact deviate_books found deviation
      · exact fun _ => update_staysClosed found id

theorem complete_meets (sessionId : String) (failed : Bool) :
    (program (.complete sessionId failed : Operation F)).Meets
      (sessionContract.rel (.complete sessionId failed))
      (sessionContract.ready (.complete sessionId failed))
      (sessionContract.post (.complete sessionId failed)) ⟨none, s⟩ s := by
  rw [program, meets_bind, complete, meets_bind, meets_get]
  dsimp only
  cases found : s.sessions.get? sessionId with
  | none => exact raised_post _ ⟨none, s⟩ _
  | some session =>
    constructor
    · exact setStatus_books found _
    · refine fun _ => update_staysClosed found fun _ => ?_
      cases failed <;> simp [setStatus]

theorem sessionContract_met :
    (sessionContract : Contract _ _ _ _ _ _ (Beginning F)).Met program := by
  intro operation s begun begins
  obtain ⟨rfl, -⟩ := begins
  cases operation with
  | routeIntent sessionId intent => exact routeIntent_meets sessionId intent
  | addObservations sessionId observed simulated =>
    exact addObservations_meets sessionId observed simulated
  | complete sessionId failed => exact complete_meets sessionId failed

/-- A fitting intent reopens a session that has ended. -/
theorem untimely_reopens {operation : Operation F} (untimely : s.timely operation = false) :
    ¬StaysClosed s ((program operation).segment s).1 := by
  cases operation with
  | addObservations sessionId observed simulated => cases untimely
  | complete sessionId failed => cases untimely
  | routeIntent sessionId intent =>
    simp only [timely, Option.all_eq_false] at untimely
    obtain ⟨session, found, fits⟩ := untimely
    simp only [Bool.or_eq_false_iff, bne_eq_false_iff_eq, Bool.not_eq_false'] at fits
    intro stays
    have after := stays sessionId fits.2
    have routed : ∃ next, (routeIntent sessionId intent).segment s =
        (s.update sessionId (setStatus .active), wait (.gather intent) next) := by
      rw [routeIntent, segment_bind_of_returns (segment_get s)]
      simp only [found, fits.1, bne_self_eq_false, Bool.false_eq_true, if_false]
      rw [segment_bind_of_returns (segment_modify _ s)]
      exact ⟨_, rfl⟩
    obtain ⟨next, waits⟩ := routed
    rw [program, segment_bind_of_waits waits, closed, get?_update found] at after
    simp [setStatus] at after

end Segments

section Runs

variable {loop : Loop F} {turn : Turn (Operation F) TwinWait (TwinReply F)}

/-- The books of the coordinator agree with what the tasks have come to, and every task that waits
finds its session. -/
structure InOrder (loop : Loop F) : Prop where
  counted : loop.state.Counted
  acknowledgements : ∀ sessionId, (loop.state.acknowledgements sessionId).Perm
    (loop.tasks.flatMap (entries (granted sessionId)))
  deviations : ∀ sessionId, (loop.state.deviations sessionId).Perm
    (loop.tasks.flatMap (entries (accepted sessionId)))
  sound : loop.Sound sessionContract
  present : ∀ task ∈ loop.tasks, Present task.label task.since → Present task.label loop.state

omit [PyAngle F] in
theorem InOrder.accounted (kept : InOrder loop) : Accounted loop := by
  intro sessionId session found
  have acknowledged := kept.acknowledgements sessionId
  have deviated := kept.deviations sessionId
  rw [TwinCoordinator.acknowledgements, found] at acknowledged
  rw [TwinCoordinator.deviations, found] at deviated
  exact ⟨acknowledged, (kept.counted sessionId session found).trans deviated.length_eq⟩

omit [PyAngle F] in
/-- A segment that keeps the contract enters what its task has come to. -/
theorem promised_books {operation : Operation F} {begun : Beginning F} {after : TwinCoordinator F}
    {rest : TwinCall F (Answer F)} (promised : sessionContract.Promises operation begun after rest) :
    Books begun.state after (fun sessionId => entries (granted sessionId) ⟨operation, after, rest⟩)
      (fun sessionId => entries (accepted sessionId) ⟨operation, after, rest⟩) ∧
    Reopens operation begun after := by
  cases rest with
  | done result => exact promised
  | wait on next => exact ⟨promised.1, promised.2.1⟩
  | act change next => exact promised.elim

/-- The segment of a turn keeps the contract, which lasts. -/
theorem step_promised (kept : InOrder loop) : (step program loop turn).Sound sessionContract ∧
    ∀ operation before after rest,
      moved program loop turn = some (operation, before, after, rest) →
        sessionContract.Promises operation (loop.begun turn) after rest := by
  have admitted : loop.Admitted program sessionContract turn := by
    refine admitted_ofBegun (fun _ _ => trivial) ?_
    intro task reply _ operation since on next found
    exact kept.present _ (List.mem_of_getElem? found)
  obtain ⟨keeps, sound⟩ := step_sound sessionContract_met kept.sound admitted
  exact ⟨sound, fun _ _ _ _ moves => promises_begun admitted keeps moves⟩

/-- One turn enters what its call has returned, and reopens a session only where a fitting intent
is called after its end. -/
theorem step_inOrder (kept : InOrder loop) : InOrder (step program loop turn) ∧
    (StaysClosed loop.state (step program loop turn).state ↔
      ∀ operation, turn = .call operation → loop.state.timely operation = true) := by
  cases moving : moved program loop turn with
  | none =>
    rw [step_idle moving]
    refine ⟨kept, fun _ => ?_, fun _ => staysClosed_refl _⟩
    rintro operation rfl
    cases moving
  | some ended =>
    obtain ⟨operation, before, after, rest⟩ := ended
    obtain ⟨sound, promises⟩ : (step program loop turn).Sound sessionContract ∧ _ := step_promised kept
    obtain ⟨books, reopens⟩ := promised_books (promises _ _ _ _ moving)
    rw [begun_state] at books
    have state : (step program loop turn).state = after := by
      rw [step_state, moving]
      rfl
    constructor
    · constructor
      · rw [state]
        exact books.counted kept.counted
      · intro sessionId
        rw [state, books.acknowledgements]
        refine ((kept.acknowledgements sessionId).append_right _).trans ?_
        have record : ((step program loop turn).tasks.flatMap (entries (granted sessionId))).Perm _ :=
          step_record (fun _ _ _ _ => rfl) turn
        rw [moving] at record
        simpa using record.symm
      · intro sessionId
        rw [state, books.deviations]
        refine ((kept.deviations sessionId).append_right _).trans ?_
        have record : ((step program loop turn).tasks.flatMap (entries (accepted sessionId))).Perm _ :=
          step_record (fun _ _ _ _ => rfl) turn
        rw [moving] at record
        simpa using record.symm
      · exact sound
      · intro task member
        obtain ⟨j, found⟩ := List.mem_iff_getElem?.mp member
        rcases step_task found with old | ⟨-, moves⟩
        · intro present sessionId intent same
          rw [state, books.sessions]
          exact kept.present task (List.mem_of_getElem? old) present sessionId intent same
        · rw [moving] at moves
          cases moves
          rw [state]
          exact id
    · constructor
      · rintro stays called rfl
        by_contra late
        exact untimely_reopens (Bool.eq_false_iff.mpr late) stays
      · intro timely
        rw [state, ← begun_state loop turn]
        refine reopens fun starts => ?_
        rcases moved_cases moving with rfl | ⟨_, _, _, _, _, resumed⟩
        · exact timely operation rfl
        · rw [resumed] at starts
          cases starts

end Runs

/-- No acknowledgement and no observation has been entered. -/
def Unused (s : TwinCoordinator F) : Prop :=
  ∀ sessionId session, s.sessions.get? sessionId = some session →
    session.record.intentAcknowledgements = [] ∧ session.record.deviationCount = 0 ∧
      session.deviations = []

omit [PyAngle F] in
theorem createSession_unused {s : TwinCoordinator F} (unused : s.Unused) (token : String) (nowS : F)
    (config : TwinSessionConfig F) : (s.createSession token nowS config).1.Unused := by
  unfold createSession
  split
  · exact unused
  · intro sessionId session found
    rw [Dict.get?_insert] at found
    split at found
    · cases found
      exact ⟨rfl, rfl, rfl⟩
    · exact unused sessionId session found

omit [PyAngle F] in
theorem opened_unused (requests : List (String × F × TwinSessionConfig F)) :
    (opened requests).Unused := by
  have folded (s : TwinCoordinator F) (unused : s.Unused) : (requests.foldl (fun s request =>
      (s.createSession request.1 request.2.1 request.2.2).1) s).Unused := by
    induction requests generalizing s with
    | nil => exact unused
    | cons request rest ih => exact ih _ (createSession_unused unused _ _ _)
  refine folded {} ?_
  rintro sessionId session ⟨⟩

/-- In every interleaving the record of a session has exactly the acknowledgements of the intents
that have returned and counts the accepted observations; and a turn leaves the ended sessions ended
if and only if it does not route a fitting intent to one of them. -/
theorem sessions_accounted_and_closed (requests : List (String × F × TwinSessionConfig F))
    (turns : List (Turn (Operation F) TwinWait (TwinReply F))) :
    Accounted (Runs.run (step program) ⟨opened requests, []⟩ turns) ∧
    Runs.Along (step program) (fun loop turn =>
      StaysClosed loop.state (step program loop turn).state ↔
        ∀ operation, turn = .call operation → loop.state.timely operation = true)
      ⟨opened requests, []⟩ turns := by
  have begins : InOrder (⟨opened requests, []⟩ : Loop F) := by
    have unused := opened_unused requests
    constructor
    · intro sessionId session found
      simp [unused sessionId session found]
    · intro sessionId
      cases found : (opened requests).sessions.get? sessionId with
      | none => simp [acknowledgements, found]
      | some session => simp [acknowledgements, found, (unused sessionId session found).1]
    · intro sessionId
      cases found : (opened requests).sessions.get? sessionId with
      | none => simp [deviations, found]
      | some session => simp [deviations, found, (unused sessionId session found).2.2]
    · simp [Sound]
    · simp
  have ends : InOrder (Runs.run (step program) ⟨opened requests, []⟩ turns) :=
    Runs.invariant (I := InOrder) (fun loop turn kept => (step_inOrder kept).1) begins
  refine ⟨ends.accounted, ?_⟩
  exact Runs.along (I := InOrder) (fun loop turn kept => (step_inOrder kept).1)
    (fun loop turn kept => (step_inOrder kept).2) begins

section Resurrection

def hoverTwin : TwinSessionConfig ℚ where
  missionId := "hover"
  missionVersion := "1.0.0"
  observedVehicleId := "real-1"
  simulatedVehicleId := "sim-1"
  observedInitialSource := .measuredReal
  simulatedInitialSource := .simulatedModel
  alignmentToleranceS := 1 / 4

def hoverIntent : CanonicalMissionIntent where
  missionId := "hover"
  missionVersion := "1.0.0"
  intentId := "intent-1"

/-- A session that is completed before its intent is routed. -/
def completedFirst : Loop ℚ :=
  Runs.run (step program) ⟨opened [("1", 0, hoverTwin)], []⟩ [.call (.complete "twin-1" false)]

/-- The intent makes the completed session active again. -/
theorem routed_session_reopens : ¬StaysClosed completedFirst.state
    (step program completedFirst (.call (.routeIntent "twin-1" hoverIntent))).state := by
  intro stays
  have closed : completedFirst.state.closed "twin-1" = true := by decide
  have after := stays "twin-1" closed
  exact absurd after (by decide)

end Resurrection

end TwinCoordinator
end CrazySwarm
