import CrazySwarm.CampaignSlots

/-! What runs of the campaign service hold of their slots, and of their idempotency keys. -/
namespace CrazySwarm
namespace CampaignService
open Coroutine EventLoop

variable {E V : Type} {S : V → Type} {α : Type}

section Statement

variable (executor : Option (CampaignExecutor E V S)) (maximumConcurrency : Nat)

abbrev CampaignTurn (S : V → Type) := Turn Operation (CampaignWait V) (CampaignReply S)

/-- The digests that identify runs are new when they are made. -/
def NewRunIds (loop : Loop E V S) (turn : CampaignTurn S) : Prop :=
  ∀ runId ∈ turn.called.filterMap (·.runId?),
    (∀ operation ∈ loop.labels, operation.runId? ≠ some runId) ∧
      ∀ run ∈ loop.state.runs, run.runId ≠ runId

instance NewRunIds.decidable (loop : Loop E V S) (turn : CampaignTurn S) :
    Decidable (NewRunIds loop turn) :=
  inferInstanceAs (Decidable (∀ runId ∈ turn.called.filterMap (·.runId?),
    (∀ operation ∈ loop.labels, operation.runId? ≠ some runId) ∧
      ∀ run ∈ loop.state.runs, run.runId ≠ runId))

structure Accounted (loop : Loop E V S) : Prop where
  running : loop.state.runs.countP isRunning ≤ maximumConcurrency
  ended : ∀ task ∈ loop.tasks, ∀ request result, task.label = .runActive request →
    task.rest = .done result → loop.state.Over request.runId
  waiting : ∀ task ∈ loop.tasks, ∀ runId next, task.rest = .wait (.slot runId) next →
    loop.state.activeExecutionRunIds.length < maximumConcurrency →
      runId ∈ loop.state.executionCondition.woken

/-- The turn records no run but that of the call it starts. -/
def RecordsOwn (loop : Loop E V S) (turn : CampaignTurn S) : Prop :=
  ∀ run ∈ (step (program executor maximumConcurrency) loop turn).state.runs,
    (∃ old ∈ loop.state.runs, old.runId = run.runId) ∨
      ∃ request, turn = .call (.runActive request) ∧ run.runId = request.runId

/-- A call with a reviewed key returns the review and does nothing else. -/
def ReturnsReview (loop : Loop E V S) (turn : CampaignTurn S) : Prop :=
  ∀ request runId review, turn = .call (.runActive request) →
    loop.state.idempotency.get? request.idempotencyKey = some runId →
      loop.state.reviewOf runId = some review →
        moved (program executor maximumConcurrency) loop turn =
          some (.runActive request, loop.state, loop.state, returns (.review review))

/-- The call records its run. -/
def Creates (loop : Loop E V S) (request : CampaignRunRequest) : Prop :=
  ∃ run ∈ (step (program executor maximumConcurrency) loop (.call (.runActive request))).state.runs,
    run.runId = request.runId

def Deletes (runId : String) (loop : Loop E V S) (turns : List (CampaignTurn S)) : Prop :=
  ∃ earlier permitted later, turns = earlier ++ .call (.deleteRun runId permitted) :: later ∧
    (∃ run ∈ (Runs.run (step (program executor maximumConcurrency)) loop earlier).state.runs,
      run.runId = runId) ∧
    ∀ run ∈ (step (program executor maximumConcurrency)
      (Runs.run (step (program executor maximumConcurrency)) loop earlier)
      (.call (.deleteRun runId permitted))).state.runs, run.runId ≠ runId

/-- A second run of one key is only recorded after the first has been deleted. -/
def KeysReused (loop : Loop E V S) (turns : List (CampaignTurn S)) : Prop :=
  ∀ earlier first between second later,
    turns = earlier ++ .call (.runActive first) :: (between ++ .call (.runActive second) :: later) →
      first.idempotencyKey = second.idempotencyKey →
        let before := Runs.run (step (program executor maximumConcurrency)) loop earlier
        let after := step (program executor maximumConcurrency) before (.call (.runActive first))
        Creates executor maximumConcurrency before first →
          Creates executor maximumConcurrency
            (Runs.run (step (program executor maximumConcurrency)) after between) second →
            Deletes executor maximumConcurrency first.runId after between

end Statement

section Keys

/-- The identifiers of the records and the keys stay. -/
def SameFiles (a b : CampaignService E) : Prop :=
  b.idempotency = a.idempotency ∧ b.runs.map (·.runId) = a.runs.map (·.runId)

theorem SameFiles.refl (s : CampaignService E) : SameFiles s s := ⟨rfl, rfl⟩

theorem sameFiles_allows (runId : String) :
    Allows (SameFiles : CampaignService E → CampaignService E → Prop)
      (fun _ : CampaignWait V => True) runId where
  refl := .refl
  acquire := .refl
  release := .refl
  sleep := .refl
  leave := .refl
  notify _ := .refl
  notifyAll := .refl
  takeSlot := .refl
  freeSlot := .refl
  updateRun run _ s := ⟨rfl, ids_updateRun run s⟩
  addReview _ := .refl
  execute _ := .refl
  lock := trivial
  relock := trivial
  slot := trivial
  executor _ := trivial

theorem SameFiles.known {a b : CampaignService E} {runId : String} (same : SameFiles a b) :
    (∃ run ∈ b.runs, run.runId = runId) ↔ ∃ run ∈ a.runs, run.runId = runId := by
  have listed (s : CampaignService E) :
      (∃ run ∈ s.runs, run.runId = runId) ↔ runId ∈ s.runs.map (·.runId) := List.mem_map.symm
  rw [listed, listed, same.2]

structure Filed (operation : Operation) (begun : Begun (CampaignService E) (CampaignWait V)
    (CampaignReply S)) (s : CampaignService E) : Prop where
  bound : ∀ key runId, begun.state.idempotency.get? key = some runId →
    s.idempotency.get? key = some runId ∨
      (begun.resumed = none ∧ ∃ permitted, operation = .deleteRun runId permitted) ∧
      (∃ run ∈ begun.state.runs, run.runId = runId) ∧ ∀ run ∈ s.runs, run.runId ≠ runId
  recorded : ∀ run ∈ s.runs, (∃ old ∈ begun.state.runs, old.runId = run.runId) ∨
    ∃ request, operation = .runActive request ∧ begun.resumed = none ∧ run.runId = request.runId ∧
      begun.state.idempotency.get? request.idempotencyKey = none ∧
        s.idempotency.get? request.idempotencyKey = some request.runId

variable {operation : Operation} {s s' : CampaignService E}
  {begun : Begun (CampaignService E) (CampaignWait V) (CampaignReply S)}

theorem filed_refl : Filed operation begun begun.state :=
  ⟨fun _ _ => .inl, fun run member => .inl ⟨run, member, rfl⟩⟩

theorem Filed.same (filed : Filed operation begun s) (same : SameFiles s s') :
    Filed operation begun s' := by
  constructor
  · intro key runId given
    rcases filed.bound key runId given with kept | ⟨deletes, known, gone⟩
    · exact .inl (same.1 ▸ kept)
    · refine .inr ⟨deletes, known, fun run member itsId => ?_⟩
      obtain ⟨old, among, oldId⟩ := same.known.mp ⟨run, member, itsId⟩
      exact gone old among oldId
  · intro run member
    obtain ⟨old, among, oldId⟩ := same.known.mp ⟨run, member, rfl⟩
    rcases filed.recorded old among with known | ⟨request, is, first, its, free, binds⟩
    · exact .inl (oldId ▸ known)
    · exact .inr ⟨request, is, first, oldId ▸ its, free, same.1 ▸ binds⟩

def keyContract : Contract Operation (CampaignService E) (CampaignWait V) (CampaignReply S)
    CampaignRaised CampaignResult (Begun (CampaignService E) (CampaignWait V) (CampaignReply S)) :=
  .ofReplies (fun _ _ => True) (fun _ _ _ _ _ => True) (fun operation begun _ s => Filed operation begun s)
    fun operation begun _ s => Filed operation begun s

theorem keeps_filed {call : CampaignCall E V S α} (keeps : call.Everywhere SameFiles fun _ => True)
    (filed : Filed operation begun s) :
    call.Meets (keyContract.rel operation) (keyContract.ready operation)
      (fun begun _ s => Filed operation begun s) begun s := by
  have kept : call.Keeps (fun begun s => Filed operation begun s) (fun _ _ => True)
      (keyContract.ready operation) (fun _ _ => True) fun _ _ _ => True := by
    refine Everywhere.keeps keeps ?_ ?_ ?_
    · exact fun _ _ _ filed _ same => ⟨filed.same same, trivial⟩
    · exact fun _ _ _ _ _ => trivial
    · rintro _ _ _ _ _ _ - ⟨rfl, -⟩ - -
      exact ⟨filed_refl, trivial⟩
  exact (kept begun s filed trivial).weaken (fun _ _ _ waits => waits.1) fun _ _ _ ended => ended.1

variable {executor : Option (CampaignExecutor E V S)} {maximum : Nat}

theorem enqueue_filed {request : CampaignRunRequest}
    (free : s.idempotency.get? request.idempotencyKey = none) :
    Filed (.runActive request) (⟨none, s⟩ : Begun _ (CampaignWait V) (CampaignReply S))
      (s.enqueue request) := by
  constructor
  · intro key runId given
    left
    have apart : request.idempotencyKey ≠ key := by
      rintro rfl
      rw [free] at given
      cases given
    exact (Dict.get?_insert_of_ne _ _ apart).trans given
  · intro run member
    rcases List.mem_append.mp member with old | new
    · exact .inl ⟨run, old, rfl⟩
    · obtain rfl := List.mem_singleton.mp new
      exact .inr ⟨request, rfl, rfl, rfl, free, Dict.get?_insert_self ..⟩

theorem withoutRun_filed {runId : String} {permitted : Bool} {run : CampaignRunRecord}
    (valid : s.validateRunDeletion runId permitted = .ok run) :
    Filed (.deleteRun runId permitted) (⟨none, s⟩ : Begun _ (CampaignWait V) (CampaignReply S))
      (s.withoutRun runId) := by
  constructor
  · intro key other given
    by_cases mine : other = runId
    · subst mine
      right
      refine ⟨⟨rfl, permitted, rfl⟩, ?_, fun run member => ?_⟩
      · unfold validateRunDeletion at valid
        split at valid
        · cases valid
        · next current found => exact ⟨current, mem_of_runOf found⟩
      · exact of_decide_eq_true (List.mem_filter.mp member).2
    · exact .inl (Dict.get?_filterValues _ given (decide_eq_true mine))
  · intro run member
    exact .inl ⟨run, (List.mem_filter.mp member).1, rfl⟩

theorem withCancel_sameFiles (runId : String) (s : CampaignService E) :
    SameFiles s (s.withCancel executor runId) := by
  have queued : SameFiles s ((s.markCancelled runId).cancelQueuedRun runId) := by
    unfold cancelQueuedRun
    split
    · exact .refl s
    · exact ⟨rfl, ids_updateRun _ s⟩
  unfold withCancel requestCancel
  split
  · exact queued
  · exact queued

theorem keyContract_met : (keyContract (S := S)).Met (program executor maximum) := by
  rintro operation s begun ⟨rfl, -⟩
  cases operation with
  | runActive request =>
    unfold program runActive
    dsimp only
    rw [meets_bind, meets_bind, meets_get]
    dsimp only
    split
    · split
      · exact filed_refl
      · exact filed_refl
    · next free =>
      split
      · exact filed_refl
      · rw [meets_bind, meets_ofResult]
        split
        · rw [runNew, meets_bind, meets_modify]
          dsimp only
          refine (keeps_filed ?_ (enqueue_filed free)).mono fun _ result s filed => ?_
          · exact (keeps_queue (sameFiles_allows _).toAllowsQueue).bind fun _ =>
              keeps_launched (sameFiles_allows _)
          · cases result with
            | error raised => exact filed
            | ok review => exact filed
        · exact filed_refl
  | cancel runId => exact filed_refl.same (withCancel_sameFiles runId s)
  | deleteRun runId permitted =>
    rw [program, meets_bind, deleteRun, meets_bind, meets_get]
    dsimp only
    rw [meets_bind, meets_ofResult]
    split
    · next run valid => exact withoutRun_filed valid
    · exact filed_refl

end Keys

section Runs

variable {executor : Option (CampaignExecutor E V S)} {maximum : Nat} {loop : Loop E V S}
  {turn : CampaignTurn S}

/-- What a segment does to the runs of others. -/
def Aside (operation : Operation) (a b : CampaignService E) : Prop :=
  ∀ runId, operation.runId? ≠ some runId → Apart runId a b

/-- The service rests, every call is where its run is, and no two calls are about one run. -/
structure Steady (maximum : Nat) (loop : Loop E V S) : Prop where
  slots : loop.Sound (slotContract maximum)
  keys : loop.Sound keyContract
  within : loop.Within Aside
  resting : loop.state.Resting maximum
  phases : ∀ (j : Nat) task on next, loop.tasks[j]? = some task → task.rest = .wait on next →
    Phase task.label on loop.state
  ended : ∀ (j : Nat) task result, loop.tasks[j]? = some task → task.rest = .done result →
    Ended task.label loop.state
  known : ∀ runId ∈ loop.state.activeExecutionRunIds,
    ∃ operation ∈ loop.labels, operation.runId? = some runId
  distinct : ∀ (i j : Nat) a b runId, loop.labels[i]? = some a → loop.labels[j]? = some b →
    a.runId? = some runId → b.runId? = some runId → i = j

theorem step_filed (keys : loop.Sound keyContract) :
    (step (program executor maximum) loop turn).Sound keyContract ∧
    ∀ operation before after rest,
      moved (program executor maximum) loop turn = some (operation, before, after, rest) →
        Filed operation (loop.begun turn) after := by
  have admits : loop.Admitted (program executor maximum) keyContract turn :=
    admitted_ofReplies (fun _ _ => trivial) fun _ _ _ _ _ _ _ _ => trivial
  obtain ⟨keeps, sound⟩ := step_sound keyContract_met keys admits
  refine ⟨sound, fun operation before after rest moves => ?_⟩
  have promised := promises_ofReplies admits keeps moves
  cases rest with
  | done result => exact promised
  | wait on next => exact promised
  | act change next => exact promised.elim

theorem NewRunIds.of_call {operation : Operation} {runId : String} (new : NewRunIds loop turn)
    (called : turn = .call operation) (its : operation.runId? = some runId) :
    (∀ operation ∈ loop.labels, operation.runId? ≠ some runId) ∧
      ∀ run ∈ loop.state.runs, run.runId ≠ runId := by
  refine new runId (List.mem_filterMap.mpr ⟨operation, ?_, its⟩)
  rw [called]
  exact List.mem_singleton_self _

theorem fresh_of_new (steady : Steady maximum loop) (new : NewRunIds loop turn) {operation : Operation}
    (called : turn = .call operation) : Fresh operation loop.state := by
  intro runId its
  obtain ⟨unknown, unrecorded⟩ := new.of_call called its
  refine ⟨fun present => ?_, unrecorded⟩
  obtain ⟨operation, member, same⟩ := steady.known _ present
  exact unknown operation member same

theorem begins_slot (steady : Steady maximum loop) (new : NewRunIds loop turn) :
    loop.Begins (slotContract maximum) turn () := by
  cases turn with
  | call operation => exact ⟨steady.resting, fresh_of_new steady new rfl⟩
  | resume task reply =>
    simp only [Begins]
    split
    · next label since on next found => exact ⟨steady.resting, steady.phases _ _ _ _ found rfl⟩
    · trivial

/-- What a segment promises of the service and of its own run. -/
theorem promised_slot {operation : Operation} {after : CampaignService E}
    {rest : CampaignCall E V S CampaignResult}
    (promised : (slotContract maximum).Promises operation () after rest) :
    after.Resting maximum ∧ (∀ on next, rest = .wait on next → Phase operation on after) ∧
      ∀ result, rest = .done result → Ended operation after := by
  cases rest with
  | done result =>
    refine ⟨promised.1, ?_, fun _ _ => promised.2⟩
    rintro _ _ ⟨⟩
  | wait on next =>
    refine ⟨promised.1, ?_, ?_⟩
    · rintro _ _ ⟨⟩
      exact promised.2
    · rintro _ ⟨⟩
  | act change next => exact promised.elim

theorem step_distinct (steady : Steady maximum loop) (given : NewRunIds loop turn) (i j : Nat)
    (a b : Operation) (runId : String)
    (first : (step (program executor maximum) loop turn).labels[i]? = some a)
    (second : (step (program executor maximum) loop turn).labels[j]? = some b)
    (its : a.runId? = some runId) (also : b.runId? = some runId) : i = j := by
  have unknown (k : Nat) (old new : Operation) (called : turn = .call new)
      (found : loop.labels[k]? = some old) (its : old.runId? = some runId)
      (mine : new.runId? = some runId) : False :=
    (given.of_call called mine).1 old (List.mem_of_getElem? found) its
  rcases step_label_cases first with old | ⟨new, called⟩ <;>
    rcases step_label_cases second with old' | ⟨new', called'⟩
  · exact steady.distinct i j a b runId old old' its also
  · exact (unknown i a b called' old its also).elim
  · exact (unknown j b a called old' also its).elim
  · omega

theorem apart_phase {operation : Operation} {on : CampaignWait V}
    {a b : CampaignService E} (apart : ∀ runId, operation.runId? = some runId → Apart runId a b)
    (phase : Phase operation on a) : Phase operation on b := by
  cases operation with
  | runActive request =>
    have apart := apart _ rfl
    cases on with
    | slot runId => exact ⟨phase.1, apart.unlaunched phase.2.1, apart.waits phase.2.2⟩
    | executor on => exact apart.launched phase
    | lock => exact phase.elim
    | relock => exact phase.elim
  | cancel other => exact phase.elim
  | deleteRun other permitted => exact phase.elim

theorem step_steady (steady : Steady maximum loop) (new : NewRunIds loop turn) :
    Steady maximum (step (program executor maximum) loop turn) := by
  have begins := begins_slot steady new
  obtain ⟨keeps, slots⟩ := step_sound slotContract_met steady.slots fun _ => ⟨(), begins⟩
  obtain ⟨moves, within⟩ : (∀ operation before after rest,
      moved (program executor maximum) loop turn = some (operation, before, after, rest) →
        Aside operation before after) ∧
      (step (program executor maximum) loop turn).Within Aside := step_within
    (fun operation _ => everywhere_forall fun runId apart => keeps_program apart)
    (fun _ s _ _ => Apart.refl s) (fun _ _ _ _ first later runId apart =>
      (first runId apart).trans (later runId apart)) steady.within
  cases moving : moved (program executor maximum) loop turn with
  | none => rwa [step_idle moving]
  | some last =>
    obtain ⟨operation, before, after, rest⟩ := last
    have state : (step (program executor maximum) loop turn).state = after := by
      rw [step_state, moving]
      rfl
    obtain ⟨resting, phase, ended⟩ := promised_slot (keeps () _ _ _ _ begins moving)
    have aside : Aside operation loop.state after :=
      moved_before moving ▸ moves _ _ _ _ moving
    have here := step_index moving
    have others (j : Nat) (task : Task Operation (CampaignService E) (CampaignWait V) (CampaignReply S)
        CampaignRaised CampaignResult) (other : j ≠ loop.index turn)
        (found : (step (program executor maximum) loop turn).tasks[j]? = some task) (runId : String)
        (its : task.label.runId? = some runId) : Apart runId loop.state after := by
      refine aside runId fun mine => other ?_
      exact step_distinct steady new _ _ _ _ runId (labels_of_task found) (labels_of_task here) its mine
    refine ⟨slots, (step_filed steady.keys).1, within, state ▸ resting, ?_, ?_, ?_,
      step_distinct steady new⟩
    · rintro j task on next found waits
      rw [state]
      by_cases same : j = loop.index turn
      · subst same
        cases here.symm.trans found
        exact phase on next waits
      · have apart := others j task same found
        rw [step_other turn same] at found
        exact apart_phase apart (steady.phases j task on next found waits)
    · rintro j task result found gone
      rw [state]
      by_cases same : j = loop.index turn
      · subst same
        cases here.symm.trans found
        exact ended result gone
      · have apart := others j task same found
        rw [step_other turn same] at found
        exact fun runId its => (apart runId its).stillOver (steady.ended j task result found gone runId its)
    · intro runId present
      rw [state] at present
      by_cases mine : operation.runId? = some runId
      · exact ⟨operation, List.mem_of_getElem? (labels_of_task here), mine⟩
      · obtain ⟨owner, member, its⟩ := steady.known runId ((aside runId mine).active.mp present)
        refine ⟨owner, ?_, its⟩
        rw [step_labels]
        exact List.mem_append_left _ member

theorem Steady.accounted (steady : Steady maximum loop) : Accounted maximum loop := by
  refine ⟨steady.resting.running_le, ?_, ?_⟩
  · intro task member request result is gone
    obtain ⟨j, found⟩ := List.mem_iff_getElem?.mp member
    exact steady.ended j task result found gone request.runId (by rw [is]; rfl)
  · intro task member runId next waits free
    obtain ⟨j, found⟩ := List.mem_iff_getElem?.mp member
    have phase := steady.phases j task _ next found waits
    cases is : task.label with
    | runActive request =>
      rw [is] at phase
      obtain ⟨rfl, -, asleep⟩ := phase
      exact steady.resting.alert.woken (decide_eq_true free) asleep
    | cancel other =>
      rw [is] at phase
      exact phase.elim
    | deleteRun other permitted =>
      rw [is] at phase
      exact phase.elim

theorem called_of_begun {operation : Operation} {before after : CampaignService E}
    {rest : CampaignCall E V S CampaignResult}
    (moving : moved (program executor maximum) loop turn = some (operation, before, after, rest))
    (first : (loop.begun turn).resumed = none) : turn = .call operation := by
  rcases moved_cases moving with called | ⟨_, _, _, _, -, resumed⟩
  · exact called
  · rw [first] at resumed
    cases resumed

theorem step_recordsOwn (keys : loop.Sound keyContract) : RecordsOwn executor maximum loop turn := by
  intro run member
  cases moving : moved (program executor maximum) loop turn with
  | none =>
    rw [step_idle moving] at member
    exact .inl ⟨run, member, rfl⟩
  | some last =>
    obtain ⟨operation, before, after, rest⟩ := last
    have filed := (step_filed keys).2 _ _ _ _ moving
    rw [step_state, moving] at member
    rcases filed.recorded run member with known | ⟨request, rfl, first, its, -⟩
    · rw [begun_state] at known
      exact .inl known
    · exact .inr ⟨request, called_of_begun moving first, its⟩

theorem step_returnsReview : ReturnsReview executor maximum loop turn := by
  rintro request runId review rfl bound reviewed
  have found : (runActive executor maximum request).segment loop.state = (loop.state, returns review) := by
    unfold runActive
    rw [segment_bind_of_returns (segment_get _)]
    simp only [bound, reviewed]
    rfl
  rw [moved, program, segment_bind_of_returns found]
  rfl

theorem creates_binds (keys : loop.Sound keyContract) {request : CampaignRunRequest}
    (new : NewRunIds loop (.call (.runActive request) : CampaignTurn S))
    (creates : Creates executor maximum loop request) :
    loop.state.idempotency.get? request.idempotencyKey = none ∧
      (step (program executor maximum) loop (.call (.runActive request))).state.idempotency.get?
        request.idempotencyKey = some request.runId := by
  obtain ⟨run, member, its⟩ := creates
  have filed := (step_filed keys).2 _ _ _ _
    (rfl : moved (program executor maximum) loop (.call (.runActive request) : CampaignTurn S) = some _)
  rcases filed.recorded run member with ⟨old, among, same⟩ | ⟨_, ⟨⟩, -, -, free, binds⟩
  · exact absurd (same.trans its) ((new.of_call rfl rfl).2 old among)
  · exact ⟨free, binds⟩

theorem bound_or_deleted {turns : List (CampaignTurn S)} {key runId : String}
    (keys : loop.Sound keyContract) (bound : loop.state.idempotency.get? key = some runId) :
    (Runs.run (step (program executor maximum)) loop turns).state.idempotency.get? key = some runId ∨
      Deletes executor maximum runId loop turns := by
  induction turns generalizing loop with
  | nil => exact .inl bound
  | cons turn rest ih =>
    have sound : (step (program executor maximum) loop turn).Sound keyContract := (step_filed keys).1
    have kept (still : (step (program executor maximum) loop turn).state.idempotency.get? key =
        some runId) : (Runs.run (step (program executor maximum)) loop
          (turn :: rest)).state.idempotency.get? key = some runId ∨
        Deletes executor maximum runId loop (turn :: rest) := by
      rcases ih sound still with bound | ⟨earlier, permitted, later, rfl, known, gone⟩
      · exact .inl bound
      · exact .inr ⟨turn :: earlier, permitted, later, rfl, known, gone⟩
    cases moving : moved (program executor maximum) loop turn with
    | none =>
      refine kept ?_
      rwa [step_idle moving]
    | some last =>
      obtain ⟨operation, before, after, left⟩ := last
      have filed := (step_filed keys).2 _ _ _ _ moving
      have state : (step (program executor maximum) loop turn).state = after := by
        rw [step_state, moving]
        rfl
      rcases filed.bound key runId ((begun_state loop turn).symm ▸ bound) with still |
        ⟨⟨first, permitted, rfl⟩, known, gone⟩
      · exact kept (state ▸ still)
      · obtain rfl := called_of_begun moving first
        exact .inr ⟨[], permitted, rest, rfl, known, state ▸ gone⟩

theorem create_steady (runs : List CampaignRunRecord) (reviews : List ReviewItem)
    (idempotency : Dict String String) (initial : E) :
    Steady maximum (⟨create runs reviews idempotency initial, []⟩ : Loop E V S) := by
  have idle : ∀ run ∈ (create runs reviews idempotency initial).runs, run.status ≠ .running := by
    intro run member
    obtain ⟨loaded, -, rfl⟩ := List.mem_map.mp member
    unfold reconciled
    split
    · rintro ⟨⟩
    · next gone =>
      intro running
      simp [CampaignRunRecord.live, running] at gone
  refine ⟨by simp [Sound], by simp [Sound], by simp [Within], ⟨⟨List.nodup_nil, Nat.zero_le _, ?_, ?_, ?_⟩,
    rfl⟩, by simp, by simp, by simp [create], by simp [labels]⟩
  · exact fun run member running => absurd running (idle run member)
  · intro runId
    have none : (create runs reviews idempotency initial).runs.countP
        (fun run => run.runId = runId ∧ run.status = .running) = 0 := by
      refine List.countP_eq_zero.mpr fun run member counted => ?_
      exact idle run member (of_decide_eq_true counted).2
    rw [none]
    exact Nat.zero_le 1
  · exact fun asleep => absurd rfl asleep

theorem keysReused {turns : List (CampaignTurn S)} (steady : Steady maximum loop)
    (new : Runs.Along (step (program executor maximum)) NewRunIds loop turns) :
    KeysReused executor maximum loop turns := by
  rintro earlier first between second later rfl same before after created again
  obtain ⟨old, given, rest⟩ := Runs.Along.append.mp new
  obtain ⟨between', given', -⟩ := Runs.Along.append.mp rest
  have reached : Steady maximum before :=
    Runs.invariant_along (I := Steady maximum) (fun _ _ steady new => step_steady steady new) steady old
  have going : Steady maximum after := step_steady reached given
  have later : Steady maximum (Runs.run (step (program executor maximum)) after between) :=
    Runs.invariant_along (I := Steady maximum) (fun _ _ steady new => step_steady steady new) going between'
  have binds := (creates_binds reached.keys given created).2
  have free := (creates_binds later.keys given' again).1
  rcases (bound_or_deleted going.keys binds :
      (Runs.run (step (program executor maximum)) after between).state.idempotency.get? _ = _ ∨ _)
    with bound | deleted
  · rw [same, free] at bound
    cases bound
  · exact deleted

end Runs

/-- In every interleaving of calls, cancellations and deletions, wherever tasks are cancelled and
whatever the executor does, the slots are accounted for after every turn, a call with a reviewed key
returns that review and does nothing else, and a second run of one key is only recorded after the
first has been deleted. -/
theorem slots_and_keys_accounted (executor : Option (CampaignExecutor E V S)) (maximumConcurrency : Nat)
    (runs : List CampaignRunRecord) (reviews : List ReviewItem) (idempotency : Dict String String)
    (initial : E) (turns : List (CampaignTurn S))
    (new : Runs.Along (step (program executor maximumConcurrency)) NewRunIds
      ⟨create runs reviews idempotency initial, []⟩ turns) :
    Runs.Along (step (program executor maximumConcurrency)) (fun loop turn =>
        Accounted maximumConcurrency (step (program executor maximumConcurrency) loop turn) ∧
        RecordsOwn executor maximumConcurrency loop turn ∧
        ReturnsReview executor maximumConcurrency loop turn)
      ⟨create runs reviews idempotency initial, []⟩ turns ∧
    KeysReused executor maximumConcurrency ⟨create runs reviews idempotency initial, []⟩ turns := by
  have steady : Steady maximumConcurrency (⟨create runs reviews idempotency initial, []⟩ : Loop E V S) :=
    create_steady ..
  constructor
  · refine Runs.along_of_invariant (I := Steady maximumConcurrency) ?_ ?_ steady new
    · exact fun loop turn steady new => step_steady steady new
    · exact fun loop turn steady new =>
        ⟨(step_steady steady new).accounted, step_recordsOwn steady.keys, step_returnsReview⟩
  · exact keysReused steady new

section Queue

def oneWait : CampaignExecutor Unit Unit fun _ => Except CampaignRaised RunArtifactSet where
  call _ := wait () fun reply => ofResult reply
  requestCancel _ s := s

def executes : (on : CampaignWait Unit) →
    CampaignReply (fun _ => Except CampaignRaised RunArtifactSet) on
  | .lock => .ok ()
  | .relock => false
  | .slot _ => .notified
  | .executor _ => .ok { missionExecutionId := "execution", upperStatus := "SUCCEEDED", review := .ok "review" }

def requestOf (key runId : String) : CampaignRunRequest where
  mode := .automatedAccelerated
  idempotencyKey := key
  runId := runId
  rounds := 1

/-- Two runs for one slot: the second waits for the first. -/
def twoRuns : List (CampaignTurn fun _ : Unit => Except CampaignRaised RunArtifactSet) :=
  [.call (.runActive (requestOf "a" "run-a")), .call (.runActive (requestOf "b" "run-b")),
    .resume 0 executes, .resume 1 executes, .resume 1 executes]

theorem slots_and_keys_accounted_two_runs :
    KeysReused (some oneWait) 1 ⟨create [] [] .empty (), []⟩ twoRuns ∧
      Runs.Along (step (program (some oneWait) 1)) (fun loop turn =>
        Accounted 1 (step (program (some oneWait) 1) loop turn) ∧
        RecordsOwn (some oneWait) 1 loop turn ∧ ReturnsReview (some oneWait) 1 loop turn)
      ⟨create [] [] .empty (), []⟩ twoRuns :=
  (slots_and_keys_accounted (some oneWait) 1 [] [] .empty () twoRuns (by decide)).symm

end Queue

end CampaignService
end CrazySwarm
