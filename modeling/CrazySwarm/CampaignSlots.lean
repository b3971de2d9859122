import CrazySwarm.CampaignService
import Mathlib.Data.List.Perm.Subperm

/-! The execution slots of the campaign service and the keys of its runs, over every interleaving of
its calls, whatever the executor does and wherever tasks are cancelled. -/
namespace CrazySwarm
namespace CampaignService
open Coroutine EventLoop

variable {E V : Type} {S : V → Type} {α : Type}

abbrev Loop (E V : Type) (S : V → Type) :=
  EventLoop Operation (CampaignService E) (CampaignWait V) (CampaignReply S) CampaignRaised
    CampaignResult

section Invariant

variable (maximumConcurrency : Nat)

def isRunning (run : CampaignRunRecord) : Bool := run.status == .running

structure Slotted (s : CampaignService E) : Prop where
  nodup : s.activeExecutionRunIds.Nodup
  bounded : s.activeExecutionRunIds.length ≤ maximumConcurrency
  owned : ∀ run ∈ s.runs, run.status = .running → run.runId ∈ s.activeExecutionRunIds
  single : ∀ runId, s.runs.countP (fun run => run.runId = runId ∧ run.status = .running) ≤ 1
  alert : s.executionCondition.Alert (s.slotFree maximumConcurrency = true)

structure Resting (s : CampaignService E) : Prop extends Slotted maximumConcurrency s where
  unlocked : s.executionCondition.locked = false

variable (runId : String)

/-- No two records have the identifier. -/
def Sole (s : CampaignService E) : Prop := s.runs.countP (·.runId = runId) ≤ 1

structure Unlaunched (s : CampaignService E) : Prop where
  absent : runId ∉ s.activeExecutionRunIds
  sole : s.Sole runId
  idle : ∀ run ∈ s.runs, run.runId = runId → run.status ≠ .running

structure Launched (s : CampaignService E) : Prop where
  present : runId ∈ s.activeExecutionRunIds
  sole : s.Sole runId

/-- What is left of the run has come to its end. -/
def Finished (s : CampaignService E) : Prop :=
  ∀ run ∈ s.runs, run.runId = runId → run.live = false

/-- The run has ended and holds no slot. -/
structure Over (s : CampaignService E) : Prop where
  absent : runId ∉ s.activeExecutionRunIds
  finished : s.Finished runId

/-- What other calls leave of a run: at most they cancel it while it is queued, or delete it. -/
structure Apart (a b : CampaignService E) : Prop where
  active : runId ∈ b.activeExecutionRunIds ↔ runId ∈ a.activeExecutionRunIds
  runs : ∀ run ∈ b.runs, run.runId = runId → run ∈ a.runs ∨ run.status = .cancelledBeforeLaunch
  sole : b.runs.countP (·.runId = runId) ≤ a.runs.countP (·.runId = runId)
  waits : a.executionCondition.Waits runId → b.executionCondition.Waits runId

end Invariant

section Records

variable {s : CampaignService E} {run item : CampaignRunRecord} {runId : String}

theorem mem_updateRun (updated : item ∈ (s.updateRun run).runs) :
    item = run ∧ (∃ old ∈ s.runs, old.runId = run.runId) ∨ item ∈ s.runs ∧ item.runId ≠ run.runId := by
  obtain ⟨old, member, rfl⟩ := List.mem_map.mp updated
  by_cases same : old.runId = run.runId
  · rw [if_pos same]
    exact .inl ⟨rfl, old, member, same⟩
  · rw [if_neg same]
    exact .inr ⟨member, same⟩

/-- The identifiers of the records stay. -/
theorem ids_updateRun (run : CampaignRunRecord) (s : CampaignService E) :
    (s.updateRun run).runs.map (·.runId) = s.runs.map (·.runId) := by
  simp only [updateRun, List.map_map]
  refine List.map_congr_left fun item _ => ?_
  by_cases same : item.runId = run.runId
  · simp [same]
  · simp [same]

theorem countP_updateRun (p : CampaignRunRecord → Bool) (run : CampaignRunRecord)
    (s : CampaignService E) : (s.updateRun run).runs.countP p =
      s.runs.countP fun item => p (if item.runId = run.runId then run else item) := by
  simp only [updateRun, List.countP_map]
  rfl

theorem sole_updateRun (sole : s.Sole runId) : (s.updateRun run).Sole runId := by
  have counted (runs : List CampaignRunRecord) : runs.countP (·.runId = runId) =
      (runs.map (·.runId)).countP (· = runId) := by
    rw [List.countP_map]
    rfl
  rw [Sole, counted] at *
  rwa [ids_updateRun]

theorem mem_of_runOf (found : s.runOf runId = some run) : run ∈ s.runs ∧ run.runId = runId := by
  have same := List.find?_some found
  exact ⟨List.mem_of_find?_eq_some found, of_decide_eq_true same⟩

theorem Sole.eq_of_mem (sole : s.Sole runId) (found : s.runOf runId = some run)
    (member : item ∈ s.runs) (same : item.runId = runId) : item = run := by
  obtain ⟨here, also⟩ := mem_of_runOf found
  have short : (s.runs.filter (·.runId = runId)).length ≤ 1 := by
    rwa [← List.countP_eq_length_filter]
  have left : item ∈ s.runs.filter (·.runId = runId) :=
    List.mem_filter.mpr ⟨member, decide_eq_true same⟩
  have right : run ∈ s.runs.filter (·.runId = runId) :=
    List.mem_filter.mpr ⟨here, decide_eq_true also⟩
  match kept : s.runs.filter (·.runId = runId) with
  | [] => simp [kept] at left
  | [only] => 
    rw [kept, List.mem_singleton] at left right
    rw [left, right]
  | first :: second :: rest => simp [kept] at short

end Records

section Slotted

variable {maximum : Nat} {s : CampaignService E} {run : CampaignRunRecord} {runId : String}

theorem Slotted.running_le (slotted : s.Slotted maximum) : s.runs.countP isRunning ≤ maximum := by
  have distinct : ((s.runs.filter isRunning).map (·.runId)).Nodup := by
    rw [List.nodup_iff_count_le_one]
    intro runId
    rw [List.count, List.countP_map, List.countP_filter]
    refine Nat.le_trans (List.countP_mono_left ?_) (slotted.single runId)
    intro run _ counted
    simpa [isRunning] using counted
  have among : (s.runs.filter isRunning).map (·.runId) ⊆ s.activeExecutionRunIds := by
    intro runId member
    obtain ⟨run, kept, rfl⟩ := List.mem_map.mp member
    obtain ⟨known, running⟩ := List.mem_filter.mp kept
    exact slotted.owned run known (beq_iff_eq.mp running)
  calc s.runs.countP isRunning
      = ((s.runs.filter isRunning).map (·.runId)).length := by
        rw [List.length_map, List.countP_eq_length_filter]
    _ ≤ s.activeExecutionRunIds.length := (distinct.subperm among).length_le
    _ ≤ maximum := slotted.bounded

/-- A record that is not running may replace any other. -/
theorem Slotted.updateRun (slotted : s.Slotted maximum) (ended : run.status ≠ .running) :
    (s.updateRun run).Slotted maximum := by
  refine ⟨slotted.nodup, slotted.bounded, ?_, ?_, slotted.alert⟩
  · intro item updated running
    rcases mem_updateRun updated with ⟨rfl, -⟩ | ⟨member, -⟩
    · exact absurd running ended
    · exact slotted.owned item member running
  · intro runId
    rw [countP_updateRun]
    refine Nat.le_trans (List.countP_mono_left ?_) (slotted.single runId)
    intro item _ counted
    by_cases same : item.runId = run.runId
    · simp [same, ended] at counted
    · simpa [same] using counted

theorem Slotted.updateRun_launched (slotted : s.Slotted maximum) (launched : s.Launched run.runId) :
    (s.updateRun run).Slotted maximum := by
  refine ⟨slotted.nodup, slotted.bounded, ?_, ?_, slotted.alert⟩
  · intro item updated running
    rcases mem_updateRun updated with ⟨rfl, -⟩ | ⟨member, -⟩
    · exact launched.present
    · exact slotted.owned item member running
  · intro runId
    by_cases mine : runId = run.runId
    · subst mine
      refine Nat.le_trans (List.countP_mono_left ?_) (sole_updateRun launched.sole)
      intro item _ counted
      simp only [decide_eq_true_eq] at counted ⊢
      exact counted.1
    · rw [countP_updateRun]
      refine Nat.le_trans (List.countP_mono_left ?_) (slotted.single runId)
      intro item _ counted
      by_cases same : item.runId = run.runId
      · simp [same, Ne.symm mine] at counted
      · simpa [same] using counted

theorem Slotted.of_sublist {s' : CampaignService E} (slotted : s.Slotted maximum)
    (fewer : s'.runs.Sublist s.runs) (active : s'.activeExecutionRunIds = s.activeExecutionRunIds)
    (condition : s'.executionCondition = s.executionCondition) : s'.Slotted maximum := by
  refine ⟨active ▸ slotted.nodup, active ▸ slotted.bounded, ?_, ?_, ?_⟩
  · intro run member running
    rw [active]
    exact slotted.owned run (fewer.subset member) running
  · intro runId
    exact Nat.le_trans fewer.countP_le (slotted.single runId)
  · rw [condition, slotFree, active]
    exact slotted.alert

theorem Slotted.withCondition {change : Condition String → Condition String}
    (slotted : s.Slotted maximum)
    (alert : (change s.executionCondition).Alert (s.slotFree maximum = true)) :
    (s.withCondition change).Slotted maximum :=
  ⟨slotted.nodup, slotted.bounded, slotted.owned, slotted.single, alert⟩

theorem Slotted.enqueue {request : CampaignRunRequest} (slotted : s.Slotted maximum) :
    (s.enqueue request).Slotted maximum := by
  refine ⟨slotted.nodup, slotted.bounded, ?_, ?_, slotted.alert⟩
  · intro run member running
    rcases List.mem_append.mp member with old | new
    · exact slotted.owned run old running
    · obtain rfl := List.mem_singleton.mp new
      cases running
  · intro runId
    rw [CampaignService.enqueue, List.countP_append]
    have none : [request.record .queued].countP
        (fun run => run.runId = runId ∧ run.status = .running) = 0 := by
      simp [CampaignRunRequest.record]
    rw [none, Nat.add_zero]
    exact slotted.single runId

theorem Slotted.takeSlot (slotted : s.Slotted maximum) (free : s.slotFree maximum = true) :
    (s.takeSlot runId).Slotted maximum := by
  have room : s.activeExecutionRunIds.length < maximum := of_decide_eq_true free
  refine ⟨slotted.nodup.insert, ?_, ?_, slotted.single, ?_⟩
  · have grows : (s.activeExecutionRunIds.insert runId).length ≤
        s.activeExecutionRunIds.length + 1 := by
      by_cases known : runId ∈ s.activeExecutionRunIds
      · rw [List.length_insert_of_mem known]
        omega
      · exact Nat.le_of_eq (List.length_insert_of_not_mem known)
    exact Nat.le_trans grows room
  · intro run member running
    exact List.mem_insert_of_mem (slotted.owned run member running)
  · intro asleep
    exact absurd free (slotted.alert asleep)

theorem Slotted.freeSlot (slotted : s.Slotted maximum) (finished : s.Finished runId) :
    ((s.freeSlot runId).withCondition .notifyAll).Slotted maximum := by
  refine ⟨slotted.nodup.filter _, ?_, ?_, slotted.single, Condition.alert_notifyAll⟩
  · exact Nat.le_trans (List.length_filter_le _ _) slotted.bounded
  · intro run member running
    refine List.mem_filter.mpr ⟨slotted.owned run member running, decide_eq_true ?_⟩
    rintro rfl
    have ended := finished run member rfl
    simp [CampaignRunRecord.live, running] at ended

end Slotted

section Apart

variable {request : CampaignRunRequest} {a b c s : CampaignService E} {run : CampaignRunRecord}
  {runId other : String}

theorem Apart.refl (s : CampaignService E) : Apart runId s s :=
  ⟨Iff.rfl, fun _ member _ => .inl member, Nat.le_refl _, id⟩

theorem Apart.trans (first : Apart runId a b) (later : Apart runId b c) : Apart runId a c := by
  refine ⟨later.active.trans first.active, ?_, Nat.le_trans later.sole first.sole,
    fun waits => later.waits (first.waits waits)⟩
  intro run member same
  rcases later.runs run member same with kept | cancelled
  · exact first.runs run kept same
  · exact .inr cancelled

theorem Apart.unlaunched (apart : Apart runId a b) (unlaunched : a.Unlaunched runId) :
    b.Unlaunched runId := by
  refine ⟨fun present => unlaunched.absent (apart.active.mp present),
    Nat.le_trans apart.sole unlaunched.sole, ?_⟩
  intro run member same
  rcases apart.runs run member same with kept | cancelled
  · exact unlaunched.idle run kept same
  · rw [cancelled]
    rintro ⟨⟩

theorem Apart.launched (apart : Apart runId a b) (launched : a.Launched runId) :
    b.Launched runId :=
  ⟨apart.active.mpr launched.present, Nat.le_trans apart.sole launched.sole⟩

theorem Apart.stillOver (apart : Apart runId a b) (gone : a.Over runId) : b.Over runId := by
  refine ⟨fun present => gone.absent (apart.active.mp present), ?_⟩
  intro run member same
  rcases apart.runs run member same with kept | cancelled
  · exact gone.finished run kept same
  · rw [CampaignRunRecord.live, cancelled]
    rfl

theorem apart_updateRun (apart : run.runId ≠ runId) (s : CampaignService E) :
    Apart runId s (s.updateRun run) := by
  refine ⟨Iff.rfl, ?_, ?_, id⟩
  · intro item updated same
    rcases mem_updateRun updated with ⟨rfl, -⟩ | ⟨member, -⟩
    · exact absurd same apart
    · exact .inl member
  · rw [countP_updateRun]
    refine List.countP_mono_left fun item _ counted => ?_
    by_cases mine : item.runId = run.runId
    · simp [mine, apart] at counted
    · simpa [mine] using counted

theorem apart_withCondition {change : Condition String → Condition String} (s : CampaignService E)
    (keeps : s.executionCondition.Waits runId → (change s.executionCondition).Waits runId) :
    Apart runId s (s.withCondition change) :=
  ⟨Iff.rfl, fun _ member _ => .inl member, Nat.le_refl _, keeps⟩

theorem apart_withoutRun (s : CampaignService E) : Apart runId s (s.withoutRun other) := by
  refine ⟨Iff.rfl, ?_, List.filter_sublist.countP_le, id⟩
  intro run member _
  exact .inl (List.mem_filter.mp member).1

theorem apart_takeSlot (apart : runId ≠ other) (s : CampaignService E) :
    Apart runId s (s.takeSlot other) := by
  refine ⟨?_, fun _ member _ => .inl member, Nat.le_refl _, id⟩
  rw [takeSlot, List.mem_insert_iff]
  simp [apart]

theorem apart_freeSlot (apart : runId ≠ other) (s : CampaignService E) :
    Apart runId s (s.freeSlot other) := by
  refine ⟨?_, fun _ member _ => .inl member, Nat.le_refl _, id⟩
  rw [freeSlot, List.mem_filter]
  simp [apart]

theorem apart_enqueue (apart : request.runId ≠ runId) (s : CampaignService E) :
    Apart runId s (s.enqueue request) := by
  refine ⟨Iff.rfl, ?_, ?_, id⟩
  · intro run member same
    rcases List.mem_append.mp member with old | new
    · exact .inl old
    · obtain rfl := List.mem_singleton.mp new
      exact absurd same apart
  · rw [enqueue, List.countP_append]
    simp [CampaignRunRequest.record, apart]

theorem apart_cancelQueuedRun (s : CampaignService E) : Apart runId s (s.cancelQueuedRun other) := by
  unfold cancelQueuedRun
  split
  · exact .refl s
  · next queued found =>
    refine ⟨Iff.rfl, ?_, ?_, id⟩
    · intro item updated same
      rcases mem_updateRun updated with ⟨rfl, -⟩ | ⟨member, -⟩
      · exact .inr rfl
      · exact .inl member
    · rw [countP_updateRun]
      refine List.countP_mono_left fun item _ counted => ?_
      by_cases mine : item.runId = queued.runId
      · simpa [mine] using counted
      · simpa [mine] using counted

theorem apart_withCancel (executor : Option (CampaignExecutor E V S)) (s : CampaignService E) :
    Apart runId s (s.withCancel executor other) := by
  have kept : Apart runId s (s.markCancelled other) :=
    ⟨Iff.rfl, fun _ member _ => .inl member, Nat.le_refl _, id⟩
  have queued : Apart runId (s.markCancelled other) ((s.markCancelled other).cancelQueuedRun other) :=
    apart_cancelQueuedRun _
  refine (kept.trans queued).trans ?_
  unfold withCancel requestCancel
  split
  · exact .refl _
  · exact ⟨Iff.rfl, fun _ member _ => .inl member, Nat.le_refl _, id⟩

/-- The changes and the wait of a part that enters the condition. -/
structure AllowsLock (rel : CampaignService E → CampaignService E → Prop) (may : CampaignWait V → Prop) :
    Prop where
  refl : ∀ s, rel s s
  acquire : ∀ s, rel s (s.withCondition .acquire)
  release : ∀ s, rel s (s.withCondition .release)
  lock : may .lock

structure AllowsQueue (rel : CampaignService E → CampaignService E → Prop) (may : CampaignWait V → Prop)
    (runId : String) : Prop extends AllowsLock rel may where
  sleep : ∀ s, rel s (s.withCondition (.sleep runId))
  leave : ∀ s, rel s (s.withCondition (.leave runId))
  notify : ∀ n s, rel s (s.withCondition (.notify n))
  takeSlot : ∀ s, rel s (s.takeSlot runId)
  updateRun : ∀ run : CampaignRunRecord, run.runId = runId → ∀ s, rel s (s.updateRun run)
  relock : may .relock
  slot : may (.slot runId)

/-- The changes of the part that brings a run to its end. -/
structure AllowsEnd (rel : CampaignService E → CampaignService E → Prop) (may : CampaignWait V → Prop)
    (runId : String) : Prop extends AllowsLock rel may where
  notifyAll : ∀ s, rel s (s.withCondition .notifyAll)
  freeSlot : ∀ s, rel s (s.freeSlot runId)
  updateRun : ∀ run : CampaignRunRecord, run.runId = runId → ∀ s, rel s (s.updateRun run)
  addReview : ∀ review s, rel s (s.addReview review)

/-- The changes and the waits that the call of a run is made of. -/
structure Allows (rel : CampaignService E → CampaignService E → Prop) (may : CampaignWait V → Prop)
    (runId : String) : Prop extends AllowsQueue rel may runId, AllowsEnd rel may runId where
  execute : ∀ e s, rel s { s with executor := e }
  executor : ∀ on, may (.executor on)

theorem apart_allows (apart : runId ≠ other) :
    Allows (Apart runId : CampaignService E → CampaignService E → Prop)
      (fun _ : CampaignWait V => True) other where
  refl := .refl
  acquire s := apart_withCondition s id
  release s := apart_withCondition s id
  sleep s := apart_withCondition s .sleep
  leave s := apart_withCondition s fun waits => waits.leave apart
  notify _ s := apart_withCondition s .notify
  notifyAll s := apart_withCondition s .notifyAll
  takeSlot := apart_takeSlot apart
  freeSlot := apart_freeSlot apart
  updateRun _ same := apart_updateRun (same ▸ Ne.symm apart)
  addReview _ _ := ⟨Iff.rfl, fun _ member _ => .inl member, Nat.le_refl _, id⟩
  execute _ _ := ⟨Iff.rfl, fun _ member _ => .inl member, Nat.le_refl _, id⟩
  lock := trivial
  relock := trivial
  slot := trivial
  executor _ := trivial

end Apart

section Everywhere

variable {executor : CampaignExecutor E V S} {request : CampaignRunRequest} {runId : String}
  {rel : CampaignService E → CampaignService E → Prop} {may : CampaignWait V → Prop}

theorem keeps_modify {change : CampaignService E → CampaignService E} (changes : ∀ s, rel s (change s)) :
    (modify change : CampaignCall E V S Unit).Everywhere rel may := everywhere_modify.mpr changes

theorem keeps_holding (allows : AllowsLock rel may) {body : CampaignCall E V S α}
    (keeps : body.Everywhere rel may) : (holding body).Everywhere rel may := by
  have release : (modify (withCondition .release) : CampaignCall E V S Unit).Everywhere rel may :=
    keeps_modify allows.release
  have acquire : (modify (withCondition .acquire) : CampaignCall E V S Unit).Everywhere rel may :=
    keeps_modify allows.acquire
  have rest : (do
      modify (withCondition .acquire)
      body.ensure (modify (withCondition .release)) : CampaignCall E V S α).Everywhere rel may :=
    acquire.bind fun _ => keeps.handle fun result => release.bind fun _ => trivial
  refine (everywhere_get allows.refl).bind fun s => ?_
  split
  · refine Everywhere.bind ?_ fun _ => rest
    exact ⟨allows.lock, fun _ => trivial⟩
  · exact rest

theorem keeps_wake (allows : AllowsQueue rel may runId) (reply : SlotReply) :
    (wake runId reply : CampaignCall E V S Unit).Everywhere rel may := by
  refine (keeps_modify allows.leave).bind fun _ => Everywhere.bind ?_ fun cancelled => ?_
  · refine (everywhere_get allows.refl).bind fun s => ?_
    refine Everywhere.bind ?_ fun cancelled =>
      (keeps_modify allows.acquire).bind fun _ => everywhere_returns
    unfold lockAgain
    split
    · exact ⟨allows.relock, fun _ => trivial⟩
    · trivial
  · split
    · exact (keeps_modify (allows.notify 1)).bind fun _ => trivial
    · trivial

theorem keeps_sleep (allows : AllowsQueue rel may runId) :
    (sleep runId : CampaignCall E V S Unit).Everywhere rel may :=
  (keeps_modify allows.sleep).bind fun _ => ⟨allows.slot, keeps_wake allows⟩

theorem keeps_waitForSlot (allows : AllowsQueue rel may runId) {maximum : Nat} (rounds : Nat) :
    (waitForSlot maximum runId rounds : CampaignCall E V S Unit).Everywhere rel may := by
  induction rounds with
  | zero =>
    refine (everywhere_get allows.refl).bind fun s => ?_
    split
    · trivial
    · exact (keeps_sleep allows).bind fun _ => trivial
  | succ rounds ih =>
    refine (everywhere_get allows.refl).bind fun s => ?_
    split
    · trivial
    · exact (keeps_sleep allows).bind fun _ => ih

theorem keeps_finishRun (refl : ∀ s, rel s s)
    (updates : ∀ run : CampaignRunRecord, run.runId = request.runId → ∀ s, rel s (s.updateRun run))
    {raised : CampaignRaised} {finish : CampaignRunRecord → CampaignRunRecord}
    {unfinished : CampaignRunRecord → Bool}
    (same : ∀ current, (finish current).runId = current.runId) :
    (finishRun request raised finish unfinished : CampaignCall E V S α).Everywhere rel may := by
  refine (everywhere_get refl).bind fun s => ?_
  split
  · trivial
  · next current found =>
    split
    · refine (keeps_modify (updates _ ?_)).bind fun _ => trivial
      rw [same, (mem_of_runOf found).2]
    · trivial

theorem cancelLaunched_runId (current : CampaignRunRecord) :
    (cancelLaunched current).runId = current.runId := by
  unfold cancelLaunched
  split <;> rfl

theorem keeps_queue (allows : AllowsQueue rel may request.runId) {maximum : Nat} :
    (queue request maximum : CampaignCall E V S Unit).Everywhere rel may := by
  refine (keeps_holding allows.toAllowsLock ?_).rescue fun raised => ?_
  · exact (keeps_waitForSlot allows _).bind fun _ => keeps_modify allows.takeSlot
  · split
    · exact keeps_finishRun allows.refl allows.updateRun fun _ => rfl
    · trivial

theorem keeps_onRaised (allows : AllowsEnd rel may request.runId) (raised : CampaignRaised) :
    (onRaised request raised : CampaignCall E V S α).Everywhere rel may := by
  cases raised with
  | cancelled => exact keeps_finishRun allows.refl allows.updateRun cancelLaunched_runId
  | exception kind text => exact keeps_finishRun allows.refl allows.updateRun fun _ => rfl

theorem keeps_giveUp (allows : AllowsEnd rel may request.runId) (attempts : Nat)
    (raised : CampaignRaised) :
    (giveUp request attempts raised : CampaignCall E V S α).Everywhere rel may := by
  cases raised with
  | cancelled => trivial
  | exception kind text => exact (keeps_modify (allows.updateRun _ rfl)).bind fun _ => trivial

theorem keeps_intake (allows : AllowsEnd rel may request.runId) (artifacts : RunArtifactSet) :
    (intake request artifacts : CampaignCall E V S ReviewItem).Everywhere rel may := by
  refine Everywhere.bind everywhere_ofResult fun passed => ?_
  refine (keeps_modify (allows.updateRun _ rfl)).bind fun _ => ?_
  refine Everywhere.bind everywhere_ofResult fun reviewId => ?_
  refine (keeps_modify (allows.addReview _)).bind fun _ => ?_
  exact Everywhere.bind everywhere_ofResult fun _ => everywhere_pure

theorem keeps_release (allows : AllowsEnd rel may runId) :
    (releaseExecutionSlot runId : CampaignCall E V S Unit).Everywhere rel may := by
  refine keeps_holding allows.toAllowsLock ?_
  exact (keeps_modify allows.freeSlot).bind fun _ => keeps_modify allows.notifyAll

theorem keeps_execute (allows : Allows rel may runId) : (execute executor request).Everywhere rel may :=
  everywhere_zoom (everywhere_anything _) (fun s e _ => allows.execute e s) fun on _ => allows.executor on

theorem keeps_attempts (allows : Allows rel may request.runId) :
    (attempts executor request).Everywhere rel may := by
  refine (keeps_execute allows).rescue fun raised => ?_
  cases raised with
  | cancelled => trivial
  | exception kind text =>
    refine Everywhere.bind everywhere_ofResult fun again => ?_
    split
    · exact (keeps_execute allows).rescue fun raised => keeps_giveUp allows.toAllowsEnd 1 raised
    · exact keeps_giveUp allows.toAllowsEnd 0 _

theorem keeps_launched (allows : Allows rel may request.runId) :
    (launched executor request).Everywhere rel may := by
  refine Everywhere.handle (Everywhere.rescue ((everywhere_get allows.refl).bind fun s => ?_)
    fun raised => keeps_onRaised allows.toAllowsEnd raised) fun result => ?_
  · split
    · exact (keeps_modify (allows.updateRun _ rfl)).bind fun _ => trivial
    · refine Everywhere.bind everywhere_ofResult fun _ => ?_
      refine (keeps_modify (allows.updateRun _ rfl)).bind fun _ => ?_
      refine (keeps_attempts allows).bind fun artifacts => ?_
      split
      · trivial
      · exact keeps_intake allows.toAllowsEnd artifacts
  · exact (keeps_release allows.toAllowsEnd).bind fun _ => trivial

/-- The run that a call is about, if it may launch it. -/
def Operation.runId? : Operation → Option String
  | .runActive request => some request.runId
  | _ => none

/-- A call leaves every run but its own as `Apart` says. -/
theorem keeps_program {executor : Option (CampaignExecutor E V S)} {maximum : Nat}
    {operation : Operation} (apart : operation.runId? ≠ some runId) :
    (program executor maximum operation).Everywhere (Apart runId) fun _ => True := by
  cases operation with
  | runActive request =>
    have apart : request.runId ≠ runId := fun same => apart (congrArg some same)
    have allows : Allows (Apart runId : CampaignService E → CampaignService E → Prop)
        (fun _ : CampaignWait V => True) request.runId := apart_allows (Ne.symm apart)
    refine Everywhere.bind ((everywhere_get Apart.refl).bind fun s => ?_) fun _ => everywhere_pure
    split
    · split
      · trivial
      · exact everywhere_pure
    · split
      · trivial
      · refine Everywhere.bind everywhere_ofResult fun _ => ?_
        refine (keeps_modify (apart_enqueue apart)).bind fun _ => ?_
        exact (keeps_queue allows.toAllowsQueue).bind fun _ => keeps_launched allows
  | cancel other =>
    refine Everywhere.bind ?_ fun _ => everywhere_pure
    refine (keeps_modify (apart_withCancel executor)).bind fun _ => ?_
    exact (everywhere_get Apart.refl).bind fun _ => everywhere_pure
  | deleteRun other permitted =>
    refine Everywhere.bind ((everywhere_get Apart.refl).bind fun s => ?_) fun _ => everywhere_pure
    refine Everywhere.bind everywhere_ofResult fun _ => ?_
    exact (keeps_modify apart_withoutRun).bind fun _ => everywhere_pure

end Everywhere

section Contract

variable (maximumConcurrency : Nat)

/-- What holds of a run while its call waits so. -/
def Phase (operation : Operation) (on : CampaignWait V) (s : CampaignService E) : Prop :=
  match operation, on with
  | .runActive request, .slot runId => runId = request.runId ∧ s.Unlaunched request.runId ∧
      s.executionCondition.Waits request.runId
  | .runActive request, .executor _ => s.Launched request.runId
  | _, _ => False

/-- The run's identifier is new. -/
def Fresh (operation : Operation) (s : CampaignService E) : Prop :=
  ∀ runId, operation.runId? = some runId →
    runId ∉ s.activeExecutionRunIds ∧ ∀ run ∈ s.runs, run.runId ≠ runId

def Ended (operation : Operation) (s : CampaignService E) : Prop :=
  ∀ runId, operation.runId? = some runId → s.Over runId

/-- Segments begin and end in a resting service. -/
def slotContract : Contract Operation (CampaignService E) (CampaignWait V) (CampaignReply S)
    CampaignRaised CampaignResult Unit where
  begins operation s _ := s.Resting maximumConcurrency ∧ Fresh operation s
  ready operation on _ _ later _ := later.Resting maximumConcurrency ∧ Phase operation on later
  rel operation _ on s := s.Resting maximumConcurrency ∧ Phase operation on s
  post operation _ _ s := s.Resting maximumConcurrency ∧ Ended operation s

end Contract

section Segments

variable {maximum : Nat} {executor : CampaignExecutor E V S} {request : CampaignRunRequest}
  {s : CampaignService E}

/-- A part of a run's call, from wait to wait, in the terms of the contract. -/
abbrev RunMeets (S : V → Type) (maximum : Nat) (request : CampaignRunRequest) (call : CampaignCall E V S α)
    (post : Unit → Except CampaignRaised α → CampaignService E → Prop) (s : CampaignService E) : Prop :=
  call.Meets ((slotContract (S := S) maximum).rel (.runActive request))
    ((slotContract (S := S) maximum).ready (.runActive request)) post () s

theorem Unlaunched.withCondition {change : Condition String → Condition String} {runId : String}
    (unlaunched : s.Unlaunched runId) : (s.withCondition change).Unlaunched runId :=
  ⟨unlaunched.absent, unlaunched.sole, unlaunched.idle⟩

theorem Slotted.resting (slotted : s.Slotted maximum) (unlocked : s.executionCondition.locked = false) :
    s.Resting maximum := ⟨slotted, unlocked⟩

/-- The lock is free between segments, so that no one ever waits for it. -/
theorem holding_meets {body : CampaignCall E V S α}
    {post : Unit → Except CampaignRaised α → CampaignService E → Prop}
    (unlocked : s.executionCondition.locked = false)
    (meets : RunMeets S maximum request body (fun first result s => post first result (s.withCondition .release))
      (s.withCondition .acquire)) : RunMeets S maximum request (holding body) post s := by
  rw [RunMeets, holding, meets_bind, meets_get]
  simp only [unlocked, Bool.false_eq_true, if_false]
  rw [meets_bind, meets_modify]
  dsimp only
  rw [ensure, meets_handle]
  refine meets.mono fun _ result s ended => ?_
  exact ended

theorem relock_meets {post : Unit → Except CampaignRaised Bool → CampaignService E → Prop}
    (unlocked : s.executionCondition.locked = false)
    (ends : post () (.ok false) (s.withCondition .acquire)) : RunMeets S maximum request relock post s := by
  rw [RunMeets, relock, meets_bind, meets_get]
  dsimp only
  rw [lockAgain, if_neg (by simp [unlocked])]
  exact ends

/-- What the segments inside the lock keep of a run that waits for its slot. -/
structure Choosing (maximum : Nat) (runId : String) (s : CampaignService E) : Prop
    extends Slotted maximum s, Unlaunched runId s

/-- How a sleeper that resumes leaves the lock and its run. -/
def Resumed (maximum : Nat) (runId : String) (result : Except CampaignRaised Unit)
    (s : CampaignService E) : Prop :=
  s.Choosing maximum runId ∧ ∀ raised, result = .error raised → raised = .cancelled

theorem wake_meets (reply : SlotReply) (resting : s.Resting maximum)
    (unlaunched : s.Unlaunched request.runId) :
    RunMeets S maximum request (wake request.runId reply) (fun _ => Resumed maximum request.runId) s := by
  have left : (s.withCondition (.leave request.runId)).Slotted maximum :=
    resting.withCondition resting.alert.leave
  have locked : ((s.withCondition (.leave request.runId)).withCondition .acquire).Slotted maximum :=
    left.withCondition left.alert
  have stays : ((s.withCondition (.leave request.runId)).withCondition .acquire).Unlaunched
      request.runId := unlaunched.withCondition.withCondition
  rw [RunMeets, wake, meets_bind, meets_modify]
  dsimp only
  rw [meets_bind]
  refine relock_meets (s := s.withCondition (.leave request.runId)) resting.unlocked ?_
  dsimp only
  split
  · refine ⟨⟨locked.withCondition locked.alert.notify, stays.withCondition⟩, ?_⟩
    rintro _ ⟨⟩
    rfl
  · refine ⟨⟨locked, stays⟩, ?_⟩
    rintro _ ⟨⟩

theorem sleep_meets (choosing : s.Choosing maximum request.runId)
    (full : ¬s.slotFree maximum = true) :
    RunMeets S maximum request (sleep request.runId) (fun _ => Resumed maximum request.runId) s := by
  rw [RunMeets, sleep, meets_bind, meets_modify]
  refine ⟨⟨(choosing.toSlotted.withCondition fun _ => full).resting rfl, rfl,
    choosing.toUnlaunched.withCondition, Condition.waits_sleep_self⟩, ?_⟩
  rintro reply later _ ⟨resting, -, unlaunched, waits⟩
  exact wake_meets reply resting unlaunched

/-- How the wait for a slot ends. -/
def Chosen (maximum : Nat) (runId : String) (result : Except CampaignRaised Unit)
    (s : CampaignService E) : Prop :=
  Resumed maximum runId result s ∧ (result = .ok () → s.slotFree maximum = true)

theorem waitForSlot_meets (rounds : Nat) (choosing : s.Choosing maximum request.runId) :
    RunMeets S maximum request (waitForSlot maximum request.runId rounds)
      (fun _ => Chosen maximum request.runId) s := by
  have found (s : CampaignService E) (choosing : s.Choosing maximum request.runId)
      (free : s.slotFree maximum = true) : Chosen maximum request.runId (.ok ()) s := by
    refine ⟨⟨choosing, ?_⟩, fun _ => free⟩
    rintro _ ⟨⟩
  have raised (raised : CampaignRaised) (s : CampaignService E)
      (resumed : Resumed maximum request.runId (.error raised) s) :
      Chosen maximum request.runId (.error raised) s := by
    refine ⟨resumed, ?_⟩
    rintro ⟨⟩
  induction rounds generalizing s with
  | zero =>
    rw [RunMeets, waitForSlot, meets_bind, meets_get]
    dsimp only
    split
    · next free => exact found s choosing free
    · next full =>
      rw [meets_bind]
      refine (sleep_meets choosing full).mono fun _ result s slept => ?_
      cases result with
      | error error => exact raised error s slept
      | ok _ =>
        refine raised .cancelled s ⟨slept.1, ?_⟩
        rintro _ ⟨⟩
        rfl
  | succ rounds ih =>
    rw [RunMeets, waitForSlot, meets_bind, meets_get]
    dsimp only
    split
    · next free => exact found s choosing free
    · next full =>
      rw [meets_bind]
      refine (sleep_meets choosing full).mono fun _ result s slept => ?_
      cases result with
      | error error => exact raised error s slept
      | ok _ => exact ih slept.1

/-- The task ends with an exception, and its run has come to its end where it was. -/
def Retired (maximum : Nat) (runId : String) (s : CampaignService E) (result : Except CampaignRaised α)
    (later : CampaignService E) : Prop :=
  later.Resting maximum ∧ later.Finished runId ∧
    later.activeExecutionRunIds = s.activeExecutionRunIds ∧ ∀ value, result ≠ .ok value

theorem finishRun_meets {raised : CampaignRaised} {finish : CampaignRunRecord → CampaignRunRecord}
    {unfinished : CampaignRunRecord → Bool} (resting : s.Resting maximum) (sole : s.Sole request.runId)
    (same : ∀ current, (finish current).runId = current.runId)
    (dead : ∀ current, (finish current).live = false)
    (finishes : ∀ current ∈ s.runs, current.runId = request.runId → unfinished current = false →
      current.live = false) :
    RunMeets S maximum request (finishRun request raised finish unfinished : CampaignCall E V S α)
      (fun _ => Retired maximum request.runId s) s := by
  rw [RunMeets, finishRun, meets_bind, meets_get]
  dsimp only
  split
  · next found =>
    refine ⟨resting, fun run member mine => ?_, rfl, ?_⟩
    · have none := List.find?_eq_none.mp found run member
      exact absurd mine (by simpa using none)
    · rintro _ ⟨⟩
  · next current found =>
    obtain ⟨member, mine⟩ := mem_of_runOf found
    split
    · have ended : (finish current).status ≠ .running := by
        intro running
        have alive := dead current
        simp [CampaignRunRecord.live, running] at alive
      refine ⟨(resting.updateRun ended).resting resting.unlocked, fun item updated itsId => ?_, rfl, ?_⟩
      · rcases mem_updateRun updated with ⟨rfl, -⟩ | ⟨-, other⟩
        · exact dead current
        · rw [same, mine] at other
          exact absurd itsId other
      · rintro _ ⟨⟩
    · next gone =>
      refine ⟨resting, fun item known itsId => ?_, rfl, ?_⟩
      · rw [sole.eq_of_mem found known itsId]
        exact finishes current member mine (Bool.eq_false_iff.mpr gone)
      · rintro _ ⟨⟩

theorem not_live {run : CampaignRunRecord} (queued : run.status ≠ .queued)
    (running : run.status ≠ .running) : run.live = false := by
  simp [CampaignRunRecord.live, queued, running]

theorem cancelQueued_dead (current : CampaignRunRecord) : (cancelQueued current).live = false :=
  not_live (by simp [cancelQueued]) (by simp [cancelQueued])

theorem cancelLaunched_dead (current : CampaignRunRecord) : (cancelLaunched current).live = false := by
  unfold cancelLaunched
  split
  · exact cancelQueued_dead current
  · simp [CampaignRunRecord.live]

def Queued (maximum : Nat) (runId : String) : Except CampaignRaised Unit → CampaignService E → Prop
  | .ok _, s => s.Resting maximum ∧ s.Launched runId
  | .error _, s => s.Resting maximum ∧ s.Over runId

theorem queue_meets (resting : s.Resting maximum) (unlaunched : s.Unlaunched request.runId) :
    RunMeets S maximum request (queue request maximum) (fun _ => Queued maximum request.runId) s := by
  rw [RunMeets, queue, rescue, meets_handle, acquireExecutionSlot]
  refine holding_meets resting.unlocked ?_
  rw [RunMeets, meets_bind]
  refine (waitForSlot_meets request.rounds ⟨resting.withCondition resting.alert,
    unlaunched.withCondition⟩).mono fun _ result s chosen => ?_
  obtain ⟨⟨choosing, cancelled⟩, free⟩ := chosen
  cases result with
  | ok _ =>
    refine ⟨((choosing.takeSlot (free rfl)).withCondition ?_).resting rfl, ?_, choosing.sole⟩
    · exact (choosing.toSlotted.takeSlot (free rfl)).alert
    · exact List.mem_insert_self
  | error raised =>
    obtain rfl := cancelled raised rfl
    have rests : (s.withCondition .release).Resting maximum :=
      (choosing.toSlotted.withCondition choosing.alert).resting rfl
    have stays : (s.withCondition .release).Unlaunched request.runId :=
      choosing.toUnlaunched.withCondition
    dsimp only
    rw [if_pos rfl]
    have same (current : CampaignRunRecord) : (cancelQueued current).runId = current.runId := rfl
    refine (finishRun_meets rests stays.sole same cancelQueued_dead ?_).mono ?_
    · intro current member mine unqueued
      exact not_live (by simpa using unqueued) (stays.idle current member mine)
    · rintro _ (raised | value) later ⟨resting, finished, same, errs⟩
      · exact ⟨resting, same ▸ stays.absent, finished⟩
      · exact absurd rfl (errs value)

structure Executing (maximum : Nat) (runId : String) (s : CampaignService E) : Prop
    extends Resting maximum s, Launched runId s

theorem Executing.update {run : CampaignRunRecord} (executing : s.Executing maximum request.runId)
    (same : run.runId = request.runId) : (s.updateRun run).Executing maximum request.runId := by
  refine ⟨⟨executing.toSlotted.updateRun_launched ?_, executing.unlocked⟩, executing.present,
    sole_updateRun executing.sole⟩
  rw [same]
  exact executing.toLaunched

theorem finished_updateRun {run : CampaignRunRecord} (same : run.runId = request.runId)
    (dead : run.live = false) : (s.updateRun run).Finished request.runId := by
  intro item updated mine
  rcases mem_updateRun updated with ⟨rfl, -⟩ | ⟨-, other⟩
  · exact dead
  · rw [same] at other
    exact absurd mine other

theorem execute_meets (executing : s.Executing maximum request.runId) :
    RunMeets S maximum request (execute executor request)
      (fun _ _ later => later.Executing maximum request.runId) s := by
  have every : (execute executor request).Everywhere
      (fun a b : CampaignService E => b = { a with executor := b.executor })
      fun on => ∃ v, on = .executor v :=
    everywhere_zoom (everywhere_anything _) (fun _ _ _ => rfl) fun v _ => ⟨v, rfl⟩
  have stays (a b : CampaignService E) (executing : a.Executing maximum request.runId)
      (same : b = { a with executor := b.executor }) : b.Executing maximum request.runId := by
    rw [same]
    exact ⟨⟨⟨executing.nodup, executing.bounded, executing.owned, executing.single, executing.alert⟩,
      executing.unlocked⟩, executing.present, executing.sole⟩
  have keeps : (execute executor request).Keeps (fun _ s => s.Executing maximum request.runId)
      (fun _ on => ∃ v, on = .executor v)
      ((slotContract (S := S) maximum).ready (.runActive request)) (fun _ _ => True)
      fun _ _ _ => True := by
    refine every.keeps ?_ ?_ ?_
    · exact fun _ a b executing _ same => ⟨stays a b executing same, trivial⟩
    · exact fun _ _ _ waits _ => waits
    · rintro _ _ _ _ _ _ ⟨v, rfl⟩ ready - -
      exact ⟨⟨ready.1, ready.2⟩, trivial⟩
  refine (keeps () s executing trivial).weaken ?_ ?_
  · rintro _ _ s ⟨executing, v, rfl⟩
    exact ⟨executing.toResting, executing.toLaunched⟩
  · exact fun _ _ _ ended => ended.1

theorem giveUp_meets (attempts : Nat) (raised : CampaignRaised)
    (executing : s.Executing maximum request.runId) :
    RunMeets S maximum request (giveUp request attempts raised : CampaignCall E V S α)
      (fun _ result later => later.Executing maximum request.runId ∧ ∀ value, result ≠ .ok value) s := by
  cases raised with
  | cancelled =>
    refine ⟨executing, ?_⟩
    rintro _ ⟨⟩
  | exception kind text =>
    refine ⟨executing.update rfl, ?_⟩
    rintro _ ⟨⟩

theorem attempts_meets (executing : s.Executing maximum request.runId) :
    RunMeets S maximum request (attempts executor request)
      (fun _ _ later => later.Executing maximum request.runId) s := by
  have gives (attempts : Nat) (raised : CampaignRaised) (s : CampaignService E)
      (executing : s.Executing maximum request.runId) : RunMeets S maximum request
        (giveUp request attempts raised : CampaignCall E V S RunArtifactSet)
        (fun _ _ later => later.Executing maximum request.runId) s :=
    (giveUp_meets attempts raised executing).mono fun _ _ _ ended => ended.1
  rw [RunMeets, attempts, rescue, meets_handle]
  refine (execute_meets executing).mono fun _ result s executing => ?_
  rcases result with (⟨kind, text⟩ | _) | artifacts
  · dsimp only
    rw [onFailed, meets_bind, meets_ofResult]
    split
    · split
      · rw [rescue, meets_handle]
        refine (execute_meets executing).mono fun _ result s executing => ?_
        cases result with
        | error raised => exact gives 1 raised s executing
        | ok artifacts => exact executing
      · exact gives 0 _ s executing
    · exact executing
  · exact executing
  · exact executing

theorem runStatus_dead (upper : String) :
    runStatus upper ≠ .queued ∧ runStatus upper ≠ .running := by
  unfold runStatus
  split
  · simp
  · split <;> simp

theorem finished_dead (artifacts : RunArtifactSet) (passed : Bool) :
    (finished request artifacts passed).live = false := by
  obtain ⟨queued, running⟩ := runStatus_dead artifacts.upperStatus
  unfold finished CampaignRunRequest.record CampaignRunRecord.live
  dsimp only
  split
  · rfl
  · simp [queued, running]

/-- How the launched part leaves its run, before the handlers. -/
def Intaken (maximum : Nat) (runId : String) (result : Except CampaignRaised ReviewItem)
    (s : CampaignService E) : Prop :=
  s.Executing maximum runId ∧ ∀ review, result = .ok review → s.Finished runId

theorem intake_meets (artifacts : RunArtifactSet) (executing : s.Executing maximum request.runId) :
    RunMeets S maximum request (intake request artifacts) (fun _ => Intaken maximum request.runId) s := by
  have raised (raised : CampaignRaised) (s : CampaignService E)
      (executing : s.Executing maximum request.runId) : Intaken maximum request.runId (.error raised) s := by
    refine ⟨executing, ?_⟩
    rintro _ ⟨⟩
  rw [RunMeets, intake, meets_bind, meets_ofResult]
  split
  · next passed _ =>
    have updated : (s.updateRun (finished request artifacts passed)).Executing maximum request.runId :=
      executing.update rfl
    have dead : (s.updateRun (finished request artifacts passed)).Finished request.runId :=
      finished_updateRun rfl (finished_dead artifacts passed)
    rw [meets_bind, meets_modify]
    dsimp only
    rw [meets_bind, meets_ofResult]
    split
    · next reviewId _ =>
      have reviewed (review : ReviewItem) : ((s.updateRun (finished request artifacts passed)).addReview
          review).Executing maximum request.runId :=
        ⟨⟨⟨updated.nodup, updated.bounded, updated.owned, updated.single, updated.alert⟩,
          updated.unlocked⟩, updated.present, updated.sole⟩
      rw [meets_bind, meets_modify]
      dsimp only
      rw [meets_bind, meets_ofResult]
      split
      · exact ⟨reviewed _, fun _ _ => dead⟩
      · exact raised _ _ (reviewed _)
    · exact raised _ _ updated
  · exact raised _ _ executing

theorem launch_meets (executing : s.Executing maximum request.runId) :
    RunMeets S maximum request (launch executor request) (fun _ => Intaken maximum request.runId) s := by
  have raised (raised : CampaignRaised) (s : CampaignService E)
      (executing : s.Executing maximum request.runId) : Intaken maximum request.runId (.error raised) s := by
    refine ⟨executing, ?_⟩
    rintro _ ⟨⟩
  rw [RunMeets, launch, meets_bind, meets_get]
  dsimp only
  split
  · rw [meets_bind, meets_modify]
    exact raised _ _ (executing.update rfl)
  · rw [meets_bind, meets_ofResult]
    split
    · rw [meets_bind, meets_modify]
      dsimp only
      rw [meets_bind]
      refine (attempts_meets (executing.update rfl)).mono fun _ result s executing => ?_
      cases result with
      | error error => exact raised error s executing
      | ok artifacts =>
        dsimp only
        split
        · exact raised _ s executing
        · exact intake_meets artifacts executing
    · exact raised _ s executing

theorem release_meets (resting : s.Resting maximum) (finished : s.Finished request.runId) :
    RunMeets S maximum request (releaseExecutionSlot request.runId) (fun _ _ later =>
      later.Resting maximum ∧ later.Over request.runId) s := by
  rw [releaseExecutionSlot]
  refine holding_meets resting.unlocked ?_
  have acquired : (s.withCondition .acquire).Slotted maximum := resting.withCondition resting.alert
  have freed : (((s.withCondition .acquire).freeSlot request.runId).withCondition
      .notifyAll).Slotted maximum := acquired.freeSlot finished
  refine ⟨(freed.withCondition freed.alert).resting rfl, ?_, finished⟩
  intro present
  have left := (List.mem_filter.mp present).2
  simp at left

/-- The launched part ends with its run at its end, and its slot free. -/
theorem launched_meets (executing : s.Executing maximum request.runId) :
    RunMeets S maximum request (launched executor request) (fun _ _ later =>
      later.Resting maximum ∧ later.Over request.runId) s := by
  have release (result : Except CampaignRaised ReviewItem) (s : CampaignService E)
      (resting : s.Resting maximum) (finished : s.Finished request.runId) :
      RunMeets S maximum request ((releaseExecutionSlot request.runId).andThen fun _ => done result)
        (fun _ _ later => later.Resting maximum ∧ later.Over request.runId) s := by
    rw [RunMeets, meets_andThen]
    refine (release_meets resting finished).mono fun _ result s ended => ?_
    cases result with
    | error raised => exact ended
    | ok _ => exact ended
  rw [RunMeets, launched, ensure, meets_handle, rescue, meets_handle]
  refine (launch_meets executing).mono fun _ result s intaken => ?_
  obtain ⟨executing, finished⟩ := intaken
  have handled (raised : CampaignRaised) (finish : CampaignRunRecord → CampaignRunRecord)
      (same : ∀ current, (finish current).runId = current.runId)
      (dead : ∀ current, (finish current).live = false) :
      RunMeets S maximum request (finishRun request raised finish (·.live) : CampaignCall E V S ReviewItem)
        (fun _ result s => RunMeets S maximum request
          ((releaseExecutionSlot request.runId).andThen fun _ => done result)
          (fun _ _ later => later.Resting maximum ∧ later.Over request.runId) s) s := by
    refine (finishRun_meets executing.toResting executing.sole same dead fun _ _ _ => id).mono ?_
    rintro _ result later ⟨resting, finished, -, -⟩
    exact release result later resting finished
  cases result with
  | ok review => exact release (.ok review) s executing.toResting (finished review rfl)
  | error raised =>
    cases raised with
    | cancelled =>
      exact handled .cancelled cancelLaunched cancelLaunched_runId cancelLaunched_dead
    | exception kind text =>
      refine handled (.exception kind text) (failLaunched text) (fun _ => rfl) fun _ => ?_
      simp [failLaunched, CampaignRunRecord.live]

end Segments

section Operations

variable {maximum : Nat} {executor : Option (CampaignExecutor E V S)} {s : CampaignService E}

/-- A service that rests goes on resting, whatever has happened to its reviews, keys, cancellations
and executor. -/
theorem Resting.congr {s' : CampaignService E} (resting : s.Resting maximum) (runs : s'.runs = s.runs)
    (active : s'.activeExecutionRunIds = s.activeExecutionRunIds)
    (condition : s'.executionCondition = s.executionCondition) : s'.Resting maximum :=
  ⟨resting.of_sublist (runs ▸ .refl _) active condition, condition ▸ resting.unlocked⟩

theorem Fresh.unlaunched {request : CampaignRunRequest} (fresh : Fresh (.runActive request) s) :
    (s.enqueue request).Unlaunched request.runId := by
  obtain ⟨absent, new⟩ := fresh _ rfl
  refine ⟨absent, ?_, ?_⟩
  · have none : s.runs.countP (·.runId = request.runId) = 0 := by
      refine List.countP_eq_zero.mpr fun run member same => ?_
      exact new run member (of_decide_eq_true same)
    rw [Sole, enqueue, List.countP_append, none]
    simp [CampaignRunRequest.record]
  · intro run member same
    rcases List.mem_append.mp member with old | added
    · exact absurd same (new run old)
    · obtain rfl := List.mem_singleton.mp added
      rintro ⟨⟩

theorem Fresh.notBegun {request : CampaignRunRequest} (fresh : Fresh (.runActive request) s) :
    s.Over request.runId := by
  obtain ⟨absent, new⟩ := fresh _ rfl
  exact ⟨absent, fun run member same => absurd same (new run member)⟩

theorem runActive_meets {request : CampaignRunRequest} (resting : s.Resting maximum)
    (fresh : Fresh (.runActive request) s) :
    RunMeets S maximum request (runActive executor maximum request) (fun _ _ later =>
      later.Resting maximum ∧ later.Over request.runId) s := by
  unfold runActive
  rw [RunMeets, meets_bind, meets_get]
  dsimp only
  split
  · split
    · exact ⟨resting, fresh.notBegun⟩
    · exact ⟨resting, fresh.notBegun⟩
  · split
    · exact ⟨resting, fresh.notBegun⟩
    · rw [meets_bind, meets_ofResult]
      split
      · rw [runNew, meets_bind, meets_modify]
        dsimp only
        rw [meets_bind]
        have enqueued : (s.enqueue request).Resting maximum := resting.enqueue.resting resting.unlocked
        refine (queue_meets enqueued fresh.unlaunched).mono fun _ result s queued => ?_
        cases result with
        | error raised => exact queued
        | ok _ => exact launched_meets ⟨queued.1, queued.2⟩
      · exact ⟨resting, fresh.notBegun⟩

theorem cancelQueuedRun_resting (runId : String) (resting : s.Resting maximum) :
    (s.cancelQueuedRun runId).Resting maximum := by
  unfold cancelQueuedRun
  split
  · exact resting
  · refine (resting.updateRun ?_).resting resting.unlocked
    rintro ⟨⟩

theorem withCancel_resting (runId : String) (resting : s.Resting maximum) :
    (s.withCancel executor runId).Resting maximum := by
  have marked : (s.markCancelled runId).Resting maximum := resting.congr rfl rfl rfl
  have queued := cancelQueuedRun_resting runId marked
  unfold withCancel requestCancel
  split
  · exact queued
  · exact queued.congr rfl rfl rfl

theorem withoutRun_resting (runId : String) (resting : s.Resting maximum) :
    (s.withoutRun runId).Resting maximum := by
  have fewer : (s.withoutRun runId).runs.Sublist s.runs := List.filter_sublist
  exact (resting.of_sublist fewer rfl rfl).resting resting.unlocked

/-- Every segment of every call meets the contract of the slots. -/
theorem slotContract_met :
    (slotContract (S := S) maximum).Met (program executor maximum) := by
  rintro operation s ⟨⟩ ⟨resting, fresh⟩
  cases operation with
  | runActive request =>
    have gone (later : CampaignService E) (ended : later.Over request.runId) :
        Ended (.runActive request) later := by
      rintro _ ⟨⟩
      exact ended
    rw [program, meets_bind]
    refine (runActive_meets resting fresh).mono fun _ result later ended => ?_
    cases result with
    | error raised => exact ⟨ended.1, gone later ended.2⟩
    | ok review => exact ⟨ended.1, gone later ended.2⟩
  | cancel runId =>
    refine ⟨withCancel_resting runId resting, ?_⟩
    rintro _ ⟨⟩
  | deleteRun runId permitted =>
    have none (later : CampaignService E) : Ended (.deleteRun runId permitted) later := by
      rintro _ ⟨⟩
    rw [program, meets_bind, deleteRun, meets_bind, meets_get]
    dsimp only
    rw [meets_bind, meets_ofResult]
    split
    · exact ⟨withoutRun_resting runId resting, none _⟩
    · exact ⟨resting, none _⟩

end Operations

end CampaignService
end CrazySwarm
