import CrazySwarm.Lib.Runs
import CrazySwarm.Replanning

/-! Goal updates and the bounded queue that keeps the newest pending one of each source. An update
is compared with the pending one of its source alone, which the consumer takes away. -/
namespace CrazySwarm

variable {F : Type}

structure GoalUpdate (F : Type) where
  sourceId : String
  sequence : Nat
  updateId : String
  sourceTimestampS : F
  requestedEffectiveTimeS : F
  goalRevision : Nat
  goalRegion : Region3D F
  deriving DecidableEq, Repr

structure BoundedGoalUpdateQueue (F : Type) where
  maximumSources : Nat
  pending : Dict String (GoalUpdate F) := .empty
  seenUpdateIds : List String := []

namespace BoundedGoalUpdateQueue

/-- `__init__`. -/
def create (maximumSources : Nat) : Except (Fault F) (BoundedGoalUpdateQueue F) := do
  require (decide (1 ≤ maximumSources ∧ maximumSources ≤ 256))
    (.value "goal update source limit must be in 1..256")
  return { maximumSources }

/-- The update is not newer than the pending one of its source. -/
def isStale (queue : BoundedGoalUpdateQueue F) (update : GoalUpdate F) : Bool :=
  match queue.pending.get? update.sourceId with
  | some existing => update.sequence ≤ existing.sequence || update.goalRevision ≤ existing.goalRevision
  | none => false

/-- Nothing is pending of the source, and no other source is admitted. -/
def isFull (queue : BoundedGoalUpdateQueue F) (update : GoalUpdate F) : Bool :=
  (queue.pending.get? update.sourceId).isNone && queue.maximumSources ≤ queue.pending.items.length

def submit (queue : BoundedGoalUpdateQueue F) (update : GoalUpdate F) :
    BoundedGoalUpdateQueue F × GoalUpdateDisposition :=
  if update.updateId ∈ queue.seenUpdateIds then (queue, .duplicateIdempotent)
  else if queue.isStale update then (queue, .rejectedStale)
  else if queue.isFull update then (queue, .blocked)
  else ({ queue with
    pending := queue.pending.insert update.sourceId update
    seenUpdateIds := update.updateId :: queue.seenUpdateIds }, .accepted)

def pop (queue : BoundedGoalUpdateQueue F) (sourceId : String) :
    BoundedGoalUpdateQueue F × Option (GoalUpdate F) :=
  ({ queue with pending := queue.pending.erase sourceId }, queue.pending.get? sourceId)

end BoundedGoalUpdateQueue

inductive QueueCall (F : Type) where
  | submit (update : GoalUpdate F)
  | pop (sourceId : String)
  deriving DecidableEq, Repr

structure QueueHistory (F : Type) where
  queue : BoundedGoalUpdateQueue F
  accepted : List (GoalUpdate F) := []

namespace QueueHistory

section Statement

/-- One call of a producer or of the consumer. -/
def step (history : QueueHistory F) : QueueCall F → QueueHistory F
  | .submit update =>
    let (queue, disposition) := history.queue.submit update
    ⟨queue, if disposition = .accepted then history.accepted ++ [update] else history.accepted⟩
  | .pop sourceId => { history with queue := (history.queue.pop sourceId).1 }

def Newer (earlier later : GoalUpdate F) : Prop :=
  earlier.sourceId = later.sourceId →
    earlier.sequence < later.sequence ∧ earlier.goalRevision < later.goalRevision

def InOrder (history : QueueHistory F) : Prop := history.accepted.Pairwise Newer

/-- No update is accepted twice, and no more sources wait than are admitted. -/
def Bounded (history : QueueHistory F) : Prop :=
  (history.accepted.map GoalUpdate.updateId).Nodup ∧
    history.queue.pending.items.length ≤ history.queue.maximumSources

def Fresh (history : QueueHistory F) : QueueCall F → Prop
  | .submit update =>
    history.queue.pending.get? update.sourceId = none →
      update.updateId ∉ history.queue.seenUpdateIds → history.queue.isFull update = false →
        ∀ earlier ∈ history.accepted, Newer earlier update
  | .pop _ => True

end Statement

variable {history : QueueHistory F} {call : QueueCall F} {calls : List (QueueCall F)}

section Steps

/-- A submission changes nothing, or the update becomes the pending one of its source. -/
theorem submit_cases (history : QueueHistory F) (update : GoalUpdate F) :
    ((update.updateId ∈ history.queue.seenUpdateIds ∨ history.queue.isStale update = true ∨
        history.queue.isFull update = true) ∧ history.step (.submit update) = history) ∨
      (update.updateId ∉ history.queue.seenUpdateIds ∧ history.queue.isStale update = false ∧
        history.queue.isFull update = false ∧
        history.step (.submit update) =
          ⟨{ history.queue with
              pending := history.queue.pending.insert update.sourceId update
              seenUpdateIds := update.updateId :: history.queue.seenUpdateIds },
            history.accepted ++ [update]⟩) := by
  by_cases seen : update.updateId ∈ history.queue.seenUpdateIds
  · have submitted : history.queue.submit update = (history.queue, .duplicateIdempotent) :=
      if_pos seen
    exact .inl ⟨.inl seen, by simp [step, submitted]⟩
  by_cases stale : history.queue.isStale update = true
  · have submitted : history.queue.submit update = (history.queue, .rejectedStale) :=
      (if_neg seen).trans (if_pos stale)
    exact .inl ⟨.inr (.inl stale), by simp [step, submitted]⟩
  by_cases full : history.queue.isFull update = true
  · have submitted : history.queue.submit update = (history.queue, .blocked) :=
      (if_neg seen).trans ((if_neg stale).trans (if_pos full))
    exact .inl ⟨.inr (.inr full), by simp [step, submitted]⟩
  · have submitted : history.queue.submit update =
        ({ history.queue with
            pending := history.queue.pending.insert update.sourceId update
            seenUpdateIds := update.updateId :: history.queue.seenUpdateIds }, .accepted) :=
      (if_neg seen).trans ((if_neg stale).trans (if_neg full))
    exact .inr ⟨seen, by simpa using stale, by simpa using full, by simp [step, submitted]⟩

structure Kept (history : QueueHistory F) : Prop where
  bounded : history.Bounded
  seen : ∀ update ∈ history.accepted, update.updateId ∈ history.queue.seenUpdateIds
  newest : history.InOrder → ∀ sourceId update, history.queue.pending.get? sourceId = some update →
    ∀ earlier ∈ history.accepted, earlier.sourceId = sourceId →
      earlier.sequence ≤ update.sequence ∧ earlier.goalRevision ≤ update.goalRevision

theorem length_insert_le {pending : Dict String (GoalUpdate F)} {maximumSources : Nat}
    {update : GoalUpdate F} (within : pending.items.length ≤ maximumSources)
    (room : ((pending.get? update.sourceId).isNone &&
      decide (maximumSources ≤ pending.items.length)) = false) :
    (pending.insert update.sourceId update).items.length ≤ maximumSources := by
  have values (d : Dict String (GoalUpdate F)) : d.items.length = d.values.length := by
    simp [Dict.values]
  cases found : pending.get? update.sourceId with
  | some existing =>
    obtain ⟨before, after, left, right⟩ := pending.insert_replaces update found
    rw [values] at within ⊢
    rw [right]
    rw [left] at within
    simpa using within
  | none =>
    simp only [found, Option.isNone_none, Bool.true_and, decide_eq_false_iff_not] at room
    rw [values, pending.insert_appends update found, List.length_append, ← values]
    simp only [List.length_singleton]
    omega

theorem step_kept (kept : history.Kept) : (history.step call).Kept := by
  obtain ⟨⟨once, within⟩, seen, newest⟩ := kept
  cases call with
  | pop sourceId =>
    refine ⟨⟨once, ?_⟩, seen, fun inOrder source update found => ?_⟩
    · exact (List.length_filter_le _ _).trans within
    · have still : history.queue.pending.get? source = some update := by
        simp only [step, BoundedGoalUpdateQueue.pop, Dict.get?_erase] at found
        split at found
        · cases found
        · exact found
      exact newest inOrder source update still
  | submit update =>
    rcases submit_cases history update with ⟨-, same⟩ | ⟨new, -, room, same⟩
    · rw [same]
      exact ⟨⟨once, within⟩, seen, newest⟩
    · rw [same]
      refine ⟨⟨?_, length_insert_le within room⟩, ?_, ?_⟩
      · rw [List.map_append, List.nodup_append]
        refine ⟨once, by simp, ?_⟩
        intro id among other again
        obtain ⟨earlier, earlierAmong, rfl⟩ := List.mem_map.mp among
        obtain rfl : other = update.updateId := by simpa using again
        exact fun same => new (same ▸ seen earlier earlierAmong)
      · intro earlier among
        rcases List.mem_append.mp among with before | now
        · exact List.mem_cons_of_mem _ (seen earlier before)
        · obtain rfl := List.mem_singleton.mp now
          exact List.mem_cons_self
      · intro inOrder source pending found earlier among sameSource
        obtain ⟨ordered, -, last⟩ := List.pairwise_append.mp inOrder
        simp only [Dict.get?_insert] at found
        split at found
        · next here =>
          cases found
          rcases List.mem_append.mp among with before | now
          · have newer := last earlier before update (by simp) (sameSource.trans here.symm)
            exact ⟨newer.1.le, newer.2.le⟩
          · obtain rfl := List.mem_singleton.mp now
            exact ⟨le_rfl, le_rfl⟩
        · next elsewhere =>
          rcases List.mem_append.mp among with before | now
          · exact newest ordered source pending found earlier before sameSource
          · obtain rfl := List.mem_singleton.mp now
            exact absurd sameSource elsewhere

theorem step_inOrder_iff (kept : history.Kept) :
    (history.step call).InOrder ↔ history.InOrder ∧ Fresh history call := by
  cases call with
  | pop sourceId => exact (and_iff_left trivial).symm
  | submit update =>
    rcases submit_cases history update with ⟨refused, same⟩ | ⟨new, current, room, same⟩
    · rw [same]
      refine (and_iff_left fun vacant unseen admitted => ?_).symm
      rcases refused with seen | stale | full
      · exact absurd seen unseen
      · simp [BoundedGoalUpdateQueue.isStale, vacant] at stale
      · simp [admitted] at full
    · rw [same]
      have appended : (history.accepted ++ [update]).Pairwise Newer ↔
          history.InOrder ∧ ∀ earlier ∈ history.accepted, Newer earlier update := by
        rw [List.pairwise_append]
        simp [InOrder]
      refine appended.trans (and_congr_right fun inOrder => ?_)
      constructor
      · exact fun newer _ _ _ => newer
      · intro fresh
        cases found : history.queue.pending.get? update.sourceId with
        | none => exact fresh found new room
        | some existing =>
          intro earlier among sameSource
          have below := kept.newest inOrder update.sourceId existing found earlier among sameSource
          simp only [BoundedGoalUpdateQueue.isStale, found, Bool.or_eq_false_iff,
            decide_eq_false_iff_not, not_le] at current
          exact ⟨below.1.trans_lt current.1, below.2.trans_lt current.2⟩

end Steps

section Runs

theorem run_kept (kept : history.Kept) : (Runs.run step history calls).Kept :=
  Runs.invariant (I := Kept) (fun _ _ => step_kept) kept

theorem run_inOrder_iff (kept : history.Kept) :
    (Runs.run step history calls).InOrder ↔
      history.InOrder ∧ Runs.Along step Fresh history calls := by
  induction calls generalizing history with
  | nil => simp [Runs.Along]
  | cons call rest ih =>
    rw [Runs.run_cons, ih (step_kept kept), step_inOrder_iff kept, Runs.Along, and_assoc]

/-- Over every run no update is accepted twice and no more sources wait than are admitted. The
accepted updates of each source are in order if and only if every update that is accepted for a
source with nothing pending is newer than those accepted of it before. -/
theorem goal_updates_inOrder_iff {maximumSources : Nat} {queue : BoundedGoalUpdateQueue F}
    (made : BoundedGoalUpdateQueue.create maximumSources = .ok queue) (calls : List (QueueCall F)) :
    (Runs.run step ⟨queue, []⟩ calls).Bounded ∧
      ((Runs.run step ⟨queue, []⟩ calls).InOrder ↔ Runs.Along step Fresh ⟨queue, []⟩ calls) := by
  obtain ⟨_, -, kept⟩ := bind_eq_ok.mp made
  cases kept
  have initial : Kept (F := F) ⟨{ maximumSources }, []⟩ :=
    ⟨⟨List.nodup_nil, Nat.zero_le _⟩, nofun, fun _ _ _ found => by cases found⟩
  refine ⟨(run_kept initial).bounded, ?_⟩
  rw [run_inOrder_iff initial]
  exact and_iff_right .nil

end Runs

section Instances

def goal (updateId : String) (revision : Nat) : GoalUpdate ℚ where
  sourceId := "operator"
  sequence := revision
  updateId
  sourceTimestampS := 0
  requestedEffectiveTimeS := 0
  goalRevision := revision
  goalRegion := ⟨"pad", ⟨0, 0, 0⟩, ⟨1, 1, 1⟩⟩

/-- After the consumer has taken an update, an older one of the same source is accepted. -/
theorem older_update_accepted_after_pop :
    ∃ queue : BoundedGoalUpdateQueue ℚ, BoundedGoalUpdateQueue.create 16 = .ok queue ∧
      ¬ (Runs.run step ⟨queue, []⟩
        [.submit (goal "second" 2), .pop "operator", .submit (goal "first" 1)]).InOrder := by
  refine ⟨{ maximumSources := 16 }, rfl, ?_⟩
  have accepted : (Runs.run step ⟨{ maximumSources := 16 }, []⟩
      [.submit (goal "second" 2), .pop "operator", .submit (goal "first" 1)]).accepted =
        [goal "second" 2, goal "first" 1] := by
    decide
  rw [InOrder, accepted]
  intro inOrder
  have newer := (List.pairwise_cons.mp inOrder).1 (goal "first" 1) (by simp) rfl
  simp [goal] at newer

/-- Three updates in order, with a pop between the first two. -/
theorem goal_updates_inOrder_iff_three :
    ∃ queue : BoundedGoalUpdateQueue ℚ, BoundedGoalUpdateQueue.create 2 = .ok queue ∧
      (Runs.run step ⟨queue, []⟩ [.submit (goal "first" 1), .pop "operator",
        .submit (goal "second" 2), .submit (goal "third" 3)]).Bounded ∧
      ((Runs.run step ⟨queue, []⟩ [.submit (goal "first" 1), .pop "operator",
          .submit (goal "second" 2), .submit (goal "third" 3)]).InOrder ↔
        Runs.Along step Fresh ⟨queue, []⟩ [.submit (goal "first" 1), .pop "operator",
          .submit (goal "second" 2), .submit (goal "third" 3)]) := by
  have made : BoundedGoalUpdateQueue.create 2 =
      .ok ({ maximumSources := 2 } : BoundedGoalUpdateQueue ℚ) := rfl
  exact ⟨_, made, goal_updates_inOrder_iff made _⟩

end Instances

end QueueHistory

end CrazySwarm
