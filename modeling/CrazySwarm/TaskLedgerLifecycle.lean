import CrazySwarm.TaskLedgerReplay
import Mathlib.Data.List.Chain
import Mathlib.Logic.Relation

/-! The lifecycle of a fleet task: the states that it moves through, what its record holds in each
of them, and the walk that its evidence describes. -/
namespace CrazySwarm

/-- Where a task may be moved from a state. A transfer assigns a task that is under way anew. -/
def TaskState.successors : TaskState → List TaskState
  | .declared | .retryPending => [.assigned, .aborted]
  | .assigned => [.assigned, .inProgress, .retryPending, .aborted]
  | .inProgress => [.assigned, .paused, .retryPending, .completed, .aborted]
  | .paused => [.assigned, .inProgress, .retryPending, .aborted]
  | .completed | .aborted => []

def TaskState.Moves (state next : TaskState) : Prop := next = state ∨ next ∈ state.successors

namespace TaskLedger
open PyFloat Relation

variable {F : Type} [PyFloat F]

/-- What a record holds in its state. A task that is aborted keeps its owner and its mission run. -/
structure Staged (record : TaskRecord F) : Prop where
  leased : Leased record
  attempts : record.attempts = record.leaseGeneration
  tried : record.state ≠ .aborted → (record.leaseGeneration = 0 ↔ record.state = .declared)
  owned : record.state ≠ .aborted →
    (record.ownerVehicleId.isSome ↔ record.state ∈ [.assigned, .inProgress, .paused, .completed])
  flown : record.state ≠ .aborted →
    (record.childMissionRunId.isSome ↔ record.state ∈ [.inProgress, .paused, .completed])
  decided : record.decision = replayDecision record.state ∨
    record.state ∈ [.assigned, .inProgress, .paused] ∧ record.decision = some .reassign

/-- What the calls after it make of a record. One that is completed or aborted stays as it is. -/
structure Outlives (record later : TaskRecord F) : Prop where
  definition : later.definition = record.definition
  moves : ReflTransGen TaskState.Moves record.state later.state
  events : record.events <+: later.events
  attempts : record.attempts ≤ later.attempts
  final : record.state.successors = [] → later = record

/-- The evidence tells every move of the task since its declaration, up to the state it is in. -/
structure Walked (record : TaskRecord F) : Prop where
  moves : (.declared :: record.events.map TaskEvidenceEvent.state).IsChain TaskState.Moves
  ends : (record.events.map TaskEvidenceEvent.state).getLast?.getD .declared = record.state

def WellStaged (ledger : TaskLedger F) : Prop :=
  ∀ taskId record, ledger.records.get? taskId = some record → Staged record

def WellTold (ledger : TaskLedger F) : Prop :=
  ∀ taskId record, ledger.records.get? taskId = some record → Walked record

def Outlived (ledger next : TaskLedger F) : Prop :=
  ∀ taskId record, ledger.records.get? taskId = some record →
    ∃ later, next.records.get? taskId = some later ∧ Outlives record later

section Writes
variable {ledger : TaskLedger F} {taskId : String} {record updated : TaskRecord F}
  {reason : Option String}

theorem write_moves (write : Write ledger taskId record updated reason) :
    record.state.Moves updated.state := by
  cases write with
  | assign available issued =>
    simp only [List.mem_cons, List.not_mem_nil, or_false] at available
    rcases available with state | state <;> simp [TaskState.Moves, state, TaskState.successors]
  | transfer held apart state issued =>
    simp only [List.mem_cons, List.not_mem_nil, or_false] at state
    rcases state with state | state | state <;>
      simp [TaskState.Moves, state, TaskState.successors]
  | retry state =>
    simp only [List.mem_cons, List.not_mem_nil, or_false] at state
    rcases state with state | state | state <;>
      simp [TaskState.Moves, state, TaskState.successors]
  | start held state | pause held state | resume held state | complete held state =>
    simp [TaskState.Moves, state, TaskState.successors]
  | renew held => exact .inl rfl
  | progress held state | decide state => exact .inl rfl
  | abort state =>
    right
    cases before : record.state <;> simp_all [TaskState.successors]

/-- Nothing is written to a task that has ended. -/
theorem not_final (write : Write ledger taskId record updated reason) (leased : Leased record) :
    record.state.successors ≠ [] := by
  intro final
  have ended : record.state = .completed ∨ record.state = .aborted := by
    cases state : record.state <;> simp_all [TaskState.successors]
  cases write with
  | assign available issued => rcases ended with state | state <;> simp [state] at available
  | transfer held apart state issued | retry state | abort state =>
    rcases ended with h | h <;> simp [h] at state
  | renew held =>
    have state := leased.state held
    rcases ended with h | h <;> simp [h] at state
  | start held state | pause held state | resume held state | complete held state
  | progress held state | decide state =>
    rcases ended with h | h <;> simp [h] at state

theorem write_staged (write : Write ledger taskId record updated reason) (staged : Staged record) :
    Staged updated := by
  have leased := write_leased write staged.leased
  obtain ⟨before, attempts, tried, owned, flown, decided⟩ := staged
  cases write with
  | assign available issued =>
    have idle : record.childMissionRunId = none := by
      simp only [List.mem_cons, List.not_mem_nil, or_false] at available
      rcases available with state | state <;> simpa [state] using flown
    exact ⟨leased, by simp [attempts], by simp, by simp, by simp [idle], .inl rfl⟩
  | transfer held apart state issued =>
    exact ⟨leased, by simp [attempts], by simp, by simp, by simp, .inr (by simp)⟩
  | start held state | pause held state | resume held state =>
    refine ⟨leased, attempts, by simpa [state] using tried, by simpa [state] using owned, ?_, ?_⟩
    · simp_all
    · simpa [state, replayDecision] using decided
  | progress held state => exact ⟨leased, attempts, tried, owned, flown, decided⟩
  | decide state =>
    exact ⟨leased, attempts, tried, owned, flown, .inr ⟨by simp [state], rfl⟩⟩
  | renew held => exact ⟨leased, attempts, tried, owned, flown, decided⟩
  | retry state =>
    refine ⟨leased, attempts, ?_, by simp, by simp, .inl rfl⟩
    simp only [List.mem_cons, List.not_mem_nil, or_false] at state
    rcases state with state | state | state <;> simpa [state] using tried
  | complete held state =>
    exact ⟨leased, attempts, by simpa [state] using tried, by simpa [state] using owned,
      by simpa [state] using flown, .inl rfl⟩
  | abort state => exact ⟨leased, attempts, by simp, by simp, by simp, .inl rfl⟩

end Writes

section Paths
variable {ledger next : TaskLedger F} {taskId : String} {record updated : TaskRecord F}
  {reason : Option String}

omit [PyFloat F] in
theorem Staged.tells (staged : Staged record) (events : List (TaskEvidenceEvent F)) :
    Staged { record with events := events } :=
  ⟨⟨staged.leased.present, staged.leased.current⟩, staged.attempts, staged.tried, staged.owned,
    staged.flown, staged.decided⟩

omit [PyFloat F] in
theorem Outlives.refl (record : TaskRecord F) : Outlives record record :=
  ⟨rfl, .refl, List.prefix_refl _, le_rfl, fun _ => rfl⟩

omit [PyFloat F] in
theorem Outlives.trans {first second third : TaskRecord F} (early : Outlives first second)
    (late : Outlives second third) : Outlives first third := by
  refine ⟨late.definition.trans early.definition, early.moves.trans late.moves,
    early.events.trans late.events, early.attempts.trans late.attempts, fun final => ?_⟩
  have same := early.final final
  rw [late.final (by rw [same]; exact final), same]

/-- A commit stores the written record, with or without its evidence. -/
theorem write_outlives {events : List (TaskEvidenceEvent F)}
    (write : Write ledger taskId record updated reason) (staged : Staged record)
    (grows : record.events <+: events) : Outlives record { updated with events := events } := by
  refine ⟨(write_frame write).1, ?_, grows, ?_, fun final => ?_⟩
  · rcases write_moves write with same | moved
    · rw [same]
    · exact .single (.inr moved)
  · cases write <;> simp
  · exact absurd final (not_final write staged.leased)

/-- What the commit of a path step leaves of the ledger. -/
theorem commit_grown (ledger : TaskLedger F) (taskId eventType : String) (updated : TaskRecord F)
    (reason : Option String) (timestamp : F) :
    ∃ events, updated.events <+: events ∧
      (ledger.commit taskId (.ok updated) eventType reason timestamp).1 =
        ledger.written taskId { updated with events := events } := by
  rcases commit_cases ledger taskId eventType updated reason timestamp with ⟨_, _, eq⟩ | ⟨_, eq⟩
  · exact ⟨updated.events, List.prefix_refl _, by rw [eq]⟩
  · exact ⟨_, List.prefix_append _ _, by rw [eq]⟩

theorem path_outlived {strict : Prop} (path : Path strict ledger next)
    (staged : WellStaged ledger) : WellStaged next ∧ Outlived ledger next := by
  induction path with
  | done => exact ⟨staged, fun _ record found => ⟨record, found, .refl record⟩⟩
  | @commit ledger next record updated taskId eventType reason timestamp found write accepted rest ih =>
    obtain ⟨events, grows, stored⟩ := commit_grown ledger taskId eventType updated reason timestamp
    rw [stored] at ih
    have before := staged taskId record found
    rw [(write_frame write).2] at grows
    have after := write_staged write before
    have lives := write_outlives write before grows
    have here : WellStaged (ledger.written taskId { updated with events := events }) := by
      intro other stored lookup
      simp only [written, Dict.get?_insert] at lookup
      split at lookup
      · cases lookup
        exact after.tells events
      · exact staged other stored lookup
    obtain ⟨ends, later⟩ := ih here
    refine ⟨ends, fun other old lookup => ?_⟩
    by_cases same : taskId = other
    · subst same
      rw [found] at lookup
      cases lookup
      obtain ⟨final, found, outlives⟩ := later taskId _ (Dict.get?_insert_self ..)
      exact ⟨final, found, lives.trans outlives⟩
    · exact later other old (by simpa [written, Dict.get?_insert, same] using lookup)

end Paths

section Walks
variable {ledger next : TaskLedger F} {taskId : String} {record updated : TaskRecord F}
  {reason : Option String}

omit [PyFloat F] in
theorem Walked.emits (walked : Walked record) (moves : record.state.Moves updated.state)
    (past : updated.events = record.events) (eventType : String) (timestamp : F) :
    Walked { updated with events := updated.events ++
      [evidence ledger taskId eventType updated reason timestamp] } := by
  constructor
  · have told := List.isChain_append.mpr ⟨walked.moves, List.isChain_singleton updated.state, ?_⟩
    · simpa [past, evidence] using told
    · intro last isLast state isHead
      rw [List.getLast?_cons, walked.ends] at isLast
      cases isLast
      cases isHead
      exact moves
  · simp [evidence]

/-- A strict path tells each of its moves. -/
theorem path_walked (path : Path True ledger next)
    (walked : WellTold ledger) : WellTold next := by
  induction path with
  | done => exact walked
  | @commit ledger next record updated taskId eventType reason timestamp found write accepted rest ih =>
    rcases commit_cases ledger taskId eventType updated reason timestamp
      with ⟨fault, _, eq⟩ | ⟨_, eq⟩
    · obtain ⟨result, ok⟩ := accepted trivial
      rw [eq] at ok
      cases ok
    · rw [eq] at ih
      refine ih fun other stored lookup => ?_
      simp only [written, Dict.get?_insert] at lookup
      split at lookup
      · cases lookup
        exact (walked taskId record found).emits (write_moves write) (write_frame write).2 _ _
      · exact walked other stored lookup

end Walks

section Runs
variable {session run sha : String} {definitions : List (DeploymentTaskDefinition F)}
  {duration : F} {clock : Nat → F} {initial : TaskLedger F}

theorem create_staged (created : create session run sha definitions duration clock = .ok initial) :
    WellStaged initial := by
  obtain ⟨records, taskIds, declared, undeclared, _⟩ := create_eq_ok created
  refine declareAll_invariant (fun ledger taskId record timestamp held found _ => ?_) ?_ declared
  · intro other stored lookup
    simp only [written, Dict.get?_insert] at lookup
    split at lookup
    · cases lookup
      exact (held taskId record found).tells _
    · exact held other stored lookup
  · intro taskId record found
    rw [(undeclared taskId record found).1]
    exact ⟨⟨by simp [TaskRecord.declare], by simp [TaskRecord.declare]⟩, rfl,
      by simp [TaskRecord.declare], by simp [TaskRecord.declare], by simp [TaskRecord.declare],
      .inl rfl⟩

/-- Over every run of accepted calls the evidence of each task is a walk through the lifecycle, from
its declaration to the state it is in, that skips no move. -/
theorem ledger_walks
    (created : create session run sha definitions duration clock = .ok initial)
    (calls : List (Call F)) (succeeded : Runs.Along step succeeds initial calls) (taskId : String)
    (record : TaskRecord F)
    (found : (Runs.run step initial calls).records.get? taskId = some record) : Walked record := by
  have start : WellTold initial := by
    obtain ⟨records, taskIds, declared, undeclared, _⟩ := create_eq_ok created
    refine declareAll_invariant (I := WellTold)
      (fun ledger taskId record timestamp held found _ => ?_) ?_ declared
    · intro other stored lookup
      simp only [written, Dict.get?_insert] at lookup
      split at lookup
      · cases lookup
        exact (held taskId record found).emits (.inl rfl) rfl _ _
      · exact held other stored lookup
    · intro taskId record found
      rw [(undeclared taskId record found).1]
      exact ⟨List.isChain_singleton _, rfl⟩
  have walked := Runs.invariant_along (I := WellTold)
    (fun ledger call held ok =>
      path_walked (perform_path True ledger call.op call.clock fun _ => ok) held) start succeeded
  exact walked taskId record found

/-- The evidence of a task that is assigned, started, paused and resumed tells all four moves. -/
theorem ledger_walks_resumed :
    let sha := "0000000000000000000000000000000000000000000000000000000000000000"
    let inspect : DeploymentTaskDefinition ℚ := ⟨"inspect-a", "zone-a", 100, [.arming], 100, 20, 10⟩
    let calls : List (Call ℚ) := [
      ⟨.assign "inspect-a" "cf01" [.arming] (some 90) false (some 1), fun _ => 1⟩,
      ⟨.start "inspect-a" "cf01" "child-1" 1 (some 2), fun _ => 2⟩,
      ⟨.pause "inspect-a" "cf01" 1 "wind" (some 3), fun _ => 3⟩,
      ⟨.resume "inspect-a" "cf01" 1 (some 4), fun _ => 4⟩]
    ∃ initial record, create "session-1" "run-1" sha [inspect] 5 (fun _ => 0) = .ok initial ∧
      (Runs.run step initial calls).records.get? "inspect-a" = some record ∧
      record.events.length = 5 ∧ Walked record := by
  intro sha inspect calls
  obtain ⟨initial, created, reached⟩ := exists_of_okWith
    (x := create "session-1" "run-1" sha [inspect] 5 (fun _ => 0))
    (t := fun initial => decide (Runs.Along step succeeds initial calls) &&
      ((Runs.run step initial calls).records.get? "inspect-a").any fun record =>
        record.events.length = 5) (by decide +kernel)
  simp only [Bool.and_eq_true, decide_eq_true_eq] at reached
  obtain ⟨record, found, told⟩ := (Option.any_eq_true _ _).mp reached.2
  exact ⟨initial, record, created, found, of_decide_eq_true told,
    ledger_walks created calls reached.1 "inspect-a" record found⟩

end Runs

end TaskLedger

end CrazySwarm
