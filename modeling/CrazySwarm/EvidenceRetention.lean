import CrazySwarm.Lib.Limits
import CrazySwarm.Lib.Runs
import CrazySwarm.RunFiles

/-! Retention of recorded evidence. Missions are removed as wholes, by their age or by name; single
runs are removed by their age. -/
namespace CrazySwarm

inductive RetentionError where
  | value (message : String)
  /-- `KeyError` of a mission execution without runs. -/
  | unknownExecution (missionExecutionId : String)
  /-- `IncompleteRunError`. -/
  | incompleteRun (missionExecutionId : String)
  | outsideArchive (folder : String)
  deriving DecidableEq, Repr

inductive RetentionCall where
  | pruneCompletedMissions (keepLatest : Option Int := none)
  | pruneCompleted (beforeUtc : String) (keepLatest : Int := 10)
  | deleteRunFileMission (missionExecutionId : String)
  deriving DecidableEq, Repr

namespace EvidenceStore
open Limits

variable {E X A C : Type}

/-- The rows of some mission executions are deleted in all tables. -/
def deleteExecutions (store : EvidenceStore E X A C) (selected : List String) :
    EvidenceStore E X A C :=
  let runIds := (store.runs.filter fun row => selected.contains row.missionExecutionId).map (·.runId)
  { store with
    runs := store.runs.filter fun row => !selected.contains row.missionExecutionId
    events := store.events.filter fun event => !runIds.contains event.1
    contexts := store.contexts.filter fun context => !selected.contains context.1
    annotations := store.annotations.filter fun note => !selected.contains note.1 }

/-- `prune_completed_missions` with its argument. -/
def pruneCompletedMissionsKeeping (store : EvidenceStore E X A C) (keepLatest : Option Int) :
    Except RetentionError (EvidenceStore E X A C × Nat) :=
  let keep := keepLatest.getD store.keepLatestMissions
  if keep < 1 then .error (.value "keep_latest must be at least 1")
  else
    let selected := store.completedExecutions.drop keep.toNat
    .ok (store.deleteExecutions selected, selected.length)

/-- The runs that are protected from `prune_completed`: the latest ones. -/
def latestRuns (store : EvidenceStore E X A C) (keepLatest : Int) : List String :=
  (limited (some keepLatest) (Sorting.sortBy (·.startedAtUtc) store.runs).reverse).map (·.runId)

/-- The runs that `prune_completed` selects. -/
def prunedRuns (store : EvidenceStore E X A C) (beforeUtc : String) (keepLatest : Int) :
    List String :=
  let candidates := store.runs.filter fun row =>
    row.status.isSome && decide (row.startedAtUtc < beforeUtc)
  (candidates.map (·.runId)).filter fun runId => !(store.latestRuns keepLatest).contains runId

/-- `prune_completed`. -/
def pruneCompleted (store : EvidenceStore E X A C) (beforeUtc : String) (keepLatest : Int) :
    EvidenceStore E X A C × Nat :=
  let selected := store.prunedRuns beforeUtc keepLatest
  ({ store with
    events := store.events.filter fun event => !selected.contains event.1
    runs := store.runs.filter fun row => !selected.contains row.runId }, selected.length)

/-- `delete_run_file_mission`; a folder may lead outside of the archive. -/
def deleteRunFileMission (outside : String → Bool) (store : EvidenceStore E X A C)
    (missionExecutionId : String) : Except RetentionError (EvidenceStore E X A C × List String) :=
  match (store.currentFolder missionExecutionId).filter outside with
  | some folder => .error (.outsideArchive folder)
  | none =>
    let rows := Sorting.sortBy (·.runId)
      (store.runs.filter (·.missionExecutionId = missionExecutionId))
    if rows.isEmpty then .error (.unknownExecution missionExecutionId)
    else if rows.any (·.status.isNone) then .error (.incompleteRun missionExecutionId)
    else
      let emptied := store.deleteExecutions [missionExecutionId]
      .ok ((store.currentFolder missionExecutionId).elim emptied emptied.removeFolder,
        rows.map (·.runId))

/-- What a call leaves of the store; one that fails changes nothing. -/
def retentionStep (outside : String → Bool) (store : EvidenceStore E X A C) :
    RetentionCall → EvidenceStore E X A C
  | .pruneCompletedMissions keepLatest =>
    match store.pruneCompletedMissionsKeeping keepLatest with
    | .ok (pruned, _) => pruned
    | .error _ => store
  | .pruneCompleted beforeUtc keepLatest => (store.pruneCompleted beforeUtc keepLatest).1
  | .deleteRunFileMission missionExecutionId =>
    match store.deleteRunFileMission outside missionExecutionId with
    | .ok (emptied, _) => emptied
    | .error _ => store

section Statement

structure RetainsWhole (before after : EvidenceStore E X A C) : Prop where
  running : ∀ row ∈ before.runs, row.status = none → row ∈ after.runs
  whole : ∀ row ∈ before.runs, row ∉ after.runs →
    ∀ other ∈ after.runs, other.missionExecutionId ≠ row.missionExecutionId
  contexts : ∀ row ∈ before.runs, row ∉ after.runs →
    ∀ context ∈ after.contexts, context.1 ≠ row.missionExecutionId
  annotations : ∀ row ∈ before.runs, row ∉ after.runs →
    ∀ note ∈ after.annotations, note.1 ≠ row.missionExecutionId
  events : ∀ row ∈ before.runs, row ∉ after.runs → ∀ other ∈ before.runs,
    other.missionExecutionId = row.missionExecutionId → ∀ event ∈ after.events, event.1 ≠ other.runId

def Prunable (store : EvidenceStore E X A C) (beforeUtc : String) (keepLatest : Int)
    (row : RunRow) : Prop :=
  row.status.isSome = true ∧ row.startedAtUtc < beforeUtc ∧ row.runId ∉ store.latestRuns keepLatest

/-- The runs that a call of `prune_completed` may remove are all runs of their missions, which have
neither a context nor an annotation. -/
def PrunesWhole (store : EvidenceStore E X A C) : RetentionCall → Prop
  | .pruneCompleted beforeUtc keepLatest =>
    ∀ row ∈ store.runs, store.Prunable beforeUtc keepLatest row →
      (∀ other ∈ store.runs, other.missionExecutionId = row.missionExecutionId →
        store.Prunable beforeUtc keepLatest other) ∧
      (∀ context ∈ store.contexts, context.1 ≠ row.missionExecutionId) ∧
      ∀ note ∈ store.annotations, note.1 ≠ row.missionExecutionId
  | _ => True

end Statement

variable {outside : String → Bool} {store before between after : EvidenceStore E X A C}

section Frames

/-- A step that only deletes rows. -/
structure Deletes (before after : EvidenceStore E X A C) : Prop where
  runs : after.runs.Sublist before.runs
  events : after.events.Sublist before.events
  contexts : after.contexts.Sublist before.contexts
  annotations : after.annotations.Sublist before.annotations

theorem Deletes.refl (store : EvidenceStore E X A C) : Deletes store store :=
  ⟨.refl _, .refl _, .refl _, .refl _⟩

theorem Deletes.trans (first : Deletes before between) (second : Deletes between after) :
    Deletes before after :=
  ⟨second.runs.trans first.runs, second.events.trans first.events,
    second.contexts.trans first.contexts, second.annotations.trans first.annotations⟩

theorem deletes_deleteExecutions (store : EvidenceStore E X A C) (selected : List String) :
    Deletes store (store.deleteExecutions selected) :=
  ⟨List.filter_sublist, List.filter_sublist, List.filter_sublist, List.filter_sublist⟩

theorem deletes_pruneCompleted (store : EvidenceStore E X A C) (beforeUtc : String)
    (keepLatest : Int) : Deletes store (store.pruneCompleted beforeUtc keepLatest).1 :=
  ⟨List.filter_sublist, List.filter_sublist, .refl _, .refl _⟩

/-- A call removes the rows of whole missions that have ended, or it is one of `prune_completed`. -/
theorem retentionStep_cases (outside : String → Bool) (store : EvidenceStore E X A C)
    (call : RetentionCall) :
    (∃ selected : List String, (∀ row ∈ store.runs, row.missionExecutionId ∈ selected →
        row.status.isSome = true) ∧
      (retentionStep outside store call = store.deleteExecutions selected ∨
        ∃ folder, retentionStep outside store call =
          (store.deleteExecutions selected).removeFolder folder)) ∨
    retentionStep outside store call = store ∨
    ∃ beforeUtc keepLatest, call = .pruneCompleted beforeUtc keepLatest := by
  cases call with
  | pruneCompletedMissions keepLatest =>
    rw [retentionStep, pruneCompletedMissionsKeeping]
    by_cases low : keepLatest.getD store.keepLatestMissions < 1
    · exact .inr (.inl (by rw [if_pos low]))
    · refine .inl ⟨store.completedExecutions.drop (keepLatest.getD store.keepLatestMissions).toNat,
        ?_, .inl (by rw [if_neg low])⟩
      intro row among selected
      have listed : row.missionExecutionId ∈ store.completedExecutions := List.mem_of_mem_drop selected
      rw [completedExecutions, List.mem_reverse, Sorting.mem_sortBy, List.mem_filter] at listed
      simpa using List.all_eq_true.mp listed.2 row among
  | pruneCompleted beforeUtc keepLatest => exact .inr (.inr ⟨beforeUtc, keepLatest, rfl⟩)
  | deleteRunFileMission missionExecutionId =>
    rw [retentionStep, deleteRunFileMission]
    split
    next result pruned ids done =>
      split at done
      · cases done
      · dsimp only at done
        split_ifs at done with empty active
        refine .inl ⟨[missionExecutionId], ?_, ?_⟩
        · intro row among selected
          rw [List.mem_singleton] at selected
          have ended : ¬row.status.isNone = true := fun running => active
            (List.any_eq_true.mpr ⟨row, by simp [among, selected], running⟩)
          rwa [Option.isNone_iff_eq_none, ← ne_eq, Option.ne_none_iff_isSome] at ended
        · cases done
          cases store.currentFolder missionExecutionId with
          | none => exact .inl rfl
          | some folder => exact .inr ⟨folder, rfl⟩
    next => exact .inr (.inl rfl)

theorem deletes_retentionStep (outside : String → Bool) (store : EvidenceStore E X A C)
    (call : RetentionCall) : Deletes store (retentionStep outside store call) := by
  rcases retentionStep_cases outside store call with
    ⟨selected, _, same | ⟨folder, same⟩⟩ | same | ⟨beforeUtc, keepLatest, rfl⟩
  · rw [same]
    exact deletes_deleteExecutions store selected
  · rw [same]
    have deleted := deletes_deleteExecutions store selected
    exact ⟨deleted.runs, deleted.events, deleted.contexts, deleted.annotations⟩
  · rw [same]
    exact .refl store
  · exact deletes_pruneCompleted store beforeUtc keepLatest

end Frames

section Steps

theorem RetainsWhole.refl (store : EvidenceStore E X A C) : RetainsWhole store store where
  running _ among _ := among
  whole _ among gone := absurd among gone
  contexts _ among gone := absurd among gone
  annotations _ among gone := absurd among gone
  events _ among gone := absurd among gone

/-- A run that the later step deleted is of a mission of which the earlier one deleted nothing. -/
theorem RetainsWhole.trans (first : RetainsWhole before between) (deleted : Deletes between after)
    (second : RetainsWhole between after) : RetainsWhole before after where
  running row among running := second.running row (first.running row among running) running
  whole row among gone other left := by
    by_cases kept : row ∈ between.runs
    · exact second.whole row kept gone other left
    · exact first.whole row among kept other (deleted.runs.subset left)
  contexts row among gone context left := by
    by_cases kept : row ∈ between.runs
    · exact second.contexts row kept gone context left
    · exact first.contexts row among kept context (deleted.contexts.subset left)
  annotations row among gone note left := by
    by_cases kept : row ∈ between.runs
    · exact second.annotations row kept gone note left
    · exact first.annotations row among kept note (deleted.annotations.subset left)
  events row among gone other earlier same event left := by
    by_cases kept : row ∈ between.runs
    · have stayed : other ∈ between.runs := by
        by_contra lost
        exact first.whole other earlier lost row kept same.symm
      exact second.events row kept gone other stayed same event left
    · exact first.events row among kept other earlier same event (deleted.events.subset left)

theorem deleteExecutions_retainsWhole {selected : List String}
    (ended : ∀ row ∈ store.runs, row.missionExecutionId ∈ selected → row.status.isSome = true) :
    RetainsWhole store (store.deleteExecutions selected) := by
  have mem_runs (row : RunRow) : row ∈ (store.deleteExecutions selected).runs ↔
      row ∈ store.runs ∧ row.missionExecutionId ∉ selected := by
    simp [deleteExecutions]
  have chosen (row : RunRow) (among : row ∈ store.runs)
      (gone : row ∉ (store.deleteExecutions selected).runs) : row.missionExecutionId ∈ selected := by
    by_contra out
    exact gone ((mem_runs row).mpr ⟨among, out⟩)
  constructor
  case running =>
    intro row among running
    refine (mem_runs row).mpr ⟨among, fun selected => ?_⟩
    have := ended row among selected
    rw [running] at this
    cases this
  case whole =>
    intro row among gone other left same
    have out := ((mem_runs other).mp left).2
    rw [same] at out
    exact out (chosen row among gone)
  case contexts =>
    intro row among gone context left same
    have out := (List.mem_filter.mp left).2
    rw [same] at out
    simp [chosen row among gone] at out
  case annotations =>
    intro row among gone note left same
    have out := (List.mem_filter.mp left).2
    rw [same] at out
    simp [chosen row among gone] at out
  case events =>
    intro row among gone other earlier same event left named
    have out := (List.mem_filter.mp left).2
    rw [named] at out
    have found : other.runId ∈
        (store.runs.filter fun row => selected.contains row.missionExecutionId).map (·.runId) := by
      refine List.mem_map_of_mem (List.mem_filter.mpr ⟨earlier, ?_⟩)
      simpa [same] using chosen row among gone
    rw [List.contains_iff_mem.mpr found] at out
    cases out

/-- With distinct run ids, the runs that `prune_completed` selects are those it may remove. -/
theorem runId_mem_prunedRuns (distinct : (store.runs.map (·.runId)).Nodup) (beforeUtc : String)
    (keepLatest : Int) {row : RunRow} (among : row ∈ store.runs) :
    row.runId ∈ store.prunedRuns beforeUtc keepLatest ↔ store.Prunable beforeUtc keepLatest row := by
  have inj := List.inj_on_of_nodup_map distinct
  rw [prunedRuns, List.mem_filter, List.mem_map]
  constructor
  · rintro ⟨⟨other, candidate, same⟩, unprotected⟩
    obtain ⟨listed, ended⟩ := List.mem_filter.mp candidate
    rw [inj listed among same] at ended
    simp only [Bool.and_eq_true, decide_eq_true_eq] at ended
    exact ⟨ended.1, ended.2, by simpa using unprotected⟩
  · rintro ⟨ended, early, unprotected⟩
    exact ⟨⟨row, List.mem_filter.mpr ⟨among, by simp [ended, early]⟩, rfl⟩, by simpa using unprotected⟩

/-- A call of `prune_completed` retains whole missions exactly if it removes whole missions that have
neither a context nor an annotation. -/
theorem pruneCompleted_retainsWhole_iff (distinct : (store.runs.map (·.runId)).Nodup)
    (beforeUtc : String) (keepLatest : Int) :
    RetainsWhole store (store.pruneCompleted beforeUtc keepLatest).1 ↔
      PrunesWhole store (.pruneCompleted beforeUtc keepLatest) := by
  have selected {row : RunRow} (among : row ∈ store.runs) :=
    runId_mem_prunedRuns distinct beforeUtc keepLatest among
  have mem_runs (row : RunRow) : row ∈ (store.pruneCompleted beforeUtc keepLatest).1.runs ↔
      row ∈ store.runs ∧ ¬store.Prunable beforeUtc keepLatest row := by
    rw [pruneCompleted, List.mem_filter]
    refine and_congr_right fun among => ?_
    rw [← selected among]
    simp
  have prunable {row : RunRow} (among : row ∈ store.runs)
      (gone : row ∉ (store.pruneCompleted beforeUtc keepLatest).1.runs) :
      store.Prunable beforeUtc keepLatest row := by
    by_contra kept
    exact gone ((mem_runs row).mpr ⟨among, kept⟩)
  constructor
  · intro retains row among removed
    have gone : row ∉ (store.pruneCompleted beforeUtc keepLatest).1.runs := fun left =>
      ((mem_runs row).mp left).2 removed
    refine ⟨fun other listed same => ?_, retains.contexts row among gone,
      retains.annotations row among gone⟩
    by_contra kept
    exact retains.whole row among gone other ((mem_runs other).mpr ⟨listed, kept⟩) same
  · intro whole
    constructor
    case running =>
      intro row among running
      refine (mem_runs row).mpr ⟨among, fun removed => ?_⟩
      have ended := removed.1
      rw [running] at ended
      cases ended
    case whole =>
      intro row among gone other left same
      obtain ⟨listed, kept⟩ := (mem_runs other).mp left
      exact kept ((whole row among (prunable among gone)).1 other listed same)
    case contexts =>
      intro row among gone
      exact (whole row among (prunable among gone)).2.1
    case annotations =>
      intro row among gone
      exact (whole row among (prunable among gone)).2.2
    case events =>
      intro row among gone other listed same event left named
      have removed := (whole row among (prunable among gone)).1 other listed same
      have out := (List.mem_filter.mp left).2
      rw [named, List.contains_iff_mem.mpr ((selected listed).mpr removed)] at out
      cases out

theorem retentionStep_retainsWhole {call : RetentionCall}
    (missions : ∀ beforeUtc keepLatest, call ≠ .pruneCompleted beforeUtc keepLatest) :
    RetainsWhole store (retentionStep outside store call) := by
  rcases retentionStep_cases outside store call with
    ⟨selected, ended, same | ⟨folder, same⟩⟩ | same | ⟨beforeUtc, keepLatest, same⟩
  · rw [same]
    exact deleteExecutions_retainsWhole ended
  · rw [same]
    -- The folder is no part of what is retained.
    have emptied := deleteExecutions_retainsWhole ended
    exact ⟨emptied.running, emptied.whole, emptied.contexts, emptied.annotations, emptied.events⟩
  · rw [same]
    exact .refl store
  · exact absurd same (missions beforeUtc keepLatest)

theorem retentionStep_retainsWhole_iff (distinct : (store.runs.map (·.runId)).Nodup)
    (call : RetentionCall) :
    RetainsWhole store (retentionStep outside store call) ↔ PrunesWhole store call := by
  cases call with
  | pruneCompleted beforeUtc keepLatest =>
    exact pruneCompleted_retainsWhole_iff distinct beforeUtc keepLatest
  | pruneCompletedMissions _ => exact iff_of_true (retentionStep_retainsWhole (by nofun)) trivial
  | deleteRunFileMission _ => exact iff_of_true (retentionStep_retainsWhole (by nofun)) trivial

end Steps

section Sequences

theorem distinct_retentionStep (distinct : (store.runs.map (·.runId)).Nodup) (call : RetentionCall) :
    ((retentionStep outside store call).runs.map (·.runId)).Nodup :=
  distinct.sublist ((deletes_retentionStep outside store call).runs.map _)

theorem along_retainsWhole_iff (distinct : (store.runs.map (·.runId)).Nodup)
    (calls : List RetentionCall) :
    Runs.Along (retentionStep outside)
        (fun store call => RetainsWhole store (retentionStep outside store call)) store calls ↔
      Runs.Along (retentionStep outside) PrunesWhole store calls := by
  induction calls generalizing store with
  | nil => rfl
  | cons call rest ih =>
    exact and_congr (retentionStep_retainsWhole_iff distinct call)
      (ih (distinct_retentionStep distinct call))

theorem run_retainsWhole {calls : List RetentionCall}
    (each : Runs.Along (retentionStep outside)
      (fun store call => RetainsWhole store (retentionStep outside store call)) store calls) :
    RetainsWhole store (Runs.run (retentionStep outside) store calls) ∧
      Deletes store (Runs.run (retentionStep outside) store calls) := by
  induction calls generalizing store with
  | nil => exact ⟨.refl store, .refl store⟩
  | cons call rest ih =>
    obtain ⟨later, deleted⟩ := ih each.2
    exact ⟨each.1.trans deleted later, (deletes_retentionStep outside store call).trans deleted⟩

/-- Every call of a sequence retains whole missions exactly if every call of `prune_completed` removes
whole missions that have neither a context nor an annotation; then so does the sequence. -/
theorem retention_retainsWhole_iff (outside : String → Bool) (store : EvidenceStore E X A C)
    (distinct : (store.runs.map (·.runId)).Nodup) (calls : List RetentionCall) :
    (Runs.Along (retentionStep outside)
        (fun store call => RetainsWhole store (retentionStep outside store call)) store calls ↔
      Runs.Along (retentionStep outside) PrunesWhole store calls) ∧
    (Runs.Along (retentionStep outside) PrunesWhole store calls →
      RetainsWhole store (Runs.run (retentionStep outside) store calls)) := by
  refine ⟨along_retainsWhole_iff distinct calls, fun whole => ?_⟩
  exact (run_retainsWhole ((along_retainsWhole_iff distinct calls).mpr whole)).1

/-- Two runs of one mission, the second started later, with a context. -/
def pairOfRuns : EvidenceStore Nat Nat Nat Nat where
  runs := [
    { runId := "run-1", missionExecutionId := "flight", missionId := "survey", vehicleId := "sim01",
      startedAtUtc := "2026-08-08T12:00:00+00:00", status := some "SUCCEEDED" },
    { runId := "run-2", missionExecutionId := "flight", missionId := "survey", vehicleId := "sim02",
      startedAtUtc := "2026-08-08T12:00:01+00:00", status := some "SUCCEEDED" }]
  contexts := [("flight", 0)]

theorem pairOfRuns_retained :
    let calls := [.pruneCompleted "2026-08-09T00:00:00+00:00" 10, .deleteRunFileMission "flight"]
    (Runs.Along (retentionStep fun _ => false)
        (fun store call => RetainsWhole store (retentionStep (fun _ => false) store call))
        pairOfRuns calls ↔
      Runs.Along (retentionStep fun _ => false) PrunesWhole pairOfRuns calls) ∧
    (Runs.Along (retentionStep fun _ => false) PrunesWhole pairOfRuns calls →
      RetainsWhole pairOfRuns (Runs.run (retentionStep fun _ => false) pairOfRuns calls)) :=
  retention_retainsWhole_iff (fun _ => false) pairOfRuns (by decide) _

/-- With the later run protected, the mission is left with one of its runs. -/
theorem pairOfRuns_split :
    ¬RetainsWhole pairOfRuns
      (Runs.run (retentionStep fun _ => false) pairOfRuns
        [.pruneCompleted "2026-08-09T00:00:00+00:00" 1]) := by
  intro retains
  have gone : pairOfRuns.runs[0] ∉ (Runs.run (retentionStep fun _ => false) pairOfRuns
      [.pruneCompleted "2026-08-09T00:00:00+00:00" 1]).runs := by decide
  have left : pairOfRuns.runs[1] ∈ (Runs.run (retentionStep fun _ => false) pairOfRuns
      [.pruneCompleted "2026-08-09T00:00:00+00:00" 1]).runs := by decide
  exact retains.whole _ (List.getElem_mem _) gone _ left rfl

end Sequences

end EvidenceStore
end CrazySwarm
