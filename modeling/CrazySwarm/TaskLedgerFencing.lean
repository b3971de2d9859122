import CrazySwarm.TaskLedgerSteps

/-! Lease fencing. Generations only grow, so a pair that stopped being current stays below
the generation of every later lease. No clock assumption is needed. -/
namespace CrazySwarm.TaskLedger
open PyFloat

variable {F : Type} [PyFloat F]

structure Leased (record : TaskRecord F) : Prop where
  present : record.lease.isSome ↔ record.state ∈ [.assigned, .inProgress, .paused]
  current : ∀ lease, record.lease = some lease →
    record.ownerVehicleId = some lease.vehicleId ∧ lease.generation = record.leaseGeneration

def WellLeased (ledger : TaskLedger F) : Prop :=
  ∀ taskId record, ledger.records.get? taskId = some record → Leased record

def SameIssue (lease renewed : TaskLease F) : Prop :=
  renewed = { lease with expiresAtMonotonicS := renewed.expiresAtMonotonicS }

structure Advance (record updated : TaskRecord F) : Prop where
  generation : record.leaseGeneration ≤ updated.leaseGeneration
  issue : ∀ renewed, updated.lease = some renewed →
    (∃ lease, record.lease = some lease ∧ SameIssue lease renewed) ∨
    record.leaseGeneration < updated.leaseGeneration

/-- Records are never dropped, and each advances. -/
def Advances (ledger next : TaskLedger F) : Prop :=
  ∀ taskId record, ledger.records.get? taskId = some record →
    ∃ updated, next.records.get? taskId = some updated ∧ Advance record updated

omit [PyFloat F] in
theorem Advance.refl (record : TaskRecord F) : Advance record record :=
  ⟨Nat.le_refl _, fun lease held => .inl ⟨lease, held, rfl⟩⟩

omit [PyFloat F] in
theorem Advance.trans {first second third : TaskRecord F} (left : Advance first second)
    (right : Advance second third) : Advance first third := by
  refine ⟨left.generation.trans right.generation, ?_⟩
  intro renewed held
  rcases right.issue renewed held with ⟨lease, middle, same⟩ | later
  · rcases left.issue lease middle with ⟨origin, held, earlier⟩ | earlier
    · refine .inl ⟨origin, held, ?_⟩
      unfold SameIssue at same earlier ⊢
      rw [same, earlier]
    · exact .inr (earlier.trans_le right.generation)
  · exact .inr (left.generation.trans_lt later)

omit [PyFloat F] in
theorem Advances.refl (ledger : TaskLedger F) : Advances ledger ledger :=
  fun _ record found => ⟨record, found, .refl record⟩

omit [PyFloat F] in
theorem Advances.trans {first second third : TaskLedger F} (left : Advances first second)
    (right : Advances second third) : Advances first third := by
  intro taskId record found
  obtain ⟨middle, found, early⟩ := left taskId record found
  obtain ⟨updated, found, late⟩ := right taskId middle found
  exact ⟨updated, found, early.trans late⟩

omit [PyFloat F] in
theorem Leased.state {record : TaskRecord F} {vehicleId : String} {generation : Nat}
    (leased : Leased record) (held : Held record vehicleId generation) :
    record.state ∈ [.assigned, .inProgress, .paused] := by
  obtain ⟨lease, present, _⟩ := held
  exact leased.present.mp (by simp [present])

theorem write_leased {ledger : TaskLedger F} {taskId : String} {record updated : TaskRecord F}
    {reason : Option String} (write : Write ledger taskId record updated reason)
    (leased : Leased record) : Leased updated := by
  cases write with
  | assign _ issued | transfer _ _ _ issued =>
    obtain ⟨vehicle, generation, _⟩ := issueLease_eq_ok issued
    exact ⟨by simp, by rintro _ ⟨⟩; exact ⟨by rw [vehicle], generation⟩⟩
  | start held state | pause held state | resume held state =>
    exact ⟨by simpa [state] using leased.present, leased.current⟩
  | progress held state => exact ⟨leased.present, leased.current⟩
  | decide state => exact ⟨leased.present, leased.current⟩
  | renew held =>
    refine ⟨by simpa using leased.present, ?_⟩
    intro renewed h
    obtain ⟨lease, present, rfl⟩ := Option.map_eq_some_iff.mp h
    exact leased.current lease present
  | retry state | complete held state | abort state => exact ⟨by simp, by simp⟩

theorem write_advance {ledger : TaskLedger F} {taskId : String} {record updated : TaskRecord F}
    {reason : Option String} (write : Write ledger taskId record updated reason) :
    Advance record updated := by
  cases write with
  | assign _ issued | transfer _ _ _ issued => exact ⟨Nat.le_succ _, fun _ _ => .inr (Nat.lt_succ_self _)⟩
  | start held state | pause held state | resume held state | progress held state | decide state =>
    exact ⟨Nat.le_refl _, (Advance.refl record).issue⟩
  | renew held =>
    refine ⟨Nat.le_refl _, fun renewed h => ?_⟩
    obtain ⟨lease, present, rfl⟩ := Option.map_eq_some_iff.mp h
    exact .inl ⟨lease, present, rfl⟩
  | retry state | complete held state | abort state => exact ⟨Nat.le_refl _, by simp⟩

omit [PyFloat F] in
theorem written_wellLeased {ledger : TaskLedger F} {taskId : String} {record : TaskRecord F}
    (wellLeased : WellLeased ledger) (leased : Leased record) :
    WellLeased (ledger.written taskId record) := by
  intro other found lookup
  simp only [written, Dict.get?_insert] at lookup
  split at lookup
  · cases lookup; exact leased
  · exact wellLeased other found lookup

omit [PyFloat F] in
theorem written_advances {ledger : TaskLedger F} {taskId : String} {record updated : TaskRecord F}
    (found : ledger.records.get? taskId = some record) (advance : Advance record updated) :
    Advances ledger (ledger.written taskId updated) := by
  intro other old lookup
  simp only [written, Dict.get?_insert]
  split
  · next same =>
    subst same
    rw [found] at lookup
    cases lookup
    exact ⟨updated, rfl, advance⟩
  · exact ⟨old, lookup, .refl old⟩

theorem path_fenced {strict : Prop} {ledger next : TaskLedger F} (path : Path strict ledger next)
    (wellLeased : WellLeased ledger) : WellLeased next ∧ Advances ledger next := by
  induction path with
  | done => exact ⟨wellLeased, .refl _⟩
  | @commit ledger next record updated taskId eventType reason timestamp found write accepted rest ih =>
    obtain ⟨events, stored⟩ := commit_state ledger taskId eventType updated reason timestamp
    rw [stored] at ih
    have leased := write_leased write (wellLeased taskId record found)
    have advance := write_advance write
    have here := ih (written_wellLeased wellLeased ⟨leased.present, leased.current⟩)
    have first : Advances ledger (ledger.written taskId { updated with events := events }) :=
      written_advances found ⟨advance.generation, advance.issue⟩
    exact ⟨here.1, first.trans here.2⟩

theorem step_fenced {ledger : TaskLedger F} (wellLeased : WellLeased ledger) (call : Call F) :
    WellLeased (step ledger call) ∧ Advances ledger (step ledger call) :=
  path_fenced (perform_path False ledger call.op call.clock False.elim) wellLeased

theorem run_wellLeased {ledger : TaskLedger F} (wellLeased : WellLeased ledger)
    (calls : List (Call F)) : WellLeased (Runs.run step ledger calls) :=
  Runs.invariant (fun _ call held => (step_fenced held call).1) wellLeased

def Current (ledger : TaskLedger F) (taskId vehicleId : String) (generation : Nat) : Prop :=
  ∃ record lease, ledger.records.get? taskId = some record ∧ record.lease = some lease ∧
    lease.vehicleId = vehicleId ∧ lease.generation = generation

instance (ledger : TaskLedger F) (taskId vehicleId : String) (generation : Nat) :
    Decidable (Current ledger taskId vehicleId generation) :=
  decidable_of_iff ((ledger.records.get? taskId).any fun record => record.lease.any fun lease =>
      lease.vehicleId = vehicleId && lease.generation = generation) (by
    simp only [Current, Option.any_eq_true, Bool.and_eq_true, decide_eq_true_eq]
    grind)

/-- The pair is not current and its generation is already spent. -/
def Retired (ledger : TaskLedger F) (taskId vehicleId : String) (generation : Nat) : Prop :=
  ∃ record, ledger.records.get? taskId = some record ∧ generation ≤ record.leaseGeneration ∧
    ¬ Current ledger taskId vehicleId generation

omit [PyFloat F] in
theorem retired_of_advances {ledger next : TaskLedger F} {taskId vehicleId : String}
    {generation : Nat} (wellLeased : WellLeased ledger) (advances : Advances ledger next)
    (current : Current ledger taskId vehicleId generation)
    (lost : ¬ Current next taskId vehicleId generation) :
    Retired next taskId vehicleId generation := by
  obtain ⟨record, lease, found, held, _, rfl⟩ := current
  obtain ⟨updated, lookup, advance⟩ := advances taskId record found
  have issued := ((wellLeased taskId record found).current lease held).2
  exact ⟨updated, lookup, issued ▸ advance.generation, lost⟩

omit [PyFloat F] in
/-- A later lease carries a larger generation, so a spent pair cannot come back. -/
theorem Retired.advances {ledger next : TaskLedger F} {taskId vehicleId : String} {generation : Nat}
    (retired : Retired ledger taskId vehicleId generation) (wellLeased : WellLeased next)
    (advances : Advances ledger next) : Retired next taskId vehicleId generation := by
  obtain ⟨record, found, spent, lost⟩ := retired
  obtain ⟨updated, lookup, advance⟩ := advances taskId record found
  refine ⟨updated, lookup, spent.trans advance.generation, ?_⟩
  rintro ⟨other, renewed, again, held, vehicle, rfl⟩
  rw [lookup] at again
  cases again
  rcases advance.issue renewed held with ⟨lease, before, same⟩ | later
  · exact lost ⟨record, lease, found, before, by rw [← vehicle, same], by rw [same]⟩
  · have fresh := ((wellLeased taskId updated lookup).current renewed held).2
    omega

theorem run_retired {ledger : TaskLedger F} {taskId vehicleId : String} {generation : Nat}
    (wellLeased : WellLeased ledger) (retired : Retired ledger taskId vehicleId generation)
    (calls : List (Call F)) :
    Retired (Runs.run step ledger calls) taskId vehicleId generation := by
  have both : WellLeased (Runs.run step ledger calls) ∧
      Retired (Runs.run step ledger calls) taskId vehicleId generation :=
    Runs.invariant (I := fun ledger => WellLeased ledger ∧ Retired ledger taskId vehicleId generation)
      (fun ledger call held => by
        have fenced := step_fenced held.1 call
        exact ⟨fenced.1, held.2.advances fenced.1 fenced.2⟩) ⟨wellLeased, retired⟩
  exact both.2

def Op.presents : Op F → Option (String × String × Nat)
  | .start taskId vehicleId _ generation _ => some (taskId, vehicleId, generation)
  | .renew taskId vehicleId generation _ => some (taskId, vehicleId, generation)
  | .updateProgress taskId vehicleId generation _ _ => some (taskId, vehicleId, generation)
  | .pause taskId vehicleId generation _ _ => some (taskId, vehicleId, generation)
  | .resume taskId vehicleId generation _ => some (taskId, vehicleId, generation)
  | .transfer taskId outgoing _ generation _ _ _ _ => some (taskId, outgoing, generation)
  | .complete taskId vehicleId generation _ _ => some (taskId, vehicleId, generation)
  | .assign .. | .retry .. | .reassign .. | .abort .. => none

theorem requireCurrentLease_retired {ledger : TaskLedger F} {taskId vehicleId : String}
    {generation : Nat} (retired : Retired ledger taskId vehicleId generation) (now : F) :
    ∃ fault, ledger.requireCurrentLease taskId vehicleId generation now = .error fault := by
  cases checked : ledger.requireCurrentLease taskId vehicleId generation now with
  | error fault => exact ⟨fault, rfl⟩
  | ok record =>
    obtain ⟨found, lease, held, vehicle, issued, _⟩ := requireCurrentLease_eq_ok checked
    obtain ⟨_, _, _, lost⟩ := retired
    exact absurd ⟨record, lease, found, held, vehicle, issued⟩ lost

/-- An operation that presents a retired pair fails and changes nothing. -/
theorem retired_rejected {ledger : TaskLedger F} {taskId vehicleId : String} {generation : Nat}
    (retired : Retired ledger taskId vehicleId generation) {op : Op F}
    (presents : op.presents = some (taskId, vehicleId, generation)) (clock : Nat → F) :
    ∃ fault, ledger.perform op clock = (ledger, .error fault) := by
  have rejected := requireCurrentLease_retired retired
  cases op with
  | assign | retry | reassign | abort => simp [Op.presents] at presents
  | transfer task outgoing incoming expected capabilities battery reason nowS =>
    cases presents
    obtain ⟨fault, failed⟩ := rejected (now nowS (clock 0))
    cases computed : ledger.transferUpdate taskId vehicleId incoming generation capabilities battery
      reason (now nowS (clock 0)) (now nowS (clock 1)) with
    | error fault => exact ⟨fault, by simp [perform, transfer, computed, commit]⟩
    | ok updated =>
      obtain ⟨_, _, computed⟩ := bind_eq_ok.mp computed
      obtain ⟨record, current, _⟩ := bind_eq_ok.mp computed
      rw [failed] at current
      cases current
  | start _ _ _ _ nowS | renew _ _ _ nowS | updateProgress _ _ _ _ nowS | pause _ _ _ _ nowS
  | resume _ _ _ nowS | complete _ _ _ _ nowS =>
    cases presents
    obtain ⟨fault, failed⟩ := rejected (now nowS (clock 0))
    exact ⟨fault, by simp [perform, start, startUpdate, renew, renewUpdate, updateProgress,
      progressUpdate, pause, resume, moveUpdate, complete, completeUpdate, failed, commit, bind,
      Except.bind]⟩

theorem create_wellLeased {session run sha : String}
    {definitions : List (DeploymentTaskDefinition F)} {duration : F} {clock : Nat → F}
    {initial : TaskLedger F}
    (created : create session run sha definitions duration clock = .ok initial) :
    WellLeased initial := by
  obtain ⟨records, taskIds, declared, undeclared, _⟩ := create_eq_ok created
  refine declareAll_invariant (fun ledger taskId record timestamp held found _ => ?_) ?_ declared
  · have leased := held taskId record found
    exact written_wellLeased held ⟨leased.present, leased.current⟩
  · intro taskId record found
    rw [(undeclared taskId record found).1]
    exact ⟨by simp [TaskRecord.declare], by simp [TaskRecord.declare]⟩

/-- Fencing over every run from a constructed ledger: leases mirror the state, generations
grow with each issue, and a pair that stopped being current is rejected forever. -/
theorem ledger_fencing {session run sha : String}
    {definitions : List (DeploymentTaskDefinition F)} {duration : F} {clock : Nat → F}
    {initial : TaskLedger F}
    (created : create session run sha definitions duration clock = .ok initial)
    (calls : List (Call F)) :
    WellLeased (Runs.run step initial calls) ∧
    (∀ call, Advances (Runs.run step initial calls) (step (Runs.run step initial calls) call)) ∧
    ∀ taskId vehicleId generation (middle later : List (Call F)),
      Current (Runs.run step initial calls) taskId vehicleId generation →
      ¬ Current (Runs.run step initial (calls ++ middle)) taskId vehicleId generation →
      ∀ op : Op F, op.presents = some (taskId, vehicleId, generation) → ∀ reading : Nat → F,
        ∃ fault, (Runs.run step initial (calls ++ middle ++ later)).perform op reading =
          (Runs.run step initial (calls ++ middle ++ later), .error fault) := by
  have start := create_wellLeased created
  have reached := run_wellLeased start calls
  refine ⟨reached, fun call => (step_fenced reached call).2, ?_⟩
  intro taskId vehicleId generation middle later current lost op presents reading
  have advances : Advances (Runs.run step initial calls)
      (Runs.run step initial (calls ++ middle)) := by
    rw [Runs.run_append]
    exact (Runs.invariant (I := fun ledger => WellLeased ledger ∧
        Advances (Runs.run step initial calls) ledger)
      (fun ledger call held => by
        have fenced := step_fenced held.1 call
        exact ⟨fenced.1, held.2.trans fenced.2⟩) ⟨reached, .refl _⟩).2
  have retired := retired_of_advances reached advances current lost
  have still := run_retired (run_wellLeased start (calls ++ middle)) retired later
  rw [← Runs.run_append] at still
  exact retired_rejected still presents reading

/-- Two vehicles: the first owner's pair is spent by the transfer to the second. -/
theorem ledger_fencing_transfer :
    let sha := "0000000000000000000000000000000000000000000000000000000000000000"
    let inspect : DeploymentTaskDefinition ℚ := ⟨"inspect-a", "zone-a", 100, [.arming], 100, 20, 10⟩
    let assigned : Call ℚ := ⟨.assign "inspect-a" "cf01" [.arming] (some 90) false (some 1), fun _ => 1⟩
    let moved : Call ℚ :=
      ⟨.transfer "inspect-a" "cf01" "cf02" 1 [.arming] (some 90) "low battery" (some 2), fun _ => 2⟩
    ∃ initial, create "session-1" "run-1" sha [inspect] 5 (fun _ => 0) = .ok initial ∧
      ∃ fault, (Runs.run step initial [assigned, moved]).perform
        (.renew "inspect-a" "cf01" 1 (some 3)) (fun _ => 3) =
          (Runs.run step initial [assigned, moved], .error fault) := by
  intro sha inspect assigned moved
  obtain ⟨initial, created, current⟩ := exists_of_okWith
    (x := create "session-1" "run-1" sha [inspect] 5 (fun _ => 0))
    (t := fun initial => decide (Current (Runs.run step initial [assigned]) "inspect-a" "cf01" 1 ∧
      ¬ Current (Runs.run step initial [assigned, moved]) "inspect-a" "cf01" 1)) (by decide +kernel)
  have current := of_decide_eq_true current
  exact ⟨initial, created, (ledger_fencing created [assigned]).2.2 "inspect-a" "cf01" 1 [moved] []
    current.1 current.2 _ rfl _⟩

end CrazySwarm.TaskLedger
