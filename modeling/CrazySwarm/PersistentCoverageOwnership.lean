import CrazySwarm.PersistentCoverageSteps

/-! Ownership across the two stores. A vehicle owns one task, replaces one vehicle, and while
its takeover is unconfirmed owns nothing. A takeover whose reason is too long for evidence
tears the stores apart; every other call keeps them together. -/
namespace CrazySwarm.PersistentCoverage
open PyFloat

variable {F : Type} [PyFloat F]

def Owns (coverage : PersistentCoverage F) (taskId vehicleId : String) : Prop :=
  ∃ task, coverage.tasks.records.get? taskId = some task ∧ task.ownerVehicleId = some vehicleId

/-- A filed handover that is not `COMPLETED`, `DEGRADED` or `FAILED`. -/
def Open (coverage : PersistentCoverage F) (key : String) (record : HandoverRecord F) : Prop :=
  coverage.handovers.get? key = some record ∧ record.active = true

structure Exclusive (coverage : PersistentCoverage F) : Prop where
  oneTaskPerVehicle : ∀ {taskId other vehicleId}, Owns coverage taskId vehicleId →
    Owns coverage other vehicleId → taskId = other
  oneHandoverPerIncoming : ∀ {key other record another vehicleId}, Open coverage key record →
    Open coverage other another → record.incomingVehicleId = some vehicleId →
    another.incomingVehicleId = some vehicleId → key = other
  incomingOwnsNothing : ∀ {key record vehicleId}, Open coverage key record →
    record.takeoverConfirmed = false → record.incomingVehicleId = some vehicleId →
    ∀ taskId, ¬ Owns coverage taskId vehicleId
  oneHandoverPerTask : ∀ {key other record another}, Open coverage key record →
    Open coverage other another → record.taskId = another.taskId → key = other

/-- Nothing is owned and nothing is filed. -/
structure Fresh (coverage : PersistentCoverage F) : Prop where
  unowned : ∀ taskId vehicleId, ¬ Owns coverage taskId vehicleId
  unfiled : ∀ key, coverage.handovers.get? key = none

def Assigned (coverage : PersistentCoverage F) (taskId : String) : Prop :=
  ∃ task, coverage.tasks.records.get? taskId = some task ∧ task.state ∉ [.declared, .retryPending]

/-- The invariant. The initial allocation stops at its first task unless nothing happened yet. -/
structure Coherent (coverage : PersistentCoverage F) : Prop where
  exclusive : Exclusive coverage
  checked : Checked coverage
  waiting : ∀ key record, coverage.handovers.get? key = some record →
    record.phase ∈ [.preparing, .takeoverPending] → record.takeoverConfirmed = false
  allocation : Fresh coverage ∨
    ∀ definition ∈ (byPriority coverage.deployment.tasks).head?, Assigned coverage definition.taskId

theorem Quiet.coherent {coverage next : PersistentCoverage F} (quiet : Quiet coverage next)
    (coherent : Coherent coverage) : Coherent next := by
  obtain ⟨deployment, tasks, _, handovers, _, _⟩ := coverage
  obtain ⟨_, _, _, _, _, _⟩ := next
  obtain ⟨sameDeployment, sameTasks, sameHandovers⟩ := quiet
  dsimp only at sameDeployment sameTasks sameHandovers
  subst sameDeployment sameTasks sameHandovers
  obtain ⟨⟨a, b, c, d⟩, ⟨e, f⟩, waiting, allocation⟩ := coherent
  refine ⟨⟨a, b, c, d⟩, ⟨e, f⟩, waiting, ?_⟩
  exact allocation.imp (fun fresh => ⟨fresh.1, fresh.2⟩) id

section Tasks
variable {coverage next : PersistentCoverage F} {taskId : String} {stored : TaskRecord F}

omit [PyFloat F] in
theorem owns_written (tasks : next.tasks = coverage.tasks.written taskId stored)
    {other vehicleId : String} : Owns next other vehicleId ↔
      if taskId = other then stored.ownerVehicleId = some vehicleId
      else Owns coverage other vehicleId := by
  simp only [Owns, tasks, TaskLedger.written, Dict.get?_insert]
  split <;> simp

omit [PyFloat F] in
theorem assigned_written (tasks : next.tasks = coverage.tasks.written taskId stored)
    (state : stored.state = .assigned) {other : String}
    (assigned : taskId = other ∨ Assigned coverage other) : Assigned next other := by
  simp only [Assigned, tasks, TaskLedger.written, Dict.get?_insert]
  by_cases same : taskId = other
  · exact ⟨stored, by simp [same], by simp [state]⟩
  · obtain ⟨task, found, past⟩ := assigned.resolve_left same
    exact ⟨task, by simp [same, found], past⟩

theorem progress_written (tasks : next.tasks = coverage.tasks.written taskId stored)
    (progress : percentage stored.progressPercent = true)
    (checked : ∀ other task, coverage.tasks.records.get? other = some task →
      percentage task.progressPercent = true) {other : String} {task : TaskRecord F}
    (found : next.tasks.records.get? other = some task) :
    percentage task.progressPercent = true := by
  simp only [tasks, TaskLedger.written, Dict.get?_insert] at found
  split at found
  · cases found; exact progress
  · exact checked other task found

end Tasks

section Handovers
variable {coverage next : PersistentCoverage F} {key : String} {record updated : HandoverRecord F}

omit [PyFloat F] in
theorem open_inserted (handovers : next.handovers = coverage.handovers.insert key updated)
    {other : String} {found : HandoverRecord F} (opened : Open next other found) :
    (other = key ∧ found = updated ∧ updated.active = true) ∨
      (other ≠ key ∧ Open coverage other found) := by
  obtain ⟨lookup, active⟩ := opened
  rw [handovers, Dict.get?_insert] at lookup
  split at lookup
  · next same => cases lookup; exact .inl ⟨same.symm, rfl, active⟩
  · next apart => exact .inr ⟨Ne.symm apart, lookup, active⟩

/-- Every open handover was open before, for the same task and replacement. -/
def Inherited (coverage next : PersistentCoverage F) : Prop :=
  ∀ key record, Open next key record → ∃ earlier, Open coverage key earlier ∧
    record.taskId = earlier.taskId ∧ record.incomingVehicleId = earlier.incomingVehicleId

omit [PyFloat F] in
theorem Inherited.oneHandoverPerIncoming (inherited : Inherited coverage next)
    (exclusive : Exclusive coverage) {key other vehicleId : String} {record another : HandoverRecord F}
    (left : Open next key record) (right : Open next other another)
    (incoming : record.incomingVehicleId = some vehicleId)
    (same : another.incomingVehicleId = some vehicleId) : key = other := by
  obtain ⟨earlier, opened, _, kept⟩ := inherited key record left
  obtain ⟨elsewhere, openedElsewhere, _, keptElsewhere⟩ := inherited other another right
  exact exclusive.oneHandoverPerIncoming opened openedElsewhere (kept ▸ incoming)
    (keptElsewhere ▸ same)

omit [PyFloat F] in
theorem Inherited.oneHandoverPerTask (inherited : Inherited coverage next)
    (exclusive : Exclusive coverage) {key other : String} {record another : HandoverRecord F}
    (left : Open next key record) (right : Open next other another)
    (same : record.taskId = another.taskId) : key = other := by
  obtain ⟨earlier, opened, kept, _⟩ := inherited key record left
  obtain ⟨elsewhere, openedElsewhere, keptElsewhere, _⟩ := inherited other another right
  exact exclusive.oneHandoverPerTask opened openedElsewhere (by rw [← kept, same, keptElsewhere])

omit [PyFloat F] in
theorem inherited_of_insert (handovers : next.handovers = coverage.handovers.insert key updated)
    (found : coverage.handovers.get? key = some record) (same : SameHandover record updated)
    (closed : updated.active = true → record.active = true) : Inherited coverage next := by
  intro other current opened
  rcases open_inserted handovers opened with ⟨rfl, rfl, active⟩ | ⟨_, before⟩
  · exact ⟨record, ⟨found, closed active⟩, same.taskId, same.incomingVehicleId⟩
  · exact ⟨current, before, rfl, rfl⟩

end Handovers

section Steps
variable {coverage next : PersistentCoverage F} {key : String} {record updated : HandoverRecord F}

omit [PyFloat F] in
theorem owns_of_tasks (tasks : next.tasks = coverage.tasks) {taskId vehicleId : String} :
    Owns next taskId vehicleId ↔ Owns coverage taskId vehicleId := by
  simp only [Owns, tasks]

theorem Coherent.allocated (coherent : Coherent coverage) (used : ¬ Fresh coverage)
    (deployment : next.deployment = coverage.deployment)
    (kept : ∀ taskId, Assigned coverage taskId → Assigned next taskId) :
    Fresh next ∨ ∀ definition ∈ (byPriority next.deployment.tasks).head?,
      Assigned next definition.taskId := by
  refine .inr fun definition first => ?_
  rw [deployment] at first
  exact kept _ (coherent.allocation.resolve_left used definition first)

theorem Filed.coherent_of_successor (filed : Filed coverage next key updated)
    (coherent : Coherent coverage) (found : coverage.handovers.get? key = some record)
    (successor : Successor record updated) : Coherent next := by
  have reopen : updated.active = true → record.active = true := fun active =>
    Bool.not_eq_false _ ▸ fun closed => by simp [successor.closed closed] at active
  have inherited := inherited_of_insert filed.handovers found successor.toSameHandover reopen
  refine ⟨⟨?_, inherited.oneHandoverPerIncoming coherent.exclusive, ?_,
    inherited.oneHandoverPerTask coherent.exclusive⟩, ⟨?_, ?_⟩, ?_, ?_⟩
  · intro taskId other vehicleId left right
    exact coherent.exclusive.oneTaskPerVehicle ((owns_of_tasks filed.tasks).mp left)
      ((owns_of_tasks filed.tasks).mp right)
  · intro other current vehicleId opened unconfirmed incoming taskId owned
    have owned := (owns_of_tasks filed.tasks).mp owned
    rcases open_inserted filed.handovers opened with ⟨rfl, rfl, active⟩ | ⟨_, before⟩
    · exact coherent.exclusive.incomingOwnsNothing ⟨found, reopen active⟩
        (successor.confirmed ▸ unconfirmed) (successor.incomingVehicleId ▸ incoming) taskId owned
    · exact coherent.exclusive.incomingOwnsNothing before unconfirmed incoming taskId owned
  · intro other current lookup
    rw [filed.handovers, Dict.get?_insert] at lookup
    split at lookup
    · cases lookup
      rw [successor.handoverId, successor.taskId, successor.outgoingVehicleId]
      exact coherent.checked.handovers key record found
    · exact coherent.checked.handovers other current lookup
  · rw [filed.tasks]
    exact coherent.checked.progress
  · intro other current lookup waiting
    rw [filed.handovers, Dict.get?_insert] at lookup
    split at lookup
    · cases lookup
      rw [successor.confirmed]
      exact coherent.waiting key record found (successor.waiting waiting)
    · exact coherent.waiting other current lookup waiting
  · refine coherent.allocated (fun fresh => ?_) filed.deployment fun taskId => ?_
    · rw [fresh.unfiled key] at found
      cases found
    · simp only [Assigned, filed.tasks]
      exact id

omit [PyFloat F] in
/-- The replacement of a begun handover is known to neither store. -/
theorem unknown_of_free {vehicleId : String} (identifier : isIdentifier vehicleId = true)
    (free : vehicleId ∉ coverage.currentOwners)
    (unreserved : some vehicleId ∉ coverage.reservedForOtherHandover) :
    (∀ taskId, ¬Owns coverage taskId vehicleId) ∧
      ∀ other another, Open coverage other another → another.incomingVehicleId ≠ some vehicleId := by
  constructor
  · rintro other ⟨holder, listed, owner⟩
    refine free (List.mem_filter.mpr ⟨List.mem_filterMap.mpr ⟨holder, ?_, owner⟩, ?_⟩)
    · exact (Dict.mem_values_iff _ holder).mpr ⟨other, listed⟩
    · refine decide_eq_true fun empty => ?_
      simp [empty, isIdentifier] at identifier
  · rintro other another ⟨listed, active⟩ same
    refine unreserved (List.mem_map.mpr ⟨another, List.mem_filter.mpr ⟨?_, active⟩, same⟩)
    exact (Dict.mem_values_iff _ another).mpr ⟨other, listed⟩

theorem Filed.coherent_of_begun {task : TaskRecord F} {taskId owner reason : String} {timestamp : F}
    (filed : Filed coverage next key record) (coherent : Coherent coverage)
    (guarded : coverage.beginGuard taskId = .ok (task, owner))
    (begun : Begun coverage task taskId owner reason timestamp record) : Coherent next := by
  obtain ⟨leased, owned, unused⟩ := beginGuard_eq_ok guarded
  -- an open fresh handover names a replacement that neither store knows
  have replacement : record.active = true → ∀ vehicleId, record.incomingVehicleId = some vehicleId →
      (∀ other, ¬ Owns coverage other vehicleId) ∧
      ∀ other another, Open coverage other another → another.incomingVehicleId ≠ some vehicleId := by
    intro active vehicleId incoming
    rcases begun.placed with degraded | ⟨chosen, named, identifier, free, unreserved⟩
    · simp [HandoverRecord.active, degraded] at active
    · rw [named] at incoming
      cases incoming
      exact unknown_of_free identifier free unreserved
  refine ⟨⟨?_, ?_, ?_, ?_⟩, ⟨?_, ?_⟩, ?_, ?_⟩
  · intro taskId other vehicleId left right
    exact coherent.exclusive.oneTaskPerVehicle ((owns_of_tasks filed.tasks).mp left)
      ((owns_of_tasks filed.tasks).mp right)
  · intro one other left right vehicleId opened another incoming same
    rcases open_inserted filed.handovers opened with ⟨rfl, rfl, active⟩ | ⟨_, before⟩ <;>
      rcases open_inserted filed.handovers another with ⟨rfl, rfl, active⟩ | ⟨_, elsewhere⟩
    · rfl
    · exact absurd same ((replacement active vehicleId incoming).2 _ _ elsewhere)
    · exact absurd incoming ((replacement active vehicleId same).2 _ _ before)
    · exact coherent.exclusive.oneHandoverPerIncoming before elsewhere incoming same
  · intro other current vehicleId opened unconfirmed incoming taskId owned
    have owned := (owns_of_tasks filed.tasks).mp owned
    rcases open_inserted filed.handovers opened with ⟨rfl, rfl, active⟩ | ⟨_, before⟩
    · exact (replacement active vehicleId incoming).1 taskId owned
    · exact coherent.exclusive.incomingOwnsNothing before unconfirmed incoming taskId owned
  · intro one other left right opened another same
    rcases open_inserted filed.handovers opened with ⟨rfl, rfl, _⟩ | ⟨_, before⟩ <;>
      rcases open_inserted filed.handovers another with ⟨rfl, rfl, _⟩ | ⟨_, elsewhere⟩
    · rfl
    · exact absurd (same.symm.trans begun.taskId) (unused _ _ elsewhere.1 elsewhere.2)
    · exact absurd (same.trans begun.taskId) (unused _ _ before.1 before.2)
    · exact coherent.exclusive.oneHandoverPerTask before elsewhere same
  · intro other current lookup
    rw [filed.handovers, Dict.get?_insert] at lookup
    split at lookup
    · cases lookup
      exact ⟨begun.named.handover, begun.named.task, begun.named.outgoing⟩
    · exact coherent.checked.handovers other current lookup
  · rw [filed.tasks]
    exact coherent.checked.progress
  · intro other current lookup waiting
    rw [filed.handovers, Dict.get?_insert] at lookup
    split at lookup
    · cases lookup; exact begun.unconfirmed
    · exact coherent.waiting other current lookup waiting
  · refine coherent.allocated (fun fresh => ?_) filed.deployment fun taskId => ?_
    · exact fresh.unowned taskId owner ⟨task, leased, owned⟩
    · simp only [Assigned, filed.tasks]
      exact id

omit [PyFloat F] in
theorem Transferred.owns {vehicleId : String} (transferred : Transferred coverage next record vehicleId)
    {taskId other : String} (owned : Owns next taskId other) :
    (taskId = record.taskId ∧ other = vehicleId) ∨ Owns coverage taskId other := by
  obtain ⟨task, stored, _, tasks, _, owner, _⟩ := transferred.tasks
  have owned := (owns_written tasks).mp owned
  split at owned
  · next same =>
    rw [owner] at owned
    cases owned
    exact .inl ⟨same.symm, rfl⟩
  · exact .inr owned

omit [PyFloat F] in
theorem Transferred.owner {vehicleId : String}
    (transferred : Transferred coverage next record vehicleId) :
    Owns next record.taskId vehicleId := by
  obtain ⟨task, stored, _, tasks, _, owner, _⟩ := transferred.tasks
  exact (owns_written tasks).mpr (by simp [owner])

omit [PyFloat F] in
theorem Transferred.assigned {vehicleId : String}
    (transferred : Transferred coverage next record vehicleId) {taskId : String}
    (assigned : Assigned coverage taskId) : Assigned next taskId := by
  obtain ⟨task, stored, _, tasks, state, _⟩ := transferred.tasks
  exact assigned_written tasks state (.inr assigned)

theorem Transferred.progress {vehicleId : String}
    (transferred : Transferred coverage next record vehicleId) (checked : Checked coverage) :
    ∀ taskId task, next.tasks.records.get? taskId = some task →
      percentage task.progressPercent = true := by
  obtain ⟨task, stored, leased, tasks, _, _, kept⟩ := transferred.tasks
  intro taskId current found
  exact progress_written tasks (kept ▸ checked.progress _ task leased) checked.progress found

theorem takeover_coherent {vehicleId : String} (coherent : Coherent coverage)
    (found : coverage.handovers.get? key = some record) (pending : record.phase = .takeoverPending)
    (incoming : record.incomingVehicleId = some vehicleId) (same : SameHandover record updated)
    (phase : updated.phase = .takeoverConfirmed) (confirmed : updated.takeoverConfirmed = true)
    (transferred : Transferred coverage next record vehicleId)
    (handovers : next.handovers = coverage.handovers.insert key updated) : Coherent next := by
  have active : record.active = true := by simp [HandoverRecord.active, pending]
  have unconfirmed := coherent.waiting key record found (by simp [pending])
  have free := coherent.exclusive.incomingOwnsNothing ⟨found, active⟩ unconfirmed incoming
  have inherited := inherited_of_insert handovers found same fun _ => active
  refine ⟨⟨?_, inherited.oneHandoverPerIncoming coherent.exclusive, ?_,
    inherited.oneHandoverPerTask coherent.exclusive⟩, ⟨?_, transferred.progress coherent.checked⟩,
    ?_, ?_⟩
  · intro taskId other vehicle left right
    rcases transferred.owns left with ⟨rfl, rfl⟩ | before <;>
      rcases transferred.owns right with ⟨rfl, again⟩ | elsewhere
    · rfl
    · exact absurd elsewhere (free other)
    · subst again
      exact absurd before (free taskId)
    · exact coherent.exclusive.oneTaskPerVehicle before elsewhere
  · intro other current vehicle opened waiting named taskId owned
    rcases open_inserted handovers opened with ⟨rfl, rfl, _⟩ | ⟨apart, before⟩
    · rw [confirmed] at waiting
      cases waiting
    · rcases transferred.owns owned with ⟨rfl, rfl⟩ | owned
      · exact apart (coherent.exclusive.oneHandoverPerIncoming before ⟨found, active⟩ named incoming)
      · exact coherent.exclusive.incomingOwnsNothing before waiting named taskId owned
  · intro other current lookup
    rw [handovers, Dict.get?_insert] at lookup
    split at lookup
    · cases lookup
      rw [same.handoverId, same.taskId, same.outgoingVehicleId]
      exact coherent.checked.handovers key record found
    · exact coherent.checked.handovers other current lookup
  · intro other current lookup waiting
    rw [handovers, Dict.get?_insert] at lookup
    split at lookup
    · cases lookup
      simp [phase] at waiting
    · exact coherent.waiting other current lookup waiting
  · refine coherent.allocated (fun fresh => ?_) transferred.deployment fun taskId => ?_
    · rw [fresh.unfiled key] at found
      cases found
    · exact transferred.assigned

omit [PyFloat F] in
/-- A torn takeover leaves the replacement owning the task it still waits to take over. -/
theorem torn_not_exclusive {vehicleId : String} (handovers : next.handovers = coverage.handovers)
    (found : coverage.handovers.get? key = some record) (pending : record.phase = .takeoverPending)
    (unconfirmed : record.takeoverConfirmed = false)
    (incoming : record.incomingVehicleId = some vehicleId)
    (transferred : Transferred coverage next record vehicleId) : ¬ Exclusive next := fun exclusive =>
  exclusive.incomingOwnsNothing ⟨handovers ▸ found, by simp [HandoverRecord.active, pending]⟩
    unconfirmed incoming record.taskId transferred.owner

end Steps

section Allocation

/-- Inside the allocation loop every owner is among the claimed vehicles. -/
structure Claims (claimed : List String) (coverage : PersistentCoverage F) : Prop where
  claimed : ∀ taskId vehicleId, Owns coverage taskId vehicleId → vehicleId ∈ claimed
  oneTaskPerVehicle : ∀ {taskId other vehicleId}, Owns coverage taskId vehicleId →
    Owns coverage other vehicleId → taskId = other
  unfiled : ∀ key, coverage.handovers.get? key = none
  progress : ∀ taskId task, coverage.tasks.records.get? taskId = some task →
    percentage task.progressPercent = true

theorem Claims.assign {claimed : List String} {coverage next : PersistentCoverage F}
    {taskId vehicleId : String} {stored : TaskRecord F} (claims : Claims claimed coverage)
    (unclaimed : vehicleId ∉ claimed) (owner : stored.ownerVehicleId = some vehicleId)
    (progress : percentage stored.progressPercent = true)
    (tasks : next.tasks = coverage.tasks.written taskId stored)
    (handovers : next.handovers = coverage.handovers) : Claims (vehicleId :: claimed) next := by
  have owns : ∀ {other vehicle}, Owns next other vehicle →
      (other = taskId ∧ vehicle = vehicleId) ∨ Owns coverage other vehicle := by
    intro other vehicle owned
    have owned := (owns_written tasks).mp owned
    split at owned
    · next same =>
      rw [owner] at owned
      cases owned
      exact .inl ⟨same.symm, rfl⟩
    · exact .inr owned
  refine ⟨?_, ?_, fun key => handovers ▸ claims.unfiled key, fun _ _ found => ?_⟩
  · intro other vehicle owned
    rcases owns owned with ⟨_, rfl⟩ | before
    · exact List.mem_cons_self
    · exact List.mem_cons_of_mem _ (claims.claimed other vehicle before)
  · intro one other vehicle left right
    rcases owns left with ⟨rfl, rfl⟩ | before <;> rcases owns right with ⟨rfl, again⟩ | elsewhere
    · rfl
    · exact absurd (claims.claimed _ _ elsewhere) unclaimed
    · subst again
      exact absurd (claims.claimed _ _ before) unclaimed
    · exact claims.oneTaskPerVehicle before elsewhere
  · exact progress_written tasks progress claims.progress found

/-- The loop keeps the claims, and an assigned task stays assigned. -/
theorem allocateEach_claims (available : Dict String (CoverageCandidate F)) (allow : Bool)
    (preferred : Option (Dict String String)) (nowS : Option F)
    (definitions : List (DeploymentTaskDefinition F)) (clock : Nat → F)
    (decisions : List (AllocationDecision F)) {claimed : List String}
    {coverage : PersistentCoverage F} (claims : Claims claimed coverage) :
    let next := (allocateEach available allow preferred nowS clock definitions claimed decisions
      coverage).1
    (∃ all, Claims all next) ∧ next.deployment = coverage.deployment ∧
      ∀ taskId, Assigned coverage taskId → Assigned next taskId := by
  induction definitions generalizing clock claimed decisions coverage with
  | nil => exact ⟨⟨claimed, claims⟩, rfl, fun _ => id⟩
  | cons definition rest ih =>
    rcases allocateEach_cons available allow preferred nowS clock definition rest claimed decisions
      coverage with same | ⟨vehicleId, task, stored, unclaimed, found, _, state, owner, kept, stops⟩
    · rw [same]
      exact ⟨⟨claimed, claims⟩, rfl, fun _ => id⟩
    · have claims : Claims (vehicleId :: _) { coverage with
          tasks := coverage.tasks.written definition.taskId stored } :=
        claims.assign unclaimed owner (kept ▸ claims.progress _ task found) rfl rfl
      have assigned : ∀ taskId, Assigned coverage taskId → Assigned { coverage with
          tasks := coverage.tasks.written definition.taskId stored } taskId := fun taskId assigned =>
        assigned_written rfl state (.inr assigned)
      rcases stops with same | ⟨decision, same⟩
      · rw [same]
        exact ⟨⟨_, claims⟩, rfl, assigned⟩
      · rw [same]
        obtain ⟨all, deployment, later⟩ := ih _ _ claims
        exact ⟨all, deployment, fun taskId before => later taskId (assigned taskId before)⟩

theorem Claims.coherent {claimed : List String} {coverage : PersistentCoverage F}
    (claims : Claims claimed coverage)
    (allocated : ∀ definition ∈ (byPriority coverage.deployment.tasks).head?,
      Assigned coverage definition.taskId) : Coherent coverage := by
  have closed : ∀ key record, ¬ Open coverage key record := fun key record opened => by
    simp [Open, claims.unfiled key] at opened
  refine ⟨⟨claims.oneTaskPerVehicle, ?_, ?_, ?_⟩, ⟨?_, claims.progress⟩, ?_, .inr allocated⟩
  · exact fun opened => absurd opened (closed _ _)
  · exact fun opened => absurd opened (closed _ _)
  · exact fun opened => absurd opened (closed _ _)
  · exact fun key record found => by simp [claims.unfiled key] at found
  · exact fun key record found => by simp [claims.unfiled key] at found

theorem allocateInitial_cases {coverage : PersistentCoverage F}
    (allocation : (Fresh coverage ∧ Checked coverage) ∨
      ∀ definition ∈ (byPriority coverage.deployment.tasks).head?, Assigned coverage definition.taskId)
    (candidates : List (CoverageCandidate F)) (allow : Bool)
    (preferred : Option (Dict String String)) (nowS : Option F) (clock : Nat → F) :
    let next := (coverage.allocateInitial candidates allow preferred nowS clock).1
    next = coverage ∨ ∃ claimed, Claims claimed next ∧
      ∀ definition ∈ (byPriority next.deployment.tasks).head?, Assigned next definition.taskId := by
  intro next
  simp only [next, allocateInitial_state]
  generalize Dict.ofList (candidates.map fun item => (item.vehicleId, item)) = available
  cases ordered : byPriority coverage.deployment.tasks with
  | nil => exact .inl rfl
  | cons definition rest =>
    rcases allocateEach_cons available allow preferred nowS clock definition rest [] [] coverage
      with same | ⟨vehicleId, task, stored, unclaimed, found, unassigned, state, owner, kept, stops⟩
    · exact .inl same
    rcases allocation with ⟨fresh, checked⟩ | allocated
    · have claims : Claims [] coverage :=
        ⟨fun taskId vehicleId owned => absurd owned (fresh.unowned taskId vehicleId),
          fun owned => absurd owned (fresh.unowned _ _), fresh.unfiled, checked.progress⟩
      have claims : Claims (vehicleId :: _) { coverage with
          tasks := coverage.tasks.written definition.taskId stored } :=
        claims.assign unclaimed owner (kept ▸ claims.progress _ task found) rfl rfl
      have assigned : Assigned { coverage with
          tasks := coverage.tasks.written definition.taskId stored } definition.taskId :=
        assigned_written rfl state (.inl rfl)
      rcases stops with same | ⟨decision, same⟩
      · rw [same]
        exact .inr ⟨_, claims, by simpa [ordered] using assigned⟩
      · rw [same]
        obtain ⟨⟨all, claims⟩, deployment, later⟩ := allocateEach_claims available allow preferred
          nowS rest (fun i => clock (i + 2)) ([] ++ [decision]) claims
        refine .inr ⟨all, claims, ?_⟩
        rw [deployment]
        simpa [ordered] using later _ assigned
    -- the first task is past its assignment, so the loop cannot have stored another one
    · obtain ⟨other, listed, past⟩ := allocated definition (by simp [ordered])
      rw [found] at listed
      cases listed
      exact absurd unassigned past

theorem allocateInitial_coherent {coverage : PersistentCoverage F} (coherent : Coherent coverage)
    (candidates : List (CoverageCandidate F)) (allow : Bool)
    (preferred : Option (Dict String String)) (nowS : Option F) (clock : Nat → F) :
    Coherent (coverage.allocateInitial candidates allow preferred nowS clock).1 := by
  rcases allocateInitial_cases (coherent.allocation.imp (fun fresh => ⟨fresh, coherent.checked⟩) id)
    candidates allow preferred nowS clock with same | ⟨claimed, claims, allocated⟩
  · rw [same]
    exact coherent
  · exact claims.coherent allocated

end Allocation

/-- The call is a takeover whose transfer would be stored without its evidence. -/
def overlongTakeover (coverage : PersistentCoverage F) (call : Call F) : Bool :=
  match call.op with
  | .confirmTakeover key candidates nowS =>
    coverage.overlong key candidates (now nowS (call.clock.read 0))
  | _ => false

theorem Advances.coherent {coverage : PersistentCoverage F} {key : String}
    {result : PersistentCoverage F × Except (Fault F) (HandoverRecord F)}
    (advances : Advances coverage key result) (coherent : Coherent coverage) :
    Coherent result.1 := by
  cases advances with
  | rejected quiet => exact quiet.coherent coherent
  | filed found successor filed => exact filed.coherent_of_successor coherent found successor

theorem Begins.coherent {coverage : PersistentCoverage F} {taskId reason : String}
    {candidates : List (CoverageCandidate F)} {timestamp : F}
    {result : PersistentCoverage F × Except (Fault F) (HandoverRecord F)}
    (begins : Begins coverage taskId reason candidates timestamp result)
    (coherent : Coherent coverage) : Coherent result.1 := by
  cases begins with
  | rejected refused quiet => exact quiet.coherent coherent
  | filed accepted guarded begun filed => exact filed.coherent_of_begun coherent guarded begun

theorem Takes.coherent {coverage : PersistentCoverage F} {key : String}
    {candidates : List (CoverageCandidate F)} {timestamp : F}
    {result : PersistentCoverage F × Except (Fault F) (HandoverRecord F)}
    (takes : Takes coverage key candidates timestamp result) (coherent : Coherent coverage)
    (short : coverage.overlong key candidates timestamp = false) : Coherent result.1 := by
  cases takes with
  | rejected refused quiet => exact quiet.coherent coherent
  | confirmed _ found pending incoming same phase confirmed transferred handovers =>
    exact takeover_coherent coherent found pending incoming same phase confirmed transferred handovers
  | torn long => exact absurd ((long coherent.checked).symm.trans short) (by simp)

theorem Takes.not_exclusive {coverage : PersistentCoverage F} {key : String}
    {candidates : List (CoverageCandidate F)} {timestamp : F}
    {result : PersistentCoverage F × Except (Fault F) (HandoverRecord F)}
    (takes : Takes coverage key candidates timestamp result) (coherent : Coherent coverage)
    (long : coverage.overlong key candidates timestamp = true) : ¬ Exclusive result.1 := by
  cases takes with
  | rejected refused => exact absurd (refused.symm.trans long) (by simp)
  | confirmed short => exact absurd (short.symm.trans long) (by simp)
  | torn _ found pending incoming transferred handovers =>
    exact torn_not_exclusive handovers found pending
      (coherent.waiting key _ found (by simp [pending])) incoming transferred

theorem step_coherent {coverage : PersistentCoverage F} (coherent : Coherent coverage)
    (call : Call F) (short : overlongTakeover coverage call = false) :
    Coherent (step coverage call) := by
  obtain ⟨op, clock⟩ := call
  cases op with
  | allocateInitial candidates allow preferred nowS =>
    exact allocateInitial_coherent coherent candidates allow preferred nowS clock.read
  | beginHandover taskId reason candidates nowS =>
    exact (beginHandover_begins coverage taskId reason candidates nowS clock.read).coherent coherent
  | confirmReplacementReady key candidates nowS =>
    exact (confirmReplacementReady_advances coverage key candidates nowS clock.read).coherent coherent
  | confirmTakeover key candidates nowS =>
    exact (confirmTakeover_takes coverage key candidates nowS clock.nonneg).coherent coherent
      short
  | releaseOutgoing key reason nowS =>
    exact (releaseOutgoing_advances coverage key reason nowS clock.read).coherent coherent
  | terminateHandover key reason failed nowS =>
    exact (terminateHandover_advances coverage key reason failed nowS clock.read).coherent coherent
  | failHandover key reason nowS =>
    exact (failHandover_advances coverage key reason nowS clock.read).coherent coherent

theorem step_torn (coverage : PersistentCoverage F) (coherent : Coherent coverage) (call : Call F)
    (long : overlongTakeover coverage call = true) : ¬ Exclusive (step coverage call) := by
  obtain ⟨op, clock⟩ := call
  cases op with
  | confirmTakeover key candidates nowS =>
    exact (confirmTakeover_takes coverage key candidates nowS clock.nonneg).not_exclusive
      coherent long
  | _ => simp [overlongTakeover] at long

/-- A constructed ledger has no owners, and every progress it holds passed its check. -/
theorem ledger_unowned {session run sha : String} {definitions : List (DeploymentTaskDefinition F)}
    {duration : F} {clock : Nat → F} {initial : TaskLedger F} (nonempty : definitions ≠ [])
    (created : TaskLedger.create session run sha definitions duration clock = .ok initial) :
    ∀ taskId task, initial.records.get? taskId = some task →
      task.ownerVehicleId = none ∧ percentage task.progressPercent = true := by
  obtain ⟨records, taskIds, declared, undeclared, counted⟩ := TaskLedger.create_eq_ok created
  have bare : ∀ taskId task, initial.records.get? taskId = some task →
      task.ownerVehicleId = none ∧ task.progressPercent = zero := by
    refine TaskLedger.declareAll_invariant (I := fun ledger => ∀ taskId task,
      ledger.records.get? taskId = some task →
        task.ownerVehicleId = none ∧ task.progressPercent = zero)
      (fun ledger taskId task timestamp held found _ => ?_) ?_ declared
    · intro other current lookup
      simp only [TaskLedger.written, Dict.get?_insert] at lookup
      split at lookup
      · cases lookup; exact held taskId task found
      · exact held other current lookup
    · intro taskId task found
      rw [(undeclared taskId task found).1]
      exact ⟨rfl, rfl⟩
  have checked : percentage (zero : F) = true := by
    cases taskIds with
    | nil => exact absurd (List.length_eq_zero_iff.mp counted.symm) nonempty
    | cons taskId rest =>
      cases found : records.get? taskId with
      | none => simp [TaskLedger.declareAll, TaskLedger.emit, TaskLedger.record, found] at declared
      | some task =>
        have listed : (⟨session, run, sha, duration, records, 0⟩ : TaskLedger F).records.get? taskId =
            some task := found
        rcases TaskLedger.emit_cases "TASK_DECLARED" none (clock 0) listed
          with ⟨_, _, eq⟩ | ⟨accepted, _⟩
        · simp [TaskLedger.declareAll, eq] at declared
        · have passed := (validated_eq_ok.mp accepted).1
            ("progress_percent", percentage task.progressPercent) (by simp [TaskLedger.evidence])
          rw [(undeclared taskId task found).1] at passed
          exact passed
  intro taskId task found
  obtain ⟨unowned, progress⟩ := bare taskId task found
  exact ⟨unowned, progress ▸ checked⟩

theorem create_fresh {fleetSessionId fleetRunId : String} {deployment : DeploymentManifest F}
    {duration : F} {clock : Nat → F} {initial : PersistentCoverage F}
    (created : create fleetSessionId fleetRunId deployment duration clock = .ok initial) :
    Fresh initial ∧ Checked initial := by
  obtain ⟨_, sized, created⟩ := bind_eq_ok.mp created
  obtain ⟨tasks, ledger, created⟩ := bind_eq_ok.mp created
  cases created
  have nonempty : deployment.tasks ≠ [] := fun empty => by simp [empty] at sized
  have bare := ledger_unowned nonempty ledger
  refine ⟨⟨?_, by simp⟩, by simp, fun taskId task found => (bare taskId task found).2⟩
  rintro taskId vehicleId ⟨task, found, owned⟩
  rw [(bare taskId task found).1] at owned
  cases owned

theorem create_coherent {fleetSessionId fleetRunId : String} {deployment : DeploymentManifest F}
    {duration : F} {clock : Nat → F} {initial : PersistentCoverage F}
    (created : create fleetSessionId fleetRunId deployment duration clock = .ok initial) :
    Coherent initial := by
  obtain ⟨fresh, checked⟩ := create_fresh created
  have closed : ∀ {key record}, ¬Open initial key record := fun {key _} opened => by
    simp [Open, fresh.unfiled key] at opened
  refine ⟨⟨?_, ?_, ?_, ?_⟩, checked, ?_, .inl fresh⟩
  · exact fun owned => absurd owned (fresh.unowned _ _)
  · exact fun opened => absurd opened closed
  · exact fun opened => absurd opened closed
  · exact fun opened => absurd opened closed
  · exact fun key record found => by simp [fresh.unfiled key] at found

/-- Allocation and one handover of the first zone up to its takeover. -/
def takeoverRun (reason : String) : List (Call ℚ) := [
  callAt 10 rfl (.allocateInitial (threeVehicles true) false none none),
  callAt 11 rfl (.beginHandover "cover-zone-a" reason (threeVehicles true) none),
  callAt 12 rfl
    (.confirmReplacementReady "handover-cover-zone-a-2" (threeVehicles true) none),
  callAt 13 rfl
    (.confirmTakeover "handover-cover-zone-a-2" (threeVehicles true) none)]

end CrazySwarm.PersistentCoverage
