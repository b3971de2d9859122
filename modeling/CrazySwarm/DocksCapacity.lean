import CrazySwarm.DocksSteps

/-! Capacity and lifecycle of the docks. Nothing but an allocation and a promotion takes
capacity, and both look for free capacity first; a spent attempt is returned to the lifecycle
only while another is left. -/
namespace CrazySwarm.DockManager
open PyFloat

variable {F : Type} [PyFloat F]

structure Lifecycle (record : DockReservation F) : Prop where
  attempts : record.attempts ≤ record.maximumAttempts
  remaining : record.state ∈ [.reserved, .queued, .returnToDockArea, .approachRequested,
    .retryPending] → record.attempts < record.maximumAttempts
  landed : record.state = .landedUnconfirmed → record.modeledLandingObserved = true
  charged : record.state ∈ [.chargingConfirmed, .charging, .ready] →
    record.modeledLandingObserved = true ∧ record.modeledContactObserved = true ∧
      record.modeledChargingConfirmed = true

structure Safe (docks : DockManager F) : Prop where
  capacity : ∀ dockId definition, docks.definitions.get? dockId = some definition →
    docks.occupancy dockId ≤ definition.capacity
  attempts : ∀ key record, docks.reservations.get? key = some record →
    record.attempts ≤ record.maximumAttempts
  charging : ∀ key record, docks.reservations.get? key = some record →
    record.state ∈ [.chargingConfirmed, .charging, .ready] →
    record.modeledLandingObserved = true ∧ record.modeledContactObserved = true ∧
      record.modeledChargingConfirmed = true
  oneRequest : ∀ key other record another, docks.reservations.get? key = some record →
    docks.reservations.get? other = some another → record.vehicleId = another.vehicleId →
    record.state.terminal = false → another.state.terminal = false → key = other

/-- The invariant: safety with the attempts still to come. -/
structure Sound (docks : DockManager F) : Prop where
  safe : Safe docks
  configured : Configured docks
  lifecycle : ∀ key record, docks.reservations.get? key = some record → Lifecycle record

section Moves
variable {record updated : DockReservation F}

omit [PyFloat F] in
theorem Move.lifecycle (move : Move record updated) (lifecycle : Lifecycle record) :
    Lifecycle updated := by
  obtain ⟨attempts, remaining, landed, charged⟩ := lifecycle
  cases move with
  | @transition target allowed =>
    cases state : record.state <;> simp only [state, DockOperationState.allowed, List.mem_cons,
      List.not_mem_nil, or_false] at allowed
    all_goals have remaining := remaining (by simp [state])
    -- the only transition that spends an attempt starts where one is left
    case approachRequested =>
      subst allowed
      exact ⟨remaining, by simp, by simp, by simp⟩
    case retryPending =>
      rcases allowed with rfl | rfl
      · exact ⟨attempts, fun _ => remaining, by simp, by simp⟩
      · exact ⟨attempts, by simp, by simp, by simp⟩
    all_goals
      subst allowed
      exact ⟨attempts, fun _ => remaining, by simp, by simp⟩
  | land state => exact ⟨attempts, by simp, fun _ => rfl, by simp⟩
  | unconfirmed state =>
    unfold DockManager.unconfirmed
    refine ⟨attempts, fun open_ => ?_, ?_, ?_⟩
    · by_cases spent : record.maximumAttempts ≤ record.attempts
      · simp [spent] at open_
      · exact Nat.lt_of_not_le spent
    · by_cases spent : record.maximumAttempts ≤ record.attempts <;> simp [spent]
    · by_cases spent : record.maximumAttempts ≤ record.attempts <;> simp [spent]
  | charge state contact => exact ⟨attempts, by simp, by simp, fun _ => ⟨landed state, contact, rfl⟩⟩
  | progress state target =>
    have charged := charged (by rcases List.mem_pair.mp state with h | h <;> simp [h])
    rcases List.mem_pair.mp target with rfl | rfl <;>
      exact ⟨attempts, by simp, by simp, fun _ => charged⟩
  | unavailable unfinished =>
    unfold unavailableUpdate
    by_cases queued : record.state = .queued
    · exact ⟨attempts, fun _ => remaining (by simp [queued]), by simp [queued], by simp [queued]⟩
    · exact ⟨attempts, by simp [queued], by simp [queued], by simp [queued]⟩

omit [PyFloat F] in
/-- A move takes no capacity and reopens nothing. -/
theorem Move.releases (move : Move record updated) :
    (updated.state.occupiesCapacity = true → record.state.occupiesCapacity = true) ∧
      (updated.state.terminal = false → record.state.terminal = false) := by
  cases move with
  | transition allowed =>
    cases state : record.state <;> simp_all [DockOperationState.allowed,
      DockOperationState.occupiesCapacity, DockOperationState.terminal]
  | land state | unconfirmed state | charge state =>
    simp [state, DockOperationState.occupiesCapacity, DockOperationState.terminal]
  | progress state =>
    rcases List.mem_pair.mp state with state | state <;>
      simp [state, DockOperationState.occupiesCapacity, DockOperationState.terminal]
  | unavailable unfinished =>
    by_cases queued : record.state = .queued <;>
      simp_all [unavailableUpdate, DockOperationState.occupiesCapacity, DockOperationState.terminal]

end Moves

section Counting
variable {docks : DockManager F} {key : String} {stored : DockReservation F}

/-- Filing counts the new reservation in place of the one it replaces. -/
theorem occupancy_filed (docks : DockManager F) (key : String) (stored : DockReservation F)
    (dockId : String) : (docks.filed key stored).occupancy dockId +
      ((docks.reservations.get? key).any (occupies dockId)).toNat =
        docks.occupancy dockId + (occupies dockId stored).toNat :=
  docks.reservations.countP_insert key stored (occupies dockId)

theorem occupancy_filed_le (released : occupies stored.dockId stored = true →
      ∃ record, docks.reservations.get? key = some record ∧ occupies stored.dockId record = true)
    (dockId : String) : (docks.filed key stored).occupancy dockId ≤ docks.occupancy dockId := by
  have counted := docks.occupancy_filed key stored dockId
  cases taken : occupies dockId stored with
  | false =>
    rw [taken, Bool.toNat_false] at counted
    omega
  | true =>
    have mine : stored.dockId = dockId := by
      simp only [occupies, Bool.and_eq_true, decide_eq_true_eq] at taken
      exact taken.1
    obtain ⟨record, found, held⟩ := released (mine ▸ taken)
    rw [mine] at held
    rw [taken, found, Option.any_some, held] at counted
    omega

theorem occupancy_filed_free {definition : DockDefinition F}
    (known : docks.definitions.get? stored.dockId = some definition)
    (free : docks.occupancy stored.dockId < definition.capacity)
    (capacity : ∀ dockId definition, docks.definitions.get? dockId = some definition →
      docks.occupancy dockId ≤ definition.capacity) :
    ∀ dockId definition, (docks.filed key stored).definitions.get? dockId = some definition →
      (docks.filed key stored).occupancy dockId ≤ definition.capacity := by
  intro dockId other found
  have counted := docks.occupancy_filed key stored dockId
  have before := capacity dockId other found
  cases taken : occupies dockId stored with
  | false =>
    rw [taken, Bool.toNat_false] at counted
    omega
  | true =>
    have mine : stored.dockId = dockId := by
      simp only [occupies, Bool.and_eq_true, decide_eq_true_eq] at taken
      exact taken.1
    subst mine
    have same : other = definition := Option.some.inj (found.symm.trans known)
    rw [taken, Bool.toNat_true] at counted
    subst same
    omega

end Counting

section Filing
variable {docks : DockManager F} {key : String} {record stored : DockReservation F}

theorem Sound.filed (sound : Sound docks) (configured : Configured (docks.filed key stored))
    (capacity : ∀ dockId definition, docks.definitions.get? dockId = some definition →
      (docks.filed key stored).occupancy dockId ≤ definition.capacity)
    (lifecycle : Lifecycle stored)
    (alone : stored.state.terminal = false → ∀ other another,
      docks.reservations.get? other = some another → another.vehicleId = stored.vehicleId →
      another.state.terminal = false → other = key) : Sound (docks.filed key stored) := by
  have lookup : ∀ other another, (docks.filed key stored).reservations.get? other = some another →
      (other = key ∧ another = stored) ∨
        (other ≠ key ∧ docks.reservations.get? other = some another) := by
    intro other another found
    simp only [DockManager.filed, Dict.get?_insert] at found
    split at found
    · next same => cases found; exact .inl ⟨same.symm, rfl⟩
    · next apart => exact .inr ⟨Ne.symm apart, found⟩
  have living : ∀ other another, (docks.filed key stored).reservations.get? other = some another →
      Lifecycle another := by
    intro other another found
    rcases lookup other another found with ⟨_, rfl⟩ | ⟨_, found⟩
    · exact lifecycle
    · exact sound.lifecycle other another found
  refine ⟨⟨capacity, fun other another found => (living other another found).attempts,
    fun other another found => (living other another found).charged, ?_⟩, configured, living⟩
  intro one other left right foundLeft foundRight same openLeft openRight
  rcases lookup one left foundLeft with ⟨rfl, rfl⟩ | ⟨_, before⟩ <;>
    rcases lookup other right foundRight with ⟨rfl, rfl⟩ | ⟨_, elsewhere⟩
  · rfl
  · exact (alone openLeft other right elsewhere same.symm openRight).symm
  · exact alone openRight one left before same openLeft
  · exact sound.safe.oneRequest one other left right before elsewhere same openLeft openRight

end Filing

/-- Every change keeps the invariant. -/
theorem Change.sound {docks next : DockManager F} (change : Change docks next)
    (sound : Sound docks) : Sound next := by
  have configured := change.configured sound.configured
  cases change with
  | quiet =>
    exact ⟨⟨sound.safe.capacity, sound.safe.attempts, sound.safe.charging, sound.safe.oneRequest⟩,
      configured, sound.lifecycle⟩
  | @opened reservation events opened =>
    obtain ⟨definition, known, _, place⟩ := opened.capacity
    refine sound.filed configured ?_ ?_ ?_
    · rcases place with ⟨queued, _⟩ | ⟨_, free⟩
      · intro dockId other found
        refine (occupancy_filed_le (fun taken => ?_) dockId).trans (sound.safe.capacity _ _ found)
        simp [occupies, queued, DockOperationState.occupiesCapacity] at taken
      · exact occupancy_filed_free known free sound.safe.capacity
    · have bounded := opened.maximumAttempts
      have unspent := opened.attempts
      rcases place with ⟨state, _⟩ | ⟨state, _⟩ <;>
      · refine ⟨by dsimp only; omega, fun _ => by dsimp only; omega, ?_, ?_⟩ <;> simp [state]
    · intro _ other another found same unfinished
      exact absurd (opened.unheld other another found same) (by simp [unfinished])
  | @moved key record updated events found move =>
    obtain ⟨_, dock, vehicle, _⟩ := move.keeps
    obtain ⟨occupied, unfinished⟩ := move.releases
    have lifecycle := move.lifecycle (sound.lifecycle key record found)
    refine sound.filed configured ?_ ?_ ?_
    · intro dockId definition known
      refine (occupancy_filed_le (fun taken => ⟨record, found, ?_⟩) dockId).trans
        (sound.safe.capacity _ _ known)
      simp only [occupies, dock, decide_true, Bool.true_and] at taken ⊢
      exact occupied taken
    · exact ⟨lifecycle.attempts, lifecycle.remaining, lifecycle.landed, lifecycle.charged⟩
    · intro open_ other another elsewhere same running
      exact sound.safe.oneRequest other key another record elsewhere found (same.trans vehicle) running
        (unfinished open_)
  | @promoted key record definition events found queued known free =>
    have lifecycle := sound.lifecycle key record found
    refine sound.filed configured (occupancy_filed_free known free sound.safe.capacity) ?_ ?_
    · exact ⟨lifecycle.attempts, fun _ => lifecycle.remaining (by simp [queued]), by simp, by simp⟩
    · intro _ other another elsewhere same running
      exact sound.safe.oneRequest other key another record elsewhere found same running
        (by simp [queued, DockOperationState.terminal])

theorem Changes.sound {docks next : DockManager F} (changes : Changes docks next)
    (sound : Sound docks) : Sound next := by
  induction changes with
  | refl => exact sound
  | tail _ change ih => exact change.sound ih

theorem create_sound {definitions : List (DockDefinition F)} {ttl : F}
    {maximumAttempts queueLimit : Nat} {initial : DockManager F}
    (created : create definitions ttl maximumAttempts queueLimit = .ok initial) :
    Sound initial := by
  obtain ⟨configured, empty⟩ := create_eq_ok created
  refine ⟨⟨?_, ?_, ?_, ?_⟩, configured, ?_⟩ <;> simp [occupancy, empty]

theorem run_sound {docks : DockManager F} (sound : Sound docks) (calls : List (Call F)) :
    Sound (Runs.run step docks calls) :=
  Runs.invariant (fun _ call held => (step_changes held.configured call).sound held) sound

/-- Safety of every reachable state. -/
theorem docks_safe {definitions : List (DockDefinition F)} {ttl : F}
    {maximumAttempts queueLimit : Nat} {initial : DockManager F}
    (created : create definitions ttl maximumAttempts queueLimit = .ok initial)
    (calls : List (Call F)) : Safe (Runs.run step initial calls) :=
  (run_sound (create_sound created) calls).safe

/-- The dock of the shipped configuration, with the contract's default charge rate. -/
def dockMain : DockDefinition ℚ where
  dockId := "dock-main"
  capacity := 1
  supportedChargingCapability := "modeled-charge-v1"
  modeledChargeRatePercentPerMin := 10
  capacityPositive := by decide
  ratePositive := by decide +kernel

def reserveAt (vehicleId : String) (reading : ℚ) : Call ℚ :=
  ⟨.reserve vehicleId none (some 80) 90 none, fun _ => reading⟩

/-- Two vehicles at one dock of capacity one: the second is queued. -/
theorem docks_safe_queued :
    ∃ initial, create [dockMain] 120 2 8 = .ok initial ∧
      let docks := Runs.run step initial [reserveAt "cf01" 10, reserveAt "cf02" 11]
      docks.queueLength "dock-main" = 1 ∧ Safe docks := by
  obtain ⟨initial, created, queued⟩ := exists_of_okWith (x := create [dockMain] 120 2 8)
    (t := fun initial => (Runs.run step initial
      [reserveAt "cf01" 10, reserveAt "cf02" 11]).queueLength "dock-main" = 1) (by decide +kernel)
  exact ⟨initial, created, of_decide_eq_true queued, docks_safe created _⟩

end CrazySwarm.DockManager
