import CrazySwarm.SupervisorLanding

/-! Control leases. A release and an expiry clear the lease after they have waited for the
landing, and a command that waited for the active one to end is sent without asking again, so
a lease is exclusive exactly as long as its holder does not change under such a wait. -/
namespace CrazySwarm
open PyFloat PyMath

variable {F : Type} [PyMath F]

/-- The vehicle that a wait is about. -/
def Awaited.vehicleId : Awaited F → String
  | .connect vehicleId | .disconnect vehicleId | .snapshot vehicleId | .settled vehicleId
  | .interrupted vehicleId => vehicleId
  | .execute envelope => envelope.vehicleId

/-- The waits for the active command to end. -/
def Awaited.interrupting : Awaited F → Bool
  | .settled _ | .interrupted _ => true
  | _ => false

namespace SafetySupervisor
open Coroutine EventLoop

def leaseOf (s : SafetySupervisor F) (vehicleId : String) : Option (ControlLease F) :=
  (s.held vehicleId).bind VehicleSession.lease

/-- The owner whose lease is recorded for the vehicle. -/
def holder (s : SafetySupervisor F) (vehicleId : String) : Option String :=
  (s.leaseOf vehicleId).map ControlLease.ownerId

/-- The vehicle that a call commands or takes the lease of, and in whose name. An expiry acts
in the name of the owners it finds. -/
def caller : Operation F → Option (String × String)
  | .claimControl vehicleId ownerId _ | .renewControl vehicleId ownerId _
  | .releaseControl vehicleId ownerId _ | .arm vehicleId ownerId .. | .disarm vehicleId ownerId _
  | .takeoff vehicleId ownerId .. | .hover vehicleId ownerId .. | .moveRelative vehicleId ownerId ..
  | .executeTrajectory vehicleId ownerId .. | .replaceTrajectory vehicleId ownerId ..
  | .stopAndHold vehicleId ownerId _ | .land vehicleId ownerId ..
  | .abortAndLand vehicleId ownerId .. | .emergencyStop vehicleId ownerId ..
  | .enforceHealth vehicleId ownerId .. | .refreshAndEnforceHealth vehicleId ownerId .. =>
    some (vehicleId, ownerId)
  | _ => none

/-- The calls that clear a lease in the end. -/
def takes : Operation F → Bool
  | .releaseControl .. | .expireControlLeases _ => true
  | _ => false

/-- The one command that asks for the owner again after it has waited. -/
def replaces : Operation F → Bool
  | .replaceTrajectory .. => true
  | _ => false

/-- The calls that may interleave here; a disconnection clears the lease whoever holds it. -/
def leasing : Operation F → Bool
  | .disconnect .. | .unregisterVehicle _ => false
  | _ => true

/-- What an expiry can have taken for the present time. -/
def instants (clock : MonotonicClock F) (nowS : Option F) (s : SafetySupervisor F) : List F :=
  match nowS with
  | some now => [now]
  | none => (List.range (s.ticks + 1)).map clock.read

/-- The holder of the vehicle's lease, if the lease has expired. -/
def lapsed (clock : MonotonicClock F) (nowS : Option F) (s : SafetySupervisor F)
    (vehicleId : String) : Option String :=
  (s.leaseOf vehicleId).bind fun lease =>
    if (instants clock nowS s).any (!lt · lease.expiresAtMonotonicS) then some lease.ownerId
    else none

/-- The expired leases that the turn of an expiry finds, by task, vehicle and owner. -/
def finds (clock : MonotonicClock F) (loop : Loop F) (turn : Turn F) :
    List (Nat × String × String) :=
  match moved (program clock) loop turn with
  | some (.expireControlLeases nowS, _) => loop.state.sessions.keys.filterMap fun vehicleId =>
    (lapsed clock nowS loop.state vehicleId).map fun ownerId => (loop.index turn, vehicleId, ownerId)
  | _ => []

structure Expiring (F : Type) [PyMath F] where
  loop : Loop F
  found : List (Nat × String × String)

def stepExpiring (clock : MonotonicClock F) (expiring : Expiring F) (turn : Turn F) : Expiring F :=
  ⟨step clock expiring.loop turn, expiring.found ++ finds clock expiring.loop turn⟩

/-- No other owner appears while a call waits that will clear the lease, nor does the holder
change while one waits that will send its command. -/
def Undisturbed (label : Operation F) (on : Awaited F) (since later : SafetySupervisor F) : Prop :=
  (on.interrupting = true → replaces label = false →
    later.holder on.vehicleId = since.holder on.vehicleId) ∧
  (takes label = true → later.holder on.vehicleId = since.holder on.vehicleId ∨
    later.holder on.vehicleId = none)

def Calm (expiring : Expiring F) : Turn F → Prop
  | .call label => leasing label = true
  | .resume task _ =>
    match expiring.loop.tasks[task]? with
    | some ⟨label, since, .wait on _⟩ => Undisturbed label on since expiring.loop.state
    | _ => True

instance (label : Operation F) (on : Awaited F) (since later : SafetySupervisor F) :
    Decidable (Undisturbed label on since later) :=
  inferInstanceAs (Decidable ((_ → _ → _) ∧ (_ → _)))

instance (expiring : Expiring F) : (turn : Turn F) → Decidable (Calm expiring turn)
  | .call label => inferInstanceAs (Decidable (leasing label = true))
  | .resume task _ =>
    match found : expiring.loop.tasks[task]? with
    | some ⟨label, since, .wait on _⟩ =>
      decidable_of_iff (Undisturbed label on since expiring.loop.state) (by simp only [Calm, found])
    | some ⟨_, _, .done _⟩ => .isTrue (by simp only [Calm, found])
    | some ⟨_, _, .act ..⟩ => .isTrue (by simp only [Calm, found])
    | none => .isTrue (by simp only [Calm, found])

/-- The call may end the owner's lease: it is the owner's release, an expiry that has found the
lease expired, or a claim by another owner that finds it so. -/
def Ends (clock : MonotonicClock F) (expiring : Expiring F) (turn : Turn F)
    (label : Operation F) (vehicleId ownerId : String) : Prop :=
  match label with
  | .releaseControl vehicleId' ownerId' _ => vehicleId' = vehicleId ∧ ownerId' = ownerId
  | .expireControlLeases _ => (expiring.loop.index turn, vehicleId, ownerId) ∈
      (stepExpiring clock expiring turn).found
  | .claimControl vehicleId' _ nowS => vehicleId' = vehicleId ∧
      lapsed clock nowS expiring.loop.state vehicleId = some ownerId
  | _ => False

def CommandsFor (clock : MonotonicClock F) (expiring : Expiring F) (turn : Turn F)
    (label : Operation F) (vehicleId ownerId : String) : Prop :=
  match label with
  | .expireControlLeases _ => (expiring.loop.index turn, vehicleId, ownerId) ∈
      (stepExpiring clock expiring turn).found
  | _ => caller label = some (vehicleId, ownerId)

structure LeaseExclusive (clock : MonotonicClock F) (expiring : Expiring F) (turn : Turn F) :
    Prop where
  removed : ∀ label before after rest vehicleId ownerId,
    moved (program clock) expiring.loop turn = some (label, before, after, rest) →
    before.holder vehicleId = some ownerId → after.holder vehicleId = some ownerId ∨
      Ends clock expiring turn label vehicleId ownerId
  granted : ∀ label before after rest vehicleId ownerId,
    moved (program clock) expiring.loop turn = some (label, before, after, rest) →
    after.holder vehicleId = some ownerId → before.holder vehicleId = some ownerId ∨
      ∃ nowS, label = .claimControl vehicleId ownerId nowS
  sent : ∀ label before after rest,
    moved (program clock) expiring.loop turn = some (label, before, after, rest) →
    ∃ new, after.sent = before.sent ++ new ∧ ∀ envelope ∈ new, ∃ ownerId,
      before.holder envelope.vehicleId = some ownerId ∧
        CommandsFor clock expiring turn label envelope.vehicleId ownerId

variable {clock : MonotonicClock F} {label : Operation F} {a b d s s' : SafetySupervisor F}
  {first : Begun F} {ref : Nat} {vehicleId ownerId : String} {origin : CommandOrigin}
  {allowExpired : Bool}

theorem leaseOf_eq (s : SafetySupervisor F) (vehicleId : String) :
    s.leaseOf vehicleId = (s.sessions.get? vehicleId).bind fun ref =>
      ((s.heap.map VehicleSession.lease)[ref]?).bind id := by
  unfold leaseOf held
  cases s.sessions.get? vehicleId with
  | none => rfl
  | some ref =>
    simp only [Option.bind_some, List.getElem?_map]
    cases s.heap[ref]? <;> rfl

theorem holder_eq (s : SafetySupervisor F) (vehicleId : String) :
    s.holder vehicleId = (s.sessions.get? vehicleId).bind fun ref =>
      ((s.heap.map VehicleSession.profile)[ref]?).bind Prod.snd := by
  unfold holder leaseOf held
  cases s.sessions.get? vehicleId with
  | none => rfl
  | some ref =>
    simp only [Option.bind_some, List.getElem?_map]
    cases s.heap[ref]? <;> rfl

theorem holder_of_object {session : VehicleSession F} (registered : s.sessions.get? vehicleId = some ref)
    (object : s.heap[ref]? = some session) :
    s.holder vehicleId = session.lease.map ControlLease.ownerId := by
  simp [holder, leaseOf, held, registered, object]

theorem holder_of_lapsed {nowS : Option F} (expired : lapsed clock nowS s vehicleId = some ownerId) :
    s.holder vehicleId = some ownerId := by
  obtain ⟨lease, found, owner⟩ := Option.bind_eq_some_iff.mp expired
  split at owner
  · cases owner
    rw [holder, found]
    rfl
  · cases owner

section Frames

/-- No lease changes its holder, nothing is sent, and the registry stays. -/
structure Unleased (a b : SafetySupervisor F) : Prop where
  sessions : b.sessions = a.sessions
  profiles : b.heap.map VehicleSession.profile = a.heap.map VehicleSession.profile
  sent : b.sent = a.sent
  ticks : a.ticks ≤ b.ticks

/-- No other object's lease is even extended. -/
structure Tends (ref : Nat) (a b : SafetySupervisor F) : Prop extends Unleased a b where
  aside : ∀ other, other ≠ ref →
    (b.heap.map VehicleSession.lease)[other]? = (a.heap.map VehicleSession.lease)[other]?

theorem Unleased.holder (unleased : Unleased a b) (vehicleId : String) :
    b.holder vehicleId = a.holder vehicleId := by
  rw [holder_eq, holder_eq, unleased.sessions, unleased.profiles]

theorem Quiet.unleased (quiet : Quiet a b) : Unleased a b :=
  ⟨quiet.sessions, quiet.profiles, quiet.sent, quiet.ticks⟩

theorem Unleased.catalogued (unleased : Unleased a b) (catalogued : Catalogued a) : Catalogued b := by
  refine (Grows.of_same unleased.sessions ?_).catalogued catalogued
  have first := congrArg (List.map Prod.fst) unleased.profiles
  simpa only [List.map_map, Function.comp_def, VehicleSession.profile] using first

variable {may : Awaited F → Prop}

theorem get_tends : (Coroutine.get : Call F _).Everywhere (Tends ref) may :=
  everywhere_get fun _ => ⟨⟨rfl, rfl, rfl, le_rfl⟩, fun _ _ => rfl⟩

theorem modify_tends {change : SafetySupervisor F → SafetySupervisor F}
    (same : ∀ s, (change s).sessions = s.sessions ∧ (change s).heap = s.heap ∧
      (change s).sent = s.sent ∧ s.ticks ≤ (change s).ticks) :
    (modify change : Call F Unit).Everywhere (Tends ref) may := by
  refine everywhere_modify.mpr fun s => ?_
  obtain ⟨sessions, heap, sent, ticks⟩ := same s
  exact ⟨⟨sessions, by rw [heap], sent, ticks⟩, fun _ _ => by rw [heap]⟩

theorem store_tends {other : Nat} {change : VehicleSession F → VehicleSession F}
    (same : ∀ session, (change session).vehicle = session.vehicle ∧
      (change session).lease = session.lease) :
    (store other change).Everywhere (Tends ref) may := by
  refine everywhere_modify.mpr fun s => ⟨⟨rfl, ?_, rfl, le_rfl⟩, fun _ _ => ?_⟩
  · exact map_modify_of_same _ _ (fun session => by
      rw [VehicleSession.profile, (same session).1, (same session).2]; rfl) s.heap other
  · change (List.map _ (s.heap.modify other change))[_]? = _
    rw [map_modify_of_same _ _ (fun session => (same session).2) s.heap other]

theorem monotonic_tends : (monotonic clock : Call F F).Everywhere (Tends ref) may := by
  refine get_tends.bind fun _ => .bind (modify_tends fun s => ?_) fun _ => trivial
  exact ⟨rfl, rfl, rfl, Nat.le_succ _⟩

theorem nextCommandSequence_tends :
    (nextCommandSequence : Call F Nat).Everywhere (Tends ref) may := by
  refine get_tends.bind fun _ => .bind (modify_tends fun s => ?_) fun _ => trivial
  exact ⟨rfl, rfl, rfl, le_rfl⟩

theorem event_tends {make : Nat → F → SafetyEvent F} :
    (event clock make).Everywhere (Tends ref) may :=
  monotonic_tends.bind fun _ => modify_tends fun _ => ⟨rfl, rfl, rfl, le_rfl⟩

theorem session_tends : (session vehicleId : Call F Nat).Everywhere (Tends ref) may := by
  apply get_tends.bind
  intro s
  split <;> trivial

theorem load_tends {other : Nat} : (load other : Call F _).Everywhere (Tends ref) may := by
  apply get_tends.bind
  intro s
  split <;> trivial

theorem transition_tends {target : VehicleState} {source : CommandSource} :
    (transition clock vehicleId target source).Everywhere (Tends ref) may := by
  refine session_tends.bind fun _ => load_tends.bind fun _ => failUnless_everywhere.bind fun _ =>
    .bind ?_ fun _ => event_tends
  exact store_tends fun _ => ⟨rfl, rfl⟩

theorem extendLease_tends {byS : F} : (extendLease clock ref byS).Everywhere (Tends ref) may := by
  refine load_tends.bind fun current => everywhere_ite ?_ trivial
  refine monotonic_tends.bind fun _ => everywhere_modify.mpr fun s =>
    ⟨⟨rfl, map_modify_of_same _ _ ?_ s.heap ref, rfl, le_rfl⟩, fun other apart => ?_⟩
  · intro session
    simp only [VehicleSession.profile, Option.map_map, Function.comp_def]
  · simp only [List.getElem?_map, List.getElem?_modify_ne _ _ apart.symm]

theorem receiveTelemetry_tends {telemetry : TelemetryEnvelope F} :
    (receiveTelemetry clock telemetry).Everywhere (Tends ref) may := by
  refine session_tends.bind fun _ => load_tends.bind fun current =>
    failUnless_everywhere.bind fun _ => everywhere_ite ?_ trivial
  exact monotonic_tends.bind fun _ => store_tends fun _ => ⟨rfl, rfl⟩

end Frames

section Contract

/-- The segment of an expiry has waited for the vehicle, or finds its lease expired. -/
def Pursued (clock : MonotonicClock F) (nowS : Option F) (first : Begun F) (vehicleId : String) :
    Prop :=
  (∃ on reply, first.resumed = some ⟨on, reply⟩ ∧ on.vehicleId = vehicleId) ∨
    (lapsed clock nowS first.state vehicleId).isSome = true

def ActsFor (clock : MonotonicClock F) (label : Operation F) (first : Begun F)
    (vehicleId ownerId : String) : Prop :=
  caller label = some (vehicleId, ownerId) ∨
    ∃ nowS, label = .expireControlLeases nowS ∧ Pursued clock nowS first vehicleId

/-- The segment may end the owner's lease. -/
def Removes (clock : MonotonicClock F) (label : Operation F) (first : Begun F)
    (vehicleId ownerId : String) : Prop :=
  match label with
  | .releaseControl vehicleId' ownerId' _ => vehicleId' = vehicleId ∧ ownerId' = ownerId
  | .expireControlLeases nowS => Pursued clock nowS first vehicleId
  | .claimControl vehicleId' _ nowS => vehicleId' = vehicleId ∧
      lapsed clock nowS first.state vehicleId = some ownerId
  | _ => False

/-- What a segment has done to the leases since it began. -/
structure Exclusive (clock : MonotonicClock F) (label : Operation F) (first : Begun F)
    (s : SafetySupervisor F) : Prop where
  catalogued : Catalogued s
  persists : ∀ vehicleId ref, first.state.sessions.get? vehicleId = some ref →
    s.sessions.get? vehicleId = some ref
  ticks : first.state.ticks ≤ s.ticks
  removed : ∀ vehicleId ownerId, first.state.holder vehicleId = some ownerId →
    s.holder vehicleId = some ownerId ∨ Removes clock label first vehicleId ownerId
  granted : ∀ vehicleId ownerId, s.holder vehicleId = some ownerId →
    first.state.holder vehicleId = some ownerId ∨
      ∃ nowS, label = .claimControl vehicleId ownerId nowS
  sent : ∃ new, s.sent = first.state.sent ++ new ∧ ∀ envelope ∈ new, ∃ ownerId,
    first.state.holder envelope.vehicleId = some ownerId ∧
      ActsFor clock label first envelope.vehicleId ownerId
  touched : ∀ nowS, label = .expireControlLeases nowS → ∀ vehicleId,
    s.leaseOf vehicleId = first.state.leaseOf vehicleId ∨ Pursued clock nowS first vehicleId

/-- What lasts while no vehicle is unregistered. -/
structure Persists (a b : SafetySupervisor F) : Prop where
  catalogued : Catalogued a → Catalogued b
  sessions : ∀ vehicleId ref, a.sessions.get? vehicleId = some ref →
    b.sessions.get? vehicleId = some ref
  ticks : a.ticks ≤ b.ticks

theorem Persists.refl (s : SafetySupervisor F) : Persists s s := ⟨id, fun _ _ => id, le_rfl⟩

theorem Persists.trans (before : Persists a b) (after : Persists b d) : Persists a d :=
  ⟨after.catalogued ∘ before.catalogued,
    fun vehicleId ref found => after.sessions vehicleId ref (before.sessions vehicleId ref found),
    before.ticks.trans after.ticks⟩

theorem Exclusive.start (catalogued : Catalogued first.state) :
    Exclusive clock label first first.state :=
  ⟨catalogued, fun _ _ => id, le_rfl, fun _ _ => .inl, fun _ _ => .inl,
    ⟨[], (List.append_nil _).symm, fun _ member => absurd member List.not_mem_nil⟩,
    fun _ _ _ => .inl rfl⟩

theorem Exclusive.persistent (exclusive : Exclusive clock label first s) : Persists first.state s :=
  ⟨fun _ => exclusive.catalogued, exclusive.persists, exclusive.ticks⟩

theorem Unleased.persists (unleased : Unleased a b) : Persists a b :=
  ⟨unleased.catalogued, fun _ _ found => unleased.sessions ▸ found, unleased.ticks⟩

theorem Exclusive.extend (exclusive : Exclusive clock label first s) (persists : Persists s s')
    (holders : ∀ vehicleId, s'.holder vehicleId = s.holder vehicleId) (sent : s'.sent = s.sent)
    (touched : ∀ nowS, label = .expireControlLeases nowS → ∀ vehicleId,
      s'.leaseOf vehicleId = s.leaseOf vehicleId ∨ Pursued clock nowS first vehicleId) :
    Exclusive clock label first s' := by
  have whole := exclusive.persistent.trans persists
  refine ⟨persists.catalogued exclusive.catalogued, whole.sessions, whole.ticks, ?_, ?_, ?_, ?_⟩
  · simp only [holders]
    exact exclusive.removed
  · simp only [holders]
    exact exclusive.granted
  · rw [sent]
    exact exclusive.sent
  · intro nowS expires vehicleId
    rcases touched nowS expires vehicleId with same | pursued
    · rw [same]
      exact exclusive.touched nowS expires vehicleId
    · exact .inr pursued

/-- A call that acts on a vehicle may extend the lease of its own object. -/
theorem Exclusive.tend (exclusive : Exclusive clock label first s) (tends : Tends ref s s')
    (registered : s.sessions.get? vehicleId = some ref)
    (acts : ActsFor clock label first vehicleId ownerId) : Exclusive clock label first s' := by
  refine exclusive.extend tends.persists tends.holder tends.sent fun nowS expires other => ?_
  by_cases same : other = vehicleId
  · right
    rcases acts with called | ⟨nowS', expires', pursued⟩
    · subst expires
      cases called
    · cases expires.symm.trans expires'
      exact same ▸ pursued
  · left
    rw [leaseOf_eq, leaseOf_eq, tends.sessions]
    cases found : s.sessions.get? other with
    | none => rfl
    | some ref' =>
      -- two vehicles never share an object
      have apart : ref' ≠ ref := by
        rintro rfl
        obtain ⟨session, object, identity⟩ := exclusive.catalogued other ref' found
        obtain ⟨session', object', identity'⟩ := exclusive.catalogued vehicleId ref' registered
        rw [object] at object'
        cases object'
        exact same (identity.symm.trans identity')
      simp only [Option.bind_some, tends.aside ref' apart]

def recorded (s : SafetySupervisor F) (ref : Nat) (lease : Option (ControlLease F)) :
    SafetySupervisor F :=
  { s with heap := s.heap.modify ref ({ · with lease }) }

theorem leaseOf_recorded (catalogued : Catalogued s)
    (registered : s.sessions.get? vehicleId = some ref) (lease : Option (ControlLease F))
    (other : String) :
    (s.recorded ref lease).leaseOf other =
      if other = vehicleId then lease else s.leaseOf other := by
  rw [leaseOf_eq, leaseOf_eq, recorded]
  obtain ⟨session, object, identity⟩ := catalogued vehicleId ref registered
  split
  · next same =>
    subst same
    simp [registered, object]
  · next different =>
    cases found : s.sessions.get? other with
    | none => rfl
    | some ref' =>
      have apart : ref ≠ ref' := by
        rintro rfl
        obtain ⟨session', object', identity'⟩ := catalogued other ref found
        rw [object] at object'
        cases object'
        exact different (identity'.symm.trans identity)
      simp [List.getElem?_modify_ne _ _ apart]

theorem recorded_catalogued (catalogued : Catalogued s) (lease : Option (ControlLease F)) :
    Catalogued (s.recorded ref lease) := by
  have vehicles : (s.recorded ref lease).heap.map VehicleSession.vehicle =
      s.heap.map VehicleSession.vehicle := by
    refine map_modify_of_same _ _ ?_ s.heap ref
    exact fun _ => rfl
  have grows : Grows s (s.recorded ref lease) := .of_same rfl vehicles
  exact grows.catalogued catalogued

theorem Exclusive.record (exclusive : Exclusive clock label first s)
    (registered : s.sessions.get? vehicleId = some ref) (lease : Option (ControlLease F))
    (removing : ∀ ownerId, first.state.holder vehicleId = some ownerId →
      lease.map ControlLease.ownerId = some ownerId ∨ Removes clock label first vehicleId ownerId)
    (granting : ∀ ownerId, lease.map ControlLease.ownerId = some ownerId →
      first.state.holder vehicleId = some ownerId ∨
        ∃ nowS, label = .claimControl vehicleId ownerId nowS)
    (touching : ∀ nowS, label = .expireControlLeases nowS → Pursued clock nowS first vehicleId) :
    Exclusive clock label first (s.recorded ref lease) := by
  have leases := leaseOf_recorded exclusive.catalogued registered lease
  refine ⟨recorded_catalogued exclusive.catalogued lease, exclusive.persists, exclusive.ticks,
    fun other ownerId held => ?_, fun other ownerId held => ?_, exclusive.sent,
    fun nowS expires other => ?_⟩
  · rw [holder, leases]
    split
    · next same => exact same ▸ removing ownerId (same ▸ held)
    · exact exclusive.removed other ownerId held
  · rw [holder, leases] at held
    split at held
    · next same => exact same ▸ granting ownerId held
    · exact exclusive.granted other ownerId held
  · rw [leases]
    split
    · next same => exact .inr (same ▸ touching nowS expires)
    · exact exclusive.touched nowS expires other

end Contract

section Rules

/-- What a resumed segment begins with and may rely on. -/
def resumes (label : Operation F) (on : Awaited F) (since : SafetySupervisor F) (reply : Reply on)
    (later : SafetySupervisor F) (first : Begun F) : Prop :=
  first = ⟨some ⟨on, reply⟩, later⟩ ∧ Persists since later ∧ Undisturbed label on since later

/-- An expiry waits only for a vehicle whose lease it has found expired. -/
def pursues (clock : MonotonicClock F) (label : Operation F) (first : Begun F) (on : Awaited F) :
    Prop :=
  ∀ nowS, label = .expireControlLeases nowS → Pursued clock nowS first on.vehicleId

/-- The call keeps the leases exclusive, and what holds of its result and of its failure. -/
def Leads (clock : MonotonicClock F) (label : Operation F) (P : Begun F → SafetySupervisor F → Prop)
    (c : Call F α) (Q : α → Begun F → SafetySupervisor F → Prop)
    (E : Begun F → SafetySupervisor F → Prop) : Prop :=
  c.Keeps (Exclusive clock label) (pursues clock label) (resumes label) P fun first result s =>
    match result with
    | .ok value => Q value first s
    | .error _ => E first s

/-- A point in a call that acts on the object of its vehicle. -/
structure Entering (clock : MonotonicClock F) (label : Operation F) (vehicleId ownerId : String)
    (ref : Nat) (first : Begun F) (s : SafetySupervisor F) : Prop where
  registered : s.sessions.get? vehicleId = some ref
  acts : ActsFor clock label first vehicleId ownerId

/-- Nobody else holds a lease that the call will clear. -/
structure Acting (clock : MonotonicClock F) (label : Operation F) (vehicleId ownerId : String)
    (ref : Nat) (first : Begun F) (s : SafetySupervisor F) : Prop
    extends Entering clock label vehicleId ownerId ref first s where
  left : takes label = true → s.holder vehicleId = some ownerId ∨ s.holder vehicleId = none

structure Holding (clock : MonotonicClock F) (label : Operation F) (vehicleId ownerId : String)
    (ref : Nat) (first : Begun F) (s : SafetySupervisor F) : Prop
    extends Entering clock label vehicleId ownerId ref first s where
  holds : s.holder vehicleId = some ownerId
  began : first.state.holder vehicleId = some ownerId

def nothing : Begun F → SafetySupervisor F → Prop := fun _ _ => True

variable {P P' E E' : Begun F → SafetySupervisor F → Prop}

theorem Holding.acting (holding : Holding clock label vehicleId ownerId ref first s) :
    Acting clock label vehicleId ownerId ref first s :=
  ⟨holding.toEntering, fun _ => .inl holding.holds⟩

theorem Entering.pursues (entering : Entering clock label vehicleId ownerId ref first s) :
    ∀ nowS, label = .expireControlLeases nowS → Pursued clock nowS first vehicleId := by
  intro nowS expires
  rcases entering.acts with called | ⟨nowS', expires', pursued⟩
  · subst expires
    cases called
  · cases expires.symm.trans expires'
    exact pursued

/-- A call still acts on its vehicle when a wait for the vehicle has ended. -/
theorem Entering.resume {on : Awaited F} {reply : Reply on} {later : SafetySupervisor F}
    (entering : Entering clock label on.vehicleId ownerId ref first s) (persists : Persists s later) :
    Entering clock label on.vehicleId ownerId ref ⟨some ⟨on, reply⟩, later⟩ later := by
  refine ⟨persists.sessions _ _ entering.registered, ?_⟩
  rcases entering.acts with called | ⟨nowS, expires, -⟩
  · exact .inl called
  · exact .inr ⟨nowS, expires, .inl ⟨on, reply, rfl, rfl⟩⟩

theorem Acting.resume {on : Awaited F} {reply : Reply on} {later : SafetySupervisor F}
    (acting : Acting clock label on.vehicleId ownerId ref first s) (persists : Persists s later)
    (undisturbed : Undisturbed label on s later) :
    Acting clock label on.vehicleId ownerId ref ⟨some ⟨on, reply⟩, later⟩ later := by
  refine ⟨acting.toEntering.resume persists, fun taking => ?_⟩
  rcases undisturbed.2 taking with same | gone
  · rw [same]
    exact acting.left taking
  · exact .inr gone

theorem Holding.resume {on : Awaited F} {reply : Reply on} {later : SafetySupervisor F}
    (holding : Holding clock label on.vehicleId ownerId ref first s) (persists : Persists s later)
    (undisturbed : Undisturbed label on s later) (interrupting : on.interrupting = true)
    (again : replaces label = false) :
    Holding clock label on.vehicleId ownerId ref ⟨some ⟨on, reply⟩, later⟩ later :=
  have same := undisturbed.1 interrupting again
  ⟨holding.toEntering.resume persists, same.trans holding.holds, same.trans holding.holds⟩

theorem Entering.stay (entering : Entering clock label vehicleId ownerId ref first s)
    (sessions : s'.sessions = s.sessions) :
    Entering clock label vehicleId ownerId ref first s' :=
  ⟨sessions ▸ entering.registered, entering.acts⟩

theorem Acting.tend (acting : Acting clock label vehicleId ownerId ref first s)
    (tends : Tends ref s s') : Acting clock label vehicleId ownerId ref first s' :=
  ⟨acting.toEntering.stay tends.sessions, by rw [tends.holder]; exact acting.left⟩

theorem Holding.tend (holding : Holding clock label vehicleId ownerId ref first s)
    (tends : Tends ref s s') : Holding clock label vehicleId ownerId ref first s' :=
  ⟨holding.toEntering.stay tends.sessions, (tends.holder _).trans holding.holds, holding.began⟩

theorem Leads.bind {c : Call F α} {f : α → Call F β} {M : α → Begun F → SafetySupervisor F → Prop}
    {Q : β → Begun F → SafetySupervisor F → Prop} (front : Leads clock label P c M E)
    (rest : ∀ value, Leads clock label (M value) (f value) Q E) :
    Leads clock label P (c >>= f) Q E :=
  Keeps.bind front (fun _ _ _ => id) rest

theorem Leads.handle {c : Call F α} {f : Except (Raised F) α → Call F β}
    {M : α → Begun F → SafetySupervisor F → Prop} {Q : β → Begun F → SafetySupervisor F → Prop}
    (front : Leads clock label P c M E')
    (succeeds : ∀ value, Leads clock label (M value) (f (.ok value)) Q E)
    (fails : ∀ raised, Leads clock label E' (f (.error raised)) Q E) :
    Leads clock label P (c.handle f) Q E := by
  apply Keeps.handle front
  rintro (raised | value)
  · exact fails raised
  · exact succeeds value

theorem Leads.rescue {c : Call F α} {f : Raised F → Call F α}
    {Q : α → Begun F → SafetySupervisor F → Prop} (front : Leads clock label P c Q E')
    (rest : ∀ raised, Leads clock label E' (f raised) Q E) :
    Leads clock label P (c.rescue f) Q E :=
  Keeps.rescue front (fun _ _ _ => id) rest

theorem Leads.weaken {c : Call F α} {Q Q' : α → Begun F → SafetySupervisor F → Prop}
    (leads : Leads clock label P c Q E) (pre : ∀ first s, P' first s → P first s)
    (post : ∀ value first s, Q value first s → Q' value first s)
    (fails : ∀ first s, E first s → E' first s) : Leads clock label P' c Q' E' := by
  refine Keeps.consequence leads pre ?_
  rintro first (raised | value) s ended
  · exact fails first s ended
  · exact post value first s ended

theorem Leads.done {value : α} {Q : α → Begun F → SafetySupervisor F → Prop}
    (holds : ∀ first s, P first s → Q value first s) :
    Leads clock label P (returns value) Q E :=
  Keeps.done holds

theorem Leads.raises {raised : Raised F} {Q : α → Begun F → SafetySupervisor F → Prop}
    (holds : ∀ first s, P first s → E first s) : Leads clock label P (raises raised) Q E :=
  Keeps.done holds

/-- A check leaves everything as it is. -/
theorem Leads.ofResult {result : Except (Raised F) α} :
    Leads clock label P (ofResult result) (fun value first s => result = .ok value ∧ P first s) P := by
  apply Keeps.done
  intro first s holds
  cases result with
  | error raised => exact holds
  | ok value => exact ⟨rfl, holds⟩

theorem Leads.check {result : Except (Raised F) α} :
    Leads clock label P (Coroutine.ofResult result) (fun _ => P) P :=
  Leads.ofResult.weaken (fun _ _ => id) (fun _ _ _ => And.right) fun _ _ => id

/-- A fact that does not depend on the state. -/
theorem Leads.fact {fact : Prop} {c : Call F α} {Q : α → Begun F → SafetySupervisor F → Prop}
    (leads : fact → Leads clock label P c Q E) :
    Leads clock label (fun first s => fact ∧ P first s) c Q E :=
  fun first s kept holds => leads holds.1 first s kept holds.2

theorem Leads.ite {condition : Prop} [Decidable condition] {yes no : Call F α}
    {Q : α → Begun F → SafetySupervisor F → Prop} (left : Leads clock label P yes Q E)
    (right : Leads clock label P no Q E) :
    Leads clock label P (if condition then yes else no) Q E := by
  split
  · exact left
  · exact right

theorem Leads.forEach {items : List α} {body : α → Call F Unit}
    (every : ∀ item ∈ items, Leads clock label P (body item) (fun _ => P) E) :
    Leads clock label P (forEach items body) (fun _ => P) E := by
  induction items with
  | nil => exact .done fun _ _ => id
  | cons item rest ih =>
    exact (every item List.mem_cons_self).bind fun _ =>
      ih fun item later => every item (List.mem_cons_of_mem _ later)

theorem leads_get : Leads clock label P (Coroutine.get : Call F _)
    (fun found first s => found = s ∧ P first s) P :=
  fun _ _ kept holds => ⟨kept, rfl, holds⟩

/-- The registered object of a vehicle. -/
theorem leads_session : Leads clock label P (session vehicleId)
    (fun ref first s => s.sessions.get? vehicleId = some ref ∧ P first s) P := by
  apply leads_get.bind
  intro found
  split
  · next ref registered =>
    apply Leads.done
    rintro first s ⟨rfl, holds⟩
    exact ⟨registered, holds⟩
  · exact .raises fun _ _ => And.right

theorem leads_load : Leads clock label P (load ref)
    (fun session first s => s.heap[ref]? = some session ∧ P first s) P := by
  apply leads_get.bind
  intro found
  split
  · next session object =>
    apply Leads.done
    rintro first s ⟨rfl, holds⟩
    exact ⟨object, holds⟩
  · exact .raises fun _ _ => And.right

theorem load_identity (registered : ∀ first s, P first s → s.sessions.get? vehicleId = some ref) :
    Leads clock label P (load ref)
      (fun session first s => session.vehicle.identity.vehicleId = vehicleId ∧ P first s) P := by
  intro first s kept holds
  refine ((leads_load first s kept holds).mono ?_)
  rintro first (raised | session) s ⟨exclusive, ended⟩
  · exact ⟨exclusive, ended⟩
  · refine ⟨exclusive, ?_, ended.2⟩
    obtain ⟨session', object, identity⟩ :=
      exclusive.catalogued vehicleId ref (registered first s ended.2)
    rw [ended.1] at object
    cases object
    exact identity

/-- Helpers that wait for the vehicle of the call, whoever holds its lease. -/
theorem leads_acting {c : Call F α}
    (tends : c.Everywhere (Tends ref) fun on => on.vehicleId = vehicleId) :
    Leads clock label (Acting clock label vehicleId ownerId ref) c
      (fun _ => Acting clock label vehicleId ownerId ref)
      (Acting clock label vehicleId ownerId ref) := by
  have keeps : c.Keeps (Exclusive clock label) (pursues clock label) (resumes label)
      (Acting clock label vehicleId ownerId ref)
      fun first _ => Acting clock label vehicleId ownerId ref first := by
    refine tends.keeps ?_ ?_ ?_
    · intro first s s' exclusive acting small
      exact ⟨exclusive.tend small acting.registered acting.acts, acting.tend small⟩
    · intro first on s waits acting
      subst waits
      exact acting.pursues
    · rintro first on s reply later _ waits ⟨rfl, persists, undisturbed⟩ exclusive acting
      subst waits
      exact ⟨.start (persists.catalogued exclusive.catalogued), acting.resume persists undisturbed⟩
  refine Keeps.consequence keeps (fun _ _ => id) ?_
  rintro first (raised | value) s acting
  · exact acting
  · exact acting

/-- Helpers that wait, if at all, for the active command to end, while the owner holds the
lease. -/
theorem leads_holding {c : Call F α} (tends : c.Everywhere (Tends ref) fun on =>
      on.vehicleId = vehicleId ∧ on.interrupting = true ∧ replaces label = false) :
    Leads clock label (Holding clock label vehicleId ownerId ref) c
      (fun _ => Holding clock label vehicleId ownerId ref)
      (Holding clock label vehicleId ownerId ref) := by
  have keeps : c.Keeps (Exclusive clock label) (pursues clock label) (resumes label)
      (Holding clock label vehicleId ownerId ref)
      fun first _ => Holding clock label vehicleId ownerId ref first := by
    refine tends.keeps ?_ ?_ ?_
    · intro first s s' exclusive holding small
      exact ⟨exclusive.tend small holding.registered holding.acts, holding.tend small⟩
    · intro first on s waits holding
      obtain ⟨rfl, -⟩ := waits
      exact holding.pursues
    · rintro first on s reply later _ waits ⟨rfl, persists, undisturbed⟩ exclusive holding
      obtain ⟨rfl, interrupting, again⟩ := waits
      exact ⟨.start (persists.catalogued exclusive.catalogued),
        holding.resume persists undisturbed interrupting again⟩
  refine Keeps.consequence keeps (fun _ _ => id) ?_
  rintro first (raised | value) s holding
  · exact holding
  · exact holding

theorem leads_unleased {c : Call F α} (expires : ∀ nowS, label ≠ .expireControlLeases nowS)
    (every : c.Everywhere Unleased anything) :
    Leads clock label P c (fun _ => nothing) nothing := by
  have keeps : c.Keeps (Exclusive clock label) (pursues clock label) (resumes label)
      (fun _ _ => True) fun _ _ _ => True := by
    refine every.keeps ?_ ?_ ?_
    · intro first s s' exclusive _ small
      exact ⟨exclusive.extend small.persists small.holder small.sent
        fun nowS same => absurd same (expires nowS), trivial⟩
    · exact fun _ _ _ _ _ nowS same => absurd same (expires nowS)
    · rintro first on s reply later _ _ ⟨rfl, persists, -⟩ exclusive _
      exact ⟨.start (persists.catalogued exclusive.catalogued), trivial⟩
  refine Keeps.consequence keeps (fun _ _ _ => trivial) ?_
  rintro first (raised | value) s _
  · trivial
  · trivial

theorem leads_quiet {c : Call F α} (expires : ∀ nowS, label ≠ .expireControlLeases nowS)
    (quiet : c.Everywhere Quiet anything) :
    Leads clock label P c (fun _ => nothing) nothing :=
  leads_unleased expires (quiet.mono (fun _ _ => Quiet.unleased) fun _ => id)

/-- The owner check establishes who holds the lease. -/
theorem requireOwner_leads {session : VehicleSession F} {now : F}
    (claims : ∀ nowS, label ≠ .claimControl vehicleId ownerId nowS)
    (enters : ∀ first s, P first s → Entering clock label vehicleId ownerId ref first s) :
    Leads clock label (fun first s => s.heap[ref]? = some session ∧ P first s)
      (Coroutine.ofResult (requireOwner session ownerId now allowExpired))
      (fun _ first s => Holding clock label vehicleId ownerId ref first s ∧ P first s) P := by
  intro first s exclusive holds
  obtain ⟨object, holds⟩ := holds
  refine ⟨exclusive, ?_⟩
  cases checked : requireOwner session ownerId now allowExpired with
  | error raised => exact holds
  | ok value =>
    have entering := enters first s holds
    have held : s.holder vehicleId = some ownerId := by
      rw [holder_of_object entering.registered object]
      unfold requireOwner at checked
      split at checked
      · cases checked
      · next lease found =>
        rw [found]
        by_cases same : lease.ownerId = ownerId
        · rw [Option.map_some, same]
        · rw [beq_false_of_ne same] at checked
          cases checked
    refine ⟨⟨entering, held, ?_⟩, holds⟩
    rcases exclusive.granted vehicleId ownerId held with began | ⟨nowS, same⟩
    · exact began
    · exact absurd same (claims nowS)

end Rules

section Commands

variable {P : Begun F → SafetySupervisor F → Prop}

/-- Helpers that do not wait. -/
theorem leads_tends {c : Call F α} (tends : c.Everywhere (Tends ref) fun _ => False)
    (enters : ∀ first s, P first s → Entering clock label vehicleId ownerId ref first s)
    (stays : ∀ first s s', P first s → Tends ref s s' → P first s') :
    Leads clock label P c (fun _ => P) P := by
  have keeps : c.Keeps (Exclusive clock label) (pursues clock label) (resumes label) P
      fun first _ => P first := by
    refine tends.keeps ?_ (fun _ _ _ waits => waits.elim) (fun _ _ _ _ _ _ waits => waits.elim)
    intro first s s' exclusive holds small
    have entering := enters first s holds
    exact ⟨exclusive.tend small entering.registered entering.acts, stays first s s' holds small⟩
  refine Keeps.consequence keeps (fun _ _ => id) ?_
  rintro first (raised | value) s holds
  · exact holds
  · exact holds

theorem requireOwnerNow_leads (claims : ∀ nowS, label ≠ .claimControl vehicleId ownerId nowS)
    (enters : ∀ first s, P first s → Entering clock label vehicleId ownerId ref first s)
    (stays : ∀ first s s', P first s → Tends ref s s' → P first s') :
    Leads clock label P (requireOwnerNow clock ref ownerId allowExpired)
      (fun _ => Holding clock label vehicleId ownerId ref) P := by
  refine (leads_tends monotonic_tends enters stays).bind fun now => leads_load.bind fun session => ?_
  exact (requireOwner_leads claims enters).weaken (fun _ _ => id) (fun _ _ _ => And.left)
    fun _ _ => id

theorem interruption_tends {current : VehicleSession F} {error : Raised F} :
    (match current.activeExecuteTask with
      | some ⟨_, false⟩ => do
        store ref ({ · with commandInterruptionError := some error })
        suppress (fun raised => raised matches .cancelled || raised.isCrazySwarmError)
          (awaitInterrupted vehicleId)
        awaitSettled vehicleId
      | _ => return () : Call F Unit).Everywhere (Tends ref)
        fun on => on.vehicleId = vehicleId ∧ on.interrupting = true := by
  split
  · refine .bind (store_tends fun _ => ?_) fun _ => .bind (suppress_everywhere ?_) fun _ => ?_
    · exact ⟨rfl, rfl⟩
    · exact ⟨⟨rfl, rfl⟩, fun _ => trivial⟩
    · exact ⟨⟨rfl, rfl⟩, fun _ => trivial⟩
  · trivial

theorem interruptActiveCommand_holding {error : Raised F} (again : replaces label = false) :
    Leads clock label (Holding clock label vehicleId ownerId ref) (interruptActiveCommand ref error)
      (fun _ => Holding clock label vehicleId ownerId ref)
      (Holding clock label vehicleId ownerId ref) := by
  refine (load_identity fun _ _ holding => holding.registered).bind fun current =>
    .fact fun identity => leads_holding ?_
  rw [identity]
  exact interruption_tends.mono (fun _ _ => id) fun on waits => ⟨waits.1, waits.2, again⟩

theorem interruptActiveCommand_acting {error : Raised F} :
    Leads clock label (Acting clock label vehicleId ownerId ref) (interruptActiveCommand ref error)
      (fun _ => Acting clock label vehicleId ownerId ref)
      (Acting clock label vehicleId ownerId ref) := by
  refine (load_identity fun _ _ acting => acting.registered).bind fun current =>
    .fact fun identity => leads_acting ?_
  rw [identity]
  exact interruption_tends.mono (fun _ _ => id) fun on => And.left

theorem runCommand_tends {envelope : CommandEnvelope F} :
    (runCommand ref envelope).Everywhere (Tends ref)
      fun on => on.vehicleId = envelope.vehicleId := by
  have cleared : (store ref fun session : VehicleSession F =>
      if session.activeExecuteTask.any (·.commandId == envelope.commandId) then
        { session with activeExecuteTask := none, activeCommandPayload := none }
      else session).Everywhere (Tends ref) fun on => on.vehicleId = envelope.vehicleId := by
    refine store_tends fun session => ?_
    split <;> exact ⟨rfl, rfl⟩
  refine .bind (store_tends fun _ => ?_) fun _ => .handle ⟨rfl, fun _ => trivial⟩ fun result =>
    load_tends.bind fun current => everywhere_ite ?_ ?_
  · exact ⟨rfl, rfl⟩
  · refine .bind (store_tends fun _ => ?_) fun _ => cleared.bind fun _ => trivial
    exact ⟨rfl, rfl⟩
  · exact cleared.bind fun _ => trivial

theorem refresh_acting : Leads clock label (Acting clock label vehicleId ownerId ref)
    (refresh clock ref) (fun _ => Acting clock label vehicleId ownerId ref)
    (Acting clock label vehicleId ownerId ref) := by
  refine (load_identity fun _ _ acting => acting.registered).bind fun current =>
    .fact fun identity => leads_acting ?_
  refine .bind ⟨identity, fun _ => trivial⟩ fun telemetry =>
    receiveTelemetry_tends.bind fun _ => trivial

theorem reconcileTerminalAdapterState_acting :
    Leads clock label (Acting clock label vehicleId ownerId ref)
      (reconcileTerminalAdapterState clock ref)
      (fun _ => Acting clock label vehicleId ownerId ref)
      (Acting clock label vehicleId ownerId ref) := by
  refine (load_identity fun _ _ acting => acting.registered).bind fun current =>
    .fact fun identity => leads_acting ?_
  refine .handle ⟨identity, fun _ => trivial⟩ ?_
  rintro (raised | telemetry)
  · exact everywhere_ite trivial trivial
  · apply everywhere_ite
    · trivial
    · refine receiveTelemetry_tends.bind fun _ => load_tends.bind fun _ => ?_
      dsimp only
      split
      · exact everywhere_ite transition_tends trivial
      · trivial

/-- A command of the holder is sent, and afterwards nobody else holds a lease the call clears. -/
theorem send_leads {payload : CommandPayload F} :
    Leads clock label (Holding clock label vehicleId ownerId ref) (send clock ref payload origin)
      (fun _ => Acting clock label vehicleId ownerId ref)
      (Acting clock label vehicleId ownerId ref) := by
  have waitless {β : Type} {c : Call F β} (tends : c.Everywhere (Tends ref) fun _ => False) :
      Leads clock label (Holding clock label vehicleId ownerId ref) c
        (fun _ => Holding clock label vehicleId ownerId ref)
        (Acting clock label vehicleId ownerId ref) :=
    (leads_tends (P := Holding clock label vehicleId ownerId ref) tends
      (fun _ _ holding => holding.toEntering) fun _ _ _ => Holding.tend).weaken
      (fun _ _ => id) (fun _ _ _ => id) fun _ _ => Holding.acting
  have identified : Leads clock label (Holding clock label vehicleId ownerId ref) (load ref)
      (fun session first s => session.vehicle.identity.vehicleId = vehicleId ∧
        Holding clock label vehicleId ownerId ref first s)
      (Acting clock label vehicleId ownerId ref) :=
    (load_identity fun _ _ holding => holding.registered).weaken (fun _ _ => id)
      (fun _ _ _ => id) fun _ _ => Holding.acting
  refine Leads.bind (waitless everywhere_ofResult) fun _ => (waitless nextCommandSequence_tends).bind
    fun sequence => identified.bind fun current => .fact fun identity =>
      (waitless monotonic_tends).bind fun issuedAt => (waitless get_tends).bind fun now =>
        (waitless everywhere_ofResult).bind fun _ => .bind (M := fun _ => Acting clock label vehicleId ownerId ref)
          ?_ fun _ => (leads_acting event_tends).bind fun _ =>
            (leads_acting extendLease_tends).bind fun _ => .bind (.rescue (leads_acting ?_) ?_)
              fun _ => (leads_acting failUnless_everywhere).bind fun _ => (leads_acting extendLease_tends).bind
                fun _ => (leads_acting event_tends).bind fun _ => .done fun _ _ => id
  · intro first s exclusive holding
    refine ⟨?_, Holding.acting ⟨holding.toEntering.stay rfl, holding.holds, holding.began⟩⟩
    obtain ⟨new, sent, held⟩ := exclusive.sent
    refine ⟨exclusive.catalogued, exclusive.persists, exclusive.ticks, exclusive.removed,
      exclusive.granted, ⟨new ++ [envelopeFor current.vehicle.identity.vehicleId
        ("cmd-" ++ toString sequence) origin issuedAt now.mode payload], ?_, ?_⟩, exclusive.touched⟩
    · rw [← List.append_assoc, ← sent]
    · intro envelope member
      rcases List.mem_append.mp member with old | last
      · exact held envelope old
      · obtain rfl := List.mem_singleton.mp last
        refine ⟨ownerId, ?_, ?_⟩
        · exact (congrArg _ identity).trans holding.began
        · simpa only [envelopeFor, identity] using holding.acts
  · exact runCommand_tends.mono (fun _ _ => id) fun on waits => waits.trans identity
  · intro raised
    refine .ite ?_ (.ite ?_ (.raises fun _ _ => id))
    · exact reconcileTerminalAdapterState_acting.bind fun _ => .raises fun _ _ => id
    · exact (leads_acting event_tends).bind fun _ => .raises fun _ _ => id

theorem session_acting : Leads clock label (Acting clock label vehicleId ownerId ref)
    (session vehicleId) (fun found first s => found = ref ∧
      Acting clock label vehicleId ownerId ref first s)
    (Acting clock label vehicleId ownerId ref) := by
  refine leads_session.weaken (fun _ _ => id) (fun found first s ended => ⟨?_, ended.2⟩)
    fun _ _ => id
  exact Option.some.inj (ended.1.symm.trans ended.2.registered)

theorem requireOwnerNow_acting (claims : ∀ nowS, label ≠ .claimControl vehicleId ownerId nowS) :
    Leads clock label (Acting clock label vehicleId ownerId ref)
      (requireOwnerNow clock ref ownerId allowExpired)
      (fun _ => Holding clock label vehicleId ownerId ref)
      (Acting clock label vehicleId ownerId ref) :=
  requireOwnerNow_leads claims (fun _ _ acting => acting.toEntering) fun _ _ _ => Acting.tend

theorem interruptActiveCommand_leads {error : Raised F} (again : replaces label = false) :
    Leads clock label (Holding clock label vehicleId ownerId ref) (interruptActiveCommand ref error)
      (fun _ => Holding clock label vehicleId ownerId ref)
      (Acting clock label vehicleId ownerId ref) :=
  (interruptActiveCommand_holding again).weaken (fun _ _ => id) (fun _ _ _ => id)
    fun _ _ => Holding.acting

/-- A part without waits, while the owner holds the lease. -/
theorem leads_waitless {c : Call F α} (tends : c.Everywhere (Tends ref) fun _ => False) :
    Leads clock label (Holding clock label vehicleId ownerId ref) c
      (fun _ => Holding clock label vehicleId ownerId ref)
      (Acting clock label vehicleId ownerId ref) :=
  (leads_tends (P := Holding clock label vehicleId ownerId ref) tends
    (fun _ _ holding => holding.toEntering) fun _ _ _ => Holding.tend).weaken
    (fun _ _ => id) (fun _ _ _ => id) fun _ _ => Holding.acting

theorem emergencyStop_acting {reason : String}
    (claims : ∀ nowS, label ≠ .claimControl vehicleId ownerId nowS)
    (again : replaces label = false) :
    Leads clock label (Acting clock label vehicleId ownerId ref)
      (emergencyStop clock vehicleId ownerId reason allowExpired origin)
      (fun _ => Acting clock label vehicleId ownerId ref)
      (Acting clock label vehicleId ownerId ref) := by
  refine session_acting.bind fun found => .fact ?_
  rintro rfl
  exact (requireOwnerNow_acting claims).bind fun _ => (interruptActiveCommand_leads again).bind
    fun _ => (leads_waitless transition_tends).bind fun _ => send_leads.bind fun _ =>
      (leads_acting event_tends).bind fun _ => refresh_acting.bind fun _ => .done fun _ _ => id

theorem suppress_leads {kinds : Raised F → Bool} {body : Call F Unit}
    (leads : Leads clock label P body (fun _ => P) P) :
    Leads clock label P (suppress kinds body) (fun _ => P) P :=
  leads.rescue fun _ => .ite (.done fun _ _ => id) (.raises fun _ _ => id)

theorem refreshAfterAbort_acting
    (claims : ∀ nowS, label ≠ .claimControl vehicleId ownerId nowS)
    (again : replaces label = false) :
    Leads clock label (Acting clock label vehicleId ownerId ref)
      (refreshAfterAbort clock vehicleId ownerId ref)
      (fun _ => Acting clock label vehicleId ownerId ref)
      (Acting clock label vehicleId ownerId ref) := by
  refine refresh_acting.handle (fun _ => .done fun _ _ => id) fun raised => ?_
  refine .ite (.bind (suppress_leads ?_) fun _ => .raises fun _ _ => id) (.raises fun _ _ => id)
  exact (emergencyStop_acting claims again).bind fun _ => .done fun _ _ => id

theorem abortAndLand_acting {reason : String}
    (claims : ∀ nowS, label ≠ .claimControl vehicleId ownerId nowS)
    (again : replaces label = false) :
    Leads clock label (Acting clock label vehicleId ownerId ref)
      (abortAndLand clock vehicleId ownerId reason allowExpired origin)
      (fun _ => Acting clock label vehicleId ownerId ref)
      (Acting clock label vehicleId ownerId ref) := by
  refine session_acting.bind fun found => .fact ?_
  rintro rfl
  exact (requireOwnerNow_acting claims).bind fun _ => (leads_waitless load_tends).bind fun current =>
    (leads_waitless failUnless_everywhere).bind fun _ => (interruptActiveCommand_leads again).bind
      fun _ => (leads_waitless transition_tends).bind fun _ => send_leads.bind fun _ =>
        (leads_acting transition_tends).bind fun _ => (refreshAfterAbort_acting claims again).bind
          fun _ => (leads_acting transition_tends).bind fun _ => .done fun _ _ => id

structure Commands (label : Operation F) (vehicleId ownerId : String) : Prop where
  called : caller label = some (vehicleId, ownerId)
  takes : takes label = false
  claims : ∀ nowS, label ≠ .claimControl vehicleId ownerId nowS

theorem Commands.expires (commands : Commands label vehicleId ownerId) :
    ∀ nowS, label ≠ .expireControlLeases nowS := by
  rintro nowS rfl
  cases commands.takes

theorem Leads.loosely {c : Call F α} {Q : α → Begun F → SafetySupervisor F → Prop}
    {E : Begun F → SafetySupervisor F → Prop} (leads : Leads clock label P c Q E) :
    Leads clock label P c Q nothing :=
  leads.weaken (fun _ _ => id) (fun _ _ _ => id) fun _ _ _ => trivial

theorem Leads.last {c : Call F α} {Q : α → Begun F → SafetySupervisor F → Prop}
    {E : Begun F → SafetySupervisor F → Prop} (leads : Leads clock label P c Q E) :
    Leads clock label P c (fun _ => nothing) nothing :=
  leads.weaken (fun _ _ => id) (fun _ _ _ _ => trivial) fun _ _ _ => trivial

theorem session_commands (commands : Commands label vehicleId ownerId) :
    Leads clock label P (session vehicleId)
      (fun ref => Acting clock label vehicleId ownerId ref) nothing := by
  refine leads_session.weaken (fun _ _ => id) (fun ref first s ended => ?_) fun _ _ _ => trivial
  refine ⟨⟨ended.1, .inl commands.called⟩, fun taking => ?_⟩
  rw [commands.takes] at taking
  cases taking

theorem leads_registered {c : Call F α} (commands : Commands label vehicleId ownerId)
    (unregistered : ∀ s, s.sessions.get? vehicleId = none → ∃ raised,
      c.segment s = (s, Coroutine.raises raised))
    (acting : ∀ ref, Leads clock label (Acting clock label vehicleId ownerId ref) c
      (fun _ => Acting clock label vehicleId ownerId ref)
      (Acting clock label vehicleId ownerId ref)) :
    Leads clock label P c (fun _ => nothing) nothing := by
  intro first s exclusive _
  cases found : s.sessions.get? vehicleId with
  | none =>
    obtain ⟨raised, ended⟩ := unregistered s found
    rw [← meets_segment, ended]
    exact ⟨exclusive, trivial⟩
  | some ref =>
    refine (acting ref).last first s exclusive ⟨⟨found, .inl commands.called⟩, fun taking => ?_⟩
    rw [commands.takes] at taking
    cases taking

end Commands

end SafetySupervisor

end CrazySwarm
