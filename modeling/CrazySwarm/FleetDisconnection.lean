import CrazySwarm.FleetPreparation

/-! What the disconnection of a fleet leaves. One vehicle's disconnection touches no other session, so
that what each would come to can be told beforehand; the loop stops at the first that raises. -/
namespace CrazySwarm
open PyFloat PyMath

variable {F : Type} [PyMath F]

namespace SafetySupervisor
open Coroutine

variable {clock : MonotonicClock F} {a b s : SafetySupervisor F} {vehicleId : String} {ref : Nat}

def stateOf (s : SafetySupervisor F) (vehicleId : String) : Option VehicleState :=
  (s.held vehicleId).map VehicleSession.state

structure Confined (vehicleId : String) (a b : SafetySupervisor F) : Prop where
  sessions : b.sessions = a.sessions
  vehicles : b.heap.map VehicleSession.vehicle = a.heap.map VehicleSession.vehicle
  others : ∀ ref, a.sessions.get? vehicleId ≠ some ref → b.heap[ref]? = a.heap[ref]?

theorem Confined.refl (s : SafetySupervisor F) : Confined vehicleId s s := ⟨rfl, rfl, fun _ _ => rfl⟩

theorem Confined.trans {d : SafetySupervisor F} (first : Confined vehicleId a b)
    (second : Confined vehicleId b d) : Confined vehicleId a d where
  sessions := second.sessions.trans first.sessions
  vehicles := second.vehicles.trans first.vehicles
  others ref other := by
    rw [second.others ref (by rwa [first.sessions]), first.others ref other]

/-- Fields beside the objects and the registry do not matter. -/
theorem Confined.of_same (sessions : b.sessions = a.sessions) (heap : b.heap = a.heap) :
    Confined vehicleId a b := ⟨sessions, by rw [heap], fun _ _ => by rw [heap]⟩

/-- The vehicle's own object may change. -/
theorem Confined.of_modify (registered : a.sessions.get? vehicleId = some ref)
    {change : VehicleSession F → VehicleSession F} (sessions : b.sessions = a.sessions)
    (heap : b.heap = a.heap.modify ref change)
    (same : ∀ session, (change session).vehicle = session.vehicle) : Confined vehicleId a b where
  sessions
  vehicles := by rw [heap]; exact map_modify_of_same _ _ same a.heap ref
  others other apart := by
    have distinct : ref ≠ other := by
      rintro rfl
      exact apart registered
    rw [heap, List.getElem?_modify_ne _ _ distinct]

theorem stateOf_of_modify {change : VehicleSession F → VehicleSession F}
    (sessions : b.sessions = a.sessions) (heap : b.heap = a.heap.modify ref change)
    (same : ∀ session, (change session).state = session.state) :
    b.stateOf vehicleId = a.stateOf vehicleId := by
  have states := map_modify_of_same VehicleSession.state change same a.heap ref
  unfold SafetySupervisor.stateOf held
  rw [sessions, heap]
  cases a.sessions.get? vehicleId with
  | none => rfl
  | some other => rw [Option.bind_some, Option.bind_some, ← List.getElem?_map, states, List.getElem?_map]

/-- Two vehicles never share an object. -/
theorem Confined.held (catalogued : Catalogued a) (confined : Confined vehicleId a b) {other : String}
    (apart : other ≠ vehicleId) : b.held other = a.held other := by
  unfold SafetySupervisor.held
  rw [confined.sessions]
  cases found : a.sessions.get? other with
  | none => rfl
  | some ref =>
    refine confined.others ref fun shared => ?_
    obtain ⟨session, object, identity⟩ := catalogued other ref found
    obtain ⟨session', object', identity'⟩ := catalogued vehicleId ref shared
    rw [object] at object'
    cases object'
    exact apart (identity.symm.trans identity')

/-- No session object comes to be. -/
theorem Confined.held_none (confined : Confined vehicleId a b) {other : String}
    (unheld : a.held other = none) : b.held other = none := by
  unfold SafetySupervisor.held at unheld ⊢
  rw [confined.sessions]
  cases registered : a.sessions.get? other with
  | none => rfl
  | some ref =>
    rw [registered, Option.bind_some, List.getElem?_eq_none_iff] at unheld
    have size : b.heap.length = a.heap.length := by
      simpa using congrArg List.length confined.vehicles
    rw [Option.bind_some, List.getElem?_eq_none_iff, size]
    exact unheld

theorem Confined.catalogued (catalogued : Catalogued a) (confined : Confined vehicleId a b) :
    Catalogued b := (Grows.of_same confined.sessions confined.vehicles).catalogued catalogued

section Steps

variable {φ : Type} {waits : φ → Awaited F → SafetySupervisor F → Prop}
  {ready : (on : Awaited F) → SafetySupervisor F → Reply on → SafetySupervisor F → φ → Prop}
  {first : φ}

theorem meets_event {make : Nat → F → SafetyEvent F}
    {post : φ → Except (Raised F) Unit → SafetySupervisor F → Prop}
    (ends : ∀ s', s'.sessions = s.sessions → s'.heap = s.heap → post first (.ok ()) s') :
    (event clock make).Meets waits ready post first s :=
  meets_bind.mpr (meets_bind.mpr (meets_get.mpr (meets_bind.mpr (meets_modify.mpr
    (meets_pure.mpr (meets_modify.mpr (ends _ rfl rfl)))))))

theorem transition_confined {target : VehicleState} {source : CommandSource} :
    (transition clock vehicleId target source).Meets waits ready
      (fun _ result t => Confined vehicleId s t ∧
        (result = .ok () → t.stateOf vehicleId = some target)) first s := by
  refine meets_bind.mpr (meets_session (fun ref registered => ?_) fun _ _ => ⟨.refl s, nofun⟩)
  refine meets_bind.mpr (meets_load (fun session object => ?_) fun _ _ => ⟨.refl s, nofun⟩)
  refine meets_bind.mpr (meets_failUnless (fun _ => ?_) fun _ => ⟨.refl s, nofun⟩)
  refine meets_bind.mpr (meets_modify.mpr (meets_event fun t sessions heap => ?_))
  refine ⟨.of_modify registered sessions heap fun _ => rfl, fun _ => ?_⟩
  rw [SafetySupervisor.stateOf, held, sessions, registered, Option.bind_some, heap]
  simp [object]

theorem receiveTelemetry_confined {telemetry : TelemetryEnvelope F}
    (own : telemetry.vehicleId = vehicleId) :
    (receiveTelemetry clock telemetry).Meets waits ready (fun _ _ t => Confined vehicleId s t)
      first s := by
  subst own
  refine meets_bind.mpr (meets_session (fun ref registered => ?_) fun _ _ => .refl s)
  refine meets_bind.mpr (meets_load (fun session object => ?_) fun _ _ => .refl s)
  refine meets_bind.mpr (meets_failUnless (fun _ => ?_) fun _ => .refl s)
  dsimp only
  split
  · refine meets_bind.mpr (meets_bind.mpr (meets_get.mpr ?_))
    refine meets_bind.mpr (meets_modify.mpr (meets_pure.mpr (meets_modify.mpr ?_)))
    exact .of_modify registered rfl rfl fun _ => rfl
  · exact .refl s

end Steps

/-- The waits of a call end in the states they begin in. -/
abbrev atOnce : (on : Awaited F) → SafetySupervisor F → Reply on → SafetySupervisor F → Unit → Prop :=
  fun _ s _ later _ => later = s

/-- The check of `disconnect` after a sample of the landing. -/
def checkLanded (ref : Nat) : Call F Unit := do
  let current ← load ref
  failUnless (!(current.state ∈ [.landing, .aborting])) .invalidState
    "landing and disarm completion must be observed before disconnect"

theorem checkLanded_confined {t : SafetySupervisor F} (confined : Confined vehicleId s t) :
    (checkLanded ref).Meets (fun _ _ _ => True) atOnce (fun _ _ d => Confined vehicleId s d) () t :=
  meets_bind.mpr (meets_load (fun _ _ => meets_failUnless (fun _ => confined) fun _ => confined)
    fun _ _ => confined)

theorem reconcileLanding_confined :
    (reconcileLanding clock vehicleId ref).Meets (fun _ _ _ => True) atOnce
      (fun _ _ t => Confined vehicleId s t) () s := by
  refine meets_bind.mpr ⟨trivial, ?_⟩
  rintro (raised | telemetry) later _ rfl
  · exact .refl later
  refine meets_bind.mpr (meets_failUnless (fun own => ?_) fun _ => .refl later)
  refine meets_bind.mpr ((receiveTelemetry_confined (beq_iff_eq.mp own)).mono ?_)
  rintro _ (raised | _) received confined
  · exact confined
  dsimp only
  split
  · refine meets_bind.mpr (transition_confined.mono ?_)
    rintro _ (raised | _) moved ⟨step, -⟩
    · exact confined.trans step
    · exact checkLanded_confined (confined.trans step)
  · exact checkLanded_confined confined

/-- What `disconnect` does once no landing is under way. -/
def closing (clock : MonotonicClock F) (vehicleId : String) (ref : Nat) : Call F Unit := do
  let current ← load ref
  failUnless (!isArmedOrFlying current) .invalidState "land and disarm before disconnect"
  awaitDisconnect vehicleId
  transition clock vehicleId .disconnected .supervisor
  let telemetry ← awaitSnapshot vehicleId
  let now ← monotonic clock
  store ref ({ · with
    telemetry := some telemetry
    telemetryReceivedAtMonotonicS := some now
    lease := none
    preflight := none })

theorem closing_confined {t : SafetySupervisor F} (registered : s.sessions.get? vehicleId = some ref)
    (confined : Confined vehicleId s t) :
    (closing clock vehicleId ref).Meets (fun _ _ _ => True) atOnce
      (fun _ result d => Confined vehicleId s d ∧
        (result = .ok () → d.stateOf vehicleId = some .disconnected)) () t := by
  refine meets_bind.mpr (meets_load (fun session object => ?_) fun _ _ => ⟨confined, nofun⟩)
  refine meets_bind.mpr (meets_failUnless (fun _ => ?_) fun _ => ⟨confined, nofun⟩)
  refine meets_bind.mpr ⟨trivial, ?_⟩
  rintro (raised | _) later _ rfl
  · exact ⟨confined, nofun⟩
  refine meets_bind.mpr (transition_confined.mono ?_)
  rintro _ (raised | _) moved ⟨step, reached⟩
  · exact ⟨confined.trans step, nofun⟩
  refine meets_bind.mpr ⟨trivial, ?_⟩
  rintro (raised | telemetry) later' _ rfl
  · exact ⟨confined.trans step, nofun⟩
  refine meets_bind.mpr (meets_bind.mpr (meets_get.mpr (meets_bind.mpr (meets_modify.mpr
    (meets_pure.mpr (meets_modify.mpr ?_))))))
  have still : later'.sessions.get? vehicleId = some ref := by
    rw [(confined.trans step).sessions, registered]
  refine ⟨(confined.trans step).trans (.of_modify still rfl rfl fun _ => rfl), fun _ => ?_⟩
  rw [← reached rfl]
  exact stateOf_of_modify rfl rfl fun _ => rfl

/-- A disconnection touches no other vehicle, and one that returns leaves its own disconnected. -/
theorem disconnect_confined :
    (disconnect clock vehicleId none).Meets (fun _ _ _ => True) atOnce
      (fun _ result t => Confined vehicleId s t ∧
        (result = .ok () → t.stateOf vehicleId = some .disconnected)) () s := by
  refine meets_bind.mpr (meets_session (fun ref registered => ?_) fun _ _ => ⟨.refl s, nofun⟩)
  refine meets_bind.mpr (meets_load (fun session object => ?_) fun _ _ => ⟨.refl s, nofun⟩)
  dsimp only
  split
  · refine meets_bind.mpr (reconcileLanding_confined.mono ?_)
    rintro _ (raised | _) landed confined
    · exact ⟨confined, nofun⟩
    · exact closing_confined registered confined
  · exact closing_confined registered (.refl s)

section Alone

/-- What a disconnection reads of a session. -/
def seen (session : VehicleSession F) : Vehicle × VehicleState × Option (TelemetryEnvelope F) :=
  (session.vehicle, session.state, session.telemetry)

structure Alike (vehicleId : String) (ref : Nat) (a b : SafetySupervisor F) : Prop where
  left : a.sessions.get? vehicleId = some ref
  right : b.sessions.get? vehicleId = some ref
  object : (a.heap[ref]?).map seen = (b.heap[ref]?).map seen

/-- Two runs agree on the session object they read. -/
abbrev SameSession (x y : VehicleSession F) : Prop := seen x = seen y

/-- Nothing is said of the values. -/
abbrev anyway (_ : α) (_ : β) : Prop := True

theorem Alike.of_same {a' b' : SafetySupervisor F} (alike : Alike vehicleId ref a b)
    (left : a'.sessions = a.sessions ∧ a'.heap = a.heap)
    (right : b'.sessions = b.sessions ∧ b'.heap = b.heap) : Alike vehicleId ref a' b' where
  left := by rw [left.1, alike.left]
  right := by rw [right.1, alike.right]
  object := by rw [left.2, right.2, alike.object]

theorem session_twins : Twins (Alike vehicleId ref) (fun x y => x = ref ∧ y = ref)
    (session vehicleId : Call F Nat) (session vehicleId) := by
  refine twins_get.bind fun a b alike => ?_
  rw [alike.left, alike.right]
  exact twins_returns ⟨rfl, rfl⟩

theorem load_twins :
    Twins (Alike vehicleId ref) SameSession (load ref : Call F _) (load ref) := by
  refine twins_get.bind fun a b alike => ?_
  have object := alike.object
  cases left : a.heap[ref]? with
  | none =>
    rw [left] at object
    rw [Option.map_eq_none_iff.mp object.symm]
    exact twins_raises
  | some session =>
    rw [left] at object
    obtain ⟨session', right, same⟩ := Option.map_eq_some_iff.mp object.symm
    rw [right]
    exact twins_returns same.symm

theorem failUnless_twins {rel : SafetySupervisor F → SafetySupervisor F → Prop}
    {condition condition' : Bool} {code : ErrorCode} {message message' : String}
    (same : condition = condition') (text : message = message') :
    Twins rel (fun _ _ => condition = true) (failUnless condition code message : Call F Unit)
      (failUnless condition' code message') := by
  subst same text
  cases condition
  · exact twins_raises
  · exact twins_returns rfl

theorem awaitSnapshot_twins {rel : SafetySupervisor F → SafetySupervisor F → Prop} :
    Twins rel Eq (awaitSnapshot vehicleId : Call F _) (awaitSnapshot vehicleId) :=
  twins_wait fun reply => twins_same reply

theorem awaitDisconnect_twins {rel : SafetySupervisor F → SafetySupervisor F → Prop} :
    Twins rel Eq (awaitDisconnect vehicleId : Call F Unit) (awaitDisconnect vehicleId) :=
  twins_wait fun reply => twins_same reply

theorem modify_twins {change change' : SafetySupervisor F → SafetySupervisor F}
    (left : ∀ s, (change s).sessions = s.sessions ∧ (change s).heap = s.heap)
    (right : ∀ s, (change' s).sessions = s.sessions ∧ (change' s).heap = s.heap) :
    Twins (Alike vehicleId ref) anyway (modify change : Call F Unit) (modify change') :=
  twins_modify trivial fun s t alike => alike.of_same (left s) (right t)

theorem monotonic_twins :
    Twins (Alike vehicleId ref) anyway (monotonic clock) (monotonic clock) :=
  twins_get.bind fun _ _ _ => by
    refine (modify_twins ?_ ?_).bind fun _ _ _ => twins_returns trivial
    all_goals exact fun _ => ⟨rfl, rfl⟩

theorem event_twins {make make' : Nat → F → SafetyEvent F} :
    Twins (Alike vehicleId ref) anyway (event clock make) (event clock make') :=
  monotonic_twins.bind fun _ _ _ => modify_twins (fun _ => ⟨rfl, rfl⟩) fun _ => ⟨rfl, rfl⟩

theorem store_twins {change change' : VehicleSession F → VehicleSession F}
    (same : ∀ x y, SameSession x y → SameSession (change x) (change' y)) :
    Twins (Alike vehicleId ref) anyway (store ref change) (store ref change') := by
  refine twins_modify trivial fun a b alike => ⟨alike.left, alike.right, ?_⟩
  have object := alike.object
  simp only [List.getElem?_modify_eq]
  cases left : a.heap[ref]? with
  | none =>
    rw [left] at object
    rw [Option.map_eq_none_iff.mp object.symm]
    rfl
  | some session =>
    rw [left] at object
    obtain ⟨session', right, alike⟩ := Option.map_eq_some_iff.mp object.symm
    rw [right]
    exact congrArg some (same session session' alike.symm)

theorem transition_twins {target : VehicleState} {source : CommandSource} :
    Twins (Alike vehicleId ref) anyway (transition clock vehicleId target source)
      (transition clock vehicleId target source) := by
  refine session_twins.bind ?_
  rintro _ _ ⟨rfl, rfl⟩
  refine load_twins.bind fun x y same => ?_
  have state : x.state = y.state := congrArg (fun read => read.2.1) same
  refine (failUnless_twins (by rw [state]) (by rw [state])).bind fun _ _ _ =>
    (store_twins fun x y same => ?_).bind fun _ _ _ => event_twins
  exact congrArg (fun read => (read.1, target, read.2.2)) same

theorem receiveTelemetry_twins {telemetry : TelemetryEnvelope F}
    (own : telemetry.vehicleId = vehicleId) :
    Twins (Alike vehicleId ref) anyway (receiveTelemetry clock telemetry)
      (receiveTelemetry clock telemetry) := by
  subst own
  refine session_twins.bind ?_
  rintro _ _ ⟨rfl, rfl⟩
  refine load_twins.bind fun x y same => ?_
  have vehicle : x.vehicle = y.vehicle := congrArg Prod.fst same
  have latest : x.telemetry = y.telemetry := congrArg (fun read => read.2.2) same
  refine (failUnless_twins (by rw [vehicle]) rfl).bind fun _ _ _ => twins_ite (by rw [latest]) ?_
    (twins_returns trivial)
  refine monotonic_twins.bind fun _ _ _ => store_twins fun x y same => ?_
  exact congrArg (fun read => (read.1, read.2.1, some telemetry)) same

theorem checkLanded_twins :
    Twins (Alike vehicleId ref) anyway (checkLanded ref : Call F Unit) (checkLanded ref) := by
  refine load_twins.bind fun x y same => ?_
  have state : x.state = y.state := congrArg (fun read => read.2.1) same
  exact (failUnless_twins (by rw [state]) rfl).mono fun _ _ _ => trivial

theorem reconcileLanding_twins :
    Twins (Alike vehicleId ref) anyway (reconcileLanding clock vehicleId ref)
      (reconcileLanding clock vehicleId ref) := by
  refine awaitSnapshot_twins.bind ?_
  rintro telemetry _ rfl
  refine (failUnless_twins rfl rfl).bind fun _ _ own => ?_
  refine (receiveTelemetry_twins (beq_iff_eq.mp own)).bind fun _ _ _ => ?_
  exact twins_ite Iff.rfl (transition_twins.bind fun _ _ _ => checkLanded_twins) checkLanded_twins

theorem disconnect_twins :
    Twins (Alike vehicleId ref) anyway (disconnect clock vehicleId none)
      (disconnect clock vehicleId none) := by
  have closed : Twins (Alike vehicleId ref) anyway (closing clock vehicleId ref)
      (closing clock vehicleId ref) := by
    refine load_twins.bind fun x y same => ?_
    have latest : x.telemetry = y.telemetry := congrArg (fun read => read.2.2) same
    refine (failUnless_twins (by rw [isArmedOrFlying, isArmedOrFlying, latest]) rfl).bind
      fun _ _ _ => ?_
    refine awaitDisconnect_twins.bind fun _ _ _ => transition_twins.bind fun _ _ _ =>
      awaitSnapshot_twins.bind ?_
    rintro telemetry _ rfl
    refine monotonic_twins.bind fun _ _ _ => store_twins fun x y same => ?_
    exact congrArg (fun read => (read.1, read.2.1, some telemetry)) same
  refine session_twins.bind ?_
  rintro _ _ ⟨rfl, rfl⟩
  refine load_twins.bind fun x y same => ?_
  have state : x.state = y.state := congrArg (fun read => read.2.1) same
  exact twins_ite (by rw [state]) (reconcileLanding_twins.bind fun _ _ _ => closed) closed

end Alone

end SafetySupervisor

end CrazySwarm
