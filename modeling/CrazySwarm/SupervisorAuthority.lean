import CrazySwarm.SupervisorSteps

/-! Real-mode authority. Both checks consult the authorization stored for the vehicle, which
no mode change removes, so authority stays fresh exactly as long as every entry into a real
mode finds nobody else's authorization. -/
namespace CrazySwarm
open PyFloat PyMath

variable {F : Type} [PyMath F]

namespace SafetySupervisor
open Coroutine

/-- The authority that either check sees in a vehicle: the preflight's `COMMAND_AUTHORITY` or
`_require_real_authority`. -/
def Accepts (s : SafetySupervisor F) (session : VehicleSession F) : Prop :=
  commandAuthority session.vehicle.backendProfile.authority s.mode
    (s.liveAuthorizations.get? session.vehicle.identity.vehicleId).isSome = true ∨
  ∃ ref, s.heap[ref]? = some session ∧
    ((requireRealAuthority ref : Call F Unit).segment s).2.succeeded = true

/-- The authorizations that `set_mode` was given since the present mode was entered. -/
def supplied (clock : MonotonicClock F) (loop : Loop F) (turn : Turn F)
    (entry : List LiveModeAuthorization) : List LiveModeAuthorization :=
  match turn with
  | .call (.setMode mode authorization) =>
    if ((setMode clock mode authorization).segment loop.state).2.succeeded then
      (if mode = loop.state.mode then entry else []) ++ authorization.toList
    else entry
  | _ => entry

/-- A supervisor beside the authorizations of its present entry. -/
structure Entered (F : Type) [PyMath F] where
  loop : Loop F
  entry : List LiveModeAuthorization

def stepEntered (clock : MonotonicClock F) (entered : Entered F) (turn : Turn F) : Entered F :=
  ⟨step clock entered.loop turn, supplied clock entered.loop turn entered.entry⟩

/-- A physical vehicle has authority only through a confirmed authorization that names it and
was supplied for the present entry into the present mode. -/
def Fresh (entry : List LiveModeAuthorization) (s : SafetySupervisor F) : Prop :=
  ∀ session : VehicleSession F, session.vehicle.backendProfile.authority = .physical →
    s.Accepts session → s.mode.real = true ∧ ∃ given ∈ entry,
      given.confirmed = true ∧ given.mode = s.mode ∧
        given.vehicleId = session.vehicle.identity.vehicleId

def EntersAlone (loop : Loop F) : Turn F → Prop
  | .call (.setMode mode (some given)) => mode.real = true → mode ≠ loop.state.mode →
      ∀ vehicleId, (loop.state.liveAuthorizations.get? vehicleId).isSome = true →
        vehicleId = given.vehicleId
  | _ => True

def isSetMode : Turn F → Bool
  | .call (.setMode ..) => true
  | _ => false

structure Shrinks (a b : SafetySupervisor F) : Prop where
  mode : b.mode = a.mode
  liveAuthorizations : ∀ vehicleId given, b.liveAuthorizations.get? vehicleId = some given →
    a.liveAuthorizations.get? vehicleId = some given

def Supplied (entry : List LiveModeAuthorization) (s : SafetySupervisor F) : Prop :=
  s.mode.real = true → ∀ vehicleId given, s.liveAuthorizations.get? vehicleId = some given →
    given ∈ entry ∧ given.confirmed = true ∧ given.mode = s.mode ∧ given.vehicleId = vehicleId

variable {clock : MonotonicClock F} {s a b d : SafetySupervisor F} {session : VehicleSession F}
  {entry : List LiveModeAuthorization} {mode : OperatingMode}
  {authorization : Option LiveModeAuthorization}

/-- Both checks of a physical vehicle come to the same. -/
theorem accepts_physical (physical : session.vehicle.backendProfile.authority = .physical) :
    s.Accepts session ↔ s.mode.real = true ∧
      (s.liveAuthorizations.get? session.vehicle.identity.vehicleId).isSome = true := by
  constructor
  · rintro (passed | ⟨ref, object, passed⟩)
    · simpa [commandAuthority, physical] using passed
    · have loaded : (load ref : Call F _).segment s = (s, returns session) := by
        rw [load, segment_bind_of_returns (segment_get s), object]
        rfl
      rw [requireRealAuthority, segment_bind_of_returns loaded,
        segment_bind_of_returns (segment_get s)] at passed
      simp only [physical] at passed
      cases real : s.mode.real with
      | false =>
        have refused : (failUnless false .modeNotAuthorized
            "real vehicle requires LIVE or SHADOW mode" : Call F Unit).segment s =
            (s, raises (.error .modeNotAuthorized "real vehicle requires LIVE or SHADOW mode")) := rfl
        rw [real, segment_bind_of_raises refused] at passed
        cases passed
      | true =>
        have allowed : (failUnless true .modeNotAuthorized
            "real vehicle requires LIVE or SHADOW mode" : Call F Unit).segment s =
            (s, returns ()) := rfl
        rw [real, segment_bind_of_returns allowed] at passed
        refine ⟨rfl, ?_⟩
        cases known : (s.liveAuthorizations.get? session.vehicle.identity.vehicleId).isSome
        · rw [known] at passed
          cases passed
        · rfl
  · rintro ⟨real, known⟩
    left
    simp [commandAuthority, physical, real, known]

theorem Supplied.fresh (supplied : Supplied entry s) : Fresh entry s := by
  intro session physical accepts
  obtain ⟨real, known⟩ := (accepts_physical physical).mp accepts
  obtain ⟨given, found⟩ := Option.isSome_iff_exists.mp known
  obtain ⟨member, confirmed, mode, vehicle⟩ := supplied real _ given found
  exact ⟨real, given, member, confirmed, mode, vehicle⟩

theorem Supplied.shrinks (supplied : Supplied entry a) (shrinks : Shrinks a b) :
    Supplied entry b := by
  intro real vehicleId given found
  rw [shrinks.mode] at real ⊢
  exact supplied real vehicleId given (shrinks.liveAuthorizations vehicleId given found)

section Frames

theorem Shrinks.refl (s : SafetySupervisor F) : Shrinks s s := ⟨rfl, fun _ _ => id⟩

theorem Shrinks.trans (first : Shrinks a b) (second : Shrinks b d) : Shrinks a d :=
  ⟨second.mode.trans first.mode, fun vehicleId given found =>
    first.liveAuthorizations vehicleId given (second.liveAuthorizations vehicleId given found)⟩

theorem SameRegistry.shrinks (same : SameRegistry a b) : Shrinks a b :=
  ⟨same.mode, fun _ _ found => same.liveAuthorizations ▸ found⟩

theorem shrinks_of_registry {c : Call F α} (same : c.Everywhere SameRegistry anything) :
    c.Everywhere Shrinks anything :=
  same.mono (fun _ _ => SameRegistry.shrinks) fun _ _ => trivial

theorem registerVehicle_shrinks {vehicle : Vehicle} :
    (registerVehicle clock vehicle).Everywhere Shrinks anything := by
  refine (shrinks_of_registry (registry_of_clears get_clears)).bind fun _ => failUnless_everywhere.bind fun _ =>
    .bind ?_ fun _ => shrinks_of_registry (registry_of_clears event_clears)
  exact everywhere_modify.mpr fun _ => ⟨rfl, fun _ _ => id⟩

theorem unregisterVehicle_shrinks {vehicleId : String} :
    (unregisterVehicle clock vehicleId).Everywhere Shrinks anything := by
  refine (shrinks_of_registry (registry_of_clears session_clears)).bind fun _ =>
    (shrinks_of_registry (registry_of_clears load_clears)).bind fun _ => failUnless_everywhere.bind fun _ =>
      (shrinks_of_registry (registry_of_clears event_clears)).bind fun _ => everywhere_modify.mpr fun s => ?_
  refine ⟨rfl, fun other given found => ?_⟩
  rw [Dict.get?_erase] at found
  split at found
  · cases found
  · exact found

/-- No operation but `set_mode` gives anybody authority. -/
theorem program_shrinks {label : Operation F} (other : isSetMode (.call label : Turn F) = false) :
    (program clock label).Everywhere Shrinks anything := by
  have registry := program_registry clock label
  cases label with
  | registerVehicle vehicle => exact registerVehicle_shrinks
  | unregisterVehicle vehicleId => exact unregisterVehicle_shrinks
  | setMode mode authorization => cases other
  | _ => exact shrinks_of_registry registry

end Frames

section SetMode

variable {φ : Type} {rel : φ → Awaited F → SafetySupervisor F → Prop} {first : φ}
  {ready : (on : Awaited F) → SafetySupervisor F → Reply on → SafetySupervisor F → φ → Prop}

theorem events_meet {post : φ → Except (Raised F) Unit → SafetySupervisor F → Prop}
    {items : List α} {make : α → Nat → F → SafetyEvent F}
    (ends : ∀ s', Quiet s s' → post first (.ok ()) s') :
    (forEach items fun item => event clock (make item)).Meets rel ready post first s := by
  induction items generalizing s with
  | nil => exact ends s (Quiet.refl s)
  | cons item rest ih =>
    refine meets_bind.mpr (ih fun s' quiet => ends s' (Quiet.trans ?_ quiet))
    exact ⟨rfl, rfl, rfl, rfl, rfl, rfl, Nat.le_succ _⟩

/-- What one `set_mode` call does to the authority. -/
def ModeSet (mode : OperatingMode) (authorization : Option LiveModeAuthorization)
    (before : SafetySupervisor F) (result : Except (Raised F) Unit)
    (after : SafetySupervisor F) : Prop :=
  match result with
  | .error _ => Shrinks before after
  | .ok _ => after.mode = mode ∧ (mode.real = true → ∃ given, authorization = some given ∧
      given.confirmed = true ∧ given.mode = mode ∧
      after.liveAuthorizations = before.liveAuthorizations.insert given.vehicleId given)

theorem authorize_meets {post : φ → Except (Raised F) Unit → SafetySupervisor F → Prop}
    (fails : ∀ raised, post first (.error raised) s)
    (succeeds : ∀ given, authorization = some given → given.confirmed = true →
      given.mode = mode → post first (.ok ()) { s with
        liveAuthorizations := s.liveAuthorizations.insert given.vehicleId given }) :
    (authorize mode authorization).Meets rel ready post first s := by
  cases authorization with
  | none => exact fails _
  | some given =>
    refine meets_bind.mpr ?_
    cases allowed : given.confirmed && given.mode == mode with
    | false => exact fails _
    | true =>
      rw [Bool.and_eq_true, beq_iff_eq] at allowed
      refine meets_bind.mpr (meets_bind.mpr ?_)
      simp only [meets_get]
      cases s.sessions.get? given.vehicleId with
      | none => exact fails _
      | some ref =>
        refine meets_bind.mpr (meets_bind.mpr ?_)
        simp only [meets_get]
        cases s.heap[ref]? with
        | none => exact fails _
        | some session =>
          refine meets_bind.mpr ?_
          cases session.vehicle.backendProfile.authority == .physical with
          | false => exact fails _
          | true => exact succeeds given rfl allowed.1 allowed.2

theorem setMode_meets (ready : (on : Awaited F) → SafetySupervisor F → Reply on →
      SafetySupervisor F → SafetySupervisor F → Prop) :
    (setMode clock mode authorization).Meets (fun _ _ _ => False) ready
      (ModeSet mode authorization) s s := by
  have entered (s' : SafetySupervisor F) (authorized : mode.real = true →
      ∃ given, authorization = some given ∧ given.confirmed = true ∧ given.mode = mode ∧
        s'.liveAuthorizations = s.liveAuthorizations.insert given.vehicleId given) :
      (do
        modify fun s => { s with mode }
        let s ← get
        forEach s.sessions.keys fun vehicleId =>
          event clock fun sequence timestamp =>
            ⟨sequence, timestamp, vehicleId, "MODE_CHANGED", .supervisor,
              "mode changed to " ++ mode.value, none, none, none, []⟩ : Call F Unit).Meets
        (fun _ _ _ => False) ready (ModeSet mode authorization) s s' := by
    refine meets_bind.mpr (meets_bind.mpr (events_meet fun after quiet => ?_))
    refine ⟨quiet.mode, fun real => ?_⟩
    obtain ⟨given, named, confirmed, same, stored⟩ := authorized real
    exact ⟨given, named, confirmed, same, quiet.liveAuthorizations.trans stored⟩
  refine meets_bind.mpr (meets_bind.mpr ?_)
  simp only [id]
  cases s.registered.any isArmedOrFlying with
  | true => exact Shrinks.refl s
  | false =>
    cases real : mode.real with
    | false => exact entered s fun real' => absurd (real.symm.trans real') nofun
    | true =>
      refine meets_bind.mpr (authorize_meets (fun _ => Shrinks.refl s) ?_)
      intro given named confirmed same
      exact entered _ fun _ => ⟨given, named, confirmed, same, rfl⟩

/-- A `set_mode` call runs to its end. -/
theorem setMode_segment (clock : MonotonicClock F) (mode : OperatingMode)
    (authorization : Option LiveModeAuthorization) (s : SafetySupervisor F) :
    ∃ result, ((setMode clock mode authorization).segment s).2 = done result ∧
      ModeSet mode authorization s result ((setMode clock mode authorization).segment s).1 :=
  (setMode_meets fun _ _ _ _ _ => True).ends

end SetMode

section Runs

/-- What holds of every state between two turns. -/
structure Guarded (entered : Entered F) : Prop where
  within : entered.loop.Within fun _ => Shrinks
  supplied : Supplied entered.entry entered.loop.state

variable {entered : Entered F} {turn : Turn F}

theorem supplied_of_other (other : isSetMode turn = false) (clock : MonotonicClock F)
    (loop : Loop F) (entry : List LiveModeAuthorization) :
    supplied clock loop turn entry = entry := by
  unfold supplied
  split
  · cases other
  · rfl

theorem guarded_setMode (guarded : Guarded entered)
    (alone : EntersAlone entered.loop (.call (.setMode mode authorization))) :
    Guarded (stepEntered clock entered (.call (.setMode mode authorization))) := by
  obtain ⟨result, ended, set⟩ := setMode_segment clock mode authorization entered.loop.state
  constructor
  · intro task member
    rcases List.mem_append.mp member with old | new
    · exact guarded.within task old
    · obtain rfl := List.mem_singleton.mp new
      have rest : ((program clock (.setMode mode authorization)).segment entered.loop.state).2 =
        done result := ended
      simp only [rest, everywhere_done]
  · simp only [stepEntered, supplied, ended]
    cases result with
    | error raised => exact guarded.supplied.shrinks set
    | ok value =>
      obtain ⟨entered_mode, authorized⟩ := set
      intro real vehicleId given found
      have after : (step clock entered.loop (.call (.setMode mode authorization))).state =
        ((setMode clock mode authorization).segment entered.loop.state).1 := rfl
      simp only [succeeded_ok, if_true]
      rw [after] at real found ⊢
      rw [entered_mode] at real ⊢
      obtain ⟨newest, rfl, confirmed, same, stored⟩ := authorized real
      rw [stored, Dict.get?_insert] at found
      split at found
      · next named =>
        cases found
        exact ⟨by simp, confirmed, same, named⟩
      · next unnamed =>
        -- another vehicle's authorization stays, so the mode did not change
        by_cases stays : mode = entered.loop.state.mode
        · subst stays
          obtain ⟨member, rest⟩ := guarded.supplied real vehicleId given found
          exact ⟨by simp [member], rest⟩
        · have only := alone real stays vehicleId (by rw [found]; rfl)
          exact absurd only.symm unnamed

theorem guarded_step (guarded : Guarded entered) (alone : EntersAlone entered.loop turn) :
    Guarded (stepEntered clock entered turn) := by
  cases other : isSetMode turn with
  | true =>
    cases turn with
    | call label =>
      cases label with
      | setMode mode authorization => exact guarded_setMode guarded alone
      | _ => cases other
    | resume i reply => cases other
  | false =>
    have called (label) (call : turn = .call label) : (program clock label).Everywhere Shrinks anything :=
      program_shrinks (call ▸ other)
    obtain ⟨moves, within⟩ := EventLoop.step_within called (fun _ => Shrinks.refl)
      (fun _ _ _ _ => Shrinks.trans) guarded.within
    refine ⟨within, ?_⟩
    simp only [stepEntered, supplied_of_other other, step, EventLoop.step_state]
    cases moved : EventLoop.moved (program clock) entered.loop turn with
    | none => exact guarded.supplied
    | some ended =>
      obtain ⟨label, before, after, rest⟩ := ended
      have whole := moves label before after rest moved
      rw [EventLoop.moved_before moved] at whole
      exact guarded.supplied.shrinks whole

end Runs

section Instances

def physical (vehicleId : String) : Vehicle := ⟨⟨vehicleId⟩, ⟨.physical, true⟩, [.arming]⟩

def confirmed (vehicleId : String) : LiveModeAuthorization :=
  ⟨vehicleId, "operator", .live, true⟩

def enterLive (vehicleId : String) : Turn F := .call (.setMode .live (some (confirmed vehicleId)))

def registerBoth : List (Turn F) :=
  [.call (.registerVehicle (physical "cf01")), .call (.registerVehicle (physical "cf02"))]

/-- The two vehicles are authorized within one entry. -/
def bothLive : Entered ℚ :=
  Runs.run (stepEntered secondsClock) ⟨initial .exactDefault, []⟩
    (registerBoth ++ [enterLive "cf01", enterLive "cf02"])

/-- `cf01` is authorized, the mode is left, and `LIVE` is entered again for `cf02` alone. -/
def reentered : Entered ℚ :=
  Runs.run (stepEntered secondsClock) ⟨initial .exactDefault, []⟩
    (registerBoth ++ [enterLive "cf01", .call (.setMode .sim none), enterLive "cf02"])

end Instances

end SafetySupervisor

end CrazySwarm
