import CrazySwarm.SafetySupervisor

/-! What every single change of the supervisor leaves alone. Helpers change neither the
registry, nor the authorizations, nor whose lease a session holds, nor what was sent, and most
of them no observation either; a whole operation other than `set_mode` and the registrations
leaves registry and authorizations. -/
namespace CrazySwarm
open PyFloat PyMath

variable {F : Type} [PyMath F]

/-- The adapter of a session and the holder of its lease. -/
def VehicleSession.profile (session : VehicleSession F) : Vehicle × Option String :=
  (session.vehicle, session.lease.map ControlLease.ownerId)

namespace SafetySupervisor
open Coroutine

structure Quiet (a b : SafetySupervisor F) : Prop where
  policy : b.policy = a.policy
  mode : b.mode = a.mode
  sessions : b.sessions = a.sessions
  liveAuthorizations : b.liveAuthorizations = a.liveAuthorizations
  sent : b.sent = a.sent
  profiles : b.heap.map VehicleSession.profile = a.heap.map VehicleSession.profile
  ticks : a.ticks ≤ b.ticks

/-- Nor is any observation touched. -/
structure Still (a b : SafetySupervisor F) : Prop extends Quiet a b where
  observations : b.heap.map VehicleSession.telemetry = a.heap.map VehicleSession.telemetry

structure SameRegistry (a b : SafetySupervisor F) : Prop where
  mode : b.mode = a.mode
  sessions : b.sessions = a.sessions
  liveAuthorizations : b.liveAuthorizations = a.liveAuthorizations
  vehicles : b.heap.map VehicleSession.vehicle = a.heap.map VehicleSession.vehicle

/-- The owner of the lease that a session object holds. -/
def ownerAt (s : SafetySupervisor F) (ref : Nat) : Option String :=
  (s.heap[ref]?).bind fun session => session.profile.2

/-- The same registry, and no lease is granted: whoever holds one held it before. -/
structure Clears (a b : SafetySupervisor F) : Prop extends SameRegistry a b where
  owners : ∀ ref ownerId, b.ownerAt ref = some ownerId → a.ownerAt ref = some ownerId

/-- A call may wait for anything. -/
abbrev anything : Awaited F → Prop := fun _ => True

def commanding : Awaited F → Prop
  | .execute _ | .interrupted _ | .settled _ => True
  | _ => False

variable {a b d s : SafetySupervisor F} {clock : MonotonicClock F} {ref : Nat}
  {vehicleId ownerId : String}

@[simp] theorem Quiet.refl (s : SafetySupervisor F) : Quiet s s :=
  ⟨rfl, rfl, rfl, rfl, rfl, rfl, le_rfl⟩

theorem Quiet.trans (first : Quiet a b) (second : Quiet b d) : Quiet a d :=
  ⟨second.policy.trans first.policy, second.mode.trans first.mode,
    second.sessions.trans first.sessions,
    second.liveAuthorizations.trans first.liveAuthorizations, second.sent.trans first.sent,
    second.profiles.trans first.profiles, first.ticks.trans second.ticks⟩

@[simp] theorem Still.refl (s : SafetySupervisor F) : Still s s := ⟨.refl s, rfl⟩

@[simp] theorem SameRegistry.refl (s : SafetySupervisor F) : SameRegistry s s :=
  ⟨rfl, rfl, rfl, rfl⟩

theorem Quiet.sameRegistry (quiet : Quiet a b) : SameRegistry a b := by
  refine ⟨quiet.mode, quiet.sessions, quiet.liveAuthorizations, ?_⟩
  have first := congrArg (List.map Prod.fst) quiet.profiles
  simpa only [List.map_map, Function.comp_def, VehicleSession.profile] using first

theorem Quiet.ownerAt (quiet : Quiet a b) (ref : Nat) : b.ownerAt ref = a.ownerAt ref := by
  have same := congrArg (·[ref]?) quiet.profiles
  simp only [List.getElem?_map] at same
  have owners := congrArg (Option.bind · Prod.snd) same
  simpa only [SafetySupervisor.ownerAt, Option.bind_map, Function.comp_def] using owners

theorem Quiet.clears (quiet : Quiet a b) : Clears a b :=
  ⟨quiet.sameRegistry, fun ref _ held => quiet.ownerAt ref ▸ held⟩

/-- A change of one object that keeps a view of it keeps that view of the whole heap. -/
theorem map_modify_of_same {α β : Type} (view : α → β) (change : α → α)
    (same : ∀ x, view (change x) = view x) (items : List α) (i : Nat) :
    (items.modify i change).map view = items.map view := by
  apply List.ext_getElem?
  intro j
  rw [List.getElem?_map, List.getElem?_map, List.getElem?_modify]
  split <;> cases items[j]? <;> simp [same]

section Calls

variable {rel : SafetySupervisor F → SafetySupervisor F → Prop} {may : Awaited F → Prop}

theorem everywhere_ite {condition : Prop} [Decidable condition] {yes no : Call F α}
    (left : yes.Everywhere rel may) (right : no.Everywhere rel may) :
    (if condition then yes else no).Everywhere rel may := by
  split
  · exact left
  · exact right

@[simp] theorem failUnless_everywhere {condition : Bool} {code : ErrorCode} {message : String} :
    (failUnless condition code message : Call F Unit).Everywhere rel may :=
  trivial

theorem suppress_everywhere {kinds : Raised F → Bool} {body : Call F Unit}
    (every : body.Everywhere rel may) : (suppress kinds body).Everywhere rel may :=
  every.rescue fun _ => everywhere_ite trivial trivial

theorem forEach_everywhere {items : List α} {body : α → Call F Unit}
    (every : ∀ item ∈ items, (body item).Everywhere rel may) :
    (forEach items body).Everywhere rel may := by
  induction items with
  | nil => trivial
  | cons item rest ih =>
    exact (every item List.mem_cons_self).bind fun _ =>
      ih fun item later => every item (List.mem_cons_of_mem _ later)

end Calls

section Still

variable {may : Awaited F → Prop}

theorem get_still : (Coroutine.get : Call F _).Everywhere Still may := everywhere_get Still.refl

@[simp] theorem monotonic_still : (monotonic clock : Call F F).Everywhere Still may :=
  (get_still).bind fun _ => .bind (everywhere_modify.mpr fun _ =>
    ⟨⟨rfl, rfl, rfl, rfl, rfl, rfl, Nat.le_succ _⟩, rfl⟩) fun _ => trivial

@[simp] theorem nowOr_still {value : Option F} : (nowOr clock value).Everywhere Still may := by
  cases value with
  | none => exact monotonic_still
  | some value => trivial

@[simp] theorem nextCommandSequence_still : (nextCommandSequence : Call F Nat).Everywhere Still may :=
  (get_still).bind fun _ => .bind (everywhere_modify.mpr fun _ =>
    ⟨⟨rfl, rfl, rfl, rfl, rfl, rfl, le_rfl⟩, rfl⟩) fun _ => trivial

@[simp] theorem event_still {make : Nat → F → SafetyEvent F} :
    (event clock make).Everywhere Still may :=
  (monotonic_still).bind fun _ => everywhere_modify.mpr fun _ =>
    ⟨⟨rfl, rfl, rfl, rfl, rfl, rfl, le_rfl⟩, rfl⟩

@[simp] theorem session_still : (session vehicleId : Call F Nat).Everywhere Still may := by
  apply (get_still).bind
  intro s
  split <;> trivial

@[simp] theorem load_still : (load ref : Call F _).Everywhere Still may := by
  apply (get_still).bind
  intro s
  split <;> trivial

theorem store_still {change : VehicleSession F → VehicleSession F}
    (same : ∀ session, (change session).profile = session.profile ∧
      (change session).telemetry = session.telemetry) :
    (store ref change).Everywhere Still may :=
  everywhere_modify.mpr fun s => ⟨⟨rfl, rfl, rfl, rfl, rfl,
    map_modify_of_same _ _ (fun session => (same session).1) s.heap ref, le_rfl⟩,
    map_modify_of_same _ _ (fun session => (same session).2) s.heap ref⟩

theorem awaitExecute_still {envelope : CommandEnvelope F} :
    (awaitExecute envelope).Everywhere Still commanding :=
  ⟨trivial, fun _ => trivial⟩

theorem awaitInterrupted_still : (awaitInterrupted vehicleId : Call F _).Everywhere Still commanding :=
  ⟨trivial, fun _ => trivial⟩

theorem awaitSettled_still : (awaitSettled vehicleId : Call F _).Everywhere Still commanding :=
  ⟨trivial, fun _ => trivial⟩

@[simp] theorem transition_still {target : VehicleState} {source : CommandSource} :
    (transition clock vehicleId target source).Everywhere Still may := by
  refine (session_still).bind fun _ => (load_still).bind fun _ =>
    (failUnless_everywhere).bind fun _ => .bind ?_ fun _ => event_still
  exact store_still fun _ => ⟨rfl, rfl⟩

@[simp] theorem interruptActiveCommand_still {error : Raised F} :
    (interruptActiveCommand ref error).Everywhere Still commanding := by
  refine (load_still).bind fun current => ?_
  dsimp only
  split
  · refine .bind (store_still fun _ => ?_) fun _ => .bind ?_ fun _ => awaitSettled_still
    · exact ⟨rfl, rfl⟩
    · exact suppress_everywhere awaitInterrupted_still
  · trivial

@[simp] theorem runCommand_still {envelope : CommandEnvelope F} :
    (runCommand ref envelope).Everywhere Still commanding := by
  refine .bind ?_ fun _ => .handle awaitExecute_still fun result =>
    (load_still).bind fun current => ?_
  · exact store_still fun _ => ⟨rfl, rfl⟩
  have cleared (session : VehicleSession F) :
      let cleared := if session.activeExecuteTask.any (·.commandId == envelope.commandId) then
        { session with activeExecuteTask := none, activeCommandPayload := none }
      else session
      cleared.profile = session.profile ∧ cleared.telemetry = session.telemetry := by
    split <;> exact ⟨rfl, rfl⟩
  apply everywhere_ite
  · refine .bind ?_ fun _ => .bind (store_still cleared) fun _ => ?_
    · exact store_still fun _ => ⟨rfl, rfl⟩
    · trivial
  · refine .bind (store_still cleared) fun _ => ?_
    trivial

@[simp] theorem extendLease_still {byS : F} :
    (extendLease clock ref byS).Everywhere Still may := by
  refine (load_still).bind fun current => everywhere_ite ?_ trivial
  refine monotonic_still.bind fun _ => store_still fun session => ⟨?_, rfl⟩
  simp only [VehicleSession.profile, Option.map_map, Function.comp_def]

@[simp] theorem requireRealAuthority_still :
    (requireRealAuthority ref : Call F Unit).Everywhere Still may := by
  refine (load_still).bind fun current => get_still.bind fun s => ?_
  split
  · trivial
  · trivial
  · exact failUnless_everywhere.bind fun _ => trivial

@[simp] theorem requireOwnerNow_still {allowExpired : Bool} :
    (requireOwnerNow clock ref ownerId allowExpired).Everywhere Still may :=
  monotonic_still.bind fun _ => (load_still).bind fun _ => trivial

@[simp] theorem requireFlying_still : (requireFlying clock ref ownerId).Everywhere Still may :=
  (requireOwnerNow_still).bind fun _ => (load_still).bind fun _ => trivial

@[simp] theorem requireCommandReady_still :
    (requireCommandReady clock ref ownerId).Everywhere Still may :=
  (requireOwnerNow_still).bind fun _ => (requireRealAuthority_still).bind fun _ =>
    load_still.bind fun _ => failUnless_everywhere.bind fun _ => trivial

@[simp] theorem requirePreflight_still {reportId : String} {now : F} :
    (requirePreflight ref ownerId reportId now).Everywhere Still may :=
  load_still.bind fun _ => get_still.bind fun _ => trivial

@[simp] theorem heldTelemetry_still : (heldTelemetry ref : Call F _).Everywhere Still may := by
  refine load_still.bind fun current => ?_
  split <;> trivial

@[simp] theorem validateTrajectoryCommand_still {trajectory : TimeParameterizedTrajectory F} :
    (validateTrajectoryCommand clock vehicleId ownerId trajectory).Everywhere Still may :=
  session_still.bind fun _ => (requireFlying_still).bind fun _ => load_still.bind fun _ =>
    failUnless_everywhere.bind fun _ => (heldTelemetry_still).bind fun _ =>
      get_still.bind fun _ => trivial

@[simp] theorem simulationLowBatteryOverride_still {requested : Bool} :
    (simulationLowBatteryOverride ref requested : Call F Bool).Everywhere Still may :=
  load_still.bind fun _ => get_still.bind fun _ => failUnless_everywhere.bind fun _ => trivial

@[simp] theorem evaluateHealth_still {nowS : Option F} {lowBattery : Bool} :
    (evaluateHealth clock vehicleId nowS lowBattery).Everywhere Still may :=
  session_still.bind fun _ => (simulationLowBatteryOverride_still).bind fun _ =>
    nowOr_still.bind fun _ => load_still.bind fun _ => get_still.bind fun _ => trivial

@[simp] theorem commandReturns_still : (commandReturns vehicleId : Call F Unit).Everywhere Still may :=
  session_still.bind fun _ => store_still fun _ => ⟨rfl, rfl⟩

end Still

section Silent

/-- The call never waits. -/
abbrev Silent (c : Call F α) : Prop := c.Everywhere (fun _ _ => True) fun _ => False

theorem silent_of_still {c : Call F α} (still : c.Everywhere Still fun _ => False) : Silent c :=
  still.mono (fun _ _ _ => trivial) fun _ => id

theorem modify_silent {change : SafetySupervisor F → SafetySupervisor F} :
    Silent (modify change : Call F Unit) := everywhere_modify.mpr fun _ => trivial

theorem claimControl_silent {nowS : Option F} :
    Silent (claimControl clock vehicleId ownerId nowS) :=
  (silent_of_still session_still).bind fun _ => (silent_of_still nowOr_still).bind fun _ =>
    (silent_of_still load_still).bind fun _ => failUnless_everywhere.bind fun _ =>
      (silent_of_still get_still).bind fun _ => .bind trivial fun _ => (modify_silent).bind fun _ =>
        silent_of_still event_still

end Silent

section Quiet

variable {may : Awaited F → Prop}

theorem quiet_of_still {c : Call F α} (still : c.Everywhere Still may) :
    c.Everywhere Quiet may :=
  still.mono (fun _ _ => Still.toQuiet) fun _ => id

theorem session_quiet : (session vehicleId : Call F Nat).Everywhere Quiet may :=
  quiet_of_still session_still

theorem load_quiet : (load ref : Call F _).Everywhere Quiet may :=
  quiet_of_still load_still

theorem get_quiet : (Coroutine.get : Call F _).Everywhere Quiet may :=
  quiet_of_still get_still

theorem event_quiet {make : Nat → F → SafetyEvent F} :
    (event clock make).Everywhere Quiet may :=
  quiet_of_still event_still

theorem transition_quiet {target : VehicleState} {source : CommandSource} :
    (transition clock vehicleId target source).Everywhere Quiet may :=
  quiet_of_still transition_still

theorem store_quiet {change : VehicleSession F → VehicleSession F}
    (same : ∀ session, (change session).profile = session.profile) :
    (store ref change).Everywhere Quiet may :=
  everywhere_modify.mpr fun s =>
    ⟨rfl, rfl, rfl, rfl, rfl, map_modify_of_same _ _ same s.heap ref, le_rfl⟩

theorem awaitConnect_quiet : (awaitConnect vehicleId : Call F _).Everywhere Quiet anything :=
  ⟨trivial, fun _ => trivial⟩

theorem awaitDisconnect_quiet : (awaitDisconnect vehicleId : Call F _).Everywhere Quiet anything :=
  ⟨trivial, fun _ => trivial⟩

theorem awaitSnapshot_quiet : (awaitSnapshot vehicleId : Call F _).Everywhere Quiet anything :=
  ⟨trivial, fun _ => trivial⟩

@[simp] theorem receiveTelemetry_quiet {telemetry : TelemetryEnvelope F} :
    (receiveTelemetry clock telemetry).Everywhere Quiet may := by
  refine (session_quiet).bind fun _ => (load_quiet).bind fun current =>
    failUnless_everywhere.bind fun _ => ?_
  apply everywhere_ite
  · exact (quiet_of_still monotonic_still).bind fun _ => store_quiet fun _ => rfl
  · trivial

@[simp] theorem refresh_quiet : (refresh clock ref).Everywhere Quiet anything :=
  (load_quiet).bind fun _ => (awaitSnapshot_quiet).bind fun _ =>
    (receiveTelemetry_quiet).bind fun _ => trivial

@[simp] theorem reconcileTerminalAdapterState_quiet :
    (reconcileTerminalAdapterState clock ref).Everywhere Quiet anything := by
  refine (load_quiet).bind fun current => (awaitSnapshot_quiet).handle ?_
  rintro (raised | telemetry)
  · exact everywhere_ite trivial trivial
  · apply everywhere_ite
    · trivial
    · refine (receiveTelemetry_quiet).bind fun _ => (load_quiet).bind fun _ => ?_
      dsimp only
      split
      · exact everywhere_ite transition_quiet trivial
      · trivial

@[simp] theorem preflight_quiet {capabilities : List VehicleCapability} {nowS : Option F}
    {lowBattery : Bool} :
    (preflight clock vehicleId ownerId capabilities nowS lowBattery).Everywhere Quiet anything := by
  refine (session_quiet).bind fun _ => (quiet_of_still nowOr_still).bind fun _ =>
    (load_quiet).bind fun _ => .bind trivial fun _ =>
      (quiet_of_still simulationLowBatteryOverride_still).bind fun _ => (refresh_quiet).bind
        fun _ => (load_quiet).bind fun _ => (get_quiet).bind fun _ =>
          (quiet_of_still nextCommandSequence_still).bind fun _ => .bind trivial fun _ =>
            .bind ?_ fun _ => (event_quiet).bind fun _ => trivial
  exact store_quiet fun _ => rfl

@[simp] theorem observe_quiet {timeoutS : F} :
    (observe clock vehicleId ownerId timeoutS).Everywhere Quiet anything := by
  refine (get_quiet).bind fun _ => failUnless_everywhere.bind fun _ => (session_quiet).bind fun _ =>
    (quiet_of_still requireOwnerNow_still).bind fun _ => (load_quiet).bind fun _ => .bind ?_
      fun _ =>
      (receiveTelemetry_quiet).bind fun _ => failUnless_everywhere.bind fun _ => trivial
  exact (awaitSnapshot_quiet).rescue fun _ => everywhere_ite trivial trivial

@[simp] theorem connect_quiet : (connect clock vehicleId).Everywhere Quiet anything := by
  refine (session_quiet).bind fun _ => (transition_quiet).bind fun _ => .bind (.rescue ?_ ?_)
    fun _ => (transition_quiet).bind fun _ => trivial
  · exact (awaitConnect_quiet).bind fun _ => refresh_quiet
  · intro raised
    refine everywhere_ite ((transition_quiet).bind fun _ => trivial) (everywhere_ite ?_ trivial)
    exact (transition_quiet).bind fun _ => trivial

@[simp] theorem reconcileLanding_quiet :
    (reconcileLanding clock vehicleId ref).Everywhere Quiet anything := by
  refine (awaitSnapshot_quiet).bind fun _ => failUnless_everywhere.bind fun _ =>
    (receiveTelemetry_quiet).bind fun _ => ?_
  exact everywhere_ite ((transition_quiet).bind fun _ => load_quiet.bind fun _ => trivial)
    (load_quiet.bind fun _ => trivial)

end Quiet

section Registry

variable {origin : CommandOrigin} {allowExpired : Bool}

theorem clears_of_quiet {c : Call F α} (quiet : c.Everywhere Quiet anything) :
    c.Everywhere Clears anything :=
  quiet.mono (fun _ _ => Quiet.clears) fun _ _ => trivial

theorem clears_of_still {c : Call F α} (still : c.Everywhere Still commanding) :
    c.Everywhere Clears anything :=
  still.mono (fun _ _ still => still.clears) fun _ _ => trivial

theorem registry_of_clears {c : Call F α} (clears : c.Everywhere Clears anything) :
    c.Everywhere SameRegistry anything :=
  clears.mono (fun _ _ => Clears.toSameRegistry) fun _ _ => trivial

theorem get_clears : (Coroutine.get : Call F _).Everywhere Clears anything :=
  clears_of_quiet get_quiet

theorem session_clears : (session vehicleId : Call F Nat).Everywhere Clears anything :=
  clears_of_quiet session_quiet

theorem load_clears : (load ref : Call F _).Everywhere Clears anything :=
  clears_of_quiet load_quiet

theorem transition_clears {target : VehicleState} {source : CommandSource} :
    (transition clock vehicleId target source).Everywhere Clears anything :=
  clears_of_quiet transition_quiet

theorem event_clears {make : Nat → F → SafetyEvent F} :
    (event clock make).Everywhere Clears anything :=
  clears_of_quiet event_quiet

theorem refresh_clears : (refresh clock ref).Everywhere Clears anything :=
  clears_of_quiet refresh_quiet

theorem requireFlying_clears : (requireFlying clock ref ownerId).Everywhere Clears anything :=
  clears_of_still requireFlying_still

theorem interruptActiveCommand_clears {error : Raised F} :
    (interruptActiveCommand ref error).Everywhere Clears anything :=
  clears_of_still interruptActiveCommand_still

/-- An object that keeps its vehicle may lose its lease. -/
theorem store_clears {change : VehicleSession F → VehicleSession F}
    (same : ∀ session, (change session).vehicle = session.vehicle)
    (lease : ∀ session, (change session).profile.2 = session.profile.2 ∨
      (change session).profile.2 = none) :
    (store ref change).Everywhere Clears anything := by
  refine everywhere_modify.mpr fun s => ⟨⟨rfl, rfl, rfl, map_modify_of_same _ _ same s.heap ref⟩, ?_⟩
  intro other ownerId held
  simp only [ownerAt, List.getElem?_modify] at held ⊢
  cases object : s.heap[other]? with
  | none => simp [object] at held
  | some session =>
    by_cases found : ref = other
    · simp only [object, found, if_true] at held
      have owner : (change session).profile.2 = some ownerId := held
      change session.profile.2 = some ownerId
      rcases lease session with kept | gone
      · exact kept.symm.trans owner
      · rw [gone] at owner
        cases owner
    · simpa [object, found] using held

theorem send_clears {payload : CommandPayload F} :
    (send clock ref payload origin).Everywhere Clears anything := by
  refine .bind trivial fun _ => (clears_of_still nextCommandSequence_still).bind fun sequence =>
    (load_clears).bind fun current => (clears_of_still monotonic_still).bind fun issuedAt =>
      (get_clears).bind fun s => .bind trivial fun _ => .bind ?_ fun _ => (event_clears).bind
        fun _ => (clears_of_still extendLease_still).bind fun _ => .bind (.rescue ?_ ?_)
          fun _ => .bind trivial fun _ => (clears_of_still extendLease_still).bind fun _ =>
            (event_clears).bind fun _ => trivial
  · exact everywhere_modify.mpr fun _ => ⟨⟨rfl, rfl, rfl, rfl⟩, fun _ _ => id⟩
  · exact clears_of_still runCommand_still
  · intro raised
    refine everywhere_ite ?_ (everywhere_ite ?_ trivial)
    · exact (clears_of_quiet reconcileTerminalAdapterState_quiet).bind fun _ => trivial
    · exact (event_clears).bind fun _ => trivial

theorem faultOnFailure_clears {body : Call F α} (same : body.Everywhere Clears anything) :
    (faultOnFailure clock vehicleId ref body).Everywhere Clears anything := by
  refine same.rescue fun raised => everywhere_ite ?_ trivial
  refine (load_clears).bind fun current => everywhere_ite ?_ (everywhere_ite ?_ trivial)
  · refine .bind ?_ fun _ => ?_
    · exact store_clears (fun _ => rfl) fun _ => .inl rfl
    · trivial
  · exact (transition_clears).bind fun _ => trivial

theorem arm_clears {reportId : String} {nowS : Option F} :
    (arm clock vehicleId ownerId reportId nowS origin).Everywhere Clears anything :=
  (session_clears).bind fun _ => (clears_of_still nowOr_still).bind fun _ =>
    (load_clears).bind fun _ => .bind trivial fun _ =>
      (clears_of_still requirePreflight_still).bind fun _ =>
        (clears_of_still requireRealAuthority_still).bind fun _ =>
          (transition_clears).bind fun _ => .bind
            (faultOnFailure_clears ((send_clears).bind fun _ => (refresh_clears).bind fun _ =>
              failUnless_everywhere.bind fun _ => trivial))
            fun _ => (transition_clears).bind fun _ => trivial

theorem disarm_clears : (disarm clock vehicleId ownerId origin).Everywhere Clears anything :=
  session_clears.bind fun _ => (clears_of_still requireOwnerNow_still).bind fun _ =>
    (load_clears).bind fun _ => failUnless_everywhere.bind fun _ => (send_clears).bind fun _ =>
      (refresh_clears).bind fun _ => trivial

theorem takeoff_clears {heightM durationS : F} :
    (takeoff clock vehicleId ownerId heightM durationS origin).Everywhere Clears anything :=
  session_clears.bind fun _ => (clears_of_still requireCommandReady_still).bind fun _ =>
    get_clears.bind fun _ => .bind trivial fun _ => transition_clears.bind fun _ => .bind
      (faultOnFailure_clears ((send_clears).bind fun _ => (refresh_clears).bind fun _ =>
        failUnless_everywhere.bind fun _ => trivial))
      fun _ => transition_clears.bind fun _ => trivial

theorem sendAndRefresh_clears {payload : CommandPayload F} :
    (sendAndRefresh clock ref payload origin).Everywhere Clears anything :=
  (send_clears).bind fun _ => refresh_clears.bind fun _ => trivial

theorem hover_clears {durationS : F} :
    (hover clock vehicleId ownerId durationS origin).Everywhere Clears anything :=
  session_clears.bind fun _ => requireFlying_clears.bind fun _ => get_clears.bind fun _ =>
    .bind trivial fun _ => sendAndRefresh_clears

theorem moveRelative_clears {command : MoveRelativeCommand F} :
    (moveRelative clock vehicleId ownerId command origin).Everywhere Clears anything :=
  session_clears.bind fun _ => requireFlying_clears.bind fun _ =>
    (clears_of_still heldTelemetry_still).bind fun _ => get_clears.bind fun _ =>
      .bind trivial fun _ => sendAndRefresh_clears

theorem executeTrajectory_clears {trajectory : TimeParameterizedTrajectory F} :
    (executeTrajectory clock vehicleId ownerId trajectory origin).Everywhere Clears anything :=
  (clears_of_still validateTrajectoryCommand_still).bind fun _ => session_clears.bind fun _ =>
    sendAndRefresh_clears

theorem replaceTrajectory_clears {trajectory : TimeParameterizedTrajectory F}
    {reason : String} :
    (replaceTrajectory clock vehicleId ownerId trajectory reason origin).Everywhere
      Clears anything :=
  session_clears.bind fun _ => requireFlying_clears.bind fun _ =>
    interruptActiveCommand_clears.bind fun _ => executeTrajectory_clears

theorem stopAndHold_clears :
    (stopAndHold clock vehicleId ownerId origin).Everywhere Clears anything :=
  session_clears.bind fun _ => requireFlying_clears.bind fun _ => load_clears.bind fun _ =>
    everywhere_ite (interruptActiveCommand_clears.bind fun _ => sendAndRefresh_clears)
      sendAndRefresh_clears

theorem land_clears {durationS : F} {target : Option (Vector3 F)}
    {goal : Option (LandingGoalRegion F)} :
    (land clock vehicleId ownerId durationS target goal origin).Everywhere Clears anything := by
  have landing : ∀ ref : Nat, (do
      transition clock vehicleId .landing origin.source
      let acknowledgement ← send clock ref (.land {
        targetHeightM := (target.map Vector3.z).getD PyFloat.zero
        targetPositionM := target, goalRegion := goal, durationS }) origin
      let _ ← refresh clock ref
      transition clock vehicleId .ready .supervisor
      return acknowledgement : Call F CommandAcknowledgement).Everywhere Clears anything :=
    fun ref => transition_clears.bind fun _ => send_clears.bind fun _ =>
      refresh_clears.bind fun _ => transition_clears.bind fun _ => trivial
  exact session_clears.bind fun ref => requireFlying_clears.bind fun _ =>
    get_clears.bind fun _ => .bind trivial fun _ => load_clears.bind fun _ =>
      everywhere_ite (interruptActiveCommand_clears.bind fun _ => landing ref) (landing ref)

theorem emergencyStop_clears {reason : String} :
    (emergencyStop clock vehicleId ownerId reason allowExpired origin).Everywhere Clears anything :=
  session_clears.bind fun _ => (clears_of_still requireOwnerNow_still).bind fun _ =>
    interruptActiveCommand_clears.bind fun _ => transition_clears.bind fun _ =>
      send_clears.bind fun _ => event_clears.bind fun _ => refresh_clears.bind fun _ =>
        trivial

theorem refreshAfterAbort_clears :
    (refreshAfterAbort clock vehicleId ownerId ref).Everywhere Clears anything := by
  apply refresh_clears.handle
  rintro (raised | telemetry)
  · refine everywhere_ite (.bind (.rescue ?_ ?_) fun _ => trivial) trivial
    · exact (emergencyStop_clears).bind fun _ => trivial
    · exact fun _ => everywhere_ite trivial trivial
  · trivial

theorem abortAndLand_clears {reason : String} :
    (abortAndLand clock vehicleId ownerId reason allowExpired origin).Everywhere Clears anything :=
  session_clears.bind fun _ => (clears_of_still requireOwnerNow_still).bind fun _ =>
    load_clears.bind fun _ => failUnless_everywhere.bind fun _ =>
      interruptActiveCommand_clears.bind fun _ => transition_clears.bind fun _ =>
        send_clears.bind fun _ => transition_clears.bind fun _ =>
          (refreshAfterAbort_clears).bind fun _ => transition_clears.bind fun _ => trivial

theorem releaseControl_clears :
    (releaseControl clock vehicleId ownerId allowExpired).Everywhere Clears anything := by
  have released (ref : Nat) : (do
      store ref ({ · with lease := none })
      event clock fun sequence timestamp =>
        ⟨sequence, timestamp, vehicleId, "CONTROL_RELEASED", .supervisor,
          "control released by " ++ ownerId, none, none, none, []⟩ :
      Call F Unit).Everywhere Clears anything := by
    refine .bind ?_ fun _ => event_clears
    exact store_clears (fun _ => rfl) fun _ => .inr rfl
  exact session_clears.bind fun ref => (clears_of_still requireOwnerNow_still).bind fun _ =>
    load_clears.bind fun _ =>
      everywhere_ite ((abortAndLand_clears).bind fun _ => released ref) (released ref)

theorem expireControlLease_clears {now : F} :
    (expireControlLease clock vehicleId ref now).Everywhere Clears anything := by
  refine load_clears.bind fun current => ?_
  split
  · trivial
  · next lease _ =>
    have expired : (do
        store ref ({ · with lease := none })
        event clock fun sequence timestamp =>
          ⟨sequence, timestamp, vehicleId, "CONTROL_EXPIRED", .supervisor,
            "control lease expired for " ++ lease.ownerId, none, none, none, []⟩ :
        Call F Unit).Everywhere Clears anything := by
      refine .bind ?_ fun _ => event_clears
      exact store_clears (fun _ => rfl) fun _ => .inr rfl
    exact everywhere_ite
      (everywhere_ite ((abortAndLand_clears).bind fun _ => expired) expired) trivial

theorem expireControlLeases_clears {nowS : Option F} :
    (expireControlLeases clock nowS).Everywhere Clears anything :=
  (clears_of_still nowOr_still).bind fun _ => get_clears.bind fun _ =>
    forEach_everywhere fun _ _ => get_clears.bind fun _ => .bind trivial fun _ =>
      expireControlLease_clears

theorem enforceHealth_clears {nowS : Option F} {lowBattery : Bool} :
    (enforceHealth clock vehicleId ownerId nowS origin lowBattery).Everywhere Clears anything := by
  refine (clears_of_still evaluateHealth_still).bind fun assessment => ?_
  dsimp only
  split
  · exact session_clears.bind fun _ => interruptActiveCommand_clears.bind fun _ =>
      (abortAndLand_clears).bind fun _ => trivial
  · exact session_clears.bind fun _ => interruptActiveCommand_clears.bind fun _ =>
      (emergencyStop_clears).bind fun _ => trivial
  · exact .bind trivial fun _ => trivial

theorem disconnect_clears {owner : Option String} :
    (disconnect clock vehicleId owner).Everywhere Clears anything := by
  have disconnected (ref : Nat) : (do
      let current ← load ref
      failUnless (!isArmedOrFlying current) .invalidState "land and disarm before disconnect"
      awaitDisconnect vehicleId
      transition clock vehicleId .disconnected .supervisor
      let telemetry ← awaitSnapshot vehicleId
      let now ← monotonic clock
      store ref ({ · with
        telemetry := some telemetry
        telemetryReceivedAtMonotonicS := some now
        lease := none
        preflight := none }) : Call F Unit).Everywhere Clears anything := by
    refine load_clears.bind fun _ => failUnless_everywhere.bind fun _ =>
      (clears_of_quiet awaitDisconnect_quiet).bind fun _ => transition_clears.bind fun _ =>
        (clears_of_quiet awaitSnapshot_quiet).bind fun _ =>
          (clears_of_still monotonic_still).bind fun _ => ?_
    exact store_clears (fun _ => rfl) fun _ => .inr rfl
  have landed (ref : Nat) : (do
      reconcileLanding clock vehicleId ref
      let current ← load ref
      failUnless (!isArmedOrFlying current) .invalidState "land and disarm before disconnect"
      awaitDisconnect vehicleId
      transition clock vehicleId .disconnected .supervisor
      let telemetry ← awaitSnapshot vehicleId
      let now ← monotonic clock
      store ref ({ · with
        telemetry := some telemetry
        telemetryReceivedAtMonotonicS := some now
        lease := none
        preflight := none }) : Call F Unit).Everywhere Clears anything :=
    (clears_of_quiet reconcileLanding_quiet).bind fun _ => disconnected ref
  refine session_clears.bind fun ref => load_clears.bind fun current => ?_
  dsimp only
  split
  · apply everywhere_ite
    · refine .bind (clears_of_still requireOwnerNow_still) fun _ => ?_
      apply everywhere_ite (landed ref) (disconnected ref)
    · exact everywhere_ite (landed ref) (disconnected ref)
  · exact everywhere_ite (landed ref) (disconnected ref)

theorem store_registry {change : VehicleSession F → VehicleSession F}
    (same : ∀ session, (change session).vehicle = session.vehicle) :
    (store ref change).Everywhere SameRegistry anything :=
  everywhere_modify.mpr fun s => ⟨rfl, rfl, rfl, map_modify_of_same _ _ same s.heap ref⟩

theorem nowOr_registry {value : Option F} :
    (nowOr clock value).Everywhere SameRegistry anything :=
  registry_of_clears (clears_of_still nowOr_still)

theorem claimControl_registry {nowS : Option F} :
    (claimControl clock vehicleId ownerId nowS).Everywhere SameRegistry anything := by
  refine (registry_of_clears session_clears).bind fun _ => (nowOr_registry).bind fun _ =>
    (registry_of_clears load_clears).bind fun _ => failUnless_everywhere.bind fun _ =>
      (registry_of_clears get_clears).bind fun _ => .bind trivial fun _ => .bind ?_ fun _ =>
        registry_of_clears event_clears
  exact store_registry fun _ => rfl

theorem renewControl_registry {nowS : Option F} :
    (renewControl clock vehicleId ownerId nowS).Everywhere SameRegistry anything := by
  refine (registry_of_clears session_clears).bind fun _ => (nowOr_registry).bind fun _ =>
    (registry_of_clears load_clears).bind fun _ => .bind trivial fun _ =>
      (registry_of_clears get_clears).bind fun _ => ?_
  split
  · trivial
  · refine .bind trivial fun _ => ?_
    exact store_registry fun _ => rfl

variable (clock) in
theorem program_clears : ∀ label : Operation F,
    (match label with
      | .registerVehicle _ | .unregisterVehicle _ | .setMode .. | .claimControl ..
      | .renewControl .. => True
      | _ => (program clock label).Everywhere Clears anything)
  | .registerVehicle _ | .unregisterVehicle _ | .setMode .. | .claimControl ..
  | .renewControl .. => trivial
  | .releaseControl .. => releaseControl_clears
  | .expireControlLeases _ => expireControlLeases_clears
  | .connect _ => (clears_of_quiet connect_quiet).bind fun _ => trivial
  | .disconnect .. => disconnect_clears
  | .preflight .. => (clears_of_quiet preflight_quiet).bind fun _ => trivial
  | .arm .. => arm_clears.bind fun _ => trivial
  | .disarm .. => disarm_clears.bind fun _ => trivial
  | .takeoff .. => takeoff_clears.bind fun _ => trivial
  | .hover .. => hover_clears.bind fun _ => trivial
  | .moveRelative .. => moveRelative_clears.bind fun _ => trivial
  | .executeTrajectory .. => executeTrajectory_clears.bind fun _ => trivial
  | .replaceTrajectory .. => replaceTrajectory_clears.bind fun _ => trivial
  | .stopAndHold .. => stopAndHold_clears.bind fun _ => trivial
  | .land .. => land_clears.bind fun _ => trivial
  | .abortAndLand .. => abortAndLand_clears.bind fun _ => trivial
  | .emergencyStop .. => emergencyStop_clears.bind fun _ => trivial
  | .enforceHealth .. => enforceHealth_clears.bind fun _ => trivial
  | .refreshAndEnforceHealth .. =>
    (session_clears.bind fun _ => refresh_clears.bind fun _ => enforceHealth_clears).bind
      fun _ => trivial
  | .observe .. => (clears_of_quiet observe_quiet).bind fun _ => trivial
  | .receiveTelemetry _ => clears_of_quiet receiveTelemetry_quiet
  | .reconcileTerminalAdapterState _ => session_clears.bind fun _ =>
    clears_of_quiet reconcileTerminalAdapterState_quiet
  | .commandReturns _ => clears_of_still commandReturns_still

variable (clock) in
/-- Only the registrations and `set_mode` change the registry, the mode or an authorization. -/
theorem program_registry (label : Operation F) :
    match label with
    | .registerVehicle _ | .unregisterVehicle _ | .setMode .. => True
    | _ => (program clock label).Everywhere SameRegistry anything := by
  have clears := program_clears clock label
  cases label with
  | registerVehicle _ | unregisterVehicle _ | setMode _ _ => trivial
  | claimControl vehicleId ownerId nowS => exact claimControl_registry
  | renewControl vehicleId ownerId nowS => exact renewControl_registry
  | _ => exact registry_of_clears clears

end Registry

section Growth

/-- Every registered session is the object of the vehicle it is registered under. -/
def Catalogued (s : SafetySupervisor F) : Prop :=
  ∀ vehicleId ref, s.sessions.get? vehicleId = some ref →
    ∃ session, s.heap[ref]? = some session ∧ session.vehicle.identity.vehicleId = vehicleId

/-- The object belongs to the vehicle. -/
def Owns (s : SafetySupervisor F) (ref : Nat) (vehicleId : String) : Prop :=
  ∃ session, s.heap[ref]? = some session ∧ session.vehicle.identity.vehicleId = vehicleId

/-- Objects stay those of their vehicles and the registry stays in order. -/
structure Grows (a b : SafetySupervisor F) : Prop where
  catalogued : Catalogued a → Catalogued b
  owns : ∀ ref vehicleId, Owns a ref vehicleId → Owns b ref vehicleId

theorem Grows.refl (s : SafetySupervisor F) : Grows s s := ⟨id, fun _ _ => id⟩

theorem Grows.trans (first : Grows a b) (second : Grows b d) : Grows a d :=
  ⟨second.catalogued ∘ first.catalogued, fun ref vehicleId owns =>
    second.owns ref vehicleId (first.owns ref vehicleId owns)⟩

theorem owns_of_vehicles (vehicles : b.heap.map VehicleSession.vehicle =
    a.heap.map VehicleSession.vehicle) {ref : Nat} {vehicleId : String}
    (owns : Owns a ref vehicleId) : Owns b ref vehicleId := by
  obtain ⟨session, object, identity⟩ := owns
  have same := congrArg (·[ref]?) vehicles
  simp only [List.getElem?_map, object, Option.map_some] at same
  obtain ⟨session', object', vehicle⟩ := Option.map_eq_some_iff.mp same
  exact ⟨session', object', vehicle ▸ identity⟩

theorem Grows.of_same (sessions : b.sessions = a.sessions)
    (vehicles : b.heap.map VehicleSession.vehicle = a.heap.map VehicleSession.vehicle) :
    Grows a b := by
  refine ⟨fun catalogued vehicleId ref found => ?_, fun ref vehicleId => owns_of_vehicles vehicles⟩
  exact owns_of_vehicles vehicles (catalogued vehicleId ref (sessions ▸ found))

theorem SameRegistry.grows (same : SameRegistry a b) : Grows a b :=
  .of_same same.sessions same.vehicles

theorem grows_of_registry {c : Call F α} (same : c.Everywhere SameRegistry anything) :
    c.Everywhere Grows anything :=
  same.mono (fun _ _ => SameRegistry.grows) fun _ _ => trivial

theorem grows_of_clears {c : Call F α} (clears : c.Everywhere Clears anything) :
    c.Everywhere Grows anything :=
  grows_of_registry (registry_of_clears clears)

/-- A new object for a vehicle that is registered now. -/
def enrolled (s : SafetySupervisor F) (vehicle : Vehicle) : SafetySupervisor F :=
  { s with
    sessions := s.sessions.insert vehicle.identity.vehicleId s.heap.length
    heap := s.heap ++ [{ vehicle }] }

theorem enrolled_grows (s : SafetySupervisor F) (vehicle : Vehicle) :
    Grows s (s.enrolled vehicle) := by
  have kept (ref) (vehicleId) (owns : Owns s ref vehicleId) :
      Owns (s.enrolled vehicle) ref vehicleId := by
    obtain ⟨session, object, identity⟩ := owns
    refine ⟨session, ?_, identity⟩
    rw [enrolled, List.getElem?_append_left (List.getElem?_eq_some_iff.mp object).1, object]
  refine ⟨fun catalogued vehicleId ref found => ?_, kept⟩
  rw [enrolled, Dict.get?_insert] at found
  split at found
  · next same =>
    cases found
    exact ⟨{ vehicle }, by simp [enrolled], same⟩
  · exact kept ref vehicleId (catalogued vehicleId ref found)

theorem registerVehicle_grows {vehicle : Vehicle} :
    (registerVehicle clock vehicle).Everywhere Grows anything :=
  (grows_of_clears get_clears).bind fun _ => failUnless_everywhere.bind fun _ =>
    .bind (everywhere_modify.mpr fun s => enrolled_grows s vehicle) fun _ =>
      grows_of_clears event_clears

theorem unregisterVehicle_grows : (unregisterVehicle clock vehicleId).Everywhere Grows anything := by
  refine (grows_of_clears session_clears).bind fun _ =>
    (grows_of_clears load_clears).bind fun _ => failUnless_everywhere.bind fun _ =>
      (grows_of_clears event_clears).bind fun _ => everywhere_modify.mpr fun s => ?_
  refine ⟨fun catalogued other ref found => ?_, fun _ _ => id⟩
  rw [Dict.get?_erase] at found
  split at found
  · cases found
  · exact catalogued other ref found

theorem setMode_grows {mode : OperatingMode} {authorization : Option LiveModeAuthorization} :
    (setMode clock mode authorization).Everywhere Grows anything := by
  have same (change : SafetySupervisor F → SafetySupervisor F)
      (kept : ∀ s, (change s).sessions = s.sessions ∧ (change s).heap = s.heap) :
      (Coroutine.modify change : Call F Unit).Everywhere Grows anything :=
    everywhere_modify.mpr fun s => .of_same (kept s).1 (by rw [(kept s).2])
  have entered : (do
      modify fun s => { s with mode }
      let s ← get
      forEach s.sessions.keys fun vehicleId =>
        event clock fun sequence timestamp =>
          ⟨sequence, timestamp, vehicleId, "MODE_CHANGED", .supervisor,
            "mode changed to " ++ mode.value, none, none, none, []⟩ : Call F Unit).Everywhere
      Grows anything := by
    refine .bind ?_ fun _ => (grows_of_clears get_clears).bind fun _ =>
      forEach_everywhere fun _ _ => grows_of_clears event_clears
    exact same _ fun _ => ⟨rfl, rfl⟩
  have authorized : (authorize mode authorization : Call F Unit).Everywhere Grows anything := by
    cases authorization with
    | none => trivial
    | some given =>
      refine failUnless_everywhere.bind fun _ => (grows_of_clears session_clears).bind fun _ =>
        (grows_of_clears load_clears).bind fun _ => failUnless_everywhere.bind fun _ => ?_
      exact same _ fun _ => ⟨rfl, rfl⟩
  exact (grows_of_clears get_clears).bind fun _ => failUnless_everywhere.bind fun _ =>
    everywhere_ite (authorized.bind fun _ => entered) entered

theorem program_grows (label : Operation F) : (program clock label).Everywhere Grows anything := by
  have registry := program_registry clock label
  cases label with
  | registerVehicle vehicle => exact registerVehicle_grows
  | unregisterVehicle vehicleId => exact unregisterVehicle_grows
  | setMode mode authorization => exact setMode_grows
  | _ => exact grows_of_registry registry

/-- Between any two turns the registry is in order, and every suspended call finds its objects
where it left them. -/
structure Orderly (loop : Loop F) : Prop where
  catalogued : Catalogued loop.state
  settled : loop.Settled Grows

theorem initial_orderly (policy : SafetyPolicy F) : Orderly (initial policy) :=
  ⟨nofun, ⟨fun _ member => absurd member List.not_mem_nil,
    fun _ member => absurd member List.not_mem_nil⟩⟩

theorem step_orderly {loop : Loop F} (orderly : Orderly loop) (turn : Turn F) :
    Orderly (step clock loop turn) := by
  obtain ⟨grows, settled⟩ := EventLoop.step_settled program_grows Grows.refl
    (fun _ _ _ => Grows.trans) orderly.settled turn
  exact ⟨grows.catalogued orderly.catalogued, settled⟩

end Growth

end SafetySupervisor

end CrazySwarm
