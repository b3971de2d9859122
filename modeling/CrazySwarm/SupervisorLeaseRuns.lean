import CrazySwarm.SupervisorLeases

/-! Every operation keeps the leases exclusive, and so does every run in which no call is
disturbed. -/
namespace CrazySwarm
open PyFloat PyMath

variable {F : Type} [PyMath F]

namespace SafetySupervisor
open Coroutine EventLoop

variable {clock : MonotonicClock F} {label : Operation F} {s s' : SafetySupervisor F}
  {first : Begun F} {ref : Nat} {vehicleId ownerId : String} {origin : CommandOrigin}
  {allowExpired : Bool} {P : Begun F → SafetySupervisor F → Prop}

section Commanding

theorem requireFlying_acting (commands : Commands label vehicleId ownerId) :
    Leads clock label (Acting clock label vehicleId ownerId ref) (requireFlying clock ref ownerId)
      (fun _ => Holding clock label vehicleId ownerId ref) nothing :=
  (requireOwnerNow_acting commands.claims).loosely.bind fun _ =>
    (leads_waitless load_tends).loosely.bind fun _ =>
      (leads_waitless failUnless_everywhere).loosely

theorem sendAndRefresh_leads {payload : CommandPayload F} :
    Leads clock label (Holding clock label vehicleId ownerId ref)
      (sendAndRefresh clock ref payload origin) (fun _ => nothing) nothing :=
  send_leads.loosely.bind fun _ => refresh_acting.loosely.bind fun _ => .done fun _ _ _ => trivial

/-- The failure of an arming or a takeoff touches no lease. -/
theorem faultOnFailure_leads {body : Call F α} (commands : Commands label vehicleId ownerId)
    (leads : Leads clock label P body (fun _ => nothing) nothing) :
    Leads clock label P (faultOnFailure clock vehicleId ref body) (fun _ => nothing) nothing := by
  refine leads.rescue fun raised => leads_quiet commands.expires ?_
  refine everywhere_ite ?_ trivial
  refine load_quiet.bind fun current => everywhere_ite ?_ (everywhere_ite ?_ trivial)
  · refine .bind ?_ fun _ => ?_
    · exact store_quiet fun _ => rfl
    · trivial
  · exact transition_quiet.bind fun _ => trivial

theorem requireRealAuthority_tends {may : Awaited F → Prop} :
    (requireRealAuthority ref : Call F Unit).Everywhere (Tends ref) may := by
  refine load_tends.bind fun current => get_tends.bind fun s => ?_
  split
  · trivial
  · trivial
  · exact failUnless_everywhere.bind fun _ => trivial

theorem requirePreflight_tends {reportId : String} {now : F} {may : Awaited F → Prop} :
    (requirePreflight ref ownerId reportId now).Everywhere (Tends ref) may :=
  load_tends.bind fun _ => get_tends.bind fun _ => trivial

theorem heldTelemetry_tends {may : Awaited F → Prop} :
    (heldTelemetry ref : Call F _).Everywhere (Tends ref) may := by
  refine load_tends.bind fun current => ?_
  split <;> trivial

/-- A part without waits of a command whose owner holds the lease. -/
theorem holding_waitless {c : Call F α} (tends : c.Everywhere (Tends ref) fun _ => False) :
    Leads clock label (Holding clock label vehicleId ownerId ref) c
      (fun _ => Holding clock label vehicleId ownerId ref) nothing :=
  (leads_waitless tends).loosely

theorem arm_leads {reportId : String} {nowS : Option F}
    (commands : Commands label vehicleId ownerId) :
    Leads clock label P (arm clock vehicleId ownerId reportId nowS origin)
      (fun _ => nothing) nothing := by
  have now (ref : Nat) : Leads clock label (Acting clock label vehicleId ownerId ref)
      (nowOr clock nowS) (fun _ => Acting clock label vehicleId ownerId ref) nothing := by
    cases nowS with
    | none => exact (leads_acting monotonic_tends).loosely
    | some given => exact .done fun _ _ => id
  refine (session_commands commands).bind fun ref => (now ref).bind fun now =>
    leads_load.loosely.bind fun session => .bind (M := fun _ =>
      Holding clock label vehicleId ownerId ref) ?_ fun _ =>
      (holding_waitless requirePreflight_tends).bind fun _ =>
        (holding_waitless requireRealAuthority_tends).bind fun _ =>
          (holding_waitless transition_tends).bind fun _ => .bind
            (faultOnFailure_leads commands ?_) fun _ => leads_quiet commands.expires
              (transition_quiet.bind fun _ => trivial)
  · exact (requireOwner_leads commands.claims fun _ _ acting => acting.toEntering).weaken
      (fun _ _ => id) (fun _ _ _ => And.left) fun _ _ _ => trivial
  · exact send_leads.loosely.bind fun _ => leads_quiet commands.expires
      (refresh_quiet.bind fun _ => failUnless_everywhere.bind fun _ => trivial)

theorem disarm_leads (commands : Commands label vehicleId ownerId) :
    Leads clock label P (disarm clock vehicleId ownerId origin) (fun _ => nothing) nothing :=
  (session_commands commands).bind fun _ =>
    (requireOwnerNow_acting commands.claims).loosely.bind fun _ =>
      (holding_waitless load_tends).bind fun _ => (holding_waitless failUnless_everywhere).bind
        fun _ => send_leads.loosely.bind fun _ =>
          leads_quiet commands.expires (refresh_quiet.bind fun _ => trivial)

theorem takeoff_leads {heightM durationS : F} (commands : Commands label vehicleId ownerId) :
    Leads clock label P (takeoff clock vehicleId ownerId heightM durationS origin)
      (fun _ => nothing) nothing := by
  have ready (ref : Nat) : Leads clock label (Acting clock label vehicleId ownerId ref)
      (requireCommandReady clock ref ownerId)
      (fun _ => Holding clock label vehicleId ownerId ref) nothing :=
    (requireOwnerNow_acting commands.claims).loosely.bind fun _ =>
      (holding_waitless requireRealAuthority_tends).bind fun _ =>
        (holding_waitless load_tends).bind fun _ =>
          (holding_waitless failUnless_everywhere).bind fun _ =>
            holding_waitless failUnless_everywhere
  refine (session_commands commands).bind fun ref => (ready ref).bind fun _ =>
    (holding_waitless get_tends).bind fun _ => (holding_waitless everywhere_ofResult).bind fun _ =>
      (holding_waitless transition_tends).bind fun _ => .bind (faultOnFailure_leads commands ?_)
        fun _ => leads_quiet commands.expires (transition_quiet.bind fun _ => trivial)
  exact send_leads.loosely.bind fun _ => leads_quiet commands.expires
    (refresh_quiet.bind fun _ => failUnless_everywhere.bind fun _ => trivial)

theorem hover_leads {durationS : F} (commands : Commands label vehicleId ownerId) :
    Leads clock label P (hover clock vehicleId ownerId durationS origin)
      (fun _ => nothing) nothing :=
  (session_commands commands).bind fun _ => (requireFlying_acting commands).bind fun _ =>
    (holding_waitless get_tends).bind fun _ => (holding_waitless everywhere_ofResult).bind fun _ =>
      sendAndRefresh_leads

theorem moveRelative_leads {command : MoveRelativeCommand F}
    (commands : Commands label vehicleId ownerId) :
    Leads clock label P (moveRelative clock vehicleId ownerId command origin)
      (fun _ => nothing) nothing :=
  (session_commands commands).bind fun _ => (requireFlying_acting commands).bind fun _ =>
    (holding_waitless heldTelemetry_tends).bind fun _ => (holding_waitless get_tends).bind fun _ =>
      (holding_waitless everywhere_ofResult).bind fun _ => sendAndRefresh_leads

theorem validateTrajectoryCommand_leads {trajectory : TimeParameterizedTrajectory F}
    (commands : Commands label vehicleId ownerId) :
    Leads clock label P (validateTrajectoryCommand clock vehicleId ownerId trajectory)
      (fun _ first s => ∃ ref, Holding clock label vehicleId ownerId ref first s) nothing := by
  refine (session_commands commands).bind fun ref => (requireFlying_acting commands).bind fun _ =>
    (holding_waitless load_tends).bind fun _ => (holding_waitless failUnless_everywhere).bind
      fun _ => (holding_waitless heldTelemetry_tends).bind fun _ =>
        (holding_waitless get_tends).bind fun _ => ?_
  exact (holding_waitless everywhere_ofResult).weaken (fun _ _ => id)
    (fun _ _ _ holding => ⟨ref, holding⟩) fun _ _ => id

theorem executeTrajectory_leads {trajectory : TimeParameterizedTrajectory F}
    (commands : Commands label vehicleId ownerId) :
    Leads clock label P (executeTrajectory clock vehicleId ownerId trajectory origin)
      (fun _ => nothing) nothing := by
  refine (validateTrajectoryCommand_leads commands).bind fun _ => .bind (M := fun ref =>
    Holding clock label vehicleId ownerId ref) ?_ fun ref => sendAndRefresh_leads
  refine leads_session.weaken (fun _ _ => id) ?_ fun _ _ _ => trivial
  rintro ref first s ⟨registered, found, holding⟩
  cases registered.symm.trans holding.registered
  exact holding

theorem replaceTrajectory_leads {trajectory : TimeParameterizedTrajectory F} {reason : String}
    (commands : Commands label vehicleId ownerId) :
    Leads clock label P (replaceTrajectory clock vehicleId ownerId trajectory reason origin)
      (fun _ => nothing) nothing :=
  (session_commands commands).bind fun _ => (requireFlying_acting commands).bind fun _ =>
    .bind (interruptActiveCommand_acting.weaken (fun _ _ => Holding.acting) (fun _ _ _ => id)
      fun _ _ _ => trivial) fun _ => executeTrajectory_leads commands

theorem stopAndHold_leads (commands : Commands label vehicleId ownerId)
    (again : replaces label = false) :
    Leads clock label P (stopAndHold clock vehicleId ownerId origin) (fun _ => nothing) nothing :=
  (session_commands commands).bind fun _ => (requireFlying_acting commands).bind fun _ =>
    (holding_waitless load_tends).bind fun _ => .ite
      ((interruptActiveCommand_leads again).loosely.bind fun _ => sendAndRefresh_leads)
      sendAndRefresh_leads

theorem land_leads {durationS : F} {target : Option (Vector3 F)}
    {goal : Option (LandingGoalRegion F)} (commands : Commands label vehicleId ownerId)
    (again : replaces label = false) :
    Leads clock label P (land clock vehicleId ownerId durationS target goal origin)
      (fun _ => nothing) nothing := by
  have landing (ref : Nat) : Leads clock label (Holding clock label vehicleId ownerId ref) (do
      transition clock vehicleId .landing origin.source
      let acknowledgement ← send clock ref (.land {
        targetHeightM := (target.map Vector3.z).getD PyFloat.zero
        targetPositionM := target, goalRegion := goal, durationS }) origin
      let _ ← refresh clock ref
      transition clock vehicleId .ready .supervisor
      return acknowledgement : Call F CommandAcknowledgement) (fun _ => nothing) nothing :=
    (holding_waitless transition_tends).bind fun _ => send_leads.loosely.bind fun _ =>
      leads_quiet commands.expires
        (refresh_quiet.bind fun _ => transition_quiet.bind fun _ => trivial)
  exact (session_commands commands).bind fun ref => (requireFlying_acting commands).bind fun _ =>
    (holding_waitless get_tends).bind fun _ => (holding_waitless everywhere_ofResult).bind fun _ =>
      (holding_waitless load_tends).bind fun _ => .ite
        ((interruptActiveCommand_leads again).loosely.bind fun _ => landing ref) (landing ref)

/-- Without its session a call ends at once. -/
theorem session_unregistered {f : Nat → Call F α} (s : SafetySupervisor F)
    (unregistered : s.sessions.get? vehicleId = none) :
    ∃ raised, (session vehicleId >>= f).segment s = (s, raises raised) := by
  refine ⟨.error .identityMismatch ("unknown vehicle: " ++ vehicleId), segment_bind_of_raises ?_⟩
  rw [session, segment_bind_of_returns (segment_get s), unregistered]
  rfl

theorem emergencyStop_leads {reason : String} (commands : Commands label vehicleId ownerId)
    (again : replaces label = false) :
    Leads clock label P (emergencyStop clock vehicleId ownerId reason allowExpired origin)
      (fun _ => nothing) nothing :=
  leads_registered commands session_unregistered fun _ => emergencyStop_acting commands.claims again

theorem abortAndLand_leads {reason : String} (commands : Commands label vehicleId ownerId)
    (again : replaces label = false) :
    Leads clock label P (abortAndLand clock vehicleId ownerId reason allowExpired origin)
      (fun _ => nothing) nothing :=
  leads_registered commands session_unregistered fun _ => abortAndLand_acting commands.claims again

theorem enforceHealth_leads {nowS : Option F} {lowBattery : Bool}
    (commands : Commands label vehicleId ownerId) (again : replaces label = false) :
    Leads clock label P (enforceHealth clock vehicleId ownerId nowS origin lowBattery)
      (fun _ => nothing) nothing := by
  refine (leads_quiet commands.expires (quiet_of_still evaluateHealth_still)).bind
    fun assessment => ?_
  dsimp only
  split
  · exact (session_commands commands).bind fun ref => interruptActiveCommand_acting.loosely.bind
      fun _ => (abortAndLand_leads commands again).bind fun _ => .done fun _ _ _ => trivial
  · exact (session_commands commands).bind fun ref => interruptActiveCommand_acting.loosely.bind
      fun _ => (emergencyStop_leads commands again).bind fun _ => .done fun _ _ _ => trivial
  · exact leads_quiet commands.expires (.bind trivial fun _ => trivial)

theorem refreshAndEnforceHealth_leads {lowBattery : Bool}
    (commands : Commands label vehicleId ownerId) (again : replaces label = false) :
    Leads clock label P (refreshAndEnforceHealth clock vehicleId ownerId origin lowBattery)
      (fun _ => nothing) nothing :=
  (leads_quiet commands.expires session_quiet).bind fun _ =>
    (leads_quiet commands.expires refresh_quiet).bind fun _ => enforceHealth_leads commands again

end Commanding

section Leasing

theorem leads_failUnless {condition : Bool} {code : ErrorCode} {message : String} :
    Leads clock label P (failUnless condition code message)
      (fun _ first s => condition = true ∧ P first s) P := by
  cases condition with
  | false => exact .raises fun _ _ => id
  | true => exact .done fun _ _ holds => ⟨rfl, holds⟩

/-- A single change of the state. -/
theorem leads_modify {change : SafetySupervisor F → SafetySupervisor F}
    (kept : ∀ first s, Exclusive clock label first s → P first s →
      Exclusive clock label first (change s)) :
    Leads clock label P (modify change) (fun _ => nothing) nothing :=
  Keeps.modify fun first s exclusive holds => ⟨kept first s exclusive holds, trivial⟩

/-- A new object has no lease. -/
theorem leaseOf_enrolled (catalogued : Catalogued s) (vehicle : Vehicle)
    (unknown : s.sessions.get? vehicle.identity.vehicleId = none) (vehicleId : String) :
    (s.enrolled vehicle).leaseOf vehicleId = s.leaseOf vehicleId := by
  rw [leaseOf_eq, leaseOf_eq, enrolled, Dict.get?_insert]
  split
  · next same =>
    subst same
    simp [unknown]
  · cases found : s.sessions.get? vehicleId with
    | none => rfl
    | some ref =>
      obtain ⟨session, object, -⟩ := catalogued vehicleId ref found
      have bound := (List.getElem?_eq_some_iff.mp object).1
      simp only [Option.bind_some, List.getElem?_map, List.getElem?_append_left bound]

theorem registerVehicle_leads {vehicle : Vehicle} (same : label = .registerVehicle vehicle) :
    Leads clock label P (registerVehicle clock vehicle) (fun _ => nothing) nothing := by
  have expires (nowS : Option F) : label ≠ .expireControlLeases nowS := by rw [same]; nofun
  refine leads_get.loosely.bind fun found => leads_failUnless.loosely.bind fun _ =>
    .bind (leads_modify ?_) fun _ => leads_quiet expires event_quiet
  rintro first s exclusive ⟨free, rfl, -⟩
  have unknown := Option.isNone_iff_eq_none.mp free
  have leases := leaseOf_enrolled exclusive.catalogued vehicle unknown
  change Exclusive clock label first (found.enrolled vehicle)
  refine exclusive.extend ⟨(enrolled_grows found vehicle).catalogued, ?_, le_rfl⟩ ?_ rfl
    fun _ _ vehicleId => .inl (leases vehicleId)
  · intro vehicleId ref registered
    rw [enrolled, Dict.get?_insert_of_ne, registered]
    rintro rfl
    rw [unknown] at registered
    cases registered
  · intro vehicleId
    rw [holder, leases, holder]

theorem setMode_unleased {mode : OperatingMode} {authorization : Option LiveModeAuthorization} :
    (setMode clock mode authorization).Everywhere Unleased anything := by
  have same (change : SafetySupervisor F → SafetySupervisor F)
      (kept : ∀ s, (change s).sessions = s.sessions ∧ (change s).heap = s.heap ∧
        (change s).sent = s.sent ∧ s.ticks ≤ (change s).ticks) :
      (Coroutine.modify change : Call F Unit).Everywhere Unleased anything := by
    refine everywhere_modify.mpr fun s => ?_
    obtain ⟨sessions, heap, sent, ticks⟩ := kept s
    exact ⟨sessions, by rw [heap], sent, ticks⟩
  have unleased {β : Type} {c : Call F β} (quiet : c.Everywhere Quiet anything) :
      c.Everywhere Unleased anything := quiet.mono (fun _ _ => Quiet.unleased) fun _ => id
  have entered : (do
      modify fun s => { s with mode }
      let s ← get
      forEach s.sessions.keys fun vehicleId =>
        event clock fun sequence timestamp =>
          ⟨sequence, timestamp, vehicleId, "MODE_CHANGED", .supervisor,
            "mode changed to " ++ mode.value, none, none, none, []⟩ : Call F Unit).Everywhere
      Unleased anything := by
    refine .bind ?_ fun _ => (unleased get_quiet).bind fun _ =>
      forEach_everywhere fun _ _ => unleased event_quiet
    exact same _ fun _ => ⟨rfl, rfl, rfl, le_rfl⟩
  have authorized : (authorize mode authorization : Call F Unit).Everywhere Unleased anything := by
    cases authorization with
    | none => trivial
    | some given =>
      refine failUnless_everywhere.bind fun _ => (unleased session_quiet).bind fun _ =>
        (unleased load_quiet).bind fun _ => failUnless_everywhere.bind fun _ => ?_
      exact same _ fun _ => ⟨rfl, rfl, rfl, le_rfl⟩
  exact (unleased get_quiet).bind fun _ => failUnless_everywhere.bind fun _ =>
    everywhere_ite (authorized.bind fun _ => entered) entered

/-- Leads from what the invariant adds to the precondition. -/
theorem Leads.under {M : Begun F → SafetySupervisor F → Prop} {c : Call F α}
    {Q : α → Begun F → SafetySupervisor F → Prop} {E : Begun F → SafetySupervisor F → Prop}
    (leads : Leads clock label M c Q E)
    (holds : ∀ first s, Exclusive clock label first s → P first s → M first s) :
    Leads clock label P c Q E :=
  fun first s exclusive given => leads first s exclusive (holds first s exclusive given)

/-- What lasts while no vehicle is unregistered is there in the end. -/
theorem Leads.frame {lasting : SafetySupervisor F → Prop} {c : Call F α}
    {Q : α → Begun F → SafetySupervisor F → Prop} {E : Begun F → SafetySupervisor F → Prop}
    (leads : Leads clock label P c Q E)
    (lasts : ∀ a b, Persists a b → lasting a → lasting b) :
    Leads clock label (fun first s => lasting first.state ∧ P first s) c
      (fun value first s => lasting first.state ∧ Q value first s)
      fun first s => lasting first.state ∧ E first s := by
  have framed := Keeps.frame (L := fun first : Begun F => lasting first.state) leads ?_
  · refine framed.consequence (fun _ _ => id) ?_
    rintro first (raised | value) s ended
    · exact ended
    · exact ended
  · rintro first on since reply later _ exclusive _ ⟨rfl, persists, -⟩ holds
    exact lasts _ _ (exclusive.persistent.trans persists) holds

theorem newLease_owner {expires : F} {lease : ControlLease F}
    (made : newLease ownerId expires = .ok lease) : lease.ownerId = ownerId := by
  unfold newLease validated at made
  split at made
  · cases made
    rfl
  · cases made

/-- Only the clock moves while a call that has just begun reads it. -/
theorem nowOr_leads {nowS : Option F} {L : SafetySupervisor F → Prop} :
    Leads clock label (fun first s => L s ∧ s = first.state) (nowOr clock nowS)
      (fun now first s => now ∈ instants clock nowS first.state ∧ L first.state ∧
        s.sessions = first.state.sessions ∧ s.heap = first.state.heap) nothing := by
  cases nowS with
  | some now =>
    apply Leads.done
    rintro first s ⟨holds, rfl⟩
    exact ⟨List.mem_singleton_self _, holds, rfl, rfl⟩
  | none =>
    rintro first s exclusive ⟨holds, rfl⟩
    refine meets_bind.mpr (meets_bind.mpr ⟨?_, ?_, holds, rfl, rfl⟩)
    · exact exclusive.extend ⟨id, fun _ _ => id, Nat.le_succ _⟩ (fun _ => rfl) rfl
        fun _ _ _ => .inl rfl
    · exact List.mem_map_of_mem (List.mem_range.mpr (Nat.lt_succ_self _))

theorem claimControl_leads {nowS : Option F} (same : label = .claimControl vehicleId ownerId nowS) :
    Leads clock label (fun first s => s = first.state) (claimControl clock vehicleId ownerId nowS)
      (fun _ => nothing) nothing := by
  have expires (nowS : Option F) : label ≠ .expireControlLeases nowS := by rw [same]; nofun
  refine leads_session.loosely.bind fun ref => nowOr_leads.bind fun now =>
    leads_load.loosely.bind fun current => leads_failUnless.loosely.bind fun _ =>
      leads_get.loosely.bind fun found => Leads.ofResult.loosely.bind fun lease =>
        .bind (leads_modify ?_) fun _ => leads_quiet expires event_quiet
  rintro first s exclusive ⟨made, -, free, object, instant, registered, sessions, heap⟩
  have owner := newLease_owner made
  have registered' : s.sessions.get? vehicleId = some ref := sessions ▸ registered
  change Exclusive clock label first (s.recorded ref (some lease))
  refine exclusive.record registered' (some lease) (fun other began => ?_) (fun other granted => ?_)
    fun nowS expired => absurd expired (expires nowS)
  · by_cases mine : other = ownerId
    · left
      rw [Option.map_some, owner, mine]
    · right
      have lease' : first.state.leaseOf vehicleId = current.lease := by
        simp [leaseOf, held, registered, ← heap, object]
      rw [holder, lease'] at began
      obtain ⟨held, found, rfl⟩ := Option.map_eq_some_iff.mp began
      subst same
      refine ⟨rfl, Option.bind_eq_some_iff.mpr ⟨held, lease'.trans found, ?_⟩⟩
      rw [if_pos]
      refine List.any_eq_true.mpr ⟨now, instant, ?_⟩
      simpa [found, mine] using free
  · right
    rw [Option.map_some, owner] at granted
    cases granted
    exact ⟨nowS, same⟩

theorem renewControl_leads {nowS : Option F} (commands : Commands label vehicleId ownerId) :
    Leads clock label (fun first s => s = first.state) (renewControl clock vehicleId ownerId nowS)
      (fun _ => nothing) nothing := by
  refine leads_session.loosely.bind fun ref => nowOr_leads.bind fun now =>
    leads_load.loosely.bind fun current => .bind (.under (requireOwner_leads commands.claims
      (P := Entering clock label vehicleId ownerId ref) fun _ _ => id).loosely ?_) fun _ =>
      leads_get.loosely.bind fun found => ?_
  · rintro first s - ⟨object, -, registered, sessions, -⟩
    exact ⟨object, sessions ▸ registered, .inl commands.called⟩
  split
  · exact .raises fun _ _ _ => trivial
  · refine Leads.ofResult.loosely.bind fun lease => leads_modify ?_
    rintro first s exclusive ⟨made, -, holding, -⟩
    have owner := newLease_owner made
    change Exclusive clock label first (s.recorded ref (some lease))
    refine exclusive.record holding.registered (some lease) (fun other began => ?_)
      (fun other granted => ?_) fun nowS expired => absurd expired (commands.expires nowS)
    · left
      rw [Option.map_some, owner]
      exact holding.began.symm.trans began
    · left
      rw [Option.map_some, owner] at granted
      exact granted ▸ holding.began

theorem cleared_leads {make : Nat → F → SafetyEvent F}
    (removes : ∀ first s other, Exclusive clock label first s →
      Acting clock label vehicleId ownerId ref first s →
      first.state.holder vehicleId = some other → Removes clock label first vehicleId other) :
    Leads clock label (Acting clock label vehicleId ownerId ref)
      (do store ref ({ · with lease := none }); event clock make : Call F Unit)
      (fun _ => nothing) nothing := by
  refine .bind (M := fun _ => Entering clock label vehicleId ownerId ref) ?_ fun _ =>
    (leads_tends event_tends (fun _ _ => id) fun _ _ _ entering tends =>
      entering.stay tends.sessions).last
  intro first s exclusive acting
  refine ⟨?_, acting.toEntering.stay rfl⟩
  change Exclusive clock label first (s.recorded ref none)
  refine exclusive.record acting.registered none (fun other began => .inr ?_) (fun _ => nofun)
    fun nowS expires => acting.pursues nowS expires
  exact removes first s other exclusive acting began

theorem releaseControl_leads (same : label = .releaseControl vehicleId ownerId allowExpired) :
    Leads clock label P (releaseControl clock vehicleId ownerId allowExpired)
      (fun _ => nothing) nothing := by
  have claims (nowS : Option F) : label ≠ .claimControl vehicleId ownerId nowS := by rw [same]; nofun
  have again : replaces label = false := by rw [same]; rfl
  have removes (ref : Nat) (first : Begun F) (s : SafetySupervisor F) (other : String)
      (exclusive : Exclusive clock label first s)
      (acting : Acting clock label vehicleId ownerId ref first s)
      (began : first.state.holder vehicleId = some other) :
      Removes clock label first vehicleId other := by
    rcases exclusive.removed vehicleId other began with held | removed
    · have left := acting.left (by rw [same]; rfl)
      rw [held] at left
      rcases left with owner | gone
      · subst same
        exact ⟨rfl, (Option.some.inj owner).symm⟩
      · cases gone
    · exact removed
  refine leads_session.loosely.bind fun ref => .bind (.under (requireOwnerNow_leads claims
    (P := Entering clock label vehicleId ownerId ref) (fun _ _ => id) fun first s s' entering tends =>
      entering.stay tends.sessions).loosely ?_) fun _ => ?_
  · rintro first s - ⟨registered, -⟩
    exact ⟨registered, .inl (by rw [same]; rfl)⟩
  · refine (holding_waitless load_tends).bind fun current => .under ?_ fun _ _ _ => Holding.acting
    exact .ite ((abortAndLand_acting claims again).loosely.bind fun _ =>
      cleared_leads (removes ref)) (cleared_leads (removes ref))

theorem instants_persist {nowS : Option F} {a b : SafetySupervisor F} (persists : Persists a b)
    {now : F} (instant : now ∈ instants clock nowS a) : now ∈ instants clock nowS b := by
  cases nowS with
  | some given => exact instant
  | none =>
    obtain ⟨i, before, rfl⟩ := List.mem_map.mp instant
    have bound := List.mem_range.mp before
    have ticks := persists.ticks
    exact List.mem_map_of_mem (List.mem_range.mpr (by omega))

theorem expired_acting {nowS : Option F} {now : F} {current : VehicleSession F}
    {lease : ControlLease F} (same : label = .expireControlLeases nowS)
    (found : current.lease = some lease) (expired : lt now lease.expiresAtMonotonicS = false)
    (exclusive : Exclusive clock label first s) (object : s.heap[ref]? = some current)
    (instant : now ∈ instants clock nowS first.state)
    (registered : first.state.sessions.get? vehicleId = some ref) :
    Acting clock label vehicleId lease.ownerId ref first s := by
  have registered' := exclusive.persists vehicleId ref registered
  have held : s.leaseOf vehicleId = some lease := by
    simp [leaseOf, SafetySupervisor.held, registered', object, found]
  refine ⟨⟨registered', .inr ⟨nowS, same, ?_⟩⟩, fun _ => .inl (by rw [holder, held]; rfl)⟩
  rcases exclusive.touched nowS same vehicleId with untouched | pursued
  · right
    have any : (instants clock nowS first.state).any (!lt · lease.expiresAtMonotonicS) = true :=
      List.any_eq_true.mpr ⟨now, instant, by rw [expired]; rfl⟩
    rw [lapsed, ← untouched, held, Option.bind_some, if_pos any]
    rfl
  · exact pursued

theorem expireControlLease_leads {nowS : Option F} {now : F}
    (same : label = .expireControlLeases nowS) :
    Leads clock label (fun first _ => now ∈ instants clock nowS first.state ∧
        first.state.sessions.get? vehicleId = some ref)
      (expireControlLease clock vehicleId ref now) (fun _ => nothing) nothing := by
  refine leads_load.loosely.bind fun current => ?_
  dsimp only
  split
  · exact .done fun _ _ _ => trivial
  · next lease found =>
    have claims (nowS : Option F) : label ≠ .claimControl vehicleId lease.ownerId nowS := by
      rw [same]; nofun
    have again : replaces label = false := by rw [same]; rfl
    have removes (first : Begun F) (s : SafetySupervisor F) (other : String)
        (_ : Exclusive clock label first s)
        (acting : Acting clock label vehicleId lease.ownerId ref first s)
        (_ : first.state.holder vehicleId = some other) :
        Removes clock label first vehicleId other := by
      have pursued := acting.pursues nowS same
      subst same
      exact pursued
    cases live : lt now lease.expiresAtMonotonicS with
    | true => exact .done fun _ _ _ => trivial
    | false =>
      simp only [Bool.not_false, if_true]
      refine .under (.ite ((abortAndLand_acting claims again).loosely.bind fun _ =>
        cleared_leads removes) (cleared_leads removes)) ?_
      rintro first s exclusive ⟨object, instant, registered⟩
      exact expired_acting same found live exclusive object instant registered

theorem expireControlLeases_leads {nowS : Option F} (same : label = .expireControlLeases nowS) :
    Leads clock label (fun first s => s = first.state) (expireControlLeases clock nowS)
      (fun _ => nothing) nothing := by
  refine .bind (.under (nowOr_leads (L := fun _ => True)) ?_) fun now =>
    leads_get.loosely.bind fun found => ?_
  · exact fun _ _ _ begins => ⟨trivial, begins⟩
  -- the time and the objects of the loop outlast its waits
  have lasts (a b : SafetySupervisor F) (persists : Persists a b)
      (holds : now ∈ instants clock nowS a ∧ ∀ item ∈ found.sessions.items,
        a.sessions.get? item.1 = some item.2) :
      now ∈ instants clock nowS b ∧ ∀ item ∈ found.sessions.items,
        b.sessions.get? item.1 = some item.2 :=
    ⟨instants_persist persists holds.1,
      fun item member => persists.sessions _ _ (holds.2 item member)⟩
  refine (Leads.under (E := nothing) (M := fun first _ => now ∈ instants clock nowS first.state ∧
    ∀ item ∈ found.sessions.items, first.state.sessions.get? item.1 = some item.2)
    (.forEach ?_) ?_).last
  · rintro ⟨vehicleId, ref⟩ member
    refine leads_get.loosely.bind fun current => Leads.check.loosely.bind fun _ => ?_
    have expired := (expireControlLease_leads same : Leads clock label _
      (expireControlLease clock vehicleId ref now) _ _).frame lasts
    refine (expired.under ?_).weaken (fun _ _ => id) (fun _ _ _ => And.left) fun _ _ _ => trivial
    rintro first s - ⟨-, instant, registered⟩
    exact ⟨⟨instant, registered⟩, instant, registered _ member⟩
  · rintro first s - ⟨rfl, instant, -, sessions, -⟩
    refine ⟨instant, fun item member => ?_⟩
    rw [← sessions]
    exact Dict.lookup_of_mem found.sessions.nodup member

end Leasing

section Runs

variable {expiring : Expiring F} {turn : Turn F} {nowS : Option F}

theorem ignoring_leads {body : Call F α}
    (leads : Leads clock label P body (fun _ => nothing) nothing) :
    Leads clock label P (ignoring body) (fun _ => nothing) nothing :=
  leads.bind fun _ => .done fun _ _ _ => trivial

variable (clock) in
theorem program_leads (label : Operation F) (part : leasing label = true) :
    Leads clock label (fun first s => s = first.state) (program clock label)
      (fun _ => nothing) nothing := by
  cases label with
  | registerVehicle vehicle => exact registerVehicle_leads rfl
  | unregisterVehicle vehicleId => cases part
  | setMode mode authorization => exact leads_unleased nofun setMode_unleased
  | claimControl vehicleId ownerId nowS => exact claimControl_leads rfl
  | renewControl vehicleId ownerId nowS => exact renewControl_leads ⟨rfl, rfl, nofun⟩
  | releaseControl vehicleId ownerId allowExpired => exact releaseControl_leads rfl
  | expireControlLeases nowS => exact expireControlLeases_leads rfl
  | connect vehicleId => exact ignoring_leads (leads_quiet nofun connect_quiet)
  | disconnect vehicleId owner => cases part
  | preflight => exact ignoring_leads (leads_quiet nofun preflight_quiet)
  | arm => exact ignoring_leads (arm_leads ⟨rfl, rfl, nofun⟩)
  | disarm => exact ignoring_leads (disarm_leads ⟨rfl, rfl, nofun⟩)
  | takeoff => exact ignoring_leads (takeoff_leads ⟨rfl, rfl, nofun⟩)
  | hover => exact ignoring_leads (hover_leads ⟨rfl, rfl, nofun⟩)
  | moveRelative => exact ignoring_leads (moveRelative_leads ⟨rfl, rfl, nofun⟩)
  | executeTrajectory => exact ignoring_leads (executeTrajectory_leads ⟨rfl, rfl, nofun⟩)
  | replaceTrajectory => exact ignoring_leads (replaceTrajectory_leads ⟨rfl, rfl, nofun⟩)
  | stopAndHold => exact ignoring_leads (stopAndHold_leads ⟨rfl, rfl, nofun⟩ rfl)
  | land => exact ignoring_leads (land_leads ⟨rfl, rfl, nofun⟩ rfl)
  | abortAndLand => exact ignoring_leads (abortAndLand_leads ⟨rfl, rfl, nofun⟩ rfl)
  | emergencyStop => exact ignoring_leads (emergencyStop_leads ⟨rfl, rfl, nofun⟩ rfl)
  | enforceHealth => exact ignoring_leads (enforceHealth_leads ⟨rfl, rfl, nofun⟩ rfl)
  | refreshAndEnforceHealth =>
    exact ignoring_leads (refreshAndEnforceHealth_leads ⟨rfl, rfl, nofun⟩ rfl)
  | observe => exact ignoring_leads (leads_quiet nofun observe_quiet)
  | receiveTelemetry telemetry => exact leads_quiet nofun receiveTelemetry_quiet
  | reconcileTerminalAdapterState vehicleId =>
    exact leads_quiet nofun (session_quiet.bind fun _ => reconcileTerminalAdapterState_quiet)
  | commandReturns vehicleId => exact leads_quiet nofun (quiet_of_still commandReturns_still)

/-- What every segment of every call does to the leases. -/
def leaseContract (clock : MonotonicClock F) : Contract (Operation F) (SafetySupervisor F)
    (Awaited F) (@Reply F _) (Raised F) Unit (Begun F) :=
  .ofBegun (fun label s => Catalogued s ∧ leasing label = true)
    (fun label on since later => Persists since later ∧ Undisturbed label on since later)
    (fun label first on s => Exclusive clock label first s ∧ pursues clock label first on)
    fun label first _ s => Exclusive clock label first s

theorem leaseContract_met : (leaseContract clock).Met (program clock) := by
  rintro label s first ⟨rfl, catalogued, part⟩
  have start : Exclusive clock label ⟨none, s⟩ s := .start catalogued
  exact (program_leads clock label part _ s start rfl).mono fun _ _ _ ended => ended.1

structure Watched (clock : MonotonicClock F) (expiring : Expiring F) : Prop where
  catalogued : Catalogued expiring.loop.state
  sound : expiring.loop.Sound (leaseContract clock)
  since : ∀ task ∈ expiring.loop.tasks, Persists task.since expiring.loop.state
  found : ∀ i nowS since on next ownerId,
    expiring.loop.tasks[i]? = some ⟨.expireControlLeases nowS, since, .wait on next⟩ →
      since.holder on.vehicleId = some ownerId → (i, on.vehicleId, ownerId) ∈ expiring.found

theorem lease_admitted (watched : Watched clock expiring) (calm : Calm expiring turn) :
    expiring.loop.Admitted (program clock) (leaseContract clock) turn := by
  apply admitted_ofBegun
  · rintro label rfl
    exact ⟨watched.catalogued, calm⟩
  · rintro i reply rfl label since on next found
    refine ⟨watched.since _ (List.mem_of_getElem? found), ?_⟩
    simpa only [Calm, found] using calm

theorem found_of_pursued (watched : Watched clock expiring) (calm : Calm expiring turn)
    {before after : SafetySupervisor F} {rest : Call F Unit}
    (moves : moved (program clock) expiring.loop turn =
      some (.expireControlLeases nowS, before, after, rest))
    (pursued : Pursued clock nowS (expiring.loop.begun turn) vehicleId)
    (held : expiring.loop.state.holder vehicleId = some ownerId) :
    (expiring.loop.index turn, vehicleId, ownerId) ∈ (stepExpiring clock expiring turn).found := by
  rcases pursued with ⟨on, reply, resumed, rfl⟩ | expired
  · apply List.mem_append_left
    cases turn with
    | call label => cases resumed
    | resume i reply' =>
      simp only [begun, moved, Calm] at resumed moves calm
      split at moves
      · next label since on' next suspended =>
        simp only [suspended] at resumed calm
        cases resumed
        cases moves
        -- the holder has not changed under the wait
        refine watched.found i nowS since on next ownerId suspended ?_
        rcases calm.2 rfl with same | gone
        · exact same.symm.trans held
        · rw [held] at gone
          cases gone
      · cases moves
  · apply List.mem_append_right
    obtain ⟨owner, lapses⟩ := Option.isSome_iff_exists.mp expired
    rw [begun_state] at lapses
    have same : owner = ownerId := Option.some.inj ((holder_of_lapsed lapses).symm.trans held)
    subst same
    obtain ⟨ref, registered, -⟩ := Option.bind_eq_some_iff.mp ((holder_eq _ _).symm.trans held)
    simp only [finds, moves]
    refine List.mem_filterMap.mpr ⟨vehicleId, ?_, by rw [lapses]; rfl⟩
    exact (Dict.mem_keys_iff _ _).mpr ⟨ref, registered⟩

/-- What the contract promises of an undisturbed turn. -/
theorem exclusive_of_calm (watched : Watched clock expiring) (calm : Calm expiring turn)
    {before after : SafetySupervisor F} {rest : Call F Unit}
    (moves : moved (program clock) expiring.loop turn = some (label, before, after, rest)) :
    Exclusive clock label (expiring.loop.begun turn) after ∧ ∀ on next, rest = .wait on next →
      pursues clock label (expiring.loop.begun turn) on := by
  have admitted := lease_admitted watched calm
  have kept := (step_sound leaseContract_met watched.sound admitted).1
  have promises := promises_begun admitted kept moves
  cases rest with
  | done result => exact ⟨promises, fun _ _ same => by cases same⟩
  | act change next => exact promises.elim
  | wait on next =>
    refine ⟨promises.1, fun _ _ same => ?_⟩
    cases same
    exact promises.2

theorem step_exclusive (watched : Watched clock expiring) (calm : Calm expiring turn) :
    LeaseExclusive clock expiring turn := by
  constructor
  · intro label before after rest vehicleId ownerId moves held
    obtain ⟨exclusive, -⟩ := exclusive_of_calm watched calm moves
    obtain rfl := moved_before moves
    have state := begun_state expiring.loop turn
    rcases exclusive.removed vehicleId ownerId (by rw [state]; exact held) with kept | removed
    · exact .inl kept
    · right
      cases label with
      | releaseControl => exact removed
      | expireControlLeases nowS => exact found_of_pursued watched calm moves removed held
      | claimControl => exact ⟨removed.1, state ▸ removed.2⟩
      | _ => cases removed
  · intro label before after rest vehicleId ownerId moves held
    obtain ⟨exclusive, -⟩ := exclusive_of_calm watched calm moves
    obtain rfl := moved_before moves
    rw [← begun_state expiring.loop turn]
    exact exclusive.granted vehicleId ownerId held
  · intro label before after rest moves
    obtain ⟨exclusive, -⟩ := exclusive_of_calm watched calm moves
    obtain rfl := moved_before moves
    have state := begun_state expiring.loop turn
    obtain ⟨new, sent, held⟩ := exclusive.sent
    refine ⟨new, by rw [sent, state], fun envelope member => ?_⟩
    obtain ⟨ownerId, owner, acts⟩ := held envelope member
    rw [state] at owner
    refine ⟨ownerId, owner, ?_⟩
    rcases acts with called | ⟨nowS, rfl, pursued⟩
    · cases label with
      | expireControlLeases nowS => cases called
      | _ => exact called
    · exact found_of_pursued watched calm moves pursued owner

theorem step_watched (watched : Watched clock expiring) (calm : Calm expiring turn) :
    Watched clock (stepExpiring clock expiring turn) := by
  have whole : Persists expiring.loop.state (step clock expiring.loop turn).state := by
    rw [step, step_state]
    cases moves : moved (program clock) expiring.loop turn with
    | none => exact .refl _
    | some ended =>
      obtain ⟨exclusive, -⟩ := exclusive_of_calm watched calm moves
      exact begun_state expiring.loop turn ▸ exclusive.persistent
  refine ⟨whole.catalogued watched.catalogued,
    (step_sound leaseContract_met watched.sound (lease_admitted watched calm)).2,
    step_since Persists.refl (fun _ _ _ => Persists.trans) whole watched.since, ?_⟩
  intro i nowS since on next ownerId suspended held
  rcases step_task suspended with old | ⟨rfl, moves⟩
  · exact List.mem_append_left _ (watched.found i nowS since on next ownerId old held)
  · obtain ⟨exclusive, pursued⟩ := exclusive_of_calm watched calm moves
    rcases exclusive.granted on.vehicleId ownerId held with began | ⟨nowS', same⟩
    · rw [begun_state] at began
      exact found_of_pursued watched calm moves (pursued on next rfl nowS rfl) began
    · cases same

/-- A supervisor as constructed, before any expiry. -/
def started (policy : SafetyPolicy F) : Expiring F := ⟨initial policy, []⟩

end Runs

section Instances

/-- The adapter completes the command. -/
def completes (task : Nat) : Turn ℚ := .resume task (answer (telemetryOf 4 .flying true true))

/-- The adapter samples the vehicle on the ground. -/
def landed (task : Nat) : Turn ℚ := .resume task (answer (telemetryOf 5 .ready false false))

/-- The lease of a flying vehicle expires, and another owner claims it during the abort. -/
def overtaken : List (Turn ℚ) :=
  flight.take 13 ++ [.call (.expireControlLeases (some 2000)),
    .call (.claimControl "cf01" "relief" (some 3000)), completes 6]

end Instances

end SafetySupervisor

end CrazySwarm
