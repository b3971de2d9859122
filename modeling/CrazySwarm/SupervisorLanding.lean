import CrazySwarm.SupervisorTelemetry
import CrazySwarm.SupervisorSteps

/-! What READY means after a landing. `land` and `abort_and_land` set it on the adapter's
acknowledgement, so the vehicle is on the ground exactly if the answer to their last snapshot,
or the observation that answer is no newer than, says so. -/
namespace CrazySwarm
open PyFloat PyMath

variable {F : Type} [PyMath F]

namespace SafetySupervisor
open Coroutine EventLoop

abbrev Begun (F : Type) [PyMath F] := EventLoop.Begun (SafetySupervisor F) (Awaited F) (@Reply F _)

def observed (known : Option (TelemetryEnvelope F)) (vehicleId : String)
    (sample : TelemetryEnvelope F) : Option (TelemetryEnvelope F) :=
  if sample.vehicleId = vehicleId then
    if known.any (staleAgainst · sample) then known else some sample
  else known

/-- A segment that begins with an answered snapshot ends with the answer delivered. -/
def Observes (first : Begun F) (s : SafetySupervisor F) : Prop :=
  ∀ vehicleId sample, first.resumed = some ⟨.snapshot vehicleId, .ok sample⟩ →
    (first.state.sessions.get? vehicleId).isSome = true →
      s.stored vehicleId = observed (first.state.stored vehicleId) vehicleId sample

/-- Across a wait objects keep their vehicles. -/
def ready (on : Awaited F) (since : SafetySupervisor F) (reply : Reply on)
    (later : SafetySupervisor F) (first : Begun F) : Prop :=
  first = ⟨some ⟨on, reply⟩, later⟩ ∧ Grows since later

structure SameObservations (a b : SafetySupervisor F) : Prop where
  sessions : b.sessions = a.sessions
  observations : b.heap.map VehicleSession.telemetry = a.heap.map VehicleSession.telemetry

variable {clock : MonotonicClock F} {a b d s : SafetySupervisor F} {first : Begun F} {ref : Nat}
  {vehicleId ownerId : String} {origin : CommandOrigin}

theorem stored_eq (s : SafetySupervisor F) (vehicleId : String) :
    s.stored vehicleId = (s.sessions.get? vehicleId).bind fun ref =>
      ((s.heap.map VehicleSession.telemetry)[ref]?).bind id := by
  unfold stored held
  cases s.sessions.get? vehicleId with
  | none => rfl
  | some ref =>
    simp only [Option.bind_some, List.getElem?_map]
    cases s.heap[ref]? <;> rfl

theorem SameObservations.stored (same : SameObservations a b) (vehicleId : String) :
    b.stored vehicleId = a.stored vehicleId := by
  rw [stored_eq, stored_eq, same.sessions, same.observations]

theorem Still.same (still : Still a b) : SameObservations a b :=
  ⟨still.sessions, still.observations⟩

theorem Still.grows (still : Still a b) : Grows a b := still.sameRegistry.grows

theorem Observes.same (observes : Observes first a) (same : SameObservations a b) :
    Observes first b := fun vehicleId sample resumed registered =>
  (same.stored vehicleId).trans (observes vehicleId sample resumed registered)

section Receive

variable {rel : Begun F → Awaited F → SafetySupervisor F → Prop}
  {post : Begun F → Except (Raised F) Unit → SafetySupervisor F → Prop}

/-- A delivered sample changes the observation of its own vehicle alone. -/
structure Received (telemetry : TelemetryEnvelope F) (a b : SafetySupervisor F) : Prop where
  registry : SameRegistry a b
  stored : ∀ vehicleId, (a.sessions.get? vehicleId).isSome = true →
    b.stored vehicleId = observed (a.stored vehicleId) vehicleId telemetry

theorem receiveTelemetry_meets (catalogued : Catalogued s) {telemetry : TelemetryEnvelope F}
    (ends : ∀ result s', Received telemetry s s' → post first result s') :
    (receiveTelemetry clock telemetry).Meets rel ready post first s := by
  cases found : s.sessions.get? telemetry.vehicleId with
  | none =>
    refine meets_bind.mpr (meets_bind.mpr ?_)
    simp only [meets_get, found]
    refine ends _ s ⟨.refl s, fun vehicleId registered => ?_⟩
    rw [observed, if_neg]
    rintro rfl
    rw [found] at registered
    cases registered
  | some ref =>
    obtain ⟨session, object, identity⟩ := catalogued _ ref found
    rw [← meets_segment, receiveTelemetry_segment found object identity]
    have known : s.stored telemetry.vehicleId = session.telemetry := by
      simp [SafetySupervisor.stored, held, found, object]
    cases stale : session.telemetry.any (staleAgainst · telemetry) with
    | true =>
      refine ends _ s ⟨.refl s, fun vehicleId registered => ?_⟩
      by_cases same : telemetry.vehicleId = vehicleId
      · subst same
        rw [observed, if_pos rfl, known, if_pos stale]
      · rw [observed, if_neg same]
    | false =>
      have fresh : ¬ session.telemetry.any (staleAgainst · telemetry) = true := by simp [stale]
      refine ends _ (accepted clock s ref telemetry)
        ⟨⟨rfl, rfl, rfl, ?_⟩, fun vehicleId registered => ?_⟩
      · refine map_modify_of_same _ _ ?_ s.heap ref
        exact fun _ => rfl
      by_cases same : telemetry.vehicleId = vehicleId
      · subst same
        rw [observed, if_pos rfl, known, if_neg fresh]
        simp [SafetySupervisor.stored, held, accepted, found, object]
      · rw [observed, if_neg same]
        -- two vehicles never share an object
        obtain ⟨other, found'⟩ := Option.isSome_iff_exists.mp registered
        obtain ⟨session', object', identity'⟩ := catalogued vehicleId other found'
        have apart : ref ≠ other := by
          rintro rfl
          rw [object] at object'
          cases object'
          exact same (identity.symm.trans identity')
        simp [SafetySupervisor.stored, held, accepted, found',
          List.getElem?_modify_ne _ _ apart]

end Receive

section Watching

/-- The call delivers every answered snapshot, whatever else happens meanwhile. -/
def Watches (c : Call F α) : Prop :=
  c.Keeps Observes (fun _ _ => True) ready (fun _ => Catalogued) fun _ _ => Catalogued

theorem Watches.bind {c : Call F α} {f : α → Call F β} (front : Watches c)
    (rest : ∀ value, Watches (f value)) : Watches (c >>= f) :=
  Keeps.seq front rest

theorem Watches.handle {c : Call F α} {f : Except (Raised F) α → Call F β} (front : Watches c)
    (rest : ∀ result, Watches (f result)) : Watches (c.handle f) :=
  Keeps.handle front rest

theorem Watches.rescue {c : Call F α} {f : Raised F → Call F α} (front : Watches c)
    (rest : ∀ raised, Watches (f raised)) : Watches (c.rescue f) :=
  Keeps.rescue front (fun _ _ _ => id) rest

theorem Watches.done {result : Except (Raised F) α} : Watches (done result : Call F α) :=
  Keeps.done fun _ _ => id

theorem Watches.ite {condition : Prop} [Decidable condition] {yes no : Call F α}
    (left : Watches yes) (right : Watches no) : Watches (if condition then yes else no) := by
  split
  · exact left
  · exact right

theorem Watches.forEach {items : List α} {body : α → Call F Unit}
    (every : ∀ item, Watches (body item)) : Watches (forEach items body) := by
  induction items with
  | nil => exact Watches.done
  | cons item rest ih => exact (every item).bind fun _ => ih

theorem watches_of_still {c : Call F α} (still : c.Everywhere Still commanding) : Watches c := by
  refine still.keeps (fun _ _ _ observes catalogued small =>
    ⟨observes.same small.same, small.grows.catalogued catalogued⟩) (fun _ _ _ _ _ => trivial) ?_
  rintro _ on s reply later first waits ⟨rfl, grows⟩ _ catalogued
  refine ⟨fun vehicleId sample resumed => ?_, grows.catalogued catalogued⟩
  cases on <;> first | exact False.elim waits | cases resumed

theorem watches_modify {change : SafetySupervisor F → SafetySupervisor F}
    (same : ∀ s, SameObservations s (change s)) (grows : ∀ s, Grows s (change s)) :
    Watches (Coroutine.modify change : Call F Unit) :=
  Keeps.modify fun _ s observes catalogued =>
    ⟨observes.same (same s), (grows s).catalogued catalogued⟩

theorem store_watches {change : VehicleSession F → VehicleSession F}
    (same : ∀ session, (change session).telemetry = session.telemetry ∧
      (change session).vehicle = session.vehicle) : Watches (store ref change) :=
  watches_modify (fun _ => ⟨rfl, map_modify_of_same _ _ (fun session => (same session).1) _ _⟩)
    fun _ => .of_same rfl (map_modify_of_same _ _ (fun session => (same session).2) _ _)

/-- An awaited snapshot is delivered before anything else happens. -/
theorem snapshot_watches {f : Except (Raised F) (TelemetryEnvelope F) → Call F α}
    (fails : ∀ raised, Watches (f (.error raised)))
    (answered : ∀ telemetry first later, Catalogued later →
      first = ⟨some ⟨.snapshot vehicleId, .ok telemetry⟩, later⟩ →
        (f (.ok telemetry)).Meets (fun first _ s => Observes first s ∧ True) ready
          (fun first _ s => Observes first s ∧ Catalogued s) first later) :
    Watches ((awaitSnapshot vehicleId).handle f) := by
  refine Keeps.wait (fun _ _ _ => trivial) fun _ _ reply later first _ catalogued resumed => ?_
  obtain ⟨rfl, grows⟩ := resumed
  have catalogued' := grows.catalogued catalogued
  cases reply with
  | error raised => exact fails raised _ _ (fun _ _ resumed => by cases resumed) catalogued'
  | ok telemetry => exact answered telemetry _ later catalogued' rfl

/-- Delivering the sample that the segment began with. -/
theorem receiveTelemetry_watches {telemetry : TelemetryEnvelope F} {f : Unit → Call F α}
    (rest : Watches (f ())) (catalogued : Catalogued s)
    (began : first = ⟨some ⟨.snapshot vehicleId, .ok telemetry⟩, s⟩) :
    (receiveTelemetry clock telemetry >>= f).Meets (fun first _ s => Observes first s ∧ True) ready
      (fun first _ s => Observes first s ∧ Catalogued s) first s := by
  refine meets_bind.mpr (receiveTelemetry_meets catalogued fun result s' received => ?_)
  have observes : Observes first s' := by
    subst began
    rintro _ _ ⟨⟩ registered
    exact received.stored vehicleId registered
  have catalogued' := received.registry.grows.catalogued catalogued
  cases result with
  | error raised => exact ⟨observes, catalogued'⟩
  | ok value => exact rest first s' observes catalogued'

theorem refresh_watches : Watches (refresh clock ref) :=
  (watches_of_still load_still).bind fun _ => snapshot_watches (fun _ => Watches.done)
    fun _ _ _ catalogued began => receiveTelemetry_watches Watches.done catalogued began

theorem reconcileTerminalAdapterState_watches :
    Watches (reconcileTerminalAdapterState clock ref) := by
  refine (watches_of_still load_still).bind fun current => snapshot_watches ?_ ?_
  · exact fun _ => .ite .done .done
  · intro telemetry first s catalogued began
    dsimp only
    split
    · next other =>
      -- a sample of another vehicle is dropped
      refine ⟨?_, catalogued⟩
      subst began
      rintro _ _ ⟨⟩ registered
      rw [observed, if_neg (by simpa using other)]
    · refine receiveTelemetry_watches ?_ catalogued began
      refine (watches_of_still load_still).bind fun current => ?_
      split
      · exact .ite (watches_of_still transition_still) .done
      · exact .done

theorem send_watches {payload : CommandPayload F} : Watches (send clock ref payload origin) := by
  refine Watches.done.bind fun _ => (watches_of_still nextCommandSequence_still).bind fun _ =>
    (watches_of_still load_still).bind fun _ => (watches_of_still monotonic_still).bind fun _ =>
      (watches_of_still get_still).bind fun _ => Watches.done.bind fun _ =>
        .bind ?_ fun _ => (watches_of_still event_still).bind fun _ =>
          (watches_of_still extendLease_still).bind fun _ => .bind (.rescue ?_ ?_) fun _ =>
            Watches.done.bind fun _ => (watches_of_still extendLease_still).bind fun _ =>
              (watches_of_still event_still).bind fun _ => .done
  · exact watches_modify (fun _ => ⟨rfl, rfl⟩) fun _ => .of_same rfl rfl
  · exact watches_of_still runCommand_still
  · intro raised
    refine .ite ?_ (.ite ?_ .done)
    · exact (reconcileTerminalAdapterState_watches).bind fun _ => .done
    · exact (watches_of_still event_still).bind fun _ => .done

theorem emergencyStop_watches {reason : String} {allowExpired : Bool} :
    Watches (emergencyStop clock vehicleId ownerId reason allowExpired origin) :=
  (watches_of_still session_still).bind fun _ => (watches_of_still requireOwnerNow_still).bind
    fun _ => (watches_of_still interruptActiveCommand_still).bind fun _ =>
      (watches_of_still transition_still).bind fun _ => (send_watches).bind fun _ =>
        (watches_of_still event_still).bind fun _ => (refresh_watches).bind fun _ => .done

theorem refreshAfterAbort_watches :
    Watches (refreshAfterAbort clock vehicleId ownerId ref) := by
  apply (refresh_watches).handle
  rintro (raised | telemetry)
  · refine .ite (.bind (.rescue ?_ ?_) fun _ => .done) .done
    · exact (emergencyStop_watches).bind fun _ => .done
    · exact fun _ => .ite .done .done
  · exact .done

theorem abortAndLand_watches {reason : String} {allowExpired : Bool} :
    Watches (abortAndLand clock vehicleId ownerId reason allowExpired origin) :=
  (watches_of_still session_still).bind fun _ => (watches_of_still requireOwnerNow_still).bind
    fun _ => (watches_of_still load_still).bind fun _ => Watches.done.bind fun _ =>
      (watches_of_still interruptActiveCommand_still).bind fun _ =>
        (watches_of_still transition_still).bind fun _ => (send_watches).bind fun _ =>
          (watches_of_still transition_still).bind fun _ => (refreshAfterAbort_watches).bind
            fun _ => (watches_of_still transition_still).bind fun _ => .done

theorem land_watches {durationS : F} {target : Option (Vector3 F)}
    {goal : Option (LandingGoalRegion F)} :
    Watches (land clock vehicleId ownerId durationS target goal origin) := by
  have landing : ∀ ref : Nat, Watches (do
      transition clock vehicleId .landing origin.source
      let acknowledgement ← send clock ref (.land {
        targetHeightM := (target.map Vector3.z).getD PyFloat.zero
        targetPositionM := target, goalRegion := goal, durationS }) origin
      let _ ← refresh clock ref
      transition clock vehicleId .ready .supervisor
      return acknowledgement : Call F CommandAcknowledgement) := fun ref =>
    (watches_of_still transition_still).bind fun _ => (send_watches).bind fun _ =>
      (refresh_watches).bind fun _ => (watches_of_still transition_still).bind fun _ => .done
  exact (watches_of_still session_still).bind fun ref => (watches_of_still requireFlying_still).bind
    fun _ => (watches_of_still get_still).bind fun _ => Watches.done.bind fun _ =>
      (watches_of_still load_still).bind fun _ => .ite
        ((watches_of_still interruptActiveCommand_still).bind fun _ => landing ref) (landing ref)

theorem releaseControl_watches {allowExpired : Bool} :
    Watches (releaseControl clock vehicleId ownerId allowExpired) := by
  have released (ref : Nat) : Watches (do
      store ref ({ · with lease := none })
      event clock fun sequence timestamp =>
        ⟨sequence, timestamp, vehicleId, "CONTROL_RELEASED", .supervisor,
          "control released by " ++ ownerId, none, none, none, []⟩ : Call F Unit) := by
    refine .bind ?_ fun _ => watches_of_still event_still
    exact store_watches fun _ => ⟨rfl, rfl⟩
  exact (watches_of_still session_still).bind fun ref =>
    (watches_of_still requireOwnerNow_still).bind fun _ => (watches_of_still load_still).bind
      fun _ => .ite ((abortAndLand_watches).bind fun _ => released ref) (released ref)

theorem expireControlLease_watches {now : F} :
    Watches (expireControlLease clock vehicleId ref now) := by
  refine (watches_of_still load_still).bind fun current => ?_
  split
  · exact .done
  · next lease _ =>
    have expired : Watches (do
        store ref ({ · with lease := none })
        event clock fun sequence timestamp =>
          ⟨sequence, timestamp, vehicleId, "CONTROL_EXPIRED", .supervisor,
            "control lease expired for " ++ lease.ownerId, none, none, none, []⟩ :
        Call F Unit) := by
      refine .bind ?_ fun _ => watches_of_still event_still
      exact store_watches fun _ => ⟨rfl, rfl⟩
    exact .ite (.ite ((abortAndLand_watches).bind fun _ => expired) expired) .done

theorem expireControlLeases_watches {nowS : Option F} :
    Watches (expireControlLeases clock nowS) :=
  (watches_of_still nowOr_still).bind fun _ => (watches_of_still get_still).bind fun _ =>
    .forEach fun _ => (watches_of_still get_still).bind fun _ => Watches.done.bind fun _ =>
      expireControlLease_watches

theorem enforceHealth_watches {nowS : Option F} {lowBattery : Bool} :
    Watches (enforceHealth clock vehicleId ownerId nowS origin lowBattery) := by
  refine (watches_of_still evaluateHealth_still).bind fun assessment => ?_
  dsimp only
  split
  · exact (watches_of_still session_still).bind fun _ =>
      (watches_of_still interruptActiveCommand_still).bind fun _ => (abortAndLand_watches).bind
        fun _ => .done
  · exact (watches_of_still session_still).bind fun _ =>
      (watches_of_still interruptActiveCommand_still).bind fun _ => emergencyStop_watches.bind
        fun _ => .done
  · exact Watches.done.bind fun _ => .done

theorem refreshAndEnforceHealth_watches {lowBattery : Bool} :
    Watches (refreshAndEnforceHealth clock vehicleId ownerId origin lowBattery) :=
  (watches_of_still session_still).bind fun _ => refresh_watches.bind fun _ =>
    enforceHealth_watches

end Watching

section Returning

/-- What a landing call returns with: a snapshot of its vehicle has just been answered, and the
vehicle is READY. -/
def Landed (vehicleId : String) (first : Begun F) (result : Except (Raised F) α)
    (s : SafetySupervisor F) : Prop :=
  ∀ value, result = .ok value →
    (∃ sample, first.resumed = some ⟨.snapshot vehicleId, .ok sample⟩) ∧
    (first.state.sessions.get? vehicleId).isSome = true ∧
    ∃ session, s.held vehicleId = some session ∧ session.state = .ready

/-- The segments of a landing call are only judged by what it returns with. -/
def anySegment : Begun F → Awaited F → SafetySupervisor F → Prop := fun _ _ _ => True

theorem landed_error {raised : Raised F} :
    Landed vehicleId first (.error raised : Except (Raised F) α) s := nofun

theorem transition_meets {rel : Begun F → Awaited F → SafetySupervisor F → Prop}
    {post : Begun F → Except (Raised F) Unit → SafetySupervisor F → Prop} {target : VehicleState}
    {source : CommandSource} (fails : ∀ raised, post first (.error raised) s)
    (moves : ∀ (session : VehicleSession F) s', SameRegistry s s' →
      s'.held vehicleId = some { session with state := target } → post first (.ok ()) s') :
    (transition clock vehicleId target source).Meets rel ready post first s := by
  cases found : s.sessions.get? vehicleId with
  | none =>
    refine meets_bind.mpr (meets_bind.mpr ?_)
    simp only [meets_get, found]
    exact fails _
  | some ref =>
    cases object : s.heap[ref]? with
    | none =>
      refine meets_bind.mpr (meets_bind.mpr ?_)
      simp only [meets_get, found]
      refine meets_bind.mpr (meets_bind.mpr ?_)
      simp only [meets_get, object]
      exact fails _
    | some session =>
      refine meets_bind.mpr (meets_bind.mpr ?_)
      simp only [meets_get, found]
      refine meets_bind.mpr (meets_bind.mpr ?_)
      simp only [meets_get, object]
      refine meets_bind.mpr ?_
      cases canTransition session.state target with
      | false => exact fails _
      | true =>
        refine moves session _ ⟨rfl, rfl, rfl, ?_⟩ ?_
        · refine map_modify_of_same _ _ ?_ s.heap ref
          exact fun _ => rfl
        · simp [held, found, object]

theorem landed_after {c : Call F β} {f : β → Call F α} (every : c.Everywhere Grows anything)
    (catalogued : Catalogued s) (owns : Owns s ref vehicleId)
    (rest : ∀ value first s, Catalogued s → Owns s ref vehicleId →
      (f value).Meets anySegment ready (Landed vehicleId) first s) :
    (c >>= f).Meets anySegment ready (Landed vehicleId) first s := by
  have kept : c.Keeps (fun _ _ => True) (fun _ _ => True) ready
      (fun _ s => Catalogued s ∧ Owns s ref vehicleId)
      fun _ _ s => Catalogued s ∧ Owns s ref vehicleId := by
    refine every.keeps ?_ (fun _ _ _ _ _ => trivial) ?_
    · exact fun _ _ _ _ holds grows =>
        ⟨trivial, grows.catalogued holds.1, grows.owns _ _ holds.2⟩
    · exact fun _ _ _ _ _ _ _ resumes _ holds =>
        ⟨trivial, resumes.2.catalogued holds.1, resumes.2.owns _ _ holds.2⟩
  refine meets_bind.mpr ((kept first s trivial ⟨catalogued, owns⟩).weaken
    (fun _ _ _ _ => trivial) ?_)
  rintro first (raised | value) s ⟨_, catalogued, owns⟩
  · exact landed_error
  · exact rest value first s catalogued owns

theorem session_landed {f : Nat → Call F α} (catalogued : Catalogued s)
    (rest : ∀ ref, Owns s ref vehicleId →
      (f ref).Meets anySegment ready (Landed vehicleId) first s) :
    (session vehicleId >>= f).Meets anySegment ready (Landed vehicleId) first s := by
  refine meets_bind.mpr (meets_bind.mpr ?_)
  simp only [meets_get]
  cases found : s.sessions.get? vehicleId with
  | none => exact landed_error
  | some ref => exact rest ref (catalogued vehicleId ref found)

theorem refresh_landed {f : Except (Raised F) (TelemetryEnvelope F) → Call F Unit}
    {acknowledgement : CommandAcknowledgement} (catalogued : Catalogued s)
    (owns : Owns s ref vehicleId) (succeeds : ∀ telemetry, f (.ok telemetry) = returns ())
    (fails : ∀ raised first s, (f (.error raised)).Meets anySegment ready
      (fun _ result _ => ∃ raised, result = .error raised) first s) :
    ((refresh clock ref).handle f >>= fun _ => do
      transition clock vehicleId .ready .supervisor
      return acknowledgement : Call F CommandAcknowledgement).Meets anySegment ready
        (Landed vehicleId) first s := by
  obtain ⟨session, object, identity⟩ := owns
  have failed (raised) (first) (s) : ((f (.error raised)) >>= fun _ => do
      transition clock vehicleId .ready .supervisor
      return acknowledgement : Call F CommandAcknowledgement).Meets anySegment ready
        (Landed vehicleId) first s := by
    refine meets_bind.mpr ((fails raised first s).mono ?_)
    rintro first _ s ⟨raised, rfl⟩
    exact landed_error
  refine meets_bind.mpr (meets_handle.mpr (meets_bind.mpr (meets_bind.mpr ?_)))
  simp only [meets_get, object]
  refine meets_bind.mpr ⟨trivial, fun reply later resumed resumes => ?_⟩
  obtain ⟨rfl, grows⟩ := resumes
  have catalogued' := grows.catalogued catalogued
  cases reply with
  | error raised =>
    rw [meets_done]
    exact meets_bind.mp (failed raised _ later)
  | ok telemetry =>
    refine meets_bind.mpr (receiveTelemetry_meets catalogued' fun result s' received => ?_)
    cases result with
    | error raised => exact meets_bind.mp (failed raised _ _)
    | ok value =>
      simp only [meets_pure, succeeds]
      refine meets_bind.mpr (transition_meets (fun _ => landed_error) fun session' s'' same held => ?_)
      intro _ _
      refine ⟨⟨telemetry, by rw [identity]⟩, ?_, _, held, rfl⟩
      have registered : (s''.sessions.get? vehicleId).isSome = true := by
        obtain ⟨ref', found, _⟩ := held_eq_some.mp held
        rw [found]
        rfl
      rw [same.sessions, received.registry.sessions] at registered
      exact registered

theorem land_landed {durationS : F} {target : Option (Vector3 F)}
    {goal : Option (LandingGoalRegion F)} (catalogued : Catalogued s) :
    (land clock vehicleId ownerId durationS target goal origin).Meets anySegment ready
      (Landed vehicleId) first s := by
  have landing (ref : Nat) (first : Begun F) (s : SafetySupervisor F) (catalogued : Catalogued s)
      (owns : Owns s ref vehicleId) : (do
      transition clock vehicleId .landing origin.source
      let acknowledgement ← send clock ref (.land {
        targetHeightM := (target.map Vector3.z).getD PyFloat.zero
        targetPositionM := target, goalRegion := goal, durationS }) origin
      let _ ← refresh clock ref
      transition clock vehicleId .ready .supervisor
      return acknowledgement : Call F CommandAcknowledgement).Meets anySegment ready
        (Landed vehicleId) first s := by
    refine landed_after (grows_of_clears transition_clears) catalogued owns
      fun _ first s catalogued owns => landed_after (grows_of_clears send_clears) catalogued
        owns fun acknowledgement first s catalogued owns => ?_
    have last : ((refresh clock ref).handle (fun result => ofResult (result.map fun _ => ())) >>=
        fun _ => do
        transition clock vehicleId .ready .supervisor
        return acknowledgement : Call F CommandAcknowledgement).Meets anySegment ready
          (Landed vehicleId) first s :=
      refresh_landed catalogued owns (fun _ => rfl) fun raised _ _ => ⟨raised, rfl⟩
    refine meets_bind.mpr ((meets_handle.mp (meets_bind.mp last)).mono ?_)
    rintro first (raised | telemetry) s ended
    · exact ended
    · exact ended
  refine session_landed catalogued fun ref owns => landed_after
    (grows_of_clears requireFlying_clears) catalogued owns fun _ first s catalogued owns =>
      landed_after (grows_of_clears get_clears) catalogued owns fun _ first s catalogued owns =>
        landed_after everywhere_ofResult catalogued owns fun _ first s catalogued owns =>
          landed_after (grows_of_clears load_clears) catalogued owns
            fun current first s catalogued owns => ?_
  dsimp only
  split
  · exact landed_after (grows_of_clears interruptActiveCommand_clears) catalogued owns
      fun _ first s catalogued owns => landing ref first s catalogued owns
  · exact landing ref first s catalogued owns

theorem abortAndLand_landed {reason : String} {allowExpired : Bool} (catalogued : Catalogued s) :
    (abortAndLand clock vehicleId ownerId reason allowExpired origin).Meets anySegment ready
      (Landed vehicleId) first s := by
  refine session_landed catalogued fun ref owns => landed_after
    (grows_of_clears (clears_of_still requireOwnerNow_still)) catalogued owns
    fun _ first s catalogued owns => landed_after (grows_of_clears load_clears) catalogued owns
      fun current first s catalogued owns => landed_after failUnless_everywhere catalogued owns
        fun _ first s catalogued owns => landed_after
          (grows_of_clears interruptActiveCommand_clears) catalogued owns
          fun _ first s catalogued owns => landed_after (grows_of_clears transition_clears)
            catalogued owns fun _ first s catalogued owns => landed_after
              (grows_of_clears send_clears) catalogued owns
              fun acknowledgement first s catalogued owns => landed_after
                (grows_of_clears transition_clears) catalogued owns
                fun _ first s catalogued owns => refresh_landed catalogued owns (fun _ => rfl) ?_
  -- an abort whose completion was not observed raises, whatever the emergency stop does
  intro raised first s
  dsimp only
  split
  · refine meets_bind.mpr (Meets.of_forall (fun _ _ _ => trivial) ?_ _)
    rintro first (_ | _) s
    · exact ⟨_, rfl⟩
    · exact ⟨_, rfl⟩
  · exact ⟨_, rfl⟩

end Returning

section Runs

def landing : Operation F → Option String
  | .land vehicleId .. | .abortAndLand vehicleId .. => some vehicleId
  | _ => none

/-- The calls that land a vehicle, or abort on its behalf. -/
def lands : Operation F → Bool
  | .land .. | .abortAndLand .. | .releaseControl .. | .expireControlLeases _
  | .enforceHealth .. | .refreshAndEnforceHealth .. => true
  | _ => false

def isReady (s : SafetySupervisor F) (vehicleId : String) : Bool :=
  (s.held vehicleId).any (·.state == .ready)

/-- The latest observation reports the vehicle neither flying nor armed. -/
def onGround (s : SafetySupervisor F) (vehicleId : String) : Bool :=
  (s.stored vehicleId).any (·.telemetry.landed)

/-- The turn answers a snapshot of the vehicle, and the answer, or the observation it is no
newer than, reports the vehicle neither flying nor armed. -/
def AnswersLanded (loop : Loop F) (turn : Turn F) (vehicleId : String) : Prop :=
  ∃ sample, (loop.begun turn).resumed = some ⟨.snapshot vehicleId, .ok sample⟩ ∧
    (observed (loop.state.stored vehicleId) vehicleId sample).any (·.telemetry.landed) = true

variable (clock) in
/-- A landing call that returns at the turn leaves the vehicle either on the ground or not
READY. -/
def ReadyMeansLanded (loop : Loop F) (turn : Turn F) : Prop :=
  ∀ label before after rest vehicleId,
    moved (program clock) loop turn = some (label, before, after, rest) →
    landing label = some vehicleId → rest.succeeded = true →
      after.isReady vehicleId = true → after.onGround vehicleId = true

variable (clock) in
structure LandsAsAnswered (loop : Loop F) (turn : Turn F) : Prop where
  returned : ∀ label before after rest vehicleId,
    moved (program clock) loop turn = some (label, before, after, rest) →
    landing label = some vehicleId → rest.succeeded = true → after.isReady vehicleId = true ∧
      (after.onGround vehicleId = true ↔ AnswersLanded loop turn vehicleId)
  delivered : ∀ label before after rest vehicleId sample,
    moved (program clock) loop turn = some (label, before, after, rest) →
    lands label = true → (loop.begun turn).resumed = some ⟨.snapshot vehicleId, .ok sample⟩ →
    (loop.state.sessions.get? vehicleId).isSome = true →
      (after.onGround vehicleId = true ↔ AnswersLanded loop turn vehicleId)

/-- What every segment of a landing call does. -/
def landingContract : Contract (Operation F) (SafetySupervisor F) (Awaited F) (@Reply F _)
    (Raised F) Unit (Begun F) :=
  .ofBegun (fun _ => Catalogued) (fun _ _ => Grows)
    (fun label first _ s => lands label = true → Observes first s)
    fun label first result s => (lands label = true → Observes first s) ∧
      ∀ vehicleId, landing label = some vehicleId → Landed vehicleId first result s

theorem observes_called (s : SafetySupervisor F) : Observes ⟨none, s⟩ s := by
  intro _ _ resumed
  cases resumed

theorem ignoring_landed {body : Call F α}
    (meets : body.Meets anySegment ready (Landed vehicleId) first s) :
    (ignoring body).Meets anySegment ready (Landed vehicleId) first s := by
  refine meets_bind.mpr (meets.mono ?_)
  rintro first (raised | value) s ended
  · exact landed_error
  · exact fun _ _ => ended value rfl

theorem lands_of_landing {label : Operation F} (target : landing label = some vehicleId) :
    lands label = true := by
  cases label with
  | land | abortAndLand => rfl
  | _ => cases target

theorem landingContract_meets {label : Operation F} {c : Call F Unit} (catalogued : Catalogued s)
    (watches : lands label = true → Watches c)
    (landed : ∀ vehicleId, landing label = some vehicleId →
      c.Meets anySegment ready (Landed vehicleId) ⟨none, s⟩ s) :
    c.Meets (landingContract.rel label) (landingContract.ready label)
      (landingContract.post label) ⟨none, s⟩ s := by
  cases involved : lands label with
  | false =>
    refine Meets.of_forall (fun _ _ _ true' => ?_) (fun _ _ _ => ⟨fun true' => ?_, ?_⟩) c
    · rw [involved] at true'
      cases true'
    · rw [involved] at true'
      cases true'
    · intro vehicleId target
      exact absurd (lands_of_landing target) (by rw [involved]; exact Bool.false_ne_true)
  | true =>
    have observes := watches involved ⟨none, s⟩ s (observes_called s) catalogued
    have returns : c.Meets anySegment ready (fun first result s => ∀ vehicleId,
        landing label = some vehicleId → Landed vehicleId first result s) ⟨none, s⟩ s := by
      cases target : landing label with
      | none => exact Meets.of_forall (fun _ _ _ => trivial) (fun _ _ _ => nofun) c
      | some vehicleId =>
        refine (landed vehicleId target).mono fun _ _ _ ended => ?_
        rintro _ ⟨⟩
        exact ended
    refine (observes.and returns).weaken (fun _ _ _ both _ => both.1.1) ?_
    exact fun _ _ _ both => ⟨fun _ => both.1.1, both.2⟩

theorem landingContract_met : landingContract.Met (program clock) := by
  rintro label s first ⟨rfl, catalogued⟩
  apply landingContract_meets catalogued
  · intro involved
    cases label with
    | land => exact land_watches.bind fun _ => .done
    | abortAndLand => exact abortAndLand_watches.bind fun _ => .done
    | releaseControl => exact releaseControl_watches
    | expireControlLeases => exact expireControlLeases_watches
    | enforceHealth => exact enforceHealth_watches.bind fun _ => .done
    | refreshAndEnforceHealth => exact refreshAndEnforceHealth_watches.bind fun _ => .done
    | _ => cases involved
  · intro vehicleId target
    cases label with
    | land => cases target; exact ignoring_landed (land_landed catalogued)
    | abortAndLand => cases target; exact ignoring_landed (abortAndLand_landed catalogued)
    | _ => cases target

theorem answersLanded_iff {loop : Loop F} {turn : Turn F} {sample : TelemetryEnvelope F}
    (resumed : (loop.begun turn).resumed = some ⟨.snapshot vehicleId, .ok sample⟩) :
    AnswersLanded loop turn vehicleId ↔
      (observed (loop.state.stored vehicleId) vehicleId sample).any (·.telemetry.landed) = true := by
  constructor
  · rintro ⟨sample', resumed', landed⟩
    rw [resumed] at resumed'
    cases resumed'
    exact landed
  · exact fun landed => ⟨sample, resumed, landed⟩

variable (clock) in
theorem landing_admitted {loop : Loop F} (orderly : Orderly loop) (turn : Turn F) :
    loop.Admitted (program clock) landingContract turn :=
  admitted_ofBegun (fun _ _ => orderly.catalogued)
    fun _ _ _ _ _ _ _ found => orderly.settled.since _ (List.mem_of_getElem? found)

theorem step_lands {loop : Loop F} {turn : Turn F} (orderly : Orderly loop)
    (sound : loop.Sound landingContract) : LandsAsAnswered clock loop turn := by
  have admitted := landing_admitted clock orderly turn
  have kept := (step_sound landingContract_met sound admitted).1
  have delivered (label before after rest vehicleId sample)
      (moves : moved (program clock) loop turn = some (label, before, after, rest))
      (involved : lands label = true)
      (resumed : (loop.begun turn).resumed = some ⟨.snapshot vehicleId, .ok sample⟩)
      (registered : (loop.state.sessions.get? vehicleId).isSome = true) :
      after.onGround vehicleId = true ↔ AnswersLanded loop turn vehicleId := by
    have promises := promises_begun admitted kept moves
    have observes : Observes (loop.begun turn) after := by
      cases rest with
      | done result => exact promises.1 involved
      | act change next => exact promises.elim
      | wait on next => exact promises involved
    rw [← begun_state loop turn] at registered
    rw [answersLanded_iff resumed, onGround, observes vehicleId sample resumed registered,
      begun_state]
  refine ⟨fun label before after rest vehicleId moves target returned => ?_, delivered⟩
  cases rest with
  | done result =>
    cases result with
    | error raised => cases returned
    | ok value =>
      have promises := promises_begun admitted kept moves
      obtain ⟨⟨sample, resumed⟩, registered, session, held, state⟩ :=
        promises.2 vehicleId target value rfl
      rw [begun_state] at registered
      refine ⟨by simp [isReady, held, state], ?_⟩
      exact delivered _ _ _ _ vehicleId sample moves (lands_of_landing target) resumed registered
  | act change next => cases returned
  | wait on next => cases returned

/-- In every run, whatever the adapters answer and however the calls interleave: a landing call
that returns leaves the vehicle READY, and it is on the ground exactly if the answer to the
last snapshot, or the observation that is no older, says so. An abort inside another call has
the same effect. -/
theorem landing_ready_iff (clock : MonotonicClock F) (policy : SafetyPolicy F) (turns : List (Turn F)) :
    Runs.Along (step clock) (LandsAsAnswered clock) (initial policy) turns := by
  refine Runs.along (I := fun loop => Orderly loop ∧ loop.Sound landingContract) ?_ ?_
    ⟨initial_orderly policy, fun _ member => absurd member List.not_mem_nil⟩
  · rintro loop turn ⟨orderly, sound⟩
    exact ⟨step_orderly orderly turn,
      (step_sound landingContract_met sound (landing_admitted clock orderly turn)).2⟩
  · rintro loop turn ⟨orderly, sound⟩
    exact step_lands orderly sound

end Runs

section Instances

def telemetryOf (sequence : Nat) (state : VehicleState) (armed flying : Bool) :
    TelemetryEnvelope ℚ where
  vehicleId := "cf01"
  sequence
  sourceTimestampS := sequence
  telemetry := {
    state, armed, flying
    positionM := some ⟨0, 0, 0⟩
    batteryPercent := some 90
    linkQualityPercent := some 90 }

def answer (sample : TelemetryEnvelope ℚ) : (on : Awaited ℚ) → Reply on
  | .snapshot _ => .ok sample
  | .execute envelope => .ok ⟨envelope.commandId, .completed, none⟩
  | .connect _ | .disconnect _ | .settled _ | .interrupted _ => .ok ()

/-- A flight up to the acknowledgement of its landing. -/
def flight : List (Turn ℚ) :=
  let ready := answer (telemetryOf 1 .ready false false)
  let armed := answer (telemetryOf 2 .ready true false)
  let flying := answer (telemetryOf 3 .flying true true)
  [.call (.registerVehicle ⟨⟨"cf01"⟩, ⟨.simulation, true⟩, [.arming]⟩),
   .call (.connect "cf01"), .resume 1 ready, .resume 1 ready,
   .call (.claimControl "cf01" "operator" (some 1000)),
   .call (.preflight "cf01" "operator" [.arming] (some 10) false), .resume 3 ready,
   .call (.arm "cf01" "operator" "preflight-cf01-0" (some 10) {}), .resume 4 armed,
   .resume 4 armed,
   .call (.takeoff "cf01" "operator" (1 / 2) 5 {}), .resume 5 flying, .resume 5 flying,
   .call (.land "cf01" "operator" 5 none none {}), .resume 6 flying]

/-- The adapter still samples the vehicle in flight. -/
def stillFlying : Turn ℚ := .resume 6 (answer (telemetryOf 4 .flying true true))

/-- The landing returns READY while the latest observation reports the vehicle flying. -/
theorem acknowledged_landing_still_flying :
    ¬ Runs.Along (step secondsClock) (ReadyMeansLanded secondsClock) (initial .exactDefault)
      (flight ++ [stillFlying]) := by
  intro along
  have last := (Runs.Along.append.mp along).2.1
  have facts : (moved (program secondsClock)
      (Runs.run (step secondsClock) (initial .exactDefault) flight) stillFlying).map
        (fun ended => (landing ended.1, ended.2.2.2.succeeded, ended.2.2.1.isReady "cf01",
          ended.2.2.1.onGround "cf01")) = some (some "cf01", true, true, false) := by
    decide +kernel
  obtain ⟨⟨label, before, after, rest⟩, moves, values⟩ := Option.map_eq_some_iff.mp facts
  simp only [Prod.mk.injEq] at values
  obtain ⟨target, returned, ready, flying⟩ := values
  exact absurd (last label before after rest "cf01" moves target returned ready) (by simp [flying])

end Instances

end SafetySupervisor

end CrazySwarm
