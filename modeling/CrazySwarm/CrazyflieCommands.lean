import CrazySwarm.CrazyflieClock

/-! When the adapter calls a command method of the link, and what it raises after such a call,
over every interleaving of its calls and every behaviour of the link. -/
namespace CrazySwarm
namespace CrazyflieVehicle
open Coroutine EventLoop PyFloat

variable {F : Type} [PyMath F] {settings : CrazyflieSettings F}

section Statement

structure Live (permit : CommandPermit) (s : CrazyflieVehicle F) (nowUtc : Int) : Prop where
  vehicle : permit.vehicleId = s.vehicleId
  uri : permit.selectedUri = s.selectedUri
  operator : permit.operatorPresent = true
  unexpired : nowUtc < permit.expiresAtUtc

structure Admits (scope : PermitScope) (command : VehicleCommand F) (call : LinkCall F) : Prop where
  kind : ∃ kind ∈ scope.admitted, command.payload.kind = some kind
  observe : scope ≠ .observeOnly
  bench : scope = .propsOffBench → call.isMotion = false

def MayCall (command : VehicleCommand F) (timing : Timing F) (call : LinkCall F)
    (s : CrazyflieVehicle F) : Prop :=
  s.metadata.isSome = true ∧ ∃ permit, s.permit = some permit ∧ Live permit s timing.nowUtc ∧
    Admits permit.scope command call

def CarriesUnknownOutcome (command : VehicleCommand F) (raised : AdapterRaised F) : Prop :=
  ∃ error, raised = .error error ∧
    Dict.lookup "command_id" error.details = some (.text command.commandId) ∧
    Dict.lookup "command_outcome" error.details = some (.text "UNKNOWN_OUTCOME") ∧
    Dict.lookup "automatic_retry_safe" error.details = some (.flag false)

/-- The error of the application that a command method of the link has raised itself. -/
def refusal : (on : CrazyflieWait F) → CrazyflieReply on → Option (CrazySwarmError F)
  | .command _, .error (.error error) => some error
  | _, _ => none

/-- What `execute` raises after the call of the link: the unknown outcome, a cancellation, or an
error of the link with a code of its own. -/
def Reports (command : VehicleCommand F) (on : CrazyflieWait F) (reply : CrazyflieReply on)
    (raised : AdapterRaised F) : Prop :=
  CarriesUnknownOutcome command raised ∨ raised = .cancelled ∨
    ∃ error, refusal on reply = some error ∧ raised = .error error ∧
      error.code ∉ [ErrorCode.linkLost, .telemetryStale]

/-- The link is called only by a starting `execute` that may call it, which waits for nothing
before. -/
def CallsLink (operation : Operation F) (begun : Begun (CrazyflieVehicle F) (CrazyflieWait F)
    CrazyflieReply) (on : CrazyflieWait F) (s : CrazyflieVehicle F) : Prop :=
  (∀ call, on = .command call → begun.resumed = none ∧
    ∃ command timing, operation = .execute command timing ∧ MayCall command timing call s) ∧
  ∀ command timing, operation = .execute command timing → begun.resumed = none →
    ∃ call, on = .command call

/-- A disconnect leaves no permit, and an `execute` that fails after its call of the link reports
the outcome. -/
def EndsWell (operation : Operation F) (begun : Begun (CrazyflieVehicle F) (CrazyflieWait F)
    CrazyflieReply) (result : Except (AdapterRaised F) (Answer F)) (s : CrazyflieVehicle F) : Prop :=
  (∀ now, operation = .disconnect now → s.permit = none ∧ s.metadata = none) ∧
  ∀ command timing raised on reply, operation = .execute command timing →
    result = .error raised → begun.resumed = some ⟨on, reply⟩ → Reports command on reply raised

/-- What every segment of every call promises. -/
def guardContract : Contract (Operation F) (CrazyflieVehicle F) (CrazyflieWait F) CrazyflieReply
    (AdapterRaised F) (Answer F) (Begun (CrazyflieVehicle F) (CrazyflieWait F) CrazyflieReply) :=
  .ofReplies (fun _ _ => True) (fun _ _ _ _ _ => True) CallsLink EndsWell

end Statement

section Waits

def Quiet : CrazyflieWait F → Prop
  | .command _ => False
  | _ => True

/-- The call waits for no command method, and raises only what becomes the unknown outcome. -/
def Soft : AdapterRaised F → Prop
  | .error error => error.code ∈ [ErrorCode.linkLost, .telemetryStale]
  | _ => True

structure Tame {α : Type} (call : CrazyflieCall F α) : Prop where
  quiet : call.Everywhere (fun _ _ => True) Quiet
  soft : call.Raises Soft fun _ _ => True

variable {α β : Type}

omit [PyMath F] in
theorem mapException_soft (raised : AdapterRaised F) (message : String)
    (details : List (String × ErrorDetail F)) :
    Soft (mapException raised (.error ⟨.linkLost, message, details⟩)) := by
  cases raised <;> simp [mapException, AdapterRaised.isException, Soft]

omit [PyMath F] in
theorem checked_soft {model : String} {checks : List (String × Bool)} {raised : AdapterRaised F}
    (refused : AdapterRaised.checked model checks = .error raised) : Soft raised := by
  unfold AdapterRaised.checked require at refused
  split at refused
  · cases refused
  · cases refused
    trivial

omit [PyMath F] in
theorem bind_soft {front : Except (AdapterRaised F) α} {rest : α → Except (AdapterRaised F) β}
    (first : ∀ raised, front = .error raised → Soft raised)
    (later : ∀ value raised, rest value = .error raised → Soft raised) {raised : AdapterRaised F}
    (refused : (front >>= rest) = .error raised) : Soft raised := by
  cases front with
  | error other =>
    cases refused
    exact first raised rfl
  | ok value => exact later value raised refused

/-- A sample is refused as a lost link or by a contract. -/
theorem normalize_soft {s : CrazyflieVehicle F} {raw : CrazyflieRawSample F}
    {raised : AdapterRaised F} (refused : (s.normalize settings raw).2 = .error raised) :
    Soft raised := by
  unfold normalize at refused
  split at refused
  · cases refused
    simp [Soft, AdapterRaised.ofCode]
  · refine bind_soft ?_ ?_ refused
    · intro raised refused
      refine bind_soft (fun raised refused => checked_soft refused) ?_ refused
      rintro _ _ ⟨⟩
    · intro telemetry raised refused
      refine bind_soft (fun raised refused => checked_soft refused) ?_ refused
      rintro _ _ ⟨⟩

omit [PyMath F] in
theorem Tame.returns {value : α} : Tame (Coroutine.returns value : CrazyflieCall F α) :=
  ⟨trivial, raises_returns⟩

omit [PyMath F] in
theorem Tame.raises {raised : AdapterRaised F} (soft : Soft raised) :
    Tame (Coroutine.raises raised : CrazyflieCall F α) := ⟨trivial, raises_raises soft⟩

omit [PyMath F] in
theorem Tame.bind {front : CrazyflieCall F α} {rest : α → CrazyflieCall F β} (first : Tame front)
    (later : ∀ value, Tame (rest value)) : Tame (front >>= rest) :=
  ⟨first.quiet.bind fun value => (later value).quiet, first.soft.bind fun value => (later value).soft⟩

omit [PyMath F] in
theorem Tame.read {rest : CrazyflieVehicle F → CrazyflieCall F α} (later : ∀ s, Tame (rest s)) :
    Tame (get >>= rest) :=
  .bind ⟨everywhere_get fun _ => trivial, raises_get⟩ later

omit [PyMath F] in
theorem Tame.wait {on : CrazyflieWait F} {rest : CrazyflieReply on → CrazyflieCall F α}
    (quiet : Quiet on) (later : ∀ reply, Tame (rest reply)) : Tame (Coroutine.wait on rest) :=
  ⟨⟨quiet, fun reply => (later reply).quiet⟩, fun reply _ => (later reply).soft⟩

theorem takeSample_tame (raw : CrazyflieRawSample F) : Tame (takeSample settings raw) := by
  refine .read fun s => .bind ⟨everywhere_modify.mpr fun _ => trivial, raises_modify⟩ fun _ => ?_
  exact ⟨trivial, fun _ refused => normalize_soft refused⟩

theorem snapshot_tame : Tame (snapshot settings) := by
  refine .read fun s => ?_
  split
  · exact .returns
  · refine .wait trivial fun reply => ?_
    cases reply with
    | error raised => exact .raises (mapException_soft raised _ _)
    | ok raw => exact takeSample_tame raw

theorem waitForSupervisor_tame (armed : Bool) (deadline : F) (clock : Nat → F) (rounds : Nat) :
    Tame (waitForSupervisor settings armed deadline clock rounds) := by
  induction rounds with
  | zero => exact .raises trivial
  | succ rounds ih =>
    refine .bind snapshot_tame fun sample => ?_
    split
    · exact .returns
    · split
      · exact .raises trivial
      · refine .wait trivial fun slept => ?_
        cases slept with
        | false => exact .raises trivial
        | true => exact ih

theorem waitDurationAndRefresh_tame (deadline : F) (clock : Nat → F) (rounds : Nat) :
    Tame (waitDurationAndRefresh settings deadline clock rounds) := by
  induction rounds with
  | zero => exact .raises trivial
  | succ rounds ih =>
    refine .bind snapshot_tame fun sample => ?_
    dsimp only
    split
    · exact .returns
    · refine .wait trivial fun slept => ?_
      cases slept with
      | false => exact .raises trivial
      | true => exact ih

/-- The confirmation of a command calls no further one, and fails only softly. -/
theorem confirm_tame (settings : CrazyflieSettings F) (started : F) (clock : Nat → F) (rounds : Nat)
    (confirmation : Confirmation F) : Tame (confirm settings started clock rounds confirmation) := by
  cases confirmation with
  | supervisor armed timeoutS => exact waitForSupervisor_tame _ _ _ _
  | duration durationS => exact waitDurationAndRefresh_tame _ _ _

theorem connect_quiet : (connect settings).Everywhere (fun _ _ => True) Quiet := by
  refine .bind (everywhere_get fun _ => trivial) fun s => ?_
  split
  · trivial
  · refine ⟨trivial, fun reply => ?_⟩
    rcases reply with raised | metadata
    · trivial
    · dsimp only
      split
      · refine ⟨trivial, fun reply => ?_⟩
        rcases reply with raised | _
        · trivial
        · trivial
      · refine .bind (everywhere_modify.mpr fun _ => trivial) fun _ => ?_
        exact .bind snapshot_tame.quiet fun _ => everywhere_modify.mpr fun _ => trivial

omit [PyMath F] in
theorem installCommandPermit_quiet (permit : CommandPermit) :
    (installCommandPermit permit : CrazyflieCall F Unit).Everywhere (fun _ _ => True) Quiet := by
  refine .bind (everywhere_get fun _ => trivial) fun s => ?_
  split
  · trivial
  · split
    · trivial
    · exact everywhere_modify.mpr fun _ => trivial

end Waits

section Guard

variable {operation : Operation F} {s : CrazyflieVehicle F}
  {begun : Begun (CrazyflieVehicle F) (CrazyflieWait F) CrazyflieReply}

/-- The segment begins with the call, or with the end of a wait. -/
abbrev Meetings (operation : Operation F) (call : CrazyflieCall F (Answer F))
    (begun : Begun (CrazyflieVehicle F) (CrazyflieWait F) CrazyflieReply)
    (s : CrazyflieVehicle F) : Prop :=
  call.Meets (guardContract.rel operation) (guardContract.ready operation)
    (guardContract.post operation) begun s

omit [PyMath F] in
theorem callsLink_of_quiet {on : CrazyflieWait F} (quiet : Quiet on)
    (other : begun.resumed = none → ∀ command timing, operation ≠ .execute command timing) :
    CallsLink operation begun on s := by
  constructor
  · rintro call rfl
    exact quiet.elim
  · intro command timing same starts
    exact absurd same (other starts command timing)

omit [PyMath F] in
/-- A call that is no `execute` has nothing to promise of its quiet waits. -/
theorem meets_of_quiet {call : CrazyflieCall F (Answer F)}
    (quiet : call.Everywhere (fun _ _ => True) Quiet)
    (noCommand : ∀ command timing, operation ≠ .execute command timing)
    (noDisconnect : ∀ now, operation ≠ .disconnect now) : Meetings operation call begun s := by
  have waits : call.Meets (fun _ on _ => True ∧ Quiet on) (guardContract.ready operation)
      (fun _ _ _ => True) begun s :=
    quiet.waits trivial fun _ _ _ _ _ _ => trivial
  refine waits.weaken ?_ ?_
  · rintro _ on _ ⟨-, silent⟩
    exact callsLink_of_quiet silent fun _ => noCommand
  · intro _ _ _ _
    exact ⟨fun now same => absurd same (noDisconnect now),
      fun command timing _ _ _ same => absurd same (noCommand command timing)⟩

/-- A disconnect leaves no permit, whether the link returns or raises. -/
theorem disconnect_meets (now : F) :
    Meetings (.disconnect now) (program settings (.disconnect now)) begun s := by
  have other (command : VehicleCommand F) (timing : Timing F) :
      Operation.disconnect now ≠ .execute command timing := by rintro ⟨⟩
  have cleared (result : Except (AdapterRaised F) (Answer F)) (s : CrazyflieVehicle F)
      (permit : s.permit = none) (metadata : s.metadata = none)
      (begun : Begun (CrazyflieVehicle F) (CrazyflieWait F) CrazyflieReply) :
      EndsWell (.disconnect now) begun result s :=
    ⟨fun _ _ => ⟨permit, metadata⟩, fun command timing _ _ _ same => absurd same (other command timing)⟩
  refine ⟨callsLink_of_quiet trivial fun _ => other, fun reply later begun _ => ?_⟩
  cases reply with
  | error raised => exact cleared _ _ rfl rfl _
  | ok _ => exact cleared _ _ rfl rfl _

omit [PyMath F] in
theorem afterDispatch_soft {command : VehicleCommand F} {raised : AdapterRaised F}
    (soft : Soft raised) :
    CarriesUnknownOutcome command (afterDispatch command raised) ∨
      afterDispatch command raised = .cancelled := by
  cases raised with
  | error error =>
    left
    simp only [afterDispatch, if_pos (show error.code ∈ _ from soft)]
    exact ⟨_, rfl, rfl, rfl, rfl⟩
  | exception text => exact .inl ⟨_, rfl, rfl, rfl, rfl⟩
  | cancelled => exact .inr rfl

omit [PyMath F] in
theorem afterDispatch_reports (command : VehicleCommand F) (call : LinkCall F)
    (raised : AdapterRaised F) :
    Reports command (.command call) (.error raised) (afterDispatch command raised) := by
  by_cases soft : Soft raised
  · rcases afterDispatch_soft soft with unknown | cancelled
    · exact .inl unknown
    · exact .inr (.inl cancelled)
  · cases raised with
    | error error =>
      refine .inr (.inr ⟨error, rfl, ?_, soft⟩)
      simp only [afterDispatch, if_neg (show error.code ∉ _ from soft)]
    | exception text => exact absurd trivial soft
    | cancelled => exact absurd trivial soft

/-- After the call of the link only the confirmation is waited for, and it fails softly. -/
theorem confirm_meets (command : VehicleCommand F) (timing : Timing F) (confirmation : Confirmation F)
    (resumed : begun.resumed ≠ none) :
    (confirm settings timing.startedS timing.clock timing.rounds confirmation).Meets
      (guardContract.rel (.execute command timing)) (guardContract.ready (.execute command timing))
      (fun _ result _ => ∀ raised, result = .error raised → Soft raised) begun s := by
  have tame := confirm_tame settings timing.startedS timing.clock timing.rounds confirmation
  have waits : (confirm settings timing.startedS timing.clock timing.rounds confirmation).Meets
      (fun begun on _ => begun.resumed ≠ none ∧ Quiet on)
      (guardContract.ready (.execute command timing)) (fun begun _ _ => begun.resumed ≠ none)
      begun s := by
    refine tame.quiet.waits resumed ?_
    rintro on since reply later _ ⟨rfl, -⟩
    exact Option.some_ne_none _
  refine (tame.soft.meets waits fun _ _ _ _ _ _ => trivial).weaken ?_ ?_
  · rintro begun on _ ⟨resumed, silent⟩
    exact callsLink_of_quiet silent fun none => absurd none resumed
  · exact fun _ _ _ ended => ended.2

theorem perform_meets {command : VehicleCommand F} {timing : Timing F} {call : LinkCall F}
    {confirmation : Confirmation F} (may : MayCall command timing call s) :
    (perform settings command timing call confirmation).Meets
      (guardContract.rel (.execute command timing)) (guardContract.ready (.execute command timing))
      (fun begun result _ => ∀ raised on reply, result = .error raised →
        begun.resumed = some ⟨on, reply⟩ → Reports command on reply raised) ⟨none, s⟩ s := by
  rw [perform, Coroutine.rescue, meets_handle]
  refine ⟨⟨?_, fun _ _ _ _ => ⟨call, rfl⟩⟩, ?_⟩
  · intro other same
    cases same
    exact ⟨rfl, command, timing, rfl, may⟩
  · rintro reply later _ ⟨rfl, -⟩
    cases reply with
    | error raised =>
      intro _ on reply ended resumed
      cases ended
      cases resumed
      exact afterDispatch_reports command call raised
    | ok _ =>
      refine (confirm_meets command timing confirmation (Option.some_ne_none _)).mono ?_
      intro begun result _ soft
      cases result with
      | ok _ =>
        intro _ _ _ ended
        cases ended
      | error raised =>
        intro _ on reply ended _
        cases ended
        rcases afterDispatch_soft (soft raised rfl) with unknown | cancelled
        · exact .inl unknown
        · exact .inr (.inl cancelled)

omit [PyMath F] in
/-- The permit that `execute` checks is live and admits the call that it dispatches. -/
theorem mayCall_of_permitted {command : VehicleCommand F} {timing : Timing F} {call : LinkCall F}
    (connected : s.metadata.isNone = false)
    (permitted : s.permitted command.payload.kind timing.nowUtc = true)
    (bench : ∀ kind ∈ PermitScope.propsOffBench.admitted, command.payload.kind = some kind →
      call.isMotion = false) : MayCall command timing call s := by
  refine ⟨by simpa using connected, ?_⟩
  obtain ⟨permit, installed, allows⟩ : ∃ permit, s.permit = some permit ∧
      permit.allows command.payload.kind s.vehicleId s.selectedUri timing.nowUtc = true := by
    cases installed : s.permit with
    | none => simp [CrazyflieVehicle.permitted, installed] at permitted
    | some permit => exact ⟨permit, rfl, by simpa [CrazyflieVehicle.permitted, installed] using permitted⟩
  simp only [CommandPermit.allows, Bool.and_eq_true, Bool.not_eq_true', Bool.or_eq_false_iff,
    decide_eq_false_iff_not, bne_eq_false_iff_eq, Bool.not_eq_false', not_le] at allows
  obtain ⟨⟨⟨⟨operator, unexpired⟩, vehicle⟩, uri⟩, kind⟩ := allows
  obtain ⟨kind, isKind, admitted⟩ : ∃ kind, command.payload.kind = some kind ∧
      kind ∈ permit.scope.admitted := by
    cases isKind : command.payload.kind with
    | none => simp [isKind] at kind
    | some found => exact ⟨found, rfl, by simpa [isKind] using kind⟩
  refine ⟨permit, installed, ⟨vehicle, uri, operator, unexpired⟩, ⟨kind, admitted, isKind⟩, ?_, ?_⟩
  · intro observe
    rw [observe] at admitted
    cases admitted
  · intro onBench
    exact bench kind (onBench ▸ admitted) isKind

theorem dispatch_bench {payload : VehiclePayload F} {dispatched : LinkCall F × Confirmation F}
    (ok : s.dispatch payload = .ok dispatched) {kind : CommandKind}
    (admitted : kind ∈ PermitScope.propsOffBench.admitted) (isKind : payload.kind = some kind) :
    dispatched.1.isMotion = false := by
  cases payload with
  | arm => cases ok; rfl
  | disarm => cases ok; rfl
  | emergencyStop reason => cases ok; rfl
  | _ =>
    simp only [VehiclePayload.kind, Option.some.injEq, reduceCtorEq] at isKind
    try
      subst isKind
      simp [PermitScope.admitted] at admitted

theorem execute_meets (command : VehicleCommand F) (timing : Timing F) :
    Meetings (.execute command timing) (program settings (.execute command timing)) ⟨none, s⟩ s := by
  have early (raised : AdapterRaised F) : guardContract.post (.execute command timing) ⟨none, s⟩
      (.error raised) s := by
    constructor
    · rintro now ⟨⟩
    · rintro _ _ _ on reply _ _ ⟨⟩
  rw [Meetings, program, meets_bind, execute, meets_bind, meets_get]
  dsimp only
  split
  · exact early _
  · split
    · exact early _
    · next connected =>
      split
      · exact early _
      · next permitted =>
        cases dispatch : s.dispatch command.payload with
        | error raised => exact early raised
        | ok dispatched =>
          have may : MayCall command timing dispatched.1 s := by
            refine mayCall_of_permitted (Bool.eq_false_iff.mpr connected) ?_ ?_
            · simpa using permitted
            · exact fun kind admitted isKind => dispatch_bench dispatch admitted isKind
          dsimp only
          rw [meets_bind]
          refine (perform_meets may).mono ?_
          intro begun result s reports
          cases result with
          | ok _ =>
            constructor
            · rintro now ⟨⟩
            · rintro _ _ _ on reply _ ⟨⟩
          | error raised =>
            constructor
            · rintro now ⟨⟩
            · rintro _ _ _ on reply ⟨⟩ ⟨⟩ resumed
              exact reports raised on reply rfl resumed

/-- Every call of the adapter keeps what the contract says of it. -/
theorem guardContract_met :
    (guardContract : Contract _ _ _ _ _ _ (Begun (CrazyflieVehicle F) _ _)).Met (program settings) := by
  intro operation s begun begins
  obtain ⟨rfl, -⟩ := begins
  cases operation with
  | execute command timing => exact execute_meets command timing
  | disconnect now => exact disconnect_meets now
  | connect =>
    exact meets_of_quiet (connect_quiet.bind fun _ => trivial) (by rintro _ _ ⟨⟩) (by rintro _ ⟨⟩)
  | installCommandPermit permit =>
    exact meets_of_quiet ((installCommandPermit_quiet permit).bind fun _ => trivial)
      (by rintro _ _ ⟨⟩) (by rintro _ ⟨⟩)
  | clearCommandPermit =>
    have cleared : (clearCommandPermit : CrazyflieCall F Unit).Everywhere (fun _ _ => True) Quiet :=
      everywhere_modify.mpr fun _ => trivial
    exact meets_of_quiet (cleared.bind fun _ => trivial) (by rintro _ _ ⟨⟩) (by rintro _ ⟨⟩)
  | snapshot =>
    exact meets_of_quiet (snapshot_tame.quiet.bind fun _ => trivial)
      (by rintro _ _ ⟨⟩) (by rintro _ ⟨⟩)

end Guard

/-- In every interleaving of the calls, whatever the link does: a command method of the link is
called only by an `execute` that is connected and has a live permit whose scope admits the command;
a disconnect leaves no permit; and what `execute` raises after its call of the link carries the
unknown outcome, unless it is a cancellation or an error of the link with a code of its own. -/
theorem link_calls_permitted_and_reported (settings : CrazyflieSettings F)
    (vehicleId selectedUri : String) (latest : TelemetryEnvelope F)
    (turns : List (Turn (Operation F) (CrazyflieWait F) CrazyflieReply)) :
    Runs.Along (step (program settings)) (fun loop turn => ∀ operation before after rest,
        moved (program settings) loop turn = some (operation, before, after, rest) →
          guardContract.Promises operation (loop.begun turn) after rest)
      ⟨inert vehicleId selectedUri latest, []⟩ turns := by
  have admitted (loop : Loop F) (turn : Turn (Operation F) (CrazyflieWait F) CrazyflieReply) :
      loop.Admitted (program settings) guardContract turn :=
    admitted_ofReplies (fun _ _ => trivial) fun _ _ _ _ _ _ _ _ => trivial
  refine Runs.along (I := fun loop => loop.Sound guardContract) ?_ ?_ (by simp [Sound])
  · exact fun loop turn sound => (step_sound guardContract_met sound (admitted loop turn)).2
  · intro loop turn sound operation before after rest moves
    have kept := (step_sound guardContract_met sound (admitted loop turn)).1
    exact promises_ofReplies (admitted loop turn) kept moves

section Refusal

def flightPermit : CommandPermit where
  vehicleId := "cf01"
  selectedUri := "radio://0/80/2M/E7E7E7E701"
  scope := .containedFlight
  issuedAtUtc := 0
  expiresAtUtc := 300
  operatorPresent := true
  propsRemoved := false
  physicallyRestrained := false
  flightEntryRecordId := some "flight-entry"
  flightEntryEvidenceSha256 := some "flight-evidence"
  safe := by decide

def armCommand : VehicleCommand ℚ where
  vehicleId := "cf01"
  commandId := "cmd-1"
  missionRunId := none
  fleet := none
  issuedAtMonotonicS := 0
  source := .test
  mode := .live
  payload := .arm

def busy : AdapterRaised ℚ := .ofCode .commandTimeout "the link is busy"

def busyLink : (on : CrazyflieWait ℚ) → CrazyflieReply on
  | .command _ => .error busy
  | on => workingLink 1000 on

def refusedArming : Loop ℚ :=
  Runs.run (step (program plainSettings))
    ⟨inert "cf01" "radio://0/80/2M/E7E7E7E701" idleEnvelope, []⟩
    [.call .connect, .resume 0 busyLink, .resume 0 busyLink,
      .call (.installCommandPermit flightPermit),
      .call (.execute armCommand ⟨60, 0, fun _ => 0, 1⟩), .resume 2 busyLink]

def raisedBy : CrazyflieCall F (Answer F) → Option (AdapterRaised F)
  | .done (.error raised) => some raised
  | _ => none

/-- An error of the link with a code of its own is passed on without the outcome. -/
theorem refusedArming_passes_error_on :
    (refusedArming.tasks[2]?.bind fun task => raisedBy task.rest) = some busy ∧
      ¬CarriesUnknownOutcome armCommand busy := by
  constructor
  · decide +kernel
  · rintro ⟨error, same, -, outcome, -⟩
    cases same
    cases outcome

end Refusal

end CrazyflieVehicle
end CrazySwarm
