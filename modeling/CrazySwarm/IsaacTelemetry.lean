import CrazySwarm.Isaac

/-! Which responses complete a command, and the order of the telemetry of a connection, over every
interleaving of the operations of the adapter and every sequence of responses. -/
namespace CrazySwarm
namespace IsaacSimVehicle
open Coroutine EventLoop PyFloat

variable {F : Type} [PyFloat F] {scene : IsaacScene}

abbrev Beginning (F : Type) := Begun (IsaacSimVehicle F) (IsaacWait F) IsaacReply

section Statement

/-- Strictly newer in epoch and sequence. -/
def Newer (earlier later : TelemetryEnvelope F) : Prop :=
  earlier.sourceClockEpoch < later.sourceClockEpoch ∨
    earlier.sourceClockEpoch = later.sourceClockEpoch ∧ earlier.sequence < later.sequence

/-- Each envelope is newer than the earlier ones of its connection. -/
def Ordered (items : List (IsaacEmission F)) : Prop :=
  items.Pairwise fun earlier later => earlier.1 = later.1 → Newer earlier.2 later.2

def markerOf (envelope : TelemetryEnvelope F) : Nat × Nat × F :=
  (envelope.sourceClockEpoch, envelope.sequence, envelope.sourceTimestampS)

/-- The envelopes of the connection that is open. -/
def current (s : IsaacSimVehicle F) : List (TelemetryEnvelope F) :=
  (s.emitted.filter (·.1 == s.connection)).map (·.2)

structure InStep (s : IsaacSimVehicle F) : Prop where
  opened : ∀ item ∈ s.emitted, item.1 ≤ s.connection
  newer : Ordered s.emitted
  marker : s.lastSourceMarker = s.current.getLast?.map markerOf
  streams : ∀ subscriber ∈ s.subscribers,
    (subscriber.received ++ subscriber.queue).Sublist s.emitted

structure Answers (scene : IsaacScene) (command : VehicleCommand F) (session : Option String)
    (request : GatewayRequest F) (response : GatewayResponse F) : Prop where
  sent : request.payload = .command command
  success : response.ok = true
  id : response.requestId = request.requestId
  operation : response.operation = .command
  vehicle : response.vehicleId = scene.vehicleId ∧ command.vehicleId = scene.vehicleId
  model : response.modelId = scene.modelId ∧ response.modelVersion = scene.modelVersion
  session : response.sessionId = session
  command : response.commandId = some command.commandId

/-- A command is completed only by its own response. -/
def Completes (scene : IsaacScene) (operation : Operation F) (begun : Beginning F)
    (result : Except (AdapterRaised F) (Answer F)) : Prop :=
  ∀ command answer, operation = .execute command → result = .ok answer →
    ∃ request response, begun.resumed = some ⟨.request request, .ok (some response)⟩ ∧
      Answers scene command begun.state.sessionId request response

/-- An envelope is returned only where it has just been emitted. -/
def Returns (begun : Beginning F) (result : Except (AdapterRaised F) (Answer F))
    (s : IsaacSimVehicle F) : Prop :=
  ∀ sample, result = .ok (.envelope sample) →
    s.emitted = begun.state.emitted ++ [(s.connection, sample)]

/-- A sample that fits and is not behind the last envelope of the connection is accepted. -/
def Welcomes (scene : IsaacScene) (s : IsaacSimVehicle F) : Prop :=
  ∀ response sample envelope, response.telemetry = some sample →
    gatewaySampleToCanonical scene sample s.binding = .ok envelope →
      (∀ last, s.current.getLast? = some last → behind sample (markerOf last) = false) →
        (s.ingest scene response).2 = .ok envelope

/-- A response whose telemetry is not accepted moves neither the marker nor the latest sample. -/
def Steady (begun : Beginning F) (s : IsaacSimVehicle F) : Prop :=
  ∀ request reply, begun.resumed = some ⟨.request request, reply⟩ →
    s.emitted = begun.state.emitted →
      s.lastSourceMarker = begun.state.lastSourceMarker ∧ s.latest = begun.state.latest

/-- The binding under which the sample of a response is checked. -/
def bindingAt (s : IsaacSimVehicle F) (request : GatewayRequest F) : Option GatewayRunBinding :=
  match request.payload with
  | .binding binding => some binding
  | _ => s.binding

def takes (scene : IsaacScene) (session : Option String) (request : GatewayRequest F)
    (response : GatewayResponse F) : Bool :=
  (checkResponse scene session request response).isOk && request.operation != .health &&
    match request.payload with
    | .command command => response.commandId == some command.commandId
    | _ => request.operation != .connect || response.capabilities.any fun capabilities =>
        (validateCapabilities scene capabilities : Except (AdapterRaised F) Unit).isOk

/-- No sample that is ahead of the marker is refused for its vehicle, its model or its run. -/
def sampleFits (scene : IsaacScene) (s : IsaacSimVehicle F) (request : GatewayRequest F)
    (response : GatewayResponse F) : Bool :=
  !takes scene s.sessionId request response || response.telemetry.all fun sample =>
    s.lastSourceMarker.any (behind sample) ||
      (gatewaySampleToCanonical scene sample (s.bindingAt request)).isOk

/-- A command is answered within a session, or by a response that names none. -/
def sessionFits (s : IsaacSimVehicle F) (request : GatewayRequest F)
    (response : GatewayResponse F) : Bool :=
  request.operation != .command || s.sessionId.isSome || response.sessionId.isNone

def fits (scene : IsaacScene) : (on : IsaacWait F) → IsaacReply on → IsaacSimVehicle F → Bool
  | .request request, .ok (some response), s =>
    sampleFits scene s request response && sessionFits s request response
  | _, _, _ => true

/-- What every segment keeps, and what every call promises when it ends. -/
def isaacContract (scene : IsaacScene) : Contract (Operation F) (IsaacSimVehicle F) (IsaacWait F)
    IsaacReply (AdapterRaised F) (Answer F) (Beginning F) :=
  .ofReplies (fun _ _ => True) (fun _ on _ reply later => fits scene on reply later = true)
    (fun _ begun _ s => (InStep begun.state → InStep s) ∧ Steady begun s)
    (fun operation begun result s => ((InStep begun.state → InStep s) ∧ Steady begun s) ∧
      Completes scene operation begun result ∧ Returns begun result s)

end Statement

section Order

variable {s : IsaacSimVehicle F}

omit [PyFloat F] in
theorem Newer.trans {first second third : TelemetryEnvelope F} (older : Newer first second)
    (later : Newer second third) : Newer first third := by
  rcases older with epoch | ⟨epoch, number⟩ <;> rcases later with next | ⟨next, above⟩
  · exact .inl (epoch.trans next)
  · exact .inl (next ▸ epoch)
  · exact .inl (epoch ▸ next)
  · exact .inr ⟨epoch.trans next, number.trans above⟩

omit [PyFloat F] in
theorem current_newer (kept : s.InStep) : s.current.Pairwise Newer := by
  refine List.pairwise_map.mpr ?_
  refine (kept.newer.filter _).imp_of_mem ?_
  intro earlier later first second newer
  have one := (List.mem_filter.mp first).2
  have other := (List.mem_filter.mp second).2
  exact newer ((beq_iff_eq.mp one).trans (beq_iff_eq.mp other).symm)

theorem newer_of_not_behind (kept : s.InStep) {sample : GatewayTelemetrySample F}
    (ahead : s.lastSourceMarker.any (behind sample) = false) {envelope : TelemetryEnvelope F}
    (epoch : envelope.sourceClockEpoch = sample.sourceClockEpoch)
    (sequence : envelope.sequence = sample.sequence) :
    ∀ earlier ∈ s.current, Newer earlier envelope := by
  intro earlier member
  have ordered := current_newer kept
  rcases List.eq_nil_or_concat s.current with none | ⟨before, last, split⟩
  · rw [none] at member
    cases member
  · have marked : s.lastSourceMarker = some (markerOf last) := by
      simp [kept.marker, split]
    have latest : Newer last envelope := by
      simp only [marked, Option.any_some, behind, markerOf, Bool.or_eq_false_iff,
        Bool.and_eq_false_iff, decide_eq_false_iff_not, beq_eq_false_iff_ne, not_lt, not_le] at ahead
      obtain ⟨notBefore, notSame⟩ := ahead
      rcases Nat.lt_or_eq_of_le notBefore with before | same
      · exact .inl (epoch ▸ before)
      · rcases notSame with other | ⟨above, -⟩
        · exact absurd same.symm other
        · exact .inr ⟨epoch ▸ same, sequence ▸ above⟩
    rw [split, List.concat_eq_append] at ordered member
    rcases List.mem_append.mp member with old | isLast
    · have older := (List.pairwise_append.mp ordered).2.2 earlier old last (List.mem_singleton_self _)
      exact older.trans latest
    · obtain rfl := List.mem_singleton.mp isLast
      exact latest

omit [PyFloat F] in
/-- The invariant does not speak of the other fields. -/
theorem InStep.congr (kept : s.InStep) {other : IsaacSimVehicle F} (emitted : other.emitted = s.emitted)
    (connection : other.connection = s.connection)
    (marker : other.lastSourceMarker = s.lastSourceMarker)
    (streams : other.subscribers = s.subscribers) : other.InStep := by
  have same : other.current = s.current := by rw [current, current, emitted, connection]
  constructor
  · rw [emitted, connection]
    exact kept.opened
  · rw [emitted]
    exact kept.newer
  · rw [marker, same]
    exact kept.marker
  · rw [streams, emitted]
    exact kept.streams

omit [PyFloat F] in
theorem InStep.started (kept : s.InStep) : s.started.InStep := by
  have fresh : s.started.current = [] := by
    simp only [current, List.map_eq_nil_iff, List.filter_eq_nil_iff, beq_iff_eq]
    intro item member
    have before := kept.opened item member
    have next : s.started.connection = s.connection + 1 := rfl
    omega
  constructor
  · exact fun item member => Nat.le_succ_of_le (kept.opened item member)
  · exact kept.newer
  · rw [fresh]
    rfl
  · exact kept.streams

omit [PyFloat F] in
/-- A stream that is offered an envelope keeps the order of emission. -/
theorem offer_sublist {subscriber : TelemetrySubscriber F} {emitted : List (IsaacEmission F)}
    (sublist : (subscriber.received ++ subscriber.queue).Sublist emitted) (bound : Nat)
    (item : IsaacEmission F) :
    ((subscriber.offer bound item).received ++ (subscriber.offer bound item).queue).Sublist
      (emitted ++ [item]) := by
  unfold TelemetrySubscriber.offer
  split
  · exact sublist.trans (List.sublist_append_left _ _)
  · split
    · rw [← List.append_assoc]
      refine List.Sublist.append ?_ (List.Sublist.refl _)
      exact ((List.Sublist.refl _).append (List.tail_sublist _)).trans sublist
    · rw [← List.append_assoc]
      exact sublist.append (List.Sublist.refl _)

/-- An accepted sample is emitted last, and newer than what its connection has emitted. -/
theorem InStep.publish (kept : s.InStep) {sample : GatewayTelemetrySample F}
    (ahead : s.lastSourceMarker.any (behind sample) = false) {envelope : TelemetryEnvelope F}
    (same : sampleMarker sample = markerOf envelope) :
    ({ s with lastSourceMarker := some (sampleMarker sample) }.publish scene envelope).InStep := by
  have fields := Prod.mk.inj same
  have newer := newer_of_not_behind kept ahead fields.1.symm (Prod.mk.inj fields.2).1.symm
  constructor
  · intro item member
    rcases List.mem_append.mp member with old | new
    · exact kept.opened item old
    · obtain rfl := List.mem_singleton.mp new
      exact le_rfl
  · refine List.pairwise_append.mpr ⟨kept.newer, List.pairwise_singleton _ _, ?_⟩
    intro earlier old later isNew connection
    obtain rfl := List.mem_singleton.mp isNew
    exact newer _ (List.mem_map_of_mem (List.mem_filter.mpr ⟨old, beq_iff_eq.mpr connection⟩))
  · simp [IsaacSimVehicle.publish, current, same]
  · intro subscriber member
    obtain ⟨old, among, rfl⟩ := List.mem_map.mp member
    exact offer_sublist (kept.streams old among) _ _

omit [PyFloat F] in
theorem InStep.subscribe (kept : s.InStep) : s.subscribe.InStep := by
  refine ⟨kept.opened, kept.newer, kept.marker, ?_⟩
  intro subscriber member
  rcases List.mem_append.mp member with old | new
  · exact kept.streams subscriber old
  · obtain rfl := List.mem_singleton.mp new
    exact List.nil_sublist _

omit [PyFloat F] in
/-- A change of one stream that keeps what it has received and still holds, in order. -/
theorem InStep.modify (kept : s.InStep) (stream : Nat)
    {change : TelemetrySubscriber F → TelemetrySubscriber F}
    (same : ∀ subscriber, (change subscriber).received ++ (change subscriber).queue =
      subscriber.received ++ subscriber.queue) :
    InStep { s with subscribers := s.subscribers.modify stream change } := by
  refine ⟨kept.opened, kept.newer, kept.marker, ?_⟩
  intro subscriber member
  obtain ⟨old, among, eq | eq⟩ : ∃ old ∈ s.subscribers, subscriber = old ∨ subscriber = change old := by
    obtain ⟨i, found⟩ := List.mem_iff_getElem?.mp member
    rw [List.getElem?_modify] at found
    obtain ⟨old, at_, rfl⟩ := Option.map_eq_some_iff.mp found
    refine ⟨old, List.mem_of_getElem? at_, ?_⟩
    split
    · exact .inr rfl
    · exact .inl rfl
  · rw [eq]
    exact kept.streams old among
  · rw [eq, same]
    exact kept.streams old among

omit [PyFloat F] in
theorem receive_same (subscriber : TelemetrySubscriber F) :
    (subscriber.received ++ subscriber.queue.head?.toList) ++ subscriber.queue.tail =
      subscriber.received ++ subscriber.queue := by
  cases subscriber.queue <;> simp

end Order

section Ingest

variable {s : IsaacSimVehicle F} {begun : Beginning F}

/-- The telemetry and its streams are as the segment has found them. -/
structure Untouched (a b : IsaacSimVehicle F) : Prop where
  emitted : b.emitted = a.emitted
  connection : b.connection = a.connection
  marker : b.lastSourceMarker = a.lastSourceMarker
  latest : b.latest = a.latest
  streams : b.subscribers = a.subscribers

abbrev Progress (begun : Beginning F) (s : IsaacSimVehicle F) : Prop :=
  (InStep begun.state → InStep s) ∧ Steady begun s

omit [PyFloat F] in
theorem Untouched.refl (s : IsaacSimVehicle F) : Untouched s s := ⟨rfl, rfl, rfl, rfl, rfl⟩

omit [PyFloat F] in
theorem Untouched.progress (untouched : Untouched begun.state s) : Progress begun s :=
  ⟨fun kept => kept.congr untouched.emitted untouched.connection untouched.marker untouched.streams,
    fun _ _ _ _ => ⟨untouched.marker, untouched.latest⟩⟩

omit [PyFloat F] in
theorem gatewaySampleToCanonical_eq_ok {sample : GatewayTelemetrySample F}
    {binding : Option GatewayRunBinding} {envelope : TelemetryEnvelope F}
    (ok : gatewaySampleToCanonical scene sample binding = .ok envelope) :
    sampleMarker sample = markerOf envelope := by
  obtain ⟨_, -, ok⟩ := bind_eq_ok.mp ok
  obtain ⟨_, -, ok⟩ := bind_eq_ok.mp ok
  obtain ⟨_, -, ok⟩ := bind_eq_ok.mp ok
  cases ok
  rfl

/-- Telemetry that the mapping does not refuse is emitted, or leaves the adapter as it was. -/
theorem ingest_cases (scene : IsaacScene) (s : IsaacSimVehicle F) (response : GatewayResponse F)
    (mapped : response.telemetry.all (fun sample => s.lastSourceMarker.any (behind sample) ||
      (gatewaySampleToCanonical scene sample s.binding).isOk) = true) :
    (s.ingest scene response).1 = s ∨ ∃ sample envelope, response.telemetry = some sample ∧
      s.lastSourceMarker.any (behind sample) = false ∧ sampleMarker sample = markerOf envelope ∧
      (s.ingest scene response).1 =
        { s with lastSourceMarker := some (sampleMarker sample) }.publish scene envelope := by
  unfold ingest
  cases telemetry : response.telemetry with
  | none => exact .inl rfl
  | some sample =>
    by_cases late : s.lastSourceMarker.any (behind sample) = true
    · simp [late]
    · simp only [telemetry, Option.all_some, Bool.or_eq_true, late] at mapped
      right
      cases canonical : gatewaySampleToCanonical scene sample s.binding with
      | error raised => simp [canonical, Except.isOk, Except.toBool] at mapped
      | ok envelope =>
        refine ⟨sample, envelope, rfl, Bool.eq_false_iff.mpr late,
          gatewaySampleToCanonical_eq_ok canonical, ?_⟩
        simp [late, canonical]

theorem ingest_progress {response : GatewayResponse F} (untouched : Untouched begun.state s)
    (mapped : response.telemetry.all (fun sample => s.lastSourceMarker.any (behind sample) ||
      (gatewaySampleToCanonical scene sample s.binding).isOk) = true) :
    Progress begun (s.ingest scene response).1 := by
  rcases ingest_cases scene s response mapped with same | ⟨sample, envelope, -, ahead, marks, emitted⟩
  · rw [same]
    exact untouched.progress
  · rw [emitted]
    constructor
    · intro kept
      exact (untouched.progress.1 kept).publish ahead marks
    · intro _ _ _ none
      have longer := congrArg List.length none
      simp [publish, untouched.emitted] at longer

omit [PyFloat F] in
theorem Progress.congr {other : IsaacSimVehicle F} (progress : Progress begun s)
    (untouched : Untouched s other) : Progress begun other := by
  constructor
  · intro kept
    exact (progress.1 kept).congr untouched.emitted untouched.connection untouched.marker
      untouched.streams
  · intro request reply resumed none
    have steady := progress.2 request reply resumed (untouched.emitted.symm.trans none)
    exact ⟨untouched.marker.trans steady.1, untouched.latest.trans steady.2⟩

theorem ingest_returns {response : GatewayResponse F} {envelope : TelemetryEnvelope F}
    (ok : (s.ingest scene response).2 = .ok envelope) :
    (s.ingest scene response).1.emitted = s.emitted ++ [(s.connection, envelope)] ∧
      (s.ingest scene response).1.connection = s.connection := by
  unfold ingest at ok ⊢
  split at ok
  · cases ok
  · split at ok
    · cases ok
    · next fresh =>
      simp only [fresh]
      split at ok
      · cases ok
      · cases ok
        simp [publish]

theorem InStep.welcomes (kept : s.InStep) : Welcomes scene s := by
  intro response sample envelope telemetry canonical ahead
  have fresh : s.lastSourceMarker.any (behind sample) = false := by
    rw [kept.marker]
    cases last : s.current.getLast? with
    | none => rfl
    | some envelope => exact ahead envelope last
  simp [ingest, telemetry, fresh, canonical]

end Ingest

section Meetings

variable {s : IsaacSimVehicle F} {begun : Beginning F} {α β : Type}

/-- The call keeps the telemetry in step up to each wait, and ends so. -/
abbrev Meeting (scene : IsaacScene) (call : IsaacCall F α)
    (post : Beginning F → Except (AdapterRaised F) α → IsaacSimVehicle F → Prop)
    (begun : Beginning F) (s : IsaacSimVehicle F) : Prop :=
  call.Meets (fun begun _ s => Progress begun s)
    (fun on _ reply later first =>
      first = ⟨some ⟨on, reply⟩, later⟩ ∧ fits scene on reply later = true) post begun s

/-- A request fails without a change, or continues with the response that ended its wait. -/
theorem request_meets {kind : GatewayOperation} {payload : GatewayPayload F}
    {post : Beginning F → Except (AdapterRaised F) (GatewayResponse F) → IsaacSimVehicle F → Prop}
    (progress : Progress begun s)
    (fails : ∀ begun raised s, Untouched begun.state s → post begun (.error raised) s)
    (succeeds : ∀ request response later, request.operation = kind → request.payload = payload →
      fits scene (.request request) (.ok (some response)) later = true →
        checkResponse scene later.sessionId request response = .ok () →
          post ⟨some ⟨.request request, .ok (some response)⟩, later⟩ (.ok response) later) :
    Meeting scene (request scene kind payload) post begun s := by
  refine ⟨progress.congr ⟨rfl, rfl, rfl, rfl, rfl⟩, ?_⟩
  rintro reply later _ ⟨rfl, fit⟩
  rcases reply with raised | _ | response
  · exact fails _ _ _ (.refl later)
  · exact fails _ _ _ (.refl later)
  · dsimp only
    rw [meets_bind, meets_get]
    dsimp only
    rw [meets_bind, meets_ofResult]
    cases check : checkResponse scene later.sessionId _ response with
    | error raised => exact fails _ _ _ (.refl later)
    | ok _ => exact succeeds _ response later rfl rfl fit check

theorem mapped_of_fits {request : GatewayRequest F} {response : GatewayResponse F}
    {later : IsaacSimVehicle F}
    (fit : fits scene (.request request) (.ok (some response)) later = true)
    (took : takes scene later.sessionId request response = true) (untouched : Untouched later s)
    (bound : s.binding = later.bindingAt request) :
    response.telemetry.all (fun sample => s.lastSourceMarker.any (behind sample) ||
      (gatewaySampleToCanonical scene sample s.binding).isOk) = true := by
  simp only [fits, sampleFits, took, Bool.not_true, Bool.false_or, Bool.and_eq_true] at fit
  rw [untouched.marker, bound]
  exact fit.1

omit [PyFloat F] in
theorem takes_of_check {session : Option String} {request : GatewayRequest F}
    {response : GatewayResponse F} (check : checkResponse scene session request response = .ok ())
    (noHealth : request.operation ≠ .health) (noConnect : request.operation ≠ .connect)
    (noCommand : ∀ command, request.payload ≠ .command command) :
    takes scene session request response = true := by
  unfold takes
  split
  · next command same => exact absurd same (noCommand command)
  · simp [check, noHealth, noConnect, Except.isOk, Except.toBool]

theorem takeTelemetry_meets {response : GatewayResponse F}
    {post : Beginning F → Except (AdapterRaised F) (TelemetryEnvelope F) → IsaacSimVehicle F → Prop}
    (ends : post begun (s.ingest scene response).2 (s.ingest scene response).1) :
    Meeting scene (takeTelemetry scene response) post begun s := ends

theorem takeOptional_meets {response : GatewayResponse F} (untouched : Untouched begun.state s)
    (mapped : response.telemetry.all (fun sample => s.lastSourceMarker.any (behind sample) ||
      (gatewaySampleToCanonical scene sample s.binding).isOk) = true) :
    Meeting scene (takeOptional scene response) (fun begun' _ s => begun' = begun ∧ Progress begun s)
      begun s := by
  have taken : Progress begun (s.ingest scene response).1 := ingest_progress untouched mapped
  unfold takeOptional
  split
  · rw [Meeting, meets_bind]
    refine takeTelemetry_meets ?_
    cases (s.ingest scene response).2 with
    | error raised => exact ⟨rfl, taken⟩
    | ok envelope => exact ⟨rfl, taken⟩
  · exact ⟨rfl, untouched.progress⟩

theorem meets_done {operation : Operation F} {call : IsaacCall F Unit}
    (noCommand : ∀ command, operation ≠ .execute command)
    (meets : Meeting scene call (fun begun _ s => Progress begun s) begun s) :
    Meeting scene (do call; return .done) ((isaacContract scene).post operation) begun s := by
  rw [Meeting, meets_bind]
  refine meets.mono fun begun result s progress => ?_
  have none (result : Except (AdapterRaised F) (Answer F)) : Completes scene operation begun result :=
    fun command _ same => absurd same (noCommand command)
  cases result with
  | error raised =>
    refine ⟨progress, none _, ?_⟩
    rintro _ ⟨⟩
  | ok _ =>
    refine ⟨progress, none _, ?_⟩
    rintro _ ⟨⟩

/-- A call that returns the envelope of the sample that it needs. -/
theorem meets_required {kind : GatewayOperation} {payload : GatewayPayload F}
    (absent : String) (noHealth : kind ≠ .health) (noConnect : kind ≠ .connect)
    (payloadNoCommand : ∀ command, payload ≠ .command command)
    (payloadNoBinding : ∀ binding, payload ≠ .binding binding) (progress : Progress begun s) :
    Meeting scene (do
        let response ← request scene kind payload
        takeRequired scene response absent)
      (fun begun result s => Progress begun s ∧ ∀ sample, result = .ok sample →
        s.emitted = begun.state.emitted ++ [(s.connection, sample)]) begun s := by
  rw [Meeting, meets_bind]
  refine request_meets progress ?_ ?_
  · intro begun raised s untouched
    refine ⟨untouched.progress, ?_⟩
    rintro _ ⟨⟩
  · intro request response later isKind isPayload fit check
    have took : takes scene later.sessionId request response = true := by
      refine takes_of_check check (isKind ▸ noHealth) (isKind ▸ noConnect) (isPayload ▸ payloadNoCommand)
    have bound : later.binding = later.bindingAt request := by
      unfold bindingAt
      split
      · next binding same => exact absurd (isPayload ▸ same) (payloadNoBinding binding)
      · rfl
    have taken : Progress ⟨some ⟨.request request, .ok (some response)⟩, later⟩
        (later.ingest scene response).1 :=
      ingest_progress (.refl later) (mapped_of_fits fit took (.refl later) bound)
    dsimp only
    unfold takeRequired
    split
    · refine ⟨(Untouched.refl later).progress, ?_⟩
      rintro _ ⟨⟩
    · refine takeTelemetry_meets ⟨taken, ?_⟩
      intro sample returned
      obtain ⟨emitted, connection⟩ := ingest_returns returned
      rw [emitted, connection]

theorem meets_envelope {operation : Operation F} {call : IsaacCall F (TelemetryEnvelope F)}
    (noCommand : ∀ command, operation ≠ .execute command)
    (meets : Meeting scene call (fun begun result s => Progress begun s ∧ ∀ sample,
      result = .ok sample → s.emitted = begun.state.emitted ++ [(s.connection, sample)]) begun s) :
    Meeting scene (do return .envelope (← call)) ((isaacContract scene).post operation) begun s := by
  rw [Meeting, meets_bind]
  refine meets.mono fun begun result s ended => ?_
  obtain ⟨progress, emitted⟩ := ended
  have none (result : Except (AdapterRaised F) (Answer F)) : Completes scene operation begun result :=
    fun command _ same => absurd same (noCommand command)
  cases result with
  | error raised =>
    refine ⟨progress, none _, ?_⟩
    rintro _ ⟨⟩
  | ok sample =>
    refine ⟨progress, none _, ?_⟩
    rintro _ ⟨⟩
    exact emitted sample rfl

/-- The response that `negotiate` ends with is one whose telemetry the adapter takes in. -/
theorem negotiate_meets (progress : Progress begun s) :
    Meeting scene (negotiate scene) (fun begun result s => Untouched begun.state s ∧
      ∀ response, result = .ok response → response.telemetry.all (fun sample =>
        s.lastSourceMarker.any (behind sample) ||
          (gatewaySampleToCanonical scene sample s.binding).isOk) = true) begun s := by
  rw [Meeting, negotiate, meets_bind]
  refine request_meets progress ?_ ?_
  · intro begun raised s untouched
    refine ⟨untouched, ?_⟩
    rintro _ ⟨⟩
  · intro request response later isKind isPayload fit check
    dsimp only
    cases capabilities : response.capabilities with
    | none =>
      refine ⟨.refl later, ?_⟩
      rintro _ ⟨⟩
    | some offered =>
      dsimp only
      rw [meets_bind, meets_ofResult]
      cases valid : (validateCapabilities scene offered : Except (AdapterRaised F) Unit) with
      | error raised =>
        refine ⟨.refl later, ?_⟩
        rintro _ ⟨⟩
      | ok _ =>
        refine ⟨.refl later, ?_⟩
        rintro _ ⟨⟩
        have took : takes scene later.sessionId request response = true := by
          simp [takes, check, isKind, isPayload, capabilities, valid, Except.isOk, Except.toBool]
        have bound : later.binding = later.bindingAt request := by
          simp [bindingAt, isPayload]
        exact mapped_of_fits fit took (.refl later) bound

theorem connect_meets (transport : GatewayLifecycleState) :
    Meeting scene (connect scene transport) (fun begun _ s => Progress begun s) ⟨none, s⟩ s := by
  unfold connect
  split
  · exact (Untouched.refl s).progress
  · refine ⟨(Untouched.refl s).progress, ?_⟩
    rintro reply later _ ⟨rfl, -⟩
    rcases reply with raised | _
    · exact (Untouched.refl later).progress
    · have opened : Progress ⟨some ⟨.start, .ok ()⟩, later⟩ later.started := by
        refine ⟨fun kept => kept.started, ?_⟩
        rintro request reply ⟨⟩
      dsimp only
      rw [meets_bind, meets_modify, meets_bind, rescue, meets_handle]
      refine (negotiate_meets opened).mono ?_
      intro begun result s ended
      obtain ⟨untouched, mapped⟩ := ended
      cases result with
      | error raised =>
        refine ⟨untouched.progress, ?_⟩
        rintro reply later _ ⟨rfl, -⟩
        rcases reply with other | _
        · exact (Untouched.refl later).progress
        · exact (Untouched.refl later).progress
      | ok response =>
        have taken := mapped response rfl
        dsimp only
        rw [meets_returns]
        dsimp only
        rw [meets_bind, meets_modify]
        refine (takeOptional_meets ?_ ?_).mono ?_
        · exact ⟨untouched.1, untouched.2, untouched.3, untouched.4, untouched.5⟩
        · exact taken
        · rintro _ result s ⟨rfl, progress⟩
          exact progress

theorem bindRun_meets (binding : MissionRunBinding) :
    Meeting scene (bindRun scene binding) (fun begun _ s => Progress begun s) ⟨none, s⟩ s := by
  unfold bindRun
  split
  · exact (Untouched.refl s).progress
  · next bound _ =>
    split
    · exact (Untouched.refl s).progress
    · rw [Meeting, meets_bind]
      refine request_meets (Untouched.refl s).progress (fun _ _ _ untouched => untouched.progress) ?_
      intro request response later isKind isPayload fit check
      dsimp only
      rw [meets_bind, meets_modify]
      have took : takes scene later.sessionId request response = true := by
        refine takes_of_check check ?_ ?_ ?_ <;> simp [isKind, isPayload]
      refine (takeOptional_meets ?_ (mapped_of_fits fit took ?_ ?_)).mono ?_
      · exact ⟨rfl, rfl, rfl, rfl, rfl⟩
      · exact ⟨rfl, rfl, rfl, rfl, rfl⟩
      · simp [bindingAt, isPayload]
      · rintro _ result s ⟨rfl, progress⟩
        exact progress

theorem close_meets (progress : Progress begun s) :
    Meeting scene (close scene) (fun begun _ s => Progress begun s) begun s := by
  refine ⟨progress, ?_⟩
  rintro reply later _ ⟨rfl, -⟩
  rcases reply with raised | _
  · exact (Untouched.refl later).progress
  · constructor
    · exact fun kept => kept.congr rfl rfl rfl rfl
    · rintro request reply ⟨⟩

theorem suppressError_meets {call : IsaacCall F Unit}
    (meets : Meeting scene call (fun begun _ s => Progress begun s) begun s) :
    Meeting scene (suppressError call) (fun begun _ s => Progress begun s) begun s := by
  rw [Meeting, suppressError, rescue, meets_handle]
  refine meets.mono fun begun result s progress => ?_
  rcases result with (error | text | _) | _
  · exact progress
  · exact progress
  · exact progress
  · exact progress

theorem disconnect_meets (transport : GatewayLifecycleState) :
    Meeting scene (disconnect scene transport) (fun begun _ s => Progress begun s) ⟨none, s⟩ s := by
  unfold disconnect
  split
  · rw [Meeting, meets_bind]
    refine (suppressError_meets ?_).mono ?_
    · rw [Meeting, meets_bind]
      refine request_meets (Untouched.refl s).progress (fun _ _ _ untouched => untouched.progress) ?_
      intro request response later isKind isPayload fit check
      have took : takes scene later.sessionId request response = true := by
        refine takes_of_check check ?_ ?_ ?_ <;> simp [isKind, isPayload]
      refine (takeOptional_meets (.refl later) (mapped_of_fits fit took (.refl later) ?_)).mono ?_
      · simp [bindingAt, isPayload]
      · rintro _ result s ⟨rfl, progress⟩
        exact progress
    · intro begun result s progress
      cases result with
      | error raised => exact progress
      | ok _ => exact close_meets progress
  · exact close_meets (Untouched.refl s).progress

theorem refreshGatewayHealth_meets :
    Meeting scene (refreshGatewayHealth scene) (fun begun _ s => Progress begun s) ⟨none, s⟩ s := by
  rw [Meeting, refreshGatewayHealth, meets_bind]
  refine request_meets (Untouched.refl s).progress (fun _ _ _ untouched => untouched.progress) ?_
  intro request response later _ _ _ _
  dsimp only
  split
  · exact (Untouched.refl later).progress
  · exact Untouched.progress ⟨rfl, rfl, rfl, rfl, rfl⟩

theorem sendCommand_meets (command : VehicleCommand F) :
    Meeting scene (sendCommand scene command) (fun begun result s => Untouched begun.state s ∧
      ∀ response, result = .ok response → ∃ request,
        begun = ⟨some ⟨.request request, .ok (some response)⟩, s⟩ ∧
        request.operation = .command ∧ request.payload = .command command ∧
        fits scene (.request request) (.ok (some response)) s = true ∧
        checkResponse scene s.sessionId request response = .ok ()) ⟨none, s⟩ s := by
  rw [Meeting, sendCommand, meets_bind, meets_get]
  dsimp only
  split
  · refine ⟨.refl s, ?_⟩
    rintro _ ⟨⟩
  · next payload sent =>
    have same : payload = .command command := by
      obtain ⟨_, -, sent⟩ := bind_eq_ok.mp sent
      obtain ⟨_, -, sent⟩ := bind_eq_ok.mp sent
      cases sent
      rfl
    refine request_meets (Untouched.refl s).progress ?_ ?_
    · intro begun raised s untouched
      refine ⟨untouched, ?_⟩
      rintro _ ⟨⟩
    · intro request response later isKind isPayload fit check
      refine ⟨.refl later, ?_⟩
      rintro _ ⟨⟩
      exact ⟨request, rfl, isKind, isPayload.trans same, fit, check⟩

omit [PyFloat F] in
theorem checkResponse_eq_ok {session : Option String} {request : GatewayRequest F}
    {response : GatewayResponse F} (check : checkResponse scene session request response = .ok ()) :
    response.requestId = request.requestId ∧ response.operation = request.operation ∧
      response.vehicleId = scene.vehicleId ∧ response.ok = true ∧
      response.modelId = scene.modelId ∧ response.modelVersion = scene.modelVersion ∧
      ∀ named, session = some named → response.sessionId = some named := by
  obtain ⟨_, same, check⟩ := bind_eq_ok.mp check
  obtain ⟨_, vehicle, check⟩ := bind_eq_ok.mp check
  obtain ⟨_, success, check⟩ := bind_eq_ok.mp check
  obtain ⟨_, model, check⟩ := bind_eq_ok.mp check
  obtain ⟨_, version, check⟩ := bind_eq_ok.mp check
  obtain ⟨_, -, check⟩ := bind_eq_ok.mp check
  have named := require_eq_ok.mp check
  simp only [require_eq_ok, Bool.and_eq_true, beq_iff_eq] at same vehicle success model version
  refine ⟨same.1, same.2, vehicle, success, model, version, ?_⟩
  rintro named' rfl
  simpa using named

theorem execute_meets (command : VehicleCommand F) :
    Meeting scene (execute scene command) (fun begun result s => Progress begun s ∧
      ∀ acknowledgement, result = .ok acknowledgement → ∃ request response,
        begun.resumed = some ⟨.request request, .ok (some response)⟩ ∧
          Answers scene command begun.state.sessionId request response) ⟨none, s⟩ s := by
  unfold execute
  split
  · refine ⟨(Untouched.refl s).progress, ?_⟩
    rintro _ ⟨⟩
  · next target =>
    rw [Meeting, meets_bind, rescue, meets_handle]
    refine (sendCommand_meets command).mono ?_
    intro begun result s ended
    obtain ⟨untouched, answered⟩ := ended
    cases result with
    | error raised =>
      refine ⟨untouched.progress, ?_⟩
      rintro _ ⟨⟩
    | ok response =>
      obtain ⟨request, rfl, isCommand, payload, fit, check⟩ := answered response rfl
      dsimp only
      rw [meets_returns]
      dsimp only
      split
      · refine ⟨(Untouched.refl s).progress, ?_⟩
        rintro _ ⟨⟩
      · next named =>
        have took : takes scene s.sessionId request response = true := by
          simp_all [takes, Except.isOk, Except.toBool]
        rw [meets_bind]
        refine (takeOptional_meets (.refl s) (mapped_of_fits fit took (.refl s) ?_)).mono ?_
        · simp [bindingAt, payload]
        · rintro _ result later ⟨rfl, progress⟩
          cases result with
          | error raised =>
            refine ⟨progress, ?_⟩
            rintro _ ⟨⟩
          | ok _ =>
            refine ⟨progress, fun _ _ => ⟨request, response, rfl, ?_⟩⟩
            obtain ⟨id, operation, vehicle, success, model, version, session⟩ :=
              checkResponse_eq_ok check
            constructor
            · exact payload
            · exact success
            · exact id
            · exact operation.trans isCommand
            · exact ⟨vehicle, by simpa using target⟩
            · exact ⟨model, version⟩
            · simp only [fits, sessionFits, isCommand, Bool.and_eq_true] at fit
              cases open_ : s.sessionId with
              | none => simpa [open_] using fit.2
              | some named => exact session named open_
            · simpa using named

end Meetings

section Runs

variable {s : IsaacSimVehicle F}

theorem isaacContract_met (scene : IsaacScene) :
    (isaacContract scene : Contract (Operation F) _ _ _ _ _ _).Met (program scene) := by
  intro operation s begun begins
  obtain ⟨rfl, -⟩ := begins
  have quiet (change : IsaacSimVehicle F → IsaacSimVehicle F)
      (kept : s.InStep → (change s).InStep) : Meeting scene (modify change)
        (fun begun _ s => Progress begun s) ⟨none, s⟩ s := by
    refine ⟨kept, ?_⟩
    rintro _ _ ⟨⟩
  cases operation with
  | connect transport => exact meets_done (by rintro _ ⟨⟩) (connect_meets transport)
  | bindRun binding => exact meets_done (by rintro _ ⟨⟩) (bindRun_meets binding)
  | disconnect transport => exact meets_done (by rintro _ ⟨⟩) (disconnect_meets transport)
  | refreshGatewayHealth => exact meets_done (by rintro _ ⟨⟩) refreshGatewayHealth_meets
  | subscribe => exact meets_done (by rintro _ ⟨⟩) (quiet _ fun kept => kept.subscribe)
  | receive stream =>
    exact meets_done (by rintro _ ⟨⟩) (quiet _ fun kept => kept.modify stream receive_same)
  | unsubscribe stream =>
    exact meets_done (by rintro _ ⟨⟩) (quiet _ fun kept => kept.modify stream fun _ => rfl)
  | snapshot =>
    refine meets_envelope (by rintro _ ⟨⟩) (meets_required _ ?_ ?_ ?_ ?_ (Untouched.refl s).progress)
    all_goals simp
  | resetSourceClock =>
    refine meets_envelope (by rintro _ ⟨⟩) (meets_required _ ?_ ?_ ?_ ?_ (Untouched.refl s).progress)
    all_goals simp
  | manualStep steps =>
    refine meets_envelope (by rintro _ ⟨⟩) ?_
    have refused (raised : AdapterRaised F) :
        Meeting scene (raises raised) (fun begun result s => Progress begun s ∧ ∀ sample,
          result = .ok sample → s.emitted = begun.state.emitted ++ [(s.connection, sample)])
          ⟨none, s⟩ s := by
      refine ⟨(Untouched.refl s).progress, ?_⟩
      rintro _ ⟨⟩
    unfold manualStep
    split
    · exact refused _
    · rw [Meeting, meets_bind, meets_get]
      dsimp only
      split
      · exact refused _
      · refine meets_required _ ?_ ?_ ?_ ?_ (Untouched.refl s).progress
        all_goals simp
  | execute command =>
    rw [program, meets_bind]
    refine (execute_meets command).mono ?_
    intro begun result s ended
    obtain ⟨progress, answered⟩ := ended
    cases result with
    | error raised =>
      refine ⟨progress, ?_, ?_⟩
      · rintro _ _ _ ⟨⟩
      · rintro _ ⟨⟩
    | ok acknowledgement =>
      refine ⟨progress, ?_, ?_⟩
      · rintro _ _ ⟨⟩ _
        exact answered acknowledgement rfl
      · rintro _ ⟨⟩

abbrev Loop (F : Type) :=
  EventLoop (Operation F) (IsaacSimVehicle F) (IsaacWait F) IsaacReply (AdapterRaised F) (Answer F)

/-- The adapter before its first connection. -/
def fresh (scene : IsaacScene) : IsaacSimVehicle F := { latest := disconnectedSample scene }

theorem step_promises {loop : Loop F} {turn : Turn (Operation F) (IsaacWait F) IsaacReply}
    (fit : loop.Calm (fun on reply s => fits scene on reply s = true) turn)
    (sound : loop.Sound (isaacContract scene)) (kept : loop.state.InStep) :
    (∀ operation before after rest,
      moved (program scene) loop turn = some (operation, before, after, rest) →
        (isaacContract scene).Promises operation (loop.begun turn) after rest) ∧
    (step (program scene) loop turn).Sound (isaacContract scene) ∧
    (step (program scene) loop turn).state.InStep := by
  have admitted : loop.Admitted (program scene) (isaacContract scene) turn := by
    refine admitted_ofReplies (fun _ _ => trivial) ?_
    rintro task reply rfl operation since on next found
    refine fit on (reply on) ?_
    simp only [begun, found]
  obtain ⟨keeps, suspended⟩ := step_sound (isaacContract_met scene) sound admitted
  have promises (operation : Operation F) (before after : IsaacSimVehicle F)
      (rest : IsaacCall F (Answer F))
      (moves : moved (program scene) loop turn = some (operation, before, after, rest)) :
      (isaacContract scene).Promises operation (loop.begun turn) after rest :=
    promises_ofReplies admitted keeps moves
  refine ⟨promises, suspended, ?_⟩
  rw [step_state]
  cases moving : moved (program scene) loop turn with
  | none => exact kept
  | some ended =>
    obtain ⟨operation, before, after, rest⟩ := ended
    have promised := promises operation before after rest moving
    rw [← begun_state loop turn] at kept
    cases rest with
    | done result => exact promised.1.1 kept
    | wait on next => exact promised.1 kept
    | act change next => exact promised.elim

end Runs

/-- In every interleaving, whatever the gateway sends, as long as no sample ahead of the marker is
refused and no session is named where the adapter has none: the envelopes of a connection are
emitted, returned and delivered in order, a refused sample leaves the marker and the latest one, so
that later ones are accepted, and a command is completed only by its own response. -/
theorem telemetry_in_step_and_commands_answered (scene : IsaacScene)
    (turns : List (Turn (Operation F) (IsaacWait F) IsaacReply))
    (fit : Runs.Along (step (program scene)) (fun loop turn =>
      loop.Calm (fun on reply s => fits scene on reply s = true) turn) ⟨fresh scene, []⟩ turns) :
    (Runs.run (step (program scene)) ⟨fresh scene, []⟩ turns).state.InStep ∧
    Welcomes scene (Runs.run (step (program scene)) ⟨fresh scene, []⟩ turns).state ∧
    Runs.Along (step (program scene)) (fun loop turn => ∀ operation before after rest,
        moved (program scene) loop turn = some (operation, before, after, rest) →
          (isaacContract scene).Promises operation (loop.begun turn) after rest)
      ⟨fresh scene, []⟩ turns := by
  have begins : (⟨fresh scene, []⟩ : Loop F).Sound (isaacContract scene) ∧
      (fresh scene : IsaacSimVehicle F).InStep :=
    ⟨by simp [Sound], ⟨by simp [fresh], by simp [fresh, Ordered], rfl, by simp [fresh]⟩⟩
  have ends := Runs.invariant_along (I := fun loop : Loop F =>
    loop.Sound (isaacContract scene) ∧ loop.state.InStep)
    (fun loop turn kept fit => (step_promises fit kept.1 kept.2).2) begins fit
  refine ⟨ends.2, ends.2.welcomes, ?_⟩
  refine Runs.along_of_invariant (I := fun loop : Loop F =>
    loop.Sound (isaacContract scene) ∧ loop.state.InStep) ?_ ?_ begins fit
  · exact fun loop turn kept fit => (step_promises fit kept.1 kept.2).2
  · exact fun loop turn kept fit => (step_promises fit kept.1 kept.2).1

section Gateway

def hoverScene : IsaacScene where
  sceneId := "hover-room"
  sha256 := "scene-digest"
  vehicleId := "cf01"
  modelId := "crazyflie-2"
  modelVersion := "1.0.0"
  parameterConfigurationSha256 := "model-digest"
  headless := true
  telemetryQueueBound := 2

def hoverCapabilities : GatewayCapabilities where
  simulationAuthority := true
  commands := requiredCommands
  vehicleCapabilities := features
  signals := requiredSignals
  maximumVehicles := 1
  supportsHeadless := true
  supportsManualStep := true
  supportsClockReset := true
  digitalTwinEnabled := false

def hoverSample (vehicleId : String) (sequence : Nat) : GatewayTelemetrySample ℚ where
  vehicleId := vehicleId
  sequence := sequence
  sourceTimestampS := 1
  sourceClockId := "isaac-cf01"
  sourceClockEpoch := 0
  modelId := "crazyflie-2"
  modelVersion := "1.0.0"
  runIdentitySha256 := none
  telemetry := { state := .ready, armed := false, flying := false }

def commandIdOf : GatewayPayload ℚ → Option String
  | .command command => some command.commandId
  | _ => none

def answerTo (request : GatewayRequest ℚ) (sample : GatewayTelemetrySample ℚ) :
    GatewayResponse ℚ where
  requestId := request.requestId
  operation := request.operation
  ok := true
  vehicleId := "cf01"
  gatewayInstanceId := "gateway-1"
  sessionId := some "session-1"
  modelId := "crazyflie-2"
  modelVersion := "1.0.0"
  frame := .home
  capabilities := some hoverCapabilities
  health := some ⟨0⟩
  telemetry := some sample
  commandId := commandIdOf request.payload
  errorCode := none
  error := none
  explicit := by simp [GatewayResponseFields.explicitSuccessOrError]

def gateway (sample : GatewayTelemetrySample ℚ) : (on : IsaacWait ℚ) → IsaacReply on
  | .start => .ok ()
  | .close => .ok ()
  | .request request => .ok (some (answerTo request sample))

def hoverArm : VehicleCommand ℚ where
  vehicleId := "cf01"
  commandId := "cmd-1"
  missionRunId := none
  fleet := none
  issuedAtMonotonicS := 0
  source := .test
  mode := .sim
  payload := .arm

/-- Three samples on one connection: with its start, with a snapshot and with a command. -/
def session (second third : GatewayTelemetrySample ℚ) :
    List (Turn (Operation ℚ) (IsaacWait ℚ) IsaacReply) :=
  [.call (.connect .new), .resume 0 (gateway (hoverSample "cf01" 1)),
    .resume 0 (gateway (hoverSample "cf01" 1)), .call .subscribe, .call .snapshot,
    .resume 2 (gateway second), .call (.execute hoverArm), .resume 3 (gateway third)]

def hovered (second third : GatewayTelemetrySample ℚ) : Loop ℚ :=
  Runs.run (step (program hoverScene)) ⟨fresh hoverScene, []⟩ (session second third)

theorem telemetry_in_step_and_commands_answered_hover :
    (hovered (hoverSample "cf01" 2) (hoverSample "cf01" 3)).state.InStep :=
  (telemetry_in_step_and_commands_answered hoverScene
    (session (hoverSample "cf01" 2) (hoverSample "cf01" 3)) (by decide)).1

/-- A sample of another vehicle is refused and moves the marker: the adapter's own next sample, which
is newer than its latest one, is then refused too. -/
theorem foreign_sample_moves_marker :
    ¬(hovered (hoverSample "cf02" 5) (hoverSample "cf01" 2)).state.InStep ∧
      (hovered (hoverSample "cf02" 5) (hoverSample "cf01" 2)).state.latest.sequence = 1 := by
  constructor
  · intro kept
    have moved : (hovered (hoverSample "cf02" 5) (hoverSample "cf01" 2)).state.lastSourceMarker =
        some (0, 5, 1) := by decide
    have last : (current (hovered (hoverSample "cf02" 5) (hoverSample "cf01" 2)).state).getLast?.map
        markerOf = some (0, 1, 1) := by decide
    have same := moved.symm.trans (kept.marker.trans last)
    exact absurd same (by decide)
  · decide

end Gateway

end IsaacSimVehicle
end CrazySwarm
