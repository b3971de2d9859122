import CrazySwarm.GatewayTransport
import CrazySwarm.Lib.Runs

/-! Which line of the gateway a call of `request` returns, over every run of a transport. Requests
carry no number, so a line that stays unread shifts all later pairs on its connection. -/
namespace CrazySwarm.GatewayTransport

variable {V : Type} {kind : TransportKind} {transport : GatewayTransport V}

section Statement

/-- No request is written on a connection after a call with an unknown outcome, and a value that is
returned has come on the line that answers the request of its call. -/
def Allows (transport : GatewayTransport V) : GatewayOutcome V → Prop
  | .wrote _ number => (transport.connections[number]?).any (·.unknown) = false
  | .value id line _ => line.answers = some id
  | _ => True

def Lawful (kind : TransportKind) (transport : GatewayTransport V) (event : GatewayEvent V) : Prop :=
  transport.Allows (transport.step kind event).2

/-- The transport has neither failed nor is it stopping when a call gets the lock, and no call has
been cancelled over its line on the connection that it holds. -/
def MayRequest (kind : TransportKind) (transport : GatewayTransport V) : Prop :=
  transport.reported kind ≠ .failed ∧ transport.reported kind ≠ .stopping ∧
    transport.held.any (·.2.cancelled) = false

/-- The line answers a request of its connection for which there has been no line. -/
def Solicited (transport : GatewayTransport V) (number : Nat) (line : GatewayLine V) : Prop :=
  ∃ connection ∈ transport.connections[number]?, ∃ id ∈ line.answers,
    id ∈ connection.requests ∧ id ∉ connection.answered

def Careful (kind : TransportKind) (transport : GatewayTransport V) : GatewayEvent V → Prop
  | .request _ => transport.pending = none → transport.MayRequest kind
  | .line number line => transport.Solicited number line
  | _ => True

instance (transport : GatewayTransport V) : Decidable (transport.MayRequest kind) :=
  inferInstanceAs (Decidable (_ ∧ _ ∧ _))

instance (transport : GatewayTransport V) (number : Nat) (line : GatewayLine V) :
    Decidable (transport.Solicited number line) :=
  inferInstanceAs (Decidable (∃ connection ∈ transport.connections[number]?, ∃ id ∈ line.answers,
    id ∈ connection.requests ∧ id ∉ connection.answered))

instance (transport : GatewayTransport V) (event : GatewayEvent V) :
    Decidable (transport.Careful kind event) :=
  match event with
  | .request _ => inferInstanceAs (Decidable (transport.pending = none → transport.MayRequest kind))
  | .line number line => inferInstanceAs (Decidable (transport.Solicited number line))
  | .start | .startEnds _ | .readline | .timeout | .connectionError | .cancel | .close
  | .closeEnds _ | .forceTerminate | .hangUp _ | .exit _ => .isTrue trivial

end Statement

section Invariant

/-- The request whose line is waited for on the connection. -/
def awaited (transport : GatewayTransport V) (number : Nat) : Option Nat :=
  (transport.pending.filter (·.connection = number)).map (·.id)

structure Awaits (awaited : Option Nat) (connection : GatewayConnection V) : Prop where
  requests : ∀ id ∈ connection.requests, id ∈ connection.answered ∨ awaited = some id
  lines : connection.lines = [] ∨ ∃ id line, awaited = some id ∧ connection.lines = [line] ∧
    line.answers = some id ∧ id ∈ connection.answered

structure Paired (transport : GatewayTransport V) : Prop where
  awaits : ∀ {number connection}, transport.connections[number]? = some connection →
    connection.unknown = false → Awaits (transport.awaited number) connection
  waiting : ∀ {call connection}, transport.pending = some call →
    transport.connections[call.connection]? = some connection → connection.unknown = false
  halted : ∀ {number connection}, transport.current = some number →
    transport.connections[number]? = some connection → connection.unknown = true →
      transport.state = .failed ∨ transport.state = .stopping ∨ connection.cancelled = true

theorem paired_initial : Paired ({} : GatewayTransport V) where
  awaits := by simp
  waiting := by simp
  halted := by simp

theorem awaited_none (idle : transport.pending = none) (number : Nat) :
    transport.awaited number = none := by
  simp [awaited, idle]

theorem awaited_own {call : GatewayCall} (pending : transport.pending = some call) :
    transport.awaited call.connection = some call.id := by
  simp [awaited, pending]

theorem awaited_other {call : GatewayCall} (pending : transport.pending = some call) {number : Nat}
    (other : number ≠ call.connection) : transport.awaited number = none := by
  simp [awaited, pending, Ne.symm other]

theorem modified {connections : List (GatewayConnection V)} {number changed : Nat}
    {change : GatewayConnection V → GatewayConnection V} {after : GatewayConnection V}
    (found : (connections.modify changed change)[number]? = some after) :
    ∃ before, connections[number]? = some before ∧
      (changed = number ∧ after = change before ∨ changed ≠ number ∧ after = before) := by
  rw [List.getElem?_modify] at found
  cases present : connections[number]? with
  | none => simp [present] at found
  | some before =>
    refine ⟨before, rfl, ?_⟩
    by_cases same : changed = number
    · simp only [present, same, if_true, Option.map_eq_map, Option.map_some, Option.some.injEq] at found
      exact .inl ⟨same, found.symm⟩
    · simp only [present, same, if_false, Option.map_eq_map, Option.map_some, Option.some.injEq] at found
      exact .inr ⟨same, found.symm⟩

end Invariant

section Steps

variable {call : GatewayCall} {connection : GatewayConnection V}

/-- A transport whose calls and connections stay, and that comes to hold no connection on which an
outcome is unknown. -/
theorem Paired.of_same (paired : Paired transport) {after : GatewayTransport V}
    (connections : after.connections = transport.connections)
    (pending : after.pending = transport.pending)
    (current : after.current = none ∨ after.current = transport.current ∧
      (after.state = .failed ∨ after.state = .stopping ∨ after.state = transport.state)) :
    Paired after where
  awaits found known := by
    rw [connections] at found
    simpa only [awaited, pending] using paired.awaits found known
  waiting held found := by
    rw [connections] at found
    exact paired.waiting (pending ▸ held) found
  halted {number connection} held found unknown := by
    rw [connections] at found
    obtain none' | ⟨same, state⟩ := current
    · rw [none'] at held
      contradiction
    · obtain state | state | state := state
      · exact .inl state
      · exact .inr (.inl state)
      · rw [state]
        exact paired.halted (same ▸ held) found unknown

theorem Paired.of_modify (paired : Paired transport) {number : Nat}
    {change : GatewayConnection V → GatewayConnection V}
    (unknown : ∀ connection, (change connection).unknown = connection.unknown)
    (cancelled : ∀ connection, (change connection).cancelled = connection.cancelled)
    (awaits : ∀ connection, transport.connections[number]? = some connection →
      Awaits (transport.awaited number) connection →
        Awaits (transport.awaited number) (change connection)) :
    Paired (transport.modify number change) where
  awaits {other after} found known := by
    obtain ⟨before, present, ⟨rfl, rfl⟩ | ⟨-, rfl⟩⟩ := modified found
    · rw [unknown] at known
      exact awaits before present (paired.awaits present known)
    · exact paired.awaits present known
  waiting {call after} pending found := by
    obtain ⟨before, present, ⟨-, rfl⟩ | ⟨-, rfl⟩⟩ := modified found
    · rw [unknown]
      exact paired.waiting pending present
    · exact paired.waiting pending present
  halted {other after} current found lost := by
    obtain ⟨before, present, ⟨-, rfl⟩ | ⟨-, rfl⟩⟩ := modified found
    · rw [unknown] at lost
      rw [cancelled]
      exact paired.halted current present lost
    · exact paired.halted current present lost

theorem Awaits.congr {awaited : Option Nat} {after : GatewayConnection V}
    (awaits : Awaits awaited connection) (requests : after.requests = connection.requests)
    (lines : after.lines = connection.lines) (answered : after.answered = connection.answered) :
    Awaits awaited after where
  requests := by rw [requests, answered]; exact awaits.requests
  lines := by rw [lines, answered]; exact awaits.lines

theorem Awaits.receive {awaited : Option Nat} (awaits : Awaits awaited connection)
    {line : GatewayLine V} {id : Nat} (answers : line.answers = some id)
    (written : id ∈ connection.requests) (fresh : id ∉ connection.answered) :
    Awaits awaited (connection.receive line) := by
  by_cases hungUp : connection.hungUp = true
  · simpa [GatewayConnection.receive, hungUp] using awaits
  · have waited : awaited = some id := (awaits.requests id written).resolve_left fresh
    have empty : connection.lines = [] := by
      obtain empty | ⟨other, line, same, -, -, answered⟩ := awaits.lines
      · exact empty
      · rw [waited, Option.some.injEq] at same
        exact absurd (same ▸ answered) fresh
    constructor
    · intro other asked
      simp only [GatewayConnection.receive, hungUp] at asked ⊢
      obtain answered | waiting := awaits.requests other asked
      · exact .inl (List.mem_append_left _ answered)
      · exact .inr waiting
    · refine .inr ⟨id, line, waited, ?_, answers, ?_⟩
      · simp [GatewayConnection.receive, hungUp, empty]
      · simp [GatewayConnection.receive, hungUp, answers]

theorem Paired.own_line (paired : Paired transport) (pending : transport.pending = some call)
    (present : transport.connections[call.connection]? = some connection) {line : GatewayLine V}
    {rest : List (GatewayLine V)} (lines : connection.lines = line :: rest) :
    rest = [] ∧ line.answers = some call.id ∧ call.id ∈ connection.answered := by
  have awaits := paired.awaits present (paired.waiting pending present)
  rw [awaited_own pending] at awaits
  obtain empty | ⟨id, own, same, only, answers, answered⟩ := awaits.lines
  · rw [empty] at lines
    contradiction
  · rw [only] at lines
    injection lines with head tail
    injection same with same
    subst head same
    exact ⟨tail.symm, answers, answered⟩

theorem Paired.ended (paired : Paired transport) (pending : transport.pending = some call)
    {change : GatewayConnection V → GatewayConnection V} {state : GatewayLifecycleState}
    (same : state = .failed ∨ state = transport.state)
    (settles : ∀ connection, transport.connections[call.connection]? = some connection →
      (change connection).unknown = false → Awaits none (change connection))
    (halts : ∀ connection, transport.connections[call.connection]? = some connection →
      (change connection).unknown = true →
        state = .failed ∨ (change connection).cancelled = true) :
    Paired { transport.modify call.connection change with state := state, pending := none } where
  awaits {number after} found known := by
    rw [awaited_none rfl]
    obtain ⟨before, present, ⟨rfl, rfl⟩ | ⟨other, rfl⟩⟩ := modified found
    · exact settles before present known
    · have awaits := paired.awaits present known
      rwa [awaited_other pending (Ne.symm other)] at awaits
  waiting held := by contradiction
  halted {number after} current found lost := by
    obtain ⟨before, present, ⟨rfl, rfl⟩ | ⟨-, rfl⟩⟩ := modified found
    · exact (halts before present lost).imp_right .inr
    · obtain failed | same := same
      · exact .inl failed
      · rw [same]
        exact paired.halted current present lost

theorem Paired.lose (paired : Paired transport) (pending : transport.pending = some call)
    (message : String) : Paired (transport.lose call message).1 :=
  paired.ended pending (.inl rfl) (by simp) (by simp)

theorem available_some {number : Nat}
    (available : transport.available kind = some (number, connection)) :
    transport.current = some number ∧ transport.connections[number]? = some connection ∧
      transport.held = some (number, connection) ∧
      (kind.watchesProcess && connection.exited) = false := by
  simp only [GatewayTransport.available, Option.filter_eq_some_iff, Bool.not_eq_true'] at available
  obtain ⟨held, runs⟩ := available
  have both := held
  simp only [GatewayTransport.held, Option.bind_eq_some_iff, Option.map_eq_some_iff,
    Prod.mk.injEq] at both
  obtain ⟨_, current, _, present, rfl, rfl⟩ := both
  exact ⟨current, present, held, runs⟩

/-- A careful call finds a connection whose calls have all had an outcome. -/
theorem Paired.known (paired : Paired transport) {number : Nat}
    (available : transport.available kind = some (number, connection))
    (careful : transport.MayRequest kind) : connection.unknown = false := by
  obtain ⟨current, present, held, runs⟩ := available_some available
  obtain ⟨notFailed, notStopping, notCancelled⟩ := careful
  simp only [reported, held, runs] at notFailed notStopping
  rw [held, Option.any_some] at notCancelled
  by_contra unknown
  rw [Bool.not_eq_false] at unknown
  obtain failed | stopping | cancelled := paired.halted current present unknown
  · exact notFailed failed
  · exact notStopping stopping
  · rw [notCancelled] at cancelled
    contradiction

/-- The request that is written is the one waited for. -/
theorem Awaits.write (awaits : Awaits none connection) (id : Nat) :
    Awaits (some id) (connection.write id) := by
  have empty : connection.lines = [] := by
    obtain empty | ⟨_, _, waits, _⟩ := awaits.lines
    · exact empty
    · contradiction
  by_cases closing : connection.closing = true
  · rw [GatewayConnection.write, if_pos closing]
    exact ⟨fun other asked => .inl ((awaits.requests other asked).resolve_right (by simp)), .inl empty⟩
  · rw [GatewayConnection.write, if_neg closing]
    refine ⟨fun other asked => ?_, .inl empty⟩
    obtain asked | rfl : other ∈ connection.requests ∨ other = id := by simpa using asked
    · exact .inl ((awaits.requests other asked).resolve_right (by simp))
    · exact .inr rfl

theorem write_unknown (id : Nat) : (connection.write id).unknown = connection.unknown := by
  rw [GatewayConnection.write]
  split <;> rfl

theorem write_cancelled (id : Nat) : (connection.write id).cancelled = connection.cancelled := by
  rw [GatewayConnection.write]
  split <;> rfl

theorem Paired.wait (paired : Paired transport) (idle : transport.pending = none) {number : Nat}
    (present : transport.connections[number]? = some connection)
    (known : connection.unknown = false) :
    Paired { transport.modify number (·.write transport.calls) with
      calls := transport.calls + 1
      pending := some ⟨transport.calls, number⟩ } where
  awaits {other after} found still := by
    obtain ⟨before, there, ⟨rfl, rfl⟩ | ⟨different, rfl⟩⟩ := modified found
    · rw [write_unknown] at still
      have awaits := paired.awaits there still
      rw [awaited_none idle] at awaits
      simpa [awaited, Option.filter] using awaits.write transport.calls
    · have awaits := paired.awaits there still
      rw [awaited_none idle] at awaits
      simpa [awaited, Option.filter, different] using awaits
  waiting {call after} held found := by
    injection held with held
    subst held
    obtain ⟨before, there, ⟨-, rfl⟩ | ⟨different, -⟩⟩ := modified found
    · rw [present] at there
      injection there with same
      rw [write_unknown, ← same, known]
    · exact absurd rfl different
  halted {other after} current found lost := by
    obtain ⟨before, there, ⟨rfl, rfl⟩ | ⟨-, rfl⟩⟩ := modified found
    · rw [write_unknown] at lost
      rw [write_cancelled]
      exact paired.halted current there lost
    · exact paired.halted current there lost

theorem Paired.request (paired : Paired transport) (encoded : Option Nat)
    (careful : transport.pending = none → transport.MayRequest kind) :
    Paired (transport.request kind encoded).1 := by
  rw [GatewayTransport.request]
  by_cases idle : transport.pending = none
  · rw [if_neg (by simp [idle])]
    cases available : transport.available kind with
    | none =>
      refine paired.of_same rfl rfl (.inr ⟨rfl, ?_⟩)
      by_cases fails : kind.failsUnavailable = true <;> simp [fails]
    | some found =>
      obtain ⟨number, connection⟩ := found
      have present := (available_some available).2.1
      cases encoded with
      | none => exact paired
      | some length =>
        by_cases large : maxGatewayMessageBytes < length
        · simpa only [large, if_true] using paired
        · simp only [large, if_false]
          exact paired.wait idle present (paired.known available (careful idle))
  · rw [if_pos (by simpa [Option.isSome_iff_ne_none] using idle)]
    exact paired

/-- The line is read, and the call still holds it. -/
theorem Paired.take (paired : Paired transport) (pending : transport.pending = some call)
    (present : transport.connections[call.connection]? = some connection) {line : GatewayLine V}
    {rest : List (GatewayLine V)} (lines : connection.lines = line :: rest) :
    Paired (transport.modify call.connection ({ · with lines := rest })) := by
  obtain ⟨none', -, -⟩ := paired.own_line pending present lines
  exact paired.of_modify (fun _ => rfl) (fun _ => rfl) fun _ _ awaits => ⟨awaits.requests, .inl none'⟩

theorem Paired.readline (paired : Paired transport) (pending : transport.pending = some call)
    (present : transport.connections[call.connection]? = some connection) :
    Paired (transport.readline kind call connection).1 := by
  rw [GatewayTransport.readline]
  cases lines : connection.lines with
  | nil =>
    by_cases hungUp : connection.hungUp = true
    · simpa only [hungUp, if_true] using paired.lose pending kind.noResponse
    · simpa only [if_neg hungUp] using paired
  | cons line rest =>
    have taken := paired.take pending present lines
    obtain ⟨rfl, -, answered⟩ := paired.own_line pending present lines
    dsimp only
    split_ifs
    · exact taken.lose pending kind.unknownOutcome
    · exact taken.lose pending kind.noResponse
    · refine paired.ended pending (.inr rfl) (fun found there known => ?_) (fun found there lost => ?_)
      · rw [present] at there
        injection there with same
        subst same
        have awaits := paired.awaits present known
        rw [awaited_own pending] at awaits
        refine ⟨fun id asked => .inl ?_, .inl rfl⟩
        obtain already | waits := awaits.requests id asked
        · exact already
        · injection waits with waits
          exact waits ▸ answered
      · have known := paired.waiting pending there
        rw [known] at lost
        contradiction

/-- What keeps the pairs when it happens to a waiting call. -/
theorem Paired.onCall (paired : Paired transport)
    {change : GatewayCall → GatewayConnection V → GatewayTransport V × GatewayOutcome V}
    (kept : ∀ call connection, transport.pending = some call →
      transport.connections[call.connection]? = some connection →
        Paired (change call connection).1) :
    Paired (transport.onCall change).1 := by
  rw [GatewayTransport.onCall]
  cases pending : transport.pending with
  | none => exact paired
  | some call =>
    cases present : transport.connections[call.connection]? with
    | none => simpa only [present] using paired
    | some connection => simpa only [present] using kept call connection pending present

theorem Paired.connect (paired : Paired transport) :
    Paired { transport with
      starts := transport.starts - 1
      connections := transport.connections ++ [{}]
      current := some transport.connections.length
      state := .ready } := by
  have either : ∀ {number : Nat} {connection : GatewayConnection V},
      (transport.connections ++ [({} : GatewayConnection V)])[number]? = some connection →
        transport.connections[number]? = some connection ∨ connection = ({} : GatewayConnection V) := by
    intro number connection found
    rw [List.getElem?_append] at found
    split at found
    · exact .inl found
    · rw [List.getElem?_singleton] at found
      split at found
      · injection found with found
        exact .inr found.symm
      · contradiction
  constructor
  · intro number connection found known
    obtain found | rfl := either found
    · exact paired.awaits found known
    · exact ⟨by simp, .inl rfl⟩
  · intro call connection pending found
    obtain found | rfl := either found
    · exact paired.waiting pending found
    · rfl
  · intro number connection current found lost
    injection current with current
    subst current
    simp only [List.getElem?_append_right (Nat.le_refl _), Nat.sub_self, List.getElem?_cons_zero,
      Option.some.injEq] at found
    subst found
    contradiction

theorem Paired.startEnds (paired : Paired transport) (ending : StartEnding) :
    Paired (transport.startEnds kind ending).1 := by
  rw [GatewayTransport.startEnds]
  by_cases none' : transport.starts = 0
  · simpa only [none', if_true] using paired
  · rw [if_neg none']
    cases ending with
    | connects => exact paired.connect
    | fails => exact paired.of_same rfl rfl (.inr ⟨rfl, .inl rfl⟩)
    | escapes => exact paired.of_same rfl rfl (.inr ⟨rfl, .inr (.inr rfl)⟩)

end Steps

section Runs

variable {event : GatewayEvent V}

theorem Paired.close (paired : Paired transport) : Paired transport.close := by
  rw [GatewayTransport.close]
  cases current : transport.current with
  | none => exact paired.of_same rfl rfl (.inl rfl)
  | some number =>
    have closing : Paired (transport.modify number ({ · with closing := true })) :=
      paired.of_modify (fun _ => rfl) (fun _ => rfl) fun _ _ awaits => awaits.congr rfl rfl rfl
    exact closing.of_same rfl rfl (.inr ⟨current.symm ▸ rfl, .inr (.inl rfl)⟩)

theorem Paired.closeEnds (paired : Paired transport) (completes : Bool) :
    Paired (transport.closeEnds completes) := by
  rw [GatewayTransport.closeEnds]
  by_cases none' : transport.closes = 0
  · simpa only [none', if_true] using paired
  · rw [if_neg none']
    cases completes with
    | false => exact paired.of_same rfl rfl (.inr ⟨rfl, .inr (.inr rfl)⟩)
    | true => exact paired.of_same rfl rfl (.inl rfl)

theorem Paired.line (paired : Paired transport) {number : Nat} {line : GatewayLine V}
    (solicited : transport.Solicited number line) :
    Paired (transport.modify number (·.receive line)) := by
  obtain ⟨connection, present, id, answers, written, fresh⟩ := solicited
  refine paired.of_modify (fun before => ?_) (fun before => ?_) fun before there awaits => ?_
  · rw [GatewayConnection.receive]
    split <;> rfl
  · rw [GatewayConnection.receive]
    split <;> rfl
  · rw [Option.mem_def.mp present] at there
    injection there with same
    subst same
    exact awaits.receive answers written fresh

theorem Paired.next (paired : Paired transport) (careful : transport.Careful kind event) :
    Paired (transport.next kind event) := by
  cases event with
  | start =>
    simp only [GatewayTransport.next, step, start]
    split_ifs with early
    · refine ⟨paired.awaits, paired.waiting, fun current found lost => .inr (.inr ?_)⟩
      obtain failed | stopping | cancelled := paired.halted current found lost
      · simp [failed] at early
      · simp [stopping] at early
      · exact cancelled
    · exact paired
  | startEnds ending => exact paired.startEnds ending
  | request encoded => exact paired.request encoded careful
  | readline => exact paired.onCall fun _ _ pending present => paired.readline pending present
  | timeout => exact paired.onCall fun _ _ pending _ => paired.lose pending kind.unknownOutcome
  | connectionError =>
    exact paired.onCall fun _ _ pending _ => paired.lose pending kind.unknownOutcome
  | cancel =>
    exact paired.onCall fun _ _ pending _ =>
      paired.ended pending (.inr rfl) (by simp) fun _ _ _ => .inr rfl
  | close => exact paired.close
  | closeEnds completes => exact paired.closeEnds completes
  | forceTerminate =>
    by_cases watches : kind.watchesProcess = true
    · simp only [GatewayTransport.next, step, if_pos watches]
      exact paired.of_same rfl rfl (.inr ⟨rfl, .inl rfl⟩)
    · simpa only [GatewayTransport.next, step, if_neg watches] using paired
  | line number line => exact paired.line careful
  | hangUp number =>
    exact paired.of_modify (fun _ => rfl) (fun _ => rfl) fun _ _ awaits => awaits.congr rfl rfl rfl
  | exit number =>
    exact paired.of_modify (fun _ => rfl) (fun _ => rfl) fun _ _ awaits => awaits.congr rfl rfl rfl

/-- A value that `readline` hands to the call is that of its own line. -/
theorem Paired.allows_readline (paired : Paired transport) {call : GatewayCall}
    {connection : GatewayConnection V} (pending : transport.pending = some call)
    (present : transport.connections[call.connection]? = some connection) :
    transport.Allows (transport.readline kind call connection).2 := by
  rw [GatewayTransport.readline]
  cases lines : connection.lines with
  | nil =>
    dsimp only
    split_ifs <;> trivial
  | cons line rest =>
    have answers := (paired.own_line pending present lines).2.1
    dsimp only
    split_ifs
    · trivial
    · trivial
    · rw [decodeObject]
      split
      · exact answers
      · trivial
      · trivial

theorem allows_onCall
    {change : GatewayCall → GatewayConnection V → GatewayTransport V × GatewayOutcome V}
    (allows : ∀ call connection, transport.pending = some call →
      transport.connections[call.connection]? = some connection →
        transport.Allows (change call connection).2) :
    transport.Allows (transport.onCall change).2 := by
  rw [onCall]
  cases pending : transport.pending with
  | none => trivial
  | some call =>
    cases present : transport.connections[call.connection]? with
    | none => simp only [present]; trivial
    | some connection => simpa only [present] using allows call connection pending present

theorem Paired.allows_request (paired : Paired transport) (encoded : Option Nat)
    (careful : transport.pending = none → transport.MayRequest kind) :
    transport.Allows (transport.request kind encoded).2 := by
  rw [GatewayTransport.request]
  by_cases waits : transport.pending.isSome = true
  · rw [if_pos waits]
    trivial
  · rw [if_neg waits]
    rw [Option.not_isSome_iff_eq_none] at waits
    cases available : transport.available kind with
    | none => trivial
    | some found =>
      obtain ⟨number, connection⟩ := found
      have present := (available_some available).2.1
      have known := paired.known available (careful waits)
      cases encoded with
      | none => trivial
      | some length =>
        dsimp only
        split_ifs
        · trivial
        · trivial
        · simp only [Allows, present, Option.any_some, known]

theorem Paired.lawful (paired : Paired transport) (careful : transport.Careful kind event) :
    transport.Lawful kind event := by
  cases event with
  | start => simp only [Lawful, step, start]; split <;> trivial
  | startEnds ending =>
    simp only [Lawful, step, GatewayTransport.startEnds]
    split
    · trivial
    · cases ending <;> trivial
  | request encoded => exact paired.allows_request encoded careful
  | readline => exact allows_onCall fun _ _ pending present => paired.allows_readline pending present
  | timeout | connectionError | cancel => exact allows_onCall fun _ _ _ _ => trivial
  | close | closeEnds | forceTerminate | line | hangUp | exit => trivial

/-- On either transport, when no call gets the lock while the transport has failed or is stopping
or after a cancelled call on its connection, and when each line of the gateway is for a request
that had none, a call with an unknown outcome is the last to write on its connection and every
value that is returned answers the request of its call. -/
theorem requests_answered (kind : TransportKind) (events : List (GatewayEvent V))
    (careful : Runs.Along (next kind) (Careful kind) ({} : GatewayTransport V) events) :
    Runs.Along (next kind) (Lawful kind) ({} : GatewayTransport V) events :=
  Runs.along_of_invariant (fun _ _ paired careful => paired.next careful)
    (fun _ _ paired careful => paired.lawful careful) paired_initial careful

/-- The line of a request comes after its call has timed out, and the transport is started again. -/
theorem requests_answered_restarted :
    Runs.Along (next managedProcessTransport) (Lawful managedProcessTransport)
      ({} : GatewayTransport Nat)
      [.start, .startEnds .connects, .request (some 40), .line 0 ⟨20, .object 7, some 0⟩, .readline,
        .request (some 40), .timeout, .line 0 ⟨20, .object 8, some 1⟩, .close, .closeEnds true,
        .start, .startEnds .connects, .request (some 40), .line 1 ⟨20, .object 9, some 2⟩,
        .readline] :=
  requests_answered managedProcessTransport _ (by decide)

/-- The line of a request comes after its call has timed out. The next call writes its request on
the same connection and returns the value of that line. -/
theorem not_requests_answered :
    ¬ ∀ (kind : TransportKind) (events : List (GatewayEvent Nat)),
      Runs.Along (next kind) (Lawful kind) ({} : GatewayTransport Nat) events := by
  intro lawful
  have late := lawful tlsGatewayTransport
    [.start, .startEnds .connects, .request (some 40), .timeout,
      .line 0 ⟨20, .object 7, some 0⟩, .request (some 40), .readline]
  obtain ⟨-, -, -, -, -, -, returned, -⟩ := late
  have shifted : some 0 = some 1 := returned
  contradiction

end Runs

end CrazySwarm.GatewayTransport
