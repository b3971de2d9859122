import CrazySwarm.FleetAuthority

/-! Transitions of a fleet authority are atomic. A transition changes the binding in its last
segment or not at all, and holds both guards while it does, so that no command is under way. -/
namespace CrazySwarm

namespace MissionFleetAuthority
open Coroutine EventLoop

variable {σ W : Type} {R : W → Type} {F : Type}

section Statement

variable (adapter : Adapter σ W R F)

def requested (binding : FleetCommandBinding) (transition : FleetAuthorityTransition) :
    FleetCommandBinding :=
  { binding with
    taskId := transition.nextTaskId
    taskLeaseGeneration := transition.nextTaskLeaseGeneration }

/-- The receipt names the task lease that was asked for. -/
def matchesLease (receipt : FleetAuthorityTransitionReceipt)
    (transition : FleetAuthorityTransition) : Prop :=
  receipt.currentTaskId = transition.nextTaskId ∧
    receipt.currentTaskLeaseGeneration = transition.nextTaskLeaseGeneration

def answers (receipt : FleetAuthorityTransitionReceipt)
    (transition : FleetAuthorityTransition) : Prop :=
  receipt = {
    transitionId := transition.transitionId
    sequence := transition.sequence
    vehicleId := transition.vehicleId
    missionRunId := transition.missionRunId
    fleetSessionId := transition.fleetSessionId
    fleetRunId := transition.fleetRunId
    deploymentSha256 := transition.deploymentSha256
    previousTaskId := transition.expectedTaskId
    previousTaskLeaseGeneration := transition.expectedTaskLeaseGeneration
    currentTaskId := transition.nextTaskId
    currentTaskLeaseGeneration := transition.nextTaskLeaseGeneration
    reasonCode := transition.reasonCode
    authorizationSha256 := transition.authorizationSha256 }

/-- A transition that returns finds the binding it expects and leaves the one it asks for. -/
structure Succeeded (accepts : FleetAuthorityTransitionReceipt → FleetAuthorityTransition → Prop)
    (transition : FleetAuthorityTransition) (receipt : FleetAuthorityTransitionReceipt)
    (before after : MissionFleetAuthority σ) : Prop where
  bound : ∃ binding, before.binding = some binding ∧ expects transition binding = true ∧
    after.binding = some (requested binding transition)
  accepted : accepts receipt transition
  receipts : after.receipts = before.receipts ++ [receipt]

def Unchanged (before after : MissionFleetAuthority σ) : Prop :=
  after.binding = before.binding ∧ after.receipts = before.receipts

def runsUnder : EventLoop.Task (Operation σ W R F) (MissionFleetAuthority σ) (AuthorityAwaited W)
    (AuthorityReply R F) (Raised F) (Option FleetAuthorityTransitionReceipt) →
      Option (Option FleetCommandBinding)
  | ⟨_, _, .wait (.operation _ binding _) _⟩ => some binding
  | _ => none

structure Atomic (accepts : FleetAuthorityTransitionReceipt → FleetAuthorityTransition → Prop)
    (loop : Loop σ W R F) (turn : Turn σ W R F) : Prop where
  succeeds : ∀ requested before after receipt, mayTake loop turn = true →
    moved (program adapter) loop turn =
      some (.transition requested, before, after, .done (.ok (some receipt))) →
        Succeeded accepts requested receipt before after
  otherwise : ∀ label before after rest, mayTake loop turn = true →
    moved (program adapter) loop turn = some (label, before, after, rest) →
      (∀ receipt, rest ≠ .done (.ok (some receipt))) → Unchanged before after
  under : ∀ (task : Nat) binding,
    ((step adapter loop turn).tasks[task]?).bind runsUnder = some binding →
      (step adapter loop turn).state.binding = binding
  same : ∀ (task : Nat) binding later, (loop.tasks[task]?).bind runsUnder = some binding →
    ((step adapter loop turn).tasks[task]?).bind runsUnder = some later → later = binding

end Statement

variable {adapter : Adapter σ W R F} {s s' : MissionFleetAuthority σ} {loop : Loop σ W R F}
  {turn : Turn σ W R F} {α : Type}

abbrev Begun (σ W : Type) (R : W → Type) (F : Type) :=
  EventLoop.Begun (MissionFleetAuthority σ) (AuthorityAwaited W) (AuthorityReply R F)

section Contract

theorem Unchanged.refl (s : MissionFleetAuthority σ) : Unchanged s s := ⟨rfl, rfl⟩

theorem unchanged_turn {lock : AuthorityGuard} {flag : Bool} {before : MissionFleetAuthority σ}
    (unchanged : Unchanged before s) : Unchanged before (MissionFleetAuthority.turn lock flag s) := by
  cases lock <;> exact unchanged

/-- What the wait says of the binding. -/
def bindsAt : AuthorityAwaited W → MissionFleetAuthority σ → Prop
  | .acquire .., _ => True
  | .operation _ binding _, s => s.binding = binding
  | .adapter binding _, s => s.binding = some binding

/-- What may be assumed when a wait ends. -/
def calm (on : AuthorityAwaited W) (reply : AuthorityReply R F on)
    (later : MissionFleetAuthority σ) : Prop :=
  (∀ lock, holds on lock = true → later.locked lock = true) ∧
  (∀ lock, granted on reply = some lock → later.locked lock = false) ∧ bindsAt on later

/-- The segment holds these guards and has not changed the binding. -/
structure Holding (first : Begun σ W R F) (held : AuthorityGuard → Bool)
    (s : MissionFleetAuthority σ) : Prop where
  within : guards.Within first held s
  unchanged : Unchanged first.state s

/-- What the segments of every call do. -/
def authorityContract : Contract (Operation σ W R F) (MissionFleetAuthority σ) (AuthorityAwaited W)
    (AuthorityReply R F) (Raised F) (Option FleetAuthorityTransitionReceipt) (Begun σ W R F) :=
  .ofReplies (fun _ _ => True) (fun _ on _ reply later => calm on reply later)
    (fun _ first on s => Holding first (holds on) s ∧ bindsAt on s)
    fun label first result s => guards.Within first (fun _ => false) s ∧
      match label, result with
      | .transition requested, .ok (some receipt) =>
        Succeeded matchesLease requested receipt first.state s ∧
          ∀ lock, guards.others first lock = false
      | _, .ok (some _) => False
      | _, _ => Unchanged first.state s

/-- The contract of any part of a call. -/
abbrev Serves (c : AuthorityCall σ W R F α)
    (post : Begun σ W R F → Except (Raised F) α → MissionFleetAuthority σ → Prop)
    (first : Begun σ W R F) (s : MissionFleetAuthority σ) : Prop :=
  c.Meets (fun first on s => Holding first (holds on) s ∧ bindsAt on s)
    (fun on _ reply later resumed => resumed = ⟨some ⟨on, reply⟩, later⟩ ∧ calm on reply later)
    post first s

theorem holding_called : Holding (⟨none, s⟩ : Begun σ W R F) (fun _ => false) s :=
  ⟨Locks.within_called, .refl s⟩

theorem holding_resumed {on : AuthorityAwaited W} {reply : AuthorityReply R F on}
    (calm : calm on reply s) : Holding ⟨some ⟨on, reply⟩, s⟩ (holds on) s :=
  ⟨Locks.within_resumed calm.1, .refl s⟩

theorem withGuard_serves {lock : AuthorityGuard} {within : Bool} {body : AuthorityCall σ W R F α}
    {first : Begun σ W R F} {held : AuthorityGuard → Bool}
    {post : Begun σ W R F → Except (Raised F) α → MissionFleetAuthority σ → Prop}
    (waits : (holds (.acquire lock within : AuthorityAwaited W)) = held)
    (holding : Holding first held s)
    (runs : ∀ first s, Holding first (fun other => decide (other = lock) || held other) s →
      Serves body (fun first result s => post first result (MissionFleetAuthority.turn lock false s)) first s)
    (fails : ∀ first raised s, Holding first held s → post first (.error raised) s) :
    Serves (withGuard lock within body) post first s := by
  subst waits
  apply Locks.meets_withLock
  apply Locks.meets_acquire
  · intro free
    exact runs first _ ⟨holding.within.acquire free, unchanged_turn holding.unchanged⟩
  · intro taken
    refine ⟨⟨holding, trivial⟩, ?_⟩
    rintro reply later resumed ⟨rfl, calm⟩
    have holding := holding_resumed calm
    constructor
    · intro grants
      change reply = .ok () at grants
      subst grants
      exact runs _ _ ⟨holding.within.acquire (calm.2.1 lock rfl), unchanged_turn holding.unchanged⟩
    · exact fun raised _ => fails _ raised later holding

theorem awaitWorld_serves {mark : W → AuthorityAwaited W}
    {back : (on : W) → AuthorityReply R F (mark on) → R on} {call : Coroutine σ W R (Raised F) α}
    {first : Begun σ W R F} {held : AuthorityGuard → Bool} {P : Option FleetCommandBinding → Prop}
    {post : Begun σ W R F → Except (Raised F) α → MissionFleetAuthority σ → Prop}
    (marks : ∀ on, holds (mark on) = held ∧
      ∀ s : MissionFleetAuthority σ, bindsAt (mark on) s ↔ P s.binding)
    (holding : Holding first held s) (known : P s.binding)
    (ends : ∀ first result s, Holding first held s → P s.binding → post first result s) :
    Serves (awaitWorld mark back call) post first s := by
  have every : (awaitWorld mark back call).Everywhere
      (fun a b => ∃ world, b = { a with world }) fun on => ∃ inner, on = mark inner :=
    everywhere_zoom (everywhere_anything call) (fun _ world _ => ⟨world, rfl⟩)
      fun inner _ => ⟨inner, rfl⟩
  have keeps : (awaitWorld mark back call).Keeps
      (fun first s => Holding first held s ∧ P s.binding) (fun _ on => ∃ inner, on = mark inner)
      (fun on _ reply later resumed => resumed = ⟨some ⟨on, reply⟩, later⟩ ∧ calm on reply later)
      (fun _ _ => True) fun _ _ _ => True := by
    refine every.keeps ?_ (fun _ _ _ marked _ => marked) ?_
    · rintro first s _ ⟨holding, known⟩ - ⟨world, rfl⟩
      refine ⟨⟨⟨holding.within.congr fun lock => ?_, holding.unchanged⟩, known⟩, trivial⟩
      cases lock <;> rfl
    · rintro first _ s reply later _ ⟨inner, rfl⟩ ⟨rfl, calm⟩ - -
      exact ⟨⟨(marks inner).1 ▸ holding_resumed calm, ((marks inner).2 later).mp calm.2.2⟩, trivial⟩
  refine (keeps first s ⟨holding, known⟩ trivial).weaken ?_ fun first result s ended =>
    ends first result s ended.1.1 ended.1.2
  rintro first _ s ⟨⟨holding, known⟩, inner, rfl⟩
  exact ⟨(marks inner).1 ▸ holding, ((marks inner).2 s).mpr known⟩

theorem runOperation_serves {lock : AuthorityGuard}
    {operation : Option FleetCommandBinding → Coroutine σ W R (Raised F) α} {first : Begun σ W R F}
    {post : Begun σ W R F → Except (Raised F) α → MissionFleetAuthority σ → Prop}
    (holding : Holding first (· == lock) s)
    (ends : ∀ first result s, Holding first (· == lock) s → post first result s) :
    Serves (runOperation lock operation) post first s := by
  refine meets_bind.mpr (meets_get.mpr ?_)
  exact awaitWorld_serves (P := (· = s.binding)) (fun _ => ⟨rfl, fun _ => Iff.rfl⟩) holding rfl
    fun first result s holding _ => ends first result s holding

/-- The end of a segment that holds nothing and has changed nothing. -/
abbrev Ended (first : Begun σ W R F) (s : MissionFleetAuthority σ) : Prop :=
  guards.Within first (fun _ => false) s ∧ Unchanged first.state s

/-- Who releases the only guard that it holds holds none. -/
theorem released_alone {first : Begun σ W R F} {lock : AuthorityGuard}
    (within : guards.Within first (· == lock) s) :
    guards.Within first (fun _ => false) (MissionFleetAuthority.turn lock false s) := by
  have released : guards.Within first (fun other => !decide (other = lock) && other == lock)
      (MissionFleetAuthority.turn lock false s) := within.release (beq_self_eq_true lock)
  have empty : (fun other => !decide (other = lock) && other == lock) = fun _ => false := by
    funext other
    cases other <;> cases lock <;> rfl
  rwa [empty] at released

theorem released_both {first : Begun σ W R F} (within : guards.Within first (fun _ => true) s) :
    guards.Within first (fun _ => false) (MissionFleetAuthority.turn .guard false
      (MissionFleetAuthority.turn .healthGuard false s)) := by
  have released : guards.Within first
      (fun other => !decide (other = AuthorityGuard.healthGuard) && true)
      (MissionFleetAuthority.turn .healthGuard false s) := within.release rfl
  have left : (fun other => !decide (other = AuthorityGuard.healthGuard) && true) =
      (· == .guard) := by
    funext other
    cases other <;> rfl
  exact released_alone (left ▸ released)

theorem command_serves {lock : AuthorityGuard}
    {operation : Option FleetCommandBinding → Coroutine σ W R (Raised F) Unit} :
    Serves (withGuard lock false (runOperation lock operation)) (fun first _ s => Ended first s)
      ⟨none, s⟩ s := by
  have none' : holds (.acquire lock false : AuthorityAwaited W) = fun _ => false := rfl
  apply withGuard_serves none' holding_called
  · intro first s holding
    have alone : (fun other => decide (other = lock) || false) = (· == lock) := by
      funext other
      cases other <;> cases lock <;> rfl
    rw [alone] at holding
    exact runOperation_serves holding fun first result s holding =>
      ⟨released_alone holding.within, unchanged_turn holding.unchanged⟩
  · exact fun first raised s holding => ⟨holding.within, holding.unchanged⟩

/-- With both guards a transition finds the binding that nobody else changes. -/
theorem change_serves {transition : FleetAuthorityTransition} {first : Begun σ W R F}
    {post : Begun σ W R F → Except (Raised F) FleetAuthorityTransitionReceipt →
      MissionFleetAuthority σ → Prop}
    (holding : Holding first (fun _ => true) s)
    (fails : ∀ first raised s, Holding first (fun _ => true) s → post first (.error raised) s)
    (succeeds : ∀ first receipt s s', Holding first (fun _ => true) s →
      Succeeded matchesLease transition receipt s s' →
        (∀ lock, s'.locked lock = s.locked lock) → post first (.ok receipt) s') :
    Serves (change adapter transition) post first s := by
  refine meets_bind.mpr (meets_get.mpr ?_)
  dsimp only
  split
  · exact fails first _ s holding
  · next binding bound =>
    split
    · exact fails first _ s holding
    · next expected =>
      refine meets_bind.mpr (awaitWorld_serves (P := (· = some binding))
        (fun _ => ⟨rfl, fun _ => Iff.rfl⟩) holding bound fun first result s holding bound => ?_)
      cases result with
      | error raised => exact fails first raised s holding
      | ok receipt =>
        dsimp only
        split
        · exact fails first _ s holding
        · next lease =>
          have named : matchesLease receipt transition := by
            simpa [matchesLease, Prod.mk.injEq] using lease
          refine meets_bind.mpr (meets_modify.mpr (succeeds first receipt s _ holding
            ⟨⟨binding, bound, by simpa using expected, ?_⟩, named, rfl⟩ fun lock => ?_))
          · rw [requested, named.1, named.2]
          · cases lock <;> rfl

theorem transition_serves {transition : FleetAuthorityTransition} :
    Serves (MissionFleetAuthority.transition adapter transition) (fun first result s =>
      match result with
      | .ok receipt => guards.Within first (fun _ => false) s ∧
          Succeeded matchesLease transition receipt first.state s ∧
          ∀ lock, guards.others first lock = false
      | .error _ => Ended first s) ⟨none, s⟩ s := by
  have alone : holds (.acquire .guard false : AuthorityAwaited W) = fun _ => false := rfl
  have within : holds (.acquire .healthGuard true : AuthorityAwaited W) = (· == .guard) := rfl
  have outer : (fun other => decide (other = AuthorityGuard.guard) || false) = (· == .guard) := by
    funext other
    cases other <;> rfl
  have both : (fun other => decide (other = AuthorityGuard.healthGuard) || other == .guard) =
      fun _ => true := by
    funext other
    cases other <;> rfl
  apply withGuard_serves alone holding_called
  · intro first s holding
    rw [outer] at holding
    apply withGuard_serves within holding
    · intro first s holding
      rw [both] at holding
      apply change_serves holding
      · exact fun first raised s holding =>
          ⟨released_both holding.within, unchanged_turn (unchanged_turn holding.unchanged)⟩
      · intro first receipt s s' holding succeeded same
        obtain ⟨binding, bound, expected, changed⟩ := succeeded.bound
        refine ⟨released_both (holding.within.congr same), ⟨⟨binding, ?_, expected, changed⟩,
          succeeded.accepted, ?_⟩, fun lock => holding.within.apart lock rfl⟩
        · exact holding.unchanged.1.symm.trans bound
        · exact holding.unchanged.2 ▸ succeeded.receipts
    · intro first raised s holding
      exact ⟨released_alone holding.within, unchanged_turn holding.unchanged⟩
  · exact fun first raised s holding => ⟨holding.within, holding.unchanged⟩

theorem authorityContract_met (adapter : Adapter σ W R F) :
    authorityContract.Met (program adapter) := by
  rintro label s first ⟨rfl, -⟩
  cases label with
  | execute operation =>
    refine meets_bind.mpr (command_serves.mono ?_)
    rintro first (raised | value) s ended <;> exact ended
  | evaluateHealth operation =>
    refine meets_bind.mpr (command_serves.mono ?_)
    rintro first (raised | value) s ended <;> exact ended
  | transition requested =>
    refine meets_bind.mpr (transition_serves.mono ?_)
    rintro first (raised | receipt) s ended <;> exact ended

end Contract

section Invariant

structure Serialized (loop : Loop σ W R F) : Prop where
  sound : loop.Sound authorityContract
  exclusive : guards.Exclusive loop
  binds : ∀ (task : Nat) label since on next,
    loop.tasks[task]? = some ⟨label, since, .wait on next⟩ → bindsAt on loop.state

theorem serialized_admitted (serialized : Serialized loop) (mayTake : mayTake loop turn = true) :
    loop.Admitted (program adapter) authorityContract turn := by
  apply admitted_ofReplies
  · exact fun _ _ => trivial
  · rintro task reply rfl label since on next found
    refine ⟨fun lock held => ?_, fun lock grants => ?_, serialized.binds task label since on next found⟩
    · exact serialized.exclusive.locked task lock ⟨_, found, held⟩
    · simpa [MissionFleetAuthority.mayTake, found, grants] using mayTake

theorem promised (serialized : Serialized loop) (mayTake : mayTake loop turn = true)
    {label : Operation σ W R F} {before after : MissionFleetAuthority σ}
    {rest : AuthorityCall σ W R F (Option FleetAuthorityTransitionReceipt)}
    (moves : moved (program adapter) loop turn = some (label, before, after, rest)) :
    (authorityContract.Promises label (loop.begun turn) after rest) := by
  have admitted : loop.Admitted (program adapter) authorityContract turn :=
    serialized_admitted serialized mayTake
  have kept := (step_sound (authorityContract_met adapter) serialized.sound admitted).1
  exact promises_ofReplies admitted kept moves

/-- A segment accounts for its guards. -/
theorem within_of_promised {label : Operation σ W R F} {first : Begun σ W R F}
    {after : MissionFleetAuthority σ}
    {rest : AuthorityCall σ W R F (Option FleetAuthorityTransitionReceipt)}
    (promised : authorityContract.Promises label first after rest) :
    guards.Within first (guards.heldBy rest) after := by
  cases rest with
  | done result => exact promised.1
  | act change next => exact promised.elim
  | wait on next => exact promised.1.within

/-- A segment leaves the binding as it is, or returns the receipt of a transition while nobody
else holds a guard. -/
theorem changes_of_promised {label : Operation σ W R F} {first : Begun σ W R F}
    {after : MissionFleetAuthority σ}
    {rest : AuthorityCall σ W R F (Option FleetAuthorityTransitionReceipt)}
    (promised : authorityContract.Promises label first after rest) :
    Unchanged first.state after ∨ ∃ requested receipt, label = .transition requested ∧
      rest = .done (.ok (some receipt)) ∧
        Succeeded matchesLease requested receipt first.state after ∧
          ∀ lock, guards.others first lock = false := by
  cases rest with
  | act change next => exact promised.elim
  | wait on next => exact .inl promised.1.unchanged
  | done result =>
    obtain ⟨-, outcome⟩ := promised
    rcases result with raised | (_ | receipt)
    · exact .inl (by cases label <;> exact outcome)
    · exact .inl (by cases label <;> exact outcome)
    · cases label with
      | transition requested => exact .inr ⟨requested, receipt, rfl, rfl, outcome.1, outcome.2⟩
      | _ => exact outcome.elim

theorem binds_of_moved (serialized : Serialized loop) (mayTake : mayTake loop turn = true)
    {label : Operation σ W R F} {before after : MissionFleetAuthority σ}
    {rest : AuthorityCall σ W R F (Option FleetAuthorityTransitionReceipt)}
    (moves : moved (program adapter) loop turn = some (label, before, after, rest)) {task : Nat}
    {other : Operation σ W R F} {since : MissionFleetAuthority σ} {on : AuthorityAwaited W}
    {next : AuthorityReply R F on → AuthorityCall σ W R F (Option FleetAuthorityTransitionReceipt)}
    (found : loop.tasks[task]? = some ⟨other, since, .wait on next⟩)
    (elsewhere : task ≠ loop.index turn) : bindsAt on after := by
  have binds := serialized.binds task other since on next found
  have kept (lock : AuthorityGuard) (holding : holds on lock = true) :
      after.binding = loop.state.binding := by
    have taken := Locks.others_of_held serialized.exclusive moves ⟨_, found, holding⟩ elsewhere
    rcases changes_of_promised (promised serialized mayTake moves) with
      unchanged | ⟨_, _, _, _, _, alone⟩
    · exact unchanged.1.trans (by rw [begun_state])
    · rw [alone lock] at taken
      cases taken
  cases on with
  | acquire lock within => trivial
  | operation lock binding on => exact (kept lock (beq_self_eq_true lock)).trans binds
  | adapter binding on => exact (kept .guard rfl).trans binds

theorem step_serialized (adapter : Adapter σ W R F) (serialized : Serialized loop) :
    Serialized (step adapter loop turn) := by
  unfold step
  split
  · next mayTake =>
    have sound := (step_sound (authorityContract_met adapter) serialized.sound
      (serialized_admitted serialized mayTake)).2
    refine ⟨sound, Locks.step_exclusive serialized.exclusive fun _ _ _ _ moves =>
      within_of_promised (promised serialized mayTake moves), ?_⟩
    intro task label since on next found
    cases moves : moved (program adapter) loop turn with
    | none =>
      rw [step_idle moves] at found ⊢
      exact serialized.binds task label since on next found
    | some ended =>
      obtain ⟨moving, before, after, rest⟩ := ended
      have state : (EventLoop.step (program adapter) loop turn).state = after := by
        rw [step_state, moves]
        rfl
      rw [state]
      by_cases own : task = loop.index turn
      · rw [own, step_index moves] at found
        cases found
        exact (promised serialized mayTake moves).2
      · rw [step_other _ own] at found
        exact binds_of_moved serialized mayTake moves found own
  · exact serialized

theorem binds_of_runsUnder (serialized : Serialized loop) {task : Nat}
    {binding : Option FleetCommandBinding}
    (runs : (loop.tasks[task]?).bind runsUnder = some binding) : loop.state.binding = binding := by
  obtain ⟨⟨label, since, rest⟩, found, under⟩ := Option.bind_eq_some_iff.mp runs
  unfold runsUnder at under
  split at under
  · next suspended =>
    cases suspended
    cases under
    exact serialized.binds task _ _ _ _ found
  · cases under

/-- What the invariant gives for one turn. -/
theorem atomic_turn (serialized : Serialized loop) : Atomic adapter matchesLease loop turn := by
  refine ⟨?_, ?_, fun task binding => binds_of_runsUnder (step_serialized adapter serialized), ?_⟩
  · intro requested before after receipt mayTake moves
    obtain ⟨-, succeeded, -⟩ := promised serialized mayTake moves
    rw [begun_state] at succeeded
    exact moved_before moves ▸ succeeded
  · intro label before after rest mayTake moves pending
    rcases changes_of_promised (promised serialized mayTake moves) with
      unchanged | ⟨_, receipt, _, ended, -⟩
    · rw [begun_state] at unchanged
      exact moved_before moves ▸ unchanged
    · exact absurd ended (pending receipt)
  · intro task binding later under under'
    have known := binds_of_runsUnder serialized under
    have known' := binds_of_runsUnder (step_serialized adapter serialized) under'
    unfold step at under' known'
    split at under'
    · next mayTake =>
      rw [if_pos mayTake] at known'
      by_cases own : task = loop.index turn
      · cases moves : moved (program adapter) loop turn with
        | none =>
          rw [step_idle moves] at known'
          exact known'.symm.trans known
        | some ended =>
          obtain ⟨label, before, after, rest⟩ := ended
          rw [step_state, moves] at known'
          rw [own, step_index moves] at under'
          rcases changes_of_promised (promised serialized mayTake moves) with
            unchanged | ⟨_, receipt, rfl, rfl, -⟩
          · rw [begun_state] at unchanged
            exact known'.symm.trans (unchanged.1.trans known)
          · cases under'
      · rw [step_other _ own, under] at under'
        exact (Option.some.inj under').symm
    · rw [under] at under'
      exact (Option.some.inj under').symm

/-- Whatever commands and transitions are called, in every order of their steps and for every
answer of the adapter: a transition succeeds from the binding that it expects to the one that it
asks for or leaves the binding as it is, and a command runs under one binding that does not
change while it does. -/
theorem transitions_atomic (adapter : Adapter σ W R F) (world : σ)
    (binding : Option FleetCommandBinding) (turns : List (Turn σ W R F)) :
    Runs.Along (step adapter) (Atomic adapter matchesLease) (initial world binding) turns := by
  have start : Serialized (initial world binding : Loop σ W R F) := by
    refine ⟨fun _ member => absurd member List.not_mem_nil, ⟨?_, ?_⟩, fun _ _ _ _ _ found => ?_⟩
    · rintro task lock ⟨_, found, -⟩
      cases found
    · rintro task other lock ⟨_, found, -⟩
      cases found
    · cases found
  exact Runs.along (fun _ _ => step_serialized adapter) (fun _ _ => atomic_turn) start

end Invariant

section Instances

/-- The lease of one task, and a transition of it to the next. -/
def surveyLease : FleetCommandBinding := ⟨"fleet", "run", "0", "survey", 1⟩

def handover : FleetAuthorityTransition where
  transitionId := "handover"
  sequence := 1
  vehicleId := "cf01"
  missionRunId := "run-cf01"
  fleetSessionId := "fleet"
  fleetRunId := "run"
  deploymentSha256 := "0"
  expectedTaskId := "survey"
  expectedTaskLeaseGeneration := 1
  nextTaskId := "return"
  nextTaskLeaseGeneration := 1
  reasonCode := "HANDOVER"
  authorizationSha256 := "0"
  changesAuthority := by decide

/-- The receipt of another vehicle's transition to the same lease. -/
def foreignReceipt : FleetAuthorityTransitionReceipt :=
  ⟨"other", 7, "cf02", "run-cf02", "fleet-b", "run-b", "1", "charge", 3, "return", 1, "OTHER", "1"⟩

/-- An adapter that answers every transition with it. -/
def misinformed : Adapter Unit Empty Empty.elim ℚ := fun _ => Coroutine.returns foreignReceipt

/-- A transition succeeds on a receipt that takes nothing but the lease from the request. -/
theorem foreign_receipt_accepted :
    ¬ Runs.Along (step misinformed) (Atomic misinformed answers)
      (initial () (some surveyLease)) [.call (.transition handover)] := by
  intro along
  have accepted := (along.1.succeeds handover _ _ foreignReceipt rfl rfl).accepted
  have same := congrArg FleetAuthorityTransitionReceipt.vehicleId accepted
  revert same
  decide

end Instances

end MissionFleetAuthority

end CrazySwarm
