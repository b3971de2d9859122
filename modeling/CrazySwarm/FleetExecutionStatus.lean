import CrazySwarm.FleetExecution

/-! When the terminal status of an execution is final and a cancelled execution ends as one, over
every interleaving of its run with any number of cancel calls. -/
namespace CrazySwarm
namespace ExecutionCoordinator
open Coroutine EventLoop

variable {owner : ExecutionOwner}

abbrev Loop :=
  EventLoop Operation ExecutionCoordinator ExecutionWait ExecutionReply ExecutionRaised
    ExecutionRecord

abbrev Beginning := Begun ExecutionCoordinator ExecutionWait ExecutionReply

section Statement

def Cancelled (s : ExecutionCoordinator) : Prop :=
  s.status = .aborted ∧ s.reasonCode = some "EXECUTION_CANCELLED"

instance Cancelled.decidable (s : ExecutionCoordinator) : Decidable s.Cancelled :=
  inferInstanceAs (Decidable (_ ∧ _))

/-- A terminal status stays with its reason. -/
def Final (a b : ExecutionCoordinator) : Prop :=
  a.terminal = true → b.status = a.status ∧ b.reasonCode = a.reasonCode

/-- A record that a call returns shows the status of the moment. -/
def Shows (result : Except ExecutionRaised ExecutionRecord) (s : ExecutionCoordinator) : Prop :=
  ∀ record, result = .ok record → record.status = s.status ∧ record.reasonCode = s.reasonCode

def resultOf : ExecutionCall ExecutionRecord → Option (Except ExecutionRaised ExecutionRecord)
  | .done result => some result
  | _ => none

/-- The run has returned or raised. -/
def runFinished (loop : Loop) : Bool :=
  loop.tasks.any fun task => task.label == .run && (resultOf task.rest).isSome

def waitOf : ExecutionCall ExecutionRecord → Option ExecutionWait
  | .wait on _ => some on
  | _ => none

def admitsCancel (s : ExecutionCoordinator) : ExecutionWait → Bool
  | .cancelActive .failed => false
  | .disconnectAllSafe => s.Cancelled
  | _ => true

def admitted (loop : Loop) : Turn Operation ExecutionWait ExecutionReply → Bool
  | .call .run => !loop.state.terminal && loop.tasks.all (·.label != .run)
  | .call .cancel => loop.tasks.all fun task =>
      task.label != .run || (waitOf task.rest).all loop.state.admitsCancel
  | .resume .. => true

def orderly (owner : ExecutionOwner) : (on : ExecutionWait) → ExecutionReply on →
    ExecutionCoordinator → Bool
  | .prepare _, .error raised, s => !s.cancelRequested || raised == .cancelled
  | .mission, .error raised, s => !s.cancelRequested || raised == .cancelled
  | .cancelActive .cancelled, .error raised, _ => !escapes owner raised
  | _, _, _ => true

def Orderly (owner : ExecutionOwner) (loop : Loop)
    (turn : Turn Operation ExecutionWait ExecutionReply) : Prop :=
  loop.Calm (fun on reply s => orderly owner on reply s = true) turn ∧ admitted loop turn = true

instance Orderly.decidable (owner : ExecutionOwner) (loop : Loop)
    (turn : Turn Operation ExecutionWait ExecutionReply) : Decidable (Orderly owner loop turn) :=
  inferInstanceAs (Decidable (_ ∧ _))

end Statement

section Contract

structure Underway (s : ExecutionCoordinator) : Prop where
  open_ : s.cleanupComplete = false
  ended : s.terminal = true → s.cancelRequested = true ∧ s.Cancelled

/-- What holds of the execution while a call waits so. -/
def Standing (operation : Operation) (on : ExecutionWait) (s : ExecutionCoordinator) : Prop :=
  match operation, on with
  | .cancel, _ => s.cancelRequested = true
  | .run, .cancelActive .failed => s.Underway ∧ s.cancelRequested = false
  | .run, .cancelActive _ => s.Underway ∧ s.cancelRequested = true
  | .run, .disconnectAllSafe =>
    s.cleanupComplete = false ∧ (s.cancelRequested = true → s.Cancelled)
  | .run, _ => s.Underway

/-- What a cancellation does: it is requested, and ends an execution that has not ended. -/
def Gentle (a b : ExecutionCoordinator) : Prop :=
  b = a ∨ b.cancelRequested = true ∧ b.cleanupComplete = a.cleanupComplete ∧
    (b.status = a.status ∧ b.reasonCode = a.reasonCode ∨ a.terminal = false ∧ b.Cancelled)

structure Moves (operation : Operation) (a b : ExecutionCoordinator) : Prop where
  final : Final a b
  requested : a.cancelRequested = true → b.cancelRequested = true
  gentle : operation = .cancel → Gentle a b

/-- What every segment of the run and of a cancellation keeps. -/
def executionContract (owner : ExecutionOwner) : Contract Operation ExecutionCoordinator
    ExecutionWait ExecutionReply ExecutionRaised ExecutionRecord Beginning :=
  .ofReplies (fun operation s => operation = .run → s.Underway ∧ s.terminal = false)
    (fun operation on since reply later =>
      Final since later ∧ Standing operation on later ∧ orderly owner on reply later = true)
    (fun operation begun on s => Moves operation begun.state s ∧ Standing operation on s)
    (fun operation begun result s => Moves operation begun.state s ∧ Shows result s ∧
      (operation = .run → s.cancelRequested = true → s.Cancelled))

end Contract

section Segments

variable {s : ExecutionCoordinator} {begun : Beginning} {α : Type}

theorem Cancelled.terminal (cancelled : s.Cancelled) : s.terminal = true := by
  simp [ExecutionCoordinator.terminal, cancelled.1]

theorem setCancelled_cancelled (message : String) (s : ExecutionCoordinator) :
    (s.setCancelled message).Cancelled := ⟨rfl, rfl⟩

theorem Final.refl (s : ExecutionCoordinator) : Final s s := fun _ => ⟨rfl, rfl⟩

theorem Final.trans {a b c : ExecutionCoordinator} (first : Final a b) (later : Final b c) :
    Final a c := by
  intro terminal
  obtain ⟨status, reason⟩ := first terminal
  have next : b.terminal = true := by rwa [ExecutionCoordinator.terminal, status]
  exact ⟨(later next).1.trans status, (later next).2.trans reason⟩

theorem Final.cancelled {a b : ExecutionCoordinator} (final : Final a b) (cancelled : a.Cancelled) :
    b.Cancelled :=
  ⟨(final cancelled.terminal).1.trans cancelled.1, (final cancelled.terminal).2.trans cancelled.2⟩

/-- A status that is terminal only by a cancellation is what a cancellation makes it. -/
theorem Underway.final (underway : s.Underway) {b : ExecutionCoordinator} (cancelled : b.Cancelled) :
    Final s b := by
  intro terminal
  obtain ⟨status, reason⟩ := (underway.ended terminal).2
  exact ⟨cancelled.1.trans status.symm, cancelled.2.trans reason.symm⟩

theorem Moves.refl (operation : Operation) (s : ExecutionCoordinator) : Moves operation s s :=
  ⟨.refl s, id, fun _ => .inl rfl⟩

theorem Moves.ofRun {a b : ExecutionCoordinator} (final : Final a b)
    (requested : a.cancelRequested = true → b.cancelRequested = true) : Moves .run a b :=
  ⟨final, requested, by rintro ⟨⟩⟩

/-- A call of the run, from wait to wait, in the terms of the contract. -/
abbrev RunMeets (owner : ExecutionOwner) (call : ExecutionCall α)
    (post : Beginning → Except ExecutionRaised α → ExecutionCoordinator → Prop) (begun : Beginning)
    (s : ExecutionCoordinator) : Prop :=
  call.Meets ((executionContract owner).rel .run) ((executionContract owner).ready .run) post begun s

theorem stage_meets {stage : PreparationStage}
    {post : Beginning → Except ExecutionRaised Unit → ExecutionCoordinator → Prop}
    (moves : Moves .run begun.state s) (underway : s.Underway)
    (ok : ∀ begun : Beginning, begun.state.Underway → post begun (.ok ()) begun.state)
    (error : ∀ (begun : Beginning) raised, begun.state.Underway →
      (begun.state.cancelRequested = true → raised = .cancelled) →
        post begun (.error raised) begun.state) :
    RunMeets owner (ExecutionCoordinator.stage stage) post begun s := by
  refine ⟨⟨moves, underway⟩, ?_⟩
  rintro reply later _ ⟨rfl, -, standing, fit⟩
  cases reply with
  | ok _ => exact ok ⟨_, later⟩ standing
  | error raised =>
    refine error ⟨_, later⟩ raised standing fun requested => ?_
    change later.cancelRequested = true at requested
    simpa [orderly, requested] using fit

/-- How a preparation, a mission or a handler leaves the execution. -/
def Ended : Except ExecutionRaised (Option ExecutionRecord) → ExecutionCoordinator → Prop
  | .ok early, s => s.cleanupComplete = false ∧ (s.cancelRequested = true → s.Cancelled) ∧
      ∀ record, early = some record → s.Cancelled ∧ record = s.record
  | .error raised, s => s.Underway ∧ (s.cancelRequested = true → raised = .cancelled)

theorem prepare_meets (moves : Moves .run begun.state s) (underway : s.Underway)
    {post : Beginning → Except ExecutionRaised Unit → ExecutionCoordinator → Prop}
    (ok : ∀ begun : Beginning, begun.state.Underway → post begun (.ok ()) begun.state)
    (error : ∀ (begun : Beginning) raised, begun.state.Underway →
      (begun.state.cancelRequested = true → raised = .cancelled) →
        post begun (.error raised) begun.state) : RunMeets owner prepare post begun s := by
  have follow (stage : PreparationStage) (rest : ExecutionCall Unit)
      (later : ∀ begun : Beginning, begun.state.Underway → RunMeets owner rest post begun begun.state)
      (begun : Beginning) (s : ExecutionCoordinator) (moves : Moves .run begun.state s)
      (underway : s.Underway) :
      RunMeets owner (ExecutionCoordinator.stage stage >>= fun _ => rest) post begun s := by
    rw [RunMeets, meets_bind]
    exact stage_meets moves underway later error
  refine follow _ _ (fun begun underway => ?_) _ _ moves underway
  refine follow _ _ (fun begun underway => ?_) _ _ (.refl _ _) underway
  refine follow _ _ (fun begun underway => ?_) _ _ (.refl _ _) underway
  refine follow _ _ (fun begun underway => ?_) _ _ (.refl _ _) underway
  exact stage_meets (.refl _ _) underway ok error

theorem applyResult_flags (s : ExecutionCoordinator) (result : ExecutionResult) :
    (s.applyResult result).cleanupComplete = s.cleanupComplete ∧
      (s.applyResult result).cancelRequested = s.cancelRequested := by
  rcases result with ⟨status, _, _⟩ | ⟨status, _, _⟩
  · cases status <;> exact ⟨rfl, rfl⟩
  · cases status <;> exact ⟨rfl, rfl⟩

/-- A mission whose result is in: a requested cancellation makes it a cancelled one. -/
theorem finished_ended (fleet : Bool) (result : ExecutionResult) (underway : s.Underway) :
    Moves .run s (s.finished fleet result) ∧ Ended (.ok none) (s.finished fleet result) := by
  unfold finished
  dsimp only
  split
  · next requested =>
    have cancelled := setCancelled_cancelled (if fleet then
      "execution cancellation completed with bounded fleet cleanup"
      else "execution cancellation completed with bounded mission cleanup")
      { s with result := some result }
    refine ⟨.ofRun (underway.final cancelled) id, underway.open_, fun _ => cancelled, ?_⟩
    rintro _ ⟨⟩
  · next unrequested =>
    obtain ⟨cleanup, same⟩ := applyResult_flags { s with result := some result } result
    refine ⟨.ofRun ?_ fun requested => absurd requested unrequested, cleanup.trans underway.open_, ?_, ?_⟩
    · intro terminal
      exact absurd (underway.ended terminal).1 unrequested
    · intro requested
      exact absurd (same.symm.trans requested) unrequested
    · rintro _ ⟨⟩

def MissionEnded (begun : Beginning) :
    Except ExecutionRaised ExecutionResult → ExecutionCoordinator → Prop
  | .ok _, s => begun.state = s ∧ s.Underway
  | .error raised, s => Moves .run begun.state s ∧ Ended (.error raised) s

theorem runMission_meets {running : ExecutionCoordinator} (moves : Moves .run begun.state running)
    (underway : running.Underway) (unrequested : ¬running.cancelRequested = true) :
    RunMeets owner (runMission owner) MissionEnded begun running := by
  have waits : RunMeets owner (wait .mission fun reply => ofResult reply) MissionEnded begun running := by
    refine ⟨⟨moves, underway⟩, ?_⟩
    rintro reply later _ ⟨rfl, -, standing, fit⟩
    cases reply with
    | ok result => exact ⟨rfl, standing⟩
    | error raised =>
      refine ⟨.refl _ _, standing, fun requested => ?_⟩
      simpa [orderly, requested] using fit
  cases owner with
  | fleetCoordinator => exact waits
  | missionRunner arguments =>
    cases arguments with
    | ok _ => exact waits
    | error raised => exact ⟨moves, underway, fun requested => absurd requested unrequested⟩

theorem attempt_meets (live : s.terminal = false) (underway : s.Underway) :
    RunMeets owner (attempt owner) (fun begun result s => Moves .run begun.state s ∧ Ended result s)
      ⟨none, s⟩ s := by
  have preparing : (s.setStatus .preparing "initializing and verifying mission deployment").Underway :=
    ⟨underway.open_, by rintro ⟨⟩⟩
  rw [RunMeets, attempt, meets_bind, meets_modify]
  dsimp only
  rw [meets_bind]
  refine prepare_meets ?_ preparing ?_ ?_
  · refine .ofRun ?_ id
    intro terminal
    rw [live] at terminal
    cases terminal
  · intro begun underway
    dsimp only
    rw [meets_bind, meets_modify]
    dsimp only
    rw [meets_bind, meets_get]
    dsimp only
    split
    · have cancelled := setCancelled_cancelled "execution was cancelled before mission start"
        (begun.state.setStatus .ready "required fleet is ready")
      refine ⟨.ofRun (underway.final cancelled) id, underway.open_, fun _ => cancelled, ?_⟩
      rintro _ ⟨⟩
      exact ⟨cancelled, rfl⟩
    · next unrequested =>
      rw [meets_bind, meets_modify]
      dsimp only
      rw [meets_bind]
      have running : (begun.state.setStatus .ready "required fleet is ready" |>.setStatus .running
          "starting verified mission roles").Underway := ⟨underway.open_, by rintro ⟨⟩⟩
      refine (runMission_meets ?_ running unrequested).mono ?_
      · refine .ofRun (fun terminal => ?_) id
        exact absurd (underway.ended terminal).1 unrequested
      · intro begun result s ended
        cases result with
        | error raised => exact ended
        | ok result =>
          obtain ⟨same, underway⟩ := ended
          dsimp only
          rw [meets_bind, meets_modify]
          dsimp only
          rw [meets_pure, same]
          exact finished_ended _ result underway
  · intro begun raised underway cancels
    exact ⟨.refl _ _, underway, cancels⟩

theorem handler_meets {site : CancelSite} {change : ExecutionCoordinator → ExecutionCoordinator}
    (moves : Moves .run begun.state s) (standing : Standing .run (.cancelActive site) s)
    (returned : ∀ later : ExecutionCoordinator, Standing .run (.cancelActive site) later →
      Moves .run later (change later) ∧ Ended (.ok none) (change later))
    (raised : ∀ (later : ExecutionCoordinator) raised, Standing .run (.cancelActive site) later →
      orderly owner (.cancelActive site) (.error raised) later = true → escapes owner raised = true →
        later.cleanupComplete = false ∧ (later.cancelRequested = true → later.Cancelled)) :
    RunMeets owner (do cancelActive owner site; modify change; return none)
      (fun begun result s => Moves .run begun.state s ∧ s.cleanupComplete = false ∧
        (s.cancelRequested = true → s.Cancelled) ∧
        ∀ early, result = .ok early → Ended (.ok early) s) begun s := by
  rw [RunMeets, meets_bind, cancelActive]
  refine ⟨⟨moves, standing⟩, ?_⟩
  rintro reply later _ ⟨rfl, -, standing, fit⟩
  have ends : (do modify change; return none : ExecutionCall (Option ExecutionRecord)).Meets
      ((executionContract owner).rel .run) ((executionContract owner).ready .run)
      (fun begun result s => Moves .run begun.state s ∧ s.cleanupComplete = false ∧
        (s.cancelRequested = true → s.Cancelled) ∧
        ∀ early, result = .ok early → Ended (.ok early) s) ⟨some ⟨_, reply⟩, later⟩ later := by
    obtain ⟨moves, ended⟩ := returned later standing
    refine ⟨moves, ended.1, ended.2.1, ?_⟩
    rintro _ ⟨⟩
    exact ended
  cases reply with
  | ok _ => exact ends
  | error error =>
    dsimp only
    split
    · next escaped =>
      obtain ⟨open_, cancelled⟩ := raised later error standing fit escaped
      refine ⟨.refl _ _, open_, cancelled, ?_⟩
      rintro _ ⟨⟩
    · exact ends

theorem onRaised_meets {raised : ExecutionRaised} (moves : Moves .run begun.state s)
    (ended : Ended (.error raised) s) :
    RunMeets owner (onRaised owner raised) (fun begun result s => Moves .run begun.state s ∧
      s.cleanupComplete = false ∧ (s.cancelRequested = true → s.Cancelled) ∧
        ∀ early, result = .ok early → Ended (.ok early) s) begun s := by
  obtain ⟨underway, cancels⟩ := ended
  have fails (code message : String) (other : raised ≠ .cancelled) :
      RunMeets owner (do
          cancelActive owner .failed
          modify (setTerminal .failed code message)
          return none)
        (fun begun result s => Moves .run begun.state s ∧ s.cleanupComplete = false ∧
          (s.cancelRequested = true → s.Cancelled) ∧
          ∀ early, result = .ok early → Ended (.ok early) s) begun s := by
    have unrequested : s.cancelRequested = false :=
      Bool.eq_false_iff.mpr fun requested => other (cancels requested)
    refine handler_meets moves ⟨underway, unrequested⟩ ?_ ?_
    · rintro later ⟨underway, unrequested⟩
      refine ⟨.ofRun ?_ id, underway.open_, ?_, ?_⟩
      · intro terminal
        exact absurd (underway.ended terminal).1 (by simp [unrequested])
      · intro requested
        exact absurd (unrequested.symm.trans requested) (by simp)
      · rintro _ ⟨⟩
    · rintro later _ ⟨underway, unrequested⟩ - -
      refine ⟨underway.open_, fun requested => ?_⟩
      exact absurd (unrequested.symm.trans requested) (by simp)
  cases raised with
  | error code message => exact fails _ _ (by rintro ⟨⟩)
  | exception kind text => exact fails _ _ (by rintro ⟨⟩)
  | cancelled =>
    rw [onRaised, RunMeets, meets_bind, meets_modify]
    refine handler_meets ?_ ⟨⟨underway.open_, fun terminal => ⟨rfl, (underway.ended terminal).2⟩⟩, rfl⟩ ?_ ?_
    · exact .ofRun moves.final fun _ => rfl
    · rintro later ⟨underway, requested⟩
      have cancelled := setCancelled_cancelled "execution task was cancelled" later
      refine ⟨.ofRun (underway.final cancelled) id, underway.open_, fun _ => cancelled, ?_⟩
      rintro _ ⟨⟩
    · intro later raised _ fit escaped
      simp [orderly, escaped] at fit

/-- The cleanup changes no status, and the record that an early return has taken still shows it. -/
theorem cleanUp_meets {result : Except ExecutionRaised (Option ExecutionRecord)}
    (moves : Moves .run begun.state s) (open_ : s.cleanupComplete = false)
    (cancelled : s.cancelRequested = true → s.Cancelled)
    (early : ∀ record, result = .ok (some record) → s.Cancelled ∧ record = s.record) :
    RunMeets owner cleanUp (fun begun ended s => Moves .run begun.state s ∧
      (s.cancelRequested = true → s.Cancelled) ∧
      ∀ record, ended = .ok () → result = .ok (some record) →
        record.status = s.status ∧ record.reasonCode = s.reasonCode) begun s := by
  refine ⟨⟨moves, open_, cancelled⟩, ?_⟩
  rintro reply later _ ⟨rfl, final, ⟨-, cancelled⟩, -⟩
  have completes : RunMeets owner (modify complete) (fun begun ended s => Moves .run begun.state s ∧
      (s.cancelRequested = true → s.Cancelled) ∧
      ∀ record, ended = .ok () → result = .ok (some record) →
        record.status = s.status ∧ record.reasonCode = s.reasonCode)
      ⟨some ⟨.disconnectAllSafe, reply⟩, later⟩ later := by
    refine ⟨.ofRun (Final.refl later) id, cancelled, fun record _ returned => ?_⟩
    obtain ⟨ended, rfl⟩ := early record returned
    have kept := final ended.terminal
    exact ⟨kept.1.symm, kept.2.symm⟩
  cases reply with
  | ok _ => exact completes
  | error raised =>
    dsimp only
    split
    · exact completes
    · refine ⟨.refl _ _, cancelled, ?_⟩
      rintro _ ⟨⟩

theorem run_meets (live : s.terminal = false) (underway : s.Underway) :
    RunMeets owner (run owner) ((executionContract owner).post .run) ⟨none, s⟩ s := by
  have closing (begun : Beginning) (result : Except ExecutionRaised (Option ExecutionRecord))
      (s : ExecutionCoordinator) (moves : Moves .run begun.state s)
      (open_ : s.cleanupComplete = false) (cancelled : s.cancelRequested = true → s.Cancelled)
      (holds : ∀ early, result = .ok early → Ended (.ok early) s) :
      RunMeets owner (do
          let early ← cleanUp.andThen fun _ => done result
          returned early) ((executionContract owner).post .run) begun s := by
    rw [RunMeets, meets_bind, meets_andThen]
    have shown (record : ExecutionRecord) (same : result = .ok (some record)) :
        s.Cancelled ∧ record = s.record := (holds _ same).2.2 record rfl
    refine (cleanUp_meets moves open_ cancelled shown).mono ?_
    intro begun ended s closed
    obtain ⟨moves, cancelled, shows⟩ := closed
    cases ended with
    | error raised =>
      refine ⟨moves, ?_, fun _ => cancelled⟩
      rintro _ ⟨⟩
    | ok _ =>
      cases result with
      | error raised =>
        refine ⟨moves, ?_, fun _ => cancelled⟩
        rintro _ ⟨⟩
      | ok early =>
        refine ⟨moves, ?_, fun _ => cancelled⟩
        rintro _ ⟨⟩
        cases early with
        | none => exact ⟨rfl, rfl⟩
        | some record => exact shows record rfl rfl
  rw [RunMeets, run, meets_bind, ensure, meets_handle, rescue, meets_handle]
  refine (attempt_meets live underway).mono ?_
  intro begun result s ended
  obtain ⟨moves, ended⟩ := ended
  cases result with
  | ok early =>
    refine meets_bind.mp (closing begun (.ok early) s moves ended.1 ended.2.1 ?_)
    rintro _ ⟨⟩
    exact ended
  | error raised =>
    refine (onRaised_meets moves ended).mono ?_
    intro begun result s handled
    obtain ⟨moves, open_, cancelled, early⟩ := handled
    exact meets_bind.mp (closing begun result s moves open_ cancelled early)

theorem endCancelled_moves (requested : s.cancelRequested = true) :
    Moves .cancel s s.endCancelled := by
  unfold endCancelled
  split
  · exact .refl _ _
  · next live =>
    refine ⟨fun terminal => absurd terminal live, fun _ => requested, fun _ => ?_⟩
    exact .inr ⟨requested, rfl, .inr ⟨Bool.eq_false_iff.mpr live, setCancelled_cancelled _ _⟩⟩

theorem cancel_meets :
    (cancel owner).Meets ((executionContract owner).rel .cancel)
      ((executionContract owner).ready .cancel) ((executionContract owner).post .cancel)
      ⟨none, s⟩ s := by
  have other : ¬Operation.cancel = .run := by rintro ⟨⟩
  rw [cancel, meets_bind, meets_get]
  dsimp only
  split
  · refine ⟨.refl _ _, ?_, fun same => absurd same other⟩
    rintro _ ⟨⟩
    exact ⟨rfl, rfl⟩
  · rw [meets_bind, meets_modify]
    dsimp only
    rw [meets_bind]
    refine ⟨⟨⟨Final.refl s, fun _ => rfl, fun _ => .inr ⟨rfl, rfl, .inl ⟨rfl, rfl⟩⟩⟩, rfl⟩, ?_⟩
    rintro reply later _ ⟨rfl, -, standing, -⟩
    have ends : conclude.Meets ((executionContract owner).rel .cancel)
        ((executionContract owner).ready .cancel) ((executionContract owner).post .cancel)
        ⟨some ⟨.cancelActive .called, reply⟩, later⟩ later := by
      refine ⟨endCancelled_moves standing, ?_, fun same => absurd same other⟩
      rintro _ ⟨⟩
      exact ⟨rfl, rfl⟩
    cases reply with
    | ok _ => exact ends
    | error raised =>
      dsimp only
      split
      · refine ⟨.refl _ _, ?_, fun same => absurd same other⟩
        rintro _ ⟨⟩
      · exact ends

end Segments

section Runs

variable {loop : Loop} {turn : Turn Operation ExecutionWait ExecutionReply}

theorem executionContract_met : (executionContract owner).Met (program owner) := by
  intro operation s begun begins
  obtain ⟨rfl, admits⟩ := begins
  cases operation with
  | run => exact run_meets (admits rfl).2 (admits rfl).1
  | cancel => exact cancel_meets

theorem Gentle.cancelled {a b : ExecutionCoordinator} (gentle : Gentle a b) (cancelled : a.Cancelled) :
    b.Cancelled := by
  rcases gentle with rfl | ⟨-, -, ⟨status, reason⟩ | ⟨-, ended⟩⟩
  · exact cancelled
  · exact ⟨status.trans cancelled.1, reason.trans cancelled.2⟩
  · exact ended

theorem Gentle.open_ {a b : ExecutionCoordinator} (gentle : Gentle a b)
    (open_ : a.cleanupComplete = false) : b.cleanupComplete = false := by
  rcases gentle with rfl | ⟨-, same, -⟩
  · exact open_
  · exact same.trans open_

theorem Underway.gentle {a b : ExecutionCoordinator} (underway : a.Underway) (gentle : Gentle a b) :
    b.Underway := by
  refine ⟨gentle.open_ underway.open_, fun terminal => ?_⟩
  rcases gentle with rfl | ⟨requested, -, ⟨status, reason⟩ | ⟨-, ended⟩⟩
  · exact underway.ended terminal
  · have before : a.terminal = true := by rwa [ExecutionCoordinator.terminal, ← status]
    obtain ⟨-, cancelled⟩ := underway.ended before
    exact ⟨requested, status.trans cancelled.1, reason.trans cancelled.2⟩
  · exact ⟨requested, ended⟩

theorem Standing.gentle {on : ExecutionWait} {a b : ExecutionCoordinator} (standing : Standing .run on a)
    (allowed : a.admitsCancel on = true ∨ a.cancelRequested = true) (gentle : Gentle a b)
    (requested : a.cancelRequested = true → b.cancelRequested = true) : Standing .run on b := by
  cases on with
  | prepare stage => exact Underway.gentle standing gentle
  | mission => exact Underway.gentle standing gentle
  | cancelActive site =>
    cases site with
    | failed =>
      rcases allowed with refused | asked
      · cases refused
      · exact absurd (standing.2.symm.trans asked) (by decide)
    | cancelled => exact ⟨standing.1.gentle gentle, requested standing.2⟩
    | called => exact ⟨standing.1.gentle gentle, requested standing.2⟩
  | disconnectAllSafe =>
    refine ⟨gentle.open_ standing.1, fun _ => gentle.cancelled ?_⟩
    rcases allowed with admits | asked
    · exact of_decide_eq_true admits
    · exact standing.2 asked

/-- Every waiting call stands, there is one run, before which the execution has not ended, and a
terminal status has stayed since each call last moved. -/
structure Steady (owner : ExecutionOwner) (loop : Loop) : Prop where
  sound : loop.Sound (executionContract owner)
  rests : loop.Rests
  since : ∀ task ∈ loop.tasks, Final task.since loop.state
  standing : ∀ (j : Nat) task on next, loop.tasks[j]? = some task → task.rest = .wait on next →
    Standing task.label on loop.state
  alone : ∀ i j : Nat, loop.labels[i]? = some .run → loop.labels[j]? = some .run → i = j
  unstarted : (∀ label ∈ loop.labels, label ≠ .run) → loop.state.Underway

theorem step_promised (steady : Steady owner loop) (given : Orderly owner loop turn) :
    (step (program owner) loop turn).Sound (executionContract owner) ∧
    ∀ operation before after rest,
      moved (program owner) loop turn = some (operation, before, after, rest) →
        (executionContract owner).Promises operation (loop.begun turn) after rest := by
  have admits : loop.Admitted (program owner) (executionContract owner) turn := by
    refine admitted_ofReplies ?_ ?_
    · rintro operation rfl rfl
      obtain ⟨live, first⟩ := Bool.and_eq_true_iff.mp given.2
      refine ⟨steady.unstarted ?_, by simpa using live⟩
      intro label member
      obtain ⟨task, among, rfl⟩ := List.mem_map.mp member
      simpa using List.all_eq_true.mp first task among
    · rintro task reply rfl operation since on next found
      refine ⟨steady.since _ (List.mem_of_getElem? found), steady.standing _ _ _ _ found rfl, ?_⟩
      refine given.1 on (reply on) ?_
      simp only [begun, found]
  obtain ⟨keeps, sound⟩ := step_sound executionContract_met steady.sound admits
  exact ⟨sound, fun _ _ _ _ moves => promises_ofReplies admits keeps moves⟩

/-- What a promised segment says whether its call waits or ends. -/
theorem promised_moves {operation : Operation} {begun : Beginning} {after : ExecutionCoordinator}
    {rest : ExecutionCall ExecutionRecord}
    (promised : (executionContract owner).Promises operation begun after rest) :
    Moves operation begun.state after ∧
      ∀ on next, rest = .wait on next → Standing operation on after := by
  cases rest with
  | done result =>
    refine ⟨promised.1, ?_⟩
    rintro _ _ ⟨⟩
  | wait on next =>
    refine ⟨promised.1, ?_⟩
    rintro _ _ ⟨⟩
    exact promised.2
  | act change next => exact promised.elim

theorem no_run_before_call (admits : admitted loop (.call .run) = true) :
    ∀ label ∈ loop.labels, label ≠ .run := by
  intro label member
  obtain ⟨task, among, rfl⟩ := List.mem_map.mp member
  simpa using List.all_eq_true.mp (Bool.and_eq_true_iff.mp admits).2 task among

/-- The turn moves a call that it starts, or one that has its place among the tasks. -/
theorem moved_label {operation : Operation} {before after : ExecutionCoordinator}
    {rest : ExecutionCall ExecutionRecord}
    (moving : moved (program owner) loop turn = some (operation, before, after, rest)) :
    turn = .call operation ∨ loop.labels[loop.index turn]? = some operation := by
  rcases moved_cases moving with called | ⟨_, _, _, _, found, -⟩
  · exact .inl called
  · exact .inr (labels_of_task found)

theorem others_stand (steady : Steady owner loop) (given : Orderly owner loop turn)
    {operation : Operation} {before after : ExecutionCoordinator} {rest : ExecutionCall ExecutionRecord}
    (moving : moved (program owner) loop turn = some (operation, before, after, rest))
    (moves : Moves operation loop.state after) {j : Nat} (other : j ≠ loop.index turn)
    {label : Operation} {since : ExecutionCoordinator} {on : ExecutionWait}
    {next : ExecutionReply on → ExecutionCall ExecutionRecord}
    (found : loop.tasks[j]? = some ⟨label, since, .wait on next⟩) : Standing label on after := by
  have stood := steady.standing j _ on next found rfl
  cases label with
  | cancel => exact moves.requested stood
  | run =>
    cases operation with
    | run =>
      rcases moved_label moving with rfl | place
      · exact absurd rfl (no_run_before_call given.2 _ (List.mem_of_getElem? (labels_of_task found)))
      · exact absurd (steady.alone _ _ (labels_of_task found) place) other
    | cancel =>
      refine stood.gentle ?_ (moves.gentle rfl) moves.requested
      rcases moved_cases moving with rfl | ⟨_, _, _, _, resumed, -⟩
      · left
        simpa [waitOf] using List.all_eq_true.mp given.2 _ (List.mem_of_getElem? found)
      · right
        exact steady.standing _ _ _ _ resumed rfl

theorem step_alone (steady : Steady owner loop) (admits : admitted loop turn = true) (i j : Nat)
    (first : (step (program owner) loop turn).labels[i]? = some .run)
    (second : (step (program owner) loop turn).labels[j]? = some .run) : i = j := by
  rw [step_labels] at first second
  cases turn with
  | resume task reply =>
    rw [Turn.called, List.append_nil] at first second
    exact steady.alone i j first second
  | call label =>
    have place (k : Nat) (found : (loop.labels ++ [label])[k]? = some .run) :
        loop.labels[k]? = some .run ∨ k = loop.labels.length ∧ label = .run := by
      rcases Nat.lt_or_ge k loop.labels.length with old | new
      · left
        rwa [List.getElem?_append_left old] at found
      · rw [List.getElem?_append_right new] at found
        obtain ⟨bound, same⟩ := List.getElem?_eq_some_iff.mp found
        have last : k - loop.labels.length = 0 := by simpa using bound
        refine .inr ⟨by omega, ?_⟩
        simpa [last] using same
    rcases place i first with old | ⟨new, rfl⟩ <;> rcases place j second with old' | ⟨new', same⟩
    · exact steady.alone i j old old'
    · subst same
      exact absurd rfl (no_run_before_call admits _ (List.mem_of_getElem? old))
    · exact absurd rfl (no_run_before_call admits _ (List.mem_of_getElem? old'))
    · omega

theorem step_steady (steady : Steady owner loop) (given : Orderly owner loop turn) :
    Steady owner (step (program owner) loop turn) := by
  obtain ⟨sound, promises⟩ := step_promised steady given
  cases moving : moved (program owner) loop turn with
  | none => rwa [step_idle moving]
  | some ended =>
    obtain ⟨operation, before, after, rest⟩ := ended
    obtain ⟨moves, stands⟩ := promised_moves (promises _ _ _ _ moving)
    rw [begun_state] at moves
    have state : (step (program owner) loop turn).state = after := by
      rw [step_state, moving]
      rfl
    have here := step_index moving
    refine ⟨sound, step_rests steady.rests turn, ?_, ?_, step_alone steady given.2, ?_⟩
    · exact step_since Final.refl (fun _ _ _ => Final.trans) (state ▸ moves.final) steady.since
    · rintro j ⟨label, since, _⟩ on next found rfl
      rw [state]
      by_cases same : j = loop.index turn
      · subst same
        obtain ⟨rfl, rfl, rfl⟩ := by simpa using here.symm.trans found
        exact stands on next rfl
      · rw [step_other turn same] at found
        exact others_stand steady given moving moves same found
    · intro none
      rw [state]
      rw [step_labels] at none
      have before : loop.state.Underway :=
        steady.unstarted fun label member => none label (List.mem_append_left _ member)
      cases operation with
      | cancel => exact before.gentle (moves.gentle rfl)
      | run =>
        rcases moved_label moving with rfl | place
        · exact absurd rfl (none .run (List.mem_append_right _ (List.mem_singleton_self _)))
        · exact absurd rfl (none .run (List.mem_append_left _ (List.mem_of_getElem? place)))

theorem Standing.open_ {on : ExecutionWait} {s : ExecutionCoordinator}
    (standing : Standing .run on s) : s.cleanupComplete = false := by
  rcases on with _ | _ | (_ | _ | _) | _
  · exact Underway.open_ standing
  · exact Underway.open_ standing
  · exact standing.1.open_
  · exact standing.1.open_
  · exact standing.1.open_
  · exact standing.1

theorem unfinished_open (steady : Steady owner loop) (unfinished : runFinished loop = false) :
    loop.state.cleanupComplete = false := by
  by_cases started : ∃ task ∈ loop.tasks, task.label = .run
  · obtain ⟨⟨label, since, rest⟩, member, rfl⟩ := started
    obtain ⟨j, found⟩ := List.mem_iff_getElem?.mp member
    cases rest with
    | done result =>
      have ended := List.any_eq_false.mp unfinished _ member
      simp [resultOf] at ended
    | wait on next => exact (steady.standing j _ on next found rfl).open_
    | act change next => exact absurd rfl (steady.rests _ member change next)
  · refine (steady.unstarted fun label member => ?_).open_
    obtain ⟨task, among, rfl⟩ := List.mem_map.mp member
    exact fun same => started ⟨task, among, same⟩

theorem call_requests (steady : Steady owner loop) (unfinished : runFinished loop = false) :
    (step (program owner) loop (.call .cancel)).state.cancelRequested = true := by
  have open_ := unfinished_open steady unfinished
  change ((cancel owner).segment loop.state).1.cancelRequested = true
  rw [cancel, segment_bind_of_returns (segment_get _)]
  simp only [open_, Bool.and_false, Bool.false_eq_true, if_false]
  rw [segment_bind_of_returns (segment_modify _ _), cancelActive, segment_bind_of_waits rfl]
  rfl

theorem step_cancelled (steady : Steady owner loop) (given : Orderly owner loop turn)
    (requested : loop.state.cancelRequested = true)
    (ended : runFinished loop = true → loop.state.Cancelled) :
    (step (program owner) loop turn).state.cancelRequested = true ∧
      (runFinished (step (program owner) loop turn) = true →
        (step (program owner) loop turn).state.Cancelled) := by
  cases moving : moved (program owner) loop turn with
  | none =>
    rw [step_idle moving]
    exact ⟨requested, ended⟩
  | some last =>
    obtain ⟨operation, before, after, rest⟩ := last
    have promised := (step_promised steady given).2 _ _ _ _ moving
    have moves := (promised_moves promised).1
    rw [begun_state] at moves
    have state : (step (program owner) loop turn).state = after := by
      rw [step_state, moving]
      rfl
    rw [state]
    refine ⟨moves.requested requested, fun finished => ?_⟩
    obtain ⟨task, member, is⟩ := List.any_eq_true.mp finished
    obtain ⟨isRun, isDone⟩ := Bool.and_eq_true_iff.mp is
    obtain ⟨j, found⟩ := List.mem_iff_getElem?.mp member
    by_cases same : j = loop.index turn
    · subst same
      rw [step_index moving] at found
      cases found
      cases rest with
      | done result => exact promised.2.2 (beq_iff_eq.mp isRun) (moves.requested requested)
      | wait on next => cases isDone
      | act change next => cases isDone
    · rw [step_other turn same] at found
      have before := ended (List.any_eq_true.mpr ⟨task, List.mem_of_getElem? found, is⟩)
      exact moves.final.cancelled before

/-- An orderly turn keeps a terminal status, and returns a record of the moment. -/
theorem step_final (steady : Steady owner loop) (given : Orderly owner loop turn) :
    Final loop.state (step (program owner) loop turn).state ∧
      ∀ operation before after result,
        moved (program owner) loop turn = some (operation, before, after, .done result) →
          Shows result after := by
  obtain ⟨-, promises⟩ := step_promised steady given
  constructor
  · cases moving : moved (program owner) loop turn with
    | none =>
      rw [step_idle moving]
      exact .refl _
    | some last =>
      obtain ⟨operation, before, after, rest⟩ := last
      have moves := (promised_moves (promises _ _ _ _ moving)).1
      rw [step_state, moving]
      rw [begun_state] at moves
      exact moves.final
  · intro operation before after result moving
    exact (promises _ _ _ _ moving).2.1

end Runs

/-- In every interleaving of one run with any number of cancel calls in which the run starts before
the execution has ended, nothing fails once a cancellation has been requested, and none is called
while the run handles a failure or cleans up after another end: a terminal status never changes, a
returned record shows the status of its moment, and a cancellation that is called before the run has
finished ends the execution as cancelled. -/
theorem terminal_status_final (owner : ExecutionOwner)
    (turns : List (Turn Operation ExecutionWait ExecutionReply))
    (orderly : Runs.Along (step (program owner)) (Orderly owner) ⟨{}, []⟩ turns) :
    Runs.Along (step (program owner)) (fun loop turn =>
      Final loop.state (step (program owner) loop turn).state ∧
      ∀ operation before after result,
        moved (program owner) loop turn = some (operation, before, after, .done result) →
          Shows result after) ⟨{}, []⟩ turns ∧
    ∀ earlier later, turns = earlier ++ .call .cancel :: later →
      runFinished (Runs.run (step (program owner)) ⟨{}, []⟩ earlier) = false →
        runFinished (Runs.run (step (program owner)) ⟨{}, []⟩ turns) = true →
          (Runs.run (step (program owner)) ⟨{}, []⟩ turns).state.Cancelled := by
  have begins : Steady owner ⟨{}, []⟩ :=
    ⟨by simp [Sound], by simp [Rests], by simp, by simp, by simp [labels],
      fun _ => ⟨rfl, by rintro ⟨⟩⟩⟩
  constructor
  · exact Runs.along_of_invariant (I := Steady owner) (fun loop turn steady given =>
      step_steady steady given) (fun loop turn steady given => step_final steady given) begins orderly
  · rintro earlier later rfl unfinished finished
    obtain ⟨before, given, after⟩ := Runs.Along.append.mp orderly
    rw [Runs.run_append, Runs.run_cons] at finished ⊢
    have steady : Steady owner (Runs.run (step (program owner)) ⟨{}, []⟩ earlier) :=
      Runs.invariant_along (I := Steady owner) (fun loop turn steady given =>
        step_steady steady given) begins before
    have still : runFinished (step (program owner) (Runs.run (step (program owner)) ⟨{}, []⟩ earlier)
        (.call .cancel)) = false := by
      simpa [runFinished, step] using unfinished
    have ends := Runs.invariant_along (I := fun loop : Loop => Steady owner loop ∧
        loop.state.cancelRequested = true ∧ (runFinished loop = true → loop.state.Cancelled))
      (fun loop turn kept given =>
        ⟨step_steady kept.1 given, step_cancelled kept.1 given kept.2.1 kept.2.2⟩)
      ⟨step_steady steady given, call_requests steady unfinished,
        fun gone => absurd (still.symm.trans gone) Bool.false_ne_true⟩ after
    exact ends.2.2 finished

section Cancellation

def works (status : MissionStatus) : (on : ExecutionWait) → ExecutionReply on
  | .prepare _ => .ok ()
  | .mission => .ok (.mission status "MISSION_DONE" "")
  | .cancelActive _ => .ok ()
  | .disconnectAllSafe => .ok ()

/-- The first vehicle cannot be connected. -/
def linkFails : (on : ExecutionWait) → ExecutionReply on
  | .prepare _ => .error (.error .linkLost "no vehicle")
  | on => works .succeeded on

def single : ExecutionOwner := .missionRunner (.ok ())

def startRun : List (Turn Operation ExecutionWait ExecutionReply) :=
  [.call .run, .resume 0 (works .succeeded), .resume 0 (works .succeeded),
    .resume 0 (works .succeeded), .resume 0 (works .succeeded), .resume 0 (works .succeeded)]

/-- A mission that is cancelled while it runs, and comes to its own end. -/
theorem terminal_status_final_cancelled :
    (Runs.run (step (program single)) ⟨{}, []⟩ (startRun ++ .call .cancel ::
      [.resume 0 (works .succeeded), .resume 1 (works .succeeded),
        .resume 0 (works .succeeded)])).state.Cancelled :=
  (terminal_status_final single _ (by decide)).2 startRun _ rfl (by decide)
    (by decide)

/-- A cancellation during the preparation returns, and then the preparation fails. -/
def cancelledEarly : Loop :=
  Runs.run (step (program single)) ⟨{}, []⟩
    [.call .run, .call .cancel, .resume 1 (works .succeeded)]

/-- The aborted execution becomes a failed one. -/
theorem cancelledEarly_fails : cancelledEarly.state.Cancelled ∧
    (Runs.run (step (program single)) cancelledEarly
      [.resume 0 linkFails, .resume 0 (works .succeeded)]).state.status = .failed := by
  decide

end Cancellation

end ExecutionCoordinator
end CrazySwarm
