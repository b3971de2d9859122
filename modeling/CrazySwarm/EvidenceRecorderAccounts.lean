import CrazySwarm.EvidenceRecorder

/-! The account of a recorder that has stopped. Every accepted event is stored, dropped, the one
that failed, still queued, or was in the hands of the loop when that was cancelled; the last two
kinds are counted by a stop whose wait for the queue has timed out, and by it alone. -/
namespace CrazySwarm

variable {F P : Type} [PyFloat F]

structure RecorderHistory (F P : Type) where
  recorder : EvidenceRecorder F P
  accepted : List (EvidenceEvent F P) := []
  abandoned : List (EvidenceEvent F P) := []

namespace EvidenceRecorder

def raisedEvents (recorder : EvidenceRecorder F P) : Nat :=
  match recorder.loop with
  | .failed (.store _) => 1
  | _ => 0

def queued (recorder : EvidenceRecorder F P) : Nat := recorder.subscription.queue.items.length

def isAlive (recorder : EvidenceRecorder F P) : Bool :=
  match recorder.loop with
  | .failed _ => false
  | _ => true

end EvidenceRecorder

namespace RecorderHistory

section Statement

variable (payloadType : P → EvidenceKind)

def step (history : RecorderHistory F P) (taken : RecorderStep F P) : RecorderHistory F P where
  recorder := history.recorder.step payloadType taken
  accepted := match taken with
    | .publish event =>
      if (history.recorder.subscription.accepts event).2 then history.accepted ++ [event]
      else history.accepted
    | _ => history.accepted
  abandoned := match taken with
    | .finish =>
      if history.recorder.stop = .cancelling then history.recorder.inFlight else history.abandoned
    | _ => history.abandoned

/-- Every accepted event is stored, dropped, counted at the shutdown, or has raised. -/
def Accounted (history : RecorderHistory F P) : Prop :=
  history.accepted.length = history.recorder.persistedEvents +
    history.recorder.subscription.droppedEvents + history.recorder.shutdownDroppedEvents +
    history.recorder.raisedEvents

def LosesNone (history : RecorderHistory F P) : RecorderStep F P → Prop
  | .stop => history.recorder.stop = .running → history.recorder.isAlive = false →
      history.recorder.queued = history.recorder.shutdownDroppedEvents
  | .resume => history.recorder.stop = .flushed → history.recorder.isAlive = true →
      history.recorder.queued = 0 ∧ history.recorder.inFlight = []
  | .timeout => history.recorder.stop = .flushing → history.recorder.isAlive = true →
      history.recorder.inFlight = []
  | .publish event => history.recorder.stop = .cancelling →
      (history.recorder.subscription.accepts event).2 = true →
        history.recorder.subscription.queue.isFull = true
  | _ => True

end Statement

variable {payloadType : P → EvidenceKind} {recorder : EvidenceRecorder F P}
  {history : RecorderHistory F P} {taken : RecorderStep F P}

section Balance

/-- Every accepted event is somewhere. -/
def Balanced (history : RecorderHistory F P) : Prop :=
  history.accepted.length = history.recorder.persistedEvents +
    history.recorder.subscription.droppedEvents + history.recorder.raisedEvents +
    history.recorder.queued + history.recorder.inFlight.length + history.abandoned.length

omit [PyFloat F] in
theorem conclude_counts (payloadType : P → EvidenceKind) (recorder : EvidenceRecorder F P) (behaviour : Behaviour)
    (event : EvidenceEvent F P) :
    let concluded := recorder.conclude payloadType behaviour event
    concluded.persistedEvents + concluded.raisedEvents = recorder.persistedEvents + 1 ∧
      concluded.inFlight = [] ∧ concluded.subscription = recorder.subscription ∧
      concluded.stop = recorder.stop ∧
      concluded.shutdownDroppedEvents = recorder.shutdownDroppedEvents := by
  simp only [EvidenceRecorder.conclude]
  cases EvidenceRecorder.failing payloadType behaviour event with
  | some call => simp [EvidenceRecorder.raisedEvents, EvidenceRecorder.inFlight]
  | none =>
    by_cases raises : behaviour.timingRaises = true <;>
      simp [raises, EvidenceRecorder.raisedEvents, EvidenceRecorder.inFlight]

end Balance

section Steps

structure Kept (history : RecorderHistory F P) : Prop where
  balanced : Balanced history
  counted : history.recorder.shutdownDroppedEvents ≤ history.recorder.queued
  /-- Before the loop is cancelled nothing is counted, unless a stop has raised its error. -/
  early : history.recorder.loops = true →
    history.recorder.isAlive = true ∨ history.recorder.stop ≠ .running →
      history.recorder.shutdownDroppedEvents = 0
  alive : history.recorder.stop = .cancelling → history.recorder.isAlive = true
  closed : history.recorder.stop = .returned → history.recorder.subscription.closed = true ∧
    history.recorder.inFlight = []
  holding : history.recorder.stop ≠ .returned → history.abandoned = []

/-- No event has been lost since the loop was cancelled. -/
def Complete (history : RecorderHistory F P) : Prop :=
  (history.recorder.stop = .cancelling → history.recorder.inFlight = [] ∧
      history.recorder.queued = history.recorder.shutdownDroppedEvents) ∧
    (history.recorder.stop = .returned → history.abandoned = [] ∧
      history.recorder.queued = history.recorder.shutdownDroppedEvents)

omit [PyFloat F] in
theorem loops_iff : recorder.loops = true ↔ recorder.stop ≠ .cancelling ∧ recorder.stop ≠ .returned := by
  simp [EvidenceRecorder.loops]

omit [PyFloat F] in
theorem complete_of_loops (loops : history.recorder.loops = true) : Complete history := by
  obtain ⟨notCancelling, notReturned⟩ := loops_iff.mp loops
  exact ⟨fun cancelling => absurd cancelling notCancelling,
    fun returned => absurd returned notReturned⟩

omit [PyFloat F] in
theorem Kept.of_loops (loops : history.recorder.loops = true) (balanced : Balanced history)
    (counted : history.recorder.shutdownDroppedEvents ≤ history.recorder.queued)
    (early : history.recorder.isAlive = true ∨ history.recorder.stop ≠ .running →
      history.recorder.shutdownDroppedEvents = 0)
    (holding : history.abandoned = []) : Kept history := by
  obtain ⟨notCancelling, notReturned⟩ := loops_iff.mp loops
  exact ⟨balanced, counted, fun _ => early, fun cancelling => absurd cancelling notCancelling,
    fun returned => absurd returned notReturned, fun _ => holding⟩

theorem publish_step (kept : Kept history) (event : EvidenceEvent F P) :
    Kept (history.step payloadType (.publish event)) ∧
      (Complete (history.step payloadType (.publish event)) ↔
        Complete history ∧ LosesNone history (.publish event)) := by
  cases accepted : (history.recorder.subscription.accepts event).2 with
  | false =>
    have same : history.step payloadType (.publish event) = history := by
      simp [step, EvidenceRecorder.step, accepted,
        TelemetrySubscription.offer_refused accepted]
    rw [same]
    exact ⟨kept, (and_iff_left fun _ taken => absurd taken (by simp [accepted])).symm⟩
  | true =>
    obtain ⟨queue, drops⟩ := TelemetrySubscription.offer_accepted accepted
    have grows := history.recorder.subscription.queue.length_items_put event
    have full := history.recorder.subscription.queue.length_displaced
    have queued : (history.step payloadType (.publish event)).recorder.queued =
        (history.recorder.subscription.queue.put event).items.length := by
      simp [step, EvidenceRecorder.step, EvidenceRecorder.queued, queue]
    have dropped : (history.step payloadType (.publish event)).recorder.subscription.droppedEvents =
        history.recorder.subscription.droppedEvents +
          history.recorder.subscription.queue.displaced.length := drops
    have entered : (history.step payloadType (.publish event)).accepted.length =
        history.accepted.length + 1 := by
      simp [step, accepted]
    have one : history.recorder.subscription.queue.displaced.length ≤ 1 := by
      rw [full]
      split <;> omega
    have before : history.recorder.queued = history.recorder.subscription.queue.items.length := rfl
    have notReturned : history.recorder.stop ≠ .returned := by
      intro returned
      have closed := (kept.closed returned).1
      simp [TelemetrySubscription.accepts, TelemetrySubscription.admits, closed] at accepted
    have balanced := kept.balanced
    have counted := kept.counted
    refine ⟨⟨?_, ?_, kept.early, kept.alive, fun returned => absurd returned notReturned,
      kept.holding⟩, ?_⟩
    · simp only [Balanced] at balanced ⊢
      rw [queued, dropped, entered]
      change history.accepted.length + 1 = history.recorder.persistedEvents + _ +
        history.recorder.raisedEvents + _ + history.recorder.inFlight.length +
          history.abandoned.length
      omega
    · rw [queued]
      change history.recorder.shutdownDroppedEvents ≤ _
      omega
    · have stays : (history.step payloadType (.publish event)).recorder.stop =
        history.recorder.stop := rfl
      simp only [Complete, LosesNone, stays, queued, accepted]
      change (_ → history.recorder.inFlight = [] ∧
        _ = history.recorder.shutdownDroppedEvents) ∧ _ ↔ _
      constructor
      · rintro ⟨complete, -⟩
        refine ⟨⟨fun cancelling => ?_, fun returned => absurd returned notReturned⟩,
          fun cancelling _ => ?_⟩
        · obtain ⟨empty, same⟩ := complete cancelling
          exact ⟨empty, by omega⟩
        · obtain ⟨-, same⟩ := complete cancelling
          by_contra room
          simp only [room, if_false] at full
          omega
      · rintro ⟨⟨complete, -⟩, whole⟩
        refine ⟨fun cancelling => ?_, fun returned => absurd returned notReturned⟩
        obtain ⟨empty, same⟩ := complete cancelling
        simp only [whole cancelling trivial, if_true] at full
        exact ⟨empty, by omega⟩

/-- The events of a recorder that are accounted for, its queue and its loop included. -/
def held (recorder : EvidenceRecorder F P) : Nat :=
  recorder.persistedEvents + recorder.subscription.droppedEvents + recorder.raisedEvents +
    recorder.queued + recorder.inFlight.length

omit [PyFloat F] in
theorem Kept.loop (kept : Kept history) (loops : history.recorder.loops = true)
    (alive : history.recorder.isAlive = true) {next : EvidenceRecorder F P}
    (stop : next.stop = history.recorder.stop)
    (shutdown : next.shutdownDroppedEvents = history.recorder.shutdownDroppedEvents)
    (same : held next = held history.recorder) :
    Kept { history with recorder := next } ∧ Complete { history with recorder := next } := by
  have loops' : next.loops = true := by
    rwa [EvidenceRecorder.loops, stop, ← EvidenceRecorder.loops]
  have none := kept.early loops (.inl alive)
  have empty := kept.holding (loops_iff.mp loops).2
  have balanced : Balanced { history with recorder := next } := by
    have before := kept.balanced
    simp only [Balanced, held] at before same ⊢
    omega
  refine ⟨.of_loops loops' balanced ?_ ?_ empty, complete_of_loops loops'⟩
  · change next.shutdownDroppedEvents ≤ _
    omega
  · intro _
    exact shutdown.trans none

omit [PyFloat F] in
theorem conclude_held {recorder : EvidenceRecorder F P} {behaviour : Behaviour}
    {event : EvidenceEvent F P} :
    held (recorder.conclude payloadType behaviour event) =
      recorder.persistedEvents + 1 + recorder.subscription.droppedEvents + recorder.queued := by
  obtain ⟨once, empty, subscription, -⟩ := conclude_counts payloadType recorder behaviour event
  simp only [held, EvidenceRecorder.queued, empty, subscription, List.length_nil]
  omega

omit [PyFloat F] in
theorem dequeue_held (payloadType : P → EvidenceKind) (behaviour : Behaviour) (getting : recorder.loop = .getting) :
    held (recorder.dequeue payloadType behaviour) = held recorder ∧
      (recorder.dequeue payloadType behaviour).stop = recorder.stop ∧
      (recorder.dequeue payloadType behaviour).shutdownDroppedEvents =
        recorder.shutdownDroppedEvents := by
  have idle : recorder.raisedEvents = 0 ∧ recorder.inFlight = [] := by
    simp [EvidenceRecorder.raisedEvents, EvidenceRecorder.inFlight, getting]
  cases items : recorder.subscription.queue.items with
  | nil =>
    have same : recorder.dequeue payloadType behaviour = recorder := by
      simp [EvidenceRecorder.dequeue, items]
    rw [same]
    exact ⟨rfl, rfl, rfl⟩
  | cons event rest =>
    have before : held recorder = recorder.persistedEvents + recorder.subscription.droppedEvents +
        (rest.length + 1) := by
      simp [held, idle, EvidenceRecorder.queued, items]
    have left : (recorder.subscription.getNowait.1).queue.items.length = rest.length := by
      simp [TelemetrySubscription.getNowait, items]
    by_cases result : payloadType event.payload = .missionResult
    · simp only [EvidenceRecorder.dequeue, items, result, if_true]
      refine ⟨?_, trivial, trivial⟩
      rw [before]
      simp only [held, EvidenceRecorder.queued, EvidenceRecorder.inFlight,
        EvidenceRecorder.raisedEvents, left, List.length_singleton]
      simp only [TelemetrySubscription.getNowait]
      omega
    · simp only [EvidenceRecorder.dequeue, items, result, if_false]
      obtain ⟨-, -, -, stop, shutdown⟩ := conclude_counts payloadType
        { recorder with subscription := recorder.subscription.getNowait.1 } behaviour event
      refine ⟨?_, stop, shutdown⟩
      rw [conclude_held, before]
      simp only [EvidenceRecorder.queued, left]
      simp only [TelemetrySubscription.getNowait]
      omega

/-- What a step leaves behind: the invariant, and completeness unless it loses an event. -/
def Stepped (payloadType : P → EvidenceKind) (history : RecorderHistory F P)
    (taken : RecorderStep F P) : Prop :=
  Kept (history.step payloadType taken) ∧
    (Complete (history.step payloadType taken) ↔ Complete history ∧ LosesNone history taken)

theorem loop_step (kept : Kept history) (taken : RecorderStep F P)
    (next : history.step payloadType taken =
      { history with recorder := history.recorder.step payloadType taken })
    (free : LosesNone history taken)
    (moves : history.recorder.step payloadType taken = history.recorder ∨
      history.recorder.loops = true ∧ history.recorder.isAlive = true ∧
        (history.recorder.step payloadType taken).stop = history.recorder.stop ∧
        (history.recorder.step payloadType taken).shutdownDroppedEvents =
          history.recorder.shutdownDroppedEvents ∧
        held (history.recorder.step payloadType taken) = held history.recorder) :
    Stepped payloadType history taken := by
  rw [Stepped, next]
  rcases moves with same | ⟨loops, alive, stop, shutdown, same⟩
  · rw [same]
    exact ⟨kept, (and_iff_left free).symm⟩
  · obtain ⟨kept, complete⟩ := kept.loop loops alive stop shutdown same
    exact ⟨kept, iff_of_true complete ⟨complete_of_loops loops, free⟩⟩

theorem dequeue_step (kept : Kept history) (behaviour : Behaviour) :
    Stepped payloadType history (.dequeue behaviour) := by
  apply loop_step kept (.dequeue behaviour) rfl trivial
  cases getting : history.recorder.loop with
  | getting =>
    by_cases loops : history.recorder.loops = true
    · obtain ⟨same, stop, shutdown⟩ := dequeue_held payloadType behaviour getting
      refine .inr ⟨loops, by simp [EvidenceRecorder.isAlive, getting], ?_⟩
      simp only [EvidenceRecorder.step, getting, loops, if_true]
      exact ⟨stop, shutdown, same⟩
    · exact .inl (by simp [EvidenceRecorder.step, getting, loops])
  | storing event => exact .inl (by simp [EvidenceRecorder.step, getting])
  | yielding => exact .inl (by simp [EvidenceRecorder.step, getting])
  | failed error => exact .inl (by simp [EvidenceRecorder.step, getting])
  | cancelled => exact .inl (by simp [EvidenceRecorder.step, getting])

theorem stored_step (kept : Kept history) (behaviour : Behaviour) :
    Stepped payloadType history (.stored behaviour) := by
  apply loop_step kept (.stored behaviour) rfl trivial
  cases storing : history.recorder.loop with
  | storing event =>
    by_cases loops : history.recorder.loops = true
    · obtain ⟨-, -, -, stop, shutdown⟩ := conclude_counts payloadType history.recorder behaviour event
      refine .inr ⟨loops, by simp [EvidenceRecorder.isAlive, storing], ?_⟩
      simp only [EvidenceRecorder.step, storing, loops, if_true]
      refine ⟨stop, shutdown, ?_⟩
      rw [conclude_held]
      simp only [held, EvidenceRecorder.raisedEvents, EvidenceRecorder.inFlight, storing,
        List.length_singleton]
      omega
    · exact .inl (by simp [EvidenceRecorder.step, storing, loops])
  | getting => exact .inl (by simp [EvidenceRecorder.step, storing])
  | yielding => exact .inl (by simp [EvidenceRecorder.step, storing])
  | failed error => exact .inl (by simp [EvidenceRecorder.step, storing])
  | cancelled => exact .inl (by simp [EvidenceRecorder.step, storing])

theorem yielded_step (kept : Kept history) : Stepped payloadType history .yielded := by
  apply loop_step kept .yielded rfl trivial
  cases yielding : history.recorder.loop with
  | yielding =>
    by_cases loops : history.recorder.loops = true
    · refine .inr ⟨loops, by simp [EvidenceRecorder.isAlive, yielding], ?_⟩
      simp only [EvidenceRecorder.step, yielding, loops, if_true]
      simp [held, EvidenceRecorder.raisedEvents, EvidenceRecorder.inFlight, yielding,
        EvidenceRecorder.queued]
    · exact .inl (by simp [EvidenceRecorder.step, yielding, loops])
  | getting => exact .inl (by simp [EvidenceRecorder.step, yielding])
  | storing event => exact .inl (by simp [EvidenceRecorder.step, yielding])
  | failed error => exact .inl (by simp [EvidenceRecorder.step, yielding])
  | cancelled => exact .inl (by simp [EvidenceRecorder.step, yielding])

theorem flush_step (kept : Kept history) : Stepped payloadType history .flush := by
  by_cases flushed : history.recorder.stop = .flushing ∧ history.recorder.unfinishedTasks = 0
  · have loops : history.recorder.loops = true := by simp [EvidenceRecorder.loops, flushed.1]
    have next : history.step payloadType .flush =
        { history with recorder := { history.recorder with stop := .flushed } } := by
      simp [step, EvidenceRecorder.step, flushed]
    rw [Stepped, next]
    have loops' : ({ history.recorder with stop := .flushed } : EvidenceRecorder F P).loops = true := rfl
    have none := kept.early loops (.inr (by simp [flushed.1]))
    refine ⟨.of_loops loops' kept.balanced kept.counted (fun _ => none)
      (kept.holding (loops_iff.mp loops).2), ?_⟩
    exact iff_of_true (complete_of_loops loops') ⟨complete_of_loops loops, trivial⟩
  · have next : history.step payloadType .flush = history := by
      simp [step, EvidenceRecorder.step, flushed]
    rw [Stepped, next]
    exact ⟨kept, (and_iff_left trivial).symm⟩

/-- Once the loop is told to end, what it holds and what is queued beyond the count is lost. -/
theorem cancel_step (kept : Kept history) (taken : RecorderStep F P)
    (loops : history.recorder.loops = true) (counting : EvidenceRecorder F P)
    (next : history.step payloadType taken = { history with recorder := counting.cancel })
    (loop : counting.loop = history.recorder.loop)
    (same : held counting = held history.recorder)
    (counted : counting.shutdownDroppedEvents ≤ counting.queued)
    (loses : LosesNone history taken ↔ (history.recorder.isAlive = true →
      counting.inFlight = [] ∧ counting.queued = counting.shutdownDroppedEvents)) :
    Stepped payloadType history taken := by
  have empty := kept.holding (loops_iff.mp loops).2
  have balanced : counting.persistedEvents + counting.subscription.droppedEvents +
      counting.raisedEvents + counting.queued + counting.inFlight.length =
      history.accepted.length := by
    have before := kept.balanced
    simp only [Balanced, held, empty, List.length_nil] at before same
    omega
  rw [Stepped, next, loses]
  cases failed : history.recorder.isAlive with
  | false =>
    obtain ⟨error, dead⟩ : ∃ error, counting.loop = .failed error := by
      rw [loop]
      cases phase : history.recorder.loop <;>
        simp [EvidenceRecorder.isAlive, phase] at failed ⊢
    have stays : counting.cancel = { counting with stop := .running } := by
      simp [EvidenceRecorder.cancel, dead]
    rw [stays]
    have loops' : ({ counting with stop := .running } : EvidenceRecorder F P).loops = true := rfl
    refine ⟨.of_loops loops' ?_ counted ?_ empty, ?_⟩
    · simp only [Balanced, empty, List.length_nil]
      exact balanced.symm
    · rintro (alive | stopping)
      · simp [EvidenceRecorder.isAlive, dead] at alive
      · exact absurd rfl stopping
    · exact iff_of_true (complete_of_loops loops') ⟨complete_of_loops loops, nofun⟩
  | true =>
    have stops : counting.cancel = { counting with stop := .cancelling } := by
      cases phase : history.recorder.loop <;>
        simp [EvidenceRecorder.isAlive, EvidenceRecorder.cancel, phase, loop] at failed ⊢
    rw [stops]
    refine ⟨⟨?_, counted, nofun, fun _ => ?_, nofun, fun _ => empty⟩, ?_⟩
    · simp only [Balanced, empty, List.length_nil]
      exact balanced.symm
    · rw [← failed]
      simp only [EvidenceRecorder.isAlive, loop]
    · simp only [Complete, forall_const, reduceCtorEq, false_imp_iff, and_true]
      exact (and_iff_right (complete_of_loops loops)).symm

theorem resume_step (kept : Kept history) : Stepped payloadType history .resume := by
  by_cases flushed : history.recorder.stop = .flushed
  · have loops : history.recorder.loops = true := by simp [EvidenceRecorder.loops, flushed]
    apply cancel_step kept .resume loops history.recorder
    · simp [step, EvidenceRecorder.step, flushed]
    · rfl
    · rfl
    · exact kept.counted
    · simp only [LosesNone, flushed, forall_const]
      refine forall_congr' fun alive => ?_
      rw [kept.early loops (.inl alive)]
      tauto
  · have next : history.step payloadType .resume = history := by
      simp [step, EvidenceRecorder.step, flushed]
    rw [Stepped, next]
    exact ⟨kept, (and_iff_left fun now => absurd now flushed).symm⟩

theorem timeout_step (kept : Kept history) : Stepped payloadType history .timeout := by
  by_cases flushing : history.recorder.stop = .flushing
  · have loops : history.recorder.loops = true := by simp [EvidenceRecorder.loops, flushing]
    have none := kept.early loops (.inr (by simp [flushing]))
    let counting : EvidenceRecorder F P := { history.recorder with
      shutdownDroppedEvents := history.recorder.shutdownDroppedEvents +
        history.recorder.subscription.queue.items.length }
    have all : counting.shutdownDroppedEvents = counting.queued := by
      simp only [counting, none, Nat.zero_add]
      rfl
    apply cancel_step kept .timeout loops counting
    · simp [step, EvidenceRecorder.step, flushing, counting]
    · rfl
    · rfl
    · exact all.le
    · simp only [LosesNone, flushing, forall_const, all, and_true]
      rfl
  · have next : history.step payloadType .timeout = history := by
      simp [step, EvidenceRecorder.step, flushing]
    rw [Stepped, next]
    exact ⟨kept, (and_iff_left fun now => absurd now flushing).symm⟩

/-- A stop ends at once over a dead loop, and begins to flush otherwise. -/
theorem stop_step (kept : Kept history) : Stepped payloadType history .stop := by
  by_cases running : history.recorder.stop = .running
  · have loops : history.recorder.loops = true := by simp [EvidenceRecorder.loops, running]
    have empty := kept.holding (loops_iff.mp loops).2
    cases alive : history.recorder.isAlive with
    | true =>
      have next : history.step payloadType .stop =
          { history with recorder := { history.recorder with stop := .flushing } } := by
        cases phase : history.recorder.loop <;>
          simp [EvidenceRecorder.isAlive, phase, step, EvidenceRecorder.step, running] at alive ⊢
      have none := kept.early loops (.inl alive)
      have loops' : ({ history.recorder with stop := .flushing } : EvidenceRecorder F P).loops = true :=
        rfl
      rw [Stepped, next]
      refine ⟨.of_loops loops' kept.balanced kept.counted (fun _ => none) empty, ?_⟩
      exact iff_of_true (complete_of_loops loops')
        ⟨complete_of_loops loops, fun _ dead => by simp [alive] at dead⟩
    | false =>
      obtain ⟨error, dead⟩ : ∃ error, history.recorder.loop = .failed error := by
        cases phase : history.recorder.loop <;>
          simp [EvidenceRecorder.isAlive, phase] at alive ⊢
      have next : history.step payloadType .stop = { history with recorder :=
          ({ history.recorder with lastError := some error } : EvidenceRecorder F P).close } := by
        simp [step, EvidenceRecorder.step, running, dead]
      have idle : history.recorder.inFlight = [] := by
        simp [EvidenceRecorder.inFlight, dead]
      rw [Stepped, next]
      refine ⟨⟨kept.balanced, kept.counted, nofun, nofun, fun _ => ⟨rfl, idle⟩, fun _ => empty⟩, ?_⟩
      simp only [Complete, LosesNone, running, alive, forall_const]
      constructor
      · rintro ⟨-, complete⟩
        exact ⟨⟨nofun, nofun⟩, (complete rfl).2⟩
      · rintro ⟨-, same⟩
        exact ⟨nofun, fun _ => ⟨empty, same⟩⟩
  · have next : history.step payloadType .stop = history := by
      cases phase : history.recorder.stop <;>
        simp [step, EvidenceRecorder.step, phase] at running ⊢
    rw [Stepped, next]
    exact ⟨kept, (and_iff_left fun now => absurd now running).symm⟩

theorem finish_step (kept : Kept history) : Stepped payloadType history .finish := by
  by_cases cancelling : history.recorder.stop = .cancelling
  · have alive := kept.alive cancelling
    have none : history.recorder.raisedEvents = 0 := by
      cases phase : history.recorder.loop <;>
        simp [EvidenceRecorder.isAlive, EvidenceRecorder.raisedEvents, phase] at alive ⊢
    have empty := kept.holding (by simp [cancelling])
    have next : history.step payloadType .finish =
        { recorder := ({ history.recorder with loop := .cancelled } : EvidenceRecorder F P).close
          accepted := history.accepted
          abandoned := history.recorder.inFlight } := by
      simp [step, EvidenceRecorder.step, cancelling]
    rw [Stepped, next]
    refine ⟨⟨?_, kept.counted, nofun, nofun, fun _ => ⟨rfl, rfl⟩, fun now => absurd rfl now⟩, ?_⟩
    · have balanced := kept.balanced
      simp only [Balanced, none, empty, List.length_nil] at balanced ⊢
      exact balanced
    · simp only [Complete, cancelling, LosesNone]
      constructor
      · rintro ⟨-, complete⟩
        exact ⟨⟨fun _ => complete rfl, nofun⟩, trivial⟩
      · rintro ⟨⟨complete, -⟩, -⟩
        exact ⟨nofun, fun _ => complete trivial⟩
  · have next : history.step payloadType .finish = history := by
      simp [step, EvidenceRecorder.step, cancelling]
    rw [Stepped, next]
    exact ⟨kept, (and_iff_left trivial).symm⟩

theorem step_kept (payloadType : P → EvidenceKind) (kept : Kept history) (taken : RecorderStep F P) :
    Stepped payloadType history taken := by
  cases taken with
  | publish event => exact publish_step kept event
  | dequeue behaviour => exact dequeue_step kept behaviour
  | stored behaviour => exact stored_step kept behaviour
  | yielded => exact yielded_step kept
  | stop => exact stop_step kept
  | flush => exact flush_step kept
  | resume => exact resume_step kept
  | timeout => exact timeout_step kept
  | finish => exact finish_step kept

end Steps

section Runs

theorem run_kept (kept : Kept history) (steps : List (RecorderStep F P)) :
    Kept (Runs.run (step payloadType) history steps) :=
  Runs.invariant (I := Kept) (fun _ taken kept => (step_kept payloadType kept taken).1) kept

theorem run_complete_iff (kept : Kept history) (steps : List (RecorderStep F P)) :
    Complete (Runs.run (step payloadType) history steps) ↔
      Complete history ∧ Runs.Along (step payloadType) LosesNone history steps := by
  induction steps generalizing history with
  | nil => simp [Runs.Along]
  | cons taken rest ih =>
    obtain ⟨kept', complete⟩ := step_kept payloadType kept taken
    rw [Runs.run_cons, ih kept', complete, Runs.Along, and_assoc]

omit [PyFloat F] in
theorem accounted_iff (kept : Kept history) (returned : history.recorder.stop = .returned) :
    Accounted history ↔ Complete history := by
  have balanced := kept.balanced
  have counted := kept.counted
  have idle := (kept.closed returned).2
  simp only [Balanced, idle, List.length_nil] at balanced
  simp only [Accounted, Complete, returned, reduceCtorEq, false_imp_iff, true_and, forall_const,
    ← List.length_eq_zero_iff]
  omega

/-- Once a stop has returned, the recorder accounts for all accepted events if and only if no step
of the run has lost one. -/
theorem recorder_accounts_iff {call : SubscribeCall F} {subscription : TelemetrySubscription F P}
    (made : newSubscription call = .ok subscription) (steps : List (RecorderStep F P))
    (returned : (Runs.run (step payloadType) ⟨{ subscription }, [], []⟩ steps).recorder.stop =
      .returned) :
    Accounted (Runs.run (step payloadType) ⟨{ subscription }, [], []⟩ steps) ↔
      Runs.Along (step payloadType) LosesNone ⟨{ subscription }, [], []⟩ steps := by
  have new : Subscriber.Kept 0 ⟨subscription, {}⟩ := Subscriber.kept_of_new made
  have empty : subscription.queue.items.length = 0 := by
    have length := new.balances.length
    simp at length
    omega
  have kept : Kept (F := F) ⟨{ subscription }, [], []⟩ := by
    refine .of_loops rfl ?_ (Nat.zero_le _) (fun _ => rfl) rfl
    have none : 0 = subscription.droppedEvents := new.counted
    simp [Balanced, EvidenceRecorder.raisedEvents, EvidenceRecorder.queued,
      EvidenceRecorder.inFlight, empty, none]
  rw [accounted_iff (run_kept kept steps) returned, run_complete_iff kept]
  exact and_iff_right (complete_of_loops rfl)

end Runs

section Instances

def eventOf (payload : EvidenceKind) (sequence : Nat) : EvidenceEvent ℚ EvidenceKind where
  eventId := "event"
  sequence
  kind := payload
  vehicleId := "alpha"
  runId := "run"
  receivedTimestampS := 0
  payload

def demoSubscription : TelemetrySubscription ℚ EvidenceKind where
  queue := .empty 8 (by decide)
  minimumTelemetryIntervalS := 0

/-- The store fails on the first of three events; the other two are in nobody's count. -/
theorem dead_loop_leaves_events :
    newSubscription { bufferSize := 8 } = .ok demoSubscription ∧
      ∃ stopped : RecorderHistory ℚ EvidenceKind,
        stopped = Runs.run (step id) ⟨{ subscription := demoSubscription }, [], []⟩
          [.publish (eventOf .command 1), .dequeue ⟨fun _ => true, false⟩,
            .publish (eventOf .acknowledgement 2), .publish (eventOf .telemetry 3), .stop] ∧
        stopped.recorder.stop = .returned ∧ ¬ Accounted stopped := by
  refine ⟨rfl, _, rfl, ?_, ?_⟩
  · decide
  · unfold Accounted
    decide

/-- The queue is flushed before the recorder stops. -/
theorem recorder_accounts_iff_flushed :
    Accounted (Runs.run (step id) ⟨{ subscription := demoSubscription }, [], []⟩
        [.publish (eventOf .command 1), .dequeue ⟨fun _ => false, false⟩, .yielded, .stop, .flush,
          .resume, .finish]) ↔
      Runs.Along (step id) LosesNone ⟨{ subscription := demoSubscription }, [], []⟩
        [.publish (eventOf .command 1), .dequeue ⟨fun _ => false, false⟩, .yielded, .stop, .flush,
          .resume, .finish] := by
  have made : newSubscription { bufferSize := 8 } = .ok demoSubscription := rfl
  exact recorder_accounts_iff made _ (by decide)

end Instances

end RecorderHistory

end CrazySwarm
