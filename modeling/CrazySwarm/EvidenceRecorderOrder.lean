import CrazySwarm.EvidenceRecorderAccounts

/-! What the store gets from a recorder: accepted events, in their order and each once, and how far
the recorder's own count of them may be off. -/
namespace CrazySwarm

variable {F P : Type} [PyFloat F] (payloadType : P → EvidenceKind)

namespace EvidenceRecorder

/-- `append_event` and what `_record` calls before it do not raise. -/
def appends (behaviour : Behaviour) (event : EvidenceEvent F P) : Bool :=
  match failing payloadType behaviour event with
  | none => true
  | some call => call ∈ [StoreCall.completeRun, .materializeRunFilesForRun]

/-- The events that the store gets in a step. -/
def appended (recorder : EvidenceRecorder F P) : RecorderStep F P → List (EvidenceEvent F P)
  | .dequeue behaviour =>
    match recorder.loop, recorder.loops, recorder.subscription.queue.items with
    | .getting, true, event :: _ =>
      if payloadType event.payload = .missionResult then []
      else [event].filter (appends payloadType behaviour)
    | _, _, _ => []
  | .stored behaviour =>
    match recorder.loop, recorder.loops with
    | .storing event, true => [event].filter (appends payloadType behaviour)
    | _, _ => []
  | _ => []

end EvidenceRecorder

structure RecorderLog (F P : Type) where
  history : RecorderHistory F P
  stored : List (EvidenceEvent F P) := []

namespace RecorderHistory

/-- The accepted events that may still reach the store, one abandoned in its thread among them. -/
def line (history : RecorderHistory F P) : List (EvidenceEvent F P) :=
  history.abandoned ++ history.recorder.inFlight ++ history.recorder.subscription.queue.items

structure Moves (history next : RecorderHistory F P) (appended : List (EvidenceEvent F P)) : Prop where
  line : ∃ new, next.accepted = history.accepted ++ new ∧
    (appended ++ next.line).Sublist (history.line ++ new)
  counted : next.recorder.persistedEvents ≤ history.recorder.persistedEvents + appended.length
  raised : history.recorder.persistedEvents + history.recorder.raisedEvents + appended.length ≤
    next.recorder.persistedEvents + next.recorder.raisedEvents

section Steps

variable {payloadType} {history : RecorderHistory F P} {taken : RecorderStep F P}
  {next : EvidenceRecorder F P}

omit [PyFloat F] in
theorem Moves.refl (history : RecorderHistory F P) : Moves history history [] :=
  ⟨⟨[], by simp, by simp⟩, by simp, by simp⟩

omit [PyFloat F] in
/-- A step that moves no event and counts none. -/
theorem moves_of_same (line : next.inFlight = history.recorder.inFlight ∧
      next.subscription.queue = history.recorder.subscription.queue)
    (counts : next.persistedEvents = history.recorder.persistedEvents ∧
      next.raisedEvents = history.recorder.raisedEvents) :
    Moves history { history with recorder := next } [] :=
  ⟨⟨[], by simp, by simp [RecorderHistory.line, line.1, line.2]⟩, by simp [counts.1],
    by simp [counts.1, counts.2]⟩

omit [PyFloat F] in
/-- The loop is done with the first event of the line. -/
theorem conclude_moves {recorder : EvidenceRecorder F P} (behaviour : Behaviour)
    {event : EvidenceEvent F P}
    (first : history.line = event :: recorder.subscription.queue.items)
    (empty : history.abandoned = [])
    (counts : recorder.persistedEvents = history.recorder.persistedEvents ∧
      history.recorder.raisedEvents = 0) :
    Moves history { history with recorder := recorder.conclude payloadType behaviour event }
      ([event].filter (EvidenceRecorder.appends payloadType behaviour)) := by
  obtain ⟨once, idle, subscription, -⟩ := conclude_counts payloadType recorder behaviour event
  refine ⟨⟨[], by simp, ?_⟩, ?_, ?_⟩
  · have rest : line { history with recorder := recorder.conclude payloadType behaviour event } =
        recorder.subscription.queue.items := by
      simp [RecorderHistory.line, empty, idle, subscription]
    rw [rest, first, List.append_nil, ← List.singleton_append]
    exact (List.filter_sublist).append_right _
  · cases failed : EvidenceRecorder.failing payloadType behaviour event with
    | some call => simp [EvidenceRecorder.conclude, failed, counts.1]
    | none =>
      have kept : EvidenceRecorder.appends payloadType behaviour event = true := by
        simp [EvidenceRecorder.appends, failed]
      simp only [List.filter_cons, kept, if_true, List.filter_nil, List.length_singleton]
      change (recorder.conclude payloadType behaviour event).persistedEvents ≤ _
      omega
  · have short := (List.filter_sublist (p := EvidenceRecorder.appends payloadType behaviour)
      (l := [event])).length_le
    rw [List.length_singleton] at short
    change _ ≤ (recorder.conclude payloadType behaviour event).persistedEvents +
      (recorder.conclude payloadType behaviour event).raisedEvents
    omega

omit [PyFloat F] in
theorem moves_of_loop (loop : next.loop = history.recorder.loop)
    (queue : next.subscription.queue = history.recorder.subscription.queue)
    (persisted : next.persistedEvents = history.recorder.persistedEvents) :
    Moves history { history with recorder := next } [] := by
  refine moves_of_same ⟨?_, queue⟩ ⟨persisted, ?_⟩
  · rw [EvidenceRecorder.inFlight, loop, EvidenceRecorder.inFlight]
  · rw [EvidenceRecorder.raisedEvents, loop, EvidenceRecorder.raisedEvents]

omit [PyFloat F] in
theorem cancel_same (recorder : EvidenceRecorder F P) :
    recorder.cancel.loop = recorder.loop ∧
      recorder.cancel.subscription.queue = recorder.subscription.queue ∧
      recorder.cancel.persistedEvents = recorder.persistedEvents := by
  unfold EvidenceRecorder.cancel
  split <;> exact ⟨rfl, rfl, rfl⟩

theorem publish_moves (event : EvidenceEvent F P) :
    Moves history (history.step payloadType (.publish event)) [] := by
  cases accepted : (history.recorder.subscription.accepts event).2 with
  | false =>
    have same : history.step payloadType (.publish event) = history := by
      simp [step, EvidenceRecorder.step, accepted, TelemetrySubscription.offer_refused accepted]
    rw [same]
    exact .refl history
  | true =>
    obtain ⟨queue, -⟩ := TelemetrySubscription.offer_accepted accepted
    refine ⟨⟨[event], by simp [step, accepted], ?_⟩, Nat.le_add_right _ _, Nat.le_refl _⟩
    have items : (history.step payloadType (.publish event)).recorder.subscription.queue.items =
        history.recorder.subscription.queue.kept ++ [event] := by
      simp [step, EvidenceRecorder.step, queue]
    have stays : history.recorder.subscription.queue.kept.Sublist
        history.recorder.subscription.queue.items := by
      conv_rhs => rw [← history.recorder.subscription.queue.displaced_append_kept]
      exact List.sublist_append_right _ _
    rw [List.nil_append, RecorderHistory.line, items, RecorderHistory.line, ← List.append_assoc]
    exact (stays.append_left _).append_right _

theorem dequeue_moves (behaviour : Behaviour) (empty : history.abandoned = []) :
    Moves history (history.step payloadType (.dequeue behaviour))
      (history.recorder.appended payloadType (.dequeue behaviour)) := by
  have frame : history.step payloadType (.dequeue behaviour) =
    { history with recorder := history.recorder.step payloadType (.dequeue behaviour) } := rfl
  rw [frame]
  cases getting : history.recorder.loop with
  | getting =>
    cases loops : history.recorder.loops with
    | false =>
      simp only [EvidenceRecorder.step, EvidenceRecorder.appended, getting, loops]
      exact .refl history
    | true =>
      simp only [EvidenceRecorder.step, EvidenceRecorder.appended, getting, loops, if_true,
        EvidenceRecorder.dequeue]
      cases items : history.recorder.subscription.queue.items with
      | nil => exact .refl history
      | cons event rest =>
        have idle : history.recorder.inFlight = [] := by
          simp [EvidenceRecorder.inFlight, getting]
        dsimp only
        split
        · refine ⟨⟨[], by simp, ?_⟩, by simp, ?_⟩
          · simp [RecorderHistory.line, empty, items, EvidenceRecorder.inFlight,
              TelemetrySubscription.getNowait]
          · simp [EvidenceRecorder.raisedEvents, getting]
        · refine conclude_moves behaviour ?_ empty ⟨rfl, by simp [EvidenceRecorder.raisedEvents, getting]⟩
          simp [RecorderHistory.line, empty, idle, items, TelemetrySubscription.getNowait]
  | _ =>
    simp only [EvidenceRecorder.step, EvidenceRecorder.appended, getting]
    exact .refl history

theorem stored_moves (behaviour : Behaviour) (empty : history.abandoned = []) :
    Moves history (history.step payloadType (.stored behaviour))
      (history.recorder.appended payloadType (.stored behaviour)) := by
  have frame : history.step payloadType (.stored behaviour) =
    { history with recorder := history.recorder.step payloadType (.stored behaviour) } := rfl
  rw [frame]
  cases storing : history.recorder.loop with
  | storing event =>
    cases loops : history.recorder.loops with
    | false =>
      simp only [EvidenceRecorder.step, EvidenceRecorder.appended, storing, loops]
      exact .refl history
    | true =>
      simp only [EvidenceRecorder.step, EvidenceRecorder.appended, storing, loops, if_true]
      refine conclude_moves behaviour ?_ empty ⟨rfl, by simp [EvidenceRecorder.raisedEvents, storing]⟩
      simp [RecorderHistory.line, empty, EvidenceRecorder.inFlight, storing]
  | _ =>
    simp only [EvidenceRecorder.step, EvidenceRecorder.appended, storing]
    exact .refl history

theorem step_moves (kept : Kept history) (going : history.recorder.stop ≠ .returned) :
    Moves history (history.step payloadType taken) (history.recorder.appended payloadType taken) := by
  have empty := kept.holding going
  cases taken with
  | publish event => exact publish_moves event
  | dequeue behaviour => exact dequeue_moves behaviour empty
  | stored behaviour => exact stored_moves behaviour empty
  | finish =>
    by_cases cancelling : history.recorder.stop = .cancelling
    · have alive := kept.alive cancelling
      refine ⟨⟨[], by simp [step], ?_⟩, ?_, ?_⟩
      · simp [RecorderHistory.line, step, EvidenceRecorder.step, cancelling, empty,
          EvidenceRecorder.close, EvidenceRecorder.inFlight, EvidenceRecorder.appended]
      · simp [step, EvidenceRecorder.step, cancelling, EvidenceRecorder.close,
          EvidenceRecorder.appended]
      · have whole : history.recorder.raisedEvents = 0 := by
          unfold EvidenceRecorder.isAlive at alive
          unfold EvidenceRecorder.raisedEvents
          split at alive <;> simp_all
        simp [step, EvidenceRecorder.step, cancelling, EvidenceRecorder.close,
          EvidenceRecorder.appended, whole]
    · have same : history.step payloadType .finish = history := by
        simp [step, EvidenceRecorder.step, cancelling]
      rw [same]
      exact .refl history
  | yielded =>
    refine moves_of_same ?_ ?_ <;> simp only [EvidenceRecorder.step] <;> split
    · split <;> simp_all [EvidenceRecorder.inFlight]
    · exact ⟨rfl, rfl⟩
    · split <;> simp_all [EvidenceRecorder.raisedEvents]
    · exact ⟨rfl, rfl⟩
  | stop =>
    refine moves_of_loop ?_ ?_ ?_ <;> simp only [EvidenceRecorder.step] <;> split <;> rfl
  | flush =>
    refine moves_of_loop ?_ ?_ ?_ <;> simp only [EvidenceRecorder.step] <;> split <;> rfl
  | resume =>
    obtain ⟨loop, queue, persisted⟩ := cancel_same history.recorder
    refine moves_of_loop ?_ ?_ ?_ <;> simp only [EvidenceRecorder.step] <;> split
    all_goals first | rfl | assumption
  | timeout =>
    refine moves_of_loop ?_ ?_ ?_ <;> simp only [EvidenceRecorder.step] <;> split
    · exact (cancel_same _).1
    · rfl
    · exact (cancel_same _).2.1
    · rfl
    · exact (cancel_same _).2.2
    · rfl

/-- Nothing happens in a recorder that has been stopped. -/
theorem returned_step (kept : Kept history) (returned : history.recorder.stop = .returned) :
    history.step payloadType taken = history ∧
      history.recorder.appended payloadType taken = [] := by
  have closed := (kept.closed returned).1
  have idle : history.recorder.loops = false := by simp [EvidenceRecorder.loops, returned]
  cases taken with
  | publish event =>
    have refused : (history.recorder.subscription.accepts event).2 = false := by
      simp [TelemetrySubscription.accepts, TelemetrySubscription.admits, closed]
    refine ⟨?_, rfl⟩
    simp [step, EvidenceRecorder.step, refused, TelemetrySubscription.offer_refused refused]
  | dequeue behaviour | stored behaviour =>
    constructor
    · cases phase : history.recorder.loop <;> simp [step, EvidenceRecorder.step, phase, idle]
    · cases phase : history.recorder.loop <;> simp [EvidenceRecorder.appended, phase, idle]
  | yielded =>
    refine ⟨?_, rfl⟩
    cases phase : history.recorder.loop <;> simp [step, EvidenceRecorder.step, phase, idle]
  | stop | flush | resume | timeout | finish =>
    exact ⟨by simp [step, EvidenceRecorder.step, returned], rfl⟩

end Steps

end RecorderHistory

namespace RecorderLog
open RecorderHistory

def step (log : RecorderLog F P) (taken : RecorderStep F P) : RecorderLog F P where
  history := log.history.step payloadType taken
  stored := log.stored ++ log.history.recorder.appended payloadType taken

structure Faithful (log : RecorderLog F P) : Prop where
  kept : Kept log.history
  ordered : (log.stored ++ log.history.line).Sublist log.history.accepted
  counted : log.history.recorder.persistedEvents ≤ log.stored.length
  raised : log.stored.length ≤
    log.history.recorder.persistedEvents + log.history.recorder.raisedEvents

variable {payloadType} {log : RecorderLog F P}

theorem Faithful.step (faithful : Faithful log) (taken : RecorderStep F P) :
    Faithful (log.step payloadType taken) := by
  have next := (step_kept payloadType faithful.kept taken).1
  by_cases returned : log.history.recorder.stop = .returned
  · obtain ⟨same, none⟩ : log.history.step payloadType taken = log.history ∧
        log.history.recorder.appended payloadType taken = [] :=
      returned_step faithful.kept returned
    rw [RecorderLog.step, same, none, List.append_nil]
    exact faithful
  · have moves : Moves log.history (log.history.step payloadType taken)
        (log.history.recorder.appended payloadType taken) := step_moves faithful.kept returned
    obtain ⟨⟨new, accepted, line⟩, counted, raised⟩ := moves
    refine ⟨next, ?_, ?_, ?_⟩
    · rw [RecorderLog.step, accepted, List.append_assoc]
      refine (line.append_left log.stored).trans ?_
      rw [← List.append_assoc]
      exact faithful.ordered.append_right new
    · have before := faithful.counted
      simp only [RecorderLog.step, List.length_append]
      omega
    · have before := faithful.raised
      simp only [RecorderLog.step, List.length_append]
      omega

/-- However publications, the loop and the stop of a recorder interleave, and its store fails: what
the store has and may still get is a subsequence of the accepted events, and the recorder's count is
short by one at most, once its loop has died of the store. -/
theorem run_recorded_in_order {call : SubscribeCall F} {subscription : TelemetrySubscription F P}
    (made : newSubscription call = .ok subscription) (steps : List (RecorderStep F P)) :
    let log := Runs.run (step payloadType) ⟨⟨{ subscription }, [], []⟩, []⟩ steps
    log.history = Runs.run (RecorderHistory.step payloadType) ⟨{ subscription }, [], []⟩ steps ∧
    (log.stored ++ log.history.line).Sublist log.history.accepted ∧
    log.history.recorder.persistedEvents ≤ log.stored.length ∧
    log.stored.length ≤ log.history.recorder.persistedEvents + log.history.recorder.raisedEvents := by
  intro log
  have begins : Faithful (⟨⟨{ subscription }, [], []⟩, []⟩ : RecorderLog F P) := by
    have new : Subscriber.Kept 0 ⟨subscription, {}⟩ := Subscriber.kept_of_new made
    have empty : subscription.queue.items = [] := List.length_eq_zero_iff.mp (by
      have length := new.balances.length
      simp at length
      omega)
    have counted : 0 = subscription.droppedEvents := new.counted
    refine ⟨.of_loops rfl ?_ (Nat.zero_le _) (fun _ => rfl) rfl, ?_, Nat.le_refl _, Nat.zero_le _⟩
    · simp [RecorderHistory.Balanced, EvidenceRecorder.raisedEvents, EvidenceRecorder.queued,
        EvidenceRecorder.inFlight, empty, ← counted]
    · simp [RecorderHistory.line, EvidenceRecorder.inFlight, empty]
  have faithful : Faithful log := Runs.invariant (fun _ taken held => held.step taken) begins
  refine ⟨?_, faithful.ordered, faithful.counted, faithful.raised⟩
  have same (start : RecorderLog F P) (steps : List (RecorderStep F P)) :
      (Runs.run (step payloadType) start steps).history =
        Runs.run (RecorderHistory.step payloadType) start.history steps := by
    induction steps generalizing start with
    | nil => rfl
    | cons taken rest ih => exact ih _
  exact same _ steps

/-- The store fails when the mission is completed: it has the result, and the count does not. -/
theorem failed_result_is_stored :
    let log := Runs.run (step id)
      ⟨⟨{ subscription := RecorderHistory.demoSubscription }, [], []⟩, []⟩
      [.publish (eventOf .missionResult 1), .dequeue ⟨fun _ => false, false⟩,
        .stored ⟨fun call => call = .completeRun, false⟩]
    log.stored = [eventOf .missionResult 1] ∧ log.history.recorder.persistedEvents = 0 ∧
      (log.stored ++ log.history.line).Sublist log.history.accepted := by
  have made : newSubscription { bufferSize := 8 } = .ok demoSubscription := rfl
  intro log
  refine ⟨rfl, rfl, ?_⟩
  exact (run_recorded_in_order made _).2.1

end RecorderLog

end CrazySwarm
