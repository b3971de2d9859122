import CrazySwarm.MissionRunner
import CrazySwarm.SupervisorSteps

/-! The parts of a run. What its waits, its own operations of the supervisor and the phases it
enters keep is kept by its try block, its handlers and its finally block. -/
namespace CrazySwarm
open PyFloat PyMath

variable {F : Type} [PyMath F]

def RunnerAwaited.run? : RunnerAwaited F → Option RunHandle
  | .outside _ => none
  | .inside run _ _ | .bindRun run | .groundWait run | .authority run _ | .flightOrWatchdog run
  | .flight run | .watchdog run | .gathered run | .recovery run | .heartbeat run => some run

namespace MissionRunner
open Coroutine SafetySupervisor

abbrev Begun (F : Type) [PyMath F] := EventLoop.Begun (MissionRunner F) (RunnerAwaited F) RunnerReply

variable {clock : MonotonicClock F} {run : RunHandle} {request : RunRequest} {mission : Mission}
  {φ : Type} {rel : φ → MissionRunner F → Prop} {may : φ → RunnerAwaited F → Prop}
  {ready : (on : RunnerAwaited F) → MissionRunner F → RunnerReply on → MissionRunner F → φ → Prop}

section Phase

variable {rel' : φ → RunnerAwaited F → MissionRunner F → Prop} {first : φ} {s : MissionRunner F}

theorem meets_monotonic {post : φ → Except (Raised F) F → MissionRunner F → Prop} :
    (outside (monotonic clock)).Meets rel' ready post first s ↔
      post first (.ok (clock.read s.supervisor.ticks))
        { s with supervisor := { s.supervisor with ticks := s.supervisor.ticks + 1 } } := Iff.rfl

theorem meets_newObject {post : φ → Except (Raised F) Nat → MissionRunner F → Prop} :
    newObject.Meets rel' ready post first s ↔
      post first (.ok s.made) { s with made := s.made + 1 } := Iff.rfl

theorem meets_subscript {table : Dict String α} {key : String}
    {post : φ → Except (Raised F) α → MissionRunner F → Prop}
    (found : ∀ value, table.get? key = some value → post first (.ok value) s)
    (missing : ∀ raised, table.get? key = none → post first (.error raised) s) :
    (subscript table key).Meets rel' ready post first s := by
  unfold subscript
  split
  · next value held => exact found value held
  · next held => exact missing _ held

def entered (s : MissionRunner F) (clock : MonotonicClock F) (runId : String)
    (target : MissionPhase) (message : String) (snapshot : MissionRunSnapshot F)
    (events : List (MissionRunEvent F)) : MissionRunner F :=
  { s with
    supervisor := { s.supervisor with ticks := s.supervisor.ticks + 1 }
    events := s.events.insert runId (events ++
      [⟨runId, events.length + 1, target, clock.read s.supervisor.ticks, message⟩])
    runs := s.runs.insert runId { snapshot with phase := target } }

/-- A phase is entered if the run is in both tables, and otherwise nothing happens. -/
theorem phase_meets {wait : φ → RunnerAwaited F → MissionRunner F → Prop}
    {post : φ → Except (Raised F) Unit → MissionRunner F → Prop} {first : φ} {s : MissionRunner F}
    {runId message : String} {target : MissionPhase}
    (fails : ∀ error, s.runs.get? runId = none ∨ s.events.get? runId = none →
      post first (.error error) s)
    (enters : ∀ snapshot events, s.runs.get? runId = some snapshot →
      s.events.get? runId = some events →
        post first (.ok ()) (s.entered clock runId target message snapshot events)) :
    (phase clock runId target message).Meets wait ready post first s := by
  refine meets_bind.mpr (meets_get.mpr (meets_bind.mpr (meets_subscript (fun snapshot found =>
    meets_bind.mpr (meets_subscript (fun events listed => ?_) ?_)) ?_)))
  · exact enters snapshot events found listed
  · exact fun raised listed => fails raised (.inr listed)
  · exact fun raised found => fails raised (.inl found)

end Phase

section Steady

/-- The coroutine keeps `rel` up to each of its waits and to its end. -/
abbrev Steady (rel : φ → MissionRunner F → Prop) (may : φ → RunnerAwaited F → Prop)
    (ready : (on : RunnerAwaited F) → MissionRunner F → RunnerReply on → MissionRunner F → φ → Prop)
    (c : RunnerCall F α) : Prop :=
  c.Keeps rel may ready (fun _ _ => True) fun _ _ _ => True

theorem Steady.done {result : Except (Raised F) α} : Steady rel may ready (done result) :=
  Keeps.done fun _ _ => id

theorem Steady.handle {c : RunnerCall F α} {f : Except (Raised F) α → RunnerCall F β}
    (front : Steady rel may ready c) (rest : ∀ result, Steady rel may ready (f result)) :
    Steady rel may ready (c.handle f) :=
  Keeps.handle front rest

theorem Steady.bind {c : RunnerCall F α} {f : α → RunnerCall F β}
    (front : Steady rel may ready c) (rest : ∀ value, Steady rel may ready (f value)) :
    Steady rel may ready (c >>= f) :=
  Keeps.bind front (fun _ _ _ => id) rest

theorem Steady.get : Steady rel may ready (get : RunnerCall F (MissionRunner F)) :=
  Keeps.get.consequence (fun _ _ => id) fun _ _ _ _ => trivial

theorem Steady.ite {condition : Prop} [Decidable condition] {yes no : RunnerCall F α}
    (left : Steady rel may ready yes) (right : Steady rel may ready no) :
    Steady rel may ready (if condition then yes else no) := by
  split
  · exact left
  · exact right

theorem Steady.suppress {kinds : Raised F → Bool} {body : RunnerCall F Unit}
    (steady : Steady rel may ready body) : Steady rel may ready (suppress kinds body) := by
  apply steady.handle
  rintro (raised | value)
  · exact .ite .done .done
  · exact .done

theorem Steady.ensure {c : RunnerCall F α} {last : RunnerCall F Unit}
    (front : Steady rel may ready c) (back : Steady rel may ready last) :
    Steady rel may ready (ensure c last) :=
  front.handle fun _ => back.bind fun _ => .done

end Steady

/-- The parts of a run each keep `rel`. -/
structure Parts (clock : MonotonicClock F) (run : RunHandle) (rel : φ → MissionRunner F → Prop)
    (may : φ → RunnerAwaited F → Prop)
    (ready : (on : RunnerAwaited F) → MissionRunner F → RunnerReply on → MissionRunner F → φ → Prop) :
    Prop where
  waits : ∀ {α : Type} (on : RunnerAwaited F) (result : RunnerReply on → Except (Raised F) α),
    on.run? = some run → Steady rel may ready (wait on fun reply => done (result reply))
  calls : ∀ {α : Type} (site : Site) (call : Call F α), call.Everywhere Clears anything →
    Steady rel may ready (inside run site call)
  looks : ∀ {α : Type} (call : Call F α), call.Everywhere Still (fun _ => False) →
    Steady rel may ready (outside call)
  claims : Steady rel may ready (outside (claimControl clock run.vehicleId run.ownerId none))
  phases : ∀ target message, Steady rel may ready (phase clock run.runId target message)

namespace Parts

variable (parts : Parts clock run rel may ready)

include parts

theorem sessionOf : Steady rel may ready (sessionOf run.vehicleId) :=
  parts.looks _ (session_still.bind fun _ => load_still)

theorem connectIfNeeded {ref : Nat} :
    Steady rel may ready (connectIfNeeded clock run ref request) := by
  refine (parts.looks _ load_still).bind fun current => .ite ?_ .done
  have connects : Steady rel may ready (do
      phase clock run.runId .connecting "connecting vehicle"
      let _ ← inside run .connect (connect clock run.vehicleId)
      return true) :=
    (parts.phases _ _).bind fun _ =>
      (parts.calls _ _ (clears_of_quiet connect_quiet)).bind fun _ => .done
  exact .ite (Steady.done.bind fun _ => connects) connects

theorem claimAuthority : Steady rel may ready (claimAuthority clock run) :=
  (parts.waits (.bindRun run) id rfl).bind fun _ => (parts.phases _ _).bind fun _ => parts.claims

theorem executeWithHealthWatchdog : Steady rel may ready (executeWithHealthWatchdog run) := by
  refine .ensure ?_ (parts.waits (.gathered run) id rfl)
  refine (parts.waits (.flightOrWatchdog run) id rfl).bind fun watchdogDone => .ite ?_ ?_
  · refine .bind (.suppress ?_) fun _ => parts.waits (.watchdog run) id rfl
    exact (parts.waits (.flight run) id rfl).bind fun _ => .done
  · refine parts.sessionOf.bind fun current => .ite (parts.waits (.watchdog run) id rfl) ?_
    refine .bind (.suppress (parts.waits (.watchdog run) id rfl)) fun _ =>
      (parts.waits (.flight run) id rfl).bind fun faults => ?_
    cases faults <;> exact .done

theorem fly {ref : Nat} : Steady rel may ready (fly clock run ref mission request) := by
  -- every `if` without an `else` continues with the same statements
  refine .ite (.bind (parts.phases _ _) fun _ => .bind (parts.waits (.groundWait run) id rfl)
    fun _ => ?_) ?_
  all_goals
    refine (parts.phases _ _).bind fun _ =>
      (parts.calls _ _ (clears_of_quiet preflight_quiet)).bind fun report =>
        .ite (Steady.done.bind fun _ => ?_) ?_
  all_goals
    refine (parts.looks _ load_still).bind fun current => Steady.get.bind fun r =>
      .ite (Steady.done.bind fun _ => ?_) ?_
  all_goals
    exact (parts.phases _ _).bind fun _ => (parts.waits (.authority run .arm) id rfl).bind
      fun _ => (parts.calls _ _ arm_clears).bind fun _ => parts.executeWithHealthWatchdog

/-- The try block. -/
theorem attempt {ref : Nat} : Steady rel may ready (attempt clock run ref mission request) := by
  apply parts.connectIfNeeded.handle
  rintro (raised | connectedHere)
  · exact .done
  apply parts.claimAuthority.handle
  rintro (raised | ⟨⟩)
  · exact .done
  apply parts.fly.handle
  rintro (raised | ⟨⟩)
  · exact .done
  · exact .done

theorem shieldedRecovery : Steady rel may ready (shieldedRecovery run) :=
  .suppress (parts.waits (.recovery run) id rfl)

/-- The handlers. -/
theorem recover {raised : Raised F} : Steady rel may ready (recover run raised) := by
  refine .ite ?_ ?_
  · exact parts.sessionOf.bind fun current =>
      .ite .done (parts.shieldedRecovery.bind fun _ => .done)
  · refine parts.shieldedRecovery.bind fun _ => ?_
    exact .done

theorem cleanup {connectedHere : Bool} :
    Steady rel may ready (cleanup clock run connectedHere request) := by
  refine (parts.looks _ session_still).bind fun ref => (parts.looks _ load_still).bind
    fun current => .ite (.bind (.suppress ?_) fun _ => ?_) ?_
  · exact (parts.waits (.authority run .disarm) id rfl).bind fun _ =>
      (parts.calls _ _ disarm_clears).bind fun _ => .done
  all_goals
    refine (parts.looks _ load_still).bind fun current => .ite (.bind (.suppress
      (parts.calls _ _ releaseControl_clears)) fun _ => ?_) ?_
  all_goals
    refine .ite (parts.sessionOf.bind fun current => .ite (.suppress ?_) .done) .done
  all_goals
    exact parts.calls _ _ disconnect_clears

/-- The finally block. -/
theorem finish {attempted : Attempt F} :
    Steady rel may ready (finish clock run attempted request) := by
  refine .ite (.bind (.suppress (parts.waits (.heartbeat run) id rfl)) fun _ => ?_) ?_
  all_goals
    exact (parts.phases _ _).bind fun _ => parts.cleanup

end Parts

end MissionRunner

end CrazySwarm
