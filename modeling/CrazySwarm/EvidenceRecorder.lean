import CrazySwarm.Lib.Runs
import CrazySwarm.TelemetryBusDelivery

/-! The evidence recorder: a loop that stores the events of one subscription until the first that
fails, and a stop that waits for the queue to be flushed, for a time, before it cancels the loop.
Events may be published between any two awaits of the two. -/
namespace CrazySwarm
open PyFloat

variable {F P : Type} [PyFloat F]

inductive StoreCall where
  | beginRun | appendEvent | completeRun | materializeRunFilesForRun
  deriving DecidableEq, Repr

/-- The calls of `_record` to the store, in their order. -/
def recordCalls (payloadType : EvidenceKind) : List StoreCall :=
  (if payloadType = .missionStarted then [.beginRun] else []) ++ [.appendEvent] ++
    if payloadType = .missionResult then [.completeRun, .materializeRunFilesForRun] else []

inductive RecorderError where
  | store (call : StoreCall)
  | timing
  deriving DecidableEq, Repr

/-- Where the loop is: before `queue.get()`, in the thread that stores a mission result, in
`sleep(0)`, or ended. -/
inductive LoopPhase (F P : Type) where
  | getting
  | storing (event : EvidenceEvent F P)
  | yielding
  | failed (error : RecorderError)
  | cancelled
  deriving DecidableEq, Repr

/-- Where `stop` is: not called, or raised; before and after the queue has been flushed; waiting for
the cancelled loop; done. -/
inductive StopPhase where
  | running | flushing | flushed | cancelling | returned
  deriving DecidableEq, Repr

structure EvidenceRecorder (F P : Type) where
  subscription : TelemetrySubscription F P
  loop : LoopPhase F P := .getting
  stop : StopPhase := .running
  persistedEvents : Nat := 0
  shutdownDroppedEvents : Nat := 0
  lastError : Option RecorderError := none

structure Behaviour where
  raises : StoreCall → Bool
  timingRaises : Bool := false

inductive RecorderStep (F P : Type) where
  | publish (event : EvidenceEvent F P)
  | dequeue (behaviour : Behaviour)
  | stored (behaviour : Behaviour)
  | yielded
  | stop
  | flush
  | resume
  | timeout
  | finish

namespace EvidenceRecorder

variable (payloadType : P → EvidenceKind)

/-- The event that has been taken from the queue and is not done. -/
def inFlight (recorder : EvidenceRecorder F P) : List (EvidenceEvent F P) :=
  match recorder.loop with
  | .storing event => [event]
  | _ => []

/-- The count that `queue.join()` waits for. -/
def unfinishedTasks (recorder : EvidenceRecorder F P) : Nat :=
  recorder.subscription.queue.items.length + recorder.inFlight.length

def failing (behaviour : Behaviour) (event : EvidenceEvent F P) : Option StoreCall :=
  (recordCalls (payloadType event.payload)).find? behaviour.raises

/-- The loop's body for an event from `_record` on. -/
def conclude (recorder : EvidenceRecorder F P) (behaviour : Behaviour) (event : EvidenceEvent F P) :
    EvidenceRecorder F P :=
  match failing payloadType behaviour event with
  | some call =>
    { recorder with loop := .failed (.store call), lastError := some (.store call) }
  | none =>
    let recorder := { recorder with persistedEvents := recorder.persistedEvents + 1 }
    if behaviour.timingRaises then
      { recorder with loop := .failed .timing, lastError := some .timing }
    else { recorder with loop := .yielding }

/-- The loop takes an event, and is done with it at once unless it is a mission result. -/
def dequeue (recorder : EvidenceRecorder F P) (behaviour : Behaviour) : EvidenceRecorder F P :=
  match recorder.subscription.queue.items with
  | [] => recorder
  | event :: _ =>
    let recorder := { recorder with subscription := recorder.subscription.getNowait.1 }
    if payloadType event.payload = .missionResult then { recorder with loop := .storing event }
    else recorder.conclude payloadType behaviour event

/-- The end of `stop`. -/
def close (recorder : EvidenceRecorder F P) : EvidenceRecorder F P :=
  { recorder with
    stop := .returned
    subscription := { recorder.subscription with closed := true } }

/-- `task.cancel()` and `await task`, which raises what the loop has failed with. -/
def cancel (recorder : EvidenceRecorder F P) : EvidenceRecorder F P :=
  match recorder.loop with
  | .failed _ => { recorder with stop := .running }
  | _ => { recorder with stop := .cancelling }

/-- The loop runs on until it has been cancelled. -/
def loops (recorder : EvidenceRecorder F P) : Bool :=
  recorder.stop ≠ .cancelling && recorder.stop ≠ .returned

def step (recorder : EvidenceRecorder F P) : RecorderStep F P → EvidenceRecorder F P
  | .publish event => { recorder with subscription := recorder.subscription.offer event }
  | .dequeue behaviour =>
    match recorder.loop with
    | .getting => if recorder.loops then recorder.dequeue payloadType behaviour else recorder
    | _ => recorder
  | .stored behaviour =>
    match recorder.loop with
    | .storing event =>
      if recorder.loops then recorder.conclude payloadType behaviour event else recorder
    | _ => recorder
  | .yielded =>
    match recorder.loop with
    | .yielding => if recorder.loops then { recorder with loop := .getting } else recorder
    | _ => recorder
  | .stop =>
    match recorder.stop, recorder.loop with
    | .running, .failed error => ({ recorder with lastError := some error } : EvidenceRecorder F P).close
    | .running, _ => { recorder with stop := .flushing }
    | _, _ => recorder
  | .flush =>
    if recorder.stop = .flushing ∧ recorder.unfinishedTasks = 0 then { recorder with stop := .flushed }
    else recorder
  | .resume => if recorder.stop = .flushed then recorder.cancel else recorder
  | .timeout =>
    if recorder.stop = .flushing then
      ({ recorder with
        shutdownDroppedEvents := recorder.shutdownDroppedEvents +
          recorder.subscription.queue.items.length } : EvidenceRecorder F P).cancel
    else recorder
  | .finish =>
    if recorder.stop = .cancelling then ({ recorder with loop := .cancelled } : EvidenceRecorder F P).close
    else recorder

end EvidenceRecorder

end CrazySwarm
