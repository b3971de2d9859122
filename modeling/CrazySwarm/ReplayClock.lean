import CrazySwarm.EventQueries
import CrazySwarm.Lib.Runs

/-! The replay of recorded events: a clock that stands between two of them, moved by seeks, by single
steps and by the generators of its stream, and a vehicle that shows the telemetry of the events. -/
namespace CrazySwarm
open PyFloat

/-- An event as it was recorded; `recordedAtS` is the timestamp of `recorded_at_utc`. -/
structure ReplayEvent (F P : Type) extends EvidenceEvent F P where
  recordedAtS : F
  deriving DecidableEq, Repr

/-- Where a generator of the stream stands: before its first event or after a yield, with the time of
the last event; in the loop that waits for `resume`; in the sleep before an event; ended. -/
inductive StreamPhase (F P : Type) where
  | suspended (previousS : Option F)
  | pausing (previousS : Option F)
  | sleeping (event : ReplayEvent F P)
  | ended
  deriving DecidableEq, Repr

/-- The generator has not been asked for an event yet. -/
def StreamPhase.fresh {F P : Type} : StreamPhase F P → Bool
  | .suspended none => true
  | _ => false

/-- What `__anext__`, or the end of the sleep it is in, comes to. -/
inductive StreamOutcome (F P : Type) where
  | waits (delayS : F)
  | yields (event : ReplayEvent F P)
  | stops
  | raises (raised : Raised F)
  deriving DecidableEq, Repr

variable {F P : Type}

def StreamOutcome.event : StreamOutcome F P → Option (ReplayEvent F P)
  | .yields event => some event
  | _ => none

structure ReplayClock (F P : Type) where
  events : List (ReplayEvent F P)
  speed : F
  index : Nat := 0
  paused : Bool := false
  deriving DecidableEq, Repr

variable [PyFloat F]

namespace ReplayClock

def create (events : List (ReplayEvent F P)) (speed : F) : Except (Raised F) (ReplayClock F P) :=
  if le speed zero then .error (.other "ValueError" "replay speed must be positive")
  else .ok { events := Sorting.sortBy (·.sequence) events, speed }

def nowS (clock : ReplayClock F P) : F :=
  match clock.events[clock.index - 1]? with
  | some event => event.recordedAtS
  | none => (clock.events.getLast?.map (·.recordedAtS)).getD zero

def pause (clock : ReplayClock F P) : ReplayClock F P := { clock with paused := true }
def resume (clock : ReplayClock F P) : ReplayClock F P := { clock with paused := false }

def setSpeed (clock : ReplayClock F P) (speed : F) : Except (Raised F) (ReplayClock F P) :=
  if le speed zero then .error (.other "ValueError" "replay speed must be positive")
  else .ok { clock with speed }

def placeOf (events : List (ReplayEvent F P)) (timestampS : F) : Nat :=
  events.findIdx fun event => le timestampS event.recordedAtS

def seek (clock : ReplayClock F P) (timestampS : F) : Except (Raised F) (ReplayClock F P) :=
  if lt timestampS zero then .error (.other "ValueError" "replay timestamp cannot be negative")
  else .ok { clock with index := placeOf clock.events timestampS }

def step (clock : ReplayClock F P) : ReplayClock F P × Option (ReplayEvent F P) :=
  match clock.events[clock.index]? with
  | none => (clock, none)
  | some event => ({ clock with index := clock.index + 1 }, some event)

section Stream

/-- After the sleep: the position moves on and the event is yielded. -/
def deliver (clock : ReplayClock F P) (event : ReplayEvent F P) :
    ReplayClock F P × StreamPhase F P × StreamOutcome F P :=
  ({ clock with index := clock.index + 1 }, .suspended (some event.recordedAtS), .yields event)

/-- From the wait for `resume` to the sleep. The event is read before the sleep, and only the test
of the outer loop has compared the position with the number of events. -/
def fetch (clock : ReplayClock F P) (previousS : Option F) :
    ReplayClock F P × StreamPhase F P × StreamOutcome F P :=
  if clock.paused then (clock, .pausing previousS, .waits (ofRat 0.01))
  else match clock.events[clock.index]? with
    | none => (clock, .ended, .raises (.other "IndexError" "tuple index out of range"))
    | some event =>
      match previousS with
      | none => deliver clock event
      | some previousS =>
        (clock, .sleeping event,
          .waits (div (max zero (sub event.recordedAtS previousS)) clock.speed))

/-- `stream`, from where the generator stands to its next wait, yield or end. -/
def resumeStream (clock : ReplayClock F P) : StreamPhase F P →
    ReplayClock F P × StreamPhase F P × StreamOutcome F P
  | .suspended previousS =>
    if clock.index < clock.events.length then fetch clock previousS else (clock, .ended, .stops)
  | .pausing previousS => fetch clock previousS
  | .sleeping event => deliver clock event
  | .ended => (clock, .ended, .stops)

end Stream

end ReplayClock

structure ReplayVehicle (F : Type) where
  identity : VehicleIdentity
  clock : ReplayClock F (TelemetryEnvelope F)
  connected : Bool := false
  latest : TelemetryEnvelope F
  deriving DecidableEq, Repr

namespace ReplayVehicle

def telemetryEvent (event : ReplayEvent F (StoredPayload F)) :
    Option (ReplayEvent F (TelemetryEnvelope F)) :=
  match event.payload with
  | .telemetry telemetry => some { event with payload := telemetry }
  | .other => none

def telemetryEvents (vehicleId : String) (events : List (ReplayEvent F (StoredPayload F))) :
    List (ReplayEvent F (TelemetryEnvelope F)) :=
  (events.filter (·.vehicleId == vehicleId)).filterMap telemetryEvent

def create (vehicleId : String) (events : List (ReplayEvent F (StoredPayload F))) :
    Except (Raised F) (ReplayVehicle F) := do
  match telemetryEvents vehicleId events with
  | [] => .error (.other "ValueError" ("no telemetry is available for replay vehicle " ++ vehicleId))
  | first :: rest =>
    let clock ← ReplayClock.create (first :: rest) (ofRat 1)
    return { identity := ⟨vehicleId⟩, clock, latest := first.payload }

def connect (vehicle : ReplayVehicle F) : ReplayVehicle F := { vehicle with connected := true }
def disconnect (vehicle : ReplayVehicle F) : ReplayVehicle F := { vehicle with connected := false }

def notConnected : Raised F := .error .invalidState "replay vehicle is not connected"

def snapshot (vehicle : ReplayVehicle F) : Except (Raised F) (TelemetryEnvelope F) :=
  if vehicle.connected then .ok vehicle.latest else .error notConnected

/-- `_stream`, around a generator of the clock's stream: the connection is only tested before the
first event. -/
def resumeTelemetry (vehicle : ReplayVehicle F) (phase : StreamPhase F (TelemetryEnvelope F)) :
    ReplayVehicle F × StreamPhase F (TelemetryEnvelope F) × StreamOutcome F (TelemetryEnvelope F) :=
  if phase.fresh && !vehicle.connected then (vehicle, .ended, .raises notConnected)
  else
    let (clock, phase, outcome) := vehicle.clock.resumeStream phase
    match outcome with
    | .yields event => ({ vehicle with clock, latest := event.payload }, phase, outcome)
    | _ => ({ vehicle with clock }, phase, outcome)

end ReplayVehicle

/-- The generators that have been made of a clock's stream, and what has been seen of the replay
since the last seek: the place and the time it sought, and the events since. -/
structure Playback (F P : Type) where
  streams : List (StreamPhase F P) := []
  since : Nat := 0
  sought : Option F := none
  delivered : List (ReplayEvent F P) := []
  deriving DecidableEq, Repr

/-- What may be asked of a clock. A generator is closed when its reader stops or is cancelled. -/
inductive PlaybackTurn (F : Type) where
  | seek (timestampS : F)
  | step
  | pause
  | resume
  | setSpeed (speed : F)
  | stream
  | resumeStream (number : Nat)
  | close (number : Nat)
  deriving DecidableEq, Repr

namespace Playback

/-- A generator has gone on to its next wait, yield or end. -/
def record (playback : Playback F P) (number : Nat) (phase : StreamPhase F P)
    (outcome : StreamOutcome F P) : Playback F P :=
  { playback with
    streams := playback.streams.set number phase
    delivered := playback.delivered ++ outcome.event.toList }

def turn (clock : ReplayClock F P) (playback : Playback F P) :
    PlaybackTurn F → ReplayClock F P × Playback F P
  | .seek timestampS =>
    match clock.seek timestampS with
    | .error _ => (clock, playback)
    | .ok clock =>
      (clock, { playback with since := clock.index, sought := some timestampS, delivered := [] })
  | .step =>
    let (clock, event) := clock.step
    (clock, { playback with delivered := playback.delivered ++ event.toList })
  | .pause => (clock.pause, playback)
  | .resume => (clock.resume, playback)
  | .setSpeed speed =>
    match clock.setSpeed speed with
    | .error _ => (clock, playback)
    | .ok clock => (clock, playback)
  | .stream => (clock, { playback with streams := playback.streams ++ [.suspended none] })
  | .resumeStream number =>
    match playback.streams[number]? with
    | none => (clock, playback)
    | some phase =>
      let (clock, phase, outcome) := clock.resumeStream phase
      (clock, playback.record number phase outcome)
  | .close number => (clock, { playback with streams := playback.streams.set number .ended })

end Playback

/-- A replay vehicle in use. `telemetry` are the numbers of the generators that its own streams
have made. -/
structure Replay (F : Type) where
  vehicle : ReplayVehicle F
  playback : Playback F (TelemetryEnvelope F) := {}
  telemetry : List Nat := []
  deriving DecidableEq, Repr

inductive ReplayTurn (F : Type) where
  | connect
  | disconnect
  | telemetryStream
  | clock (turn : PlaybackTurn F)
  deriving DecidableEq, Repr

namespace Replay

def opened (vehicle : ReplayVehicle F) : Replay F := { vehicle }

/-- The turn of the clock is taken beside the vehicle. -/
def beside (replay : Replay F) (turn : PlaybackTurn F) : Replay F :=
  let (clock, playback) := replay.playback.turn replay.vehicle.clock turn
  { replay with vehicle := { replay.vehicle with clock }, playback }

/-- A generator of the vehicle's own stream goes on. -/
def resumeTelemetry (replay : Replay F) (number : Nat) : Replay F :=
  match replay.playback.streams[number]? with
  | none => replay
  | some phase =>
    let (vehicle, phase, outcome) := replay.vehicle.resumeTelemetry phase
    { replay with vehicle, playback := replay.playback.record number phase outcome }

def step (replay : Replay F) : ReplayTurn F → Replay F
  | .connect => { replay with vehicle := replay.vehicle.connect }
  | .disconnect => { replay with vehicle := replay.vehicle.disconnect }
  | .telemetryStream =>
    { replay.beside .stream with
      telemetry := replay.telemetry ++ [replay.playback.streams.length] }
  | .clock (.resumeStream number) =>
    if number ∈ replay.telemetry then replay.resumeTelemetry number
    else replay.beside (.resumeStream number)
  | .clock turn => replay.beside turn

end Replay

end CrazySwarm
