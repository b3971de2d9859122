import CrazySwarm.ReplayClock

/-! What a replay shows of the recorded events. The events that went out since a seek are those between
its place and the position, unless the position moves during the sleep of a stream; the vehicle's
snapshot follows the position only as far as its own streams move it. -/
namespace CrazySwarm
open PyFloat List

variable {F P : Type} [PyFloat F]

section Clock

structure Timed (events : List (ReplayEvent F P)) : Prop where
  numbers : ∀ event ∈ events, eq event.recordedAtS event.recordedAtS = true
  ordered : events.Pairwise fun first later => le first.recordedAtS later.recordedAtS = true

/-- The event that goes out when the generator goes on. -/
def StreamPhase.pending (clock : ReplayClock F P) : StreamPhase F P → Option (ReplayEvent F P)
  | .sleeping event => some event
  | .suspended none | .pausing none => if clock.paused then none else clock.events[clock.index]?
  | _ => none

/-- The place of the last seek has the events before its time behind it, the events since then have
gone out in order, each once, and a stream that stops has none left. -/
structure Progresses (clock : ReplayClock F P) (playback : Playback F P) : Prop where
  placed : ∀ timestampS, playback.sought = some timestampS →
    ∀ number event, clock.events[number]? = some event →
      (number < playback.since ↔ lt event.recordedAtS timestampS = true)
  since : playback.since ≤ clock.index
  inside : clock.index ≤ clock.events.length
  delivered : playback.delivered = (clock.events.take clock.index).drop playback.since
  exhausted : ∀ phase ∈ playback.streams, phase ≠ .ended →
    (clock.resumeStream phase).2.2 = .stops → clock.index = clock.events.length

def Undisturbed (clock : ReplayClock F P) (playback : Playback F P) : PlaybackTurn F → Prop
  | .seek timestampS => lt timestampS zero = true ∨ eq timestampS timestampS = true ∨ clock.events = []
  | .resumeStream number => ∀ event, playback.streams[number]? = some (.sleeping event) →
      clock.events[clock.index]? = some event
  | _ => True

variable {clock : ReplayClock F P} {playback : Playback F P}

namespace ReplayClock

theorem fetch_eq (clock : ReplayClock F P) (previousS : Option F) :
    (∃ event, (StreamPhase.pausing previousS).pending clock = some event ∧
      clock.fetch previousS = clock.deliver event) ∨
    (StreamPhase.pausing previousS).pending clock = none ∧ ∃ phase outcome,
      clock.fetch previousS = (clock, phase, outcome) ∧ outcome.event = none ∧ outcome ≠ .stops := by
  unfold fetch
  cases paused : clock.paused with
  | true =>
    refine .inr ⟨?_, _, _, rfl, rfl, nofun⟩
    cases previousS <;> simp [StreamPhase.pending, paused]
  | false =>
    cases found : clock.events[clock.index]? with
    | none =>
      refine .inr ⟨?_, _, _, rfl, rfl, nofun⟩
      cases previousS <;> simp [StreamPhase.pending, found]
    | some event =>
      cases previousS with
      | none => exact .inl ⟨event, by simp [StreamPhase.pending, found, paused], rfl⟩
      | some previousS => exact .inr ⟨rfl, _, _, rfl, rfl, nofun⟩

theorem resumeStream_eq (clock : ReplayClock F P) (phase : StreamPhase F P) :
    (∃ event, phase.pending clock = some event ∧ clock.resumeStream phase = clock.deliver event) ∨
    phase.pending clock = none ∧ ∃ next outcome, clock.resumeStream phase = (clock, next, outcome) ∧
      outcome.event = none ∧ (outcome = .stops → phase ≠ .ended → clock.events.length ≤ clock.index) := by
  cases phase with
  | suspended previousS =>
    rw [resumeStream]
    split
    · rcases fetch_eq clock previousS with ⟨event, pending, fetched⟩ |
        ⟨pending, next, outcome, fetched, silent, going⟩
      · exact .inl ⟨event, by cases previousS <;> exact pending, fetched⟩
      · exact .inr ⟨by cases previousS <;> exact pending, next, outcome, fetched, silent,
          fun stops => absurd stops going⟩
    · next beyond =>
      refine .inr ⟨?_, _, _, rfl, rfl, fun _ _ => not_lt.mp beyond⟩
      cases previousS with
      | none => simp [StreamPhase.pending, getElem?_eq_none (not_lt.mp beyond)]
      | some previousS => rfl
  | pausing previousS =>
    rcases fetch_eq clock previousS with ⟨event, pending, fetched⟩ |
      ⟨pending, next, outcome, fetched, silent, going⟩
    · exact .inl ⟨event, pending, fetched⟩
    · exact .inr ⟨pending, next, outcome, fetched, silent, fun stops => absurd stops going⟩
  | sleeping event => exact .inl ⟨event, rfl, rfl⟩
  | ended => exact .inr ⟨rfl, _, _, rfl, rfl, fun _ live => absurd rfl live⟩

theorem exhausted_of_stops {phase : StreamPhase F P} (live : phase ≠ .ended)
    (stops : (clock.resumeStream phase).2.2 = .stops) : clock.events.length ≤ clock.index := by
  rcases resumeStream_eq clock phase with ⟨event, -, went⟩ | ⟨-, next, outcome, went, -, ends⟩
  · rw [went] at stops
    cases stops
  · rw [went] at stops
    exact ends stops live

omit [PyFloat F] in
/-- A pending event that has not been read yet is the one at the position. -/
theorem pending_eq {phase : StreamPhase F P} {event : ReplayEvent F P}
    (awake : ∀ event, phase ≠ .sleeping event) (pending : phase.pending clock = some event) :
    clock.events[clock.index]? = some event := by
  unfold StreamPhase.pending at pending
  split at pending
  · exact absurd rfl (awake _)
  · split at pending
    · cases pending
    · exact pending
  · split at pending
    · cases pending
    · exact pending
  · cases pending

variable {events : List (ReplayEvent F P)} {timestampS : F}

theorem lt_placeOf_iff [IeeeOrder F] (timed : Timed events) (time : eq timestampS timestampS = true)
    {number : Nat} {event : ReplayEvent F P} (found : events[number]? = some event) :
    number < placeOf events timestampS ↔ lt event.recordedAtS timestampS = true := by
  obtain ⟨inside, rfl⟩ := List.getElem?_eq_some_iff.mp found
  constructor
  · intro behind
    have before := not_of_lt_findIdx behind
    by_contra late
    have reached := IeeeOrder.le_of_not_lt time (timed.numbers _ (getElem_mem inside))
      (Bool.eq_false_of_not_eq_true late)
    rw [before] at reached
    cases reached
  · intro early
    refine lt_findIdx_of_not inside fun earlier le => ?_
    have below : lt events[earlier].recordedAtS timestampS = true := by
      rcases Nat.lt_or_eq_of_le le with less | rfl
      · exact IeeeOrder.lt_of_le_of_lt (pairwise_iff_getElem.mp timed.ordered _ _ _ inside less) early
      · exact early
    rw [Bool.not_eq_true]
    by_contra reached
    have later := IeeeOrder.not_lt_of_le (Bool.eq_true_of_not_eq_false reached)
    rw [below] at later
    cases later

theorem events_eq_nil_of_placed [IeeeOrder F] (no_time : eq timestampS timestampS ≠ true)
    (placed : ∀ number event, events[number]? = some event →
      (number < placeOf events timestampS ↔ lt event.recordedAtS timestampS = true)) :
    events = [] := by
  cases events with
  | nil => rfl
  | cons event rest =>
    exfalso
    have behind : 0 < placeOf (event :: rest) timestampS := by
      refine lt_findIdx_of_not (by simp) fun earlier _ reached => ?_
      rcases (IeeeOrder.le_iff _ _).mp reached with below | same
      · exact no_time (IeeeOrder.number_of_lt below).1
      · exact no_time (IeeeOrder.eq_trans same (IeeeOrder.eq_symm same))
    exact no_time (IeeeOrder.number_of_lt ((placed 0 event rfl).mp behind)).2

end ReplayClock

open ReplayClock Playback

omit [PyFloat F] in
/-- One event more has gone out. -/
theorem delivered_succ_iff {events sent : List (ReplayEvent F P)} {since index : Nat}
    {event : ReplayEvent F P} (before : since ≤ index) (inside : index ≤ events.length)
    (delivered : sent = (events.take index).drop since) :
    index + 1 ≤ events.length ∧ sent ++ [event] = (events.take (index + 1)).drop since ↔
      events[index]? = some event := by
  constructor
  · rintro ⟨more, same⟩
    rw [take_add_one, drop_append_of_le_length (by simp [inside, before]), delivered,
      append_right_inj, getElem?_eq_getElem more] at same
    rw [getElem?_eq_getElem more]
    exact congrArg some (cons.inj same).1.symm
  · intro found
    obtain ⟨more, -⟩ := List.getElem?_eq_some_iff.mp found
    refine ⟨more, ?_⟩
    rw [take_add_one, drop_append_of_le_length (by simp [inside, before]), delivered, found]
    rfl

theorem Progresses.of_streams {streams : List (StreamPhase F P)}
    (progresses : Progresses clock playback) :
    Progresses clock { playback with streams } :=
  ⟨progresses.placed, progresses.since, progresses.inside, progresses.delivered,
    fun _ _ live stops => le_antisymm progresses.inside (exhausted_of_stops live stops)⟩

theorem Progresses.of_clock {other : ReplayClock F P} (progresses : Progresses clock playback)
    (events : other.events = clock.events) (index : other.index = clock.index) :
    Progresses other playback where
  placed := by rw [events]; exact progresses.placed
  since := by rw [index]; exact progresses.since
  inside := by rw [index, events]; exact progresses.inside
  delivered := by rw [index, events]; exact progresses.delivered
  exhausted := fun _ _ live stops => by
    have beyond := exhausted_of_stops live stops
    rw [index, events] at beyond ⊢
    exact le_antisymm progresses.inside beyond

/-- One event goes out, and the position moves on by one. -/
theorem progresses_succ_iff (progresses : Progresses clock playback) {event : ReplayEvent F P}
    {streams : List (StreamPhase F P)} :
    Progresses { clock with index := clock.index + 1 }
      { playback with streams, delivered := playback.delivered ++ [event] } ↔
      clock.events[clock.index]? = some event := by
  rw [← delivered_succ_iff progresses.since progresses.inside progresses.delivered]
  constructor
  · exact fun ends => ⟨ends.inside, ends.delivered⟩
  · rintro ⟨inside, delivered⟩
    exact ⟨progresses.placed, Nat.le_succ_of_le progresses.since, inside, delivered,
      fun _ _ live stops => le_antisymm inside (exhausted_of_stops live stops)⟩

theorem seek_progresses_iff [IeeeOrder F] (timed : Timed clock.events)
    {streams : List (StreamPhase F P)} {timestampS : F} :
    Progresses { clock with index := placeOf clock.events timestampS } {
        streams
        since := placeOf clock.events timestampS
        sought := some timestampS
        delivered := [] } ↔
      eq timestampS timestampS = true ∨ clock.events = [] := by
  constructor
  · intro progresses
    by_cases time : eq timestampS timestampS = true
    · exact .inl time
    · exact .inr (events_eq_nil_of_placed time (progresses.placed timestampS rfl))
  · intro given
    have inside : placeOf clock.events timestampS ≤ clock.events.length := findIdx_le_length
    refine ⟨?_, le_rfl, inside, ?_,
      fun _ _ live stops => le_antisymm inside (exhausted_of_stops live stops)⟩
    · rintro _ ⟨⟩ number event found
      rcases given with time | none
      · exact lt_placeOf_iff timed time found
      · simp [none] at found
    · rw [drop_eq_nil_of_le (by simp)]

/-- A generator goes on: the account is kept if the event that goes out is the one at the position. -/
theorem record_progresses_iff (progresses : Progresses clock playback) {phase : StreamPhase F P}
    {number : Nat} :
    Progresses (clock.resumeStream phase).1
      (playback.record number (clock.resumeStream phase).2.1 (clock.resumeStream phase).2.2) ↔
      ∀ event, some phase = some (.sleeping event) → clock.events[clock.index]? = some event := by
  rcases resumeStream_eq clock phase with ⟨event, pending, went⟩ |
    ⟨pending, next, outcome, went, silent, -⟩
  · rw [went]
    refine (progresses_succ_iff progresses).trans ⟨?_, fun undisturbed => ?_⟩
    · rintro found _ ⟨⟩
      cases pending
      exact found
    · by_cases asleep : ∃ event, phase = .sleeping event
      · obtain ⟨read, rfl⟩ := asleep
        cases pending
        exact undisturbed event rfl
      · exact pending_eq (fun read same => asleep ⟨read, same⟩) pending
  · rw [went, record, silent, Option.toList_none, append_nil]
    refine iff_of_true progresses.of_streams ?_
    rintro event ⟨⟩
    cases pending

/-- One turn keeps the account of the events exactly if nothing disturbs it. -/
theorem turn_progresses_iff [IeeeOrder F] (timed : Timed clock.events)
    (progresses : Progresses clock playback) (turn : PlaybackTurn F) :
    Progresses (playback.turn clock turn).1 (playback.turn clock turn).2 ↔
      Undisturbed clock playback turn := by
  cases turn with
  | seek timestampS =>
    rw [Playback.turn, seek, Undisturbed]
    by_cases negative : lt timestampS zero = true
    · rw [if_pos negative]
      exact iff_of_true progresses (.inl negative)
    · rw [if_neg negative, or_iff_right negative]
      exact seek_progresses_iff timed
  | step =>
    refine iff_of_true ?_ trivial
    rw [Playback.turn, ReplayClock.step]
    cases found : clock.events[clock.index]? with
    | none => simpa using progresses
    | some event => exact (progresses_succ_iff progresses).mpr found
  | pause => exact iff_of_true (progresses.of_clock rfl rfl) trivial
  | resume => exact iff_of_true (progresses.of_clock rfl rfl) trivial
  | setSpeed speed =>
    refine iff_of_true ?_ trivial
    rw [Playback.turn, setSpeed]
    by_cases still : le speed zero = true
    · rw [if_pos still]
      exact progresses
    · rw [if_neg still]
      exact progresses.of_clock rfl rfl
  | stream => exact iff_of_true progresses.of_streams trivial
  | close number => exact iff_of_true progresses.of_streams trivial
  | resumeStream number =>
    rw [Playback.turn, Undisturbed]
    cases found : playback.streams[number]? with
    | none => exact iff_of_true progresses nofun
    | some phase => exact record_progresses_iff progresses

end Clock

namespace Replay
open ReplayClock Playback

/-- The telemetry of the last event behind the position; of the first event if there is none. -/
def shownAt (events : List (ReplayEvent F (TelemetryEnvelope F))) (index : Nat) :
    Option (TelemetryEnvelope F) := (events[index - 1]?).map (·.payload)

structure Corresponds (replay : Replay F) : Prop where
  progresses : Progresses replay.vehicle.clock replay.playback
  shown : ∃ telemetry, replay.vehicle.connect.snapshot = .ok telemetry ∧
    shownAt replay.vehicle.clock.events replay.vehicle.clock.index = some telemetry

def Follows (replay : Replay F) : ReplayTurn F → Prop
  | .clock (.seek timestampS) => lt timestampS zero = true ∨ eq timestampS timestampS = true ∧
      shownAt replay.vehicle.clock.events (placeOf replay.vehicle.clock.events timestampS) =
        shownAt replay.vehicle.clock.events replay.vehicle.clock.index
  | .clock .step => replay.vehicle.clock.index < replay.vehicle.clock.events.length →
      shownAt replay.vehicle.clock.events (replay.vehicle.clock.index + 1) =
        shownAt replay.vehicle.clock.events replay.vehicle.clock.index
  | .clock (.resumeStream number) =>
      Undisturbed replay.vehicle.clock replay.playback (.resumeStream number) ∧
        (number ∉ replay.telemetry → ∀ phase, replay.playback.streams[number]? = some phase →
          (phase.pending replay.vehicle.clock).isSome →
            shownAt replay.vehicle.clock.events (replay.vehicle.clock.index + 1) =
              shownAt replay.vehicle.clock.events replay.vehicle.clock.index)
  | _ => True

structure Recorded (replay : Replay F) : Prop where
  timed : Timed replay.vehicle.clock.events
  some : replay.vehicle.clock.events ≠ []

variable {replay : Replay F} {events : List (ReplayEvent F (TelemetryEnvelope F))}

omit [PyFloat F] in
theorem shown_iff : (∃ telemetry, replay.vehicle.connect.snapshot = .ok telemetry ∧
      shownAt replay.vehicle.clock.events replay.vehicle.clock.index = some telemetry) ↔
    shownAt replay.vehicle.clock.events replay.vehicle.clock.index = some replay.vehicle.latest := by
  constructor
  · rintro ⟨telemetry, ⟨⟩, shown⟩
    exact shown
  · exact fun shown => ⟨_, rfl, shown⟩

theorem corresponds_iff : Corresponds replay ↔
    Progresses replay.vehicle.clock replay.playback ∧
      shownAt replay.vehicle.clock.events replay.vehicle.clock.index = some replay.vehicle.latest :=
  ⟨fun holds => ⟨holds.progresses, shown_iff.mp holds.shown⟩,
    fun holds => ⟨holds.1, shown_iff.mpr holds.2⟩⟩

theorem beside_corresponds_iff [IeeeOrder F] (recorded : Recorded replay)
    (corresponds : Corresponds replay) (turn : PlaybackTurn F) :
    Corresponds (replay.beside turn) ↔
      Undisturbed replay.vehicle.clock replay.playback turn ∧
        shownAt (replay.playback.turn replay.vehicle.clock turn).1.events
          (replay.playback.turn replay.vehicle.clock turn).1.index =
        shownAt replay.vehicle.clock.events replay.vehicle.clock.index := by
  rw [corresponds_iff, (corresponds_iff.mp corresponds).2]
  exact and_congr_left fun _ => turn_progresses_iff recorded.timed corresponds.progresses turn

theorem resumeTelemetry_eq (vehicle : ReplayVehicle F)
    (phase : StreamPhase F (TelemetryEnvelope F)) :
    (∃ event, phase.pending vehicle.clock = some event ∧ vehicle.resumeTelemetry phase =
      ({ vehicle with
          clock := { vehicle.clock with index := vehicle.clock.index + 1 }
          latest := event.payload }, .suspended (some event.recordedAtS), .yields event)) ∨
    (∀ event, phase ≠ .sleeping event) ∧ ∃ next outcome,
      vehicle.resumeTelemetry phase = (vehicle, next, outcome) ∧ outcome.event = none := by
  unfold ReplayVehicle.resumeTelemetry
  split
  · next refused =>
    refine .inr ⟨?_, .ended, .raises ReplayVehicle.notConnected, rfl, rfl⟩
    rintro event rfl
    cases refused
  · rcases resumeStream_eq vehicle.clock phase with ⟨event, pending, went⟩ |
      ⟨pending, next, outcome, went, silent, -⟩
    · rw [went]
      exact .inl ⟨event, pending, rfl⟩
    · rw [went]
      refine .inr ⟨?_, next, outcome, ?_, silent⟩
      · rintro event rfl
        cases pending
      · cases outcome with
        | yields event => cases silent
        | _ => rfl

/-- The vehicle's own stream goes on: what it yields is what the vehicle shows. -/
theorem resumeTelemetry_corresponds_iff (corresponds : Corresponds replay) (number : Nat) :
    Corresponds (replay.resumeTelemetry number) ↔
      Undisturbed replay.vehicle.clock replay.playback (.resumeStream number) := by
  obtain ⟨progresses, shown⟩ := corresponds_iff.mp corresponds
  rw [Replay.resumeTelemetry, Undisturbed]
  cases found : replay.playback.streams[number]? with
  | none =>
    refine iff_of_true corresponds ?_
    rintro event ⟨⟩
  | some phase =>
    dsimp only
    rcases resumeTelemetry_eq replay.vehicle phase with ⟨event, pending, went⟩ |
      ⟨awake, next, outcome, went, silent⟩
    · rw [went]
      refine corresponds_iff.trans ((and_iff_left_of_imp fun account => ?_).trans
        ((progresses_succ_iff progresses).trans ⟨?_, fun undisturbed => ?_⟩))
      · have here := (progresses_succ_iff progresses).mp account
        simp [shownAt, here]
      · rintro here _ ⟨⟩
        cases pending
        exact here
      · by_cases asleep : ∃ event, phase = .sleeping event
        · obtain ⟨read, rfl⟩ := asleep
          cases pending
          exact undisturbed event rfl
        · exact pending_eq (fun read same => asleep ⟨read, same⟩) pending
    · rw [went]
      refine iff_of_true (corresponds_iff.mpr ⟨?_, shown⟩) fun event same =>
        absurd (Option.some.inj same) (awake event)
      rw [record, silent, Option.toList_none, append_nil]
      exact progresses.of_streams

theorem turn_events (clock : ReplayClock F P) (playback : Playback F P) (turn : PlaybackTurn F) :
    (playback.turn clock turn).1.events = clock.events := by
  cases turn with
  | seek timestampS =>
    rw [Playback.turn, seek]
    split
    · rfl
    · next moved =>
      split at moved <;> cases moved
      rfl
  | step =>
    rw [Playback.turn, ReplayClock.step]
    cases clock.events[clock.index]? <;> rfl
  | setSpeed speed =>
    rw [Playback.turn, setSpeed]
    split
    · rfl
    · next set =>
      split at set <;> cases set
      rfl
  | resumeStream number =>
    rw [Playback.turn]
    cases playback.streams[number]? with
    | none => rfl
    | some phase =>
      dsimp only
      rcases resumeStream_eq clock phase with ⟨event, -, went⟩ | ⟨-, next, outcome, went, -, -⟩
      · rw [went]
        rfl
      · rw [went]
  | _ => rfl

theorem step_events (replay : Replay F) (turn : ReplayTurn F) :
    (replay.step turn).vehicle.clock.events = replay.vehicle.clock.events := by
  have beside (turn : PlaybackTurn F) :
      (replay.beside turn).vehicle.clock.events = replay.vehicle.clock.events :=
    turn_events replay.vehicle.clock replay.playback turn
  cases turn with
  | connect => rfl
  | disconnect => rfl
  | telemetryStream => rfl
  | clock turn =>
    cases turn with
    | resumeStream number =>
      rw [Replay.step]
      split
      · rw [Replay.resumeTelemetry]
        cases replay.playback.streams[number]? with
        | none => rfl
        | some phase =>
          dsimp only
          rcases resumeTelemetry_eq replay.vehicle phase with ⟨event, -, went⟩ |
            ⟨-, next, outcome, went, -⟩
          all_goals rw [went]
      · exact beside _
    | _ => exact beside _

theorem step_recorded (recorded : Recorded replay) (turn : ReplayTurn F) :
    Recorded (replay.step turn) where
  timed := by rw [step_events]; exact recorded.timed
  some := by rw [step_events]; exact recorded.some

omit [PyFloat F] in
theorem shownAt_zero (events : List (ReplayEvent F (TelemetryEnvelope F))) :
    shownAt events 0 = events.head?.map (·.payload) := by
  rw [shownAt, head?_eq_getElem?]

theorem step_corresponds_iff [IeeeOrder F] (recorded : Recorded replay)
    (corresponds : Corresponds replay) (turn : ReplayTurn F) :
    Corresponds (replay.step turn) ↔ Follows replay turn := by
  have still (same : (replay.step turn).vehicle.clock = replay.vehicle.clock)
      (playback : (replay.step turn).playback = replay.playback)
      (latest : (replay.step turn).vehicle.latest = replay.vehicle.latest) :
      Corresponds (replay.step turn) := by
    rw [corresponds_iff, same, playback, latest]
    exact corresponds_iff.mp corresponds
  have beside := beside_corresponds_iff recorded corresponds
  cases turn with
  | connect => exact iff_of_true (still rfl rfl rfl) trivial
  | disconnect => exact iff_of_true (still rfl rfl rfl) trivial
  | telemetryStream =>
    refine iff_of_true ?_ trivial
    have opened := (beside .stream).mpr ⟨trivial, rfl⟩
    exact ⟨opened.progresses, opened.shown⟩
  | clock turn =>
    cases turn with
    | seek timestampS =>
      refine (beside (.seek timestampS)).trans ?_
      rw [Follows, Undisturbed, Playback.turn, seek]
      by_cases negative : lt timestampS zero = true
      · rw [if_pos negative]
        exact iff_of_true ⟨.inl negative, rfl⟩ (.inl negative)
      · rw [if_neg negative, or_iff_right negative, or_iff_right negative]
        exact and_congr_left fun _ => or_iff_left recorded.some
    | step =>
      refine (beside .step).trans ?_
      rw [Follows, Playback.turn, ReplayClock.step]
      cases found : replay.vehicle.clock.events[replay.vehicle.clock.index]? with
      | none =>
        have beyond := not_lt.mpr (List.getElem?_eq_none_iff.mp found)
        exact iff_of_true ⟨trivial, rfl⟩ fun more => absurd more beyond
      | some event =>
        obtain ⟨more, -⟩ := List.getElem?_eq_some_iff.mp found
        exact ⟨fun kept _ => kept.2, fun kept => ⟨trivial, kept more⟩⟩
    | resumeStream number =>
      rw [Replay.step, Follows]
      split
      · next own =>
        rw [resumeTelemetry_corresponds_iff corresponds]
        exact (and_iff_left fun other => absurd own other).symm
      · next other =>
        refine (beside _).trans (and_congr_right fun _ => ?_)
        rw [Playback.turn]
        cases found : replay.playback.streams[number]? with
        | none => exact iff_of_true rfl fun _ _ => nofun
        | some phase =>
          dsimp only
          rcases resumeStream_eq replay.vehicle.clock phase with ⟨event, pending, went⟩ |
            ⟨pending, next, outcome, went, -, -⟩
          · rw [went]
            refine ⟨?_, fun kept => kept other phase rfl (by simp [pending])⟩
            rintro kept _ _ ⟨⟩ _
            exact kept
          · rw [went]
            refine iff_of_true rfl ?_
            rintro _ _ ⟨⟩ some
            simp [pending] at some
    | setSpeed speed =>
      refine iff_of_true ((beside (.setSpeed speed)).mpr ⟨trivial, ?_⟩) trivial
      rw [Playback.turn, setSpeed]
      by_cases stopped : le speed zero = true
      · rw [if_pos stopped]
      · rw [if_neg stopped]
    | pause => exact iff_of_true ((beside .pause).mpr ⟨trivial, rfl⟩) trivial
    | resume => exact iff_of_true ((beside .resume).mpr ⟨trivial, rfl⟩) trivial
    | stream => exact iff_of_true ((beside .stream).mpr ⟨trivial, rfl⟩) trivial
    | close number => exact iff_of_true ((beside (.close number)).mpr ⟨trivial, rfl⟩) trivial

theorem run_corresponds_iff [IeeeOrder F] : ∀ {replay : Replay F} {turns : List (ReplayTurn F)},
    Recorded replay → Corresponds replay →
      (Runs.Along step (fun replay turn => Corresponds (replay.step turn)) replay turns ↔
        Runs.Along step Follows replay turns)
  | _, [], _, _ => Iff.rfl
  | replay, turn :: rest, recorded, corresponds => by
    rw [Runs.Along, Runs.Along, step_corresponds_iff recorded corresponds]
    refine and_congr_right fun follows => ?_
    have next := (step_corresponds_iff recorded corresponds turn).mpr follows
    exact run_corresponds_iff (step_recorded recorded turn) next

def StartsFirst (vehicleId : String) (events : List (ReplayEvent F (StoredPayload F))) : Prop :=
  (Sorting.sortBy (·.sequence) (ReplayVehicle.telemetryEvents vehicleId events)).head?.map
      (·.payload) =
    (ReplayVehicle.telemetryEvents vehicleId events).head?.map (·.payload)

theorem create_eq {vehicleId : String} {recordings : List (ReplayEvent F (StoredPayload F))}
    {vehicle : ReplayVehicle F} (created : ReplayVehicle.create vehicleId recordings = .ok vehicle) :
    vehicle.clock.events =
        Sorting.sortBy (·.sequence) (ReplayVehicle.telemetryEvents vehicleId recordings) ∧
      vehicle.clock.index = 0 ∧
      (ReplayVehicle.telemetryEvents vehicleId recordings).head?.map (·.payload) =
        some vehicle.latest := by
  unfold ReplayVehicle.create at created
  cases given : ReplayVehicle.telemetryEvents vehicleId recordings with
  | nil =>
    rw [given] at created
    cases created
  | cons first rest =>
    rw [given] at created
    by_cases still : le (ofRat 1 : F) zero = true
    · simp [ReplayClock.create, still, bind, Except.bind] at created
    · simp only [ReplayClock.create, still, bind, Except.bind, pure, Except.pure] at created
      cases created
      exact ⟨rfl, rfl, rfl⟩

theorem progresses_opened {vehicle : ReplayVehicle F} (index : vehicle.clock.index = 0) :
    Progresses (opened vehicle).vehicle.clock (opened vehicle).playback where
  placed _ := nofun
  since := Nat.zero_le _
  inside := by rw [opened, index]; exact Nat.zero_le _
  delivered := by rw [opened, index]; rfl
  exhausted phase member := by cases member

/-- A replay vehicle, its clock and the events correspond throughout a run exactly if the run starts
at the first event in sequence and every turn follows the position. -/
theorem replay_corresponds_iff [IeeeOrder F] (vehicleId : String)
    (recordings : List (ReplayEvent F (StoredPayload F))) (vehicle : ReplayVehicle F)
    (created : ReplayVehicle.create vehicleId recordings = .ok vehicle)
    (timed : Timed
      (Sorting.sortBy (·.sequence) (ReplayVehicle.telemetryEvents vehicleId recordings)))
    (turns : List (ReplayTurn F)) :
    Corresponds (opened vehicle) ∧
        Runs.Along step (fun replay turn => Corresponds (replay.step turn)) (opened vehicle) turns ↔
      StartsFirst vehicleId recordings ∧ Runs.Along step Follows (opened vehicle) turns := by
  obtain ⟨events, index, latest⟩ := create_eq created
  have recorded : Recorded (opened vehicle) := by
    refine ⟨by rwa [opened, events], fun none => ?_⟩
    rw [opened, events] at none
    have sorted := Sorting.sortBy_perm (fun event => event.sequence)
      (ReplayVehicle.telemetryEvents vehicleId recordings)
    rw [none] at sorted
    rw [← sorted.nil_eq] at latest
    cases latest
  have start : Corresponds (opened vehicle) ↔ StartsFirst vehicleId recordings := by
    rw [corresponds_iff, and_iff_right (progresses_opened index), opened, index, shownAt_zero, events,
      StartsFirst, latest]
  rw [start]
  exact and_congr_right fun starts => run_corresponds_iff recorded (start.mpr starts)

section Instances

def sampleEvent (sequence : Nat) : ReplayEvent ℚ (StoredPayload ℚ) where
  eventId := "event"
  sequence
  kind := .telemetry
  vehicleId := "cf-01"
  runId := "run-1"
  receivedTimestampS := sequence
  recordedAtS := 10 * sequence
  payload := .telemetry {
    vehicleId := "cf-01"
    sequence
    sourceTimestampS := sequence
    telemetry := { state := .ready, armed := false, flying := false } }

/-- Two samples, ten seconds apart. -/
def sampledPair : List (ReplayEvent ℚ (StoredPayload ℚ)) := [sampleEvent 1, sampleEvent 2]

def replayOf (events : List (ReplayEvent ℚ (StoredPayload ℚ))) : ReplayVehicle ℚ where
  identity := ⟨"cf-01"⟩
  clock := { events := ReplayVehicle.telemetryEvents "cf-01" events, speed := 1 }
  latest := {
    vehicleId := "cf-01"
    sequence := 1
    sourceTimestampS := 1
    telemetry := { state := .ready, armed := false, flying := false } }

theorem sampledPair_created :
    ReplayVehicle.create "cf-01" sampledPair = .ok (replayOf sampledPair) := by decide +kernel

theorem sampledPair_timed : Timed (Sorting.sortBy (·.sequence)
    (ReplayVehicle.telemetryEvents "cf-01" sampledPair)) where
  numbers := by decide +kernel
  ordered := by decide +kernel

/-- A seek within the first event's time, and the event by the vehicle's stream. -/
def watched : List (ReplayTurn ℚ) :=
  [.connect, .clock (.seek 5), .telemetryStream, .clock (.resumeStream 0)]

example : StartsFirst "cf-01" sampledPair := by
  unfold StartsFirst
  decide +kernel

theorem watched_corresponds : Corresponds (opened (replayOf sampledPair)) ∧
    Runs.Along step (fun replay turn => Corresponds (replay.step turn))
      (opened (replayOf sampledPair)) watched := by
  refine (replay_corresponds_iff "cf-01" sampledPair (replayOf sampledPair) sampledPair_created
    sampledPair_timed watched).mpr ⟨by unfold StartsFirst; decide +kernel, ?_⟩
  let streaming := Runs.run step (opened (replayOf sampledPair)) (watched.take 3)
  have fresh : streaming.playback.streams[0]? = some (.suspended none) := by decide +kernel
  have own : 0 ∈ streaming.telemetry := by decide +kernel
  refine ⟨trivial, .inr ⟨by decide +kernel, by decide +kernel⟩, trivial, ⟨?_, ?_⟩, trivial⟩
  · intro event asleep
    cases fresh.symm.trans asleep
  · exact fun other => absurd own other

/-- A seek past both events leaves the vehicle at the first one. -/
theorem seek_shows_first_event :
    ReplayVehicle.create "cf-01" sampledPair = .ok (replayOf sampledPair) ∧
    Timed (Sorting.sortBy (·.sequence) (ReplayVehicle.telemetryEvents "cf-01" sampledPair)) ∧
    ¬ Corresponds ((opened (replayOf sampledPair)).step (.clock (.seek 30))) := by
  refine ⟨sampledPair_created, sampledPair_timed, fun corresponds => ?_⟩
  have shown := (corresponds_iff.mp corresponds).2
  revert shown
  decide +kernel

end Instances

end Replay

end CrazySwarm
