import CrazySwarm.DocksQueue
import CrazySwarm.Numbers

/-! The queue positions of a dock against the order of service. A position is stamped from the
length of the queue and never again, so it names the place in the queue only as long as nobody is
promoted from in front of others, files in front of them or is filed over. -/
namespace CrazySwarm.DockManager
open PyFloat

variable {F : Type} [PyFloat F]

def queue (docks : DockManager F) (dockId : String) : List (DockReservation F) :=
  docks.reservations.values.filter (waits dockId)

/-- The queue in the order in which promotions serve it, each taking the first by its key. -/
def serviceOrder : Nat → List (DockReservation F) → List (DockReservation F)
  | 0, _ => []
  | _ + 1, [] => []
  | n + 1, first :: rest =>
    let next := Sorting.leastBy earlier first rest
    next :: serviceOrder n ((first :: rest).filter fun item => item.reservationId ≠ next.reservationId)

/-- The positions of every queue are 1 to n in the order of service. -/
def Numbered (docks : DockManager F) : Prop :=
  ∀ dockId, (serviceOrder (docks.queueLength dockId) (docks.queue dockId)).map
    DockReservation.queuePosition = (List.range' 1 (docks.queueLength dockId)).map some

/-- What the order of service and the positions are read from. -/
structure Ticket (F : Type) where
  createdAt : F
  reservationId : String
  position : Option Nat

def ticket (reservation : DockReservation F) : Ticket F :=
  ⟨reservation.createdAtMonotonicS, reservation.reservationId, reservation.queuePosition⟩

namespace Ticket

def earlier (left right : Ticket F) : Bool :=
  if eq left.createdAt right.createdAt then left.reservationId < right.reservationId
  else lt left.createdAt right.createdAt

variable [IeeeOrder F] {left right : Ticket F}

theorem earlier_asymm (first : left.earlier right = true) : right.earlier left = false := by
  unfold earlier at first ⊢
  by_cases same : eq left.createdAt right.createdAt = true
  · rw [if_pos same] at first
    rw [if_pos (IeeeOrder.eq_symm same)]
    exact decide_eq_false (lt_asymm (of_decide_eq_true first))
  · rw [if_neg same] at first
    rw [if_neg fun back => same (IeeeOrder.eq_symm back)]
    by_contra back
    have cycle := IeeeOrder.lt_trans first (Bool.eq_true_of_not_eq_false back)
    rw [IeeeOrder.lt_irrefl] at cycle
    cases cycle

end Ticket

/-- The queue of a dock in some order, numbered and each before the next by the key. -/
def Lined (docks : DockManager F) (dockId : String) : Prop :=
  ∃ order : List (Ticket F), order.Perm ((docks.queue dockId).map ticket) ∧
    order.map Ticket.position = (List.range' 1 order.length).map some ∧
    order.Pairwise fun left right => left.earlier right = true

section Service
variable [IeeeOrder F]

theorem serviceOrder_tickets {order : List (Ticket F)} {queue : List (DockReservation F)}
    (listed : order.Perm (queue.map ticket))
    (distinct : (queue.map DockReservation.reservationId).Nodup)
    (sorted : order.Pairwise fun left right => left.earlier right = true) :
    (serviceOrder queue.length queue).map ticket = order := by
  induction order generalizing queue with
  | nil =>
    have empty : queue = [] := by simpa using listed.length_eq.symm
    simp [empty, serviceOrder]
  | cons head order ih =>
    obtain ⟨leads, sorted⟩ := List.pairwise_cons.mp sorted
    cases queue with
    | nil => simp at listed
    | cons first rest =>
      obtain ⟨next, member, its⟩ := List.mem_map.mp (listed.subset List.mem_cons_self)
      have rest_perm := Sorting.perm_cons_filter distinct member
      have served : Sorting.leastBy earlier first rest = next := by
        refine Sorting.leastBy_eq member fun item among other => ?_
        have apart : ticket item ≠ head := by
          rintro same
          refine other (List.inj_on_of_nodup_map distinct among member ?_)
          have : (ticket item).reservationId = (ticket next).reservationId := by rw [same, its]
          exact this
        have later : ticket item ∈ order := by
          have among := listed.symm.subset (List.mem_map_of_mem among)
          exact (List.mem_cons.mp among).resolve_left apart
        have before : (ticket next).earlier (ticket item) = true := its ▸ leads _ later
        exact ⟨before, Ticket.earlier_asymm before⟩
      have left : order.Perm (((first :: rest).filter fun item =>
          item.reservationId ≠ next.reservationId).map ticket) := by
        have whole := listed.trans (rest_perm.map ticket)
        rw [List.map_cons, its] at whole
        exact whole.cons_inv
      have length : ((first :: rest).filter fun item =>
          item.reservationId ≠ next.reservationId).length = rest.length := by
        have := rest_perm.length_eq
        simpa using this.symm
      simp only [List.length_cons, serviceOrder, served, List.map_cons, its]
      have later := ih left (distinct.sublist (List.filter_sublist.map _)) sorted
      rw [length] at later
      rw [later]

end Service

section Filing
variable {docks : DockManager F} {key dockId : String} {old stored record : DockReservation F}

theorem queueLength_eq (docks : DockManager F) (dockId : String) :
    docks.queueLength dockId = (docks.queue dockId).length :=
  List.countP_eq_length_filter ..

theorem mem_queue : record ∈ docks.queue dockId ↔
    (∃ key, docks.reservations.get? key = some record) ∧ record.dockId = dockId ∧
      record.state = .queued := by
  simp only [queue, List.mem_filter, Dict.mem_values_iff, waits, Bool.and_eq_true, decide_eq_true_eq]

theorem queue_filed_over (found : docks.reservations.get? key = some old)
    (stored : DockReservation F) (dockId : String) :
    ∃ before after, docks.queue dockId = before ++ [old].filter (waits dockId) ++ after ∧
      (docks.filed key stored).queue dockId = before ++ [stored].filter (waits dockId) ++ after := by
  obtain ⟨before, after, left, right⟩ := docks.reservations.insert_replaces stored found
  refine ⟨before.filter (waits dockId), after.filter (waits dockId), ?_, ?_⟩
  · rw [queue, left]
    by_cases waiting : waits dockId old = true <;> simp [waiting]
  · rw [queue, filed]
    simp only [right]
    by_cases waiting : waits dockId stored = true <;> simp [waiting]

theorem queue_filed_new (free : docks.reservations.get? key = none) (dockId : String) :
    (docks.filed key stored).queue dockId = docks.queue dockId ++ [stored].filter (waits dockId) := by
  rw [queue, filed]
  simp only [docks.reservations.insert_appends stored free, List.filter_append, queue]

structure SameTickets (docks next : DockManager F) : Prop where
  definitions : next.definitions = docks.definitions
  queue : ∀ dockId, (next.queue dockId).map ticket = (docks.queue dockId).map ticket

theorem SameTickets.refl (docks : DockManager F) : SameTickets docks docks := ⟨rfl, fun _ => rfl⟩

theorem SameTickets.trans {next later : DockManager F} (first : SameTickets docks next)
    (second : SameTickets next later) : SameTickets docks later :=
  ⟨second.definitions.trans first.definitions,
    fun dockId => (second.queue dockId).trans (first.queue dockId)⟩

theorem SameTickets.lined {next : DockManager F} (same : SameTickets docks next)
    (lined : Lined docks dockId) : Lined next dockId := by
  obtain ⟨order, listed, numbered, sorted⟩ := lined
  exact ⟨order, same.queue dockId ▸ listed, numbered, sorted⟩

/-- A lifecycle change neither queues a reservation nor takes one from the queue. -/
theorem Move.sameTickets {updated : DockReservation F} (move : Move record updated)
    (found : docks.reservations.get? key = some record) (events : List (DockEvent F)) :
    SameTickets docks (docks.filed key { updated with events := events }) := by
  have kept : (updated.state = .queued ↔ record.state = .queued) ∧
      updated.dockId = record.dockId ∧
      ticket { updated with events := events } = ticket record := by
    cases move with
    | @transition target allowed =>
      refine ⟨?_, rfl, rfl⟩
      cases state : record.state <;> rw [state] at allowed <;>
        simp only [DockOperationState.allowed, List.mem_cons, List.not_mem_nil, or_false] at allowed
      all_goals rcases allowed with rfl | rfl <;> simp
    | land state => exact ⟨by simp [state], rfl, rfl⟩
    | unconfirmed state =>
      refine ⟨?_, rfl, rfl⟩
      simp only [DockManager.unconfirmed, state, reduceCtorEq, iff_false]
      split <;> simp
    | charge state contact => exact ⟨by simp [state], rfl, rfl⟩
    | progress state charged =>
      refine ⟨?_, rfl, rfl⟩
      rcases List.mem_pair.mp state with state | state <;>
        rcases List.mem_pair.mp charged with rfl | rfl <;> simp [state]
    | unavailable unfinished =>
      refine ⟨?_, rfl, rfl⟩
      simp only [unavailableUpdate]
      split <;> simp_all
  obtain ⟨queued, dock, same⟩ := kept
  refine ⟨rfl, fun dockId => ?_⟩
  obtain ⟨before, after, left, right⟩ := queue_filed_over found _ dockId
  rw [left, right]
  by_cases waiting : waits dockId record = true
  · have still : waits dockId { updated with events := events } = true := by
      simpa [waits, queued, dock] using waiting
    simp [waiting, still, same]
  · have still : ¬ waits dockId { updated with events := events } = true := by
      simpa [waits, queued, dock] using waiting
    simp [waiting, still]

theorem commit_sameTickets {update : Except (Fault F) (DockReservation F)} {eventType : String}
    (typed : isIdentifier eventType = true) (reason : String) (timestamp : F)
    (moves : ∀ updated, update = .ok updated → ∃ record,
      docks.reservations.get? key = some record ∧ Move record updated) :
    SameTickets docks (docks.commit key update eventType reason timestamp).1 := by
  cases computed : update with
  | error fault => exact .refl docks
  | ok updated =>
    obtain ⟨record, found, move⟩ := moves updated computed
    rcases docks.commit_cases key updated typed reason timestamp with ⟨_, fault, eq⟩ | ⟨_, event, eq⟩
    · rw [eq]
      exact ⟨rfl, fun _ => rfl⟩
    · rw [eq]
      exact move.sameTickets found _

theorem transition_sameTickets (target : DockOperationState) (reason : String) (nowS : Option F)
    (clock : Nat → F) : SameTickets docks (docks.transition key target reason nowS clock).1 := by
  refine commit_sameTickets (transition_typed target) _ _ fun updated computed => ?_
  obtain ⟨record, found, allowed, rfl⟩ := transitionUpdate_eq_ok computed
  exact ⟨record, found, .transition allowed⟩

theorem confirmModeledLanding_sameTickets (contact : Bool) (nowS : Option F) (clock : Nat → F) :
    SameTickets docks (docks.confirmModeledLanding key contact nowS clock).1 := by
  have typed : isIdentifier "MODELED_LANDING_OBSERVED" = true := by decide
  refine commit_sameTickets typed _ _ fun updated computed => ?_
  obtain ⟨record, found, state, rfl⟩ := landingUpdate_eq_ok computed
  exact ⟨record, found, .land state⟩

theorem confirmModeledCharging_sameTickets (confirmed : Bool) (nowS : Option F) (clock : Nat → F) :
    SameTickets docks (docks.confirmModeledCharging key confirmed nowS clock).1 := by
  unfold confirmModeledCharging
  cases landed : docks.landed key with
  | error fault => exact .refl docks
  | ok record =>
    obtain ⟨found, state⟩ := landed_eq_ok.mp landed
    simp only
    split
    · have typed : isIdentifier "MODELED_CHARGING_CONFIRMATION_FAILED" = true := by decide
      exact commit_sameTickets typed _ _ fun updated computed => by
        cases computed
        exact ⟨record, found, .unconfirmed state⟩
    · next contact =>
      have typed : isIdentifier "MODELED_CHARGING_CONFIRMED" = true := by decide
      refine commit_sameTickets typed _ _ fun updated computed => ?_
      obtain ⟨started, ready, rfl⟩ := chargingUpdate_eq_ok computed
      exact ⟨record, found, .charge state (by simp_all)⟩

theorem divertEach_sameTickets (dockId : String) (timestamp : F) {docks : DockManager F}
    {rest : List (DockReservation F)} (unvisited : Unvisited docks rest) :
    SameTickets docks (divertEach dockId timestamp rest docks).1 := by
  induction rest generalizing docks with
  | nil => exact .refl docks
  | cons record rest ih =>
    unfold divertEach
    split
    · next mine =>
      simp only [Bool.and_eq_true, decide_eq_true_eq, Bool.not_eq_true'] at mine
      have typed : isIdentifier "DOCK_UNAVAILABLE" = true := by decide
      have found := unvisited.stored record List.mem_cons_self
      rcases docks.commit_cases record.reservationId (unavailableUpdate record) typed
        "dock health changed to unavailable" timestamp with ⟨_, fault, eq⟩ | ⟨_, event, eq⟩
      · simp only [eq, andThen]
        exact ⟨rfl, fun _ => rfl⟩
      · simp only [eq, andThen]
        refine SameTickets.trans ((Move.unavailable mine.2).sameTickets found _) (ih (unvisited.tail ?_))
        intro key apart
        exact Dict.get?_insert_of_ne _ _ (Ne.symm apart)
    · exact ih (unvisited.tail fun _ _ => rfl)

theorem setHealth_sameTickets (configured : Configured docks) (dockId : String)
    (health : DockHealth) (nowS : Option F) (clock : Nat → F) :
    SameTickets docks (docks.setHealth dockId health nowS clock).1 := by
  unfold setHealth
  split
  · exact .refl docks
  · have changed : SameTickets docks { docks with health := docks.health.insert dockId health } :=
      ⟨rfl, fun _ => rfl⟩
    simp only
    split
    · have unvisited : Unvisited { docks with health := docks.health.insert dockId health }
          docks.reservations.values := ⟨configured.unvisited.stored, configured.unvisited.distinct⟩
      have diverted := changed.trans
        (divertEach_sameTickets dockId (now nowS (clock 0)) unvisited)
      simp only [andThen]
      split <;> next eq => rwa [eq] at diverted
    · exact changed

theorem lined_aside (lined : Lined docks dockId)
    (unqueued : ∀ old, docks.reservations.get? key = some old → waits dockId old = false)
    (served : waits dockId stored = false) : Lined (docks.filed key stored) dockId := by
  have same : (docks.filed key stored).queue dockId = docks.queue dockId := by
    cases found : docks.reservations.get? key with
    | none =>
      rw [queue_filed_new found]
      simp [served]
    | some old =>
      obtain ⟨before, after, left, right⟩ := queue_filed_over found _ dockId
      rw [left, right]
      simp [unqueued old found, served]
  obtain ⟨order, listed, numbered, sorted⟩ := lined
  exact ⟨order, same ▸ listed, numbered, sorted⟩

theorem lined_joined (lined : Lined docks dockId)
    (unqueued : ∀ old, docks.reservations.get? key = some old → waits dockId old = false)
    (waiting : waits dockId stored = true)
    (stamped : stored.queuePosition = some (docks.queueLength dockId + 1))
    (behind : ∀ other ∈ docks.queue dockId, earlier other stored = true) :
    Lined (docks.filed key stored) dockId := by
  have grown : ((docks.filed key stored).queue dockId).Perm (docks.queue dockId ++ [stored]) := by
    cases found : docks.reservations.get? key with
    | none =>
      rw [queue_filed_new found]
      simp [waiting]
    | some old =>
      obtain ⟨before, after, left, right⟩ := queue_filed_over found _ dockId
      rw [left, right]
      simp only [unqueued old found, waiting, List.filter_cons, List.filter_nil, if_true,
        Bool.false_eq_true, if_false, List.append_nil, List.append_assoc]
      exact List.perm_append_comm.append_left before
  obtain ⟨order, listed, numbered, sorted⟩ := lined
  have length : order.length = docks.queueLength dockId := by
    rw [queueLength_eq, listed.length_eq, List.length_map]
  refine ⟨order ++ [ticket stored], ?_, ?_, ?_⟩
  · refine (listed.append_right _).trans ?_
    have tickets := (grown.map ticket).symm
    rwa [List.map_append] at tickets
  · rw [List.map_append, numbered, List.length_append, List.length_singleton, List.range'_1_concat,
      List.map_append]
    simp [ticket, stamped, length, Nat.add_comm]
  · refine List.pairwise_append.mpr ⟨sorted, List.pairwise_singleton _ _, ?_⟩
    rintro other member _ (_ | _)
    · obtain ⟨reservation, queued, rfl⟩ := List.mem_map.mp (listed.subset member)
      exact behind reservation queued
    · next absurd => cases absurd

theorem lined_left (lined : Lined docks dockId) (found : docks.reservations.get? key = some old)
    (waiting : waits dockId old = true) (served : waits dockId stored = false)
    (last : ∀ other ∈ docks.queue dockId, earlier old other = false) :
    Lined (docks.filed key stored) dockId := by
  obtain ⟨before, after, left, right⟩ := queue_filed_over found stored dockId
  simp only [waiting, served, List.filter_cons, List.filter_nil, if_true, Bool.false_eq_true,
    if_false, List.append_nil] at left right
  obtain ⟨order, listed, numbered, sorted⟩ := lined
  have member : ticket old ∈ order := by
    refine listed.symm.subset (List.mem_map_of_mem ?_)
    rw [left]
    simp
  obtain ⟨front, back, rfl⟩ := List.append_of_mem member
  have behind : back = [] := by
    refine List.eq_nil_iff_forall_not_mem.mpr fun other among => ?_
    have later : (ticket old).earlier other = true :=
      List.rel_of_pairwise_cons (List.pairwise_append.mp sorted).2.1 among
    have ticketed := listed.subset (List.mem_append_right front (List.mem_cons_of_mem _ among))
    obtain ⟨reservation, queued, rfl⟩ := List.mem_map.mp ticketed
    have : earlier old reservation = true := later
    rw [last reservation queued] at this
    cases this
  subst behind
  refine ⟨front, ?_, ?_, sorted.sublist (List.sublist_append_left _ _)⟩
  · rw [left] at listed
    simp only [List.map_append, List.map_cons, List.map_nil, List.append_assoc] at listed
    have whole := (List.perm_append_singleton (ticket old) front).symm.trans
      (listed.trans List.perm_middle)
    rw [right, List.map_append]
    exact whole.cons_inv
  · rw [List.map_append, List.length_append, List.length_singleton, List.range'_1_concat,
      List.map_append] at numbered
    exact (List.append_inj numbered (by simp)).1

end Filing

section Steps
variable [IeeeOrder F] {docks : DockManager F}

/-- Everybody queued for the dock comes before the reservation. -/
def filesBehind (docks : DockManager F) (reservation : DockReservation F) : Bool :=
  (docks.queue reservation.dockId).all fun other => earlier other reservation

/-- Nobody queued for the dock comes after the reservation. -/
def lastInLine (docks : DockManager F) (reservation : DockReservation F) : Bool :=
  (docks.queue reservation.dockId).all fun other => !earlier reservation other

/-- The calls after which a position no longer is the place in the queue: a completed charge that
promotes from in front of others, and a request that files in front of a queued reservation or
over one with others behind it. -/
def displaces (docks : DockManager F) (call : Call F) : Bool :=
  match call.op with
  | .updateModeledCharge reservationId nowS =>
    let timestamp := now nowS (call.clock 0)
    okWith (docks.chargeUpdate reservationId timestamp) fun updated =>
      updated.state = .ready && ge timestamp zero && 2 ≤ docks.queueLength updated.dockId
  | op => op.request.any fun request =>
    okWith (docks.allocate request.vehicleId request.preferredDockId request.batteryPercent
      request.targetBatteryPercent (now request.nowS (call.clock 0))) fun reservation =>
      (reservation.state = .queued && !docks.filesBehind reservation) ||
        (docks.reservations.get? reservation.reservationId).any fun old =>
          old.state = .queued && !docks.lastInLine old

omit [IeeeOrder F] in
theorem allocate_stamped {vehicleId : String} {preferred : Option String} {battery : Option F}
    {target timestamp : F} {reservation : DockReservation F}
    (h : docks.allocate vehicleId preferred battery target timestamp = .ok reservation)
    (queued : reservation.state = .queued) :
    reservation.queuePosition = some (docks.queueLength reservation.dockId + 1) := by
  obtain ⟨_, _, h⟩ := bind_eq_ok.mp h
  obtain ⟨usable, _, h⟩ := bind_eq_ok.mp h
  split at h
  · cases h
  next first rest =>
  obtain ⟨_, _, h⟩ := bind_eq_ok.mp h
  obtain ⟨_, rfl⟩ := validated_eq_ok.mp h
  dsimp only at queued ⊢
  split at queued
  · next full => rw [if_pos full]
  · cases queued

omit [IeeeOrder F] in
theorem reserve_lined (configured : Configured docks) (lined : ∀ dockId, Lined docks dockId)
    (request : Request F) (clock : Nat → F)
    (fair : okWith (docks.allocate request.vehicleId request.preferredDockId request.batteryPercent
      request.targetBatteryPercent (now request.nowS (clock 0))) (fun reservation =>
      (reservation.state = .queued && !docks.filesBehind reservation) ||
        (docks.reservations.get? reservation.reservationId).any fun old =>
          old.state = .queued && !docks.lastInLine old) = false) (dockId : String) :
    Lined (docks.reserve request.vehicleId request.preferredDockId request.batteryPercent
      request.targetBatteryPercent request.nowS clock).1 dockId := by
  rcases reserve_cases configured request.vehicleId request.preferredDockId request.batteryPercent
    request.targetBatteryPercent request.nowS clock
    with ⟨fault, _, eq⟩ | ⟨reservation, event, allocated, opened, _, _, eq⟩
  · rw [eq]
    exact lined dockId
  rw [eq]
  simp only [allocated, okWith, Bool.or_eq_false_iff, Bool.and_eq_false_imp, decide_eq_true_eq,
    Bool.not_eq_false'] at fair
  obtain ⟨behind, filedOver⟩ := fair
  have unqueued (mine : dockId = reservation.dockId) (old : DockReservation F)
      (found : docks.reservations.get? reservation.reservationId = some old) :
      waits dockId old = false := by
    by_contra waiting
    simp only [waits, Bool.not_eq_false, Bool.and_eq_true, decide_eq_true_eq] at waiting
    refine replaced_elsewhere configured opened found ?_ (waiting.1.trans mine)
    rw [waiting.2]
    rfl
  by_cases joins : dockId = reservation.dockId ∧ reservation.state = .queued
  · obtain ⟨rfl, queued⟩ := joins
    refine lined_joined (lined _) (unqueued rfl) (by simp [waits, queued]) ?_ ?_
    · have stamped := allocate_stamped allocated queued
      exact stamped
    · exact List.all_eq_true.mp (behind queued)
  · have served : waits dockId { reservation with events := reservation.events ++ [event] } = false := by
      by_contra waiting
      simp only [waits, Bool.not_eq_false, Bool.and_eq_true, decide_eq_true_eq] at waiting
      exact joins ⟨waiting.1.symm, waiting.2⟩
    cases found : docks.reservations.get? reservation.reservationId with
    | none => exact lined_aside (lined dockId) (fun old some => by simp [found] at some) served
    | some old =>
      by_cases waiting : waits dockId old = true
      · have here : old.dockId = dockId ∧ old.state = .queued := by simpa [waits] using waiting
        rw [found, Option.any_some] at filedOver
        have last : docks.lastInLine old = true := by simpa [here.2] using filedOver
        refine lined_left (lined dockId) found waiting served fun other queued => ?_
        have after := List.all_eq_true.mp last other (here.1 ▸ queued)
        simpa using after
      · refine lined_aside (lined dockId) (fun other some => ?_) served
        rw [found] at some
        cases some
        simpa using waiting

theorem promoteQueue_lined (configured : Configured docks) (lined : ∀ dockId, Lined docks dockId)
    {promoted : String} (timestamp : F) (single : docks.queueLength promoted ≤ 1) (dockId : String) :
    Lined (docks.promoteQueue promoted timestamp).1 dockId := by
  unfold promoteQueue
  cases docks.definition promoted with
  | error fault => exact lined dockId
  | ok definition =>
    simp only
    cases chosen : docks.promotable definition promoted with
    | none => exact lined dockId
    | some selected =>
      obtain ⟨_, listed, here, queued⟩ := promotable_eq_some chosen
      obtain ⟨key, found⟩ := (Dict.mem_values_iff _ selected).mp listed
      rw [← (configured.named key selected found).1] at found
      have typed : isIdentifier "DOCK_QUEUE_PROMOTED" = true := by decide
      rcases docks.commit_cases selected.reservationId { selected with
          state := .reserved, queuePosition := none } typed "capacity released" timestamp
        with ⟨_, fault, eq⟩ | ⟨_, event, eq⟩
      · simp only [eq, andThen]
        exact lined dockId
      simp only [eq, andThen]
      by_cases mine : dockId = promoted
      · subst mine
        refine lined_left (lined dockId) found (by simp [waits, here, queued]) (by simp [waits]) ?_
        intro other member
        have among : selected ∈ docks.queue dockId := mem_queue.mpr ⟨⟨_, found⟩, here, queued⟩
        rw [queueLength_eq] at single
        obtain ⟨only, all⟩ := List.length_eq_one_iff.mp
          (Nat.le_antisymm single (List.length_pos_of_mem among))
        rw [all, List.mem_singleton] at among member
        rw [among, member]
        by_contra before
        have before : (ticket only).earlier (ticket only) = true := Bool.eq_true_of_not_eq_false before
        rw [Ticket.earlier_asymm before] at before
        cases before
      · refine lined_aside (lined dockId) (fun old some => ?_) (by simp [waits])
        rw [found] at some
        cases some
        simp [waits, here, Ne.symm mine]

theorem updateModeledCharge_lined (configured : Configured docks)
    (lined : ∀ dockId, Lined docks dockId) (key : String) (nowS : Option F) (clock : Nat → F)
    (fair : displaces docks ⟨.updateModeledCharge key nowS, clock⟩ = false) (dockId : String) :
    Lined (docks.updateModeledCharge key nowS clock).1 dockId := by
  unfold updateModeledCharge
  simp only [displaces] at fair
  simp only
  cases computed : docks.chargeUpdate key (now nowS (clock 0)) with
  | error fault => exact lined dockId
  | ok updated =>
  rw [computed] at fair
  obtain ⟨record, target, battery, found, state, charged, same⟩ := chargeUpdate_eq_ok computed
  have typed : isIdentifier (if updated.state = .ready then "MODELED_CHARGE_READY"
      else "MODELED_CHARGE_PROGRESS") = true := by split <;> decide
  have move : Move record updated := same ▸ .progress state charged
  rcases docks.commit_cases key updated typed "software scheduling model" (now nowS (clock 0))
    with ⟨_, fault, eq⟩ | ⟨accepted, event, eq⟩
  · simp only [eq, andThen]
    exact lined dockId
  have tickets := move.sameTickets found (updated.events ++ [event])
  have kept (other : String) := tickets.lined (lined other)
  simp only [eq, andThen]
  split
  · next ready =>
    have ready : updated.state = .ready := ready
    have single : (docks.filed key { updated with
        events := updated.events ++ [event] }).queueLength updated.dockId ≤ 1 := by
      have same := congrArg List.length (tickets.queue updated.dockId)
      rw [List.length_map, List.length_map, ← queueLength_eq, ← queueLength_eq] at same
      simp only [okWith, ready, accepted.timestamp, decide_true, Bool.true_and,
        decide_eq_false_iff_not] at fair
      omega
    have change : Change docks (docks.filed key { updated with events := updated.events ++ [event] }) :=
      .moved found move
    have promoted := promoteQueue_lined (change.configured configured) kept (now nowS (clock 0))
      single dockId
    split <;> next eq => rwa [eq] at promoted
  · exact kept dockId

theorem step_lined (configured : Configured docks) (lined : ∀ dockId, Lined docks dockId)
    (call : Call F) (fair : displaces docks call = false) (dockId : String) :
    Lined (step docks call) dockId := by
  obtain ⟨op, clock⟩ := call
  cases op with
  | reserve vehicleId preferred battery target nowS =>
    exact reserve_lined configured lined ⟨vehicleId, preferred, battery, target, nowS⟩ clock fair dockId
  | reserveAfterHandover handover battery nowS =>
    simp only [step]
    unfold reserveAfterHandover
    by_cases released : (handover.phase = .completed && handover.takeoverConfirmed) = true
    · have reserved := reserve_lined configured lined
        ⟨handover.outgoingVehicleId, none, battery, ofRat 90, nowS⟩ clock
        (by simpa only [displaces, Op.request, released, if_true, Option.any_some] using fair) dockId
      simp only [released, Bool.not_true, Bool.false_eq_true, if_false, andThen]
      split
      · next eq => rwa [eq] at reserved
      · next eq =>
        rw [eq] at reserved
        split
        · exact (transition_sameTickets _ _ _ _).lined reserved
        · exact reserved
    · simp only [released, Bool.not_false, if_true]
      exact lined dockId
  | transition => exact (transition_sameTickets _ _ _ _).lined (lined dockId)
  | confirmModeledLanding => exact (confirmModeledLanding_sameTickets _ _ _).lined (lined dockId)
  | confirmModeledCharging => exact (confirmModeledCharging_sameTickets _ _ _).lined (lined dockId)
  | updateModeledCharge key nowS =>
    exact updateModeledCharge_lined configured lined key nowS clock fair dockId
  | setHealth => exact (setHealth_sameTickets configured _ _ _ _).lined (lined dockId)

/-- A queue in line is numbered in the order of service. -/
theorem numbered_of_lined (configured : Configured docks) (lined : ∀ dockId, Lined docks dockId) :
    Numbered docks := by
  intro dockId
  obtain ⟨order, listed, numbered, sorted⟩ := lined dockId
  have distinct : ((docks.queue dockId).map DockReservation.reservationId).Nodup :=
    configured.unvisited.distinct.sublist (List.filter_sublist.map _)
  have served := serviceOrder_tickets listed distinct sorted
  have positions : ∀ items : List (DockReservation F),
      items.map DockReservation.queuePosition = (items.map ticket).map Ticket.position := by
    intro items
    rw [List.map_map]
    rfl
  rw [positions, queueLength_eq, served, numbered, listed.length_eq, List.length_map]

end Steps

/-- In every run without a displacing call the queue positions of every dock are 1 to n in the
order in which `_promote_queue` serves it. -/
theorem queue_numbered [IeeeOrder F] {definitions : List (DockDefinition F)} {ttl : F}
    {maximumAttempts queueLimit : Nat} {initial : DockManager F}
    (created : create definitions ttl maximumAttempts queueLimit = .ok initial)
    {calls : List (Call F)}
    (fair : Runs.Along step (fun docks call => displaces docks call = false) initial calls) :
    Numbered (Runs.run step initial calls) := by
  obtain ⟨configured, empty⟩ := create_eq_ok created
  have start : ∀ dockId, Lined initial dockId := fun dockId =>
    ⟨[], by simp [queue, empty], rfl, .nil⟩
  have reached := Runs.invariant_along
    (I := fun docks => Configured docks ∧ ∀ dockId, Lined docks dockId)
    (fun docks call reached fair => ⟨(step_changes reached.1 call).configured reached.1,
      step_lined reached.1 reached.2 call fair⟩) ⟨configured, start⟩ fair
  exact numbered_of_lined reached.1 reached.2

/-- A vehicle at the dock and two in its queue. -/
def twoQueued : List (Call ℚ) := [reserveAt "cf01" 10, reserveAt "cf02" 11, reserveAt "cf03" 12]

theorem queue_numbered_two :
    ∃ initial, create [dockMain] 120 1 8 = .ok initial ∧
      (Runs.run step initial twoQueued).queueLength "dock-main" = 2 ∧
      Numbered (Runs.run step initial twoQueued) := by
  obtain ⟨initial, created, evaluated⟩ := exists_of_okWith (x := create [dockMain] 120 1 8)
    (t := fun initial => decide
        (Runs.Along step (fun docks call => displaces docks call = false) initial twoQueued) &&
      (Runs.run step initial twoQueued).queueLength "dock-main" = 2) (by decide +kernel)
  simp only [Bool.and_eq_true, decide_eq_true_eq] at evaluated
  exact ⟨initial, created, evaluated.2, queue_numbered created evaluated.1⟩

/-- A promotion leaves the second of the queue at place two, where the next one files as well. -/
theorem promotion_leaves_gap :
    ∃ initial, create [dockMain] 120 1 8 = .ok initial ∧
      ¬ Numbered (Runs.run step initial (twoQueued ++ (chargedRun true).drop 2)) := by
  obtain ⟨initial, created, evaluated⟩ := exists_of_okWith (x := create [dockMain] 120 1 8)
    (t := fun initial =>
      let docks := Runs.run step initial (twoQueued ++ (chargedRun true).drop 2)
      (serviceOrder (docks.queueLength "dock-main") (docks.queue "dock-main")).map
        DockReservation.queuePosition = [some 2] && docks.queueLength "dock-main" = 1)
    (by decide +kernel)
  simp only [Bool.and_eq_true, decide_eq_true_eq] at evaluated
  refine ⟨initial, created, fun numbered => ?_⟩
  have positions := numbered "dock-main"
  rw [evaluated.1, evaluated.2] at positions
  simp at positions

end CrazySwarm.DockManager
