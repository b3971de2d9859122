import CrazySwarm.DocksQueue

/-! What a new reservation is filed over. The key of a reservation joins its dock and its vehicle
with a separator that identifiers may contain, so two pairs can share a key. -/
namespace CrazySwarm.DockManager
open PyFloat

/-- Two keys are equal exactly when the joined identifiers are. -/
theorem reservationId_eq_iff {dockId vehicleId otherDock otherVehicle : String} :
    reservationId dockId vehicleId = reservationId otherDock otherVehicle ↔
      dockId ++ "-" ++ vehicleId = otherDock ++ "-" ++ otherVehicle := by
  simp [reservationId, String.append_assoc]

variable {F : Type} [PyFloat F]

/-- Every unfinished reservation of another vehicle is still stored, as it was. -/
def KeepsOthers (docks next : DockManager F) (vehicleId : String) : Prop :=
  ∀ key held, docks.reservations.get? key = some held → held.vehicleId ≠ vehicleId →
    held.state.terminal = false → next.reservations.get? key = some held

/-- The dock a request is allocated to and its vehicle, joined by the separator, read like dock
and vehicle of an unfinished reservation of another vehicle. -/
def Collides (docks : DockManager F) (preferredDockId : Option String) (vehicleId : String) : Prop :=
  ∃ selected, docks.selection preferredDockId = some selected ∧
    ∃ key held, docks.reservations.get? key = some held ∧ held.vehicleId ≠ vehicleId ∧
      held.state.terminal = false ∧
      held.dockId ++ "-" ++ held.vehicleId = selected.dockId ++ "-" ++ vehicleId

section Reserved

variable {docks next : DockManager F} {vehicleId : String} {preferred : Option String}
variable {battery : Option F} {target : F} {nowS : Option F} {clock : Nat → F}
variable {reservation : DockReservation F}

theorem reserve_files (configured : Configured docks)
    (reserved : docks.reserve vehicleId preferred battery target nowS clock =
      (next, .ok reservation)) :
    ∃ selected, docks.selection preferred = some selected ∧
      docks.definitions.get? selected.dockId = some selected ∧
      next = docks.filed (reservationId selected.dockId vehicleId) reservation ∧
      reservation.vehicleId = vehicleId := by
  rcases reserve_cases configured vehicleId preferred battery target nowS clock with
    ⟨fault, -, eq⟩ | ⟨allocated, event, allocation, opened, -, vehicle, eq⟩
  · rw [eq] at reserved
    cases reserved
  · rw [eq] at reserved
    cases reserved
    obtain ⟨selected, selection, dock, known⟩ :=
      allocate_selection configured.identified allocation
    exact ⟨selected, selection, known, by rw [opened.named, dock, vehicle], vehicle⟩

theorem keepsOthers_iff (configured : Configured docks)
    (reserved : docks.reserve vehicleId preferred battery target nowS clock =
      (next, .ok reservation)) :
    KeepsOthers docks next vehicleId ↔ ¬Collides docks preferred vehicleId := by
  obtain ⟨selected, selection, -, rfl, vehicle⟩ := reserve_files configured reserved
  have stored (key : String) :
      (docks.filed (reservationId selected.dockId vehicleId) reservation).reservations.get? key =
        if reservationId selected.dockId vehicleId = key then some reservation
        else docks.reservations.get? key := Dict.get?_insert ..
  constructor
  · rintro keeps ⟨other, chosen, key, held, found, another, unfinished, joined⟩
    obtain rfl : other = selected := Option.some.inj (chosen.symm.trans selection)
    have same : key = reservationId other.dockId vehicleId :=
      (configured.named key held found).2.trans (reservationId_eq_iff.mpr joined)
    have kept := keeps key held found another unfinished
    rw [stored, if_pos same.symm] at kept
    exact another (Option.some.inj kept ▸ vehicle)
  · intro apart key held found another unfinished
    rw [stored]
    split
    · next same =>
      have joined := reservationId_eq_iff.mp ((configured.named key held found).2.symm.trans same.symm)
      exact absurd ⟨selected, selection, key, held, found, another, unfinished, joined⟩ apart
    · exact found

end Reserved

/-- In every reachable state a successful request leaves the unfinished reservations of the other
vehicles as they are exactly when it does not collide with one of them. -/
theorem reserve_keeps_others_iff {definitions : List (DockDefinition F)} {ttl : F}
    {maximumAttempts queueLimit : Nat} {initial : DockManager F}
    (created : create definitions ttl maximumAttempts queueLimit = .ok initial)
    (calls : List (Call F)) {vehicleId : String} {preferred : Option String} {battery : Option F}
    {target : F} {nowS : Option F} {clock : Nat → F} {next : DockManager F}
    {reservation : DockReservation F}
    (reserved : (Runs.run step initial calls).reserve vehicleId preferred battery target nowS clock =
      (next, .ok reservation)) :
    KeepsOthers (Runs.run step initial calls) next vehicleId ↔
      ¬Collides (Runs.run step initial calls) preferred vehicleId :=
  keepsOthers_iff (run_sound (create_sound created) calls).configured reserved

def dockNamed (dockId : String) : DockDefinition ℚ := { dockMain with dockId }

def reserveOn (dockId vehicleId : String) (reading : ℚ) : Call ℚ :=
  ⟨.reserve vehicleId (some dockId) (some 80) 90 none, fun _ => reading⟩

example : reservationId "a" "b-c" = reservationId "a-b" "c" := by decide +kernel

/-- Two vehicles at the docks of their names. -/
theorem reserve_keeps_others_iff_apart :
    ∃ initial next reservation, create [dockNamed "a", dockNamed "b"] 120 2 8 = .ok initial ∧
      (Runs.run step initial [reserveOn "a" "cf01" 10]).reserve "cf02" (some "b") (some 80) 90 none
        (fun _ => 11) = (next, .ok reservation) ∧
      (KeepsOthers (Runs.run step initial [reserveOn "a" "cf01" 10]) next "cf02" ↔
        ¬Collides (Runs.run step initial [reserveOn "a" "cf01" 10]) (some "b") "cf02") := by
  obtain ⟨initial, created, evaluated⟩ := exists_of_okWith
    (x := create [dockNamed "a", dockNamed "b"] 120 2 8)
    (t := fun initial => okWith ((Runs.run step initial [reserveOn "a" "cf01" 10]).reserve "cf02"
      (some "b") (some 80) 90 none (fun _ => 11)).2 fun _ => true) (by decide +kernel)
  rcases reserved : (Runs.run step initial [reserveOn "a" "cf01" 10]).reserve "cf02" (some "b")
    (some 80) 90 none (fun _ => 11) with ⟨next, fault | reservation⟩
  · rw [reserved] at evaluated
    cases evaluated
  · exact ⟨initial, next, reservation, created, reserved, reserve_keeps_others_iff created _ reserved⟩

/-- Dock `a` with vehicle `b-c` and dock `a-b` with vehicle `c` share a key: the second request
removes the reservation of the first. -/
theorem joined_identifiers_overwrite :
    ∃ initial next reservation, create [dockNamed "a", dockNamed "a-b"] 120 2 8 = .ok initial ∧
      (Runs.run step initial [reserveOn "a" "b-c" 10]).reserve "c" (some "a-b") (some 80) 90 none
        (fun _ => 11) = (next, .ok reservation) ∧
      ¬KeepsOthers (Runs.run step initial [reserveOn "a" "b-c" 10]) next "c" := by
  obtain ⟨initial, created, evaluated⟩ := exists_of_okWith
    (x := create [dockNamed "a", dockNamed "a-b"] 120 2 8)
    (t := fun initial =>
      let docks := Runs.run step initial [reserveOn "a" "b-c" 10]
      let (next, result) := docks.reserve "c" (some "a-b") (some 80) 90 none fun _ => 11
      okWith result (fun _ => true) &&
        (docks.reservations.get? "dock-a-b-c").any fun held =>
          held.vehicleId = "b-c" && !held.state.terminal &&
            (next.reservations.get? "dock-a-b-c").any (·.vehicleId = "c")) (by decide +kernel)
  simp only [Bool.and_eq_true, Option.any_eq_true, decide_eq_true_eq, Bool.not_eq_true'] at evaluated
  obtain ⟨succeeds, held, found, ⟨vehicle, unfinished⟩, other, replaced, owner⟩ := evaluated
  rcases reserved : (Runs.run step initial [reserveOn "a" "b-c" 10]).reserve "c" (some "a-b")
    (some 80) 90 none (fun _ => 11) with ⟨next, fault | reservation⟩
  · rw [reserved] at succeeds
    cases succeeds
  · rw [reserved] at replaced
    refine ⟨initial, next, reservation, created, reserved, fun keeps => ?_⟩
    have kept := keeps _ held found (by simp [vehicle]) unfinished
    cases kept.symm.trans replaced
    exact absurd (vehicle.symm.trans owner) (by decide)

/-! ## Docks whose identifiers do not continue each other -/

end CrazySwarm.DockManager
