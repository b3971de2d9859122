import CrazySwarm.Lib.Keyed
import CrazySwarm.Replanning

/-! The world an in-flight event leaves behind. Regions are looked up under the id of the event,
while a region that is put in carries an id of its own. -/
namespace CrazySwarm
open PyFloat

variable {F : Type}

namespace DynamicEventKind

/-- `region_kinds`, whose events put a region into the world. -/
def putsRegion (kind : DynamicEventKind) : Bool :=
  kind ∈ [obstacleAdded, obstacleMoved, passageClosed, passageOpened]

end DynamicEventKind

namespace InFlightEnvironmentEvent

/-- `payload_matches_kind`. -/
def payloadMatchesKind [PyFloat F] (event : InFlightEnvironmentEvent F) : Except PyError Unit := do
  require (!lt event.receivedSourceS event.sourceTimestampS)
    (.valueError "dynamic event cannot be received before it was observed")
  require (!lt event.effectiveSourceS event.sourceTimestampS)
    (.valueError "dynamic event effective time predates its observation")
  require (!(event.kind.putsRegion && (event.regionId.isNone || event.region.isNone)))
    (.valueError "dynamic obstacle/passage event requires a named region")
  require (!(event.kind = .obstacleRemoved && event.regionId.isNone))
    (.valueError "obstacle removal requires region_id")
  require (!(event.kind = .peerTrajectoryUpdated && event.peerTrajectorySha256.isNone))
    (.valueError "peer update requires a trajectory hash")
  require (!(event.kind = .positionUncertaintyChanged && event.positionUncertaintyM.isNone))
    (.valueError "uncertainty event requires position_uncertainty_m")

/-- `assert event.region is not None and event.region_id is not None`. -/
def namedRegion (event : InFlightEnvironmentEvent F) : Except PyError (String × Region3D F) :=
  match event.regionId, event.region with
  | some regionId, some region => .ok (regionId, region)
  | _, _ => .error .assertionError

def RegionNamed (event : InFlightEnvironmentEvent F) : Prop :=
  event.kind.putsRegion = true → event.region.map Region3D.regionId = event.regionId

instance (event : InFlightEnvironmentEvent F) : Decidable event.RegionNamed := by
  unfold RegionNamed; infer_instance

end InFlightEnvironmentEvent

def holdsRegion (regionId : String) (regions : List (Region3D F)) : Bool :=
  regions.any fun item => item.regionId = regionId

/-- `replace_named`. -/
def replaceNamed (values : List (Region3D F)) (regionId : String) (region : Region3D F) :
    Except PyError (List (Region3D F)) :=
  match Keyed.positions (fun value => decide (value.regionId = regionId)) values with
  | [index] => .ok (values.set index region)
  | _ => .error (.valueError s!"dynamic region '{regionId}' does not identify one object")

/-- `_environment_after_event`. -/
def environmentAfterEvent (environment : EnvironmentConstraints F)
    (event : InFlightEnvironmentEvent F) : Except PyError (EnvironmentConstraints F) := do
  let solids := environment.keepOutRegions
  let passages := environment.requiredCorridors
  match event.kind with
  | .obstacleAdded =>
    let (regionId, region) ← event.namedRegion
    require (!holdsRegion regionId (solids ++ passages))
      (.valueError "dynamic obstacle ID already exists")
    return { environment with keepOutRegions := solids ++ [region] }
  | .obstacleMoved =>
    let (regionId, region) ← event.namedRegion
    let solids ← replaceNamed solids regionId region
    return { environment with keepOutRegions := solids }
  | .obstacleRemoved =>
    let some regionId := event.regionId | .error .assertionError
    let retained := Keyed.without Region3D.regionId regionId solids
    require (retained.length != solids.length)
      (.valueError "dynamic obstacle removal names an unknown object")
    return { environment with keepOutRegions := retained }
  | .passageClosed =>
    let (regionId, region) ← event.namedRegion
    let passages := Keyed.without Region3D.regionId regionId passages
    require (!holdsRegion regionId solids)
      (.valueError "closed passage ID collides with an existing solid")
    return { environment with keepOutRegions := solids ++ [region], requiredCorridors := passages }
  | .passageOpened =>
    let (regionId, region) ← event.namedRegion
    let solids := Keyed.without Region3D.regionId regionId solids
    require (!holdsRegion regionId passages) (.valueError "opened passage ID already exists")
    return { environment with keepOutRegions := solids, requiredCorridors := passages ++ [region] }
  | .peerTrajectoryUpdated | .positionUncertaintyChanged => return environment

section Edits

variable {environment after : EnvironmentConstraints F} {event : InFlightEnvironmentEvent F}

@[simp] theorem namedRegion_eq_ok {regionId : String} {region : Region3D F} :
    event.namedRegion = .ok (regionId, region) ↔
      event.regionId = some regionId ∧ event.region = some region := by
  unfold InFlightEnvironmentEvent.namedRegion
  split <;> grind

@[simp] theorem holdsRegion_eq_false {regionId : String} {regions : List (Region3D F)} :
    holdsRegion regionId regions = false ↔ ∀ item ∈ regions, item.regionId ≠ regionId := by
  simp [holdsRegion]

theorem replaceNamed_eq_ok {values replaced : List (Region3D F)} {regionId : String}
    {region : Region3D F} (done : replaceNamed values regionId region = .ok replaced) :
    ∃ first old last, values = first ++ old :: last ∧ old.regionId = regionId ∧
      (∀ item ∈ first ++ last, item.regionId ≠ regionId) ∧ replaced = first ++ region :: last := by
  unfold replaceNamed at done
  split at done
  case h_1 index one =>
    obtain ⟨first, old, last, equal, own, others, set⟩ := Keyed.split_of_positions one region
    cases done
    exact ⟨first, old, last, equal, by simpa using own, by simpa using others, set⟩
  case h_2 => cases done

theorem InFlightEnvironmentEvent.RegionNamed.own {regionId : String} {region : Region3D F}
    (named : event.RegionNamed) (putsRegion : event.kind.putsRegion = true)
    (names : event.regionId = some regionId) (puts : event.region = some region) :
    region.regionId = regionId := by
  simpa [names, puts] using named putsRegion

/-- What an accepted event did to the two lists. -/
inductive Edited (environment : EnvironmentConstraints F) (event : InFlightEnvironmentEvent F) :
    EnvironmentConstraints F → Prop
  | added (regionId : String) (region : Region3D F) (kind : event.kind = .obstacleAdded)
      (names : event.regionId = some regionId) (puts : event.region = some region)
      (fresh : ∀ item ∈ environment.keepOutRegions ++ environment.requiredCorridors,
        item.regionId ≠ regionId) :
      Edited environment event
        { environment with keepOutRegions := environment.keepOutRegions ++ [region] }
  | moved (regionId : String) (region old : Region3D F) (first last : List (Region3D F))
      (kind : event.kind = .obstacleMoved)
      (names : event.regionId = some regionId) (puts : event.region = some region)
      (solids : environment.keepOutRegions = first ++ old :: last) (own : old.regionId = regionId)
      (others : ∀ item ∈ first ++ last, item.regionId ≠ regionId) :
      Edited environment event { environment with keepOutRegions := first ++ region :: last }
  | removed (regionId : String) (kind : event.kind = .obstacleRemoved)
      (names : event.regionId = some regionId)
      (known : ¬∀ item ∈ environment.keepOutRegions, item.regionId ≠ regionId) :
      Edited environment event
        { environment with
          keepOutRegions := Keyed.without Region3D.regionId regionId environment.keepOutRegions }
  | closed (regionId : String) (region : Region3D F) (kind : event.kind = .passageClosed)
      (names : event.regionId = some regionId) (puts : event.region = some region)
      (fresh : ∀ item ∈ environment.keepOutRegions, item.regionId ≠ regionId) :
      Edited environment event
        { environment with
          keepOutRegions := environment.keepOutRegions ++ [region]
          requiredCorridors :=
            Keyed.without Region3D.regionId regionId environment.requiredCorridors }
  | opened (regionId : String) (region : Region3D F) (kind : event.kind = .passageOpened)
      (names : event.regionId = some regionId) (puts : event.region = some region)
      (fresh : ∀ item ∈ environment.requiredCorridors, item.regionId ≠ regionId) :
      Edited environment event
        { environment with
          keepOutRegions := Keyed.without Region3D.regionId regionId environment.keepOutRegions
          requiredCorridors := environment.requiredCorridors ++ [region] }
  | kept (kind : event.kind = .peerTrajectoryUpdated ∨ event.kind = .positionUncertaintyChanged) :
      Edited environment event environment

theorem edited_of_accepted (accepted : environmentAfterEvent environment event = .ok after) :
    Edited environment event after := by
  unfold environmentAfterEvent at accepted
  cases kind : event.kind with
  | obstacleAdded =>
    simp only [kind, bind_eq_ok, Prod.exists, namedRegion_eq_ok, require_eq_ok] at accepted
    obtain ⟨regionId, region, ⟨names, puts⟩, _, fresh, done⟩ := accepted
    cases done
    exact .added regionId region kind names puts (by simpa using fresh)
  | obstacleMoved =>
    simp only [kind, bind_eq_ok, Prod.exists, namedRegion_eq_ok] at accepted
    obtain ⟨regionId, region, ⟨names, puts⟩, solids, replaced, done⟩ := accepted
    obtain ⟨first, old, last, equal, own, others, rfl⟩ := replaceNamed_eq_ok replaced
    cases done
    exact .moved regionId region old first last kind names puts equal own others
  | obstacleRemoved =>
    cases names : event.regionId with
    | none => simp [kind, names] at accepted
    | some regionId =>
      simp only [kind, names, bind_eq_ok, require_eq_ok, bne_iff_ne, ne_eq,
        Keyed.length_without_eq_iff] at accepted
      obtain ⟨_, known, done⟩ := accepted
      cases done
      exact .removed regionId kind names known
  | passageClosed =>
    simp only [kind, bind_eq_ok, Prod.exists, namedRegion_eq_ok, require_eq_ok] at accepted
    obtain ⟨regionId, region, ⟨names, puts⟩, _, fresh, done⟩ := accepted
    cases done
    exact .closed regionId region kind names puts (by simpa using fresh)
  | passageOpened =>
    simp only [kind, bind_eq_ok, Prod.exists, namedRegion_eq_ok, require_eq_ok] at accepted
    obtain ⟨regionId, region, ⟨names, puts⟩, _, fresh, done⟩ := accepted
    cases done
    exact .opened regionId region kind names puts (by simpa using fresh)
  | peerTrajectoryUpdated =>
    simp only [kind] at accepted
    cases accepted
    exact .kept (.inl kind)
  | positionUncertaintyChanged =>
    simp only [kind] at accepted
    cases accepted
    exact .kept (.inr kind)

namespace EnvironmentConstraints

/-- The ids of the keep-out regions and of the required corridors. -/
def regionIds (environment : EnvironmentConstraints F) : List String :=
  (environment.keepOutRegions ++ environment.requiredCorridors).map Region3D.regionId

/-- Nothing changes but the regions under the name; the others stay in order. -/
def SameBut (named : Option String) (before after : EnvironmentConstraints F) : Prop :=
  match named with
  | none => after = before
  | some regionId =>
    Keyed.without Region3D.regionId regionId after.keepOutRegions =
      Keyed.without Region3D.regionId regionId before.keepOutRegions ∧
    Keyed.without Region3D.regionId regionId after.requiredCorridors =
      Keyed.without Region3D.regionId regionId before.requiredCorridors

end EnvironmentConstraints

/-- An accepted event leaves every other region alone exactly when the region it puts in, if it
puts one in, goes by the name of the event. -/
theorem Edited.sameBut_iff (edited : Edited environment event after) :
    environment.SameBut event.regionId after ↔ event.RegionNamed := by
  cases edited with
  | added regionId region kind names puts _ =>
    simp [EnvironmentConstraints.SameBut, InFlightEnvironmentEvent.RegionNamed,
      DynamicEventKind.putsRegion, kind, names, puts, Keyed.without_append_singleton_eq_iff,
      -Keyed.without_append]
  | moved regionId region old first last kind names puts solids own _ =>
    have shown : Keyed.without Region3D.regionId regionId (first ++ region :: last) =
        Keyed.without Region3D.regionId regionId (first ++ old :: last) ↔
          region.regionId = regionId := by
      by_cases same : region.regionId = regionId <;> simp [same, own]
    simp [EnvironmentConstraints.SameBut, InFlightEnvironmentEvent.RegionNamed,
      DynamicEventKind.putsRegion, kind, names, puts, solids, shown, -Keyed.without_append]
  | removed regionId kind names _ =>
    simp [EnvironmentConstraints.SameBut, InFlightEnvironmentEvent.RegionNamed,
      DynamicEventKind.putsRegion, kind, names]
  | closed regionId region kind names puts _ =>
    simp [EnvironmentConstraints.SameBut, InFlightEnvironmentEvent.RegionNamed,
      DynamicEventKind.putsRegion, kind, names, puts, Keyed.without_append_singleton_eq_iff,
      -Keyed.without_append]
  | opened regionId region kind names puts _ =>
    simp [EnvironmentConstraints.SameBut, InFlightEnvironmentEvent.RegionNamed,
      DynamicEventKind.putsRegion, kind, names, puts, Keyed.without_append_singleton_eq_iff,
      -Keyed.without_append]
  | kept kind =>
    have quiet : event.kind.putsRegion = false := by
      rcases kind with kind | kind <;> simp [kind, DynamicEventKind.putsRegion]
    cases names : event.regionId <;>
      simp [EnvironmentConstraints.SameBut, InFlightEnvironmentEvent.RegionNamed, quiet, names]

/-- The name of an event whose region goes by it is given at most once afterwards. -/
theorem Edited.count_le_one (edited : Edited environment event after)
    (distinct : environment.regionIds.Nodup) (named : event.RegionNamed) {regionId : String}
    (names : event.regionId = some regionId) : after.regionIds.count regionId ≤ 1 := by
  have once := List.nodup_iff_count_le_one.mp distinct regionId
  simp only [EnvironmentConstraints.regionIds, List.map_append, List.count_append] at once ⊢
  cases edited with
  | added named' region kind names' puts fresh =>
    obtain rfl : regionId = named' := by simpa [names] using names'
    simp only [List.forall_mem_append] at fresh
    have own := named.own (by simp [kind, DynamicEventKind.putsRegion]) names puts
    simp [Keyed.count_map_of_absent fresh.1, Keyed.count_map_of_absent fresh.2, own]
  | moved named' region old first last kind names' puts solids own' others =>
    obtain rfl : regionId = named' := by simpa [names] using names'
    have own := named.own (by simp [kind, DynamicEventKind.putsRegion]) names puts
    simpa [solids, own, own'] using once
  | removed named' kind names' _ =>
    obtain rfl : regionId = named' := by simpa [names] using names'
    simp only [Keyed.count_map_without]
    omega
  | closed named' region kind names' puts fresh =>
    obtain rfl : regionId = named' := by simpa [names] using names'
    have own := named.own (by simp [kind, DynamicEventKind.putsRegion]) names puts
    simp [Keyed.count_map_of_absent fresh, own]
  | opened named' region kind names' puts fresh =>
    obtain rfl : regionId = named' := by simpa [names] using names'
    have own := named.own (by simp [kind, DynamicEventKind.putsRegion]) names puts
    simp [Keyed.count_map_of_absent fresh, own]
  | kept _ => exact once

/-- An accepted event whose region goes by its own name keeps the ids apart. -/
theorem Edited.regionIds_nodup (edited : Edited environment event after)
    (distinct : environment.regionIds.Nodup) (named : event.RegionNamed) :
    after.regionIds.Nodup := by
  have same := edited.sameBut_iff.mpr named
  cases names : event.regionId with
  | none =>
    rw [names] at same
    exact same ▸ distinct
  | some regionId =>
    rw [names] at same
    have others := ((Keyed.nodup_map_iff regionId).mp distinct).1
    refine (Keyed.nodup_map_iff regionId).mpr ⟨?_, edited.count_le_one distinct named names⟩
    rw [Keyed.without_append, same.1, same.2, ← Keyed.without_append]
    exact others

/-- What an addition under its own name put in is taken out again by the removal of that name. -/
theorem Edited.removal_restores (edited : Edited environment event after)
    (named : event.RegionNamed) (kind : event.kind = .obstacleAdded)
    {removal : InFlightEnvironmentEvent F} (removes : removal.kind = .obstacleRemoved)
    (sameName : removal.regionId = event.regionId) :
    environmentAfterEvent after removal = .ok environment := by
  cases edited with
  | added regionId region _ names puts fresh =>
    have own := named.own (by simp [kind, DynamicEventKind.putsRegion]) names puts
    simp only [List.forall_mem_append] at fresh
    have restored : Keyed.without Region3D.regionId regionId (environment.keepOutRegions ++ [region]) =
        environment.keepOutRegions := by
      simp [own, Keyed.without_of_absent fresh.1]
    simp [environmentAfterEvent, removes, sameName, names, restored, require]
  | kept other => simp [kind] at other
  | _ => simp_all

/-- Each event of the sequence keeps the ids apart and changes the region it names alone, and the
removal of the same name undoes an addition. -/
def EditsScoped (environment : EnvironmentConstraints F)
    (events : List (InFlightEnvironmentEvent F)) : Prop :=
  ∀ first event later before after, events = first ++ event :: later →
    first.foldlM environmentAfterEvent environment = .ok before →
    environmentAfterEvent before event = .ok after →
    after.regionIds.Nodup ∧ before.SameBut event.regionId after ∧
    (event.kind = .obstacleAdded → ∀ removal : InFlightEnvironmentEvent F,
      removal.kind = .obstacleRemoved → removal.regionId = event.regionId →
      environmentAfterEvent after removal = .ok before)

/-- Events whose regions go by their names keep the ids apart, one after the other. -/
theorem regionIds_nodup_after {events : List (InFlightEnvironmentEvent F)}
    (distinct : environment.regionIds.Nodup) (named : ∀ event ∈ events, event.RegionNamed)
    (accepted : events.foldlM environmentAfterEvent environment = .ok after) :
    after.regionIds.Nodup := by
  induction events generalizing environment with
  | nil =>
    cases accepted
    exact distinct
  | cons event events ih =>
    rw [List.foldlM_cons] at accepted
    obtain ⟨next, step, rest⟩ := bind_eq_ok.mp accepted
    have here := (edited_of_accepted step).regionIds_nodup distinct (named event (by simp))
    exact ih here (fun event member => named event (by simp [member])) rest

/-- The edits of an accepted sequence are well scoped exactly when every region that an event puts
in carries the id that the event names. -/
theorem edits_scoped_iff (environment after : EnvironmentConstraints F)
    (events : List (InFlightEnvironmentEvent F)) (distinct : environment.regionIds.Nodup)
    (accepted : events.foldlM environmentAfterEvent environment = .ok after) :
    EditsScoped environment events ↔ ∀ event ∈ events, event.RegionNamed := by
  constructor
  · intro apart event member
    obtain ⟨first, later, rfl⟩ := List.append_of_mem member
    rw [List.foldlM_append] at accepted
    obtain ⟨before, reached, rest⟩ := bind_eq_ok.mp accepted
    rw [List.foldlM_cons] at rest
    obtain ⟨next, step, _⟩ := bind_eq_ok.mp rest
    have same := (apart first event later before next rfl reached step).2.1
    exact (edited_of_accepted step).sameBut_iff.mp same
  · rintro named first event later before next rfl reached step
    have distinctBefore := regionIds_nodup_after distinct
      (fun event member => named event (by simp [member])) reached
    have eventNamed := named event (by simp)
    have edited := edited_of_accepted step
    refine ⟨edited.regionIds_nodup distinctBefore eventNamed, edited.sameBut_iff.mpr eventNamed, ?_⟩
    intro kind removal removes sameName
    exact edited.removal_restores eventNamed kind removes sameName

end Edits

section Crate

/-- A box of the size of the crate. -/
def box (regionId : String) (x : ℚ) : Region3D ℚ := ⟨regionId, ⟨x, 0, 0⟩, ⟨x + 1, 1, 1⟩⟩

/-- An addition under the name `crate`. -/
def addCrate (ownId : String) : InFlightEnvironmentEvent ℚ where
  eventId := "event-1"
  kind := .obstacleAdded
  sourceId := "tower"
  sequence := 1
  sourceTimestampS := 1
  receivedSourceS := 1
  effectiveSourceS := 2
  affectedRoleIds := ["alpha"]
  regionId := some "crate"
  region := some (box ownId 3)

def walls : EnvironmentConstraints ℚ := { keepOutRegions := [box "wall" 0] }

theorem edits_scoped_iff_crate :
    EditsScoped walls [addCrate "crate"] ↔ ∀ event ∈ [addCrate "crate"], event.RegionNamed :=
  edits_scoped_iff walls { keepOutRegions := [box "wall" 0, box "crate" 3] } [addCrate "crate"]
    (by decide) rfl

/-- A well-formed addition of a crate whose region goes by the name of the wall is accepted, and
two solids go by that name. -/
theorem crate_named_wall :
    walls.regionIds.Nodup ∧ (addCrate "wall").payloadMatchesKind = .ok () ∧
      [addCrate "wall"].foldlM environmentAfterEvent walls =
        .ok { keepOutRegions := [box "wall" 0, box "wall" 3] } ∧
      ¬EditsScoped walls [addCrate "wall"] := by
  refine ⟨by decide, by decide, rfl, ?_⟩
  intro apart
  have distinct := (apart [] (addCrate "wall") [] walls
    { keepOutRegions := [box "wall" 0, box "wall" 3] } rfl rfl rfl).1
  revert distinct
  decide

end Crate

end CrazySwarm
