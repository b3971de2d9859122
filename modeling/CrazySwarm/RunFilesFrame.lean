import CrazySwarm.RunFiles

/-! What materializing one mission leaves of the archive of another. The name of a folder does not
tell two mission executions apart. -/
namespace CrazySwarm.EvidenceStore

variable {E X A C : Type} {writers : ArchiveWriters E X A C} {store : EvidenceStore E X A C}
  {name id other : String} {folder : RunFileFolder C} {manifest : Manifest}

section Statement

/-- As many completed missions as are kept come before the one in the folder, or with it. -/
def Retired (store : EvidenceStore E X A C) (name : String) (manifest : Manifest) : Prop :=
  store.keepLatestMissions ≤ store.completed.countP fun item =>
    item.1 ≠ name ∧ manifestOrder (name, manifest) ≤ manifestOrder item

structure Apart (writers : ArchiveWriters E X A C) (store : EvidenceStore E X A C)
    (id name other : String) : Prop where
  folder : store.currentFolder id = none →
    ∀ first ∈ (store.missionRows id).head?, expectedFolder writers id first ≠ name
  retained : (∃ row ∈ store.runs, row.missionExecutionId = other) ∨
    ∃ row ∈ store.runs, row.missionExecutionId = id ∧ row.statusText = "INCOMPLETE"

end Statement

section Frames

/-- A step beside the folder: it touches neither that nor the runs. -/
structure Beside (name : String) (before after : EvidenceStore E X A C) : Prop where
  folder : after.folders.get? name = before.folders.get? name
  runs : after.runs = before.runs
  keep : after.keepLatestMissions = before.keepLatestMissions

theorem Beside.refl (name : String) (store : EvidenceStore E X A C) : Beside name store store :=
  ⟨rfl, rfl, rfl⟩

theorem Beside.trans {first second third : EvidenceStore E X A C} (left : Beside name first second)
    (right : Beside name second third) : Beside name first third :=
  ⟨right.folder.trans left.folder, right.runs.trans left.runs, right.keep.trans left.keep⟩

theorem beside_changeFolder (change : RunFileFolder C → RunFileFolder C) (apart : other ≠ name) :
    Beside name store (store.changeFolder other change) := by
  refine ⟨?_, rfl, rfl⟩
  rw [changeFolder]
  cases store.folders.get? other with
  | none => rfl
  | some folder => exact Dict.get?_insert_of_ne _ _ apart

theorem beside_makeFolder (apart : other ≠ name) : Beside name store (store.makeFolder other) := by
  rw [makeFolder]
  split
  · exact .refl name store
  · exact ⟨Dict.get?_insert_of_ne _ _ apart, rfl, rfl⟩

theorem beside_renameFolder {current expected : String} (apart : current ≠ name)
    (elsewhere : expected ≠ name) : Beside name store (store.renameFolder current expected) := by
  rw [renameFolder]
  cases store.folders.get? current with
  | none => exact .refl name store
  | some folder =>
    refine ⟨?_, rfl, rfl⟩
    rw [Dict.get?_insert_of_ne _ _ elsewhere, Dict.get?_erase, if_neg apart]

theorem beside_writeFile (filename : String) (content : C) (apart : other ≠ name) :
    Beside name store (store.writeFile other filename content) :=
  beside_changeFolder _ apart

theorem changeFolder_get? {change : RunFileFolder C → RunFileFolder C} :
    (store.changeFolder name change).folders.get? name = (store.folders.get? name).map change := by
  rw [changeFolder]
  cases present : store.folders.get? name with
  | none => simpa using present
  | some folder => simp

theorem makeFolder_isSome : ((store.makeFolder name).folders.get? name).isSome = true := by
  rw [makeFolder]
  split
  · assumption
  · simp

end Frames

section Listing

theorem mem_manifests {item : String × Manifest} : item ∈ store.manifests ↔
    ∃ folder, store.folders.get? item.1 = some folder ∧ folder.manifest = some item.2 ∧
      item.2.missionExecutionId.isSome = true := by
  obtain ⟨name, manifest⟩ := item
  simp only [manifests, List.mem_reverse, Sorting.mem_sortBy, List.mem_filterMap,
    Option.map_eq_some_iff, Option.filter_eq_some_iff, Prod.mk.injEq, Prod.exists,
    Dict.get?_eq_some_iff]
  constructor
  · rintro ⟨name, folder, listed, manifest, ⟨read, named⟩, rfl, rfl⟩
    exact ⟨folder, listed, read, named⟩
  · rintro ⟨folder, listed, read, named⟩
    exact ⟨name, folder, listed, manifest, ⟨read, named⟩, rfl, rfl⟩

theorem manifests_nodup (store : EvidenceStore E X A C) : (store.manifests.map (·.1)).Nodup := by
  have names : ∀ items : List (String × RunFileFolder C),
      ((items.filterMap fun item =>
        (item.2.manifest.filter (·.missionExecutionId.isSome)).map (item.1, ·)).map (·.1)).Sublist
          (items.map (·.1)) := by
    intro items
    induction items with
    | nil => exact .slnil
    | cons item rest ih =>
      obtain ⟨name, folder⟩ := item
      cases read : folder.manifest.filter (·.missionExecutionId.isSome) with
      | none => simpa [read] using ih.cons name
      | some manifest => simpa [read] using ih.cons_cons name
  have listed := store.folders.nodup.sublist (names store.folders.items)
  have sorted := (Sorting.sortBy_perm manifestOrder (store.folders.items.filterMap
    fun item =>
      (item.2.manifest.filter (·.missionExecutionId.isSome)).map (item.1, ·)).reverse).map (·.1)
  rw [manifests, List.map_reverse, List.nodup_reverse]
  refine sorted.nodup_iff.mpr ?_
  rwa [List.map_reverse, List.nodup_reverse]

theorem manifests_descending (store : EvidenceStore E X A C) :
    store.manifests.Pairwise fun a b => manifestOrder b ≤ manifestOrder a := by
  rw [manifests, List.pairwise_reverse]
  exact Sorting.sortBy_pairwise manifestOrder _

theorem retired_of_drop (dropped : (name, manifest) ∈ store.completed.drop store.keepLatestMissions) :
    store.Retired name manifest := by
  have counted := Sorting.le_countP_of_mem_drop manifestOrder Prod.fst
    (store.manifests_descending.sublist List.filter_sublist)
    (store.manifests_nodup.sublist (List.filter_sublist.map Prod.fst)) dropped
  exact counted

theorem currentFolder_some {current : String} (found : store.currentFolder id = some current) :
    ∃ folder manifest, store.folders.get? current = some folder ∧ folder.manifest = some manifest ∧
      manifest.missionExecutionId = some id := by
  obtain ⟨⟨name, manifest⟩, first, rfl⟩ := Option.map_eq_some_iff.mp found
  obtain ⟨folder, listed, read, -⟩ := mem_manifests.mp (List.mem_of_find?_eq_some first)
  exact ⟨folder, manifest, listed, read, by simpa using List.find?_some first⟩

end Listing

section Filing

theorem beside_missionFolder (writers : ArchiveWriters E X A C)
    (held : store.folders.get? name = some folder)
    (read : folder.manifest = some manifest) (named : manifest.missionExecutionId = some other)
    (distinct : other ≠ id) (first : RunRow) :
    Beside name store (store.missionFolder writers id first).1 ∧
      ((store.missionFolder writers id first).2 = name ↔
        store.currentFolder id = none ∧ expectedFolder writers id first = name) := by
  rw [missionFolder]
  cases found : store.currentFolder id with
  | none => simpa using Beside.refl name store
  | some current =>
    have apart : current ≠ name := by
      rintro rfl
      obtain ⟨own, itself, present, held', names⟩ := currentFolder_some found
      rw [held, Option.some.injEq] at present
      rw [← present, read, Option.some.injEq] at held'
      rw [← held', named, Option.some.injEq] at names
      exact distinct names
    dsimp only
    split_ifs with free
    · have elsewhere : expectedFolder writers id first ≠ name := by
        intro same
        rw [same, held] at free
        simp at free
      exact ⟨beside_renameFolder apart elsewhere, by simp [elsewhere]⟩
    · exact ⟨.refl name store, by simp [apart]⟩

theorem writeArtifact_cases {previous : Option ArtifactEntry} {first : RunRow} {rest : List RunRow}
    {written : EvidenceStore E X A C} {entry : ArtifactEntry}
    (result : store.writeArtifact writers name previous first rest = .ok (written, entry)) :
    written = store ∨ ∃ filename content, written = store.writeFile name filename content := by
  rw [writeArtifact] at result
  cases made : writers.telemetryCsv (first :: rest) (store.missionEvents (first :: rest)) with
  | error error => simp [made, bind, Except.bind] at result
  | ok csv =>
    simp only [made, bind, Except.bind, pure, Except.pure] at result
    split_ifs at result
    · injection result with result
      injection result with same
      exact .inl same.symm
    · injection result with result
      injection result with same
      exact .inr ⟨_, _, same.symm⟩

theorem beside_writeArtifact {previous : Option ArtifactEntry} {first : RunRow} {rest : List RunRow}
    {written : EvidenceStore E X A C} {entry : ArtifactEntry} (apart : other ≠ name)
    (result : store.writeArtifact writers other previous first rest = .ok (written, entry)) :
    Beside name store written := by
  rcases writeArtifact_cases result with rfl | ⟨filename, content, rfl⟩
  · exact .refl name written
  · exact beside_writeFile _ _ apart

theorem beside_fillFolder (first : RunRow) (rest : List RunRow) (apart : other ≠ name) :
    Beside name store (store.fillFolder writers id other first rest).1 := by
  have made : Beside name store (store.makeFolder other) := beside_makeFolder apart
  rw [fillFolder]
  dsimp only
  split
  · exact made
  · rename_i written artifact result
    have wrote : Beside name store written := by
      split_ifs at result
      · injection result with result
        injection result with same
        exact same ▸ made
      · exact made.trans (beside_writeArtifact apart result)
    split
    · exact wrote
    · exact wrote.trans ((beside_writeFile _ _ apart).trans ((beside_writeFile _ _ apart).trans
        ((beside_changeFolder _ apart).trans (beside_changeFolder _ apart))))

end Filing

section Filled

theorem changeFolder_isSome {change : RunFileFolder C → RunFileFolder C} :
    ((store.changeFolder name change).folders.get? name).isSome =
      (store.folders.get? name).isSome := by
  rw [changeFolder_get?, Option.isSome_map]

theorem writeArtifact_isSome {previous : Option ArtifactEntry} {first : RunRow} {rest : List RunRow}
    {written : EvidenceStore E X A C} {entry : ArtifactEntry}
    (present : (store.folders.get? name).isSome = true)
    (result : store.writeArtifact writers name previous first rest = .ok (written, entry)) :
    (written.folders.get? name).isSome = true := by
  rcases writeArtifact_cases result with rfl | ⟨filename, content, rfl⟩
  · exact present
  · rw [writeFile, changeFolder_isSome, present]

theorem fillFolder_ok {first : RunRow} {rest : List RunRow} {returned : Manifest}
    (result : (store.fillFolder writers id name first rest).2 = .ok returned) :
    returned.missionExecutionId = some id ∧
      returned.status = missionStatus ((first :: rest).map (·.statusText)) ∧
        ∃ folder, (store.fillFolder writers id name first rest).1.folders.get? name = some folder ∧
          folder.manifest = some returned := by
  rw [fillFolder] at result ⊢
  dsimp only at result ⊢
  split at result
  · contradiction
  · rename_i filled written artifact wrote
    have present : (written.folders.get? name).isSome = true := by
      split_ifs at wrote
      · injection wrote with wrote
        injection wrote with same
        exact same ▸ makeFolder_isSome
      · exact writeArtifact_isSome makeFolder_isSome wrote
    split at result
    · contradiction
    · injection result with result
      subst result
      obtain ⟨folder, held⟩ := Option.isSome_iff_exists.mp present
      refine ⟨rfl, rfl, ?_⟩
      simp only [removeSupersededCsvs, writeManifest, writeFile, changeFolder_get?, held,
        Option.map_some]
      exact ⟨_, rfl, rfl⟩

theorem missionStatus_incomplete {statuses : List String} :
    missionStatus statuses = "INCOMPLETE" ↔ "INCOMPLETE" ∈ statuses := by
  rw [missionStatus]
  split_ifs with incomplete failed aborted
  · simpa using incomplete
  · simpa using incomplete
  · simpa using incomplete
  · simpa using incomplete

theorem mem_missionRows {row : RunRow} :
    row ∈ store.missionRows id ↔ row ∈ store.runs ∧ row.missionExecutionId = id := by
  simp [missionRows]

end Filled

section Pruning

theorem get?_removeFolders (names : List String) :
    (names.foldl removeFolder store).folders.get? name =
      if name ∈ names then none else store.folders.get? name := by
  induction names generalizing store with
  | nil => simp
  | cons first names ih =>
    rw [List.foldl_cons, ih, removeFolder, Dict.get?_erase]
    by_cases same : first = name
    · simp [same]
    · simp [same, Ne.symm same]

theorem pruneRunFileFolders_get? (held : store.folders.get? name = some folder)
    (read : folder.manifest = some manifest) (named : manifest.missionExecutionId = some other)
    (recent : ¬store.Retired name manifest) :
    store.pruneRunFileFolders.folders.get? name = some folder ↔
      ∃ row ∈ store.runs, row.missionExecutionId = other := by
  have listed : (name, manifest) ∈ store.manifests :=
    mem_manifests.mpr ⟨folder, held, read, by simp [named]⟩
  have retained : store.isRetained manifest = true ↔
      ∃ row ∈ store.runs, row.missionExecutionId = other := by
    simp only [isRetained, named, List.any_eq_true, decide_eq_true_eq, Option.some.injEq]
    constructor
    · rintro ⟨row, among, same⟩
      exact ⟨row, among, same.symm⟩
    · rintro ⟨row, among, same⟩
      exact ⟨row, among, same.symm⟩
  have selected : name ∈ ((store.manifests.filter fun item => !store.isRetained item.2) ++
      store.completed.drop store.keepLatestMissions).map (·.1) ↔ store.isRetained manifest = false := by
    constructor
    · intro removed
      obtain ⟨⟨own, found⟩, among, itsName⟩ := List.mem_map.mp removed
      have only : ∀ item ∈ store.manifests, item.1 = name → item.2 = manifest := by
        rintro ⟨_, shown⟩ among rfl
        obtain ⟨itself, present, shows, -⟩ := mem_manifests.mp among
        rw [held, Option.some.injEq] at present
        rw [← present, read, Option.some.injEq] at shows
        exact shows.symm
      obtain orphaned | dropped := List.mem_append.mp among
      · obtain ⟨listed, orphaned⟩ := List.mem_filter.mp orphaned
        have same := only _ listed itsName
        dsimp only at same
        simpa [same] using orphaned
      · have listed := (List.mem_filter.mp (List.mem_of_mem_drop dropped)).1
        have same := only _ listed itsName
        dsimp only at same itsName
        rw [same, itsName] at dropped
        exact absurd (retired_of_drop dropped) recent
    · intro orphaned
      refine List.mem_map.mpr ⟨(name, manifest), List.mem_append_left _ ?_, rfl⟩
      exact List.mem_filter.mpr ⟨listed, by simpa using orphaned⟩
  rw [pruneRunFileFolders, get?_removeFolders, ← retained]
  by_cases orphaned : store.isRetained manifest = false
  · rw [if_pos (selected.mpr orphaned), orphaned]
    simp
  · rw [if_neg (fun among => orphaned (selected.mp among)), held]
    simpa using orphaned

end Pruning

section Materializing

/-- A mission that cannot be found or written leaves the other folder as well. -/
theorem beside_fileMission (held : store.folders.get? name = some folder)
    (read : folder.manifest = some manifest) (named : manifest.missionExecutionId = some other)
    (distinct : other ≠ id) (apart : store.currentFolder id = none →
      ∀ first ∈ (store.missionRows id).head?, expectedFolder writers id first ≠ name) :
    Beside name store (store.fileMission writers id).1 := by
  rw [fileMission]
  cases rows : store.missionRows id with
  | nil => exact .refl name store
  | cons first rest =>
    obtain ⟨beside, chosen⟩ := beside_missionFolder writers held read named distinct first
    refine beside.trans (beside_fillFolder first rest fun same => ?_)
    obtain ⟨absent, expected⟩ := chosen.mp same
    exact apart absent first (by simp [rows]) expected

theorem fileMission_ok {returned : Manifest}
    (result : (store.fileMission writers id).2 = .ok returned) :
    returned.missionExecutionId = some id ∧ (returned.status = "INCOMPLETE" ↔
        ∃ row ∈ store.runs, row.missionExecutionId = id ∧ row.statusText = "INCOMPLETE") ∧
      ∃ first folder, (store.missionRows id).head? = some first ∧
        (store.fileMission writers id).1.folders.get? (store.missionFolder writers id first).2 =
          some folder ∧ folder.manifest = some returned := by
  rw [fileMission] at result ⊢
  cases rows : store.missionRows id with
  | nil => simp [rows] at result
  | cons first rest =>
    rw [rows] at result
    obtain ⟨identity, status, folder, held, written⟩ := fillFolder_ok result
    refine ⟨identity, ?_, first, folder, rfl, held, written⟩
    rw [status, missionStatus_incomplete, ← rows, List.mem_map]
    constructor
    · rintro ⟨row, among, incomplete⟩
      obtain ⟨stored, same⟩ := mem_missionRows.mp among
      exact ⟨row, stored, same, incomplete⟩
    · rintro ⟨row, stored, same, incomplete⟩
      exact ⟨row, mem_missionRows.mpr ⟨stored, same⟩, incomplete⟩

theorem materializeMission_error {error : ArchiveError}
    (result : (store.fileMission writers id).2 = .error error) :
    store.materializeMission writers id = ((store.fileMission writers id).1, .error error) := by
  rw [materializeMission]
  split
  · rename_i failed raised same
    rw [same] at result ⊢
    injection result with result
    rw [result]
  · rename_i filed returned same
    rw [same] at result
    contradiction

theorem materializeMission_folders {returned : Manifest}
    (result : (store.fileMission writers id).2 = .ok returned) :
    (store.materializeMission writers id).1.folders =
      if returned.status = "INCOMPLETE" then (store.fileMission writers id).1.folders
      else (store.fileMission writers id).1.pruneRunFileFolders.folders := by
  rw [materializeMission]
  split
  · rename_i failed raised same
    rw [same] at result
    contradiction
  · rename_i filed found same
    rw [same] at result ⊢
    injection result with result
    subst result
    split_ifs <;> rfl

/-- The folder of another mission that is not retired stays as it is when the folder of the mission
is another and the other one is still in the database. When a manifest is returned it stays in no
other case. -/
theorem materializeMission_leaves_iff (held : store.folders.get? name = some folder)
    (read : folder.manifest = some manifest) (named : manifest.missionExecutionId = some other)
    (distinct : other ≠ id) (recent : ¬(store.fileMission writers id).1.Retired name manifest) :
    (Apart writers store id name other →
        (store.materializeMission writers id).1.folders.get? name = some folder) ∧
      ((store.materializeMission writers id).2.isOk = true →
        (store.materializeMission writers id).1.folders.get? name = some folder →
          Apart writers store id name other) := by
  cases result : (store.fileMission writers id).2 with
  | error error =>
    rw [materializeMission_error result]
    refine ⟨fun apart => ?_, by simp [Except.isOk, Except.toBool]⟩
    exact (beside_fileMission held read named distinct apart.folder).folder.trans held
  | ok returned =>
    obtain ⟨identity, status, first, own, head, present, written⟩ := fileMission_ok result
    rw [materializeMission_folders result]
    constructor
    · rintro ⟨apart, retained⟩
      have beside := beside_fileMission held read named distinct apart
      have still := beside.folder.trans held
      split_ifs with incomplete
      · exact still
      · refine (pruneRunFileFolders_get? still read named recent).mpr ?_
        rw [beside.runs]
        exact retained.resolve_right fun running => incomplete (status.mpr running)
    · intro _ stays
      have still : (store.fileMission writers id).1.folders.get? name = some folder := by
        split_ifs at stays with incomplete
        · exact stays
        · rw [pruneRunFileFolders, get?_removeFolders] at stays
          split_ifs at stays
          exact stays
      have apart : store.currentFolder id = none →
          ∀ first ∈ (store.missionRows id).head?, expectedFolder writers id first ≠ name := by
        intro absent found among expected
        rw [head, Option.mem_some_iff] at among
        subst among
        have chosen := (beside_missionFolder writers held read named distinct first).2.mpr ⟨absent, expected⟩
        rw [chosen, still, Option.some.injEq] at present
        rw [← present, read, Option.some.injEq] at written
        rw [← written, named, Option.some.injEq] at identity
        exact distinct identity
      refine ⟨apart, ?_⟩
      split_ifs at stays with incomplete
      · exact .inr (status.mp incomplete)
      · have beside := beside_fileMission held read named distinct apart
        exact .inl (beside.runs ▸ (pruneRunFileFolders_get? still read named recent).mp stays)

end Materializing

section Collision

/-- A start in UTC, as `isoformat` writes it. -/
def isoToken (startedAtUtc : String) : String :=
  String.ofList ((startedAtUtc.toList.take 19).filter fun c => c ≠ '-' && c ≠ ':') ++ "Z"

def plainWriters : ArchiveWriters Nat Nat Nat String where
  lower text := String.ofList (text.toList.map Char.toLower)
  utcToken := isoToken
  telemetryCsv _ _ := .ok ("", 0)
  reports missionExecutionId _ _ _ _ := .ok (missionExecutionId, missionExecutionId)
  isTelemetry _ := true
  size content := content.length
  sha256 content := content

def flightRow (missionExecutionId : String) : RunRow where
  runId := missionExecutionId
  missionExecutionId
  missionId := "survey"
  vehicleId := "sim01"
  startedAtUtc := "2026-08-08T12:00:00+00:00"
  completedAtUtc := some "2026-08-08T12:05:00+00:00"
  status := some "SUCCEEDED"

def flightFolder (missionExecutionId : String) : RunFileFolder String where
  manifest := some
    { missionExecutionId, startedAtUtc := "2026-08-08T12:00:00+00:00", status := "SUCCEEDED" }

/-- Two missions that have ended, and the folder of the first. -/
def flights (first second : String) : EvidenceStore Nat Nat Nat String where
  runs := [flightRow first, flightRow second]
  folders := Dict.empty.insert (expectedFolder plainWriters first (flightRow first)) (flightFolder first)

/-- The folders of two flights whose names stay apart. -/
theorem materializeMission_leaves_flight :
    (Apart plainWriters (flights "flight-1" "flight-2") "flight-2" "20260808T120000Z_survey_flight-1"
        "flight-1" →
      ((flights "flight-1" "flight-2").materializeMission plainWriters "flight-2").1.folders.get?
        "20260808T120000Z_survey_flight-1" = some (flightFolder "flight-1")) ∧
    (((flights "flight-1" "flight-2").materializeMission plainWriters "flight-2").2.isOk = true →
      ((flights "flight-1" "flight-2").materializeMission plainWriters "flight-2").1.folders.get?
        "20260808T120000Z_survey_flight-1" = some (flightFolder "flight-1") →
      Apart plainWriters (flights "flight-1" "flight-2") "flight-2" "20260808T120000Z_survey_flight-1"
        "flight-1") :=
  materializeMission_leaves_iff (by rfl) rfl rfl (by decide) (by unfold Retired; decide)

/-- A colon and an underscore give the same folder: the manifest of the first flight is lost. -/
theorem not_materializeMission_leaves :
    ¬ ∀ (writers : ArchiveWriters Nat Nat Nat String) (store : EvidenceStore Nat Nat Nat String)
      (id other name : String) (folder : RunFileFolder String) (manifest : Manifest),
      store.folders.get? name = some folder → folder.manifest = some manifest →
        manifest.missionExecutionId = some other → other ≠ id →
          ¬(store.fileMission writers id).1.Retired name manifest →
            (store.materializeMission writers id).1.folders.get? name = some folder := by
  intro leaves
  have kept := leaves plainWriters (flights "flight:1" "flight_1") "flight_1" "flight:1"
    "20260808T120000Z_survey_flight_1" (flightFolder "flight:1") _ (by rfl) rfl rfl (by decide)
    (by unfold Retired; decide)
  have lost : ((((flights "flight:1" "flight_1").materializeMission plainWriters "flight_1").1.folders.get?
      "20260808T120000Z_survey_flight_1").bind (·.manifest)).bind (·.missionExecutionId) =
        some "flight_1" := by decide
  rw [kept] at lost
  simp [flightFolder] at lost

end Collision

end CrazySwarm.EvidenceStore
