import Mathlib

/-! Paths against sets: when finitely many closed intervals cover a path, when a path visits some
sets in order, when it avoids a closed set, and when a smooth one stays between two bounds. -/
namespace Paths
open Set Filter Topology

section Cover

variable {α ι : Type} [ConditionallyCompleteLinearOrder α]
variable {s : Set ι} {pieces : ι → Set α} {a b : α}

/-- Where one of the pieces ends, another one takes over. -/
def HandsOver (s : Set ι) (pieces : ι → Set α) (a b : α) : Prop :=
  ∀ i ∈ s, ∀ x, IsGreatest (pieces i ∩ Icc a b) x → x < b →
    ∃ j ∈ s, x ∈ pieces j ∧ ∃ y ∈ Ioc x b, y ∈ pieces j

theorem HandsOver.goesOn (handsOver : HandsOver s pieces a b) {x : α} (inside : x ∈ Ico a b) {i : ι}
    (member : i ∈ s) (at_x : x ∈ pieces i) :
    ∃ j ∈ s, x ∈ pieces j ∧ ∃ y ∈ Ioc x b, y ∈ pieces j := by
  by_cases ends : ∃ y ∈ Ioc x b, y ∈ pieces i
  · exact ⟨i, member, at_x, ends⟩
  · apply handsOver i member x _ inside.2
    constructor
    · exact ⟨at_x, inside.1, inside.2.le⟩
    · rintro y ⟨at_y, between⟩
      by_contra! beyond
      exact ends ⟨y, ⟨beyond, between.2⟩, at_y⟩

variable [TopologicalSpace α] [OrderTopology α] [DenselyOrdered α]

theorem covers_of_handsOver (finite : s.Finite) (closed : ∀ i ∈ s, IsClosed (pieces i))
    (connected : ∀ i ∈ s, (pieces i).OrdConnected) (start : ∃ i ∈ s, a ∈ pieces i)
    (handsOver : HandsOver s pieces a b) : ∀ x ∈ Icc a b, ∃ i ∈ s, x ∈ pieces i := by
  have whole : IsClosed (⋃ i ∈ s, pieces i) := finite.isClosed_biUnion closed
  have covered : Icc a b ⊆ ⋃ i ∈ s, pieces i := by
    apply IsClosed.Icc_subset_of_forall_mem_nhdsWithin (whole.inter isClosed_Icc)
    · simpa using start
    · rintro x ⟨among, inside⟩
      obtain ⟨j, of_j, at_x⟩ : ∃ i ∈ s, x ∈ pieces i := by simpa using among
      obtain ⟨i, member, at_x, y, later, at_y⟩ := handsOver.goesOn inside of_j at_x
      have right : Ioc x y ∈ 𝓝[>] x := Ioc_mem_nhdsGT later.1
      refine mem_of_superset right fun z between => ?_
      exact mem_biUnion member
        ((connected i member).out at_x at_y ⟨between.1.le, between.2⟩)
  intro x inside
  simpa using covered inside

theorem handsOver_of_covers (finite : s.Finite) (closed : ∀ i ∈ s, IsClosed (pieces i))
    (covers : ∀ x ∈ Icc a b, ∃ i ∈ s, x ∈ pieces i) : HandsOver s pieces a b := by
  intro _ _ x ⟨⟨_, inside⟩, _⟩ before
  by_contra! stuck
  -- Near the point are only the pieces that it lies in, and none of them goes on.
  have away : (⋂ i ∈ {i ∈ s | x ∉ pieces i}, (pieces i)ᶜ) ∈ 𝓝 x := by
    refine (biInter_mem (finite.subset fun i member => member.1)).mpr fun i member => ?_
    exact (closed i member.1).isOpen_compl.mem_nhds member.2
  have right : Ioc x b ∈ 𝓝[>] x := Ioc_mem_nhdsGT before
  have := nhdsGT_neBot_of_exists_gt ⟨b, before⟩
  obtain ⟨y, near, later⟩ := this.nonempty_of_mem
    (inter_mem (mem_nhdsWithin_of_mem_nhds away) right)
  obtain ⟨i, member, at_y⟩ := covers y ⟨inside.1.trans later.1.le, later.2⟩
  by_cases at_x : x ∈ pieces i
  · exact stuck i member at_x y later at_y
  · exact mem_iInter₂.mp near i ⟨member, at_x⟩ at_y

/-- Finitely many closed intervals that cover the start of a path cover all of it exactly when one
takes over where another ends. -/
theorem covers_iff (finite : s.Finite) (closed : ∀ i ∈ s, IsClosed (pieces i))
    (connected : ∀ i ∈ s, (pieces i).OrdConnected) (start : ∃ i ∈ s, a ∈ pieces i) :
    (∀ x ∈ Icc a b, ∃ i ∈ s, x ∈ pieces i) ↔ HandsOver s pieces a b :=
  ⟨handsOver_of_covers finite closed, covers_of_handsOver finite closed connected start⟩

end Cover

section Visits

variable {P : Type} [LinearOrder P]

def Visits : P → List (Set P) → Prop
  | _, [] => True
  | p, goal :: rest => ∃ v ∈ goal, p ≤ v ∧ Visits v rest

/-- Some set lies wholly before the first arrival at the one before it. -/
def Overtaken : P → List (Set P) → Prop
  | _, [] => False
  | p, goal :: rest => (∀ v ∈ goal, v < p) ∨
      ∃ v, IsLeast {v ∈ goal | p ≤ v} v ∧ Overtaken v rest

theorem Visits.mono {p q : P} {goals : List (Set P)} (visits : Visits q goals) (earlier : p ≤ q) :
    Visits p goals := by
  cases goals with
  | nil => trivial
  | cons goal rest =>
    obtain ⟨v, member, later, rest⟩ := visits
    exact ⟨v, member, earlier.trans later, rest⟩

/-- Going to the first arrival each time misses nothing. By induction on the sets. -/
theorem visits_iff {goals : List (Set P)} (attained : ∀ goal ∈ goals, ∀ p, ∀ v ∈ goal, p ≤ v →
    ∃ least, IsLeast {v ∈ goal | p ≤ v} least) (p : P) : Visits p goals ↔ ¬Overtaken p goals := by
  induction goals generalizing p with
  | nil => simp [Visits, Overtaken]
  | cons goal rest ih =>
    have ih := ih fun other member => attained other (List.mem_cons_of_mem _ member)
    constructor
    · rintro ⟨v, member, later, visits⟩ (before | ⟨least, isLeast, overtaken⟩)
      · exact absurd later (not_le.mpr (before v member))
      · have first : least ≤ v := isLeast.2 ⟨member, later⟩
        exact (ih least).mp (visits.mono first) overtaken
    · intro free
      simp only [Overtaken, not_or, not_forall, not_lt, not_exists, not_and] at free
      obtain ⟨⟨v, member, later⟩, free⟩ := free
      obtain ⟨least, isLeast⟩ := attained goal List.mem_cons_self p v member later
      exact ⟨least, isLeast.1.1, isLeast.1.2, (ih least).mpr (free least isLeast)⟩

end Visits

section Avoids

variable {α X : Type} [TopologicalSpace α] [TopologicalSpace X] {s : Set α} {K border : Set X}
variable {path : α → X}

theorem avoids_iff (connected : IsPreconnected s) (continuous : ContinuousOn path s)
    (closed : IsClosed K) (inner : K \ border ⊆ interior K) {a : α} (start : a ∈ s) :
    (∀ t ∈ s, path t ∉ K) ↔ path a ∉ K ∧ ∀ t ∈ s, path t ∈ K → path t ∉ border := by
  constructor
  · intro avoids
    exact ⟨avoids a start, fun t among inside => absurd inside (avoids t among)⟩
  · rintro ⟨outside, crosses⟩
    have covered : path '' s ⊆ Kᶜ ∪ interior K := by
      rintro _ ⟨t, among, rfl⟩
      by_cases inside : path t ∈ K
      · exact .inr (inner ⟨inside, crosses t among inside⟩)
      · exact .inl inside
    have apart : Disjoint Kᶜ (interior K) :=
      disjoint_compl_left.mono_right interior_subset
    have away : path '' s ⊆ Kᶜ := by
      apply (connected.image path continuous).subset_left_of_subset_union closed.isOpen_compl
        isOpen_interior apart covered
      exact ⟨path a, mem_image_of_mem path start, outside⟩
    intro t among
    exact away (mem_image_of_mem path among)

end Avoids

section Turns

variable {f f' : ℝ → ℝ} {a b : ℝ}

/-- A smooth path stays between two bounds exactly when its ends and its turns do. -/
theorem stays_iff_turns (low high : ℝ) (ordered : a ≤ b) (continuous : ContinuousOn f (Icc a b))
    (derivative : ∀ t ∈ Ioo a b, HasDerivAt f (f' t) t) :
    (∀ t ∈ Icc a b, f t ∈ Icc low high) ↔
      f a ∈ Icc low high ∧ f b ∈ Icc low high ∧ ∀ t ∈ Ioo a b, f' t = 0 → f t ∈ Icc low high := by
  constructor
  · intro stays
    refine ⟨stays a ⟨le_rfl, ordered⟩, stays b ⟨ordered, le_rfl⟩, fun t inside _ => ?_⟩
    exact stays t ⟨inside.1.le, inside.2.le⟩
  · rintro ⟨first, last, turns⟩
    -- An extremum is at an end or a turn.
    have extremum (t : ℝ) (among : t ∈ Icc a b) (extremal : IsExtrOn f (Icc a b) t) :
        f t ∈ Icc low high := by
      rcases eq_or_lt_of_le among.1 with rfl | later
      · exact first
      rcases eq_or_lt_of_le among.2 with rfl | earlier
      · exact last
      · have inside : t ∈ Ioo a b := ⟨later, earlier⟩
        have turning := (extremal.isLocalExtr (Icc_mem_nhds later earlier)).hasDerivAt_eq_zero
          (derivative t inside)
        exact turns t inside turning
    have nonempty : (Icc a b).Nonempty := nonempty_Icc.mpr ordered
    obtain ⟨least, leastAmong, isLeast⟩ := isCompact_Icc.exists_isMinOn nonempty continuous
    obtain ⟨most, mostAmong, isMost⟩ := isCompact_Icc.exists_isMaxOn nonempty continuous
    intro t among
    constructor
    · exact (extremum least leastAmong (.inl isLeast)).1.trans (isLeast among)
    · exact (isMost among).trans (extremum most mostAmong (.inr isMost)).2

end Turns

end Paths
