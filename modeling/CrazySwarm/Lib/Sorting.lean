import Mathlib.Data.List.Sort
import Mathlib.Data.List.Lex
import Mathlib.Data.Prod.Lex
import Mathlib.Data.List.Nodup
import Mathlib.Data.List.Perm.Basic

/-! Stable sorting by a key. Insertion sort stands for any stable sort: their results agree. -/
namespace Sorting
open List

variable {α κ : Type} [LinearOrder κ] (key : α → κ)

def sortBy (items : List α) : List α := items.insertionSort fun a b => key a ≤ key b

theorem sortBy_perm (items : List α) : sortBy key items ~ items := perm_insertionSort _ items

@[simp] theorem mem_sortBy {items : List α} {item : α} : item ∈ sortBy key items ↔ item ∈ items :=
  (sortBy_perm key items).mem_iff

theorem sortBy_pairwise (items : List α) :
    (sortBy key items).Pairwise fun a b => key a ≤ key b := by
  let : Std.Total fun a b => key a ≤ key b := ⟨fun a b => le_total (key a) (key b)⟩
  let : IsTrans α fun a b => key a ≤ key b := ⟨fun _ _ _ => le_trans⟩
  exact pairwise_insertionSort _ items

theorem sortBy_map {β : Type} (f : β → α) (items : List β) :
    sortBy key (items.map f) = (sortBy (key ∘ f) items).map f :=
  (map_insertionSort _ _ f items fun _ _ _ _ => Iff.rfl).symm

theorem sortBy_eq_of_perm {items permuted : List α}
    (increasing : (items.map key).Pairwise (· < ·)) (perm : permuted ~ items) :
    sortBy key permuted = items := by
  have strict : items.Pairwise fun a b => key a < key b := pairwise_map.mp increasing
  have distinct := inj_on_of_nodup_map (increasing.imp ne_of_lt : (items.map key).Nodup)
  have antisymmetric : ∀ a b, a ∈ sortBy key permuted → b ∈ items → key a ≤ key b → key b ≤ key a →
      a = b := fun a b ha hb left right =>
    distinct (perm.mem_iff.mp ((mem_sortBy key).mp ha)) hb (le_antisymm left right)
  exact Perm.eq_of_pairwise antisymmetric (sortBy_pairwise key permuted) (strict.imp le_of_lt)
    ((sortBy_perm key permuted).trans perm)

theorem sortBy_congr {items permuted : List α} (distinct : (items.map key).Nodup)
    (perm : permuted ~ items) : sortBy key permuted = sortBy key items := by
  have sorted := sortBy_perm key items
  have increasing : ((sortBy key items).map key).Pairwise (· < ·) := by
    have apart : ((sortBy key items).map key).Nodup := (sorted.map key).nodup_iff.mpr distinct
    have ordered := pairwise_map.mpr (sortBy_pairwise key items)
    exact ordered.imp₂ (fun _ _ le ne => lt_of_le_of_ne le ne) apart
  exact sortBy_eq_of_perm key increasing (perm.trans sorted.symm)

/-- Items that are their own keys. -/
theorem sortBy_id_congr {items permuted : List κ} (perm : permuted ~ items) :
    sortBy id permuted = sortBy id items :=
  Perm.eq_of_pairwise (fun _ _ _ _ left right => le_antisymm left right)
    (sortBy_pairwise id permuted) (sortBy_pairwise id items)
    ((sortBy_perm id permuted).trans (perm.trans (sortBy_perm id items).symm))

theorem sortBy_head_least {items : List α} {item : α} (first : (sortBy key items).head? = some item) :
    item ∈ items ∧ ∀ other ∈ items, key item ≤ key other := by
  have sorted := sortBy_pairwise key items
  cases list : sortBy key items with
  | nil => simp [list] at first
  | cons least rest =>
    rw [list] at first sorted
    cases first
    have member (other : α) : other ∈ items ↔ other ∈ item :: rest := by
      rw [← list, mem_sortBy]
    constructor
    · exact (member item).mpr mem_cons_self
    · intro other among
      rcases mem_cons.mp ((member other).mp among) with rfl | later
      · exact le_rfl
      · exact rel_of_pairwise_cons sorted later

theorem sortBy_first_least {items before after : List α} {item : α} {kind : α → Prop}
    (split : sortBy key items = before ++ item :: after) (others : ∀ b ∈ before, ¬kind b) :
    item ∈ items ∧ ∀ other ∈ items, kind other → key item ≤ key other := by
  have sorted := sortBy_pairwise key items
  have member (other : α) : other ∈ items ↔ other ∈ before ++ item :: after := by
    rw [← split, mem_sortBy]
  rw [split] at sorted
  have tail := (pairwise_append.mp sorted).2.1
  constructor
  · exact (member item).mpr (by simp)
  · intro other among alike
    rcases mem_append.mp ((member other).mp among) with earlier | later
    · exact absurd alike (others other earlier)
    · rcases mem_cons.mp later with rfl | later
      · exact le_rfl
      · exact rel_of_pairwise_cons tail later

theorem le_countP_of_mem_drop {β : Type} [DecidableEq β] (name : α → β) {items : List α} {item : α}
    {count : Nat} (descending : items.Pairwise fun a b => key b ≤ key a)
    (distinct : (items.map name).Nodup) (later : item ∈ items.drop count) :
    count ≤ items.countP fun other => name other ≠ name item ∧ key item ≤ key other := by
  have split : items.take count ++ items.drop count = items := take_append_drop count items
  rw [← split, map_append] at distinct
  rw [← split] at descending
  have apart := (nodup_append.mp distinct).2.2
  have above := (pairwise_append.mp descending).2.2
  have full : (items.take count).length = count := by
    have := length_pos_of_mem later
    rw [length_drop] at this
    rw [length_take]
    omega
  have ahead : (items.take count).countP
      (fun other => name other ≠ name item ∧ key item ≤ key other) = count := by
    rw [countP_eq_length.mpr, full]
    intro other among
    have names := apart (name other) (mem_map_of_mem among) (name item) (mem_map_of_mem later)
    simpa using ⟨names, above other among item later⟩
  calc count = _ := ahead.symm
    _ ≤ items.countP fun other => name other ≠ name item ∧ key item ≤ key other :=
      Sublist.countP_le (take_sublist count items)

/-- A comparison that orders by the key. -/
def Agrees (cmp : α → α → Ordering) : Prop :=
  ∀ a b, (cmp a b = .lt ↔ key a < key b) ∧ (cmp a b = .eq ↔ key a = key b)

namespace Agrees

variable {key} {cmp : α → α → Ordering}

theorem on {β : Type} (agrees : Agrees key cmp) (f : β → α) :
    Agrees (fun b => key (f b)) fun a b => cmp (f a) (f b) := fun a b => agrees (f a) (f b)

/-- First by one key, then by another. -/
theorem lex {κ' : Type} [LinearOrder κ'] {key' : α → κ'} {cmp' : α → α → Ordering}
    (agrees : Agrees key cmp) (agrees' : Agrees key' cmp') :
    Agrees (fun a => toLex (key a, key' a)) fun a b => (cmp a b).then (cmp' a b) := by
  intro a b
  obtain ⟨below, same⟩ := agrees a b
  obtain ⟨below', same'⟩ := agrees' a b
  rw [Prod.Lex.toLex_lt_toLex, toLex_inj, Prod.mk.injEq, ← below, ← same, ← below', ← same']
  cases h : cmp a b <;> simp [h]

/-- A comparison by the order itself. -/
theorem of_order {cmp : κ → κ → Ordering}
    (h : ∀ a b, cmp a b = if a = b then .eq else if a < b then .lt else .gt) :
    Agrees id cmp := by
  intro a b
  rw [h]
  split
  · next same => simp [same]
  · next apart => split <;> simp_all

theorem insertionSort_eq (agrees : Agrees key cmp) (items : List α) :
    (items.insertionSort fun a b => cmp b a != .lt) = sortBy key items := by
  have same (a b : α) : (cmp b a != .lt) = decide (key a ≤ key b) := by
    rw [Bool.eq_iff_iff, bne_iff_ne, decide_eq_true_iff, ← not_lt]
    exact not_congr (agrees b a).1
  simp only [same, sortBy, decide_eq_true_eq]

end Agrees

/-- The first item that none after it comes before. -/
def leastBy (before : α → α → Bool) (first : α) (rest : List α) : α :=
  rest.foldl (fun least item => if before item least then item else least) first

theorem leastBy_mem (before : α → α → Bool) (first : α) (rest : List α) :
    leastBy before first rest ∈ first :: rest := by
  induction rest generalizing first with
  | nil => simp [leastBy]
  | cons item rest ih =>
    have inner := ih (if before item first then item else first)
    unfold leastBy at inner ⊢
    rw [foldl_cons]
    grind

theorem leastBy_le {before : α → α → Bool} (by_key : ∀ a b, before a b = true ↔ key a < key b)
    (first : α) (rest : List α) :
    ∀ item ∈ first :: rest, key (leastBy before first rest) ≤ key item := by
  induction rest generalizing first with
  | nil => simp [leastBy]
  | cons next rest ih =>
    have inner := ih (if before next first then next else first)
    change ∀ item ∈ first :: next :: rest,
      key (leastBy before (if before next first then next else first) rest) ≤ key item
    rw [forall_mem_cons] at inner
    intro item among
    by_cases earlier : before next first = true
    · rw [if_pos earlier] at inner ⊢
      rcases mem_cons.mp among with rfl | among
      · exact inner.1.trans ((by_key _ _).mp earlier).le
      · rcases mem_cons.mp among with rfl | among
        · exact inner.1
        · exact inner.2 item among
    · rw [if_neg earlier] at inner ⊢
      rcases mem_cons.mp among with rfl | among
      · exact inner.1
      · rcases mem_cons.mp among with rfl | among
        · exact inner.1.trans (not_lt.mp fun below => earlier ((by_key _ _).mpr below))
        · exact inner.2 item among

theorem leastBy_eq {before : α → α → Bool} {least first : α} {rest : List α}
    (member : least ∈ first :: rest)
    (leads : ∀ item ∈ first :: rest, item ≠ least →
      before least item = true ∧ before item least = false) :
    leastBy before first rest = least := by
  induction rest generalizing first with
  | nil => simpa [leastBy] using (mem_singleton.mp member).symm
  | cons item rest ih =>
    have next : (if before item first then item else first) ∈ [first, item] := by split <;> simp
    refine ih ?_ fun other among => ?_
    · rcases mem_cons.mp member with rfl | among
      · by_cases same : item = least
        · simp [same]
        · simp [(leads item (by simp) same).2]
      · rcases mem_cons.mp among with rfl | among
        · by_cases same : first = least
          · simp [same]
          · simp [(leads first (by simp) same).1]
        · exact mem_cons_of_mem _ among
    · rcases mem_cons.mp among with rfl | among
      · exact leads _ (mem_append_left rest next)
      · exact leads other (by simp [among])

omit [LinearOrder κ] in
theorem perm_cons_filter {key : α → κ} [DecidableEq κ] {items : List α} {item : α}
    (distinct : (items.map key).Nodup) (member : item ∈ items) :
    items ~ item :: items.filter fun other => key other ≠ key item := by
  induction items with
  | nil => cases member
  | cons head items ih =>
    obtain ⟨fresh, distinct⟩ := nodup_cons.mp distinct
    rcases mem_cons.mp member with rfl | among
    · have others : items.filter (fun other => key other ≠ key item) = items := by
        refine filter_eq_self.mpr fun other listed => decide_eq_true fun same => fresh ?_
        exact same ▸ mem_map_of_mem listed
      rw [filter_cons_of_neg (by simp), others]
    · have apart : key head ≠ key item := fun same => fresh (same ▸ mem_map_of_mem among)
      rw [filter_cons_of_pos (by simpa using apart)]
      exact ((ih distinct among).cons head).trans (.swap ..)

end Sorting
