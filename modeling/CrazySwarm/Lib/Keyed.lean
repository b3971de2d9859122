import Mathlib.Data.List.Nodup

/-! Lists whose items carry a key. An edit of one key is seen through what the list holds of the
other keys and through how often the key occurs. -/
namespace Keyed

variable {α κ : Type} [DecidableEq κ] {key : α → κ} {k : κ} {l : List α} {x : α}

/-- The items of the other keys, in order. -/
def without (key : α → κ) (k : κ) (l : List α) : List α := l.filter fun x => key x != k

@[simp] theorem without_append (l later : List α) :
    without key k (l ++ later) = without key k l ++ without key k later := by simp [without]

@[simp] theorem without_cons_own {rest : List α} (own : key x = k) :
    without key k (x :: rest) = without key k rest := by simp [without, own]

@[simp] theorem without_cons_other {rest : List α} (other : key x ≠ k) :
    without key k (x :: rest) = x :: without key k rest := by simp [without, other]

@[simp] theorem without_nil : without key k [] = [] := rfl

@[simp] theorem without_without : without key k (without key k l) = without key k l := by
  simp [without]

theorem without_of_absent (absent : ∀ x ∈ l, key x ≠ k) : without key k l = l := by
  simpa [without] using absent

theorem key_ne_of_mem_without (member : x ∈ without key k l) : key x ≠ k := by
  simpa using (List.mem_filter.mp member).2

theorem count_map_of_absent (absent : ∀ x ∈ l, key x ≠ k) : (l.map key).count k = 0 := by
  simpa [List.count_eq_zero] using absent

@[simp] theorem count_map_without : ((without key k l).map key).count k = 0 :=
  count_map_of_absent fun _ => key_ne_of_mem_without

/-- The list is left as it is exactly when nothing in it has the key. -/
theorem length_without_eq_iff :
    (without key k l).length = l.length ↔ ∀ x ∈ l, key x ≠ k := by
  simp [without, List.length_filter_eq_length_iff]

/-- Appending one item shows among the others exactly when it is none of them. -/
theorem without_append_singleton_eq_iff :
    without key k (l ++ [x]) = without key k l ↔ key x = k := by
  constructor
  · intro same
    by_contra other
    simpa [other] using congrArg List.length same
  · intro own
    simp [own]

/-- The keys differ pairwise if they do without this one and this one occurs at most once. -/
theorem nodup_map_iff (k : κ) :
    (l.map key).Nodup ↔ ((without key k l).map key).Nodup ∧ (l.map key).count k ≤ 1 := by
  have others : (without key k l).map key = (l.map key).filter (· != k) := by
    simp [without, List.filter_map, Function.comp_def]
  rw [others]
  simp only [List.nodup_iff_count_le_one]
  constructor
  · intro once
    exact ⟨fun j => Nat.le_trans (List.filter_sublist.count_le j) (once j), once k⟩
  · rintro ⟨once, own⟩ j
    by_cases same : j = k
    · exact same ▸ own
    · simpa [List.count_filter, same] using once j

/-- The positions of the items that meet the condition. -/
def positions (p : α → Bool) (l : List α) : List Nat :=
  (List.range l.length).filter fun i => l[i]?.any p

theorem mem_positions {p : α → Bool} {i : Nat} : i ∈ positions p l ↔ ∃ x, l[i]? = some x ∧ p x := by
  simp only [positions, List.mem_filter, List.mem_range, Option.any_eq_true_iff_get]
  constructor
  · rintro ⟨_, some, holds⟩
    exact ⟨_, (Option.some_get some).symm, holds⟩
  · rintro ⟨x, at_i, holds⟩
    exact ⟨(List.getElem?_eq_some_iff.mp at_i).1, by simp [at_i], by simpa [at_i] using holds⟩

/-- Where one item alone meets the condition, setting its position replaces it in place. -/
theorem split_of_positions {p : α → Bool} {i : Nat} (one : positions p l = [i]) (x : α) :
    ∃ first old last, l = first ++ old :: last ∧ p old = true ∧
      (∀ y ∈ first ++ last, p y = false) ∧ l.set i x = first ++ x :: last := by
  obtain ⟨old, at_i, holds⟩ := mem_positions.mp (one ▸ List.mem_singleton_self i)
  obtain ⟨bound, rfl⟩ := List.getElem?_eq_some_iff.mp at_i
  have only : ∀ j y, l[j]? = some y → p y = true → j = i := by
    intro j y at_j meets
    have member := mem_positions.mpr ⟨y, at_j, meets⟩
    simpa [one] using member
  have set : l.set i x = l.take i ++ x :: l.drop (i + 1) := by
    rw [List.set_eq_take_append_cons_drop, if_pos bound]
  refine ⟨l.take i, l[i], l.drop (i + 1), by simp, holds, ?_, set⟩
  intro y member
  by_contra meets
  rw [Bool.not_eq_false] at meets
  rcases List.mem_append.mp member with early | late
  · obtain ⟨j, bound_j, rfl⟩ := List.mem_take_iff_getElem.mp early
    have := only j _ (List.getElem?_eq_getElem (by omega)) meets
    omega
  · obtain ⟨j, bound_j, rfl⟩ := List.mem_drop_iff_getElem.mp late
    have := only (i + 1 + j) _ (List.getElem?_eq_getElem (by omega)) meets
    omega

end Keyed
