import Mathlib.Data.List.Basic
import Mathlib.Data.List.Infix
import Mathlib.Order.MinMax

/-! The limit of a query: as many of the first items, or all of them. -/
namespace Limits

variable {α : Type}

/-- `LIMIT`, which a negative number does not set. -/
def limited (limit : Option Int) (items : List α) : List α :=
  match limit with
  | none => items
  | some count => if count < 0 then items else items.take count.toNat

def beyond (limit : Option Int) (items : List α) : List α :=
  items.drop (limited limit items).length

variable (limit : Option Int)

theorem limited_eq :
    (∀ items : List α, limited limit items = items) ∨
    ∃ count, ∀ items : List α, limited limit items = items.take count := by
  cases limit with
  | none => exact .inl fun _ => rfl
  | some count =>
    by_cases negative : count < 0
    · exact .inl fun _ => if_pos negative
    · exact .inr ⟨count.toNat, fun _ => if_neg negative⟩

theorem limited_append_beyond (items : List α) : limited limit items ++ beyond limit items = items := by
  rw [beyond]
  rcases limited_eq (α := α) limit with all | ⟨count, taken⟩
  · rw [all, List.drop_length, List.append_nil]
  · have same : items.drop (items.take count).length = items.drop count := by
      rw [List.length_take]
      rcases le_total count items.length with fits | short
      · rw [min_eq_left fits]
      · rw [min_eq_right short, List.drop_length, List.drop_eq_nil_of_le short]
    rw [taken, same, List.take_append_drop]

theorem countP_limited_iff (kind : α → Bool) (items : List α) :
    (limited limit items).countP kind = (limited limit (items.filter kind)).length ↔
      (∀ item ∈ limited limit items, kind item = true) ∨
        ∀ item ∈ beyond limit items, ¬kind item = true := by
  have parts : items.countP kind =
      (limited limit items).countP kind + (beyond limit items).countP kind := by
    rw [← List.countP_append, limited_append_beyond]
  have full : (∀ item ∈ limited limit items, kind item = true) ↔
      (limited limit items).countP kind = (limited limit items).length :=
    List.countP_eq_length.symm
  have gone : (∀ item ∈ beyond limit items, ¬kind item = true) ↔
      (beyond limit items).countP kind = 0 := List.countP_eq_zero.symm
  have bounded : (limited limit items).countP kind ≤ (limited limit items).length :=
    List.countP_le_length
  rw [full, gone]
  rcases limited_eq (α := α) limit with all | ⟨count, taken⟩
  · have uncut : (beyond limit items).countP kind = 0 := by
      rw [beyond, all, List.drop_length, List.countP_nil]
    rw [all (items.filter kind), ← List.countP_eq_length_filter]
    omega
  · have fetched : (limited limit items).length = min count items.length := by
      rw [taken, List.length_take]
    have others : (beyond limit items).countP kind ≤ items.length - min count items.length := by
      calc (beyond limit items).countP kind ≤ (beyond limit items).length := List.countP_le_length
        _ = items.length - min count items.length := by rw [beyond, List.length_drop, fetched]
    rw [taken (items.filter kind), List.length_take, ← List.countP_eq_length_filter]
    omega

theorem limited_within (items : List α) : limited limit items <+: items :=
  ⟨beyond limit items, limited_append_beyond limit items⟩

theorem filter_limited {kind : α → Bool} {items : List α}
    (same : ((limited limit items).filter kind).length = (limited limit (items.filter kind)).length) :
    (limited limit items).filter kind = limited limit (items.filter kind) := by
  have left : (limited limit items).filter kind <+: items.filter kind :=
    (limited_within limit items).filter kind
  have right := limited_within limit (items.filter kind)
  exact (List.prefix_of_prefix_length_le left right same.le).eq_of_length same

theorem limited_map {β : Type} (f : α → β) (items : List α) :
    limited limit (items.map f) = (limited limit items).map f := by
  cases limit with
  | none => rfl
  | some count =>
    rw [limited, limited]
    split
    · rfl
    · exact List.map_take.symm

end Limits

