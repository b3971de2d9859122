import CrazySwarm.Lib.JsonText

/-! The canonical text that plans, bindings and evidence are hashed by. The order in which a
dictionary or a set is iterated does not show in it, and whatever else a value says does. -/
namespace CrazySwarm
open List

/-- What shared configuration is built from. A set lists its items in the order of its iteration. -/
inductive PlainValue where
  | none
  | bool (value : Bool)
  | int (value : Int)
  | str (value : String)
  | list (items : List PlainValue)
  | tuple (items : List PlainValue)
  | set (items : List PlainValue)
  | dict (items : List (String × PlainValue))

namespace PlainValue

mutual

def KeysDistinct : PlainValue → Prop
  | none | bool _ | int _ | str _ => True
  | list items | tuple items | set items => ItemsDistinct items
  | dict items => (items.map Prod.fst).Nodup ∧ MembersDistinct items

def ItemsDistinct : List PlainValue → Prop
  | [] => True
  | item :: rest => item.KeysDistinct ∧ ItemsDistinct rest

def MembersDistinct : List (String × PlainValue) → Prop
  | [] => True
  | (_, value) :: rest => value.KeysDistinct ∧ MembersDistinct rest

end

/-- The iteration order of dictionaries and sets is changed, at any depth. -/
inductive Reorders : PlainValue → PlainValue → Prop
  | refl (value : PlainValue) : Reorders value value
  | trans {a b c : PlainValue} : Reorders a b → Reorders b c → Reorders a c
  | dict {items others : List (String × PlainValue)} : items ~ others →
      Reorders (.dict items) (.dict others)
  | set {items others : List PlainValue} : items ~ others → Reorders (.set items) (.set others)
  | inList (before after : List PlainValue) {item other : PlainValue} : Reorders item other →
      Reorders (.list (before ++ item :: after)) (.list (before ++ other :: after))
  | inTuple (before after : List PlainValue) {item other : PlainValue} : Reorders item other →
      Reorders (.tuple (before ++ item :: after)) (.tuple (before ++ other :: after))
  | inSet (before after : List PlainValue) {item other : PlainValue} : Reorders item other →
      Reorders (.set (before ++ item :: after)) (.set (before ++ other :: after))
  | inDict (before after : List (String × PlainValue)) (key : String) {value other : PlainValue} :
      Reorders value other →
      Reorders (.dict (before ++ (key, value) :: after)) (.dict (before ++ (key, other) :: after))

mutual

def reading : PlainValue → JsonTree
  | none => .null
  | bool value => .bool value
  | int value => .int value
  | str value => .str value
  | list items | tuple items => .list (itemReadings items)
  | set items => .list ((itemReadings items).mergeSort fun a b => a.dumps ≤ b.dumps)
  | dict items => .dict (memberReadings items)

def itemReadings : List PlainValue → List JsonTree
  | [] => []
  | item :: rest => item.reading :: itemReadings rest

def memberReadings : List (String × PlainValue) → List (String × JsonTree)
  | [] => []
  | (key, value) :: rest => (key, value.reading) :: memberReadings rest

end

end PlainValue

/-- A value that Python can hold. -/
structure ConfigurationValue where
  value : PlainValue
  distinct : value.KeysDistinct

mutual

/-- `_canonical_value`. -/
def canonicalValue : PlainValue → JsonTree
  | .dict items => .dict (canonicalMembers items)
  | .set items => .list (Sorting.sortBy JsonTree.dumps (canonicalItems items))
  | .list items | .tuple items => .list (canonicalItems items)
  | .none => .null
  | .bool value => .bool value
  | .int value => .int value
  | .str value => .str value

def canonicalItems : List PlainValue → List JsonTree
  | [] => []
  | item :: rest => canonicalValue item :: canonicalItems rest

def canonicalMembers : List (String × PlainValue) → List (String × JsonTree)
  | [] => []
  | (key, value) :: rest => (key, canonicalValue value) :: canonicalMembers rest

end

def canonicalJson (value : PlainValue) : String := (canonicalValue value).dumps

theorem canonicalItems_eq_map (items : List PlainValue) :
    canonicalItems items = items.map canonicalValue := by
  induction items with
  | nil => rfl
  | cons item rest ih => rw [canonicalItems, ih, map_cons]

theorem canonicalMembers_eq_map (items : List (String × PlainValue)) :
    canonicalMembers items = items.map fun member => (member.1, canonicalValue member.2) := by
  induction items with
  | nil => rfl
  | cons member rest ih => rw [canonicalMembers, ih, map_cons]

@[simp] theorem canonicalValue_list (items : List PlainValue) :
    canonicalValue (.list items) = .list (items.map canonicalValue) :=
  congrArg JsonTree.list (canonicalItems_eq_map items)

@[simp] theorem canonicalValue_tuple (items : List PlainValue) :
    canonicalValue (.tuple items) = .list (items.map canonicalValue) :=
  congrArg JsonTree.list (canonicalItems_eq_map items)

@[simp] theorem canonicalValue_set (items : List PlainValue) : canonicalValue (.set items) =
    .list (Sorting.sortBy JsonTree.dumps (items.map canonicalValue)) :=
  congrArg (JsonTree.list ∘ Sorting.sortBy JsonTree.dumps) (canonicalItems_eq_map items)

@[simp] theorem canonicalValue_dict (items : List (String × PlainValue)) :
    canonicalValue (.dict items) =
      .dict (items.map fun member => (member.1, canonicalValue member.2)) :=
  congrArg JsonTree.dict (canonicalMembers_eq_map items)

section Reordering

namespace PlainValue

theorem itemsDistinct_iff (items : List PlainValue) :
    ItemsDistinct items ↔ ∀ item ∈ items, item.KeysDistinct := by
  induction items with
  | nil => simp [ItemsDistinct]
  | cons item rest ih => simp [ItemsDistinct, ih]

theorem membersDistinct_iff (items : List (String × PlainValue)) :
    MembersDistinct items ↔ ∀ member ∈ items, member.2.KeysDistinct := by
  induction items with
  | nil => simp [MembersDistinct]
  | cons member rest ih => simp [MembersDistinct, ih]

theorem itemsDistinct_exchange {before after : List PlainValue} {item other : PlainValue}
    (same : item.KeysDistinct → other.KeysDistinct)
    (distinct : ItemsDistinct (before ++ item :: after)) :
    ItemsDistinct (before ++ other :: after) := by
  rw [itemsDistinct_iff, forall_mem_append, forall_mem_cons] at distinct ⊢
  exact ⟨distinct.1, same distinct.2.1, distinct.2.2⟩

theorem KeysDistinct.reorders {a b : PlainValue} (reorders : Reorders a b)
    (distinct : a.KeysDistinct) : b.KeysDistinct := by
  induction reorders with
  | refl value => exact distinct
  | trans _ _ first second => exact second (first distinct)
  | dict perm =>
    rw [KeysDistinct, membersDistinct_iff] at distinct ⊢
    exact ⟨(perm.map Prod.fst).nodup_iff.mp distinct.1,
      fun member among => distinct.2 member (perm.mem_iff.mpr among)⟩
  | set perm =>
    rw [KeysDistinct, itemsDistinct_iff] at distinct ⊢
    exact fun item among => distinct item (perm.mem_iff.mpr among)
  | inList before after _ ih | inTuple before after _ ih | inSet before after _ ih =>
    rw [KeysDistinct] at distinct ⊢
    exact itemsDistinct_exchange ih distinct
  | inDict before after key _ ih =>
    rw [KeysDistinct, membersDistinct_iff, forall_mem_append, forall_mem_cons] at distinct ⊢
    refine ⟨?_, distinct.2.1, ih distinct.2.2.1, distinct.2.2.2⟩
    simpa using distinct.1

end PlainValue

/-- Lists of trees are equal if and only if they have the same texts. -/
theorem same_list_iff_dumps {xs ys : List JsonTree} :
    (JsonTree.list xs).Same (.list ys) ↔ xs.map JsonTree.dumps = ys.map JsonTree.dumps := by
  rw [JsonTree.same_list_iff, ← forall₂_eq_eq_eq, forall₂_map_left_iff, forall₂_map_right_iff]
  simp only [JsonTree.dumps_eq_iff]

theorem dumps_sortBy (trees : List JsonTree) :
    (Sorting.sortBy JsonTree.dumps trees).map JsonTree.dumps =
      Sorting.sortBy id (trees.map JsonTree.dumps) :=
  (Sorting.sortBy_map id JsonTree.dumps trees).symm

theorem same_sorted_iff {xs ys : List JsonTree} :
    (JsonTree.list (Sorting.sortBy JsonTree.dumps xs)).Same
      (.list (Sorting.sortBy JsonTree.dumps ys)) ↔
    xs.map JsonTree.dumps ~ ys.map JsonTree.dumps := by
  rw [same_list_iff_dumps, dumps_sortBy, dumps_sortBy]
  constructor
  · intro sorted
    exact (Sorting.sortBy_perm id _).symm.trans (sorted ▸ Sorting.sortBy_perm id _)
  · exact Sorting.sortBy_id_congr

/-- One step of a reordering leaves the text: by induction on where it is made. -/
theorem canonicalValue_reorders {a b : PlainValue} (reorders : a.Reorders b)
    (distinct : a.KeysDistinct) : (canonicalValue a).Same (canonicalValue b) := by
  have exchange {before after : List PlainValue} {item other : PlainValue}
      (same : (canonicalValue item).Same (canonicalValue other)) :
      ((before ++ item :: after).map canonicalValue).map JsonTree.dumps =
        ((before ++ other :: after).map canonicalValue).map JsonTree.dumps := by
    simp only [map_append, map_cons, (JsonTree.dumps_eq_iff _ _).mpr same]
  induction reorders with
  | refl value => rfl
  | trans first _ left right =>
    exact (left distinct).trans (right (distinct.reorders first))
  | @dict items others perm =>
    rw [canonicalValue_dict, canonicalValue_dict, JsonTree.Same, JsonTree.sortKeys_dict,
      JsonTree.sortKeys_dict]
    refine congrArg JsonTree.dict (Sorting.sortBy_congr Prod.fst ?_ ((perm.map _).map _))
    rw [PlainValue.KeysDistinct] at distinct
    simpa [Function.comp_def] using (perm.map Prod.fst).nodup_iff.mp distinct.1
  | set perm =>
    rw [canonicalValue_set, canonicalValue_set, same_sorted_iff]
    exact (perm.map _).map _
  | inList before after _ ih =>
    rw [PlainValue.KeysDistinct, PlainValue.itemsDistinct_iff] at distinct
    rw [canonicalValue_list, canonicalValue_list, same_list_iff_dumps]
    exact exchange (ih (distinct _ (by simp)))
  | inTuple before after _ ih =>
    rw [PlainValue.KeysDistinct, PlainValue.itemsDistinct_iff] at distinct
    rw [canonicalValue_tuple, canonicalValue_tuple, same_list_iff_dumps]
    exact exchange (ih (distinct _ (by simp)))
  | inSet before after _ ih =>
    rw [PlainValue.KeysDistinct, PlainValue.itemsDistinct_iff] at distinct
    rw [canonicalValue_set, canonicalValue_set, same_sorted_iff]
    exact exchange (ih (distinct _ (by simp))) ▸ Perm.refl _
  | inDict before after key _ ih =>
    rw [PlainValue.KeysDistinct, PlainValue.membersDistinct_iff] at distinct
    have same : _ = _ := ih (distinct.2 (key, _) (by simp))
    rw [canonicalValue_dict, canonicalValue_dict, JsonTree.Same, JsonTree.sortKeys_dict,
      JsonTree.sortKeys_dict]
    simp only [map_append, map_cons, same]

end Reordering

section Reading

namespace PlainValue

/-- Sorting by the texts gives the sorted texts, whichever way it is done. -/
theorem dumps_mergeSort (trees : List JsonTree) :
    (trees.mergeSort fun a b => a.dumps ≤ b.dumps).map JsonTree.dumps =
      Sorting.sortBy id (trees.map JsonTree.dumps) := by
  let le (a b : JsonTree) : Bool := a.dumps ≤ b.dumps
  have ordered : (trees.mergeSort le).Pairwise fun a b => le a b = true :=
    pairwise_mergeSort (fun _ _ _ first second => decide_eq_true
        ((of_decide_eq_true first).trans (of_decide_eq_true second)))
      (fun a b => by simpa [le] using le_total a.dumps b.dumps) trees
  have sorted : (trees.mergeSort fun a b => a.dumps ≤ b.dumps).Pairwise
      fun a b => a.dumps ≤ b.dumps := ordered.imp of_decide_eq_true
  exact Perm.eq_of_pairwise (fun _ _ _ _ left right => le_antisymm left right)
    (pairwise_map.mpr sorted) (Sorting.sortBy_pairwise id _)
    (((mergeSort_perm trees _).map _).trans (Sorting.sortBy_perm id _).symm)

mutual

theorem canonicalValue_same : ∀ value, (canonicalValue value).Same (reading value)
  | .none | .bool _ | .int _ | .str _ => rfl
  | .list items | .tuple items => same_list_iff_dumps.mpr (canonicalItems_same items)
  | .set items => by
    rw [canonicalValue, reading, same_list_iff_dumps, dumps_sortBy, dumps_mergeSort,
      canonicalItems_same items]
  | .dict items => by
    rw [canonicalValue, reading, JsonTree.Same, JsonTree.sortKeys, JsonTree.sortKeys,
      canonicalMembers_same items]

theorem canonicalItems_same : ∀ items,
    (canonicalItems items).map JsonTree.dumps = (itemReadings items).map JsonTree.dumps
  | [] => rfl
  | item :: rest => by
    rw [canonicalItems, itemReadings, map_cons, map_cons, canonicalItems_same rest,
      (JsonTree.dumps_eq_iff _ _).mpr (canonicalValue_same item)]

theorem canonicalMembers_same : ∀ items, JsonTree.sortKeysMembers (canonicalMembers items) =
    JsonTree.sortKeysMembers (memberReadings items)
  | [] => rfl
  | (key, value) :: rest => by
    have same : _ = _ := canonicalValue_same value
    rw [canonicalMembers, memberReadings, JsonTree.sortKeysMembers, JsonTree.sortKeysMembers,
      canonicalMembers_same rest, same]

end

end PlainValue

/-- The text does not depend on an iteration order, and it tells apart any two values that are
not equal as JSON. -/
theorem canonicalJson_iff :
    (∀ a b : ConfigurationValue, a.value.Reorders b.value →
      canonicalJson a.value = canonicalJson b.value) ∧
    ∀ a b : ConfigurationValue, canonicalJson a.value = canonicalJson b.value ↔
      a.value.reading.Same b.value.reading := by
  constructor
  · intro a b reorders
    exact (JsonTree.dumps_eq_iff _ _).mpr (canonicalValue_reorders reorders a.distinct)
  · intro a b
    have first : _ = _ := PlainValue.canonicalValue_same a.value
    have second : _ = _ := PlainValue.canonicalValue_same b.value
    rw [canonicalJson, canonicalJson, JsonTree.dumps_eq_iff, JsonTree.Same, JsonTree.Same, first,
      second]

theorem canonicalJson_swapped :
    canonicalJson (.dict [("mode", .str "SIM"), ("roles", .set [.int 2, .tuple [.none]])]) =
      canonicalJson (.dict [("roles", .set [.int 2, .tuple [.none]]), ("mode", .str "SIM")]) := by
  refine canonicalJson_iff.1 ⟨.dict _, ?_⟩ ⟨.dict _, ?_⟩ (.dict (.swap _ _ _))
  all_goals
    simp [PlainValue.KeysDistinct, PlainValue.MembersDistinct, PlainValue.ItemsDistinct]

end Reading

end CrazySwarm
