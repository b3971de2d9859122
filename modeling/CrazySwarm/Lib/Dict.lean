import Mathlib.Data.List.Perm.Basic
import Mathlib.Data.List.Nodup

/-! Insertion-ordered dictionaries with unique keys. Rebinding a key keeps its
position and a new key goes last. Every fact about the values after one binding
follows from `insert_replaces` and `insert_appends`. -/

/-- The unique-key field makes a dictionary that binds one key twice unrepresentable. -/
structure Dict (κ α : Type) where
  items : List (κ × α)
  nodup : (items.map Prod.fst).Nodup

namespace Dict
open List

variable {κ α β : Type} [DecidableEq κ]

def empty : Dict κ α := ⟨[], nodup_nil⟩

def keys (d : Dict κ α) : List κ := d.items.map Prod.fst
def values (d : Dict κ α) : List α := d.items.map Prod.snd

def lookup (key : κ) : List (κ × α) → Option α
  | [] => none
  | (other, value) :: rest => if other = key then some value else lookup key rest

def get? (d : Dict κ α) (key : κ) : Option α := lookup key d.items

def bind (key : κ) (value : α) : List (κ × α) → List (κ × α)
  | [] => [(key, value)]
  | (other, old) :: rest =>
    if other = key then (key, value) :: rest else (other, old) :: bind key value rest

theorem lookup_eq_none_iff (key : κ) (items : List (κ × α)) :
    lookup key items = none ↔ key ∉ items.map Prod.fst := by
  induction items with
  | nil => simp [lookup]
  | cons item rest ih =>
    obtain ⟨other, value⟩ := item
    by_cases same : other = key
    · simp [lookup, same]
    · simp [lookup, same, ih, Ne.symm same]

theorem keys_bind (key : κ) (value : α) (items : List (κ × α)) :
    (bind key value items).map Prod.fst =
      if key ∈ items.map Prod.fst then items.map Prod.fst else items.map Prod.fst ++ [key] := by
  induction items with
  | nil => simp [bind]
  | cons item rest ih =>
    obtain ⟨other, old⟩ := item
    by_cases same : other = key
    · simp [bind, same]
    · simp only [bind, same, if_false, map_cons, ih, mem_cons, Ne.symm same, false_or]
      split <;> simp

def insert (d : Dict κ α) (key : κ) (value : α) : Dict κ α where
  items := bind key value d.items
  nodup := by
    rw [keys_bind]
    split
    · exact d.nodup
    · next absent => exact nodup_append.mpr ⟨d.nodup, by simp, by grind⟩

def ofList (items : List (κ × α)) : Dict κ α :=
  items.foldl (fun d item => d.insert item.1 item.2) empty

@[simp] theorem get?_empty (key : κ) : (empty : Dict κ α).get? key = none := rfl
omit [DecidableEq κ] in
@[simp] theorem values_empty : (empty : Dict κ α).values = [] := rfl

theorem lookup_bind (key other : κ) (value : α) (items : List (κ × α)) :
    lookup other (bind key value items) = if key = other then some value else lookup other items := by
  induction items with
  | nil => simp [bind, lookup]
  | cons item rest ih =>
    obtain ⟨head, old⟩ := item
    by_cases same : head = key
    · subst head; by_cases eq : key = other <;> simp [bind, lookup, eq]
    · by_cases eq : head = other
      · subst head; simp [bind, lookup, same, Ne.symm same]
      · simp [bind, lookup, same, eq, ih]

/-- Binding changes exactly one observable key. -/
theorem get?_insert (d : Dict κ α) (key other : κ) (value : α) :
    (d.insert key value).get? other = if key = other then some value else d.get? other :=
  lookup_bind key other value d.items

@[simp] theorem get?_insert_self (d : Dict κ α) (key : κ) (value : α) :
    (d.insert key value).get? key = some value := by simp [get?_insert]

theorem get?_insert_of_ne (d : Dict κ α) {key other : κ} (value : α) (h : key ≠ other) :
    (d.insert key value).get? other = d.get? other := by simp [get?_insert, h]

theorem bind_bind (key : κ) (first second : α) (items : List (κ × α)) :
    bind key second (bind key first items) = bind key second items := by
  induction items with
  | nil => simp [bind]
  | cons item rest ih =>
    obtain ⟨other, old⟩ := item
    by_cases same : other = key <;> simp [bind, same, ih]

@[simp] theorem insert_insert (d : Dict κ α) (key : κ) (first second : α) :
    (d.insert key first).insert key second = d.insert key second := by
  simp [insert, bind_bind]

theorem bind_eq_self {key : κ} {value : α} {items : List (κ × α)}
    (h : lookup key items = some value) : bind key value items = items := by
  induction items with
  | nil => simp [lookup] at h
  | cons item rest ih =>
    obtain ⟨other, old⟩ := item
    by_cases same : other = key
    · simp_all [lookup, bind]
    · simp [bind, same, ih (by simpa [lookup, same] using h)]

/-- Rebinding a key to the value it has changes nothing. -/
theorem insert_eq_self (d : Dict κ α) {key : κ} {value : α} (h : d.get? key = some value) :
    d.insert key value = d := by
  simp only [insert, bind_eq_self h]

theorem mem_of_lookup {key : κ} {value : α} {items : List (κ × α)}
    (h : lookup key items = some value) : (key, value) ∈ items := by
  induction items with
  | nil => simp [lookup] at h
  | cons item rest ih =>
    obtain ⟨other, old⟩ := item
    by_cases same : other = key
    · simp_all [lookup]
    · exact mem_cons_of_mem _ (ih (by simpa [lookup, same] using h))

theorem lookup_of_mem {key : κ} {value : α} {items : List (κ × α)}
    (nodup : (items.map Prod.fst).Nodup) (h : (key, value) ∈ items) :
    lookup key items = some value := by
  induction items with
  | nil => simp at h
  | cons item rest ih =>
    obtain ⟨other, old⟩ := item
    simp only [map_cons, nodup_cons] at nodup
    rcases mem_cons.mp h with eq | tail
    · cases eq; simp [lookup]
    · have apart : other ≠ key := by
        rintro rfl; exact nodup.1 (mem_map_of_mem (f := Prod.fst) tail)
      simpa [lookup, apart] using ih nodup.2 tail

theorem get?_eq_some_iff (d : Dict κ α) (key : κ) (value : α) :
    d.get? key = some value ↔ (key, value) ∈ d.items :=
  ⟨mem_of_lookup, lookup_of_mem d.nodup⟩

theorem mem_values_iff (d : Dict κ α) (value : α) :
    value ∈ d.values ↔ ∃ key, d.get? key = some value := by
  simp [values, get?_eq_some_iff]

theorem mem_keys_iff (d : Dict κ α) (key : κ) : key ∈ d.keys ↔ ∃ value, d.get? key = some value := by
  simp [keys, get?_eq_some_iff]

/-- What holds of every listed item holds of every binding built from the list. -/
theorem get?_ofList {p : κ → α → Prop} {items : List (κ × α)}
    (all : ∀ item ∈ items, p item.1 item.2) {key : κ} {value : α}
    (h : (ofList items).get? key = some value) : p key value := by
  have built : ∀ (rest : List (κ × α)) (d : Dict κ α), (∀ item ∈ rest, p item.1 item.2) →
      (∀ key value, d.get? key = some value → p key value) → ∀ key value,
      (rest.foldl (fun d item => d.insert item.1 item.2) d).get? key = some value → p key value := by
    intro rest
    induction rest with
    | nil => intro d _ held; exact held
    | cons item rest ih =>
      intro d all held
      refine ih _ (fun item member => all item (mem_cons_of_mem _ member)) ?_
      intro key value found
      rw [get?_insert] at found
      split at found
      · next same => cases found; exact same ▸ all item mem_cons_self
      · exact held key value found
  exact built items empty all (by simp) key value h

theorem get?_foldl_insert_of_notMem {key : κ} {items : List (κ × α)}
    (absent : key ∉ items.map Prod.fst) (d : Dict κ α) :
    (items.foldl (fun d item => d.insert item.1 item.2) d).get? key = d.get? key := by
  induction items generalizing d with
  | nil => rfl
  | cons item rest ih =>
    simp only [map_cons, mem_cons, not_or] at absent
    rw [foldl_cons, ih absent.2, get?_insert_of_ne d item.2 (Ne.symm absent.1)]

theorem get?_ofList_of_mem {key : κ} {value : α} {items : List (κ × α)}
    (nodup : (items.map Prod.fst).Nodup) (member : (key, value) ∈ items) :
    (ofList items).get? key = some value := by
  have built : ∀ d : Dict κ α,
      (items.foldl (fun d item => d.insert item.1 item.2) d).get? key = some value := by
    induction items with
    | nil => simp at member
    | cons item rest ih =>
      intro d
      simp only [map_cons, nodup_cons] at nodup
      rcases mem_cons.mp member with here | tail
      · subst here
        rw [foldl_cons, get?_foldl_insert_of_notMem nodup.1, get?_insert_self]
      · exact ih nodup.2 tail _
  exact built empty

/-- The lookups of two dicts that are built from one list of sources. -/
theorem get?_ofList_map {σ γ : Type} (sources : List σ) (key : σ → κ) (f : σ → α) (g : α → γ)
    (k : κ) : (ofList (sources.map fun source => (key source, g (f source)))).get? k =
      ((ofList (sources.map fun source => (key source, f source))).get? k).map g := by
  have built : ∀ (d : Dict κ α) (e : Dict κ γ), (∀ k, e.get? k = (d.get? k).map g) → ∀ k,
      ((sources.map fun source => (key source, g (f source))).foldl
        (fun d item => d.insert item.1 item.2) e).get? k =
      (((sources.map fun source => (key source, f source)).foldl
        (fun d item => d.insert item.1 item.2) d).get? k).map g := by
    induction sources with
    | nil => intro d e same; exact same
    | cons source rest ih =>
      intro d e same
      refine ih _ _ fun k => ?_
      rw [get?_insert, get?_insert]
      split
      · rfl
      · exact same k
  exact built empty empty (fun _ => rfl) k

theorem bind_replaces {key : κ} {old : α} (value : α) {items : List (κ × α)}
    (h : lookup key items = some old) :
    ∃ before after, items.map Prod.snd = before ++ old :: after ∧
      (bind key value items).map Prod.snd = before ++ value :: after := by
  induction items with
  | nil => simp [lookup] at h
  | cons item rest ih =>
    obtain ⟨other, head⟩ := item
    by_cases same : other = key
    · have : head = old := by simpa [lookup, same] using h
      exact ⟨[], rest.map Prod.snd, by simp [this], by simp [bind, same]⟩
    · obtain ⟨before, after, left, right⟩ := ih (by simpa [lookup, same] using h)
      exact ⟨head :: before, after, by simp [left], by simp [bind, same, right]⟩

/-- Rebinding a present key exchanges one value in place. -/
theorem insert_replaces (d : Dict κ α) {key : κ} {old : α} (value : α)
    (h : d.get? key = some old) :
    ∃ before after, d.values = before ++ old :: after ∧
      (d.insert key value).values = before ++ value :: after :=
  bind_replaces value h

/-- Binding an absent key adds one value at the end. -/
theorem insert_appends (d : Dict κ α) {key : κ} (value : α) (h : d.get? key = none) :
    (d.insert key value).values = d.values ++ [value] := by
  have absent : key ∉ d.items.map Prod.fst := (lookup_eq_none_iff key d.items).mp h
  have bound : ∀ items : List (κ × α), key ∉ items.map Prod.fst →
      bind key value items = items ++ [(key, value)] := by
    intro items absent
    induction items with
    | nil => rfl
    | cons item rest ih =>
      obtain ⟨other, old⟩ := item
      simp only [map_cons, mem_cons, not_or] at absent
      simp [bind, Ne.symm absent.1, ih absent.2]
  simp [values, insert, bound _ absent]

/-- The number of values with a property moves by the exchanged value alone. -/
theorem countP_insert_replace (d : Dict κ α) {key : κ} {old : α} (value : α) (p : α → Bool)
    (h : d.get? key = some old) :
    (d.insert key value).values.countP p + (p old).toNat = d.values.countP p + (p value).toNat := by
  obtain ⟨before, after, left, right⟩ := d.insert_replaces value h
  rw [left, right]
  cases hp : p old <;> cases hv : p value <;> simp [countP_append, hp, hv] <;> omega

theorem countP_insert_append (d : Dict κ α) {key : κ} (value : α) (p : α → Bool)
    (h : d.get? key = none) :
    (d.insert key value).values.countP p = d.values.countP p + (p value).toNat := by
  rw [d.insert_appends value h]
  cases hv : p value <;> simp [hv]

theorem countP_insert (d : Dict κ α) (key : κ) (value : α) (p : α → Bool) :
    (d.insert key value).values.countP p + ((d.get? key).any p).toNat =
      d.values.countP p + (p value).toNat := by
  cases h : d.get? key with
  | none => simpa using d.countP_insert_append value p h
  | some old => simpa using d.countP_insert_replace value p h

theorem flatMap_insert_perm (d : Dict κ α) {key : κ} {old : α} (value : α) (f : α → List β) (added : List β)
    (h : d.get? key = some old) (grows : f value = f old ++ added) :
    (d.insert key value).values.flatMap f ~ d.values.flatMap f ++ added := by
  obtain ⟨before, after, left, right⟩ := d.insert_replaces value h
  simp only [left, right, flatMap_append, flatMap_cons, grows, append_assoc]
  exact (perm_append_comm.append_left _).append_left _

/-- `pop(key, None)`. -/
def erase (d : Dict κ α) (key : κ) : Dict κ α where
  items := d.items.filter (·.1 ≠ key)
  nodup := d.nodup.sublist ((filter_sublist).map Prod.fst)

theorem lookup_filter_ne (key other : κ) (items : List (κ × α)) :
    lookup other (items.filter (·.1 ≠ key)) = if key = other then none else lookup other items := by
  induction items with
  | nil => simp [lookup]
  | cons item rest ih =>
    obtain ⟨head, value⟩ := item
    by_cases dropped : head = key
    · subst dropped
      by_cases eq : head = other <;> simp_all [lookup]
    · by_cases eq : head = other
      · subst eq
        simp [lookup, dropped, Ne.symm dropped]
      · simp_all [lookup]

theorem get?_erase (d : Dict κ α) (key other : κ) :
    (d.erase key).get? other = if key = other then none else d.get? other :=
  lookup_filter_ne key other d.items

/-- A copy with the bindings whose values the predicate keeps. -/
def filterValues (d : Dict κ α) (keep : α → Bool) : Dict κ α where
  items := d.items.filter (keep ·.2)
  nodup := d.nodup.sublist ((filter_sublist).map Prod.fst)

theorem get?_filterValues_eq_some_iff (d : Dict κ α) {key : κ} {value : α} {keep : α → Bool} :
    (d.filterValues keep).get? key = some value ↔ d.get? key = some value ∧ keep value = true := by
  rw [get?_eq_some_iff, get?_eq_some_iff]
  exact mem_filter

theorem get?_filterValues (d : Dict κ α) {key : κ} {value : α} {keep : α → Bool}
    (bound : d.get? key = some value) (kept : keep value = true) :
    (d.filterValues keep).get? key = some value :=
  (get?_filterValues_eq_some_iff d).mpr ⟨bound, kept⟩

end Dict
