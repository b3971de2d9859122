import Mathlib.Data.List.Basic

/-! Delay lines that forget. A line yields the newest entry that is due, or its oldest one, and
drops entries once a later one is due. Entries come in order and stay due, so what is dropped is
never missed: the yield is that of the complete history. -/
namespace DelayLines
open List

variable {α : Type} (due : α → Bool)

/-- The last of the leading entries that are due, or the given one. -/
def scan (selected : α) : List α → α
  | [] => selected
  | entry :: rest => if due entry then scan entry rest else selected

def select : List α → Option α
  | [] => none
  | first :: rest => some (scan due first (first :: rest))

/-- Drop the first of three or more entries while the second one is due. -/
def prune : List α → List α
  | first :: second :: third :: rest =>
    if due second then prune (second :: third :: rest) else first :: second :: third :: rest
  | short => short

/-- The newest entry that is due, or the oldest entry. -/
def delayed (complete : List α) : Option α :=
  (complete.filter due).getLast?.or complete.head?

/-- The retained part of a history: what was dropped lies before an entry that is due. -/
def Retains (history complete : List α) : Prop :=
  ∃ dropped, complete = dropped ++ history ∧
    (dropped = [] ∨ ∃ first rest, history = first :: rest ∧ due first = true)

/-- Nothing is due after an entry that is not. -/
def InOrder (complete : List α) : Prop :=
  complete.Pairwise fun earlier later => due later = true → due earlier = true

variable {due} {history complete : List α}

theorem retains_refl : Retains due complete complete := ⟨[], rfl, .inl rfl⟩

theorem Retains.append (retains : Retains due history complete) (more : List α) :
    Retains due (history ++ more) (complete ++ more) := by
  obtain ⟨dropped, rfl, free⟩ := retains
  refine ⟨dropped, append_assoc .., free.imp_right ?_⟩
  rintro ⟨first, rest, rfl, ready⟩
  exact ⟨first, rest ++ more, rfl, ready⟩

theorem Retains.later {due' : α → Bool} (retains : Retains due history complete)
    (still : ∀ entry, due entry = true → due' entry = true) : Retains due' history complete := by
  obtain ⟨dropped, whole, free⟩ := retains
  refine ⟨dropped, whole, free.imp_right ?_⟩
  rintro ⟨first, rest, same, ready⟩
  exact ⟨first, rest, same, still first ready⟩

theorem Retains.prune (retains : Retains due history complete) :
    Retains due (prune due history) complete := by
  fun_induction DelayLines.prune due history with
  | case1 first second third rest ready ih =>
    obtain ⟨dropped, rfl, -⟩ := retains
    refine ih ⟨dropped ++ [first], by simp, .inr ⟨second, _, rfl, ready⟩⟩
  | case2 first second third rest waiting => exact retains
  | case3 short _ => exact retains

theorem InOrder.sublist {part : List α} (ordered : InOrder due complete)
    (sublist : part.Sublist complete) : InOrder due part :=
  Pairwise.sublist sublist ordered

theorem scan_eq_getLast (selected : α) {entries : List α} (ordered : InOrder due entries) :
    scan due selected entries = ((entries.filter due).getLast?).getD selected := by
  induction entries generalizing selected with
  | nil => rfl
  | cons entry rest ih =>
    obtain ⟨later, ordered⟩ := pairwise_cons.mp ordered
    rw [scan]
    split
    · next ready =>
      rw [ih entry ordered, filter_cons_of_pos ready, getLast?_cons, Option.getD_some]
    · next waiting =>
      have none : (entry :: rest).filter due = [] := by
        rw [filter_eq_nil_iff]
        intro other among ready
        rcases mem_cons.mp among with rfl | after
        · exact waiting ready
        · exact waiting (later other after ready)
      rw [none]
      rfl

theorem select_eq_delayed_self (ordered : InOrder due history) :
    select due history = delayed due history := by
  cases history with
  | nil => rfl
  | cons first rest =>
    rw [select, scan_eq_getLast first ordered, delayed, head?_cons]
    cases ((first :: rest).filter due).getLast? <;> rfl

theorem Retains.select_eq (retains : Retains due history complete)
    (ordered : InOrder due complete) : select due history = delayed due complete := by
  obtain ⟨dropped, rfl, free⟩ := retains
  rw [select_eq_delayed_self (ordered.sublist (sublist_append_right ..))]
  rcases free with rfl | ⟨first, rest, rfl, ready⟩
  · rfl
  · have due_first : (first :: rest).filter due ≠ [] := by
      rw [filter_cons_of_pos ready]
      exact cons_ne_nil _ _
    rw [delayed, delayed, filter_append, getLast?_append_of_ne_nil _ due_first]
    cases last : ((first :: rest).filter due).getLast? with
    | none => exact absurd (getLast?_eq_none_iff.mp last) due_first
    | some entry => rfl

theorem run_keeps {T M I : Type} [LE T] {step : M → I → Option M} {time : I → T}
    {P : T → M → Prop} (keeps : ∀ now m input, P now m → now ≤ time input →
      ∃ m', step m input = some m' ∧ P (time input) m') {now : T} {m : M} {inputs : List I}
    (initial : P now m) (forward : (now :: inputs.map time).IsChain (· ≤ ·)) :
    ∃ m', inputs.foldlM step m = some m' ∧ P ((inputs.map time).getLastD now) m' := by
  induction inputs generalizing now m with
  | nil => exact ⟨m, rfl, initial⟩
  | cons input rest ih =>
    obtain ⟨later, forward⟩ := isChain_cons_cons.mp forward
    obtain ⟨next, stepped, kept⟩ := keeps now m input initial later
    obtain ⟨last, ran, held⟩ := ih kept forward
    refine ⟨last, ?_, ?_⟩
    · rw [foldlM_cons, stepped]
      exact ran
    · rwa [map_cons, getLastD_cons]

theorem run_counts {M I : Type} {step : M → I → Option M} {size : M → Nat}
    (grows : ∀ m input m', step m input = some m' → size m' ≤ size m + 1) {m m' : M}
    {inputs : List I} (ran : inputs.foldlM step m = some m') :
    size m' ≤ size m + inputs.length := by
  induction inputs generalizing m with
  | nil =>
    cases ran
    exact Nat.le_refl _
  | cons input rest ih =>
    rw [foldlM_cons] at ran
    obtain ⟨next, stepped, ran⟩ := Option.bind_eq_some_iff.mp ran
    have once := grows m input next stepped
    have more := ih ran
    rw [length_cons]
    omega

end DelayLines
