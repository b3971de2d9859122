import Mathlib.Data.List.Basic

/-! Bounded buffers that drop their oldest item to make room, and the account of what becomes of
the items put into one. -/
namespace Buffers

variable {α β : Type}

structure Buffer (α : Type) where
  capacity : Nat
  items : List α
  positive : 0 < capacity
  bounded : items.length ≤ capacity

namespace Buffer

def empty (capacity : Nat) (positive : 0 < capacity) : Buffer α :=
  ⟨capacity, [], positive, Nat.zero_le _⟩

def isFull (buffer : Buffer α) : Bool := buffer.capacity ≤ buffer.items.length

/-- The item that has to go for another one. -/
def displaced (buffer : Buffer α) : List α := if buffer.isFull then buffer.items.take 1 else []

def kept (buffer : Buffer α) : List α := if buffer.isFull then buffer.items.tail else buffer.items

theorem displaced_append_kept (buffer : Buffer α) :
    buffer.displaced ++ buffer.kept = buffer.items := by
  by_cases full : buffer.isFull
  · simp only [displaced, kept, full, if_true, ← List.drop_one, List.take_append_drop]
  · simp [displaced, kept, full]

theorem length_displaced (buffer : Buffer α) :
    buffer.displaced.length = if buffer.isFull then 1 else 0 := by
  by_cases full : buffer.isFull
  · have room := buffer.positive
    have whole : buffer.capacity ≤ buffer.items.length := by simpa [isFull] using full
    simp only [displaced, full, if_true, List.length_take]
    omega
  · simp [displaced, full]

theorem length_kept_lt (buffer : Buffer α) : buffer.kept.length < buffer.capacity := by
  have room := buffer.positive
  have bounded := buffer.bounded
  by_cases full : buffer.isFull
  · simp only [kept, full, if_true, List.length_tail]
    omega
  · have free : buffer.items.length < buffer.capacity := by simpa [isFull] using full
    simpa [kept, full] using free

def put (buffer : Buffer α) (item : α) : Buffer α where
  capacity := buffer.capacity
  items := buffer.kept ++ [item]
  positive := buffer.positive
  bounded := by
    rw [List.length_append, List.length_singleton]
    exact buffer.length_kept_lt

/-- Without its oldest item, if it has one. -/
def pop (buffer : Buffer α) : Buffer α where
  capacity := buffer.capacity
  items := buffer.items.tail
  positive := buffer.positive
  bounded := by
    rw [List.length_tail]
    exact Nat.le_trans (Nat.sub_le _ _) buffer.bounded

@[simp] theorem items_put (buffer : Buffer α) (item : α) :
    (buffer.put item).items = buffer.kept ++ [item] := rfl
@[simp] theorem items_pop (buffer : Buffer α) : buffer.pop.items = buffer.items.tail := rfl
theorem length_items_put (buffer : Buffer α) (item : α) :
    (buffer.put item).items.length + buffer.displaced.length = buffer.items.length + 1 := by
  have split := congrArg List.length buffer.displaced_append_kept
  rw [List.length_append] at split
  simp only [items_put, List.length_append, List.length_singleton]
  omega

end Buffer

/-- Everything that entered a buffer, and what has left it one way or the other. -/
structure Ledger (α : Type) where
  entered : List α := []
  taken : List α := []
  dropped : List α := []

namespace Ledger

def put (ledger : Ledger α) (buffer : Buffer α) (item : α) : Ledger α where
  entered := ledger.entered ++ [item]
  taken := ledger.taken
  dropped := ledger.dropped ++ buffer.displaced

def pop (ledger : Ledger α) (buffer : Buffer α) : Ledger α :=
  { ledger with taken := ledger.taken ++ buffer.items.take 1 }

/-- The items of the buffer are the last that entered; all before them were taken or dropped, and
those that were taken in order. -/
def Balances (ledger : Ledger α) (buffer : Buffer α) : Prop :=
  ∃ gone, ledger.entered = gone ++ buffer.items ∧
    gone.Perm (ledger.taken ++ ledger.dropped) ∧ ledger.taken.Sublist gone

variable {ledger : Ledger α} {buffer : Buffer α} {item : α}

theorem balances_empty (capacity : Nat) (positive : 0 < capacity) :
    ({} : Ledger α).Balances (.empty capacity positive) :=
  ⟨[], rfl, .nil, .slnil⟩

theorem Balances.put (balances : ledger.Balances buffer) (item : α) :
    (ledger.put buffer item).Balances (buffer.put item) := by
  obtain ⟨gone, entered, accounted, inOrder⟩ := balances
  refine ⟨gone ++ buffer.displaced, ?_, ?_, ?_⟩
  · simp only [Ledger.put, Buffer.items_put, entered]
    rw [← buffer.displaced_append_kept]
    simp
  · rw [Ledger.put, ← List.append_assoc]
    exact accounted.append_right _
  · exact inOrder.trans (List.sublist_append_left gone buffer.displaced)

theorem Balances.pop (balances : ledger.Balances buffer) :
    (ledger.pop buffer).Balances buffer.pop := by
  obtain ⟨gone, entered, accounted, inOrder⟩ := balances
  refine ⟨gone ++ buffer.items.take 1, ?_, ?_, ?_⟩
  · simp only [Ledger.pop, Buffer.items_pop, entered, List.append_assoc, ← List.drop_one,
      List.take_append_drop]
  · have shuffled : (ledger.taken ++ ledger.dropped ++ buffer.items.take 1).Perm
        (ledger.taken ++ buffer.items.take 1 ++ ledger.dropped) := by
      rw [List.append_assoc, List.append_assoc]
      exact List.perm_append_comm.append_left ledger.taken
    exact (accounted.append_right _).trans shuffled
  · exact inOrder.append_right _

theorem Balances.length (balances : ledger.Balances buffer) :
    ledger.entered.length = ledger.taken.length + ledger.dropped.length + buffer.items.length := by
  obtain ⟨gone, entered, accounted, -⟩ := balances
  rw [entered, List.length_append, accounted.length_eq, List.length_append]

theorem Balances.sublist (balances : ledger.Balances buffer) : ledger.taken.Sublist ledger.entered := by
  obtain ⟨gone, entered, -, inOrder⟩ := balances
  rw [entered]
  exact inOrder.trans (List.sublist_append_left gone buffer.items)

end Ledger

end Buffers
