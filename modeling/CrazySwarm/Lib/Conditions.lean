import Mathlib.Data.List.Basic

/-! Condition variables. A sleeper waits until it is notified, and has its wake-up pending from
then until it runs. -/

structure Condition (κ : Type) where
  locked : Bool := false
  sleeping : List κ := []
  woken : List κ := []
  deriving DecidableEq, Repr

namespace Condition

variable {κ : Type} {c : Condition κ} {key other : κ}

def acquire (c : Condition κ) : Condition κ := { c with locked := true }
def release (c : Condition κ) : Condition κ := { c with locked := false }

/-- The part of `wait` before it suspends, which lets go of the lock. -/
def sleep (key : κ) (c : Condition κ) : Condition κ :=
  { c with locked := false, sleeping := c.sleeping ++ [key] }

def notify (n : Nat) (c : Condition κ) : Condition κ :=
  { c with sleeping := c.sleeping.drop n, woken := c.woken ++ c.sleeping.take n }

def notifyAll (c : Condition κ) : Condition κ := c.notify c.sleeping.length

/-- The sleeper has been suspended and has not run since. -/
def Waits (c : Condition κ) (key : κ) : Prop := key ∈ c.sleeping ∨ key ∈ c.woken

/-- No one sleeps while what all sleepers wait for holds. -/
def Alert (c : Condition κ) (holds : Prop) : Prop := c.sleeping ≠ [] → ¬holds

@[simp] theorem sleeping_acquire : c.acquire.sleeping = c.sleeping := rfl
@[simp] theorem sleeping_release : c.release.sleeping = c.sleeping := rfl
@[simp] theorem locked_acquire : c.acquire.locked = true := rfl
@[simp] theorem locked_release : c.release.locked = false := rfl
@[simp] theorem locked_notify {n : Nat} : (c.notify n).locked = c.locked := rfl
@[simp] theorem locked_notifyAll : c.notifyAll.locked = c.locked := rfl
@[simp] theorem locked_sleep : (c.sleep key).locked = false := rfl
@[simp] theorem waits_acquire : c.acquire.Waits key ↔ c.Waits key := Iff.rfl
@[simp] theorem waits_release : c.release.Waits key ↔ c.Waits key := Iff.rfl

@[simp] theorem sleeping_notifyAll : c.notifyAll.sleeping = [] := List.drop_length

theorem waits_sleep_self : (c.sleep key).Waits key :=
  .inl (List.mem_append_right _ (List.mem_singleton_self _))

theorem Waits.sleep (waits : c.Waits key) : (c.sleep other).Waits key :=
  waits.imp (List.mem_append_left _) id

/-- A notification turns sleepers into woken ones. -/
theorem Waits.notify {n : Nat} (waits : c.Waits key) : (c.notify n).Waits key := by
  rcases waits with asleep | awake
  · rw [← List.take_append_drop n c.sleeping, List.mem_append] at asleep
    rcases asleep with taken | left
    · exact .inr (List.mem_append_right _ taken)
    · exact .inl left
  · exact .inr (List.mem_append_left _ awake)

theorem Waits.notifyAll (waits : c.Waits key) : c.notifyAll.Waits key := waits.notify

theorem alert_notifyAll {holds : Prop} : c.notifyAll.Alert holds :=
  fun asleep => absurd sleeping_notifyAll asleep

theorem Alert.notify {n : Nat} {holds : Prop} (alert : c.Alert holds) : (c.notify n).Alert holds := by
  refine fun asleep => alert fun none => asleep ?_
  rw [Condition.notify, none, List.drop_nil]

/-- Whoever waits while no one need sleep has its wake-up pending. -/
theorem Alert.woken {holds : Prop} (alert : c.Alert holds) (given : holds) (waits : c.Waits key) :
    key ∈ c.woken := by
  rcases waits with asleep | awake
  · exact absurd given (alert (List.ne_nil_of_mem asleep))
  · exact awake

variable [DecidableEq κ]

/-- What `wait` does first when it resumes: its sleeper waits no more. -/
def leave (key : κ) (c : Condition κ) : Condition κ :=
  { c with sleeping := c.sleeping.filter (· ≠ key), woken := c.woken.filter (· ≠ key) }

@[simp] theorem locked_leave : (c.leave key).locked = c.locked := rfl

theorem Waits.leave (waits : c.Waits key) (apart : key ≠ other) : (c.leave other).Waits key := by
  have kept : decide (key ≠ other) = true := decide_eq_true apart
  exact waits.imp (fun asleep => List.mem_filter.mpr ⟨asleep, kept⟩)
    fun awake => List.mem_filter.mpr ⟨awake, kept⟩

theorem Alert.leave {holds : Prop} (alert : c.Alert holds) : (c.leave key).Alert holds := by
  refine fun asleep => alert fun none => asleep ?_
  rw [Condition.leave, none, List.filter_nil]

end Condition
