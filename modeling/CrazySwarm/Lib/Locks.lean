import CrazySwarm.Lib.Coroutines

/-! Locks between the coroutines of an event loop. A lock is a flag of the shared state, and
the waits of a task tell which locks it holds. Whatever the tasks are, they exclude one another
if every segment accounts for the locks that it begins and ends with. -/

structure Locks (σ W κ : Type) [DecidableEq κ] where
  locked : σ → κ → Bool
  turn : κ → Bool → σ → σ
  locked_turn : ∀ s lock flag other,
    locked (turn lock flag s) other = if other = lock then flag else locked s other
  holds : W → κ → Bool

namespace Locks
open Coroutine EventLoop

variable {Λ σ φ W κ : Type} {R : W → Type} {ε α : Type} [DecidableEq κ] (locks : Locks σ W κ)

/-- `lock.acquire()`: a task that finds the lock taken waits for its turn, or is cancelled. -/
def acquire (lock : κ) (on : W) (granted : R on → Except ε Unit) : Coroutine σ W R ε Unit := do
  let s ← get
  if locks.locked s lock then
    wait on fun reply => ofResult (granted reply)
  modify (locks.turn lock true)

/-- `async with lock:`. -/
def withLock (lock : κ) (on : W) (granted : R on → Except ε Unit) (body : Coroutine σ W R ε α) :
    Coroutine σ W R ε α := do
  locks.acquire lock on granted
  ensure body (modify (locks.turn lock false))

/-- What others hold while the segment runs. -/
def others (first : Begun σ W R) (lock : κ) : Bool :=
  locks.locked first.state lock && !first.resumed.any fun ended => locks.holds ended.1 lock

/-- The segment holds these locks and has left those of others as they were. -/
structure Within (first : Begun σ W R) (held : κ → Bool) (s : σ) : Prop where
  locked : ∀ lock, locks.locked s lock = (locks.others first lock || held lock)
  apart : ∀ lock, held lock = true → locks.others first lock = false

section Segments

variable {locks} {first : Begun σ W R} {held : κ → Bool} {s s' : σ} {lock : κ}

theorem Within.congr (within : locks.Within first held s)
    (same : ∀ lock, locks.locked s' lock = locks.locked s lock) : locks.Within first held s' :=
  ⟨fun lock => (same lock).trans (within.locked lock), within.apart⟩

/-- A segment that is resumed holds what it held at the wait. -/
theorem within_resumed {on : W} {reply : R on}
    (kept : ∀ lock, locks.holds on lock = true → locks.locked s lock = true) :
    locks.Within (⟨some ⟨on, reply⟩, s⟩ : Begun σ W R) (locks.holds on) s := by
  constructor
  · intro lock
    have kept := kept lock
    simp only [others, Option.any_some]
    cases held : locks.holds on lock <;> simp_all
  · intro lock held
    simp [others, held]

/-- A segment that begins with a call holds nothing. -/
theorem within_called : locks.Within (⟨none, s⟩ : Begun σ W R) (fun _ => false) s := by
  constructor
  · intro lock
    simp [others]
  · nofun

theorem Within.acquire (within : locks.Within first held s) (free : locks.locked s lock = false) :
    locks.Within first (fun other => decide (other = lock) || held other)
      (locks.turn lock true s) := by
  have outside : locks.others first lock = false := by
    have := within.locked lock
    simp_all
  constructor
  · intro other
    rw [locks.locked_turn, within.locked]
    by_cases same : other = lock
    · simp [same]
    · simp [same]
  · intro other mine
    by_cases same : other = lock
    · exact same ▸ outside
    · exact within.apart other (by simpa [same] using mine)

theorem Within.release (within : locks.Within first held s) (mine : held lock = true) :
    locks.Within first (fun other => !decide (other = lock) && held other)
      (locks.turn lock false s) := by
  constructor
  · intro other
    rw [locks.locked_turn, within.locked]
    by_cases same : other = lock
    · simp [same, within.apart lock mine]
    · simp [same]
  · intro other held
    exact within.apart other (Bool.and_eq_true_iff.mp held).2

variable {rel : φ → W → σ → Prop} {ready : (on : W) → σ → R on → σ → φ → Prop} {start : φ}

theorem meets_acquire {on : W} {granted : R on → Except ε Unit}
    {post : φ → Except ε Unit → σ → Prop}
    (free : locks.locked s lock = false → post start (.ok ()) (locks.turn lock true s))
    (taken : locks.locked s lock = true → rel start on s ∧ ∀ reply later resumed,
      ready on s reply later resumed →
        (granted reply = .ok () → post resumed (.ok ()) (locks.turn lock true later)) ∧
        ∀ error, granted reply = .error error → post resumed (.error error) later) :
    (locks.acquire lock on granted).Meets rel ready post start s := by
  refine meets_bind.mpr (meets_get.mpr ?_)
  cases flag : locks.locked s lock with
  | false =>
    dsimp only
    rw [flag, if_neg (by simp)]
    exact free flag
  | true =>
    dsimp only
    rw [flag, if_pos rfl]
    obtain ⟨waits, resumes⟩ := taken flag
    refine meets_bind.mpr ⟨waits, fun reply later resumed given => ?_⟩
    obtain ⟨grants, fails⟩ := resumes reply later resumed given
    refine meets_ofResult.mpr ?_
    cases answer : granted reply with
    | ok value => exact grants answer
    | error error => exact fails error answer

/-- The body runs with the lock, which is released however the body ends. -/
theorem meets_withLock {on : W} {granted : R on → Except ε Unit} {body : Coroutine σ W R ε α}
    {post : φ → Except ε α → σ → Prop}
    (acquires : (locks.acquire lock on granted).Meets rel ready (fun start result s =>
      match result with
      | .ok () => body.Meets rel ready (fun start result s =>
          post start result (locks.turn lock false s)) start s
      | .error error => post start (.error error) s) start s) :
    (locks.withLock lock on granted body).Meets rel ready post start s := by
  refine meets_bind.mpr (acquires.mono ?_)
  rintro start (error | ⟨⟩) s meets
  · exact meets
  · exact meets_handle.mpr meets

end Segments

section Loops

variable {locks} {program : Λ → Coroutine σ W R ε α} {loop : EventLoop Λ σ W R ε α}
  {turn : Turn Λ W R}

def heldBy (locks : Locks σ W κ) : Coroutine σ W R ε α → κ → Bool
  | .wait on _ => locks.holds on
  | _ => fun _ => false

def Held (locks : Locks σ W κ) (loop : EventLoop Λ σ W R ε α) (task : Nat) (lock : κ) : Prop :=
  ∃ suspended, loop.tasks[task]? = some suspended ∧ locks.heldBy suspended.rest lock = true

structure Exclusive (locks : Locks σ W κ) (loop : EventLoop Λ σ W R ε α) : Prop where
  locked : ∀ task lock, locks.Held loop task lock → locks.locked loop.state lock = true
  one : ∀ task other lock, locks.Held loop task lock → locks.Held loop other lock → task = other

/-- While a segment runs, what another task holds is held by others. -/
theorem others_of_held (exclusive : locks.Exclusive loop) {label : Λ} {before after : σ}
    {rest : Coroutine σ W R ε α}
    (moves : moved program loop turn = some (label, before, after, rest)) {task : Nat} {lock : κ}
    (held : locks.Held loop task lock) (elsewhere : task ≠ loop.index turn) :
    locks.others (loop.begun turn) lock = true := by
  have taken := exclusive.locked task lock held
  rw [others, begun_state, taken, Bool.true_and]
  rcases moved_cases moves with rfl | ⟨since, on, next, reply, found, resumed⟩
  · rfl
  · rw [resumed, Option.any_some, Bool.not_eq_true']
    refine Bool.eq_false_iff.mpr fun holds => ?_
    have own : locks.Held loop (loop.index turn) lock := ⟨_, found, holds⟩
    exact elsewhere (exclusive.one task _ lock held own)

theorem held_of_step {label : Λ} {before after : σ} {rest : Coroutine σ W R ε α}
    (moves : moved program loop turn = some (label, before, after, rest)) {task : Nat} {lock : κ}
    (held : locks.Held (EventLoop.step program loop turn) task lock) :
    task = loop.index turn ∧ locks.heldBy rest lock = true ∨
      task ≠ loop.index turn ∧ locks.Held loop task lock := by
  obtain ⟨suspended, found, holds⟩ := held
  by_cases own : task = loop.index turn
  · left
    rw [own, step_index moves] at found
    cases found
    exact ⟨own, holds⟩
  · right
    rw [step_other _ own] at found
    exact ⟨own, suspended, found, holds⟩

/-- A turn whose segment accounts for its locks keeps the tasks apart. -/
theorem step_exclusive (exclusive : locks.Exclusive loop)
    (within : ∀ label before after rest,
      moved program loop turn = some (label, before, after, rest) →
        locks.Within (loop.begun turn) (locks.heldBy rest) after) :
    locks.Exclusive (EventLoop.step program loop turn) := by
  cases moves : moved program loop turn with
  | none => rwa [step_idle moves]
  | some ended =>
    obtain ⟨label, before, after, rest⟩ := ended
    have within := within label before after rest moves
    have state : (EventLoop.step program loop turn).state = after := by
      rw [step_state, moves]
      rfl
    constructor
    · intro task lock held
      rw [state, within.locked]
      rcases held_of_step moves held with ⟨-, mine⟩ | ⟨elsewhere, held⟩
      · rw [mine, Bool.or_true]
      · rw [others_of_held exclusive moves held elsewhere, Bool.true_or]
    · intro task other lock held held'
      rcases held_of_step moves held with ⟨own, mine⟩ | ⟨elsewhere, held⟩
      · rcases held_of_step moves held' with ⟨own', -⟩ | ⟨elsewhere', held'⟩
        · exact own.trans own'.symm
        · have taken := others_of_held exclusive moves held' elsewhere'
          rw [within.apart lock mine] at taken
          cases taken
      · rcases held_of_step moves held' with ⟨-, mine⟩ | ⟨-, held'⟩
        · have taken := others_of_held exclusive moves held elsewhere
          rw [within.apart lock mine] at taken
          cases taken
        · exact exclusive.one task other lock held held'

end Loops

end Locks
