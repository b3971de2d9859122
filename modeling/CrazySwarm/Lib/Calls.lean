import Mathlib.Logic.Relation

/-! Calls that change a state and may raise. What a call has done stays when it raises, so a call
is judged by the changes between the state it is made in and the state it leaves, however it
ends. -/

/-- A call leaves a result or what it raises, and the state. -/
def Call (σ ε α : Type) : Type := σ → Except ε α × σ

namespace Call

variable {σ ε α β : Type}

def returns (value : α) : Call σ ε α := fun s => (.ok value, s)
def raises (error : ε) : Call σ ε α := fun s => (.error error, s)
def ofResult (result : Except ε α) : Call σ ε α := fun s => (result, s)
def read (f : σ → α) : Call σ ε α := fun s => (.ok (f s), s)
def modify (change : σ → σ) : Call σ ε Unit := fun s => (.ok (), change s)

def andThen (call : Call σ ε α) (next : α → Call σ ε β) : Call σ ε β := fun s =>
  match (call s).1 with
  | .ok value => next value (call s).2
  | .error error => (.error error, (call s).2)

def rescue (call : Call σ ε α) (handler : ε → Call σ ε α) : Call σ ε α := fun s =>
  match (call s).1 with
  | .ok value => (.ok value, (call s).2)
  | .error error => handler error (call s).2

instance : Monad (Call σ ε) where
  pure := returns
  bind := andThen

/-- A call that returns goes on from the state it leaves. -/
theorem bind_of_ok {call : Call σ ε α} {next : α → Call σ ε β} {s : σ} {value : α}
    (returned : (call s).1 = .ok value) : (call >>= next) s = next value (call s).2 := by
  show andThen call next s = _
  simp [andThen, returned]

theorem bind_of_error {call : Call σ ε α} {next : α → Call σ ε β} {s : σ} {error : ε}
    (raised : (call s).1 = .error error) : (call >>= next) s = (.error error, (call s).2) := by
  show andThen call next s = _
  simp [andThen, raised]

/-- How a call is evaluated, step by step. -/
theorem bind_apply (call : Call σ ε α) (next : α → Call σ ε β) (s : σ) :
    (call >>= next) s = match call s with
      | (.ok value, s') => next value s'
      | (.error error, s') => (.error error, s') := by
  cases ends : call s with
  | mk result s' =>
    cases result with
    | ok value =>
      rw [bind_of_ok (congrArg Prod.fst ends)]
      exact congrArg (fun ends => next value ends.2) ends
    | error error =>
      rw [bind_of_error (congrArg Prod.fst ends)]
      exact congrArg (fun ends => (Except.error error, ends.2)) ends

section Ends

variable {ends : Except ε β × σ → Prop} {s : σ}

/-- A call that may raise at once: what it comes to, whichever it does. -/
theorem ends_ofResult {result : Except ε α} {next : α → Call σ ε β}
    (fails : ∀ error, result = .error error → ends (.error error, s))
    (goes : ∀ value, result = .ok value → ends (next value s)) :
    ends ((ofResult result >>= next) s) := by
  rw [bind_apply]
  cases result with
  | error error => exact fails error rfl
  | ok value => exact goes value rfl

theorem ends_read {f : σ → α} {next : α → Call σ ε β} (goes : ends (next (f s) s)) :
    ends ((read f >>= next) s) := goes

/-- A call that leaves the state. -/
theorem ends_quiet {call : Call σ ε α} {next : α → Call σ ε β} (quiet : (call s).2 = s)
    (fails : ∀ error, (call s).1 = .error error → ends (.error error, s))
    (goes : ∀ value, (call s).1 = .ok value → ends (next value s)) :
    ends ((call >>= next) s) := by
  rw [bind_apply]
  generalize call s = done at quiet fails goes
  obtain ⟨result, s'⟩ := done
  cases quiet
  cases result with
  | error error => exact fails error rfl
  | ok value => exact goes value rfl

theorem ends_done {call : Call σ ε α} {next : α → Call σ ε β} {value : α} {s' : σ}
    (done : call s = (.ok value, s')) (goes : ends (next value s')) : ends ((call >>= next) s) := by
  rw [bind_apply, done]
  exact goes

end Ends

structure Makes (change : σ → σ → Prop) (call : Call σ ε α) (s : σ) (post : α → σ → Prop) :
    Prop where
  changes : Relation.ReflTransGen change s (call s).2
  returned : ∀ value, (call s).1 = .ok value → post value (call s).2

section Rules

variable {change : σ → σ → Prop} {s : σ} {post : α → σ → Prop} {final : β → σ → Prop}

theorem makes_any {call : Call σ ε α} : Makes (fun _ _ => True) call s (fun _ _ => True) :=
  ⟨.single trivial, fun _ _ => trivial⟩

theorem makes_pure {value : α} (met : post value s) :
    Makes (ε := ε) change (pure value) s post :=
  ⟨.refl, by rintro _ ⟨⟩; exact met⟩

theorem makes_raises {error : ε} : Makes change (raises error : Call σ ε α) s post :=
  ⟨.refl, nofun⟩

theorem makes_ofResult {result : Except ε α} (met : ∀ value, result = .ok value → post value s) :
    Makes change (ofResult result) s post :=
  ⟨.refl, met⟩

theorem makes_read {f : σ → α} (met : post (f s) s) : Makes (ε := ε) change (read f) s post :=
  ⟨.refl, by rintro _ ⟨⟩; exact met⟩

theorem makes_modify {f : σ → σ} {post : Unit → σ → Prop}
    (changed : Relation.ReflTransGen change s (f s)) (met : post () (f s)) :
    Makes (ε := ε) change (modify f) s post :=
  ⟨changed, fun _ _ => met⟩

theorem Makes.bind {call : Call σ ε α} {next : α → Call σ ε β} (first : Makes change call s post)
    (later : ∀ value s', Relation.ReflTransGen change s s' → post value s' →
      Makes change (next value) s' final) :
    Makes change (call >>= next) s final := by
  cases result : (call s).1 with
  | error error =>
    have stopped : (call >>= next) s = _ := bind_of_error result
    exact ⟨stopped ▸ first.changes, by rw [stopped]; nofun⟩
  | ok value =>
    have went : (call >>= next) s = _ := bind_of_ok result
    have rest := later value _ first.changes (first.returned value result)
    exact ⟨went ▸ first.changes.trans rest.changes, went ▸ rest.returned⟩

theorem Makes.rescue {call : Call σ ε α} {handler : ε → Call σ ε α}
    (first : Makes change call s post)
    (handled : ∀ error s', Relation.ReflTransGen change s s' → Makes change (handler error) s' post) :
    Makes change (call.rescue handler) s post := by
  cases result : (call s).1 with
  | error error =>
    have caught : call.rescue handler s = handler error (call s).2 := by simp [Call.rescue, result]
    have rest := handled error _ first.changes
    exact ⟨caught ▸ first.changes.trans rest.changes, caught ▸ rest.returned⟩
  | ok value =>
    have went : call.rescue handler s = (.ok value, (call s).2) := by simp [Call.rescue, result]
    refine ⟨went ▸ first.changes, ?_⟩
    rw [went]
    rintro _ ⟨⟩
    exact first.returned value result

theorem Makes.mono {call : Call σ ε α} {weaker : α → σ → Prop} (makes : Makes change call s post)
    (weakens : ∀ value s', post value s' → weaker value s') : Makes change call s weaker :=
  ⟨makes.changes, fun value returned => weakens value _ (makes.returned value returned)⟩

end Rules

/-- A call that makes no change leaves the state. -/
theorem Makes.quiet {call : Call σ ε α} {s : σ} {post : α → σ → Prop}
    (makes : Makes (fun _ _ => False) call s post) : (call s).2 = s := by
  rcases makes.changes.cases_tail with same | ⟨_, _, no⟩
  · exact same
  · exact no.elim

end Call
