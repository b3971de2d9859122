/-! Finite runs of a deterministic transition function. An input that fails is an
input like any other: its step is whatever state the failing call leaves behind. -/
namespace Runs

variable {σ α : Type} {step : σ → α → σ} {s : σ} {inputs : List α}

def run (step : σ → α → σ) (s : σ) (inputs : List α) : σ := inputs.foldl step s

@[simp] theorem run_nil (step : σ → α → σ) (s : σ) : run step s [] = s := rfl
@[simp] theorem run_cons (step : σ → α → σ) (s : σ) (input : α) (rest : List α) :
    run step s (input :: rest) = run step (step s input) rest := rfl

theorem run_append (step : σ → α → σ) (s : σ) (first later : List α) :
    run step s (first ++ later) = run step (run step s first) later := by
  simp [run]

/-- Every input of the run meets the condition in the state it is taken from. -/
def Along (step : σ → α → σ) (cond : σ → α → Prop) : σ → List α → Prop
  | _, [] => True
  | s, input :: rest => cond s input ∧ Along step cond (step s input) rest

instance Along.decidable (step : σ → α → σ) (cond : σ → α → Prop)
    [∀ s input, Decidable (cond s input)] :
    (s : σ) → (inputs : List α) → Decidable (Along step cond s inputs)
  | _, [] => .isTrue trivial
  | s, input :: rest =>
    have := Along.decidable step cond (step s input) rest
    inferInstanceAs (Decidable (cond s input ∧ Along step cond (step s input) rest))

theorem Along.append {cond : σ → α → Prop} {first later : List α} :
    Along step cond s (first ++ later) ↔
      Along step cond s first ∧ Along step cond (run step s first) later := by
  induction first generalizing s with
  | nil => simp [Along]
  | cons input first ih => simp [Along, ih, and_assoc]

theorem Along.and {cond given : σ → α → Prop} (along : Along step cond s inputs)
    (also : Along step given s inputs) : Along step (fun s input => cond s input ∧ given s input) s
      inputs := by
  induction inputs generalizing s with
  | nil => trivial
  | cons input rest ih => exact ⟨⟨along.1, also.1⟩, ih along.2 also.2⟩

theorem invariant {I : σ → Prop} (preserved : ∀ s input, I s → I (step s input))
    (initial : I s) : I (run step s inputs) := by
  induction inputs generalizing s with
  | nil => exact initial
  | cons input rest ih => exact ih (preserved s input initial)

theorem invariant_along {I : σ → Prop} {cond : σ → α → Prop}
    (preserved : ∀ s input, I s → cond s input → I (step s input))
    (initial : I s) (along : Along step cond s inputs) : I (run step s inputs) := by
  induction inputs generalizing s with
  | nil => exact initial
  | cons input rest ih => exact ih (preserved s input initial along.1) along.2

theorem along_of_invariant {I : σ → Prop} {cond given : σ → α → Prop}
    (preserved : ∀ s input, I s → cond s input → I (step s input))
    (gives : ∀ s input, I s → cond s input → given s input)
    (initial : I s) (along : Along step cond s inputs) : Along step given s inputs := by
  induction inputs generalizing s with
  | nil => trivial
  | cons input rest ih =>
    exact ⟨gives s input initial along.1, ih (preserved s input initial along.1) along.2⟩

theorem along {I : σ → Prop} {given : σ → α → Prop}
    (preserved : ∀ s input, I s → I (step s input)) (gives : ∀ s input, I s → given s input)
    (initial : I s) : Along step given s inputs := by
  induction inputs generalizing s with
  | nil => trivial
  | cons input rest ih => exact ⟨gives s input initial, ih (preserved s input initial)⟩

end Runs
