import CrazySwarm.Lib.Runs

/-! Runs of a transition function that can fail, with a record of the steps that succeeded. -/
namespace Traces

variable {σ α ε : Type}

/-- A step that succeeded. -/
structure Tick (σ α : Type) where
  before : σ
  input : α
  after : σ

/-- The steps of a run that succeeded; a step that fails may change the state as well. -/
def trace (step : σ → α → σ × Except ε Unit) : σ → List α → List (Tick σ α)
  | _, [] => []
  | s, input :: rest =>
    match step s input with
    | (after, .ok ()) => ⟨s, input, after⟩ :: trace step after rest
    | (after, .error _) => trace step after rest

theorem invariant (step : σ → α → σ × Except ε Unit) {I : List (Tick σ α) → σ → Prop}
    {P : List (Tick σ α) → Tick σ α → Prop}
    (succeeds : ∀ prior s input after, I prior s → step s input = (after, .ok ()) →
      P prior ⟨s, input, after⟩ ∧ I (prior ++ [⟨s, input, after⟩]) after)
    (fails : ∀ prior s input after error, I prior s → step s input = (after, .error error) →
      I prior after)
    {prior : List (Tick σ α)} {s : σ} (holds : I prior s) (inputs : List α) :
    I (prior ++ trace step s inputs) (Runs.run (fun s input => (step s input).1) s inputs) ∧
      ∀ earlier tick later, trace step s inputs = earlier ++ tick :: later →
        P (prior ++ earlier) tick := by
  induction inputs generalizing prior s with
  | nil =>
    refine ⟨by rwa [trace, List.append_nil, Runs.run_nil], fun earlier tick later same => ?_⟩
    cases earlier <;> cases same
  | cons input rest ih =>
    rw [trace, Runs.run_cons]
    obtain ⟨after, result⟩ : ∃ after result, step s input = (after, result) := ⟨_, _, rfl⟩
    obtain ⟨result, stepped⟩ := result
    rw [stepped]
    cases result with
    | error error => exact ih (fails prior s input after error holds stepped)
    | ok done =>
      cases done
      obtain ⟨given, kept⟩ := succeeds prior s input after holds stepped
      obtain ⟨reached, each⟩ := ih kept
      rw [List.append_assoc] at reached
      refine ⟨reached, fun earlier tick later same => ?_⟩
      cases earlier with
      | nil =>
        cases (List.cons.inj same).1
        rwa [List.append_nil]
      | cons first earlier =>
        obtain ⟨first_eq, same_rest⟩ := List.cons.inj same
        have later_given := each earlier tick later same_rest
        subst first_eq
        rwa [List.append_assoc] at later_given

end Traces
