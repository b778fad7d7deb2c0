import Mathlib.Data.List.Induction

set_option autoImplicit false

/- Runs of a step function, and the rules by which a fact about one step becomes a fact about
every run. -/
namespace Runs

variable {State Input : Type} (step : State → Input → State)

/-- Every input of the run meets the condition in the state it is taken in. -/
def Along (meets : State → Input → Prop) : State → List Input → Prop
  | _, [] => True
  | state, input :: rest => meets state input ∧ Along meets (step state input) rest

variable {step} {meets : State → Input → Prop}

theorem along_append {state : State} {first second : List Input} :
    Along step meets state (first ++ second) ↔
      Along step meets state first ∧ Along step meets (first.foldl step state) second := by
  induction first generalizing state with
  | nil => simp [Along]
  | cons input rest ih => rw [List.cons_append, Along, Along, ih, List.foldl_cons, and_assoc]

theorem along_mono {wider : State → Input → Prop} (widen : ∀ state input, meets state input →
    wider state input)
    {state : State} {inputs : List Input} (along : Along step meets state inputs) :
    Along step wider state inputs := by
  induction inputs generalizing state with
  | nil => trivial
  | cons input rest ih => exact ⟨widen _ _ along.1, ih along.2⟩

/-- Two conditions that agree wherever an invariant holds are met along the same runs. -/
theorem along_iff (holds : State → Prop) {other : State → Input → Prop}
    (keeps : ∀ state input, holds state → holds (step state input))
    (agree : ∀ state input, holds state → (meets state input ↔ other state input))
    {state : State} {inputs : List Input} (start : holds state) :
    Along step meets state inputs ↔ Along step other state inputs := by
  induction inputs generalizing state with
  | nil => exact Iff.rfl
  | cons input rest ih => exact and_congr (agree state input start) (ih (keeps state input start))

/-- Where nothing is asked of the steps, every run will do. -/
theorem along_true (state : State) (inputs : List Input) :
    Along step (fun _ _ => True) state inputs := by
  induction inputs generalizing state with
  | nil => trivial
  | cons input rest ih => exact ⟨trivial, ih (step state input)⟩

/-- What each step that meets the condition keeps, every run keeps. -/
theorem invariant (holds : State → Prop)
    (keeps : ∀ state input, holds state → meets state input → holds (step state input))
    {state : State} {inputs : List Input} (start : holds state)
    (along : Along step meets state inputs) : holds (inputs.foldl step state) := by
  induction inputs generalizing state with
  | nil => exact start
  | cons input rest ih => exact ih (keeps state input start along.1) along.2

/-- The same for a fact that also speaks of the inputs so far. -/
theorem history (holds : List Input → State → Prop) {state : State}
    (start : holds [] state)
    (keeps : ∀ past input, holds past (past.foldl step state) → meets (past.foldl step state) input →
      holds (past ++ [input]) (step (past.foldl step state) input))
    {inputs : List Input} (along : Along step meets state inputs) :
    holds inputs (inputs.foldl step state) := by
  -- From the right: the last input is the one whose step is looked at.
  induction inputs using List.reverseRecOn with
  | nil => exact start
  | append_singleton past input ih =>
      obtain ⟨before, last, -⟩ := along_append.1 along
      rw [List.foldl_append]
      exact keeps past input (ih before) last

end Runs
