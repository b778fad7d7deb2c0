import TrafficFabric.Lib.Runs
import Mathlib.Logic.Function.Basic

set_option autoImplicit false

/- Programs that share a state. A program is a sequence of actions, each taken as a whole; what other
programs do falls between two of them. -/
namespace Interleaving

/-- What is left of a program: a value, or an action and how it goes on with the answer. -/
inductive Program (Action : Type) (Answer : Action → Type) (α : Type)
  | done (value : α)
  | call (action : Action) (next : Answer action → Program Action Answer α)

variable {State Action α β Thread : Type} {Answer : Action → Type}

namespace Program

def bind (program : Program Action Answer α) (next : α → Program Action Answer β) :
    Program Action Answer β :=
  match program with
  | done value => next value
  | call action rest => call action fun answer => (rest answer).bind next

instance : Monad (Program Action Answer) where
  pure := done
  bind := bind

/-- An action by itself. -/
def act (action : Action) : Program Action Answer (Answer action) := call action done

end Program

open Program

variable (perform : (action : Action) → State → Answer action × State)

/-! A program by itself. -/

def run : Program Action Answer α → State → α × State
  | .done value, state => (value, state)
  | .call action next, state => run (next (perform action state).1) (perform action state).2

@[simp] theorem run_pure (value : α) (state : State) :
    run perform (pure value : Program Action Answer α) state = (value, state) := rfl

@[simp] theorem run_bind (program : Program Action Answer α) (next : α → Program Action Answer β)
    (state : State) :
    run perform (program >>= next) state =
      run perform (next (run perform program state).1) (run perform program state).2 := by
  induction program generalizing state with
  | done value => rfl
  | call action rest ih => exact ih (perform action state).1 (perform action state).2

/-- An action in front. -/
@[simp] theorem run_call (action : Action) (next : Answer action → Program Action Answer α)
    (state : State) :
    run perform (act action >>= next) state =
      run perform (next (perform action state).1) (perform action state).2 := rfl

@[simp] theorem run_ite (condition : Prop) [Decidable condition] (first second : Program Action Answer α)
    (state : State) :
    run perform (if condition then first else second) state =
      if condition then run perform first state else run perform second state := by
  split <;> rfl

/-! Programs that take turns. -/

structure Pool (State Action : Type) (Answer : Action → Type) (α Thread : Type) where
  state : State
  threads : Thread → Program Action Answer α

namespace Pool

variable [DecidableEq Thread]

/-- The thread whose turn it is takes its next action; one that is done takes none. -/
def step (pool : Pool State Action Answer α Thread) (turn : Thread) : Pool State Action Answer α Thread :=
  match pool.threads turn with
  | .done _ => pool
  | .call action next =>
      { state := (perform action pool.state).2
        threads := Function.update pool.threads turn (next (perform action pool.state).1) }

def run (pool : Pool State Action Answer α Thread) (schedule : List Thread) :
    Pool State Action Answer α Thread :=
  schedule.foldl (step perform) pool

variable {perform}

theorem step_done {pool : Pool State Action Answer α Thread} {turn : Thread} {value : α}
    (done : pool.threads turn = .done value) : step perform pool turn = pool := by
  unfold step
  rw [done]

theorem step_call {pool : Pool State Action Answer α Thread} {turn : Thread} {action : Action}
    {next : Answer action → Program Action Answer α} (left : pool.threads turn = .call action next) :
    step perform pool turn =
      { state := (perform action pool.state).2
        threads := Function.update pool.threads turn (next (perform action pool.state).1) } := by
  unfold step
  rw [left]

/-- What every action keeps, every interleaving keeps. -/
theorem keeps (holds : State → Prop)
    (action_keeps : ∀ action state, holds state → holds (perform action state).2)
    {pool : Pool State Action Answer α Thread} (start : holds pool.state) (schedule : List Thread) :
    holds (run perform pool schedule).state := by
  refine Runs.invariant (fun pool : Pool State Action Answer α Thread => holds pool.state) ?_ start
    (Runs.along_true pool schedule)
  intro pool turn before _
  cases left : pool.threads turn with
  | done value =>
      rw [step_done left]
      exact before
  | call action next =>
      rw [step_call left]
      exact action_keeps action pool.state before

/-- The action whose turn it is meets the condition. -/
def Meets (meets : Action → State → Prop) (pool : Pool State Action Answer α Thread)
    (turn : Thread) : Prop :=
  ∀ action next, pool.threads turn = .call action next → meets action pool.state

end Pool

/-- Every action of the program meets the condition when the program runs by itself. -/
def Met (meets : Action → State → Prop) : Program Action Answer α → State → Prop
  | .done _, _ => True
  | .call action next, state =>
      meets action state ∧ Met meets (next (perform action state).1) (perform action state).2

theorem Met.pure {meets : Action → State → Prop} (value : α) (state : State) :
    Met perform meets (Pure.pure value : Program Action Answer α) state := trivial

theorem Met.act {meets : Action → State → Prop} {action : Action}
    {next : Answer action → Program Action Answer α}
    {state : State} (here : meets action state)
    (later : Met perform meets (next (perform action state).1) (perform action state).2) :
    Met perform meets (act action >>= next) state := ⟨here, later⟩

theorem Met.bind {meets : Action → State → Prop} {program : Program Action Answer β}
    {next : β → Program Action Answer α} {state : State} (first : Met perform meets program state)
    (second : Met perform meets (next (run perform program state).1) (run perform program state).2) :
    Met perform meets (program >>= next) state := by
  induction program generalizing state with
  | done value => exact second
  | call action rest ih => exact ⟨first.1, ih (perform action state).1 first.2 second⟩

theorem bind_assoc {γ : Type} (program : Program Action Answer α) (first : α → Program Action Answer β)
    (second : β → Program Action Answer γ) :
    (program >>= first) >>= second = program >>= fun value => first value >>= second := by
  induction program with
  | done value => rfl
  | call action next ih =>
      show Program.call action (fun answer => (next answer >>= first) >>= second) = _
      rw [funext ih]
      rfl

theorem bind_done (program : Program Action Answer α) : program >>= Program.done = program := by
  induction program with
  | done value => rfl
  | call action next ih =>
      show Program.call action (fun answer => next answer >>= Program.done) = _
      rw [funext ih]

namespace Pool

variable [DecidableEq Thread]

theorem run_append (pool : Pool State Action Answer α Thread) (first second : List Thread) :
    run perform pool (first ++ second) = run perform (run perform pool first) second := List.foldl_append

/-- A thread that keeps the turn until the first part of its program is done. -/
theorem advance (meets : Action → State → Prop) (program : Program Action Answer β)
    {next : β → Program Action Answer α} {pool : Pool State Action Answer α Thread} {thread : Thread}
    (ready : pool.threads thread = program >>= next) :
    ∃ schedule, (Met perform meets program pool.state →
      Runs.Along (step perform) (Meets meets) pool schedule) ∧
      run perform pool schedule =
        { state := (Interleaving.run perform program pool.state).2
          threads := Function.update pool.threads thread
            (next (Interleaving.run perform program pool.state).1) } := by
  induction program generalizing pool with
  | done value =>
      refine ⟨[], fun _ => trivial, ?_⟩
      have same : Function.update pool.threads thread (next value) = pool.threads := by
        rw [show next value = pool.threads thread from ready.symm]
        exact Function.update_eq_self thread pool.threads
      show pool = ⟨pool.state, Function.update pool.threads thread (next value)⟩
      rw [same]
  | call action rest ih =>
      have left : pool.threads thread = .call action fun answer => rest answer >>= next := ready
      have turned : (step perform pool thread).threads thread =
          rest (perform action pool.state).1 >>= next := by
        rw [step_call left]
        exact Function.update_self _ _ _
      obtain ⟨schedule, met, reached⟩ := ih (perform action pool.state).1 turned
      refine ⟨thread :: schedule, ?_, ?_⟩
      · rintro ⟨here, later⟩
        refine ⟨?_, met ?_⟩
        · intro other after same
          rw [left] at same
          cases same
          exact here
        · rw [step_call left]
          exact later
      · show run perform (step perform pool thread) schedule = _
        rw [reached, step_call left]
        dsimp only
        rw [Function.update_idem]
        rfl

/-- A thread that keeps the turn until it is done. -/
theorem alone (meets : Action → State → Prop) (program : Program Action Answer α)
    {pool : Pool State Action Answer α Thread} {thread : Thread} (ready : pool.threads thread = program) :
    ∃ schedule, (Met perform meets program pool.state →
      Runs.Along (step perform) (Meets meets) pool schedule) ∧
      run perform pool schedule =
        { state := (Interleaving.run perform program pool.state).2
          threads := Function.update pool.threads thread
            (.done (Interleaving.run perform program pool.state).1) } :=
  advance perform meets program (ready.trans (bind_done program).symm)

/-- Threads that run one after the other. -/
theorem in_turn (programs : List (Program Action Answer α))
    (pool : Pool State Action Answer α Nat) (first : Nat)
    (ready : ∀ place (within : place < programs.length), pool.threads (first + place) = programs[place]) :
    ∃ schedule, (run perform pool schedule).state =
      programs.foldl (fun state program => (Interleaving.run perform program state).2) pool.state := by
  induction programs generalizing pool first with
  | nil => exact ⟨[], rfl⟩
  | cons program rest ih =>
      have here : pool.threads first = program := ready 0 (Nat.succ_pos _)
      obtain ⟨own, -, reached⟩ := alone perform (fun _ _ => True) program here
      let next : Pool State Action Answer α Nat :=
        { state := (Interleaving.run perform program pool.state).2
          threads := Function.update pool.threads first
            (.done (Interleaving.run perform program pool.state).1) }
      obtain ⟨schedule, ended⟩ := ih next (first + 1) (by
        intro place within
        show Function.update pool.threads first _ (first + 1 + place) = rest[place]
        rw [Function.update_of_ne (by omega), Nat.add_assoc, Nat.add_comm 1 place]
        exact ready (place + 1) (Nat.succ_lt_succ within))
      refine ⟨own ++ schedule, ?_⟩
      rw [run_append, reached]
      exact ended

end Pool

/- A program by itself is not run to look at its type. -/
attribute [irreducible] Met

end Interleaving
