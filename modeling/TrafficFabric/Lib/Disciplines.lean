import TrafficFabric.Lib.Interleaving

set_option autoImplicit false

/- Rely and guarantee. Notes are taken of the actions of a pool, and conditions on an action may speak of
them; a thread relies on what the actions of the others are permitted to do. -/
namespace Interleaving

open Program

variable {State Action Notes Thread α β : Type} {Answer : Action → Type}

/-- Every action the program may come to meets the condition. -/
def Program.All (meets : Action → Prop) : Program Action Answer α → Prop
  | .done _ => True
  | .call action next => meets action ∧ ∀ answer, (next answer).All meets

theorem Program.All.act {meets : Action → Prop} {action : Action}
    {next : Answer action → Program Action Answer α}
    (first : meets action) (second : ∀ answer, (next answer).All meets) :
    (Program.act action >>= next).All meets := ⟨first, second⟩

theorem Program.All.all (program : Program Action Answer α) : program.All fun _ => True := by
  induction program with
  | done value => trivial
  | call action rest ih => exact ⟨trivial, ih⟩

/-- Every value the program may come to meets the condition. -/
def Program.Ends (holds : α → Prop) : Program Action Answer α → Prop
  | .done value => holds value
  | .call _ next => ∀ answer, (next answer).Ends holds

variable (perform : (action : Action) → State → Answer action × State)

theorem Met.of_all {meets : Action → State → Prop} {allowed : Action → Prop}
    (widen : ∀ action state, allowed action → meets action state) {program : Program Action Answer α}
    (all : program.All allowed) (state : State) : Met perform meets program state := by
  induction program generalizing state with
  | done value => exact Met.pure perform value state
  | call action rest ih => exact Met.act perform (widen action state all.1) (ih _ (all.2 _) _)

/-- What is noted of an action, when it may be taken, what it is then permitted to be, and what each thread
may rely on while the others act. -/
structure Discipline (Thread Notes : Type) where
  note : Thread → Action → State → Notes → Notes
  meets : Thread → Action → State × Notes → Prop
  permitted : Thread → Action → State × Notes → Prop
  rely : Thread → State × Notes → State × Notes → Prop
  refl : ∀ thread world, rely thread world world
  trans : ∀ {thread first second third}, rely thread first second → rely thread second third →
    rely thread first third
  respects : ∀ {turn other action world}, other ≠ turn → permitted turn action world →
    rely other world ((perform action world.1).2, note turn action world.1 world.2)

namespace Discipline

variable {perform} (discipline : Discipline perform Thread Notes)

/-- What an action leaves behind. -/
def after (thread : Thread) (action : Action) (world : State × Notes) : State × Notes :=
  ((perform action world.1).2, discipline.note thread action world.1 world.2)

/-- Between two actions of the program the others move the world as it is relied on; in the worlds that meet
the condition each of its own actions is permitted. -/
def Behaves (thread : Thread) (post : α → State × Notes → Prop) :
    Program Action Answer α → State × Notes → Prop
  | .done value, world => ∀ later, discipline.rely thread world later → post value later
  | .call action next, world => ∀ later, discipline.rely thread world later →
      discipline.meets thread action later → discipline.permitted thread action later ∧
        Behaves thread post (next (perform action later.1).1) (discipline.after thread action later)

variable {discipline} {thread : Thread}

namespace Behaves

/-- It does not matter how far the others have come already. -/
theorem later {post : α → State × Notes → Prop} {program : Program Action Answer α}
    {world moved : State × Notes}
    (behaves : discipline.Behaves thread post program world) (relied : discipline.rely thread world moved) :
    discipline.Behaves thread post program moved := by
  cases program with
  | done value => exact fun last further => behaves last (discipline.trans relied further)
  | call action next => exact fun last further => behaves last (discipline.trans relied further)

theorem pure {post : α → State × Notes → Prop} {value : α} {world : State × Notes}
    (holds : ∀ later, discipline.rely thread world later → post value later) :
    discipline.Behaves thread post (Pure.pure value) world := holds

theorem act {post : α → State × Notes → Prop} {action : Action}
    {next : Answer action → Program Action Answer α}
    {world : State × Notes}
    (holds : ∀ later, discipline.rely thread world later → discipline.meets thread action later →
      discipline.permitted thread action later ∧
        discipline.Behaves thread post (next (perform action later.1).1)
          (discipline.after thread action later)) :
    discipline.Behaves thread post (Program.act action >>= next) world := holds

theorem bind {middle : α → State × Notes → Prop} {post : β → State × Notes → Prop}
    {program : Program Action Answer α} {next : α → Program Action Answer β} {world : State × Notes}
    (first : discipline.Behaves thread middle program world)
    (second : ∀ value after, middle value after → discipline.Behaves thread post (next value) after) :
    discipline.Behaves thread post (program >>= next) world := by
  induction program generalizing world with
  | done value => exact second value world (first world (discipline.refl thread world))
  | call action rest ih =>
      intro moved relied met
      obtain ⟨permitted, left⟩ := first moved relied met
      exact ⟨permitted, ih _ left⟩

/-- A value that is only passed on. -/
theorem map {post : β → State × Notes → Prop} (change : α → β) {program : Program Action Answer α}
    {world : State × Notes}
    (behaves : discipline.Behaves thread (fun value => post (change value)) program world) :
    discipline.Behaves thread post (program >>= fun value => Pure.pure (change value)) world := by
  induction program generalizing world with
  | done value => exact behaves
  | call action rest ih =>
      intro moved relied met
      obtain ⟨permitted, left⟩ := behaves moved relied met
      exact ⟨permitted, ih _ left⟩

/-- A program whose actions are all permitted wherever a fact holds that they and the others keep. -/
theorem of_all (holds : State × Notes → Prop) {meets : Action → Prop}
    (stable : ∀ {world moved}, discipline.rely thread world moved → holds world → holds moved)
    (permits : ∀ action world, meets action → holds world → discipline.meets thread action world →
      discipline.permitted thread action world ∧ holds (discipline.after thread action world))
    {program : Program Action Answer α} (all : program.All meets) {world : State × Notes}
    (start : holds world) :
    discipline.Behaves thread (fun _ => holds) program world := by
  induction program generalizing world with
  | done value => exact fun moved relied => stable relied start
  | call action rest ih =>
      intro moved relied met
      obtain ⟨permitted, kept⟩ := permits action moved all.1 (stable relied start) met
      exact ⟨permitted, ih _ (all.2 _) kept⟩

/-- Where every action is permitted, only the values of a program matter. -/
theorem of_ends (permits : ∀ action world, discipline.permitted thread action world) {holds : α → Prop}
    {program : Program Action Answer α} (ends : program.Ends holds) (world : State × Notes) :
    discipline.Behaves thread (fun value _ => holds value) program world := by
  induction program generalizing world with
  | done value => exact fun _ _ => ends
  | call action rest ih => exact fun moved _ _ => ⟨permits action moved, ih _ (ends _) _⟩

theorem mono {middle post : α → State × Notes → Prop}
    (widen : ∀ value world, middle value world → post value world)
    {program : Program Action Answer α} {world : State × Notes}
    (behaves : discipline.Behaves thread middle program world) :
    discipline.Behaves thread post program world := by
  induction program generalizing world with
  | done value => exact fun moved relied => widen value moved (behaves moved relied)
  | call action rest ih =>
      intro moved relied met
      obtain ⟨permitted, left⟩ := behaves moved relied met
      exact ⟨permitted, ih _ left⟩

end Behaves

/-! Pools. -/

variable [DecidableEq Thread]

variable (discipline)

/-- A turn, with a note of the action that is taken. -/
def step (noted : Pool State Action Answer α Thread × Notes) (turn : Thread) :
    Pool State Action Answer α Thread × Notes :=
  (Pool.step perform noted.1 turn,
    match noted.1.threads turn with
    | .done _ => noted.2
    | .call action _ => discipline.note turn action noted.1.state noted.2)

def run (noted : Pool State Action Answer α Thread × Notes) (schedule : List Thread) :
    Pool State Action Answer α Thread × Notes :=
  schedule.foldl discipline.step noted

/-- The action whose turn it is meets the condition. -/
def Meeting (meets : Thread → Action → State × Notes → Prop)
    (noted : Pool State Action Answer α Thread × Notes) (turn : Thread) : Prop :=
  ∀ action next, noted.1.threads turn = .call action next → meets turn action (noted.1.state, noted.2)

variable {discipline}

omit [DecidableEq Thread] in
theorem Meeting.of_call {meets : Thread → Action → State × Notes → Prop}
    {noted : Pool State Action Answer α Thread × Notes} {turn : Thread} {action : Action}
    {next : Answer action → Program Action Answer α} (left : noted.1.threads turn = .call action next)
    (met : meets turn action (noted.1.state, noted.2)) : Meeting meets noted turn := by
  intro other goes same
  rw [left] at same
  cases same
  exact met

/-- The notes do not matter to the pool. -/
theorem run_fst (noted : Pool State Action Answer α Thread × Notes) (schedule : List Thread) :
    (discipline.run noted schedule).1 = Pool.run perform noted.1 schedule := by
  induction schedule generalizing noted with
  | nil => rfl
  | cons turn rest ih => exact ih (discipline.step noted turn)

/-- A condition on the pool alone is met along the run with notes and without. -/
theorem along_fst {meets : Pool State Action Answer α Thread → Thread → Prop}
    {noted : Pool State Action Answer α Thread × Notes} {schedule : List Thread} :
    Runs.Along discipline.step (fun noted turn => meets noted.1 turn) noted schedule ↔
      Runs.Along (Pool.step perform) meets noted.1 schedule := by
  induction schedule generalizing noted with
  | nil => exact Iff.rfl
  | cons turn rest ih => exact and_congr Iff.rfl ih

theorem step_done {noted : Pool State Action Answer α Thread × Notes} {turn : Thread} {value : α}
    (done : noted.1.threads turn = .done value) : discipline.step noted turn = noted := by
  unfold step
  rw [Pool.step_done done, done]

theorem step_call {noted : Pool State Action Answer α Thread × Notes} {turn : Thread} {action : Action}
    {next : Answer action → Program Action Answer α} (left : noted.1.threads turn = .call action next) :
    discipline.step noted turn =
      ({ state := (perform action noted.1.state).2
         threads := Function.update noted.1.threads turn (next (perform action noted.1.state).1) },
        discipline.note turn action noted.1.state noted.2) := by
  unfold step
  rw [Pool.step_call left, left]

/-- Every thread behaves where the pool has come to. -/
def Behaving (discipline : Discipline perform Thread Notes) (post : Thread → α → State × Notes → Prop)
    (noted : Pool State Action Answer α Thread × Notes) : Prop :=
  ∀ thread, discipline.Behaves thread (post thread) (noted.1.threads thread) (noted.1.state, noted.2)

variable {post : Thread → α → State × Notes → Prop}

theorem Behaving.step {noted : Pool State Action Answer α Thread × Notes}
    (behaving : Behaving discipline post noted) (turn : Thread)
    (met : Meeting discipline.meets noted turn) :
    Meeting discipline.permitted noted turn ∧ Behaving discipline post (discipline.step noted turn) := by
  cases left : noted.1.threads turn with
  | done value =>
      constructor
      · intro action next same
        rw [left] at same
        cases same
      · rw [step_done left]
        exact behaving
  | call action next =>
      have own := behaving turn
      rw [left] at own
      obtain ⟨permitted, rest⟩ := own _ (discipline.refl turn _) (met action next left)
      constructor
      · intro other goes same
        rw [left] at same
        cases same
        exact permitted
      · rw [step_call left]
        intro thread
        dsimp only
        by_cases same : thread = turn
        · subst same
          rw [Function.update_self]
          exact rest
        · rw [Function.update_of_ne same]
          exact (behaving thread).later (discipline.respects same permitted)

/-- Threads that behave by themselves behave together, in every order of their turns, and every action that
is taken is permitted. -/
theorem Behaving.run {noted : Pool State Action Answer α Thread × Notes}
    (start : Behaving discipline post noted)
    {schedule : List Thread}
    (along : Runs.Along discipline.step (Meeting discipline.meets) noted schedule) :
    Runs.Along discipline.step (Meeting discipline.permitted) noted schedule ∧
      Behaving discipline post (discipline.run noted schedule) := by
  induction schedule generalizing noted with
  | nil => exact ⟨trivial, start⟩
  | cons turn rest ih =>
      obtain ⟨permitted, next⟩ := start.step turn along.1
      obtain ⟨rested, last⟩ := ih next along.2
      exact ⟨⟨permitted, rested⟩, last⟩

end Discipline

end Interleaving
