import TrafficFabric.CommitGate
import TrafficFabric.TransportedScores

set_option autoImplicit false

/- What a proposal is compared with, and what it displaces. The comparison is made by `solve`
with the incumbent of the declare request; the displaced plan is looked up by the commit. -/
namespace TrafficFabric

/-- A comparison that neither holds the incumbent nor rejects the proposal accepts it, unless
there was nothing to compare with. -/
theorem compareChurn_accepts {incumbent proposal : Allocation} {snapshot : FabricSnapshot}
    {policy : Policy} {incumbentScore proposalScore : Int}
    (filled : ¬ (incumbent.demands = [] ∧ incumbent.totalGranted ≤ 0))
    (moves : (compareChurn incumbent proposal snapshot policy incumbentScore proposalScore).decision ≠
        .holdIncumbent ∧
      (compareChurn incumbent proposal snapshot policy incumbentScore proposalScore).decision ≠
        .rejectRegression) :
    (compareChurn incumbent proposal snapshot policy incumbentScore proposalScore).decision = .accept := by
  have compared : (incumbent.demands.isEmpty && decide (incumbent.totalGranted ≤ 0)) = false := by
    rw [Bool.eq_false_iff]
    intro nothing
    rw [Bool.and_eq_true, List.isEmpty_iff, decide_eq_true_eq] at nothing
    exact filled nothing
  unfold compareChurn at moves ⊢
  dsimp only at moves ⊢
  rw [compared] at moves ⊢
  rw [if_neg Bool.false_ne_true] at moves ⊢
  split at moves
  · exact absurd rfl moves.2
  · rename_i better
    rw [if_neg better]
    split at moves
    · rename_i passed
      rw [if_pos passed]
    · exact absurd rfl moves.1

namespace Engine

variable {storage : Storage}

/-- What `solve` was asked of a plan is what the plan was declared with. -/
theorem run_pending {engine : Engine storage} (sound : engine.Sound) {id : PlanId} {plan : Plan}
    (found : engine.plans.find? id = some plan) (operations : List (Operation storage)) :
    (engine.run operations).pendingOf id = engine.pendingOf id := by
  induction operations generalizing engine plan with
  | nil => rfl
  | cons operation rest ih =>
      have advances := apply_advances sound.keyed operation
      obtain ⟨next, present, -⟩ := advances.kept id plan found
      have step : (engine.apply operation).pendingOf id = engine.pendingOf id := by
        rw [apply_eq_call]
        exact call_pending found
      exact (ih (advances.sound sound) present).trans step

/-- An authorized plan that was declared with an incumbent has been compared with it. -/
theorem authorized_compared {config : EngineConfig} {history : List (Operation storage)} {id : PlanId}
    {plan : Plan} (found : ((new config).run history).plans.find? id = some plan)
    (authorized : plan.state = .authorized)
    (asked : (((new config).run history).pendingOf id).hasIncumbent = true) :
    ∃ past ref rest snapshot, history = past ++ .solve ref :: rest ∧ ref.id = id ∧
      ((new config).run past).snapshot = some snapshot ∧
      plan.churn = compareChurn (((new config).run history).pendingOf id).incumbent plan.allocation
        snapshot snapshot.policy
        (scoreAllocation snapshot (((new config).run history).pendingOf id).incumbent).1
        plan.objectiveScore ∧
      plan.churn.decision ≠ .holdIncumbent ∧ plan.churn.decision ≠ .rejectRegression := by
  have key := (run_steady config history).sound.keyed id plan found
  have traced := run_traced config history id plan found
  obtain ⟨past, ref, middle, again, rest, outcome, split,
      ⟨named, before, there, solves, -, made⟩, passed⟩ :=
    traced.authorized authorized
  obtain ⟨-, authorizing, -, gates, kept, -⟩ := passed
  have moves : plan.churn.decision ≠ .holdIncumbent ∧ plan.churn.decision ≠ .rejectRegression := by
    rw [kept.churn]
    exact gates.moves
  obtain ⟨snapshot, present, -, -⟩ := (run_steady config past).liveSound solves.live
  rw [key] at named there
  have beforeKey := (run_steady config past).sound.keyed id before there
  have pending : ((new config).run history).pendingOf id = ((new config).run past).pendingOf id := by
    have later := run_pending (run_steady config past).sound there
      (.solve ref :: (middle ++ .authorize again :: rest))
    rw [split]
    unfold run at later ⊢
    rw [List.foldl_append]
    exact later
  refine ⟨past, ref, middle ++ .authorize again :: rest, snapshot, split, named, present, ?_, moves⟩
  -- The other two branches of the comparison leave a report that is not accepted.
  have churn := made.churn
  rw [proposal_churn, beforeKey, liveSnapshot_eq present, ← pending] at churn
  unfold churnOf at churn
  rw [asked] at churn
  simp only [Bool.not_true, Bool.false_eq_true, if_false] at churn
  split at churn
  · rw [made.allocation, made.objectiveScore]
    exact churn
  · rw [churn] at moves
    exact absurd rfl moves.1

/-- A commit that displaces the incumbent displaces the one that the plan was declared with: the grants are
the same, whatever is said of the resources, and there are some. -/
def Compared (engine : Engine storage) : Operation storage → Prop
  | .commit ref intent => ∀ plan previous, engine.plans.find? ref.id = some plan →
      plan.generation = ref.generation → Commits engine plan intent →
      engine.supersededByCommit plan = some previous →
      (engine.pendingOf ref.id).hasIncumbent = true ∧
        (engine.pendingOf ref.id).incumbent.bare = previous.allocation.bare ∧
        ¬ (previous.allocation.demands = [] ∧ previous.allocation.totalGranted ≤ 0)
  | _ => True

/-- Whatever call commits a plan in place of a committed one, the churn gates have been
evaluated on the allocation of the displaced plan, and they accepted the proposal. Its score is
taken with the resources that the plan was declared with. -/
def Protected (config : EngineConfig) (history : List (Operation storage))
    (operation : Operation storage) : Prop :=
  ∀ id other plan previous later displaced,
    ((new config).run history).plans.find? id = some plan → plan.state ≠ .committed →
    ((new config).run history).plans.find? other = some previous → previous.state = .committed →
    (((new config).run history).apply operation).plans.find? id = some later →
    later.state = .committed →
    (((new config).run history).apply operation).plans.find? other = some displaced →
    displaced.state = .superseded →
    ∃ past ref rest snapshot, history = past ++ .solve ref :: rest ∧ ref.id = id ∧
      ((new config).run past).snapshot = some snapshot ∧
      later.churn = compareChurn previous.allocation later.allocation snapshot snapshot.policy
        (scoreAllocation snapshot { previous.allocation with
          resources := (((new config).run history).pendingOf id).incumbent.resources }).1
        later.objectiveScore ∧
      later.churn.decision = .accept

/-- A plan becomes superseded by a commit in its place, or by an explicit call. -/
theorem superseded_by_call {engine : Engine storage} (keyed : Keyed engine.plans)
    {operation : Operation storage} {id : PlanId} {plan later : Plan}
    (found : engine.plans.find? id = some plan) (committed : plan.state = .committed)
    (present : (engine.call operation).2.plans.find? id = some later)
    (superseded : later.state = .superseded) :
    (∃ ref intent replacement, operation = .commit ref intent ∧
      engine.plans.find? ref.id = some replacement ∧ Commits engine replacement intent ∧
      engine.supersededByCommit replacement = some plan) ∨
    ∃ first second, operation = .supersede first second := by
  rcases call_plan keyed present with ⟨held, before, step⟩ | ⟨absent, -⟩
  · rw [found, Option.some.injEq] at before
    subst before
    cases step with
    | kept =>
        rw [committed] at superseded
        cases superseded
    | noted target noted =>
        cases noted with
        | current | behind =>
            rw [committed] at superseded
            cases superseded
        | unfounded => cases superseded
    | recorded target change =>
        cases change with
        | solved solves answered =>
            rw [solves.validated] at committed
            cases committed
        | _ => cases superseded
    | displaced there commits displaces => exact Or.inl ⟨_, _, _, rfl, there, commits, displaces⟩
    | superseded | superseding => exact Or.inr ⟨_, _, rfl⟩
    | displacing | demoted => cases superseded
  · rw [found] at absent
    cases absent

/-- A commit of another generation is turned away. -/
theorem call_commit_outdated {engine : Engine storage} {ref : PlanRef} {intent : CommitIntent} {plan : Plan}
    (found : engine.plans.find? ref.id = some plan) (outdated : plan.generation ≠ ref.generation) :
    (engine.call (.commit ref intent)).2 = engine := by
  change (engine.commit ref intent).2 = engine
  unfold commit
  rw [found]
  dsimp only
  rw [if_pos outdated]

theorem compared_protected {config : EngineConfig} {history : List (Operation storage)}
    {operation : Operation storage} (compared : Compared ((new config).run history) operation) :
    Protected config history operation := by
  intro id other plan previous later displaced found fresh present committed after settled gone superseded
  have keyed := (run_steady config history).sound.keyed
  rw [apply_eq_call] at after gone
  rcases superseded_by_call keyed present committed gone superseded with
    ⟨ref, intent, replacement, rfl, there, commits, displaces⟩ | ⟨first, second, rfl⟩
  · have here : id = ref.id ∧ later.churn = plan.churn ∧ later.allocation = plan.allocation ∧
        later.objectiveScore = plan.objectiveScore := by
      rcases call_plan keyed after with ⟨held, before, step⟩ | ⟨absent, -⟩
      · rw [found, Option.some.injEq] at before
        subst before
        cases step with
        | kept => exact absurd settled fresh
        | noted target noted => cases noted
        | recorded target change =>
            cases change with
            | outdated | contradicted | unverified => cases settled
            | committed => exact ⟨(Option.some.inj target).symm, rfl, rfl, rfl⟩
        | displacing => exact ⟨rfl, rfl, rfl, rfl⟩
        | displaced => cases settled
      · rw [found] at absent
        cases absent
    obtain ⟨rfl, churn, allocation, score⟩ := here
    rw [found, Option.some.injEq] at there
    subst there
    have current : plan.generation = ref.generation := by
      by_contra outdated
      rw [call_commit_outdated found outdated, present, Option.some.injEq] at gone
      subst gone
      rw [committed] at superseded
      cases superseded
    obtain ⟨asked, same, filled⟩ := compared plan previous found current commits displaces
    obtain ⟨past, solved, rest, snapshot, split, key, live, report, moves⟩ :=
      authorized_compared found commits.authorized asked
    rw [scoreAllocation_of_bare snapshot _ same, ← compareChurn_bare, same, compareChurn_bare] at report
    refine ⟨past, solved, rest, snapshot, split, key, live, ?_, ?_⟩
    · rw [churn, allocation, score]
      exact report
    · rw [churn, report]
      rw [report] at moves
      exact compareChurn_accepts filled moves
  · -- An explicit supersession commits nothing.
    rcases call_plan keyed after with ⟨held, before, step⟩ | ⟨absent, -⟩
    · rw [found, Option.some.injEq] at before
      subst before
      cases step with
      | kept => exact absurd settled fresh
      | noted target noted => cases noted
      | recorded target => cases target
      | superseded => cases settled
      | superseding was => exact absurd was fresh
    · rw [found] at absent
      cases absent

/-- The allocation of the first plan as a message carries it, without the use of the resources. -/
def sentIncumbent : Allocation := { (linkOutcome {}).allocation with resources := [] }

/-- A plan that is compared with what the link fabric has in place is accepted. -/
theorem linkRequest_accepted (id : PlanId) :
    let outcome := linkOutcome { hasIncumbent := true, incumbent := sentIncumbent }
    Answerable (linkRequest id (some sentIncumbent)) linkFabric outcome ∧
      ((linkRequest id (some sentIncumbent)).churn linkFabric outcome).decision =
        .accept := by
  let options : SolveOptions := { hasIncumbent := true, incumbent := sentIncumbent }
  have decision : ((linkRequest id (some sentIncumbent)).churn linkFabric
      (linkOutcome options)).decision = .accept := by
    have pending : (linkRequest id (some sentIncumbent)).pending =
        { hasIncumbent := true, incumbent := sentIncumbent } := rfl
    unfold DeclareRequest.churn
    rw [pending]
    decide +kernel
  refine ⟨⟨solve_linkFabric options (by decide), by decide +kernel, by decide +kernel, ?_⟩, decision⟩
  rw [decision]
  exact ⟨nofun, nofun⟩

/-- The second commit of the two plans, and what it makes of both. -/
theorem Waiting.settles {engine : Engine storage} {repository : Option storage.Repository}
    {first second : PlanId} {incumbent : Option Allocation} {outcome : SolveOutcome}
    {committed waiting : Plan} (keyed : Keyed engine.plans)
    (waits : Waiting engine repository first second incumbent outcome committed waiting) :
    ∃ later, (engine.apply (.commit ⟨second, Gen.first⟩ linkIntent)).plans.find? second = some later ∧
      later.state = .committed ∧ later.churn = waiting.churn ∧
      (engine.apply (.commit ⟨second, Gen.first⟩ linkIntent)).plans.find? first =
        some (supersededPlan committed waiting.ref) := by
  have key : waiting.id = second := keyed second waiting waits.present
  have current : waiting.generation = (⟨second, Gen.first⟩ : PlanRef).generation :=
    congrArg Ref.generation waits.current
  have settled := commit_eq waits.present current waits.commits
  obtain ⟨later, installed⟩ := applyCommit_installs engine waiting linkIntent
  have displaced := applyCommit_displaces linkIntent keyed waits.displaces
  rw [keyed first committed waits.found] at displaced
  have found := installed.found
  rw [key] at found
  refine ⟨later, ?_, installed.state, installed.churn, ?_⟩
  · change (engine.commit ⟨second, Gen.first⟩ linkIntent).2.plans.find? second = _
    rw [settled]
    exact found
  · change (engine.commit ⟨second, Gen.first⟩ linkIntent).2.plans.find? first = _
    rw [settled]
    exact displaced

/-- Nothing is displaced by the first commit, and the second displaces what it was declared with. -/
theorem twoPlans_compared {first second : PlanId} (different : first ≠ second)
    (valid : first.valid = true ∧ second.valid = true) :
    Runs.Along apply Compared (new {} : Engine storage)
      (linkHistory none ++ twoPlans first second (some sentIncumbent) ++
        [.commit ⟨second, Gen.first⟩ linkIntent]) := by
  obtain ⟨committed, waiting, waits⟩ :=
    twoPlans_waiting different valid (accepting_none 6) (linkRequest_accepted second).1
  have compared : Compared ((new {} : Engine storage).run
      (linkHistory none ++ twoPlans first second (some sentIncumbent)))
      (.commit ⟨second, Gen.first⟩ linkIntent) := by
    intro plan previous found _ _ displaces
    rw [waits.present, Option.some.injEq] at found
    subst found
    rw [waits.displaces, Option.some.injEq] at displaces
    subst displaces
    rw [waits.pending, waits.carries.allocation]
    refine ⟨rfl, rfl, ?_⟩
    decide +kernel
  have alone : Compared ((new {} : Engine storage).run
      (linkHistory none ++ .declare (linkRequest first none) :: preparing first))
      (.commit ⟨first, Gen.first⟩ linkIntent) := by
    intro plan previous _ _ _ displaces
    rw [run_linkHistory] at displaces
    unfold supersededByCommit at displaces
    rw [linkRequest_vacant valid.1 (accepting_none 1),
      if_neg (fun held => absurd held.1 (by decide))] at displaces
    cases displaces
  rw [Runs.along_append]
  refine ⟨?_, compared, trivial⟩
  unfold twoPlans committing
  rw [List.append_assoc, ← List.append_assoc, Runs.along_append]
  refine ⟨⟨trivial, trivial, trivial, trivial, trivial, trivial⟩, alone, ?_⟩
  exact ⟨trivial, trivial, trivial, trivial, trivial⟩

end Engine

end TrafficFabric
