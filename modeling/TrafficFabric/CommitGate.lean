import TrafficFabric.Durable
import TrafficFabric.EnginePipeline

set_option autoImplicit false

/- The gate in front of a commit. An authorized plan is traced back through the history of the
run to the calls that solved and authorized it. -/
namespace TrafficFabric

open PlanStateMachine (isLive)

/-- The plans carry the same answer of the solver. -/
structure SameProposal (first second : Plan) : Prop where
  id : second.id = first.id
  allocation : second.allocation = first.allocation
  churn : second.churn = first.churn
  objectiveScore : second.objectiveScore = first.objectiveScore

theorem SameProposal.refl (plan : Plan) : SameProposal plan plan := ⟨rfl, rfl, rfl, rfl⟩

theorem SameProposal.trans {first second third : Plan} (before : SameProposal first second)
    (after : SameProposal second third) : SameProposal first third :=
  ⟨after.id.trans before.id, after.allocation.trans before.allocation,
    after.churn.trans before.churn, after.objectiveScore.trans before.objectiveScore⟩

namespace Engine

variable {storage : Storage}

/-- After `past`, the call of `solve` found this outcome, and the plan still carries it. -/
def SolvedAfter (config : EngineConfig) (past : List (Operation storage)) (ref : PlanRef)
    (outcome : SolveOutcome) (plan : Plan) : Prop :=
  ref.id = plan.id ∧ ∃ before, ((new config).run past).plans.find? plan.id = some before ∧
    Solves ((new config).run past) before ∧
    TrafficFabric.solve ((new config).run past).liveSnapshot
      (((new config).run past).solveOptions before.id) = .ok outcome ∧
    SameProposal (((new config).run past).proposal before outcome) plan

/-- After `past`, the call of `authorize` passed its checks on the plan as solved and made it
authorized. -/
def AuthorizedAfter (config : EngineConfig) (past : List (Operation storage)) (ref : PlanRef)
    (outcome : SolveOutcome) (plan : Plan) : Prop :=
  ref.id = plan.id ∧ ∃ before, ((new config).run past).plans.find? plan.id = some before ∧
    Authorizes ((new config).run past) before ∧ SameProposal before plan ∧
    before.authority = plan.authority ∧ (before.state = .degraded ↔ outcome.status = .feasibleDegraded) ∧
    ∃ after, (((new config).run past).apply (.authorize ref)).plans.find? plan.id = some after ∧
      after.state = .authorized

theorem SolvedAfter.same {config : EngineConfig} {past : List (Operation storage)} {ref : PlanRef}
    {outcome : SolveOutcome} {plan next : Plan} (solved : SolvedAfter config past ref outcome plan)
    (same : SameProposal plan next) : SolvedAfter config past ref outcome next := by
  obtain ⟨key, before, found, solves, answered, made⟩ := solved
  rw [← same.id] at key found
  exact ⟨key, before, found, solves, answered, made.trans same⟩

theorem AuthorizedAfter.same {config : EngineConfig} {past : List (Operation storage)} {ref : PlanRef}
    {outcome : SolveOutcome} {plan next : Plan} (authorized : AuthorizedAfter config past ref outcome plan)
    (same : SameProposal plan next) (authority : next.authority = plan.authority) :
    AuthorizedAfter config past ref outcome next := by
  obtain ⟨key, before, found, gates, kept, bound, degraded, moved⟩ := authorized
  rw [← same.id] at key found moved
  exact ⟨key, before, found, gates, kept.trans same, bound.trans authority.symm, degraded, moved⟩

/-- Where a plan with an allocation stands in the history. -/
structure Traced (config : EngineConfig) (history : List (Operation storage)) (plan : Plan) : Prop where
  proposed : plan.state = .proposed ∨ plan.state = .degraded →
    ∃ past ref rest outcome, history = past ++ .solve ref :: rest ∧
      SolvedAfter config past ref outcome plan ∧
      (plan.state = .degraded ↔ outcome.status = .feasibleDegraded)
  authorized : plan.state = .authorized →
    ∃ past ref middle again rest outcome,
      history = past ++ .solve ref :: (middle ++ .authorize again :: rest) ∧
      SolvedAfter config past ref outcome plan ∧
      AuthorizedAfter config (past ++ .solve ref :: middle) again outcome plan

namespace Traced

variable {config : EngineConfig} {history : List (Operation storage)} {plan next : Plan}

/-- A plan that is neither proposed nor authorized has nothing to trace. -/
theorem of_state (idle : plan.state ≠ .proposed ∧ plan.state ≠ .degraded ∧ plan.state ≠ .authorized) :
    Traced config history plan := by
  refine ⟨?_, fun authorized => absurd authorized idle.2.2⟩
  rintro (proposed | degraded)
  · exact absurd proposed idle.1
  · exact absurd degraded idle.2.1

/-- A call that leaves the plan's state and proposal alone. -/
theorem later (traced : Traced config history plan) (operation : Operation storage)
    (state : next.state = plan.state) (authority : next.authority = plan.authority)
    (same : SameProposal plan next) : Traced config (history ++ [operation]) next := by
  refine ⟨?_, ?_⟩
  · rw [state]
    intro proposed
    obtain ⟨past, ref, rest, outcome, split, solved, degraded⟩ := traced.proposed proposed
    refine ⟨past, ref, rest ++ [operation], outcome, ?_, solved.same same, degraded⟩
    rw [split, List.append_assoc, List.cons_append]
  · rw [state]
    intro authorized
    obtain ⟨past, ref, middle, again, rest, outcome, split, solved, passed⟩ :=
      traced.authorized authorized
    refine ⟨past, ref, middle, again, rest ++ [operation], outcome, ?_, solved.same same,
      passed.same same authority⟩
    rw [split, List.append_assoc, List.cons_append, List.append_assoc, List.cons_append]

end Traced

/-- The recorded changes: only `solve` and `authorize` make a plan that is traced. -/
theorem Change.traced {config : EngineConfig} {history : List (Operation storage)}
    {operation : Operation storage} {incumbent : PlanRef} {id : PlanId} {plan next : Plan}
    (target : operation.target = some id) (found : ((new config).run history).plans.find? id = some plan)
    (key : plan.id = id)
    (present : (((new config).run history).apply operation).plans.find? id = some next)
    (traced : Traced config history plan)
    (change : Change ((new config).run history) plan operation incumbent next) :
    Traced config (history ++ [operation]) next := by
  cases change with
  | validated | outdated | contradicted | unsolvable | forbidden | unverified | committed | marked
  | retired => exact Traced.of_state ⟨nofun, nofun, nofun⟩
  | solved solves answered =>
      rename_i ref outcome
      have state := proposal_state ((new config).run history) plan outcome
      rw [Operation.target, Option.some.injEq] at target
      refine ⟨?_, ?_⟩
      · intro _
        refine ⟨history, ref, [], outcome, rfl, ⟨?_, plan, ?_, solves, answered,
          SameProposal.refl _⟩, state.2⟩
        · exact target.trans key.symm
        · change ((new config).run history).plans.find? plan.id = some plan
          rw [key]
          exact found
      · intro authorized
        rcases state.1 with other | other | other <;> rw [other] at authorized <;> cases authorized
  | authorized gates =>
      rename_i ref
      rw [Operation.target, Option.some.injEq] at target
      refine ⟨nofun, ?_⟩
      intro _
      obtain ⟨past, solveRef, rest, outcome, split, solved, degraded⟩ := traced.proposed gates.proposed
      refine ⟨past, solveRef, rest, ref, [], outcome, ?_, solved.same ⟨rfl, rfl, rfl, rfl⟩,
        ⟨target.trans key.symm, plan, ?_, ?_, ⟨rfl, rfl, rfl, rfl⟩, rfl, degraded,
          { plan with state := .authorized, applicability := .current }, ?_, rfl⟩⟩
      · rw [split, List.append_assoc, List.cons_append]
      · rw [← split]
        change ((new config).run history).plans.find? plan.id = some plan
        rw [key]
        exact found
      · rw [← split]
        exact gates
      · rw [← split]
        rw [← key] at present
        exact present

theorem PlanStep.traced {config : EngineConfig} {history : List (Operation storage)}
    {operation : Operation storage} {id : PlanId} {plan next : Plan}
    (found : ((new config).run history).plans.find? id = some plan) (key : plan.id = id)
    (present : (((new config).run history).apply operation).plans.find? id = some next)
    (traced : Traced config history plan)
    (step : PlanStep ((new config).run history) operation id plan next) :
    Traced config (history ++ [operation]) next := by
  cases step with
  | kept => exact traced.later operation rfl rfl (SameProposal.refl plan)
  | noted target noted =>
      cases noted with
      | current | behind => exact traced.later _ rfl rfl ⟨rfl, rfl, rfl, rfl⟩
      | unfounded => exact Traced.of_state ⟨nofun, nofun, nofun⟩
  | recorded target change => exact change.traced target found key present traced
  | displacing | displaced | superseded | demoted => exact Traced.of_state ⟨nofun, nofun, nofun⟩
  | superseding committed =>
      apply Traced.of_state
      change plan.state ≠ _ ∧ plan.state ≠ _ ∧ plan.state ≠ _
      rw [committed]
      exact ⟨nofun, nofun, nofun⟩

theorem run_traced (config : EngineConfig) (history : List (Operation storage)) :
    ∀ id plan, ((new config).run history).plans.find? id = some plan → Traced config history plan := by
  apply Runs.history (fun past (engine : Engine storage) =>
    ∀ id plan, engine.plans.find? id = some plan → Traced config past plan) _ _
    (Runs.along_true (new config) history)
  · intro id plan found
    cases found
  · intro past operation traced _ id later found
    have steady := run_steady config past
    change ((new config).run past).Steady at steady
    have present : (((new config).run past).apply operation).plans.find? id = some later := found
    rw [apply_eq_call] at found
    rcases call_plan steady.sound.keyed found with ⟨plan, before, step⟩ | ⟨-, fresh⟩
    · exact step.traced before (steady.sound.keyed id plan before) present (traced id plan before)
    · cases fresh with
      | declared => exact Traced.of_state ⟨nofun, nofun, nofun⟩
      | restored attached read =>
          rename_i repository recorded
          have idle := restored_idle recorded
          refine Traced.of_state ⟨?_, ?_, ?_⟩ <;> intro state <;> rw [state] at idle <;> cases idle

/-! The policy a plan is bound to. -/

theorem policyDigest_of_identical {bound live : AuthorityVector}
    (identical : (compareAuthority bound live).identical = true) :
    live.policyDigest = bound.policyDigest := by
  rw [identical_iff] at identical
  unfold compareFields at identical
  dsimp only at identical
  rw [compareDigest_eq_empty, compareDigest_eq_empty] at identical
  exact identical.1.2

/-- The image of a policy spells whether a degraded commit is allowed. -/
theorem allowDegradedCommit_of_image {first second : Policy}
    (same : Writer.policy first = Writer.policy second) :
    first.allowDegradedCommit = second.allowDegradedCommit := by
  unfold Writer.policy at same
  simp only [List.append_assoc] at same
  obtain ⟨-, same⟩ := Writer.id_delimits.peel trivial trivial same
  obtain ⟨-, same⟩ := Writer.gen_delimits.peel trivial trivial same
  obtain ⟨-, same⟩ := Writer.boolean_delimits.peel trivial trivial same
  obtain ⟨-, same⟩ := Writer.boolean_delimits.peel trivial trivial same
  exact (Writer.boolean_delimits.peel trivial trivial same).1

/-- An authorized degraded plan is bound to a policy that allows its commit. -/
theorem Authorizes.degraded {engine : Engine storage} {plan : Plan} (gates : Authorizes engine plan)
    (liveSound : LiveSound engine) (degraded : plan.state = .degraded) (policy : Policy)
    (bound : policyDigest policy = plan.authority.policyDigest)
    (separates : Separates (text "tef.policy.v1") (Writer.policy policy)
      (Writer.policy engine.liveSnapshot.policy)) : policy.allowDegradedCommit = true := by
  obtain ⟨snapshot, present, -, live⟩ := liveSound gates.live
  have same := policyDigest_of_identical gates.identical
  have current : engine.liveSnapshot = snapshot := by
    unfold liveSnapshot
    rw [present]
    rfl
  rw [live] at same
  simp only [authorityOf] at same
  have equal : policyDigest policy = policyDigest engine.liveSnapshot.policy := by
    rw [bound, current, same]
  unfold policyDigest at equal
  have images := separates equal
  rw [allowDegradedCommit_of_image images]
  exact gates.permitted degraded

/-! The gate. -/

/-- What has been checked of a plan that is committed now. -/
structure Gated (config : EngineConfig) (history : List (Operation storage)) (plan : Plan) : Prop where
  identical : (compareAuthority plan.authority ((new config).run history).live).identical = true
  verified : ∃ snapshot, ((new config).run history).snapshot = some snapshot ∧
    verifyAllocation snapshot plan.allocation = []
  churn : plan.churn.decision ≠ .holdIncumbent ∧ plan.churn.decision ≠ .rejectRegression
  traced : ∃ past ref middle again rest outcome,
    history = past ++ .solve ref :: (middle ++ .authorize again :: rest) ∧
    SolvedAfter config past ref outcome plan ∧ plan.allocation = outcome.allocation ∧
    AuthorizedAfter config (past ++ .solve ref :: middle) again outcome plan ∧
    (outcome.status = .feasibleDegraded → ∀ policy,
      policyDigest policy = plan.authority.policyDigest →
      Separates (text "tef.policy.v1") (Writer.policy policy)
        (Writer.policy ((new config).run (past ++ .solve ref :: middle)).liveSnapshot.policy) →
      policy.allowDegradedCommit = true)

theorem Commits.gated {config : EngineConfig} {history : List (Operation storage)} {id : PlanId}
    {plan : Plan} {intent : CommitIntent} (found : ((new config).run history).plans.find? id = some plan)
    (commits : Commits ((new config).run history) plan intent) : Gated config history plan := by
  have traced := run_traced config history id plan found
  obtain ⟨past, ref, middle, again, rest, outcome, split, solved, authorized⟩ :=
    traced.authorized commits.authorized
  obtain ⟨key, before, there, gates, kept, bound, degraded, moved⟩ := authorized
  obtain ⟨snapshot, present, -, -⟩ := (run_steady config history).liveSound commits.live
  refine ⟨commits.identical, ⟨snapshot, present, ?_⟩, ?_, past, ref, middle, again, rest, outcome, split,
    solved, ?_, ⟨key, before, there, gates, kept, bound, degraded, moved⟩, ?_⟩
  · have verified := commits.verified
    unfold liveSnapshot at verified
    rw [present] at verified
    exact verified
  · rw [kept.churn]
    exact gates.moves
  · obtain ⟨_, _, _, _, _, made⟩ := solved
    exact made.allocation
  · intro status policy digest separates
    rw [← bound] at digest
    exact gates.degraded (run_steady config _).liveSound (degraded.2 status) policy digest separates

/-- A plan becomes committed only by a commit of an authorized plan that passes the gate, or by
the recovery of a record that was committed. -/
theorem committed_only_through_gate (config : EngineConfig) (history : List (Operation storage))
    (operation : Operation storage) (id : PlanId) (later : Plan)
    (found : (((new config).run history).apply operation).plans.find? id = some later)
    (committed : later.state = .committed)
    (fresh : ∀ plan, ((new config).run history).plans.find? id = some plan → plan.state ≠ .committed) :
    (∃ ref intent plan, operation = .commit ref intent ∧ ref.id = id ∧
      ((new config).run history).plans.find? id = some plan ∧ plan.state = .authorized ∧
      later.allocation = plan.allocation ∧ Gated config history plan) ∨
    (operation = .recoverFromRepository ∧ ∃ repository recorded,
      ((new config).run history).repository = some repository ∧
      (collapse storage (storage.records repository)).1.find? id = some recorded ∧
      recorded.state = .committed) := by
  have steady := run_steady config history
  rw [apply_eq_call] at found
  rcases call_plan steady.sound.keyed found with ⟨plan, before, step⟩ | ⟨-, new⟩
  · left
    rcases step.committed committed with ⟨was, -⟩ | ⟨ref, intent, rfl, target, commits, -, same⟩
    · exact absurd was (fresh plan before)
    · exact ⟨ref, intent, plan, rfl, target, before, commits.authorized, same, commits.gated before⟩
  · right
    cases new with
    | declared => cases committed
    | restored attached read =>
        rename_i repository recorded
        exact ⟨rfl, repository, recorded, attached, read, restored_committed committed⟩

/-- The calls of the first plan of the link fabric. -/
theorem linkRequest_passes (id : PlanId) (valid : id.valid = true) :
    ∃ authorized later, ((new {} : Engine storage).run
        (linkHistory none ++ .declare (linkRequest id none) :: preparing id)).plans.find? id =
          some authorized ∧ authorized.state = .authorized ∧
      (((new {} : Engine storage).run
        (linkHistory none ++ .declare (linkRequest id none) :: preparing id)).apply
          (.commit ⟨id, Gen.first⟩ linkIntent)).plans.find? id = some later ∧
      later.state = .committed := by
  have steady : (linkEngine none : Engine storage).Steady := linkEngine_steady none
  obtain ⟨authorized, prepared, -, -⟩ := linkRequest_prepared steady (linkEngine_ahead none)
    (linkRequest_first valid (accepting_none 1)) (linkRequest_answerable id)
  obtain ⟨-, later, installed⟩ := prepared.installs rfl
  have found := installed.found
  rw [show authorized.id = id from prepared.binding.id] at found
  rw [run_linkHistory]
  exact ⟨authorized, later, prepared.replaces.found, prepared.commits.authorized, found, installed.state⟩

/-- The first plan of the link fabric goes through the gate. -/
theorem committed_only_through_gate_linkFabric :
    ∃ (history : List (Operation durable)) (ref : PlanRef) (intent : CommitIntent) (later plan : Plan),
      (((new {}).run history).apply (.commit ref intent)).plans.find? ref.id = some later ∧
      later.state = .committed ∧ ((new {}).run history).plans.find? ref.id = some plan ∧
      plan.state = .authorized ∧ Gated {} history plan := by
  have valid : (named "plan-1" : PlanId).valid = true := by decide
  generalize (named "plan-1" : PlanId) = id at valid
  let history : List (Operation durable) :=
    linkHistory none ++ .declare (linkRequest id none) :: preparing id
  obtain ⟨authorized, later, before, waits, found, committed⟩ := linkRequest_passes id valid
  have fresh : ∀ plan, ((new {}).run history).plans.find? id = some plan → plan.state ≠ .committed := by
    intro plan held
    rw [before, Option.some.injEq] at held
    rw [← held, waits]
    nofun
  rcases committed_only_through_gate {} history (.commit ⟨id, Gen.first⟩ linkIntent) id later found
    committed fresh with ⟨ref, intent, plan, same, -, held, state, -, gated⟩ | ⟨same, -⟩
  · exact ⟨history, ⟨id, Gen.first⟩, linkIntent, later, plan, found, committed, held, state, gated⟩
  · cases same

end Engine

end TrafficFabric
