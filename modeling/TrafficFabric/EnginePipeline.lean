import TrafficFabric.AuthorityBinding
import TrafficFabric.EngineLog
import TrafficFabric.PlanDecodes
import TrafficFabric.SolverSafety

set_option autoImplicit false

/- The pipeline as it is meant to be used: what a caller needs for a declared plan to be
committed. The appends may fail on the way; the plans in memory move all the same. -/
namespace TrafficFabric

open PlanStateMachine (canTransition)

namespace Engine

variable {storage : Storage} {engine : Engine storage} {ref : PlanRef} {plan : Plan}

theorem liveSnapshot_eq {snapshot : FabricSnapshot} (present : engine.snapshot = some snapshot) :
    engine.liveSnapshot = snapshot := by
  unfold liveSnapshot
  rw [present]
  rfl

/-! One call at a time. -/

theorem validate_eq (found : engine.plans.find? ref.id = some plan)
    (current : plan.generation = ref.generation) (declared : plan.state = .declared)
    (live : engine.liveValid = true) (identical : (engine.deltaOf plan).identical = true)
    (valid : validateStructure engine.liveSnapshot = .ok ()) :
    engine.validate ref =
      engine.record { plan with state := .validated, applicability := .current } (.ok ()) := by
  have edge : canTransition plan.state .validated = true := by rw [declared]; rfl
  unfold deltaOf at identical
  unfold validate
  simp only [found]
  rw [if_neg (not_not.2 current)]
  simp only [edge, live, identical, valid, Bool.not_true, Bool.false_eq_true, if_false]

theorem solve_eq (found : engine.plans.find? ref.id = some plan)
    (current : plan.generation = ref.generation) (solves : Solves engine plan) {outcome : SolveOutcome}
    (answered : TrafficFabric.solve engine.liveSnapshot (engine.solveOptions plan.id) = .ok outcome) :
    ∃ counted, Counted engine counted ∧ counted.incumbent = engine.incumbent ∧
      engine.solve ref =
        counted.record (engine.proposal plan outcome) (.ok (engine.proposal plan outcome)) := by
  have edge : canTransition plan.state .solving = true := by rw [solves.validated]; rfl
  have identical := solves.identical
  unfold deltaOf at identical
  unfold solve
  simp only [found]
  rw [if_neg (not_not.2 current)]
  simp only [edge, solves.live, identical, Bool.not_true, Bool.false_eq_true, if_false]
  unfold finishSolve
  unfold solveOptions pendingOf at answered
  simp only [answered]
  split
  · refine ⟨_, ?_, ?_, rfl⟩
    · exact ⟨rfl, rfl, rfl, rfl, rfl, rfl, rfl⟩
    · rfl
  · refine ⟨_, ?_, ?_, rfl⟩
    · exact ⟨rfl, rfl, rfl, rfl, rfl, rfl, rfl⟩
    · rfl

/-- The bound authority stands where it is identical. -/
theorem revalidateBound_none (identical : (engine.deltaOf plan).identical = true) (stage : Text) :
    engine.revalidateBound plan stage = none := by
  unfold deltaOf AuthorityDelta.identical at identical
  rw [Bool.and_eq_true, Bool.and_eq_true] at identical
  unfold revalidateBound AuthorityDelta.stale AuthorityDelta.contradictory
  simp only [identical.1.1, identical.1.2, identical.2, Bool.not_true, Bool.or_false, Bool.false_eq_true,
    if_false]

theorem authorize_eq (found : engine.plans.find? ref.id = some plan)
    (current : plan.generation = ref.generation) (gates : Authorizes engine plan) :
    ∃ counted, Counted engine counted ∧ counted.incumbent = engine.incumbent ∧
      engine.authorize ref = counted.record { plan with state := .authorized, applicability := .current }
        (.ok { plan with state := .authorized, applicability := .current }) := by
  have edge : canTransition plan.state .authorized = true := by
    rcases gates.proposed with proposed | degraded
    · rw [proposed]
      rfl
    · rw [degraded]
      rfl
  have permitted : ¬ (plan.state = .degraded ∧
      engine.liveSnapshot.policy.allowDegradedCommit = false) := by
    rintro ⟨degraded, forbids⟩
    rw [gates.permitted degraded] at forbids
    cases forbids
  unfold authorize
  simp only [found]
  rw [if_neg (not_not.2 current)]
  simp only [edge, gates.live, revalidateBound_none gates.identical, Bool.not_true, Bool.false_eq_true,
    if_false]
  rw [if_neg permitted, if_neg (not_or.2 gates.moves)]
  refine ⟨_, ?_, ?_, rfl⟩
  · exact ⟨rfl, rfl, rfl, rfl, gates.live.symm, rfl, rfl⟩
  · rfl

theorem commit_eq {intent : CommitIntent} (found : engine.plans.find? ref.id = some plan)
    (current : plan.generation = ref.generation) (commits : Commits engine plan intent) :
    engine.commit ref intent = engine.applyCommit plan intent := by
  have edge : canTransition plan.state .committed = true := by rw [commits.authorized]; rfl
  have uncommitted : plan.state ≠ .committed := by rw [commits.authorized]; nofun
  unfold commit
  simp only [found]
  rw [if_neg (not_not.2 current)]
  simp only [edge, commits.live, commits.named, commits.verified, uncommitted,
    revalidateBound_none commits.identical, if_false, Bool.not_true, Bool.false_eq_true, Bool.or_false,
    List.isEmpty_nil]

/-! The calls in a row. -/

/-- The plans appended one by one, whatever the appends answer. -/
def appendEach (repository : Option storage.Repository) (written : List Plan) :
    Option storage.Repository :=
  written.foldl (fun repository plan => (writeAll repository [plan]).2) repository

theorem appendEach_append (repository : Option storage.Repository) (first second : List Plan) :
    appendEach repository (first ++ second) = appendEach (appendEach repository first) second :=
  List.foldl_append

theorem appendEach_none (written : List Plan) :
    appendEach (none : Option storage.Repository) written = none := by
  induction written with
  | nil => rfl
  | cons plan rest ih => exact ih

/-- One plan is replaced; the other plans, the incumbent and what plans are compared with stay. -/
structure Replaces (before after : Engine storage) (id : PlanId) (next : Plan) (written : List Plan) :
    Prop where
  found : after.plans.find? id = some next
  others : ∀ other, other ≠ id → after.plans.find? other = before.plans.find? other
  same : SameLive before after
  incumbent : after.incumbent = before.incumbent
  repository : after.repository = appendEach before.repository written

theorem Replaces.trans {first second third : Engine storage} {id : PlanId} {next last : Plan}
    {some more : List Plan} (before : Replaces first second id next some)
    (after : Replaces second third id last more) : Replaces first third id last (some ++ more) := by
  refine ⟨after.found, ?_, before.same.trans after.same, after.incumbent.trans before.incumbent, ?_⟩
  · intro other differs
    rw [after.others other differs, before.others other differs]
  · rw [after.repository, before.repository, appendEach_append]

theorem record_replaces {α : Type} {counted : Engine storage} {next : Plan} {answer : Result α}
    (frame : Counted engine counted) (same : counted.incumbent = engine.incumbent)
    (key : next.id = ref.id) : Replaces engine (counted.record next answer).2 ref.id next [next] := by
  refine ⟨?_, ?_, frame.sameLive.trans (record_sameLive counted next answer), ?_, ?_⟩
  · rw [record_plans, key, OrdMap.find?_insert_self]
  · intro other differs
    rw [record_plans, key, OrdMap.find?_insert_ne _ _ _ _ differs, frame.plans]
  · rw [record_frame]
    exact same
  · rw [record_write, frame.repository]
    rfl

/-- A declared plan whose problem the solver solves, with a proposal that may move on. -/
structure Solvable (engine : Engine storage) (plan : Plan) (snapshot : FabricSnapshot)
    (outcome : SolveOutcome) : Prop where
  declared : plan.state = .declared
  live : engine.liveValid = true
  present : engine.snapshot = some snapshot
  valid : validateStructure snapshot = .ok ()
  identical : (engine.deltaOf plan).identical = true
  answered : TrafficFabric.solve snapshot (engine.solveOptions plan.id) = .ok outcome
  feasible : outcome.status = .feasible
  verified : verifyAllocation snapshot outcome.allocation = []
  moves : (churnOf snapshot (engine.pendingOf plan.id) (solvedPlan plan outcome 0)).decision ≠
      .holdIncumbent ∧
    (churnOf snapshot (engine.pendingOf plan.id) (solvedPlan plan outcome 0)).decision ≠ .rejectRegression

/-- The plan carries what the solver found. -/
structure Carries (plan : Plan) (outcome : SolveOutcome) : Prop where
  components : plan.components = outcome.components
  alternatives : plan.alternatives = outcome.alternatives
  feasibility : plan.feasibility = outcome.feasibility
  allocation : plan.allocation = outcome.allocation

/-- What only a commit or a supersession changes. -/
structure SameLineage (before after : Plan) : Prop where
  incarnation : after.coordinatorIncarnation = before.coordinatorIncarnation
  supersedes : after.supersedes = before.supersedes
  supersededBy : after.supersededBy = before.supersededBy
  commit : after.commit = before.commit ∧ after.commitGeneration = before.commitGeneration

/-- What is written of the plan on its way to the commit. -/
def preparedPlans (plan authorized : Plan) : List Plan :=
  [{ plan with state := .validated, applicability := .current },
    { authorized with state := .proposed }, authorized]

/-- What the calls up to the commit make of the plan. -/
structure Prepared (engine after : Engine storage) (ref : PlanRef) (plan authorized : Plan)
    (snapshot : FabricSnapshot) (outcome : SolveOutcome) (intent : CommitIntent) : Prop where
  replaces : Replaces engine after ref.id authorized (preparedPlans plan authorized)
  commits : Commits after authorized intent
  binding : SameBinding plan authorized
  carries : Carries authorized outcome
  lineage : SameLineage plan authorized
  churn : authorized.churn =
    churnOf snapshot (engine.pendingOf plan.id) (solvedPlan plan outcome 0)

theorem SameLive.solveOptions {after : Engine storage} (same : SameLive engine after) (id : PlanId) :
    after.solveOptions id = engine.solveOptions id ∧ after.pendingOf id = engine.pendingOf id := by
  unfold Engine.solveOptions pendingOf
  rw [same.pending]
  exact ⟨rfl, rfl⟩

/-- The comparison reads neither the tick of the proposal nor what the plan was before. -/
theorem proposal_churn (engine : Engine storage) (plan : Plan) (outcome : SolveOutcome) :
    (engine.proposal plan outcome).churn =
      churnOf engine.liveSnapshot (engine.pendingOf plan.id) (solvedPlan plan outcome 0) := rfl

/-- Only the state is between a proposed and an authorized plan. -/
theorem unauthorized {proposed : Plan} (state : proposed.state = .proposed)
    (current : proposed.applicability = .current) :
    ({ ({ proposed with state := .authorized, applicability := .current } : Plan) with
      state := .proposed } : Plan) = proposed := by
  cases proposed
  simp only at state current
  subst state current
  rfl

/-- What validation and solving make of the plan. -/
structure Proposed (engine after : Engine storage) (ref : PlanRef) (plan proposed : Plan)
    (snapshot : FabricSnapshot) (outcome : SolveOutcome) : Prop where
  replaces : Replaces engine after ref.id proposed
    [{ plan with state := .validated, applicability := .current }, proposed]
  state : proposed.state = .proposed
  applicability : proposed.applicability = .current
  gates : Authorizes after proposed
  verified : verifyAllocation after.liveSnapshot proposed.allocation = []
  binding : SameBinding plan proposed
  carries : Carries proposed outcome
  lineage : SameLineage plan proposed
  churn : proposed.churn = churnOf snapshot (engine.pendingOf plan.id) (solvedPlan plan outcome 0)

/-- Validation and solving bring a solvable plan to the gate of `authorize`. -/
theorem run_proposed {snapshot : FabricSnapshot} {outcome : SolveOutcome}
    (found : engine.plans.find? ref.id = some plan) (key : plan.id = ref.id)
    (current : plan.generation = ref.generation) (solvable : Solvable engine plan snapshot outcome) :
    ∃ proposed, Proposed engine (engine.run [.validate ref, .solve ref]) ref plan proposed
      snapshot outcome ∧
      (engine.repository = none → (engine.validate ref).1 = .ok () ∧
        ((engine.validate ref).2.solve ref).1 = .ok proposed) := by
  -- Validation.
  let validated : Plan := { plan with state := .validated, applicability := .current }
  have firstCall := validate_eq found current solvable.declared solvable.live solvable.identical
    (by rw [liveSnapshot_eq solvable.present]; exact solvable.valid)
  have first : Replaces engine (engine.validate ref).2 ref.id validated [validated] := by
    rw [firstCall]
    exact record_replaces (Counted.refl engine) rfl key
  let second := (engine.validate ref).2
  change Replaces engine second ref.id validated [validated] at first
  -- Solving.
  have secondDelta : (second.deltaOf validated).identical = true := by
    rw [first.same.deltaOf validated]
    exact solvable.identical
  have solves : Solves second validated :=
    ⟨rfl, first.same.liveValid.trans solvable.live, secondDelta⟩
  have secondSnapshot : second.snapshot = some snapshot := first.same.snapshot.trans solvable.present
  have answered : TrafficFabric.solve second.liveSnapshot (second.solveOptions validated.id) =
      .ok outcome := by
    rw [liveSnapshot_eq secondSnapshot, (first.same.solveOptions validated.id).1]
    exact solvable.answered
  obtain ⟨secondCounted, secondFrame, secondIncumbent, secondCall⟩ :=
    solve_eq first.found current solves answered
  let proposed := second.proposal validated outcome
  have next : Replaces second (second.solve ref).2 ref.id proposed [proposed] := by
    rw [secondCall]
    exact record_replaces secondFrame secondIncumbent key
  let third := (second.solve ref).2
  change Replaces second third ref.id proposed [proposed] at next
  have churn : proposed.churn =
      churnOf snapshot (engine.pendingOf plan.id) (solvedPlan plan outcome 0) := by
    change (second.proposal validated outcome).churn = _
    rw [proposal_churn, liveSnapshot_eq secondSnapshot, (first.same.solveOptions validated.id).2]
    rfl
  have state : proposed.state = .proposed := by
    change (solvedPlan { validated with state := .solving } outcome second.tick).state = .proposed
    unfold solvedPlan
    dsimp only
    rw [solvable.feasible]
  have thirdDelta : (third.deltaOf proposed).identical = true := by
    rw [next.same.deltaOf proposed]
    exact secondDelta
  have gates : Authorizes third proposed := by
    refine ⟨Or.inl state, next.same.liveValid.trans solves.live, thirdDelta, ?_, ?_⟩
    · intro degraded
      rw [state] at degraded
      cases degraded
    · rw [churn]
      exact solvable.moves
  have whole := first.trans next
  have verified : verifyAllocation third.liveSnapshot proposed.allocation = [] := by
    have thirdSnapshot := whole.same.snapshot.trans solvable.present
    change verifyAllocation (second.solve ref).2.liveSnapshot outcome.allocation = []
    rw [liveSnapshot_eq thirdSnapshot]
    exact solvable.verified
  refine ⟨proposed, ⟨whole, state, rfl, gates, verified, ⟨rfl, rfl, rfl, rfl, rfl, rfl, rfl⟩,
    ⟨rfl, rfl, rfl, rfl⟩, ⟨rfl, rfl, rfl, ⟨rfl, rfl⟩⟩, churn⟩, ?_⟩
  intro alone
  have detached : secondCounted.repository = none := by
    rw [secondFrame.repository, first.repository, alone]
    exact appendEach_none [validated]
  constructor
  · rw [firstCall, record_write, alone, writeAll_none]
    rfl
  · change (second.solve ref).1 = _
    rw [secondCall, record_write, detached, writeAll_none]
    rfl

/-- Authorization then brings it to the gate of the commit. -/
theorem run_prepared {snapshot : FabricSnapshot} {outcome : SolveOutcome} {intent : CommitIntent}
    (found : engine.plans.find? ref.id = some plan) (key : plan.id = ref.id)
    (current : plan.generation = ref.generation) (solvable : Solvable engine plan snapshot outcome)
    (named : intent.commit.valid = true ∧ intent.commitGeneration.valid = true) :
    ∃ authorized, Prepared engine (engine.run [.validate ref, .solve ref, .authorize ref]) ref plan
      authorized snapshot outcome intent := by
  obtain ⟨proposed, waits, -⟩ := run_proposed found key current solvable
  let third := engine.run [.validate ref, .solve ref]
  change Proposed engine third ref plan proposed snapshot outcome at waits
  have same : proposed.generation = ref.generation := waits.binding.generation.trans current
  obtain ⟨thirdCounted, thirdFrame, thirdIncumbent, thirdCall⟩ :=
    authorize_eq waits.replaces.found same waits.gates
  let authorized : Plan := { proposed with state := .authorized, applicability := .current }
  have last : Replaces third (third.authorize ref).2 ref.id authorized [authorized] := by
    rw [thirdCall]
    exact record_replaces thirdFrame thirdIncumbent (waits.binding.id.trans key)
  have spelled : { authorized with state := .proposed } = proposed :=
    unauthorized waits.state waits.applicability
  have whole := waits.replaces.trans last
  have listed : [{ plan with state := .validated, applicability := .current }, proposed] ++ [authorized] =
      preparedPlans plan authorized := by
    unfold preparedPlans
    rw [spelled]
    rfl
  rw [listed] at whole
  refine ⟨authorized, whole, ⟨named, rfl, last.same.liveValid.trans waits.gates.live, ?_, ?_⟩,
    waits.binding.trans ⟨rfl, rfl, rfl, rfl, rfl, rfl, rfl⟩, ⟨waits.carries.components,
      waits.carries.alternatives, waits.carries.feasibility, waits.carries.allocation⟩,
    ⟨waits.lineage.incarnation, waits.lineage.supersedes, waits.lineage.supersededBy, waits.lineage.commit⟩,
    waits.churn⟩
  · exact (congrArg AuthorityDelta.identical (last.same.deltaOf authorized)).trans waits.gates.identical
  · have shown : (third.authorize ref).2.liveSnapshot = third.liveSnapshot := by
      unfold liveSnapshot
      rw [last.same.snapshot]
    change verifyAllocation (third.authorize ref).2.liveSnapshot proposed.allocation = []
    rw [shown]
    exact waits.verified

end Engine

/-- What is kept of a request until its plan is solved. -/
def DeclareRequest.pending (request : DeclareRequest) : PendingSolve :=
  { allowDegraded := request.allowDegraded
    hasIncumbent := request.hasIncumbent
    incumbent := request.incumbent
    incumbentRef := request.incumbentRef }

/-- How the answer of the solver compares with the incumbent of the request. -/
def DeclareRequest.churn (request : DeclareRequest) (snapshot : FabricSnapshot)
    (outcome : SolveOutcome) : ChurnReport :=
  Engine.churnOf snapshot request.pending (Engine.solvedPlan {} outcome 0)

namespace Engine

variable {storage : Storage} {engine : Engine storage} {ref : PlanRef} {plan : Plan}

/-- A declaration that goes through. -/
structure Declarable (engine : Engine storage) (request : DeclareRequest) : Prop where
  live : engine.liveValid = true
  planId : request.planId.valid = true
  attempt : request.attempt.valid = true ∧ request.attemptGeneration.valid = true
  publisher : request.publisher.valid = true ∧ request.publisherBoot.valid = true
  configured : engine.config.coordinatorIncarnation.valid = true
  room : engine.plans.size < engine.config.maxRecords.toNat
  absent : engine.plans.find? request.planId = none
  written : (engine.persist (engine.declaredPlan request)).1 = .ok ()

theorem declare_eq {request : DeclareRequest} (declarable : Declarable engine request) :
    (engine.declare request).2 = (engine.persist (engine.declaredPlan request)).2.withDeclared request
      (engine.declaredPlan request) := by
  have known : engine.plans.contains request.planId = false := by
    simp [OrdMap.contains, declarable.absent]
  have written := declarable.written
  have kept := persist_plans engine (engine.declaredPlan request)
  unfold declare
  simp only [declarable.live, declarable.planId, declarable.attempt, declarable.publisher,
    declarable.configured, known, Bool.not_true, Bool.or_false, Bool.false_eq_true, if_false]
  rw [if_neg (not_le.2 declarable.room)]
  cases persisted : engine.persist (engine.declaredPlan request) with
  | mk answer next =>
      rw [persisted] at written kept
      change answer = .ok () at written
      change next.plans = engine.plans at kept
      have emplaced : next.plans.emplace request.planId (engine.declaredPlan request) =
          next.plans.insert request.planId (engine.declaredPlan request) := by
        rw [kept]
        simp [OrdMap.emplace, declarable.absent]
      rw [written]
      change { next with
        stats := _
        pending := _
        plans := next.plans.emplace request.planId (engine.declaredPlan request) } = _
      rw [emplaced]
      rfl

/-- What a declaration leaves alone. -/
theorem declare_others {request : DeclareRequest} (declarable : Declarable engine request) :
    (∀ other, other ≠ request.planId →
      (engine.declare request).2.plans.find? other = engine.plans.find? other) ∧
    (engine.declare request).2.incumbent = engine.incumbent ∧
    (engine.declare request).2.repository =
      appendEach engine.repository [engine.declaredPlan request] := by
  rw [declare_eq declarable, persist_write]
  exact ⟨fun other differs => OrdMap.find?_insert_ne _ _ _ _ differs, rfl, rfl⟩

/-- A request whose problem the solver solves, with a proposal that may move on. -/
structure Answerable (request : DeclareRequest) (snapshot : FabricSnapshot) (outcome : SolveOutcome) :
    Prop where
  answered : TrafficFabric.solve snapshot
    { allowDegraded := request.allowDegraded
      hasIncumbent := request.hasIncumbent
      incumbent := request.incumbent } = .ok outcome
  feasible : outcome.status = .feasible
  verified : verifyAllocation snapshot outcome.allocation = []
  moves : (request.churn snapshot outcome).decision ≠ .holdIncumbent ∧
    (request.churn snapshot outcome).decision ≠ .rejectRegression

/-- The calls of a plan on its way to the commit. -/
def preparing (id : PlanId) : List (Operation storage) :=
  [.validate ⟨id, Gen.first⟩, .solve ⟨id, Gen.first⟩, .authorize ⟨id, Gen.first⟩]

/-- A plan that was just declared can be solved. -/
theorem declared_solvable {request : DeclareRequest} {snapshot : FabricSnapshot} {outcome : SolveOutcome}
    (steady : engine.Steady) (declarable : Declarable engine request)
    (present : engine.snapshot = some snapshot) (answerable : Answerable request snapshot outcome) :
    Solvable (engine.declare request).2 (engine.declaredPlan request) snapshot outcome ∧
      (engine.declare request).2.pendingOf request.planId = request.pending := by
  obtain ⟨held, there, accepted, live⟩ := steady.liveSound declarable.live
  rw [present, Option.some.injEq] at there
  subst there
  have pending : (engine.declare request).2.pendingOf (engine.declaredPlan request).id =
      request.pending := by
    rw [declare_eq declarable, persist_frame]
    unfold pendingOf
    change ((engine.pending.emplace request.planId _).find? request.planId).getD {} = _
    rw [OrdMap.find?_emplace, if_pos rfl, steady.pendingKnown request.planId declarable.absent]
    rfl
  have same : (engine.declare request).2.snapshot = engine.snapshot ∧
      (engine.declare request).2.live = engine.live ∧
      (engine.declare request).2.liveValid = engine.liveValid := by
    rw [declare_eq declarable, persist_frame]
    exact ⟨rfl, rfl, rfl⟩
  refine ⟨⟨rfl, same.2.2.trans declarable.live, same.1.trans present, accepted.valid, ?_, ?_,
    answerable.feasible, answerable.verified, ?_⟩, pending⟩
  · unfold deltaOf
    rw [same.2.1]
    change (compareAuthority engine.live engine.live).identical = true
    rw [live, compareAuthority_identical (authorityOf_valid accepted) (authorityOf_valid accepted)]
  · unfold solveOptions
    rw [pending]
    exact answerable.answered
  · rw [pending]
    exact answerable.moves

/-- A plan that is declared and brought to the gate of its commit. -/
theorem run_declared_prepared {request : DeclareRequest} {snapshot : FabricSnapshot}
    {outcome : SolveOutcome} {intent : CommitIntent} (steady : engine.Steady)
    (declarable : Declarable engine request) (present : engine.snapshot = some snapshot)
    (answerable : Answerable request snapshot outcome)
    (named : intent.commit.valid = true ∧ intent.commitGeneration.valid = true) :
    ∃ authorized, Prepared (engine.declare request).2
      (engine.run (.declare request :: preparing request.planId)) ⟨request.planId, Gen.first⟩
      (engine.declaredPlan request) authorized snapshot outcome intent ∧
      authorized.churn = request.churn snapshot outcome ∧
      (engine.run (.declare request :: preparing request.planId)).pendingOf request.planId =
        request.pending := by
  obtain ⟨solvable, pending⟩ := declared_solvable steady declarable present answerable
  have found : (engine.declare request).2.plans.find? request.planId =
      some (engine.declaredPlan request) := by
    rw [declare_eq declarable]
    exact OrdMap.find?_insert_self _ _ _
  have current : (engine.declaredPlan request).generation =
      (⟨request.planId, Gen.first⟩ : PlanRef).generation := rfl
  obtain ⟨authorized, prepared⟩ := run_prepared found rfl current solvable named
  refine ⟨authorized, prepared, ?_, ?_⟩
  · have churn := prepared.churn
    rw [show (engine.declaredPlan request).id = request.planId from rfl, pending] at churn
    exact churn
  · exact (prepared.replaces.same.solveOptions request.planId).2.trans pending

/-! The commit, and what the calls of a pipeline leave for the next one. -/

/-- What a commit puts in place. -/
structure Installs (engine after : Engine storage) (plan later : Plan) (intent : CommitIntent) : Prop where
  found : after.plans.find? plan.id = some later
  state : later.state = .committed
  binding : SameBinding plan later
  carries : ∀ outcome, Carries plan outcome → Carries later outcome
  churn : later.churn = plan.churn
  named : later.commit = intent.commit ∧ later.commitGeneration = intent.commitGeneration
  incumbent : after.incumbent = plan.ref
  alone : engine.supersededByCommit plan = none →
    later = committedPlan plan intent ∧ after.repository = appendEach engine.repository [later]

theorem applyCommit_installs (engine : Engine storage) (plan : Plan) (intent : CommitIntent) :
    ∃ later, Installs engine (engine.applyCommit plan intent).2 plan later intent := by
  unfold applyCommit
  cases displaces : engine.supersededByCommit plan with
  | none =>
      refine ⟨committedPlan plan intent, ?_, rfl, ⟨rfl, rfl, rfl, rfl, rfl, rfl, rfl⟩,
        fun _ carries =>
          ⟨carries.components, carries.alternatives, carries.feasibility, carries.allocation⟩,
        rfl, ⟨rfl, rfl⟩, ?_, ?_⟩
      · rw [record_plans]
        exact OrdMap.find?_insert_self _ _ _
      · rw [record_frame]
      · intro _
        dsimp only
        rw [record_write]
        exact ⟨rfl, rfl⟩
  | some previous =>
      refine ⟨displacingPlan plan intent previous.ref, ?_, rfl, displacingPlan_binding _ _ _,
        fun _ carries =>
          ⟨carries.components, carries.alternatives, carries.feasibility, carries.allocation⟩,
        rfl, ⟨rfl, rfl⟩, ?_, ?_⟩
      · rw [recordBoth_plans]
        exact OrdMap.find?_insert_self _ _ _
      · rw [recordBoth_frame]
      · intro none
        rw [displaces] at none
        cases none

/-- The incumbent that a commit takes the place of. -/
theorem applyCommit_displaces {previous : Plan} (intent : CommitIntent) (keyed : Keyed engine.plans)
    (displaces : engine.supersededByCommit plan = some previous) :
    (engine.applyCommit plan intent).2.plans.find? previous.id =
      some (supersededPlan previous plan.ref) := by
  obtain ⟨other, present, -⟩ := supersededByCommit_eq displaces
  have different : previous.id ≠ plan.id := by
    rw [keyed _ previous present]
    exact other
  unfold applyCommit
  simp only [displaces]
  rw [recordBoth_plans]
  exact (OrdMap.find?_insert_ne _ _ _ _ different).trans (OrdMap.find?_insert_self _ _ _)

/-- The calls that work on plans. -/
def Operation.Planning : Operation storage → Prop
  | .declare _ | .validate _ | .solve _ | .authorize _ | .commit _ _ | .supersede _ _ | .markStale _
  | .retire _ | .revalidate _ => True
  | _ => False

/-- What plans are compared with is what it was, and there are not more plans than declared. -/
structure Ahead (before : Engine storage) (declared : List PlanId) (after : Engine storage) : Prop where
  snapshot : after.snapshot = before.snapshot
  live : after.live = before.live
  liveValid : after.liveValid = before.liveValid
  config : after.config = before.config
  known : ∀ id, after.plans.contains id = true → id ∈ declared ∨ before.plans.contains id = true

theorem Ahead.size {after : Engine storage} {declared : List PlanId} (ahead : Ahead engine declared after) :
    after.plans.size ≤ declared.length + engine.plans.size := by
  have within : after.plans.keys ⊆ declared ++ engine.plans.keys := by
    intro id member
    rw [OrdMap.mem_keys_iff] at member
    rw [List.mem_append, OrdMap.mem_keys_iff]
    exact ahead.known id member
  have bound := (List.subperm_of_subset after.plans.keys_nodup within).length_le
  rw [List.length_append] at bound
  unfold OrdMap.keys at bound
  rw [List.length_map, List.length_map] at bound
  exact bound

/-- The plan that a call declares. -/
def Operation.declares : Operation storage → List PlanId
  | .declare request => [request.planId]
  | _ => []

theorem Ahead.trans {middle after : Engine storage} {first second : List PlanId}
    (before : Ahead engine first middle) (later : Ahead middle second after) :
    Ahead engine (first ++ second) after := by
  refine ⟨later.snapshot.trans before.snapshot, later.live.trans before.live,
    later.liveValid.trans before.liveValid, later.config.trans before.config, ?_⟩
  intro id held
  rw [List.mem_append]
  rcases later.known id held with declared | held
  · exact Or.inl (Or.inr declared)
  · rcases before.known id held with declared | held
    · exact Or.inl (Or.inl declared)
    · exact Or.inr held

theorem call_ahead (keyed : Keyed engine.plans) {operation : Operation storage}
    (planning : operation.Planning) : Ahead engine operation.declares (engine.call operation).2 := by
  have live : (engine.call operation).2.snapshot = engine.snapshot ∧
      (engine.call operation).2.live = engine.live ∧
      (engine.call operation).2.liveValid = engine.liveValid := by
    have step := call_live engine operation
    cases step with
    | same snapshot live liveValid => exact ⟨snapshot, live, liveValid⟩
    | submitted | recovered => exact planning.elim
  refine ⟨live.1, live.2.1, live.2.2, call_config engine operation, ?_⟩
  intro id held
  obtain ⟨later, found⟩ := Option.isSome_iff_exists.1 held
  rcases call_plan keyed found with ⟨plan, before, -⟩ | ⟨-, fresh⟩
  · right
    rw [OrdMap.contains, before]
    rfl
  · left
    cases fresh with
    | declared => exact List.mem_singleton_self _
    | restored => exact planning.elim

/-- The same for a run. -/
theorem run_ahead (steady : engine.Steady) {operations : List (Operation storage)}
    (planning : ∀ operation ∈ operations, operation.Planning) :
    Ahead engine (operations.flatMap Operation.declares) (engine.run operations) := by
  induction operations generalizing engine with
  | nil => exact ⟨rfl, rfl, rfl, rfl, fun _ held => Or.inr held⟩
  | cons operation rest ih =>
      have first := call_ahead steady.sound.keyed (planning operation List.mem_cons_self)
      rw [← apply_eq_call] at first
      have others := ih (apply_steady steady operation)
        (fun other member => planning other (List.mem_cons_of_mem _ member))
      exact first.trans others

/-- All calls of a plan, from its declaration to its commit. -/
def committing (request : DeclareRequest) (intent : CommitIntent) : List (Operation storage) :=
  .declare request :: preparing request.planId ++ [.commit ⟨request.planId, Gen.first⟩ intent]

theorem committing_planning (request : DeclareRequest) (intent : CommitIntent) :
    ∀ operation ∈ (committing request intent : List (Operation storage)), operation.Planning := by
  intro operation member
  simp only [committing, preparing, List.cons_append, List.nil_append, List.mem_cons, List.not_mem_nil,
    or_false] at member
  rcases member with rfl | rfl | rfl | rfl | rfl <;> trivial

theorem run_committing (engine : Engine storage) (request : DeclareRequest) (intent : CommitIntent) :
    engine.run (committing request intent) =
      ((engine.run (.declare request :: preparing request.planId)).commit
        ⟨request.planId, Gen.first⟩ intent).2 := by
  unfold committing run
  rw [List.foldl_append]
  rfl

/-- The commit that ends the calls. -/
theorem Prepared.installs {after : Engine storage} {authorized : Plan} {snapshot : FabricSnapshot}
    {outcome : SolveOutcome} {intent : CommitIntent}
    (prepared : Prepared engine after ref plan authorized snapshot outcome intent)
    (current : plan.generation = ref.generation) :
    after.commit ref intent = after.applyCommit authorized intent ∧
      ∃ later, Installs after (after.commit ref intent).2 authorized later intent := by
  have settled := commit_eq prepared.replaces.found (prepared.binding.generation.trans current)
    prepared.commits
  rw [settled]
  exact ⟨rfl, applyCommit_installs after authorized intent⟩

/-! Plans whose records are written and read back. -/

/-- A plan whose record is accepted and can be read. -/
structure Recordable (plan : Plan) : Prop where
  readable : plan.Readable
  short : plan.bodyLength ≤ 1048576

theorem Recordable.fits (recordable : Recordable plan) :
    (encodePlan plan).length ≤ Frame.maxRecordPayload := by
  have bound := length_encodePlan plan
  have short := recordable.short
  unfold Frame.maxRecordPayload Limits.maxFramePayload
  omega

/-- The plans hold the same result. -/
structure SameBody (before after : Plan) : Prop where
  components : after.components = before.components
  alternatives : after.alternatives = before.alternatives
  feasibility : after.feasibility = before.feasibility
  allocation : after.allocation = before.allocation
  churn : after.churn = before.churn

/-- What the decoder and the repository ask of the result. -/
structure BodyRecordable (plan : Plan) : Prop where
  componentCount : plan.components.length ≤ 16
  alternativeCount : plan.alternatives.length ≤ Limits.maxAlternatives
  alternatives : ∀ alternative ∈ plan.alternatives, alternative.Readable
  feasibility : plan.feasibility.Readable
  allocation : plan.allocation.Readable
  rationale : plan.churn.rationale.length ≤ Limits.maxTextLength
  short : plan.bodyLength ≤ 1048576

theorem BodyRecordable.same {next : Plan} (recordable : BodyRecordable plan) (body : SameBody plan next) :
    BodyRecordable next := by
  refine ⟨?_, ?_, ?_, ?_, ?_, ?_, ?_⟩
  · rw [body.components]
    exact recordable.componentCount
  · rw [body.alternatives]
    exact recordable.alternativeCount
  · rw [body.alternatives]
    exact recordable.alternatives
  · rw [body.feasibility]
    exact recordable.feasibility
  · rw [body.allocation]
    exact recordable.allocation
  · rw [body.churn]
    exact recordable.rationale
  · unfold Plan.bodyLength
    rw [body.components, body.alternatives, body.feasibility, body.allocation, body.churn]
    exact recordable.short

/-- The plan with another result. -/
theorem Recordable.with_body {next : Plan} (recordable : Recordable plan)
    (binding : SameBinding plan next)
    (incarnation : next.coordinatorIncarnation = plan.coordinatorIncarnation)
    (supersedes : next.supersedes.Readable) (supersededBy : next.supersededBy.Readable)
    (commit : next.commit.valid = true → next.commitGeneration.valid = true)
    (body : BodyRecordable next) : Recordable next := by
  have readable := recordable.readable
  refine ⟨⟨?_, ?_, ?_, ?_, ?_, body.componentCount, body.alternativeCount, body.alternatives,
    body.feasibility, body.allocation, body.rationale, supersedes, supersededBy, commit⟩, body.short⟩
  · rw [binding.id, binding.generation]
    exact readable.named
  · rw [binding.attempt, binding.attemptGeneration]
    exact readable.attempt
  · rw [binding.publisher, binding.publisherBoot]
    exact readable.publisher
  · rw [incarnation]
    exact readable.incarnation
  · rw [binding.authority]
    exact readable.authority

theorem Recordable.body (recordable : Recordable plan) : BodyRecordable plan :=
  ⟨recordable.readable.componentCount, recordable.readable.alternativeCount,
    recordable.readable.alternatives, recordable.readable.feasibility, recordable.readable.allocation,
    recordable.readable.rationale, recordable.short⟩

theorem Recordable.moved (recordable : Recordable plan) (state : PlanState)
    (applicability : PlanApplicability) :
    Recordable { plan with state := state, applicability := applicability } :=
  recordable.with_body ⟨rfl, rfl, rfl, rfl, rfl, rfl, rfl⟩ rfl recordable.readable.supersedes
    recordable.readable.supersededBy recordable.readable.commit
    (recordable.body.same ⟨rfl, rfl, rfl, rfl, rfl⟩)

theorem Recordable.committed (recordable : Recordable plan) {intent : CommitIntent}
    (named : intent.commit.valid = true ∧ intent.commitGeneration.valid = true) :
    Recordable (committedPlan plan intent) :=
  recordable.with_body ⟨rfl, rfl, rfl, rfl, rfl, rfl, rfl⟩ rfl recordable.readable.supersedes
    recordable.readable.supersededBy (fun _ => named.2)
    (recordable.body.same ⟨rfl, rfl, rfl, rfl, rfl⟩)

theorem Recordable.superseded (recordable : Recordable plan) {replacement : PlanRef}
    (valid : replacement.Readable) : Recordable (supersededPlan plan replacement) :=
  recordable.with_body ⟨rfl, rfl, rfl, rfl, rfl, rfl, rfl⟩ rfl recordable.readable.supersedes valid
    recordable.readable.commit (recordable.body.same ⟨rfl, rfl, rfl, rfl, rfl⟩)

/-- The next appends of plans with short records succeed. -/
def Accepting (repository : Option storage.Repository) (count : Nat) : Prop :=
  ∀ written next, written.length < count → (∀ plan ∈ written, Recordable plan) → Recordable next →
    (writeAll (appendEach repository written) [next]).1 = .ok ()

theorem accepting_none (count : Nat) : Accepting (none : Option storage.Repository) count := by
  intro written next _ _ _
  rw [appendEach_none, writeAll_none]

theorem appendEach_healthy {journal : Journal} {room : Nat} (written : List Plan)
    (healthy : journal.Healthy (written.length + room)) (fine : ∀ plan ∈ written, Recordable plan) :
    ∃ next, appendEach (some journal : Option durable.Repository) written = some next ∧
      Journal.Healthy next room := by
  induction written generalizing journal with
  | nil =>
      rw [List.length_nil, Nat.zero_add] at healthy
      exact ⟨journal, rfl, healthy⟩
  | cons plan rest ih =>
      rw [List.length_cons, Nat.add_right_comm] at healthy
      obtain ⟨answered, still, -⟩ :=
        Journal.Healthy.append journal _ healthy (fine plan List.mem_cons_self).fits
      have first : (writeAll (some journal : Option durable.Repository) [plan]).2 =
          some (journal.append .plan (encodePlan plan)).2 := by
        rw [writeAll_one]
      obtain ⟨last, found, healthy⟩ :=
        ih still (fun other member => fine other (List.mem_cons_of_mem plan member))
      refine ⟨last, ?_, healthy⟩
      unfold appendEach
      rw [List.foldl_cons, first]
      exact found

theorem accepting_healthy {journal : Journal} {count : Nat} (healthy : journal.Healthy count) :
    Accepting (some journal : Option durable.Repository) count := by
  intro written next few fine recordable
  obtain ⟨rest, split⟩ := Nat.exists_eq_add_of_lt few
  have room : journal.Healthy (written.length + (rest + 1)) := by
    rw [split] at healthy
    exact healthy
  obtain ⟨last, found, still⟩ := appendEach_healthy written room fine
  rw [found, writeAll_one]
  exact (Journal.Healthy.append last _ still recordable.fits).1

/-! The link fabric. -/

/-- The engine that the link fabric was submitted to, with a repository or without. -/
def linkEngine (repository : Option storage.Repository) : Engine storage :=
  (({ repository := repository } : Engine storage).submitSnapshot linkFabric).2

/-- The calls that make it. -/
def linkHistory : Option storage.Repository → List (Operation storage)
  | none => [.submitSnapshot linkFabric]
  | some repository => [.attachRepository repository, .submitSnapshot linkFabric]

theorem run_linkHistory (repository : Option storage.Repository) (operations : List (Operation storage)) :
    (new {}).run (linkHistory repository ++ operations) = (linkEngine repository).run operations := by
  cases repository <;> rfl

theorem linkEngine_eq (repository : Option storage.Repository) :
    linkEngine repository = ({ repository := repository } : Engine storage).withSnapshot linkFabric := by
  have fixed : canonicalize linkFabric = linkFabric := by decide +kernel
  unfold linkEngine submitSnapshot
  simp only [fixed, linkFabric_accepted.valid]
  rfl

theorem linkEngine_steady (repository : Option storage.Repository) :
    (linkEngine repository).Steady := by
  have steady := run_steady {} (linkHistory repository ++ [])
  rw [run_linkHistory] at steady
  exact steady

theorem linkEngine_ahead (repository : Option storage.Repository) :
    Ahead (linkEngine repository) [] (linkEngine repository) :=
  ⟨rfl, rfl, rfl, rfl, fun _ held => Or.inr held⟩

/-- A request for a plan, compared with an incumbent where one is given. -/
def linkRequest (id : PlanId) (incumbent : Option Allocation) : DeclareRequest :=
  { planId := id
    attempt := named "attempt-1"
    attemptGeneration := Gen.first
    publisher := named "planner"
    publisherBoot := ⟨Vector.replicate 16 1⟩
    hasIncumbent := incumbent.isSome
    incumbent := incumbent.getD default }

def linkIntent : CommitIntent :=
  { commit := named "commit-1"
    commitGeneration := Gen.first }

/-- What the solver finds for the link fabric. -/
def linkOutcome (options : SolveOptions) : SolveOutcome :=
  solveDerived linkFabric (derivation linkFabric) options

theorem solve_linkFabric (options : SolveOptions) (budget : options.maxIterations ≠ 0) :
    TrafficFabric.solve linkFabric options = .ok (linkOutcome options) := by
  have derives : derive linkFabric = .ok (derivation linkFabric) :=
    (derive_eq_ok linkFabric_accepted _).mpr ⟨by decide +kernel, rfl⟩
  unfold TrafficFabric.solve
  rw [if_neg budget, derives]
  rfl

theorem linkRequest_answerable (id : PlanId) :
    Answerable (linkRequest id none) linkFabric (linkOutcome {}) :=
  { answered := solve_linkFabric {} (by decide)
    feasible := by decide +kernel
    verified := by decide +kernel
    moves := ⟨nofun, nofun⟩ }

/-- A request for a plan of the link fabric that the engine has not seen. -/
theorem linkRequest_declarable {id : PlanId} (valid : id.valid = true) {declared : List PlanId}
    {repository : Option storage.Repository} (ahead : Ahead (linkEngine repository) declared engine)
    (fresh : id ∉ declared) (few : declared.length < 10) {incumbent : Option Allocation}
    (written : (engine.persist (engine.declaredPlan (linkRequest id incumbent))).1 = .ok ()) :
    Declarable engine (linkRequest id incumbent) := by
  have size := ahead.size
  have config := ahead.config
  have liveValid := ahead.liveValid
  have known := ahead.known id
  rw [linkEngine_eq] at size config liveValid known
  have absent : engine.plans.find? id = none := by
    cases found : engine.plans.find? id with
    | none => rfl
    | some plan =>
        rcases known (by rw [OrdMap.contains, found]; rfl) with declared | held
        · exact absurd declared fresh
        · cases held
  refine ⟨liveValid, valid, ⟨rfl, rfl⟩, ⟨rfl, rfl⟩, ?_, ?_, absent, written⟩
  · rw [config]
    rfl
  · have bound : 10 < ({} : EngineConfig).maxRecords.toNat := by decide
    have none : (({ repository := repository } : Engine storage).withSnapshot
        linkFabric).plans.size = 0 := rfl
    rw [config]
    change _ < ({} : EngineConfig).maxRecords.toNat
    omega

/-- The calls up to a commit of the link fabric, in an engine where others may have gone before. -/
theorem linkRequest_prepared {id : PlanId} {declared : List PlanId}
    {repository : Option storage.Repository} (steady : engine.Steady)
    (ahead : Ahead (linkEngine repository) declared engine) {incumbent : Option Allocation}
    (declarable : Declarable engine (linkRequest id incumbent)) {outcome : SolveOutcome}
    (answerable : Answerable (linkRequest id incumbent) linkFabric outcome) :
    ∃ authorized, Prepared (engine.declare (linkRequest id incumbent)).2
      (engine.run (.declare (linkRequest id incumbent) :: preparing id)) ⟨id, Gen.first⟩
      (engine.declaredPlan (linkRequest id incumbent)) authorized linkFabric outcome linkIntent ∧
      authorized.churn = (linkRequest id incumbent).churn linkFabric outcome ∧
      (engine.run (.declare (linkRequest id incumbent) :: preparing id)).pendingOf id =
        (linkRequest id incumbent).pending := by
  have present : engine.snapshot = some linkFabric := by
    rw [ahead.snapshot, linkEngine_eq]
    rfl
  exact run_declared_prepared steady declarable present answerable ⟨rfl, rfl⟩

/-- What the solver found for the link fabric passes the checks of the decoder. -/
theorem linkOutcome_readable : (linkOutcome {}).components.length ≤ 16 ∧
    (linkOutcome {}).alternatives.length ≤ Limits.maxAlternatives ∧
    (∀ alternative ∈ (linkOutcome {}).alternatives, alternative.Readable) ∧
    (linkOutcome {}).feasibility.Readable ∧ (linkOutcome {}).allocation.Readable := by
  refine ⟨by decide +kernel, by decide +kernel, ?_, ⟨by decide +kernel, by decide +kernel, ?_⟩,
    ⟨by decide +kernel, ?_, by decide +kernel, ?_⟩⟩
  · unfold RejectedAlternative.Readable
    decide +kernel
  · unfold BindingConstraint.Readable
    decide +kernel
  · intro demand member
    have named : ∀ demand ∈ (linkOutcome {}).allocation.demands,
        (demand.demand.valid = true ∧ demand.generation.valid = true) ∧
        demand.shares.length ≤ Limits.maxPathsPerDemand ∧
        ∀ share ∈ demand.shares, share.path.valid = true ∧ share.generation.valid = true := by
      decide +kernel
    exact ⟨(named demand member).1, (named demand member).2.1, (named demand member).2.2⟩
  · unfold ResourceUtilization.Readable
    decide +kernel

/-- A plan of the link fabric that was declared and perhaps solved. -/
theorem linkPlan_recordable {engine : Engine storage} {id : PlanId} (valid : id.valid = true)
    {declared : List PlanId} {repository : Option storage.Repository}
    (ahead : Ahead (linkEngine repository) declared engine) :
    Recordable (engine.declaredPlan (linkRequest id none)) ∧
      ∀ plan, SameBinding (engine.declaredPlan (linkRequest id none)) plan →
        SameLineage (engine.declaredPlan (linkRequest id none)) plan →
        Carries plan (linkOutcome {}) → plan.churn = {} → Recordable plan := by
  have authority : (engine.declaredPlan (linkRequest id none)).authority.valid = true := by
    change engine.live.valid = true
    rw [ahead.live, linkEngine_eq]
    exact authorityOf_valid linkFabric_accepted
  have incarnation : (engine.declaredPlan (linkRequest id none)).coordinatorIncarnation.valid = true := by
    change engine.config.coordinatorIncarnation.valid = true
    rw [ahead.config, linkEngine_eq]
    rfl
  have readable : (engine.declaredPlan (linkRequest id none)).Readable :=
    { named := ⟨valid, rfl⟩
      attempt := ⟨rfl, rfl⟩
      publisher := ⟨rfl, rfl⟩
      incarnation := incarnation
      authority := authority
      componentCount := Nat.zero_le _
      alternativeCount := Nat.zero_le _
      alternatives := fun _ member => absurd member List.not_mem_nil
      feasibility := ⟨Nat.zero_le _, Nat.zero_le _, fun _ member => absurd member List.not_mem_nil⟩
      allocation := ⟨Nat.zero_le _, fun _ member => absurd member List.not_mem_nil, Nat.zero_le _,
        fun _ member => absurd member List.not_mem_nil⟩
      rationale := Nat.zero_le _
      supersedes := nofun
      supersededBy := nofun
      commit := nofun }
  have recordable : Recordable (engine.declaredPlan (linkRequest id none)) :=
    ⟨readable, show ({} : Plan).bodyLength ≤ 1048576 by decide⟩
  refine ⟨recordable, ?_⟩
  intro plan binding lineage carries churn
  obtain ⟨componentCount, alternativeCount, alternatives, feasibility, allocation⟩ := linkOutcome_readable
  refine recordable.with_body binding lineage.incarnation ?_ ?_ ?_ ⟨?_, ?_, ?_, ?_, ?_, ?_, ?_⟩
  · rw [lineage.supersedes]
    exact readable.supersedes
  · rw [lineage.supersededBy]
    exact readable.supersededBy
  · rw [lineage.commit.1, lineage.commit.2]
    exact readable.commit
  · rw [carries.components]
    exact componentCount
  · rw [carries.alternatives]
    exact alternativeCount
  · rw [carries.alternatives]
    exact alternatives
  · rw [carries.feasibility]
    exact feasibility
  · rw [carries.allocation]
    exact allocation
  · rw [churn]
    decide
  · unfold Plan.bodyLength
    rw [carries.components, carries.alternatives, carries.feasibility, carries.allocation, churn]
    decide +kernel

/-- Two plans of the link fabric: the first is committed, the second is at the gate. -/
def twoPlans (first second : PlanId) (incumbent : Option Allocation) : List (Operation storage) :=
  committing (linkRequest first none) linkIntent ++
    .declare (linkRequest second incumbent) :: preparing second

/-- What is in place before the second commit. -/
structure Waiting (engine : Engine storage) (repository : Option storage.Repository)
    (first second : PlanId) (incumbent : Option Allocation) (outcome : SolveOutcome)
    (committed waiting : Plan) : Prop where
  found : engine.plans.find? first = some committed
  state : committed.state = .committed
  carries : Carries committed (linkOutcome {})
  present : engine.plans.find? second = some waiting
  current : waiting.ref = ⟨second, Gen.first⟩
  commits : Commits engine waiting linkIntent
  churn : waiting.churn = (linkRequest second incumbent).churn linkFabric outcome
  displaces : engine.supersededByCommit waiting = some committed
  pending : engine.pendingOf second = (linkRequest second incumbent).pending
  firstRecordable : Recordable committed
  secondRecordable : outcome = linkOutcome {} → waiting.churn = {} → Recordable waiting
  logged : ∃ declared written, engine.repository =
      appendEach repository (written ++ preparedPlans declared waiting) ∧ Recordable declared ∧
    written.length = 6 ∧ ∀ plan ∈ written, Recordable plan

/-- The first declaration of the link fabric goes through. -/
theorem linkRequest_first {first : PlanId} (valid : first.valid = true)
    {repository : Option storage.Repository} (accepting : Accepting repository 1) :
    Declarable (linkEngine repository) (linkRequest first none) := by
  have ahead := linkEngine_ahead repository
  have attached : (linkEngine repository).repository = repository := by
    rw [linkEngine_eq]
    rfl
  have written : ((linkEngine repository).persist
      ((linkEngine repository).declaredPlan (linkRequest first none))).1 = .ok () := by
    rw [persist_write, attached]
    exact accepting [] _ (by decide) (fun _ member => absurd member List.not_mem_nil)
      (linkPlan_recordable valid ahead).1
  exact linkRequest_declarable valid ahead List.not_mem_nil (by decide) written

/-- Nothing is in place before the first commit. -/
theorem linkRequest_vacant {first : PlanId} (valid : first.valid = true)
    {repository : Option storage.Repository} (accepting : Accepting repository 1) :
    ((linkEngine repository).run
      (.declare (linkRequest first none) :: preparing first)).incumbent = default := by
  have declarable := linkRequest_first valid accepting
  obtain ⟨authorized, prepared, -, -⟩ := linkRequest_prepared (linkEngine_steady repository)
    (linkEngine_ahead repository) declarable (linkRequest_answerable first)
  rw [prepared.replaces.incumbent, (declare_others declarable).2.1, linkEngine_eq]
  rfl

/-- The plan of the link fabric is committed, and these plans were written on the way. -/
structure Settled (engine : Engine storage) (repository : Option storage.Repository) (id : PlanId)
    (committed : Plan) (written : List Plan) : Prop where
  found : engine.plans.find? id = some committed
  state : committed.state = .committed
  generation : committed.generation = Gen.first
  named : committed.commit = linkIntent.commit ∧ committed.commitGeneration = linkIntent.commitGeneration
  carries : Carries committed (linkOutcome {})
  incumbent : engine.incumbent.id = id
  logged : engine.repository = appendEach repository written
  count : written.length = 5
  recordable : ∀ plan ∈ written, Recordable plan
  first : ∃ declared rest, written = declared :: rest ∧ declared.state = .declared
  last : committed ∈ written

/-- The first plan of the link fabric goes all the way. -/
theorem linkRequest_committed {first : PlanId} (valid : first.valid = true)
    {repository : Option storage.Repository} (accepting : Accepting repository 1) :
    ∃ committed written, Settled ((linkEngine repository).run (committing (linkRequest first none)
      linkIntent)) repository first committed written := by
  have steady := linkEngine_steady repository
  have ahead := linkEngine_ahead repository
  obtain ⟨recordable, made⟩ := linkPlan_recordable valid ahead
  have attached : (linkEngine repository).repository = repository := by
    rw [linkEngine_eq]
    rfl
  have declarable := linkRequest_first valid accepting
  obtain ⟨authorized, prepared, churn, -⟩ :=
    linkRequest_prepared steady ahead declarable (linkRequest_answerable first)
  have others := declare_others declarable
  -- Nothing is in place, so the commit displaces nothing.
  have alone : ((linkEngine repository).run
      (.declare (linkRequest first none) :: preparing first)).supersededByCommit authorized = none := by
    unfold supersededByCommit
    rw [linkRequest_vacant valid accepting, if_neg (fun held => absurd held.1 (by decide))]
  obtain ⟨-, committed, installed⟩ := prepared.installs rfl
  obtain ⟨same, log⟩ := installed.alone alone
  have key : authorized.id = first := prepared.binding.id
  have ready : Recordable authorized :=
    made authorized prepared.binding prepared.lineage prepared.carries churn
  have final : Recordable committed := by
    rw [same]
    exact ready.committed ⟨rfl, rfl⟩
  have found := installed.found
  rw [key] at found
  have carries := installed.carries _ prepared.carries
  have generation := installed.binding.generation.trans prepared.binding.generation
  rw [run_committing, show (linkRequest first none).planId = first from rfl]
  let declared := (linkEngine repository).declaredPlan (linkRequest first none)
  refine ⟨committed, [declared] ++ preparedPlans declared authorized ++ [committed], found, installed.state,
    generation, installed.named, carries, ?_, ?_, rfl, ?_, ⟨declared, _, rfl, rfl⟩, ?_⟩
  · rw [installed.incumbent]
    exact key
  · rw [appendEach_append, appendEach_append, log, prepared.replaces.repository, others.2.2, attached]
  · intro plan member
    simp only [preparedPlans, List.cons_append, List.nil_append, List.mem_cons, List.not_mem_nil,
      or_false] at member
    rcases member with rfl | rfl | rfl | rfl | rfl
    · exact recordable
    · exact recordable.moved _ _
    · exact ready.moved _ _
    · exact ready
    · exact final
  · exact List.mem_append_right _ List.mem_cons_self

theorem twoPlans_waiting {first second : PlanId} (different : first ≠ second)
    (valid : first.valid = true ∧ second.valid = true) {repository : Option storage.Repository}
    (accepting : Accepting repository 6) {incumbent : Option Allocation} {outcome : SolveOutcome}
    (answerable : Answerable (linkRequest second incumbent) linkFabric outcome) :
    ∃ committed waiting, Waiting ((new {}).run (linkHistory repository ++ twoPlans first second incumbent))
      repository first second incumbent outcome committed waiting := by
  have start : Accepting repository 1 := fun written next few => accepting written next (by omega)
  obtain ⟨committed, written, settled⟩ := linkRequest_committed valid.1 start
  let next : Engine storage := (linkEngine repository).run (committing (linkRequest first none) linkIntent)
  change Settled next repository first committed written at settled
  have steady : next.Steady := by
    have whole := run_steady {} (linkHistory repository ++ committing (linkRequest first none) linkIntent)
    rw [run_linkHistory] at whole
    exact whole
  have ahead : Ahead (linkEngine repository) [first] next :=
    run_ahead (linkEngine_steady repository) (committing_planning (linkRequest first none) linkIntent)
  -- The second plan.
  have fresh : second ∉ [first] := by
    rw [List.mem_singleton]
    exact different.symm
  have few : [first].length < 10 := by
    rw [List.length_singleton]
    omega
  obtain ⟨recordable, made⟩ := linkPlan_recordable valid.2 ahead
  have accepted : (next.persist (next.declaredPlan (linkRequest second incumbent))).1 = .ok () := by
    have count := settled.count
    rw [persist_write, settled.logged]
    exact accepting written _ (by omega) settled.recordable recordable
  have declarable := linkRequest_declarable valid.2 ahead fresh few accepted
  obtain ⟨waiting, ready, churn, pending⟩ := linkRequest_prepared steady ahead declarable answerable
  have others := declare_others declarable
  let last : Engine storage := next.run (.declare (linkRequest second incumbent) :: preparing second)
  have whole : (new {}).run (linkHistory repository ++ twoPlans first second incumbent) = last := by
    rw [run_linkHistory]
    unfold twoPlans run
    rw [List.foldl_append]
    rfl
  have there : last.plans.find? first = some committed := by
    rw [ready.replaces.others first different, others.1 first different]
    exact settled.found
  have lastIncumbent : last.incumbent.id = first := by
    rw [ready.replaces.incumbent, others.2.1]
    exact settled.incumbent
  have waitingKey : waiting.id = second := ready.binding.id
  have displaces : last.supersededByCommit waiting = some committed := by
    unfold supersededByCommit
    rw [lastIncumbent, waitingKey, if_pos ⟨valid.1, different⟩, there]
    dsimp only
    rw [if_pos settled.state]
  have current : waiting.ref = ⟨second, Gen.first⟩ := by
    unfold Plan.ref
    rw [waitingKey, ready.binding.generation]
    rfl
  rw [whole]
  refine ⟨committed, waiting, there, settled.state, settled.carries, ready.replaces.found, current,
    ready.commits, churn, displaces, pending, settled.recordable committed settled.last, ?_,
      next.declaredPlan (linkRequest second incumbent),
    written ++ [next.declaredPlan (linkRequest second incumbent)], ?_, recordable, ?_, ?_⟩
  · intro same plain
    have carried := ready.carries
    rw [same] at carried
    exact made waiting ready.binding ready.lineage carried plain
  · rw [appendEach_append, appendEach_append, ready.replaces.repository, others.2.2, settled.logged]
  · rw [List.length_append, settled.count, List.length_singleton]
  · intro plan member
    rcases List.mem_append.1 member with earlier | here
    · exact settled.recordable plan earlier
    · rw [List.mem_singleton] at here
      rw [here]
      exact recordable

end Engine

end TrafficFabric
