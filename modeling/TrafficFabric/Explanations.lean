import TrafficFabric.Applicability

set_option autoImplicit false

/- The explanation that is stored for a solved plan. Its components come from a second scoring of the
allocation, and that scoring is told of no incumbent. -/
namespace TrafficFabric

open PlanStateMachine (canTransition)

/-- The saturating sum of the weighted values. -/
def totalOf (components : List ObjectiveComponent) : Int :=
  components.foldl (fun total component => satAdd total component.weighted) 0

/-- The explanation tells the objective as the plan does. -/
structure Explanation.Matches (explanation : Explanation) (plan : Plan) : Prop where
  components : explanation.components = plan.components
  score : explanation.totalScore = plan.objectiveScore
  total : explanation.totalScore = totalOf explanation.components

/-- The objective of the plan is as it was. -/
def SameObjective (plan later : Plan) : Prop :=
  later.components = plan.components ∧ later.objectiveScore = plan.objectiveScore

theorem Explanation.Matches.later {explanation : Explanation} {plan later : Plan}
    (matched : explanation.Matches plan) (same : SameObjective plan later) : explanation.Matches later :=
  ⟨matched.components.trans same.1.symm, matched.score.trans same.2.symm, matched.total⟩

theorem buildExplanation_objective (plan : Plan) (snapshot : FabricSnapshot) :
    (buildExplanation plan snapshot).components = (scoreAllocation snapshot plan.allocation).2 ∧
      (buildExplanation plan snapshot).totalScore = plan.objectiveScore := by
  unfold buildExplanation buildExplanationBy
  cases derive snapshot with
  | error reason => exact ⟨rfl, rfl⟩
  | ok derived => exact ⟨rfl, rfl⟩

/-! The second scoring. -/

/-- Nothing that is compared with an incumbent enters the score. -/
def Unchurned (snapshot : FabricSnapshot) (options : SolveOptions) : Prop :=
  options.hasIncumbent = false ∨ ∀ weight ∈ snapshot.objective.terms, weight.term ≠ .minimizeChurn

section Scoring

variable {snapshot : FabricSnapshot} {derived : Derivation} {options : SolveOptions}

variable (options) in
theorem computeMetrics_unaware (allocation : Allocation) :
    computeMetrics snapshot derived allocation {} =
      { computeMetrics snapshot derived allocation options with movedBandwidth := 0 } := rfl

theorem rawValue_unaware (metrics : Metrics) {term : ObjectiveTerm} (other : term ≠ .minimizeChurn) :
    rawValue { metrics with movedBandwidth := 0 } term = rawValue metrics term := by
  cases term with
  | minimizeChurn => exact absurd rfl other
  | satisfyMinimums | minimizeMaxUtilization | minimizeCongestionExposure | minimizeTotalPathCost
  | preserveReservations | preservePriority | maximizeDesiredBandwidth | fairnessAcrossGroups
  | minimizeFailureDomainConcentration | minimizePathCount => rfl

theorem components_unaware (unchurned : Unchurned snapshot options) (allocation : Allocation) :
    snapshot.objective.terms.map (componentOf (computeMetrics snapshot derived allocation {})) =
      snapshot.objective.terms.map (componentOf (computeMetrics snapshot derived allocation options)) := by
  rcases unchurned with alone | unlisted
  · have same : computeMetrics snapshot derived allocation {} =
        computeMetrics snapshot derived allocation options := by
      unfold computeMetrics
      rw [alone]
      rfl
    rw [same]
  · rw [computeMetrics_unaware options]
    apply List.map_congr_left
    intro weight member
    unfold componentOf
    rw [rawValue_unaware _ (unlisted weight member)]

/-- What is constructed is scored the same way by the solver and by the explanation. -/
theorem scoreAllocation_solved (derives : derive snapshot = .ok derived)
    (constructs : Constructs snapshot derived)
    (unchurned : Unchurned snapshot options) :
    (scoreAllocation snapshot (solveDerived snapshot derived options).allocation).2 =
        (solveDerived snapshot derived options).components ∧
      (solveDerived snapshot derived options).score =
        totalOf (solveDerived snapshot derived options).components := by
  rw [solveDerived_constructs constructs]
  constructor
  · unfold scoreAllocation
    rw [derives]
    exact components_unaware unchurned _
  · rfl

end Scoring

namespace Engine

variable {storage : Storage} {engine : Engine storage} {operation : Operation storage}

/-! The calls that leave the explanations alone. -/

theorem record_explanations {α : Type} (engine : Engine storage) (plan : Plan) (answer : Result α) :
    (engine.record plan answer).2.explanations = engine.explanations := by
  rw [record_frame]

theorem recordBoth_explanations {α : Type} (engine : Engine storage) (first second : Plan)
    (answer : Result α) :
    (engine.recordBoth first second answer).2.explanations = engine.explanations := by
  rw [recordBoth_frame]

theorem demoteOutdated_explanations (ids : List PlanId) (engine : Engine storage) :
    (engine.demoteOutdated ids).2.explanations = engine.explanations := by
  apply demoteOutdated_keeps fun current => current.explanations = engine.explanations
  · intro current id plan kept _ _ _
    rw [record_explanations]
    exact kept
  · rfl

theorem revalidateBound_explanations {plan : Plan} {stage : Text} {answer : Result Plan × Engine storage}
    (answered : engine.revalidateBound plan stage = some answer) :
    answer.2.explanations = engine.explanations := by
  unfold revalidateBound at answered
  dsimp only at answered
  split at answered
  · rw [← Option.some.inj answered, record_explanations]
    rfl
  · split at answered
    · rw [← Option.some.inj answered, record_explanations]
      rfl
    · cases answered

theorem declare_explanations (request : DeclareRequest) :
    (engine.declare request).2.explanations = engine.explanations := by
  have kept : (engine.persist (engine.declaredPlan request)).2.explanations = engine.explanations := by
    rw [persist_frame]
  unfold declare
  dsimp only
  repeat' split
  all_goals first
    | rfl
    | (rename_i persisted; rw [persisted] at kept; exact kept)

theorem validate_explanations (ref : PlanRef) :
    (engine.validate ref).2.explanations = engine.explanations := by
  unfold validate
  dsimp only
  repeat' split
  all_goals first
    | rfl
    | exact record_explanations _ _ _

theorem authorize_explanations (ref : PlanRef) :
    (engine.authorize ref).2.explanations = engine.explanations := by
  unfold authorize
  dsimp only
  repeat' split
  all_goals first
    | rfl
    | exact record_explanations _ _ _
    | (rename_i answered; exact revalidateBound_explanations answered)

theorem commit_explanations (ref : PlanRef) (intent : CommitIntent) :
    (engine.commit ref intent).2.explanations = engine.explanations := by
  unfold commit applyCommit
  dsimp only
  repeat' split
  all_goals first
    | rfl
    | exact record_explanations _ _ _
    | exact recordBoth_explanations _ _ _ _
    | (rename_i answered; exact revalidateBound_explanations answered)

theorem supersede_explanations (incumbentRef replacementRef : PlanRef) :
    (engine.supersede incumbentRef replacementRef).2.explanations = engine.explanations := by
  unfold supersede
  dsimp only
  repeat' split
  all_goals first
    | rfl
    | exact recordBoth_explanations _ _ _ _

theorem markStale_explanations (ref : PlanRef) :
    (engine.markStale ref).2.explanations = engine.explanations := by
  unfold markStale
  dsimp only
  repeat' split
  all_goals first
    | rfl
    | exact record_explanations _ _ _

theorem retire_explanations (ref : PlanRef) : (engine.retire ref).2.explanations = engine.explanations := by
  unfold retire
  dsimp only
  repeat' split
  all_goals first
    | rfl
    | exact record_explanations _ _ _

theorem revalidate_explanations (ref : PlanRef) :
    (engine.revalidate ref).2.explanations = engine.explanations := by
  unfold revalidate
  dsimp only
  repeat' split
  all_goals first
    | rfl
    | exact record_explanations _ _ _

theorem recoverFromRepository_explanations :
    (engine.recoverFromRepository).2.explanations = engine.explanations := by
  unfold recoverFromRepository
  dsimp only
  repeat' split
  all_goals rfl

theorem attachRepository_explanations (repository : storage.Repository) :
    (engine.attachRepository repository).2.explanations = engine.explanations := by
  unfold attachRepository
  repeat' split
  all_goals rfl

theorem submitSnapshot_explanations (raw : FabricSnapshot) :
    (engine.submitSnapshot raw).2.explanations = engine.explanations := by
  unfold submitSnapshot
  dsimp only
  split
  · rfl
  · exact demoteOutdated_explanations _ _

theorem call_explanations (unsolving : ∀ ref, operation ≠ .solve ref) :
    (engine.call operation).2.explanations = engine.explanations := by
  cases operation with
  | solve ref => exact absurd rfl (unsolving ref)
  | attachRepository repository => exact attachRepository_explanations repository
  | detachRepository | sharedWrite => rfl
  | submitSnapshot raw => exact submitSnapshot_explanations raw
  | declare request => exact declare_explanations request
  | validate ref => exact validate_explanations ref
  | authorize ref => exact authorize_explanations ref
  | commit ref intent => exact commit_explanations ref intent
  | supersede incumbent replacement => exact supersede_explanations incumbent replacement
  | markStale ref => exact markStale_explanations ref
  | retire ref => exact retire_explanations ref
  | revalidate ref => exact revalidate_explanations ref
  | recoverFromRepository => exact recoverFromRepository_explanations

/-! What stays of a solved plan. -/

theorem PlanStep.objective {id : PlanId} {plan later : Plan}
    (step : PlanStep engine operation id plan later)
    (unsolving : ∀ ref, operation ≠ .solve ref) : SameObjective plan later := by
  cases step with
  | kept | displacing | displaced | superseded | superseding | demoted => exact ⟨rfl, rfl⟩
  | noted _ noted =>
      cases noted with
      | current | behind | unfounded => exact ⟨rfl, rfl⟩
  | recorded _ change =>
      cases change with
      | unsolvable | solved => exact absurd rfl (unsolving _)
      | validated | outdated | contradicted | forbidden | authorized | unverified | committed | marked
      | retired => exact ⟨rfl, rfl⟩

/-- The solver is called for the plan and finds an outcome. -/
structure Answers (engine : Engine storage) (ref : PlanRef) (plan : Plan) (outcome : SolveOutcome) :
    Prop where
  found : engine.plans.find? ref.id = some plan
  current : plan.generation = ref.generation
  solves : Solves engine plan
  answered : TrafficFabric.solve engine.liveSnapshot (engine.solveOptions plan.id) = .ok outcome

theorem solve_answered {ref : PlanRef} {plan : Plan} {outcome : SolveOutcome}
    (answers : Answers engine ref plan outcome) :
    (engine.solve ref).2.explanations = engine.explanations.insert plan.id
        (buildExplanation (engine.proposal plan outcome) engine.liveSnapshot) ∧
      (engine.solve ref).2.plans = engine.plans.insert plan.id (engine.proposal plan outcome) := by
  have edge : canTransition plan.state .solving = true := by
    rw [answers.solves.validated]
    rfl
  have identical := answers.solves.identical
  have answered := answers.answered
  unfold deltaOf at identical
  unfold solveOptions pendingOf at answered
  unfold solve
  simp only [answers.found]
  rw [if_neg (not_not.2 answers.current)]
  simp only [edge, answers.solves.live, identical, Bool.not_true, Bool.false_eq_true, if_false]
  unfold finishSolve
  simp only [answered]
  rw [record_explanations, record_plans]
  split
  · exact ⟨rfl, rfl⟩
  · exact ⟨rfl, rfl⟩

/-- A call of `solve` that gets no answer from the solver leaves objectives and explanations alone. -/
theorem solve_unanswered (keyed : Keyed engine.plans) (ref : PlanRef)
    (unanswered : ∀ plan outcome, ¬ Answers engine ref plan outcome) :
    (engine.solve ref).2.explanations = engine.explanations ∧
      ∀ id plan, engine.plans.find? id = some plan →
        ∃ later, (engine.solve ref).2.plans.find? id = some later ∧ SameObjective plan later := by
  have unchanged : ∀ id plan, engine.plans.find? id = some plan →
      ∃ later, engine.plans.find? id = some later ∧ SameObjective plan later :=
    fun id plan found => ⟨plan, found, rfl, rfl⟩
  have rewritten : ∀ {plan next : Plan}, engine.plans.find? ref.id = some plan → next.id = plan.id →
      SameObjective plan next → ∀ id before, engine.plans.find? id = some before →
        ∃ later, (engine.plans.insert next.id next).find? id = some later ∧ SameObjective before later := by
    intro plan next found key same id before present
    rw [key, keyed ref.id plan found, OrdMap.find?_insert]
    by_cases here : id = ref.id
    · rw [here, found, Option.some.injEq] at present
      rw [if_pos here, ← present]
      exact ⟨next, rfl, same⟩
    · rw [if_neg here]
      exact ⟨before, present, rfl, rfl⟩
  unfold solve
  cases found : engine.plans.find? ref.id with
  | none => exact ⟨rfl, unchanged⟩
  | some plan =>
      dsimp only
      by_cases current : plan.generation ≠ ref.generation
      · rw [if_pos current]
        exact ⟨rfl, unchanged⟩
      rw [if_neg current]
      cases edge : canTransition plan.state .solving with
      | false => exact ⟨rfl, unchanged⟩
      | true =>
          simp only [Bool.not_true, Bool.false_eq_true, if_false]
          by_cases dark : (!engine.liveValid) = true
          · rw [if_pos dark]
            exact ⟨rfl, unchanged⟩
          rw [if_neg dark]
          by_cases differs : (!(compareAuthority plan.authority engine.live).identical) = true
          · rw [if_pos differs]
            refine ⟨record_explanations _ _ _, ?_⟩
            rw [record_plans]
            exact rewritten found rfl ⟨rfl, rfl⟩
          rw [if_neg differs]
          have solves : Solves engine plan :=
            ⟨validated_of_edge edge, by simpa using dark, by simpa [deltaOf] using differs⟩
          unfold finishSolve
          dsimp only
          split
          · refine ⟨record_explanations _ _ _, ?_⟩
            rw [record_plans]
            exact rewritten found rfl ⟨rfl, rfl⟩
          · rename_i outcome answered
            exact absurd ⟨found, not_not.1 current, solves, answered⟩ (unanswered plan outcome)

/-! The explanations along a run. -/

/-- Every stored explanation matches its plan. -/
def Explained (engine : Engine storage) : Prop :=
  ∀ id explanation, engine.explanations.find? id = some explanation →
    ∃ plan, engine.plans.find? id = some plan ∧ explanation.Matches plan

/-- A plan is solved only where the solver gets as far as an allocation and nothing that is compared with an
incumbent enters the score. -/
def Explainable (engine : Engine storage) : Operation storage → Prop
  | .solve ref => ∀ plan derived, engine.plans.find? ref.id = some plan → plan.generation = ref.generation →
      Solves engine plan → derive engine.liveSnapshot = .ok derived →
        Constructs engine.liveSnapshot derived ∧ Unchurned engine.liveSnapshot (engine.solveOptions plan.id)
  | _ => True

/-- The explanation of what was constructed matches the proposal. -/
theorem Answers.matches {ref : PlanRef} {plan : Plan} {outcome : SolveOutcome}
    (answers : Answers engine ref plan outcome) (explainable : Explainable engine (.solve ref)) :
    (buildExplanation (engine.proposal plan outcome) engine.liveSnapshot).Matches
      (engine.proposal plan outcome) := by
  have answered := answers.answered
  cases derives : derive engine.liveSnapshot with
  | error reason =>
      unfold TrafficFabric.solve at answered
      rw [derives] at answered
      split at answered
      · cases answered
      · cases answered
  | ok derived =>
      obtain ⟨constructs, unchurned⟩ :=
        explainable plan derived answers.found answers.current answers.solves derives
      obtain ⟨-, rfl⟩ := solve_eq_ok derives answered
      obtain ⟨components, score⟩ := scoreAllocation_solved derives constructs unchurned
      obtain ⟨explained, told⟩ := buildExplanation_objective (engine.proposal plan
        (solveDerived engine.liveSnapshot derived (engine.solveOptions plan.id))) engine.liveSnapshot
      refine ⟨?_, told, ?_⟩
      · rw [explained]
        exact components
      · rw [told, explained]
        exact score.trans (congrArg totalOf components.symm)

theorem apply_explained (keyed : Keyed engine.plans) (explained : Explained engine)
    (explainable : Explainable engine operation) : Explained (engine.apply operation) := by
  -- Explanations that stay need their plans to stay with the same objective.
  have keeps : (engine.call operation).2.explanations = engine.explanations →
      (∀ id plan, engine.plans.find? id = some plan →
        ∃ later, (engine.call operation).2.plans.find? id = some later ∧ SameObjective plan later) →
      Explained (engine.call operation).2 := by
    intro same stay id explanation stored
    rw [same] at stored
    obtain ⟨plan, found, matched⟩ := explained id explanation stored
    obtain ⟨later, present, objective⟩ := stay id plan found
    exact ⟨later, present, matched.later objective⟩
  rw [apply_eq_call]
  by_cases solving : ∃ ref, operation = .solve ref
  · obtain ⟨ref, rfl⟩ := solving
    by_cases answered : ∃ plan outcome, Answers engine ref plan outcome
    · obtain ⟨plan, outcome, answers⟩ := answered
      obtain ⟨explanations, plans⟩ := solve_answered answers
      intro id explanation stored
      change (engine.solve ref).2.explanations.find? id = some explanation at stored
      change ∃ later, (engine.solve ref).2.plans.find? id = some later ∧ _
      rw [explanations, OrdMap.find?_insert] at stored
      rw [plans, OrdMap.find?_insert]
      by_cases here : id = plan.id
      · rw [if_pos here, Option.some.injEq] at stored
        rw [if_pos here, ← stored]
        exact ⟨_, rfl, answers.matches explainable⟩
      · rw [if_neg here] at stored ⊢
        exact explained id explanation stored
    · obtain ⟨same, stay⟩ := solve_unanswered keyed ref (by simpa using answered)
      exact keeps same stay
  · have unsolving : ∀ ref, operation ≠ .solve ref := by simpa using solving
    apply keeps (call_explanations unsolving)
    intro id plan found
    obtain ⟨later, present, -⟩ := (apply_advances keyed operation).kept id plan found
    rw [apply_eq_call] at present
    rcases call_plan keyed present with ⟨before, there, step⟩ | ⟨absent, -⟩
    · rw [found, Option.some.injEq] at there
      exact ⟨later, present, there ▸ step.objective unsolving⟩
    · rw [found] at absent
      cases absent

/-- What the engine has solved has a stored explanation. -/
def SolvedStored (config : EngineConfig) (history : List (Operation storage)) : Prop :=
  ∀ past ref rest plan outcome, history = past ++ .solve ref :: rest →
    Answers ((new config).run past) ref plan outcome →
    ∃ explanation, ((new config).run history).explanations.find? ref.id = some explanation

/-- Explanations are replaced, and never dropped. -/
theorem apply_stored (keyed : Keyed engine.plans) (operation : Operation storage) {id : PlanId}
    (stored : (engine.explanations.find? id).isSome) :
    ((engine.apply operation).explanations.find? id).isSome := by
  rw [apply_eq_call]
  by_cases solving : ∃ ref, operation = .solve ref
  · obtain ⟨ref, rfl⟩ := solving
    change ((engine.solve ref).2.explanations.find? id).isSome
    by_cases answered : ∃ plan outcome, Answers engine ref plan outcome
    · obtain ⟨plan, outcome, answers⟩ := answered
      rw [(solve_answered answers).1, OrdMap.find?_insert]
      by_cases here : id = plan.id
      · rw [if_pos here]
        rfl
      · rw [if_neg here]
        exact stored
    · rw [(solve_unanswered keyed ref (by simpa using answered)).1]
      exact stored
  · rw [call_explanations (by simpa using solving)]
    exact stored

theorem run_stored (config : EngineConfig) (history : List (Operation storage)) :
    SolvedStored config history := by
  rintro past ref rest plan outcome rfl answers
  have before := run_steady config past
  have key : plan.id = ref.id := before.sound.keyed ref.id plan answers.found
  have first : ((((new config).run past).apply (.solve ref)).explanations.find? ref.id).isSome := by
    rw [apply_eq_call]
    change ((((new config).run past).solve ref).2.explanations.find? ref.id).isSome
    rw [(solve_answered answers).1, key, OrdMap.find?_insert_self]
    rfl
  have whole : ((new config).run (past ++ .solve ref :: rest)).Steady ∧
      (((new config).run (past ++ .solve ref :: rest)).explanations.find? ref.id).isSome := by
    have split : (new config).run (past ++ .solve ref :: rest) =
        (((new config).run past).apply (.solve ref)).run rest := List.foldl_append
    rw [split]
    refine Runs.invariant (fun engine : Engine storage => engine.Steady ∧
      (engine.explanations.find? ref.id).isSome) ?_ ⟨apply_steady before (.solve ref), first⟩
      (Runs.along_true _ rest)
    intro engine operation held _
    exact ⟨apply_steady held.1 operation, apply_stored held.1.sound.keyed operation held.2⟩
  exact Option.isSome_iff_exists.mp whole.2

/-- In every run whose solver calls construct an allocation and score it without an incumbent, whatever has
been solved is explained, and all stored explanations match. -/
theorem run_explained (config : EngineConfig) (history : List (Operation storage))
    (explainable : Runs.Along apply Explainable (new config) history) :
    Explained ((new config).run history) ∧ SolvedStored config history := by
  have whole : ((new config).run history).Steady ∧ Explained ((new config).run history) := by
    refine Runs.invariant (fun engine : Engine storage => engine.Steady ∧ Explained engine) ?_
      ⟨new_steady config, ?_⟩
      explainable
    · intro engine operation kept meets
      exact ⟨apply_steady kept.1 operation, apply_explained kept.1.sound.keyed kept.2 meets⟩
    · intro id explanation stored
      cases stored
  exact ⟨whole.2, run_stored config history⟩

/-- The first plan is validated, and the solver answers for it. -/
theorem DeclaredFirst.answers {engine : Engine durable} {fabric : FabricSnapshot} {request : DeclareRequest}
    {plan : Plan} (first : DeclaredFirst engine fabric request plan) (accepted : Accepted fabric)
    {outcome : SolveOutcome}
    (solved : TrafficFabric.solve fabric (engine.solveOptions request.planId) = .ok outcome) :
    ∃ validated, (engine.validate ⟨request.planId, Gen.first⟩).2.liveSnapshot = fabric ∧
      Answers (engine.validate ⟨request.planId, Gen.first⟩).2
        ⟨request.planId, Gen.first⟩ validated outcome := by
  have identical : (engine.deltaOf plan).identical = true := by
    unfold deltaOf
    rw [first.bound, first.same, compareAuthority_identical (authorityOf_valid accepted)
      (authorityOf_valid accepted)]
  have valid : validateStructure engine.liveSnapshot = .ok () := by
    rw [liveSnapshot_eq first.snapshot]
    exact accepted.valid
  let validated : Plan := { plan with state := .validated, applicability := .current }
  have replaced : Replaces engine (engine.validate ⟨request.planId, Gen.first⟩).2
      (⟨request.planId, Gen.first⟩ : PlanRef).id validated [validated] := by
    rw [validate_eq first.found first.generation first.declared first.live identical valid]
    exact record_replaces (Counted.refl engine) rfl first.named
  have live := liveSnapshot_eq (replaced.same.snapshot.trans first.snapshot)
  refine ⟨validated, live, replaced.found, first.generation,
    ⟨rfl, replaced.same.liveValid.trans first.live, ?_⟩, ?_⟩
  · rw [replaced.same.deltaOf]
    exact identical
  · change TrafficFabric.solve _ (Engine.solveOptions _ plan.id) = _
    rw [live, (replaced.same.solveOptions plan.id).1, first.named]
    exact solved

/-- A plan of the link fabric is solved. -/
def linkSolved (id : PlanId) : List (Operation durable) :=
  linkDeclared id ++ [.validate ⟨id, Gen.first⟩, .solve ⟨id, Gen.first⟩]

theorem linkSolved_explainable (id : PlanId) : Runs.Along apply Explainable (new {}) (linkSolved id) := by
  have planning : ∀ operation ∈ [.declare (linkRequest id none), .validate ⟨id, Gen.first⟩],
      (operation : Operation durable).Planning := by
    intro operation member
    simp only [List.mem_cons, List.not_mem_nil, or_false] at member
    rcases member with rfl | rfl
    · trivial
    · trivial
  have held : ((new {}).run (linkDeclared id ++ [.validate ⟨id, Gen.first⟩])).snapshot =
      some linkFabric := by
    unfold linkDeclared
    rw [List.append_assoc, run_linkHistory]
    refine (run_ahead (linkEngine_steady none) planning).snapshot.trans ?_
    rw [linkEngine_eq]
    rfl
  have live := liveSnapshot_eq held
  have weights : SupportedWeights linkFabric := (supportedWeights_iff linkFabric).mpr (by decide +kernel)
  have ceiling : startingCeiling linkFabric (derivation linkFabric) ≠ 0 := by decide +kernel
  refine ⟨trivial, trivial, trivial, ?_, trivial⟩
  change Explainable ((new {}).run (linkDeclared id ++ [.validate ⟨id, Gen.first⟩])) _
  generalize (new {}).run (linkDeclared id ++ [.validate ⟨id, Gen.first⟩]) = engine at live
  intro plan derived _ _ _ derives
  rw [live] at derives ⊢
  obtain ⟨-, rfl⟩ := (derive_eq_ok linkFabric_accepted derived).mp derives
  refine ⟨⟨weights, ceiling⟩, Or.inr ?_⟩
  intro weight member
  rw [List.mem_singleton.mp member]
  nofun

/-- The plan is solved, and its explanation is stored and matches. -/
theorem run_explained_linkSolved : ∃ explanation plan,
    ((new {}).run (linkSolved (named "plan-1"))).explanations.find? (named "plan-1") = some explanation ∧
      ((new {}).run (linkSolved (named "plan-1"))).plans.find? (named "plan-1") = some plan ∧
      explanation.Matches plan := by
  obtain ⟨matched, stored⟩ := run_explained {} _ (linkSolved_explainable (named "plan-1"))
  have valid : (named "plan-1" : PlanId).valid = true := by decide
  generalize (named "plan-1" : PlanId) = id at valid matched stored
  have fixed : canonicalize linkFabric = linkFabric := by decide +kernel
  have budget : ({} : SolveOptions).maxIterations ≠ 0 := by decide
  obtain ⟨plan, first⟩ := run_declaredFirst linkFabric_accepted fixed (linkRequest id none) valid
    ⟨rfl, rfl⟩ ⟨rfl, rfl⟩
  -- The engine is bound, so that what follows is not evaluated in it.
  obtain ⟨engine, ran⟩ : ∃ engine,
      (new {} : Engine durable).run [.submitSnapshot linkFabric, .declare (linkRequest id none)] = engine :=
    ⟨_, rfl⟩
  rw [ran] at first
  have whole : (new {}).run (linkDeclared id ++ [.validate ⟨id, Gen.first⟩]) =
      (engine.validate ⟨id, Gen.first⟩).2 := by
    have split : linkDeclared id ++ [.validate ⟨id, Gen.first⟩] =
        [.submitSnapshot linkFabric, .declare (linkRequest id none)] ++
          [.validate ⟨id, Gen.first⟩] := rfl
    unfold run at ran ⊢
    rw [split, List.foldl_append, ran, List.foldl_cons, List.foldl_nil]
    rfl
  obtain ⟨validated, -, answers⟩ := first.answers linkFabric_accepted (solve_linkFabric _ budget)
  have parts : linkSolved id = (linkDeclared id ++ [.validate ⟨id, Gen.first⟩]) ++
      [.solve ⟨id, Gen.first⟩] := by
    unfold linkSolved
    rw [List.append_assoc]
    rfl
  obtain ⟨explanation, held⟩ := stored _ ⟨id, Gen.first⟩ [] validated _ parts (whole ▸ answers)
  obtain ⟨later, present, tells⟩ := matched id explanation held
  exact ⟨explanation, later, held, present, tells⟩

/-! An incumbent that grants nothing. -/

/-- The link fabric, where moved bandwidth is all that counts. -/
def churnedFabric : FabricSnapshot :=
  { linkFabric with
    objective := { linkFabric.objective with terms := [{ term := .minimizeChurn, weight := 1 }] } }

theorem churnedFabric_accepted : Accepted churnedFabric :=
  accepted_of_checks churnedFabric (by decide +kernel) (by decide +kernel)

def churnedRequest (id : PlanId) : DeclareRequest := linkRequest id (some default)

def churnedOutcome : SolveOutcome :=
  solveDerived churnedFabric (derivation churnedFabric) { hasIncumbent := true }

theorem solve_churnedFabric :
    TrafficFabric.solve churnedFabric { hasIncumbent := true } = .ok churnedOutcome :=
  solve_of_derives ((derive_eq_ok churnedFabric_accepted _).mpr ⟨by decide +kernel, rfl⟩) (by decide)

/-- The plan counts the bandwidth that moves, the explanation counts none. -/
theorem churnedOutcome_components :
    (scoreAllocation churnedFabric churnedOutcome.allocation).2 ≠ churnedOutcome.components := by
  decide +kernel

def churnedHistory (id : PlanId) : List (Operation durable) :=
  [.submitSnapshot churnedFabric, .declare (churnedRequest id), .validate ⟨id, Gen.first⟩,
    .solve ⟨id, Gen.first⟩]

/-- A plan whose components differ from those of a second scoring is not the one that its explanation tells
of. -/
theorem misexplained {engine : Engine durable} {ref : PlanRef} {plan : Plan} {outcome : SolveOutcome}
    (answers : Answers engine ref plan outcome)
    (differ : (scoreAllocation engine.liveSnapshot outcome.allocation).2 ≠ outcome.components) :
    ¬ Explained (engine.solve ref).2 := by
  obtain ⟨explanations, plans⟩ := solve_answered answers
  intro explained
  obtain ⟨later, present, matched⟩ := explained plan.id _ (by
    rw [explanations]
    exact OrdMap.find?_insert_self _ _ _)
  rw [plans, OrdMap.find?_insert_self, Option.some.injEq] at present
  subst present
  have components := matched.components
  rw [(buildExplanation_objective _ _).1] at components
  exact differ components

/-- The plan counts the bandwidth that moves away from the incumbent, its explanation counts none. -/
theorem churned_plan_misexplained : ¬ Explained ((new {}).run (churnedHistory (named "plan-1"))) := by
  have valid : (named "plan-1" : PlanId).valid = true := by decide
  generalize (named "plan-1" : PlanId) = id at valid
  have fixed : canonicalize churnedFabric = churnedFabric := by decide +kernel
  obtain ⟨plan, first⟩ := run_declaredFirst churnedFabric_accepted fixed (churnedRequest id) valid
    ⟨rfl, rfl⟩ ⟨rfl, rfl⟩
  -- The engine is bound, so that what follows is not evaluated in it.
  obtain ⟨engine, ran⟩ : ∃ engine,
      (new {} : Engine durable).run
        [.submitSnapshot churnedFabric, .declare (churnedRequest id)] = engine :=
    ⟨_, rfl⟩
  rw [ran] at first
  have whole : (new {}).run (churnedHistory id) =
      ((engine.validate ⟨id, Gen.first⟩).2.solve ⟨id, Gen.first⟩).2 := by
    have split : churnedHistory id = [.submitSnapshot churnedFabric, .declare (churnedRequest id)] ++
        [.validate ⟨id, Gen.first⟩, .solve ⟨id, Gen.first⟩] := rfl
    unfold run at ran ⊢
    rw [split, List.foldl_append, ran, List.foldl_cons, List.foldl_cons, List.foldl_nil]
    rfl
  have options : engine.solveOptions id = { hasIncumbent := true } := by
    have pending : engine.pending.find? id = some (churnedRequest id).pending := first.pending
    unfold solveOptions pendingOf
    rw [pending]
    rfl
  have solved : TrafficFabric.solve churnedFabric (engine.solveOptions (churnedRequest id).planId) =
      .ok churnedOutcome := by
    change TrafficFabric.solve churnedFabric (engine.solveOptions id) = _
    rw [options]
    exact solve_churnedFabric
  obtain ⟨validated, fabric, answers⟩ := first.answers churnedFabric_accepted solved
  rw [whole]
  apply misexplained answers
  rw [fabric]
  exact churnedOutcome_components

end Engine

end TrafficFabric
