import TrafficFabric.Applicability

set_option autoImplicit false

/- References to plans. A reference names a plan and a generation of it; four of the eight calls
that take one look at the generation. -/
namespace TrafficFabric

open PlanStateMachine (canTransition isLive)

namespace Engine

variable {storage : Storage} {engine : Engine storage}

/-- The plans a mutating call is about, as its caller refers to them. -/
def Operation.references : Operation storage → List PlanRef
  | .validate ref | .solve ref | .authorize ref | .commit ref _ | .markStale ref | .retire ref
  | .revalidate ref => [ref]
  | .supersede incumbent replacement => [incumbent, replacement]
  | _ => []

/-- Some reference of the call names a plan by another generation than the plan has. -/
def Misdirected (engine : Engine storage) (operation : Operation storage) : Prop :=
  ∃ ref ∈ operation.references, ∃ plan, engine.plans.find? ref.id = some plan ∧
    plan.generation ≠ ref.generation

/-- The call fails, and no plan, no incumbent and no durable record is another than before. -/
structure Refused (engine : Engine storage) (operation : Operation storage) : Prop where
  fails : ∃ reason, (engine.call operation).1 = .error reason
  plans : (engine.call operation).2.plans = engine.plans
  incumbent : (engine.call operation).2.incumbent = engine.incumbent
  records : (engine.call operation).2.repository.map storage.records =
    engine.repository.map storage.records

/-- Both plans exist and are committed, and the lineage stays acyclic and within its bound. -/
structure Supersedable (engine : Engine storage) (incumbent replacement : Plan) : Prop where
  incumbentCommitted : incumbent.state = .committed
  replacementCommitted : replacement.state = .committed
  different : incumbent.id ≠ replacement.id
  acyclic : (engine.walkLineage incumbent.id Limits.maxLineageDepth replacement.supersedes 0).1 = false
  bounded : (engine.walkLineage incumbent.id Limits.maxLineageDepth replacement.supersedes 0).2 <
    Limits.maxLineageDepth

/-- The call looks at the generation, or has another reason to be refused. -/
def Discerns (engine : Engine storage) : Operation storage → Prop
  | .supersede incumbentRef replacementRef => ∀ incumbent replacement,
      engine.plans.find? incumbentRef.id = some incumbent →
      engine.plans.find? replacementRef.id = some replacement →
      ¬ engine.Supersedable incumbent replacement
  | .markStale ref => ∀ plan, engine.plans.find? ref.id = some plan →
      canTransition plan.state .stale = false
  | .retire ref => ∀ plan, engine.plans.find? ref.id = some plan →
      canTransition plan.state .retired = false
  | .revalidate ref => engine.plans.find? ref.id = none
  | _ => True

theorem Refused.of_call {operation : Operation storage}
    (answered : ∃ reason, engine.call operation = (.error reason, engine)) : Refused engine operation := by
  obtain ⟨reason, answered⟩ := answered
  refine ⟨⟨reason, ?_⟩, ?_, ?_, ?_⟩
  all_goals rw [answered]

/-! The calls that do not compare the generation. -/

/-- A refused call leaves every plan in its state. -/
theorem Refused.unmoved {operation : Operation storage} (refused : Refused engine operation) {id : PlanId}
    {plan later : Plan} (found : engine.plans.find? id = some plan)
    (present : (engine.call operation).2.plans.find? id = some later) : later.state = plan.state := by
  rw [refused.plans, found, Option.some.injEq] at present
  rw [present]

theorem retire_eq {plan : Plan} {ref : PlanRef} (found : engine.plans.find? ref.id = some plan)
    (edge : canTransition plan.state .retired = true) :
    engine.call (.retire ref) = { engine with
        incumbent := if engine.incumbent.id = plan.id then default else engine.incumbent }.record
      { plan with state := .retired, applicability := .retired } (.ok () : Status) := by
  change (statusOf (engine.retire ref).1, (engine.retire ref).2) = _
  unfold retire
  simp only [found, edge, Bool.not_true, Bool.false_eq_true, if_false]
  exact record_status _ _ _

theorem supersede_eq {incumbentRef replacementRef : PlanRef} {incumbent replacement : Plan}
    (found : engine.plans.find? incumbentRef.id = some incumbent)
    (present : engine.plans.find? replacementRef.id = some replacement)
    (supersedable : engine.Supersedable incumbent replacement) :
    engine.call (.supersede incumbentRef replacementRef) =
      engine.countSupersession.recordBoth (supersededPlan incumbent replacement.ref)
        (supersedingPlan replacement incumbent.ref) (.ok () : Status) := by
  change (statusOf (engine.supersede incumbentRef replacementRef).1,
    (engine.supersede incumbentRef replacementRef).2) = _
  unfold supersede
  simp only [found, present]
  rw [if_neg (not_not.mpr supersedable.incumbentCommitted),
    if_neg (not_not.mpr supersedable.replacementCommitted), if_neg supersedable.different,
    if_neg (by simp [supersedable.acyclic]), if_neg (Nat.not_le.mpr supersedable.bounded)]
  exact recordBoth_status _ _ _ _

/-- Of two plans that are both there, the first is superseded or the call is refused. -/
theorem supersede_refused {incumbentRef replacementRef : PlanRef}
    (discerns : Discerns engine (.supersede incumbentRef replacementRef)) :
    Refused engine (.supersede incumbentRef replacementRef) := by
  apply Refused.of_call
  change ∃ reason, (statusOf (engine.supersede incumbentRef replacementRef).1,
    (engine.supersede incumbentRef replacementRef).2) = (.error reason, engine)
  unfold supersede
  cases found : engine.plans.find? incumbentRef.id with
  | none => exact ⟨_, rfl⟩
  | some incumbent =>
  cases present : engine.plans.find? replacementRef.id with
  | none => exact ⟨_, rfl⟩
  | some replacement =>
      have unfit := discerns incumbent replacement found present
      dsimp only
      by_cases first : incumbent.state ≠ .committed
      · rw [if_pos first]
        exact ⟨_, rfl⟩
      rw [if_neg first]
      by_cases second : replacement.state ≠ .committed
      · rw [if_pos second]
        exact ⟨_, rfl⟩
      rw [if_neg second]
      by_cases same : incumbent.id = replacement.id
      · rw [if_pos same]
        exact ⟨_, rfl⟩
      rw [if_neg same]
      split
      · exact ⟨_, rfl⟩
      · rename_i acyclic
        split
        · exact ⟨_, rfl⟩
        · rename_i bounded
          exact absurd ⟨not_not.1 first, not_not.1 second, same, by simpa using acyclic,
            Nat.lt_of_not_le bounded⟩ unfit

theorem markStale_refused {ref : PlanRef} {plan : Plan} (found : engine.plans.find? ref.id = some plan)
    (edge : canTransition plan.state .stale = false) : Refused engine (.markStale ref) := by
  apply Refused.of_call
  change ∃ reason, (statusOf (engine.markStale ref).1, (engine.markStale ref).2) = (.error reason, engine)
  unfold markStale
  simp only [found, edge, Bool.not_false, if_true]
  exact ⟨_, rfl⟩

theorem retire_refused {ref : PlanRef} {plan : Plan} (found : engine.plans.find? ref.id = some plan)
    (edge : canTransition plan.state .retired = false) : Refused engine (.retire ref) := by
  apply Refused.of_call
  change ∃ reason, (statusOf (engine.retire ref).1, (engine.retire ref).2) = (.error reason, engine)
  unfold retire
  simp only [found, edge, Bool.not_false, if_true]
  exact ⟨_, rfl⟩

section Keyed

variable (keyed : Keyed engine.plans)

include keyed

theorem markStale_moves {ref : PlanRef} {plan : Plan} (found : engine.plans.find? ref.id = some plan)
    (refused : Refused engine (.markStale ref)) : canTransition plan.state .stale = false := by
  by_contra moves
  have edge : canTransition plan.state .stale = true := by simpa using moves
  have present : (engine.call (.markStale ref)).2.plans.find? ref.id =
      some { plan with state := .stale, applicability := .stale } := by
    rw [markStale_eq found edge, record_plans, ← keyed ref.id plan found]
    exact OrdMap.find?_insert_self _ _ _
  rw [← refused.unmoved found present] at edge
  cases edge

theorem retire_moves {ref : PlanRef} {plan : Plan} (found : engine.plans.find? ref.id = some plan)
    (refused : Refused engine (.retire ref)) : canTransition plan.state .retired = false := by
  by_contra moves
  have edge : canTransition plan.state .retired = true := by simpa using moves
  have present : (engine.call (.retire ref)).2.plans.find? ref.id =
      some { plan with state := .retired, applicability := .retired } := by
    rw [retire_eq found edge, record_plans, ← keyed ref.id plan found]
    exact OrdMap.find?_insert_self _ _ _
  rw [← refused.unmoved found present] at edge
  cases edge

theorem supersede_unfit {incumbentRef replacementRef : PlanRef} {incumbent replacement : Plan}
    (found : engine.plans.find? incumbentRef.id = some incumbent)
    (present : engine.plans.find? replacementRef.id = some replacement)
    (refused : Refused engine (.supersede incumbentRef replacementRef)) :
    ¬ engine.Supersedable incumbent replacement := by
  intro supersedable
  have replaced : (engine.call (.supersede incumbentRef replacementRef)).2.plans.find? incumbentRef.id =
      some (supersededPlan incumbent replacement.ref) := by
    rw [supersede_eq found present supersedable, recordBoth_plans, ← keyed incumbentRef.id incumbent found]
    exact (OrdMap.find?_insert_ne _ _ _ _ supersedable.different).trans (OrdMap.find?_insert_self _ _ _)
  have state := refused.unmoved found replaced
  rw [supersedable.incumbentCommitted] at state
  cases state

/-- Revalidation answers every reference to a plan that is there. -/
theorem revalidate_unrefused {ref : PlanRef} {plan : Plan} (found : engine.plans.find? ref.id = some plan) :
    ¬ Refused engine (.revalidate ref) := by
  intro refused
  obtain ⟨reason, failed⟩ := refused.fails
  change statusOf (engine.revalidate ref).1 = .error reason at failed
  unfold revalidate at failed
  simp only [found] at failed
  split at failed
  · cases failed
  · split at failed
    · cases failed
    · split at failed
      · rename_i live differs committed
        have present : (engine.call (.revalidate ref)).2.plans.find? ref.id =
            some (outdated plan (engine.deltaOf plan)) := by
          change (engine.revalidate ref).2.plans.find? ref.id = _
          unfold revalidate
          simp only [found]
          rw [if_neg live, if_neg differs, if_pos committed, record_plans, ← keyed ref.id plan found]
          exact OrdMap.find?_insert_self _ _ _
        have state := refused.unmoved found present
        rw [committed] at state
        cases state
      · cases failed

/-- A call with a reference to another generation is refused exactly when it discerns it. -/
theorem refused_iff {operation : Operation storage} (misdirected : engine.Misdirected operation) :
    Refused engine operation ↔ engine.Discerns operation := by
  obtain ⟨ref, member, plan, found, other⟩ := misdirected
  cases operation with
  | validate =>
      cases List.mem_singleton.mp member
      exact ⟨fun _ => trivial, fun _ => Refused.of_call (validate_outdated found other)⟩
  | solve =>
      cases List.mem_singleton.mp member
      exact ⟨fun _ => trivial, fun _ => Refused.of_call (solve_outdated found other)⟩
  | authorize =>
      cases List.mem_singleton.mp member
      exact ⟨fun _ => trivial, fun _ => Refused.of_call (authorize_outdated found other)⟩
  | commit _ intent =>
      cases List.mem_singleton.mp member
      exact ⟨fun _ => trivial, fun _ => Refused.of_call (commit_outdated found other intent)⟩
  | supersede =>
      exact ⟨fun refused _ _ first second => supersede_unfit keyed first second refused, supersede_refused⟩
  | markStale =>
      cases List.mem_singleton.mp member
      constructor
      · intro refused marked present
        exact markStale_moves keyed present refused
      · intro discerns
        exact markStale_refused found (discerns plan found)
  | retire =>
      cases List.mem_singleton.mp member
      constructor
      · intro refused retired present
        exact retire_moves keyed present refused
      · intro discerns
        exact retire_refused found (discerns plan found)
  | revalidate =>
      cases List.mem_singleton.mp member
      constructor
      · intro refused
        exact absurd refused (revalidate_unrefused keyed found)
      · intro missing
        change engine.plans.find? ref.id = none at missing
        rw [found] at missing
        cases missing
  | attachRepository | detachRepository | sharedWrite | submitSnapshot | declare | recoverFromRepository =>
      exact absurd member List.not_mem_nil

end Keyed

/-- In every run, the calls whose references are all current or discerned are those that keep the
promise: where a reference names another generation, the call is refused. -/
theorem run_references_exact (config : EngineConfig) (history : List (Operation storage)) :
    Runs.Along apply (fun engine operation => engine.Misdirected operation → engine.Refused operation)
        (new config) history ↔
      Runs.Along apply (fun engine operation => engine.Misdirected operation → engine.Discerns operation)
        (new config) history := by
  apply Runs.along_iff Steady
  · intro engine operation steady
    exact apply_steady steady operation
  · intro engine operation steady
    exact forall_congr' fun misdirected => refused_iff steady.sound.keyed misdirected
  · exact new_steady config

/-- A delayed reference to another generation marks the plan that took the identity. -/
theorem markStale_misdirected :
    Misdirected ((new {}).run (linkDeclared (named "plan-1"))) (.markStale ⟨named "plan-1", ⟨2⟩⟩) ∧
      ¬ Refused ((new {}).run (linkDeclared (named "plan-1"))) (.markStale ⟨named "plan-1", ⟨2⟩⟩) := by
  have valid : (named "plan-1" : PlanId).valid = true := by decide
  generalize (named "plan-1" : PlanId) = id at valid
  obtain ⟨plan, found, declared, -, -, -, -, -, generation⟩ := run_linkDeclared valid
  have keyed := (run_steady {} (linkDeclared id)).sound.keyed
  constructor
  · refine ⟨_, List.mem_singleton_self _, plan, found, ?_⟩
    have different : (Gen.first : Gen .plan) ≠ ⟨2⟩ := by decide
    rw [generation]
    exact different
  · intro refused
    have edge := markStale_moves keyed found refused
    rw [declared] at edge
    cases edge

end Engine

end TrafficFabric
