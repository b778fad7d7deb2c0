import TrafficFabric.Applicability

set_option autoImplicit false

/- Contradictory authority. A live authority that is older than the one a plan is bound to, or that has
other content under the same generation, is no advance: the plan is to be rejected, not to become stale. -/
namespace TrafficFabric

open PlanStateMachine (canTransition isLive)

namespace Engine

variable {engine : Engine durable} {operation : Operation durable}

/-- The authority a call compares the plans with. -/
def authorityMet (engine : Engine durable) : Operation durable → AuthorityVector
  | .submitSnapshot raw => authorityOf (canonicalize raw)
  | _ => engine.live

def deltaMet (engine : Engine durable) (operation : Operation durable) (plan : Plan) : AuthorityDelta :=
  compareAuthority plan.authority (engine.authorityMet operation)

/-- The call gets as far as to compare the authority that the plan is bound to. -/
def Meets (engine : Engine durable) (id : PlanId) (plan : Plan) : Operation durable → Prop
  | .submitSnapshot raw => validateStructure (canonicalize raw) = .ok ()
  | .validate ref => ref.id = id ∧ plan.generation = ref.generation ∧
      canTransition plan.state .validated = true ∧ engine.liveValid = true
  | .solve ref => ref.id = id ∧ plan.generation = ref.generation ∧
      canTransition plan.state .solving = true ∧ engine.liveValid = true
  | .authorize ref => ref.id = id ∧ plan.generation = ref.generation ∧
      canTransition plan.state .authorized = true ∧ engine.liveValid = true
  | .commit ref intent => ref.id = id ∧ plan.generation = ref.generation ∧
      (intent.commit.valid = true ∧ intent.commitGeneration.valid = true) ∧
      canTransition plan.state .committed = true ∧ engine.liveValid = true
  | _ => False

/-- A live plan that the call meets is bound to an authority that regressed or conflicts, and advanced
in no field. -/
structure Contradicted (engine : Engine durable) (operation : Operation durable)
    (id : PlanId) (plan : Plan) :
    Prop where
  found : engine.plans.find? id = some plan
  live : isLive plan.state = true
  meets : engine.Meets id plan operation
  unadvanced : (engine.deltaMet operation plan).stale = false
  contradictory : (engine.deltaMet operation plan).contradictory = true

/-- Every contradicted plan that the call meets is rejected, and the plan says why. -/
def Diagnosed (engine : Engine durable) (operation : Operation durable) : Prop :=
  ∀ id plan, engine.Contradicted operation id plan →
    ∃ later, (engine.call operation).2.plans.find? id = some later ∧ later.state = .rejected ∧
      later.feasibility.summary =
        text "conflicting authority: " ++ (engine.deltaMet operation plan).describe

/-- Authorization and commit may meet a contradicted plan, the other calls meet none. -/
def Spares (engine : Engine durable) (operation : Operation durable) : Prop :=
  match operation with
  | .authorize _ | .commit _ _ => True
  | _ => ∀ id plan, ¬ engine.Contradicted operation id plan

theorem Contradicted.differs {id : PlanId} {plan : Plan}
    (contradicted : engine.Contradicted operation id plan) :
    (engine.deltaMet operation plan).identical = false :=
  differs_of_contradictory contradicted.contradictory

/-! The calls that tell the two apart. -/

theorem revalidateBound_contradicted {plan : Plan} (stage : Text)
    (unadvanced : (engine.deltaOf plan).stale = false)
    (contradictory : (engine.deltaOf plan).contradictory = true) : ∃ answer,
    engine.revalidateBound plan stage = some (engine.countRejected.record
      (rejectedFor plan (text "conflicting authority: " ++ (engine.deltaOf plan).describe)) answer) := by
  unfold deltaOf at unadvanced contradictory ⊢
  unfold revalidateBound
  simp only [unadvanced, contradictory, Bool.false_eq_true, if_false, if_true]
  exact ⟨_, rfl⟩

theorem authorize_diagnosed (keyed : Keyed engine.plans) (ref : PlanRef) :
    Diagnosed engine (.authorize ref) := by
  intro id plan contradicted
  obtain ⟨rfl, generation, edge, live⟩ := contradicted.meets
  obtain ⟨answer, rejected⟩ := revalidateBound_contradicted (text "authorization")
    contradicted.unadvanced contradicted.contradictory
  refine ⟨rejectedFor plan (text "conflicting authority: " ++ (engine.deltaOf plan).describe), ?_, rfl, rfl⟩
  change (engine.authorize ref).2.plans.find? ref.id = _
  unfold authorize
  simp only [contradicted.found, edge, live, Bool.not_true, Bool.false_eq_true, if_false]
  rw [if_neg (not_not.mpr generation), rejected]
  simp only [record_plans, ← keyed ref.id plan contradicted.found]
  exact OrdMap.find?_insert_self _ _ _

theorem commit_diagnosed (keyed : Keyed engine.plans) (ref : PlanRef) (intent : CommitIntent) :
    Diagnosed engine (.commit ref intent) := by
  intro id plan contradicted
  obtain ⟨rfl, generation, named, edge, live⟩ := contradicted.meets
  obtain ⟨answer, rejected⟩ := revalidateBound_contradicted (text "commit")
    contradicted.unadvanced contradicted.contradictory
  have uncommitted : plan.state ≠ .committed := by
    intro committed
    rw [committed] at edge
    cases edge
  refine ⟨rejectedFor plan (text "conflicting authority: " ++ (engine.deltaOf plan).describe), ?_, rfl, rfl⟩
  change (engine.commit ref intent).2.plans.find? ref.id = _
  unfold commit
  simp only [contradicted.found, named, edge, live, uncommitted, Bool.not_true, Bool.or_self,
    Bool.false_eq_true, if_false]
  rw [if_neg (not_not.mpr generation), rejected]
  simp only [record_plans, ← keyed ref.id plan contradicted.found]
  exact OrdMap.find?_insert_self _ _ _

/-! The calls that call every difference an advance. -/

theorem validate_stale (keyed : Keyed engine.plans) {ref : PlanRef} {id : PlanId} {plan : Plan}
    (contradicted : engine.Contradicted (.validate ref) id plan) :
    (engine.call (.validate ref)).2.plans.find? id = some (outdated plan (engine.deltaOf plan)) := by
  obtain ⟨rfl, generation, edge, live⟩ := contradicted.meets
  have differs : (compareAuthority plan.authority engine.live).identical = false := contradicted.differs
  change (engine.validate ref).2.plans.find? ref.id = _
  unfold validate
  simp only [contradicted.found, edge, live, differs, Bool.not_true, Bool.not_false, Bool.false_eq_true,
    if_false, if_true]
  rw [if_neg (not_not.mpr generation)]
  simp only [record_plans, ← keyed ref.id plan contradicted.found]
  exact OrdMap.find?_insert_self _ _ _

theorem solve_stale (keyed : Keyed engine.plans) {ref : PlanRef} {id : PlanId} {plan : Plan}
    (contradicted : engine.Contradicted (.solve ref) id plan) :
    (engine.call (.solve ref)).2.plans.find? id = some (outdated plan (engine.deltaOf plan)) := by
  obtain ⟨rfl, generation, edge, live⟩ := contradicted.meets
  have differs : (compareAuthority plan.authority engine.live).identical = false := contradicted.differs
  change (engine.solve ref).2.plans.find? ref.id = _
  unfold solve
  simp only [contradicted.found, edge, live, differs, Bool.not_true, Bool.not_false, Bool.false_eq_true,
    if_false, if_true]
  rw [if_neg (not_not.mpr generation)]
  simp only [record_plans, ← keyed ref.id plan contradicted.found]
  exact OrdMap.find?_insert_self _ _ _

/-- A submission rejects no live plan: it makes it stale, or an append failed before its turn. -/
theorem submit_unrejected (keyed : Keyed engine.plans) {raw : FabricSnapshot} {id : PlanId}
    {plan later : Plan}
    (found : engine.plans.find? id = some plan) (live : isLive plan.state = true)
    (present : (engine.call (.submitSnapshot raw)).2.plans.find? id = some later) :
    later.state ≠ .rejected := by
  rcases call_plan keyed present with ⟨before, there, step⟩ | ⟨absent, -⟩
  · rw [found, Option.some.injEq] at there
    subst there
    cases step with
    | kept =>
        intro rejected
        rw [rejected] at live
        cases live
    | noted target | recorded target => cases target
    | demoted => nofun
  · rw [found] at absent
    cases absent

/-- A call diagnoses contradictions exactly when it is one of the two or meets none. -/
theorem diagnosed_iff (keyed : Keyed engine.plans) (operation : Operation durable) :
    Diagnosed engine operation ↔ Spares engine operation := by
  have vacuous : (∀ id plan, ¬ engine.Contradicted operation id plan) → Diagnosed engine operation :=
    fun none id plan contradicted => absurd contradicted (none id plan)
  cases operation with
  | authorize ref => exact ⟨fun _ => trivial, fun _ => authorize_diagnosed keyed ref⟩
  | commit ref intent => exact ⟨fun _ => trivial, fun _ => commit_diagnosed keyed ref intent⟩
  | submitSnapshot raw =>
      refine ⟨?_, vacuous⟩
      intro diagnosed id plan contradicted
      obtain ⟨later, present, rejected, -⟩ := diagnosed id plan contradicted
      exact submit_unrejected keyed contradicted.found contradicted.live present rejected
  | validate ref =>
      refine ⟨?_, vacuous⟩
      intro diagnosed id plan contradicted
      obtain ⟨later, present, rejected, -⟩ := diagnosed id plan contradicted
      rw [validate_stale keyed contradicted, Option.some.injEq] at present
      rw [← present] at rejected
      cases rejected
  | solve ref =>
      refine ⟨?_, vacuous⟩
      intro diagnosed id plan contradicted
      obtain ⟨later, present, rejected, -⟩ := diagnosed id plan contradicted
      rw [solve_stale keyed contradicted, Option.some.injEq] at present
      rw [← present] at rejected
      cases rejected
  | attachRepository | detachRepository | sharedWrite | declare | supersede | markStale | retire
  | revalidate | recoverFromRepository => exact ⟨fun _ id plan contradicted => contradicted.meets, vacuous⟩

/-- In every run, contradictory authority is told from an advance by exactly the calls that leave it to
authorization and commit to meet it. -/
theorem run_contradictions_diagnosed (config : EngineConfig) (history : List (Operation durable)) :
    Runs.Along apply Diagnosed (new config) history ↔ Runs.Along apply Spares (new config) history := by
  apply Runs.along_iff Steady
  · intro engine operation steady
    exact apply_steady steady operation
  · intro engine operation steady
    exact diagnosed_iff steady.sound.keyed operation
  · exact new_steady config

/-! A fabric whose topology goes back. -/

theorem compareGeneration_self {kind : GenKind} (bound : Gen kind) (field : AuthorityField)
    (delta : AuthorityDelta) : compareGeneration bound bound field delta = delta := by
  simp [compareGeneration, advanced, regressed]

theorem compareRef_self {id : IdKind} {generation : GenKind} (bound : Ref id generation)
    (idField generationField : AuthorityField) (delta : AuthorityDelta) :
    compareRef bound bound idField generationField delta = delta := by
  cases known : bound.valid with
  | true => simp [compareRef, known, compareGeneration_self]
  | false => simp [compareRef, known]

theorem compareDigest_self (bound : Digest) (field : AuthorityField) (delta : AuthorityDelta) :
    compareDigest bound bound field delta = delta := by
  simp [compareDigest]

/-- Content does not cover the topology generation, so a fabric that differs in it has the same digests. -/
theorem authorityOf_topology (snapshot : FabricSnapshot) (generation : Gen .topology) :
    authorityOf { snapshot with topologyGeneration := generation } =
      { authorityOf snapshot with topologyGeneration := generation } := by
  simp only [authorityOf]

/-- Only the topology generation differs, and the live one is older. -/
theorem movedFabric_regresses : compareAuthority (authorityOf movedFabric) (authorityOf linkFabric) =
    { regressed := [.topologyGeneration] } := by
  have fields : compareFields (authorityOf movedFabric) (authorityOf linkFabric) =
      compareGeneration linkFabric.topologyGeneration movedFabric.topologyGeneration
        .topologyGeneration {} := by
    rw [movedFabric, authorityOf_topology]
    simp only [compareFields, compareGeneration_self, compareRef_self, compareDigest_self]
    rfl
  unfold compareAuthority
  rw [fields]
  decide

/-- A plan is declared for the moved fabric. -/
def movedDeclared (id : PlanId) : List (Operation durable) :=
  [.submitSnapshot movedFabric, .declare (linkRequest id none)]

/-- The older fabric comes back, and the plan that is bound to the newer one becomes stale. -/
theorem regressed_plan_stale :
    (∃ plan, Contradicted ((new {}).run (movedDeclared (named "plan-1"))) (.submitSnapshot linkFabric)
        (named "plan-1") plan) ∧
      ¬ Diagnosed ((new {}).run (movedDeclared (named "plan-1"))) (.submitSnapshot linkFabric) := by
  have valid : (named "plan-1" : PlanId).valid = true := by decide
  generalize (named "plan-1" : PlanId) = id at valid
  have moved : canonicalize movedFabric = movedFabric := by decide +kernel
  obtain ⟨plan, first⟩ := run_declaredFirst movedFabric_accepted moved (linkRequest id none) valid
    ⟨rfl, rfl⟩ ⟨rfl, rfl⟩
  have found : ((new {}).run (movedDeclared id)).plans.find? id = some plan := first.found
  have declared := first.declared
  have bound := first.bound
  have keyed := (run_steady {} (movedDeclared id)).sound.keyed
  have fixed : canonicalize linkFabric = linkFabric := by decide +kernel
  have delta : ((new {}).run (movedDeclared id)).deltaMet (.submitSnapshot linkFabric) plan =
      { regressed := [.topologyGeneration] } := by
    change compareAuthority plan.authority (authorityOf (canonicalize linkFabric)) = _
    rw [bound, fixed]
    exact movedFabric_regresses
  have contradicted : Contradicted ((new {}).run (movedDeclared id))
      (.submitSnapshot linkFabric) id plan := by
    refine ⟨found, ?_, ?_, ?_, ?_⟩
    · rw [declared]
      rfl
    · change validateStructure (canonicalize linkFabric) = .ok ()
      rw [fixed]
      exact linkFabric_accepted.valid
    · rw [delta]
      rfl
    · rw [delta]
      rfl
  refine ⟨⟨plan, contradicted⟩, ?_⟩
  intro diagnosed
  exact (diagnosed_iff keyed _).mp diagnosed id plan contradicted

end Engine

end TrafficFabric
