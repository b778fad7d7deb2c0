import TrafficFabric.Engine
import Mathlib.Logic.Relation

set_option autoImplicit false

/- The lifecycle of plans over whole runs of the engine. Each call is reduced to what it does
to the map of plans: a few plans are replaced by plans with the same binding, a call that
fails included. -/
namespace TrafficFabric

open PlanStateMachine (canTransition isLive isTerminal)

/-- What is fixed when a plan is declared. -/
structure SameBinding (before after : Plan) : Prop where
  id : after.id = before.id
  generation : after.generation = before.generation
  authority : after.authority = before.authority
  publisher : after.publisher = before.publisher
  publisherBoot : after.publisherBoot = before.publisherBoot
  attempt : after.attempt = before.attempt
  attemptGeneration : after.attemptGeneration = before.attemptGeneration

theorem SameBinding.refl (plan : Plan) : SameBinding plan plan := ⟨rfl, rfl, rfl, rfl, rfl, rfl, rfl⟩

theorem SameBinding.trans {first second third : Plan} (before : SameBinding first second)
    (after : SameBinding second third) : SameBinding first third :=
  ⟨after.id.trans before.id, after.generation.trans before.generation,
    after.authority.trans before.authority, after.publisher.trans before.publisher,
    after.publisherBoot.trans before.publisherBoot, after.attempt.trans before.attempt,
    after.attemptGeneration.trans before.attemptGeneration⟩

/-- No change of state, or one edge of the lifecycle that does not end in `SOLVING`. -/
def Moves (source target : PlanState) : Prop :=
  target = source ∨ canTransition source target = true ∧ target ≠ .solving

/-- The two edges `solve` takes inside one call. -/
def SolvesTo (source target : PlanState) : Prop :=
  canTransition source .solving = true ∧ canTransition .solving target = true

/-! Maps of plans. -/

/-- Every plan is still there with its binding, in a state the relation allows; no plan is
new. -/
structure Evolves (allowed : PlanId → PlanState → PlanState → Prop)
    (before after : OrdMap PlanId Plan) : Prop where
  kept : ∀ id plan, before.find? id = some plan → ∃ later, after.find? id = some later ∧
    SameBinding plan later ∧ allowed id plan.state later.state
  known : ∀ id, before.find? id = none → after.find? id = none

/-- Every plan is stored under its own identity. -/
def Keyed (plans : OrdMap PlanId Plan) : Prop :=
  ∀ id plan, plans.find? id = some plan → plan.id = id

namespace Evolves

variable {allowed : PlanId → PlanState → PlanState → Prop} {plans : OrdMap PlanId Plan}

theorem refl (stays : ∀ id state, allowed id state state) (plans : OrdMap PlanId Plan) :
    Evolves allowed plans plans :=
  ⟨fun id plan found => ⟨plan, found, SameBinding.refl plan, stays id plan.state⟩, fun _ absent => absent⟩

theorem mono {wider : PlanId → PlanState → PlanState → Prop} {after : OrdMap PlanId Plan}
    (evolves : Evolves allowed plans after)
    (widen : ∀ id source target, allowed id source target → wider id source target) :
    Evolves wider plans after := by
  refine ⟨?_, evolves.known⟩
  intro id plan found
  obtain ⟨later, present, binding, moved⟩ := evolves.kept id plan found
  exact ⟨later, present, binding, widen _ _ _ moved⟩

theorem trans {middle after : OrdMap PlanId Plan}
    (chains : ∀ id first second third, allowed id first second → allowed id second third →
      allowed id first third)
    (first : Evolves allowed plans middle) (second : Evolves allowed middle after) :
    Evolves allowed plans after := by
  refine ⟨?_, fun id absent => second.known id (first.known id absent)⟩
  intro id plan found
  obtain ⟨next, present, binding, moved⟩ := first.kept id plan found
  obtain ⟨later, there, bindings, moves⟩ := second.kept id next present
  exact ⟨later, there, binding.trans bindings, chains id _ _ _ moved moves⟩

/-- One plan is replaced. -/
theorem insert (stays : ∀ id state, allowed id state state) (keyed : Keyed plans) {id : PlanId}
    {plan next : Plan} (found : plans.find? id = some plan) (binding : SameBinding plan next)
    (moves : allowed id plan.state next.state) : Evolves allowed plans (plans.insert next.id next) := by
  have key : next.id = id := by rw [binding.id, keyed id plan found]
  refine ⟨?_, ?_⟩
  · intro other held present
    rw [OrdMap.find?_insert, key]
    by_cases same : other = id
    · subst same
      rw [found, Option.some.injEq] at present
      subst present
      exact ⟨next, by simp, binding, moves⟩
    · exact ⟨held, by simp [same, present], SameBinding.refl held, stays other held.state⟩
  · intro other absent
    rw [OrdMap.find?_insert, key]
    by_cases same : other = id
    · subst same
      rw [found] at absent
      cases absent
    · simp [same, absent]

theorem keyed {after : OrdMap PlanId Plan} (evolves : Evolves allowed plans after)
    (keyed : Keyed plans) : Keyed after := by
  intro id plan found
  cases before : plans.find? id with
  | none =>
      rw [evolves.known id before] at found
      cases found
  | some old =>
      obtain ⟨later, present, binding, -⟩ := evolves.kept id old before
      rw [found, Option.some.injEq] at present
      subst present
      rw [binding.id, keyed id old before]

/-- Two plans are replaced. -/
theorem pair {after : OrdMap PlanId Plan} {left right : PlanId} {first second next last : Plan}
    (stays : ∀ id state, allowed id state state)
    (foundLeft : plans.find? left = some first) (foundRight : plans.find? right = some second)
    (atLeft : after.find? left = some next) (atRight : after.find? right = some last)
    (rest : ∀ id, id ≠ left → id ≠ right → after.find? id = plans.find? id)
    (bindingLeft : SameBinding first next) (bindingRight : SameBinding second last)
    (movesLeft : allowed left first.state next.state)
    (movesRight : allowed right second.state last.state) : Evolves allowed plans after := by
  refine ⟨?_, ?_⟩
  · intro id plan present
    by_cases isLeft : id = left
    · subst isLeft
      rw [foundLeft, Option.some.injEq] at present
      subst present
      exact ⟨next, atLeft, bindingLeft, movesLeft⟩
    · by_cases isRight : id = right
      · subst isRight
        rw [foundRight, Option.some.injEq] at present
        subst present
        exact ⟨last, atRight, bindingRight, movesRight⟩
      · exact ⟨plan, by rw [rest id isLeft isRight, present], SameBinding.refl plan,
          stays id plan.state⟩
  · intro id absent
    have notLeft : id ≠ left := by
      intro same
      rw [same, foundLeft] at absent
      cases absent
    have notRight : id ≠ right := by
      intro same
      rw [same, foundRight] at absent
      cases absent
    rw [rest id notLeft notRight, absent]

end Evolves

theorem moves_stays (id : PlanId) (state : PlanState) : (fun _ => Moves) id state state := Or.inl rfl

namespace Engine

variable {storage : Storage} {engine : Engine storage}

/-! What the building blocks do to the plans. -/

@[simp] theorem persist_plans (engine : Engine storage) (plan : Plan) :
    (engine.persist plan).2.plans = engine.plans := by
  unfold persist
  split <;> rfl

/-- The plan is stored whether the append succeeds or not. -/
theorem record_plans {α : Type} (engine : Engine storage) (plan : Plan) (answer : Result α) :
    (engine.record plan answer).2.plans = engine.plans.insert plan.id plan := by
  have stored : ((engine.store plan).persist plan).2.plans = engine.plans.insert plan.id plan :=
    persist_plans (engine.store plan) plan
  unfold record
  split <;> rename_i persisted <;> rw [persisted] at stored <;> exact stored

theorem recordBoth_plans {α : Type} (engine : Engine storage) (first second : Plan)
    (answer : Result α) : (engine.recordBoth first second answer).2.plans =
      (engine.plans.insert first.id first).insert second.id second := by
  have kept := persist_plans ((engine.store first).store second) first
  unfold recordBoth
  split <;> rename_i appended <;> rw [appended] at kept
  · exact kept
  · rename_i next
    have last := persist_plans next second
    split <;> rename_i persisted <;> rw [persisted] at last <;> exact last.trans kept

/-- A call that records one plan in another state. -/
theorem record_evolves {α : Type} {allowed : PlanId → PlanState → PlanState → Prop} {id : PlanId}
    {plan next : Plan} {counted : Engine storage} {answer : Result α}
    (stays : ∀ id state, allowed id state state) (keyed : Keyed engine.plans)
    (found : engine.plans.find? id = some plan) (binding : SameBinding plan next)
    (moves : allowed id plan.state next.state) (same : counted.plans = engine.plans) :
    Evolves allowed engine.plans (counted.record next answer).2.plans := by
  rw [record_plans, same]
  exact Evolves.insert stays keyed found binding moves

theorem store_evolves {allowed : PlanId → PlanState → PlanState → Prop} {id : PlanId}
    {plan next : Plan} (stays : ∀ id state, allowed id state state) (keyed : Keyed engine.plans)
    (found : engine.plans.find? id = some plan) (binding : SameBinding plan next)
    (moves : allowed id plan.state next.state) :
    Evolves allowed engine.plans (engine.store next).plans :=
  Evolves.insert stays keyed found binding moves

theorem outdated_binding (plan : Plan) (delta : AuthorityDelta) :
    SameBinding plan (outdated plan delta) := ⟨rfl, rfl, rfl, rfl, rfl, rfl, rfl⟩

theorem rejectedFor_binding (plan : Plan) (summary : Text) :
    SameBinding plan (rejectedFor plan summary) := ⟨rfl, rfl, rfl, rfl, rfl, rfl, rfl⟩

/-! Calls that work on one plan. -/

theorem moves_stale {source target : PlanState} (edge : canTransition source target = true)
    (forward : isLive target = true ∨ target = .committed) : Moves source .stale :=
  Or.inr ⟨PlanStateMachine.canTransition_stale
    (Or.inl (PlanStateMachine.isLive_of_canTransition edge forward)), by decide⟩

theorem moves_rejected {source target : PlanState} (edge : canTransition source target = true)
    (forward : isLive target = true ∨ target = .committed) : Moves source .rejected :=
  Or.inr ⟨PlanStateMachine.canTransition_rejected
    (PlanStateMachine.isLive_of_canTransition edge forward), by decide⟩

theorem validate_evolves (keyed : Keyed engine.plans) (ref : PlanRef) :
    Evolves (fun _ => Moves) engine.plans (engine.validate ref).2.plans := by
  have unchanged := Evolves.refl moves_stays engine.plans
  unfold validate
  cases found : engine.plans.find? ref.id with
  | none => exact unchanged
  | some plan =>
      dsimp only
      by_cases current : plan.generation ≠ ref.generation
      · rw [if_pos current]
        exact unchanged
      rw [if_neg current]
      cases edge : canTransition plan.state .validated with
      | false => exact unchanged
      | true =>
          have stale : Moves plan.state .stale := moves_stale edge (Or.inl rfl)
          have validated : Moves plan.state .validated := Or.inr ⟨edge, by decide⟩
          simp only [Bool.not_true, Bool.false_eq_true, if_false]
          split
          · exact store_evolves moves_stays keyed found ⟨rfl, rfl, rfl, rfl, rfl, rfl, rfl⟩ stale
          · split
            · exact record_evolves moves_stays keyed found (outdated_binding plan _) stale rfl
            · split
              · exact unchanged
              · exact record_evolves moves_stays keyed found ⟨rfl, rfl, rfl, rfl, rfl, rfl, rfl⟩
                  validated rfl

theorem revalidateBound_evolves (keyed : Keyed engine.plans) {id : PlanId} {plan : Plan}
    (found : engine.plans.find? id = some plan) {stage : Text}
    {target : PlanState} (edge : canTransition plan.state target = true)
    (forward : isLive target = true ∨ target = .committed) {answer : Result Plan × Engine storage}
    (answered : engine.revalidateBound plan stage = some answer) :
    Evolves (fun _ => Moves) engine.plans answer.2.plans := by
  unfold revalidateBound at answered
  dsimp only at answered
  split at answered
  · rw [Option.some.injEq] at answered
    subst answered
    exact record_evolves moves_stays keyed found (outdated_binding plan _) (moves_stale edge forward) rfl
  · split at answered
    · rw [Option.some.injEq] at answered
      subst answered
      exact record_evolves moves_stays keyed found (rejectedFor_binding plan _)
        (moves_rejected edge forward) rfl
    · cases answered

theorem authorize_evolves (keyed : Keyed engine.plans) (ref : PlanRef) :
    Evolves (fun _ => Moves) engine.plans (engine.authorize ref).2.plans := by
  have unchanged := Evolves.refl moves_stays engine.plans
  unfold authorize
  cases found : engine.plans.find? ref.id with
  | none => exact unchanged
  | some plan =>
      dsimp only
      by_cases current : plan.generation ≠ ref.generation
      · rw [if_pos current]
        exact unchanged
      rw [if_neg current]
      cases edge : canTransition plan.state .authorized with
      | false => exact unchanged
      | true =>
          have authorized : Moves plan.state .authorized := Or.inr ⟨edge, by decide⟩
          simp only [Bool.not_true, Bool.false_eq_true, if_false]
          split
          · exact unchanged
          · split
            · rename_i answered
              exact revalidateBound_evolves keyed found edge (Or.inl rfl) answered
            · split
              · exact record_evolves moves_stays keyed found (rejectedFor_binding plan _)
                  (moves_rejected edge (Or.inl rfl)) rfl
              · split
                · exact unchanged
                · exact record_evolves moves_stays keyed found ⟨rfl, rfl, rfl, rfl, rfl, rfl, rfl⟩
                    authorized rfl

theorem markStale_evolves (keyed : Keyed engine.plans) (ref : PlanRef) :
    Evolves (fun _ => Moves) engine.plans (engine.markStale ref).2.plans := by
  unfold markStale
  cases found : engine.plans.find? ref.id with
  | none => exact Evolves.refl moves_stays engine.plans
  | some plan =>
      dsimp only
      cases edge : canTransition plan.state .stale with
      | false => exact Evolves.refl moves_stays engine.plans
      | true =>
          have moves : Moves plan.state .stale := Or.inr ⟨edge, by decide⟩
          exact record_evolves moves_stays keyed found ⟨rfl, rfl, rfl, rfl, rfl, rfl, rfl⟩ moves rfl

theorem retire_evolves (keyed : Keyed engine.plans) (ref : PlanRef) :
    Evolves (fun _ => Moves) engine.plans (engine.retire ref).2.plans := by
  unfold retire
  cases found : engine.plans.find? ref.id with
  | none => exact Evolves.refl moves_stays engine.plans
  | some plan =>
      dsimp only
      cases edge : canTransition plan.state .retired with
      | false => exact Evolves.refl moves_stays engine.plans
      | true =>
          have moves : Moves plan.state .retired := Or.inr ⟨edge, by decide⟩
          exact record_evolves moves_stays keyed found ⟨rfl, rfl, rfl, rfl, rfl, rfl, rfl⟩ moves rfl

theorem revalidate_evolves (keyed : Keyed engine.plans) (ref : PlanRef) :
    Evolves (fun _ => Moves) engine.plans (engine.revalidate ref).2.plans := by
  unfold revalidate
  cases found : engine.plans.find? ref.id with
  | none => exact Evolves.refl moves_stays engine.plans
  | some plan =>
      dsimp only
      split
      · exact Evolves.refl moves_stays engine.plans
      · split
        · exact store_evolves moves_stays keyed found ⟨rfl, rfl, rfl, rfl, rfl, rfl, rfl⟩ (Or.inl rfl)
        · split
          · rename_i committed
            have moves : Moves plan.state .stale :=
              Or.inr ⟨PlanStateMachine.canTransition_stale (Or.inr committed), by decide⟩
            exact record_evolves moves_stays keyed found (outdated_binding plan _) moves rfl
          · exact store_evolves moves_stays keyed found ⟨rfl, rfl, rfl, rfl, rfl, rfl, rfl⟩ (Or.inl rfl)

/-! Solving. -/

/-- The moves of a call of `solve` on one plan. -/
def SolveMoves (ref : PlanRef) (id : PlanId) (source target : PlanState) : Prop :=
  Moves source target ∨ id = ref.id ∧ SolvesTo source target

theorem solveMoves_stays (ref : PlanRef) (id : PlanId) (state : PlanState) :
    SolveMoves ref id state state := Or.inl (Or.inl rfl)

/-- Whatever the solver found, the plan leaves the solving state along an edge. -/
theorem solvedPlan_edge (plan : Plan) (outcome : SolveOutcome) (tick : UInt64) :
    canTransition .solving (solvedPlan plan outcome tick).state = true := by
  unfold solvedPlan
  dsimp only
  split <;> rfl

theorem finishSolve_evolves (keyed : Keyed engine.plans) {ref : PlanRef} {plan : Plan}
    (found : engine.plans.find? ref.id = some plan)
    (edge : canTransition plan.state .solving = true) :
    Evolves (SolveMoves ref) engine.plans
      (engine.finishSolve { plan with state := .solving }).2.plans := by
  unfold finishSolve
  dsimp only
  split
  · have rejected : SolveMoves ref ref.id plan.state .rejected := Or.inr ⟨rfl, edge, rfl⟩
    exact record_evolves (solveMoves_stays ref) keyed found ⟨rfl, rfl, rfl, rfl, rfl, rfl, rfl⟩
      rejected rfl
  · rename_i outcome solved
    have moves : SolveMoves ref ref.id plan.state
        (solvedPlan { plan with state := .solving } outcome engine.tick).state :=
      Or.inr ⟨rfl, edge, solvedPlan_edge _ outcome engine.tick⟩
    refine record_evolves (solveMoves_stays ref) keyed found ⟨rfl, rfl, rfl, rfl, rfl, rfl, rfl⟩
      moves ?_
    split <;> rfl

theorem solve_evolves (keyed : Keyed engine.plans) (ref : PlanRef) :
    Evolves (SolveMoves ref) engine.plans (engine.solve ref).2.plans := by
  have unchanged := Evolves.refl (solveMoves_stays ref) engine.plans
  unfold solve
  cases found : engine.plans.find? ref.id with
  | none => exact unchanged
  | some plan =>
      dsimp only
      by_cases current : plan.generation ≠ ref.generation
      · rw [if_pos current]
        exact unchanged
      rw [if_neg current]
      cases edge : canTransition plan.state .solving with
      | false => exact unchanged
      | true =>
          simp only [Bool.not_true, Bool.false_eq_true, if_false]
          split
          · exact unchanged
          · split
            · exact record_evolves (solveMoves_stays ref) keyed found (outdated_binding plan _)
                (Or.inl (moves_stale edge (Or.inl rfl))) rfl
            · exact finishSolve_evolves keyed found edge

/-! Calls that replace one plan by another. -/

theorem committedPlan_binding (plan : Plan) (intent : CommitIntent) :
    SameBinding plan (committedPlan plan intent) := ⟨rfl, rfl, rfl, rfl, rfl, rfl, rfl⟩

theorem supersededPlan_binding (plan : Plan) (replacement : PlanRef) :
    SameBinding plan (supersededPlan plan replacement) := ⟨rfl, rfl, rfl, rfl, rfl, rfl, rfl⟩

theorem supersededPlan_moves {plan : Plan} (committed : plan.state = .committed)
    (replacement : PlanRef) : Moves plan.state (supersededPlan plan replacement).state := by
  rw [committed]
  exact Or.inr ⟨rfl, nofun⟩

theorem supersededByCommit_spec {plan previous : Plan}
    (superseded : engine.supersededByCommit plan = some previous) :
    ∃ id, id ≠ plan.id ∧ engine.plans.find? id = some previous ∧ previous.state = .committed := by
  unfold supersededByCommit at superseded
  split at superseded
  · rename_i incumbent
    split at superseded
    · cases superseded
    · rename_i held present
      split at superseded
      · rename_i committed
        rw [Option.some.injEq] at superseded
        subst superseded
        exact ⟨engine.incumbent.id, incumbent.2, present, committed⟩
      · cases superseded
  · cases superseded

/-- Two different plans are recorded in other states. -/
theorem recordBoth_evolves {α : Type} {left right : PlanId} {first second next last : Plan}
    {counted : Engine storage} {answer : Result α} (keyed : Keyed engine.plans)
    (foundLeft : engine.plans.find? left = some first)
    (foundRight : engine.plans.find? right = some second) (different : left ≠ right)
    (bindingLeft : SameBinding first next) (bindingRight : SameBinding second last)
    (movesLeft : Moves first.state next.state) (movesRight : Moves second.state last.state)
    (same : counted.plans = engine.plans) :
    Evolves (fun _ => Moves) engine.plans (counted.recordBoth next last answer).2.plans := by
  have keyLeft : next.id = left := by rw [bindingLeft.id, keyed left first foundLeft]
  have keyRight : last.id = right := by rw [bindingRight.id, keyed right second foundRight]
  rw [recordBoth_plans, same, keyLeft, keyRight]
  refine Evolves.pair moves_stays foundLeft foundRight ?_ (OrdMap.find?_insert_self _ _ _) ?_
    bindingLeft bindingRight movesLeft movesRight
  · rw [OrdMap.find?_insert_ne _ _ _ _ different, OrdMap.find?_insert_self]
  · intro id notLeft notRight
    rw [OrdMap.find?_insert_ne _ _ _ _ notRight, OrdMap.find?_insert_ne _ _ _ _ notLeft]

theorem applyCommit_evolves (keyed : Keyed engine.plans) {id : PlanId} {plan : Plan}
    (found : engine.plans.find? id = some plan) (edge : canTransition plan.state .committed = true)
    (intent : CommitIntent) :
    Evolves (fun _ => Moves) engine.plans (engine.applyCommit plan intent).2.plans := by
  have moves : Moves plan.state .committed := Or.inr ⟨edge, nofun⟩
  unfold applyCommit
  dsimp only
  cases superseded : engine.supersededByCommit plan with
  | none => exact record_evolves moves_stays keyed found (committedPlan_binding plan intent) moves rfl
  | some previous =>
      obtain ⟨other, different, present, committed⟩ := supersededByCommit_spec superseded
      rw [keyed id plan found] at different
      exact recordBoth_evolves keyed present found different
        (supersededPlan_binding previous plan.ref) ⟨rfl, rfl, rfl, rfl, rfl, rfl, rfl⟩
        (supersededPlan_moves committed plan.ref) moves rfl

theorem commit_evolves (keyed : Keyed engine.plans) (ref : PlanRef) (intent : CommitIntent) :
    Evolves (fun _ => Moves) engine.plans (engine.commit ref intent).2.plans := by
  have unchanged := Evolves.refl moves_stays engine.plans
  unfold commit
  cases found : engine.plans.find? ref.id with
  | none => exact unchanged
  | some plan =>
      dsimp only
      by_cases current : plan.generation ≠ ref.generation
      · rw [if_pos current]
        exact unchanged
      rw [if_neg current]
      split
      · exact unchanged
      · split
        · -- An exact replay and a conflicting commit both leave the plan alone.
          split <;> exact unchanged
        · cases edge : canTransition plan.state .committed with
          | false => exact unchanged
          | true =>
              simp only [Bool.not_true, Bool.false_eq_true, if_false]
              split
              · exact unchanged
              · split
                · rename_i answered
                  exact revalidateBound_evolves keyed found edge (Or.inr rfl) answered
                · split
                  · exact record_evolves moves_stays keyed found ⟨rfl, rfl, rfl, rfl, rfl, rfl, rfl⟩
                      (moves_rejected edge (Or.inr rfl)) rfl
                  · exact applyCommit_evolves keyed found edge intent

theorem supersede_evolves (keyed : Keyed engine.plans) (incumbentRef replacementRef : PlanRef) :
    Evolves (fun _ => Moves) engine.plans
      (engine.supersede incumbentRef replacementRef).2.plans := by
  have unchanged := Evolves.refl moves_stays engine.plans
  unfold supersede
  cases found : engine.plans.find? incumbentRef.id with
  | none => exact unchanged
  | some incumbent =>
  cases present : engine.plans.find? replacementRef.id with
  | none => exact unchanged
  | some replacement =>
      dsimp only
      split
      · exact unchanged
      · rename_i committed
        split
        · exact unchanged
        · split
          · exact unchanged
          · rename_i different
            have apart : incumbentRef.id ≠ replacementRef.id := by
              rw [← keyed _ incumbent found, ← keyed _ replacement present]
              exact different
            split
            · exact unchanged
            · split
              · exact unchanged
              · exact recordBoth_evolves keyed found present apart
                  (supersededPlan_binding incumbent replacement.ref) ⟨rfl, rfl, rfl, rfl, rfl, rfl, rfl⟩
                  (supersededPlan_moves (not_not.1 committed) replacement.ref) (Or.inl rfl) rfl

/-! Snapshots. -/

/-- What a new snapshot may do to the state of a plan. It chains, since a stale plan cannot
become stale again. -/
def Demotes (source target : PlanState) : Prop :=
  target = source ∨ target = .stale ∧ canTransition source .stale = true

theorem demotes_trans {first second third : PlanState} (before : Demotes first second)
    (after : Demotes second third) : Demotes first third := by
  rcases after with rfl | ⟨rfl, edge⟩
  · exact before
  · rcases before with rfl | demoted
    · exact Or.inr ⟨rfl, edge⟩
    · exact Or.inr ⟨rfl, demoted.2⟩

theorem demoteOutdated_evolves (ids : List PlanId) (engine : Engine storage)
    (keyed : Keyed engine.plans) :
    Evolves (fun _ => Demotes) engine.plans (engine.demoteOutdated ids).2.plans := by
  have stays : ∀ (id : PlanId) (state : PlanState), (fun _ => Demotes) id state state :=
    fun _ _ => Or.inl rfl
  induction ids generalizing engine with
  | nil => exact Evolves.refl stays engine.plans
  | cons id rest ih =>
      unfold demoteOutdated
      cases found : engine.plans.find? id with
      | none => exact ih engine keyed
      | some plan =>
          dsimp only
          split
          · exact ih engine keyed
          · rename_i advancing
            split
            · exact ih engine keyed
            · have edge : canTransition plan.state .stale = true := by
                apply PlanStateMachine.canTransition_stale
                by_cases committed : plan.state = .committed
                · exact Or.inr committed
                · exact Or.inl (by simpa [committed] using advancing)
              have moves : Demotes plan.state .stale := Or.inr ⟨rfl, edge⟩
              have recorded : Evolves (fun _ => Demotes) engine.plans
                  (engine.countStale.record (outdated plan (compareAuthority plan.authority engine.live))
                    (.ok ())).2.plans :=
                record_evolves stays keyed found (outdated_binding plan _) moves rfl
              split <;> rename_i next appended <;> rw [appended] at recorded
              · exact recorded
              · exact recorded.trans (fun _ _ _ _ => demotes_trans) (ih next (recorded.keyed keyed))

theorem submitSnapshot_evolves (keyed : Keyed engine.plans) (raw : FabricSnapshot) :
    Evolves (fun _ => Moves) engine.plans (engine.submitSnapshot raw).2.plans := by
  unfold submitSnapshot
  dsimp only
  split
  · exact Evolves.refl moves_stays engine.plans
  · refine (demoteOutdated_evolves _ { engine with
      snapshot := some (canonicalize raw)
      live := authorityOf (canonicalize raw)
      liveValid := true } keyed).mono ?_
    intro _ source target demoted
    rcases demoted with same | ⟨rfl, edge⟩
    · exact Or.inl same
    · exact Or.inr ⟨edge, nofun⟩

/-! Calls that add plans. -/

/-- A declared plan is the only plan that is new, and its identity was free. -/
theorem declare_plans (request : DeclareRequest) :
    (engine.declare request).2.plans = engine.plans ∨
      engine.plans.find? request.planId = none ∧ (engine.declare request).2.plans =
        engine.plans.insert request.planId (engine.declaredPlan request) := by
  unfold declare
  split
  · exact Or.inl rfl
  split
  · exact Or.inl rfl
  split
  · exact Or.inl rfl
  split
  · exact Or.inl rfl
  split
  · exact Or.inl rfl
  · rename_i free
    have absent : engine.plans.find? request.planId = none := by
      simpa [OrdMap.contains] using free
    have kept := persist_plans engine (engine.declaredPlan request)
    dsimp only
    split <;> rename_i next persisted <;> rw [persisted] at kept
    · exact Or.inl kept
    · right
      refine ⟨absent, ?_⟩
      show next.plans.emplace request.planId (engine.declaredPlan request) = _
      rw [show next.plans = engine.plans from kept]
      simp [OrdMap.emplace, absent]

/-- The plan comes from a plan record of the log that decodes. -/
def Recorded (storage : Storage) (records : List DurableRecord) (plan : Plan) : Prop :=
  ∃ entry ∈ records, entry.type = .plan ∧ storage.decodePlan entry.payload = .ok plan

/-- The invariant of the loop over the log, over the part already read. -/
def Collapsed (storage : Storage) (records : List DurableRecord) (plans : OrdMap PlanId Plan) : Prop :=
  ∀ id plan, plans.find? id = some plan → plan.id = id ∧ Recorded storage records plan

theorem collapse_collapsed (storage : Storage) (records : List DurableRecord) :
    Collapsed storage records (collapse storage records).1 := by
  -- From the right, since each record overwrites what the earlier ones left.
  induction records using List.reverseRecOn with
  | nil =>
      intro id plan found
      cases found
  | append_singleton records last ih =>
      have earlier : ∀ id plan, (collapse storage records).1.find? id = some plan →
          plan.id = id ∧ Recorded storage (records ++ [last]) plan := by
        intro id plan found
        obtain ⟨key, entry, member, read⟩ := ih id plan found
        exact ⟨key, entry, List.mem_append_left _ member, read⟩
      intro id plan found
      rw [collapse, List.foldl_append, List.foldl_cons, List.foldl_nil, ← collapse] at found
      split at found
      · rename_i isPlan
        split at found
        · exact earlier id plan found
        · rename_i decoded read
          rw [OrdMap.find?_insert] at found
          by_cases same : id = decoded.id
          · rw [if_pos same, Option.some.injEq] at found
            subst found
            exact ⟨same.symm, last, by simp, isPlan, read⟩
          · rw [if_neg same] at found
            exact earlier id plan found
      · exact earlier id plan found

theorem restored_binding (plan : Plan) : SameBinding plan (restored plan) := by
  unfold restored
  split <;> exact ⟨rfl, rfl, rfl, rfl, rfl, rfl, rfl⟩

/-- Recovery keeps the state of a plan or makes a live plan stale. -/
theorem restored_state (plan : Plan) :
    isLive plan.state = false ∧ (restored plan).state = plan.state ∨
      isLive plan.state = true ∧ (restored plan).state = .stale := by
  unfold restored
  cases live : isLive plan.state with
  | false => exact Or.inl ⟨rfl, rfl⟩
  | true => exact Or.inr ⟨rfl, rfl⟩

/-- A recovery that changes the plans starts from none and restores what the log holds. -/
theorem recoverFromRepository_plans :
    engine.recoverFromRepository.2.plans = engine.plans ∨
      ∃ repository, engine.repository = some repository ∧ engine.plans.size = 0 ∧
        engine.recoverFromRepository.2.plans =
          (collapse storage (storage.records repository)).1.mapValues restored := by
  unfold recoverFromRepository
  cases attached : engine.repository with
  | none => exact Or.inl rfl
  | some repository =>
      dsimp only
      split
      · exact Or.inl rfl
      · rename_i empty
        exact Or.inr ⟨repository, rfl, not_not.1 empty, rfl⟩

/-! One call. -/

/-- What a call may do to the state of a plan that exists. -/
def Operation.allows : Operation storage → PlanId → PlanState → PlanState → Prop
  | .solve ref => SolveMoves ref
  | _ => fun _ => Moves

/-- The plans a call may add: a declared plan, or a plan of the log that recovery restores,
stale if it was live. -/
def Operation.creates (engine : Engine storage) : Operation storage → Plan → Prop
  | .declare request, plan => plan = engine.declaredPlan request
  | .recoverFromRepository, plan => engine.plans.size = 0 ∧
      ∃ repository recorded, engine.repository = some repository ∧
        Recorded storage (storage.records repository) recorded ∧ SameBinding recorded plan ∧
        (isLive recorded.state = false ∧ plan.state = recorded.state ∨
          isLive recorded.state = true ∧ canTransition recorded.state .stale = true ∧
            plan.state = .stale)
  | _, _ => False

/-- Every plan survives the call with its binding, in a state the call may move it to, and a
plan that is new is one the call may add. -/
structure Advances (operation : Operation storage) (before after : Engine storage) : Prop where
  kept : ∀ id plan, before.plans.find? id = some plan → ∃ later, after.plans.find? id = some later ∧
    SameBinding plan later ∧ operation.allows id plan.state later.state
  created : ∀ id plan, before.plans.find? id = none → after.plans.find? id = some plan →
    plan.id = id ∧ operation.creates before plan

theorem Operation.allows_stays (operation : Operation storage) (id : PlanId) (state : PlanState) :
    operation.allows id state state := by
  cases operation with
  | solve ref => exact solveMoves_stays ref id state
  | _ => exact Or.inl rfl

/-- A call that adds no plan. -/
theorem Advances.of_evolves {operation : Operation storage} {after : Engine storage}
    (evolves : Evolves operation.allows engine.plans after.plans) :
    Advances operation engine after := by
  refine ⟨evolves.kept, ?_⟩
  intro id plan absent found
  rw [evolves.known id absent] at found
  cases found

theorem Advances.of_same {operation : Operation storage} {after : Engine storage}
    (same : after.plans = engine.plans) : Advances operation engine after := by
  apply Advances.of_evolves
  rw [same]
  exact Evolves.refl operation.allows_stays engine.plans

theorem declare_advances (request : DeclareRequest) :
    Advances (.declare request) engine (engine.declare request).2 := by
  rcases engine.declare_plans request with same | ⟨absent, inserted⟩
  · exact Advances.of_same same
  · refine ⟨?_, ?_⟩
    · intro id plan found
      have other : id ≠ request.planId := by
        intro same
        rw [same, absent] at found
        cases found
      refine ⟨plan, ?_, SameBinding.refl plan, Or.inl rfl⟩
      rw [inserted, OrdMap.find?_insert_ne _ _ _ _ other, found]
    · intro id plan before found
      rw [inserted, OrdMap.find?_insert] at found
      by_cases same : id = request.planId
      · rw [if_pos same, Option.some.injEq] at found
        subst found
        exact ⟨same.symm, rfl⟩
      · rw [if_neg same, before] at found
        cases found

theorem recoverFromRepository_advances :
    Advances .recoverFromRepository engine engine.recoverFromRepository.2 := by
  rcases engine.recoverFromRepository_plans with same | ⟨repository, attached, empty, plans⟩
  · exact Advances.of_same same
  · have none : ∀ id, engine.plans.find? id = none := by
      intro id
      have entries : engine.plans.entries = [] := List.length_eq_zero_iff.1 empty
      rw [OrdMap.find?, entries]
      rfl
    refine ⟨?_, ?_⟩
    · intro id plan found
      rw [none id] at found
      cases found
    · intro id plan _ found
      rw [plans, OrdMap.find?_mapValues, Option.map_eq_some_iff] at found
      obtain ⟨recorded, read, rfl⟩ := found
      have binding := restored_binding recorded
      obtain ⟨key, durable⟩ := collapse_collapsed storage (storage.records repository) id recorded read
      refine ⟨binding.id.trans key, empty, repository, recorded, attached, durable, binding, ?_⟩
      rcases restored_state recorded with settled | ⟨live, stale⟩
      · exact Or.inl settled
      · exact Or.inr ⟨live, PlanStateMachine.canTransition_stale (Or.inl live), stale⟩

/-- One lemma for each call. -/
theorem apply_advances (keyed : Keyed engine.plans) (operation : Operation storage) :
    Advances operation engine (engine.apply operation) := by
  cases operation with
  | attachRepository repository =>
      apply Advances.of_same
      show (engine.attachRepository repository).2.plans = engine.plans
      unfold attachRepository
      split
      · rfl
      · split <;> rfl
  | detachRepository => exact Advances.of_same rfl
  | sharedWrite repository => exact Advances.of_same rfl
  | submitSnapshot snapshot => exact Advances.of_evolves (submitSnapshot_evolves keyed snapshot)
  | declare request => exact declare_advances request
  | validate ref => exact Advances.of_evolves (validate_evolves keyed ref)
  | solve ref => exact Advances.of_evolves (solve_evolves keyed ref)
  | authorize ref => exact Advances.of_evolves (authorize_evolves keyed ref)
  | commit ref intent => exact Advances.of_evolves (commit_evolves keyed ref intent)
  | supersede incumbent replacement =>
      exact Advances.of_evolves (supersede_evolves keyed incumbent replacement)
  | markStale ref => exact Advances.of_evolves (markStale_evolves keyed ref)
  | retire ref => exact Advances.of_evolves (retire_evolves keyed ref)
  | revalidate ref => exact Advances.of_evolves (revalidate_evolves keyed ref)
  | recoverFromRepository => exact recoverFromRepository_advances

/-! Whole runs. -/

/-- What holds between calls: plans are stored under their own identities, which are then
distinct, and none is half way through `solve`. -/
structure Sound (engine : Engine storage) : Prop where
  keyed : Keyed engine.plans
  distinct : (engine.plans.entries.map fun entry => entry.2.id).Nodup
  settled : ∀ id plan, engine.plans.find? id = some plan → plan.state ≠ .solving

theorem distinct_of_keyed (keyed : Keyed engine.plans) :
    (engine.plans.entries.map fun entry => entry.2.id).Nodup := by
  have keys : (engine.plans.entries.map fun entry => entry.2.id) = engine.plans.keys := by
    apply List.map_congr_left
    intro entry member
    exact keyed entry.1 entry.2 ((OrdMap.mem_entries_iff engine.plans entry.1 entry.2).1 member)
  rw [keys]
  exact engine.plans.keys_nodup

theorem Operation.allows_settled {operation : Operation storage} {id : PlanId}
    {source target : PlanState} (allowed : operation.allows id source target)
    (settled : source ≠ .solving) : target ≠ .solving := by
  have moves : ∀ {source : PlanState}, source ≠ .solving → Moves source target → target ≠ .solving := by
    intro source settled moves
    rcases moves with same | moved
    · rw [same]
      exact settled
    · exact moved.2
  cases operation with
  | solve ref =>
      rcases allowed with moved | ⟨-, -, edge⟩
      · exact moves settled moved
      · intro solving
        rw [solving] at edge
        cases edge
  | _ => exact moves settled allowed

theorem Operation.creates_settled {operation : Operation storage} {plan : Plan}
    (created : operation.creates engine plan) : plan.state ≠ .solving := by
  cases operation with
  | declare request =>
      rw [show plan = engine.declaredPlan request from created]
      nofun
  | recoverFromRepository =>
      obtain ⟨-, _, recorded, -, -, -, ⟨notLive, state⟩ | ⟨-, -, state⟩⟩ := created
      · rw [state]
        intro solving
        rw [solving] at notLive
        cases notLive
      · rw [state]
        nofun
  | _ => exact created.elim

theorem Advances.keyed {operation : Operation storage} {after : Engine storage}
    (advances : Advances operation engine after) (keyed : Keyed engine.plans) :
    Keyed after.plans := by
  intro id plan found
  cases before : engine.plans.find? id with
  | none => exact (advances.created id plan before found).1
  | some old =>
      obtain ⟨later, present, binding, -⟩ := advances.kept id old before
      rw [found, Option.some.injEq] at present
      subst present
      rw [binding.id, keyed id old before]

theorem Advances.sound {operation : Operation storage} {after : Engine storage}
    (advances : Advances operation engine after) (sound : engine.Sound) : after.Sound := by
  have keyed := advances.keyed sound.keyed
  refine ⟨keyed, distinct_of_keyed keyed, ?_⟩
  intro id plan found
  cases before : engine.plans.find? id with
  | none => exact Operation.creates_settled (advances.created id plan before found).2
  | some old =>
      obtain ⟨later, present, -, allowed⟩ := advances.kept id old before
      rw [found, Option.some.injEq] at present
      subst present
      exact Operation.allows_settled allowed (sound.settled id old before)

/-- The invariant over runs. -/
theorem run_sound (operations : List (Operation storage)) (engine : Engine storage)
    (sound : engine.Sound) : (engine.run operations).Sound := by
  induction operations generalizing engine with
  | nil => exact sound
  | cons operation rest ih =>
      exact ih (engine.apply operation) ((apply_advances sound.keyed operation).sound sound)

theorem new_sound (config : EngineConfig) : (new config : Engine storage).Sound := by
  have none : ∀ id, (new config : Engine storage).plans.find? id = none := OrdMap.find?_empty
  refine ⟨?_, List.nodup_nil, ?_⟩
  · intro id plan found
    rw [none id] at found
    cases found
  · intro id plan found
    rw [none id] at found
    cases found

/-- Every plan is still there with its binding, its state was only moved along edges, and a
terminal state was not moved at all. -/
def Keeps (before after : Engine storage) : Prop :=
  ∀ id plan, before.plans.find? id = some plan → ∃ later, after.plans.find? id = some later ∧
    SameBinding plan later ∧
    Relation.ReflTransGen (fun source target => canTransition source target = true)
      plan.state later.state ∧
    (isTerminal plan.state = true → later.state = plan.state)

theorem Operation.allows_edges {operation : Operation storage} {id : PlanId}
    {source target : PlanState} (allowed : operation.allows id source target) :
    Relation.ReflTransGen (fun source target => canTransition source target = true)
      source target := by
  have moves : Moves source target → Relation.ReflTransGen
      (fun source target => canTransition source target = true) source target := by
    intro moves
    rcases moves with rfl | moved
    · exact .refl
    · exact .single moved.1
  cases operation with
  | solve ref =>
      rcases allowed with moved | ⟨-, first, second⟩
      · exact moves moved
      · exact .tail (.single first) second
  | _ => exact moves allowed

theorem terminal_stays {source target : PlanState} (terminal : isTerminal source = true)
    (edges : Relation.ReflTransGen (fun source target => canTransition source target = true)
      source target) : target = source := by
  induction edges with
  | refl => rfl
  | tail _ edge same =>
      rw [same, PlanStateMachine.canTransition_of_isTerminal terminal] at edge
      cases edge

theorem run_keeps (operations : List (Operation storage)) (engine : Engine storage)
    (sound : engine.Sound) : engine.Keeps (engine.run operations) := by
  induction operations generalizing engine with
  | nil =>
      intro id plan found
      exact ⟨plan, found, SameBinding.refl plan, .refl, fun _ => rfl⟩
  | cons operation rest ih =>
      have advances := apply_advances sound.keyed operation
      intro id plan found
      obtain ⟨next, present, binding, allowed⟩ := advances.kept id plan found
      obtain ⟨later, there, bindings, edges, -⟩ :=
        ih (engine.apply operation) (advances.sound sound) id next present
      have path := (Operation.allows_edges allowed).trans edges
      exact ⟨later, there, binding.trans bindings, path, fun terminal => terminal_stays terminal path⟩

/-- The lifecycle of plans. After any calls, whatever they answered and however the appends
went, the engine is sound; the next call moves each plan at most along one edge (`solve` along
the two through the solving state) and adds only declared or restored plans; and any further
calls keep every plan with its binding. -/
theorem run_lifecycle (config : EngineConfig) (history : List (Operation storage))
    (operation : Operation storage) (future : List (Operation storage)) :
    ((new config).run history).Sound ∧
      Advances operation ((new config).run history) (((new config).run history).apply operation) ∧
      ((new config).run history).Keeps (((new config).run history).run future) := by
  have sound := run_sound history (new config) (new_sound config)
  exact ⟨sound, apply_advances sound.keyed operation, run_keeps future _ sound⟩

end Engine

end TrafficFabric
