import TrafficFabric.Accepted
import TrafficFabric.EngineEffects
import TrafficFabric.Lib.Runs

set_option autoImplicit false

/- What a call does to one plan, and to what plans are compared with. -/
namespace TrafficFabric

open PlanStateMachine (isLive)

namespace Engine

variable {storage : Storage} {engine : Engine storage}

/-! What recording leaves alone. -/

theorem persist_frame (engine : Engine storage) (plan : Plan) :
    (engine.persist plan).2 = { engine with repository := (engine.persist plan).2.repository } := by
  unfold persist
  split <;> rfl

theorem record_frame {α : Type} (engine : Engine storage) (plan : Plan) (answer : Result α) :
    (engine.record plan answer).2 = { engine with
      plans := engine.plans.insert plan.id plan
      repository := (engine.record plan answer).2.repository } := by
  have kept := persist_frame (engine.store plan) plan
  unfold record
  split <;> rename_i persisted <;> rw [persisted] at kept <;> exact kept

theorem recordBoth_frame {α : Type} (engine : Engine storage) (first second : Plan)
    (answer : Result α) : (engine.recordBoth first second answer).2 = { engine with
      plans := (engine.plans.insert first.id first).insert second.id second
      repository := (engine.recordBoth first second answer).2.repository } := by
  have kept := persist_frame ((engine.store first).store second) first
  unfold recordBoth
  split <;> rename_i appended <;> rw [appended] at kept
  · exact kept
  · rename_i next
    change next = _ at kept
    have last := persist_frame next second
    split <;> rename_i persisted <;> rw [persisted] at last
    · rw [last, kept]
      rfl
    · rw [last, kept]
      rfl

/-- The engines agree on what plans are compared with. -/
structure SameLive (before after : Engine storage) : Prop where
  snapshot : after.snapshot = before.snapshot
  live : after.live = before.live
  liveValid : after.liveValid = before.liveValid
  pending : after.pending = before.pending
  config : after.config = before.config

theorem SameLive.refl (engine : Engine storage) : SameLive engine engine := ⟨rfl, rfl, rfl, rfl, rfl⟩

theorem SameLive.trans {first second third : Engine storage} (before : SameLive first second)
    (after : SameLive second third) : SameLive first third :=
  ⟨after.snapshot.trans before.snapshot, after.live.trans before.live,
    after.liveValid.trans before.liveValid, after.pending.trans before.pending,
    after.config.trans before.config⟩

theorem Counted.sameLive {counted : Engine storage} (frame : Counted engine counted) :
    SameLive engine counted :=
  ⟨frame.snapshot, frame.live, frame.liveValid, frame.pending, frame.config⟩

theorem record_sameLive {α : Type} (engine : Engine storage) (plan : Plan) (answer : Result α) :
    SameLive engine (engine.record plan answer).2 := by
  rw [record_frame]
  exact ⟨rfl, rfl, rfl, rfl, rfl⟩

theorem recordBoth_sameLive {α : Type} (engine : Engine storage) (first second : Plan)
    (answer : Result α) : SameLive engine (engine.recordBoth first second answer).2 := by
  rw [recordBoth_frame]
  exact ⟨rfl, rfl, rfl, rfl, rfl⟩

theorem SameLive.deltaOf {after : Engine storage} (same : SameLive engine after) (plan : Plan) :
    after.deltaOf plan = engine.deltaOf plan := by
  unfold Engine.deltaOf
  rw [same.live]

/-! The loop over the plans. -/

theorem advancing_of_passed {plan : Plan}
    (passed : ¬ (plan.state ≠ .committed ∧ PlanStateMachine.isLive plan.state = false)) :
    plan.Advancing := by
  by_cases committed : plan.state = .committed
  · exact Or.inr committed
  · exact Or.inl (by simpa [committed] using passed)

theorem passed_of_advancing {plan : Plan} (advancing : plan.Advancing) :
    ¬ (plan.state ≠ .committed ∧ PlanStateMachine.isLive plan.state = false) := by
  rintro ⟨uncommitted, idle⟩
  rcases advancing with live | committed
  · rw [idle] at live
    cases live
  · exact uncommitted committed

/-- The loop demotes the plan of an identity, or it leaves the identity alone. -/
theorem demotes_or_skips (engine : Engine storage) (id : PlanId) :
    (∃ plan, engine.plans.find? id = some plan ∧ plan.Advancing ∧ (engine.deltaOf plan).identical = false) ∨
      ∀ plan, engine.plans.find? id = some plan → plan.Advancing →
        (engine.deltaOf plan).identical = true := by
  by_cases demotes : ∃ plan, engine.plans.find? id = some plan ∧ plan.Advancing ∧
      (engine.deltaOf plan).identical = false
  · exact Or.inl demotes
  · refine Or.inr fun plan found advancing => ?_
    by_contra differs
    exact demotes ⟨plan, found, advancing, by simpa using differs⟩

theorem demoteOutdated_skip {id : PlanId} (rest : List PlanId)
    (agrees : ∀ plan, engine.plans.find? id = some plan → plan.Advancing →
      (engine.deltaOf plan).identical = true) :
    engine.demoteOutdated (id :: rest) = engine.demoteOutdated rest := by
  rw [demoteOutdated]
  cases found : engine.plans.find? id with
  | none => rfl
  | some plan =>
      dsimp only
      split
      · rfl
      · rename_i passed
        exact if_pos (agrees plan found (advancing_of_passed passed))

theorem demoteOutdated_behind {id : PlanId} {plan : Plan} (rest : List PlanId)
    (found : engine.plans.find? id = some plan) (advancing : plan.Advancing)
    (differs : (engine.deltaOf plan).identical = false) :
    engine.demoteOutdated (id :: rest) =
      match engine.countStale.record (outdated plan (engine.deltaOf plan)) (.ok () : Status) with
      | (.error reason, engine) => (.error reason, engine)
      | (.ok (), engine) => engine.demoteOutdated rest := by
  have behind : ¬ (engine.deltaOf plan).identical = true := by simp [differs]
  rw [demoteOutdated]
  simp only [found]
  unfold deltaOf at behind ⊢
  rw [if_neg (passed_of_advancing advancing)]
  exact if_neg behind

/-- The rule for the loop over the plans: what one demotion keeps, the loop keeps. -/
theorem demoteOutdated_keeps (holds : Engine storage → Prop)
    (step : ∀ engine id plan, holds engine → engine.plans.find? id = some plan → plan.Advancing →
      (engine.deltaOf plan).identical = false →
      holds (engine.countStale.record (outdated plan (engine.deltaOf plan)) (.ok () : Status)).2)
    (ids : List PlanId) (engine : Engine storage) (start : holds engine) :
    holds (engine.demoteOutdated ids).2 := by
  induction ids generalizing engine with
  | nil => exact start
  | cons id rest ih =>
      rcases demotes_or_skips engine id with ⟨plan, found, advancing, differs⟩ | agrees
      · have recorded := step engine id plan start found advancing differs
        rw [demoteOutdated_behind rest found advancing differs]
        split <;> rename_i next appended <;> rw [appended] at recorded
        · exact recorded
        · exact ih next recorded
      · rw [demoteOutdated_skip rest agrees]
        exact ih engine start

theorem demoteOutdated_sameLive (ids : List PlanId) (engine : Engine storage) :
    SameLive engine (engine.demoteOutdated ids).2 ∧
      (engine.demoteOutdated ids).2.incumbent = engine.incumbent := by
  refine demoteOutdated_keeps
    (fun current => SameLive engine current ∧ current.incumbent = engine.incumbent) ?_ ids engine
    ⟨SameLive.refl engine, rfl⟩
  intro current _ plan kept _ _ _
  have recorded := record_frame current.countStale (outdated plan (current.deltaOf plan)) (.ok () : Status)
  rw [recorded]
  exact ⟨kept.1.trans ⟨rfl, rfl, rfl, rfl, rfl⟩, kept.2⟩

/-! One plan. -/

theorem Change.binding {plan next : Plan} {operation : Operation storage} {incumbent : PlanRef}
    (change : Change engine plan operation incumbent next) : SameBinding plan next := by
  cases change <;> exact ⟨rfl, rfl, rfl, rfl, rfl, rfl, rfl⟩

theorem Noted.binding {plan next : Plan} {operation : Operation storage}
    (noted : Noted engine plan operation next) : SameBinding plan next := by
  cases noted <;> exact ⟨rfl, rfl, rfl, rfl, rfl, rfl, rfl⟩

theorem displacingPlan_binding (plan : Plan) (intent : CommitIntent) (previous : PlanRef) :
    SameBinding plan (displacingPlan plan intent previous) := ⟨rfl, rfl, rfl, rfl, rfl, rfl, rfl⟩

theorem supersedingPlan_binding (plan : Plan) (incumbent : PlanRef) :
    SameBinding plan (supersedingPlan plan incumbent) := ⟨rfl, rfl, rfl, rfl, rfl, rfl, rfl⟩

/-- What a call can make of a plan that exists. -/
inductive PlanStep (engine : Engine storage) : Operation storage → PlanId → Plan → Plan → Prop
  | kept {operation : Operation storage} {id : PlanId} {plan : Plan} :
      PlanStep engine operation id plan plan
  | noted {operation : Operation storage} {id : PlanId} {plan next : Plan}
      (target : operation.target = some id) (noted : Noted engine plan operation next) :
      PlanStep engine operation id plan next
  | recorded {operation : Operation storage} {id : PlanId} {plan next : Plan} {incumbent : PlanRef}
      (target : operation.target = some id) (change : Change engine plan operation incumbent next) :
      PlanStep engine operation id plan next
  | displacing {ref : PlanRef} {intent : CommitIntent} {plan previous : Plan}
      (commits : Commits engine plan intent)
      (displaces : engine.supersededByCommit plan = some previous) :
      PlanStep engine (.commit ref intent) ref.id plan (displacingPlan plan intent previous.ref)
  | displaced {ref : PlanRef} {intent : CommitIntent} {id : PlanId} {plan replacement : Plan}
      (found : engine.plans.find? ref.id = some replacement)
      (commits : Commits engine replacement intent)
      (displaces : engine.supersededByCommit replacement = some plan) :
      PlanStep engine (.commit ref intent) id plan (supersededPlan plan replacement.ref)
  | superseded {first second replacement : PlanRef} {id : PlanId} {plan : Plan}
      (committed : plan.state = .committed) :
      PlanStep engine (.supersede first second) id plan (supersededPlan plan replacement)
  | superseding {first second incumbent : PlanRef} {id : PlanId} {plan : Plan}
      (committed : plan.state = .committed) :
      PlanStep engine (.supersede first second) id plan (supersedingPlan plan incumbent)
  | demoted {raw : FabricSnapshot} {id : PlanId} {plan : Plan} (advancing : plan.Advancing)
      (differs : (compareAuthority plan.authority (authorityOf (canonicalize raw))).identical = false) :
      PlanStep engine (.submitSnapshot raw) id plan
        (outdated plan (compareAuthority plan.authority (authorityOf (canonicalize raw))))

/-- The plans a call can add. -/
inductive PlanNew (engine : Engine storage) : Operation storage → PlanId → Plan → Prop
  | declared {request : DeclareRequest} (live : engine.liveValid = true)
      (valid : request.planId.valid = true) :
      PlanNew engine (.declare request) request.planId (engine.declaredPlan request)
  | restored {id : PlanId} {repository : storage.Repository} {recorded : Plan}
      (attached : engine.repository = some repository)
      (read : (collapse storage (storage.records repository)).1.find? id = some recorded) :
      PlanNew engine .recoverFromRepository id (restored recorded)

/-- Where a plan that is found after a call comes from. -/
def ComesFrom (engine : Engine storage) (operation : Operation storage) (id : PlanId) (later : Plan) :
    Prop :=
  (∃ plan, engine.plans.find? id = some plan ∧ PlanStep engine operation id plan later) ∨
    engine.plans.find? id = none ∧ PlanNew engine operation id later

theorem comesFrom_kept {operation : Operation storage} {id : PlanId} {plan : Plan}
    (found : engine.plans.find? id = some plan) : ComesFrom engine operation id plan :=
  Or.inl ⟨plan, found, PlanStep.kept⟩

theorem find?_insert_cases {plans : OrdMap PlanId Plan} {key id : PlanId} {next later : Plan}
    (found : (plans.insert key next).find? id = some later) :
    id = key ∧ later = next ∨ id ≠ key ∧ plans.find? id = some later := by
  rw [OrdMap.find?_insert] at found
  by_cases same : id = key
  · rw [if_pos same, Option.some.injEq] at found
    exact Or.inl ⟨same, found.symm⟩
  · rw [if_neg same] at found
    exact Or.inr ⟨same, found⟩

/-- The loop over the plans touches a plan at most once. -/
theorem demoteOutdated_find (ids : List PlanId) (engine : Engine storage) (keyed : Keyed engine.plans)
    {id : PlanId} {later : Plan} (found : (engine.demoteOutdated ids).2.plans.find? id = some later) :
    ∃ plan, engine.plans.find? id = some plan ∧ (later = plan ∨ plan.Advancing ∧
      (engine.deltaOf plan).identical = false ∧ later = outdated plan (engine.deltaOf plan)) := by
  -- The stale plan that a demotion leaves behind is not advancing, so it is left alone later.
  refine (demoteOutdated_keeps (fun current => Keyed current.plans ∧ current.live = engine.live ∧
    ∀ id later, current.plans.find? id = some later →
      ∃ plan, engine.plans.find? id = some plan ∧ (later = plan ∨ plan.Advancing ∧
        (engine.deltaOf plan).identical = false ∧ later = outdated plan (engine.deltaOf plan)))
    ?_ ids engine ⟨keyed, rfl, fun id later found => ⟨later, found, Or.inl rfl⟩⟩).2.2 id later found
  intro current at_ plan kept here advancing differs
  obtain ⟨currentKeyed, live, origin⟩ := kept
  have delta : ∀ other, current.deltaOf other = engine.deltaOf other := by
    intro other
    unfold deltaOf
    rw [live]
  have key : (outdated plan (current.deltaOf plan)).id = at_ := currentKeyed at_ plan here
  rw [record_frame]
  refine ⟨?_, live, ?_⟩
  · intro id later present
    change (current.plans.insert _ _).find? id = some later at present
    rcases find?_insert_cases present with ⟨same, rfl⟩ | ⟨-, before⟩
    · exact same.symm
    · exact currentKeyed id later before
  · intro id later present
    change (current.plans.insert _ _).find? id = some later at present
    rcases find?_insert_cases present with ⟨same, rfl⟩ | ⟨-, before⟩
    · rw [key] at same
      subst same
      obtain ⟨first, there, rfl | ⟨-, -, rfl⟩⟩ := origin id plan here
      · rw [delta] at differs ⊢
        exact ⟨plan, there, Or.inr ⟨advancing, differs, rfl⟩⟩
      · rcases advancing with live | committed
        · cases live
        · cases committed
    · exact origin id later before

theorem recorded_comesFrom {operation : Operation storage} {id other : PlanId} {plan next later : Plan}
    {counted : Engine storage} {answer : Status} (keyed : Keyed engine.plans)
    (target : operation.target = some id) (found : engine.plans.find? id = some plan)
    (frame : Counted engine counted) (change : Change engine plan operation counted.incumbent next)
    (present : (counted.record next answer).2.plans.find? other = some later) :
    ComesFrom engine operation other later := by
  have key : next.id = id := by rw [change.binding.id, keyed id plan found]
  rw [record_plans, frame.plans, key] at present
  rcases find?_insert_cases present with ⟨rfl, rfl⟩ | ⟨-, before⟩
  · exact Or.inl ⟨plan, found, PlanStep.recorded target change⟩
  · exact comesFrom_kept before

/-- After two plans are recorded, every plan is one of the two or as it was. -/
theorem recordBoth_find {left right id : PlanId} {first second next last later : Plan}
    {counted : Engine storage} {answer : Status} (keyed : Keyed engine.plans)
    (foundLeft : engine.plans.find? left = some first)
    (foundRight : engine.plans.find? right = some second)
    (frame : Counted engine counted) (bindingLeft : SameBinding first next)
    (bindingRight : SameBinding second last)
    (present : (counted.recordBoth next last answer).2.plans.find? id = some later) :
    id = right ∧ later = last ∨ id = left ∧ later = next ∨ engine.plans.find? id = some later := by
  rw [recordBoth_plans, frame.plans, bindingLeft.id, bindingRight.id, keyed left first foundLeft,
    keyed right second foundRight] at present
  rcases find?_insert_cases present with here | ⟨-, before⟩
  · exact Or.inl here
  · rcases find?_insert_cases before with there | ⟨-, before⟩
    · exact Or.inr (Or.inl there)
    · exact Or.inr (Or.inr before)

theorem supersededByCommit_eq {plan previous : Plan}
    (superseded : engine.supersededByCommit plan = some previous) :
    engine.incumbent.id ≠ plan.id ∧ engine.plans.find? engine.incumbent.id = some previous ∧
      previous.state = .committed := by
  unfold supersededByCommit at superseded
  split at superseded
  · rename_i incumbent
    split at superseded
    · cases superseded
    · rename_i held present
      split at superseded
      · rename_i committed
        rw [Option.some.injEq] at superseded
        subst superseded
        exact ⟨incumbent.2, present, committed⟩
      · cases superseded
  · cases superseded

theorem find?_of_empty (empty : engine.plans.size = 0) (id : PlanId) : engine.plans.find? id = none := by
  have entries : engine.plans.entries = [] := List.length_eq_zero_iff.1 empty
  rw [OrdMap.find?, entries]
  rfl

theorem call_plan (keyed : Keyed engine.plans) {operation : Operation storage} {id : PlanId}
    {later : Plan} (found : (engine.call operation).2.plans.find? id = some later) :
    ComesFrom engine operation id later := by
  generalize answered : engine.call operation = result at found
  have effect := call_effect engine operation
  rw [answered] at effect
  cases effect with
  | refused | replayed | deferred | attached | detached | shared => exact comesFrom_kept found
  | noted target here noted =>
      rename_i at_ plan next _
      change (engine.plans.insert next.id next).find? id = some later at found
      rw [noted.binding.id, keyed _ plan here] at found
      rcases find?_insert_cases found with ⟨rfl, rfl⟩ | ⟨-, before⟩
      · exact Or.inl ⟨plan, here, PlanStep.noted target noted⟩
      · exact comesFrom_kept before
  | recorded target here frame change _ => exact recorded_comesFrom keyed target here frame change found
  | displaced here frame commits displaces settled =>
      rename_i ref intent plan previous counted
      obtain ⟨-, there, -⟩ := supersededByCommit_eq displaces
      rcases recordBoth_find keyed there here frame (supersededPlan_binding previous plan.ref)
        (displacingPlan_binding plan intent previous.ref) found with ⟨rfl, rfl⟩ | ⟨rfl, rfl⟩ | before
      · exact Or.inl ⟨plan, here, PlanStep.displacing commits displaces⟩
      · exact Or.inl ⟨previous, there, PlanStep.displaced here commits displaces⟩
      · exact comesFrom_kept before
  | superseded here there frame settled committed different =>
      rename_i incumbentRef replacementRef incumbent replacement counted
      rcases recordBoth_find keyed here there frame (supersededPlan_binding incumbent replacement.ref)
        (supersedingPlan_binding replacement incumbent.ref) found with ⟨rfl, rfl⟩ | ⟨rfl, rfl⟩ | before
      · exact Or.inl ⟨replacement, there, PlanStep.superseding committed.2⟩
      · exact Or.inl ⟨incumbent, here, PlanStep.superseded committed.1⟩
      · exact comesFrom_kept before
  | submitted accepted =>
      rename_i raw
      obtain ⟨plan, here, rfl | ⟨advancing, differs, rfl⟩⟩ :=
        demoteOutdated_find _ (engine.withSnapshot (canonicalize raw)) keyed found
      · exact comesFrom_kept here
      · exact Or.inl ⟨plan, here, PlanStep.demoted advancing differs⟩
  | undeclared absent failed =>
      rw [persist_plans] at found
      exact comesFrom_kept found
  | declared live valid absent written =>
      rename_i request
      have kept := persist_plans engine (engine.declaredPlan request)
      change ((engine.persist (engine.declaredPlan request)).2.plans.insert _ _).find? id = some later
        at found
      rw [kept] at found
      rcases find?_insert_cases found with ⟨rfl, rfl⟩ | ⟨-, before⟩
      · exact Or.inr ⟨absent, PlanNew.declared live valid⟩
      · exact comesFrom_kept before
  | recovered attached empty =>
      rename_i repository stats recovery
      change ((collapse storage (storage.records repository)).1.mapValues restored).find? id =
        some later at found
      rw [OrdMap.find?_mapValues, Option.map_eq_some_iff] at found
      obtain ⟨recorded, read, rfl⟩ := found
      exact Or.inr ⟨find?_of_empty empty id, PlanNew.restored attached read⟩

/-- The plan that `solve` writes, in the state its outcome asks for. -/
theorem proposal_state (engine : Engine storage) (plan : Plan) (outcome : SolveOutcome) :
    ((engine.proposal plan outcome).state = .proposed ∨ (engine.proposal plan outcome).state = .degraded ∨
      (engine.proposal plan outcome).state = .rejected) ∧
    ((engine.proposal plan outcome).state = .degraded ↔ outcome.status = .feasibleDegraded) := by
  have state : (engine.proposal plan outcome).state =
      (solvedPlan { plan with state := .solving } outcome engine.tick).state := rfl
  rw [state]
  unfold solvedPlan
  dsimp only
  cases outcome.status <;> simp

/-- A plan that is committed after a call was it before, or passed the gates of a commit. -/
theorem PlanStep.committed {operation : Operation storage} {id : PlanId} {plan later : Plan}
    (step : PlanStep engine operation id plan later) (committed : later.state = .committed) :
    plan.state = .committed ∧ later.commit = plan.commit ∧
        later.commitGeneration = plan.commitGeneration ∨
      ∃ ref intent, operation = .commit ref intent ∧ ref.id = id ∧ Commits engine plan intent ∧
        (later.commit = intent.commit ∧ later.commitGeneration = intent.commitGeneration) ∧
        later.allocation = plan.allocation := by
  cases step with
  | kept => exact Or.inl ⟨committed, rfl, rfl⟩
  | noted target noted =>
      cases noted with
      | current | behind => exact Or.inl ⟨committed, rfl, rfl⟩
      | unfounded => cases committed
  | recorded target change =>
      cases change with
      | validated | outdated | contradicted | unsolvable | forbidden | authorized | unverified | marked
      | retired => cases committed
      | solved =>
          rename_i ref outcome solves answered
          rcases (proposal_state engine plan outcome).1 with other | other | other <;>
            rw [other] at committed <;> cases committed
      | committed commits =>
          rename_i ref intent alone
          exact Or.inr ⟨ref, intent, rfl, Option.some.inj target, commits, ⟨rfl, rfl⟩, rfl⟩
  | displacing commits displaces => exact Or.inr ⟨_, _, rfl, rfl, commits, ⟨rfl, rfl⟩, rfl⟩
  | displaced | superseded | demoted => cases committed
  | superseding was => exact Or.inl ⟨was, rfl, rfl⟩

theorem restored_idle (plan : Plan) :
    isLive (restored plan).state = false := by
  rcases restored_state plan with ⟨idle, same⟩ | ⟨-, stale⟩
  · rw [same]
    exact idle
  · rw [stale]
    rfl

theorem restored_committed {recorded : Plan} (committed : (restored recorded).state = .committed) :
    recorded.state = .committed := by
  rcases restored_state recorded with ⟨-, same⟩ | ⟨-, stale⟩
  · rw [← same]
    exact committed
  · rw [stale] at committed
    cases committed

/-! What plans are compared with. -/

/-- The snapshot, the live authority and its validity after a call. -/
inductive LiveStep (engine : Engine storage) : Operation storage → Engine storage → Prop
  | same {operation : Operation storage} {after : Engine storage}
      (snapshot : after.snapshot = engine.snapshot) (live : after.live = engine.live)
      (liveValid : after.liveValid = engine.liveValid) : LiveStep engine operation after
  | submitted {raw : FabricSnapshot} {after : Engine storage}
      (accepted : validateStructure (canonicalize raw) = .ok ())
      (snapshot : after.snapshot = some (canonicalize raw))
      (live : after.live = authorityOf (canonicalize raw)) (liveValid : after.liveValid = true) :
      LiveStep engine (.submitSnapshot raw) after
  | recovered {after : Engine storage} (empty : engine.plans.size = 0)
      (liveValid : after.liveValid = false) : LiveStep engine .recoverFromRepository after

theorem SameLive.step {after : Engine storage} {operation : Operation storage}
    (same : SameLive engine after) : LiveStep engine operation after :=
  LiveStep.same same.snapshot same.live same.liveValid

theorem call_live (engine : Engine storage) (operation : Operation storage) :
    LiveStep engine operation (engine.call operation).2 := by
  generalize answered : engine.call operation = result
  have effect := call_effect engine operation
  rw [answered] at effect
  cases effect with
  | refused | replayed | deferred | noted | attached | detached | shared =>
      exact LiveStep.same rfl rfl rfl
  | recorded _ _ frame _ _ => exact (frame.sameLive.trans (record_sameLive _ _ _)).step
  | displaced _ frame _ _ _ => exact (frame.sameLive.trans (recordBoth_sameLive _ _ _ _)).step
  | superseded _ _ frame _ _ _ => exact (frame.sameLive.trans (recordBoth_sameLive _ _ _ _)).step
  | submitted accepted =>
      rename_i raw
      have same := (demoteOutdated_sameLive engine.plans.keys (engine.withSnapshot (canonicalize raw))).1
      exact LiveStep.submitted accepted same.snapshot same.live same.liveValid
  | undeclared _ _ =>
      rw [persist_frame]
      exact LiveStep.same rfl rfl rfl
  | declared _ _ _ _ =>
      rw [persist_frame]
      exact LiveStep.same rfl rfl rfl
  | recovered _ empty => exact LiveStep.recovered empty rfl

theorem call_config (engine : Engine storage) (operation : Operation storage) :
    (engine.call operation).2.config = engine.config := by
  generalize answered : engine.call operation = result
  have effect := call_effect engine operation
  rw [answered] at effect
  cases effect with
  | refused | replayed | deferred | noted | attached | detached | shared | recovered => rfl
  | recorded _ _ frame _ _ => exact (frame.sameLive.trans (record_sameLive _ _ _)).config
  | displaced _ frame _ _ _ => exact (frame.sameLive.trans (recordBoth_sameLive _ _ _ _)).config
  | superseded _ _ frame _ _ _ => exact (frame.sameLive.trans (recordBoth_sameLive _ _ _ _)).config
  | submitted => exact (demoteOutdated_sameLive _ _).1.config
  | undeclared _ _ => rw [persist_frame]
  | declared _ _ _ _ =>
      rw [persist_frame]
      rfl

/-- What was asked of a plan when it was declared stays. -/
theorem call_pending {operation : Operation storage} {id : PlanId} {plan : Plan}
    (found : engine.plans.find? id = some plan) :
    (engine.call operation).2.pendingOf id = engine.pendingOf id := by
  generalize answered : engine.call operation = result
  have effect := call_effect engine operation
  rw [answered] at effect
  have same : ∀ {after : Engine storage}, after.pending = engine.pending →
      after.pendingOf id = engine.pendingOf id := by
    intro after kept
    unfold pendingOf
    rw [kept]
  cases effect with
  | refused | replayed | deferred | noted | attached | detached | shared | recovered => rfl
  | recorded _ _ frame _ _ => exact same (frame.sameLive.trans (record_sameLive _ _ _)).pending
  | displaced _ frame _ _ _ => exact same (frame.sameLive.trans (recordBoth_sameLive _ _ _ _)).pending
  | superseded _ _ frame _ _ _ =>
      exact same (frame.sameLive.trans (recordBoth_sameLive _ _ _ _)).pending
  | submitted accepted =>
      rename_i raw
      exact same (demoteOutdated_sameLive engine.plans.keys
        (engine.withSnapshot (canonicalize raw))).1.pending
  | undeclared _ _ =>
      apply same
      rw [persist_frame]
  | declared live valid absent written =>
      rename_i request
      have other : id ≠ (engine.declaredPlan request).id := by
        intro equal
        rw [equal, show (engine.declaredPlan request).id = request.planId from rfl, absent] at found
        cases found
      rw [persist_frame]
      unfold pendingOf withDeclared
      dsimp only
      rw [OrdMap.find?_emplace, if_neg other]

/-- A live authority is that of an accepted snapshot. -/
def LiveSound (engine : Engine storage) : Prop :=
  engine.liveValid = true → ∃ snapshot, engine.snapshot = some snapshot ∧ Accepted snapshot ∧
    engine.live = authorityOf snapshot

theorem call_liveSound (sound : LiveSound engine) (operation : Operation storage) :
    LiveSound (engine.call operation).2 := by
  have step := call_live engine operation
  cases step with
  | same snapshot live liveValid =>
      intro valid
      rw [liveValid] at valid
      rw [snapshot, live]
      exact sound valid
  | submitted accepted snapshot live liveValid =>
      rename_i raw
      intro _
      exact ⟨canonicalize raw, snapshot, ⟨⟨raw, rfl⟩, accepted⟩, live⟩
  | recovered empty liveValid =>
      intro valid
      rw [liveValid] at valid
      cases valid

/-- Nothing is pending for a plan that does not exist. -/
def PendingKnown (engine : Engine storage) : Prop :=
  ∀ id, engine.plans.find? id = none → engine.pending.find? id = none

theorem call_pendingKnown (known : PendingKnown engine) (operation : Operation storage)
    (kept : ∀ id, (engine.call operation).2.plans.find? id = none → engine.plans.find? id = none) :
    PendingKnown (engine.call operation).2 := by
  generalize answered : engine.call operation = result at kept
  have effect := call_effect engine operation
  rw [answered] at effect
  have same : ∀ {after : Engine storage}, after.pending = engine.pending →
      (∀ id, after.plans.find? id = none → engine.plans.find? id = none) → PendingKnown after := by
    intro after pending kept id absent
    rw [pending]
    exact known id (kept id absent)
  cases effect with
  | refused | replayed | deferred | noted | attached | detached | shared | recovered =>
      exact same rfl kept
  | recorded _ _ frame _ _ => exact same (frame.sameLive.trans (record_sameLive _ _ _)).pending kept
  | displaced _ frame _ _ _ =>
      exact same (frame.sameLive.trans (recordBoth_sameLive _ _ _ _)).pending kept
  | superseded _ _ frame _ _ _ =>
      exact same (frame.sameLive.trans (recordBoth_sameLive _ _ _ _)).pending kept
  | submitted accepted =>
      rename_i raw
      exact same (demoteOutdated_sameLive engine.plans.keys
        (engine.withSnapshot (canonicalize raw))).1.pending kept
  | undeclared absent failed =>
      refine same ?_ kept
      rw [persist_frame]
  | declared live valid absent written =>
      rename_i request
      intro id missing
      have before := kept id missing
      rw [persist_frame] at missing ⊢
      change (engine.plans.insert request.planId _).find? id = none at missing
      change (engine.pending.emplace request.planId _).find? id = none
      rw [OrdMap.find?_insert] at missing
      rw [OrdMap.find?_emplace]
      by_cases here : id = request.planId
      · rw [if_pos here] at missing
        cases missing
      · rw [if_neg here]
        exact known id before

/-- Every call keeps what it has to for the next one: the invariant over all runs. -/
structure Steady (engine : Engine storage) : Prop where
  sound : engine.Sound
  liveSound : LiveSound engine
  pendingKnown : PendingKnown engine

theorem apply_steady (steady : engine.Steady) (operation : Operation storage) :
    (engine.apply operation).Steady := by
  have advances := apply_advances steady.sound.keyed operation
  refine ⟨advances.sound steady.sound, ?_, ?_⟩
  · rw [apply_eq_call]
    exact call_liveSound steady.liveSound operation
  · rw [apply_eq_call] at advances ⊢
    apply call_pendingKnown steady.pendingKnown operation
    intro id missing
    cases before : engine.plans.find? id with
    | none => rfl
    | some plan =>
        obtain ⟨later, present, -⟩ := advances.kept id plan before
        rw [missing] at present
        cases present

theorem new_steady (config : EngineConfig) : (new config : Engine storage).Steady :=
  ⟨new_sound config, nofun, fun _ _ => rfl⟩

theorem run_steady (config : EngineConfig) (history : List (Operation storage)) :
    ((new config).run history).Steady := by
  apply Runs.invariant Steady _ (new_steady config) (Runs.along_true _ history)
  intro engine operation steady _
  exact apply_steady steady operation

end Engine

end TrafficFabric
