import TrafficFabric.CoordinatorRuns
import TrafficFabric.EnginePipeline
import TrafficFabric.SnapshotStrict

set_option autoImplicit false

/- What a plan request leaves behind that is rejected before its plan is declared. Its snapshot goes
live first. -/
namespace TrafficFabric

open Interleaving (run run_pure run_call run_bind)

namespace Engine

variable {storage : Storage} {engine : Engine storage}

/-! The demotions of a snapshot. -/

/-- The plans a submission demotes, in the order it comes to them. -/
def demotions (engine : Engine storage) (ids : List PlanId) : List Plan :=
  ids.filterMap fun id => (engine.plans.find? id).bind fun plan =>
    if (plan.state ≠ .committed ∧ PlanStateMachine.isLive plan.state = false) ∨
        (engine.deltaOf plan).identical = true then none
    else some (outdated plan (engine.deltaOf plan))

/-- Plans that are not among the ones looked at do not matter. -/
theorem demotions_congr {after : Engine storage} {ids : List PlanId} (live : after.live = engine.live)
    (same : ∀ id ∈ ids, after.plans.find? id = engine.plans.find? id) :
    after.demotions ids = engine.demotions ids := by
  have delta : ∀ plan, after.deltaOf plan = engine.deltaOf plan := by
    intro plan
    unfold deltaOf
    rw [live]
  unfold demotions
  apply List.filterMap_congr
  intro id member
  simp only [same id member, delta]

/-- The engine once a demoted plan was stored and its append has left this repository behind. -/
def demotedFirst (engine : Engine storage) (later : Plan) (repository : Option storage.Repository) :
    Engine storage :=
  { engine.countStale with
    plans := storeAll engine.plans [later]
    repository := repository }

theorem demotions_skip {id : PlanId} (rest : List PlanId)
    (agrees : ∀ plan, engine.plans.find? id = some plan → plan.Advancing →
      (engine.deltaOf plan).identical = true) :
    engine.demotions (id :: rest) = engine.demotions rest := by
  unfold demotions
  rw [List.filterMap_cons]
  cases found : engine.plans.find? id with
  | none => rfl
  | some plan =>
      rw [Option.bind_some, if_pos]
      by_contra demoted
      obtain ⟨passed, differs⟩ := not_or.1 demoted
      exact differs (agrees plan found (advancing_of_passed passed))

theorem demotions_behind {id : PlanId} {plan : Plan} (rest : List PlanId)
    (found : engine.plans.find? id = some plan) (advancing : plan.Advancing)
    (differs : (engine.deltaOf plan).identical = false) :
    engine.demotions (id :: rest) = outdated plan (engine.deltaOf plan) :: engine.demotions rest := by
  have behind : ¬ (engine.deltaOf plan).identical = true := by simp [differs]
  unfold demotions
  rw [List.filterMap_cons, found, Option.bind_some,
    if_neg (not_or.2 ⟨passed_of_advancing advancing, behind⟩)]

/-- A plan that is demoted is appended, and the loop goes on if that succeeds. -/
theorem demoteOutdated_cons {id : PlanId} {plan : Plan} (rest : List PlanId)
    (found : engine.plans.find? id = some plan) (advancing : plan.Advancing)
    (differs : (engine.deltaOf plan).identical = false) :
    engine.demoteOutdated (id :: rest) =
      match writeAll engine.repository [outdated plan (engine.deltaOf plan)] with
      | (.error reason, repository) =>
          (.error reason, engine.demotedFirst (outdated plan (engine.deltaOf plan)) repository)
      | (.ok (), repository) =>
          (engine.demotedFirst (outdated plan (engine.deltaOf plan)) repository).demoteOutdated rest := by
  have same : engine.countStale.repository = engine.repository := rfl
  rw [demoteOutdated_behind rest found advancing differs, record_write, same]
  cases writeAll engine.repository [outdated plan (engine.deltaOf plan)] with
  | mk status repository =>
      cases status with
      | error reason => rfl
      | ok => rfl

/-- The loop appends the demoted plans in order, up to the first append that fails. -/
theorem demoteOutdated_writes {ids : List PlanId} (distinct : ids.Nodup) (keyed : Keyed engine.plans) :
    ((engine.demoteOutdated ids).1, (engine.demoteOutdated ids).2.repository) =
      writeAll engine.repository (engine.demotions ids) := by
  induction ids generalizing engine with
  | nil =>
      show ((.ok () : Status), engine.repository) = writeAll engine.repository []
      rw [writeAll_nil]
  | cons id rest ih =>
      obtain ⟨fresh, distinct⟩ := List.nodup_cons.1 distinct
      rcases demotes_or_skips engine id with ⟨plan, found, advancing, differs⟩ | agrees
      · let later := outdated plan (engine.deltaOf plan)
        have first : engine.demotions (id :: rest) = [later] ++ engine.demotions rest :=
          demotions_behind rest found advancing differs
        have key : later.id = id := keyed id plan found
        rw [demoteOutdated_cons rest found advancing differs, first, writeAll_append]
        cases writeAll engine.repository [later] with
        | mk status repository =>
            cases status with
            | error reason => rfl
            | ok =>
                let next := engine.demotedFirst later repository
                have inserted : next.plans = engine.plans.insert id later := by
                  show engine.plans.insert later.id later = _
                  rw [key]
                have unchanged : next.demotions rest = engine.demotions rest := by
                  refine demotions_congr rfl ?_
                  intro other member
                  rw [inserted, OrdMap.find?_insert_ne]
                  rintro rfl
                  exact fresh member
                have nextKeyed : Keyed next.plans := by
                  intro other held present
                  rw [inserted] at present
                  rcases find?_insert_cases present with ⟨same, rfl⟩ | ⟨-, before⟩
                  · rw [key, same]
                  · exact keyed other held before
                have rested := ih distinct nextKeyed
                rw [unchanged] at rested
                exact rested
      · rw [demoteOutdated_skip rest agrees, demotions_skip rest agrees]
        exact ih distinct keyed

/-! A submission. -/

/-- The snapshot is live already, and no plan is behind it. -/
structure InForce (engine : Engine storage) (submitted : FabricSnapshot) : Prop where
  snapshot : engine.snapshot = some submitted
  live : engine.live = authorityOf submitted
  liveValid : engine.liveValid = true
  agrees : ∀ id plan, engine.plans.find? id = some plan → plan.Advancing →
    (engine.deltaOf plan).identical = true

/-- The live snapshot, its authority, the incumbent and every plan are as they were. -/
structure Undisturbed (before after : Engine storage) : Prop where
  snapshot : after.snapshot = before.snapshot
  live : after.live = before.live ∧ after.liveValid = before.liveValid
  incumbent : after.incumbent = before.incumbent
  plans : ∀ id plan, before.plans.find? id = some plan → after.plans.find? id = some plan

theorem Undisturbed.refl (engine : Engine storage) : Undisturbed engine engine :=
  ⟨rfl, ⟨rfl, rfl⟩, rfl, fun _ _ found => found⟩

section Submission

variable {snapshot : FabricSnapshot}

/-- A snapshot that is canonical and valid goes live as it is. -/
theorem submitSnapshot_eq (canonical : canonicalize snapshot = snapshot)
    (valid : validateStructure snapshot = .ok ()) :
    engine.submitSnapshot snapshot = (engine.withSnapshot snapshot).demoteOutdated engine.plans.keys := by
  unfold submitSnapshot
  simp only [canonical, valid]
  rfl

theorem demoteOutdated_agrees (agrees : ∀ id plan, engine.plans.find? id = some plan → plan.Advancing →
    (engine.deltaOf plan).identical = true) (ids : List PlanId) :
    engine.demoteOutdated ids = (.ok (), engine) := by
  induction ids with
  | nil => rfl
  | cons id rest ih =>
      rw [demoteOutdated_skip rest (agrees id)]
      exact ih

theorem InForce.submit (force : InForce engine snapshot) (canonical : canonicalize snapshot = snapshot)
    (valid : validateStructure snapshot = .ok ()) : engine.submitSnapshot snapshot = (.ok (), engine) := by
  have same : engine.withSnapshot snapshot = engine := by
    unfold withSnapshot
    rw [← force.snapshot, ← force.live, ← force.liveValid]
  rw [submitSnapshot_eq canonical valid, same]
  exact demoteOutdated_agrees force.agrees _

/-- The snapshot is left live, and the incumbent and the counter of declared plans as they were. -/
theorem submitSnapshot_leaves (engine : Engine storage) (canonical : canonicalize snapshot = snapshot)
    (valid : validateStructure snapshot = .ok ()) :
    (engine.submitSnapshot snapshot).2.snapshot = some snapshot ∧
      (engine.submitSnapshot snapshot).2.live = authorityOf snapshot ∧
      (engine.submitSnapshot snapshot).2.liveValid = true ∧
      (engine.submitSnapshot snapshot).2.config = engine.config ∧
      (engine.submitSnapshot snapshot).2.stats.plansCreated = engine.stats.plansCreated := by
  rw [submitSnapshot_eq canonical valid]
  obtain ⟨same, -⟩ := demoteOutdated_sameLive engine.plans.keys (engine.withSnapshot snapshot)
  refine ⟨same.snapshot, same.live, same.liveValid, same.config, ?_⟩
  refine demoteOutdated_keeps
    (fun current => current.stats.plansCreated = engine.stats.plansCreated) ?_ _ _ rfl
  intro current _ plan kept _ _ _
  rw [record_frame]
  exact kept

/-- The plans are the same ones. -/
theorem submitSnapshot_known (keyed : Keyed engine.plans) (canonical : canonicalize snapshot = snapshot)
    (valid : validateStructure snapshot = .ok ()) (id : PlanId) :
    ((engine.submitSnapshot snapshot).2.plans.find? id).isSome = (engine.plans.find? id).isSome := by
  rw [submitSnapshot_eq canonical valid]
  refine (demoteOutdated_keeps (fun current => Keyed current.plans ∧
    ∀ id, (current.plans.find? id).isSome = (engine.plans.find? id).isSome) ?_ engine.plans.keys
    (engine.withSnapshot snapshot) ⟨keyed, fun _ => rfl⟩).2 id
  intro current at_ plan kept here _ _
  obtain ⟨currentKeyed, known⟩ := kept
  have key : (outdated plan (current.deltaOf plan)).id = at_ := currentKeyed at_ plan here
  rw [record_frame]
  constructor
  · intro id later present
    rcases find?_insert_cases present with ⟨same, rfl⟩ | ⟨-, before⟩
    · exact same.symm
    · exact currentKeyed id later before
  · intro id
    change ((current.plans.insert (outdated plan (current.deltaOf plan)).id _).find? id).isSome = _
    rw [key, OrdMap.find?_insert]
    split
    · rename_i same
      rw [same, ← known, here]
      rfl
    · exact known id

/-- Otherwise the submission is seen in the live snapshot or in a plan. -/
theorem inForce_of_undisturbed (keyed : Keyed engine.plans) (canonical : canonicalize snapshot = snapshot)
    (valid : validateStructure snapshot = .ok ()) {after : Engine storage}
    (same : SameLive (engine.submitSnapshot snapshot).2 after)
    (plans : after.plans = (engine.submitSnapshot snapshot).2.plans)
    (undisturbed : Undisturbed engine after) :
    InForce engine snapshot := by
  obtain ⟨shown, live, liveValid, -, -⟩ := submitSnapshot_leaves engine canonical valid
  have authority : engine.live = authorityOf snapshot :=
    undisturbed.live.1.symm.trans (same.live.trans live)
  refine ⟨undisturbed.snapshot.symm.trans (same.snapshot.trans shown), authority,
    undisturbed.live.2.symm.trans (same.liveValid.trans liveValid), ?_⟩
  intro id plan found advancing
  by_contra differs
  obtain ⟨written, demotions⟩ :=
    demoteOutdated_demotions engine.plans.keys (engine.withSnapshot snapshot) keyed
  rw [← submitSnapshot_eq canonical valid] at demotions
  have delta : ∀ plan, (engine.withSnapshot snapshot).deltaOf plan = engine.deltaOf plan := by
    intro plan
    unfold deltaOf
    rw [authority]
    rfl
  -- Whether an append failed or not, some plan was demoted.
  have demoted : ∃ later, later ∈ written := by
    cases written with
    | cons later rest => exact ⟨later, List.mem_cons_self⟩
    | nil =>
        have success := demotions.status
        rw [writeAll_nil] at success
        have member : id ∈ engine.plans.keys := (engine.plans.mem_keys_iff id).2 (by rw [found]; rfl)
        rcases demotions.complete success id member plan found advancing with identical | ⟨later, within, -⟩
        · rw [delta] at identical
          exact absurd identical differs
        · exact absurd within List.not_mem_nil
  obtain ⟨later, member⟩ := demoted
  obtain ⟨last, within, key, stored⟩ := storeAll_find? engine.plans member
  have lastStored : (storeAll engine.plans written).find? last.id = some last := by
    rw [key]
    exact stored
  obtain ⟨origin, there, moves, -, rfl⟩ := demotions.outdated last within
  have kept := undisturbed.plans _ origin there
  rw [plans, demotions.plans] at kept
  have stale : origin = outdated origin _ := Option.some.inj (kept.symm.trans lastStored)
  have state := congrArg Plan.state stale
  rcases moves with live | committed
  · rw [state] at live
    cases live
  · rw [state] at committed
    cases committed

end Submission

/-! A declaration. -/

section Declaration

variable {request : DeclareRequest}

theorem declare_succeeds (declarable : Declarable engine request) :
    (engine.declare request).1 = .ok (engine.declaredPlan request) ∧
      (engine.declare request).2.stats.plansCreated = engine.stats.plansCreated + 1 := by
  constructor
  · have known : engine.plans.contains request.planId = false := by
      simp [OrdMap.contains, declarable.absent]
    have written := declarable.written
    unfold declare
    simp only [declarable.live, declarable.planId, declarable.attempt, declarable.publisher,
      declarable.configured, known, Bool.not_true, Bool.or_false, Bool.false_eq_true, if_false]
    rw [if_neg (not_le.2 declarable.room)]
    cases persisted : engine.persist (engine.declaredPlan request) with
    | mk answer next =>
        rw [persisted] at written
        change answer = .ok () at written
        rw [written]
  · rw [declare_eq declarable, persist_frame]
    rfl

theorem declarable_of_ok {plan : Plan} (answered : (engine.declare request).1 = .ok plan) :
    Declarable engine request := by
  unfold declare at answered
  by_cases dark : (!engine.liveValid) = true
  · rw [if_pos dark] at answered
    cases answered
  rw [if_neg dark] at answered
  by_cases missing : (!request.planId.valid || !request.attempt.valid ||
      !request.attemptGeneration.valid || !request.publisher.valid ||
      !request.publisherBoot.valid) = true
  · rw [if_pos missing] at answered
    cases answered
  rw [if_neg missing] at answered
  by_cases unbound : (!engine.config.coordinatorIncarnation.valid) = true
  · rw [if_pos unbound] at answered
    cases answered
  rw [if_neg unbound] at answered
  by_cases full : engine.config.maxRecords.toNat ≤ engine.plans.size
  · rw [if_pos full] at answered
    cases answered
  rw [if_neg full] at answered
  by_cases known : engine.plans.contains request.planId = true
  · rw [if_pos known] at answered
    cases answered
  rw [if_neg known] at answered
  simp only [Bool.not_eq_true, Bool.or_eq_false_iff, Bool.not_eq_false'] at missing
  obtain ⟨⟨⟨⟨named, attempt⟩, attemptGeneration⟩, publisher⟩, boot⟩ := missing
  exact
    { live := by simpa using dark
      planId := named
      attempt := ⟨attempt, attemptGeneration⟩
      publisher := ⟨publisher, boot⟩
      configured := by simpa using unbound
      room := not_le.1 full
      absent := by simpa [OrdMap.contains] using known
      written := by
        dsimp only at answered
        cases persisted : engine.persist (engine.declaredPlan request) with
        | mk answer next =>
            rw [persisted] at answered
            cases answer with
            | error reason => cases answered
            | ok => rfl }

/-- A declaration that fails leaves the repository changed at most. -/
theorem declare_fails {reason : Error} (answered : (engine.declare request).1 = .error reason) :
    SameLive engine (engine.declare request).2 ∧
      (engine.declare request).2.plans = engine.plans ∧
      (engine.declare request).2.incumbent = engine.incumbent ∧
      (engine.declare request).2.stats = engine.stats := by
  have effect := call_effect engine (.declare request)
  generalize called : engine.call (.declare request) = result at effect
  have status : result.1 = .error reason := by
    rw [← called]
    show statusOf (engine.declare request).1 = _
    rw [answered]
    rfl
  have left : (engine.declare request).2 = result.2 := congrArg Prod.snd called
  rw [left]
  cases effect with
  | refused => exact ⟨SameLive.refl engine, rfl, rfl, rfl⟩
  | noted target => cases target
  | recorded target => cases target
  | undeclared absent failed =>
      rw [persist_frame]
      exact ⟨⟨rfl, rfl, rfl, rfl, rfl⟩, rfl, rfl, rfl⟩
  | declared => cases status

end Declaration

/-! The calls behind a declaration. -/

theorem record_stats {α : Type} (engine : Engine storage) (plan : Plan) (answer : Result α) :
    (engine.record plan answer).2.stats = engine.stats := by
  rw [record_frame]

theorem validate_created (engine : Engine storage) (ref : PlanRef) :
    (engine.validate ref).2.stats.plansCreated = engine.stats.plansCreated := by
  unfold validate
  cases engine.plans.find? ref.id with
  | none => rfl
  | some plan =>
      dsimp only
      split_ifs
      · rfl
      · rfl
      · rfl
      · rw [record_stats]
        rfl
      · split
        · rfl
        · rw [record_stats]

theorem solve_created (engine : Engine storage) (ref : PlanRef) :
    (engine.solve ref).2.stats.plansCreated = engine.stats.plansCreated := by
  have finished : ∀ (engine : Engine storage) (plan : Plan),
      (engine.finishSolve plan).2.stats.plansCreated = engine.stats.plansCreated := by
    intro engine plan
    unfold finishSolve
    dsimp only
    split
    · rw [record_stats]
      rfl
    · rw [record_stats]
      dsimp only
      split <;> rfl
  unfold solve
  cases engine.plans.find? ref.id with
  | none => rfl
  | some plan =>
      dsimp only
      split_ifs
      · rfl
      · rfl
      · rfl
      · rw [record_stats]
        rfl
      · exact finished engine _

end Engine

namespace Coordinator

variable {storage : Storage}

/-! The request. -/

/-- The plan of the request is declared once its snapshot is live. -/
structure PlanDeclared (engine : Engine storage) (epoch : UInt64) (request : PlanRequest)
    (snapshot : FabricSnapshot) : Prop where
  planId : request.planId.valid = true
  incumbent : request.hasIncumbent = true → ∃ allocation,
    decodeAllocation request.incumbent = .ok allocation
  configured : engine.config.coordinatorIncarnation.valid = true
  room : engine.plans.size < engine.config.maxRecords.toNat
  absent : engine.plans.find? request.planId = none
  written : (Engine.writeAll engine.repository
    ((engine.withSnapshot snapshot).demotions engine.plans.keys ++
    [(engine.withSnapshot snapshot).declaredPlan (declaredFor request epoch)])).1 = .ok ()

theorem declareRequest_eq_ok {request : PlanRequest} {epoch : UInt64} {declare : DeclareRequest}
    (answered : declareRequest request epoch = .ok declare) :
    ∃ incumbent, declare = { declaredFor request epoch with incumbent := incumbent } := by
  unfold declareRequest at answered
  split at answered
  · split at answered
    · cases answered
    · cases answered
      exact ⟨_, rfl⟩
  · cases answered
    exact ⟨default, rfl⟩

section Request

variable {coordinator : Coordinator storage} {request : PlanRequest} {snapshot : FabricSnapshot}

theorem planDeclared_iff (keyed : Keyed coordinator.engine.plans)
    (valid : request.binding.valid = true) (canonical : canonicalize snapshot = snapshot)
    (structural : validateStructure snapshot = .ok ()) :
    PlanDeclared coordinator.engine coordinator.epoch request snapshot ↔
      (coordinator.engine.submitSnapshot snapshot).1 = .ok () ∧ request.planId.valid = true ∧
        ∃ declare, declareRequest request coordinator.epoch = .ok declare ∧
          Engine.Declarable (coordinator.engine.submitSnapshot snapshot).2 declare := by
  let engine := coordinator.engine
  let submitted := engine.submitSnapshot snapshot
  obtain ⟨-, live, liveValid, config, -⟩ :=
    Engine.submitSnapshot_leaves engine canonical structural
  have known := Engine.submitSnapshot_known keyed canonical structural
  have size : submitted.2.plans.size = engine.plans.size := OrdMap.size_eq_of_keys known
  have unknown : submitted.2.plans.find? request.planId = none ↔
      engine.plans.find? request.planId = none := by
    rw [← Option.not_isSome_iff_eq_none, ← Option.not_isSome_iff_eq_none, known]
  have wrote : (submitted.1, submitted.2.repository) = Engine.writeAll engine.repository
      ((engine.withSnapshot snapshot).demotions engine.plans.keys) := by
    show ((engine.submitSnapshot snapshot).1, (engine.submitSnapshot snapshot).2.repository) = _
    rw [Engine.submitSnapshot_eq canonical structural]
    exact Engine.demoteOutdated_writes engine.plans.keys_nodup keyed
  have record : ∀ incumbent, submitted.2.declaredPlan
      { declaredFor request coordinator.epoch with incumbent := incumbent } =
        (engine.withSnapshot snapshot).declaredPlan (declaredFor request coordinator.epoch) := by
    intro incumbent
    unfold Engine.declaredPlan
    rw [config, live]
    rfl
  have appended : ∀ incumbent, submitted.1 = .ok () →
      (submitted.2.persist (submitted.2.declaredPlan
        { declaredFor request coordinator.epoch with incumbent := incumbent })).1 =
      (Engine.writeAll engine.repository ((engine.withSnapshot snapshot).demotions engine.plans.keys ++
        [(engine.withSnapshot snapshot).declaredPlan (declaredFor request coordinator.epoch)])).1 := by
    intro incumbent success
    rw [Engine.writeAll_append, ← wrote, success, Engine.persist_write, record]
  unfold MutationBinding.valid at valid
  simp only [Bool.and_eq_true] at valid
  obtain ⟨⟨⟨⟨⟨publisher, boot⟩, -⟩, -⟩, attempt⟩, attemptGeneration⟩ := valid
  constructor
  · intro declared
    have success : submitted.1 = .ok () := by
      have written := declared.written
      rw [Engine.writeAll_append, ← wrote] at written
      cases status : submitted.1 with
      | error reason =>
          rw [status] at written
          cases written
      | ok => rfl
    have decoded : ∃ incumbent, declareRequest request coordinator.epoch =
        .ok { declaredFor request coordinator.epoch with incumbent := incumbent } := by
      unfold declareRequest
      split
      · rename_i carried
        obtain ⟨incumbent, found⟩ := declared.incumbent carried
        rw [found]
        exact ⟨incumbent, rfl⟩
      · exact ⟨default, rfl⟩
    obtain ⟨incumbent, answered⟩ := decoded
    refine ⟨success, declared.planId, _, answered, ?_⟩
    exact
      { live := liveValid
        planId := declared.planId
        attempt := ⟨attempt, attemptGeneration⟩
        publisher := ⟨publisher, boot⟩
        configured := by
          rw [config]
          exact declared.configured
        room := by
          rw [config]
          exact size.trans_lt declared.room
        absent := unknown.2 declared.absent
        written := by
          rw [appended incumbent success]
          exact declared.written }
  · rintro ⟨success, planId, declare, answered, declarable⟩
    have decoded := answered
    obtain ⟨incumbent, rfl⟩ := declareRequest_eq_ok answered
    exact
      { planId := planId
        incumbent := by
          intro carried
          unfold declareRequest at decoded
          rw [if_pos carried] at decoded
          cases found : decodeAllocation request.incumbent with
          | error reason =>
              rw [found] at decoded
              cases decoded
          | ok allocation => exact ⟨allocation, rfl⟩
        configured := by
          rw [← config]
          exact declarable.configured
        room := by
          have room := declarable.room
          rw [config] at room
          exact size.symm.trans_lt room
        absent := unknown.1 declarable.absent
        written := by
          rw [← appended incumbent success]
          exact declarable.written }

/-! The handler. -/

/-- The answer is an error, whichever message it is. -/
def Response.Rejected : Response → Prop
  | .error _ => True
  | .plan message => message.code ≠ WireCode.success
  | _ => False

theorem ErrorCode.code_ne (code : ErrorCode) : code.code ≠ WireCode.success := by cases code <;> decide

/-- The answer is an error, and no plan was declared. -/
def RejectedEarly (before after : Coordinator storage) (response : Response) : Prop :=
  response.Rejected ∧ after.engine.stats.plansCreated = before.engine.stats.plansCreated

/-- The reading calls of an answer change nothing. -/
theorem run_refusePlan (reason : Error) (ref : PlanRef) (coordinator : Coordinator storage) :
    (run perform (refusePlan reason ref) coordinator).2 = coordinator := by
  unfold refusePlan
  rw [run_call]
  split <;> rfl

/-- What follows a declaration declares nothing. -/
theorem declarePlan_created (toJson : Explanation → Text) (declare : DeclareRequest)
    (coordinator : Coordinator storage) :
    (run perform (declarePlan toJson declare) coordinator).2.engine.stats.plansCreated =
      (coordinator.engine.declare declare).2.stats.plansCreated := by
  unfold declarePlan
  rw [run_call]
  dsimp only [perform, calling]
  cases (coordinator.engine.declare declare).1 with
  | error reason => rfl
  | ok plan =>
      dsimp only
      rw [run_call]
      dsimp only [perform, calling]
      have validated := Engine.validate_created (coordinator.engine.declare declare).2 plan.ref
      generalize (coordinator.engine.declare declare).2.validate plan.ref = result at validated
      cases result with
      | mk answer validatedEngine =>
          cases answer with
          | error reason =>
              dsimp only
              rw [run_refusePlan]
              exact validated
          | ok =>
              dsimp only
              rw [run_call]
              dsimp only [perform, calling]
              have solved := Engine.solve_created validatedEngine plan.ref
              generalize validatedEngine.solve plan.ref = result at solved
              cases result with
              | mk answer solvedEngine =>
                  cases answer with
                  | error reason =>
                      dsimp only
                      rw [run_refusePlan]
                      exact solved.trans validated
                  | ok plan => exact solved.trans validated

/-- A request that gets past its binding is rejected early, and without a trace, or its plan is
declared. -/
theorem planSnapshot_undisturbing_iff (toJson : Explanation → Text) (keyed : Keyed coordinator.engine.plans)
    (valid : request.binding.valid = true) (canonical : canonicalize snapshot = snapshot)
    (structural : validateStructure snapshot = .ok ()) {response : Response} {after : Coordinator storage}
    (ran : run perform (planSnapshot toJson request snapshot) coordinator = (response, after)) :
    (RejectedEarly coordinator after response → Engine.Undisturbed coordinator.engine after.engine) ↔
      PlanDeclared coordinator.engine coordinator.epoch request snapshot ∨
        Engine.InForce coordinator.engine snapshot := by
  rw [planDeclared_iff keyed valid canonical structural]
  have created := (Engine.submitSnapshot_leaves coordinator.engine canonical structural).2.2.2.2
  -- A refusal leaves what the submission did.
  have refused : ∀ (reason : Error) (left : Coordinator storage),
      Engine.SameLive (coordinator.engine.submitSnapshot snapshot).2 left.engine →
      left.engine.plans = (coordinator.engine.submitSnapshot snapshot).2.plans →
      left.engine.incumbent = (coordinator.engine.submitSnapshot snapshot).2.incumbent →
      left.engine.stats = (coordinator.engine.submitSnapshot snapshot).2.stats →
      (response, after) = (.plan { code := reason.code.code, detail := reason.detail }, left) →
      ((RejectedEarly coordinator after response → Engine.Undisturbed coordinator.engine after.engine) ↔
        Engine.InForce coordinator.engine snapshot) := by
    rintro reason left same plans incumbent stats ⟨⟩
    have early : RejectedEarly coordinator after
        (.plan { code := reason.code.code, detail := reason.detail }) :=
      ⟨ErrorCode.code_ne reason.code, by rw [stats, created]⟩
    constructor
    · intro undisturbing
      exact Engine.inForce_of_undisturbed keyed canonical structural same plans (undisturbing early)
    · intro force _
      rw [force.submit canonical structural] at same plans incumbent
      exact ⟨same.snapshot, ⟨same.live, same.liveValid⟩, incumbent,
        fun id plan found => by rw [plans]; exact found⟩
  have same := Engine.SameLive.refl (coordinator.engine.submitSnapshot snapshot).2
  unfold planSnapshot at ran
  rw [run_call] at ran
  dsimp only [perform, calling] at ran
  cases status : (coordinator.engine.submitSnapshot snapshot).1 with
  | error reason =>
      rw [status] at ran
      rw [refused reason _ same rfl rfl rfl ran.symm, or_iff_right]
      rintro ⟨success, -⟩
      cases success
  | ok =>
      rw [status] at ran
      dsimp only at ran
      by_cases unnamed : (!request.planId.valid) = true
      · rw [if_pos unnamed] at ran
        rw [refused _ _ same rfl rfl rfl ran.symm, or_iff_right]
        rintro ⟨-, named, -⟩
        rw [named] at unnamed
        cases unnamed
      rw [if_neg unnamed, run_call] at ran
      dsimp only [perform] at ran
      cases answered : declareRequest request coordinator.epoch with
      | error reason =>
          rw [answered] at ran
          rw [refused reason _ same rfl rfl rfl ran.symm, or_iff_right]
          rintro ⟨-, -, declare, other, -⟩
          cases other
      | ok declare =>
          rw [answered] at ran
          dsimp only at ran
          cases declared : ((coordinator.engine.submitSnapshot snapshot).2.declare declare).1 with
          | error reason =>
              obtain ⟨live, plans, incumbent, stats⟩ := Engine.declare_fails declared
              unfold declarePlan at ran
              rw [run_call] at ran
              dsimp only [perform, calling] at ran
              rw [declared] at ran
              rw [refused reason _ live plans incumbent stats ran.symm, or_iff_right]
              rintro ⟨-, -, other, there, declarable⟩
              cases there
              rw [(Engine.declare_succeeds declarable).1] at declared
              cases declared
          | ok plan =>
              have declarable := Engine.declarable_of_ok declared
              have counted := declarePlan_created toJson declare
                { coordinator with engine := (coordinator.engine.submitSnapshot snapshot).2 }
              rw [ran] at counted
              have more : after.engine.stats.plansCreated = coordinator.engine.stats.plansCreated + 1 := by
                rw [← created, ← (Engine.declare_succeeds declarable).2]
                exact counted
              constructor
              · intro _
                exact Or.inl ⟨rfl, by simpa using unnamed, declare, rfl, declarable⟩
              · rintro - ⟨-, same⟩
                omega

/-! The whole frame. -/

/-- Where the request gets as far as its snapshot, its plan is declared, or the snapshot is in force
already. -/
def Harmless (coordinator : Coordinator storage) (payload : List UInt8) : Prop :=
  ∀ request snapshot, decodePlanRequest payload = .ok request → Bound coordinator request.binding →
    decodeSnapshot request.snapshot = .ok snapshot →
      PlanDeclared coordinator.engine coordinator.epoch request snapshot ∨
        Engine.InForce coordinator.engine snapshot

theorem dispatch_planRequest (toJson : Explanation → Text) {frame : Frame}
    (type : frame.type = MessageType.planRequest.code) :
    dispatch toJson frame = handlePlanRequest toJson frame.payload := by
  unfold dispatch
  rw [type, MessageType.ofCode_code]

/-- A request is refused where it stands, or its snapshot is submitted. -/
theorem run_handlePlanRequest (toJson : Explanation → Text) (payload : List UInt8)
    (coordinator : Coordinator storage) :
    ((∃ response, run perform (handlePlanRequest toJson payload) coordinator = (response, coordinator)) ∧
        ∀ request snapshot, decodePlanRequest payload = .ok request → Bound coordinator request.binding →
          decodeSnapshot request.snapshot ≠ .ok snapshot) ∨
      ∃ request snapshot, decodePlanRequest payload = .ok request ∧ Bound coordinator request.binding ∧
        decodeSnapshot request.snapshot = .ok snapshot ∧
        run perform (handlePlanRequest toJson payload) coordinator =
          run perform (planSnapshot toJson request snapshot) coordinator := by
  unfold handlePlanRequest
  cases decoded : decodePlanRequest payload with
  | error reason =>
      refine Or.inl ⟨⟨_, rfl⟩, ?_⟩
      rintro request snapshot ⟨⟩
  | ok request =>
      dsimp only
      rw [run_bind, run_validateBinding]
      cases status : bindingStatus coordinator request.binding with
      | error reason =>
          refine Or.inl ⟨⟨_, rfl⟩, ?_⟩
          rintro other snapshot ⟨⟩ bound
          rw [(bindingStatus_eq_ok request.binding coordinator).2 bound] at status
          cases status
      | ok =>
          have bound := (bindingStatus_eq_ok request.binding coordinator).1 status
          cases read : decodeSnapshot request.snapshot with
          | error reason =>
              refine Or.inl ⟨⟨_, rfl⟩, ?_⟩
              rintro other snapshot ⟨⟩ - found
              rw [read] at found
              cases found
          | ok snapshot => exact Or.inr ⟨request, snapshot, rfl, bound, read, rfl⟩

/-- A plan request that is rejected before its plan is declared leaves no trace exactly when it is
rejected before its snapshot is submitted, or the snapshot is in force already. -/
theorem rejected_plan_request_iff (toJson : Explanation → Text) (reachable : Reachable toJson coordinator)
    (frame : Frame) (type : frame.type = MessageType.planRequest.code) :
    (RejectedEarly coordinator (run perform (dispatch toJson frame) coordinator).2
        (run perform (dispatch toJson frame) coordinator).1 →
      Engine.Undisturbed coordinator.engine (run perform (dispatch toJson frame) coordinator).2.engine) ↔
      Harmless coordinator frame.payload := by
  rw [dispatch_planRequest toJson type]
  rcases run_handlePlanRequest toJson frame.payload coordinator with
    ⟨⟨response, ran⟩, refused⟩ | ⟨request, snapshot, decoded, bound, read, ran⟩
  · rw [ran]
    constructor
    · intro _ request snapshot decoded bound read
      exact absurd read (refused request snapshot decoded bound)
    · intro _ _
      exact Engine.Undisturbed.refl coordinator.engine
  · obtain ⟨canonical, structural, -, -⟩ := decodeSnapshot_strict read
    rw [ran, planSnapshot_undisturbing_iff toJson reachable.keyed bound.valid canonical structural
      (Prod.eta _).symm]
    constructor
    · intro harmless other another decodedOther _ readOther
      rw [decoded, Except.ok.injEq] at decodedOther
      subst decodedOther
      rw [read, Except.ok.injEq] at readOther
      subst readOther
      exact harmless
    · intro harmless
      exact harmless request snapshot decoded bound read

end Request

/-- The one-link fabric, with an incumbent that does not decode. -/
def unreadableIncumbent : PlanRequest :=
  { binding := plannerBinding
    planId := named "plan-1"
    snapshot := encodeSnapshot linkFabric
    hasIncumbent := true }

def unreadableFrame : Frame := makeFrame .planRequest unreadableIncumbent.encode

theorem unreadableIncumbent_decoded :
    decodePlanRequest unreadableIncumbent.encode = .ok unreadableIncumbent := by decide +kernel

theorem unreadableIncumbent_read : decodeSnapshot unreadableIncumbent.snapshot = .ok linkFabric := by
  decide +kernel

/-- The answer to it, before anything is declared. -/
theorem unreadableIncumbent_undeclared (tick : UInt64) :
    ∃ reason, declareRequest unreadableIncumbent tick = .error reason := ⟨_, rfl⟩

/-- While no plan is stored, the request is refused once its snapshot is live. -/
theorem run_unreadableIncumbent {storage : Storage} (toJson : Explanation → Text)
    {coordinator : Coordinator storage}
    (bound : Bound coordinator plannerBinding) (empty : coordinator.engine.plans = OrdMap.empty) :
    ∃ reason : Error, run perform (dispatch toJson unreadableFrame) coordinator =
      (.plan { code := reason.code.code, detail := reason.detail },
        { coordinator with engine := coordinator.engine.withSnapshot linkFabric }) := by
  obtain ⟨canonical, structural, -, -⟩ := decodeSnapshot_strict unreadableIncumbent_read
  have submitted : coordinator.engine.submitSnapshot linkFabric =
      (.ok (), coordinator.engine.withSnapshot linkFabric) := by
    rw [Engine.submitSnapshot_eq canonical structural, empty]
    rfl
  rw [dispatch_planRequest toJson (show unreadableFrame.type = MessageType.planRequest.code from rfl)]
  rcases run_handlePlanRequest toJson unreadableFrame.payload coordinator with
    ⟨-, refused⟩ | ⟨request, snapshot, decoded, -, read, ran⟩
  · exact absurd unreadableIncumbent_read
      (refused unreadableIncumbent linkFabric unreadableIncumbent_decoded bound)
  · obtain rfl : request = unreadableIncumbent :=
      Except.ok.inj (decoded.symm.trans unreadableIncumbent_decoded)
    obtain rfl : snapshot = linkFabric := Except.ok.inj (read.symm.trans unreadableIncumbent_read)
    obtain ⟨reason, undeclared⟩ := unreadableIncumbent_undeclared coordinator.epoch
    have named : ¬ (!unreadableIncumbent.planId.valid) = true := by decide
    refine ⟨reason, ran.trans ?_⟩
    unfold planSnapshot
    rw [run_call]
    dsimp only [perform, calling]
    rw [submitted]
    dsimp only
    rw [if_neg named, run_call]
    dsimp only [perform]
    rw [undeclared]
    rfl

/-- The request once more: its snapshot is in force by then, and the second refusal leaves no trace. -/
theorem rejected_plan_request_iff_repeated :
    ∃ (refusal reply : Response) (first second : Coordinator durable),
      run perform (dispatch (fun _ => []) unreadableFrame) (plannerStarted durable) = (refusal, first) ∧
      run perform (dispatch (fun _ => []) unreadableFrame) first = (reply, second) ∧
      first.engine.snapshot = some linkFabric ∧ RejectedEarly first second reply ∧
      Engine.Undisturbed first.engine second.engine := by
  let live : Coordinator durable :=
    { plannerStarted durable with engine := (plannerStarted durable).engine.withSnapshot linkFabric }
  have started : Bound (plannerStarted durable) plannerBinding := plannerStarted_bound
  obtain ⟨_, ranFirst⟩ := run_unreadableIncumbent (fun _ => []) started rfl
  have bound : Bound live plannerBinding :=
    (bindingStatus_eq_ok plannerBinding live).1
      ((bindingStatus_eq_ok plannerBinding (plannerStarted durable)).2 started)
  obtain ⟨reason, ranSecond⟩ := run_unreadableIncumbent (fun _ => []) bound rfl
  have reachable : Reachable (fun _ => []) live := by
    have served := @plannerStarted_serves durable (fun _ => []) [unreadableFrame]
    rw [List.foldl_cons, ranFirst] at served
    exact served
  have harmless : Harmless live unreadableFrame.payload := by
    intro request snapshot decoded _ read
    obtain rfl : request = unreadableIncumbent :=
      Except.ok.inj (decoded.symm.trans unreadableIncumbent_decoded)
    obtain rfl : snapshot = linkFabric := Except.ok.inj (read.symm.trans unreadableIncumbent_read)
    refine Or.inr ⟨rfl, rfl, rfl, ?_⟩
    rintro id plan ⟨⟩
  have early : RejectedEarly live { live with engine := live.engine.withSnapshot linkFabric }
      (.plan { code := reason.code.code, detail := reason.detail }) := ⟨ErrorCode.code_ne reason.code, rfl⟩
  have undisturbing := (rejected_plan_request_iff (fun _ => []) reachable unreadableFrame rfl).mpr harmless
  rw [ranSecond] at undisturbing
  exact ⟨_, _, live, _, ranFirst, ranSecond, rfl, early, undisturbing early⟩

/-- The request is refused, and its snapshot is live. -/
theorem rejected_plan_request_disturbs :
    ¬ ∀ (toJson : Explanation → Text) (coordinator : Coordinator durable) (frame : Frame),
      Reachable toJson coordinator → frame.type = MessageType.planRequest.code →
        RejectedEarly coordinator (run perform (dispatch toJson frame) coordinator).2
          (run perform (dispatch toJson frame) coordinator).1 →
        Engine.Undisturbed coordinator.engine
          (run perform (dispatch toJson frame) coordinator).2.engine := by
  intro claimed
  let toJson : Explanation → Text := fun _ => []
  have type : unreadableFrame.type = MessageType.planRequest.code := rfl
  have reachable : Reachable toJson (plannerStarted durable) := plannerStarted_serves []
  have undisturbing := claimed toJson (plannerStarted durable) unreadableFrame reachable type
  rw [dispatch_planRequest toJson type] at undisturbing
  have decoded := unreadableIncumbent_decoded
  have read := unreadableIncumbent_read
  rcases run_handlePlanRequest toJson unreadableFrame.payload (plannerStarted durable) with
    ⟨-, refused⟩ | ⟨request, snapshot, decodedAgain, bound, readAgain, ran⟩
  · exact refused unreadableIncumbent linkFabric decoded plannerStarted_bound read
  · have same : request = unreadableIncumbent := Except.ok.inj (decodedAgain.symm.trans decoded)
    subst same
    have fabric : snapshot = linkFabric := Except.ok.inj (readAgain.symm.trans read)
    subst fabric
    obtain ⟨canonical, structural, -, -⟩ := decodeSnapshot_strict read
    rw [ran] at undisturbing
    rcases (planSnapshot_undisturbing_iff toJson reachable.keyed bound.valid canonical
      structural (Prod.eta _).symm).1 undisturbing with declared | force
    · obtain ⟨allocation, accepted⟩ := declared.incumbent rfl
      have empty : decodeAllocation ([] : List UInt8) ≠ .ok allocation := by
        rintro ⟨⟩
      exact empty accepted
    · cases force.snapshot

end Coordinator

end TrafficFabric
