import TrafficFabric.Applicability
import TrafficFabric.Explanations
import TrafficFabric.FencedMutations
import TrafficFabric.PlanRequests
import TrafficFabric.ProtocolRoundTrip
import TrafficFabric.SnapshotTransport

set_option autoImplicit false

/- Plan requests that are handled at the same time. The engine has one live snapshot: a request submits its
own, and its plan is declared, validated and solved in later calls. -/
namespace TrafficFabric

open Interleaving (Pool Program Met run run_call run_bind Discipline)

/-- The plan is past its call of the solver, or it was given up before. -/
structure Plan.PastSolve (plan : Plan) : Prop where
  undeclared : plan.state ≠ .declared
  unvalidated : plan.state ≠ .validated

/-- What the solver is asked for a request. -/
def DeclareRequest.options (request : DeclareRequest) : SolveOptions :=
  { allowDegraded := request.allowDegraded
    hasIncumbent := request.hasIncumbent
    incumbent := request.incumbent }

namespace Engine

variable {storage : Storage} {engine : Engine storage}

/-! Plans that are held. -/

theorem Steady.run (steady : engine.Steady) (history : List (Operation storage)) :
    (engine.run history).Steady :=
  Runs.invariant Steady (fun _ operation before _ => apply_steady before operation) steady
    (Runs.along_true _ history)

theorem PlanStep.pastSolve {operation : Operation storage} {id : PlanId} {plan later : Plan}
    (step : PlanStep engine operation id plan later) (past : plan.PastSolve) :
    later.PastSolve ∧ later.allocation = plan.allocation := by
  cases step with
  | kept | superseding => exact ⟨⟨past.undeclared, past.unvalidated⟩, rfl⟩
  | displacing | displaced | superseded | demoted => exact ⟨⟨nofun, nofun⟩, rfl⟩
  | noted _ noted =>
      cases noted with
      | current | behind => exact ⟨⟨past.undeclared, past.unvalidated⟩, rfl⟩
      | unfounded declared => exact absurd declared past.undeclared
  | recorded _ change =>
      cases change with
      | validated declared => exact absurd declared past.undeclared
      | unsolvable solves | solved solves => exact absurd solves.validated past.unvalidated
      | outdated | contradicted | forbidden | authorized | unverified | committed | marked | retired =>
          exact ⟨⟨nofun, nofun⟩, rfl⟩

/-- What stays of a plan and of the request it was declared for. -/
structure Lasts (before after : Engine storage) (plan later : Plan) : Prop where
  binding : SameBinding plan later
  pending : after.pendingOf plan.id = before.pendingOf plan.id
  solved : plan.PastSolve → later.PastSolve ∧ later.allocation = plan.allocation

theorem Lasts.trans {first second third : Engine storage} {plan next last : Plan}
    (before : Lasts first second plan next) (after : Lasts second third next last) :
    Lasts first third plan last := by
  refine ⟨before.binding.trans after.binding, ?_, ?_⟩
  · have pending := after.pending
    rw [before.binding.id] at pending
    exact pending.trans before.pending
  · intro past
    obtain ⟨still, same⟩ := before.solved past
    obtain ⟨past, kept⟩ := after.solved still
    exact ⟨past, kept.trans same⟩

theorem apply_lasts (steady : engine.Steady) (operation : Operation storage) {id : PlanId} {plan : Plan}
    (found : engine.plans.find? id = some plan) :
    ∃ later, (engine.apply operation).plans.find? id = some later ∧
      Lasts engine (engine.apply operation) plan later := by
  have key : plan.id = id := steady.sound.keyed id plan found
  obtain ⟨later, present, binding, -⟩ := (apply_advances steady.sound.keyed operation).kept id plan found
  refine ⟨later, present, binding, ?_, ?_⟩
  · rw [apply_eq_call, key]
    exact call_pending found
  · intro past
    rw [apply_eq_call] at present
    rcases call_plan steady.sound.keyed present with ⟨before, there, step⟩ | ⟨absent, -⟩
    · rw [found, Option.some.injEq] at there
      subst there
      exact step.pastSolve past
    · rw [found] at absent
      cases absent

/-- Whatever the engine is called for next, a plan stays, with the allocation that was found for it. -/
theorem run_lasts (steady : engine.Steady) (history : List (Operation storage)) {id : PlanId} {plan : Plan}
    (found : engine.plans.find? id = some plan) :
    ∃ later, (engine.run history).plans.find? id = some later ∧
      Lasts engine (engine.run history) plan later := by
  induction history generalizing engine plan with
  | nil => exact ⟨plan, found, SameBinding.refl plan, rfl, fun past => ⟨past, rfl⟩⟩
  | cons operation rest ih =>
      obtain ⟨next, present, first⟩ := apply_lasts steady operation found
      obtain ⟨last, there, second⟩ := ih (apply_steady steady operation) present
      exact ⟨last, there, first.trans second⟩

/-! Calls that succeed. -/

theorem record_answer {α : Type} {plan : Plan} {answer : Result α} {value : α}
    (answered : (engine.record plan answer).1 = .ok value) : answer = .ok value := by
  unfold record at answered
  split at answered
  · cases answered
  · exact answered

/-- The plan that `solve` answers with is the proposal for what the solver found. -/
theorem solve_ok {ref : PlanRef} {solved : Plan} (answered : (engine.solve ref).1 = .ok solved) :
    ∃ plan outcome, Answers engine ref plan outcome ∧ solved = engine.proposal plan outcome := by
  have original := answered
  unfold solve at answered
  cases found : engine.plans.find? ref.id with
  | none =>
      rw [found] at answered
      cases answered
  | some plan =>
      rw [found] at answered
      dsimp only at answered
      split at answered
      · cases answered
      rename_i current
      split at answered
      · cases answered
      rename_i edge
      split at answered
      · cases answered
      rename_i live
      split at answered
      · cases record_answer answered
      rename_i identical
      have solves : Solves engine plan :=
        ⟨validated_of_edge (by simpa using edge), by simpa using live, by simpa [deltaOf] using identical⟩
      cases asked : TrafficFabric.solve engine.liveSnapshot (engine.solveOptions plan.id) with
      | error reason =>
          have failed := asked
          unfold solveOptions pendingOf at failed
          unfold finishSolve at answered
          simp only [failed] at answered
          cases record_answer answered
      | ok outcome =>
          obtain ⟨counted, -, -, same⟩ := solve_eq found (not_not.1 current) solves asked
          rw [same] at original
          exact ⟨plan, outcome, ⟨found, not_not.1 current, solves, asked⟩,
            (Except.ok.inj (record_answer original)).symm⟩

theorem declare_ok (steady : engine.Steady) {request : DeclareRequest} {plan : Plan}
    (answered : (engine.declare request).1 = .ok plan) :
    (engine.declare request).2.plans.find? plan.id = some plan ∧
      (engine.declare request).2.pendingOf plan.id = request.pending ∧
      ∃ snapshot, Accepted snapshot ∧ plan.authority = authorityOf snapshot := by
  have declarable := declarable_of_ok answered
  obtain rfl : engine.declaredPlan request = plan :=
    Except.ok.inj ((declare_succeeds declarable).1.symm.trans answered)
  obtain ⟨snapshot, -, accepted, live⟩ := steady.liveSound declarable.live
  rw [declare_eq declarable, persist_frame]
  refine ⟨OrdMap.find?_insert_self _ _ _, ?_, snapshot, accepted, live⟩
  unfold pendingOf
  change ((engine.pending.emplace request.planId _).find? request.planId).getD {} = _
  rw [OrdMap.find?_emplace, if_pos rfl, steady.pendingKnown request.planId declarable.absent]
  rfl

end Engine

namespace Coordinator

variable {storage : Storage} {Thread : Type}

/-! Requests and their answers. -/

/-- The request for a plan that a frame carries, and the snapshot the request contains. -/
def planningOf (frame : Frame) : Option (PlanRequest × FabricSnapshot) :=
  match ofCode MessageType.all MessageType.code frame.type with
  | some .planRequest =>
      match decodePlanRequest frame.payload with
      | .error _ => none
      | .ok request => (decodeSnapshot request.snapshot).toOption.map fun own => (request, own)
  | _ => none

def Task.planning : Task → Option (PlanRequest × FabricSnapshot)
  | .handle frame => planningOf frame
  | .stop => none

/-- The plan is bound to the snapshot of the request, and carries what the solver finds on that snapshot. -/
structure PlannedOn (request : PlanRequest) (own : FabricSnapshot) (plan : Plan) : Prop where
  authority : plan.authority = authorityOf (canonicalize own)
  solved : ∃ tick declared outcome, declareRequest request tick = .ok declared ∧
    TrafficFabric.solve (canonicalize own) declared.options = .ok outcome ∧
      plan.allocation = outcome.allocation

/-- The plan that a request is answered with is held, and was planned on the snapshot of that request. -/
def AnswersOwn (task : Task) (response : Option Response) (coordinator : Coordinator storage) : Prop :=
  ∀ request own reply, task.planning = some (request, own) → response = some (.plan reply) →
    reply.code = WireCode.success →
      ∃ plan, coordinator.engine.plans.find? reply.plan.id = some plan ∧
        plan.generation = reply.plan.generation ∧ PlannedOn request own plan

/-- The solver is called for a request while the snapshot of that request is the live one. -/
def SolvesOwn (task : Task) (action : Action) (coordinator : Coordinator storage) : Prop :=
  ∀ request own ref, task.planning = some (request, own) → action = .solve ref →
    coordinator.engine.snapshot = some (canonicalize own)

theorem solvesOwn_other {task : Task} {action : Action} {coordinator : Coordinator storage}
    (differs : ∀ ref, action ≠ .solve ref) : SolvesOwn task action coordinator :=
  fun _ _ ref _ same => absurd same (differs ref)

/-- The engine is only called; nothing is noted of the calls. -/
def planning (tasks : Thread → Task) : Discipline (@perform storage) Thread Unit where
  note _ _ _ notes := notes
  meets thread action world := SolvesOwn (tasks thread) action world.1
  permitted _ _ _ := True
  rely _ world later := ∃ history, later.1.engine = world.1.engine.run history
  refl _ _ := ⟨[], rfl⟩
  trans := by
    rintro thread first second third ⟨before, same⟩ ⟨after, moved⟩
    refine ⟨before ++ after, ?_⟩
    rw [moved, same]
    exact List.foldl_append.symm
  respects _ _ := perform_history _ _

section Handling

variable {tasks : Thread → Task} {thread : Thread} {request : PlanRequest} {own : FabricSnapshot}

/-- The plan named is held, solved on the snapshot of the request. -/
def Planned (request : PlanRequest) (own : FabricSnapshot) (ref : PlanRef)
    (engine : Engine storage) : Prop :=
  ∃ plan, engine.plans.find? ref.id = some plan ∧ plan.generation = ref.generation ∧
    PlannedOn request own plan ∧ plan.PastSolve

/-- The plan named is held as it was declared, and perhaps further on. -/
def Declared (declared : DeclareRequest) (ref : PlanRef) (engine : Engine storage) : Prop :=
  ∃ plan, engine.plans.find? ref.id = some plan ∧ plan.generation = ref.generation ∧
    engine.pendingOf plan.id = declared.pending ∧
      ∃ snapshot, Accepted snapshot ∧ plan.authority = authorityOf snapshot

theorem Planned.run {ref : PlanRef} {engine : Engine storage} (steady : engine.Steady)
    (planned : Planned request own ref engine) (history : List (Engine.Operation storage)) :
    Planned request own ref (engine.run history) := by
  obtain ⟨plan, found, generation, ⟨authority, tick, declared, outcome, asked, solved, same⟩,
    past⟩ := planned
  obtain ⟨later, present, lasts⟩ := Engine.run_lasts steady history found
  obtain ⟨still, kept⟩ := lasts.solved past
  exact ⟨later, present, lasts.binding.generation.trans generation,
    ⟨lasts.binding.authority.trans authority, tick, declared, outcome, asked, solved,
      kept.trans same⟩, still⟩

theorem Declared.run {declared : DeclareRequest} {ref : PlanRef} {engine : Engine storage}
    (steady : engine.Steady) (held : Declared declared ref engine)
    (history : List (Engine.Operation storage)) :
    Declared declared ref (engine.run history) := by
  obtain ⟨plan, found, generation, pending, snapshot, accepted, authority⟩ := held
  obtain ⟨later, present, lasts⟩ := Engine.run_lasts steady history found
  refine ⟨later, present, lasts.binding.generation.trans generation, ?_, snapshot, accepted,
    lasts.binding.authority.trans authority⟩
  rw [lasts.binding.id, lasts.pending]
  exact pending

/-- A plan that is solved on the snapshot of its request is planned on it. -/
theorem planned_of_solve {declared : DeclareRequest} {tick : UInt64} {ref : PlanRef} {solved : Plan}
    {engine : Engine storage} (steady : engine.Steady) (asked : declareRequest request tick = .ok declared)
    (held : Declared declared ref engine) (live : engine.snapshot = some (canonicalize own))
    (answered : (engine.solve ref).1 = .ok solved) :
    Planned request own solved.ref (engine.solve ref).2 := by
  obtain ⟨plan, outcome, answers, rfl⟩ := Engine.solve_ok answered
  obtain ⟨same, found, generation, pending, bound, boundAccepted, authority⟩ := held
  obtain rfl : plan = same := Option.some.inj (answers.found.symm.trans found)
  obtain ⟨shown, there, accepted, current⟩ := steady.liveSound answers.solves.live
  obtain rfl : canonicalize own = shown := Option.some.inj (live.symm.trans there)
  have boundValid : plan.authority.valid = true := by
    rw [authority]
    exact authorityOf_valid boundAccepted
  have liveValid : engine.live.valid = true := by
    rw [current]
    exact authorityOf_valid accepted
  have identical : engine.live = plan.authority :=
    (compareAuthority_identical boundValid liveValid).1 answers.solves.identical
  have options : engine.solveOptions plan.id = declared.options := by
    unfold Engine.solveOptions
    rw [pending]
    rfl
  have inserted := (Engine.solve_answered answers).2
  obtain ⟨states, -⟩ := Engine.proposal_state engine plan outcome
  refine ⟨engine.proposal plan outcome, ?_, rfl, ⟨identical.symm.trans current, tick, declared, outcome,
    asked, ?_, rfl⟩, ?_, ?_⟩
  · rw [inserted]
    exact OrdMap.find?_insert_self _ _ _
  · rw [← options, ← Engine.liveSnapshot_eq live]
    exact answers.answered
  · intro state
    rw [state] at states
    rcases states with other | other | other <;> cases other
  · intro state
    rw [state] at states
    rcases states with other | other | other <;> cases other

/-! The handler. -/

theorem relied_steady {world later : Coordinator storage × Unit} (steady : world.1.engine.Steady)
    (relied : (planning tasks).rely thread world later) : later.1.engine.Steady := by
  obtain ⟨history, same⟩ := relied
  rw [same]
  exact steady.run history

theorem performed_steady (action : Action) {coordinator : Coordinator storage}
    (steady : coordinator.engine.Steady) :
    (perform action coordinator).2.engine.Steady := by
  obtain ⟨history, same⟩ := perform_history action coordinator
  rw [same]
  exact steady.run history

/-- The actions of a thread are calls of the engine like those of the others. -/
theorem relied_own (action : Action) (world : Coordinator storage × Unit) :
    (planning tasks).rely thread world ((planning tasks).after thread action world) :=
  perform_history action world.1

/-- An answer that accepts a request names a plan that was planned on the snapshot of the request. -/
def Responds (request : PlanRequest) (own : FabricSnapshot) (response : Response)
    (world : Coordinator storage × Unit) : Prop :=
  ∀ reply, response = .plan reply → reply.code = WireCode.success →
    Planned request own reply.plan world.1.engine

/-- An answer that accepts no request. -/
def Response.Refuses (response : Response) : Prop :=
  ∀ reply, response = .plan reply → reply.code ≠ WireCode.success

theorem refuses_behaves {program : Handler Response} (ends : program.Ends Response.Refuses)
    (world : Coordinator storage × Unit) :
    (planning tasks).Behaves thread (Responds request own) program world :=
  (Discipline.Behaves.of_ends (fun _ _ => trivial) ends world).mono
    fun _ _ refuses reply same accepted => absurd accepted (refuses reply same)

theorem refuse_ends (reason : Error) : (refuse reason).Ends Response.Refuses := by
  intro reply same
  cases same
  exact ErrorCode.code_ne reason.code

theorem refusePlan_ends (reason : Error) (ref : PlanRef) :
    (refusePlan reason ref).Ends Response.Refuses := by
  intro current
  cases current with
  | none =>
      intro reply same
      cases same
      exact ErrorCode.code_ne reason.code
  | some plan =>
      intro reply same
      cases same
      exact ErrorCode.code_ne reason.code

variable (toJson : Explanation → Text)

theorem acceptPlan_behaves {solved : Plan} {world : Coordinator storage × Unit}
    (steady : world.1.engine.Steady) (planned : Planned request own solved.ref world.1.engine) :
    (planning tasks).Behaves thread (Responds request own) (acceptPlan toJson solved) world := by
  refine .act fun second left _ =>
    ⟨trivial, .act fun third moved _ => ⟨trivial, .pure fun last ended => ?_⟩⟩
  have relied := (planning tasks).trans left ((planning tasks).trans moved ended)
  intro reply same _
  cases same
  obtain ⟨history, reached⟩ := relied
  rw [reached]
  exact planned.run steady history

/-- From the declaration on, the plan is the one that was declared. -/
theorem declarePlan_behaves {declared : DeclareRequest} {tick : UInt64}
    (named : (tasks thread).planning = some (request, own))
    (asked : declareRequest request tick = .ok declared) {world : Coordinator storage × Unit}
    (steady : world.1.engine.Steady) :
    (planning tasks).Behaves thread (Responds request own) (declarePlan toJson declared) world := by
  refine .act fun second left _ => ⟨trivial, ?_⟩
  have steady := relied_steady steady left
  cases answered : (second.1.engine.declare declared).1 with
  | error reason =>
      rw [show (perform (.declare declared) second.1).1 = .error reason from answered]
      exact refuses_behaves (refuse_ends reason) _
  | ok plan =>
      rw [show (perform (.declare declared) second.1).1 = .ok plan from answered]
      obtain ⟨found, pending, bound⟩ := Engine.declare_ok steady answered
      have held : Declared declared plan.ref (second.1.engine.declare declared).2 :=
        ⟨plan, found, rfl, pending, bound⟩
      have declaredSteady := performed_steady (.declare declared) steady
      refine .act fun third moved _ => ⟨trivial, ?_⟩
      cases validated : (third.1.engine.validate plan.ref).1 with
      | error reason =>
          rw [show (perform (.validate plan.ref) third.1).1 = .error reason from validated]
          exact refuses_behaves (refusePlan_ends reason plan.ref) _
      | ok =>
          rw [show (perform (.validate plan.ref) third.1).1 = .ok () from validated]
          refine .act fun fourth further live => ⟨trivial, ?_⟩
          have relied := (planning tasks).trans moved
            ((planning tasks).trans (relied_own (.validate plan.ref) third) further)
          have fourthSteady := relied_steady declaredSteady relied
          cases solved : (fourth.1.engine.solve plan.ref).1 with
          | error reason =>
              rw [show (perform (.solve plan.ref) fourth.1).1 = .error reason from solved]
              exact refuses_behaves (refusePlan_ends reason plan.ref) _
          | ok solvedPlan =>
              rw [show (perform (.solve plan.ref) fourth.1).1 = .ok solvedPlan from solved]
              have stays : Declared declared plan.ref fourth.1.engine := by
                obtain ⟨history, same⟩ := relied
                rw [same]
                exact held.run declaredSteady history
              have planned :=
                planned_of_solve fourthSteady asked stays (live request own plan.ref named rfl) solved
              exact acceptPlan_behaves toJson (performed_steady (.solve plan.ref) fourthSteady) planned

theorem planSnapshot_behaves (named : (tasks thread).planning = some (request, own))
    (snapshot : FabricSnapshot)
    {world : Coordinator storage × Unit} (steady : world.1.engine.Steady) :
    (planning tasks).Behaves thread (Responds request own)
      (planSnapshot toJson request snapshot) world := by
  refine .act fun second left _ => ⟨trivial, ?_⟩
  have steady := relied_steady steady left
  have submittedSteady := performed_steady (.submitSnapshot snapshot) steady
  cases submitted : (second.1.engine.submitSnapshot snapshot).1 with
  | error reason =>
      rw [show (perform (.submitSnapshot snapshot) second.1).1 = .error reason from submitted]
      exact refuses_behaves (refuse_ends reason) _
  | ok =>
      rw [show (perform (.submitSnapshot snapshot) second.1).1 = .ok () from submitted]
      dsimp only
      split
      · exact refuses_behaves (refuse_ends _) _
      refine .act fun third moved _ => ⟨trivial, ?_⟩
      cases asked : declareRequest request third.1.epoch with
      | error reason =>
          rw [show declareRequest request (perform .epoch third.1).1 = .error reason from asked]
          exact refuses_behaves (refuse_ends reason) _
      | ok declared =>
          rw [show declareRequest request (perform .epoch third.1).1 = .ok declared from asked]
          exact declarePlan_behaves toJson named asked (relied_steady submittedSteady moved)

theorem planning_eq_some {frame : Frame} (named : planningOf frame = some (request, own)) :
    ofCode MessageType.all MessageType.code frame.type = some .planRequest ∧
      decodePlanRequest frame.payload = .ok request ∧ decodeSnapshot request.snapshot = .ok own := by
  unfold planningOf at named
  split at named
  · rename_i type
    split at named
    · cases named
    · rename_i carried decoded
      cases read : decodeSnapshot carried.snapshot with
      | error reason =>
          rw [read] at named
          cases named
      | ok snapshot =>
          rw [read] at named
          cases named
          exact ⟨type, decoded, read⟩
  · cases named

theorem handlePlanRequest_behaves (named : (tasks thread).planning = some (request, own))
    {payload : List UInt8}
    (decoded : decodePlanRequest payload = .ok request) {world : Coordinator storage × Unit}
    (steady : world.1.engine.Steady) :
    (planning tasks).Behaves thread (Responds request own) (handlePlanRequest toJson payload) world := by
  unfold handlePlanRequest
  rw [decoded]
  have checked : (planning tasks).Behaves thread (fun _ later => later.1.engine.Steady)
      (validateBinding request.binding) world :=
    .of_all (fun later => later.1.engine.Steady) (fun relied before => relied_steady before relied)
      (fun action _ _ before _ => ⟨trivial, performed_steady action before⟩) (Program.All.all _) steady
  refine checked.bind fun status later steady => ?_
  cases status with
  | error reason => exact refuses_behaves (refuse_ends reason) later
  | ok =>
      dsimp only
      split
      · exact refuses_behaves (refuse_ends _) later
      · exact planSnapshot_behaves toJson named _ steady

/-- A handler of any frame answers for the snapshot of the frame, if it is a plan request. -/
theorem program_answersOwn {world : Coordinator storage × Unit} (steady : world.1.engine.Steady) :
    (planning tasks).Behaves thread (fun response later => AnswersOwn (tasks thread) response later.1)
      ((tasks thread).program toJson) world := by
  cases named : (tasks thread).planning with
  | none =>
      have behaves : (planning tasks).Behaves thread (fun _ _ => True)
          ((tasks thread).program toJson) world :=
        .of_all (fun _ => True) (fun _ _ => trivial) (fun _ _ _ _ _ => ⟨trivial, trivial⟩)
          (Program.All.all _)
          trivial
      refine behaves.mono fun response later _ request own reply other => ?_
      rw [named] at other
      cases other
  | some carried =>
      obtain ⟨request, own⟩ := carried
      have carries := named
      cases task : tasks thread with
      | stop =>
          rw [task] at named
          cases named
      | handle frame =>
          rw [task] at named
          obtain ⟨type, decoded, -⟩ := planning_eq_some named
          have handled : (planning tasks).Behaves thread (Responds request own)
              (dispatch toJson frame) world := by
            unfold dispatch
            rw [type]
            exact handlePlanRequest_behaves toJson carries decoded steady
          refine Discipline.Behaves.map some (handled.mono fun response later responds => ?_)
          intro other another reply same answered accepted
          rw [show (Task.handle frame).planning = some (request, own) from named] at same
          cases same
          cases answered
          obtain ⟨plan, found, generation, plannedOn, -⟩ := responds reply rfl accepted
          exact ⟨plan, found, generation, plannedOn⟩

end Handling

/-! All handlers. -/

variable [DecidableEq Thread] (toJson : Explanation → Text)

/-- The handler whose turn it is calls the solver only while the snapshot of its own request is live. -/
def ActsOnOwn (tasks : Thread → Task)
    (pool : Pool (Coordinator storage) Action Answer (Option Response) Thread)
    (turn : Thread) : Prop :=
  ∀ action next, pool.threads turn = .call action next → SolvesOwn (tasks turn) action pool.state

/-- Every request that is answered is answered for its own snapshot. -/
def AllAnswerOwn (tasks : Thread → Task)
    (pool : Pool (Coordinator storage) Action Answer (Option Response) Thread) : Prop :=
  ∀ thread response, pool.threads thread = .done response → AnswersOwn (tasks thread) response pool.state

/-- Plan requests are answered for their own snapshots in every order of their calls in which the solver is
called for each request while the snapshot of that request is the live one. -/
theorem plans_answer_own {coordinator : Coordinator storage} (reachable : Reachable toJson coordinator)
    {tasks : Thread → Task} {schedule : List Thread}
    (own : Runs.Along (Pool.step perform) (ActsOnOwn tasks) (handlers toJson coordinator tasks) schedule) :
    AllAnswerOwn tasks (Pool.run perform (handlers toJson coordinator tasks) schedule) := by
  have start : Discipline.Behaving (planning tasks)
      (fun thread response (later : Coordinator storage × Unit) => AnswersOwn
        (tasks thread) response later.1)
      (handlers toJson coordinator tasks, ()) :=
    fun _ => program_answersOwn toJson reachable.steady
  have along : Runs.Along (planning tasks).step (fun noted turn => ActsOnOwn tasks noted.1 turn)
      (handlers toJson coordinator tasks, ()) schedule := Discipline.along_fst.2 own
  have behaving := (start.run along).2
  have reached : ((planning tasks).run (handlers toJson coordinator tasks, ()) schedule).1 =
      Pool.run perform (handlers toJson coordinator tasks) schedule := Discipline.run_fst _ _
  rw [← reached]
  intro thread response done
  have behaves := behaving thread
  rw [done] at behaves
  exact behaves _ ((planning tasks).refl thread _)

/-! Requests of the planner. -/

theorem run_acceptPlan (plan : Plan) (coordinator : Coordinator storage) :
    ∃ reply, run perform (acceptPlan toJson plan) coordinator = (.plan reply, coordinator) ∧
      reply.code = WireCode.success ∧ reply.plan = plan.ref := ⟨_, rfl, rfl, rfl⟩

/-- The calls of a pipeline that goes through, one after the other. -/
theorem run_declarePlan {declared : DeclareRequest} {snapshot : FabricSnapshot} {outcome : SolveOutcome}
    {coordinator : Coordinator storage} (steady : coordinator.engine.Steady)
    (declarable : Engine.Declarable coordinator.engine declared)
    (detached : coordinator.engine.repository = none)
    (present : coordinator.engine.snapshot = some snapshot)
    (answerable : Engine.Answerable declared snapshot outcome) :
    ∃ reply after, run perform (declarePlan toJson declared) coordinator = (.plan reply, after) ∧
      reply.code = WireCode.success ∧ reply.plan.id = declared.planId ∧
      (∃ plan, after.engine.plans.find? declared.planId = some plan ∧
        plan.authority = coordinator.engine.live) ∧
      ∀ task, (∀ request own, task.planning = some (request, own) → canonicalize own = snapshot) →
        Met perform (SolvesOwn task) (declarePlan toJson declared) coordinator := by
  let engine := coordinator.engine
  let ref : PlanRef := (engine.declaredPlan declared).ref
  let first := (engine.declare declared).2
  let second := (first.validate ref).2
  have answered : (engine.declare declared).1 = .ok (engine.declaredPlan declared) :=
    (Engine.declare_succeeds declarable).1
  have found : first.plans.find? ref.id = some (engine.declaredPlan declared) := by
    show (engine.declare declared).2.plans.find? ref.id = _
    rw [Engine.declare_eq declarable]
    exact OrdMap.find?_insert_self _ _ _
  have alone : first.repository = none := by
    show (engine.declare declared).2.repository = none
    rw [(Engine.declare_others declarable).2.2, detached]
    exact Engine.appendEach_none _
  obtain ⟨solvable, -⟩ := Engine.declared_solvable steady declarable present answerable
  obtain ⟨proposed, made, answers⟩ := Engine.run_proposed found rfl rfl solvable
  obtain ⟨validated, solved⟩ := answers alone
  change (second.solve ref).1 = .ok proposed at solved
  have last : (second.solve ref).2.plans.find? ref.id = some proposed := made.replaces.found
  have key : proposed.id = declared.planId := made.binding.id
  let after : Coordinator storage := { coordinator with engine := (second.solve ref).2 }
  obtain ⟨reply, accepted, success, named⟩ := run_acceptPlan toJson proposed after
  refine ⟨reply, after, ?_, success, ?_, ⟨proposed, last, made.binding.authority⟩, ?_⟩
  · unfold declarePlan
    rw [run_call]
    dsimp only [perform, calling]
    rw [answered]
    dsimp only
    rw [run_call]
    dsimp only [perform, calling]
    rw [show ((engine.declare declared).2.validate (engine.declaredPlan declared).ref).1 =
      .ok () from validated]
    dsimp only
    rw [run_call]
    dsimp only [perform, calling]
    rw [show (((engine.declare declared).2.validate (engine.declaredPlan declared).ref).2.solve
      (engine.declaredPlan declared).ref).1 = .ok proposed from solved]
    exact accepted
  · rw [named]
    exact key
  · intro task owned
    have shown : second.snapshot = some snapshot := by
      have live := Engine.call_live first (.validate ref)
      cases live with
      | same kept => exact kept.trans solvable.present
    unfold declarePlan
    refine Met.act perform (solvesOwn_other (by intro ref same; cases same)) ?_
    rw [show (perform (.declare declared) coordinator).1 = .ok (engine.declaredPlan declared) from answered]
    refine Met.act perform (solvesOwn_other (by intro ref same; cases same)) ?_
    rw [show (perform (.validate ref) (perform (.declare declared) coordinator).2).1 =
      .ok () from validated]
    refine Met.act perform ?_ ?_
    · intro request own _ planned _
      rw [owned request own planned]
      exact shown
    rw [show (perform (.solve ref)
      (perform (.validate ref) (perform (.declare declared) coordinator).2).2).1 =
      .ok proposed from solved]
    refine Met.act perform (solvesOwn_other (by intro ref same; cases same)) ?_
    exact Met.act perform (solvesOwn_other (by intro ref same; cases same)) (Met.pure perform _ _)

/-- The planner asks for a plan on the snapshot. -/
def plannerRequest (id : PlanId) (snapshot : FabricSnapshot) : PlanRequest :=
  { binding := plannerBinding
    planId := id
    snapshot := encodeSnapshot snapshot }

def asking (id : PlanId) (snapshot : FabricSnapshot) : Task :=
  .handle (makeFrame .planRequest (plannerRequest id snapshot).encode)

/-- The frame is read as the request, and the snapshot as it is. -/
structure Read (id : PlanId) (snapshot : FabricSnapshot) : Prop where
  request : decodePlanRequest (plannerRequest id snapshot).encode = .ok (plannerRequest id snapshot)
  own : decodeSnapshot (encodeSnapshot snapshot) = .ok snapshot

theorem plannerBinding_readable : plannerBinding.Readable :=
  ⟨by decide +kernel, rfl, by decide +kernel, rfl⟩

theorem Read.of_accepted {id : PlanId} {snapshot : FabricSnapshot} (valid : id.valid = true)
    (accepted : Accepted snapshot) (within : snapshot.Transportable)
    (short : (encodeSnapshot snapshot).length ≤ Limits.maxFramePayload) : Read id snapshot where
  request := by
    have readable : (plannerRequest id snapshot).Readable :=
      { binding := plannerBinding_readable
        planId := valid
        snapshot := short
        incumbent := Nat.zero_le _
        incumbentRef := Or.inr rfl }
    generalize plannerRequest id snapshot = message at readable
    have yields := Wire.planRequest_yields readable
    unfold decodePlanRequest decodeStrict
    exact decodeWhole_of_yields yields _
  own := by
    obtain ⟨raw, same⟩ := accepted.canonical
    have fixed : canonicalize snapshot = snapshot := by rw [← same, canonicalize_idem]
    have carried := (snapshot_carried_iff accepted.valid).2 within
    rwa [fixed] at carried

theorem linkFabric_read {id : PlanId} (valid : id.valid = true) : Read id linkFabric :=
  Read.of_accepted valid linkFabric_accepted (by decide +kernel) (by decide +kernel)

theorem movedFabric_read {id : PlanId} (valid : id.valid = true) : Read id Engine.movedFabric :=
  Read.of_accepted valid Engine.movedFabric_accepted (by decide +kernel) (by decide +kernel)

theorem Read.planning {id : PlanId} {snapshot : FabricSnapshot} (read : Read id snapshot) :
    (asking id snapshot).planning = some (plannerRequest id snapshot, snapshot) := by
  show planningOf (makeFrame .planRequest (plannerRequest id snapshot).encode) = _
  unfold planningOf
  rw [show (makeFrame .planRequest (plannerRequest id snapshot).encode).type =
    MessageType.planRequest.code from rfl,
    MessageType.ofCode_code]
  dsimp only [makeFrame]
  rw [read.request]
  dsimp only [plannerRequest]
  rw [read.own]
  rfl

/-- The sections of a check are no calls of the solver. -/
theorem validateBinding_unsolving (binding : MutationBinding) :
    (validateBinding binding).All fun action => ∀ ref, action ≠ .solve ref := by
  refine .act (by intro ref same; cases same) fun stopping => ?_
  split
  · trivial
  split
  · trivial
  refine .act (by intro ref same; cases same) fun incarnation => ?_
  refine .act (by intro ref same; cases same) fun epoch => ?_
  split
  · trivial
  refine .act (by intro ref same; cases same) fun fenced => ?_
  split
  · trivial
  refine .act (by intro ref same; cases same) fun registered => ?_
  split <;> trivial

section Asking

variable {id : PlanId} {snapshot : FabricSnapshot}

/-- What is left of a request once its binding is checked. -/
def whenBound (id : PlanId) (snapshot : FabricSnapshot) (status : Status) : Handler (Option Response) :=
  (match status with
    | .error reason => refuse reason
    | .ok () => planSnapshot toJson (plannerRequest id snapshot) snapshot) >>=
    fun response => pure (some response)

/-- What is left of it once its snapshot is submitted. -/
def whenSubmitted (id : PlanId) (snapshot : FabricSnapshot) : Handler (Option Response) := do
  let tick ← act .epoch
  let response ← declarePlan toJson (declaredFor (plannerRequest id snapshot) tick)
  pure (some response)

theorem asking_program (read : Read id snapshot) : (asking id snapshot).program toJson =
    validateBinding plannerBinding >>= whenBound toJson id snapshot := by
  show (dispatch toJson (makeFrame .planRequest (plannerRequest id snapshot).encode) >>= fun response =>
    pure (some response)) = _
  rw [dispatch_planRequest toJson (show (makeFrame .planRequest (plannerRequest id snapshot).encode).type =
    MessageType.planRequest.code from rfl)]
  unfold handlePlanRequest
  dsimp only [makeFrame]
  rw [read.request]
  dsimp only
  rw [show decodeSnapshot (plannerRequest id snapshot).snapshot = .ok snapshot from read.own]
  exact Interleaving.bind_assoc _ _ _

theorem whenBound_ok (snapshot : FabricSnapshot) (valid : id.valid = true) :
    ∃ next, whenBound toJson id snapshot (.ok ()) = act (.submitSnapshot snapshot) >>= next ∧
      next (.ok ()) = whenSubmitted toJson id snapshot := by
  refine ⟨_, rfl, ?_⟩
  show ((if (!id.valid) = true then _ else _ : Handler Response) >>=
    fun response => pure (some response)) = _
  rw [if_neg (by simp [valid])]
  rfl

theorem run_whenSubmitted (coordinator : Coordinator storage) :
    run perform (whenSubmitted toJson id snapshot) coordinator =
      (some (run perform (declarePlan toJson (declaredFor (plannerRequest id snapshot) coordinator.epoch))
        coordinator).1, (run perform (declarePlan toJson
          (declaredFor (plannerRequest id snapshot) coordinator.epoch)) coordinator).2) := by
  unfold whenSubmitted
  rw [run_call, run_bind]
  rfl

/-- A handler that keeps the turn until its snapshot is submitted. -/
theorem asking_submits (read : Read id snapshot) (valid : id.valid = true) {thread : Thread}
    {pool : Pool (Coordinator storage) Action Answer (Option Response) Thread}
    (ready : pool.threads thread = (asking id snapshot).program toJson)
    (bound : Bound pool.state plannerBinding)
    {engine : Engine storage} (submitted : pool.state.engine.submitSnapshot snapshot = (.ok (), engine)) :
    ∃ schedule, Pool.run perform pool schedule =
      { state := { pool.state with engine := engine }
        threads := Function.update pool.threads thread (whenSubmitted toJson id snapshot) } := by
  obtain ⟨next, left, rest⟩ := whenBound_ok toJson snapshot valid
  obtain ⟨first, -, checked⟩ := Pool.advance perform (fun _ _ => True) (validateBinding plannerBinding)
    (ready.trans (asking_program toJson read))
  rw [run_validateBinding, (bindingStatus_eq_ok plannerBinding pool.state).2 bound] at checked
  have turned : (Pool.run perform pool first).threads thread = whenBound toJson id snapshot (.ok ()) := by
    rw [checked]
    exact Function.update_self _ _ _
  obtain ⟨second, -, reached⟩ := Pool.advance perform (fun _ _ => True) (act (.submitSnapshot snapshot))
    (turned.trans left)
  rw [checked] at reached
  refine ⟨first ++ second, ?_⟩
  rw [Pool.run_append, checked, reached]
  dsimp only
  rw [Function.update_idem]
  show Pool.mk { pool.state with engine := (pool.state.engine.submitSnapshot snapshot).2 }
    (Function.update pool.threads thread (next (pool.state.engine.submitSnapshot snapshot).1)) = _
  rw [submitted, rest]

theorem met_whenBound (valid : id.valid = true) {task : Task} {coordinator : Coordinator storage}
    {engine : Engine storage} (submitted : coordinator.engine.submitSnapshot snapshot = (.ok (), engine))
    (declaring : Met perform (SolvesOwn task) (whenSubmitted toJson id snapshot)
      { coordinator with engine := engine }) :
    Met perform (SolvesOwn task) (whenBound toJson id snapshot (.ok ())) coordinator := by
  obtain ⟨next, left, rest⟩ := whenBound_ok toJson snapshot valid
  rw [left]
  refine Met.act perform (solvesOwn_other (by intro ref same; cases same)) ?_
  rw [show perform (.submitSnapshot snapshot) coordinator =
    (.ok (), { coordinator with engine := engine }) from
    congrArg coordinator.calling submitted, rest]
  exact declaring

/-- A handler that has the coordinator for itself calls the solver on its own snapshot. -/
theorem met_asking (read : Read id snapshot) (valid : id.valid = true) {coordinator : Coordinator storage}
    (bound : Bound coordinator plannerBinding)
    {engine : Engine storage} (submitted : coordinator.engine.submitSnapshot snapshot = (.ok (), engine))
    (declaring : Met perform (SolvesOwn (asking id snapshot))
      (declarePlan toJson (declaredFor (plannerRequest id snapshot) coordinator.epoch))
      { coordinator with engine := engine }) :
    Met perform (SolvesOwn (asking id snapshot)) ((asking id snapshot).program toJson) coordinator := by
  rw [asking_program toJson read]
  refine Met.bind perform ?_ ?_
  · refine Met.of_all perform ?_ (validateBinding_unsolving plannerBinding) coordinator
    exact fun action state differs => solvesOwn_other differs
  rw [run_validateBinding, (bindingStatus_eq_ok plannerBinding coordinator).2 bound]
  refine met_whenBound toJson valid submitted
    (Met.act perform (solvesOwn_other (by intro ref same; cases same)) ?_)
  show Met perform _ (declarePlan toJson (declaredFor (plannerRequest id snapshot) coordinator.epoch) >>=
    fun response => pure (some response)) _
  exact Met.bind perform declaring (Met.pure perform _ _)

theorem run_asking (read : Read id snapshot) (valid : id.valid = true) {coordinator : Coordinator storage}
    (bound : Bound coordinator plannerBinding)
    {engine : Engine storage} (submitted : coordinator.engine.submitSnapshot snapshot = (.ok (), engine)) :
    run perform ((asking id snapshot).program toJson) coordinator =
      run perform (whenSubmitted toJson id snapshot) { coordinator with engine := engine } := by
  obtain ⟨next, left, rest⟩ := whenBound_ok toJson snapshot valid
  rw [asking_program toJson read, run_bind, run_validateBinding,
    (bindingStatus_eq_ok plannerBinding coordinator).2 bound]
  dsimp only
  rw [left, run_call]
  rw [show perform (.submitSnapshot snapshot) coordinator =
    (.ok (), { coordinator with engine := engine }) from
    congrArg coordinator.calling submitted, rest]

end Asking

/-! One request, and one that is overtaken. -/

/-- An engine without plans has nothing to demote. -/
theorem submitSnapshot_fresh {id : PlanId} {snapshot : FabricSnapshot} (read : Read id snapshot)
    {engine : Engine storage} (empty : engine.plans = OrdMap.empty) :
    engine.submitSnapshot snapshot = (.ok (), engine.withSnapshot snapshot) := by
  obtain ⟨canonical, structural, -, -⟩ := decodeSnapshot_strict read.own
  rw [Engine.submitSnapshot_eq canonical structural, empty]
  rfl

/-- Where the one-link fabric is live, the planner's request for it goes through. -/
theorem run_linkSubmitted {id : PlanId} (valid : id.valid = true) (snapshot : FabricSnapshot)
    {coordinator : Coordinator storage} (live : coordinator.engine = Engine.linkEngine none) :
    ∃ reply after, run perform (whenSubmitted toJson id snapshot) coordinator =
      (some (.plan reply), after) ∧
      reply.code = WireCode.success ∧ reply.plan.id = id ∧
      (∃ plan, after.engine.plans.find? id = some plan ∧ plan.authority = authorityOf linkFabric) ∧
      ∀ task, (∀ request own, task.planning = some (request, own) → canonicalize own = linkFabric) →
        Met perform (SolvesOwn task)
          (declarePlan toJson (declaredFor (plannerRequest id snapshot) coordinator.epoch))
            coordinator := by
  obtain ⟨engine, same⟩ : ∃ engine, Engine.linkEngine (none : Option storage.Repository) =
    engine := ⟨_, rfl⟩
  have steady := Engine.linkEngine_steady (none : Option storage.Repository)
  have accepting : Engine.Accepting (none : Option storage.Repository) 1 := Engine.accepting_none 1
  have declarable := Engine.linkRequest_first valid accepting
  have answerable := Engine.linkRequest_answerable id
  have shown := Engine.linkEngine_eq (none : Option storage.Repository)
  rw [same] at steady declarable shown live
  have detached : coordinator.engine.repository = none := by
    rw [live, shown]
    rfl
  have present : coordinator.engine.snapshot = some linkFabric := by
    rw [live, shown]
    rfl
  have bound : coordinator.engine.live = authorityOf linkFabric := by
    rw [live, shown]
    rfl
  rw [← live] at steady declarable
  let declared := declaredFor (plannerRequest id snapshot) coordinator.epoch
  have written : (coordinator.engine.persist (coordinator.engine.declaredPlan declared)).1 = .ok () := by
    unfold Engine.persist
    rw [detached]
  have declares : Engine.Declarable coordinator.engine declared :=
    ⟨declarable.live, valid, ⟨rfl, rfl⟩, ⟨rfl, rfl⟩, declarable.configured, declarable.room,
      declarable.absent,
      written⟩
  have answers : Engine.Answerable declared linkFabric (Engine.linkOutcome {}) :=
    ⟨answerable.answered, answerable.feasible, answerable.verified, answerable.moves⟩
  obtain ⟨reply, after, ran, success, named, ⟨plan, found, authority⟩, met⟩ :=
    run_declarePlan toJson steady declares detached present answers
  refine ⟨reply, after, ?_, success, named, ⟨plan, found, authority.trans bound⟩, met⟩
  rw [run_whenSubmitted, ran]

/-- A request for the one-link fabric that has a fresh coordinator for itself. -/
theorem asking_linkFabric {id : PlanId} {snapshot : FabricSnapshot} (link : linkFabric = snapshot)
    (read : Read id snapshot) (valid : id.valid = true) {coordinator : Coordinator storage}
    (bound : Bound coordinator plannerBinding) (fresh : coordinator.engine = Engine.new {}) :
    (∃ reply, (run perform ((asking id snapshot).program toJson) coordinator).1 = some (.plan reply) ∧
      reply.code = WireCode.success) ∧
    Met perform (SolvesOwn (asking id snapshot)) ((asking id snapshot).program toJson) coordinator := by
  have empty : coordinator.engine.plans = OrdMap.empty := by
    rw [fresh]
    rfl
  obtain ⟨engine, same⟩ : ∃ engine, Engine.linkEngine (none : Option storage.Repository) =
    engine := ⟨_, rfl⟩
  have accepted : coordinator.engine.submitSnapshot snapshot = (.ok (), engine) := by
    rw [submitSnapshot_fresh read empty, ← same, Engine.linkEngine_eq, fresh, link]
    rfl
  have live : ({ coordinator with engine := engine } : Coordinator storage).engine =
    Engine.linkEngine none := same.symm
  obtain ⟨reply, after, ran, success, -, -, met⟩ := run_linkSubmitted toJson valid snapshot live
  have owned : ∀ request own, (asking id snapshot).planning = some (request, own) →
      canonicalize own = linkFabric := by
    intro request own planned
    rw [read.planning, Option.some.injEq, Prod.mk.injEq] at planned
    rw [← planned.2, link]
    exact (decodeSnapshot_strict read.own).1
  refine ⟨⟨reply, ?_, success⟩, met_asking toJson read valid bound accepted (met _ owned)⟩
  rw [run_asking toJson read valid bound accepted, ran]

/-- The planner's request by itself. -/
def askingAlone (_ : Unit) : Task := asking (named "plan-1") linkFabric

theorem plans_answer_own_alone : ∃ schedule reply,
    AllAnswerOwn askingAlone
      (Pool.run perform (handlers (fun _ => []) (plannerStarted durable) askingAlone) schedule) ∧
    (Pool.run perform (handlers (fun _ => []) (plannerStarted durable) askingAlone) schedule).threads () =
      .done (some (.plan reply)) ∧ reply.code = WireCode.success := by
  let toJson : Explanation → Text := fun _ => []
  have read : Read (named "plan-1") linkFabric := linkFabric_read (by decide +kernel)
  obtain ⟨⟨reply, answered, success⟩, met⟩ := asking_linkFabric toJson rfl read rfl plannerStarted_bound rfl
  obtain ⟨schedule, along, reached⟩ := Pool.alone perform (SolvesOwn (asking (named "plan-1") linkFabric))
    ((asking (named "plan-1") linkFabric).program toJson)
    (show (handlers toJson (plannerStarted durable) askingAlone).threads () = _ from rfl)
  refine ⟨schedule, reply, plans_answer_own toJson (plannerStarted_serves []) (along met), ?_, success⟩
  rw [reached]
  dsimp only
  rw [Function.update_self]
  exact congrArg Program.done answered

/-- Where a second snapshot is submitted before the first plan is declared, the first request is answered
with a plan for the snapshot of the second. -/
theorem overtaken_answers_another {first second : PlanId} {moved link : FabricSnapshot}
    (same : linkFabric = link)
    (movedRead : Read first moved) (linkRead : Read second link)
    (valid : first.valid = true ∧ second.valid = true)
    (differs : authorityOf moved ≠ authorityOf linkFabric) {coordinator : Coordinator storage}
    (bound : Bound coordinator plannerBinding) (fresh : coordinator.engine = Engine.new {})
    {tasks : Bool → Task}
    (asks : tasks false = asking first moved ∧ tasks true = asking second link) :
    ∃ schedule, ¬ AllAnswerOwn tasks (Pool.run perform (handlers toJson coordinator tasks) schedule) := by
  let pool := handlers toJson coordinator tasks
  have empty : coordinator.engine.plans = OrdMap.empty := by
    rw [fresh]
    rfl
  obtain ⟨start, submitted⟩ := asking_submits toJson movedRead valid.1
    (show pool.threads false = _ by rw [← asks.1]; rfl) bound (submitSnapshot_fresh movedRead empty)
  let overtaken : Pool (Coordinator storage) Action Answer (Option Response) Bool :=
    { state := { coordinator with engine := coordinator.engine.withSnapshot moved }
      threads := Function.update pool.threads false (whenSubmitted toJson first moved) }
  have still : Bound overtaken.state plannerBinding :=
    ⟨bound.running, bound.valid, bound.incarnation, bound.epoch, bound.free, bound.registered⟩
  have waiting : overtaken.threads true = (asking second link).program toJson := by
    show Function.update pool.threads false (whenSubmitted toJson first moved) true = _
    rw [Function.update_of_ne (Ne.symm Bool.false_ne_true), ← asks.2]
    rfl
  obtain ⟨passed, reached⟩ :=
    asking_submits toJson linkRead valid.2 waiting still (submitSnapshot_fresh linkRead empty)
  -- What the first request finds is the snapshot of the second.
  let found : Pool (Coordinator storage) Action Answer (Option Response) Bool :=
    { state := { overtaken.state with engine := overtaken.state.engine.withSnapshot link }
      threads := Function.update overtaken.threads true (whenSubmitted toJson second link) }
  have left : found.threads false = whenSubmitted toJson first moved := by
    show Function.update overtaken.threads true (whenSubmitted toJson second link) false = _
    rw [Function.update_of_ne Bool.false_ne_true]
    show Function.update pool.threads false (whenSubmitted toJson first moved) false = _
    rw [Function.update_self]
  have live : found.state.engine = Engine.linkEngine none := by
    show (coordinator.engine.withSnapshot moved).withSnapshot link = _
    rw [Engine.linkEngine_eq, fresh, same]
    rfl
  obtain ⟨reply, after, ran, success, named, ⟨plan, held, authority⟩, -⟩ :=
    run_linkSubmitted toJson valid.1 moved live
  obtain ⟨last, -, ended⟩ := Pool.alone perform (fun _ _ => True) (whenSubmitted toJson first moved) left
  refine ⟨start ++ passed ++ last, ?_⟩
  have whole : Pool.run perform pool (start ++ passed ++ last) = Pool.run perform found last := by
    rw [Pool.run_append, Pool.run_append, submitted]
    exact congrArg (fun between => Pool.run perform between last) reached
  rw [whole, ended, ran]
  intro answers
  have done : Function.update found.threads false (.done (some (.plan reply))) false =
      .done (some (.plan reply)) := by
    rw [Function.update_self]
  have asked : (tasks false).planning = some (plannerRequest first moved, moved) := by
    rw [asks.1, movedRead.planning]
  obtain ⟨answered, present, -, own⟩ := answers false _ done _ moved reply asked rfl success
  change after.engine.plans.find? reply.plan.id = some answered at present
  rw [named, held, Option.some.injEq] at present
  subst present
  have canonical := (decodeSnapshot_strict movedRead.own).1
  rw [← authority, own.authority, canonical] at differs
  exact differs rfl

/-- The planner asks for two plans at the same time, on different snapshots. -/
def overtaking : Bool → Task
  | false => asking (named "plan-1") Engine.movedFabric
  | true => asking (named "plan-2") linkFabric

theorem overtaken_plan_answers_another :
    Reachable (fun _ => []) (plannerStarted durable) ∧ ∃ schedule,
      ¬ AllAnswerOwn overtaking
        (Pool.run perform (handlers (fun _ => []) (plannerStarted durable) overtaking) schedule) := by
  refine ⟨plannerStarted_serves [], ?_⟩
  have differs : authorityOf Engine.movedFabric ≠ authorityOf linkFabric := by
    intro same
    have topology : Engine.movedFabric.topologyGeneration = linkFabric.topologyGeneration :=
      congrArg AuthorityVector.topologyGeneration same
    cases topology
  exact overtaken_answers_another (fun _ => []) rfl (movedFabric_read (by decide +kernel))
    (linkFabric_read (by decide +kernel)) ⟨rfl, rfl⟩ differs plannerStarted_bound rfl ⟨rfl, rfl⟩

end Coordinator

end TrafficFabric
