import TrafficFabric.Settlements

set_option autoImplicit false

/- Commits that are answered. A request that is told of a commit is told what is true of the engine from
then on. -/
namespace TrafficFabric

open Interleaving (Pool Program Discipline)
open PlanStateMachine (isLive)

/-- A commit that is asked for is named. -/
theorem decodeCommitRequest_named {payload : List UInt8} {request : CommitRequest}
    (decoded : decodeCommitRequest payload = .ok request) : request.commit.valid = true := by
  have name : Gives (Wire.readId : Decoding CommitId) fun id => id.valid = true :=
    Gives.after fun _ => (parsed_gives _ _ _).mono fun _ found => valid_of_parse found
  have gives : Gives Wire.readCommitRequest fun request => request.commit.valid = true :=
    Gives.after fun _ => Gives.after fun _ => name.bind fun _ valid => Gives.after fun _ => Gives.pure valid
  unfold decodeCommitRequest decodeStrict decodeWhole at decoded
  split at decoded
  · cases decoded
  · rename_i value rest read
    split at decoded
    · cases decoded
      exact gives _ _ read
    · cases decoded

namespace Engine

variable {storage : Storage} {engine : Engine storage}

theorem revalidateBound_refuses {plan value : Plan} {stage : Text} {answer : Result Plan × Engine storage}
    (answered : engine.revalidateBound plan stage = some answer) : answer.1 ≠ .ok value := by
  intro success
  unfold revalidateBound at answered
  dsimp only at answered
  split at answered
  · cases answered
    cases record_answer success
  split at answered
  · cases answered
    cases record_answer success
  · cases answered

theorem answerAfter_ok {α : Type} {written : Status} {answer : Result α} {value : α}
    (success : answerAfter written answer = .ok value) : answer = .ok value := by
  unfold answerAfter at success
  split at success
  · cases success
  · exact success

/-- The commit goes through where the plan is committed in memory. -/
theorem applyCommit_ok {plan committed : Plan} {intent : CommitIntent}
    (answered : (engine.applyCommit plan intent).1 = .ok committed) :
    (engine.applyCommit plan intent).2.plans.find? plan.id = some committed ∧ committed.id = plan.id ∧
      committed.state = .committed ∧ committed.commit = intent.commit ∧
      committed.commitGeneration = intent.commitGeneration := by
  unfold applyCommit at answered ⊢
  dsimp only at answered ⊢
  split at answered
  · rw [record_write] at answered ⊢
    cases answerAfter_ok answered
    exact ⟨OrdMap.find?_insert_self _ _ _, rfl, rfl, rfl, rfl⟩
  · rw [recordBoth_write] at answered ⊢
    cases answerAfter_ok answered
    exact ⟨OrdMap.find?_insert_self _ _ _, rfl, rfl, rfl, rfl⟩

/-- A commit that succeeds leaves the plan committed for the commit that was asked for. -/
theorem commit_ok (keyed : Keyed engine.plans) {ref : PlanRef} {intent : CommitIntent} {plan : Plan}
    (answered : (engine.commit ref intent).1 = .ok plan) :
    (engine.commit ref intent).2.plans.find? ref.id = some plan ∧ plan.id = ref.id ∧
      plan.state = .committed ∧
      plan.commit = intent.commit ∧ plan.commitGeneration = intent.commitGeneration ∧
      intent.commit.valid = true := by
  unfold commit at answered ⊢
  cases found : engine.plans.find? ref.id with
  | none =>
      rw [found] at answered
      cases answered
  | some held =>
      rw [found] at answered
      dsimp only at answered ⊢
      have key := keyed _ held found
      split at answered
      · cases answered
      rename_i current
      rw [if_neg current]
      split at answered
      · cases answered
      rename_i named
      rw [if_neg named]
      have valid : intent.commit.valid = true := by
        simp only [Bool.or_eq_true, Bool.not_eq_true', not_or, Bool.not_eq_false] at named
        exact named.1
      split at answered
      · rename_i committed
        split at answered
        · rename_i same
          cases answered
          rw [if_pos committed, if_pos same]
          exact ⟨found, key, committed, same.1, same.2, valid⟩
        · cases answered
      rename_i uncommitted
      rw [if_neg uncommitted]
      split at answered
      · cases answered
      rename_i edge
      rw [if_neg edge]
      split at answered
      · cases answered
      rename_i live
      rw [if_neg live]
      cases bound : engine.revalidateBound held (text "commit") with
      | some answer =>
          rw [bound] at answered
          exact absurd answered (revalidateBound_refuses bound)
      | none =>
          rw [bound] at answered
          dsimp only at answered ⊢
          split at answered
          · cases record_answer answered
          rename_i verified
          rw [if_neg verified]
          obtain ⟨present, same, committed, commit, generation⟩ := applyCommit_ok answered
          rw [key] at present
          exact ⟨present, same.trans key, committed, commit, generation, valid⟩

theorem get_found {ref : PlanRef} {plan : Plan} (found : engine.get ref = some plan) :
    engine.plans.find? ref.id = some plan := by
  unfold get at found
  split at found
  · cases found
  · rename_i held there
    split at found
    · cases found
    · cases found
      exact there

end Engine

namespace Coordinator

open Engine (Abides Steady)

/-! Requests and their answers. -/

/-- The commit that a frame asks for. -/
def committingOf (frame : Frame) : Option CommitRequest :=
  match ofCode MessageType.all MessageType.code frame.type with
  | some .commitRequest => (decodeCommitRequest frame.payload).toOption
  | _ => none

theorem committingOf_some {frame : Frame} {request : CommitRequest}
    (asked : committingOf frame = some request) :
    ofCode MessageType.all MessageType.code frame.type = some .commitRequest ∧
      decodeCommitRequest frame.payload = .ok request := by
  unfold committingOf at asked
  split at asked
  · rename_i type
    cases decoded : decodeCommitRequest frame.payload with
    | error reason =>
        rw [decoded] at asked
        cases asked
    | ok carried =>
        rw [decoded] at asked
        cases asked
        exact ⟨type, rfl⟩
  · cases asked

def Task.committing : Task → Option CommitRequest
  | .handle frame => committingOf frame
  | .stop => none

/-- What a request is told when its plan is committed. -/
def CommitRequest.told (request : CommitRequest) (reply : CommitResponse) : Settlement where
  plan := reply.plan
  commit := request.commit
  commitGeneration := request.commitGeneration

section Handling

variable {storage : Storage} {Thread : Type} {thread : Thread} {request : CommitRequest}
  {origin : OrdMap PlanId Plan}

/-- The plan was committed so, and if it was held from the beginning, then it was already committed so. -/
structure Effected (origin : OrdMap PlanId Plan) (settlement : Settlement) (engine : Engine storage) :
    Prop where
  held : ∃ plan, engine.plans.find? settlement.plan.id = some plan ∧ isLive plan.state = false ∧
    plan.settlement = settlement
  origin : ∀ first, origin.find? settlement.plan.id = some first →
    first.state = .committed ∧ first.settlement = settlement

theorem Effected.run {settlement : Settlement} {engine : Engine storage} (steady : engine.Steady)
    (concluded : Effected origin settlement engine) (history : List (Engine.Operation storage)) :
    Effected origin settlement (engine.run history) := by
  obtain ⟨plan, found, idle, same⟩ := concluded.held
  obtain ⟨later, present, abides⟩ := Engine.run_abides steady history found idle
  exact ⟨⟨later, present, abides.idle, abides.settlement.trans same⟩, concluded.origin⟩

/-- The plans of the beginning are where they have come to. -/
structure Since (origin : OrdMap PlanId Plan) (engine : Engine storage) : Prop where
  steady : engine.Steady
  origin : ∀ id first, origin.find? id = some first → ∃ plan, engine.plans.find? id =
    some plan ∧ Abides first plan

theorem Since.run {engine : Engine storage} (since : Since origin engine)
    (history : List (Engine.Operation storage)) : Since origin (engine.run history) := by
  refine ⟨since.steady.run history, fun id first there => ?_⟩
  obtain ⟨plan, found, before⟩ := since.origin id first there
  obtain ⟨later, present, after⟩ := Engine.run_abides since.steady history found before.idle
  exact ⟨later, present, before.trans after⟩

/-- A plan that is found committed for the commit of the request. -/
theorem Since.concluded {engine : Engine storage} (since : Since origin engine) {plan : Plan}
    (found : engine.plans.find? plan.id = some plan) (committed : plan.state = .committed)
    (valid : request.commit.valid = true) (commit : plan.commit = request.commit)
    (generation : plan.commitGeneration = request.commitGeneration) {reply : CommitResponse}
    (named : reply.plan = plan.ref) : Effected origin (CommitRequest.told request reply) engine := by
  have settlement : plan.settlement = CommitRequest.told request reply := by
    unfold Plan.settlement CommitRequest.told
    rw [named, commit, generation, if_pos valid]
  have key : (CommitRequest.told request reply).plan.id = plan.id := congrArg Ref.id named
  refine ⟨⟨plan, by rw [key]; exact found, by rw [committed]; rfl, settlement⟩, fun first there => ?_⟩
  rw [key] at there
  obtain ⟨held, present, abides⟩ := since.origin plan.id first there
  rw [found, Option.some.injEq] at present
  subst present
  exact ⟨abides.committed committed, abides.settlement.symm.trans settlement⟩

/-- The engine is only called. -/
def Calls (world later : Coordinator storage × Unit) : Prop :=
  ∃ history, later.1.engine = world.1.engine.run history

theorem Calls.refl (world : Coordinator storage × Unit) : Calls world world := ⟨[], rfl⟩

theorem Calls.trans {first second third : Coordinator storage × Unit} (before : Calls first second)
    (after : Calls second third) : Calls first third := by
  obtain ⟨before, same⟩ := before
  obtain ⟨after, moved⟩ := after
  refine ⟨before ++ after, ?_⟩
  rw [moved, same]
  exact List.foldl_append.symm

theorem perform_calls (action : Action) (world : Coordinator storage × Unit) :
    Calls world ((perform action world.1).2, world.2) := perform_history action world.1

def heeding : Discipline (@perform storage) Thread Unit where
  note _ _ _ notes := notes
  meets _ _ _ := True
  permitted _ _ _ := True
  rely _ := Calls
  refl _ := Calls.refl
  trans := Calls.trans
  respects _ _ := perform_calls _ _

/-- An answer of success is true of the engine. -/
def Tells (origin : OrdMap PlanId Plan) (request : CommitRequest) (response : Response)
    (world : Coordinator storage × Unit) : Prop :=
  ∀ reply, response = .commit reply → reply.code = WireCode.success →
    Effected origin (CommitRequest.told request reply) world.1.engine

/-- An answer that tells of no commit. -/
def Response.Fails (response : Response) : Prop :=
  ∀ reply, response = .commit reply → reply.code ≠ WireCode.success

variable {world : Coordinator storage × Unit}

theorem Since.later {later : Coordinator storage × Unit} (since : Since origin world.1.engine)
    (relied : (@heeding storage Thread).rely thread world later) : Since origin later.1.engine := by
  obtain ⟨history, same⟩ := relied
  rw [same]
  exact since.run history

theorem Since.perform {coordinator : Coordinator storage} (since : Since origin coordinator.engine)
    (action : Action) : Since origin (perform action coordinator).2.engine := by
  obtain ⟨history, same⟩ := perform_history action coordinator
  rw [same]
  exact since.run history

theorem fails_behaves {program : Handler Response} (ends : program.Ends Response.Fails)
    (world : Coordinator storage × Unit) :
    heeding.Behaves thread (Tells origin request) program world :=
  (Discipline.Behaves.of_ends (fun _ _ => trivial) ends world).mono
    fun _ _ fails reply same success => absurd success (fails reply same)

theorem concluded_behaves {reply : CommitResponse} (steady : world.1.engine.Steady)
    (concluded : Effected origin (CommitRequest.told request reply) world.1.engine) :
    heeding.Behaves thread (Tells origin request) (pure (.commit reply)) world := by
  refine .pure fun later relied => ?_
  obtain ⟨history, same⟩ := relied
  intro other equal _
  cases equal
  rw [same]
  exact concluded.run steady history

theorem failure_fails (reason : Error) {reply : CommitResponse} (code : reply.code = reason.code.code) :
    (Response.commit reply).Fails := by
  intro other same
  cases same
  rw [code]
  exact ErrorCode.code_ne reason.code

theorem commitPlan_behaves (valid : request.commit.valid = true) (since : Since origin world.1.engine) :
    heeding.Behaves thread (Tells origin request) (commitPlan request) world := by
  refine .act fun first left _ => ⟨trivial, .act fun second moved _ => ⟨trivial, ?_⟩⟩
  have since := (since.later left).later moved
  generalize (perform .epoch first.1).1 = tick
  obtain ⟨intent, made⟩ : ∃ intent : CommitIntent, intent =
      ⟨request.commit, request.commitGeneration, tick⟩ :=
    ⟨_, rfl⟩
  have later := since.perform (.commit request.plan intent)
  rw [← made]
  cases answered : (second.1.engine.commit request.plan intent).1 with
  | error reason =>
      rw [show (perform (.commit request.plan intent) second.1).1 = .error reason from answered]
      refine fails_behaves ?_ _
      intro found
      cases found <;> exact failure_fails reason rfl
  | ok plan =>
      rw [show (perform (.commit request.plan intent) second.1).1 = .ok plan from answered]
      obtain ⟨found, key, committed, commit, generation, -⟩ :=
        Engine.commit_ok since.steady.sound.keyed answered
      rw [made] at commit generation
      rw [← key] at found
      exact concluded_behaves later.steady (later.concluded found committed valid commit generation rfl)

theorem authorizePlan_behaves (valid : request.commit.valid = true) (plan : Plan)
    (since : Since origin world.1.engine) :
    heeding.Behaves thread (Tells origin request) (authorizePlan request plan) world := by
  refine .act fun first left _ => ⟨trivial, ?_⟩
  have later := (since.later left).perform (.authorize plan.ref)
  cases (perform (.authorize plan.ref) first.1).1 with
  | error reason =>
      refine fails_behaves ?_ _
      intro found
      cases found <;> exact failure_fails reason rfl
  | ok authorized => exact commitPlan_behaves valid later

theorem processCommit_behaves (valid : request.commit.valid = true) (since : Since origin world.1.engine) :
    heeding.Behaves thread (Tells origin request) (processCommit request) world := by
  refine .act fun first left _ => ⟨trivial, ?_⟩
  have since := since.later left
  have held : (perform (.get request.plan) first.1).1 = first.1.engine.get request.plan := rfl
  rw [held]
  cases replayed : (first.1.engine.get request.plan).filter fun plan => Replays request plan with
  | some plan =>
      obtain ⟨found, replays⟩ := Option.filter_eq_some_iff.1 replayed
      obtain ⟨committed, commit, generation⟩ := of_decide_eq_true replays
      have there := Engine.get_found found
      rw [← since.steady.sound.keyed _ plan there] at there
      exact concluded_behaves since.steady (since.concluded there committed valid commit generation rfl)
  | none =>
      refine .act fun second moved _ => ⟨trivial, ?_⟩
      have since := since.later moved
      cases (perform (.get request.plan) second.1).1 with
      | none =>
          refine fails_behaves ?_ _
          exact failure_fails ⟨.notFound, []⟩ rfl
      | some plan =>
          dsimp only
          split
          · exact authorizePlan_behaves valid plan since
          · exact commitPlan_behaves valid since

theorem handleCommitRequest_behaves {payload : List UInt8}
    (decoded : decodeCommitRequest payload = .ok request)
    (since : Since origin world.1.engine) :
    heeding.Behaves thread (Tells origin request) (handleCommitRequest payload) world := by
  unfold handleCommitRequest
  rw [decoded]
  have checked : heeding.Behaves thread (fun _ later => Since origin later.1.engine)
      (validateBinding request.binding) world :=
    .of_all (fun later => Since origin later.1.engine) (fun relied since => since.later relied)
      (fun action _ _ since _ => ⟨trivial, since.perform action⟩) (Program.All.all _) since
  refine checked.bind fun status later since => ?_
  cases status with
  | error reason =>
      refine fails_behaves ?_ later
      exact failure_fails reason rfl
  | ok => exact processCommit_behaves (decodeCommitRequest_named decoded) since

/-- What a thread tells when it is done. -/
def TellsTruly (origin : OrdMap PlanId Plan) (task : Task) (value : Option Response)
    (world : Coordinator storage × Unit) : Prop :=
  ∀ request response, task.committing = some request → value = some response →
    Tells origin request response world

theorem program_tells (toJson : Explanation → Text) {task : Task} (since : Since origin world.1.engine) :
    heeding.Behaves thread (TellsTruly origin task) (task.program toJson) world := by
  cases asked : task.committing with
  | none =>
      have silent : heeding.Behaves thread (fun _ _ => True) (task.program toJson) world :=
        .of_all (fun _ => True) (fun _ _ => trivial) (fun _ _ _ _ _ => ⟨trivial, trivial⟩)
          (Program.All.all _)
          trivial
      refine silent.mono fun value later _ request response other => ?_
      rw [asked] at other
      cases other
  | some request =>
      cases task with
      | stop => cases asked
      | handle frame =>
          obtain ⟨type, decoded⟩ := committingOf_some asked
          have handled : heeding.Behaves thread (Tells origin request) (dispatch toJson frame) world := by
            unfold dispatch
            rw [type]
            exact handleCommitRequest_behaves decoded since
          refine Discipline.Behaves.map some (handled.mono fun response later tells => ?_)
          intro other answer same equal
          rw [asked] at same
          cases same
          cases equal
          exact tells

end Handling

end Coordinator

end TrafficFabric
