import TrafficFabric.CoordinatorRuns
import TrafficFabric.Lib.Disciplines

set_option autoImplicit false

/- What a handler does to the engine on behalf of a boot. The boot is looked up once, before the first call
of the engine. -/
namespace TrafficFabric

open Interleaving (Pool Program run Discipline)

namespace Coordinator

/-- The calls by which a handler changes the engine. -/
def Action.Mutates : Action → Prop
  | .submitSnapshot _ | .declare _ | .validate _ | .solve _ | .authorize _ | .commit _ _ | .supersede _ _
  | .retire _ => True
  | _ => False

/-- The sections of a binding's check and of a registration. -/
def Action.Registry : Action → Prop
  | .isFenced _ _ | .addFence _ | .register _ _ => True
  | _ => False

/-- The binding that a frame carries. -/
def bindingOf (frame : Frame) : Option MutationBinding :=
  match ofCode MessageType.all MessageType.code frame.type with
  | some .planRequest => (decodePlanRequest frame.payload).toOption.map PlanRequest.binding
  | some .commitRequest => (decodeCommitRequest frame.payload).toOption.map CommitRequest.binding
  | some .supersedeRequest => (decodeSupersedeRequest frame.payload).toOption.map SupersedeRequest.binding
  | some .retireRequest => (decodeRetireRequest frame.payload).toOption.map RetireRequest.binding
  | _ => none

def Task.binding : Task → Option MutationBinding
  | .handle frame => bindingOf frame
  | .stop => none

/-! What a handler does once its binding is checked. -/

section Handlers

variable (toJson : Explanation → Text)

/-- The calls of the engine, and the loads of the members that never change. -/
def Action.Plain (action : Action) : Prop := ¬ action.Registry

theorem refuse_plain (reason : Error) : (refuse reason).All Action.Plain := trivial

theorem refusePlan_plain (reason : Error) (ref : PlanRef) : (refusePlan reason ref).All Action.Plain := by
  refine .act id fun current => ?_
  cases current with
  | none => trivial
  | some plan => trivial

theorem acceptPlan_plain (plan : Plan) : (acceptPlan toJson plan).All Action.Plain :=
  .act id fun _ => .act id fun _ => trivial

theorem declarePlan_plain (request : DeclareRequest) : (declarePlan toJson request).All Action.Plain := by
  refine .act id fun declared => ?_
  cases declared with
  | error reason => exact refuse_plain reason
  | ok plan =>
      refine .act id fun validated => ?_
      cases validated with
      | error reason => exact refusePlan_plain reason plan.ref
      | ok =>
          refine .act id fun solved => ?_
          cases solved with
          | error reason => exact refusePlan_plain reason plan.ref
          | ok solved => exact acceptPlan_plain toJson solved

theorem planSnapshot_plain (request : PlanRequest) (snapshot : FabricSnapshot) :
    (planSnapshot toJson request snapshot).All Action.Plain := by
  refine .act id fun submitted => ?_
  cases submitted with
  | error reason => exact refuse_plain reason
  | ok =>
      dsimp only
      split
      · exact refuse_plain _
      refine .act id fun tick => ?_
      cases declareRequest request tick with
      | error reason => exact refuse_plain reason
      | ok declare => exact declarePlan_plain toJson declare

theorem commitPlan_plain (request : CommitRequest) : (commitPlan request).All Action.Plain := by
  refine .act id fun epoch => .act id fun committed => ?_
  cases committed with
  | ok plan => trivial
  | error reason =>
      refine .act id fun refreshed => ?_
      cases refreshed with
      | none => trivial
      | some plan => trivial

theorem authorizePlan_plain (request : CommitRequest) (plan : Plan) :
    (authorizePlan request plan).All Action.Plain := by
  refine .act id fun authorized => ?_
  cases authorized with
  | ok => exact commitPlan_plain request
  | error reason =>
      refine .act id fun refreshed => ?_
      cases refreshed with
      | none => trivial
      | some plan => trivial

theorem processCommit_plain (request : CommitRequest) : (processCommit request).All Action.Plain := by
  refine .act id fun existing => ?_
  dsimp only
  split
  · trivial
  refine .act id fun held => ?_
  cases held with
  | none => trivial
  | some plan =>
      dsimp only
      split
      · exact authorizePlan_plain request plan
      · exact commitPlan_plain request

end Handlers

/-! The check of a binding, and what the others do meanwhile. -/

section Checks

variable {storage : Storage} {Thread : Type} [DecidableEq Thread]

/-- The publisher and the boot a handler has begun to check, as long as that boot was not fenced and no
other boot of its publisher was registered since. -/
abbrev Checks (Thread : Type) := Thread → Option (PublisherId × BootId)

def noteCheck (thread : Thread) (action : Action) (_ : Coordinator storage) (checks : Checks Thread) :
    Checks Thread :=
  match action with
  | .isFenced publisher boot => Function.update checks thread (some (publisher, boot))
  | .addFence fence => fun other => (checks other).filter fun held =>
      decide (held ≠ (fence.publisher, fence.boot))
  | .register publisher boot => fun other => (checks other).filter fun held =>
      decide (held.1 = publisher → held.2 = boot)
  | _ => checks

/-- No replacement of the boot fell between its check and the call. -/
def Unreplaced (thread : Thread) (action : Action) (world : Coordinator storage × Checks Thread) : Prop :=
  action.Mutates → (world.2 thread).isSome = true

/-- A call that changes the engine is made for a boot that is registered and not fenced. -/
def Entitled (tasks : Thread → Task) (thread : Thread) (action : Action)
    (coordinator : Coordinator storage) :
    Prop :=
  action.Mutates → ∃ binding, (tasks thread).binding = some binding ∧
    coordinator.registered.find? binding.publisher = some binding.publisherBoot ∧
      coordinator.fenced binding.publisher binding.publisherBoot = false

/-- What the others leave of a check: nothing, or what was found out. -/
structure Upholds (thread : Thread) (world later : Coordinator storage × Checks Thread) : Prop where
  check : later.2 thread = world.2 thread ∨ later.2 thread = none
  free : ∀ publisher boot, later.2 thread = some (publisher, boot) →
    world.1.fenced publisher boot = false → later.1.fenced publisher boot = false
  registered : ∀ publisher boot, later.2 thread = some (publisher, boot) →
    world.1.registered.find? publisher = some boot → later.1.registered.find? publisher = some boot

omit [DecidableEq Thread] in
theorem Upholds.of_same {thread : Thread} {world later : Coordinator storage × Checks Thread}
    (check : later.2 thread = world.2 thread) (registered : later.1.registered = world.1.registered)
    (fences : later.1.fences = world.1.fences) : Upholds thread world later := by
  refine ⟨Or.inl check, fun publisher boot _ free => ?_, fun publisher boot _ here => ?_⟩
  · unfold fenced
    rw [fences]
    exact free
  · rw [registered]
    exact here

omit [DecidableEq Thread] in
theorem Upholds.trans {thread : Thread} {first second third : Coordinator storage × Checks Thread}
    (before : Upholds thread first second) (after : Upholds thread second third) :
    Upholds thread first third := by
  have back : ∀ {held}, third.2 thread = some held → second.2 thread = some held := by
    intro held same
    rcases after.check with kept | dropped
    · rw [← kept]
      exact same
    · rw [dropped] at same
      cases same
  refine ⟨?_, ?_, ?_⟩
  · rcases after.check with kept | dropped
    · rw [kept]
      exact before.check
    · exact Or.inr dropped
  · intro publisher boot same free
    exact after.free publisher boot same (before.free publisher boot (back same) free)
  · intro publisher boot same here
    exact after.registered publisher boot same (before.registered publisher boot (back same) here)

theorem filter_self_or_none {α : Type} (held : Option α) (keeps : α → Bool) :
    held.filter keeps = held ∨ held.filter keeps = none := by
  cases held with
  | none => exact Or.inr rfl
  | some value =>
      rw [Option.filter_some]
      split
      · exact Or.inl rfl
      · exact Or.inr rfl

/-- An action of another thread fences or replaces the boot of a check only by dropping the check. -/
theorem others_uphold {turn other : Thread} {action : Action} {world : Coordinator storage × Checks Thread}
    (different : other ≠ turn) :
    Upholds other world ((perform action world.1).2, noteCheck turn action world.1 world.2) := by
  cases action with
  | isFenced publisher boot => exact .of_same (Function.update_of_ne different _ _) rfl rfl
  | addFence fence =>
      refine ⟨filter_self_or_none _ _, ?_, fun _ _ _ here => here⟩
      · intro publisher boot same free
        have differs : (publisher, boot) ≠ (fence.publisher, fence.boot) :=
          of_decide_eq_true (Option.filter_eq_some_iff.1 same).2
        show (world.1.fences ++ [fence]).any _ = false
        rw [List.any_append, Bool.or_eq_false_iff]
        refine ⟨free, ?_⟩
        rw [List.any_cons, List.any_nil, Bool.or_false]
        by_contra named
        have same : fence.publisher = publisher ∧ fence.boot = boot := by simpa using named
        exact differs (Prod.ext same.1.symm same.2.symm)
  | register publisher boot =>
      refine ⟨filter_self_or_none _ _, fun _ _ _ free => free, ?_⟩
      · intro named about same here
        have kept : named = publisher → about = boot :=
          of_decide_eq_true (Option.filter_eq_some_iff.1 same).2
        show (world.1.registered.insert publisher boot).find? named = some about
        rw [OrdMap.find?_insert]
        split
        · rename_i own
          rw [kept own]
        · exact here
  | _ => exact .of_same rfl rfl rfl

/-- Handlers among each other. -/
def mutating (tasks : Thread → Task) : Discipline (@perform storage) Thread (Checks Thread) where
  note := noteCheck
  meets := Unreplaced
  permitted thread action world := Entitled tasks thread action world.1
  rely := Upholds
  refl _ _ := .of_same rfl rfl rfl
  trans := Upholds.trans
  respects different _ := others_uphold different

variable {tasks : Thread → Task} {thread : Thread}

/-- A handler whose check still stands acts for a boot that is registered and not fenced. -/
def Confirmed (thread : Thread) (binding : MutationBinding) (world : Coordinator storage × Checks Thread) :
    Prop :=
  ∀ held, world.2 thread = some held → held = (binding.publisher, binding.publisherBoot) ∧
    world.1.fenced binding.publisher binding.publisherBoot = false ∧
      world.1.registered.find? binding.publisher = some binding.publisherBoot

omit [DecidableEq Thread] in
theorem Confirmed.later {binding : MutationBinding} {world moved : Coordinator storage × Checks Thread}
    (confirmed : Confirmed thread binding world) (upholds : Upholds thread world moved) :
    Confirmed thread binding moved := by
  intro held same
  have before : world.2 thread = some held := by
    rcases upholds.check with kept | dropped
    · rw [← kept]
      exact same
    · rw [dropped] at same
      cases same
  obtain ⟨rfl, free, here⟩ := confirmed held before
  exact ⟨rfl, upholds.free _ _ same free, upholds.registered _ _ same here⟩

/-- A check that succeeds confirms the binding, unless the boot was replaced meanwhile. -/
theorem validateBinding_behaves (binding : MutationBinding) (world : Coordinator storage × Checks Thread) :
    (mutating tasks).Behaves thread (fun status later => status = .ok () → Confirmed thread binding later)
      (validateBinding binding) world := by
  have refused : ∀ (reason : ErrorCode) (detail : Text) (world : Coordinator storage × Checks Thread),
      (mutating tasks).Behaves thread (fun status later => status = .ok () → Confirmed thread binding later)
        (pure (fail reason detail)) world :=
    fun _ _ _ => .pure fun _ _ accepted => by cases accepted
  refine .act fun second _ _ => ⟨fun mutates => False.elim mutates, ?_⟩
  split
  · exact refused _ _ _
  split
  · exact refused _ _ _
  refine .act fun third _ _ => ⟨fun mutates => False.elim mutates, ?_⟩
  refine .act fun fourth _ _ => ⟨fun mutates => False.elim mutates, ?_⟩
  split
  · exact refused _ _ _
  refine .act fun fifth _ _ => ⟨fun mutates => False.elim mutates, ?_⟩
  split
  · exact refused _ _ _
  rename_i free
  refine .act fun sixth after _ => ⟨fun mutates => False.elim mutates, ?_⟩
  split
  · exact refused _ _ _
  rename_i registered
  refine .pure fun last moved _ => Confirmed.later ?_ moved
  intro held same
  have here : sixth.1.registered.find? binding.publisher = some binding.publisherBoot :=
    not_not.1 registered
  have begun : noteCheck thread (.isFenced binding.publisher binding.publisherBoot) fifth.1 fifth.2 thread =
      some (binding.publisher, binding.publisherBoot) := Function.update_self _ _ _
  have named : held = (binding.publisher, binding.publisherBoot) := by
    rcases after.check with kept | dropped
    · exact Option.some.inj ((show sixth.2 thread = some held from same).symm.trans (kept.trans begun))
    · rw [show sixth.2 thread = some held from same] at dropped
      cases dropped
  subst named
  have unfenced : fifth.1.fenced binding.publisher binding.publisherBoot = false :=
    Bool.eq_false_of_not_eq_true free
  exact ⟨rfl, after.free _ _ same unfenced, here⟩

/-- Calls of the engine after a check that confirmed the binding. -/
theorem plain_behaves {α : Type} {binding : MutationBinding} (own : (tasks thread).binding = some binding)
    {program : Handler α} (plain : program.All Action.Plain) {world : Coordinator storage × Checks Thread}
    (confirmed : Confirmed thread binding world) :
    (mutating tasks).Behaves thread (fun _ _ => True) program world := by
  refine (Discipline.Behaves.of_all (Confirmed thread binding)
    (fun upholds kept => kept.later upholds) ?_ plain
    confirmed).mono fun _ _ _ => trivial
  intro action world plain confirmed unreplaced
  refine ⟨fun mutates => ?_, ?_⟩
  · obtain ⟨held, checked⟩ := Option.isSome_iff_exists.1 (unreplaced mutates)
    obtain ⟨-, free, here⟩ := confirmed held checked
    exact ⟨binding, own, here, free⟩
  · cases action with
    | isFenced | addFence | register => exact absurd trivial plain
    | _ => exact confirmed

/-- A handler that checks its binding before it calls the engine. -/
theorem checked_behaves {α : Type} {binding : MutationBinding} (own : (tasks thread).binding = some binding)
    {next : Status → Handler α} (accepted : (next (.ok ())).All Action.Plain)
    (refused : ∀ reason, ∃ response, next (.error reason) = pure response)
    (world : Coordinator storage × Checks Thread) :
    (mutating tasks).Behaves thread (fun _ _ => True) (validateBinding binding >>= next) world := by
  refine (validateBinding_behaves binding world).bind fun status later confirmed => ?_
  cases status with
  | error reason =>
      obtain ⟨response, same⟩ := refused reason
      rw [same]
      exact .pure fun _ _ => trivial
  | ok => exact plain_behaves own accepted (confirmed rfl)

/-- A handler that never changes the engine needs no check. -/
theorem unmutating_behaves {α : Type} {program : Handler α}
    (unmutating : program.All fun action => ¬ action.Mutates)
    (world : Coordinator storage × Checks Thread) :
    (mutating tasks).Behaves thread (fun _ _ => True) program world :=
  .of_all (fun _ => True) (fun _ _ => trivial)
    (fun _ _ unmutating _ _ => ⟨fun mutates => absurd mutates unmutating, trivial⟩) unmutating trivial

end Checks

/-! The handlers that never change the engine. -/

theorem handleHello_unmutating (request : HelloRequest) :
    (handleHello request).All fun action => ¬ action.Mutates := by
  unfold handleHello
  split
  · trivial
  · exact .act id fun _ => .act id fun _ => .act id fun _ => .act id fun _ => trivial

theorem completeRegistration_unmutating (request : RegisterPublisherRequest)
    (reply : RegisterPublisherResponse) :
    (completeRegistration request reply).All fun action => ¬ action.Mutates :=
  .act id fun _ => trivial

theorem handleRegisterPublisher_unmutating (request : RegisterPublisherRequest) :
    (handleRegisterPublisher request).All fun action => ¬ action.Mutates := by
  refine .act id fun epoch => .act id fun incarnation => ?_
  split
  · trivial
  refine .act id fun fenced => ?_
  split
  · trivial
  refine .act id fun registered => ?_
  cases registered with
  | none => exact completeRegistration_unmutating request _
  | some boot =>
      dsimp only
      split
      · exact completeRegistration_unmutating request _
      refine .act id fun incarnation => .act id fun epoch => .act id fun persisted => ?_
      cases persisted with
      | error reason => trivial
      | ok => exact .act id fun _ => completeRegistration_unmutating request _

theorem handleQueryRequest_unmutating (toJson : Explanation → Text) (payload : List UInt8) :
    (handleQueryRequest toJson payload).All fun action => ¬ action.Mutates := by
  unfold handleQueryRequest
  split
  · trivial
  refine .act id fun plan => ?_
  cases plan with
  | none => trivial
  | some plan =>
      dsimp only
      split
      · exact .act id fun _ => trivial
      · trivial

/-! All handlers. -/

section Tasks

variable {storage : Storage} {Thread : Type} [DecidableEq Thread] {tasks : Thread → Task} {thread : Thread}
variable (toJson : Explanation → Text)

theorem dispatch_behaves {frame : Frame} (own : (tasks thread).binding = bindingOf frame)
    (world : Coordinator storage × Checks Thread) :
    (mutating tasks).Behaves thread (fun _ _ => True) (dispatch toJson frame) world := by
  unfold bindingOf at own
  unfold dispatch
  split <;> rename_i type <;> try rw [type] at own
  · split
    · exact .pure fun _ _ => trivial
    · exact unmutating_behaves (handleHello_unmutating _) world
  · split
    · exact .pure fun _ _ => trivial
    · exact unmutating_behaves (handleRegisterPublisher_unmutating _) world
  · unfold handlePlanRequest
    split
    · exact .pure fun _ _ => trivial
    · rename_i request decoded
      rw [decoded] at own
      refine checked_behaves own ?_ ?_ world
      · dsimp only
        split
        · exact refuse_plain _
        · exact planSnapshot_plain toJson request _
      · exact fun reason => ⟨_, rfl⟩
  · unfold handleCommitRequest
    split
    · exact .pure fun _ _ => trivial
    · rename_i request decoded
      rw [decoded] at own
      refine checked_behaves own ?_ ?_ world
      · exact processCommit_plain request
      · exact fun reason => ⟨_, rfl⟩
  · unfold handleSupersedeRequest
    dsimp only
    split
    · exact .pure fun _ _ => trivial
    · rename_i request decoded
      rw [decoded] at own
      refine checked_behaves own ?_ ?_ world
      · refine .act id fun superseded => ?_
        cases superseded <;> trivial
      · exact fun reason => ⟨_, rfl⟩
  · unfold handleRetireRequest
    dsimp only
    split
    · exact .pure fun _ _ => trivial
    · rename_i request decoded
      rw [decoded] at own
      refine checked_behaves own ?_ ?_ world
      · refine .act id fun retired => ?_
        cases retired <;> trivial
      · exact fun reason => ⟨_, rfl⟩
  · exact unmutating_behaves (handleQueryRequest_unmutating toJson _) world
  · exact .pure fun _ _ => trivial
  · exact .pure fun _ _ => trivial

theorem program_behaves (world : Coordinator storage × Checks Thread) :
    (mutating tasks).Behaves thread (fun _ _ => True) ((tasks thread).program toJson) world := by
  cases task : tasks thread with
  | handle frame =>
      exact (dispatch_behaves toJson (by rw [task]; rfl) world).bind fun _ _ _ => .pure fun _ _ => trivial
  | stop =>
      refine unmutating_behaves ?_ world
      exact .act id fun _ => trivial

/-- One handler for each of the tasks. -/
def handlers (coordinator : Coordinator storage) (tasks : Thread → Task) :
    Pool (Coordinator storage) Action Answer (Option Response) Thread :=
  ⟨coordinator, fun thread => (tasks thread).program toJson⟩

/-- The handler whose turn it is changes the engine only for a boot that is registered and not fenced. -/
def ActsEntitled (tasks : Thread → Task)
    (pool : Pool (Coordinator storage) Action Answer (Option Response) Thread)
    (turn : Thread) : Prop :=
  ∀ action next, pool.threads turn = .call action next → Entitled tasks turn action pool.state

/-- In every order of the sections in which no boot is replaced between its check and a call made for it,
the engine changes only for boots that are registered and not fenced. -/
theorem mutations_entitled {coordinator : Coordinator storage} {tasks : Thread → Task}
    {schedule : List Thread}
    (unreplaced : Runs.Along (mutating tasks).step (Discipline.Meeting Unreplaced)
      (handlers toJson coordinator tasks, fun _ => none) schedule) :
    Runs.Along (Pool.step perform) (ActsEntitled tasks) (handlers toJson coordinator tasks) schedule := by
  have start : Discipline.Behaving (mutating tasks) (fun _ _ _ => True)
      (handlers toJson coordinator tasks, fun _ => none) := fun thread => program_behaves toJson _
  have along : Runs.Along (mutating tasks).step (fun noted turn => ActsEntitled tasks noted.1 turn)
      (handlers toJson coordinator tasks, fun _ => none) schedule := (start.run unreplaced).1
  exact Discipline.along_fst.1 along

end Tasks

/-! A boot that is replaced. -/

def plannerRetirement : RetireRequest :=
  { binding := plannerBinding
    plan := ⟨named "plan-1", Gen.first⟩ }

def replacedRegistration : RegisterPublisherRequest :=
  { plannerRegistration with boot := ⟨Vector.replicate 16 2⟩ }

/-- The planner retires a plan, and the planner that was started again registers. -/
def retirement : Bool → Task
  | false => .handle (makeFrame .retireRequest plannerRetirement.encode)
  | true => .handle (makeFrame .registerPublisherRequest replacedRegistration.encode)

theorem retirement_binding : (retirement false).binding = some plannerBinding := by
  have decoded : decodeRetireRequest plannerRetirement.encode = .ok plannerRetirement := by decide +kernel
  show bindingOf (makeFrame .retireRequest plannerRetirement.encode) = some plannerBinding
  unfold bindingOf
  rw [show (makeFrame .retireRequest plannerRetirement.encode).type =
    MessageType.retireRequest.code from rfl,
    MessageType.ofCode_code]
  show (decodeRetireRequest plannerRetirement.encode).toOption.map RetireRequest.binding =
    some plannerBinding
  rw [decoded]
  rfl

theorem mutations_entitled_retirement : Runs.Along (Pool.step perform) (ActsEntitled retirement)
    (handlers (fun _ => []) (plannerStarted durable) retirement) (List.replicate 6 false) := by
  refine mutations_entitled (fun _ => []) ?_
  have idle : ∀ {action : Action} {world : Coordinator durable × Checks Bool}, ¬ action.Mutates →
      Unreplaced false action world := fun unmutating mutates => absurd mutates unmutating
  exact ⟨.of_call rfl (idle id), .of_call rfl (idle id), .of_call rfl (idle id), .of_call rfl (idle id),
    .of_call rfl (idle id), .of_call rfl fun _ => rfl, trivial⟩

set_option maxRecDepth 20000 in
/-- The planner that was started again registers between the check and the call: a fenced boot retires the
plan. -/
theorem replaced_boot_retires :
    Reachable (fun _ => []) (plannerStarted durable) ∧ ∃ schedule,
      ¬ Runs.Along (Pool.step perform) (ActsEntitled retirement)
        (handlers (fun _ => []) (plannerStarted durable) retirement) schedule := by
  refine ⟨plannerStarted_serves [], List.replicate 5 false ++ List.replicate 9 true ++ [false], ?_⟩
  intro along
  obtain ⟨-, last, -⟩ := Runs.along_append.1 along
  obtain ⟨binding, own, here, -⟩ := last _ _ rfl trivial
  rw [retirement_binding] at own
  cases own
  revert here
  decide

end Coordinator

end TrafficFabric
