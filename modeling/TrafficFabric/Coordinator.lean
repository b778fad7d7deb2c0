import TrafficFabric.Engine
import TrafficFabric.Lib.Interleaving
import TrafficFabric.PlanContent
import TrafficFabric.Protocol
import TrafficFabric.Repository
import TrafficFabric.SnapshotCodec

set_option autoImplicit false

/- The coordinator: the registry of publishers, and the handlers of the request frames. A handler is
a program of actions, each taken under the lock that guards what it touches; the handlers of other
connections act between two of them. -/
namespace TrafficFabric

open Interleaving (Program)

namespace Limits

def maxExplanationBytes : Nat := 1024 * 1024

end Limits

/-- The engine and the coordinator share the repository; here the engine holds it. -/
structure Coordinator (storage : Storage) where
  engine : Engine storage
  incarnation : Gen .coordinatorIncarnation := default
  boot : BootId := default
  epoch : UInt64 := 0
  stopping : Bool := false
  registered : OrdMap PublisherId BootId := OrdMap.empty
  fences : List FenceRecord := []

namespace Engine

variable {storage : Storage}

/-! The reading calls. -/

/-- A reference without a generation finds the plan whatever its generation. -/
def get (engine : Engine storage) (ref : PlanRef) : Option Plan :=
  match engine.plans.find? ref.id with
  | none => none
  | some plan => if ref.generation.valid && plan.generation != ref.generation then none else some plan

def incumbentPlan (engine : Engine storage) : Option Plan :=
  if !engine.incumbent.id.valid then none else engine.plans.find? engine.incumbent.id

def explain (engine : Engine storage) (ref : PlanRef) : Option Explanation :=
  engine.explanations.find? ref.id

end Engine

namespace Coordinator

/-! The actions. -/

/-- The loads of the atomic members, the sections under the registry lock, the fence record, and the
calls of the engine. -/
inductive Action
  | stopping
  | epoch
  | incarnation
  | boot
  | isFenced (publisher : PublisherId) (boot : BootId)
  | findRegistered (publisher : PublisherId)
  | persistFence (fence : FenceRecord)
  | addFence (fence : FenceRecord)
  | register (publisher : PublisherId) (boot : BootId)
  | submitSnapshot (snapshot : FabricSnapshot)
  | declare (request : DeclareRequest)
  | validate (ref : PlanRef)
  | solve (ref : PlanRef)
  | authorize (ref : PlanRef)
  | commit (ref : PlanRef) (intent : CommitIntent)
  | supersede (incumbent replacement : PlanRef)
  | retire (ref : PlanRef)
  | get (ref : PlanRef)
  | explain (ref : PlanRef)
  | incumbent
  | stop

abbrev Answer : Action → Type
  | .stopping => Bool
  | .epoch => UInt64
  | .incarnation => Gen .coordinatorIncarnation
  | .boot => BootId
  | .isFenced _ _ => Bool
  | .findRegistered _ => Option BootId
  | .persistFence _ => Status
  | .addFence _ => Unit
  | .register _ _ => Unit
  | .submitSnapshot _ => Status
  | .declare _ => Result Plan
  | .validate _ => Status
  | .solve _ => Result Plan
  | .authorize _ => Result Plan
  | .commit _ _ => Result Plan
  | .supersede _ _ => Result Plan
  | .retire _ => Result Plan
  | .get _ => Option Plan
  | .explain _ => Option Explanation
  | .incumbent => Option Plan
  | .stop => Unit

section Performing

variable {storage : Storage}

/-- Whether a fence names the boot of the publisher. -/
def fenced (coordinator : Coordinator storage) (publisher : PublisherId) (boot : BootId) : Bool :=
  coordinator.fences.any fun fence => fence.publisher == publisher && fence.boot == boot

/-- `PlanRepository::add_fence`, where there is a repository. -/
def persistFence (engine : Engine storage) (fence : FenceRecord) : Status × Engine storage :=
  match engine.repository with
  | none => (.ok (), engine)
  | some repository =>
      if !fence.publisher.valid || !fence.boot.valid || !fence.incarnation.valid then
        (fail .invalidArgument (text "the fence record is incomplete"), engine)
      else
        let appended := storage.append repository .fence (encodeFence fence)
        (appended.1, { engine with repository := some appended.2 })

/-- A call of the engine, under its lock. -/
def calling {α : Type} (coordinator : Coordinator storage) (result : α × Engine storage) :
    α × Coordinator storage :=
  (result.1, { coordinator with engine := result.2 })

def perform (action : Action) (coordinator : Coordinator storage) :
    Answer action × Coordinator storage :=
  match action with
  | .stopping => (coordinator.stopping, coordinator)
  | .epoch => (coordinator.epoch, coordinator)
  | .incarnation => (coordinator.incarnation, coordinator)
  | .boot => (coordinator.boot, coordinator)
  | .isFenced publisher boot => (coordinator.fenced publisher boot, coordinator)
  | .findRegistered publisher => (coordinator.registered.find? publisher, coordinator)
  | .persistFence fence => coordinator.calling (persistFence coordinator.engine fence)
  | .addFence fence => ((), { coordinator with fences := coordinator.fences ++ [fence] })
  | .register publisher boot =>
      ((), { coordinator with registered := coordinator.registered.insert publisher boot })
  | .submitSnapshot snapshot => coordinator.calling (coordinator.engine.submitSnapshot snapshot)
  | .declare request => coordinator.calling (coordinator.engine.declare request)
  | .validate ref => coordinator.calling (coordinator.engine.validate ref)
  | .solve ref => coordinator.calling (coordinator.engine.solve ref)
  | .authorize ref => coordinator.calling (coordinator.engine.authorize ref)
  | .commit ref intent => coordinator.calling (coordinator.engine.commit ref intent)
  | .supersede incumbent replacement =>
      coordinator.calling (coordinator.engine.supersede incumbent replacement)
  | .retire ref => coordinator.calling (coordinator.engine.retire ref)
  | .get ref => (coordinator.engine.get ref, coordinator)
  | .explain ref => (coordinator.engine.explain ref, coordinator)
  | .incumbent => (coordinator.engine.incumbentPlan, coordinator)
  | .stop => ((), { coordinator with stopping := true })

end Performing

/-! The answers. -/

/-- The message a handler answers with. -/
inductive Response
  | error (message : ErrorResponse)
  | hello (message : HelloResponse)
  | registerPublisher (message : RegisterPublisherResponse)
  | plan (message : PlanResponse)
  | commit (message : CommitResponse)
  | supersede (message : SupersedeResponse)
  | retire (message : RetireResponse)
  | query (message : QueryResponse)
  | pong

def makeFrame (type : MessageType) (payload : List UInt8) : Frame :=
  { version := wireProtocolVersion
    type := type.code
    flags := 0
    payload := payload }

def Response.frame : Response → Frame
  | .error message => makeFrame .errorResponse message.encode
  | .hello message => makeFrame .helloResponse message.encode
  | .registerPublisher message => makeFrame .registerPublisherResponse message.encode
  | .plan message => makeFrame .planResponse message.encode
  | .commit message => makeFrame .commitResponse message.encode
  | .supersede message => makeFrame .supersedeResponse message.encode
  | .retire message => makeFrame .retireResponse message.encode
  | .query message => makeFrame .queryResponse message.encode
  | .pong => makeFrame .pong []

/-- The answer to a payload that does not decode, where the message has no code of its own. -/
def undecoded (reason : Error) : Response := .error ⟨reason.code.code, reason.detail⟩

/-- An explanation that is too long is replaced by a document that says so. -/
def bounded (explanation : Text) : Text :=
  if explanation.length ≤ Limits.maxExplanationBytes then explanation
  else text "\x7b\"truncated\":true,\"reason\":\"the explanation exceeded the transport bound\"\x7d"

/-! The handlers. -/

abbrev Handler (α : Type) := Program Action Answer α

abbrev act (action : Action) : Handler (Answer action) := Program.act action

def validateBinding (binding : MutationBinding) : Handler Status := do
  let stopping : Bool ← act .stopping
  if stopping then pure (fail .shutdown (text "the coordinator is stopping"))
  else if !binding.valid then
    pure (fail .invalidArgument (text "the mutation binding is incomplete"))
  else
    let incarnation ← act .incarnation
    let epoch ← act .epoch
    if binding.coordinatorIncarnation ≠ incarnation ∨ binding.coordinatorEpoch ≠ epoch then
      pure (fail .epochMismatch
        (text "the mutation was issued under a superseded coordinator incarnation or epoch"))
    else
      let fenced : Bool ← act (.isFenced binding.publisher binding.publisherBoot)
      if fenced then pure (fail .fenced (text "the publisher boot identity is fenced"))
      else
        let registered ← act (.findRegistered binding.publisher)
        if registered ≠ some binding.publisherBoot then
          pure (fail .unauthorized
            (text "the publisher boot identity is not the registered incarnation"))
        else pure (.ok ())

def handleHello (request : HelloRequest) : Handler Response :=
  if request.protocolVersion ≠ wireProtocolVersion then
    pure (.error ⟨ErrorCode.unsupportedVersion.code,
      text "the requested protocol version is not supported"⟩)
  else do
    let epoch ← act .epoch
    let incarnation ← act .incarnation
    let boot ← act .boot
    let stopping : Bool ← act .stopping
    pure (.hello
      { protocolVersion := wireProtocolVersion
        coordinatorEpoch := epoch
        coordinatorIncarnation := incarnation
        coordinatorBoot := boot
        accepting := !stopping })

/-- The last section of a registration, and its answer. -/
def completeRegistration (request : RegisterPublisherRequest) (reply : RegisterPublisherResponse) :
    Handler Response := do
  act (.register request.publisher request.boot)
  pure (.registerPublisher { reply with accepted := true, detail := text "registered" })

/-- The boot that is replaced is fenced, first on the disk and then in memory. -/
def fenceReplaced (request : RegisterPublisherRequest) (reply : RegisterPublisherResponse)
    (replaced : BootId) : Handler Response := do
  let incarnation ← act .incarnation
  let epoch ← act .epoch
  let fence : FenceRecord :=
    { publisher := request.publisher
      boot := replaced
      incarnation := incarnation
      reason := text "replaced by a newer publisher boot incarnation"
      tick := epoch }
  let persisted : Status ← act (.persistFence fence)
  match persisted with
  | .error reason =>
      pure (.registerPublisher { reply with accepted := false, detail := reason.format })
  | .ok () => do
      act (.addFence fence)
      completeRegistration request reply

def handleRegisterPublisher (request : RegisterPublisherRequest) : Handler Response := do
  let epoch ← act .epoch
  let incarnation ← act .incarnation
  let reply : RegisterPublisherResponse :=
    { coordinatorEpoch := epoch
      coordinatorIncarnation := incarnation }
  if request.coordinatorEpoch ≠ epoch ∨ request.coordinatorIncarnation ≠ incarnation then
    pure (.registerPublisher { reply with
      detail := text "the registration was issued under a superseded coordinator epoch" })
  else
    let fenced : Bool ← act (.isFenced request.publisher request.boot)
    if fenced then
      pure (.registerPublisher { reply with
        fenced := true
        detail := text "the publisher boot identity is fenced" })
    else
      -- The decision is taken here; the fence and the registration are sections of their own.
      let registered : Option BootId ← act (.findRegistered request.publisher)
      match registered with
      | none => completeRegistration request reply
      | some boot =>
          if boot = request.boot then completeRegistration request reply
          else fenceReplaced request reply boot

section Rendering

-- How an explanation is written as a document.
variable (toJson : Explanation → Text)

def refuse (reason : Error) : Handler Response :=
  pure (.plan { code := reason.code.code, detail := reason.detail })

/-- The answer to a plan request that fails once its plan is declared. -/
def refusePlan (reason : Error) (ref : PlanRef) : Handler Response := do
  let current : Option Plan ← act (.get ref)
  let reply : PlanResponse :=
    { code := reason.code.code
      detail := reason.detail }
  match current with
  | none => pure (.plan reply)
  | some plan =>
      pure (.plan { reply with
        plan := plan.ref
        state := plan.state
        feasibility := plan.feasibility.status })

def acceptPlan (plan : Plan) : Handler Response := do
  let explanation : Option Explanation ← act (.explain plan.ref)
  let incumbent : Option Plan ← act .incumbent
  pure (.plan
    { code := WireCode.success
      detail := plan.feasibility.summary
      plan := plan.ref
      state := plan.state
      applicability := plan.applicability
      feasibility := plan.feasibility.status
      objectiveScore := plan.objectiveScore
      planDigest := plan.contentDigest
      explanationDigest := plan.explanationDigest
      explanationJson := (explanation.map fun explanation => bounded (toJson explanation)).getD []
      incumbent := (incumbent.map Plan.ref).getD default })

/-- The planning pipeline, once the snapshot is submitted. -/
def declarePlan (request : DeclareRequest) : Handler Response := do
  let declared : Result Plan ← act (.declare request)
  match declared with
  | .error reason => refuse reason
  | .ok plan => do
      let validated : Status ← act (.validate plan.ref)
      match validated with
      | .error reason => refusePlan reason plan.ref
      | .ok () => do
          let solved : Result Plan ← act (.solve plan.ref)
          match solved with
          | .error reason => refusePlan reason plan.ref
          | .ok solved => acceptPlan toJson solved

/-- What is declared for a request, but for the incumbent it carries. -/
def declaredFor (request : PlanRequest) (tick : UInt64) : DeclareRequest :=
  { planId := request.planId
    attempt := request.binding.attempt
    attemptGeneration := request.binding.attemptGeneration
    publisher := request.binding.publisher
    publisherBoot := request.binding.publisherBoot
    allowDegraded := request.allowDegraded
    hasIncumbent := request.hasIncumbent
    incumbentRef := request.incumbentRef
    tick := tick }

def declareRequest (request : PlanRequest) (tick : UInt64) : Result DeclareRequest :=
  if request.hasIncumbent then
    match decodeAllocation request.incumbent with
    | .error reason => .error reason
    | .ok incumbent => .ok { declaredFor request tick with incumbent := incumbent }
  else .ok (declaredFor request tick)

/-- The snapshot goes to the engine before the rest of the request is looked at. -/
def planSnapshot (request : PlanRequest) (snapshot : FabricSnapshot) : Handler Response := do
  let submitted : Status ← act (.submitSnapshot snapshot)
  match submitted with
  | .error reason => refuse reason
  | .ok () =>
      if !request.planId.valid then
        refuse ⟨.invalidArgument, text "the plan request does not name a plan identity"⟩
      else do
        let tick ← act .epoch
        match declareRequest request tick with
        | .error reason => refuse reason
        | .ok declare => declarePlan toJson declare

def handlePlanRequest (payload : List UInt8) : Handler Response :=
  match decodePlanRequest payload with
  | .error reason => pure (undecoded reason)
  | .ok request => do
      let binding ← validateBinding request.binding
      match binding with
      | .error reason => refuse reason
      | .ok () =>
          match decodeSnapshot request.snapshot with
          | .error reason => refuse reason
          | .ok snapshot => planSnapshot toJson request snapshot

/-- The answer to a commit that succeeded. -/
def acceptCommit (plan : Plan) : CommitResponse :=
  { code := WireCode.success
    detail := text "committed"
    plan := plan.ref
    state := plan.state
    commitGeneration := plan.commitGeneration
    commitDigest := plan.contentDigest
    churn := plan.churn }

def commitPlan (request : CommitRequest) : Handler Response := do
  let epoch ← act .epoch
  let committed : Result Plan ← act (.commit request.plan
    { commit := request.commit
      commitGeneration := request.commitGeneration
      tick := epoch })
  match committed with
  | .ok plan => pure (.commit (acceptCommit plan))
  | .error reason => do
      let refreshed : Option Plan ← act (.get request.plan)
      let reply : CommitResponse :=
        { code := reason.code.code
          detail := reason.detail }
      match refreshed with
      | none => pure (.commit reply)
      | some plan => pure (.commit { reply with plan := plan.ref, state := plan.state })

/-- A plan that is proposed is authorized first. -/
def authorizePlan (request : CommitRequest) (plan : Plan) : Handler Response := do
  let authorized : Result Plan ← act (.authorize plan.ref)
  match authorized with
  | .ok _ => commitPlan request
  | .error reason => do
      let refreshed : Option Plan ← act (.get plan.ref)
      let reply : CommitResponse :=
        { code := reason.code.code
          detail := reason.detail
          plan := plan.ref }
      match refreshed with
      | none => pure (.commit reply)
      | some plan => pure (.commit { reply with state := plan.state })

/-- The plan is committed already, under the very commit that is asked for. -/
def Replays (request : CommitRequest) (plan : Plan) : Prop :=
  plan.state = .committed ∧ plan.commit = request.commit ∧
    plan.commitGeneration = request.commitGeneration

instance (request : CommitRequest) (plan : Plan) : Decidable (Replays request plan) :=
  inferInstanceAs (Decidable (_ ∧ _ ∧ _))

def processCommit (request : CommitRequest) : Handler Response := do
  let existing : Option Plan ← act (.get request.plan)
  match existing.filter fun plan => Replays request plan with
  | some plan =>
      pure (.commit { acceptCommit plan with
        detail := text "idempotent replay of an already committed plan"
        idempotentReplay := true })
  | none => do
      let plan : Option Plan ← act (.get request.plan)
      match plan with
      | none =>
          pure (.commit { code := ErrorCode.notFound.code, detail := text "unknown plan" })
      | some plan =>
          if plan.state = .proposed ∨ plan.state = .degraded then authorizePlan request plan
          else commitPlan request

def handleCommitRequest (payload : List UInt8) : Handler Response :=
  match decodeCommitRequest payload with
  | .error reason => pure (undecoded reason)
  | .ok request => do
      let binding ← validateBinding request.binding
      match binding with
      | .error reason => pure (.commit { code := reason.code.code, detail := reason.detail })
      | .ok () => processCommit request

def handleSupersedeRequest (payload : List UInt8) : Handler Response :=
  let refused := fun reason : Error =>
    (pure (.supersede { code := reason.code.code, detail := reason.detail }) : Handler Response)
  match decodeSupersedeRequest payload with
  | .error reason => refused reason
  | .ok request => do
      let binding ← validateBinding request.binding
      match binding with
      | .error reason => refused reason
      | .ok () => do
          let superseded : Result Plan ← act (.supersede request.incumbent request.replacement)
          match superseded with
          | .error reason => refused reason
          | .ok _ =>
              pure (.supersede
                { code := WireCode.success
                  detail := text "superseded"
                  incumbent := request.incumbent
                  replacement := request.replacement })

def handleRetireRequest (payload : List UInt8) : Handler Response :=
  let refused := fun reason : Error =>
    (pure (.retire { code := reason.code.code, detail := reason.detail }) : Handler Response)
  match decodeRetireRequest payload with
  | .error reason => refused reason
  | .ok request => do
      let binding ← validateBinding request.binding
      match binding with
      | .error reason => refused reason
      | .ok () => do
          let retired : Result Plan ← act (.retire request.plan)
          match retired with
          | .error reason => refused reason
          | .ok plan =>
              pure (.retire
                { code := WireCode.success
                  detail := text "retired"
                  plan := plan.ref
                  state := plan.state })

/-- What a query of a plan that is held is answered with. -/
def acceptQuery (plan : Plan) (explanation : Option Explanation) : QueryResponse :=
  { code := WireCode.success
    detail := text "ok"
    plan := plan
    applicability := plan.applicability
    explanationJson := (explanation.map fun explanation => bounded (toJson explanation)).getD [] }

def handleQueryRequest (payload : List UInt8) : Handler Response :=
  match decodeQueryRequest payload with
  | .error reason => pure (.query { code := reason.code.code, detail := reason.detail })
  | .ok request => do
      let plan : Option Plan ← act (.get request.plan)
      match plan with
      | none => pure (.query { code := ErrorCode.notFound.code, detail := text "unknown plan" })
      | some plan =>
          if request.includeExplanation then do
            let explanation : Option Explanation ← act (.explain plan.ref)
            pure (.query (acceptQuery toJson plan explanation))
          else pure (.query (acceptQuery toJson plan none))

/-- What a frame of any type is answered with. -/
def dispatch (request : Frame) : Handler Response :=
  match ofCode MessageType.all MessageType.code request.type with
  | some .helloRequest =>
      match decodeHelloRequest request.payload with
      | .error reason => pure (undecoded reason)
      | .ok message => handleHello message
  | some .registerPublisherRequest =>
      match decodeRegisterPublisherRequest request.payload with
      | .error reason => pure (undecoded reason)
      | .ok message => handleRegisterPublisher message
  | some .planRequest => handlePlanRequest toJson request.payload
  | some .commitRequest => handleCommitRequest request.payload
  | some .supersedeRequest => handleSupersedeRequest request.payload
  | some .retireRequest => handleRetireRequest request.payload
  | some .queryRequest => handleQueryRequest toJson request.payload
  | some .ping => pure .pong
  | _ =>
      pure (.error ⟨ErrorCode.unsupportedFeature.code, text "the message type is not supported"⟩)

end Rendering

/-! Starting, and what then acts on the coordinator. -/

section Runs

variable {storage : Storage}

/-- The coordinator epoch and the fences of a repository's records. -/
def remembered (storage : Storage) (repository : storage.Repository) : UInt64 × List FenceRecord :=
  (storage.records repository).foldl
    (fun found record => PlanRepository.noticed found.1 found.2 record) (0, [])

def epochRecord (boot : BootId) (epoch : UInt64) : CoordinatorEpochRecord :=
  { coordinator := (Id.parse (text "tef-coordinator")).getD default
    incarnation := Gen.first
    boot := boot
    epoch := epoch }

/-- `Coordinator::start` between the opening of the repository, if there is a data directory, and the
listener. -/
def start (opened : Option storage.Repository) (boot : BootId) : Result (Coordinator storage) :=
  match opened with
  | none =>
      .ok
        { engine := Engine.new {}
          incarnation := Gen.first
          boot := boot
          epoch := 1 }
  | some repository =>
      let previous := (remembered storage repository).1
      if previous = UInt64.ofNat (2 ^ 64 - 1) then
        fail .invalidGeneration (text "the persisted coordinator epoch is exhausted")
      else
        match storage.append repository .coordinatorEpoch
            (encodeCoordinatorEpoch (epochRecord boot (previous + 1))) with
        | (.error reason, _) => .error reason
        | (.ok (), repository) =>
            let engine := ((Engine.new {}).attachRepository repository).2
            match engine.recoverFromRepository with
            | (.error reason, _) => .error reason
            | (.ok (), engine) =>
                .ok
                  { engine := engine
                    incarnation := Gen.first
                    boot := boot
                    epoch := previous + 1
                    fences := (remembered storage repository).2 }

/-- The handler of a frame, or the thread that stops the coordinator. -/
inductive Task
  | handle (request : Frame)
  | stop

def Task.program (toJson : Explanation → Text) : Task → Handler (Option Response)
  | .handle request => do
      let response ← dispatch toJson request
      pure (some response)
  | .stop => do
      act .stop
      pure none

/-- The states a started coordinator reaches while any number of handlers take turns; some of them
may be half way through. -/
def Reachable (toJson : Explanation → Text) (coordinator : Coordinator storage) : Prop :=
  ∃ (opened : Option storage.Repository) (boot : BootId) (started : Coordinator storage)
    (tasks : Nat → Task) (schedule : List Nat), start opened boot = .ok started ∧
      coordinator = (Interleaving.Pool.run perform
        ⟨started, fun thread => (tasks thread).program toJson⟩ schedule).state

end Runs

end Coordinator

end TrafficFabric
