import TrafficFabric.FencedMutations
import TrafficFabric.OnDisk
import TrafficFabric.PlanRequests

set_option autoImplicit false

/- The boots that handlers act for. A handler of a coordinator on a directory changes something only for a
frame of the present epoch whose boot is not fenced, and declines the others. -/
namespace TrafficFabric

open Interleaving (Pool Program Discipline)

namespace Coordinator

open Engine (Sits)
open PlanRepository (fencesOf)

/-! Who an action of a handler is for. -/

/-- The boot that a frame is from, and the epoch it was issued under. -/
structure Sender where
  epoch : UInt64
  publisher : PublisherId
  boot : BootId

def senderOf (frame : Frame) : Option Sender :=
  match ofCode MessageType.all MessageType.code frame.type with
  | some .registerPublisherRequest =>
      (decodeRegisterPublisherRequest frame.payload).toOption.map fun request =>
        ⟨request.coordinatorEpoch, request.publisher, request.boot⟩
  | _ =>
      (bindingOf frame).map fun binding =>
        ⟨binding.coordinatorEpoch, binding.publisher, binding.publisherBoot⟩

def Task.sender : Task → Option Sender
  | .handle frame => senderOf frame
  | .stop => none

/-- The actions that change the engine, the directory or the registry. -/
def Action.Changes : Action → Prop
  | .persistFence _ | .addFence _ | .register _ _ => True
  | action => action.Mutates

/-- An answer that takes nothing on. -/
def Response.Declines : Response → Prop
  | .error _ => True
  | .hello _ | .pong => False
  | .registerPublisher message => message.accepted = false
  | .plan message => message.code ≠ WireCode.success
  | .commit message => message.code ≠ WireCode.success
  | .supersede message => message.code ≠ WireCode.success
  | .retire message => message.code ≠ WireCode.success
  | .query message => message.code ≠ WireCode.success

/-- The frame is of this epoch, and none of the fences is against its boot. -/
structure Welcome (fences : List FenceRecord) (epoch : UInt64) (sender : Sender) : Prop where
  epoch : sender.epoch = epoch
  unfenced : ∀ fence ∈ fences, fence.publisher = sender.publisher → fence.boot ≠ sender.boot

theorem fenced_iff {storage : Storage} {coordinator : Coordinator storage}
    {publisher : PublisherId} {boot : BootId} :
    coordinator.fenced publisher boot = true ↔
      ∃ fence ∈ coordinator.fences, fence.publisher = publisher ∧ fence.boot = boot := by
  unfold fenced
  simp only [List.any_eq_true, Bool.and_eq_true, beq_iff_eq]

section Threads

variable {Thread : Type} {tasks : Thread → Task} {old : List FenceRecord} {thread : Thread}

/-- Changes are made for a boot that is welcome, and a fence is in the directory before it is in memory. -/
structure Lawful (tasks : Thread → Task) (old : List FenceRecord) (thread : Thread) (action : Action)
    (coordinator : Coordinator onDisk) : Prop where
  sits : Sits coordinator.engine
  welcome : action.Changes → ∃ sender, (tasks thread).sender = some sender ∧
    Welcome old coordinator.epoch sender
  recorded : ∀ fence, action = .addFence fence → fence ∈ fencesOf coordinator.engine.disk.acknowledged

/-- What the others leave alone. -/
structure Stays (world later : Coordinator onDisk × Unit) : Prop where
  epoch : later.1.epoch = world.1.epoch
  fences : world.1.fences <+: later.1.fences
  disk : Sits world.1.engine → Sits later.1.engine ∧
    world.1.engine.disk.acknowledged <+: later.1.engine.disk.acknowledged

theorem Stays.refl (world : Coordinator onDisk × Unit) : Stays world world :=
  ⟨rfl, List.prefix_rfl, fun sits => ⟨sits, List.prefix_rfl⟩⟩

theorem Stays.trans {first second third : Coordinator onDisk × Unit} (before : Stays first second)
    (after : Stays second third) : Stays first third := by
  refine ⟨after.epoch.trans before.epoch, before.fences.trans after.fences, fun sits => ?_⟩
  obtain ⟨middle, grown⟩ := before.disk sits
  obtain ⟨last, more⟩ := after.disk middle
  exact ⟨last, grown.trans more⟩

theorem perform_fences (action : Action) (coordinator : Coordinator onDisk) :
    coordinator.fences <+: (perform action coordinator).2.fences := by
  cases action with
  | addFence fence => exact List.prefix_append _ _
  | _ => exact List.prefix_rfl

theorem perform_stays (action : Action) (world : Coordinator onDisk × Unit) :
    Stays world ((perform action world.1).2, world.2) :=
  ⟨perform_epoch action world.1, perform_fences action world.1, fun sits => perform_onDisk sits action⟩

def lawful (tasks : Thread → Task) (old : List FenceRecord) : Discipline (@perform onDisk) Thread Unit where
  note _ _ _ notes := notes
  meets _ _ _ := True
  permitted thread action world := Lawful tasks old thread action world.1
  rely _ := Stays
  refl _ := Stays.refl
  trans := Stays.trans
  respects _ _ := perform_stays _ _

/-- A handler on an open directory, where the old fences are still in force. -/
structure Seated (old : List FenceRecord) (world : Coordinator onDisk × Unit) : Prop where
  sits : Sits world.1.engine
  fences : ∀ fence ∈ old, fence ∈ world.1.fences

theorem Seated.stays {world later : Coordinator onDisk × Unit} (seated : Seated old world)
    (stays : Stays world later) : Seated old later :=
  ⟨(stays.disk seated.sits).1, fun fence member => stays.fences.subset (seated.fences fence member)⟩

theorem Seated.unchanging {action : Action} {world : Coordinator onDisk × Unit} (seated : Seated old world)
    (unchanging : ¬ action.Changes) : Lawful tasks old thread action world.1 := by
  refine ⟨seated.sits, fun changes => absurd changes unchanging, ?_⟩
  rintro fence rfl
  exact absurd trivial unchanging

/-- A boot that is not fenced is welcome under its own epoch. -/
theorem Seated.welcome {world : Coordinator onDisk × Unit} (seated : Seated old world) {sender : Sender}
    (current : sender.epoch = world.1.epoch) (free : ¬ world.1.fenced sender.publisher sender.boot = true) :
    Welcome old world.1.epoch sender := by
  refine ⟨current, fun fence member publisher boot => free ?_⟩
  exact fenced_iff.2 ⟨fence, seated.fences fence member, publisher, boot⟩

/-- A handler for a boot that is welcome. -/
structure Serving (tasks : Thread → Task) (old : List FenceRecord) (thread : Thread)
    (world : Coordinator onDisk × Unit) : Prop where
  seated : Seated old world
  welcome : ∃ sender, (tasks thread).sender = some sender ∧ Welcome old world.1.epoch sender

theorem Serving.stays {world later : Coordinator onDisk × Unit} (serving : Serving tasks old thread world)
    (stays : Stays world later) : Serving tasks old thread later :=
  ⟨serving.seated.stays stays, by rw [stays.epoch]; exact serving.welcome⟩

/-- Whoever is not welcome is declined. -/
def Answers (tasks : Thread → Task) (old : List FenceRecord) (thread : Thread) (response : Response)
    (world : Coordinator onDisk × Unit) : Prop :=
  ∀ sender, (tasks thread).sender = some sender → Welcome old world.1.epoch sender ∨ response.Declines

theorem Serving.answers {world : Coordinator onDisk × Unit} (serving : Serving tasks old thread world)
    (response : Response) : Answers tasks old thread response world := by
  obtain ⟨sender, named, welcome⟩ := serving.welcome
  intro other same
  rw [named] at same
  cases same
  exact Or.inl welcome

theorem declines_behaves {response : Response} {world : Coordinator onDisk × Unit}
    (declines : response.Declines) :
    (lawful tasks old).Behaves thread (Answers tasks old thread) (pure response) world :=
  .pure fun _ _ _ _ => Or.inr declines

/-- A program that changes nothing. -/
theorem unchanging_behaves {α : Type} {program : Handler α}
    (unchanging : program.All fun action => ¬ action.Changes)
    {world : Coordinator onDisk × Unit} (seated : Seated old world) :
    (lawful tasks old).Behaves thread (fun _ => Seated old) program world := by
  refine .of_all (Seated old) (fun stays seated => seated.stays stays) ?_ unchanging seated
  intro action world unchanging seated _
  exact ⟨seated.unchanging unchanging, seated.stays (perform_stays action world)⟩

/-- Calls of the engine for a boot that is welcome. -/
theorem serving_behaves {program : Handler Response} (plain : program.All Action.Plain)
    {world : Coordinator onDisk × Unit} (serving : Serving tasks old thread world) :
    (lawful tasks old).Behaves thread (Answers tasks old thread) program world := by
  refine (Discipline.Behaves.of_all (Serving tasks old thread)
    (fun stays serving => serving.stays stays) ?_ plain
    serving).mono fun response _ serving => serving.answers response
  intro action world plain serving _
  refine ⟨⟨serving.seated.sits, fun _ => serving.welcome, ?_⟩, serving.stays (perform_stays action world)⟩
  rintro fence rfl
  exact absurd trivial plain

/-- A binding is only accepted under the epoch it carries, and for a boot that is not fenced. -/
theorem validateBinding_welcomes {binding : MutationBinding}
    (own : (tasks thread).sender =
      some ⟨binding.coordinatorEpoch, binding.publisher, binding.publisherBoot⟩)
    {world : Coordinator onDisk × Unit} (seated : Seated old world) :
    (lawful tasks old).Behaves thread (fun status later => status = .ok () → Serving tasks old thread later)
      (validateBinding binding) world := by
  have refused : ∀ (reason : ErrorCode) (detail : Text) (world : Coordinator onDisk × Unit),
      (lawful tasks old).Behaves thread (fun status later => status = .ok () →
        Serving tasks old thread later)
        (pure (fail reason detail)) world :=
    fun _ _ _ => .pure fun _ _ accepted => by cases accepted
  refine .act fun first stays _ => ⟨(seated.stays stays).unchanging id, ?_⟩
  have seated := seated.stays stays
  split
  · exact refused _ _ _
  split
  · exact refused _ _ _
  refine .act fun second stays _ => ⟨(seated.stays stays).unchanging id, ?_⟩
  have seated := seated.stays stays
  refine .act fun third stays _ => ⟨(seated.stays stays).unchanging id, ?_⟩
  have seated := seated.stays stays
  split
  · exact refused _ _ _
  rename_i current
  rw [not_or, not_ne_iff, not_ne_iff] at current
  have current : binding.coordinatorEpoch = third.1.epoch := current.2
  refine .act fun fourth stays _ => ⟨(seated.stays stays).unchanging id, ?_⟩
  have seated := seated.stays stays
  split
  · exact refused _ _ _
  rename_i free
  have serving : Serving tasks old thread fourth :=
    ⟨seated, _, own, seated.welcome (current.trans stays.epoch.symm) free⟩
  refine .act fun fifth stays _ => ⟨(serving.stays stays).seated.unchanging id, ?_⟩
  have serving := serving.stays stays
  split
  · exact refused _ _ _
  · exact .pure fun _ stays _ => serving.stays stays

/-- A handler that checks its binding before it calls the engine. -/
theorem bound_behaves {binding : MutationBinding}
    (own : (tasks thread).sender =
      some ⟨binding.coordinatorEpoch, binding.publisher, binding.publisherBoot⟩)
    {next : Status → Handler Response} (accepted : (next (.ok ())).All Action.Plain)
    (refused : ∀ reason, ∃ response : Response, next (.error reason) = pure response ∧ response.Declines)
    {world : Coordinator onDisk × Unit} (seated : Seated old world) :
    (lawful tasks old).Behaves thread (Answers tasks old thread)
      (validateBinding binding >>= next) world := by
  refine (validateBinding_welcomes own seated).bind fun status later serving => ?_
  cases status with
  | error reason =>
      obtain ⟨response, same, declines⟩ := refused reason
      rw [same]
      exact declines_behaves declines
  | ok => exact serving_behaves accepted (serving rfl)

/-! A registration. -/

theorem completeRegistration_lawful (request : RegisterPublisherRequest) (reply : RegisterPublisherResponse)
    {world : Coordinator onDisk × Unit} (serving : Serving tasks old thread world) :
    (lawful tasks old).Behaves thread (Answers tasks old thread)
      (completeRegistration request reply) world := by
  refine .act fun later stays _ => ?_
  have serving := serving.stays stays
  refine ⟨⟨serving.seated.sits, fun _ => serving.welcome, nofun⟩, .pure fun last stays => ?_⟩
  exact ((serving.stays (perform_stays _ later)).stays stays).answers _

/-- The fence is added once it is persisted. -/
theorem fenceReplaced_lawful (request : RegisterPublisherRequest) (reply : RegisterPublisherResponse)
    (replaced : BootId) {world : Coordinator onDisk × Unit} (serving : Serving tasks old thread world) :
    (lawful tasks old).Behaves thread (Answers tasks old thread)
      (fenceReplaced request reply replaced) world := by
  refine .act fun first stays _ => ⟨(serving.stays stays).seated.unchanging id, ?_⟩
  have serving := serving.stays stays
  refine .act fun second stays _ => ⟨(serving.stays stays).seated.unchanging id, ?_⟩
  have serving := serving.stays stays
  -- What is persisted and what is added is the same fence.
  generalize made :
    ({ publisher := request.publisher, boot := replaced, incarnation := _, reason := _, tick := _ } :
    FenceRecord) = fence
  have short : fence.reason.length ≤ Limits.maxTextLength := by
    rw [← made]
    change (text "replaced by a newer publisher boot incarnation").length ≤ Limits.maxTextLength
    decide
  refine .act fun third stays _ => ?_
  have serving := serving.stays stays
  refine ⟨⟨serving.seated.sits, fun _ => serving.welcome, nofun⟩, ?_⟩
  have persisted := (persistFence_onDisk serving.seated.sits fence).2.2
  have serving := serving.stays (perform_stays (.persistFence fence) third)
  have answers : (perform (.persistFence fence) third.1).1 = (persistFence third.1.engine fence).1 := rfl
  rw [answers]
  cases answered : (persistFence third.1.engine fence).1 with
  | error reason => exact .pure fun last stays => (serving.stays stays).answers _
  | ok =>
      refine .act fun fourth stays _ =>
        ⟨⟨(serving.stays stays).seated.sits, fun _ => (serving.stays stays).welcome, ?_⟩, ?_⟩
      · rintro other same
        cases same
        exact mem_fencesOf_of_prefix (stays.disk serving.seated.sits).2 (persisted answered short)
      · exact completeRegistration_lawful request reply
          ((serving.stays stays).stays (perform_stays _ fourth))

theorem handleRegisterPublisher_lawful {request : RegisterPublisherRequest}
    (own : (tasks thread).sender = some ⟨request.coordinatorEpoch, request.publisher, request.boot⟩)
    {world : Coordinator onDisk × Unit} (seated : Seated old world) :
    (lawful tasks old).Behaves thread (Answers tasks old thread)
      (handleRegisterPublisher request) world := by
  refine .act fun first stays _ => ⟨(seated.stays stays).unchanging id, ?_⟩
  have seated := seated.stays stays
  refine .act fun second stays _ => ⟨(seated.stays stays).unchanging id, ?_⟩
  have seated := seated.stays stays
  have same : second.1.epoch = first.1.epoch := stays.epoch
  split
  · exact declines_behaves rfl
  rename_i current
  rw [not_or, not_ne_iff, not_ne_iff] at current
  have current : request.coordinatorEpoch = second.1.epoch := current.1.trans same.symm
  refine .act fun third stays _ => ⟨(seated.stays stays).unchanging id, ?_⟩
  have seated := seated.stays stays
  split
  · exact declines_behaves rfl
  rename_i free
  have serving : Serving tasks old thread third :=
    ⟨seated, _, own, seated.welcome (current.trans stays.epoch.symm) free⟩
  refine .act fun fourth stays _ => ⟨(serving.stays stays).seated.unchanging id, ?_⟩
  have serving := serving.stays stays
  generalize (perform (.findRegistered request.publisher) fourth.1).1 = registered
  cases registered with
  | none => exact completeRegistration_lawful request _ serving
  | some boot =>
      dsimp only
      split
      · exact completeRegistration_lawful request _ serving
      · exact fenceReplaced_lawful request _ boot serving

/-! All handlers. -/

theorem handleHello_unchanging (request : HelloRequest) :
    (handleHello request).All fun action => ¬ action.Changes := by
  unfold handleHello
  split
  · trivial
  · exact .act id fun _ => .act id fun _ => .act id fun _ => .act id fun _ => trivial

theorem handleQueryRequest_unchanging (toJson : Explanation → Text) (payload : List UInt8) :
    (handleQueryRequest toJson payload).All fun action => ¬ action.Changes := by
  unfold handleQueryRequest
  split
  · trivial
  refine .act id fun plan => ?_
  cases plan with
  | none => trivial
  | some plan =>
      dsimp only
      split
      · exact .act id fun _ => trivial
      · trivial

theorem senderOf_binding {frame : Frame} {type : MessageType}
    (known : ofCode MessageType.all MessageType.code frame.type = some type)
    (other : type ≠ .registerPublisherRequest) {binding : MutationBinding}
    (carried : bindingOf frame = some binding) :
    senderOf frame = some ⟨binding.coordinatorEpoch, binding.publisher, binding.publisherBoot⟩ := by
  unfold senderOf
  rw [known, carried]
  split
  · rename_i same
    exact absurd (Option.some.inj same) other
  · rfl

/-- Frames that name no boot. -/
theorem anonymous_behaves {program : Handler Response}
    (unchanging : program.All fun action => ¬ action.Changes)
    (anonymous : (tasks thread).sender = none) {world : Coordinator onDisk × Unit}
    (seated : Seated old world) :
    (lawful tasks old).Behaves thread (Answers tasks old thread) program world := by
  refine (unchanging_behaves unchanging seated).mono fun _ _ _ sender named => ?_
  rw [anonymous] at named
  cases named

theorem dispatch_lawful (toJson : Explanation → Text) {frame : Frame}
    (own : (tasks thread).sender = senderOf frame)
    {world : Coordinator onDisk × Unit} (seated : Seated old world) :
    (lawful tasks old).Behaves thread (Answers tasks old thread) (dispatch toJson frame) world := by
  have anonymous : ∀ {type : MessageType}, ofCode MessageType.all MessageType.code frame.type = some type →
      type ≠ .registerPublisherRequest → bindingOf frame = none → (tasks thread).sender = none := by
    intro type known other carried
    rw [own]
    unfold senderOf
    rw [known, carried]
    split
    · rename_i same
      exact absurd (Option.some.inj same) other
    · rfl
  unfold dispatch
  split <;> rename_i type
  · split
    · exact declines_behaves trivial
    · refine anonymous_behaves (handleHello_unchanging _) (anonymous type nofun ?_) seated
      unfold bindingOf
      rw [type]
  · split
    · exact declines_behaves trivial
    · rename_i request decoded
      refine handleRegisterPublisher_lawful ?_ seated
      rw [own]
      unfold senderOf
      rw [type]
      dsimp only
      rw [decoded]
      rfl
  · unfold handlePlanRequest
    split
    · exact declines_behaves trivial
    · rename_i request decoded
      refine bound_behaves (own.trans (senderOf_binding type nofun ?_)) ?_ ?_ seated
      · unfold bindingOf
        rw [type]
        dsimp only
        rw [decoded]
        rfl
      · dsimp only
        split
        · exact refuse_plain _
        · exact planSnapshot_plain toJson request _
      · exact fun reason => ⟨_, rfl, ErrorCode.code_ne reason.code⟩
  · unfold handleCommitRequest
    split
    · exact declines_behaves trivial
    · rename_i request decoded
      refine bound_behaves (own.trans (senderOf_binding type nofun ?_)) ?_ ?_ seated
      · unfold bindingOf
        rw [type]
        dsimp only
        rw [decoded]
        rfl
      · exact processCommit_plain request
      · exact fun reason => ⟨_, rfl, ErrorCode.code_ne reason.code⟩
  · unfold handleSupersedeRequest
    dsimp only
    split
    · rename_i reason _
      exact declines_behaves (ErrorCode.code_ne reason.code)
    · rename_i request decoded
      refine bound_behaves (own.trans (senderOf_binding type nofun ?_)) ?_ ?_ seated
      · unfold bindingOf
        rw [type]
        dsimp only
        rw [decoded]
        rfl
      · refine .act id fun superseded => ?_
        cases superseded <;> trivial
      · exact fun reason => ⟨_, rfl, ErrorCode.code_ne reason.code⟩
  · unfold handleRetireRequest
    dsimp only
    split
    · rename_i reason _
      exact declines_behaves (ErrorCode.code_ne reason.code)
    · rename_i request decoded
      refine bound_behaves (own.trans (senderOf_binding type nofun ?_)) ?_ ?_ seated
      · unfold bindingOf
        rw [type]
        dsimp only
        rw [decoded]
        rfl
      · refine .act id fun retired => ?_
        cases retired <;> trivial
      · exact fun reason => ⟨_, rfl, ErrorCode.code_ne reason.code⟩
  · refine anonymous_behaves (handleQueryRequest_unchanging toJson _) (anonymous type nofun ?_) seated
    unfold bindingOf
    rw [type]
  · have silent : (pure .pong : Handler Response).All fun action => ¬ action.Changes := trivial
    refine anonymous_behaves silent (anonymous type nofun ?_) seated
    unfold bindingOf
    rw [type]
  · exact declines_behaves trivial

/-- What a thread has to show for itself when it is done. -/
def Done (tasks : Thread → Task) (old : List FenceRecord) (thread : Thread) (value : Option Response)
    (world : Coordinator onDisk × Unit) : Prop :=
  ∀ response, value = some response → Answers tasks old thread response world

theorem program_lawful (toJson : Explanation → Text) {world : Coordinator onDisk × Unit}
    (seated : Seated old world) :
    (lawful tasks old).Behaves thread (Done tasks old thread) ((tasks thread).program toJson) world := by
  cases task : tasks thread with
  | handle frame =>
      have own : (tasks thread).sender = senderOf frame := by rw [task]; rfl
      refine .map some ((dispatch_lawful toJson own seated).mono fun response later answers => ?_)
      intro other same
      cases same
      exact answers
  | stop =>
      refine .act fun later stays _ => ⟨(seated.stays stays).unchanging id, ?_⟩
      exact .pure fun _ _ _ absent => by cases absent

end Threads

end Coordinator

end TrafficFabric
